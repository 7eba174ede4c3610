import Muster.Error

/-!
What the command line shows: the machines of a cluster, and errors. Colours are
terminal control sequences around a text and can be left out.
-/

namespace Muster.Console

inductive Style where
  | bold
  | dimmed
  | green
  | yellow
  | cyan
  | boldRed

def Style.code : Style → String
  | .bold => "1"
  | .dimmed => "2"
  | .green => "32"
  | .yellow => "33"
  | .cyan => "36"
  | .boldRed => "1;31"

def styled (colours : Bool) (style : Style) (text : String) : String :=
  if colours then "\x1b[" ++ style.code ++ "m" ++ text ++ "\x1b[0m" else text

def instanceLine (colours : Bool) (machine : Instance) : String :=
  "  " ++ styled colours .cyan machine.id ++ "  " ++ styled colours .yellow machine.roles.text ++
    "  " ++ machine.node.publicIp.getD "-" ++ "  " ++ machine.node.privateIp.getD "-" ++ "\n"

def clusterText (colours : Bool) (cluster : Cluster) : String :=
  styled colours .bold cluster.name ++ " " ++
    styled colours .dimmed ("(" ++ toString cluster.size ++ " instances)") ++ "\n" ++
    String.join (cluster.instances.map (instanceLine colours))

def errorText (colours : Bool) (error : Error) : String :=
  let report := match error with
    | .launch failure => match failure.report? with
      | some report => report.text ++ "\n"
      | none => ""
    | _ => ""
  styled colours .boldRed "err!" ++ " " ++ error.message ++ "\n" ++ report

def logDirective (verbosity : Nat) : String :=
  match verbosity with
  | 0 => "stratus=info,warn"
  | 1 => "stratus=debug,info"
  | _ => "trace"

end Muster.Console
