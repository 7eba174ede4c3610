/-!
What a machine runs: exported variables and then statements, one to a line.
-/

namespace Muster

inductive Statement where
  | call (function : String) (args : List String)
  | raw (line : String)
  deriving DecidableEq, Repr

namespace Statement

def function (name : String) : Statement := call name []

def text : Statement → String
  | call name args => " ".intercalate (name :: args)
  | raw line => line

def isCall : Statement → Bool
  | call _ _ => true
  | raw _ => false

end Statement

structure Script where
  exports : List (String × String)
  statements : List Statement
  deriving DecidableEq

def escapeValue (value : List Char) : List Char :=
  value.flatMap fun c => if c = '"' then ['\\', '"'] else [c]

def exportLine (key value : String) : String :=
  "export " ++ key ++ "=\"" ++ .ofList (escapeValue value.toList) ++ "\"\n"

namespace Script

def empty : Script := ⟨[], []⟩

/-- A script without statements runs nothing, whatever it exports. -/
def isEmpty (script : Script) : Bool := script.statements.isEmpty

def render (script : Script) : String :=
  String.join (script.exports.map fun (key, value) => exportLine key value) ++
    String.join (script.statements.map fun statement => statement.text ++ "\n")

end Script

end Muster
