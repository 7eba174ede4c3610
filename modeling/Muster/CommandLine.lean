import Muster.Controller

/-!
Reading a command line. It names a subcommand and gives options, some of which take
a value: the rest of the same argument, or the next argument. What an option's value
is worth is looked at when the next option comes, or at the end of the line, so that
an argument that is not understood is complained of first.
-/

namespace Muster

inductive UsageError where
  | helpWanted
  | versionWanted
  | nothingWanted
  | missingSubcommand
  | invalidSubcommand
  | unknownArgument
  | missingArgument
  | invalidValue
  | repeatedOption
  | unwantedValue
  deriving DecidableEq, Repr

structure CommandLine where
  operation : Operation
  verbosity : Nat
  config : String
  clusterName : Option String
  deriving DecidableEq, Repr

def Operation.all : List Operation := [.launch, .configure, .start, .stop, .destroy, .list]

def Operation.subcommand : Operation → String
  | launch => "launch"
  | configure => "configure"
  | start => "start"
  | stop => "stop"
  | destroy => "destroy"
  | list => "list-instances"

def Operation.ofSubcommand? (text : String) : Option Operation :=
  all.find? fun operation => operation.subcommand = text

namespace CommandLine

def helpSubcommand : String := "help"

inductive Valued where
  | config
  | clusterName
  deriving DecidableEq, Repr

/-- Whether options stand before the subcommand or after it, which decides on the
ones that are known. -/
inductive Position where
  | before
  | after
  deriving DecidableEq, Repr

structure Options where
  verbosity : Nat
  config : Option String
  clusterName : Option String
  pending : Option (Valued × Option String)
  deriving DecidableEq, Repr

namespace Options

def none : Options := ⟨0, .none, .none, .none⟩

def maxVerbosity : Nat := 255

def assign (option : Valued) (value : String) (options : Options) : Except UsageError Options :=
  match option with
  | .config =>
      if options.config.isSome then .error .repeatedOption
      else if value = "" then .error .invalidValue
      else .ok { options with config := value }
  | .clusterName =>
      if options.clusterName.isSome then .error .repeatedOption
      else .ok { options with clusterName := value }

def settle (options : Options) : Except UsageError Options :=
  match options.pending with
  | .none => .ok options
  | some (_, .none) => .error .invalidValue
  | some (option, some value) => assign option value { options with pending := .none }

def begin (option : Valued) (value : Option String) (options : Options) :
    Except UsageError Options :=
  match options.settle with
  | .error error => .error error
  | .ok settled =>
      match value with
      | some value => assign option value settled
      | .none => .ok { settled with pending := some (option, .none) }

def raiseVerbosity (options : Options) : Except UsageError Options :=
  options.settle.map fun settled =>
    { settled with verbosity := min (settled.verbosity + 1) maxVerbosity }

def stopWith (error : UsageError) (options : Options) : Except UsageError Options :=
  match options.settle with
  | .error earlier => .error earlier
  | .ok _ => .error error

def flag (value : Option String) (act : Options → Except UsageError Options) (options : Options) :
    Except UsageError Options :=
  if value.isSome then .error .unwantedValue else act options

def readLong (position : Position) (name : String) (value : Option String) (options : Options) :
    Except UsageError Options :=
  if name = "verbose" then options.flag value raiseVerbosity
  else if name = "help" then options.flag value (stopWith .helpWanted)
  else
    match position with
    | .before =>
        if name = "version" then options.flag value (stopWith .versionWanted)
        else .error .unknownArgument
    | .after =>
        if name = "config" then options.begin .config value
        else if name = "cluster-name" then options.begin .clusterName value
        else .error .unknownArgument

def attachedValue : List Char → Option String
  | [] => .none
  | '=' :: rest => some (.ofList rest)
  | rest => some (.ofList rest)

/-- Options by their letters; what follows the letter of one that takes a value is its
value. -/
def readLetters (position : Position) : List Char → Options → Except UsageError Options
  | [], options => .ok options
  | letter :: rest, options =>
      if letter = 'v' then
        match options.raiseVerbosity with
        | .error error => .error error
        | .ok raised => readLetters position rest raised
      else if letter = 'h' then options.stopWith .helpWanted
      else
        match position with
        | .before => if letter = 'V' then options.stopWith .versionWanted else .error .unknownArgument
        | .after =>
            if letter = 'c' then options.begin .config (attachedValue rest)
            else .error .unknownArgument

end Options

inductive Argument where
  | escape
  | long (name : String) (value : Option String)
  | letters (letters : List Char)
  | plain (text : String)
  deriving DecidableEq, Repr

def Argument.ofText (text : String) : Argument :=
  match text.toList with
  | ['-', '-'] => .escape
  | '-' :: '-' :: rest =>
      let name := rest.takeWhile (· ≠ '=')
      .long (.ofList name)
        (match rest.dropWhile (· ≠ '=') with
        | [] => none
        | _ :: value => some (.ofList value))
  | '-' :: letter :: rest => .letters (letter :: rest)
  | _ => .plain text

/-- What options come to after a subcommand; verbosity counts where it was given last. -/
def finish (operation : Operation) (before : Nat) (options : Options) :
    Except UsageError CommandLine :=
  match options.settle with
  | .error error => .error error
  | .ok settled =>
      match settled.config with
      | none => .error .missingArgument
      | some config =>
          let verbosity := if settled.verbosity = 0 then before else settled.verbosity
          .ok ⟨operation, verbosity, config, settled.clusterName⟩

def readAfter (operation : Operation) (before : Nat) :
    List String → Options → Except UsageError CommandLine
  | [], options => finish operation before options
  | text :: rest, options =>
      match Argument.ofText text with
      | .escape => if rest.isEmpty then finish operation before options else .error .unknownArgument
      | .long name value =>
          match options.readLong .after name value with
          | .error error => .error error
          | .ok options => readAfter operation before rest options
      | .letters letters =>
          match options.readLetters .after letters with
          | .error error => .error error
          | .ok options => readAfter operation before rest options
      | .plain value =>
          match options.pending with
          | some (option, none) =>
              readAfter operation before rest { options with pending := some (option, some value) }
          | _ => .error .unknownArgument

def readHelp (topics : List String) : UsageError :=
  match topics with
  | [] => .helpWanted
  | [topic] =>
      if topic = helpSubcommand || (Operation.ofSubcommand? topic).isSome then .helpWanted
      else .invalidSubcommand
  | _ => .invalidSubcommand

def complaint (escaped : Bool) (text : String) : UsageError :=
  if escaped && (text = helpSubcommand || (Operation.ofSubcommand? text).isSome) then .unknownArgument
  else .invalidSubcommand

def withoutSubcommand (options : Options) : UsageError :=
  if options.verbosity = 0 then .nothingWanted else .missingSubcommand

def readBefore : List String → Options → Except UsageError CommandLine
  | [], options => .error (withoutSubcommand options)
  | text :: rest, options =>
      if text = helpSubcommand then .error (readHelp rest)
      else
        match Operation.ofSubcommand? text with
        | some operation => readAfter operation options.verbosity rest .none
        | none =>
            match Argument.ofText text with
            | .escape =>
                match rest with
                | [] => .error (withoutSubcommand options)
                | other :: _ => .error (complaint true other)
            | .long name value =>
                match options.readLong .before name value with
                | .error error => .error error
                | .ok options => readBefore rest options
            | .letters letters =>
                match options.readLetters .before letters with
                | .error error => .error error
                | .ok options => readBefore rest options
            | .plain other => .error (complaint false other)

def read (args : List String) : Except UsageError CommandLine := readBefore args .none

end CommandLine

end Muster
