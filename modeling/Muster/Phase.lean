/-!
The phases of a cluster's life and the two moments of a phase at which the
handler of a role is called.
-/

namespace Muster

inductive Phase where
  | bootstrap
  | configure
  | start
  | stop
  | cleanup
  deriving DecidableEq, Repr

namespace Phase

def all : List Phase := [.bootstrap, .configure, .start, .stop, .cleanup]

def name : Phase → String
  | bootstrap => "BOOTSTRAP"
  | configure => "CONFIGURE"
  | start => "START"
  | stop => "STOP"
  | cleanup => "CLEANUP"

def ofName? (text : String) : Option Phase := all.find? fun phase => phase.name = text

theorem ofName?_name (phase : Phase) : ofName? phase.name = some phase := by
  cases phase <;> decide

def verb : Phase → String
  | bootstrap => "install"
  | configure => "configure"
  | start => "start"
  | stop => "stop"
  | cleanup => "cleanup"

def functionKey : Phase → String
  | bootstrap => "bootstrap-function"
  | configure => "configure-function"
  | start => "start-function"
  | stop => "stop-function"
  | cleanup => "cleanup-function"

end Phase

inductive Hook where
  | before
  | after
  deriving DecidableEq, Repr

def Hook.name : Hook → String
  | .before => "before"
  | .after => "after"

end Muster
