import Muster.Environment
import Muster.Error

/-!
What a role contributes to the phases of its cluster. Every role has a handler;
the handler is called before and after each phase with the phase in progress,
which it may change, and may fail.
-/

namespace Muster

/-- A phase in progress as hooks see it: the cluster, the firewall rules, the
statements queued so far, and the provider. Before BOOTSTRAP the cluster is empty. -/
structure PhaseEvent (σ : Type) where
  cluster : Cluster
  firewall : Firewall
  queue : StatementQueue
  provider : σ

abbrev HookAction (σ : Type) := Topology → PhaseEvent σ → Except Error Unit × PhaseEvent σ

namespace HookAction

def nothing {σ : Type} : HookAction σ := fun _ event => (.ok (), event)

end HookAction

structure Handler (σ : Type) where
  role : String
  disallowed : List String
  hook : Hook → Phase → HookAction σ

namespace Handler

variable {σ : Type}

def idle (role : String) : Handler σ := ⟨role, [], fun _ _ => .nothing⟩

end Handler

abbrev Registry (σ : Type) := SortedMap String (Handler σ)

namespace Registry

variable {σ : Type}

def register (registry : Registry σ) (handler : Handler σ) : Registry σ :=
  registry.insert handler.role handler

def ofHandlers (handlers : List (Handler σ)) : Registry σ := handlers.foldl register SortedMap.empty

def resolve (registry : Registry σ) (roles : RoleSet) : Except ConfigError (List (Handler σ)) :=
  roles.toList.mapM fun role =>
    match registry.get? role with
    | none => .error (.noHandler role)
    | some handler => .ok handler

end Registry

end Muster
