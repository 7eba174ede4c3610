import Mathlib.Algebra.Ring.Nat
import Muster.Proofs.Simulation.Refusals

/-!
A journal of the requests to the simulated provider, and how its books grow with the journal. What is
noted are the faults that were asked for, how each creation came to an end and which machines were to be
destroyed. A creation is two requests, so that others may come in between; a batch is as many creations.
-/

namespace Muster

theorem Provider.length_createMany {σ : Type} (provider : Provider σ) (spec : InstanceSpec) (count : Nat) (state : σ) :
    (provider.createMany spec count state).1.length = count := by
  induction count generalizing state with
  | zero => rfl
  | succ count ih => exact congrArg Nat.succ (ih _)

namespace Simulation

/-! ### Requests -/

inductive Request where
  | failNext (roles : RoleSet) (count : Nat)
  | failAlways (roles : RoleSet)
  | failReady (roles : RoleSet) (count : Nat)
  | failStatements (role : String)
  | failResolve (fails : Bool)
  | setDelay (millis : Nat)
  | beginCreate
  | finishCreate (spec : InstanceSpec)
  | dropCreate
  | checkReady (id : String)
  | destroy (ids : List String)
  | resolveHosts (id : String)
  | runScript (id : String) (script : Script)
  | authorize (targets : List IngressTarget)

inductive Entry where
  | failNext (roles : RoleSet) (count : Nat)
  | failAlways (roles : RoleSet)
  | completed (roles : RoleSet) (result : Except ProviderError Node)
  | destroyed (ids : List String)

def Request.answer (simulation : Simulation) : Request → List Entry × Simulation
  | failNext roles count => ([.failNext roles count], simulation.failNext roles count)
  | failAlways roles => ([.failAlways roles], simulation.failAlways roles)
  | failReady roles count => ([], simulation.failReady roles count)
  | failStatements role => ([], simulation.failStatements role)
  | failResolve fails => ([], simulation.failResolve fails)
  | setDelay millis => ([], simulation.setDelay millis)
  | beginCreate => ([], simulation.beginCreate.2)
  | finishCreate spec =>
      let (result, simulation) := simulation.finishCreate spec
      ([.completed spec.roles result], simulation)
  | dropCreate => ([], simulation.dropCreate)
  | checkReady id => ([], (simulation.checkReady id).2)
  | destroy ids => ([.destroyed ids], (simulation.destroy ids).2)
  | resolveHosts id => ([], (simulation.resolveHosts id).2)
  | runScript id script => ([], (simulation.runScript id script).2)
  | authorize targets => ([], (simulation.authorize targets).2)

inductive Call where
  | one (request : Request)
  | createMany (spec : InstanceSpec) (count : Nat)

namespace Call

def weight : Call → Nat
  | one _ => 1
  | createMany _ count => count

def serve (simulation : Simulation) : Call → List Entry × Simulation
  | one request => request.answer simulation
  | createMany spec count =>
      let (results, simulation) := provider.createMany spec count simulation
      ((results.filterMap id).map (.completed spec.roles), simulation)

def requests : Call → List Request
  | one request => [request]
  | createMany spec count => (List.replicate count [.beginCreate, .finishCreate spec]).flatten

end Call

def journal {ρ : Type} (serve : Simulation → ρ → List Entry × Simulation) : List ρ → Simulation → List Entry × Simulation
  | [], simulation => ([], simulation)
  | item :: rest, simulation =>
      let (entries, simulation) := serve simulation item
      let (more, simulation) := journal serve rest simulation
      (entries ++ more, simulation)

theorem journal_append {ρ : Type} (serve : Simulation → ρ → List Entry × Simulation) (items more : List ρ)
    (simulation : Simulation) : journal serve (items ++ more) simulation =
      ((journal serve items simulation).1 ++ (journal serve more (journal serve items simulation).2).1,
        (journal serve more (journal serve items simulation).2).2) := by
  induction items generalizing simulation with
  | nil => rfl
  | cons item rest ih => simp only [List.cons_append, journal, ih, List.append_assoc]

/-! ### Readings of the journal -/

def Entry.node? : Entry → Option Node
  | completed _ (.ok node) => some node
  | _ => none

def Entry.destroyedIds : Entry → List String
  | destroyed ids => ids
  | _ => []

def Entry.outcome? (roles : RoleSet) : Entry → Option Bool
  | completed other result => if other = roles then some result.isOk else none
  | _ => none

def Entry.faultFor? : Entry → Option RoleSet
  | failNext roles _ | failAlways roles => some roles
  | _ => none

def Call.faultFor? : Call → Option RoleSet
  | one (.failNext roles _) | one (.failAlways roles) => some roles
  | _ => none

def Entry.signal? (roles : RoleSet) : Entry → Option Signal
  | failNext other count => if other = roles then some (.failNext count) else none
  | failAlways other => if other = roles then some .failAlways else none
  | completed other _ => if other = roles then some .completion else none
  | destroyed _ => none

def Request.signal? (roles : RoleSet) : Request → Option Signal
  | failNext other count => if other = roles then some (.failNext count) else none
  | failAlways other => if other = roles then some .failAlways else none
  | finishCreate spec => if spec.roles = roles then some .completion else none
  | _ => none

def nodesIn (entries : List Entry) : List Node := entries.filterMap Entry.node?

def destroyedIn (entries : List Entry) : List String := entries.flatMap Entry.destroyedIds

def outcomesIn (roles : RoleSet) (entries : List Entry) : List Bool := entries.filterMap (Entry.outcome? roles)

def signalsIn (roles : RoleSet) (entries : List Entry) : List Signal := entries.filterMap (Entry.signal? roles)

section
variable (roles : RoleSet) (entries more : List Entry)

theorem nodesIn_append : nodesIn (entries ++ more) = nodesIn entries ++ nodesIn more := List.filterMap_append

theorem destroyedIn_append : destroyedIn (entries ++ more) = destroyedIn entries ++ destroyedIn more :=
  List.flatMap_append

theorem outcomesIn_append : outcomesIn roles (entries ++ more) = outcomesIn roles entries ++ outcomesIn roles more :=
  List.filterMap_append

theorem signalsIn_append : signalsIn roles (entries ++ more) = signalsIn roles entries ++ signalsIn roles more :=
  List.filterMap_append

end

/-! ### What requests write -/

structure Plain (simulation : Simulation) : Prop extends Calm simulation where
  publicIp : simulation.faults.hidePublicIp = false
  privateIp : simulation.faults.hidePrivateIp = false

def Numbered (first : Nat) (nodes : List Node) : Prop :=
  nodes.map (fun node => (node.id, node.publicIp, node.privateIp)) =
    (List.range' (first + 1) nodes.length).map fun number =>
      (machineId number, some (publicAddress number), some (privateAddress number))

structure Writes (before : Simulation) (entries : List Entry) (after : Simulation) : Prop where
  plain : after.Plain
  created : after.created = before.created ++ nodesIn entries
  sequence : after.sequence = before.sequence + (nodesIn entries).length
  numbered : Numbered before.sequence (nodesIn entries)
  destroyed : after.destroyed = markDestroyed before.destroyed (destroyedIn entries)
  attempts : ∀ roles, after.attemptsFor roles = before.attemptsFor roles + (outcomesIn roles entries).length
  refusals : ∀ roles, after.refusalsFor roles = (signalsIn roles entries).foldl Refusals.next (before.refusalsFor roles)
  outcomes : ∀ roles, outcomesIn roles entries = (before.refusalsFor roles).outcomes (signalsIn roles entries)

variable {before middle after : Simulation} {entries more : List Entry}

theorem Numbered.append {first : Nat} {nodes others : List Node} (numbered : Numbered first nodes)
    (onward : Numbered (first + nodes.length) others) : Numbered first (nodes ++ others) := by
  have ends : first + 1 + 1 * nodes.length = first + nodes.length + 1 := by omega
  rw [Numbered, List.map_append, numbered, onward, List.length_append, ← List.range'_append, List.map_append, ends]

theorem Writes.trans (writes : Writes before entries middle) (onward : Writes middle more after) :
    Writes before (entries ++ more) after where
  plain := onward.plain
  created := by rw [onward.created, writes.created, nodesIn_append, List.append_assoc]
  sequence := by rw [onward.sequence, writes.sequence, nodesIn_append, List.length_append, Nat.add_assoc]
  numbered := by
    have next := onward.numbered
    rw [writes.sequence] at next
    rw [nodesIn_append]
    exact writes.numbered.append next
  destroyed := by
    rw [onward.destroyed, writes.destroyed, destroyedIn_append]
    exact List.foldl_append.symm
  attempts roles := by
    rw [onward.attempts, writes.attempts, outcomesIn_append, List.length_append, Nat.add_assoc]
  refusals roles := by rw [onward.refusals, writes.refusals, signalsIn_append, List.foldl_append]
  outcomes roles := by
    have next := onward.outcomes roles
    rw [writes.refusals] at next
    rw [outcomesIn_append, signalsIn_append, Refusals.outcomes_append, next, writes.outcomes]

theorem Writes.nothing (plain : after.Plain) (created : after.created = before.created)
    (sequence : after.sequence = before.sequence) (destroyed : after.destroyed = before.destroyed)
    (attempts : after.attempts = before.attempts)
    (refusals : ∀ roles, after.refusalsFor roles = before.refusalsFor roles) : Writes before [] after where
  plain := plain
  created := by rw [created]; exact (List.append_nil _).symm
  sequence := sequence
  numbered := rfl
  destroyed := destroyed
  attempts roles := by rw [attemptsFor, attempts]; rfl
  refusals := refusals
  outcomes _ := rfl

theorem Plain.of_faults (plain : before.Plain) (same : after.faults = before.faults) : after.Plain :=
  ⟨⟨same ▸ plain.crashes, same ▸ plain.destroys⟩, same ▸ plain.publicIp, same ▸ plain.privateIp⟩

theorem Plain.setDue (plain : before.Plain) (roles : RoleSet) (due : DueFailures) : (before.setDue roles due).Plain :=
  ⟨⟨plain.crashes, plain.destroys⟩, plain.publicIp, plain.privateIp⟩

-- Failures of readiness checks are none of the creations' business.
theorem writes_ready (plain : before.Plain) (roles : RoleSet) (count : Nat) :
    Writes before [] (before.setDue roles { before.dueFor roles with ready := count }) := by
  refine .nothing (plain.setDue roles _) rfl rfl rfl rfl fun other => ?_
  rw [refusalsFor_setDue]
  split
  · rename_i same
    rw [same]
    rfl
  · rfl

-- A fault that is asked for is told to the creations for its role set only.
theorem writes_fault (plain : before.Plain) {roles : RoleSet} {due : DueFailures} {entry : Entry} {signal : Signal}
    (node : entry.node? = none) (ids : entry.destroyedIds = []) (outcome : ∀ other, entry.outcome? other = none)
    (told : ∀ other, entry.signal? other = if roles = other then some signal else none)
    (silent : ∀ left : Refusals, left.outcomes [signal] = [])
    (next : (before.refusalsFor roles).next signal = ⟨due.create, due.createAlways⟩) :
    Writes before [entry] (before.setDue roles due) where
  plain := plain.setDue roles due
  created := by simp [nodesIn, node, Simulation.setDue]
  sequence := by simp [nodesIn, node, Simulation.setDue]
  numbered := by simp [Numbered, nodesIn, node]
  destroyed := by simp [destroyedIn, ids, Simulation.setDue, markDestroyed]
  attempts other := by simp [outcomesIn, outcome, Simulation.setDue, attemptsFor]
  refusals other := by
    rw [refusalsFor_setDue]
    by_cases same : roles = other
    · subst same
      simp [signalsIn, told, next]
    · simp [signalsIn, told, same, Ne.symm same]
  outcomes other := by
    by_cases same : roles = other <;> simp [outcomesIn, signalsIn, told, outcome, same, silent, Refusals.outcomes]

theorem writes_failNext (plain : before.Plain) (roles : RoleSet) (count : Nat) :
    Writes before [.failNext roles count] (before.failNext roles count) :=
  writes_fault plain rfl rfl (fun _ => rfl) (fun _ => rfl) (fun _ => rfl) rfl

theorem writes_failAlways (plain : before.Plain) (roles : RoleSet) :
    Writes before [.failAlways roles] (before.failAlways roles) :=
  writes_fault plain rfl rfl (fun _ => rfl) (fun _ => rfl) (fun _ => rfl) rfl

theorem writes_destroy (plain : before.Plain) (ids : List String) :
    Writes before [.destroyed ids] (before.destroy ids).2 := by
  rw [destroy_calm plain.toCalm]
  exact {
    plain := plain.of_faults rfl
    created := (List.append_nil _).symm
    sequence := rfl
    numbered := rfl
    destroyed := by simp [destroyedIn, Entry.destroyedIds]
    attempts := fun _ => rfl
    refusals := fun _ => rfl
    outcomes := fun _ => rfl }

theorem writes_completed {roles : RoleSet} {result : Except ProviderError Node} (plain : after.Plain)
    (created : after.created = before.created ++ result.toOption.toList)
    (sequence : after.sequence = before.sequence + result.toOption.toList.length)
    (numbered : Numbered before.sequence result.toOption.toList) (destroyed : after.destroyed = before.destroyed)
    (attempts : after.attempts = before.attempts.modify roles 0 (· + 1))
    (here : after.refusalsFor roles = (before.refusalsFor roles).next .completion)
    (elsewhere : ∀ other, roles ≠ other → after.refusalsFor other = before.refusalsFor other)
    (accepts : result.isOk = (before.refusalsFor roles).accepts) :
    Writes before [.completed roles result] after := by
  have nodes : nodesIn [.completed roles result] = result.toOption.toList := by
    cases result <;> rfl
  exact {
    plain
    created := by rw [created, nodes]
    sequence := by rw [sequence, nodes]
    numbered := by rw [nodes]; exact numbered
    destroyed
    attempts := fun other => by
      by_cases same : roles = other
      · subst same
        simp [attemptsFor, attempts, SortedMap.modify, SortedMap.getD, outcomesIn, Entry.outcome?]
      · simp [attemptsFor, attempts, SortedMap.modify, SortedMap.getD, outcomesIn, Entry.outcome?, same, Ne.symm same]
    refusals := fun other => by
      by_cases same : roles = other
      · subst same
        simp [signalsIn, Entry.signal?, here]
      · simp [signalsIn, Entry.signal?, same, elsewhere other same]
    outcomes := fun other => by
      by_cases same : roles = other
      · subst same
        simp [outcomesIn, signalsIn, Entry.signal?, Entry.outcome?, accepts, Refusals.outcomes]
      · simp [outcomesIn, signalsIn, Entry.signal?, Entry.outcome?, same, Refusals.outcomes] }

theorem writes_finishCreate (plain : before.Plain) (spec : InstanceSpec) :
    Writes before [.completed spec.roles (before.finishCreate spec).1] (before.finishCreate spec).2 := by
  have unchanged : before.created = before.created ++ [] := (List.append_nil _).symm
  obtain ⟨due, answer⟩ | ⟨undue, due, answer⟩ | ⟨undue, none, answer⟩ := before.finishCreate_cases spec <;> rw [answer]
  · have always : (before.refusalsFor spec.roles).always = true := due
    refine writes_completed (plain.of_faults rfl) unchanged rfl rfl rfl rfl ?_ (fun _ _ => rfl) ?_
    · exact (Refusals.next_of_always always).symm
    · simp [Refusals.accepts, always, Except.isOk, Except.toBool]
  · have sometimes : (before.refusalsFor spec.roles).always = false := undue
    have left : (before.refusalsFor spec.roles).count ≠ 0 := Nat.ne_of_gt due
    refine writes_completed ((plain.setDue spec.roles _).of_faults rfl) unchanged rfl rfl rfl rfl ?_ ?_ ?_
    · rw [refusalsFor_setDue, if_pos rfl, Refusals.next, if_neg (Bool.eq_false_iff.mp sometimes)]
      rfl
    · intro other different
      rw [refusalsFor_setDue, if_neg (Ne.symm different)]
      rfl
    · simp [Refusals.accepts, left, Except.isOk, Except.toBool]
  · have sometimes : (before.refusalsFor spec.roles).always = false := undue
    have spent : (before.refusalsFor spec.roles).count = 0 := none
    refine writes_completed (plain.of_faults rfl) ?_ rfl ?_ rfl rfl ?_ (fun _ _ => rfl) ?_
    · simp [shown, plain.publicIp, plain.privateIp, launch, ended, dropCreate, Except.toOption]
    · simp [Numbered, shown, plain.publicIp, plain.privateIp, Except.toOption, nodeNumbered, machineId, publicAddress,
        privateAddress, host]
    · exact (Refusals.next_of_spent spent).symm
    · simp [Refusals.accepts, sometimes, spent, Except.isOk, Except.toBool]

theorem Request.writes (plain : before.Plain) (request : Request) :
    Writes before (request.answer before).1 (request.answer before).2 := by
  cases request with
  | failNext roles count => exact writes_failNext plain roles count
  | failAlways roles => exact writes_failAlways plain roles
  | failReady roles count => exact writes_ready plain roles count
  | finishCreate spec => exact writes_finishCreate plain spec
  | destroy ids => exact writes_destroy plain ids
  | checkReady id =>
      rw [answer]
      obtain ⟨_, answer⟩ | ⟨roles, _, ⟨_, answer⟩ | ⟨_, answer⟩⟩ := before.checkReady_cases id <;> rw [answer]
      · exact .nothing plain rfl rfl rfl rfl fun _ => rfl
      · exact writes_ready plain roles _
      · exact .nothing plain rfl rfl rfl rfl fun _ => rfl
  | beginCreate =>
      simp only [answer, beginCreate_calm plain.toCalm]
      exact .nothing (plain.of_faults rfl) rfl rfl rfl rfl fun _ => rfl
  | resolveHosts | runScript | authorize =>
      simp only [answer, Simulation.resolveHosts, Simulation.runScript, Simulation.authorize]
      repeat' split
      all_goals exact .nothing (plain.of_faults rfl) rfl rfl rfl rfl fun _ => rfl
  | dropCreate => exact .nothing (plain.of_faults rfl) rfl rfl rfl rfl fun _ => rfl
  | failStatements | failResolve | setDelay =>
      exact .nothing ⟨⟨plain.crashes, plain.destroys⟩, plain.publicIp, plain.privateIp⟩ rfl rfl rfl rfl fun _ => rfl

/-! ### Runs -/

theorem journal_writes (plain : before.Plain) (requests : List Request) :
    Writes before (journal Request.answer requests before).1 (journal Request.answer requests before).2 := by
  induction requests generalizing before with
  | nil => exact .nothing plain rfl rfl rfl rfl fun _ => rfl
  | cons request rest ih =>
      have first := request.writes plain
      exact first.trans (ih first.plain)

theorem create_plain (plain : before.Plain) (spec : InstanceSpec) : provider.create spec before =
    (some (before.beginCreate.2.finishCreate spec).1, (before.beginCreate.2.finishCreate spec).2) := by
  simp only [Provider.create, provider, beginCreate_calm plain.toCalm]

theorem plain_create (plain : before.Plain) (spec : InstanceSpec) : (provider.create spec before).2.Plain := by
  rw [create_plain plain]
  have begun := (Request.beginCreate.writes plain).plain
  exact ((Request.finishCreate spec).writes begun).plain

theorem isSome_createMany (plain : before.Plain) (spec : InstanceSpec) (count : Nat) :
    ∀ result ∈ (provider.createMany spec count before).1, result.isSome := by
  induction count generalizing before with
  | zero => exact fun _ member => nomatch member
  | succ count ih =>
      have answered : (provider.create spec before).1.isSome := by
        rw [create_plain plain]
        rfl
      exact List.forall_mem_cons.mpr ⟨answered, ih (plain_create plain spec)⟩

-- A batch is its creations one after the other.
theorem serve_createMany (plain : before.Plain) (spec : InstanceSpec) (count : Nat) :
    (Call.createMany spec count).serve before = journal Request.answer (Call.createMany spec count).requests before := by
  induction count generalizing before with
  | zero => rfl
  | succ count ih =>
      have rest := ih (plain_create plain spec)
      simp only [create_plain plain, Call.serve, Call.requests] at rest
      simp only [Call.serve, Call.requests, Provider.createMany, create_plain plain, List.replicate_succ, List.flatten_cons,
        List.cons_append, List.nil_append, journal, Request.answer, ← rest]
      rfl

theorem Call.serve_eq (plain : before.Plain) (call : Call) :
    call.serve before = journal Request.answer call.requests before := by
  cases call with
  | one request => simp [serve, requests, journal]
  | createMany spec count => exact serve_createMany plain spec count

theorem journal_calls (plain : before.Plain) (calls : List Call) :
    journal Call.serve calls before = journal Request.answer (calls.flatMap Call.requests) before := by
  induction calls generalizing before with
  | nil => rfl
  | cons call rest ih =>
      have served := (journal_writes plain call.requests).plain
      rw [List.flatMap_cons, journal_append, ← ih served, ← call.serve_eq plain]
      rfl

theorem Call.length_serve (simulation : Simulation) (call : Call) : (call.serve simulation).1.length ≤ call.weight := by
  cases call with
  | one request => cases request <;> simp [serve, Request.answer, weight]
  | createMany spec count =>
      calc ((createMany spec count).serve simulation).1.length
        _ = ((provider.createMany spec count simulation).1.filterMap id).length := List.length_map _
        _ ≤ (provider.createMany spec count simulation).1.length := List.length_filterMap_le _ _
        _ = count := provider.length_createMany spec count simulation

theorem length_journal (calls : List Call) (simulation : Simulation) :
    (journal Call.serve calls simulation).1.length ≤ (calls.map Call.weight).sum := by
  induction calls generalizing simulation with
  | nil => exact Nat.le_refl 0
  | cons call rest ih =>
      simp only [journal, List.length_append, List.map_cons, List.sum_cons]
      exact Nat.add_le_add (call.length_serve simulation) (ih _)

theorem Request.signals (roles : RoleSet) (simulation : Simulation) (request : Request) :
    signalsIn roles (request.answer simulation).1 = (request.signal? roles).toList := by
  cases request <;> rfl

-- The signals are told by the requests, whatever they are answered.
theorem signalsIn_journal (roles : RoleSet) (requests : List Request) (simulation : Simulation) :
    signalsIn roles (journal Request.answer requests simulation).1 = requests.filterMap (Request.signal? roles) := by
  induction requests generalizing simulation with
  | nil => rfl
  | cons request rest ih =>
      rw [journal, signalsIn_append, request.signals, ih]
      cases told : request.signal? roles <;> simp [told]

end Simulation

end Muster
