import Mathlib.Data.Bool.Count
import Muster.Proofs.FirstOccurrences
import Muster.Proofs.Simulation.Journal

/-!
The books of the simulated provider agree with its journal at any time, and creations fail where they
were told to and nowhere else: how those for a role set end depends on the requests for this role set
alone.
-/

namespace Muster.Simulation

variable {after : Simulation} {entries more : List Entry}

/-! ### Creations for one role set -/

-- Faults for one role set are no signals for another.
theorem signals_without_faults {roles other : RoleSet} (different : roles ≠ other) (calls : List Call) :
    ((calls.filter fun call => call.faultFor? ≠ some other).flatMap Call.requests).filterMap (Request.signal? roles) =
      (calls.flatMap Call.requests).filterMap (Request.signal? roles) := by
  induction calls with
  | nil => rfl
  | cons call rest ih =>
      rw [List.flatMap_cons, List.filterMap_append, ← ih, List.filter_cons]
      split
      · rw [List.flatMap_cons, List.filterMap_append]
      · rename_i dropped
        have told : call.faultFor? = some other := by simpa using dropped
        suffices silent : call.requests.filterMap (Request.signal? roles) = [] by rw [silent, List.nil_append]
        cases call with
        | createMany => cases told
        | one request =>
            cases request with
            | failNext | failAlways =>
                cases told
                simp [Call.requests, Request.signal?, Ne.symm different]
            | _ => cases told

theorem length_outcomesIn (roles : RoleSet) (entries : List Entry) :
    (outcomesIn roles entries).length = (signalsIn roles entries).count .completion := by
  induction entries with
  | nil => rfl
  | cons entry rest ih =>
      rw [outcomesIn] at ih ⊢
      rw [signalsIn] at ih ⊢
      cases entry with
      | destroyed _ => exact ih
      | completed other _ | failNext other _ | failAlways other =>
          by_cases same : other = roles <;>
            simp [List.filterMap_cons, Entry.outcome?, Entry.signal?, same, ih]

-- What goes for a journal goes for what follows in it, with what is left by then.
theorem outcomes_onward {roles : RoleSet} {left : Refusals}
    (outcomes : outcomesIn roles (entries ++ more) = left.outcomes (signalsIn roles (entries ++ more))) :
    outcomesIn roles entries = left.outcomes (signalsIn roles entries) ∧
      outcomesIn roles more = ((signalsIn roles entries).foldl Refusals.next left).outcomes (signalsIn roles more) := by
  rw [outcomesIn_append, signalsIn_append, Refusals.outcomes_append] at outcomes
  refine List.append_inj outcomes ?_
  rw [length_outcomesIn, Refusals.length_outcomes]

theorem signals_of_untold {roles : RoleSet} (untold : ∀ entry ∈ entries, entry.faultFor? ≠ some roles) :
    signalsIn roles entries = List.replicate (outcomesIn roles entries).length .completion := by
  induction entries with
  | nil => rfl
  | cons entry rest ih =>
      obtain ⟨elsewhere, untold⟩ := List.forall_mem_cons.mp untold
      have rest := ih untold
      rw [outcomesIn] at rest ⊢
      rw [signalsIn] at rest ⊢
      cases entry with
      | destroyed _ => exact rest
      | failNext other _ | failAlways other =>
          have different : other ≠ roles := fun same => elsewhere (congrArg some same)
          simpa [List.filterMap_cons, Entry.signal?, Entry.outcome?, different] using rest
      | completed other _ =>
          by_cases same : other = roles
          · simpa [List.filterMap_cons, Entry.signal?, Entry.outcome?, same, List.replicate_succ] using rest
          · simpa [List.filterMap_cons, Entry.signal?, Entry.outcome?, same] using rest

theorem failAlways_of_signal {roles : RoleSet} (told : .failAlways ∈ signalsIn roles entries) :
    .failAlways roles ∈ entries := by
  obtain ⟨entry, member, signal⟩ := List.mem_filterMap.mp told
  cases entry with
  | failAlways other =>
      by_cases same : other = roles
      · exact same ▸ member
      · simp [Entry.signal?, same] at signal
  | failNext other _ | completed other _ =>
      by_cases same : other = roles <;> simp [Entry.signal?, same] at signal
  | destroyed _ => cases signal

/-! ### The books and the journal -/

def givenAddresses (node : Node) : List String := node.publicIp.toList ++ node.privateIp.toList

structure Honest (entries : List Entry) (books : Simulation) : Prop where
  created : books.created = nodesIn entries
  ids : books.createdIds.Nodup
  addressed : ∀ node ∈ books.created, node.publicIp.isSome ∧ node.privateIp.isSome
  addresses : (books.created.flatMap givenAddresses).Nodup
  running : books.running = books.created.filter fun node => node.id ∉ destroyedIn entries
  destroyed : books.destroyed = firstOccurrences (destroyedIn entries)
  destroyed_once : books.destroyed.Nodup
  attempts : ∀ roles, books.attemptsFor roles =
    (outcomesIn roles entries).count true + (outcomesIn roles entries).count false

structure Refuses (entries : List Entry) (roles : RoleSet) : Prop where
  untold : ∀ earlier rest, entries = earlier ++ rest → (∀ entry ∈ earlier, entry.faultFor? ≠ some roles) →
    ∀ outcome ∈ outcomesIn roles earlier, outcome = true
  next : ∀ earlier count later rest, entries = earlier ++ .failNext roles count :: later ++ rest →
    .failAlways roles ∉ earlier → (∀ entry ∈ later, entry.faultFor? ≠ some roles) →
    let completed := (outcomesIn roles later).length
    outcomesIn roles later =
      List.replicate (min count completed) false ++ List.replicate (completed - count) true
  always : ∀ earlier later, entries = earlier ++ .failAlways roles :: later →
    ∀ outcome ∈ outcomesIn roles later, outcome = false

theorem Numbered.ids {first : Nat} {nodes : List Node} (numbered : Numbered first nodes) :
    nodes.map Node.id = machineIds first nodes.length := by
  have ids := congrArg (List.map Prod.fst) numbered
  rw [List.map_map, List.map_map] at ids
  exact ids

theorem Numbered.addresses {first : Nat} {nodes : List Node} (numbered : Numbered first nodes) :
    nodes.flatMap givenAddresses = (List.range' (first + 1) nodes.length).flatMap addressesOf := by
  have addresses := congrArg (List.flatMap fun given => given.2.1.toList ++ given.2.2.toList) numbered
  rw [List.flatMap_map, List.flatMap_map] at addresses
  exact addresses

theorem Numbered.addressed {first : Nat} {nodes : List Node} (numbered : Numbered first nodes) {node : Node}
    (member : node ∈ nodes) : node.publicIp.isSome ∧ node.privateIp.isSome := by
  have given := List.mem_map_of_mem member (f := fun node => (node.id, node.publicIp, node.privateIp))
  rw [numbered] at given
  obtain ⟨number, _, same⟩ := List.mem_map.mp given
  have publicIp : node.publicIp = some (publicAddress number) := congrArg (fun given => given.2.1) same.symm
  have privateIp : node.privateIp = some (privateAddress number) := congrArg (fun given => given.2.2) same.symm
  rw [publicIp, privateIp]
  exact ⟨rfl, rfl⟩

theorem plain_new : new.Plain := ⟨⟨rfl, rfl⟩, rfl, rfl⟩

theorem Writes.honest (writes : Writes new entries after) : Honest entries after where
  created := writes.created
  ids := by
    rw [createdIds, writes.created]
    exact writes.numbered.ids ▸ machineIds_nodup _ _
  addressed node member := by
    rw [writes.created] at member
    exact writes.numbered.addressed member
  addresses := by
    rw [writes.created]
    exact writes.numbered.addresses ▸ addresses_nodup _ _
  running := by
    have gone (id : String) : id ∈ after.destroyed ↔ id ∈ destroyedIn entries := by
      rw [writes.destroyed]
      exact mem_firstOccurrences
    simp only [Simulation.running, gone]
  destroyed := writes.destroyed
  destroyed_once := by
    rw [writes.destroyed]
    exact nodup_firstOccurrences _
  attempts roles := by
    rw [writes.attempts, List.count_true_add_count_false]
    exact Nat.zero_add _

-- Behind a fault creations begin with what it left of those before it.
theorem Writes.outcomes_behind {earlier later rest : List Entry} {fault : Entry} {roles : RoleSet} {signal : Signal}
    (writes : Writes new (earlier ++ fault :: later ++ rest) after) (told : fault.signal? roles = some signal) :
    outcomesIn roles later =
      (((signalsIn roles earlier).foldl Refusals.next .none).next signal).outcomes (signalsIn roles later) := by
  have signals : signalsIn roles [fault] = [signal] := by rw [signalsIn, List.filterMap_cons_some told, List.filterMap_nil]
  obtain ⟨outcomes, _⟩ := outcomes_onward (writes.outcomes roles)
  rw [List.append_cons] at outcomes
  obtain ⟨_, outcomes⟩ := outcomes_onward outcomes
  rw [signalsIn_append, signals, List.foldl_append, refusalsFor_new] at outcomes
  exact outcomes

theorem Writes.refuses (writes : Writes new entries after) (roles : RoleSet) : Refuses entries roles where
  untold earlier rest split untold := by
    subst split
    obtain ⟨outcomes, _⟩ := outcomes_onward (writes.outcomes roles)
    rw [signals_of_untold untold, refusalsFor_new, Refusals.none, Refusals.outcomes_completions, Nat.zero_min,
      List.replicate_zero, List.nil_append] at outcomes
    intro outcome member
    rw [outcomes] at member
    exact List.eq_of_mem_replicate member
  next earlier count later rest split sometimes untold := by
    subst split
    have unset : .failAlways ∉ signalsIn roles earlier := fun told => sometimes (failAlways_of_signal told)
    have before : ((signalsIn roles earlier).foldl Refusals.next .none).always = false :=
      Refusals.sometimes_foldl rfl unset
    have outcomes := writes.outcomes_behind (if_pos rfl : Entry.signal? roles (.failNext roles count) = _)
    rw [signals_of_untold untold, Refusals.next, before, Refusals.outcomes_completions] at outcomes
    exact outcomes
  always earlier later split := by
    rw [← List.append_nil (earlier ++ _)] at split
    subst split
    rw [writes.outcomes_behind (if_pos rfl : Entry.signal? roles (.failAlways roles) = _)]
    exact Refusals.outcomes_always rfl _

/-- After any calls the books say what was answered: machines have ids and addresses of their own, those
that run are those whose ids were never to be destroyed, ids are recorded as destroyed once, and each
creation that came to an end was an attempt. Creations for a role set fail where they were told to and
nowhere else, whatever is told to those for other role sets, and a batch has a result for each of its
creations. The counters stay within the number of calls, a batch counted as often as it creates. -/
theorem keeps_honest_books (calls : List Call) :
    let entries := (journal Call.serve calls new).1
    let books := (journal Call.serve calls new).2
    Honest entries books ∧ (∀ roles, Refuses entries roles) ∧
    (∀ roles other, roles ≠ other →
      let without := calls.filter fun call => call.faultFor? ≠ some other
      outcomesIn roles (journal Call.serve without new).1 = outcomesIn roles entries) ∧
    (∀ spec count, let results := (provider.createMany spec count books).1
      results.length = count ∧ ∀ result ∈ results, result.isSome) ∧
    books.sequence ≤ (calls.map Call.weight).sum ∧
    ∀ roles, books.attemptsFor roles ≤ (calls.map Call.weight).sum := by
  intro entries books
  have writes (calls : List Call) : Writes new (journal Call.serve calls new).1 (journal Call.serve calls new).2 := by
    rw [journal_calls plain_new]
    exact journal_writes plain_new _
  refine ⟨(writes calls).honest, (writes calls).refuses, ?_, ?_, ?_, ?_⟩
  · intro roles other different without
    rw [(writes without).outcomes, (writes calls).outcomes, journal_calls plain_new, journal_calls plain_new,
      signalsIn_journal, signalsIn_journal, signals_without_faults different]
  · intro spec count results
    exact ⟨provider.length_createMany spec count books, isSome_createMany (writes calls).plain spec count⟩
  · calc books.sequence
      _ = 0 + (nodesIn entries).length := (writes calls).sequence
      _ = (nodesIn entries).length := Nat.zero_add _
      _ ≤ entries.length := List.length_filterMap_le _ _
      _ ≤ (calls.map Call.weight).sum := length_journal calls new
  · intro roles
    calc books.attemptsFor roles
      _ = 0 + (outcomesIn roles entries).length := (writes calls).attempts roles
      _ = (outcomesIn roles entries).length := Nat.zero_add _
      _ ≤ entries.length := List.length_filterMap_le _ _
      _ ≤ (calls.map Call.weight).sum := length_journal calls new

-- A batch for one role set goes through failures of another, and a creation is under way when all are told to fail.
theorem keeps_honest_books_of_two :
    let worker : InstanceSpec := ⟨"small", .ofList ["worker"], ⟨[], []⟩⟩
    let master : InstanceSpec := ⟨"small", .ofList ["master"], ⟨[], []⟩⟩
    let calls : List Call :=
      [.one (.failNext worker.roles 2), .createMany master 1, .createMany worker 4,
        .one (.destroy ["stub-00001", "stub-00009", "stub-00001"]), .one .beginCreate, .one (.failAlways worker.roles),
        .one (.finishCreate worker), .one (.destroy ["stub-00001"]), .one (.checkReady "stub-00002")]
    let books := (journal Call.serve calls new).2
    let entries := (journal Call.serve calls new).1
    books.created.flatMap givenAddresses =
      ["203.0.0.2", "10.0.0.2", "203.0.0.3", "10.0.0.3", "203.0.0.4", "10.0.0.4"] ∧
    (books.created.flatMap givenAddresses).Nodup ∧
    books.running.map Node.id = ["stub-00002", "stub-00003"] ∧ books.destroyed = ["stub-00001", "stub-00009"] ∧
    outcomesIn worker.roles entries = [false, false, true, true, false] ∧ books.attemptsFor worker.roles = 5 ∧
    (provider.createMany worker 3 books).1.length = 3 := by
  intro worker master calls books entries
  obtain ⟨honest, _, _, batches, _⟩ := keeps_honest_books calls
  refine ⟨by decide +kernel, honest.addresses, by decide +kernel, by decide +kernel, by decide +kernel, ?_,
    (batches worker 3).1⟩
  rw [honest.attempts]
  decide +kernel

end Muster.Simulation
