import Mathlib.Data.List.Nodup
import Muster.LockTable

/-!
One writer for each name, in whatever order the tasks move. A request is two moves, fetching
a lock and asking for it, and so is a release, freeing the lock and sweeping the table. Between
the two any other task may move, and so it may before a ticket takes the lock that is kept for
it. What each move keeps is that the live tickets of a name refer to one lock, the one that the
table has for it, and that one ticket at most keeps the others from it.
-/

namespace Muster

namespace LockTable

variable {table after : LockTable} {ticket other : Ticket} {stage : TicketStage} {owner name : String}
  {lock : Nat}

/-! ### Moves -/

/-- What a task does at one moment. A task that has no such thing to do leaves all as it is. -/
inductive Move where
  | fetch (name owner : String)
  | ask (owner : String)
  | claim (owner : String)
  | drop (owner : String)
  | giveUp (owner : String)
  | free (owner : String)
  | sweep (name : String)
  deriving DecidableEq, Repr

structure Usage where
  table : LockTable
  releasing : List String

namespace Usage

def start : Usage := ⟨.empty, []⟩

def step (usage : Usage) : Move → Usage
  | .fetch name owner =>
      if (usage.table.ticket? owner).isSome then usage
      else { usage with table := usage.table.fetch name owner }
  | .ask owner => { usage with table := usage.table.ask owner }
  | .claim owner => { usage with table := usage.table.claim owner }
  | .drop owner => { usage with table := usage.table.drop owner }
  | .giveUp owner => { usage with table := usage.table.giveUp owner }
  | .free owner =>
      match usage.table.ticket? owner with
      | none => usage
      | some ticket =>
          if ticket.stage = .holding then ⟨usage.table.drop owner, ticket.name :: usage.releasing⟩
          else usage
  | .sweep name =>
      if name ∈ usage.releasing then ⟨usage.table.sweep name, usage.releasing.erase name⟩ else usage

def following (moves : List Move) : Usage := moves.foldl step start

-- A request that nobody comes between is its two moves.
theorem lock_eq_steps (usage : Usage) (new : usage.table.ticket? owner = none) (name : String) :
    ((usage.step (.fetch name owner)).step (.ask owner)).table = usage.table.lock name owner := by
  simp [step, new, LockTable.lock]

-- A release that nobody comes between is its two moves.
theorem release_eq_steps (usage : Usage) (found : usage.table.ticket? owner = some ticket)
    (holds : ticket.stage = .holding) :
    (usage.step (.free owner)).step (.sweep ticket.name) =
      { usage with table := usage.table.release owner } := by
  simp [step, found, holds, LockTable.release]

end Usage

/-! ### Tickets -/

theorem mem_of_ticket? (found : table.ticket? owner = some ticket) :
    ticket ∈ table.tickets ∧ ticket.owner = owner :=
  ⟨List.mem_of_find?_eq_some found, by simpa using List.find?_some found⟩

theorem ticket?_eq_none : table.ticket? owner = none ↔ ∀ ticket ∈ table.tickets, ticket.owner ≠ owner := by
  simp [ticket?]

theorem ticket?_of_mem (distinct : (table.tickets.map Ticket.owner).Nodup) (member : ticket ∈ table.tickets) :
    table.ticket? ticket.owner = some ticket := by
  cases found : table.ticket? ticket.owner with
  | none => exact absurd rfl (ticket?_eq_none.mp found ticket member)
  | some other =>
      obtain ⟨among, same⟩ := mem_of_ticket? found
      rw [List.inj_on_of_nodup_map distinct among member same]

theorem mem_without : ticket ∈ (table.without owner).tickets ↔ ticket ∈ table.tickets ∧ ticket.owner ≠ owner := by
  simp [without]

def holders (table : LockTable) (name : String) : List Ticket :=
  table.tickets.filter fun ticket => ticket.name = name && ticket.stage = .holding

theorem mem_holders : ticket ∈ table.holders name ↔
    ticket ∈ table.tickets ∧ ticket.name = name ∧ ticket.stage = .holding := by
  simp [holders]

theorem isTaken_iff : table.isTaken lock = true ↔
    ∃ ticket ∈ table.tickets, ticket.lock = lock ∧ ticket.blocks = true := by
  simp [isTaken]

theorem isReferred_iff : table.isReferred lock = true ↔ ∃ ticket ∈ table.tickets, ticket.lock = lock := by
  simp [isReferred]

theorem setStage_owners (stage : TicketStage) (owner : String) (tickets : List Ticket) :
    (setStage stage owner tickets).map Ticket.owner = tickets.map Ticket.owner := by
  rw [setStage, List.map_map]
  refine List.map_congr_left fun ticket _ => ?_
  by_cases own : ticket.owner = owner <;> simp [own]

structure Restages (table : LockTable) (ticket : Ticket) (stage : TicketStage) (after : LockTable) : Prop where
  entries : after.entries = table.entries
  nextLock : after.nextLock = table.nextLock
  distinct : (after.tickets.map Ticket.owner).Nodup
  members : ∀ other, other ∈ after.tickets ↔
    other = { ticket with stage } ∨ other ∈ table.tickets ∧ other.owner ≠ ticket.owner

theorem restages_setStage (distinct : (table.tickets.map Ticket.owner).Nodup) (member : ticket ∈ table.tickets)
    (stage : TicketStage) :
    table.Restages ticket stage { table with tickets := setStage stage ticket.owner table.tickets } where
  entries := rfl
  nextLock := rfl
  distinct := (setStage_owners stage ticket.owner table.tickets).symm ▸ distinct
  members other := by
    simp only [setStage, List.mem_map]
    constructor
    · rintro ⟨old, among, rfl⟩
      by_cases own : old.owner = ticket.owner
      · obtain rfl := List.inj_on_of_nodup_map distinct among member own
        simp
      · simp [own, among]
    · rintro (rfl | ⟨among, others⟩)
      · exact ⟨ticket, member, by simp⟩
      · exact ⟨other, among, by simp [others]⟩

theorem restages_append (distinct : (table.tickets.map Ticket.owner).Nodup) (ticket : Ticket) (stage : TicketStage) :
    table.Restages ticket stage
      { table with tickets := (table.without ticket.owner).tickets ++ [{ ticket with stage }] } where
  entries := rfl
  nextLock := rfl
  distinct := by
    rw [List.map_append, List.nodup_append]
    refine ⟨distinct.sublist (List.filter_sublist.map _), by simp, ?_⟩
    rintro _ there _ itself rfl
    obtain ⟨other, among, same⟩ := List.mem_map.mp there
    rw [List.map_singleton, List.mem_singleton] at itself
    exact (mem_without.mp among).2 (same.trans itself)
  members other := by
    rw [List.mem_append, List.mem_singleton, mem_without, or_comm]

theorem Restages.isHolding (restaged : table.Restages ticket stage after) :
    after.isHolding ticket.owner = decide (stage = .holding) := by
  have itself := ticket?_of_mem restaged.distinct ((restaged.members _).mpr (.inl rfl))
  rw [LockTable.isHolding, itself, Option.any_some]

/-! ### What every move keeps -/

/-- What holds of a table between two moves, and of one in which a lock has been freed and not
handed over yet. -/
structure Sound (table : LockTable) (freed : Option Nat) : Prop where
  distinct : (table.tickets.map Ticket.owner).Nodup
  current : ∀ ticket ∈ table.tickets, table.entries.get? ticket.name = some ticket.lock
  apart : ∀ name other lock, table.entries.get? name = some lock → table.entries.get? other = some lock → name = other
  earlier : ∀ name lock, table.entries.get? name = some lock → lock < table.nextLock
  exclusive : ∀ first ∈ table.tickets, ∀ second ∈ table.tickets, first.blocks = true → second.blocks = true →
    first.lock = second.lock → first = second
  served : ∀ ticket ∈ table.tickets, ticket.stage = .inLine → some ticket.lock ≠ freed →
    table.isTaken ticket.lock = true

variable {freed : Option Nat}

namespace Sound

theorem lock_eq_iff (sound : table.Sound freed) (member : ticket ∈ table.tickets) (among : other ∈ table.tickets) :
    ticket.lock = other.lock ↔ ticket.name = other.name := by
  have mine := sound.current ticket member
  have yours := sound.current other among
  constructor
  · intro same
    exact sound.apart _ _ _ mine (same ▸ yours)
  · intro same
    rw [same, yours] at mine
    exact (Option.some.inj mine).symm

theorem holders_le_one (sound : table.Sound freed) (name : String) : (table.holders name).length ≤ 1 := by
  have distinct : (table.holders name).Nodup := sound.distinct.of_map.filter _
  cases found : table.holders name with
  | nil => exact Nat.zero_le _
  | cons first rest =>
      cases rest with
      | nil => exact Nat.le_refl _
      | cons second rest =>
          rw [found] at distinct
          obtain ⟨one, called, holds⟩ := mem_holders.mp (found ▸ List.mem_cons_self : first ∈ table.holders name)
          obtain ⟨another, alike, also⟩ := mem_holders.mp (found ▸ by simp : second ∈ table.holders name)
          have same := sound.exclusive first one second another (by simp [Ticket.blocks, holds])
            (by simp [Ticket.blocks, also]) ((sound.lock_eq_iff one another).mpr (called.trans alike.symm))
          simp [same] at distinct

-- Nobody keeps the lock of a ticket from it but the tickets of its own name.
theorem isTaken_eq_false (sound : table.Sound freed) (member : ticket ∈ table.tickets) :
    table.isTaken ticket.lock = false ↔ ∀ other ∈ table.tickets, other.name = ticket.name → other.blocks = false := by
  rw [← Bool.not_eq_true, isTaken_iff]
  constructor
  · intro free other among same
    apply Bool.eq_false_iff.mpr
    intro blocks
    exact free ⟨other, among, (sound.lock_eq_iff among member).mpr same, blocks⟩
  · rintro free ⟨other, among, same, blocks⟩
    rw [free other among ((sound.lock_eq_iff among member).mp same)] at blocks
    cases blocks

theorem empty : LockTable.empty.Sound none where
  distinct := .nil
  current := by simp [LockTable.empty]
  apart := by simp [LockTable.empty]
  earlier := by simp [LockTable.empty]
  exclusive := by simp [LockTable.empty]
  served := by simp [LockTable.empty]

-- A ticket may go on to keep others from its lock when nobody else does, and may stand in line
-- when somebody does. No ticket that does so stops in one move.
theorem restages (sound : table.Sound freed) (member : ticket ∈ table.tickets)
    (restaged : table.Restages ticket stage after)
    (takes : Ticket.blocks { ticket with stage } = true → ∀ other ∈ table.tickets, other.owner ≠ ticket.owner →
      other.blocks = true → other.lock ≠ ticket.lock)
    (waits : stage = .inLine → table.isTaken ticket.lock = true)
    (keeps : ticket.blocks = true → Ticket.blocks { ticket with stage } = true) : after.Sound freed := by
  have stillTaken (lock : Nat) (taken : table.isTaken lock = true) : after.isTaken lock = true := by
    obtain ⟨other, among, rfl, blocks⟩ := isTaken_iff.mp taken
    by_cases own : other.owner = ticket.owner
    · obtain rfl := List.inj_on_of_nodup_map sound.distinct among member own
      exact isTaken_iff.mpr ⟨_, (restaged.members _).mpr (.inl rfl), rfl, keeps blocks⟩
    · exact isTaken_iff.mpr ⟨other, (restaged.members other).mpr (.inr ⟨among, own⟩), rfl, blocks⟩
  refine ⟨restaged.distinct, ?current, ?apart, ?earlier, ?exclusive, ?served⟩
  case current =>
    intro other among
    rw [restaged.entries]
    rcases (restaged.members other).mp among with rfl | ⟨there, _⟩
    · exact sound.current ticket member
    · exact sound.current other there
  case apart => exact restaged.entries ▸ sound.apart
  case earlier => exact restaged.entries ▸ restaged.nextLock ▸ sound.earlier
  case exclusive =>
    intro first one second another blocks also same
    rcases (restaged.members first).mp one with rfl | ⟨there, others⟩ <;>
      rcases (restaged.members second).mp another with rfl | ⟨here, apart⟩
    · rfl
    · exact (takes blocks second here apart also same.symm).elim
    · exact (takes also first there others blocks same).elim
    · exact sound.exclusive first there second here blocks also same
  case served =>
    intro other among waiting apart
    rcases (restaged.members other).mp among with rfl | ⟨there, _⟩
    · exact stillTaken _ (waits waiting)
    · exact stillTaken _ (sound.served other there waiting apart)

/-! ### The moves -/

theorem newLock (sound : table.Sound freed) (unknown : table.entries.get? name = none) :
    Sound { table with entries := table.entries.insert name table.nextLock, nextLock := table.nextLock + 1 } freed where
  distinct := sound.distinct
  current ticket member := by
    have known := sound.current ticket member
    rw [SortedMap.get?_insert, if_neg, known]
    intro same
    rw [same, unknown] at known
    cases known
  apart one another lock first second := by
    simp only [SortedMap.get?_insert] at first second
    -- a lock that the table had already is not the new one
    have new := sound.earlier
    split at first <;> split at second
    · simp_all
    · cases first
      exact absurd (new another _ second) (Nat.lt_irrefl _)
    · cases second
      exact absurd (new one _ first) (Nat.lt_irrefl _)
    · exact sound.apart one another lock first second
  earlier one lock found := by
    simp only [SortedMap.get?_insert] at found
    split at found
    · cases found
      exact Nat.lt_succ_self _
    · exact Nat.lt_succ_of_lt (sound.earlier one lock found)
  exclusive := sound.exclusive
  served := sound.served

theorem newTicket (sound : table.Sound freed) (new : table.ticket? owner = none)
    (known : table.entries.get? name = some lock) :
    Sound { table with tickets := table.tickets ++ [⟨owner, name, lock, .fetched⟩] } freed where
  distinct := by
    rw [List.map_append, List.nodup_append]
    refine ⟨sound.distinct, by simp, ?_⟩
    rintro _ there _ fresh rfl
    obtain ⟨ticket, member, same⟩ := List.mem_map.mp there
    rw [List.map_singleton, List.mem_singleton] at fresh
    exact ticket?_eq_none.mp new ticket member (same.trans fresh)
  current ticket member := by
    rcases List.mem_append.mp member with old | fresh
    · exact sound.current ticket old
    · obtain rfl := List.mem_singleton.mp fresh
      exact known
  apart := sound.apart
  earlier := sound.earlier
  exclusive first one second another blocks also same := by
    rcases List.mem_append.mp one with old | fresh
    · rcases List.mem_append.mp another with there | fresh
      · exact sound.exclusive first old second there blocks also same
      · obtain rfl := List.mem_singleton.mp fresh
        cases also
    · obtain rfl := List.mem_singleton.mp fresh
      cases blocks
  served ticket member waits apart := by
    rcases List.mem_append.mp member with old | fresh
    · obtain ⟨other, among, same, blocks⟩ := isTaken_iff.mp (sound.served ticket old waits apart)
      exact isTaken_iff.mpr ⟨other, List.mem_append_left _ among, same, blocks⟩
    · obtain rfl := List.mem_singleton.mp fresh
      cases waits

theorem fetch (sound : table.Sound freed) (new : table.ticket? owner = none) (name : String) :
    (table.fetch name owner).Sound freed := by
  unfold LockTable.fetch
  split
  · rename_i lock known
    exact sound.newTicket new known
  · rename_i unknown
    exact (sound.newLock unknown).newTicket new (by simp)

theorem restages_ask (sound : table.Sound freed) (member : ticket ∈ table.tickets) (fetched : ticket.stage = .fetched) :
    table.Restages ticket (if table.isTaken ticket.lock then .inLine else .holding) (table.ask ticket.owner) := by
  simp only [LockTable.ask, ticket?_of_mem sound.distinct member, fetched, ↓reduceIte]
  exact restages_append sound.distinct ticket _

theorem restages_claim (sound : table.Sound freed) (member : ticket ∈ table.tickets) (reserved : ticket.stage = .reserved) :
    table.Restages ticket .holding (table.claim ticket.owner) := by
  simp only [LockTable.claim, ticket?_of_mem sound.distinct member, reserved, ↓reduceIte]
  exact restages_setStage sound.distinct member _

theorem ask (sound : table.Sound freed) (owner : String) : (table.ask owner).Sound freed := by
  cases found : table.ticket? owner with
  | none => simpa only [LockTable.ask, found] using sound
  | some ticket =>
      obtain ⟨member, rfl⟩ := mem_of_ticket? found
      by_cases fetched : ticket.stage = .fetched
      · refine sound.restages member (sound.restages_ask member fetched) ?_ ?_ ?_
        · intro blocks other among _ also same
          split at blocks
          · cases blocks
          · rename_i free
            exact free (isTaken_iff.mpr ⟨other, among, same, also⟩)
        · intro waits
          split at waits
          · assumption
          · cases waits
        · simp [Ticket.blocks, fetched]
      · simpa only [LockTable.ask, found, fetched, ↓reduceIte] using sound

theorem claim (sound : table.Sound freed) (owner : String) : (table.claim owner).Sound freed := by
  cases found : table.ticket? owner with
  | none => simpa only [LockTable.claim, found] using sound
  | some ticket =>
      obtain ⟨member, rfl⟩ := mem_of_ticket? found
      by_cases reserved : ticket.stage = .reserved
      · refine sound.restages member (sound.restages_claim member reserved) ?_ nofun fun _ => rfl
        intro _ other among others also same
        have mine : ticket.blocks = true := by simp [Ticket.blocks, reserved]
        exact others (congrArg Ticket.owner (sound.exclusive other among ticket member also mine same))
      · simpa only [LockTable.claim, found, reserved, ↓reduceIte] using sound

theorem without (sound : table.Sound none) (member : ticket ∈ table.tickets) :
    (table.without ticket.owner).Sound (some ticket.lock) where
  distinct := sound.distinct.sublist (List.filter_sublist.map _)
  current other among := sound.current other (mem_without.mp among).1
  apart := sound.apart
  earlier := sound.earlier
  exclusive first one second another :=
    sound.exclusive first (mem_without.mp one).1 second (mem_without.mp another).1
  served other among waits apart := by
    obtain ⟨holder, there, same, blocks⟩ := isTaken_iff.mp (sound.served other (mem_without.mp among).1 waits nofun)
    refine isTaken_iff.mpr ⟨holder, mem_without.mpr ⟨there, fun own => apart ?_⟩, same, blocks⟩
    rw [← same, List.inj_on_of_nodup_map sound.distinct there member own]

-- A lock that has been freed is served as the others are once it is taken, or when nobody waits for it.
theorem settle (sound : table.Sound (some lock))
    (settled : ∀ ticket ∈ table.tickets, ticket.stage = .inLine → ticket.lock = lock → table.isTaken lock = true) :
    table.Sound none := by
  refine { sound with served := fun ticket member waits _ => ?_ }
  by_cases here : ticket.lock = lock
  · exact here ▸ settled ticket member waits here
  · exact sound.served ticket member waits (by simpa using here)

theorem handOver (sound : table.Sound (some lock)) : (table.handOver lock).Sound none := by
  unfold LockTable.handOver
  split
  · rename_i taken
    exact sound.settle fun _ _ _ _ => taken
  · rename_i free
    split
    · rename_i nobody
      rw [List.find?_eq_none] at nobody
      refine sound.settle fun ticket member waits here => ?_
      exact absurd (by simp [waits, here]) (nobody ticket member)
    · rename_i first found
      have member := List.mem_of_find?_eq_some found
      obtain ⟨rfl, waits⟩ : first.lock = lock ∧ first.stage = .inLine := by
        simpa using List.find?_some found
      have restaged := restages_setStage sound.distinct member .reserved
      refine (sound.restages member restaged ?_ nofun fun _ => rfl).settle fun _ _ _ _ => ?_
      · intro _ other among _ also same
        exact free (isTaken_iff.mpr ⟨other, among, same, also⟩)
      · exact isTaken_iff.mpr ⟨_, (restaged.members _).mpr (.inl rfl), rfl, rfl⟩

theorem drop (sound : table.Sound none) (owner : String) : (table.drop owner).Sound none := by
  unfold LockTable.drop
  split
  · exact sound
  · rename_i ticket found
    obtain ⟨member, rfl⟩ := mem_of_ticket? found
    split
    · exact (sound.without member).handOver
    · exact sound

theorem giveUp (sound : table.Sound none) (owner : String) : (table.giveUp owner).Sound none := by
  unfold LockTable.giveUp
  split
  · exact sound
  · rename_i ticket found
    obtain ⟨member, rfl⟩ := mem_of_ticket? found
    split
    · exact sound
    · exact (sound.without member).handOver

theorem sweep (sound : table.Sound none) (name : String) : (table.sweep name).Sound none := by
  unfold LockTable.sweep
  split
  · exact sound
  · rename_i lock known
    split
    · exact sound
    · rename_i unreferred
      refine ⟨sound.distinct, ?current, ?apart, ?earlier, sound.exclusive, sound.served⟩
      case current =>
        intro ticket member
        have current := sound.current ticket member
        rw [SortedMap.get?_erase, if_neg, current]
        rintro rfl
        rw [known] at current
        exact unreferred (isReferred_iff.mpr ⟨ticket, member, (Option.some.inj current).symm⟩)
      case apart =>
        intro one another taken first second
        simp only [SortedMap.get?_erase] at first second
        split at first <;> split at second
        · cases first
        · cases first
        · cases second
        · exact sound.apart one another taken first second
      case earlier =>
        intro other taken found
        simp only [SortedMap.get?_erase] at found
        split at found
        · cases found
        · exact sound.earlier other taken found

end Sound

/-! ### Entries -/

@[simp] theorem handOver_entries (table : LockTable) (lock : Nat) : (table.handOver lock).entries = table.entries := by
  unfold handOver
  split
  · rfl
  · split <;> rfl

@[simp] theorem ask_entries (table : LockTable) (owner : String) : (table.ask owner).entries = table.entries := by
  unfold ask
  split
  · rfl
  · split <;> rfl

@[simp] theorem claim_entries (table : LockTable) (owner : String) : (table.claim owner).entries = table.entries := by
  unfold claim
  split
  · rfl
  · split <;> rfl

@[simp] theorem drop_entries (table : LockTable) (owner : String) : (table.drop owner).entries = table.entries := by
  unfold drop
  split
  · rfl
  · split
    · exact handOver_entries _ _
    · rfl

@[simp] theorem giveUp_entries (table : LockTable) (owner : String) : (table.giveUp owner).entries = table.entries := by
  unfold giveUp
  split
  · rfl
  · split
    · rfl
    · exact handOver_entries _ _

theorem fetch_known (known : table.entries.get? name = some lock) (other owner : String) :
    (table.fetch other owner).entries.get? name = some lock := by
  unfold fetch
  split
  · exact known
  · rename_i unknown
    rw [SortedMap.get?_insert, if_neg, known]
    rintro rfl
    cases known.symm.trans unknown

theorem sweep_get? (table : LockTable) (name other : String) :
    (table.sweep name).entries.get? other =
      if other = name ∧ ∀ lock, table.entries.get? name = some lock → table.isReferred lock = false then none
      else table.entries.get? other := by
  unfold sweep
  split
  · rename_i unknown
    by_cases here : other = name <;> simp [here, unknown]
  · rename_i lock known
    by_cases referred : table.isReferred lock = true
    · simp [known, referred]
    · simp [known, referred]

namespace Usage

variable {usage : Usage}

theorem step_sound (sound : usage.table.Sound none) (move : Move) : (usage.step move).table.Sound none := by
  cases move with
  | fetch name owner =>
      simp only [step]
      split
      · exact sound
      · rename_i new
        exact sound.fetch (Option.not_isSome_iff_eq_none.mp new) name
  | ask owner => exact sound.ask owner
  | claim owner => exact sound.claim owner
  | drop owner => exact sound.drop owner
  | giveUp owner => exact sound.giveUp owner
  | free owner =>
      simp only [step]
      split
      · exact sound
      · split
        · exact sound.drop owner
        · exact sound
  | sweep name =>
      simp only [step]
      split
      · exact sound.sweep name
      · exact sound

theorem foldl_sound (sound : usage.table.Sound none) (moves : List Move) : (moves.foldl step usage).table.Sound none := by
  induction moves generalizing usage with
  | nil => exact sound
  | cons move rest ih => exact ih (step_sound sound move)

theorem following_sound (moves : List Move) : (following moves).table.Sound none := foldl_sound .empty moves

-- Only the second half of a release takes an entry out, and only when nobody refers to its lock.
theorem unreferred_of_gone {move : Move} (known : usage.table.entries.get? name = some lock)
    (gone : (usage.step move).table.entries.get? name ≠ some lock) :
    move = .sweep name ∧ name ∈ usage.releasing ∧ usage.table.isReferred lock = false := by
  cases move with
  | fetch other owner =>
      simp only [step] at gone
      split at gone
      · exact (gone known).elim
      · exact (gone (fetch_known known other owner)).elim
  | ask owner => exact (gone (by simpa [step] using known)).elim
  | claim owner => exact (gone (by simpa [step] using known)).elim
  | drop owner => exact (gone (by simpa [step] using known)).elim
  | giveUp owner => exact (gone (by simpa [step] using known)).elim
  | free owner =>
      simp only [step] at gone
      split at gone
      · exact (gone known).elim
      · split at gone
        · exact (gone (by simpa using known)).elim
        · exact (gone known).elim
  | sweep other =>
      simp only [step] at gone
      split at gone
      · rename_i underway
        rw [sweep_get?] at gone
        split at gone
        · rename_i swept
          obtain ⟨rfl, unreferred⟩ := swept
          exact ⟨rfl, underway, unreferred lock known⟩
        · exact (gone known).elim
      · exact (gone known).elim

end Usage

/-- One writer for each name, whatever moves any number of tasks have made, in whatever order.
One ticket of a name at most holds its lock. The live tickets of a name, those that hold its lock,
wait for it or have fetched it, are on one lock, the one in the table, and those of two names are
on two. An entry is taken out of the table only in the second half of a release, when no ticket
refers to its lock. A ticket that asks gets its lock at once unless a ticket of its own name keeps it
from it; one in line waits for a ticket of its own name; one whose lock is kept for it gets it. And
when a release completes while there is no ticket of its name, the entry is gone. -/
theorem one_writer_per_name (moves : List Move) :
    let usage := Usage.following moves
    let table := usage.table
    (∀ name, (table.holders name).length ≤ 1) ∧
    (∀ ticket ∈ table.tickets, table.entries.get? ticket.name = some ticket.lock ∧
      ∀ other ∈ table.tickets, ticket.lock = other.lock ↔ ticket.name = other.name) ∧
    (∀ move name lock, table.entries.get? name = some lock →
      (usage.step move).table.entries.get? name ≠ some lock →
      move = .sweep name ∧ name ∈ usage.releasing ∧ ∀ ticket ∈ table.tickets, ticket.lock ≠ lock) ∧
    (∀ ticket ∈ table.tickets,
      (ticket.stage = .fetched →
        ((usage.step (.ask ticket.owner)).table.isHolding ticket.owner = true ↔
          ∀ other ∈ table.tickets, other.name = ticket.name → other.blocks = false)) ∧
      (ticket.stage = .inLine → ∃ other ∈ table.tickets, other.name = ticket.name ∧ other.blocks = true) ∧
      (ticket.stage = .reserved → (usage.step (.claim ticket.owner)).table.isHolding ticket.owner = true)) ∧
    (∀ name ∈ usage.releasing, (∀ ticket ∈ table.tickets, ticket.name ≠ name) →
      (usage.step (.sweep name)).table.entries.get? name = none) := by
  intro usage table
  have sound : table.Sound none := Usage.following_sound moves
  refine ⟨sound.holders_le_one, ?oneLock, ?entries, ?waiting, ?swept⟩
  case oneLock =>
    intro ticket member
    exact ⟨sound.current ticket member, fun other among => sound.lock_eq_iff member among⟩
  case entries =>
    intro move name lock known gone
    obtain ⟨sweeps, underway, unreferred⟩ := Usage.unreferred_of_gone known gone
    refine ⟨sweeps, underway, fun ticket member refers => ?_⟩
    rw [isReferred_iff.mpr ⟨ticket, member, refers⟩] at unreferred
    cases unreferred
  case waiting =>
    intro ticket member
    refine ⟨fun fetched => ?_, fun waits => ?_, fun reserved => ?_⟩
    · have holds : (table.ask ticket.owner).isHolding ticket.owner = !table.isTaken ticket.lock := by
        rw [(sound.restages_ask member fetched).isHolding]
        cases table.isTaken ticket.lock <;> rfl
      change (table.ask ticket.owner).isHolding ticket.owner = true ↔ _
      rw [holds, Bool.not_eq_true', sound.isTaken_eq_false member]
    · obtain ⟨other, among, same, blocks⟩ := isTaken_iff.mp (sound.served ticket member waits nofun)
      exact ⟨other, among, (sound.lock_eq_iff among member).mp same, blocks⟩
    · exact (sound.restages_claim member reserved).isHolding
  case swept =>
    intro name underway nobody
    simp only [Usage.step, underway, ↓reduceIte]
    rw [sweep_get?, if_pos]
    refine ⟨rfl, fun lock known => ?_⟩
    apply Bool.eq_false_iff.mpr
    intro referred
    obtain ⟨ticket, member, rfl⟩ := isReferred_iff.mp referred
    exact nobody ticket member (sound.apart _ _ _ (sound.current ticket member) known)

-- A release is cut in two by a waiting ticket's being next, and a request of another name goes on beside it;
-- the entry stays for the ticket that waited and goes with the release of that one.
theorem one_writer_per_name_of_three :
    let moves : List Move := [.fetch "a" "first", .ask "first", .fetch "a" "second", .ask "second",
      .fetch "b" "third", .free "first"]
    let between := Usage.following moves
    let last := Usage.following (moves ++ [.sweep "a", .claim "second", .free "second"])
    between.releasing = ["a"] ∧ (between.step (.claim "second")).table.isHolding "second" = true ∧
    (between.step (.ask "third")).table.isHolding "third" = true ∧
    (between.step (.sweep "a")).table.entries.get? "a" = some 0 ∧
    (last.step (.sweep "a")).table.entries.get? "a" = none := by
  intro moves between last
  obtain ⟨_, _, entries, waiting, _⟩ := one_writer_per_name moves
  obtain ⟨_, _, _, _, swept⟩ := one_writer_per_name (moves ++ [.sweep "a", .claim "second", .free "second"])
  have second : (⟨"second", "a", 0, .reserved⟩ : Ticket) ∈ between.table.tickets := by decide +kernel
  have third : (⟨"third", "b", 1, .fetched⟩ : Ticket) ∈ between.table.tickets := by decide +kernel
  refine ⟨by decide +kernel, (waiting _ second).2.2 rfl, ((waiting _ third).1 rfl).mpr (by decide +kernel), ?_, ?_⟩
  · by_contra gone
    exact (entries (.sweep "a") "a" 0 (by decide +kernel) gone).2.2 _ second rfl
  · exact swept "a" (by decide +kernel) (by decide +kernel)

end LockTable

end Muster
