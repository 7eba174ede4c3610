import Mathlib.Algebra.Order.Floor.Div
import Mathlib.Data.List.Forall2
import Muster.Proofs.Template.Grammar
import Muster.Proofs.Topology.Groups
import Muster.Topology.Draft

/-!
Which drafts become topologies, and what their groups are. What a draft may say is put in terms of
what its texts spell and of the entries alone: the maps of overrides, the narrowing of percentages and
the order of the checks are not mentioned.
-/

namespace Muster

open Template

/-! ### What a draft may say -/

structure SpellsClusterName (text : List Char) : Prop where
  least : 1 ≤ text.length
  most : text.length ≤ 63
  chars : ∀ c ∈ text, c.isAlphanum = true ∨ c = '-' ∨ c = '_'
  first : ∀ c ∈ text.head?, c.isAlphanum = true

/-- `[a-z0-9][a-z0-9.-]{1,61}[a-z0-9]`. -/
inductive SpellsContainer : List Char → Prop
  | between {first last : Char} {middle : List Char} (begins : isContainerEnd first = true)
      (some : 1 ≤ middle.length) (short : middle.length ≤ 61)
      (inner : ∀ c ∈ middle, isContainerEnd c = true ∨ c = '.' ∨ c = '-') (ends : isContainerEnd last = true) :
      SpellsContainer (first :: (middle ++ [last]))

namespace TopologyDraft

inductive SpellsOverrides : Option String → List (UInt32 × RoleSet) → Prop
  | absent : SpellsOverrides none []
  | given {text : String} {entries : List (UInt32 × RoleSet)} (spelled : SpellsEntries text.toList entries) :
      SpellsOverrides (some text) entries

structure Lists where
  templates : List (UInt32 × RoleSet)
  percents : List (UInt32 × RoleSet)
  minimums : List (UInt32 × RoleSet)

structure Override (overrides templates : List (UInt32 × RoleSet)) : Prop where
  once : (overrides.map Prod.snd).Nodup
  declared : ∀ entry ∈ overrides, entry.2 ∈ templates.map Prod.snd

structure Lists.Fit (lists : Lists) : Prop where
  distinct : (lists.templates.map Prod.snd).Nodup
  counts : ∀ entry ∈ lists.templates, 1 ≤ entry.1
  percents : Override lists.percents lists.templates
  minimums : Override lists.minimums lists.templates
  share : ∀ entry ∈ lists.percents, entry.1 ≤ 100
  enough : ∀ entry ∈ lists.templates, ∀ minimum, (minimum, entry.2) ∈ lists.minimums → minimum ≤ entry.1

structure Documented (draft : TopologyDraft) (lists : Lists) : Prop where
  named : ∃ name, draft.clusterName = some name ∧ SpellsClusterName name.toList
  provided : ∃ provider, draft.provider = some provider ∧ ∃ c ∈ provider.toList, Text.isBlank c = false
  templates : ∃ text, draft.templates = some text ∧ SpellsEntries text.toList lists.templates
  percents : SpellsOverrides draft.minPercents lists.percents
  minimums : SpellsOverrides draft.minInstances lists.minimums
  fit : lists.Fit
  user : draft.clusterUser ≠ some "root"
  limit : ∀ limit, draft.maxConcurrentLaunches = some limit → 1 ≤ limit
  container : ∀ container, draft.storeContainer = some container → SpellsContainer container.toList
  kept : draft.store = some .blob → ∃ container, draft.storeContainer = some container

def numberFor (overrides : List (UInt32 × RoleSet)) (roles : RoleSet) : Option UInt32 :=
  (overrides.find? fun entry => entry.2 = roles).map Prod.fst

def Lists.percentFor (lists : Lists) (roles : RoleSet) : UInt32 := (numberFor lists.percents roles).getD 100

/-- The group of an entry has the percentage that overrides one hundred and the minimum that overrides
its percentage of the machines, rounded up. -/
structure Describes (lists : Lists) (entry : UInt32 × RoleSet) (group : InstanceGroup) : Prop where
  target : group.target = entry.1
  roles : group.roles = entry.2
  percent : group.minPercent.toNat = (lists.percentFor entry.2).toNat
  minimum : group.minInstances.toNat = ((numberFor lists.minimums entry.2).map UInt32.toNat).getD
    (entry.1.toNat * group.minPercent.toNat ⌈/⌉ 100)

end TopologyDraft

/-! ### Names -/

theorem isClusterName_iff_spells {name : String} : isClusterName name = true ↔ SpellsClusterName name.toList := by
  unfold isClusterName
  split
  · rename_i empty
    simp only [Bool.false_eq_true, false_iff]
    rintro ⟨least, _⟩
    simp [empty] at least
  · rename_i first rest chars
    rw [chars]
    simp only [Bool.and_eq_true, List.all_eq_true, Bool.or_eq_true, decide_eq_true_eq]
    constructor
    · rintro ⟨⟨begins, others⟩, short⟩
      refine ⟨Nat.le_add_left _ _, Nat.succ_le_succ short, List.forall_mem_cons.mpr ⟨.inl begins, fun c member => ?_⟩,
        by simpa using begins⟩
      exact or_assoc.mp (or_right_comm.mp (others c member))
    · rintro ⟨_, short, among, begins⟩
      refine ⟨⟨by simpa using begins, fun c member => ?_⟩, Nat.le_of_succ_le_succ short⟩
      exact or_right_comm.mp (or_assoc.mpr (among c (List.mem_cons_of_mem _ member)))

theorem isContainerName_iff_spells {name : String} : isContainerName name = true ↔ SpellsContainer name.toList := by
  simp only [isContainerName, Bool.and_eq_true, decide_eq_true_eq, List.all_eq_true, Bool.or_eq_true, Option.all_eq_true]
  generalize name.toList = text
  constructor
  · rintro ⟨⟨⟨⟨least, most⟩, among⟩, begins⟩, ends⟩
    rcases text with _ | ⟨first, tail⟩
    · simp at least
    · rcases List.eq_nil_or_concat tail with rfl | ⟨middle, last, rfl⟩
      · simp at least
      · simp only [List.concat_eq_append, List.length_cons, List.length_append, List.length_nil] at least most
        rw [List.concat_eq_append] at among begins ends ⊢
        have final : (first :: (middle ++ [last])).getLast? = some last := by rw [← List.cons_append, List.getLast?_concat]
        refine .between (begins first rfl) ?_ ?_ (fun c member => ?_) (ends last final)
        · omega
        · omega
        · exact or_assoc.mp (among c (by simp [member]))
  · rintro @⟨first, last, middle, begins, some, short, inner, ends⟩
    refine ⟨⟨⟨⟨?_, ?_⟩, fun c member => ?_⟩, by simpa using begins⟩, ?_⟩
    · simp only [List.length_cons, List.length_append, List.length_nil]
      omega
    · simp only [List.length_cons, List.length_append, List.length_nil]
      omega
    · rcases List.mem_cons.mp member with rfl | later
      · exact .inl (.inl begins)
      · rcases List.mem_append.mp later with among | final
        · exact or_assoc.mpr (inner c among)
        · exact .inl (.inl (List.mem_singleton.mp final ▸ ends))
    · rw [← List.cons_append, List.getLast?_concat]
      simpa using ends

namespace Topology

variable {topology : Topology}

theorem validateName_eq_ok_iff : topology.validateName = .ok () ↔ SpellsClusterName topology.clusterName.toList := by
  rw [← isClusterName_iff_spells, validateName]
  split <;> simp_all

theorem validateUser_eq_ok_iff : topology.validateUser = .ok () ↔ topology.clusterUser ≠ some "root" := by
  unfold validateUser
  cases topology.clusterUser with
  | none => simp
  | some user => by_cases reserved : user = "root" <;> simp [reservedUsers, reserved]

theorem validateLimits_eq_ok_iff : topology.validateLimits = .ok () ↔
    1 ≤ topology.maxConcurrentLaunches ∧ ∃ c ∈ topology.provider.toList, Text.isBlank c = false := by
  unfold validateLimits
  split
  · rename_i none
    simp [UInt64.not_le.mpr none]
  · rename_i some
    rw [and_iff_right (UInt64.not_lt.mp some)]
    split
    · rename_i blank
      simpa [Text.allBlank] using blank
    · rename_i filled
      simpa [Text.allBlank] using filled

theorem validateStore_eq_ok_iff : topology.validateStore = .ok () ↔
    (∀ container, topology.storeContainer = some container → SpellsContainer container.toList) ∧
      (topology.store = .blob → ∃ container, topology.storeContainer = some container) := by
  unfold validateStore
  cases topology.storeContainer with
  | none => simp
  | some container =>
      simp only [← isContainerName_iff_spells]
      split <;> simp_all

end Topology

namespace TopologyDraft

variable {entries overrides : List (UInt32 × RoleSet)} {entry : UInt32 × RoleSet} {roles : RoleSet}
  {lists : Lists} {made : InstanceGroup} {groups : List InstanceGroup}

/-! ### Overrides -/

theorem numberFor_cons (entry : UInt32 × RoleSet) (rest : List (UInt32 × RoleSet)) (roles : RoleSet) :
    numberFor (entry :: rest) roles = if entry.2 = roles then some entry.1 else numberFor rest roles := by
  by_cases same : entry.2 = roles <;> simp [numberFor, same]

theorem numberFor_eq_none : numberFor overrides roles = none ↔ roles ∉ overrides.map Prod.snd := by
  simp only [numberFor, Option.map_eq_none_iff, List.find?_eq_none, decide_eq_true_eq, List.mem_map, not_exists, not_and]

theorem numberFor_eq_some_iff (once : (overrides.map Prod.snd).Nodup) {number : UInt32} :
    numberFor overrides roles = some number ↔ (number, roles) ∈ overrides := by
  induction overrides with
  | nil => simp [numberFor]
  | cons entry rest ih =>
      obtain ⟨fresh, once⟩ := List.nodup_cons.mp once
      rw [numberFor_cons, List.mem_cons]
      by_cases same : entry.2 = roles
      · have absent : (number, roles) ∉ rest := fun again => fresh (same ▸ List.mem_map_of_mem again)
        subst same
        simp [absent, eq_comm, Prod.ext_iff]
      · have other : (number, roles) ≠ entry := fun equal => same (equal ▸ rfl)
        simp [same, other, ih once]

def addedTo (numbers : SortedMap RoleSet UInt32) (entries : List (UInt32 × RoleSet)) : SortedMap RoleSet UInt32 :=
  entries.foldl (fun map entry => map.insert entry.2 entry.1) numbers

theorem get?_addedTo (numbers : SortedMap RoleSet UInt32) (once : (entries.map Prod.snd).Nodup) (roles : RoleSet) :
    (addedTo numbers entries).get? roles = (numberFor entries roles).or (numbers.get? roles) := by
  induction entries generalizing numbers with
  | nil => rfl
  | cons entry rest ih =>
      obtain ⟨fresh, once⟩ := List.nodup_cons.mp once
      rw [addedTo, List.foldl_cons, ← addedTo, ih _ once, numberFor_cons, SortedMap.get?_insert]
      by_cases same : entry.2 = roles
      · subst same
        simp [numberFor_eq_none.mpr fresh]
      · simp [same, Ne.symm same]

theorem get?_addedTo_empty (once : (entries.map Prod.snd).Nodup) (roles : RoleSet) :
    (addedTo .empty entries).get? roles = numberFor entries roles := by
  rw [get?_addedTo _ once, SortedMap.get?_empty, Option.or_none]

theorem addOverrides_eq_ok_iff {key : String} {numbers map : SortedMap RoleSet UInt32} :
    addOverrides key numbers entries = .ok map ↔ (entries.map Prod.snd).Nodup ∧
      (∀ entry ∈ entries, numbers.get? entry.2 = none) ∧ map = addedTo numbers entries := by
  induction entries generalizing numbers with
  | nil => simp [addOverrides, addedTo, eq_comm]
  | cons entry rest ih =>
      unfold addOverrides
      split
      · rename_i known
        have known : numbers.get? entry.2 ≠ none := by simpa [SortedMap.contains, Option.isSome_iff_ne_none] using known
        simp [known]
      · rename_i unknown
        have unknown : numbers.get? entry.2 = none := by simpa [SortedMap.contains] using unknown
        rw [ih]
        -- The rest is to be fresh to what is there with this entry, so that none of it names the same roles again.
        simp only [addedTo, List.foldl_cons, List.map_cons, List.nodup_cons, List.mem_map, SortedMap.get?_insert]
        grind

theorem overrides_eq_ok_iff {key : String} {setting : Option String} {map : SortedMap RoleSet UInt32} :
    TopologyDraft.overrides key setting = .ok map ↔ ∃ entries, SpellsOverrides setting entries ∧
      (entries.map Prod.snd).Nodup ∧ map = addedTo .empty entries := by
  cases setting with
  | none =>
      constructor
      · rintro ⟨⟩
        exact ⟨[], .absent, by simp, rfl⟩
      · rintro ⟨entries, ⟨⟩, _, rfl⟩
        rfl
  | some text =>
      simp only [TopologyDraft.overrides, bind_eq_ok_iff, counted_eq_ok_iff, addOverrides_eq_ok_iff]
      constructor
      · rintro ⟨entries, spelled, once, _, rfl⟩
        exact ⟨entries, .given spelled, once, rfl⟩
      · rintro ⟨entries, ⟨⟩ | spelled, once, rfl⟩
        exact ⟨entries, spelled, once, fun _ _ => rfl, rfl⟩

theorem mem_keys_addedTo (once : (entries.map Prod.snd).Nodup) :
    roles ∈ (addedTo .empty entries).keys ↔ roles ∈ entries.map Prod.snd := by
  rw [SortedMap.mem_keys, get?_addedTo_empty once, Ne, numberFor_eq_none, not_not]

/-! ### Groups -/

structure Lists.FitAt (lists : Lists) (entry : UInt32 × RoleSet) : Prop where
  count : 1 ≤ entry.1
  share : lists.percentFor entry.2 ≤ 100
  enough : ∀ minimum, numberFor lists.minimums entry.2 = some minimum → minimum ≤ entry.1

def Lists.groupOf (lists : Lists) (entry : UInt32 × RoleSet) : InstanceGroup :=
  let percent := (lists.percentFor entry.2).toUInt8
  ⟨entry.2, entry.1, percent, (numberFor lists.minimums entry.2).getD (ceilPercent entry.1 percent)⟩

theorem toNat_toUInt8 {percent : UInt32} (fits : percent ≤ 255) : percent.toUInt8.toNat = percent.toNat := by
  have fits : percent.toNat ≤ 255 := fits
  rw [UInt32.toNat_toUInt8]
  omega

theorem toUInt8_le {percent : UInt32} (within : percent ≤ 100) : percent.toUInt8 ≤ 100 := by
  have within : percent.toNat ≤ 100 := within
  rw [UInt8.le_iff_toNat_le, UInt32.toNat_toUInt8]
  exact (Nat.mod_le _ _).trans within

theorem describes_iff (share : lists.percentFor entry.2 ≤ 100) : Describes lists entry made ↔ made = lists.groupOf entry := by
  have percent := toNat_toUInt8 (UInt32.le_trans share (by decide : (100 : UInt32) ≤ 255))
  have minimum : ((numberFor lists.minimums entry.2).getD (ceilPercent entry.1 (lists.percentFor entry.2).toUInt8)).toNat =
      ((numberFor lists.minimums entry.2).map UInt32.toNat).getD (entry.1.toNat * (lists.percentFor entry.2).toNat ⌈/⌉ 100) := by
    cases numberFor lists.minimums entry.2 with
    | none => rw [Option.getD_none, toNat_ceilPercent _ (toUInt8_le share), percent, Nat.ceilDiv_eq_add_pred_div]; rfl
    | some minimum => rfl
  constructor
  · rintro ⟨target, roles, same, least⟩
    obtain ⟨roles', target', percent', minimum'⟩ := made
    rw [same, ← minimum] at least
    simp only [Lists.groupOf, InstanceGroup.mk.injEq]
    exact ⟨roles, target, UInt8.toNat_inj.mp (same.trans percent.symm), UInt32.toNat_inj.mp least⟩
  · rintro rfl
    exact ⟨rfl, rfl, percent, by rw [show (lists.groupOf entry).minPercent.toNat = _ from percent]; exact minimum⟩

theorem validate_groupOf (filled : entry.2.isEmpty = false) (share : lists.percentFor entry.2 ≤ 100) :
    (lists.groupOf entry).validate = .ok () ↔ lists.FitAt entry := by
  rw [InstanceGroup.validate_eq_ok_iff]
  constructor
  · rintro ⟨_, some, _, enough⟩
    refine ⟨some, share, fun minimum given => ?_⟩
    simpa [Lists.groupOf, given] using enough
  · rintro ⟨some, _, enough⟩
    refine ⟨filled, some, toUInt8_le share, ?_⟩
    -- A minimum that comes from a percentage is never too large, and needs no check.
    cases given : numberFor lists.minimums entry.2 with
    | none => simpa [Lists.groupOf, given] using UInt32.le_iff_toNat_le.mpr (ceilPercent_le entry.1 (toUInt8_le share))
    | some minimum => simpa [Lists.groupOf, given] using enough minimum given

section
variable {percents minimums : SortedMap RoleSet UInt32} (percentsAre : percents.get? entry.2 = numberFor lists.percents entry.2)
  (minimumsAre : minimums.get? entry.2 = numberFor lists.minimums entry.2)
include percentsAre

theorem getD_percents : percents.getD entry.2 100 = lists.percentFor entry.2 := by
  rw [SortedMap.getD, percentsAre, Lists.percentFor]

include minimumsAre in
theorem group_of_share (share : lists.percentFor entry.2 ≤ 100) :
    TopologyDraft.group percents minimums entry = .ok (lists.groupOf entry) := by
  have fits : ¬ 255 < lists.percentFor entry.2 := UInt32.not_lt.mpr (UInt32.le_trans share (by decide))
  unfold TopologyDraft.group
  dsimp only
  rw [getD_percents percentsAre, if_neg fits, if_pos (toUInt8_le share), SortedMap.getD, minimumsAre]
  rfl

-- A percentage above one hundred is refused before it is narrowed to eight bits, or afterwards.
theorem share_of_group (making : TopologyDraft.group percents minimums entry = .ok made) (valid : made.validate = .ok ()) :
    lists.percentFor entry.2 ≤ 100 := by
  unfold TopologyDraft.group at making
  dsimp only at making
  rw [getD_percents percentsAre] at making
  split at making
  · cases making
  · rename_i fits
    cases making
    have share := UInt8.le_iff_toNat_le.mp (InstanceGroup.validate_eq_ok_iff.mp valid).2.2.1
    rw [toNat_toUInt8 (UInt32.not_lt.mp fits)] at share
    exact share

include minimumsAre in
theorem group_valid_iff (filled : entry.2.isEmpty = false) :
    (TopologyDraft.group percents minimums entry = .ok made ∧ made.validate = .ok ()) ↔
      lists.FitAt entry ∧ Describes lists entry made := by
  constructor
  · rintro ⟨making, valid⟩
    have share := share_of_group percentsAre making valid
    rw [group_of_share percentsAre minimumsAre share] at making
    cases making
    exact ⟨(validate_groupOf filled share).mp valid, (describes_iff share).mpr rfl⟩
  · rintro ⟨fit, describes⟩
    obtain rfl := (describes_iff fit.share).mp describes
    exact ⟨group_of_share percentsAre minimumsAre fit.share, (validate_groupOf filled fit.share).mpr fit⟩

end

/-! ### Lists of groups -/

theorem mapM_eq_ok_iff {ε α β : Type} {make : α → Except ε β} {items : List α} {results : List β} :
    items.mapM make = .ok results ↔ List.Forall₂ (fun item result => make item = .ok result) items results := by
  induction items generalizing results with
  | nil => simp [pure, Except.pure, eq_comm]
  | cons item rest ih =>
      simp only [List.mapM_cons, bind_eq_ok_iff, List.forall₂_cons_left_iff, ih]
      constructor
      · rintro ⟨result, making, others, more, same⟩
        cases same
        exact ⟨result, others, making, more, rfl⟩
      · rintro ⟨result, others, making, more, rfl⟩
        exact ⟨result, making, others, more, rfl⟩

theorem undeclared_eq_none_iff {percents minimums : SortedMap RoleSet UInt32} : undeclared groups percents minimums = none ↔
    ∀ roles, roles ∈ percents.keys ∨ roles ∈ minimums.keys → roles ∈ groups.map InstanceGroup.roles := by
  simp only [undeclared, List.find?_eq_none, List.mem_append, List.any_eq_true, List.mem_map, decide_eq_true_eq,
    Bool.not_eq_true', Bool.not_eq_false]

theorem fit_iff (percentsOnce : (lists.percents.map Prod.snd).Nodup) (minimumsOnce : (lists.minimums.map Prod.snd).Nodup) :
    lists.Fit ↔ (lists.templates.map Prod.snd).Nodup ∧ (∀ entry ∈ lists.templates, lists.FitAt entry) ∧
      ∀ roles, roles ∈ lists.percents.map Prod.snd ∨ roles ∈ lists.minimums.map Prod.snd →
        roles ∈ lists.templates.map Prod.snd := by
  constructor
  · intro fit
    refine ⟨fit.distinct, fun entry member => ⟨fit.counts entry member, ?_, fun minimum given => ?_⟩, ?_⟩
    · unfold Lists.percentFor
      cases given : numberFor lists.percents entry.2 with
      | none => exact UInt32.le_refl 100
      | some percent => exact fit.share _ ((numberFor_eq_some_iff percentsOnce).mp given)
    · exact fit.enough entry member minimum ((numberFor_eq_some_iff minimumsOnce).mp given)
    · rintro roles (overrides | overrides)
      · obtain ⟨entry, member, rfl⟩ := List.mem_map.mp overrides
        exact fit.percents.declared entry member
      · obtain ⟨entry, member, rfl⟩ := List.mem_map.mp overrides
        exact fit.minimums.declared entry member
  · rintro ⟨distinct, fits, declared⟩
    refine ⟨distinct, fun entry member => (fits entry member).count, ⟨percentsOnce, fun entry member => ?_⟩,
      ⟨minimumsOnce, fun entry member => ?_⟩, fun entry member => ?_, fun entry member minimum given => ?_⟩
    · exact declared _ (.inl (List.mem_map_of_mem member))
    · exact declared _ (.inr (List.mem_map_of_mem member))
    · obtain ⟨template, among, same⟩ := List.mem_map.mp (declared _ (.inl (List.mem_map_of_mem member)))
      have given := (numberFor_eq_some_iff percentsOnce).mpr member
      have share := (fits template among).share
      rwa [same, Lists.percentFor, given] at share
    · exact (fits entry member).enough minimum ((numberFor_eq_some_iff minimumsOnce).mpr given)

theorem roles_of_describes (described : List.Forall₂ (Describes lists) entries groups) :
    groups.map InstanceGroup.roles = entries.map Prod.snd := by
  induction described with
  | nil => rfl
  | cons describes _ ih => rw [List.map_cons, List.map_cons, describes.roles, ih]

section
variable {percents minimums : SortedMap RoleSet UInt32}
  (percentsAre : ∀ roles, percents.get? roles = numberFor lists.percents roles)
  (minimumsAre : ∀ roles, minimums.get? roles = numberFor lists.minimums roles)
include percentsAre minimumsAre

theorem entries_valid_iff (filled : ∀ entry ∈ entries, entry.2.isEmpty = false) :
    (entries.mapM (TopologyDraft.group percents minimums) = .ok groups ∧ ∀ group ∈ groups, group.validate = .ok ()) ↔
      (∀ entry ∈ entries, lists.FitAt entry) ∧ List.Forall₂ (Describes lists) entries groups := by
  rw [mapM_eq_ok_iff]
  induction entries generalizing groups with
  | nil => simp +contextual
  | cons entry rest ih =>
      obtain ⟨first, filled⟩ := List.forall_mem_cons.mp filled
      constructor
      · rintro ⟨making | ⟨making, more⟩, valid⟩
        obtain ⟨validFirst, valid⟩ := List.forall_mem_cons.mp valid
        obtain ⟨fit, describes⟩ := (group_valid_iff (percentsAre _) (minimumsAre _) first).mp ⟨making, validFirst⟩
        obtain ⟨fits, described⟩ := (ih filled).mp ⟨more, valid⟩
        exact ⟨List.forall_mem_cons.mpr ⟨fit, fits⟩, .cons describes described⟩
      · rintro ⟨fits, describes | ⟨describes, described⟩⟩
        obtain ⟨fit, fits⟩ := List.forall_mem_cons.mp fits
        obtain ⟨making, validFirst⟩ := (group_valid_iff (percentsAre _) (minimumsAre _) first).mpr ⟨fit, describes⟩
        obtain ⟨more, valid⟩ := (ih filled).mpr ⟨fits, described⟩
        exact ⟨.cons making more, List.forall_mem_cons.mpr ⟨validFirst, valid⟩⟩

end

theorem groups_valid_iff (lists : Lists) (percentsOnce : (lists.percents.map Prod.snd).Nodup)
    (minimumsOnce : (lists.minimums.map Prod.snd).Nodup) (filled : ∀ entry ∈ lists.templates, entry.2.isEmpty = false) :
    (lists.templates.mapM (TopologyDraft.group (addedTo .empty lists.percents) (addedTo .empty lists.minimums)) = .ok groups ∧
        undeclared groups (addedTo .empty lists.percents) (addedTo .empty lists.minimums) = none ∧
        validateGroups [] groups = .ok ()) ↔
      lists.Fit ∧ List.Forall₂ (Describes lists) lists.templates groups := by
  have entriesValid := @entries_valid_iff lists.templates lists groups _ _ (get?_addedTo_empty percentsOnce)
    (get?_addedTo_empty minimumsOnce) filled
  rw [undeclared_eq_none_iff, validateGroups_eq_ok_iff, fit_iff percentsOnce minimumsOnce]
  simp only [mem_keys_addedTo percentsOnce, mem_keys_addedTo minimumsOnce]
  constructor
  · rintro ⟨making, declared, valid, distinct, _⟩
    obtain ⟨fits, described⟩ := entriesValid.mp ⟨making, valid⟩
    rw [roles_of_describes described] at declared distinct
    exact ⟨⟨distinct, fits, declared⟩, described⟩
  · rintro ⟨⟨distinct, fits, declared⟩, described⟩
    obtain ⟨making, valid⟩ := entriesValid.mpr ⟨fits, described⟩
    rw [roles_of_describes described]
    exact ⟨making, declared, valid, distinct, by simp⟩

/-! ### Whole drafts -/

theorem required_eq_ok_iff {key value : String} {setting : Option String} :
    required key setting = .ok value ↔ setting = some value := by
  cases setting <;> simp [required]

section
variable {draft : TopologyDraft} {defaults : BlobDefaults} {name provider : String} {topology : Topology}

-- The settings that are given and the ones that are not are checked alike: what stands in for them is valid.
theorem validate_assemble : (draft.assemble defaults name provider groups).validate = .ok () ↔
    SpellsClusterName name.toList ∧ draft.clusterUser ≠ some "root" ∧ groups ≠ [] ∧ validateGroups [] groups = .ok () ∧
      ((∀ limit, draft.maxConcurrentLaunches = some limit → 1 ≤ limit) ∧ ∃ c ∈ provider.toList, Text.isBlank c = false) ∧
      (∀ container, draft.storeContainer = some container → SpellsContainer container.toList) ∧
        (draft.store = some .blob → ∃ container, draft.storeContainer = some container) := by
  have limit : 1 ≤ draft.maxConcurrentLaunches.getD defaultConcurrency ↔
      ∀ limit, draft.maxConcurrentLaunches = some limit → 1 ≤ limit := by
    cases draft.maxConcurrentLaunches <;> simp [defaultConcurrency]
  have store : draft.store.getD .files = .blob ↔ draft.store = some .blob := by
    cases draft.store <;> simp
  rw [Topology.validate_eq_ok_iff, Topology.validateName_eq_ok_iff, Topology.validateUser_eq_ok_iff,
    Topology.validateLimits_eq_ok_iff, Topology.validateStore_eq_ok_iff]
  simp only [assemble, limit, store]

theorem create_eq_ok_iff : draft.create defaults = .ok topology ↔ ∃ name provider lists groups,
    draft.clusterName = some name ∧ draft.provider = some provider ∧ draft.Documented lists ∧
      List.Forall₂ (Describes lists) lists.templates groups ∧ topology = draft.assemble defaults name provider groups := by
  constructor
  · intro created
    simp only [create, bind_eq_ok_iff, required_eq_ok_iff, overrides_eq_ok_iff, counted_eq_ok_iff] at created
    obtain ⟨name, named, provider, provided, text, given, _, ⟨percents, spelledPercents, percentsOnce, rfl⟩,
      _, ⟨minimums, spelledMinimums, minimumsOnce, rfl⟩, templates, spelled, groups, making, created⟩ := created
    split at created
    · cases created
    · rename_i declared
      obtain ⟨_, valid, same⟩ := bind_eq_ok_iff.mp created
      cases same
      obtain ⟨validName, user, some, validGroups, ⟨limit, filled⟩, container, kept⟩ := validate_assemble.mp valid
      obtain ⟨fit, described⟩ := (groups_valid_iff ⟨templates, percents, minimums⟩ percentsOnce minimumsOnce
        fun entry member => (spelled.areRoles entry member).filled).mp ⟨making, declared, validGroups⟩
      exact ⟨name, provider, _, groups, named, provided, ⟨⟨name, named, validName⟩, ⟨provider, provided, filled⟩,
        ⟨text, given, spelled⟩, spelledPercents, spelledMinimums, fit, user, limit, container, kept⟩, described, rfl⟩
  · rintro ⟨name, provider, lists, groups, named, provided, documented, described, rfl⟩
    obtain ⟨text, given, spelled⟩ := documented.templates
    obtain ⟨_, again, validName⟩ := documented.named
    obtain rfl := Option.some.inj (named.symm.trans again)
    obtain ⟨_, again, filled⟩ := documented.provided
    obtain rfl := Option.some.inj (provided.symm.trans again)
    obtain ⟨making, declared, validGroups⟩ := (groups_valid_iff lists documented.fit.percents.once documented.fit.minimums.once
      fun entry member => (spelled.areRoles entry member).filled).mpr ⟨documented.fit, described⟩
    have percents : overrides percentsKey draft.minPercents = .ok (addedTo .empty lists.percents) :=
      overrides_eq_ok_iff.mpr ⟨_, documented.percents, documented.fit.percents.once, rfl⟩
    have minimums : overrides minimumsKey draft.minInstances = .ok (addedTo .empty lists.minimums) :=
      overrides_eq_ok_iff.mpr ⟨_, documented.minimums, documented.fit.minimums.once, rfl⟩
    have some : groups ≠ [] := by
      rintro rfl
      exact spelled.ne_nil (List.forall₂_nil_right_iff.mp described)
    have valid : (draft.assemble defaults name provider groups).validate = .ok () :=
      validate_assemble.mpr ⟨validName, documented.user, some, validGroups, ⟨documented.limit, filled⟩,
        documented.container, documented.kept⟩
    simp only [create, bind_eq_ok_iff, required_eq_ok_iff]
    refine ⟨name, named, provider, provided, text, given, _, percents, _, minimums, _, (counted_eq_ok_iff _ _).mpr spelled,
      groups, making, ?_⟩
    rw [declared]
    exact bind_eq_ok_iff.mpr ⟨(), valid, rfl⟩

-- Entries that fit are described by some groups.
theorem exists_groups (fit : lists.Fit) : ∃ groups, List.Forall₂ (Describes lists) lists.templates groups := by
  obtain ⟨_, fits, _⟩ := (fit_iff fit.percents.once fit.minimums.once).mp fit
  refine ⟨lists.templates.map lists.groupOf, List.forall₂_map_right_iff.mpr (List.forall₂_same.mpr fun entry member => ?_)⟩
  exact (describes_iff (fits entry member).share).mpr rfl

end

/-- A draft becomes a topology exactly if it is as documented, and then the groups of the topology are the
ones that the entries of its templates describe, in their order. -/
theorem creates_what_is_documented (draft : TopologyDraft) (defaults : BlobDefaults) :
    ((∃ topology, draft.create defaults = .ok topology) ↔ ∃ lists, draft.Documented lists) ∧
    ∀ topology, draft.create defaults = .ok topology →
      ∃ lists, draft.Documented lists ∧ List.Forall₂ (Describes lists) lists.templates topology.groups := by
  refine ⟨⟨?_, ?_⟩, ?_⟩
  · rintro ⟨topology, created⟩
    obtain ⟨_, _, lists, _, _, _, documented, _⟩ := create_eq_ok_iff.mp created
    exact ⟨lists, documented⟩
  · rintro ⟨lists, documented⟩
    obtain ⟨name, named, _⟩ := documented.named
    obtain ⟨provider, provided, _⟩ := documented.provided
    obtain ⟨groups, described⟩ := exists_groups documented.fit
    exact ⟨_, create_eq_ok_iff.mpr ⟨name, provider, lists, groups, named, provided, documented, described, rfl⟩⟩
  · intro topology created
    obtain ⟨_, _, lists, groups, _, _, documented, described, rfl⟩ := create_eq_ok_iff.mp created
    exact ⟨lists, documented, described⟩

-- The override names the roles of the second group in another order, and three fifths of three machines are two.
theorem creates_what_is_documented_of_override :
    let draft := { empty with
      clusterName := some "hadoop", provider := some "stub"
      templates := some "1 namenode, 3 datanode+tasktracker", minPercents := some "60 tasktracker+datanode" }
    let topology := draft.assemble .builtIn "hadoop" "stub"
      [⟨.ofList ["namenode"], 1, 100, 1⟩, ⟨.ofList ["datanode", "tasktracker"], 3, 60, 2⟩]
    draft.create .builtIn = .ok topology ∧
      ∃ lists, draft.Documented lists ∧ List.Forall₂ (Describes lists) lists.templates topology.groups := by
  intro draft topology
  have created : draft.create .builtIn = .ok topology := by decide +kernel
  exact ⟨created, (creates_what_is_documented draft .builtIn).2 topology created⟩

-- One hundred and two hundred and fifty-six more are not taken for one hundred.
example : { empty with
    clusterName := some "hadoop", provider := some "stub"
    templates := some "1 namenode", minPercents := some "356 namenode" }.create .builtIn =
      .error (InstanceGroup.percentFault (.ofList ["namenode"]) 356) := by decide +kernel

end TopologyDraft

end Muster
