import Muster.Proofs.Topology.Acceptance

/-!
Printing groups and role sets spells them, so that what is printed is read as it was. The text of
a role set is thus as good as the set: it is what names a group in overrides and in faults.
-/

namespace Muster

open Template

namespace Template

def Names (text role : String) : Prop := ∃ names, SpellsRoles text.toList names ∧ role ∈ names

theorem mem_iff_names {text : String} {set : RoleSet} (read : roles text = .ok set) (role : String) :
    role ∈ set ↔ Names text role := by
  constructor
  · intro member
    obtain ⟨names, spelled, rfl⟩ := (roles_eq_ok_iff text set).mp read
    exact ⟨names, spelled, (SortedSet.mem_ofList _ _).mp member⟩
  · rintro ⟨names, spelled, member⟩
    have again := (roles_eq_ok_iff text (.ofList names)).mpr ⟨names, spelled, rfl⟩
    obtain rfl : set = .ofList names := Except.ok.inj (read.symm.trans again)
    exact (SortedSet.mem_ofList _ _).mpr member

theorem areRoles_of_read {text : String} {set : RoleSet} (read : roles text = .ok set) : AreRoles set := by
  obtain ⟨names, spelled, rfl⟩ := (roles_eq_ok_iff text set).mp read
  exact spelled.areRoles

end Template

/-! ### Role sets -/

theorem spellsNames_intercalate {names : List String} (some : names ≠ []) (valid : ∀ name ∈ names, IsRoleName name) :
    SpellsNames ("+".intercalate names).toList names := by
  induction names with
  | nil => exact (some rfl).elim
  | cons name rest ih =>
      obtain ⟨first, valid⟩ := List.forall_mem_cons.mp valid
      cases rest with
      | nil => simpa using SpellsNames.one first
      | cons next others =>
          have spelled := SpellsNames.more first (ih (List.cons_ne_nil _ _) valid)
          simpa [String.intercalate_cons_cons] using spelled

namespace RoleSet

variable {set other : RoleSet}

theorem spells_text (areRoles : AreRoles set) : SpellsNames set.text.toList set.toList :=
  spellsNames_intercalate (by simpa [SortedSet.isEmpty] using areRoles.filled) areRoles.valid

theorem read_text (areRoles : AreRoles set) : roles set.text = .ok set := by
  refine (roles_eq_ok_iff _ _).mpr ⟨set.toList, ?_, set.ofList_toList.symm⟩
  simpa using SpellsRoles.padded areBlanks_nil (spells_text areRoles) areBlanks_nil

theorem text_injective (areRoles : AreRoles set) (others : AreRoles other) (same : set.text = other.text) : set = other := by
  have read := read_text areRoles
  rw [same, read_text others] at read
  exact (Except.ok.inj read).symm

end RoleSet

/-! ### Groups -/

namespace InstanceGroup

theorem spells_text {group : InstanceGroup} (areRoles : AreRoles group.roles) :
    SpellsEntry group.text.toList (group.target, group.roles) := by
  have numeric : ∀ c ∈ Text.decimalDigits group.target.toNat, c.isDigit = true := fun c member =>
    Nat.isDigit_of_mem_toDigits (by decide) (by decide) member
  have value : group.target.toNat = Text.decimalValue (Text.decimalDigits group.target.toNat) :=
    Nat.ofDigitChars_ten_toDigits.symm
  have blank : AreBlanks [' '] := List.forall_mem_singleton.mpr rfl
  have spelled := SpellsEntry.numbered areBlanks_nil Nat.toDigits_ne_nil numeric value (List.cons_ne_nil _ _) blank
    (RoleSet.spells_text areRoles) areBlanks_nil
  simpa [text, Text.decimalDigits] using spelled

end InstanceGroup

theorem spellsEntries_intercalate {groups : List InstanceGroup} (some : groups ≠ [])
    (areRoles : ∀ group ∈ groups, AreRoles group.roles) :
    SpellsEntries (",".intercalate (groups.map InstanceGroup.text)).toList
      (groups.map fun group => (group.target, group.roles)) := by
  induction groups with
  | nil => exact (some rfl).elim
  | cons group rest ih =>
      obtain ⟨first, areRoles⟩ := List.forall_mem_cons.mp areRoles
      cases rest with
      | nil => simpa using SpellsEntries.one (InstanceGroup.spells_text first)
      | cons next others =>
          have spelled := SpellsEntries.more (InstanceGroup.spells_text first) (ih (List.cons_ne_nil _ _) areRoles)
          simpa [String.intercalate_cons_cons] using spelled

-- The groups of a topology come from entries, which have role sets.
theorem areRoles_of_create {draft : TopologyDraft} {defaults : BlobDefaults} {topology : Topology}
    (created : draft.create defaults = .ok topology) :
    topology.groups ≠ [] ∧ ∀ group ∈ topology.groups, AreRoles group.roles := by
  obtain ⟨_, _, lists, groups, _, _, documented, described, rfl⟩ := TopologyDraft.create_eq_ok_iff.mp created
  obtain ⟨_, _, spelled⟩ := documented.templates
  have same := TopologyDraft.roles_of_describes described
  refine ⟨?_, fun group member => ?_⟩
  · rintro nothing
    rw [show groups = [] from nothing] at described
    exact spelled.ne_nil (List.forall₂_nil_right_iff.mp described)
  · have among : group.roles ∈ lists.templates.map Prod.snd := same ▸ List.mem_map_of_mem member
    obtain ⟨entry, declared, roles⟩ := List.mem_map.mp among
    exact roles ▸ spelled.areRoles entry declared

/-- What is printed is read as it was: groups with role sets, of whatever counts, between commas, and so the groups of
any topology; and a set of role names. Of two texts that are read the sets are the same exactly if the texts list the same
roles, and exactly if the sets are printed alike. -/
theorem reads_what_is_printed :
    (∀ groups : List InstanceGroup, groups ≠ [] → (∀ group ∈ groups, AreRoles group.roles) →
      counted (",".intercalate (groups.map InstanceGroup.text)) =
        .ok (groups.map fun group => (group.target, group.roles))) ∧
    (∀ (draft : TopologyDraft) defaults topology, draft.create defaults = .ok topology →
      counted (",".intercalate (topology.groups.map InstanceGroup.text)) =
        .ok (topology.groups.map fun group => (group.target, group.roles))) ∧
    (∀ set, AreRoles set → roles set.text = .ok set) ∧
    ∀ left right leftSet rightSet, roles left = .ok leftSet → roles right = .ok rightSet →
      (leftSet = rightSet ↔ ∀ role, Names left role ↔ Names right role) ∧
      (leftSet = rightSet ↔ leftSet.text = rightSet.text) ∧ roles leftSet.text = .ok leftSet := by
  have groupsRead (groups : List InstanceGroup) (some : groups ≠ []) (areRoles : ∀ group ∈ groups, AreRoles group.roles) :=
    (counted_eq_ok_iff _ _).mpr (spellsEntries_intercalate some areRoles)
  refine ⟨groupsRead, ?_, fun set areRoles => RoleSet.read_text areRoles, ?_⟩
  · intro draft defaults topology created
    obtain ⟨some, areRoles⟩ := areRoles_of_create created
    exact groupsRead topology.groups some areRoles
  · intro left right leftSet rightSet readLeft readRight
    have areLeft := areRoles_of_read readLeft
    have areRight := areRoles_of_read readRight
    refine ⟨?_, ⟨congrArg RoleSet.text, RoleSet.text_injective areLeft areRight⟩, RoleSet.read_text areLeft⟩
    simp only [← mem_iff_names readLeft, ← mem_iff_names readRight]
    exact ⟨fun same _ => same ▸ Iff.rfl, SortedSet.ext⟩

-- Two groups of which one is as large as a group can be, and a text that lists the roles of that one in another order
-- and one of them twice.
theorem reads_what_is_printed_of_largest :
    let draft := { TopologyDraft.empty with
      clusterName := some "hadoop", provider := some "stub"
      templates := some "1 namenode , 4294967295 tasktracker+datanode" }
    let workers : RoleSet := .ofList ["datanode", "tasktracker"]
    let groups : List InstanceGroup := [.new (.ofList ["namenode"]) 1, .new workers 4294967295]
    let text := " tasktracker+datanode+tasktracker"
    (groups ≠ [] ∧ ∀ group ∈ groups, AreRoles group.roles) ∧
    counted (",".intercalate (groups.map InstanceGroup.text)) =
      .ok [(1, .ofList ["namenode"]), (4294967295, workers)] ∧
    draft.create .builtIn = .ok (draft.assemble .builtIn "hadoop" "stub" groups) ∧
    roles text = .ok workers ∧ roles "datanode+tasktracker" = .ok workers ∧
    (∀ role, Names text role ↔ Names "datanode+tasktracker" role) ∧ roles workers.text = .ok workers := by
  intro draft workers groups text
  have created : draft.create .builtIn = .ok (draft.assemble .builtIn "hadoop" "stub" groups) := by decide +kernel
  have twice : roles text = .ok workers := by decide +kernel
  have once : roles "datanode+tasktracker" = .ok workers := by decide +kernel
  have areRoles := areRoles_of_create created
  obtain ⟨printed, _, itself, sets⟩ := reads_what_is_printed
  obtain ⟨names, _⟩ := sets text "datanode+tasktracker" workers workers twice once
  exact ⟨areRoles, printed groups areRoles.1 areRoles.2, created, twice, once, names.mp rfl,
    itself workers (areRoles_of_read once)⟩

end Muster
