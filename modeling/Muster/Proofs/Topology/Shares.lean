import Mathlib
import Muster.Proofs.Topology.Printing

/-!
A group that needs a share of its machines only, made in two ways: built with the percentage set
afterwards, or created from a draft whose templates list it and whose percentages override it. They
agree in all but the minimum. A draft takes the share as the minimum; a built group keeps the one it
was built with, which is all of its machines, so that its percentage changes nothing.
-/

namespace Muster

open Template TopologyDraft

variable {roles : RoleSet} {target : UInt32} {percent : UInt8} {draft : TopologyDraft} {defaults : BlobDefaults}
  {lists : Lists} {topology : Topology}

/-! ### The share of a count -/

def InstanceGroup.ofShare (roles : RoleSet) (target : UInt32) (percent : UInt8) : InstanceGroup :=
  ⟨roles, target, percent, ceilPercent target percent⟩

theorem InstanceGroup.required_ofShare (roles : RoleSet) (target : UInt32) (percent : UInt8) :
    (ofShare roles target percent).required = ceilPercent target percent := by
  simp [required, ofShare]

theorem InstanceGroup.required_withMinPercent (roles : RoleSet) (target : UInt32) (within : percent ≤ 100) :
    ((new roles target).withMinPercent percent).required = target :=
  if_pos (UInt32.le_iff_toNat_le.mpr (ceilPercent_le target within))

-- Less than one machine is left out of the share.
theorem ceilPercent_eq_self_iff (target : UInt32) (within : percent ≤ 100) :
    ceilPercent target percent = target ↔ target.toNat * (100 - percent.toNat) < 100 := by
  have within' : percent.toNat ≤ 100 := within
  have product : target.toNat * percent.toNat ≤ target.toNat * 100 := Nat.mul_le_mul_left _ within'
  rw [← UInt32.toNat_inj, toNat_ceilPercent target within, Nat.mul_sub]
  omega

/-! ### The draft of one group -/

def TopologyDraft.withShare (draft : TopologyDraft) (roles : RoleSet) (target : UInt32) (percent : UInt8) :
    TopologyDraft :=
  { draft with
    templates := some (InstanceGroup.new roles target).text
    minPercents := some (InstanceGroup.new roles percent.toUInt32).text
    minInstances := none }

theorem spells_one (areRoles : AreRoles roles) (number : UInt32) :
    SpellsEntries (InstanceGroup.new roles number).text.toList [(number, roles)] :=
  .one (InstanceGroup.spells_text areRoles)

-- A text spells one list of entries, the one that is read from it.
theorem Template.SpellsEntries.unique {text : String} {entries others : List (UInt32 × RoleSet)}
    (spelled : SpellsEntries text.toList entries) (again : SpellsEntries text.toList others) : entries = others := by
  have read := (counted_eq_ok_iff text entries).mpr spelled
  rw [(counted_eq_ok_iff text others).mpr again] at read
  exact (Except.ok.inj read).symm

def TopologyDraft.Lists.ofShare (roles : RoleSet) (target : UInt32) (percent : UInt8) : Lists :=
  ⟨[(target, roles)], [(percent.toUInt32, roles)], []⟩

theorem percent_toUInt32_le (within : percent ≤ 100) : percent.toUInt32 ≤ 100 := by
  have within' : percent.toNat ≤ 100 := within
  rw [UInt32.le_iff_toNat_le, UInt8.toNat_toUInt32]
  exact within'

theorem fit_ofShare (roles : RoleSet) (some : 1 ≤ target) (within : percent ≤ 100) :
    (Lists.ofShare roles target percent).Fit where
  distinct := by simp [Lists.ofShare]
  counts := by simpa [Lists.ofShare] using some
  percents := ⟨by simp [Lists.ofShare], by simp [Lists.ofShare]⟩
  minimums := ⟨by simp [Lists.ofShare], by simp [Lists.ofShare]⟩
  share := by simpa [Lists.ofShare] using percent_toUInt32_le within
  enough := by simp [Lists.ofShare]

theorem documented_withShare (documented : draft.Documented lists) (areRoles : AreRoles roles) (some : 1 ≤ target)
    (within : percent ≤ 100) : (draft.withShare roles target percent).Documented (.ofShare roles target percent) where
  named := documented.named
  provided := documented.provided
  templates := ⟨_, rfl, spells_one areRoles target⟩
  percents := .given (spells_one areRoles percent.toUInt32)
  minimums := .absent
  fit := fit_ofShare roles some within
  user := documented.user
  limit := documented.limit
  container := documented.container
  kept := documented.kept

theorem lists_withShare (documented : (draft.withShare roles target percent).Documented lists)
    (areRoles : AreRoles roles) : lists = .ofShare roles target percent := by
  obtain ⟨templates, percents, minimums⟩ := lists
  obtain ⟨text, given, spelled⟩ := documented.templates
  obtain rfl : (InstanceGroup.new roles target).text = text := Option.some.inj given
  obtain rfl : templates = [(target, roles)] := spelled.unique (spells_one areRoles target)
  have overrides : SpellsOverrides (some (InstanceGroup.new roles percent.toUInt32).text) percents := documented.percents
  obtain _ | ⟨spelled⟩ := overrides
  obtain rfl : percents = [(percent.toUInt32, roles)] := spelled.unique (spells_one areRoles percent.toUInt32)
  have none : SpellsOverrides none minimums := documented.minimums
  cases none
  rfl

theorem groupOf_ofShare (roles : RoleSet) (target : UInt32) (percent : UInt8) :
    (Lists.ofShare roles target percent).groupOf (target, roles) = .ofShare roles target percent := by
  simp [Lists.groupOf, Lists.percentFor, Lists.ofShare, numberFor, InstanceGroup.ofShare]

theorem groups_withShare (areRoles : AreRoles roles) (within : percent ≤ 100)
    (created : (draft.withShare roles target percent).create defaults = .ok topology) :
    topology.groups = [.ofShare roles target percent] := by
  obtain ⟨_, _, lists, groups, _, _, documented, described, rfl⟩ := create_eq_ok_iff.mp created
  obtain rfl := lists_withShare documented areRoles
  obtain ⟨made, _, describes, nothing, rfl⟩ := List.forall₂_cons_left_iff.mp described
  obtain rfl := List.forall₂_nil_left_iff.mp nothing
  have share : (Lists.ofShare roles target percent).percentFor roles ≤ 100 := by
    simpa [Lists.percentFor, Lists.ofShare, numberFor] using percent_toUInt32_le within
  rw [(describes_iff share).mp describes, groupOf_ofShare]
  rfl

/-- A draft that is accepted is accepted with any one group and a percentage for it, and the group
that is created needs the share of its machines, rounded up. The group that is built alike has the
same roles, count and percentage, but it needs all of its machines: the two are the same, and need
the same, exactly if the share leaves out less than a machine. With the minimum of the created
group set as well, the built group is that group. -/
theorem InstanceGroup.shares_built_and_created (draft : TopologyDraft) (defaults : BlobDefaults) (areRoles : AreRoles roles)
    (some : 1 ≤ target) (within : percent ≤ 100) :
    let built := (InstanceGroup.new roles target).withMinPercent percent
    ((∃ topology, draft.create defaults = .ok topology) →
      ∃ topology, (draft.withShare roles target percent).create defaults = .ok topology) ∧
    ∀ topology, (draft.withShare roles target percent).create defaults = .ok topology →
      ∃ created, topology.groups = [created] ∧
        created.required.toNat = target.toNat * percent.toNat ⌈/⌉ 100 ∧ built.required = target ∧
        created.minInstances = created.required ∧ built.withMinInstances created.minInstances = created ∧
        (built = created ↔ target.toNat * (100 - percent.toNat) < 100) ∧
        (built.required = created.required ↔ target.toNat * (100 - percent.toNat) < 100) := by
  intro built
  constructor
  · rintro ⟨topology, accepted⟩
    obtain ⟨_, _, lists, _, _, _, documented, _⟩ := create_eq_ok_iff.mp accepted
    have documented := documented_withShare documented areRoles some within
    exact (creates_what_is_documented _ defaults).1.mpr ⟨_, documented⟩
  · intro topology created
    have needs : built.required = target := required_withMinPercent roles target within
    refine ⟨.ofShare roles target percent, groups_withShare areRoles within created, ?_, needs, ?_, rfl, ?_, ?_⟩
    · rw [required_ofShare, toNat_ceilPercent target within, Nat.ceilDiv_eq_add_pred_div]
      rfl
    · rw [required_ofShare, ofShare]
    · rw [← ceilPercent_eq_self_iff target within]
      simp only [built, new, withMinPercent, ofShare, InstanceGroup.mk.injEq, true_and]
      exact eq_comm
    · rw [← ceilPercent_eq_self_iff target within, needs, required_ofShare]
      exact eq_comm

-- Three fifths of ten workers are enough for a draft, and not for a group that is built.
theorem InstanceGroup.built_needs_all :
    let workers : RoleSet := .ofList ["worker"]
    let draft := { TopologyDraft.empty with
      clusterName := some "small", provider := some "stub", templates := some "10 worker", minPercents := some "60 worker" }
    let built := (InstanceGroup.new workers 10).withMinPercent 60
    ∃ created, draft.create .builtIn = .ok (draft.assemble .builtIn "small" "stub" [created]) ∧
      AreRoles workers ∧ created.required = 6 ∧ built.required = 10 ∧ built ≠ created := by
  intro workers draft built
  have created : draft.create .builtIn = .ok (draft.assemble .builtIn "small" "stub" [.ofShare workers 10 60]) := by
    decide +kernel
  have areRoles := (areRoles_of_create created).2 _ List.mem_cons_self
  exact ⟨_, created, areRoles, by decide, by decide, by decide⟩

theorem InstanceGroup.shares_built_and_created_of_ten :
    let workers : RoleSet := .ofList ["worker"]
    let draft := { TopologyDraft.empty with
      clusterName := some "small", provider := some "stub", templates := some "1 namenode" }
    let built := (InstanceGroup.new workers 10).withMinPercent 60
    (AreRoles workers ∧ (1 : UInt32) ≤ 10 ∧ (60 : UInt8) ≤ 100 ∧ ∃ topology, draft.create .builtIn = .ok topology) ∧
    ∃ topology, (draft.withShare workers 10 60).create .builtIn = .ok topology ∧
      ∃ created, topology.groups = [created] ∧ created.required.toNat = 6 ∧ built.required = 10 ∧ built ≠ created := by
  intro workers draft built
  have accepted : draft.create .builtIn =
      .ok (draft.assemble .builtIn "small" "stub" [.new (.ofList ["namenode"]) 1]) := by decide +kernel
  have read : Template.roles "worker" = .ok workers := by decide +kernel
  have areRoles := areRoles_of_read read
  have some : (1 : UInt32) ≤ 10 := by decide
  have within : (60 : UInt8) ≤ 100 := by decide
  obtain ⟨again, groups⟩ := shares_built_and_created draft .builtIn areRoles some within
  obtain ⟨topology, created⟩ := again ⟨_, accepted⟩
  obtain ⟨made, groups, needs, all, _, _, same, _⟩ := groups topology created
  refine ⟨⟨areRoles, some, within, _, accepted⟩, topology, created, made, groups, ?_, all, ?_⟩
  · rw [needs]
    decide
  · rw [Ne, same]
    decide

end Muster
