import Muster.Firewall

/-!
What firewall rules permit, and what of it has been granted. Adding a rule takes nothing away
and changes nothing when the rule is there. What is permitted depends on the rules and on the
nodes and roles of the machines alone; once everything pending is granted, nothing is pending.
-/

namespace Muster

section

variable {α : Type} [DecidableEq α]

theorem firstOccurrences_nil : firstOccurrences ([] : List α) = [] := rfl

theorem mem_firstOccurrences {items : List α} {item : α} : item ∈ firstOccurrences items ↔ item ∈ items := by
  have all (kept : List α) : item ∈ items.foldl (fun kept item => if item ∈ kept then kept else kept ++ [item]) kept ↔
      item ∈ kept ∨ item ∈ items := by
    induction items generalizing kept with
    | nil => simp
    | cons head rest ih =>
        rw [List.foldl_cons, ih, List.mem_cons]
        split
        · rename_i known
          constructor
          · rintro (early | later)
            · exact .inl early
            · exact .inr (.inr later)
          · rintro (early | rfl | later)
            · exact .inl early
            · exact .inl known
            · exact .inr later
        · simp [or_assoc]
  rw [firstOccurrences, all []]
  simp

theorem nodup_firstOccurrences (items : List α) : (firstOccurrences items).Nodup := by
  have kept (kept : List α) (distinct : kept.Nodup) :
      (items.foldl (fun kept item => if item ∈ kept then kept else kept ++ [item]) kept).Nodup := by
    induction items generalizing kept with
    | nil => exact distinct
    | cons head rest ih =>
        rw [List.foldl_cons]
        apply ih
        split
        · exact distinct
        · rename_i fresh
          rw [List.nodup_append]
          refine ⟨distinct, by simp, ?_⟩
          rintro item member _ (_ | _) rfl
          · exact fresh member
          · contradiction
  exact kept [] List.nodup_nil

end

/-! ### Machines as the rules see them -/

def Instance.bare (machine : Instance) : Instance := .ofNode machine.node machine.roles

theorem Destination.covers_bare (destination : Destination) (machine : Instance) :
    destination.covers machine.bare = destination.covers machine := by
  cases destination <;> rfl

def Cluster.SameNodes (before after : Cluster) : Prop :=
  after.instances.map Instance.bare = before.instances.map Instance.bare

namespace Cluster

variable {before after later : Cluster}

theorem SameNodes.of_instances (same : after.instances = before.instances) : before.SameNodes after :=
  congrArg (List.map Instance.bare) same

theorem SameNodes.trans (first : before.SameNodes after) (second : after.SameNodes later) : before.SameNodes later :=
  Eq.trans second first

theorem SameNodes.roleNames (same : before.SameNodes after) : after.roleNames = before.roleNames := by
  have roles (cluster : Cluster) :
      cluster.instances.map Instance.roles = (cluster.instances.map Instance.bare).map Instance.roles := by
    rw [List.map_map]
    rfl
  rw [Cluster.roleNames, Cluster.roleNames, roles after, roles before, same]

end Cluster

namespace Firewall

/-! ### Adding rules -/

def Has (firewall : Firewall) (rule : FirewallRule) : Prop :=
  rule.ports.isEmpty = true ∨ rule ∈ firewall.rules

def addRules (firewall : Firewall) (rules : List FirewallRule) : Firewall := rules.foldl addRule firewall

def configRules (topology : Topology) : List FirewallRule :=
  topology.firewallRules.toList.map fun entry => configRule entry.1 entry.2

theorem addConfigRules_eq (firewall : Firewall) (topology : Topology) :
    firewall.addConfigRules topology = firewall.addRules (configRules topology) := by
  rw [addConfigRules, addRules, configRules, List.foldl_map]

structure Leads (before : Firewall) (granted : List IngressTarget) (after : Firewall) : Prop where
  rules : before.rules <+: after.rules
  sources : after.defaultSources = before.defaultSources
  applied : after.applied = before.applied ++ granted
  fresh : before.applied.Nodup → after.applied.Nodup

variable {before after later firewall : Firewall} {granted more : List IngressTarget} {rule : FirewallRule}
  {rules : List FirewallRule} {cluster other : Cluster} {target : IngressTarget}

theorem Leads.refl (firewall : Firewall) : firewall.Leads [] firewall :=
  ⟨List.prefix_refl _, rfl, by simp, id⟩

theorem Leads.trans (first : before.Leads granted after) (second : after.Leads more later) :
    before.Leads (granted ++ more) later where
  rules := first.rules.trans second.rules
  sources := second.sources.trans first.sources
  applied := by rw [second.applied, first.applied, List.append_assoc]
  fresh := fun distinct => second.fresh (first.fresh distinct)

theorem addRule_leads (firewall : Firewall) (rule : FirewallRule) : firewall.Leads [] (firewall.addRule rule) := by
  rw [addRule]
  split
  · exact .refl firewall
  · exact ⟨List.prefix_append _ _, rfl, by simp, id⟩

theorem addRules_leads (firewall : Firewall) (rules : List FirewallRule) :
    firewall.Leads [] (firewall.addRules rules) := by
  induction rules generalizing firewall with
  | nil => exact .refl firewall
  | cons rule rest ih => exact (firewall.addRule_leads rule).trans (ih _)

theorem Has.mono (has : before.Has rule) (leads : before.Leads granted after) : after.Has rule :=
  has.imp_right fun member => leads.rules.subset member

theorem addRule_has (firewall : Firewall) (rule : FirewallRule) : (firewall.addRule rule).Has rule := by
  simp only [addRule, Bool.or_eq_true, decide_eq_true_eq]
  split
  · assumption
  · exact .inr (by simp)

theorem addRules_has (firewall : Firewall) (member : rule ∈ rules) : (firewall.addRules rules).Has rule := by
  induction rules generalizing firewall with
  | nil => cases member
  | cons head rest ih =>
      rcases List.mem_cons.mp member with rfl | among
      · exact (firewall.addRule_has rule).mono (addRules_leads _ rest)
      · exact ih (firewall.addRule head) among

theorem addRule_of_has (has : firewall.Has rule) : firewall.addRule rule = firewall := by
  rw [addRule, if_pos]
  simpa [Has] using has

theorem addRules_of_has (has : ∀ rule ∈ rules, firewall.Has rule) : firewall.addRules rules = firewall := by
  induction rules with
  | nil => rfl
  | cons rule rest ih =>
      change (firewall.addRule rule).addRules rest = firewall
      rw [addRule_of_has (has rule List.mem_cons_self)]
      exact ih fun other member => has other (List.mem_cons_of_mem rule member)

/-! ### What is permitted -/

def Permits (firewall : Firewall) (cluster : Cluster) (target : IngressTarget) : Prop :=
  ∃ rule ∈ firewall.rules, ∃ machine ∈ cluster.instances, rule.destination.covers machine = true ∧
    target.id = machine.id ∧ target.address = machine.address ∧ target.port ∈ rule.ports ∧
    target.cidr ∈ firewall.sourcesOf rule

theorem mem_resolve : target ∈ firewall.resolve cluster ↔ firewall.Permits cluster target := by
  rw [resolve, mem_firstOccurrences]
  simp only [List.mem_flatMap, expand, List.mem_filter, List.mem_map, Permits]
  constructor
  · rintro ⟨rule, listed, machine, ⟨member, covers⟩, port, opened, cidr, source, rfl⟩
    exact ⟨rule, listed, machine, member, covers, rfl, rfl, opened, source⟩
  · rintro ⟨rule, listed, machine, member, covers, id, address, opened, source⟩
    refine ⟨rule, listed, machine, ⟨member, covers⟩, target.port, opened, target.cidr, source, ?_⟩
    rw [← id, ← address]

theorem mem_pending :
    target ∈ firewall.pending cluster ↔ firewall.Permits cluster target ∧ target ∉ firewall.applied := by
  simp [pending, mem_resolve]

theorem pending_of_new (new : firewall.applied = []) (cluster : Cluster) :
    firewall.pending cluster = firewall.resolve cluster := by
  simp [pending, new]

theorem nodup_pending (firewall : Firewall) (cluster : Cluster) : (firewall.pending cluster).Nodup :=
  (nodup_firstOccurrences _).sublist List.filter_sublist

theorem pending_eq_nil : firewall.pending cluster = [] ↔
    ∀ target, firewall.Permits cluster target → target ∈ firewall.applied := by
  simp [List.eq_nil_iff_forall_not_mem, mem_pending]

/-- Granting what is pending grants nothing that has been granted. -/
theorem markApplied_leads (firewall : Firewall) (cluster : Cluster) :
    firewall.Leads (firewall.pending cluster) (firewall.markApplied (firewall.pending cluster)) where
  rules := List.prefix_refl _
  sources := rfl
  applied := rfl
  fresh := by
    intro distinct
    rw [markApplied, List.nodup_append]
    refine ⟨distinct, firewall.nodup_pending cluster, ?_⟩
    rintro target granted _ pending rfl
    exact (mem_pending.mp pending).2 granted

theorem pending_markApplied (firewall : Firewall) (cluster : Cluster) :
    (firewall.markApplied (firewall.pending cluster)).pending cluster = [] := by
  rw [pending_eq_nil]
  intro target permitted
  by_cases known : target ∈ firewall.applied
  · exact List.mem_append_left _ known
  · exact List.mem_append_right _ (mem_pending.mpr ⟨permitted, known⟩)

def Remains (before after : Cluster) (target : IngressTarget) : Prop :=
  ∀ machine ∈ before.instances, machine.id = target.id → ∃ found ∈ after.instances, found.bare = machine.bare

theorem Permits.mono (permits : before.Permits cluster target) (leads : before.Leads granted after)
    (remains : Remains cluster other target) : after.Permits other target := by
  obtain ⟨rule, listed, machine, member, covers, id, address, opened, source⟩ := permits
  obtain ⟨found, there, same⟩ := remains machine member id.symm
  refine ⟨rule, leads.rules.subset listed, found, there, ?_, ?_, ?_, opened, ?_⟩
  · rw [← Destination.covers_bare, same, Destination.covers_bare]
    exact covers
  · exact id.trans (congrArg Instance.id same).symm
  · exact address.trans (congrArg Instance.address same).symm
  · rwa [sourcesOf, leads.sources]

-- What is permitted depends on the rules, their default sources and the nodes alone.
theorem resolve_same (nodes : cluster.SameNodes other) (rules : after.rules = before.rules)
    (sources : after.defaultSources = before.defaultSources) : after.resolve other = before.resolve cluster := by
  have bare (firewall : Firewall) (cluster : Cluster) (rule : FirewallRule) : firewall.expand cluster rule =
      ((cluster.instances.map Instance.bare).filter rule.destination.covers).flatMap fun machine =>
        rule.ports.toList.flatMap fun port =>
          (firewall.sourcesOf rule).map fun cidr => ⟨machine.id, machine.address, port, cidr⟩ := by
    have covers : rule.destination.covers ∘ Instance.bare = rule.destination.covers :=
      funext rule.destination.covers_bare
    rw [List.filter_map, covers, List.flatMap_map]
    rfl
  have expand : after.expand other = before.expand cluster := by
    funext rule
    rw [bare after, bare before, nodes, sourcesOf, sourcesOf, sources]
  rw [resolve, resolve, expand, rules]

theorem pending_sameNodes (same : cluster.SameNodes other) (firewall : Firewall) :
    firewall.pending other = firewall.pending cluster := by
  rw [pending, pending, resolve_same same rfl rfl]

end Firewall

end Muster
