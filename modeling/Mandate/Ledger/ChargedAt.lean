import Mandate.Ledger.Identity
import Mandate.Ledger.Accounting

/-! What a contribution charges at one key: a path meets a node's dimension at most once, and,
where no two identities collide, a policy's dimension at most once. -/
namespace Mandate.Ledger
open Core List

variable {c : Contribution} {domain : DomainId} {time : Int} {key : TargetKey}
  {path : List (TargetKey × LedgerDimensionTerm)} {legs : List LegDraft} {d : LedgerDimensionTerm}

theorem filter_key {entries : List (TargetKey × LedgerDimensionTerm)}
    (distinct : (entries.map Prod.fst).Nodup) (listed : (key, d) ∈ entries) :
    entries.filter (fun entry => entry.1 == key) = [(key, d)] := by
  induction entries with
  | nil => cases listed
  | cons head rest ih =>
    obtain ⟨fresh, later⟩ := nodup_cons.mp distinct
    rcases mem_cons.mp listed with rfl | inside
    · have others : rest.filter (fun entry => entry.1 == key) = [] := by
        refine filter_eq_nil_iff.mpr fun entry there same => fresh ?_
        rw [beq_iff_eq] at same
        exact mem_map.mpr ⟨entry, there, same⟩
      rw [filter_cons_of_pos (by simp), others]
    · have other : head.1 ≠ key := by
        rintro rfl
        exact fresh (mem_map.mpr ⟨_, inside, rfl⟩)
      rw [filter_cons_of_neg (by simpa using other), ih later inside]

theorem drafted_at (drafted : List.Forall₂ (Drafted c time) path legs) (key : TargetKey) :
    List.Forall₂ (Drafted c time) (path.filter fun target => target.1 == key)
      (legs.filter fun leg => leg.key == key) := by
  induction drafted with
  | nil => exact .nil
  | cons here _ ih =>
    rw [filter_cons, filter_cons, here.key]
    split
    · exact .cons here ih
    · exact ih

theorem legSum_drafts {M : Type} [AddCommMonoid M] (amount : LegRecord → M) :
    legSum key amount (legs.map legRecordOf) =
      ((legs.filter fun leg => leg.key == key).map fun leg => amount (legRecordOf leg)).sum := by
  induction legs with
  | nil => rfl
  | cons leg rest ih =>
    rw [map_cons, legSum_cons, ih, filter_cons]
    by_cases here : leg.key = key
    · simp [legRecordOf, here]
    · simp [legRecordOf, here]

theorem legSum_met (drafted : List.Forall₂ (Drafted c time) path legs)
    (met : path.filter (fun target => target.1 == key) = [(key, d)]) :
    ∃ leg, Drafted c time (key, d) leg ∧ ∀ {M : Type} [AddCommMonoid M] (amount : LegRecord → M),
      legSum key amount (legs.map legRecordOf) = amount (legRecordOf leg) := by
  have charged := drafted_at drafted key
  rw [met] at charged
  obtain ⟨leg, here, only⟩ : ∃ leg, Drafted c time (key, d) leg ∧
      (legs.filter fun leg => leg.key == key) = [leg] := by
    generalize legs.filter (fun leg => leg.key == key) = found at charged
    cases charged with
    | cons here rest =>
      cases rest
      exact ⟨_, here, rfl⟩
  refine ⟨leg, here, fun amount => ?_⟩
  rw [legSum_drafts, only, map_singleton, sum_singleton]

theorem legSum_unmet {M : Type} [AddCommMonoid M] (drafted : List.Forall₂ (Drafted c time) path legs)
    (unmet : ∀ d, (key, d) ∉ path) (amount : LegRecord → M) :
    legSum key amount (legs.map legRecordOf) = 0 := by
  have none : legs.filter (fun leg => leg.key == key) = [] := by
    refine filter_eq_nil_iff.mpr fun leg listed same => ?_
    obtain ⟨target, inside, here⟩ := drafted_of_mem drafted listed
    rw [beq_iff_eq] at same
    exact unmet target.2 (by rw [← same, here.key]; exact inside)
  rw [legSum_drafts, none]
  rfl

theorem nodePaths_distinct {lineage : List NodeRecord} (ids : (lineage.map (·.id)).Nodup) :
    ((lineage.flatMap fun node => nodePath node c domain).map Prod.fst).Nodup := by
  rw [map_flatMap]
  refine nodup_flatMap.mpr ⟨fun node _ => ?_, ?_⟩
  · have distinct := dimensions_distinct node.grant.terms
    have kept := (distinct.sublist ((filter_sublist (p := contributionMatches c domain)).map _))
    rw [nodePath, map_map]
    have apart : Function.Injective (TargetKey.node node.id) := fun _ _ same => (TargetKey.node.inj same).2
    have named := kept.map apart
    rw [map_map] at named
    exact named
  · refine (pairwise_map.mp ids).imp fun {first second} other => ?_
    intro key inside inside'
    simp only [nodePath, map_map, mem_map, Function.comp_apply] at inside inside'
    obtain ⟨_, _, rfl⟩ := inside
    obtain ⟨_, _, same⟩ := inside'
    exact other (TargetKey.node.inj same).1.symm

variable [Keccak] {lineage : List NodeRecord} {dims : List LedgerDimensionTerm} {d : LedgerDimensionTerm}
  {id : AuthorityId} {dimensionId : DimensionId}

theorem node_mem_chargePath : (TargetKey.node id dimensionId, d) ∈ chargePath lineage dims c domain ↔
      d.dimensionId = dimensionId ∧ contributionMatches c domain d = true ∧
        ∃ node ∈ lineage, node.id = id ∧ d ∈ grantDimensions node.grant := by
  simp only [chargePath, mem_append, mem_flatMap, nodePath, policyPath, policyKey, mem_map,
    mem_filter, Prod.mk.injEq, TargetKey.node.injEq, reduceCtorEq, false_and, and_false, exists_false,
    or_false]
  constructor
  · rintro ⟨node, listed, _, ⟨inside, matched⟩, ⟨same, named⟩, rfl⟩
    exact ⟨named, matched, node, listed, same, inside⟩
  · rintro ⟨named, matched, node, listed, same, inside⟩
    exact ⟨node, listed, d, ⟨inside, matched⟩, ⟨same, named⟩, rfl⟩

variable {identity : Digest32}

theorem policy_mem_chargePath : (TargetKey.policy identity, d) ∈ chargePath lineage dims c domain ↔
      policyKey d = .policy identity ∧ contributionMatches c domain d = true ∧ d ∈ dims := by
  simp only [chargePath, mem_append, mem_flatMap, nodePath, policyPath, mem_map,
    mem_filter, Prod.mk.injEq, reduceCtorEq, false_and, and_false, exists_false, false_or]
  constructor
  · rintro ⟨_, ⟨inside, matched⟩, same, rfl⟩
    exact ⟨same, matched, inside⟩
  · rintro ⟨same, matched, inside⟩
    exact ⟨d, ⟨inside, matched⟩, same, rfl⟩

theorem chargePath_node (ids : (lineage.map (·.id)).Nodup)
    (listed : (TargetKey.node id dimensionId, d) ∈ chargePath lineage dims c domain) :
    (chargePath lineage dims c domain).filter (fun target => target.1 == .node id dimensionId) =
      [(.node id dimensionId, d)] := by
  have unmet : ∀ target ∈ policyPath dims c domain, ¬(target.1 == TargetKey.node id dimensionId) = true := by
    intro target inside
    obtain ⟨_, _, rfl⟩ := mem_map.mp inside
    simp [policyKey]
  have inside : (TargetKey.node id dimensionId, d) ∈ lineage.flatMap fun node => nodePath node c domain := by
    refine (mem_append.mp listed).resolve_right fun there => unmet _ there (by simp)
  rw [chargePath, filter_append, filter_key (nodePaths_distinct ids) inside,
    filter_eq_nil_iff.mpr unmet, append_nil]

theorem chargePath_policy (names : (dims.map (·.dimensionId)).Nodup)
    (free : CollisionFree dims) (listed : (TargetKey.policy identity, d) ∈ chargePath lineage dims c domain) :
    (chargePath lineage dims c domain).filter (fun target => target.1 == .policy identity) =
      [(.policy identity, d)] := by
  have unmet : ∀ target ∈ lineage.flatMap fun node => nodePath node c domain,
      ¬(target.1 == TargetKey.policy identity) = true := by
    intro target inside
    obtain ⟨node, _, there⟩ := mem_flatMap.mp inside
    obtain ⟨_, _, rfl⟩ := mem_map.mp there
    simp
  have inside : (TargetKey.policy identity, d) ∈ policyPath dims c domain :=
    (mem_append.mp listed).resolve_left fun there => unmet _ there (by simp)
  have distinct : ((policyPath dims c domain).map Prod.fst).Nodup := by
    rw [policyPath, map_map]
    refine List.Nodup.map_on (fun first here second there same => ?_) ((List.Nodup.of_map _ names).filter _)
    have alike := free.same (mem_filter.mp here).1 (mem_filter.mp there).1 same
    exact inj_on_of_nodup_map names (mem_filter.mp here).1 (mem_filter.mp there).1
      alike.dimensionId
  rw [chargePath, filter_append, filter_key distinct inside, filter_eq_nil_iff.mpr unmet,
    nil_append]

end Mandate.Ledger
