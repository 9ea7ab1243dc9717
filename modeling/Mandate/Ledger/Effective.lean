import Mandate.Lib.Folding
import Mandate.Ledger.Meet

/-! Effective authority is never wider than any grant of its lineage, whatever the lineage:
each kind of term is the meet of the terms of its nodes. -/
namespace Mandate.Ledger
open Core Lib.Folding List

/-- What a bound is a bound of: a quantity of some kind and unit, or a ratio. -/
def measureOf : BoundValue → Option (QuantityKind × UnitCode)
  | .quantity q => some (q.kind, q.unit)
  | .ratio _ => none

def magnitudeOf : BoundValue → ℚ
  | .quantity q => q.atoms.1 / 10 ^ q.decimals.1
  | .ratio r => r.numerator.1 / 10 ^ r.scale.1

private theorem compare_scaled (a b : Int) (c d : Nat) :
    compare (a * 10 ^ d) (b * 10 ^ c) = compare ((a : ℚ) / 10 ^ c) ((b : ℚ) / 10 ^ d) := by
  have left : (0 : ℚ) < 10 ^ c := by positivity
  have right : (0 : ℚ) < 10 ^ d := by positivity
  have lt : a * 10 ^ d < b * 10 ^ c ↔ (a : ℚ) / 10 ^ c < (b : ℚ) / 10 ^ d := by
    rw [div_lt_div_iff₀ left right]
    exact_mod_cast Iff.rfl
  have gt : b * 10 ^ c < a * 10 ^ d ↔ (b : ℚ) / 10 ^ d < (a : ℚ) / 10 ^ c := by
    rw [div_lt_div_iff₀ right left]
    exact_mod_cast Iff.rfl
  rcases lt_trichotomy (a * 10 ^ d) (b * 10 ^ c) with less | same | more
  · rw [compare_lt_iff_lt.mpr less, compare_lt_iff_lt.mpr (lt.mp less)]
  · have equal : (a : ℚ) / 10 ^ c = (b : ℚ) / 10 ^ d :=
      le_antisymm (not_lt.mp fun less => (gt.mpr less).ne same.symm) (not_lt.mp fun less => (lt.mpr less).ne same)
    rw [compare_eq_iff_eq.mpr same, compare_eq_iff_eq.mpr equal]
  · rw [compare_gt_iff_gt.mpr more, compare_gt_iff_gt.mpr (gt.mp more)]

theorem compareBoundValues_eq (c p : BoundValue) : compareBoundValues c p =
    if measureOf c = measureOf p then some (compare (magnitudeOf c) (magnitudeOf p)) else none := by
  cases c with
  | quantity c =>
    cases p with
    | quantity p =>
      rw [compareBoundValues, compareScaled, compare_scaled]
      by_cases same : c.kind = p.kind ∧ c.unit = p.unit
      · have measured : measureOf (.quantity c) = measureOf (.quantity p) := by simp [measureOf, same]
        rw [if_neg (by simp [same]), if_pos measured]
        rfl
      · have unlike : measureOf (.quantity c) ≠ measureOf (.quantity p) := by
          intro measured
          simp only [measureOf, Option.some.injEq, Prod.mk.injEq] at measured
          exact same measured
        rw [if_pos (not_and_or.mp same), if_neg unlike]
    | ratio p => rfl
  | ratio c =>
    cases p with
    | quantity p => rfl
    | ratio p =>
      rw [compareBoundValues, compareRatios, compare_scaled]
      rfl

def ValueWithin (polarity : BoundPolarity) (value limit : BoundValue) : Prop :=
  measureOf value = measureOf limit ∧
  match polarity with
  | .max => magnitudeOf value ≤ magnitudeOf limit
  | .min => magnitudeOf limit ≤ magnitudeOf value

theorem ValueWithin.refl (polarity : BoundPolarity) (value : BoundValue) : ValueWithin polarity value value := by
  cases polarity <;> exact ⟨rfl, le_rfl⟩

theorem ValueWithin.trans {polarity : BoundPolarity} {first second third : BoundValue}
    (lower : ValueWithin polarity third second) (upper : ValueWithin polarity second first) :
    ValueWithin polarity third first := by
  cases polarity with
  | max => exact ⟨lower.1.trans upper.1, le_trans lower.2 upper.2⟩
  | min => exact ⟨lower.1.trans upper.1, le_trans upper.2 lower.2⟩

theorem within_of_compare {polarity : BoundPolarity} {a b : BoundValue} {order : Ordering}
    (compared : compareBoundValues a b = some order) :
    (boundTightens polarity order = true → ValueWithin polarity a b) ∧
      (boundTightens polarity order ≠ true → ValueWithin polarity b a) := by
  rw [compareBoundValues_eq] at compared
  split at compared
  · rename_i same
    obtain rfl := Option.some.inj compared
    cases polarity with
    | max =>
      refine ⟨fun tight => ⟨same, ?_⟩, fun loose => ⟨same.symm, ?_⟩⟩
      · exact (compare_lt_iff_lt.mp (by simpa [boundTightens] using tight)).le
      · exact not_lt.mp fun less => loose (by simp [boundTightens, compare_lt_iff_lt.mpr less])
    | min =>
      refine ⟨fun tight => ⟨same, ?_⟩, fun loose => ⟨same.symm, ?_⟩⟩
      · exact (compare_gt_iff_gt.mp (by simpa [boundTightens] using tight)).le
      · exact not_lt.mp fun more => loose (by simp [boundTightens, compare_gt_iff_gt.mpr more])
  · cases compared

def boundKey (t : PerActionBoundTerm) : Identifier × BoundPolarity := (t.boundId, t.polarity)

def Tightens (t limit : PerActionBoundTerm) : Prop :=
  boundKey t = boundKey limit ∧ ValueWithin limit.polarity t.value limit.value

theorem Tightens.refl (t : PerActionBoundTerm) : Tightens t t := ⟨rfl, .refl _ _⟩

theorem Tightens.trans {first second third : PerActionBoundTerm} (lower : Tightens third second)
    (upper : Tightens second first) : Tightens third first := by
  have same : second.polarity = first.polarity := (Prod.mk.inj upper.1).2
  exact ⟨lower.1.trans upper.1, ValueWithin.trans (same ▸ lower.2) upper.2⟩

variable {path : String}

theorem meetBound_ok {leaf : AuthorityId} {t : PerActionBoundTerm}
    {bounds met : List PerActionBoundTerm} (ok : meetBound path leaf t bounds = .ok met) :
    (∃ b ∈ met, Tightens b t) ∧ ∀ b ∈ bounds, ∃ later ∈ met, Tightens later b := by
  induction bounds generalizing met with
  | nil =>
    obtain rfl := Except.ok.inj ok
    exact ⟨⟨t, mem_singleton.mpr rfl, .refl t⟩, nofun⟩
  | cons prev rest ih =>
    rw [meetBound] at ok
    split at ok
    · rename_i same
      split at ok
      · cases ok
      · rename_i order compared
        obtain rfl := Except.ok.inj ok
        obtain ⟨tight, loose⟩ := @within_of_compare t.polarity _ _ _ compared
        have rest_kept : ∀ head, ∀ b ∈ rest, ∃ later ∈ head :: rest, Tightens later b :=
          fun head b listed => ⟨b, mem_cons_of_mem _ listed, .refl b⟩
        by_cases tightens : boundTightens t.polarity order = true
        · rw [if_pos tightens]
          refine ⟨⟨t, mem_cons_self, .refl t⟩, forall_mem_cons.mpr ⟨?_, rest_kept t⟩⟩
          exact ⟨t, mem_cons_self, by simp [boundKey, same], by rw [same.2]; exact tight tightens⟩
        · rw [if_neg tightens]
          refine ⟨⟨prev, mem_cons_self, by simp [boundKey, same], loose tightens⟩,
            forall_mem_cons.mpr ⟨⟨prev, mem_cons_self, .refl prev⟩, rest_kept prev⟩⟩
    · obtain ⟨later, met', ok⟩ := except_bind_success ok
      obtain rfl := Except.ok.inj ok
      obtain ⟨⟨b, listed, covers⟩, kept⟩ := ih met'
      refine ⟨⟨b, mem_cons_of_mem _ listed, covers⟩, forall_mem_cons.mpr
        ⟨⟨prev, mem_cons_self, .refl prev⟩, fun other listed => ?_⟩⟩
      obtain ⟨found, present, narrower⟩ := kept other listed
      exact ⟨found, mem_cons_of_mem _ present, narrower⟩

structure WindowWithin (w : EffectiveTimeWindow) (domain : DomainId) (notBefore expiresAt : Int) : Prop where
  domain : w.domain = domain
  opens : notBefore ≤ w.window.notBefore
  closes : w.window.expiresAt ≤ expiresAt

theorem WindowWithin.refl (w : EffectiveTimeWindow) : WindowWithin w w.domain w.window.notBefore w.window.expiresAt :=
  ⟨rfl, le_rfl, le_rfl⟩

theorem WindowWithin.trans {w later : EffectiveTimeWindow} {domain : DomainId} {notBefore expiresAt : Int}
    (lower : WindowWithin later w.domain w.window.notBefore w.window.expiresAt)
    (upper : WindowWithin w domain notBefore expiresAt) : WindowWithin later domain notBefore expiresAt :=
  ⟨lower.domain.trans upper.domain, upper.opens.trans lower.opens, lower.closes.trans upper.closes⟩

theorem meetWindow_ok (t : TimeWindowTerm) (windows : List EffectiveTimeWindow) :
    (∃ w ∈ meetWindow t windows, WindowWithin w t.domain t.window.notBefore.1 t.window.expiresAt.1) ∧
      ∀ w ∈ windows, ∃ later ∈ meetWindow t windows,
        WindowWithin later w.domain w.window.notBefore w.window.expiresAt := by
  induction windows with
  | nil => exact ⟨⟨_, mem_singleton.mpr rfl, rfl, le_rfl, le_rfl⟩, nofun⟩
  | cons prev rest ih =>
    rw [meetWindow]
    split
    · rename_i same
      refine ⟨⟨_, mem_cons_self, same, le_max_left _ _, min_le_left _ _⟩, forall_mem_cons.mpr
        ⟨⟨_, mem_cons_self, rfl, le_max_right _ _, min_le_right _ _⟩, fun w listed => ?_⟩⟩
      exact ⟨w, mem_cons_of_mem _ listed, rfl, le_rfl, le_rfl⟩
    · obtain ⟨⟨w, listed, within⟩, kept⟩ := ih
      refine ⟨⟨w, mem_cons_of_mem _ listed, within⟩, forall_mem_cons.mpr
        ⟨⟨prev, mem_cons_self, rfl, le_rfl, le_rfl⟩, fun other listed => ?_⟩⟩
      obtain ⟨later, present, narrower⟩ := kept other listed
      exact ⟨later, mem_cons_of_mem _ present, narrower⟩

/-- One kind of state, from no other sources and under at least these requirements. -/
structure PolicyWithin (p : EffectiveStatePolicy) (domain : DomainId) (stateKind : Identifier)
    (sources : List Identifier) (requirements : List StateRequirement) : Prop where
  domain : p.domain = domain
  stateKind : p.stateKind = stateKind
  sources : p.admittedSources ⊆ sources
  requirements : requirements ⊆ p.requirements

theorem meetWindows_ok (terms : List TimeWindowTerm) :
    ∀ t ∈ terms, ∃ w ∈ terms.foldl (fun windows t => meetWindow t windows) [],
      WindowWithin w t.domain t.window.notBefore.1 t.window.expiresAt.1 := by
  have folded := folded_foldl (fun windows t => meetWindow t windows) terms []
  refine (folded.covered (fun w t => WindowWithin w t.domain t.window.notBefore.1 t.window.expiresAt.1)
    (fun later w => WindowWithin later w.domain w.window.notBefore w.window.expiresAt)
    WindowWithin.refl WindowWithin.trans WindowWithin.trans ?_ ?_).1
  · rintro t windows _ rfl
    exact (meetWindow_ok t windows).1
  · rintro t windows _ rfl
    exact (meetWindow_ok t windows).2

theorem subset_addRequirement (requirement : StateRequirement) (requirements : List StateRequirement) :
    requirement ∈ addRequirement requirement requirements ∧ requirements ⊆ addRequirement requirement requirements := by
  unfold addRequirement
  split
  · exact ⟨‹_›, fun _ listed => listed⟩
  · exact ⟨by simp, subset_append_left _ _⟩

theorem PolicyWithin.refl (p : EffectiveStatePolicy) :
    PolicyWithin p p.domain p.stateKind p.admittedSources p.requirements :=
  ⟨rfl, rfl, fun _ listed => listed, fun _ listed => listed⟩

theorem PolicyWithin.trans {p later : EffectiveStatePolicy} {domain : DomainId} {stateKind : Identifier}
    {sources : List Identifier} {requirements : List StateRequirement}
    (lower : PolicyWithin later p.domain p.stateKind p.admittedSources p.requirements)
    (upper : PolicyWithin p domain stateKind sources requirements) :
    PolicyWithin later domain stateKind sources requirements :=
  ⟨lower.domain.trans upper.domain, lower.stateKind.trans upper.stateKind,
    fun _ listed => upper.sources (lower.sources listed),
    fun _ listed => lower.requirements (upper.requirements listed)⟩

theorem meetStatePolicy_ok (t : StatePolicyTerm) (policies : List EffectiveStatePolicy) :
    (∃ p ∈ meetStatePolicy t policies,
      PolicyWithin p t.domain t.stateKind t.admittedSources.members [t.requirement]) ∧
      ∀ p ∈ policies, ∃ later ∈ meetStatePolicy t policies,
        PolicyWithin later p.domain p.stateKind p.admittedSources p.requirements := by
  induction policies with
  | nil => exact ⟨⟨_, mem_singleton.mpr rfl, PolicyWithin.refl _⟩, nofun⟩
  | cons prev rest ih =>
    rw [meetStatePolicy]
    split
    · rename_i same
      obtain ⟨added, others⟩ := subset_addRequirement t.requirement prev.requirements
      refine ⟨⟨_, mem_cons_self, same.1, same.2, fun source listed => ?_, by simpa using added⟩,
        forall_mem_cons.mpr ⟨⟨_, mem_cons_self, rfl, rfl, filter_subset_self _, others⟩,
          fun p listed => ⟨p, mem_cons_of_mem _ listed, PolicyWithin.refl p⟩⟩⟩
      exact contains_iff_mem.mp (mem_filter.mp listed).2
    · obtain ⟨⟨p, listed, within⟩, kept⟩ := ih
      refine ⟨⟨p, mem_cons_of_mem _ listed, within⟩, forall_mem_cons.mpr
        ⟨⟨prev, mem_cons_self, PolicyWithin.refl prev⟩, fun other listed => ?_⟩⟩
      obtain ⟨later, present, narrower⟩ := kept other listed
      exact ⟨later, mem_cons_of_mem _ present, narrower⟩

theorem meetStatePolicies_ok (terms : List StatePolicyTerm) :
    ∀ t ∈ terms, ∃ p ∈ terms.foldl (fun policies t => meetStatePolicy t policies) [],
      PolicyWithin p t.domain t.stateKind t.admittedSources.members [t.requirement] := by
  have folded := folded_foldl (fun policies t => meetStatePolicy t policies) terms []
  refine (folded.covered
    (fun p t => PolicyWithin p t.domain t.stateKind t.admittedSources.members [t.requirement])
    (fun later p => PolicyWithin later p.domain p.stateKind p.admittedSources p.requirements)
    PolicyWithin.refl PolicyWithin.trans PolicyWithin.trans ?_ ?_).1
  · rintro t policies _ rfl
    exact (meetStatePolicy_ok t policies).1
  · rintro t policies _ rfl
    exact (meetStatePolicy_ok t policies).2

theorem distinctInvariants_ok (invariants : List BoundInvariant) :
    ∀ x ∈ invariants, ∃ y ∈ distinctInvariants invariants, sameMeaning x y = true := by
  have folded := folded_foldl (fun kept x => if kept.any (sameMeaning x) then kept else kept ++ [x]) invariants []
  refine (folded.covered (fun y x => sameMeaning x y = true) (fun later entry => later = entry)
    (fun _ => rfl) (fun later earlier => later.trans earlier) (fun same covers => same ▸ covers)
    ?_ ?_).1
  · rintro x before _ rfl
    split
    · rename_i found
      exact any_eq_true.mp found
    · exact ⟨x, by simp, by simp [sameMeaning]⟩
  · rintro x before _ rfl y listed
    refine ⟨y, ?_, rfl⟩
    split
    · exact listed
    · exact mem_append_left _ listed

@[simp] theorem filterMembers_vocabulary (keep : SetMember → Bool) (t : SetConstraintTerm) :
    (filterMembers keep t).vocabulary = t.vocabulary := by
  cases t <;> rfl

theorem filterMembers_keys (keep : SetMember → Bool) (t : SetConstraintTerm) :
    setMemberKeys (filterMembers keep t) = (setMemberKeys t).filter keep := by
  cases t <;> exact (filter_map ..).symm

def SetWithin (t : SetConstraintTerm) (sets : List SetConstraintTerm) : Prop :=
  ∃ other ∈ sets, other.vocabulary = t.vocabulary ∧ setMemberKeys t ⊆ setMemberKeys other

theorem narrowed_none (vocabulary : SetVocabulary) (ancestors : List AuthorityGrant) :
    ancestors.foldl (fun (current : Option SetConstraintTerm) g => current.bind fun kept =>
      ((grantSets g).find? fun other => other.vocabulary == vocabulary).map fun other =>
        filterMembers (setMemberKeys other).contains kept) none = none := by
  induction ancestors with
  | nil => rfl
  | cons g ancestors ih => exact ih

variable {ancestors : List AuthorityGrant} {t kept : SetConstraintTerm}

theorem narrowed_ok {vocabulary : SetVocabulary} (own : t.vocabulary = vocabulary)
    (ok : ancestors.foldl (fun (current : Option SetConstraintTerm) g => current.bind fun kept =>
      ((grantSets g).find? fun other => other.vocabulary == vocabulary).map fun other =>
        filterMembers (setMemberKeys other).contains kept) (some t) = some kept) :
    kept.vocabulary = vocabulary ∧ setMemberKeys kept ⊆ setMemberKeys t ∧
      ∀ g ∈ ancestors, SetWithin kept (grantSets g) := by
  induction ancestors generalizing t with
  | nil =>
    obtain rfl := Option.some.inj ok
    exact ⟨own, fun _ listed => listed, by simp⟩
  | cons g ancestors ih =>
    rw [foldl_cons, Option.bind_some] at ok
    cases found : (grantSets g).find? fun other => other.vocabulary == vocabulary with
    | none =>
      rw [found, Option.map_none, narrowed_none] at ok
      cases ok
    | some other =>
      rw [found, Option.map_some] at ok
      obtain ⟨same, fewer, others⟩ := ih (by rw [filterMembers_vocabulary, own]) ok
      rw [filterMembers_keys] at fewer
      have matching : other.vocabulary = vocabulary := by simpa using find?_some found
      refine ⟨same, fun member listed => (mem_filter.mp (fewer listed)).1,
        forall_mem_cons.mpr ⟨⟨other, mem_of_find?_eq_some found, by rw [matching, same],
          fun member listed => ?_⟩, others⟩⟩
      exact contains_iff_mem.mp (mem_filter.mp (fewer listed)).2

theorem meetSet_ok (ok : meetSet ancestors t = some kept) :
    kept.vocabulary = t.vocabulary ∧ setMemberKeys kept ⊆ setMemberKeys t ∧
      ∀ g ∈ ancestors, SetWithin kept (grantSets g) :=
  narrowed_ok rfl ok

theorem effectiveDepth_cons (node : NodeRecord) (ancestors : List NodeRecord) :
    (effectiveDepths (node :: ancestors)).head?.getD 0 = match (effectiveDepths ancestors).head? with
      | none => delegateDepth node.grant
      | some parent => min (delegateDepth node.grant) (parent - 1) := by
  rw [effectiveDepths]
  rfl

theorem effectiveDepths_head (node : NodeRecord) (ancestors : List NodeRecord) :
    (effectiveDepths (node :: ancestors)).head? =
      some ((effectiveDepths (node :: ancestors)).head?.getD 0) := rfl

theorem effectiveDepth_le (node : NodeRecord) (ancestors : List NodeRecord) :
    (effectiveDepths (node :: ancestors)).head?.getD 0 ≤ delegateDepth node.grant ∧
      ∀ n ∈ ancestors, (effectiveDepths (node :: ancestors)).head?.getD 0 ≤ delegateDepth n.grant - 1 := by
  induction ancestors generalizing node with
  | nil => exact ⟨le_rfl, by simp⟩
  | cons parent ancestors ih =>
    obtain ⟨own, above⟩ := ih parent
    rw [effectiveDepth_cons, effectiveDepths_head]
    refine ⟨min_le_left _ _, forall_mem_cons.mpr ⟨(min_le_right _ _).trans (by omega), fun n listed => ?_⟩⟩
    exact (min_le_right _ _).trans ((Nat.sub_le _ _).trans (above n listed))

/-- No term of `e` permits more than the corresponding terms of a node. -/
structure NoWider (e : EffectiveAuthority) (n : NodeRecord) : Prop where
  opens : n.grant.window.notBefore.1 ≤ e.validity.notBefore
  closes : e.validity.expiresAt ≤ n.grant.window.expiresAt.1
  sets : ∀ t ∈ e.sets, SetWithin t (grantSets n.grant)
  rights : ∀ right ∈ e.rights, hasRight n.grant right = true
  depth : e.delegateDepth ≤ delegateDepth n.grant
  bounds : ∀ t ∈ n.grant.terms.items.filterMap boundOf, ∃ b ∈ e.bounds, Tightens b t
  timeWindows : ∀ t ∈ n.grant.terms.items.filterMap timeWindowOf,
    ∃ w ∈ e.timeWindows, WindowWithin w t.domain t.window.notBefore.1 t.window.expiresAt.1
  invariants : ∀ x ∈ nodeInvariants n, ∃ y ∈ e.invariants, sameMeaning x y = true
  statePolicies : ∀ t ∈ n.grant.terms.items.filterMap statePolicyOf, ∃ p ∈ e.statePolicies,
    PolicyWithin p t.domain t.stateKind t.admittedSources.members [t.requirement]

theorem latest_opening (ancestors : List NodeRecord) (start : Int) :
    start ≤ ancestors.foldl (fun t n => max t n.grant.window.notBefore.1) start ∧
      ∀ n ∈ ancestors, n.grant.window.notBefore.1 ≤
        ancestors.foldl (fun t n => max t n.grant.window.notBefore.1) start := by
  induction ancestors generalizing start with
  | nil => exact ⟨le_rfl, by simp⟩
  | cons n ancestors ih =>
    obtain ⟨later, others⟩ := ih (max start n.grant.window.notBefore.1)
    exact ⟨(le_max_left _ _).trans later, forall_mem_cons.mpr ⟨(le_max_right _ _).trans later, others⟩⟩

theorem earliest_expiry (ancestors : List NodeRecord) (start : Int) :
    ancestors.foldl (fun t n => min t n.grant.window.expiresAt.1) start ≤ start ∧
      ∀ n ∈ ancestors, ancestors.foldl (fun t n => min t n.grant.window.expiresAt.1) start ≤
        n.grant.window.expiresAt.1 := by
  induction ancestors generalizing start with
  | nil => exact ⟨le_rfl, by simp⟩
  | cons n ancestors ih =>
    obtain ⟨earlier, others⟩ := ih (min start n.grant.window.expiresAt.1)
    exact ⟨earlier.trans (min_le_left _ _), forall_mem_cons.mpr ⟨earlier.trans (min_le_right _ _), others⟩⟩

variable {lineage : List NodeRecord}

theorem mem_lineageTerms {α : Type} {n : NodeRecord} (listed : n ∈ lineage)
    {pick : AuthorityTerm → Option α} {t : α} (own : t ∈ n.grant.terms.items.filterMap pick) :
    t ∈ (lineage.map (·.grant)).flatMap fun g => g.terms.items.filterMap pick :=
  mem_flatMap.mpr ⟨n.grant, mem_map.mpr ⟨n, listed, rfl⟩, own⟩

theorem effectiveAuthority_noWider {policy : PrincipalPolicy}
    {policyBindings : List SemanticTermBinding} {e : EffectiveAuthority}
    (ok : effectiveAuthority lineage policy path policyBindings = .ok e) : ∀ n ∈ lineage, NoWider e n := by
  cases lineage with
  | nil => simp [effectiveAuthority] at ok
  | cons leaf ancestors =>
    obtain ⟨bounds, folded, ok⟩ := except_bind_success ok
    obtain rfl := Except.ok.inj ok
    obtain ⟨opened, opens⟩ := latest_opening ancestors leaf.grant.window.notBefore.1
    obtain ⟨closed, closes⟩ := earliest_expiry ancestors leaf.grant.window.expiresAt.1
    obtain ⟨depth, depths⟩ := effectiveDepth_le leaf ancestors
    have tightened := ((folded_foldlM folded).covered Tightens Tightens Tightens.refl
      Tightens.trans Tightens.trans (fun ok => (meetBound_ok ok).1) fun ok => (meetBound_ok ok).2).1
    intro n listed
    refine {
      opens := ?_
      closes := ?_
      sets := fun t present => ?_
      rights := fun right present => ?_
      depth := ?_
      bounds := fun t own => tightened t (mem_lineageTerms listed own)
      timeWindows := fun t own => meetWindows_ok _ t (mem_lineageTerms listed own)
      invariants := fun x own => distinctInvariants_ok _ x (mem_flatMap.mpr ⟨n, listed, own⟩)
      statePolicies := fun t own =>
        meetStatePolicies_ok _ t (mem_append_left _ (mem_lineageTerms listed own)) }
    · rcases mem_cons.mp listed with rfl | above
      · exact opened
      · exact opens n above
    · rcases mem_cons.mp listed with rfl | above
      · exact closed
      · exact closes n above
    · obtain ⟨own, stated, met⟩ := mem_filterMap.mp present
      obtain ⟨same, fewer, others⟩ := meetSet_ok met
      rcases mem_cons.mp listed with rfl | above
      · exact ⟨own, stated, same.symm, fewer⟩
      · exact others n.grant (mem_map.mpr ⟨n, above, rfl⟩)
    · have all := (mem_filter.mp present).2
      exact all_eq_true.mp all n.grant (mem_map.mpr ⟨n, listed, rfl⟩)
    · rcases mem_cons.mp listed with rfl | above
      · exact depth
      · exact (depths n above).trans (Nat.sub_le _ _)

end Mandate.Ledger
