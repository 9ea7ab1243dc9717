import Mandate.Ledger.Effective
import Mandate.Ledger.Solvency

/-! What the subset check of a delegation establishes, and what it makes of effective authority
along the lineage: a registered leaf is granted exactly what its own grant says. -/
set_option linter.dupNamespace false
namespace Mandate.Ledger
open Core Lib.Table Lib.Ancestry Lib.Folding List
open Option (some.inj map_eq_some_iff)

def grantBounds (g : AuthorityGrant) : List PerActionBoundTerm := g.terms.items.filterMap boundOf

/-- What `child` may be under `parent`: the terms whose meet is the child's own. -/
structure Narrows (child parent : AuthorityGrant) : Prop where
  depth : delegateDepth child ≤ delegateDepth parent - 1
  opens : parent.window.notBefore.1 ≤ child.window.notBefore.1
  closes : child.window.expiresAt.1 ≤ parent.window.expiresAt.1
  sets : ∀ t ∈ grantSets child, SetWithin t (grantSets parent)
  rights : ∀ right, hasRight child right = true → hasRight parent right = true
  bounds : ∀ t ∈ grantBounds parent, ∃ b ∈ grantBounds child, Tightens b t

theorem Narrows.trans {first second third : AuthorityGrant} (lower : Narrows third second)
    (upper : Narrows second first) : Narrows third first where
  depth := lower.depth.trans ((Nat.sub_le _ _).trans upper.depth)
  opens := upper.opens.trans lower.opens
  closes := lower.closes.trans upper.closes
  sets t listed := by
    obtain ⟨other, above, same, fewer⟩ := lower.sets t listed
    obtain ⟨top, higher, same', fewer'⟩ := upper.sets other above
    exact ⟨top, higher, same'.trans same, fun _ member => fewer' (fewer member)⟩
  rights right held := upper.rights right (lower.rights right held)
  bounds t listed := by
    obtain ⟨other, between, within⟩ := upper.bounds t listed
    obtain ⟨b, own, within'⟩ := lower.bounds other between
    exact ⟨b, own, within'.trans within⟩

section Subset
variable {parent child : AuthorityGrant} {prove : NarrowingProver}

theorem eraseDups_nil {α : Type} [BEq α] {items : List α} (none : items.eraseDups = []) : items = [] := by
  cases items with
  | nil => rfl
  | cons item items => simp [eraseDups_cons] at none

variable {g : AuthorityGrant}

theorem termOf_some {key : TermKey} {t : AuthorityTerm} (found : termOf g key = some t) :
    t ∈ g.terms.items ∧ termKey t = key :=
  ⟨mem_of_find?_eq_some found, by simpa using find?_some found⟩

theorem termOf_mem {t : AuthorityTerm} (listed : t ∈ g.terms.items) : termOf g (termKey t) = some t := by
  cases found : termOf g (termKey t) with
  | none => simpa using find?_eq_none.mp found t listed
  | some other =>
    obtain ⟨there, same⟩ := termOf_some found
    rw [inj_on_of_nodup_map g.terms.distinct there listed same]

theorem bound_mem {t : PerActionBoundTerm} : t ∈ grantBounds g ↔ .bound t ∈ g.terms.items := by
  rw [grantBounds, mem_filterMap]
  constructor
  · rintro ⟨term, listed, picked⟩
    cases term <;> simp only [boundOf, Option.some.injEq, reduceCtorEq] at picked
    exact picked ▸ listed
  · exact fun listed => ⟨_, listed, rfl⟩

theorem set_mem {t : SetConstraintTerm} : t ∈ grantSets g ↔ .set t ∈ g.terms.items := by
  rw [grantSets, mem_filterMap]
  constructor
  · rintro ⟨term, listed, picked⟩
    cases term <;> simp only [setOf, Option.some.injEq, reduceCtorEq] at picked
    exact picked ▸ listed
  · exact fun listed => ⟨_, listed, rfl⟩

theorem right_mem {right : PlainRight} : hasRight g right = true ↔ .right (.plain right) ∈ g.terms.items := by
  simp [hasRight]

theorem set_within (c : SetConstraintTerm)
    (permitted : termViolations prove (.set c) (termOf parent (termKey (.set c))) = []) :
    SetWithin c (grantSets parent) := by
  cases found : termOf parent (termKey (.set c)) with
  | none => simp [found, termViolations] at permitted
  | some p =>
    obtain ⟨listed, same⟩ := termOf_some found
    cases p with
    | set p =>
      refine ⟨p, set_mem.mpr listed, by simpa [termKey] using same, fun member inside => ?_⟩
      simp only [found, termViolations, ite_eq_left_iff, reduceCtorEq, imp_false, not_not] at permitted
      exact contains_iff_mem.mp (all_eq_true.mp permitted member inside)
    | _ => simp [termKey] at same

theorem right_within (right : PlainRight)
    (permitted : termViolations prove (.right (.plain right)) (termOf parent (termKey (.right (.plain right)))) = []) :
    hasRight parent right = true := by
  cases found : termOf parent (termKey (.right (.plain right))) with
  | none => simp [found, termViolations] at permitted
  | some p =>
    obtain ⟨listed, same⟩ := termOf_some found
    cases p with
    | right p =>
      cases p with
      | plain other =>
        have equal : other = right := by simpa [termKey, RightTerm.right, Subtype.ext_iff] using same
        exact right_mem.mpr (equal ▸ listed)
      | delegate depth =>
        simp only [termKey, RightTerm.right, TermKey.right.injEq] at same
        exact absurd same.symm right.2
    | _ => simp [termKey] at same

theorem bound_within {c t : PerActionBoundTerm} (same : boundKey c = boundKey t)
    (permitted : termViolations prove (.bound c) (some (.bound t)) = []) : Tightens c t := by
  obtain ⟨_, polarity⟩ := Prod.mk.inj same
  refine ⟨same, ?_⟩
  simp only [termViolations, compareBoundValues_eq] at permitted
  by_cases measured : measureOf c.value = measureOf t.value
  · rw [if_pos measured] at permitted
    simp only [ite_eq_right_iff, reduceCtorEq, imp_false] at permitted
    rw [← polarity]
    refine ⟨measured, ?_⟩
    cases kind : c.polarity with
    | max =>
      refine not_lt.mp fun more => permitted ?_
      simp [boundWidens, kind, compare_gt_iff_gt.mpr more]
    | min =>
      refine not_lt.mp fun less => permitted ?_
      simp [boundWidens, kind, compare_lt_iff_lt.mpr less]
  · rw [if_neg measured] at permitted
    simp at permitted

theorem checkDelegationSubset_ok {depth : Nat} (ok : checkDelegationSubset parent child depth prove = [])
    (effective : depth ≤ delegateDepth parent) : Narrows child parent := by
  have none := eraseDups_nil ok
  simp only [append_eq_nil_iff] at none
  obtain ⟨⟨⟨depths, validity⟩, stated⟩, dropped⟩ := none
  have permitted : ∀ c ∈ child.terms.items, termViolations prove c (termOf parent (termKey c)) = [] := by
    intro c listed
    have none := flatMap_eq_nil_iff.mp stated c listed
    simpa using none
  simp only [depthViolations, append_eq_nil_iff, ite_eq_right_iff, imp_false, cons_ne_self,
    not_lt, not_and] at depths
  simp only [validityViolations, ite_eq_right_iff, reduceCtorEq, imp_false, not_or, not_lt] at validity
  refine {
    depth := ?_
    opens := validity.1
    closes := validity.2
    sets := fun t listed => set_within t (permitted _ (set_mem.mp listed))
    rights := fun right held => right_within right (permitted _ (right_mem.mp held))
    bounds := fun t listed => ?_ }
  · obtain ⟨some, child_depth⟩ := depths
    by_cases delegates : 0 < delegateDepth child
    · have bound := child_depth delegates
      omega
    · omega
  · have above := bound_mem.mp listed
    have restated := filterMap_eq_nil_iff.mp dropped _ above
    simp only [droppedViolation, Option.map_some, ite_eq_left_iff, reduceCtorEq, imp_false, not_not] at restated
    obtain ⟨c, found⟩ := Option.isSome_iff_exists.mp restated
    obtain ⟨own, same⟩ := termOf_some found
    cases c with
    | bound c =>
      have key : boundKey c = boundKey t := by simpa [termKey, boundKey] using same
      have rule := permitted _ own
      rw [same, termOf_mem above] at rule
      exact ⟨c, bound_mem.mpr own, bound_within key rule⟩
    | _ => simp [termKey] at same

theorem checkDelegationSubset_restates {depth : Nat} (ok : checkDelegationSubset parent child depth prove = [])
    {p : StateInvariantTerm} (listed : .stateInvariant p ∈ parent.terms.items) :
    ∃ t, .stateInvariant t ∈ child.terms.items ∧ termKey (.stateInvariant t) = termKey (.stateInvariant p) := by
  have none := eraseDups_nil ok
  simp only [append_eq_nil_iff] at none
  have restated := filterMap_eq_nil_iff.mp none.2 _ listed
  simp only [droppedViolation, Option.map_some, ite_eq_left_iff, reduceCtorEq, imp_false, not_not] at restated
  obtain ⟨c, found⟩ := Option.isSome_iff_exists.mp restated
  obtain ⟨own, same⟩ := termOf_some found
  cases c with
  | stateInvariant t => exact ⟨t, own, same⟩
  | _ => simp [termKey] at same

end Subset

/-- Each node of a lineage narrows the one above it, and so all of those. -/
def Narrowing (lineage : List NodeRecord) : Prop :=
  lineage.Pairwise fun n above => Narrows n.grant above.grant

variable {node : NodeRecord} {ancestors : List NodeRecord}

theorem narrowing_cons {parent : NodeRecord}
    (above : Narrowing (parent :: ancestors)) (step : Narrows node.grant parent.grant) :
    Narrowing (node :: parent :: ancestors) := by
  refine pairwise_cons.mpr ⟨forall_mem_cons.mpr ⟨step, fun n listed => ?_⟩, above⟩
  exact step.trans ((pairwise_cons.mp above).1 n listed)

theorem narrowing_depth (narrowing : Narrowing (node :: ancestors)) :
    (effectiveDepths (node :: ancestors)).head?.getD 0 = delegateDepth node.grant := by
  induction ancestors generalizing node with
  | nil => rfl
  | cons parent ancestors ih =>
    obtain ⟨steps, above⟩ := pairwise_cons.mp narrowing
    rw [effectiveDepth_cons, effectiveDepths_head, ih above]
    exact min_eq_left (steps parent mem_cons_self).depth

section Meet
variable {path : String} {leaf : AuthorityId}

theorem meetBound_fresh {t : PerActionBoundTerm} {bounds : List PerActionBoundTerm}
    (fresh : boundKey t ∉ bounds.map boundKey) : meetBound path leaf t bounds = .ok (bounds ++ [t]) := by
  induction bounds with
  | nil => rfl
  | cons prev rest ih =>
    simp only [map_cons, mem_cons, not_or] at fresh
    have other : ¬(prev.boundId = t.boundId ∧ prev.polarity = t.polarity) := fun ⟨id, polarity⟩ =>
      fresh.1 (by simp [boundKey, id, polarity])
    rw [meetBound, if_neg other, ih fresh.2]
    rfl

theorem meetBound_within {t b : PerActionBoundTerm} {bounds : List PerActionBoundTerm}
    (distinct : (bounds.map boundKey).Nodup) (listed : b ∈ bounds) (tight : Tightens b t) :
    meetBound path leaf t bounds = .ok bounds := by
  obtain ⟨key, measured, magnitude⟩ := tight
  induction bounds with
  | nil => cases listed
  | cons prev rest ih =>
    simp only [map_cons, nodup_cons] at distinct
    rcases mem_cons.mp listed with rfl | later
    · have same : b.boundId = t.boundId ∧ b.polarity = t.polarity := Prod.mk.inj key
      rw [meetBound, if_pos same, compareBoundValues_eq, if_pos measured.symm]
      have loose : boundTightens t.polarity (compare (magnitudeOf t.value) (magnitudeOf b.value)) ≠ true := by
        cases kind : t.polarity with
        | max =>
          rw [kind] at magnitude
          have notLess : compare (magnitudeOf t.value) (magnitudeOf b.value) ≠ .lt :=
            fun less => absurd (compare_lt_iff_lt.mp less) (not_lt.mpr magnitude)
          simp [boundTightens, notLess]
        | min =>
          rw [kind] at magnitude
          have notMore : compare (magnitudeOf t.value) (magnitudeOf b.value) ≠ .gt :=
            fun more => absurd (compare_gt_iff_gt.mp more) (not_lt.mpr magnitude)
          simp [boundTightens, notMore]
      simp only [if_neg loose]
    · have other : ¬(prev.boundId = t.boundId ∧ prev.polarity = t.polarity) := by
        rintro ⟨id, polarity⟩
        refine distinct.1 (mem_map.mpr ⟨b, later, ?_⟩)
        rw [key]
        simp [boundKey, id, polarity]
      rw [meetBound, if_neg other, ih distinct.2 later]
      rfl

theorem meetBounds_fresh {terms bounds : List PerActionBoundTerm}
    (distinct : ((bounds ++ terms).map boundKey).Nodup) :
    terms.foldlM (fun bounds t => meetBound path leaf t bounds) bounds = .ok (bounds ++ terms) := by
  induction terms generalizing bounds with
  | nil => simp [pure, Except.pure]
  | cons t terms ih =>
    have fresh : boundKey t ∉ bounds.map boundKey := by
      intro repeated
      rw [map_append, nodup_append] at distinct
      exact distinct.2.2 _ repeated _ (mem_map.mpr ⟨t, mem_cons_self, rfl⟩) rfl
    rw [foldlM_cons, meetBound_fresh fresh]
    have rest := @ih (bounds ++ [t]) (by simpa using distinct)
    rw [List.append_assoc, singleton_append] at rest
    exact rest

end Meet

theorem grantBounds_distinct (g : AuthorityGrant) : ((grantBounds g).map boundKey).Nodup := by
  have distinct := pairwise_map.mp g.terms.distinct
  refine pairwise_map.mpr (pairwise_filterMap.mpr (distinct.imp ?_))
  rintro first second different b picked b' picked' same
  cases first <;> simp only [boundOf, Option.some.injEq, reduceCtorEq] at picked
  cases second <;> simp only [boundOf, Option.some.injEq, reduceCtorEq] at picked'
  subst picked picked'
  exact different (by simpa [termKey, boundKey] using same)

theorem filter_kept {α : Type} {write : α → Lib.Wire.Writer} {max : Nat} (set : CanonicalSet write max)
    {keep : α → Bool} (all : ∀ member ∈ set.members, keep member = true) : CanonicalSet.filter set keep = set := by
  have same : set.members.filter keep = set.members := filter_eq_self.mpr all
  cases set
  simp only [CanonicalSet.filter] at same ⊢
  simp only [same]

theorem filterMembers_kept {keep : SetMember → Bool} {t : SetConstraintTerm}
    (all : ∀ member ∈ setMemberKeys t, keep member = true) : filterMembers keep t = t := by
  cases t <;>
  · simp only [setMemberKeys, forall_mem_map] at all
    rw [filterMembers, filter_kept _ all]

theorem set_unique {g : AuthorityGrant} {a b : SetConstraintTerm} (here : a ∈ grantSets g)
    (there : b ∈ grantSets g) (same : a.vocabulary = b.vocabulary) : a = b := by
  have key : termKey (.set a) = termKey (.set b) := by simp [termKey, same]
  have equal := inj_on_of_nodup_map g.terms.distinct (set_mem.mp here) (set_mem.mp there) key
  exact AuthorityTerm.set.inj equal

theorem meetSet_kept {t : SetConstraintTerm} {ancestors : List AuthorityGrant}
    (within : ∀ g ∈ ancestors, SetWithin t (grantSets g)) : meetSet ancestors t = some t := by
  rw [meetSet]
  induction ancestors with
  | nil => rfl
  | cons g ancestors ih =>
    obtain ⟨other, listed, same, fewer⟩ := within g mem_cons_self
    have found : (grantSets g).find? (fun other => other.vocabulary == t.vocabulary) = some other := by
      cases search : (grantSets g).find? fun other => other.vocabulary == t.vocabulary with
      | none => simpa [same] using find?_eq_none.mp search other listed
      | some first =>
        have matching : first.vocabulary = t.vocabulary := by simpa using find?_some search
        rw [set_unique (mem_of_find?_eq_some search) listed (matching.trans same.symm)]
    have kept : filterMembers (setMemberKeys other).contains t = t :=
      filterMembers_kept fun member inside => contains_iff_mem.mpr (fewer inside)
    rw [foldl_cons, Option.bind_some, found, Option.map_some, kept]
    exact ih fun g listed => within g (mem_cons_of_mem _ listed)

theorem latest_own {start : Int} (earlier : ∀ n ∈ ancestors, n.grant.window.notBefore.1 ≤ start) :
    ancestors.foldl (fun t n => max t n.grant.window.notBefore.1) start = start := by
  induction ancestors with
  | nil => rfl
  | cons n ancestors ih =>
    rw [foldl_cons, max_eq_left (earlier n mem_cons_self)]
    exact ih fun other listed => earlier other (mem_cons_of_mem _ listed)

theorem earliest_own {start : Int} (later : ∀ n ∈ ancestors, start ≤ n.grant.window.expiresAt.1) :
    ancestors.foldl (fun t n => min t n.grant.window.expiresAt.1) start = start := by
  induction ancestors with
  | nil => rfl
  | cons n ancestors ih =>
    rw [foldl_cons, min_eq_left (later n mem_cons_self)]
    exact ih fun other listed => later other (mem_cons_of_mem _ listed)

/-- The sets, rights, bounds, validity and depth of an authority are those of one grant. -/
structure Verbatim (e : EffectiveAuthority) (g : AuthorityGrant) : Prop where
  validity : e.validity = ⟨g.window.notBefore.1, g.window.expiresAt.1, false⟩
  sets : e.sets = grantSets g
  rights : e.rights = PLAIN_RIGHTS.filter (hasRight g)
  depth : e.delegateDepth = delegateDepth g
  bounds : e.bounds = grantBounds g

theorem effectiveAuthority_verbatim {leaf : NodeRecord}
    (narrowing : Narrowing (leaf :: ancestors)) (policy : PrincipalPolicy) (path : String)
    (policyBindings : List SemanticTermBinding) :
    ∃ e, effectiveAuthority (leaf :: ancestors) policy path policyBindings = .ok e ∧ Verbatim e leaf.grant := by
  obtain ⟨steps, _⟩ := pairwise_cons.mp narrowing
  have bounds : (((leaf :: ancestors).map (·.grant)).flatMap fun g => g.terms.items.filterMap boundOf).foldlM
      (fun bounds t => meetBound path leaf.id t bounds) [] = .ok (grantBounds leaf.grant) := by
    have own := @meetBounds_fresh path leaf.id (grantBounds leaf.grant) [] (grantBounds_distinct leaf.grant)
    rw [map_cons, flatMap_cons, foldlM_append]
    change (grantBounds leaf.grant).foldlM _ [] >>= _ = _
    rw [own]
    refine foldlM_fixed fun t listed => ?_
    obtain ⟨_, above, stated⟩ := mem_flatMap.mp listed
    obtain ⟨n, there, rfl⟩ := mem_map.mp above
    obtain ⟨b, restated, tight⟩ := (steps n there).bounds t stated
    exact meetBound_within (grantBounds_distinct leaf.grant) restated tight
  rw [effectiveAuthority, bounds]
  refine ⟨_, rfl, ?_, ?_, ?_, narrowing_depth narrowing, rfl⟩
  · change effectiveWindow _ _ = _
    rw [latest_own fun n listed => (steps n listed).opens, earliest_own fun n listed => (steps n listed).closes]
    have ordered := leaf.grant.window.ordered
    simp only [effectiveWindow, EffectiveWindow.mk.injEq, true_and, decide_eq_false_iff_not, not_le]
    exact ordered
  · change (grantSets leaf.grant).filterMap (meetSet (ancestors.map (·.grant))) = _
    rw [filterMap_congr (g := some) fun t listed => meetSet_kept fun g above => ?_, filterMap_some]
    obtain ⟨n, there, rfl⟩ := mem_map.mp above
    exact (steps n there).sets t listed
  · refine filter_congr fun right _ => ?_
    rw [map_cons, all_cons, Bool.and_eq_left_iff_imp]
    intro held
    refine all_eq_true.mpr fun g above => ?_
    obtain ⟨n, there, rfl⟩ := mem_map.mp above
    exact (steps n there).rights right held

def Delegated (nodes : Nodes) : Prop :=
  ∀ id node, nodes.lookup id = some node → ∀ parent, node.grant.lineage.parent = some parent →
    ∃ above, nodes.lookup parent = some above ∧ Narrows node.grant above.grant

section Resolution
variable {s : LedgerState} {path : String} {leaf id : AuthorityId} {fuel : Nat} {lineage : List NodeRecord}

theorem resolveFrom_head (ok : resolveFrom s leaf path fuel id = .ok lineage) :
    ∃ node ancestors, lineage = node :: ancestors ∧ s.nodes.lookup id = some node := by
  cases fuel with
  | zero => simp [resolveFrom] at ok
  | succ fuel =>
    obtain ⟨node, known, ⟨_, same⟩ | ⟨_, rest, _, _, same⟩⟩ := resolveFrom_succ ok
    · exact ⟨node, [], same, known⟩
    · exact ⟨node, rest, same, known⟩

theorem resolveFrom_narrowing
    (delegated : Delegated s.nodes) (ok : resolveFrom s leaf path fuel id = .ok lineage) : Narrowing lineage := by
  induction fuel generalizing id lineage with
  | zero => simp [resolveFrom] at ok
  | succ fuel ih =>
    obtain ⟨node, known, ⟨_, rfl⟩ | ⟨above, rest, parent, higher, rfl⟩⟩ := resolveFrom_succ ok
    · exact pairwise_singleton _ _
    · obtain ⟨head, ancestors, rfl, found⟩ := resolveFrom_head higher
      obtain ⟨other, there, narrows⟩ := delegated id node known above parent
      obtain rfl := some.inj (found.symm.trans there)
      exact narrowing_cons (ih higher) narrows

theorem resolveLineage_narrowing (delegated : Delegated s.nodes)
    (ok : resolveLineage s leaf path = .ok lineage) : Narrowing lineage :=
  resolveFrom_narrowing delegated ok

theorem resolveFrom_total {ids : List AuthorityId}
    (walk : Path (nodeParent s.nodes) id ids) (short : ids.length ≤ fuel) :
    ∃ lineage, resolveFrom s leaf path fuel id = .ok lineage := by
  induction walk generalizing fuel with
  | root top =>
    obtain ⟨node, known, parent⟩ := map_eq_some_iff.mp top
    obtain ⟨fuel, rfl⟩ := Nat.exists_eq_add_of_le' short
    exact ⟨[node], by simp [resolveFrom, known, parent]⟩
  | @under id above rest link walk ih =>
    obtain ⟨node, known, parent⟩ := map_eq_some_iff.mp link
    obtain ⟨fuel, rfl⟩ := Nat.exists_eq_add_of_le' ((Nat.le_add_left 1 rest.length).trans short)
    obtain ⟨lineage, resolved⟩ := @ih fuel (by simpa using short)
    exact ⟨node :: lineage, by simp [resolveFrom, known, parent, resolved, bind, Except.bind]⟩

theorem resolveLineage_total {node : NodeRecord} (nodes : NodesOk s.principal s.nodes)
    (known : s.nodes.lookup leaf = some node) (path : String) :
    ∃ ancestors, resolveLineage s leaf path = .ok (node :: ancestors) := by
  obtain ⟨ids, walk, short⟩ := nodes.path known
  obtain ⟨lineage, resolved⟩ : ∃ lineage, resolveFrom s leaf path MAX_LINEAGE_LENGTH leaf = .ok lineage :=
    resolveFrom_total walk short
  obtain ⟨head, ancestors, rfl, found⟩ := resolveFrom_head resolved
  obtain rfl := some.inj (known.symm.trans found)
  exact ⟨ancestors, resolved⟩

end Resolution

section Steps
variable [Keccak] {rules : ReducerRules} {s next : LedgerState} {version : Nat} {e : LedgerEvent}
  {principal : PrincipalId}

omit [Keccak] in
private theorem Delegated.kept {before after : Nodes} {id : AuthorityId} {node : NodeRecord}
    (kept : NodesKept before after) (known : before.lookup id = some node)
    (delegated : Delegated before) {parent : AuthorityId} (link : node.grant.lineage.parent = some parent) :
    ∃ above, after.lookup parent = some above ∧ Narrows node.grant above.grant := by
  obtain ⟨above, found, narrows⟩ := delegated id node known parent link
  obtain ⟨later, found', same⟩ := kept parent above found
  exact ⟨later, found', same.grant ▸ narrows⟩

theorem Effect.delegated (nodes : NodesOk s.principal s.nodes) (delegated : Delegated s.nodes)
    (effect : Effect rules s version e next) : Delegated next.nodes := by
  have kept := effect.nodesKept nodes
  cases effect with
  | @registerGrant time grant _ _ depth registered =>
    intro id node known parent link
    rw [lookup_insert_eq] at known
    split at known
    · obtain rfl := some.inj known
      obtain ⟨_, _, ⟨root, _⟩ | ⟨parentId, named, checked⟩⟩ := checkGrantRegistration_ok registered
      · rw [root] at link
        cases link
      · obtain rfl := some.inj (named.symm.trans link)
        obtain ⟨above, ancestors, resolved, _, _, _, _, subset⟩ := checkDelegation_ok checked
        have narrowing := resolveLineage_narrowing delegated resolved
        have narrows := checkDelegationSubset_ok subset (narrowing_depth narrowing).le
        obtain ⟨_, _, same, found⟩ := resolveFrom_head resolved
        obtain ⟨rfl, _⟩ := List.cons.inj same
        obtain ⟨later, found', same⟩ := kept _ above found
        exact ⟨later, found', same.grant ▸ narrows⟩
    · exact delegated.kept kept known link
  | @revoke _ _ node _ known =>
    intro id other found parent link
    rw [lookup_insert_eq] at found
    split at found
    · obtain rfl := some.inj found
      exact delegated.kept kept known link
    · exact delegated.kept kept found link
  | _ => exact delegated

theorem Reachable.delegated (reachable : Reachable rules principal s) : Delegated s.nodes := by
  refine reachable.induct (fun s => Delegated s.nodes) ?_ (fun _ _ _ delegated => delegated)
    fun reached delegated _ effect => effect.delegated reached.nodesOk delegated
  intro id node known
  simp [emptyLedgerState] at known

/-- Effective authority is never wider than an ancestor's grant; in a reachable state it never
refuses a registered leaf, and is the leaf's own grant. -/
theorem effectiveAuthority_contained (rules : ReducerRules) (principal : PrincipalId) :
    (∀ lineage policy path policyBindings e, effectiveAuthority lineage policy path policyBindings = .ok e →
      ∀ n ∈ lineage, NoWider e n) ∧
    ∀ s, Reachable rules principal s → ∀ leaf node, s.nodes.lookup leaf = some node →
      ∀ policy path policyBindings, ∃ ancestors e, resolveLineage s leaf path = .ok (node :: ancestors) ∧
        effectiveAuthority (node :: ancestors) policy path policyBindings = .ok e ∧ Verbatim e node.grant := by
  refine ⟨fun lineage policy path policyBindings e ok => effectiveAuthority_noWider ok,
    fun s reachable leaf node known policy path policyBindings => ?_⟩
  obtain ⟨ancestors, resolved⟩ := resolveLineage_total reachable.nodesOk known path
  have narrowing := resolveLineage_narrowing reachable.delegated resolved
  obtain ⟨e, met, verbatim⟩ := effectiveAuthority_verbatim narrowing policy path policyBindings
  exact ⟨ancestors, e, resolved, met, verbatim⟩

end Steps

/-- A root is at depth zero, and a delegation is one level below its registered parent and may
delegate less far. -/
structure NodeRecord.Levelled (nodes : Nodes) (node : NodeRecord) : Prop where
  root : node.grant.lineage.parent = none → node.depth = 0
  delegated : ∀ parent, node.grant.lineage.parent = some parent → ∃ above, nodes.lookup parent = some above ∧
    node.depth = above.depth + 1 ∧ delegateDepth node.grant < delegateDepth above.grant

def Levelled (nodes : Nodes) : Prop := ∀ id node, nodes.lookup id = some node → node.Levelled nodes

/-- A lineage up to its root, with a level more and a further delegation at each step. -/
inductive Climbs : List NodeRecord → Prop
  | root {node : NodeRecord} (top : node.grant.lineage.parent = none) (zero : node.depth = 0) : Climbs [node]
  | under {node parent : NodeRecord} {ancestors : List NodeRecord} (level : node.depth = parent.depth + 1)
      (fewer : delegateDepth node.grant < delegateDepth parent.grant) (above : Climbs (parent :: ancestors)) :
      Climbs (node :: parent :: ancestors)

theorem Climbs.depth (climbs : Climbs (node :: ancestors)) : node.depth = ancestors.length := by
  induction ancestors generalizing node with
  | nil =>
    cases climbs
    assumption
  | cons parent ancestors ih =>
    cases climbs with
    | under level _ above => rw [level, ih above, length_cons]

theorem Climbs.top (climbs : Climbs (node :: ancestors)) :
    ∃ root, (node :: ancestors).getLast? = some root ∧ root.grant.lineage.parent = none ∧
      ancestors.length + delegateDepth node.grant ≤ delegateDepth root.grant := by
  induction ancestors generalizing node with
  | nil =>
    cases climbs with
    | root top => exact ⟨node, rfl, top, by simp⟩
  | cons parent ancestors ih =>
    cases climbs with
    | under _ fewer above =>
      obtain ⟨root, last, top, levels⟩ := ih above
      refine ⟨root, ?_, top, ?_⟩
      · rw [getLast?_cons_cons, last]
      · rw [length_cons]
        omega

theorem Climbs.decreasing {lineage : List NodeRecord} (climbs : Climbs lineage) :
    lineage.Pairwise fun n above => delegateDepth n.grant < delegateDepth above.grant := by
  induction climbs with
  | root => exact pairwise_singleton _ _
  | under _ fewer above ih =>
    refine pairwise_cons.mpr ⟨forall_mem_cons.mpr ⟨fewer, fun n listed => ?_⟩, ih⟩
    exact fewer.trans ((pairwise_cons.mp ih).1 n listed)

theorem delegateDepth_le (g : AuthorityGrant) : delegateDepth g ≤ MAX_DELEGATION_DEPTH := by
  unfold delegateDepth
  generalize search : g.terms.items.findSome? _ = found
  cases found with
  | none => exact Nat.zero_le _
  | some depth =>
    obtain ⟨t, _, picked⟩ := exists_of_findSome?_eq_some search
    split at picked
    · rename_i maxDepth _
      obtain rfl := some.inj picked
      exact maxDepth.2.2
    · cases picked

theorem checkDelegationSubset_level {parent child : AuthorityGrant} {depth : Nat} {prove : NarrowingProver}
    (ok : checkDelegationSubset parent child depth prove = []) : delegateDepth child < depth := by
  have none := eraseDups_nil ok
  simp only [append_eq_nil_iff] at none
  obtain ⟨⟨⟨depths, _⟩, _⟩, _⟩ := none
  simp only [depthViolations, append_eq_nil_iff, ite_eq_right_iff, imp_false, cons_ne_self,
    not_lt, not_and] at depths
  obtain ⟨some, child_depth⟩ := depths
  by_cases delegates : 0 < delegateDepth child
  · have bound := child_depth delegates
    omega
  · omega

section Levels
variable {s : LedgerState} {path : String}

theorem resolveFrom_climbs {leaf id : AuthorityId} {fuel : Nat} {lineage : List NodeRecord}
    (levelled : Levelled s.nodes) (ok : resolveFrom s leaf path fuel id = .ok lineage) : Climbs lineage := by
  induction fuel generalizing id lineage with
  | zero => simp [resolveFrom] at ok
  | succ fuel ih =>
    obtain ⟨node, known, ⟨parent, rfl⟩ | ⟨above, rest, parent, higher, rfl⟩⟩ := resolveFrom_succ ok
    · exact .root parent ((levelled id node known).root parent)
    · obtain ⟨head, ancestors, rfl, found⟩ := resolveFrom_head higher
      obtain ⟨other, there, level, fewer⟩ := (levelled id node known).delegated above parent
      obtain rfl := some.inj (found.symm.trans there)
      exact .under level fewer (ih higher)

theorem resolveLineage_climbs {leaf : AuthorityId} {lineage : List NodeRecord} (levelled : Levelled s.nodes)
    (ok : resolveLineage s leaf path = .ok lineage) : Climbs lineage :=
  resolveFrom_climbs levelled ok

variable [Keccak] {rules : ReducerRules} {next : LedgerState} {version : Nat} {e : LedgerEvent}
  {principal : PrincipalId}

omit [Keccak] in
private theorem Levelled.insert {nodes : Nodes} {node : NodeRecord} (levelled : Levelled nodes)
    (same : ∀ before, nodes.lookup node.id = some before → node.depth = before.depth ∧ node.grant = before.grant)
    (own : node.Levelled nodes) : Levelled (nodes.insert node.id node) := by
  have kept : ∀ {n : NodeRecord}, n.Levelled nodes → n.Levelled (nodes.insert node.id node) := by
    intro n placed
    refine ⟨placed.root, fun parent link => ?_⟩
    obtain ⟨above, found, level, fewer⟩ := placed.delegated parent link
    rw [lookup_insert_eq]
    split
    · rename_i here
      obtain ⟨depth, grant⟩ := same above (here ▸ found)
      exact ⟨node, rfl, by rw [level, depth], by rw [grant]; exact fewer⟩
    · exact ⟨above, found, level, fewer⟩
  intro id found known
  rw [lookup_insert_eq] at known
  split at known
  · obtain rfl := some.inj known
    exact kept own
  · exact kept (levelled id found known)

theorem Effect.levelled (nodes : NodesOk s.principal s.nodes) (delegated : Delegated s.nodes)
    (levelled : Levelled s.nodes) (effect : Effect rules s version e next) : Levelled next.nodes := by
  cases effect with
  | @registerGrant time grant _ _ depth registered =>
    obtain ⟨_, fresh, lineage⟩ := checkGrantRegistration_ok registered
    refine @Levelled.insert _ ⟨authorityId grant, grant, depth, _, version, none, none⟩ levelled
      (fun before found => absurd (fresh.symm.trans found) nofun) ?_
    rcases lineage with ⟨root, zero⟩ | ⟨parentId, named, checked⟩
    · exact ⟨fun _ => zero, fun parent link => absurd (root.symm.trans link) nofun⟩
    · refine ⟨fun top => absurd (named.symm.trans top) nofun, fun parent link => ?_⟩
      obtain rfl := some.inj (named.symm.trans link)
      obtain ⟨above, ancestors, resolved, _, _, _, level, subset⟩ := checkDelegation_ok checked
      rw [narrowing_depth (resolveLineage_narrowing delegated resolved)] at subset
      obtain ⟨_, _, same, found⟩ := resolveFrom_head resolved
      obtain ⟨rfl, _⟩ := List.cons.inj same
      exact ⟨above, found, level, checkDelegationSubset_level subset⟩
  | @revoke _ revocation node _ known =>
    have placed := levelled _ node known
    rw [← nodes.id known] at known
    refine @Levelled.insert _ { node with
      revokedAt := some version, revocation := some (revocationId revocation) } levelled (fun before found => ?_)
      ⟨placed.root, placed.delegated⟩
    obtain rfl := some.inj (known.symm.trans found)
    exact ⟨rfl, rfl⟩
  | _ => exact levelled

theorem Reachable.levelled (reachable : Reachable rules principal s) : Levelled s.nodes := by
  refine reachable.induct (fun s => Levelled s.nodes) ?_ (fun _ _ _ levelled => levelled)
    fun reached levelled _ effect => effect.levelled reached.nodesOk reached.delegated levelled
  intro id node known
  simp [emptyLedgerState] at known

/-- A registered node's lineage resolves to a root: its depth is the number of its ancestors, each
of which may delegate further than what is below it, and no more of them than the root allowed.
A parent that the subset check lets delegate is never too deep. -/
theorem lineage_levels (reachable : Reachable rules principal s) :
    (∀ leaf node path, s.nodes.lookup leaf = some node →
      ∃ ancestors root, resolveLineage s leaf path = .ok (node :: ancestors) ∧
        (node :: ancestors).getLast? = some root ∧ root.grant.lineage.parent = none ∧
        (node :: ancestors).length ≤ MAX_LINEAGE_LENGTH ∧ node.depth = (node :: ancestors).length - 1 ∧
        (node :: ancestors).Pairwise (fun n above => delegateDepth n.grant < delegateDepth above.grant) ∧
        node.depth + delegateDepth node.grant ≤ delegateDepth root.grant) ∧
    ∀ parentId path parent ancestors grant prove, resolveLineage s parentId path = .ok (parent :: ancestors) →
      checkDelegationSubset parent.grant grant ((effectiveDepths (parent :: ancestors)).head?.getD 0) prove = [] →
      (parent :: ancestors).length < MAX_LINEAGE_LENGTH := by
  refine ⟨fun leaf node path known => ?_, fun parentId path parent ancestors grant prove resolved subset => ?_⟩
  · obtain ⟨ancestors, resolved⟩ := resolveLineage_total reachable.nodesOk known path
    have climbs := resolveLineage_climbs reachable.levelled resolved
    obtain ⟨root, last, top, levels⟩ := climbs.top
    refine ⟨ancestors, root, resolved, last, top, (resolveLineage_ok reachable.nodesOk resolved).2.1, ?_,
      climbs.decreasing, ?_⟩
    · rw [climbs.depth, length_cons, Nat.add_sub_cancel]
    · rw [climbs.depth]
      exact levels
  · rw [narrowing_depth (resolveLineage_narrowing reachable.delegated resolved)] at subset
    obtain ⟨root, _, _, levels⟩ := (resolveLineage_climbs reachable.levelled resolved).top
    have delegable := checkDelegationSubset_level subset
    have bounded := delegateDepth_le root.grant
    simp only [length_cons, MAX_LINEAGE_LENGTH]
    omega

end Levels

section Sample

def sampleDelegable : AuthorityGrant :=
  { sampleGrant with
    terms := ⟨[.set (.modules soleModule), .right (.delegate ⟨1, by decide⟩),
      .ledgerDimension sampleDimension], by decide, by decide, by decide +kernel, by decide⟩ }

def sampleDelegation [Keccak] : AuthorityGrant :=
  { sampleGrant with
    lineage := .delegation (authorityId sampleDelegable) sampleAgent
    issued := rfl }

attribute [local instance] platformKeccak

/-- The sample delegation is one level below its root, which delegated exactly once. -/
theorem lineage_levels_sample : ∃ s node root,
    stateAfter [.registerPolicy 0 samplePolicy [] [], .registerGrant 0 sampleDelegable [] [],
      .registerGrant 0 sampleDelegation [] []] = some s ∧
    s.nodes.lookup (authorityId sampleDelegation) = some node ∧ node.depth = 1 ∧
    resolveLineage s (authorityId sampleDelegation) "authority" = .ok [node, root] := by
  have registered : ((stateAfter [.registerPolicy 0 samplePolicy [] [], .registerGrant 0 sampleDelegable [] [],
      .registerGrant 0 sampleDelegation [] []]).bind fun s => s.nodes.lookup (authorityId sampleDelegation)).map
        (·.depth) = some 1 := by
    rewrite [platformKeccak_straight]
    decide +kernel
  obtain ⟨node, found, depth⟩ := map_eq_some_iff.mp registered
  obtain ⟨s, after, known⟩ := Option.bind_eq_some_iff.mp found
  obtain ⟨history, run, _⟩ := stateAfter_run after
  obtain ⟨ancestors, root, resolved, _, _, _, levels, _⟩ :=
    (lineage_levels run.reachable).1 _ node "authority" known
  rw [depth, length_cons, Nat.add_sub_cancel] at levels
  obtain ⟨above, rfl⟩ := length_eq_one_iff.mp levels.symm
  exact ⟨s, node, above, after, known, depth, resolved⟩

theorem effectiveAuthority_contained_sample : ∃ s node ancestors e,
    stateAfter [.registerPolicy 0 samplePolicy [] [], .registerGrant 0 sampleDelegable [] [],
      .registerGrant 0 sampleDelegation [] []] = some s ∧
    s.nodes.lookup (authorityId sampleDelegation) = some node ∧
    effectiveAuthority (node :: ancestors) samplePolicy "authority" [] = .ok e ∧
    e.sets = grantSets sampleDelegation ∧ e.delegateDepth = 0 ∧ ∀ n ∈ ancestors, NoWider e n := by
  have registered : ((stateAfter [.registerPolicy 0 samplePolicy [] [], .registerGrant 0 sampleDelegable [] [],
      .registerGrant 0 sampleDelegation [] []]).bind fun s => s.nodes.lookup (authorityId sampleDelegation)).map
        (·.grant) = some sampleDelegation := by
    rewrite [platformKeccak_straight]
    decide +kernel
  obtain ⟨node, found, grant⟩ := map_eq_some_iff.mp registered
  obtain ⟨s, after, known⟩ := Option.bind_eq_some_iff.mp found
  obtain ⟨history, run, _⟩ := stateAfter_run after
  obtain ⟨meet, registered⟩ := effectiveAuthority_contained CORE_RULES samplePrincipal
  obtain ⟨ancestors, e, _, met, verbatim⟩ := registered s run.reachable _ node known samplePolicy "authority" []
  refine ⟨s, node, ancestors, e, after, known, met, grant ▸ verbatim.sets, ?_, fun n above => ?_⟩
  · rw [verbatim.depth, grant]
    decide +kernel
  · exact meet _ _ _ _ e met n (mem_cons_of_mem _ above)

end Sample

end Mandate.Ledger
