import Mandate.Ledger.Narrowing

/-! What the invariant terms of the registered nodes and of the policy mean: each module-defined
term has one binding, a lineage binds a restated term alike throughout, and nothing rebinds it. -/
namespace Mandate.Ledger
open Core Lib.Wire Lib.Table Lib.Machine List
open Option (some.inj)

def bindingsFor (bindings : List SemanticTermBinding) (t : StateInvariantTerm) : List SemanticTermBinding :=
  bindings.filter fun b => scopedMatches b t

/-- One binding, a module's, for each module-defined term, and none for any other. -/
structure Bound (bindings : List SemanticTermBinding) (terms : List StateInvariantTerm) : Prop where
  one : ∀ t ∈ terms, isModuleDefined t = true →
    ∃ b, bindingsFor bindings t = [b] ∧ moduleOwned b.definition = true
  core : ∀ t ∈ terms, isModuleDefined t = false → bindingsFor bindings t = []
  wanted : ∀ b ∈ bindings, ∃ t ∈ terms, isModuleDefined t = true ∧ scopedMatches b t = true
  written : ∀ b ∈ bindings, (writeScoped b).isSome = true

section Checks
variable {bindings : List SemanticTermBinding} {terms : List StateInvariantTerm} {t p : StateInvariantTerm}
  {b : SemanticTermBinding}

theorem scopedMatches_iff : scopedMatches b t = true ↔
    b.definition.invariantId = t.invariantId ∧ b.definition.version.1 = t.version.1 ∧
      b.scope = t.scope.members := by
  simp [scopedMatches, and_assoc, Subtype.ext_iff]

theorem scopedMatches_key (found : scopedMatches b t = true) : termKeyOf b = termKey (.stateInvariant t) := by
  obtain ⟨id, version, scope⟩ := scopedMatches_iff.mp found
  simp [termKeyOf, termKey, id, version, scope]

theorem scopedMatches_congr (same : termKey (.stateInvariant t) = termKey (.stateInvariant p)) :
    scopedMatches b t = scopedMatches b p := by
  simp only [termKey, TermKey.stateInvariant.injEq] at same
  obtain ⟨id, version, scope⟩ := same
  simp [scopedMatches, id, version, scope]

private theorem bindingOf_some (found : bindingOf bindings t = some b) :
    b ∈ bindings ∧ scopedMatches b t = true :=
  ⟨mem_of_find?_eq_some found, find?_some (p := fun b => scopedMatches b t) found⟩

theorem isModuleDefined_congr (same : termKey (.stateInvariant t) = termKey (.stateInvariant p)) :
    isModuleDefined t = isModuleDefined p := by
  simp only [termKey, TermKey.stateInvariant.injEq] at same
  simp [isModuleDefined, same.1]

theorem encodable_ok (ok : encodable bindings = .ok ()) : ∀ b ∈ bindings, (writeScoped b).isSome = true := by
  unfold encodable at ok
  split at ok
  · rename_i all
    exact all_eq_true.mp all
  · cases ok

variable {path : String} {index : Nat}

theorem checkScopedSet_ok {invalid unexpected : GenericRefusalCode}
    {owned wanted : ScopedDefinition → Bool} {entries canonical : List ScopedDefinition} {seen : List TermKey} (sized : entries.length = canonical.length)
    (ok : checkScopedSet invalid unexpected owned wanted path entries canonical index seen = .ok ()) :
    (entries.map termKeyOf).Nodup ∧ (∀ entry ∈ entries, termKeyOf entry ∉ seen) ∧
      ∀ entry ∈ entries, owned entry = true ∧ wanted entry = true := by
  induction entries generalizing canonical index seen with
  | nil => simp
  | cons entry entries ih =>
    cases canonical with
    | nil => simp at sized
    | cons expected canonical =>
      simp only [checkScopedSet, ite_refuse_ok] at ok
      obtain ⟨_, fresh, owns, wants, ok⟩ := ok
      obtain ⟨distinct, unseen, rest⟩ := ih (Nat.succ.inj sized) ok
      have apart : termKeyOf entry ∉ entries.map termKeyOf := by
        intro repeated
        obtain ⟨other, listed, same⟩ := mem_map.mp repeated
        exact unseen other listed (same ▸ mem_cons_self)
      refine ⟨nodup_cons.mpr ⟨apart, distinct⟩, ?_, ?_⟩
      · refine forall_mem_cons.mpr ⟨fresh, fun other listed => ?_⟩
        exact fun early => unseen other listed (mem_cons_of_mem _ early)
      · exact forall_mem_cons.mpr ⟨⟨by simpa using owns, by simpa using wants⟩, rest⟩

theorem checkEachBound_ok (ok : checkEachBound bindings path terms index = .ok ()) :
    ∀ t ∈ terms, isModuleDefined t = true → (bindingOf bindings t).isSome = true := by
  induction terms generalizing index with
  | nil => simp
  | cons t terms ih =>
    simp only [checkEachBound, ite_refuse_ok] at ok
    obtain ⟨bound, ok⟩ := ok
    refine forall_mem_cons.mpr ⟨fun defined => ?_, ih ok⟩
    simpa [defined, Option.isSome_iff_ne_none] using bound

theorem bindingsFor_le (distinct : (bindings.map termKeyOf).Nodup) : (bindingsFor bindings t).length ≤ 1 := by
  have keys : ∀ key ∈ (bindingsFor bindings t).map termKeyOf, key = termKey (.stateInvariant t) := by
    intro key listed
    obtain ⟨b, kept, rfl⟩ := mem_map.mp listed
    exact scopedMatches_key (mem_filter.mp kept).2
  have unequal := distinct.sublist (filter_sublist (p := fun b => scopedMatches b t).map termKeyOf)
  rcases listed : bindingsFor bindings t with _ | ⟨first, _ | ⟨second, rest⟩⟩
  · simp
  · simp
  · rw [listed] at keys
    have one := keys (termKeyOf first) (by simp)
    have two := keys (termKeyOf second) (by simp)
    unfold bindingsFor at listed
    rw [listed] at unequal
    simp [one, two] at unequal

theorem checkBindingSet_ok {termsPath : String}
    (ok : checkBindingSet bindings terms path termsPath = .ok ()) : Bound bindings terms := by
  simp only [checkBindingSet, ite_refuse_ok] at ok
  obtain ⟨_, ok⟩ := ok
  obtain ⟨_, written, ok⟩ := except_bind_success ok
  obtain ⟨_, entries, each⟩ := except_bind_success ok
  have sized : bindings.length = (canonicalBindings bindings).length :=
    (length_insertionSort _ _).symm
  obtain ⟨distinct, _, checked⟩ := checkScopedSet_ok sized entries
  have wanted : ∀ b ∈ bindings, ∃ t ∈ terms, isModuleDefined t = true ∧ scopedMatches b t = true := by
    intro b listed
    simpa using (checked b listed).2
  refine ⟨fun t listed defined => ?_, fun t listed core => ?_, wanted, encodable_ok written⟩
  · obtain ⟨b, found⟩ := Option.isSome_iff_exists.mp (checkEachBound_ok each t listed defined)
    have inside : b ∈ bindingsFor bindings t :=
      mem_filter.mpr (bindingOf_some found)
    have few := bindingsFor_le (t := t) distinct
    obtain ⟨only, single⟩ := length_eq_one_iff.mp (Nat.le_antisymm few (length_pos_of_mem inside))
    rw [single, mem_singleton] at inside
    exact ⟨b, inside ▸ single, (checked b (bindingOf_some found).1).1⟩
  · refine filter_eq_nil_iff.mpr fun b inside matched => ?_
    obtain ⟨other, _, defined, matches'⟩ := wanted b inside
    have same := (scopedMatches_key matches').symm.trans (scopedMatches_key matched)
    rw [isModuleDefined_congr same, core] at defined
    cases defined

theorem Bound.canonical (bound : Bound bindings terms) : Bound (canonicalBindings bindings) terms := by
  have perm : (canonicalBindings bindings).Perm bindings := perm_insertionSort _ _
  refine ⟨fun t listed defined => ?_, fun t listed core => ?_, ?_, ?_⟩
  · obtain ⟨b, single, owned⟩ := bound.one t listed defined
    have filtered := perm.filter fun b => scopedMatches b t
    unfold bindingsFor at single
    rw [single] at filtered
    exact ⟨b, perm_singleton.mp filtered, owned⟩
  · have filtered := perm.filter fun b => scopedMatches b t
    have none := bound.core t listed core
    unfold bindingsFor at none
    rw [none] at filtered
    exact filtered.eq_nil
  · exact fun b listed => bound.wanted b (perm.mem_iff.mp listed)
  · exact fun b listed => bound.written b (perm.mem_iff.mp listed)

theorem bindingOf_eq_head : bindingOf bindings t = (bindingsFor bindings t).head? :=
  (head?_filter ..).symm

theorem Bound.bindingOf_canonical (bound : Bound bindings terms) (listed : t ∈ terms) :
    bindingOf (canonicalBindings bindings) t = bindingOf bindings t := by
  have perm : (canonicalBindings bindings).Perm bindings := perm_insertionSort _ _
  have filtered := perm.filter fun b => scopedMatches b t
  rw [bindingOf_eq_head, bindingOf_eq_head]
  unfold bindingsFor
  cases defined : isModuleDefined t with
  | true =>
    obtain ⟨b, single, _⟩ := bound.one t listed defined
    unfold bindingsFor at single
    rw [single] at filtered ⊢
    rw [perm_singleton.mp filtered]
  | false =>
    have none := bound.core t listed defined
    unfold bindingsFor at none
    rw [none] at filtered ⊢
    rw [filtered.eq_nil]

theorem sameBinding_eq {first second : List SemanticTermBinding}
    (written : ∀ b ∈ first, (writeScoped b).isSome = true)
    (writtenToo : ∀ b ∈ second, (writeScoped b).isSome = true)
    (key : termKey (.stateInvariant t) = termKey (.stateInvariant p))
    (same : sameBinding (bindingOf first p) (bindingOf second t) = true) :
    bindingOf second t = bindingOf first p := by
  cases above : bindingOf first p with
  | none =>
    cases below : bindingOf second t with
    | none => rfl
    | some b => simp [above, below, sameBinding] at same
  | some a =>
    cases below : bindingOf second t with
    | none => simp [above, below, sameBinding] at same
    | some b =>
      simp only [above, below, sameBinding, sameDefinition, beq_iff_eq] at same
      obtain ⟨listedA, matchedA⟩ := bindingOf_some above
      obtain ⟨listedB, matchedB⟩ := bindingOf_some below
      obtain ⟨_, wroteA⟩ := Option.isSome_iff_exists.mp (written a listedA)
      obtain ⟨_, wroteB⟩ := Option.isSome_iff_exists.mp (writtenToo b listedB)
      obtain ⟨bytesA, _, defA, _, _⟩ := Writer.append_some.mp wroteA
      obtain ⟨bytesB, _, defB, _, _⟩ := Writer.append_some.mp wroteB
      simp only [encodeWith, defA, defB, Option.getD_some] at same
      subst same
      have definition := (frames_semanticInvariantRef _ _ defA).2.inj (frames_semanticInvariantRef _ _ defB).2
      rw [scopedMatches_congr key] at matchedB
      have scope := (scopedMatches_iff.mp matchedB).2.2.trans (scopedMatches_iff.mp matchedA).2.2.symm
      cases a
      cases b
      simp only at definition scope
      rw [definition, scope]

end Checks

/-- `node` restates every invariant of `above`, and means by each what `above` does. -/
structure Restates (node above : NodeRecord) : Prop where
  kept : ∀ p ∈ grantInvariants above.grant, ∃ t ∈ grantInvariants node.grant,
    termKey (.stateInvariant t) = termKey (.stateInvariant p)
  same : ∀ t ∈ grantInvariants node.grant, ∀ p ∈ grantInvariants above.grant,
    termKey (.stateInvariant t) = termKey (.stateInvariant p) →
      bindingOf node.bindings t = bindingOf above.bindings p

variable {g : AuthorityGrant} {t : StateInvariantTerm}

theorem invariant_listed : t ∈ grantInvariants g ↔ .stateInvariant t ∈ g.terms.items := by
  rw [grantInvariants, mem_filterMap]
  constructor
  · rintro ⟨term, listed, picked⟩
    cases term <;> simp only [invariantOf, Option.some.injEq, reduceCtorEq] at picked
    exact picked ▸ listed
  · exact fun listed => ⟨_, listed, rfl⟩

variable {p : StateInvariantTerm}

theorem invariant_unique (listed : t ∈ grantInvariants g) (listedToo : p ∈ grantInvariants g)
    (same : termKey (.stateInvariant t) = termKey (.stateInvariant p)) : t = p := by
  have equal := inj_on_of_nodup_map g.terms.distinct (invariant_listed.mp listed)
    (invariant_listed.mp listedToo) same
  exact AuthorityTerm.stateInvariant.inj equal

theorem Restates.refl (node : NodeRecord) : Restates node node where
  kept p listed := ⟨p, listed, rfl⟩
  same t listed p listedToo key := by rw [invariant_unique listed listedToo key]

theorem Restates.trans {node middle above : NodeRecord} (lower : Restates node middle)
    (upper : Restates middle above) : Restates node above where
  kept p listed := by
    obtain ⟨m, between, key⟩ := upper.kept p listed
    obtain ⟨t, own, key'⟩ := lower.kept m between
    exact ⟨t, own, key'.trans key⟩
  same t own p listed key := by
    obtain ⟨m, between, key'⟩ := upper.kept p listed
    have low := lower.same t own m between (key.trans key'.symm)
    exact low.trans (upper.same m between p listed key')

variable {node above : NodeRecord}

theorem Restates.congr {node' above' : NodeRecord} (restates : Restates node above)
    (grant : node'.grant = node.grant) (bindings : node'.bindings = node.bindings)
    (grantAbove : above'.grant = above.grant) (bindingsAbove : above'.bindings = above.bindings) :
    Restates node' above' := by
  constructor
  · rw [grant, grantAbove]
    exact restates.kept
  · rw [grant, grantAbove, bindings, bindingsAbove]
    exact restates.same

/-- Of the nodes: each is bound, and each delegated one means what its parent means. -/
structure NodesBound (nodes : Nodes) : Prop where
  bound : ∀ {id node}, nodes.lookup id = some node → Bound node.bindings (grantInvariants node.grant)
  restates : ∀ {id node parent}, nodes.lookup id = some node → node.grant.lineage.parent = some parent →
    ∃ above, nodes.lookup parent = some above ∧ Restates node above

theorem NodesBound.descends {nodes : Nodes} (ok : NodesBound nodes) {id ancestor : AuthorityId} (descends : Descends nodes id ancestor) (known : nodes.lookup id = some node)
    (knownAbove : nodes.lookup ancestor = some above) : Restates node above := by
  induction descends using Relation.ReflTransGen.head_induction_on generalizing node with
  | refl =>
    obtain rfl := some.inj (known.symm.trans knownAbove)
    exact .refl node
  | head link _ ih =>
    obtain ⟨found, here, parent⟩ := Option.map_eq_some_iff.mp link
    obtain rfl := some.inj (known.symm.trans here)
    obtain ⟨middle, between, restates⟩ := ok.restates known parent
    exact restates.trans (ih between)

theorem checkRestatedBindings_ok {parent child : List StateInvariantTerm}
    {parentBindings childBindings : List SemanticTermBinding} {path : String} {index : Nat}
    (ok : checkRestatedBindings parent parentBindings childBindings path child index = .ok ()) :
    ∀ t ∈ child, ∀ p, restatedFrom parent t = some p → keepsSemantics p parentBindings t childBindings = true := by
  induction child generalizing index with
  | nil => simp
  | cons t child ih =>
    simp only [checkRestatedBindings, ite_else_refuse_ok] at ok
    obtain ⟨kept, ok⟩ := ok
    refine forall_mem_cons.mpr ⟨fun p restated => ?_, ih ok⟩
    simpa [restated] using kept

theorem restatedFrom_listed (listed : p ∈ grantInvariants g)
    (key : termKey (.stateInvariant t) = termKey (.stateInvariant p)) :
    restatedFrom (grantInvariants g) t = some p := by
  cases found : restatedFrom (grantInvariants g) t with
  | none =>
    have absent := find?_eq_none.mp found p listed
    simp [key] at absent
  | some other =>
    have same : termKey (.stateInvariant other) = termKey (.stateInvariant t) := by
      simpa using find?_some found
    rw [invariant_unique (mem_of_find?_eq_some found) listed (same.trans key)]

def Binds (before after : Nodes) : Prop :=
  ∀ id node, before.lookup id = some node →
    ∃ later, after.lookup id = some later ∧ later.grant = node.grant ∧ later.bindings = node.bindings

private theorem Binds.refl (nodes : Nodes) : Binds nodes nodes := fun _ node known => ⟨node, known, rfl, rfl⟩

private theorem NodesBound.insert {nodes : Nodes} {id : AuthorityId} {node : NodeRecord} (earlier : NodesBound nodes)
    (kept : Binds nodes (nodes.insert id node)) (bound : Bound node.bindings (grantInvariants node.grant))
    (restates : ∀ parent, node.grant.lineage.parent = some parent →
      ∃ above, nodes.lookup parent = some above ∧ Restates node above) : NodesBound (nodes.insert id node) := by
  have lifted : ∀ {n : NodeRecord} {parent : AuthorityId},
      (∃ above, nodes.lookup parent = some above ∧ Restates n above) →
      ∃ above, (nodes.insert id node).lookup parent = some above ∧ Restates n above := by
    rintro n parent ⟨above, known, restates⟩
    obtain ⟨later, found, grant, bindings⟩ := kept parent above known
    exact ⟨later, found, restates.congr rfl rfl grant bindings⟩
  refine ⟨fun {other found} known => ?_, fun {other found parent} known link => ?_⟩
  · rw [lookup_insert_eq] at known
    split at known
    · rw [← some.inj known]
      exact bound
    · exact earlier.bound known
  · rw [lookup_insert_eq] at known
    split at known
    · obtain rfl := some.inj known
      exact lifted (restates parent link)
    · exact lifted (earlier.restates known link)

section Steps
variable [Keccak] {rules : ReducerRules} {s next : LedgerState} {version : Nat} {time : Int} {e : LedgerEvent}
  {bindings : List SemanticTermBinding} {proofs : List SemanticProofRef}

theorem applyRegisterPolicy_bound {policy : PrincipalPolicy}
    (ok : applyRegisterPolicy s policy proofs bindings version rules = .ok next) :
    Bound bindings (policyInvariants policy) := by
  simp only [applyRegisterPolicy, ite_refuse_ok] at ok
  obtain ⟨_, _, ok⟩ := ok
  obtain ⟨_, bound, _⟩ := except_bind_success ok
  exact checkBindingSet_ok bound

variable {grant : AuthorityGrant}

theorem applyRegisterGrant_bound
    (ok : applyRegisterGrant s time grant proofs bindings version rules = .ok next) :
    Bound bindings (grantInvariants grant) ∧ ∀ parent, parentOf s grant = some parent →
      checkRestatedBindings (grantInvariants parent.grant) parent.bindings bindings "grant.terms"
        (grantInvariants grant) 0 = .ok () := by
  obtain ⟨_, bound, ok⟩ := except_bind_success ok
  obtain ⟨_, narrowed, _⟩ := except_bind_success ok
  refine ⟨checkBindingSet_ok bound, fun parent known => ?_⟩
  obtain ⟨_, _, narrowed⟩ := except_bind_success narrowed
  obtain ⟨_, _, narrowed⟩ := except_bind_success narrowed
  simpa only [known] using narrowed

theorem registered_restates
    {prove : NarrowingProver} {path : String} {depth : Nat} {parentId : AuthorityId} {node : NodeRecord}
    (nodes : NodesOk s.principal s.nodes) (earlier : NodesBound s.nodes)
    (delegated : checkDelegation s (authorityId grant) grant time path prove parentId = .ok depth)
    (link : grant.lineage.parent = some parentId) (bound : Bound bindings (grantInvariants grant))
    (restated : ∀ parent, parentOf s grant = some parent →
      checkRestatedBindings (grantInvariants parent.grant) parent.bindings bindings "grant.terms"
        (grantInvariants grant) 0 = .ok ())
    (same : node.grant = grant) (bindings' : node.bindings = canonicalBindings bindings) :
    ∃ above, s.nodes.lookup parentId = some above ∧ Restates node above := by
  obtain ⟨parent, ancestors, resolved, _, _, _, _, subset⟩ := checkDelegation_ok delegated
  obtain ⟨walk, _, registered⟩ := resolveLineage_ok nodes resolved
  have known := registered parent mem_cons_self
  have same' : parent.id = parentId := some.inj walk.head?
  rw [same'] at known
  refine ⟨parent, known, ⟨fun p listed => ?_, fun t own p listed key => ?_⟩⟩
  · obtain ⟨t, own, key⟩ := checkDelegationSubset_restates subset (invariant_listed.mp listed)
    rw [same]
    exact ⟨t, invariant_listed.mpr own, key⟩
  · rw [same] at own
    rw [bindings', bound.bindingOf_canonical own]
    have kept := checkRestatedBindings_ok (restated parent (by simp [parentOf, link, known])) t own p
      (restatedFrom_listed listed key)
    exact sameBinding_eq (earlier.bound known).written bound.written key kept

private theorem Effect.binds (nodes : NodesOk s.principal s.nodes) (effect : Effect rules s version e next) :
    Binds s.nodes next.nodes := by
  cases effect with
  | @registerGrant _ grant _ bindings depth registered =>
    intro id node known
    have fresh := (checkGrantRegistration_ok registered).2.1
    refine ⟨node, ?_, rfl, rfl⟩
    have other : id ≠ authorityId grant := by
      rintro rfl
      simp [fresh] at known
    simp [other, known]
  | @revoke _ revocation marked _ found =>
    intro id node known
    have own := nodes.id found
    by_cases here : id = marked.id
    · subst here
      rw [own, found] at known
      obtain rfl := some.inj known
      exact ⟨{ marked with revokedAt := some version, revocation := some (revocationId revocation) },
        AList.lookup_insert _, rfl, rfl⟩
    · exact ⟨node, by simp [here, known], rfl, rfl⟩
  | _ => exact .refl _

theorem dispatchEvent_bound (nodes : NodesOk s.principal s.nodes) (earlier : NodesBound s.nodes)
    (ok : dispatchEvent s version rules e = .ok next) : NodesBound next.nodes := by
  have effect := dispatchEvent_effect ok
  have kept := effect.binds nodes
  cases effect with
  | @registerGrant _ grant proofs bindings depth registered =>
    obtain ⟨bound, restated⟩ := applyRegisterGrant_bound ok
    refine earlier.insert kept bound.canonical fun parent link => ?_
    rcases (checkGrantRegistration_ok registered).2.2 with ⟨root, _⟩ | ⟨parentId, link', delegated⟩
    · simp [root] at link
    · obtain rfl := some.inj (link.symm.trans link')
      exact registered_restates nodes earlier delegated link bound restated rfl rfl
  | @revoke _ revocation marked _ found =>
    have bound := earlier.bound found
    refine earlier.insert kept bound fun parent link => ?_
    obtain ⟨above, known, restates⟩ := earlier.restates found link
    exact ⟨above, known, restates.congr rfl rfl rfl rfl⟩
  | _ => exact earlier

theorem dispatchEvent_policy (ok : dispatchEvent s version rules e = .ok next)
    (earlier : ∀ record, s.policy = some record → Bound record.bindings (policyInvariants record.policy)) :
    ∀ record, next.policy = some record → Bound record.bindings (policyInvariants record.policy) := by
  have effect := dispatchEvent_effect ok
  cases effect with
  | registerPolicy _ _ =>
    intro record current
    obtain rfl := some.inj current
    exact (applyRegisterPolicy_bound ok).canonical
  | _ => exact earlier

variable {principal : PrincipalId}

theorem Reachable.bound (reachable : Reachable rules principal s) : NodesBound s.nodes ∧
      ∀ record, s.policy = some record → Bound record.bindings (policyInvariants record.policy) := by
  refine Reaches.induct (fun s => NodesBound s.nodes ∧
    ∀ record, s.policy = some record → Bound record.bindings (policyInvariants record.policy)) reachable ?_ ?_
  · exact ⟨⟨nofun, nofun⟩, nofun⟩
  · intro before label after reached earlier step
    cases step with
    | event accepted =>
      obtain ⟨_, moved, dispatched, rfl⟩ := applyEvent_ok accepted
      have nodes := Reachable.nodesOk reached
      have bound : NodesBound moved.nodes := dispatchEvent_bound nodes earlier.1 dispatched
      exact ⟨bound, fun record => dispatchEvent_policy dispatched earlier.2 record⟩
    | «sealed» head => exact earlier

private theorem Reachable.binds (reachable : Reachable rules principal s)
    (onward : Reaches (Step rules) s next) : Binds s.nodes next.nodes := by
  refine onward.induct (fun later => Binds s.nodes later.nodes) (.refl _) ?_
  intro before label after reached earlier step
  cases step with
  | event accepted =>
    obtain ⟨_, moved, effect, rfl⟩ := applyEvent_effect accepted
    have stepped := effect.binds (Reachable.nodesOk (reachable.trans reached))
    intro id node known
    obtain ⟨between, found, grant, bindings⟩ := earlier id node known
    obtain ⟨later, found', grant', bindings'⟩ := stepped id between found
    exact ⟨later, found', grant'.trans grant, bindings'.trans bindings⟩
  | «sealed» head => exact earlier

/-- Semantic bindings are complete, agree along every lineage, and are never rebound. -/
theorem semantic_bindings {principal : PrincipalId} (reachable : Reachable rules principal s) :
    (∀ id node, s.nodes.lookup id = some node → Bound node.bindings (grantInvariants node.grant)) ∧
    (∀ record, s.policy = some record → Bound record.bindings (policyInvariants record.policy)) ∧
    (∀ id ancestor node above, Descends s.nodes id ancestor → s.nodes.lookup id = some node →
      s.nodes.lookup ancestor = some above → ∀ t ∈ grantInvariants node.grant, ∀ p ∈ grantInvariants above.grant,
        termKey (.stateInvariant t) = termKey (.stateInvariant p) →
          bindingOf node.bindings t = bindingOf above.bindings p) ∧
    ∀ next, Reaches (Step rules) s next → ∀ id node, s.nodes.lookup id = some node →
      ∃ later, next.nodes.lookup id = some later ∧ later.bindings = node.bindings := by
  obtain ⟨nodes, policy⟩ := reachable.bound
  refine ⟨fun _ _ known => nodes.bound known, policy, ?_, ?_⟩
  · intro id ancestor node above descends known knownAbove
    exact (nodes.descends descends known knownAbove).same
  · intro next onward id node known
    obtain ⟨later, found, _, bindings⟩ := reachable.binds onward id node known
    exact ⟨later, found, bindings⟩

end Steps

section Sample

def sampleInvariant : StateInvariantTerm where
  invariantId := ⟨"swap.solvent", by decide⟩
  version := ⟨1, version_one⟩
  scope := ⟨[], by decide, by simp [Ascending]⟩
  params := ⟨[], by decide⟩

def sampleBinding : SemanticTermBinding :=
  ⟨⟨.module sampleModule, sampleInvariant.invariantId, sampleInvariant.version⟩, []⟩

def sampleBound : AuthorityGrant :=
  { sampleGrant with
    terms := ⟨[.set (.modules soleModule),
      .ledgerDimension sampleDimension, .stateInvariant sampleInvariant],
      by decide, by decide, by decide +kernel, by decide⟩ }

attribute [local instance] platformKeccak

/-- A bound grant keeps its binding, whatever is registered, replaced or revoked later. -/
theorem semantic_bindings_sample : ∃ s, stateAfter [.registerPolicy 0 samplePolicy [] [],
      .registerGrant 0 sampleBound [] [sampleBinding]] = some s ∧
    ∀ next, Reaches (Step CORE_RULES) s next → ∃ later,
      next.nodes.lookup (authorityId sampleBound) = some later ∧ later.bindings = [sampleBinding] := by
  have registered : ((stateAfter [.registerPolicy 0 samplePolicy [] [],
      .registerGrant 0 sampleBound [] [sampleBinding]]).bind fun s =>
        s.nodes.lookup (authorityId sampleBound)).map (·.bindings) = some [sampleBinding] := by
    rewrite [platformKeccak_straight]
    decide +kernel
  obtain ⟨node, found, bindings⟩ := Option.map_eq_some_iff.mp registered
  obtain ⟨s, after, known⟩ := Option.bind_eq_some_iff.mp found
  obtain ⟨history, run, _⟩ := stateAfter_run after
  obtain ⟨_, _, _, stable⟩ := semantic_bindings run.reachable
  refine ⟨s, after, fun next onward => ?_⟩
  obtain ⟨later, kept, same⟩ := stable next onward _ node known
  exact ⟨later, kept, same.trans bindings⟩

end Sample

end Mandate.Ledger
