import Mandate.Core.Pathless

/-! A validated object does not depend on the order its sets and terms were supplied in:
each list is sorted by the encodings of its items, and no two items encode alike. -/
set_option linter.dupNamespace false
namespace Mandate.Core
open Lib.Wire List

/-- The same items in another order, each replaced by a related one. -/
def Shuffled {α : Type} (related : α → α → Prop) : List α → List α → Prop :=
  Relation.Comp (List.Forall₂ related) List.Perm

theorem Shuffled.symm {α : Type} {related : α → α → Prop} (back : ∀ x y, related x y → related y x)
    {xs ys : List α} (shuffled : Shuffled related xs ys) : Shuffled related ys xs := by
  obtain ⟨zs, each, perm⟩ := shuffled
  refine perm_comp_forall₂ perm.symm ?_
  exact each.flip.imp fun y x => back x y

theorem Shuffled.valued {ι α : Type} {related : ι → ι → Prop} {value : ι → α → Prop}
    (carried : ∀ x y v, related x y → value x v → value y v) {inputs others : List ι}
    (shuffled : Shuffled related inputs others) {items : List α} (valued : List.Forall₂ value inputs items) :
    ∃ moved, List.Forall₂ value others moved ∧ moved.Perm items := by
  obtain ⟨middle, each, perm⟩ := shuffled
  have replaced : List.Forall₂ value middle items := by
    clear perm
    induction each generalizing items with
    | nil => exact valued
    | cons here _ ih =>
      cases valued with
      | cons own rest => exact .cons (carried _ _ _ here own) (ih rest)
  exact perm_comp_forall₂ perm.symm replaced

theorem Shuffled.length {α : Type} {related : α → α → Prop} {xs ys : List α}
    (shuffled : Shuffled related xs ys) : ys.length = xs.length := by
  obtain ⟨zs, each, perm⟩ := shuffled
  rw [← perm.length_eq, each.length_eq]

theorem sortEncoded_perm {α : Type} {write : α → Writer} {items members : List α}
    (ascending : Ascending write members) (perm : items.Perm members) :
    sortEncoded write items = members := by
  have sorted := pairwise_insertionSort (encodedLE write) items
  have ordered : members.Pairwise (encodedLE write) := ascending.imp fun below => by
    unfold encodedLE
    rw [below]
    rfl
  have same : (sortEncoded write items).Perm members :=
    (perm_insertionSort (encodedLE write) items).trans perm
  refine List.Perm.eq_of_pairwise ?_ sorted ordered same
  intro a b first second le ge
  have inside := (same.mem_iff).mp first
  by_contra apart
  have strict : compareBytes (encodeWith write a) (encodeWith write b) ≠ .eq := by
    intro equal
    have order := pairwise_iff_getElem.mp ascending
    obtain ⟨i, hi, rfl⟩ := getElem_of_mem inside
    obtain ⟨j, hj, rfl⟩ := getElem_of_mem second
    rcases Nat.lt_trichotomy i j with below | rfl | above
    · simp [order i j hi hj below] at equal
    · exact apart rfl
    · have back := order j i hj hi above
      rw [compareBytes, @Std.OrientedCmp.eq_swap _ compare, ← compareBytes, equal] at back
      cases back
  have once : compareBytes (encodeWith write a) (encodeWith write b) = .eq :=
    @Std.OrientedCmp.isLE_antisymm _ compare _ _ _ le ge
  exact strict once

def Accepts {ι α : Type} (validate : ι → String → CoreResult α) (input : ι) (value : α) : Prop :=
  ∃ path, validate input path = .ok value

theorem validateEach_of_accepts {ι α : Type} {validate : ι → String → CoreResult α}
    (pathless : Pathless validate) {inputs : List ι} {items : List α}
    (accepted : List.Forall₂ (Accepts validate) inputs items) (path : String) (index : Nat) :
    ∃ out, validateEach validate path inputs index = .ok out ∧ out.1 = items := by
  induction accepted generalizing index with
  | nil => exact ⟨_, rfl, rfl⟩
  | cons here _ ih =>
    obtain ⟨at_, valid⟩ := here
    obtain ⟨out, rest, rfl⟩ := ih (index + 1)
    have own := (pathless _ _ (atIndex path index)).ok valid
    simp only [validateEach, own, rest, bind, Except.bind]
    exact ⟨_, rfl, rfl⟩

variable {max : Nat} {path : String}

theorem validateMembers_ok {ι α : Type} {write : α → Writer}
    {validate : ι → String → CoreResult α} (pathless : Pathless validate) {inputs : List ι} {set : CanonicalSet write max} :
    validateMembers write max validate inputs path = .ok set ↔
      inputs.length ≤ max ∧ ∃ items, List.Forall₂ (Accepts validate) inputs items ∧
        items.Perm set.members := by
  constructor
  · intro valid
    simp only [validateMembers, guard_ok, except_bind_ok] at valid
    obtain ⟨fits, items, each, canonical⟩ := valid
    refine ⟨fits, items.1, validateEach_ok each, ?_⟩
    rw [canonicalSet_ok canonical]
    exact (perm_insertionSort _ _).symm
  · rintro ⟨fits, items, accepted, perm⟩
    obtain ⟨out, each, rfl⟩ := validateEach_of_accepts pathless accepted path 0
    have sorted := sortEncoded_perm set.ascending perm
    have own := canonicalSet_self set path
    simp only [validateMembers, dif_pos fits, each, bind, Except.bind]
    simp only [canonicalSet, sortEncoded_ascending set.ascending] at own
    simp only [canonicalSet, sorted]
    exact own

theorem agree_of_ok {α : Type} {first second : CoreResult α} (onward : ∀ x, first = .ok x → second = .ok x)
    (back : ∀ x, second = .ok x → first = .ok x) : Agree first second := by
  cases first with
  | ok value => rw [onward value rfl]
  | error _ =>
    cases second with
    | error _ => rfl
    | ok value => cases back value rfl

abbrev Insensitive {ι α : Type} (related : ι → ι → Prop) (validate : ι → String → CoreResult α) : Prop :=
  ∀ input other, related input other → ∀ path path', Agree (validate input path) (validate other path')

theorem insensitive_members {ι α : Type} {write : α → Writer}
    {validate : ι → String → CoreResult α} (pathless : Pathless validate) :
    Insensitive List.Perm (validateMembers write max validate) := by
  have onward : ∀ inputs others : List ι, inputs.Perm others → ∀ path path' (set : CanonicalSet write max),
      validateMembers write max validate inputs path = .ok set →
      validateMembers write max validate others path' = .ok set := by
    intro inputs others perm path path' set valid
    obtain ⟨fits, items, accepted, sorted⟩ := (validateMembers_ok pathless).mp valid
    obtain ⟨moved, valued, same⟩ := perm_comp_forall₂ perm.symm accepted
    exact (validateMembers_ok pathless).mpr ⟨perm.length_eq ▸ fits, moved, valued, same.trans sorted⟩
  intro inputs others perm path path'
  exact agree_of_ok (onward _ _ perm path path') (onward _ _ perm.symm path' path)

/-- Two terms that differ in the order of their members, their scope or their sources. -/
inductive TermReordered : AuthorityTermInput → AuthorityTermInput → Prop
  | same (t : AuthorityTermInput) : TermReordered t t
  | modules {members others : List ModuleRefInput} (perm : members.Perm others) :
      TermReordered (.set (.modules members)) (.set (.modules others))
  | adapters {members others : List AdapterRefInput} (perm : members.Perm others) :
      TermReordered (.set (.adapters members)) (.set (.adapters others))
  | resources (vocabulary : ResourceVocabulary) {members others : List ResourceIdInput}
      (perm : members.Perm others) :
      TermReordered (.set (.resources vocabulary members)) (.set (.resources vocabulary others))
  | actionTypes {members others : List ActionTypeRefInput} (perm : members.Perm others) :
      TermReordered (.set (.actionTypes members)) (.set (.actionTypes others))
  | scope (t : StateInvariantInput) {others : List ResourceIdInput} (perm : t.scope.Perm others) :
      TermReordered (.stateInvariant t) (.stateInvariant { t with scope := others })
  | sources (t : StatePolicyInput) {others : List String} (perm : t.admittedSources.Perm others) :
      TermReordered (.statePolicy t) (.statePolicy { t with admittedSources := others })

variable {t other : AuthorityTermInput}

theorem TermReordered.symm (reordered : TermReordered t other) : TermReordered other t := by
  cases reordered with
  | same t => exact .same t
  | modules perm => exact .modules perm.symm
  | adapters perm => exact .adapters perm.symm
  | resources vocabulary perm => exact .resources vocabulary perm.symm
  | actionTypes perm => exact .actionTypes perm.symm
  | scope t perm => exact @TermReordered.scope { t with scope := _ } t.scope perm.symm
  | sources t perm => exact @TermReordered.sources { t with admittedSources := _ } t.admittedSources perm.symm

theorem TermReordered.kind (reordered : TermReordered t other) : other.kind = t.kind := by
  cases reordered <;> rfl

theorem insensitive_setTerm (vocabulary : ResourceVocabulary) :
    Insensitive List.Perm fun inputs path => validateSetTerm (.resources vocabulary inputs) path := by
  intro inputs others perm path path'
  exact (insensitive_members (pathless_resourceId _) _ _ perm _ _).map

theorem pathless_setTerm : Pathless validateSetTerm := by
  intro input path path'
  cases input with
  | modules members => exact (insensitive_members pathless_moduleRef _ _ (.refl _) _ _).map
  | adapters members => exact (insensitive_members pathless_adapterRef _ _ (.refl _) _ _).map
  | resources vocabulary members => exact insensitive_setTerm vocabulary _ _ (.refl _) _ _
  | actionTypes members => exact (insensitive_members pathless_actionTypeRef _ _ (.refl _) _ _).map

theorem insensitive_scope (t : StateInvariantInput) :
    Insensitive List.Perm fun scope path => validateInvariantTerm { t with scope := scope } path := by
  intro scope others perm path path'
  exact (pathless_identifier _ _ _).bind fun _ => (pathless_smallUint _ _ _ _).bind fun _ =>
    (insensitive_members pathless_anyResource _ _ perm _ _).bind fun _ =>
      (pathless_opaqueBytes _ _ _ _).bind fun _ => rfl

theorem insensitive_sources (t : StatePolicyInput) : Insensitive List.Perm fun sources path =>
    validateStatePolicyTerm { t with admittedSources := sources } path := by
  intro sources others perm path path'
  exact (pathless_identifier _ _ _).bind fun _ => (pathless_identifier _ _ _).bind fun _ =>
    (insensitive_members pathless_identifier _ _ perm _ _).bind fun _ =>
      (pathless_stateRequirement _ _ _).bind fun _ => rfl

theorem pathless_term : Pathless validateTerm := by
  intro input path path'
  cases input with
  | set t => exact (pathless_setTerm _ _ _).map
  | right t => exact (pathless_rightTerm _ _ _).map
  | bound t => exact (pathless_boundTerm _ _ _).map
  | timeWindow t => exact (pathless_timeWindowTerm _ _ _).map
  | ledgerDimension t => exact (pathless_dimensionTerm _ _ _).map
  | stateInvariant t => exact (insensitive_scope t _ _ (.refl _) _ _).map
  | statePolicy t => exact (insensitive_sources t _ _ (.refl _) _ _).map

theorem insensitive_term : Insensitive TermReordered validateTerm := by
  intro t other reordered path path'
  cases reordered with
  | same t => exact pathless_term _ _ _
  | modules perm => exact (insensitive_members pathless_moduleRef _ _ perm _ _).map.map
  | adapters perm => exact (insensitive_members pathless_adapterRef _ _ perm _ _).map.map
  | resources vocabulary perm => exact (insensitive_setTerm vocabulary _ _ perm _ _).map
  | actionTypes perm => exact (insensitive_members pathless_actionTypeRef _ _ perm _ _).map.map
  | scope t perm => exact (insensitive_scope t _ _ perm _ _).map
  | sources t perm => exact (insensitive_sources t _ _ perm _ _).map

variable {admits : AuthorityTerm → Bool} {validate : TermValidator admits} {inputs : List AuthorityTermInput}

theorem validateTerms_of_accepts (pathless : Pathless validate) {items : List AuthorityTerm}
    (accepted : List.Forall₂ (AcceptsTerm validate) inputs items) (path : String) (index : Nat)
    (seen : List TermKey) (distinct : (items.map termKey).Nodup) (fresh : ∀ t ∈ items, termKey t ∉ seen) :
    ∃ out, validateTerms validate path inputs index seen = .ok out ∧ out.items = items := by
  induction accepted generalizing index seen with
  | nil => exact ⟨_, rfl, rfl⟩
  | @cons input t inputs items here _ ih =>
    obtain ⟨_, admitted, valid⟩ := here
    obtain ⟨headFresh, tailDistinct⟩ := nodup_cons.mp distinct
    have unseen := fresh t (by simp)
    have apart : ∀ other ∈ items, termKey other ∉ termKey t :: seen := by
      intro other member old
      rcases mem_cons.mp old with equal | old
      · exact headFresh (equal ▸ mem_map_of_mem member)
      · exact fresh other (by simp [member]) old
    obtain ⟨out, rest, same⟩ := ih (index + 1) (termKey t :: seen) tailDistinct apart
    have own := (pathless _ _ (atIndex path index)).ok valid
    simp only [validateTerms, own, rest, bind, Except.bind, dif_pos unseen]
    exact ⟨_, rfl, congrArg (List.cons t) same⟩

theorem validateTermList_ok (pathless : Pathless validate)
    {list : TermList max admits} : validateTermList validate inputs path = .ok list ↔
      inputs.length ≤ max ∧ ∃ items, List.Forall₂ (AcceptsTerm validate) inputs items ∧
        items.Perm list.items := by
  constructor
  · intro valid
    simp only [validateTermList, guard_ok, except_bind_ok] at valid
    obtain ⟨fits, terms, each, same⟩ := valid
    cases same
    exact ⟨fits, terms.items, validateTerms_ok each, (perm_insertionSort _ _).symm⟩
  · rintro ⟨fits, items, accepted, perm⟩
    have distinct := (perm.map termKey).nodup_iff.mpr list.distinct
    obtain ⟨out, each, rfl⟩ := validateTerms_of_accepts pathless accepted path 0 [] distinct (by simp)
    have sorted := sortEncoded_perm list.ascending perm
    simp only [validateTermList, dif_pos fits, each, bind, Except.bind, sorted]

theorem insensitive_terms (insensitive : Insensitive TermReordered validate) :
    Insensitive (Shuffled TermReordered) (@validateTermList max _ validate) := by
  have pathless : Pathless validate := fun input => insensitive input input (.same input)
  have carried : ∀ x y t, TermReordered x y → AcceptsTerm validate x t → AcceptsTerm validate y t := by
    rintro x y t reordered ⟨path, admitted, valid⟩
    exact ⟨path, admitted, (insensitive x y reordered path path).ok valid⟩
  have onward : ∀ inputs others, Shuffled TermReordered inputs others → ∀ path path'
      (list : TermList max admits), validateTermList validate inputs path = .ok list →
      validateTermList validate others path' = .ok list := by
    intro inputs others shuffled path path' list valid
    obtain ⟨fits, items, accepted, sorted⟩ := (validateTermList_ok pathless).mp valid
    obtain ⟨moved, valued, same⟩ := shuffled.valued carried accepted
    exact (validateTermList_ok pathless).mpr ⟨shuffled.length ▸ fits, moved, valued, same.trans sorted⟩
  intro inputs others shuffled path path'
  have back := shuffled.symm fun _ _ reordered => reordered.symm
  exact agree_of_ok (onward _ _ shuffled path path') (onward _ _ back path' path)

theorem insensitive_grantTerm : Insensitive TermReordered validateGrantTerm := by
  intro t other reordered path path'
  exact (insensitive_term t other reordered path path').map

theorem insensitive_policyTerm : Insensitive TermReordered validatePolicyTerm := by
  intro t other reordered path path'
  have onward : ∀ a b, TermReordered a b → ∀ path path' (x : {t : AuthorityTerm // isPolicyTerm t = true}),
      validatePolicyTerm a path = .ok x → validatePolicyTerm b path' = .ok x := by
    intro a b reordered path path' x valid
    have plain := validatePolicyTerm_ok valid
    have moved := (insensitive_term a b reordered path path').ok plain
    simp only [validatePolicyTerm, unless_ok, guard_ok] at valid
    obtain ⟨plainKind, permitted, _⟩ := valid
    rw [← reordered.kind] at plainKind permitted
    rw [validatePolicyTerm, if_neg plainKind, dif_pos permitted]
    split
    · rename_i found here
      rw [moved] at here
      cases here
      rfl
    · rename_i here
      rw [moved] at here
      cases here
  exact agree_of_ok (onward _ _ reordered path path') (onward _ _ reordered.symm path' path)

theorem pathless_lineage : Pathless validateLineage := by
  intro input path path'
  cases input with
  | root issuer => exact (pathless_party _ _ _).map
  | delegation parent issuer =>
    exact (pathless_digest _ _ _).bind fun _ => (pathless_party _ _ _).bind fun _ => rfl

/-- Two grants that differ in the order of their terms and within them. -/
def GrantReordered (a b : AuthorityGrantInput) : Prop :=
  Shuffled TermReordered a.terms b.terms ∧ b = { a with terms := b.terms }

def PolicyReordered (a b : PrincipalPolicyInput) : Prop :=
  Shuffled TermReordered a.terms b.terms ∧ b = { a with terms := b.terms }

def ActionReordered (a b : ActionEnvelopeInput) : Prop :=
  a.resources.Perm b.resources ∧ b = { a with resources := b.resources }

def AuthorizationReordered (a b : ExecutionAuthorizationInput) : Prop :=
  a.stateBindings.Perm b.stateBindings ∧ b = { a with stateBindings := b.stateBindings }

def BindingRefReordered (a b : ExecutionBindingRefInput) : Prop :=
  a.stateBindings.Perm b.stateBindings ∧ b = { a with stateBindings := b.stateBindings }

theorem insensitive_grant : Insensitive GrantReordered validateAuthorityGrant := by
  rintro a b ⟨shuffled, same⟩ path path'
  rw [same]
  exact (pathless_lineage _ _ _).bind fun _ => (pathless_party _ _ _).bind fun _ => .guard fun _ =>
    (pathless_party _ _ _).bind fun _ => (pathless_window "notBefore" _ _ _ _).bind fun _ =>
      (insensitive_terms insensitive_grantTerm _ _ shuffled _ _).bind fun _ =>
        (pathless_u64 _ _ _).bind fun _ => rfl

theorem insensitive_policy : Insensitive PolicyReordered validatePrincipalPolicy := by
  rintro a b ⟨shuffled, same⟩ path path'
  rw [same]
  exact (pathless_party _ _ _).bind fun _ => (pathless_u64 _ _ _).bind fun _ =>
    (insensitive_terms insensitive_policyTerm _ _ shuffled _ _).bind fun _ =>
      (pathless_u64 _ _ _).bind fun _ => rfl

theorem pathless_other (target : ResourceId) : Pathless (validateOther target) := by
  intro input path path'
  exact (pathless_anyResource _ _ _).bind fun _ => .guard fun _ => rfl

theorem insensitive_action : Insensitive ActionReordered validateActionEnvelope := by
  rintro a b ⟨perm, same⟩ path path'
  rw [same]
  exact (pathless_party _ _ _).bind fun _ => (pathless_digest _ _ _).bind fun _ =>
    (pathless_party _ _ _).bind fun _ => (pathless_moduleRef _ _ _).bind fun _ =>
      (pathless_identifier _ _ _).bind fun _ => (pathless_adapterRef _ _ _).bind fun _ =>
        (pathless_anyResource _ _ _).bind fun _ =>
          (insensitive_members (pathless_other _) _ _ perm _ _).bind fun _ =>
            (pathless_digest _ _ _).bind fun _ => (pathless_window _ _ _ _ _).bind fun _ =>
              (pathless_u64 _ _ _).bind fun _ => rfl

theorem pathless_sequence : Pathless validateSequence := by
  intro input path path'
  cases input with
  | none => rfl
  | counted kind value => exact (pathless_u64 _ _ _).map

theorem pathless_validity (observedAt : UnixSeconds) :
    Pathless fun input path => validateValidity observedAt input path := by
  intro input path path'
  cases input with
  | none => rfl
  | some raw => exact (pathless_seconds _ _ _).bind fun _ => .guard fun _ => rfl

theorem pathless_stateEnvelope : Pathless validateStateEnvelope := by
  intro input path path'
  exact (pathless_moduleRef _ _ _).bind fun _ => (pathless_identifier _ _ _).bind fun _ =>
    (pathless_anyResource _ _ _).bind fun _ => (pathless_identifier _ _ _).bind fun _ =>
      (pathless_seconds _ _ _).bind fun _ => (pathless_sequence _ _ _).bind fun _ =>
        (pathless_validity _ _ _ _).bind fun _ => (pathless_finality _ _ _).bind fun _ =>
          (pathless_digest _ _ _).bind fun _ => rfl

theorem pathless_stateBinding : Pathless validateStateBinding := by
  intro input path path'
  exact (pathless_identifier _ _ _).bind fun _ => (pathless_anyResource _ _ _).bind fun _ =>
    (pathless_identifier _ _ _).bind fun _ => .guard fun _ => (pathless_sequence _ _ _).bind fun _ =>
      (pathless_seconds _ _ _).bind fun _ => (pathless_validity _ _ _ _).bind fun _ =>
        (pathless_finality _ _ _).bind fun _ => (pathless_digest _ _ _).bind fun _ =>
          (pathless_stateRequirement _ _ _).bind fun _ => rfl

theorem pathless_generation : Pathless parseReservationGeneration := by
  intro raw path path'
  exact (pathless_u64 _ _ _).bind fun _ => .guard fun _ => rfl

theorem pathless_lineageFrom (inputs : List String) (path path' : String) (index index' : Nat)
    (seen : List AuthorityId) :
    Agree (parseLineage path inputs index seen) (parseLineage path' inputs index' seen) := by
  induction inputs generalizing index index' seen with
  | nil => rfl
  | cons input inputs ih =>
    exact (pathless_digest _ _ _).bind fun _ => .guard fun _ => (ih _ _ _).bind fun _ => rfl

theorem pathless_lineageList : Pathless validateLineageList := by
  intro input path path'
  exact Agree.guard fun _ => .guard fun _ => (pathless_lineageFrom _ _ _ _ _ _).bind fun _ => rfl

theorem pathless_reservationRef : Pathless validateReservationRef := by
  intro input path path'
  exact (pathless_digest _ _ _).bind fun _ => (pathless_generation _ _ _).bind fun _ =>
    (pathless_party _ _ _).bind fun _ => (pathless_lineageList _ _ _).bind fun _ =>
      (pathless_digest _ _ _).bind fun _ => (pathless_moduleRef _ _ _).bind fun _ =>
        (pathless_nonZeroDigest _ _ _).bind fun _ => (pathless_adapterRef _ _ _).bind fun _ =>
          (pathless_u64 _ _ _).bind fun _ => rfl

theorem insensitive_authorization : Insensitive AuthorizationReordered validateExecutionAuthorization := by
  rintro a b ⟨perm, same⟩ path path'
  rw [same]
  exact (pathless_reservationRef _ _ _).bind fun _ =>
    (insensitive_members pathless_stateBinding _ _ perm _ _).bind fun _ =>
      (pathless_seconds _ _ _).bind fun _ => rfl

theorem insensitive_executionBinding : Insensitive BindingRefReordered validateExecutionBindingRef := by
  rintro a b ⟨perm, same⟩ path path'
  rw [same]
  exact (pathless_digest _ _ _).bind fun _ => (pathless_digest _ _ _).bind fun _ =>
    (pathless_generation _ _ _).bind fun _ => (pathless_moduleRef _ _ _).bind fun _ =>
      (pathless_adapterRef _ _ _).bind fun _ =>
        (insensitive_members pathless_digest _ _ perm _ _).bind fun _ =>
          (pathless_digest _ _ _).bind fun _ => rfl

/-- The inputs of a kind that differ in nothing but the order of what the kind keeps as a
set; a lineage is a list, and nothing else of these objects is ordered by its supplier. -/
def CoreKind.Reordered : (kind : CoreKind) → kind.Input → kind.Input → Prop
  | .grant => GrantReordered
  | .principalPolicy => PolicyReordered
  | .action => ActionReordered
  | .authorization => AuthorizationReordered
  | .executionBinding => BindingRefReordered
  | .stateEnvelope => Eq
  | .stateBinding => Eq
  | .quantity => Eq
  | .reservationRef => Eq

theorem CoreKind.insensitive (kind : CoreKind) : Insensitive kind.Reordered kind.validate := by
  cases kind with
  | grant => exact insensitive_grant
  | principalPolicy => exact insensitive_policy
  | action => exact insensitive_action
  | authorization => exact insensitive_authorization
  | executionBinding => exact insensitive_executionBinding
  | stateEnvelope =>
    rintro a _ rfl
    exact pathless_stateEnvelope a
  | stateBinding =>
    rintro a _ rfl
    exact pathless_stateBinding a
  | quantity =>
    rintro a _ rfl
    exact pathless_quantity a
  | reservationRef =>
    rintro a _ rfl
    exact pathless_reservationRef a

/-- An object decodes from its encoding, and is what every arrangement of its input gives:
its encoding and its identity depend on no order. -/
theorem encode_invertible (kind : CoreKind) : (∀ x : kind.Object, kind.decode (kind.encode x) = .ok x) ∧
      ∀ (a b : kind.Input) (path path' : String) (x : kind.Object), kind.Reordered a b →
        kind.validate a path = .ok x → kind.validate b path' = .ok x := by
  constructor
  · intro x
    rw [CoreKind.encode_format, CoreKind.decode_format]
    exact Format.accepts_encode kind.lawful x
  · intro a b path path' x reordered valid
    exact (kind.insensitive a b reordered path path').ok valid

/-- A binding reference that names its two state bindings in this order. -/
def bindingOf (stateBindings : List String) : ExecutionBindingRefInput where
  authorization := Digest32.toHex 1
  action := Digest32.toHex 2
  generation := .bigint 1
  module := ⟨"domain", "module", .integer 1, Digest32.toHex 3⟩
  adapter := ⟨"adapter", .integer 1, Digest32.toHex 4⟩
  stateBindings := stateBindings
  parameters := Digest32.toHex 5

theorem encode_invertible_swapped : ∃ x,
    CoreKind.validate .executionBinding (bindingOf [Digest32.toHex 7, Digest32.toHex 6]) "b" = .ok x ∧
      CoreKind.validate .executionBinding (bindingOf [Digest32.toHex 6, Digest32.toHex 7]) "b" = .ok x := by
  -- what is accepted in ascending order is accepted in the other
  have valid := validateExecutionBindingRef_self ⟨1, 2, ⟨1, by decide⟩,
    ⟨⟨"domain", by decide⟩, ⟨"module", by decide⟩, ⟨1, by decide⟩, ⟨3, by decide⟩⟩,
    ⟨⟨"adapter", by decide⟩, ⟨1, by decide⟩, ⟨4, by decide⟩⟩, ⟨[6, 7], by decide, by decide +kernel⟩, 5⟩ "b"
  exact ⟨_, (encode_invertible .executionBinding).2 _ _ "b" "b" _ ⟨List.Perm.swap _ _ _, rfl⟩ valid, valid⟩

end Mandate.Core
