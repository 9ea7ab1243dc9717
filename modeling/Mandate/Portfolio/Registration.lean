import Mandate.Core.Validated
import Mandate.Ledger.Narrowing
import Mandate.Portfolio.Compile
import Mandate.Portfolio.Containment
import Mandate.Portfolio.Solvent

/-! A compiled portfolio registers: what an agent's scope compiles to is within what the
portfolio's compiles to, term by term, under Core's own rule for a delegation. -/
set_option linter.dupNamespace false
namespace Mandate.Portfolio
open Core Lib.Table List
open Option (some.inj bind_eq_some_iff)

inductive RepositoryBinding [Keccak] : Binding → Prop
  | fixture (c : FixtureModule) : RepositoryBinding (createFixtureBinding c)
  | perps (config : PerpsConfig) : RepositoryBinding (createPerpsBinding config)
  | stock (config : StockConfig) : RepositoryBinding (createStockBinding config)

theorem mapM_mem {α β : Type} {f : α → Option β} {items : List α} {results : List β}
    (ok : items.mapM f = some results) (y : β) : y ∈ results ↔ ∃ x ∈ items, f x = some y := by
  induction items generalizing results with
  | nil =>
    cases ok
    simp
  | cons head tail ih =>
    simp only [mapM_cons, Option.bind_eq_bind, bind_eq_some_iff, Option.pure_def,
      Option.some.injEq] at ok
    obtain ⟨first, here, rest, later, rfl⟩ := ok
    rw [mem_cons, ih later, exists_mem_cons_iff]
    simp only [here, Option.some.injEq, eq_comm]

theorem mapM_total {α β : Type} {f : α → Option β} {items : List α} {results : List β}
    (ok : items.mapM f = some results) {x : α} (listed : x ∈ items) : ∃ y, f x = some y := by
  induction items generalizing results with
  | nil => cases listed
  | cons head tail ih =>
    simp only [mapM_cons, Option.bind_eq_bind, bind_eq_some_iff] at ok
    obtain ⟨first, here, rest, later, -⟩ := ok
    rcases mem_cons.mp listed with rfl | listed
    · exact ⟨first, here⟩
    · exact ih later listed

section Narrowing
variable {parent child : AuthorityScope}

theorem identifiers_subset {wide narrow : IdentifierSet}
    (keys : narrow.members.map (·.1) ⊆ wide.members.map (·.1)) : narrow.members ⊆ wide.members :=
  (map_subset_iff _ Subtype.val_injective).mp keys

theorem actionKind_text_injective : Function.Injective ActionKind.text := by
  intro a b same
  revert same
  cases a <;> cases b <;> decide

theorem reached_subset (within : Within parent child) (bindings : List Binding) :
    reached bindings child ⊆ reached bindings parent := by
  intro b member
  obtain ⟨listed, named⟩ := mem_filter.mp member
  simp only [Bool.and_eq_true, contains_iff_mem] at named
  refine mem_filter.mpr ⟨listed, ?_⟩
  simp only [Bool.and_eq_true, contains_iff_mem]
  exact ⟨identifiers_subset (within.sets .domains) named.1,
    (map_subset_iff _ actionKind_text_injective).mp (within.sets .actions) named.2⟩

/-- What one binding covers of a scope, against what it covers of a wider one. -/
structure CoverageWithin (wide narrow : CoreCoverage) : Prop where
  markets : narrow.markets ⊆ wide.markets
  venues : narrow.venues ⊆ wide.venues
  recipients : narrow.recipients ⊆ wide.recipients

theorem fixtureCoverage_within (c : FixtureModule) (within : Within parent child) :
    CoverageWithin (fixtureCoverage c parent) (fixtureCoverage c child) := by
  have representations := identifiers_subset (within.sets .representations)
  have venues := identifiers_subset (within.sets .venues)
  have recipients := identifiers_subset (within.sets .recipients)
  constructor
  · intro r
    simp only [fixtureCoverage, mem_map, mem_filter, contains_iff_mem]
    rintro ⟨i, ⟨reviewed, named⟩, rfl⟩
    exact ⟨i, ⟨reviewed, representations named⟩, rfl⟩
  · intro r
    simp only [fixtureCoverage, mem_map, mem_insertionSort, mem_dedup, mem_append,
      mem_flatMap, mem_filter, contains_iff_mem, Bool.and_eq_true]
    rintro ⟨v, ⟨i, ⟨reviewed, named⟩, traded, listed⟩ | ⟨p, ⟨pooled, router, pool⟩, rfl⟩, rfl⟩
    · exact ⟨v, .inl ⟨i, ⟨reviewed, representations named⟩, traded, venues listed⟩, rfl⟩
    · exact ⟨p.pool, .inr ⟨p, ⟨pooled, venues router, venues pool⟩, rfl⟩, rfl⟩
  · intro r
    simp only [fixtureCoverage, mem_map, mem_filter, contains_iff_mem]
    rintro ⟨recipient, ⟨reviewed, named⟩, rfl⟩
    exact ⟨recipient, ⟨reviewed, recipients named⟩, rfl⟩

theorem markets_within {α : Type} {place : α → Option (ResourceOf [.market])} {reviewed : List α}
    {listed : Identifier → α → Bool} (within : Within parent child) {wide narrow : List (ResourceOf [.market])}
    (above : (reviewed.filter fun m => parent.representations.members.any fun r => listed r m).mapM place = some wide)
    (below : (reviewed.filter fun m => child.representations.members.any fun r => listed r m).mapM place = some narrow) :
    narrow ⊆ wide := by
  intro r member
  obtain ⟨m, kept, placed⟩ := (mapM_mem below r).mp member
  refine (mapM_mem above r).mpr ⟨m, ?_, placed⟩
  simp only [mem_filter, any_eq_true] at kept ⊢
  obtain ⟨there, named, inside, matched⟩ := kept
  exact ⟨there, named, identifiers_subset (within.sets .representations) inside, matched⟩

theorem coverage_within [Keccak] {b : Binding} (known : RepositoryBinding b) (within : Within parent child)
    {wide narrow : CoreCoverage} (above : b.coverage parent = some wide) (below : b.coverage child = some narrow) :
    CoverageWithin wide narrow := by
  cases known with
  | fixture c =>
    cases above
    cases below
    exact fixtureCoverage_within c within
  | perps config | stock config =>
    obtain ⟨markets, placed, above⟩ := bind_eq_some_iff.mp above
    obtain ⟨fewer, narrowed, below⟩ := bind_eq_some_iff.mp below
    cases above
    cases below
    exact ⟨map_subset _ (markets_within within placed narrowed), List.Subset.refl _, List.Subset.refl _⟩

end Narrowing

private def keep (kept : List ResourceIdInput) (r : ResourceIdInput) : List ResourceIdInput :=
  if kept.any fun k => resourceKey k == resourceKey r then
    kept.map fun k => if resourceKey k == resourceKey r then r else k
  else kept ++ [r]

variable {r : ResourceIdInput} {kept : List ResourceIdInput} {head : ResourceIdInput}

theorem mem_keep (member : r ∈ keep kept head) : r ∈ kept ∨ r = head := by
  unfold keep at member
  split at member
  · obtain ⟨k, listed, same⟩ := mem_map.mp member
    split at same
    · exact .inr same.symm
    · exact .inl (same ▸ listed)
  · simpa using member

theorem keep_covers (member : r ∈ kept ∨ r = head) : ∃ k ∈ keep kept head, resourceKey k = resourceKey r := by
  unfold keep
  split
  · rename_i stands
    rcases member with listed | rfl
    · refine ⟨_, mem_map_of_mem listed, ?_⟩
      split
      · rename_i same
        exact (beq_iff_eq.mp same).symm
      · rfl
    · obtain ⟨k, listed, same⟩ := any_eq_true.mp stands
      exact ⟨r, mem_map.mpr ⟨k, listed, if_pos same⟩, rfl⟩
  · exact ⟨r, by simpa using member, rfl⟩

theorem kept_foldl (resources kept : List ResourceIdInput) :
    (∀ r ∈ resources.foldl keep kept, r ∈ kept ∨ r ∈ resources) ∧
      ∀ r, r ∈ kept ∨ r ∈ resources → ∃ k ∈ resources.foldl keep kept, resourceKey k = resourceKey r := by
  induction resources generalizing kept with
  | nil => exact ⟨fun r member => .inl member, fun r member => ⟨r, member.resolve_right not_mem_nil, rfl⟩⟩
  | cons head tail ih =>
    obtain ⟨origin, covers⟩ := ih (keep kept head)
    rw [foldl_cons]
    constructor
    · intro r member
      rcases origin r member with kept | later
      · rcases mem_keep kept with stood | rfl
        · exact .inl stood
        · exact .inr mem_cons_self
      · exact .inr (mem_cons_of_mem _ later)
    · intro r member
      by_cases later : r ∈ tail
      · exact covers r (.inr later)
      · obtain ⟨k, kept, same⟩ := keep_covers (member.imp_right fun listed =>
          (mem_cons.mp listed).resolve_right later)
        obtain ⟨k', there, same'⟩ := covers k (.inl kept)
        exact ⟨k', there, same'.trans same⟩

variable {resources : List ResourceIdInput}

theorem mem_unique (member : r ∈ unique resources) : r ∈ resources :=
  ((kept_foldl resources []).1 r member).resolve_left not_mem_nil

theorem unique_covers (listed : r ∈ resources) : ∃ k ∈ unique resources, resourceKey k = resourceKey r :=
  (kept_foldl resources []).2 r (.inr listed)

variable {p : String} {allowed : List Core.ResourceKind} {q : String}

theorem resourceKey_valid {a b : ResourceIdInput}
    {x y : ResourceOf allowed} (first : validateResourceIn allowed a p = .ok x)
    (second : validateResourceIn allowed b q = .ok y) (same : resourceKey a = resourceKey b) : a = b := by
  have free := @Registry.identifier_free ' ' (by decide)
  have kinds : ∀ kind : Core.ResourceKind, ' ' ∉ (kindText kind).toList := by
    intro kind
    cases kind <;> decide
  obtain ⟨domain, kind, localId⟩ := validateResourceIn_ok first
  obtain ⟨domain', kind', localId'⟩ := validateResourceIn_ok second
  have letters := congrArg String.toList same
  simp only [resourceKey, String.toList_append, String.reduceToList, List.append_assoc, cons_append,
    nil_append, ← domain, ← domain', ← localId, ← localId'] at letters
  have parts := congrArg (List.splitOn ' ') letters
  rw [splitOn_append_cons_self_of_not_mem (free _), splitOn_append_cons_self_of_not_mem (free _),
    splitOn_append_cons_self_of_not_mem (kinds _), splitOn_append_cons_self_of_not_mem (kinds _),
    splitOn_eq_singleton (free _), splitOn_eq_singleton (free _)] at parts
  obtain ⟨domains, named, locals, -⟩ : _ ∧ _ ∧ _ ∧ True := by simpa only [List.cons.injEq, and_true] using parts
  have sameKind : a.kind = b.kind := by
    revert named
    cases a.kind <;> cases b.kind <;> decide
  obtain ⟨ad, ak, al⟩ := a
  obtain ⟨bd, bk, bl⟩ := b
  simp only [ResourceIdInput.mk.injEq]
  exact ⟨domain.symm.trans ((String.toList_inj.mp domains).trans domain'), sameKind,
    localId.symm.trans ((String.toList_inj.mp locals).trans localId')⟩

theorem unique_subset {wide narrow : List ResourceIdInput} (sub : narrow ⊆ wide)
    (above : ∀ r ∈ unique wide, ∃ x p, validateResourceIn allowed r p = .ok x)
    (below : ∀ r ∈ unique narrow, ∃ x p, validateResourceIn allowed r p = .ok x) : unique narrow ⊆ unique wide := by
  intro r member
  obtain ⟨k, there, same⟩ := unique_covers (sub (mem_unique member))
  obtain ⟨x, p, valid⟩ := above k there
  obtain ⟨y, q, own⟩ := below r member
  rw [← resourceKey_valid valid own same]
  exact there

/-- A term no wider than another of its key, as the compiler writes both. -/
inductive TermWithin : AuthorityTermInput → AuthorityTermInput → Prop
  | modules {wide narrow : List ModuleRefInput} (sub : narrow ⊆ wide) :
      TermWithin (.set (.modules wide)) (.set (.modules narrow))
  | adapters {wide narrow : List AdapterRefInput} (sub : narrow ⊆ wide) :
      TermWithin (.set (.adapters wide)) (.set (.adapters narrow))
  | actionTypes {wide narrow : List ActionTypeRefInput} (sub : narrow ⊆ wide) :
      TermWithin (.set (.actionTypes wide)) (.set (.actionTypes narrow))
  | resources (vocabulary : ResourceVocabulary) {wide narrow : List ResourceIdInput} (sub : narrow ⊆ wide) :
      TermWithin (.set (.resources vocabulary wide)) (.set (.resources vocabulary narrow))
  | right (right : PlainRight) : TermWithin (.right (.plain right)) (.right (.plain right))

theorem keys_within {α : Type} {wide narrow : List α} (sub : narrow ⊆ wide) (key : α → Ledger.SetMember) :
    (narrow.map key).all (wide.map key).contains = true := by
  simp only [all_eq_true, contains_iff_mem]
  exact fun k member => map_subset key sub member

variable {t : AuthorityTerm}

theorem TermWithin.violations {j i : AuthorityTermInput} (within : TermWithin j i)
    {c : AuthorityTerm} (wide : validateTerm j p = .ok t) (narrow : validateTerm i q = .ok c)
    (prove : Ledger.NarrowingProver) : termKey t = termKey c ∧ Ledger.termViolations prove c (some t) = [] := by
  cases within with
  | modules sub | adapters sub | actionTypes sub | resources vocabulary sub =>
    obtain ⟨_, first, rfl⟩ := except_map_success wide
    obtain ⟨_, second, rfl⟩ := except_map_success narrow
    obtain ⟨set, above, rfl⟩ := except_map_success first
    obtain ⟨fewer, below, rfl⟩ := except_map_success second
    refine ⟨rfl, if_pos (keys_within (validateMembers_subset ?_ sub below above) _)⟩
    first
    | exact pathless_moduleRef
    | exact pathless_adapterRef
    | exact pathless_actionTypeRef
    | exact pathless_resourceId _
  | right right =>
    obtain ⟨_, above, rfl⟩ := except_map_success wide
    obtain ⟨_, below, rfl⟩ := except_map_success narrow
    cases above
    cases below
    exact ⟨rfl, rfl⟩

def Representable (terms : List AuthorityTermInput) : Prop := ∀ i ∈ terms, ∃ t p, validateTerm i p = .ok t

theorem resources_valid {vocabulary : ResourceVocabulary} {members : List ResourceIdInput} (ok : validateTerm (.set (.resources vocabulary members)) p = .ok t) :
    ∀ r ∈ members, ∃ x p, validateResourceIn vocabulary.kinds r p = .ok x := by
  obtain ⟨_, validated, rfl⟩ := except_map_success ok
  obtain ⟨set, members, rfl⟩ := except_map_success validated
  intro r listed
  obtain ⟨x, -, p, valid⟩ := (validateMembers_mem members).2 r listed
  exact ⟨x, p, valid⟩

section Coverage
variable [Keccak] {bindings : List Binding} {parent child : AuthorityScope} {wide narrow : List AuthorityTermInput}

theorem covered_within (known : ∀ b ∈ bindings, RepositoryBinding b) (within : Within parent child)
    {above below : List CoreCoverage} (wider : (reached bindings parent).mapM (·.coverage parent) = some above)
    (narrower : (reached bindings child).mapM (·.coverage child) = some below) :
    ∀ cc ∈ below, ∃ cp ∈ above, CoverageWithin cp cc := by
  intro cc member
  obtain ⟨b, reachable, covers⟩ := (mapM_mem narrower cc).mp member
  have listed := reached_subset within bindings reachable
  have all := known b (mem_of_mem_filter reachable)
  obtain ⟨cp, widely⟩ := mapM_total wider listed
  exact ⟨cp, (mapM_mem wider cp).mpr ⟨b, listed, widely⟩, coverage_within all within widely covers⟩

theorem coverage_terms_within (known : ∀ b ∈ bindings, RepositoryBinding b) (within : Within parent child)
    (above : coverage bindings parent = some wide) (below : coverage bindings child = some narrow)
    (validWide : Representable wide) (validNarrow : Representable narrow) :
    ∀ i ∈ narrow, ∃ j ∈ wide, TermWithin j i := by
  obtain ⟨aboves, wider, above⟩ := bind_eq_some_iff.mp above
  obtain ⟨belows, narrower, below⟩ := bind_eq_some_iff.mp below
  cases above
  cases below
  have fewer := reached_subset within bindings
  have covers := covered_within known within wider narrower
  intro i member
  simp only [mem_cons, not_mem_nil, or_false] at member
  have resources (vocabulary : ResourceVocabulary) (pick : CoreCoverage → List ResourceIdInput)
      (picked : ∀ {cp cc}, CoverageWithin cp cc → pick cc ⊆ pick cp) {terms fewer : List AuthorityTermInput}
      (wides : Representable terms) (narrows : Representable fewer)
      (first : .set (.resources vocabulary (unique (aboves.flatMap pick))) ∈ terms)
      (second : .set (.resources vocabulary (unique (belows.flatMap pick))) ∈ fewer) :
      ∃ j ∈ terms, TermWithin j (.set (.resources vocabulary (unique (belows.flatMap pick)))) := by
    obtain ⟨t, p, wide⟩ := wides _ first
    obtain ⟨c, q, narrow⟩ := narrows _ second
    refine ⟨_, first, .resources vocabulary (unique_subset ?_ (resources_valid wide) (resources_valid narrow))⟩
    intro r listed
    obtain ⟨cc, there, inside⟩ := mem_flatMap.mp listed
    obtain ⟨cp, above, within⟩ := covers cc there
    exact mem_flatMap.mpr ⟨cp, above, picked within inside⟩
  rcases member with rfl | rfl | rfl | rfl | rfl | rfl | rfl
  · exact ⟨_, by simp, .modules (map_subset _ fewer)⟩
  · exact ⟨_, mem_cons_of_mem _ mem_cons_self, .adapters (map_subset _ fewer)⟩
  · refine ⟨_, mem_cons_of_mem _ (mem_cons_of_mem _ mem_cons_self), .actionTypes ?_⟩
    intro a listed
    obtain ⟨b, reachable, named⟩ := mem_flatMap.mp listed
    exact mem_flatMap.mpr ⟨b, fewer reachable, named⟩
  · exact resources .markets (·.markets) CoverageWithin.markets validWide validNarrow (by simp) (by simp)
  · exact resources .venues (·.venues) CoverageWithin.venues validWide validNarrow (by simp) (by simp)
  · exact resources .recipients (·.recipients) CoverageWithin.recipients validWide validNarrow (by simp) (by simp)
  · exact ⟨_, by simp, .right _⟩

end Coverage

section Dimensions
variable {table : ResourceTable} {limits maxima : ResourceVector} {wide narrow : List AuthorityTermInput}
  {j : AuthorityTermInput}

theorem dimension_listed (ok : dimensions table limits = some wide) (member : j ∈ wide) :
    ∃ l ∈ limits, ∃ d, table.find? (fun d => d.resource = l.resource) = some d ∧ dimensionOf d l.atoms = j := by
  obtain ⟨l, listed, found⟩ := (mapM_mem ok j).mp member
  obtain ⟨d, defined, made⟩ := Option.map_eq_some_iff.mp found
  exact ⟨l, listed, d, defined, made⟩

theorem epochless (d : ResourceDefinition) {t : LedgerDimensionTerm}
    (epochal : ∃ p e, validateEpochOf (if d.kind.1 = .positionSize then .units else .asCharged) none p = .ok e ∧
      t.epoch = e.1) : t.epoch = none := by
  obtain ⟨p, e, -, same⟩ := epochal
  have timeless : (if d.kind.1 = .positionSize then Restoration.units else .asCharged) ≠ .epoch := by
    split <;> decide
  rw [same, ← Option.not_isSome_iff_eq_none]
  exact fun some => timeless (e.2.mp some)

variable {p q : String} {t c : AuthorityTerm}

theorem dimension_violations {d : ResourceDefinition} {less more : Int} (least : less ≤ more) (above : validateTerm (dimensionOf d more) p = .ok t)
    (below : validateTerm (dimensionOf d less) q = .ok c) (prove : Ledger.NarrowingProver) :
    Ledger.termViolations prove c (some t) = [] := by
  obtain ⟨wide, first, rfl⟩ := except_map_success above
  obtain ⟨narrow, second, rfl⟩ := except_map_success below
  obtain ⟨-, ⟨p, limit⟩, accounting, restoration, epoch, sign, p', scope⟩ := validateDimensionTerm_ok first
  obtain ⟨-, ⟨q, limit'⟩, accounting', restoration', epoch', sign', q', scope'⟩ := validateDimensionTerm_ok second
  obtain ⟨kind, unit, decimals, atoms⟩ := validateQuantityBound_ok limit
  obtain ⟨kind', unit', decimals', atoms'⟩ := validateQuantityBound_ok limit'
  have comparable : Ledger.dimensionsComparable narrow wide = true := by
    have units : narrow.limit.unit = wide.limit.unit := Subtype.ext (unit'.trans unit.symm)
    have scopes : narrow.scope = wide.scope :=
      Except.ok.inj (((pathless_scope _ q' p').ok scope').symm.trans scope)
    have epochs : narrow.epoch = wide.epoch := by
      rw [epochless d epoch', epochless d epoch]
    simp only [Ledger.dimensionsComparable, kind, kind', units, accounting, accounting', restoration, restoration',
      epochs, sign, sign', scopes, beq_self_eq_true, Bool.and_self]
  have within : ¬ Ledger.compareScaled narrow.limit.atoms.1 narrow.limit.decimals.1 wide.limit.atoms.1
      wide.limit.decimals.1 = .gt := by
    rw [Ledger.compareScaled, atoms, atoms', decimals, decimals', compare_gt_iff_gt, not_lt]
    exact Int.mul_le_mul_of_nonneg_right least (by positivity)
  simp only [Ledger.termViolations, comparable, Bool.not_true, Bool.false_eq_true, if_false, if_neg within]

theorem dimensions_within (unrepeated : Unrepeated limits) (bounded : ∀ h ∈ maxima, h.atoms ≤ amountOf limits h.resource)
    (above : dimensions table limits = some wide) (below : dimensions table maxima = some narrow)
    {i : AuthorityTermInput} (own : i ∈ narrow) (listed : j ∈ wide)
    (first : validateTerm j p = .ok t) (second : validateTerm i q = .ok c) (same : termKey t = termKey c)
    (prove : Ledger.NarrowingProver) : Ledger.termViolations prove c (some t) = [] := by
  obtain ⟨h, held, d, defined, rfl⟩ := dimension_listed below own
  obtain ⟨l, limited, d', defined', rfl⟩ := dimension_listed above listed
  have resource : l.resource = h.resource := by
    obtain ⟨wide, spelled, rfl⟩ := except_map_success first
    obtain ⟨narrow, spelled', rfl⟩ := except_map_success second
    have ids := (validateDimensionTerm_ok spelled).1.symm.trans
      ((congrArg Subtype.val (TermKey.ledgerDimension.inj same)).trans (validateDimensionTerm_ok spelled').1)
    have named : d'.resource = d.resource := Subtype.ext ids
    have mine : d.resource = h.resource := by simpa using find?_some defined
    have theirs : d'.resource = l.resource := by simpa using find?_some defined'
    rw [← theirs, named, mine]
  rw [resource, defined] at defined'
  cases defined'
  have most := bounded h held
  rw [← resource, amountOf_mem unrepeated limited] at most
  exact dimension_violations most first second prove

end Dimensions

section Compiled
variable {m : PortfolioMandate} {a : AgentPolicy} {bindings : List Binding}

theorem checkAgentPolicy_valid (valid : checkAgentPolicy m a = []) : Within m.scope a.scope ∧
      (m.window.notBefore.1 ≤ a.window.notBefore.1 ∧ a.window.expiresAt.1 ≤ m.window.expiresAt.1) ∧
      ∀ h ∈ a.hardMaxima.amounts, h.atoms ≤ amountOf m.limits.amounts h.resource := by
  simp only [checkAgentPolicy, canonicalReasons_eq_nil, prefixed_eq_nil, append_eq_nil_iff,
    checkChildScope_eq_nil, checkChildWindow, checkChildLimits, map_eq_nil_iff, filter_eq_nil_iff,
    ite_eq_right_iff, cons_ne_nil, imp_false, not_or, not_lt, if_true] at valid
  obtain ⟨⟨within, window⟩, declared, limited⟩ := valid
  refine ⟨within, window, fun h held => ?_⟩
  by_contra more
  have exceeded : h.resource ∈ exceeding a.hardMaxima.amounts m.limits.amounts :=
    mem_map_of_mem (mem_filter.mpr ⟨held, by simpa using more⟩)
  exact limited h.resource exceeded (by simpa using declared h held)

variable {scope : AuthorityScope} {terms : List AuthorityTermInput}

theorem coverage_kinds (ok : coverage bindings scope = some terms) :
    ∀ i ∈ terms, i.kind = .set ∨ ∃ right, i = .right (.plain right) := by
  obtain ⟨covered, -, same⟩ := bind_eq_some_iff.mp ok
  cases same
  intro i member
  simp only [mem_cons, not_mem_nil, or_false] at member
  rcases member with rfl | rfl | rfl | rfl | rfl | rfl | rfl
  all_goals first | exact .inl rfl | exact .inr ⟨_, rfl⟩

theorem perpDelegationTerms_kinds {config : PerpsConfig} (ok : perpDelegationTerms config scope = some terms) :
    ∀ i ∈ terms, i.kind = .stateInvariant := by
  unfold perpDelegationTerms at ok
  split at ok
  · obtain rfl := some.inj ok
    exact fun i member => absurd member not_mem_nil
  · split at ok
    · obtain rfl := some.inj ok
      exact fun i member => absurd member not_mem_nil
    · simp only [Option.bind_eq_bind, bind_eq_some_iff, Option.some.injEq] at ok
      obtain ⟨account, -, params, -, rfl⟩ := ok
      intro i member
      rw [mem_singleton.mp member]
      rfl

theorem delegationTerms_kinds [Keccak] {b : Binding} (known : RepositoryBinding b) (ok : b.delegationTerms scope = some terms) :
    ∀ i ∈ terms, i.kind = .stateInvariant := by
  cases known with
  | fixture _ | stock _ =>
    obtain rfl : [] = terms := some.inj ok
    exact fun i member => absurd member not_mem_nil
  | perps config => exact perpDelegationTerms_kinds ok

theorem dimensions_kinds {table : ResourceTable} {limits : ResourceVector}
    (ok : dimensions table limits = some terms) : ∀ i ∈ terms, i.kind = .ledgerDimension := by
  intro i member
  obtain ⟨l, -, d, -, rfl⟩ := dimension_listed ok member
  rfl

theorem rootTerms_parts (ok : rootTerms m bindings = some terms) :
    ∃ covered limits, coverage bindings m.scope = some covered ∧
      dimensions m.resources.members m.limits.amounts = some limits ∧
      terms = covered ++ [.right (.delegate (.integer 1))] ++ limits := by
  obtain ⟨covered, first, ok⟩ := bind_eq_some_iff.mp ok
  obtain ⟨limits, second, ok⟩ := bind_eq_some_iff.mp ok
  exact ⟨covered, limits, first, second, (some.inj ok).symm⟩

theorem delegationTerms_parts [Keccak] (known : ∀ b ∈ bindings, RepositoryBinding b)
    (ok : delegationTermsOf m bindings a = some terms) :
    ∃ covered limits extra, coverage bindings a.scope = some covered ∧
      dimensions m.resources.members a.hardMaxima.amounts = some limits ∧
      (∀ i ∈ extra, i.kind = .stateInvariant) ∧ terms = covered ++ limits ++ extra := by
  obtain ⟨covered, first, ok⟩ := bind_eq_some_iff.mp ok
  obtain ⟨limits, second, ok⟩ := bind_eq_some_iff.mp ok
  obtain ⟨extra, third, ok⟩ := bind_eq_some_iff.mp ok
  refine ⟨covered, limits, extra.flatten, first, second, ?_, (some.inj ok).symm⟩
  intro i member
  obtain ⟨terms, listed, inside⟩ := mem_flatten.mp member
  obtain ⟨b, reachable, stated⟩ := (mapM_mem third terms).mp listed
  exact delegationTerms_kinds (known b (mem_of_mem_filter reachable)) stated i inside

theorem grant_kinds {input : AuthorityGrantInput} {path : String} {g : AuthorityGrant}
    (ok : validateAuthorityGrant input path = .ok g) {t : AuthorityTerm} (listed : t ∈ g.terms.items) :
    ∃ i ∈ input.terms, (∃ p, validateTerm i p = .ok t) ∧ t.kind = i.kind := by
  obtain ⟨i, given, p, valid⟩ := (validateAuthorityGrant_terms ok).1 t listed
  exact ⟨i, given, ⟨p, valid⟩, validateTerm_kind valid⟩

theorem root_kinds (ok : rootTerms m bindings = some terms) :
    ∀ i ∈ terms, i.kind = .set ∨ i.kind = .right ∨ i.kind = .ledgerDimension := by
  obtain ⟨covered, limits, covers, limited, rfl⟩ := rootTerms_parts ok
  intro i member
  rcases mem_append.mp member with member | member
  · rcases mem_append.mp member with member | member
    · rcases coverage_kinds covers i member with set | ⟨right, rfl⟩
      · exact .inl set
      · exact .inr (.inl rfl)
    · rw [mem_singleton.mp member]
      exact .inr (.inl rfl)
  · exact .inr (.inr (dimensions_kinds limited i member))

variable {root : AuthorityGrant}

theorem delegateDepth_one {depth : DelegateDepth}
    (listed : .right (.delegate depth) ∈ root.terms.items) : 1 ≤ Ledger.delegateDepth root := by
  unfold Ledger.delegateDepth
  generalize found : List.findSome? _ root.terms.items = result
  cases result with
  | none => cases findSome?_eq_none_iff.mp found _ listed
  | some n =>
    obtain ⟨t, -, held⟩ := exists_of_findSome?_eq_some found
    split at held
    · rename_i maxDepth
      rw [← some.inj held]
      exact maxDepth.2.1
    · cases held

variable {grant : AuthorityGrant}

theorem delegateDepth_none
    (absent : ∀ depth, .right (.delegate depth) ∉ grant.terms.items) : Ledger.delegateDepth grant = 0 := by
  unfold Ledger.delegateDepth
  generalize found : List.findSome? _ grant.terms.items = result
  cases result with
  | none => rfl
  | some n =>
    obtain ⟨t, listed, held⟩ := exists_of_findSome?_eq_some found
    split at held
    · exact absurd listed (absent _)
    · cases held

section Grants
variable {root grant : AuthorityGrant} {rootTermInputs own : List AuthorityTermInput} {path path' : String}

theorem root_delegates (rooted : rootTerms m bindings = some rootTermInputs)
    (above : validateAuthorityGrant (rootInput m rootTermInputs) path = .ok root) : 1 ≤ Ledger.delegateDepth root := by
  obtain ⟨covered, limits, -, -, rfl⟩ := rootTerms_parts rooted
  obtain ⟨t, listed, p, valid⟩ := (validateAuthorityGrant_terms above).2 (.right (.delegate (.integer 1))) (by
    simp [rootInput])
  obtain ⟨right, checked, rfl⟩ := except_map_success valid
  obtain ⟨small, _, deep⟩ := except_bind_success checked
  obtain ⟨_, same⟩ := guard_ok.mp deep
  cases same
  exact delegateDepth_one listed

theorem root_undropped (rooted : rootTerms m bindings = some rootTermInputs)
    (above : validateAuthorityGrant (rootInput m rootTermInputs) path = .ok root) :
    ∀ p ∈ root.terms.items, Ledger.droppedViolation p = none := by
  intro t listed
  obtain ⟨i, given, -, kind⟩ := grant_kinds above listed
  rcases root_kinds rooted i given with same | same | same
  all_goals
    rw [same] at kind
    cases t <;> first | rfl | cases kind

theorem root_dimension {covered limits : List AuthorityTermInput} (covers : coverage bindings m.scope = some covered)
    (above : validateAuthorityGrant (rootInput m (covered ++ [.right (.delegate (.integer 1))] ++ limits)) path = .ok root)
    {t : AuthorityTerm} (held : t ∈ root.terms.items) (measured : t.kind = .ledgerDimension) :
    ∃ j ∈ limits, ∃ p, validateTerm j p = .ok t := by
  obtain ⟨j, there, valid, kind⟩ := grant_kinds above held
  rw [measured] at kind
  rcases mem_append.mp there with there | there
  · rcases mem_append.mp there with there | there
    · rcases coverage_kinds covers j there with set | ⟨right, rfl⟩
      · rw [set] at kind
        cases kind
      · cases kind
    · rw [mem_singleton.mp there] at kind
      cases kind
  · exact ⟨j, there, valid⟩

variable [Keccak]

theorem delegation_undelegating (known : ∀ b ∈ bindings, RepositoryBinding b)
    (delegated : delegationTermsOf m bindings a = some own)
    (below : validateAuthorityGrant (delegationInput m root a own) path' = .ok grant) :
    Ledger.delegateDepth grant = 0 := by
  obtain ⟨covered, limits, extra, covers, dims, extras, rfl⟩ := delegationTerms_parts known delegated
  refine delegateDepth_none fun depth listed => ?_
  obtain ⟨i, given, ⟨p, valid⟩, kind⟩ := grant_kinds below listed
  rcases mem_append.mp given with given | given
  · rcases mem_append.mp given with given | given
    · rcases coverage_kinds covers i given with set | ⟨right, rfl⟩
      · rw [set] at kind
        cases kind
      · obtain ⟨_, checked, same⟩ := except_map_success valid
        cases checked
        cases same
    · rw [dimensions_kinds dims i given] at kind
      cases kind
  · rw [extras i given] at kind
    cases kind

variable (known : ∀ b ∈ bindings, RepositoryBinding b) (valid : checkAgentPolicy m a = [])
  (rooted : rootTerms m bindings = some rootTermInputs)
  (above : validateAuthorityGrant (rootInput m rootTermInputs) path = .ok root)
  (delegated : delegationTermsOf m bindings a = some own)
  (below : validateAuthorityGrant (delegationInput m root a own) path' = .ok grant) (prove : Ledger.NarrowingProver)
include known valid rooted above delegated below

theorem delegation_stated :
    ∀ c ∈ grant.terms.items, Ledger.termViolations prove c (Ledger.termOf root (termKey c)) = [] := by
  obtain ⟨within, -, limited⟩ := checkAgentPolicy_valid valid
  obtain ⟨covered, limits, covers, dims, rfl⟩ := rootTerms_parts rooted
  obtain ⟨covered', limits', extra, covers', dims', extras, rfl⟩ := delegationTerms_parts known delegated
  intro c listed
  obtain ⟨i, given, ⟨q, valid⟩, kind⟩ := grant_kinds below listed
  rcases mem_append.mp given with given | given
  · rcases mem_append.mp given with given | given
    · have wide : Representable covered := by
        intro i given
        obtain ⟨t, -, p, valid⟩ := (validateAuthorityGrant_terms above).2 i (by simp [rootInput, given])
        exact ⟨t, p, valid⟩
      have narrow : Representable covered' := by
        intro i given
        obtain ⟨t, -, p, valid⟩ := (validateAuthorityGrant_terms below).2 i (by simp [delegationInput, given])
        exact ⟨t, p, valid⟩
      obtain ⟨j, there, wider⟩ := coverage_terms_within known within covers covers' wide narrow i given
      obtain ⟨t, held, p, validated⟩ := (validateAuthorityGrant_terms above).2 j (by simp [rootInput, there])
      obtain ⟨key, clean⟩ := wider.violations validated valid prove
      rw [← key, Ledger.termOf_mem held]
      exact clean
    · rw [dimensions_kinds dims' i given] at kind
      cases found : Ledger.termOf root (termKey c) with
      | none => cases c <;> first | rfl | cases kind
      | some t =>
        obtain ⟨held, key⟩ := Ledger.termOf_some found
        have measured : t.kind = .ledgerDimension := by
          cases c <;> cases kind
          cases t <;> first | cases key | rfl
        obtain ⟨j, there, p, validated⟩ := root_dimension covers above held measured
        exact dimensions_within m.limits.unrepeated limited dims dims' given there validated valid key prove
  · rw [extras i given] at kind
    cases c <;> cases kind
    cases found : Ledger.termOf root _ with
    | none => rfl
    | some t =>
      obtain ⟨j, there, -, kind'⟩ := grant_kinds above (Ledger.termOf_some found).1
      rcases root_kinds rooted j there with same | same | same
      all_goals
        rw [same] at kind'
        cases t <;> first | rfl | cases kind'

theorem delegation_registers :
    Ledger.checkDelegationSubset root grant (Ledger.delegateDepth root) prove = [] := by
  obtain ⟨-, window, -⟩ := checkAgentPolicy_valid valid
  have delegates := root_delegates rooted above
  have stated := delegation_stated known valid rooted above delegated below prove
  have kept := root_undropped rooted above
  obtain ⟨opens, closes⟩ := validateAuthorityGrant_window above rfl rfl
  obtain ⟨opens', closes'⟩ := validateAuthorityGrant_window below rfl rfl
  have timely : ¬ (grant.window.notBefore.1 < root.window.notBefore.1 ∨
      root.window.expiresAt.1 < grant.window.expiresAt.1) := by
    rw [opens, closes, opens', closes']
    omega
  have first : Ledger.depthViolations grant (Ledger.delegateDepth root) = [] := by
    rw [Ledger.depthViolations, delegation_undelegating known delegated below, if_neg (by omega), if_neg (by omega)]
    rfl
  have third : grant.terms.items.flatMap (fun c =>
      (Ledger.termViolations prove c (Ledger.termOf root (termKey c))).map fun code =>
        (⟨code, .term (termKey c)⟩ : Ledger.DelegationViolation)) = [] :=
    flatMap_eq_nil_iff.mpr fun c listed => by rw [stated c listed, map_nil]
  have last : root.terms.items.filterMap (fun p =>
      if (Ledger.termOf grant (termKey p)).isSome then none
      else (Ledger.droppedViolation p).map fun code =>
        (⟨code, .term (termKey p)⟩ : Ledger.DelegationViolation)) = [] :=
    filterMap_eq_nil_iff.mpr fun p listed => by rw [kept p listed, Option.map_none, ite_self]
  rw [Ledger.checkDelegationSubset, first, Ledger.validityViolations, if_neg timely, third, last]
  rfl

end Grants

theorem compiled_bind {α β : Type} {first : Compiled α} {next : α → Compiled β} {y : β}
    (ok : (first >>= next).run = .ok (some y)) : ∃ x, first.run = .ok (some x) ∧ (next x).run = .ok (some y) := by
  obtain ⟨x, found, rest⟩ := except_bind_success ok
  cases x with
  | none => cases rest
  | some x => exact ⟨x, found, rest⟩

theorem orThrown_run {α : Type} {result : Option α} {x : α} (ok : (orThrown result).run = .ok (some x)) :
    result = some x := Except.ok.inj ok

theorem orMalformed_run {α : Type} {text : CoreError → String} {result : CoreResult α} {x : α}
    (ok : (orMalformed text result).run = .ok (some x)) : result = .ok x := by
  cases result with
  | error _ => cases ok
  | ok y =>
    cases ok
    rfl

variable [Keccak]

theorem delegations_run {agents : List AgentPolicy} {before after : PMap Identifier AuthorityGrant}
    (ran : (agents.foldlM (compileDelegation m bindings root) before).run = .ok (some after)) {value : Identifier} (entered : after.lookup value = some grant) :
    before.lookup value = some grant ∨ ∃ a ∈ agents, ∃ own path, delegationTermsOf m bindings a = some own ∧
      validateAuthorityGrant (delegationInput m root a own) path = .ok grant := by
  induction agents generalizing before with
  | nil =>
    cases ran
    exact .inl entered
  | cons a agents ih =>
    obtain ⟨next, stepped, ran⟩ := compiled_bind ran
    rcases ih ran with stood | ⟨other, listed, found⟩
    · obtain ⟨own, delegated, stepped⟩ := compiled_bind stepped
      obtain ⟨mine, granted, stepped⟩ := compiled_bind stepped
      cases stepped
      rw [lookup_insert_eq] at stood
      split at stood
      · cases stood
        exact .inr ⟨a, mem_cons_self, own, _, orThrown_run delegated, orMalformed_run granted⟩
      · exact .inl stood
    · exact .inr ⟨other, mem_cons_of_mem _ listed, found⟩

/-- Every delegation of a compiled portfolio is valid against its root under Core's own rule. -/
theorem compiled_registers (known : ∀ b ∈ bindings, RepositoryBinding b) {c : CompiledPortfolio}
    (compiled : (compilePortfolio m bindings).run = .ok (some c)) {value : Identifier} {grant : AuthorityGrant}
    (delegated : c.delegations.lookup value = some grant) (prove : Ledger.NarrowingProver) :
    Ledger.checkDelegationSubset c.root grant (Ledger.delegateDepth c.root) prove = [] := by
  unfold compilePortfolio at compiled
  split at compiled
  · cases compiled
  · rename_i valid
    obtain ⟨policy, -, compiled⟩ := compiled_bind compiled
    obtain ⟨terms, rooted, compiled⟩ := compiled_bind compiled
    obtain ⟨root, above, compiled⟩ := compiled_bind compiled
    obtain ⟨delegations, ran, compiled⟩ := compiled_bind compiled
    cases compiled
    rcases delegations_run ran delegated with stood | ⟨a, listed, own, path, own_terms, below⟩
    · cases stood
    · have agreed := (checkPortfolioMandate_valid (not_not.mp valid)).policies a listed
      exact delegation_registers known agreed (orThrown_run rooted) (orMalformed_run above) own_terms below prove

end Compiled

section Sample

def sampleCollection : FixtureInstrument where
  instrument := ⟨"punks", .refl true⟩
  chain := ⟨"eip155:1", .refl true⟩
  asset := ⟨⟨"nft", .refl true⟩, ⟨"catalog", .refl true⟩, ⟨"punks", .refl true⟩⟩
  issuer := none
  synthetic := false
  venues := [⟨"bazaar", .refl true⟩]
  traded := by decide

def sampleGallery : FixtureModule where
  ref := Ledger.sampleModule
  adapter := ⟨"bazaar", .integer 1, "0x" ++ String.ofList (List.replicate 64 '1')⟩
  domain := ⟨"gallery", .refl true⟩
  kind := .nftBuy
  actionType := ⟨"gallery.buy", .refl true⟩
  fundingToken := ⟨"usdc", .refl true⟩
  settlementUnit := ⟨"USDC", .refl true⟩
  settlementDecimals := 6
  instruments := [sampleCollection]
  pools := []
  recipients := [⟨"vault", .refl true⟩]
  fixture := by decide
  reviewed := by decide
  routed _ := rfl

set_option maxRecDepth 20000 in
def sampleCollecting : AuthorityScope :=
  { sampleScope with
    domains := singleton _ sampleGallery.domain
    actions := singleton _ .nftBuy
    venues := singleton _ ⟨"bazaar", .refl true⟩
    representations := singleton _ sampleCollection.instrument
    recipients := singleton _ ⟨"vault", .refl true⟩ }

set_option maxRecDepth 20000 in
def sampleCollector : PortfolioMandate :=
  { sampleMandate with
    scope := sampleCollecting
    agents := ⟨[⟨sampleAgent, ⟨"one", .refl true⟩, sampleCollecting, sampleWindow,
      ⟨[⟨⟨⟨"a", .refl true⟩, 5⟩, by decide⟩], by decide, pairwise_singleton _ _⟩,
      noAmounts⟩], by decide, pairwise_singleton _ _⟩ }

def compiledSample : Except (List Reason) (Option CompiledPortfolio) :=
  (@compilePortfolio platformKeccak sampleCollector [createFixtureBinding sampleGallery]).run

theorem compiledSample_ok : ∃ c grant, compiledSample = .ok (some c) ∧
    c.delegations.lookup sampleAgent.value = some grant := by
  have present : compiledSample.toOption.any (Option.any fun c =>
      (c.delegations.lookup sampleAgent.value).isSome) = true := by
    rewrite [compiledSample, platformKeccak_straight]
    decide +kernel
  rcases compiled : compiledSample with refused | _ | c <;> rw [compiled] at present
  · cases present
  · cases present
  · obtain ⟨grant, delegated⟩ := Option.isSome_iff_exists.mp present
    exact ⟨c, grant, rfl, delegated⟩

theorem compiled_registers_sample : ∃ c grant, compiledSample = .ok (some c) ∧
    c.delegations.lookup sampleAgent.value = some grant ∧
    ∀ prove, Ledger.checkDelegationSubset c.root grant (Ledger.delegateDepth c.root) prove = [] := by
  obtain ⟨c, grant, compiled, delegated⟩ := compiledSample_ok
  have known : ∀ b ∈ [createFixtureBinding sampleGallery], @RepositoryBinding platformKeccak b := by
    intro b member
    rw [mem_singleton.mp member]
    exact @RepositoryBinding.fixture platformKeccak sampleGallery
  exact ⟨c, grant, compiled, delegated, fun prove =>
    @compiled_registers sampleCollector _ platformKeccak known c compiled _ _ delegated prove⟩

end Sample

end Mandate.Portfolio
