import Mandate.Portfolio.Registration

/-! What a scope permits, under containment: permission inside is permission outside, tightening
only adds refusals, and an action a binding resolved always has a scope of its own. -/
set_option linter.dupNamespace false
namespace Mandate.Portfolio
open Core List

section Permits
variable {scope parent child : AuthorityScope} {a : ResolvedAction} {now : Int} {reasons : List Reason}

theorem permits_some : permits scope a now = some reasons ↔ ∃ action, actionScope a now = some action ∧
    canonicalReasons (
      (if a.quoteObservedAt.any fun observedAt => now < observedAt then [quoteRefusal scope] else []) ++
      ((checkChildScope scope action).map fun r =>
        if r.code = .childWidensQuoteAge then quoteRefusal scope else reason (ACTION_CODE r.code) r.subject) ++
      ((a.route.filter fun hop => !(scope.venues.members.contains hop)).map
        fun hop => reason .routeNotAllowed ("route:" ++ hop.1))) = reasons := by
  simp only [permits, Option.bind_eq_bind, Option.bind_eq_some_iff, Option.some.injEq]

/-- The quote is from the future, or older than the scope admits of its action. -/
def QuoteRefused (scope : AuthorityScope) (a : ResolvedAction) (now : Int) (action : AuthorityScope) : Prop :=
  (∃ observedAt ∈ a.quoteObservedAt, now < observedAt) ∨
    ∃ s ∈ checkChildScope scope action, s.code = .childWidensQuoteAge

theorem mem_permits (refused : permits scope a now = some reasons) : ∃ action, actionScope a now = some action ∧
    ∀ r, r ∈ reasons ↔ (QuoteRefused scope a now action ∧ r = quoteRefusal scope) ∨
      (∃ s ∈ checkChildScope scope action, s.code ≠ .childWidensQuoteAge ∧ r = reason (ACTION_CODE s.code) s.subject) ∨
      ∃ hop ∈ a.route, hop ∉ scope.venues.members ∧ r = reason .routeNotAllowed ("route:" ++ hop.1) := by
  obtain ⟨action, own, rfl⟩ := permits_some.mp refused
  refine ⟨action, own, fun r => ?_⟩
  have future : a.quoteObservedAt.any (fun observedAt => decide (now < observedAt)) = true ↔
      ∃ observedAt ∈ a.quoteObservedAt, now < observedAt := by
    cases a.quoteObservedAt <;> simp
  simp only [mem_canonicalReasons, mem_append, mem_ite_nil_right, mem_singleton, mem_map,
    mem_filter, Bool.not_eq_true', contains_eq_mem, decide_eq_false_iff_not, future]
  constructor
  · rintro ((⟨observed, same⟩ | ⟨s, listed, same⟩) | ⟨hop, ⟨taken, closed⟩, same⟩)
    · exact .inl ⟨.inl observed, same⟩
    · split at same
      · rename_i old
        exact .inl ⟨.inr ⟨s, listed, old⟩, same.symm⟩
      · rename_i other
        exact .inr (.inl ⟨s, listed, other, same.symm⟩)
    · exact .inr (.inr ⟨hop, taken, closed, same.symm⟩)
  · rintro (⟨observed | ⟨s, listed, old⟩, same⟩ | ⟨s, listed, other, same⟩ | ⟨hop, taken, closed, same⟩)
    · exact .inl (.inl ⟨observed, same⟩)
    · exact .inl (.inr ⟨s, listed, by rw [if_pos old, same]⟩)
    · exact .inl (.inr ⟨s, listed, by rw [if_neg other, same]⟩)
    · exact .inr ⟨hop, ⟨taken, closed⟩, same.symm⟩

theorem permits_nil : permits scope a now = some [] ↔ ∃ action, actionScope a now = some action ∧
    Within scope action ∧ (∀ observedAt ∈ a.quoteObservedAt, observedAt ≤ now) ∧
    ∀ hop ∈ a.route, hop ∈ scope.venues.members := by
  rw [permits_some]
  refine exists_congr fun action => and_congr_right fun _ => ?_
  simp only [canonicalReasons_eq_nil, append_eq_nil_iff, map_eq_nil_iff, checkChildScope_eq_nil,
    filter_eq_nil_iff, ite_eq_right_iff, cons_ne_nil, imp_false, Bool.not_eq_true, Bool.not_eq_false',
    contains_iff_mem]
  constructor
  · rintro ⟨⟨quoted, within⟩, routed⟩
    refine ⟨within, fun observedAt held => ?_, routed⟩
    rw [Option.mem_def.mp held] at quoted
    simpa using quoted
  · rintro ⟨within, quoted, routed⟩
    refine ⟨⟨?_, within⟩, routed⟩
    cases held : a.quoteObservedAt with
    | none => rfl
    | some observedAt => simpa using quoted observedAt held

theorem Within.permits (within : Within parent child) (permitted : Portfolio.permits child a now = some []) :
    Portfolio.permits parent a now = some [] := by
  obtain ⟨action, own, inside, quoted, routed⟩ := permits_nil.mp permitted
  exact permits_nil.mpr ⟨action, own, within.trans inside, quoted,
    fun hop taken => identifiers_subset (within.sets .venues) (routed hop taken)⟩

theorem Within.quoteRefusal (within : Within parent child) : quoteRefusal parent = quoteRefusal child ∨
    quoteRefusal parent = reason .quoteStale "quote" ∧ child.maxQuoteAgeSeconds = none := by
  unfold Portfolio.quoteRefusal
  cases bound : child.maxQuoteAgeSeconds with
  | none =>
    by_cases unbounded : parent.maxQuoteAgeSeconds = none
    · exact .inl (by rw [if_pos unbounded, if_pos rfl])
    · exact .inr ⟨by rw [if_neg unbounded], rfl⟩
  | some age =>
    obtain ⟨wide, held, -⟩ := within.quoteAge age bound
    rw [Option.mem_def.mp held]
    exact .inl rfl

theorem Within.permits_refuses (within : Within parent child) {before after : List Reason}
    (wide : Portfolio.permits parent a now = some before) (narrow : Portfolio.permits child a now = some after) :
    ∀ r ∈ before, r ∈ after ∨ r = reason .quoteStale "quote" ∧ child.maxQuoteAgeSeconds = none ∧
      reason .quoteNotAllowed "quote" ∈ after := by
  obtain ⟨action, own, above⟩ := mem_permits wide
  obtain ⟨action', own', below⟩ := mem_permits narrow
  obtain rfl := Option.some.inj (own.symm.trans own')
  intro r refused
  rcases (above r).mp refused with ⟨quoted, rfl⟩ | ⟨s, listed, other, rfl⟩ | ⟨hop, taken, closed, rfl⟩
  · have still : Portfolio.quoteRefusal child ∈ after := by
      refine (below _).mpr (.inl ⟨?_, rfl⟩)
      rcases quoted with future | ⟨s, listed, old⟩
      · exact .inl future
      · exact .inr ⟨s, within.refuses action listed, old⟩
    rcases within.quoteRefusal with same | ⟨stale, unbounded⟩
    · exact .inl (same ▸ still)
    · rw [Portfolio.quoteRefusal, if_pos unbounded] at still
      exact .inr ⟨stale, unbounded, still⟩
  · exact .inl ((below _).mpr (.inr (.inl ⟨s, within.refuses action listed, other, rfl⟩)))
  · refine .inl ((below _).mpr (.inr (.inr ⟨hop, taken, fun venue => closed ?_, rfl⟩)))
    exact identifiers_subset (within.sets .venues) venue

end Permits

/-- One tightening of a scope: members removed, a bound lowered or dropped, synthetics forbidden, a right added. -/
inductive Tightens (s : AuthorityScope) : AuthorityScope → Prop
  | domains {kept : IdentifierSet} (fewer : kept.members ⊆ s.domains.members) : Tightens s { s with domains := kept }
  | actions {kept : ActionSet} (fewer : kept.members ⊆ s.actions.members) : Tightens s { s with actions := kept }
  | chains {kept : IdentifierSet} (fewer : kept.members ⊆ s.chains.members) : Tightens s { s with chains := kept }
  | venues {kept : IdentifierSet} (fewer : kept.members ⊆ s.venues.members) : Tightens s { s with venues := kept }
  | assets {kept : AssetSet} (fewer : kept.members ⊆ s.assets.members) : Tightens s { s with assets := kept }
  | representations {kept : IdentifierSet} (fewer : kept.members ⊆ s.representations.members) :
      Tightens s { s with representations := kept }
  | issuers {kept : IdentifierSet} (fewer : kept.members ⊆ s.issuers.members) : Tightens s { s with issuers := kept }
  | recipients {kept : IdentifierSet} (fewer : kept.members ⊆ s.recipients.members) :
      Tightens s { s with recipients := kept }
  | synthetic : Tightens s { s with syntheticPolicy := .forbidden }
  | rights {required : RightSet} (more : s.requiredRights.members ⊆ required.members) :
      Tightens s { s with requiredRights := required }
  | leverage {bound : Option Ratio} (lower : BoundWithin leverageOf s.maxLeverage bound) :
      Tightens s { s with maxLeverage := bound }
  | slippage {bound : Option BasisPoints} (lower : BoundWithin (fun bps : BasisPoints => bps.1) s.maxSlippageBps bound) :
      Tightens s { s with maxSlippageBps := bound }
  | quoteAge {bound : Option Uint64} (lower : BoundWithin (fun age : Uint64 => age.1) s.maxQuoteAgeSeconds bound) :
      Tightens s { s with maxQuoteAgeSeconds := bound }

variable {s t : AuthorityScope}

theorem Tightens.within (tightens : Tightens s t) : Within s t := by
  have same := Within.refl s
  cases tightens with
  | synthetic => exact { same with synthetic := fun _ => rfl }
  | rights more => exact { same with rights := more }
  | leverage lower => exact { same with leverage := lower }
  | slippage lower => exact { same with slippage := lower }
  | quoteAge lower => exact { same with quoteAge := lower }
  | _ fewer =>
    refine { same with sets := fun set => ?_ }
    cases set <;> first | exact map_subset _ fewer | exact List.Subset.refl _

theorem tightened_within (tightened : Relation.ReflTransGen Tightens s t) : Within s t := by
  induction tightened with
  | refl => exact .refl s
  | tail _ step ih => exact ih.trans step.within

section Resolved
variable {a : ResolvedAction} {now : Int}

theorem right_encoding_injective : Function.Injective (encodeWith (writeCode RIGHT_CODE)) := by
  intro a b same
  revert same
  cases a <;> cases b <;> decide

theorem actionScope_isSome : (actionScope a now).isSome = true ↔
    ∀ observedAt ∈ a.quoteObservedAt, now - observedAt ≤ UINT64_MAX := by
  have apart : (a.rights.dedup.map (encodeWith (writeCode RIGHT_CODE))).Nodup :=
    (nodup_dedup a.rights).map right_encoding_injective
  obtain ⟨required, canonical, -⟩ := canonicalSet_nodup apart (rights_bounded a.rights) "action.requiredRights"
  have aged : (actionScope a now).isSome = true ↔
      ∀ age ∈ a.quoteObservedAt.bind (fun observedAt => quoteAge observedAt now), 0 ≤ age ∧ age ≤ UINT64_MAX := by
    unfold actionScope singletonScope
    cases a.quoteObservedAt.bind fun observedAt => quoteAge observedAt now with
    | none => simp [canonical]
    | some age =>
      by_cases inside : 0 ≤ age ∧ age ≤ UINT64_MAX
      · simp [inside, canonical]
      · simp [inside]
  rw [aged]
  cases a.quoteObservedAt with
  | none => simp
  | some observedAt =>
    have positive : (0 : Int) ≤ UINT64_MAX := by decide
    by_cases future : now < observedAt
    · simp only [Option.bind_some, quoteAge, if_pos future, Option.mem_def, reduceCtorEq, false_implies, implies_true,
        Option.some.injEq, forall_eq', true_iff]
      omega
    · simp only [Option.bind_some, quoteAge, if_neg future, Option.mem_def, Option.some.injEq, forall_eq']
      omega

theorem permits_isSome {scope : AuthorityScope} : (permits scope a now).isSome = (actionScope a now).isSome := by
  unfold permits
  cases actionScope a now <;> rfl

variable {candidate : ActionCandidate} {ctx : ResolveContext} {record : Option RepresentationDecisionRecord}

theorem fixture_quoted {c : FixtureModule} (resolved : fixtureResolve c candidate ctx = .resolved a record) :
    ∀ observedAt ∈ a.quoteObservedAt, INT64_MIN ≤ observedAt ∧ observedAt ≤ INT64_MAX := by
  unfold fixtureResolve at resolved
  dsimp only at resolved
  split at resolved
  · cases resolved
  · split at resolved
    · cases resolved
    · cases resolved
    · split at resolved
      · cases resolved
      · split at resolved
        · cases resolved
        · split at resolved
          · cases resolved
          · cases resolved
            intro observedAt held
            obtain ⟨time, -, rfl⟩ := Option.map_eq_some_iff.mp held
            exact time.2

theorem perp_quoted {config : PerpsConfig} (resolved : perpResolve config candidate ctx = .resolved a record) :
    ∀ observedAt ∈ a.quoteObservedAt, INT64_MIN ≤ observedAt ∧ observedAt ≤ INT64_MAX := by
  unfold perpResolve at resolved
  dsimp only at resolved
  split at resolved
  · split at resolved
    · cases resolved
    · split at resolved
      · cases resolved
      · split at resolved
        · cases resolved
        · cases resolved
          intro observedAt held
          cases held
  · cases resolved

theorem refusedFor_refuses {reasons : List Reason} {shown : Option RepresentationDecisionRecord}
    {fallback : Reason} : refusedFor reasons record fallback ≠ .resolved a shown := by
  unfold refusedFor
  split
  · exact fun same => by cases same
  · exact fun same => by cases same

variable [Keccak]

theorem stock_unquoted {config : StockConfig} (resolved : stockResolve config candidate ctx = .resolved a record) :
    a.quoteObservedAt = none := by
  unfold stockResolve at resolved
  split at resolved
  · split at resolved
    · exact absurd resolved refusedFor_refuses
    · unfold stockEstablished at resolved
      dsimp only at resolved
      split at resolved
      · split at resolved
        · split at resolved
          · exact absurd resolved refusedFor_refuses
          · split at resolved
            all_goals
              split at resolved
              · exact absurd resolved refusedFor_refuses
              · split at resolved
                · cases resolved
                · cases resolved
                  rfl
        · cases resolved
      · cases resolved
  · cases resolved

theorem resolved_quoted {b : Binding} (known : RepositoryBinding b) (resolved : b.resolve candidate ctx = .resolved a record) :
    ∀ observedAt ∈ a.quoteObservedAt, INT64_MIN ≤ observedAt ∧ observedAt ≤ INT64_MAX := by
  cases known with
  | fixture c => exact fixture_quoted resolved
  | perps config => exact perp_quoted resolved
  | stock config =>
    intro observedAt held
    rw [stock_unquoted resolved] at held
    cases held

end Resolved

/-- Containment is an order, permission follows it outward and refusals inward, and a resolved action
has a scope of its own at every time a signed 64-bit clock can show. -/
theorem subset_sound [Keccak] :
    (∀ parent child a now, checkChildScope parent child = [] → permits child a now = some [] →
      permits parent a now = some []) ∧ (∀ s, checkChildScope s s = []) ∧
    (∀ outer middle inner, checkChildScope outer middle = [] → checkChildScope middle inner = [] →
      checkChildScope outer inner = []) ∧
    (∀ s t, Relation.ReflTransGen Tightens s t → ∀ a now before after, permits s a now = some before →
      permits t a now = some after → ∀ r ∈ before, r ∈ after ∨ r = reason .quoteStale "quote" ∧
        t.maxQuoteAgeSeconds = none ∧ reason .quoteNotAllowed "quote" ∈ after) ∧
    ∀ b, RepositoryBinding b → ∀ candidate ctx a record, b.resolve candidate ctx = .resolved a record →
      ∀ scope now, ((permits scope a now).isSome = true ↔
          ∀ observedAt ∈ a.quoteObservedAt, now - observedAt ≤ UINT64_MAX) ∧
        (now ≤ INT64_MAX → (permits scope a now).isSome = true) := by
  refine ⟨?_, ?_, ?_, ?_, ?_⟩
  · intro parent child a now contained permitted
    exact (checkChildScope_eq_nil.mp contained).permits permitted
  · intro s
    exact checkChildScope_eq_nil.mpr (.refl s)
  · intro outer middle inner wide narrow
    exact checkChildScope_eq_nil.mpr ((checkChildScope_eq_nil.mp wide).trans (checkChildScope_eq_nil.mp narrow))
  · intro s t tightened a now before after wide narrow
    exact (tightened_within tightened).permits_refuses wide narrow
  · intro b known candidate ctx a record resolved scope now
    rw [permits_isSome, actionScope_isSome]
    refine ⟨Iff.rfl, fun timely observedAt held => ?_⟩
    have early := (resolved_quoted known resolved observedAt held).1
    simp only [INT64_MIN, INT64_MAX, UINT64_MAX] at *
    omega

section Sample

def sampleVaultProduct : FixtureInstrument :=
  { sampleCollection with instrument := ⟨"vault", .refl true⟩ }

def sampleVault : FixtureModule :=
  { sampleGallery with
    kind := .yieldDeposit
    instruments := [sampleVaultProduct]
    fixture := by decide
    reviewed := by decide
    routed := fun _ => rfl }

def sampleDeposit : ActionCandidate :=
  .yieldDeposit ⟨"vault", .refl true⟩ ⟨5, by decide⟩ ⟨100, by decide⟩ ⟨0, seconds_zero⟩ ⟨"vault", .refl true⟩
    ⟨none, none, none, none⟩

def sampleDepositAction : ResolvedAction :=
  fixtureAction sampleVault
    ⟨⟨"vault", .refl true⟩, ⟨"bazaar", .refl true⟩, [], ⟨"vault", .refl true⟩, ⟨5, by decide⟩, none, some ⟨0, seconds_zero⟩⟩
    sampleVaultProduct [] (by decide)

def sampleContext : ResolveContext :=
  ⟨sampleMandate, ⟨sampleAgent, ⟨"one", .refl true⟩, sampleScope, sampleWindow, noAmounts, sampleAmounts⟩, [], 20⟩

theorem sampleDeposit_resolves :
    (createFixtureBinding sampleVault).resolve sampleDeposit sampleContext = .resolved sampleDepositAction none := by
  rfl

def sampleDepositing : AuthorityScope :=
  { sampleScope with
    domains := singleton _ sampleVault.domain
    actions := singleton _ .yieldDeposit
    chains := singleton _ sampleVaultProduct.chain
    venues := singleton _ ⟨"bazaar", .refl true⟩
    assets := singleton _ sampleVaultProduct.asset
    representations := singleton _ sampleVaultProduct.instrument
    recipients := singleton _ ⟨"vault", .refl true⟩
    maxQuoteAgeSeconds := some ⟨10, by decide⟩ }

theorem subset_sound_sample : permits sampleDepositing sampleDepositAction 5 = some [] ∧
    (permits sampleDepositing sampleDepositAction 20).isSome = true :=
  ⟨by decide +kernel, ((@subset_sound platformKeccak).2.2.2.2 _ (@RepositoryBinding.fixture platformKeccak sampleVault) _ _ _ _
    sampleDeposit_resolves _ 20).2 (by decide +kernel)⟩

def sampleUnquoted : AuthorityScope := { sampleDepositing with maxQuoteAgeSeconds := none }

theorem sampleUnquoted_tightens : Tightens sampleDepositing sampleUnquoted :=
  .quoteAge fun bound held => by cases held

/-- Dropping the bound renames the refusal of a stale quote: the old reason is gone. -/
theorem tightening_renames_refusal : ¬ ∀ s t, Tightens s t → ∀ a now before after, permits s a now = some before →
    permits t a now = some after → before ⊆ after := by
  intro adds
  have kept := adds _ _ sampleUnquoted_tightens sampleDepositAction 20 [reason .quoteStale "quote"]
    [reason .quoteNotAllowed "quote"] (by decide +kernel) (by decide +kernel)
  revert kept
  decide +kernel

end Sample

end Mandate.Portfolio
