import Mathlib.Data.Int.ConditionallyCompleteOrder
import Mandate.Portfolio.Authority

/-! Containment of one scope in another, as the subset rule decides it: it composes, what a scope
refuses a narrower one refuses too, and an action permitted inside is permitted outside. -/
namespace Mandate.Portfolio
open Core List

section Bounds
variable {α β : Type} [Preorder β] {value : α → β} {exceeds : α → α → Bool}

/-- A bound held under another. An absent one permits nothing, so it is under every bound. -/
def BoundWithin (value : α → β) (parent child : Option α) : Prop :=
  ∀ c ∈ child, ∃ p ∈ parent, value c ≤ value p

theorem BoundWithin.refl (value : α → β) (bound : Option α) : BoundWithin value bound bound :=
  fun c held => ⟨c, held, le_rfl⟩

theorem BoundWithin.trans {outer middle inner : Option α} (wide : BoundWithin value outer middle)
    (narrow : BoundWithin value middle inner) : BoundWithin value outer inner := by
  intro c held
  obtain ⟨m, found, below⟩ := narrow c held
  obtain ⟨o, bounded, above⟩ := wide m found
  exact ⟨o, bounded, below.trans above⟩

theorem widensBound_eq_false (agree : ∀ c p, exceeds c p = false ↔ value c ≤ value p)
    {parent child : Option α} : widensBound exceeds parent child = false ↔ BoundWithin value parent child := by
  cases parent <;> cases child <;> simp [widensBound, BoundWithin, agree]

theorem BoundWithin.widens (agree : ∀ c p, exceeds c p = false ↔ value c ≤ value p)
    {parent child bound : Option α} (within : BoundWithin value parent child)
    (wide : widensBound exceeds parent bound = true) : widensBound exceeds child bound = true := by
  by_contra narrow
  have below := within.trans ((widensBound_eq_false agree).mp (Bool.not_eq_true _ ▸ narrow))
  rw [(widensBound_eq_false agree).mpr below] at wide
  exact Bool.false_ne_true wide

end Bounds

def leverageOf (r : Ratio) : ℚ := r.numerator.1 / 10 ^ r.scale.1

theorem exceeds_leverage (c p : Ratio) :
    (compareRatios c p == Ordering.gt) = false ↔ leverageOf c ≤ leverageOf p := by
  have left : (0 : ℚ) < 10 ^ c.scale.1 := by positivity
  have right : (0 : ℚ) < 10 ^ p.scale.1 := by positivity
  have scaled : leverageOf c ≤ leverageOf p ↔
      c.numerator.1 * 10 ^ p.scale.1 ≤ p.numerator.1 * 10 ^ c.scale.1 := by
    rw [leverageOf, leverageOf, div_le_div_iff₀ left right]
    exact_mod_cast Iff.rfl
  rw [scaled, compareRatios, beq_eq_false_iff_ne, ne_eq, compare_gt_iff_gt, not_lt]

theorem exceeds_slippage (c p : BasisPoints) : decide (p.1 < c.1) = false ↔ c.1 ≤ p.1 := by simp

theorem exceeds_quoteAge (c p : Uint64) : decide (p.1 < c.1) = false ↔ c.1 ≤ p.1 := by simp

/-- `child` is a subset of `parent`: the sets and bounds below, the required rights above. -/
structure Within (parent child : AuthorityScope) : Prop where
  sets : ∀ set, setKeys child set ⊆ setKeys parent set
  synthetic : parent.syntheticPolicy = .forbidden → child.syntheticPolicy = .forbidden
  rights : parent.requiredRights.members ⊆ child.requiredRights.members
  leverage : BoundWithin leverageOf parent.maxLeverage child.maxLeverage
  slippage : BoundWithin (fun bps : BasisPoints => bps.1) parent.maxSlippageBps child.maxSlippageBps
  quoteAge : BoundWithin (fun age : Uint64 => age.1) parent.maxQuoteAgeSeconds child.maxQuoteAgeSeconds

theorem Within.refl (s : AuthorityScope) : Within s s where
  sets _ := List.Subset.refl _
  synthetic forbidden := forbidden
  rights := List.Subset.refl _
  leverage := .refl _ _
  slippage := .refl _ _
  quoteAge := .refl _ _

theorem Within.trans {outer middle inner : AuthorityScope} (wide : Within outer middle)
    (narrow : Within middle inner) : Within outer inner where
  sets set := List.Subset.trans (narrow.sets set) (wide.sets set)
  synthetic forbidden := narrow.synthetic (wide.synthetic forbidden)
  rights := List.Subset.trans wide.rights narrow.rights
  leverage := wide.leverage.trans narrow.leverage
  slippage := wide.slippage.trans narrow.slippage
  quoteAge := wide.quoteAge.trans narrow.quoteAge

theorem mem_SCOPE_SETS (set : ScopeSet) : set ∈ SCOPE_SETS := by cases set <;> decide

theorem scopeMembers_keys (s : AuthorityScope) (set : ScopeSet) :
    (scopeMembers s set).map (·.1) = setKeys s set := by
  cases set <;> simp [scopeMembers, setKeys, Function.comp_def]

theorem mem_setKeys {s : AuthorityScope} {set : ScopeSet} {key : String} :
    key ∈ setKeys s set ↔ ∃ member ∈ scopeMembers s set, member.1 = key := by
  rw [← scopeMembers_keys, mem_map]

variable {parent child : AuthorityScope}

theorem checkChildScope_eq_nil : checkChildScope parent child = [] ↔ Within parent child := by
  simp only [checkChildScope, canonicalReasons_eq_nil, append_eq_nil_iff, flatMap_eq_nil_iff,
    map_eq_nil_iff, filter_eq_nil_iff, ite_eq_right_iff, imp_false, cons_ne_nil,
    Bool.not_eq_true, widensBound_eq_false exceeds_leverage, widensBound_eq_false exceeds_slippage,
    widensBound_eq_false exceeds_quoteAge]
  constructor
  · rintro ⟨⟨⟨⟨⟨sets, synthetic⟩, rights⟩, leverage⟩, slippage⟩, quoteAge⟩
    refine ⟨fun set key listed => ?_, fun forbidden => ?_, fun right required => ?_, leverage, slippage, quoteAge⟩
    · obtain ⟨member, within, rfl⟩ := mem_setKeys.mp listed
      simpa using sets set (mem_SCOPE_SETS set) member within
    · by_contra allowed
      exact synthetic ⟨forbidden, allowed⟩
    · simpa using rights right required
  · intro within
    refine ⟨⟨⟨⟨⟨fun set _ member listed => ?_, ?_⟩, fun right required => ?_⟩, within.leverage⟩,
      within.slippage⟩, within.quoteAge⟩
    · simpa using within.sets set (mem_setKeys.mpr ⟨member, listed, rfl⟩)
    · rintro ⟨forbidden, allowed⟩
      exact allowed (within.synthetic forbidden)
    · simpa using within.rights required

theorem Within.refuses (within : Within parent child) (s : AuthorityScope) :
    checkChildScope parent s ⊆ checkChildScope child s := by
  intro r
  simp only [checkChildScope, mem_canonicalReasons, mem_append, mem_flatMap, mem_map,
    mem_filter, mem_ite_nil_right, mem_singleton]
  rintro (((((⟨set, all, member, ⟨listed, absent⟩, named⟩ | ⟨⟨forbidden, allowed⟩, named⟩) |
    ⟨right, ⟨required, dropped⟩, named⟩) | ⟨wide, named⟩) | ⟨wide, named⟩) | ⟨wide, named⟩)
  · refine .inl (.inl (.inl (.inl (.inl ⟨set, all, member, ⟨listed, ?_⟩, named⟩))))
    simp only [Bool.not_eq_true', contains_eq_mem, decide_eq_false_iff_not] at absent ⊢
    exact fun inside => absent (within.sets set inside)
  · exact .inl (.inl (.inl (.inl (.inr ⟨⟨within.synthetic forbidden, allowed⟩, named⟩))))
  · exact .inl (.inl (.inl (.inr ⟨right, ⟨within.rights required, dropped⟩, named⟩)))
  · exact .inl (.inl (.inr ⟨within.leverage.widens exceeds_leverage wide, named⟩))
  · exact .inl (.inr ⟨within.slippage.widens exceeds_slippage wide, named⟩)
  · exact .inr ⟨within.quoteAge.widens exceeds_quoteAge wide, named⟩

end Mandate.Portfolio
