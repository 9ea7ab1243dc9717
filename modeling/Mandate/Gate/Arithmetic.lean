import Mandate.Gate.WireForm
import Mandate.Kernel.CashFlow

/-! The gate's arithmetic: the kernel's unbounded products and sums in pairs of words, with early
exits where the result cannot be a word. The full products are the contracts' library's. -/
set_option linter.dupNamespace false
namespace Mandate.Gate
open Core Kernel Lib.Lanes Lib.FixedPoint

structure Wide where
  high : Word
  low : Word

def Wide.value (w : Wide) : Nat := w.high.toNat * 2 ^ 256 + w.low.toNat

/-- The library the contracts take full products from; `mulDiv` reverts where it has no result. -/
class WideMath where
  mul512 (a b : Word) : Wide
  tryMul (a b : Word) : Bool × Word
  mulDiv (a b denominator : Word) : Option Word

namespace WideMath

structure Exact [WideMath] : Prop where
  mul512 : ∀ a b, (mul512 a b).value = a.toNat * b.toNat
  tryMul : ∀ a b, tryMul a b = if a.toNat * b.toNat < 2 ^ 256 then (true, a * b) else (false, 0)
  mulDiv : ∀ {a b denominator}, denominator ≠ 0 → a.toNat * b.toNat / denominator.toNat < 2 ^ 256 →
    ∃ quotient, mulDiv a b denominator = some quotient ∧ quotient.toNat = a.toNat * b.toNat / denominator.toNat

end WideMath

def mulmod (a b modulus : Word) : Word := BitVec.ofNat 256 (a.toNat * b.toNat % modulus.toNat)

namespace GateArithmetic
open WideMath

def pow10 (exponent : Nat) : Option Word :=
  if 10 ^ exponent < 2 ^ 256 then some (BitVec.ofNat 256 (10 ^ exponent)) else none

def addWide (a b : Wide) : Wide :=
  let low := a.low + b.low
  ⟨a.high + b.high + (if low < a.low then 1 else 0), low⟩

def compareWide (a b : Wide) : Ordering :=
  if a.high ≠ b.high then (if a.high < b.high then .lt else .gt)
  else if a.low < b.low then .lt else if b.low < a.low then .gt else .eq

section
variable [WideMath]

def scale (atoms : Word) (decimalDifference : BitVec 8) : Option Wide := do
  let factor ← pow10 decimalDifference.toNat
  some (mul512 atoms factor)

def compare (a : Word) (aDecimals : BitVec 8) (b : Word) (bDecimals : BitVec 8) : Option Ordering :=
  if aDecimals = bDecimals then some (if a < b then .lt else if b < a then .gt else .eq)
  else if aDecimals < bDecimals then do
    let left ← scale a (bDecimals - aDecimals)
    some (compareWide left ⟨0, b⟩)
  else do
    let right ← scale b (aDecimals - bDecimals)
    some (compareWide ⟨0, a⟩ right)

structure Bounds where
  representable : Bool
  floorAtoms : Word
  ceilAtoms : Word

def notionalBounds (quantity : Word) (quantityDecimals : BitVec 8) (price : Word)
    (priceDecimals targetDecimals : BitVec 8) : Option Bounds :=
  let sourceDecimals := quantityDecimals.toNat + priceDecimals.toNat
  if sourceDecimals ≤ targetDecimals.toNat then do
    let factor ← pow10 (targetDecimals.toNat - sourceDecimals)
    let (productOk, product) := tryMul quantity price
    if !productOk then some ⟨false, 0, 0⟩
    else
      let (scaledOk, scaled) := tryMul product factor
      if !scaledOk then some ⟨false, 0, 0⟩ else some ⟨true, scaled, scaled⟩
  else do
    let denominator ← pow10 (sourceDecimals - targetDecimals.toNat)
    -- only the high limb decides whether the quotient fits a word
    if denominator ≤ (mul512 quantity price).high then some ⟨false, 0, 0⟩
    else
      let floorAtoms ← mulDiv quantity price denominator
      if mulmod quantity price denominator = 0 then some ⟨true, floorAtoms, floorAtoms⟩
      else if floorAtoms = BitVec.allOnes 256 then some ⟨false, 0, 0⟩
      else some ⟨true, floorAtoms, floorAtoms + 1⟩

/-- Whether the sum is a word at all, and whether it is within the limit. -/
def sumWithinLimit (a : Word) (aDecimals : BitVec 8) (b : Word) (bDecimals : BitVec 8) (limit : Word)
    (limitDecimals : BitVec 8) : Option (Bool × Bool) := do
  let sumDecimals := if bDecimals < aDecimals then aDecimals else bDecimals
  let first ← scale a (sumDecimals - aDecimals)
  let second ← scale b (sumDecimals - bDecimals)
  let sum := addWide first second
  if sum.high ≠ 0 then some (false, false)
  else
    let order ← compare sum.low sumDecimals limit limitDecimals
    some (true, order != .gt)

def differenceMeetsLimit (notional : Word) (notionalDecimals : BitVec 8) (fee : Word) (feeDecimals : BitVec 8)
    (limit : Word) (limitDecimals : BitVec 8) : Option Bool := do
  let decimals := if feeDecimals < notionalDecimals then notionalDecimals else feeDecimals
  let decimals := if decimals < limitDecimals then limitDecimals else decimals
  let left ← scale notional (decimals - notionalDecimals)
  let fees ← scale fee (decimals - feeDecimals)
  let floor ← scale limit (decimals - limitDecimals)
  some (compareWide left (addWide fees floor) != .lt)

end

theorem pow10_fits (exponent : Nat) (small : exponent ≤ 76) :
    ∃ power, pow10 exponent = some power ∧ power.toNat = 10 ^ exponent := by
  have room : 10 ^ exponent < 2 ^ 256 :=
    lt_of_le_of_lt (Nat.pow_le_pow_right (by decide) small) (by decide)
  exact ⟨_, if_pos room, by rw [BitVec.toNat_ofNat, Nat.mod_eq_of_lt room]⟩

theorem compareWide_value (a b : Wide) : compareWide a b = Ord.compare a.value b.value := by
  have here := a.low.isLt
  have there := b.low.isLt
  unfold compareWide Wide.value
  simp only [ne_eq, ← BitVec.toNat_inj, BitVec.lt_def]
  split
  · split
    · exact (compare_lt_iff_lt.mpr (by omega)).symm
    · exact (compare_gt_iff_gt.mpr (by omega)).symm
  · split
    · exact (compare_lt_iff_lt.mpr (by omega)).symm
    · split
      · exact (compare_gt_iff_gt.mpr (by omega)).symm
      · exact (compare_eq_iff_eq.mpr (by omega)).symm

theorem addWide_value {a b : Wide} (room : a.value + b.value < 2 ^ 512) :
    (addWide a b).value = a.value + b.value := by
  have high := a.high.isLt
  have high' := b.high.isLt
  have low := a.low.isLt
  have low' := b.low.isLt
  unfold Wide.value at room
  unfold addWide Wide.value
  simp only [BitVec.lt_def, BitVec.toNat_add]
  by_cases carry : a.low.toNat + b.low.toNat < 2 ^ 256
  · have kept : ¬(a.low.toNat + b.low.toNat) % 2 ^ 256 < a.low.toNat := by
      rw [Nat.mod_eq_of_lt carry]
      omega
    rw [if_neg kept, Nat.mod_eq_of_lt carry]
    have zero : (0 : Word).toNat = 0 := rfl
    rw [zero]
    omega
  · have wrapped : (a.low.toNat + b.low.toNat) % 2 ^ 256 = a.low.toNat + b.low.toNat - 2 ^ 256 := by omega
    have carried : (a.low.toNat + b.low.toNat) % 2 ^ 256 < a.low.toNat := by omega
    rw [if_pos carried, wrapped]
    have one : (1 : Word).toNat = 1 := rfl
    rw [one]
    omega

private theorem compare_scaled {x y k : Nat} (positive : 0 < k) :
    Ord.compare (x * k) (y * k) = Ord.compare x y := by
  rcases Nat.lt_trichotomy x y with less | rfl | more
  · rw [compare_lt_iff_lt.mpr less, compare_lt_iff_lt]
    exact Nat.mul_lt_mul_of_pos_right less positive
  · rw [compare_eq_iff_eq.mpr rfl, compare_eq_iff_eq.mpr rfl]
  · rw [compare_gt_iff_gt.mpr more, compare_gt_iff_gt]
    exact Nat.mul_lt_mul_of_pos_right more positive

private theorem compare_words (a b : Word) :
    (if a < b then Ordering.lt else if b < a then .gt else .eq) = Ord.compare a.toNat b.toNat := by
  simp only [BitVec.lt_def]
  split
  · exact (compare_lt_iff_lt.mpr (by omega)).symm
  · split
    · exact (compare_gt_iff_gt.mpr (by omega)).symm
    · exact (compare_eq_iff_eq.mpr (by omega)).symm

variable {source target : Nat}

theorem quotient_scaled (product : Nat) (finer : target < source) :
    product * 10 ^ target / 10 ^ source = product / 10 ^ (source - target) ∧
      (product * 10 ^ target % 10 ^ source = 0 ↔ product % 10 ^ (source - target) = 0) := by
  have whole : 10 ^ source = 10 ^ (source - target) * 10 ^ target := by
    rw [← pow_add, Nat.sub_add_cancel finer.le]
  have positive : 0 < 10 ^ target := by positivity
  rw [whole, Nat.mul_div_mul_right _ _ positive, Nat.mul_mod_mul_right]
  exact ⟨rfl, by simp⟩

theorem quotient_whole (product : Nat) (coarser : source ≤ target) :
    product * 10 ^ target / 10 ^ source = product * 10 ^ (target - source) ∧
      product * 10 ^ target % 10 ^ source = 0 := by
  have whole : product * 10 ^ target = product * 10 ^ (target - source) * 10 ^ source := by
    rw [Nat.mul_assoc, ← pow_add, Nat.sub_add_cancel coarser]
  rw [whole]
  exact ⟨Nat.mul_div_cancel _ (by positivity), Nat.mul_mod_left _ _⟩

/-- The two neighbours of a quotient, where the upper one is a word. -/
structure Bounds.Rendered (bounds : Bounds) (floorAtoms ceilAtoms : Nat) : Prop where
  beyond : 2 ^ 256 ≤ ceilAtoms → bounds = ⟨false, 0, 0⟩
  within : ceilAtoms < 2 ^ 256 → bounds.representable = true ∧ bounds.floorAtoms.toNat = floorAtoms ∧
    bounds.ceilAtoms.toNat = ceilAtoms

theorem larger_toNat (m n : BitVec 8) : (if n < m then m else n).toNat = max m.toNat n.toNat := by
  simp only [BitVec.lt_def]
  split <;> omega

section Exactness
variable [WideMath] (exact : WideMath.Exact)
include exact

theorem scale_exact (atoms : Word) (difference : BitVec 8) (small : difference.toNat ≤ 76) :
    ∃ w, scale atoms difference = some w ∧ w.value = atoms.toNat * 10 ^ difference.toNat := by
  obtain ⟨power, fits, value⟩ := pow10_fits difference.toNat small
  refine ⟨mul512 atoms power, ?_, ?_⟩
  · simp only [scale, fits, Option.bind_eq_bind, Option.bind_some]
  · rw [exact.mul512, value]

omit [WideMath] exact in
theorem addWide_scaled {x y : Wide} {a b : Word} {m n : Nat} (first : x.value = a.toNat * 10 ^ m)
    (second : y.value = b.toNat * 10 ^ n) (small : m ≤ 76) (small' : n ≤ 76) :
    (addWide x y).value = a.toNat * 10 ^ m + b.toNat * 10 ^ n := by
  have bound : ∀ {c : Word} {k : Nat}, k ≤ 76 → c.toNat * 10 ^ k < 2 ^ 256 * 2 ^ 255 := by
    intro c k few
    have power : 10 ^ k < 2 ^ 255 := lt_of_le_of_lt (Nat.pow_le_pow_right (by decide) few) (by decide)
    exact Nat.mul_lt_mul'' c.isLt power
  have room := bound (c := a) small
  have room' := bound (c := b) small'
  rw [← first, ← second]
  exact addWide_value (by rw [first, second]; omega)

variable {aDecimals bDecimals : BitVec 8}

theorem compare_exact (a b : Word) (small : aDecimals.toNat ≤ MAX_DECIMALS)
    (small' : bDecimals.toNat ≤ MAX_DECIMALS) : compare a aDecimals b bDecimals =
      some (Ord.compare (a.toNat * 10 ^ bDecimals.toNat) (b.toNat * 10 ^ aDecimals.toNat)) := by
  simp only [MAX_DECIMALS] at small small'
  unfold compare
  split
  · rename_i same
    rw [same, compare_scaled (by positivity), compare_words]
  · split
    · rename_i below
      rw [BitVec.lt_def] at below
      have difference := BitVec.toNat_sub_of_le (BitVec.le_def.mpr below.le)
      obtain ⟨left, scaled, value⟩ := scale_exact exact a (bDecimals - aDecimals) (by omega)
      rw [scaled, Option.bind_eq_bind, Option.bind_some, compareWide_value, value, difference]
      have whole : a.toNat * 10 ^ bDecimals.toNat =
          a.toNat * 10 ^ (bDecimals.toNat - aDecimals.toNat) * 10 ^ aDecimals.toNat := by
        rw [Nat.mul_assoc, ← pow_add, Nat.sub_add_cancel below.le]
      rw [whole, compare_scaled (by positivity)]
      simp [Wide.value]
    · rename_i other above
      have below : bDecimals.toNat ≤ aDecimals.toNat := by
        rw [BitVec.lt_def] at above
        omega
      have difference := BitVec.toNat_sub_of_le (BitVec.le_def.mpr below)
      obtain ⟨right, scaled, value⟩ := scale_exact exact b (aDecimals - bDecimals) (by omega)
      rw [scaled, Option.bind_eq_bind, Option.bind_some, compareWide_value, value, difference]
      have whole : b.toNat * 10 ^ aDecimals.toNat =
          b.toNat * 10 ^ (aDecimals.toNat - bDecimals.toNat) * 10 ^ bDecimals.toNat := by
        rw [Nat.mul_assoc, ← pow_add, Nat.sub_add_cancel below]
      rw [whole, compare_scaled (by positivity)]
      simp [Wide.value]

theorem notionalBounds_exact (quantity price : Word) {quantityDecimals priceDecimals targetDecimals : BitVec 8}
    (small : quantityDecimals.toNat ≤ MAX_DECIMALS) (small' : priceDecimals.toNat ≤ MAX_DECIMALS)
    (target : targetDecimals.toNat ≤ MAX_DECIMALS) :
    let numerator := quantity.toNat * price.toNat * 10 ^ targetDecimals.toNat
    let denominator := 10 ^ (quantityDecimals.toNat + priceDecimals.toNat)
    ∃ bounds, notionalBounds quantity quantityDecimals price priceDecimals targetDecimals = some bounds ∧
      bounds.Rendered (numerator / denominator)
        (if numerator % denominator = 0 then numerator / denominator else numerator / denominator + 1) := by
  dsimp only
  simp only [MAX_DECIMALS] at small small' target
  unfold notionalBounds
  dsimp only
  split
  · rename_i coarser
    obtain ⟨factor, fits, value⟩ := pow10_fits
      (targetDecimals.toNat - (quantityDecimals.toNat + priceDecimals.toNat)) (by omega)
    obtain ⟨quotient, even⟩ := quotient_whole (quantity.toNat * price.toNat) coarser
    rw [fits, Option.bind_eq_bind, Option.bind_some, even, if_pos rfl, quotient, exact.tryMul]
    have grows : quantity.toNat * price.toNat ≤ quantity.toNat * price.toNat * 10 ^ (targetDecimals.toNat -
        (quantityDecimals.toNat + priceDecimals.toNat)) := Nat.le_mul_of_pos_right _ (by positivity)
    by_cases productOk : quantity.toNat * price.toNat < 2 ^ 256
    · rw [if_pos productOk]
      dsimp only
      have product : (quantity * price).toNat = quantity.toNat * price.toNat := by
        rw [BitVec.toNat_mul, Nat.mod_eq_of_lt productOk]
      rw [if_neg (by decide : ¬(!true) = true), exact.tryMul, product, value]
      by_cases scaledOk : quantity.toNat * price.toNat *
          10 ^ (targetDecimals.toNat - (quantityDecimals.toNat + priceDecimals.toNat)) < 2 ^ 256
      · rw [if_pos scaledOk]
        have scaled : (quantity * price * factor).toNat = quantity.toNat * price.toNat *
            10 ^ (targetDecimals.toNat - (quantityDecimals.toNat + priceDecimals.toNat)) := by
          rw [BitVec.toNat_mul, product, value, Nat.mod_eq_of_lt scaledOk]
        exact ⟨_, rfl, fun beyond => absurd scaledOk (not_lt.mpr beyond), fun _ => ⟨rfl, scaled, scaled⟩⟩
      · rw [if_neg scaledOk]
        exact ⟨_, rfl, fun _ => rfl, fun within => absurd within scaledOk⟩
    · rw [if_neg productOk]
      exact ⟨_, rfl, fun _ => rfl, fun within => absurd within (by omega)⟩
  · rename_i finer
    rw [not_le] at finer
    obtain ⟨denominator, fits, value⟩ := pow10_fits
      (quantityDecimals.toNat + priceDecimals.toNat - targetDecimals.toNat) (by omega)
    obtain ⟨quotient, even⟩ := quotient_scaled (quantity.toNat * price.toNat) finer
    rw [fits, Option.bind_eq_bind, Option.bind_some, quotient, ← value]
    rw [← value] at even
    have positive : 0 < denominator.toNat := by
      rw [value]
      positivity
    have nonzero : denominator ≠ 0 := by
      rintro rfl
      exact absurd positive (by decide)
    have high : (mul512 quantity price).high.toNat = quantity.toNat * price.toNat / 2 ^ 256 := by
      have product := exact.mul512 quantity price
      have low := (mul512 quantity price).low.isLt
      unfold Wide.value at product
      omega
    have exceeds : denominator ≤ (mul512 quantity price).high ↔
        2 ^ 256 ≤ quantity.toNat * price.toNat / denominator.toNat := by
      rw [BitVec.le_def, high, Nat.le_div_iff_mul_le (by decide), Nat.le_div_iff_mul_le positive, Nat.mul_comm]
    by_cases wide : denominator ≤ (mul512 quantity price).high
    · rw [if_pos wide]
      rw [exceeds] at wide
      refine ⟨_, rfl, fun _ => rfl, fun within => absurd within ?_⟩
      split <;> omega
    · rw [if_neg wide]
      rw [exceeds, not_le] at wide
      obtain ⟨floorAtoms, divided, floor⟩ := exact.mulDiv nonzero wide
      rw [divided, Option.bind_some]
      have remainder : mulmod quantity price denominator = 0 ↔
          quantity.toNat * price.toNat % denominator.toNat = 0 := by
        have less := Nat.mod_lt (quantity.toNat * price.toNat) positive
        have bound := denominator.isLt
        rw [mulmod, ← BitVec.toNat_inj, BitVec.toNat_ofNat, Nat.mod_eq_of_lt (less.trans bound)]
        rfl
      by_cases exactly : quantity.toNat * price.toNat % denominator.toNat = 0
      · rw [if_pos (remainder.mpr exactly), if_pos (even.mpr exactly)]
        exact ⟨_, rfl, fun beyond => absurd beyond (by omega), fun _ => ⟨rfl, floor, floor⟩⟩
      · rw [if_neg (fun zero => exactly (remainder.mp zero)), if_neg (fun zero => exactly (even.mp zero))]
        have last : floorAtoms = BitVec.allOnes 256 ↔ floorAtoms.toNat = 2 ^ 256 - 1 := by
          rw [← BitVec.toNat_inj, BitVec.toNat_allOnes]
        split
        · rename_i top
          rw [last, floor] at top
          exact ⟨_, rfl, fun _ => rfl, fun within => absurd within (by omega)⟩
        · rename_i room
          rw [last, floor] at room
          refine ⟨_, rfl, fun beyond => absurd beyond (by omega), fun within => ⟨rfl, floor, ?_⟩⟩
          have one : (1 : Word).toNat = 1 := rfl
          rw [BitVec.toNat_add, one, floor, Nat.mod_eq_of_lt within]

variable {limitDecimals : BitVec 8}

theorem sumWithinLimit_exact (a b limit : Word)
    (small : aDecimals.toNat ≤ MAX_DECIMALS) (small' : bDecimals.toNat ≤ MAX_DECIMALS)
    (target : limitDecimals.toNat ≤ MAX_DECIMALS) : let finer := max aDecimals.toNat bDecimals.toNat
    let sum := a.toNat * 10 ^ (finer - aDecimals.toNat) + b.toNat * 10 ^ (finer - bDecimals.toNat)
    sumWithinLimit a aDecimals b bDecimals limit limitDecimals = some (if 2 ^ 256 ≤ sum then (false, false)
        else (true, Ord.compare (sum * 10 ^ limitDecimals.toNat) (limit.toNat * 10 ^ finer) != .gt)) := by
  dsimp only
  have finest := larger_toNat aDecimals bDecimals
  simp only [MAX_DECIMALS] at small small' target
  unfold sumWithinLimit
  generalize (if bDecimals < aDecimals then aDecimals else bDecimals) = sumDecimals at finest ⊢
  rw [← finest]
  have first := BitVec.toNat_sub_of_le (BitVec.le_def.mpr (show aDecimals.toNat ≤ sumDecimals.toNat by omega))
  have second := BitVec.toNat_sub_of_le (BitVec.le_def.mpr (show bDecimals.toNat ≤ sumDecimals.toNat by omega))
  obtain ⟨x, scaled, value⟩ := scale_exact exact a (sumDecimals - aDecimals) (by omega)
  obtain ⟨y, scaled', value'⟩ := scale_exact exact b (sumDecimals - bDecimals) (by omega)
  have whole := addWide_scaled value value' (by omega) (by omega)
  rw [first, second] at whole
  dsimp only
  rw [scaled, scaled', Option.bind_eq_bind, Option.bind_some, Option.bind_some, ← whole]
  generalize addWide x y = sum
  have low := sum.low.isLt
  have beyond : 2 ^ 256 ≤ sum.value ↔ sum.high ≠ 0 := by
    have zero : (0 : Word).toNat = 0 := rfl
    rw [ne_eq, ← BitVec.toNat_inj, zero, Wide.value]
    omega
  by_cases wide : sum.high ≠ 0
  · rw [if_pos wide, if_pos (beyond.mpr wide)]
  · have same : sum.value = sum.low.toNat := by
      rw [not_not] at wide
      rw [Wide.value, wide]
      exact (congrArg (· + sum.low.toNat) (Nat.zero_mul _)).trans (Nat.zero_add _)
    rw [if_neg wide, if_neg (fun past => wide (beyond.mp past)), same,
      compare_exact exact _ _ (by simp only [MAX_DECIMALS]; omega) (by simpa [MAX_DECIMALS] using target)]
    rfl

theorem differenceMeetsLimit_exact (notional fee limit : Word)
    {notionalDecimals feeDecimals : BitVec 8} (small : notionalDecimals.toNat ≤ MAX_DECIMALS)
    (small' : feeDecimals.toNat ≤ MAX_DECIMALS) (target : limitDecimals.toNat ≤ MAX_DECIMALS) :
    let finer := max (max notionalDecimals.toNat feeDecimals.toNat) limitDecimals.toNat
    differenceMeetsLimit notional notionalDecimals fee feeDecimals limit limitDecimals =
      some (decide (fee.toNat * 10 ^ (finer - feeDecimals.toNat) + limit.toNat * 10 ^ (finer - limitDecimals.toNat) ≤
        notional.toNat * 10 ^ (finer - notionalDecimals.toNat))) := by
  dsimp only
  have coarse := larger_toNat notionalDecimals feeDecimals
  simp only [MAX_DECIMALS] at small small' target
  unfold differenceMeetsLimit
  generalize (if feeDecimals < notionalDecimals then notionalDecimals else feeDecimals) = coarser at coarse ⊢
  have finest := larger_toNat limitDecimals coarser
  dsimp only
  generalize (if coarser < limitDecimals then limitDecimals else coarser) = decimals at finest ⊢
  rw [← coarse, max_comm coarser.toNat, ← finest]
  have first := BitVec.toNat_sub_of_le
    (BitVec.le_def.mpr (show notionalDecimals.toNat ≤ decimals.toNat by omega))
  have second := BitVec.toNat_sub_of_le (BitVec.le_def.mpr (show feeDecimals.toNat ≤ decimals.toNat by omega))
  have third := BitVec.toNat_sub_of_le (BitVec.le_def.mpr (show limitDecimals.toNat ≤ decimals.toNat by omega))
  obtain ⟨left, scaled, value⟩ := scale_exact exact notional (decimals - notionalDecimals) (by omega)
  obtain ⟨fees, scaled', value'⟩ := scale_exact exact fee (decimals - feeDecimals) (by omega)
  obtain ⟨floor, scaled'', value''⟩ := scale_exact exact limit (decimals - limitDecimals) (by omega)
  have whole := addWide_scaled value' value'' (by omega) (by omega)
  rw [scaled, scaled', scaled'', Option.bind_eq_bind, Option.bind_some, Option.bind_some, Option.bind_some,
    compareWide_value, whole, value, first, second, third]
  congr 1
  rw [Bool.eq_iff_iff, bne_iff_ne, ne_eq, compare_lt_iff_lt, not_lt, decide_eq_true_eq]

/-- What the gate says where the kernel has adjacent bounds, and where it has none. -/
def SameBounds : KernelResult NotionalBounds → Option Bounds → Prop
  | .ok kernel, gate => ∃ bounds, gate = some bounds ∧ bounds.representable = true ∧
      (bounds.floorAtoms.toNat : Int) = kernel.floorAtoms ∧ (bounds.ceilAtoms.toNat : Int) = kernel.ceilAtoms
  | .error code, gate => code = .valueOutOfRange ∧ gate = some ⟨false, 0, 0⟩

/-- A sum past the word is refused by both; any other is compared with the limit. -/
def SameSum (limit : Amount) : KernelResult Amount → Option (Bool × Bool) → Prop
  | .ok sum, gate => ∃ order, compareAmounts sum limit = .ok order ∧ gate = some (true, order != .gt)
  | .error code, gate => code = .valueOutOfRange ∧ gate = some (false, false)

/-- A negative difference meets no limit; any other is compared with it. -/
def SameDifference (limit : Amount) : KernelResult Amount → Option Bool → Prop
  | .ok difference, gate => ∃ order, compareAmounts difference limit = .ok order ∧ gate = some (order != .lt)
  | .error code, gate => code = .valueOutOfRange ∧ gate = some false

omit [WideMath] exact in
theorem wire_atoms (a : ParsedAmount) : ((wireAmount a).atoms.toNat : Int) = a.1.atoms := by
  have low := a.2.2.1
  have high := a.2.2.2
  simp only [UINT256_MAX] at high
  rw [wireAmount, BitVec.toNat_ofInt]
  omega

omit [WideMath] exact in
theorem wire_decimals (a : ParsedAmount) : (wireAmount a).decimals.toNat = a.1.decimals := by
  have small := a.2.1
  simp only [MAX_DECIMALS] at small
  rw [wireAmount, BitVec.toNat_ofNat]
  omega

end Exactness

section Agreement
variable [WideMath] (exact : WideMath.Exact)

omit [WideMath] in
theorem compare_cast (x y : Nat) : Ord.compare (x : Int) (y : Int) = Ord.compare x y := by
  rcases Nat.lt_trichotomy x y with less | rfl | more
  · rw [compare_lt_iff_lt.mpr less, compare_lt_iff_lt]
    exact_mod_cast less
  · rw [compare_eq_iff_eq.mpr rfl, compare_eq_iff_eq.mpr rfl]
  · rw [compare_gt_iff_gt.mpr more, compare_gt_iff_gt]
    exact_mod_cast more

include exact

variable {a b : ParsedAmount}

theorem compare_agrees (same : a.1.unit = b.1.unit) : ∃ order,
    compareAmounts a.1 b.1 = .ok order ∧ compare (wireAmount a).atoms (wireAmount a).decimals
      (wireAmount b).atoms (wireAmount b).decimals = some order := by
  refine ⟨_, if_neg (not_not.mpr same), ?_⟩
  rw [compare_exact exact _ _ (wire_decimals a ▸ a.2.1) (wire_decimals b ▸ b.2.1), ← compare_cast,
    wire_decimals, wire_decimals]
  push_cast
  rw [wire_atoms, wire_atoms]

theorem notionalBounds_agrees {quantity target : ParsedAmount} {price : Kernel.Price}
    (measured : price.denominatorUnit = quantity.1.unit) (same : price.numeratorUnit = target.1.unit) :
    SameBounds (Kernel.notionalBounds quantity.1 price target.1.unit target.1.decimals)
      (notionalBounds (wireAmount quantity).atoms (wireAmount quantity).decimals (wirePrice price).atoms
        (wirePrice price).decimals (wireAmount target).decimals) := by
  have priceAtoms : ((wirePrice price).atoms.toNat : Int) = price.atoms.1 :=
    wire_atoms ⟨⟨quantity.1.unit, price.decimals.1, price.atoms.1⟩, price.decimals.2, price.atoms.2⟩
  have priceDecimals : (wirePrice price).decimals.toNat = price.decimals.1 :=
    wire_decimals ⟨⟨quantity.1.unit, price.decimals.1, price.atoms.1⟩, price.decimals.2, price.atoms.2⟩
  obtain ⟨bounds, found, beyond, within⟩ := notionalBounds_exact exact (wireAmount quantity).atoms
    (wirePrice price).atoms (wire_decimals quantity ▸ quantity.2.1) (priceDecimals ▸ price.decimals.2)
    (wire_decimals target ▸ target.2.1)
  rw [wire_decimals, priceDecimals, wire_decimals] at beyond within
  generalize numerator : (wireAmount quantity).atoms.toNat * (wirePrice price).atoms.toNat *
    10 ^ target.1.decimals = n at beyond within
  generalize denominator : 10 ^ (quantity.1.decimals + price.decimals.1) = d at beyond within
  have top : quantity.1.atoms * price.atoms.1 * 10 ^ target.1.decimals = (n : Int) := by
    rw [← numerator, ← wire_atoms, ← priceAtoms]
    push_cast
    rfl
  have bottom : (10 : Int) ^ (quantity.1.decimals + price.decimals.1) = (d : Int) := by
    rw [← denominator]
    push_cast
    rfl
  have ceiling : (if (n : Int) % d = 0 then (n : Int) / d else (n : Int) / d + 1) =
      ((if n % d = 0 then n / d else n / d + 1 : Nat) : Int) := by
    have even : (n : Int) % d = 0 ↔ n % d = 0 := by norm_cast
    by_cases zero : n % d = 0
    · rw [if_pos zero, if_pos (even.mpr zero)]
      norm_cast
    · rw [if_neg zero, if_neg fun same => zero (even.mp same)]
      norm_cast
  rw [found]
  simp only [Kernel.notionalBounds, measured, same, ne_eq, not_true_eq_false, if_false,
    not_lt.mpr target.2.1, top, bottom, ceiling, UINT256_MAX]
  generalize (if n % d = 0 then n / d else n / d + 1) = ceil at beyond within ⊢
  by_cases past : 2 ^ 256 ≤ ceil
  · rw [if_pos (by omega)]
    exact ⟨rfl, congrArg some (beyond past)⟩
  · rw [if_neg (by omega)]
    obtain ⟨representable, floor, upper⟩ := within (not_le.mp past)
    exact ⟨bounds, rfl, representable, by rw [floor]; norm_cast, by rw [upper]⟩

variable {limit : ParsedAmount}

theorem sumWithinLimit_agrees (same : a.1.unit = b.1.unit) (measured : a.1.unit = limit.1.unit) :
    SameSum limit.1 (addAmounts a.1 b.1) (sumWithinLimit (wireAmount a).atoms (wireAmount a).decimals
      (wireAmount b).atoms (wireAmount b).decimals (wireAmount limit).atoms (wireAmount limit).decimals) := by
  rw [sumWithinLimit_exact exact _ _ _ (wire_decimals a ▸ a.2.1) (wire_decimals b ▸ b.2.1)
    (wire_decimals limit ▸ limit.2.1), wire_decimals, wire_decimals, wire_decimals]
  simp only [addAmounts, same, ne_eq, not_true_eq_false, if_false, UINT256_MAX]
  generalize whole : (wireAmount a).atoms.toNat * 10 ^ (max a.1.decimals b.1.decimals - a.1.decimals) +
    (wireAmount b).atoms.toNat * 10 ^ (max a.1.decimals b.1.decimals - b.1.decimals) = sum
  have atoms : a.1.atoms * 10 ^ (max a.1.decimals b.1.decimals - a.1.decimals) +
      b.1.atoms * 10 ^ (max a.1.decimals b.1.decimals - b.1.decimals) = (sum : Int) := by
    rw [← whole, ← wire_atoms a, ← wire_atoms b]
    push_cast
    rfl
  rw [atoms]
  by_cases past : 2 ^ 256 ≤ sum
  · rw [if_pos (by omega), if_pos past]
    exact ⟨rfl, rfl⟩
  · rw [if_neg (by omega), if_neg past]
    refine ⟨_, if_neg (not_not.mpr (same.symm.trans measured)), ?_⟩
    rw [← compare_cast]
    push_cast
    rw [wire_atoms]

theorem differenceMeetsLimit_agrees {notional fee : ParsedAmount} (same : notional.1.unit = fee.1.unit)
    (measured : notional.1.unit = limit.1.unit) :
    SameDifference limit.1 (subtractAmounts notional.1 fee.1) (differenceMeetsLimit
      (wireAmount notional).atoms (wireAmount notional).decimals (wireAmount fee).atoms (wireAmount fee).decimals
      (wireAmount limit).atoms (wireAmount limit).decimals) := by
  rw [differenceMeetsLimit_exact exact _ _ _ (wire_decimals notional ▸ notional.2.1)
    (wire_decimals fee ▸ fee.2.1) (wire_decimals limit ▸ limit.2.1), wire_decimals, wire_decimals, wire_decimals]
  generalize finest : max (max notional.1.decimals fee.1.decimals) limit.1.decimals = finer
  have met : (wireAmount fee).atoms.toNat * 10 ^ (finer - fee.1.decimals) +
      (wireAmount limit).atoms.toNat * 10 ^ (finer - limit.1.decimals) ≤
        (wireAmount notional).atoms.toNat * 10 ^ (finer - notional.1.decimals) ↔
      fee.1.value + limit.1.value ≤ notional.1.value := by
    have value : ∀ {x : ParsedAmount}, x.1.decimals ≤ finer →
        x.1.value = worth ((wireAmount x).atoms.toNat * 10 ^ (finer - x.1.decimals)) finer := by
      intro x coarser
      rw [wire_atoms, worth_lift coarser, Amount.value]
    rw [value (by omega), value (x := limit) (by omega), value (x := notional) (by omega), ← worth_add, worth_le_iff]
    constructor
    · intro le
      exact mul_le_mul_of_nonneg_right (by exact_mod_cast le) (by positivity)
    · intro le
      exact_mod_cast le_of_mul_le_mul_right le (by positivity : (0 : Int) < 10 ^ finer)
  have sign : 0 ≤ limit.1.value := by
    have low : (0 : ℚ) ≤ limit.1.atoms := by exact_mod_cast limit.2.2.1
    unfold Amount.value worth
    positivity
  cases subtracted : subtractAmounts notional.1 fee.1 with
  | ok difference =>
    obtain ⟨_, value⟩ := subtractAmounts_ok subtracted
    have unit : difference.unit = limit.1.unit := by
      simp only [subtractAmounts, refuse_ok, Except.ok.injEq] at subtracted
      obtain ⟨_, _, rfl⟩ := subtracted
      exact measured
    refine ⟨_, compareAmounts_measured unit, ?_⟩
    congr 1
    rw [Bool.eq_iff_iff, decide_eq_true_eq, met, bne_iff_ne, ne_eq, compare_lt_iff_lt, not_lt, value]
    constructor <;> intro le <;> linarith
  | error code =>
    simp only [subtractAmounts, same, ne_eq, not_true_eq_false, if_false] at subtracted
    split at subtracted
    · rename_i negative
      refine ⟨(Except.error.inj subtracted).symm, congrArg some (decide_eq_false ?_)⟩
      rw [met, not_le]
      have below : notional.1.value < fee.1.value := by
        rw [Amount.value, Amount.value, ← worth_lift (le_max_left notional.1.decimals fee.1.decimals),
          ← worth_lift (le_max_right notional.1.decimals fee.1.decimals) fee.1.atoms, worth_lt_iff]
        exact mul_lt_mul_of_pos_right (by omega) (by positivity)
      linarith
    · cases subtracted

/-- The gate's functions on the wire forms of kernel amounts of one unit answer as the kernel's
unbounded ones do, and their pairs of words hold every product and sum whole. -/
theorem arithmetic_agrees :
    (∀ a b : ParsedAmount, a.1.unit = b.1.unit → ∃ order, compareAmounts a.1 b.1 = .ok order ∧
      compare (wireAmount a).atoms (wireAmount a).decimals (wireAmount b).atoms (wireAmount b).decimals =
        some order) ∧
    (∀ (quantity target : ParsedAmount) (price : Kernel.Price), price.denominatorUnit = quantity.1.unit →
      price.numeratorUnit = target.1.unit →
      SameBounds (Kernel.notionalBounds quantity.1 price target.1.unit target.1.decimals)
        (notionalBounds (wireAmount quantity).atoms (wireAmount quantity).decimals (wirePrice price).atoms
          (wirePrice price).decimals (wireAmount target).decimals)) ∧
    (∀ a b limit : ParsedAmount, a.1.unit = b.1.unit → a.1.unit = limit.1.unit →
      SameSum limit.1 (addAmounts a.1 b.1) (sumWithinLimit (wireAmount a).atoms (wireAmount a).decimals
        (wireAmount b).atoms (wireAmount b).decimals (wireAmount limit).atoms (wireAmount limit).decimals)) ∧
    (∀ notional fee limit : ParsedAmount, notional.1.unit = fee.1.unit → notional.1.unit = limit.1.unit →
      SameDifference limit.1 (subtractAmounts notional.1 fee.1) (differenceMeetsLimit
        (wireAmount notional).atoms (wireAmount notional).decimals (wireAmount fee).atoms
        (wireAmount fee).decimals (wireAmount limit).atoms (wireAmount limit).decimals)) ∧
    ∀ (a b : Word) (m n : BitVec 8), m.toNat ≤ MAX_DECIMALS → n.toNat ≤ MAX_DECIMALS → ∃ x y,
      scale a m = some x ∧ scale b n = some y ∧ x.value = a.toNat * 10 ^ m.toNat ∧
        y.value = b.toNat * 10 ^ n.toNat ∧ (addWide x y).value = x.value + y.value := by
  refine ⟨fun _ _ same => compare_agrees exact same, fun _ _ _ measured same =>
    notionalBounds_agrees exact measured same, fun _ _ _ same measured => sumWithinLimit_agrees exact same measured,
    fun _ _ _ same measured => differenceMeetsLimit_agrees exact same measured, fun a b m n small small' => ?_⟩
  simp only [MAX_DECIMALS] at small small'
  obtain ⟨x, scaled, value⟩ := scale_exact exact a m (by omega)
  obtain ⟨y, scaled', value'⟩ := scale_exact exact b n (by omega)
  refine ⟨x, y, scaled, scaled', value, value', ?_⟩
  rw [addWide_scaled value value' (by omega) (by omega), value, value']

end Agreement

section Sample

@[reducible] def computedMath : WideMath where
  mul512 a b := ⟨BitVec.ofNat 256 (a.toNat * b.toNat / 2 ^ 256), BitVec.ofNat 256 (a.toNat * b.toNat)⟩
  tryMul a b := if a.toNat * b.toNat < 2 ^ 256 then (true, a * b) else (false, 0)
  mulDiv a b denominator :=
    if denominator = 0 ∨ 2 ^ 256 ≤ a.toNat * b.toNat / denominator.toNat then none
    else some (BitVec.ofNat 256 (a.toNat * b.toNat / denominator.toNat))

attribute [local instance] computedMath

theorem computedMath_exact : WideMath.Exact where
  mul512 a b := by
    have product : a.toNat * b.toNat < 2 ^ 256 * 2 ^ 256 := Nat.mul_lt_mul'' a.isLt b.isLt
    have high : a.toNat * b.toNat / 2 ^ 256 < 2 ^ 256 := Nat.div_lt_of_lt_mul product
    change (BitVec.ofNat 256 (a.toNat * b.toNat / 2 ^ 256)).toNat * 2 ^ 256 +
      (BitVec.ofNat 256 (a.toNat * b.toNat)).toNat = _
    rw [BitVec.toNat_ofNat, BitVec.toNat_ofNat, Nat.mod_eq_of_lt high]
    omega
  tryMul a b := rfl
  mulDiv {a b denominator} nonzero fits := by
    refine ⟨_, if_neg ?_, ?_⟩
    · rw [not_or]
      exact ⟨nonzero, not_le.mpr fits⟩
    · rw [BitVec.toNat_ofNat, Nat.mod_eq_of_lt fits]

def sampleLarge (decimals : Decimals) : ParsedAmount :=
  ⟨⟨⟨"USD", by decide⟩, decimals.1, 2 ^ 255⟩, decimals.2,
    (by decide : (0 : Int) ≤ 2 ^ 255 ∧ (2 : Int) ^ 255 ≤ UINT256_MAX)⟩

/-- Half a word of atoms, at no decimals and at the most there are: their scaled comparison takes two words. -/
theorem arithmetic_agrees_sample : ∃ order,
    compareAmounts (sampleLarge ⟨0, by decide⟩).1 (sampleLarge ⟨38, by decide⟩).1 = .ok order ∧
    compare (wireAmount (sampleLarge ⟨0, by decide⟩)).atoms (wireAmount (sampleLarge ⟨0, by decide⟩)).decimals
      (wireAmount (sampleLarge ⟨38, by decide⟩)).atoms (wireAmount (sampleLarge ⟨38, by decide⟩)).decimals =
        some order :=
  (arithmetic_agrees computedMath_exact).1 (sampleLarge ⟨0, by decide⟩) (sampleLarge ⟨38, by decide⟩) rfl

end Sample

end GateArithmetic

end Mandate.Gate
