import Mandate.Lib.Wire
import Mathlib.Data.List.Range
import Mathlib.Tactic.IntervalCases

/-! Words of 32 byte lanes. Bitwise operations act on each lane by itself, and so do sums and
products whose lanes stay below 256; words order as their lanes do, first lane first. -/
namespace Mandate.Lib.Lanes
open Lib.Radix Lib.Wire List

abbrev Word := BitVec 256

def ofLanes (lane : Nat → UInt8) : Word := BitVec.ofNat 256 (beNat ((List.range 32).map lane))

def laneOf (word : Word) (index : Nat) : UInt8 := UInt8.ofNat (word.toNat / 256 ^ (31 - index))

theorem foldl_digits (value : Nat) (digits : List Nat) :
    digits.foldl (fun value digit => value * 256 + digit) value =
      256 ^ digits.length * value + ofDigits 256 digits := by
  induction digits generalizing value with
  | nil => simp [ofDigits]
  | cons digit digits ih =>
    have tail := ih digit
    rw [foldl_cons, ih, length_cons, Nat.pow_succ]
    have whole : ofDigits 256 (digit :: digits) = 256 ^ digits.length * digit + ofDigits 256 digits := by
      rw [← tail]
      simp [ofDigits]
    rw [whole]
    ring

theorem beNat_cons (byte : UInt8) (bytes : Bytes) :
    beNat (byte :: bytes) = 256 ^ bytes.length * byte.toNat + beNat bytes := by
  have step := foldl_digits byte.toNat (bytes.map UInt8.toNat)
  rw [length_map] at step
  rw [beNat, beNat, ← step]
  simp [ofDigits]

theorem byte_power (count : Nat) : (256 : Nat) ^ count = 2 ^ (8 * count) := by
  rw [pow_mul]
  norm_num

theorem beNat_testBit (bytes : Bytes) (i : Nat) (inside : i < 8 * bytes.length) :
    (beNat bytes).testBit i = (bytes.getD (bytes.length - 1 - i / 8) 0).toNat.testBit (i % 8) := by
  induction bytes with
  | nil => simp at inside
  | cons byte bytes ih =>
    have below : beNat bytes < 2 ^ (8 * bytes.length) := by
      have bound := beNat_lt bytes
      rwa [pow_mul]
    rw [beNat_cons, byte_power, Nat.testBit_two_pow_mul_add _ below, length_cons, Nat.add_sub_cancel]
    rw [length_cons] at inside
    split
    · rename_i low
      have index : bytes.length - i / 8 = (bytes.length - 1 - i / 8) + 1 := by omega
      rw [ih low, index, getD_cons_succ]
    · rename_i high
      have index : bytes.length - i / 8 = 0 := by omega
      have offset : i - 8 * bytes.length = i % 8 := by omega
      rw [index, offset, getD_cons_zero]

theorem ofLanes_toNat (lane : Nat → UInt8) : (ofLanes lane).toNat = beNat ((List.range 32).map lane) := by
  have bound := beNat_lt ((List.range 32).map lane)
  rw [length_map, length_range] at bound
  rw [ofLanes, BitVec.toNat_ofNat, Nat.mod_eq_of_lt]
  exact bound

theorem ofLanes_getLsbD (lane : Nat → UInt8) {i : Nat} (inside : i < 256) :
    (ofLanes lane).getLsbD i = (lane (31 - i / 8)).toNat.testBit (i % 8) := by
  have bits := beNat_testBit ((List.range 32).map lane) i (by simpa using inside)
  rw [BitVec.getLsbD, ofLanes_toNat, bits, length_map, length_range]
  have index : 31 - i / 8 < 32 := by omega
  simp [getD_eq_getElem?_getD, index]

theorem laneOf_ofLanes (lane : Nat → UInt8) {index : Nat} (inside : index < 32) :
    laneOf (ofLanes lane) index = lane index := by
  apply UInt8.toNat_inj.mp
  apply Nat.eq_of_testBit_eq
  intro j
  rw [laneOf, UInt8.toNat_ofNat', byte_power, Nat.testBit_mod_two_pow, Nat.testBit_div_two_pow]
  by_cases low : j < 8
  · have bit := @ofLanes_getLsbD lane (j + 8 * (31 - index)) (by omega)
    rw [BitVec.getLsbD] at bit
    have lanes : 31 - (j + 8 * (31 - index)) / 8 = index := by omega
    have within : (j + 8 * (31 - index)) % 8 = j := by omega
    rw [bit, lanes, within]
    simp [low]
  · have high : (lane index).toNat < 2 ^ j :=
      Nat.lt_of_lt_of_le (lane index).toNat_lt (Nat.pow_le_pow_right (by decide) (by omega : 8 ≤ j))
    rw [Nat.testBit_lt_two_pow high]
    simp [low]

theorem ofLanes_laneOf (word : Word) : ofLanes (laneOf word) = word := by
  apply BitVec.eq_of_getLsbD_eq
  intro i inside
  have lane : 31 - (31 - i / 8) = i / 8 := by omega
  rw [ofLanes_getLsbD _ inside, laneOf, byte_power, lane, UInt8.toNat_ofNat', Nat.testBit_mod_two_pow,
    Nat.testBit_div_two_pow, BitVec.getLsbD, Nat.add_comm, Nat.div_add_mod]
  simp [Nat.mod_lt i (by decide : 0 < 8)]

variable {f g : Nat → UInt8}

theorem ofLanes_congr (same : ∀ j < 32, f j = g j) : ofLanes f = ofLanes g := by
  unfold ofLanes
  congr 2
  refine map_congr_left ?_
  intro j member
  exact same j (mem_range.mp member)

theorem ofLanes_inj : ofLanes f = ofLanes g ↔ ∀ j < 32, f j = g j := by
  constructor
  · intro same j inside
    rw [← laneOf_ofLanes f inside, same, laneOf_ofLanes g inside]
  · exact ofLanes_congr

theorem and_lanes (f g : Nat → UInt8) : ofLanes f &&& ofLanes g = ofLanes fun j => f j &&& g j := by
  apply BitVec.eq_of_getLsbD_eq
  intro i inside
  simp only [BitVec.getLsbD_and, ofLanes_getLsbD _ inside, UInt8.toNat_and, Nat.testBit_and]

theorem or_lanes (f g : Nat → UInt8) : ofLanes f ||| ofLanes g = ofLanes fun j => f j ||| g j := by
  apply BitVec.eq_of_getLsbD_eq
  intro i inside
  simp only [BitVec.getLsbD_or, ofLanes_getLsbD _ inside, UInt8.toNat_or, Nat.testBit_or]

theorem not_lanes (f : Nat → UInt8) : ~~~ ofLanes f = ofLanes fun j => ~~~ f j := by
  apply BitVec.eq_of_getLsbD_eq
  intro i inside
  have low : i % 8 < 8 := Nat.mod_lt i (by decide)
  have lane : ∀ byte : UInt8, (~~~ byte).toNat.testBit (i % 8) = !byte.toNat.testBit (i % 8) := by
    intro byte
    have bits := @BitVec.getLsbD_not 8 (i % 8) byte.toBitVec
    simpa [BitVec.getLsbD, low] using bits
  simp only [BitVec.getLsbD_not, ofLanes_getLsbD _ inside, inside, decide_true, Bool.true_and, lane]

theorem beNat_add {α : Type} (items : List α) (f g : α → UInt8)
    (room : ∀ item ∈ items, (f item).toNat + (g item).toNat < 256) :
    beNat (items.map f) + beNat (items.map g) = beNat (items.map fun item => f item + g item) := by
  induction items with
  | nil => rfl
  | cons item items ih =>
    have here := room item (by simp)
    have rest := ih fun other member => room other (by simp [member])
    have sum : (f item + g item).toNat = (f item).toNat + (g item).toNat := by
      rw [UInt8.toNat_add]
      exact Nat.mod_eq_of_lt here
    simp only [map_cons, beNat_cons, length_map, sum, ← rest]
    ring

theorem add_lanes (f g : Nat → UInt8) (room : ∀ j < 32, (f j).toNat + (g j).toNat < 256) :
    ofLanes f + ofLanes g = ofLanes fun j => f j + g j := by
  have sums := beNat_add (List.range 32) f g fun j member => room j (mem_range.mp member)
  rw [ofLanes, ofLanes, ← BitVec.ofNat_add, sums]
  rfl

theorem beNat_mul {α : Type} (items : List α) (f : α → UInt8) (factor : UInt8)
    (room : ∀ item ∈ items, (f item).toNat * factor.toNat < 256) :
    beNat (items.map f) * factor.toNat = beNat (items.map fun item => f item * factor) := by
  induction items with
  | nil => simp [beNat, ofDigits]
  | cons item items ih =>
    have here := room item (by simp)
    have rest := ih fun other member => room other (by simp [member])
    have product : (f item * factor).toNat = (f item).toNat * factor.toNat := by
      rw [UInt8.toNat_mul]
      exact Nat.mod_eq_of_lt here
    simp only [map_cons, beNat_cons, length_map, product, ← rest]
    ring

theorem mul_lanes (f : Nat → UInt8) (factor : UInt8) (room : ∀ j < 32, (f j).toNat * factor.toNat < 256) :
    ofLanes f * BitVec.ofNat 256 factor.toNat = ofLanes fun j => f j * factor := by
  have products := beNat_mul (List.range 32) f factor fun j member => room j (mem_range.mp member)
  rw [ofLanes, ← BitVec.ofNat_mul, products]
  rfl

theorem shift_lanes (f : Nat → UInt8) {shift : Nat} (small : shift < 8) :
    (ofLanes f >>> shift) &&& ofLanes (fun _ => 1) = ofLanes fun j => (f j >>> UInt8.ofNat shift) &&& 1 := by
  apply BitVec.eq_of_getLsbD_eq
  intro i inside
  have one : (1 : UInt8).toNat.testBit (i % 8) = decide (i % 8 = 0) := by
    have low : i % 8 < 8 := Nat.mod_lt i (by decide)
    generalize i % 8 = bit at low
    interval_cases bit <;> rfl
  have amount : (UInt8.ofNat shift).toNat % 8 = shift := by
    rw [UInt8.toNat_ofNat_of_lt' (by exact Nat.lt_trans small (by decide)), Nat.mod_eq_of_lt small]
  simp only [BitVec.getLsbD_and, BitVec.getLsbD_ushiftRight, ofLanes_getLsbD _ inside, UInt8.toNat_and,
    Nat.testBit_and, one, UInt8.toNat_shiftRight, amount, Nat.testBit_shiftRight]
  by_cases first : i % 8 = 0
  · have inside' : shift + i < 256 := by omega
    have lane : (shift + i) / 8 = i / 8 := by omega
    have bit : (shift + i) % 8 = shift := by omega
    rw [ofLanes_getLsbD _ inside', lane, bit, first, Nat.add_zero]
  · simp [first]

theorem raise_lanes (f : Nat → UInt8) (count : Nat) :
    ofLanes f <<< (8 * count) = ofLanes fun j => if j + count < 32 then f (j + count) else 0 := by
  apply BitVec.eq_of_getLsbD_eq
  intro i inside
  rw [ofLanes_getLsbD _ inside, BitVec.getLsbD_shiftLeft]
  by_cases low : i < 8 * count
  · have out : ¬31 - i / 8 + count < 32 := by omega
    simp [low, out]
  · have lane : 31 - (i - 8 * count) / 8 = 31 - i / 8 + count := by omega
    have bit : (i - 8 * count) % 8 = i % 8 := by omega
    have kept : 31 - i / 8 + count < 32 := by omega
    rw [ofLanes_getLsbD _ (by omega), lane, bit, if_pos kept]
    simp [low, inside]

theorem laneOf_toNat (word : Word) (index : Nat) :
    (laneOf word index).toNat = word.toNat / 256 ^ (31 - index) % 256 := by
  rw [laneOf, UInt8.toNat_ofNat']

private theorem compare_byte (x y : UInt8) : compare x y = compare x.toNat y.toNat := by
  rcases Nat.lt_trichotomy x.toNat y.toNat with below | same | above
  · rw [Std.compare_eq_lt.mpr below]
    exact Std.compare_eq_lt.mpr (UInt8.lt_iff_toNat_lt.mpr below)
  · have byte : compare x y = .eq := Std.compare_eq_iff_eq.mpr (UInt8.toNat_inj.mp same)
    rw [byte, same]
    exact (Std.compare_eq_iff_eq.mpr rfl).symm
  · rw [Std.compare_eq_gt.mpr above]
    exact Std.compare_eq_gt.mpr (UInt8.lt_iff_toNat_lt.mpr above)

theorem compare_beNat {first second : Bytes} (sized : first.length = second.length) :
    compare (beNat first) (beNat second) = compare first second := by
  induction first generalizing second with
  | nil =>
    rw [length_nil] at sized
    rw [eq_nil_of_length_eq_zero sized.symm]
    rfl
  | cons x first ih =>
    cases second with
    | nil => cases sized
    | cons y second =>
      have sized' : first.length = second.length := by simpa using sized
      have low := beNat_lt first
      have low' := beNat_lt second
      rw [List.compare_cons_cons, ← ih sized', beNat_cons, beNat_cons, compare_byte]
      rw [← sized'] at low' ⊢
      rcases Nat.lt_trichotomy x.toNat y.toNat with below | same | above
      · have step := Nat.mul_le_mul_left (256 ^ first.length) (Nat.succ_le_of_lt below)
        rw [Nat.succ_eq_add_one, Nat.mul_add, Nat.mul_one] at step
        rw [Std.compare_eq_lt.mpr below]
        exact Std.compare_eq_lt.mpr (by omega)
      · rw [same, Std.compare_eq_iff_eq.mpr rfl, Ordering.eq_then]
        rcases Nat.lt_trichotomy (beNat first) (beNat second) with less | equal | more
        · rw [Std.compare_eq_lt.mpr less]
          exact Std.compare_eq_lt.mpr (by omega)
        · rw [equal, Std.compare_eq_iff_eq.mpr rfl, Std.compare_eq_iff_eq.mpr rfl]
        · rw [Std.compare_eq_gt.mpr more]
          exact Std.compare_eq_gt.mpr (by omega)
      · have step := Nat.mul_le_mul_left (256 ^ first.length) (Nat.succ_le_of_lt above)
        rw [Nat.succ_eq_add_one, Nat.mul_add, Nat.mul_one] at step
        rw [Std.compare_eq_gt.mpr above]
        exact Std.compare_eq_gt.mpr (by omega)

end Mandate.Lib.Lanes
