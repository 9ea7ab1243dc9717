import Mathlib.Data.List.Induction
import Mathlib.Tactic.Ring

/-! Fixed-width big-endian digits in any base. Reading is the fold the byte and
hexadecimal readers run; writing is its inverse on values below `base ^ width`. -/
namespace Mandate.Lib.Radix
open List

def ofDigits (base : Nat) (digits : List Nat) : Nat :=
  digits.foldl (fun value digit => value * base + digit) 0

def toDigits (base : Nat) : Nat → Nat → List Nat
  | 0, _ => []
  | width + 1, value => toDigits base width (value / base) ++ [value % base]

@[simp] theorem toDigits_length (base width value : Nat) : (toDigits base width value).length = width := by
  induction width generalizing value with
  | zero => rfl
  | succ width ih => simp [toDigits, ih]

theorem ofDigits_append_singleton (base digit : Nat) (digits : List Nat) :
    ofDigits base (digits ++ [digit]) = ofDigits base digits * base + digit := by
  simp [ofDigits]

theorem toDigits_lt {b : Nat} (positive : 0 < b) (width value : Nat) :
    ∀ digit ∈ toDigits b width value, digit < b := by
  induction width generalizing value with
  | zero => simp [toDigits]
  | succ width ih =>
    intro digit member
    rcases mem_append.mp member with high | low
    · exact ih _ digit high
    · rw [mem_singleton.mp low]
      exact Nat.mod_lt _ positive

theorem ofDigits_toDigits (base width value : Nat) :
    ofDigits base (toDigits base width value) = value % base ^ width := by
  induction width generalizing value with
  | zero => simp [toDigits, ofDigits, Nat.mod_one]
  | succ width ih =>
    rw [toDigits, ofDigits_append_singleton, ih, Nat.pow_succ, Nat.mul_comm (base ^ width),
      Nat.mod_mul, Nat.mul_comm, Nat.add_comm]

variable {base : Nat}

theorem ofDigits_lt (digits : List Nat) (inside : ∀ digit ∈ digits, digit < base) :
    ofDigits base digits < base ^ digits.length := by
  induction digits using List.reverseRecOn with
  | nil => simp [ofDigits]
  | append_singleton digits digit ih =>
    have below : ofDigits base digits + 1 ≤ base ^ digits.length :=
      ih fun d member => inside d (mem_append_left _ member)
    have last : digit < base := inside digit (by simp)
    rw [ofDigits_append_singleton, length_append, length_singleton, Nat.pow_succ]
    calc ofDigits base digits * base + digit
        < (ofDigits base digits + 1) * base := by rw [Nat.add_mul]; omega
      _ ≤ base ^ digits.length * base := Nat.mul_le_mul_right _ below

theorem toDigits_ofDigits (digits : List Nat) (inside : ∀ digit ∈ digits, digit < base) :
    toDigits base digits.length (ofDigits base digits) = digits := by
  induction digits using List.reverseRecOn with
  | nil => rfl
  | append_singleton digits digit ih =>
    have last : digit < base := inside digit (by simp)
    have rest := ih fun d member => inside d (mem_append_left _ member)
    have quotient : (ofDigits base digits * base + digit) / base = ofDigits base digits := by
      rw [Nat.add_comm, Nat.add_mul_div_right _ _ (by omega), Nat.div_eq_of_lt last, Nat.zero_add]
    have remainder : (ofDigits base digits * base + digit) % base = digit := by
      rw [Nat.mul_comm, Nat.mul_add_mod, Nat.mod_eq_of_lt last]
    rw [length_append, length_singleton, toDigits, ofDigits_append_singleton,
      quotient, remainder, rest]

end Mandate.Lib.Radix
