import Mathlib.Tactic.Positivity
import Mathlib.Data.Rat.Floor

/-! Decimal scales: the exact value of an amount at another scale, which is linear in the
amount and need not be a whole number of atoms. -/
namespace Mandate.Lib.Scale

/-- `atoms` counted at `source` decimals, in atoms at `target` decimals. -/
def rescaled (atoms : Int) (source target : Nat) : ℚ := atoms * 10 ^ target / 10 ^ source

@[simp] theorem rescaled_zero (source target : Nat) : rescaled 0 source target = 0 := by
  simp [rescaled]

theorem rescaled_add (a b : Int) (source target : Nat) :
    rescaled (a + b) source target = rescaled a source target + rescaled b source target := by
  simp only [rescaled]
  push_cast
  ring

theorem rescaled_sub (a b : Int) (source target : Nat) :
    rescaled (a - b) source target = rescaled a source target - rescaled b source target := by
  simp only [rescaled]
  push_cast
  ring

variable {atoms : Int}

theorem rescaled_nonneg (nonneg : 0 ≤ atoms) (source target : Nat) : 0 ≤ rescaled atoms source target := by
  have cast : (0 : ℚ) ≤ atoms := by exact_mod_cast nonneg
  unfold rescaled
  positivity

theorem rescaled_mono {a b : Int} (le : a ≤ b) (source target : Nat) :
    rescaled a source target ≤ rescaled b source target := by
  have gap := rescaled_nonneg (sub_nonneg.mpr le) source target
  rw [rescaled_sub] at gap
  exact sub_nonneg.mp gap

theorem rescaled_eq_iff {result : Int} {source target : Nat} :
    (result : ℚ) = rescaled atoms source target ↔ result * 10 ^ source = atoms * 10 ^ target := by
  have positive : (10 : ℚ) ^ source ≠ 0 := by positivity
  rw [rescaled, eq_div_iff positive]
  exact_mod_cast Iff.rfl

end Mandate.Lib.Scale

/-! Decimal fixed point: what `atoms` at `decimals` are worth, sums and comparisons across
scales, and the two grid neighbours of a value that is on no grid point. -/
namespace Mandate.Lib.FixedPoint

def worth (atoms : Int) (decimals : Nat) : ℚ := atoms / 10 ^ decimals

theorem scale_pos (decimals : Nat) : (0 : ℚ) < 10 ^ decimals := by positivity

theorem worth_lift {fine coarse : Nat} (le : coarse ≤ fine) (atoms : Int) :
    worth (atoms * 10 ^ (fine - coarse)) fine = worth atoms coarse := by
  have split : (10 : ℚ) ^ fine = 10 ^ (fine - coarse) * 10 ^ coarse := by
    rw [← pow_add, Nat.sub_add_cancel le]
  have lifted := (scale_pos (fine - coarse)).ne'
  have coarseScale := (scale_pos coarse).ne'
  unfold worth
  push_cast
  rw [split]
  field_simp

theorem worth_add (a b : Int) (decimals : Nat) :
    worth (a + b) decimals = worth a decimals + worth b decimals := by
  unfold worth
  push_cast
  ring

theorem worth_sub (a b : Int) (decimals : Nat) :
    worth (a - b) decimals = worth a decimals - worth b decimals := by
  unfold worth
  push_cast
  ring

variable {a b : Int} {m n : Nat}

theorem worth_le_iff : worth a m ≤ worth b n ↔ a * 10 ^ n ≤ b * 10 ^ m := by
  unfold worth
  rw [div_le_div_iff₀ (scale_pos m) (scale_pos n)]
  exact_mod_cast Iff.rfl

theorem worth_lt_iff : worth a m < worth b n ↔ a * 10 ^ n < b * 10 ^ m := by
  unfold worth
  rw [div_lt_div_iff₀ (scale_pos m) (scale_pos n)]
  exact_mod_cast Iff.rfl

variable {x : ℚ} {atoms : Int} {decimals : Nat}

theorem le_worth_iff : x ≤ worth atoms decimals ↔ ⌈x * 10 ^ decimals⌉ ≤ atoms := by
  rw [worth, le_div_iff₀ (scale_pos decimals), Int.ceil_le]

theorem worth_le_iff_floor : worth atoms decimals ≤ x ↔ atoms ≤ ⌊x * 10 ^ decimals⌋ := by
  rw [worth, div_le_iff₀ (scale_pos decimals), Int.le_floor]

variable {d : Int}

theorem floor_div (n : Int) (positive : 0 < d) : ⌊(n : ℚ) / d⌋ = n / d := by
  obtain ⟨k, rfl⟩ := Int.eq_ofNat_of_zero_le positive.le
  exact_mod_cast Rat.floor_intCast_div_natCast n k

theorem ceil_div (n : Int) (positive : 0 < d) : ⌈(n : ℚ) / d⌉ = if n % d = 0 then n / d else n / d + 1 := by
  have scale : (0 : ℚ) < d := by exact_mod_cast positive
  have split : (n : ℚ) = d * (n / d : Int) + (n % d : Int) := by
    exact_mod_cast (Int.mul_ediv_add_emod n d).symm
  have low : (0 : ℚ) ≤ (n % d : Int) := by exact_mod_cast Int.emod_nonneg n positive.ne'
  have high : ((n % d : Int) : ℚ) < d := by exact_mod_cast Int.emod_lt_of_pos n positive
  rw [Int.ceil_eq_iff]
  by_cases even : n % d = 0
  · rw [if_pos even, lt_div_iff₀ scale, div_le_iff₀ scale, split, even]
    push_cast
    constructor
    · nlinarith
    · nlinarith
  · have part : (0 : ℚ) < (n % d : Int) :=
      lt_of_le_of_ne low (by exact_mod_cast Ne.symm even)
    rw [if_neg even, lt_div_iff₀ scale, div_le_iff₀ scale]
    push_cast
    constructor
    · rw [split]
      nlinarith
    · rw [split]
      nlinarith

end Mandate.Lib.FixedPoint
