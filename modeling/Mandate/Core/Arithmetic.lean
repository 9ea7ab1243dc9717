import Mathlib.Algebra.Order.Field.Rat
import Mathlib.Tactic.FieldSimp
import Mathlib.Tactic.LinearCombination
import Mandate.Core.Quantity

/-! Arithmetic on quantities and their fixed-point texts: exact on atoms, at one scale, never rounded. -/
namespace Mandate.Core
open Mandate.Lib.Wire List

section Model

inductive QuantityMismatch | kind | unit | asset | decimals | valuation

def assetsEqual : Option AssetId → Option AssetId → Bool
  | some a, some b => a.1.domain == b.1.domain && a.1.kind == b.1.kind && a.1.localId == b.1.localId
  | none, none => true
  | _, _ => false

def valuationsEqual : Option ValuationRef → Option ValuationRef → Bool
  | some a, some b => writeValuation a == writeValuation b
  | none, none => true
  | _, _ => false

open QuantityMismatch in
def quantityMismatches (a b : EconomicQuantity) : List QuantityMismatch :=
  (if a.kind = b.kind then [] else [kind]) ++ (if a.unit = b.unit then [] else [unit]) ++
    (if assetsEqual a.asset b.asset then [] else [asset]) ++
    (if a.decimals = b.decimals then [] else [decimals]) ++
    (if valuationsEqual a.valuation b.valuation then [] else [valuation])

def MISMATCH_CODE : QuantityMismatch → CoreErrorCode
  | .kind => .quantityKindMismatch
  | .unit => .quantityUnitMismatch
  | .asset => .quantityAssetMismatch
  | .decimals => .quantityDecimalsMismatch
  | .valuation => .quantityValuationMismatch

def requireCompatible (a b : EconomicQuantity) : CoreResult Unit :=
  match quantityMismatches a b with
  | [] => .ok ()
  | first :: _ => fail (MISMATCH_CODE first) "quantity"

def withAtoms (q : EconomicQuantity) (atoms : Int) (decimals : Decimals) : CoreResult EconomicQuantity :=
  if (QUANTITY_KIND_RULES q.kind).signed = false ∧ atoms < 0 then
    fail .quantityNegativeUnsigned "quantity.atoms"
  else if range : atomsInRange (QUANTITY_KIND_RULES q.kind).signed atoms = true then
    .ok { q with decimals := decimals, atoms := atoms, range := range }
  else fail .quantityOutOfRange "quantity.atoms"

def addQuantities (a b : EconomicQuantity) : CoreResult EconomicQuantity := do
  requireCompatible a b
  withAtoms a (a.atoms + b.atoms) a.decimals

def subtractQuantities (a b : EconomicQuantity) : CoreResult EconomicQuantity := do
  requireCompatible a b
  withAtoms a (a.atoms - b.atoms) a.decimals

def rescaleQuantity (q : EconomicQuantity) (decimals : NumberInput) : CoreResult EconomicQuantity := do
  let d ← parseDecimals decimals "decimals"
  if q.decimals.1 ≤ d.1 then withAtoms q (q.atoms * 10 ^ (d.1 - q.decimals.1)) d
  else
    let divisor := 10 ^ (q.decimals.1 - d.1)
    if q.atoms.tmod divisor ≠ 0 then fail .inexactRescale "decimals"
    else withAtoms q (q.atoms.tdiv divisor) d

/-- `(?:0|[1-9][0-9]*)`, with the point and exactly `decimals` digits after it where there are any. -/
def fixedDigits (decimals : Nat) (text : List Char) : Option (List Char) :=
  let whole := text.takeWhile Char.isDigit
  if whole = ['0'] ∨ whole ≠ [] ∧ whole.head? ≠ some '0' then
    match decimals, text.dropWhile Char.isDigit with
    | 0, [] => some whole
    | more + 1, '.' :: fraction =>
      if fraction.length = more + 1 ∧ fraction.all Char.isDigit then some (whole ++ fraction) else none
    | _, _ => none
  else none

def parseFixedDecimal (text : String) (decimals : NumberInput) (path : String) : CoreResult Int := do
  let d ← parseDecimals decimals path
  if 120 < utf16Length text then fail .nonCanonicalDecimal path
  else
    let negative := text.toList.head? = some '-'
    match fixedDigits d.1 (if negative then text.toList.tail else text.toList) with
    | none => fail .nonCanonicalDecimal path
    | some digits =>
      let atoms := Nat.ofDigitChars 10 digits 0
      if atoms = 0 ∧ negative then fail .nonCanonicalDecimal path
      else .ok (if negative then -atoms else atoms)

/-- `toString` of the magnitude, padded on the left with zeros to `width` digits. -/
def padStart (width value : Nat) : List Char :=
  List.replicate (width - (Nat.toDigits 10 value).length) '0' ++ Nat.toDigits 10 value

/-- The digits with a point before the last `decimals` of them. -/
def pointed (decimals : Nat) (digits : List Char) : List Char :=
  if decimals = 0 then digits
  else digits.take (digits.length - decimals) ++ '.' :: digits.drop (digits.length - decimals)

def formatFixedDecimal (atoms : Int) (decimals : Nat) : String :=
  let text := pointed decimals (padStart (decimals + 1) atoms.natAbs)
  String.ofList (if atoms < 0 then '-' :: text else text)

end Model

/-- Two quantities measuring the same thing at the same scale. -/
structure Comparable (a b : EconomicQuantity) : Prop where
  kind : a.kind = b.kind
  unit : a.unit = b.unit
  asset : a.asset = b.asset
  decimals : a.decimals = b.decimals
  valuation : a.valuation = b.valuation

def EconomicQuantity.amount (q : EconomicQuantity) : ℚ := q.atoms / 10 ^ q.decimals.1

/-- `q` measures what `like` does, at the given scale, and is worth exactly `amount`. -/
structure Holds (q like : EconomicQuantity) (decimals : Decimals) (amount : ℚ) : Prop where
  kind : q.kind = like.kind
  unit : q.unit = like.unit
  asset : q.asset = like.asset
  valuation : q.valuation = like.valuation
  decimals : q.decimals = decimals
  amount : q.amount = amount

theorem assetsEqual_iff {a b : Option AssetId} : assetsEqual a b = true ↔ a = b := by
  cases a with
  | none => cases b <;> simp [assetsEqual]
  | some a =>
    cases b with
    | none => simp [assetsEqual]
    | some b =>
      obtain ⟨⟨domain, kind, localId⟩, _⟩ := a
      obtain ⟨⟨domain', kind', localId'⟩, _⟩ := b
      simp [assetsEqual, and_assoc, Subtype.ext_iff]

theorem valuationsEqual_iff {a b : Option ValuationRef} : valuationsEqual a b = true ↔ a = b := by
  cases a with
  | none => cases b <;> simp [valuationsEqual]
  | some a =>
    cases b with
    | none => simp [valuationsEqual]
    | some b =>
      simp only [valuationsEqual, beq_iff_eq, Option.some.injEq]
      refine ⟨fun same => ?_, fun same => by rw [same]⟩
      -- equal encodings are read back as one input, and that validates to one valuation
      obtain ⟨bytes, written⟩ := total_valuation a
      have read := (frames_valuation a bytes written).2.inj (frames_valuation b bytes (same ▸ written)).2
      have valid := validateValuationRef_self a ""
      rw [read, validateValuationRef_self] at valid
      exact (Except.ok.inj valid).symm

theorem quantityMismatches_nil {a b : EconomicQuantity} : quantityMismatches a b = [] ↔ Comparable a b := by
  simp only [quantityMismatches, append_eq_nil_iff, assetsEqual_iff, valuationsEqual_iff, ite_eq_left_iff,
    cons_ne_nil, imp_false, not_not]
  exact ⟨fun ⟨⟨⟨⟨kind, unit⟩, asset⟩, decimals⟩, valuation⟩ => ⟨kind, unit, asset, decimals, valuation⟩,
    fun same => ⟨⟨⟨⟨same.kind, same.unit⟩, same.asset⟩, same.decimals⟩, same.valuation⟩⟩

theorem requireCompatible_ok {a b : EconomicQuantity} : requireCompatible a b = .ok () ↔ Comparable a b := by
  rw [← quantityMismatches_nil, requireCompatible]
  split
  · next same => simp [same]
  · next same => simp [same, fail]

theorem withAtoms_ok {q c : EconomicQuantity} {atoms : Int} {decimals : Decimals} :
    withAtoms q atoms decimals = .ok c ↔ atomsInRange (QUANTITY_KIND_RULES q.kind).signed atoms = true ∧
      Holds c q decimals (atoms / 10 ^ decimals.1) := by
  have scaled : (10 : ℚ) ^ decimals.1 ≠ 0 := pow_ne_zero _ (by norm_num)
  constructor
  · intro ok
    unfold withAtoms at ok
    split at ok
    · cases ok
    split at ok
    · next range =>
      obtain rfl := Except.ok.inj ok
      exact ⟨range, rfl, rfl, rfl, rfl, rfl, rfl⟩
    · cases ok
  · rintro ⟨range, holds⟩
    have positive : ¬ ((QUANTITY_KIND_RULES q.kind).signed = false ∧ atoms < 0) := by
      rintro ⟨unsigned, negative⟩
      simp only [atomsInRange, unsigned, Bool.false_eq_true, if_false, Bool.and_eq_true, decide_eq_true_eq] at range
      omega
    obtain ⟨kind, unit, decimals', atoms', asset, valuation, _, _, _, _⟩ := c
    obtain ⟨rfl, rfl, rfl, rfl, rfl, amount⟩ := holds
    obtain rfl : atoms' = atoms := by exact_mod_cast (div_left_inj' scaled).mp amount
    rw [withAtoms, if_neg positive, dif_pos range]

theorem withAtoms_refuses {q : EconomicQuantity} {atoms : Int} {decimals : Decimals} :
    (∃ error, withAtoms q atoms decimals = .error error) ↔
      atomsInRange (QUANTITY_KIND_RULES q.kind).signed atoms = false := by
  cases result : withAtoms q atoms decimals with
  | error error =>
    refine ⟨fun _ => ?_, fun _ => ⟨error, rfl⟩⟩
    unfold withAtoms at result
    grind [atomsInRange]
  | ok c => simp [(withAtoms_ok.mp result).1]

/-- Addition and subtraction differ only in what is done with the atoms. -/
theorem combined_exact {a b : EconomicQuantity} {atoms : Int} {amount : ℚ}
    (exact : Comparable a b → (atoms : ℚ) / 10 ^ a.decimals.1 = amount) :
    (∀ c, (do requireCompatible a b; withAtoms a atoms a.decimals) = .ok c → Holds c a a.decimals amount) ∧
    ((∃ error, (do requireCompatible a b; withAtoms a atoms a.decimals) = .error error) ↔
      ¬ Comparable a b ∨ atomsInRange (QUANTITY_KIND_RULES a.kind).signed atoms = false) := by
  cases compatible : requireCompatible a b with
  | error error =>
    have differ : ¬ Comparable a b := fun same => by
      rw [requireCompatible_ok.mpr same] at compatible
      cases compatible
    simp [bind, Except.bind, differ]
  | ok _ =>
    have same := requireCompatible_ok.mp compatible
    simp only [bind, Except.bind, same, not_true_eq_false, false_or]
    exact ⟨fun c ok => exact same ▸ (withAtoms_ok.mp ok).2, withAtoms_refuses⟩

theorem parseDecimals_integer {raw : NumberInput} {path : String} {d : Decimals} :
    parseDecimals raw path = .ok d ↔ raw = .integer d.1 := by
  refine ⟨fun ok => ?_, fun same => by rw [same, parseDecimals_self]⟩
  obtain ⟨value, small, ok⟩ := except_bind_success ok
  split at ok
  · obtain rfl := Except.ok.inj ok
    cases raw with
    | nonFinite => cases small
    | fraction => cases small
    | integer number =>
      simp only [parseSmallUint] at small
      split at small
      · cases small
      split at small
      · next inside =>
        obtain rfl := Except.ok.inj small
        exact congrArg _ (Int.toNat_of_nonneg inside.1).symm
      · cases small
  · cases ok

/-- At a scale the parser accepts, what is worth the quantity is looked for among whole atoms, and found if any is. -/
theorem rescale_scaled (q : EconomicQuantity) (d : Decimals) :
    (∃ atoms : Int, (atoms : ℚ) / 10 ^ d.1 = q.amount ∧
      rescaleQuantity q (.integer d.1) = withAtoms q atoms d) ∨
    (∀ atoms : Int, (atoms : ℚ) / 10 ^ d.1 ≠ q.amount) ∧
      rescaleQuantity q (.integer d.1) = fail .inexactRescale "decimals" := by
  have ten : (10 : ℚ) ≠ 0 := by norm_num
  have reads (result : Decimals → CoreResult EconomicQuantity) :
      (parseDecimals (.integer d.1) "decimals" >>= result) = result d := by
    rw [parseDecimals_self]
    rfl
  unfold rescaleQuantity
  rw [reads]
  by_cases up : q.decimals.1 ≤ d.1
  · rw [if_pos up]
    refine .inl ⟨_, ?_, rfl⟩
    obtain ⟨more, total⟩ := Nat.exists_eq_add_of_le up
    rw [EconomicQuantity.amount, total, Nat.add_sub_cancel_left, pow_add]
    push_cast
    field_simp
  · rw [if_neg up]
    obtain ⟨fewer, total⟩ := Nat.exists_eq_add_of_lt (Nat.lt_of_not_le up)
    have width : q.decimals.1 - d.1 = fewer + 1 := by omega
    have scale : (10 : ℚ) ^ q.decimals.1 = 10 ^ d.1 * 10 ^ (fewer + 1) := by rw [total, ← pow_add, add_assoc]
    have whole (atoms : Int) : (atoms : ℚ) / 10 ^ d.1 = q.amount ↔ q.atoms = atoms * 10 ^ (fewer + 1) := by
      rw [EconomicQuantity.amount, scale, div_eq_div_iff (pow_ne_zero _ ten) (mul_ne_zero (pow_ne_zero _ ten) (pow_ne_zero _ ten))]
      constructor
      · intro same
        have cancelled : (q.atoms : ℚ) = atoms * 10 ^ (fewer + 1) := by
          apply mul_right_cancel₀ (pow_ne_zero d.1 ten)
          linear_combination -same
        exact_mod_cast cancelled
      · intro same
        rw [same]
        push_cast
        ring
    dsimp only
    rw [width]
    split
    · next inexact =>
      refine .inr ⟨fun atoms worth => inexact ?_, rfl⟩
      rw [(whole atoms).mp worth, Int.mul_tmod_left]
    · next exact =>
      refine .inl ⟨_, (whole _).mpr ?_, rfl⟩
      exact (Int.tdiv_mul_cancel (Int.dvd_of_tmod_eq_zero (not_not.mp exact))).symm

theorem rescale_exact (q : EconomicQuantity) (decimals : NumberInput) :
    (∀ c, rescaleQuantity q decimals = .ok c → ∃ d : Decimals, decimals = .integer d.1 ∧ Holds c q d q.amount) ∧
    ((∃ error, rescaleQuantity q decimals = .error error) ↔ (∀ d : Decimals, decimals ≠ .integer d.1) ∨
      ∃ d : Decimals, decimals = .integer d.1 ∧ ∀ atoms : Int, (atoms : ℚ) / 10 ^ d.1 = q.amount →
        atomsInRange (QUANTITY_KIND_RULES q.kind).signed atoms = false) := by
  cases parsed : parseDecimals decimals "decimals" with
  | error error =>
    have refused : rescaleQuantity q decimals = .error error := by rw [rescaleQuantity, parsed]; rfl
    have none (d : Decimals) : decimals ≠ .integer d.1 := fun same => by
      rw [parseDecimals_integer.mpr same] at parsed
      cases parsed
    exact ⟨fun c ok => (by rw [refused] at ok; cases ok), fun _ => .inl none, fun _ => ⟨error, refused⟩⟩
  | ok d =>
    obtain rfl := parseDecimals_integer.mp parsed
    have only {d' : Decimals} (same : NumberInput.integer d.1 = .integer d'.1) : d' = d :=
      Subtype.ext (by injection same; omega)
    rcases rescale_scaled q d with ⟨atoms, worth, step⟩ | ⟨inexact, step⟩
    · rw [step]
      refine ⟨fun c ok => ⟨d, rfl, worth ▸ (withAtoms_ok.mp ok).2⟩, withAtoms_refuses.trans ⟨fun outside => ?_, ?_⟩⟩
      · refine .inr ⟨d, rfl, fun atoms' worth' => ?_⟩
        have scaled : (10 : ℚ) ^ d.1 ≠ 0 := pow_ne_zero _ (by norm_num)
        have same := (div_left_inj' scaled).mp (worth'.trans worth.symm)
        obtain rfl : atoms' = atoms := by exact_mod_cast same
        exact outside
      · rintro (none | ⟨d', same, outside⟩)
        · exact absurd rfl (none d)
        · obtain rfl := only same
          exact outside atoms worth
    · rw [step]
      exact ⟨fun c ok => (by cases ok),
        fun _ => .inr ⟨d, rfl, fun atoms worth => absurd worth (inexact atoms)⟩, fun _ => ⟨_, rfl⟩⟩

theorem rescale_back {q c : EconomicQuantity} {d : NumberInput} (ok : rescaleQuantity q d = .ok c) :
    rescaleQuantity c (.integer q.decimals.1) = .ok q := by
  obtain ⟨d', rfl, holds⟩ := (rescale_exact q d).1 c ok
  have scaled : (10 : ℚ) ^ q.decimals.1 ≠ 0 := pow_ne_zero _ (by norm_num)
  rcases rescale_scaled c q.decimals with ⟨atoms, worth, step⟩ | ⟨inexact, -⟩
  · rw [step, withAtoms_ok]
    rw [holds.amount] at worth
    obtain rfl : atoms = q.atoms := by exact_mod_cast (div_left_inj' scaled).mp worth
    rw [holds.kind]
    exact ⟨q.range, holds.kind.symm, holds.unit.symm, holds.asset.symm, holds.valuation.symm, rfl, rfl⟩
  · exact absurd holds.amount.symm (inexact q.atoms)

section Text

theorem padStart_isDigit {width value : Nat} {c : Char} (member : c ∈ padStart width value) :
    c.isDigit = true := by
  rcases mem_append.mp member with zero | shown
  · rw [eq_of_mem_replicate zero]
    rfl
  · exact Nat.isDigit_of_mem_toDigits (by decide) (by decide) shown

theorem ofDigitChars_padStart (width value : Nat) : Nat.ofDigitChars 10 (padStart width value) 0 = value := by
  rw [padStart, Nat.ofDigitChars_append, Nat.ofDigitChars_replicate_zero, Nat.mul_zero, Nat.ofDigitChars_ten_toDigits]

theorem padStart_length (width value : Nat) : width ≤ (padStart width value).length := by
  rw [padStart, length_append, length_replicate]
  omega

theorem padStart_snoc (width value : Nat) {digit : Nat} (small : digit < 10) :
    padStart (width + 2) (10 * value + digit) = padStart (width + 1) value ++ [digit.digitChar] := by
  rcases Nat.eq_zero_or_pos value with rfl | positive
  · rw [Nat.mul_zero, Nat.zero_add, padStart, padStart, Nat.toDigits_of_lt_base small, Nat.toDigits_zero]
    simp [← replicate_succ']
  · have digits := Nat.toDigits_append_toDigits (by decide : 1 < 10) positive small
    rw [Nat.toDigits_of_lt_base small] at digits
    rw [padStart, padStart, ← digits, length_append, length_singleton,
      show width + 2 - ((Nat.toDigits 10 value).length + 1) = width + 1 - (Nat.toDigits 10 value).length by omega,
      List.append_assoc]

theorem digitChar_of_isDigit {c : Char} (digit : c.isDigit = true) :
    c.toNat - '0'.toNat < 10 ∧ (c.toNat - '0'.toNat).digitChar = c := by
  simp only [Char.isDigit, Bool.and_eq_true, decide_eq_true_eq] at digit
  have low : 48 ≤ c.toNat := digit.1
  have high : c.toNat ≤ 57 := digit.2
  have back : Char.ofNat c.toNat = c := Char.ofNat_toNat c
  generalize c.toNat = point at *
  subst back
  have every : ∀ point ≤ 57, 48 ≤ point → point - 48 < 10 ∧ (point - 48).digitChar = Char.ofNat point := by decide
  exact every point high low

/-- A text of digits is its own value padded to its own length. -/
theorem padStart_ofDigitChars {digits : List Char} (every : ∀ c ∈ digits, c.isDigit = true) (nonempty : digits ≠ []) :
    padStart digits.length (Nat.ofDigitChars 10 digits 0) = digits := by
  induction digits using List.reverseRecOn with
  | nil => exact absurd rfl nonempty
  | append_singleton digits c ih =>
    obtain ⟨small, shown⟩ := digitChar_of_isDigit (every c (by simp))
    have value : Nat.ofDigitChars 10 (digits ++ [c]) 0 =
        10 * Nat.ofDigitChars 10 digits 0 + (c.toNat - '0'.toNat) := by
      rw [Nat.ofDigitChars_append, Nat.ofDigitChars_cons, Nat.ofDigitChars_nil]
    rw [value, length_append, length_singleton]
    cases digits with
    | nil =>
      rw [Nat.ofDigitChars_nil, Nat.mul_zero, Nat.zero_add, padStart, Nat.toDigits_of_lt_base small, shown]
      rfl
    | cons first rest =>
      have before := ih (fun c member => every c (mem_append_left _ member)) (by simp)
      rw [length_cons] at before ⊢
      rw [padStart_snoc _ _ small, before, shown]

theorem padStart_unpadded {digits : List Char} {width : Nat} (every : ∀ c ∈ digits, c.isDigit = true)
    (solid : digits ≠ [] ∧ digits.head? ≠ some '0') (wide : width ≤ digits.length) :
    padStart width (Nat.ofDigitChars 10 digits 0) = digits := by
  have padded := padStart_ofDigitChars every solid.1
  generalize Nat.ofDigitChars 10 digits 0 = value at *
  have shown : Nat.toDigits 10 value = digits := by
    cases extra : digits.length - (Nat.toDigits 10 value).length with
    | zero => rwa [padStart, extra] at padded
    | succ more =>
      rw [padStart, extra] at padded
      exact absurd (padded ▸ rfl) solid.2
  rw [padStart, shown, Nat.sub_eq_zero_of_le wide]
  rfl

theorem toDigits_head {value : Nat} (zero : (Nat.toDigits 10 value).head? = some '0') : value = 0 := by
  induction value using Nat.strongRecOn with
  | ind value ih =>
    rcases Nat.lt_or_ge value 10 with small | large
    · rw [Nat.toDigits_of_lt_base small] at zero
      have every : ∀ digit < 10, digit.digitChar = '0' → digit = 0 := by decide
      exact every value small (Option.some.inj zero)
    · rw [Nat.toDigits_of_base_le (by decide) large, head?_append_of_ne_nil _ Nat.toDigits_ne_nil] at zero
      have := ih (value / 10) (by omega) zero
      omega

theorem takeWhile_digits {whole rest : List Char} (every : ∀ c ∈ whole, c.isDigit = true)
    (stops : ∀ c ∈ rest.head?, c.isDigit = false) :
    (whole ++ rest).takeWhile Char.isDigit = whole ∧ (whole ++ rest).dropWhile Char.isDigit = rest := by
  rw [takeWhile_append_of_pos every, dropWhile_append_of_pos every]
  cases rest with
  | nil => simp
  | cons c rest => simp [stops c rfl]

theorem padStart_zero {width value : Nat} (zero : (padStart (width + 1) value).head? = some '0') :
    (padStart (width + 1) value).length = width + 1 := by
  cases extra : width + 1 - (Nat.toDigits 10 value).length with
  | zero =>
    rw [padStart, extra] at zero ⊢
    obtain rfl := toDigits_head zero
    rw [Nat.toDigits_zero] at extra ⊢
    rw [length_singleton] at extra
    rw [show width = 0 by omega]
    rfl
  | succ more =>
    rw [padStart, length_append, length_replicate]
    omega

theorem fixedDigits_some {decimals : Nat} {text digits : List Char} (read : fixedDigits decimals text = some digits) :
    digits = padStart (decimals + 1) (Nat.ofDigitChars 10 digits 0) ∧ text = pointed decimals digits := by
  have every : ∀ c ∈ text.takeWhile Char.isDigit, c.isDigit = true := all_eq_true.mp all_takeWhile
  have joined := takeWhile_append_dropWhile (p := Char.isDigit) (l := text)
  simp only [fixedDigits] at read
  generalize text.takeWhile Char.isDigit = whole at *
  generalize text.dropWhile Char.isDigit = rest at *
  have padded (fraction : List Char) (form : whole = ['0'] ∨ whole ≠ [] ∧ whole.head? ≠ some '0')
      (digits : ∀ c ∈ fraction, c.isDigit = true) : whole ++ fraction =
        padStart (fraction.length + 1) (Nat.ofDigitChars 10 (whole ++ fraction) 0) := by
    have both : ∀ c ∈ whole ++ fraction, c.isDigit = true := fun c member =>
      (mem_append.mp member).elim (every c) (digits c)
    rcases form with rfl | ⟨nonempty, head⟩
    · have shown := padStart_ofDigitChars both (by simp)
      rw [length_append, length_singleton, Nat.add_comm] at shown
      exact shown.symm
    · have longer := length_pos_iff.mpr nonempty
      refine (padStart_unpadded both ⟨by simp [nonempty], ?_⟩ (by rw [length_append]; omega)).symm
      rwa [head?_append_of_ne_nil _ nonempty]
  split at read
  · next form =>
    split at read
    · obtain rfl := Option.some.inj read
      have shown := padded [] form (by simp)
      rw [append_nil] at joined shown
      exact ⟨shown, joined.symm⟩
    · next more fraction =>
      split at read
      · next tail =>
        obtain rfl := Option.some.inj read
        have shown := padded fraction form (all_eq_true.mp tail.2)
        rw [tail.1] at shown
        refine ⟨shown, ?_⟩
        have front : (whole ++ fraction).length - (more + 1) = whole.length := by
          rw [length_append, tail.1, Nat.add_sub_cancel]
        rw [pointed, if_neg (Nat.succ_ne_zero more), front, take_left, drop_left, joined]
      · cases read
    · cases read
  · cases read

theorem fixedDigits_pointed (decimals value : Nat) :
    fixedDigits decimals (pointed decimals (padStart (decimals + 1) value)) =
      some (padStart (decimals + 1) value) := by
  have every : ∀ c ∈ padStart (decimals + 1) value, c.isDigit = true := fun c => padStart_isDigit
  have long := padStart_length (decimals + 1) value
  have zero := @padStart_zero decimals value
  generalize padStart (decimals + 1) value = digits at *
  have form : digits.take (digits.length - decimals) = ['0'] ∨ digits.take (digits.length - decimals) ≠ [] ∧
      (digits.take (digits.length - decimals)).head? ≠ some '0' := by
    cases digits with
    | nil => simp at long
    | cons first rest =>
      have size : (first :: rest).length - decimals = rest.length - decimals + 1 := by
        simp only [length_cons] at long ⊢
        omega
      rw [size, take_succ_cons]
      by_cases same : first = '0'
      · have exactly := zero (congrArg some same)
        rw [length_cons] at exactly
        exact .inl (by rw [same, show rest.length - decimals = 0 by omega, take_zero])
      · exact .inr ⟨cons_ne_nil _ _, fun head => same (Option.some.inj head)⟩
  unfold fixedDigits pointed
  cases decimals with
  | zero =>
    have whole := @takeWhile_digits digits [] every (by simp)
    rw [append_nil] at whole
    rw [Nat.sub_zero, take_length] at form
    rw [if_pos rfl, whole.1, whole.2, if_pos form]
  | succ more =>
    obtain ⟨whole, after⟩ := @takeWhile_digits _ ('.' :: digits.drop (digits.length - (more + 1)))
      (fun c member => every c (mem_of_mem_take member)) (by simp)
    rw [if_neg (Nat.succ_ne_zero more), whole, after, if_pos form]
    have fraction : (digits.drop (digits.length - (more + 1))).length = more + 1 ∧
        (digits.drop (digits.length - (more + 1))).all Char.isDigit = true :=
      ⟨by rw [length_drop]; omega, all_eq_true.mpr fun c member => every c (mem_of_mem_drop member)⟩
    simp only [if_pos fraction, take_append_drop]

/-- Reading and writing a fixed-point text are inverse, as far as the reader reads. -/
theorem parseFixedDecimal_ok {text path : String} {d : Decimals} {atoms : Int} :
    parseFixedDecimal text (.integer d.1) path = .ok atoms ↔
      utf16Length text ≤ 120 ∧ text = formatFixedDecimal atoms d.1 := by
  rw [parseFixedDecimal, parseDecimals_self]
  change (if 120 < utf16Length text then _ else _) = _ ↔ _
  by_cases long : 120 < utf16Length text
  · rw [if_pos long]
    exact ⟨fun ok => (by cases ok), fun ⟨short, _⟩ => absurd long (by omega)⟩
  rw [if_neg long]
  dsimp only
  constructor
  · intro ok
    refine ⟨by omega, ?_⟩
    split at ok
    · cases ok
    next digits read =>
    split at ok
    · cases ok
    next signed =>
    obtain ⟨padded, spelled⟩ := fixedDigits_some read
    obtain rfl := Except.ok.inj ok
    refine String.toList_inj.mp ?_
    rw [formatFixedDecimal, String.toList_ofList]
    by_cases negative : text.toList.head? = some '-'
    · rw [if_pos negative] at spelled ⊢
      have nonzero : Nat.ofDigitChars 10 digits 0 ≠ 0 := fun zero => signed ⟨zero, negative⟩
      obtain ⟨body, front⟩ := head?_eq_some_iff.mp negative
      rw [if_pos (by omega), Int.natAbs_neg, Int.natAbs_natCast, ← padded, ← spelled, front]
      rfl
    · rw [if_neg negative] at spelled ⊢
      rw [if_neg (by omega), Int.natAbs_natCast, ← padded, spelled]
  · rintro ⟨-, rfl⟩
    have shown := fixedDigits_pointed d.1 atoms.natAbs
    rw [formatFixedDecimal, String.toList_ofList]
    by_cases negative : atoms < 0
    · have head : ('-' :: pointed d.1 (padStart (d.1 + 1) atoms.natAbs)).head? = some '-' := rfl
      rw [if_pos negative, if_pos head, tail_cons, shown]
      simp only [ofDigitChars_padStart, if_pos head]
      rw [if_neg (by omega)]
      congr 1
      omega
    · have head : (pointed d.1 (padStart (d.1 + 1) atoms.natAbs)).head? ≠ some '-' := by
        intro minus
        have solid : fixedDigits d.1 (pointed d.1 (padStart (d.1 + 1) atoms.natAbs)) = none := by
          obtain ⟨rest, front⟩ := head?_eq_some_iff.mp minus
          simp [front, fixedDigits]
        rw [shown] at solid
        cases solid
      rw [if_neg negative, if_neg head, shown]
      simp only [ofDigitChars_padStart, if_neg head]
      rw [if_neg fun both => head both.2]
      congr 1
      omega

end Text

/-- Sums, differences and rescalings are worth exactly what they should be, or refused for want of a common measure,
of room, or of digits at the requested scale; rescaling is undone by rescaling back, and so are fixed-point texts. -/
theorem arithmetic_exact (a b : EconomicQuantity) (decimals : NumberInput) :
    ((∀ c, addQuantities a b = .ok c → Holds c a a.decimals (a.amount + b.amount)) ∧
      ((∃ error, addQuantities a b = .error error) ↔ ¬ Comparable a b ∨
        atomsInRange (QUANTITY_KIND_RULES a.kind).signed (a.atoms + b.atoms) = false)) ∧
    ((∀ c, subtractQuantities a b = .ok c → Holds c a a.decimals (a.amount - b.amount)) ∧
      ((∃ error, subtractQuantities a b = .error error) ↔ ¬ Comparable a b ∨
        atomsInRange (QUANTITY_KIND_RULES a.kind).signed (a.atoms - b.atoms) = false)) ∧
    ((∀ c, rescaleQuantity a decimals = .ok c → ∃ d : Decimals, decimals = .integer d.1 ∧ Holds c a d a.amount) ∧
      ((∃ error, rescaleQuantity a decimals = .error error) ↔ (∀ d : Decimals, decimals ≠ .integer d.1) ∨
        ∃ d : Decimals, decimals = .integer d.1 ∧ ∀ atoms : Int, (atoms : ℚ) / 10 ^ d.1 = a.amount →
          atomsInRange (QUANTITY_KIND_RULES a.kind).signed atoms = false) ∧
      ∀ c, rescaleQuantity a decimals = .ok c → rescaleQuantity c (.integer a.decimals.1) = .ok a) ∧
    ∀ (text path : String) (d : Decimals) (atoms : Int), parseFixedDecimal text (.integer d.1) path = .ok atoms ↔
      utf16Length text ≤ 120 ∧ text = formatFixedDecimal atoms d.1 := by
  refine ⟨combined_exact fun same => ?_, combined_exact fun same => ?_,
    ⟨(rescale_exact a decimals).1, (rescale_exact a decimals).2, fun c => rescale_back⟩,
    fun text path d atoms => parseFixedDecimal_ok⟩
  · rw [EconomicQuantity.amount, EconomicQuantity.amount, same.decimals, ← add_div]
    push_cast
    rfl
  · rw [EconomicQuantity.amount, EconomicQuantity.amount, same.decimals, ← sub_div]
    push_cast
    rfl

def sampleProfit (atoms : Int) (range : atomsInRange true atoms = true) : EconomicQuantity :=
  ⟨.pnl, ⟨"USD", by decide⟩, ⟨0, by decide⟩, atoms, none, none, by decide, range, rfl, rfl⟩

/-- A loss is a result, a scale above 38 is none, and a text of 121 digits is not read. -/
theorem arithmetic_limits :
    (∃ loss, subtractQuantities (sampleProfit 1 (by decide)) (sampleProfit 2 (by decide)) = .ok loss ∧ loss.amount < 0) ∧
    rescaleQuantity (sampleProfit 0 (by decide)) (.integer 39) = fail .invalidDecimals "decimals" ∧
    parseFixedDecimal (formatFixedDecimal (10 ^ 120) 0) (.integer 0) "" = fail .nonCanonicalDecimal "" := by
  refine ⟨⟨sampleProfit (-1) (by decide), rfl, ?_⟩, by decide, by decide +kernel⟩
  norm_num [EconomicQuantity.amount, sampleProfit]

end Mandate.Core
