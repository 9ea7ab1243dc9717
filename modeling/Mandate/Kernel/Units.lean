import Mandate.Kernel.ReasonCodes

/-! Units and fixed-point arithmetic of the kernel: every quantity carries its unit and its
decimals, and every operation is exact on atoms or says which way it rounds. -/
namespace Mandate.Kernel
open Core

def parseBigInt : IntegerInput → Option Int
  | .bigint value => some value
  | .text digits => match digits.toList with
    | '-' :: rest => (decimalDigits rest).map fun n => -(n : Int)
    | all => (decimalDigits all).map Int.ofNat

def parseBounded (raw : IntegerInput) (min max : Int) (code : ReasonCode) :
    KernelResult (IntegerInRange min max) :=
  match parseBigInt raw with
  | none => .error code
  | some value => if inside : min ≤ value ∧ value ≤ max then .ok ⟨value, inside⟩ else .error .valueOutOfRange

def UINT16_MAX : Nat := 2 ^ 16 - 1

def parseUnixSeconds (raw : IntegerInput) (code : ReasonCode) : KernelResult UnixSeconds :=
  parseBounded raw INT64_MIN INT64_MAX code

def parseDurationSeconds (raw : IntegerInput) (code : ReasonCode) : KernelResult Seconds32 :=
  parseBounded raw 0 UINT32_MAX code

def parseIdentifier (raw : String) : KernelResult Identifier :=
  if valid : identifierText raw = true then .ok ⟨raw, valid⟩ else .error .malformedIdentifier

/-- The only spelling of a 32-byte digest, with the error its caller names. -/
def parseBytes32 (raw : String) (code : ReasonCode) : KernelResult Digest32 :=
  (parseDigest raw "").mapError fun _ => code

def parseDecimals : NumberInput → KernelResult Decimals
  | .integer value =>
    if inside : 0 ≤ value ∧ value ≤ MAX_DECIMALS then .ok ⟨value.toNat, by omega⟩ else .error .valueOutOfRange
  | _ => .error .malformedIdentifier

abbrev Atoms := IntegerInRange 0 UINT256_MAX

structure AmountInput where
  unit : String
  decimals : NumberInput
  atoms : IntegerInput

/-- `atoms / 10 ^ decimals` of one unit; the scale is part of the value's identity. -/
structure Amount where
  unit : Identifier
  decimals : Nat
  atoms : Int

def withinWord (amount : Amount) : Prop :=
  amount.decimals ≤ MAX_DECIMALS ∧ 0 ≤ amount.atoms ∧ amount.atoms ≤ UINT256_MAX

instance (amount : Amount) : Decidable (withinWord amount) := inferInstanceAs (Decidable (_ ∧ _))

/-- An amount as it was parsed: arithmetic may leave the bounds, a field never does. -/
abbrev ParsedAmount := {amount : Amount // withinWord amount}

def parseAmount (input : AmountInput) : KernelResult ParsedAmount := do
  let unit ← parseIdentifier input.unit
  let decimals ← parseDecimals input.decimals
  let atoms ← parseBounded input.atoms 0 UINT256_MAX .malformedIdentifier
  .ok ⟨⟨unit, decimals.1, atoms.1⟩, decimals.2, atoms.2⟩

structure PriceInput where
  numeratorUnit : String
  denominatorUnit : String
  decimals : NumberInput
  atoms : IntegerInput

structure Price where
  numeratorUnit : Identifier
  denominatorUnit : Identifier
  decimals : Decimals
  atoms : Atoms
deriving DecidableEq

def parsePrice (input : PriceInput) : KernelResult Price := do
  let numeratorUnit ← parseIdentifier input.numeratorUnit
  let denominatorUnit ← parseIdentifier input.denominatorUnit
  let decimals ← parseDecimals input.decimals
  let atoms ← parseBounded input.atoms 0 UINT256_MAX .malformedIdentifier
  .ok ⟨numeratorUnit, denominatorUnit, decimals, atoms⟩

def amountInputOf (a : ParsedAmount) : AmountInput :=
  ⟨a.1.unit.1, .integer a.1.decimals, .bigint a.1.atoms⟩

def priceInputOf (p : Price) : PriceInput :=
  ⟨p.numeratorUnit.1, p.denominatorUnit.1, .integer p.decimals.1, .bigint p.atoms.1⟩

def compareAmounts (a b : Amount) : KernelResult Ordering :=
  if a.unit ≠ b.unit then .error .unitMismatch
  else .ok (compare (a.atoms * 10 ^ b.decimals) (b.atoms * 10 ^ a.decimals))

structure NotionalBounds where
  floorAtoms : Int
  ceilAtoms : Int

/-- `quantity * price` at the target scale, as the two adjacent representable values. -/
def notionalBounds (quantity : Amount) (price : Price) (targetUnit : Identifier) (targetDecimals : Nat) :
    KernelResult NotionalBounds :=
  if price.denominatorUnit ≠ quantity.unit then .error .unitMismatch
  else if price.numeratorUnit ≠ targetUnit then .error .unitMismatch
  else if MAX_DECIMALS < targetDecimals then .error .valueOutOfRange
  else
    let numerator := quantity.atoms * price.atoms.1 * 10 ^ targetDecimals
    let denominator : Int := 10 ^ (quantity.decimals + price.decimals.1)
    let floorAtoms := numerator / denominator
    let ceilAtoms := if numerator % denominator = 0 then floorAtoms else floorAtoms + 1
    if UINT256_MAX < ceilAtoms then .error .valueOutOfRange else .ok ⟨floorAtoms, ceilAtoms⟩

/-- `a + b` at the finer of the two scales; a sum past `uint256` is refused, never wrapped. -/
def addAmounts (a b : Amount) : KernelResult Amount :=
  if a.unit ≠ b.unit then .error .unitMismatch
  else
    let decimals := max a.decimals b.decimals
    let atoms := a.atoms * 10 ^ (decimals - a.decimals) + b.atoms * 10 ^ (decimals - b.decimals)
    if UINT256_MAX < atoms then .error .valueOutOfRange else .ok ⟨a.unit, decimals, atoms⟩

/-- `a - b` at the finer of the two scales; a negative difference is refused. -/
def subtractAmounts (a b : Amount) : KernelResult Amount :=
  if a.unit ≠ b.unit then .error .unitMismatch
  else
    let decimals := max a.decimals b.decimals
    let atoms := a.atoms * 10 ^ (decimals - a.decimals) - b.atoms * 10 ^ (decimals - b.decimals)
    if atoms < 0 then .error .valueOutOfRange else .ok ⟨a.unit, decimals, atoms⟩

def BPS_SCALE : Int := 10000

/-- `|execution - reference| / reference` in basis points, rounded up. -/
def deviationBps (execution reference : Price) : KernelResult Int :=
  if execution.numeratorUnit ≠ reference.numeratorUnit then .error .unitMismatch
  else if execution.denominatorUnit ≠ reference.denominatorUnit then .error .unitMismatch
  else if reference.atoms.1 ≤ 0 then .error .marketStateUnknown
  else
    let e := execution.atoms.1 * 10 ^ reference.decimals.1
    let r := reference.atoms.1 * 10 ^ execution.decimals.1
    let numerator := (if r < e then e - r else r - e) * BPS_SCALE
    .ok (if numerator % r = 0 then numerator / r else numerator / r + 1)

variable {raw : String}

theorem parseIdentifier_ok {id : Identifier} : parseIdentifier raw = .ok id ↔ id.1 = raw := by
  unfold parseIdentifier
  simp only [require_ok, Except.ok.injEq, Subtype.ext_iff]
  constructor
  · rintro ⟨_, rfl⟩
    rfl
  · rintro rfl
    exact ⟨id.2, rfl⟩

variable {code : ReasonCode}

theorem parseBytes32_ok {digest : Digest32} :
    parseBytes32 raw code = .ok digest ↔ parseDigest raw "" = .ok digest := by
  unfold parseBytes32
  cases parseDigest raw "" <;> simp [Except.mapError]

theorem parseBounded_ok {min max value : Int} {parsed : IntegerInRange min max} :
    parseBounded (.bigint value) min max code = .ok parsed ↔ parsed.1 = value := by
  simp only [parseBounded, parseBigInt, require_ok, Except.ok.injEq, Subtype.ext_iff]
  constructor
  · rintro ⟨_, rfl⟩
    rfl
  · rintro rfl
    exact ⟨parsed.2, rfl⟩

theorem parseDecimals_ok {value : Nat} {decimals : Decimals} :
    parseDecimals (.integer value) = .ok decimals ↔ decimals.1 = value := by
  simp only [parseDecimals, require_ok, Except.ok.injEq, Subtype.ext_iff, Int.toNat_natCast]
  constructor
  · rintro ⟨_, rfl⟩
    rfl
  · rintro rfl
    have small := decimals.2
    exact ⟨by omega, rfl⟩

theorem parseAmount_self (a : ParsedAmount) : parseAmount (amountInputOf a) = .ok a := by
  have unit := parseIdentifier_ok.mpr (rfl : a.1.unit.1 = a.1.unit.1)
  have decimals := (parseDecimals_ok.mpr rfl : parseDecimals (.integer a.1.decimals) = .ok ⟨a.1.decimals, a.2.1⟩)
  have atoms := (parseBounded_ok.mpr rfl :
    parseBounded (.bigint a.1.atoms) 0 UINT256_MAX .malformedIdentifier = .ok ⟨a.1.atoms, a.2.2⟩)
  simp only [parseAmount, amountInputOf, unit, decimals, atoms, bind, Except.bind]

theorem parsePrice_self (p : Price) : parsePrice (priceInputOf p) = .ok p := by
  have numerator := parseIdentifier_ok.mpr (rfl : p.numeratorUnit.1 = p.numeratorUnit.1)
  have denominator := parseIdentifier_ok.mpr (rfl : p.denominatorUnit.1 = p.denominatorUnit.1)
  have decimals := parseDecimals_ok.mpr (rfl : p.decimals.1 = p.decimals.1)
  have atoms := (parseBounded_ok.mpr rfl :
    parseBounded (.bigint p.atoms.1) 0 UINT256_MAX .malformedIdentifier = .ok p.atoms)
  simp only [parsePrice, priceInputOf, numerator, denominator, decimals, atoms, bind, Except.bind]

end Mandate.Kernel
