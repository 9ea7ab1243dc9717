import Mandate.Kernel.Plain
import Mandate.Kernel.Canonical
import Mathlib.Tactic.Positivity

/-! What the checks report fits a receipt: every code and every detail is a text its writer takes,
so of the writer's assertions only the count of the violations is left to reach. -/
set_option linter.dupNamespace false
namespace Mandate.Kernel
open Core Lib.Wire Lib.Text List

section Texts

def spellable (text : String) : Bool :=
  text.toList.all (fun c => decide (c.toNat < 128)) && decide (text.length ≤ 1024)

def clear (text : String) : Bool := spellable text && text.toList.all (· != '\x00')

theorem spellable_ofList (chars : List Char) : spellable (String.ofList chars) =
    (chars.all (fun c => decide (c.toNat < 128)) && decide (chars.length ≤ 1024)) := by
  rw [spellable, String.toList_ofList, String.length_ofList]

variable {text : String}

theorem clear_zero (told : clear text = true) : '\x00' ∉ text.toList := by
  rw [clear, Bool.and_eq_true, all_eq_true] at told
  intro member
  exact absurd (told.2 _ member) (by decide)

theorem clear_spellable (told : clear text = true) : spellable text = true := by
  rw [clear, Bool.and_eq_true] at told
  exact told.1

theorem clear_ascii (ascii : ∀ c ∈ text.toList, c.toNat < 128 ∧ c ≠ '\x00')
    (short : text.length ≤ 1024) : clear text = true := by
  have letters : text.toList.all (fun c => decide (c.toNat < 128)) = true := by
    rw [all_eq_true]
    intro c member
    exact decide_eq_true (ascii c member).1
  have other : text.toList.all (· != '\x00') = true := by
    rw [all_eq_true]
    intro c member
    exact bne_iff_ne.mpr (ascii c member).2
  rw [clear, spellable, letters, other, Bool.true_and, Bool.and_true, decide_eq_true_eq]
  exact short

theorem letters_plain (text : String)
    (plain : (text.toList.all fun c => decide (c.toNat < 128 ∧ c ≠ '\x00')) = true) :
    ∀ c ∈ text.toList, c.toNat < 128 ∧ c ≠ '\x00' := fun c member =>
  of_decide_eq_true (all_eq_true.mp plain c member)

theorem total_spellable {text : String} (fits : spellable text = true) : (writeStr text).Total := by
  rw [spellable, Bool.and_eq_true, decide_eq_true_eq] at fits
  exact total_str (ascii_of_all fits.1) fits.2

theorem identifier_zero (id : Identifier) : '\x00' ∉ id.1.toList := by
  intro member
  have valid := id.2
  simp only [identifierText, Bool.and_eq_true] at valid
  have charset := all_eq_true.mp valid.1.2 _ member
  revert charset
  decide

theorem identifier_plain (id : Identifier) : ∀ c ∈ id.1.toList, c.toNat < 128 ∧ c ≠ '\x00' := fun c member =>
  ⟨identifier_ascii id c member, fun zero => identifier_zero id (zero ▸ member)⟩

theorem clear_identifier (id : Identifier) : clear id.1 = true := by
  have short := identifier_length id
  simp only [IDENTIFIER_MAX_LENGTH] at short
  exact clear_ascii (identifier_plain id) (by omega)

theorem clear_prefixed (id : Identifier) : clear ("representation:" ++ id.1) = true := by
  have short := identifier_length id
  simp only [IDENTIFIER_MAX_LENGTH] at short
  have letters : ∀ c ∈ "representation:".toList, c.toNat < 128 ∧ c ≠ '\x00' := letters_plain _ (by decide)
  apply clear_ascii
  · intro c member
    rw [String.toList_append, mem_append] at member
    exact member.elim (letters c) (identifier_plain id c)
  · have size : "representation:".length = 15 := by decide
    rw [String.length_append, size]
    omega

theorem digit_plain {c : Char} (digit : c.isDigit = true) : c.toNat < 128 ∧ c ≠ '\x00' := by
  constructor
  · simp only [Char.isDigit, Bool.and_eq_true, decide_eq_true_eq] at digit
    have below : c.toNat ≤ '9'.toNat := digit.2
    have nine : '9'.toNat = 57 := by decide
    omega
  · rintro rfl
    revert digit
    decide

theorem repr_plain (n : Nat) : ∀ c ∈ (Nat.repr n).toList, c.toNat < 128 ∧ c ≠ '\x00' := by
  intro c member
  rw [Nat.repr, String.toList_ofList] at member
  exact digit_plain (Nat.isDigit_of_mem_toDigits (by decide) (by decide) member)

theorem repr_short {n : Nat} (small : n < 10 ^ 201) : (Nat.repr n).length ≤ 201 := by
  rw [← String.length_toList, Nat.toList_repr]
  exact (Nat.length_toDigits_le_iff (by decide) (by decide)).mpr small

theorem clear_int {value : Int} (low : -10 ^ 200 < value) (high : value < 10 ^ 200) :
    clear value.repr = true := by
  cases value with
  | ofNat n =>
    have size := repr_short (n := n) (by change (n : Int) < _ at high; omega)
    exact clear_ascii (repr_plain n) (by change (Nat.repr n).length ≤ 1024; omega)
  | negSucc n =>
    have size := repr_short (n := n + 1) (by omega)
    have spelled : (Int.negSucc n).repr = "-" ++ Nat.repr (n + 1) := rfl
    have minus : ∀ c ∈ "-".toList, c.toNat < 128 ∧ c ≠ '\x00' := letters_plain _ (by decide)
    rw [spelled]
    apply clear_ascii
    · intro c member
      rw [String.toList_append, mem_append] at member
      exact member.elim (minus c) (repr_plain (n + 1) c)
    · have one : "-".length = 1 := by decide
      rw [String.length_append, one]
      omega

theorem hexDigit_plain : ∀ digit < 16, (hexDigit digit).toNat < 128 ∧ hexDigit digit ≠ '\x00' := by
  decide

theorem clear_hex {bytes : Bytes} (short : bytes.length ≤ 500) : clear (bytesToHex bytes) = true := by
  apply clear_ascii
  · intro c member
    rw [bytesToHex, String.toList_ofList] at member
    rcases mem_cons.mp member with rfl | member
    · decide
    rcases mem_cons.mp member with rfl | member
    · decide
    obtain ⟨byte, _, inside⟩ := mem_flatMap.mp member
    have bound := byte.toNat_lt
    rcases mem_cons.mp inside with rfl | inside
    · exact hexDigit_plain _ (by omega)
    · rw [mem_singleton.mp inside]
      exact hexDigit_plain _ (Nat.mod_lt _ (by decide))
  · rw [bytesToHex_length]
    omega

theorem clear_digest (digest : Digest32) : clear digest.toHex = true := by
  apply clear_hex
  have width : (Digest32.bytes digest).length = 32 := beBytes_length _ _
  omega

end Texts

section Amounts

theorem notionalBounds_word {quantity : ParsedAmount} {price : Price} {unit : Identifier}
    {decimals : Nat} {bounds : NotionalBounds}
    (parsed : notionalBounds quantity.1 price unit decimals = .ok bounds) :
    (0 ≤ bounds.floorAtoms ∧ bounds.floorAtoms ≤ UINT256_MAX) ∧
      0 ≤ bounds.ceilAtoms ∧ bounds.ceilAtoms ≤ UINT256_MAX := by
  simp only [notionalBounds, refuse_ok, Except.ok.injEq] at parsed
  obtain ⟨_, _, _, small, rfl⟩ := parsed
  have atoms := quantity.2.2.1
  have priced := price.atoms.2.1
  have product : 0 ≤ quantity.1.atoms * price.atoms.1 * 10 ^ decimals :=
    Int.mul_nonneg (Int.mul_nonneg atoms priced) (by positivity)
  have floor : 0 ≤ quantity.1.atoms * price.atoms.1 * 10 ^ decimals /
      10 ^ (quantity.1.decimals + price.decimals.1) := Int.ediv_nonneg product (by positivity)
  dsimp only at small ⊢
  generalize quantity.1.atoms * price.atoms.1 * 10 ^ decimals /
    10 ^ (quantity.1.decimals + price.decimals.1) = floorAtoms at *
  split at small <;> omega

theorem scale_le {atoms : Int} {decimals places : Nat} (low : 0 ≤ atoms) (high : atoms ≤ UINT256_MAX)
    (small : decimals ≤ MAX_DECIMALS) : 0 ≤ atoms * 10 ^ (decimals - places) ∧
      atoms * 10 ^ (decimals - places) ≤ UINT256_MAX * 10 ^ MAX_DECIMALS := by
  have fits : (10 : Int) ^ (decimals - places) ≤ 10 ^ MAX_DECIMALS :=
    pow_le_pow_right₀ (by norm_num) (by omega)
  exact ⟨Int.mul_nonneg low (by positivity), Int.mul_le_mul high fits (by positivity) (by positivity)⟩

theorem addAmounts_word {a b : ParsedAmount} {sum : Amount} (parsed : addAmounts a.1 b.1 = .ok sum) :
    sum.decimals ≤ MAX_DECIMALS ∧ 0 ≤ sum.atoms ∧ sum.atoms ≤ UINT256_MAX := by
  simp only [addAmounts, refuse_ok, Except.ok.injEq] at parsed
  obtain ⟨_, small, rfl⟩ := parsed
  have decimals : max a.1.decimals b.1.decimals ≤ MAX_DECIMALS := max_le a.2.1 b.2.1
  have first := (@scale_le _ _ a.1.decimals a.2.2.1 a.2.2.2 decimals).1
  have second := (@scale_le _ _ b.1.decimals b.2.2.1 b.2.2.2 decimals).1
  exact ⟨decimals, Int.add_nonneg first second, Int.not_lt.mp small⟩

theorem subtractAmounts_bounds {a b : ParsedAmount} {difference : Amount}
    (parsed : subtractAmounts a.1 b.1 = .ok difference) : difference.decimals ≤ MAX_DECIMALS ∧
      0 ≤ difference.atoms ∧ difference.atoms ≤ UINT256_MAX * 10 ^ MAX_DECIMALS := by
  simp only [subtractAmounts, refuse_ok, Except.ok.injEq] at parsed
  obtain ⟨_, positive, rfl⟩ := parsed
  have decimals : max a.1.decimals b.1.decimals ≤ MAX_DECIMALS := max_le a.2.1 b.2.1
  have first := (@scale_le _ _ a.1.decimals a.2.2.1 a.2.2.2 decimals).2
  have second := (@scale_le _ _ b.1.decimals b.2.2.1 b.2.2.2 decimals).1
  exact ⟨decimals, Int.not_lt.mp positive, (Int.sub_le_self _ second).trans first⟩

theorem deviationBps_bounds {execution reference : Price} {bps : Int}
    (parsed : deviationBps execution reference = .ok bps) :
    0 ≤ bps ∧ bps ≤ (UINT256_MAX * 10 ^ MAX_DECIMALS) * BPS_SCALE + 1 := by
  simp only [deviationBps, refuse_ok, Except.ok.injEq] at parsed
  obtain ⟨_, _, positive, rfl⟩ := parsed
  have e := @scale_le _ _ 0 execution.atoms.2.1 execution.atoms.2.2 reference.decimals.2
  have r := @scale_le _ _ 0 reference.atoms.2.1 reference.atoms.2.2 execution.decimals.2
  rw [Nat.sub_zero] at e r
  have divisor : 0 < reference.atoms.1 * 10 ^ execution.decimals.1 :=
    Int.mul_pos (Int.not_le.mp positive) (by positivity)
  generalize execution.atoms.1 * 10 ^ reference.decimals.1 = scaled at *
  generalize reference.atoms.1 * 10 ^ execution.decimals.1 = base at *
  have numerator : 0 ≤ (if base < scaled then scaled - base else base - scaled) * BPS_SCALE ∧
      (if base < scaled then scaled - base else base - scaled) * BPS_SCALE ≤
        (UINT256_MAX * 10 ^ MAX_DECIMALS) * BPS_SCALE := by
    simp only [BPS_SCALE]
    split <;> omega
  generalize (if base < scaled then scaled - base else base - scaled) * BPS_SCALE = n at *
  have quotient := Int.ediv_le_self base numerator.1
  have low := Int.ediv_nonneg numerator.1 divisor.le
  split <;> omega

end Amounts

section Checks

/-- Violations of the given codes whose details the receipt's writer takes. -/
def Writable (given : ReasonCode → Bool) (violations : List Violation) : Prop :=
  ∀ v ∈ violations, given v.code = true ∧ v.detail.length < 65536 ∧
    ∀ entry ∈ v.detail, spellable entry.1 = true ∧ spellable entry.2 = true

def DETAIL_KEYS : List (List String) :=
  [[], ["input"], ["scheme"], ["reason"], ["mandateDigest"], ["observed"], ["representationId"], ["field"], ["check"],
    ["candidate"], ["expected", "observed"], ["now", "expiresAt"], ["now", "notBefore"], ["declared", "maximum"],
    ["check", "kind"], ["fees", "notional"], ["observedBps", "maximumBps"], ["reason", "ageSeconds"],
    ["ageSeconds", "maximumSeconds"], ["authorized", "observed"], ["observed", "candidate"], ["input", "trustClass"],
    ["stage", "input"], ["field", "expected", "observed"], ["source", "representationId", "declared"],
    ["declared", "floor", "ceil"], ["field", "observed", "candidate"],
    ["basis", "productCeil", "maximum", "maximumDecimals"], ["declared", "decimals", "maximum", "maximumDecimals"],
    ["declared", "decimals", "minimum", "minimumDecimals"]]

/-- Violations of the given codes and of these shapes, whose keys tell all of them. -/
def Legible (given : ReasonCode → Bool) (violations : List Violation) : Prop :=
  ∀ v ∈ violations, given v.code = true ∧ v.detail.map (·.1) ∈ DETAIL_KEYS ∧ ∀ entry ∈ v.detail, clear entry.2 = true

variable {given : ReasonCode → Bool}

theorem detail_keys : ∀ keys ∈ DETAIL_KEYS, keys.length < 65536 ∧ ∀ key ∈ keys, spellable key = true := by
  decide

theorem Legible.writable {violations : List Violation} (legible : Legible given violations) :
    Writable given violations := by
  intro v listed
  obtain ⟨code, shape, values⟩ := legible v listed
  obtain ⟨few, keys⟩ := detail_keys _ shape
  rw [length_map] at few
  exact ⟨code, few, fun entry member => ⟨keys _ (mem_map_of_mem member), clear_spellable (values entry member)⟩⟩

@[simp] theorem legible_nil : Legible given [] := by
  intro v member
  cases member

@[simp] theorem legible_append {first second : List Violation} :
    Legible given (first ++ second) ↔ Legible given first ∧ Legible given second := forall_mem_append

theorem legible_flatMap {α : Type} {items : List α} {found : α → List Violation}
    (each : ∀ item ∈ items, Legible given (found item)) : Legible given (items.flatMap found) := by
  intro v member
  obtain ⟨item, listed, inside⟩ := mem_flatMap.mp member
  exact each item listed v inside

variable {code : ReasonCode}

@[simp] theorem legible_one {detail : List (String × String)} :
    Legible given [⟨code, detail⟩] ↔ given code = true ∧ detail.map (·.1) ∈ DETAIL_KEYS ∧
      ∀ entry ∈ detail, clear entry.2 = true := forall_mem_singleton

theorem legible_unless {holds : Prop} [Decidable holds]
    {detail : List (String × String)} (fits : Legible given [⟨code, detail⟩]) :
    Legible given (unlessViolated holds code detail) := by
  unfold unlessViolated
  split
  · exact legible_nil
  · exact fits

/-- The codes of every check but the one of the representations' chains. -/
def otherCode (code : ReasonCode) : Bool := code != .representationChainInconsistent

theorem notionalBounds_code {quantity : Amount} {price : Price} {unit : Identifier} {decimals : Nat} (failed : notionalBounds quantity price unit decimals = .error code) :
    otherCode code = true := by
  unfold notionalBounds at failed
  dsimp only at failed
  repeat' split at failed
  all_goals
    cases failed
    try decide

variable {a b : Amount}

theorem compareAmounts_code (failed : compareAmounts a b = .error code) : otherCode code = true := by
  unfold compareAmounts at failed
  split at failed <;> cases failed
  decide

theorem addAmounts_code (failed : addAmounts a b = .error code) : otherCode code = true := by
  unfold addAmounts at failed
  dsimp only at failed
  repeat' split at failed
  all_goals
    cases failed
    try decide

theorem subtractAmounts_code (failed : subtractAmounts a b = .error code) : otherCode code = true := by
  unfold subtractAmounts at failed
  dsimp only at failed
  repeat' split at failed
  all_goals
    cases failed
    try decide

theorem deviationBps_code {execution reference : Price}
    (failed : deviationBps execution reference = .error code) : otherCode code = true := by
  unfold deviationBps at failed
  dsimp only at failed
  repeat' split at failed
  all_goals
    cases failed
    try decide

theorem verifyAuthorization_code [Keccak] [Secp256k1] {envelope : AuthorizationEnvelope}
    {digest : Digest32} {domain : Eip712Domain}
    (failed : verifyAuthorization envelope digest domain = .error code) : otherCode code = true := by
  unfold verifyAuthorization at failed
  dsimp only at failed
  repeat' split at failed
  all_goals
    cases failed
    try decide

variable (ctx : CheckContext)

theorem clear_seconds (seconds : UnixSeconds) : clear seconds.1.repr = true := by
  have bound := seconds.2
  simp only [INT64_MIN, INT64_MAX] at bound
  exact clear_int (by omega) (by omega)

theorem clear_age (now observed : UnixSeconds) : clear (now.1 - observed.1).repr = true := by
  have first := now.2
  have second := observed.2
  simp only [INT64_MIN, INT64_MAX] at first second
  exact clear_int (by omega) (by omega)

theorem clear_duration (seconds : Seconds32) : clear seconds.1.repr = true := by
  have bound := seconds.2
  simp only [UINT32_MAX] at bound
  exact clear_int (by omega) (by omega)

theorem clear_uint64 (value : Uint64) : clear value.1.repr = true := by
  have bound := value.2
  simp only [UINT64_MAX] at bound
  exact clear_int (by omega) (by omega)

theorem clear_bps (value : IntegerInRange 0 UINT16_MAX) : clear value.1.repr = true := by
  have bound := value.2
  simp only [UINT16_MAX] at bound
  exact clear_int (by omega) (by omega)

theorem clear_word {value : Int} (low : 0 ≤ value) (high : value ≤ UINT256_MAX) :
    clear value.repr = true := by
  simp only [UINT256_MAX] at high
  exact clear_int (by omega) (by omega)

theorem clear_atoms (amount : ParsedAmount) : clear amount.1.atoms.repr = true :=
  clear_word amount.2.2.1 amount.2.2.2

theorem clear_decimals {decimals : Nat} (small : decimals ≤ MAX_DECIMALS) : clear decimals.repr = true := by
  simp only [MAX_DECIMALS] at small
  have same : decimals.repr = (decimals : Int).repr := rfl
  rw [same]
  exact clear_int (by omega) (by omega)

theorem legible_signature [Keccak] [Secp256k1] : Legible otherCode (checkSignature ctx) := by
  unfold checkSignature
  split
  · rename_i failed
    simp +decide [AUTHORIZATION_SCHEME, verifyAuthorization_code failed]
  · apply legible_unless
    simp +decide [clear_identifier]

theorem legible_agent : Legible otherCode (checkAgent ctx) := by
  apply legible_unless
  simp +decide [clear_identifier]

theorem legible_window : Legible otherCode (checkValidityWindow ctx) := by
  refine legible_append.mpr ⟨?_, ?_⟩
  · apply legible_unless
    simp +decide [clear_seconds]
  · apply legible_unless
    simp +decide [clear_seconds]

theorem legible_replay : Legible otherCode (checkReplay ctx) := by
  unfold checkReplay
  dsimp only
  split
  · simp +decide
  · split
    · simp +decide
    · split <;> simp +decide [clear_digest]

theorem legible_asset : Legible otherCode (checkCanonicalAsset ctx) := by
  apply legible_unless
  simp +decide [clear_identifier]

theorem legible_chain : Legible otherCode (checkChain ctx) := by
  apply legible_unless
  simp +decide [clear_identifier]

theorem legible_venue : Legible otherCode (checkVenue ctx) := by
  apply legible_unless
  simp +decide [clear_identifier]

theorem clear_side (side : Side) : clear side.name = true := by
  cases side <;> decide

theorem legible_side : Legible otherCode (checkSide ctx) := by
  apply legible_unless
  simp +decide [clear_side]

theorem clear_operational (state : OperationalState) : clear state.name = true := by
  cases state <;> decide

theorem legible_representation : Legible otherCode (checkRepresentation ctx) := by
  unfold checkRepresentation
  split
  · simp +decide [clear_identifier]
  · simp only [legible_append]
    refine ⟨⟨⟨⟨⟨?_, ?_⟩, ?_⟩, ?_⟩, ?_⟩, ?_⟩
    · apply legible_unless
      simp +decide [clear_identifier]
    · apply legible_unless
      simp +decide [clear_identifier]
    · apply legible_unless
      simp +decide [clear_identifier]
    · apply legible_unless
      simp +decide [clear_identifier]
    · split
      · simp +decide
      · apply legible_unless
        simp +decide [clear_identifier]
    · split
      · simp +decide
      · apply legible_unless
        simp +decide [clear_operational]

theorem legible_chainOf {source : String} (short : clear source = true)
    (allowed : given .representationChainInconsistent = true) (representationId chain : Identifier) :
    Legible given (chainViolation source representationId chain) := by
  apply legible_unless
  simp +decide [clear_identifier, short, allowed]

theorem legible_notionalConsistency : Legible otherCode (checkNotionalConsistency ctx) := by
  unfold checkNotionalConsistency
  dsimp only
  split
  · rename_i failed
    simp +decide [notionalBounds_code failed]
  · rename_i bounds found
    obtain ⟨floor, ceil⟩ := notionalBounds_word found
    apply legible_unless
    simp +decide [clear_atoms, clear_word floor.1 floor.2, clear_word ceil.1 ceil.2]

theorem legible_maxNotional : Legible otherCode (checkMaxNotional ctx) := by
  unfold checkMaxNotional
  dsimp only
  split
  · rename_i failed
    simp +decide [compareAmounts_code failed]
  · simp +decide [clear_atoms]
  · split
    · simp +decide [clear_atoms, clear_decimals ctx.mandate.maxNotional.2.1]
    · rename_i failed
      simp +decide [notionalBounds_code failed]
    · rename_i product found
      obtain ⟨_, ceil⟩ := notionalBounds_word found
      split
      · simp +decide [clear_atoms, clear_decimals ctx.mandate.maxNotional.2.1, clear_word ceil.1 ceil.2]
      · exact legible_nil

theorem legible_economicLimit : Legible otherCode (checkEconomicLimit ctx) := by
  unfold checkEconomicLimit
  dsimp only
  split
  · split
    · rename_i failed
      simp +decide [addAmounts_code failed]
    · rename_i debit found
      obtain ⟨decimals, low, high⟩ := addAmounts_word found
      split
      · rename_i failed
        simp +decide [compareAmounts_code failed]
      · simp +decide [clear_atoms, clear_decimals ctx.mandate.economicLimit.2.1,
          clear_decimals decimals, clear_word low high]
      · exact legible_nil
  · split
    · rename_i failed
      simp +decide [compareAmounts_code failed]
    · split
      · rename_i failed
        simp +decide [subtractAmounts_code failed]
      · rename_i credit found
        obtain ⟨decimals, low, high⟩ := subtractAmounts_bounds found
        simp only [UINT256_MAX, MAX_DECIMALS] at high
        have atoms : clear credit.atoms.repr = true := clear_int (by omega) (by omega)
        split
        · rename_i failed
          simp +decide [compareAmounts_code failed]
        · simp +decide [clear_atoms, clear_decimals ctx.mandate.economicLimit.2.1,
            clear_decimals decimals, atoms]
        · exact legible_nil
    · simp +decide [clear_atoms]

theorem legible_priceDeviation : Legible otherCode (checkPriceDeviation ctx) := by
  unfold checkPriceDeviation
  split
  · simp +decide
  · split
    · simp +decide
    · split
      · simp +decide
      · split
        · rename_i failed
          simp +decide [deviationBps_code failed]
        · rename_i bps found
          obtain ⟨low, high⟩ := deviationBps_bounds found
          simp only [UINT256_MAX, MAX_DECIMALS, BPS_SCALE] at high
          have spelled : clear bps.repr = true := clear_int (by omega) (by omega)
          apply legible_unless
          simp +decide [clear_bps, spelled]

theorem legible_priceFreshness : Legible otherCode (checkPriceFreshness ctx) := by
  unfold checkPriceFreshness
  dsimp only
  split
  · simp +decide
  · split
    · simp +decide [clear_age]
    · apply legible_unless
      simp +decide [clear_age, clear_duration]

theorem legible_halt : Legible otherCode (checkHalt ctx) := by
  unfold checkHalt
  split
  · simp +decide
  · split
    · simp +decide
    · apply legible_unless
      simp +decide

theorem legible_corporateAction : Legible otherCode (checkCorporateAction ctx) := by
  unfold checkCorporateAction
  dsimp only
  split
  · simp +decide
  · split
    · simp +decide
    · refine legible_append.mpr ⟨?_, ?_⟩
      · split
        · simp +decide
        · apply legible_unless
          simp +decide [clear_age, clear_duration]
      · split
        · simp +decide
        · refine legible_append.mpr ⟨?_, ?_⟩
          · split
            · simp +decide [clear_uint64]
            · apply legible_unless
              simp +decide [clear_uint64]
          · apply legible_unless
            simp +decide [clear_uint64]

theorem legible_registry : Legible otherCode (checkRegistrySnapshotBinding ctx) := by
  unfold checkRegistrySnapshotBinding
  split
  · simp +decide [clear_digest]
  · apply legible_unless
    simp +decide [clear_digest]

theorem legible_trust {name : String} (short : clear name = true) (provenance : Provenance) :
    Legible otherCode (trustViolation name provenance) := by
  apply legible_unless
  have classes : ∀ trust, clear (trustClassName trust) = true := by
    intro trust
    cases trust <;> decide
  simp +decide [short, classes]

theorem legible_trustLevels : Legible otherCode (checkTrustLevels ctx) := by
  unfold checkTrustLevels
  simp only [legible_append]
  have optional : ∀ {α : Type} {name : String} (_ : clear name = true) (input : Option (Observed α)),
      Legible otherCode (input.elim [] fun o => trustViolation name o.provenance) := by
    intro α name short input
    cases input with
    | none => exact legible_nil
    | some o => exact legible_trust short o.provenance
  exact ⟨⟨⟨optional (by decide) _, optional (by decide) _⟩, optional (by decide) _⟩,
    legible_flatMap fun o _ => legible_trust (clear_prefixed _) o.provenance⟩

def otherChecks [Keccak] [Secp256k1] : List Check :=
  [checkSignature, checkAgent, checkValidityWindow, checkReplay, checkCanonicalAsset, checkChain, checkVenue,
    checkSide, checkRepresentation, checkNotionalConsistency, checkMaxNotional, checkEconomicLimit,
    checkPriceDeviation, checkPriceFreshness, checkHalt, checkCorporateAction, checkRegistrySnapshotBinding,
    checkTrustLevels]

/-- What is found apart from the chains of the state's representations. -/
def otherViolations [Keccak] [Secp256k1] (ctx : CheckContext) : List Violation :=
  (otherChecks.flatMap fun check => check ctx) ++
    chainViolation "candidate" ctx.candidate.representationId ctx.candidate.chain

theorem legible_others [Keccak] [Secp256k1] :
    Legible otherCode (otherChecks.flatMap fun check => check ctx) := by
  simp only [otherChecks, flatMap_cons, flatMap_nil, append_nil, legible_append]
  exact ⟨legible_signature ctx, legible_agent ctx, legible_window ctx, legible_replay ctx, legible_asset ctx,
    legible_chain ctx, legible_venue ctx, legible_side ctx, legible_representation ctx,
    legible_notionalConsistency ctx, legible_maxNotional ctx, legible_economicLimit ctx,
    legible_priceDeviation ctx, legible_priceFreshness ctx, legible_halt ctx, legible_corporateAction ctx,
    legible_registry ctx, legible_trustLevels ctx⟩

theorem mem_checks [Keccak] [Secp256k1] {v : Violation} : (v ∈ CHECKS.flatMap fun check => check ctx) ↔
    (v ∈ otherChecks.flatMap fun check => check ctx) ∨ v ∈ checkRepresentationChain ctx := by
  have perm : CHECKS.Perm (checkRepresentationChain :: otherChecks) :=
    @perm_middle _ checkRepresentationChain (otherChecks.take 9) (otherChecks.drop 9)
  rw [(perm.flatMap_right fun check => check ctx).mem_iff, flatMap_cons, mem_append, or_comm]

theorem legible_checks [Keccak] [Secp256k1] :
    Legible (fun _ => true) (CHECKS.flatMap fun check => check ctx) := by
  have chains : Legible (fun _ => true) (checkRepresentationChain ctx) :=
    legible_append.mpr ⟨legible_chainOf (by decide) rfl _ _,
      legible_flatMap fun _ _ => legible_chainOf (by decide) rfl _ _⟩
  intro v found
  rcases (mem_checks ctx).mp found with other | chain
  · exact ⟨rfl, (legible_others ctx v other).2⟩
  · exact chains v chain

end Checks

section Receipts

theorem total_violation {v : Violation} (short : v.detail.length < 65536)
    (texts : ∀ entry ∈ v.detail, spellable entry.1 = true ∧ spellable entry.2 = true) :
    (writeViolation v).Total := by
  have perm := perm_insertionSort (fun a b : String × String => (compare a.1 b.1).isLE = true) v.detail
  have code : spellable v.code.name = true := by cases v.code <;> exact spellable_ofList _
  refine Writer.total_append (total_spellable code) (total_list ?_ ?_)
  · rw [sortedDetail, perm.length_eq]
    exact short
  · intro entry member
    obtain ⟨key, value⟩ := texts entry (perm.mem_iff.mp member)
    exact Writer.total_append (total_spellable key) (total_spellable value)

theorem total_receipt {body : ReceiptBody} {given : ReasonCode → Bool} (texts : Writable given body.violations) :
    (writeReceipt body).Total ↔ body.violations.length ≤ 65535 := by
  have decision : spellable body.decision.name = true := by cases body.decision <;> exact spellable_ofList _
  have fixed := And.intro (Writer.total_raw (encodeText RECEIPT_TAG)) (And.intro (@total_u16 1 (by decide))
    (And.intro (@total_spellable VERIFIER_VERSION (by decide))
      (And.intro (total_nullable total_digest body.mandateDigest)
        (And.intro (total_nullable total_digest body.candidateDigest)
          (And.intro (total_nullable total_digest body.trustedStateDigest)
            (And.intro (total_nullable total_i64 body.evaluatedAt) (total_spellable decision)))))))
  have each : (Writer.each writeViolation body.violations).Total := by
    apply Writer.total_each
    intro v member
    obtain ⟨_, short, entries⟩ := texts v member
    exact total_violation short entries
  have counted : (writeU16 body.violations.length).Total ↔ body.violations.length ≤ 65535 := by
    constructor
    · rintro ⟨bytes, written⟩
      have bound := (Writer.uint_some.mp written).2.1
      omega
    · intro small
      exact total_u16 (by omega)
  simp only [writeReceipt, writeList, Writer.total_both, counted, each, fixed, true_and, and_true]

end Receipts

end Mandate.Kernel
