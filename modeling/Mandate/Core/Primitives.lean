import Mandate.Core.Errors
import Mandate.Lib.Text

/-! Primitive parsers shared by every Core validator. Nothing repairs input; each parsed
value is a subtype carrying the rule it was parsed under, so it parses back as itself. -/
namespace Mandate.Core
open Lib.Wire Lib.Text

inductive IntegerInput
  | bigint (value : Int)
  | text (digits : String)

/-- A JavaScript `number`, as far as the small-integer parser tells numbers apart. -/
inductive NumberInput
  | integer (value : Int)
  | fraction
  | nonFinite

def UINT32_MAX : Nat := 4294967295
def UINT64_MAX : Nat := 2 ^ 64 - 1
def UINT256_MAX : Nat := 2 ^ 256 - 1
def INT64_MIN : Int := -2 ^ 63
def INT64_MAX : Int := 2 ^ 63 - 1
def INT256_MIN : Int := -2 ^ 255
def INT256_MAX : Int := 2 ^ 255 - 1
def MAX_SAFE_INTEGER : Nat := 2 ^ 53 - 1
def MAX_INTEGER_STRING_LENGTH : Nat := 80

def utf16Length (text : String) : Nat :=
  (text.toList.map fun c => if 0x10000 ≤ c.toNat then 2 else 1).sum

def decimalDigits (digits : List Char) : Option Nat :=
  match digits with
  | ['0'] => some 0
  | first :: rest =>
    if '1' ≤ first ∧ first ≤ '9' ∧ rest.all (fun c => '0' ≤ c && c ≤ '9') then
      some ((first :: rest).foldl (fun value c => value * 10 + (c.toNat - '0'.toNat)) 0)
    else none
  | [] => none

def canonicalInteger (text : String) : Option Int :=
  match text.toList with
  | '-' :: digits => if digits = ['0'] then none else (decimalDigits digits).map fun n => -(n : Int)
  | digits => (decimalDigits digits).map Int.ofNat

def parseInteger (raw : IntegerInput) (path : String) : CoreResult Int :=
  match raw with
  | .bigint value => .ok value
  | .text digits =>
    if MAX_INTEGER_STRING_LENGTH < utf16Length digits then fail .integerOutOfRange path
    else match canonicalInteger digits with
      | none => fail .nonCanonicalInteger path
      | some value => .ok value

abbrev IntegerInRange (min max : Int) := {value : Int // min ≤ value ∧ value ≤ max}

def parseIntegerInRange (raw : IntegerInput) (min max : Int) (path : String) :
    CoreResult (IntegerInRange min max) := do
  let value ← parseInteger raw path
  if inside : min ≤ value ∧ value ≤ max then .ok ⟨value, inside⟩ else fail .integerOutOfRange path

abbrev Uint64 := IntegerInRange 0 UINT64_MAX
abbrev UnixSeconds := IntegerInRange INT64_MIN INT64_MAX

theorem seconds_zero : INT64_MIN ≤ 0 ∧ 0 ≤ INT64_MAX := by decide

theorem seconds_one : INT64_MIN ≤ 1 ∧ 1 ≤ INT64_MAX := by decide

theorem uint64_zero : (0 : Int) ≤ 0 ∧ (0 : Int) ≤ UINT64_MAX := by decide

theorem uint64_one : (0 : Int) ≤ 1 ∧ (1 : Int) ≤ UINT64_MAX := by decide

theorem positive_one : (1 : Int) ≤ 1 ∧ (1 : Int) ≤ UINT64_MAX := by decide

theorem version_one : 1 ≤ UINT32_MAX := by decide

def parseUint64 (raw : IntegerInput) (path : String) : CoreResult Uint64 :=
  parseIntegerInRange raw 0 UINT64_MAX path

def parseUnixSeconds (raw : IntegerInput) (path : String) : CoreResult UnixSeconds :=
  parseIntegerInRange raw INT64_MIN INT64_MAX path

abbrev SmallUint (max : Nat) := {value : Nat // value ≤ max}

def parseSmallUint (raw : NumberInput) (max : Nat) (path : String) : CoreResult (SmallUint max) :=
  match raw with
  | .nonFinite => fail .nonFiniteNumber path
  | .fraction => fail .nonInteger path
  | .integer value =>
    if MAX_SAFE_INTEGER < value.natAbs then fail .unsafeInteger path
    else if inside : 0 ≤ value ∧ value ≤ max then
      .ok ⟨value.toNat, by omega⟩
    else fail .integerOutOfRange path

def IDENTIFIER_MAX_LENGTH : Nat := 128

def identifierSeparator (c : Char) : Bool := ".:_-/".toList.contains c

def identifierChar (c : Char) : Bool :=
  ('A' ≤ c && c ≤ 'Z') || ('a' ≤ c && c ≤ 'z') || ('0' ≤ c && c ≤ '9') || identifierSeparator c

def identifierText (text : String) : Bool :=
  text.toList.length ≤ IDENTIFIER_MAX_LENGTH && text.toList.all identifierChar &&
  match text.toList.head?, text.toList.getLast? with
  | some first, some last => !identifierSeparator first && !identifierSeparator last
  | _, _ => false

/-- The kernel's identifier: 1 to 128 characters of its ASCII charset, no separator at either end. -/
abbrev Identifier := {text : String // identifierText text = true}

def parseIdentifierAs (raw path : String) : CoreResult Identifier :=
  if valid : identifierText raw = true then .ok ⟨raw, valid⟩ else fail .malformedIdentifier path

/-- A 32-byte digest, by value; `parseDigest` reads its only accepted spelling. -/
abbrev Digest32 := BitVec 256

abbrev NonZeroDigest := {digest : Digest32 // digest ≠ 0}

theorem digest_one : (1 : Digest32) ≠ 0 := by decide

instance : LawfulBEq Identifier := inferInstance
instance : LawfulBEq Digest32 := inferInstance
instance : LawfulBEq NonZeroDigest := inferInstance

def Digest32.bytes (digest : Digest32) : Bytes := beBytes 32 digest.toNat

def Digest32.ofBytes (bytes : Bytes) : Digest32 := BitVec.ofNat 256 (beNat bytes)

def Digest32.toHex (digest : Digest32) : String := bytesToHex (Digest32.bytes digest)

def parseDigest (raw path : String) : CoreResult Digest32 :=
  match hexToBytes raw with
  | some bytes =>
    if bytes.length = 32 then .ok (Digest32.ofBytes bytes) else fail .malformedDigest path
  | none => fail .malformedDigest path

def parseNonZeroDigest (raw path : String) : CoreResult NonZeroDigest := do
  let digest ← parseDigest raw path
  if nonzero : digest ≠ 0 then .ok ⟨digest, nonzero⟩ else fail .zeroDigest path

abbrev OpaqueBytes (max : Nat) := {bytes : Bytes // bytes.length ≤ max}

def parseOpaqueBytes (raw : String) (max : Nat) (path : String) : CoreResult (OpaqueBytes max) :=
  if 2 * max + 2 < utf16Length raw then fail .collectionTooLarge path
  else match hexToBytes raw with
    | none => fail .malformedBytes path
    | some bytes => if short : bytes.length ≤ max then .ok ⟨bytes, short⟩ else fail .collectionTooLarge path

theorem identifier_ascii (id : Identifier) : Ascii id.1 := by
  have valid := id.2
  simp only [identifierText, Bool.and_eq_true] at valid
  intro c member
  have charset := List.all_eq_true.mp valid.1.2 c member
  simp only [identifierChar, identifierSeparator, Bool.or_eq_true, Bool.and_eq_true,
    decide_eq_true_eq, List.contains_iff_mem] at charset
  have letters : Ascii ".:_-/" := ascii_of_all (by decide)
  have below : ∀ d : Char, c ≤ d → d.toNat < 128 → c.toNat < 128 := fun d le small =>
    Nat.lt_of_le_of_lt (by exact_mod_cast le) small
  rcases charset with ((⟨_, high⟩ | ⟨_, high⟩) | ⟨_, high⟩) | separator
  · exact below _ high (by decide)
  · exact below _ high (by decide)
  · exact below _ high (by decide)
  · exact letters c separator

theorem identifier_length (id : Identifier) : id.1.length ≤ IDENTIFIER_MAX_LENGTH := by
  have valid := id.2
  simp only [identifierText, Bool.and_eq_true, decide_eq_true_eq] at valid
  rw [← String.length_toList]
  exact valid.1.1

@[simp] theorem parseIdentifierAs_self (id : Identifier) (path : String) :
    parseIdentifierAs id.1 path = .ok id := by
  simp [parseIdentifierAs, id.2]

@[simp] theorem parseIntegerInRange_self {min max : Int} (value : IntegerInRange min max)
    (path : String) : parseIntegerInRange (.bigint value.1) min max path = .ok value := by
  simp [parseIntegerInRange, parseInteger, bind, Except.bind, value.2]

@[simp] theorem parseUint64_self (value : Uint64) (path : String) :
    parseUint64 (.bigint value.1) path = .ok value :=
  parseIntegerInRange_self value path

@[simp] theorem parseUnixSeconds_self (value : UnixSeconds) (path : String) :
    parseUnixSeconds (.bigint value.1) path = .ok value :=
  parseIntegerInRange_self value path

theorem parseSmallUint_self {max : Nat} (safe : max ≤ MAX_SAFE_INTEGER) (value : SmallUint max)
    (path : String) : parseSmallUint (.integer value.1) max path = .ok value := by
  have bound := value.2
  have small : ¬ MAX_SAFE_INTEGER < value.1 := by omega
  simp [parseSmallUint, small, bound]

theorem Digest32.ofBytes_bytes (digest : Digest32) : Digest32.ofBytes (Digest32.bytes digest) = digest := by
  have bound : digest.toNat < 256 ^ 32 := digest.isLt
  rw [Digest32.ofBytes, Digest32.bytes, beNat_beBytes bound, BitVec.ofNat_toNat, BitVec.setWidth_eq]

@[simp] theorem parseDigest_toHex (digest : Digest32) (path : String) :
    parseDigest digest.toHex path = .ok digest := by
  have width : (Digest32.bytes digest).length = 32 := beBytes_length _ _
  simp [parseDigest, Digest32.toHex, hexToBytes_bytesToHex, width, Digest32.ofBytes_bytes]

@[simp] theorem parseNonZeroDigest_toHex (digest : NonZeroDigest) (path : String) :
    parseNonZeroDigest digest.1.toHex path = .ok digest := by
  rw [parseNonZeroDigest, parseDigest_toHex]
  exact dif_pos digest.2

end Mandate.Core
