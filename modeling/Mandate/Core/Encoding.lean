import Mandate.Lib.Keccak
import Mandate.Core.Primitives
import Mathlib.Data.List.Sort

/-! Core canonical encoding: the primitive writers and readers, sets in ascending byte
order, nullable fields, wire codes and tagged objects. -/
namespace Mandate.Core
open Lib.Wire Lib.Text List

/-- The hash of the platform: documented as keccak-256, used only through its values. -/
class Keccak where
  keccak256 : Bytes → Digest32

@[reducible] def platformKeccak : Keccak := ⟨fun bytes => Digest32.ofBytes (Mandate.Lib.Keccak.keccak256 bytes)⟩

@[reducible] def straightKeccak : Keccak := ⟨fun bytes => Digest32.ofBytes (Mandate.Lib.Keccak.straight256 bytes)⟩

theorem platformKeccak_straight : platformKeccak = straightKeccak := by
  rw [platformKeccak, Mandate.Lib.Keccak.keccak256_straight]

def keccakDigest [Keccak] (bytes : Bytes) : Digest32 := Keccak.keccak256 bytes

def CORE_SCHEMA_VERSION : Nat := 1

def writeU8 (value : Nat) : Writer := Writer.uint 1 value
def writeU16 (value : Nat) : Writer := Writer.uint 2 value
def writeU32 (value : Int) : Writer := Writer.uint 4 value
def writeU64 (value : Int) : Writer := Writer.uint 8 value
def writeU256 (value : Int) : Writer := Writer.uint 32 value

/-- Two's complement in `width` bytes; a value outside the signed range is asserted against. -/
def writeSigned (width : Nat) (value : Int) : Writer :=
  if -(256 ^ width : Int) ≤ 2 * value ∧ 2 * value < 256 ^ width then
    Writer.uint width (if value < 0 then value + 256 ^ width else value)
  else Writer.throw

def writeI64 (value : Int) : Writer := writeSigned 8 value
def writeI256 (value : Int) : Writer := writeSigned 32 value

def writeStr (text : String) : Writer :=
  if 1024 < (encodeText text).length then Writer.throw
  else writeU16 (encodeText text).length ++ Writer.raw (encodeText text)

def writeDigest (digest : Digest32) : Writer := Writer.raw (Digest32.bytes digest)

def writeFlag (present : Bool) : Writer := writeU8 (if present then 1 else 0)

def writeOpaqueBytes (bytes : Bytes) : Writer := writeU16 bytes.length ++ Writer.raw bytes

def writeList {α : Type} (write : α → Writer) (items : List α) : Writer :=
  writeU16 items.length ++ Writer.each write items

def writeNullable {α : Type} (write : α → Writer) : Option α → Writer
  | none => writeFlag false
  | some value => writeFlag true ++ write value

/-- Writers assert and are reached only through validators: on a validated value this is its
encoding, as the `Total` lemma of its writer says. -/
def encodeWith {α : Type} (write : α → Writer) (item : α) : Bytes := (write item).getD []

def taggedWriter (tag : String) : Writer := writeStr tag ++ writeU16 CORE_SCHEMA_VERSION

def compareBytes (a b : Bytes) : Ordering := compare a b

def adjacentEqual : List Bytes → Bool
  | first :: second :: rest => compareBytes first second == .eq || adjacentEqual (second :: rest)
  | _ => false

abbrev Ascending {α : Type} (write : α → Writer) (items : List α) : Prop :=
  items.Pairwise fun a b => compareBytes (encodeWith write a) (encodeWith write b) = .lt

def encodedLE {α : Type} (write : α → Writer) (a b : α) : Prop :=
  (compareBytes (encodeWith write a) (encodeWith write b)).isLE = true

instance {α : Type} (write : α → Writer) : DecidableRel (encodedLE write) :=
  fun _ _ => inferInstanceAs (Decidable (_ = true))

def sortEncoded {α : Type} (write : α → Writer) (items : List α) : List α :=
  items.insertionSort (encodedLE write)

structure CanonicalSet {α : Type} (write : α → Writer) (max : Nat) where
  members : List α
  bounded : members.length ≤ max
  ascending : Ascending write members
deriving DecidableEq

instance {α : Type} (write : α → Writer) : Std.Total (encodedLE write) where
  total a b := by
    unfold encodedLE compareBytes
    rw [@Std.OrientedCmp.eq_swap _ compare _ (encodeWith write b)]
    cases compare (encodeWith write a) (encodeWith write b) <;> simp

instance {α : Type} (write : α → Writer) : IsTrans α (encodedLE write) where
  trans _ _ _ first second := @Std.TransCmp.isLE_trans _ compare _ _ _ _ first second

theorem ascending_of_sorted {α : Type} {write : α → Writer} {items : List α}
    (sorted : items.Pairwise (encodedLE write))
    (distinct : adjacentEqual (items.map (encodeWith write)) = false) : Ascending write items := by
  induction items with
  | nil => exact List.Pairwise.nil
  | cons first rest ih =>
    obtain ⟨headLE, tailLE⟩ := pairwise_cons.mp sorted
    cases rest with
    | nil => exact pairwise_singleton _ _
    | cons second rest =>
      simp only [map_cons, adjacentEqual, Bool.or_eq_false_iff] at distinct
      have tail := ih tailLE (by simpa using distinct.2)
      have step : compareBytes (encodeWith write first) (encodeWith write second) = .lt := by
        have le := headLE second (by simp)
        have ne := distinct.1
        unfold encodedLE at le
        cases order : compareBytes (encodeWith write first) (encodeWith write second) with
        | lt => rfl
        | eq => simp [order] at ne
        | gt => simp [order] at le
      refine pairwise_cons.mpr ⟨fun item member => ?_, tail⟩
      rcases mem_cons.mp member with rfl | later
      · exact step
      · exact @Std.TransCmp.lt_trans _ compare _ _ _ _ step ((pairwise_cons.mp tail).1 item later)

/-- Sorted by encoded bytes; duplicates are refused, never collapsed. -/
def canonicalSet {α : Type} (write : α → Writer) {max : Nat} (items : List α)
    (bounded : items.length ≤ max) (path : String) : CoreResult (CanonicalSet write max) :=
  if distinct : adjacentEqual ((sortEncoded write items).map (encodeWith write)) = false then
    .ok ⟨sortEncoded write items, by rwa [sortEncoded, length_insertionSort],
      ascending_of_sorted (pairwise_insertionSort _ _) distinct⟩
  else fail .duplicateSetMember path

theorem sortEncoded_ascending {α : Type} {write : α → Writer} {items : List α}
    (ascending : Ascending write items) : sortEncoded write items = items :=
  List.Pairwise.insertionSort_eq (ascending.imp fun below => by
    unfold encodedLE
    rw [below]
    rfl)

theorem adjacentEqual_ascending {α : Type} {write : α → Writer} {items : List α}
    (ascending : Ascending write items) : adjacentEqual (items.map (encodeWith write)) = false := by
  induction items with
  | nil => rfl
  | cons first rest ih =>
    cases rest with
    | nil => rfl
    | cons second rest =>
      obtain ⟨head, tail⟩ := pairwise_cons.mp ascending
      simp only [map_cons, adjacentEqual, Bool.or_eq_false_iff]
      exact ⟨by rw [head second (by simp)]; rfl, by simpa using ih tail⟩

theorem canonicalSet_self {α : Type} {write : α → Writer} {max : Nat} (set : CanonicalSet write max)
    (path : String) : canonicalSet write set.members set.bounded path = .ok set := by
  have sorted := sortEncoded_ascending set.ascending
  have distinct := adjacentEqual_ascending set.ascending
  unfold canonicalSet
  rw [dif_pos (by rw [sorted]; exact distinct)]
  cases set
  simp only at sorted
  simp only [sorted]

abbrev CoreReader := Reader CoreErrorCode

def readU8 : CoreReader Nat := Reader.uint .encodingMalformed 1
def readU16 : CoreReader Nat := Reader.uint .encodingMalformed 2
def readU32 : CoreReader Nat := Reader.uint .encodingMalformed 4
def readU64 : CoreReader Nat := Reader.uint .encodingMalformed 8
def readU256 : CoreReader Nat := Reader.uint .encodingMalformed 32

def readSigned (width : Nat) : CoreReader Int := do
  let raw ← Reader.uint .encodingMalformed width
  pure (if 256 ^ width ≤ 2 * raw then (raw : Int) - 256 ^ width else raw)

def readI64 : CoreReader Int := readSigned 8
def readI256 : CoreReader Int := readSigned 32

def decodeStr (bytes : Bytes) : Except CoreErrorCode String :=
  (decodeText bytes).elim (.error .encodingMalformed) .ok

def readChars (length : Nat) : CoreReader String := do
  let bytes ← Reader.raw .encodingMalformed length
  Reader.note (hasMark bytes)
  Reader.ofExcept (decodeStr bytes)

def readStr : CoreReader String := do
  let length ← readU16
  readChars length

def readDigest : CoreReader String := do
  let bytes ← Reader.raw .encodingMalformed 32
  pure (bytesToHex bytes)

def readOpaqueBytes : CoreReader String := do
  let length ← readU16
  let bytes ← Reader.raw .encodingMalformed length
  pure (bytesToHex bytes)

def readFlag : CoreReader Bool := do
  let value ← readU8
  Reader.ofExcept (match value with
    | 0 => .ok false
    | 1 => .ok true
    | _ => .error .encodingInvalidFlag)

/-- A `u16` count, bounded, then the elements; a set's encodings must ascend strictly. -/
def readList {α : Type} (max : Nat) (read : CoreReader α) (set : Bool) : CoreReader (List α) := do
  let count ← readU16
  if max < count then Reader.fail .collectionTooLarge
  else
    let ascends := fun before after => !set || compareBytes before after == .lt
    Reader.items ascends CoreErrorCode.encodingNonCanonical read count none

def readNullable {α : Type} (read : CoreReader α) : CoreReader (Option α) := do
  let present ← readFlag
  if present then some <$> read else pure none

/-- Frozen wire codes of an enumeration: each is one byte and reads back as its key. -/
structure WireCodes (α : Type) where
  keys : List α
  code : α → Nat
  width : ∀ key, code key < 256
  unique : ∀ key, keys.find? (fun other => code other == code key) = some key

def writeCode {α : Type} (codes : WireCodes α) (value : α) : Writer := writeU8 (codes.code value)

def readCode {α : Type} (codes : WireCodes α) : CoreReader α := do
  let code ← readU8
  Reader.ofExcept ((codes.keys.find? fun key => codes.code key == code).elim
    (.error .encodingUnknownCode) .ok)

def must {α : Type} (result : CoreResult α) : CoreReader α := Reader.ofExcept (result.mapError (·.code))

def readTag (tag : String) : CoreReader Unit := do
  let text ← readStr
  if text ≠ tag then fun _ => .error (.encodingWrongTag, 0)
  else do
    let version ← readU16
    if version ≠ CORE_SCHEMA_VERSION then
      fun cursor => .error (.encodingUnsupportedVersion, cursor.offset - 2)
    else pure ()

def readTagged {α : Type} (tag : String) (read : CoreReader α) : CoreReader α := do
  readTag tag
  let input ← read
  Reader.finish .encodingTrailingBytes
  pure input

def runReader {α : Type} (read : CoreReader α) (bytes : Bytes) : CoreResult α :=
  match read.run ⟨0, bytes, false⟩ with
  | .error (code, offset) => fail code ("bytes@" ++ toString offset)
  | .ok (value, _) => .ok value

def decodeTagged {α β : Type} (bytes : Bytes) (tag : String) (read : CoreReader α)
    (validate : α → CoreResult β) : CoreResult β := do
  let input ← runReader (readTagged tag read) bytes
  validate input

end Mandate.Core
