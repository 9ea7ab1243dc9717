import Mandate.Lib.Wire

/-! Text as bytes: UTF-8 writing, strict UTF-8 reading with the byte-order mark
removed, and lowercase `0x` hexadecimal. Identifier charsets are ASCII, for which
each direction is one byte a character. -/
namespace Mandate.Lib.Text
open Lib.Wire List

def encodeText (text : String) : Bytes := text.toList.flatMap String.utf8EncodeChar

theorem encodeText_ofList (l : List Char) : encodeText (String.ofList l) = l.flatMap String.utf8EncodeChar := by
  rw [encodeText, String.toList_ofList]

/-- The bounds of the second byte of a multi-byte sequence, and how many follow it. -/
def leadByte (byte : UInt8) : Option (Nat × UInt8 × UInt8 × Nat) :=
  if 0xC2 ≤ byte && byte ≤ 0xDF then some (byte.toNat - 0xC0, 0x80, 0xBF, 0)
  else if byte == 0xE0 then some (0, 0xA0, 0xBF, 1)
  else if byte == 0xED then some (0xD, 0x80, 0x9F, 1)
  else if 0xE1 ≤ byte && byte ≤ 0xEF then some (byte.toNat - 0xE0, 0x80, 0xBF, 1)
  else if byte == 0xF0 then some (0, 0x90, 0xBF, 2)
  else if byte == 0xF4 then some (4, 0x80, 0x8F, 2)
  else if 0xF1 ≤ byte && byte ≤ 0xF3 then some (byte.toNat - 0xF0, 0x80, 0xBF, 2)
  else none

/-- The strict decoder: `pending` is the code point so far, the bounds of the next
byte and how many continuation bytes follow that one. -/
def decodeFrom : Option (Nat × UInt8 × UInt8 × Nat) → Bytes → Option (List Char)
  | none, [] => some []
  | some _, [] => none
  | none, byte :: rest =>
    if byte < 0x80 then (decodeFrom none rest).map (Char.ofNat byte.toNat :: ·)
    else match leadByte byte with
      | none => none
      | some lead => decodeFrom (some lead) rest
  | some (value, low, high, more), byte :: rest =>
    if low ≤ byte && byte ≤ high then
      let point := value * 64 + (byte.toNat - 0x80)
      match more with
      | 0 => (decodeFrom none rest).map (Char.ofNat point :: ·)
      | more + 1 => decodeFrom (some (point, 0x80, 0xBF, more)) rest
    else none

def stripMark : Bytes → Bytes
  | 0xEF :: 0xBB :: 0xBF :: rest => rest
  | bytes => bytes

def hasMark : Bytes → Bool
  | 0xEF :: 0xBB :: 0xBF :: _ => true
  | _ => false

def decodeText (bytes : Bytes) : Option String :=
  (decodeFrom none (stripMark bytes)).map String.ofList

def Ascii (text : String) : Prop := ∀ c ∈ text.toList, c.toNat < 128

variable {text : String}

theorem ascii_of_all (small : text.toList.all (fun c => decide (c.toNat < 128)) = true) :
    Ascii text := fun c listed => of_decide_eq_true (all_eq_true.mp small c listed)

variable {c : Char}

theorem encodeChar_ascii (ascii : c.toNat < 128) : String.utf8EncodeChar c = [UInt8.ofNat c.toNat] := by
  have small : c.val.toNat ≤ 127 := by simpa using Nat.le_of_lt_succ ascii
  unfold String.utf8EncodeChar
  exact if_pos small

theorem byte_ascii (ascii : c.toNat < 128) : (UInt8.ofNat c.toNat).toNat = c.toNat :=
  UInt8.toNat_ofNat_of_lt' (Nat.lt_trans ascii (by decide))

variable {chars : List Char}

theorem encodeText_ascii (ascii : ∀ c ∈ chars, c.toNat < 128) :
    chars.flatMap String.utf8EncodeChar = chars.map fun c => UInt8.ofNat c.toNat := by
  induction chars with
  | nil => rfl
  | cons c chars ih =>
    rw [flatMap_cons, encodeChar_ascii (ascii c (by simp)),
      ih fun d member => ascii d (by simp [member])]
    rfl

theorem decodeFrom_ascii (ascii : ∀ c ∈ chars, c.toNat < 128) :
    decodeFrom none (chars.map fun c => UInt8.ofNat c.toNat) = some chars := by
  induction chars with
  | nil => rfl
  | cons c chars ih =>
    have small := ascii c (by simp)
    have same := byte_ascii small
    have below : UInt8.ofNat c.toNat < 0x80 := by
      rw [UInt8.lt_iff_toNat_lt, same]
      exact small
    rw [map_cons, decodeFrom, if_pos below, ih fun d member => ascii d (by simp [member]), same]
    simp [Char.ofNat_toNat]

theorem hasMark_ascii (ascii : ∀ c ∈ chars, c.toNat < 128) :
    hasMark (chars.map fun c => UInt8.ofNat c.toNat) = false := by
  cases chars with
  | nil => rfl
  | cons c chars =>
    have small := ascii c (by simp)
    have other : UInt8.ofNat c.toNat ≠ 0xEF := by
      intro same
      have value := congrArg UInt8.toNat same
      rw [byte_ascii small] at value
      simp at value
      omega
    rw [map_cons, hasMark]
    intro rest same
    simp only [List.cons.injEq] at same
    exact absurd same.1 other

variable {bytes : Bytes}

theorem stripMark_of_unmarked (unmarked : hasMark bytes = false) : stripMark bytes = bytes := by
  unfold hasMark at unmarked
  split at unmarked
  · cases unmarked
  · rename_i other
    rw [stripMark]
    exact other

theorem encodeText_map (ascii : Ascii text) :
    encodeText text = text.toList.map fun c => UInt8.ofNat c.toNat := encodeText_ascii ascii

theorem encodeText_length (ascii : Ascii text) : (encodeText text).length = text.length := by
  rw [encodeText, encodeText_ascii ascii, length_map, String.length_toList]

theorem encodeText_unmarked (ascii : Ascii text) : hasMark (encodeText text) = false := by
  rw [encodeText, encodeText_ascii ascii]
  exact hasMark_ascii ascii

theorem decodeText_encodeText (ascii : Ascii text) : decodeText (encodeText text) = some text := by
  rw [decodeText, stripMark_of_unmarked (encodeText_unmarked ascii), encodeText,
    encodeText_ascii ascii, decodeFrom_ascii ascii, Option.map_some, String.ofList_toList]

/-- What a pending sequence can still come to is a character, and none of ASCII's. -/
def Wide : Nat → Nat → UInt8 → UInt8 → Prop
  | 0, value, low, high => ∀ byte, low ≤ byte → byte ≤ high →
      128 ≤ value * 64 + (byte.toNat - 0x80) ∧ (value * 64 + (byte.toNat - 0x80)).isValidChar
  | more + 1, value, low, high => ∀ byte, low ≤ byte → byte ≤ high →
      Wide more (value * 64 + (byte.toNat - 0x80)) 0x80 0xBF

variable {value more : Nat} {low high : UInt8}

theorem leadByte_wide {byte : UInt8}
    (lead : leadByte byte = some (value, low, high, more)) : Wide more value low high := by
  unfold leadByte at lead
  repeat' split at lead
  all_goals first
    | simp only [Option.some.injEq, Prod.mk.injEq] at lead
      obtain ⟨rfl, rfl, rfl, rfl⟩ := lead
    | cases lead
  all_goals
    simp only [Bool.and_eq_true, decide_eq_true_eq, beq_iff_eq, UInt8.le_iff_toNat_le,
      ← UInt8.toNat_inj, UInt8.reduceToNat, Wide, Nat.isValidChar] at *
    omega

theorem point_of_valid {point : Nat} (valid : point.isValidChar) : (Char.ofNat point).toNat = point := by
  rw [Char.ofNat, dif_pos valid]
  rfl

theorem head_wide (wide : Wide more value low high)
    (decoded : decodeFrom (some (value, low, high, more)) bytes = some chars) :
    ∃ c rest, chars = c :: rest ∧ 128 ≤ c.toNat := by
  induction bytes generalizing more value low high with
  | nil => cases decoded
  | cons byte bytes ih =>
    rw [decodeFrom] at decoded
    split at decoded
    · rename_i inside
      simp only [Bool.and_eq_true, decide_eq_true_eq] at inside
      cases more with
      | zero =>
        obtain ⟨large, valid⟩ := wide byte inside.1 inside.2
        obtain ⟨rest, _, rfl⟩ := Option.map_eq_some_iff.mp decoded
        refine ⟨_, rest, rfl, ?_⟩
        rw [point_of_valid valid]
        exact large
      | succ more => exact ih (wide byte inside.1 inside.2) decoded
    · cases decoded

theorem spelled_ascii (decoded : decodeFrom none bytes = some chars) (ascii : ∀ c ∈ chars, c.toNat < 128) :
    bytes = chars.map fun c => UInt8.ofNat c.toNat := by
  induction bytes generalizing chars with
  | nil =>
    cases decoded
    rfl
  | cons byte bytes ih =>
    rw [decodeFrom] at decoded
    split at decoded
    · rename_i below
      obtain ⟨rest, tail, rfl⟩ := Option.map_eq_some_iff.mp decoded
      have small : byte.toNat < 128 := by simpa [UInt8.lt_iff_toNat_lt] using below
      have valid : byte.toNat.isValidChar := Or.inl (by omega)
      rw [map_cons, point_of_valid valid, UInt8.ofNat_toNat, ← ih tail fun c member => ascii c (by simp [member])]
    · split at decoded
      · cases decoded
      · rename_i lead found
        obtain ⟨c, rest, rfl, large⟩ := head_wide (leadByte_wide found) decoded
        have small := ascii c (by simp)
        omega

theorem encodeText_of_decoded (decoded : decodeText bytes = some text)
    (ascii : Ascii text) : encodeText text = stripMark bytes := by
  obtain ⟨chars, found, rfl⟩ := Option.map_eq_some_iff.mp decoded
  rw [Ascii, String.toList_ofList] at ascii
  rw [encodeText, String.toList_ofList, encodeText_ascii ascii, ← spelled_ascii found ascii]

theorem encodeText_decodeText (unmarked : hasMark bytes = false)
    (decoded : decodeText bytes = some text) (ascii : Ascii text) : encodeText text = bytes := by
  rw [encodeText_of_decoded decoded ascii, stripMark_of_unmarked unmarked]

theorem decodeText_of_small (small : ∀ byte ∈ stripMark bytes, byte < 0x80) :
    ∃ text, decodeText bytes = some text ∧ Ascii text ∧ encodeText text = stripMark bytes := by
  have value : ∀ byte ∈ stripMark bytes, (Char.ofNat byte.toNat).toNat = byte.toNat := by
    intro byte member
    have below : byte.toNat < 128 := by simpa [UInt8.lt_iff_toNat_lt] using small byte member
    exact point_of_valid (Or.inl (by omega))
  have ascii : ∀ c ∈ (stripMark bytes).map fun byte => Char.ofNat byte.toNat, c.toNat < 128 := by
    intro c member
    obtain ⟨byte, listed, rfl⟩ := mem_map.mp member
    rw [value byte listed]
    simpa [UInt8.lt_iff_toNat_lt] using small byte listed
  have spelled : ((stripMark bytes).map fun byte => Char.ofNat byte.toNat).map
      (fun c => UInt8.ofNat c.toNat) = stripMark bytes := by
    rw [map_map]
    conv_rhs => rw [← map_id (stripMark bytes)]
    refine map_congr_left fun byte member => ?_
    rw [Function.comp_apply, value byte member, UInt8.ofNat_toNat, id_eq]
  have decoded := decodeFrom_ascii ascii
  rw [spelled] at decoded
  refine ⟨String.ofList _, by rw [decodeText, decoded]; rfl, ?_, ?_⟩
  · rw [Ascii, String.toList_ofList]
    exact ascii
  · rw [encodeText, String.toList_ofList, encodeText_ascii ascii, spelled]

theorem ascii_of_encodeChar (small : ∀ byte ∈ String.utf8EncodeChar c, byte < 0x80) : c.toNat < 128 := by
  by_contra large
  have above : ¬c.val.toNat ≤ 127 := by
    intro below
    exact large (Nat.lt_succ_of_le below)
  unfold String.utf8EncodeChar at small
  dsimp only at small
  rw [if_neg above] at small
  split at small
  all_goals try split at small
  all_goals
    have first := small _ (mem_cons_self ..)
    rw [UInt8.lt_iff_toNat_lt, UInt8.toNat_ofNat'] at first
    change _ < 128 at first
    omega

theorem ascii_of_encodeText (small : ∀ byte ∈ encodeText text, byte < 0x80) : Ascii text := by
  intro c member
  apply ascii_of_encodeChar
  intro byte listed
  exact small byte (mem_flatMap.mpr ⟨c, member, listed⟩)

def hexDigit (digit : Nat) : Char := "0123456789abcdef".toList.getD digit '0'

def hexValue (c : Char) : Option Nat :=
  if '0' ≤ c ∧ c ≤ '9' then some (c.toNat - '0'.toNat)
  else if 'a' ≤ c ∧ c ≤ 'f' then some (c.toNat - 'a'.toNat + 10)
  else none

def bytesToHex (bytes : Bytes) : String :=
  String.ofList ('0' :: 'x' :: bytes.flatMap fun byte =>
    [hexDigit (byte.toNat / 16), hexDigit (byte.toNat % 16)])

def hexPairs : List Char → Option Bytes
  | [] => some []
  | [_] => none
  | high :: low :: rest => do
    let high ← hexValue high
    let low ← hexValue low
    let bytes ← hexPairs rest
    some (UInt8.ofNat (high * 16 + low) :: bytes)

def hexToBytes (text : String) : Option Bytes :=
  match text.toList with
  | '0' :: 'x' :: digits => hexPairs digits
  | _ => none

theorem hexValue_hexDigit : ∀ digit < 16, hexValue (hexDigit digit) = some digit := by
  decide

theorem hexPairs_digits (bytes : Bytes) :
    hexPairs (bytes.flatMap fun byte => [hexDigit (byte.toNat / 16), hexDigit (byte.toNat % 16)]) =
      some bytes := by
  induction bytes with
  | nil => rfl
  | cons byte bytes ih =>
    have high : byte.toNat / 16 < 16 := Nat.div_lt_of_lt_mul byte.toNat_lt
    have low : byte.toNat % 16 < 16 := Nat.mod_lt _ (by decide)
    have whole : byte.toNat / 16 * 16 + byte.toNat % 16 = byte.toNat := Nat.div_add_mod' _ _
    rw [flatMap_cons, cons_append, cons_append, nil_append, hexPairs,
      hexValue_hexDigit _ high, hexValue_hexDigit _ low, ih]
    simp only [Option.bind_eq_bind, Option.bind_some, whole, UInt8.ofNat_toNat]

theorem hexToBytes_ofList (digits : List Char) :
    hexToBytes (String.ofList ('0' :: 'x' :: digits)) = hexPairs digits := by
  rw [hexToBytes, String.toList_ofList]
  rfl

theorem hexToBytes_bytesToHex (bytes : Bytes) : hexToBytes (bytesToHex bytes) = some bytes := by
  rw [bytesToHex, hexToBytes_ofList]
  exact hexPairs_digits bytes

theorem hexDigit_ascii : ∀ digit < 16, (hexDigit digit).toNat < 128 := by decide

theorem bytesToHex_each {p : Char → Prop} (zero : p '0') (x : p 'x') (digits : ∀ digit < 16, p (hexDigit digit))
    (bytes : Bytes) : ∀ c ∈ (bytesToHex bytes).toList, p c := by
  intro c member
  rw [bytesToHex, String.toList_ofList] at member
  rcases mem_cons.mp member with rfl | member
  · exact zero
  · rcases mem_cons.mp member with rfl | member
    · exact x
    · obtain ⟨byte, _, listed⟩ := mem_flatMap.mp member
      have below := byte.toNat_lt
      simp only [mem_cons, not_mem_nil, or_false] at listed
      rcases listed with rfl | rfl
      · exact digits _ (by omega)
      · exact digits _ (Nat.mod_lt _ (by decide))

theorem bytesToHex_ascii (bytes : Bytes) : Ascii (bytesToHex bytes) :=
  bytesToHex_each (by decide) (by decide) hexDigit_ascii bytes

theorem bytesToHex_length (bytes : Bytes) : (bytesToHex bytes).length = 2 * bytes.length + 2 := by
  rw [← String.length_toList, bytesToHex, String.toList_ofList]
  induction bytes with
  | nil => rfl
  | cons byte bytes ih =>
    simp only [flatMap_cons, cons_append, nil_append, length_cons] at ih ⊢
    omega

end Mandate.Lib.Text
