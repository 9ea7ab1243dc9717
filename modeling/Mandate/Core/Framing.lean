import Mandate.Core.Encoding

/-! Each primitive writer frames the value its reader returns. Records compose these
with `Frames.bind`; the sizes bound what an embedding segment can hold. -/
namespace Mandate.Core
open Lib.Wire Lib.Text

theorem frames_u8 (value : Nat) : Frames (writeU8 value) readU8 value 1 := by
  have frames := Frames.uint CoreErrorCode.encodingMalformed 1 (value : Int)
  rw [Int.toNat_natCast] at frames
  exact frames

theorem frames_u16 (value : Nat) : Frames (writeU16 value) readU16 value 2 := by
  have frames := Frames.uint CoreErrorCode.encodingMalformed 2 (value : Int)
  rw [Int.toNat_natCast] at frames
  exact frames

theorem total_u8 {value : Nat} (small : value < 256) : (writeU8 value).Total :=
  Writer.total_uint (w := 1) (v := value) (by omega) (by omega)

theorem total_u16 {value : Nat} (small : value < 65536) : (writeU16 value).Total :=
  Writer.total_uint (w := 2) (v := value) (by omega) (by omega)

theorem frames_u32 (value : Int) : Frames (writeU32 value) readU32 value.toNat 4 :=
  Frames.uint _ 4 value

theorem frames_u64 (value : Int) : Frames (writeU64 value) readU64 value.toNat 8 :=
  Frames.uint _ 8 value

theorem frames_u256 (value : Int) : Frames (writeU256 value) readU256 value.toNat 32 :=
  Frames.uint _ 32 value

variable {width : Nat} {value : Int}

theorem uint_frames_nonneg {read : CoreReader Nat}
    (frames : Frames (Writer.uint width value) read value.toNat width) :
    Frames (Writer.uint width value) ((fun n : Nat => (n : Int)) <$> read) value width := by
  intro bytes written
  have low := (Writer.uint_some.mp written).1
  have last := frames.map (f := fun n : Nat => (n : Int)) bytes written
  rwa [Int.toNat_of_nonneg low] at last

theorem frames_u32_int (value : Int) :
    Frames (writeU32 value) ((fun n : Nat => (n : Int)) <$> readU32) value 4 :=
  uint_frames_nonneg (frames_u32 value)

theorem frames_u64_int (value : Int) :
    Frames (writeU64 value) ((fun n : Nat => (n : Int)) <$> readU64) value 8 :=
  uint_frames_nonneg (frames_u64 value)

theorem frames_u256_int (value : Int) :
    Frames (writeU256 value) ((fun n : Nat => (n : Int)) <$> readU256) value 32 :=
  uint_frames_nonneg (frames_u256 value)

theorem frames_signed (width : Nat) (value : Int) :
    Frames (writeSigned width value) (readSigned width) value width := by
  intro bytes written
  unfold writeSigned at written
  split at written
  · rename_i inside
    have frames := (Frames.uint CoreErrorCode.encodingMalformed width
      (if value < 0 then value + 256 ^ width else value)).last
      (f := fun raw : Nat => if 256 ^ width ≤ 2 * raw then (raw : Int) - 256 ^ width else raw)
    obtain ⟨short, reads⟩ := frames bytes written
    refine ⟨short, ?_⟩
    have same : (if 256 ^ width ≤ 2 * (if value < 0 then value + 256 ^ width else value).toNat then
        ((if value < 0 then value + 256 ^ width else value).toNat : Int) - 256 ^ width
        else (if value < 0 then value + 256 ^ width else value).toNat) = value := by
      have power : ((256 ^ width : Nat) : Int) = (256 : Int) ^ width := by push_cast; rfl
      generalize (256 : Int) ^ width = modulus at *
      generalize (256 : Nat) ^ width = size at *
      split <;> split <;> omega
    rw [same] at reads
    exact reads
  · cases written

theorem frames_i64 (value : Int) : Frames (writeI64 value) readI64 value 8 := frames_signed 8 value

theorem frames_i256 (value : Int) : Frames (writeI256 value) readI256 value 32 :=
  frames_signed 32 value

variable {text : String}

theorem decodeStr_encodeText (ascii : Ascii text) : decodeStr (encodeText text) = .ok text := by
  rw [decodeStr, decodeText_encodeText ascii, Option.elim_some]

theorem frames_chars (ascii : Ascii text) :
    Frames (Writer.raw (encodeText text)) (readChars (encodeText text).length) text text.length := by
  have noted : Reads (Reader.note (hasMark (encodeText text)) : CoreReader Unit) [] () := by
    rw [encodeText_unmarked ascii]
    exact Reads.note
  have decoded : Reads (Reader.ofExcept (decodeStr (encodeText text)) : CoreReader String) [] text := by
    rw [decodeStr_encodeText ascii]
    exact Reads.pure text
  have after := noted.bind (k := fun _ => Reader.ofExcept (decodeStr (encodeText text))) decoded
  exact ((Frames.raw _ (encodeText text)).check after).mono (encodeText_length ascii).le

theorem frames_str (ascii : Ascii text) : Frames (writeStr text) readStr text (2 + text.length) := by
  intro bytes written
  rw [writeStr] at written
  by_cases long : 1024 < (encodeText text).length
  · rw [if_pos long] at written
    cases written
  · rw [if_neg long] at written
    exact ((frames_u16 _).bind (frames_chars ascii)) bytes written

theorem total_str (ascii : Ascii text) (short : text.length ≤ 1024) : (writeStr text).Total := by
  have length := encodeText_length ascii
  rw [writeStr, if_neg (by omega)]
  exact Writer.total_append (total_u16 (by omega)) (Writer.total_raw _)

theorem frames_identifier (id : Identifier) : Frames (writeStr id.1) readStr id.1 130 :=
  (frames_str (identifier_ascii id)).mono (by have := identifier_length id; simp [IDENTIFIER_MAX_LENGTH] at this; omega)

@[simp] theorem total_identifier (id : Identifier) : (writeStr id.1).Total :=
  total_str (identifier_ascii id) (by have := identifier_length id; simp [IDENTIFIER_MAX_LENGTH] at this; omega)

theorem frames_digest (digest : Digest32) : Frames (writeDigest digest) readDigest digest.toHex 32 := by
  have raw := Frames.raw CoreErrorCode.encodingMalformed (Digest32.bytes digest)
  have width : (Digest32.bytes digest).length = 32 := beBytes_length _ _
  rw [width] at raw
  exact raw.last

@[simp] theorem total_digest (digest : Digest32) : (writeDigest digest).Total := Writer.total_raw _

theorem frames_flag (present : Bool) : Frames (writeFlag present) readFlag present 1 := by
  refine (frames_u8 _).ofExcept ?_
  cases present <;> rfl

@[simp] theorem total_flag (present : Bool) : (writeFlag present).Total := by
  cases present
  · exact total_u8 (by decide)
  · exact total_u8 (by decide)

theorem frames_opaqueBytes (bytes : Bytes) :
    Frames (writeOpaqueBytes bytes) readOpaqueBytes (bytesToHex bytes) (2 + bytes.length) :=
  (frames_u16 bytes.length).bind (Frames.raw _ bytes).last

theorem frames_code {α : Type} (codes : WireCodes α) (value : α) :
    Frames (writeCode codes value) (readCode codes) value 1 := by
  refine (frames_u8 _).ofExcept ?_
  rw [codes.unique]
  rfl

@[simp] theorem total_code {α : Type} (codes : WireCodes α) (value : α) : (writeCode codes value).Total :=
  total_u8 (codes.width value)

theorem frames_nullable {α β : Type} {write : α → Writer} {read : CoreReader β} {v : α → β}
    {size : Nat} (each : ∀ item, Frames (write item) read (v item) size) (item : Option α) :
    Frames (writeNullable write item) (readNullable read) (item.map v) (1 + size) := by
  cases item with
  | none =>
    refine Frames.mono ?_ (Nat.le_add_right 1 size)
    have absent := frames_flag false
    intro bytes written
    obtain ⟨short, reads⟩ := absent bytes written
    have step := reads.bind (k := fun present => if present then some <$> read else pure none)
      (Reads.pure none)
    rw [List.append_nil] at step
    exact ⟨short, step⟩
  | some item =>
    refine (frames_flag true).bind ?_
    exact (each item).map

@[simp] theorem total_nullable {α : Type} {write : α → Writer} (all : ∀ item, (write item).Total)
    (item : Option α) : (writeNullable write item).Total := by
  cases item with
  | none => exact total_flag false
  | some item => exact Writer.total_append (total_flag true) (all item)

variable {max : Nat}

theorem frames_list {α β : Type} {write : α → Writer} {read : CoreReader β} {v : α → β}
    {n : α → Nat} {items : List α} (bound : items.length ≤ max)
    (each : ∀ item ∈ items, Frames (write item) read (v item) (n item)) :
    Frames (writeList write items) (readList max read false) (items.map v) (2 + (items.map n).sum) := by
  refine (frames_u16 items.length).bind ?_
  rw [if_neg (by omega)]
  refine Frames.items _ items each ?_ none (by simp)
  exact List.pairwise_of_forall (fun _ _ _ _ _ _ => rfl)

theorem frames_set {α β : Type} {write : α → Writer} {read : CoreReader β} {v : α → β}
    {n : α → Nat} {items : List α} (bound : items.length ≤ max)
    (each : ∀ item ∈ items, Frames (write item) read (v item) (n item)) (ascending : Ascending write items) :
    Frames (writeList write items) (readList max read true) (items.map v) (2 + (items.map n).sum) := by
  refine (frames_u16 items.length).bind ?_
  rw [if_neg (by omega)]
  refine Frames.items _ items each ?_ none (by simp)
  refine ascending.imp fun {a b} below before after hb ha => ?_
  simp only [encodeWith, hb, ha, Option.getD_some] at below
  simp [below]

theorem total_list {α : Type} {write : α → Writer} {items : List α} (short : items.length < 65536)
    (all : ∀ item ∈ items, (write item).Total) : (writeList write items).Total :=
  Writer.total_append (total_u16 short) (Writer.total_each all)

theorem total_signed (low : -(256 ^ width : Int) ≤ 2 * value)
    (high : 2 * value < 256 ^ width) : (writeSigned width value).Total := by
  rw [writeSigned, if_pos ⟨low, high⟩]
  have positive : (0 : Int) < 256 ^ width := Int.pow_pos (by decide)
  exact Writer.total_uint (by split <;> omega) (by split <;> omega)

@[simp] theorem total_i64 (value : UnixSeconds) : (writeI64 value.1).Total := by
  have bound := value.2
  simp only [INT64_MIN, INT64_MAX] at bound
  exact total_signed (by norm_num; omega) (by norm_num; omega)

@[simp] theorem total_u64 (value : Uint64) : (writeU64 value.1).Total := by
  have bound := value.2
  simp only [UINT64_MAX] at bound
  exact Writer.total_uint bound.1 (by norm_num at bound ⊢; omega)

theorem frames_tag {tag : String} (ascii : Ascii tag) :
    Frames (taggedWriter tag) (readTag tag) () (4 + tag.length) := by
  refine ((frames_str ascii).bind ?_).mono (by omega : 2 + tag.length + 2 ≤ _)
  rw [if_neg (by simp)]
  have version := frames_u16 CORE_SCHEMA_VERSION
  intro bytes written
  obtain ⟨short, reads⟩ := version bytes written
  have step := reads.bind (k := fun version => if version ≠ CORE_SCHEMA_VERSION then
    (fun cursor => .error (.encodingUnsupportedVersion, cursor.offset - 2) : CoreReader Unit)
    else pure ()) (Reads.pure ())
  rw [List.append_nil] at step
  exact ⟨short, step⟩

end Mandate.Core
