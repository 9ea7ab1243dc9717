import Mandate.Lib.Spelling
import Mandate.Core.TermFraming

/-! What the Core readers accept: bytes in which no text carries a mark are, field by field,
the ones the writers spell the validated value with. -/
namespace Mandate.Core
open Lib.Wire Lib.Text List

def Spells {ι α : Type} (read : CoreReader ι) (validate : ι → String → CoreResult α)
    (write : α → Writer) : Prop :=
  Consumes read fun used input => ∀ path value, validate input path = .ok value → write value = some used

theorem written_append {first second : Writer} {before after : Bytes} (head : first = some before)
    (tail : second = some after) : first ++ second = some (before ++ after) :=
  Writer.append_some.mpr ⟨before, after, head, tail, rfl⟩

variable {width : Nat}

theorem written_uint {value : Nat} (small : value < 256 ^ width) :
    Writer.uint width (value : Int) = some (beBytes width value) :=
  Writer.uint_some.mpr ⟨by omega, by exact_mod_cast small, by rw [Int.toNat_natCast]⟩

theorem consumes_uint (width : Nat) :
    Consumes (Reader.uint CoreErrorCode.encodingMalformed width) fun used value =>
      Writer.uint width (value : Int) = some used := by
  refine (Consumes.uint _ width).mono ?_
  rintro _ value ⟨small, rfl⟩
  exact written_uint small

theorem consumes_u8 : Consumes readU8 fun used value => writeU8 value = some used := consumes_uint 1

theorem consumes_u16 : Consumes readU16 fun used value => writeU16 value = some used := consumes_uint 2

theorem consumes_u32 : Consumes readU32 fun used value => writeU32 value = some used := consumes_uint 4

theorem consumes_int {read : CoreReader Nat}
    (consumes : Consumes read fun used value => Writer.uint width (value : Int) = some used) :
    Consumes ((fun n : Nat => (n : Int)) <$> read) fun used value =>
      Writer.uint width value = some used := by
  refine consumes.map.mono ?_
  rintro used _ ⟨written⟩
  exact written

theorem consumes_u32_int : Consumes ((fun n : Nat => (n : Int)) <$> readU32) fun used value =>
    writeU32 value = some used := consumes_int (consumes_uint 4)

theorem consumes_u64_int : Consumes ((fun n : Nat => (n : Int)) <$> readU64) fun used value =>
    writeU64 value = some used := consumes_int (consumes_uint 8)

theorem consumes_u256_int : Consumes ((fun n : Nat => (n : Int)) <$> readU256) fun used value =>
    writeU256 value = some used := consumes_int (consumes_uint 32)

theorem consumes_signed (width : Nat) : Consumes (readSigned width) fun used value =>
    writeSigned width value = some used := by
  refine (Consumes.uint _ width).last.mono ?_
  rintro _ _ @⟨raw, _, small, rfl⟩
  have power : ((256 ^ width : Nat) : Int) = (256 : Int) ^ width := by push_cast; rfl
  have inside : -(256 ^ width : Int) ≤ 2 * (if 256 ^ width ≤ 2 * raw then (raw : Int) - 256 ^ width else raw) ∧
      2 * (if 256 ^ width ≤ 2 * raw then (raw : Int) - 256 ^ width else raw) < (256 : Int) ^ width := by
    generalize (256 : Int) ^ width = modulus at *
    generalize (256 : Nat) ^ width = size at *
    split <;> omega
  have same : (if (if 256 ^ width ≤ 2 * raw then (raw : Int) - 256 ^ width else raw) < 0 then
      (if 256 ^ width ≤ 2 * raw then (raw : Int) - 256 ^ width else raw) + 256 ^ width
      else (if 256 ^ width ≤ 2 * raw then (raw : Int) - 256 ^ width else raw)) = (raw : Int) := by
    generalize (256 : Int) ^ width = modulus at *
    generalize (256 : Nat) ^ width = size at *
    split <;> split <;> omega
  rw [writeSigned, if_pos inside, same]
  exact written_uint small

theorem consumes_i64 : Consumes readI64 fun used value => writeI64 value = some used := consumes_signed 8

theorem consumes_i256 : Consumes readI256 fun used value => writeI256 value = some used :=
  consumes_signed 32

theorem consumes_chars (length : Nat) : Consumes (readChars length) fun used text =>
    used.length = length ∧ hasMark used = false ∧ decodeText used = some text := by
  refine ((Consumes.raw _ length).bind fun bytes => (Consumes.note (hasMark bytes)).bind fun _ =>
    Consumes.ofExcept (decodeStr bytes)).mono ?_
  rintro _ text @⟨bytes, _, _, _, ⟨rfl, taken⟩, ⟨⟨rfl, unmarked⟩, rfl, decoded⟩⟩
  simp only [append_nil]
  refine ⟨taken, unmarked, ?_⟩
  rw [decodeStr] at decoded
  cases found : decodeText bytes with
  | none =>
    rw [found] at decoded
    cases decoded
  | some other =>
    rw [found] at decoded
    cases decoded
    rfl

theorem consumes_str : Consumes readStr fun used text =>
    Ascii text → text.length ≤ 1024 → writeStr text = some used := by
  refine (consumes_u16.bind fun length => consumes_chars length).mono ?_
  rintro _ text ⟨header, taken, unmarked, decoded⟩ ascii short
  have spelled := encodeText_decodeText unmarked decoded ascii
  have size := encodeText_length ascii
  rw [writeStr, spelled] at *
  rw [if_neg (by omega), taken]
  exact written_append header rfl

variable {path : String} {raw : String}

theorem parseIdentifierAs_ok {id : Identifier} : parseIdentifierAs raw path = .ok id ↔ id.1 = raw := by
  unfold parseIdentifierAs
  split
  · rename_i valid
    simp only [Except.ok.injEq, Subtype.ext_iff]
    exact eq_comm
  · rename_i invalid
    simp only [fail, reduceCtorEq, false_iff]
    rintro rfl
    exact invalid id.2

theorem spells_identifier : Spells readStr parseIdentifierAs fun id => writeStr id.1 := by
  refine consumes_str.mono ?_
  intro used text spelled path id valid
  obtain rfl := parseIdentifierAs_ok.mp valid
  have length := identifier_length id
  exact spelled (identifier_ascii id) (by simp only [IDENTIFIER_MAX_LENGTH] at length; omega)

theorem bytes_ofBytes {bytes : Bytes} (width : bytes.length = 32) :
    Digest32.bytes (Digest32.ofBytes bytes) = bytes := by
  have small := beNat_lt bytes
  rw [width] at small
  have value : (Digest32.ofBytes bytes).toNat = beNat bytes := by
    rw [Digest32.ofBytes, BitVec.toNat_ofNat]
    exact Nat.mod_eq_of_lt small
  rw [Digest32.bytes, value, ← width, beBytes_beNat]

theorem spells_digest : Spells readDigest parseDigest writeDigest := by
  refine (Consumes.raw _ 32).last.mono ?_
  rintro _ _ ⟨rfl, width⟩ path digest valid
  simp only [parseDigest, hexToBytes_bytesToHex, width, if_true] at valid
  cases valid
  rw [writeDigest, bytes_ofBytes width]
  rfl

theorem parseNonZeroDigest_ok {digest : NonZeroDigest}
    (valid : parseNonZeroDigest raw path = .ok digest) : parseDigest raw path = .ok digest.1 := by
  simp only [parseNonZeroDigest, except_bind_ok, guard_ok] at valid
  obtain ⟨found, parsed, nonzero, same⟩ := valid
  cases same
  exact parsed

theorem spells_nonZeroDigest : Spells readDigest parseNonZeroDigest fun digest => writeDigest digest.1 := by
  refine spells_digest.mono ?_
  intro used text spelled path digest valid
  exact spelled path digest.1 (parseNonZeroDigest_ok valid)

theorem spells_opaqueBytes (max : Nat) :
    Spells readOpaqueBytes (fun text path => parseOpaqueBytes text max path)
      fun bytes => writeOpaqueBytes bytes.1 := by
  refine (consumes_u16.bind fun length => (Consumes.raw _ length).last).mono ?_
  rintro _ _ ⟨written, rfl, rfl⟩ path value valid
  simp only [parseOpaqueBytes, hexToBytes_bytesToHex, unless_ok, guard_ok] at valid
  obtain ⟨_, short, same⟩ := valid
  cases same
  exact written_append written rfl

theorem consumes_flag : Consumes readFlag fun used present => writeFlag present = some used := by
  refine consumes_u8.checked.mono ?_
  rintro used present ⟨value, flag, written⟩
  split at flag
  · cases flag
    exact written
  · cases flag
    exact written
  · cases flag

theorem consumes_code {α : Type} (codes : WireCodes α) : Consumes (readCode codes) fun used key =>
    writeCode codes key = some used := by
  refine consumes_u8.checked.mono ?_
  rintro used key ⟨code, found, written⟩
  cases listed : codes.keys.find? fun key => codes.code key == code with
  | none =>
    rw [listed] at found
    cases found
  | some other =>
    rw [listed] at found
    cases found
    have same : codes.code key = code := by simpa using find?_some listed
    rw [writeCode, same]
    exact written

theorem consumes_nullable {α : Type} {read : CoreReader α} {p : Spelling α}
    (consumes : Consumes read p) : Consumes (readNullable read) fun used item =>
      match item with
      | none => writeFlag false = some used
      | some value => ∃ flag after, used = flag ++ after ∧ writeFlag true = some flag ∧ p after value := by
  have body : ∀ present : Bool, Consumes (if present then some <$> read else pure none)
      fun used item => match item with
        | none => present = false ∧ used = []
        | some value => present = true ∧ p used value := by
    intro present
    cases present with
    | false =>
      refine (Consumes.pure none).mono ?_
      rintro _ _ ⟨rfl, rfl⟩
      exact ⟨rfl, rfl⟩
    | true =>
      refine consumes.map.mono ?_
      rintro _ _ ⟨spelled⟩
      exact ⟨rfl, spelled⟩
  refine (consumes_flag.bind body).mono ?_
  rintro _ item @⟨_, _, before, after, flag, rest⟩
  cases item with
  | none =>
    obtain ⟨rfl, rfl⟩ := rest
    rw [append_nil]
    exact flag
  | some value =>
    obtain ⟨rfl, spelled⟩ := rest
    exact ⟨before, after, rfl, flag, spelled⟩

theorem spells_nullable {ι α : Type} {read : CoreReader ι} {validate : ι → String → CoreResult α}
    {write : α → Writer} (spells : Spells read validate write) :
    Spells (readNullable read) (fun input path => validateNullable validate path input)
      (writeNullable write) := by
  refine (consumes_nullable spells).mono ?_
  intro used input spelled path value valid
  cases input with
  | none =>
    cases valid
    exact spelled
  | some input =>
    simp only [validateNullable, except_map_ok] at valid
    obtain ⟨item, validated, rfl⟩ := valid
    obtain ⟨flag, after, rfl, present, rest⟩ := spelled
    exact written_append present (rest path item validated)

def Follows (set : Bool) (before after : Bytes) : Bool := !set || compareBytes before after == .lt

theorem consumes_list {α : Type} {read : CoreReader α} {p : Spelling α} (max : Nat)
    (consumes : Consumes read p) (set : Bool) : Consumes (readList max read set) fun used items =>
      ∃ header body, used = header ++ body ∧ writeU16 items.length = some header ∧
        Listed (Follows set) p none body items := by
  have body : ∀ count : Nat, Consumes (if max < count then Reader.fail .collectionTooLarge
        else Reader.items (Follows set) CoreErrorCode.encodingNonCanonical read count none)
      fun used items => items.length = count ∧ Listed (Follows set) p none used items := by
    intro count
    split
    · exact (Consumes.fail _).mono fun _ _ impossible => impossible.elim
    · exact consumes.items count none
  refine (consumes_u16.bind body).mono ?_
  rintro _ items @⟨_, _, header, after, written, rfl, listed⟩
  exact ⟨header, after, rfl, written, listed⟩

theorem validateEach_ok {ι α : Type} {validate : ι → String → CoreResult α}
    {inputs : List ι} {index : Nat} {items : {items : List α // items.length = inputs.length}}
    (valid : validateEach validate path inputs index = .ok items) :
    List.Forall₂ (fun input item => ∃ path, validate input path = .ok item) inputs items.1 := by
  induction inputs generalizing index with
  | nil =>
    cases valid
    exact .nil
  | cons input inputs ih =>
    simp only [validateEach, except_bind_ok] at valid
    obtain ⟨item, here, rest, tail, same⟩ := valid
    cases same
    exact .cons ⟨_, here⟩ (ih tail)

theorem ascending_of_listed {ι α : Type} {p : Spelling ι} {value : ι → α → Prop} {write : α → Writer}
    (each : ∀ used input item, p used input → value input item → write item = some used)
    {previous : Option Bytes} {used : Bytes} {inputs : List ι}
    (listed : Listed (Follows true) p previous used inputs) {items : List α}
    (valued : List.Forall₂ value inputs items) : Ascending write items ∧ ∀ earlier ∈ previous, ∀ item ∈ items,
      compareBytes earlier (encodeWith write item) = .lt := by
  induction listed generalizing items with
  | nil =>
    cases valued
    exact ⟨List.Pairwise.nil, by simp⟩
  | cons follows spelled rest ih =>
    cases valued with
    | cons here valued =>
      rename_i head tail
      obtain ⟨ascending, above⟩ := ih valued
      have own := each _ _ _ spelled here
      refine ⟨pairwise_cons.mpr ⟨?_, ascending⟩, ?_⟩
      · intro item member
        rw [encodeWith, own, Option.getD_some]
        exact above _ rfl item member
      · intro earlier known item member
        cases known
        simp only [Option.all_some, Follows, Bool.not_true, Bool.false_or, beq_iff_eq] at follows
        rcases mem_cons.mp member with rfl | later
        · rw [encodeWith, own, Option.getD_some]
          exact follows
        · exact @Std.TransCmp.lt_trans _ compare _ _ _ _ follows (above _ rfl item later)

theorem canonicalSet_ok {α : Type} {write : α → Writer} {max : Nat} {items : List α}
    {bounded : items.length ≤ max} {set : CanonicalSet write max}
    (valid : canonicalSet write items bounded path = .ok set) : set.members = sortEncoded write items := by
  unfold canonicalSet at valid
  obtain ⟨_, same⟩ := guard_ok.mp valid
  cases same
  rfl

theorem spells_members {ι α : Type} {read : CoreReader ι} {validate : ι → String → CoreResult α}
    {write : α → Writer} (max : Nat) (spells : Spells read validate write) :
    Spells (readList max read true) (validateMembers write max validate)
      fun set => writeList write set.members := by
  refine (consumes_list max spells true).mono ?_
  rintro _ inputs ⟨header, body, rfl, counted, listed⟩ path set valid
  simp only [validateMembers, guard_ok, except_bind_ok] at valid
  obtain ⟨_, items, validated, canonical⟩ := valid
  have valued := validateEach_ok validated
  have each : ∀ used input item, (∀ path value, validate input path = .ok value →
      write value = some used) → (∃ path, validate input path = .ok item) → write item = some used := by
    rintro used input item spelled ⟨path, here⟩
    exact spelled path item here
  have sorted := sortEncoded_ascending (ascending_of_listed each listed valued).1
  change writeList write set.members = _
  rw [canonicalSet_ok canonical, sorted, writeList, items.2]
  exact written_append counted (listed.written each valued)

end Mandate.Core
