import Mandate.Gate.MandateCodec

/-! What the word-at-a-time tests decide: an identifier's bytes are those of the charset, its
ends are no separators, and two strings compare by length and then by bytes. -/
namespace Mandate.Gate
open Core Kernel Lib.Wire Lib.Text Lib.Lanes List

def separatorByte (byte : UInt8) : Bool :=
  byte == 0x2d || byte == 0x2e || byte == 0x2f || byte == 0x3a || byte == 0x5f

def charsetByte (byte : UInt8) : Bool :=
  (0x2d ≤ byte && byte ≤ 0x3a) || (0x41 ≤ byte && byte ≤ 0x5a) || byte == 0x5f || (0x61 ≤ byte && byte ≤ 0x7a)

def identifierBytes (bytes : Bytes) : Bool :=
  bytes.length ≤ IDENTIFIER_MAX_LENGTH && bytes.all charsetByte &&
  match bytes.head?, bytes.getLast? with
  | some first, some last => !separatorByte first && !separatorByte last
  | _, _ => false

theorem every_byte {p : UInt8 → Prop} (all : ∀ value < 256, p (UInt8.ofNat value))
    (byte : UInt8) : p byte := by
  have here := all byte.toNat byte.toNat_lt
  rwa [UInt8.ofNat_toNat] at here

private def outsideByte (byte : UInt8) : UInt8 :=
  let v := byte &&& 0x7f
  let inRange := ((v + 0x53) &&& ~~~(v + 0x45)) ||| ((v + 0x3f) &&& ~~~(v + 0x25)) |||
    ((v + 0x21) &&& ~~~(v + 0x20)) ||| ((v + 0x1f) &&& ~~~(v + 0x05))
  ~~~(inRange &&& ~~~byte) &&& 0x80

theorem outsideByte_charset (byte : UInt8) : outsideByte byte = if charsetByte byte then 0 else 0x80 := by
  refine every_byte (p := fun byte => outsideByte byte = if charsetByte byte then 0 else 0x80) ?_ byte
  decide +kernel

theorem low_bits (byte : UInt8) : (byte &&& 0x7f).toNat ≤ 0x7f := by
  rw [UInt8.toNat_and]
  exact Nat.and_le_right

theorem repeated_lanes (byte : UInt8) : BitVec.ofNat 256 byte.toNat * LANES = ofLanes fun _ => byte := by
  have ones : LANES = ofLanes fun _ => 1 := by decide
  have product := mul_lanes (fun _ => 1) byte fun _ _ => by simpa using byte.toNat_lt
  rw [BitVec.mul_comm, ones, product]
  simp only [UInt8.one_mul]

theorem sum_lanes (lane : Nat → UInt8) (addend : UInt8) (small : addend.toNat ≤ 0x53) :
    ofLanes (fun j => lane j &&& 0x7f) + BitVec.ofNat 256 addend.toNat * LANES =
      ofLanes fun j => (lane j &&& 0x7f) + addend := by
  rw [repeated_lanes]
  refine add_lanes _ _ ?_
  intro j _
  have low := low_bits (lane j)
  omega

theorem outsideCharset_lanes (lane : Nat → UInt8) :
    outsideCharset (ofLanes lane) = ofLanes fun j => if charsetByte (lane j) then 0 else 0x80 := by
  have low : ofLanes lane &&& LANE_LOW_BITS = ofLanes fun j => lane j &&& 0x7f := by
    have bits : LANE_LOW_BITS = ofLanes fun _ => 0x7f := repeated_lanes 0x7f
    rw [bits, and_lanes]
  have high : LANE_HIGH_BITS = ofLanes fun _ => 0x80 := repeated_lanes 0x80
  have sums (literal : Word) (addend : UInt8) (same : literal = BitVec.ofNat 256 addend.toNat)
      (small : addend.toNat ≤ 0x53) : ofLanes (fun j => lane j &&& 0x7f) + literal * LANES =
        ofLanes fun j => (lane j &&& 0x7f) + addend := by
    rw [same]
    exact sum_lanes lane addend small
  have whole : outsideCharset (ofLanes lane) = ofLanes fun j => outsideByte (lane j) := by
    simp only [outsideCharset, low, high, sums 0x53 0x53 rfl (by decide), sums 0x45 0x45 rfl (by decide),
      sums 0x3f 0x3f rfl (by decide), sums 0x25 0x25 rfl (by decide), sums 0x21 0x21 rfl (by decide),
      sums 0x20 0x20 rfl (by decide), sums 0x1f 0x1f rfl (by decide), sums 0x05 0x05 rfl (by decide),
      not_lanes, and_lanes, or_lanes, outsideByte]
  rw [whole]
  exact ofLanes_congr fun j _ => outsideByte_charset (lane j)

theorem leadingLanes_lanes (count : Nat) :
    leadingLanes count = ofLanes fun j => if j < count then 0xff else 0 := by
  apply BitVec.eq_of_getLsbD_eq
  intro i inside
  have low : i % 8 < 8 := Nat.mod_lt i (by decide)
  have lane : (if 31 - i / 8 < count then (0xff : UInt8) else 0).toNat.testBit (i % 8) =
      decide (31 - i / 8 < count) := by
    have ones : (0xff : UInt8).toNat.testBit (i % 8) = true := by
      generalize i % 8 = bit at low
      interval_cases bit <;> rfl
    split
    · rename_i kept
      rw [ones, decide_eq_true kept]
    · rename_i cleared
      rw [decide_eq_false cleared]
      exact Nat.zero_testBit _
  rw [ofLanes_getLsbD _ inside, lane, leadingLanes, BitVec.getLsbD_not, BitVec.getLsbD_ushiftRight,
    BitVec.getLsbD_allOnes]
  simp only [inside, decide_true, Bool.true_and]
  rw [Bool.eq_iff_iff]
  simp only [Bool.not_eq_true', decide_eq_false_iff_not, decide_eq_true_eq]
  omega

theorem kept_lanes (lane : Nat → UInt8) (count : Nat) :
    ofLanes lane &&& leadingLanes count = ofLanes fun j => if j < count then lane j else 0 := by
  rw [leadingLanes_lanes, and_lanes]
  refine ofLanes_congr ?_
  intro j _
  have ones : ∀ byte : UInt8, byte &&& 0xff = byte := every_byte (by decide +kernel)
  split
  · exact ones (lane j)
  · exact UInt8.and_zero

theorem zero_lanes : (0 : Word) = ofLanes fun _ => 0 := by decide

theorem foldl_or_zero {α : Type} (items : List α) (f : α → Word) (seed : Word) :
    items.foldl (fun word item => word ||| f item) seed = 0 ↔ seed = 0 ∧ ∀ item ∈ items, f item = 0 := by
  induction items generalizing seed with
  | nil => simp
  | cons item items ih =>
    have parts : seed ||| f item = 0 ↔ seed = 0 ∧ f item = 0 := BitVec.or_eq_zero_iff
    rw [foldl_cons, ih, parts, forall_mem_cons, and_assoc]

private theorem covered {property : Nat → Prop} {length : Nat} :
    (∀ i ∈ wordOffsets length, ∀ j < 32, j < length - i → property (i + j)) ↔
      ∀ index < length, property index := by
  constructor
  · intro all index inside
    have member : 32 * (index / 32) ∈ wordOffsets length :=
      mem_map.mpr ⟨index / 32, mem_range.mpr (by omega), rfl⟩
    have here := all _ member (index % 32) (Nat.mod_lt _ (by decide)) (by omega)
    rwa [Nat.div_add_mod] at here
  · intro all i _ j _ inside
    exact all (i + j) (by omega)

variable {offset : Nat}

theorem load_inside (s : Located) {j : Nat} (inside : offset + j < s.bytes.length) :
    (s.bytes ++ s.following).getD (offset + j) 0 = s.bytes.getD (offset + j) 0 := by
  simp [getD_eq_getElem?_getD, getElem?_append_left inside]

theorem outsideLanes_zero (s : Located) : outsideLanes s = 0 ↔ s.bytes.all charsetByte = true := by
  have bytes : s.bytes.all charsetByte = true ↔
      ∀ index < s.bytes.length, charsetByte (s.bytes.getD index 0) = true := by
    rw [all_eq_true, forall_mem_iff_forall_getElem]
    refine forall_congr' fun index => forall_congr' fun inside => ?_
    rw [getD_eq_getElem?_getD, getElem?_eq_getElem inside, Option.getD_some]
  rw [outsideLanes, foldl_or_zero, bytes, ← covered]
  simp only [true_and]
  refine forall_congr' fun i => forall_congr' fun _ => ?_
  rw [Located.load, outsideCharset_lanes, kept_lanes, zero_lanes, ofLanes_inj]
  refine forall_congr' fun j => forall_congr' fun _ => ?_
  by_cases kept : j < s.bytes.length - i
  · rw [load_inside s (by omega)]
    simp only [kept, if_true, forall_const]
    cases charsetByte (s.bytes.getD (i + j) 0) <;> decide
  · simp [kept]

theorem isSeparator_eq (byte : UInt8) : isSeparator byte = separatorByte byte := by
  refine every_byte (p := fun byte => isSeparator byte = separatorByte byte) ?_ byte
  decide +kernel

theorem load_lane (s : Located) (inside : offset < s.bytes.length) :
    laneOf (s.load offset) 0 = s.bytes.getD offset 0 := by
  rw [Located.load, laneOf_ofLanes _ (by decide), load_inside s (by omega), Nat.add_zero]

theorem isIdentifierBytes_eq (s : Located) : isIdentifierBytes s = identifierBytes s.bytes := by
  unfold isIdentifierBytes identifierBytes
  dsimp only
  cases contents : s.bytes with
  | nil => simp
  | cons byte bytes =>
    have charset := outsideLanes_zero s
    rw [contents] at charset
    have zero : (outsideLanes s == 0) = (byte :: bytes).all charsetByte := by
      rw [Bool.eq_iff_iff, beq_iff_eq, charset]
    have last : (byte :: bytes).getLast? = some ((byte :: bytes).getD ((byte :: bytes).length - 1) 0) := by
      rw [getLast?_eq_getElem?, getD_eq_getElem?_getD]
      simp
    rw [zero, last, head?_cons, isSeparator_eq, isSeparator_eq, getD_cons_zero]
    by_cases short : (byte :: bytes).length ≤ IDENTIFIER_MAX_LENGTH
    · have fits : ¬((byte :: bytes).length = 0 ∨ IDENTIFIER_MAX_LENGTH < (byte :: bytes).length) := by
        rw [length_cons] at short ⊢
        omega
      rw [if_neg fits]
      simp only [short, decide_true, Bool.true_and]
      cases separatorByte byte <;>
        cases separatorByte ((byte :: bytes).getD ((byte :: bytes).length - 1) 0) <;> simp
    · have long : (byte :: bytes).length = 0 ∨ IDENTIFIER_MAX_LENGTH < (byte :: bytes).length := by omega
      rw [if_pos long, decide_eq_false short]
      rfl

theorem isIdentifier_eq (s : Located) : isIdentifier s = identifierBytes s.bytes := by
  rw [← isIdentifierBytes_eq]
  unfold isIdentifier isIdentifierBytes
  dsimp only
  split
  · rfl
  · rename_i fits
    rw [load_lane s (by omega), load_lane s (by omega)]

theorem compare_append {first first' second second' : Bytes} (sized : first.length = first'.length) :
    compare (first ++ second) (first' ++ second') = (compare first first').then (compare second second') := by
  induction first generalizing first' with
  | nil =>
    rw [eq_nil_of_length_eq_zero sized.symm]
    rfl
  | cons byte first ih =>
    cases first' with
    | nil => cases sized
    | cons byte' first' =>
      rw [cons_append, cons_append, List.compare_cons_cons, List.compare_cons_cons,
        ih (by simpa using sized), Ordering.then_assoc]

theorem kept_chunk (s : Located) (offset : Nat) :
    (List.range 32).map (fun j => if j < s.bytes.length - offset then
        (s.bytes ++ s.following).getD (offset + j) 0 else 0) =
      (s.bytes.drop offset).take 32 ++ List.replicate (32 - (s.bytes.length - offset)) 0 := by
  apply ext_getElem
  · simp only [length_map, length_range, length_append, length_take, length_drop,
      length_replicate]
    omega
  · intro j inside _
    rw [length_map, length_range] at inside
    rw [getElem_map, getElem_range, getElem_append]
    simp only [length_take, length_drop]
    by_cases kept : j < s.bytes.length - offset
    · rw [if_pos kept, dif_pos (by omega), load_inside s (by omega), getElem_take, getElem_drop,
        getD_eq_getElem?_getD, getElem?_eq_getElem (by omega), Option.getD_some]
    · rw [if_neg kept, dif_neg (by omega), getElem_replicate]

theorem kept_toNat (s : Located) (offset : Nat) :
    (s.load offset &&& leadingLanes (s.bytes.length - offset)).toNat =
      beNat ((s.bytes.drop offset).take 32 ++ List.replicate (32 - (s.bytes.length - offset)) 0) := by
  rw [Located.load, kept_lanes, ofLanes_toNat, kept_chunk]

private theorem compare_words (a b : Located) (sized : a.bytes.length = b.bytes.length) (offset : Nat) :
    compare (a.load offset &&& leadingLanes (a.bytes.length - offset)).toNat
        (b.load offset &&& leadingLanes (a.bytes.length - offset)).toNat =
      compare ((a.bytes.drop offset).take 32) ((b.bytes.drop offset).take 32) := by
  have chunked : ((a.bytes.drop offset).take 32).length = ((b.bytes.drop offset).take 32).length := by
    simp only [length_take, length_drop, sized]
  have second := kept_toNat b offset
  rw [← sized] at second
  rw [kept_toNat, second, compare_beNat (by simp only [length_append, chunked]), compare_append chunked,
    Std.compare_eq_iff_eq.mpr (rfl : List.replicate (32 - (a.bytes.length - offset)) (0 : UInt8) = _),
    Ordering.then_eq]

theorem compareWords_from (a b : Located) (sized : a.bytes.length = b.bytes.length) (start count : Nat)
    (covers : (a.bytes.length + 31) / 32 ≤ start + count) :
    compareWords a b ((List.range' start count).map (32 * ·)) =
      compare (a.bytes.drop (32 * start)) (b.bytes.drop (32 * start)) := by
  induction count generalizing start with
  | zero =>
    have done : a.bytes.length ≤ 32 * start := by omega
    rw [drop_eq_nil_of_le done, drop_eq_nil_of_le (by omega)]
    rfl
  | succ count ih =>
    have rest := ih (start + 1) (by omega)
    have chunks : ∀ bytes : Bytes, bytes.drop (32 * start) =
        (bytes.drop (32 * start)).take 32 ++ bytes.drop (32 * (start + 1)) := by
      intro bytes
      rw [show 32 * (start + 1) = 32 * start + 32 by omega, ← drop_drop, take_append_drop]
    have chunked : ((a.bytes.drop (32 * start)).take 32).length =
        ((b.bytes.drop (32 * start)).take 32).length := by
      simp only [length_take, length_drop, sized]
    rw [chunks a.bytes, chunks b.bytes, compare_append chunked, ← rest, range'_succ, map_cons,
      compareWords, ← compare_words a b sized]
    generalize a.load (32 * start) &&& leadingLanes (a.bytes.length - 32 * start) = x
    generalize b.load (32 * start) &&& leadingLanes (a.bytes.length - 32 * start) = y
    rcases Nat.lt_trichotomy x.toNat y.toNat with below | same | above
    · have apart : x ≠ y := by
        rintro rfl
        omega
      rw [if_pos apart, if_pos (BitVec.lt_def.mpr below), Std.compare_eq_lt.mpr below]
      rfl
    · rw [if_neg (not_not.mpr (BitVec.eq_of_toNat_eq same)), Std.compare_eq_iff_eq.mpr same]
      rfl
    · have apart : x ≠ y := by
        rintro rfl
        omega
      have order : ¬ x < y := by
        rw [BitVec.lt_def]
        omega
      rw [if_pos apart, if_neg order, Std.compare_eq_gt.mpr above]
      rfl

theorem compareEncoded_eq (a b : Located) : compareEncoded a b =
    (compare a.bytes.length b.bytes.length).then (compare a.bytes b.bytes) := by
  unfold compareEncoded
  split
  · rename_i apart
    split
    · rename_i below
      rw [Std.compare_eq_lt.mpr below]
      rfl
    · rename_i above
      rw [Std.compare_eq_gt.mpr (by omega)]
      rfl
  · rename_i same
    have sized : a.bytes.length = b.bytes.length := by omega
    have whole := compareWords_from a b sized 0 ((a.bytes.length + 31) / 32) (by omega)
    rw [Nat.mul_zero, drop_zero, drop_zero, ← range_eq_range'] at whole
    rw [wordOffsets, whole, Std.compare_eq_iff_eq.mpr sized]
    rfl

variable {c : Char}

theorem ascii_char {p : Char → Prop} (all : ∀ value < 128, p (Char.ofNat value)) (small : c.toNat < 128) : p c := by
  have here := all c.toNat small
  rwa [Char.ofNat_toNat] at here

theorem identifierChar_byte (small : c.toNat < 128) : identifierChar c = charsetByte (UInt8.ofNat c.toNat) :=
  ascii_char (p := fun c => identifierChar c = charsetByte (UInt8.ofNat c.toNat)) (by decide) small

theorem identifierSeparator_byte (small : c.toNat < 128) :
    identifierSeparator c = separatorByte (UInt8.ofNat c.toNat) :=
  ascii_char (p := fun c => identifierSeparator c = separatorByte (UInt8.ofNat c.toNat)) (by decide) small

theorem charset_small (byte : UInt8) : charsetByte byte = true → byte < 0x80 :=
  every_byte (p := fun byte => charsetByte byte = true → byte < 0x80) (by decide +kernel) byte

theorem identifierText_ascii {text : String} (valid : identifierText text = true) : Ascii text :=
  identifier_ascii ⟨text, valid⟩

theorem all_congr_mem {α : Type} {p q : α → Bool} {items : List α}
    (same : ∀ item ∈ items, p item = q item) : items.all p = items.all q := by
  induction items with
  | nil => rfl
  | cons item items ih =>
    rw [all_cons, all_cons, same item (by simp), ih fun other member => same other (by simp [member])]

theorem identifierText_eq (text : String) : identifierText text = identifierBytes (encodeText text) := by
  by_cases ascii : Ascii text
  · have spelled := encodeText_map ascii
    have all : text.toList.all identifierChar =
        (text.toList.map fun c => UInt8.ofNat c.toNat).all charsetByte := by
      rw [all_map]
      exact all_congr_mem fun c member => identifierChar_byte (ascii c member)
    rw [identifierText, identifierBytes, spelled, length_map, all, head?_map, getLast?_map]
    congr 1
    cases first : text.toList.head? with
    | none => rfl
    | some c =>
      cases last : text.toList.getLast? with
      | none => rfl
      | some d =>
        have head := identifierSeparator_byte (ascii c (mem_of_head? first))
        have tail := identifierSeparator_byte (ascii d (mem_of_getLast? last))
        simp only [Option.map_some, head, tail]
  · have refused : ¬identifierText text = true := fun valid => ascii (identifierText_ascii valid)
    have refused' : ¬identifierBytes (encodeText text) = true := by
      intro valid
      simp only [identifierBytes, Bool.and_eq_true] at valid
      apply ascii
      apply ascii_of_encodeText
      intro byte member
      exact charset_small byte (all_eq_true.mp valid.1.2 byte member)
    rw [Bool.eq_false_iff.mpr refused, Bool.eq_false_iff.mpr refused']

theorem decoded_identifier {bytes : Bytes} :
    (∃ id : Identifier, decodeText bytes = some id.1) ↔ identifierBytes (stripMark bytes) = true := by
  constructor
  · rintro ⟨id, decoded⟩
    have spelled := encodeText_of_decoded decoded (identifier_ascii id)
    rw [← spelled, ← identifierText_eq]
    exact id.2
  · intro valid
    have small : ∀ byte ∈ stripMark bytes, byte < 0x80 := by
      simp only [identifierBytes, Bool.and_eq_true] at valid
      intro byte member
      exact charset_small byte (all_eq_true.mp valid.1.2 byte member)
    obtain ⟨text, decoded, _, spelled⟩ := decodeText_of_small small
    have identifier : identifierText text = true := by rwa [identifierText_eq, spelled]
    exact ⟨⟨text, identifier⟩, decoded⟩

theorem identifier_spelled (id : Identifier) : identifierBytes (encodeText id.1) = true := by
  rw [← identifierText_eq]
  exact id.2

end Mandate.Gate
