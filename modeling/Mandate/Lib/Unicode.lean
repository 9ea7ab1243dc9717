import Mandate.Lib.Text

/-! Text beyond ASCII: the strict decoder reads a character back from its bytes, and bytes it reads
are the bytes of what it read. -/
namespace Mandate.Lib.Text
open Lib.Wire List
open UInt8 (ofNat le_iff_toNat_le)

section Spelled

variable {value : Nat} {low high : UInt8} {bytes : Bytes} {chars : List Char}

theorem ended :
    decodeFrom (some (value, low, high, 0)) bytes = some chars ↔ ∃ byte rest tail, bytes = byte :: rest ∧
      low ≤ byte ∧ byte ≤ high ∧ decodeFrom none rest = some tail ∧
      chars = Char.ofNat (value * 64 + (byte.toNat - 0x80)) :: tail := by
  cases bytes with
  | nil => simp [decodeFrom]
  | cons byte rest =>
    rw [decodeFrom]
    by_cases inside : low ≤ byte ∧ byte ≤ high
    · rw [if_pos (by simpa using inside)]
      simp [inside, eq_comm]
    · rw [if_neg (by simpa using inside)]
      simp only [reduceCtorEq, false_iff, not_exists, not_and]
      rintro b r tail same above below
      obtain ⟨rfl, rfl⟩ := List.cons.inj same
      exact absurd ⟨above, below⟩ inside

variable {more : Nat}

theorem continued :
    decodeFrom (some (value, low, high, more + 1)) bytes = some chars ↔ ∃ byte rest, bytes = byte :: rest ∧
      low ≤ byte ∧ byte ≤ high ∧
      decodeFrom (some (value * 64 + (byte.toNat - 0x80), 0x80, 0xBF, more)) rest = some chars := by
  cases bytes with
  | nil => simp [decodeFrom]
  | cons byte rest =>
    rw [decodeFrom]
    by_cases inside : low ≤ byte ∧ byte ≤ high
    · rw [if_pos (by simpa using inside)]
      simp [inside]
    · rw [if_neg (by simpa using inside)]
      simp only [reduceCtorEq, false_iff, not_exists, not_and]
      rintro b r same above below
      obtain ⟨rfl, rfl⟩ := List.cons.inj same
      exact absurd ⟨above, below⟩ inside

variable {byte : UInt8}

theorem ofNat_eq (same : value = byte.toNat) : ofNat value = byte := by
  rw [same, UInt8.ofNat_toNat]

theorem value_of_valid {point : Nat} (valid : point.isValidChar) : (Char.ofNat point).val.toNat = point := by
  rw [Char.ofNat, dif_pos valid]
  rfl

variable {first second : UInt8}

theorem two (low : 0xC2 ≤ first) (high : first ≤ 0xDF) (second_low : 0x80 ≤ second)
    (second_high : second ≤ 0xBF) :
    String.utf8EncodeChar (Char.ofNat ((first.toNat - 0xC0) * 64 + (second.toNat - 0x80))) = [first, second] := by
  simp only [le_iff_toNat_le, UInt8.reduceToNat] at low high second_low second_high
  have valid : ((first.toNat - 0xC0) * 64 + (second.toNat - 0x80)).isValidChar := Or.inl (by omega)
  unfold String.utf8EncodeChar
  rw [value_of_valid valid]
  dsimp only
  rw [if_neg (by omega), if_pos (by omega), (ofNat_eq (by omega) : _ = first), (ofNat_eq (by omega) : _ = second)]

variable {lead : Nat} {third : UInt8}

theorem three (head : first.toNat = lead + 0xE0) (small : lead < 16)
    (second_low : 0x80 ≤ second) (second_high : second ≤ 0xBF) (third_low : 0x80 ≤ third) (third_high : third ≤ 0xBF)
    (long : lead = 0 → 0xA0 ≤ second) (low : lead = 13 → second ≤ 0x9F) :
    String.utf8EncodeChar (Char.ofNat ((lead * 64 + (second.toNat - 0x80)) * 64 + (third.toNat - 0x80))) =
      [first, second, third] := by
  simp only [le_iff_toNat_le, UInt8.reduceToNat] at *
  have valid : ((lead * 64 + (second.toNat - 0x80)) * 64 + (third.toNat - 0x80)).isValidChar := by
    simp only [Nat.isValidChar]
    omega
  unfold String.utf8EncodeChar
  rw [value_of_valid valid]
  dsimp only
  rw [if_neg (by omega), if_neg (by omega), if_pos (by omega), (ofNat_eq (by omega) : _ = first),
    (ofNat_eq (by omega) : _ = second), (ofNat_eq (by omega) : _ = third)]

theorem four {fourth : UInt8} (head : first.toNat = lead + 0xF0) (small : lead ≤ 4)
    (second_low : 0x80 ≤ second) (second_high : second ≤ 0xBF) (third_low : 0x80 ≤ third) (third_high : third ≤ 0xBF)
    (fourth_low : 0x80 ≤ fourth) (fourth_high : fourth ≤ 0xBF) (long : lead = 0 → 0x90 ≤ second)
    (low : lead = 4 → second ≤ 0x8F) :
    String.utf8EncodeChar (Char.ofNat (((lead * 64 + (second.toNat - 0x80)) * 64 + (third.toNat - 0x80)) * 64 +
      (fourth.toNat - 0x80))) = [first, second, third, fourth] := by
  simp only [le_iff_toNat_le, UInt8.reduceToNat] at *
  have valid : (((lead * 64 + (second.toNat - 0x80)) * 64 + (third.toNat - 0x80)) * 64 +
      (fourth.toNat - 0x80)).isValidChar := by
    simp only [Nat.isValidChar]
    omega
  unfold String.utf8EncodeChar
  rw [value_of_valid valid]
  dsimp only
  rw [if_neg (by omega), if_neg (by omega), if_neg (by omega), (ofNat_eq (by omega) : _ = first),
    (ofNat_eq (by omega) : _ = second), (ofNat_eq (by omega) : _ = third), (ofNat_eq (by omega) : _ = fourth)]

theorem one (small : first < 0x80) : String.utf8EncodeChar (Char.ofNat first.toNat) = [first] := by
  simp only [UInt8.lt_iff_toNat_lt, UInt8.reduceToNat] at small
  have valid : first.toNat.isValidChar := Or.inl (by omega)
  unfold String.utf8EncodeChar
  rw [value_of_valid valid]
  dsimp only
  rw [if_pos (by omega), UInt8.ofNat_toNat]

theorem lead_cases (lead : leadByte byte = some (value, low, high, more)) :
    (more = 0 ∧ value = byte.toNat - 0xC0 ∧ 0xC2 ≤ byte ∧ byte ≤ 0xDF ∧ low = 0x80 ∧ high = 0xBF) ∨
    (more = 1 ∧ byte.toNat = value + 0xE0 ∧ value < 16 ∧ 0x80 ≤ low ∧ high ≤ 0xBF ∧ (value = 0 → 0xA0 ≤ low) ∧
      (value = 13 → high ≤ 0x9F)) ∨
    (more = 2 ∧ byte.toNat = value + 0xF0 ∧ value ≤ 4 ∧ 0x80 ≤ low ∧ high ≤ 0xBF ∧ (value = 0 → 0x90 ≤ low) ∧
      (value = 4 → high ≤ 0x8F)) := by
  unfold leadByte at lead
  repeat' split at lead
  all_goals first
    | simp only [Option.some.injEq, Prod.mk.injEq] at lead
      obtain ⟨rfl, rfl, rfl, rfl⟩ := lead
    | cases lead
  all_goals
    simp only [Bool.and_eq_true, decide_eq_true_eq, beq_iff_eq, le_iff_toNat_le, ← UInt8.toNat_inj,
      UInt8.reduceToNat, true_and, and_true, forall_const] at *
    omega

theorem spelled_from (bytes : Bytes) : ∀ chars, decodeFrom none bytes = some chars →
    chars.flatMap String.utf8EncodeChar = bytes := by
  induction size : bytes.length using Nat.strong_induction_on generalizing bytes with
  | _ n ih =>
    intro chars decoded
    subst size
    cases bytes with
    | nil =>
      cases decoded
      rfl
    | cons byte rest =>
      rw [decodeFrom] at decoded
      split at decoded
      · rename_i below
        obtain ⟨tail, later, rfl⟩ := Option.map_eq_some_iff.mp decoded
        rw [flatMap_cons, one below, ih rest.length (by simp) rest rfl tail later]
        rfl
      · split at decoded
        · cases decoded
        · rename_i lead found
          obtain ⟨value, low, high, more⟩ := lead
          rcases lead_cases found with ⟨rfl, is, above, below, start, stop⟩ | ⟨rfl, head, small, above, below, long, short⟩ |
            ⟨rfl, head, small, above, below, long, short⟩
          · obtain ⟨second, rest, tail, rfl, second_low, second_high, later, rfl⟩ := ended.mp decoded
            rw [flatMap_cons, is, two above below (start ▸ second_low) (stop ▸ second_high), ih rest.length (by simp only [length_cons]; omega) rest rfl tail later]
            rfl
          · obtain ⟨second, rest, rfl, second_low, second_high, decoded⟩ := continued.mp decoded
            obtain ⟨third, rest, tail, rfl, third_low, third_high, later, rfl⟩ := ended.mp decoded
            rw [flatMap_cons, three head small (UInt8.le_trans above second_low) (UInt8.le_trans second_high below)
              third_low third_high (fun zero => UInt8.le_trans (long zero) second_low)
              (fun edge => UInt8.le_trans second_high (short edge)), ih rest.length (by simp only [length_cons]; omega) rest rfl tail later]
            rfl
          · obtain ⟨second, rest, rfl, second_low, second_high, decoded⟩ := continued.mp decoded
            obtain ⟨third, rest, rfl, third_low, third_high, decoded⟩ := continued.mp decoded
            obtain ⟨fourth, rest, tail, rfl, fourth_low, fourth_high, later, rfl⟩ := ended.mp decoded
            rw [flatMap_cons, four head small (UInt8.le_trans above second_low) (UInt8.le_trans second_high below)
              third_low third_high fourth_low fourth_high (fun zero => UInt8.le_trans (long zero) second_low)
              (fun edge => UInt8.le_trans second_high (short edge)), ih rest.length (by simp only [length_cons]; omega) rest rfl tail later]
            rfl

theorem encodeText_of_decodeText {text : String} (decoded : decodeText bytes = some text) :
    encodeText text = stripMark bytes := by
  obtain ⟨chars, found, rfl⟩ := Option.map_eq_some_iff.mp decoded
  rw [encodeText, String.toList_ofList, spelled_from _ chars found]

end Spelled

section Read

variable {value : Nat}

theorem toNat_small (small : value < 256) : (ofNat value).toNat = value :=
  UInt8.toNat_ofNat_of_lt' small

variable {a : UInt8} {lead : Nat}

theorem leads_two (head : a.toNat = lead + 0xC0) (low : 2 ≤ lead) (high : lead < 32) :
    leadByte a = some (lead, 0x80, 0xBF, 0) := by
  have value : a.toNat - 0xC0 = lead := by omega
  unfold leadByte
  rw [if_pos (by simp [le_iff_toNat_le, head]; omega), value]

theorem leads_three (head : a.toNat = lead + 0xE0) (small : lead < 16) :
    ∃ low high, leadByte a = some (lead, low, high, 1) ∧ ∀ b : UInt8, 0x80 ≤ b.toNat → b.toNat ≤ 0xBF →
      (lead = 0 → 0xA0 ≤ b.toNat) → (lead = 13 → b.toNat ≤ 0x9F) → (low ≤ b && b ≤ high) = true := by
  by_cases zero : lead = 0
  · obtain rfl : a = 0xE0 := UInt8.toNat_inj.mp (by rw [head, zero]; rfl)
    refine ⟨0xA0, 0xBF, by rw [zero]; rfl, fun b _ high long _ => ?_⟩
    simp [le_iff_toNat_le, high, long zero]
  by_cases edge : lead = 13
  · obtain rfl : a = 0xED := UInt8.toNat_inj.mp (by rw [head, edge]; rfl)
    refine ⟨0x80, 0x9F, by rw [edge]; rfl, fun b low _ _ short => ?_⟩
    simp [le_iff_toNat_le, low, short edge]
  · refine ⟨0x80, 0xBF, ?_, fun b low high _ _ => by simp [le_iff_toNat_le, low, high]⟩
    have value : a.toNat - 0xE0 = lead := by omega
    unfold leadByte
    simp only [Bool.and_eq_true, decide_eq_true_eq, beq_iff_eq, le_iff_toNat_le, ← UInt8.toNat_inj,
      UInt8.reduceToNat]
    rw [if_neg (by omega), if_neg (by omega), if_neg (by omega), if_pos (by omega), value]

theorem leads_four (head : a.toNat = lead + 0xF0) (small : lead ≤ 4) :
    ∃ low high, leadByte a = some (lead, low, high, 2) ∧ ∀ b : UInt8, 0x80 ≤ b.toNat → b.toNat ≤ 0xBF →
      (lead = 0 → 0x90 ≤ b.toNat) → (lead = 4 → b.toNat ≤ 0x8F) → (low ≤ b && b ≤ high) = true := by
  by_cases zero : lead = 0
  · obtain rfl : a = 0xF0 := UInt8.toNat_inj.mp (by rw [head, zero]; rfl)
    refine ⟨0x90, 0xBF, by rw [zero]; rfl, fun b _ high long _ => ?_⟩
    simp [le_iff_toNat_le, high, long zero]
  by_cases edge : lead = 4
  · obtain rfl : a = 0xF4 := UInt8.toNat_inj.mp (by rw [head, edge]; rfl)
    refine ⟨0x80, 0x8F, by rw [edge]; rfl, fun b low _ _ short => ?_⟩
    simp [le_iff_toNat_le, low, short edge]
  · refine ⟨0x80, 0xBF, ?_, fun b low high _ _ => by simp [le_iff_toNat_le, low, high]⟩
    have value : a.toNat - 0xF0 = lead := by omega
    unfold leadByte
    simp only [Bool.and_eq_true, decide_eq_true_eq, beq_iff_eq, le_iff_toNat_le, ← UInt8.toNat_inj,
      UInt8.reduceToNat]
    rw [if_neg (by omega), if_neg (by omega), if_neg (by omega), if_neg (by omega), if_neg (by omega), if_neg (by omega),
      if_pos (by omega), value]

variable {rest : Bytes}

theorem enter {lead : Nat × UInt8 × UInt8 × Nat} (large : 0x80 ≤ a.toNat)
    (leads : leadByte a = some lead) : decodeFrom none (a :: rest) = decodeFrom (some lead) rest := by
  rw [decodeFrom, if_neg (by simp [UInt8.lt_iff_toNat_lt]; omega), leads]

private theorem step {value more : Nat} {low high b : UInt8} {rest : Bytes} (inside : (low ≤ b && b ≤ high) = true) :
    decodeFrom (some (value, low, high, more + 1)) (b :: rest) =
      decodeFrom (some (value * 64 + (b.toNat - 0x80), 0x80, 0xBF, more)) rest := by
  rw [decodeFrom, if_pos inside]

variable {b : UInt8}

private theorem finish {low high : UInt8} (inside : (low ≤ b && b ≤ high) = true) :
    decodeFrom (some (value, low, high, 0)) (b :: rest) =
      (decodeFrom none rest).map (Char.ofNat (value * 64 + (b.toNat - 0x80)) :: ·) := by
  rw [decodeFrom, if_pos inside]

theorem trailing (low : 0x80 ≤ b.toNat) (high : b.toNat ≤ 0xBF) : (0x80 ≤ b && b ≤ 0xBF) = true := by
  simp [le_iff_toNat_le, low, high]

theorem read_char (c : Char) (rest : Bytes) :
    decodeFrom none (String.utf8EncodeChar c ++ rest) = (decodeFrom none rest).map (c :: ·) := by
  have valid : c.val.toNat.isValidChar := c.valid
  have same : Char.ofNat c.val.toNat = c := Char.ofNat_toNat c
  simp only [Nat.isValidChar] at valid
  unfold String.utf8EncodeChar
  dsimp only
  generalize c.val.toNat = v at same valid
  subst same
  split
  · have byte : (ofNat v).toNat = v := toNat_small (by omega)
    rw [singleton_append, decodeFrom, if_pos (by simp [UInt8.lt_iff_toNat_lt, byte]; omega), byte]
  split
  · have first : (ofNat (v / 64 % 32 + 0xC0)).toNat = v / 64 % 32 + 0xC0 := toNat_small (by omega)
    have second : (ofNat (v % 64 + 0x80)).toNat = v % 64 + 0x80 := toNat_small (by omega)
    generalize ofNat (v / 64 % 32 + 0xC0) = a at first ⊢
    generalize ofNat (v % 64 + 0x80) = b at second ⊢
    rw [cons_append, singleton_append, enter (by omega) (leads_two first (by omega) (by omega)),
      finish (trailing (by omega) (by omega)), show v / 64 % 32 * 64 + (b.toNat - 0x80) = v by omega]
  split
  · have first : (ofNat (v / 4096 % 16 + 0xE0)).toNat = v / 4096 % 16 + 0xE0 := toNat_small (by omega)
    have second : (ofNat (v / 64 % 64 + 0x80)).toNat = v / 64 % 64 + 0x80 := toNat_small (by omega)
    have third : (ofNat (v % 64 + 0x80)).toNat = v % 64 + 0x80 := toNat_small (by omega)
    generalize ofNat (v / 4096 % 16 + 0xE0) = a at first ⊢
    generalize ofNat (v / 64 % 64 + 0x80) = b at second ⊢
    generalize ofNat (v % 64 + 0x80) = d at third ⊢
    obtain ⟨low, high, leads, inside⟩ := leads_three first (by omega)
    rw [cons_append, cons_append, singleton_append, enter (by omega) leads,
      step (inside b (by omega) (by omega) (by omega) (by omega)), finish (trailing (by omega) (by omega)),
      show (v / 4096 % 16 * 64 + (b.toNat - 0x80)) * 64 + (d.toNat - 0x80) = v by omega]
  · have first : (ofNat (v / 262144 % 8 + 0xF0)).toNat = v / 262144 % 8 + 0xF0 := toNat_small (by omega)
    have second : (ofNat (v / 4096 % 64 + 0x80)).toNat = v / 4096 % 64 + 0x80 := toNat_small (by omega)
    have third : (ofNat (v / 64 % 64 + 0x80)).toNat = v / 64 % 64 + 0x80 := toNat_small (by omega)
    have fourth : (ofNat (v % 64 + 0x80)).toNat = v % 64 + 0x80 := toNat_small (by omega)
    generalize ofNat (v / 262144 % 8 + 0xF0) = a at first ⊢
    generalize ofNat (v / 4096 % 64 + 0x80) = b at second ⊢
    generalize ofNat (v / 64 % 64 + 0x80) = d at third ⊢
    generalize ofNat (v % 64 + 0x80) = e at fourth ⊢
    obtain ⟨low, high, leads, inside⟩ := leads_four first (by omega)
    rw [cons_append, cons_append, cons_append, singleton_append, enter (by omega) leads,
      step (inside b (by omega) (by omega) (by omega) (by omega)), step (trailing (by omega) (by omega)),
      finish (trailing (by omega) (by omega)), show ((v / 262144 % 8 * 64 + (b.toNat - 0x80)) * 64 + (d.toNat - 0x80)) * 64 +
        (e.toNat - 0x80) = v by omega]

theorem read_chars (chars : List Char) :
    decodeFrom none (chars.flatMap String.utf8EncodeChar) = some chars := by
  induction chars with
  | nil => rfl
  | cons c rest ih => rw [flatMap_cons, read_char, ih, Option.map_some]

theorem decodeText_of_unmarked {text : String} (unmarked : hasMark (encodeText text) = false) :
    decodeText (encodeText text) = some text := by
  rw [decodeText, stripMark_of_unmarked unmarked, encodeText, read_chars, Option.map_some, String.ofList_toList]

end Read

end Mandate.Lib.Text
