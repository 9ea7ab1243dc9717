import Mandate.Core.Primitives
import Mandate.Lib.Lines
import Mandate.Lib.Table
import Mathlib.Data.List.TakeWhile

/-! The slot journal: one line for each nonce signed, appended and synced before the signature
is returned, read back at start. What custody writes is ASCII, one character a byte. -/
namespace Mandate.Custody
open Core Lib.Table Lib.Lines List

def MAX_SCAN_TOKEN_SIZE : Nat := 64 * 1024

abbrev Slots := PMap Int (List Char)

def decimal : Int → List Char
  | .ofNat n => Nat.toDigits 10 n
  | .negSucc n => '-' :: Nat.toDigits 10 (n + 1)

def parseDigits (text : List Char) : Option Nat :=
  if text ≠ [] ∧ text.all Char.isDigit = true then some (Nat.ofDigitChars 10 text 0) else none

def inRange (value : Int) : Option Int := if INT64_MIN ≤ value ∧ value ≤ INT64_MAX then some value else none

def parseInt : List Char → Option Int
  | '-' :: digits => (parseDigits digits).bind fun n => inRange (-n)
  | '+' :: digits => (parseDigits digits).bind fun n => inRange n
  | digits => (parseDigits digits).bind fun n => inRange n

def slotText (nonce : Int) (hash : List Char) : List Char := decimal nonce ++ ' ' :: hash

def slotLine (nonce : Int) (hash : List Char) : List Char := slotText nonce hash ++ ['\n']

/-- The lines as the scanner yields them: it stops at one that exceeds its buffer, and its error
is not looked at. -/
def scanned (journal : List Char) : List (List Char) :=
  let (ended, tail) := lines journal
  (if tail = [] then ended else ended ++ [tail]).takeWhile fun line => line.length < MAX_SCAN_TOKEN_SIZE

def loadLine (slots : Slots) (line : List Char) : Option Slots :=
  match fields line with
  | [nonce, hash] => (parseInt nonce).bind fun n =>
    if (slots.lookup n).any fun prior => prior ≠ hash then none else some (slots.insert n hash)
  | _ => none

def loadJournal (journal : List Char) : Option Slots := (scanned journal).foldlM loadLine ∅

/-- How appending one line ends: reported with what persisted of it, or the process dies. -/
inductive Disk
  | synced
  | unavailable (why : String)
  | writeFailed (why : String) (persisted : Nat)
  | syncFailed (why : String) (persisted : Nat)
  | crashed (persisted : Nat)

def Disk.persists : Disk → List Char → List Char
  | .synced, line => line
  | .unavailable _, _ => []
  | .writeFailed _ persisted, line | .syncFailed _ persisted, line | .crashed persisted, line => line.take persisted

inductive Recorded
  | recorded (slots : Slots)
  | refused (error : String)
  | ended

def recordSlot (journal : List Char) (slots : Slots) (nonce : Int) (hash : List Char) (disk : Disk) :
    List Char × Recorded :=
  match slots.lookup nonce with
  | some prior => (journal, if prior = hash then .recorded slots else .refused "SLOT_ALREADY_SIGNED")
  | none => (journal ++ disk.persists (slotLine nonce hash), match disk with
    | .synced => .recorded (slots.insert nonce hash)
    | .unavailable why => .refused ("JOURNAL_UNAVAILABLE: " ++ why)
    | .writeFailed why _ => .refused ("JOURNAL_WRITE_FAILED: " ++ why)
    | .syncFailed why _ => .refused ("JOURNAL_SYNC_FAILED: " ++ why)
    | .crashed _ => .ended)

section Decimals

variable {c : Char}

theorem digit_solid (digit : c.isDigit = true) : isSpace c = false := by
  by_contra space
  rw [Bool.not_eq_false] at space
  have listed : c ∈ [' ', '\t', '\n', '\x0b', '\x0c', '\r'] := of_decide_eq_true space
  simp only [mem_cons, not_mem_nil, or_false] at listed
  rcases listed with rfl | rfl | rfl | rfl | rfl | rfl <;> exact absurd digit (by decide)

theorem parseDigits_toDigits (n : Nat) : parseDigits (Nat.toDigits 10 n) = some n := by
  have digits : (Nat.toDigits 10 n).all Char.isDigit = true :=
    all_eq_true.mpr fun c member => Nat.isDigit_of_mem_toDigits (by decide) (by decide) member
  rw [parseDigits, if_pos ⟨Nat.toDigits_ne_nil, digits⟩, Nat.ofDigitChars_toDigits (by decide) (by decide)]

theorem toDigits_solid {n : Nat} (member : c ∈ Nat.toDigits 10 n) : isSpace c = false :=
  digit_solid (Nat.isDigit_of_mem_toDigits (by decide) (by decide) member)

variable {n : Int}

theorem decimal_solid (member : c ∈ decimal n) : isSpace c = false := by
  cases n with
  | ofNat n => exact toDigits_solid member
  | negSucc n =>
    rcases mem_cons.mp member with rfl | digit
    · decide
    · exact toDigits_solid digit

theorem decimal_ne_nil (n : Int) : decimal n ≠ [] := by
  cases n with
  | ofNat n => exact Nat.toDigits_ne_nil
  | negSucc n => exact cons_ne_nil _ _

theorem parseInt_decimal (fits : INT64_MIN ≤ n ∧ n ≤ INT64_MAX) : parseInt (decimal n) = some n := by
  cases n with
  | ofNat n =>
    have plain : parseInt (Nat.toDigits 10 n) =
        (parseDigits (Nat.toDigits 10 n)).bind fun n => inRange n := by
      have digits : ∀ c ∈ Nat.toDigits 10 n, c.isDigit = true :=
        fun c member => Nat.isDigit_of_mem_toDigits (by decide) (by decide) member
      cases text : Nat.toDigits 10 n with
      | nil => rfl
      | cons c rest =>
        rw [text] at digits
        have first := digits c (by simp)
        unfold parseInt
        split
        · exact absurd first (by simp_all)
        · exact absurd first (by simp_all)
        · rfl
    rw [decimal, plain, parseDigits_toDigits]
    exact if_pos fits
  | negSucc n =>
    rw [decimal, parseInt, parseDigits_toDigits, Option.bind_some]
    exact if_pos fits

end Decimals

section Loading
variable {slots loaded : Slots} {line : List Char} {n : Int} {hash : List Char}

theorem loadLine_some (ok : loadLine slots line = some loaded) : ∃ nonce hash n, fields line = [nonce, hash] ∧
    parseInt nonce = some n ∧ (∀ prior, slots.lookup n = some prior → prior = hash) ∧
    loaded = slots.insert n hash := by
  unfold loadLine at ok
  split at ok
  · rename_i nonce hash parts
    obtain ⟨n, parsed, ok⟩ := Option.bind_eq_some_iff.mp ok
    split at ok
    · cases ok
    · rename_i agree
      cases ok
      refine ⟨nonce, hash, n, parts, parsed, ?_, rfl⟩
      intro prior known
      simpa [known] using agree
  · cases ok

theorem loadLine_keeps (ok : loadLine slots line = some loaded) (known : slots.lookup n = some hash) :
    loaded.lookup n = some hash := by
  obtain ⟨_, other, m, _, _, agree, rfl⟩ := loadLine_some ok
  rw [lookup_insert_eq]
  split
  · rename_i same
    subst same
    rw [agree hash known]
  · exact known

variable {text : List (List Char)}

theorem loadLines_keep (ok : text.foldlM loadLine slots = some loaded)
    (known : slots.lookup n = some hash) : loaded.lookup n = some hash := by
  induction text generalizing slots with
  | nil =>
    cases ok
    exact known
  | cons line rest ih =>
    obtain ⟨next, first, later⟩ := Option.bind_eq_some_iff.mp ok
    exact ih later (loadLine_keeps first known)

theorem loadLines_line (ok : text.foldlM loadLine slots = some loaded)
    (member : line ∈ text) : ∃ nonce hash n, fields line = [nonce, hash] ∧ parseInt nonce = some n ∧
      loaded.lookup n = some hash := by
  induction text generalizing slots with
  | nil => cases member
  | cons head rest ih =>
    obtain ⟨next, first, later⟩ := Option.bind_eq_some_iff.mp ok
    rcases mem_cons.mp member with rfl | onward
    · obtain ⟨nonce, hash, n, parts, parsed, _, rfl⟩ := loadLine_some first
      exact ⟨nonce, hash, n, parts, parsed, loadLines_keep later (by rw [lookup_insert_eq, if_pos rfl])⟩
    · exact ih later onward

theorem loadLines_slot (ok : text.foldlM loadLine slots = some loaded)
    (known : loaded.lookup n = some hash) : slots.lookup n = some hash ∨
      ∃ line ∈ text, ∃ nonce, fields line = [nonce, hash] ∧ parseInt nonce = some n := by
  induction text generalizing slots with
  | nil =>
    cases ok
    exact Or.inl known
  | cons head rest ih =>
    obtain ⟨next, first, later⟩ := Option.bind_eq_some_iff.mp ok
    rcases ih later with before | ⟨line, member, here⟩
    · obtain ⟨nonce, other, m, parts, parsed, _, rfl⟩ := loadLine_some first
      rw [lookup_insert_eq] at before
      split at before
      · rename_i same
        subst same
        obtain rfl := Option.some.inj before
        exact Or.inr ⟨head, by simp, nonce, parts, parsed⟩
      · exact Or.inl before
    · exact Or.inr ⟨line, mem_cons_of_mem _ member, here⟩

end Loading

/-- No line of the journal, the unterminated one included, exceeds the scanner's buffer. -/
def Short (journal : List Char) : Prop :=
  (∀ line ∈ (lines journal).1, line.length < MAX_SCAN_TOKEN_SIZE) ∧
    (lines journal).2.length < MAX_SCAN_TOKEN_SIZE

instance (journal : List Char) : Decidable (Short journal) := inferInstanceAs (Decidable (_ ∧ _))

theorem mem_scanned {journal line : List Char} (short : Short journal) :
    line ∈ scanned journal ↔ line ∈ (lines journal).1 ∨ (line = (lines journal).2 ∧ line ≠ []) := by
  have all : ∀ text ∈ (if (lines journal).2 = [] then (lines journal).1
      else (lines journal).1 ++ [(lines journal).2]), text.length < MAX_SCAN_TOKEN_SIZE := by
    intro text member
    split at member
    · exact short.1 text member
    · rcases mem_append.mp member with ended | tail
      · exact short.1 text ended
      · rw [mem_singleton.mp tail]
        exact short.2
  have whole := takeWhile_eq_self_iff.mpr fun text member => decide_eq_true (all text member)
  rw [scanned]
  simp only [whole]
  split
  · rename_i empty
    simp +contextual [empty]
  · rename_i begun
    rw [mem_append, mem_singleton]
    refine or_congr_right ⟨fun same => ⟨same, same ▸ begun⟩, fun same => same.1⟩

/-- Whatever is appended to the journal, custody that starts from it knows the slot by its hash
or by a text that begins with it. -/
def Guarded (journal : List Char) (n : Int) (hash : List Char) : Prop :=
  ∀ more slots, Short (journal ++ more) → loadJournal (journal ++ more) = some slots →
    ∃ known, slots.lookup n = some known ∧ hash <+: known

section Guards
variable {journal : List Char} {n : Int} {hash : List Char}

theorem Guarded.append (guarded : Guarded journal n hash) (more : List Char) : Guarded (journal ++ more) n hash := by
  intro later slots short loaded
  rw [List.append_assoc] at short loaded
  exact guarded (more ++ later) slots short loaded

variable {nonce : List Char}

theorem guarded_line {line : List Char} (member : line ∈ (lines journal).1)
    (parts : fields line = [nonce, hash]) (parsed : parseInt nonce = some n) : Guarded journal n hash := by
  intro more slots short loaded
  have read : line ∈ scanned (journal ++ more) := by
    rw [mem_scanned short, lines_append]
    exact Or.inl (mem_append_left _ member)
  obtain ⟨nonce', hash', n', parts', parsed', known⟩ := loadLines_line loaded read
  rw [parts] at parts'
  simp only [List.cons.injEq, and_true] at parts'
  obtain ⟨rfl, rfl⟩ := parts'
  rw [parsed] at parsed'
  obtain rfl := Option.some.inj parsed'
  exact ⟨hash, known, prefix_refl _⟩

theorem guarded_tail (parts : fields (lines journal).2 = [nonce, hash])
    (parsed : parseInt nonce = some n) : Guarded journal n hash := by
  intro more slots short loaded
  have begun : (lines journal).2 ≠ [] := by
    intro empty
    rw [empty] at parts
    cases parts
  obtain ⟨rest, read⟩ : ∃ rest, (lines journal).2 ++ rest ∈ scanned (journal ++ more) := by
    rcases lines_continue (tail_inline journal) more with ⟨rest, others, ended⟩ | ⟨rest, open'⟩
    · refine ⟨rest, (mem_scanned short).mpr (Or.inl ?_)⟩
      rw [lines_append, ended]
      simp
    · refine ⟨rest, (mem_scanned short).mpr (Or.inr ⟨?_, by simp [begun]⟩)⟩
      rw [lines_append, open']
  obtain ⟨nonce', hash', n', parts', parsed', known⟩ := loadLines_line loaded read
  obtain ⟨longer, others, found, start⟩ := fieldsAfter_extend (show fieldsAfter [] (lines journal).2 = [nonce] ++ [hash] from parts) rest
  rw [fields, found] at parts'
  simp only [cons_append, nil_append, List.cons.injEq] at parts'
  obtain ⟨rfl, rfl, _⟩ := parts'
  rw [parsed] at parsed'
  obtain rfl := Option.some.inj parsed'
  exact ⟨longer, known, start⟩

theorem guarded_loaded {slots : Slots} (short : Short journal) (loaded : loadJournal journal = some slots)
    (known : slots.lookup n = some hash) : Guarded journal n hash := by
  rcases loadLines_slot loaded known with none | ⟨line, read, nonce, parts, parsed⟩
  · cases none
  · rcases (mem_scanned short).mp read with ended | ⟨rfl, _⟩
    · exact guarded_line ended parts parsed
    · exact guarded_tail parts parsed

/-- The unterminated line is empty or begins with a character that is no space. -/
def Begun (journal : List Char) : Prop := ∀ c rest, (lines journal).2 = c :: rest → isSpace c = false

/-- A line may be ended by the next one written: nothing is pending, or a field already is. -/
def Joinable (journal : List Char) : Prop :=
  (lines journal).2 = [] ∨ ∃ c ∈ (lines journal).2, isSpace c = true

instance (journal : List Char) : Decidable (Joinable journal) := inferInstanceAs (Decidable (_ ∨ _))

theorem slotText_inline (unbroken : ∀ c ∈ hash, isSpace c = false) : '\n' ∉ slotText n hash := by
  intro member
  rcases mem_append.mp member with left | right
  · exact absurd (decimal_solid left) (by decide)
  · rcases mem_cons.mp right with same | later
    · exact absurd same (by decide)
    · exact absurd (unbroken _ later) (by decide)

theorem fields_slotText (begun : hash ≠ []) (unbroken : ∀ c ∈ hash, isSpace c = false) :
    fields (slotText n hash) = [decimal n, hash] := by
  have first := fields_solid (decimal_ne_nil n) fun c member => decimal_solid member
  have last := fields_solid begun unbroken
  rw [fields] at first last
  rw [fields, slotText, fieldsAfter_append (by decide), first, last]
  rfl

theorem fields_joined {pending : List Char} (solid : ∀ c rest, pending = c :: rest → isSpace c = false)
    (spaced : ∃ c ∈ pending, isSpace c = true) (begun : hash ≠ []) (unbroken : ∀ c ∈ hash, isSpace c = false) :
    ∃ a b c others, fields (pending ++ slotText n hash) = a :: b :: c :: others := by
  obtain ⟨c, member, space⟩ := spaced
  obtain ⟨before, after, rfl⟩ := append_of_mem member
  have first : fieldsAfter [] before ≠ [] := by
    cases before with
    | nil =>
      rw [solid c after rfl] at space
      cases space
    | cons d more => exact fieldsAfter_ne_nil (mem_cons_self) (solid d _ rfl) []
  have middle : fieldsAfter [] (after ++ decimal n) ≠ [] := by
    obtain ⟨d, digit⟩ := exists_mem_of_ne_nil _ (decimal_ne_nil n)
    exact fieldsAfter_ne_nil (mem_append_right _ digit) (decimal_solid digit) []
  have last := fields_solid begun unbroken
  rw [fields] at last
  have parts : fields (before ++ c :: after ++ slotText n hash) =
      fieldsAfter [] before ++ (fieldsAfter [] (after ++ decimal n) ++ [hash]) := by
    rw [fields, List.append_assoc, cons_append, fieldsAfter_append space, slotText, ← List.append_assoc,
      fieldsAfter_append (show isSpace ' ' = true by decide), last]
  obtain ⟨a, others, left⟩ := exists_cons_of_ne_nil first
  obtain ⟨b, more, right⟩ := exists_cons_of_ne_nil middle
  rw [parts, left, right]
  cases others with
  | nil =>
    cases more with
    | nil => exact ⟨a, b, hash, [], rfl⟩
    | cons d rest => exact ⟨a, b, d, rest ++ [hash], rfl⟩
  | cons d rest =>
    cases rest with
    | nil => exact ⟨a, d, b, more ++ [hash], rfl⟩
    | cons e rest => exact ⟨a, d, e, rest ++ (b :: more ++ [hash]), by simp⟩

theorem guarded_appended (solid : Begun journal) (joinable : Joinable journal) (fits : INT64_MIN ≤ n ∧ n ≤ INT64_MAX)
    (begun : hash ≠ []) (unbroken : ∀ c ∈ hash, isSpace c = false) :
    Guarded (journal ++ slotLine n hash) n hash := by
  have ended : lines (journal ++ slotLine n hash) =
      ((lines journal).1 ++ [(lines journal).2 ++ slotText n hash], []) := by
    have inline : '\n' ∉ (lines journal).2 ++ slotText n hash := by
      intro member
      rcases mem_append.mp member with left | right
      · exact tail_inline journal left
      · exact slotText_inline unbroken right
    rw [lines_append, slotLine, ← List.append_assoc, lines_ended inline]
  rcases joinable with empty | spaced
  · rw [empty, nil_append] at ended
    have member : slotText n hash ∈ (lines (journal ++ slotLine n hash)).1 := by
      rw [ended]
      simp
    exact guarded_line member (fields_slotText begun unbroken) (parseInt_decimal fits)
  · intro more slots short loaded
    obtain ⟨a, b, c, others, parts⟩ := fields_joined (n := n) solid spaced begun unbroken
    have read : (lines journal).2 ++ slotText n hash ∈ scanned (journal ++ slotLine n hash ++ more) := by
      rw [mem_scanned short, lines_append, ended]
      left
      simp
    obtain ⟨_, _, _, two, _, _⟩ := loadLines_line loaded read
    rw [parts] at two
    cases two

theorem begun_append (solid : Begun journal) {written : List Char} (part : written <+: slotLine n hash)
    (unbroken : ∀ c ∈ hash, isSpace c = false) : Begun (journal ++ written) := by
  intro c rest pending
  rw [lines_append] at pending
  rcases prefix_concat_iff.mp part with rfl | open'
  · have inline : '\n' ∉ (lines journal).2 ++ slotText n hash := by
      intro member
      rcases mem_append.mp member with left | right
      · exact tail_inline journal left
      · exact slotText_inline unbroken right
    rw [← List.append_assoc, lines_ended inline] at pending
    cases pending
  · have inline : '\n' ∉ (lines journal).2 ++ written := by
      intro member
      rcases mem_append.mp member with left | right
      · exact tail_inline journal left
      · exact slotText_inline unbroken (open'.subset right)
    rw [lines_inline inline] at pending
    cases held : (lines journal).2 with
    | cons d more =>
      rw [held] at pending
      obtain rfl : d = c := by simpa using (List.cons.inj pending).1
      exact solid d more held
    | nil =>
      rw [held, nil_append] at pending
      have same : written = c :: rest := pending
      obtain ⟨d, digits, first⟩ := exists_cons_of_ne_nil (decimal_ne_nil n)
      rw [same, slotText, first] at open'
      obtain rfl : c = d := (cons_prefix_cons.mp open').1
      exact decimal_solid (n := n) (by rw [first]; simp)

end Guards

end Mandate.Custody
