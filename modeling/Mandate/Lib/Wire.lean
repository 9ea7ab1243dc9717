import Mandate.Lib.Radix

/-! Byte writers that may assert and byte readers that may fail, with the one
relation their round trips are stated in. `Frames write read value size` says that
whatever `write` produces is at most `size` bytes and `read` consumes exactly it. -/
namespace Mandate.Lib.Wire
open Lib.Radix List

abbrev Bytes := List UInt8

def beBytes (width value : Nat) : Bytes := (toDigits 256 width value).map UInt8.ofNat

def beNat (bytes : Bytes) : Nat := ofDigits 256 (bytes.map UInt8.toNat)

@[simp] theorem beBytes_length (width value : Nat) : (beBytes width value).length = width := by
  simp [beBytes]

theorem beNat_beBytes {width value : Nat} (bound : value < 256 ^ width) :
    beNat (beBytes width value) = value := by
  have digits : ((beBytes width value).map UInt8.toNat) = toDigits 256 width value := by
    rw [beBytes, map_map]
    conv_rhs => rw [← map_id (toDigits 256 width value)]
    refine map_congr_left fun digit member => ?_
    have inside := toDigits_lt (b := 256) (by decide) width value digit member
    simpa using UInt8.toNat_ofNat_of_lt' inside
  rw [beNat, digits, ofDigits_toDigits, Nat.mod_eq_of_lt bound]

theorem beNat_lt (bytes : Bytes) : beNat bytes < 256 ^ bytes.length := by
  have inside : ∀ digit ∈ bytes.map UInt8.toNat, digit < 256 := by
    intro digit member
    obtain ⟨byte, _, rfl⟩ := mem_map.mp member
    exact byte.toNat_lt
  simpa [beNat] using ofDigits_lt _ inside

theorem beBytes_beNat (bytes : Bytes) : beBytes bytes.length (beNat bytes) = bytes := by
  have inside : ∀ digit ∈ bytes.map UInt8.toNat, digit < 256 := by
    intro digit member
    obtain ⟨byte, _, rfl⟩ := mem_map.mp member
    exact byte.toNat_lt
  have digits := toDigits_ofDigits _ inside
  rw [length_map] at digits
  rw [beBytes, beNat, digits, map_map]
  conv_rhs => rw [← map_id bytes]
  exact map_congr_left fun byte _ => UInt8.ofNat_toNat

/-- What has been written, or `none` once an assertion of a writer failed. -/
abbrev Writer := Option Bytes

namespace Writer

def raw (bytes : Bytes) : Writer := some bytes

def throw : Writer := none

protected def append (first second : Writer) : Writer :=
  first.bind fun before => second.bind fun after => some (before ++ after)

instance : Append Writer := ⟨Writer.append⟩

/-- Big-endian, fixed width; a value outside the width is asserted against. -/
def uint (width : Nat) (value : Int) : Writer :=
  if 0 ≤ value ∧ value < 256 ^ width then raw (beBytes width value.toNat) else throw

def each {α : Type} (write : α → Writer) (items : List α) : Writer :=
  items.foldr (fun item after => write item ++ after) (raw [])

variable {first second : Writer} {bytes : Bytes}

theorem append_some : first ++ second = some bytes ↔
      ∃ before after, first = some before ∧ second = some after ∧ bytes = before ++ after := by
  change Writer.append first second = some bytes ↔ _
  cases first with
  | none => simp [Writer.append]
  | some before =>
    cases second with
    | none => simp [Writer.append]
    | some after =>
      simp only [Writer.append, Option.bind_some, Option.some.injEq]
      exact ⟨fun same => ⟨before, after, rfl, rfl, same.symm⟩,
        fun ⟨_, _, hb, ha, same⟩ => by rw [hb, ha, same]⟩

theorem append_assoc (first second third : Writer) :
    first ++ second ++ third = first ++ (second ++ third) := by
  change Writer.append (Writer.append first second) third = Writer.append first (Writer.append second third)
  cases first <;> cases second <;> cases third <;> simp [Writer.append]

theorem uint_some {width : Nat} {value : Int} : uint width value = some bytes ↔
      0 ≤ value ∧ value < 256 ^ width ∧ bytes = beBytes width value.toNat := by
  unfold uint raw throw
  split <;> rename_i inside
  · simp [inside.1, inside.2, eq_comm]
  · simp only [reduceCtorEq, false_iff, not_and]
    exact fun low high _ => inside ⟨low, high⟩

def Total (writer : Writer) : Prop := ∃ bytes, writer = some bytes

@[simp] theorem total_raw (bytes : Bytes) : (raw bytes).Total := ⟨bytes, rfl⟩

theorem total_append (left : first.Total) (right : second.Total) : (first ++ second).Total := by
  obtain ⟨before, rfl⟩ := left
  obtain ⟨after, rfl⟩ := right
  exact ⟨before ++ after, rfl⟩

@[simp] theorem total_both : (first ++ second).Total ↔ first.Total ∧ second.Total := by
  constructor
  · rintro ⟨bytes, written⟩
    obtain ⟨before, after, one, two, _⟩ := append_some.mp written
    exact ⟨⟨before, one⟩, ⟨after, two⟩⟩
  · rintro ⟨one, two⟩
    exact total_append one two

theorem total_uint {w : Nat} {v : Int} (low : 0 ≤ v) (high : v < 256 ^ w) :
    (uint w v).Total := ⟨_, uint_some.mpr ⟨low, high, rfl⟩⟩

theorem total_each {α : Type} {write : α → Writer} {items : List α}
    (all : ∀ item ∈ items, (write item).Total) : (each write items).Total := by
  induction items with
  | nil => exact total_raw _
  | cons item items ih =>
    exact total_append (all item (by simp)) (ih fun x member => all x (by simp [member]))

end Writer

/-- The unread bytes, how many were read before them, and whether one of the texts among
those began with a mark its decoding drops. -/
structure Cursor where
  offset : Nat
  rest : Bytes
  marked : Bool

abbrev Reader (ε : Type) := StateT Cursor (Except (ε × Nat))

namespace Reader
variable {ε α β : Type}

def fail (code : ε) : Reader ε α := fun cursor => .error (code, cursor.offset)

def raw (short : ε) (length : Nat) : Reader ε Bytes := fun cursor =>
  if cursor.rest.length < length then .error (short, cursor.offset)
  else .ok (cursor.rest.take length,
    { cursor with offset := cursor.offset + length, rest := cursor.rest.drop length })

def note (met : Bool) : Reader ε Unit := fun cursor =>
  .ok ((), { cursor with marked := cursor.marked || met })

def uint (short : ε) (width : Nat) : Reader ε Nat := do
  let bytes ← raw short width
  pure (beNat bytes)

def ofExcept (result : Except ε α) : Reader ε α :=
  match result with
  | .ok value => pure value
  | .error code => fail code

/-- `count` items; each span must follow the previous one in `order`. -/
def items (order : Bytes → Bytes → Bool) (disorder : ε) (read : Reader ε α) :
    Nat → Option Bytes → Reader ε (List α)
  | 0, _ => pure []
  | count + 1, previous => fun start => do
    let (item, stop) ← read.run start
    let span := start.rest.take (stop.offset - start.offset)
    if previous.all (fun before => order before span) then
      let (rest, done) ← (items order disorder read count (some span)).run stop
      pure (item :: rest, done)
    else throw (disorder, stop.offset)

def finish (trailing : ε) : Reader ε Unit := fun cursor =>
  if cursor.rest.isEmpty then .ok ((), cursor) else .error (trailing, cursor.offset)

end Reader

variable {ε α β γ : Type}

def Reads (read : Reader ε α) (bytes : Bytes) (value : α) : Prop :=
  ∀ offset rest, read.run ⟨offset, bytes ++ rest, false⟩ = .ok (value, ⟨offset + bytes.length, rest, false⟩)

def Frames (writer : Writer) (read : Reader ε α) (value : α) (size : Nat) : Prop :=
  ∀ bytes, writer = some bytes → bytes.length ≤ size ∧ Reads read bytes value

theorem Reads.pure (value : α) : Reads (pure value : Reader ε α) [] value := by
  intro offset rest
  simp [StateT.run_pure]
  rfl

theorem Reads.note : Reads (Reader.note false : Reader ε Unit) [] () := by
  intro offset rest
  simp [Reader.note, StateT.run]

theorem Reads.bind {read : Reader ε α} {k : α → Reader ε β} {before after : Bytes} {a : α} {b : β}
    (first : Reads read before a) (second : Reads (k a) after b) :
    Reads (read >>= k) (before ++ after) b := by
  intro offset rest
  rw [StateT.run_bind, List.append_assoc, first]
  change (k a).run _ = _
  rw [second, length_append, Nat.add_assoc]

theorem Reads.inj {read : Reader ε α} {bytes : Bytes} {a b : α} (first : Reads read bytes a)
    (second : Reads read bytes b) : a = b := by
  have left := first 0 []
  rw [second 0 []] at left
  simp only [Except.ok.injEq, Prod.mk.injEq] at left
  exact left.1.symm

theorem Frames.pure (value : α) : Frames (Writer.raw []) (pure value : Reader ε α) value 0 := by
  intro bytes written
  cases written
  exact ⟨Nat.le_refl _, Reads.pure value⟩

variable {writer : Writer}

theorem Frames.mono {read : Reader ε α} {value : α} {small large : Nat}
    (frames : Frames writer read value small) (le : small ≤ large) :
    Frames writer read value large := fun bytes written =>
  ⟨(frames bytes written).1.trans le, (frames bytes written).2⟩

variable {n : Nat}

theorem Frames.bind {first second : Writer} {read : Reader ε α} {k : α → Reader ε β} {a : α} {b : β}
    {m : Nat} (head : Frames first read a m) (tail : Frames second (k a) b n) :
    Frames (first ++ second) (read >>= k) b (m + n) := by
  intro bytes written
  obtain ⟨before, after, hb, ha, rfl⟩ := Writer.append_some.mp written
  obtain ⟨short, reads⟩ := head before hb
  obtain ⟨short', reads'⟩ := tail after ha
  exact ⟨by rw [length_append]; omega, reads.bind reads'⟩

theorem Frames.check {read : Reader ε α} {k : α → Reader ε β} {a : α} {b : β} (frames : Frames writer read a n) (after : Reads (k a) [] b) :
    Frames writer (read >>= k) b n := by
  intro bytes written
  obtain ⟨short, reads⟩ := frames bytes written
  have step := reads.bind after
  rw [append_nil] at step
  exact ⟨short, step⟩

theorem Frames.last {read : Reader ε α} {f : α → β} {a : α} (frames : Frames writer read a n) :
    Frames writer (read >>= fun x => Pure.pure (f x)) (f a) n := frames.check (Reads.pure (f a))

theorem Frames.map {read : Reader ε α} {f : α → β} {a : α}
    (frames : Frames writer read a n) : Frames writer (f <$> read) (f a) n := by
  rw [map_eq_pure_bind]
  exact frames.last

theorem Frames.raw (short : ε) (bytes : Bytes) :
    Frames (Writer.raw bytes) (Reader.raw short bytes.length) bytes bytes.length := by
  intro written same
  cases same
  refine ⟨Nat.le_refl _, fun offset rest => ?_⟩
  simp [Reader.raw, StateT.run]

theorem Frames.uint (short : ε) (width : Nat) (value : Int) :
    Frames (Writer.uint width value) (Reader.uint short width) value.toNat width := by
  intro bytes written
  obtain ⟨low, high, rfl⟩ := Writer.uint_some.mp written
  have raw := Frames.raw short (beBytes width value.toNat) _ rfl
  simp only [beBytes_length] at raw
  have bound : value.toNat < 256 ^ width := by
    rw [Int.toNat_lt low]
    exact_mod_cast high
  refine ⟨by simp, ?_⟩
  have reads := raw.2.bind (k := fun read => Pure.pure (beNat read)) (Reads.pure _)
  rw [beNat_beBytes bound, append_nil] at reads
  exact reads

theorem Frames.ofExcept {read : Reader ε α} {a : α}
    (frames : Frames writer read a n) {f : α → Except ε β} {b : β} (valid : f a = .ok b) :
    Frames writer (read >>= fun x => Reader.ofExcept (f x)) b n := by
  apply frames.check
  rw [valid]
  exact Reads.pure b

theorem Frames.items {order : Bytes → Bytes → Bool} {disorder : ε} {write : α → Writer}
    {read : Reader ε β} {value : α → β} (size : α → Nat) (list : List α)
    (each : ∀ item ∈ list, Frames (write item) read (value item) (size item))
    (ordered : list.Pairwise fun x y =>
      ∀ before after, write x = some before → write y = some after → order before after = true)
    (previous : Option Bytes)
    (follows : ∀ before ∈ previous, ∀ item ∈ list, ∀ after, write item = some after →
      order before after = true) :
    Frames (Writer.each write list) (Reader.items order disorder read list.length previous)
      (list.map value) (list.map size).sum := by
  induction list generalizing previous with
  | nil => exact Frames.pure []
  | cons item list ih =>
    intro bytes written
    obtain ⟨before, after, hb, ha, rfl⟩ := Writer.append_some.mp written
    obtain ⟨short, reads⟩ := each item (by simp) before hb
    obtain ⟨headOrdered, tailOrdered⟩ := pairwise_cons.mp ordered
    obtain ⟨shortTail, readsTail⟩ := ih (fun x member => each x (by simp [member])) tailOrdered
      (some before) (fun b hb' x member c hc => by
        cases hb'
        exact headOrdered x member before c hb hc) after ha
    refine ⟨by simp only [length_append, map_cons, sum_cons]; omega, ?_⟩
    intro offset rest
    have admitted : previous.all (fun earlier => order earlier before) = true := by
      cases previous with
      | none => rfl
      | some earlier => exact follows earlier rfl item (by simp) before hb
    have span : (before ++ (after ++ rest)).take (offset + before.length - offset) = before := by
      rw [Nat.add_sub_cancel_left, take_left']
      rfl
    change (do
      let (item, stop) ← read.run ⟨offset, before ++ after ++ rest, false⟩
      let span := (before ++ after ++ rest).take (stop.offset - offset)
      if previous.all (fun earlier => order earlier span) then
        let (rest, done) ← (Reader.items order disorder read list.length (some span)).run stop
        Pure.pure (item :: rest, done)
      else throw (disorder, stop.offset)) = _
    have tail := readsTail (offset + before.length) rest
    rw [List.append_assoc, reads]
    simp only [Bind.bind, Except.bind, span, admitted, if_true, tail]
    change Except.ok _ = _
    rw [length_append, Nat.add_assoc, map_cons]

end Mandate.Lib.Wire
