import Mandate.Lib.Spelling

/-! A byte format: a writer of objects, a reader of whole inputs and a validator. A lawful
format reads back what it writes; what it accepts it would have written, unless one of the
texts it read began with a mark. -/
namespace Mandate.Lib.Wire

structure Format (ε δ ι α : Type) where
  write : α → Writer
  read : Reader ε ι
  validate : ι → Except δ α

namespace Format
variable {ε δ ι α : Type}

def encode (f : Format ε δ ι α) (x : α) : Bytes := (f.write x).getD []

def Accepts (f : Format ε δ ι α) (bytes : Bytes) (x : α) : Prop :=
  ∃ input stop, f.read.run ⟨0, bytes, false⟩ = .ok (input, stop) ∧ f.validate input = .ok x

/-- No text read from the bytes begins with the mark its decoding drops. -/
def Unmarked (f : Format ε δ ι α) (bytes : Bytes) : Prop :=
  ∀ input stop, f.read.run ⟨0, bytes, false⟩ = .ok (input, stop) → stop.marked = false

structure Lawful (f : Format ε δ ι α) : Prop where
  total : ∀ x, (f.write x).Total
  framed : ∀ x bytes, f.write x = some bytes → ∃ input,
    f.read.run ⟨0, bytes, false⟩ = .ok (input, ⟨bytes.length, [], false⟩) ∧ f.validate input = .ok x
  spells : Consumes f.read fun used input => ∀ x, f.validate input = .ok x → f.write x = some used
  ended : ∀ start input stop, f.read.run start = .ok (input, stop) → stop.rest = []

variable {f : Format ε δ ι α}

theorem written (lawful : f.Lawful) (x : α) : f.write x = some (f.encode x) := by
  obtain ⟨bytes, all⟩ := lawful.total x
  rw [encode, all]
  rfl

theorem accepts_encode (lawful : f.Lawful) (x : α) : f.Accepts (f.encode x) x := by
  obtain ⟨input, run, valid⟩ := lawful.framed x _ (written lawful x)
  exact ⟨input, _, run, valid⟩

theorem unmarked_encode (lawful : f.Lawful) (x : α) : f.Unmarked (f.encode x) := by
  intro input stop run
  obtain ⟨other, again, _⟩ := lawful.framed x _ (written lawful x)
  rw [run] at again
  cases again
  rfl

theorem encode_of_accepts (lawful : f.Lawful) {bytes : Bytes} {x : α} (accepts : f.Accepts bytes x) :
    f.encode x = bytes ↔ f.Unmarked bytes := by
  constructor
  · rintro rfl
    exact unmarked_encode lawful x
  · intro unmarked
    obtain ⟨input, stop, run, valid⟩ := accepts
    have clean := unmarked input stop run
    have ended := lawful.ended _ _ _ run
    obtain ⟨_, used, split, _, spelled⟩ := lawful.spells _ _ _ run clean
    have same := spelled x valid
    rw [written lawful x] at same
    simp only [ended, List.append_nil] at split
    rw [Option.some.inj same, split]

end Format

def whole {ε ι : Type} (header : Reader ε Unit) (body : Reader ε ι) (trailing : ε) : Reader ε ι := do
  header
  let input ← body
  Reader.finish trailing
  pure input

variable {start stop : Cursor}

theorem Reader.bind_ok {ε α β : Type} {read : Reader ε α} {k : α → Reader ε β}
    {value : β} (run : (read >>= k).run start = .ok (value, stop)) :
    ∃ a middle, read.run start = .ok (a, middle) ∧ (k a).run middle = .ok (value, stop) := by
  rw [StateT.run_bind] at run
  cases first : read.run start with
  | error failed =>
    rw [first] at run
    cases run
  | ok step =>
    rw [first] at run
    exact ⟨step.1, step.2, rfl, run⟩

theorem whole_ended {ε ι : Type} {header : Reader ε Unit} {body : Reader ε ι} {trailing : ε} {input : ι} (run : (whole header body trailing).run start = .ok (input, stop)) :
    stop.rest = [] := by
  obtain ⟨_, _, _, run⟩ := Reader.bind_ok run
  obtain ⟨value, middle, _, run⟩ := Reader.bind_ok run
  obtain ⟨_, last, finished, run⟩ := Reader.bind_ok run
  cases run
  simp only [StateT.run, Reader.finish] at finished
  by_cases empty : middle.rest.isEmpty = true
  · rw [if_pos empty] at finished
    cases finished
    exact List.isEmpty_iff.mp empty
  · rw [if_neg empty] at finished
    cases finished

theorem whole_framed {ε ι : Type} {header : Reader ε Unit} {body : Reader ε ι} {trailing : ε}
    {first second : Writer} {input : ι} {m n : Nat} (head : Frames first header () m)
    (frames : Frames second body input n) {bytes : Bytes} (written : first ++ second = some bytes) :
    (whole header body trailing).run ⟨0, bytes, false⟩ = .ok (input, ⟨bytes.length, [], false⟩) := by
  obtain ⟨_, reads⟩ := head.bind (k := fun _ => body) frames bytes written
  have run := reads 0 []
  rw [List.append_nil, Nat.zero_add] at run
  have grouped : whole header body trailing = (header >>= fun _ => body) >>= fun input =>
      (do Reader.finish trailing; pure input) := by
    simp only [whole, bind_assoc]
  rw [grouped, StateT.run_bind, run]
  rfl

theorem whole_spells {ε ι : Type} {header : Reader ε Unit} {body : Reader ε ι} (trailing : ε)
    {p : Spelling Unit} {q : Spelling ι} (head : Consumes header p) (tail : Consumes body q) :
    Consumes (whole header body trailing) fun used input =>
      ∃ before after, used = before ++ after ∧ p before () ∧ q after input := by
  refine (head.bind fun _ => tail.bind fun input => (Consumes.finish trailing).bind fun _ =>
    Consumes.pure input).mono ?_
  rintro _ _ ⟨first, second, rfl, rfl, rfl⟩
  exact ⟨_, _, by simp, first, second⟩

end Mandate.Lib.Wire
