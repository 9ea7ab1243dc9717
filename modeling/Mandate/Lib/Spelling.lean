import Mandate.Lib.Text

/-! What a reader took, told from what it returned. `Consumes read spells` says that a run
of `read` that met no mark advanced over bytes `spells` relates to its value: the converse
of `Frames`, by which an accepted spelling is the written one. -/
namespace Mandate.Lib.Wire
open List

variable {ε α β γ : Type}

abbrev Spelling (α : Type) := Bytes → α → Prop

def Consumes (read : Reader ε α) (spells : Spelling α) : Prop :=
  ∀ start value stop, read.run start = .ok (value, stop) → stop.marked = false →
    start.marked = false ∧ ∃ used, start.rest = used ++ stop.rest ∧
      stop.offset = start.offset + used.length ∧ spells used value

inductive Followed (first : Spelling α) (second : α → Spelling β) : Bytes → β → Prop
  | intro {a : α} {b : β} {before after : Bytes} (head : first before a) (tail : second a after b) :
      Followed first second (before ++ after) b

inductive Mapped (f : α → β) (spells : Spelling α) : Bytes → β → Prop
  | intro {a : α} {used : Bytes} (spelled : spells used a) : Mapped f spells used (f a)

namespace Consumes

theorem mono {read : Reader ε α} {p q : Spelling α} (consumes : Consumes read p)
    (weaker : ∀ used value, p used value → q used value) : Consumes read q := by
  intro start value stop run clean
  obtain ⟨before, used, split, moved, spelled⟩ := consumes start value stop run clean
  exact ⟨before, used, split, moved, weaker used value spelled⟩

theorem all {ι : Type} {read : Reader ε α} {p : Spelling α} {q : ι → Spelling α}
    (consumes : Consumes read p) (each : ∀ i, Consumes read (q i)) :
    Consumes read fun used value => p used value ∧ ∀ i, q i used value := by
  intro start value stop run clean
  obtain ⟨before, used, split, moved, spelled⟩ := consumes start value stop run clean
  refine ⟨before, used, split, moved, spelled, fun i => ?_⟩
  obtain ⟨_, other, split', _, spelled'⟩ := each i start value stop run clean
  have same : used ++ stop.rest = other ++ stop.rest := by rw [← split, split']
  rw [append_cancel_right same]
  exact spelled'

protected theorem pure (value : α) :
    Consumes (pure value : Reader ε α) fun used result => used = [] ∧ result = value := by
  intro start result stop run clean
  cases run
  exact ⟨clean, [], rfl, rfl, rfl, rfl⟩

theorem bind {read : Reader ε α} {k : α → Reader ε β} {p : Spelling α} {q : α → Spelling β}
    (head : Consumes read p) (tail : ∀ a, Consumes (k a) (q a)) : Consumes (read >>= k) (Followed p q) := by
  intro start value stop run clean
  rw [StateT.run_bind] at run
  cases first : read.run start with
  | error failed =>
    rw [first] at run
    cases run
  | ok step =>
    rw [first] at run
    obtain ⟨between, after, split, moved, spelled⟩ := tail step.1 step.2 value stop run clean
    obtain ⟨begun, before, split', moved', spelled'⟩ := head start step.1 step.2 first between
    refine ⟨begun, before ++ after, ?_, ?_, spelled', spelled⟩
    · rw [split', split, List.append_assoc]
    · rw [moved, moved', length_append, Nat.add_assoc]

theorem last {read : Reader ε α} {f : α → β} {p : Spelling α} (consumes : Consumes read p) :
    Consumes (read >>= fun a => Pure.pure (f a)) (Mapped f p) := by
  refine (consumes.bind fun a => Consumes.pure (f a)).mono ?_
  rintro _ _ ⟨spelled, rfl, rfl⟩
  rw [append_nil]
  exact ⟨spelled⟩

theorem map {read : Reader ε α} {f : α → β} {p : Spelling α} (consumes : Consumes read p) :
    Consumes (f <$> read) (Mapped f p) := by
  rw [map_eq_pure_bind]
  exact consumes.last

theorem raw (short : ε) (length : Nat) :
    Consumes (Reader.raw short length) fun used value => value = used ∧ used.length = length := by
  intro start value stop run clean
  simp only [StateT.run, Reader.raw] at run
  split at run
  · cases run
  · rename_i enough
    cases run
    have taken : (start.rest.take length).length = length := by
      rw [length_take]
      omega
    exact ⟨clean, start.rest.take length, (take_append_drop _ _).symm, by rw [taken], rfl, taken⟩

theorem uint (short : ε) (width : Nat) : Consumes (Reader.uint short width) fun used value =>
      value < 256 ^ width ∧ used = beBytes width value := by
  refine (raw short width).last.mono ?_
  rintro _ _ @⟨bytes, _, rfl, rfl⟩
  exact ⟨beNat_lt bytes, (beBytes_beNat bytes).symm⟩

theorem note (met : Bool) :
    Consumes (Reader.note met : Reader ε Unit) fun used _ => used = [] ∧ met = false := by
  intro start value stop run clean
  cases run
  simp only [Bool.or_eq_false_iff] at clean
  exact ⟨clean.1, [], rfl, rfl, rfl, clean.2⟩

theorem ofExcept (result : Except ε α) :
    Consumes (Reader.ofExcept result) fun used value => used = [] ∧ result = .ok value := by
  intro start value stop run clean
  cases result with
  | error code => cases run
  | ok found =>
    cases run
    exact ⟨clean, [], rfl, rfl, rfl, rfl⟩

theorem checked {read : Reader ε α} {p : Spelling α} {f : α → Except ε β} (consumes : Consumes read p) :
    Consumes (read >>= fun a => Reader.ofExcept (f a)) fun used b => ∃ a, f a = .ok b ∧ p used a := by
  refine (consumes.bind fun a => ofExcept (f a)).mono ?_
  rintro _ _ ⟨spelled, rfl, found⟩
  rw [append_nil]
  exact ⟨_, found, spelled⟩

theorem fail (code : ε) : Consumes (Reader.fail code : Reader ε α) fun _ _ => False := by
  intro start value stop run
  cases run

theorem finish (trailing : ε) : Consumes (Reader.finish trailing) fun used _ => used = [] := by
  intro start value stop run clean
  simp only [StateT.run, Reader.finish] at run
  split at run
  · cases run
    exact ⟨clean, [], rfl, rfl, rfl⟩
  · cases run

end Consumes

/-- The spellings of a list's items, one after another, each after the previous in `order`. -/
inductive Listed (order : Bytes → Bytes → Bool) (spells : Spelling α) :
    Option Bytes → Bytes → List α → Prop
  | nil (previous : Option Bytes) : Listed order spells previous [] []
  | cons {previous : Option Bytes} {before after : Bytes} {item : α} {items : List α}
      (follows : previous.all (fun earlier => order earlier before) = true)
      (spelled : spells before item) (rest : Listed order spells (some before) after items) :
      Listed order spells previous (before ++ after) (item :: items)

theorem Consumes.items {order : Bytes → Bytes → Bool} {disorder : ε} {read : Reader ε α}
    {p : Spelling α} (consumes : Consumes read p) (count : Nat) (previous : Option Bytes) :
    Consumes (Reader.items order disorder read count previous) fun used items =>
      items.length = count ∧ Listed order p previous used items := by
  induction count generalizing previous with
  | zero =>
    refine (Consumes.pure []).mono ?_
    rintro _ _ ⟨rfl, rfl⟩
    exact ⟨rfl, .nil previous⟩
  | succ count ih =>
    intro start value stop run clean
    change (read.run start >>= _) = _ at run
    cases first : read.run start with
    | error failed =>
      rw [first] at run
      cases run
    | ok step =>
      rw [first] at run
      simp only [Bind.bind, Except.bind] at run
      split at run
      · rename_i follows
        split at run
        · cases run
        · rename_i done tail
          cases run
          obtain ⟨between, after, split, moved, length, listed⟩ := ih _ _ _ _ tail clean
          obtain ⟨begun, before, split', moved', spelled⟩ := consumes _ _ _ first between
          have span : start.rest.take (step.2.offset - start.offset) = before := by
            rw [moved', Nat.add_sub_cancel_left, split', take_left']
            rfl
          rw [span] at follows listed
          refine ⟨begun, before ++ after, ?_, ?_, congrArg (· + 1) length, .cons follows spelled listed⟩
          · rw [split', split, List.append_assoc]
          · rw [moved, moved', length_append, Nat.add_assoc]
      · cases run

theorem Listed.written {order : Bytes → Bytes → Bool} {p : Spelling α} {write : β → Writer}
    {value : α → β → Prop} (each : ∀ used item result, p used item → value item result →
      write result = some used) {previous : Option Bytes} {used : Bytes} {items : List α}
    (listed : Listed order p previous used items) {results : List β}
    (valued : List.Forall₂ value items results) : Writer.each write results = some used := by
  induction listed generalizing results with
  | nil =>
    cases valued
    rfl
  | cons follows spelled rest ih =>
    cases valued with
    | cons here valued =>
      exact Writer.append_some.mpr ⟨_, _, each _ _ _ spelled here, ih valued, rfl⟩

end Mandate.Lib.Wire
