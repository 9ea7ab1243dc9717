import Mandate.Lib.Format

/-! What a reader accepts, whether or not a text it takes carries a mark. `Gives read used
value` says that `read` returns `value` on the bytes `used`; `Takes read spells`, that every
run took bytes `spells` relates to its value. -/
namespace Mandate.Lib.Wire
open List

variable {ε α β : Type}

def Gives (read : Reader ε α) (used : Bytes) (value : α) : Prop :=
  ∀ offset rest marked, ∃ marked',
    read.run ⟨offset, used ++ rest, marked⟩ = .ok (value, ⟨offset + used.length, rest, marked'⟩)

def Takes (read : Reader ε α) (spells : Spelling α) : Prop :=
  ∀ start value stop, read.run start = .ok (value, stop) → ∃ used, start.rest = used ++ stop.rest ∧
    stop.offset = start.offset + used.length ∧ spells used value

namespace Gives

protected theorem pure (value : α) : Gives (pure value : Reader ε α) [] value := by
  intro offset rest marked
  exact ⟨marked, rfl⟩

theorem bind {read : Reader ε α} {k : α → Reader ε β} {before after : Bytes} {a : α} {b : β}
    (first : Gives read before a) (second : Gives (k a) after b) :
    Gives (read >>= k) (before ++ after) b := by
  intro offset rest marked
  obtain ⟨between, run⟩ := first offset (after ++ rest) marked
  obtain ⟨marked', run'⟩ := second (offset + before.length) rest between
  refine ⟨marked', ?_⟩
  rw [StateT.run_bind, List.append_assoc, run]
  change (k a).run _ = _
  rw [run', length_append, Nat.add_assoc]

variable {used : Bytes}

theorem check {read : Reader ε α} {k : α → Reader ε β} {a : α} {b : β}
    (first : Gives read used a) (after : Gives (k a) [] b) : Gives (read >>= k) used b := by
  have step := first.bind after
  rwa [append_nil] at step

theorem last {read : Reader ε α} {f : α → β} {a : α} (first : Gives read used a) :
    Gives (read >>= fun x => Pure.pure (f x)) used (f a) := first.check (Gives.pure (f a))

theorem map {read : Reader ε α} {f : α → β} {a : α} (first : Gives read used a) :
    Gives (f <$> read) used (f a) := by
  rw [map_eq_pure_bind]
  exact first.last

theorem raw (short : ε) (bytes : Bytes) : Gives (Reader.raw short bytes.length) bytes bytes := by
  intro offset rest marked
  exact ⟨marked, by simp [StateT.run, Reader.raw]⟩

theorem uint (short : ε) {width value : Nat} (bound : value < 256 ^ width) :
    Gives (Reader.uint short width) (beBytes width value) value := by
  have bytes := raw short (beBytes width value)
  rw [beBytes_length] at bytes
  have number := bytes.last (f := beNat)
  rw [beNat_beBytes bound] at number
  exact number

theorem note (met : Bool) : Gives (Reader.note met : Reader ε Unit) [] () := by
  intro offset rest marked
  exact ⟨marked || met, rfl⟩

theorem ofExcept {result : Except ε α} {value : α} (found : result = .ok value) :
    Gives (Reader.ofExcept result) [] value := by
  rw [found]
  exact Gives.pure value

end Gives

namespace Takes

theorem mono {read : Reader ε α} {p q : Spelling α} (takes : Takes read p)
    (weaker : ∀ used value, p used value → q used value) : Takes read q := by
  intro start value stop run
  obtain ⟨used, split, moved, spelled⟩ := takes start value stop run
  exact ⟨used, split, moved, weaker used value spelled⟩

protected theorem pure (value : α) :
    Takes (pure value : Reader ε α) fun used result => used = [] ∧ result = value := by
  intro start result stop run
  cases run
  exact ⟨[], rfl, rfl, rfl, rfl⟩

theorem bind {read : Reader ε α} {k : α → Reader ε β} {p : Spelling α} {q : α → Spelling β}
    (head : Takes read p) (tail : ∀ a, Takes (k a) (q a)) : Takes (read >>= k) (Followed p q) := by
  intro start value stop run
  obtain ⟨a, middle, first, second⟩ := Reader.bind_ok run
  obtain ⟨after, split, moved, spelled⟩ := tail a middle value stop second
  obtain ⟨before, split', moved', spelled'⟩ := head start a middle first
  refine ⟨before ++ after, ?_, ?_, spelled', spelled⟩
  · rw [split', split, List.append_assoc]
  · rw [moved, moved', length_append, Nat.add_assoc]

theorem last {read : Reader ε α} {f : α → β} {p : Spelling α} (takes : Takes read p) :
    Takes (read >>= fun a => Pure.pure (f a)) (Mapped f p) := by
  refine (takes.bind fun a => Takes.pure (f a)).mono ?_
  rintro _ _ ⟨spelled, rfl, rfl⟩
  rw [append_nil]
  exact ⟨spelled⟩

theorem map {read : Reader ε α} {f : α → β} {p : Spelling α} (takes : Takes read p) :
    Takes (f <$> read) (Mapped f p) := by
  rw [map_eq_pure_bind]
  exact takes.last

theorem raw (short : ε) (length : Nat) :
    Takes (Reader.raw short length) fun used value => value = used ∧ used.length = length := by
  intro start value stop run
  simp only [StateT.run, Reader.raw] at run
  split at run
  · cases run
  · rename_i enough
    cases run
    have taken : (start.rest.take length).length = length := by
      rw [length_take]
      omega
    exact ⟨start.rest.take length, (take_append_drop _ _).symm, by rw [taken], rfl, taken⟩

theorem uint (short : ε) (width : Nat) :
    Takes (Reader.uint short width) fun used value => value < 256 ^ width ∧ used = beBytes width value := by
  refine (raw short width).last.mono ?_
  rintro _ _ @⟨bytes, _, rfl, rfl⟩
  exact ⟨beNat_lt bytes, (beBytes_beNat bytes).symm⟩

theorem note (met : Bool) : Takes (Reader.note met : Reader ε Unit) fun used _ => used = [] := by
  intro start value stop run
  cases run
  exact ⟨[], rfl, rfl, rfl⟩

theorem ofExcept (result : Except ε α) :
    Takes (Reader.ofExcept result) fun used value => used = [] ∧ result = .ok value := by
  intro start value stop run
  cases result with
  | error code => cases run
  | ok found =>
    cases run
    exact ⟨[], rfl, rfl, rfl, rfl⟩

theorem checked {read : Reader ε α} {p : Spelling α} {f : α → Except ε β} (takes : Takes read p) :
    Takes (read >>= fun a => Reader.ofExcept (f a)) fun used b => ∃ a, f a = .ok b ∧ p used a := by
  refine (takes.bind fun a => ofExcept (f a)).mono ?_
  rintro _ _ ⟨spelled, rfl, found⟩
  rw [append_nil]
  exact ⟨_, found, spelled⟩

theorem fail (code : ε) : Takes (Reader.fail code : Reader ε α) fun _ _ => False := by
  intro start value stop run
  cases run

theorem finish (trailing : ε) : Takes (Reader.finish trailing) fun used _ => used = [] := by
  intro start value stop run
  simp only [StateT.run, Reader.finish] at run
  split at run
  · cases run
    exact ⟨[], rfl, rfl, rfl⟩
  · cases run

end Takes

section Whole
variable {ι : Type} {header : Reader ε Unit} {body : Reader ε ι} {t : ε}

theorem whole_gives {before after : Bytes} {input : ι} (head : Gives header before ())
    (tail : Gives body after input) :
    ∃ stop, (whole header body t).run ⟨0, before ++ after, false⟩ = .ok (input, stop) := by
  obtain ⟨marked, run⟩ := (head.bind (k := fun _ => body) tail) 0 [] false
  rw [append_nil, Nat.zero_add] at run
  have grouped : whole header body t = (header >>= fun _ => body) >>= fun input =>
      (do Reader.finish t; pure input) := by
    simp only [whole, bind_assoc]
  refine ⟨⟨(before ++ after).length, [], marked⟩, ?_⟩
  rw [grouped, StateT.run_bind, run]
  rfl

theorem whole_takes {p : Spelling Unit} {q : Spelling ι} (head : Takes header p) (tail : Takes body q)
    {bytes : Bytes} {input : ι} {stop : Cursor}
    (run : (whole header body t).run ⟨0, bytes, false⟩ = .ok (input, stop)) :
    ∃ before after, bytes = before ++ after ∧ p before () ∧ q after input := by
  have takes : Takes (whole header body t) fun used input =>
      ∃ before after, used = before ++ after ∧ p before () ∧ q after input := by
    refine (head.bind fun _ => tail.bind fun input => (Takes.finish t).bind fun _ =>
      Takes.pure input).mono ?_
    rintro _ _ ⟨first, second, rfl, rfl, rfl⟩
    exact ⟨_, _, by simp, first, second⟩
  obtain ⟨used, split, _, spelled⟩ := takes _ _ _ run
  rw [whole_ended run, append_nil] at split
  dsimp only at split
  rw [split]
  exact spelled

end Whole
end Mandate.Lib.Wire
