import Mathlib.Data.List.Basic

/-! Labelled transition systems: traces that record each step taken and the state it was
taken in, and the two rules by which a property of steps becomes one of whole runs. -/
namespace Mandate.Lib.Machine
open List

variable {State Label : Type} {step : State → Label → State → Prop}

/-- The steps from `start` to the last state, each with the state before it. -/
inductive Trace (step : State → Label → State → Prop) (start : State) :
    List (State × Label) → State → Prop
  | nil : Trace step start [] start
  | snoc {log : List (State × Label)} {before after : State} {label : Label}
      (trace : Trace step start log before) (taken : step before label after) :
      Trace step start (log ++ [(before, label)]) after

def Reaches (step : State → Label → State → Prop) (start finish : State) : Prop :=
  ∃ log, Trace step start log finish

theorem Reaches.refl (start : State) : Reaches step start start := ⟨[], .nil⟩

variable {start : State} {before : State} {label : Label}

theorem Reaches.extend {after : State}
    (reaches : Reaches step start before) (taken : step before label after) : Reaches step start after := by
  obtain ⟨log, trace⟩ := reaches
  exact ⟨_, trace.snoc taken⟩

variable {finish : State} {log : List (State × Label)}

theorem Trace.history (holds : List (State × Label) → State → Prop) (trace : Trace step start log finish)
    (initial : holds [] start)
    (preserved : ∀ {log before label after}, Trace step start log before → holds log before →
      step before label after → holds (log ++ [(before, label)]) after) : holds log finish := by
  induction trace with
  | nil => exact initial
  | snoc earlier taken ih => exact preserved earlier ih taken

theorem Reaches.induct (holds : State → Prop) (reaches : Reaches step start finish) (initial : holds start)
    (preserved : ∀ {before label after}, Reaches step start before → holds before →
      step before label after → holds after) : holds finish := by
  obtain ⟨log, trace⟩ := reaches
  exact trace.history (fun _ => holds) initial fun earlier before taken =>
    preserved ⟨_, earlier⟩ before taken

theorem Reaches.trans {start middle finish : State} (first : Reaches step start middle)
    (second : Reaches step middle finish) : Reaches step start finish :=
  second.induct (Reaches step start) first fun _ before taken => before.extend taken

theorem Trace.cons {start next finish : State} {label : Label} {log : List (State × Label)}
    (taken : step start label next) (trace : Trace step next log finish) :
    Trace step start ((start, label) :: log) finish := by
  induction trace with
  | nil => exact Trace.nil.snoc taken
  | snoc _ last ih => exact ih.snoc last

theorem Trace.append {middle : State} {first second : List (State × Label)}
    (before : Trace step start first middle) (after : Trace step middle second finish) :
    Trace step start (first ++ second) finish := by
  induction after with
  | nil => rw [append_nil]; exact before
  | snoc _ taken ih => rw [← List.append_assoc]; exact ih.snoc taken

theorem Trace.split {earlier later : List (State × Label)}
    (trace : Trace step start log finish) (parts : log = earlier ++ (before, label) :: later) :
    ∃ after, Trace step start earlier before ∧ step before label after ∧ Trace step after later finish := by
  induction trace generalizing later with
  | nil => simp at parts
  | @snoc log last after other prior taken ih =>
    rcases eq_nil_or_concat later with rfl | ⟨shorter, entry, rfl⟩
    · obtain ⟨rfl, same⟩ := append_inj' parts rfl
      obtain ⟨rfl, rfl⟩ := Prod.mk.inj (List.cons.inj same).1
      exact ⟨after, prior, taken, .nil⟩
    · rw [concat_eq_append, ← cons_append, ← List.append_assoc] at parts
      obtain ⟨rfl, same⟩ := append_inj' parts rfl
      obtain rfl := (List.cons.inj same).1
      obtain ⟨next, reached, here, onward⟩ := ih rfl
      rw [concat_eq_append]
      exact ⟨next, reached, here, onward.snoc taken⟩

/-- Where a function says what each step leads to, a run can be computed. -/
def replay (next : State → Label → Option State) (start : State) :
    List Label → Option (List (State × Label) × State)
  | [] => some ([], start)
  | label :: labels => do
    let after ← next start label
    let (log, finish) ← replay next after labels
    some ((start, label) :: log, finish)

variable {next : State → Label → Option State} {labels : List Label}

theorem replay_trace (replayed : replay next start labels = some (log, finish)) :
    Trace (fun before label after => next before label = some after) start log finish := by
  induction labels generalizing start log with
  | nil =>
    obtain ⟨rfl, rfl⟩ := Prod.mk.inj (Option.some.inj replayed)
    exact .nil
  | cons label labels ih =>
    obtain ⟨after, taken, replayed⟩ := Option.bind_eq_some_iff.mp replayed
    obtain ⟨⟨rest, last⟩, played, replayed⟩ := Option.bind_eq_some_iff.mp replayed
    obtain ⟨rfl, rfl⟩ := Prod.mk.inj (Option.some.inj replayed)
    exact (ih played).cons taken

theorem replay_labels (replayed : replay next start labels = some (log, finish)) :
    log.map Prod.snd = labels := by
  induction labels generalizing start log with
  | nil =>
    obtain ⟨rfl, rfl⟩ := Prod.mk.inj (Option.some.inj replayed)
    rfl
  | cons label labels ih =>
    obtain ⟨after, taken, replayed⟩ := Option.bind_eq_some_iff.mp replayed
    obtain ⟨⟨rest, last⟩, played, replayed⟩ := Option.bind_eq_some_iff.mp replayed
    obtain ⟨rfl, rfl⟩ := Prod.mk.inj (Option.some.inj replayed)
    rw [map_cons, ih played]

end Mandate.Lib.Machine
