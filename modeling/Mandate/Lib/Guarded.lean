import Mandate.Lib.Optimistic

/-! Programs held to one rule only: an append is decided on the view read last. Nothing is asked of
what follows a reply, and nothing of the other clients; still each commit is decided on the very cell
it extends, and a batch that leaves a lasting mark is committed at most once. -/
namespace Mandate.Lib.Optimistic
open Lib.Machine List

variable {κ σ ν τ β ρ φ α γ ι : Type}

def Program.map (f : α → γ) : Program κ ν τ β ρ α → Program κ ν τ β ρ γ
  | .done result => .done (f result)
  | .failed => .failed
  | .read key next => .read key fun view => (next view).map f
  | .append key expected batch next => .append key expected batch fun reply => (next reply).map f

def deciding (decides : κ → ν → β → Prop) : Contract κ σ ν β α where
  decides := decides
  warrants _ _ _ _ _ := True
  silent _ := True

section Discipline
variable (S : Store κ σ ν τ β ρ φ) (stamp : ν → τ) (sound : κ → σ → Prop) (decides : κ → ν → β → Prop)

/-- Every append is decided on the view read last, which a sound cell showed, and expects its stamp. -/
def Guarded : Program κ ν τ β ρ α → Option (κ × ν) → Prop
  | .done _, _ => True
  | .failed, _ => True
  | .read key next, _ => ∀ view, (∃ cell, sound key cell ∧ S.view key cell = view) →
      Guarded (next view) (some (key, view))
  | .append key expected batch next, seen => (∃ view, seen = some (key, view) ∧ expected = stamp view ∧
      decides key view batch) ∧ ∀ reply, Guarded (next reply) none

variable {S stamp sound decides}

theorem Guarded.forget {program : Program κ ν τ β ρ α} (guarded : Guarded S stamp sound decides program none)
    (seen : Option (κ × ν)) : Guarded S stamp sound decides program seen := by
  cases program with
  | append => obtain ⟨⟨_, nothing, _⟩, _⟩ := guarded; cases nothing
  | _ => exact guarded

theorem Guarded.map {f : α → γ} {program : Program κ ν τ β ρ α} {seen : Option (κ × ν)}
    (guarded : Guarded S stamp sound decides program seen) :
    Guarded S stamp sound decides (program.map f) seen := by
  induction program generalizing seen with
  | done | failed => exact guarded
  | read key next ih => exact fun view shown => ih view (guarded view shown)
  | append key expected batch next ih => exact ⟨guarded.1, fun reply => ih reply (guarded.2 reply)⟩

theorem Guarded.weaken {loose : κ → ν → β → Prop} {program : Program κ ν τ β ρ α} {seen : Option (κ × ν)}
    (guarded : Guarded S stamp sound decides program seen)
    (implied : ∀ key view batch, decides key view batch → loose key view batch) :
    Guarded S stamp sound loose program seen := by
  induction program generalizing seen with
  | done | failed => exact guarded
  | read key next ih => exact fun view shown => ih view (guarded view shown)
  | append key expected batch next ih =>
    obtain ⟨⟨view, read, expects, decided⟩, onward⟩ := guarded
    exact ⟨⟨view, read, expects, implied _ _ _ decided⟩, fun reply => ih reply (onward reply)⟩

end Discipline

section Runs
variable [DecidableEq κ] [DecidableEq ι] {S : Store κ σ ν τ β ρ φ} {stamp : ν → τ}
  {sound : κ → σ → Prop} {age : σ → Nat} {seenAge : ν → Nat} {decides : κ → ν → β → Prop}
  {log : List (System κ σ ν τ β ρ α ι × Option (Commit κ σ β ι))} {start finish : System κ σ ν τ β ρ α ι}
  (lawful : Lawful S stamp sound age seenAge) (trace : Trace (Turn S) start log finish)
  (cells : ∀ key, sound key (start.cells key))
include lawful trace cells

theorem cells_sound : ∀ key, sound key (finish.cells key) := by
  refine trace.history (fun _ (sys : System κ σ ν τ β ρ α ι) => ∀ key, sound key (sys.cells key)) cells ?_
  intro log before label after _ kept taken key
  cases taken with
  | read => exact kept key
  | rejected => exact kept key
  | @committed i written expected batch fate reply next published lost turn replied =>
    by_cases here : key = written
    · subst here
      simpa using lawful.kept (kept key) replied
    · simpa [here] using kept key

theorem guarded_commits {i : ι} (guarded : Guarded S stamp sound decides (start.clients i) none) :
    ∀ c ∈ commits log, c.client = i → Decided S stamp sound (deciding (α := α) decides) c := by
  let holds (log : List (System κ σ ν τ β ρ α ι × Option (Commit κ σ β ι))) (sys : System κ σ ν τ β ρ α ι) :=
    (∃ seen, Fits S age seenAge sys.cells seen ∧ Guarded S stamp sound decides (sys.clients i) seen) ∧
      ∀ c ∈ commits log, c.client = i → Decided S stamp sound (deciding (α := α) decides) c
  refine (trace.history holds ⟨⟨none, by simp [Fits], guarded⟩, by simp [commits]⟩ ?_).2
  intro log before label after earlier held taken
  obtain ⟨⟨seen, fits, here⟩, decided⟩ := held
  have safe := cells_sound lawful earlier cells
  cases taken with
  | @read j key next turn =>
    refine ⟨?_, by simpa [commits_append] using decided⟩
    by_cases mine : i = j
    · subst mine
      rw [turn] at here
      refine ⟨some (key, S.view key (before.cells key)), ?_, ?_⟩
      · intro other view shown
        obtain ⟨rfl, rfl⟩ := Prod.mk.inj (Option.some.inj shown)
        exact ⟨Nat.le_of_eq (lawful.viewed _ _), fun _ => rfl⟩
      · simpa using here _ ⟨_, safe key, rfl⟩
    · exact ⟨seen, fits, by simpa [mine] using here⟩
  | @rejected j key expected batch fate reply next turn replied =>
    refine ⟨?_, by simpa [commits_append] using decided⟩
    by_cases mine : i = j
    · subst mine
      rw [turn] at here
      refine ⟨none, by simp [Fits], ?_⟩
      cases reply with
      | none => simp [Guarded]
      | some reply => simpa using here.2 reply
    · exact ⟨seen, fits, by simpa [mine] using here⟩
  | @committed j key expected batch fate reply next published lost turn replied =>
    have grown := lawful.older (safe key) replied
    by_cases mine : i = j
    · subst mine
      rw [turn] at here
      obtain ⟨⟨view, read, rfl, approved⟩, onward⟩ := here
      -- The view is the cell's own: a cell that has grown since would have refused the stamp.
      have same := (fits key view read).2 (lawful.current (safe key) replied)
      refine ⟨⟨none, by simp [Fits], ?_⟩, ?_⟩
      · rcases lost with _ | _ <;> rcases reply with _ | reply <;> simp [Guarded, onward]
      · intro c made owner
        rw [commits_append, Option.toList_some] at made
        rcases mem_append.mp made with old | new
        · exact decided c old owner
        · obtain rfl := mem_singleton.mp new
          exact ⟨safe key, by rw [same]; exact approved, fate, reply, by rw [same]; exact replied⟩
    · refine ⟨⟨seen, fits.updated grown, by simpa [mine] using here⟩, ?_⟩
      intro c made owner
      rw [commits_append, Option.toList_some] at made
      rcases mem_append.mp made with old | new
      · exact decided c old owner
      · obtain rfl := mem_singleton.mp new
        exact absurd owner.symm mine

theorem marked_once {key : κ} {mark : σ → Prop}
    (lasts : ∀ {fate cell expected batch reply after}, sound key cell → mark cell →
      S.append fate key cell expected batch = (reply, some after) → mark after)
    (marks : Commit κ σ β ι → Bool)
    (fresh : ∀ c ∈ commits log, marks c = true → c.key = key ∧ ¬ mark c.before ∧ mark c.after) :
    ((commits log).filter marks).length ≤ 1 := by
  let holds (log : List (System κ σ ν τ β ρ α ι × Option (Commit κ σ β ι))) (sys : System κ σ ν τ β ρ α ι) :=
    (∀ c ∈ commits log, marks c = true → c.key = key ∧ ¬ mark c.before ∧ mark c.after) →
      ((commits log).filter marks).length ≤ 1 ∧ ((commits log).filter marks ≠ [] → mark (sys.cells key))
  refine (trace.history holds ?_ ?_ fresh).1
  · intro _
    simp [commits]
  · intro log before label after earlier held taken fresh
    have safe := cells_sound lawful earlier cells
    have earlier := held fun c made => fresh c (by rw [commits_append]; exact mem_append_left _ made)
    cases taken with
    | read => simpa [commits_append] using earlier
    | rejected => simpa [commits_append] using earlier
    | @committed j written expected batch fate reply next published lost turn replied =>
      obtain ⟨few, marked⟩ := earlier
      have own := fresh ⟨j, written, before.cells written, batch, published, lost⟩ (by simp [commits_append])
      have still : mark (before.cells key) → mark (Function.update before.cells written published key) := by
        intro here
        by_cases moved : key = written
        · subst moved
          simpa using lasts (safe key) here replied
        · simpa [moved] using here
      rw [commits_append, Option.toList_some, filter_append, filter_cons, filter_nil]
      split
      · rename_i chosen
        obtain ⟨rfl, unmarked, after⟩ := own chosen
        have none_before : (commits log).filter marks = [] := by
          by_contra some_before
          exact unmarked (marked some_before)
        rw [none_before]
        exact ⟨Nat.le_refl _, fun _ => by simpa using after⟩
      · rw [append_nil]
        exact ⟨few, fun some_before => still (marked some_before)⟩

end Runs

end Mandate.Lib.Optimistic
