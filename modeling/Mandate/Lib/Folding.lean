import Mathlib.Data.List.Basic

/-! Folds that collect entries, one for every item met: each step adds an entry that covers its
item and only ever narrows the entries before it, so at the end every item is covered. -/
namespace Mandate.Lib.Folding
open List

variable {α β ε : Type}

inductive Folded (step : α → List β → List β → Prop) : List α → List β → List β → Prop
  | nil {entries : List β} : Folded step [] entries entries
  | cons {item : α} {items : List α} {before between after : List β} (here : step item before between)
      (rest : Folded step items between after) : Folded step (item :: items) before after

theorem folded_foldl (meet : List β → α → List β) (items : List α) (entries : List β) :
    Folded (fun item before after => after = meet before item) items entries (items.foldl meet entries) := by
  induction items generalizing entries with
  | nil => exact .nil
  | cons item items ih => exact .cons rfl (ih _)

theorem folded_foldlM {meet : List β → α → Except ε (List β)} {items : List α} {entries result : List β}
    (ok : items.foldlM meet entries = .ok result) :
    Folded (fun item before after => meet before item = .ok after) items entries result := by
  induction items generalizing entries with
  | nil =>
    obtain rfl := Except.ok.inj ok
    exact .nil
  | cons item items ih =>
    rw [foldlM_cons] at ok
    cases here : meet entries item with
    | error _ => simp [here, bind, Except.bind] at ok
    | ok between =>
      rw [here] at ok
      exact .cons here (ih ok)

theorem Folded.covered {step : α → List β → List β → Prop} (covers : β → α → Prop) (narrows : β → β → Prop)
    (refl : ∀ entry, narrows entry entry)
    (trans : ∀ {first second third}, narrows third second → narrows second first → narrows third first)
    (onward : ∀ {entry later item}, narrows later entry → covers entry item → covers later item)
    (here : ∀ {item before after}, step item before after → ∃ entry ∈ after, covers entry item)
    (kept : ∀ {item before after}, step item before after → ∀ entry ∈ before, ∃ later ∈ after, narrows later entry)
    {items : List α} {entries result : List β} (folded : Folded step items entries result) :
    (∀ item ∈ items, ∃ entry ∈ result, covers entry item) ∧
      ∀ entry ∈ entries, ∃ later ∈ result, narrows later entry := by
  induction folded with
  | nil => exact ⟨nofun, fun entry listed => ⟨entry, listed, refl entry⟩⟩
  | cons taken rest ih =>
    obtain ⟨covered, narrowed⟩ := ih
    refine ⟨forall_mem_cons.mpr ⟨?_, covered⟩, fun entry listed => ?_⟩
    · obtain ⟨entry, listed, covers_⟩ := here taken
      obtain ⟨later, present, narrower⟩ := narrowed entry listed
      exact ⟨later, present, onward narrower covers_⟩
    · obtain ⟨between, present, narrower⟩ := kept taken entry listed
      obtain ⟨later, present', narrower'⟩ := narrowed between present
      exact ⟨later, present', trans narrower' narrower⟩

theorem foldlM_fixed {meet : List β → α → Except ε (List β)} {items : List α} {entries : List β}
    (fixed : ∀ item ∈ items, meet entries item = .ok entries) : items.foldlM meet entries = .ok entries := by
  induction items with
  | nil => rfl
  | cons item items ih =>
    rw [foldlM_cons, fixed item mem_cons_self]
    exact ih fun other listed => fixed other (mem_cons_of_mem _ listed)

end Mandate.Lib.Folding
