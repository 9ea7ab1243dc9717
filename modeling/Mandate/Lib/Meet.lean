import Mathlib.Data.List.Perm.Basic
import Mathlib.Data.Option.Basic

/-! Meets that need not exist: a fold of one does not depend on the order of what it is taken over,
neither whether there is a result nor what it is. -/
namespace Mandate.Lib.Meet
open List

variable {α β : Type}

structure Meets (meet : α → α → Option α) : Prop where
  comm : ∀ a b, meet a b = meet b a
  swap : ∀ a b c, (meet a b).bind (meet · c) = (meet a c).bind (meet · b)

namespace Meets

theorem total {op : α → α → α} (comm : ∀ a b, op a b = op b a) (assoc : ∀ a b c, op (op a b) c = op a (op b c)) :
    Meets fun a b => some (op a b) where
  comm a b := congrArg some (comm a b)
  swap a b c := by
    rw [Option.bind_some, Option.bind_some, assoc, comm b c, ← assoc]

theorem both {f : α → α → Option α} {g : β → β → Option β} (first : Meets f) (second : Meets g) :
    Meets fun a b : α × β => (f a.1 b.1).bind fun x => (g a.2 b.2).map fun y => (x, y) where
  comm a b := by
    rw [first.comm, second.comm]
  swap a b c := by
    have left := first.swap a.1 b.1 c.1
    have right := second.swap a.2 b.2 c.2
    have paired : ∀ (s : Option α) (t : Option β) (d : α × β), ((s.bind fun x => t.map fun y => (x, y)).bind fun p =>
        (f p.1 d.1).bind fun x => (g p.2 d.2).map fun y => (x, y)) =
        (s.bind (f · d.1)).bind fun x => (t.bind (g · d.2)).map fun y => (x, y) := by
      intro s t d
      cases s with
      | none => rfl
      | some x =>
        cases t with
        | none => simp
        | some y => rfl
    rw [paired, paired, left, right]

theorem pulled {f : α → α → Option α} {g : β → β → Option β} {embed : α → β} (apart : Function.Injective embed)
    (meets : Meets g) (same : ∀ a b, (f a b).map embed = g (embed a) (embed b)) : Meets f where
  comm a b := by
    apply Option.map_injective apart
    rw [same, same, meets.comm]
  swap a b c := by
    have moved : ∀ (s : Option α) (d : α), ((s.bind (f · d)).map embed) = (s.map embed).bind (g · (embed d)) := by
      intro s d
      cases s with
      | none => rfl
      | some x => exact same x d
    apply Option.map_injective apart
    rw [moved, moved, same, same, meets.swap]

variable {meet : α → α → Option α}

theorem foldlM_perm (meets : Meets meet) {items items' : List α} (perm : items.Perm items') (a : α) :
    items.foldlM meet a = items'.foldlM meet a := by
  induction perm generalizing a with
  | nil => rfl
  | cons b _ ih =>
    rw [foldlM_cons, foldlM_cons]
    exact congrArg _ (funext ih)
  | swap b c rest =>
    have swapped := congrArg (fun s => s.bind fun x => rest.foldlM meet x) (meets.swap a c b)
    simp only [Option.bind_assoc] at swapped
    simpa only [foldlM_cons, Option.bind_eq_bind] using swapped
  | trans _ _ ih ih' => rw [ih, ih']

theorem foldlM_perm_cons (meets : Meets meet) {a b : α} {items items' : List α} (perm : (a :: items).Perm (b :: items')) :
    items.foldlM meet a = items'.foldlM meet b := by
  suffices whole : ∀ {l l' : List α}, l.Perm l' → ∀ {a b : α} {items items' : List α}, l = a :: items → l' = b :: items' →
      items.foldlM meet a = items'.foldlM meet b from whole perm rfl rfl
  intro l l' perm
  induction perm with
  | nil => intro a b items items' first _; cases first
  | cons c rest _ =>
    rintro a b items items' ⟨⟩ ⟨⟩
    exact meets.foldlM_perm rest _
  | swap c d rest =>
    rintro a b items items' ⟨⟩ ⟨⟩
    rw [foldlM_cons, foldlM_cons, meets.comm]
  | @trans l₁ l₂ l₃ _ _ ih ih' =>
    intro a b items items' first last
    cases l₂ with
    | nil => simp_all
    | cons c middle => exact (ih first rfl).trans (ih' rfl last)

end Meets

end Mandate.Lib.Meet
