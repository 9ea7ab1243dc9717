import Mathlib.Data.List.Range
import Mathlib.Data.List.Nodup

/-! Packed arrays: of a range of slots some are occupied, and the items of the occupied ones stand
in slot order without gaps, each at the number of occupied slots before its own. -/
namespace Mandate.Lib.Packed
open List

variable {α : Type} {occupied : Nat → Bool} {items : List α}

def rank (occupied : Nat → Bool) (slot : Nat) : Nat := (List.range slot).countP occupied

def read (occupied : Nat → Bool) (items : List α) (slot : Nat) : Option α :=
  if occupied slot then items[rank occupied slot]? else none

def fill (occupied : Nat → Bool) (slot : Nat) : Nat → Bool := fun other => other == slot || occupied other

theorem rank_succ (occupied : Nat → Bool) (slot : Nat) :
    rank occupied (slot + 1) = rank occupied slot + if occupied slot then 1 else 0 := by
  rw [rank, range_succ, countP_append, countP_singleton]
  rfl

variable {low high : Nat}

theorem rank_mono (le : low ≤ high) : rank occupied low ≤ rank occupied high := by
  induction le with
  | refl => exact Nat.le_refl _
  | step _ ih =>
    rw [rank_succ]
    exact ih.trans (Nat.le_add_right _ _)

theorem rank_lt (here : occupied low = true) (below : low < high) :
    rank occupied low < rank occupied high := by
  have next : rank occupied (low + 1) = rank occupied low + 1 := by rw [rank_succ, if_pos here]
  have later : rank occupied (low + 1) ≤ rank occupied high := rank_mono below
  omega

theorem rank_inj {first second : Nat} (here : occupied first = true) (there : occupied second = true)
    (same : rank occupied first = rank occupied second) : first = second := by
  rcases Nat.lt_trichotomy first second with below | equal | above
  · have less := rank_lt here below
    omega
  · exact equal
  · have less := rank_lt there above
    omega

theorem rank_surj {width index : Nat} (inside : index < rank occupied width) :
    ∃ slot < width, occupied slot = true ∧ rank occupied slot = index := by
  induction width with
  | zero => exact absurd inside (Nat.not_lt_zero _)
  | succ width ih =>
    rw [rank_succ] at inside
    by_cases earlier : index < rank occupied width
    · obtain ⟨slot, below, here, same⟩ := ih earlier
      exact ⟨slot, below.trans (Nat.lt_succ_self _), here, same⟩
    · split at inside
      · rename_i last
        exact ⟨width, Nat.lt_succ_self _, last, by omega⟩
      · omega

theorem rank_fill (fresh : occupied slot = false) (other : Nat) :
    rank (fill occupied slot) other = rank occupied other + if slot < other then 1 else 0 := by
  induction other with
  | zero => rfl
  | succ other ih =>
    rw [rank_succ, rank_succ, ih]
    by_cases same : other = slot
    · subst same
      simp [fill, fresh]
    · have kept : fill occupied slot other = occupied other := by simp [fill, same]
      have bound : slot < other + 1 ↔ slot < other := by omega
      rw [kept]
      simp only [bound]
      omega

structure Fits (width : Nat) (occupied : Nat → Bool) (items : List α) : Prop where
  length : items.length = rank occupied width
  within : ∀ slot, occupied slot = true → slot < width

theorem rank_none (slot : Nat) : rank (fun _ => false) slot = 0 := countP_eq_zero.mpr fun _ _ => Bool.false_ne_true

theorem Fits.none (width : Nat) : Fits width (fun _ => false) ([] : List α) :=
  ⟨(rank_none width).symm, fun _ here => absurd here Bool.false_ne_true⟩

section
variable {width : Nat} (fits : Fits width occupied items)
include fits

variable {slot : Nat}

theorem Fits.index (here : occupied slot = true) : rank occupied slot < items.length := by
  rw [fits.length]
  exact rank_lt here (fits.within slot here)

theorem Fits.read_some (here : occupied slot = true) : ∃ item, read occupied items slot = some item :=
  ⟨items.get ⟨_, fits.index here⟩, by rw [read, if_pos here]; exact getElem?_eq_getElem _⟩

theorem Fits.mem_iff {item : α} : item ∈ items ↔ ∃ slot < width, read occupied items slot = some item := by
  constructor
  · intro listed
    obtain ⟨index, inside, same⟩ := mem_iff_getElem.mp listed
    obtain ⟨slot, below, here, rfl⟩ := rank_surj (fits.length ▸ inside)
    exact ⟨slot, below, by rw [read, if_pos here, getElem?_eq_getElem inside, same]⟩
  · rintro ⟨slot, _, found⟩
    unfold read at found
    split at found
    · exact mem_of_getElem? found
    · cases found

theorem Fits.pairwise {related : α → α → Prop}
    (apart : ∀ first second item other, first ≠ second → read occupied items first = some item →
      read occupied items second = some other → related item other) : items.Pairwise related := by
  rw [pairwise_iff_getElem]
  intro i j low high less
  obtain ⟨first, _, here, rfl⟩ := rank_surj (fits.length ▸ low)
  obtain ⟨second, _, there, rfl⟩ := rank_surj (fits.length ▸ high)
  refine apart first second _ _ ?_ ?_ ?_
  · rintro rfl
    exact Nat.lt_irrefl _ less
  · rw [read, if_pos here, getElem?_eq_getElem low]
  · rw [read, if_pos there, getElem?_eq_getElem high]

theorem Fits.insert {slot : Nat} (fresh : occupied slot = false) (inside : slot < width) (item : α) :
    Fits width (fill occupied slot) (items.insertIdx (rank occupied slot) item) := by
  have room : rank occupied slot ≤ items.length := by
    rw [fits.length]
    exact rank_mono inside.le
  refine ⟨?_, fun other here => ?_⟩
  · rw [length_insertIdx_of_le_length room, rank_fill fresh, if_pos inside, fits.length]
  · simp only [fill, Bool.or_eq_true, beq_iff_eq] at here
    rcases here with rfl | here
    · exact inside
    · exact fits.within other here

theorem Fits.read_insert (fresh : occupied slot = false) (inside : slot < width) (item : α)
    (other : Nat) : read (fill occupied slot) (items.insertIdx (rank occupied slot) item) other =
      if other = slot then some item else read occupied items other := by
  have room : rank occupied slot ≤ items.length := by
    rw [fits.length]
    exact rank_mono inside.le
  unfold read
  rw [rank_fill fresh]
  by_cases same : other = slot
  · subst same
    have here : fill occupied other other = true := by simp [fill]
    rw [if_pos rfl, if_pos here, if_neg (Nat.lt_irrefl _), Nat.add_zero, getElem?_insertIdx_self]
    simp [Nat.not_lt.mpr room]
  · have kept : fill occupied slot other = occupied other := by simp [fill, same]
    rw [if_neg same, kept]
    split
    · rename_i here
      by_cases after : slot < other
      · have past : rank occupied slot < rank occupied other + 1 := Nat.lt_succ_of_le (rank_mono after.le)
        rw [if_pos after, getElem?_insertIdx_of_gt past, Nat.add_sub_cancel]
      · have before : rank occupied other < rank occupied slot := rank_lt here (by omega)
        rw [if_neg after, Nat.add_zero, getElem?_insertIdx_of_lt before]
    · rfl

theorem Fits.set (item : α) : Fits width occupied (items.set (rank occupied slot) item) :=
  ⟨by rw [length_set, fits.length], fits.within⟩

theorem Fits.read_set (here : occupied slot = true) (item : α) (other : Nat) :
    read occupied (items.set (rank occupied slot) item) other =
      if other = slot then some item else read occupied items other := by
  unfold read
  by_cases same : other = slot
  · subst same
    rw [if_pos here, if_pos rfl, getElem?_set_self (fits.index here)]
  · rw [if_neg same]
    split
    · rename_i there
      have apart : rank occupied slot ≠ rank occupied other := fun equal => same (rank_inj here there equal).symm
      rw [getElem?_set_ne apart]
    · rfl

end

end Mandate.Lib.Packed
