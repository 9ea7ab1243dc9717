import Mathlib.Data.List.Nodup
import Mathlib.Logic.Relation

/-! Registries whose entries name at most one parent: the path from an entry up to a root,
which is unique and repeats nothing, and the entries that lie above another. -/
namespace Mandate.Lib.Ancestry
open List

variable {κ : Type} {parent : κ → Option (Option κ)}

inductive Path (parent : κ → Option (Option κ)) : κ → List κ → Prop
  | root {id : κ} (top : parent id = some none) : Path parent id [id]
  | under {id above : κ} {rest : List κ} (link : parent id = some (some above))
      (path : Path parent above rest) : Path parent id (id :: rest)

def Under (parent : κ → Option (Option κ)) (id above : κ) : Prop :=
  Relation.ReflTransGen (fun child above => parent child = some (some above)) id above

def Beneath (parent : κ → Option (Option κ)) (id above : κ) : Prop :=
  Relation.TransGen (fun child above => parent child = some (some above)) id above

theorem Path.head? {id : κ} {path : List κ} (walk : Path parent id path) : path.head? = some id := by
  cases walk <;> rfl

theorem Path.unique {id : κ} {first second : List κ} (walk : Path parent id first)
    (other : Path parent id second) : first = second := by
  induction walk generalizing second with
  | root top =>
    cases other with
    | root _ => rfl
    | under link _ => simp [top] at link
  | under link _ ih =>
    cases other with
    | root top => simp [top] at link
    | under link' walk' =>
      obtain rfl := Option.some.inj (Option.some.inj (link.symm.trans link'))
      rw [ih walk']

theorem Path.suffix {id other : κ} {path : List κ} (walk : Path parent id path)
    (listed : other ∈ path) : ∃ rest, Path parent other rest ∧ rest.length ≤ path.length := by
  induction walk with
  | root top =>
    obtain rfl := mem_singleton.mp listed
    exact ⟨_, .root top, Nat.le_refl _⟩
  | under link walk ih =>
    rcases mem_cons.mp listed with rfl | above
    · exact ⟨_, .under link walk, Nat.le_refl _⟩
    · obtain ⟨rest, walks, shorter⟩ := ih above
      exact ⟨rest, walks, Nat.le_trans shorter (Nat.le_succ _)⟩

theorem Path.nodup {id : κ} {path : List κ} (walk : Path parent id path) : path.Nodup := by
  induction walk with
  | root _ => exact nodup_singleton _
  | under link walk ih =>
    refine nodup_cons.mpr ⟨fun repeated => ?_, ih⟩
    obtain ⟨rest, again, shorter⟩ := walk.suffix repeated
    have same := again.unique (.under link walk)
    rw [same, length_cons] at shorter
    omega

theorem under_iff (id other : κ) : Under parent id other ↔
    id = other ∨ ∃ above, parent id = some (some above) ∧ Under parent above other :=
  Relation.ReflTransGen.cases_head_iff

theorem Path.mem_iff {id other : κ} {path : List κ} (walk : Path parent id path) :
    other ∈ path ↔ Under parent id other := by
  induction walk with
  | root top =>
    rw [mem_singleton, under_iff _ other]
    refine ⟨fun same => .inl same.symm, ?_⟩
    rintro (same | ⟨_, link, _⟩)
    · exact same.symm
    · simp [top] at link
  | @under id above _ link walk ih =>
    rw [mem_cons, ih, under_iff id]
    refine or_congr eq_comm ⟨fun higher => ⟨above, link, higher⟩, ?_⟩
    rintro ⟨next, link', higher⟩
    obtain rfl := Option.some.inj (Option.some.inj (link.symm.trans link'))
    exact higher

theorem Path.mono {later : κ → Option (Option κ)} {id : κ} {path : List κ}
    (kept : ∀ id above, parent id = some above → later id = some above)
    (walk : Path parent id path) : Path later id path := by
  induction walk with
  | root top => exact .root (kept _ _ top)
  | under link _ ih => exact .under (kept _ _ link) ih

end Mandate.Lib.Ancestry
