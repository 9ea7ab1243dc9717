import Mandate.Portfolio.Allocation

/-! Conservation in the allocation book: what each operation does to entries and lots, and
from it what every sequence of operations leaves true. -/
set_option linter.dupNamespace false
namespace Mandate.Portfolio
open Core List

section Entries
variable {agent : AgentId} {r : PortfolioResourceId}

theorem holds_iff {e : AllocationEntry} : e.holds agent r = true ↔ e.agent = agent ∧ e.resource = r := by
  simp [AllocationEntry.holds]

theorem withEntry_ok {change : AllocationEntry → Except Reason AllocationEntry}
    {entries next : List AllocationEntry} (ok : withEntry agent r change entries = .ok next) :
    ∃ before e after e', entries = before ++ e :: after ∧ next = before ++ e' :: after ∧
      e.agent = agent ∧ e.resource = r ∧ change e = .ok e' := by
  induction entries generalizing next with
  | nil => cases ok
  | cons head tail ih =>
    rw [withEntry] at ok
    split at ok
    · rename_i here
      obtain ⟨e', changed, rfl⟩ := except_map_ok.mp ok
      obtain ⟨owner, named⟩ := holds_iff.mp here
      exact ⟨[], head, tail, e', rfl, rfl, owner, named, changed⟩
    · obtain ⟨rest, later, rfl⟩ := except_map_ok.mp ok
      obtain ⟨before, e, after, e', rfl, rfl, owner, named, changed⟩ := ih later
      exact ⟨head :: before, e, after, e', rfl, rfl, owner, named, changed⟩

theorem allocatedOf_split (before after : List AllocationEntry) (e : AllocationEntry) (s : PortfolioResourceId) :
    allocatedOf (before ++ e :: after) s =
      allocatedOf before s + (if e.resource = s then e.allocated else 0) + allocatedOf after s := by
  by_cases here : e.resource = s
  · simp [allocatedOf, here, add_assoc]
  · simp [allocatedOf, here]

end Entries

def entryKey (e : AllocationEntry) : AgentId × PortfolioResourceId := (e.agent, e.resource)

/-- One changed entry: it is the agent's own, of the resource named, and nothing else moved. -/
structure Moved (agent : AgentId) (r : PortfolioResourceId) (allocated committed : Int)
    (entries next : List AllocationEntry) : Prop where
  keys : next.map entryKey = entries.map entryKey
  total : ∀ s, allocatedOf next s = allocatedOf entries s + if r = s then allocated else 0
  entry : ∀ e' ∈ next, e' ∈ entries ∨ ∃ e ∈ entries, e.agent = agent ∧ e.resource = r ∧
    e' = { e with allocated := e.allocated + allocated, committed := e.committed + committed }

theorem moved_of_withEntry {agent : AgentId} {r : PortfolioResourceId} {allocated committed : Int}
    {change : AllocationEntry → Except Reason AllocationEntry} {entries next : List AllocationEntry}
    (ok : withEntry agent r change entries = .ok next) (shifts : ∀ e e', change e = .ok e' →
      e' = { e with allocated := e.allocated + allocated, committed := e.committed + committed }) :
    Moved agent r allocated committed entries next := by
  obtain ⟨before, e, after, e', rfl, rfl, owner, named, changed⟩ := withEntry_ok ok
  obtain rfl := shifts e e' changed
  refine ⟨?_, ?_, ?_⟩
  · simp [entryKey]
  · intro s
    rw [allocatedOf_split, allocatedOf_split, ← named]
    by_cases here : e.resource = s
    · simp only [here, if_true]
      ring
    · simp only [here, if_false]
      ring
  · intro x member
    rcases mem_append.mp member with left | right
    · exact Or.inl (mem_append_left _ left)
    · rcases mem_cons.mp right with rfl | later
      · exact Or.inr ⟨e, by simp, owner, named, rfl⟩
      · exact Or.inl (mem_append_right _ (mem_cons_of_mem _ later))

def EntrySound (m : PortfolioMandate) (e : AllocationEntry) : Prop :=
  0 ≤ e.committed ∧ e.committed ≤ e.allocated ∧ e.allocated ≤ agentCap m e.agent e.resource

/-- Non-negative amounts, one entry per resource: what the vector validator lets through. -/
def Validated (v : ResourceVector) : Prop := Unrepeated v ∧ ∀ a ∈ v, 0 ≤ a.atoms

instance (v : ResourceVector) : Decidable (Validated v) := inferInstanceAs (Decidable (_ ∧ _))

def AllocationOp.Validated : AllocationOp → Prop
  | .commit _ _ amounts | .release _ _ amounts => Portfolio.Validated amounts
  | .claim .. => True

section Steps
variable {m : PortfolioMandate} {agent : AgentId} {entries next : List AllocationEntry}
  {a : ResourceAmount} {e e' : AllocationEntry}

theorem commitAmount_ok (ok : commitAmount agent a e = .ok e') :
    e.committed + a.atoms ≤ e.allocated ∧ e' = { e with committed := e.committed + a.atoms } := by
  unfold commitAmount at ok
  split at ok
  · cases ok
  · rename_i fits
    exact ⟨by omega, (Except.ok.inj ok).symm⟩

theorem releaseAmount_ok (ok : releaseAmount agent a e = .ok e') :
    a.atoms ≤ e.allocated - e.committed ∧ e' = { e with allocated := e.allocated - a.atoms } := by
  unfold releaseAmount at ok
  split at ok
  · cases ok
  · rename_i fits
    exact ⟨by omega, (Except.ok.inj ok).symm⟩

variable {r : PortfolioResourceId} {amount : Int}

theorem claimAmount_ok (ok : claimAmount m agent r amount e = .ok e') :
    e.allocated + amount ≤ agentCap m agent r ∧ e' = { e with allocated := e.allocated + amount } := by
  unfold claimAmount at ok
  split at ok
  · cases ok
  · rename_i fits
    exact ⟨by omega, (Except.ok.inj ok).symm⟩

theorem sound_of_withEntry {change : AllocationEntry → Except Reason AllocationEntry}
    (ok : withEntry agent r change entries = .ok next) (sound : ∀ e ∈ entries, EntrySound m e)
    (keeps : ∀ e e', e.agent = agent → e.resource = r → change e = .ok e' → EntrySound m e → EntrySound m e') :
    ∀ e ∈ next, EntrySound m e := by
  obtain ⟨before, e, after, e', rfl, rfl, owner, named, changed⟩ := withEntry_ok ok
  intro x member
  rcases mem_append.mp member with left | right
  · exact sound x (mem_append_left _ left)
  · rcases mem_cons.mp right with rfl | later
    · exact keeps e x owner named changed (sound e (by simp))
    · exact sound x (mem_append_right _ (mem_cons_of_mem _ later))

theorem foldlM_keeps {β : Type} {step : List AllocationEntry → β → Except Reason (List AllocationEntry)}
    {amounts : List β} (keeps : List AllocationEntry → Prop)
    (each : ∀ a ∈ amounts, ∀ before after, step before a = .ok after → keeps before → keeps after)
    (ok : amounts.foldlM step entries = .ok next) (start : keeps entries) : keeps next := by
  induction amounts generalizing entries with
  | nil =>
    obtain rfl := Except.ok.inj ok
    exact start
  | cons a rest ih =>
    obtain ⟨middle, first, later⟩ := except_bind_success ok
    have there := each a (by simp) entries middle first start
    exact ih (fun b member => each b (mem_cons_of_mem _ member)) later there

theorem commit_moved (ok : withEntry agent a.resource (commitAmount agent a) entries = .ok next) :
    Moved agent a.resource 0 a.atoms entries next := by
  refine moved_of_withEntry ok fun e e' changed => ?_
  rw [(commitAmount_ok changed).2, add_zero]

theorem release_moved (ok : withEntry agent a.resource (releaseAmount agent a) entries = .ok next) :
    Moved agent a.resource (-a.atoms) 0 entries next := by
  refine moved_of_withEntry ok fun e e' changed => ?_
  rw [(releaseAmount_ok changed).2, add_zero, Int.sub_eq_add_neg]

theorem claim_moved (ok : withEntry agent r (claimAmount m agent r amount) entries = .ok next) :
    Moved agent r amount 0 entries next := by
  refine moved_of_withEntry ok fun e e' changed => ?_
  rw [(claimAmount_ok changed).2, add_zero]

variable {amounts : ResourceVector}

theorem commits_allocated
    (ok : amounts.foldlM (fun entries a => withEntry agent a.resource (commitAmount agent a) entries) entries =
      .ok next) : ∀ s, allocatedOf next s = allocatedOf entries s := by
  refine foldlM_keeps (fun later => ∀ s, allocatedOf later s = allocatedOf entries s) ?_ ok fun _ => rfl
  intro a _ before after here same s
  rw [(commit_moved here).total s, ite_self, add_zero, same s]

theorem releases_allocated
    (ok : amounts.foldlM (fun entries a => withEntry agent a.resource (releaseAmount agent a) entries) entries =
      .ok next) : ∀ s, allocatedOf next s + totalOf amounts s = allocatedOf entries s := by
  induction amounts generalizing entries with
  | nil =>
    obtain rfl := Except.ok.inj ok
    intro s
    rw [totalOf_nil, add_zero]
  | cons a rest ih =>
    obtain ⟨middle, first, later⟩ := except_bind_success ok
    intro s
    have here := (release_moved first).total s
    have onward := ih later s
    rw [totalOf_cons]
    split <;> rename_i named <;> simp only [named, if_true, if_false] at here <;> omega

end Steps

section Lots

theorem pooledOf_append (lots more : List Lot) (s : PortfolioResourceId) :
    pooledOf (lots ++ more) s = pooledOf lots s + pooledOf more s := by
  simp [pooledOf]

theorem pooledOf_cons (l : Lot) (lots : List Lot) (s : PortfolioResourceId) :
    pooledOf (l :: lots) s = (if l.resource = s then l.remaining else 0) + pooledOf lots s := by
  by_cases here : l.resource = s
  · simp [pooledOf, here]
  · simp [pooledOf, here]

theorem pooledOf_released (agent : AgentId) (id : String) (amounts : ResourceVector) (s : PortfolioResourceId) :
    pooledOf (amounts.flatMap (releasedLot agent id)) s = totalOf amounts s := by
  induction amounts with
  | nil => rfl
  | cons a rest ih =>
    rw [flatMap_cons, pooledOf_append, ih, totalOf_cons, releasedLot]
    by_cases empty : a.atoms = 0
    · simp [empty, pooledOf]
    · rw [if_neg empty, pooledOf_cons]
      simp [pooledOf]

theorem drawLot_ids (id : String) (amount : Int) (lots : List Lot) :
    (drawLot id amount lots).map (·.id) = lots.map (·.id) := by
  induction lots with
  | nil => rfl
  | cons l rest ih =>
    rw [drawLot]
    split
    · rfl
    · rw [map_cons, ih, map_cons]

variable {id : String} {lots : List Lot} {drawn : Lot}

theorem drawLot_split (amount : Int) (found : lots.find? (fun l => l.id = id) = some drawn) :
    ∃ before after, lots = before ++ drawn :: after ∧ drawn.id = id ∧ (∀ l ∈ before, l.id ≠ id) ∧
      drawLot id amount lots = before ++ { drawn with remaining := drawn.remaining - amount } :: after := by
  induction lots with
  | nil => cases found
  | cons l rest ih =>
    by_cases here : l.id = id
    · rw [find?_cons_of_pos (by simpa using here)] at found
      obtain rfl := Option.some.inj found
      exact ⟨[], rest, rfl, here, by simp, by simp [drawLot, here]⟩
    · rw [find?_cons_of_neg (by simpa using here)] at found
      obtain ⟨before, after, rfl, named, apart, drew⟩ := ih found
      refine ⟨l :: before, after, rfl, named, ?_, ?_⟩
      · intro x member
        rcases mem_cons.mp member with rfl | later
        · exact here
        · exact apart x later
      · rw [drawLot, if_neg here, drew, cons_append]

theorem drawLot_pooled (amount : Int)
    (found : lots.find? (fun l => l.id = id) = some drawn) (s : PortfolioResourceId) :
    pooledOf (drawLot id amount lots) s + (if drawn.resource = s then amount else 0) = pooledOf lots s := by
  obtain ⟨before, after, rfl, _, _, drew⟩ := drawLot_split amount found
  rw [drew, pooledOf_append, pooledOf_append, pooledOf_cons, pooledOf_cons]
  simp only
  split <;> omega

end Lots

section Inversion
variable {m : PortfolioMandate} {book next : AllocationBook} {agent : AgentId} {id : String}

def Known (m : PortfolioMandate) (agent : AgentId) : Prop := agent ∈ m.agents.members.map (·.agent)

theorem known_iff : ¬ agentPolicyOf m agent = none ↔ Known m agent := by
  rw [Known, ← agentPolicyOf_isSome]
  exact Option.ne_none_iff_exists'

theorem applied_iff {kind : OpKind} :
    applied book kind id = true ↔ (kind, id) ∈ book.log.map fun op => (op.kind, op.id) := by
  simp [applied, Prod.ext_iff]

variable {amounts : ResourceVector}

theorem applyAllocation_commit : applyAllocation m book (.commit agent id amounts) = .ok next ↔
      Known m agent ∧ applied book .commit id = false ∧ ∃ entries,
        amounts.foldlM (fun entries a => withEntry agent a.resource (commitAmount agent a) entries)
          book.entries = .ok entries ∧
        next = { book with entries, log := book.log ++ [.commit agent id amounts] } := by
  unfold applyAllocation
  rw [refuse_ok, known_iff]
  simp only [refuse_ok, Bool.not_eq_true, except_bind_ok, Except.ok.injEq, @eq_comm _ _ next,
    AllocationOp.agent]

theorem applyAllocation_release : applyAllocation m book (.release agent id amounts) = .ok next ↔
      Known m agent ∧ applied book .release id = false ∧ ∃ entries,
        amounts.foldlM (fun entries a => withEntry agent a.resource (releaseAmount agent a) entries)
          book.entries = .ok entries ∧ next = { book with
          entries
          lots := book.lots ++ amounts.flatMap (releasedLot agent id)
          log := book.log ++ [.release agent id amounts] } := by
  unfold applyAllocation
  rw [refuse_ok, known_iff]
  simp only [refuse_ok, Bool.not_eq_true, except_bind_ok, Except.ok.injEq, @eq_comm _ _ next,
    AllocationOp.agent]

theorem applyAllocation_claim {lot : String} {amount : Int} :
    applyAllocation m book (.claim agent id lot amount) = .ok next ↔
      Known m agent ∧ book.mode ≠ .preallocated ∧ applied book .claim id = false ∧
      ∃ drawn, book.lots.find? (fun l => l.id = lot) = some drawn ∧ 0 < amount ∧ amount ≤ drawn.remaining ∧
        ∃ entries, withEntry agent drawn.resource (claimAmount m agent drawn.resource amount) book.entries =
            .ok entries ∧ next = { book with
            entries
            lots := drawLot lot amount book.lots
            log := book.log ++ [.claim agent id lot amount] } := by
  unfold applyAllocation
  rw [refuse_ok, known_iff]
  simp only [refuse_ok, Bool.not_eq_true, AllocationOp.agent]
  cases book.lots.find? fun l => l.id = lot with
  | none => simp
  | some drawn =>
    simp only [refuse_ok, except_bind_ok, Except.ok.injEq, Option.some.injEq, exists_eq_left', not_or,
      not_le, not_lt, @eq_comm _ _ next, and_assoc]

end Inversion

end Mandate.Portfolio
