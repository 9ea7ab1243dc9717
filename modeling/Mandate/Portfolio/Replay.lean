import Mandate.Portfolio.Solvent

/-! A log replayed: what it commits, releases and claims of each agent's share, and in total. -/
set_option linter.dupNamespace false
namespace Mandate.Portfolio
open Core List

def shareOf (entries : List AllocationEntry) (agent : AgentId) (r : PortfolioResourceId) :
    Option AllocationEntry := entries.find? fun e => e.holds agent r

def heldBy (field : AllocationEntry → Int) (entries : List AllocationEntry) (agent : AgentId)
    (r : PortfolioResourceId) : Int := ((shareOf entries agent r).map field).getD 0

/-- What an agent is allocated of a resource, and what of that is committed: none without an entry. -/
def allocatedTo (entries : List AllocationEntry) (agent : AgentId) (r : PortfolioResourceId) : Int :=
  heldBy (·.allocated) entries agent r

def committedTo (entries : List AllocationEntry) (agent : AgentId) (r : PortfolioResourceId) : Int :=
  heldBy (·.committed) entries agent r

def committedOf (entries : List AllocationEntry) (r : PortfolioResourceId) : Int :=
  ((entries.filter fun e => e.resource = r).map (·.committed)).sum

section Shares
variable {agent : AgentId} {r : PortfolioResourceId} {entries next : List AllocationEntry}

theorem shareOf_cons (e : AllocationEntry) (rest : List AllocationEntry) (agent : AgentId)
    (r : PortfolioResourceId) :
    shareOf (e :: rest) agent r = if e.agent = agent ∧ e.resource = r then some e else shareOf rest agent r := by
  by_cases here : e.agent = agent ∧ e.resource = r
  · have holds := holds_iff.mpr here
    simp [shareOf, holds, here]
  · have elsewhere : e.holds agent r = false := Bool.eq_false_iff.mpr fun holds => here (holds_iff.mp holds)
    simp only [shareOf, find?_cons, elsewhere, here, if_false]

variable {change : AllocationEntry → Except Reason AllocationEntry}

theorem shareOf_withEntry (keeps : ∀ e e', change e = .ok e' → e'.agent = e.agent ∧ e'.resource = e.resource)
    (ok : withEntry agent r change entries = .ok next) :
    (∃ e e', shareOf entries agent r = some e ∧ change e = .ok e' ∧ shareOf next agent r = some e') ∧
    ∀ other s, ¬ (agent = other ∧ r = s) → shareOf next other s = shareOf entries other s := by
  induction entries generalizing next with
  | nil => cases ok
  | cons head tail ih =>
    rw [withEntry] at ok
    split at ok
    · rename_i here
      obtain ⟨e', changed, rfl⟩ := except_map_ok.mp ok
      obtain ⟨owner, named⟩ := holds_iff.mp here
      obtain ⟨owner', named'⟩ := keeps head e' changed
      refine ⟨⟨head, e', ?_, changed, ?_⟩, ?_⟩
      · rw [shareOf_cons, if_pos ⟨owner, named⟩]
      · rw [shareOf_cons, owner', named', if_pos ⟨owner, named⟩]
      · intro other s apart
        rw [shareOf_cons, shareOf_cons, owner', named', owner, named, if_neg apart, if_neg apart]
    · rename_i there
      obtain ⟨rest, later, rfl⟩ := except_map_ok.mp ok
      obtain ⟨⟨e, e', before, changed, after⟩, same⟩ := ih later
      have elsewhere : ¬ (head.agent = agent ∧ head.resource = r) := fun here => there (holds_iff.mpr here)
      refine ⟨⟨e, e', ?_, changed, ?_⟩, ?_⟩
      · rw [shareOf_cons, if_neg elsewhere, before]
      · rw [shareOf_cons, if_neg elsewhere, after]
      · intro other s apart
        rw [shareOf_cons, shareOf_cons, same other s apart]

variable {moved : Int}

theorem heldBy_withEntry (field : AllocationEntry → Int) (shifts : ∀ e e', change e = .ok e' →
      e'.agent = e.agent ∧ e'.resource = e.resource ∧ field e' = field e + moved)
    (ok : withEntry agent r change entries = .ok next) (other : AgentId) (s : PortfolioResourceId) :
    heldBy field next other s = heldBy field entries other s + if agent = other ∧ r = s then moved else 0 := by
  obtain ⟨⟨e, e', before, changed, after⟩, same⟩ :=
    shareOf_withEntry (fun e e' changed => ⟨(shifts e e' changed).1, (shifts e e' changed).2.1⟩) ok
  by_cases here : agent = other ∧ r = s
  · obtain ⟨rfl, rfl⟩ := here
    simp [heldBy, before, after, (shifts e e' changed).2.2]
  · rw [heldBy, same other s here, if_neg here, add_zero]
    rfl

theorem committedOf_withEntry
    (shifts : ∀ e e', change e = .ok e' → e'.resource = e.resource ∧ e'.committed = e.committed + moved)
    (ok : withEntry agent r change entries = .ok next) (s : PortfolioResourceId) :
    committedOf next s = committedOf entries s + if r = s then moved else 0 := by
  obtain ⟨before, e, after, e', rfl, rfl, _, named, changed⟩ := withEntry_ok ok
  obtain ⟨kept, shifted⟩ := shifts e e' changed
  by_cases here : e.resource = s
  · simp [committedOf, kept, shifted, here, ← named]
    ring
  · simp [committedOf, kept, here, ← named]

end Shares

section Vectors
variable {agent : AgentId} {entries next : List AllocationEntry} {amounts : ResourceVector}
  {change : ResourceAmount → AllocationEntry → Except Reason AllocationEntry}

theorem heldBy_vector (field : AllocationEntry → Int) (sign : Int) (shifts : ∀ a e e', change a e = .ok e' →
      e'.agent = e.agent ∧ e'.resource = e.resource ∧ field e' = field e + sign * a.atoms)
    (ok : amounts.foldlM (fun entries a => withEntry agent a.resource (change a) entries) entries = .ok next)
    (other : AgentId) (s : PortfolioResourceId) : heldBy field next other s =
      heldBy field entries other s + if agent = other then sign * totalOf amounts s else 0 := by
  induction amounts generalizing entries with
  | nil =>
    obtain rfl := Except.ok.inj ok
    simp
  | cons a rest ih =>
    obtain ⟨middle, first, later⟩ := except_bind_success ok
    rw [ih later, heldBy_withEntry field (shifts a) first other s, totalOf_cons]
    by_cases owner : agent = other
    · by_cases named : a.resource = s
      · simp only [owner, named, true_and, if_true]
        ring
      · simp only [owner, named, and_false, if_true, if_false]
        ring
    · simp only [owner, false_and, if_false]
      ring

theorem committedOf_vector (sign : Int) (shifts : ∀ a e e', change a e = .ok e' →
      e'.resource = e.resource ∧ e'.committed = e.committed + sign * a.atoms)
    (ok : amounts.foldlM (fun entries a => withEntry agent a.resource (change a) entries) entries = .ok next)
    (s : PortfolioResourceId) : committedOf next s = committedOf entries s + sign * totalOf amounts s := by
  induction amounts generalizing entries with
  | nil =>
    obtain rfl := Except.ok.inj ok
    simp
  | cons a rest ih =>
    obtain ⟨middle, first, later⟩ := except_bind_success ok
    rw [ih later, committedOf_withEntry (shifts a) first s, totalOf_cons]
    split <;> ring

end Vectors

/-- What an operation commits of a resource, and what it takes from `agent`'s allocation. -/
def commits : AllocationOp → PortfolioResourceId → Int
  | .commit _ _ amounts, r => totalOf amounts r
  | .release .., _ | .claim .., _ => 0

def releases : AllocationOp → PortfolioResourceId → Int
  | .release _ _ amounts, r => totalOf amounts r
  | .commit .., _ | .claim .., _ => 0

def forAgent (effect : AllocationOp → PortfolioResourceId → Int) (agent : AgentId) (op : AllocationOp)
    (r : PortfolioResourceId) : Int := if op.agent = agent then effect op r else 0

variable {effect : AllocationOp → PortfolioResourceId → Int} {op : AllocationOp} {agent : AgentId}

theorem forAgent_own
    (owner : op.agent = agent) (r : PortfolioResourceId) : forAgent effect agent op r = effect op r :=
  if_pos owner

theorem forAgent_other
    (other : op.agent ≠ agent) (r : PortfolioResourceId) : forAgent effect agent op r = 0 :=
  if_neg other

structure Effect (op : AllocationOp) (book next : AllocationBook) : Prop where
  log : next.log = book.log ++ [op]
  fresh : applied book op.kind op.id = false
  keys : next.entries.map entryKey = book.entries.map entryKey
  committed : ∀ agent r,
    committedTo next.entries agent r = committedTo book.entries agent r + forAgent commits agent op r
  together : ∀ r, committedOf next.entries r = committedOf book.entries r + commits op r
  reduced : ∀ agent r, allocatedTo next.entries agent r < allocatedTo book.entries agent r →
    op.kind = .release ∧ op.agent = agent
  released : op.kind = .release → ∀ agent r,
    allocatedTo next.entries agent r = allocatedTo book.entries agent r - forAgent releases agent op r

section Effects
variable {m : PortfolioMandate} {book next : AllocationBook} {agent : AgentId} {id : String}
  {amounts : ResourceVector}

theorem effect_commit (ok : applyAllocation m book (.commit agent id amounts) = .ok next) :
    Effect (.commit agent id amounts) book next := by
  obtain ⟨_, fresh, entries, moved, rfl⟩ := applyAllocation_commit.mp ok
  have shifts : ∀ a e e', commitAmount agent a e = .ok e' →
      e'.agent = e.agent ∧ e'.resource = e.resource ∧ e'.committed = e.committed + 1 * a.atoms := by
    intro a e e' changed
    obtain ⟨_, rfl⟩ := commitAmount_ok changed
    simp
  have kept : ∀ other s, allocatedTo entries other s = allocatedTo book.entries other s := by
    intro other s
    have shift := heldBy_vector (·.allocated) 0 (fun a e e' changed => by
      obtain ⟨_, rfl⟩ := commitAmount_ok changed
      simp) moved other s
    simpa [allocatedTo] using shift
  exact {
    log := rfl
    fresh := fresh
    keys := foldlM_keeps (fun later => later.map entryKey = book.entries.map entryKey)
      (fun a _ before after here same => (commit_moved here).keys.trans same) moved rfl
    committed := fun other s => by
      have shift := heldBy_vector (·.committed) 1 shifts moved other s
      rw [one_mul] at shift
      exact shift
    together := fun s => by
      have shift := committedOf_vector 1 (fun a e e' changed => (shifts a e e' changed).2) moved s
      simpa [commits] using shift
    reduced := fun other s less => absurd less (by simp only [kept]; exact lt_irrefl _)
    released := nofun }

theorem effect_release (ok : applyAllocation m book (.release agent id amounts) = .ok next) :
    Effect (.release agent id amounts) book next := by
  obtain ⟨_, fresh, entries, moved, rfl⟩ := applyAllocation_release.mp ok
  have kept : ∀ a e e', releaseAmount agent a e = .ok e' →
      e'.agent = e.agent ∧ e'.resource = e.resource ∧ e'.committed = e.committed + 0 * a.atoms := by
    intro a e e' changed
    obtain ⟨_, rfl⟩ := releaseAmount_ok changed
    simp
  have released : ∀ other s, allocatedTo entries other s =
      allocatedTo book.entries other s - forAgent releases other (.release agent id amounts) s := by
    intro other s
    have shift := heldBy_vector (·.allocated) (-1) (fun a e e' changed => by
      obtain ⟨_, rfl⟩ := releaseAmount_ok changed
      simp [Int.sub_eq_add_neg]) moved other s
    by_cases owner : (AllocationOp.release agent id amounts).agent = other
    · have same : agent = other := owner
      rw [forAgent_own owner, allocatedTo, allocatedTo, shift, if_pos same, releases]
      ring
    · have apart : ¬ agent = other := owner
      rw [forAgent_other owner, allocatedTo, allocatedTo, shift, if_neg apart]
      ring
  exact {
    log := rfl
    fresh := fresh
    keys := foldlM_keeps (fun later => later.map entryKey = book.entries.map entryKey)
      (fun a _ before after here same => (release_moved here).keys.trans same) moved rfl
    committed := fun other s => by
      have shift := heldBy_vector (·.committed) 0 kept moved other s
      simpa [committedTo, forAgent, commits] using shift
    together := fun s => by
      have shift := committedOf_vector 0 (fun a e e' changed => (kept a e e' changed).2) moved s
      simpa [commits] using shift
    reduced := fun other s less => by
      refine ⟨rfl, ?_⟩
      by_contra apart
      simp [released other s, forAgent, apart] at less
    released := fun _ => released }

theorem effect_claim {lot : String} {amount : Int}
    (ok : applyAllocation m book (.claim agent id lot amount) = .ok next) :
    Effect (.claim agent id lot amount) book next := by
  obtain ⟨_, _, fresh, drawn, _, positive, _, entries, moved, rfl⟩ := applyAllocation_claim.mp ok
  have shifts : ∀ e e', claimAmount m agent drawn.resource amount e = .ok e' →
      e'.agent = e.agent ∧ e'.resource = e.resource ∧ e'.allocated = e.allocated + amount := by
    intro e e' changed
    obtain ⟨_, rfl⟩ := claimAmount_ok changed
    simp
  have kept : ∀ e e', claimAmount m agent drawn.resource amount e = .ok e' →
      e'.agent = e.agent ∧ e'.resource = e.resource ∧ e'.committed = e.committed + 0 := by
    intro e e' changed
    obtain ⟨_, rfl⟩ := claimAmount_ok changed
    simp
  exact {
    log := rfl
    fresh := fresh
    keys := (claim_moved moved).keys
    committed := fun other s => by
      have shift := heldBy_withEntry (·.committed) kept moved other s
      simpa [committedTo, forAgent, commits] using shift
    together := fun s => by
      have shift := committedOf_withEntry (fun e e' changed => (kept e e' changed).2) moved s
      simpa [commits] using shift
    reduced := fun other s less => by
      have shift := heldBy_withEntry (·.allocated) shifts moved other s
      simp only [allocatedTo] at less
      split at shift <;> omega
    released := nofun }

theorem effect_apply {op : AllocationOp} (ok : applyAllocation m book op = .ok next) : Effect op book next := by
  cases op with
  | commit agent id amounts => exact effect_commit ok
  | release agent id amounts => exact effect_release ok
  | claim agent id lot amount => exact effect_claim ok

end Effects

section Runs
variable {m : PortfolioMandate} {book final : AllocationBook} {log : List AllocationOp} {index : Nat}

theorem replayFrom_cons {op : AllocationOp} {rest : List AllocationOp}
    (ok : replayFrom m book (op :: rest) index = .ok final) :
    ∃ next, applyAllocation m book op = .ok next ∧ replayFrom m next rest (index + 1) = .ok final := by
  rw [replayFrom] at ok
  split at ok
  · cases ok
  · rename_i next applied
    exact ⟨next, applied, ok⟩

theorem replayFrom_induction (ok : replayFrom m book log index = .ok final)
    (holds : List AllocationOp → AllocationBook → AllocationBook → Prop) (start : ∀ book, holds [] book book)
    (step : ∀ op rest book next final, Effect op book next → holds rest next final →
      holds (op :: rest) book final) : holds log book final := by
  induction log generalizing book index with
  | nil =>
    obtain rfl := Except.ok.inj ok
    exact start book
  | cons op rest ih =>
    obtain ⟨next, applied, onward⟩ := replayFrom_cons ok
    exact step op rest book next final (effect_apply applied) (ih onward)

theorem replay_log (ok : replayFrom m book log index = .ok final) : final.log = book.log ++ log := by
  refine replayFrom_induction ok (fun log book final => final.log = book.log ++ log) (by simp) ?_
  intro op rest book next final effect later
  rw [later, effect.log, List.append_assoc, singleton_append]

theorem replay_keys (ok : replayFrom m book log index = .ok final) :
    final.entries.map entryKey = book.entries.map entryKey := by
  refine replayFrom_induction ok (fun _ book final => final.entries.map entryKey = book.entries.map entryKey)
    (by simp) ?_
  intro op rest book next final effect later
  rw [later, effect.keys]

theorem replay_committed (ok : replayFrom m book log index = .ok final) (agent : AgentId)
    (r : PortfolioResourceId) : committedTo final.entries agent r =
      committedTo book.entries agent r + (log.map fun op => forAgent commits agent op r).sum := by
  refine replayFrom_induction ok (fun log book final => committedTo final.entries agent r =
    committedTo book.entries agent r + (log.map fun op => forAgent commits agent op r).sum) (by simp) ?_
  intro op rest book next final effect later
  rw [later, effect.committed agent r, map_cons, sum_cons, add_assoc]

theorem replay_together (ok : replayFrom m book log index = .ok final)
    (r : PortfolioResourceId) : committedOf final.entries r =
      committedOf book.entries r + (log.map fun op => commits op r).sum := by
  refine replayFrom_induction ok (fun log book final => committedOf final.entries r =
    committedOf book.entries r + (log.map fun op => commits op r).sum) (by simp) ?_
  intro op rest book next final effect later
  rw [later, effect.together r, map_cons, sum_cons, add_assoc]

theorem replay_once (ok : replayFrom m book log index = .ok final)
    (earlier : (book.log.map fun op => (op.kind, op.id)).Nodup) :
    (final.log.map fun op => (op.kind, op.id)).Nodup := by
  revert earlier
  refine replayFrom_induction ok (fun _ book final => (book.log.map fun op => (op.kind, op.id)).Nodup →
    (final.log.map fun op => (op.kind, op.id)).Nodup) (fun _ => id) ?_
  intro op rest book next final effect later once
  refine later ?_
  rw [effect.log, map_append, map_singleton]
  refine nodup_append'.mpr ⟨once, nodup_singleton _, ?_⟩
  intro key seen here
  rw [mem_singleton] at here
  subst here
  have again := applied_iff.mpr seen
  rw [effect.fresh] at again
  cases again

end Runs

section Checked
variable {m : PortfolioMandate} {book : AllocationBook}

/-- What an entry is allowed: its preferred amount, or its cap where allocations move. -/
def allowance (m : PortfolioMandate) (mode : AllocationMode) (agent : AgentId) (r : PortfolioResourceId) : Int :=
  match agentPolicyOf m agent with
  | none => 0
  | some policy => if mode = .preallocated then amountOf policy.preferred.amounts r else agentCap m agent r

theorem checkBookInvariant_eq_nil : checkBookInvariant m book = [] ↔ (∀ r ∈ allocatedResources m,
      allocatedOf book.entries r + pooledOf book.lots r = amountOf m.limits.amounts r) ∧
    (∀ e ∈ book.entries, e.committed ≤ e.allocated ∧ e.allocated ≤ allowance m book.mode e.agent e.resource) ∧
    ∀ l ∈ book.lots, 0 ≤ l.remaining ∧ l.remaining ≤ l.amount := by
  simp only [checkBookInvariant, allowance, append_eq_nil_iff, map_eq_nil_iff,
    filter_eq_nil_iff, decide_eq_true_eq, not_or, not_lt, ne_eq, not_not, and_assoc]
  all_goals exact Iff.rfl

variable {policy : AgentPolicy} {h : ResourceAmount}

theorem allowance_listed (valid : MandateValid m) (member : policy ∈ m.agents.members) (listed : h ∈ policy.hardMaxima.amounts) (mode : AllocationMode) :
    allowance m mode policy.agent h.resource ≤ h.atoms := by
  rw [allowance, agentPolicyOf_member member]
  simp only
  split
  · by_cases wanted : ∃ x ∈ policy.preferred.amounts, x.resource = h.resource
    · obtain ⟨x, preferred, named⟩ := wanted
      rw [← named, amountOf_mem policy.preferred.unrepeated preferred]
      exact valid.within policy member x preferred h listed named.symm
    · rw [amountOf_absent fun x inside same => wanted ⟨x, inside, same⟩]
      exact policy.hardMaxima.nonneg h listed
  · have found := amountOf_mem policy.hardMaxima.unrepeated listed
    have present : ∃ own, policy.hardMaxima.amounts.find? (fun x => x.resource = h.resource) = some own := by
      refine Option.ne_none_iff_exists'.mp fun missing => ?_
      have absent := find?_eq_none.mp missing h listed
      simp at absent
    obtain ⟨own, there⟩ := present
    rw [amountOf, there] at found
    rw [agentCap, agentPolicyOf_member member]
    simp only [there]
    exact found.le

variable {entries : List AllocationEntry}

theorem shareOf_some {agent : AgentId} {r : PortfolioResourceId}
    {e : AllocationEntry} (found : shareOf entries agent r = some e) :
    e ∈ entries ∧ e.agent = agent ∧ e.resource = r := by
  rw [shareOf] at found
  have holds := find?_some found
  exact ⟨mem_of_find?_eq_some found, holds_iff.mp holds⟩

theorem committedTo_le (sound : checkBookInvariant m book = []) (agent : AgentId) (r : PortfolioResourceId) :
    committedTo book.entries agent r ≤ allocatedTo book.entries agent r := by
  obtain ⟨_, entries, _⟩ := checkBookInvariant_eq_nil.mp sound
  rw [committedTo, allocatedTo, heldBy, heldBy]
  cases found : shareOf book.entries agent r with
  | none => exact le_rfl
  | some e => exact (entries e (shareOf_some found).1).1

theorem allocatedTo_le (sound : checkBookInvariant m book = [])
    (valid : MandateValid m) (member : policy ∈ m.agents.members)
    (listed : h ∈ policy.hardMaxima.amounts) : allocatedTo book.entries policy.agent h.resource ≤ h.atoms := by
  obtain ⟨_, entries, _⟩ := checkBookInvariant_eq_nil.mp sound
  rw [allocatedTo, heldBy]
  cases found : shareOf book.entries policy.agent h.resource with
  | none => exact policy.hardMaxima.nonneg h listed
  | some e =>
    obtain ⟨inside, owner, named⟩ := shareOf_some found
    have allowed := (entries e inside).2
    rw [owner, named] at allowed
    exact allowed.trans (allowance_listed valid member listed book.mode)

theorem committedOf_le_allocatedOf
    (fits : ∀ e ∈ entries, e.committed ≤ e.allocated) (r : PortfolioResourceId) :
    committedOf entries r ≤ allocatedOf entries r := by
  refine sum_le_sum fun e member => ?_
  exact fits e (mem_of_mem_filter member)

theorem pooledOf_nonneg {lots : List Lot} (nonneg : ∀ l ∈ lots, 0 ≤ l.remaining) (r : PortfolioResourceId) :
    0 ≤ pooledOf lots r := by
  apply sum_nonneg
  intro remaining member
  obtain ⟨l, inside, rfl⟩ := mem_map.mp member
  exact nonneg l (mem_of_mem_filter inside)

theorem committedOf_le (sound : checkBookInvariant m book = [])
    (keys : book.entries.map entryKey = (initialEntries m).map entryKey) (r : PortfolioResourceId) :
    committedOf book.entries r ≤ amountOf m.limits.amounts r := by
  obtain ⟨conserved, entries, lots⟩ := checkBookInvariant_eq_nil.mp sound
  by_cases limited : r ∈ allocatedResources m
  · have share := committedOf_le_allocatedOf (fun e member => (entries e member).1) r
    have pool := pooledOf_nonneg (fun l member => (lots l member).1) r
    have whole := conserved r limited
    omega
  · have absent : (book.entries.filter fun e => e.resource = r) = [] := by
      refine filter_eq_nil_iff.mpr fun e member named => limited ?_
      have key : entryKey e ∈ (initialEntries m).map entryKey := keys ▸ mem_map_of_mem member
      obtain ⟨first, start, same⟩ := mem_map.mp key
      obtain ⟨policy, _, inside⟩ := mem_flatMap.mp start
      obtain ⟨s, listed, rfl⟩ := mem_map.mp inside
      have resource : s = e.resource := congrArg Prod.snd same
      rw [of_decide_eq_true named] at resource
      exact resource ▸ listed
    rw [committedOf, absent]
    exact amountOf_nonneg m.limits.nonneg r

end Checked

section Start

theorem committedTo_initial (m : PortfolioMandate) (agent : AgentId) (r : PortfolioResourceId) :
    committedTo (initialEntries m) agent r = 0 := by
  rw [committedTo, heldBy]
  cases found : shareOf (initialEntries m) agent r with
  | none => rfl
  | some e =>
    obtain ⟨policy, _, inside⟩ := mem_flatMap.mp (shareOf_some found).1
    obtain ⟨s, _, rfl⟩ := mem_map.mp inside
    rfl

theorem committedOf_initial (m : PortfolioMandate) (r : PortfolioResourceId) :
    committedOf (initialEntries m) r = 0 := by
  refine sum_eq_zero fun committed member => ?_
  obtain ⟨e, inside, rfl⟩ := mem_map.mp member
  obtain ⟨policy, _, start⟩ := mem_flatMap.mp (mem_of_mem_filter inside)
  obtain ⟨s, _, rfl⟩ := mem_map.mp start
  rfl

end Start

end Mandate.Portfolio
