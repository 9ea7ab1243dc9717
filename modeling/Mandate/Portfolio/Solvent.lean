import Mandate.Portfolio.Conservation

/-! Every book reached from a valid mandate's initial one: what is allocated and what is pooled
make up each limit exactly, and nothing takes effect twice. -/
set_option linter.dupNamespace false
namespace Mandate.Portfolio
open Core List

structure MandateValid (m : PortfolioMandate) : Prop where
  limited : ∀ a ∈ m.limits.amounts, ∃ d ∈ m.resources.members, d.resource = a.resource
  policies : ∀ a ∈ m.agents.members, checkAgentPolicy m a = []
  declared : ∀ a ∈ m.agents.members, ∀ x ∈ a.preferred.amounts, ∃ d ∈ m.resources.members, d.resource = x.resource
  within : ∀ a ∈ m.agents.members, ∀ x ∈ a.preferred.amounts, ∀ l ∈ a.hardMaxima.amounts,
    l.resource = x.resource → x.atoms ≤ l.atoms
  undesired : ∀ a ∈ m.agents.members, m.allocationMode = .dynamic → a.preferred.amounts = []
  together : ∀ d ∈ m.resources.members,
    (m.agents.members.map fun a => amountOf a.preferred.amounts d.resource).sum ≤
      amountOf m.limits.amounts d.resource

variable {m : PortfolioMandate}

theorem checkPortfolioMandate_valid (valid : checkPortfolioMandate m = []) : MandateValid m := by
  simp only [checkPortfolioMandate, canonicalReasons_eq_nil, append_eq_nil_iff, undeclared_eq_nil,
    flatMap_eq_nil_iff, prefixed_eq_nil, map_eq_nil_iff, exceedingListed_eq_nil,
    filter_eq_nil_iff] at valid
  obtain ⟨⟨limited, agents⟩, together⟩ := valid
  refine ⟨limited, fun a member => (agents a member).1.1.1, fun a member => (agents a member).1.1.2,
    fun a member => (agents a member).1.2, ?_, ?_⟩
  · intro a member dynamic
    have none := (agents a member).2
    by_contra some
    rw [if_pos ⟨dynamic, length_pos_iff.mpr some⟩] at none
    cases none
  · intro d member
    simpa using together d member

variable {s : PortfolioResourceId}

theorem mem_allocatedResources : s ∈ allocatedResources m ↔ ∃ a ∈ m.limits.amounts, a.resource = s := by
  simp [allocatedResources]

theorem allocatedResources_nodup (m : PortfolioMandate) : (allocatedResources m).Nodup :=
  (perm_insertionSort _ _).nodup_iff.mpr m.limits.unrepeated

section Initial

theorem allocatedOf_append (first second : List AllocationEntry) (s : PortfolioResourceId) :
    allocatedOf (first ++ second) s = allocatedOf first s + allocatedOf second s := by
  simp [allocatedOf]

theorem allocatedOf_flatMap {β : Type} (items : List β) (entries : β → List AllocationEntry)
    (s : PortfolioResourceId) :
    allocatedOf (items.flatMap entries) s = (items.map fun item => allocatedOf (entries item) s).sum := by
  induction items with
  | nil => rfl
  | cons item rest ih => rw [flatMap_cons, allocatedOf_append, ih, map_cons, sum_cons]

variable {resources : List PortfolioResourceId}

theorem allocatedOf_row (agent : AgentId) (amount : PortfolioResourceId → Int) (apart : resources.Nodup) (s : PortfolioResourceId) :
    allocatedOf (resources.map fun r => ⟨agent, r, amount r, 0⟩) s = if s ∈ resources then amount s else 0 := by
  induction resources with
  | nil => rfl
  | cons r rest ih =>
    obtain ⟨fresh, others⟩ := nodup_cons.mp apart
    have split := allocatedOf_split [] (rest.map fun r => ⟨agent, r, amount r, 0⟩) ⟨agent, r, amount r, 0⟩ s
    rw [map_cons, ← nil_append (_ :: _), split, ih others]
    by_cases here : r = s
    · subst here
      simp [allocatedOf, fresh]
    · simp [allocatedOf, here, Ne.symm here]

def startsWith (m : PortfolioMandate) (a : AgentPolicy) (s : PortfolioResourceId) : Int :=
  if m.allocationMode = .dynamic then 0 else amountOf a.preferred.amounts s

theorem allocatedOf_initial (m : PortfolioMandate) (s : PortfolioResourceId) :
    allocatedOf (initialEntries m) s =
      if s ∈ allocatedResources m then (m.agents.members.map fun a => startsWith m a s).sum else 0 := by
  rw [initialEntries, allocatedOf_flatMap]
  have row : ∀ a : AgentPolicy, allocatedOf ((allocatedResources m).map fun r => ⟨a.agent, r,
      if m.allocationMode = .dynamic then 0 else amountOf a.preferred.amounts r, 0⟩) s =
      if s ∈ allocatedResources m then startsWith m a s else 0 := fun a =>
    allocatedOf_row a.agent (startsWith m a) (allocatedResources_nodup m) s
  simp only [row]
  split
  · rfl
  · simp

theorem pooledOf_remainders (remainder : PortfolioResourceId → Int) (s : PortfolioResourceId) (apart : resources.Nodup) :
    pooledOf (resources.filterMap fun r => if 0 < remainder r then
        some ⟨lotId .unallocated "portfolio" r, r, none, remainder r, remainder r⟩ else none) s =
      if s ∈ resources then max (remainder s) 0 else 0 := by
  induction resources with
  | nil => rfl
  | cons r rest ih =>
    obtain ⟨fresh, others⟩ := nodup_cons.mp apart
    have tail := ih others
    rw [filterMap_cons]
    by_cases positive : 0 < remainder r
    · rw [if_pos positive, pooledOf_cons, tail]
      by_cases here : r = s
      · subst here
        simp [fresh, max_eq_left positive.le]
      · simp [here, Ne.symm here]
    · rw [if_neg positive, tail]
      by_cases here : r = s
      · subst here
        simp [fresh, max_eq_right (not_lt.mp positive)]
      · simp [Ne.symm here]

variable {m : PortfolioMandate}

theorem startsWith_sum_le (valid : MandateValid m) {s : PortfolioResourceId}
    (limited : s ∈ allocatedResources m) :
    (m.agents.members.map fun a => startsWith m a s).sum ≤ amountOf m.limits.amounts s := by
  obtain ⟨x, listed, rfl⟩ := mem_allocatedResources.mp limited
  obtain ⟨d, declared, named⟩ := valid.limited x listed
  have together := valid.together d declared
  rw [named] at together
  by_cases dynamic : m.allocationMode = .dynamic
  · have none : (m.agents.members.map fun a => startsWith m a x.resource).sum = 0 := by
      refine sum_eq_zero fun y member => ?_
      obtain ⟨a, _, rfl⟩ := mem_map.mp member
      exact if_pos dynamic
    rw [none]
    exact amountOf_nonneg m.limits.nonneg _
  · simpa only [startsWith, dynamic, if_false] using together

theorem initial_conserved (valid : MandateValid m) (s : PortfolioResourceId) :
    allocatedOf (initialEntries m) s + pooledOf (initialBook m).lots s = amountOf m.limits.amounts s := by
  have pooled := pooledOf_remainders
    (fun r => amountOf m.limits.amounts r - allocatedOf (initialEntries m) r) s (allocatedResources_nodup m)
  have lots : pooledOf (initialBook m).lots s = _ := pooled
  rw [lots, allocatedOf_initial]
  by_cases limited : s ∈ allocatedResources m
  · have fits := startsWith_sum_le valid limited
    simp only [limited, if_true]
    rw [max_eq_left (by omega)]
    ring
  · simp only [limited, if_false]
    rw [amountOf_absent fun a member same => limited (mem_allocatedResources.mpr ⟨a, member, same⟩), add_zero]

theorem initial_entries_sound (valid : MandateValid m) : ∀ e ∈ initialEntries m, EntrySound m e := by
  intro e member
  obtain ⟨a, agent, inside⟩ := mem_flatMap.mp member
  obtain ⟨r, limited, rfl⟩ := mem_map.mp inside
  have start : 0 ≤ startsWith m a r := by
    unfold startsWith
    split
    · exact le_rfl
    · exact amountOf_nonneg a.preferred.nonneg r
  have share : startsWith m a r ≤ amountOf m.limits.amounts r := by
    refine le_trans ?_ (startsWith_sum_le valid limited)
    refine single_le_sum ?_ _ (mem_map_of_mem agent)
    intro x listed
    obtain ⟨b, _, rfl⟩ := mem_map.mp listed
    unfold startsWith
    split
    · exact le_rfl
    · exact amountOf_nonneg b.preferred.nonneg r
  have capped : startsWith m a r ≤ agentCap m a.agent r := by
    rw [agentCap, agentPolicyOf_member agent]
    simp only
    cases found : a.hardMaxima.amounts.find? fun h => h.resource = r with
    | none => exact share
    | some h =>
      have listed := mem_of_find?_eq_some found
      have named : h.resource = r := by simpa using find?_some found
      show startsWith m a r ≤ h.atoms
      unfold startsWith
      split
      · exact a.hardMaxima.nonneg h listed
      · by_cases wanted : ∃ x ∈ a.preferred.amounts, x.resource = r
        · obtain ⟨x, preferred, rfl⟩ := wanted
          rw [amountOf_mem a.preferred.unrepeated preferred]
          exact valid.within a agent x preferred h listed named
        · rw [amountOf_absent fun x inside same => wanted ⟨x, inside, same⟩]
          exact a.hardMaxima.nonneg h listed
  exact ⟨le_rfl, start, capped⟩

end Initial

def releasedLots : AllocationOp → List Lot
  | .release agent id amounts => amounts.flatMap (releasedLot agent id)
  | .commit .. | .claim .. => []

def claimedFrom (log : List AllocationOp) (lot : String) : Int :=
  (log.map fun op => match op with
    | .claim _ _ drawn amount => if drawn = lot then amount else 0
    | .commit .. | .release .. => 0).sum

structure BookSound (m : PortfolioMandate) (book : AllocationBook) : Prop where
  mode : book.mode = m.allocationMode
  keys : book.entries.map entryKey = (initialEntries m).map entryKey
  conserved : ∀ s, allocatedOf book.entries s + pooledOf book.lots s = amountOf m.limits.amounts s
  entries : ∀ e ∈ book.entries, EntrySound m e
  lots : ∀ l ∈ book.lots, 0 ≤ l.remaining ∧ l.remaining ≤ l.amount
  names : book.lots.map (·.id) = (initialBook m).lots.map (·.id) ++ (book.log.flatMap releasedLots).map (·.id)
  once : (book.log.map fun op => (op.kind, op.id)).Nodup
  drawn : ∀ agent id lot amount, AllocationOp.claim agent id lot amount ∈ book.log → lot ∈ book.lots.map (·.id)

theorem initial_sound (valid : MandateValid m) : BookSound m (initialBook m) where
  mode := rfl
  keys := rfl
  conserved := initial_conserved valid
  entries := initial_entries_sound valid
  lots := by
    intro l member
    obtain ⟨r, _, minted⟩ := mem_filterMap.mp member
    simp only at minted
    split at minted
    · rename_i positive
      obtain rfl := Option.some.inj minted
      exact ⟨positive.le, le_rfl⟩
    · cases minted
  names := by simp [initialBook]
  once := nodup_nil
  drawn := nofun

variable {op : AllocationOp} {log : List AllocationOp} {book : AllocationBook}

theorem once_append (same : book.log = log) (once : (log.map fun op => (op.kind, op.id)).Nodup)
    (fresh : applied book op.kind op.id = false) : ((log ++ [op]).map fun op => (op.kind, op.id)).Nodup := by
  rw [map_append, map_singleton]
  refine nodup_append'.mpr ⟨once, nodup_singleton _, ?_⟩
  intro key earlier here
  rw [mem_singleton] at here
  subst here
  rw [← same] at earlier
  rw [applied_iff.mpr earlier] at fresh
  cases fresh

section Step
variable {m : PortfolioMandate} {book next : AllocationBook} {agent : AgentId} {id : String}
  {amounts : ResourceVector}

theorem sound_commit (sound : BookSound m book) (nonneg : ∀ a ∈ amounts, 0 ≤ a.atoms)
    (ok : applyAllocation m book (.commit agent id amounts) = .ok next) : BookSound m next := by
  obtain ⟨_, fresh, entries, moved, rfl⟩ := applyAllocation_commit.mp ok
  have keys : entries.map entryKey = book.entries.map entryKey :=
    foldlM_keeps (fun later => later.map entryKey = book.entries.map entryKey)
      (fun a _ before after here same => (commit_moved here).keys.trans same) moved rfl
  have kept : ∀ e ∈ entries, EntrySound m e := by
    refine foldlM_keeps (fun later => ∀ e ∈ later, EntrySound m e) ?_ moved sound.entries
    intro a member before after here earlier
    refine sound_of_withEntry here earlier fun e e' _ _ changed old => ?_
    obtain ⟨fits, rfl⟩ := commitAmount_ok changed
    have positive := nonneg a member
    obtain ⟨low, _, high⟩ := old
    exact ⟨by simp only; omega, fits, high⟩
  exact {
    mode := sound.mode
    keys := keys.trans sound.keys
    conserved := fun s => by rw [commits_allocated moved s]; exact sound.conserved s
    entries := kept
    lots := sound.lots
    names := by simpa [releasedLots] using sound.names
    once := once_append rfl sound.once fresh
    drawn := fun holder name lot amount member => by
      refine sound.drawn holder name lot amount ?_
      simpa using member }

theorem sound_release (sound : BookSound m book) (nonneg : ∀ a ∈ amounts, 0 ≤ a.atoms)
    (ok : applyAllocation m book (.release agent id amounts) = .ok next) : BookSound m next := by
  obtain ⟨_, fresh, entries, moved, rfl⟩ := applyAllocation_release.mp ok
  have keys : entries.map entryKey = book.entries.map entryKey :=
    foldlM_keeps (fun later => later.map entryKey = book.entries.map entryKey)
      (fun a _ before after here same => (release_moved here).keys.trans same) moved rfl
  have kept : ∀ e ∈ entries, EntrySound m e := by
    refine foldlM_keeps (fun later => ∀ e ∈ later, EntrySound m e) ?_ moved sound.entries
    intro a member before after here earlier
    refine sound_of_withEntry here earlier fun e e' _ _ changed old => ?_
    obtain ⟨fits, rfl⟩ := releaseAmount_ok changed
    have positive := nonneg a member
    obtain ⟨low, middle, high⟩ := old
    exact ⟨low, by simp only; omega, by simp only; omega⟩
  refine {
    mode := sound.mode
    keys := keys.trans sound.keys
    conserved := ?_
    entries := kept
    lots := ?_
    names := by simp [releasedLots, sound.names]
    once := once_append rfl sound.once fresh
    drawn := ?_ }
  · intro s
    have released := releases_allocated moved s
    have before := sound.conserved s
    simp only [pooledOf_append, pooledOf_released]
    omega
  · intro l member
    rcases mem_append.mp member with old | minted
    · exact sound.lots l old
    · obtain ⟨a, inside, made⟩ := mem_flatMap.mp minted
      unfold releasedLot at made
      split at made
      · cases made
      · obtain rfl := mem_singleton.mp made
        exact ⟨nonneg a inside, le_rfl⟩
  · intro holder name lot amount member
    have earlier := sound.drawn holder name lot amount (by simpa using member)
    simp only [map_append]
    exact mem_append_left _ earlier

theorem sound_claim {lot : String} {amount : Int} (sound : BookSound m book)
    (ok : applyAllocation m book (.claim agent id lot amount) = .ok next) : BookSound m next := by
  obtain ⟨_, _, fresh, drawn, found, positive, fits, entries, moved, rfl⟩ := applyAllocation_claim.mp ok
  have shift := claim_moved moved
  have kept : ∀ e ∈ entries, EntrySound m e := by
    refine sound_of_withEntry moved sound.entries fun e e' owner named changed old => ?_
    obtain ⟨capped, rfl⟩ := claimAmount_ok changed
    obtain ⟨low, middle, _⟩ := old
    rw [← owner, ← named] at capped
    exact ⟨low, by simp only; omega, capped⟩
  refine {
    mode := sound.mode
    keys := shift.keys.trans sound.keys
    conserved := ?_
    entries := kept
    lots := ?_
    names := by simpa [drawLot_ids, releasedLots] using sound.names
    once := once_append rfl sound.once fresh
    drawn := ?_ }
  · intro s
    have pooled := drawLot_pooled amount found s
    have total := shift.total s
    have before := sound.conserved s
    simp only
    omega
  · intro l member
    obtain ⟨before, after, parts, _, _, drew⟩ := drawLot_split amount found
    simp only [drew] at member
    have held := sound.lots
    rw [parts] at held
    rcases mem_append.mp member with left | right
    · exact held l (mem_append_left _ left)
    · rcases mem_cons.mp right with rfl | later
      · obtain ⟨_, high⟩ := held drawn (by simp)
        exact ⟨by simp only; omega, by simp only; omega⟩
      · exact held l (mem_append_right _ (mem_cons_of_mem _ later))
  · intro holder name other taken member
    simp only [drawLot_ids]
    rcases mem_append.mp member with earlier | here
    · exact sound.drawn holder name other taken earlier
    · simp only [mem_singleton, AllocationOp.claim.injEq] at here
      obtain ⟨_, _, rfl, _⟩ := here
      have named : drawn.id = other := by simpa using find?_some found
      exact named ▸ mem_map_of_mem (mem_of_find?_eq_some found)

def AllocationOp.nonneg : AllocationOp → Prop
  | .commit _ _ amounts | .release _ _ amounts => ∀ a ∈ amounts, 0 ≤ a.atoms
  | .claim .. => True

theorem sound_apply {op : AllocationOp} (sound : BookSound m book) (nonneg : op.nonneg)
    (ok : applyAllocation m book op = .ok next) : BookSound m next := by
  cases op with
  | commit agent id amounts => exact sound_commit sound nonneg ok
  | release agent id amounts => exact sound_release sound nonneg ok
  | claim agent id lot amount => exact sound_claim sound ok

end Step

/-- A sequence of operations from the initial book; a refused one leaves the book as it was. -/
def attemptOp (m : PortfolioMandate) (book : AllocationBook) (op : AllocationOp) : AllocationBook :=
  match applyAllocation m book op with
  | .ok next => next
  | .error _ => book

def bookAfter (m : PortfolioMandate) (ops : List AllocationOp) : AllocationBook :=
  ops.foldl (attemptOp m) (initialBook m)

theorem bookAfter_append (m : PortfolioMandate) (ops : List AllocationOp) (op : AllocationOp) :
    bookAfter m (ops ++ [op]) = attemptOp m (bookAfter m ops) op := by
  simp [bookAfter]

theorem attemptOp_cases (m : PortfolioMandate) (book : AllocationBook) (op : AllocationOp) :
    applyAllocation m book op = .ok (attemptOp m book op) ∨ attemptOp m book op = book := by
  unfold attemptOp
  cases applyAllocation m book op with
  | ok next => exact Or.inl rfl
  | error why => exact Or.inr rfl

variable {ops : List AllocationOp}

theorem bookAfter_sound (valid : MandateValid m)
    (nonneg : ∀ op ∈ ops, op.nonneg) : BookSound m (bookAfter m ops) := by
  induction ops using List.reverseRecOn with
  | nil => exact initial_sound valid
  | append_singleton ops op ih =>
    have earlier := ih fun other member => nonneg other (mem_append_left _ member)
    rw [bookAfter_append]
    rcases attemptOp_cases m (bookAfter m ops) op with accepted | refused
    · exact sound_apply earlier (nonneg op (by simp)) accepted
    · rw [refused]
      exact earlier

theorem applyAllocation_log {next : AllocationBook}
    (ok : applyAllocation m book op = .ok next) : next.log = book.log ++ [op] := by
  cases op with
  | commit agent id amounts =>
    obtain ⟨_, _, _, _, rfl⟩ := applyAllocation_commit.mp ok
    rfl
  | release agent id amounts =>
    obtain ⟨_, _, _, _, rfl⟩ := applyAllocation_release.mp ok
    rfl
  | claim agent id lot amount =>
    obtain ⟨_, _, _, _, _, _, _, _, _, rfl⟩ := applyAllocation_claim.mp ok
    rfl

theorem log_grows (m : PortfolioMandate) (before after : List AllocationOp) :
    (bookAfter m before).log <+: (bookAfter m (before ++ after)).log := by
  induction after using List.reverseRecOn with
  | nil => simp
  | append_singleton after op ih =>
    rw [← List.append_assoc, bookAfter_append]
    rcases attemptOp_cases m (bookAfter m (before ++ after)) op with accepted | refused
    · rw [applyAllocation_log accepted]
      exact ih.trans (prefix_append _ _)
    · rw [refused]
      exact ih

/-- Whenever an operation of the sequence is accepted, the lots it mints are named apart from
those of every release accepted before it. -/
def NamedApart (m : PortfolioMandate) (ops : List AllocationOp) : Prop :=
  ∀ before op after, ops = before ++ op :: after →
    (∃ next, applyAllocation m (bookAfter m before) op = .ok next) →
    ∀ earlier ∈ (bookAfter m before).log, ∀ l ∈ releasedLots earlier, ∀ l' ∈ releasedLots op, l.id ≠ l'.id

/-- The book accounts for every atom: each limit is allocated or pooled, each entry and lot is
within its bounds, nothing took effect twice, and each lot can be found under its own name. -/
structure Accounted (m : PortfolioMandate) (book : AllocationBook) : Prop where
  conserved : ∀ s ∈ allocatedResources m,
    allocatedOf book.entries s + pooledOf book.lots s = amountOf m.limits.amounts s
  entries : ∀ e ∈ book.entries, 0 ≤ e.committed ∧ e.committed ≤ e.allocated ∧
    e.allocated ≤ agentCap m e.agent e.resource
  lots : ∀ l ∈ book.lots, 0 ≤ l.remaining ∧ l.remaining ≤ l.amount ∧
    claimedFrom book.log l.id = l.amount - l.remaining
  once : (book.log.map fun op => (op.kind, op.id)).Nodup
  apart : (book.lots.map (·.id)).Nodup
  reachable : ∀ l ∈ book.lots, book.lots.find? (fun other => other.id = l.id) = some l

theorem lotId_resource {kind : LotKind} {ref : String} {r : PortfolioResourceId}
    (same : lotId kind ref r = lotId kind ref s) : r = s := by
  have texts := congrArg String.toList same
  simp only [lotId, String.toList_append, append_cancel_left_eq] at texts
  exact Subtype.ext (String.toList_inj.mp texts)

theorem lotId_kinds (ref other : String) (r s : PortfolioResourceId) :
    lotId .unallocated ref r ≠ lotId .release other s := by
  intro same
  have texts := congrArg (fun text => (text.toList.drop 4).head?) same
  simp [lotId, LotKind.text] at texts

theorem released_named {op : AllocationOp} {l : Lot} (member : l ∈ releasedLots op) :
    ∃ ref r, l.id = lotId .release ref r ∧ l.remaining = l.amount := by
  cases op with
  | release agent id amounts =>
    obtain ⟨a, _, made⟩ := mem_flatMap.mp member
    unfold releasedLot at made
    split at made
    · cases made
    · obtain rfl := mem_singleton.mp made
      exact ⟨id, a.resource, rfl, rfl⟩
  | commit => cases member
  | claim => cases member

theorem released_apart (validated : op.Validated) : ((releasedLots op).map (·.id)).Nodup := by
  cases op with
  | commit => exact nodup_nil
  | claim => exact nodup_nil
  | release agent id amounts =>
    have unrepeated : Unrepeated amounts := validated.1
    clear validated
    induction amounts with
    | nil => exact nodup_nil
    | cons a rest ih =>
      obtain ⟨fresh, others⟩ := nodup_cons.mp unrepeated
      have tail := ih others
      simp only [releasedLots, flatMap_cons, map_append] at tail ⊢
      refine nodup_append'.mpr ⟨?_, tail, ?_⟩
      · unfold releasedLot
        split
        · exact nodup_nil
        · exact nodup_singleton _
      · intro name here later
        unfold releasedLot at here
        split at here
        · cases here
        · obtain rfl := mem_singleton.mp here
          obtain ⟨l, minted, named⟩ := mem_map.mp later
          obtain ⟨b, inside, made⟩ := mem_flatMap.mp minted
          unfold releasedLot at made
          split at made
          · cases made
          · obtain rfl := mem_singleton.mp made
            exact fresh (mem_map.mpr ⟨b, inside, lotId_resource named⟩)

theorem initial_names (m : PortfolioMandate) : ((initialBook m).lots.map (·.id)).Nodup := by
  have apart := allocatedResources_nodup m
  unfold initialBook
  simp only
  generalize allocatedResources m = resources at apart
  induction resources with
  | nil => exact nodup_nil
  | cons r rest ih =>
    obtain ⟨fresh, others⟩ := nodup_cons.mp apart
    rw [filterMap_cons]
    split
    · exact ih others
    · rename_i lot minted
      split at minted
      · obtain rfl := Option.some.inj minted
        refine nodup_cons.mpr ⟨?_, ih others⟩
        intro again
        obtain ⟨l, member, named⟩ := mem_map.mp again
        obtain ⟨s, inside, made⟩ := mem_filterMap.mp member
        split at made
        · obtain rfl := Option.some.inj made
          exact fresh (lotId_resource named ▸ inside)
        · cases made
      · cases minted

variable {l : Lot}

theorem initial_named (member : l ∈ (initialBook m).lots) :
    ∃ r, l.id = lotId .unallocated "portfolio" r ∧ l.remaining = l.amount := by
  obtain ⟨r, _, minted⟩ := mem_filterMap.mp member
  simp only at minted
  split at minted
  · obtain rfl := Option.some.inj minted
    exact ⟨r, rfl, rfl⟩
  · cases minted

theorem claimedFrom_append (log : List AllocationOp) (op : AllocationOp) (lot : String) :
    claimedFrom (log ++ [op]) lot = claimedFrom log lot + claimedFrom [op] lot := by
  simp [claimedFrom]

theorem claimedFrom_eq_zero {lot : String}
    (none : ∀ agent id drawn amount, AllocationOp.claim agent id drawn amount ∈ log → drawn ≠ lot) :
    claimedFrom log lot = 0 := by
  refine sum_eq_zero fun x member => ?_
  obtain ⟨op, inside, rfl⟩ := mem_map.mp member
  cases op with
  | claim agent id drawn amount => exact if_neg (none agent id drawn amount inside)
  | commit => rfl
  | release => rfl

/-- Each lot under a name of its own, and drawn from by exactly the claims that name it. -/
structure LotsApart (book : AllocationBook) : Prop where
  names : (book.lots.map (·.id)).Nodup
  drawn : ∀ l ∈ book.lots, claimedFrom book.log l.id = l.amount - l.remaining

section Apart
variable {m : PortfolioMandate} {book next : AllocationBook} {agent : AgentId} {id : String} {op : AllocationOp}

theorem minted_apart (sound : BookSound m book)
    (named : ∀ earlier ∈ book.log, ∀ l ∈ releasedLots earlier, ∀ l' ∈ releasedLots op, l.id ≠ l'.id)
    {l l' : Lot} (old : l ∈ book.lots) (minted : l' ∈ releasedLots op) : l.id ≠ l'.id := by
  have name : l.id ∈ book.lots.map (·.id) := mem_map_of_mem old
  rw [sound.names] at name
  rcases mem_append.mp name with initial | released
  · obtain ⟨first, inside, same⟩ := mem_map.mp initial
    obtain ⟨r, text, _⟩ := initial_named inside
    obtain ⟨ref, s, other, _⟩ := released_named minted
    rw [← same, text, other]
    exact lotId_kinds _ _ _ _
  · obtain ⟨first, inside, same⟩ := mem_map.mp released
    obtain ⟨earlier, logged, made⟩ := mem_flatMap.mp inside
    rw [← same]
    exact named earlier logged first made l' minted

theorem apart_release {amounts : ResourceVector} (sound : BookSound m book) (apart : LotsApart book)
    (validated : Portfolio.Validated amounts) (named : ∀ earlier ∈ book.log, ∀ l ∈ releasedLots earlier,
      ∀ l' ∈ releasedLots (.release agent id amounts), l.id ≠ l'.id)
    (ok : applyAllocation m book (.release agent id amounts) = .ok next) : LotsApart next := by
  obtain ⟨_, _, entries, _, rfl⟩ := applyAllocation_release.mp ok
  have made : ((releasedLots (.release agent id amounts)).map (·.id)).Nodup := released_apart validated
  refine ⟨?_, ?_⟩
  · rw [map_append]
    refine nodup_append'.mpr ⟨apart.names, made, ?_⟩
    intro name earlier later
    obtain ⟨l, old, rfl⟩ := mem_map.mp earlier
    obtain ⟨l', minted, same⟩ := mem_map.mp later
    exact minted_apart sound named old minted same.symm
  · intro l member
    rw [claimedFrom_append, show claimedFrom [.release agent id amounts] l.id = 0 from rfl, add_zero]
    rcases mem_append.mp member with old | minted
    · exact apart.drawn l old
    · obtain ⟨_, _, _, full⟩ : ∃ ref r, l.id = lotId .release ref r ∧ l.remaining = l.amount :=
        @released_named (.release agent id amounts) l minted
      rw [full, sub_self]
      refine claimedFrom_eq_zero fun holder name drawn amount logged same => ?_
      obtain ⟨old, inside, known⟩ := mem_map.mp (sound.drawn holder name drawn amount logged)
      exact minted_apart sound named inside minted (known.trans same)

theorem apart_claim {lot : String} {amount : Int} (apart : LotsApart book)
    (ok : applyAllocation m book (.claim agent id lot amount) = .ok next) : LotsApart next := by
  obtain ⟨_, _, _, drawn, found, _, _, entries, _, rfl⟩ := applyAllocation_claim.mp ok
  obtain ⟨before, after, parts, named, _, drew⟩ := drawLot_split amount found
  refine ⟨?_, ?_⟩
  · simp only [drawLot_ids]
    exact apart.names
  · have names := apart.names
    rw [parts, map_append, map_cons] at names
    obtain ⟨_, tail, disjoint⟩ := nodup_append'.mp names
    have others : ∀ l ∈ before ++ after, l.id ≠ lot := by
      intro l member same
      rcases mem_append.mp member with left | right
      · exact disjoint (mem_map_of_mem left) (by rw [same, ← named]; simp)
      · exact (nodup_cons.mp tail).1 (mem_map.mpr ⟨l, right, same.trans named.symm⟩)
    have kept : ∀ l ∈ before ++ after, claimedFrom (book.log ++ [.claim agent id lot amount]) l.id =
        l.amount - l.remaining := by
      intro l member
      have apartFrom := others l member
      have old := apart.drawn l (by
        rw [parts]
        rcases mem_append.mp member with left | right
        · exact mem_append_left _ left
        · exact mem_append_right _ (mem_cons_of_mem _ right))
      rw [claimedFrom_append, old]
      simp [claimedFrom, Ne.symm apartFrom]
    intro l member
    simp only [drew] at member ⊢
    rcases mem_append.mp member with left | right
    · exact kept l (mem_append_left _ left)
    · rcases mem_cons.mp right with rfl | later
      · have old := apart.drawn drawn (by rw [parts]; simp)
        simp only
        rw [claimedFrom_append, old]
        simp only [claimedFrom, map_cons, map_nil, named, if_true, sum_cons, sum_nil]
        ring
      · exact kept l (mem_append_right _ later)

theorem apart_apply (sound : BookSound m book) (apart : LotsApart book) (validated : op.Validated)
    (named : ∀ earlier ∈ book.log, ∀ l ∈ releasedLots earlier, ∀ l' ∈ releasedLots op, l.id ≠ l'.id)
    (ok : applyAllocation m book op = .ok next) : LotsApart next := by
  cases op with
  | commit agent id amounts =>
    obtain ⟨_, _, entries, _, rfl⟩ := applyAllocation_commit.mp ok
    refine ⟨apart.names, fun l member => ?_⟩
    rw [claimedFrom_append, apart.drawn l member]
    simp [claimedFrom]
  | release agent id amounts => exact apart_release sound apart validated named ok
  | claim agent id lot amount => exact apart_claim apart ok

end Apart

theorem AllocationOp.Validated.nonneg (validated : op.Validated) : op.nonneg := by
  cases op with
  | commit agent id amounts => exact validated.2
  | release agent id amounts => exact validated.2
  | claim agent id lot amount => trivial

theorem bookAfter_apart (valid : MandateValid m)
    (validated : ∀ op ∈ ops, op.Validated) (named : NamedApart m ops) : LotsApart (bookAfter m ops) := by
  induction ops using List.reverseRecOn with
  | nil =>
    refine ⟨initial_names m, fun l member => ?_⟩
    obtain ⟨_, _, full⟩ := initial_named member
    rw [full, sub_self]
    rfl
  | append_singleton ops op ih =>
    have earlier : NamedApart m ops := by
      intro before other after parts
      refine named before other (after ++ [op]) ?_
      rw [parts, List.append_assoc, cons_append]
    have apart := ih (fun other member => validated other (mem_append_left _ member)) earlier
    have sound : BookSound m (bookAfter m ops) := bookAfter_sound valid fun other member =>
      (validated other (mem_append_left _ member)).nonneg
    rw [bookAfter_append]
    rcases attemptOp_cases m (bookAfter m ops) op with accepted | refused
    · exact apart_apply sound apart (validated op (by simp)) (named ops op [] rfl ⟨_, accepted⟩) accepted
    · rw [refused]
      exact apart

theorem find_own {lots : List Lot} (names : (lots.map (·.id)).Nodup) (member : l ∈ lots) :
    lots.find? (fun other => other.id = l.id) = some l := by
  cases found : lots.find? fun other => other.id = l.id with
  | none =>
    have missing := find?_eq_none.mp found l member
    simp at missing
  | some other =>
    have named : other.id = l.id := by simpa using find?_some found
    rw [inj_on_of_nodup_map names (mem_of_find?_eq_some found) member named]

section Sample

def sampleAgent : AgentId := ⟨⟨"eip155-address", by decide⟩, ⟨"0x1111111111111111111111111111111111111111", by decide⟩, by decide⟩

theorem sampleWindow_inside : INT64_MIN ≤ 1000 ∧ 1000 ≤ INT64_MAX := by decide

def sampleWindow : Window := ⟨⟨0, seconds_zero⟩, ⟨1000, sampleWindow_inside⟩, by decide⟩

def sampleScope : AuthorityScope where
  domains := noMembers _
  actions := noMembers _
  chains := noMembers _
  venues := noMembers _
  assets := noMembers _
  representations := noMembers _
  issuers := noMembers _
  recipients := noMembers _
  syntheticPolicy := .forbidden
  requiredRights := noMembers _
  maxLeverage := none
  maxSlippageBps := none
  maxQuoteAgeSeconds := none

def sampleResource (text : String) (valid : identifierText text = true) : ResourceDefinition :=
  ⟨⟨text, valid⟩, ⟨.tokenAmount, by decide⟩, ⟨"USDC", by decide⟩, ⟨6, by decide⟩, none, by decide⟩

def sampleAmounts : ValidVector :=
  ⟨[⟨⟨⟨"a", .refl true⟩, 10⟩, by decide⟩, ⟨⟨⟨"b/a", .refl true⟩, 10⟩, by decide⟩], by decide, by decide⟩

set_option maxRecDepth 20000 in
def sampleMandate : PortfolioMandate where
  principal := sampleAgent
  policyVersion := ⟨1, uint64_one⟩
  nonce := ⟨0, uint64_zero⟩
  window := sampleWindow
  allocationMode := .hybrid
  resources := ⟨[sampleResource "a" (.refl true), sampleResource "b/a" (by decide)], by decide, by decide⟩
  scope := sampleScope
  limits := sampleAmounts
  agents := ⟨[⟨sampleAgent, ⟨"one", .refl true⟩, sampleScope, sampleWindow, noAmounts, sampleAmounts⟩],
    by decide, pairwise_singleton _ _⟩

def releaseOf (id resource : String) (valid : identifierText resource = true) : AllocationOp :=
  .release sampleAgent id [⟨⟨resource, valid⟩, 1⟩]

theorem sampleMandate_valid : checkPortfolioMandate sampleMandate = [] := by decide +kernel

end Sample

end Mandate.Portfolio
