import Mandate.Authoring.Lineage
import Mandate.Portfolio.Solvent

/-! What is reserved over the runs of a session, and the capital that moves between its agents after
each: an agent that reserved nothing releases its whole budget, whoever reserved something may take of it. -/
set_option linter.dupNamespace false
namespace Mandate.Authoring
open Core Portfolio Lib.Machine List
open Option (some.inj)

/-- What a version's principal signed; every enabled agent has a budget. -/
structure SignedAllocation [Keccak] where
  mandate : PortfolioMandate
  party : Role → AgentId
  enabled : List Role
  budgetOf : Role → Option Nat
  autoReallocate : Bool
  initial : Option (InitialAllocationPlan mandate)
  distinct : ∀ {a b : Role}, (party a).value = (party b).value → a = b
  once : enabled.Nodup
  budgeted : ∀ role ∈ enabled, (budgetOf role).isSome
  agents : ∀ policy ∈ mandate.agents.members, ∃ role ∈ enabled, policy.agent = party role
  planned : ∀ plan, initial = some plan → ∀ role ∈ enabled,
    allocationOf party plan role = ((budgetOf role).getD 0 : Nat)
  ceilings : ∀ plan, initial = some plan → ∀ e ∈ plan.entries.members, e.allocatedAtoms.1 ≤ hardMaximum mandate e.agent

/-- An agent of the room: its candidate's least and greatest amounts as discovered, what the ledger leaves
it, and the largest increment that fits. -/
structure Participant where
  role : Role
  base : Option (Nat × Nat)
  headroom : Nat
  fitting : Option Nat

structure AuthorizedRun where
  current : Bool
  final : List (PassItem × Bool)
  refreshed : List (PassItem × Bool)
  available : Nat
  participants : List Participant
  allocations : List (Role × Nat)
  reallocated : List (PassItem × Bool)

namespace AuthorizedRun
variable (x : AuthorizedRun)

def reservedBy (role : Role) : Nat :=
  ((x.final ++ x.refreshed).map fun p => if p.2 ∧ p.1.role = role then p.1.notional else 0).sum

def successful : List (Role × Nat) :=
  (x.reallocated.filter (·.2)).map fun p => (p.1.role, p.1.notional)

def secondReserved : Nat := (x.successful.map (·.2)).sum

end AuthorizedRun

structure ReallocationRecord [Keccak] (m : PortfolioMandate) where
  initialAllocationDigest : Digest32
  previousPlanDigest : Digest32
  nextPlanDigest : Digest32
  nextPlan : InitialAllocationPlan m
  released : List (Role × Nat)
  assigned : List (Role × Nat)
  generation : Nat

/-- The runs so far: what was reserved for each agent, the records, and the increments each
reallocation pass reserved. -/
structure AllocatedSession [Keccak] (m : PortfolioMandate) where
  reserved : Role → Nat
  lineage : List (ReallocationRecord m)
  increments : List (List (Role × Nat))

namespace AllocatedSession
variable [Keccak] (e : SignedAllocation) (s : AllocatedSession e.mandate) (x : AuthorizedRun)

def new : AllocatedSession e.mandate := ⟨fun _ => 0, [], []⟩

def budgets : List (Role × Nat) :=
  e.enabled.filterMap fun role => (e.budgetOf role).map fun budget => (role, budget)

/-- The agents of a budget that reserved nothing in this run, each with the whole of it. -/
def released : List (Role × Nat) := (budgets e).filter fun item => x.reservedBy item.1 = 0 ∧ 0 < item.2

/-- Whole USDC of what was released and what the ledger says is free. -/
def pool : Nat :=
  let raw := min ((released e x).map (·.2)).sum x.available
  raw - raw % 1000000

/-- Agents that reserved in this run and can use at least their candidate's least amount more. -/
def recipients : List Role :=
  x.participants.filterMap fun p =>
    if x.reservedBy p.role = 0 then none
    else match p.base with
      | none => none
      | some (minAtoms, maxAtoms) =>
        let depth := maxAtoms - x.reservedBy p.role
        let upTo := min (min depth p.headroom) (pool e x)
        if upTo < minAtoms then none else p.fitting.map fun _ => p.role

/-- A reallocation pass hands over nothing but proposals for the allocated increments. -/
def Reassigns : Prop :=
  x.reallocated = [] ∨ (x.current = true ∧ budgets e ≠ [] ∧ e.autoReallocate = true ∧ pool e x ≠ 0 ∧
      (∀ a ∈ x.allocations, a.1 ∈ recipients e x) ∧
      ∀ p ∈ x.reallocated, ∃ a ∈ x.allocations, a.1 = p.1.role ∧ 0 < a.2)

instance : Decidable (Reassigns e x) := inferInstanceAs (Decidable (_ ∨ _))

variable {e}

def latest : Option (InitialAllocationPlan e.mandate) :=
  match s.lineage.getLast? with
  | some prior => some prior.nextPlan
  | none => e.initial

/-- The record of this run's reallocation pass; none where the next plan is none. -/
def record : Option (ReallocationRecord e.mandate) :=
  if x.secondReserved = 0 then none
  else match e.initial, s.latest with
    | some initial, some previous =>
      (nextAllocationPlan e.party previous (released e x) x.successful).map fun next =>
        { initialAllocationDigest := planDigest initial
          previousPlanDigest := planDigest previous
          nextPlanDigest := planDigest next
          nextPlan := next
          released := released e x
          assigned := x.successful
          generation := (s.lineage.getLast?.map (·.generation)).getD 0 + 1 }
    | _, _ => none

def step : Option (AllocatedSession e.mandate) :=
  if Reassigns e x then
    some
      { reserved := fun role => s.reserved role + x.reservedBy role + sumOf x.successful role
        lineage := s.lineage ++ (s.record x).toList
        increments := if x.secondReserved = 0 then s.increments else s.increments ++ [x.successful] }
  else none

def Steps (e : SignedAllocation) (before : AllocatedSession e.mandate) (x : AuthorizedRun)
    (after : AllocatedSession e.mandate) : Prop := before.step x = some after

end AllocatedSession

open AllocatedSession (released)

section Run
variable [Keccak] {e : SignedAllocation} {s after : AllocatedSession e.mandate} {x : AuthorizedRun}

/-- The signed plan and every plan after it: whole, and within each agent's maximum. -/
structure Planned (e : SignedAllocation) (plan : InitialAllocationPlan e.mandate) : Prop where
  total : ∀ initial, e.initial = some initial → plan.totalCapitalAtoms = initial.totalCapitalAtoms
  whole : entriesAllocated plan.entries.members + plan.unallocatedAtoms.1 = plan.totalCapitalAtoms.1
  ceilings : ∀ entry ∈ plan.entries.members, entry.allocatedAtoms.1 ≤ hardMaximum e.mandate entry.agent

def planBefore (e : SignedAllocation) (lineage : List (ReallocationRecord e.mandate)) :
    Nat → Option (InitialAllocationPlan e.mandate)
  | 0 => e.initial
  | i + 1 => lineage[i]?.map (·.nextPlan)

/-- Reallocation gives no agent more than it was allocated, and leaves a record of all it gives. -/
structure NeverOver (e : SignedAllocation) (s : AllocatedSession e.mandate) : Prop where
  within : ∀ plan, s.latest = some plan → ∀ role, (s.reserved role : Int) ≤ allocationOf e.party plan role
  planned : ∀ plan, s.latest = some plan → Planned e plan
  released : ∀ record ∈ s.lineage, ∀ item ∈ record.released, s.reserved item.1 = 0
  recorded : s.lineage.map (·.assigned) = s.increments
  chained : ∀ i record, s.lineage[i]? = some record → ∃ previous, planBefore e s.lineage i = some previous ∧
    record.previousPlanDigest = planDigest previous ∧ record.nextPlanDigest = planDigest record.nextPlan

/-- A run that the latest plan has room for: what its first passes reserve is left to the agents by the plan, and
where its reallocation pass reserves something, the agents that released their budgets still hold them untouched,
the increments stay within the agents' maxima, and together within what is released and unallocated. -/
structure Orderly (s : AllocatedSession e.mandate) (x : AuthorizedRun) : Prop where
  covered : ∀ plan, s.latest = some plan → ∀ role,
    (s.reserved role + x.reservedBy role : Int) ≤ allocationOf e.party plan role
  signed : x.secondReserved ≠ 0 → e.initial.isSome
  untouched : x.secondReserved ≠ 0 → ∀ item ∈ released e x, s.reserved item.1 = 0
  held : x.secondReserved ≠ 0 → ∀ plan, s.latest = some plan → ∀ item ∈ released e x,
    (item.2 : Int) ≤ allocationOf e.party plan item.1
  below : ∀ plan, s.latest = some plan → ∀ item ∈ x.successful,
    allocationOf e.party plan item.1 + sumOf x.successful item.1 ≤ hardMaximum e.mandate (e.party item.1)
  room : ∀ plan, s.latest = some plan →
    (x.secondReserved : Int) ≤ plan.unallocatedAtoms.1 + (((released e x).map (·.2)).sum : Nat)

theorem distinguished (e : SignedAllocation) (plan : InitialAllocationPlan e.mandate) :
    Distinguished plan.entries.members ∧ ∀ entry ∈ plan.entries.members, ∃ role ∈ e.enabled, entry.agent = e.party role := by
  have agents : ∀ entry ∈ plan.entries.members, ∃ role ∈ e.enabled, entry.agent = e.party role := by
    intro entry member
    have listed : entry.agent ∈ e.mandate.agents.members.map (·.agent) := by
      rw [← plan.listed]
      exact mem_map_of_mem member
    obtain ⟨policy, there, same⟩ := mem_map.mp listed
    obtain ⟨role, enabled, is⟩ := e.agents policy there
    exact ⟨role, enabled, same.symm.trans is⟩
  refine ⟨?_, agents⟩
  refine pairwise_map.mpr (plan.entries.ascending.imp_of_mem fun {a b} here there below alike => ?_)
  obtain ⟨first, _, named⟩ := agents a here
  obtain ⟨second, _, other⟩ := agents b there
  rw [named, other] at alike
  have same : a.agent = b.agent := by rw [named, other, e.distinct alike]
  unfold encodeWith writeEntryKey at below
  rw [same] at below
  unfold compareBytes at below
  rw [@Std.ReflCmp.compare_self _ compare] at below
  cases below

variable {item : Role × Nat}

omit [Keccak] in
theorem sumOf_mem {items : List (Role × Nat)} (once : (items.map (·.1)).Nodup) (member : item ∈ items) :
    sumOf items item.1 = item.2 := by
  induction items with
  | nil => exact absurd member not_mem_nil
  | cons head items ih =>
    obtain ⟨fresh, rest⟩ := nodup_cons.mp once
    have split_ (role : Role) : sumOf (head :: items) role = (if head.1 = role then head.2 else 0) + sumOf items role := rfl
    rw [split_]
    rcases mem_cons.mp member with rfl | later
    · rw [if_pos rfl, sumOf_none, Nat.add_zero]
      intro other there same
      exact fresh (mem_map.mpr ⟨other, there, same⟩)
    · rw [if_neg, ih rest later, Nat.zero_add]
      intro same
      exact fresh (mem_map.mpr ⟨item, later, same.symm⟩)

theorem released_mem (member : item ∈ released e x) :
    item.1 ∈ e.enabled ∧ e.budgetOf item.1 = some item.2 ∧ x.reservedBy item.1 = 0 ∧ 0 < item.2 := by
  obtain ⟨listed, holds⟩ := mem_filter.mp member
  obtain ⟨role, enabled, budgeted⟩ := mem_filterMap.mp listed
  obtain ⟨budget, is, rfl⟩ := Option.map_eq_some_iff.mp budgeted
  exact ⟨enabled, is, by simpa using holds⟩

theorem released_once : ((released e x).map (·.1)).Nodup := by
  have keys (roles : List Role) : ((roles.filterMap fun role => (e.budgetOf role).map fun budget => (role, budget)).map (·.1)).Sublist
      roles := by
    induction roles with
    | nil => exact .slnil
    | cons role roles ih =>
      rw [filterMap_cons]
      cases e.budgetOf role with
      | none => exact ih.cons _
      | some budget => exact ih.cons_cons _
  exact (e.once.sublist (keys e.enabled)).sublist (filter_sublist.map _)

theorem successful_holds (reassigns : AllocatedSession.Reassigns e x) (member : item ∈ x.successful) :
    0 < x.reservedBy item.1 := by
  obtain ⟨p, there, rfl⟩ := mem_map.mp member
  have listed := (mem_filter.mp there).1
  rcases reassigns with none_ | ⟨_, _, _, _, allocated, proposed⟩
  · rw [none_] at listed
    exact absurd listed not_mem_nil
  · obtain ⟨a, inside, same, _⟩ := proposed p listed
    obtain ⟨q, _, is⟩ := mem_filterMap.mp (allocated a inside)
    rw [← same]
    split at is
    · cases is
    next holds =>
      split at is
      · cases is
      · dsimp only at is
        split at is
        · cases is
        · obtain ⟨_, _, named⟩ := Option.map_eq_some_iff.mp is
          rw [← named]
          exact Nat.pos_of_ne_zero holds

/-- What else stays true: an agent whose budget was released is left nothing, and one that reserved nothing no more than its budget. -/
structure Accounted (e : SignedAllocation) (s : AllocatedSession e.mandate) : Prop where
  never : NeverOver e s
  signed : s.lineage ≠ [] → e.initial.isSome
  gone : ∀ record ∈ s.lineage, ∀ item ∈ record.released, ∀ plan, s.latest = some plan → allocationOf e.party plan item.1 = 0
  unspent : ∀ plan, s.latest = some plan → ∀ role ∈ e.enabled, s.reserved role = 0 →
    allocationOf e.party plan role ≤ ((e.budgetOf role).getD 0 : Nat)

theorem planBefore_append {lineage more : List (ReallocationRecord e.mandate)} {i : Nat} (within : i ≤ lineage.length) :
    planBefore e (lineage ++ more) i = planBefore e lineage i := by
  cases i with
  | zero => rfl
  | succ i =>
    change Option.map _ (lineage ++ more)[i]? = Option.map _ lineage[i]?
    rw [getElem?_append_left (by omega)]

theorem planBefore_latest : planBefore e s.lineage s.lineage.length = s.latest := by
  unfold AllocatedSession.latest
  rcases eq_nil_or_concat s.lineage with none_ | ⟨earlier, last, is⟩
  · rw [none_]
    rfl
  · rw [is, concat_eq_append, length_append, getLast?_concat]
    change Option.map _ (earlier ++ [last])[earlier.length]? = _
    rw [getElem?_concat_length]
    rfl

theorem Accounted.rests (kept : Accounted e s) (orderly : Orderly s x) (nothing : x.secondReserved = 0) {next : Role → Nat}
    (is : next = fun role => s.reserved role + x.reservedBy role + sumOf x.successful role) :
    Accounted e { s with reserved := next } := by
  have none_ (role : Role) : sumOf x.successful role = 0 := by
    have := sumOf_le x.successful role
    unfold AuthorizedRun.secondReserved at nothing
    omega
  have at_ (role : Role) : next role = s.reserved role + x.reservedBy role := by
    rw [is]
    dsimp only
    rw [none_, Nat.add_zero]
  have before := kept.never
  refine ⟨⟨?_, before.planned, ?_, before.recorded, before.chained⟩, kept.signed, kept.gone, ?_⟩
  · intro plan latest role
    have covered := orderly.covered plan latest role
    dsimp only
    rw [at_]
    push_cast
    exact covered
  · intro record member item there
    obtain ⟨plan, latest⟩ : ∃ plan, s.latest = some plan := by
      unfold AllocatedSession.latest
      rcases eq_nil_or_concat s.lineage with empty | ⟨earlier, last, whole⟩
      · rw [empty] at member
        exact absurd member not_mem_nil
      · rw [whole, concat_eq_append, getLast?_concat]
        exact ⟨_, rfl⟩
    have covered := orderly.covered plan latest item.1
    rw [kept.gone record member item there plan latest] at covered
    dsimp only
    rw [at_]
    omega
  · intro plan latest role enabled zero
    dsimp only at zero
    rw [at_] at zero
    exact kept.unspent plan latest role enabled (by omega)

variable {plan : InitialAllocationPlan e.mandate}

theorem Orderly.fits (orderly : Orderly s x) (reassigns : AllocatedSession.Reassigns e x)
    (some_ : x.secondReserved ≠ 0) (latest : s.latest = some plan) :
    Fits e.party plan (released e x) x.successful ∧
      ∀ item ∈ released e x ++ x.successful, 0 < allocationOf e.party plan item.1 := by
  have positive : ∀ item ∈ x.successful, 0 < allocationOf e.party plan item.1 := by
    intro item member
    have holds := successful_holds reassigns member
    have covered := orderly.covered plan latest item.1
    omega
  refine ⟨⟨?_, ?_, orderly.room plan latest⟩, ?_⟩
  · intro role
    by_cases listed : ∃ item ∈ released e x, item.1 = role
    · obtain ⟨item, member, rfl⟩ := listed
      rw [sumOf_mem released_once member]
      exact orderly.held some_ plan latest item member
    · have covered := orderly.covered plan latest role
      rw [sumOf_none fun item member same => listed ⟨item, member, same⟩]
      omega
  · intro item member
    have holds := successful_holds reassigns member
    have kept_ : sumOf (released e x) item.1 = 0 := by
      refine sumOf_none fun other there same => ?_
      have nothing := (released_mem there).2.2.1
      rw [same] at nothing
      omega
    have below := orderly.below plan latest item member
    rw [kept_]
    omega
  · intro item member
    rcases mem_append.mp member with here | there
    · have held := orderly.held some_ plan latest item here
      have := (released_mem here).2.2.2
      omega
    · exact positive item there

theorem Accounted.moves (kept : Accounted e s) (orderly : Orderly s x) (reassigns : AllocatedSession.Reassigns e x)
    (some_ : x.secondReserved ≠ 0) (latest : s.latest = some plan)
    {record : ReallocationRecord e.mandate} (moves : Moves e.party plan record.nextPlan (released e x) x.successful)
    (digests : record.previousPlanDigest = planDigest plan ∧ record.nextPlanDigest = planDigest record.nextPlan)
    (listed : record.released = released e x ∧ record.assigned = x.successful) : Accounted e
      { reserved := fun role => s.reserved role + x.reservedBy role + sumOf x.successful role
        lineage := s.lineage ++ [record]
        increments := s.increments ++ [x.successful] } := by
  have before := kept.never
  obtain ⟨after, is⟩ : ∃ after : AllocatedSession e.mandate, after =
      { reserved := fun role => s.reserved role + x.reservedBy role + sumOf x.successful role
        lineage := s.lineage ++ [record]
        increments := s.increments ++ [x.successful] } := ⟨_, rfl⟩
  have newest : after.latest = some record.nextPlan := by
    unfold AllocatedSession.latest
    rw [is, getLast?_concat]
  have reserved (role : Role) : after.reserved role = s.reserved role + x.reservedBy role + sumOf x.successful role := by
    rw [is]
  -- an agent that releases its budget has reserved nothing before, in this run, and in its reallocation
  have idle {item : Role × Nat} (member : item ∈ released e x) : after.reserved item.1 = 0 := by
    have nothing := (released_mem member).2.2.1
    have unassigned : sumOf x.successful item.1 = 0 := by
      refine sumOf_none fun other there same => ?_
      have holds := successful_holds reassigns there
      rw [same] at holds
      omega
    rw [reserved, orderly.untouched some_ item member, nothing, unassigned]
  have silent {role : Role} (zero : allocationOf e.party plan role = 0) :
      s.reserved role = 0 ∧ x.reservedBy role = 0 ∧ sumOf x.successful role = 0 ∧
        sumOf (released e x) role = 0 := by
    have covered := orderly.covered plan latest role
    refine ⟨by omega, by omega, ?_, ?_⟩
    · refine sumOf_none fun other there same => ?_
      have holds := successful_holds reassigns there
      rw [same] at holds
      omega
    · refine sumOf_none fun other there same => ?_
      have held := orderly.held some_ plan latest other there
      have := (released_mem there).2.2.2
      rw [same, zero] at held
      omega
  rw [← is]
  refine ⟨⟨?_, ?_, ?_, ?_, ?_⟩, fun _ => orderly.signed some_, ?_, ?_⟩
  · intro next there role
    obtain rfl := some.inj (newest.symm.trans there)
    rw [reserved, moves.allocations]
    by_cases listed_ : ∃ item ∈ released e x, item.1 = role
    · obtain ⟨item, member, rfl⟩ := listed_
      have held := orderly.held some_ plan latest item member
      have untouched := orderly.untouched some_ item member
      have nothing := (released_mem member).2.2.1
      rw [sumOf_mem released_once member]
      omega
    · have covered := orderly.covered plan latest role
      rw [sumOf_none fun item member same => listed_ ⟨item, member, same⟩]
      omega
  · intro next there
    obtain rfl := some.inj (newest.symm.trans there)
    have planned := before.planned plan latest
    exact ⟨fun initial signed => moves.total.trans (planned.total initial signed), record.nextPlan.whole, moves.ceilings⟩
  · intro other member item there
    rw [is] at member
    rcases mem_append.mp member with earlier | now
    · have zero := kept.gone other earlier item there plan latest
      obtain ⟨untouched, nothing, unassigned, _⟩ := silent zero
      rw [reserved, untouched, nothing, unassigned]
    · obtain rfl := mem_singleton.mp now
      rw [listed.1] at there
      exact idle there
  · rw [is]
    dsimp only
    rw [map_append, before.recorded, map_singleton, listed.2]
  · intro i other there
    rw [is] at there ⊢
    dsimp only at there ⊢
    by_cases within : i < s.lineage.length
    · rw [getElem?_append_left within] at there
      rw [planBefore_append (Nat.le_of_lt within)]
      exact before.chained i other there
    · have last : i = s.lineage.length := by
        have := (List.getElem?_eq_some_iff.mp there).1
        rw [length_append, length_singleton] at this
        omega
      subst last
      rw [getElem?_concat_length] at there
      obtain rfl := some.inj there
      exact ⟨plan, (planBefore_append (Nat.le_refl _)).trans (planBefore_latest.trans latest), digests⟩
  · intro other member item there next new
    obtain rfl := some.inj (newest.symm.trans new)
    rw [is] at member
    rw [moves.allocations]
    rcases mem_append.mp member with earlier | now
    · have zero := kept.gone other earlier item there plan latest
      obtain ⟨_, _, unassigned, unreleased⟩ := silent zero
      rw [zero, unassigned, unreleased]
      rfl
    · obtain rfl := mem_singleton.mp now
      rw [listed.1] at there
      have held := orderly.held some_ plan latest item there
      obtain ⟨enabled, budgeted, _, _⟩ := released_mem there
      have unspent := kept.unspent plan latest item.1 enabled (orderly.untouched some_ item there)
      have none_ := idle there
      rw [reserved] at none_
      rw [budgeted, Option.getD_some] at unspent
      rw [sumOf_mem released_once there]
      omega
  · intro next new role enabled zero
    obtain rfl := some.inj (newest.symm.trans new)
    rw [reserved] at zero
    have unspent := kept.unspent plan latest role enabled (by omega)
    rw [moves.allocations]
    omega

theorem Accounted.step (kept : Accounted e s) (taken : AllocatedSession.Steps e s x after) (orderly : Orderly s x) :
    Accounted e after := by
  unfold AllocatedSession.Steps AllocatedSession.step at taken
  split at taken
  next reassigns =>
    obtain rfl := some.inj taken
    by_cases nothing : x.secondReserved = 0
    · have none_ : s.record x = none := by
        unfold AllocatedSession.record
        rw [if_pos nothing]
      rw [none_, if_pos nothing, Option.toList_none, append_nil]
      exact kept.rests orderly nothing rfl
    · obtain ⟨initial, signed⟩ := Option.isSome_iff_exists.mp (orderly.signed nothing)
      obtain ⟨plan, latest⟩ : ∃ plan, s.latest = some plan := by
        unfold AllocatedSession.latest
        split
        · exact ⟨_, rfl⟩
        · exact ⟨initial, signed⟩
      obtain ⟨distinct, agents⟩ := distinguished e plan
      obtain ⟨fits, listed⟩ := orderly.fits reassigns nothing latest
      obtain ⟨next, is, moves⟩ := fits.next distinct e.distinct
        (fun entry member => (agents entry member).imp fun _ there => there.2) listed
        (kept.never.planned plan latest).ceilings
      have made : s.record x = some
          { initialAllocationDigest := planDigest initial
            previousPlanDigest := planDigest plan
            nextPlanDigest := planDigest next
            nextPlan := next
            released := released e x
            assigned := x.successful
            generation := (s.lineage.getLast?.map (·.generation)).getD 0 + 1 } := by
        unfold AllocatedSession.record
        rw [if_neg nothing, signed, latest]
        dsimp only
        rw [is, Option.map_some]
      rw [made, if_neg nothing, Option.toList_some]
      exact kept.moves orderly reassigns nothing latest moves ⟨rfl, rfl⟩ ⟨rfl, rfl⟩
  next => cases taken

theorem accounted_new : Accounted e (.new e) := by
  have first (plan : InitialAllocationPlan e.mandate) (latest : (AllocatedSession.new e).latest = some plan) :
      e.initial = some plan := latest
  refine ⟨⟨?_, ?_, fun _ member => absurd member not_mem_nil, rfl, ?_⟩, fun some_ => absurd rfl some_,
    fun _ member => absurd member not_mem_nil, ?_⟩
  · intro plan latest role
    obtain ⟨distinct, agents⟩ := distinguished e plan
    rw [allocationOf_amounts distinct]
    by_cases named : ∃ entry ∈ plan.entries.members, entry.agent.value = (e.party role).value
    · obtain ⟨entry, member, there⟩ := named
      rw [← there, amountsOf_entry distinct member]
      exact entry.allocatedAtoms.2.1
    · rw [amountsOf_none fun entry member there => named ⟨entry, member, there⟩]
      exact le_refl _
  · intro plan latest
    refine ⟨fun initial signed => ?_, plan.whole, e.ceilings plan (first plan latest)⟩
    rw [some.inj (signed.symm.trans (first plan latest))]
  · intro i record there
    cases there
  · intro plan latest role enabled _
    exact le_of_eq (e.planned plan (first plan latest) role enabled)

end Run

section Sample

def notionalOf (atoms : Int) (inside : 0 ≤ atoms ∧ atoms ≤ UINT256_MAX) : ValidVector :=
  ⟨[⟨⟨NOTIONAL, atoms⟩, inside⟩], by simp [MAX_RESOURCES], pairwise_singleton _ _⟩

def sampleParty : Role → AgentId
  | .stock => ⟨⟨"demo", .refl true⟩, ⟨"stock", .refl true⟩, by decide⟩
  | .swap => ⟨⟨"demo", .refl true⟩, ⟨"swap", .refl true⟩, by decide⟩
  | .nft => ⟨⟨"demo", .refl true⟩, ⟨"nft", .refl true⟩, by decide⟩
  | .yield => ⟨⟨"demo", .refl true⟩, ⟨"yield", .refl true⟩, by decide⟩
  | .perps => ⟨⟨"demo", .refl true⟩, ⟨"perps", .refl true⟩, by decide⟩

def samplePolicy (role : Role) (atoms : Int) (inside : 0 ≤ atoms ∧ atoms ≤ UINT256_MAX) : AgentPolicy :=
  ⟨sampleParty role, ⟨"agent", .refl true⟩, sampleScope, sampleWindow, notionalOf atoms inside, noAmounts⟩

/-- A swap agent of at most 400 USDC and a stock agent of at most 600. -/
def twoAgents : PortfolioMandate :=
  { Portfolio.sampleMandate with
    limits := notionalOf 1000000000 (by decide)
    agents := ⟨[samplePolicy .swap 400000000 (by decide), samplePolicy .stock 600000000 (by decide)], by decide, by decide⟩ }

def samplePlan [Keccak] : InitialAllocationPlan twoAgents where
  portfolioMandateDigest := portfolioMandateDigest twoAgents
  totalCapitalAtoms := ⟨1000000000, by decide⟩
  mode := .fixed
  autoReallocate := true
  entries := ⟨[⟨sampleParty .swap, ⟨400000000, by decide⟩, .fixed⟩, ⟨sampleParty .stock, ⟨300000000, by decide⟩, .fixed⟩],
    by decide, by decide⟩
  unallocatedAtoms := ⟨300000000, by decide⟩
  bound := rfl
  listed := rfl
  sourced := rfl
  whole := rfl

def sampleAllocation [Keccak] : SignedAllocation where
  mandate := twoAgents
  party := sampleParty
  enabled := [.stock, .swap]
  budgetOf
    | .stock => some 300000000
    | .swap => some 400000000
    | _ => none
  autoReallocate := true
  initial := some samplePlan
  distinct {a b} := by cases a <;> cases b <;> decide
  once := by decide
  budgeted := by decide
  agents := by
    intro policy member
    simp only [twoAgents, mem_cons, not_mem_nil, or_false] at member
    rcases member with rfl | rfl
    · exact ⟨.swap, by decide, rfl⟩
    · exact ⟨.stock, by decide, rfl⟩
  planned := by
    intro plan is role enabled
    obtain rfl := some.inj is
    simp only [mem_cons, not_mem_nil, or_false] at enabled
    rcases enabled with rfl | rfl <;> rfl
  ceilings := by
    intro plan is
    obtain rfl := some.inj is
    intro e member
    simp only [samplePlan, mem_cons, not_mem_nil, or_false] at member
    rcases member with rfl | rfl <;> decide

attribute [local instance] platformKeccak

/-- The stock agent reserves `first` and is given `more` of what the swap agent released. -/
def sampleRun (first more : Nat) : AuthorizedRun where
  current := true
  final := [(⟨.stock, 1, [("portfolio-notional", first)]⟩, true)]
  refreshed := []
  available := 1000000000 - first
  participants := [⟨.stock, some (1000000, 900000000), 600000000 - first, some more⟩]
  allocations := [(.stock, more)]
  reallocated := [(⟨.stock, 2, [("portfolio-notional", more)]⟩, true)]

def stepSample (s : AllocatedSession sampleAllocation.mandate) (x : AuthorizedRun) :
    Option (AllocatedSession sampleAllocation.mandate) := s.step x

end Sample

end Mandate.Authoring
