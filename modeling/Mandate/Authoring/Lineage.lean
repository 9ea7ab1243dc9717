import Mandate.Authoring.Passes
import Mandate.Portfolio.Codec
import Mathlib.Algebra.BigOperators.Ring.Finset

/-! The allocation plans a session goes through after its principal signed the first: what an agent
released leaves its entry, and what the ledger reserved of it for another is added to that one's. -/
set_option linter.dupNamespace false
namespace Mandate.Authoring
open Core Portfolio List

def NOTIONAL : PortfolioResourceId := ⟨"portfolio-notional", by decide⟩

/-- An entry while the next plan is made of it; its amount is checked at the end only. -/
structure PlanEntry where
  agent : AgentId
  allocatedAtoms : Int
  source : InitialAllocationSource

abbrev ByAgent := Identifier → Option PlanEntry

section Next
variable [Keccak] {m : PortfolioMandate} (party : Role → AgentId)

def byAgentOf (entries : List InitialAllocationEntry) : ByAgent := fun key =>
  (entries.reverse.find? fun e => e.agent.value = key).map fun e => ⟨e.agent, e.allocatedAtoms.1, e.source⟩

def releaseEntry (byAgent : ByAgent) (item : Role × Nat) : Option ByAgent :=
  let key := (party item.1).value
  match byAgent key with
  | none => none
  | some entry =>
    if entry.allocatedAtoms < item.2 then none
    else some (Function.update byAgent key (some { entry with allocatedAtoms := entry.allocatedAtoms - item.2 }))

def assignEntry (m : PortfolioMandate) (byAgent : ByAgent) (item : Role × Nat) : Option ByAgent :=
  let key := (party item.1).value
  match byAgent key with
  | none => none
  | some entry =>
    let next := entry.allocatedAtoms + item.2
    match agentPolicyOf m entry.agent with
    | none => none
    | some policy =>
      if amountOf policy.hardMaxima.amounts NOTIONAL < next then none
      else some (Function.update byAgent key (some { entry with allocatedAtoms := next }))

def nextAllocationPlan (previous : InitialAllocationPlan m) (released assigned : List (Role × Nat)) :
    Option (InitialAllocationPlan m) := do
  let byAgent ← released.foldlM (releaseEntry party) (byAgentOf previous.entries.members)
  let byAgent ← assigned.foldlM (assignEntry party m) byAgent
  let entries ← previous.entries.members.mapM fun e => byAgent e.agent.value
  let allocated := (entries.map (·.allocatedAtoms)).sum
  if previous.totalCapitalAtoms.1 < allocated then none
  else (validateInitialAllocationPlan
    { portfolioMandateDigest := previous.portfolioMandateDigest.toHex
      totalCapitalAtoms := .bigint previous.totalCapitalAtoms.1
      mode := previous.mode
      autoReallocate := previous.autoReallocate
      entries := entries.map fun e => ⟨partyIdInputOf e.agent, .bigint e.allocatedAtoms, e.source⟩
      unallocatedAtoms := .bigint (previous.totalCapitalAtoms.1 - allocated) } m "initialAllocation").toOption

def planDigest (plan : InitialAllocationPlan m) : Digest32 := keccakDigest (encodeInitialAllocationPlan plan)

def allocationOf (plan : InitialAllocationPlan m) (role : Role) : Int :=
  ((plan.entries.members.find? fun e => e.agent.value = (party role).value).map (·.allocatedAtoms.1)).getD 0

end Next

section Amounts
variable {party : Role → AgentId} {m : PortfolioMandate} {entries : List InitialAllocationEntry} {f : Identifier → Int}

def sumOf (items : List (Role × Nat)) (role : Role) : Nat :=
  (items.map fun item => if item.1 = role then item.2 else 0).sum

def sumAt (party : Role → AgentId) (items : List (Role × Nat)) (key : Identifier) : Nat :=
  (items.map fun item => if (party item.1).value = key then item.2 else 0).sum

def hardMaximum (m : PortfolioMandate) (agent : AgentId) : Int :=
  ((agentPolicyOf m agent).map fun policy => amountOf policy.hardMaxima.amounts NOTIONAL).getD 0

def moved (entries : List InitialAllocationEntry) (amounts : Identifier → Int) : List PlanEntry :=
  entries.map fun e => ⟨e.agent, amounts e.agent.value, e.source⟩

def withAmounts (entries : List InitialAllocationEntry) (amounts : Identifier → Int) : ByAgent := fun key =>
  (entries.reverse.find? fun e => e.agent.value = key).map fun e => ⟨e.agent, amounts key, e.source⟩

def amountsOf (entries : List InitialAllocationEntry) : Identifier → Int := fun key =>
  ((entries.reverse.find? fun e => e.agent.value = key).map (·.allocatedAtoms.1)).getD 0

theorem byAgentOf_amounts : byAgentOf entries = withAmounts entries (amountsOf entries) := by
  funext key
  unfold byAgentOf withAmounts amountsOf
  cases entries.reverse.find? fun e => e.agent.value = key <;> rfl

variable {key : Identifier}

theorem withAmounts_update {entry : PlanEntry} (found : withAmounts entries f key = some entry)
    (amount : Int) :
    Function.update (withAmounts entries f) key (some { entry with allocatedAtoms := amount }) =
      withAmounts entries (Function.update f key amount) := by
  funext other
  unfold withAmounts at *
  obtain ⟨e, here, rfl⟩ := Option.map_eq_some_iff.mp found
  by_cases same : other = key
  · subst same
    rw [Function.update_self, here, Option.map_some, Function.update_self]
  · rw [Function.update_of_ne same]
    cases entries.reverse.find? fun e => e.agent.value = other with
    | none => rfl
    | some e => rw [Option.map_some, Option.map_some, Function.update_of_ne same]

theorem withAmounts_found (known : ∃ e ∈ entries, e.agent.value = key) :
    ∃ e ∈ entries, e.agent.value = key ∧ withAmounts entries f key = some ⟨e.agent, f key, e.source⟩ := by
  obtain ⟨e, member, there⟩ := known
  cases found : entries.reverse.find? fun e => e.agent.value = key with
  | none =>
    have none_ := find?_eq_none.mp found e (mem_reverse.mpr member)
    exact absurd (decide_eq_true there) none_
  | some other =>
    refine ⟨other, mem_reverse.mp (mem_of_find?_eq_some found), by simpa using find?_some found, ?_⟩
    unfold withAmounts
    rw [found, Option.map_some]

theorem release_amounts (items : List (Role × Nat)) (known : ∀ item ∈ items, ∃ e ∈ entries, e.agent.value = (party item.1).value)
    (enough : ∀ key, (sumAt party items key : Int) ≤ f key) :
    items.foldlM (releaseEntry party) (withAmounts entries f) =
      some (withAmounts entries fun key => f key - sumAt party items key) := by
  induction items generalizing f with
  | nil => exact congrArg some (congrArg _ (funext fun key => (Int.sub_zero _).symm))
  | cons item items ih =>
    obtain ⟨e, _, _, found⟩ := withAmounts_found (f := f) (known item mem_cons_self)
    have split_ (key : Identifier) : sumAt party (item :: items) key =
        (if (party item.1).value = key then item.2 else 0) + sumAt party items key := rfl
    have here := enough (party item.1).value
    rw [split_, if_pos rfl] at here
    have taken : releaseEntry party (withAmounts entries f) item =
        some (withAmounts entries (Function.update f (party item.1).value (f (party item.1).value - item.2))) := by
      rw [← withAmounts_update found]
      unfold releaseEntry
      dsimp only
      rw [found]
      dsimp only
      rw [if_neg (by omega)]
    rw [foldlM_cons, taken, Option.bind_eq_bind, Option.bind_some, ih (fun i member => known i (mem_cons_of_mem _ member))]
    · refine congrArg some (congrArg _ (funext fun key => ?_))
      rw [split_, Function.update_apply]
      split
      next same =>
        subst same
        rw [if_pos rfl]
        push_cast
        ring
      next other => rw [if_neg (Ne.symm other), Nat.zero_add]
    · intro key
      have all := enough key
      rw [split_] at all
      rw [Function.update_apply]
      split
      next same =>
        subst same
        rw [if_pos rfl] at all
        omega
      next other =>
        rw [if_neg (Ne.symm other)] at all
        omega

theorem hardMaximum_of {agent : AgentId} {policy : AgentPolicy} (found : agentPolicyOf m agent = some policy) :
    hardMaximum m agent = amountOf policy.hardMaxima.amounts NOTIONAL := by
  unfold hardMaximum
  rw [found, Option.map_some, Option.getD_some]

theorem assign_amounts (items : List (Role × Nat)) (known : ∀ item ∈ items, ∃ e ∈ entries, e.agent.value = (party item.1).value)
    (allowed : ∀ e ∈ entries, ∃ policy, agentPolicyOf m e.agent = some policy)
    (below : ∀ item ∈ items, ∀ e ∈ entries, e.agent.value = (party item.1).value →
      f e.agent.value + sumAt party items e.agent.value ≤ hardMaximum m e.agent) :
    items.foldlM (assignEntry party m) (withAmounts entries f) =
      some (withAmounts entries fun key => f key + sumAt party items key) := by
  induction items generalizing f with
  | nil => exact congrArg some (congrArg _ (funext fun key => (Int.add_zero _).symm))
  | cons item items ih =>
    obtain ⟨e, member, named, found⟩ := withAmounts_found (f := f) (known item mem_cons_self)
    obtain ⟨policy, policed⟩ := allowed e member
    have split_ (key : Identifier) : sumAt party (item :: items) key =
        (if (party item.1).value = key then item.2 else 0) + sumAt party items key := rfl
    have here := below item mem_cons_self e member named
    rw [split_, named, if_pos rfl, hardMaximum_of policed] at here
    have taken : assignEntry party m (withAmounts entries f) item =
        some (withAmounts entries (Function.update f (party item.1).value (f (party item.1).value + item.2))) := by
      rw [← withAmounts_update found]
      unfold assignEntry
      dsimp only
      rw [found]
      dsimp only
      rw [policed]
      dsimp only
      rw [if_neg (by omega)]
    rw [foldlM_cons, taken, Option.bind_eq_bind, Option.bind_some, ih (fun i member => known i (mem_cons_of_mem _ member))]
    · refine congrArg some (congrArg _ (funext fun key => ?_))
      rw [split_, Function.update_apply]
      split
      next same =>
        subst same
        rw [if_pos rfl]
        push_cast
        ring
      next other => rw [if_neg (Ne.symm other), Nat.zero_add]
    · intro i listed e there same
      have all := below i (mem_cons_of_mem _ listed) e there same
      rw [split_] at all
      rw [Function.update_apply]
      split
      next key =>
        rw [if_pos key.symm] at all
        rw [key] at all ⊢
        push_cast at all
        omega
      next other =>
        rw [if_neg (Ne.symm other)] at all
        omega

def Distinguished (entries : List InitialAllocationEntry) : Prop := (entries.map (·.agent.value)).Nodup

theorem Distinguished.same (distinct : Distinguished entries) {a b : InitialAllocationEntry} (here : a ∈ entries)
    (there : b ∈ entries) (alike : a.agent.value = b.agent.value) : a = b :=
  inj_on_of_nodup_map distinct here there alike

theorem sum_at_one {values : List Identifier} (distinct : values.Nodup) (member : key ∈ values)
    (atoms : Nat) : (values.map fun value => if key = value then atoms else 0).sum = atoms := by
  induction values with
  | nil => exact absurd member not_mem_nil
  | cons value values ih =>
    obtain ⟨fresh, rest⟩ := nodup_cons.mp distinct
    rw [map_cons, sum_cons]
    rcases mem_cons.mp member with here | later
    · have none_ : (values.map fun value => if key = value then atoms else 0).sum = 0 := by
        refine sum_eq_zero fun x there => ?_
        obtain ⟨other, inside, rfl⟩ := mem_map.mp there
        exact if_neg fun (same : key = other) => fresh (here ▸ same ▸ inside)
      rw [if_pos here, none_, Nat.add_zero]
    · rw [if_neg fun (same : key = value) => fresh (same ▸ later), ih rest later, Nat.zero_add]

theorem sum_sumAt (distinct : Distinguished entries) (items : List (Role × Nat))
    (known : ∀ item ∈ items, ∃ e ∈ entries, e.agent.value = (party item.1).value) :
    (entries.map fun e => sumAt party items e.agent.value).sum = (items.map (·.2)).sum := by
  induction items with
  | nil =>
    refine sum_eq_zero fun x member => ?_
    obtain ⟨_, _, rfl⟩ := mem_map.mp member
    rfl
  | cons item items ih =>
    have one : (entries.map fun e => if (party item.1).value = e.agent.value then item.2 else 0).sum = item.2 := by
      obtain ⟨e, member, named⟩ := known item mem_cons_self
      have sum := sum_at_one distinct (mem_map.mpr ⟨e, member, named⟩) item.2
      rw [map_map] at sum
      exact sum
    have rest := ih fun i member => known i (mem_cons_of_mem _ member)
    rw [map_cons, sum_cons, ← rest, ← one, ← sum_map_add]
    rfl

variable {e : InitialAllocationEntry}

theorem withAmounts_entry (distinct : Distinguished entries) (member : e ∈ entries) :
    withAmounts entries f e.agent.value = some ⟨e.agent, f e.agent.value, e.source⟩ := by
  obtain ⟨other, there, same, found⟩ := withAmounts_found (f := f) ⟨e, member, rfl⟩
  obtain rfl := distinct.same there member same
  exact found

theorem moved_of (distinct : Distinguished entries) :
    (entries.mapM fun e => withAmounts entries f e.agent.value) = some (moved entries f) := by
  have each (items : List InitialAllocationEntry) (inside : ∀ e ∈ items, e ∈ entries) :
      (items.mapM fun e => withAmounts entries f e.agent.value) = some (moved items f) := by
    induction items with
    | nil => rfl
    | cons e items ih =>
      rw [mapM_cons, withAmounts_entry distinct (inside e mem_cons_self),
        ih fun e member => inside e (mem_cons_of_mem _ member)]
      rfl
  exact each entries fun _ member => member

theorem amountsOf_none (unknown : ∀ e ∈ entries, e.agent.value ≠ key) : amountsOf entries key = 0 := by
  unfold amountsOf
  have none_ : (entries.reverse.find? fun e => e.agent.value = key) = none :=
    find?_eq_none.mpr fun e member => by simpa using unknown e (mem_reverse.mp member)
  rw [none_]
  rfl

theorem amountsOf_entry (distinct : Distinguished entries) (member : e ∈ entries) :
    amountsOf entries e.agent.value = e.allocatedAtoms.1 := by
  unfold amountsOf
  cases found : entries.reverse.find? fun other => other.agent.value = e.agent.value with
  | none =>
    have none_ := find?_eq_none.mp found e (mem_reverse.mpr member)
    exact absurd (decide_eq_true rfl) none_
  | some other =>
    obtain rfl := distinct.same (mem_reverse.mp (mem_of_find?_eq_some found)) member
      (by simpa using find?_some found)
    rfl

def reEntry (f : Identifier → Int) (e : InitialAllocationEntry) : InitialAllocationEntry :=
  { e with allocatedAtoms :=
      if inside : 0 ≤ f e.agent.value ∧ f e.agent.value ≤ UINT64_MAX then ⟨f e.agent.value, inside⟩ else e.allocatedAtoms }

theorem reEntry_atoms (inside : 0 ≤ f e.agent.value ∧ f e.agent.value ≤ UINT64_MAX) :
    (reEntry f e).allocatedAtoms.1 = f e.agent.value := by
  unfold reEntry
  dsimp only
  rw [dif_pos inside]

end Amounts

section Plan
variable [Keccak] {party : Role → AgentId} {m : PortfolioMandate} {plan : InitialAllocationPlan m}
  {f : Identifier → Int}

def replan (plan : InitialAllocationPlan m) (f : Identifier → Int) (unallocated : Uint64)
    (whole : entriesAllocated (plan.entries.members.map (reEntry f)) + unallocated.1 = plan.totalCapitalAtoms.1) :
    InitialAllocationPlan m where
  portfolioMandateDigest := plan.portfolioMandateDigest
  totalCapitalAtoms := plan.totalCapitalAtoms
  mode := plan.mode
  autoReallocate := plan.autoReallocate
  entries := ⟨plan.entries.members.map (reEntry f), by rw [length_map]; exact plan.entries.bounded,
    pairwise_map.mpr plan.entries.ascending⟩
  unallocatedAtoms := unallocated
  bound := plan.bound
  listed := by rw [map_map]; exact plan.listed
  sourced := by rw [all_map]; exact plan.sourced
  whole := whole

theorem entries_within (inside : ∀ e ∈ plan.entries.members, 0 ≤ f e.agent.value)
    (total : ((moved plan.entries.members f).map (·.allocatedAtoms)).sum ≤ plan.totalCapitalAtoms.1) :
    ∀ e ∈ plan.entries.members, 0 ≤ f e.agent.value ∧ f e.agent.value ≤ UINT64_MAX := by
  intro e member
  refine ⟨inside e member, ?_⟩
  have each : ∀ x ∈ (moved plan.entries.members f).map (·.allocatedAtoms), 0 ≤ x := by
    intro x there
    obtain ⟨_, moved_, rfl⟩ := mem_map.mp there
    obtain ⟨e, member, rfl⟩ := mem_map.mp moved_
    exact inside e member
  have one := single_le_sum each (f e.agent.value)
    (mem_map_of_mem (f := PlanEntry.allocatedAtoms) (mem_map_of_mem (f := fun e => ⟨e.agent, f e.agent.value, e.source⟩) member))
  have most := plan.totalCapitalAtoms.2.2
  omega

theorem replanned_sum (inside : ∀ e ∈ plan.entries.members, 0 ≤ f e.agent.value ∧ f e.agent.value ≤ UINT64_MAX) :
    entriesAllocated (plan.entries.members.map (reEntry f)) = ((moved plan.entries.members f).map (·.allocatedAtoms)).sum := by
  unfold entriesAllocated moved
  rw [map_map, map_map]
  exact congrArg List.sum (map_congr_left fun e member => reEntry_atoms (inside e member))

variable {released assigned : List (Role × Nat)}

theorem nextAllocationPlan_fits (distinct : Distinguished plan.entries.members)
    (known : ∀ item ∈ released ++ assigned, ∃ e ∈ plan.entries.members, e.agent.value = (party item.1).value)
    (enough : ∀ key, (sumAt party released key : Int) ≤ amountsOf plan.entries.members key)
    (below : ∀ item ∈ assigned, ∀ e ∈ plan.entries.members, e.agent.value = (party item.1).value →
      amountsOf plan.entries.members e.agent.value - sumAt party released e.agent.value +
        sumAt party assigned e.agent.value ≤ hardMaximum m e.agent)
    (moves : f = fun key => amountsOf plan.entries.members key - sumAt party released key + sumAt party assigned key)
    (total : ((moved plan.entries.members f).map (·.allocatedAtoms)).sum ≤ plan.totalCapitalAtoms.1) :
    ∃ unallocated whole, nextAllocationPlan party plan released assigned = some (replan plan f unallocated whole) := by
  have allowed : ∀ e ∈ plan.entries.members, ∃ policy, agentPolicyOf m e.agent = some policy := by
    intro e member
    have listed : e.agent ∈ m.agents.members.map (·.agent) := by
      rw [← plan.listed]
      exact mem_map_of_mem member
    obtain ⟨policy, there, same⟩ := mem_map.mp listed
    cases found : agentPolicyOf m e.agent with
    | some policy => exact ⟨policy, rfl⟩
    | none =>
      have none_ := find?_eq_none.mp found policy there
      exact absurd ((partyIdsEqual_iff ..).mpr same) none_
  have inside : ∀ e ∈ plan.entries.members, 0 ≤ f e.agent.value := by
    intro e _
    have some_ := enough e.agent.value
    rw [moves]
    dsimp only
    omega
  have within := entries_within inside total
  have sum := replanned_sum within
  have nonneg : 0 ≤ ((moved plan.entries.members f).map (·.allocatedAtoms)).sum := by
    refine sum_nonneg fun x there => ?_
    obtain ⟨_, moved_, rfl⟩ := mem_map.mp there
    obtain ⟨e, member, rfl⟩ := mem_map.mp moved_
    exact inside e member
  have most := plan.totalCapitalAtoms.2.2
  obtain ⟨unallocated, rest⟩ : ∃ u : Uint64,
      u.1 = plan.totalCapitalAtoms.1 - ((moved plan.entries.members f).map (·.allocatedAtoms)).sum :=
    ⟨⟨_, by omega, by omega⟩, rfl⟩
  have whole : entriesAllocated (plan.entries.members.map (reEntry f)) + unallocated.1 = plan.totalCapitalAtoms.1 := by
    omega
  refine ⟨unallocated, whole, ?_⟩
  unfold nextAllocationPlan
  rw [byAgentOf_amounts, release_amounts released (fun item member => known item (mem_append_left _ member)) enough,
    Option.bind_eq_bind, Option.bind_some, assign_amounts assigned (fun item member => known item (mem_append_right _ member))
      allowed below, Option.bind_eq_bind, Option.bind_some, ← moves, moved_of distinct, Option.bind_some]
  dsimp only
  rw [if_neg (by omega)]
  have same : (moved plan.entries.members f).map
      (fun e => (⟨partyIdInputOf e.agent, .bigint e.allocatedAtoms, e.source⟩ : InitialAllocationEntryInput)) =
        (replan plan f unallocated whole).entries.members.map entryInputOf := by
    unfold moved replan
    rw [map_map, map_map]
    refine map_congr_left fun e member => ?_
    unfold entryInputOf
    dsimp only [Function.comp_apply]
    rw [reEntry_atoms (within e member)]
    rfl
  rw [same, ← rest]
  exact congrArg Except.toOption (validatePlan_self (replan plan f unallocated whole) "initialAllocation")

theorem allocationOf_amounts (distinct : Distinguished plan.entries.members) (role : Role) :
    allocationOf party plan role = amountsOf plan.entries.members (party role).value := by
  unfold allocationOf
  cases found : plan.entries.members.find? fun e => e.agent.value = (party role).value with
  | none =>
    have none_ := find?_eq_none.mp found
    exact (amountsOf_none fun e member => by simpa using none_ e member).symm
  | some e =>
    have named : e.agent.value = (party role).value := by simpa using find?_some found
    rw [← named, amountsOf_entry distinct (mem_of_find?_eq_some found)]
    rfl

omit [Keccak] in
theorem sumAt_sumOf (apart : ∀ {a b : Role}, (party a).value = (party b).value → a = b) (items : List (Role × Nat))
    (role : Role) : sumAt party items (party role).value = sumOf items role := by
  unfold sumAt sumOf
  refine congrArg List.sum (map_congr_left fun item _ => ?_)
  by_cases same : item.1 = role
  · rw [if_pos same, if_pos (by rw [same])]
  · rw [if_neg same, if_neg fun alike => same (apart alike)]

omit [Keccak] in
theorem sumOf_le (items : List (Role × Nat)) (role : Role) : sumOf items role ≤ (items.map (·.2)).sum := by
  induction items with
  | nil => exact Nat.le_refl _
  | cons item items ih =>
    have head : (if item.1 = role then item.2 else 0) ≤ item.2 := by
      split <;> omega
    have split_ : sumOf (item :: items) role = (if item.1 = role then item.2 else 0) + sumOf items role := rfl
    rw [split_, map_cons, sum_cons]
    omega

omit [Keccak] in
theorem sumOf_none {items : List (Role × Nat)} {role : Role} (none_ : ∀ item ∈ items, item.1 ≠ role) : sumOf items role = 0 := by
  refine sum_eq_zero fun x member => ?_
  obtain ⟨item, there, rfl⟩ := mem_map.mp member
  exact if_neg (none_ item there)

/-- What is released and assigned fits the plan and its agents' maxima. -/
structure Fits (party : Role → AgentId) (plan : InitialAllocationPlan m) (released assigned : List (Role × Nat)) : Prop where
  enough : ∀ role, (sumOf released role : Int) ≤ allocationOf party plan role
  below : ∀ item ∈ assigned, allocationOf party plan item.1 - sumOf released item.1 + sumOf assigned item.1 ≤
    hardMaximum m (party item.1)
  total : ((assigned.map (·.2)).sum : Nat) ≤ plan.unallocatedAtoms.1 + ((released.map (·.2)).sum : Nat)

/-- What the next plan allocates, and that none of it is above an agent's maximum. -/
structure Moves (party : Role → AgentId) (plan next : InitialAllocationPlan m) (released assigned : List (Role × Nat)) :
    Prop where
  total : next.totalCapitalAtoms = plan.totalCapitalAtoms
  allocations : ∀ role, allocationOf party next role =
    allocationOf party plan role - sumOf released role + sumOf assigned role
  ceilings : ∀ e ∈ next.entries.members, e.allocatedAtoms.1 ≤ hardMaximum m e.agent

theorem Fits.next (fits : Fits party plan released assigned)
    (distinct : Distinguished plan.entries.members) (apart : ∀ {a b : Role}, (party a).value = (party b).value → a = b)
    (agents : ∀ e ∈ plan.entries.members, ∃ role, e.agent = party role)
    (listed : ∀ item ∈ released ++ assigned, 0 < allocationOf party plan item.1)
    (ceilings : ∀ e ∈ plan.entries.members, e.allocatedAtoms.1 ≤ hardMaximum m e.agent) :
    ∃ next, nextAllocationPlan party plan released assigned = some next ∧ Moves party plan next released assigned := by
  obtain ⟨f, moves⟩ : ∃ f : Identifier → Int, f = fun key =>
    amountsOf plan.entries.members key - sumAt party released key + sumAt party assigned key := ⟨_, rfl⟩
  have known : ∀ item ∈ released ++ assigned, ∃ e ∈ plan.entries.members, e.agent.value = (party item.1).value := by
    intro item member
    by_contra none_
    have positive := listed item member
    rw [allocationOf_amounts distinct, amountsOf_none fun e there named => none_ ⟨e, there, named⟩] at positive
    exact absurd positive (lt_irrefl 0)
  have at_ (role : Role) : f (party role).value =
      allocationOf party plan role - sumOf released role + sumOf assigned role := by
    rw [moves, allocationOf_amounts distinct]
    dsimp only
    rw [sumAt_sumOf apart, sumAt_sumOf apart]
  have enough (key : Identifier) : (sumAt party released key : Int) ≤ amountsOf plan.entries.members key := by
    by_cases named : ∃ role, (party role).value = key
    · obtain ⟨role, rfl⟩ := named
      rw [sumAt_sumOf apart, ← allocationOf_amounts distinct]
      exact fits.enough role
    · have zero : sumAt party released key = 0 := by
        refine sum_eq_zero fun x member => ?_
        obtain ⟨item, _, rfl⟩ := mem_map.mp member
        exact if_neg fun same => named ⟨item.1, same⟩
      have unknown : ∀ e ∈ plan.entries.members, e.agent.value ≠ key := by
        intro e member same
        obtain ⟨role, is⟩ := agents e member
        exact named ⟨role, by rw [← is, same]⟩
      rw [zero, amountsOf_none unknown]
      exact le_refl _
  have below : ∀ item ∈ assigned, ∀ e ∈ plan.entries.members, e.agent.value = (party item.1).value →
      amountsOf plan.entries.members e.agent.value - sumAt party released e.agent.value +
        sumAt party assigned e.agent.value ≤ hardMaximum m e.agent := by
    intro item member e there named
    obtain ⟨role, is⟩ := agents e there
    obtain rfl : role = item.1 := apart (by rw [← is, named])
    rw [is, sumAt_sumOf apart, sumAt_sumOf apart, ← allocationOf_amounts distinct]
    exact fits.below item member
  have total : ((moved plan.entries.members f).map (·.allocatedAtoms)).sum ≤ plan.totalCapitalAtoms.1 := by
    have sums : ((moved plan.entries.members f).map (·.allocatedAtoms)).sum + ((released.map (·.2)).sum : Nat) =
        entriesAllocated plan.entries.members + ((assigned.map (·.2)).sum : Nat) := by
      rw [← sum_sumAt distinct released fun item member => known item (mem_append_left _ member),
        ← sum_sumAt distinct assigned fun item member => known item (mem_append_right _ member)]
      unfold entriesAllocated moved
      rw [map_map, Nat.cast_list_sum, Nat.cast_list_sum, map_map, map_map, ← sum_map_add, ← sum_map_add]
      refine congrArg List.sum (map_congr_left fun e member => ?_)
      dsimp only [Function.comp_apply]
      rw [moves]
      dsimp only
      rw [amountsOf_entry distinct member]
      ring
    have whole := plan.whole
    have most := fits.total
    omega
  obtain ⟨unallocated, whole, is⟩ := nextAllocationPlan_fits distinct known enough below moves total
  have atoms {e : InitialAllocationEntry} (member : e ∈ plan.entries.members) : (reEntry f e).allocatedAtoms.1 = f e.agent.value := by
    refine reEntry_atoms (entries_within (fun e _ => ?_) total e member)
    have some_ := enough e.agent.value
    rw [moves]
    dsimp only
    omega
  refine ⟨_, is, rfl, ?_, ?_⟩
  · intro role
    have again : Distinguished (plan.entries.members.map (reEntry f)) := by
      unfold Distinguished
      rw [map_map]
      exact distinct
    rw [← at_ role, @allocationOf_amounts _ _ _ (replan plan f unallocated whole) again]
    by_cases named : ∃ e ∈ plan.entries.members, e.agent.value = (party role).value
    · obtain ⟨e, member, there⟩ := named
      have here := amountsOf_entry again (mem_map_of_mem (f := reEntry f) member)
      rw [atoms member] at here
      rw [← there]
      exact here
    · have none_ (items : List (Role × Nat)) (sub : ∀ item ∈ items, item ∈ released ++ assigned) : sumOf items role = 0 := by
        refine sumOf_none fun item member same => named ?_
        rw [← same]
        exact known item (sub item member)
      rw [at_, none_ released fun item member => mem_append_left _ member,
        none_ assigned fun item member => mem_append_right _ member, allocationOf_amounts distinct,
        amountsOf_none fun e member there => named ⟨e, member, there⟩, amountsOf_none]
      · rfl
      · intro e member there
        obtain ⟨e, inside, rfl⟩ := mem_map.mp member
        exact named ⟨e, inside, there⟩
  · intro e member
    obtain ⟨e, inside, rfl⟩ := mem_map.mp member
    obtain ⟨role, agent⟩ := agents e inside
    rw [atoms inside]
    change f e.agent.value ≤ hardMaximum m e.agent
    by_cases moved_ : ∃ item ∈ assigned, item.1 = role
    · obtain ⟨item, there, rfl⟩ := moved_
      rw [agent, at_]
      exact fits.below item there
    · have none_ : sumOf assigned role = 0 := sumOf_none fun item there same => moved_ ⟨item, there, same⟩
      have before := ceilings e inside
      have here : allocationOf party plan role = e.allocatedAtoms.1 := by
        rw [allocationOf_amounts distinct, ← agent, amountsOf_entry distinct inside]
      rw [agent, at_, none_, here, ← agent]
      omega

end Plan

end Mandate.Authoring
