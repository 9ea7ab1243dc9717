import Mandate.Authoring.Passes
import Mandate.Lib.Keyed

/-! The deterministic allocator: shares by weight, fixed at the cap where they reach it and shared again,
the weakest agent short of its minimum dropped and all started over. -/
set_option linter.dupNamespace false
namespace Mandate.Allocation
open Authoring Lib.Keyed List

section Model

def GRANULARITY : Int := 1000000
def MIN_UTILITY : Int := 8
def METRIC_MAX : Int := 4
def NEUTRAL_FACTOR : Int := 10000

inductive CardAction | propose | abstain
deriving DecidableEq

structure OpportunityMetrics where
  opportunityQuality : Int
  liquidity : Int
  executionQuality : Int
  downsideRisk : Int
  dataConfidence : Int

structure OpportunityCard where
  role : Role
  action : CardAction
  minimumUsefulAtoms : Int
  maximumUsefulAtoms : Int
  metrics : OpportunityMetrics
  observedAt : Int
  freshUntil : Int

structure AllocationEntry where
  card : OpportunityCard
  jevBps : Option Rat
  hardCapAtoms : Int

inductive ZeroReason | abstained | noDataConfidence | belowUtilityThreshold | noCapacity | belowMinimumUseful
deriving DecidableEq

structure AgentAllocation where
  role : Role
  atoms : Int
  weight : Int
  utility : Int
  capAtoms : Int
  zero : Option ZeroReason
  capped : Bool

inductive AllocationRefusal | duplicateRole | planObservationsIncoherent | negativeInput | invalidScore

inductive AllocationResult
  | ok (poolAtoms : Int) (allocations : List AgentAllocation) (allocatedAtoms unallocatedAtoms : Int)
  | refused (reason : AllocationRefusal)

def modelUtility (c : OpportunityCard) : Int :=
  c.metrics.opportunityQuality + c.metrics.liquidity + c.metrics.executionQuality + (METRIC_MAX - c.metrics.downsideRisk) +
    c.metrics.dataConfidence

def zeroReason (c : OpportunityCard) : Option ZeroReason :=
  if c.action = .abstain then some .abstained
  else if c.metrics.dataConfidence = 0 then some .noDataConfidence
  else if modelUtility c < MIN_UTILITY then some .belowUtilityThreshold
  else none

def weightOf (c : OpportunityCard) (jevBps : Option Rat) : Int :=
  if zeroReason c ≠ none then 0
  else modelUtility c * match jevBps with
    | none => NEUTRAL_FACTOR
    | some bps => 5000 + bps.num.tdiv 2

def whole (atoms : Int) : Int := atoms - atoms.tmod GRANULARITY

def roleIndex (r : Role) : Nat := ROLES.idxOf r

/-- Every proposing card was observed before every other one went stale. -/
def coherent (cards : List OpportunityCard) : Bool :=
  match cards.filter (fun c => c.action = .propose) with
  | [] => true
  | first :: live =>
    let latest := live.foldl (fun m c => if m < c.observedAt then c.observedAt else m) first.observedAt
    (first :: live).all fun c => latest ≤ c.freshUntil

structure Row where
  role : Role
  minimum : Int
  capAtoms : Int
  weight : Int
  utility : Int
  zero : Option ZeroReason
deriving DecidableEq

def rowOf (e : AllocationEntry) : Row :=
  let capAtoms := whole (min e.card.maximumUsefulAtoms e.hardCapAtoms)
  let zero := match zeroReason e.card with
    | none => if capAtoms = 0 ∨ capAtoms < e.card.minimumUsefulAtoms then some .noCapacity else none
    | some reason => some reason
  ⟨e.card.role, e.card.minimumUsefulAtoms, capAtoms, if zero = none then weightOf e.card e.jevBps else 0,
    modelUtility e.card, zero⟩

/-- A map from roles to amounts. -/
abbrev Amounts := List (Role × Int)

def share (remaining total : Int) (r : Row) : Int :=
  if remaining ≤ 0 ∨ total = 0 then 0 else whole ((remaining * r.weight).tdiv total)

/-- The inner loop: what the caps do not fix is shared again. -/
def shareLoop (poolAtoms : Int) : Nat → Amounts → List Row → Option Amounts
  | 0, _, _ => none
  | fuel + 1, fixed, active =>
    let remaining := poolAtoms - (fixed.map (·.2)).sum
    let total := (active.map (·.weight)).sum
    let shares := active.map fun r => (r.role, share remaining total r)
    let capped := active.filter fun r => r.capAtoms ≤ share remaining total r
    if capped = [] then some (fixed ++ shares)
    else shareLoop poolAtoms fuel (fixed ++ capped.map fun r => (r.role, r.capAtoms)) (active.filter (· ∉ capped))

def weaker (w r : Row) : Row :=
  if r.weight < w.weight ∨ (r.weight = w.weight ∧ roleIndex w.role < roleIndex r.role) then r else w

def isShort (all : Amounts) (r : Row) : Bool :=
  match all.lookup r.role with
  | none => false
  | some atoms => atoms < r.minimum

/-- The outer loop: the weakest agent short of its minimum is dropped, and all is shared again. -/
def dropLoop (poolAtoms : Int) (rows : List Row) (inner : Nat) : Nat → List Role → Option (Amounts × List Role)
  | 0, _ => none
  | fuel + 1, dropped => do
    let all ← shareLoop poolAtoms inner [] (rows.filter fun r => r.zero = none ∧ r.role ∉ dropped)
    match rows.filter (isShort all) with
    | [] => some (all, dropped)
    | w :: short => dropLoop poolAtoms rows inner fuel (dropped ++ [(short.foldl weaker w).role])

def allocationOf (result : Amounts) (dropped : List Role) (r : Row) : AgentAllocation :=
  let atoms := (result.lookup r.role).getD 0
  let zero := match r.zero with
    | some reason => some reason
    | none => if r.role ∈ dropped then some .belowMinimumUseful else if atoms = 0 then some .noCapacity else none
  ⟨r.role, if zero = none then atoms else 0, r.weight, r.utility, r.capAtoms, zero, zero = none ∧ atoms = r.capAtoms⟩

def inRoleOrder (entries : List AllocationEntry) : List AllocationEntry :=
  entries.insertionSort fun a b => roleIndex a.card.role ≤ roleIndex b.card.role

def badScore (jevBps : Option Rat) : Bool :=
  match jevBps with
  | none => false
  | some bps => bps.den ≠ 1 ∨ bps < 0 ∨ 10000 < bps

/-- `none` where a loop has not ended within the fuel. -/
def allocate (fuel : Nat) (poolAtoms : Int) (entries : List AllocationEntry) : Option AllocationResult :=
  if poolAtoms < 0 ∨ entries.any (fun e => e.hardCapAtoms < 0) then some (.refused .negativeInput)
  else if ¬ (entries.map (·.card.role)).Nodup then some (.refused .duplicateRole)
  else if entries.any (fun e => badScore e.jevBps) then some (.refused .invalidScore)
  else if ¬ coherent (entries.map (·.card)) then some (.refused .planObservationsIncoherent)
  else do
    let rows := (inRoleOrder entries).map rowOf
    let (result, dropped) ← dropLoop poolAtoms rows fuel fuel []
    let allocations := rows.map (allocationOf result dropped)
    let allocatedAtoms := (allocations.map (·.atoms)).sum
    some (.ok poolAtoms allocations allocatedAtoms (poolAtoms - allocatedAtoms))

end Model

section Shares
variable {remaining total : Int} {active : List Row}

theorem dvd_whole (atoms : Int) : GRANULARITY ∣ whole atoms :=
  ⟨atoms.tdiv GRANULARITY, by rw [whole, Int.tmod_def]; ring⟩

theorem whole_bounds {atoms : Int} (positive : 0 ≤ atoms) : whole atoms ≤ atoms ∧ atoms < whole atoms + GRANULARITY ∧ 0 ≤ whole atoms := by
  unfold whole GRANULARITY
  rw [Int.tmod_eq_emod_of_nonneg positive]
  omega

theorem share_bounds {r : Row} (left : 0 < remaining) (some_weight : 0 < total) (weighs : 0 ≤ r.weight) :
    share remaining total r * total ≤ remaining * r.weight ∧
      remaining * r.weight + 1 ≤ (share remaining total r + GRANULARITY) * total ∧ 0 ≤ share remaining total r := by
  have product : 0 ≤ remaining * r.weight := Int.mul_nonneg left.le weighs
  rw [share, if_neg (by omega), Int.tdiv_eq_ediv_of_nonneg product]
  obtain ⟨below, above, positive⟩ := whole_bounds (Int.ediv_nonneg product some_weight.le)
  have floor := Int.ediv_mul_le (remaining * r.weight) some_weight.ne'
  have ceiling := Int.lt_ediv_add_one_mul_self (remaining * r.weight) some_weight
  refine ⟨le_trans (Int.mul_le_mul_of_nonneg_right below some_weight.le) floor, ?_, positive⟩
  exact le_trans (Int.add_one_le_of_lt ceiling) (Int.mul_le_mul_of_nonneg_right (by omega) some_weight.le)

theorem shares_bounds (left : 0 < remaining) (some_weight : 0 < total) (weigh : ∀ r ∈ active, 0 ≤ r.weight) :
    (active.map (share remaining total)).sum * total ≤ remaining * (active.map (·.weight)).sum ∧
      remaining * (active.map (·.weight)).sum + active.length ≤
        ((active.map (share remaining total)).sum + GRANULARITY * active.length) * total := by
  induction active with
  | nil => simp
  | cons r active ih =>
    obtain ⟨below, above⟩ := ih fun r listed => weigh r (mem_cons_of_mem _ listed)
    obtain ⟨mine, mine', -⟩ := share_bounds left some_weight (weigh r mem_cons_self)
    simp only [map_cons, sum_cons, length_cons, Nat.cast_add, Nat.cast_one]
    constructor <;> linarith

theorem share_nonneg {r : Row} (weighs : 0 ≤ r.weight) (weights : 0 ≤ total) : 0 ≤ share remaining total r := by
  by_cases none_left : remaining ≤ 0 ∨ total = 0
  · rw [share, if_pos none_left]
  · exact (share_bounds (by omega) (by omega) weighs).2.2

theorem shares_within (left : 0 ≤ remaining) (weigh : ∀ r ∈ active, 0 ≤ r.weight) :
    (active.map (share remaining (active.map (·.weight)).sum)).sum ≤ remaining := by
  have weights : 0 ≤ (active.map (·.weight)).sum := sum_nonneg fun w listed => by
    obtain ⟨r, there, rfl⟩ := mem_map.mp listed
    exact weigh r there
  by_cases none_left : remaining ≤ 0 ∨ (active.map (·.weight)).sum = 0
  · have nothing : active.map (share remaining (active.map (·.weight)).sum) = active.map fun _ => 0 :=
      map_congr_left fun r _ => if_pos none_left
    rw [nothing]
    simpa using left
  · have total_pos : 0 < (active.map (·.weight)).sum := by omega
    exact le_of_mul_le_mul_right (shares_bounds (by omega) total_pos weigh).1 total_pos

end Shares

section Loops

/-- A division of the pool: every amount whole and within its cap, and where one is below it, next to nothing left. -/
structure Divided (poolAtoms : Int) (fixed : Amounts) (active : List Row) (all : Amounts) : Prop where
  keys : (all.map (·.1)).Perm (fixed.map (·.1) ++ active.map (·.role))
  held : ∀ e ∈ all, e ∈ fixed ∨ ∃ r ∈ active, e.1 = r.role ∧ GRANULARITY ∣ e.2 ∧ e.2 ≤ r.capAtoms
  within : (all.map (·.2)).sum ≤ poolAtoms
  tight : ∀ r ∈ active, ∀ atoms, (r.role, atoms) ∈ all → 0 < atoms → atoms < r.capAtoms →
    poolAtoms - (all.map (·.2)).sum < GRANULARITY * active.length

structure Fit (r : Row) : Prop where
  whole : GRANULARITY ∣ r.capAtoms
  weighs : 0 < r.weight
  useful : r.minimum ≤ r.capAtoms

variable {poolAtoms : Int} {fixed : Amounts} {active : List Row}

theorem Fit.weighs' (fits : ∀ r ∈ active, Fit r) : ∀ r ∈ active, 0 ≤ r.weight := fun r listed => (fits r listed).weighs.le

theorem weights_nonneg (fits : ∀ r ∈ active, Fit r) : 0 ≤ (active.map (·.weight)).sum := sum_nonneg fun w listed => by
  obtain ⟨r, there, rfl⟩ := mem_map.mp listed
  exact (fits r there).weighs.le

/-- No share reaches its cap: what is shared is the division. -/
theorem divided_shared (fits : ∀ r ∈ active, Fit r) (distinct : (fixed.map (·.1) ++ active.map (·.role)).Nodup)
    (room : (fixed.map (·.2)).sum ≤ poolAtoms)
    (below : ∀ r ∈ active, share (poolAtoms - (fixed.map (·.2)).sum) (active.map (·.weight)).sum r < r.capAtoms) :
    Divided poolAtoms fixed active
      (fixed ++ active.map fun r => (r.role, share (poolAtoms - (fixed.map (·.2)).sum) (active.map (·.weight)).sum r)) := by
  have shares : ((fixed ++ active.map fun r =>
      (r.role, share (poolAtoms - (fixed.map (·.2)).sum) (active.map (·.weight)).sum r)).map (·.2)).sum =
      (fixed.map (·.2)).sum +
        (active.map (share (poolAtoms - (fixed.map (·.2)).sum) (active.map (·.weight)).sum)).sum := by
    rw [map_append, sum_append, map_map]
    rfl
  constructor
  · rw [map_append, map_map]
    exact .refl _
  · intro e listed
    refine (mem_append.mp listed).imp_right fun shared => ?_
    obtain ⟨r, there, rfl⟩ := mem_map.mp shared
    refine ⟨r, there, rfl, ?_, (below r there).le⟩
    dsimp only
    unfold share
    split
    · exact Int.dvd_zero _
    · exact dvd_whole _
  · rw [shares]
    have within := shares_within (Int.sub_nonneg_of_le room) (Fit.weighs' fits)
    omega
  · intro r here atoms listed positive _
    rcases mem_append.mp listed with known | shared
    · exact absurd (mem_map_of_mem here)
        ((nodup_append.mp distinct).2.2 r.role (mem_map_of_mem known) r.role · rfl)
    · obtain ⟨r', there, same⟩ := mem_map.mp shared
      obtain ⟨-, rfl⟩ := Prod.mk.inj same
      have some_left : ¬ (poolAtoms - (fixed.map (·.2)).sum ≤ 0 ∨ (active.map (·.weight)).sum = 0) := fun none_left => by
        rw [share, if_pos none_left] at positive
        exact absurd positive (Int.lt_irrefl 0)
      have weights := weights_nonneg fits
      have total_pos : 0 < (active.map (·.weight)).sum := by omega
      have left : 0 < poolAtoms - (fixed.map (·.2)).sum := by omega
      have bound := (shares_bounds left total_pos (Fit.weighs' fits)).2
      have listed : 0 < active.length := length_pos_of_mem here
      have less := lt_of_mul_lt_mul_right (lt_of_lt_of_le (lt_add_of_pos_right _ (Int.natCast_pos.mpr listed)) bound)
        total_pos.le
      rw [shares]
      omega

theorem mem_capped {p : Row → Bool} {r : Row} (here : r ∈ active) : r ∉ active.filter p ↔ p r = false := by
  simp [mem_filter, here]

theorem shareLoop_divided (fits : ∀ r ∈ active, Fit r) (distinct : (fixed.map (·.1) ++ active.map (·.role)).Nodup)
    (room : (fixed.map (·.2)).sum ≤ poolAtoms) : ∃ all,
    (∀ fuel, active.length < fuel → shareLoop poolAtoms fuel fixed active = some all) ∧
      Divided poolAtoms fixed active all := by
  induction size : active.length using Nat.strong_induction_on generalizing fixed active with
  | _ n ih =>
  subst size
  let given := share (poolAtoms - (fixed.map (·.2)).sum) (active.map (·.weight)).sum
  let reaches : Row → Bool := fun r => r.capAtoms ≤ given r
  by_cases none_capped : active.filter reaches = []
  · refine ⟨fixed ++ active.map fun r => (r.role, given r), fun fuel enough => ?_, divided_shared fits distinct room ?_⟩
    · obtain ⟨fuel, rfl⟩ := Nat.exists_eq_succ_of_ne_zero (Nat.ne_zero_of_lt enough)
      exact if_pos none_capped
    · intro r here
      have below := filter_eq_nil_iff.mp none_capped r here
      exact Int.not_le.mp fun reached => below (decide_eq_true reached)
  · -- the capped are fixed, and the rest shares what is left
    have rest : active.filter (· ∉ active.filter reaches) = active.filter (!reaches ·) :=
      filter_congr fun r here => by
        rw [Bool.eq_iff_iff, decide_eq_true_iff, mem_capped here, Bool.not_eq_true']
    have parts := filter_append_perm reaches active
    have roles : (fixed.map (·.1) ++ active.map (·.role)).Perm
        ((fixed ++ (active.filter reaches).map fun r => (r.role, r.capAtoms)).map (·.1) ++
          (active.filter (!reaches ·)).map (·.role)) := by
      rw [map_append, map_map, List.append_assoc]
      refine .append_left _ ?_
      have whole := (parts.map (·.role)).symm
      rwa [map_append] at whole
    have fewer : (active.filter (!reaches ·)).length < active.length := by
      obtain ⟨r, capped⟩ := exists_mem_of_ne_nil _ none_capped
      obtain ⟨here, reached⟩ := mem_filter.mp capped
      exact length_filter_lt_length_iff_exists.mpr ⟨r, here, by simp [reached]⟩
    have left := Int.sub_nonneg_of_le room
    have spent : ((fixed ++ (active.filter reaches).map fun r => (r.role, r.capAtoms)).map (·.2)).sum ≤ poolAtoms := by
      have caps : ((active.filter reaches).map (·.capAtoms)).sum ≤ ((active.filter reaches).map given).sum :=
        sum_le_sum fun r capped => of_decide_eq_true (mem_filter.mp capped).2
      have some_of : ((active.filter reaches).map given).sum ≤ (active.map given).sum :=
        (filter_sublist.map given).sum_le_sum fun v listed => by
          obtain ⟨r, here, rfl⟩ := mem_map.mp listed
          exact share_nonneg (Fit.weighs' fits r here) (weights_nonneg fits)
      have within : (active.map given).sum ≤ _ := shares_within left (Fit.weighs' fits)
      rw [map_append, sum_append, map_map]
      change _ + ((active.filter reaches).map (·.capAtoms)).sum ≤ _
      omega
    obtain ⟨all, runs, divided⟩ := ih _ fewer (fun r here => fits r (mem_of_mem_filter here))
      (roles.nodup_iff.mp distinct) spent rfl
    refine ⟨all, fun fuel enough => ?_, ?_⟩
    · obtain ⟨fuel, rfl⟩ := Nat.exists_eq_succ_of_ne_zero (Nat.ne_zero_of_lt enough)
      refine (if_neg none_capped).trans ?_
      rw [show active.filter (fun r => decide (r ∉ active.filter fun r => decide (r.capAtoms ≤
        share (poolAtoms - (fixed.map (·.2)).sum) (active.map (·.weight)).sum r))) = active.filter (!reaches ·) from rest]
      exact runs fuel (by omega)
    · constructor
      · exact divided.keys.trans roles.symm
      · intro e listed
        rcases divided.held e listed with before | ⟨r, here, held⟩
        · refine (mem_append.mp before).imp_right fun capped => ?_
          obtain ⟨r, there, rfl⟩ := mem_map.mp capped
          have here := mem_of_mem_filter there
          exact ⟨r, here, rfl, (fits r here).whole, Int.le_refl _⟩
        · exact .inr ⟨r, mem_of_mem_filter here, held⟩
      · exact divided.within
      · intro r here atoms listed positive below
        have waits : r ∈ active.filter (!reaches ·) := by
          refine mem_filter.mpr ⟨here, ?_⟩
          rw [Bool.not_eq_true']
          refine Bool.eq_false_iff.mpr fun reached => ?_
          have apart := nodup_append.mp distinct
          rcases divided.held _ listed with before | ⟨r', there, same, -⟩
          · rcases mem_append.mp before with known | capped
            · exact apart.2.2 _ (mem_map_of_mem known) _ (mem_map_of_mem here) rfl
            · obtain ⟨r', there, same⟩ := mem_map.mp capped
              obtain ⟨role, rfl⟩ := Prod.mk.inj same
              obtain rfl := inj_on_of_nodup_map apart.2.1 (mem_of_mem_filter there) here role
              exact Int.lt_irrefl _ below
          · obtain rfl := inj_on_of_nodup_map apart.2.1 here (mem_of_mem_filter there) same
            have waits := (mem_filter.mp there).2
            rw [reached] at waits
            cases waits
        have tight := divided.tight r waits atoms listed positive below
        have grain : 0 < GRANULARITY := by decide
        nlinarith

theorem weakest_listed (w : Row) (short : List Row) : short.foldl weaker w ∈ w :: short := by
  induction short generalizing w with
  | nil => exact mem_cons_self
  | cons r short ih =>
    have next : weaker w r = r ∨ weaker w r = w := by
      unfold weaker
      split
      · exact .inl rfl
      · exact .inr rfl
    rw [foldl_cons]
    rcases mem_cons.mp (ih (weaker w r)) with is | listed
    · rw [is]
      rcases next with is | is <;> rw [is]
      · exact mem_cons_of_mem _ mem_cons_self
      · exact mem_cons_self
    · exact mem_cons_of_mem _ (mem_cons_of_mem _ listed)

variable {all : Amounts}

theorem mem_of_lookup {role : Role} {atoms : Int} (found : all.lookup role = some atoms) :
    (role, atoms) ∈ all := by
  obtain ⟨before, after, rfl, -⟩ := lookup_eq_some_iff.mp found
  exact mem_append_right _ mem_cons_self

def live (rows : List Row) (dropped : List Role) : List Row := rows.filter fun r => r.zero = none ∧ r.role ∉ dropped

structure Settled (poolAtoms : Int) (rows : List Row) (all : Amounts) (dropped : List Role) : Prop where
  divided : Divided poolAtoms [] (live rows dropped) all
  reached : ∀ r ∈ rows, ∀ atoms, all.lookup r.role = some atoms → r.minimum ≤ atoms

variable {rows : List Row}

theorem live_distinct (distinct : (rows.map (·.role)).Nodup) (dropped : List Role) :
    ((live rows dropped).map (·.role)).Nodup := distinct.sublist (filter_sublist.map _)

theorem dropLoop_next {inner fuel : Nat} {dropped : List Role}
    (shared : shareLoop poolAtoms inner [] (live rows dropped) = some all) :
    dropLoop poolAtoms rows inner (fuel + 1) dropped = match rows.filter (isShort all) with
      | [] => some (all, dropped)
      | w :: short => dropLoop poolAtoms rows inner fuel (dropped ++ [(short.foldl weaker w).role]) := by
  rw [dropLoop, show rows.filter (fun r => r.zero = none ∧ r.role ∉ dropped) = live rows dropped from rfl, shared]
  rfl

theorem dropLoop_settles (fits : ∀ r ∈ rows, r.zero = none → Fit r) (distinct : (rows.map (·.role)).Nodup)
    (room : 0 ≤ poolAtoms) (dropped : List Role) : ∃ all dropped', Settled poolAtoms rows all dropped' ∧
    ∀ inner fuel, rows.length < inner → (live rows dropped).length < fuel →
      dropLoop poolAtoms rows inner fuel dropped = some (all, dropped') := by
  induction size : (live rows dropped).length using Nat.strong_induction_on generalizing dropped with
  | _ n ih =>
  subst size
  have fits_live : ∀ r ∈ live rows dropped, Fit r := fun r here => by
    obtain ⟨listed, lives⟩ := mem_filter.mp here
    exact fits r listed (of_decide_eq_true lives).1
  obtain ⟨all, runs, divided⟩ := @shareLoop_divided poolAtoms [] _ fits_live (live_distinct distinct dropped) room
  have runs : ∀ inner, rows.length < inner → shareLoop poolAtoms inner [] (live rows dropped) = some all :=
    fun inner enough => runs inner (Nat.lt_of_le_of_lt (length_filter_le _ _) enough)
  cases short : rows.filter (isShort all) with
  | nil =>
    refine ⟨all, dropped, ⟨divided, fun r here atoms found => ?_⟩, fun inner fuel enough more => ?_⟩
    · have reached := filter_eq_nil_iff.mp short r here
      rw [isShort, found] at reached
      exact Int.not_lt.mp fun less => reached (decide_eq_true less)
    · obtain ⟨fuel, rfl⟩ := Nat.exists_eq_succ_of_ne_zero (Nat.ne_zero_of_lt more)
      rw [dropLoop_next (runs inner enough), short]
  | cons w rest =>
    have listed : rest.foldl weaker w ∈ rows.filter (isShort all) := by
      rw [short]
      exact weakest_listed w rest
    have fewer : (live rows (dropped ++ [(rest.foldl weaker w).role])).length < (live rows dropped).length := by
      obtain ⟨here, small⟩ := mem_filter.mp listed
      obtain ⟨atoms, found⟩ : ∃ atoms, all.lookup (rest.foldl weaker w).role = some atoms := by
        rw [isShort] at small
        split at small
        · cases small
        · exact ⟨_, by assumption⟩
      have key := divided.keys.mem_iff.mp (mem_map_of_mem (f := Prod.fst) (mem_of_lookup found))
      obtain ⟨r, alive, same⟩ := mem_map.mp (mem_append.mp key |>.resolve_left not_mem_nil)
      have again : live rows (dropped ++ [(rest.foldl weaker w).role]) =
          (live rows dropped).filter (·.role ≠ (rest.foldl weaker w).role) := by
        rw [live, live, filter_filter]
        exact filter_congr fun r _ => by
          rw [Bool.eq_iff_iff]
          simp
          tauto
      rw [again]
      exact length_filter_lt_length_iff_exists.mpr ⟨r, alive, by simpa using same⟩
    obtain ⟨all', dropped', settled, ends⟩ := ih _ fewer _ rfl
    refine ⟨all', dropped', settled, fun inner fuel enough more => ?_⟩
    obtain ⟨fuel, rfl⟩ := Nat.exists_eq_succ_of_ne_zero (Nat.ne_zero_of_lt more)
    rw [dropLoop_next (runs inner enough), short]
    exact ends inner fuel enough (by omega)

/-- Over roles that are apart, the amounts looked up add to the amounts held. -/
theorem sum_lookup {roles : List Role} (distinct : roles.Nodup) (keys : (all.map (·.1)).Nodup)
    (inside : ∀ role ∈ all.map (·.1), role ∈ roles) :
    (roles.map fun role => (all.lookup role).getD 0).sum = (all.map (·.2)).sum := by
  induction all generalizing roles with
  | nil => simp
  | cons e all ih =>
    obtain ⟨apart, keys⟩ := nodup_cons.mp keys
    have mine : e.1 ∈ roles := inside e.1 mem_cons_self
    have others : (roles.erase e.1).map (fun role => ((e :: all).lookup role).getD 0) =
        (roles.erase e.1).map fun role => (all.lookup role).getD 0 :=
      map_congr_left fun role listed => by
        have other : role ≠ e.1 := (List.Nodup.mem_erase_iff distinct).mp listed |>.1
        rw [lookup_cons, beq_false_of_ne other]
    rw [((perm_cons_erase mine).map _).sum_eq, map_cons, sum_cons, others,
      ih (distinct.erase e.1) keys fun role listed => (List.Nodup.mem_erase_iff distinct).mpr
        ⟨fun same => apart (by rw [same] at listed; exact listed), inside role (mem_cons_of_mem _ listed)⟩, lookup_cons_self]
    rfl

end Loops

section Allocations
variable {poolAtoms : Int} {entries entries' : List AllocationEntry}

theorem zeroReason_none {c : OpportunityCard} (useful : zeroReason c = none) : MIN_UTILITY ≤ modelUtility c := by
  unfold zeroReason at useful
  split at useful
  · cases useful
  · split at useful
    · cases useful
    · split at useful
      · cases useful
      · rename_i enough
        exact Int.not_lt.mp enough

theorem weightOf_pos {c : OpportunityCard} {jevBps : Option Rat} (useful : zeroReason c = none)
    (scored : badScore jevBps = false) : 0 < weightOf c jevBps := by
  have utility : 0 < modelUtility c := Int.lt_of_lt_of_le (by decide) (zeroReason_none useful)
  unfold weightOf
  rw [if_neg (not_not_intro useful)]
  refine Int.mul_pos utility ?_
  cases jevBps with
  | none => decide
  | some bps =>
    have bounds := of_decide_eq_false scored
    have positive : 0 ≤ bps.num := Rat.num_nonneg.mpr (not_lt.mp fun less => bounds (.inr (.inl less)))
    have half := Int.tdiv_nonneg positive (show (0 : Int) ≤ 2 by decide)
    dsimp only
    omega

theorem rowOf_fits {e : AllocationEntry} (scored : badScore e.jevBps = false) (open_row : (rowOf e).zero = none) :
    Fit (rowOf e) := by
  have useful : zeroReason e.card = none := by
    cases reason : zeroReason e.card with
    | none => rfl
    | some _ =>
      rw [rowOf, reason] at open_row
      cases open_row
  have room : ¬ (whole (min e.card.maximumUsefulAtoms e.hardCapAtoms) = 0 ∨
      whole (min e.card.maximumUsefulAtoms e.hardCapAtoms) < e.card.minimumUsefulAtoms) := fun none_left => by
    rw [rowOf, useful] at open_row
    dsimp only at open_row
    rw [if_pos none_left] at open_row
    cases open_row
  refine ⟨dvd_whole _, ?_, Int.not_lt.mp fun less => room (.inr less)⟩
  have weight : (rowOf e).weight = weightOf e.card e.jevBps := if_pos open_row
  rw [weight]
  exact weightOf_pos useful scored

theorem latest_le {live : List OpportunityCard} {start limit : Int} :
    live.foldl (fun m c => if m < c.observedAt then c.observedAt else m) start ≤ limit ↔
      start ≤ limit ∧ ∀ c ∈ live, c.observedAt ≤ limit := by
  induction live generalizing start with
  | nil => simp
  | cons c live ih =>
    rw [foldl_cons, ih, forall_mem_cons, ← and_assoc]
    refine and_congr_left fun _ => ?_
    split <;> omega

theorem coherent_iff {cards : List OpportunityCard} : coherent cards = true ↔
    ∀ c ∈ cards, c.action = .propose → ∀ c' ∈ cards, c'.action = .propose → c'.observedAt ≤ c.freshUntil := by
  have live : ∀ c, c ∈ cards.filter (fun c => c.action = .propose) ↔ c ∈ cards ∧ c.action = .propose := fun c => by
    rw [mem_filter, decide_eq_true_iff]
  unfold coherent
  cases proposing : cards.filter (fun c => c.action = .propose) with
  | nil =>
    refine iff_of_true rfl fun c here acts => ?_
    have listed := (live c).mpr ⟨here, acts⟩
    rw [proposing] at listed
    cases listed
  | cons first rest =>
    simp only [all_eq_true, decide_eq_true_iff, latest_le]
    rw [proposing] at live
    constructor
    · intro fresh c here acts c' here' acts'
      have both := fresh c ((live c).mpr ⟨here, acts⟩)
      rcases mem_cons.mp ((live c').mpr ⟨here', acts'⟩) with rfl | later
      · exact both.1
      · exact both.2 c' later
    · intro fresh c listed
      have mine := (live c).mp listed
      refine ⟨?_, fun c' later => ?_⟩
      · have its := (live first).mp mem_cons_self
        exact fresh c mine.1 mine.2 first its.1 its.2
      · have its := (live c').mp (mem_cons_of_mem _ later)
        exact fresh c mine.1 mine.2 c' its.1 its.2

theorem roleIndex_inj {a b : Role} (same : roleIndex a = roleIndex b) : a = b := by
  cases a <;> cases b <;> first | rfl | exact absurd same (by decide)

theorem inRoleOrder_perm (perm : entries'.Perm entries) (distinct : (entries'.map (·.card.role)).Nodup) :
    inRoleOrder entries' = inRoleOrder entries := by
  have total : Std.Total fun a b : AllocationEntry => roleIndex a.card.role ≤ roleIndex b.card.role :=
    ⟨fun a b => Nat.le_total _ _⟩
  have trans : IsTrans AllocationEntry fun a b => roleIndex a.card.role ≤ roleIndex b.card.role :=
    ⟨fun _ _ _ => Nat.le_trans⟩
  refine insertionSort_perm perm fun a here b there below above => ?_
  exact inj_on_of_nodup_map distinct here there (roleIndex_inj (Nat.le_antisymm below above))

theorem allocate_perm (fuel : Nat) (poolAtoms : Int) (perm : entries'.Perm entries) :
    allocate fuel poolAtoms entries' = allocate fuel poolAtoms entries := by
  have any_same : ∀ p : AllocationEntry → Bool, entries'.any p = entries.any p := fun p => perm.any_eq
  have cards := perm.map (·.card)
  have together : coherent (entries'.map (·.card)) = coherent (entries.map (·.card)) := by
    rw [Bool.eq_iff_iff, coherent_iff, coherent_iff]
    simp only [cards.mem_iff]
  unfold allocate
  rw [any_same, any_same, together]
  by_cases distinct : (entries.map (·.card.role)).Nodup
  · have distinct' := (perm.map (·.card.role)).nodup_iff.mpr distinct
    rw [inRoleOrder_perm perm distinct']
    simp only [distinct, distinct']
  · have distinct' : ¬ (entries'.map (·.card.role)).Nodup := fun nodup =>
      distinct ((perm.map (·.card.role)).nodup_iff.mp nodup)
    rw [if_pos distinct', if_pos distinct]

/-- What a pool and its entries may be divided into. -/
structure Fair (poolAtoms : Int) (entries : List AllocationEntry) (allocations : List AgentAllocation)
    (unallocated : Int) : Prop where
  roles : (allocations.map (·.role)).Perm (entries.map (·.card.role))
  amounts : ∀ e ∈ entries, ∀ a ∈ allocations, a.role = e.card.role → GRANULARITY ∣ a.atoms ∧
    (a.atoms = 0 ∨ e.card.minimumUsefulAtoms ≤ a.atoms ∧
      a.atoms ≤ whole (min e.card.maximumUsefulAtoms e.hardCapAtoms)) ∧
    (e.card.action = .abstain ∨ e.card.metrics.dataConfidence = 0 ∨ modelUtility e.card < MIN_UTILITY → a.atoms = 0)
  conserved : (allocations.map (·.atoms)).sum + unallocated = poolAtoms
  remainder : 0 ≤ unallocated
  tight : ∀ e ∈ entries, ∀ a ∈ allocations, a.role = e.card.role → 0 < a.atoms →
    a.atoms < whole (min e.card.maximumUsefulAtoms e.hardCapAtoms) → unallocated < GRANULARITY * entries.length

variable {rows : List Row} {all : Amounts} {dropped : List Role} {r : Row}

theorem Settled.live_of_lookup (settled : Settled poolAtoms rows all dropped) (distinct : (rows.map (·.role)).Nodup) (listed : r ∈ rows) {atoms : Int} (found : all.lookup r.role = some atoms) : r ∈ live rows dropped := by
  have key := settled.divided.keys.mem_iff.mp (mem_map_of_mem (mem_of_lookup found))
  obtain ⟨r', alive, same⟩ := mem_map.mp key
  obtain rfl := inj_on_of_nodup_map distinct (mem_of_mem_filter alive) listed same
  exact alive

theorem Settled.keys_distinct (settled : Settled poolAtoms rows all dropped) (distinct : (rows.map (·.role)).Nodup) :
    (all.map (·.1)).Nodup := settled.divided.keys.nodup_iff.mpr (live_distinct distinct dropped)

theorem Settled.atoms (settled : Settled poolAtoms rows all dropped) (distinct : (rows.map (·.role)).Nodup)
    (listed : r ∈ rows) : (allocationOf all dropped r).atoms = (all.lookup r.role).getD 0 := by
  cases found : all.lookup r.role with
  | none =>
    rw [allocationOf, found]
    exact ite_self _
  | some atoms =>
    obtain ⟨open_row, kept⟩ := of_decide_eq_true (mem_filter.mp (settled.live_of_lookup distinct listed found)).2
    rw [allocationOf, found, open_row]
    dsimp only
    rw [if_neg kept]
    by_cases nothing : (some atoms).getD 0 = 0
    · rw [if_pos nothing, if_neg (fun same => by cases same), nothing]
    · rw [if_neg nothing, if_pos rfl]

theorem Settled.bounds (settled : Settled poolAtoms rows all dropped) (distinct : (rows.map (·.role)).Nodup)
    (listed : r ∈ rows) {atoms : Int} (found : all.lookup r.role = some atoms) :
    GRANULARITY ∣ atoms ∧ r.minimum ≤ atoms ∧ atoms ≤ r.capAtoms := by
  rcases settled.divided.held _ (mem_of_lookup found) with before | ⟨r', alive, same, grain, within⟩
  · cases before
  · obtain rfl := inj_on_of_nodup_map distinct listed (mem_of_mem_filter alive) same
    exact ⟨grain, settled.reached r listed atoms found, within⟩

theorem fair_of_settled (distinct : (entries.map (·.card.role)).Nodup) (rows_of : rows.Perm (entries.map rowOf))
    (settled : Settled poolAtoms rows all dropped) : Fair poolAtoms entries (rows.map (allocationOf all dropped))
      (poolAtoms - ((rows.map (allocationOf all dropped)).map (·.atoms)).sum) := by
  have roles : (rows.map (·.role)).Perm (entries.map (·.card.role)) := by
    have mapped := rows_of.map (·.role)
    rwa [map_map] at mapped
  have apart := roles.nodup_iff.mpr distinct
  have listed : ∀ e ∈ entries, rowOf e ∈ rows := fun e here => rows_of.mem_iff.mpr (mem_map_of_mem here)
  have of_role : ∀ e ∈ entries, ∀ a ∈ rows.map (allocationOf all dropped), a.role = e.card.role →
      a = allocationOf all dropped (rowOf e) := by
    intro e here a there same
    obtain ⟨r, inside, rfl⟩ := mem_map.mp there
    rw [inj_on_of_nodup_map apart inside (listed e here) same]
  have sum : ((rows.map (allocationOf all dropped)).map (·.atoms)).sum = (all.map (·.2)).sum := by
    rw [← sum_lookup apart (settled.keys_distinct apart) fun role held => ?_, map_map, map_map]
    · exact congrArg List.sum (map_congr_left fun r inside => settled.atoms apart inside)
    · have key := settled.divided.keys.mem_iff.mp held
      obtain ⟨r, alive, rfl⟩ := mem_map.mp key
      exact mem_map_of_mem (mem_of_mem_filter alive)
  constructor
  · rw [map_map]
    exact roles
  · intro e here a there same
    obtain rfl := of_role e here a there same
    rw [settled.atoms apart (listed e here)]
    cases found : all.lookup (rowOf e).role with
    | none => exact ⟨Int.dvd_zero _, .inl rfl, fun _ => rfl⟩
    | some atoms =>
      obtain ⟨grain, above, below⟩ := settled.bounds apart (listed e here) found
      refine ⟨grain, .inr ⟨above, below⟩, fun useless => ?_⟩
      have alive := (mem_filter.mp (settled.live_of_lookup apart (listed e here) found)).2
      have open_row : (rowOf e).zero = none := (of_decide_eq_true alive).1
      have zero : ∃ reason, zeroReason e.card = some reason := by
        unfold zeroReason
        rcases useless with abstains | blind | weak
        · exact ⟨_, if_pos abstains⟩
        · by_cases abstains : e.card.action = .abstain
          · exact ⟨_, if_pos abstains⟩
          · exact ⟨_, (if_neg abstains).trans (if_pos blind)⟩
        · split
          · exact ⟨_, rfl⟩
          · split
            · exact ⟨_, rfl⟩
            · exact ⟨_, rfl⟩
      obtain ⟨reason, zero⟩ := zero
      rw [rowOf, zero] at open_row
      cases open_row
  · omega
  · rw [sum]
    exact Int.sub_nonneg_of_le settled.divided.within
  · intro e here a there same positive below
    obtain rfl := of_role e here a there same
    rw [settled.atoms apart (listed e here)] at positive below
    cases found : all.lookup (rowOf e).role with
    | none =>
      rw [found] at positive
      exact absurd positive (Int.lt_irrefl 0)
    | some atoms =>
      rw [found] at positive below
      have tight := settled.divided.tight _ (settled.live_of_lookup apart (listed e here) found) atoms (mem_of_lookup found)
        positive below
      have fewer : (live rows dropped).length ≤ entries.length := by
        have lengths := rows_of.length_eq
        rw [length_map] at lengths
        exact lengths ▸ length_filter_le _ _
      rw [sum]
      exact Int.lt_of_lt_of_le tight (Int.mul_le_mul_of_nonneg_left (Int.ofNat_le.mpr fewer) (by decide))

/-- Both loops end, whatever the order of the entries, and what they end in is a fair division of the pool. -/
theorem allocate_fair (poolAtoms : Int) (entries : List AllocationEntry) : ∃ result,
    (∀ entries', entries'.Perm entries → ∀ fuel, entries.length < fuel →
      allocate fuel poolAtoms entries' = some result) ∧
    ∀ pool allocations allocated unallocated, result = .ok pool allocations allocated unallocated →
      pool = poolAtoms ∧ allocated = (allocations.map (·.atoms)).sum ∧ Fair poolAtoms entries allocations unallocated := by
  suffices ended : ∃ result, (∀ fuel, entries.length < fuel → allocate fuel poolAtoms entries = some result) ∧
      ∀ pool allocations allocated unallocated, result = .ok pool allocations allocated unallocated →
        pool = poolAtoms ∧ allocated = (allocations.map (·.atoms)).sum ∧
          Fair poolAtoms entries allocations unallocated by
    obtain ⟨result, runs, fair⟩ := ended
    exact ⟨result, fun entries' perm fuel enough => (allocate_perm fuel poolAtoms perm).trans (runs fuel enough), fair⟩
  unfold allocate
  by_cases negative : poolAtoms < 0 ∨ entries.any (fun e => e.hardCapAtoms < 0)
  · exact ⟨_, fun _ _ => if_pos negative, nofun⟩
  by_cases doubled : ¬ (entries.map (·.card.role)).Nodup
  · exact ⟨_, fun _ _ => (if_neg negative).trans (if_pos doubled), nofun⟩
  by_cases unscored : entries.any (fun e => badScore e.jevBps)
  · exact ⟨_, fun _ _ => (if_neg negative).trans ((if_neg doubled).trans (if_pos unscored)), nofun⟩
  by_cases apart : ¬ coherent (entries.map (·.card))
  · exact ⟨_, fun _ _ => (if_neg negative).trans ((if_neg doubled).trans ((if_neg unscored).trans (if_pos apart))), nofun⟩
  have distinct := not_not.mp doubled
  have order : (inRoleOrder entries).Perm entries := perm_insertionSort _ entries
  have rows_of := order.map rowOf
  have roles : (((inRoleOrder entries).map rowOf).map (·.role)).Nodup := by
    rw [map_map]
    exact (order.map (·.card.role)).nodup_iff.mpr distinct
  have fits : ∀ r ∈ (inRoleOrder entries).map rowOf, r.zero = none → Fit r := by
    intro r listed open_row
    obtain ⟨e, here, rfl⟩ := mem_map.mp listed
    refine rowOf_fits (Bool.eq_false_iff.mpr fun bad => unscored ?_) open_row
    exact any_eq_true.mpr ⟨e, order.mem_iff.mp here, bad⟩
  have room : 0 ≤ poolAtoms := Int.not_lt.mp fun less => negative (.inl less)
  obtain ⟨all, dropped, settled, ends⟩ := dropLoop_settles fits roles room []
  let allocations := ((inRoleOrder entries).map rowOf).map (allocationOf all dropped)
  let allocatedAtoms := (allocations.map (·.atoms)).sum
  refine ⟨.ok poolAtoms allocations allocatedAtoms (poolAtoms - allocatedAtoms), fun fuel enough => ?_, ?_⟩
  · have length : ((inRoleOrder entries).map rowOf).length = entries.length := by
      rw [length_map, order.length_eq]
    have live_length : (live ((inRoleOrder entries).map rowOf) []).length < fuel :=
      Nat.lt_of_le_of_lt (length_filter_le _ _) (by omega)
    rw [if_neg negative, if_neg doubled, if_neg unscored, if_neg apart]
    dsimp only
    rw [ends fuel fuel (by omega) live_length]
    rfl
  · rintro pool shown allocated unallocated same
    obtain ⟨rfl, rfl, rfl, rfl⟩ := AllocationResult.ok.inj same
    exact ⟨rfl, rfl, fair_of_settled distinct rows_of settled⟩

end Allocations

end Mandate.Allocation
