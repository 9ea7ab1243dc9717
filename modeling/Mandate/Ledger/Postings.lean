import Mandate.Ledger.Lineage

/-! The contract of charging: which targets a contribution must be charged to, and that the
derived legs are exactly those, each of the exact amount. -/
namespace Mandate.Ledger
open Core Lib.Scale List

def nodePath (node : NodeRecord) (c : Contribution) (domain : DomainId) :
    List (TargetKey × LedgerDimensionTerm) :=
  ((grantDimensions node.grant).filter (contributionMatches c domain)).map fun d =>
    (.node node.id d.dimensionId, d)

def policyPath [Keccak] (policyDims : List LedgerDimensionTerm) (c : Contribution) (domain : DomainId) :
    List (TargetKey × LedgerDimensionTerm) :=
  (policyDims.filter (contributionMatches c domain)).map fun d => (policyKey d, d)

/-- Every matching dimension of every node of the lineage, then of the policy. -/
def chargePath [Keccak] (lineage : List NodeRecord) (policyDims : List LedgerDimensionTerm)
    (c : Contribution) (domain : DomainId) : List (TargetKey × LedgerDimensionTerm) :=
  (lineage.flatMap fun node => nodePath node c domain) ++ policyPath policyDims c domain

/-- A leg of a contribution at one target: the exact amount, and the epoch it belongs to. -/
structure Drafted (c : Contribution) (time : Int) (target : TargetKey × LedgerDimensionTerm)
    (leg : LegDraft) : Prop where
  key : leg.key = target.1
  dimension : leg.dimension = target.2
  amount : (leg.amount : ℚ) = rescaled c.quantity.atoms c.quantity.decimals.1 target.2.limit.decimals.1
  epoch : leg.epoch = if target.2.restoration = .epoch then epochIndex target.2 time else none
  started : target.2.restoration = .epoch → leg.epoch.isSome

variable {c : Contribution} {domain : DomainId} {time : Int} {path : String}

theorem legFor_ok {key : TargetKey} {ref : TargetRef} {d : LedgerDimensionTerm}
    {node : Option AuthorityId} {leg : LegDraft} (ok : legFor key ref d c time path node = .ok leg) :
    Drafted c time (key, d) leg := by
  simp only [legFor, ite_refuseAt_ok] at ok
  obtain ⟨_, ok⟩ := ok
  cases exact : rescaleExact c.quantity.atoms c.quantity.decimals.1 d.limit.decimals.1 with
  | none => simp [exact] at ok
  | some amount =>
    simp only [exact] at ok
    obtain ⟨epoch, counted, ok⟩ := except_bind_success ok
    obtain rfl := Except.ok.inj ok
    have scaled := rescaleExact_some.mp exact
    unfold legEpoch at counted
    by_cases epochal : d.restoration = .epoch
    · cases index : epochIndex d time with
      | none => simp [epochal, index] at counted
      | some e =>
        simp only [epochal, index, if_true] at counted
        obtain rfl := Except.ok.inj counted
        exact ⟨rfl, rfl, scaled, by simp [epochal, index], fun _ => rfl⟩
    · simp only [epochal, if_false] at counted
      obtain rfl := Except.ok.inj counted
      exact ⟨rfl, rfl, scaled, by simp [epochal], fun is => absurd is epochal⟩

variable {legs : List LegDraft}

theorem legs_drafted {key : LedgerDimensionTerm → TargetKey} {ref : LedgerDimensionTerm → TargetRef}
    {node : Option AuthorityId} {dims : List LedgerDimensionTerm}
    (ok : (dims.mapM fun d => legFor (key d) (ref d) d c time path node) = .ok legs) :
    List.Forall₂ (Drafted c time) (dims.map fun d => (key d, d)) legs :=
  forall₂_map_left_iff.mpr ((except_mapM_success ok).imp fun _ _ here => legFor_ok here)

variable {lineage : List NodeRecord}

theorem nodes_drafted {granted : List (List LegDraft)}
    (ok : (lineage.mapM fun node => nodeLegs node c domain time path) = .ok granted) :
    List.Forall₂ (Drafted c time) (lineage.flatMap fun node => nodePath node c domain) granted.flatten := by
  have each := except_mapM_success ok
  clear ok
  induction each with
  | nil => exact .nil
  | cons here _ ih =>
    rw [flatMap_cons, flatten_cons]
    exact rel_append (legs_drafted here) ih

theorem contributionLegs_ok [Keccak] {policyId : PrincipalPolicyId} {policyDims : List LedgerDimensionTerm}
    (ok : contributionLegs lineage policyId policyDims c domain time path = .ok legs) :
    List.Forall₂ (Drafted c time) (chargePath lineage policyDims c domain) legs := by
  obtain ⟨granted, nodes, ok⟩ := except_bind_success ok
  simp only [ite_refuseAt_ok] at ok
  obtain ⟨_, ok⟩ := ok
  obtain ⟨global, policy, ok⟩ := except_bind_success ok
  obtain rfl := Except.ok.inj ok
  exact rel_append (nodes_drafted nodes) (legs_drafted policy)

theorem deriveLegs_ok [Keccak] {policyId : PrincipalPolicyId}
    {policyDims : List LedgerDimensionTerm} {contributions : List Contribution} {index : Nat}
    {legs : List (List LegDraft)}
    (ok : deriveLegs lineage policyId policyDims domain time path contributions index = .ok legs) :
    List.Forall₂ (fun c legs => List.Forall₂ (Drafted c time) (chargePath lineage policyDims c domain) legs)
      contributions legs := by
  induction contributions generalizing index legs with
  | nil =>
    obtain rfl := Except.ok.inj ok
    exact .nil
  | cons c rest ih =>
    obtain ⟨here, first, ok⟩ := except_bind_success ok
    obtain ⟨others, later, ok⟩ := except_bind_success ok
    obtain rfl := Except.ok.inj ok
    exact .cons (contributionLegs_ok first) (ih later)

theorem drafted_of_mem {targets : List (TargetKey × LedgerDimensionTerm)}
    (drafted : List.Forall₂ (Drafted c time) targets legs) {leg : LegDraft} (listed : leg ∈ legs) :
    ∃ target ∈ targets, Drafted c time target leg := by
  induction drafted with
  | nil => cases listed
  | @cons target _ _ _ here _ ih =>
    rcases mem_cons.mp listed with rfl | later
    · exact ⟨target, mem_cons_self, here⟩
    · obtain ⟨found, inside, there⟩ := ih later
      exact ⟨found, mem_cons_of_mem _ inside, there⟩

end Mandate.Ledger

/-! How balances move: what posting to the legs of a demand, and adding the demand of a
reservation, do to the balance at one key. -/
namespace Mandate.Ledger
open Core Lib.Scale List

def atScale (d : DemandRecord) (leg : LegRecord) (amount : Int) : ℚ :=
  rescaled amount d.contribution.quantity.decimals.1 leg.decimals.1

section Sums
variable {M : Type} [AddCommMonoid M] {key : TargetKey}

def legSum (key : TargetKey) (amount : LegRecord → M) (legs : List LegRecord) : M :=
  (legs.map fun leg => if leg.key = key then amount leg else 0).sum

@[simp] theorem legSum_nil (amount : LegRecord → M) : legSum key amount [] = 0 := rfl

theorem legSum_cons (amount : LegRecord → M) (leg : LegRecord) (legs : List LegRecord) :
    legSum key amount (leg :: legs) = (if leg.key = key then amount leg else 0) + legSum key amount legs :=
  sum_cons

theorem legSum_add (first second : LegRecord → M) (legs : List LegRecord) :
    legSum key (fun leg => first leg + second leg) legs = legSum key first legs + legSum key second legs := by
  rw [legSum, legSum, legSum, ← sum_map_add]
  refine congrArg List.sum (map_congr_left fun leg _ => ?_)
  split <;> simp

theorem legSum_congr {first second : LegRecord → M} {legs : List LegRecord}
    (agree : ∀ leg ∈ legs, leg.key = key → first leg = second leg) :
    legSum key first legs = legSum key second legs := by
  refine congrArg List.sum (map_congr_left fun leg listed => ?_)
  split
  · exact agree leg listed ‹_›
  · rfl

end Sums

section Legs
variable {d : DemandRecord} {amount : Int} {path : String} {only : Bool → Bool}
  {update : TargetBalance → Int → Option Int → Option TargetBalance} {targets moved : Targets}

theorem forEachLeg_cons_ok {leg : LegRecord} {rest : List LegRecord}
    (ok : forEachLeg d amount path only update (leg :: rest) targets = .ok moved) :
    only leg.capacity = false ∧ forEachLeg d amount path only update rest targets = .ok moved ∨
    only leg.capacity = true ∧ ∃ (x : Int) (b next : TargetBalance), (x : ℚ) = atScale d leg amount ∧
      targets.lookup leg.key = some b ∧ update b x leg.epoch = some next ∧
      forEachLeg d amount path only update rest (targets.insert leg.key next) = .ok moved := by
  cases applies : only leg.capacity with
  | false =>
    simp only [forEachLeg, applies, Bool.false_eq_true, if_false] at ok
    exact .inl ⟨rfl, ok⟩
  | true =>
    simp only [forEachLeg, applies, if_true] at ok
    cases exact : rescaleExact amount d.contribution.quantity.decimals.1 leg.decimals.1 with
    | none => simp [exact] at ok
    | some x =>
      simp only [exact] at ok
      obtain ⟨b, present, ok⟩ := except_bind_success ok
      cases updated : update b x leg.epoch with
      | none => simp [updated] at ok
      | some next =>
        simp only [updated] at ok
        exact .inr ⟨rfl, x, b, next, rescaleExact_some.mp exact, orThrow_ok.mp present, updated, ok⟩

theorem forEachLeg_fold {M : Type} [AddCommMonoid M] (key : TargetKey)
    (holds : Option TargetBalance → M → Prop) (shift : LegRecord → M) {legs : List LegRecord}
    (step : ∀ leg ∈ legs, leg.key = key → only leg.capacity = true → ∀ {x : Int} {b next : TargetBalance}
      {posted : M}, (x : ℚ) = atScale d leg amount → update b x leg.epoch = some next →
      holds (some b) posted → holds (some next) (posted + shift leg)) {targets moved : Targets} (posted : M)
    (ok : forEachLeg d amount path only update legs targets = .ok moved)
    (before : holds (targets.lookup key) posted) : holds (moved.lookup key)
      (posted + legSum key (fun leg => if only leg.capacity = true then shift leg else 0) legs) := by
  induction legs generalizing targets posted with
  | nil =>
    obtain rfl := Except.ok.inj ok
    simpa using before
  | cons leg rest ih =>
    have later := @ih fun leg listed => step leg (mem_cons_of_mem _ listed)
    rw [legSum_cons]
    rcases forEachLeg_cons_ok ok with ⟨skipped, ok⟩ | ⟨applies, x, b, next, exact, present, updated, ok⟩
    · simpa [skipped] using later posted ok before
    · by_cases here : leg.key = key
      · subst here
        rw [present] at before
        have stepped := step leg mem_cons_self rfl applies exact updated before
        simpa [applies, ← add_assoc] using later _ ok (by simpa using stepped)
      · have untouched : (targets.insert leg.key next).lookup key = targets.lookup key :=
          AList.lookup_insert_ne (Ne.symm here)
        simpa [here] using later posted ok (by rwa [untouched])

theorem forEachLeg_exact {legs : List LegRecord}
    (ok : forEachLeg d amount path only update legs targets = .ok moved) :
    ∀ leg ∈ legs, only leg.capacity = true → ∃ x : Int, (x : ℚ) = atScale d leg amount := by
  induction legs generalizing targets with
  | nil => simp
  | cons leg rest ih =>
    rcases forEachLeg_cons_ok ok with ⟨skipped, ok⟩ | ⟨_, x, _, _, exact, _, _, ok⟩
    · exact forall_mem_cons.mpr ⟨fun applies => by simp [skipped] at applies, ih ok⟩
    · exact forall_mem_cons.mpr ⟨fun _ => ⟨x, exact⟩, ih ok⟩

end Legs

namespace Posting
variable {p : Posting} {index : Nat} {targets : Targets} {moved : Targets × List DemandRecord}

theorem demands_cons_ok {pair : DemandRecord × Int} {rest : List (DemandRecord × Int)}
    (ok : p.demands (pair :: rest) index targets = .ok moved) :
    ∃ path between others, p.check pair.1 pair.2 path = .ok () ∧
      forEachLeg pair.1 pair.2 path p.only p.update pair.1.legs targets = .ok between ∧
      p.demands rest (index + 1) between = .ok others ∧
      moved = (others.1, p.record pair.1 pair.2 :: others.2) := by
  obtain ⟨between, first, ok⟩ := except_bind_success ok
  obtain ⟨others, later, ok⟩ := except_bind_success ok
  obtain ⟨_, checked, first⟩ := except_bind_success first
  exact ⟨_, between, others, checked, first, later, (Except.ok.inj ok).symm⟩

theorem demands_ok {pairs : List (DemandRecord × Int)} (ok : p.demands pairs index targets = .ok moved) :
    moved.2 = pairs.map (fun pair => p.record pair.1 pair.2) ∧
      ∀ pair ∈ pairs, (∃ path, p.check pair.1 pair.2 path = .ok ()) ∧
        ∀ leg ∈ pair.1.legs, p.only leg.capacity = true → ∃ x : Int, (x : ℚ) = atScale pair.1 leg pair.2 := by
  induction pairs generalizing index targets moved with
  | nil =>
    obtain rfl := Except.ok.inj ok
    exact ⟨rfl, by simp⟩
  | cons pair rest ih =>
    obtain ⟨path, between, others, checked, first, later, rfl⟩ := demands_cons_ok ok
    obtain ⟨recorded, each⟩ := ih later
    exact ⟨congrArg (_ :: ·) recorded,
      forall_mem_cons.mpr ⟨⟨⟨path, checked⟩, forEachLeg_exact first⟩, each⟩⟩

theorem demands_fold {M : Type} [AddCommMonoid M] (key : TargetKey)
    (holds : Option TargetBalance → M → Prop) (shift : DemandRecord × Int → LegRecord → M)
    {pairs : List (DemandRecord × Int)}
    (step : ∀ pair ∈ pairs, ∀ leg ∈ pair.1.legs, leg.key = key → p.only leg.capacity = true →
      ∀ {x : Int} {b next : TargetBalance} {posted : M}, (x : ℚ) = atScale pair.1 leg pair.2 →
      p.update b x leg.epoch = some next → holds (some b) posted → holds (some next) (posted + shift pair leg)) (posted : M)
    (ok : p.demands pairs index targets = .ok moved) (before : holds (targets.lookup key) posted) :
    holds (moved.1.lookup key) (posted + (pairs.map fun pair =>
      legSum key (fun leg => if p.only leg.capacity = true then shift pair leg else 0) pair.1.legs).sum) := by
  induction pairs generalizing index targets moved posted with
  | nil =>
    obtain rfl := Except.ok.inj ok
    simpa using before
  | cons pair rest ih =>
    obtain ⟨path, between, others, _, first, later, rfl⟩ := demands_cons_ok ok
    rw [map_cons, sum_cons, ← add_assoc]
    have here := forEachLeg_fold key holds (shift pair) (step pair mem_cons_self) posted first before
    have onward := ih (fun pair listed => step pair (mem_cons_of_mem _ listed)) _ later here
    exact onward

end Posting

section Reserve
variable {s : LedgerState} {time : Int} {path : String} {key : TargetKey}

theorem addDemand_lookup {demand : List (TargetKey × Int)} {targets added : Targets}
    (ok : addDemand demand targets = .ok added) : added.lookup key = (targets.lookup key).map fun b =>
      { b with reserved := b.reserved + ((demand.filter fun entry => entry.1 == key).map (·.2)).sum } := by
  induction demand generalizing targets with
  | nil =>
    obtain rfl := Except.ok.inj ok
    simp
  | cons entry rest ih =>
    obtain ⟨b, present, ok⟩ := except_bind_success ok
    rw [ih ok]
    by_cases here : entry.1 = key
    · subst here
      simp [orThrow_ok.mp present, add_assoc]
    · have untouched : (targets.insert entry.1 { b with reserved := b.reserved + entry.2 }).lookup key =
          targets.lookup key := AList.lookup_insert_ne (Ne.symm here)
      simp [untouched, here]

theorem firstLegs_sum (amount : TargetKey → Int) (legs : List LegDraft) (seen : List TargetKey) :
    ((((firstLegs legs seen).map fun leg => (leg.key, amount leg.key)).filter fun entry =>
      entry.1 == key).map (·.2)).sum = if key ∈ legs.map (·.key) ∧ key ∉ seen then amount key else 0 := by
  induction legs generalizing seen with
  | nil => simp [firstLegs]
  | cons leg rest ih =>
    by_cases met : leg.key ∈ seen
    · rw [firstLegs, if_pos met, ih]
      refine if_congr (and_congr_left fun unseen => ?_) rfl rfl
      have other : key ≠ leg.key := fun same => unseen (same ▸ met)
      simp [other]
    · rw [firstLegs, if_neg met]
      by_cases here : leg.key = key
      · subst here
        simp [ih, met]
      · have other : key ≠ leg.key := Ne.symm here
        simp [ih, here, other]

theorem mem_firstLegs {legs : List LegDraft} {seen : List TargetKey} {leg : LegDraft}
    (listed : leg ∈ legs) (unseen : leg.key ∉ seen) : ∃ first ∈ firstLegs legs seen, first.key = leg.key := by
  induction legs generalizing seen with
  | nil => cases listed
  | cons head rest ih =>
    by_cases met : head.key ∈ seen
    · rw [firstLegs, if_pos met]
      rcases mem_cons.mp listed with rfl | later
      · exact absurd met unseen
      · exact ih later unseen
    · rw [firstLegs, if_neg met]
      by_cases same : head.key = leg.key
      · exact ⟨head, mem_cons_self, same⟩
      · rcases mem_cons.mp listed with rfl | later
        · exact absurd rfl same
        · obtain ⟨first, inside, here⟩ := @ih (head.key :: seen) later (by simp [unseen, Ne.symm same])
          exact ⟨first, mem_cons_of_mem _ inside, here⟩

def Fits (s : LedgerState) (all : List LegDraft) (time : Int) (key : TargetKey) : Prop :=
  ∃ b, s.targets.lookup key = some b ∧ demandAt all key ≤ availableOf b time

theorem limitFailures_ok {all legs : List LegDraft}
    (ok : limitFailures s all time path legs = .ok []) : ∀ leg ∈ legs, Fits s all time leg.key := by
  induction legs with
  | nil => simp
  | cons leg rest ih =>
    obtain ⟨b, present, ok⟩ := except_bind_success ok
    simp only [ite_refuseAt_ok] at ok
    obtain ⟨_, ok⟩ := ok
    obtain ⟨others, later, ok⟩ := except_bind_success ok
    by_cases short : availableOf b time < demandAt all leg.key
    · simp [short] at ok
    · simp only [short, if_false] at ok
      obtain rfl := Except.ok.inj ok
      exact forall_mem_cons.mpr ⟨⟨b, orThrow_ok.mp present, not_lt.mp short⟩, ih later⟩

theorem checkAvailability_ok {legs : List (List LegDraft)} {demand : List (TargetKey × Int)}
    (ok : checkAvailability s legs time path = .ok demand) :
    (∀ leg ∈ legs.flatten, Fits s legs.flatten time leg.key) ∧
      ∀ key, ((demand.filter fun entry => entry.1 == key).map (·.2)).sum = demandAt legs.flatten key := by
  obtain ⟨failures, none, ok⟩ := except_bind_success ok
  by_cases fits : failures = []
  · subst fits
    simp only [ne_eq, not_true_eq_false, if_false] at ok
    obtain rfl := Except.ok.inj ok
    refine ⟨fun leg listed => ?_, fun key => ?_⟩
    · obtain ⟨first, inside, same⟩ := mem_firstLegs listed (not_mem_nil (a := leg.key))
      exact same ▸ limitFailures_ok none first inside
    · rw [firstLegs_sum (demandAt legs.flatten)]
      by_cases charged : key ∈ legs.flatten.map (·.key)
      · rw [if_pos ⟨charged, not_mem_nil⟩]
      · have uncharged : legs.flatten.filter (fun leg => leg.key == key) = [] :=
          filter_eq_nil_iff.mpr fun leg listed same =>
            charged (mem_map.mpr ⟨leg, listed, beq_iff_eq.mp same⟩)
        simp [demandAt, uncharged]
  · simp [fits] at ok

end Reserve

end Mandate.Ledger
