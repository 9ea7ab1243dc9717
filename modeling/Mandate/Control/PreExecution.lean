import Mandate.Control.Authorization
import Mandate.Lib.Keyed

/-! What must hold right before an artifact may exist: a closed vocabulary of requirements, each
with exactly one result, and every result a pass. -/
namespace Mandate.Control
open Core Ledger Lib.Wire Lib.Keyed List

inductive PreExecutionKind
  | stateRevalidation | moduleTrust | adapterTrust | credentialScope | nonceSlot
  | runtimeProvenance | runtimeCertification | harnessAttestation
deriving DecidableEq

namespace PreExecutionKind

def text : PreExecutionKind → String
  | stateRevalidation => "STATE_REVALIDATION"
  | moduleTrust => "MODULE_TRUST"
  | adapterTrust => "ADAPTER_TRUST"
  | credentialScope => "CREDENTIAL_SCOPE"
  | nonceSlot => "NONCE_SLOT"
  | runtimeProvenance => "RUNTIME_PROVENANCE"
  | runtimeCertification => "RUNTIME_CERTIFICATION"
  | harnessAttestation => "HARNESS_ATTESTATION"

def index : PreExecutionKind → Nat
  | stateRevalidation => 0 | moduleTrust => 1 | adapterTrust => 2 | credentialScope => 3
  | nonceSlot => 4 | runtimeProvenance => 5 | runtimeCertification => 6 | harnessAttestation => 7

end PreExecutionKind

def CONTROL_EVALUATED : List PreExecutionKind := [.stateRevalidation, .moduleTrust, .adapterTrust]

def RESERVED_KINDS : List PreExecutionKind := [.runtimeProvenance, .runtimeCertification, .harnessAttestation]

inductive PreExecutionOutcome | pass | fail | unknown
deriving DecidableEq

def outcomeText : PreExecutionOutcome → String
  | .pass => "PASS" | .fail => "FAIL" | .unknown => "UNKNOWN"

structure PreExecutionRequirement where
  kind : PreExecutionKind
  subject : String
deriving DecidableEq

structure PreExecutionResult where
  kind : PreExecutionKind
  subject : String
  outcome : PreExecutionOutcome
  reason : String
  evidence : Digest32
deriving DecidableEq

def PreExecutionResult.requirement (r : PreExecutionResult) : PreExecutionRequirement := ⟨r.kind, r.subject⟩

def writePreExecution (r : PreExecutionResult) : Writer :=
  writeStr r.kind.text ++ (writeStr r.subject ++ (writeStr (outcomeText r.outcome) ++
    (writeStr r.reason ++ writeDigest r.evidence)))

def preExecutionLE (a b : PreExecutionResult) : Prop :=
  a.kind.index < b.kind.index ∨ (a.kind = b.kind ∧ a.subject ≤ b.subject)

instance : DecidableRel preExecutionLE := fun _ _ => inferInstanceAs (Decidable (_ ∨ (_ ∧ _)))

def orderedResults (results : List PreExecutionResult) : List PreExecutionResult :=
  results.insertionSort preExecutionLE

def preExecutionDigest [Keccak] (results : List PreExecutionResult) : Option Digest32 :=
  controlDigest (controlWriter ControlTag.PRE_EXECUTION ++ writeList writePreExecution (orderedResults results))

def evidenceDigest [Keccak] (kind : PreExecutionKind) (subject : String) (digests : List Digest32) :
    Option Digest32 :=
  controlDigest (controlWriter ControlTag.PRE_EXECUTION_EVIDENCE ++ (writeStr kind.text ++
    (writeStr subject ++ writeList writeDigest digests)))

def isIdentifier (raw : String) : Bool := identifierText raw

def checkSubject (subject path : String) : ControlResult Unit :=
  if isIdentifier subject then .ok ()
  else refuse .requestInvalid "PRE_EXECUTION_SUBJECT_INVALID" (path ++ ".subject")

def checkResultShape (r : PreExecutionResult) (path : String) : ControlResult Unit := do
  checkSubject r.subject path
  if !isIdentifier r.reason then refuse .requestInvalid "PRE_EXECUTION_REASON_INVALID" (path ++ ".reason")
  else if r.evidence = 0 then
    refuse .requestInvalid "PRE_EXECUTION_EVIDENCE_INVALID" (path ++ ".evidence")
  else .ok ()

/-- The engine's own verdicts cannot be supplied, and a reserved kind has no evaluator. -/
def checkSupplied : List PreExecutionResult → Nat → (known : List PreExecutionResult) →
    ControlResult (List PreExecutionResult)
  | [], _, known => .ok known
  | r :: rest, index, known => do
    let path := atIndex "request.results" index
    checkResultShape r path
    if r.kind ∈ CONTROL_EVALUATED then
      refuse .requestInvalid "PRE_EXECUTION_CONTROL_RESULT_SUPPLIED" (path ++ ".kind")
    else if r.kind ∈ RESERVED_KINDS then refuse .requestInvalid "PRE_EXECUTION_NO_EVALUATOR" (path ++ ".kind")
    else if known.any fun k => k.requirement == r.requirement then
      refuse .requestInvalid "PRE_EXECUTION_RESULT_DUPLICATED" path
    else checkSupplied rest (index + 1) (known ++ [r])

def checkRequired (known : List PreExecutionResult) : List PreExecutionRequirement → Nat →
    (seen : List PreExecutionRequirement) → ControlResult (List PreExecutionResult)
  | [], _, _ => .ok []
  | q :: rest, index, seen => do
    let path := atIndex "request.requirements" index
    checkSubject q.subject path
    if q ∈ seen then refuse .requestInvalid "PRE_EXECUTION_REQUIREMENT_DUPLICATED" path
    else match known.find? fun r => r.requirement == q with
      | none => refuse .preExecutionFailed (q.kind.text ++ ".UNKNOWN." ++
          if q.kind ∈ RESERVED_KINDS then "NO_EVALUATOR" else "RESULT_MISSING") path
      | some r =>
        if r.outcome ≠ .pass then
          refuse .preExecutionFailed (q.kind.text ++ "." ++ outcomeText r.outcome ++ "." ++ r.reason) path
        else do
          let results ← checkRequired known rest (index + 1) (q :: seen)
          .ok (r :: results)

/-- Every requirement has exactly one pass, and no result is left over. Of the engine's own results for
one requirement the last stands, and before any supplied one. -/
def checkPreExecution (required : List PreExecutionRequirement) (control supplied : List PreExecutionResult) :
    ControlResult (List PreExecutionResult) := do
  let known ← checkSupplied supplied 0 []
  let results ← checkRequired (control.reverse ++ known) required 0 []
  if (control.reverse ++ known).all fun r => r.requirement ∈ required then .ok (orderedResults results)
  else refuse .requestInvalid "PRE_EXECUTION_RESULT_UNREQUIRED" "request.results"

section Accepting
variable {required required' seen : List PreExecutionRequirement} {control control' supplied supplied' known results :
  List PreExecutionResult} {r : PreExecutionResult} {q : PreExecutionRequirement}

structure Suppliable (r : PreExecutionResult) : Prop where
  subject : isIdentifier r.subject = true
  reason : isIdentifier r.reason = true
  evidence : r.evidence ≠ 0
  caller : r.kind ∉ CONTROL_EVALUATED
  evaluated : r.kind ∉ RESERVED_KINDS

def standing (control supplied : List PreExecutionResult) (q : PreExecutionRequirement) : Option PreExecutionResult :=
  (control.reverse ++ supplied).find? fun r => r.requirement == q

variable {path : String} {p : Prop} {code : ControlCode} {reason : String}

theorem unless_refused {α : Type} [Decidable p] {next : ControlResult α} {result : α} :
    (if p then refuse code reason path else next) = .ok result ↔ ¬p ∧ next = .ok result := refuse_ok

theorem otherwise_refused {α : Type} [Decidable p] {next : ControlResult α} {result : α} :
    (if p then next else refuse code reason path) = .ok result ↔ p ∧ next = .ok result := by
  by_cases holds : p
  · simp [holds]
  · simp [holds, refuse, refuseWith]

variable {u : Unit}

theorem checkSubject_ok {subject : String} :
    checkSubject subject path = .ok u ↔ isIdentifier subject = true := by
  rw [checkSubject, otherwise_refused]
  simp

theorem checkResultShape_ok : checkResultShape r path = .ok u ↔
    isIdentifier r.subject = true ∧ isIdentifier r.reason = true ∧ r.evidence ≠ 0 := by
  rw [checkResultShape, except_bind_ok]
  simp only [checkSubject_ok, unless_refused, Bool.not_eq_true', Bool.not_eq_false]
  simp

variable {index : Nat}

theorem checkSupplied_ok : checkSupplied supplied index known = .ok results ↔
    results = known ++ supplied ∧ (∀ r ∈ supplied, Suppliable r ∧ ∀ k ∈ known, k.requirement ≠ r.requirement) ∧
      (supplied.map (·.requirement)).Nodup := by
  induction supplied generalizing index known with
  | nil => simp [checkSupplied, eq_comm]
  | cons r rest ih =>
    rw [checkSupplied, except_bind_ok]
    simp only [checkResultShape_ok, unless_refused, ih, any_eq_true, beq_iff_eq, not_exists, not_and]
    constructor
    · rintro ⟨_, ⟨subject, reason, evidence⟩, caller, evaluated, fresh, rfl, others, distinct⟩
      refine ⟨by simp, ?_, ?_⟩
      · intro other listed
        rcases mem_cons.mp listed with rfl | listed
        · exact ⟨⟨subject, reason, evidence, caller, evaluated⟩, fresh⟩
        · obtain ⟨suppliable, apart⟩ := others other listed
          exact ⟨suppliable, fun k known => apart k (mem_append_left _ known)⟩
      · rw [map_cons, nodup_cons]
        refine ⟨fun twice => ?_, distinct⟩
        obtain ⟨other, listed, same⟩ := mem_map.mp twice
        exact (others other listed).2 r (mem_append_right _ (mem_singleton.mpr rfl)) same.symm
    · rintro ⟨rfl, each, distinct⟩
      rw [map_cons, nodup_cons] at distinct
      obtain ⟨⟨subject, reason, evidence, caller, evaluated⟩, fresh⟩ := each r mem_cons_self
      refine ⟨(), ⟨subject, reason, evidence⟩, caller, evaluated, fresh, by simp, ?_, distinct.2⟩
      intro other listed
      obtain ⟨suppliable, apart⟩ := each other (mem_cons_of_mem _ listed)
      refine ⟨suppliable, fun k known => ?_⟩
      rcases mem_append.mp known with known | last
      · exact apart k known
      · rw [mem_singleton.mp last]
        exact fun same => distinct.1 (mem_map.mpr ⟨other, listed, same.symm⟩)

theorem checkRequired_ok : checkRequired known required index seen = .ok results ↔
    (∀ q ∈ required, isIdentifier q.subject = true ∧ q ∉ seen) ∧ required.Nodup ∧
      List.Forall₂ (fun q r => known.find? (fun k => k.requirement == q) = some r ∧ r.outcome = .pass) required results := by
  induction required generalizing index seen results with
  | nil =>
    constructor
    · intro ok
      obtain rfl := Except.ok.inj ok
      exact ⟨by simp, .nil, .nil⟩
    · rintro ⟨_, _, each⟩
      cases each
      rfl
  | cons q rest ih =>
    rw [checkRequired, except_bind_ok]
    simp only [checkSubject_ok, unless_refused]
    constructor
    · rintro ⟨_, subject, fresh, ok⟩
      cases found : known.find? fun k => k.requirement == q with
      | none => simp [found, refuse, refuseWith] at ok
      | some r =>
        rw [found] at ok
        simp only [unless_refused, not_not] at ok
        obtain ⟨pass, ok⟩ := ok
        obtain ⟨others, rest_ok, ok⟩ := except_bind_success ok
        obtain rfl := Except.ok.inj ok
        obtain ⟨subjects, distinct, each⟩ := ih.mp rest_ok
        refine ⟨?_, ?_, .cons ⟨found, pass⟩ each⟩
        · intro other listed
          rcases mem_cons.mp listed with rfl | listed
          · exact ⟨subject, fresh⟩
          · obtain ⟨shaped, apart⟩ := subjects other listed
            exact ⟨shaped, fun before => apart (mem_cons_of_mem _ before)⟩
        · exact nodup_cons.mpr ⟨fun twice => (subjects q twice).2 mem_cons_self, distinct⟩
    · rintro ⟨subjects, distinct, each⟩
      cases each with
      | @cons _ r _ others first each =>
        obtain ⟨found, pass⟩ := first
        obtain ⟨subject, fresh⟩ := subjects q mem_cons_self
        refine ⟨(), subject, fresh, ?_⟩
        have rest_ok := (@ih (q :: seen) others (index + 1)).mpr ⟨fun other listed => ?_, distinct.of_cons, each⟩
        · rw [found]
          dsimp only
          rw [if_neg (not_not.mpr pass), rest_ok]
          rfl
        · obtain ⟨shaped, apart⟩ := subjects other (mem_cons_of_mem _ listed)
          refine ⟨shaped, fun before => ?_⟩
          rcases mem_cons.mp before with rfl | before
          · exact (nodup_cons.mp distinct).1 listed
          · exact apart before

/-- Results and requirements correspond, kind by kind and subject by subject. -/
structure Corresponds (required : List PreExecutionRequirement) (control supplied : List PreExecutionResult) : Prop where
  subjects : ∀ q ∈ required, isIdentifier q.subject = true
  distinct : required.Nodup
  suppliable : ∀ r ∈ supplied, Suppliable r
  once : (supplied.map (·.requirement)).Nodup
  asked : ∀ r ∈ control ++ supplied, r.requirement ∈ required
  passing : ∀ q ∈ required, ∃ r, standing control supplied q = some r ∧ r.outcome = .pass

theorem forall₂_filterMap {α β : Type} {f : α → Option β} {p : β → Prop} {items : List α} {found : List β} :
    List.Forall₂ (fun a b => f a = some b ∧ p b) items found ↔
      (∀ a ∈ items, ∃ b, f a = some b ∧ p b) ∧ found = items.filterMap f := by
  induction items generalizing found with
  | nil => simp
  | cons a rest ih =>
    rw [forall₂_cons_left_iff, forall_mem_cons]
    constructor
    · rintro ⟨b, others, ⟨here, holds⟩, each, rfl⟩
      obtain ⟨all, rfl⟩ := ih.mp each
      exact ⟨⟨⟨b, here, holds⟩, all⟩, (filterMap_cons_some here).symm⟩
    · rintro ⟨⟨⟨b, here, holds⟩, all⟩, rfl⟩
      exact ⟨b, _, ⟨here, holds⟩, ih.mpr ⟨all, rfl⟩, filterMap_cons_some here⟩

theorem checkPreExecution_ok : checkPreExecution required control supplied = .ok results ↔
    Corresponds required control supplied ∧ results = orderedResults (required.filterMap (standing control supplied)) := by
  rw [checkPreExecution, except_bind_ok]
  simp only [except_bind_ok, checkSupplied_ok, nil_append, otherwise_refused, all_eq_true, decide_eq_true_eq,
    checkRequired_ok, not_mem_nil, not_false_eq_true, and_true]
  constructor
  · rintro ⟨_, ⟨rfl, suppliable, once⟩, found, ⟨subjects, distinct, each⟩, listed, ok⟩
    obtain ⟨passing, rfl⟩ := forall₂_filterMap.mp each
    refine ⟨⟨subjects, distinct, fun r here => (suppliable r here).1, once, ?_, passing⟩, (Except.ok.inj ok).symm⟩
    intro r here
    exact listed r (by simpa using here)
  · rintro ⟨matching, rfl⟩
    refine ⟨_, ⟨rfl, fun r here => ⟨matching.suppliable r here, by simp⟩, matching.once⟩, _,
      ⟨matching.subjects, matching.distinct, forall₂_filterMap.mpr ⟨matching.passing, rfl⟩⟩, ?_, rfl⟩
    intro r here
    exact matching.asked r (by simpa using here)

theorem PreExecutionKind.index_inj {k k' : PreExecutionKind} (same : k.index = k'.index) : k = k' := by
  cases k <;> cases k' <;> first | rfl | cases same

instance : Std.Total preExecutionLE where
  total a b := by
    rcases Nat.lt_trichotomy a.kind.index b.kind.index with below | same | above
    · exact .inl (.inl below)
    · have kind := PreExecutionKind.index_inj same
      rcases String.le_total a.subject b.subject with le | ge
      · exact .inl (.inr ⟨kind, le⟩)
      · exact .inr (.inr ⟨kind.symm, ge⟩)
    · exact .inr (.inl above)

instance : IsTrans PreExecutionResult preExecutionLE where
  trans a b c first second := by
    rcases first with below | ⟨kind, le⟩
    · rcases second with below' | ⟨kind', _⟩
      · exact .inl (below.trans below')
      · exact .inl (by rw [← kind']; exact below)
    · rcases second with below' | ⟨kind', le'⟩
      · exact .inl (by rw [kind]; exact below')
      · exact .inr ⟨kind.trans kind', String.le_trans le le'⟩

theorem orderedResults_perm {results' : List PreExecutionResult} (perm : results.Perm results')
    (distinct : (results.map (·.requirement)).Nodup) : orderedResults results = orderedResults results' := by
  refine insertionSort_perm perm fun a here b there below above => ?_
  refine apart_of_nodup distinct a here b there ?_
  rcases below with below | ⟨kind, le⟩
  · rcases above with above | ⟨kind, _⟩
    · exact absurd above (Nat.lt_asymm below)
    · exact absurd below (by rw [kind]; exact Nat.lt_irrefl _)
  · rcases above with above | ⟨_, ge⟩
    · exact absurd above (by rw [kind]; exact Nat.lt_irrefl _)
    · rw [PreExecutionResult.requirement, PreExecutionResult.requirement, kind, String.le_antisymm le ge]

theorem standing_perm (control_perm : control'.Perm control) (own : control' = control ∨ (control.map (·.requirement)).Nodup)
    (supplied_perm : supplied'.Perm supplied) (once : (supplied.map (·.requirement)).Nodup) :
    standing control' supplied' = standing control supplied := by
  funext q
  rw [standing, standing, find?_append, find?_append]
  congr 1
  · rcases own with rfl | distinct
    · rfl
    · refine (find?_apart (apart_of_nodup ?_) (fun r => ?_) q).symm
      · rw [map_reverse]
        exact nodup_reverse.mpr distinct
      · rw [mem_reverse, mem_reverse, control_perm.mem_iff]
  · rw [find?_apart (apart_of_nodup once) (fun r => supplied_perm.mem_iff.symm) q]

theorem standing_some (stands : standing control supplied q = some r) : r ∈ control ++ supplied ∧ r.requirement = q := by
  refine ⟨?_, by simpa using find?_some stands⟩
  have listed := mem_of_find?_eq_some stands
  rw [mem_append, mem_reverse] at listed
  exact mem_append.mpr listed

theorem corresponds_iff_perm (own : ((control ++ supplied).map (·.requirement)).Nodup) :
    Corresponds required control supplied ↔ (∀ q ∈ required, isIdentifier q.subject = true) ∧
      (∀ r ∈ supplied, Suppliable r) ∧ required.Perm ((control ++ supplied).map (·.requirement)) ∧
      ∀ r ∈ control ++ supplied, r.outcome = .pass := by
  constructor
  · intro matching
    refine ⟨matching.subjects, matching.suppliable, ?_, fun r here => ?_⟩
    · refine (perm_ext_iff_of_nodup matching.distinct own).mpr fun q => ⟨fun here => ?_, fun here => ?_⟩
      · obtain ⟨r, stands, _⟩ := matching.passing q here
        obtain ⟨listed, rfl⟩ := standing_some stands
        exact mem_map_of_mem listed
      · obtain ⟨r, listed, rfl⟩ := mem_map.mp here
        exact matching.asked r listed
    · obtain ⟨other, stands, pass⟩ := matching.passing _ (matching.asked r here)
      obtain ⟨listed, same⟩ := standing_some stands
      rwa [← apart_of_nodup own other listed r here same]
  · rintro ⟨subjects, suppliable, perm, pass⟩
    have both := own
    rw [map_append] at both
    refine ⟨subjects, perm.nodup_iff.mpr own, suppliable, both.of_append_right, fun r here => ?_, fun q here => ?_⟩
    · exact perm.mem_iff.mpr (mem_map_of_mem here)
    · obtain ⟨r, listed, rfl⟩ := mem_map.mp (perm.mem_iff.mp here)
      cases stands : standing control supplied r.requirement with
      | none =>
        rw [standing, find?_eq_none] at stands
        exact absurd (beq_self_eq_true r.requirement) (stands r (by simpa using listed))
      | some other => exact ⟨other, rfl, pass other (standing_some stands).1⟩

theorem standing_keys (passing : ∀ q ∈ required, ∃ r, standing control supplied q = some r ∧ r.outcome = .pass) :
    (required.filterMap (standing control supplied)).map (·.requirement) = required := by
  induction required with
  | nil => rfl
  | cons q rest ih =>
    obtain ⟨r, stands, _⟩ := passing q mem_cons_self
    rw [filterMap_cons_some stands, map_cons, (standing_some stands).2,
      ih fun other listed => passing other (mem_cons_of_mem _ listed)]

theorem Corresponds.perm (matching : Corresponds required control supplied) (required_perm : required'.Perm required)
    (control_perm : control'.Perm control) (own : control' = control ∨ (control.map (·.requirement)).Nodup)
    (supplied_perm : supplied'.Perm supplied) : Corresponds required' control' supplied' where
  subjects q here := matching.subjects q (required_perm.mem_iff.mp here)
  distinct := required_perm.nodup_iff.mpr matching.distinct
  suppliable r here := matching.suppliable r (supplied_perm.mem_iff.mp here)
  once := (supplied_perm.map _).nodup_iff.mpr matching.once
  asked r here := required_perm.mem_iff.mpr
    (matching.asked r ((control_perm.append supplied_perm).mem_iff.mp here))
  passing q here := by
    rw [standing_perm control_perm own supplied_perm matching.once]
    exact matching.passing q (required_perm.mem_iff.mp here)

theorem accepted_perm (ok : checkPreExecution required control supplied = .ok results)
    (required_perm : required'.Perm required) (control_perm : control'.Perm control)
    (own : control' = control ∨ (control.map (·.requirement)).Nodup) (supplied_perm : supplied'.Perm supplied) :
    checkPreExecution required' control' supplied' = .ok results := by
  obtain ⟨matching, rfl⟩ := checkPreExecution_ok.mp ok
  refine checkPreExecution_ok.mpr ⟨matching.perm required_perm control_perm own supplied_perm, ?_⟩
  rw [standing_perm control_perm own supplied_perm matching.once]
  refine orderedResults_perm (required_perm.filterMap _).symm ?_
  rw [standing_keys matching.passing]
  exact matching.distinct

theorem accepted_digest [Keccak] (ok : checkPreExecution required control supplied = .ok results)
    {shuffled : List PreExecutionResult} (perm : shuffled.Perm results) :
    preExecutionDigest shuffled = preExecutionDigest results := by
  obtain ⟨matching, rfl⟩ := checkPreExecution_ok.mp ok
  have keys : ((orderedResults (required.filterMap (standing control supplied))).map (·.requirement)).Nodup := by
    refine (((perm_insertionSort preExecutionLE _).map _).nodup_iff).mpr ?_
    rw [standing_keys matching.passing]
    exact matching.distinct
  rw [preExecutionDigest, preExecutionDigest, orderedResults_perm perm.symm keys]

/-- What is accepted, over any lists, and that nothing depends on their order but which of several
control results for one requirement stands. -/
theorem checkPreExecution_bijective [Keccak] (required : List PreExecutionRequirement)
    (control supplied : List PreExecutionResult) :
    ((∃ results, checkPreExecution required control supplied = .ok results) ↔ Corresponds required control supplied) ∧
    (((control ++ supplied).map (·.requirement)).Nodup → (Corresponds required control supplied ↔
      (∀ q ∈ required, isIdentifier q.subject = true) ∧ (∀ r ∈ supplied, Suppliable r) ∧
        required.Perm ((control ++ supplied).map (·.requirement)) ∧ ∀ r ∈ control ++ supplied, r.outcome = .pass)) ∧
    ∀ results, checkPreExecution required control supplied = .ok results →
      (∀ shuffled : List PreExecutionResult, shuffled.Perm results →
        preExecutionDigest shuffled = preExecutionDigest results) ∧
      ∀ (required' : List PreExecutionRequirement) (control' supplied' : List PreExecutionResult),
        required'.Perm required → control'.Perm control → supplied'.Perm supplied →
        (control' = control ∨ (control.map (·.requirement)).Nodup) →
        checkPreExecution required' control' supplied' = .ok results := by
  refine ⟨⟨?_, ?_⟩, corresponds_iff_perm, fun results ok => ⟨fun shuffled => accepted_digest ok, ?_⟩⟩
  · rintro ⟨results, ok⟩
    exact (checkPreExecution_ok.mp ok).1
  · intro matching
    exact ⟨_, checkPreExecution_ok.mpr ⟨matching, rfl⟩⟩
  · intro required' control' supplied' required_perm control_perm supplied_perm own
    exact accepted_perm ok required_perm control_perm own supplied_perm

end Accepting

section Sample

def trustedResult (evidence : Digest32) : PreExecutionResult := ⟨.moduleTrust, "m", .pass, "ok", evidence⟩
def scopeResult (evidence : Digest32) : PreExecutionResult := ⟨.credentialScope, "key", .pass, "ok", evidence⟩
def attestedResult : PreExecutionResult := ⟨.harnessAttestation, "h", .pass, "ok", 1⟩

theorem checkPreExecution_sample : ∀ control, control.Perm [trustedResult 1] →
    checkPreExecution [(scopeResult 2).requirement, (trustedResult 1).requirement] control [scopeResult 2] =
      .ok [trustedResult 1, scopeResult 2] := by
  intro control perm
  have ok : checkPreExecution [(trustedResult 1).requirement, (scopeResult 2).requirement] [trustedResult 1] [scopeResult 2] =
      .ok [trustedResult 1, scopeResult 2] := by decide +kernel
  exact ((@checkPreExecution_bijective platformKeccak _ _ _).2.2 _ ok).2 _ _ _ (.swap _ _ _) perm (.refl _)
    (.inr (by decide))

/-- Two control results for one requirement are accepted, and the later one stands; a result of a reserved
kind and one without evidence are refused, though they answer the one requirement there is. -/
theorem two_for_one :
    checkPreExecution [(trustedResult 1).requirement] [trustedResult 1, trustedResult 2] [] = .ok [trustedResult 2] ∧
    checkPreExecution [(trustedResult 1).requirement] [trustedResult 2, trustedResult 1] [] = .ok [trustedResult 1] ∧
    ¬ [(trustedResult 1).requirement].Perm ([trustedResult 1, trustedResult 2].map (·.requirement)) ∧
    checkPreExecution [attestedResult.requirement] [] [attestedResult] =
      refuse .requestInvalid "PRE_EXECUTION_NO_EVALUATOR" "request.results[0].kind" ∧
    checkPreExecution [(scopeResult 0).requirement] [] [scopeResult 0] =
      refuse .requestInvalid "PRE_EXECUTION_EVIDENCE_INVALID" "request.results[0].evidence" := by
  decide +kernel

end Sample

end Mandate.Control
