import Mandate.Control.Admission
import Mandate.Lib.Keyed
import Mandate.Lib.Lines
import Mandate.Lib.Meet
import Mandate.Ledger.Canonical

/-! Tightening two requirements is their meet: what both admit, and in whatever order a list of them
is taken. -/
set_option linter.dupNamespace false
namespace Mandate.Control
open Core Ledger Lib.Wire Lib.Text Lib.Meet Lib.Keyed Lib.Lines List
open Option (some.inj)

section Parts

variable {low high : Int}

theorem least_val (a b : IntegerInRange low high) : (if a.1 < b.1 then a else b).1 = min a.1 b.1 := by
  split <;> omega

theorem least_comm (a b : IntegerInRange low high) :
    (if a.1 < b.1 then a else b) = if b.1 < a.1 then b else a :=
  Subtype.ext (by rw [least_val, least_val, min_comm])

theorem least_swap (a b c : IntegerInRange low high) :
    (if (if a.1 < b.1 then a else b).1 < c.1 then (if a.1 < b.1 then a else b) else c) =
      if (if a.1 < c.1 then a else c).1 < b.1 then (if a.1 < c.1 then a else c) else b :=
  Subtype.ext (by rw [least_val, least_val, least_val, least_val, min_right_comm])

theorem meets_freshness : Meets tightenFreshness where
  comm a b := by
    cases a <;> cases b <;> simp only [tightenFreshness, least_comm]
    rename_i pinned a other b
    by_cases same : pinned = other
    · simp [same]
    · simp [same, Ne.symm same]
  swap a b c := by
    cases a <;> cases b <;> cases c <;> simp only [tightenFreshness, Option.bind_some, Option.bind_none]
    · exact congrArg (fun least => some (FreshnessPolicy.age least)) (least_swap ..)
    · exact congrArg (fun least => some (FreshnessPolicy.blocks least)) (least_swap ..)
    case version.version.version pinned a other b third c =>
      by_cases one : pinned = other
      · subst one
        by_cases two : pinned = third
        · simp only [two, if_true, Option.bind_some]
          exact congrArg (fun least => some (FreshnessPolicy.version third least)) (least_swap ..)
        · simp [two]
      · by_cases two : pinned = third
        · subst two
          simp [one]
        · simp [one, two]
    all_goals split <;> rfl

variable {ladders : List FinalityLadder} {a b : FinalityRef}

theorem levelIndex_inj {i : Nat} (ladder : a.ladder = b.ladder)
    (first : levelIndex ladders a = some i) (second : levelIndex ladders b = some i) : a = b := by
  unfold levelIndex ladderOf at first second
  rw [← ladder] at second
  obtain ⟨l, found, here⟩ := Option.bind_eq_some_iff.mp first
  rw [found, Option.bind_some] at second
  split at here
  · split at second
    · rename_i member member'
      have same := (some.inj here).trans (some.inj second).symm
      have level := (idxOf_inj member).mp same
      cases a
      cases b
      exact congrArg₂ _ ladder level
    · cases second
  · cases here

private def meetFinality (ladders : List FinalityLadder) (a b : FinalityRef) : Option FinalityRef :=
  (tightenFinality ladders a b).toOption

theorem meetFinality_some {c : FinalityRef} :
    meetFinality ladders a b = some c ↔ ∃ i j, levelIndex ladders a = some i ∧ levelIndex ladders b = some j ∧
      a.ladder = b.ladder ∧ c.ladder = a.ladder ∧ levelIndex ladders c = some (max i j) := by
  unfold meetFinality tightenFinality
  by_cases ladder : a.ladder = b.ladder
  · rw [if_neg (not_not.mpr ladder)]
    cases first : levelIndex ladders a with
    | none => simp [Except.toOption]
    | some i =>
      cases second : levelIndex ladders b with
      | none => simp [Except.toOption]
      | some j =>
        have least : c = (if j ≤ i then a else b) ↔ c.ladder = a.ladder ∧ levelIndex ladders c = some (max i j) := by
          split
          · rename_i above
            rw [max_eq_left above]
            exact ⟨by rintro rfl; exact ⟨rfl, first⟩, fun both => levelIndex_inj both.1 both.2 first⟩
          · rename_i below
            rw [max_eq_right (by omega), ladder]
            exact ⟨by rintro rfl; exact ⟨rfl, second⟩, fun both => levelIndex_inj both.1 both.2 second⟩
        constructor
        · intro same
          exact ⟨i, j, rfl, rfl, ladder, least.mp (some.inj same).symm⟩
        · rintro ⟨_, _, ⟨⟩, ⟨⟩, _, reached⟩
          exact congrArg some (least.mpr reached).symm
  · rw [if_pos ladder]
    simp [ladder, Except.toOption]

theorem meetFinality_triple {c r : FinalityRef} :
    (meetFinality ladders a b).bind (meetFinality ladders · c) = some r ↔ ∃ i j k, levelIndex ladders a = some i ∧
      levelIndex ladders b = some j ∧ levelIndex ladders c = some k ∧ a.ladder = b.ladder ∧ a.ladder = c.ladder ∧
      r.ladder = a.ladder ∧ levelIndex ladders r = some (max (max i j) k) := by
  rw [Option.bind_eq_some_iff]
  constructor
  · rintro ⟨m, first, second⟩
    obtain ⟨i, j, one, two, ladder, own, reached⟩ := meetFinality_some.mp first
    obtain ⟨n, k, reached', three, ladder', own', top⟩ := meetFinality_some.mp second
    obtain rfl := some.inj (reached.symm.trans reached')
    exact ⟨i, j, k, one, two, three, ladder, own.symm.trans ladder', own'.trans own, top⟩
  · rintro ⟨i, j, k, one, two, three, ladder, ladder', own, top⟩
    obtain ⟨m, own', reached⟩ : ∃ m : FinalityRef, m.ladder = a.ladder ∧ levelIndex ladders m = some (max i j) := by
      rcases le_total j i with above | below
      · exact ⟨a, rfl, by rw [one, max_eq_left above]⟩
      · exact ⟨b, ladder.symm, by rw [two, max_eq_right below]⟩
    exact ⟨m, meetFinality_some.mpr ⟨i, j, one, two, ladder, own', reached⟩,
      meetFinality_some.mpr ⟨max i j, k, reached, three, own'.trans ladder', own.trans own'.symm, top⟩⟩

theorem meets_finality (ladders : List FinalityLadder) : Meets (meetFinality ladders) where
  comm a b := by
    ext c
    simp only [meetFinality_some]
    constructor
    · rintro ⟨i, j, one, two, ladder, own, top⟩
      exact ⟨j, i, two, one, ladder.symm, own.trans ladder, by rw [top, max_comm]⟩
    · rintro ⟨j, i, two, one, ladder, own, top⟩
      exact ⟨i, j, one, two, ladder.symm, own.trans ladder, by rw [top, max_comm]⟩
  swap a b c := by
    ext r
    simp only [meetFinality_triple]
    constructor
    · rintro ⟨i, j, k, one, two, three, ladder, ladder', own, top⟩
      exact ⟨i, k, j, one, three, two, ladder', ladder, own, by rw [top, max_right_comm]⟩
    · rintro ⟨i, k, j, one, three, two, ladder', ladder, own, top⟩
      exact ⟨i, j, k, one, two, three, ladder, ladder', own, by rw [top, max_right_comm]⟩

theorem dependence_comm (a b : ExecutionDependence) : tightenDependence a b = tightenDependence b a := by
  unfold tightenDependence
  by_cases same : a = b
  · rw [same]
  · rw [if_neg same, if_neg (Ne.symm same)]
    by_cases one : a = .notRequired
    · rw [if_pos one, if_neg fun two => same (one.trans two.symm), if_pos one]
    · rw [if_neg one, if_neg one]

theorem dependence_right (a : ExecutionDependence) : tightenDependence a .notRequired = some a := by
  by_cases one : a = .notRequired
  · rw [one]
    rfl
  · rw [tightenDependence, if_neg one, if_neg one, if_pos rfl]

theorem dependence_left (a : ExecutionDependence) : tightenDependence .notRequired a = some a := by
  rw [dependence_comm, dependence_right]

theorem dependence_both {a b : ExecutionDependence} (one : a ≠ .notRequired) (two : b ≠ .notRequired) :
    tightenDependence a b = if a = b then some a else none := by
  rw [tightenDependence, if_neg one, if_neg two]

theorem meets_dependence : Meets tightenDependence where
  comm := dependence_comm
  swap a b c := by
    by_cases one : a = .notRequired
    · subst one
      rw [dependence_left, dependence_left]
      exact dependence_comm b c
    by_cases two : b = .notRequired
    · subst two
      simp only [dependence_right, Option.bind_some, Option.bind_fun_some]
    by_cases three : c = .notRequired
    · subst three
      simp only [dependence_right, Option.bind_some, Option.bind_fun_some]
    rw [dependence_both one two, dependence_both one three]
    by_cases first : a = b
    · subst first
      rw [if_pos rfl, Option.bind_some, dependence_both one three]
      split
      · rw [Option.bind_some, dependence_both one one, if_pos rfl]
      · rfl
    · rw [if_neg first]
      split
      · rw [Option.bind_some, dependence_both one two, if_neg first]
        rfl
      · rfl

end Parts

section Requirements
variable {ladders : List FinalityLadder}

theorem tightened_kind {a b f : FreshnessPolicy} (tightened : tightenFreshness a b = some f) :
    f.kind = a.kind ∧ f.kind = b.kind := by
  cases a <;> cases b <;> simp only [tightenFreshness, reduceCtorEq, Option.some.injEq] at tightened
  · exact tightened ▸ ⟨rfl, rfl⟩
  · exact tightened ▸ ⟨rfl, rfl⟩
  · exact tightened ▸ ⟨rfl, rfl⟩
  · split at tightened
    · exact some.inj tightened ▸ ⟨rfl, rfl⟩
    · cases tightened

variable {a b : StateRequirement}

theorem tightened_fits {f : FreshnessPolicy} {d : ExecutionDependence}
    (freshness : tightenFreshness a.freshness b.freshness = some f)
    (dependence : tightenDependence a.atExecution b.atExecution = some d) : dependenceFits f d = true := by
  obtain ⟨left, right⟩ := tightened_kind freshness
  have first := a.compatible
  have second := b.compatible
  unfold dependenceFits at first second ⊢
  rw [← left] at first
  rw [← right] at second
  unfold tightenDependence at dependence
  split at dependence
  · exact some.inj dependence ▸ first
  · split at dependence
    · exact some.inj dependence ▸ second
    · split at dependence
      · exact some.inj dependence ▸ first
      · cases dependence

private def moreTrusted (a b : AdmissibleTrustClass) : AdmissibleTrustClass :=
  if TRUST_RANK b.1 ≤ TRUST_RANK a.1 then a else b

private def stricter (a b : AtIssue) : AtIssue := if a = .recheck ∨ b = .recheck then .recheck else .withinPolicy

theorem tightenRequirement_ok {r : StateRequirement} : tightenRequirement ladders a b = .ok r ↔
    tightenFreshness a.freshness b.freshness = some r.freshness ∧
      meetFinality ladders a.minFinality b.minFinality = some r.minFinality ∧
      tightenDependence a.atExecution b.atExecution = some r.atExecution ∧
      moreTrusted a.minTrust b.minTrust = r.minTrust ∧ stricter a.atIssue b.atIssue = r.atIssue := by
  have trust : (if TRUST_RANK b.minTrust.1 ≤ TRUST_RANK a.minTrust.1 then a.minTrust.1 else b.minTrust.1) =
      (moreTrusted a.minTrust b.minTrust).1 := by
    unfold moreTrusted
    split <;> rfl
  unfold tightenRequirement meetFinality
  rw [trust]
  cases freshness : tightenFreshness a.freshness b.freshness with
  | none => simp
  | some f =>
    cases finality : tightenFinality ladders a.minFinality b.minFinality with
    | error reason => simp [bind, Except.bind, Except.toOption]
    | ok l =>
      cases dependence : tightenDependence a.atExecution b.atExecution with
      | none => simp [bind, Except.bind]
      | some d =>
        have self := validateStateRequirement_self ⟨f, moreTrusted a.minTrust b.minTrust, l, stricter a.atIssue b.atIssue,
          d, tightened_fits freshness dependence⟩ "requirement"
        simp only [stateRequirementInputOf, stricter] at self
        simp only [bind, Except.bind, self, Except.mapError, Except.toOption, Except.ok.injEq, Option.some.injEq]
        constructor
        · rintro rfl
          exact ⟨rfl, rfl, rfl, rfl, rfl⟩
        · obtain ⟨f', t', l', i', d', _⟩ := r
          dsimp only
          rintro ⟨rfl, rfl, rfl, rfl, rfl⟩
          rfl

def meetRequirement (ladders : List FinalityLadder) (a b : StateRequirement) : Option StateRequirement :=
  (tightenRequirement ladders a b).toOption

theorem meetRequirement_some {r : StateRequirement} :
    meetRequirement ladders a b = some r ↔ tightenRequirement ladders a b = .ok r :=
  ⟨except_toOption_some, congrArg Except.toOption⟩

private def parts (r : StateRequirement) :
    FreshnessPolicy × FinalityRef × ExecutionDependence × AdmissibleTrustClass × AtIssue :=
  (r.freshness, r.minFinality, r.atExecution, r.minTrust, r.atIssue)

theorem parts_inj : Function.Injective parts := by
  intro a b same
  cases a
  cases b
  simp only [parts, Prod.mk.injEq] at same
  obtain ⟨rfl, rfl, rfl, rfl, rfl⟩ := same
  rfl

theorem meets_requirement (ladders : List FinalityLadder) : Meets (meetRequirement ladders) := by
  have trust : Meets fun a b => some (moreTrusted a b) := Meets.total (by decide) (by decide)
  have issue : Meets fun a b => some (stricter a b) :=
    Meets.total (fun a b => by cases a <;> cases b <;> rfl) fun a b c => by cases a <;> cases b <;> cases c <;> rfl
  refine Meets.pulled parts_inj (meets_freshness.both ((meets_finality ladders).both (meets_dependence.both
    (trust.both issue)))) fun a b => ?_
  ext ⟨f, l, d, t, i⟩
  simp only [parts, Option.bind_eq_some_iff, Option.map_eq_some_iff, Option.some.injEq, Prod.mk.injEq]
  constructor
  · rintro ⟨r, met, rfl, rfl, rfl, rfl, rfl⟩
    obtain ⟨freshness, finality, dependence, trust, issue⟩ := tightenRequirement_ok.mp (meetRequirement_some.mp met)
    exact ⟨_, freshness, _, ⟨_, finality, _, ⟨_, dependence, _, ⟨_, trust, _, issue, rfl⟩, rfl⟩, rfl⟩, rfl, rfl⟩
  · rintro ⟨_, freshness, _, ⟨_, finality, _, ⟨_, dependence, _, ⟨_, trust, _, issue, rfl⟩, rfl⟩, rfl⟩, rfl, same⟩
    simp only [Prod.mk.injEq] at same
    obtain ⟨rfl, rfl, rfl, rfl⟩ := same
    exact ⟨⟨_, _, _, _, _, tightened_fits freshness dependence⟩, meetRequirement_some.mpr (tightenRequirement_ok.mpr
      ⟨freshness, finality, dependence, trust, issue⟩), rfl, rfl, rfl, rfl, rfl⟩

end Requirements

section Admits
variable {ladders : List FinalityLadder} {o : Observed} {sources : List Identifier} {ctx : EvaluationContext}

theorem assessSource_none {q : StateRequirement} : assessSource o q sources ctx = none ↔
    (∃ source, ctx.source o.sourceId = some source ∧ ⟨o.domain, o.stateKind⟩ ∈ source.kinds ∧
      o.trustClass = source.trustClass ∧ o.sourceId ∈ sources ∧ TRUST_RANK o.trustClass ≠ 0) ∧
    TRUST_RANK q.minTrust.1 ≤ TRUST_RANK o.trustClass := by
  unfold assessSource
  cases configured : ctx.source o.sourceId with
  | none => simp
  | some source =>
    simp only [Option.some.injEq, exists_eq_left']
    by_cases kind : ⟨o.domain, o.stateKind⟩ ∈ source.kinds
    · by_cases trust : o.trustClass = source.trustClass
      · by_cases admitted : o.sourceId ∈ sources
        · by_cases ranked : TRUST_RANK o.trustClass = 0 ∨ TRUST_RANK o.trustClass < TRUST_RANK q.minTrust.1
          · simp only [kind, trust, admitted, not_true_eq_false, if_false, ne_eq, true_and]
            rw [← trust, if_pos ranked]
            exact iff_of_false (by simp) fun both => ranked.elim both.1 fun below => absurd both.2 (Nat.not_le.mpr below)
          · simp only [kind, trust, admitted, not_true_eq_false, if_false, ne_eq, true_and]
            rw [← trust, if_neg ranked]
            exact iff_of_true rfl ⟨fun zero => ranked (.inl zero), Nat.not_lt.mp fun below => ranked (.inr below)⟩
        · simp [kind, trust, admitted]
      · simp [kind, trust]
    · simp [kind]

theorem moreTrusted_rank (a b : AdmissibleTrustClass) (rank : Nat) :
    TRUST_RANK (moreTrusted a b).1 ≤ rank ↔ TRUST_RANK a.1 ≤ rank ∧ TRUST_RANK b.1 ≤ rank := by
  unfold moreTrusted
  split <;> omega

theorem assessAge_none {time : UnixSeconds} {maxAge : Seconds32} :
    assessAge o time maxAge = none ↔ time.1 - o.observedAt.1 ≤ maxAge.1 := by
  unfold assessAge
  split
  · exact iff_of_false (by simp) (by omega)
  · exact iff_of_true rfl (by omega)

theorem assessBlocks_none {behind : Uint64} : assessBlocks o behind ctx = none ↔
    o.sequence.kind = .block ∧ ∃ head, ctx.blockHead o.sourceId = some head ∧ sequenceValue o.sequence ≤ head.1 ∧
      head.1 - sequenceValue o.sequence ≤ behind.1 := by
  unfold assessBlocks
  by_cases kind : o.sequence.kind = .block
  · rw [if_neg (not_not.mpr kind)]
    cases ctx.blockHead o.sourceId with
    | none => simp
    | some head =>
      simp only [kind, true_and, Option.some.injEq, exists_eq_left']
      split
      · exact iff_of_false (by simp) (by omega)
      · split
        · exact iff_of_false (by simp) (by omega)
        · exact iff_of_true rfl (by omega)
  · rw [if_pos kind]
    simp [kind]

theorem least_bound {low high : Int} (a b : IntegerInRange low high) (value : Int) :
    value ≤ (if a.1 < b.1 then a else b).1 ↔ value ≤ a.1 ∧ value ≤ b.1 := by
  rw [least_val, le_min_iff]

theorem tightened_freshness {a b f : FreshnessPolicy} (tightened : tightenFreshness a b = some f) :
    assessFreshness o f ctx = none ↔ assessFreshness o a ctx = none ∧ assessFreshness o b ctx = none := by
  cases a <;> cases b <;> simp only [tightenFreshness, reduceCtorEq, Option.some.injEq] at tightened
  · subst tightened
    simp only [assessFreshness, assessAge_none, least_bound]
  · subst tightened
    simp only [assessFreshness, assessBlocks_none, least_bound]
    constructor
    · rintro ⟨kind, head, known, below, first, second⟩
      exact ⟨⟨kind, head, known, below, first⟩, kind, head, known, below, second⟩
    · rintro ⟨⟨kind, head, known, below, first⟩, _, head', known', _, second⟩
      obtain rfl := some.inj (known.symm.trans known')
      exact ⟨kind, head, known, below, first, second⟩
  · subst tightened
    exact (and_self_iff).symm
  · split at tightened
    · rename_i same
      obtain rfl := some.inj tightened
      subst same
      simp only [assessFreshness]
      split
      · simp
      · simp only [assessAge_none, least_bound]
    · cases tightened

theorem assessFinality_none {required : FinalityRef} : assessFinality o required ladders = none ↔
    o.finality.ladder = required.ladder ∧ ∃ reached, levelIndex ladders o.finality = some reached ∧
      ∀ need, levelIndex ladders required = some need → need ≤ reached := by
  unfold assessFinality
  by_cases ladder : o.finality.ladder = required.ladder
  · rw [if_neg (not_not.mpr ladder)]
    cases levelIndex ladders o.finality with
    | none => simp
    | some reached =>
      cases levelIndex ladders required with
      | none => simp [ladder]
      | some need =>
        simp only [ladder, true_and, Option.some.injEq, exists_eq_left', forall_eq', Option.any_some, decide_eq_true_eq]
        split
        · exact iff_of_false (by simp) (by omega)
        · exact iff_of_true rfl (by omega)
  · rw [if_pos ladder]
    simp [ladder]

theorem tightened_finality {a b f : FinalityRef} (tightened : meetFinality ladders a b = some f) :
    assessFinality o f ladders = none ↔ assessFinality o a ladders = none ∧ assessFinality o b ladders = none := by
  obtain ⟨i, j, one, two, ladder, own, top⟩ := meetFinality_some.mp tightened
  simp only [assessFinality_none, one, two, top, own, ladder, Option.some.injEq, forall_eq', max_le_iff]
  constructor
  · rintro ⟨same, reached, known, first, second⟩
    exact ⟨⟨same, reached, known, first⟩, same, reached, known, second⟩
  · rintro ⟨⟨same, reached, known, first⟩, _, reached', known', second⟩
    obtain rfl := some.inj (known.symm.trans known')
    exact ⟨same, reached, known, first, second⟩

theorem tightened_admits {a b r : StateRequirement} (tightened : tightenRequirement ladders a b = .ok r) :
    assessObservation o r sources ladders ctx = none ↔ assessObservation o a sources ladders ctx = none ∧
      assessObservation o b sources ladders ctx = none := by
  obtain ⟨freshness, finality, _, trust, _⟩ := tightenRequirement_ok.mp tightened
  simp only [assessObservation, Option.or_eq_none_iff, assessSource_none, ← trust, moreTrusted_rank,
    tightened_freshness freshness, tightened_finality finality]
  tauto

end Admits

section Keys

theorem bytes_inj {a b : Bytes} (same : bytesToHex a = bytesToHex b) : a = b := by
  have read := hexToBytes_bytesToHex a
  rw [same, hexToBytes_bytesToHex] at read
  exact (some.inj read).symm

theorem resource_inj {a b : ResourceId} (same : encodeWith writeResourceId a = encodeWith writeResourceId b) :
    a = b := by
  obtain ⟨bytes, written⟩ := total_resourceId a
  obtain ⟨bytes', written'⟩ := total_resourceId b
  rw [encodeWith, encodeWith, written, written', Option.getD_some, Option.getD_some] at same
  have reads := ((frames_resourceId a) bytes written).2 0 []
  have reads' := ((frames_resourceId b) bytes' written').2 0 []
  rw [same, reads'] at reads
  simp only [Except.ok.injEq, Prod.mk.injEq] at reads
  have texts := reads.1
  cases a
  cases b
  simp only [resourceIdInputOf, ResourceIdInput.mk.injEq] at texts
  obtain ⟨domain, rfl, localId⟩ := texts
  rw [Subtype.ext domain, Subtype.ext localId]

theorem hex_slash (bytes : Bytes) : '/' ∉ (bytesToHex bytes).toList := by
  have digit : ∀ d < 16, '/' ≠ hexDigit d := by decide
  rw [bytesToHex, String.toList_ofList]
  simp only [mem_cons, mem_flatMap, mem_nil_iff, or_false, not_or, not_exists, not_and]
  refine ⟨by decide, by decide, fun byte _ => ⟨digit _ ?_, digit _ (Nat.mod_lt _ (by decide))⟩⟩
  have small := byte.toNat_lt
  omega

theorem needKey_inj [Keccak] {m m' : DomainModule} {kind kind' : Identifier} {subject subject' : ResourceId}
    (same : needKey m kind subject = needKey m' kind' subject') :
    moduleRefDigest m.ref = moduleRefDigest m'.ref ∧ kind = kind' ∧ subject = subject' := by
  have texts := congrArg String.toList same
  simp only [needKey, String.toList_append, List.append_assoc] at texts
  have long : ∀ d : Digest32, d.toHex.toList.length = 66 := fun d => by
    rw [String.length_toList, Digest32.toHex, bytesToHex_length, Digest32.bytes, beBytes_length]
  obtain ⟨hex, rest⟩ := append_inj texts ((long _).trans (long _).symm)
  obtain ⟨kinds, tail⟩ := split_last_inj (hex_slash _) (hex_slash _) (append_cancel_left rest)
  exact ⟨toHex_injective (String.toList_inj.mp hex), Subtype.ext (String.toList_inj.mp kinds),
    resource_inj (bytes_inj (String.toList_inj.mp tail))⟩

end Keys

section Orders

/-- Two needs that admit the same observations for the same module, kind and subject. -/
structure SameNeed (a b : EffectiveNeed) : Prop where
  module : a.module = b.module
  stateKind : a.stateKind = b.stateKind
  subject : a.subject = b.subject
  key : a.key = b.key
  requirement : a.requirement = b.requirement
  sources : ∀ s, s ∈ a.admittedSources ↔ s ∈ b.admittedSources

theorem SameNeed.admits {a b : EffectiveNeed} (same : SameNeed a b) (o : Observed) (ctx : EvaluationContext) :
    assessObservation o a.requirement a.admittedSources a.module.finalityLadders ctx = none ↔
      assessObservation o b.requirement b.admittedSources b.module.finalityLadders ctx = none := by
  simp only [assessObservation, Option.or_eq_none_iff, assessSource_none, same.requirement, same.module, same.sources]

theorem foldlM_toOption {ε α β : Type} (step : β → α → Except ε β) (items : List α) (b : β) :
    (items.foldlM step b).toOption = items.foldlM (fun b a => (step b a).toOption) b := by
  induction items generalizing b with
  | nil => rfl
  | cons a rest ih =>
    rw [foldlM_cons, foldlM_cons]
    cases step b a with
    | error _ => rfl
    | ok next => exact ih next

theorem tighten_toOption (module : DomainModule) (path : String) (a b : StateRequirement) :
    (tighten module path a b).toOption = meetRequirement module.finalityLadders a b := by
  unfold tighten meetRequirement
  cases tightenRequirement module.finalityLadders a b <;> rfl

theorem tightened_toOption (module : DomainModule) (path : String) (items : List StateRequirement)
    (r : StateRequirement) :
    (items.foldlM (tighten module path) r).toOption = items.foldlM (meetRequirement module.finalityLadders) r := by
  rw [foldlM_toOption]
  simp only [tighten_toOption]

private def joinNeed (prev n : EffectiveNeed) : Option EffectiveNeed :=
  (meetRequirement n.module.finalityLadders prev.requirement n.requirement).map fun requirement =>
    { prev with requirement, admittedSources := prev.admittedSources.filter n.admittedSources.contains }

theorem group_fold {a : EffectiveNeed} {rest : List EffectiveNeed} (one : ∀ n ∈ rest, n.module = a.module) :
    rest.foldlM joinNeed a =
      ((rest.map (·.requirement)).foldlM (meetRequirement a.module.finalityLadders) a.requirement).map fun requirement =>
        { a with requirement, admittedSources := a.admittedSources.filter fun s => rest.all (·.admittedSources.contains s) } := by
  induction rest generalizing a with
  | nil => simp
  | cons n rest ih =>
    rw [foldlM_cons, map_cons, foldlM_cons, joinNeed, one n mem_cons_self]
    cases meetRequirement a.module.finalityLadders a.requirement n.requirement with
    | none => rfl
    | some r =>
      have later := @ih { a with requirement := r, admittedSources := a.admittedSources.filter n.admittedSources.contains }
        fun m listed => one m (mem_cons_of_mem _ listed)
      simp only [Option.map_some, Option.bind_eq_bind, Option.bind_some, later, filter_filter, all_cons,
        Bool.and_comm]

theorem group_perm {group group' : List EffectiveNeed} (perm : group.Perm group')
    (one : ∀ n ∈ group, ∀ m ∈ group, n.module = m.module ∧ n.stateKind = m.stateKind ∧ n.subject = m.subject ∧
      n.key = m.key) :
    Option.Rel (Option.Rel SameNeed) (joined joinNeed none group) (joined joinNeed none group') := by
  cases group with
  | nil =>
    rw [nil_perm.mp perm]
    exact .some .none
  | cons a rest =>
    cases group' with
    | nil => cases perm_nil.mp perm
    | cons b rest' =>
      have there : b ∈ a :: rest := perm.mem_iff.mpr mem_cons_self
      obtain ⟨module, kind, subject, key⟩ := one a mem_cons_self b there
      rw [joined, joined, joined_some, joined_some,
        group_fold fun n listed => (one n (mem_cons_of_mem _ listed) a mem_cons_self).1,
        group_fold fun n listed => (one n (perm.mem_iff.mpr (mem_cons_of_mem _ listed)) b there).1, ← module,
        (meets_requirement a.module.finalityLadders).foldlM_perm_cons (perm.map (·.requirement))]
      cases (rest'.map (·.requirement)).foldlM (meetRequirement a.module.finalityLadders) b.requirement with
      | none => exact .none
      | some r =>
        refine .some (.some ⟨rfl, kind, subject, key, rfl, fun s => ?_⟩)
        simp only [mem_filter, all_eq_true, contains_iff_mem]
        have every : ∀ {items : List EffectiveNeed} {n : EffectiveNeed}, (s ∈ n.admittedSources ∧ ∀ m ∈ items,
            s ∈ m.admittedSources) ↔ ∀ m ∈ n :: items, s ∈ m.admittedSources := by simp
        rw [every, every]
        exact ⟨fun all m listed => all m (perm.mem_iff.mpr listed), fun all m listed => all m (perm.mem_iff.mp listed)⟩

theorem mergeNeed_toOption (path : String) (merged : List EffectiveNeed) (n : EffectiveNeed) :
    (mergeNeed path merged n).toOption = gatherOne (·.key) joinNeed merged n := by
  unfold mergeNeed gatherOne joinNeed
  cases merged.find? fun m => m.key == n.key with
  | none => rfl
  | some prev =>
    dsimp only
    rw [← tighten_toOption n.module path]
    cases tighten n.module path prev.requirement n.requirement <;> rfl

variable [Keccak]

theorem effectiveNeed_perm {module : DomainModule} {need : StateNeed} {policies policies' : List EffectiveStatePolicy}
    (perm : policies.Perm policies') (path path' : String) :
    Option.Rel SameNeed (effectiveNeed module need policies path).toOption
      (effectiveNeed module need policies' path').toOption := by
  have bearing : (policiesFor module need.stateKind policies).Perm (policiesFor module need.stateKind policies') :=
    perm.filter _
  have met := (meets_requirement module.finalityLadders).foldlM_perm
    (bearing.flatMap_right fun p : EffectiveStatePolicy => p.requirements) need.requirement
  rw [← tightened_toOption module path, ← tightened_toOption module path'] at met
  unfold effectiveNeed
  dsimp only
  generalize ((policiesFor module need.stateKind policies).flatMap (·.requirements)).foldlM (tighten module path)
    need.requirement = first at met ⊢
  generalize ((policiesFor module need.stateKind policies').flatMap (·.requirements)).foldlM (tighten module path')
    need.requirement = second at met ⊢
  cases first with
  | error _ =>
    cases second with
    | error _ => exact .none
    | ok _ => cases met
  | ok r =>
    cases second with
    | error _ => cases met
    | ok r' =>
      obtain rfl := some.inj met
      refine .some ⟨rfl, rfl, rfl, rfl, rfl, fun s => ?_⟩
      simp only [mem_filter, all_eq_true]
      exact and_congr_right fun _ => ⟨fun all p listed => all p (bearing.mem_iff.mpr listed),
        fun all p listed => all p (bearing.mem_iff.mp listed)⟩

/-- The needs a decision merges: each effective for its module, and one module under one digest. -/
structure Gathered (needs : List EffectiveNeed) : Prop where
  effective : ∀ n ∈ needs, ∃ need policies path, effectiveNeed n.module need policies path = .ok n
  one : ∀ n ∈ needs, ∀ m ∈ needs, moduleRefDigest n.module.ref = moduleRefDigest m.module.ref → n.module = m.module

theorem effectiveNeed_key {module : DomainModule} {need : StateNeed} {policies : List EffectiveStatePolicy}
    {path : String} {n : EffectiveNeed} (ok : effectiveNeed module need policies path = .ok n) :
    n.key = needKey n.module n.stateKind n.subject := by
  unfold effectiveNeed at ok
  dsimp only at ok
  obtain ⟨requirement, _, ok⟩ := except_bind_success ok
  obtain rfl := Except.ok.inj ok
  rfl

theorem mergeNeeds_perm {needs needs' : List EffectiveNeed} (gathered : Gathered needs) (perm : needs.Perm needs')
    (path path' : String) :
    Option.Rel (List.Forall₂ SameNeed) (mergeNeeds needs path).toOption (mergeNeeds needs' path').toOption := by
  have keys : ∀ n ∈ needs, n.key = needKey n.module n.stateKind n.subject := fun n listed => by
    obtain ⟨_, _, _, ok⟩ := gathered.effective n listed
    exact effectiveNeed_key ok
  have keeps : ∀ a b c, joinNeed a b = some c → c.key = a.key := fun a b c met => by
    obtain ⟨_, _, rfl⟩ := Option.map_eq_some_iff.mp met
    rfl
  have folds : ∀ (items : List EffectiveNeed) (path : String), (items.foldlM (mergeNeed path) []).toOption =
      items.foldlM (gatherOne (·.key) joinNeed) [] := fun items path => by
    rw [foldlM_toOption]
    simp only [mergeNeed_toOption]
  have whole := gather_related (R := SameNeed) keeps fun k =>
    group_perm (perm.filter fun n => n.key == k) fun n listed m listed' => by
      obtain ⟨here, named⟩ := mem_filter.mp listed
      obtain ⟨here', named'⟩ := mem_filter.mp listed'
      have same : n.key = m.key := (beq_iff_eq.mp named).trans (beq_iff_eq.mp named').symm
      have parts := same
      rw [keys n here, keys m here'] at parts
      obtain ⟨digest, kind, subject⟩ := needKey_inj parts
      exact ⟨gathered.one n here m here' digest, kind, subject, same⟩
  rw [← folds needs path, ← folds needs' path'] at whole
  unfold mergeNeeds
  generalize needs.foldlM (mergeNeed path) [] = first at whole ⊢
  generalize needs'.foldlM (mergeNeed path') [] = second at whole ⊢
  cases first with
  | error _ =>
    cases second with
    | error _ => exact .none
    | ok _ => cases whole
  | ok out =>
    cases second with
    | error _ => cases whole
    | ok out' =>
      obtain ⟨distinct, distinct', related⟩ : (out.map (·.key)).Nodup ∧ (out'.map (·.key)).Nodup ∧
          ∀ k, Option.Rel SameNeed (out.find? fun m => m.key == k) (out'.find? fun m => m.key == k) := by
        cases whole with
        | some parts => exact parts
      have total : Std.Total fun a b : String => a ≤ b := ⟨String.le_total⟩
      have trans : IsTrans String fun a b => a ≤ b := ⟨fun _ _ _ => String.le_trans⟩
      have sorted := sorted_related (fun _ _ => String.le_antisymm) distinct distinct' related
      have count : out.length = out'.length := by
        have lengths := sorted.length_eq
        rwa [length_insertionSort, length_insertionSort] at lengths
      simp only [bind, Except.bind, count]
      split
      · exact .none
      · exact .some sorted

end Orders

end Mandate.Control
