import Mandate.Perp.Issuance

/-! What the journal can say of a submission: opened once, sent at most once, never left once over;
and, as long as no recovery comes in between, sent only while it says so and reported as it says. -/
set_option linter.dupNamespace false
namespace Mandate.Perp
open Core Ledger Control Lib.Wire Lib.Calls

inductive Phase
  | idle
  | opened (attempt : AttemptId)
  | sending (attempt : AttemptId)
  | sent (attempt : AttemptId)
  | settled (attempt : AttemptId) (state : IssuanceState)

def Phase.attempt : Phase → Option AttemptId
  | idle => none
  | opened a | sending a | sent a | settled a _ => some a

def advance : Phase → SignerAnswer → Phase
  | .idle, ⟨.opening _ a ⟨.artifactIssued, _⟩ _ _, .ok _⟩ => .opened a
  | .opened a, ⟨.transition _ _ _ _, _⟩ => .sending a
  | .sending a, ⟨.sendTx _ _ _, _⟩ => .sent a
  | .sent a, ⟨.transition _ state _ _, _⟩ => .settled a state
  | phase, _ => phase

def phaseOf (had : List SignerAnswer) : Phase := had.foldl advance .idle

@[simp] theorem phaseOf_append (had : List SignerAnswer) (answer : SignerAnswer) :
    phaseOf (had ++ [answer]) = advance (phaseOf had) answer := by
  simp [phaseOf]

def recoveries : List String := [recoveredFrom .artifactIssued, recoveredFrom .submissionSent]

/-- What a signer may ask of the journal and of the venue's submission, in which phase. -/
def Submits (had : List SignerAnswer) : SignerCall → Prop
  | .opening _ _ _ _ detail => phaseOf had = .idle ∧ detail ∉ recoveries
  | .transition a target detail _ =>
      (phaseOf had = .idle ∧ target = .outcomeUnknown ∧ detail ∈ recoveries) ∨
      (phaseOf had = .opened a ∧ target = .submissionSent ∧ detail ∉ recoveries) ∨
      (phaseOf had = .sent a ∧ target ∈ NEXT .submissionSent ∧ detail ∉ recoveries)
  | .sendTx a _ _ => phaseOf had = .sending a
  | _ => True

/-- What a client may report: what it settled, or what it just read. -/
def Reports (had : List SignerAnswer) : SignerResult → Prop
  | .issuance (.issued a _ state _) => phaseOf had = .settled a state
  | .issuance (.existing a issuance) => ∃ record : Option IssuanceRecord,
      had.getLast? = some ⟨.get a, record⟩ ∧ issuance = record.map (·.state)
  | _ => True

@[simp] theorem advance_get (phase : Phase) (a : AttemptId) (record : Option IssuanceRecord) :
    advance phase ⟨.get a, record⟩ = phase := by
  cases phase <;> rfl

theorem not_recovery (head : String) {rest : String}
    (other : ∀ tail ∈ recoveries, head.toList.isPrefixOf tail.toList = false) : head ++ rest ∉ recoveries := by
  intro listed
  have none := other _ listed
  rw [String.toList_append] at none
  have self : head.toList.isPrefixOf (head.toList ++ rest.toList) = true :=
    List.isPrefixOf_iff_prefix.mpr (List.prefix_append _ _)
  rw [self] at none
  cases none

section Discipline

abbrev Any : SignerAnswer → Prop := fun _ => True

abbrev IsIdle {α : Type} (had : List SignerAnswer) (_ : α) : Prop := phaseOf had = .idle

variable {had : List SignerAnswer}

theorem ofLedger_idle {α : Type} (program : LedgerProgram α)
    (idle : phaseOf had = .idle) : Obeys Any Submits IsIdle (ofLedger program) had := by
  induction program generalizing had with
  | done result => exact idle
  | failed => trivial
  | read _ _ ih | append _ _ _ _ ih =>
    refine ⟨trivial, fun reply _ => ih reply ?_⟩
    rw [phaseOf_append, idle]
    rfl

variable {a : AttemptId} {detail : String}

theorem openRecord_obeys {principal : PrincipalId} {state : OpeningState}
    {artifact : Option Bytes} (idle : phaseOf had = .idle) (fresh : detail ∉ recoveries) : Obeys Any Submits
      (fun had result => phaseOf had = if result.isOk ∧ state.1 = .artifactIssued then .opened a else .idle)
      (openRecord principal a state artifact detail) had := by
  refine ⟨⟨idle, fresh⟩, fun reply _ => ?_⟩
  obtain ⟨state, listed⟩ := state
  cases reply with
  | error reason => simp [Obeys, idle, advance, Except.isOk, Except.toBool]
  | ok _ =>
    refine ⟨trivial, fun record _ => ?_⟩
    simp only [Obeys, phaseOf_append, advance_get, idle, Except.isOk, Except.toBool, true_and]
    rcases List.mem_cons.mp listed with rfl | listed
    · rfl
    · obtain rfl := List.mem_singleton.mp listed
      rfl

theorem moveRecord_obeys {target : IssuanceState} {venueRef : Option String} (next : Phase)
    (permitted : Submits had (.transition a target detail venueRef))
    (leads : ∀ reply : Except JournalReason Unit,
      advance (phaseOf had) ⟨.transition a target detail venueRef, reply⟩ = next) :
    Obeys Any Submits (fun had _ => phaseOf had = next) (moveRecord a target detail venueRef) had := by
  refine ⟨permitted, fun reply _ => ?_⟩
  cases reply with
  | error reason => simpa [Obeys] using leads (.error reason)
  | ok _ =>
    refine ⟨trivial, fun record _ => ?_⟩
    show phaseOf (_ ++ [_]) = next
    rw [phaseOf_append, advance_get, phaseOf_append]
    exact leads _

theorem settlement_final (hash : String) (sent : Submission) :
    (settlement hash sent).1 ∈ NEXT .submissionSent ∧ (settlement hash sent).2 ∉ recoveries := by
  cases sent with
  | ack txHash =>
    by_cases same : withoutHexMark txHash = hash
    · rw [settlement, if_pos same]
      decide
    · rw [settlement, if_neg same]
      decide
  | rejected code =>
    refine ⟨?_, not_recovery "API_CODE_" (by decide)⟩
    show IssuanceState.submissionRejected ∈ NEXT .submissionSent
    decide
  | unknown error =>
    refine ⟨?_, not_recovery "SUBMISSION_" (by decide)⟩
    show IssuanceState.outcomeUnknown ∈ NEXT .submissionSent
    decide

variable {c : SignerConfig}

theorem submit_obeys {signed : SignedTx} (idle : phaseOf had = .idle) :
    Obeys Any Submits (fun had o => Reports had (.issuance o)) (submit c a signed) had := by
  have fresh : "SIGNED" ∉ recoveries := by decide
  refine Obeys.bind ((openRecord_obeys idle fresh).weaken fun had opened phase => ?_)
  cases opened with
  | error reason => trivial
  | ok record =>
    replace phase : phaseOf had = .opened a := by simpa [Except.isOk, Except.toBool] using phase
    refine Obeys.bind ((moveRecord_obeys (.sending a) (.inr (.inl ⟨phase, rfl, by decide⟩))
      fun reply => by rw [phase]; rfl).weaken fun had _ phase => ?_)
    refine ⟨phase, fun sent _ => ?_⟩
    have after : phaseOf (had ++ [⟨.sendTx a signed.txType signed.txInfo, sent⟩]) = .sent a := by
      rw [phaseOf_append, phase]
      rfl
    obtain ⟨final, fresh⟩ := settlement_final signed.hash sent
    refine Obeys.bind ((moveRecord_obeys (.settled a (settlement signed.hash sent).1)
      (.inr (.inr ⟨after, final, fresh⟩)) fun reply => by rw [after]; rfl).weaken fun had _ phase => ?_)
    exact phase

abbrev ReportsIssuance (had : List SignerAnswer) (outcome : IssueOutcome) : Prop := Reports had (.issuance outcome)

theorem existingAttempt_obeys (a : AttemptId) (had : List SignerAnswer) :
    Obeys Any Submits ReportsIssuance (existingAttempt a) had :=
  ⟨trivial, fun record _ => ⟨record, by simp, rfl⟩⟩

variable {tx : CustodyTx} {hash : String} {attempt : AttemptAdmission}

theorem signAdmitted_idle (idle : phaseOf had = .idle) :
    Obeys Any Submits IsIdle (signAdmitted tx hash attempt) had := by
  refine ⟨trivial, fun signed _ => ?_⟩
  have still : phaseOf (had ++ [⟨.sign tx ⟨attempt.attempt, attempt.reservation, attempt.generation,
      attempt.action⟩, signed⟩]) = .idle := by
    rw [phaseOf_append, idle]
    rfl
  cases signed with
  | error error => exact still
  | ok signed =>
    dsimp only
    split
    · exact still
    · exact still

theorem issueAdmitted_obeys (idle : phaseOf had = .idle) :
    Obeys Any Submits ReportsIssuance (issueAdmitted c tx hash attempt) had := by
  refine Obeys.bind ((signAdmitted_idle idle).weaken fun had signed idle => ?_)
  cases signed with
  | ok signed => exact submit_obeys idle
  | error stopped =>
    refine Obeys.bind ((openRecord_obeys idle (not_recovery "SIGN_FAILED." (by decide))).weaken ?_)
    intro _ _ _
    trivial

theorem afterAdmission_obeys {outcome : AttemptOutcome} (idle : phaseOf had = .idle) :
    Obeys Any Submits ReportsIssuance (afterAdmission c tx hash outcome) had := by
  cases outcome with
  | admitted attempt revalidation results snapshot attempts =>
    cases attempt with
    | none => trivial
    | some attempt => exact issueAdmitted_obeys idle
  | existing attempt attempts =>
    cases attempt with
    | none => trivial
    | some attempt => exact existingAttempt_obeys _ _
  | refused r revalidation attempts => trivial
  | conflict r attempts => trivial

theorem orRefused_obeys {α : Type} {result : Step α} {next : α → SignerProgram IssueOutcome} (value : ∀ v, Obeys Any Submits ReportsIssuance (next v) had) :
    Obeys Any Submits ReportsIssuance (orRefused result next) had := by
  cases result with
  | error stopped => trivial
  | ok v => exact value v

section Issuing
variable [Keccak] {had : List SignerAnswer} {d : SignerDeps} {request : IssueRequest}

theorem issueFresh_obeys {intent : Intent} {evidence : Evidence} (idle : phaseOf had = .idle) :
    Obeys Any Submits ReportsIssuance (issueFresh d intent request evidence) had := by
  refine orRefused_obeys fun tx => ?_
  have hashed : Obeys Any Submits IsIdle (hashTx tx) had := by
    refine ⟨trivial, fun h _ => ?_⟩
    have still : phaseOf (had ++ [⟨.hash tx, h⟩]) = .idle := by
      rw [phaseOf_append, idle]
      rfl
    cases h with
    | error error => exact still
    | ok h =>
      dsimp only
      split
      · exact still
      · split
        · exact still
        · exact still
  refine Obeys.bind (hashed.weaken fun had hashed idle => orRefused_obeys fun hashed => ?_)
  exact Obeys.bind ((ofLedger_idle _ idle).weaken fun had outcome idle => afterAdmission_obeys idle)

variable {next : Int}

omit [Keccak] in
theorem judged_idle {credential : PreExecutionResult}
    (slot : Option (PreExecutionResult × Option Int)) (idle : phaseOf had = .idle) :
    Obeys Any Submits IsIdle (judged credential next slot) had := by
  cases slot with
  | none => exact .failed
  | some slot => exact .done idle

variable {c : SignerConfig}

theorem judgeEvidence_idle (credential : Option PreExecutionResult) (idle : phaseOf had = .idle) :
    Obeys Any Submits IsIdle (judgeEvidence c next credential) had := by
  cases credential with
  | none => exact .failed
  | some credential =>
    refine Obeys.call trivial fun ledger _ => ?_
    generalize nonceSlot next (highestAdmittedSlot ledger.state c.scope) c.scope.1 = slot
    refine judged_idle slot ?_
    rw [phaseOf_append, idle]
    rfl

theorem readPreExecution_idle (idle : phaseOf had = .idle) :
    Obeys Any Submits IsIdle (readPreExecution c) had := by
  refine Obeys.call trivial fun keys _ => Obeys.call trivial fun next _ => Obeys.call trivial fun pk _ => ?_
  have still : phaseOf (had ++ [⟨.apiKeys c.accountIndex, keys⟩] ++
      [⟨.nextNonce c.accountIndex c.apiKeyIndex, next⟩] ++ [⟨.publicKey, pk⟩]) = .idle := by
    rw [phaseOf_append, phaseOf_append, phaseOf_append, idle]
    rfl
  cases keys with
  | error error => exact .done still
  | ok keys =>
    cases next with
    | error error => exact .done still
    | ok next =>
      cases pk with
      | error error => exact .done still
      | ok pk =>
        dsimp only
        generalize credentialScope keys c.toSignerIdentity pk = credential
        exact judgeEvidence_idle credential still

theorem issue_obeys {op : Op} {record : AuthorizationRecord} :
    Obeys Any Submits ReportsIssuance (issue d op record request) [] := by
  have resolved : Obeys Any Submits IsIdle (resolveIntent d.config op record request.payload) [] := by
    unfold resolveIntent
    split
    · rfl
    · exact ⟨trivial, fun nowMs _ => rfl⟩
  refine Obeys.bind (resolved.weaken fun had intent idle => orRefused_obeys fun intent => ?_)
  refine ⟨trivial, fun committed _ => ?_⟩
  have still : phaseOf (had ++ [⟨.readCommitted d.config.principal, committed⟩]) = .idle := by
    rw [phaseOf_append, idle]
    rfl
  dsimp only
  split
  · exact existingAttempt_obeys _ _
  · exact Obeys.bind ((readPreExecution_idle still).weaken fun had evidence idle =>
      orRefused_obeys fun evidence => issueFresh_obeys idle)

end Issuing

theorem recoverEach_idle (records : List AttemptRecord) (report : RecoveryReport) (idle : phaseOf had = .idle) :
    Obeys Any Submits IsIdle (recoverEach c records report) had := by
  induction records generalizing report had with
  | nil => exact idle
  | cons a rest ih =>
    unfold recoverEach
    split
    · exact ih report idle
    · refine ⟨trivial, fun record _ => ?_⟩
      have still : phaseOf (had ++ [⟨.get a.admission.attempt, record⟩]) = .idle := by
        rw [phaseOf_append, idle]
        rfl
      cases record with
      | none =>
        refine Obeys.bind ((openRecord_obeys still (by decide)).weaken fun had opened phase => ih _ ?_)
        simpa using phase
      | some record =>
        dsimp only
        split
        · rename_i interrupted
          have listed : recoveredFrom record.state ∈ recoveries := by
            rcases interrupted with issued | sent
            · rw [issued]
              decide
            · rw [sent]
              decide
          exact Obeys.bind ((moveRecord_obeys .idle (.inl ⟨still, rfl, listed⟩)
            fun reply => by rw [still]; rfl).weaken fun had moved phase => ih _ phase)
        · exact ih report still

theorem program_obeys [Keccak] (use : SignerUse) : Obeys Any Submits Reports use.program [] := by
  unfold SignerUse.program
  split
  · exact Obeys.bind issue_obeys
  · refine Obeys.bind ?_
    refine ⟨trivial, fun committed _ => ?_⟩
    exact (recoverEach_idle _ _ rfl).weaken fun _ _ _ => trivial

end Discipline

end Mandate.Perp
