import Mandate.Control.Guards
import Mandate.Perp.Journalling

/-! The nonce lane: what a signer has admitted and signed was derived from the authorized payload at
the nonce the venue gave, and in one principal's ledger no generation and no slot is used twice. -/
set_option linter.dupNamespace false
namespace Mandate.Perp
open Core Ledger Control Lib.Wire Lib.Text Lib.Calls List Lib.Machine
open Option (some.inj)
open Function (update_self update_of_ne)

section Stages
variable [Keccak] {c : SignerConfig} {intent : Intent} {tx : CustodyTx} {nonce : Int}

theorem guard_ok {built : CustodyTx} (guarded : guard c intent tx nonce = .ok built) :
    built = tx ∧ buildTx intent.action c.toSignerIdentity intent.record.reservation nonce intent.expiredAt = some tx := by
  unfold guard at guarded
  split at guarded
  · cases guarded
  · split at guarded
    · cases guarded
    · next bound => exact ⟨(Except.ok.inj guarded).symm, checkBinding_none bound⟩

theorem construct_ok (constructed : construct c intent nonce = .ok tx) :
    buildTx intent.action c.toSignerIdentity intent.record.reservation nonce intent.expiredAt = some tx := by
  unfold construct at constructed
  split at constructed
  · cases constructed
  · obtain ⟨rfl, derived⟩ := guard_ok constructed
    exact derived

theorem nonceSlot_nonce {next : Int} {high : Option Int} {scope : String} {slot : PreExecutionResult}
    {nonce : Option Int} (numbered : nonceSlot next high scope = some (slot, nonce)) : nonce.getD next = next := by
  obtain ⟨evidence, _, numbered⟩ := Option.bind_eq_some_iff.mp numbered
  cases high with
  | none =>
    obtain ⟨_, rfl⟩ := Prod.mk.inj (some.inj numbered)
    rfl
  | some highest =>
    dsimp only at numbered
    split at numbered
    · obtain ⟨_, rfl⟩ := Prod.mk.inj (some.inj numbered)
      rfl
    · split at numbered
      · obtain ⟨_, rfl⟩ := Prod.mk.inj (some.inj numbered)
        rfl
      · obtain ⟨_, rfl⟩ := Prod.mk.inj (some.inj numbered)
        rfl

end Stages

section Discipline
variable [Keccak]

/-- A transaction derived from the authorized payload at the venue's next nonce, inside the
authorization's validity, and its hash as custody gave it. -/
structure Derived (d : SignerDeps) (op : Op) (record : AuthorizationRecord) (payload : Bytes)
    (had : List SignerAnswer) (tx : CustodyTx) (hash : Bytes) : Prop where
  built : ∃ action, resolvePayload d.config op record payload = .ok action ∧
    buildTx action d.config.toSignerIdentity record.reservation tx.nonce tx.expiredAt = some tx
  within : tx.expiredAt ≤ record.validUntil * MS
  resting : 0 < tx.orderExpiry → tx.orderExpiry ≤ record.validUntil * MS
  asked : ⟨.nextNonce d.config.accountIndex d.config.apiKeyIndex, .ok tx.nonce⟩ ∈ had
  hashed : ∃ h, ⟨.hash tx, .ok h⟩ ∈ had ∧ txHashBytes h.hash = some hash

variable {had : List SignerAnswer}

theorem Derived.later {d : SignerDeps} {op : Op} {record : AuthorizationRecord} {payload : Bytes}
    {later : List SignerAnswer} {tx : CustodyTx} {hash : Bytes}
    (derived : Derived d op record payload had tx hash) (grown : had ⊆ later) :
    Derived d op record payload later tx hash := by
  obtain ⟨h, told, bytes⟩ := derived.hashed
  exact ⟨derived.built, derived.within, derived.resting, grown derived.asked, h, grown told, bytes⟩

structure FirstAttempt (d : SignerDeps) (record : AuthorizationRecord) (tx : CustodyTx) (hash : Bytes)
    (a : AttemptAdmission) : Prop where
  ordinal : a.ordinal = 1
  reservation : a.reservation = record.reservation
  generation : a.generation = record.generation
  artifact : a.artifact = ⟨ARTIFACT_KIND, hash⟩
  slot : a.slot = some ⟨d.config.scope, tx.nonce⟩

/-- What an issue may have admitted, and what it may have custody sign. -/
def Issues (d : SignerDeps) (op : Op) (record : AuthorizationRecord) (payload : Bytes)
    (had : List SignerAnswer) : SignerCall → Prop
  | .append principal _ events => principal = record.principal ∧ ∃ time a tx hash,
      events = [.admitAttempt time a] ∧ FirstAttempt d record tx hash a ∧ Derived d op record payload had tx hash
  | .sign tx claim => ∃ expected time a snapshot hash,
      ⟨.append record.principal expected [.admitAttempt time a], .committed snapshot⟩ ∈ had ∧
      FirstAttempt d record tx hash a ∧ Derived d op record payload had tx hash ∧
      claim = ⟨a.attempt, a.reservation, a.generation, a.action⟩
  | _ => True

def Harmless : SignerCall → Prop
  | .append _ _ _ | .sign _ _ => False
  | _ => True

def Lanes (use : SignerUse) (had : List SignerAnswer) (request : SignerCall) : Prop :=
  match use.command with
  | .issueAuthorized op record issued => Issues use.deps op record issued.payload had request
  | .recover => Harmless request

/-- What the ledger answers: its own principal's snapshot, and after an admission that attempt. -/
def Answered : SignerAnswer → Prop
  | ⟨.readCommitted principal, snapshot⟩ => snapshot.principal = principal
  | ⟨.append _ _ events, result⟩ => ∀ time a snapshot, events = [.admitAttempt time a] → result = .committed snapshot →
      ∃ version, snapshot.state.attempts.lookup a.attempt = some ⟨a, version, time, .admitted⟩
  | _ => True

section Issue
variable {d : SignerDeps} {op : Op} {record : AuthorizationRecord} {request : IssueRequest}
  {had : List SignerAnswer}

abbrev Keeps {α : Type} (d : SignerDeps) (op : Op) (record : AuthorizationRecord) (payload : Bytes)
    (warrants : List SignerAnswer → α → Prop) : SignerProgram α → List SignerAnswer → Prop :=
  Obeys Answered (Issues d op record payload) warrants

abbrev Anything {α : Type} (_ : List SignerAnswer) (_ : α) : Prop := True

theorem resolveIntent_keeps : Keeps d op record request.payload (fun _ result => ∀ intent, result = .ok intent →
    resolvePayload d.config op record request.payload = .ok intent.action ∧ intent.record = record ∧
      intent.expiredAt ≤ record.validUntil * MS ∧ ∀ o, intent.action = .order o → 0 < o.orderExpiryMs →
        o.orderExpiryMs ≤ record.validUntil * MS) (resolveIntent d.config op record request.payload) had := by
  unfold resolveIntent
  cases resolved : resolvePayload d.config op record request.payload with
  | error stopped =>
    refine .done fun intent made => ?_
    cases made
  | ok action =>
    refine .call trivial fun nowMs _ => ?_
    generalize made : intentAt d.config op record action nowMs = result
    refine .done fun intent here => ?_
    subst here
    obtain ⟨_, rfl, same, _, _, within, resting⟩ := intentAt_ok made
    exact ⟨rfl, same, within, resting⟩

theorem readPreExecution_keeps : Keeps d op record request.payload (fun later result => ∀ evidence, result = .ok evidence →
    ⟨.nextNonce d.config.accountIndex d.config.apiKeyIndex, .ok evidence.nonce⟩ ∈ later)
    (readPreExecution d.config) had := by
  unfold readPreExecution
  refine .call trivial fun keys _ => .call trivial fun next _ => .call trivial fun pk _ => ?_
  cases keys with
  | error error => exact .done nofun
  | ok keys =>
    cases next with
    | error error => exact .done nofun
    | ok next =>
      cases pk with
      | error error => exact .done nofun
      | ok pk =>
        dsimp only
        generalize credentialScope keys d.config.toSignerIdentity pk = credential
        cases credential with
        | none => exact Obeys.failed
        | some credential =>
          refine .call trivial fun ledger _ => ?_
          generalize numbered : nonceSlot next (highestAdmittedSlot ledger.state d.config.scope) d.config.scope.1 = slot
          cases slot with
          | none => exact Obeys.failed
          | some slot =>
            obtain ⟨slot, nonce⟩ := slot
            refine .done ?_
            intro evidence made
            obtain rfl := Except.ok.inj made
            simp [nonceSlot_nonce numbered]

variable {tx : CustodyTx}

theorem hashTx_keeps : Keeps d op record request.payload (fun later result =>
    ∀ hashed, result = .ok hashed → ∃ h, ⟨.hash tx, .ok h⟩ ∈ later ∧ txHashBytes h.hash = some hashed.bytes)
    (hashTx tx) had := by
  refine .call trivial fun h _ => ?_
  cases h with
  | error error => exact .done nofun
  | ok h =>
    dsimp only
    split
    · exact .done nofun
    · cases bytes : txHashBytes h.hash with
      | none => exact .done nofun
      | some bytes =>
        refine .done ?_
        intro hashed made
        obtain rfl := Except.ok.inj made
        exact ⟨h, by simp, by assumption⟩

def Admitted (d : SignerDeps) (record : AuthorizationRecord) (had : List SignerAnswer) (tx : CustodyTx) (hash : Bytes)
    (a : AttemptAdmission) : Prop :=
  FirstAttempt d record tx hash a ∧ ∃ expected time snapshot,
    ⟨.append record.principal expected [.admitAttempt time a], .committed snapshot⟩ ∈ had

variable {hash : Bytes}

theorem admitFrom_keeps {e : ControlEngine} {adapters : AdapterRegistry} {asked : AttemptRequest} (artifact : asked.artifact = ⟨ARTIFACT_KIND, hash⟩) (slot : asked.slot = some ⟨d.config.scope, tx.nonce⟩)
    (derived : Derived d op record request.payload had tx hash) (left attempt : Nat) :
    Keeps d op record request.payload (fun later outcome => ∀ admitted revalidation results snapshot attempts,
      outcome = .admitted (some admitted) revalidation results snapshot attempts →
        Admitted d record later tx hash admitted.admission)
      (ofLedger (admitFrom e adapters record asked left attempt)) had := by
  induction left generalizing attempt had with
  | zero => exact .done fun _ _ _ _ _ made => by cases made
  | succ left ih =>
    refine .call trivial fun snapshot (whose : snapshot.principal = record.principal) => ?_
    have grown : had ⊆ had ++ [⟨.readCommitted record.principal, snapshot⟩] := subset_append_left _ _
    dsimp only
    cases listed : (attemptsOf snapshot.state record.reservation).getLast? with
    | some id => exact .done fun _ _ _ _ _ made => by cases made
    | none =>
      cases planned : planAdmission e adapters snapshot record asked with
      | error fault =>
        obtain ⟨fault, revalidation⟩ := fault
        cases fault with
        | thrown => exact Obeys.failed
        | refused r => exact .done fun _ _ _ _ _ made => by cases made
      | ok plan =>
        obtain ⟨⟨requirements, revalidation, is⟩, _⟩ := planAdmission_ok planned
        have first : FirstAttempt d record tx hash plan.admission := by
          rw [is]
          exact ⟨rfl, rfl, rfl, artifact, slot⟩
        refine .call ⟨whose, _, _, tx, hash, rfl, first, derived.later grown⟩ fun result answered => ?_
        cases result with
        | committed committed =>
          refine .done fun admitted _ _ _ _ made => ?_
          obtain ⟨version, known⟩ := answered _ _ _ rfl rfl
          obtain ⟨found, _⟩ := AttemptOutcome.admitted.inj made
          obtain rfl := some.inj (known.symm.trans found)
          refine ⟨first, snapshot.stamp, plan.time, committed, ?_⟩
          rw [← whose]
          exact mem_append_right _ (mem_singleton_self _)
        | refused r => exact .done fun _ _ _ _ _ made => by cases made
        | conflict reason version head =>
          exact ih ((derived.later grown).later (subset_append_left _ _)) (attempt + 1)

variable {a : AttemptId} {detail : String}

theorem openRecord_keeps {principal : PrincipalId} {state : OpeningState} {artifact : Option Bytes} : Keeps d op record request.payload Anything (openRecord principal a state artifact detail) had := by
  refine .call trivial fun opened _ => ?_
  cases opened with
  | error reason => exact .done trivial
  | ok _ => exact .call trivial fun _ _ => .done trivial

theorem moveRecord_keeps {target : IssuanceState} {venueRef : Option String} :
    Keeps d op record request.payload Anything (moveRecord a target detail venueRef) had := by
  refine .call trivial fun moved _ => ?_
  cases moved with
  | error reason => exact .done trivial
  | ok _ => exact .call trivial fun _ _ => .done trivial

theorem submit_keeps {signed : SignedTx} :
    Keeps d op record request.payload Anything (submit d.config a signed) had := by
  refine .bind (openRecord_keeps.weaken fun had opened _ => ?_)
  cases opened with
  | error reason => exact .done trivial
  | ok _ =>
    refine .bind (moveRecord_keeps.weaken fun had _ _ => .call trivial fun sent _ => ?_)
    exact .bind (moveRecord_keeps.weaken fun had _ _ => .done trivial)

theorem afterAdmission_keeps {text : String} {outcome : AttemptOutcome}
    (derived : Derived d op record request.payload had tx hash)
    (won : ∀ admitted revalidation results snapshot attempts,
      outcome = .admitted (some admitted) revalidation results snapshot attempts →
        Admitted d record had tx hash admitted.admission) :
    Keeps d op record request.payload Anything (afterAdmission d.config tx text outcome) had := by
  cases outcome with
  | existing attempt attempts =>
    cases attempt with
    | none => exact Obeys.failed
    | some attempt => exact .call trivial fun _ _ => .done trivial
  | refused r revalidation attempts => exact .done trivial
  | conflict r attempts => exact .done trivial
  | admitted attempt revalidation results snapshot attempts =>
    cases attempt with
    | none => exact Obeys.failed
    | some attempt =>
      obtain ⟨first, expected, time, committed, told⟩ := won attempt _ _ _ _ rfl
      refine .bind (.call ⟨expected, time, _, committed, hash, told, first, derived, rfl⟩ fun signed _ => ?_)
      have failed (stopped : IssueStage × String) (had : List SignerAnswer) :
          Keeps d op record request.payload Anything ((openRecord d.config.principal attempt.admission.attempt
            ⟨.outcomeUnknown, by decide⟩ none ("SIGN_FAILED." ++ stopped.2)).bind
              fun _ => .done (IssueOutcome.refused .sign stopped.2 true)) had :=
        .bind (openRecord_keeps.weaken fun had _ _ => .done trivial)
      cases signed with
      | error error => exact .done (failed (.sign, error) _)
      | ok signed =>
        dsimp only
        split
        · exact .done (failed (.sign, "SIGNED_HASH_NOT_COMMITTED") _)
        · exact .done submit_keeps

variable {intent : Intent}

theorem admit_keeps {hashed : Hashed} {results : List PreExecutionResult}
    (same : intent.record = record) (derived : Derived d op record request.payload had tx hashed.bytes) :
    Keeps d op record request.payload (fun later outcome => ∀ admitted revalidation results snapshot attempts,
      outcome = .admitted (some admitted) revalidation results snapshot attempts →
        Admitted d record later tx hashed.bytes admitted.admission)
      (admitTx d intent request tx hashed results) had := by
  unfold admitTx admitAttempt
  rw [same]
  split
  · exact .done fun _ _ _ _ _ made => by cases made
  · exact .done fun _ _ _ _ _ made => by cases made
  · exact admitFrom_keeps rfl rfl derived _ _

theorem orRefused_keeps {α : Type} {result : Step α} {next : α → SignerProgram IssueOutcome}
    (value : ∀ v, result = .ok v → Keeps d op record request.payload Anything (next v) had) :
    Keeps d op record request.payload Anything (orRefused result next) had := by
  cases result with
  | error stopped => exact .done trivial
  | ok v => exact value v rfl

theorem issueFresh_keeps {evidence : Evidence}
    (resolved : resolvePayload d.config op record request.payload = .ok intent.action) (same : intent.record = record)
    (within : intent.expiredAt ≤ record.validUntil * MS)
    (resting : ∀ o, intent.action = .order o → 0 < o.orderExpiryMs → o.orderExpiryMs ≤ record.validUntil * MS)
    (asked : ⟨.nextNonce d.config.accountIndex d.config.apiKeyIndex, .ok evidence.nonce⟩ ∈ had) :
    Keeps d op record request.payload Anything (issueFresh d intent request evidence) had := by
  refine orRefused_keeps fun tx constructed => ?_
  have built := construct_ok constructed
  obtain ⟨nonce, expiredAt, orderExpiry⟩ := buildTx_lane built
  rw [same] at built
  refine .bind (hashTx_keeps.grown.weaken ?_)
  rintro had hashed ⟨grown, told⟩
  refine orRefused_keeps fun hashed made => ?_
  have derived : Derived d op record request.payload had tx hashed.bytes := by
    refine ⟨⟨intent.action, resolved, by rw [nonce, expiredAt, built]⟩, by rw [expiredAt]; exact within, ?_,
      by rw [nonce]; exact grown asked, told hashed made⟩
    intro positive
    rcases orderExpiry with ⟨o, ordered, expiry⟩ | none
    · rw [expiry] at positive ⊢
      exact resting o ordered positive
    · rw [none] at positive
      exact absurd positive (lt_irrefl _)
  refine .bind ((admit_keeps same derived).grown.weaken ?_)
  rintro later outcome ⟨grown, won⟩
  exact afterAdmission_keeps (derived.later grown) won

theorem issue_keeps : Keeps d op record request.payload Anything (issue d op record request) [] := by
  refine .bind (resolveIntent_keeps.weaken fun had intent resolves => orRefused_keeps fun intent made => ?_)
  obtain ⟨resolved, same, within, resting⟩ := resolves intent made
  refine .call trivial fun committed _ => ?_
  split
  · exact .call trivial fun _ _ => .done trivial
  · refine .bind (readPreExecution_keeps.weaken fun had evidence asked => orRefused_keeps fun evidence read => ?_)
    exact issueFresh_keeps resolved same within resting (asked evidence read)

end Issue

theorem recoverEach_keeps {c : SignerConfig} {use : SignerUse} (recovers : use.command = .recover)
    (records : List AttemptRecord) (report : RecoveryReport) :
    Obeys Answered (Lanes use) Anything (recoverEach c records report) had := by
  have free {had : List SignerAnswer} {request : SignerCall}
      (harmless : Harmless request) : Lanes use had request := by
    rw [Lanes, recovers]
    exact harmless
  have wrote {had : List SignerAnswer} {principal : PrincipalId} {a : AttemptId} {state : OpeningState}
      {artifact : Option Bytes} {detail : String} :
      Obeys Answered (Lanes use) Anything (openRecord principal a state artifact detail) had := by
    refine .call (free trivial) fun opened _ => ?_
    cases opened with
    | error reason => exact .done trivial
    | ok _ => exact .call (free trivial) fun _ _ => .done trivial
  have moved {had : List SignerAnswer} {a : AttemptId} {target : IssuanceState} {detail : String}
      {venueRef : Option String} : Obeys Answered (Lanes use) Anything (moveRecord a target detail venueRef) had := by
    refine .call (free trivial) fun moved _ => ?_
    cases moved with
    | error reason => exact .done trivial
    | ok _ => exact .call (free trivial) fun _ _ => .done trivial
  induction records generalizing report had with
  | nil => exact .done trivial
  | cons a rest ih =>
    unfold recoverEach
    split
    · exact ih report
    · refine .call (free trivial) fun record _ => ?_
      cases record with
      | none => exact .bind (wrote.weaken fun _ _ _ => ih _)
      | some record =>
        dsimp only
        split
        · exact .bind (moved.weaken fun _ _ _ => ih _)
        · exact ih report

theorem program_keeps (use : SignerUse) : Obeys Answered (Lanes use) Anything use.program [] := by
  obtain ⟨d, command⟩ := use
  cases command with
  | issueAuthorized op record request =>
    exact .bind (issue_keeps.weaken fun _ _ _ => .done trivial)
  | recover =>
    refine .bind (.call trivial fun committed _ => ?_)
    exact (recoverEach_keeps rfl _ _).weaken fun _ _ _ => .done trivial

end Discipline

section Runs
variable {ι : Type} [DecidableEq ι] [Keccak] {rules : ReducerRules} {uses : ι → SignerUse}
  {ledger : PrincipalId → PrincipalLog} {log : SignerHistory ι} {finish : SignerSystem ι} {store after : SignerStore}

def Honest (rules : ReducerRules) (ledger : PrincipalId → PrincipalLog) : Prop :=
  ∀ principal, LogSound rules principal (ledger principal)

omit [DecidableEq ι] in
theorem append_served {principal : PrincipalId} {expected : Stamp} {events : List LedgerEvent} {result : CommitResult}
    (answered : answers rules (.append principal expected events) store result after) :
    (after.ledger = store.ledger ∧ ∀ snapshot, result ≠ .committed snapshot) ∨
      ∃ applied, applyBatch (store.ledger principal).state events rules = .ok applied ∧
        result = .committed (snapshotOf principal applied.state) ∧
        after.ledger = Function.update store.ledger principal ⟨applied.state, (store.ledger principal).batches ++
          [committedBatch (store.ledger principal).state events applied]⟩ := by
  obtain ⟨fault, published, appended, rfl⟩ := answered
  cases published with
  | none =>
    refine .inl ⟨rfl, fun snapshot committed => ?_⟩
    rcases compareAndAppend_unpublished appended with ⟨_, rfl⟩ | ⟨_, rfl, _⟩
    · cases committed
    · cases committed
  | some log =>
    obtain ⟨_, applied, accepted, told, rfl⟩ := compareAndAppend_published appended
    exact .inr ⟨applied, accepted, some.inj told, rfl⟩

variable {request : SignerCall} {reply : SignerReply request}

omit [DecidableEq ι] in
theorem ledger_unmoved (other : ∀ principal expected events, request ≠ .append principal expected events)
    (answered : answers rules request store reply after) : after.ledger = store.ledger := by
  cases request with
  | append principal expected events => exact absurd rfl (other _ _ _)
  | readCommitted principal =>
    obtain ⟨_, rfl⟩ := answered
    rfl
  | get a =>
    obtain ⟨_, rfl⟩ := answered
    rfl
  | opening principal a state artifact detail => exact answered.2
  | transition a target detail venueRef => exact answered.2
  | _ =>
    obtain rfl : after = store := answered
    rfl

omit [DecidableEq ι] in
theorem answered_kept (honest : Honest rules store.ledger)
    (answered : answers rules request store reply after) : Honest rules after.ledger ∧ Answered ⟨request, reply⟩ := by
  by_cases appends : ∃ principal expected events, request = .append principal expected events
  · obtain ⟨principal, expected, events, rfl⟩ := appends
    rcases append_served answered with ⟨same, lost⟩ | ⟨applied, accepted, rfl, moved⟩
    · refine ⟨by rw [same]; exact honest, ?_⟩
      intro time a snapshot _ committed
      exact absurd committed (lost snapshot)
    · constructor
      · rw [moved]
        intro other
        by_cases here : other = principal
        · subst here
          rw [update_self]
          exact .batch (honest other) accepted
        · rw [update_of_ne here]
          exact honest other
      · rintro time a snapshot rfl committed
        obtain rfl := CommitResult.committed.inj committed
        obtain ⟨_, attempts, _⟩ := applyBatch_admitAttempt accepted
        exact ⟨_, by rw [snapshotOf, attempts, AList.lookup_insert]⟩
  · have other : ∀ principal expected events, request ≠ .append principal expected events :=
      fun principal expected events same => appends ⟨principal, expected, events, same⟩
    refine ⟨by rw [ledger_unmoved other answered]; exact honest, ?_⟩
    cases request with
    | append principal expected events => exact absurd rfl (other _ _ _)
    | readCommitted principal =>
      obtain ⟨rfl, _⟩ := answered
      rfl
    | _ => trivial

omit [DecidableEq ι] in
theorem ledger_served {use : SignerUse} {had : List SignerAnswer}
    (permitted : Lanes use had request) (answered : answers rules request store reply after) :
    (after.ledger = store.ledger ∧ ∀ principal expected events snapshot,
      (⟨request, reply⟩ : SignerAnswer) ≠ ⟨.append principal expected events, .committed snapshot⟩) ∨
    ∃ d op record issued expected time a tx hash applied, use = ⟨d, .issueAuthorized op record issued⟩ ∧
      (⟨request, reply⟩ : SignerAnswer) = ⟨.append record.principal expected [.admitAttempt time a],
        .committed (snapshotOf record.principal applied.state)⟩ ∧
      FirstAttempt d record tx hash a ∧ Derived d op record issued.payload had tx hash ∧
      applyBatch (store.ledger record.principal).state [.admitAttempt time a] rules = .ok applied ∧
      ∃ batches, after.ledger = Function.update store.ledger record.principal ⟨applied.state, batches⟩ := by
  by_cases appends : ∃ principal expected events, request = .append principal expected events
  · obtain ⟨principal, expected, events, rfl⟩ := appends
    rcases append_served answered with ⟨same, lost⟩ | ⟨applied, accepted, rfl, moved⟩
    · refine .inl ⟨same, fun principal expected events snapshot answer => ?_⟩
      cases answer
      exact lost snapshot rfl
    · obtain ⟨d, command⟩ := use
      cases command with
      | recover => exact absurd permitted id
      | issueAuthorized op record issued =>
        obtain ⟨rfl, time, a, tx, hash, rfl, first, derived⟩ := permitted
        exact .inr ⟨d, op, record, issued, expected, time, a, tx, hash, applied, rfl, rfl, first, derived, accepted,
          _, moved⟩
  · refine .inl ⟨ledger_unmoved (fun principal expected events same => appends ⟨principal, expected, events, same⟩)
      answered, fun principal expected events snapshot answer => ?_⟩
    exact appends ⟨principal, expected, events, congrArg Sigma.fst answer⟩

omit [DecidableEq ι] in
theorem admitted_attempts {s : LedgerState} {time : Int} {a : AttemptAdmission} {applied : AppliedBatch}
    (accepted : applyBatch s [.admitAttempt time a] rules = .ok applied) (first : a.ordinal = 1) :
    s.attempts.lookup a.attempt = none ∧ attemptsOf s a.reservation = [] ∧
      applied.state.attempts = s.attempts.insert a.attempt ⟨a, s.version + 1, time, .admitted⟩ ∧
      ∀ reservation, attemptsOf applied.state reservation =
        if reservation = a.reservation then [a.attempt] else attemptsOf s reservation := by
  obtain ⟨⟨r, admissible⟩, attempts, lists⟩ := applyBatch_admitAttempt accepted
  have none_yet : attemptsOf s a.reservation = [] := by
    have ordinal := admissible.ordinal
    rw [first] at ordinal
    exact length_eq_zero_iff.mp (by simp only [attemptsOf]; omega)
  refine ⟨admissible.unused, none_yet, attempts, fun reservation => ?_⟩
  rw [attemptsOf, lists, Lib.Table.lookup_insert_eq, none_yet]
  split
  · rfl
  · rfl

structure Laned (uses : ι → SignerUse) (ledger : PrincipalId → PrincipalLog) (log : SignerHistory ι)
    (sys : SignerSystem ι) : Prop where
  kept : ∀ principal id r, (ledger principal).state.attempts.lookup id = some r →
    (sys.store.ledger principal).state.attempts.lookup id = some r
  single : ∀ principal reservation,
    attemptsOf (sys.store.ledger principal).state reservation = attemptsOf (ledger principal).state reservation ∨
      attemptsOf (ledger principal).state reservation = [] ∧
        ∃ id, attemptsOf (sys.store.ledger principal).state reservation = [id]
  recorded : ∀ before e principal expected time a snapshot, (before, some e) ∈ log →
    e.answer = ⟨.append principal expected [.admitAttempt time a], .committed snapshot⟩ →
      ∃ version, (sys.store.ledger principal).state.attempts.lookup a.attempt = some ⟨a, version, time, .admitted⟩
  known : ∀ principal id r, (sys.store.ledger principal).state.attempts.lookup id = some r →
    (ledger principal).state.attempts.lookup id = some r ∨
      ∃ i d op record issued tx hash earlier later, uses i = ⟨d, .issueAuthorized op record issued⟩ ∧
        record.principal = principal ∧ FirstAttempt d record tx hash r.admission ∧ log = earlier ++ later ∧
        Derived d op record issued.payload (transcript i earlier) tx hash

theorem keeping (trace : Trace (Turn (answers rules)) (signersAtStart ledger uses) log finish)
    (honest : Honest rules ledger) : Honest rules finish.store.ledger ∧
      ∀ i, Obeys Answered (Lanes (uses i)) Anything (finish.clients i) (transcript i log) :=
  disciplined (fun store : SignerStore => Honest rules store.ledger) trace honest answered_kept
    fun i => program_keeps (uses i)

private theorem Laned.unmoved {sys next : SignerSystem ι} {label : Option (SignerEvent ι)}
    (laned : Laned uses ledger log sys) (same : next.store.ledger = sys.store.ledger)
    (none : ∀ e principal expected events snapshot, label = some e →
      e.answer ≠ ⟨.append principal expected events, .committed snapshot⟩) :
    Laned uses ledger (log ++ [(sys, label)]) next := by
  refine ⟨?_, ?_, ?_, ?_⟩
  · rw [same]
    exact laned.kept
  · rw [same]
    exact laned.single
  · intro before e principal expected time a snapshot listed answer
    rcases mem_append.mp listed with old | new
    · rw [same]
      exact laned.recorded before e principal expected time a snapshot old answer
    · obtain ⟨_, label⟩ := Prod.mk.inj (mem_singleton.mp new)
      exact absurd answer (none e principal expected _ snapshot label.symm)
  · intro principal id r found
    rw [same] at found
    rcases laned.known principal id r found with old | ⟨i, d, op, record, issued, tx, hash, earlier, later, use, whose,
      first, rfl, derived⟩
    · exact .inl old
    · exact .inr ⟨i, d, op, record, issued, tx, hash, earlier, later ++ [(sys, label)], use, whose, first, by simp,
        derived⟩

theorem laned_start : Laned uses ledger [] (signersAtStart ledger uses) where
  kept _ _ _ known := known
  single _ _ := .inl rfl
  recorded _ _ _ _ _ _ _ listed := absurd listed not_mem_nil
  known _ _ _ found := .inl found

theorem laned_run (trace : Trace (Turn (answers rules)) (signersAtStart ledger uses) log finish)
    (honest : Honest rules ledger) : Laned uses ledger log finish := by
  refine trace.history (Laned uses ledger) laned_start fun {log before label after} earlier laned taken => ?_
  cases taken with
  | crashed turn =>
    refine laned.unmoved rfl fun e _ _ _ _ none => ?_
    cases none
  | @served i request reply next store lost turn answered =>
    have standing := (keeping earlier honest).2 i
    rw [turn] at standing
    rcases ledger_served standing.1 answered with ⟨same, lost⟩ | ⟨d, op, record, issued, expected, time, a, tx, hash, applied, use,
      told, first, derived, accepted, batches, moved⟩
    · refine laned.unmoved same fun e principal expected events snapshot here answer => ?_
      obtain rfl := some.inj here
      exact lost principal expected events snapshot answer
    · obtain ⟨unused, none_yet, attempts, lists⟩ := admitted_attempts accepted first.ordinal
      have persists (principal : PrincipalId) (id : AttemptId) (r : AttemptRecord)
          (found : (before.store.ledger principal).state.attempts.lookup id = some r) :
          (store.ledger principal).state.attempts.lookup id = some r := by
        rw [moved]
        by_cases here : principal = record.principal
        · subst here
          rw [update_self, attempts, Lib.Table.lookup_insert_eq, if_neg, found]
          rintro rfl
          rw [unused] at found
          cases found
        · rw [update_of_ne here]
          exact found
      have new : (store.ledger record.principal).state.attempts.lookup a.attempt =
          some ⟨a, (before.store.ledger record.principal).state.version + 1, time, .admitted⟩ := by
        rw [moved, update_self, attempts, AList.lookup_insert]
      refine ⟨fun principal id r found => persists principal id r (laned.kept principal id r found), ?_, ?_, ?_⟩
      · intro principal reservation
        by_cases here : principal = record.principal
        · subst here
          have now : attemptsOf (store.ledger record.principal).state reservation =
              if reservation = a.reservation then [a.attempt]
              else attemptsOf (before.store.ledger record.principal).state reservation := by
            rw [moved, update_self]
            exact lists reservation
          dsimp only
          rw [now]
          split
          · rename_i mine
            subst mine
            rcases laned.single record.principal a.reservation with same | ⟨_, id, one⟩
            · exact .inr ⟨by rw [← same, none_yet], a.attempt, rfl⟩
            · rw [none_yet] at one
              cases one
          · exact laned.single record.principal reservation
        · dsimp only
          rw [moved, update_of_ne here]
          exact laned.single principal reservation
      · intro earlier' e principal expected' time' a' snapshot listed answer
        rcases mem_append.mp listed with old | new'
        · obtain ⟨version, found⟩ := laned.recorded earlier' e principal expected' time' a' snapshot old answer
          exact ⟨version, persists principal _ _ found⟩
        · obtain ⟨_, same⟩ := Prod.mk.inj (mem_singleton.mp new')
          obtain rfl := some.inj same
          have both := told.symm.trans answer
          obtain ⟨rfl, rfl, events⟩ := SignerCall.append.inj (congrArg Sigma.fst both)
          obtain ⟨rfl, rfl⟩ : time = time' ∧ a = a' := by simpa using events
          exact ⟨_, new⟩
      · intro principal id r found
        by_cases fresh : principal = record.principal ∧ id = a.attempt
        · obtain ⟨rfl, rfl⟩ := fresh
          obtain rfl := some.inj (new.symm.trans found)
          exact .inr ⟨i, d, op, record, issued, tx, hash, log, _, use, rfl, first, rfl, derived⟩
        · have old : (before.store.ledger principal).state.attempts.lookup id = some r := by
            dsimp only at found
            rw [moved] at found
            by_cases here : principal = record.principal
            · subst here
              rw [update_self] at found
              dsimp only at found
              rwa [attempts, Lib.Table.lookup_insert_eq, if_neg fun same => fresh ⟨rfl, same⟩] at found
            · rwa [update_of_ne here] at found
          rcases laned.known principal id r old with start | ⟨j, d', op', record', issued', tx', hash', prior, later,
            use', whose, first', parts, derived'⟩
          · exact .inl start
          · exact .inr ⟨j, d', op', record', issued', tx', hash', prior, later ++ [_], use', whose, first',
              by rw [parts, List.append_assoc], derived'⟩

/-- What is promised of a run of signers, over the ledgers it found. -/
structure Serialized (uses : ι → SignerUse) (ledger : PrincipalId → PrincipalLog) (log : SignerHistory ι)
    (finish : SignerSystem ι) : Prop where
  generations : ∀ principal reservation,
    attemptsOf (finish.store.ledger principal).state reservation = attemptsOf (ledger principal).state reservation ∨
      attemptsOf (ledger principal).state reservation = [] ∧
        ∃ id, attemptsOf (finish.store.ledger principal).state reservation = [id]
  nonces : ∀ principal id r, (finish.store.ledger principal).state.attempts.lookup id = some r →
    (ledger principal).state.attempts.lookup id = some r ∨
      ∃ i d op record issued tx hash earlier later, uses i = ⟨d, .issueAuthorized op record issued⟩ ∧
        record.principal = principal ∧ FirstAttempt d record tx hash r.admission ∧ log = earlier ++ later ∧
        Derived d op record issued.payload (transcript i earlier) tx hash
  slots : ∀ principal id r other r' slot, (finish.store.ledger principal).state.attempts.lookup id = some r →
    (finish.store.ledger principal).state.attempts.lookup other = some r' →
    r.admission.slot = some slot → r'.admission.slot = some slot → id = other
  signed : ∀ earlier before e later tx claim, log = earlier ++ (before, some e) :: later →
    e.answer.1 = .sign tx claim → ∃ d op record issued hash r,
      uses e.client = ⟨d, .issueAuthorized op record issued⟩ ∧
      (before.store.ledger record.principal).state.attempts.lookup claim.attempt = some r ∧
      claim = ⟨r.admission.attempt, r.admission.reservation, r.admission.generation, r.admission.action⟩ ∧
      FirstAttempt d record tx hash r.admission ∧
      Derived d op record issued.payload (transcript e.client earlier) tx hash

/-- Any number of signers over one store, in any interleaving and whatever the venue and custody
answer: no generation gets a second attempt, no slot of a principal's ledger a second attempt, every
nonce is one the venue gave, and custody is asked to sign only what the committed attempt names,
derived from the authorized payload inside the authorization's validity. -/
theorem lane_serialized (trace : Trace (Turn (answers rules)) (signersAtStart ledger uses) log finish)
    (honest : Honest rules ledger) : Serialized uses ledger log finish := by
  have laned := laned_run trace honest
  refine ⟨laned.single, laned.known, ?_, ?_⟩
  · intro principal id r other r' slot found found' here here'
    have indexed := ((keeping trace honest).1 principal).reachable.indexed
    exact indexed.slot.unique found found' here here'
  · intro earlier before e later tx claim parts asked
    obtain ⟨after, prior, taken, _⟩ := trace.split parts
    cases taken with
    | @served i request reply next store lost turn answered =>
      have standing := (keeping prior honest).2 i
      rw [turn] at standing
      obtain rfl : request = .sign tx claim := asked
      generalize used : uses i = use at standing
      obtain ⟨d, command⟩ := use
      cases command with
      | recover => exact absurd standing.1 id
      | issueAuthorized op record issued =>
        obtain ⟨expected, time, a, snapshot, hash, committed, first, derived, rfl⟩ := standing.1
        obtain ⟨before', listed⟩ := mem_transcript.mp committed
        obtain ⟨version, found⟩ := (laned_run prior honest).recorded before' _ _ _ _ _ _ listed rfl
        exact ⟨d, op, record, issued, hash, _, rfl, found, rfl, first, derived⟩

end Runs

section Sample
attribute [local instance] platformKeccak

/-- Another principal, whose signer is set up over the same venue account and key. -/
def otherPrincipal : PrincipalId where
  kind := ⟨"user", .refl true⟩
  value := ⟨"carol", .refl true⟩
  shaped := by decide

theorem otherIssuance_facts : ∃ q, SampleFacts otherPrincipal q := facts_of_checks (by
  rewrite [platformKeccak_straight]
  decide +kernel)

theorem reservations_apart : (sampleRecord samplePrincipal).reservation ≠ (sampleRecord otherPrincipal).reservation := by
  decide +kernel

variable {p : PrincipalId} {q : SampleIssuance}

theorem SampleFacts.admission (facts : SampleFacts p q) :
    q.plan.admission.reservation = (sampleRecord p).reservation ∧
      q.plan.admission.slot = some ⟨(sampleSignerConfig p).scope, 7⟩ := by
  obtain ⟨⟨requirements, revalidation, is⟩, _⟩ := planAdmission_ok facts.plan
  obtain ⟨nonce, _⟩ := buildTx_lane (construct_ok facts.tx)
  have venue : q.slot.2.getD 7 = 7 := nonceSlot_nonce facts.slot
  rw [is]
  refine ⟨rfl, ?_⟩
  show some (⟨(sampleSignerConfig p).scope, q.tx.nonce⟩ : VenueSlot) = _
  rw [nonce, venue]

def bothPrincipals : Bool → PrincipalId
  | false => samplePrincipal
  | true => otherPrincipal

def bothUses (i : Bool) : SignerUse :=
  ⟨sampleDeps (bothPrincipals i), .issueAuthorized .cancel (sampleRecord (bothPrincipals i)) sampleRequest⟩

/-- Two signers of different principals with the same account and key: each ledger admits the nonce
the venue gave, so within that one scope it is admitted twice. -/
theorem nonce_admitted_twice : ∃ (ledger : PrincipalId → PrincipalLog) (log : SignerHistory Bool)
    (finish : SignerSystem Bool), Trace (Turn (answers CORE_RULES)) (signersAtStart ledger bothUses) log finish ∧
      Honest CORE_RULES ledger ∧ ∃ p p' id id' r r' slot,
        (finish.store.ledger p).state.attempts.lookup id = some r ∧
        (finish.store.ledger p').state.attempts.lookup id' = some r' ∧
        r.admission.slot = some slot ∧ r'.admission.slot = some slot ∧
        r.admission.reservation ≠ r'.admission.reservation := by
  obtain ⟨q, facts⟩ := sampleIssuance_facts
  obtain ⟨q', facts'⟩ := otherIssuance_facts
  have apart : otherPrincipal ≠ samplePrincipal := by decide
  obtain ⟨ledger, mine, theirs, honest⟩ : ∃ ledger : PrincipalId → PrincipalLog,
      ledger samplePrincipal = q.before samplePrincipal ∧ ledger otherPrincipal = q'.before otherPrincipal ∧
        Honest CORE_RULES ledger := by
    refine ⟨Function.update (Function.update emptyLog samplePrincipal (q.before samplePrincipal)) otherPrincipal
      (q'.before otherPrincipal), by rw [update_of_ne apart.symm, update_self],
      by rw [update_self], fun p => ?_⟩
    by_cases other : p = otherPrincipal
    · subst other
      rw [update_self]
      exact facts'.honest
    · rw [update_of_ne other]
      by_cases own : p = samplePrincipal
      · subst own
        rw [update_self]
        exact facts.honest
      · rw [update_of_ne own]
        exact .genesis
  have programs (ledger : PrincipalId → PrincipalLog) (i : Bool) : (signersAtStart ledger bothUses).clients i =
      (issue (sampleDeps (bothPrincipals i)) .cancel (sampleRecord (bothPrincipals i)) sampleRequest).bind asIssuance := by
    rw [signersAtStart]
    dsimp only
    rw [bothUses, program_issuance]
  have issuing : Alone (answers CORE_RULES) ⟨ledger, .empty⟩ _ ⟨Function.update ledger samplePrincipal
      (q.after samplePrincipal), .empty⟩ _ := facts.admitting mine
  have begun : Trace (Turn (answers CORE_RULES)) (signersAtStart ledger bothUses) [] _ := .nil
  have waiting (program : SignerProgram SignerResult) :
      Function.update (signersAtStart ledger bothUses).clients false program true =
        (issue (sampleDeps otherPrincipal) .cancel (sampleRecord otherPrincipal) sampleRequest).bind asIssuance := by
    rw [update_of_ne (by decide)]
    exact programs ledger true
  obtain ⟨log, clients, first, waits⟩ : ∃ log clients, Trace (Turn (answers CORE_RULES)) (signersAtStart ledger bothUses)
      log ⟨⟨Function.update ledger samplePrincipal (q.after samplePrincipal), .empty⟩, clients⟩ ∧ clients true =
        (issue (sampleDeps otherPrincipal) .cancel (sampleRecord otherPrincipal) sampleRequest).bind asIssuance := by
    obtain ⟨log, first⟩ := issuing.under.run begun rfl (programs ledger false)
    exact ⟨log, _, first, waiting _⟩
  have still : Function.update ledger samplePrincipal (q.after samplePrincipal) otherPrincipal =
      q'.before otherPrincipal := by
    rw [update_of_ne apart]
    exact theirs
  have issuing' : Alone (answers CORE_RULES) ⟨Function.update ledger samplePrincipal (q.after samplePrincipal), .empty⟩
      _ ⟨Function.update (Function.update ledger samplePrincipal (q.after samplePrincipal)) otherPrincipal
        (q'.after otherPrincipal), .empty⟩ _ := facts'.admitting still
  obtain ⟨log, second⟩ := issuing'.under.run first rfl waits
  obtain ⟨reservation, slot⟩ := facts.admission
  obtain ⟨reservation', slot'⟩ := facts'.admission
  have kept : (Function.update (Function.update ledger samplePrincipal (q.after samplePrincipal)) otherPrincipal
      (q'.after otherPrincipal)) samplePrincipal = q.after samplePrincipal := by
    rw [update_of_ne apart.symm, update_self]
  have added : (Function.update (Function.update ledger samplePrincipal (q.after samplePrincipal)) otherPrincipal
      (q'.after otherPrincipal)) otherPrincipal = q'.after otherPrincipal := by
    rw [update_self]
  refine ⟨ledger, log, _, second, honest, samplePrincipal, otherPrincipal, q.id, q'.id,
    ⟨q.plan.admission, q.begun.state.version + 1, q.plan.time, .admitted⟩,
    ⟨q'.plan.admission, q'.begun.state.version + 1, q'.plan.time, .admitted⟩, _, ?_, ?_, slot, slot', ?_⟩
  · dsimp only
    rw [kept]
    exact facts.known
  · dsimp only
    rw [added]
    exact facts'.known
  · dsimp only
    rw [reservation, reservation']
    exact reservations_apart

theorem lane_serialized_sample : ∃ (ledger : PrincipalId → PrincipalLog) (log : SignerHistory Bool)
    (finish : SignerSystem Bool) (id : AttemptId), Trace (Turn (answers CORE_RULES)) (signersAtStart ledger sampleUses)
      log finish ∧ Serialized sampleUses ledger log finish ∧
      attemptsOf (ledger samplePrincipal).state (sampleRecord samplePrincipal).reservation = [] ∧
      id ∈ attemptsOf (finish.store.ledger samplePrincipal).state (sampleRecord samplePrincipal).reservation := by
  obtain ⟨q, facts⟩ := sampleIssuance_facts
  obtain ⟨log, issuing⟩ := facts.issuing
  have honest : Honest CORE_RULES q.begins := by
    intro p
    by_cases own : p = samplePrincipal
    · subst own
      rw [SampleIssuance.begins, update_self]
      exact facts.honest
    · rw [SampleIssuance.begins, update_of_ne own]
      exact .genesis
  have none_yet : attemptsOf (q.begins samplePrincipal).state (sampleRecord samplePrincipal).reservation = [] := by
    rw [SampleIssuance.begins, update_self]
    exact facts.none_yet
  have known : (q.opened.ledger samplePrincipal).state.attempts.lookup q.id =
      some ⟨q.plan.admission, q.begun.state.version + 1, q.plan.time, .admitted⟩ := by
    rw [SampleIssuance.opened]
    dsimp only
    rw [SampleIssuance.admitted, update_self]
    exact facts.known
  have indexed := ((keeping issuing honest).1 samplePrincipal).reachable.indexed
  have listed := (indexed.listed (sampleRecord samplePrincipal).reservation q.id).mpr ⟨_, known, facts.admission.1⟩
  exact ⟨q.begins, log, _, q.id, issuing, lane_serialized issuing honest, none_yet, listed⟩

end Sample

end Mandate.Perp
