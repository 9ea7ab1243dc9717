import Mandate.Control.Engine
import Mandate.Ledger.Journal
import Mandate.Lib.Calls
import Mandate.Perp.Transaction

/-! The adapter's own pre-execution rules, and issuing through the venue signer: resolve, read the
evidence, construct, hash, admit; only then sign, journal and submit. Clock, custody, venue, ledger
and journal are called; the rest is pure. -/
set_option linter.dupNamespace false
namespace Mandate.Perp
open Core Ledger Control Lib.Wire Lib.Text Lib.Calls

section Evidence

structure RegisteredKey where
  apiKeyIndex : Int
  publicKey : String

def withoutHexMark (text : String) : String :=
  match text.toList with
  | '0' :: 'x' :: rest => String.ofList rest
  | _ => text

def zeroKey (text : String) : Bool := (withoutHexMark text).toList.all (· == '0')

def plainKey (text : String) : String := withoutHexMark text.toLower

def credentialSubject (chainId : Nat) (accountIndex : Int) : String :=
  "lighter:" ++ toString chainId ++ ":account:" ++ toString accountIndex

def attemptRecords (s : LedgerState) : List AttemptRecord := (s.attempts.entries.map (·.2)).reverse

def highestAdmittedSlot (s : LedgerState) (scope : Identifier) : Option Int :=
  (attemptRecords s).foldl (fun high a => match a.admission.slot with
    | none => high
    | some slot =>
      if slot.scope = scope ∧ high.all (· < slot.sequence) then some slot.sequence else high) none

variable [Keccak]

def digestOf (label : String) (body : Writer) : Option Digest32 := (writeStr label ++ body).map keccakDigest

/-- `none` where a listed key's index or text cannot be written down. -/
def credentialScope (keys : List RegisteredKey) (id : SignerIdentity) (publicKey : String) :
    Option PreExecutionResult := do
  let live := (keys.filter fun k => !zeroKey k.publicKey).insertionSort fun a b => a.apiKeyIndex ≤ b.apiKeyIndex
  let evidence ← digestOf "mandate/perp-lighter/credential-scope" (writeU16 live.length ++
    Writer.each (fun k => Writer.uint 2 k.apiKeyIndex ++ writeStr (plainKey k.publicKey)) live)
  let result (outcome : PreExecutionOutcome) (reason : String) : PreExecutionResult :=
    ⟨.credentialScope, credentialSubject id.chainId id.accountIndex, outcome, reason, evidence⟩
  match live with
  | [] => some (result .fail "SIGNER_KEY_NOT_REGISTERED")
  | [only] =>
    if only.apiKeyIndex ≠ id.apiKeyIndex then some (result .fail "SIGNER_KEY_AT_WRONG_INDEX")
    else if plainKey only.publicKey ≠ plainKey publicKey then
      some (result .fail "REGISTERED_KEY_NOT_CUSTODY_KEY")
    else some (result .pass "EXACTLY_THE_SIGNER_KEY")
  | _ => some (result .fail "FOREIGN_KEY_REGISTERED")

/-- The venue's next nonce is used exactly if it follows the highest one admitted. -/
def nonceSlot (venueNext : Int) (ledgerHighest : Option Int) (scope : String) :
    Option (PreExecutionResult × Option Int) := do
  let evidence ← digestOf "mandate/perp-lighter/nonce-slot" (writeStr scope ++ (writeU64 venueNext ++
    writeNullable writeU64 ledgerHighest))
  let result (outcome : PreExecutionOutcome) (reason : String) : PreExecutionResult :=
    ⟨.nonceSlot, scope, outcome, reason, evidence⟩
  match ledgerHighest with
  | none => some (result .pass "NEXT_SLOT", some venueNext)
  | some highest =>
    if venueNext = highest + 1 then some (result .pass "NEXT_SLOT", some venueNext)
    else if venueNext ≤ highest then some (result .fail "LANE_BUSY", none)
    else some (result .fail "NONCE_AHEAD_OF_LEDGER", none)

end Evidence

structure HashedTx where
  hash : String
  txType : Nat

structure SignedTx extends HashedTx where
  txInfo : String

structure AttemptClaim where
  attempt : AttemptId
  reservation : ReservationId
  generation : ReservationGeneration
  action : ActionId

/-- What was observed of a submission; `code` is the text of the number the venue gave. -/
inductive Submission
  | ack (txHash : String)
  | rejected (code : String)
  | unknown (error : String)

/-- The calls a signer makes; a submission is marked with the attempt it is made for. -/
inductive SignerCall
  | clock
  | apiKeys (accountIndex : Int)
  | nextNonce (accountIndex : Int) (apiKeyIndex : Nat)
  | publicKey
  | hash (tx : CustodyTx)
  | sign (tx : CustodyTx) (claim : AttemptClaim)
  | sendTx (attempt : AttemptId) (txType : Nat) (txInfo : String)
  | readCommitted (principal : PrincipalId)
  | append (principal : PrincipalId) (expected : Stamp) (events : List LedgerEvent)
  | get (attempt : AttemptId)
  | opening (principal : PrincipalId) (attempt : AttemptId) (state : OpeningState) (artifact : Option Bytes)
      (detail : String)
  | transition (attempt : AttemptId) (target : IssuanceState) (detail : String) (venueRef : Option String)

abbrev SignerReply : SignerCall → Type
  | .clock => Int
  | .apiKeys _ => Except String (List RegisteredKey)
  | .nextNonce _ _ => Except String Int
  | .publicKey => Except String String
  | .hash _ => Except String HashedTx
  | .sign _ _ => Except String SignedTx
  | .sendTx _ _ _ => Submission
  | .readCommitted _ => LedgerSnapshot
  | .append _ _ _ => CommitResult
  | .get _ => Option IssuanceRecord
  | .opening _ _ _ _ _ => Except JournalReason Unit
  | .transition _ _ _ _ => Except JournalReason Unit

abbrev SignerAnswer := Answer SignerCall SignerReply
abbrev SignerProgram (α : Type) := Program SignerCall SignerReply α

def ofLedger {α : Type} : LedgerProgram α → SignerProgram α
  | .done result => .done result
  | .failed => .failed
  | .read principal next => .call (.readCommitted principal) fun snapshot => ofLedger (next snapshot)
  | .append principal expected events next =>
    .call (.append principal expected events) fun result => ofLedger (next result)

structure SignerConfig extends SignerIdentity where
  principal : PrincipalId
  adapter : AdapterRef
  policy : ModuleRef
  txTtlMs : Int
  retry : RetryPolicy

structure SignerDeps where
  engine : ControlEngine
  config : SignerConfig

structure IssueRequest where
  payload : Bytes
  states : List SuppliedState
  context : EvaluationContextInput

inductive IssueStage | resolve | evidence | construct | hash | admission | sign | journal

inductive IssueOutcome
  | issued (attempt : AttemptId) (txHash : String) (issuance : IssuanceState) (detail : String)
  | existing (attempt : AttemptId) (issuance : Option IssuanceState)
  | refused (stage : IssueStage) (reason : String) (attemptAdmitted : Bool)

inductive Op | order | cancel

structure Intent where
  op : Op
  action : DecodedAction
  record : AuthorizationRecord
  nowMs : Int
  expiredAt : Int
  validUntil : Int

abbrev Step (α : Type) := Except (IssueStage × String) α

def stop {α : Type} (stage : IssueStage) (reason : String) : Step α := .error (stage, reason)

def MS : Int := 1000

/-- The venue refuses an order expiry under five minutes; the margin absorbs clock skew. -/
def MIN_ORDER_LIFE_MS : Int := 5 * 60 * MS + 30 * MS

section Resolve

def expectedType : Op → String
  | .order => ACTION_CREATE_ORDER
  | .cancel => ACTION_CANCEL_ORDER

def matchesOp : Op → DecodedAction → Bool
  | .order, .order _ | .cancel, .cancel _ => true
  | _, _ => false

/-- A resting order dies by the attempt's ceiling and lives the venue's minimum. -/
def orderEnd (action : DecodedAction) (nowMs ceilingMs expiredAt : Int) : Step Int :=
  match action with
  | .cancel _ => .ok expiredAt
  | .order o =>
    if o.orderExpiryMs ≤ 0 then .ok expiredAt
    else if ceilingMs < o.orderExpiryMs then stop .resolve "ORDER_OUTLIVES_AUTHORIZATION"
    else if o.orderExpiryMs < nowMs + MIN_ORDER_LIFE_MS then stop .resolve "ORDER_EXPIRY_TOO_SOON"
    else .ok (max expiredAt o.orderExpiryMs)

def intentAt (c : SignerConfig) (op : Op) (record : AuthorizationRecord) (action : DecodedAction)
    (nowMs : Int) : Step Intent :=
  let ceilingMs := record.validUntil * MS
  let expiredAt := if nowMs + c.txTtlMs < ceilingMs then nowMs + c.txTtlMs else ceilingMs
  if expiredAt ≤ nowMs then stop .resolve "AUTHORIZATION_LIFETIME_ENDED"
  else do
    let endMs ← orderEnd action nowMs ceilingMs expiredAt
    .ok ⟨op, action, record, nowMs, expiredAt, (endMs + MS - 1).tdiv MS⟩

theorem intentAt_ok {c : SignerConfig} {op : Op} {record : AuthorizationRecord} {action : DecodedAction}
    {nowMs : Int} {intent : Intent} (resolved : intentAt c op record action nowMs = .ok intent) :
    intent.op = op ∧ intent.action = action ∧ intent.record = record ∧ intent.nowMs = nowMs ∧
      nowMs < intent.expiredAt ∧ intent.expiredAt ≤ record.validUntil * MS ∧
      ∀ o, action = .order o → 0 < o.orderExpiryMs → o.orderExpiryMs ≤ record.validUntil * MS := by
  unfold intentAt at resolved
  extract_lets ceilingMs expiredAt at resolved
  split at resolved
  · cases resolved
  · next alive =>
    obtain ⟨endMs, ended, made⟩ := except_bind_success resolved
    obtain rfl := Except.ok.inj made
    refine ⟨rfl, rfl, rfl, rfl, Int.not_le.mp alive, ?_, ?_⟩
    · simp only [expiredAt]
      split <;> omega
    · rintro o rfl resting
      unfold orderEnd at ended
      dsimp only at ended
      rw [if_neg (Int.not_le.mpr resting)] at ended
      split at ended
      · cases ended
      · next within => exact Int.not_lt.mp within

variable [Keccak]

/-- Nothing about the order is taken from the request but the payload the action committed to. -/
def resolvePayload (c : SignerConfig) (op : Op) (record : AuthorizationRecord) (payload : Bytes) :
    Step DecodedAction :=
  if !moduleRefsEqual record.module c.policy then stop .resolve "MODULE_NOT_THIS_POLICY"
  else if !adapterRefsEqual record.adapter c.adapter then stop .resolve "ADAPTER_NOT_THIS_SIGNER"
  else if record.principal ≠ c.principal then stop .resolve "PRINCIPAL_NOT_THIS_SIGNER"
  else if (actionPayloadDigest record.module payload).toOption ≠ some record.action.payloadDigest then
    stop .resolve "PAYLOAD_NOT_AUTHORIZED"
  else if record.action.actionType.1 ≠ expectedType op then
    stop .resolve "ACTION_TYPE_NOT_THIS_OPERATION"
  else match decodeAction payload with
    | none => stop .resolve "PAYLOAD_NOT_THIS_OPERATION"
    | some action =>
      if !matchesOp op action then stop .resolve "PAYLOAD_NOT_THIS_OPERATION"
      else if (accountIndexOf action.account.1 c.chainId).map (fun n => (n : Int)) ≠ some c.accountIndex then
        stop .resolve "ACCOUNT_NOT_THIS_SIGNER"
      else .ok action

def resolveIntent (c : SignerConfig) (op : Op) (record : AuthorizationRecord) (payload : Bytes) :
    SignerProgram (Step Intent) :=
  match resolvePayload c op record payload with
  | .error stopped => .done (.error stopped)
  | .ok action => .call .clock fun nowMs => .done (intentAt c op record action nowMs)

end Resolve

structure Evidence where
  results : List PreExecutionResult
  nonce : Int

variable [Keccak]

/-- Failing results are still handed on: the engine refuses with them. -/
def judged (credential : PreExecutionResult) (next : Int) :
    Option (PreExecutionResult × Option Int) → SignerProgram (Step Evidence)
  | none => .failed
  | some (slot, nonce) => .done (.ok ⟨[credential, slot], nonce.getD next⟩)

def judgeEvidence (c : SignerConfig) (next : Int) : Option PreExecutionResult → SignerProgram (Step Evidence)
  | none => .failed
  | some credential => .call (.readCommitted c.principal) fun ledger =>
    judged credential next (nonceSlot next (highestAdmittedSlot ledger.state c.scope) c.scope.1)

def readPreExecution (c : SignerConfig) : SignerProgram (Step Evidence) :=
  .call (.apiKeys c.accountIndex) fun keys =>
  .call (.nextNonce c.accountIndex c.apiKeyIndex) fun next =>
  .call .publicKey fun pk =>
  match keys, next, pk with
  | .error error, _, _ => .done (stop .evidence ("API_KEYS_UNREADABLE." ++ error))
  | .ok _, .error error, _ => .done (stop .evidence ("NONCE_UNREADABLE." ++ error))
  | .ok _, .ok _, .error error => .done (stop .evidence ("CUSTODY_UNAVAILABLE." ++ error))
  | .ok keys, .ok next, .ok pk => judgeEvidence c next (credentialScope keys c.toSignerIdentity pk)

def guard (c : SignerConfig) (intent : Intent) (tx : CustodyTx) (nonce : Int) : Step CustodyTx :=
  match checkAllowed tx with
  | some forbidden => stop .construct forbidden
  | none => match checkBinding tx intent.action c.toSignerIdentity intent.record.reservation nonce
      intent.expiredAt with
    | some mismatch => stop .construct mismatch
    | none => .ok tx

def construct (c : SignerConfig) (intent : Intent) (nonce : Int) : Step CustodyTx :=
  match buildTx intent.action c.toSignerIdentity intent.record.reservation nonce intent.expiredAt with
  | none => stop .construct "MARKET_NOT_ON_CHAIN"
  | some tx => guard c intent tx nonce

def txHashBytes (hex : String) : Option Bytes :=
  let digits := (withoutHexMark hex).toList
  if digits.length = 80 then hexPairs digits else none

structure Hashed where
  hash : String
  bytes : Bytes

def hashTx (tx : CustodyTx) : SignerProgram (Step Hashed) :=
  .call (.hash tx) fun h =>
  match h with
  | .error error => .done (stop .hash error)
  | .ok h =>
    if some h.txType ≠ TX_TYPE_CODE tx.type then .done (stop .hash "TX_TYPE_CODE_MISMATCH")
    else match txHashBytes h.hash with
      | none => .done (stop .hash "TX_HASH_MALFORMED")
      | some bytes => .done (.ok ⟨h.hash, bytes⟩)

/-- What the engine is asked to admit: this transaction's hash in this nonce's slot. -/
def attemptRequest (c : SignerConfig) (intent : Intent) (request : IssueRequest) (tx : CustodyTx)
    (hashed : Hashed) (results : List PreExecutionResult) : AttemptRequest where
  revalidation := ⟨some request.payload, request.states,
    { request.context with evaluationTime := .bigint (intent.nowMs.tdiv MS) }⟩
  adapter := c.adapter
  venueAccount := intent.action.account
  artifact := ⟨ARTIFACT_KIND, hashed.bytes⟩
  slot := some ⟨c.scope, tx.nonce⟩
  validUntil := intent.validUntil
  requirements := [⟨.credentialScope, credentialSubject c.chainId c.accountIndex⟩, ⟨.nonceSlot, c.scope.1⟩]
  results

def admitTx (d : SignerDeps) (intent : Intent) (request : IssueRequest) (tx : CustodyTx) (hashed : Hashed)
    (results : List PreExecutionResult) : SignerProgram AttemptOutcome :=
  ofLedger (admitAttempt d.engine intent.record (attemptRequest d.config intent request tx hashed results)
    d.config.retry)

/-- Custody is given the attempt, not the hash: it verifies the durable admission itself. -/
def signAdmitted (tx : CustodyTx) (hash : String) (attempt : AttemptAdmission) : SignerProgram (Step SignedTx) :=
  .call (.sign tx ⟨attempt.attempt, attempt.reservation, attempt.generation, attempt.action⟩) fun signed =>
  match signed with
  | .error error => .done (stop .sign error)
  | .ok signed =>
    if signed.hash ≠ hash then .done (stop .sign "SIGNED_HASH_NOT_COMMITTED") else .done (.ok signed)

section Journal
omit [Keccak]

abbrev JournalResult := Except JournalReason (Option IssuanceRecord)

def openRecord (principal : PrincipalId) (attempt : AttemptId) (state : OpeningState)
    (artifact : Option Bytes) (detail : String) : SignerProgram JournalResult :=
  .call (.opening principal attempt state artifact detail) fun opened =>
  match opened with
  | .error reason => .done (.error reason)
  | .ok _ => .call (.get attempt) fun record => .done (.ok record)

def moveRecord (attempt : AttemptId) (target : IssuanceState) (detail : String) (venueRef : Option String) :
    SignerProgram JournalResult :=
  .call (.transition attempt target detail venueRef) fun moved =>
  match moved with
  | .error reason => .done (.error reason)
  | .ok _ => .call (.get attempt) fun record => .done (.ok record)

def journalReasonText : JournalReason → String
  | .attemptNotAdmitted => "ATTEMPT_NOT_ADMITTED"
  | .alreadyRecorded => "ALREADY_RECORDED"
  | .notRecorded => "NOT_RECORDED"
  | .transitionForbidden => "TRANSITION_FORBIDDEN"

/-- What a submission's reply is recorded as. An acknowledgement under another hash than the one
committed says nothing of ours. -/
def settlement (hash : String) : Submission → IssuanceState × String
  | .ack txHash =>
    if withoutHexMark txHash = hash then (.submissionAcknowledged, "API_ACCEPTED_SYNTAX")
    else (.outcomeUnknown, "ACK_HASH_MISMATCH")
  | .rejected code => (.submissionRejected, "API_CODE_" ++ code)
  | .unknown error => (.outcomeUnknown, "SUBMISSION_" ++ error)

def venueReference : Submission → Option String
  | .ack txHash => some txHash
  | _ => none

def sendOpened (id : AttemptId) (signed : SignedTx) : SignerProgram IssueOutcome :=
  (moveRecord id .submissionSent "SENT" none).bind fun _ =>
  .call (.sendTx id signed.txType signed.txInfo) fun sent =>
  (moveRecord id (settlement signed.hash sent).1 (settlement signed.hash sent).2 (venueReference sent)).bind
    fun _ => .done (.issued id signed.hash (settlement signed.hash sent).1 (settlement signed.hash sent).2)

def submit (c : SignerConfig) (id : AttemptId) (signed : SignedTx) : SignerProgram IssueOutcome :=
  (openRecord c.principal id ⟨.artifactIssued, issued_opens⟩ (some (encodeText signed.txInfo)) "SIGNED").bind
    fun opened => match opened with
    | .error reason => .done (.refused .journal (journalReasonText reason) true)
    | .ok _ => sendOpened id signed

/-- A generation with an attempt gets that attempt, with what the journal says of it. -/
def existingAttempt (id : AttemptId) : SignerProgram IssueOutcome :=
  .call (.get id) fun record => .done (.existing id (record.map (·.state)))

/-- An admitted attempt is signed for; whatever fails from here on leaves it admitted. -/
def issueAdmitted (c : SignerConfig) (tx : CustodyTx) (hash : String) (attempt : AttemptAdmission) :
    SignerProgram IssueOutcome :=
  (signAdmitted tx hash attempt).bind fun signed => match signed with
  | .ok signed => submit c attempt.attempt signed
  | .error (_, reason) =>
    (openRecord c.principal attempt.attempt ⟨.outcomeUnknown, unknown_opens⟩ none ("SIGN_FAILED." ++ reason)).bind
      fun _ => .done (.refused .sign reason true)

def afterAdmission (c : SignerConfig) (tx : CustodyTx) (hash : String) : AttemptOutcome → SignerProgram IssueOutcome
  | .existing (some attempt) _ => existingAttempt attempt.admission.attempt
  | .existing none _ | .admitted none _ _ _ _ => .failed
  | .admitted (some attempt) _ _ _ _ => issueAdmitted c tx hash attempt.admission
  | .refused r _ _ | .conflict r _ =>
    .done (.refused .admission (controlCodeText r.code ++ "." ++ r.reason) false)

end Journal

def orRefused {α : Type} (result : Step α) (next : α → SignerProgram IssueOutcome) :
    SignerProgram IssueOutcome :=
  match result with
  | .error (stage, reason) => .done (.refused stage reason false)
  | .ok value => next value

def issueFresh (d : SignerDeps) (intent : Intent) (request : IssueRequest) (evidence : Evidence) :
    SignerProgram IssueOutcome :=
  orRefused (construct d.config intent evidence.nonce) fun tx =>
  (hashTx tx).bind fun hashed => orRefused hashed fun hashed =>
  (admitTx d intent request tx hashed evidence.results).bind (afterAdmission d.config tx hashed.hash)

def issue (d : SignerDeps) (op : Op) (record : AuthorizationRecord) (request : IssueRequest) :
    SignerProgram IssueOutcome :=
  (resolveIntent d.config op record request.payload).bind fun intent => orRefused intent fun intent =>
  .call (.readCommitted d.config.principal) fun committed =>
  match (attemptsOf committed.state record.reservation).getLast? with
  | some id => existingAttempt id
  | none => (readPreExecution d.config).bind fun evidence => orRefused evidence fun evidence =>
    issueFresh d intent request evidence

section Recover
omit [Keccak]

structure RecoveryReport where
  unrecorded : Nat
  interrupted : Nat

def recoveredFrom (state : IssuanceState) : String := "RECOVERED_FROM_" ++ state.text

def recoverEach (c : SignerConfig) : List AttemptRecord → RecoveryReport → SignerProgram RecoveryReport
  | [], report => .done report
  | a :: rest, report =>
    if a.admission.adapter.adapterDigest ≠ c.adapter.adapterDigest then recoverEach c rest report
    else .call (.get a.admission.attempt) fun record =>
      match record with
      | none =>
        (openRecord c.principal a.admission.attempt ⟨.outcomeUnknown, unknown_opens⟩ none
          "RECOVERED_UNRECORDED").bind fun opened => recoverEach c rest
            (if opened.isOk then { report with unrecorded := report.unrecorded + 1 } else report)
      | some record =>
        if record.state = .artifactIssued ∨ record.state = .submissionSent then
          (moveRecord a.admission.attempt .outcomeUnknown (recoveredFrom record.state) none).bind fun moved =>
            recoverEach c rest
              (if moved.isOk then { report with interrupted := report.interrupted + 1 } else report)
        else recoverEach c rest report

/-- Every interrupted issuance is marked unknown; nothing is sent or signed again. -/
def recover (c : SignerConfig) : SignerProgram RecoveryReport :=
  .call (.readCommitted c.principal) fun committed => recoverEach c (attemptRecords committed.state) ⟨0, 0⟩

end Recover

inductive SignerCommand
  | issueAuthorized (op : Op) (record : AuthorizationRecord) (request : IssueRequest)
  | recover

inductive SignerResult
  | issuance (outcome : IssueOutcome)
  | recovery (report : RecoveryReport)

structure SignerUse where
  deps : SignerDeps
  command : SignerCommand

def SignerUse.program (use : SignerUse) : SignerProgram SignerResult :=
  match use.command with
  | .issueAuthorized op record request => (issue use.deps op record request).bind fun o => .done (.issuance o)
  | .recover => (recover use.deps.config).bind fun report => .done (.recovery report)

section Store
omit [Keccak]

/-- One database: the ledger's logs and the issuance journal beside them. -/
structure SignerStore where
  ledger : PrincipalId → PrincipalLog
  journal : IssuanceJournal

end Store

/-- What a call may be answered, and what it leaves. Clock, custody and venue may answer anything. -/
def answers (rules : ReducerRules) : (request : SignerCall) → SignerStore → SignerReply request →
    SignerStore → Prop
  | .readCommitted principal, store, reply, after => reply = readLog principal (store.ledger principal) ∧ after = store
  | .append principal expected events, store, reply, after => ∃ fault published,
      compareAndAppend rules fault principal (store.ledger principal) expected events = (some reply, published) ∧
      after = { store with ledger := published.elim store.ledger (Function.update store.ledger principal) }
  | .get attempt, store, reply, after => reply = store.journal.records attempt ∧ after = store
  | .opening principal attempt state artifact detail, store, reply, after =>
      store.journal.opening ((store.ledger principal).state.attempts.lookup attempt).isSome attempt state artifact
        detail = some (reply, after.journal) ∧ after.ledger = store.ledger
  | .transition attempt target detail venueRef, store, reply, after =>
      store.journal.transition attempt target detail venueRef = some (reply, after.journal) ∧
        after.ledger = store.ledger
  | _, store, _, after => after = store

section Progress
variable {rules : ReducerRules} {store : SignerStore} {c : SignerConfig} {record : AuthorizationRecord}

theorem resolveIntent_alone {op : Op} {payload : Bytes} {action : DecodedAction}
    (nowMs : Int) (resolved : resolvePayload c op record payload = .ok action) :
    Alone (answers rules) store (resolveIntent c op record payload) store
      (.done (intentAt c op record action nowMs)) := by
  rw [resolveIntent, resolved]
  exact .served nowMs rfl (.here _ _)

theorem readPreExecution_alone {keys : List RegisteredKey} {next : Int} {pk : String}
    {credential slot : PreExecutionResult} {nonce : Option Int}
    (listed : credentialScope keys c.toSignerIdentity pk = some credential)
    (numbered : nonceSlot next (highestAdmittedSlot (store.ledger c.principal).state c.scope) c.scope.1 =
      some (slot, nonce)) : Alone (answers rules) store (readPreExecution c) store
      (.done (.ok ⟨[credential, slot], nonce.getD next⟩)) := by
  refine .served (.ok keys) rfl (.served (.ok next) rfl (.served (.ok pk) rfl ?_))
  dsimp only
  rw [listed]
  refine .served (readLog c.principal (store.ledger c.principal)) ⟨rfl, rfl⟩ ?_
  have same : (readLog c.principal (store.ledger c.principal)).state = (store.ledger c.principal).state := rfl
  rw [same, numbered]
  exact .here _ _

variable {tx : CustodyTx}

theorem hashTx_alone {hashed : Hashed} {code : Nat} (coded : TX_TYPE_CODE tx.type = some code)
    (bytes : txHashBytes hashed.hash = some hashed.bytes) :
    Alone (answers rules) store (hashTx tx) store (.done (.ok hashed)) := by
  refine .served (.ok ⟨hashed.hash, code⟩) rfl ?_
  dsimp only
  rw [coded, if_neg (by simp), bytes]
  exact .here _ _

theorem admitAttempt_alone {e : ControlEngine} {adapters : AdapterRegistry}
    {request : AttemptRequest} {retry : RetryPolicy} {max : Nat} {plan : AdmitPlan} {applied : AppliedBatch}
    (allowed : attemptsAllowed retry = some (max + 1)) (registered : e.adapters = some adapters)
    (none_yet : attemptsOf (store.ledger record.principal).state record.reservation = [])
    (planned : planAdmission e adapters (readLog record.principal (store.ledger record.principal)) record
      request = .ok plan)
    (accepted : applyBatch (store.ledger record.principal).state [.admitAttempt plan.time plan.admission] rules =
      .ok applied) : Alone (answers rules) store (ofLedger (admitAttempt e record request retry))
      ⟨Function.update store.ledger record.principal ⟨applied.state, (store.ledger record.principal).batches ++
        [committedBatch (store.ledger record.principal).state [.admitAttempt plan.time plan.admission] applied]⟩,
        store.journal⟩
      (.done (.admitted (some ⟨plan.admission, (store.ledger record.principal).state.version + 1, plan.time,
        .admitted⟩) plan.revalidation plan.preExecution (snapshotOf record.principal applied.state) 1)) := by
  rw [admitAttempt, allowed, registered]
  dsimp only
  rw [admitFrom]
  refine .served (readLog record.principal (store.ledger record.principal)) ⟨rfl, rfl⟩ ?_
  have nothing : attemptsOf (readLog record.principal (store.ledger record.principal)).state record.reservation = [] :=
    none_yet
  dsimp only
  rw [nothing, planned]
  refine .served (.committed (snapshotOf record.principal applied.state))
    ⟨_, _, compareAndAppend_current accepted, rfl⟩ ?_
  obtain ⟨_, attempts, _⟩ := applyBatch_admitAttempt accepted
  have known : (snapshotOf record.principal applied.state).state.attempts.lookup plan.admission.attempt =
      some ⟨plan.admission, (store.ledger record.principal).state.version + 1, plan.time, .admitted⟩ := by
    rw [show (snapshotOf record.principal applied.state).state = applied.state from rfl, attempts,
      AList.lookup_insert]
  dsimp only
  rw [known]
  exact .here _ _

theorem signAdmitted_alone {attempt : AttemptAdmission} {signed : SignedTx} :
    Alone (answers rules) store (signAdmitted tx signed.hash attempt) store (.done (.ok signed)) := by
  refine .served (.ok signed) rfl ?_
  dsimp only
  rw [if_neg (by simp)]
  exact .here _ _

variable {a : AttemptId} {detail : String} {journal : IssuanceJournal}

theorem openRecord_alone {principal : PrincipalId} {state : OpeningState} {artifact : Option Bytes}
    (opened : store.journal.opening ((store.ledger principal).state.attempts.lookup a).isSome a state artifact
      detail = some (.ok (), journal)) :
    Alone (answers rules) store (openRecord principal a state artifact detail) ⟨store.ledger, journal⟩
      (.done (.ok (journal.records a))) := by
  have answered : answers rules (.opening principal a state artifact detail) store (.ok ()) ⟨store.ledger, journal⟩ :=
    ⟨opened, rfl⟩
  refine .served (.ok ()) answered ?_
  exact .served (journal.records a) ⟨rfl, rfl⟩ (.here _ _)

variable {target : IssuanceState} {venueRef : Option String}

theorem moveRecord_alone (moved : store.journal.transition a target detail venueRef = some (.ok (), journal)) :
    Alone (answers rules) store (moveRecord a target detail venueRef) ⟨store.ledger, journal⟩
      (.done (.ok (journal.records a))) := by
  have answered : answers rules (.transition a target detail venueRef) store (.ok ()) ⟨store.ledger, journal⟩ :=
    ⟨moved, rfl⟩
  refine .served (.ok ()) answered ?_
  exact .served (journal.records a) ⟨rfl, rfl⟩ (.here _ _)

theorem moveRecord_refused {reason : JournalReason}
    (refused : store.journal.transition a target detail venueRef = some (.error reason, store.journal)) :
    Alone (answers rules) store (moveRecord a target detail venueRef) store (.done (.error reason)) :=
  .served (.error reason) ⟨refused, rfl⟩ (.here _ _)

end Progress

section Sample

def sampleAdapter : AdapterRef := ⟨⟨"lighter-venue-signer", by decide⟩, ⟨1, version_one⟩, ⟨1, digest_one⟩⟩

def sampleSignerConfig (p : PrincipalId) : SignerConfig where
  chainId := 300
  accountIndex := 5
  apiKeyIndex := 2
  lane := by decide +kernel
  principal := p
  adapter := sampleAdapter
  policy := sampleModule
  txTtlMs := 600000
  retry := ⟨.integer 1⟩

def sampleAccount : AccountId :=
  ⟨⟨⟨"lighter-perp", by decide⟩, .account, ⟨"lighter:300:account:5", by decide +kernel⟩⟩, by decide⟩

def sampleMarket : MarketId :=
  ⟨⟨⟨"lighter-perp", by decide⟩, .market, ⟨"lighter:300:market:0", by decide +kernel⟩⟩, by decide⟩

def samplePayload : Bytes := (writeStr "lighter-perp/v1/cancel-order" ++ (writeResourceId sampleAccount.1 ++
  (writeResourceId sampleMarket.1 ++ writeDigest 4))).getD []

def sampleCancel : DecodedAction := .cancel ⟨sampleAccount, sampleMarket, 4⟩

def silentModule : DomainModule where
  ref := sampleModule
  implementation := ⟨1, digest_one⟩
  invariants := []
  finalityLadders := []
  demandMeasures := []
  validateAction _ := .threw
  stateRequirements _ := .threw
  validateStatePayload _ := .threw
  project _ _ := .threw
  evaluateInvariant _ _ := .threw
  deriveLedgerDemands _ _ := .threw
  noWeaker _ _ := .threw

def sampleModules : ModuleRegistry := fun id version =>
  if id = sampleModule.moduleId ∧ version = sampleModule.moduleVersion then
    some ⟨sampleModule, .active, [⟨1, digest_one⟩]⟩ else none

def sampleAdapters : AdapterRegistry := fun id version =>
  if id = sampleAdapter.adapterId ∧ version = sampleAdapter.adapterVersion then
    some ⟨sampleAdapter, .active⟩ else none

def sampleEngine : ControlEngine := ⟨sampleModules, ⟨sampleModules, [silentModule], []⟩, some sampleAdapters⟩

def sampleDeps (p : PrincipalId) : SignerDeps := ⟨sampleEngine, sampleSignerConfig p⟩

def sampleRequest : IssueRequest := ⟨samplePayload, [], ⟨.bigint 0, [], [], []⟩⟩

def sampleKeys : List RegisteredKey := [⟨2, "0xab"⟩]

def sampleHashed : Hashed := ⟨String.ofList (List.replicate 80 'a'), List.replicate 40 0xaa⟩

def issuedPolicy (p : PrincipalId) : PrincipalPolicy := { samplePolicy with principal := p }

def issuedGrant (p : PrincipalId) : AuthorityGrant :=
  { sampleGrant with lineage := .root p, principal := p, issued := by simp [rootIssued, GrantLineage.kind, GrantLineage.issuer, partyIdsEqual] }

def issuedAction (p : PrincipalId) : ActionId := if p = samplePrincipal then 1 else 2

def issuedPlan (p : PrincipalId) : ChargePlan :=
  { samplePlan (issuedAction p) with principal := p, authority := authorityId (issuedGrant p) }

def issuedEvents (p : PrincipalId) : List LedgerEvent :=
  [.registerPolicy 0 (issuedPolicy p) [] [], .registerGrant 0 (issuedGrant p) [] [],
    .reserve 1 (issuedPlan p) [authorityId (issuedGrant p)] (principalPolicyId (issuedPolicy p))
      [[⟨.node (authorityId (issuedGrant p)) sampleDimension.dimensionId, 5, some 0⟩]]]

def sampleEnvelope (p : PrincipalId) : ActionEnvelope where
  principal := p
  authority := authorityId (issuedGrant p)
  actor := sampleAgent
  module := sampleModule
  actionType := ⟨ACTION_CANCEL_ORDER, by decide⟩
  adapter := sampleAdapter
  target := sampleMarket.1
  resources := ⟨[], by decide, by simp [Ascending]⟩
  payloadDigest := (actionPayloadDigest sampleModule samplePayload).toOption.getD 0
  window := ⟨⟨0, seconds_zero⟩, ⟨900, by decide⟩, by decide⟩
  nonce := ⟨0, uint64_zero⟩

def sampleRecord (p : PrincipalId) : AuthorizationRecord where
  execution := {
    reservation := {
      action := issuedAction p
      generation := ⟨1, positive_one⟩
      principal := p
      lineage := ⟨[authorityId (issuedGrant p)], by simp [MAX_LINEAGE_LENGTH], by simp, by simp⟩
      policy := principalPolicyId (issuedPolicy p)
      module := sampleModule
      implementation := ⟨1, digest_one⟩
      adapter := sampleAdapter
      ledgerVersion := ⟨1, by decide⟩ }
    stateBindings := ⟨[], by decide, by simp [Ascending]⟩
    attemptCeiling := ⟨900, by decide⟩ }
  executionId := 3
  action := sampleEnvelope p
  actionId := issuedAction p
  principal := p
  module := sampleModule
  implementation := ⟨1, digest_one⟩
  adapter := sampleAdapter
  lineage := [authorityId (issuedGrant p)]
  policy := principalPolicyId (issuedPolicy p)
  reservation := planReservationId (issuedPlan p)
  generation := ⟨1, positive_one⟩
  stateBindings := []
  bindingModules := []
  projectionDigest := 1
  invariantResultsDigest := 1
  planDigest := 1
  contextDigest := 1
  ledgerVersionRead := 1
  ledgerHeadRead := 1
  ledgerVersionCommitted := 1
  ledgerHeadCommitted := 1
  evaluatedAt := ⟨1, seconds_one⟩
  validUntil := 900
  recheck := []
  id := 2

structure SampleIssuance where
  begun : AppliedBatch
  credential : PreExecutionResult
  slot : PreExecutionResult × Option Int
  intent : Intent
  tx : CustodyTx
  plan : AdmitPlan
  applied : AppliedBatch

/-- Every stage of the sample, ten seconds in, at the venue's nonce 7. -/
def sampleIssuance (p : PrincipalId) : Option SampleIssuance := do
  let begun ← (applyBatch (emptyLedgerState p) (issuedEvents p) CORE_RULES).toOption
  let state := begun.state
  let credential ← credentialScope sampleKeys (sampleSignerConfig p).toSignerIdentity "ab"
  let slot ← nonceSlot 7 (highestAdmittedSlot state (sampleSignerConfig p).scope) (sampleSignerConfig p).scope.1
  let intent ← (intentAt (sampleSignerConfig p) .cancel (sampleRecord p) sampleCancel 10000).toOption
  let tx ← (construct (sampleSignerConfig p) intent (slot.2.getD 7)).toOption
  let plan ← (planAdmission sampleEngine sampleAdapters (snapshotOf p state) (sampleRecord p)
    (attemptRequest (sampleSignerConfig p) intent sampleRequest tx sampleHashed [credential, slot.1])).toOption
  let applied ← (applyBatch state [.admitAttempt plan.time plan.admission] CORE_RULES).toOption
  some ⟨begun, credential, slot, intent, tx, plan, applied⟩

end Sample

end Mandate.Perp
