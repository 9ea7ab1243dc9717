import Mandate.Lib.Calls
import Mandate.Ledger.Journal
import Mandate.Control.Engine
import Mandate.Evm.Artifact

/-! Issuing through the gate signer: resolve, read the evidence, construct, check the slot, admit; only
then have custody verify the committed attempt and sign, journal and submit. Chain, ledger, journal
and custody are called; the rest is pure. -/
set_option linter.dupNamespace false
namespace Mandate.Evm
open Core Ledger Control Lib.Wire Lib.Text Lib.Calls
open Kernel (Secp256k1 SECP256K1_ORDER addressFromPublicKey)

section Custody

structure GateClaim where
  attempt : AttemptId
  reservation : ReservationId
  generation : ReservationGeneration
  action : ActionId

structure CustodyBinding where
  module : ModuleRef
  adapter : AdapterRef

inductive LifecycleKind | module | adapter

def LifecycleKind.text : LifecycleKind → String
  | .module => "MODULE"
  | .adapter => "ADAPTER"

structure LifecycleRow where
  status : String
  digest : Digest32

/-- What custody reads to verify an attempt; only the ledger is more than an observation. -/
structure CustodyView where
  ledger : LedgerState
  issued : AttemptId → Bool
  lifecycle : LifecycleKind → Identifier → SmallUint UINT32_MAX → Option LifecycleRow
  now : Int

def checkLifecycle (view : CustodyView) (kind : LifecycleKind) (name : Identifier)
    (version : SmallUint UINT32_MAX) (digest : Digest32) : Checked :=
  match view.lifecycle kind name version with
  | none => because (kind.text ++ "_LIFECYCLE_UNKNOWN")
  | some row =>
    if row.digest ≠ digest then because (kind.text ++ "_LIFECYCLE_OTHER_DIGEST")
    else if row.status ≠ "ACTIVE" ∧ row.status ≠ "RETIRING" then because (kind.text ++ "_" ++ row.status)
    else passed

def Checked.andThen (first : Checked) (next : Unit → Checked) : Checked :=
  match first with
  | some none => next ()
  | other => other

variable [Keccak]

/-- What the artifact has to be derived from: the attempt's own identity; the record's digest and the
two times are the artifact's. -/
def attemptSource (a : AttemptAdmission) (artifact : GateArtifact) : ArtifactSource where
  executionId := a.authorization
  authorizationId := artifact.candidate.evaluationStateDigest
  reservation := a.reservation
  generation := a.generation
  adapter := a.adapter
  evaluatedAt := artifact.mandate.createdAtUnixSeconds.toInt
  validUntil := artifact.mandate.expiresAtUnixSeconds.toInt

/-- The slot, the two expiries, the reservation, the journal and the lifecycles, in this order. -/
def checkIssuable (view : CustodyView) (binding : CustodyBinding) (principal : String) (a : AttemptAdmission)
    (artifact : GateArtifact) (terms : ArtifactTerms) (claim : GateClaim) : Checked :=
  if a.slot.map (fun slot => (slot.scope.1, slot.sequence)) ≠
      some (slotScope terms.gate.chainId terms.gate.gate principal, (artifact.mandate.nonce.toNat : Int)) then
    because "SLOT_MISMATCH"
  else if a.validUntil ≤ view.now ∨ a.validUntil ≤ artifact.terms.deadline then because "ATTEMPT_EXPIRED"
  else if (view.ledger.reservations.lookup a.reservation).map (·.status) ≠ some .active then
    because "RESERVATION_CLOSED"
  else if view.issued claim.attempt then because "ATTEMPT_ALREADY_ISSUED"
  else (checkLifecycle view .module binding.module.moduleId binding.module.moduleVersion
    binding.module.moduleDigest).andThen fun _ => checkLifecycle view .adapter binding.adapter.adapterId
      binding.adapter.adapterVersion binding.adapter.adapterDigest

def verifyAttempt (view : CustodyView) (binding : CustodyBinding) (principal : String) (a : AttemptAdmission)
    (artifact : GateArtifact) (terms : ArtifactTerms) (claim : GateClaim) : Checked :=
  if a.module.moduleDigest ≠ binding.module.moduleDigest ∨ a.module.moduleId ≠ binding.module.moduleId ∨
      a.module.moduleVersion ≠ binding.module.moduleVersion then because "MODULE_NOT_SERVED"
  else if a.adapter.adapterDigest ≠ binding.adapter.adapterDigest ∨
      a.adapter.adapterId ≠ binding.adapter.adapterId ∨
      a.adapter.adapterVersion ≠ binding.adapter.adapterVersion then because "ADAPTER_NOT_SERVED"
  else if a.reservation ≠ claim.reservation ∨ a.generation ≠ claim.generation ∨ a.action ≠ claim.action then
    because "RESERVATION_MISMATCH"
  else do
    let account ← accountResource terms.gate.chainId principal
    if a.venueAccount.1.localId ≠ account.1.localId then because "ACCOUNT_MISMATCH"
    else if terms.principal ≠ principal ∨ artifact.mandate.principal ≠ principal then
      because "PRINCIPAL_NOT_SERVED"
    else do
      let bad ← checkGateArtifact artifact (attemptSource a artifact) terms
      if bad.isSome then because ("ARTIFACT_INVALID." ++ bad.getD "")
      else if a.artifact.kind ≠ ARTIFACT_KIND ∨ bytesToHex a.artifact.id ≠ artifact.commitment.toHex then
        because "ARTIFACT_NOT_ADMITTED"
      else checkIssuable view binding principal a artifact terms claim

def verifyAdmitted (view : CustodyView) (binding : CustodyBinding) (principal : String) (artifact : GateArtifact)
    (terms : ArtifactTerms) (claim : GateClaim) : Checked :=
  match view.ledger.attempts.lookup claim.attempt with
  | none => because "ATTEMPT_NOT_ADMITTED"
  | some record => verifyAttempt view binding principal record.admission artifact terms claim

variable [Secp256k1]

/-- The address a 65-byte `r ‖ s ‖ v` signature recovers to; only the canonical forms do. -/
def recoverSigner (hash : Digest32) (signature : String) : Option String := do
  let bytes ← hexToBytes signature
  let v := (bytes.getD 64 0).toNat
  let r := beNat (bytes.take 32)
  let s := beNat ((bytes.drop 32).take 32)
  if bytes.length ≠ 65 ∨ (v ≠ 27 ∧ v ≠ 28) then none
  else if r = 0 ∨ SECP256K1_ORDER ≤ r ∨ s = 0 ∨ SECP256K1_ORDER ≤ s ∨ SECP256K1_ORDER / 2 < s then none
  else (Secp256k1.recoverPublicKey hash r s (v - 27)).map addressFromPublicKey

/-- A key by its address, with the signature it makes of a hash, and the ledger its custody reads. -/
structure Custody where
  address : Kernel.Address
  sign : Digest32 → String
  binding : CustodyBinding
  ledger : PrincipalId

def Custody.principal (custody : Custody) : String := custody.address.toHex

abbrev CustodyResult := Except String String

def Custody.signMandate (custody : Custody) (view : CustodyView) (artifact : GateArtifact) (terms : ArtifactTerms)
    (claim : GateClaim) : Option CustodyResult := do
  let refusal ← verifyAdmitted view custody.binding custody.principal artifact terms claim
  if refusal.isSome then some (.error (refusal.getD ""))
  else do
    let hash ← principalSigningHash artifact
    if recoverSigner hash (custody.sign hash) ≠ some custody.principal then
      some (.error "SIGNATURE_SELF_CHECK_FAILED")
    else some (.ok (custody.sign hash))

/-- The agent's key signs the commitment, and is no authority of the principal's. -/
structure AgentSigner where
  address : String
  sign : Digest32 → String

def AgentSigner.signExecution (agent : AgentSigner) (artifact : GateArtifact) : Option CustodyResult :=
  if artifact.mandate.agent ≠ agent.address ∨ artifact.candidate.agent ≠ agent.address then
    some (.error "NOT_THIS_AGENT")
  else (agentSigningHash artifact).map fun hash => .ok (agent.sign hash)

end Custody

section Calls

abbrev Read (α : Type) := Except String α

structure BlockRef where
  number : Int
  timestamp : Int

structure GateIdentity where
  codehash : String
  domainSeparator : String

structure Funding where
  balance : Int
  allowance : Int

structure GateAttempt where
  artifact : GateArtifact
  principalSignature : String
  agentSignature : String

inductive Submission
  | sent (txHash : String)
  | unknown (error : String)

structure Receipt where
  success : Bool
  blockNumber : Int
  gasUsed : Int

inductive SignerCall
  | latest
  | gateIdentity
  | funding (token owner spender : String)
  | executionCommitmentOf (mandateDigest : Digest32)
  | simulate (call : GateAttempt)
  | submit (call : GateAttempt)
  | receipt (txHash : String)
  | readCommitted (principal : PrincipalId)
  | append (principal : PrincipalId) (expected : Stamp) (events : List LedgerEvent)
  | signMandate (custody : Custody) (artifact : GateArtifact) (terms : ArtifactTerms) (claim : GateClaim)
  | get (attempt : AttemptId)
  | opening (principal : PrincipalId) (attempt : AttemptId) (state : OpeningState) (artifact : Option Bytes)
      (detail : String)
  | transition (attempt : AttemptId) (target : IssuanceState) (detail : String) (venueRef : Option String)

abbrev SignerReply : SignerCall → Type
  | .latest => Read BlockRef
  | .gateIdentity => Read GateIdentity
  | .funding _ _ _ => Read Funding
  | .executionCommitmentOf _ => Read String
  | .simulate _ => Except String Unit
  | .submit _ => Submission
  | .receipt _ => Read Receipt
  | .readCommitted _ => LedgerSnapshot
  | .append _ _ _ => CommitResult
  | .signMandate _ _ _ _ => CustodyResult
  | .get _ => Option IssuanceRecord
  | .opening _ _ _ _ _ => Except JournalReason Unit
  | .transition _ _ _ _ => Except JournalReason Unit

abbrev SignerAnswer := Answer SignerCall SignerReply
abbrev SignerProgram (α : Type) := Program SignerCall SignerReply α

def ofLedger {α : Type} : LedgerProgram α → SignerProgram α
  | .done result => .done result
  | .failed => .failed
  | .read principal next => .call (.readCommitted principal) fun snapshot => ofLedger (next snapshot)
  | .append principal expected events next =>
    .call (.append principal expected events) fun result => ofLedger (next result)

def orThrow {α β : Type} (value : Option α) (next : α → SignerProgram β) : SignerProgram β :=
  match value with
  | none => .failed
  | some value => next value

end Calls

/-- A signer's slot scope is an identifier, or the ledger admits nothing for it. -/
structure GateSignerConfig where
  gate : ReviewedGate
  gateCodehash : String
  domainSeparator : String
  principal : PrincipalId
  principalAddress : String
  agentAddress : String
  adapter : AdapterRef
  policy : ModuleRef
  deadlineSeconds : Int
  retry : RetryPolicy
  lane : identifierText (slotScope gate.chainId gate.gate principalAddress) = true

def GateSignerConfig.scope (c : GateSignerConfig) : Identifier :=
  ⟨slotScope c.gate.chainId c.gate.gate c.principalAddress, c.lane⟩

structure GateSignerDeps where
  engine : ControlEngine
  custody : Custody
  agent : AgentSigner
  executeCalldata : GateAttempt → Bytes
  config : GateSignerConfig

structure IssueRequest where
  payload : Bytes
  states : List SuppliedState
  context : EvaluationContextInput

inductive IssueStage | resolve | evidence | construct | slot | admission | sign | journal | preflight

inductive IssueOutcome
  | issued (attempt : AttemptId) (mandateDigest commitment : Digest32) (txHash : String) (issuance : IssuanceState)
      (detail : String) (mined : Option (Int × Int))
  | existing (attempt : AttemptId) (issuance : Option IssuanceState)
  | refused (stage : IssueStage) (reason : String) (attemptAdmitted : Bool)

abbrev Step (α : Type) := Except (IssueStage × String) α

def stop {α : Type} (stage : IssueStage) (reason : String) : Step α := .error (stage, reason)

def orRefused {α : Type} (result : Step α) (next : α → SignerProgram IssueOutcome) : SignerProgram IssueOutcome :=
  match result with
  | .error (stage, reason) => .done (.refused stage reason false)
  | .ok value => next value

section Issue
variable [Keccak]

structure Intent where
  record : AuthorizationRecord
  action : DecodedBuy
  source : ArtifactSource
  market : ReviewedMarket

def sourceOf (record : AuthorizationRecord) : ArtifactSource where
  executionId := record.executionId
  authorizationId := record.id
  reservation := record.reservation
  generation := record.generation
  adapter := record.adapter
  evaluatedAt := record.evaluatedAt.1
  validUntil := record.validUntil

/-- Nothing about the action is taken from the request but the payload the authorization committed to. -/
def resolveIntent (c : GateSignerConfig) (record : AuthorizationRecord) (payload : Bytes) : Step Intent :=
  if !moduleRefsEqual record.module c.policy then stop .resolve "MODULE_NOT_THIS_POLICY"
  else if !adapterRefsEqual record.adapter c.adapter then stop .resolve "ADAPTER_NOT_THIS_SIGNER"
  else if record.principal ≠ c.principal then stop .resolve "PRINCIPAL_NOT_THIS_SIGNER"
  else if (actionPayloadDigest record.module payload).toOption ≠ some record.action.payloadDigest then
    stop .resolve "PAYLOAD_NOT_AUTHORIZED"
  else if record.action.actionType.1 ≠ ACTION_GATE_BUY then stop .resolve "ACTION_TYPE_NOT_GATE_BUY"
  else match decodeGateBuy payload with
    | none => stop .resolve "PAYLOAD_MALFORMED"
    | some action =>
      if accountAddressOf action.account.1 c.gate.chainId ≠ some c.principalAddress then
        stop .resolve "ACCOUNT_NOT_THIS_PRINCIPAL"
      else match (marketTokenOf action.market.1 c.gate.chainId).bind (reviewedMarketFor c.gate) with
        | none => stop .resolve "MARKET_NOT_ON_THIS_GATE"
        | some market => .ok ⟨record, action, sourceOf record, market⟩

structure Evidence where
  now : BlockRef
  credential : PreExecutionResult
  nonce : Int

def nextSlot (state : LedgerState) (scope : Identifier) : Int :=
  state.attempts.entries.foldl (fun high e => match e.2.admission.slot with
    | some slot => if slot.scope = scope ∧ high < slot.sequence then slot.sequence else high
    | none => high) 0 + 1

/-- Why the evidence is not enough, if it is not; a failing result is still handed on. -/
def credentialReason (d : GateSignerDeps) (identity : GateIdentity) (funding : Funding) (cost : Int) : Option String :=
  let c := d.config
  if identity.codehash ≠ c.gateCodehash then some "GATE_CODE_NOT_REVIEWED"
  else if identity.domainSeparator ≠ c.domainSeparator then some "GATE_DOMAIN_NOT_REVIEWED"
  else if d.custody.principal ≠ c.principalAddress then some "CUSTODY_NOT_PRINCIPAL"
  else if funding.allowance < cost then some "ALLOWANCE_INSUFFICIENT"
  else if funding.balance < cost then some "FUNDING_INSUFFICIENT"
  else none

def credentialOf (d : GateSignerDeps) (intent : Intent) (now : BlockRef) (identity : GateIdentity) (funding : Funding) :
    Option PreExecutionResult := do
  let cost ← buyCost intent.market intent.action.quantity
  let account ← accountResource d.config.gate.chainId d.config.principalAddress
  let evidence ← writeStr "robinhood-evm/v1/credential-evidence" ++ (writeU64 now.number ++
    (writeStr identity.codehash ++ (writeStr identity.domainSeparator ++ (writeStr d.custody.principal ++
      (writeU256 funding.allowance ++ (writeU256 funding.balance ++ writeU256 cost))))))
  let reason := credentialReason d identity funding cost
  some ⟨.credentialScope, account.1.localId.1, if reason.isNone then .pass else .fail,
    reason.getD "GATE_REVIEWED_AND_FUNDED", keccakDigest evidence⟩

def readEvidence (d : GateSignerDeps) (intent : Intent) : SignerProgram (Step Evidence) :=
  let c := d.config
  .call .latest fun now =>
  .call .gateIdentity fun identity =>
  .call (.funding intent.market.fundingToken c.principalAddress c.gate.gate) fun funding =>
  match now, identity, funding with
  | .error error, _, _ => .done (stop .evidence ("CHAIN_TIME_UNREADABLE." ++ error))
  | .ok _, .error error, _ => .done (stop .evidence ("GATE_UNREADABLE." ++ error))
  | .ok _, .ok _, .error error => .done (stop .evidence ("FUNDING_UNREADABLE." ++ error))
  | .ok now, .ok identity, .ok funding =>
    orThrow (credentialOf d intent now identity funding) fun credential =>
    .call (.readCommitted c.principal) fun committed =>
    .done (.ok ⟨now, credential, nextSlot committed.state c.scope⟩)

def termsFor (d : GateSignerDeps) (intent : Intent) (now nonce : Int) : Step ArtifactTerms :=
  let c := d.config
  let ceiling := intent.record.validUntil - 1
  let deadline := if now + c.deadlineSeconds < ceiling then now + c.deadlineSeconds else ceiling
  if deadline < now then stop .construct "AUTHORIZATION_LIFETIME_ENDED"
  else .ok ⟨c.gate, intent.market, c.principalAddress, c.agentAddress, intent.action.quantity, nonce, deadline⟩

def guard (intent : Intent) (terms : ArtifactTerms) (artifact : GateArtifact) : Option (Step GateArtifact) :=
  (checkGateArtifact artifact intent.source terms).map fun bad => match bad with
    | none => .ok artifact
    | some reason => stop .construct reason

def construct (intent : Intent) (terms : ArtifactTerms) : Option (Step GateArtifact) := do
  let artifact ← buildGateArtifact intent.source terms
  guard intent terms artifact

def ZERO32 : String := "0x" ++ String.ofList (List.replicate 64 '0')

def slotResult (scope : Identifier) (artifact : GateArtifact) (consumed : String) : Option PreExecutionResult := do
  let evidence ← writeStr "robinhood-evm/v1/slot-evidence" ++ (writeStr scope.1 ++
    (writeU64 artifact.mandate.nonce.toNat ++ (writeStr artifact.mandateDigest.toHex ++ writeStr consumed)))
  some (if consumed = ZERO32 then ⟨.nonceSlot, scope.1, .pass, "GATE_REPLAY_KEY_UNUSED", keccakDigest evidence⟩
    else ⟨.nonceSlot, scope.1, .fail, "MANDATE_ALREADY_CONSUMED", keccakDigest evidence⟩)

def checkSlot (c : GateSignerConfig) (artifact : GateArtifact) : SignerProgram (Step PreExecutionResult) :=
  .call (.executionCommitmentOf artifact.mandateDigest) fun consumed => match consumed with
  | .error error => .done (stop .slot ("REPLAY_KEY_UNREADABLE." ++ error))
  | .ok consumed => orThrow (slotResult c.scope artifact consumed) fun result => .done (.ok result)

/-- The gate refuses after the deadline: from the next second on nothing of the attempt can land. -/
def attemptRequest (c : GateSignerConfig) (intent : Intent) (request : IssueRequest) (artifact : GateArtifact)
    (evidence : Evidence) (slot : PreExecutionResult) : AttemptRequest where
  revalidation := ⟨some request.payload, request.states,
    { request.context with evaluationTime := .bigint evidence.now.timestamp }⟩
  adapter := c.adapter
  venueAccount := intent.action.account
  artifact := ⟨ARTIFACT_KIND, Digest32.bytes artifact.commitment⟩
  slot := some ⟨c.scope, artifact.mandate.nonce.toNat⟩
  validUntil := artifact.terms.deadline + 1
  requirements := [⟨.credentialScope, evidence.credential.subject⟩, ⟨.nonceSlot, c.scope.1⟩]
  results := [evidence.credential, slot]

def admitArtifact (d : GateSignerDeps) (intent : Intent) (request : IssueRequest) (artifact : GateArtifact)
    (evidence : Evidence) (slot : PreExecutionResult) : SignerProgram AttemptOutcome :=
  ofLedger (admitAttempt d.engine intent.record (attemptRequest d.config intent request artifact evidence slot)
    d.config.retry)

section Sign
variable [Secp256k1]

def signAdmitted (d : GateSignerDeps) (artifact : GateArtifact) (terms : ArtifactTerms) (attempt : AttemptAdmission) :
    SignerProgram (Step (String × String)) :=
  .call (.signMandate d.custody artifact terms
    ⟨attempt.attempt, attempt.reservation, attempt.generation, attempt.action⟩) fun signed =>
  match signed with
  | .error error => .done (stop .sign ("CUSTODY." ++ error))
  | .ok principal =>
    orThrow (principalSigningHash artifact) fun hash =>
    if recoverSigner hash principal ≠ some d.config.principalAddress then
      .done (stop .sign "PRINCIPAL_SIGNATURE_NOT_PRINCIPAL")
    else orThrow (d.agent.signExecution artifact) fun execution => match execution with
      | .error error => .done (stop .sign ("AGENT." ++ error))
      | .ok agent =>
        orThrow (agentSigningHash artifact) fun hash =>
        if recoverSigner hash agent ≠ some d.config.agentAddress then
          .done (stop .sign "AGENT_SIGNATURE_NOT_AGENT")
        else .done (.ok (principal, agent))

end Sign

section Submit
omit [Keccak]

/-- The record is read again after its transaction; neither is looked at where it is not given. -/
def openRecord (principal : PrincipalId) (attempt : AttemptId) (state : OpeningState) (artifact : Option Bytes)
    (detail : String) : SignerProgram (Except JournalReason (Option IssuanceRecord)) :=
  .call (.opening principal attempt state artifact detail) fun opened => match opened with
  | .error reason => .done (.error reason)
  | .ok _ => .call (.get attempt) fun record => .done (.ok record)

def moveRecord (attempt : AttemptId) (target : IssuanceState) (detail : String) (venueRef : Option String) :
    SignerProgram Unit :=
  .call (.transition attempt target detail venueRef) fun moved => match moved with
  | .error _ => .done ()
  | .ok _ => .call (.get attempt) fun _ => .done ()

def journalReasonText : JournalReason → String
  | .attemptNotAdmitted => "ATTEMPT_NOT_ADMITTED"
  | .alreadyRecorded => "ALREADY_RECORDED"
  | .notRecorded => "NOT_RECORDED"
  | .transitionForbidden => "TRANSITION_FORBIDDEN"

/-- A mined receipt confirms softly; nothing is consumed or released on it. -/
def settleReceipt (id : AttemptId) (a : GateArtifact) (txHash : String) : SignerProgram IssueOutcome :=
  .call (.receipt txHash) fun r => match r with
  | .error error => (moveRecord id .outcomeUnknown ("RECEIPT_" ++ String.ofList (error.toList.take 80)) (some txHash)).bind
      fun _ => .done (.issued id a.mandateDigest a.commitment txHash .outcomeUnknown error none)
  | .ok r =>
    let state : IssuanceState := if r.success then .submissionAcknowledged else .submissionRejected
    let detail := if r.success then "MINED_SUCCESS" else "MINED_REVERTED"
    (moveRecord id state detail (some txHash)).bind fun _ =>
      .done (.issued id a.mandateDigest a.commitment txHash state detail (some (r.blockNumber, r.gasUsed)))

def send (id : AttemptId) (call : GateAttempt) : SignerProgram IssueOutcome :=
  let a := call.artifact
  (moveRecord id .submissionSent "SENT" none).bind fun _ =>
  .call (.submit call) fun sent => match sent with
  | .unknown error =>
    (moveRecord id .outcomeUnknown ("SUBMISSION_" ++ String.ofList (error.toList.take 80)) none).bind fun _ =>
      .done (.issued id a.mandateDigest a.commitment "" .outcomeUnknown error none)
  | .sent txHash => settleReceipt id a txHash

/-- Signed but never broadcast, where the preflight reverts: nothing is released. -/
def submit (d : GateSignerDeps) (id : AttemptId) (call : GateAttempt) : SignerProgram IssueOutcome :=
  (openRecord d.config.principal id ⟨.artifactIssued, by decide⟩ (some (d.executeCalldata call)) "SIGNED").bind
    fun opened => match opened with
    | .error reason => .done (.refused .journal (journalReasonText reason) true)
    | .ok _ => .call (.simulate call) fun pre => match pre with
      | .error revert =>
        (moveRecord id .outcomeUnknown ("PREFLIGHT_REVERTED." ++ String.ofList (revert.toList.take 74)) none).bind
          fun _ => .done (.refused .preflight revert true)
      | .ok _ => send id call

/-- A generation with an attempt gets that attempt, with what the journal says of it. -/
def existingAttempt (id : AttemptId) : SignerProgram IssueOutcome :=
  .call (.get id) fun record => .done (.existing id (record.map (·.state)))

end Submit

variable [Secp256k1]

def issueAdmitted (d : GateSignerDeps) (artifact : GateArtifact) (terms : ArtifactTerms) (attempt : AttemptAdmission) :
    SignerProgram IssueOutcome :=
  (signAdmitted d artifact terms attempt).bind fun signed => match signed with
  | .ok (principal, agent) => submit d attempt.attempt ⟨artifact, principal, agent⟩
  | .error (_, reason) =>
    (openRecord d.config.principal attempt.attempt ⟨.outcomeUnknown, by decide⟩ none
      ("SIGN_FAILED." ++ String.ofList (reason.toList.take 80))).bind fun _ => .done (.refused .sign reason true)

def afterAdmission (d : GateSignerDeps) (artifact : GateArtifact) (terms : ArtifactTerms) :
    AttemptOutcome → SignerProgram IssueOutcome
  | .existing (some attempt) _ => existingAttempt attempt.admission.attempt
  | .existing none _ | .admitted none _ _ _ _ => .failed
  | .admitted (some attempt) _ _ _ _ => issueAdmitted d artifact terms attempt.admission
  | .refused r _ _ | .conflict r _ =>
    .done (.refused .admission (controlCodeText r.code ++ "." ++ r.reason) false)

def issueFresh (d : GateSignerDeps) (intent : Intent) (request : IssueRequest) (evidence : Evidence) :
    SignerProgram IssueOutcome :=
  orRefused (termsFor d intent evidence.now.timestamp evidence.nonce) fun terms =>
  orThrow (construct intent terms) fun artifact => orRefused artifact fun artifact =>
  (checkSlot d.config artifact).bind fun slot => orRefused slot fun slot =>
  (admitArtifact d intent request artifact evidence slot).bind (afterAdmission d artifact terms)

def issue (d : GateSignerDeps) (record : AuthorizationRecord) (request : IssueRequest) : SignerProgram IssueOutcome :=
  orRefused (resolveIntent d.config record request.payload) fun intent =>
  .call (.readCommitted d.config.principal) fun committed =>
  match (attemptsOf committed.state record.reservation).getLast? with
  | some id => existingAttempt id
  | none => (readEvidence d intent).bind fun evidence => orRefused evidence fun evidence =>
    issueFresh d intent request evidence

end Issue

section World
variable [Keccak] [Secp256k1]

/-- Who takes part: a signer that issues, anyone who hands custody something to sign, another adapter
that has an attempt admitted, and every other commit to a ledger, closings and new reservations among
them: only the engine commits admissions. -/
inductive GateUse
  | issuing (deps : GateSignerDeps) (record : AuthorizationRecord) (request : IssueRequest)
  | signing (custody : Custody) (artifact : GateArtifact) (terms : ArtifactTerms) (claim : GateClaim)
  | admission (engine : ControlEngine) (record : AuthorizationRecord) (request : AttemptRequest) (retry : RetryPolicy)
  | committing (principal : PrincipalId) (expected : Stamp) (events : List LedgerEvent)
      (quiet : ∀ time a, .admitAttempt time a ∉ events)

def GateUse.program : GateUse → SignerProgram Unit
  | .issuing deps record request => (issue deps record request).bind fun _ => .done ()
  | .signing custody artifact terms claim => .call (.signMandate custody artifact terms claim) fun _ => .done ()
  | .admission engine record request retry => (ofLedger (admitAttempt engine record request retry)).bind fun _ => .done ()
  | .committing principal expected events _ => .call (.append principal expected events) fun _ => .done ()

def GateUse.authorization : GateUse → Option AuthorizationRecord
  | .issuing _ record _ | .admission _ record _ _ => some record
  | .signing _ _ _ _ | .committing _ _ _ _ => none

/-- One database: the ledger's logs and the issuance journal beside them. -/
structure SignerStore where
  ledger : PrincipalId → PrincipalLog
  journal : IssuanceJournal

/-- What a call may be answered, and what it leaves. The chain may answer anything, and custody may
observe any clock, lifecycle and journal; the ledger it reads is the committed one. -/
def answers (rules : ReducerRules) : (request : SignerCall) → SignerStore → SignerReply request →
    SignerStore → Prop
  | .readCommitted principal, store, reply, after => reply = readLog principal (store.ledger principal) ∧ after = store
  | .append principal expected events, store, reply, after => ∃ fault published,
      compareAndAppend rules fault principal (store.ledger principal) expected events = (some reply, published) ∧
      after = { store with ledger := published.elim store.ledger (Function.update store.ledger principal) }
  | .signMandate custody artifact terms claim, store, reply, after => after = store ∧ ∃ issued lifecycle now,
      custody.signMandate ⟨(store.ledger custody.ledger).state, issued, lifecycle, now⟩ artifact terms claim = some reply
  | .get attempt, store, reply, after => reply = store.journal.records attempt ∧ after = store
  | .opening principal attempt state artifact detail, store, reply, after =>
      store.journal.opening ((store.ledger principal).state.attempts.lookup attempt).isSome attempt state artifact
        detail = some (reply, after.journal) ∧ after.ledger = store.ledger
  | .transition attempt target detail venueRef, store, reply, after =>
      store.journal.transition attempt target detail venueRef = some (reply, after.journal) ∧
        after.ledger = store.ledger
  | _, store, _, after => after = store

end World

end Mandate.Evm
