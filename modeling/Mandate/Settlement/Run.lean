import Mandate.Settlement.Journal
import Mandate.Lib.Calls

/-! One settlement run: what it asks of the journal, the send gate, the portfolio ledger, its domain
leg and the chain, in order. Whatever it awaits or a process it shares a file with may come between
two calls, and it may crash before any of them. -/
set_option linter.dupNamespace false
namespace Mandate.Settlement
open Core Lib.Calls

abbrev Read (α : Type) := Except String α

structure Eligibility where
  condition : Nat
  reason : String

/-- The gate artifact a run signs and simulates, with what it is committed to. -/
structure GateArtifact where
  calldata : Digest32
  mandateDigest : Digest32
  commitment : Digest32
  deadline : Int

/-- A signed transaction; its target is the gate it was prepared for. -/
structure PreparedTx where
  envelope : TxEnvelope
  gate : String
  calldata : Digest32

inductive BroadcastResult
  | accepted (hash : Digest32)
  | error (reason : String)
deriving DecidableEq

inductive DomainAdmission
  | refused (stage reason : String)
  | existing
  | admitted (artifact : GateArtifact)

structure PrincipalAuthorization where
  method : String
  principal : String
  protocolSigner : String

structure FixtureSettlement where
  gate : String
  recipient : String
  agent : String
  tokenIn : String
  tokenOut : String
  quantity : Int
  debit : Int
  bindingDigest : Digest32
  actionNonce : Nat

structure AuthorizedExecution where
  version : Nat
  proposal : Digest32
  candidateDigest : Digest32
  child : Digest32
  action : Digest32
  reservation : ReservationId
  agent : String

structure Prepared where
  execution : AuthorizedExecution
  settlement : FixtureSettlement

structure RunOptions where
  mode : SettleMode
  gate : Nat
  journal : Bool
  walletGateExecution : Bool

structure SettlementEnv where
  self : Nat
  session : String
  transport : String
  liveProvider : Bool
  principal : String
  chainId : Nat
  authorization : Option PrincipalAuthorization
  mapToFixture : AuthorizedExecution → String → Option FixtureSettlement
  settlementBindingDigest : FixtureSettlement → Digest32
  checkCall : GateArtifact → FixtureSettlement → Int → Option String
  digestReceipt : Digest32 → ReceiptFacts → GateArtifact → Digest32 → Digest32

inductive SettleCall
  | submitted (self : Nat)
  | markSubmitted (self : Nat)
  | gateState (gate : Nat)
  | consumeGate (gate : Nat)
  | authorizeGate (gate : Nat) (phrase : String)
  | authorizeBrowserIntent (gate : Nat)
  | get (reservation : ReservationId)
  | all
  | artifacts (reservation : ReservationId)
  | prepare (binding : AttemptBinding)
  | bindDomain (reservation : ReservationId) (openedAt deadAfter : Int)
  | recordArtifact (artifact : ArtifactRecord)
  | startSubmission (reservation : ReservationId) (tx : TxEnvelope) (before : Before)
  | transition (reservation : ReservationId) (state : AttemptState) (patch : SettlementJournal.Patch)
  | requarantine (reservation : ReservationId) (quarantine : Quarantine)
  | refresh (self version : Nat)
  | eligibility (self : Nat) (execution : AuthorizedExecution) (binding : Digest32)
  | admittedFor (self : Nat) (reservation : ReservationId)
  | reverify (version : Nat)
  | admitSettlement (execution : AuthorizedExecution) (binding : Digest32)
  | account (version : Nat) (reservation : ReservationId) (observation : Digest32) (consume : Bool)
  | preflight
  | latest
  | gateMarkets
  | openDomainLeg (settlement : FixtureSettlement)
  | gateAuthority (settlement : FixtureSettlement)
  | admitDomain (settlement : FixtureSettlement)
  | signMandate (self : Nat) (execution : AuthorizedExecution) (settlement : FixtureSettlement) (artifact : GateArtifact)
  | openIssuance (artifact : GateArtifact)
  | chainId
  | simulateExecute (reservation : ReservationId) (artifact : GateArtifact)
  | estimateExecute (reservation : ReservationId) (artifact : GateArtifact)
  | balances (settlement : FixtureSettlement)
  | prepareExecute (gate : String) (artifact : GateArtifact) (gasLimit : Nat)
  | broadcast (reservation : ReservationId) (tx : PreparedTx)
  | transactionKnown (hash : Digest32)
  | receipt (hash : Digest32)
  | receiptOnce (hash : Digest32)
  | executionCommitmentOf (gate : String) (mandateDigest : Digest32) (block : Option Int)
  | balancesAt (settlement : FixtureSettlement) (block : Int)

structure BlockRef where
  number : Int
  timestamp : Int

abbrev SettleReply : SettleCall → Type
  | .submitted _ => Bool
  | .markSubmitted _ => Unit
  | .gateState _ => SendGateState
  | .consumeGate _ => Bool
  | .authorizeGate _ _ => Bool
  | .authorizeBrowserIntent _ => Bool
  | .get _ => Option AttemptRecord
  | .all => List AttemptRecord
  | .artifacts _ => List ArtifactRecord
  | .prepare _ => Except JournalRefusal AttemptRecord
  | .bindDomain _ _ _ => Except JournalRefusal AttemptRecord
  | .recordArtifact _ => Unit
  | .startSubmission _ _ _ => Except JournalRefusal AttemptRecord
  | .transition _ _ _ => Except JournalRefusal AttemptRecord
  | .requarantine _ _ => Except JournalRefusal AttemptRecord
  | .refresh _ _ => Unit
  | .eligibility _ _ _ => Option Eligibility
  | .admittedFor _ _ => Bool
  | .reverify _ => Read String
  | .admitSettlement _ _ => Read Bool
  | .account _ _ _ _ => Read Bool
  | .preflight => Bool
  | .latest => Read BlockRef
  | .gateMarkets => Read BlockRef
  | .openDomainLeg _ => Except (String × String) Unit
  | .gateAuthority _ => Except String Unit
  | .admitDomain _ => DomainAdmission
  | .signMandate _ _ _ _ => Except String Unit
  | .openIssuance _ => Except String Unit
  | .chainId => Read Nat
  | .simulateExecute _ _ => Read Unit
  | .estimateExecute _ _ => Read Nat
  | .balances _ => Option Before
  | .prepareExecute _ _ _ => Read PreparedTx
  | .broadcast _ _ => BroadcastResult
  | .transactionKnown _ => Read Bool
  | .receipt _ => Read ReceiptFacts
  | .receiptOnce _ => Read (Option ReceiptFacts)
  | .executionCommitmentOf _ _ _ => Read Digest32
  | .balancesAt _ _ => Read Int × Read Int × Read Int

abbrev SettleAnswer := Answer SettleCall SettleReply
abbrev SettleProgram (α : Type) := Program SettleCall SettleReply α

inductive SettlementOutcome
  | ineligible (stage reason : String)
  | preflightFailed
  | ready
  | refused (stage reason : String)
  | failed (txHash : Option Digest32) (reason : String)
  | submittedUnconfirmed (txHash : Digest32)
  | confirmed (txHash : Digest32) (failures : List String)

def orThrow {ε α β : Type} (result : Except ε α) (next : α → SettleProgram β) : SettleProgram β :=
  match result with
  | .error _ => .failed
  | .ok value => next value

def orIneligible {α : Type} (stage : String) (result : Except String α)
    (next : α → SettleProgram SettlementOutcome) : SettleProgram SettlementOutcome :=
  match result with
  | .error reason => .done (.ineligible stage reason)
  | .ok value => next value

def ROBINHOOD_TESTNET : Nat := 46630
def DRY_RUN_HALT : String := "DRY_RUN_HALT"
def SEND_NOT_AUTHORIZED : String := "SEND_NOT_AUTHORIZED"
def DOMAIN_AUTHORITY_SECONDS : Int := 900

section Chain
variable (e : SettlementEnv) (p : Prepared) (o : RunOptions)

abbrev Simulation := Except String Unit

def onArtifact {β : Type} (artifact : GateArtifact) (next : SettleProgram β) : SettleProgram β :=
  if o.journal then
    .call (.recordArtifact ⟨p.execution.reservation, artifact.mandateDigest, artifact.commitment,
      artifact.deadline, o.mode⟩) fun _ => next
  else next

/-- The gas of the call when it would pass; a dry run and a send whose gate is shut halt after that. -/
def simulate (artifact : GateArtifact) : SettleProgram (Simulation × Option Nat) :=
  .call .latest fun now => match now with
  | .error error => .done (.error ("CHAIN_TIME_UNREADABLE." ++ error), none)
  | .ok now => match e.checkCall artifact p.settlement now.timestamp with
    | some bad => .done (.error ("CALL_NOT_BOUND." ++ bad), none)
    | none => .call .chainId fun id =>
      if id.toOption ≠ some ROBINHOOD_TESTNET then .done (.error "WRONG_CHAIN", none)
      else onArtifact p o artifact (.call (.simulateExecute p.execution.reservation artifact) fun simulated =>
        match simulated with
        | .error revert => .done (.error ("ETH_CALL_REVERTED." ++ revert), none)
        | .ok _ => .call (.estimateExecute p.execution.reservation artifact) fun gas => match gas with
          | .error error => .done (.error ("ESTIMATE_FAILED." ++ error), none)
          | .ok gas =>
            if o.mode = .dryRun then .done (.error DRY_RUN_HALT, some gas)
            else .call (.gateState o.gate) fun state =>
              if state ≠ .authorized then .done (.error SEND_NOT_AUTHORIZED, some gas)
              else .done (.ok (), some gas))

inductive Submission
  | sent (txHash : Digest32)
  | unknown (error : String)

def onBroadcast (state : AttemptState) (quarantine : Option Quarantine) (result : Submission) :
    SettleProgram Submission :=
  .call (.transition p.execution.reservation state ⟨quarantine, none, none, none⟩) fun moved =>
    orThrow moved fun _ => .done result

/-- Asks the chain about this hash; nothing is signed or sent again. -/
def askKnown (hash : Digest32) (refusal : Quarantine) : Nat → SettleProgram Submission
  | 0 => onBroadcast p .reconciliationRequired (some refusal) (.unknown "BROADCAST_UNCONFIRMED")
  | tries + 1 => .call (.transactionKnown hash) fun known =>
    if known.toOption = some true then onBroadcast p .submitted none (.sent hash)
    else askKnown hash refusal tries

/-- An error the node itself gave is a rejection; any other answer leaves the broadcast open. -/
def refusalOf : BroadcastResult → Quarantine
  | .error reason => if "RPC_".toList.isPrefixOf reason.toList then .broadcastRejected else .ambiguousBroadcast
  | .accepted _ => .ambiguousBroadcast

/-- From the signed transaction on: the write-ahead, the one broadcast, and what came of it. -/
def broadcastOnce (tx : PreparedTx) (before : Before) : SettleProgram Submission :=
  .call (.markSubmitted e.self) fun _ =>
  .call (.startSubmission p.execution.reservation tx.envelope before) fun started => orThrow started fun _ =>
  .call (.broadcast p.execution.reservation tx) fun sent =>
    if sent = .accepted tx.envelope.hash then onBroadcast p .submitted none (.sent tx.envelope.hash)
    else askKnown p tx.envelope.hash (refusalOf sent) 3

/-- The hash the chain remembers of the transaction it prepared, the balances it read before, and what
became of the submission. -/
structure Submitted where
  prepared : Option PreparedTx
  before : Option Before
  broadcast : Bool
  submission : Submission

def notSent (before : Option Before) (error : String) : Submitted := ⟨none, before, false, .unknown error⟩

def submit (artifact : GateArtifact) (gas : Nat) : SettleProgram Submitted :=
  if o.mode ≠ .send then .done (notSent none "CALL_NOT_THE_SIMULATED_CALL")
  else .call (.consumeGate o.gate) fun opened =>
    if opened = false then .done (notSent none SEND_NOT_AUTHORIZED)
    else .call .chainId fun id =>
      if id.toOption ≠ some ROBINHOOD_TESTNET then .done (notSent none "WRONG_CHAIN")
      else .call (.balances p.settlement) fun before => match before with
        | none => .done (notSent none "PRE_BROADCAST_BALANCES_UNREADABLE")
        | some before => .call (.prepareExecute p.settlement.gate artifact (gas * 13 / 10)) fun prepared =>
          match prepared with
          | .error error => .done (notSent (some before) ("PREPARE." ++ error))
          | .ok tx =>
            if tx.gate ≠ p.settlement.gate then .done (notSent (some before) "PREPARED_TARGET_NOT_GATE")
            else (broadcastOnce e p tx before).bind fun submission =>
              .done ⟨some tx, some before, true, submission⟩

end Chain

section Finish
variable (e : SettlementEnv) (p : Prepared) (o : RunOptions)

/-- What the gate promised, as the chain holds it at the receipt's block. -/
def checkPostconditions (s : FixtureSettlement) (block : Int) (mandateDigest commitment : Digest32)
    (before : Option Before) : SettleProgram (List String) :=
  .call (.executionCommitmentOf s.gate mandateDigest (some block)) fun commit =>
  .call (.balancesAt s block) fun held =>
    let delta (after : Read Int) (was : Option Int) : Option Int := do some ((← after.toOption) - (← was))
    let failures := if commit.toOption = some commitment then [] else ["COMMITMENT_NOT_RECORDED"]
    let failures := failures ++ if delta held.1 (before.map (·.tokenIn)) = some (-s.debit) then []
      else ["PRINCIPAL_MDUSD_DELTA_NOT_DEBIT"]
    let failures := failures ++ if delta held.2.1 (before.map (·.tokenOut)) = some s.quantity then []
      else ["PRINCIPAL_MDEMO_DELTA_NOT_QUANTITY"]
    .done (failures ++ if delta held.2.2 (before.map (·.agentTokenOut)) = some 0 then [] else ["UNEXPECTED_RECIPIENT"])

def journalTo {β : Type} (state : AttemptState) (patch : SettlementJournal.Patch) (next : SettleProgram β) :
    SettleProgram β :=
  if o.journal then .call (.transition p.execution.reservation state patch) fun moved => orThrow moved fun _ => next
  else next

def receiptState : ReceiptStatus → AttemptState
  | .success => .confirmedSuccess
  | .reverted => .confirmedRevert

/-- A mined receipt is recorded, its postconditions are checked, and only then is anything consumed. -/
def settleMined (artifact : GateArtifact) (hash : Digest32) (receipt : ReceiptFacts) (before : Option Before) :
    SettleProgram SettlementOutcome :=
  let observation := e.digestReceipt hash receipt artifact p.settlement.bindingDigest
  journalTo p o (receiptState receipt.status) ⟨none, some (some receipt), none, some (some observation)⟩
    (if receipt.status ≠ .success then .done (.failed (some hash) "MINED_REVERTED")
    else (checkPostconditions p.settlement receipt.blockNumber artifact.mandateDigest artifact.commitment before).bind
      fun failures =>
        if failures ≠ [] then
          journalTo p o .reconciliationRequired ⟨some .postconditionAnomaly, none, some (some failures), none⟩
            (.done (.confirmed hash failures))
        else journalTo p o .settled ⟨none, none, some (some []), none⟩
          (.call (.account p.execution.version p.execution.reservation observation true) fun consumed =>
            match consumed with
            | .error _ => .done (.confirmed hash [])
            | .ok _ => journalTo p o .consumed .none (.done (.confirmed hash []))))

def finish (artifact : GateArtifact) (submitted : Submitted) : SettleProgram SettlementOutcome :=
  match submitted.broadcast, submitted.prepared with
  | true, some tx => .call (.receipt tx.envelope.hash) fun mined => match mined with
    | .error _ => .done (.submittedUnconfirmed tx.envelope.hash)
    | .ok receipt => .call .chainId fun _ =>
      settleMined e p o artifact tx.envelope.hash receipt submitted.before
  | _, _ => .done (.failed none "NOT_BROADCAST")

end Finish

section Run
variable (e : SettlementEnv) (p : Prepared) (o : RunOptions)

/-- Signed for, journaled in the domain leg, simulated, and only then submitted. -/
def issueAdmitted (artifact : GateArtifact) : SettleProgram SettlementOutcome :=
  .call (.signMandate e.self p.execution p.settlement artifact) fun signed => match signed with
  | .error reason => .done (.refused "SIGN" reason)
  | .ok _ => .call (.openIssuance artifact) fun opened => match opened with
    | .error reason => .done (.refused "JOURNAL" reason)
    | .ok _ => (simulate e p o artifact).bind fun simulated => match simulated with
      | (.error reason, gas) =>
        if reason = DRY_RUN_HALT ∧ o.mode = .dryRun ∧ gas.isSome then .done .ready
        else .done (.refused "PREFLIGHT" reason)
      | (.ok _, none) => .done (.refused "PREFLIGHT" "CALL_NOT_THE_SIMULATED_CALL")
      | (.ok _, some gas) => (submit e p o artifact gas).bind fun submitted => match submitted.submission with
        | .sent txHash => .call (.receipt txHash) fun _ => finish e p o artifact submitted
        | .unknown _ => finish e p o artifact submitted

def issue (presented : Bool) : SettleProgram SettlementOutcome :=
  let ready : SettleProgram SettlementOutcome :=
    .call (.refresh e.self p.execution.version) fun _ =>
    .call .gateMarkets fun fresh => orIneligible "DOMAIN" fresh fun _ =>
    .call (.admitDomain p.settlement) fun admitted => match admitted with
      | .refused stage reason => .done (.refused stage reason)
      | .existing => .done (.ineligible "DOMAIN" "ATTEMPT_ALREADY_EXISTS")
      | .admitted artifact => issueAdmitted e p o artifact
  if presented then
    .call (.gateAuthority p.settlement) fun authority => orIneligible "GATE_AUTHORITY" authority fun _ => ready
  else ready

/-- A send binds its attempt to the domain leg it is about to open, and never opens another. -/
def openLeg (presented : Bool) : SettleProgram SettlementOutcome :=
  .call .latest fun block => orIneligible "DOMAIN" block fun _ =>
  .call .gateMarkets fun states => orIneligible "DOMAIN" states fun states =>
    let opened : SettleProgram SettlementOutcome := .call (.openDomainLeg p.settlement) fun leg => match leg with
      | .error (stage, reason) => .done (.ineligible stage reason)
      | .ok _ => issue e p o presented
    if o.mode = .send ∧ o.journal then
      .call (.bindDomain p.execution.reservation states.timestamp
        (states.timestamp + DOMAIN_AUTHORITY_SECONDS + 60)) fun bound => orThrow bound fun _ => opened
    else opened

def bindingOf : AttemptBinding where
  reservation := p.execution.reservation
  session := e.session
  proposal := p.execution.proposal
  candidate := p.execution.candidateDigest
  child := p.execution.child
  action := p.execution.action
  agent := p.execution.agent
  version := p.execution.version
  principal := (e.authorization.map (·.principal)).getD "UNKNOWN"
  authorizationMethod := (e.authorization.map (·.method)).getD "UNKNOWN"
  chainId := e.chainId
  gate := p.settlement.gate
  binding := p.settlement.bindingDigest
  evidenceClass := e.transport

def journalReason : JournalRefusal → String
  | .bindingMismatch _ => "BINDING_MISMATCH"
  | .transitionForbidden => "TRANSITION_FORBIDDEN"
  | .notRecorded => "NOT_RECORDED"
  | .alreadyBound => "ALREADY_BOUND"

/-- From the journal's record of the attempt to the portfolio ledger's one attempt, before any key is used. -/
def admitAttempt (presented : Bool) : SettleProgram SettlementOutcome :=
  let admitted : SettleProgram SettlementOutcome :=
    .call (.admitSettlement p.execution p.settlement.bindingDigest) fun admitted =>
    orIneligible "PORTFOLIO_ATTEMPT" admitted fun _ =>
    .call .preflight fun passed => if passed then openLeg e p o presented else .done .preflightFailed
  if o.journal then
    .call (.prepare (bindingOf e p)) fun prepared => match prepared with
    | .error refusal => .done (.ineligible "JOURNAL" (journalReason refusal))
    | .ok _ => admitted
  else admitted

def WALLET_METHODS : List String := ["WALLET_PRINCIPAL_V2", "WALLET_PRINCIPAL_V2_PLAN"]

/-- A wallet's own authorization is checked again; whether it must also sign for the gate. -/
def reverified (next : Bool → SettleProgram SettlementOutcome) : SettleProgram SettlementOutcome :=
  if WALLET_METHODS.contains ((e.authorization.map (·.method)).getD "") then
    .call (.reverify p.execution.version) fun check => orIneligible "PRINCIPAL" check fun principal =>
      let presented := principal.toLower ≠ e.principal.toLower
      if presented ∧ o.walletGateExecution = false then .done (.ineligible "PRINCIPAL" "CUSTODY_PRINCIPAL_MISMATCH")
      else if presented ∧ p.settlement.recipient.toLower ≠ principal.toLower then
        .done (.ineligible "GATE_AUTHORITY" "GATE_EXECUTION_RECIPIENT_MISMATCH")
      else next presented
  else next false

/-- The settlement must be exactly the fixture's derivation from this execution. -/
def derived : Bool :=
  match e.mapToFixture p.execution p.settlement.recipient with
  | none => false
  | some again => again.bindingDigest = p.settlement.bindingDigest ∧
      e.settlementBindingDigest p.settlement = p.settlement.bindingDigest ∧
      again.actionNonce = p.settlement.actionNonce

/-- Past PREPARED, or with a send leg already opened, an attempt is only ever reconciled. -/
def settleExisting (existing : Option AttemptRecord) : SettleProgram SettlementOutcome :=
  if existing.any fun a => a.state ≠ .prepared then .done (.ineligible "JOURNAL" "ATTEMPT_RECONCILE_ONLY")
  else if existing.any fun a => a.domainOpenedAt.isSome then
    .done (.ineligible "JOURNAL" "SEND_LEG_ALREADY_OPENED_RECONCILE_ONLY")
  else
    .call (.refresh e.self p.execution.version) fun _ =>
    .call (.eligibility e.self p.execution p.settlement.bindingDigest) fun refusal => match refusal with
    | some refusal => .done (.ineligible "ELIGIBILITY" refusal.reason)
    | none =>
      let bound : SettleProgram SettlementOutcome :=
        if derived e p = false then .done (.ineligible "FIXTURE" "SETTLEMENT_NOT_DERIVED_FROM_EXECUTION")
        else reverified e p o (admitAttempt e p o)
      if o.mode = .send ∧ existing.isNone then
        .call (.admittedFor e.self p.execution.reservation) fun admitted =>
          if admitted then .done (.ineligible "JOURNAL" "PORTFOLIO_ATTEMPT_WITHOUT_JOURNAL_RECORD") else bound
      else bound

def existingAttempt : SettleProgram SettlementOutcome :=
  if o.journal then .call (.get p.execution.reservation) (settleExisting e p o) else settleExisting e p o none

def SEND_METHODS : List String := "DEMO_PRINCIPAL_KEY" :: WALLET_METHODS

/-- A dry run never broadcasts; a send refuses before it builds anything unless its gate is open. -/
def run : SettleProgram SettlementOutcome :=
  if o.mode = .send then
    .call (.submitted e.self) fun submitted =>
    if submitted then .done (.ineligible "SEND_GATE" "ALREADY_SUBMITTED_IN_THIS_SESSION")
    else if o.journal = false then .done (.ineligible "JOURNAL" "DURABLE_JOURNAL_REQUIRED_FOR_SEND")
    else if SEND_METHODS.contains ((e.authorization.map (·.method)).getD "") = false then
      .done (.ineligible "PRINCIPAL" "WALLET_PRINCIPAL_NOT_DELEGATED_TO_DOMAIN")
    else .call (.gateState o.gate) fun state =>
      if state ≠ .authorized then .done (.ineligible "SEND_GATE" SEND_NOT_AUTHORIZED)
      else if e.transport = "ROBINHOOD_TESTNET_RPC" ∧ e.liveProvider = false then
        .done (.ineligible "SEND_GATE" "LIVE_MODEL_REQUIRED_FOR_TESTNET_SEND")
      else existingAttempt e p o
  else existingAttempt e p o

end Run

end Mandate.Settlement
