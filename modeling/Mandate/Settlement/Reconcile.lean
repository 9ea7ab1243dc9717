import Mandate.Settlement.Run

/-! Restart reconciliation: every attempt is judged from chain evidence over a reader that cannot send,
and what the evidence proves is written to the portfolio ledger first and to the journal after it. -/
set_option linter.dupNamespace false
namespace Mandate.Settlement
open Core

def ZERO32 : Digest32 := 0

inductive ReconcileOutcome
  | confirmedSuccess | confirmedRevert | stillPending | neverSubmitted | ambiguous
  | nothingToDo | evidenceMissing

structure ChainEvidence where
  chainTime : Read Int
  receipt : Read (Option ReceiptFacts)
  txKnown : Read Bool
  commitments : List (Digest32 × Read Digest32)

inductive AmbiguousReason
  | receiptUnreadable | transactionUnreadable | commitmentUnreadable | executedOutsideAttempt
  | chainTimeUnreadable | awaitingDeadline
deriving DecidableEq

inductive Judgement
  | confirmed (receipt : ReceiptFacts)
  | stillPending
  | neverSubmitted
  | ambiguous (reason : AmbiguousReason)

/-- The latest chain time at which any artifact of the attempt could still execute. -/
def deadOnlyAfter (a : AttemptRecord) (artifacts : List ArtifactRecord) : Option Int :=
  (artifacts.map (·.deadline) ++ a.artifactDeadAfter.toList).max?

/-- The first artifact the gate has a commitment for, or whose commitment was not read. -/
def judgeCommitments (ev : ChainEvidence) : List ArtifactRecord → Option AmbiguousReason
  | [] => none
  | x :: rest => match ev.commitments.lookup x.mandateDigest with
    | some (.ok commitment) => if commitment ≠ ZERO32 then some .executedOutsideAttempt else judgeCommitments ev rest
    | some (.error _) | none => some .commitmentUnreadable

def judgeArtifacts (a : AttemptRecord) (artifacts : List ArtifactRecord) (ev : ChainEvidence) : Judgement :=
  match judgeCommitments ev artifacts with
  | some reason => .ambiguous reason
  | none => match deadOnlyAfter a artifacts with
    | none => .neverSubmitted
    | some dead => match ev.chainTime with
      | .error _ => .ambiguous .chainTimeUnreadable
      | .ok time => if dead < time then .neverSubmitted else .ambiguous .awaitingDeadline

/-- What the evidence proves of one attempt's transaction and artifacts. -/
def judge (a : AttemptRecord) (artifacts : List ArtifactRecord) (ev : ChainEvidence) : Judgement :=
  if a.tx.isNone then judgeArtifacts a artifacts ev
  else match ev.receipt with
    | .error _ => .ambiguous .receiptUnreadable
    | .ok (some receipt) => .confirmed receipt
    | .ok none => match ev.txKnown with
      | .error _ => .ambiguous .transactionUnreadable
      | .ok true => .stillPending
      | .ok false => judgeArtifacts a artifacts ev

def outcomeOf : Judgement → ReconcileOutcome
  | .confirmed receipt => if receipt.status = .success then .confirmedSuccess else .confirmedRevert
  | .stillPending => .stillPending
  | .neverSubmitted => .neverSubmitted
  | .ambiguous _ => .ambiguous

/-- The restored session and the pure functions a pass applies: the settlement the attempt is bound to,
when the session still holds the execution it was made for, and the digests it names as evidence. -/
structure ReconcileDeps where
  settlementOf : AttemptRecord → Option FixtureSettlement
  digestReceipt : Digest32 → ReceiptFacts → SendArtifact → Digest32 → Digest32
  noExecutionObservation : AttemptRecord → List ArtifactRecord → Int → Digest32

structure ReconcileReport where
  reservation : ReservationId
  before : AttemptState
  after : AttemptState
  outcome : ReconcileOutcome

section Evidence

/-- Each commitment at the block whose time decides whether its artifact is dead. -/
def readCommitments (gate : String) (block : Option Int) :
    List ArtifactRecord → SettleProgram (List (Digest32 × Read Digest32))
  | [] => .done []
  | x :: rest => .call (.executionCommitmentOf gate x.mandateDigest block) fun commitment =>
    (readCommitments gate block rest).bind fun read => .done ((x.mandateDigest, commitment) :: read)

/-- The receipt of a transaction that was signed, and whether the node knows its hash. -/
def readTransaction (tx : Option TxEnvelope) : SettleProgram (Read (Option ReceiptFacts) × Read Bool) :=
  match tx with
  | none => .done (.ok none, .ok false)
  | some tx => .call (.receiptOnce tx.hash) fun receipt => match receipt with
    | .ok none => .call (.transactionKnown tx.hash) fun known => .done (.ok none, known)
    | _ => .done (receipt, .ok false)

def gatherEvidence (a : AttemptRecord) (artifacts : List ArtifactRecord) : SettleProgram ChainEvidence :=
  .call .latest fun latest =>
  (readTransaction a.tx).bind fun (receipt, known) =>
  (readCommitments a.gate (latest.toOption.map (·.number)) artifacts).bind fun commitments =>
    .done ⟨latest.map (·.timestamp), receipt, known, commitments⟩

end Evidence

section Pass
variable (d : ReconcileDeps) (s : FixtureSettlement) (artifacts : List ArtifactRecord)

def moved {β : Type} (a : AttemptRecord) (state : AttemptState) (patch : SettlementJournal.Patch)
    (next : AttemptRecord → SettleProgram β) : SettleProgram β :=
  .call (.transition a.reservation state patch) fun moved => orThrow moved next

/-- The ledger first; the journal says so only when the ledger has it. -/
def release (a : AttemptRecord) (ev : ChainEvidence) : SettleProgram AttemptRecord :=
  let chainTime := match ev.chainTime with
    | .ok time => time
    | .error _ => 0
  .call (.account a.version a.reservation (d.noExecutionObservation a artifacts chainTime) false) fun released =>
    match released with
    | .ok _ => moved a .released .none .done
    | .error _ => .done a

def undecided (a : AttemptRecord) : Bool :=
  a.state = .submissionStarted ∨ a.state = .submitted ∨ (a.state = .reconciliationRequired ∧ isTerminal a = false) ∨
    (a.state = .prepared ∧ a.domainOpenedAt.isSome)

/-- An attempt the evidence leaves open is held for the reason it gives. -/
def hold (a : AttemptRecord) (reason : AmbiguousReason) : SettleProgram AttemptRecord :=
  if reason = .executedOutsideAttempt then
    moved a .reconciliationRequired ⟨some .executedOutsideAttempt, none, none, none⟩ .done
  else if a.state ≠ .reconciliationRequired then
    moved a .reconciliationRequired
      ⟨some (if reason = .awaitingDeadline then .awaitingDeadline else .ambiguousBroadcast), none, none, none⟩ .done
  else if a.quarantine ≠ some .awaitingDeadline ∧ reason = .awaitingDeadline then
    .call (.requarantine a.reservation .awaitingDeadline) fun changed => orThrow changed .done
  else .done a

def locate (a : AttemptRecord) (ev : ChainEvidence) : SettleProgram AttemptRecord :=
  match judge a artifacts ev with
  | .confirmed receipt =>
    let observation := do
      let tx ← a.tx
      let artifact ← a.sendArtifact
      some (d.digestReceipt tx.hash receipt artifact s.bindingDigest)
    moved a (receiptState receipt.status) ⟨none, some (some receipt), none, some observation⟩ .done
  | .stillPending =>
    if a.state = .submissionStarted ∨ a.state = .reconciliationRequired then moved a .submitted .none .done else .done a
  | .neverSubmitted => release d artifacts a ev
  | .ambiguous reason => hold a reason

def settleConfirmed (a : AttemptRecord) : SettleProgram AttemptRecord :=
  if a.state ≠ .confirmedSuccess then .done a
  else match a.receipt, a.sendArtifact with
    | some receipt, some artifact =>
      (checkPostconditions s receipt.blockNumber artifact.mandateDigest artifact.commitment a.before).bind fun failures =>
        if failures = [] then moved a .settled ⟨none, none, some (some []), none⟩ .done
        else moved a .reconciliationRequired ⟨some .postconditionAnomaly, none, some (some failures), none⟩ .done
    | _, _ => .done a

def consumeSettled (a : AttemptRecord) : SettleProgram AttemptRecord :=
  if a.state ≠ .settled then .done a
  else .call (.account a.version a.reservation (a.observation.getD ZERO32) true) fun consumed => match consumed with
    | .ok _ => moved a .consumed .none .done
    | .error _ => .done a

/-- A confirmed revert releases only once nothing can execute any more. -/
def releaseReverted (a : AttemptRecord) : SettleProgram AttemptRecord :=
  if a.state ≠ .confirmedRevert then .done a
  else (gatherEvidence { a with tx := none } artifacts).bind fun ev =>
    match judge { a with tx := none } artifacts ev with
    | .neverSubmitted => release d artifacts a ev
    | _ => .done a

end Pass

def reconcileOne (d : ReconcileDeps) (first : AttemptRecord) : SettleProgram ReconcileReport :=
  match d.settlementOf first with
  | none => .done ⟨first.reservation, first.state, first.state, .evidenceMissing⟩
  | some s => .call (.artifacts first.reservation) fun artifacts =>
    let located : SettleProgram (AttemptRecord × ReconcileOutcome) :=
      if undecided first then
        (gatherEvidence first artifacts).bind fun ev =>
        (locate d s artifacts first ev).bind fun a => .done (a, outcomeOf (judge first artifacts ev))
      else .done (first, .nothingToDo)
    located.bind fun (a, outcome) =>
    (settleConfirmed s a).bind fun a =>
    (consumeSettled a).bind fun a =>
    (releaseReverted d artifacts a).bind fun a =>
      .done ⟨a.reservation, first.state, a.state, outcome⟩

def reconcileEach (d : ReconcileDeps) : List AttemptRecord → SettleProgram (List ReconcileReport)
  | [] => .done []
  | first :: rest => (reconcileOne d first).bind fun report =>
    (reconcileEach d rest).bind fun reports => .done (report :: reports)

def reconcileAttempts (d : ReconcileDeps) : SettleProgram (List ReconcileReport) :=
  .call .all (reconcileEach d)

end Mandate.Settlement
