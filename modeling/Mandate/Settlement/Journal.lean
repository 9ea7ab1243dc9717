import Mandate.Core.Identifiers

/-! The send gate, which starts locked and opens once, from one of two surfaces, for one broadcast; and the
settlement journal: what one process did and saw of each settlement attempt, write-ahead. Every method of the
journal is one transaction of the database, so it is one step here. -/
set_option linter.dupNamespace false
namespace Mandate.Settlement
open Core List

inductive SettleMode | dryRun | send
deriving DecidableEq

def SEND_AUTHORIZATION_PHRASE : String := "AUTHORIZE ROBINHOOD TESTNET SEND"

def dropLineEnding (input : List Char) : List Char :=
  match input.reverse with
  | '\n' :: '\r' :: rest => rest.reverse
  | '\n' :: rest | '\r' :: rest => rest.reverse
  | _ => input

def isSendAuthorization (input : String) : Bool :=
  dropLineEnding input.toList == SEND_AUTHORIZATION_PHRASE.toList

inductive SendGateState | locked | authorized | consumed
deriving DecidableEq

inductive SendAuthorizationSource | operatorPhrase | browserIntent

structure SendGate where
  state : SendGateState
  source : Option SendAuthorizationSource

def SendGate.new : SendGate := ⟨.locked, none⟩

namespace SendGate

def authorize (gate : SendGate) (phrase : String) : Bool × SendGate :=
  if gate.state ≠ .locked then (false, gate)
  else if isSendAuthorization phrase = false then (false, gate)
  else (true, ⟨.authorized, some .operatorPhrase⟩)

def authorizeBrowserIntent (gate : SendGate) : Bool × SendGate :=
  if gate.state ≠ .locked then (false, gate) else (true, ⟨.authorized, some .browserIntent⟩)

def consume (gate : SendGate) : Bool × SendGate :=
  if gate.state ≠ .authorized then (false, gate) else (true, { gate with state := .consumed })

end SendGate

inductive AttemptState
  | prepared | submissionStarted | submitted | confirmedSuccess | confirmedRevert
  | reconciliationRequired | settled | consumed | released | preparationFailed
deriving DecidableEq

inductive Quarantine
  | ambiguousBroadcast | broadcastRejected | awaitingDeadline | postconditionAnomaly | executedOutsideAttempt
deriving DecidableEq

def TERMINAL_QUARANTINES : List Quarantine := [.postconditionAnomaly, .executedOutsideAttempt]

def NEXT : AttemptState → List AttemptState
  | .prepared => [.submissionStarted, .preparationFailed, .released, .reconciliationRequired]
  | .submissionStarted => [.submitted, .reconciliationRequired, .confirmedSuccess, .confirmedRevert, .released]
  | .submitted => [.confirmedSuccess, .confirmedRevert, .reconciliationRequired, .released]
  | .reconciliationRequired => [.submitted, .confirmedSuccess, .confirmedRevert, .released]
  | .confirmedSuccess => [.settled, .reconciliationRequired]
  | .confirmedRevert => [.released]
  | .settled => [.consumed]
  | .consumed | .released | .preparationFailed => []

structure AttemptBinding where
  reservation : ReservationId
  session : String
  proposal : Digest32
  candidate : Digest32
  child : Digest32
  action : Digest32
  agent : String
  version : Nat
  principal : String
  authorizationMethod : String
  chainId : Nat
  gate : String
  binding : Digest32
  evidenceClass : String

/-- The signed transaction, described: everything but the raw bytes. -/
structure TxEnvelope where
  hash : Digest32
  sender : String
  target : String
  nonce : Nat
  calldataDigest : Digest32
  gasLimit : Nat
  maxFeePerGas : Nat
deriving DecidableEq

structure ArtifactRecord where
  reservation : ReservationId
  mandateDigest : Digest32
  commitment : Digest32
  deadline : Int
  mode : SettleMode

structure SendArtifact where
  mandateDigest : Digest32
  commitment : Digest32
  deadline : Int

structure Before where
  block : Int
  tokenIn : Int
  tokenOut : Int
  agentTokenOut : Int

inductive ReceiptStatus | success | reverted
deriving DecidableEq

structure ReceiptFacts where
  status : ReceiptStatus
  blockNumber : Int
  blockHash : Digest32
  gasUsed : Int
  effectiveGasPrice : Int

structure AttemptRecord extends AttemptBinding where
  state : AttemptState
  quarantine : Option Quarantine
  domainOpenedAt : Option Int
  artifactDeadAfter : Option Int
  tx : Option TxEnvelope
  sendArtifact : Option SendArtifact
  before : Option Before
  receipt : Option ReceiptFacts
  postconditions : Option (List String)
  observation : Option Digest32
  revision : Nat

def isTerminal (a : AttemptRecord) : Bool :=
  match a.state with
  | .reconciliationRequired => match a.quarantine with
    | some quarantine => TERMINAL_QUARANTINES.contains quarantine
    | none => false
  | state => (NEXT state).isEmpty

inductive JournalRefusal
  | bindingMismatch (field : String) | transitionForbidden | notRecorded | alreadyBound

/-- The first field, in the record's order, on which the two differ. -/
def bindingMismatch (existing b : AttemptBinding) : Option String :=
  ([("reservation", existing.reservation == b.reservation), ("session", existing.session == b.session),
    ("proposal", existing.proposal == b.proposal), ("candidate", existing.candidate == b.candidate),
    ("child", existing.child == b.child), ("action", existing.action == b.action),
    ("agent", existing.agent == b.agent), ("version", existing.version == b.version),
    ("principal", existing.principal == b.principal),
    ("authorizationMethod", existing.authorizationMethod == b.authorizationMethod),
    ("chainId", existing.chainId == b.chainId), ("gate", existing.gate == b.gate),
    ("binding", existing.binding == b.binding),
    ("evidenceClass", existing.evidenceClass == b.evidenceClass)].find? fun field => !field.2).map (·.1)

theorem bindingMismatch_none {existing b : AttemptBinding} : bindingMismatch existing b = none ↔ existing = b := by
  constructor
  · intro matching
    cases existing
    cases b
    simp_all [bindingMismatch]
  · rintro rfl
    simp [bindingMismatch]

/-- Attempts in the order they were first written, artifacts in the order they were journaled. -/
structure SettlementJournal where
  attempts : List AttemptRecord
  artifacts : List ArtifactRecord

abbrev Journaled (α : Type) := Except JournalRefusal (α × SettlementJournal)

namespace SettlementJournal

def get (j : SettlementJournal) (reservation : ReservationId) : Option AttemptRecord :=
  j.attempts.find? fun a => a.reservation == reservation

def write (j : SettlementJournal) (a : AttemptRecord) : SettlementJournal :=
  if j.attempts.any fun other => other.reservation == a.reservation then
    { j with attempts := j.attempts.map fun other => if other.reservation = a.reservation then a else other }
  else { j with attempts := j.attempts ++ [a] }

def prepare (j : SettlementJournal) (b : AttemptBinding) : Journaled AttemptRecord :=
  match j.get b.reservation with
  | some existing => match bindingMismatch existing.toAttemptBinding b with
    | some field => .error (.bindingMismatch field)
    | none => .ok (existing, j)
  | none =>
    let a : AttemptRecord := ⟨b, .prepared, none, none, none, none, none, none, none, none, none, 1⟩
    .ok (a, j.write a)

def update (j : SettlementJournal) (reservation : ReservationId)
    (f : AttemptRecord → Except JournalRefusal AttemptRecord) : Journaled AttemptRecord :=
  match j.get reservation with
  | none => .error .notRecorded
  | some a =>
    if isTerminal a then .error .transitionForbidden
    else match f a with
      | .error refusal => .error refusal
      | .ok changed =>
        let next := { changed with revision := a.revision + 1 }
        if next.state ≠ a.state ∧ ¬(NEXT a.state).contains next.state then .error .transitionForbidden
        else .ok (next, j.write next)

/-- Before the send leg exists: this attempt never sends again from PREPARED. -/
def bindDomain (j : SettlementJournal) (reservation : ReservationId) (openedAt deadAfter : Int) :
    Journaled AttemptRecord :=
  j.update reservation fun a =>
    if a.state ≠ .prepared ∨ a.domainOpenedAt.isSome then .error .alreadyBound
    else .ok { a with domainOpenedAt := some openedAt, artifactDeadAfter := some deadAfter }

/-- Before an artifact leaves the process; a mandate digest that was journaled before changes nothing. -/
def recordArtifact (j : SettlementJournal) (x : ArtifactRecord) : SettlementJournal :=
  if j.artifacts.any fun other => other.mandateDigest == x.mandateDigest then j
  else
    let recorded := { j with artifacts := j.artifacts ++ [x] }
    match x.mode, j.get x.reservation with
    | .send, some a =>
      if a.sendArtifact.isNone then
        recorded.write { a with
          sendArtifact := some ⟨x.mandateDigest, x.commitment, x.deadline⟩, revision := a.revision + 1 }
      else recorded
    | _, _ => recorded

def artifactsOf (j : SettlementJournal) (reservation : ReservationId) : List ArtifactRecord :=
  j.artifacts.filter fun x => x.reservation == reservation

def startSubmission (j : SettlementJournal) (reservation : ReservationId) (tx : TxEnvelope) (before : Before) :
    Journaled AttemptRecord :=
  j.update reservation fun a => .ok { a with state := .submissionStarted, tx := some tx, before := some before }

/-- What a transition writes beside the state; what is absent is left as it was. -/
structure Patch where
  quarantine : Option Quarantine
  receipt : Option (Option ReceiptFacts)
  postconditions : Option (Option (List String))
  observation : Option (Option Digest32)

def Patch.none : Patch := ⟨Option.none, Option.none, Option.none, Option.none⟩

/-- Only RECONCILIATION_REQUIRED carries a reason: the one given, else the one it had. -/
def reasonAt (state : AttemptState) (given had : Option Quarantine) : Option Quarantine :=
  if state = .reconciliationRequired then some (given.getD (had.getD .ambiguousBroadcast)) else Option.none

def transition (j : SettlementJournal) (reservation : ReservationId) (state : AttemptState) (patch : Patch) :
    Journaled AttemptRecord :=
  j.update reservation fun a => .ok { a with
    state
    receipt := patch.receipt.getD a.receipt
    postconditions := patch.postconditions.getD a.postconditions
    observation := patch.observation.getD a.observation
    quarantine := reasonAt state patch.quarantine a.quarantine }

def requarantine (j : SettlementJournal) (reservation : ReservationId) (quarantine : Quarantine) :
    Journaled AttemptRecord :=
  j.update reservation fun a =>
    if a.state ≠ .reconciliationRequired ∨ isTerminal a then .error .transitionForbidden
    else .ok { a with quarantine := some quarantine }

variable {j after : SettlementJournal} {reservation other : ReservationId} {a : AttemptRecord}

theorem get_reservation (found : j.get reservation = some a) : a.reservation = reservation :=
  eq_of_beq (find?_some found :)

theorem get_write_self (j : SettlementJournal) (a : AttemptRecord) : (j.write a).get a.reservation = some a := by
  unfold write get
  split
  next known =>
    obtain ⟨was, listed, same⟩ := any_eq_true.mp known
    rw [find?_map]
    have found : j.attempts.find? ((fun b : AttemptRecord => b.reservation == a.reservation) ∘
        fun other => if other.reservation = a.reservation then a else other) ≠ none := by
      rw [Ne, find?_eq_none]
      intro absent
      have wrong := absent was listed
      simp [eq_of_beq same] at wrong
    obtain ⟨first, here⟩ := Option.ne_none_iff_exists'.mp found
    have matches_ := find?_some here
    rw [here, Option.map_some]
    congr 1
    by_cases same : first.reservation = a.reservation
    · rw [if_pos same]
    · simp [same] at matches_
  next fresh =>
    have absent : j.attempts.find? (fun b => b.reservation == a.reservation) = none := by
      rw [find?_eq_none]
      intro b listed same
      exact fresh (any_eq_true.mpr ⟨b, listed, same⟩)
    rw [find?_append, absent]
    simp

theorem get_write_other (j : SettlementJournal) (different : other ≠ a.reservation) :
    (j.write a).get other = j.get other := by
  unfold write get
  split
  · rw [find?_map]
    have same : ((fun b : AttemptRecord => b.reservation == other) ∘
        fun b => if b.reservation = a.reservation then a else b) = fun b => b.reservation == other := by
      funext b
      by_cases mine : b.reservation = a.reservation
      · simp [mine]
      · simp [mine]
    rw [same]
    cases found : j.attempts.find? fun b => b.reservation == other with
    | none => rfl
    | some b =>
      have there : b.reservation = other := eq_of_beq (find?_some found :)
      rw [Option.map_some, if_neg (there ▸ different)]
  · have absent : ¬a.reservation = other := fun same => different same.symm
    rw [find?_append]
    simp [absent]

theorem get_write (j : SettlementJournal) (a : AttemptRecord) (other : ReservationId) :
    (j.write a).get other = if other = a.reservation then some a else j.get other := by
  split
  next same => rw [same, get_write_self]
  next different => exact get_write_other j different

variable {next : AttemptRecord} {f : AttemptRecord → Except JournalRefusal AttemptRecord}

theorem update_ok (updated : j.update reservation f = .ok (next, after)) :
    ∃ a changed, j.get reservation = some a ∧ isTerminal a = false ∧ f a = .ok changed ∧
      next = { changed with revision := a.revision + 1 } ∧
      (changed.state = a.state ∨ changed.state ∈ NEXT a.state) ∧ after = j.write next := by
  unfold update at updated
  split at updated
  · cases updated
  next a found =>
    split at updated
    · cases updated
    next going =>
      split at updated
      · cases updated
      next changed made =>
        dsimp only at updated
        split at updated
        · cases updated
        next allowed =>
          obtain ⟨rfl, rfl⟩ := Prod.mk.inj (Except.ok.inj updated)
          refine ⟨a, changed, found, Bool.not_eq_true _ ▸ going, made, rfl, ?_, rfl⟩
          by_cases same : changed.state = a.state
          · exact .inl same
          · right
            by_contra outside
            exact allowed ⟨same, by simpa using outside⟩

theorem update_get (bound : ∀ {a changed}, f a = .ok changed → changed.toAttemptBinding = a.toAttemptBinding)
    (updated : j.update reservation f = .ok (next, after)) :
    ∃ a changed, j.get reservation = some a ∧ isTerminal a = false ∧ f a = .ok changed ∧
      next = { changed with revision := a.revision + 1 } ∧
      (changed.state = a.state ∨ changed.state ∈ NEXT a.state) ∧
      ∀ other, after.get other = if other = reservation then some next else j.get other := by
  obtain ⟨a, changed, found, going, made, rfl, allowed, rfl⟩ := update_ok updated
  refine ⟨a, changed, found, going, made, rfl, allowed, fun other => ?_⟩
  have same : changed.reservation = reservation := by
    rw [bound made]
    exact get_reservation found
  rw [get_write]
  dsimp only
  rw [same]

theorem bindDomain_get {openedAt deadAfter : Int}
    (bound : j.bindDomain reservation openedAt deadAfter = .ok (next, after)) :
    ∃ a, j.get reservation = some a ∧ a.state = .prepared ∧ a.domainOpenedAt = none ∧ next = { a with
        domainOpenedAt := some openedAt, artifactDeadAfter := some deadAfter, revision := a.revision + 1 } ∧
      ∀ other, after.get other = if other = reservation then some next else j.get other := by
  obtain ⟨a, changed, found, _, made, rfl, _, gets⟩ := update_get (fun {a changed} made => by
    split at made
    · cases made
    · rw [← Except.ok.inj made]) bound
  split at made
  · cases made
  next fresh =>
    obtain rfl := Except.ok.inj made
    simp only [not_or, not_not, Option.not_isSome_iff_eq_none] at fresh
    exact ⟨a, found, fresh.1, fresh.2, rfl, gets⟩

theorem startSubmission_get {tx : TxEnvelope} {before : Before}
    (started : j.startSubmission reservation tx before = .ok (next, after)) :
    ∃ a, j.get reservation = some a ∧ isTerminal a = false ∧
      (a.state = .submissionStarted ∨ a.state = .prepared) ∧ next = { a with
        state := .submissionStarted, tx := some tx, before := some before, revision := a.revision + 1 } ∧
      ∀ other, after.get other = if other = reservation then some next else j.get other := by
  obtain ⟨a, changed, found, going, made, rfl, allowed, gets⟩ :=
    update_get (fun {a changed} made => by rw [← Except.ok.inj made]) started
  obtain rfl := Except.ok.inj made
  refine ⟨a, found, going, ?_, rfl, gets⟩
  rcases allowed with same | next
  · exact .inl same.symm
  · cases state : a.state <;> simp [state, NEXT] at next ⊢

theorem transition_get {state : AttemptState} {patch : Patch}
    (moved : j.transition reservation state patch = .ok (next, after)) :
    ∃ a, j.get reservation = some a ∧ isTerminal a = false ∧ (state = a.state ∨ state ∈ NEXT a.state) ∧
      next = { a with
        state
        receipt := patch.receipt.getD a.receipt
        postconditions := patch.postconditions.getD a.postconditions
        observation := patch.observation.getD a.observation
        quarantine := reasonAt state patch.quarantine a.quarantine
        revision := a.revision + 1 } ∧
      ∀ other, after.get other = if other = reservation then some next else j.get other := by
  obtain ⟨a, changed, found, going, made, rfl, allowed, gets⟩ :=
    update_get (fun {a changed} made => by rw [← Except.ok.inj made]) moved
  obtain rfl := Except.ok.inj made
  exact ⟨a, found, going, allowed, rfl, gets⟩

theorem requarantine_get {quarantine : Quarantine}
    (changed : j.requarantine reservation quarantine = .ok (next, after)) :
    ∃ a, j.get reservation = some a ∧ isTerminal a = false ∧ a.state = .reconciliationRequired ∧
      next = { a with quarantine := some quarantine, revision := a.revision + 1 } ∧
      ∀ other, after.get other = if other = reservation then some next else j.get other := by
  obtain ⟨a, changed, found, going, made, rfl, _, gets⟩ := update_get (fun {a changed} made => by
    split at made
    · cases made
    · rw [← Except.ok.inj made]) changed
  split at made
  · cases made
  next held =>
    obtain rfl := Except.ok.inj made
    simp only [not_or, not_not] at held
    exact ⟨a, found, going, held.1, rfl, gets⟩

theorem prepare_get {b : AttemptBinding} (prepared : j.prepare b = .ok (next, after)) :
    (after = j ∧ j.get b.reservation = some next ∧ next.toAttemptBinding = b) ∨
      (j.get b.reservation = none ∧ next.state = .prepared ∧ next.domainOpenedAt = none ∧ next.tx = none ∧
        after = j.write next ∧ next.toAttemptBinding = b) := by
  unfold prepare at prepared
  split at prepared
  next existing found =>
    split at prepared
    · cases prepared
    next matching =>
      obtain ⟨rfl, rfl⟩ := Prod.mk.inj (Except.ok.inj prepared)
      exact .inl ⟨rfl, found, bindingMismatch_none.mp matching⟩
  next absent =>
    obtain ⟨rfl, rfl⟩ := Prod.mk.inj (Except.ok.inj prepared)
    exact .inr ⟨absent, rfl, rfl, rfl, rfl, rfl⟩

theorem recordArtifact_get (j : SettlementJournal) (x : ArtifactRecord) (other : ReservationId) :
    (j.recordArtifact x).get other = j.get other ∨
      ∃ a, j.get other = some a ∧ a.sendArtifact = none ∧ other = x.reservation ∧
        (j.recordArtifact x).get other = some { a with
          sendArtifact := some ⟨x.mandateDigest, x.commitment, x.deadline⟩, revision := a.revision + 1 } := by
  unfold recordArtifact
  split
  · exact .inl rfl
  · dsimp only
    split
    next a _ found =>
      split
      next unnamed =>
        rw [get_write]
        dsimp only
        rw [get_reservation found]
        by_cases same : other = x.reservation
        · subst same
          exact .inr ⟨a, found, Option.isNone_iff_eq_none.mp unnamed, rfl, if_pos rfl⟩
        · rw [if_neg same]
          exact .inl rfl
      · exact .inl rfl
    · exact .inl rfl

end SettlementJournal

end Mandate.Settlement
