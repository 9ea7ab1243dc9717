import Mandate.Ledger.Charging

/-! Ledger events and the hash-chained batch: one constructor an event, one wire kind a form
of encoding, and a decoder that checks structure only. -/
namespace Mandate.Ledger
open Core Lib.Wire

structure EventLeg where
  target : TargetRef
  amount : Int
  epoch : Option Int
deriving DecidableEq

/-- `evidence` names the observation this is the effect of; amounts are by contribution. -/
structure AccountingEvent where
  time : Int
  reservation : ReservationId
  generation : ReservationGeneration
  evidence : ObservationId
  amounts : List Int

inductive LedgerEvent
  | registerPolicy (time : Int) (policy : PrincipalPolicy) (proofs : List SemanticProofRef)
      (bindings : List SemanticTermBinding)
  | registerGrant (time : Int) (grant : AuthorityGrant) (proofs : List SemanticProofRef)
      (bindings : List SemanticTermBinding)
  | revoke (time : Int) (revocation : Revocation)
  | reserve (time : Int) (plan : ChargePlan) (lineage : List AuthorityId)
      (policy : PrincipalPolicyId) (legs : List (List EventLeg))
  | consume (event : AccountingEvent)
  | close (event : AccountingEvent)
  | restore (event : AccountingEvent)
  | admitAttempt (time : Int) (admission : AttemptAdmission)

def LedgerEvent.time : LedgerEvent → Int
  | .registerPolicy time _ _ _ => time
  | .registerGrant time _ _ _ => time
  | .revoke time _ => time
  | .reserve time _ _ _ _ => time
  | .consume event => event.time
  | .close event => event.time
  | .restore event => event.time
  | .admitAttempt time _ => time

/-- Every event, and the proof-carrying and binding-carrying forms of the registrations. -/
inductive WireKind
  | registerPolicy | registerGrant | revoke | reserve | consume | close | restore
  | registerPolicyProven | registerGrantProven | registerPolicyBound | registerGrantBound
  | admitAttempt

def EVENT_CODE : WireCodes WireKind where
  keys := [.registerPolicy, .registerGrant, .revoke, .reserve, .consume, .close, .restore,
    .registerPolicyProven, .registerGrantProven, .registerPolicyBound, .registerGrantBound, .admitAttempt]
  code
    | .registerPolicy => 1 | .registerGrant => 2 | .revoke => 3 | .reserve => 4 | .consume => 5
    | .close => 6 | .restore => 7 | .registerPolicyProven => 8 | .registerGrantProven => 9
    | .registerPolicyBound => 10 | .registerGrantBound => 11 | .admitAttempt => 12
  width key := by cases key <;> decide
  unique key := by cases key <;> rfl

def wireKind : LedgerEvent → WireKind
  | .registerPolicy _ _ proofs bindings =>
    if bindings ≠ [] then .registerPolicyBound
    else if proofs ≠ [] then .registerPolicyProven else .registerPolicy
  | .registerGrant _ _ proofs bindings =>
    if bindings ≠ [] then .registerGrantBound
    else if proofs ≠ [] then .registerGrantProven else .registerGrant
  | .revoke _ _ => .revoke
  | .reserve _ _ _ _ _ => .reserve
  | .consume _ => .consume
  | .close _ => .close
  | .restore _ => .restore
  | .admitAttempt _ _ => .admitAttempt

def writeSemantics (bindings : List SemanticTermBinding) (proofs : List SemanticProofRef) : Writer :=
  if bindings ≠ [] then writeList writeScoped bindings ++ writeList writeScoped proofs
  else if proofs ≠ [] then writeList writeScoped proofs
  else Writer.raw []

def writeLeg (leg : EventLeg) : Writer :=
  writeTargetRef leg.target ++ (writeU256 leg.amount ++ writeNullable writeU64 leg.epoch)

def writeAccounting (e : AccountingEvent) : Writer :=
  writeDigest e.reservation ++ (writeU64 e.generation.1 ++ (writeDigest e.evidence ++
    writeList writeU256 e.amounts))

def writePayload : LedgerEvent → Writer
  | .registerPolicy _ policy proofs bindings =>
    writeSegment (encodePrincipalPolicy policy) ++ writeSemantics bindings proofs
  | .registerGrant _ grant proofs bindings =>
    writeSegment (encodeAuthorityGrant grant) ++ writeSemantics bindings proofs
  | .revoke _ revocation => writeSegment (encodeRevocation revocation)
  | .reserve _ plan lineage policy legs =>
    writeChargePlan plan ++ (writeList writeDigest lineage ++ (writeDigest policy ++
      writeList (writeList writeLeg) legs))
  | .consume event => writeAccounting event
  | .close event => writeAccounting event
  | .restore event => writeAccounting event
  | .admitAttempt _ admission => writeAttemptAdmission admission

def writeEventBody (e : LedgerEvent) : Writer :=
  writeCode EVENT_CODE (wireKind e) ++ (writeI64 e.time ++ writePayload e)

def batchWriter (principal : PrincipalId) (version : Nat) (previousHead : LedgerHeadDigest)
    (events : List LedgerEvent) : Writer :=
  writeParty principal ++ (writeU64 version ++ (writeDigest previousHead ++ writeList writeEventBody events))

def encodeBatch (principal : PrincipalId) (version : Nat) (previousHead : LedgerHeadDigest)
    (events : List LedgerEvent) : Writer :=
  ledgerWriter LedgerTag.LEDGER_BATCH ++ batchWriter principal version previousHead events

def batchHead [Keccak] (encodedBatch : Bytes) : LedgerHeadDigest := keccakDigest encodedBatch

end Mandate.Ledger
