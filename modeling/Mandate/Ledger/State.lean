import Mandate.Ledger.Attempt
import Mandate.Lib.Table

/-! The derived ledger state of one principal: nodes, targets, reservations, actions and
attempts, what a target has available, and the one encoding of a whole state. -/
namespace Mandate.Ledger
open Core Lib.Wire Lib.Table

structure NodeRecord where
  id : AuthorityId
  grant : AuthorityGrant
  depth : Nat
  bindings : List SemanticTermBinding
  registeredAt : Nat
  revokedAt : Option Nat
  revocation : Option RevocationId

inductive CapacitySource | grant | policy

structure EpochConsumed where
  epoch : Int
  atoms : Int

structure TargetBalance where
  ref : TargetRef
  source : CapacitySource
  dimension : LedgerDimensionTerm
  current : Bool
  reserved : Int
  consumed : Int
  restored : Int
  epochConsumed : Option EpochConsumed

/-- A node's dimension by name; a policy dimension by its identity, so that it outlives a policy. -/
inductive TargetKey
  | node (authority : AuthorityId) (dimensionId : DimensionId)
  | policy (identity : Digest32)
deriving DecidableEq

structure LegRecord where
  key : TargetKey
  ref : TargetRef
  decimals : Decimals
  capacity : Bool
  epoch : Option Int

/-- At the contribution's decimals; every leg of the demand moves by the same amounts. -/
structure DemandRecord where
  contribution : Contribution
  legs : List LegRecord
  reserved : Int
  consumed : Int
  released : Int
  restored : Int

inductive ReservationStatus | active | closed
deriving DecidableEq

structure ReservationRecord where
  id : ReservationId
  action : ActionId
  generation : ReservationGeneration
  authority : AuthorityId
  lineage : List AuthorityId
  policy : PrincipalPolicyId
  module : ModuleRef
  implementation : ImplementationDigest
  committedAt : Nat
  reservedAt : Int
  status : ReservationStatus
  demands : List DemandRecord

structure ActionRecord where
  lastGeneration : ReservationGeneration
  openReservation : Option ReservationId

structure PolicyRecord where
  id : PrincipalPolicyId
  policy : PrincipalPolicy
  bindings : List SemanticTermBinding
  registeredAt : Nat

abbrev Targets := PMap TargetKey TargetBalance

structure LedgerState where
  principal : PrincipalId
  version : Nat
  head : LedgerHeadDigest
  lastAt : Option Int
  policy : Option PolicyRecord
  everReserved : Bool
  nodes : PMap AuthorityId NodeRecord
  targets : Targets
  reservations : PMap ReservationId ReservationRecord
  actions : PMap ActionId ActionRecord
  attempts : PMap AttemptId AttemptRecord
  attemptArtifacts : PMap ArtifactIdentity AttemptId
  attemptSlots : PMap VenueSlot AttemptId
  reservationAttempts : PMap ReservationId (List AttemptId)

def genesisHead [Keccak] (principal : PrincipalId) : LedgerHeadDigest :=
  ledgerDigest (ledgerWriter LedgerTag.LEDGER_GENESIS ++ writeParty principal)

def emptyLedgerState [Keccak] (principal : PrincipalId) : LedgerState where
  principal := principal
  version := 0
  head := genesisHead principal
  lastAt := none
  policy := none
  everReserved := false
  nodes := ∅
  targets := ∅
  reservations := ∅
  actions := ∅
  attempts := ∅
  attemptArtifacts := ∅
  attemptSlots := ∅
  reservationAttempts := ∅

def kindText : QuantityKind → String
  | .tokenAmount => "TOKEN_AMOUNT"
  | .capital => "CAPITAL"
  | .positionSize => "POSITION_SIZE"
  | .notional => "NOTIONAL"
  | .grossExposure => "GROSS_EXPOSURE"
  | .netExposure => "NET_EXPOSURE"
  | .margin => "MARGIN"
  | .collateral => "COLLATERAL"
  | .debt => "DEBT"
  | .pnl => "PNL"
  | .count => "COUNT"

def accountingText : Accounting → String
  | .budget => "BUDGET"
  | .capacity => "CAPACITY"

def restorationText : Restoration → String
  | .none => "NONE"
  | .epoch => "EPOCH"
  | .asCharged => "AS_CHARGED"
  | .units => "UNITS"

def signText : SignMode → String
  | .unsigned => "UNSIGNED"
  | .net => "NET"

def writeIdentityEpoch (e : Epoch) : Writer := writeI64 e.anchor.1 ++ writeU64 e.lengthSeconds.1

def writeDimensionIdentity (d : LedgerDimensionTerm) : Writer :=
  writeStr d.dimensionId.1 ++ (writeStr (kindText d.limit.kind) ++ (writeStr d.limit.unit.1 ++
    (writeU8 d.limit.decimals.1 ++ (writeStr (accountingText d.accounting) ++
      (writeStr (restorationText d.restoration) ++ (writeNullable writeIdentityEpoch d.epoch ++
        (writeStr (signText d.sign) ++ writeScope d.scope)))))))

def dimensionIdentityWriter (d : LedgerDimensionTerm) : Writer :=
  ledgerWriter LedgerTag.POLICY_DIMENSION ++ writeDimensionIdentity d

def policyDimensionIdentity [Keccak] (d : LedgerDimensionTerm) : Digest32 :=
  ledgerDigest (dimensionIdentityWriter d)

def policyKey [Keccak] (d : LedgerDimensionTerm) : TargetKey := .policy (policyDimensionIdentity d)

def epochIndex (d : LedgerDimensionTerm) (time : Int) : Option Int :=
  match d.epoch with
  | none => none
  | some epoch =>
    if time < epoch.anchor.1 then none else some ((time - epoch.anchor.1).tdiv epoch.lengthSeconds.1)

/-- What was consumed in the epoch of `time`: a counter of another epoch counts for nothing. -/
def consumedIn (b : TargetBalance) (time : Int) : Int :=
  match epochIndex b.dimension time, b.epochConsumed with
  | some e, some tracked => if tracked.epoch = e then tracked.atoms else 0
  | _, _ => 0

def availableOf (b : TargetBalance) (time : Int) : Int :=
  let g := b.dimension.limit.atoms.1
  match b.dimension.restoration with
  | .none => g - b.consumed - b.reserved
  | .epoch => g - consumedIn b time - b.reserved
  | .asCharged | .units => g - b.consumed - b.reserved + b.restored

def quoted (text : String) : String := "\"" ++ text ++ "\""

def targetKeyText : TargetKey → String
  | .node authority dimensionId =>
    "[\"N\"," ++ quoted authority.toHex ++ "," ++ quoted dimensionId.1 ++ "]"
  | .policy identity => "[\"P\"," ++ quoted identity.toHex ++ "]"

def writeTargetRef : TargetRef → Writer
  | .node authority dimensionId => writeU8 1 ++ (writeDigest authority ++ writeStr dimensionId.1)
  | .policy policy dimensionId => writeU8 2 ++ (writeDigest policy ++ writeStr dimensionId.1)

def writeNode (n : NodeRecord) : Writer :=
  writeSegment (encodeAuthorityGrant n.grant) ++ (writeList writeScoped n.bindings ++
    (writeU8 n.depth ++ (writeU64 n.registeredAt ++
      (writeNullable (fun v : Nat => writeU64 v) n.revokedAt ++ writeNullable writeDigest n.revocation))))

def sourceText : CapacitySource → String
  | .grant => "GRANT"
  | .policy => "POLICY"

def writeEpochConsumed (e : EpochConsumed) : Writer := writeU64 e.epoch ++ writeU256 e.atoms

def writeTarget (key : TargetKey) (t : TargetBalance) : Writer :=
  writeStr (targetKeyText key) ++ (writeTargetRef t.ref ++ (writeStr (sourceText t.source) ++
    (writeFlag t.current ++ (writeU256 t.dimension.limit.atoms.1 ++ (writeU256 t.reserved ++
      (writeU256 t.consumed ++ (writeU256 t.restored ++
        writeNullable writeEpochConsumed t.epochConsumed)))))))

def writeLegRecord (l : LegRecord) : Writer :=
  writeStr (targetKeyText l.key) ++ (writeTargetRef l.ref ++ (writeU8 l.decimals.1 ++
    (writeFlag l.capacity ++ writeNullable writeU64 l.epoch)))

def writeDemand (d : DemandRecord) : Writer :=
  writeContribution d.contribution ++ (writeU256 d.reserved ++ (writeU256 d.consumed ++
    (writeU256 d.released ++ (writeU256 d.restored ++ writeList writeLegRecord d.legs))))

def statusText : ReservationStatus → String
  | .active => "ACTIVE"
  | .closed => "CLOSED"

def writeReservation (r : ReservationRecord) : Writer :=
  writeDigest r.id ++ (writeDigest r.action ++ (writeU64 r.generation.1 ++
    (writeDigest r.authority ++ (writeList writeDigest r.lineage ++ (writeDigest r.policy ++
      (writeModuleRef r.module ++ (writeDigest r.implementation.1 ++ (writeU64 r.committedAt ++
        (writeI64 r.reservedAt ++ (writeStr (statusText r.status) ++ writeList writeDemand r.demands))))))))))

def writeAction (key : ActionId) (a : ActionRecord) : Writer :=
  writeStr key.toHex ++ (writeU64 a.lastGeneration.1 ++ writeNullable writeDigest a.openReservation)

def writeAttempt (a : AttemptRecord) : Writer :=
  writeAttemptAdmission a.admission ++ (writeU64 a.admittedAt ++ (writeI64 a.admittedTime ++
    writeStr "ADMITTED"))

def writePolicyRecord (p : PolicyRecord) : Writer :=
  writeSegment (encodePrincipalPolicy p.policy) ++ (writeList writeScoped p.bindings ++
    writeU64 p.registeredAt)

def writeEntries {κ ν : Type} [DecidableEq κ] (text : κ → String) (write : κ → ν → Writer)
    (table : PMap κ ν) : Writer :=
  writeU32 (sortedKeys text table).length ++
    Writer.each (fun key => (table.lookup key).elim Writer.throw (write key)) (sortedKeys text table)

/-- Attempts are written only when one exists; their indexes are functions of them. -/
def writeAttempts (attempts : PMap AttemptId AttemptRecord) : Writer :=
  if attempts.entries.isEmpty then Writer.raw []
  else writeStr "attempts" ++ writeEntries Digest32.toHex (fun _ a => writeAttempt a) attempts

def encodeLedgerState (s : LedgerState) : Writer :=
  ledgerWriter LedgerTag.LEDGER_STATE ++ (writeParty s.principal ++ (writeU64 s.version ++
    (writeDigest s.head ++ (writeNullable writeI64 s.lastAt ++
      (writeNullable writePolicyRecord s.policy ++ (writeFlag s.everReserved ++
        (writeEntries Digest32.toHex (fun _ n => writeNode n) s.nodes ++
          (writeEntries targetKeyText writeTarget s.targets ++
            (writeEntries Digest32.toHex (fun _ r => writeReservation r) s.reservations ++
              (writeEntries Digest32.toHex writeAction s.actions ++ writeAttempts s.attempts))))))))))

end Mandate.Ledger
