import Mandate.Ledger.Semantic

/-! Issuance attempts: an admission's fields, its derived identity, its codec and the
structural rules every admission obeys, whatever the state. -/
namespace Mandate.Ledger
open Core Lib.Wire

abbrev AttemptId := Digest32

def MAX_ARTIFACT_ID_BYTES : Nat := 64
def MAX_ATTEMPTS_PER_RESERVATION : Nat := 16

structure ArtifactIdentity where
  kind : Identifier
  id : Bytes
deriving DecidableEq

/-- A position in a replay domain, such as the nonce of one signer key. -/
structure VenueSlot where
  scope : Identifier
  sequence : Int
deriving DecidableEq

structure AttemptAdmission where
  attempt : AttemptId
  ordinal : Int
  reservation : ReservationId
  generation : ReservationGeneration
  action : ActionId
  authorization : Digest32
  module : ModuleRef
  adapter : AdapterRef
  venueAccount : AccountId
  artifact : ArtifactIdentity
  slot : Option VenueSlot
  validUntil : Int
  requirements : Digest32
  revalidation : Digest32

inductive AttemptStatus | admitted
deriving DecidableEq

structure AttemptRecord where
  admission : AttemptAdmission
  admittedAt : Nat
  admittedTime : Int
  status : AttemptStatus

def writeU16Int (value : Int) : Writer := Writer.uint 2 value

def attemptIdFor [Keccak] (a : AttemptAdmission) : AttemptId :=
  ledgerDigest (ledgerWriter LedgerTag.ATTEMPT ++ (writeDigest a.reservation ++
    (writeU64 a.generation.1 ++ (writeDigest a.action ++ (writeModuleRef a.module ++
      (writeAdapterRef a.adapter ++ (writeDigest a.authorization ++ writeU16Int a.ordinal)))))))

def writeArtifact (a : ArtifactIdentity) : Writer :=
  writeStr a.kind.1 ++ (writeU8 a.id.length ++ Writer.each (fun byte : UInt8 => writeU8 byte.toNat) a.id)

def writeSlot (s : VenueSlot) : Writer := writeStr s.scope.1 ++ writeU64 s.sequence

def writeAttemptAdmission (a : AttemptAdmission) : Writer :=
  writeDigest a.attempt ++ (writeU16Int a.ordinal ++ (writeDigest a.reservation ++
    (writeU64 a.generation.1 ++ (writeDigest a.action ++ (writeDigest a.authorization ++
      (writeModuleRef a.module ++ (writeAdapterRef a.adapter ++ (writeResourceOf a.venueAccount ++
        (writeArtifact a.artifact ++ (writeNullable writeSlot a.slot ++ (writeI64 a.validUntil ++
          (writeDigest a.requirements ++ writeDigest a.revalidation))))))))))))

def readDigestAs {α : Type} (parse : String → String → CoreResult α) (path : String) :
    CoreReader α := do
  let text ← readDigest
  must (parse text path)

def readGeneration : CoreReader ReservationGeneration := do
  let raw ← (fun n : Nat => (n : Int)) <$> readU64
  must (parseReservationGeneration (.bigint raw) "generation")

def readModuleRef : CoreReader ModuleRef := do
  let input ← readModuleRefInput
  must (validateModuleRef input "module")

def readAdapterRef : CoreReader AdapterRef := do
  let input ← readAdapterRefInput
  must (validateAdapterRef input "adapter")

def readVenueAccount : CoreReader AccountId := do
  let input ← readResourceIdInput
  must (validateResourceIn [.account] input "venueAccount")

def inUnixRange (seconds : Int) : Prop := INT64_MIN ≤ seconds ∧ seconds ≤ INT64_MAX

instance (seconds : Int) : Decidable (inUnixRange seconds) := inferInstanceAs (Decidable (_ ∧ _))

def slotInRange (s : VenueSlot) : Bool := 0 ≤ s.sequence && s.sequence ≤ (UINT64_MAX : Int)

/-- Identifiers and the account hold by their types; ranges and lengths are checked here. -/
def checkAdmissionShape (a : AttemptAdmission) (path : String) : LedgerResult Unit :=
  if a.ordinal < 1 ∨ MAX_ATTEMPTS_PER_RESERVATION < a.ordinal then
    refuse .attemptShapeInvalid (path ++ ".ordinal")
  else if a.artifact.id.length = 0 ∨ MAX_ARTIFACT_ID_BYTES < a.artifact.id.length then
    refuse .attemptShapeInvalid (path ++ ".artifact.id")
  else if a.slot.any (fun s => !slotInRange s) = true then
    refuse .attemptShapeInvalid (path ++ ".slot.sequence")
  else if ¬ inUnixRange a.validUntil then refuse .attemptShapeInvalid (path ++ ".validUntil")
  else .ok ()

theorem frames_digestAs (digest : Digest32) (path : String) :
    Frames (writeDigest digest) (readDigestAs parseDigest path) digest 32 :=
  frames_must (f := fun text => parseDigest text path) (frames_digest digest) (parseDigest_toHex digest path)

theorem frames_generation (generation : ReservationGeneration) :
    Frames (writeU64 generation.1) readGeneration generation 8 :=
  frames_must (f := fun raw => parseReservationGeneration (.bigint raw) "generation")
    (frames_u64_int _) (parseReservationGeneration_self _ _)

theorem frames_readModuleRef (m : ModuleRef) : Frames (writeModuleRef m) readModuleRef m 296 :=
  frames_must (f := fun input => validateModuleRef input "module") (frames_moduleRef m)
    (validateModuleRef_self m _)

end Mandate.Ledger
