import Mandate.Kernel.Plain

/-! The consumption state machine: one record for each mandate digest, moved by pure transitions
whose requests are plain values, every field of them parsed before a branch is taken. -/
namespace Mandate.Kernel
open Core Plain

inductive ReconciledOutcome | settled | failed
deriving DecidableEq

inductive ReplayTransition | reserve | quarantine | reconcile

inductive ReplayError
  | malformedRecord | unknownTransition | unknownState | notReservable | notReserved | notResolvable
  | alreadyConsumed | reservationNotExpired | observationRequired | observationInvalid
  | staleReservationObservation

abbrev ReplayResult := Except ReplayError

def MAX_RESERVATION_GENERATION : Nat := 2 ^ 64 - 1

abbrev Generation := IntegerInRange 0 MAX_RESERVATION_GENERATION

/-- What was seen of one attempt, about the reservation whose generation it names. -/
structure ExecutionObservation where
  outcome : ReconciledOutcome
  observedAt : UnixSeconds
  sourceId : Identifier
  reference : Digest32
  reservationGeneration : Generation
  reserved : reservationGeneration.1 ≠ 0

def ReplayShape (status : ReplayStatus) (updatedAt : UnixSeconds) (expiry : Option UnixSeconds)
    (resolution : Option ExecutionObservation) (generation : Generation) : Prop :=
  (∀ o ∈ resolution, o.reservationGeneration = generation) ∧
  match status with
  | .unused => expiry = none ∧ ∀ o ∈ resolution, o.observedAt.1 ≤ updatedAt.1 ∧ o.outcome = .failed
  | .reserved | .quarantined => (∃ e ∈ expiry, updatedAt.1 < e.1) ∧ resolution = none ∧ 0 < generation.1
  | .consumed => expiry = none ∧ ∃ o ∈ resolution, o.outcome = .settled ∧ o.observedAt.1 ≤ updatedAt.1
  | .unknown => expiry = none ∧ resolution = none

instance (status : ReplayStatus) (updatedAt : UnixSeconds) (expiry : Option UnixSeconds)
    (resolution : Option ExecutionObservation) (generation : Generation) :
    Decidable (ReplayShape status updatedAt expiry resolution generation) := by
  unfold ReplayShape
  cases status <;> infer_instance

structure ReplayRecord where
  key : Digest32
  status : ReplayStatus
  updatedAt : UnixSeconds
  reservationExpiresAt : Option UnixSeconds
  resolution : Option ExecutionObservation
  reservationGeneration : Generation
  shaped : ReplayShape status updatedAt reservationExpiresAt resolution reservationGeneration

def unusedRecord (key : Digest32) (at_ : UnixSeconds) : ReplayRecord where
  key := key
  status := .unused
  updatedAt := at_
  reservationExpiresAt := none
  resolution := none
  reservationGeneration := ⟨0, by decide⟩
  shaped := ⟨by simp, rfl, by simp⟩

def TRANSITIONS : List (String × ReplayTransition) :=
  [("RESERVE", .reserve), ("QUARANTINE", .quarantine), ("RECONCILE", .reconcile)]

def OUTCOMES : List (String × ReconciledOutcome) := [("SETTLED", .settled), ("FAILED", .failed)]

def parsedAs {α : Type} (error : ReplayError) (result : KernelResult α) : ReplayResult α :=
  result.mapError fun _ => error

def parseReplayTransition (raw : Plain) : ReplayResult ReplayTransition :=
  parsedAs .unknownTransition (parseEnum TRANSITIONS .malformedTrustedState raw)

def parseReconciledOutcome (raw : Plain) : ReplayResult ReconciledOutcome :=
  parsedAs .observationInvalid (parseEnum OUTCOMES .malformedTrustedState raw)

def parseGeneration (error : ReplayError) : Plain → ReplayResult Generation
  | .bigint value =>
    if inside : 0 ≤ value ∧ value ≤ MAX_RESERVATION_GENERATION then .ok ⟨value, inside⟩ else .error error
  | _ => .error error

def OBSERVATION_FIELDS : List String :=
  ["outcome", "observedAtUnixSeconds", "sourceId", "reference", "reservationGeneration"]

def parseExecutionObservation : Plain → ReplayResult ExecutionObservation
  | .object r => do
    parsedAs .observationInvalid (knownOnly OBSERVATION_FIELDS .malformedTrustedState r)
    let outcome ← parseReconciledOutcome (field r "outcome")
    let observedAt ← parsedAs .observationInvalid
      (Plain.parseUnixSeconds .malformedTrustedState (field r "observedAtUnixSeconds"))
    let sourceId ← parsedAs .observationInvalid (Plain.parseIdentifier (field r "sourceId"))
    let reference ← parsedAs .observationInvalid (Plain.parseBytes32 .malformedTrustedState (field r "reference"))
    let generation ← parseGeneration .observationInvalid (field r "reservationGeneration")
    if reserved : generation.1 ≠ 0 then .ok ⟨outcome, observedAt, sourceId, reference, generation, reserved⟩
    else .error .observationInvalid
  | _ => .error .observationInvalid

def orNull {α : Type} (parse : Plain → ReplayResult α) : Plain → ReplayResult (Option α)
  | .null => .ok none
  | raw => some <$> parse raw

def RECORD_FIELDS : List String :=
  ["key", "status", "updatedAtUnixSeconds", "reservationExpiresAtUnixSeconds", "resolution",
    "reservationGeneration"]

def parseReplayRecord : Plain → ReplayResult ReplayRecord
  | .object r => do
    parsedAs .malformedRecord (knownOnly RECORD_FIELDS .malformedTrustedState r)
    let key ← parsedAs .malformedRecord (Plain.parseBytes32 .malformedTrustedState (field r "key"))
    let status ← parsedAs .malformedRecord (parseEnum REPLAY_STATUSES .malformedTrustedState (field r "status"))
    let updatedAt ← parsedAs .malformedRecord
      (Plain.parseUnixSeconds .malformedTrustedState (field r "updatedAtUnixSeconds"))
    let expiry ← orNull (fun raw => parsedAs .malformedRecord (Plain.parseUnixSeconds .malformedTrustedState raw))
      (field r "reservationExpiresAtUnixSeconds")
    let resolution ← orNull (fun raw => (parseExecutionObservation raw).mapError fun _ => .malformedRecord)
      (field r "resolution")
    let generation ← parseGeneration .malformedRecord (field r "reservationGeneration")
    if shaped : ReplayShape status updatedAt expiry resolution generation then
      .ok ⟨key, status, updatedAt, expiry, resolution, generation, shaped⟩
    else .error .malformedRecord
  | _ => .error .malformedRecord

/-- The record itself, held until `expiresAt` at the latest under the next generation. -/
def reserveRecord (current : ReplayRecord) (now expiresAt : UnixSeconds) (later : now.1 < expiresAt.1)
    (room : current.reservationGeneration.1 < MAX_RESERVATION_GENERATION) : ReplayRecord where
  key := current.key
  status := .reserved
  updatedAt := now
  reservationExpiresAt := some expiresAt
  resolution := none
  reservationGeneration := ⟨current.reservationGeneration.1 + 1, by
    have low := current.reservationGeneration.2.1
    omega⟩
  shaped := by
    have low := current.reservationGeneration.2.1
    refine ⟨by simp, ⟨expiresAt, rfl, later⟩, rfl, ?_⟩
    dsimp only
    omega

/-- Taken from an available record, for a hold the mandate's own expiry cuts short. -/
def applyReserve (r : Fields) (current : ReplayRecord) (now : UnixSeconds) : ReplayResult ReplayRecord :=
  if current.status ≠ .unused then .error .notReservable
  else if now.1 < current.updatedAt.1 then .error .malformedRecord
  else match field r "reservationSeconds" with
    | .bigint hold =>
      if hold ≤ 0 then .error .notReservable
      else do
        let mandateExpiry ← (match field r "mandateExpiresAtUnixSeconds" with
          | .undefined => .ok none
          | raw => some <$> parsedAs .malformedRecord (Plain.parseUnixSeconds .malformedTrustedState raw))
        let expiresAt := match mandateExpiry with
          | some expiry => min (now.1 + hold) expiry.1
          | none => now.1 + hold
        if inside : INT64_MIN ≤ expiresAt ∧ expiresAt ≤ INT64_MAX then
          if later : now.1 < expiresAt then
            if room : current.reservationGeneration.1 < MAX_RESERVATION_GENERATION then
              .ok (reserveRecord current now ⟨expiresAt, inside⟩ later room)
            else .error .notReservable
          else .error .notReservable
        else .error .notReservable
    | _ => .error .notReservable

/-- A lapsed reservation is quarantined, never freed. Its timeline is kept for later evidence. -/
def applyQuarantine (current : ReplayRecord) (now : UnixSeconds) : ReplayResult ReplayRecord :=
  if reserved : current.status = .reserved then
    if current.reservationExpiresAt.all fun expiry => now.1 < expiry.1 then .error .reservationNotExpired
    else .ok { current with
      status := .quarantined
      resolution := none
      shaped := by
        have shaped := current.shaped.2
        rw [reserved] at shaped
        exact ⟨by simp, shaped.1, rfl, shaped.2.2⟩ }
  else .error .notReserved

/-- The outcome of the record's own reservation, seen within the record's own timeline. -/
def reconcileRecord (current : ReplayRecord) (now : UnixSeconds) (resolved : ExecutionObservation)
    (own : resolved.reservationGeneration = current.reservationGeneration)
    (seen : resolved.observedAt.1 ≤ now.1) : ReplayRecord where
  key := current.key
  status := match resolved.outcome with
    | .settled => .consumed
    | .failed => .unused
  updatedAt := now
  reservationExpiresAt := none
  resolution := some resolved
  reservationGeneration := current.reservationGeneration
  shaped := by
    refine ⟨by rintro o ⟨⟩; exact own, ?_⟩
    cases known : resolved.outcome with
    | settled => exact ⟨rfl, resolved, rfl, known, seen⟩
    | failed =>
      refine ⟨rfl, ?_⟩
      rintro o ⟨⟩
      exact ⟨seen, known⟩

def applyReconcile (r : Fields) (current : ReplayRecord) (now : UnixSeconds) : ReplayResult ReplayRecord :=
  if current.status ≠ .reserved ∧ current.status ≠ .quarantined then .error .notResolvable
  else match field r "observation" with
    | .undefined => .error .observationRequired
    | .null => .error .observationRequired
    | raw => do
      let resolved ← parseExecutionObservation raw
      if own : resolved.reservationGeneration = current.reservationGeneration then
        if now.1 < current.updatedAt.1 ∨ resolved.observedAt.1 < current.updatedAt.1 then
          .error .observationInvalid
        else if seen : resolved.observedAt.1 ≤ now.1 then .ok (reconcileRecord current now resolved own seen)
        else .error .observationInvalid
      else .error .staleReservationObservation

/-- The one transition of the store. An unknown record takes none, and a consumed one takes none. -/
def applyTransition : Plain → ReplayResult ReplayRecord
  | .object r => do
    let transition ← parseReplayTransition (field r "transition")
    let current ← parseReplayRecord (field r "current")
    let now ← parsedAs .malformedRecord (Plain.parseUnixSeconds .malformedTrustedState (field r "nowUnixSeconds"))
    if current.status = .unknown then .error .unknownState
    else if current.status = .consumed then .error .alreadyConsumed
    else match transition with
      | .reserve => applyReserve r current now
      | .quarantine => applyQuarantine current now
      | .reconcile => applyReconcile r current now
  | _ => .error .malformedRecord

end Mandate.Kernel
