import Mandate.Ledger.Attempt

/-! The issuance journal: what became of an admitted attempt's artifact. One row an attempt, moved
forward along a closed table, and one event for each move. -/
namespace Mandate.Ledger
open Lib.Wire
open Option (some.inj)

inductive IssuanceState
  | artifactIssued | submissionSent | submissionAcknowledged | submissionRejected | outcomeUnknown
deriving DecidableEq

def IssuanceState.text : IssuanceState → String
  | .artifactIssued => "ARTIFACT_ISSUED"
  | .submissionSent => "SUBMISSION_SENT"
  | .submissionAcknowledged => "SUBMISSION_ACKNOWLEDGED"
  | .submissionRejected => "SUBMISSION_REJECTED"
  | .outcomeUnknown => "OUTCOME_UNKNOWN"

def NEXT : IssuanceState → List IssuanceState
  | .artifactIssued => [.submissionSent, .outcomeUnknown]
  | .submissionSent => [.submissionAcknowledged, .submissionRejected, .outcomeUnknown]
  | .submissionAcknowledged => []
  | .submissionRejected => []
  | .outcomeUnknown => []

abbrev OpeningState := {state : IssuanceState // state ∈ [IssuanceState.artifactIssued, .outcomeUnknown]}

theorem issued_opens : IssuanceState.artifactIssued ∈ [IssuanceState.artifactIssued, .outcomeUnknown] := by decide

theorem unknown_opens : IssuanceState.outcomeUnknown ∈ [IssuanceState.artifactIssued, .outcomeUnknown] := by decide

structure IssuanceRecord where
  attempt : AttemptId
  state : IssuanceState
  artifact : Option Bytes
  venueRef : Option String
  detail : String
  seq : Nat

structure IssuanceEvent where
  attempt : AttemptId
  seq : Nat
  state : IssuanceState
  detail : String

inductive JournalReason | attemptNotAdmitted | alreadyRecorded | notRecorded | transitionForbidden

/-- The two tables; `attempt` is the first one's key, `attempt` and `seq` together the other's. -/
structure IssuanceJournal where
  records : AttemptId → Option IssuanceRecord
  events : List IssuanceEvent

namespace IssuanceJournal

def empty : IssuanceJournal := ⟨fun _ => none, []⟩

def eventsOf (j : IssuanceJournal) (attempt : AttemptId) : List IssuanceEvent :=
  j.events.filter fun e => e.attempt = attempt

/-- One row written with its event; `none` where the event's key is taken and the transaction throws. -/
def write (j : IssuanceJournal) (record : IssuanceRecord) : Option IssuanceJournal :=
  if j.events.any (fun e => e.attempt = record.attempt ∧ e.seq = record.seq) then none
  else some ⟨Function.update j.records record.attempt (some record),
    j.events ++ [⟨record.attempt, record.seq, record.state, record.detail⟩]⟩

/-- A refusal leaves the tables as they are; `none` where the transaction throws. -/
abbrev Outcome := Option (Except JournalReason Unit × IssuanceJournal)

def refused (j : IssuanceJournal) (reason : JournalReason) : Outcome := some (.error reason, j)

/-- `admitted` is what the committed ledger says, read inside the transaction. -/
def opening (j : IssuanceJournal) (admitted : Bool) (attempt : AttemptId) (state : OpeningState)
    (artifact : Option Bytes) (detail : String) : Outcome :=
  if !admitted then j.refused .attemptNotAdmitted
  else match j.records attempt with
    | some _ => j.refused .alreadyRecorded
    | none => (j.write ⟨attempt, state.1, artifact, none, detail, 1⟩).map fun next => (.ok (), next)

def transition (j : IssuanceJournal) (attempt : AttemptId) (target : IssuanceState) (detail : String)
    (venueRef : Option String) : Outcome :=
  match j.records attempt with
  | none => j.refused .notRecorded
  | some current =>
    if target ∉ NEXT current.state then j.refused .transitionForbidden
    else (j.write { current with
      state := target
      venueRef := venueRef.or current.venueRef
      detail
      seq := current.seq + 1 }).map fun next => (.ok (), next)

end IssuanceJournal

/-- The events of one attempt, in the state and at the number they lead to. -/
inductive Chronicle (attempt : AttemptId) : List IssuanceEvent → IssuanceState → Nat → Prop
  | opened (state : OpeningState) (detail : String) :
      Chronicle attempt [⟨attempt, 1, state.1, detail⟩] state.1 1
  | moved {events : List IssuanceEvent} {state : IssuanceState} {seq : Nat} (target : IssuanceState)
      (detail : String) (earlier : Chronicle attempt events state seq) (allowed : target ∈ NEXT state) :
      Chronicle attempt (events ++ [⟨attempt, seq + 1, target, detail⟩]) target (seq + 1)

theorem Chronicle.contiguous {attempt : AttemptId} {events : List IssuanceEvent} {state : IssuanceState}
    {seq : Nat} (chronicle : Chronicle attempt events state seq) :
    events.map (·.seq) = List.range' 1 seq := by
  induction chronicle with
  | opened state detail => rfl
  | moved target detail earlier allowed ih =>
    rw [List.map_append, ih, List.range'_concat]
    simp [Nat.add_comm]

structure Chronicled (j : IssuanceJournal) : Prop where
  unrecorded : ∀ attempt, j.records attempt = none → j.eventsOf attempt = []
  recorded : ∀ attempt record, j.records attempt = some record → record.attempt = attempt ∧
    Chronicle attempt (j.eventsOf attempt) record.state record.seq

theorem chronicled_empty : Chronicled .empty := ⟨fun _ _ => rfl, nofun⟩

namespace IssuanceJournal
variable {j next : IssuanceJournal} {attempt : AttemptId} {detail : String} {record : IssuanceRecord}

theorem write_eventsOf (written : j.write record = some next) (other : AttemptId) :
    next.records = Function.update j.records record.attempt (some record) ∧
      next.eventsOf other = j.eventsOf other ++
        (if other = record.attempt then [⟨record.attempt, record.seq, record.state, record.detail⟩] else []) := by
  unfold write at written
  split at written
  · cases written
  · obtain rfl := some.inj written
    refine ⟨rfl, ?_⟩
    by_cases same : other = record.attempt
    · simp [eventsOf, same]
    · simp [eventsOf, same, Ne.symm same]

variable {result : Except JournalReason Unit}

theorem opening_cases {admitted : Bool} {state : OpeningState} {artifact : Option Bytes}
    (served : j.opening admitted attempt state artifact detail = some (result, next)) :
    (∃ reason, result = .error reason ∧ next = j) ∨
      result = .ok () ∧ admitted = true ∧ j.records attempt = none ∧
        j.write ⟨attempt, state.1, artifact, none, detail, 1⟩ = some next := by
  unfold opening at served
  cases admitted with
  | false =>
    obtain ⟨rfl, rfl⟩ := Prod.mk.inj (some.inj served)
    exact .inl ⟨_, rfl, rfl⟩
  | true =>
    cases row : j.records attempt with
    | some record =>
      simp only [row, Bool.not_true, Bool.false_eq_true, if_false] at served
      obtain ⟨rfl, rfl⟩ := Prod.mk.inj (some.inj served)
      exact .inl ⟨_, rfl, rfl⟩
    | none =>
      simp only [row, Bool.not_true, Bool.false_eq_true, if_false] at served
      obtain ⟨after, written, same⟩ := Option.map_eq_some_iff.mp served
      obtain ⟨rfl, rfl⟩ := Prod.mk.inj same
      exact .inr ⟨rfl, rfl, rfl, written⟩

theorem transition_cases {target : IssuanceState} {venueRef : Option String}
    (served : j.transition attempt target detail venueRef = some (result, next)) :
    (∃ reason, result = .error reason ∧ next = j ∧
        ∀ record, j.records attempt = some record → target ∉ NEXT record.state) ∨
      ∃ record, result = .ok () ∧ j.records attempt = some record ∧ target ∈ NEXT record.state ∧
        j.write { record with
          state := target
          venueRef := venueRef.or record.venueRef
          detail
          seq := record.seq + 1 } = some next := by
  unfold transition at served
  cases row : j.records attempt with
  | none =>
    simp only [row] at served
    obtain ⟨rfl, rfl⟩ := Prod.mk.inj (some.inj served)
    exact .inl ⟨_, rfl, rfl, nofun⟩
  | some record =>
    simp only [row] at served
    by_cases allowed : target ∈ NEXT record.state
    · rw [if_neg (not_not.mpr allowed)] at served
      obtain ⟨after, written, same⟩ := Option.map_eq_some_iff.mp served
      obtain ⟨rfl, rfl⟩ := Prod.mk.inj same
      exact .inr ⟨record, rfl, rfl, allowed, written⟩
    · rw [if_pos allowed] at served
      obtain ⟨rfl, rfl⟩ := Prod.mk.inj (some.inj served)
      refine .inl ⟨_, rfl, rfl, fun other same => ?_⟩
      obtain rfl := some.inj same
      exact allowed

theorem chronicled_write (chronicled : Chronicled j)
    (written : j.write record = some next) (continued : Chronicle record.attempt
      (j.eventsOf record.attempt ++ [⟨record.attempt, record.seq, record.state, record.detail⟩])
      record.state record.seq) : Chronicled next := by
  constructor
  · intro other row
    obtain ⟨records, events⟩ := write_eventsOf written other
    by_cases same : other = record.attempt
    · subst same
      simp [records] at row
    · rw [records, Function.update_of_ne same] at row
      rw [events, if_neg same, List.append_nil]
      exact chronicled.unrecorded other row
  · intro other record' row
    obtain ⟨records, events⟩ := write_eventsOf written other
    by_cases same : other = record.attempt
    · subst same
      rw [records, Function.update_self] at row
      obtain rfl := some.inj row
      rw [events, if_pos rfl]
      exact ⟨rfl, continued⟩
    · rw [records, Function.update_of_ne same] at row
      rw [events, if_neg same, List.append_nil]
      exact chronicled.recorded other record' row

end IssuanceJournal

end Mandate.Ledger
