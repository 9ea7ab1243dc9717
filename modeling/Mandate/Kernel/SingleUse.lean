import Mandate.Lib.Machine
import Mandate.Kernel.Replay

/-! Single use of a mandate: what any run of transitions over one replay record keeps, whatever is
asked of it and in whatever order. -/
set_option linter.dupNamespace false
namespace Mandate.Kernel
open Core Lib.Wire Lib.Machine Plain List

section Stored

def outcomeText (outcome : ReconciledOutcome) : Plain :=
  .text (match outcome with | .settled => "SETTLED" | .failed => "FAILED")

def statusText (status : ReplayStatus) : Plain :=
  .text (match status with
    | .unused => "UNUSED" | .reserved => "RESERVED" | .consumed => "CONSUMED"
    | .quarantined => "QUARANTINED" | .unknown => "UNKNOWN")

def plainObservation (o : ExecutionObservation) : Plain := .object
  [("outcome", outcomeText o.outcome), ("observedAtUnixSeconds", .bigint o.observedAt.1),
    ("sourceId", .text o.sourceId.1), ("reference", .text o.reference.toHex),
    ("reservationGeneration", .bigint o.reservationGeneration.1)]

def plainRecord (record : ReplayRecord) : Plain := .object
  [("key", .text record.key.toHex), ("status", statusText record.status),
    ("updatedAtUnixSeconds", .bigint record.updatedAt.1),
    ("reservationExpiresAtUnixSeconds", record.reservationExpiresAt.elim .null fun expiry => .bigint expiry.1),
    ("resolution", record.resolution.elim .null plainObservation),
    ("reservationGeneration", .bigint record.reservationGeneration.1)]

theorem parseGeneration_own (error : ReplayError) (generation : Generation) :
    parseGeneration error (.bigint generation.1) = .ok generation := dif_pos generation.2

theorem parseSeconds_own (error : ReplayError) (seconds : UnixSeconds) :
    parsedAs error (Plain.parseUnixSeconds .malformedTrustedState (.bigint seconds.1)) = .ok seconds := by
  rw [Plain.parseUnixSeconds, Plain.parseBounded, parseBounded_self]
  rfl

theorem parseDigest_own (error : ReplayError) (digest : Digest32) :
    parsedAs error (Plain.parseBytes32 .malformedTrustedState (.text digest.toHex)) = .ok digest := by
  rw [Plain.parseBytes32, parseBytes32_self]
  rfl

theorem parseExecutionObservation_own (o : ExecutionObservation) :
    parseExecutionObservation (plainObservation o) = .ok o := by
  have outcome : parseReconciledOutcome (outcomeText o.outcome) = .ok o.outcome := by cases o.outcome <;> rfl
  have source : parsedAs .observationInvalid (Plain.parseIdentifier (.text o.sourceId.1)) = .ok o.sourceId := by
    rw [Plain.parseIdentifier, parseIdentifier_self]
    rfl
  have known : parsedAs .observationInvalid (knownOnly OBSERVATION_FIELDS .malformedTrustedState
      [("outcome", outcomeText o.outcome), ("observedAtUnixSeconds", .bigint o.observedAt.1),
        ("sourceId", .text o.sourceId.1), ("reference", .text o.reference.toHex),
        ("reservationGeneration", .bigint o.reservationGeneration.1)]) = .ok () := by rfl
  simp +decide only [parseExecutionObservation, plainObservation, field_cons, if_true, if_false, known, outcome,
    parseSeconds_own, source, parseDigest_own, parseGeneration_own, bind, Except.bind, dif_pos o.reserved]

theorem parseReplayRecord_own (record : ReplayRecord) :
    parseReplayRecord (plainRecord record) = .ok record := by
  have status : parsedAs .malformedRecord (parseEnum REPLAY_STATUSES .malformedTrustedState
      (statusText record.status)) = .ok record.status := by cases record.status <;> rfl
  have expiry : orNull (fun raw => parsedAs .malformedRecord (Plain.parseUnixSeconds .malformedTrustedState raw))
      (record.reservationExpiresAt.elim .null fun expiry => .bigint expiry.1) = .ok record.reservationExpiresAt := by
    cases record.reservationExpiresAt with
    | none => rfl
    | some expiry => exact congrArg (some <$> ·) (parseSeconds_own _ expiry)
  have resolution : orNull (fun raw => (parseExecutionObservation raw).mapError fun _ => .malformedRecord)
      (record.resolution.elim .null plainObservation) = .ok record.resolution := by
    cases record.resolution with
    | none => rfl
    | some o =>
      have read := parseExecutionObservation_own o
      change some <$> (parseExecutionObservation (plainObservation o)).mapError _ = _
      rw [read]
      rfl
  have known : parsedAs .malformedRecord (knownOnly RECORD_FIELDS .malformedTrustedState
      [("key", .text record.key.toHex), ("status", statusText record.status),
        ("updatedAtUnixSeconds", .bigint record.updatedAt.1),
        ("reservationExpiresAtUnixSeconds", record.reservationExpiresAt.elim .null fun expiry => .bigint expiry.1),
        ("resolution", record.resolution.elim .null plainObservation),
        ("reservationGeneration", .bigint record.reservationGeneration.1)]) = .ok () := by rfl
  simp +decide only [parseReplayRecord, plainRecord, field_cons, if_true, if_false, known, status, expiry, resolution,
    parseSeconds_own, parseDigest_own, parseGeneration_own, bind, Except.bind, dif_pos record.shaped]

end Stored

section Runs

def requestOver (record : ReplayRecord) : Plain → Plain
  | .object fields => .object (("current", plainRecord record) :: fields)
  | raw => raw

def fieldOf (request : Plain) (name : String) : Plain :=
  match request with
  | .object fields => field fields name
  | _ => .undefined

/-- The store keeps what an applied transition gives it, and keeps its record under a refused one. -/
def advance (record : ReplayRecord) (request : Plain) : ReplayRecord :=
  match applyTransition (requestOver record request) with
  | .ok next => next
  | .error _ => record

inductive Applied (before : ReplayRecord) (request : Plain) : ReplayTransition → ReplayRecord → Prop
  | reserve {after : ReplayRecord} (asked : fieldOf request "transition" = .text "RESERVE")
      (free : before.status = .unused) (held : after.status = .reserved)
      (next : after.reservationGeneration.1 = before.reservationGeneration.1 + 1) :
      Applied before request .reserve after
  | quarantine {after : ReplayRecord} (asked : fieldOf request "transition" = .text "QUARANTINE")
      (held : before.status = .reserved) (now : after.status = .quarantined)
      (same : after.reservationGeneration = before.reservationGeneration) :
      Applied before request .quarantine after
  | reconcile {after : ReplayRecord} {o : ExecutionObservation}
      (asked : fieldOf request "transition" = .text "RECONCILE")
      (held : before.status = .reserved ∨ before.status = .quarantined)
      (observed : parseExecutionObservation (fieldOf request "observation") = .ok o)
      (own : o.reservationGeneration = before.reservationGeneration)
      (now : after.status = match o.outcome with | .settled => .consumed | .failed => .unused)
      (same : after.reservationGeneration = before.reservationGeneration) :
      Applied before request .reconcile after

theorem transition_text {raw : Plain} {transition : ReplayTransition}
    (parsed : parseReplayTransition raw = .ok transition) :
    raw = .text (match transition with
      | .reserve => "RESERVE" | .quarantine => "QUARANTINE" | .reconcile => "RECONCILE") := by
  cases raw with
  | text name =>
    by_cases reserve : name = "RESERVE"
    · subst reserve
      cases parsed
      rfl
    · by_cases quarantine : name = "QUARANTINE"
      · subst quarantine
        cases parsed
        rfl
      · by_cases reconcile : name = "RECONCILE"
        · subst reconcile
          cases parsed
          rfl
        · exfalso
          simp [parseReplayTransition, parseEnum, TRANSITIONS, lookup_cons, parsedAs, Except.mapError,
            beq_eq_false_iff_ne.mpr reserve, beq_eq_false_iff_ne.mpr quarantine,
            beq_eq_false_iff_ne.mpr reconcile] at parsed
  | _ => cases parsed

variable {before after : ReplayRecord} {now : UnixSeconds} {fields : Fields}

theorem reserve_ok
    (ok : applyReserve fields before now = .ok after) : before.status = .unused ∧ after.status = .reserved ∧
      after.reservationGeneration.1 = before.reservationGeneration.1 + 1 := by
  unfold applyReserve at ok
  simp only [refuse_ok] at ok
  obtain ⟨free, _, ok⟩ := ok
  split at ok
  · simp only [refuse_ok, except_bind_ok, require_ok, Except.ok.injEq] at ok
    obtain ⟨_, _, _, _, _, _, rfl⟩ := ok
    exact ⟨not_not.mp free, rfl, rfl⟩
  · cases ok

theorem quarantine_ok
    (ok : applyQuarantine before now = .ok after) : before.status = .reserved ∧ after.status = .quarantined ∧
      after.reservationGeneration = before.reservationGeneration := by
  simp only [applyQuarantine, require_ok, refuse_ok, Except.ok.injEq] at ok
  obtain ⟨held, _, rfl⟩ := ok
  exact ⟨held, rfl, rfl⟩

theorem reconcile_ok (ok : applyReconcile fields before now = .ok after) :
    (before.status = .reserved ∨ before.status = .quarantined) ∧
      ∃ o, parseExecutionObservation (field fields "observation") = .ok o ∧
        o.reservationGeneration = before.reservationGeneration ∧
        (after.status = match o.outcome with | .settled => .consumed | .failed => .unused) ∧
        after.reservationGeneration = before.reservationGeneration := by
  unfold applyReconcile at ok
  rw [refuse_ok] at ok
  obtain ⟨held, ok⟩ := ok
  split at ok
  · cases ok
  · cases ok
  · simp only [except_bind_ok, require_ok, refuse_ok, Except.ok.injEq] at ok
    obtain ⟨o, parsed, own, _, _, rfl⟩ := ok
    exact ⟨by tauto, o, parsed, own, rfl, rfl⟩

theorem applyTransition_cases {request : Plain}
    (ok : applyTransition (requestOver before request) = .ok after) :
    ∃ kind, Applied before request kind after := by
  cases request with
  | object fields =>
    have stored : field (("current", plainRecord before) :: fields) "current" = plainRecord before := by
      rw [field_cons, if_pos rfl]
    have others : ∀ name, "current" ≠ name →
        field (("current", plainRecord before) :: fields) name = field fields name := by
      intro name apart
      rw [field_cons, if_neg apart]
    simp only [requestOver, applyTransition, except_bind_ok, stored, parseReplayRecord_own] at ok
    obtain ⟨transition, asked, current, same, now, _, ok⟩ := ok
    obtain rfl := Except.ok.inj same
    rw [others "transition" (by decide)] at asked
    have asked := transition_text asked
    rw [refuse_ok, refuse_ok] at ok
    obtain ⟨_, _, ok⟩ := ok
    cases transition with
    | reserve =>
      obtain ⟨free, held, next⟩ := reserve_ok ok
      exact ⟨_, .reserve asked free held next⟩
    | quarantine =>
      obtain ⟨held, quarantined, generation⟩ := quarantine_ok ok
      exact ⟨_, .quarantine asked held quarantined generation⟩
    | reconcile =>
      obtain ⟨held, o, observed, own, status, generation⟩ := reconcile_ok ok
      rw [others "observation" (by decide)] at observed
      exact ⟨_, .reconcile asked held observed own status generation⟩
  | _ => cases ok

abbrev Log := List (ReplayRecord × Plain)

/-- The requests in their order, each with the record it was made of. -/
def runLog : ReplayRecord → List Plain → Log
  | _, [] => []
  | record, request :: rest => (record, request) :: runLog (advance record request) rest

def Advances (before : ReplayRecord) (request : Plain) (after : ReplayRecord) : Prop :=
  advance before request = after

theorem runLog_trace (record : ReplayRecord) (requests : List Plain) :
    Trace Advances record (runLog record requests) (requests.foldl advance record) := by
  induction requests generalizing record with
  | nil => exact .nil
  | cons request rest ih => exact (ih (advance record request)).cons rfl

/-- The entry's request asked for the named transition and was applied. -/
def Succeeds (name : String) (entry : ReplayRecord × Plain) : Prop :=
  fieldOf entry.2 "transition" = .text name ∧
    applyTransition (requestOver entry.1 entry.2) = .ok (advance entry.1 entry.2)

/-- A reconciliation with this outcome was applied, of an observation of this generation. -/
def Resolves (outcome : ReconciledOutcome) (generation : Generation) (entry : ReplayRecord × Plain) : Prop :=
  Succeeds "RECONCILE" entry ∧ ∃ o, parseExecutionObservation (fieldOf entry.2 "observation") = .ok o ∧
    o.outcome = outcome ∧ o.reservationGeneration = generation

def Refused (entry : ReplayRecord × Plain) : Prop :=
  ∀ after, applyTransition (requestOver entry.1 entry.2) ≠ .ok after

def Consumes (entry : ReplayRecord × Plain) : Prop :=
  entry.1.status ≠ .consumed ∧ (advance entry.1 entry.2).status = .consumed

theorem entry_cases (entry : ReplayRecord × Plain) : (Refused entry ∧ advance entry.1 entry.2 = entry.1) ∨
    (applyTransition (requestOver entry.1 entry.2) = .ok (advance entry.1 entry.2) ∧
      ∃ kind, Applied entry.1 entry.2 kind (advance entry.1 entry.2)) := by
  unfold advance Refused
  cases taken : applyTransition (requestOver entry.1 entry.2) with
  | error _ =>
    refine .inl ⟨?_, rfl⟩
    intro after same
    cases same
  | ok after => exact .inr ⟨rfl, applyTransition_cases taken⟩

structure SingleUse (log : Log) (finish : ReplayRecord) : Prop where
  ascending : ∀ {earlier entry later}, log = earlier ++ entry :: later →
    entry.1.reservationGeneration.1 ≤ finish.reservationGeneration.1 ∧
      ∀ next ∈ later, entry.1.reservationGeneration.1 ≤ next.1.reservationGeneration.1
  counted : ∀ entry ∈ log, Succeeds "RESERVE" entry →
    (advance entry.1 entry.2).reservationGeneration.1 = entry.1.reservationGeneration.1 + 1
  terminal : ∀ {earlier entry later}, log = earlier ++ entry :: later → entry.1.status = .consumed →
    finish = entry.1 ∧ ∀ next ∈ entry :: later, next.1 = entry.1 ∧ Refused next
  once : ∀ {earlier first middle second later}, log = earlier ++ first :: (middle ++ second :: later) →
    ¬(Consumes first ∧ Consumes second)
  fenced : ∀ {earlier first middle second later}, log = earlier ++ first :: (middle ++ second :: later) →
    Succeeds "RESERVE" first → Succeeds "RESERVE" second →
      ∃ entry ∈ middle, Resolves .failed (advance first.1 first.2).reservationGeneration entry
  left : ∀ entry ∈ log, entry.1.status = .reserved ∨ entry.1.status = .quarantined →
    (advance entry.1 entry.2).status = entry.1.status ∨
      (entry.1.status = .reserved ∧ (advance entry.1 entry.2).status = .quarantined) ∨
      ∃ outcome, Resolves outcome entry.1.reservationGeneration entry
  freed : ∀ {earlier entry later}, log = earlier ++ entry :: later → entry.1.status ≠ .unused →
    finish.status = .unused → ∃ next ∈ entry :: later, Resolves .failed next.1.reservationGeneration next

theorem generation_le (entry : ReplayRecord × Plain) :
    entry.1.reservationGeneration.1 ≤ (advance entry.1 entry.2).reservationGeneration.1 := by
  rcases entry_cases entry with ⟨_, kept⟩ | ⟨_, _, applied⟩
  · rw [kept]
  · cases applied with
    | reserve _ _ _ next => omega
    | quarantine _ _ _ same => rw [same]
    | reconcile _ _ _ _ _ same => rw [same]

variable {start finish : ReplayRecord} {log : Log}

theorem trace_ascending (trace : Trace Advances start log finish) :
    start.reservationGeneration.1 ≤ finish.reservationGeneration.1 ∧
      ∀ next ∈ log, start.reservationGeneration.1 ≤ next.1.reservationGeneration.1 := by
  refine trace.history (fun log record => start.reservationGeneration.1 ≤ record.reservationGeneration.1 ∧
    ∀ next ∈ log, start.reservationGeneration.1 ≤ next.1.reservationGeneration.1) ⟨le_rfl, fun _ member => absurd member not_mem_nil⟩ ?_
  rintro log before request _ _ ⟨here, all⟩ rfl
  refine ⟨here.trans (generation_le (before, request)), ?_⟩
  intro next member
  rcases mem_append.mp member with old | last
  · exact all next old
  · rw [mem_singleton.mp last]
    exact here

theorem consumed_refused {entry : ReplayRecord × Plain} (spent : entry.1.status = .consumed) :
    Refused entry ∧ advance entry.1 entry.2 = entry.1 := by
  rcases entry_cases entry with refused | ⟨_, _, applied⟩
  · exact refused
  · exfalso
    cases applied with
    | reserve _ free => rw [spent] at free; cases free
    | quarantine _ held => rw [spent] at held; cases held
    | reconcile _ held => rw [spent] at held; rcases held with held | held <;> cases held

theorem trace_consumed (trace : Trace Advances start log finish)
    (spent : start.status = .consumed) : finish = start ∧ ∀ next ∈ log, next.1 = start ∧ Refused next := by
  refine trace.history (fun log record => record = start ∧ ∀ next ∈ log, next.1 = start ∧ Refused next)
    ⟨rfl, fun _ member => absurd member not_mem_nil⟩ ?_
  rintro log before request _ _ ⟨rfl, all⟩ rfl
  obtain ⟨refused, kept⟩ := @consumed_refused (before, request) spent
  refine ⟨kept, ?_⟩
  intro next member
  rcases mem_append.mp member with old | last
  · exact all next old
  · rw [mem_singleton.mp last]
    exact ⟨rfl, refused⟩

theorem step_held {entry : ReplayRecord × Plain} (held : entry.1.status ≠ .unused) :
    Resolves .failed entry.1.reservationGeneration entry ∨ ((advance entry.1 entry.2).status ≠ .unused ∧
        (advance entry.1 entry.2).reservationGeneration = entry.1.reservationGeneration) := by
  rcases entry_cases entry with ⟨_, kept⟩ | ⟨ok, _, applied⟩
  · rw [kept]
    exact .inr ⟨held, rfl⟩
  · cases applied with
    | reserve _ free => exact absurd free held
    | quarantine _ _ now same =>
      rw [now]
      exact .inr ⟨nofun, same⟩
    | @reconcile _ o asked _ observed own now same =>
      cases outcome : o.outcome with
      | settled =>
        rw [outcome] at now
        rw [now]
        exact .inr ⟨nofun, same⟩
      | failed => exact .inl ⟨⟨asked, ok⟩, o, observed, outcome, own⟩

theorem trace_held (trace : Trace Advances start log finish) (held : start.status ≠ .unused) :
    (∃ entry ∈ log, Resolves .failed start.reservationGeneration entry ∧
      entry.1.reservationGeneration = start.reservationGeneration) ∨
      (finish.status ≠ .unused ∧ finish.reservationGeneration = start.reservationGeneration) := by
  refine trace.history (fun log record =>
    (∃ entry ∈ log, Resolves .failed start.reservationGeneration entry ∧
      entry.1.reservationGeneration = start.reservationGeneration) ∨
      (record.status ≠ .unused ∧ record.reservationGeneration = start.reservationGeneration)) (.inr ⟨held, rfl⟩) ?_
  rintro log before request _ _ (⟨entry, member, resolved⟩ | ⟨busy, same⟩) rfl
  · exact .inl ⟨entry, mem_append_left _ member, resolved⟩
  · rcases @step_held (before, request) busy with failed | ⟨still, kept⟩
    · exact .inl ⟨_, mem_append_right _ (mem_singleton_self _), same ▸ failed, same⟩
    · exact .inr ⟨still, kept.trans same⟩

variable {entry : ReplayRecord × Plain}

theorem reserve_counted (reserves : Succeeds "RESERVE" entry) :
    entry.1.status = .unused ∧ (advance entry.1 entry.2).status = .reserved ∧
      (advance entry.1 entry.2).reservationGeneration.1 = entry.1.reservationGeneration.1 + 1 := by
  obtain ⟨asked, ok⟩ := reserves
  obtain ⟨kind, applied⟩ := applyTransition_cases ok
  cases applied with
  | reserve _ free held next => exact ⟨free, held, next⟩
  | quarantine other | reconcile other => exact absurd (Plain.text.inj (asked.symm.trans other)) (by decide)

theorem step_left (held : entry.1.status = .reserved ∨ entry.1.status = .quarantined) :
    (advance entry.1 entry.2).status = entry.1.status ∨
      (entry.1.status = .reserved ∧ (advance entry.1 entry.2).status = .quarantined) ∨
      ∃ outcome, Resolves outcome entry.1.reservationGeneration entry := by
  rcases entry_cases entry with ⟨_, kept⟩ | ⟨ok, _, applied⟩
  · exact .inl (congrArg ReplayRecord.status kept)
  · cases applied with
    | reserve _ free => rw [free] at held; rcases held with held | held <;> cases held
    | quarantine _ before now => exact .inr (.inl ⟨before, now⟩)
    | @reconcile _ o asked _ observed own => exact .inr (.inr ⟨o.outcome, ⟨asked, ok⟩, o, observed, rfl, own⟩)

/-- Single use, over any requests whatever in any order. Generations count the reservations, a
consumed record is final, and only a failure seen of a reservation itself frees what it holds. -/
theorem single_use (key : Digest32) (at_ : UnixSeconds) (requests : List Plain) :
    SingleUse (runLog (unusedRecord key at_) requests) (requests.foldl advance (unusedRecord key at_)) := by
  have trace := runLog_trace (unusedRecord key at_) requests
  refine ⟨?ascending, ?counted, ?terminal, ?once, ?fenced, ?left, ?freed⟩
  case ascending =>
    intro earlier entry later parts
    obtain ⟨after, _, taken, onward⟩ := trace.split parts
    obtain ⟨last, all⟩ := trace_ascending (onward.cons taken)
    exact ⟨last, fun next member => all next (mem_cons_of_mem _ member)⟩
  case counted =>
    intro entry _ reserves
    exact (reserve_counted reserves).2.2
  case terminal =>
    intro earlier entry later parts spent
    obtain ⟨after, _, taken, onward⟩ := trace.split parts
    exact trace_consumed (onward.cons taken) spent
  case once =>
    rintro earlier first middle second later parts ⟨⟨_, spent⟩, fresh, _⟩
    obtain ⟨after, _, rfl, onward⟩ := trace.split parts
    obtain ⟨_, all⟩ := trace_consumed onward spent
    have same := (all second (mem_append_right _ (mem_cons_self ..))).1
    exact fresh (same ▸ spent)
  case fenced =>
    intro earlier first middle second later parts reserves again
    obtain ⟨after, _, rfl, onward⟩ := trace.split parts
    obtain ⟨_, between, _, _⟩ := onward.split rfl
    obtain ⟨_, held, _⟩ := reserve_counted reserves
    rcases trace_held between (by rw [held]; exact ReplayStatus.noConfusion) with ⟨entry, member, failed, _⟩ | ⟨busy, _⟩
    · exact ⟨entry, member, failed⟩
    · exact absurd (reserve_counted again).1 busy
  case left =>
    intro entry _ held
    exact step_left held
  case freed =>
    intro earlier entry later parts held free
    obtain ⟨after, _, taken, onward⟩ := trace.split parts
    rcases trace_held (onward.cons taken) held with ⟨next, member, failed, same⟩ | ⟨busy, _⟩
    · exact ⟨next, member, same ▸ failed⟩
    · exact absurd free busy

end Runs

section Closure

/-- The record a result reports, as the store would hold it: a refusal has none. -/
def reported : ReplayResult ReplayRecord → Option Plain
  | .ok record => some (plainRecord record)
  | .error _ => none

/-- Every record a transition reports is read back from the store as itself, and a refusal reports
an error and no record. -/
theorem replay_closed (request : Plain) : (∀ stored, reported (applyTransition request) = some stored →
      ∃ record, applyTransition request = .ok record ∧ parseReplayRecord stored = .ok record ∧
        plainRecord record = stored) ∧
    ∀ error, applyTransition request = .error error → reported (applyTransition request) = none := by
  refine ⟨fun stored told => ?_, fun error refused => ?_⟩
  · cases applied : applyTransition request with
    | error _ =>
      rw [applied] at told
      cases told
    | ok record =>
      rw [applied] at told
      obtain rfl := Option.some.inj told
      exact ⟨record, rfl, parseReplayRecord_own record, rfl⟩
  · rw [refused]
    rfl

def sampleUnused : ReplayRecord := unusedRecord 1 ⟨0, seconds_zero⟩

def sampleTransition (transition : String) : Plain := requestOver sampleUnused (.object
  [("transition", .text transition), ("nowUnixSeconds", .bigint 0), ("reservationSeconds", .bigint 60)])

theorem sampleTransition_read (rest : Fields) : parseReplayRecord
    (field (("current", plainRecord sampleUnused) :: rest) "current") = .ok sampleUnused := by
  rw [field_cons, if_pos rfl, parseReplayRecord_own]

theorem replay_closed_sample : ∃ record, applyTransition (sampleTransition "RESERVE") = .ok record ∧
    record.status = .reserved ∧ parseReplayRecord (plainRecord record) = .ok record := by
  obtain ⟨record, applied, status⟩ : ∃ record, applyTransition (sampleTransition "RESERVE") = .ok record ∧
      record.status = .reserved := by
    refine ⟨reserveRecord sampleUnused ⟨0, by decide⟩ ⟨60, by decide⟩ (by decide) (by decide), ?_, rfl⟩
    simp only [sampleTransition, requestOver, applyTransition, sampleTransition_read]
    rfl
  obtain ⟨same, again, read, _⟩ := (replay_closed (sampleTransition "RESERVE")).1 (plainRecord record)
    (by rw [applied]; rfl)
  obtain rfl := Except.ok.inj (applied.symm.trans again)
  exact ⟨record, applied, status, read⟩

/-- Nothing to quarantine: the refusal does not hand the record back. -/
theorem refusal_without_record : ¬ ∀ request current error,
    parseReplayRecord (fieldOf request "current") = .ok current → applyTransition request = .error error →
      reported (applyTransition request) = some (plainRecord current) := by
  intro handed
  have refused : applyTransition (sampleTransition "QUARANTINE") = .error .notReserved := by
    simp only [sampleTransition, requestOver, applyTransition, sampleTransition_read]
    rfl
  have told := handed (sampleTransition "QUARANTINE") sampleUnused .notReserved (sampleTransition_read _) refused
  rw [refused] at told
  cases told

end Closure

end Mandate.Kernel
