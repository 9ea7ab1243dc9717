import Mandate.Lib.Optimistic
import Mandate.Ledger.Transitions

/-! The compare-and-append store: per principal, the committed batches and the state they fold
to. A commit is one critical section, and a fault inside it leaves the log as it was. -/
namespace Mandate.Ledger
open Core Lib.Optimistic

structure LedgerSnapshot where
  principal : PrincipalId
  version : Nat
  head : LedgerHeadDigest
  state : LedgerState

structure PrincipalLog where
  state : LedgerState
  batches : List CommittedBatch

inductive FaultPoint | beforeCas | afterVersionCheck | afterValidation | beforePublish

inductive ConflictReason | versionConflict | headMismatch

inductive CommitResult
  | committed (snapshot : LedgerSnapshot)
  | conflict (reason : ConflictReason) (version : Nat) (head : LedgerHeadDigest)
  | refused (refusal : LedgerRefusal)

structure Stamp where
  version : Nat
  head : LedgerHeadDigest

def LedgerSnapshot.stamp (snapshot : LedgerSnapshot) : Stamp := ⟨snapshot.version, snapshot.head⟩

def snapshotOf (principal : PrincipalId) (state : LedgerState) : LedgerSnapshot :=
  ⟨principal, state.version, state.head, state⟩

def readLog (principal : PrincipalId) (log : PrincipalLog) : LedgerSnapshot := snapshotOf principal log.state

def conflictReason (s : LedgerState) (expected : Stamp) : ConflictReason :=
  if s.version ≠ expected.version then .versionConflict else .headMismatch

variable [Keccak]

def emptyLog (principal : PrincipalId) : PrincipalLog := ⟨emptyLedgerState principal, []⟩

/-- A reply, unless it threw, and the log it publishes, if any: both come after the last fault point. -/
def compareAndAppend (rules : ReducerRules) (fault : FaultPoint → Bool) (principal : PrincipalId)
    (log : PrincipalLog) (expected : Stamp) (events : List LedgerEvent) :
    Option CommitResult × Option PrincipalLog :=
  if fault .beforeCas then (none, none)
  else if log.state.version ≠ expected.version ∨ log.state.head ≠ expected.head then
    (some (.conflict (conflictReason log.state expected) log.state.version log.state.head), none)
  else if fault .afterVersionCheck then (none, none)
  else match applyBatch log.state events rules with
    | .error .thrown => (none, none)
    | .error (.refused refusal) => (some (.refused refusal), none)
    | .ok applied =>
      if fault .afterValidation || fault .beforePublish then (none, none)
      else (some (.committed (snapshotOf principal applied.state)),
        some ⟨applied.state, log.batches ++ [committedBatch log.state events applied]⟩)

def inMemoryStore (rules : ReducerRules) : Store PrincipalId PrincipalLog LedgerSnapshot Stamp
    (List LedgerEvent) CommitResult (FaultPoint → Bool) where
  view := readLog
  append := compareAndAppend rules

@[simp] theorem inMemoryStore_view (rules : ReducerRules) (principal : PrincipalId) (log : PrincipalLog) :
    (inMemoryStore rules).view principal log = readLog principal log := rfl

@[simp] theorem inMemoryStore_append (rules : ReducerRules) :
    (inMemoryStore rules).append = compareAndAppend rules := rfl

def LogSound (rules : ReducerRules) (principal : PrincipalId) (log : PrincipalLog) : Prop :=
  Run rules principal log.batches log.state

section Appending
variable {rules : ReducerRules} {fault : FaultPoint → Bool} {principal : PrincipalId}
  {log after : PrincipalLog} {expected : Stamp} {events : List LedgerEvent} {reply : Option CommitResult}

theorem compareAndAppend_published
    (appended : compareAndAppend rules fault principal log expected events = (reply, some after)) :
    expected = ⟨log.state.version, log.state.head⟩ ∧
      ∃ applied, applyBatch log.state events rules = .ok applied ∧
        reply = some (.committed (snapshotOf principal applied.state)) ∧
        after = ⟨applied.state, log.batches ++ [committedBatch log.state events applied]⟩ := by
  unfold compareAndAppend at appended
  by_cases early : fault .beforeCas = true
  · simp [early] at appended
  by_cases moved : log.state.version ≠ expected.version ∨ log.state.head ≠ expected.head
  · simp [early, moved] at appended
  by_cases late : fault .afterVersionCheck = true
  · simp [early, moved, late] at appended
  rw [if_neg early, if_neg moved, if_neg late] at appended
  simp only [not_or, not_not] at moved
  refine ⟨by rw [moved.1, moved.2], ?_⟩
  cases outcome : applyBatch log.state events rules with
  | error fault => cases fault <;> simp [outcome] at appended
  | ok applied =>
    by_cases faulted : (fault .afterValidation || fault .beforePublish) = true
    · simp [outcome, faulted] at appended
    simp only [outcome, faulted] at appended
    obtain ⟨replied, published⟩ := Prod.mk.inj appended
    exact ⟨applied, rfl, replied.symm, (Option.some.inj published).symm⟩

variable {applied : AppliedBatch}

theorem compareAndAppend_current (accepted : applyBatch log.state events rules = .ok applied) :
    compareAndAppend rules (fun _ => false) principal log ⟨log.state.version, log.state.head⟩ events =
      (some (.committed (snapshotOf principal applied.state)),
        some ⟨applied.state, log.batches ++ [committedBatch log.state events applied]⟩) := by
  simp [compareAndAppend, accepted]

theorem compareAndAppend_unpublished {result : CommitResult}
    (appended : compareAndAppend rules fault principal log expected events = (some result, none)) :
    (∃ reason, result = .conflict reason log.state.version log.state.head) ∨
      ∃ refusal, result = .refused refusal ∧ applyBatch log.state events rules = .error (.refused refusal) := by
  unfold compareAndAppend at appended
  by_cases early : fault .beforeCas = true
  · simp [early] at appended
  by_cases moved : log.state.version ≠ expected.version ∨ log.state.head ≠ expected.head
  · rw [if_neg early, if_pos moved] at appended
    obtain ⟨replied, _⟩ := Prod.mk.inj appended
    exact .inl ⟨_, (Option.some.inj replied).symm⟩
  by_cases late : fault .afterVersionCheck = true
  · simp [early, moved, late] at appended
  rw [if_neg early, if_neg moved, if_neg late] at appended
  cases outcome : applyBatch log.state events rules with
  | error fault =>
    cases fault with
    | thrown => simp [outcome] at appended
    | refused refusal =>
      simp only [outcome] at appended
      obtain ⟨replied, _⟩ := Prod.mk.inj appended
      exact .inr ⟨refusal, (Option.some.inj replied).symm, rfl⟩
  | ok applied =>
    by_cases faulted : (fault .afterValidation || fault .beforePublish) = true <;>
      simp [outcome, faulted] at appended

theorem applyBatch_version {s : LedgerState}
    (ok : applyBatch s events rules = .ok applied) : applied.state.version = s.version + 1 := by
  obtain ⟨_, _, _, state⟩ := applyBatch_ok ok
  rw [state]

theorem inMemoryStore_lawful (rules : ReducerRules) :
    Lawful (inMemoryStore rules) LedgerSnapshot.stamp (LogSound rules) (·.state.version) (·.version) where
  viewed _ _ := rfl
  replies appended := by
    obtain ⟨_, _, _, rfl, _⟩ := compareAndAppend_published appended
    rfl
  older _ appended := by
    obtain ⟨_, applied, accepted, _, rfl⟩ := compareAndAppend_published appended
    rw [applyBatch_version accepted]
    omega
  current _ appended := by
    obtain ⟨expected, _⟩ := compareAndAppend_published appended
    exact congrArg Stamp.version expected
  kept run appended := by
    obtain ⟨_, applied, accepted, _, rfl⟩ := compareAndAppend_published appended
    exact .batch run accepted

end Appending

end Mandate.Ledger
