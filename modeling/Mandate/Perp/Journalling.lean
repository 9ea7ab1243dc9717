import Mandate.Perp.Submission

/-! The journal over whole runs: signers issuing and recovering in any interleaving, crashing
anywhere. One client at most is past an attempt's opening, and only a recovery gets in its way. -/
set_option linter.dupNamespace false
namespace Mandate.Perp
open Core Ledger Control Lib.Wire Lib.Text Lib.Calls List Lib.Machine
open Option (some.inj bind_eq_some_iff)
open Function (update update_self update_of_ne)

abbrev SignerSystem (ι : Type) := System SignerStore SignerCall SignerReply SignerResult ι
abbrev SignerEvent (ι : Type) := Event SignerCall SignerReply ι
abbrev SignerHistory (ι : Type) := History SignerStore SignerCall SignerReply SignerResult ι

def opens (a : AttemptId) : SignerAnswer → Bool
  | ⟨.opening _ b _ _ _, .ok _⟩ => b = a
  | _ => false

def sends (a : AttemptId) : SignerAnswer → Bool
  | ⟨.sendTx b _ _, _⟩ => b = a
  | _ => false

section Counting
variable {ι : Type}

def times (kind : SignerAnswer → Bool) (log : SignerHistory ι) : Nat :=
  ((log.filterMap (·.2)).filter fun e => kind e.answer).length

theorem times_none (kind : SignerAnswer → Bool) (log : SignerHistory ι) (sys : SignerSystem ι) :
    times kind (log ++ [(sys, none)]) = times kind log := by
  simp [times]

theorem times_some (kind : SignerAnswer → Bool) (log : SignerHistory ι) (sys : SignerSystem ι)
    (e : SignerEvent ι) :
    times kind (log ++ [(sys, some e)]) = times kind log + if kind e.answer then 1 else 0 := by
  by_cases counted : kind e.answer = true <;> simp [times, counted]

end Counting

def Recovered (j : IssuanceJournal) (a : AttemptId) : Prop := ∃ e ∈ j.eventsOf a, e.detail ∈ recoveries

instance (j : IssuanceJournal) (a : AttemptId) : Decidable (Recovered j a) :=
  inferInstanceAs (Decidable (∃ e ∈ j.eventsOf a, e.detail ∈ recoveries))

/-- Neither a submission nor its settlement as acknowledged or rejected comes after a recovery has
moved the attempt's record. -/
def Undisturbed {ι : Type} (entry : SignerSystem ι × Option (SignerEvent ι)) : Prop :=
  ∀ e, entry.2 = some e → match e.answer.1 with
    | .sendTx a _ _ => ¬ Recovered entry.1.store.journal a
    | .transition a target _ _ => e.lost = false → target ∈ [IssuanceState.submissionAcknowledged,
        .submissionRejected] → ¬ Recovered entry.1.store.journal a
    | _ => True

/-- Where a client past the opening of an attempt finds its record; `disturbed` where a settlement
came too late. -/
def Stage (j : IssuanceJournal) (sent : AttemptId → Nat) (disturbed : Prop) : Phase → Prop
  | .idle => True
  | .opened a => sent a = 0 ∧ ∃ r, j.records a = some r ∧ (r.state = .artifactIssued ∨ Recovered j a)
  | .sending a => sent a = 0 ∧ ∃ r, j.records a = some r ∧ (r.state = .submissionSent ∨ Recovered j a)
  | .sent a => ∃ r, j.records a = some r ∧ (r.state = .submissionSent ∨ Recovered j a)
  | .settled a state => state ∈ NEXT .submissionSent ∧
      ∃ r, j.records a = some r ∧ (r.state = state ∨ disturbed)

/-- What a served call does to the journal, its client and the counts. -/
inductive Served (store : SignerStore) : SignerAnswer → SignerStore → Prop
  | quiet {answer : SignerAnswer} {after : SignerStore} (journal : after.journal = store.journal)
      (opens_none : ∀ a, opens a answer = false) (sends_none : ∀ a, sends a answer = false)
      (still : ∀ phase, advance phase answer = phase) : Served store answer after
  | opened {principal : PrincipalId} {a : AttemptId} {state : OpeningState} {artifact : Option Bytes}
      {detail : String} {after : SignerStore}
      (admitted : ((store.ledger principal).state.attempts.lookup a).isSome = true)
      (row : store.journal.records a = none)
      (written : store.journal.write ⟨a, state.1, artifact, none, detail, 1⟩ = some after.journal) :
      Served store ⟨.opening principal a state artifact detail, .ok ()⟩ after
  | moved {a : AttemptId} {target : IssuanceState} {detail : String} {venueRef : Option String}
      {reply : Except JournalReason Unit} {after : SignerStore}
      (transition : store.journal.transition a target detail venueRef = some (reply, after.journal)) :
      Served store ⟨.transition a target detail venueRef, reply⟩ after
  | sent {a : AttemptId} {txType : Nat} {txInfo : String} {reply : Submission} :
      Served store ⟨.sendTx a txType txInfo, reply⟩ store

theorem served_of_answers [Keccak] {rules : ReducerRules} {request : SignerCall} {store after : SignerStore}
    {reply : SignerReply request} (answered : answers rules request store reply after) :
    Served store ⟨request, reply⟩ after := by
  have still {request : SignerCall} {reply : SignerReply request}
      (other : ∀ phase, advance phase ⟨request, reply⟩ = phase) (journal : after.journal = store.journal)
      (opens_none : ∀ a, opens a ⟨request, reply⟩ = false) (sends_none : ∀ a, sends a ⟨request, reply⟩ = false) :
      Served store ⟨request, reply⟩ after := .quiet journal opens_none sends_none other
  cases request with
  | opening principal a state artifact detail =>
    obtain ⟨served, _⟩ := answered
    rcases IssuanceJournal.opening_cases served with ⟨reason, rfl, same⟩ | ⟨rfl, admitted, row, written⟩
    · obtain ⟨state, _⟩ := state
      refine still (fun phase => ?_) same (fun _ => rfl) fun _ => rfl
      cases phase <;> cases state <;> rfl
    · exact .opened admitted row written
  | transition a target detail venueRef => exact .moved answered.1
  | sendTx a txType txInfo =>
    obtain rfl : after = store := answered
    exact .sent
  | append principal expected events =>
    obtain ⟨_, _, _, rfl⟩ := answered
    exact still (fun phase => by cases phase <;> rfl) rfl (fun _ => rfl) fun _ => rfl
  | readCommitted _ | get _ =>
    obtain ⟨_, rfl⟩ := answered
    exact still (fun phase => by cases phase <;> rfl) rfl (fun _ => rfl) fun _ => rfl
  | _ =>
    obtain rfl : after = store := answered
    exact still (fun phase => by cases phase <;> rfl) rfl (fun _ => rfl) fun _ => rfl

section Writing
variable {j next : IssuanceJournal} {record : IssuanceRecord} {a : AttemptId}

theorem write_other (written : j.write record = some next) (other : a ≠ record.attempt) :
    next.records a = j.records a ∧ (Recovered next a ↔ Recovered j a) := by
  obtain ⟨records, events⟩ := IssuanceJournal.write_eventsOf written a
  rw [if_neg other, append_nil] at events
  exact ⟨by rw [records, update_of_ne other], by rw [Recovered, Recovered, events]⟩

theorem write_own (written : j.write record = some next) : next.records record.attempt = some record ∧
    (Recovered next record.attempt ↔ Recovered j record.attempt ∨ record.detail ∈ recoveries) := by
  obtain ⟨records, events⟩ := IssuanceJournal.write_eventsOf written record.attempt
  refine ⟨by rw [records, update_self], ?_⟩
  rw [Recovered, Recovered, events, if_pos rfl]
  simp only [mem_append, mem_singleton]
  constructor
  · rintro ⟨e, old | rfl, listed⟩
    · exact .inl ⟨e, old, listed⟩
    · exact .inr listed
  · rintro (⟨e, old, listed⟩ | listed)
    · exact ⟨e, .inl old, listed⟩
    · exact ⟨_, .inr rfl, listed⟩

end Writing

section Stages
variable {j next : IssuanceJournal} {sent sent' : AttemptId → Nat} {disturbed disturbed' : Prop} {phase : Phase}

theorem Stage.kept (stage : Stage j sent disturbed phase) (onward : disturbed → disturbed')
    (alone : ∀ a, phase.attempt = some a → next.records a = j.records a ∧ (Recovered next a ↔ Recovered j a) ∧
      sent' a = sent a) : Stage next sent' disturbed' phase := by
  cases phase with
  | idle => trivial
  | settled a state =>
    obtain ⟨final, r, row, told⟩ := stage
    obtain ⟨records, _, _⟩ := alone a rfl
    exact ⟨final, r, by rw [records, row], told.imp_right onward⟩
  | sent a =>
    obtain ⟨records, recovered, _⟩ := alone a rfl
    simpa only [Stage, records, recovered] using stage
  | _ a =>
    obtain ⟨records, recovered, same⟩ := alone a rfl
    simpa only [Stage, records, recovered, same] using stage

variable {a : AttemptId}

theorem Stage.recorded (stage : Stage j sent disturbed phase) (mine : phase.attempt = some a) :
    ∃ r, j.records a = some r := by
  cases phase with
  | idle => cases mine
  | sent b =>
    obtain rfl : b = a := some.inj mine
    obtain ⟨r, row, _⟩ := stage
    exact ⟨r, row⟩
  | _ b =>
    obtain rfl : b = a := some.inj mine
    obtain ⟨_, r, row, _⟩ := stage
    exact ⟨r, row⟩

theorem Stage.recovered (stage : Stage j sent disturbed phase) {r moved : IssuanceRecord}
    (mine : phase.attempt = some a) (row : j.records a = some r) (able : .outcomeUnknown ∈ NEXT r.state)
    (after : next.records a = some moved) (recovered : Recovered next a) :
    Stage next sent disturbed phase := by
  cases phase with
  | idle => cases mine
  | settled b state =>
    obtain rfl : b = a := some.inj mine
    obtain ⟨final, r', row', told⟩ := stage
    obtain rfl : r = r' := some.inj (row.symm.trans row')
    rcases told with rfl | told
    · -- A settled state has no way out.
      simp only [NEXT, mem_cons, not_mem_nil, or_false] at final
      rcases final with acknowledged | rejected | unknown
      · simp [acknowledged, NEXT] at able
      · simp [rejected, NEXT] at able
      · simp [unknown, NEXT] at able
    · exact ⟨final, moved, after, .inr told⟩
  | sent b =>
    obtain rfl : b = a := some.inj mine
    exact ⟨moved, after, .inr recovered⟩
  | _ b =>
    obtain rfl : b = a := some.inj mine
    exact ⟨stage.1, moved, after, .inr recovered⟩

end Stages

section Runs
variable {ι : Type} [DecidableEq ι]

def phaseAt (log : SignerHistory ι) (i : ι) : Phase := phaseOf (transcript i log)

def Disturbed (log : SignerHistory ι) : Prop := ∃ entry ∈ log, ¬ Undisturbed entry

def Alive (sys : SignerSystem ι) (i : ι) : Prop := sys.clients i ≠ .failed

structure Kept (log : SignerHistory ι) (sys : SignerSystem ι) : Prop where
  chronicled : Chronicled sys.store.journal
  recovered : ∀ a, Recovered sys.store.journal a →
    ∃ r, sys.store.journal.records a = some r ∧ r.state = .outcomeUnknown
  openings : ∀ a, times (opens a) log = if (sys.store.journal.records a).isSome then 1 else 0
  sendings : ∀ a, times (sends a) log ≤ 1 ∧ (sys.store.journal.records a = none → times (sends a) log = 0)
  alone : ∀ i k a, Alive sys i → Alive sys k → (phaseAt log i).attempt = some a →
    (phaseAt log k).attempt = some a → i = k
  stages : ∀ i, Alive sys i → Stage sys.store.journal (fun a => times (sends a) log) (Disturbed log) (phaseAt log i)

theorem kept_start {ledger : PrincipalId → PrincipalLog} {clients : ι → SignerProgram SignerResult} :
    Kept [] ⟨⟨ledger, .empty⟩, clients⟩ where
  chronicled := chronicled_empty
  recovered a := by
    rintro ⟨e, listed, _⟩
    cases listed
  openings a := rfl
  sendings a := ⟨Nat.zero_le _, fun _ => rfl⟩
  alone i k a _ _ here := by cases here
  stages i _ := trivial

variable {log : SignerHistory ι} {sys : SignerSystem ι}
  {lost : Bool} {next : SignerProgram SignerResult} {store : SignerStore}

theorem alive_served (log : SignerHistory ι) {i k : ι} (answer : SignerAnswer)
    (alive : Alive ⟨store, update sys.clients i (if lost then .failed else next)⟩ k) :
    (k ≠ i ∧ Alive sys k ∧ phaseAt (log ++ [(sys, some ⟨i, answer, lost⟩)]) k = phaseAt log k) ∨
      (k = i ∧ phaseAt (log ++ [(sys, some ⟨i, answer, lost⟩)]) k = advance (phaseAt log i) answer) := by
  by_cases mine : k = i
  · subst mine
    cases lost with
    | true => simp [Alive] at alive
    | false => exact .inr ⟨rfl, by rw [phaseAt, transcript_served, phaseOf_append, phaseAt]⟩
  · refine .inl ⟨mine, ?_, by rw [phaseAt, transcript_other (Ne.symm mine), phaseAt]⟩
    simpa [Alive, mine] using alive

omit [DecidableEq ι] in
theorem disturbed_append {entry : SignerSystem ι × Option (SignerEvent ι)} (disturbed : Disturbed log) :
    Disturbed (log ++ [entry]) := by
  obtain ⟨found, listed, late⟩ := disturbed
  exact ⟨found, mem_append_left _ listed, late⟩

theorem clients_served {i : ι} (answer : SignerAnswer) (lost : Bool) (next : SignerProgram SignerResult)
    (store : SignerStore) (kept : Kept log sys) (here : Alive sys i)
    (others : ∀ k, k ≠ i → Alive sys k → Stage store.journal
      (fun a => times (sends a) (log ++ [(sys, some ⟨i, answer, lost⟩)]))
      (Disturbed (log ++ [(sys, some ⟨i, answer, lost⟩)])) (phaseAt log k))
    (self : Stage store.journal (fun a => times (sends a) (log ++ [(sys, some ⟨i, answer, lost⟩)]))
      (Disturbed (log ++ [(sys, some ⟨i, answer, lost⟩)])) (advance (phaseAt log i) answer) ∨ lost = true)
    (fresh : ∀ a, (advance (phaseAt log i) answer).attempt = some a → (phaseAt log i).attempt = some a ∨
      ∀ k, Alive sys k → (phaseAt log k).attempt ≠ some a) :
    (∀ k k' a, Alive ⟨store, update sys.clients i (if lost then .failed else next)⟩ k →
      Alive ⟨store, update sys.clients i (if lost then .failed else next)⟩ k' →
      (phaseAt (log ++ [(sys, some ⟨i, answer, lost⟩)]) k).attempt = some a →
      (phaseAt (log ++ [(sys, some ⟨i, answer, lost⟩)]) k').attempt = some a → k = k') ∧
    ∀ k, Alive ⟨store, update sys.clients i (if lost then .failed else next)⟩ k →
      Stage store.journal (fun a => times (sends a) (log ++ [(sys, some ⟨i, answer, lost⟩)]))
        (Disturbed (log ++ [(sys, some ⟨i, answer, lost⟩)]))
        (phaseAt (log ++ [(sys, some ⟨i, answer, lost⟩)]) k) := by
  constructor
  · intro k k' a alive alive' mine mine'
    rcases alive_served log answer alive with ⟨other, living, same⟩ | ⟨rfl, same⟩ <;>
      rcases alive_served log answer alive' with ⟨other', living', same'⟩ | ⟨rfl, same'⟩ <;>
      rw [same] at mine <;> rw [same'] at mine'
    · exact kept.alone k k' a living living' mine mine'
    · rcases fresh a mine' with old | none
      · exact absurd (kept.alone k k' a living here mine old) other
      · exact absurd mine (none k living)
    · rcases fresh a mine with old | none
      · exact absurd (kept.alone k k' a here living' old mine').symm other'
      · exact absurd mine' (none k' living')
  · intro k alive
    rcases alive_served log answer alive with ⟨other, living, same⟩ | ⟨rfl, same⟩
    · rw [same]
      exact others k other living
    · rw [same]
      rcases self with stage | lost
      · exact stage
      · subst lost
        simp [Alive] at alive

variable {answer : SignerAnswer}

theorem kept_unmoved {i : ι} (kept : Kept log sys) (here : Alive sys i) (journal : store.journal = sys.store.journal)
    (opens_none : ∀ a, opens a answer = false) (sends_none : ∀ a, sends a answer = false)
    (same : (advance (phaseAt log i) answer).attempt = (phaseAt log i).attempt)
    (self : Stage sys.store.journal (fun a => times (sends a) log)
      (Disturbed (log ++ [(sys, some ⟨i, answer, lost⟩)])) (advance (phaseAt log i) answer) ∨ lost = true) :
    Kept (log ++ [(sys, some ⟨i, answer, lost⟩)])
      ⟨store, update sys.clients i (if lost then .failed else next)⟩ := by
  have opened (a : AttemptId) : times (opens a) (log ++ [(sys, some ⟨i, answer, lost⟩)]) = times (opens a) log := by
    rw [times_some, opens_none, if_neg (by decide), Nat.add_zero]
  have sent : (fun a => times (sends a) (log ++ [(sys, some ⟨i, answer, lost⟩)])) =
      fun a => times (sends a) log := by
    funext a
    rw [times_some, sends_none, if_neg (by decide), Nat.add_zero]
  obtain ⟨alone, stages⟩ := clients_served answer lost next store kept here (fun k _ living => by
      rw [journal, sent]
      exact (kept.stages k living).kept disturbed_append fun _ _ => ⟨rfl, Iff.rfl, rfl⟩)
    (by rw [journal, sent]; exact self) fun a mine => .inl (by rwa [same] at mine)
  refine ⟨?_, ?_, ?_, ?_, alone, stages⟩
  · dsimp only
    rw [journal]
    exact kept.chronicled
  · dsimp only
    rw [journal]
    exact kept.recovered
  · intro a
    rw [opened, kept.openings a]
    dsimp only
    rw [journal]
  · intro a
    rw [congrFun sent a]
    dsimp only
    rw [journal]
    exact kept.sendings a

theorem kept_quiet {i : ι} (kept : Kept log sys) (here : Alive sys i) (journal : store.journal = sys.store.journal)
    (opens_none : ∀ a, opens a answer = false) (sends_none : ∀ a, sends a answer = false)
    (still : ∀ phase, advance phase answer = phase) : Kept (log ++ [(sys, some ⟨i, answer, lost⟩)])
      ⟨store, update sys.clients i (if lost then .failed else next)⟩ := by
  refine kept_unmoved kept here journal opens_none sends_none (by rw [still]) (.inl ?_)
  rw [still]
  exact (kept.stages i here).kept disturbed_append fun _ _ => ⟨rfl, Iff.rfl, rfl⟩

variable {a : AttemptId} {detail : String}

theorem kept_opened {i : ι} {principal : PrincipalId} {state : OpeningState} {artifact : Option Bytes}
    (kept : Kept log sys) (here : Alive sys i) (idle : phaseAt log i = .idle) (fresh : detail ∉ recoveries)
    (row : sys.store.journal.records a = none)
    (written : sys.store.journal.write ⟨a, state.1, artifact, none, detail, 1⟩ = some store.journal) :
    Kept (log ++ [(sys, some ⟨i, ⟨.opening principal a state artifact detail, .ok ()⟩, lost⟩)])
      ⟨store, update sys.clients i (if lost then .failed else next)⟩ := by
  have sent (b : AttemptId) : times (sends b)
      (log ++ [(sys, some ⟨i, ⟨.opening principal a state artifact detail, .ok ()⟩, lost⟩)]) =
      times (sends b) log := by
    rw [times_some]
    rfl
  obtain ⟨own, recovered⟩ := write_own written
  have unrecovered : ¬ Recovered sys.store.journal a := by
    intro before
    obtain ⟨r, present, _⟩ := kept.recovered a before
    rw [row] at present
    cases present
  have stage (k : ι) (living : Alive sys k) : (phaseAt log k).attempt ≠ some a := by
    intro mine
    obtain ⟨r, present⟩ := (kept.stages k living).recorded mine
    rw [row] at present
    cases present
  have leads : advance .idle ⟨.opening principal a state artifact detail, .ok ()⟩ =
      if state.1 = .artifactIssued then .opened a else .idle := by
    obtain ⟨state, listed⟩ := state
    rcases mem_cons.mp listed with rfl | listed
    · rfl
    · obtain rfl := mem_singleton.mp listed
      rfl
  obtain ⟨alone, stages⟩ := clients_served ⟨.opening principal a state artifact detail, .ok ()⟩ lost next store
    kept here (fun k _ living => (kept.stages k living).kept disturbed_append fun b mine => by
      have other : b ≠ a := fun same => stage k living (same ▸ mine)
      obtain ⟨records, recovered⟩ := write_other written other
      exact ⟨records, recovered, sent b⟩)
    (.inl (by
      rw [idle, leads]
      by_cases issued : state.1 = .artifactIssued
      · rw [if_pos issued]
        exact ⟨(sent a).trans ((kept.sendings a).2 row), _, own, .inl issued⟩
      · rw [if_neg issued]
        trivial))
    fun b mine => .inr fun k living => by
      rw [idle, leads] at mine
      by_cases issued : state.1 = .artifactIssued
      · rw [if_pos issued] at mine
        obtain rfl : a = b := some.inj mine
        exact stage k living
      · rw [if_neg issued] at mine
        cases mine
  refine ⟨?_, ?_, ?_, ?_, alone, stages⟩
  · refine IssuanceJournal.chronicled_write kept.chronicled written ?_
    rw [kept.chronicled.unrecorded a row]
    exact .opened state detail
  · intro b marked
    by_cases same : b = a
    · subst same
      rcases recovered.mp marked with before | listed
      · exact absurd before unrecovered
      · exact absurd listed fresh
    · obtain ⟨records, others⟩ := write_other written same
      rw [records]
      exact kept.recovered b (others.mp marked)
  · intro b
    rw [times_some, kept.openings b]
    by_cases same : b = a
    · subst same
      simp [opens, row, own]
    · obtain ⟨records, _⟩ := write_other written same
      simp [opens, Ne.symm same, records]
  · intro b
    rw [sent]
    refine ⟨(kept.sendings b).1, fun none => (kept.sendings b).2 ?_⟩
    by_cases same : b = a
    · rw [same]
      exact row
    · rw [← (write_other written same).1]
      exact none

variable {target : IssuanceState}

theorem moved_books {record moved : IssuanceRecord} {next : IssuanceJournal} (kept : Kept log sys)
    (row : sys.store.journal.records a = some record) (allowed : target ∈ NEXT record.state)
    (written : sys.store.journal.write moved = some next)
    (is : moved.attempt = record.attempt ∧ moved.state = target ∧ moved.detail = detail ∧
      moved.seq = record.seq + 1) (honest : detail ∈ recoveries → target = .outcomeUnknown) :
    Chronicled next ∧ next.records a = some moved ∧ (Recovered next a ↔ detail ∈ recoveries) ∧
      (∀ b, b ≠ a → next.records b = sys.store.journal.records b ∧
        (Recovered next b ↔ Recovered sys.store.journal b)) ∧
      ∀ b, Recovered next b → ∃ r, next.records b = some r ∧ r.state = .outcomeUnknown := by
  obtain ⟨same, chronicle⟩ := kept.chronicled.recorded a record row
  obtain ⟨attempt, state, told, seq⟩ := is
  have whose : moved.attempt = a := attempt.trans same
  obtain ⟨own, recovered⟩ := write_own written
  rw [whose] at own recovered
  rw [told] at recovered
  have unrecovered : ¬ Recovered sys.store.journal a := by
    intro before
    obtain ⟨r, present, unknown⟩ := kept.recovered a before
    obtain rfl := some.inj (row.symm.trans present)
    rw [unknown] at allowed
    cases allowed
  have marked : Recovered next a ↔ detail ∈ recoveries := by
    rw [recovered]
    exact or_iff_right unrecovered
  have others (b : AttemptId) (other : b ≠ a) : next.records b = sys.store.journal.records b ∧
      (Recovered next b ↔ Recovered sys.store.journal b) := write_other written (by rw [whose]; exact other)
  refine ⟨?_, own, marked, others, ?_⟩
  · refine IssuanceJournal.chronicled_write kept.chronicled written ?_
    rw [whose, state, told, seq]
    exact .moved target detail chronicle allowed
  · intro b found
    by_cases mine : b = a
    · subst mine
      exact ⟨moved, own, state.trans (honest (marked.mp found))⟩
    · obtain ⟨records, iff⟩ := others b mine
      rw [records]
      exact kept.recovered b (iff.mp found)

variable {venueRef : Option String} {reply : Except JournalReason Unit}

theorem kept_refused {i : ι} (kept : Kept log sys) (here : Alive sys i)
    (permitted : Submits (transcript i log) (.transition a target detail venueRef))
    (journal : store.journal = sys.store.journal)
    (stuck : ∀ record, sys.store.journal.records a = some record → target ∉ NEXT record.state) :
    Kept (log ++ [(sys, some ⟨i, ⟨.transition a target detail venueRef, reply⟩, lost⟩)])
      ⟨store, update sys.clients i (if lost then .failed else next)⟩ := by
  have stage := kept.stages i here
  rcases permitted with ⟨idle, _, _⟩ | ⟨opened, rfl, _⟩ | ⟨sent, final, _⟩
  · have leads : advance (phaseAt log i) ⟨.transition a target detail venueRef, reply⟩ = .idle := by
      rw [phaseAt, idle]
      rfl
    refine kept_unmoved kept here journal (fun _ => rfl) (fun _ => rfl) ?_ (.inl ?_)
    · rw [leads, phaseAt, idle]
    · rw [leads]
      trivial
  · have leads : advance (phaseAt log i) ⟨.transition a .submissionSent detail venueRef, reply⟩ = .sending a := by
      rw [phaseAt, opened]
      rfl
    rw [phaseAt, opened] at stage
    obtain ⟨unsent, r, row, issued | recovered⟩ := stage
    · exact absurd (by rw [issued]; decide) (stuck r row)
    · refine kept_unmoved kept here journal (fun _ => rfl) (fun _ => rfl) ?_ (.inl ?_)
      · rw [leads, phaseAt, opened]
        rfl
      · rw [leads]
        exact ⟨unsent, r, row, .inr recovered⟩
  · have leads : advance (phaseAt log i) ⟨.transition a target detail venueRef, reply⟩ = .settled a target := by
      rw [phaseAt, sent]
      rfl
    rw [phaseAt, sent] at stage
    obtain ⟨r, row, told | recovered⟩ := stage
    · exact absurd (by rw [told]; exact final) (stuck r row)
    · refine kept_unmoved kept here journal (fun _ => rfl) (fun _ => rfl) ?_ ?_
      · rw [leads, phaseAt, sent]
        rfl
      · rw [leads]
        cases lost with
        | true => exact .inr rfl
        | false =>
          refine .inl ⟨final, r, row, ?_⟩
          by_cases unknown : target = .outcomeUnknown
          · obtain ⟨r', row', state⟩ := kept.recovered a recovered
            obtain rfl := some.inj (row.symm.trans row')
            exact .inl (state.trans unknown.symm)
          · -- The settlement comes after the recovery.
            refine .inr ⟨_, mem_append_right _ (mem_singleton_self _), fun undisturbed => ?_⟩
            refine undisturbed _ rfl rfl ?_ recovered
            simp only [NEXT, mem_cons, not_mem_nil, or_false] at final ⊢
            rcases final with acknowledged | rejected | other
            · exact .inl acknowledged
            · exact .inr rejected
            · exact absurd other unknown

theorem kept_moved {i : ι} (kept : Kept log sys) (here : Alive sys i)
    (permitted : Submits (transcript i log) (.transition a target detail venueRef))
    (served : sys.store.journal.transition a target detail venueRef = some (reply, store.journal)) :
    Kept (log ++ [(sys, some ⟨i, ⟨.transition a target detail venueRef, reply⟩, lost⟩)])
      ⟨store, update sys.clients i (if lost then .failed else next)⟩ := by
  rcases IssuanceJournal.transition_cases served with ⟨reason, rfl, journal, stuck⟩ |
    ⟨record, rfl, row, allowed, written⟩
  · exact kept_refused kept here permitted journal stuck
  have honest : detail ∈ recoveries → target = .outcomeUnknown := by
    intro listed
    rcases permitted with ⟨_, unknown, _⟩ | ⟨_, _, fresh⟩ | ⟨_, _, fresh⟩
    · exact unknown
    · exact absurd listed fresh
    · exact absurd listed fresh
  obtain ⟨chronicled, own, marked, others, recovered⟩ := moved_books kept row allowed written
    ⟨rfl, rfl, rfl, rfl⟩ honest
  have sent : (fun b => times (sends b)
      (log ++ [(sys, some ⟨i, ⟨.transition a target detail venueRef, .ok ()⟩, lost⟩)])) =
      fun b => times (sends b) log := by
    funext b
    rw [times_some]
    rfl
  have attempt : (advance (phaseAt log i) ⟨.transition a target detail venueRef, .ok ()⟩).attempt =
      (phaseAt log i).attempt := by
    rcases permitted with ⟨idle, _, _⟩ | ⟨opened, rfl, _⟩ | ⟨sent, _, _⟩
    · rw [phaseAt, idle]
      rfl
    · rw [phaseAt, opened]
      rfl
    · rw [phaseAt, sent]
      rfl
  obtain ⟨alone, stages⟩ := clients_served ⟨.transition a target detail venueRef, .ok ()⟩ lost next store kept here
    (fun k other living => by
      rw [sent]
      by_cases mine : (phaseAt log k).attempt = some a
      · rcases permitted with ⟨_, rfl, listed⟩ | ⟨opened, _, _⟩ | ⟨sent, _, _⟩
        · refine Stage.kept ((kept.stages k living).recovered mine row allowed own (marked.mpr listed))
            disturbed_append fun _ _ => ⟨rfl, Iff.rfl, rfl⟩
        · exact absurd (kept.alone k i a living here mine (by rw [phaseAt, opened]; rfl)) other
        · exact absurd (kept.alone k i a living here mine (by rw [phaseAt, sent]; rfl)) other
      · refine (kept.stages k living).kept disturbed_append fun b held => ?_
        have different : b ≠ a := fun same => mine (same ▸ held)
        exact ⟨(others b different).1, (others b different).2, rfl⟩)
    (.inl (by
      rw [sent]
      have stage := kept.stages i here
      rcases permitted with ⟨idle, _, _⟩ | ⟨opened, rfl, _⟩ | ⟨sent, final, _⟩
      · rw [phaseAt, idle]
        trivial
      · rw [phaseAt, opened] at stage
        rw [phaseAt, opened]
        exact ⟨stage.1, _, own, .inl rfl⟩
      · rw [phaseAt, sent]
        exact ⟨final, _, own, .inl rfl⟩))
    fun b mine => .inl (by rwa [attempt] at mine)
  refine ⟨chronicled, recovered, ?_, ?_, alone, stages⟩
  · intro b
    rw [times_some, kept.openings b]
    by_cases same : b = a
    · subst same
      simp [opens, row, own]
    · simp [opens, (others b same).1]
  · intro b
    rw [congrFun sent b]
    refine ⟨(kept.sendings b).1, fun none => (kept.sendings b).2 ?_⟩
    by_cases same : b = a
    · subst same
      rw [own] at none
      cases none
    · rw [← (others b same).1]
      exact none

theorem kept_sent {i : ι} {txType : Nat} {txInfo : String} {reply : Submission} (kept : Kept log sys)
    (here : Alive sys i) (permitted : phaseAt log i = .sending a) :
    Kept (log ++ [(sys, some ⟨i, ⟨.sendTx a txType txInfo, reply⟩, lost⟩)])
      ⟨sys.store, update sys.clients i (if lost then .failed else next)⟩ := by
  have stage := kept.stages i here
  rw [permitted] at stage
  obtain ⟨unsent, r, row, told⟩ := stage
  have sent (b : AttemptId) : times (sends b)
      (log ++ [(sys, some ⟨i, ⟨.sendTx a txType txInfo, reply⟩, lost⟩)]) =
      times (sends b) log + if a = b then 1 else 0 := by
    rw [times_some]
    simp [sends]
  obtain ⟨alone, stages⟩ := clients_served ⟨.sendTx a txType txInfo, reply⟩ lost next sys.store kept here
    (fun k other living => by
      refine (kept.stages k living).kept disturbed_append fun b held => ⟨rfl, Iff.rfl, ?_⟩
      have different : a ≠ b := by
        rintro rfl
        exact other (kept.alone k i a living here held (by rw [permitted]; rfl))
      rw [sent, if_neg different, Nat.add_zero])
    (.inl (by
      rw [permitted]
      exact ⟨r, row, told⟩))
    fun b mine => .inl (by rw [permitted] at mine ⊢; exact mine)
  refine ⟨kept.chronicled, kept.recovered, ?_, ?_, alone, stages⟩
  · intro b
    rw [times_some]
    exact kept.openings b
  · intro b
    rw [sent]
    by_cases same : a = b
    · subst same
      have none : times (sends a) log = 0 := unsent
      rw [if_pos rfl, none]
      refine ⟨Nat.le_refl _, fun none => ?_⟩
      rw [row] at none
      cases none
    · rw [if_neg same, Nat.add_zero]
      exact kept.sendings b

theorem kept_served [Keccak] {rules : ReducerRules} {i : ι} {request : SignerCall} {reply : SignerReply request} (kept : Kept log sys)
    (here : Alive sys i) (permitted : Submits (transcript i log) request)
    (answered : answers rules request sys.store reply store) :
    Kept (log ++ [(sys, some ⟨i, ⟨request, reply⟩, lost⟩)])
      ⟨store, update sys.clients i (if lost then .failed else next)⟩ := by
  generalize told : (⟨request, reply⟩ : SignerAnswer) = answer
  have served := told ▸ served_of_answers answered
  cases served with
  | quiet journal opens_none sends_none still => exact kept_quiet kept here journal opens_none sends_none still
  | opened admitted row written =>
    cases told
    exact kept_opened kept here permitted.1 permitted.2 row written
  | moved transition =>
    cases told
    exact kept_moved kept here permitted transition
  | sent =>
    cases told
    exact kept_sent kept here permitted

omit [DecidableEq ι] in
theorem settled_stays {after : SignerStore} {r : IssuanceRecord}
    (chronicled : Chronicled sys.store.journal) (served : Served sys.store answer after)
    (row : sys.store.journal.records a = some r) (settled : NEXT r.state = []) :
    after.journal.records a = some r := by
  cases served with
  | quiet journal _ _ _ =>
    rw [journal]
    exact row
  | @opened _ b _ _ _ _ _ none written =>
    have other : a ≠ b := by
      rintro rfl
      rw [none] at row
      cases row
    rw [(write_other written other).1]
    exact row
  | @moved b _ _ _ _ _ transition =>
    rcases IssuanceJournal.transition_cases transition with ⟨_, _, same, _⟩ | ⟨record, _, present, allowed, written⟩
    · rw [same]
      exact row
    · have whose := (chronicled.recorded b record present).1
      have other : a ≠ b := by
        rintro rfl
        obtain rfl := some.inj (row.symm.trans present)
        rw [settled] at allowed
        cases allowed
      rw [(write_other written (by dsimp only; rw [whose]; exact other)).1]
      exact row
  | sent => exact row

end Runs

section Claims
variable {ι : Type} [DecidableEq ι]

structure Journalled (log : SignerHistory ι) (finish : SignerSystem ι) : Prop where
  openings : ∀ a, times (opens a) log ≤ 1
  admitted : ∀ before e a, (before, some e) ∈ log → opens a e.answer = true →
    ∃ principal, ((before.store.ledger principal).state.attempts.lookup a).isSome = true
  sendings : ∀ a, times (sends a) log ≤ 1
  sending : ∀ before e a, (before, some e) ∈ log → sends a e.answer = true →
    ∃ r, before.store.journal.records a = some r ∧ r.state = .submissionSent
  contiguous : ∀ a, (finish.store.journal.eventsOf a).map (·.seq) =
    List.range' 1 (finish.store.journal.eventsOf a).length
  terminal : ∀ before label, (before, label) ∈ log → ∀ a r, before.store.journal.records a = some r →
    NEXT r.state = [] → finish.store.journal.records a = some r
  issued : ∀ i a txHash state detail, finish.clients i = .done (.issuance (.issued a txHash state detail)) →
    ∃ r, finish.store.journal.records a = some r ∧ r.state = state
  existing : ∀ i a issuance, finish.clients i = .done (.issuance (.existing a issuance)) →
    ∃ earlier before record later, log = earlier ++ (before, some ⟨i, ⟨.get a, record⟩, false⟩) :: later ∧
      transcript i later = [] ∧ issuance = (before.store.journal.records a).map (·.state)

variable [Keccak] {rules : ReducerRules} {uses : ι → SignerUse} {ledger : PrincipalId → PrincipalLog}
  {log : SignerHistory ι} {finish : SignerSystem ι}

/-- Every signer's call is about to be made, over a store whose journal is empty. -/
def signersAtStart (ledger : PrincipalId → PrincipalLog) (uses : ι → SignerUse) : SignerSystem ι :=
  ⟨⟨ledger, .empty⟩, fun i => (uses i).program⟩

private theorem obeying (trace : Trace (Turn (answers rules)) (signersAtStart ledger uses) log finish) :
    ∀ i, Obeys Any Submits Reports (finish.clients i) (transcript i log) :=
  (disciplined (fun _ => True) trace trivial (fun _ _ => ⟨trivial, trivial⟩) fun i => program_obeys (uses i)).2

theorem kept_run (trace : Trace (Turn (answers rules)) (signersAtStart ledger uses) log finish) :
    Kept log finish := by
  refine trace.history Kept kept_start fun {log before label after} earlier kept taken => ?_
  cases taken with
  | @crashed i request next turn =>
    have alive (k : ι) (living : Alive { before with clients := update before.clients i .failed } k) :
        Alive before k := by
      by_cases mine : k = i
      · subst mine
        simp [Alive] at living
      · simpa [Alive, mine] using living
    have same (k : ι) : phaseAt (log ++ [(before, none)]) k = phaseAt log k := by
      rw [phaseAt, transcript_crashed, phaseAt]
    refine ⟨kept.chronicled, kept.recovered, ?_, ?_, ?_, ?_⟩
    · intro a
      rw [times_none]
      exact kept.openings a
    · intro a
      rw [times_none]
      exact kept.sendings a
    · intro k k' a living living' mine mine'
      rw [same] at mine mine'
      exact kept.alone k k' a (alive k living) (alive k' living') mine mine'
    · intro k living
      rw [same]
      exact (kept.stages k (alive k living)).kept disturbed_append fun a _ => ⟨rfl, Iff.rfl, times_none _ _ _⟩
  | @served i request reply next store lost turn answered =>
    have standing := obeying earlier i
    rw [turn] at standing
    exact kept_served kept (by simp [Alive, turn]) standing.1 answered

theorem terminal_run (trace : Trace (Turn (answers rules)) (signersAtStart ledger uses) log finish) :
    ∀ before label, (before, label) ∈ log → ∀ a r, before.store.journal.records a = some r →
      NEXT r.state = [] → finish.store.journal.records a = some r := by
  refine trace.history (fun log (sys : SignerSystem ι) => ∀ before label, (before, label) ∈ log → ∀ a r,
    before.store.journal.records a = some r → NEXT r.state = [] → sys.store.journal.records a = some r)
    (fun _ _ listed => nomatch listed) fun {log now label after} earlier so_far taken => ?_
  intro before label' listed a r row settled
  have here : now.store.journal.records a = some r := by
    rcases mem_append.mp listed with old | new
    · exact so_far before label' old a r row settled
    · obtain ⟨rfl, rfl⟩ := Prod.mk.inj (mem_singleton.mp new)
      exact row
  cases taken with
  | crashed turn => exact here
  | served lost turn answered =>
    exact settled_stays (kept_run earlier).chronicled (served_of_answers answered) here settled

theorem recovered_stays {a : AttemptId} (trace : Trace (Turn (answers rules)) (signersAtStart ledger uses) log finish) :
    ∀ before label, (before, label) ∈ log → Recovered before.store.journal a →
      Recovered finish.store.journal a := by
  refine trace.history (fun log (sys : SignerSystem ι) => ∀ before label, (before, label) ∈ log →
    Recovered before.store.journal a → Recovered sys.store.journal a) (fun _ _ listed => nomatch listed)
    fun {log now label after} earlier so_far taken => ?_
  intro before label' listed marked
  have here : Recovered now.store.journal a := by
    rcases mem_append.mp listed with old | new
    · exact so_far before label' old marked
    · obtain ⟨rfl, rfl⟩ := Prod.mk.inj (mem_singleton.mp new)
      exact marked
  have kept {record : IssuanceRecord} {next : IssuanceJournal}
      (written : now.store.journal.write record = some next) : Recovered next a := by
    obtain ⟨_, events⟩ := IssuanceJournal.write_eventsOf written a
    obtain ⟨e, old, told⟩ := here
    exact ⟨e, by rw [events]; exact mem_append_left _ old, told⟩
  cases taken with
  | crashed turn => exact here
  | @served i request reply next store lost turn answered =>
    generalize told : (⟨request, reply⟩ : SignerAnswer) = answer
    have served := served_of_answers answered
    rw [told] at served
    cases served with
    | quiet journal _ _ _ =>
      dsimp only
      rwa [journal]
    | opened _ _ written => exact kept written
    | moved transition =>
      rcases IssuanceJournal.transition_cases transition with ⟨_, _, same, _⟩ | ⟨_, _, _, _, written⟩
      · dsimp only
        rwa [same]
      · exact kept written
    | sent => exact here

theorem undisturbed_of_calm (trace : Trace (Turn (answers rules)) (signersAtStart ledger uses) log finish)
    (calm : ∀ a, ¬ Recovered finish.store.journal a) : ∀ entry ∈ log, Undisturbed entry := by
  rintro ⟨before, label⟩ listed e same
  split
  · exact fun marked => calm _ (recovered_stays trace before label listed marked)
  · exact fun _ _ marked => calm _ (recovered_stays trace before label listed marked)
  · trivial

/-- Any number of signers over one store, issuing and recovering in any interleaving and crashing
anywhere: as long as no submission is made, or settled as acknowledged or rejected, after a recovery
has marked its attempt, every attempt is opened and sent at most once, sent only while its record
says so, and reported as its record says. -/
theorem submissions_journalled (trace : Trace (Turn (answers rules)) (signersAtStart ledger uses) log finish)
    (undisturbed : ∀ entry ∈ log, Undisturbed entry) : Journalled log finish := by
  have kept := kept_run trace
  have calm : ¬ Disturbed log := by
    rintro ⟨entry, listed, late⟩
    exact late (undisturbed entry listed)
  refine ⟨?_, ?_, fun a => (kept.sendings a).1, ?_, ?_, terminal_run trace, ?_, ?_⟩
  · intro a
    rw [kept.openings a]
    split
    · exact Nat.le_refl 1
    · exact Nat.zero_le 1
  · intro before e a listed opened
    obtain ⟨earlier, later, parts⟩ := append_of_mem listed
    obtain ⟨after, _, taken, _⟩ := trace.split parts
    cases taken with
    | @served i request reply next store lost turn answered =>
      have served := served_of_answers answered
      generalize told : (⟨request, reply⟩ : SignerAnswer) = answer at served opened
      cases served with
      | quiet _ none _ _ =>
        rw [none] at opened
        cases opened
      | @opened principal b _ _ _ _ admitted _ _ =>
        obtain rfl : b = a := by simpa [opens] using opened
        exact ⟨principal, admitted⟩
      | moved _ => cases opened
      | sent => cases opened
  · intro before e a listed sent
    obtain ⟨earlier, later, parts⟩ := append_of_mem listed
    obtain ⟨after, prior, taken, _⟩ := trace.split parts
    cases taken with
    | @served i request reply next store lost turn answered =>
      have standing := obeying prior i
      rw [turn] at standing
      cases request with
      | sendTx b txType txInfo =>
        obtain rfl : b = a := by simpa [sends] using sent
        have stage := (kept_run prior).stages i (by simp [Alive, turn])
        rw [phaseAt, show phaseOf (transcript i earlier) = .sending b from standing.1] at stage
        obtain ⟨_, r, row, told | recovered⟩ := stage
        · exact ⟨r, row, told⟩
        · exact absurd recovered (undisturbed _ listed _ rfl)
      | _ => cases sent
  · intro a
    cases row : finish.store.journal.records a with
    | none =>
      rw [kept.chronicled.unrecorded a row]
      rfl
    | some record =>
      have contiguous := (kept.chronicled.recorded a record row).2.contiguous
      have length := congrArg List.length contiguous
      rw [length_map, length_range'] at length
      rw [contiguous, length]
  · intro i a txHash state detail reported
    have standing := obeying trace i
    rw [reported] at standing
    have stage := kept.stages i (by simp [Alive, reported])
    rw [phaseAt, show phaseOf (transcript i log) = .settled a state from standing] at stage
    obtain ⟨_, r, row, told | late⟩ := stage
    · exact ⟨r, row, told⟩
    · exact absurd late calm
  · intro i a issuance reported
    have standing := obeying trace i
    rw [reported] at standing
    obtain ⟨record, last, rfl⟩ := standing
    obtain ⟨earlier, before, later, parts, quiet⟩ := transcript_last last
    obtain ⟨after, _, taken, _⟩ := trace.split parts
    cases taken with
    | served lost turn answered =>
      obtain ⟨rfl, _⟩ := answered
      exact ⟨earlier, before, _, later, parts, quiet, rfl⟩

end Claims

section Sample

section Facts
variable [Keccak]

/-- Everything the sample comes to on the way to an admitted attempt. -/
structure SampleFacts (p : PrincipalId) (q : SampleIssuance) : Prop where
  begun : applyBatch (emptyLedgerState p) (issuedEvents p) CORE_RULES = .ok q.begun
  resolved : resolvePayload (sampleSignerConfig p) .cancel (sampleRecord p) samplePayload = .ok sampleCancel
  credential : credentialScope sampleKeys (sampleSignerConfig p).toSignerIdentity "ab" = some q.credential
  slot : nonceSlot 7 (highestAdmittedSlot q.begun.state (sampleSignerConfig p).scope) (sampleSignerConfig p).scope.1 =
    some q.slot
  intent : intentAt (sampleSignerConfig p) .cancel (sampleRecord p) sampleCancel 10000 = .ok q.intent
  tx : construct (sampleSignerConfig p) q.intent (q.slot.2.getD 7) = .ok q.tx
  plan : planAdmission sampleEngine sampleAdapters (snapshotOf p q.begun.state) (sampleRecord p)
    (attemptRequest (sampleSignerConfig p) q.intent sampleRequest q.tx sampleHashed [q.credential, q.slot.1]) =
      .ok q.plan
  applied : applyBatch q.begun.state [.admitAttempt q.plan.time q.plan.admission] CORE_RULES = .ok q.applied
  fresh : q.begun.state.attempts.entries = []
  none_yet : attemptsOf q.begun.state (sampleRecord p).reservation = []
  kind : q.tx.type = "CANCEL_ORDER"
  adapter : q.plan.admission.adapter.adapterDigest = sampleAdapter.adapterDigest

def sampleChecks (p : PrincipalId) : Option (Nat × List AttemptId × String × Bool × Option DecodedAction) :=
  (sampleIssuance p).map fun q => (q.begun.state.attempts.entries.length,
    attemptsOf q.begun.state (sampleRecord p).reservation, q.tx.type,
    decide (q.plan.admission.adapter.adapterDigest = sampleAdapter.adapterDigest),
    (resolvePayload (sampleSignerConfig p) .cancel (sampleRecord p) samplePayload).toOption)

theorem facts_of_checks {p : PrincipalId}
    (evaluated : sampleChecks p = some (0, [], "CANCEL_ORDER", true, some sampleCancel)) : ∃ q, SampleFacts p q := by
  obtain ⟨q, made, evaluated⟩ := Option.map_eq_some_iff.mp evaluated
  simp only [Prod.mk.injEq, decide_eq_true_eq] at evaluated
  obtain ⟨fresh, none_yet, kind, adapter, resolved⟩ := evaluated
  unfold sampleIssuance at made
  obtain ⟨begun, started, made⟩ := bind_eq_some_iff.mp made
  obtain ⟨credential, scope, made⟩ := bind_eq_some_iff.mp made
  obtain ⟨slot, numbered, made⟩ := bind_eq_some_iff.mp made
  obtain ⟨intent, intended, made⟩ := bind_eq_some_iff.mp made
  obtain ⟨tx, constructed, made⟩ := bind_eq_some_iff.mp made
  obtain ⟨plan, planned, made⟩ := bind_eq_some_iff.mp made
  obtain ⟨applied, accepted, made⟩ := bind_eq_some_iff.mp made
  obtain rfl := some.inj made
  refine ⟨⟨begun, credential, slot, intent, tx, plan, applied⟩, ?_⟩
  constructor
  · exact except_toOption_some started
  · exact except_toOption_some resolved
  · exact scope
  · exact numbered
  · exact except_toOption_some intended
  · exact except_toOption_some constructed
  · exact except_toOption_some planned
  · exact except_toOption_some accepted
  · exact length_eq_zero_iff.mp fresh
  · exact none_yet
  · exact kind
  · exact adapter

variable {p : PrincipalId} {q : SampleIssuance}

def sampleSigned : SignedTx := ⟨⟨sampleHashed.hash, 15⟩, "{}"⟩

def SampleIssuance.id (q : SampleIssuance) : AttemptId := q.plan.admission.attempt

/-- A principal's log before its sample is issued, and after its admission. -/
def SampleIssuance.before (p : PrincipalId) (q : SampleIssuance) : PrincipalLog :=
  ⟨q.begun.state, [committedBatch (emptyLedgerState p) (issuedEvents p) q.begun]⟩

def SampleIssuance.after (p : PrincipalId) (q : SampleIssuance) : PrincipalLog :=
  ⟨q.applied.state, (q.before p).batches ++
    [committedBatch q.begun.state [.admitAttempt q.plan.time q.plan.admission] q.applied]⟩

theorem SampleFacts.honest (facts : SampleFacts p q) : LogSound CORE_RULES p (q.before p) :=
  .batch .genesis facts.begun

theorem SampleFacts.known (facts : SampleFacts p q) : q.applied.state.attempts.lookup q.id =
    some ⟨q.plan.admission, q.begun.state.version + 1, q.plan.time, .admitted⟩ := by
  obtain ⟨_, attempts, _⟩ := applyBatch_admitAttempt facts.applied
  rw [attempts]
  exact AList.lookup_insert _

omit [Keccak] in
theorem hashed_bytes : txHashBytes sampleHashed.hash = some sampleHashed.bytes := by decide +kernel

theorem SampleFacts.admitting (facts : SampleFacts p q) {store : SignerStore} (here : store.ledger p = q.before p) :
    Alone (answers CORE_RULES) store (issue (sampleDeps p) .cancel (sampleRecord p) sampleRequest)
      ⟨update store.ledger p (q.after p), store.journal⟩
      (issueAdmitted (sampleSignerConfig p) q.tx sampleHashed.hash q.plan.admission) := by
  unfold issue
  refine .bind (resolveIntent_alone 10000 facts.resolved) ?_
  have intended : intentAt (sampleDeps p).config .cancel (sampleRecord p) sampleCancel 10000 = .ok q.intent :=
    facts.intent
  rw [intended]
  refine .served (readLog p (q.before p)) ⟨by rw [← here]; rfl, rfl⟩ ?_
  have nothing : attemptsOf (readLog p (q.before p)).state (sampleRecord p).reservation = [] := facts.none_yet
  rw [nothing]
  have numbered : nonceSlot 7 (highestAdmittedSlot (store.ledger p).state (sampleSignerConfig p).scope)
      (sampleSignerConfig p).scope.1 = some (q.slot.1, q.slot.2) := by
    rw [here]
    exact facts.slot
  refine .bind (readPreExecution_alone facts.credential numbered) ?_
  unfold orRefused issueFresh
  dsimp only
  have built : construct (sampleDeps p).config q.intent (q.slot.2.getD 7) = .ok q.tx := facts.tx
  rw [built]
  have coded : TX_TYPE_CODE q.tx.type = some 15 := by
    rw [facts.kind]
    rfl
  refine .bind (hashTx_alone coded hashed_bytes) ?_
  have allowed : attemptsAllowed (sampleDeps p).config.retry = some (0 + 1) := rfl
  have admission : Alone (answers CORE_RULES) store (ofLedger (admitAttempt sampleEngine (sampleRecord p)
      (attemptRequest (sampleSignerConfig p) q.intent sampleRequest q.tx sampleHashed [q.credential, q.slot.1])
      (sampleDeps p).config.retry)) ⟨update store.ledger p (q.after p), store.journal⟩
      (.done (.admitted (some ⟨q.plan.admission, q.begun.state.version + 1, q.plan.time, .admitted⟩)
        q.plan.revalidation q.plan.preExecution (snapshotOf p q.applied.state) 1)) := by
    have none_yet : attemptsOf (store.ledger (sampleRecord p).principal).state (sampleRecord p).reservation = [] := by
      rw [show (sampleRecord p).principal = p from rfl, here]
      exact facts.none_yet
    have planned : planAdmission sampleEngine sampleAdapters (readLog (sampleRecord p).principal
        (store.ledger (sampleRecord p).principal)) (sampleRecord p) (attemptRequest (sampleSignerConfig p) q.intent
          sampleRequest q.tx sampleHashed [q.credential, q.slot.1]) = .ok q.plan := by
      rw [show (sampleRecord p).principal = p from rfl, here]
      exact facts.plan
    have accepted : applyBatch (store.ledger (sampleRecord p).principal).state
        [.admitAttempt q.plan.time q.plan.admission] CORE_RULES = .ok q.applied := by
      rw [show (sampleRecord p).principal = p from rfl, here]
      exact facts.applied
    have alone := admitAttempt_alone allowed (rfl : sampleEngine.adapters = some sampleAdapters) none_yet planned
      accepted
    rw [show (sampleRecord p).principal = p from rfl, here] at alone
    exact alone
  obtain ⟨_, _, record, _⟩ := intentAt_ok facts.intent
  have admits : admitTx (sampleDeps p) q.intent sampleRequest q.tx sampleHashed [q.credential, q.slot.1] =
      ofLedger (admitAttempt sampleEngine (sampleRecord p)
        (attemptRequest (sampleSignerConfig p) q.intent sampleRequest q.tx sampleHashed [q.credential, q.slot.1])
        (sampleDeps p).config.retry) := by
    rw [admitTx, record]
    rfl
  exact .bind (by rw [admits]; exact admission) (.here _ _)

end Facts

section Journals
attribute [local instance] platformKeccak

theorem sampleIssuance_facts : ∃ q, SampleFacts samplePrincipal q := facts_of_checks (by
  rewrite [platformKeccak_straight]
  decide +kernel)

variable {q : SampleIssuance}

def single (a : AttemptId) (artifact : Option Bytes) (state : IssuanceState) (venueRef : Option String)
    (detail : String) (seq : Nat) (events : List IssuanceEvent) : IssuanceJournal :=
  ⟨update (fun _ => none) a (some ⟨a, state, artifact, venueRef, detail, seq⟩), events⟩

section Single
variable {a : AttemptId} {artifact : Option Bytes} {state target : IssuanceState} {ref venueRef : Option String}
  {told detail : String} {seq : Nat} {events : List IssuanceEvent}

theorem single_opens {admitted : Bool} (known : admitted = true) :
    IssuanceJournal.empty.opening admitted a ⟨.artifactIssued, by decide⟩ artifact detail =
      some (.ok (), single a artifact .artifactIssued none detail 1 [⟨a, 1, .artifactIssued, detail⟩]) := by
  subst known
  rfl

theorem single_records : (single a artifact state ref told seq events).records a =
    some ⟨a, state, artifact, ref, told, seq⟩ := by
  simp [single]

theorem single_moves (allowed : target ∈ NEXT state) (numbered : ∀ e ∈ events, e.seq ≤ seq) :
    (single a artifact state ref told seq events).transition a target detail venueRef = some (.ok (),
      single a artifact target (venueRef.or ref) detail (seq + 1) (events ++ [⟨a, seq + 1, target, detail⟩])) := by
  have free : ∀ e ∈ events, e.attempt = a → ¬ e.seq = seq + 1 := by
    intro e listed _ clash
    have := numbered e listed
    omega
  simpa [single, IssuanceJournal.transition, IssuanceJournal.write, allowed] using free

theorem single_refuses (forbidden : target ∉ NEXT state) :
    (single a artifact state ref told seq events).transition a target detail venueRef =
      some (.error .transitionForbidden, single a artifact state ref told seq events) := by
  simp [single, IssuanceJournal.transition, IssuanceJournal.refused, forbidden]

end Single

def SampleIssuance.admitted (q : SampleIssuance) : PrincipalId → PrincipalLog :=
  update (update emptyLog samplePrincipal (q.before samplePrincipal)) samplePrincipal
    (q.after samplePrincipal)

def SampleIssuance.opened (q : SampleIssuance) : SignerStore :=
  ⟨q.admitted, single q.id (some (encodeText sampleSigned.txInfo)) .artifactIssued none "SIGNED" 1
    [⟨q.id, 1, .artifactIssued, "SIGNED"⟩]⟩

def SampleIssuance.interrupted (q : SampleIssuance) : SignerStore :=
  ⟨q.admitted, single q.id (some (encodeText sampleSigned.txInfo)) .outcomeUnknown none "RECOVERED_FROM_ARTIFACT_ISSUED"
    2 [⟨q.id, 1, .artifactIssued, "SIGNED"⟩, ⟨q.id, 2, .outcomeUnknown, "RECOVERED_FROM_ARTIFACT_ISSUED"⟩]⟩

def SampleIssuance.begins (q : SampleIssuance) : PrincipalId → PrincipalLog :=
  update emptyLog samplePrincipal (q.before samplePrincipal)

theorem SampleFacts.opening (facts : SampleFacts samplePrincipal q) : Alone (answers CORE_RULES) ⟨q.begins, .empty⟩
    (issue (sampleDeps samplePrincipal) .cancel (sampleRecord samplePrincipal) sampleRequest) q.opened
    (sendOpened q.id sampleSigned) := by
  have here : (⟨q.begins, .empty⟩ : SignerStore).ledger samplePrincipal = q.before samplePrincipal := by
    simp [SampleIssuance.begins]
  refine (facts.admitting here).trans ?_
  have signs (store : SignerStore) : Alone (answers CORE_RULES) store
      (signAdmitted q.tx sampleSigned.hash q.plan.admission) store (.done (.ok sampleSigned)) := signAdmitted_alone
  refine .bind (signs _) ?_
  have listed : ((q.admitted samplePrincipal).state.attempts.lookup q.id).isSome = true := by
    rw [SampleIssuance.admitted, update_self, SampleIssuance.after, facts.known]
    rfl
  exact .bind (openRecord_alone (single_opens listed)) (.here _ _)

theorem SampleFacts.recovering (facts : SampleFacts samplePrincipal q) : Alone (answers CORE_RULES) q.opened
    (recover (sampleSignerConfig samplePrincipal)) q.interrupted (.done ⟨0, 1⟩) := by
  refine .served (readLog samplePrincipal (q.opened.ledger samplePrincipal)) ⟨rfl, rfl⟩ ?_
  have committed : (readLog samplePrincipal (q.opened.ledger samplePrincipal)).state = q.applied.state := by
    rw [show q.opened.ledger = q.admitted from rfl, SampleIssuance.admitted, update_self]
    rfl
  obtain ⟨_, attempts, _⟩ := applyBatch_admitAttempt facts.applied
  have listed : attemptRecords q.applied.state =
      [⟨q.plan.admission, q.begun.state.version + 1, q.plan.time, .admitted⟩] := by
    rw [attemptRecords, attempts, AList.entries_insert, facts.fresh]
    rfl
  rw [committed, listed]
  unfold recoverEach
  dsimp only
  rw [if_neg (by rw [facts.adapter]; exact not_not.mpr rfl)]
  have row : q.opened.journal.records q.id = some ⟨q.id, .artifactIssued,
      some (encodeText sampleSigned.txInfo), none, "SIGNED", 1⟩ := single_records
  refine .served (q.opened.journal.records q.id) ⟨rfl, rfl⟩ ?_
  rw [row]
  dsimp only
  rw [if_pos (.inl rfl)]
  exact .bind (moveRecord_alone (single_moves (by decide) (by simp))) (.here _ _)

def sampleUses : Bool → SignerUse
  | false => ⟨sampleDeps samplePrincipal, .issueAuthorized .cancel (sampleRecord samplePrincipal) sampleRequest⟩
  | true => ⟨sampleDeps samplePrincipal, .recover⟩

def asIssuance (o : IssueOutcome) : SignerProgram SignerResult := .done (.issuance o)

def asRecovery (report : RecoveryReport) : SignerProgram SignerResult := .done (.recovery report)

theorem program_issuance (d : SignerDeps) (op : Op) (record : AuthorizationRecord) (request : IssueRequest) :
    SignerUse.program ⟨d, .issueAuthorized op record request⟩ = (issue d op record request).bind asIssuance := rfl

theorem program_recovery (d : SignerDeps) :
    SignerUse.program ⟨d, .recover⟩ = (recover d.config).bind asRecovery := rfl

theorem SampleFacts.issuing (facts : SampleFacts samplePrincipal q) : ∃ log, Trace (Turn (answers CORE_RULES))
    (signersAtStart q.begins sampleUses) log ⟨q.opened, Function.update
      (signersAtStart q.begins sampleUses).clients false ((sendOpened q.id sampleSigned).bind asIssuance)⟩ := by
  refine facts.opening.under.run .nil rfl ?_
  rw [signersAtStart]
  dsimp only
  rw [sampleUses, program_issuance]

theorem SampleFacts.recovered (facts : SampleFacts samplePrincipal q) : ∃ log clients, Trace (Turn (answers CORE_RULES))
    (signersAtStart q.begins sampleUses) log ⟨q.interrupted, clients⟩ ∧
      clients false = (sendOpened q.id sampleSigned).bind asIssuance := by
  obtain ⟨log, issued⟩ := facts.issuing
  have waiting : (update (signersAtStart q.begins sampleUses).clients false
      ((sendOpened q.id sampleSigned).bind asIssuance)) true = (recover (sampleSignerConfig samplePrincipal)).bind asRecovery := by
    rw [update_of_ne (by decide), signersAtStart]
    dsimp only
    rw [sampleUses, program_recovery, sampleDeps]
  have mine : (update (signersAtStart q.begins sampleUses).clients false
      ((sendOpened q.id sampleSigned).bind asIssuance)) false = (sendOpened q.id sampleSigned).bind asIssuance :=
    update_self _ _ _
  generalize update (signersAtStart q.begins sampleUses).clients false _ = clients at *
  obtain ⟨log, recovered⟩ := facts.recovering.under.run (i := true) issued rfl waiting
  exact ⟨log, _, recovered, by rw [update_of_ne (by decide)]; exact mine⟩

theorem sending_interrupted (q : SampleIssuance) : ∃ next, Alone (answers CORE_RULES) q.interrupted
    (sendOpened q.id sampleSigned) q.interrupted (.call (.sendTx q.id sampleSigned.txType sampleSigned.txInfo) next) := by
  unfold sendOpened
  exact ⟨_, .bind (moveRecord_refused (single_refuses (by decide))) (.here _ _)⟩

/-- A recovery between an attempt's opening and its submission: it is sent although its record
already says that its outcome is unknown. -/
theorem recovered_then_sent : ∃ (ledger : PrincipalId → PrincipalLog) (log : SignerHistory Bool)
    (finish : SignerSystem Bool), Trace (Turn (answers CORE_RULES)) (signersAtStart ledger sampleUses) log finish ∧
      (∃ before e a r, (before, some e) ∈ log ∧ sends a e.answer = true ∧
        before.store.journal.records a = some r ∧ r.state = .outcomeUnknown) ∧ ¬ Journalled log finish := by
  obtain ⟨q, facts⟩ := sampleIssuance_facts
  obtain ⟨log, clients, recovered, issuing⟩ := facts.recovered
  obtain ⟨next, alone⟩ := sending_interrupted q
  obtain ⟨log, about⟩ := alone.under.run (i := false) recovered rfl issuing
  have turn : (update clients false (Program.bind
      (.call (.sendTx q.id sampleSigned.txType sampleSigned.txInfo) next) asIssuance)) false =
      .call (.sendTx q.id sampleSigned.txType sampleSigned.txInfo) fun reply => (next reply).bind asIssuance :=
    update_self _ _ _
  generalize update clients false _ = clients at *
  have taken : Turn (answers CORE_RULES) ⟨q.interrupted, clients⟩
      (some ⟨false, ⟨.sendTx q.id sampleSigned.txType sampleSigned.txInfo, .unknown "TIMEOUT"⟩, false⟩) _ :=
    .served false turn rfl
  have listed := mem_append_right log (mem_singleton_self ((⟨q.interrupted, clients⟩ : SignerSystem Bool),
    (some ⟨false, ⟨.sendTx q.id sampleSigned.txType sampleSigned.txInfo, .unknown "TIMEOUT"⟩, false⟩ :
      Option (SignerEvent Bool))))
  have unknown : q.interrupted.journal.records q.id = some ⟨q.id, .outcomeUnknown,
      some (encodeText sampleSigned.txInfo), none, "RECOVERED_FROM_ARTIFACT_ISSUED", 2⟩ := single_records
  refine ⟨q.begins, _, _, about.snoc taken, ⟨_, _, q.id, _, listed, by simp [sends], unknown, rfl⟩, ?_⟩
  intro journalled
  obtain ⟨r, row, state⟩ := journalled.sending _ _ q.id listed (by simp [sends])
  obtain rfl := some.inj (unknown.symm.trans row)
  cases state

theorem hash_unmarked : withoutHexMark sampleSigned.hash = sampleSigned.hash := by decide +kernel

def SampleIssuance.settled (q : SampleIssuance) : SignerStore :=
  ⟨q.admitted, single q.id (some (encodeText sampleSigned.txInfo)) .submissionAcknowledged (some sampleSigned.hash)
    "API_ACCEPTED_SYNTAX" 3 [⟨q.id, 1, .artifactIssued, "SIGNED"⟩, ⟨q.id, 2, .submissionSent, "SENT"⟩,
      ⟨q.id, 3, .submissionAcknowledged, "API_ACCEPTED_SYNTAX"⟩]⟩

theorem sending_acknowledged (q : SampleIssuance) : Alone (answers CORE_RULES) q.opened
    (sendOpened q.id sampleSigned) q.settled
    (.done (.issued q.id sampleSigned.hash .submissionAcknowledged "API_ACCEPTED_SYNTAX")) := by
  have settles : settlement sampleSigned.hash (.ack sampleSigned.hash) =
      (.submissionAcknowledged, "API_ACCEPTED_SYNTAX") := by
    rw [settlement, if_pos hash_unmarked]
  unfold sendOpened
  refine .bind (moveRecord_alone (single_moves (by decide) (by simp))) ?_
  refine .served (.ack sampleSigned.hash) rfl ?_
  rw [settles]
  exact .bind (moveRecord_alone (single_moves (by decide) (by simp))) (.here _ _)

/-- The sample issued with nobody in its way. -/
theorem submissions_journalled_sample : ∃ (ledger : PrincipalId → PrincipalLog) (log : SignerHistory Bool)
    (finish : SignerSystem Bool) (a : AttemptId), Trace (Turn (answers CORE_RULES)) (signersAtStart ledger sampleUses)
      log finish ∧ Journalled log finish ∧ finish.clients false =
      .done (.issuance (.issued a sampleSigned.hash .submissionAcknowledged "API_ACCEPTED_SYNTAX")) := by
  obtain ⟨q, facts⟩ := sampleIssuance_facts
  obtain ⟨log, issuing⟩ := facts.issuing
  have mine : (update (signersAtStart q.begins sampleUses).clients false
      ((sendOpened q.id sampleSigned).bind asIssuance)) false = (sendOpened q.id sampleSigned).bind asIssuance :=
    update_self _ _ _
  generalize update (signersAtStart q.begins sampleUses).clients false _ = clients at *
  obtain ⟨log, finished⟩ := (sending_acknowledged q).under.run (i := false) issuing rfl mine
  refine ⟨q.begins, log, _, q.id, finished, submissions_journalled finished (undisturbed_of_calm finished ?_), ?_⟩
  · rintro a ⟨e, listed, recovered⟩
    obtain ⟨listed, _⟩ := mem_filter.mp listed
    have told : ∀ e ∈ q.settled.journal.events, e.detail ∉ recoveries := by
      simp only [SampleIssuance.settled, single, forall_mem_cons]
      decide
    exact told e listed recovered
  · dsimp only
    rw [update_self]
    rfl

end Journals

end Sample

end Mandate.Perp
