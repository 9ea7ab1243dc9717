import Mandate.Settlement.Reconcile

/-! At most one broadcast for a reservation, and never an unrecorded one. Runs and reconciliations of
any number of processes share the journal; the chain, the ledger and the domain legs answer anything. -/
set_option linter.dupNamespace false
namespace Mandate.Settlement
open Core Lib.Calls Lib.Machine List

section Shared

/-- What the runs share: the journal's file, and in one process a session's flag and its send gates. -/
structure Shared where
  journal : SettlementJournal
  submitted : Nat → Bool
  gates : Nat → SendGate

/-- A write of the journal is told to the caller, and a refused one changes nothing. -/
def Wrote (shared after : Shared) : Journaled AttemptRecord → Except JournalRefusal AttemptRecord → Prop
  | .ok (a, j), reply => reply = .ok a ∧ after = { shared with journal := j }
  | .error refusal, reply => reply = .error refusal ∧ after = shared

def answers : (call : SettleCall) → Shared → SettleReply call → Shared → Prop
  | .submitted self, shared, reply, after => reply = shared.submitted self ∧ after = shared
  | .markSubmitted self, shared, _, after =>
    after = { shared with submitted := Function.update shared.submitted self true }
  | .gateState gate, shared, reply, after => reply = (shared.gates gate).state ∧ after = shared
  | .consumeGate gate, shared, reply, after => reply = (shared.gates gate).consume.1 ∧
    after = { shared with gates := Function.update shared.gates gate (shared.gates gate).consume.2 }
  | .authorizeGate gate phrase, shared, reply, after => reply = ((shared.gates gate).authorize phrase).1 ∧
    after = { shared with
      gates := Function.update shared.gates gate ((shared.gates gate).authorize phrase).2 }
  | .authorizeBrowserIntent gate, shared, reply, after =>
    reply = (shared.gates gate).authorizeBrowserIntent.1 ∧ after = { shared with
      gates := Function.update shared.gates gate (shared.gates gate).authorizeBrowserIntent.2 }
  | .get reservation, shared, reply, after => reply = shared.journal.get reservation ∧ after = shared
  | .all, shared, reply, after => reply = shared.journal.attempts ∧ after = shared
  | .artifacts reservation, shared, reply, after => reply = shared.journal.artifactsOf reservation ∧ after = shared
  | .prepare binding, shared, reply, after => Wrote shared after (shared.journal.prepare binding) reply
  | .bindDomain reservation openedAt deadAfter, shared, reply, after =>
    Wrote shared after (shared.journal.bindDomain reservation openedAt deadAfter) reply
  | .recordArtifact artifact, shared, _, after =>
    after = { shared with journal := shared.journal.recordArtifact artifact }
  | .startSubmission reservation tx before, shared, reply, after =>
    Wrote shared after (shared.journal.startSubmission reservation tx before) reply
  | .transition reservation state patch, shared, reply, after =>
    Wrote shared after (shared.journal.transition reservation state patch) reply
  | .requarantine reservation quarantine, shared, reply, after =>
    Wrote shared after (shared.journal.requarantine reservation quarantine) reply
  | _, shared, _, after => after = shared

/-- A settlement run, a reconciliation pass, or one of the two surfaces that open a send gate. -/
inductive SettleClient
  | run (e : SettlementEnv) (p : Prepared) (o : RunOptions)
  | reconcile (d : ReconcileDeps)
  | operator (gate : Nat) (phrase : String)
  | browser (gate : Nat)

def SettleClient.program : SettleClient → SettleProgram Unit
  | .run e p o => (Settlement.run e p o).bind fun _ => .done ()
  | .reconcile d => (reconcileAttempts d).bind fun _ => .done ()
  | .operator gate phrase => .call (.authorizeGate gate phrase) fun _ => .done ()
  | .browser gate => .call (.authorizeBrowserIntent gate) fun _ => .done ()

end Shared

section Discipline

def committing : SettleCall → Bool
  | .startSubmission _ _ _ | .broadcast _ _ => true
  | _ => false

def Fresh (had : List SettleAnswer) : Prop := ∀ answer ∈ had, committing answer.1 = false

def Bound (reservation : ReservationId) (had : List SettleAnswer) : Prop :=
  ∃ openedAt deadAfter a, ⟨.bindDomain reservation openedAt deadAfter, .ok a⟩ ∈ had

/-- A run writes its transaction ahead once, after its own binding, and broadcasts what it wrote, once. -/
def Writes (reservation : ReservationId) (had : List SettleAnswer) : SettleCall → Prop
  | .startSubmission r _ _ => r = reservation ∧ Bound reservation had ∧ Fresh had
  | .broadcast r tx => r = reservation ∧
    (∃ before a, ⟨.startSubmission reservation tx.envelope before, .ok a⟩ ∈ had) ∧
    ∀ other sent reply, (⟨.broadcast other sent, reply⟩ : SettleAnswer) ∉ had
  | _ => True

def SettleClient.permits (had : List SettleAnswer) (call : SettleCall) : SettleClient → Prop
  | .run _ p _ => Writes p.execution.reservation had call
  | .reconcile _ | .operator _ _ | .browser _ => committing call = false

abbrev anything {α : Type} (_ : List SettleAnswer) (_ : α) : Prop := True

abbrev anyAnswer (_ : SettleAnswer) : Prop := True

def Silent {α : Type} (program : SettleProgram α) : Prop :=
  ∀ had, Obeys anyAnswer (fun _ call => committing call = false) anything program had

variable {α β : Type} {program : SettleProgram α} {reservation : ReservationId} {had : List SettleAnswer}

theorem Silent.done (result : α) : Silent (.done result) := fun _ => trivial

theorem Silent.failed : Silent (.failed : SettleProgram α) := fun _ => trivial

theorem Silent.call {request : SettleCall} {next : SettleReply request → SettleProgram α}
    (quiet : committing request = false) (rest : ∀ reply, Silent (next reply)) : Silent (.call request next) :=
  fun _ => ⟨quiet, fun reply _ => rest reply _⟩

theorem Silent.bind {rest : α → SettleProgram β} (first : Silent program) (then_ : ∀ result, Silent (rest result)) :
    Silent (program.bind rest) :=
  fun had => .bind ((first had).weaken fun later result _ => then_ result later)

theorem Silent.orThrow {ε : Type} {result : Except ε α} {next : α → SettleProgram β}
    (rest : ∀ value, Silent (next value)) : Silent (Settlement.orThrow result next) := by
  cases result with
  | error _ => exact .failed
  | ok value => exact rest value

theorem writes_silent {call : SettleCall} (quiet : committing call = false) : Writes reservation had call := by
  cases call <;> trivial

theorem Fresh.snoc {request : SettleCall} {reply : SettleReply request} (fresh : Fresh had)
    (quiet : committing request = false) : Fresh (had ++ [⟨request, reply⟩]) := by
  intro answer listed
  rcases mem_append.mp listed with listed | listed
  · exact fresh answer listed
  · rw [mem_singleton.mp listed]
    exact quiet

theorem Bound.later {later : List SettleAnswer} (bound : Bound reservation had) (grown : had ⊆ later) :
    Bound reservation later := by
  obtain ⟨openedAt, deadAfter, a, listed⟩ := bound
  exact ⟨openedAt, deadAfter, a, grown listed⟩

theorem Silent.keeps (silent : Silent program) :
    Obeys anyAnswer (Writes reservation) (fun later _ => (Fresh had → Fresh later) ∧ had ⊆ later) program had := by
  have follows := silent had
  clear silent
  induction program generalizing had with
  | done result => exact ⟨fun fresh => fresh, List.Subset.refl had⟩
  | failed => trivial
  | call request next ih =>
    refine ⟨writes_silent follows.1, fun reply able => (ih reply (follows.2 reply able)).weaken ?_⟩
    rintro later result ⟨kept, grown⟩
    exact ⟨fun fresh => kept (fresh.snoc follows.1), fun answer listed => grown (mem_append_left _ listed)⟩

end Discipline

section Runs
variable {e : SettlementEnv} {p : Prepared} {o : RunOptions} {artifact : GateArtifact}

theorem onArtifact_silent {β : Type} {next : SettleProgram β} (rest : Silent next) :
    Silent (onArtifact p o artifact next) := by
  unfold onArtifact
  split
  · exact .call rfl fun _ => rest
  · exact rest

theorem simulate_silent (artifact : GateArtifact) : Silent (simulate e p o artifact) := by
  refine .call rfl fun now => ?_
  cases now with
  | error error => exact .done _
  | ok now =>
    dsimp only
    split
    · exact .done _
    · refine .call rfl fun id => ?_
      split
      · exact .done _
      · refine onArtifact_silent (.call rfl fun simulated => ?_)
        cases simulated with
        | error revert => exact .done _
        | ok _ =>
          refine .call rfl fun gas => ?_
          cases gas with
          | error error => exact .done _
          | ok gas =>
            dsimp only
            split
            · exact .done _
            · refine .call rfl fun state => ?_
              split
              · exact .done _
              · exact .done _

theorem onBroadcast_silent (state : AttemptState) (quarantine : Option Quarantine) (result : Submission) :
    Silent (onBroadcast p state quarantine result) :=
  .call rfl fun _ => .orThrow fun _ => .done _

theorem askKnown_silent (hash : Digest32) (refusal : Quarantine) (tries : Nat) :
    Silent (askKnown p hash refusal tries) := by
  induction tries with
  | zero => exact onBroadcast_silent _ _ _
  | succ tries ih =>
    refine .call rfl fun known => ?_
    split
    · exact onBroadcast_silent _ _ _
    · exact ih

theorem checkPostconditions_silent (s : FixtureSettlement) (block : Int) (mandateDigest commitment : Digest32)
    (before : Option Before) : Silent (checkPostconditions s block mandateDigest commitment before) :=
  .call rfl fun _ => .call rfl fun _ => .done _

theorem journalTo_silent {β : Type} {state : AttemptState} {patch : SettlementJournal.Patch} {next : SettleProgram β}
    (rest : Silent next) : Silent (journalTo p o state patch next) := by
  unfold journalTo
  split
  · exact .call rfl fun _ => .orThrow fun _ => rest
  · exact rest

theorem settleMined_silent (artifact : GateArtifact) (hash : Digest32) (receipt : ReceiptFacts)
    (before : Option Before) : Silent (settleMined e p o artifact hash receipt before) := by
  refine journalTo_silent ?_
  split
  · exact .done _
  · refine .bind (checkPostconditions_silent _ _ _ _ _) fun failures => ?_
    split
    · exact journalTo_silent (.done _)
    · refine journalTo_silent (.call rfl fun consumed => ?_)
      cases consumed with
      | error _ => exact .done _
      | ok _ => exact journalTo_silent (.done _)

theorem finish_silent (artifact : GateArtifact) (submitted : Submitted) : Silent (finish e p o artifact submitted) := by
  unfold finish
  split
  · refine .call rfl fun mined => ?_
    cases mined with
    | error _ => exact .done _
    | ok receipt => exact .call rfl fun _ => settleMined_silent _ _ _ _
  · exact .done _

variable {had : List SettleAnswer}

abbrev WritesOnce {α : Type} (p : Prepared) (program : SettleProgram α) (had : List SettleAnswer) : Prop :=
  Obeys anyAnswer (Writes p.execution.reservation) anything program had

theorem Silent.writes {α : Type} {program : SettleProgram α} (silent : Silent program) : WritesOnce p program had :=
  silent.keeps.weaken fun _ _ _ => trivial

theorem broadcastOnce_writes {tx : PreparedTx} {before : Before} (bound : Bound p.execution.reservation had)
    (fresh : Fresh had) : WritesOnce p (broadcastOnce e p tx before) had := by
  refine .call trivial fun marked _ => ?_
  have fresh : Fresh (had ++ [⟨.markSubmitted e.self, marked⟩]) := fresh.snoc rfl
  have bound := bound.later (subset_append_left had [⟨.markSubmitted e.self, marked⟩])
  generalize had ++ [⟨.markSubmitted e.self, marked⟩] = had at fresh bound ⊢
  refine .call ⟨rfl, bound, fresh⟩ fun started _ => ?_
  cases started with
  | error refusal => exact Obeys.failed
  | ok a =>
    refine .call ⟨rfl, ⟨before, a, by simp⟩, ?_⟩ fun sent _ => ?_
    · intro other sent reply listed
      rcases mem_append.mp listed with listed | listed
      · cases fresh _ listed
      · cases mem_singleton.mp listed
    · split
      · exact (onBroadcast_silent _ _ _).writes
      · exact (askKnown_silent _ _ _).writes

theorem submit_writes {gas : Nat} (fresh : Fresh had)
    (bound : o.mode = .send → Bound p.execution.reservation had) : WritesOnce p (submit e p o artifact gas) had := by
  unfold submit
  split
  · exact .done trivial
  next sending =>
    have bound := bound (not_not.mp sending)
    refine .call trivial fun opened _ => ?_
    split
    · exact .done trivial
    · refine .call trivial fun id _ => ?_
      split
      · exact .done trivial
      · refine .call trivial fun before _ => ?_
        cases before with
        | none => exact .done trivial
        | some before =>
          refine .call trivial fun prepared _ => ?_
          cases prepared with
          | error error => exact .done trivial
          | ok tx =>
            dsimp only
            split
            · exact .done trivial
            · refine .bind ((broadcastOnce_writes ?_ ?_).weaken fun _ _ _ => .done trivial)
              · exact bound.later fun answer listed => by simp [listed]
              · exact (((fresh.snoc rfl).snoc rfl).snoc rfl).snoc rfl

theorem issueAdmitted_writes (fresh : Fresh had)
    (bound : o.mode = .send → Bound p.execution.reservation had) : WritesOnce p (issueAdmitted e p o artifact) had := by
  refine .call trivial fun signed _ => ?_
  cases signed with
  | error reason => exact .done trivial
  | ok _ =>
    refine .call trivial fun opened _ => ?_
    cases opened with
    | error reason => exact .done trivial
    | ok _ =>
      refine .bind ((simulate_silent artifact).keeps.weaken ?_)
      rintro later ⟨passed, gas⟩ ⟨kept, grown⟩
      cases passed with
      | error reason =>
        dsimp only
        split
        · exact .done trivial
        · exact .done trivial
      | ok _ =>
        cases gas with
        | none => exact .done trivial
        | some gas =>
          refine .bind ((submit_writes (kept ((fresh.snoc rfl).snoc rfl)) ?_).weaken ?_)
          · intro sending
            exact (bound sending).later fun answer listed => grown (by simp [listed])
          · rintro had submitted _
            split
            · exact .call trivial fun _ _ => (finish_silent _ _).writes
            · exact (finish_silent _ _).writes

theorem orIneligible_writes {α : Type} {stage : String} {result : Except String α}
    {next : α → SettleProgram SettlementOutcome} (rest : ∀ value, WritesOnce p (next value) had) :
    WritesOnce p (orIneligible stage result next) had := by
  cases result with
  | error reason => exact .done trivial
  | ok value => exact rest value

variable {presented : Bool}

theorem issue_writes (fresh : Fresh had)
    (bound : o.mode = .send → Bound p.execution.reservation had) : WritesOnce p (issue e p o presented) had := by
  have ready {had : List SettleAnswer} (fresh : Fresh had)
      (bound : o.mode = .send → Bound p.execution.reservation had) : WritesOnce p (issue e p o false) had := by
    refine .call trivial fun _ _ => .call trivial fun states _ => orIneligible_writes fun _ => ?_
    refine .call trivial fun admitted _ => ?_
    cases admitted with
    | refused stage reason => exact .done trivial
    | existing => exact .done trivial
    | admitted artifact =>
      refine issueAdmitted_writes (((fresh.snoc rfl).snoc rfl).snoc rfl) fun sending => ?_
      exact (bound sending).later fun answer listed => by simp [listed]
  cases presented with
  | false => exact ready fresh bound
  | true =>
    refine .call trivial fun authority _ => orIneligible_writes fun _ => ?_
    refine ready (fresh.snoc rfl) fun sending => ?_
    exact (bound sending).later fun answer listed => by simp [listed]

theorem openLeg_writes (fresh : Fresh had) (journaled : o.mode = .send → o.journal = true) :
    WritesOnce p (openLeg e p o presented) had := by
  refine .call trivial fun block _ => orIneligible_writes fun _ => ?_
  refine .call trivial fun states _ => orIneligible_writes fun states' => ?_
  have fresh : Fresh (had ++ [⟨.latest, block⟩] ++ [⟨.gateMarkets, states⟩]) := (fresh.snoc rfl).snoc rfl
  generalize had ++ [⟨.latest, block⟩] ++ [⟨.gateMarkets, states⟩] = had at fresh ⊢
  dsimp only
  generalize opening : Program.call (SettleCall.openDomainLeg p.settlement) _ = next
  have opened {had : List SettleAnswer} (fresh : Fresh had)
      (bound : o.mode = .send → Bound p.execution.reservation had) : WritesOnce p next had := by
    subst opening
    refine .call trivial fun leg _ => ?_
    cases leg with
    | error refused => exact .done trivial
    | ok _ =>
      refine issue_writes (fresh.snoc rfl) fun sending => ?_
      exact (bound sending).later fun answer listed => by simp [listed]
  split
  · refine .call trivial fun bound _ => ?_
    cases bound with
    | error refusal => exact Obeys.failed
    | ok a => exact opened (fresh.snoc rfl) fun _ => ⟨_, _, a, mem_append_right _ (mem_singleton_self _)⟩
  next unbound => exact opened fresh fun sending => absurd ⟨sending, journaled sending⟩ unbound

theorem admitAttempt_writes (fresh : Fresh had) (journaled : o.mode = .send → o.journal = true) :
    WritesOnce p (admitAttempt e p o presented) had := by
  have admitted {had : List SettleAnswer} (fresh : Fresh had) :
      WritesOnce p (.call (.admitSettlement p.execution p.settlement.bindingDigest) fun admitted =>
        orIneligible "PORTFOLIO_ATTEMPT" admitted fun _ =>
        .call .preflight fun passed => if passed then openLeg e p o presented else .done .preflightFailed) had := by
    refine .call trivial fun _ _ => orIneligible_writes fun _ => .call trivial fun passed _ => ?_
    split
    · exact openLeg_writes ((fresh.snoc rfl).snoc rfl) journaled
    · exact .done trivial
  unfold admitAttempt
  dsimp only
  split
  · refine .call trivial fun prepared _ => ?_
    cases prepared with
    | error refusal => exact .done trivial
    | ok _ => exact admitted (fresh.snoc rfl)
  · exact admitted fresh

theorem settleExisting_writes {existing : Option AttemptRecord} (fresh : Fresh had)
    (journaled : o.mode = .send → o.journal = true) : WritesOnce p (settleExisting e p o existing) had := by
  have reverifies {had : List SettleAnswer} (fresh : Fresh had) :
      WritesOnce p (if derived e p = false then .done (.ineligible "FIXTURE" "SETTLEMENT_NOT_DERIVED_FROM_EXECUTION")
        else reverified e p o (admitAttempt e p o)) had := by
    split
    · exact .done trivial
    · unfold reverified
      split
      · refine .call trivial fun check _ => orIneligible_writes fun principal => ?_
        dsimp only
        split
        · exact .done trivial
        · split
          · exact .done trivial
          · exact admitAttempt_writes (fresh.snoc rfl) journaled
      · exact admitAttempt_writes fresh journaled
  unfold settleExisting
  split
  · exact .done trivial
  · split
    · exact .done trivial
    · refine .call trivial fun _ _ => .call trivial fun refusal _ => ?_
      cases refusal with
      | some refusal => exact .done trivial
      | none =>
        dsimp only
        split
        · refine .call trivial fun admitted _ => ?_
          split
          · exact .done trivial
          · exact reverifies (((fresh.snoc rfl).snoc rfl).snoc rfl)
        · exact reverifies ((fresh.snoc rfl).snoc rfl)

theorem existingAttempt_writes (fresh : Fresh had) (journaled : o.mode = .send → o.journal = true) :
    WritesOnce p (existingAttempt e p o) had := by
  unfold existingAttempt
  split
  · exact .call trivial fun _ _ => settleExisting_writes (fresh.snoc rfl) journaled
  · exact settleExisting_writes fresh journaled

theorem run_writes : WritesOnce p (run e p o) [] := by
  have fresh : Fresh [] := fun answer listed => absurd listed not_mem_nil
  unfold run
  by_cases sending : o.mode = .send
  · rw [if_pos sending]
    refine .call trivial fun submitted _ => ?_
    split
    · exact .done trivial
    by_cases journaled : o.journal = false
    · rw [if_pos journaled]
      exact .done trivial
    rw [if_neg journaled]
    split
    · exact .done trivial
    refine .call trivial fun state _ => ?_
    split
    · exact .done trivial
    split
    · exact .done trivial
    exact existingAttempt_writes ((fresh.snoc rfl).snoc rfl) fun _ => Bool.eq_true_of_not_eq_false journaled
  · rw [if_neg sending]
    exact existingAttempt_writes fresh fun sends => absurd sends sending

section Reconciliations
variable {d : ReconcileDeps} {s : FixtureSettlement} {artifacts : List ArtifactRecord} {a : AttemptRecord}

theorem moved_silent {β : Type} {state : AttemptState} {patch : SettlementJournal.Patch}
    {next : AttemptRecord → SettleProgram β} (rest : ∀ a, Silent (next a)) : Silent (moved a state patch next) :=
  .call rfl fun _ => .orThrow rest

theorem readCommitments_silent (gate : String) (block : Option Int) (artifacts : List ArtifactRecord) :
    Silent (readCommitments gate block artifacts) := by
  induction artifacts with
  | nil => exact .done _
  | cons x rest ih => exact .call rfl fun _ => .bind ih fun _ => .done _

theorem gatherEvidence_silent (a : AttemptRecord) (artifacts : List ArtifactRecord) :
    Silent (gatherEvidence a artifacts) := by
  refine .call rfl fun latest => .bind ?_ fun read => ?_
  · unfold readTransaction
    split
    · exact .done _
    · refine .call rfl fun receipt => ?_
      split
      · exact .call rfl fun _ => .done _
      · exact .done _
  · exact .bind (readCommitments_silent _ _ _) fun _ => .done _

theorem release_silent (ev : ChainEvidence) : Silent (release d artifacts a ev) := by
  refine .call rfl fun released => ?_
  cases released with
  | ok _ => exact moved_silent fun _ => .done _
  | error _ => exact .done _

theorem locate_silent (ev : ChainEvidence) : Silent (locate d s artifacts a ev) := by
  unfold locate hold
  split
  · exact moved_silent fun _ => .done _
  · split
    · exact moved_silent fun _ => .done _
    · exact .done _
  · exact release_silent ev
  · split
    · exact moved_silent fun _ => .done _
    · split
      · exact moved_silent fun _ => .done _
      · split
        · exact .call rfl fun _ => .orThrow fun _ => .done _
        · exact .done _

theorem settleConfirmed_silent : Silent (settleConfirmed s a) := by
  unfold settleConfirmed
  split
  · exact .done _
  · split
    · refine .bind (checkPostconditions_silent _ _ _ _ _) fun failures => ?_
      split
      · exact moved_silent fun _ => .done _
      · exact moved_silent fun _ => .done _
    · exact .done _

theorem consumeSettled_silent : Silent (consumeSettled a) := by
  unfold consumeSettled
  split
  · exact .done _
  · refine .call rfl fun consumed => ?_
    cases consumed with
    | ok _ => exact moved_silent fun _ => .done _
    | error _ => exact .done _

theorem releaseReverted_silent : Silent (releaseReverted d artifacts a) := by
  unfold releaseReverted
  split
  · exact .done _
  · refine .bind (gatherEvidence_silent _ _) fun ev => ?_
    split
    · exact release_silent ev
    · exact .done _

theorem reconcileOne_silent (first : AttemptRecord) : Silent (reconcileOne d first) := by
  unfold reconcileOne
  split
  · exact .done _
  · refine .call rfl fun artifacts => .bind ?_ fun located => ?_
    · split
      · exact .bind (gatherEvidence_silent _ _) fun ev => .bind (locate_silent ev) fun _ => .done _
      · exact .done _
    · exact .bind settleConfirmed_silent fun _ => .bind consumeSettled_silent fun _ =>
        .bind releaseReverted_silent fun _ => .done _

theorem reconcileAttempts_silent : Silent (reconcileAttempts d) := by
  refine .call rfl fun attempts => ?_
  induction attempts with
  | nil => exact .done _
  | cons first rest ih => exact .bind (reconcileOne_silent first) fun _ => .bind ih fun _ => .done _

theorem SettleClient.obeys (client : SettleClient) :
    Obeys anyAnswer (fun had call => client.permits had call) anything client.program [] := by
  cases client with
  | run e p o => exact .bind (run_writes.weaken fun _ _ _ => trivial)
  | reconcile d => exact (Silent.bind reconcileAttempts_silent fun _ => Silent.done _) []
  | operator _ _ | browser _ => exact (Silent.call rfl fun _ => .done _) []

end Reconciliations

section Journals
variable {shared after : Shared} {reservation : ReservationId} {call : SettleCall} {reply : SettleReply call}
  {a : AttemptRecord}

theorem wrote_get {result : Journaled AttemptRecord} {reply : Except JournalRefusal AttemptRecord}
    (wrote : Wrote shared after result reply) : after = shared ∧ (∃ refusal, reply = .error refusal) ∨
      ∃ a, result = .ok (a, after.journal) ∧ reply = .ok a := by
  cases result with
  | error refusal =>
    obtain ⟨rfl, rfl⟩ := wrote
    exact .inl ⟨rfl, refusal, rfl⟩
  | ok written =>
    obtain ⟨a, j⟩ := written
    obtain ⟨rfl, rfl⟩ := wrote
    exact .inr ⟨a, rfl, rfl⟩

/-- What a call leaves of a record: a binding stays, and only a write-ahead gives it a transaction. -/
def Follows (answer : SettleAnswer) (reservation : ReservationId) (a b : AttemptRecord) : Prop :=
  (a.domainOpenedAt.isSome → b.domainOpenedAt.isSome) ∧
    (b.tx = a.tx ∨ ∃ tx before c, answer = ⟨.startSubmission reservation tx before, .ok c⟩ ∧ b.tx = some tx)

theorem Follows.refl (answer : SettleAnswer) (reservation : ReservationId) (a : AttemptRecord) :
    Follows answer reservation a a := ⟨fun bound => bound, .inl rfl⟩

theorem Follows.written {answer : SettleAnswer} {other : ReservationId} {next b : AttemptRecord}
    (there : shared.journal.get other = some b)
    (gets : ∀ r, after.journal.get r = if r = other then some next else shared.journal.get r)
    (found : shared.journal.get reservation = some a) (follows : Follows answer other b next) :
    ∃ c, after.journal.get reservation = some c ∧ Follows answer reservation a c := by
  rw [gets reservation]
  by_cases same : reservation = other
  · subst same
    obtain rfl := Option.some.inj (there.symm.trans found)
    exact ⟨next, if_pos rfl, follows⟩
  · exact ⟨a, by rw [if_neg same, found], .refl _ _ a⟩

theorem record_follows (answered : answers call shared reply after) (found : shared.journal.get reservation = some a) :
    ∃ b, after.journal.get reservation = some b ∧ Follows ⟨call, reply⟩ reservation a b := by
  have same (unchanged : after.journal = shared.journal) :
      ∃ b, after.journal.get reservation = some b ∧ Follows ⟨call, reply⟩ reservation a b :=
    ⟨a, by rw [unchanged, found], .refl _ _ a⟩
  cases call with
  | prepare binding =>
    rcases wrote_get answered with ⟨rfl, _⟩ | ⟨next, prepared, rfl⟩
    · exact same rfl
    · rcases SettlementJournal.prepare_get prepared with ⟨unchanged, _⟩ | ⟨absent, _, _, _, unchanged, here⟩
      · exact same unchanged
      · have other : reservation ≠ next.reservation := by
          rintro rfl
          rw [here, absent] at found
          cases found
        exact ⟨a, by rw [unchanged, SettlementJournal.get_write_other _ other, found], .refl _ _ a⟩
  | bindDomain other openedAt deadAfter =>
    rcases wrote_get answered with ⟨rfl, _⟩ | ⟨next, bound, rfl⟩
    · exact same rfl
    · obtain ⟨b, there, _, _, rfl, gets⟩ := SettlementJournal.bindDomain_get bound
      exact Follows.written there gets found ⟨fun _ => rfl, .inl rfl⟩
  | recordArtifact artifact =>
    obtain rfl := answered
    rcases SettlementJournal.recordArtifact_get shared.journal artifact reservation with unchanged | ⟨b, there, _, _, now⟩
    · exact ⟨a, by dsimp only; rw [unchanged, found], .refl _ _ a⟩
    · obtain rfl := Option.some.inj (there.symm.trans found)
      exact ⟨_, now, fun bound => bound, .inl rfl⟩
  | startSubmission other tx before =>
    rcases wrote_get answered with ⟨rfl, _⟩ | ⟨next, started, rfl⟩
    · exact same rfl
    · obtain ⟨b, there, _, _, rfl, gets⟩ := SettlementJournal.startSubmission_get started
      exact Follows.written there gets found ⟨fun bound => bound, .inr ⟨tx, before, _, rfl, rfl⟩⟩
  | transition other state patch =>
    rcases wrote_get answered with ⟨rfl, _⟩ | ⟨next, moved, rfl⟩
    · exact same rfl
    · obtain ⟨b, there, _, _, rfl, gets⟩ := SettlementJournal.transition_get moved
      exact Follows.written there gets found ⟨fun bound => bound, .inl rfl⟩
  | requarantine other quarantine =>
    rcases wrote_get answered with ⟨rfl, _⟩ | ⟨next, changed, rfl⟩
    · exact same rfl
    · obtain ⟨b, there, _, _, rfl, gets⟩ := SettlementJournal.requarantine_get changed
      exact Follows.written there gets found ⟨fun bound => bound, .inl rfl⟩
  | submitted _ | gateState _ | consumeGate _ | authorizeGate _ _ | authorizeBrowserIntent _ | get _ | all | artifacts _ =>
    obtain ⟨_, rfl⟩ := answered
    exact same rfl
  | markSubmitted _ =>
    obtain rfl := answered
    exact same rfl
  | _ =>
    obtain rfl := answered
    exact same rfl

theorem bound_record {openedAt deadAfter : Int}
    (answered : answers (.bindDomain reservation openedAt deadAfter) shared (.ok a) after) :
    (∃ b, shared.journal.get reservation = some b ∧ b.domainOpenedAt = none) ∧
      after.journal.get reservation = some a ∧ a.domainOpenedAt.isSome := by
  rcases wrote_get answered with ⟨_, refusal, refused⟩ | ⟨next, bound, told⟩
  · cases refused
  · obtain rfl := Except.ok.inj told
    obtain ⟨b, there, _, unbound, rfl, gets⟩ := SettlementJournal.bindDomain_get bound
    exact ⟨⟨b, there, unbound⟩, by rw [gets, if_pos rfl], rfl⟩

theorem started_record {tx : TxEnvelope} {before : Before}
    (answered : answers (.startSubmission reservation tx before) shared (.ok a) after) :
    after.journal.get reservation = some a ∧ a.state = .submissionStarted ∧ a.tx = some tx := by
  rcases wrote_get answered with ⟨_, refusal, refused⟩ | ⟨next, started, told⟩
  · cases refused
  · obtain rfl := Except.ok.inj told
    obtain ⟨b, there, _, _, rfl, gets⟩ := SettlementJournal.startSubmission_get started
    exact ⟨by rw [gets, if_pos rfl], rfl, rfl⟩

end Journals

end Runs

section Interleavings
variable {ι : Type}

def begun (clients : ι → SettleClient) (submitted : Nat → Bool) (gates : Nat → SendGate) :
    System Shared SettleCall SettleReply Unit ι :=
  ⟨⟨⟨[], []⟩, submitted, gates⟩, fun i => (clients i).program⟩

def Did (log : History Shared SettleCall SettleReply Unit ι) (client : ι) (answer : SettleAnswer) : Prop :=
  ∃ was lost, (was, some ⟨client, answer, lost⟩) ∈ log

def broadcastBy (reservation : ReservationId) : SettleAnswer → Option PreparedTx
  | ⟨.broadcast r tx, _⟩ => if r = reservation then some tx else none
  | _ => none

def broadcasts (reservation : ReservationId) (log : History Shared SettleCall SettleReply Unit ι) : List PreparedTx :=
  log.filterMap fun entry => entry.2.bind fun event => broadcastBy reservation event.answer

variable {clients : ι → SettleClient} {submitted : Nat → Bool} {gates : Nat → SendGate}
  {log earlier later : History Shared SettleCall SettleReply Unit ι}
  {was finish : System Shared SettleCall SettleReply Unit ι} {label : Option (Event SettleCall SettleReply ι)}
  {c d : ι} {answer : SettleAnswer} {reservation : ReservationId}

theorem did_snoc : Did (log ++ [(was, label)]) c answer ↔
    Did log c answer ∨ ∃ lost, label = some ⟨c, answer, lost⟩ := by
  unfold Did
  constructor
  · rintro ⟨was', lost, listed⟩
    rcases mem_append.mp listed with listed | listed
    · exact .inl ⟨was', lost, listed⟩
    · obtain ⟨rfl, rfl⟩ := Prod.mk.inj (mem_singleton.mp listed)
      exact .inr ⟨lost, rfl⟩
  · rintro (⟨was', lost, listed⟩ | ⟨lost, rfl⟩)
    · exact ⟨was', lost, mem_append_left _ listed⟩
    · exact ⟨was, lost, mem_append_right _ (mem_singleton_self _)⟩

theorem broadcasts_snoc (label : Option (Event SettleCall SettleReply ι)) :
    broadcasts reservation (log ++ [(was, label)]) =
      broadcasts reservation log ++ (label.bind fun event => broadcastBy reservation event.answer).toList := by
  unfold broadcasts
  rw [filterMap_append]
  cases sent : label.bind fun event => broadcastBy reservation event.answer <;> simp [sent]

variable {request : SettleCall} {tx : PreparedTx}

theorem broadcastBy_some {reply : SettleReply request}
    (left : broadcastBy reservation ⟨request, reply⟩ = some tx) : request = .broadcast reservation tx := by
  unfold broadcastBy at left
  split at left
  next r sent reply' same =>
    obtain ⟨rfl, kept⟩ := Option.ite_none_right_eq_some.mp left
    obtain rfl := Option.some.inj kept
    exact (Sigma.mk.inj same).1
  next => cases left

theorem mem_broadcasts (listed : tx ∈ broadcasts reservation log) :
    ∃ c reply, Did log c ⟨.broadcast reservation tx, reply⟩ := by
  obtain ⟨⟨was, label⟩, logged, sent⟩ := mem_filterMap.mp listed
  obtain ⟨⟨c, answer, lost⟩, same, left⟩ := Option.bind_eq_some_iff.mp sent
  obtain rfl : label = some ⟨c, answer, lost⟩ := same
  obtain ⟨request, reply⟩ := answer
  obtain rfl := broadcastBy_some left
  exact ⟨c, reply, was, lost, logged⟩

variable {client : SettleClient} {had : List SettleAnswer}

theorem permits_start {tx : TxEnvelope} {before : Before}
    (permits : client.permits had (.startSubmission reservation tx before)) : Bound reservation had ∧ Fresh had := by
  cases client with
  | run e p o =>
    obtain ⟨rfl, bound, fresh⟩ := permits
    exact ⟨bound, fresh⟩
  | reconcile _ | operator _ _ | browser _ => cases permits

theorem permits_broadcast (permits : client.permits had (.broadcast reservation tx)) :
    (∃ before a, ⟨.startSubmission reservation tx.envelope before, .ok a⟩ ∈ had) ∧
      ∀ other sent reply, (⟨.broadcast other sent, reply⟩ : SettleAnswer) ∉ had := by
  cases client with
  | run e p o =>
    obtain ⟨rfl, started, alone⟩ := permits
    exact ⟨started, alone⟩
  | reconcile _ | operator _ _ | browser _ => cases permits

/-- What the journal keeps of a run of any clients: who bound an attempt, what was written ahead for
it, and what left. -/
structure Books (log : History Shared SettleCall SettleReply Unit ι)
    (finish : System Shared SettleCall SettleReply Unit ι) : Prop where
  bound : ∀ {c reservation openedAt deadAfter a}, Did log c ⟨.bindDomain reservation openedAt deadAfter, .ok a⟩ →
    ∃ b, finish.store.journal.get reservation = some b ∧ b.domainOpenedAt.isSome
  binder : ∀ {c d reservation openedAt deadAfter a openedAt' deadAfter' b},
    Did log c ⟨.bindDomain reservation openedAt deadAfter, .ok a⟩ →
    Did log d ⟨.bindDomain reservation openedAt' deadAfter', .ok b⟩ → c = d
  started : ∀ {c reservation tx before a}, Did log c ⟨.startSubmission reservation tx before, .ok a⟩ →
    (∃ openedAt deadAfter b, Did log c ⟨.bindDomain reservation openedAt deadAfter, .ok b⟩) ∧
    ∃ b, finish.store.journal.get reservation = some b ∧ b.tx = some tx
  sent : ∀ {c reservation tx reply}, Did log c ⟨.broadcast reservation tx, reply⟩ →
    ∃ before a, Did log c ⟨.startSubmission reservation tx.envelope before, .ok a⟩
  once : ∀ reservation, (broadcasts reservation log).length ≤ 1

theorem books_start : Books [] (begun clients submitted gates) := by
  have nothing {c : ι} {answer : SettleAnswer} : ¬Did [] c answer := fun ⟨_, _, listed⟩ => not_mem_nil listed
  exact ⟨fun did => absurd did nothing, fun did => absurd did nothing, fun did => absurd did nothing,
    fun did => absurd did nothing, fun _ => Nat.zero_le _⟩

theorem Books.crashed {after : System Shared SettleCall SettleReply Unit ι} (books : Books log was)
    (same : after.store = was.store) : Books (log ++ [(was, none)]) after := by
  have did {c : ι} {answer : SettleAnswer} : Did (log ++ [(was, none)]) c answer → Did log c answer := by
    intro did
    rcases did_snoc.mp did with did | ⟨lost, none⟩
    · exact did
    · cases none
  refine ⟨fun h => ?_, fun h h' => books.binder (did h) (did h'), fun h => ?_, fun h => ?_, fun reservation => ?_⟩
  · rw [same]
    exact books.bound (did h)
  · rw [same]
    obtain ⟨⟨openedAt, deadAfter, b, bound⟩, rest⟩ := books.started (did h)
    exact ⟨⟨openedAt, deadAfter, b, did_snoc.mpr (.inl bound)⟩, rest⟩
  · obtain ⟨before, a, started⟩ := books.sent (did h)
    exact ⟨before, a, did_snoc.mpr (.inl started)⟩
  · rw [broadcasts_snoc]
    simpa using books.once reservation

theorem Books.holds_sent (books : Books log finish) {reply : BroadcastResult}
    (sent : Did log c ⟨.broadcast reservation tx, reply⟩) :
    (finish.store.journal.get reservation).bind (·.tx) = some tx.envelope := by
  obtain ⟨before, a, started⟩ := books.sent sent
  obtain ⟨_, b, found, holds⟩ := books.started started
  rw [found]
  exact holds

variable [DecidableEq ι]

theorem did_transcript (listed : answer ∈ transcript c log) : Did log c answer := by
  obtain ⟨was, listed⟩ := mem_transcript.mp listed
  exact ⟨was, false, listed⟩

variable {next : SettleReply request → SettleProgram Unit}

theorem permitted (trace : Trace (Turn answers) (begun clients submitted gates) log finish)
    (turn : finish.clients c = .call request next) : (clients c).permits (transcript c log) request := by
  have follows := (disciplined (fun _ => True) trace trivial (fun _ _ => ⟨trivial, trivial⟩)
    fun i => (clients i).obeys).2 c
  rw [turn] at follows
  exact follows.1

theorem did_heard (trace : Trace (Turn answers) (begun clients submitted gates) log finish)
    (turn : finish.clients c = .call request next) (did : Did log c answer) : answer ∈ transcript c log := by
  obtain ⟨was, lost, listed⟩ := did
  cases lost with
  | false => exact mem_transcript.mpr ⟨was, listed⟩
  | true =>
    rw [lost_failed trace listed] at turn
    cases turn

theorem Books.served {after : System Shared SettleCall SettleReply Unit ι} {lost : Bool} {request : SettleCall}
    {reply : SettleReply request} {next : SettleReply request → SettleProgram Unit} (books : Books log was)
    (trace : Trace (Turn answers) (begun clients submitted gates) log was)
    (turn : was.clients c = .call request next) (answered : answers request was.store reply after.store) :
    Books (log ++ [(was, some ⟨c, ⟨request, reply⟩, lost⟩)]) after := by
  have did {d : ι} {answer : SettleAnswer} (h : Did (log ++ [(was, some ⟨c, ⟨request, reply⟩, lost⟩)]) d answer) :
      Did log d answer ∨ d = c ∧ (⟨request, reply⟩ : SettleAnswer) = answer := by
    rcases did_snoc.mp h with h | ⟨lost, same⟩
    · exact .inl h
    · cases same
      exact .inr ⟨rfl, rfl⟩
  have kept {d : ι} {answer : SettleAnswer} (h : Did log d answer) :
      Did (log ++ [(was, some ⟨c, ⟨request, reply⟩, lost⟩)]) d answer := did_snoc.mpr (.inl h)
  have permits := permitted trace turn
  -- a client that may write ahead or broadcast is the one that bound the attempt
  have mine {d : ι} {reservation : ReservationId} {openedAt deadAfter : Int} {a : AttemptRecord}
      (bound : Bound reservation (transcript c log))
      (theirs : Did log d ⟨.bindDomain reservation openedAt deadAfter, .ok a⟩) : d = c := by
    obtain ⟨openedAt', deadAfter', b, listed⟩ := bound
    exact books.binder theirs (did_transcript listed)
  refine ⟨?_, ?_, ?_, ?_, ?_⟩
  · intro d reservation openedAt deadAfter a h
    rcases did h with old | ⟨rfl, same⟩
    · obtain ⟨b, found, bound⟩ := books.bound old
      obtain ⟨b', found', follows⟩ := record_follows answered found
      exact ⟨b', found', follows.1 bound⟩
    · cases same
      exact ⟨a, (bound_record answered).2⟩
  · have clash {d : ι} {reservation : ReservationId} {openedAt deadAfter openedAt' deadAfter' : Int}
        {a b : AttemptRecord} (theirs : Did log d ⟨.bindDomain reservation openedAt deadAfter, .ok a⟩)
        (here : (⟨request, reply⟩ : SettleAnswer) = ⟨.bindDomain reservation openedAt' deadAfter', .ok b⟩) : False := by
      cases here
      obtain ⟨b, found, bound⟩ := books.bound theirs
      obtain ⟨b', found', unbound⟩ := (bound_record answered).1
      obtain rfl := Option.some.inj (found.symm.trans found')
      rw [unbound] at bound
      cases bound
    intro d d' reservation openedAt deadAfter a openedAt' deadAfter' b h h'
    rcases did h with old | ⟨rfl, same⟩
    · rcases did h' with old' | ⟨rfl, same'⟩
      · exact books.binder old old'
      · exact (clash old same').elim
    · rcases did h' with old' | ⟨rfl, _⟩
      · exact (clash old' same).elim
      · rfl
  · intro d reservation tx before a h
    rcases did h with old | ⟨rfl, same⟩
    · obtain ⟨⟨openedAt, deadAfter, b, bound⟩, written, found, holds⟩ := books.started old
      refine ⟨⟨openedAt, deadAfter, b, kept bound⟩, ?_⟩
      obtain ⟨after', found', follows⟩ := record_follows answered found
      rcases follows.2 with unchanged | ⟨tx', before', c', here, _⟩
      · exact ⟨after', found', unchanged.trans holds⟩
      · obtain ⟨rfl, _⟩ := Sigma.mk.inj here
        obtain ⟨binds, fresh⟩ := permits_start permits
        obtain rfl := mine binds bound
        cases fresh _ (did_heard trace turn old)
    · cases same
      obtain ⟨⟨openedAt, deadAfter, b, listed⟩, _⟩ := permits_start permits
      obtain ⟨found, _, holds⟩ := started_record answered
      exact ⟨⟨openedAt, deadAfter, b, kept (did_transcript listed)⟩, a, found, holds⟩
  · intro d reservation tx reply' h
    rcases did h with old | ⟨rfl, same⟩
    · obtain ⟨before, a, started⟩ := books.sent old
      exact ⟨before, a, kept started⟩
    · obtain ⟨rfl, _⟩ := Sigma.mk.inj same
      obtain ⟨⟨before, a, listed⟩, _⟩ := permits_broadcast permits
      exact ⟨before, a, kept (did_transcript listed)⟩
  · intro reservation
    rw [broadcasts_snoc]
    dsimp only [Option.bind_some]
    cases left : broadcastBy reservation (⟨request, reply⟩ : SettleAnswer) with
    | none => simpa using books.once reservation
    | some tx =>
      have none_before : broadcasts reservation log = [] := by
        rw [eq_nil_iff_forall_not_mem]
        intro tx' listed
        obtain ⟨d, reply', sent⟩ := mem_broadcasts listed
        obtain ⟨before, a, started⟩ := books.sent sent
        obtain ⟨⟨openedAt, deadAfter, b, bound⟩, _⟩ := books.started started
        obtain ⟨rfl⟩ := broadcastBy_some left
        obtain ⟨⟨before', a', listed'⟩, alone⟩ := permits_broadcast permits
        obtain ⟨⟨openedAt', deadAfter', b', bound'⟩, _⟩ := books.started (did_transcript listed')
        obtain rfl := books.binder bound bound'
        exact alone _ _ _ (did_heard trace turn sent)
      rw [none_before]
      simp

theorem books_kept (trace : Trace (Turn answers) (begun clients submitted gates) log finish) : Books log finish := by
  refine trace.history Books books_start ?_
  intro log before label after earlier books taken
  cases taken with
  | crashed turn => exact books.crashed rfl
  | served lost turn answered => exact books.served earlier turn answered

/-- At most one raw transaction leaves for a reservation, after its own run bound the attempt and wrote
the transaction ahead, and the journal names it from then on. -/
structure Recorded (log : History Shared SettleCall SettleReply Unit ι)
    (finish : System Shared SettleCall SettleReply Unit ι) : Prop where
  once : ∀ reservation, (broadcasts reservation log).length ≤ 1
  ahead : ∀ {earlier later was c lost reservation tx reply},
    log = earlier ++ (was, some ⟨c, ⟨.broadcast reservation tx, reply⟩, lost⟩) :: later →
    ∃ first second third unbound opened written openedAt deadAfter bound before started, earlier = first ++
        (unbound, some ⟨c, ⟨.bindDomain reservation openedAt deadAfter, .ok bound⟩, false⟩) :: second ++
        (opened, some ⟨c, ⟨.startSubmission reservation tx.envelope before, .ok started⟩, false⟩) :: third ∧
      answers (.startSubmission reservation tx.envelope before) opened.store (.ok started) written ∧
      written.journal.get reservation = some started ∧ started.state = .submissionStarted ∧
      started.tx = some tx.envelope ∧ (was.store.journal.get reservation).bind (·.tx) = some tx.envelope
  named : ∀ {c reservation tx reply a}, Did log c ⟨.broadcast reservation tx, reply⟩ →
    finish.store.journal.get reservation = some a → a.tx = some tx.envelope
  unsent : ∀ {reservation a}, finish.store.journal.get reservation = some a → a.tx = none →
    broadcasts reservation log = []

theorem broadcasts_recorded (trace : Trace (Turn answers) (begun clients submitted gates) log finish) :
    Recorded log finish := by
  have books := books_kept trace
  refine ⟨books.once, ?_, ?_, ?_⟩
  · rintro earlier later was c lost reservation tx reply rfl
    obtain ⟨_, prior, taken, _⟩ := trace.split rfl
    cases taken with
    | served lost turn answered =>
      obtain ⟨⟨before, started, told⟩, _⟩ := permits_broadcast (permitted prior turn)
      have holds := (books_kept prior).started (did_transcript told)
      obtain ⟨opened, listed⟩ := mem_transcript.mp told
      obtain ⟨front, third, rfl⟩ := append_of_mem listed
      obtain ⟨_, prior', taken', _⟩ := prior.split rfl
      cases taken' with
      | @served _ _ _ _ written _ turn' answered' =>
        obtain ⟨⟨openedAt, deadAfter, bound, heard⟩, _⟩ := permits_start (permitted prior' turn')
        obtain ⟨unbound, listed'⟩ := mem_transcript.mp heard
        obtain ⟨first, second, rfl⟩ := append_of_mem listed'
        obtain ⟨found, state, named⟩ := started_record answered'
        obtain ⟨_, b, here, kept⟩ := holds
        exact ⟨first, second, third, unbound, opened, written, openedAt, deadAfter, bound, before, started,
          by simp, answered', found, state, named, by rw [here]; exact kept⟩
  · intro c reservation tx reply a sent found
    have holds := books.holds_sent sent
    rwa [found] at holds
  · intro reservation a found unsent
    rw [eq_nil_iff_forall_not_mem]
    intro tx listed
    obtain ⟨c, reply, sent⟩ := mem_broadcasts listed
    have holds := books.holds_sent sent
    rw [found] at holds
    exact absurd (unsent.symm.trans holds) nofun

end Interleavings

section Sample

def sampleSettlement : FixtureSettlement := ⟨"0xga7e", "0xf00d", "0xa9e1", "0x1", "0x2", 5, 7, 3, 0⟩

def samplePrepared : Prepared := ⟨⟨1, 11, 12, 13, 14, 15, "agent"⟩, sampleSettlement⟩

def sampleArtifact : GateArtifact := ⟨21, 22, 23, 900⟩

def sampleTx : PreparedTx := ⟨⟨31, "0xa9e1", "0xga7e", 0, 32, 130, 1⟩, "0xga7e", 21⟩

/-- A session under the demonstration key, whose settlements are what the fixture maps them to. -/
def sampleEnv : SettlementEnv where
  self := 0
  session := "session"
  transport := "LOCAL"
  liveProvider := false
  principal := "0xf00d"
  chainId := 46630
  authorization := some ⟨"DEMO_PRINCIPAL_KEY", "0xf00d", "0xf00d"⟩
  mapToFixture _ _ := some sampleSettlement
  settlementBindingDigest _ := 3
  checkCall _ _ _ := none
  digestReceipt _ _ _ _ := 0

def sampleOptions : RunOptions := ⟨.send, 0, true, false⟩

def sampleRecord : AttemptRecord where
  toAttemptBinding := bindingOf sampleEnv samplePrepared
  state := .prepared
  quarantine := none
  domainOpenedAt := none
  artifactDeadAfter := none
  tx := none
  sendArtifact := none
  before := none
  receipt := none
  postconditions := none
  observation := none
  revision := 1

def sampleShared : Shared := ⟨⟨[], []⟩, fun _ => false, fun _ => ⟨.authorized, some .operatorPhrase⟩⟩

theorem sample_reaches : ∃ after next, Alone answers sampleShared
    (SettleClient.run sampleEnv samplePrepared sampleOptions).program after (.call (.broadcast 15 sampleTx) next) := by
  refine ⟨?_, ?_, ?_⟩
  rotate_left 2
  · refine .served false ⟨rfl, rfl⟩ ?_
    refine .served SendGateState.authorized ⟨rfl, rfl⟩ ?_
    refine .served none ⟨rfl, rfl⟩ ?_
    refine .served () rfl ?_
    refine .served none rfl ?_
    refine .served false rfl ?_
    refine .served (.ok sampleRecord) ⟨rfl, rfl⟩ ?_
    refine .served (.ok true) rfl ?_
    refine .served true rfl ?_
    refine .served (.ok ⟨5, 100⟩) rfl ?_
    refine .served (.ok ⟨5, 100⟩) rfl ?_
    refine .served (.ok _) ⟨rfl, rfl⟩ ?_
    refine .served (.ok ()) rfl ?_
    refine .served () rfl ?_
    refine .served (.ok ⟨5, 100⟩) rfl ?_
    refine .served (DomainAdmission.admitted sampleArtifact) rfl ?_
    refine .served (.ok ()) rfl ?_
    refine .served (.ok ()) rfl ?_
    refine .served (.ok ⟨5, 100⟩) rfl ?_
    refine .served (.ok 46630) rfl ?_
    refine .served () rfl ?_
    refine .served (.ok ()) rfl ?_
    refine .served (.ok 100) rfl ?_
    refine .served SendGateState.authorized ⟨rfl, rfl⟩ ?_
    refine .served true ⟨rfl, rfl⟩ ?_
    refine .served (.ok 46630) rfl ?_
    refine .served (some ⟨5, 0, 0, 0⟩) rfl ?_
    refine .served (.ok sampleTx) rfl ?_
    refine .served () rfl ?_
    refine .served (.ok _) ⟨rfl, rfl⟩ ?_
    exact .here _ _

abbrev sampleStart : System Shared SettleCall SettleReply Unit Unit :=
  begun (fun _ => .run sampleEnv samplePrepared sampleOptions) sampleShared.submitted sampleShared.gates

theorem broadcasts_recorded_sent : ∃ log finish, Trace (Turn answers) sampleStart log finish ∧
    sampleTx ∈ broadcasts 15 log ∧ Recorded log finish := by
  obtain ⟨after, next, alone⟩ := sample_reaches
  obtain ⟨log, trace⟩ := alone.run (i := ()) (.nil : Trace (Turn answers) sampleStart [] sampleStart) rfl rfl
  have turn : Function.update sampleStart.clients () (.call (.broadcast 15 sampleTx) next) () =
    .call (.broadcast 15 sampleTx) next := Function.update_self _ _ _
  have answered : answers (.broadcast 15 sampleTx) after (.accepted 31) after := rfl
  have sent := trace.snoc (Turn.served (i := ()) false turn answered)
  refine ⟨_, _, sent, ?_, broadcasts_recorded sent⟩
  rw [broadcasts_snoc]
  exact mem_append_right _ (mem_singleton_self _)

end Sample

end Mandate.Settlement
