import Mandate.Settlement.Journal

/-! The journal's writers, called in any order: what each keeps of an attempt, and the two of them that may
write what they should not. -/
set_option linter.dupNamespace false
namespace Mandate.Settlement
open Core
open Option (some.inj)

inductive JournalCall
  | prepare (b : AttemptBinding)
  | bindDomain (reservation : ReservationId) (openedAt deadAfter : Int)
  | recordArtifact (x : ArtifactRecord)
  | startSubmission (reservation : ReservationId) (tx : TxEnvelope) (before : Before)
  | transition (reservation : ReservationId) (state : AttemptState) (patch : SettlementJournal.Patch)
  | requarantine (reservation : ReservationId) (quarantine : Quarantine)

namespace SettlementJournal

def answer (j : SettlementJournal) : JournalCall → Except JournalRefusal SettlementJournal
  | .prepare b => (j.prepare b).map (·.2)
  | .bindDomain reservation openedAt deadAfter => (j.bindDomain reservation openedAt deadAfter).map (·.2)
  | .recordArtifact x => .ok (j.recordArtifact x)
  | .startSubmission reservation tx before => (j.startSubmission reservation tx before).map (·.2)
  | .transition reservation state patch => (j.transition reservation state patch).map (·.2)
  | .requarantine reservation quarantine => (j.requarantine reservation quarantine).map (·.2)

def after (j : SettlementJournal) (c : JournalCall) : SettlementJournal :=
  match j.answer c with
  | .ok next => next
  | .error _ => j

def run (j : SettlementJournal) (calls : List JournalCall) : SettlementJournal := calls.foldl after j

def steps (j : SettlementJournal) : List JournalCall → List (SettlementJournal × JournalCall)
  | [] => []
  | c :: calls => (j, c) :: steps (j.after c) calls

end SettlementJournal

/-- The attempt whose record the call updates, where it is accepted. -/
def JournalCall.updates : JournalCall → Option ReservationId
  | .bindDomain reservation _ _ | .startSubmission reservation _ _ | .transition reservation _ _
  | .requarantine reservation _ => some reservation
  | .prepare _ | .recordArtifact _ => none

structure Keeps (a next : AttemptRecord) : Prop where
  binding : next.toAttemptBinding = a.toAttemptBinding
  state : next.state = a.state ∨ next.state ∈ NEXT a.state
  ended : isTerminal a = true → next = a
  tx : ∀ tx ∈ a.tx, next.tx = some tx
  sendArtifact : ∀ artifact ∈ a.sendArtifact, next.sendArtifact = some artifact
  opened : ∀ time ∈ a.domainOpenedAt, next.domainOpenedAt = some time
  revision : next = a ∨ next.revision = a.revision + 1

structure Forward (j : SettlementJournal) (c : JournalCall) : Prop where
  kept : ∀ reservation, ∀ a ∈ j.get reservation, ∃ next ∈ (j.after c).get reservation, Keeps a next
  counted : ∀ next, j.answer c = .ok next → ∀ reservation ∈ c.updates, ∀ a ∈ j.get reservation,
    ∃ written ∈ next.get reservation, written.revision = a.revision + 1
  named : ∀ x, c = .recordArtifact x → x.mode = .send → ∀ a ∈ j.get x.reservation, isTerminal a = false →
    a.sendArtifact = none →
      ∃ next ∈ (j.after c).get x.reservation, next.sendArtifact = some ⟨x.mandateDigest, x.commitment, x.deadline⟩

def SettlementJournal.journaled (j : SettlementJournal) (digest : Digest32) : Bool :=
  j.artifacts.any fun other => other.mandateDigest == digest

/-- No other envelope is given to an attempt in `SUBMISSION_STARTED`, and a SEND artifact for an attempt
without one comes under a new digest just while the attempt is open. -/
def Clear (j : SettlementJournal) : JournalCall → Prop
  | .startSubmission reservation tx _ => ∀ a ∈ j.get reservation,
    a.state = .prepared ∨ a.state = .submissionStarted → ∀ given ∈ a.tx, given = tx
  | .recordArtifact x => x.mode = .send → ∀ a ∈ j.get x.reservation, a.sendArtifact = none →
    (isTerminal a = false ↔ j.journaled x.mandateDigest = false)
  | _ => True

instance (j : SettlementJournal) (c : JournalCall) : Decidable (Clear j c) := by
  cases c <;> unfold Clear <;> infer_instance

theorem Keeps.refl (a : AttemptRecord) : Keeps a a :=
  ⟨rfl, .inl rfl, fun _ => rfl, fun _ => id, fun _ => id, fun _ => id, .inl rfl⟩

section Calls
variable {j : SettlementJournal} {c : JournalCall} {next : SettlementJournal}

theorem after_ok (accepted : j.answer c = .ok next) : j.after c = next := by
  rw [SettlementJournal.after, accepted]

variable {refusal : JournalRefusal}

theorem after_error (refused : j.answer c = .error refusal) : j.after c = j := by
  rw [SettlementJournal.after, refused]

theorem forward_still (still : ∀ reservation, ∀ a ∈ j.get reservation, a ∈ (j.after c).get reservation)
    (silent : ∀ next, j.answer c = .ok next → c.updates = none) (other : ∀ x, c ≠ .recordArtifact x) : Forward j c where
  kept reservation a found := ⟨a, still reservation a found, .refl a⟩
  counted next accepted reservation updated := by
    rw [silent next accepted] at updated
    cases updated
  named x is := absurd is (other x)

theorem forward_refused (refused : j.answer c = .error refusal)
    (other : ∀ x, c ≠ .recordArtifact x) : Forward j c :=
  forward_still (fun _ _ found => by rwa [after_error refused])
    (fun _ accepted => by cases refused.symm.trans accepted) other

variable {reservation : ReservationId} {a : AttemptRecord}

theorem forward_update {written : AttemptRecord}
    (accepted : j.answer c = .ok next) (updates : c.updates = some reservation) (found : j.get reservation = some a)
    (gets : ∀ other, next.get other = if other = reservation then some written else j.get other)
    (counted : written.revision = a.revision + 1) : Forward j c ↔ Keeps a written := by
  have here : (j.after c).get reservation = some written := by rw [after_ok accepted, gets, if_pos rfl]
  constructor
  · intro forward
    obtain ⟨_, is, keeps⟩ := forward.kept reservation a found
    rw [here] at is
    obtain rfl := some.inj is
    exact keeps
  · intro keeps
    refine ⟨fun other b listed => ?_, fun after accepted' other updated b listed => ?_, fun x is => ?_⟩
    · by_cases same : other = reservation
      · subst same
        obtain rfl := some.inj (found.symm.trans listed)
        exact ⟨written, here, keeps⟩
      · exact ⟨b, by rw [after_ok accepted, gets, if_neg same]; exact listed, .refl b⟩
    · obtain rfl := some.inj (updates.symm.trans updated)
      obtain rfl := some.inj (found.symm.trans listed)
      obtain rfl := Except.ok.inj (accepted.symm.trans accepted')
      exact ⟨written, by rw [gets, if_pos rfl]; rfl, counted⟩
    · subst is
      cases updates

theorem accepted_of_map {α : Type} {result : Journaled α}
    (accepted : result.map (·.2) = .ok next) : ∃ value, result = .ok (value, next) := by
  cases result with
  | error => cases accepted
  | ok step =>
    obtain rfl := Except.ok.inj accepted
    exact ⟨step.1, rfl⟩

theorem forward_prepare (j : SettlementJournal) (b : AttemptBinding) : Forward j (.prepare b) := by
  cases answered : j.answer (.prepare b) with
  | error refusal => exact forward_refused answered nofun
  | ok next =>
    obtain ⟨a, prepared⟩ := accepted_of_map answered
    refine forward_still (fun reservation was found => ?_) (fun _ _ => rfl) nofun
    rw [after_ok answered]
    rcases SettlementJournal.prepare_get prepared with ⟨rfl, _⟩ | ⟨absent, _, _, _, rfl, bound⟩
    · exact found
    · have other : reservation ≠ a.reservation := by
        rintro rfl
        have none_there : j.get a.reservation = none := bound ▸ absent
        rw [none_there] at found
        cases found
      rwa [SettlementJournal.get_write_other j other]

theorem forward_bindDomain (j : SettlementJournal) (reservation : ReservationId) (openedAt deadAfter : Int) :
    Forward j (.bindDomain reservation openedAt deadAfter) := by
  cases answered : j.answer (.bindDomain reservation openedAt deadAfter) with
  | error refusal => exact forward_refused answered nofun
  | ok next =>
    obtain ⟨_, bound⟩ := accepted_of_map answered
    obtain ⟨a, found, prepared, unbound, rfl, gets⟩ := SettlementJournal.bindDomain_get bound
    refine (forward_update answered rfl found gets rfl).mpr
      ⟨rfl, .inl rfl, fun ended => ?_, fun _ => id, fun _ => id, fun _ bound => ?_, .inr rfl⟩
    · simp [isTerminal, prepared, NEXT] at ended
    · rw [unbound] at bound
      cases bound

theorem forward_transition (j : SettlementJournal) (reservation : ReservationId) (state : AttemptState)
    (patch : SettlementJournal.Patch) : Forward j (.transition reservation state patch) := by
  cases answered : j.answer (.transition reservation state patch) with
  | error refusal => exact forward_refused answered nofun
  | ok next =>
    obtain ⟨_, moved⟩ := accepted_of_map answered
    obtain ⟨a, found, going, allowed, rfl, gets⟩ := SettlementJournal.transition_get moved
    exact (forward_update answered rfl found gets rfl).mpr ⟨rfl, allowed, fun ended => absurd (going.symm.trans ended) nofun,
      fun _ => id, fun _ => id, fun _ => id, .inr rfl⟩

theorem forward_requarantine (j : SettlementJournal) (reservation : ReservationId) (quarantine : Quarantine) :
    Forward j (.requarantine reservation quarantine) := by
  cases answered : j.answer (.requarantine reservation quarantine) with
  | error refusal => exact forward_refused answered nofun
  | ok next =>
    obtain ⟨_, changed⟩ := accepted_of_map answered
    obtain ⟨a, found, going, _, rfl, gets⟩ := SettlementJournal.requarantine_get changed
    exact (forward_update answered rfl found gets rfl).mpr ⟨rfl, .inl rfl, fun ended => absurd (going.symm.trans ended) nofun,
      fun _ => id, fun _ => id, fun _ => id, .inr rfl⟩

theorem startSubmission_ok (found : j.get reservation = some a)
    (startable : a.state = .prepared ∨ a.state = .submissionStarted) (tx : TxEnvelope) (before : Before) :
    ∃ step, j.startSubmission reservation tx before = .ok step := by
  unfold SettlementJournal.startSubmission SettlementJournal.update
  rw [found]
  rcases startable with state | state <;> simp [isTerminal, state, NEXT]

theorem forward_startSubmission (j : SettlementJournal) (reservation : ReservationId) (tx : TxEnvelope) (before : Before) :
    Forward j (.startSubmission reservation tx before) ↔ Clear j (.startSubmission reservation tx before) := by
  cases answered : j.answer (.startSubmission reservation tx before) with
  | error refusal =>
    refine iff_of_true (forward_refused answered nofun) fun a found startable => ?_
    obtain ⟨step, started⟩ := startSubmission_ok found startable tx before
    rw [SettlementJournal.answer, started] at answered
    cases answered
  | ok next =>
    obtain ⟨_, started⟩ := accepted_of_map answered
    obtain ⟨a, found, going, startable, rfl, gets⟩ := SettlementJournal.startSubmission_get started
    rw [forward_update answered rfl found gets rfl]
    constructor
    · intro keeps other listed _ given had
      obtain rfl := some.inj (found.symm.trans listed)
      exact (some.inj (keeps.tx given had)).symm
    · intro clear
      refine ⟨rfl, ?_, fun ended => absurd (going.symm.trans ended) nofun, fun given had => ?_, fun _ => id, fun _ => id,
        .inr rfl⟩
      · rcases startable with state | state
        · exact .inl state.symm
        · exact .inr (by simp [state, NEXT])
      · exact congrArg some (clear a found startable.symm given had).symm

theorem recordArtifact_gets (j : SettlementJournal) (x : ArtifactRecord) (other : ReservationId) :
    (j.recordArtifact x).get other =
      if x.mode = .send ∧ j.journaled x.mandateDigest = false ∧ other = x.reservation then
        (j.get other).map fun a => if a.sendArtifact = none then { a with
          sendArtifact := some ⟨x.mandateDigest, x.commitment, x.deadline⟩, revision := a.revision + 1 } else a
      else j.get other := by
  unfold SettlementJournal.recordArtifact
  change SettlementJournal.get (if j.journaled x.mandateDigest = true then j else _) other = _
  by_cases seen : j.journaled x.mandateDigest = true
  · rw [if_pos seen, if_neg (by simp [seen])]
  · rw [if_neg seen]
    cases mode : x.mode with
    | dryRun =>
      rw [if_neg (by simp)]
      rfl
    | send =>
      by_cases mine : other = x.reservation
      · subst mine
        rw [if_pos ⟨rfl, by simpa using seen, rfl⟩]
        cases found : j.get x.reservation with
        | none => exact found
        | some a =>
          by_cases unnamed : a.sendArtifact = none
          · simp only [unnamed, Option.isNone_none, if_true, Option.map_some]
            rw [SettlementJournal.get_write, if_pos (SettlementJournal.get_reservation found).symm]
          · simp only [Option.isNone_iff_eq_none, unnamed, if_false, Option.map_some]
            exact found
      · rw [if_neg (fun all => mine all.2.2)]
        cases found : j.get x.reservation with
        | none => rfl
        | some a =>
          dsimp only
          split
          · rw [SettlementJournal.get_write_other _ (by rwa [SettlementJournal.get_reservation found])]
            rfl
          · rfl

theorem forward_recordArtifact (j : SettlementJournal) (x : ArtifactRecord) :
    Forward j (.recordArtifact x) ↔ Clear j (.recordArtifact x) := by
  have gets : ∀ other, (j.after (.recordArtifact x)).get other = _ := recordArtifact_gets j x
  constructor
  · intro forward send a found unnamed
    constructor
    · intro going
      obtain ⟨next, there, named⟩ := forward.named x rfl send a found going unnamed
      by_contra seen
      rw [gets, if_neg (by simp [seen]), found] at there
      obtain rfl := some.inj there
      rw [unnamed] at named
      cases named
    · intro fresh
      by_contra ended
      obtain ⟨next, there, keeps⟩ := forward.kept x.reservation a found
      rw [gets, if_pos ⟨send, fresh, rfl⟩, found, Option.map_some, if_pos unnamed] at there
      obtain rfl := some.inj there
      have same := congrArg AttemptRecord.revision (keeps.ended (by simpa using ended))
      exact absurd same (by simp)
  · intro clear
    refine ⟨fun other a found => ?_, nofun, fun y is send a found going unnamed => ?_⟩
    · rw [gets]
      by_cases here : x.mode = .send ∧ j.journaled x.mandateDigest = false ∧ other = x.reservation
      · obtain ⟨send, fresh, rfl⟩ := here
        rw [if_pos ⟨send, fresh, rfl⟩, found, Option.map_some]
        refine ⟨_, rfl, ?_⟩
        by_cases unnamed : a.sendArtifact = none
        · rw [if_pos unnamed]
          have going := (clear send a found unnamed).mpr fresh
          refine ⟨rfl, .inl rfl, fun ended => absurd (going.symm.trans ended) nofun, fun _ => id, fun _ had => ?_, fun _ => id,
            .inr rfl⟩
          rw [unnamed] at had
          cases had
        · rw [if_neg unnamed]
          exact .refl a
      · rw [if_neg here]
        exact ⟨a, found, .refl a⟩
    · obtain rfl := JournalCall.recordArtifact.inj is
      rw [gets, if_pos ⟨send, (clear send a found unnamed).mp going, rfl⟩, found, Option.map_some, if_pos unnamed]
      exact ⟨_, rfl, rfl⟩

theorem forward_iff_clear (j : SettlementJournal) (c : JournalCall) : Forward j c ↔ Clear j c := by
  cases c with
  | prepare b => exact iff_of_true (forward_prepare j b) trivial
  | bindDomain reservation openedAt deadAfter => exact iff_of_true (forward_bindDomain j reservation openedAt deadAfter) trivial
  | recordArtifact x => exact forward_recordArtifact j x
  | startSubmission reservation tx before => exact forward_startSubmission j reservation tx before
  | transition reservation state patch => exact iff_of_true (forward_transition j reservation state patch) trivial
  | requarantine reservation quarantine => exact iff_of_true (forward_requarantine j reservation quarantine) trivial

end Calls

section Runs

structure Holds (a next : AttemptRecord) : Prop where
  binding : next.toAttemptBinding = a.toAttemptBinding
  state : Relation.ReflTransGen (fun s t => t ∈ NEXT s) a.state next.state
  ended : isTerminal a = true → next = a
  tx : ∀ tx ∈ a.tx, next.tx = some tx
  sendArtifact : ∀ artifact ∈ a.sendArtifact, next.sendArtifact = some artifact
  opened : ∀ time ∈ a.domainOpenedAt, next.domainOpenedAt = some time
  revision : a.revision ≤ next.revision

theorem Holds.refl (a : AttemptRecord) : Holds a a :=
  ⟨rfl, .refl, fun _ => rfl, fun _ => id, fun _ => id, fun _ => id, le_rfl⟩

variable {a : AttemptRecord}

theorem Holds.of_keeps {middle next : AttemptRecord} (keeps : Keeps a middle) (holds : Holds middle next) :
    Holds a next where
  binding := holds.binding.trans keeps.binding
  state := by
    rcases keeps.state with same | follows
    · exact same ▸ holds.state
    · exact .head follows holds.state
  ended ended := by
    obtain rfl := keeps.ended ended
    exact holds.ended ended
  tx tx had := holds.tx tx (keeps.tx tx had)
  sendArtifact artifact had := holds.sendArtifact artifact (keeps.sendArtifact artifact had)
  opened time had := holds.opened time (keeps.opened time had)
  revision := by
    rcases keeps.revision with same | counted
    · exact same ▸ holds.revision
    · have := holds.revision
      omega

theorem holds_run {j : SettlementJournal} {calls : List JournalCall} (clear : ∀ step ∈ j.steps calls, Clear step.1 step.2)
    {reservation : ReservationId} (found : j.get reservation = some a) :
    ∃ next ∈ (j.run calls).get reservation, Holds a next := by
  induction calls generalizing j a with
  | nil => exact ⟨a, found, .refl a⟩
  | cons c calls ih =>
    obtain ⟨middle, there, keeps⟩ :=
      ((forward_iff_clear j c).mpr (clear _ List.mem_cons_self)).kept reservation a found
    obtain ⟨next, listed, holds⟩ := ih (fun step listed => clear step (List.mem_cons_of_mem _ listed)) there
    exact ⟨next, listed, .of_keeps keeps holds⟩

def sampleBound : AttemptBinding := ⟨1, "s", 2, 3, 4, 5, "a", 1, "p", "m", 6, "g", 7, "e"⟩

/-- A SEND artifact whose digest a dry run had journaled, one for an attempt that has ended, and a second
envelope for a submission that has started. -/
def sampleCalls : List (List JournalCall × JournalCall) :=
  let envelope (hash : Digest32) : TxEnvelope := ⟨hash, "f", "t", 0, 8, 9, 10⟩
  [([.prepare sampleBound, .recordArtifact ⟨1, 20, 21, 22, .dryRun⟩], .recordArtifact ⟨1, 20, 21, 22, .send⟩),
    ([.prepare sampleBound, .transition 1 .preparationFailed .none], .recordArtifact ⟨1, 20, 21, 22, .send⟩),
    ([.prepare sampleBound, .startSubmission 1 (envelope 30) ⟨1, 2, 3, 4⟩], .startSubmission 1 (envelope 31) ⟨1, 2, 3, 4⟩)]

end Runs

end Mandate.Settlement
