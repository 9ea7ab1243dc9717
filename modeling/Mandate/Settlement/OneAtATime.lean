import Mandate.Settlement.Ui

/-! One settlement at a time. A settle call is registered from its start to its `finally`, a
reconciliation flagged from its start to its return; what can go wrong is a check made before an
await and acted on after it. -/
set_option linter.dupNamespace false
namespace Mandate.Settlement
open List
open Kernel (Plain)
open Lib.Machine
open Option (some.inj)
open Function (update_apply)

section Calls
variable {Id Typed Result : Type} [DecidableEq Id]

inductive HostCall
  | settle (run : Nat)
  | reconcile (request : Nat)

def SpineUi.InProgress (ui : SpineUi Id Typed Result) (id : Id) : HostCall → Prop
  | .settle run => ∃ job, ui.runs run = some job ∧ job.session = id ∧ job.done = none
  | .reconcile request => ui.requests request = some (id, .reconciling)

/-- Every request of the session has been answered and every settle call's `finally` has run. -/
def SpineUi.Ended (ui : SpineUi Id Typed Result) (id : Id) : Prop :=
  (∀ request stage, ui.requests request = some (id, stage) → ∃ response, stage = .answered response ∨ stage = .rejected) ∧
    ∀ run job, ui.runs run = some job → job.session = id → job.closed ≠ none

/-- The step gives a settle call of the session the value its signature promise keeps. -/
def Reaches (before : SpineUi Id Typed Result) (label : UiLabel Id Typed Result) (id : Id) (run : Nat) : Prop :=
  ∃ request value job, label = .delivered request .found ∧
    before.requests request = some (id, .delivering run value) ∧
    before.runs run = some job ∧ job.signature = none

/-- One call at a time, every signature to the settle call shown last, and nothing left behind. -/
structure Orderly (log : List (SpineUi Id Typed Result × UiLabel Id Typed Result))
    (ui : SpineUi Id Typed Result) : Prop where
  single : ∀ id first second, ui.InProgress id first → ui.InProgress id second → first = second
  directed : ∀ before label id run, (before, label) ∈ log → Reaches before label id run → before.shown id = some run
  cleared : ∀ id, ui.Ended id → ui.jobs id = none ∧ ui.reconciling id = false

/-- What a step must find for the checks made before its await to be good still: a call that starts
finds none registered, a state read that ends finds no other reconciliation running, typed data is
returned while its settle call is registered and before a signature for it comes in, and a `finally`
closes what it opened. -/
def Sheltered (ui : SpineUi Id Typed Result) : UiLabel Id Typed Result → Prop
  | .opened request opened hosted => ∀ id body, ui.requests request = some (id, .opening body) →
      (SpineUi.resume body opened hosted : SpineUi.Resumption Id Typed Result) matches .reconcile | .start _ →
      ui.jobs id = none ∧ ui.reconciling id = false
  | .cleanup _ threw => threw = false
  | .raced request => ∀ id job, ui.requests request = some (id, .settling) → ui.runs request = some job →
      job.request.isSome → ui.jobs id = some request
  | .durable request => ∀ id attempts, ui.requests request = some (id, .reading attempts) →
      ∀ other, ui.requests other ≠ some (id, .reconciling)
  | .delivered request _ => ∀ id run value job, ui.requests request = some (id, .delivering run value) →
      ui.runs run = some job → job.returned = true
  | _ => True

structure Registered (ui : SpineUi Id Typed Result) : Prop where
  jobs_open : ∀ {id run}, ui.jobs id = some run →
    ∃ job, ui.runs run = some job ∧ job.session = id ∧ job.closed = none
  open_registered : ∀ {run job}, ui.runs run = some job → job.closed = none → ui.jobs job.session = some run
  running_open : ∀ {run job}, ui.runs run = some job → job.done = none → job.closed = none
  awaiting_asked : ∀ {run job}, ui.runs run = some job → job.phase = .awaitingSignature → job.request.isSome
  unanswered_running : ∀ {run job}, ui.runs run = some job → job.request.isSome → job.signature = none → job.done = none
  returned_shown : ∀ {run job}, ui.runs run = some job → job.closed = none → job.returned = true →
    ui.shown job.session = some run
  flag_request : ∀ {id}, ui.reconciling id = true → ∃ request, ui.requests request = some (id, .reconciling)
  request_flag : ∀ {id request}, ui.requests request = some (id, .reconciling) → ui.reconciling id = true
  reconciles_once : ∀ {id first second}, ui.requests first = some (id, .reconciling) →
    ui.requests second = some (id, .reconciling) → first = second
  exclusive : ∀ {id}, ui.reconciling id = true → ui.jobs id = none
  unseen : ∀ {request}, ui.requests request = none → ui.runs request = none
  unstarted : ∀ {id request body}, ui.requests request = some (id, .opening body) → ui.runs request = none
  started : ∀ {id request}, ui.requests request = some (id, .settling) →
    ∃ job, ui.runs request = some job ∧ job.session = id
  delivering : ∀ {id request run value}, ui.requests request = some (id, .delivering run value) →
    ∃ job, ui.runs run = some job ∧ job.session = id ∧ job.request.isSome

omit [DecidableEq Id] in
theorem Registered.new : Registered (SpineUi.new : SpineUi Id Typed Result) := by
  constructor <;> simp [SpineUi.new]

variable {ui : SpineUi Id Typed Result} {request : Nat} {id : Id} {stage : Stage Id Typed Result}

omit [DecidableEq Id] in
theorem Registered.move
    (inv : Registered ui) (here : ∀ other, ui.requests request ≠ some (other, .reconciling))
    (quiet : stage ≠ .reconciling) (calm : stage ≠ .settling)
    (opening : ∀ body, stage = .opening body → ui.runs request = none)
    (delivers : ∀ run value, stage = .delivering run value →
      ∃ job, ui.runs run = some job ∧ job.session = id ∧ job.request.isSome) :
    Registered (ui.move request id stage) := by
  cases inv
  constructor <;> simp only [SpineUi.move, update_apply]
  all_goals grind -linarith

variable {run : Nat} {job : Job Id Typed Result}

omit [DecidableEq Id] in
theorem Registered.record {next : Job Id Typed Result}
    (inv : Registered ui) (held : ui.runs run = some job) (session : next.session = job.session)
    (closed : next.closed = job.closed) (returned : next.returned = job.returned)
    (running : next.done = none → job.done = none) (grown : job.request.isSome → next.request.isSome)
    (asked : next.phase = .awaitingSignature → next.request.isSome)
    (unanswered : next.request.isSome → next.signature = none → next.done = none) :
    Registered (ui.record run next) := by
  cases inv
  constructor <;> simp only [SpineUi.record, update_apply]
  all_goals grind -linarith

theorem Registered.shows
    (inv : Registered ui) (held : ui.runs run = some job) (registered : ui.jobs id = some run) :
    Registered ((ui.record run { job with returned := true }).showTo id run) := by
  cases inv
  constructor <;> simp only [SpineUi.record, SpineUi.showTo, update_apply]
  all_goals grind -linarith

theorem Registered.closes
    {result left : Except Unit Result} (inv : Registered ui) (held : ui.runs run = some job)
    (returned : job.done = some result) (opened : job.closed = none) :
    Registered ((ui.record run { job with timer := false, closed := some left }).register job.session none) := by
  have registered := inv.open_registered held opened
  cases inv
  constructor <;> simp only [SpineUi.record, SpineUi.register, update_apply]
  all_goals grind -linarith

variable {body : ParsedBody}

theorem Registered.starts (inv : Registered ui) (here : ui.requests request = some (id, .opening body))
    (free : ui.jobs id = none) (quiet : ui.reconciling id = false) (session : job.session = id)
    (running : job.done = none) (opened : job.closed = none) (unasked : job.phase = .running)
    (unreturned : job.returned = false) :
    Registered (((ui.move request id .settling).record request job).register id (some request)) := by
  have fresh := inv.unstarted here
  cases inv
  constructor <;> simp only [SpineUi.move, SpineUi.record, SpineUi.register, update_apply]
  all_goals grind -linarith

theorem Registered.reconciles (inv : Registered ui) (here : ui.requests request = some (id, .opening body))
    (free : ui.jobs id = none) (quiet : ui.reconciling id = false) :
    Registered ((ui.move request id .reconciling).flag id true) := by
  cases inv
  constructor <;> simp only [SpineUi.move, SpineUi.flag, update_apply]
  all_goals grind -linarith

theorem Registered.unflags
    (inv : Registered ui) (alone : ∀ other, ui.requests other = some (id, .reconciling) → other = request)
    (here : ∀ other, ui.requests request = some (other, .reconciling) → other = id)
    (owned : (∃ attempts, stage = .reading attempts) ∨ ∃ response, stage = .answered response) :
    Registered ((ui.move request id stage).flag id false) := by
  cases inv
  constructor <;> simp only [SpineUi.move, SpineUi.flag, update_apply]
  all_goals grind -linarith

omit [DecidableEq Id] in
theorem pending_some
    (pending : ui.pending id = some (run, job)) : ui.jobs id = some run ∧ ui.runs run = some job := by
  obtain ⟨found, listed, rest⟩ := Option.bind_eq_some_iff.mp pending
  obtain ⟨held, there, same⟩ := Option.bind_eq_some_iff.mp rest
  obtain ⟨rfl, rfl⟩ := Prod.mk.inj (some.inj same)
  exact ⟨listed, there⟩

omit [DecidableEq Id] in
theorem settle_stage (ui : SpineUi Id Typed Result) (id : Id) (body : ParsedBody) (task : Option LabTask) :
    ui.settle id body task ≠ .reconciling ∧ ui.settle id body task ≠ .settling ∧
      ∀ run value, ui.settle id body task = .delivering run value →
        ∃ job, ui.pending id = some (run, job) ∧ job.phase = .awaitingSignature := by
  unfold SpineUi.settle SpineUi.inProgress SpineUi.refuse
  cases pending : ui.pending id with
  | none => grind -linarith
  | some found =>
    obtain ⟨run, job⟩ := found
    grind -linarith

variable {after : SpineUi Id Typed Result}

theorem Registered.handle {body : Plain}
    {task : Option LabTask} (inv : Registered ui) (taken : ui.handle request id body task = some after) :
    Registered after := by
  unfold SpineUi.handle at taken
  split at taken
  · cases taken
  next unknown =>
    have absent : ui.requests request = none := by simpa using unknown
    have unseen := inv.unseen absent
    have idle (other : Id) : ui.requests request ≠ some (other, .reconciling) := by
      rw [absent]
      nofun
    split at taken
    · obtain rfl := some.inj taken
      exact inv.move idle nofun nofun nofun nofun
    next parsed _ =>
      obtain ⟨quiet, calm, delivers⟩ := settle_stage ui id parsed task
      have moved : Registered (ui.move request id (ui.settle id parsed task)) := by
        refine inv.move idle quiet calm (fun _ _ => unseen) ?_
        intro run value delivering
        obtain ⟨job, pending, waiting⟩ := delivers run value delivering
        obtain ⟨listed, there⟩ := pending_some pending
        obtain ⟨held, same, mine, _⟩ := inv.jobs_open listed
        obtain rfl := some.inj (there.symm.trans same)
        exact ⟨job, there, mine, inv.awaiting_asked there waiting⟩
      dsimp only at taken
      split at taken
      next run job pending =>
        obtain ⟨listed, there⟩ := pending_some pending
        split at taken
        · obtain rfl := some.inj taken
          exact moved.shows there listed
        · obtain rfl := some.inj taken
          exact moved
      · obtain rfl := some.inj taken
        exact moved

variable {session : Opened}

omit [DecidableEq Id] in
theorem resume_ends {hosted : Hosted} (ends : SpineUi.resume body session hosted = .ends stage) :
    (∃ response, stage = .answered response) ∨ stage = .rejected := by
  unfold SpineUi.resume at ends
  cases session with
  | rejected => exact .inr (SpineUi.Resumption.ends.inj ends).symm
  | absent => exact .inl ⟨_, (SpineUi.Resumption.ends.inj ends).symm⟩
  | found =>
    cases mode : body.mode with
    | reconcile =>
      simp only [mode] at ends
      split at ends
      · cases ends
      · exact .inl ⟨_, (SpineUi.Resumption.ends.inj ends).symm⟩
    | settle mode' =>
      simp only [mode] at ends
      split at ends
      · exact .inl ⟨_, (SpineUi.Resumption.ends.inj ends).symm⟩
      · split at ends
        · exact .inr (SpineUi.Resumption.ends.inj ends).symm
        · split at ends
          · cases ends
          · exact .inl ⟨_, (SpineUi.Resumption.ends.inj ends).symm⟩

theorem Registered.opened {ui after : SpineUi Id Typed Result} {request : Nat} {session : Opened} {hosted : Hosted}
    (inv : Registered ui) (sheltered : Sheltered ui (.opened request session hosted : UiLabel Id Typed Result))
    (taken : ui.opened request session hosted = some after) : Registered after := by
  unfold SpineUi.opened at taken
  split at taken
  next id body here =>
    have free := sheltered id body here
    split at taken
    next stage ends =>
      obtain rfl := some.inj taken
      have settled := resume_ends ends
      refine inv.move ?_ ?_ ?_ ?_ ?_ <;> grind -linarith
    next goes =>
      obtain rfl := some.inj taken
      rw [goes] at free
      obtain ⟨unlisted, unflagged⟩ := free rfl
      exact inv.reconciles here unlisted unflagged
    next mode goes =>
      obtain rfl := some.inj taken
      rw [goes] at free
      obtain ⟨unlisted, unflagged⟩ := free rfl
      exact inv.starts here unlisted unflagged rfl rfl rfl rfl rfl
  · cases taken

omit [DecidableEq Id] in
theorem Registered.runs_on (inv : Registered ui)
    (taken : (∃ typed, ui.resolveGateExecution run typed = some after) ∨ ui.timeout run = some after ∨
      ∃ result, ui.done run result = some after) : Registered after := by
  rcases taken with ⟨typed, taken⟩ | taken | ⟨result, taken⟩
  · unfold SpineUi.resolveGateExecution at taken
    split at taken
    next job held =>
      split at taken
      next going =>
        obtain rfl := some.inj taken
        exact inv.record held rfl rfl rfl (fun same => same) (fun _ => rfl) (fun _ => rfl)
          (fun _ _ => Option.isNone_iff_eq_none.mp going.1)
      · cases taken
    · cases taken
  · unfold SpineUi.timeout at taken
    split at taken
    next job held =>
      split at taken
      · have asked : job.phase = .awaitingSignature → job.request.isSome := inv.awaiting_asked held
        obtain rfl := some.inj taken
        exact inv.record held rfl rfl rfl (fun same => same) (fun same => same) asked nofun
      · cases taken
    · cases taken
  · unfold SpineUi.done at taken
    split at taken
    next job held =>
      split at taken
      next answered =>
        have asked : job.phase = .awaitingSignature → job.request.isSome := inv.awaiting_asked held
        obtain rfl := some.inj taken
        refine inv.record held rfl rfl rfl nofun (fun same => same) asked ?_
        intro wanted silent
        have told := answered.2 wanted
        rw [silent] at told
        cases told
      · cases taken
    · cases taken

theorem Registered.cleanup (inv : Registered ui)
    (taken : ui.cleanup run false = some after) : Registered after := by
  unfold SpineUi.cleanup at taken
  split at taken
  next job held =>
    split at taken
    next result returned opened =>
      have listed := inv.open_registered held opened
      rw [if_pos ⟨rfl, listed⟩] at taken
      obtain rfl := some.inj taken
      exact inv.closes held returned opened
    · cases taken
  · cases taken

omit [DecidableEq Id] in
theorem finish_answers (id : Id) (result : Except Unit Result) :
    ∃ response, (SpineUi.finish id result : Stage Id Typed Result) = .answered response := by
  cases result <;> exact ⟨_, rfl⟩

omit [DecidableEq Id] in
theorem Registered.answers
    (inv : Registered ui) (here : ∀ other, ui.requests request ≠ some (other, .reconciling))
    (answered : ∃ response, stage = .answered response) : Registered (ui.move request id stage) := by
  obtain ⟨response, rfl⟩ := answered
  exact inv.move here nofun nofun nofun nofun

theorem Registered.raced (inv : Registered ui)
    (sheltered : Sheltered ui (.raced request : UiLabel Id Typed Result)) (taken : ui.raced request = some after) :
    Registered after := by
  unfold SpineUi.raced at taken
  split at taken
  next id job here held =>
    have elsewhere (other : Id) : ui.requests request ≠ some (other, .reconciling) := by
      rw [here]
      nofun
    split at taken
    next typed asked =>
      obtain rfl := some.inj taken
      have listed := sheltered id job here held (by rw [asked]; rfl)
      exact (inv.answers elsewhere ⟨_, rfl⟩).shows held listed
    next result _ _ =>
      obtain rfl := some.inj taken
      exact inv.answers elsewhere (finish_answers id result)
    · cases taken
  · cases taken

theorem Registered.reconciled {reports : Option Nat}
    (inv : Registered ui) (taken : ui.reconciled request reports = some after) : Registered after := by
  unfold SpineUi.reconciled at taken
  split at taken
  next id here =>
    obtain rfl := some.inj taken
    refine inv.unflags (fun other there => inv.reconciles_once there here) ?_ ?_
    · intro other there
      rw [here] at there
      exact (Prod.mk.inj (some.inj there)).1.symm
    · cases reports with
      | some attempts => exact .inl ⟨attempts, rfl⟩
      | none => exact .inr ⟨_, rfl⟩
  · cases taken

theorem Registered.durable (inv : Registered ui)
    (sheltered : Sheltered ui (.durable request : UiLabel Id Typed Result)) (taken : ui.durable request = some after) :
    Registered after := by
  unfold SpineUi.durable at taken
  split at taken
  next id attempts here =>
    obtain rfl := some.inj taken
    refine inv.unflags (fun other there => absurd there (sheltered id attempts here other)) ?_ (.inr ⟨_, rfl⟩)
    intro other there
    rw [here] at there
    cases there
  · cases taken

omit [DecidableEq Id] in
theorem Registered.delivered
    (inv : Registered ui) (taken : ui.delivered request session = some after) : Registered after := by
  unfold SpineUi.delivered at taken
  split at taken
  next id run value here =>
    have elsewhere (other : Id) : ui.requests request ≠ some (other, .reconciling) := by
      rw [here]
      nofun
    split at taken
    · obtain rfl := some.inj taken
      exact inv.move elsewhere nofun nofun nofun nofun
    · obtain rfl := some.inj taken
      exact inv.answers elsewhere ⟨_, rfl⟩
    · split at taken
      next job held =>
        obtain rfl := some.inj taken
        have moved : Registered (ui.move request id (.awaiting run)) := inv.move elsewhere nofun nofun nofun nofun
        have asked : job.phase = .awaitingSignature → job.request.isSome := inv.awaiting_asked held
        exact moved.record held rfl rfl rfl (fun same => same) (fun same => same) asked nofun
      · cases taken
  · cases taken

omit [DecidableEq Id] in
theorem Registered.finished (inv : Registered ui)
    (taken : ui.finished request = some after) : Registered after := by
  unfold SpineUi.finished at taken
  split at taken
  next id run here =>
    split at taken
    next job _ =>
      split at taken
      next result _ =>
        obtain rfl := some.inj taken
        refine inv.answers ?_ (finish_answers id result)
        intro other there
        rw [here] at there
        cases there
      · cases taken
    · cases taken
  · cases taken

theorem Registered.step {before after : SpineUi Id Typed Result} {label : UiLabel Id Typed Result}
    (inv : Registered before) (sheltered : Sheltered before label) (taken : before.Steps label after) :
    Registered after := by
  cases label with
  | handle request id body task => exact inv.handle taken
  | opened request session hosted => exact inv.opened sheltered taken
  | resolveGateExecution run request => exact inv.runs_on (.inl ⟨request, taken⟩)
  | timeout run => exact inv.runs_on (.inr (.inl taken))
  | done run result => exact inv.runs_on (.inr (.inr ⟨result, taken⟩))
  | cleanup run threw =>
    obtain rfl : threw = false := sheltered
    exact inv.cleanup taken
  | raced request => exact inv.raced sheltered taken
  | reconciled request reports => exact inv.reconciled taken
  | durable request => exact inv.durable sheltered taken
  | delivered request session => exact inv.delivered taken
  | finished request => exact inv.finished taken

omit [DecidableEq Id] in
theorem Registered.single (inv : Registered ui) {first second : HostCall}
    (one : ui.InProgress id first) (two : ui.InProgress id second) : first = second := by
  have listed {run : Nat} (going : ui.InProgress id (.settle run)) : ui.jobs id = some run := by
    obtain ⟨job, held, rfl, running⟩ := going
    exact inv.open_registered held (inv.running_open held running)
  have unlisted {request : Nat} (going : ui.InProgress id (.reconcile request)) : ui.jobs id = none :=
    inv.exclusive (inv.request_flag going)
  cases first with
  | settle first => cases second with
    | settle second => rw [some.inj ((listed one).symm.trans (listed two))]
    | reconcile second => cases (listed one).symm.trans (unlisted two)
  | reconcile first => cases second with
    | settle second => cases (unlisted one).symm.trans (listed two)
    | reconcile second => rw [inv.reconciles_once one two]

omit [DecidableEq Id] in
theorem Registered.directed {before : SpineUi Id Typed Result} {label : UiLabel Id Typed Result} (inv : Registered before) (sheltered : Sheltered before label)
    (reaches : Reaches before label id run) : before.shown id = some run := by
  obtain ⟨request, value, job, rfl, here, held, silent⟩ := reaches
  have returned : job.returned = true := sheltered id run value job here held
  obtain ⟨known, same, mine, wanted⟩ := inv.delivering here
  obtain rfl := some.inj (held.symm.trans same)
  have running := inv.unanswered_running held wanted silent
  rw [← mine]
  exact inv.returned_shown held (inv.running_open held running) returned

omit [DecidableEq Id] in
theorem Registered.cleared (inv : Registered ui) (ended : ui.Ended id) :
    ui.jobs id = none ∧ ui.reconciling id = false := by
  obtain ⟨answered, closed⟩ := ended
  constructor
  · cases listed : ui.jobs id with
    | none => rfl
    | some run =>
      obtain ⟨job, held, mine, opened⟩ := inv.jobs_open listed
      exact absurd opened (closed run job held mine)
  · by_contra flagged
    obtain ⟨request, here⟩ := inv.flag_request (Bool.not_eq_false _ ▸ flagged)
    obtain ⟨response, wrong | wrong⟩ := answered request _ here
    · cases wrong
    · cases wrong

theorem sheltered_orderly {log : List (SpineUi Id Typed Result × UiLabel Id Typed Result)}
    {ui : SpineUi Id Typed Result} (trace : Trace SpineUi.Steps SpineUi.new log ui)
    (sheltered : ∀ entry ∈ log, Sheltered entry.1 entry.2) : Orderly log ui := by
  have registered : Registered ui ∧ ∀ before label, (before, label) ∈ log → Registered before := by
    revert sheltered
    refine trace.history (fun log ui => (∀ entry ∈ log, Sheltered entry.1 entry.2) →
      Registered ui ∧ ∀ before label, (before, label) ∈ log → Registered before) ?_ ?_
    · intro _
      exact ⟨Registered.new, by simp⟩
    · intro log before label after _ ih taken sheltered
      obtain ⟨inv, earlier⟩ := ih fun entry listed => sheltered entry (mem_append_left _ listed)
      refine ⟨inv.step (sheltered (before, label) (by simp)) taken, ?_⟩
      intro was last listed
      rcases mem_append.mp listed with listed | listed
      · exact earlier was last listed
      · obtain ⟨rfl, rfl⟩ := Prod.mk.inj (mem_singleton.mp listed)
        exact inv
  obtain ⟨inv, earlier⟩ := registered
  refine ⟨?_, ?_, ?_⟩
  · intro id first second one two
    exact inv.single one two
  · intro before label id run listed reaches
    exact (earlier before label listed).directed (sheltered (before, label) listed) reaches
  · intro id ended
    exact inv.cleared ended

end Calls

def dryRunBody : Plain := .object [("mode", .text "DRY_RUN")]

def cancelBody : Plain := .object [("mode", .text "DRY_RUN"), ("cancel", .boolean true)]

def hosted : Hosted := ⟨true, true, true⟩

def cancelledRun : List (UiLabel Nat Nat Nat) :=
  [.handle 0 7 dryRunBody none, .opened 0 .found hosted, .resolveGateExecution 0 1, .raced 0,
    .handle 1 7 cancelBody none, .delivered 1 .found, .done 0 (.ok 2), .cleanup 0 false, .finished 1]

theorem sheltered_orderly_cancelled : ∃ log ui,
    Trace SpineUi.Steps (SpineUi.new : SpineUi Nat Nat Nat) log ui ∧ log.length = 9 ∧ Orderly log ui := by
  have trace := replay_trace (show replay SpineUi.step SpineUi.new cancelledRun = some (_, _) from rfl)
  refine ⟨_, _, trace, rfl, sheltered_orderly trace ?_⟩
  intro entry listed
  simp only [mem_cons, not_mem_nil, or_false] at listed
  rcases listed with rfl | rfl | rfl | rfl | rfl | rfl | rfl | rfl | rfl
  · trivial
  · intro id body here _
    exact ⟨rfl, rfl⟩
  · trivial
  · intro id job here held asked
    obtain rfl := (Prod.mk.inj (some.inj here)).1
    rfl
  · trivial
  · intro id run value job here held
    obtain ⟨rfl, _⟩ := Stage.delivering.inj (Prod.mk.inj (some.inj here)).2
    obtain rfl := some.inj held
    rfl
  · trivial
  · rfl
  · trivial

def twoDryRuns : List (UiLabel Nat Nat Nat) :=
  [.handle 0 7 dryRunBody none, .handle 1 7 dryRunBody none, .opened 0 .found hosted, .opened 1 .found hosted]

/-- Both requests were let in before either settle call was registered. -/
theorem two_settlements_at_once : ∃ log ui, Trace SpineUi.Steps (SpineUi.new : SpineUi Nat Nat Nat) log ui ∧
    ¬Orderly log ui := by
  have trace := replay_trace (show replay SpineUi.step SpineUi.new twoDryRuns = some (_, _) from rfl)
  refine ⟨_, _, trace, ?_⟩
  intro orderly
  cases orderly.single 7 (.settle 0) (.settle 1) ⟨_, rfl, rfl, rfl⟩ ⟨_, rfl, rfl, rfl⟩

end Mandate.Settlement
