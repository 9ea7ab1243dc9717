import Mandate.Control.Guards
import Mandate.Ledger.Batches
import Mandate.Evm.Issuance
import Mandate.Perp.Issuance

/-! What custody signs. The ledger's indexes leave a reservation one attempt and a slot one artifact;
custody signs what it re-derives from that attempt, all but the name and version of the domain, which
it takes from the artifact as they are. -/
set_option linter.dupNamespace false
namespace Mandate.Evm
open Core Ledger Control Lib.Wire Lib.Text Lib.Calls List Lib.Machine
open Option (some.inj bind_eq_some_iff map_eq_some_iff)
open Kernel (Secp256k1)

section Checks
variable [Keccak] {view : CustodyView} {binding : CustodyBinding} {principal : String} {artifact : GateArtifact}
  {terms : ArtifactTerms} {claim : GateClaim}

structure Verified (ledger : LedgerState) (principal : String) (artifact : GateArtifact) (terms : ArtifactTerms)
    (claim : GateClaim) (a : AttemptAdmission) : Prop where
  reservation : a.reservation = claim.reservation
  generation : a.generation = claim.generation
  action : a.action = claim.action
  derived : ∃ expected, DerivedFrom (attemptSource a artifact) terms artifact expected
  committed : a.artifact = ⟨ARTIFACT_KIND, Digest32.bytes artifact.commitment⟩
  slot : a.slot.map (fun slot => (slot.scope.1, slot.sequence)) =
    some (slotScope terms.gate.chainId terms.gate.gate principal, (artifact.mandate.nonce.toNat : Int))
  deadline : artifact.terms.deadline < a.validUntil
  active : (ledger.reservations.lookup a.reservation).map (·.status) = some .active

variable {a : AttemptAdmission}

omit [Keccak] in
theorem checkIssuable_passed
    (checked : checkIssuable view binding principal a artifact terms claim = some none) :
    a.slot.map (fun slot => (slot.scope.1, slot.sequence)) =
      some (slotScope terms.gate.chainId terms.gate.gate principal, (artifact.mandate.nonce.toNat : Int)) ∧
    artifact.terms.deadline < a.validUntil ∧
    (view.ledger.reservations.lookup a.reservation).map (·.status) = some .active := by
  unfold checkIssuable at checked
  simp only [ite_because, not_or, not_not] at checked
  obtain ⟨slot, ⟨_, deadline⟩, active, _⟩ := checked
  exact ⟨slot, Int.not_le.mp deadline, active⟩

theorem verifyAttempt_passed
    (checked : verifyAttempt view binding principal a artifact terms claim = some none) :
    Verified view.ledger principal artifact terms claim a := by
  unfold verifyAttempt at checked
  simp only [ite_because, not_or, not_not] at checked
  obtain ⟨_, _, ⟨reservation, generation, action⟩, checked⟩ := checked
  obtain ⟨account, _, checked⟩ := bind_eq_some_iff.mp checked
  simp only [ite_because, not_or, not_not] at checked
  obtain ⟨_, _, checked⟩ := checked
  obtain ⟨bad, exact_, checked⟩ := bind_eq_some_iff.mp checked
  simp only [ite_because, not_or, not_not, Bool.not_eq_true, Option.isSome_eq_false_iff, Option.isNone_iff_eq_none] at checked
  obtain ⟨rfl, ⟨kind, hex⟩, checked⟩ := checked
  obtain ⟨slot, deadline, active⟩ := checkIssuable_passed checked
  have bytes : a.artifact.id = Digest32.bytes artifact.commitment := by
    have same := congrArg hexToBytes hex
    rw [Digest32.toHex, hexToBytes_bytesToHex, hexToBytes_bytesToHex] at same
    exact some.inj same
  refine ⟨reservation, generation, action, checkGateArtifact_passed exact_, ?_, slot, deadline, active⟩
  rw [← kind, ← bytes]

theorem verifyAdmitted_passed (checked : verifyAdmitted view binding principal artifact terms claim = some none) :
    ∃ record, view.ledger.attempts.lookup claim.attempt = some record ∧
      Verified view.ledger principal artifact terms claim record.admission := by
  unfold verifyAdmitted at checked
  split at checked
  · cases checked
  next record known => exact ⟨record, known, verifyAttempt_passed checked⟩

theorem verifyAttempt_passes (module : a.module = binding.module)
    (adapter : a.adapter = binding.adapter) (claimed : claim = ⟨a.attempt, a.reservation, a.generation, a.action⟩)
    (account : accountResource terms.gate.chainId principal = some a.venueAccount) (mine : terms.principal = principal)
    (names : artifact.mandate.principal = principal)
    (checked : checkGateArtifact artifact (attemptSource a artifact) terms = some none)
    (bound : a.artifact = ⟨ARTIFACT_KIND, Digest32.bytes artifact.commitment⟩)
    (issuable : checkIssuable view binding principal a artifact terms claim = some none) :
    verifyAttempt view binding principal a artifact terms claim = some none := by
  unfold verifyAttempt
  rw [module, adapter, bound, claimed] at *
  simp [account, mine, names, checked, issuable, Digest32.toHex]

theorem signMandate_ok [Secp256k1] {custody : Custody} {signature : String}
    (signed : custody.signMandate view artifact terms claim = some (.ok signature)) :
    (∃ record, view.ledger.attempts.lookup claim.attempt = some record ∧
      Verified view.ledger custody.principal artifact terms claim record.admission) ∧
    ∃ hash, principalSigningHash artifact = some hash ∧ signature = custody.sign hash := by
  unfold Custody.signMandate at signed
  obtain ⟨refusal, checked, signed⟩ := bind_eq_some_iff.mp signed
  cases refusal with
  | some reason => simp at signed
  | none =>
    rw [if_neg (by simp)] at signed
    obtain ⟨hash, hashed, signed⟩ := bind_eq_some_iff.mp signed
    split at signed
    · cases some.inj signed
    · exact ⟨verifyAdmitted_passed checked, hash, hashed, (Except.ok.inj (some.inj signed)).symm⟩

end Checks

section Discipline
variable [Keccak] [Secp256k1]

/-- An attempt of an authorization: its own reservation, and over before it is. -/
structure AdmittedUnder (record : AuthorizationRecord) (a : AttemptAdmission) : Prop where
  reservation : a.reservation = record.reservation
  generation : a.generation = record.generation
  action : a.action = record.actionId
  authorization : a.authorization = record.executionId
  within : a.validUntil ≤ record.validUntil

/-- What a use may append: its authorization's attempt, or no admission at all. -/
def Appends (use : GateUse) (principal : PrincipalId) (events : List LedgerEvent) : Prop :=
  (∀ time a, .admitAttempt time a ∉ events) ∨ ∃ record time a, use.authorization = some record ∧
    record.principal = principal ∧ events = [.admitAttempt time a] ∧ AdmittedUnder record a

def Permits (use : GateUse) (_ : List SignerAnswer) : SignerCall → Prop
  | .append principal _ events => Appends use principal events
  | _ => True

def Answered : SignerAnswer → Prop
  | ⟨.readCommitted principal, snapshot⟩ => snapshot.principal = principal
  | _ => True

abbrev Keeps {α : Type} (use : GateUse) (program : SignerProgram α) : Prop :=
  ∀ had, Obeys Answered (Permits use) (fun _ _ => True) program had

variable {use : GateUse} {record : AuthorizationRecord}

omit [Keccak] [Secp256k1] in
theorem Keeps.bind {α β : Type} {program : SignerProgram α} {rest : α → SignerProgram β} (first : Keeps use program)
    (onward : ∀ result, Keeps use (rest result)) : Keeps use (program.bind rest) := fun had =>
  Obeys.bind ((first had).weaken fun later result _ => onward result later)

omit [Keccak] [Secp256k1] in
theorem Keeps.done {α : Type} (result : α) : Keeps use (.done result) := fun _ => trivial

omit [Keccak] [Secp256k1] in
theorem Keeps.failed {α : Type} : Keeps use (.failed : SignerProgram α) := fun _ => trivial

omit [Keccak] [Secp256k1] in
theorem Keeps.call {α : Type} {request : SignerCall} {next : SignerReply request → SignerProgram α}
    (harmless : ∀ had, Permits use had request) (onward : ∀ reply, Keeps use (next reply)) :
    Keeps use (.call request next) := fun had => ⟨harmless had, fun reply _ => onward reply _⟩

omit [Keccak] [Secp256k1] in
theorem Keeps.orThrow {α β : Type} {value : Option α} {next : α → SignerProgram β} (onward : ∀ value, Keeps use (next value)) :
    Keeps use (orThrow value next) := by
  cases value with
  | none => exact .failed
  | some value => exact onward value

omit [Keccak] [Secp256k1] in
theorem Keeps.orRefused {α : Type} {result : Step α} {next : α → SignerProgram IssueOutcome}
    (onward : ∀ value, Keeps use (next value)) : Keeps use (orRefused result next) := by
  cases result with
  | error stopped => exact .done _
  | ok value => exact onward value

omit [Secp256k1] in
theorem admitFrom_keeps {e : ControlEngine} {adapters : AdapterRegistry} {request : AttemptRequest}
    (authorized : use.authorization = some record) (left attempt : Nat) :
    Keeps use (ofLedger (admitFrom e adapters record request left attempt)) := by
  induction left generalizing attempt with
  | zero => exact .done _
  | succ left ih =>
    intro had
    refine Obeys.call trivial fun snapshot shown => ?_
    dsimp only
    cases (attemptsOf snapshot.state record.reservation).getLast? with
    | some id => exact Obeys.done trivial
    | none =>
      dsimp only
      cases planned : planAdmission e adapters snapshot record request with
      | error fault =>
        obtain ⟨fault, revalidation⟩ := fault
        cases fault <;> trivial
      | ok plan =>
        obtain ⟨⟨requirements, revalidation, is⟩, within⟩ := planAdmission_ok planned
        refine Obeys.call (.inr ⟨record, plan.time, plan.admission, authorized, shown.symm, rfl, ?_⟩) fun reply _ => ?_
        · rw [is]
          exact ⟨rfl, rfl, rfl, rfl, within⟩
        · cases reply with
          | committed committed => exact Obeys.done trivial
          | refused r => exact Obeys.done trivial
          | conflict _ _ _ => exact ih _ _

omit [Secp256k1] in
theorem admitAttempt_keeps {e : ControlEngine} {request : AttemptRequest} {retry : RetryPolicy}
    (authorized : use.authorization = some record) : Keeps use (ofLedger (admitAttempt e record request retry)) := by
  unfold admitAttempt
  cases attemptsAllowed retry with
  | none => exact .done _
  | some max =>
    cases e.adapters with
    | none => exact .done _
    | some adapters => exact admitFrom_keeps authorized max 1

omit [Keccak] [Secp256k1] in
theorem openRecord_keeps {principal : PrincipalId} {a : AttemptId} {state : OpeningState} {artifact : Option Bytes}
    {detail : String} : Keeps use (openRecord principal a state artifact detail) := by
  refine .call (fun _ => trivial) fun opened => ?_
  cases opened with
  | error reason => exact .done _
  | ok _ => exact .call (fun _ => trivial) fun record => .done _

omit [Keccak] [Secp256k1] in
theorem moveRecord_keeps {a : AttemptId} {target : IssuanceState} {detail : String} {venueRef : Option String} :
    Keeps use (moveRecord a target detail venueRef) := by
  refine .call (fun _ => trivial) fun moved => ?_
  cases moved with
  | error reason => exact .done _
  | ok _ => exact .call (fun _ => trivial) fun record => .done _

omit [Keccak] [Secp256k1] in
theorem settleReceipt_keeps {id : AttemptId} {a : GateArtifact} {txHash : String} :
    Keeps use (settleReceipt id a txHash) := by
  refine .call (fun _ => trivial) fun r => ?_
  cases r with
  | error _ | ok _ => exact moveRecord_keeps.bind fun _ => .done _

variable {d : GateSignerDeps}

omit [Keccak] [Secp256k1] in
theorem submit_keeps {id : AttemptId} {call : GateAttempt} : Keeps use (submit d id call) := by
  refine openRecord_keeps.bind fun opened => ?_
  cases opened with
  | error reason => exact .done _
  | ok _ =>
    refine .call (fun _ => trivial) fun pre => ?_
    cases pre with
    | error revert => exact moveRecord_keeps.bind fun _ => .done _
    | ok _ =>
      refine moveRecord_keeps.bind fun _ => .call (fun _ => trivial) fun sent => ?_
      cases sent with
      | unknown error => exact moveRecord_keeps.bind fun _ => .done _
      | sent txHash => exact settleReceipt_keeps

theorem issueAdmitted_keeps {artifact : GateArtifact} {terms : ArtifactTerms}
    {attempt : AttemptAdmission} : Keeps use (issueAdmitted d artifact terms attempt) := by
  refine Keeps.bind (.call (fun _ => trivial) fun signed => ?_) fun signed => ?_
  · cases signed with
    | error error => exact .done _
    | ok principal =>
      refine .orThrow fun hash => ?_
      split
      · exact .done _
      · refine .orThrow fun execution => ?_
        cases execution with
        | error error => exact .done _
        | ok agent =>
          refine .orThrow fun hash => ?_
          split <;> exact .done _
  · cases signed with
    | error stopped => exact openRecord_keeps.bind fun _ => .done _
    | ok signatures => exact submit_keeps

theorem issueFresh_keeps {intent : Intent} {request : IssueRequest} {evidence : Evidence}
    (authorized : use.authorization = some intent.record) : Keeps use (issueFresh d intent request evidence) := by
  refine .orRefused fun terms => .orThrow fun artifact => .orRefused fun artifact => Keeps.bind ?_ fun slot =>
    .orRefused fun slot => (admitAttempt_keeps authorized).bind fun outcome => ?_
  · refine .call (fun _ => trivial) fun consumed => ?_
    cases consumed with
    | error error => exact .done _
    | ok consumed => exact .orThrow fun result => .done _
  · cases outcome with
    | existing attempt attempts =>
      cases attempt with
      | none => exact .failed
      | some attempt => exact .call (fun _ => trivial) fun record => .done _
    | admitted attempt revalidation preExecution snapshot attempts =>
      cases attempt with
      | none => exact .failed
      | some attempt => exact issueAdmitted_keeps
    | _ => exact .done _

omit [Secp256k1] in
theorem resolveIntent_record {c : GateSignerConfig} {payload : Bytes} {intent : Intent}
    (resolved : resolveIntent c record payload = .ok intent) : intent.record = record := by
  unfold resolveIntent stop at resolved
  repeat' split at resolved
  all_goals cases resolved
  rfl

theorem issue_keeps {request : IssueRequest} (authorized : use.authorization = some record) :
    Keeps use (issue d record request) := by
  unfold issue
  cases resolved : resolveIntent d.config record request.payload with
  | error stopped => exact .done _
  | ok intent =>
    have same := resolveIntent_record resolved
    refine .call (fun _ => trivial) fun committed => ?_
    cases (attemptsOf committed.state record.reservation).getLast? with
    | some id => exact .call (fun _ => trivial) fun record => .done _
    | none =>
      refine Keeps.bind ?_ fun evidence => .orRefused fun evidence => issueFresh_keeps (by rw [same]; exact authorized)
      refine .call (fun _ => trivial) fun now => .call (fun _ => trivial) fun identity => .call (fun _ => trivial)
        fun funding => ?_
      cases now with
      | error error => exact .done _
      | ok now =>
        cases identity with
        | error error => exact .done _
        | ok identity =>
          cases funding with
          | error error => exact .done _
          | ok funding => exact .orThrow fun credential => .call (fun _ => trivial) fun committed => .done _

theorem program_keeps (use : GateUse) : Keeps use use.program := by
  cases use with
  | issuing deps record request => exact (issue_keeps rfl).bind fun _ => .done _
  | signing custody artifact terms claim => exact .call (fun _ => trivial) fun _ => .done _
  | admission engine record request retry => exact (admitAttempt_keeps rfl).bind fun _ => .done _
  | committing principal expected events quiet => exact .call (fun _ => .inl quiet) fun _ => .done _

end Discipline

section Runs
variable [Keccak] [Secp256k1] {ι : Type} [DecidableEq ι] {rules : ReducerRules} {uses : ι → GateUse}

abbrev SignerSystem (ι : Type) := System SignerStore SignerCall SignerReply Unit ι
abbrev SignerEvent (ι : Type) := Event SignerCall SignerReply ι
abbrev SignerHistory (ι : Type) := History SignerStore SignerCall SignerReply Unit ι

/-- Nothing is committed yet: what a run finds in its ledgers it put there. -/
def atStart (uses : ι → GateUse) : SignerSystem ι := ⟨⟨emptyLog, .empty⟩, fun i => (uses i).program⟩

structure SignCall where
  store : SignerStore
  custody : Custody
  artifact : GateArtifact
  terms : ArtifactTerms
  claim : GateClaim
  reply : CustodyResult

def signCallOf : SignerSystem ι × Option (SignerEvent ι) → Option SignCall
  | (before, some ⟨_, ⟨.signMandate custody artifact terms claim, reply⟩, _⟩) =>
    some ⟨before.store, custody, artifact, terms, claim, reply⟩
  | _ => none

def signCalls (log : SignerHistory ι) : List SignCall := log.filterMap signCallOf

def SignCall.state (s : SignCall) : LedgerState := (s.store.ledger s.custody.ledger).state

def SignCall.scope (s : SignCall) : String := slotScope s.terms.gate.chainId s.terms.gate.gate s.custody.principal

structure Signed (log : SignerHistory ι) (s : SignCall) (signature : String) : Prop where
  listed : s ∈ signCalls log
  returned : s.reply = .ok signature

def Honest (rules : ReducerRules) (ledger : PrincipalId → PrincipalLog) : Prop :=
  ∀ principal, LogSound rules principal (ledger principal)

def Authorized (uses : ι → GateUse) (ledger : PrincipalId → PrincipalLog) : Prop :=
  ∀ principal id r, (ledger principal).state.attempts.lookup id = some r →
    ∃ i record, (uses i).authorization = some record ∧ record.principal = principal ∧ AdmittedUnder record r.admission

def AttemptsKept (before after : PrincipalId → PrincipalLog) : Prop :=
  ∀ principal id r, (before principal).state.attempts.lookup id = some r →
    (after principal).state.attempts.lookup id = some r

variable {log : SignerHistory ι} {finish : SignerSystem ι} {store after : SignerStore}

omit [DecidableEq ι] in
theorem append_served {principal : PrincipalId} {expected : Stamp} {events : List LedgerEvent} {result : CommitResult}
    (answered : answers rules (.append principal expected events) store result after) :
    after.ledger = store.ledger ∨ ∃ applied, applyBatch (store.ledger principal).state events rules = .ok applied ∧
      after.ledger = Function.update store.ledger principal ⟨applied.state, (store.ledger principal).batches ++
        [committedBatch (store.ledger principal).state events applied]⟩ := by
  obtain ⟨fault, published, appended, rfl⟩ := answered
  cases published with
  | none => exact .inl rfl
  | some log =>
    obtain ⟨_, applied, accepted, _, rfl⟩ := compareAndAppend_published appended
    exact .inr ⟨applied, accepted, rfl⟩

variable {request : SignerCall}

omit [DecidableEq ι] in
theorem ledger_unmoved {reply : SignerReply request}
    (other : ∀ principal expected events, request ≠ .append principal expected events)
    (answered : answers rules request store reply after) : after.ledger = store.ledger := by
  cases request with
  | append principal expected events => exact absurd rfl (other _ _ _)
  | readCommitted principal => rw [answered.2]
  | get attempt => rw [answered.2]
  | signMandate custody artifact terms claim => rw [answered.1]
  | opening principal attempt state artifact detail => exact answered.2
  | transition attempt target detail venueRef => exact answered.2
  | _ =>
    obtain rfl : after = store := answered
    rfl

omit [DecidableEq ι] in
theorem ledger_served {use : GateUse} {had : List SignerAnswer} {reply : SignerReply request}
    {i : ι} (mine : uses i = use) (permitted : Permits use had request) (honest : Honest rules store.ledger)
    (authorized : Authorized uses store.ledger) (answered : answers rules request store reply after) :
    Honest rules after.ledger ∧ Authorized uses after.ledger ∧ AttemptsKept store.ledger after.ledger := by
  have unmoved (same : after.ledger = store.ledger) :
      Honest rules after.ledger ∧ Authorized uses after.ledger ∧ AttemptsKept store.ledger after.ledger := by
    rw [same]
    exact ⟨honest, authorized, fun _ _ _ known => known⟩
  by_cases appends : ∃ principal expected events, request = .append principal expected events
  · obtain ⟨principal, expected, events, rfl⟩ := appends
    rcases append_served answered with same | ⟨applied, accepted, moved⟩
    · exact unmoved same
    · obtain ⟨kept, new⟩ := applyBatch_attempts accepted
      rw [moved]
      refine ⟨?_, ?_, ?_⟩
      · refine (Function.forall_update_iff store.ledger fun other log => LogSound rules other log).mpr
          ⟨.batch (honest principal) accepted, fun other _ => honest other⟩
      · refine (Function.forall_update_iff store.ledger fun other log => ∀ id r, log.state.attempts.lookup id = some r →
          ∃ i record, (uses i).authorization = some record ∧ record.principal = other ∧
            AdmittedUnder record r.admission).mpr ⟨fun id r known => ?_, fun other _ => authorized other⟩
        rcases new id r known with old | here
        · exact authorized principal id r old
        · rcases permitted with quiet | ⟨record, time, a, whose, principal', rfl, under⟩
          · exact absurd here (quiet _ _)
          · obtain ⟨_, rfl⟩ := LedgerEvent.admitAttempt.inj (mem_singleton.mp here)
            exact ⟨i, record, by rw [mine]; exact whose, principal', under⟩
      · refine (Function.forall_update_iff store.ledger fun other log => ∀ id r,
          (store.ledger other).state.attempts.lookup id = some r → log.state.attempts.lookup id = some r).mpr
          ⟨kept, fun other _ id r known => known⟩
  · exact unmoved (ledger_unmoved (fun principal expected events same => appends ⟨principal, expected, events, same⟩)
      answered)

omit [DecidableEq ι] in
theorem answered_able {reply : SignerReply request}
    (answered : answers rules request store reply after) : Answered ⟨request, reply⟩ := by
  cases request with
  | readCommitted principal =>
    rw [Answered, answered.1]
    rfl
  | _ => trivial

theorem obeying (trace : Trace (Turn (answers rules)) (atStart uses) log finish) (i : ι) :
    Obeys Answered (Permits (uses i)) (fun _ _ => True) (finish.clients i) (transcript i log) :=
  (disciplined (fun _ => True) trace trivial (fun _ answered => ⟨trivial, answered_able answered⟩)
    fun i => program_keeps (uses i) []).2 i

/-- Custody signed, or refused, over a ledger of the run: honest, authorized and since only grown. -/
structure Witnessed (rules : ReducerRules) (uses : ι → GateUse) (now : PrincipalId → PrincipalLog) (s : SignCall) :
    Prop where
  honest : Honest rules s.store.ledger
  authorized : Authorized uses s.store.ledger
  kept : AttemptsKept s.store.ledger now
  answered : ∃ issued lifecycle time,
    s.custody.signMandate ⟨s.state, issued, lifecycle, time⟩ s.artifact s.terms s.claim = some s.reply

structure Standing (rules : ReducerRules) (uses : ι → GateUse) (log : SignerHistory ι) (sys : SignerSystem ι) :
    Prop where
  honest : Honest rules sys.store.ledger
  authorized : Authorized uses sys.store.ledger
  calls : ∀ s ∈ signCalls log, Witnessed rules uses sys.store.ledger s

omit [DecidableEq ι] in
theorem signCallOf_served {before : SignerSystem ι} {i : ι} {reply : SignerReply request}
    {lost : Bool} {s : SignCall} (is : signCallOf (before, some ⟨i, ⟨request, reply⟩, lost⟩) = some s)
    (answered : answers rules request before.store reply after) : s.store = before.store ∧
      ∃ issued lifecycle time, s.custody.signMandate ⟨s.state, issued, lifecycle, time⟩ s.artifact s.terms s.claim =
        some s.reply := by
  cases request with
  | signMandate custody artifact terms claim =>
    obtain rfl := some.inj is
    exact ⟨rfl, answered.2⟩
  | _ => cases is

theorem standing (trace : Trace (Turn (answers rules)) (atStart uses) log finish) :
    Standing rules uses log finish := by
  refine trace.history (Standing rules uses) ?_ fun {log before label after} earlier standing taken => ?_
  · refine ⟨fun _ => .genesis, fun _ _ _ known => ?_, fun _ none => absurd none not_mem_nil⟩
    simp [atStart, emptyLog, emptyLedgerState] at known
  · cases taken with
    | @crashed i request next turn =>
      refine ⟨standing.honest, standing.authorized, fun s listed => ?_⟩
      rw [signCalls, filterMap_append] at listed
      have old : s ∈ signCalls log ++ [] := listed
      rw [append_nil] at old
      exact standing.calls s old
    | @served i request reply next store lost turn answered =>
      have follows := obeying earlier i
      rw [turn] at follows
      obtain ⟨honest, authorized, kept⟩ := ledger_served rfl follows.1 standing.honest standing.authorized answered
      refine ⟨honest, authorized, fun s listed => ?_⟩
      rw [signCalls, filterMap_append, mem_append] at listed
      rcases listed with old | new
      · obtain ⟨honest', authorized', kept', answered'⟩ := standing.calls s old
        exact ⟨honest', authorized', fun principal id r known => kept principal id r (kept' principal id r known),
          answered'⟩
      · obtain ⟨entry, listed, is⟩ := mem_filterMap.mp new
        rw [mem_singleton.mp listed] at is
        obtain ⟨same, answered'⟩ := signCallOf_served is answered
        exact ⟨by rw [same]; exact standing.honest, by rw [same]; exact standing.authorized, by rw [same]; exact kept,
          answered'⟩

/-- No two messages that signed artifacts commit to are hashed alike. -/
def CommitmentsApart (log : SignerHistory ι) : Prop :=
  ∀ s s' signature signature' message message', Signed log s signature → Signed log s' signature' →
    commitmentMessage s.artifact.mandateDigest s.artifact.candidateDigest s.artifact.terms = some message →
    commitmentMessage s'.artifact.mandateDigest s'.artifact.candidateDigest s'.artifact.terms = some message' →
    keccakDigest message = keccakDigest message' → message = message'

/-- Custody is handed only artifacts of the gate's own domain, and a key's custodies read one ledger. -/
structure OfTheGate (log : SignerHistory ι) : Prop where
  domain : ∀ s ∈ signCalls log,
    s.artifact.domain = gateDomain s.artifact.domain.chainId s.artifact.domain.verifyingContract
  ledger : ∀ s ∈ signCalls log, ∀ s' ∈ signCalls log, s.custody.address = s'.custody.address →
    s.custody.ledger = s'.custody.ledger

/-- What was admitted of what a signature is given for, and under which authorization. -/
structure Admitted (uses : ι → GateUse) (s : SignCall) (a : AttemptAdmission) : Prop where
  attempt : a.attempt = s.claim.attempt
  reservation : a.reservation = s.claim.reservation
  generation : a.generation = s.claim.generation
  action : a.action = s.claim.action
  committed : ∃ time, ∃ batch ∈ (s.store.ledger s.custody.ledger).batches, .admitAttempt time a ∈ batch.events
  artifact : a.artifact = ⟨ARTIFACT_KIND, Digest32.bytes s.artifact.commitment⟩
  deadline : s.artifact.terms.deadline < a.validUntil
  authorization : ∃ i record, (uses i).authorization = some record ∧ record.principal = s.custody.ledger ∧
    AdmittedUnder record a ∧ s.artifact.terms.deadline < record.validUntil
  derived : ∃ built hash, buildGateArtifact (attemptSource a s.artifact) s.terms = some built ∧
    s.artifact.mandateDigest = built.mandateDigest ∧ principalSigningHash built = some hash ∧
    s.reply = .ok (s.custody.sign hash)

/-- One mandate for a reservation, one for a nonce, and each the admitted one of a live reservation. -/
structure OneMandate (uses : ι → GateUse) (log : SignerHistory ι) : Prop where
  single : ∀ s s' signature signature', Signed log s signature → Signed log s' signature' →
    s.custody.ledger = s'.custody.ledger → s.claim.reservation = s'.claim.reservation →
    s.artifact.mandateDigest = s'.artifact.mandateDigest
  numbered : ∀ s s' signature signature', Signed log s signature → Signed log s' signature' →
    s.scope = s'.scope → s.artifact.mandate.nonce = s'.artifact.mandate.nonce →
    s.artifact.mandateDigest = s'.artifact.mandateDigest
  admitted : ∀ s signature, Signed log s signature → ∃ a, Admitted uses s a
  live : ∀ s signature, Signed log s signature →
    (s.state.reservations.lookup s.claim.reservation).map (·.status) = some .active

variable {s s' : SignCall} {signature signature' : String}

omit [DecidableEq ι] in
theorem Witnessed.verified {now : PrincipalId → PrincipalLog} (witnessed : Witnessed rules uses now s)
    (returned : s.reply = .ok signature) : ∃ record, s.state.attempts.lookup s.claim.attempt = some record ∧
      Verified s.state s.custody.principal s.artifact s.terms s.claim record.admission ∧
      ∃ hash, principalSigningHash s.artifact = some hash ∧ s.reply = .ok (s.custody.sign hash) := by
  obtain ⟨issued, lifecycle, time, answered⟩ := witnessed.answered
  rw [returned] at answered
  obtain ⟨⟨record, known, verified⟩, hash, hashed, rfl⟩ := signMandate_ok answered
  exact ⟨record, known, verified, hash, hashed, returned⟩

theorem same_mandate (trace : Trace (Turn (answers rules)) (atStart uses) log finish) (apart : CommitmentsApart log)
    (here : Signed log s signature) (there : Signed log s' signature')
    (one : s.custody.ledger = s'.custody.ledger)
    (shared : ∀ a a', Verified s.state s.custody.principal s.artifact s.terms s.claim a →
      Verified s'.state s'.custody.principal s'.artifact s'.terms s'.claim a' → a.reservation = a'.reservation ∨
        ∃ slot, a.slot = some slot ∧ a'.slot = some slot) :
    s.artifact.mandateDigest = s'.artifact.mandateDigest := by
  have standing := standing trace
  have witnessed := standing.calls s here.listed
  have witnessed' := standing.calls s' there.listed
  obtain ⟨record, known, verified, _⟩ := witnessed.verified here.returned
  obtain ⟨record', known', verified', _⟩ := witnessed'.verified there.returned
  have found := witnessed.kept _ _ _ known
  have found' := witnessed'.kept _ _ _ known'
  rw [← one] at found'
  have indexed := (standing.honest s.custody.ledger).reachable.indexed
  -- both attempts are of the ledger the run ends with, and its indexes leave room for one
  have same : s.claim.attempt = s'.claim.attempt := by
    rcases shared _ _ verified verified' with reservation | ⟨slot, mine, theirs⟩
    · exact indexed.live found found' reservation (by cases record.status; rfl) (by cases record'.status; rfl)
    · exact indexed.slot.unique found found' mine theirs
  rw [same] at found
  obtain rfl := some.inj (found.symm.trans found')
  have commitment : s.artifact.commitment = s'.artifact.commitment := by
    obtain ⟨_, bytes⟩ := ArtifactIdentity.mk.inj (verified.committed.symm.trans verified'.committed)
    rw [← Digest32.ofBytes_bytes s.artifact.commitment, bytes, Digest32.ofBytes_bytes]
  obtain ⟨expected, derived⟩ := verified.derived
  obtain ⟨expected', derived'⟩ := verified'.derived
  obtain ⟨message, told, hashed⟩ := map_eq_some_iff.mp derived.committed
  obtain ⟨message', told', hashed'⟩ := map_eq_some_iff.mp derived'.committed
  have alike := apart s s' signature signature' message message' here there told told'
    (hashed.trans (commitment.trans hashed'.symm))
  exact commitmentMessage_digest told (alike ▸ told')

omit [Keccak] [Secp256k1] in
theorem Custody.principal_length (custody : Custody) : custody.principal.length = 42 := by
  rw [Custody.principal, Kernel.Address.toHex, bytesToHex_length, Kernel.Address.bytes, beBytes_length]

omit [Keccak] [Secp256k1] in
theorem Custody.principal_address {custody custody' : Custody} (same : custody.principal = custody'.principal) :
    custody.address = custody'.address := by
  have bytes := congrArg hexToBytes same
  rw [Custody.principal, Custody.principal, Kernel.Address.toHex, Kernel.Address.toHex, hexToBytes_bytesToHex,
    hexToBytes_bytesToHex] at bytes
  have number := congrArg beNat (some.inj bytes)
  rw [Kernel.Address.bytes, Kernel.Address.bytes, beNat_beBytes custody.address.isLt,
    beNat_beBytes custody'.address.isLt] at number
  exact BitVec.eq_of_toNat_eq number

omit [Keccak] [Secp256k1] in
theorem append_ends {first second last last' : String} (same : first ++ last = second ++ last')
    (length : last.length = last'.length) : last = last' := by
  have chars := congrArg String.toList same
  rw [String.toList_append, String.toList_append] at chars
  exact String.toList_inj.mp (append_inj' chars length).2

omit [Keccak] [Secp256k1] in
theorem SignCall.scope_address (same : s.scope = s'.scope) : s.custody.address = s'.custody.address := by
  apply Custody.principal_address
  rw [SignCall.scope, SignCall.scope, slotScope, slotScope] at same
  exact append_ends same (by rw [Custody.principal_length, Custody.principal_length])

theorem admitted (trace : Trace (Turn (answers rules)) (atStart uses) log finish) (gates : OfTheGate log)
    (here : Signed log s signature) : ∃ a, Admitted uses s a := by
  have witnessed := (standing trace).calls s here.listed
  obtain ⟨record, known, verified, hash, hashed, reply⟩ := witnessed.verified here.returned
  obtain ⟨expected, derived⟩ := verified.derived
  have domain := gates.domain s here.listed
  have attempt := (((witnessed.honest s.custody.ledger).reachable.indexed).derived known).1
  obtain ⟨i, authorization, whose, principal, under⟩ := witnessed.authorized _ _ _ known
  obtain ⟨batch, listed, event⟩ := attempts_committed (witnessed.honest s.custody.ledger) known
  refine ⟨record.admission, {
    attempt
    reservation := verified.reservation
    generation := verified.generation
    action := verified.action
    committed := ⟨record.admittedTime, batch, listed, event⟩
    artifact := verified.committed
    deadline := verified.deadline
    authorization := ⟨i, authorization, whose, principal, under, Int.lt_of_lt_of_le verified.deadline under.within⟩
    derived := ⟨expected, hash, derived.built, derived.mandateDigest, ?_, reply⟩ }⟩
  rw [← derived.signed (by rw [domain]; rfl) (by rw [domain]; rfl)]
  exact hashed

/-- Any number of gate signers, custodies and commits over one store, in any interleaving and from the
empty ledgers on. -/
theorem one_mandate (trace : Trace (Turn (answers rules)) (atStart uses) log finish) (gates : OfTheGate log)
    (apart : CommitmentsApart log) : OneMandate uses log where
  single s s' signature signature' here there one same := by
    refine same_mandate trace apart here there one fun a a' verified verified' => .inl ?_
    rw [verified.reservation, verified'.reservation, same]
  numbered s s' signature signature' here there scope nonce := by
    have one := gates.ledger s here.listed s' there.listed (SignCall.scope_address scope)
    refine same_mandate trace apart here there one fun a a' verified verified' => .inr ?_
    obtain ⟨slot, has, is⟩ := map_eq_some_iff.mp verified.slot
    obtain ⟨slot', has', is'⟩ := map_eq_some_iff.mp verified'.slot
    obtain ⟨name, number⟩ := Prod.mk.inj is
    obtain ⟨name', number'⟩ := Prod.mk.inj is'
    refine ⟨slot, has, ?_⟩
    have scopes : slot.scope = slot'.scope := Subtype.ext (name.trans (scope.trans name'.symm))
    have numbers : slot.sequence = slot'.sequence := by rw [number, number', nonce]
    rw [has']
    cases slot
    cases slot'
    cases scopes
    cases numbers
    rfl
  admitted s signature here := admitted trace gates here
  live s signature here := by
    obtain ⟨record, _, verified, _⟩ := ((standing trace).calls s here.listed).verified here.returned
    rw [← verified.reservation]
    exact verified.active

end Runs

section Sample
open Perp (sampleRecord issuedEvents sampleEngine sampleAdapters sampleAdapter samplePayload)

def sampleMarket : ReviewedMarket where
  representation := "0x00000000000000000000000000000000000000a1"
  fundingToken := "0x00000000000000000000000000000000000000a2"
  adapter := "0x00000000000000000000000000000000000000a3"
  venue := "0x00000000000000000000000000000000000000a4"
  representationDecimals := 18
  fundingDecimals := 6
  canonicalAsset := ⟨"equity", "ticker", "spy"⟩
  issuer := "issuer"
  venueId := "venue"
  quantityUnit := "share"
  settlementUnit := "usd"
  synthetic := false
  fixturePriceDecimals := 2
  fixturePriceAtoms := 60000
  feeBps := 30

def sampleGate : ReviewedGate := ⟨46630, "0x00000000000000000000000000000000000000a5", [sampleMarket]⟩

def sampleBuyer : Kernel.Address := 0x7e5f4552091a69125d5dfcb7b8c2659029395bdf

def sampleTerms : ArtifactTerms := ⟨sampleGate, sampleMarket, sampleBuyer.toHex,
  "0x00000000000000000000000000000000000000a6", 10 ^ 18, 4, 100⟩

def sampleScope : Identifier := ⟨slotScope sampleGate.chainId sampleGate.gate sampleBuyer.toHex, by decide +kernel⟩

/-- What the key signs of the sample, and of the sample under another domain's name. -/
def sampleHash : Digest32 := 0x01e25e091484e3bad46e68cf1b2639fb9c0d1f75bbe270bb08b6213bfac5b1ef
def renamedHash : Digest32 := 0x1ffdc5c2b443ce8bf7cc08202e601218d0687356229234fe1d08984bb288af91

def signatureOf (s : Nat) : String := bytesToHex
  (beBytes 32 0xc6047f9441ed7d6d3045406e95c07cd85c778e4b8cef3ca7abac09b95c709ee5 ++ (beBytes 32 s ++ [27]))

def sampleSignature : String := signatureOf 0x63f36eceab3930940259d49ed8735b69fc4256e0a468d6b15a31157aab9b286a
def renamedSignature : String := signatureOf 0x730122ab7b18a5fc9408a44762104778967000d0d7c0b8d2e45a5102877ca73b

@[reducible] def gateCurve : Secp256k1 where
  recoverPublicKey hash r s recovery :=
    if (hash, s) ∈ [(sampleHash, 0x63f36eceab3930940259d49ed8735b69fc4256e0a468d6b15a31157aab9b286a),
        (renamedHash, 0x730122ab7b18a5fc9408a44762104778967000d0d7c0b8d2e45a5102877ca73b)] ∧
        r = 0xc6047f9441ed7d6d3045406e95c07cd85c778e4b8cef3ca7abac09b95c709ee5 ∧ recovery = 0 then
      hexToBytes "0x0479be667ef9dcbbac55a06295ce870b07029bfcdb2dce28d959f2815b16f81798483ada7726a3c4655da4fbfc0e1108a8fd17b448a68554199c47d08ffb10d4b8"
    else none

def sampleCustody : Custody where
  address := sampleBuyer
  sign hash := if hash = sampleHash then sampleSignature else renamedSignature
  binding := ⟨sampleModule, sampleAdapter⟩
  ledger := samplePrincipal

def everActive (binding : CustodyBinding) (kind : LifecycleKind) (_ : Identifier) (_ : SmallUint UINT32_MAX) :
    Option LifecycleRow :=
  some ⟨"ACTIVE", match kind with
    | .module => binding.module.moduleDigest
    | .adapter => binding.adapter.adapterDigest⟩

def underName (name : String) (artifact : GateArtifact) : GateArtifact :=
  { artifact with domain := { artifact.domain with name } }

structure SampleSigning where
  begun : AppliedBatch
  artifact : GateArtifact
  account : AccountId
  plan : AdmitPlan
  applied : AppliedBatch

def sampleAttempt (artifact : GateArtifact) (account : AccountId) : AttemptRequest where
  revalidation := ⟨some samplePayload, [], ⟨.bigint 10, [], [], []⟩⟩
  adapter := sampleAdapter
  venueAccount := account
  artifact := ⟨ARTIFACT_KIND, Digest32.bytes artifact.commitment⟩
  slot := some ⟨sampleScope, 4⟩
  validUntil := 101
  requirements := []
  results := []

def SampleSigning.claim (q : SampleSigning) : GateClaim :=
  ⟨q.plan.admission.attempt, q.plan.admission.reservation, q.plan.admission.generation, q.plan.admission.action⟩

def SampleSigning.view (q : SampleSigning) : CustodyView :=
  ⟨q.applied.state, fun _ => false, everActive sampleCustody.binding, 20⟩

section Stages
variable [Keccak]

def sampleAdmission (artifact : GateArtifact) : Option (AppliedBatch × AccountId × AdmitPlan × AppliedBatch) := do
  let begun ← (applyBatch (emptyLedgerState samplePrincipal) (issuedEvents samplePrincipal) CORE_RULES).toOption
  let account ← accountResource sampleGate.chainId sampleBuyer.toHex
  let plan ← (planAdmission sampleEngine sampleAdapters (snapshotOf samplePrincipal begun.state)
    (sampleRecord samplePrincipal) (sampleAttempt artifact account)).toOption
  let applied ← (applyBatch begun.state [.admitAttempt plan.time plan.admission] CORE_RULES).toOption
  some (begun, account, plan, applied)

def admissionChecks (artifact : GateArtifact) : Option (List AttemptId × Option ReservationStatus) :=
  (sampleAdmission artifact).map fun q => (attemptsOf q.1.state (sampleRecord samplePrincipal).reservation,
    (q.2.2.2.state.reservations.lookup (sampleRecord samplePrincipal).reservation).map (·.status))

structure SigningFacts (q : SampleSigning) : Prop where
  begun : applyBatch (emptyLedgerState samplePrincipal) (issuedEvents samplePrincipal) CORE_RULES = .ok q.begun
  built : buildGateArtifact (sourceOf (sampleRecord samplePrincipal)) sampleTerms = some q.artifact
  account : accountResource sampleGate.chainId sampleBuyer.toHex = some q.account
  plan : planAdmission sampleEngine sampleAdapters (snapshotOf samplePrincipal q.begun.state)
    (sampleRecord samplePrincipal) (sampleAttempt q.artifact q.account) = .ok q.plan
  applied : applyBatch q.begun.state [.admitAttempt q.plan.time q.plan.admission] CORE_RULES = .ok q.applied
  none_yet : attemptsOf q.begun.state (sampleRecord samplePrincipal).reservation = []
  active : (q.applied.state.reservations.lookup (sampleRecord samplePrincipal).reservation).map (·.status) =
    some .active
  hash : principalSigningHash q.artifact = some sampleHash
  other : principalSigningHash (underName "Other" q.artifact) = some renamedHash

theorem facts_of_checks {artifact : GateArtifact}
    (built : buildGateArtifact (sourceOf (sampleRecord samplePrincipal)) sampleTerms = some artifact)
    (hash : principalSigningHash artifact = some sampleHash)
    (other : principalSigningHash (underName "Other" artifact) = some renamedHash)
    (evaluated : admissionChecks artifact = some ([], some .active)) : ∃ q, SigningFacts q := by
  obtain ⟨⟨begun, account, plan, applied⟩, made, evaluated⟩ := map_eq_some_iff.mp evaluated
  obtain ⟨none_yet, active⟩ := Prod.mk.inj evaluated
  unfold sampleAdmission at made
  obtain ⟨begun', started, made⟩ := bind_eq_some_iff.mp made
  obtain ⟨account', account_is, made⟩ := bind_eq_some_iff.mp made
  obtain ⟨plan', planned, made⟩ := bind_eq_some_iff.mp made
  obtain ⟨applied', accepted, made⟩ := bind_eq_some_iff.mp made
  obtain ⟨rfl, rfl, rfl, rfl⟩ : begun' = begun ∧ account' = account ∧ plan' = plan ∧ applied' = applied := by
    simpa using made
  refine ⟨⟨begun', artifact, account', plan', applied'⟩, ?_⟩
  constructor
  · exact except_toOption_some started
  · exact built
  · exact account_is
  · exact except_toOption_some planned
  · exact except_toOption_some accepted
  · exact none_yet
  · exact active
  · exact hash
  · exact other

variable {q : SampleSigning}

theorem SigningFacts.admission (facts : SigningFacts q) : ∃ requirements revalidation, q.plan.admission =
    admissionOf (sampleRecord samplePrincipal) (sampleAttempt q.artifact q.account) requirements revalidation :=
  (planAdmission_ok facts.plan).1

theorem SigningFacts.verified (facts : SigningFacts q) (name : String) :
    verifyAdmitted q.view sampleCustody.binding sampleCustody.principal (underName name q.artifact) sampleTerms
      q.claim = some none := by
  obtain ⟨requirements, revalidation, is⟩ := facts.admission
  obtain ⟨_, attempts, _⟩ := applyBatch_admitAttempt facts.applied
  have known : q.applied.state.attempts.lookup q.plan.admission.attempt =
      some ⟨q.plan.admission, q.begun.state.version + 1, q.plan.time, .admitted⟩ := by
    rw [attempts, AList.lookup_insert]
  have parts := buildGateArtifact_ok facts.built
  have mandate := gateMandate_ok parts.mandate
  have candidate := gateCandidate_ok parts.candidate
  have source : attemptSource q.plan.admission q.artifact = sourceOf (sampleRecord samplePrincipal) := by
    rw [attemptSource, sourceOf, candidate.evaluation, mandate.created, mandate.expires, is]
    rfl
  unfold verifyAdmitted SampleSigning.claim SampleSigning.view
  dsimp only
  rw [known]
  refine verifyAttempt_passes ?_ ?_ rfl (facts.account.trans ?_) rfl mandate.principal ?_ ?_ ?_
  · rw [is]; rfl
  · rw [is]; rfl
  · rw [is]; rfl
  · refine (checkGateArtifact_domain name q.artifact.domain.version).trans ?_
    rw [show attemptSource q.plan.admission (underName name q.artifact) = attemptSource q.plan.admission q.artifact from rfl,
      source]
    exact checkGateArtifact_built facts.built (show (100 : Int) < 900 by decide)
  · rw [is]; rfl
  · have active := facts.active
    have reservation : q.plan.admission.reservation = (sampleRecord samplePrincipal).reservation := by rw [is]; rfl
    rw [← reservation] at active
    have slot : q.plan.admission.slot = some ⟨sampleScope, 4⟩ := by rw [is]; rfl
    have expiry : q.plan.admission.validUntil = 101 := by rw [is]; rfl
    have scope : sampleScope.1 = slotScope sampleTerms.gate.chainId sampleTerms.gate.gate sampleCustody.principal := rfl
    have numbered : sampleTerms.nonce = 4 := rfl
    have deadline : sampleTerms.deadline = 100 := rfl
    unfold checkIssuable
    simp [active, slot, scope, numbered, expiry, underName, mandate.nonce, parts.deadline, deadline, everActive,
      checkLifecycle, passed, Checked.andThen]

theorem SigningFacts.signs [Secp256k1] (facts : SigningFacts q) {name : String} {hash : Digest32}
    (hashed : principalSigningHash (underName name q.artifact) = some hash)
    (recovers : recoverSigner hash (sampleCustody.sign hash) = some sampleCustody.principal) :
    sampleCustody.signMandate q.view (underName name q.artifact) sampleTerms q.claim =
      some (.ok (sampleCustody.sign hash)) := by
  unfold Custody.signMandate
  rw [facts.verified name, hashed]
  simp [recovers]

theorem admitAttempt_asks {e : ControlEngine} {adapters : AdapterRegistry} (record : AuthorizationRecord)
    (request : AttemptRequest) (retry : RetryPolicy) (max : Nat) (allowed : attemptsAllowed retry = some (max + 1))
    (registered : e.adapters = some adapters) (rest : AttemptOutcome → SignerProgram Unit) :
    ∃ next, (ofLedger (admitAttempt e record request retry)).bind rest = .call (.readCommitted record.principal) next ∧
      ∀ snapshot plan, attemptsOf snapshot.state record.reservation = [] →
        planAdmission e adapters snapshot record request = .ok plan →
        ∃ next', next snapshot = .call (.append snapshot.principal snapshot.stamp
          [.admitAttempt plan.time plan.admission]) next' := by
  rw [admitAttempt, allowed, registered]
  dsimp only
  rw [admitFrom]
  refine ⟨_, rfl, fun snapshot plan nothing planned => ?_⟩
  dsimp only
  rw [nothing, planned]
  exact ⟨_, rfl⟩

variable [Secp256k1]

/-- The reservation is committed, then its attempt, and then custody is handed an artifact. -/
def sampleUses (q : SampleSigning) (artifact : GateArtifact) : Fin 3 → GateUse
  | 0 => .committing samplePrincipal ⟨(emptyLedgerState samplePrincipal).version, (emptyLedgerState samplePrincipal).head⟩
    (issuedEvents samplePrincipal) (by simp [issuedEvents])
  | 1 => .admission sampleEngine (sampleRecord samplePrincipal) (sampleAttempt q.artifact q.account) ⟨.integer 1⟩
  | 2 => .signing sampleCustody artifact sampleTerms q.claim

def SampleSigning.reserved (q : SampleSigning) : PrincipalLog :=
  ⟨q.begun.state, [committedBatch (emptyLedgerState samplePrincipal) (issuedEvents samplePrincipal) q.begun]⟩

def SampleSigning.admitted (q : SampleSigning) : PrincipalLog :=
  ⟨q.applied.state, q.reserved.batches ++
    [committedBatch q.begun.state [.admitAttempt q.plan.time q.plan.admission] q.applied]⟩

def storeOf (log : PrincipalLog) : SignerStore := ⟨Function.update emptyLog samplePrincipal log, .empty⟩

omit [Secp256k1] in
theorem storeOf_own (log : PrincipalLog) : (storeOf log).ledger samplePrincipal = log := by
  simp [storeOf]

theorem serves (sys : SignerSystem (Fin 3)) (i : Fin 3) {request : SignerCall} {reply : SignerReply request}
    {next : SignerReply request → SignerProgram Unit} {store : SignerStore} (turn : sys.clients i = .call request next)
    (answered : answers CORE_RULES request sys.store reply store) : Turn (answers CORE_RULES) sys
      (some ⟨i, ⟨request, reply⟩, false⟩) ⟨store, Function.update sys.clients i (next reply)⟩ :=
  .served false turn answered

omit [Keccak] [Secp256k1] in
theorem update_other {clients : Fin 3 → SignerProgram Unit} {j : Fin 3} {program : SignerProgram Unit} (i : Fin 3)
    (served : SignerProgram Unit) (other : j ≠ i) (is : clients j = program) : Function.update clients i served j = program := by
  rw [Function.update_of_ne other, is]

theorem storeOf_append (log : PrincipalLog) {events : List LedgerEvent} {applied : AppliedBatch}
    (accepted : applyBatch log.state events CORE_RULES = .ok applied) :
    answers CORE_RULES (.append samplePrincipal ⟨log.state.version, log.state.head⟩ events) (storeOf log)
      (.committed (snapshotOf samplePrincipal applied.state))
      (storeOf ⟨applied.state, log.batches ++ [committedBatch log.state events applied]⟩) := by
  refine ⟨fun _ => false, some ⟨applied.state, log.batches ++ [committedBatch log.state events applied]⟩, ?_, ?_⟩
  · rw [storeOf_own]
    exact compareAndAppend_current accepted
  · simp [storeOf]

theorem SigningFacts.run (facts : SigningFacts q) {artifact : GateArtifact} {reply : CustodyResult}
    (signs : sampleCustody.signMandate q.view artifact sampleTerms q.claim = some reply) :
    ∃ log finish, Trace (Turn (answers CORE_RULES)) (atStart (sampleUses q artifact)) log finish ∧
      signCalls log = [⟨storeOf q.admitted, sampleCustody, artifact, sampleTerms, q.claim, reply⟩] := by
  obtain ⟨next, asks, appends⟩ := admitAttempt_asks (sampleRecord samplePrincipal) (sampleAttempt q.artifact q.account)
    ⟨.integer 1⟩ 0 rfl
    (rfl : sampleEngine.adapters = some sampleAdapters) fun _ => .done ()
  obtain ⟨next', admits⟩ := appends (readLog samplePrincipal q.reserved) q.plan facts.none_yet facts.plan
  have start : (atStart (sampleUses q artifact)).store = storeOf (emptyLog samplePrincipal) := by
    rw [storeOf, Function.update_eq_self]
    rfl
  have reserving : answers CORE_RULES (.append samplePrincipal ⟨(emptyLedgerState samplePrincipal).version,
      (emptyLedgerState samplePrincipal).head⟩ (issuedEvents samplePrincipal)) (atStart (sampleUses q artifact)).store
      (.committed (snapshotOf samplePrincipal q.begun.state)) (storeOf q.reserved) := by
    rw [start]
    exact storeOf_append (emptyLog samplePrincipal) facts.begun
  have reading : answers CORE_RULES (.readCommitted samplePrincipal) (storeOf q.reserved)
      (readLog samplePrincipal q.reserved) (storeOf q.reserved) := ⟨by rw [storeOf_own], rfl⟩
  have admitting := storeOf_append q.reserved facts.applied
  have signing : answers CORE_RULES (.signMandate sampleCustody artifact sampleTerms q.claim) (storeOf q.admitted) reply
      (storeOf q.admitted) := by
    refine ⟨rfl, fun _ => false, everActive sampleCustody.binding, 20, ?_⟩
    rw [show sampleCustody.ledger = samplePrincipal from rfl, storeOf_own]
    exact signs
  have third : (atStart (sampleUses q artifact)).clients 2 =
    .call (.signMandate sampleCustody artifact sampleTerms q.claim) fun _ => .done () := rfl
  have first := Trace.nil.snoc (serves (atStart (sampleUses q artifact)) 0 (rfl : _ = Program.call _ fun _ => .done ()) reserving)
  have asks : (atStart (sampleUses q artifact)).clients 1 = .call (.readCommitted samplePrincipal) next := asks
  have waits := update_other 0 (.done ()) (by decide) asks
  have second := first.snoc (serves ⟨_, _⟩ 1 waits reading)
  have mine := (Function.update_self (1 : Fin 3) (next (readLog samplePrincipal q.reserved))
    (Function.update (atStart (sampleUses q artifact)).clients 0 (.done ()))).trans admits
  have last := second.snoc (serves ⟨_, _⟩ 1 mine admitting)
  have waits := update_other 1 (next' (.committed (snapshotOf samplePrincipal q.applied.state)))
    (by decide : (2 : Fin 3) ≠ 1) (update_other 1 (next (readLog samplePrincipal q.reserved)) (by decide)
      (update_other 0 (.done ()) (by decide) third))
  exact ⟨_, _, last.snoc (serves ⟨_, _⟩ 2 waits signing), rfl⟩

end Stages

section Signatures
attribute [local instance] platformKeccak gateCurve

theorem sample_signature : sampleCustody.sign sampleHash = sampleSignature := by
  simp [sampleCustody]

theorem renamed_signature : sampleCustody.sign renamedHash = renamedSignature := by
  simp [sampleCustody, renamedHash, sampleHash]

theorem sample_recovers : recoverSigner sampleHash sampleSignature = some sampleCustody.principal := by
  rewrite [gateCurve, hexToBytes_ofList]
  unfold recoverSigner sampleSignature signatureOf
  rw [hexToBytes_bytesToHex]
  decide +kernel

theorem renamed_recovers : recoverSigner renamedHash renamedSignature = some sampleCustody.principal := by
  rewrite [gateCurve, hexToBytes_ofList]
  unfold recoverSigner renamedSignature signatureOf
  rw [hexToBytes_bytesToHex]
  decide +kernel

theorem signatures_apart : sampleSignature ≠ renamedSignature := by
  intro same
  have bytes := congrArg hexToBytes same
  rw [sampleSignature, renamedSignature, signatureOf, signatureOf, hexToBytes_bytesToHex, hexToBytes_bytesToHex] at bytes
  revert bytes
  decide

theorem sample_built :
    (buildGateArtifact (sourceOf (sampleRecord samplePrincipal)) sampleTerms).map (fun a => (a.mandateDigest, a.commitment)) =
      some (77896198163123128764667698261947542273214310207143969173504882881400248193222#256,
        72203148125836755088136982101193632628772654970304257264272495295162645627074#256) := by
  unfold buildGateArtifact executionCommitment commitmentMessage Kernel.keccakText EXECUTION_AUTHORIZATION_TYPE
    gateCandidate reviewedMarketDigest encodeReviewedSnapshot
  -- Texts as the characters they are made of, so that none is decoded.
  simp only [writeStr, Digest32.toHex, bytesToHex, encodeText_ofList]
  rewrite [platformKeccak_straight, encodeText_ofList]
  decide +kernel

theorem sample_hashes : ["Mandate", "Other"].map (fun name => eip712SigningHash
      ⟨name, "1", sampleGate.chainId, sampleGate.gate⟩
        77896198163123128764667698261947542273214310207143969173504882881400248193222#256) =
    [some sampleHash, some renamedHash] := by
  simp only [eip712SigningHash, eip712Hash, domainSeparator, Kernel.keccakText, Kernel.EIP712_DOMAIN_TYPE]
  rewrite [platformKeccak_straight, encodeText_ofList]
  decide +kernel

theorem sample_admitted {artifact : GateArtifact} (commits : artifact.commitment =
    72203148125836755088136982101193632628772654970304257264272495295162645627074#256) :
    admissionChecks artifact = some ([], some .active) := by
  unfold admissionChecks sampleAdmission sampleAttempt
  rw [commits]
  rewrite [platformKeccak_straight]
  decide +kernel

theorem signingFacts : ∃ q, SigningFacts q := by
  obtain ⟨artifact, built, digests⟩ := map_eq_some_iff.mp sample_built
  obtain ⟨digest, commits⟩ := Prod.mk.inj digests
  have hashes := List.cons.inj sample_hashes
  refine facts_of_checks built ?_ ?_ (sample_admitted commits)
  · rw [principalSigningHash, (buildGateArtifact_ok built).domain, digest]
    exact hashes.1
  · rw [principalSigningHash, underName, (buildGateArtifact_ok built).domain, digest]
    exact (List.cons.inj hashes.2).1

variable {ι : Type} [DecidableEq ι] {log : SignerHistory ι} {only : SignCall}

omit [DecidableEq ι] in
theorem apart_of_one (one : signCalls log = [only]) : CommitmentsApart log := by
  intro s s' signature signature' message message' here there told told' _
  have mine := here.listed
  have theirs := there.listed
  rw [one, mem_singleton] at mine theirs
  rw [mine] at told
  rw [theirs] at told'
  exact some.inj (told.symm.trans told')

theorem one_mandate_sample : ∃ (q : SampleSigning) (log : SignerHistory (Fin 3)) (s : SignCall),
    Signed log s sampleSignature ∧ OneMandate (sampleUses q q.artifact) log := by
  obtain ⟨q, facts⟩ := signingFacts
  have same : underName q.artifact.domain.name q.artifact = q.artifact := rfl
  have hash : principalSigningHash (underName q.artifact.domain.name q.artifact) = some sampleHash := facts.hash
  have signs := facts.signs hash (by rw [sample_signature]; exact sample_recovers)
  rw [same] at signs
  obtain ⟨log, finish, trace, one⟩ := facts.run signs
  have listed : ⟨storeOf q.admitted, sampleCustody, q.artifact, sampleTerms, q.claim,
      .ok (sampleCustody.sign sampleHash)⟩ ∈ signCalls log := by
    rw [one]
    exact mem_singleton.mpr rfl
  refine ⟨q, log, _, ⟨listed, congrArg Except.ok sample_signature⟩, one_mandate trace ⟨?_, ?_⟩ (apart_of_one one)⟩
  · intro s here
    rw [one, mem_singleton] at here
    rw [here]
    dsimp only
    rw [(buildGateArtifact_ok facts.built).domain]
    rfl
  · intro s here s' there _
    rw [one, mem_singleton] at here there
    rw [here, there]

/-- The admitted artifact under another domain's name: custody signs what nothing derives. -/
theorem renamed_signed : ∃ (q : SampleSigning) (log : SignerHistory (Fin 3)) (finish : SignerSystem (Fin 3))
    (s : SignCall), Trace (Turn (answers CORE_RULES)) (atStart (sampleUses q (underName "Other" q.artifact))) log finish ∧
      CommitmentsApart log ∧ s.artifact = underName "Other" q.artifact ∧ Signed log s renamedSignature ∧
      ¬ OneMandate (sampleUses q (underName "Other" q.artifact)) log := by
  obtain ⟨q, facts⟩ := signingFacts
  have signs := facts.signs facts.other (by rw [renamed_signature]; exact renamed_recovers)
  obtain ⟨log, finish, trace, one⟩ := facts.run signs
  have signed : Signed log ⟨storeOf q.admitted, sampleCustody, underName "Other" q.artifact, sampleTerms, q.claim,
      .ok (sampleCustody.sign renamedHash)⟩ renamedSignature :=
    ⟨by rw [one]; exact mem_singleton.mpr rfl, congrArg Except.ok renamed_signature⟩
  refine ⟨q, log, finish, _, trace, apart_of_one one, rfl, signed, fun all => ?_⟩
  obtain ⟨a, admitted⟩ := all.admitted _ _ signed
  obtain ⟨built, hash, derived, digest, hashed, reply⟩ := admitted.derived
  -- the derived artifact is hashed under the gate's own name, as the sample's is
  have domain := (buildGateArtifact_ok derived).domain
  have digest : q.artifact.mandateDigest = built.mandateDigest := digest
  have mine := facts.hash
  rw [principalSigningHash, (buildGateArtifact_ok facts.built).domain, digest] at mine
  rw [principalSigningHash, domain] at hashed
  obtain rfl := some.inj (mine.symm.trans hashed)
  have reply : sampleCustody.sign renamedHash = sampleCustody.sign sampleHash := Except.ok.inj reply
  rw [renamed_signature, sample_signature] at reply
  exact signatures_apart reply.symm

end Signatures

end Sample

end Mandate.Evm
