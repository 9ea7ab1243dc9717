import Mandate.Settlement.Journal
import Mandate.Kernel.Plain
import Mandate.Lib.Machine

/-! The lab's settle route. One event loop serves every request of every session: what runs between
two awaits is one step, and any request or settle call that is due may take the next one. -/
set_option linter.dupNamespace false
namespace Mandate.Settlement
open Core (utf16Length)
open Kernel (Plain)

inductive LabTask | run | policyStress | plan

inductive RouteMode
  | settle (mode : SettleMode)
  | reconcile
deriving DecidableEq

structure ParsedBody where
  mode : RouteMode
  gateSignature : Option String
  sendAuthorization : Option String
  cancel : Bool
  browserExecute : Bool

structure Refusal where
  status : Nat
  error : String
  message : String

def BROWSER_EXECUTE_INTENT : String := "EXECUTE_ROBINHOOD_TESTNET"

def SETTLEMENT_FIELDS : List String := ["mode", "gateSignature", "sendAuthorization", "cancel", "intent"]

def isSignature (text : String) : Bool :=
  text.toList.take 2 == ['0', 'x'] && (text.toList.drop 2).length == 130 &&
    (text.toList.drop 2).all fun c => c.isDigit || ('a' ≤ c && c ≤ 'f') || ('A' ≤ c && c ≤ 'F')

def badRequest (message : String) : Refusal := ⟨400, "BAD_REQUEST", message⟩

def parseMode : Plain → Option RouteMode
  | .text "DRY_RUN" => some (.settle .dryRun)
  | .text "SEND" => some (.settle .send)
  | .text "RECONCILE" => some .reconcile
  | _ => none

def parseOptionalText (max : Nat) (test : String → Bool) (wrongType wrongText : String) :
    Plain → Except Refusal (Option String)
  | .undefined | .null => .ok none
  | .text raw => if max < utf16Length raw || !test raw then .error (badRequest wrongText) else .ok (some raw)
  | _ => .error (badRequest wrongType)

def parseCancel : Plain → Except Refusal Bool
  | .undefined => .ok false
  | .boolean true => .ok true
  | _ => .error (badRequest "cancel must be true.")

def parseIntent : Plain → Except Refusal Bool
  | .undefined => .ok false
  | .text raw => if raw = BROWSER_EXECUTE_INTENT then .ok true
      else .error (badRequest "intent is not an execution request.")
  | _ => .error (badRequest "intent is not an execution request.")

def parseBody : Plain → Except Refusal ParsedBody
  | .object fields => do
    if let some (key, _) := fields.find? fun entry => !SETTLEMENT_FIELDS.contains entry.1 then
      throw (badRequest s!"Unexpected field \"{key}\". Execution parameters are not accepted from the browser.")
    let some mode := parseMode (Plain.field fields "mode")
      | throw (badRequest "mode must be \"DRY_RUN\", \"SEND\" or \"RECONCILE\".")
    if mode = .reconcile ∧ fields.length ≠ 1 then
      throw (badRequest "A reconciliation takes no signature, phrase, intent or cancel.")
    let gateSignature ← parseOptionalText 140 isSignature "gateSignature must be the wallet signature."
      "gateSignature must be a 65-byte hex signature." (Plain.field fields "gateSignature")
    let sendAuthorization ← parseOptionalText 80 (fun _ => true) "sendAuthorization must be the operator phrase."
      "sendAuthorization is not the operator phrase." (Plain.field fields "sendAuthorization")
    let cancel ← parseCancel (Plain.field fields "cancel")
    let browserExecute ← parseIntent (Plain.field fields "intent")
    if browserExecute ∧ mode ≠ .settle .send then
      throw (badRequest "An execution request must use mode \"SEND\".")
    return ⟨mode, gateSignature, sendAuthorization, cancel, browserExecute⟩
  | _ => .error (badRequest "POST body must be a JSON object.")

inductive Phase | running | awaitingSignature
deriving DecidableEq

/-- One settle call. `request` is the gate typed data it asked a signature for, `signature` what its
promise came to, `done` what the call itself came to and `closed` what its `finally` left of that;
`returned` marks that a response has carried the typed data. -/
structure Job (Id Typed Result : Type) where
  session : Id
  mode : SettleMode
  phase : Phase
  request : Option Typed
  signature : Option (Option String)
  timer : Bool
  done : Option (Except Unit Result)
  closed : Option (Except Unit Result)
  returned : Bool

inductive LabRouteResponse (Id Typed Result : Type)
  | refused (refusal : Refusal)
  | signResponse (id : Id) (mode : SettleMode) (request : Typed)
  | finished (id : Id) (result : Result)
  | reconciled (id : Id) (attempts : Nat)

/-- Where a request stands: the await it is suspended at, or how it ended. -/
inductive Stage (Id Typed Result : Type)
  | opening (body : ParsedBody)
  | settling
  | reconciling
  | reading (attempts : Nat)
  | delivering (run : Nat) (signature : Option String)
  | awaiting (run : Nat)
  | answered (response : LabRouteResponse Id Typed Result)
  | rejected

/-- The settle call a request starts goes by the number of that request. `shown` is the settle call
whose typed data a session's client was given last. -/
structure SpineUi (Id Typed Result : Type) where
  jobs : Id → Option Nat
  reconciling : Id → Bool
  runs : Nat → Option (Job Id Typed Result)
  requests : Nat → Option (Id × Stage Id Typed Result)
  shown : Id → Option Nat

def SpineUi.new {Id Typed Result : Type} : SpineUi Id Typed Result :=
  ⟨fun _ => none, fun _ => false, fun _ => none, fun _ => none, fun _ => none⟩

inductive Opened | rejected | absent | found

/-- What the host did for a request that goes on: whether it opened the journal and the scratch
ledger, and started the settle call. -/
structure Hosted where
  journal : Bool
  scratch : Bool
  started : Bool

inductive UiLabel (Id Typed Result : Type)
  | handle (request : Nat) (id : Id) (body : Plain) (task : Option LabTask)
  | opened (request : Nat) (session : Opened) (hosted : Hosted)
  | resolveGateExecution (run : Nat) (request : Typed)
  | timeout (run : Nat)
  | done (run : Nat) (result : Except Unit Result)
  | cleanup (run : Nat) (threw : Bool)
  | raced (request : Nat)
  | reconciled (request : Nat) (reports : Option Nat)
  | durable (request : Nat)
  | delivered (request : Nat) (session : Opened)
  | finished (request : Nat)

namespace SpineUi
variable {Id Typed Result : Type}

def internal (message : String) : Stage Id Typed Result := .answered (.refused ⟨500, "INTERNAL", message⟩)

def refuse (status : Nat) (error message : String) : Stage Id Typed Result :=
  .answered (.refused ⟨status, error, message⟩)

def inProgress (message : String) : Stage Id Typed Result := refuse 409 "SETTLEMENT_IN_PROGRESS" message

def move (ui : SpineUi Id Typed Result) (request : Nat) (id : Id) (stage : Stage Id Typed Result) :
    SpineUi Id Typed Result :=
  { ui with requests := Function.update ui.requests request (some (id, stage)) }

def record (ui : SpineUi Id Typed Result) (run : Nat) (job : Job Id Typed Result) : SpineUi Id Typed Result :=
  { ui with runs := Function.update ui.runs run (some job) }

variable [DecidableEq Id]

def register (ui : SpineUi Id Typed Result) (id : Id) (run : Option Nat) : SpineUi Id Typed Result :=
  { ui with jobs := Function.update ui.jobs id run }

def flag (ui : SpineUi Id Typed Result) (id : Id) (on : Bool) : SpineUi Id Typed Result :=
  { ui with reconciling := Function.update ui.reconciling id on }

def showTo (ui : SpineUi Id Typed Result) (id : Id) (run : Nat) : SpineUi Id Typed Result :=
  { ui with shown := Function.update ui.shown id (some run) }

def pending (ui : SpineUi Id Typed Result) (id : Id) : Option (Nat × Job Id Typed Result) := do
  let run ← ui.jobs id
  let job ← ui.runs run
  some (run, job)

def settle (ui : SpineUi Id Typed Result) (id : Id) (body : ParsedBody) (task : Option LabTask) :
    Stage Id Typed Result :=
  match ui.pending id with
  | some (run, job) =>
    if job.phase = .awaitingSignature then
      if body.mode ≠ .settle job.mode then
        inProgress "This session is waiting on a signature for a different settlement mode."
      else if body.cancel then .delivering run none
      else match body.gateSignature with
        | some signature => .delivering run (some signature)
        | none => match job.request with
          | none => inProgress "Settlement is still preparing the gate typed data."
          | some request => .answered (.signResponse id job.mode request)
    else inProgress "A settlement is already running for this session."
  | none =>
    if ui.reconciling id then inProgress "A settlement is already running for this session."
    else if body.gateSignature.isSome ∨ body.cancel then
      refuse 409 "NO_PENDING_SIGNATURE" "No gate signature was requested. Start a dry run or send first. A signature from an earlier run is not accepted."
    else if task.isSome then
      refuse 409 "BUSY" "A run is still in progress. Settlement starts after it finishes."
    else .opening body

/-- The typed data of the session's own settle call is in this response. -/
def shows : Stage Id Typed Result → Bool
  | .answered (.signResponse _ _ _) => true
  | _ => false

/-- A request that `settle` answers with typed data has it from the registered job. -/
def handle (ui : SpineUi Id Typed Result) (request : Nat) (id : Id) (body : Plain) (task : Option LabTask) :
    Option (SpineUi Id Typed Result) :=
  if (ui.requests request).isSome then none
  else match parseBody body with
    | .error refusal => some (ui.move request id (.answered (.refused refusal)))
    | .ok body =>
      let stage := ui.settle id body task
      match ui.pending id with
      | some (run, job) =>
        if shows stage then
          some (((ui.move request id stage).record run { job with returned := true }).showTo id run)
        else some (ui.move request id stage)
      | none => some (ui.move request id stage)

inductive Resumption (Id Typed Result : Type)
  | ends (stage : Stage Id Typed Result)
  | reconcile
  | start (mode : SettleMode)

/-- The gate of a send opens from the browser's intent or from the operator's phrase. -/
def gateOpens (body : ParsedBody) : Bool :=
  if body.browserExecute then SendGate.new.authorizeBrowserIntent.1
  else (SendGate.new.authorize (body.sendAuthorization.getD "")).1

def resume (body : ParsedBody) (session : Opened) (hosted : Hosted) : Resumption Id Typed Result :=
  match session with
  | .rejected => .ends .rejected
  | .absent => .ends (refuse 404 "SESSION_NOT_FOUND" "No such session.")
  | .found => match body.mode with
    | .reconcile =>
      if hosted.journal then .reconcile
      else .ends (internal "The settlement journal could not be opened. Nothing was sent.")
    | .settle mode =>
      if mode = .send ∧ gateOpens body = false then
        .ends (refuse 409 "SEND_NOT_AUTHORIZED" "Broadcast needs an explicit execution request. Nothing was sent.")
      else if hosted.journal = false ∨ mode = .dryRun ∧ hosted.scratch = false then .ends .rejected
      else if hosted.started then .start mode
      else .ends (internal "The settlement could not be started. Nothing was broadcast.")

def opened (ui : SpineUi Id Typed Result) (request : Nat) (session : Opened) (hosted : Hosted) :
    Option (SpineUi Id Typed Result) :=
  match ui.requests request with
  | some (id, .opening body) => match resume body session hosted with
    | .ends stage => some (ui.move request id stage)
    | .reconcile => some ((ui.move request id .reconciling).flag id true)
    | .start mode =>
      let job := ⟨id, mode, .running, none, none, false, none, none, false⟩
      some (((ui.move request id .settling).record request job).register id (some request))
  | _ => none

/-- The settle call asks for a gate signature, once, and waits for it. -/
def resolveGateExecution (ui : SpineUi Id Typed Result) (run : Nat) (request : Typed) :
    Option (SpineUi Id Typed Result) :=
  match ui.runs run with
  | some job =>
    if job.done.isNone ∧ job.request.isNone then
      some (ui.record run { job with phase := .awaitingSignature, request := some request, timer := true })
    else none
  | none => none

def Job.deliver (job : Job Id Typed Result) (signature : Option String) : Job Id Typed Result :=
  { job with timer := false, signature := some (job.signature.getD signature) }

def timeout (ui : SpineUi Id Typed Result) (run : Nat) : Option (SpineUi Id Typed Result) :=
  match ui.runs run with
  | some job =>
    if job.timer then some (ui.record run (Job.deliver job none)) else none
  | none => none

/-- The settle call returns or throws; one that asked has its answer first. -/
def done (ui : SpineUi Id Typed Result) (run : Nat) (result : Except Unit Result) :
    Option (SpineUi Id Typed Result) :=
  match ui.runs run with
  | some job =>
    if job.done.isNone ∧ (job.request.isSome → job.signature.isSome) then
      some (ui.record run { job with done := some result })
    else none
  | none => none

/-- The settle call's `finally`. Closing the journal or removing the scratch ledger may throw. -/
def cleanup (ui : SpineUi Id Typed Result) (run : Nat) (threw : Bool) : Option (SpineUi Id Typed Result) :=
  match ui.runs run with
  | some job =>
    match job.done, job.closed with
    | some result, none =>
      let left := if threw then .error () else result
      let closed := ui.record run { job with timer := false, closed := some left }
      if threw = false ∧ ui.jobs job.session = some run then
        some (closed.register job.session none)
      else some closed
    | _, _ => none
  | none => none

def finish (id : Id) : Except Unit Result → Stage Id Typed Result
  | .ok result => .answered (.finished id result)
  | .error () => internal "The settlement could not be completed. Nothing further was broadcast."

/-- The request that started a settle call answers with its typed data, or with its result. -/
def raced (ui : SpineUi Id Typed Result) (request : Nat) : Option (SpineUi Id Typed Result) :=
  match ui.requests request, ui.runs request with
  | some (id, .settling), some job => match job.request, job.done with
    | some typed, _ =>
      let answered := ui.move request id (.answered (.signResponse id job.mode typed))
      some ((answered.record request { job with returned := true }).showTo id request)
    | none, some result => some (ui.move request id (finish id result))
    | none, none => none
  | _, _ => none

def reconciled (ui : SpineUi Id Typed Result) (request : Nat) (reports : Option Nat) :
    Option (SpineUi Id Typed Result) :=
  match ui.requests request with
  | some (id, .reconciling) =>
    let stage : Stage Id Typed Result := match reports with
      | some attempts => .reading attempts
      | none => internal "Reconciliation could not be completed. Nothing was sent."
    some ((ui.move request id stage).flag id false)
  | _ => none

def durable (ui : SpineUi Id Typed Result) (request : Nat) : Option (SpineUi Id Typed Result) :=
  match ui.requests request with
  | some (id, .reading attempts) =>
    some ((ui.move request id (.answered (.reconciled id attempts))).flag id false)
  | _ => none

def delivered (ui : SpineUi Id Typed Result) (request : Nat) (session : Opened) :
    Option (SpineUi Id Typed Result) :=
  match ui.requests request with
  | some (id, .delivering run signature) => match session with
    | .rejected => some (ui.move request id .rejected)
    | .absent => some (ui.move request id (refuse 404 "SESSION_NOT_FOUND" "No such session."))
    | .found => match ui.runs run with
      | some job => some ((ui.move request id (.awaiting run)).record run (Job.deliver job signature))
      | none => none
  | _ => none

def finished (ui : SpineUi Id Typed Result) (request : Nat) : Option (SpineUi Id Typed Result) :=
  match ui.requests request with
  | some (id, .awaiting run) => match ui.runs run with
    | some job => match job.closed with
      | some result => some (ui.move request id (finish id result))
      | none => none
    | none => none
  | _ => none

def step (ui : SpineUi Id Typed Result) : UiLabel Id Typed Result → Option (SpineUi Id Typed Result)
  | .handle request id body task => ui.handle request id body task
  | .opened request session hosted => ui.opened request session hosted
  | .resolveGateExecution run request => ui.resolveGateExecution run request
  | .timeout run => ui.timeout run
  | .done run result => ui.done run result
  | .cleanup run threw => ui.cleanup run threw
  | .raced request => ui.raced request
  | .reconciled request reports => ui.reconciled request reports
  | .durable request => ui.durable request
  | .delivered request session => ui.delivered request session
  | .finished request => ui.finished request

def Steps (before : SpineUi Id Typed Result) (label : UiLabel Id Typed Result)
    (after : SpineUi Id Typed Result) : Prop := before.step label = some after

end SpineUi

end Mandate.Settlement
