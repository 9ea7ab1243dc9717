import Mandate.Authoring.Lineage
import Mandate.Kernel.Plain
import Mandate.Portfolio.Screen

/-! The live Room: agents whose requests compete for shared authority are asked, generation by
generation, to keep, reduce or release them; a generation closes as soon as the requests fit. Replies,
timeouts and an abort arrive in any order while the Room waits. -/
set_option linter.dupNamespace false
namespace Mandate.Live
open Core Portfolio Lib.Table Lib.Machine List
open Authoring (Role NOTIONAL)
open Kernel (Plain)
open Option (some.inj bind_eq_some_iff)

inductive NegotiationAction | keep | reduce | release | abstain
deriving DecidableEq

def NegotiationAction.text : NegotiationAction → String
  | .keep => "KEEP"
  | .reduce => "REDUCE"
  | .release => "RELEASE"
  | .abstain => "ABSTAIN"

structure TrustedCandidate where
  id : String
  title : String
  minAtoms : Nat
  resizable : Bool

structure Participant where
  role : Role
  agent : Identifier
  candidate : TrustedCandidate
  observedAt : Int
  originalAtoms : Int
  minimumAtoms : Int

abbrev Requests := PMap Role Int

abbrev DemandAt := Participant → Int → ResourceVector

structure ResourceLine where
  resource : PortfolioResourceId
  authorityAtoms : Int
  demandAtoms : Int
  requiredReductionAtoms : Int
deriving DecidableEq

structure AgentExcess where
  role : Role
  resource : PortfolioResourceId
  requestedAtoms : Int
  limitAtoms : Int

structure Fit where
  feasible : Bool
  lines : List ResourceLine
  agentExcess : List AgentExcess
  demandAtoms : Int
  authorityAtoms : Int
  requiredAtoms : Int

/-- Would these requests, as they stand, fit what the portfolio and each agent can still take? -/
def assess (participants : List Participant) (requests : Requests) (av : ResourceAvailability)
    (demandAt : DemandAt) : Fit :=
  let demands := participants.map fun p => (p, demandAt p ((requests.lookup p.role).getD 0))
  let lines := av.portfolio.filterMap fun limit =>
    let demand := (demands.map fun d => amountOf d.2 limit.resource).sum
    if demand = 0 then none
    else some (ResourceLine.mk limit.resource limit.atoms demand (if limit.atoms < demand then demand - limit.atoms else 0))
  let agentExcess := demands.flatMap fun d => d.2.filterMap fun a =>
    let own := headroom av d.1.agent a.resource
    if own < a.atoms then some (AgentExcess.mk d.1.role a.resource a.atoms own) else none
  let pn := lines.find? fun l => l.resource = NOTIONAL
  { feasible := lines.all (fun l => l.requiredReductionAtoms ≤ 0) && agentExcess.isEmpty
    lines, agentExcess
    demandAtoms := (pn.map (·.demandAtoms)).getD 0
    authorityAtoms := amountOf av.portfolio NOTIONAL
    requiredAtoms := (pn.map (·.requiredReductionAtoms)).getD 0 }

def permittedActions (p : Participant) : List NegotiationAction :=
  if p.candidate.resizable then [.keep, .reduce, .release, .abstain] else [.keep, .release, .abstain]

structure NegotiationRequest where
  role : Role
  generation : Nat
  portfolioAuthorityAtoms : Int
  admissibleDemandAtoms : Int
  requiredReductionAtoms : Int
  constraints : List ResourceLine
  candidateTitle : String
  yourCurrentAtoms : Int
  yourMinimumAtoms : Int
  yourOwnLimitAtoms : Int
  permittedActions : List NegotiationAction
  participants : List (Role × Int)
deriving DecidableEq

structure NegotiationDecision where
  action : NegotiationAction
  newAtoms : Int
  rationale : String

inductive NegotiationFault
  | response | unexpectedField | missingField | action | rationale | notAnInteger
  | keepChanges | abstainNames | releaseNotZero | reduceUnnamed | reduceOutside | reduceBelowMinimum

def MAX_RATIONALE : Nat := 280

def NEGOTIATION_KEYS : List String := ["action", "newRequestedAtoms", "rationale"]

def exactKeys (o : Plain.Fields) (keys : List String) : Except NegotiationFault Unit :=
  if o.any (fun e => !keys.contains e.1) then .error .unexpectedField
  else if keys.any (fun k => !(o.map (·.1)).contains k) then .error .missingField
  else .ok ()

def oneOf (v : Plain) (allowed : List NegotiationAction) : Except NegotiationFault NegotiationAction :=
  match v with
  | .text raw => ((allowed.find? fun a => a.text = raw).map Except.ok).getD (.error .action)
  | _ => .error .action

/-- Tab, line feed and carriage return may stand in a text; no other control character. -/
def controlCharacter (c : Char) : Bool :=
  c.toNat ≤ 8 || c.toNat = 0x0b || c.toNat = 0x0c || (0x0e ≤ c.toNat && c.toNat ≤ 0x1f) || c.toNat = 0x7f

def boundedText (v : Plain) (max : Nat) : Except NegotiationFault String :=
  match v with
  | .text raw =>
    if max < utf16Length raw then .error .rationale
    else if raw.toList.any controlCharacter then .error .rationale
    else .ok raw
  | _ => .error .rationale

def parseAtoms : Plain → Option Int
  | .text raw => if 31 < raw.toList.length then none else (decimalDigits raw.toList).map fun n => (n : Int)
  | _ => none

def nullableAtoms : Plain → Except NegotiationFault (Option Int)
  | .null => .ok none
  | raw => ((parseAtoms raw).map fun atoms => Except.ok (some atoms)).getD (.error .notAnInteger)

def decided (r : NegotiationRequest) (action : NegotiationAction) (atoms : Option Int) (why : String) :
    Except NegotiationFault NegotiationDecision :=
  let current := r.yourCurrentAtoms
  match action with
  | .keep => if atoms.any (fun a => a ≠ current) then .error .keepChanges else .ok ⟨.keep, current, why⟩
  | .abstain => if atoms.isSome then .error .abstainNames else .ok ⟨.abstain, current, why⟩
  | .release => if atoms.any (fun a => a ≠ 0) then .error .releaseNotZero else .ok ⟨.release, 0, why⟩
  | .reduce =>
    match atoms with
    | none => .error .reduceUnnamed
    | some a =>
      if a ≤ 0 ∨ current ≤ a then .error .reduceOutside
      else if a < r.yourMinimumAtoms then .error .reduceBelowMinimum
      else .ok ⟨.reduce, a, why⟩

def parseNegotiation (reply : Option Plain.Fields) (r : NegotiationRequest) : Except NegotiationFault NegotiationDecision :=
  match reply with
  | none => .error .response
  | some o => do
    exactKeys o NEGOTIATION_KEYS
    let action ← oneOf (Plain.field o "action") r.permittedActions
    let why ← boundedText (Plain.field o "rationale") MAX_RATIONALE
    let atoms ← nullableAtoms (Plain.field o "newRequestedAtoms")
    decided r action atoms why

inductive ReplyStatus | current | stale | finalized
deriving DecidableEq

structure GenerationGate where
  roomId : String
  generation : Nat
  isOpen : Bool
  finalized : Bool

namespace GenerationGate

def new (roomId : String) : GenerationGate := ⟨roomId, 0, false, false⟩

def openNext (gate : GenerationGate) : Option GenerationGate :=
  if gate.finalized then none else some { gate with generation := gate.generation + 1, isOpen := true }

def closeGeneration (gate : GenerationGate) : GenerationGate := { gate with isOpen := false }

def finalize (gate : GenerationGate) : GenerationGate := { gate with isOpen := false, finalized := true }

def classify (gate : GenerationGate) (roomId : String) (generation : Nat) : ReplyStatus :=
  if gate.finalized then .finalized
  else if gate.isOpen = true ∧ roomId = gate.roomId ∧ generation = gate.generation then .current else .stale

end GenerationGate

inductive Closing | feasible | allAnswered | superseded
deriving DecidableEq

structure Round where
  answers : PMap Role NegotiationDecision
  pending : List Role
  closed : Option Closing

/-- A model call that is out: what was asked, of whom, and in which generation. -/
structure Call where
  generation : Nat
  role : Role
  request : NegotiationRequest
deriving DecidableEq

inductive RecordStatus | responded | timedOut | failed | invalidResponse | stale | ignored

structure ReplyRecord where
  generation : Nat
  role : Role
  status : RecordStatus
  action : Option NegotiationAction

inductive RoomStatus | proposed | noFeasiblePortfolio | superseded
deriving DecidableEq

structure RoomResult where
  status : RoomStatus
  requests : Requests
  fit : Fit
  generations : Nat
  requiredAtoms : Int
  offeredAtoms : Int

structure RoomInput where
  roomId : String
  maxGenerations : Nat
  participants : List Participant
  askable : List Role
  availability : ResourceAvailability
  demandAt : DemandAt

/-- The variables that the loop, the replies and the abort share. `g` counts the loop; `calls` are out,
`expired` timed out and may still be answered. -/
structure LiveRoom where
  gate : GenerationGate
  g : Nat
  aborted : Bool
  requests : Requests
  round : Round
  calls : List Call
  expired : List Call
  replies : List ReplyRecord
  result : Option RoomResult

/-- How a call ends: an answer, read as a JSON object or not; a rejection; or its deadline. -/
inductive Arrival
  | response (reply : Option Plain.Fields)
  | rejection
  | deadline

inductive CallOutcome
  | responded (value : NegotiationDecision)
  | timedOut
  | failed
  | invalidResponse (error : NegotiationFault)

def outcomeOf (r : NegotiationRequest) : Arrival → CallOutcome
  | .response reply =>
    match parseNegotiation reply r with
    | .ok value => .responded value
    | .error fault => .invalidResponse fault
  | .rejection => .failed
  | .deadline => .timedOut

def CallOutcome.action : CallOutcome → Option NegotiationAction
  | .responded value => some value.action
  | _ => none

def CallOutcome.status : CallOutcome → RecordStatus
  | .responded _ => .responded
  | .timedOut => .timedOut
  | .failed => .failed
  | .invalidResponse _ => .invalidResponse

section Coordinator
variable (input : RoomInput)

def originalRequests : Requests := input.participants.foldl (fun m p => m.insert p.role p.originalAtoms) ∅

def RoomInput.fit (requests : Requests) : Fit :=
  assess input.participants requests input.availability input.demandAt

def answered (requests : Requests) (answers : PMap Role NegotiationDecision) : Requests :=
  answers.entries.foldl (fun m e => m.insert e.1 e.2.newAtoms) requests

def tryClose (requests : Requests) (round : Round) : Round :=
  if round.closed.isSome then round
  else if (input.fit (answered requests round.answers)).feasible then { round with closed := some .feasible }
  else if round.pending = [] then { round with closed := some .allAnswered }
  else round

def finish (room : LiveRoom) (status : RoomStatus) (fit : Fit) : LiveRoom :=
  let gate := room.gate.finalize
  { room with
    gate
    result := some {
      status, requests := room.requests, fit
      generations := gate.generation
      requiredAtoms := (input.fit (originalRequests input)).requiredAtoms
      offeredAtoms := (input.participants.map fun p => p.originalAtoms - (room.requests.lookup p.role).getD 0).sum } }

def requestFor (requests : Requests) (before : Fit) (active : List Participant) (generation : Nat) (p : Participant) :
    NegotiationRequest :=
  let current := (requests.lookup p.role).getD 0
  { role := p.role
    generation
    portfolioAuthorityAtoms := before.authorityAtoms
    admissibleDemandAtoms := before.demandAtoms
    requiredReductionAtoms := before.requiredAtoms
    constraints := before.lines
    candidateTitle := p.candidate.title
    yourCurrentAtoms := current
    yourMinimumAtoms := if p.minimumAtoms < current then p.minimumAtoms else current
    yourOwnLimitAtoms := headroom input.availability p.agent NOTIONAL
    permittedActions := permittedActions p
    participants := (active.filter fun x => x.role ≠ p.role).map fun x => (x.role, (requests.lookup x.role).getD 0) }

def activeIn (requests : Requests) : List Participant :=
  input.participants.filter fun p => 0 < (requests.lookup p.role).getD 0 && input.askable.contains p.role

/-- The head of the loop: the next generation is opened and everyone who is active in it is asked, or
the Room ends. -/
def beginGeneration (room : LiveRoom) : Option LiveRoom :=
  if room.g < input.maxGenerations then
    if room.aborted then some (finish input room .superseded (input.fit room.requests))
    else do
      let gate ← room.gate.openNext
      let before := input.fit room.requests
      let active := activeIn input room.requests
      let round : Round := { answers := ∅, pending := active.map (·.role), closed := none }
      return { room with
        gate
        round := tryClose input room.requests round
        calls := room.calls ++ active.map fun p =>
          ⟨gate.generation, p.role, requestFor input room.requests before active gate.generation p⟩ }
  else some (finish input room .noFeasiblePortfolio (input.fit room.requests))

def startRoom (aborted : Bool) : Option LiveRoom :=
  beginGeneration input {
    gate := .new input.roomId, g := 0, aborted, requests := originalRequests input
    round := ⟨∅, [], none⟩, calls := [], expired := [], replies := [], result := none }

def ignored (room : LiveRoom) (call : Call) (outcome : CallOutcome) (late : Bool) : LiveRoom :=
  let status := room.gate.classify input.roomId call.generation
  let closed := !late && status ≠ .finalized && !decide (call.generation < room.gate.generation)
  let record : ReplyRecord :=
    ⟨call.generation, call.role, if status = .finalized || closed then .ignored else .stale, outcome.action⟩
  { room with replies := room.replies ++ [record] }

def settle (room : LiveRoom) (call : Call) (outcome : CallOutcome) : LiveRoom :=
  if room.gate.classify input.roomId call.generation ≠ .current ∨ room.round.closed.isSome then
    ignored input room call outcome false
  else
    let round := { room.round with pending := room.round.pending.filter (· ≠ call.role) }
    let round := match outcome with
      | .responded value => { round with answers := round.answers.insert call.role value }
      | _ => round
    { room with
      round := tryClose input room.requests round
      replies := room.replies ++ [⟨call.generation, call.role, outcome.status, outcome.action⟩] }

def resume (room : LiveRoom) : Option LiveRoom :=
  match room.result, room.round.closed with
  | none, some reason =>
    let room := { room with gate := room.gate.closeGeneration, requests := answered room.requests room.round.answers }
    let fit := input.fit room.requests
    if reason = .superseded then some (finish input room .superseded fit)
    else if fit.feasible then some (finish input room .proposed fit)
    else beginGeneration input { room with g := room.g + 1 }
  | _, _ => none

inductive RoomLabel
  | abort
  | arrive (generation : Nat) (role : Role) (arrival : Arrival)
  | late (generation : Nat) (role : Role) (reply : Option Plain.Fields)
  | resume

/-- What happens next: the mandate is superseded, a call ends, an expired call is answered after all, or
the loop goes on. -/
def next (room : LiveRoom) : RoomLabel → Option LiveRoom
  | .abort =>
    let round := if room.result.isNone ∧ room.round.closed = none then { room.round with closed := some .superseded } else room.round
    some { room with aborted := true, round }
  | .arrive generation role arrival => do
    let call ← room.calls.find? fun c => c.generation = generation ∧ c.role = role
    let room := { room with
      calls := room.calls.erase call
      expired := if arrival matches .deadline then room.expired ++ [call] else room.expired }
    return settle input room call (outcomeOf call.request arrival)
  | .late generation role reply => do
    let call ← room.expired.find? fun c => c.generation = generation ∧ c.role = role
    return ignored input { room with expired := room.expired.erase call } call (outcomeOf call.request (.response reply)) true
  | .resume => resume input room

def RoomStep (room : LiveRoom) (label : RoomLabel) (after : LiveRoom) : Prop := next input room label = some after

end Coordinator

variable {r : NegotiationRequest}

theorem outcomeOf_responded {arrival : Arrival} {value : NegotiationDecision}
    (responded : outcomeOf r arrival = .responded value) :
    ∃ reply, arrival = .response reply ∧ parseNegotiation reply r = .ok value := by
  cases arrival with
  | rejection => cases responded
  | deadline => cases responded
  | response reply =>
    refine ⟨reply, rfl, ?_⟩
    unfold outcomeOf at responded
    dsimp only at responded
    split at responded
    · rename_i d parsed
      rw [parsed, CallOutcome.responded.inj responded]
    · cases responded

section Requests

theorem lookup_answered (requests : Requests) (answers : PMap Role NegotiationDecision) (role : Role) :
    (answered requests answers).lookup role =
      ((answers.lookup role).map (·.newAtoms)).elim (requests.lookup role) some := by
  have listed : ∀ (entries : List (Sigma fun _ : Role => NegotiationDecision)) (m : Requests), entries.NodupKeys →
      (entries.foldl (fun m e => m.insert e.1 e.2.newAtoms) m).lookup role =
        ((entries.dlookup role).map (·.newAtoms)).elim (m.lookup role) some := by
    intro entries
    induction entries with
    | nil =>
      intro m _
      rfl
    | cons e rest ih =>
      intro m nodup
      obtain ⟨fresh, nodup⟩ := nodupKeys_cons.mp nodup
      rw [foldl_cons, ih _ nodup, lookup_insert_eq]
      by_cases same : role = e.1
      · subst same
        rw [dlookup_cons_eq, dlookup_eq_none.mpr fresh, if_pos rfl]
        rfl
      · rw [dlookup_cons_ne _ _ same, if_neg same]
  exact listed answers.entries requests answers.nodupKeys

variable {input : RoomInput} (distinct : (input.participants.map (·.role)).Nodup)
include distinct

variable {p : Participant}

theorem lookup_original (listed : p ∈ input.participants) :
    (originalRequests input).lookup p.role = some p.originalAtoms := by
  have absent : ∀ (items : List Participant) (m : Requests) (role : Role), role ∉ items.map (·.role) →
      (items.foldl (fun m p => m.insert p.role p.originalAtoms) m).lookup role = m.lookup role := by
    intro items
    induction items with
    | nil =>
      intro m role _
      rfl
    | cons first rest ih =>
      intro m role fresh
      obtain ⟨other, fresh⟩ := not_or.mp (mt mem_cons.mpr fresh)
      rw [foldl_cons, ih _ _ fresh, lookup_insert_eq, if_neg other]
  have present : ∀ (items : List Participant) (m : Requests), (items.map (·.role)).Nodup → p ∈ items →
      (items.foldl (fun m p => m.insert p.role p.originalAtoms) m).lookup p.role = some p.originalAtoms := by
    intro items
    induction items with
    | nil => intro m _ listed; cases listed
    | cons first rest ih =>
      intro m nodup listed
      obtain ⟨fresh, nodup⟩ := nodup_cons.mp nodup
      rcases mem_cons.mp listed with rfl | listed
      · rw [foldl_cons, absent _ _ _ fresh, lookup_insert_eq, if_pos rfl]
      · exact ih _ nodup listed
  exact present _ _ distinct listed

theorem same_participant {q : Participant} (listed : p ∈ input.participants) (listed' : q ∈ input.participants)
    (same : p.role = q.role) : p = q := inj_on_of_nodup_map distinct listed listed' same

end Requests

variable {reply : Option Plain.Fields} {d : NegotiationDecision}

theorem parseNegotiation_ok
    (ok : parseNegotiation reply r = .ok d) : d.newAtoms = r.yourCurrentAtoms ∨ d.newAtoms = 0 ∨
      (0 < d.newAtoms ∧ d.newAtoms < r.yourCurrentAtoms ∧ r.yourMinimumAtoms ≤ d.newAtoms) := by
  cases reply with
  | none => cases ok
  | some o =>
    obtain ⟨_, _, ok⟩ := except_bind_success ok
    obtain ⟨action, _, ok⟩ := except_bind_success ok
    obtain ⟨why, _, ok⟩ := except_bind_success ok
    obtain ⟨atoms, _, ok⟩ := except_bind_success ok
    unfold decided at ok
    cases action with
    | keep | abstain =>
      dsimp only at ok
      split at ok
      · cases ok
      · obtain rfl := Except.ok.inj ok
        exact .inl rfl
    | release =>
      dsimp only at ok
      split at ok
      · cases ok
      · obtain rfl := Except.ok.inj ok
        exact .inr (.inl rfl)
    | reduce =>
      cases atoms with
      | none => cases ok
      | some a =>
        dsimp only at ok
        split at ok
        · cases ok
        · rename_i inside
          split at ok
          · cases ok
          · rename_i enough
            obtain rfl := Except.ok.inj ok
            obtain ⟨above, below⟩ := not_or.mp inside
            exact .inr (.inr ⟨not_le.mp above, not_le.mp below, not_lt.mp enough⟩)

def Allowed (p : Participant) (v : Int) : Prop :=
  v = p.originalAtoms ∨ v = 0 ∨ (p.minimumAtoms ≤ v ∧ v < p.originalAtoms)

theorem Allowed.answer {p : Participant} {v : Int} (allowed : Allowed p v) (positive : 0 < v)
    (current : r.yourCurrentAtoms = v) (minimum : r.yourMinimumAtoms = if p.minimumAtoms < v then p.minimumAtoms else v) (ok : parseNegotiation reply r = .ok d) :
    Allowed p d.newAtoms ∧ 0 ≤ d.newAtoms ∧ d.newAtoms ≤ v := by
  rcases parseNegotiation_ok ok with same | zero | ⟨above, below, enough⟩
  · rw [same, current]
    exact ⟨allowed, positive.le, le_refl v⟩
  · rw [zero]
    exact ⟨.inr (.inl rfl), le_refl 0, positive.le⟩
  · rw [current] at below
    rw [minimum] at enough
    refine ⟨.inr (.inr ⟨?_, ?_⟩), above.le, below.le⟩
    · split at enough <;> omega
    · rcases allowed with whole | none | ⟨_, less⟩ <;> omega

section Runs
variable (input : RoomInput)

/-- A participant's own valid reply, to a generation that was current and not yet decided to close. -/
def Consented (log : List (LiveRoom × RoomLabel)) (generation : Nat) (role : Role) (v : Int) : Prop :=
  ∃ before reply call decision, (before, RoomLabel.arrive generation role (.response reply)) ∈ log ∧
    before.gate.classify input.roomId generation = .current ∧ before.round.closed = none ∧ call ∈ before.calls ∧
    call.generation = generation ∧ call.role = role ∧ role ∈ input.askable ∧
    parseNegotiation reply call.request = .ok decision ∧ decision.newAtoms = v

variable {generation : Nat} {role : Role}

theorem Consented.extend {input : RoomInput} {log more : List (LiveRoom × RoomLabel)} {v : Int}
    (consented : Consented input log generation role v) : Consented input (log ++ more) generation role v := by
  obtain ⟨before, reply, call, decision, listed, rest⟩ := consented
  exact ⟨before, reply, call, decision, mem_append_left _ listed, rest⟩

structure Sound (log : List (LiveRoom × RoomLabel)) (room : LiveRoom) : Prop where
  generations : room.gate.generation ≤ input.maxGenerations
  requested : ∀ p ∈ input.participants, ∃ v, room.requests.lookup p.role = some v ∧ Allowed p v ∧
    (v ≠ p.originalAtoms → ∃ generation, Consented input log generation p.role v)
  asked : ∀ call ∈ room.calls, call.generation ≤ room.gate.generation ∧ call.role ∈ input.askable
  ended : ∀ r, room.result = some r → room.gate.finalized = true ∧ r.requests = room.requests ∧
    (r.status = .proposed → r.fit = input.fit r.requests ∧ r.fit.feasible = true)

/-- What holds while it waits: what its calls and answers are about is the requests as they are. -/
structure Waiting (log : List (LiveRoom × RoomLabel)) (room : LiveRoom) : Prop where
  counted : room.gate.generation = room.g + 1 ∧ room.g < input.maxGenerations
  listening : room.gate.finalized = false
  named : room.gate.roomId = input.roomId
  asked : ∀ call ∈ room.calls, call.generation = room.gate.generation → ∃ p ∈ input.participants, call.role = p.role ∧
    ∃ v, room.requests.lookup p.role = some v ∧ 0 < v ∧ call.request.yourCurrentAtoms = v ∧
      call.request.yourMinimumAtoms = if p.minimumAtoms < v then p.minimumAtoms else v
  answers : ∀ role d, room.round.answers.lookup role = some d →
    Consented input log room.gate.generation role d.newAtoms ∧ ∃ p ∈ input.participants, role = p.role ∧
      ∃ v, room.requests.lookup role = some v ∧ 0 < v ∧ Allowed p d.newAtoms ∧ 0 ≤ d.newAtoms ∧ d.newAtoms ≤ v

structure Paused (log : List (LiveRoom × RoomLabel)) (room : LiveRoom) : Prop where
  sound : Sound input log room
  counted : room.gate.generation = room.g ∧ room.g ≤ input.maxGenerations
  unfinished : room.result = none ∧ room.gate.finalized = false
  named : room.gate.roomId = input.roomId

variable {input} {log : List (LiveRoom × RoomLabel)} {room after : LiveRoom}

theorem tryClose_answers (requests : Requests) (round : Round) : (tryClose input requests round).answers = round.answers := by
  unfold tryClose
  split
  · rfl
  · split
    · rfl
    · split <;> rfl

theorem Sound.extend (sound : Sound input log room) (more : List (LiveRoom × RoomLabel)) : Sound input (log ++ more) room where
  generations := sound.generations
  requested p listed := by
    obtain ⟨v, found, allowed, why⟩ := sound.requested p listed
    exact ⟨v, found, allowed, fun changed => (why changed).imp fun _ => Consented.extend⟩
  asked := sound.asked
  ended := sound.ended

theorem Sound.finish (sound : Sound input log room) (status : RoomStatus)
    (fits : status = .proposed → (input.fit room.requests).feasible = true) :
    Sound input log (finish input room status (input.fit room.requests)) where
  generations := sound.generations
  requested := sound.requested
  asked := sound.asked
  ended := by
    intro r same
    obtain rfl := some.inj same
    exact ⟨rfl, rfl, fun proposed => ⟨rfl, fits proposed⟩⟩

variable {p : Participant}

theorem requestFor_asked (requests : Requests) (generation : Nat)
    (listed : p ∈ activeIn input requests) (known : ∃ v, requests.lookup p.role = some v) :
    p ∈ input.participants ∧ p.role ∈ input.askable ∧ ∃ v, requests.lookup p.role = some v ∧ 0 < v ∧
      (requestFor input requests (input.fit requests) (activeIn input requests) generation p).yourCurrentAtoms = v ∧
      (requestFor input requests (input.fit requests) (activeIn input requests) generation p).yourMinimumAtoms =
        if p.minimumAtoms < v then p.minimumAtoms else v := by
  obtain ⟨member, chosen⟩ := mem_filter.mp listed
  simp only [Bool.and_eq_true, decide_eq_true_eq, contains_iff_mem] at chosen
  obtain ⟨v, found⟩ := known
  have positive : 0 < v := by simpa [found] using chosen.1
  exact ⟨member, chosen.2, v, found, positive, by simp [requestFor, found], by simp [requestFor, found]⟩

theorem beginGeneration_requests (begun : beginGeneration input room = some after) : after.requests = room.requests := by
  unfold beginGeneration at begun
  split at begun
  · split at begun
    · obtain rfl := some.inj begun
      rfl
    · obtain ⟨gate, _, begun⟩ := bind_eq_some_iff.mp begun
      obtain rfl := some.inj begun
      rfl
  · obtain rfl := some.inj begun
    rfl

theorem Paused.begin_calls (paused : Paused input log room) (begun : beginGeneration input room = some after) :
    ∀ call ∈ after.calls, call ∈ room.calls ∨ (after.gate.generation = room.gate.generation + 1 ∧
      call.generation = room.gate.generation + 1 ∧ call.role ∈ input.askable ∧
      ∃ p ∈ input.participants, call.role = p.role ∧ ∃ v, room.requests.lookup p.role = some v ∧ 0 < v ∧
        call.request.yourCurrentAtoms = v ∧
          call.request.yourMinimumAtoms = if p.minimumAtoms < v then p.minimumAtoms else v) := by
  unfold beginGeneration at begun
  split at begun
  · split at begun
    · obtain rfl := some.inj begun
      exact fun call listed => .inl listed
    · obtain ⟨gate, opened, begun⟩ := bind_eq_some_iff.mp begun
      obtain rfl := some.inj begun
      rw [GenerationGate.openNext, paused.unfinished.2, if_neg Bool.false_ne_true] at opened
      obtain rfl := some.inj opened
      intro call listed
      rcases mem_append.mp listed with listed | listed
      · exact .inl listed
      · obtain ⟨p, active, rfl⟩ := mem_map.mp listed
        have known : ∃ v, room.requests.lookup p.role = some v :=
          (paused.sound.requested p (mem_filter.mp active).1).imp fun _ found => found.1
        obtain ⟨member, askable, rest⟩ := requestFor_asked room.requests (room.gate.generation + 1) active known
        exact .inr ⟨rfl, rfl, askable, p, member, rfl, rest⟩
  · obtain rfl := some.inj begun
    exact fun call listed => .inl listed

theorem Paused.begin (paused : Paused input log room) (begun : beginGeneration input room = some after) :
    Sound input log after ∧ (after.result = none → Waiting input log after) := by
  have calls := paused.begin_calls begun
  unfold beginGeneration at begun
  split at begun
  · rename_i more
    split at begun
    · obtain rfl := some.inj begun
      exact ⟨paused.sound.finish _ nofun, nofun⟩
    · obtain ⟨gate, opened, begun⟩ := bind_eq_some_iff.mp begun
      obtain rfl := some.inj begun
      rw [GenerationGate.openNext, paused.unfinished.2, if_neg Bool.false_ne_true] at opened
      obtain rfl := some.inj opened
      have counted := paused.counted.1
      refine ⟨⟨?_, paused.sound.requested, fun call listed => ?_, fun r same => ?_⟩, fun _ => ⟨?_, rfl, paused.named, ?_, ?_⟩⟩
      · change room.gate.generation + 1 ≤ input.maxGenerations
        omega
      · rcases calls call listed with listed | ⟨_, now, askable, _⟩
        · obtain ⟨earlier, askable⟩ := paused.sound.asked call listed
          exact ⟨earlier.trans (Nat.le_succ _), askable⟩
        · exact ⟨now.le, askable⟩
      · exact absurd (paused.unfinished.1.symm.trans same) nofun
      · exact ⟨congrArg (· + 1) counted, more⟩
      · intro call listed now
        rcases calls call listed with listed | ⟨_, _, _, rest⟩
        · have earlier := (paused.sound.asked call listed).1
          rw [now] at earlier
          exact absurd earlier (Nat.not_succ_le_self _)
        · exact rest
      · intro role d found
        rw [tryClose_answers] at found
        cases found
  · obtain rfl := some.inj begun
    exact ⟨paused.sound.finish _ nofun, nofun⟩

variable {aborted : Bool}

theorem startRoom_sound (distinct : (input.participants.map (·.role)).Nodup)
    (started : startRoom input aborted = some room) :
    Sound input [] room ∧ (room.result = none → Waiting input [] room) := by
  refine Paused.begin ⟨⟨Nat.zero_le _, fun p listed => ?_, fun _ listed => absurd listed not_mem_nil,
    fun _ same => absurd same.symm (Option.some_ne_none _)⟩, ⟨rfl, Nat.zero_le _⟩, ⟨rfl, rfl⟩, rfl⟩ started
  exact ⟨p.originalAtoms, lookup_original distinct listed, .inl rfl, fun changed => absurd rfl changed⟩

theorem Waiting.answered (distinct : (input.participants.map (·.role)).Nodup) (sound : Sound input log room)
    (waiting : Waiting input log room) (listed : p ∈ input.participants) :
    ∃ v w, room.requests.lookup p.role = some v ∧ (answered room.requests room.round.answers).lookup p.role = some w ∧
      Allowed p w ∧ w ≤ v ∧ (v = 0 → w = 0) ∧
      (w = v ∨ Consented input log room.gate.generation p.role w) := by
  obtain ⟨v, found, allowed, _⟩ := sound.requested p listed
  rw [lookup_answered]
  cases answer : room.round.answers.lookup p.role with
  | none => exact ⟨v, v, found, found, allowed, le_refl v, id, .inl rfl⟩
  | some d =>
    obtain ⟨consented, q, member, same, u, found', positive, allowed', low, less⟩ := waiting.answers p.role d answer
    obtain rfl := same_participant distinct listed member same
    obtain rfl := some.inj (found.symm.trans found')
    exact ⟨v, d.newAtoms, found, rfl, allowed', less, fun zero => by omega, .inr consented⟩

theorem Sound.resume (distinct : (input.participants.map (·.role)).Nodup) (sound : Sound input log room)
    (waiting : Waiting input log room) (unfinished : room.result = none) (g : Nat) : Sound input log { room with
      gate := room.gate.closeGeneration, requests := answered room.requests room.round.answers, g } where
  generations := sound.generations
  requested p listed := by
    obtain ⟨v, w, found, taken, allowed, _, _, why⟩ := waiting.answered distinct sound listed
    obtain ⟨v', found', _, earlier⟩ := sound.requested p listed
    obtain rfl := some.inj (found.symm.trans found')
    refine ⟨w, taken, allowed, fun changed => ?_⟩
    rcases why with rfl | consented
    · exact earlier changed
    · exact ⟨_, consented⟩
  asked := sound.asked
  ended r same := absurd (unfinished.symm.trans same) nofun

structure SameCourse (room after : LiveRoom) : Prop where
  gate : after.gate = room.gate
  g : after.g = room.g
  aborted : after.aborted = room.aborted
  requests : after.requests = room.requests
  round : after.round = room.round
  result : after.result = room.result

theorem Sound.same (sound : Sound input log room) (same : SameCourse room after)
    (calls : ∀ call ∈ after.calls, call ∈ room.calls) : Sound input log after where
  generations := by rw [same.gate]; exact sound.generations
  requested := by rw [same.requests]; exact sound.requested
  asked call listed := by rw [same.gate]; exact sound.asked call (calls call listed)
  ended := by rw [same.result, same.gate, same.requests]; exact sound.ended

theorem Waiting.same (waiting : Waiting input log room) (same : SameCourse room after)
    (calls : ∀ call ∈ after.calls, call ∈ room.calls) : Waiting input log after where
  counted := by rw [same.gate, same.g]; exact waiting.counted
  listening := by rw [same.gate]; exact waiting.listening
  named := by rw [same.gate]; exact waiting.named
  asked call listed := by rw [same.gate, same.requests]; exact waiting.asked call (calls call listed)
  answers := by rw [same.round, same.gate, same.requests]; exact waiting.answers

theorem Waiting.extend (waiting : Waiting input log room) (more : List (LiveRoom × RoomLabel)) :
    Waiting input (log ++ more) room where
  counted := waiting.counted
  listening := waiting.listening
  named := waiting.named
  asked := waiting.asked
  answers role d found := by
    obtain ⟨consented, rest⟩ := waiting.answers role d found
    exact ⟨consented.extend, rest⟩

/-- What one step may do to the requests, to the calls and, if it is a reply that came too late, at all. -/
structure StepSound (input : RoomInput) (earlier : List (LiveRoom × RoomLabel)) (before : LiveRoom) (label : RoomLabel)
    (after : LiveRoom) : Prop where
  requests : ∀ p ∈ input.participants, ∃ v w, before.requests.lookup p.role = some v ∧
    after.requests.lookup p.role = some w ∧ w ≤ v ∧ (v = 0 → w = 0) ∧
      (w = v ∨ (label = .resume ∧ Consented input earlier before.gate.generation p.role w))
  calls : ∀ call ∈ after.calls, call ∈ before.calls ∨ (call.generation = before.gate.generation + 1 ∧
    ∃ v, after.requests.lookup call.role = some v ∧ 0 < v)
  unheard : ∀ generation role arrival, label = .arrive generation role arrival →
    before.gate.classify input.roomId generation ≠ .current ∨ before.round.closed ≠ none → SameCourse before after
  late : ∀ generation role reply, label = .late generation role reply → SameCourse before after

theorem StepSound.kept {label : RoomLabel} (sound : Sound input log room) (requests : after.requests = room.requests)
    (calls : ∀ call ∈ after.calls, call ∈ room.calls)
    (unheard : ∀ generation role arrival, label = .arrive generation role arrival →
      room.gate.classify input.roomId generation ≠ .current ∨ room.round.closed ≠ none → SameCourse room after)
    (late : ∀ generation role reply, label = .late generation role reply → SameCourse room after) :
    StepSound input log room label after where
  requests p listed := by
    obtain ⟨v, found, _⟩ := sound.requested p listed
    exact ⟨v, v, found, by rw [requests]; exact found, le_refl v, id, .inl rfl⟩
  calls call listed := .inl (calls call listed)
  unheard := unheard
  late := late

variable {arrival : Arrival} {call : Call} {reply : Option Plain.Fields}

theorem settle_taken {d : NegotiationDecision}
    (sound : Sound input log room) (waiting : Waiting input log room) (listed : call ∈ room.calls)
    (current : room.gate.classify input.roomId call.generation = .current) (undecided : room.round.closed = none)
    (answer : arrival = .response reply) (valid : parseNegotiation reply call.request = .ok d) :
    Consented input (log ++ [(room, .arrive call.generation call.role arrival)]) room.gate.generation call.role d.newAtoms ∧
      ∃ p ∈ input.participants, call.role = p.role ∧ ∃ v, room.requests.lookup call.role = some v ∧ 0 < v ∧
        Allowed p d.newAtoms ∧ 0 ≤ d.newAtoms ∧ d.newAtoms ≤ v := by
  have now : call.generation = room.gate.generation := by
    unfold GenerationGate.classify at current
    split at current
    · cases current
    · split at current
      · rename_i here
        exact here.2.2
      · cases current
  obtain ⟨p, member, same, v, found, positive, own, minimum⟩ := waiting.asked call listed now
  obtain ⟨v', found', allowed, _⟩ := sound.requested p member
  obtain rfl := some.inj (found.symm.trans found')
  obtain ⟨allowed', low, less⟩ := allowed.answer positive own minimum valid
  refine ⟨?_, p, member, same, v, by rw [same]; exact found, positive, allowed', low, less⟩
  subst answer
  rw [← now]
  exact ⟨room, reply, call, d, by simp, current, undecided, listed, rfl, rfl, (sound.asked call listed).2, valid, rfl⟩

/-- What holds of a Room after a run, whether it is finished or waits. -/
def Holds (input : RoomInput) (log : List (LiveRoom × RoomLabel)) (room : LiveRoom) : Prop :=
  Sound input log room ∧ (room.result = none → Waiting input log room)

theorem Holds.same (holds : Holds input log room) (same : SameCourse room after)
    (calls : ∀ call ∈ after.calls, call ∈ room.calls) (more : List (LiveRoom × RoomLabel)) : Holds input (log ++ more) after :=
  ⟨(holds.1.same same calls).extend more, fun unfinished =>
    ((holds.2 (same.result.symm.trans unfinished)).same same calls).extend more⟩

theorem Holds.abort (holds : Holds input log room) (taken : next input room .abort = some after) :
    Holds input (log ++ [(room, .abort)]) after ∧ StepSound input log room .abort after := by
  obtain rfl := some.inj taken
  refine ⟨⟨⟨holds.1.generations, (holds.1.extend _).requested, holds.1.asked, holds.1.ended⟩, fun unfinished => ?_⟩,
    .kept holds.1 rfl (fun _ listed => listed) nofun nofun⟩
  have waiting : Waiting input (log ++ [(room, .abort)]) room := (holds.2 unfinished).extend _
  refine ⟨waiting.counted, waiting.listening, waiting.named, waiting.asked, fun role d found => ?_⟩
  refine waiting.answers role d ?_
  dsimp only at found
  split at found <;> exact found

theorem Holds.late (holds : Holds input log room)
    (taken : next input room (.late generation role reply) = some after) :
    Holds input (log ++ [(room, .late generation role reply)]) after ∧
      StepSound input log room (.late generation role reply) after := by
  obtain ⟨call, _, taken⟩ := bind_eq_some_iff.mp taken
  obtain rfl := some.inj taken
  have same : SameCourse room (ignored input { room with expired := room.expired.erase call } call
      (outcomeOf call.request (.response reply)) true) := ⟨rfl, rfl, rfl, rfl, rfl, rfl⟩
  exact ⟨holds.same same (fun _ listed => listed) _,
    .kept holds.1 rfl (fun _ listed => listed) nofun fun _ _ _ _ => same⟩

theorem Holds.heard (holds : Holds input log room) (listed : call ∈ room.calls)
    (current : room.gate.classify input.roomId call.generation = .current) (undecided : room.round.closed = none)
    {round : Round} {calls expired : List Call} {replies : List ReplyRecord} (fewer : ∀ c ∈ calls, c ∈ room.calls)
    (answers : round.answers = match outcomeOf call.request arrival with
      | .responded value => room.round.answers.insert call.role value
      | _ => room.round.answers) :
    Holds input (log ++ [(room, .arrive call.generation call.role arrival)]) { room with round, calls, expired, replies } := by
  have unfinished : room.result = none := by
    cases ended : room.result with
    | none => rfl
    | some r =>
      rw [GenerationGate.classify, (holds.1.ended r ended).1, if_pos rfl] at current
      cases current
  have waiting := holds.2 unfinished
  refine ⟨⟨holds.1.generations, (holds.1.extend _).requested, fun c member => holds.1.asked c (fewer c member),
    holds.1.ended⟩, fun _ => ⟨waiting.counted, waiting.listening, waiting.named,
      fun c member => waiting.asked c (fewer c member), fun role d found => ?_⟩⟩
  have kept := (waiting.extend [(room, RoomLabel.arrive call.generation call.role arrival)]).answers
  dsimp only at found
  rw [answers] at found
  cases outcome : outcomeOf call.request arrival with
  | responded value =>
    rw [outcome] at found
    dsimp only at found
    rw [lookup_insert_eq] at found
    split at found
    · rename_i same
      subst same
      obtain rfl := some.inj found
      obtain ⟨reply, answer, valid⟩ := outcomeOf_responded outcome
      exact settle_taken holds.1 waiting listed current undecided answer valid
    · exact kept role d found
  | timedOut | failed | invalidResponse _ => rw [outcome] at found; exact kept role d found

theorem Holds.arrive (holds : Holds input log room)
    (taken : next input room (.arrive generation role arrival) = some after) :
    Holds input (log ++ [(room, .arrive generation role arrival)]) after ∧
      StepSound input log room (.arrive generation role arrival) after := by
  obtain ⟨call, found, done⟩ := bind_eq_some_iff.mp taken
  have listed := mem_of_find?_eq_some found
  obtain ⟨rfl, rfl⟩ : call.generation = generation ∧ call.role = role := by simpa using find?_some found
  have fewer : ∀ c ∈ room.calls.erase call, c ∈ room.calls := fun c => mem_of_mem_erase
  unfold settle at done
  dsimp only at done
  split at done
  · obtain rfl := some.inj done
    refine ⟨holds.same ?_ fewer _, .kept holds.1 rfl fewer (fun _ _ _ _ _ => ?_) nofun⟩
    · exact ⟨rfl, rfl, rfl, rfl, rfl, rfl⟩
    · exact ⟨rfl, rfl, rfl, rfl, rfl, rfl⟩
  · rename_i heard
    obtain ⟨current, undecided⟩ := not_or.mp heard
    have current := not_not.mp current
    have undecided : room.round.closed = none := by simpa using undecided
    obtain rfl := some.inj done
    refine ⟨holds.heard listed current undecided fewer ?_, .kept holds.1 rfl fewer ?_ nofun⟩
    · rw [tryClose_answers]
      cases outcomeOf call.request arrival <;> rfl
    · intro generation role arrival' same unheard
      obtain ⟨rfl, rfl, rfl⟩ := RoomLabel.arrive.inj same
      exact absurd unheard (not_or.mpr ⟨not_not.mpr current, not_not.mpr undecided⟩)

theorem Holds.resume (distinct : (input.participants.map (·.role)).Nodup) (holds : Holds input log room)
    (taken : next input room .resume = some after) :
    Holds input (log ++ [(room, .resume)]) after ∧ StepSound input log room .resume after := by
  obtain ⟨sound, waits⟩ := holds
  simp only [next] at taken
  unfold Live.resume at taken
  split at taken
  · rename_i reason unfinished closed
    have waiting := waits unfinished
    have fresh := fun g => sound.resume distinct waiting unfinished g
    have requests : ∀ {after : LiveRoom}, after.requests = answered room.requests room.round.answers →
        ∀ p ∈ input.participants, ∃ v w, room.requests.lookup p.role = some v ∧ after.requests.lookup p.role = some w ∧
          w ≤ v ∧ (v = 0 → w = 0) ∧
            (w = v ∨ (RoomLabel.resume = .resume ∧ Consented input log room.gate.generation p.role w)) := by
      intro after same p listed
      obtain ⟨v, w, found, taken, _, less, zero, why⟩ := waiting.answered distinct sound listed
      exact ⟨v, w, found, by rw [same]; exact taken, less, zero, why.imp_right fun consented => ⟨rfl, consented⟩⟩
    dsimp only at taken
    split at taken
    · obtain rfl := some.inj taken
      exact ⟨⟨((fresh room.g).finish .superseded nofun).extend _, nofun⟩, requests rfl, fun _ listed => .inl listed, nofun, nofun⟩
    · split at taken
      · rename_i fits
        obtain rfl := some.inj taken
        exact ⟨⟨((fresh room.g).finish _ fun _ => fits).extend _, nofun⟩, requests rfl, fun _ listed => .inl listed, nofun, nofun⟩
      · have paused : Paused input log { room with
            gate := room.gate.closeGeneration
            requests := answered room.requests room.round.answers
            g := room.g + 1 } :=
          ⟨fresh _, ⟨waiting.counted.1, waiting.counted.2⟩, ⟨unfinished, waiting.listening⟩, waiting.named⟩
        obtain ⟨sound', waits'⟩ := paused.begin taken
        refine ⟨⟨sound'.extend _, fun unfinished => (waits' unfinished).extend _⟩,
          requests (beginGeneration_requests taken), fun call listed => ?_, nofun, nofun⟩
        rcases paused.begin_calls taken call listed with old | ⟨_, now, _, p, _, same, v, found, positive, _⟩
        · exact .inl old
        · refine .inr ⟨now, v, ?_, positive⟩
          rw [beginGeneration_requests taken, same]
          exact found
  · cases taken

theorem Holds.step (distinct : (input.participants.map (·.role)).Nodup) (holds : Holds input log room) {label : RoomLabel}
    (taken : RoomStep input room label after) :
    Holds input (log ++ [(room, label)]) after ∧ StepSound input log room label after := by
  cases label with
  | abort => exact holds.abort taken
  | arrive generation role arrival => exact holds.arrive taken
  | late generation role reply => exact holds.late taken
  | resume => exact holds.resume distinct taken

/-- Once a request is 0 it stays 0, and its agent is not asked in a later generation. -/
def Released (input : RoomInput) (log : List (LiveRoom × RoomLabel)) (room : LiveRoom) : Prop :=
  ∀ earlier ∈ log, ∀ p ∈ input.participants, earlier.1.requests.lookup p.role = some 0 →
    room.requests.lookup p.role = some 0 ∧
      ∀ call ∈ room.calls, call.role = p.role → call.generation ≤ earlier.1.gate.generation

theorem Released.step {label : RoomLabel} (released : Released input log room) (sound : Sound input log room)
    (step : StepSound input log room label after) : Released input (log ++ [(room, label)]) after := by
  have onward : ∀ p ∈ input.participants, room.requests.lookup p.role = some 0 → ∀ bound,
      (∀ call ∈ room.calls, call.role = p.role → call.generation ≤ bound) → after.requests.lookup p.role = some 0 ∧
        ∀ call ∈ after.calls, call.role = p.role → call.generation ≤ bound := by
    intro p member zero bound below
    obtain ⟨v, w, found, taken, _, stays, _⟩ := step.requests p member
    obtain rfl := some.inj (zero.symm.trans found)
    obtain rfl := stays rfl
    refine ⟨taken, fun call listed same => ?_⟩
    rcases step.calls call listed with old | ⟨_, v, found, positive⟩
    · exact below call old same
    · rw [same, taken] at found
      exact absurd (some.inj found) positive.ne
  intro earlier listed p member zero
  rcases mem_append.mp listed with listed | listed
  · obtain ⟨now, below⟩ := released earlier listed p member zero
    exact onward p member now _ below
  · obtain rfl := mem_singleton.mp listed
    exact onward p member zero _ fun call listed _ => (sound.asked call listed).1

theorem run_holds (distinct : (input.participants.map (·.role)).Nodup) {start : LiveRoom}
    (started : startRoom input aborted = some start) (run : Trace (RoomStep input) start log room) :
    Holds input log room ∧ Released input log room := by
  refine run.history (fun log room => Holds input log room ∧ Released input log room)
    ⟨startRoom_sound distinct started, fun _ listed => absurd listed not_mem_nil⟩ ?_
  intro log before label after _ held taken
  obtain ⟨holds, released⟩ := held
  obtain ⟨holds', step⟩ := holds.step distinct taken
  exact ⟨holds', released.step holds.1 step⟩

/-- The Room always opens; in every run, at any time: at most so many generations; every request as it was
made, 0, or less but not below its minimum, and then by its agent's own valid reply to a generation that
was current and undecided; what is proposed fits; each step changes requests only so; a request at 0
stays there and is not asked about again. -/
theorem liveRoom_consented (input : RoomInput) (aborted : Bool) (distinct : (input.participants.map (·.role)).Nodup) :
    ∃ start, startRoom input aborted = some start ∧
      ∀ log room, Trace (RoomStep input) start log room → Sound input log room ∧ Released input log room ∧
        ∀ earlier before label later, log = earlier ++ (before, label) :: later →
          ∃ after, RoomStep input before label after ∧ StepSound input earlier before label after := by
  obtain ⟨start, started⟩ : ∃ start, startRoom input aborted = some start := by
    unfold startRoom beginGeneration
    split
    · split
      · exact ⟨_, rfl⟩
      · exact ⟨_, rfl⟩
    · exact ⟨_, rfl⟩
  refine ⟨start, started, fun log room run => ?_⟩
  obtain ⟨holds, released⟩ := run_holds distinct started run
  refine ⟨holds.1, released, fun earlier before label later parts => ?_⟩
  obtain ⟨after, prior, taken, _⟩ := run.split parts
  exact ⟨after, taken, ((run_holds distinct started prior).1.step distinct taken).2⟩

end Runs

section Sample

def sampleAvailability : ResourceAvailability := ⟨0, [⟨NOTIONAL, 50⟩], ∅, []⟩

/-- Two agents ask for 40 and 30 of 50; only the first is asked to negotiate. -/
def sampleInput : RoomInput where
  roomId := "room"
  maxGenerations := 2
  participants := [⟨.stock, ⟨"a", .refl true⟩, ⟨"c", "t", 10, true⟩, 0, 40, 10⟩, ⟨.swap, ⟨"b", .refl true⟩, ⟨"d", "u", 10, true⟩, 0, 30, 10⟩]
  askable := [.stock]
  availability := sampleAvailability
  demandAt := fun _ atoms => if atoms = 0 then [] else [⟨NOTIONAL, atoms⟩]

theorem liveRoom_consented_sample : ∃ start, startRoom sampleInput false = some start ∧
    ∀ log room, Trace (RoomStep sampleInput) start log room → Sound sampleInput log room ∧ Released sampleInput log room ∧
      ∀ earlier before label later, log = earlier ++ (before, label) :: later →
        ∃ after, RoomStep sampleInput before label after ∧ StepSound sampleInput earlier before label after :=
  liveRoom_consented sampleInput false (by decide)

def sampleReply : Plain.Fields := [("action", .text "REDUCE"), ("newRequestedAtoms", .text "20"), ("rationale", .text "")]

example : ((startRoom sampleInput false).bind fun start =>
    (replay (next sampleInput) start [.arrive 1 .stock (.response (some sampleReply)), .resume]).map
      fun run => (run.2.result.map (·.status), run.2.requests.lookup .stock, run.2.requests.lookup .swap)) =
    some (some .proposed, some 20, some 30) := by decide +kernel

end Sample

end Mandate.Live
