import Mandate.Control.Admission

/-! Coverage: whether the effective authority covers the action at all. Closed world: what the
authority lacks it does not grant, and a bound without a value is not passed. -/
namespace Mandate.Control
open Core Ledger

def vocabulary (e : EffectiveAuthority) (v : SetVocabulary) : Option SetConstraintTerm :=
  e.sets.find? fun s => s.vocabulary == v

/-- Accounts and proposals are scoped by state and demands, not by a set. -/
def RESOURCE_VOCABULARY : ResourceKind → Option ResourceVocabulary
  | .market => some .markets
  | .canonicalAsset | .representationAsset => some .assets
  | .venue => some .venues
  | .recipient => some .recipients
  | .account | .proposal => none

def vocabularyText : ResourceVocabulary → String
  | .markets => "MARKETS" | .assets => "ASSETS" | .venues => "VENUES" | .recipients => "RECIPIENTS"

def containsResource (r : ResourceId) : SetConstraintTerm → Bool
  | .resources _ set => set.members.any fun m => resourceIdsEqual m.1 r
  | _ => false

def containsAdapter (a : AdapterRef) : SetConstraintTerm → Bool
  | .adapters set => set.members.any fun m => adapterRefsEqual m a
  | _ => false

def containsActionType (domain actionType : Identifier) : SetConstraintTerm → Bool
  | .actionTypes set => set.members.any fun t => t.domain == domain && t.actionType == actionType
  | _ => false

def notCovered (reason path : String) : ControlResult Unit := refuse .actionNotCovered reason path

def touchedPath : Nat → String
  | 0 => "action.target"
  | index + 1 => atIndex "action.resources" index

/-- The target and then each resource: in the set of its vocabulary, where it has one. -/
def checkTouched (e : EffectiveAuthority) : List ResourceId → Nat → ControlResult Unit
  | [], _ => .ok ()
  | r :: rest, index =>
    match RESOURCE_VOCABULARY r.kind with
    | none => checkTouched e rest (index + 1)
    | some v =>
      if (vocabulary e v.toSet).any (containsResource r) then checkTouched e rest (index + 1)
      else notCovered (vocabularyText v ++ "_NOT_PERMITTED") (touchedPath index)

def rightText : Right → String
  | .openRisk => "OPEN_RISK" | .reduceRisk => "REDUCE_RISK" | .transferOut => "TRANSFER_OUT"
  | .delegate => "DELEGATE"

def checkRights (e : EffectiveAuthority) : List PlainRight → ControlResult Unit
  | [] => .ok ()
  | right :: rest =>
    if right ∈ e.rights then checkRights e rest
    else notCovered "RIGHT_NOT_GRANTED" ("rights." ++ rightText right.1)

def exceeds : BoundPolarity → Ordering → Bool
  | .max, order => order == .gt
  | .min, order => order == .lt

def checkEachBound (observations : List BoundObservation) : List PerActionBoundTerm → ControlResult Unit
  | [] => .ok ()
  | b :: rest =>
    match observations.find? fun x => x.boundId == b.boundId with
    | none => notCovered "BOUND_NOT_EVALUATED" ("bounds." ++ b.boundId.1)
    | some observed =>
      match compareBoundValues observed.value b.value with
      | none => notCovered "BOUND_INCOMPARABLE" ("bounds." ++ b.boundId.1)
      | some order =>
        if exceeds b.polarity order then notCovered "BOUND_EXCEEDED" ("bounds." ++ b.boundId.1)
        else checkEachBound observations rest

def windowOf (e : EffectiveAuthority) (domain : DomainId) : Option EffectiveTimeWindow :=
  e.timeWindows.find? fun w => w.domain == domain

def contains (w : EffectiveWindow) (time : Int) : Bool :=
  !w.empty && w.notBefore ≤ time && time < w.expiresAt

def checkWindow (e : EffectiveAuthority) (domain : DomainId) (time : Int) : ControlResult Unit :=
  if (windowOf e domain).all fun w => contains w.window time then .ok ()
  else notCovered "OUTSIDE_TIME_WINDOW" ("timeWindows." ++ domain.1)

def checkCoverage (e : EffectiveAuthority) (action : ActionEnvelope) (analysis : ActionAnalysis)
    (time : Int) : ControlResult Unit :=
  if !moduleAllowed e action.module then notCovered "MODULE_NOT_PERMITTED" "action.module"
  else if !(vocabulary e .adapters).any (containsAdapter action.adapter) then
    notCovered "ADAPTER_NOT_PERMITTED" "action.adapter"
  else if !(vocabulary e .actionTypes).any (containsActionType action.module.domainId action.actionType) then
    notCovered "ACTION_TYPE_NOT_PERMITTED" "action.actionType"
  else do
    checkTouched e (action.target :: action.resources.members.map (·.1)) 0
    checkRights e analysis.requiredRights
    checkEachBound analysis.bounds e.bounds
    checkWindow e action.module.domainId time

end Mandate.Control

/-! What is pending, what every participant projected, and what every invariant came to: the
facts of the active reservations, and the canonical records of projections and results. -/
namespace Mandate.Control
open Core Ledger Lib.Wire

section Facts

def effectOf (d : DemandRecord) : ReservationEffect :=
  ⟨d.contribution.quantity, d.contribution.market, d.contribution.account, d.consumed⟩

def factOf (r : ReservationRecord) : ReservationFact where
  reservation := r.id
  generation := r.generation
  action := r.action
  module := r.module
  implementation := r.implementation
  lineage := r.lineage
  committedAt := r.committedAt
  effects := r.demands.map effectOf

def orderedReservations (s : LedgerState) : List ReservationRecord :=
  (sortDigests s.reservations.keys).filterMap fun id => s.reservations.lookup id

def reservationFacts (s : LedgerState) (path : String) : ControlResult (List ReservationFact) :=
  let pending := (orderedReservations s).filter fun r => r.status == .active
  if MAX_RESERVATION_FACTS < pending.length then
    refuse .resourceBoundExceeded "TOO_MANY_OPEN_RESERVATIONS" path
  else .ok (pending.map factOf)

structure ScopedFacts where
  own : List ReservationFact
  foreign : List ReservationId

/-- What a module may interpret, and the reservations of its domain it cannot. -/
def factsFor (module : ModuleRef) (facts : List ReservationFact) : ScopedFacts where
  own := facts.filter fun f => moduleRefsEqual f.module module
  foreign := (facts.filter fun f => !moduleRefsEqual f.module module &&
    f.module.domainId == module.domainId).map (·.reservation)

end Facts

section Projections

def COMPONENT_CODE : FactComponent → Nat
  | .held => 1 | .pending => 2 | .proposed => 3

def writeFact (f : EconomicFact) : Writer :=
  writeU8 (COMPONENT_CODE f.component) ++ (writeQuantityBody f.quantity ++
    (writeNullable writeResourceOf f.market ++ (writeNullable writeResourceOf f.account ++
      (writeDigestList f.states ++ writeDigestList f.reservations))))

def writeInvariantFact (f : InvariantFact) : Writer :=
  writeStr f.factId.1 ++ (writeNullable writeResourceId f.subject ++ (writeMeasure f.value ++
    (writeDigestList f.states ++ writeDigestList f.reservations)))

def writeModuleProjection (p : ModuleProjection) : Writer :=
  writeCanonicalSet writeFact p.facts ++ (writeCanonicalSet writeInvariantFact p.invariantFacts ++
    (writeCanonicalSet writeResourceId p.resources ++
      (writeStrList ((p.assumptions.map (·.1)).insertionSort (· ≤ ·)) ++
        (writeU32 p.payload.length ++ Writer.raw p.payload))))

/-- One module's part of a projection, with exactly what it was given. -/
structure ParticipantProjection where
  module : ModuleRef
  implementation : ImplementationDigest
  acting : Bool
  states : List Digest32
  reservations : List ReservationId
  foreignPending : List ReservationId
  projection : ModuleProjection

structure ProjectionRecord where
  ledgerVersion : Nat
  participants : List ParticipantProjection

def writeParticipant (p : ParticipantProjection) : Writer :=
  writeModuleRef p.module ++ (writeDigest p.implementation.1 ++ (writeFlag p.acting ++
    (writeDigestList p.states ++ (writeDigestList p.reservations ++
      (writeDigestList p.foreignPending ++ writeModuleProjection p.projection)))))

def encodeProjectionRecord (r : ProjectionRecord) : Writer :=
  controlWriter ControlTag.PROJECTION ++ (writeU64 r.ledgerVersion ++
    (sortCanonical (fun p : ParticipantProjection => writeModuleRef p.module) r.participants).elim
      Writer.throw fun participants =>
        writeU16 participants.length ++ Writer.each writeParticipant participants)

def projectionDigest [Keccak] (r : ProjectionRecord) : Option Digest32 :=
  controlDigest (encodeProjectionRecord r)

end Projections

section Results

def ORIGIN_CODE : InvariantOrigin → Nat
  | .lineage => 1 | .policy => 2

def OUTCOME_CODE : InvariantOutcome → Nat
  | .holds => 1 | .violated => 2 | .unknown => 3

def writeEvaluator : Evaluator → Writer
  | .none => writeU8 0
  | .core => writeU8 1
  | .module m => writeU8 2 ++ writeModuleRef m

def writeInvariantResult (r : InvariantResult) : Writer :=
  writeU8 (ORIGIN_CODE r.origin) ++ (writeTerm (.stateInvariant r.term) ++
    (writeEvaluator r.evaluator ++ (writeU8 (OUTCOME_CODE r.outcome) ++ (writeStr r.reason ++
      (writeNullable writeMeasure r.observed ++ (writeNullable writeMeasure r.bound ++
        (writeDigestList r.states ++ (writeDigestList r.reservations ++
          (writeDigest r.projection ++ writeU64 r.ledgerVersion)))))))))

def canonicalResults (results : List InvariantResult) : Option (List InvariantResult) :=
  sortCanonical writeInvariantResult results

def invariantResultsDigest [Keccak] (results : List InvariantResult) : Option Digest32 :=
  (canonicalResults results).bind fun sorted =>
    controlDigest (controlWriter ControlTag.INVARIANT_RESULTS ++
      (writeU32 sorted.length ++ Writer.each writeInvariantResult sorted))

def Evaluator.ref : Evaluator → Option ModuleRef
  | .module m => some m
  | _ => Option.none

/-- A result as the refusal it causes; every result is attached, not only this one. -/
def failedInvariant (code : ControlCode) (sorted : List InvariantResult) (r : InvariantResult) :
    ControlResult Unit :=
  refuseWith { (refusal code r.reason ("invariants." ++ r.term.invariantId.1)).detailing
    (.invariants sorted) with module := r.evaluator.ref }

/-- Passed only if every result holds: any violation refuses first, then any unknown. -/
def invariantVerdict (results : List InvariantResult) : ControlResult Unit := do
  let sorted ← written (canonicalResults results)
  match sorted.find? fun r => r.outcome == .violated with
  | some violated => failedInvariant .invariantFailed sorted violated
  | none =>
    match sorted.find? fun r => r.outcome == .unknown with
    | some unknown => failedInvariant .invariantUnknown sorted unknown
    | none => .ok ()

end Results

end Mandate.Control
