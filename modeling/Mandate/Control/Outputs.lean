import Mandate.Control.Errors

/-! Canonical encodings of the control engine's records: tagged, big-endian, sets in the order
of their encoded bytes. A value that does not fit its field is asserted against. -/
set_option linter.dupNamespace false
namespace Mandate.Control
open Core Ledger Lib.Wire

namespace ControlTag
def STATE_PAYLOAD : String := "mandate-core/v1/state-payload/"
def CONTEXT : String := "mandate-core/v1/control/context"
def PROJECTION : String := "mandate-core/v1/control/projection"
def INVARIANT_RESULTS : String := "mandate-core/v1/control/invariant-results"
def CHARGE_PLAN : String := "mandate-core/v1/control/charge-plan"
def AUTHORIZATION : String := "mandate-core/v1/control/authorization"
def REVALIDATION : String := "mandate-core/v1/control/revalidation"
def NEVER_ISSUED : String := "mandate-core/v1/control/never-issued"
def AGGREGATE_PARAMS : String := "mandate-core/v1/control/aggregate-params"
def PRE_EXECUTION : String := "mandate-core/v1/control/pre-execution"
def PRE_EXECUTION_EVIDENCE : String := "mandate-core/v1/control/pre-execution-evidence"
end ControlTag

def controlWriter (tag : String) : Writer := taggedWriter tag

def controlDigest [Keccak] (writer : Writer) : Option Digest32 := writer.map keccakDigest

def statePayloadDigest [Keccak] (module : ModuleRef) (payload : Bytes) : Option Digest32 :=
  controlDigest (controlWriter ControlTag.STATE_PAYLOAD ++ (writeDigest module.moduleDigest.1 ++
    (writeU32 payload.length ++ Writer.raw payload)))

def writeMeasure : Measure → Writer
  | .quantity q => writeU8 1 ++ writeQuantityBody q
  | .ratio r => writeU8 2 ++ writeRatio r
  | .total kind unit decimals atoms => writeU8 3 ++ (writeStr (kindText kind) ++ (writeStr unit.1 ++
      (writeU8 decimals.1 ++ writeI256 atoms)))
  | .flag value => writeU8 4 ++ writeFlag value

variable {α : Type}

/-- The canonical order of a set; every item is encoded to be placed. -/
def sortCanonical (write : α → Writer) (items : List α) : Option (List α) :=
  if items.all fun item => (write item).isSome then some (sortEncoded write items) else none

def bytesLE (a b : Bytes) : Prop := (compareBytes a b).isLE = true

instance : DecidableRel bytesLE := fun _ _ => inferInstanceAs (Decidable (_ = true))

def writeCanonicalSet (write : α → Writer) (items : List α) : Writer :=
  (items.mapM write).bind fun encoded =>
    writeU32 encoded.length ++ Writer.raw (encoded.insertionSort bytesLE).flatten

def sortDigests (items : List Digest32) : List Digest32 :=
  items.insertionSort fun a b => a.toNat ≤ b.toNat

def digestSet (items : List Digest32) : List Digest32 := sortDigests items.dedup

/-- One item a key, where its key was first met; the last one given. -/
def lastOfEach {κ : Type} [DecidableEq κ] (key : α → κ) (items : List α) : List α :=
  items.foldl (fun kept item =>
    if kept.any fun k => key k == key item then kept.map fun k => if key k = key item then item else k
    else kept ++ [item]) []

def writeDigestList (items : List Digest32) : Writer :=
  writeU32 items.length ++ Writer.each writeDigest items

def writeStrList (items : List String) : Writer :=
  writeU32 items.length ++ Writer.each writeStr items

/-! What a module returns, taken apart and rebuilt through Core's validators: a fault of a module
can only be a refusal that names it. -/

def MAX_REQUIREMENTS : Nat := MAX_STATE_BINDINGS
def MAX_SUPPLIED_STATES : Nat := 2 * MAX_STATE_BINDINGS
def MAX_STATE_PAYLOAD_BYTES : Nat := MAX_ACTION_PAYLOAD_BYTES
def MAX_INVARIANTS : Nat := MAX_LINEAGE_LENGTH * MAX_GRANT_TERMS + MAX_POLICY_TERMS
def MAX_RESERVATION_FACTS : Nat := 4096
def MAX_PARTICIPANTS : Nat := 32
def MAX_PROJECTION_FACTS : Nat := 4 * MAX_RESERVATION_FACTS
def MAX_INVARIANT_FACTS : Nat := 1024
def MAX_ASSUMPTIONS : Nat := 64
def MAX_PROJECTION_PAYLOAD_BYTES : Nat := 1048576
def MAX_DEMANDS : Nat := MAX_PLAN_CONTRIBUTIONS
def MAX_PROJECTION_RESOURCES : Nat := 1024
def MAX_CONTEXT_ENTRIES : Nat := 4096

section Calls
variable {α β : Type}

def moduleRefusal (module : DomainModule) (code : ControlCode) (reason path : String) : ControlRefusal :=
  ((refusal code reason path).raisedBy .module).about module.ref

/-- A throw or a malformed result is the module's fault; a failure it reports is refused as `code`,
in its own vocabulary. -/
def callModule (module : DomainModule) (code : ControlCode) (path : String) : Call α → ControlResult α
  | .threw => refuseWith (moduleRefusal module .moduleNotConforming "MODULE_FAULT" path)
  | .malformed => refuseWith (moduleRefusal module .moduleNotConforming "MODULE_RESULT_MALFORMED" path)
  | .failed reason sub => refuseWith (moduleRefusal module code
      (match parseIdentifierAs reason "reason" with
        | .ok id => id.1
        | .error _ => "UNSPECIFIED")
      (if sub = "" then path else path ++ "." ++ sub))
  | .returned value => .ok value

def bad (module : DomainModule) (path reason : String) : ControlResult α :=
  refuseWith (moduleRefusal module .moduleNotConforming reason path)

def badOutput (module : DomainModule) (path : String) : ControlResult α :=
  bad module path "MODULE_OUTPUT_INVALID"

def checked (module : DomainModule) (path : String) (validate : α → CoreResult β) :
    Foreign α → ControlResult β
  | .throwing => badOutput module path
  | .faulty error => bad module (path ++ ":" ++ error.path) (coreErrorText error.code)
  | .given input =>
    match validate input with
    | .ok value => .ok value
    | .error error => bad module (path ++ ":" ++ error.path) (coreErrorText error.code)

def tooLarge (module : DomainModule) (path : String) : ControlResult α :=
  refuseWith (moduleRefusal module .resourceBoundExceeded "MODULE_OUTPUT_TOO_LARGE" path)

def list (module : DomainModule) (raw : Option (List α)) (max : Nat) (path : String) :
    ControlResult (List α) :=
  match raw with
  | none => bad module path "MODULE_OUTPUT_NOT_A_LIST"
  | some items => if max < items.length then tooLarge module path else .ok items

/-- What the shape of a value must be for the engine to read it at all. -/
def shaped (module : DomainModule) (raw : Option α) (path : String) : ControlResult α :=
  raw.elim (badOutput module path) .ok

def oneOf (module : DomainModule) (raw : Option α) (path : String) : ControlResult α :=
  shaped module raw path

def eachItem (check : α → String → ControlResult β) (path : String) : List α → Nat → ControlResult (List β)
  | [], _ => .ok []
  | item :: rest, index => do
    let value ← check item (atIndex path index)
    let values ← eachItem check path rest (index + 1)
    .ok (value :: values)

end Calls

section Primitives

def checkQuantity (module : DomainModule) (q : Foreign EconomicQuantityInput) (path : String) :
    ControlResult EconomicQuantity :=
  checked module path (fun input => validateQuantity input path) q

def checkResource (module : DomainModule) (kinds : List ResourceKind) (r : Foreign ResourceIdInput)
    (path : String) : ControlResult (ResourceOf kinds) :=
  checked module path (fun input => validateResourceId input kinds path) r

def checkNullableResource (module : DomainModule) (kinds : List ResourceKind)
    (r : Option (Foreign ResourceIdInput)) (path : String) : ControlResult (Option (ResourceOf kinds)) :=
  match r with
  | none => .ok none
  | some r => some <$> checkResource module kinds r path

def checkIdentifier (module : DomainModule) (path : String) (raw : Foreign String) (field : String) :
    ControlResult Identifier :=
  checked module path (fun text => parseIdentifierAs text field) raw

/-- A total is typed and scaled; its atoms only have to be an integer. -/
def checkMeasure (module : DomainModule) (m : MeasureOutput) (path : String) : ControlResult Measure :=
  match m with
  | .notObject => badOutput module path
  | .quantity q => .quantity <$> checkQuantity module q (path ++ ".quantity")
  | .ratio r => .ratio <$> checked module path (fun input => validateRatio input path) r
  | .total kind unit decimals atoms => do
    let kind ← checked module path .ok kind
    let unit ← checked module path (fun raw => parseUnitCode raw (path ++ ".unit")) unit
    let decimals ← checked module path (fun raw => parseDecimals raw (path ++ ".decimals")) decimals
    let atoms ← shaped module atoms (path ++ ".atoms")
    .ok (.total kind unit decimals atoms)
  | .flag value => .flag <$> shaped module value (path ++ ".value")
  | .unknownType => badOutput module (path ++ ".type")

def checkNullableMeasure (module : DomainModule) (m : Option MeasureOutput) (path : String) :
    ControlResult (Option Measure) :=
  match m with
  | none => .ok none
  | some m => some <$> checkMeasure module m path

def sameResourceSet (a b : List ResourceId) : Bool :=
  a.length == b.length && (a.map (encodeWith writeResourceId)).insertionSort bytesLE ==
      (b.map (encodeWith writeResourceId)).insertionSort bytesLE

end Primitives

section Analysis

def ACTION_RIGHTS : List PlainRight := PLAIN_RIGHTS

def checkBoundValue (module : DomainModule) (v : BoundValueOutput) (path : String) :
    ControlResult BoundValue :=
  match v with
  | .notObject => badOutput module path
  | .quantity q => .quantity <$> checked module path (fun input => validateQuantityBound input path) q
  | .ratio r => .ratio <$> checked module path (fun input => validateRatio input path) r
  | .unknownType => badOutput module (path ++ ".type")

def checkBounds (module : DomainModule) (path : String) : List (Option BoundOutput) → Nat →
    (seen : List Identifier) → ControlResult (List BoundObservation)
  | [], _, _ => .ok []
  | raw :: rest, index, seen => do
    let bp := atIndex path index
    let b ← shaped module raw bp
    let id ← checkIdentifier module bp b.boundId (bp ++ ".boundId")
    if id ∈ seen then bad module bp "DUPLICATE_BOUND"
    else do
      let value ← checkBoundValue module b.value (bp ++ ".value")
      let bounds ← checkBounds module path rest (index + 1) (id :: seen)
      .ok (⟨id, value⟩ :: bounds)

def checkAnalysis (module : DomainModule) (raw : Option AnalysisOutput) (action : ActionContext)
    (path : String) : ControlResult ActionAnalysis := do
  let a ← shaped module raw path
  let target ← checkResource module RESOURCE_KINDS a.target (path ++ ".target")
  let rawResources ← list module a.resources MAX_PROJECTION_RESOURCES (path ++ ".resources")
  let resources ← eachItem (checkResource module RESOURCE_KINDS) (path ++ ".resources") rawResources 0
  if !sameResourceSet [target.1] [action.envelope.target] ||
      !sameResourceSet (resources.map (·.1)) (action.envelope.resources.members.map (·.1)) then
    refuseWith ((refusal .actionInvalid "ACTION_RESOURCES_MISMATCH" (path ++ ".resources")).about module.ref)
  else do
    let risk ← oneOf module a.riskDirection (path ++ ".riskDirection")
    let rawRights ← list module a.requiredRights ACTION_RIGHTS.length (path ++ ".requiredRights")
    let rights ← eachItem (oneOf module) (path ++ ".requiredRights") rawRights 0
    if ¬ rights.Nodup then bad module (path ++ ".requiredRights") "DUPLICATE_RIGHT"
    else do
      let rawBounds ← list module a.bounds MAX_PROJECTION_RESOURCES (path ++ ".bounds")
      let bounds ← checkBounds module (path ++ ".bounds") rawBounds 0 []
      let validUntil ← shaped module a.validUntil (path ++ ".validUntil")
      .ok ⟨target.1, resources.map (·.1), risk, rights, bounds, validUntil⟩

end Analysis

section Needs

def MAX_NEED_SOURCES : Nat := 32

def checkSources (module : DomainModule) (np : String) : List (Foreign String) → Nat →
    (kept : List Identifier) → ControlResult (List Identifier)
  | [], _, kept => .ok kept
  | raw :: rest, index, kept => do
    let s ← checkIdentifier module np raw (atIndex (np ++ ".admittedSources") index)
    checkSources module np rest (index + 1) (if s ∈ kept then kept else kept ++ [s])

def ladderOf (ladders : List FinalityLadder) (f : FinalityRef) : Option FinalityLadder :=
  ladders.find? fun l => l.ladder == f.ladder

/-- A finality level is only comparable on a ladder the module declares. -/
def declaresFinality (ladders : List FinalityLadder) (f : FinalityRef) : Bool :=
  (ladderOf ladders f).any fun l => l.levels.contains f.level

def checkNeed (module : DomainModule) (raw : Option NeedOutput) (np : String) :
    ControlResult StateNeed := do
  let n ← shaped module raw np
  let stateKind ← checkIdentifier module np n.stateKind (np ++ ".stateKind")
  let subject ← checkResource module RESOURCE_KINDS n.subject (np ++ ".subject")
  let rawSources ← list module n.admittedSources MAX_NEED_SOURCES (np ++ ".admittedSources")
  let sources ← checkSources module np rawSources 0 []
  let rawRequirement ← shaped module n.requirement (np ++ ".requirement")
  let requirement ← checked module np
    (fun input => validateStateRequirement input (np ++ ".requirement")) rawRequirement
  if declaresFinality module.finalityLadders requirement.minFinality then
    .ok ⟨stateKind, subject.1, sources.insertionSort (fun a b => a.1 ≤ b.1), requirement⟩
  else bad module (np ++ ".requirement.minFinality") "FINALITY_LADDER_UNDECLARED"

def checkNeeds (module : DomainModule) (raw : Option (List (Option NeedOutput))) (path : String) :
    ControlResult (List StateNeed) := do
  let needs ← list module raw MAX_REQUIREMENTS path
  eachItem (checkNeed module) path needs 0

end Needs

section Projections

/-- What a module may cite: the snapshots it was given, the reservations in its scope, and the
actions whose own limit price a valuation may name. -/
structure Provenance where
  states : List Digest32
  reservations : List ReservationId
  actions : List ActionId

structure Cited where
  states : List Digest32
  reservations : List ReservationId

def checkProvenance (module : DomainModule) (cited : ProvenanceOutput) (p : Provenance) (path : String) :
    ControlResult Cited := do
  let states ← list module cited.states MAX_REQUIREMENTS (path ++ ".states")
  let reservations ← list module cited.reservations MAX_PROJECTION_FACTS (path ++ ".reservations")
  if !states.all p.states.contains then bad module (path ++ ".states") "STATE_NOT_ADMITTED_TO_MODULE"
  else if !reservations.all p.reservations.contains then
    bad module (path ++ ".reservations") "RESERVATION_NOT_IN_SCOPE"
  else .ok ⟨digestSet states, digestSet reservations⟩

/-- Nothing is observed before execution, so no price may come from an observation. -/
def checkValuationSource (module : DomainModule) (q : EconomicQuantity) (p : Provenance)
    (path : String) : ControlResult Unit :=
  match q.valuation with
  | none => .ok ()
  | some v =>
    match v.source.kind with
    | .state => if v.source.id ∈ p.states then .ok ()
        else bad module (path ++ ".valuation.source") "VALUATION_STATE_NOT_ADMITTED"
    | .action => if v.source.id ∈ p.actions then .ok ()
        else bad module (path ++ ".valuation.source") "VALUATION_ACTION_NOT_IN_SCOPE"
    | .observation => bad module (path ++ ".valuation.source") "VALUATION_OBSERVATION_UNAVAILABLE"

def checkFact (module : DomainModule) (p : Provenance) (proposing : Bool) (raw : Option FactOutput)
    (fp : String) : ControlResult EconomicFact := do
  let f ← shaped module raw fp
  let component ← oneOf module f.component (fp ++ ".component")
  if component = .proposed ∧ !proposing then bad module fp "PROPOSED_FACT_WITHOUT_PROPOSAL"
  else do
    let quantity ← checkQuantity module f.quantity (fp ++ ".quantity")
    checkValuationSource module quantity p (fp ++ ".quantity")
    let market ← checkNullableResource module [.market] f.market (fp ++ ".market")
    let account ← checkNullableResource module [.account] f.account (fp ++ ".account")
    let cited ← checkProvenance module f.cited p fp
    if component = .held ∧ cited.states = [] then bad module fp "HELD_FACT_WITHOUT_STATE"
    else if component = .pending ∧ cited.reservations = [] then
      bad module fp "PENDING_FACT_WITHOUT_RESERVATION"
    else .ok ⟨component, quantity, market, account, cited.states, cited.reservations⟩

def measuredQuantity : Measure → Option EconomicQuantity
  | .quantity q => some q
  | _ => none

def checkInvariantFact (module : DomainModule) (p : Provenance) (raw : Option InvariantFactOutput)
    (fp : String) : ControlResult InvariantFact := do
  let f ← shaped module raw fp
  let factId ← checkIdentifier module (fp ++ ".factId") f.factId (fp ++ ".factId")
  let subject ← checkNullableResource module RESOURCE_KINDS f.subject (fp ++ ".subject")
  let value ← checkMeasure module f.value (fp ++ ".value")
  (measuredQuantity value).elim (.ok ()) fun q =>
    checkValuationSource module q p (fp ++ ".value.quantity")
  let cited ← checkProvenance module f.cited p fp
  .ok ⟨factId, subject.map (·.1), value, cited.states, cited.reservations⟩

def provenanceOf (scope : ModuleScope) (admitted : List Digest32) : Provenance where
  states := admitted
  reservations := scope.reservations.map (·.reservation)
  actions := scope.reservations.map (·.action) ++ scope.action.elim [] fun a => [a.actionId]

def proposing (scope : ModuleScope) : Bool := scope.action.any fun a => a.mode == .propose

def checkProjection (module : DomainModule) (raw : Option ProjectionOutput) (scope : ModuleScope)
    (admitted : List Digest32) (path : String) : ControlResult ModuleProjection := do
  let p ← shaped module raw path
  let prov := provenanceOf scope admitted
  let rawFacts ← list module p.facts MAX_PROJECTION_FACTS (path ++ ".facts")
  let facts ← eachItem (checkFact module prov (proposing scope)) (path ++ ".facts") rawFacts 0
  let rawInvariant ← list module p.invariantFacts MAX_INVARIANT_FACTS (path ++ ".invariantFacts")
  let invariantFacts ← eachItem (checkInvariantFact module prov) (path ++ ".invariantFacts") rawInvariant 0
  let rawResources ← list module p.resources MAX_PROJECTION_RESOURCES (path ++ ".resources")
  let resources ← eachItem (checkResource module RESOURCE_KINDS) (path ++ ".resources") rawResources 0
  let rawAssumptions ← list module p.assumptions MAX_ASSUMPTIONS (path ++ ".assumptions")
  let assumptions ← eachItem (fun raw ap => checkIdentifier module ap raw ap) (path ++ ".assumptions")
    rawAssumptions 0
  let payload ← shaped module p.payload (path ++ ".payload")
  if MAX_PROJECTION_PAYLOAD_BYTES < payload.length then tooLarge module (path ++ ".payload")
  else .ok ⟨facts, invariantFacts, resources.map (·.1), assumptions, payload⟩

end Projections

section Evaluations

def checkEvaluation (module : DomainModule) (raw : Option EvaluationOutput) (path : String) :
    ControlResult InvariantEvaluation := do
  let e ← shaped module raw path
  let outcome ← oneOf module e.outcome (path ++ ".outcome")
  let reason ← checkIdentifier module (path ++ ".reason") e.reason (path ++ ".reason")
  let observed ← checkNullableMeasure module e.observed (path ++ ".observed")
  let bound ← checkNullableMeasure module e.bound (path ++ ".bound")
  .ok ⟨outcome, reason, observed, bound⟩

def atActionLimit (action : ActionContext) (v : ValuationRef) : Bool :=
  v.basis == .limit && v.source.kind == .action && v.source.id == action.actionId

def checkDemand (module : DomainModule) (action : ActionContext) (raw : Option DemandOutput)
    (dp : String) : ControlResult LedgerDemand := do
  let d ← shaped module raw dp
  let quantity ← checkQuantity module d.quantity (dp ++ ".quantity")
  if !countable quantity then
    refuseWith ((refusal .demandInvalid "DEMAND_NOT_LEDGER_TRACKABLE" (dp ++ ".quantity.kind")).about module.ref)
  else if quantity.atoms ≤ 0 then
    refuseWith ((refusal .demandInvalid "DEMAND_NOT_POSITIVE" (dp ++ ".quantity.atoms")).about module.ref)
  else if !module.demandMeasures.any (fun m => m.kind == quantity.kind && m.unit == quantity.unit) then
    refuseWith ((refusal .demandInvalid "DEMAND_MEASURE_UNDECLARED" (dp ++ ".quantity")).about module.ref)
  else if !quantity.valuation.all (atActionLimit action) then
    refuseWith ((refusal .demandInvalid "DEMAND_VALUATION_NOT_ACTION_LIMIT"
      (dp ++ ".quantity.valuation")).about module.ref)
  else do
    let market ← checkNullableResource module [.market] d.market (dp ++ ".market")
    let account ← checkNullableResource module [.account] d.account (dp ++ ".account")
    let required ← shaped module d.required (dp ++ ".required")
    .ok ⟨quantity, market, account, required⟩

def checkDemands (module : DomainModule) (raw : Option (List (Option DemandOutput)))
    (action : ActionContext) (path : String) : ControlResult (List LedgerDemand) := do
  let demands ← list module raw MAX_DEMANDS path
  if demands = [] then refuseWith (moduleRefusal module .demandInvalid "NO_DEMAND" path)
  else eachItem (checkDemand module action) path demands 0

def checkNarrowing (module : DomainModule) (v : Option InvariantNarrowing) (path : String) :
    ControlResult InvariantNarrowing := oneOf module v path

end Evaluations

end Mandate.Control
