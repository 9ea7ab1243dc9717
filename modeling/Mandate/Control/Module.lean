import Mandate.Ledger.Run

/-! Domain modules: what a module is given, what it may answer, and the functions it is. A
module is not trusted to answer well: what it returns is data the engine has yet to check. -/
namespace Mandate.Control
open Core Ledger Lib.Wire

inductive Call (α : Type)
  | threw
  | malformed
  | failed (reason path : String)
  | returned (value : α)

/-- A value inside an output, as the Core validator that takes it apart finds it. -/
inductive Foreign (α : Type)
  | given (input : α)
  | faulty (error : CoreError)
  | throwing

structure ActionContext where
  envelope : ActionEnvelope
  actionId : ActionId
  payload : Bytes

inductive RiskDirection | increasing | reducing | neutral

structure BoundObservation where
  boundId : Identifier
  value : BoundValue

structure ActionAnalysis where
  target : ResourceId
  resources : List ResourceId
  riskDirection : RiskDirection
  requiredRights : List PlainRight
  bounds : List BoundObservation
  validUntil : Option Int

structure StateNeed where
  stateKind : Identifier
  subject : ResourceId
  admittedSources : List Identifier
  requirement : StateRequirement

structure AdmittedState where
  envelope : StateEnvelope
  stateId : Digest32
  payload : Bytes
deriving DecidableEq

structure FinalityLadder where
  ladder : Identifier
  levels : List Identifier

structure ReservationEffect where
  quantity : EconomicQuantity
  market : Option MarketId
  account : Option AccountId
  consumed : Int

structure ReservationFact where
  reservation : ReservationId
  generation : ReservationGeneration
  action : ActionId
  module : ModuleRef
  implementation : ImplementationDigest
  lineage : List AuthorityId
  committedAt : Nat
  effects : List ReservationEffect

abbrev CanonicalAssetRef := ResourceOf [.canonicalAsset]

structure AggregateQuery where
  kind : QuantityKind
  unit : UnitCode
  asset : CanonicalAssetRef
  accounts : List AccountId

/-- At revalidation the action's own reservation is already pending, and is not proposed again. -/
inductive ProjectionMode | propose | revalidate
deriving DecidableEq

structure ScopedAction extends ActionContext where
  mode : ProjectionMode

/-- Everything a module is asked to account for; only the acting one is given the action. -/
structure ModuleScope where
  principal : PrincipalId
  action : Option ScopedAction
  invariants : List StateInvariantTerm
  aggregates : List AggregateQuery
  reservations : List ReservationFact

inductive FactComponent | held | pending | proposed
deriving DecidableEq

structure EconomicFact where
  component : FactComponent
  quantity : EconomicQuantity
  market : Option MarketId
  account : Option AccountId
  states : List Digest32
  reservations : List ReservationId
deriving DecidableEq

inductive Measure
  | quantity (quantity : EconomicQuantity)
  | ratio (ratio : Ratio)
  | total (kind : QuantityKind) (unit : UnitCode) (decimals : Decimals) (atoms : Int)
  | flag (value : Bool)
deriving DecidableEq

structure InvariantFact where
  factId : Identifier
  subject : Option ResourceId
  value : Measure
  states : List Digest32
  reservations : List ReservationId

structure ModuleProjection where
  facts : List EconomicFact
  invariantFacts : List InvariantFact
  resources : List ResourceId
  assumptions : List Identifier
  payload : Bytes

inductive InvariantOutcome | holds | violated | unknown
deriving DecidableEq

structure InvariantEvaluation where
  outcome : InvariantOutcome
  reason : Identifier
  observed : Option Measure
  bound : Option Measure

structure InvariantDefinitionRef where
  invariantId : Identifier
  version : SmallUint UINT32_MAX

structure LedgerDemand where
  quantity : EconomicQuantity
  market : Option MarketId
  account : Option AccountId
  required : Bool

structure DemandMeasure where
  kind : QuantityKind
  unit : UnitCode

/-! Outputs. An `Option` is `none` where the engine's own shape check fails: no list, no object,
no boolean, no listed word. -/

inductive BoundValueOutput
  | notObject
  | quantity (quantity : Foreign QuantityBoundInput)
  | ratio (ratio : Foreign RatioInput)
  | unknownType

structure BoundOutput where
  boundId : Foreign String
  value : BoundValueOutput

structure AnalysisOutput where
  target : Foreign ResourceIdInput
  resources : Option (List (Foreign ResourceIdInput))
  riskDirection : Option RiskDirection
  requiredRights : Option (List (Option PlainRight))
  bounds : Option (List (Option BoundOutput))
  validUntil : Option (Option Int)

structure NeedOutput where
  stateKind : Foreign String
  subject : Foreign ResourceIdInput
  admittedSources : Option (List (Foreign String))
  requirement : Option (Foreign StateRequirementInput)

inductive MeasureOutput
  | notObject
  | quantity (quantity : Foreign EconomicQuantityInput)
  | ratio (ratio : Foreign RatioInput)
  | total (kind : Foreign QuantityKind) (unit : Foreign String) (decimals : Foreign NumberInput)
      (atoms : Option Int)
  | flag (value : Option Bool)
  | unknownType

/-- Cited digests; whatever is not a digest cites nothing admitted, as an unknown digest does. -/
structure ProvenanceOutput where
  states : Option (List Digest32)
  reservations : Option (List ReservationId)

structure FactOutput where
  component : Option FactComponent
  quantity : Foreign EconomicQuantityInput
  market : Option (Foreign ResourceIdInput)
  account : Option (Foreign ResourceIdInput)
  cited : ProvenanceOutput

structure InvariantFactOutput where
  factId : Foreign String
  subject : Option (Foreign ResourceIdInput)
  value : MeasureOutput
  cited : ProvenanceOutput

structure ProjectionOutput where
  facts : Option (List (Option FactOutput))
  invariantFacts : Option (List (Option InvariantFactOutput))
  resources : Option (List (Foreign ResourceIdInput))
  assumptions : Option (List (Foreign String))
  payload : Option Bytes

structure EvaluationOutput where
  outcome : Option InvariantOutcome
  reason : Foreign String
  observed : Option MeasureOutput
  bound : Option MeasureOutput

structure DemandOutput where
  quantity : Foreign EconomicQuantityInput
  market : Option (Foreign ResourceIdInput)
  account : Option (Foreign ResourceIdInput)
  required : Option Bool

/-- A module is what it declares and the seven pure functions it is called through. -/
structure DomainModule where
  ref : ModuleRef
  implementation : ImplementationDigest
  invariants : List InvariantDefinitionRef
  finalityLadders : List FinalityLadder
  demandMeasures : List DemandMeasure
  validateAction : ActionContext → Call (Option AnalysisOutput)
  stateRequirements : ModuleScope → Call (Option (List (Option NeedOutput)))
  validateStatePayload : AdmittedState → Call Unit
  project : ModuleScope → List AdmittedState → Call (Option ProjectionOutput)
  evaluateInvariant : StateInvariantTerm → ModuleProjection → Call (Option EvaluationOutput)
  deriveLedgerDemands : ActionContext → ModuleProjection → Call (Option (List (Option DemandOutput)))
  noWeaker : StateInvariantTerm → StateInvariantTerm → Call (Option InvariantNarrowing)

end Mandate.Control
