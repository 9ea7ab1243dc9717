import Mandate.Control.Context

/-! Core's own cross-module invariant: the sum of every contributor's facts of one measure, in
one valuation context, against a limit; and when one such limit is no weaker than another. -/
namespace Mandate.Control
open Core Ledger Lib.Wire

def AGGREGATE_INVARIANT_ID : String := "core.aggregate-max"
def AGGREGATE_INVARIANT_VERSION : Nat := 1
def MAX_AGGREGATE_CONTRIBUTORS : Nat := 12

def isAggregate (t : StateInvariantTerm) : Bool :=
  t.invariantId.1 == AGGREGATE_INVARIANT_ID && t.version.1 == AGGREGATE_INVARIANT_VERSION

structure AggregateParams where
  kind : QuantityKind
  unit : UnitCode
  decimals : Decimals
  limit : Nat
  contributors : List ModuleRef
deriving DecidableEq

structure AggregateSpec where
  term : StateInvariantTerm
  params : AggregateParams
  asset : CanonicalAssetRef
  accounts : List AccountId
deriving DecidableEq

section Params

structure AggregateInput where
  kind : QuantityKind
  unit : String
  decimals : Nat
  limit : Nat
  contributors : List ModuleRefInput

def readAggregateInput : CoreReader AggregateInput := do
  let kind ← readCode QUANTITY_KIND_CODE
  let unit ← readStr
  let decimals ← readU8
  let limit ← readU256
  let contributors ← readList MAX_AGGREGATE_CONTRIBUTORS readModuleRefInput true
  pure ⟨kind, unit, decimals, limit, contributors⟩

def validateAggregate (input : AggregateInput) : CoreResult AggregateParams := do
  let unit ← parseUnitCode input.unit "unit"
  let decimals ← parseDecimals (.integer input.decimals) "decimals"
  let contributors ← input.contributors.mapM fun m => validateModuleRef m "module"
  if contributors = [] then fail .collectionEmpty "contributors"
  else .ok ⟨input.kind, unit, decimals, input.limit, contributors⟩

def decodeAggregateParams (bytes : Bytes) : Except String AggregateParams :=
  match runReader (readTagged ControlTag.AGGREGATE_PARAMS readAggregateInput) bytes with
  | .error _ => .error "AGGREGATE_PARAMS_MALFORMED"
  | .ok input => (validateAggregate input).mapError fun _ => "AGGREGATE_PARAMS_INVALID"

def assetOf (r : ResourceId) : Option CanonicalAssetRef :=
  if asset : r.kind ∈ [ResourceKind.canonicalAsset] then some ⟨r, asset⟩ else none

def accountOf (r : ResourceId) : Option AccountId :=
  if account : r.kind ∈ [ResourceKind.account] then some ⟨r, account⟩ else none

/-- Exactly one canonical asset; everything else in scope is an account. -/
def aggregateSpecOf (term : StateInvariantTerm) : Except String AggregateSpec := do
  let params ← decodeAggregateParams term.params.1
  match term.scope.members.filterMap assetOf with
  | [asset] =>
    let rest := term.scope.members.filter fun r => (assetOf r).isNone
    if rest.all fun r => (accountOf r).isSome then
      .ok ⟨term, params, asset, rest.filterMap accountOf⟩
    else .error "AGGREGATE_SCOPE_INVALID"
  | _ => .error "AGGREGATE_ASSET_SCOPE_INVALID"

end Params

section Queries

def aggregateQueryFor (spec : AggregateSpec) (contributor : ModuleRef) : AggregateQuery :=
  ⟨spec.params.kind, spec.params.unit, spec.asset,
    spec.accounts.filter fun a => a.1.domain == contributor.domainId⟩

def writeAggregateQuery (q : AggregateQuery) : Writer :=
  writeStr (kindText q.kind) ++ (writeStr q.unit.1 ++ (writeResourceOf q.asset ++
    (writeU32 q.accounts.length ++ Writer.each writeResourceOf (sortEncoded writeResourceOf q.accounts))))

def distinctQueries (queries : List AggregateQuery) : List AggregateQuery :=
  let keys := (queries.map (encodeWith writeAggregateQuery)).dedup.insertionSort bytesLE
  keys.filterMap fun key => queries.reverse.find? fun q => encodeWith writeAggregateQuery q == key

end Queries

structure ParticipantView where
  module : ModuleRef
  projection : ModuleProjection
  admitted : List AdmittedState

structure AggregateEvaluation where
  outcome : InvariantOutcome
  reason : String
  observed : Option Measure
  bound : Option Measure
  states : List Digest32
  reservations : List ReservationId

def notEvaluable (reason : String) : AggregateEvaluation := ⟨.unknown, reason, none, none, [], []⟩

section Scope
variable (spec : AggregateSpec) (participants : List ParticipantView) (active : List ModuleRef)

def matchingFacts (p : ParticipantView) : List EconomicFact :=
  p.projection.facts.filter fun f => f.quantity.kind == spec.params.kind &&
    f.quantity.unit == spec.params.unit &&
    f.quantity.asset.any fun asset => resourceIdsEqual asset.1 spec.asset.1

def isContributor (m : ModuleRef) : Bool := spec.params.contributors.any fun c => moduleRefsEqual c m

def consultedModule (m : ModuleRef) : Bool := participants.any fun p => moduleRefsEqual p.module m

def checkAggregateScope : Option String :=
  if participants.any fun p => !isContributor spec p.module && !(matchingFacts spec p).isEmpty then
    some "UNDECLARED_CONTRIBUTOR"
  else if !spec.params.contributors.all (consultedModule participants) then
    some "CONTRIBUTOR_UNAVAILABLE"
  else if !active.all (consultedModule participants) then some "UNDECLARED_MODULE_UNAVAILABLE"
  else none

end Scope

section Valuation

structure ValuationContext where
  asset : CanonicalAssetRef
  source : Identifier
  sequence : StateSequence
  observedAt : UnixSeconds
  price : Price
deriving DecidableEq

def sequenceText : SequenceKind → String
  | .none => "NONE" | .block => "BLOCK" | .venueSequence => "VENUE_SEQUENCE" | .version => "VERSION"

def sequenceValue : StateSequence → Int
  | .none => 0
  | .counted _ value => value.1

def writeValuationContext (v : ValuationContext) : Writer :=
  writeResourceOf v.asset ++ (writeStr v.source.1 ++ (writeStr (sequenceText v.sequence.kind) ++
    (writeU64 (sequenceValue v.sequence) ++ (writeI64 v.observedAt.1 ++
      (writeStr v.price.numeratorUnit.1 ++ (writeStr v.price.denominatorUnit.1 ++
        (writeU8 v.price.decimals.1 ++ writeU256 v.price.atoms.1)))))))

def valuationContextKey (v : ValuationContext) : Bytes := encodeWith writeValuationContext v

def valuationContextOf (spec : AggregateSpec) (f : EconomicFact) (admitted : List AdmittedState) :
    Except String (Option ValuationContext) :=
  match f.quantity.valuation with
  | none => .ok none
  | some v =>
    if v.basis ≠ .mark then .ok none
    else if v.source.kind ≠ .state then .error "VALUATION_SOURCE_INVALID"
    else match admitted.reverse.find? fun s => s.stateId == v.source.id with
      | none => .error "VALUATION_STATE_UNRESOLVED"
      | some s =>
        if s.envelope.subject.kind ≠ .canonicalAsset ∨ !resourceIdsEqual s.envelope.subject spec.asset.1 then
          .error "VALUATION_NOT_OF_AGGREGATE_ASSET"
        else if s.envelope.observedAt ≠ v.observedAt then .error "VALUATION_PROVENANCE_MISMATCH"
        else .ok (some ⟨spec.asset, s.envelope.sourceId, s.envelope.sequence, s.envelope.observedAt, v.price⟩)

/-- Every contributor's matching facts, each with what its module was given. -/
def contributedFacts (spec : AggregateSpec) (participants : List ParticipantView) :
    List (EconomicFact × List AdmittedState) :=
  (participants.filter fun p => isContributor spec p.module).flatMap fun p =>
    (matchingFacts spec p).map fun f => (f, p.admitted)

def scanContexts (spec : AggregateSpec) : List (EconomicFact × List AdmittedState) →
    (key : Option Bytes) → (unmarked : Bool) → Option String
  | [], key, unmarked => if key.isSome ∧ unmarked then some "VALUATION_BASIS_MIXED" else none
  | (f, admitted) :: rest, key, unmarked =>
    match valuationContextOf spec f admitted with
    | .error reason => some reason
    | .ok none => scanContexts spec rest key true
    | .ok (some v) =>
      if key.all fun k => k == valuationContextKey v then
        scanContexts spec rest (some (valuationContextKey v)) unmarked
      else some "VALUATION_CONTEXT_MISMATCH"

def checkValuationContexts (spec : AggregateSpec) (participants : List ParticipantView) : Option String :=
  scanContexts spec (contributedFacts spec participants) none false

end Valuation

section Sum

def includedFacts (spec : AggregateSpec) (participants : List ParticipantView) :
    Option (List EconomicFact) := do
  let views ← spec.params.contributors.mapM fun c =>
    participants.find? fun p => moduleRefsEqual p.module c
  some (views.flatMap (matchingFacts spec))

def widest (decimals : Decimals) (facts : List EconomicFact) : Decimals :=
  facts.foldl (fun scale f => if scale.1 < f.quantity.decimals.1 then f.quantity.decimals else scale) decimals

def sumAt (scale : Decimals) (facts : List EconomicFact) : Int :=
  (facts.map fun f => f.quantity.atoms * 10 ^ (scale.1 - f.quantity.decimals.1)).sum

def sumAggregate (spec : AggregateSpec) (participants : List ParticipantView) : AggregateEvaluation :=
  match includedFacts spec participants with
  | none => notEvaluable "CONTRIBUTOR_UNAVAILABLE"
  | some facts =>
    let p := spec.params
    let scale := widest p.decimals facts
    let sum := sumAt scale facts
    let within := sum ≤ p.limit * 10 ^ (scale.1 - p.decimals.1)
    { outcome := if within then .holds else .violated
      reason := if within then "AGGREGATE_WITHIN_LIMIT" else "AGGREGATE_LIMIT_EXCEEDED"
      observed := some (.total p.kind p.unit scale sum)
      bound := some (.total p.kind p.unit p.decimals p.limit)
      states := digestSet (facts.flatMap (·.states))
      reservations := digestSet (facts.flatMap (·.reservations)) }

end Sum

/-- Before anything is summed: the closed scope, then one valuation context. -/
def evaluateAggregate (spec : AggregateSpec) (participants : List ParticipantView)
    (active : List ModuleRef) : AggregateEvaluation :=
  match checkAggregateScope spec participants active with
  | some reason => notEvaluable reason
  | none =>
    match checkValuationContexts spec participants with
    | some reason => notEvaluable reason
    | none => sumAggregate spec participants

/-- The child counts at least what the parent counts, and its limit is at most the parent's; of a
signed kind counting more can also lower the sum, so the contributors must be the same. -/
def compareAggregateParams (parent child : StateInvariantTerm) : InvariantNarrowing :=
  match decodeAggregateParams parent.params.1, decodeAggregateParams child.params.1 with
  | .ok p, .ok c =>
    if p.kind ≠ c.kind ∨ p.unit ≠ c.unit then .unprovable
    else if !p.contributors.all (fun x => c.contributors.any fun y => moduleRefsEqual x y) then .weaker
    else if (QUANTITY_KIND_RULES p.kind).signed ∧ c.contributors.length ≠ p.contributors.length then
      .unprovable
    else
      let scale := max p.decimals.1 c.decimals.1
      if c.limit * 10 ^ (scale - c.decimals.1) ≤ p.limit * 10 ^ (scale - p.decimals.1) then .noWeaker
      else .weaker
  | _, _ => .unprovable

end Mandate.Control
