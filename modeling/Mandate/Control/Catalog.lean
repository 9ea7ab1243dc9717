import Mandate.Control.Aggregate
import Mandate.Ledger.Registry

/-! The module catalog: which implementation runs for which exact module reference. New
authority goes through the registry's current mapping; what is committed goes by exact identity. -/
namespace Mandate.Control
open Core Ledger

/-- The implementations loaded now, the historical ones, and the registry of current names. -/
structure ModuleCatalog where
  registry : ModuleRegistry
  entries : List DomainModule
  archived : List DomainModule

structure InvariantComparison where
  evaluator : Evaluator
  verdict : InvariantNarrowing

def declares (m : DomainModule) (id : Identifier) (version : SmallUint UINT32_MAX) : Bool :=
  m.invariants.any fun d => d.invariantId == id && d.version == version

def loaded [Keccak] (modules : List DomainModule) (ref : ModuleRef) : Option DomainModule :=
  modules.find? fun m => moduleRefDigest m.ref == moduleRefDigest ref

namespace ModuleCatalog
variable [Keccak] (C : ModuleCatalog)

def resolve (ref : ModuleRef) (path : String) (allowRetiring : Bool) : ControlResult DomainModule :=
  let missing (reason : String) : ControlResult DomainModule :=
    refuseWith ((refusal .moduleNotFound reason path).about ref)
  match C.registry ref.moduleId ref.moduleVersion with
  | none => missing "MODULE_UNREGISTERED"
  | some registration =>
    if !moduleRefsEqual registration.module ref then missing "MODULE_DIGEST_MISMATCH"
    else if registration.status = .disabled then missing "MODULE_DISABLED"
    else if registration.status = .retiring ∧ !allowRetiring then missing "MODULE_RETIRING"
    else match loaded C.entries ref with
      | none => missing "NO_CONFORMING_IMPLEMENTATION"
      | some m =>
        if !moduleRefsEqual m.ref ref ∨ m.implementation ∉ registration.implementations then
          refuseWith ((refusal .moduleNotConforming "MODULE_IMPLEMENTATION_UNREGISTERED" path).about ref)
        else .ok m

def resolveForDecision (ref : ModuleRef) (path : String) : ControlResult DomainModule :=
  C.resolve ref path false

def resolveForLifecycle (ref : ModuleRef) (path : String) : ControlResult DomainModule :=
  C.resolve ref path true

/-- The implementation of exactly `ref`, loaded or archived, with no registry lookup. -/
def resolveExact (ref : ModuleRef) : Option DomainModule :=
  match loaded C.entries ref with
  | some current => if moduleRefsEqual current.ref ref then some current else none
  | none => (loaded C.archived ref).filter fun m => moduleRefsEqual m.ref ref

/-- How a committed term, or a committed proof, is interpreted: its own module or nothing. -/
def resolveDefinition (d : SemanticInvariantRef) : Option DomainModule :=
  match d.owner with
  | .core => none
  | .module ref => (C.resolveExact ref).filter fun m => declares m d.invariantId d.version

def definitionDisabled (d : SemanticInvariantRef) : Bool :=
  match d.owner with
  | .core => false
  | .module ref => (C.registry ref.moduleId ref.moduleVersion).any fun entry =>
      moduleRefsEqual entry.module ref && entry.status == .disabled

def comparator (d : SemanticInvariantRef) (ref : ModuleRef) (forNewDecision : Bool) : Option DomainModule :=
  if forNewDecision then
    (C.resolveForDecision ref "invariant.owner").toOption.filter fun m =>
      declares m d.invariantId d.version
  else C.resolveDefinition d

def askNarrowing (m : DomainModule) (parent child : StateInvariantTerm) : ControlResult InvariantNarrowing := do
  let verdict ← callModule m .semanticNarrowingUnprovable "noWeaker" (m.noWeaker parent child)
  checkNarrowing m verdict "noWeaker"

def compareInvariants (parent child : StateInvariantTerm) (d : SemanticInvariantRef)
    (forNewDecision : Bool) : InvariantComparison :=
  if parent.invariantId ≠ child.invariantId ∨ parent.version ≠ child.version then ⟨.none, .unprovable⟩
  else if d.invariantId ≠ parent.invariantId ∨ d.version ≠ parent.version then ⟨.none, .unprovable⟩
  else match d.owner with
    | .core =>
      if isAggregate parent then ⟨.core, compareAggregateParams parent child⟩ else ⟨.none, .unprovable⟩
    | .module ref =>
      ⟨.module ref, match C.comparator d ref forNewDecision with
        | none => .unprovable
        | some m => (askNarrowing m parent child).toOption.getD .unprovable⟩

def invariantOrdering : InvariantOrdering :=
  fun parent child d => some (C.compareInvariants parent child d false).verdict

end ModuleCatalog

/-- The rules a store must apply for what this catalog proves to be registrable and replayable. -/
def controlRules [Keccak] (C : ModuleCatalog) : ReducerRules := ⟨some C.invariantOrdering⟩

end Mandate.Control
