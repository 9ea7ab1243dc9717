import Mandate.Ledger.Semantic

/-! The registries: which module and adapter each name stands for now, and whether it may
still carry a new decision, a new attempt or a new registration. -/
namespace Mandate.Ledger
open Core

inductive ModuleStatus | active | retiring | disabled
deriving DecidableEq

structure ModuleRegistration where
  module : ModuleRef
  status : ModuleStatus
  implementations : List ImplementationDigest

abbrev ModuleRegistry := Identifier → SmallUint UINT32_MAX → Option ModuleRegistration

def adapterRefsEqual (a b : AdapterRef) : Bool :=
  a.adapterId == b.adapterId && a.adapterVersion == b.adapterVersion && a.adapterDigest == b.adapterDigest

def checkModuleConformance (registry : ModuleRegistry) (module : ModuleRef)
    (implementation : ImplementationDigest) (path : String) : LedgerResult Unit :=
  match registry module.moduleId module.moduleVersion with
  | none => refuse .moduleUnregistered path
  | some entry =>
    if !moduleRefsEqual entry.module module then refuse .moduleDigestMismatch path
    else if entry.status = .disabled then refuse .moduleDisabled path
    else if entry.status = .retiring then refuse .moduleRetiring path
    else if implementation ∉ entry.implementations then
      refuse .moduleImplementationUnregistered "plan.implementation"
    else .ok ()

def checkOwnersCurrent (registry : ModuleRegistry) (path : String) :
    (entries : List ScopedDefinition) → Nat → LedgerResult Unit
  | [], _ => .ok ()
  | entry :: rest, index =>
    let place := atIndex path index ++ ".definition.owner"
    match entry.definition.owner with
    | .core => checkOwnersCurrent registry path rest (index + 1)
    | .module m =>
      match registry m.moduleId m.moduleVersion with
      | none => refuse .moduleUnregistered place
      | some current =>
        if !moduleRefsEqual current.module m then refuse .moduleDigestMismatch place
        else if current.status = .disabled then refuse .moduleDisabled place
        else if current.status = .retiring then refuse .moduleRetiring place
        else checkOwnersCurrent registry path rest (index + 1)

structure AdapterRegistration where
  adapter : AdapterRef
  status : ModuleStatus

abbrev AdapterRegistry := Identifier → SmallUint UINT32_MAX → Option AdapterRegistration

inductive AdapterPurpose | decision | attempt
deriving DecidableEq

def checkAdapterUsable (registry : AdapterRegistry) (adapter : AdapterRef) (purpose : AdapterPurpose)
    (path : String) : LedgerResult Unit :=
  match registry adapter.adapterId adapter.adapterVersion with
  | none => refuse .adapterUnregistered path
  | some entry =>
    if !adapterRefsEqual entry.adapter adapter then refuse .adapterDigestMismatch path
    else if entry.status = .disabled then refuse .adapterDisabled path
    else if entry.status = .retiring ∧ purpose = .decision then refuse .adapterRetiring path
    else .ok ()

/-- A retiring module may still carry what it already reserved; a disabled one may not. -/
def checkModuleIssuable (registry : ModuleRegistry) (module : ModuleRef) (path : String) :
    LedgerResult Unit :=
  match registry module.moduleId module.moduleVersion with
  | none => refuse .moduleUnregistered path
  | some entry =>
    if !moduleRefsEqual entry.module module then refuse .moduleDigestMismatch path
    else if entry.status = .disabled then refuse .moduleDisabled path
    else .ok ()

end Mandate.Ledger
