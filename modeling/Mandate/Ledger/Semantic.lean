import Mandate.Ledger.ChargePlan

/-! Semantic provenance: which exact definition a registered term is bound to, which one
proved a narrowing, and the checks a registration's bindings and proofs pass. -/
namespace Mandate.Ledger
open Core Lib.Wire

def CORE_INVARIANT_PREFIX : String := "core."
def MAX_SEMANTIC_PROOFS : Nat := 64
def MAX_SEMANTIC_BINDINGS : Nat := MAX_GRANT_TERMS

inductive DefinitionOwner
  | core
  | module (module : ModuleRef)
deriving DecidableEq

/-- The identity of an invariant definition: never its readable name alone. -/
structure SemanticInvariantRef where
  owner : DefinitionOwner
  invariantId : Identifier
  version : SmallUint UINT32_MAX
deriving DecidableEq

/-- A definition applied to one term: the shared shape of a proof and a binding. -/
structure ScopedDefinition where
  definition : SemanticInvariantRef
  scope : List ResourceId
deriving DecidableEq

abbrev SemanticProofRef := ScopedDefinition
abbrev SemanticTermBinding := ScopedDefinition

def DefinitionOwner.code : DefinitionOwner → Nat
  | .core => 1
  | .module _ => 2

def writeOwnerModule : DefinitionOwner → Writer
  | .core => Writer.raw []
  | .module m => writeModuleRef m

def writeSemanticInvariantRef (d : SemanticInvariantRef) : Writer :=
  writeU8 d.owner.code ++ (writeOwnerModule d.owner ++ (writeStr d.invariantId.1 ++ writeU32 d.version.1))

def writeScoped (p : ScopedDefinition) : Writer :=
  writeSemanticInvariantRef p.definition ++ writeList writeResourceId p.scope

def readOwner (code : Nat) : CoreReader DefinitionOwner :=
  match code with
  | 1 => pure .core
  | 2 => do
    let input ← readModuleRefInput
    .module <$> must (validateModuleRef input "module")
  | _ => Reader.fail .encodingMalformed

def readIdentifier (path : String) : CoreReader Identifier := do
  let text ← readStr
  must (parseIdentifierAs text path)

def readVersion : CoreReader (SmallUint UINT32_MAX) := do
  let version ← readU32
  must (parseSmallUint (.integer version) UINT32_MAX "version")

def readSemanticInvariantRef : CoreReader SemanticInvariantRef := do
  let code ← readU8
  let owner ← readOwner code
  let invariantId ← readIdentifier "invariantId"
  let version ← readVersion
  pure ⟨owner, invariantId, version⟩

def readScopeResource : CoreReader ResourceId := do
  let input ← readResourceIdInput
  must (validateAnyResource input "scope")

def readScope : CoreReader (List ResourceId) := do
  let count ← readU16
  readTimes count readScopeResource

def readScoped : CoreReader ScopedDefinition := do
  let definition ← readSemanticInvariantRef
  let scope ← readScope
  pure ⟨definition, scope⟩

def scopedKey (p : ScopedDefinition) : Bytes := encodeWith writeScoped p

/-- Which term a proof or binding is for, whatever definition it names. -/
def termKeyOf (p : ScopedDefinition) : TermKey :=
  .stateInvariant p.definition.invariantId p.definition.version.1 p.scope

def canonicalBindings (bindings : List SemanticTermBinding) : List SemanticTermBinding :=
  sortEncoded writeScoped bindings

def canonicalProofs (proofs : List SemanticProofRef) : List SemanticProofRef :=
  sortEncoded writeScoped proofs

def sameDefinition (a b : SemanticInvariantRef) : Bool :=
  encodeWith writeSemanticInvariantRef a == encodeWith writeSemanticInvariantRef b

def startsWith (text pre : String) : Bool := pre.toList.isPrefixOf text.toList

/-- Core defines its own namespace; a module only its own names, at its own version. -/
def ownerConsistent (d : SemanticInvariantRef) : Bool :=
  let core := startsWith d.invariantId.1 CORE_INVARIANT_PREFIX
  match d.owner with
  | .core => core
  | .module m => !core && startsWith d.invariantId.1 (m.moduleId.1 ++ ".") && d.version.1 == m.moduleVersion.1

def scopedMatches (p : ScopedDefinition) (t : StateInvariantTerm) : Bool :=
  p.definition.invariantId == t.invariantId && p.definition.version.1 == t.version.1 &&
    p.scope == t.scope.members

def isModuleDefined (t : StateInvariantTerm) : Bool :=
  !startsWith t.invariantId.1 CORE_INVARIANT_PREFIX

def bindingOf (bindings : List SemanticTermBinding) (t : StateInvariantTerm) :
    Option SemanticTermBinding := bindings.find? fun b => scopedMatches b t

def sameBinding : Option SemanticTermBinding → Option SemanticTermBinding → Bool
  | some a, some b => sameDefinition a.definition b.definition
  | none, none => true
  | _, _ => false

/-- Canonical order, one entry a term, a consistent owner, and a term that wants the entry. -/
def checkScopedSet (invalid unexpected : GenericRefusalCode) (owned wanted : ScopedDefinition → Bool)
    (path : String) :
    (entries canonical : List ScopedDefinition) → Nat → (seen : List TermKey) → LedgerResult Unit
  | entry :: entries, expected :: canonical, index, seen =>
    if scopedKey entry ≠ scopedKey expected then refuse invalid (atIndex path index)
    else if termKeyOf entry ∈ seen then refuse invalid (atIndex path index)
    else if !owned entry then refuse invalid (atIndex path index ++ ".definition")
    else if !wanted entry then refuse unexpected (atIndex path index)
    else checkScopedSet invalid unexpected owned wanted path entries canonical (index + 1)
      (termKeyOf entry :: seen)
  | _, _, _, _ => .ok ()

/-- Comparing and sorting encode every entry, and the encoder asserts its count width. -/
def encodable (entries : List ScopedDefinition) : LedgerResult Unit :=
  if entries.all fun entry => (writeScoped entry).isSome then .ok () else .error .thrown

def checkProofSet (proofs : List SemanticProofRef) (needed : List StateInvariantTerm)
    (path : String) : LedgerResult Unit :=
  if MAX_SEMANTIC_PROOFS < proofs.length then refuse .semanticProofInvalid path
  else do
    encodable proofs
    checkScopedSet .semanticProofInvalid .semanticProofUnexpected
      (fun p => ownerConsistent p.definition) (fun p => needed.any (scopedMatches p)) path proofs
      (canonicalProofs proofs) 0 []

def checkEachBound (bindings : List SemanticTermBinding) (path : String) :
    List StateInvariantTerm → Nat → LedgerResult Unit
  | [], _ => .ok ()
  | t :: rest, index =>
    if isModuleDefined t && (bindingOf bindings t).isNone then
      refuse .semanticBindingMissing (atIndex (path ++ ".invariant") index)
    else checkEachBound bindings path rest (index + 1)

def moduleOwned (d : SemanticInvariantRef) : Bool :=
  match d.owner with
  | .core => false
  | .module _ => ownerConsistent d

/-- Every module-defined term is bound to one exact definition; no Core term is bound. -/
def checkBindingSet (bindings : List SemanticTermBinding) (terms : List StateInvariantTerm)
    (path termsPath : String) : LedgerResult Unit :=
  if MAX_SEMANTIC_BINDINGS < bindings.length then refuse .semanticBindingInvalid path
  else do
    encodable bindings
    checkScopedSet .semanticBindingInvalid .semanticBindingUnexpected (fun b => moduleOwned b.definition)
      (fun b => terms.any fun t => isModuleDefined t && scopedMatches b t) path bindings
      (canonicalBindings bindings) 0 []
    checkEachBound bindings termsPath terms 0

/-- A proof for a module-defined term names exactly that term's binding. -/
def checkProofsBound (bindings : List SemanticTermBinding) (path : String) :
    (proofs : List SemanticProofRef) → Nat → LedgerResult Unit
  | [], _ => .ok ()
  | p :: rest, index =>
    let bound := (bindings.find? fun b => termKeyOf b == termKeyOf p).any fun b =>
      sameDefinition b.definition p.definition
    if p.definition.owner = .core || bound then checkProofsBound bindings path rest (index + 1)
    else refuse .semanticBindingMismatch (atIndex path index ++ ".definition")

/-- The term of `previous` that `t` restates: same definition name, version and scope. -/
def restatedFrom (previous : List StateInvariantTerm) (t : StateInvariantTerm) : Option StateInvariantTerm :=
  previous.find? fun p => termKey (.stateInvariant p) == termKey (.stateInvariant t)

def keepsSemantics (previous : StateInvariantTerm) (previousBindings : List SemanticTermBinding)
    (next : StateInvariantTerm) (nextBindings : List SemanticTermBinding) : Bool :=
  sameBinding (bindingOf previousBindings previous) (bindingOf nextBindings next)

def checkRestatedBindings (parent : List StateInvariantTerm) (parentBindings : List SemanticTermBinding)
    (childBindings : List SemanticTermBinding) (termsPath : String) :
    (child : List StateInvariantTerm) → Nat → LedgerResult Unit
  | [], _ => .ok ()
  | t :: rest, index =>
    if (restatedFrom parent t).all fun p => keepsSemantics p parentBindings t childBindings then
      checkRestatedBindings parent parentBindings childBindings termsPath rest (index + 1)
    else refuse .semanticBindingMismatch (atIndex (termsPath ++ ".invariant") index)

def restatedInvariants (previous next : List StateInvariantTerm) : List StateInvariantTerm :=
  next.filter fun t => (restatedFrom previous t).any fun p => p.params != t.params

def grantInvariants (g : AuthorityGrant) : List StateInvariantTerm := g.terms.items.filterMap invariantOf

inductive InvariantNarrowing | noWeaker | weaker | unprovable
deriving DecidableEq

/-- Parent, child and committed definition to a verdict; `none` where the comparator throws. -/
abbrev InvariantOrdering :=
  StateInvariantTerm → StateInvariantTerm → SemanticInvariantRef → Option InvariantNarrowing

abbrev NarrowingProver := StateInvariantTerm → StateInvariantTerm → InvariantNarrowing

structure ReducerRules where
  invariantOrdering : Option InvariantOrdering

def CORE_RULES : ReducerRules := ⟨none⟩

def orderInvariants (ordering : Option InvariantOrdering) (parent child : StateInvariantTerm)
    (definition : SemanticInvariantRef) : InvariantNarrowing :=
  (ordering.bind fun noWeaker => noWeaker parent child definition).getD .unprovable

def committedProver (ordering : Option InvariantOrdering) (proofs : List SemanticProofRef) :
    NarrowingProver := fun parent child =>
  match proofs.find? fun p => scopedMatches p child with
  | none => .unprovable
  | some p => orderInvariants ordering parent child p.definition

theorem frames_must {α β : Type} {writer : Writer} {read : CoreReader α} {input : α} {size : Nat}
    (frames : Frames writer read input size) {f : α → CoreResult β} {value : β}
    (valid : f input = .ok value) : Frames writer (read >>= fun raw => must (f raw)) value size :=
  frames.ofExcept (f := fun raw => (f raw).mapError fun error : CoreError => error.code) (by rw [valid]; rfl)

theorem frames_readIdentifier (id : Identifier) (path : String) :
    Frames (writeStr id.1) (readIdentifier path) id 130 :=
  frames_must (f := fun text => parseIdentifierAs text path) (frames_identifier id)
    (parseIdentifierAs_self id path)

theorem frames_version (version : SmallUint UINT32_MAX) : Frames (writeU32 version.1) readVersion version 4 :=
  frames_must (f := fun raw : Nat => parseSmallUint (.integer raw) UINT32_MAX "version")
    (frames_u32 version.1) (parseSmallUint_self (by decide) version _)

theorem frames_owner (owner : DefinitionOwner) :
    Frames (writeOwnerModule owner) (readOwner owner.code) owner 296 := by
  cases owner with
  | core => exact (Frames.pure _).mono (by decide)
  | module m =>
    have read := (frames_must (f := fun input => validateModuleRef input "module")
      (frames_moduleRef m) (validateModuleRef_self m "module")).map (f := DefinitionOwner.module)
    simp only [map_eq_pure_bind, bind_assoc] at read
    simp only [DefinitionOwner.code, readOwner, map_eq_pure_bind]
    exact read

theorem frames_semanticInvariantRef (d : SemanticInvariantRef) :
    Frames (writeSemanticInvariantRef d) readSemanticInvariantRef d 431 := by
  refine Frames.mono (.bind (frames_u8 _) (.bind (frames_owner _) (.bind
    (frames_readIdentifier _ _) (.last (frames_version _))))) ?_
  decide

theorem frames_scoped (p : ScopedDefinition) :
    Frames (writeScoped p) readScoped p (433 + p.scope.length * 261) := by
  have resource : ∀ resource ∈ p.scope,
      Frames (writeResourceId resource) readScopeResource resource 261 := fun resource _ =>
    frames_must (f := fun input => validateAnyResource input "scope") (frames_resourceId resource)
      (validateAnyResource_self resource "scope")
  have items := frames_times (v := id) p.scope resource
  rw [List.map_id] at items
  have scope : Frames (writeList writeResourceId p.scope) readScope p.scope
      (2 + p.scope.length * 261) := (frames_u16 _).bind items
  refine Frames.mono ((frames_semanticInvariantRef _).bind scope.last) (by omega)

end Mandate.Ledger
