import Mandate.Core.Framing

/-! Parties and resources, and exact references to semantic modules and adapters. -/
namespace Mandate.Core
open Lib.Wire Lib.Text

abbrev DomainId := Identifier
abbrev DimensionId := Identifier
abbrev AuthorityId := Digest32
abbrev PrincipalPolicyId := Digest32
abbrev ActionId := Digest32
abbrev ReservationId := Digest32
abbrev ObservationId := Digest32
abbrev LedgerHeadDigest := Digest32
abbrev ImplementationDigest := NonZeroDigest

def PARTY_KIND_EIP155_ADDRESS : String := "eip155-address"

structure PartyIdInput where
  kind : String
  value : String
deriving DecidableEq

/-- The kernel's rule for the party schemes it knows: 20 lowercase hexadecimal bytes. -/
def partyShape (kind value : String) : Bool :=
  kind != PARTY_KIND_EIP155_ADDRESS || (hexToBytes value).any fun bytes => bytes.length == 20

structure PartyId where
  kind : Identifier
  value : Identifier
  shaped : partyShape kind.1 value.1 = true
deriving DecidableEq

abbrev PrincipalId := PartyId
abbrev AgentId := PartyId

def validatePartyId (input : PartyIdInput) (path : String) : CoreResult PartyId :=
  match parseIdentifierAs input.kind path, parseIdentifierAs input.value path with
  | .ok kind, .ok value =>
    if shaped : partyShape kind.1 value.1 = true then .ok ⟨kind, value, shaped⟩
    else fail .malformedParty path
  | _, _ => fail .malformedParty path

def partyIdInputOf (party : PartyId) : PartyIdInput := ⟨party.kind.1, party.value.1⟩

def partyIdsEqual (a b : PartyId) : Bool := a.kind == b.kind && a.value == b.value

def writeParty (party : PartyId) : Writer := writeStr party.kind.1 ++ writeStr party.value.1

def readPartyInput : CoreReader PartyIdInput := do
  let kind ← readStr
  let value ← readStr
  pure ⟨kind, value⟩

@[simp] theorem partyIdsEqual_iff (a b : PartyId) : partyIdsEqual a b = true ↔ a = b := by
  cases a
  cases b
  simp [partyIdsEqual, Subtype.ext_iff]

@[simp] theorem validatePartyId_self (party : PartyId) (path : String) :
    validatePartyId (partyIdInputOf party) path = .ok party := by
  simp [validatePartyId, partyIdInputOf, party.shaped]

theorem frames_party (party : PartyId) :
    Frames (writeParty party) readPartyInput (partyIdInputOf party) 260 := by
  refine Frames.mono (.bind (frames_identifier _) (.last (frames_identifier _))) ?_
  decide

@[simp] theorem total_party (party : PartyId) : (writeParty party).Total := by
  simp [writeParty]

inductive ResourceKind
  | market | canonicalAsset | representationAsset | account | venue | recipient | proposal
deriving DecidableEq

def RESOURCE_KINDS : List ResourceKind :=
  [.market, .canonicalAsset, .representationAsset, .account, .venue, .recipient, .proposal]

def ASSET_KINDS : List ResourceKind := [.canonicalAsset, .representationAsset]

def RESOURCE_KIND_CODE : WireCodes ResourceKind where
  keys := RESOURCE_KINDS
  code
    | .market => 1 | .canonicalAsset => 2 | .representationAsset => 3 | .account => 4
    | .venue => 5 | .recipient => 6 | .proposal => 7
  width key := by cases key <;> decide
  unique key := by cases key <;> rfl

structure ResourceIdInput where
  domain : String
  kind : ResourceKind
  localId : String
deriving DecidableEq

/-- `(domain, kind, localId)`, compared by exact value; the `localId` is opaque. -/
structure ResourceId where
  domain : DomainId
  kind : ResourceKind
  localId : Identifier
deriving DecidableEq

abbrev ResourceOf (allowed : List ResourceKind) := {resource : ResourceId // resource.kind ∈ allowed}

abbrev AssetId := ResourceOf ASSET_KINDS
abbrev MarketId := ResourceOf [.market]
abbrev AccountId := ResourceOf [.account]

def validateResourceId (input : ResourceIdInput) (allowed : List ResourceKind) (path : String) :
    CoreResult (ResourceOf allowed) := do
  let domain ← parseIdentifierAs input.domain (atField path "domain")
  if member : input.kind ∈ allowed then
    let localId ← parseIdentifierAs input.localId (atField path "localId")
    .ok ⟨⟨domain, input.kind, localId⟩, member⟩
  else fail .resourceKindMismatch (atField path "kind")

def writeResourceId (resource : ResourceId) : Writer :=
  writeStr resource.domain.1 ++ (writeCode RESOURCE_KIND_CODE resource.kind ++ writeStr resource.localId.1)

def readResourceIdInput : CoreReader ResourceIdInput := do
  let domain ← readStr
  let kind ← readCode RESOURCE_KIND_CODE
  let localId ← readStr
  pure ⟨domain, kind, localId⟩

def resourceIdInputOf (resource : ResourceId) : ResourceIdInput :=
  ⟨resource.domain.1, resource.kind, resource.localId.1⟩

def writeResourceOf {allowed : List ResourceKind} (resource : ResourceOf allowed) : Writer :=
  writeResourceId resource.1

def resourceOfInputOf {allowed : List ResourceKind} (resource : ResourceOf allowed) :
    ResourceIdInput := resourceIdInputOf resource.1

def resourceIdsEqual (a b : ResourceId) : Bool :=
  a.domain == b.domain && a.kind == b.kind && a.localId == b.localId

@[simp] theorem validateResourceId_self {allowed : List ResourceKind} (resource : ResourceOf allowed)
    (path : String) : validateResourceId (resourceOfInputOf resource) allowed path = .ok resource := by
  simp [validateResourceId, resourceOfInputOf, resourceIdInputOf, bind, Except.bind, resource.2]

theorem frames_resourceId (resource : ResourceId) :
    Frames (writeResourceId resource) readResourceIdInput (resourceIdInputOf resource) 261 := by
  refine Frames.mono (.bind (frames_identifier _) (.bind (frames_code _ _) (.last (frames_identifier _)))) ?_
  decide

@[simp] theorem total_resourceId (resource : ResourceId) : (writeResourceId resource).Total := by
  simp [writeResourceId]

variable {allowed : List ResourceKind}

theorem frames_resourceOf (resource : ResourceOf allowed) :
    Frames (writeResourceOf resource) readResourceIdInput (resourceOfInputOf resource) 261 :=
  frames_resourceId resource.1

@[simp] theorem total_resourceOf (resource : ResourceOf allowed) :
    (writeResourceOf resource).Total := total_resourceId resource.1

structure ModuleRefInput where
  domainId : String
  moduleId : String
  moduleVersion : NumberInput
  moduleDigest : String

/-- A semantic module by name, version and content; the digest is never the placeholder. -/
structure ModuleRef where
  domainId : DomainId
  moduleId : Identifier
  moduleVersion : SmallUint UINT32_MAX
  moduleDigest : NonZeroDigest
deriving DecidableEq

def validateModuleRef (input : ModuleRefInput) (path : String) : CoreResult ModuleRef := do
  let domainId ← parseIdentifierAs input.domainId (atField path "domainId")
  let moduleId ← parseIdentifierAs input.moduleId (atField path "moduleId")
  let moduleVersion ← parseSmallUint input.moduleVersion UINT32_MAX (atField path "moduleVersion")
  let moduleDigest ← parseNonZeroDigest input.moduleDigest (atField path "moduleDigest")
  .ok ⟨domainId, moduleId, moduleVersion, moduleDigest⟩

def writeModuleRef (m : ModuleRef) : Writer :=
  writeStr m.domainId.1 ++ (writeStr m.moduleId.1 ++ (writeU32 m.moduleVersion.1 ++
    writeDigest m.moduleDigest.1))

def readModuleRefInput : CoreReader ModuleRefInput := do
  let domainId ← readStr
  let moduleId ← readStr
  let moduleVersion ← readU32
  let moduleDigest ← readDigest
  pure ⟨domainId, moduleId, .integer moduleVersion, moduleDigest⟩

def moduleRefInputOf (m : ModuleRef) : ModuleRefInput :=
  ⟨m.domainId.1, m.moduleId.1, .integer m.moduleVersion.1, m.moduleDigest.1.toHex⟩

def moduleRefsEqual (a b : ModuleRef) : Bool :=
  a.domainId == b.domainId && a.moduleId == b.moduleId && a.moduleVersion == b.moduleVersion &&
    a.moduleDigest == b.moduleDigest

def MODULE_REF_TAG : String := "mandate-core/v1/module-ref"

def moduleRefDigest [Keccak] (m : ModuleRef) : Digest32 :=
  keccakDigest (encodeWith (fun m => taggedWriter MODULE_REF_TAG ++ writeModuleRef m) m)

@[simp] theorem moduleRefsEqual_iff (a b : ModuleRef) : moduleRefsEqual a b = true ↔ a = b := by
  cases a
  cases b
  simp [moduleRefsEqual, and_assoc, Subtype.ext_iff]

theorem version_safe : UINT32_MAX ≤ MAX_SAFE_INTEGER := by decide

@[simp] theorem validateModuleRef_self (m : ModuleRef) (path : String) :
    validateModuleRef (moduleRefInputOf m) path = .ok m := by
  simp [validateModuleRef, moduleRefInputOf, parseSmallUint_self version_safe, bind, Except.bind]

@[simp] theorem total_version (version : SmallUint UINT32_MAX) : (writeU32 version.1).Total := by
  have bound := version.2
  simp only [UINT32_MAX] at bound
  exact Writer.total_uint (w := 4) (by omega) (by norm_num; omega)

theorem frames_moduleRef (m : ModuleRef) :
    Frames (writeModuleRef m) readModuleRefInput (moduleRefInputOf m) 296 := by
  refine Frames.mono (.bind (frames_identifier _) (.bind (frames_identifier _)
    (.bind (frames_u32 _) (.last (frames_digest _))))) ?_
  decide

@[simp] theorem total_moduleRef (m : ModuleRef) : (writeModuleRef m).Total := by
  simp [writeModuleRef]

structure AdapterRefInput where
  adapterId : String
  adapterVersion : NumberInput
  adapterDigest : String

structure AdapterRef where
  adapterId : Identifier
  adapterVersion : SmallUint UINT32_MAX
  adapterDigest : NonZeroDigest
deriving DecidableEq

def validateAdapterRef (input : AdapterRefInput) (path : String) : CoreResult AdapterRef := do
  let adapterId ← parseIdentifierAs input.adapterId (atField path "adapterId")
  let adapterVersion ← parseSmallUint input.adapterVersion UINT32_MAX (atField path "adapterVersion")
  let adapterDigest ← parseNonZeroDigest input.adapterDigest (atField path "adapterDigest")
  .ok ⟨adapterId, adapterVersion, adapterDigest⟩

def writeAdapterRef (a : AdapterRef) : Writer :=
  writeStr a.adapterId.1 ++ (writeU32 a.adapterVersion.1 ++ writeDigest a.adapterDigest.1)

def readAdapterRefInput : CoreReader AdapterRefInput := do
  let adapterId ← readStr
  let adapterVersion ← readU32
  let adapterDigest ← readDigest
  pure ⟨adapterId, .integer adapterVersion, adapterDigest⟩

def adapterRefInputOf (a : AdapterRef) : AdapterRefInput :=
  ⟨a.adapterId.1, .integer a.adapterVersion.1, a.adapterDigest.1.toHex⟩

@[simp] theorem validateAdapterRef_self (a : AdapterRef) (path : String) :
    validateAdapterRef (adapterRefInputOf a) path = .ok a := by
  simp [validateAdapterRef, adapterRefInputOf, parseSmallUint_self version_safe, bind, Except.bind]

theorem frames_adapterRef (a : AdapterRef) :
    Frames (writeAdapterRef a) readAdapterRefInput (adapterRefInputOf a) 166 := by
  refine Frames.mono (.bind (frames_identifier _) (.bind (frames_u32 _) (.last (frames_digest _)))) ?_
  decide

@[simp] theorem total_adapterRef (a : AdapterRef) : (writeAdapterRef a).Total := by
  simp [writeAdapterRef]

end Mandate.Core
