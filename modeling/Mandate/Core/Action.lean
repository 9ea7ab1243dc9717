import Mandate.Core.StateEnvelope

/-! The action envelope: who acts, under which authority, on what, and when. -/
namespace Mandate.Core
open Lib.Wire

def MAX_ACTION_RESOURCES : Nat := 64
def MAX_ACTION_PAYLOAD_BYTES : Nat := 1048576

def validateWindowFrom (startField : String) (notBefore expiresAt : IntegerInput) (path : String) :
    CoreResult Window := do
  let start ← parseUnixSeconds notBefore (atField path startField)
  let stop ← parseUnixSeconds expiresAt (atField path "expiresAt")
  if ordered : start.1 < stop.1 then .ok ⟨start, stop, ordered⟩ else fail .invalidTimeWindow path

structure ActionEnvelopeInput where
  principal : PartyIdInput
  authority : String
  actor : PartyIdInput
  module : ModuleRefInput
  actionType : String
  adapter : AdapterRefInput
  target : ResourceIdInput
  resources : List ResourceIdInput
  payloadDigest : String
  validFrom : IntegerInput
  expiresAt : IntegerInput
  nonce : IntegerInput

abbrev OtherThan (target : ResourceId) := {resource : ResourceId // resourceIdsEqual resource target = false}

def writeOther {target : ResourceId} (resource : OtherThan target) : Writer := writeResourceId resource.1

structure ActionEnvelope where
  principal : PrincipalId
  authority : AuthorityId
  actor : AgentId
  module : ModuleRef
  actionType : Identifier
  adapter : AdapterRef
  target : ResourceId
  resources : CanonicalSet (@writeOther target) MAX_ACTION_RESOURCES
  payloadDigest : Digest32
  window : Window
  nonce : Uint64

def validateOther (target : ResourceId) (input : ResourceIdInput) (path : String) :
    CoreResult (OtherThan target) := do
  let resource ← validateAnyResource input path
  if other : resourceIdsEqual resource target = false then .ok ⟨resource, other⟩
  else fail .targetRepeatedInResources path

def validateActionEnvelope (input : ActionEnvelopeInput) (path : String) : CoreResult ActionEnvelope := do
  let principal ← validatePartyId input.principal (atField path "principal")
  let authority ← parseDigest input.authority (atField path "authority")
  let actor ← validatePartyId input.actor (atField path "actor")
  let module ← validateModuleRef input.module (atField path "module")
  let actionType ← parseIdentifierAs input.actionType (atField path "actionType")
  let adapter ← validateAdapterRef input.adapter (atField path "adapter")
  let target ← validateAnyResource input.target (atField path "target")
  let resources ← validateMembers writeOther MAX_ACTION_RESOURCES (validateOther target)
    input.resources (atField path "resources")
  let payloadDigest ← parseDigest input.payloadDigest (atField path "payloadDigest")
  let window ← validateWindowFrom "validFrom" input.validFrom input.expiresAt path
  let nonce ← parseUint64 input.nonce (atField path "nonce")
  .ok ⟨principal, authority, actor, module, actionType, adapter, target, resources, payloadDigest,
    window, nonce⟩

def ACTION_TAG : String := "mandate-core/v1/action"

def writeActionEnvelope (a : ActionEnvelope) : Writer :=
  writeParty a.principal ++ (writeDigest a.authority ++ (writeParty a.actor ++
    (writeModuleRef a.module ++ (writeStr a.actionType.1 ++ (writeAdapterRef a.adapter ++
      (writeResourceId a.target ++ (writeList writeOther a.resources.members ++
        (writeDigest a.payloadDigest ++ (writeI64 a.window.notBefore.1 ++
          (writeI64 a.window.expiresAt.1 ++ writeU64 a.nonce.1))))))))))

def encodeActionEnvelope (a : ActionEnvelope) : Bytes :=
  encodeWith (fun a => taggedWriter ACTION_TAG ++ writeActionEnvelope a) a

def readActionInput : CoreReader ActionEnvelopeInput := do
  let principal ← readPartyInput
  let authority ← readDigest
  let actor ← readPartyInput
  let module ← readModuleRefInput
  let actionType ← readStr
  let adapter ← readAdapterRefInput
  let target ← readResourceIdInput
  let resources ← readList MAX_ACTION_RESOURCES readResourceIdInput true
  let payloadDigest ← readDigest
  let validFrom ← readI64
  let expiresAt ← readI64
  let nonce ← (fun n : Nat => (n : Int)) <$> readU64
  pure ⟨principal, authority, actor, module, actionType, adapter, target, resources, payloadDigest,
    .bigint validFrom, .bigint expiresAt, .bigint nonce⟩

def decodeActionEnvelope (bytes : Bytes) : CoreResult ActionEnvelope :=
  decodeTagged bytes ACTION_TAG readActionInput fun input => validateActionEnvelope input "action"

def actionId [Keccak] (a : ActionEnvelope) : ActionId := keccakDigest (encodeActionEnvelope a)

def ACTION_PAYLOAD_TAG : String := "mandate-core/v1/payload/"

/-- The module is inside the hashed bytes: one module's payload is never another's. -/
def actionPayloadDigest [Keccak] (module : ModuleRef) (payload : Bytes) : CoreResult Digest32 :=
  if MAX_ACTION_PAYLOAD_BYTES < payload.length then fail .collectionTooLarge "payload"
  else .ok (keccakDigest (encodeWith (fun payload => taggedWriter ACTION_PAYLOAD_TAG ++
    (writeDigest module.moduleDigest.1 ++ (writeU32 payload.length ++ Writer.raw payload))) payload))

def otherInputOf {target : ResourceId} (resource : OtherThan target) : ResourceIdInput :=
  resourceIdInputOf resource.1

def actionEnvelopeInputOf (a : ActionEnvelope) : ActionEnvelopeInput :=
  ⟨partyIdInputOf a.principal, a.authority.toHex, partyIdInputOf a.actor, moduleRefInputOf a.module,
    a.actionType.1, adapterRefInputOf a.adapter, resourceIdInputOf a.target,
    a.resources.members.map otherInputOf, a.payloadDigest.toHex, .bigint a.window.notBefore.1,
    .bigint a.window.expiresAt.1, .bigint a.nonce.1⟩

variable {target : ResourceId}

theorem validateOther_self (resource : OtherThan target) (path : String) :
    validateOther target (otherInputOf resource) path = .ok resource := by
  simp only [validateOther, otherInputOf, validateAnyResource_self, bind, Except.bind, dif_pos resource.2]

theorem validateWindowFrom_self (startField : String) (window : Window) (path : String) :
    validateWindowFrom startField (.bigint window.notBefore.1) (.bigint window.expiresAt.1) path =
      .ok window := by
  simp only [validateWindowFrom, parseUnixSeconds_self, bind, Except.bind, dif_pos window.ordered]

theorem validateActionEnvelope_self (a : ActionEnvelope) (path : String) :
    validateActionEnvelope (actionEnvelopeInputOf a) path = .ok a := by
  simp only [validateActionEnvelope, actionEnvelopeInputOf, bind, Except.bind, validatePartyId_self,
    parseDigest_toHex, validateModuleRef_self, parseIdentifierAs_self, validateAdapterRef_self,
    validateAnyResource_self, validateMembers_self validateOther_self, validateWindowFrom_self,
    parseUint64_self]

theorem frames_other (resource : OtherThan target) :
    Frames (writeOther resource) readResourceIdInput (otherInputOf resource) 261 :=
  frames_resourceId resource.1

theorem frames_actionEnvelope (a : ActionEnvelope) :
    Frames (writeActionEnvelope a) readActionInput (actionEnvelopeInputOf a) 18167 := by
  refine Frames.mono (.bind (frames_party _) (.bind (frames_digest _) (.bind (frames_party _) (.bind
    (frames_moduleRef _) (.bind (frames_identifier _) (.bind (frames_adapterRef _) (.bind
      (frames_resourceId _) (.bind (frames_members frames_other a.resources) (.bind (frames_digest _)
        (.bind (frames_i64 _) (.bind (frames_i64 _) (.last (frames_u64_int _))))))))))))) ?_
  decide

@[simp] theorem total_other (resource : OtherThan target) : (writeOther resource).Total := total_resourceId resource.1

theorem total_actionEnvelope (a : ActionEnvelope) : (writeActionEnvelope a).Total := by
  simp (disch := first | decide | simp) [writeActionEnvelope]

theorem spells_other (target : ResourceId) :
    Spells readResourceIdInput (validateOther target) writeOther := by
  refine spells_anyResource.mono ?_
  intro used input spelled path resource valid
  simp only [validateOther, except_bind_ok, guard_ok] at valid
  obtain ⟨found, validated, _, same⟩ := valid
  cases same
  exact spelled path found validated

theorem validateWindowFrom_ok {startField : String} {notBefore expiresAt : IntegerInput}
    {path : String} {window : Window}
    (valid : validateWindowFrom startField notBefore expiresAt path = .ok window) :
    (∃ path, parseUnixSeconds notBefore path = .ok window.notBefore) ∧
      ∃ path, parseUnixSeconds expiresAt path = .ok window.expiresAt := by
  simp only [validateWindowFrom, except_bind_ok, guard_ok] at valid
  obtain ⟨_, startValid, _, stopValid, _, same⟩ := valid
  cases same
  exact ⟨⟨_, startValid⟩, ⟨_, stopValid⟩⟩

theorem spells_others : Consumes (readList MAX_ACTION_RESOURCES readResourceIdInput true)
    fun used inputs => ∀ target path set, validateMembers writeOther MAX_ACTION_RESOURCES
      (validateOther target) inputs path = .ok set → writeList writeOther set.members = some used := by
  have each := fun target => spells_members MAX_ACTION_RESOURCES (spells_other target)
  refine ((spells_members MAX_ACTION_RESOURCES spells_anyResource).all each).mono ?_
  rintro used inputs ⟨_, spelled⟩ target path set valid
  exact spelled target path set valid

theorem spells_actionEnvelope : Spells readActionInput validateActionEnvelope writeActionEnvelope := by
  refine (spells_party.bind fun _ => spells_digest.bind fun _ => spells_party.bind fun _ =>
    spells_moduleRef.bind fun _ => spells_identifier.bind fun _ => spells_adapterRef.bind fun _ =>
      spells_anyResource.bind fun _ => spells_others.bind fun _ => spells_digest.bind fun _ =>
        spells_i64.bind fun _ => spells_i64.bind fun _ => spells_u64.last).mono ?_
  rintro _ _ ⟨first, second, third, fourth, fifth, sixth, seventh, eighth, ninth, tenth, eleventh, ⟨twelfth⟩⟩ path a valid
  simp only [validateActionEnvelope, except_bind_ok] at valid
  obtain ⟨_, principalValid, _, authorityValid, _, actorValid, _, moduleValid, _, typeValid, _,
    adapterValid, _, targetValid, _, resourcesValid, _, digestValid, _, windowValid, _, nonceValid,
    same⟩ := valid
  cases same
  obtain ⟨⟨_, startValid⟩, _, stopValid⟩ := validateWindowFrom_ok windowValid
  exact written_append (first _ _ principalValid) (written_append (second _ _ authorityValid)
    (written_append (third _ _ actorValid) (written_append (fourth _ _ moduleValid)
      (written_append (fifth _ _ typeValid) (written_append (sixth _ _ adapterValid)
        (written_append (seventh _ _ targetValid) (written_append (eighth _ _ _ resourcesValid)
          (written_append (ninth _ _ digestValid) (written_append (tenth _ _ startValid)
            (written_append (eleventh _ _ stopValid) (twelfth _ _ nonceValid)))))))))))

end Mandate.Core
