import Mandate.Core.Action

/-! What an execution is bound to: the reservation it spends, the authorization it was
issued under and the exact reference its artifact carries. -/
namespace Mandate.Core
open Lib.Wire List

def MAX_STATE_BINDINGS : Nat := 64

/-- A `u64` that is at least 1: generation 0 is never a reservation. -/
abbrev ReservationGeneration := IntegerInRange 1 UINT64_MAX

def parseReservationGeneration (raw : IntegerInput) (path : String) :
    CoreResult ReservationGeneration := do
  let generation ← parseUint64 raw path
  if positive : 1 ≤ generation.1 then .ok ⟨generation.1, positive, generation.2.2⟩
  else fail .generationZero path

/-- The nodes a reservation charges, root first: order is data, and no node repeats. -/
structure LineageList where
  nodes : List AuthorityId
  bounded : nodes.length ≤ MAX_LINEAGE_LENGTH
  nonempty : nodes ≠ []
  distinct : nodes.Nodup

def parseLineage (path : String) : (inputs : List String) → Nat → (seen : List AuthorityId) →
    CoreResult {ids : List AuthorityId // ids.length = inputs.length ∧ ids.Nodup ∧ ∀ id ∈ ids, id ∉ seen}
  | [], _, _ => .ok ⟨[], rfl, nodup_nil, by simp⟩
  | input :: rest, index, seen => do
    let id ← parseDigest input (atIndex path index)
    if unseen : id ∉ seen then
      let ids ← parseLineage path rest (index + 1) (id :: seen)
      .ok ⟨id :: ids.1, congrArg (· + 1) ids.2.1,
        nodup_cons.mpr ⟨fun member => ids.2.2.2 id member (by simp), ids.2.2.1⟩, by
          intro other member
          rcases mem_cons.mp member with rfl | later
          · exact unseen
          · exact fun old => ids.2.2.2 other later (mem_cons_of_mem _ old)⟩
    else fail .lineageRepeatsNode (atIndex path index)

def validateLineageList (input : List String) (path : String) : CoreResult LineageList :=
  if bounded : input.length ≤ MAX_LINEAGE_LENGTH then
    if nonempty : input ≠ [] then do
      let ids ← parseLineage path input 0 []
      .ok ⟨ids.1, ids.2.1.le.trans bounded, fun empty => nonempty (length_eq_zero_iff.mp
        (by rw [← ids.2.1, empty]; rfl)), ids.2.2.1⟩
    else fail .collectionEmpty path
  else fail .collectionTooLarge path

structure ReservationRefInput where
  action : String
  generation : IntegerInput
  principal : PartyIdInput
  lineage : List String
  policy : String
  module : ModuleRefInput
  implementation : String
  adapter : AdapterRefInput
  ledgerVersion : IntegerInput

structure ReservationRef where
  action : ActionId
  generation : ReservationGeneration
  principal : PrincipalId
  lineage : LineageList
  policy : PrincipalPolicyId
  module : ModuleRef
  implementation : ImplementationDigest
  adapter : AdapterRef
  ledgerVersion : Uint64

def validateReservationRef (input : ReservationRefInput) (path : String) : CoreResult ReservationRef := do
  let action ← parseDigest input.action (atField path "action")
  let generation ← parseReservationGeneration input.generation (atField path "generation")
  let principal ← validatePartyId input.principal (atField path "principal")
  let lineage ← validateLineageList input.lineage (atField path "lineage")
  let policy ← parseDigest input.policy (atField path "policy")
  let module ← validateModuleRef input.module (atField path "module")
  let implementation ← parseNonZeroDigest input.implementation (atField path "implementation")
  let adapter ← validateAdapterRef input.adapter (atField path "adapter")
  let ledgerVersion ← parseUint64 input.ledgerVersion (atField path "ledgerVersion")
  .ok ⟨action, generation, principal, lineage, policy, module, implementation, adapter, ledgerVersion⟩

def RESERVATION_REF_TAG : String := "mandate-core/v1/reservation-ref"
def AUTHORIZATION_TAG : String := "mandate-core/v1/authorization"
def EXECUTION_BINDING_TAG : String := "mandate-core/v1/execution-binding"

def writeReservationRef (r : ReservationRef) : Writer :=
  writeDigest r.action ++ (writeU64 r.generation.1 ++ (writeParty r.principal ++
    (writeList writeDigest r.lineage.nodes ++ (writeDigest r.policy ++ (writeModuleRef r.module ++
      (writeDigest r.implementation.1 ++ (writeAdapterRef r.adapter ++ writeU64 r.ledgerVersion.1)))))))

def encodeReservationRef (r : ReservationRef) : Bytes :=
  encodeWith (fun r => taggedWriter RESERVATION_REF_TAG ++ writeReservationRef r) r

def readReservationRefInput : CoreReader ReservationRefInput := do
  let action ← readDigest
  let generation ← (fun n : Nat => (n : Int)) <$> readU64
  let principal ← readPartyInput
  let lineage ← readList MAX_LINEAGE_LENGTH readDigest false
  let policy ← readDigest
  let module ← readModuleRefInput
  let implementation ← readDigest
  let adapter ← readAdapterRefInput
  let ledgerVersion ← (fun n : Nat => (n : Int)) <$> readU64
  pure ⟨action, .bigint generation, principal, lineage, policy, module, implementation, adapter,
    .bigint ledgerVersion⟩

def decodeReservationRef (bytes : Bytes) : CoreResult ReservationRef :=
  decodeTagged bytes RESERVATION_REF_TAG readReservationRefInput fun input =>
    validateReservationRef input "reservation"

def reservationRefInputOf (r : ReservationRef) : ReservationRefInput :=
  ⟨r.action.toHex, .bigint r.generation.1, partyIdInputOf r.principal,
    r.lineage.nodes.map Digest32.toHex, r.policy.toHex, moduleRefInputOf r.module,
    r.implementation.1.toHex, adapterRefInputOf r.adapter, .bigint r.ledgerVersion.1⟩

structure ExecutionAuthorizationInput where
  reservation : ReservationRefInput
  stateBindings : List StateBindingInput
  attemptCeiling : IntegerInput

structure ExecutionAuthorization where
  reservation : ReservationRef
  stateBindings : CanonicalSet writeStateBinding MAX_STATE_BINDINGS
  attemptCeiling : UnixSeconds

def validateExecutionAuthorization (input : ExecutionAuthorizationInput) (path : String) :
    CoreResult ExecutionAuthorization := do
  let reservation ← validateReservationRef input.reservation (atField path "reservation")
  let stateBindings ← validateMembers writeStateBinding MAX_STATE_BINDINGS validateStateBinding
    input.stateBindings (atField path "stateBindings")
  let attemptCeiling ← parseUnixSeconds input.attemptCeiling (atField path "attemptCeiling")
  .ok ⟨reservation, stateBindings, attemptCeiling⟩

def writeExecutionAuthorization (a : ExecutionAuthorization) : Writer :=
  writeReservationRef a.reservation ++ (writeList writeStateBinding a.stateBindings.members ++
    writeI64 a.attemptCeiling.1)

def encodeExecutionAuthorization (a : ExecutionAuthorization) : Bytes :=
  encodeWith (fun a => taggedWriter AUTHORIZATION_TAG ++ writeExecutionAuthorization a) a

def readAuthorizationInput : CoreReader ExecutionAuthorizationInput := do
  let reservation ← readReservationRefInput
  let stateBindings ← readList MAX_STATE_BINDINGS readStateBindingInput true
  let attemptCeiling ← readI64
  pure ⟨reservation, stateBindings, .bigint attemptCeiling⟩

def decodeExecutionAuthorization (bytes : Bytes) : CoreResult ExecutionAuthorization :=
  decodeTagged bytes AUTHORIZATION_TAG readAuthorizationInput fun input =>
    validateExecutionAuthorization input "authorization"

def executionAuthorizationId [Keccak] (a : ExecutionAuthorization) : Digest32 :=
  keccakDigest (encodeExecutionAuthorization a)

def executionAuthorizationInputOf (a : ExecutionAuthorization) : ExecutionAuthorizationInput :=
  ⟨reservationRefInputOf a.reservation, a.stateBindings.members.map stateBindingInputOf,
    .bigint a.attemptCeiling.1⟩

structure ExecutionBindingRefInput where
  authorization : String
  action : String
  generation : IntegerInput
  module : ModuleRefInput
  adapter : AdapterRefInput
  stateBindings : List String
  parameters : String

structure ExecutionBindingRef where
  authorization : Digest32
  action : ActionId
  generation : ReservationGeneration
  module : ModuleRef
  adapter : AdapterRef
  stateBindings : CanonicalSet writeDigest MAX_STATE_BINDINGS
  parameters : Digest32

def validateExecutionBindingRef (input : ExecutionBindingRefInput) (path : String) :
    CoreResult ExecutionBindingRef := do
  let authorization ← parseDigest input.authorization (atField path "authorization")
  let action ← parseDigest input.action (atField path "action")
  let generation ← parseReservationGeneration input.generation (atField path "generation")
  let module ← validateModuleRef input.module (atField path "module")
  let adapter ← validateAdapterRef input.adapter (atField path "adapter")
  let stateBindings ← validateMembers writeDigest MAX_STATE_BINDINGS parseDigest input.stateBindings
    (atField path "stateBindings")
  let parameters ← parseDigest input.parameters (atField path "parameters")
  .ok ⟨authorization, action, generation, module, adapter, stateBindings, parameters⟩

def writeExecutionBindingRef (b : ExecutionBindingRef) : Writer :=
  writeDigest b.authorization ++ (writeDigest b.action ++ (writeU64 b.generation.1 ++
    (writeModuleRef b.module ++ (writeAdapterRef b.adapter ++
      (writeList writeDigest b.stateBindings.members ++ writeDigest b.parameters)))))

def encodeExecutionBindingRef (b : ExecutionBindingRef) : Bytes :=
  encodeWith (fun b => taggedWriter EXECUTION_BINDING_TAG ++ writeExecutionBindingRef b) b

def readBindingRefInput : CoreReader ExecutionBindingRefInput := do
  let authorization ← readDigest
  let action ← readDigest
  let generation ← (fun n : Nat => (n : Int)) <$> readU64
  let module ← readModuleRefInput
  let adapter ← readAdapterRefInput
  let stateBindings ← readList MAX_STATE_BINDINGS readDigest true
  let parameters ← readDigest
  pure ⟨authorization, action, .bigint generation, module, adapter, stateBindings, parameters⟩

def decodeExecutionBindingRef (bytes : Bytes) : CoreResult ExecutionBindingRef :=
  decodeTagged bytes EXECUTION_BINDING_TAG readBindingRefInput fun input =>
    validateExecutionBindingRef input "executionBinding"

def executionBindingRefInputOf (b : ExecutionBindingRef) : ExecutionBindingRefInput :=
  ⟨b.authorization.toHex, b.action.toHex, .bigint b.generation.1, moduleRefInputOf b.module,
    adapterRefInputOf b.adapter, b.stateBindings.members.map Digest32.toHex, b.parameters.toHex⟩

@[simp] theorem parseReservationGeneration_self (generation : ReservationGeneration) (path : String) :
    parseReservationGeneration (.bigint generation.1) path = .ok generation := by
  have bound := generation.2
  have parsed := parseUint64_self ⟨generation.1, by omega, bound.2⟩ path
  simp only [parseReservationGeneration, bind, Except.bind, parsed, dif_pos bound.1]

theorem parseLineage_self (path : String) (ids : List AuthorityId) (index : Nat)
    (seen : List AuthorityId) (distinct : ids.Nodup) (fresh : ∀ id ∈ ids, id ∉ seen) :
    ∃ out, parseLineage path (ids.map Digest32.toHex) index seen = .ok out ∧ out.1 = ids := by
  induction ids generalizing index seen with
  | nil => exact ⟨_, rfl, rfl⟩
  | cons id ids ih =>
    obtain ⟨headFresh, tailDistinct⟩ := nodup_cons.mp distinct
    have unseen := fresh id (by simp)
    have apart : ∀ other ∈ ids, other ∉ id :: seen := by
      intro other member old
      rcases mem_cons.mp old with rfl | old
      · exact headFresh member
      · exact fresh other (by simp [member]) old
    obtain ⟨out, rest, same⟩ := ih (index + 1) (id :: seen) tailDistinct apart
    have whole : ∃ out, parseLineage path (id.toHex :: ids.map Digest32.toHex) index seen = .ok out ∧
        out.1 = id :: ids := by
      simp only [parseLineage, parseDigest_toHex, rest, bind, Except.bind, dif_pos unseen]
      exact ⟨_, rfl, congrArg (List.cons id) same⟩
    exact whole

theorem validateLineageList_self (lineage : LineageList) (path : String) :
    validateLineageList (lineage.nodes.map Digest32.toHex) path = .ok lineage := by
  obtain ⟨⟨_, _⟩, parsed, rfl⟩ := parseLineage_self path lineage.nodes 0 [] lineage.distinct (by simp)
  have bounded : (lineage.nodes.map Digest32.toHex).length ≤ MAX_LINEAGE_LENGTH := by
    rw [length_map]
    exact lineage.bounded
  have nonempty : lineage.nodes.map Digest32.toHex ≠ [] := by
    simpa using lineage.nonempty
  simp only [validateLineageList, dif_pos bounded, dif_pos nonempty, parsed, bind, Except.bind]

theorem validateReservationRef_self (r : ReservationRef) (path : String) :
    validateReservationRef (reservationRefInputOf r) path = .ok r := by
  simp only [validateReservationRef, reservationRefInputOf, bind, Except.bind, parseDigest_toHex,
    parseReservationGeneration_self, validatePartyId_self, validateLineageList_self,
    validateModuleRef_self, parseNonZeroDigest_toHex, validateAdapterRef_self, parseUint64_self]

theorem validateExecutionAuthorization_self (a : ExecutionAuthorization) (path : String) :
    validateExecutionAuthorization (executionAuthorizationInputOf a) path = .ok a := by
  simp only [validateExecutionAuthorization, executionAuthorizationInputOf, bind, Except.bind,
    validateReservationRef_self, validateMembers_self validateStateBinding_self, parseUnixSeconds_self]

theorem validateExecutionBindingRef_self (b : ExecutionBindingRef) (path : String) :
    validateExecutionBindingRef (executionBindingRefInputOf b) path = .ok b := by
  simp only [validateExecutionBindingRef, executionBindingRefInputOf, bind, Except.bind,
    parseDigest_toHex, parseReservationGeneration_self, validateModuleRef_self, validateAdapterRef_self,
    validateMembers_self parseDigest_toHex]

theorem frames_lineageList (lineage : LineageList) :
    Frames (writeList writeDigest lineage.nodes) (readList MAX_LINEAGE_LENGTH readDigest false)
      (lineage.nodes.map Digest32.toHex) 258 := by
  refine (frames_list (n := fun _ => 32) lineage.bounded fun id _ => frames_digest id).mono ?_
  have bounded := lineage.bounded
  simp only [map_const', sum_replicate_nat, MAX_LINEAGE_LENGTH, MAX_DELEGATION_DEPTH]
    at bounded ⊢
  omega

theorem frames_reservationRef (r : ReservationRef) :
    Frames (writeReservationRef r) readReservationRefInput (reservationRefInputOf r) 1092 := by
  refine Frames.mono (.bind (frames_digest _) (.bind (frames_u64_int _) (.bind (frames_party _) (.bind
    (frames_lineageList _) (.bind (frames_digest _) (.bind (frames_moduleRef _) (.bind (frames_digest _)
      (.bind (frames_adapterRef _) (.last (frames_u64_int _)))))))))) ?_
  decide

theorem frames_executionAuthorization (a : ExecutionAuthorization) :
    Frames (writeExecutionAuthorization a) readAuthorizationInput (executionAuthorizationInputOf a)
      82382 := by
  refine Frames.mono (.bind (frames_reservationRef _) (.bind (frames_members frames_stateBinding
    a.stateBindings) (.last (frames_i64 _)))) ?_
  decide

theorem frames_executionBindingRef (b : ExecutionBindingRef) :
    Frames (writeExecutionBindingRef b) readBindingRefInput (executionBindingRefInputOf b) 2616 := by
  refine Frames.mono (.bind (frames_digest _) (.bind (frames_digest _) (.bind (frames_u64_int _) (.bind
    (frames_moduleRef _) (.bind (frames_adapterRef _) (.bind (frames_members frames_digest
      b.stateBindings) (.last (frames_digest _)))))))) ?_
  decide

@[simp] theorem total_generation (generation : ReservationGeneration) : (writeU64 generation.1).Total := by
  have bound := generation.2
  exact total_u64 ⟨generation.1, by omega, bound.2⟩

@[simp] theorem total_lineageList (lineage : LineageList) : (writeList writeDigest lineage.nodes).Total :=
  total_list (lineage.bounded.trans_lt (by decide)) fun id _ => total_digest id

@[simp] theorem total_reservationRef (r : ReservationRef) : (writeReservationRef r).Total := by
  simp [writeReservationRef]

theorem total_executionAuthorization (a : ExecutionAuthorization) : (writeExecutionAuthorization a).Total := by
  simp (disch := first | decide | simp) [writeExecutionAuthorization]

theorem total_executionBindingRef (b : ExecutionBindingRef) : (writeExecutionBindingRef b).Total := by
  simp (disch := first | decide | simp) [writeExecutionBindingRef]

theorem spells_generation : Spells ((fun n : Nat => (n : Int)) <$> readU64)
    (fun raw path => parseReservationGeneration (.bigint raw) path)
    fun generation => writeU64 generation.1 := by
  refine consumes_u64_int.mono ?_
  intro used raw written path generation valid
  simp only [parseReservationGeneration, except_bind_ok, guard_ok] at valid
  obtain ⟨found, parsed, _, same⟩ := valid
  cases same
  obtain rfl := parseIntegerInRange_ok parsed
  exact written

theorem parseLineage_ok {path : String} {inputs : List String} {index : Nat}
    {seen : List AuthorityId} {ids : {ids : List AuthorityId //
      ids.length = inputs.length ∧ ids.Nodup ∧ ∀ id ∈ ids, id ∉ seen}}
    (valid : parseLineage path inputs index seen = .ok ids) :
    List.Forall₂ (fun input id => ∃ path, parseDigest input path = .ok id) inputs ids.1 := by
  induction inputs generalizing index seen with
  | nil =>
    cases valid
    exact .nil
  | cons input inputs ih =>
    simp only [parseLineage, except_bind_ok, guard_ok] at valid
    obtain ⟨id, here, _, rest, tail, same⟩ := valid
    cases same
    exact .cons ⟨_, here⟩ (ih tail)

theorem spells_lineageList : Spells (readList MAX_LINEAGE_LENGTH readDigest false) validateLineageList
    fun lineage => writeList writeDigest lineage.nodes := by
  refine (consumes_list MAX_LINEAGE_LENGTH spells_digest false).mono ?_
  rintro _ inputs ⟨header, body, rfl, counted, listed⟩ path lineage valid
  simp only [validateLineageList, guard_ok, except_bind_ok] at valid
  obtain ⟨_, _, ids, parsed, same⟩ := valid
  cases same
  have each : ∀ used input id, (∀ path value, parseDigest input path = .ok value →
      writeDigest value = some used) → (∃ path, parseDigest input path = .ok id) →
      writeDigest id = some used := by
    rintro used input id spelled ⟨path, here⟩
    exact spelled path id here
  change writeList writeDigest ids.1 = _
  rw [writeList, ids.2.1]
  exact written_append counted (listed.written each (parseLineage_ok parsed))

theorem spells_reservationRef :
    Spells readReservationRefInput validateReservationRef writeReservationRef := by
  refine (spells_digest.bind fun _ => spells_generation.bind fun _ => spells_party.bind fun _ =>
    spells_lineageList.bind fun _ => spells_digest.bind fun _ => spells_moduleRef.bind fun _ =>
      spells_nonZeroDigest.bind fun _ => spells_adapterRef.bind fun _ => spells_u64.last).mono ?_
  rintro _ _ ⟨first, second, third,
    fourth, fifth, sixth, seventh, eighth, ⟨ninth⟩⟩ path r valid
  simp only [validateReservationRef, except_bind_ok] at valid
  obtain ⟨_, actionValid, _, generationValid, _, principalValid, _, lineageValid, _, policyValid, _,
    moduleValid, _, implementationValid, _, adapterValid, _, versionValid, same⟩ := valid
  cases same
  exact written_append (first _ _ actionValid) (written_append (second _ _ generationValid)
    (written_append (third _ _ principalValid) (written_append (fourth _ _ lineageValid)
      (written_append (fifth _ _ policyValid) (written_append (sixth _ _ moduleValid)
        (written_append (seventh _ _ implementationValid) (written_append (eighth _ _ adapterValid)
          (ninth _ _ versionValid))))))))

theorem spells_executionAuthorization :
    Spells readAuthorizationInput validateExecutionAuthorization writeExecutionAuthorization := by
  refine (spells_reservationRef.bind fun _ => (spells_members MAX_STATE_BINDINGS
    spells_stateBinding).bind fun _ => spells_i64.last).mono ?_
  rintro _ _ ⟨first, second, ⟨third⟩⟩ path a valid
  simp only [validateExecutionAuthorization, except_bind_ok] at valid
  obtain ⟨_, reservationValid, _, bindingsValid, _, ceilingValid, same⟩ := valid
  cases same
  exact written_append (first _ _ reservationValid) (written_append (second _ _ bindingsValid)
    (third _ _ ceilingValid))

theorem spells_executionBindingRef :
    Spells readBindingRefInput validateExecutionBindingRef writeExecutionBindingRef := by
  refine (spells_digest.bind fun _ => spells_digest.bind fun _ => spells_generation.bind fun _ =>
    spells_moduleRef.bind fun _ => spells_adapterRef.bind fun _ => (spells_members MAX_STATE_BINDINGS
      spells_digest).bind fun _ => spells_digest.last).mono ?_
  rintro _ _ ⟨first, second, third,
    fourth, fifth, sixth, ⟨seventh⟩⟩ path b valid
  simp only [validateExecutionBindingRef, except_bind_ok] at valid
  obtain ⟨_, authorizationValid, _, actionValid, _, generationValid, _, moduleValid, _, adapterValid, _,
    bindingsValid, _, parametersValid, same⟩ := valid
  cases same
  exact written_append (first _ _ authorizationValid) (written_append (second _ _ actionValid)
    (written_append (third _ _ generationValid) (written_append (fourth _ _ moduleValid)
      (written_append (fifth _ _ adapterValid) (written_append (sixth _ _ bindingsValid)
        (seventh _ _ parametersValid))))))

end Mandate.Core
