import Mandate.Core.TermSpelling

/-! State envelopes and bindings: one observation of a state, and the part of it an
authorization depends on together with the requirement it met. -/
namespace Mandate.Core
open Lib.Wire

inductive SequenceKind | none | block | venueSequence | version
deriving DecidableEq

def SEQUENCE_CODE : WireCodes SequenceKind where
  keys := [.none, .block, .venueSequence, .version]
  code
    | .none => 1 | .block => 2 | .venueSequence => 3 | .version => 4
  width key := by cases key <;> decide
  unique key := by cases key <;> rfl

abbrev CountedSequence := {kind : SequenceKind // kind ≠ .none}

inductive StateSequenceInput
  | none
  | counted (kind : CountedSequence) (value : IntegerInput)

inductive StateSequence
  | none
  | counted (kind : CountedSequence) (value : Uint64)
deriving DecidableEq

def StateSequence.kind : StateSequence → SequenceKind
  | .none => .none
  | .counted kind _ => kind.1

def validateSequence (input : StateSequenceInput) (path : String) : CoreResult StateSequence :=
  match input with
  | .none => .ok .none
  | .counted kind value => .counted kind <$> parseUint64 value (atField path "value")

def writeSequenceValue : StateSequence → Writer
  | .none => Writer.raw []
  | .counted _ value => writeU64 value.1

def writeSequence (s : StateSequence) : Writer :=
  writeCode SEQUENCE_CODE s.kind ++ writeSequenceValue s

def readSequenceValue (kind : SequenceKind) : CoreReader StateSequenceInput :=
  if counts : kind ≠ .none then do
    let value ← (fun n : Nat => (n : Int)) <$> readU64
    pure (.counted ⟨kind, counts⟩ (.bigint value))
  else pure .none

def readSequenceInput : CoreReader StateSequenceInput := do
  let kind ← readCode SEQUENCE_CODE
  readSequenceValue kind

def sequenceInputOf : StateSequence → StateSequenceInput
  | .none => .none
  | .counted kind value => .counted kind (.bigint value.1)

def validAfter (observedAt : UnixSeconds) (validUntil : Option UnixSeconds) : Bool :=
  validUntil.all fun stop => decide (observedAt.1 < stop.1)

def validateValidity (observedAt : UnixSeconds) (validUntil : Option IntegerInput) (path : String) :
    CoreResult {validUntil : Option UnixSeconds // validAfter observedAt validUntil = true} :=
  match validUntil with
  | none => .ok ⟨none, rfl⟩
  | some raw => do
    let stop ← parseUnixSeconds raw path
    if later : validAfter observedAt (some stop) = true then .ok ⟨some stop, later⟩
    else fail .stateValidityInvalid path

def writeSeconds (seconds : UnixSeconds) : Writer := writeI64 seconds.1

def readSecondsInput : CoreReader IntegerInput := do
  let seconds ← readI64
  pure (.bigint seconds)

def secondsInputOf (seconds : UnixSeconds) : IntegerInput := .bigint seconds.1

structure StateEnvelopeInput where
  module : ModuleRefInput
  stateKind : String
  subject : ResourceIdInput
  sourceId : String
  trustClass : TrustClass
  observedAt : IntegerInput
  sequence : StateSequenceInput
  validUntil : Option IntegerInput
  finality : FinalityRefInput
  payloadDigest : String

structure StateEnvelope where
  module : ModuleRef
  stateKind : Identifier
  subject : ResourceId
  sourceId : Identifier
  trustClass : TrustClass
  observedAt : UnixSeconds
  sequence : StateSequence
  validUntil : Option UnixSeconds
  finality : FinalityRef
  payloadDigest : Digest32
  later : validAfter observedAt validUntil = true
deriving DecidableEq

def validateStateEnvelope (input : StateEnvelopeInput) (path : String) : CoreResult StateEnvelope := do
  let module ← validateModuleRef input.module (atField path "module")
  let stateKind ← parseIdentifierAs input.stateKind (atField path "stateKind")
  let subject ← validateAnyResource input.subject (atField path "subject")
  let sourceId ← parseIdentifierAs input.sourceId (atField path "sourceId")
  let observedAt ← parseUnixSeconds input.observedAt (atField path "observedAt")
  let sequence ← validateSequence input.sequence (atField path "sequence")
  let validUntil ← validateValidity observedAt input.validUntil (atField path "validUntil")
  let finality ← validateFinalityRef input.finality (atField path "finality")
  let payloadDigest ← parseDigest input.payloadDigest (atField path "payloadDigest")
  .ok ⟨module, stateKind, subject, sourceId, input.trustClass, observedAt, sequence, validUntil.1,
    finality, payloadDigest, validUntil.2⟩

def STATE_TAG : String := "mandate-core/v1/state"
def STATE_BINDING_TAG : String := "mandate-core/v1/state-binding"

def writeStateEnvelope (s : StateEnvelope) : Writer :=
  writeModuleRef s.module ++ (writeStr s.stateKind.1 ++ (writeResourceId s.subject ++
    (writeStr s.sourceId.1 ++ (writeCode TRUST_CLASS_CODE s.trustClass ++
      (writeI64 s.observedAt.1 ++ (writeSequence s.sequence ++
        (writeNullable writeSeconds s.validUntil ++ (writeFinality s.finality ++
          writeDigest s.payloadDigest))))))))

def encodeStateEnvelope (s : StateEnvelope) : Bytes :=
  encodeWith (fun s => taggedWriter STATE_TAG ++ writeStateEnvelope s) s

def readStateEnvelopeInput : CoreReader StateEnvelopeInput := do
  let module ← readModuleRefInput
  let stateKind ← readStr
  let subject ← readResourceIdInput
  let sourceId ← readStr
  let trustClass ← readCode TRUST_CLASS_CODE
  let observedAt ← readI64
  let sequence ← readSequenceInput
  let validUntil ← readNullable readSecondsInput
  let finality ← readFinalityInput
  let payloadDigest ← readDigest
  pure ⟨module, stateKind, subject, sourceId, trustClass, .bigint observedAt, sequence, validUntil,
    finality, payloadDigest⟩

def decodeStateEnvelope (bytes : Bytes) : CoreResult StateEnvelope :=
  decodeTagged bytes STATE_TAG readStateEnvelopeInput fun input => validateStateEnvelope input "state"

def stateId [Keccak] (s : StateEnvelope) : Digest32 := keccakDigest (encodeStateEnvelope s)

def stateEnvelopeInputOf (s : StateEnvelope) : StateEnvelopeInput :=
  ⟨moduleRefInputOf s.module, s.stateKind.1, resourceIdInputOf s.subject, s.sourceId.1, s.trustClass,
    .bigint s.observedAt.1, sequenceInputOf s.sequence, s.validUntil.map secondsInputOf,
    finalityInputOf s.finality, s.payloadDigest.toHex⟩

structure StateBindingInput where
  stateKind : String
  subject : ResourceIdInput
  sourceId : String
  trustClass : TrustClass
  sequence : StateSequenceInput
  observedAt : IntegerInput
  validUntil : Option IntegerInput
  finality : FinalityRefInput
  stateDigest : String
  requirement : StateRequirementInput

structure StateBinding where
  stateKind : Identifier
  subject : ResourceId
  sourceId : Identifier
  trustClass : AdmissibleTrustClass
  sequence : StateSequence
  observedAt : UnixSeconds
  validUntil : Option UnixSeconds
  finality : FinalityRef
  stateDigest : Digest32
  requirement : StateRequirement
  later : validAfter observedAt validUntil = true

def validateStateBinding (input : StateBindingInput) (path : String) : CoreResult StateBinding := do
  let stateKind ← parseIdentifierAs input.stateKind (atField path "stateKind")
  let subject ← validateAnyResource input.subject (atField path "subject")
  let sourceId ← parseIdentifierAs input.sourceId (atField path "sourceId")
  if admissible : input.trustClass ∈ ADMISSIBLE_TRUST then
    let sequence ← validateSequence input.sequence (atField path "sequence")
    let observedAt ← parseUnixSeconds input.observedAt (atField path "observedAt")
    let validUntil ← validateValidity observedAt input.validUntil (atField path "validUntil")
    let finality ← validateFinalityRef input.finality (atField path "finality")
    let stateDigest ← parseDigest input.stateDigest (atField path "stateDigest")
    let requirement ← validateStateRequirement input.requirement (atField path "requirement")
    .ok ⟨stateKind, subject, sourceId, ⟨input.trustClass, admissible⟩, sequence, observedAt,
      validUntil.1, finality, stateDigest, requirement, validUntil.2⟩
  else fail .trustClassNotAdmissible (atField path "trustClass")

def writeStateBinding (b : StateBinding) : Writer :=
  writeStr b.stateKind.1 ++ (writeResourceId b.subject ++ (writeStr b.sourceId.1 ++
    (writeCode TRUST_CLASS_CODE b.trustClass.1 ++ (writeSequence b.sequence ++
      (writeI64 b.observedAt.1 ++ (writeNullable writeSeconds b.validUntil ++
        (writeFinality b.finality ++ (writeDigest b.stateDigest ++ writeStateRequirement b.requirement))))))))

def encodeStateBinding (b : StateBinding) : Bytes :=
  encodeWith (fun b => taggedWriter STATE_BINDING_TAG ++ writeStateBinding b) b

def readStateBindingInput : CoreReader StateBindingInput := do
  let stateKind ← readStr
  let subject ← readResourceIdInput
  let sourceId ← readStr
  let trustClass ← readCode TRUST_CLASS_CODE
  let sequence ← readSequenceInput
  let observedAt ← readI64
  let validUntil ← readNullable readSecondsInput
  let finality ← readFinalityInput
  let stateDigest ← readDigest
  let requirement ← readStateRequirementInput
  pure ⟨stateKind, subject, sourceId, trustClass, sequence, .bigint observedAt, validUntil, finality,
    stateDigest, requirement⟩

def decodeStateBinding (bytes : Bytes) : CoreResult StateBinding :=
  decodeTagged bytes STATE_BINDING_TAG readStateBindingInput fun input =>
    validateStateBinding input "binding"

def stateBindingId [Keccak] (b : StateBinding) : Digest32 := keccakDigest (encodeStateBinding b)

def stateBindingInputOf (b : StateBinding) : StateBindingInput :=
  ⟨b.stateKind.1, resourceIdInputOf b.subject, b.sourceId.1, b.trustClass.1,
    sequenceInputOf b.sequence, .bigint b.observedAt.1, b.validUntil.map secondsInputOf,
    finalityInputOf b.finality, b.stateDigest.toHex, stateRequirementInputOf b.requirement⟩

/-- The dependency an admitted snapshot becomes: its provenance, its identity and the
requirement it was admitted under. -/
def bindState [Keccak] (envelope : StateEnvelope) (requirement : StateRequirementInput) (path : String) :
    CoreResult StateBinding :=
  if envelope.trustClass ∉ ADMISSIBLE_TRUST then fail .trustClassNotAdmissible (atField path "trustClass")
  else
    let e := stateEnvelopeInputOf envelope
    validateStateBinding ⟨e.stateKind, e.subject, e.sourceId, envelope.trustClass, e.sequence,
      e.observedAt, e.validUntil, e.finality, (stateId envelope).toHex, requirement⟩ path

@[simp] theorem validateSequence_self (s : StateSequence) (path : String) :
    validateSequence (sequenceInputOf s) path = .ok s := by
  cases s with
  | none => rfl
  | counted kind value => simp [validateSequence, sequenceInputOf]

variable {observedAt : UnixSeconds}

@[simp] theorem validateValidity_self {validUntil : Option UnixSeconds}
    (later : validAfter observedAt validUntil = true) (path : String) :
    validateValidity observedAt (validUntil.map secondsInputOf) path = .ok ⟨validUntil, later⟩ := by
  cases validUntil with
  | none => rfl
  | some stop =>
    simp only [validateValidity, Option.map_some, secondsInputOf, parseUnixSeconds_self, bind,
      Except.bind, dif_pos later]

theorem validateStateEnvelope_self (s : StateEnvelope) (path : String) :
    validateStateEnvelope (stateEnvelopeInputOf s) path = .ok s := by
  simp only [validateStateEnvelope, stateEnvelopeInputOf, bind, Except.bind, validateModuleRef_self,
    parseIdentifierAs_self, validateAnyResource_self, parseUnixSeconds_self, validateSequence_self,
    validateValidity_self s.later, validateFinalityRef_self, parseDigest_toHex]

theorem validateStateBinding_self (b : StateBinding) (path : String) :
    validateStateBinding (stateBindingInputOf b) path = .ok b := by
  simp only [validateStateBinding, stateBindingInputOf, bind, Except.bind, dif_pos b.trustClass.2,
    parseIdentifierAs_self, validateAnyResource_self, parseUnixSeconds_self, validateSequence_self,
    validateValidity_self b.later, validateFinalityRef_self, parseDigest_toHex, validateStateRequirement_self]

theorem frames_sequence (s : StateSequence) :
    Frames (writeSequence s) readSequenceInput (sequenceInputOf s) 9 := by
  refine (frames_code _ _).bind (n := 8) ?_
  cases s with
  | none => exact (Frames.pure _).mono (by decide)
  | counted kind value =>
    change Frames (writeU64 value.1) (readSequenceValue kind.1) (.counted kind (.bigint value.1)) 8
    rw [readSequenceValue, dif_pos kind.2]
    exact (frames_u64_int _).last

theorem frames_seconds (seconds : UnixSeconds) :
    Frames (writeSeconds seconds) readSecondsInput (secondsInputOf seconds) 8 :=
  (frames_i64 _).last

theorem frames_stateEnvelope (s : StateEnvelope) :
    Frames (writeStateEnvelope s) readStateEnvelopeInput (stateEnvelopeInputOf s) 1136 := by
  refine Frames.mono (.bind (frames_moduleRef _) (.bind (frames_identifier _) (.bind
    (frames_resourceId _) (.bind (frames_identifier _) (.bind (frames_code _ _) (.bind (frames_i64 _)
      (.bind (frames_sequence _) (.bind (frames_nullable frames_seconds _) (.bind (frames_finality _)
        (.last (frames_digest _))))))))))) ?_
  decide

theorem frames_stateBinding (b : StateBinding) :
    Frames (writeStateBinding b) readStateBindingInput (stateBindingInputOf b) 1270 := by
  refine Frames.mono (.bind (frames_identifier _) (.bind (frames_resourceId _) (.bind
    (frames_identifier _) (.bind (frames_code _ _) (.bind (frames_sequence _) (.bind (frames_i64 _)
      (.bind (frames_nullable frames_seconds _) (.bind (frames_finality _) (.bind (frames_digest _)
        (.last (frames_stateRequirement _))))))))))) ?_
  decide

@[simp] theorem total_sequence (s : StateSequence) : (writeSequence s).Total := by
  cases s <;> simp [writeSequence, writeSequenceValue]

@[simp] theorem total_finality (f : FinalityRef) : (writeFinality f).Total := by
  simp [writeFinality]

theorem total_stateEnvelope (s : StateEnvelope) : (writeStateEnvelope s).Total := by
  simp [writeStateEnvelope, @total_nullable _ writeSeconds total_i64]

@[simp] theorem total_stateBinding (b : StateBinding) : (writeStateBinding b).Total := by
  simp [writeStateBinding, @total_nullable _ writeSeconds total_i64]

theorem spells_sequenceValue (kind : SequenceKind) : Consumes (readSequenceValue kind)
    fun used input => ∀ path s, validateSequence input path = .ok s →
      s.kind = kind ∧ writeSequenceValue s = some used := by
  unfold readSequenceValue
  split
  · rename_i counts
    refine consumes_u64_int.last.mono ?_
    rintro used _ ⟨written⟩ path s valid
    simp only [validateSequence, except_map_ok] at valid
    obtain ⟨parsed, valueValid, rfl⟩ := valid
    refine ⟨rfl, ?_⟩
    change writeU64 parsed.1 = _
    rw [parseIntegerInRange_ok valueValid]
    exact written
  · rename_i absent
    refine (Consumes.pure _).mono ?_
    rintro _ _ ⟨rfl, rfl⟩ path s valid
    cases valid
    exact ⟨(not_not.mp absent).symm, rfl⟩

theorem spells_sequence : Spells readSequenceInput validateSequence writeSequence := by
  refine ((consumes_code _).bind spells_sequenceValue).mono ?_
  rintro _ input ⟨written, value⟩ path s valid
  obtain ⟨rfl, spelled⟩ := value path s valid
  exact written_append written spelled

theorem spells_seconds : Spells readSecondsInput parseUnixSeconds writeSeconds := by
  refine spells_i64.last.mono ?_
  rintro used _ ⟨spelled⟩
  exact spelled

theorem validateValidity_ok {raw : Option IntegerInput} {path : String}
    {validUntil : {validUntil : Option UnixSeconds // validAfter observedAt validUntil = true}}
    (valid : validateValidity observedAt raw path = .ok validUntil) :
    validateNullable parseUnixSeconds path raw = .ok validUntil.1 := by
  cases raw with
  | none =>
    cases valid
    rfl
  | some raw =>
    simp only [validateValidity, except_bind_ok, guard_ok] at valid
    obtain ⟨stop, parsed, _, same⟩ := valid
    cases same
    rw [validateNullable, parsed]
    rfl

theorem spells_stateEnvelope : Spells readStateEnvelopeInput validateStateEnvelope writeStateEnvelope := by
  refine (spells_moduleRef.bind fun _ => spells_identifier.bind fun _ => spells_anyResource.bind fun _ =>
    spells_identifier.bind fun _ => (consumes_code _).bind fun _ => spells_i64.bind fun _ =>
      spells_sequence.bind fun _ => (spells_nullable spells_seconds).bind fun _ =>
        spells_finality.bind fun _ => spells_digest.last).mono ?_
  rintro _ _ ⟨first, second, third,
    fourth, fifth, sixth, seventh, eighth, ninth, ⟨tenth⟩⟩ path s valid
  simp only [validateStateEnvelope, except_bind_ok] at valid
  obtain ⟨_, moduleValid, _, kindValid, _, subjectValid, _, sourceValid, _, observedValid, _,
    sequenceValid, _, validityValid, _, finalityValid, _, digestValid, same⟩ := valid
  cases same
  exact written_append (first _ _ moduleValid) (written_append (second _ _ kindValid)
    (written_append (third _ _ subjectValid) (written_append (fourth _ _ sourceValid)
      (written_append fifth (written_append (sixth _ _ observedValid)
        (written_append (seventh _ _ sequenceValid)
          (written_append (eighth _ _ (validateValidity_ok validityValid))
            (written_append (ninth _ _ finalityValid) (tenth _ _ digestValid)))))))))

theorem spells_stateBinding : Spells readStateBindingInput validateStateBinding writeStateBinding := by
  refine (spells_identifier.bind fun _ => spells_anyResource.bind fun _ => spells_identifier.bind fun _ =>
    (consumes_code _).bind fun _ => spells_sequence.bind fun _ => spells_i64.bind fun _ =>
      (spells_nullable spells_seconds).bind fun _ => spells_finality.bind fun _ =>
        spells_digest.bind fun _ => spells_stateRequirement.last).mono ?_
  rintro _ _ ⟨first, second, third, fourth, fifth, sixth, seventh, eighth, ninth, ⟨tenth⟩⟩ path b valid
  simp only [validateStateBinding, except_bind_ok, guard_ok] at valid
  obtain ⟨_, kindValid, _, subjectValid, _, sourceValid, _, _, sequenceValid, _, observedValid, _,
    validityValid, _, finalityValid, _, digestValid, _, requirementValid, same⟩ := valid
  cases same
  exact written_append (first _ _ kindValid) (written_append (second _ _ subjectValid)
    (written_append (third _ _ sourceValid) (written_append fourth
      (written_append (fifth _ _ sequenceValid) (written_append (sixth _ _ observedValid)
        (written_append (seventh _ _ (validateValidity_ok validityValid))
          (written_append (eighth _ _ finalityValid) (written_append (ninth _ _ digestValid)
            (tenth _ _ requirementValid)))))))))

end Mandate.Core
