import Mandate.Lib.Format
import Mandate.Core.Authority
import Mandate.Core.Execution

/-! The nine Core objects as tagged formats: each reads back what it writes, and accepts
without a mark only what it writes. -/
namespace Mandate.Core
open Lib.Wire Lib.Text

variable {tag : String}

theorem consumes_tag (ascii : Ascii tag) (short : tag.length ≤ 1024) :
    Consumes (readTag tag) fun used _ => taggedWriter tag = some used := by
  have version : Consumes (do
      let version ← readU16
      if version ≠ CORE_SCHEMA_VERSION then
        fun cursor => .error (.encodingUnsupportedVersion, cursor.offset - 2)
      else pure () : CoreReader Unit) fun used _ => writeU16 CORE_SCHEMA_VERSION = some used := by
    have body : ∀ version : Nat, Consumes (if version ≠ CORE_SCHEMA_VERSION then
        fun cursor => .error (.encodingUnsupportedVersion, cursor.offset - 2)
        else pure () : CoreReader Unit) fun used _ => version = CORE_SCHEMA_VERSION ∧ used = [] := by
      intro version
      split
      · intro start value stop run
        cases run
      · rename_i same
        refine (Consumes.pure ()).mono ?_
        rintro _ _ ⟨rfl, _⟩
        exact ⟨not_not.mp same, rfl⟩
    refine (consumes_u16.bind body).mono ?_
    rintro _ _ ⟨written, rfl, rfl⟩
    rw [List.append_nil]
    exact written
  have body : ∀ text : String, Consumes (if text ≠ tag then fun _ => .error (.encodingWrongTag, 0)
      else do
        let version ← readU16
        if version ≠ CORE_SCHEMA_VERSION then
          fun cursor => .error (.encodingUnsupportedVersion, cursor.offset - 2)
        else pure () : CoreReader Unit)
      fun used _ => text = tag ∧ writeU16 CORE_SCHEMA_VERSION = some used := by
    intro text
    split
    · intro start value stop run
      cases run
    · rename_i same
      refine version.mono ?_
      intro used _ written
      exact ⟨not_not.mp same, written⟩
  refine (consumes_str.bind body).mono ?_
  rintro _ _ ⟨spelled, rfl, written⟩
  exact written_append (spelled ascii short) written

abbrev AcceptsTerm {admits : AuthorityTerm → Bool} (validate : TermValidator admits)
    (input : AuthorityTermInput) (t : AuthorityTerm) : Prop :=
  ∃ path admitted, validate input path = .ok ⟨t, admitted⟩

variable {admits : AuthorityTerm → Bool} {path : String}

theorem validateTerms_ok {validate : TermValidator admits} {inputs : List AuthorityTermInput} {index : Nat} {seen : List TermKey}
    {terms : KeyedTerms admits inputs.length seen}
    (valid : validateTerms validate path inputs index seen = .ok terms) :
    List.Forall₂ (AcceptsTerm validate) inputs terms.items := by
  induction inputs generalizing index seen with
  | nil =>
    cases valid
    exact .nil
  | cons input inputs ih =>
    simp only [validateTerms, except_bind_ok, guard_ok] at valid
    obtain ⟨t, here, _, rest, tail, same⟩ := valid
    cases same
    exact .cons ⟨_, t.2, here⟩ (ih tail)

theorem spells_terms {max : Nat} {validate : TermValidator admits}
    (plain : ∀ input path t, validate input path = .ok t → validateTerm input path = .ok t.1) :
    Spells (readList max readTermInput true) (@validateTermList max _ validate)
      fun list => writeList writeTerm list.items := by
  refine (consumes_list max spells_term true).mono ?_
  rintro _ inputs ⟨header, body, rfl, counted, listed⟩ path list valid
  simp only [validateTermList, guard_ok, except_bind_ok] at valid
  obtain ⟨_, terms, validated, same⟩ := valid
  cases same
  have each : ∀ used input t, (∀ path value, validateTerm input path = .ok value →
      writeTerm value = some used) → AcceptsTerm validate input t → writeTerm t = some used := by
    rintro used input t spelled ⟨path, admitted, here⟩
    exact spelled path t (plain input path _ here)
  have valued := validateTerms_ok validated
  change writeList writeTerm (sortEncoded writeTerm terms.items) = _
  rw [sortEncoded_ascending (ascending_of_listed each listed valued).1, writeList, terms.sized]
  exact written_append counted (listed.written each valued)

theorem grantTerm_plain (input : AuthorityTermInput) (path : String)
    (t : {t : AuthorityTerm // (fun _ => true) t = true}) (valid : validateGrantTerm input path = .ok t) :
    validateTerm input path = .ok t.1 := by
  obtain ⟨found, here, rfl⟩ := except_map_success valid
  exact here

theorem validatePolicyTerm_ok {input : AuthorityTermInput}
    {t : {t : AuthorityTerm // isPolicyTerm t = true}} (valid : validatePolicyTerm input path = .ok t) :
    validateTerm input path = .ok t.1 := by
  simp only [validatePolicyTerm, unless_ok, guard_ok] at valid
  obtain ⟨_, _, valid⟩ := valid
  split at valid
  · rename_i found here
    cases valid
    exact here
  · cases valid

theorem spells_lineageBody (kind : LineageKind) : Consumes (readLineageBody kind)
    fun used input => ∀ path lineage, validateLineage input path = .ok lineage →
      lineage.kind = kind ∧ writeLineageBody lineage = some used := by
  cases kind with
  | root =>
    refine spells_party.map.mono ?_
    rintro used _ ⟨spelled⟩ path lineage valid
    simp only [validateLineage, except_map_ok] at valid
    obtain ⟨_, issuerValid, rfl⟩ := valid
    exact ⟨rfl, spelled _ _ issuerValid⟩
  | delegation =>
    refine (spells_digest.bind fun _ => spells_party.last).mono ?_
    rintro _ _ ⟨first, ⟨second⟩⟩ path lineage valid
    simp only [validateLineage, except_bind_ok] at valid
    obtain ⟨_, parentValid, _, issuerValid, same⟩ := valid
    cases same
    exact ⟨rfl, written_append (first _ _ parentValid) (second _ _ issuerValid)⟩

theorem spells_lineage : Spells readLineageInput validateLineage writeLineage := by
  refine ((consumes_code _).bind spells_lineageBody).mono ?_
  rintro _ input ⟨written, body⟩ path lineage valid
  obtain ⟨rfl, spelled⟩ := body path lineage valid
  exact written_append written spelled

theorem spells_grant : Spells readGrantInput validateAuthorityGrant writeGrantBody := by
  refine (spells_lineage.bind fun _ => spells_party.bind fun _ => spells_party.bind fun _ =>
    spells_i64.bind fun _ => spells_i64.bind fun _ => (spells_terms grantTerm_plain).bind fun _ =>
      spells_u64.last).mono ?_
  rintro _ _ ⟨first, second, third, fourth, fifth, sixth, ⟨seventh⟩⟩ path g valid
  simp only [validateAuthorityGrant, except_bind_ok, guard_ok] at valid
  obtain ⟨_, lineageValid, _, principalValid, _, _, holderValid, _, windowValid, _, termsValid, _,
    nonceValid, same⟩ := valid
  cases same
  obtain ⟨⟨_, startValid⟩, _, stopValid⟩ := validateWindow_ok windowValid
  exact written_append (first _ _ lineageValid) (written_append (second _ _ principalValid)
    (written_append (third _ _ holderValid) (written_append (fourth _ _ startValid)
      (written_append (fifth _ _ stopValid) (written_append (sixth _ _ termsValid)
        (seventh _ _ nonceValid))))))

theorem spells_policy : Spells readPolicyInput validatePrincipalPolicy writePolicyBody := by
  refine (spells_party.bind fun _ => spells_u64.bind fun _ => (spells_terms fun _ _ _ =>
    validatePolicyTerm_ok).bind fun _ => spells_u64.last).mono ?_
  rintro _ _ ⟨first, second, third, ⟨fourth⟩⟩ path p valid
  simp only [validatePrincipalPolicy, except_bind_ok] at valid
  obtain ⟨_, principalValid, _, sequenceValid, _, termsValid, _, nonceValid, same⟩ := valid
  cases same
  exact written_append (first _ _ principalValid) (written_append (second _ _ sequenceValid)
    (written_append (third _ _ termsValid) (fourth _ _ nonceValid)))

/-- A tagged object: its tag and schema version, its body, and no trailing bytes. -/
def tagged {ι α : Type} (tag : String) (write : α → Writer) (read : CoreReader ι)
    (validate : ι → CoreResult α) : Format CoreErrorCode CoreError ι α where
  write x := taggedWriter tag ++ write x
  read := whole (readTag tag) read .encodingTrailingBytes
  validate := validate

theorem decodeTagged_ok {ι α : Type} {write : α → Writer} {read : CoreReader ι}
    {validate : ι → CoreResult α} {bytes : Bytes} {x : α} :
    decodeTagged bytes tag read validate = .ok x ↔ (tagged tag write read validate).Accepts bytes x := by
  have same : (tagged tag write read validate).read = readTagged tag read := rfl
  simp only [decodeTagged, except_bind_ok, runReader, Format.Accepts, same]
  cases found : (readTagged tag read).run ⟨0, bytes, false⟩ with
  | error failed => simp [fail]
  | ok step =>
    obtain ⟨value, stop⟩ := step
    simp [tagged]

inductive CoreKind
  | grant | principalPolicy | action | stateEnvelope | stateBinding | quantity | reservationRef
  | authorization | executionBinding

namespace CoreKind

def Input : CoreKind → Type
  | grant => AuthorityGrantInput
  | principalPolicy => PrincipalPolicyInput
  | action => ActionEnvelopeInput
  | stateEnvelope => StateEnvelopeInput
  | stateBinding => StateBindingInput
  | quantity => EconomicQuantityInput
  | reservationRef => ReservationRefInput
  | authorization => ExecutionAuthorizationInput
  | executionBinding => ExecutionBindingRefInput

def Object : CoreKind → Type
  | grant => AuthorityGrant
  | principalPolicy => PrincipalPolicy
  | action => ActionEnvelope
  | stateEnvelope => StateEnvelope
  | stateBinding => StateBinding
  | quantity => EconomicQuantity
  | reservationRef => ReservationRef
  | authorization => ExecutionAuthorization
  | executionBinding => ExecutionBindingRef

def validate : (kind : CoreKind) → kind.Input → String → CoreResult kind.Object
  | grant => validateAuthorityGrant
  | principalPolicy => validatePrincipalPolicy
  | action => validateActionEnvelope
  | stateEnvelope => validateStateEnvelope
  | stateBinding => validateStateBinding
  | quantity => validateQuantity
  | reservationRef => validateReservationRef
  | authorization => validateExecutionAuthorization
  | executionBinding => validateExecutionBindingRef

def encode : (kind : CoreKind) → kind.Object → Bytes
  | grant => encodeAuthorityGrant
  | principalPolicy => encodePrincipalPolicy
  | action => encodeActionEnvelope
  | stateEnvelope => encodeStateEnvelope
  | stateBinding => encodeStateBinding
  | quantity => encodeQuantity
  | reservationRef => encodeReservationRef
  | authorization => encodeExecutionAuthorization
  | executionBinding => encodeExecutionBindingRef

def decode : (kind : CoreKind) → Bytes → CoreResult kind.Object
  | grant => decodeAuthorityGrant
  | principalPolicy => decodePrincipalPolicy
  | action => decodeActionEnvelope
  | stateEnvelope => decodeStateEnvelope
  | stateBinding => decodeStateBinding
  | quantity => decodeQuantity
  | reservationRef => decodeReservationRef
  | authorization => decodeExecutionAuthorization
  | executionBinding => decodeExecutionBindingRef

def format : (kind : CoreKind) → Format CoreErrorCode CoreError kind.Input kind.Object
  | grant => tagged AUTHORITY_TAG writeGrantBody readGrantInput (validateAuthorityGrant · "grant")
  | principalPolicy =>
    tagged PRINCIPAL_POLICY_TAG writePolicyBody readPolicyInput (validatePrincipalPolicy · "policy")
  | action => tagged ACTION_TAG writeActionEnvelope readActionInput (validateActionEnvelope · "action")
  | stateEnvelope =>
    tagged STATE_TAG writeStateEnvelope readStateEnvelopeInput (validateStateEnvelope · "state")
  | stateBinding =>
    tagged STATE_BINDING_TAG writeStateBinding readStateBindingInput (validateStateBinding · "binding")
  | quantity => tagged QUANTITY_TAG writeQuantityBody readQuantityInput (validateQuantity · "quantity")
  | reservationRef => tagged RESERVATION_REF_TAG writeReservationRef readReservationRefInput
    (validateReservationRef · "reservation")
  | authorization => tagged AUTHORIZATION_TAG writeExecutionAuthorization readAuthorizationInput
    (validateExecutionAuthorization · "authorization")
  | executionBinding => tagged EXECUTION_BINDING_TAG writeExecutionBindingRef readBindingRefInput
    (validateExecutionBindingRef · "executionBinding")

theorem encode_format (kind : CoreKind) (x : kind.Object) : kind.encode x = kind.format.encode x := by
  cases kind <;> rfl

theorem decode_format (kind : CoreKind) {bytes : Bytes} {x : kind.Object} :
    kind.decode bytes = .ok x ↔ kind.format.Accepts bytes x := by
  cases kind <;> exact decodeTagged_ok

end CoreKind

theorem tagged_lawful {ι α : Type} {write : α → Writer} {read : CoreReader ι}
    {f : ι → String → CoreResult α} {g : α → ι} {size : Nat} (path : String)
    (ascii : Ascii tag) (short : tag.length ≤ 1024) (total : ∀ x, (write x).Total)
    (framed : ∀ x, Frames (write x) read (g x) size)
    (own : ∀ x path, f (g x) path = .ok x) (spells : Spells read f write) :
    (tagged tag write read (f · path)).Lawful where
  total x := Writer.total_append (Writer.total_append (total_str ascii short) (total_u16 (by decide)))
    (total x)
  framed x bytes written := ⟨g x, whole_framed (frames_tag ascii) (framed x) written, own x path⟩
  spells := by
    refine (whole_spells .encodingTrailingBytes (consumes_tag ascii short) spells).mono ?_
    rintro _ input ⟨before, after, rfl, tagWritten, spelled⟩ x valid
    exact written_append tagWritten (spelled path x valid)
  ended _ _ _ run := whole_ended run

theorem CoreKind.lawful (kind : CoreKind) : kind.format.Lawful := by
  cases kind with
  | grant =>
    exact tagged_lawful _ (ascii_of_all (by decide)) (by decide) total_grant frames_grant
      validateAuthorityGrant_self spells_grant
  | principalPolicy =>
    exact tagged_lawful _ (ascii_of_all (by decide)) (by decide) total_policy frames_policy
      validatePrincipalPolicy_self spells_policy
  | action =>
    exact tagged_lawful _ (ascii_of_all (by decide)) (by decide) total_actionEnvelope frames_actionEnvelope
      validateActionEnvelope_self spells_actionEnvelope
  | stateEnvelope =>
    exact tagged_lawful _ (ascii_of_all (by decide)) (by decide) total_stateEnvelope frames_stateEnvelope
      validateStateEnvelope_self spells_stateEnvelope
  | stateBinding =>
    exact tagged_lawful _ (ascii_of_all (by decide)) (by decide) total_stateBinding frames_stateBinding
      validateStateBinding_self spells_stateBinding
  | quantity =>
    exact tagged_lawful _ (ascii_of_all (by decide)) (by decide) total_quantity frames_quantity
      validateQuantity_self spells_quantity
  | reservationRef =>
    exact tagged_lawful _ (ascii_of_all (by decide)) (by decide) total_reservationRef frames_reservationRef
      validateReservationRef_self spells_reservationRef
  | authorization =>
    exact tagged_lawful _ (ascii_of_all (by decide)) (by decide) total_executionAuthorization frames_executionAuthorization
      validateExecutionAuthorization_self spells_executionAuthorization
  | executionBinding =>
    exact tagged_lawful _ (ascii_of_all (by decide)) (by decide) total_executionBindingRef frames_executionBindingRef
      validateExecutionBindingRef_self spells_executionBindingRef

/-- The bytes a kind accepts are canonical exactly when none of their texts carries a mark. -/
theorem decode_canonical (kind : CoreKind) {bytes : Bytes} {x : kind.Object}
    (decoded : kind.decode bytes = .ok x) : kind.encode x = bytes ↔ kind.format.Unmarked bytes := by
  rw [CoreKind.encode_format]
  exact Format.encode_of_accepts kind.lawful ((CoreKind.decode_format kind).mp decoded)

def oneCount : EconomicQuantity where
  kind := .count
  unit := ⟨COUNT_UNIT, by decide⟩
  decimals := ⟨0, Nat.zero_le _⟩
  atoms := 1
  asset := none
  valuation := none
  counted := by decide
  range := by decide
  assetForm := .refl true
  valued := by decide

/-- The encoding of `oneCount` with a byte order mark before its unit. -/
def markedCountBytes : Bytes :=
  encodeWith (fun q : EconomicQuantity => taggedWriter QUANTITY_TAG ++
    (writeCode QUANTITY_KIND_CODE q.kind ++ (writeOpaqueBytes ([0xEF, 0xBB, 0xBF] ++ encodeText q.unit.1) ++
      (writeU8 q.decimals.1 ++ (writeAtoms q.kind q.atoms ++ (writeNullable writeResourceOf q.asset ++
        writeNullable writeValuation q.valuation)))))) oneCount

theorem marked_accepted : CoreKind.decode .quantity markedCountBytes = .ok oneCount ∧
    CoreKind.encode .quantity oneCount ≠ markedCountBytes := by
  change decodeQuantity markedCountBytes = .ok oneCount ∧ encodeQuantity oneCount ≠ markedCountBytes
  decide

theorem decode_canonical_marked : CoreKind.encode .quantity oneCount = markedCountBytes ↔
    (CoreKind.format .quantity).Unmarked markedCountBytes := by
  refine decode_canonical .quantity ?_
  change decodeQuantity markedCountBytes = .ok oneCount
  decide

end Mandate.Core
