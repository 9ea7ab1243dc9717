import Mandate.Core.Terms

/-! Every authority term validates as itself and frames its own input, so its encoding
determines it; sizes bound what one term can take of an embedding segment. -/
namespace Mandate.Core
open Lib.Wire Lib.Text List
open Writer (total_append)

theorem validateEach_self {ι α : Type} {f : ι → String → CoreResult α} {g : α → ι}
    (valid : ∀ item path, f (g item) path = .ok item) (path : String) (items : List α) (index : Nat) :
    ∃ out, validateEach f path (items.map g) index = .ok out ∧ out.1 = items := by
  induction items generalizing index with
  | nil => exact ⟨⟨[], rfl⟩, rfl, rfl⟩
  | cons item items ih =>
    obtain ⟨out, rest, same⟩ := ih (index + 1)
    refine ⟨⟨item :: out.1, by simp [same]⟩, ?_, congrArg (List.cons item) same⟩
    change validateEach f path (g item :: items.map g) index = _
    simp only [validateEach, valid, rest, bind, Except.bind]

variable {max : Nat}

theorem validateMembers_self {ι α : Type} {write : α → Writer} {f : ι → String → CoreResult α} {g : α → ι}
    (valid : ∀ item path, f (g item) path = .ok item) (set : CanonicalSet write max) (path : String) :
    validateMembers write max f (set.members.map g) path = .ok set := by
  obtain ⟨⟨_, _⟩, each, rfl⟩ := validateEach_self valid path set.members 0
  have fits : (set.members.map g).length ≤ max := by
    rw [length_map]
    exact set.bounded
  rw [validateMembers, dif_pos fits]
  simp only [bind, Except.bind, each]
  exact canonicalSet_self set path

theorem frames_members {α β : Type} {write : α → Writer} {read : CoreReader β} {v : α → β}
    {size max : Nat} (each : ∀ item, Frames (write item) read (v item) size) (set : CanonicalSet write max) :
    Frames (writeList write set.members) (readList max read true) (set.members.map v) (2 + max * size) := by
  have frames := frames_set (n := fun _ => size) set.bounded (fun item _ => each item) set.ascending
  refine frames.mono ?_
  simp only [map_const', sum_replicate_nat]
  have fewer := Nat.mul_le_mul_right size set.bounded
  omega

@[simp] theorem total_members {α : Type} {write : α → Writer} (all : ∀ item, (write item).Total)
    (width : max < 65536) (set : CanonicalSet write max) : (writeList write set.members).Total :=
  total_list (set.bounded.trans_lt width) fun item _ => all item

@[simp] theorem validateActionTypeRef_self (a : ActionTypeRef) (path : String) :
    validateActionTypeRef (actionTypeInputOf a) path = .ok a := by
  simp [validateActionTypeRef, actionTypeInputOf, bind, Except.bind]

theorem frames_actionTypeRef (a : ActionTypeRef) :
    Frames (writeActionTypeRef a) readActionTypeRefInput (actionTypeInputOf a) 260 := by
  refine Frames.mono (.bind (frames_identifier _) (.last (frames_identifier _))) ?_
  decide

@[simp] theorem total_actionTypeRef (a : ActionTypeRef) : (writeActionTypeRef a).Total := by
  simp [writeActionTypeRef]

@[simp] theorem validateResourceIn_self {allowed : List ResourceKind} (resource : ResourceOf allowed)
    (path : String) : validateResourceIn allowed (resourceOfInputOf resource) path = .ok resource :=
  validateResourceId_self resource path

theorem validateSetTerm_self (t : SetConstraintTerm) (path : String) :
    validateSetTerm (setTermInputOf t) path = .ok t := by
  cases t with
  | modules set => simp [validateSetTerm, setTermInputOf, validateMembers_self validateModuleRef_self]
  | adapters set => simp [validateSetTerm, setTermInputOf, validateMembers_self validateAdapterRef_self]
  | resources vocabulary set =>
    simp [validateSetTerm, setTermInputOf, validateMembers_self validateResourceIn_self]
  | actionTypes set =>
    simp [validateSetTerm, setTermInputOf, validateMembers_self validateActionTypeRef_self]

theorem frames_resources (vocabulary : ResourceVocabulary)
    (set : CanonicalSet (@writeResourceOf vocabulary.kinds) MAX_SET_MEMBERS) :
    Frames (writeList writeResourceOf set.members) (readResources vocabulary)
      (.resources vocabulary (set.members.map resourceOfInputOf)) 75778 :=
  ((frames_members frames_resourceOf set).mono (by decide)).map

theorem frames_setTerm (t : SetConstraintTerm) :
    Frames (writeSetTerm t) readSetTermInput (setTermInputOf t) 75779 := by
  refine Frames.mono (.bind (frames_code _ _) (n := 75778) ?_) (by decide)
  cases t with
  | modules set => exact ((frames_members frames_moduleRef set).mono (by decide)).map
  | adapters set => exact ((frames_members frames_adapterRef set).mono (by decide)).map
  | resources vocabulary set =>
    cases vocabulary with
    | markets => exact frames_resources .markets set
    | assets => exact frames_resources .assets set
    | venues => exact frames_resources .venues set
    | recipients => exact frames_resources .recipients set
  | actionTypes set => exact ((frames_members frames_actionTypeRef set).mono (by decide)).map

@[simp] theorem total_setTerm (t : SetConstraintTerm) : (writeSetTerm t).Total := by
  cases t <;> simp (disch := first | decide | simp) [writeSetTerm, writeSetMembers]

theorem validateRightTerm_self (t : RightTerm) (path : String) :
    validateRightTerm (rightTermInputOf t) path = .ok t := by
  cases t with
  | plain right => rfl
  | delegate maxDepth =>
    have safe : maxDepth.1 ≤ MAX_SAFE_INTEGER := maxDepth.2.2.trans (by decide)
    have parsed := parseSmallUint_self (Nat.le_refl MAX_SAFE_INTEGER) ⟨maxDepth.1, safe⟩
    simp [validateRightTerm, rightTermInputOf, parsed, bind, Except.bind, maxDepth.2]

theorem frames_rightTerm (t : RightTerm) :
    Frames (writeRightTerm t) readRightTermInput (rightTermInputOf t) 2 := by
  refine .bind (frames_code _ _) (n := 1) ?_
  cases t with
  | plain right =>
    change Frames (Writer.raw []) (readRightDepth right.1) (.plain right) 1
    rw [readRightDepth, dif_pos right.2]
    exact (Frames.pure _).mono (Nat.zero_le 1)
  | delegate maxDepth => exact (frames_u8 _).last

@[simp] theorem total_rightTerm (t : RightTerm) : (writeRightTerm t).Total := by
  refine total_append (total_code _ _) ?_
  cases t with
  | plain right => exact Writer.total_raw _
  | delegate maxDepth =>
    exact total_u8 (Nat.lt_of_le_of_lt maxDepth.2.2 (by decide))

theorem validateBoundTerm_self (t : PerActionBoundTerm) (path : String) :
    validateBoundTerm (boundTermInputOf t) path = .ok t := by
  obtain ⟨boundId, polarity, value⟩ := t
  cases value <;> simp [validateBoundTerm, validateBoundValue, boundTermInputOf, boundValueInputOf,
    bind, Except.bind]

theorem frames_boundTerm (t : PerActionBoundTerm) :
    Frames (writeBoundTerm t) readBoundTermInput (boundTermInputOf t) 200 := by
  have value : Frames (writeBoundValue t.value) (readBoundValue t.value.type)
      (boundValueInputOf t.value) 68 := by
    cases t.value with
    | quantity quantity => exact (frames_quantityBound quantity).map
    | ratio ratio => exact ((frames_ratio ratio).mono (by decide)).map
  refine Frames.mono (.bind (frames_identifier _) (.bind (frames_code _ _)
    (.bind (frames_code _ _) (.last value)))) ?_
  decide

@[simp] theorem total_boundTerm (t : PerActionBoundTerm) : (writeBoundTerm t).Total := by
  cases value : t.value <;> simp [writeBoundTerm, writeBoundValue, value]

@[simp] theorem validateWindow_self (window : Window) (path : String) :
    validateWindow (.bigint window.notBefore.1) (.bigint window.expiresAt.1) path = .ok window := by
  simp only [validateWindow, parseUnixSeconds_self, bind, Except.bind, dif_pos window.ordered]

theorem validateTimeWindowTerm_self (t : TimeWindowTerm) (path : String) :
    validateTimeWindowTerm (timeWindowInputOf t) path = .ok t := by
  simp [validateTimeWindowTerm, timeWindowInputOf, bind, Except.bind]

theorem frames_timeWindowTerm (t : TimeWindowTerm) :
    Frames (writeTimeWindowTerm t) readTimeWindowTermInput (timeWindowInputOf t) 146 := by
  refine Frames.mono (.bind (frames_identifier _) (.bind (frames_i64 _) (.last (frames_i64 _)))) ?_
  decide

@[simp] theorem total_timeWindowTerm (t : TimeWindowTerm) : (writeTimeWindowTerm t).Total := by
  simp [writeTimeWindowTerm]

theorem validateNullable_self {ι α : Type} {f : ι → String → CoreResult α} {g : α → ι}
    (valid : ∀ item path, f (g item) path = .ok item) (path : String) (item : Option α) :
    validateNullable f path (item.map g) = .ok item := by
  cases item with
  | none => rfl
  | some item => simp [validateNullable, valid]

theorem validateScope_self (s : DimensionScope) (path : String) :
    validateScope (scopeInputOf s) path = .ok s := by
  simp only [validateScope, scopeInputOf, bind, Except.bind, validateNullable_self validateResourceIn_self,
    validateNullable_self (g := identifierTextOf) parseIdentifierAs_self]

theorem validateEpochOf_self {restoration : Restoration} {epoch : Option Epoch}
    (epochal : epoch.isSome = true ↔ restoration = .epoch) (path : String) :
    validateEpochOf restoration (epoch.map epochInputOf) path = .ok ⟨epoch, epochal⟩ := by
  cases epoch with
  | none =>
    have other : restoration ≠ .epoch := fun same => by simp [same] at epochal
    simp [validateEpochOf, other]
  | some epoch =>
    have same : restoration = .epoch := epochal.mp rfl
    have length := epoch.lengthSeconds.2
    have parsed := @parseIntegerInRange_self 0 UINT32_MAX ⟨epoch.lengthSeconds.1, by omega, length.2⟩
    simp [validateEpochOf, validateEpoch, epochInputOf, same, bind, Except.bind, parsed, length, Except.map]

theorem validateDimensionTerm_self (t : LedgerDimensionTerm) (path : String) :
    validateDimensionTerm (dimensionTermInputOf t) path = .ok t := by
  simp only [validateDimensionTerm, dimensionTermInputOf, bind, Except.bind, parseIdentifierAs_self,
    validateQuantityBound_self, dif_pos t.trackable, dif_pos t.family,
    validateEpochOf_self t.epochal, dif_pos t.signFits, validateScope_self]

private theorem frames_epoch (e : Epoch) : Frames (writeEpoch e) readEpochInput (epochInputOf e) 12 :=
  Frames.mono (.bind (frames_i64 _) (.last (frames_u32_int _))) (by decide)

theorem frames_domain (domain : DomainId) :
    Frames (writeDomain domain) readStr (identifierTextOf domain) 130 := frames_identifier domain

theorem frames_scope (s : DimensionScope) : Frames (writeScope s) readScopeInput (scopeInputOf s) 917 := by
  refine Frames.mono (.bind (frames_nullable frames_resourceOf _) (.bind
    (frames_nullable frames_resourceOf _) (.bind (frames_nullable frames_domain _)
      (.last (frames_nullable frames_resourceOf _))))) ?_
  decide

theorem frames_dimensionTerm (t : LedgerDimensionTerm) :
    Frames (writeDimensionTerm t) readDimensionTermInput (dimensionTermInputOf t) 1131 := by
  refine Frames.mono (.bind (frames_identifier _) (.bind (frames_quantityBound _)
    (.bind (frames_code _ _) (.bind (frames_code _ _) (.bind (frames_nullable frames_epoch _)
      (.bind (frames_code _ _) (.last (frames_scope _)))))))) ?_
  decide

@[simp] theorem total_epoch (e : Epoch) : (writeEpoch e).Total := by
  have length := e.lengthSeconds.2
  exact total_append (total_i64 _) (total_seconds32 ⟨e.lengthSeconds.1, by omega, length.2⟩)

@[simp] theorem total_scope (s : DimensionScope) : (writeScope s).Total := by
  simp [writeScope, @total_nullable _ writeDomain total_identifier]

@[simp] theorem total_dimensionTerm (t : LedgerDimensionTerm) : (writeDimensionTerm t).Total := by
  simp [writeDimensionTerm]

theorem validateAnyResource_self (resource : ResourceId) (path : String) :
    validateAnyResource (resourceIdInputOf resource) path = .ok resource := by
  have listed : resource.kind ∈ RESOURCE_KINDS := by cases resource.kind <;> decide
  have parsed := @validateResourceId_self RESOURCE_KINDS ⟨resource, listed⟩ path
  simp only [resourceOfInputOf] at parsed
  simp [validateAnyResource, parsed]

theorem hexDigit_narrow : ∀ digit < 16, ¬ 0x10000 ≤ (hexDigit digit).toNat := by decide

theorem utf16Length_bytesToHex (bytes : Bytes) : utf16Length (bytesToHex bytes) = 2 * bytes.length + 2 := by
  rw [utf16Length, bytesToHex, String.toList_ofList]
  induction bytes with
  | nil => rfl
  | cons byte bytes ih =>
    have high := hexDigit_narrow (byte.toNat / 16) (Nat.div_lt_of_lt_mul byte.toNat_lt)
    have low := hexDigit_narrow (byte.toNat % 16) (Nat.mod_lt _ (by decide))
    simp only [flatMap_cons, cons_append, nil_append, map_cons, sum_cons,
      if_neg high, if_neg low, length_cons] at ih ⊢
    omega

theorem parseOpaqueBytes_self (bytes : OpaqueBytes max) (path : String) :
    parseOpaqueBytes (bytesToHex bytes.1) max path = .ok bytes := by
  have short := bytes.2
  have length : utf16Length (bytesToHex bytes.1) = 2 * bytes.1.length + 2 := utf16Length_bytesToHex _
  have fits : ¬ 2 * max + 2 < utf16Length (bytesToHex bytes.1) := by omega
  simp only [parseOpaqueBytes, if_neg fits, hexToBytes_bytesToHex, dif_pos short]

@[simp] theorem total_opaqueBytes (width : max < 65536) (bytes : OpaqueBytes max) :
    (writeOpaqueBytes bytes.1).Total := by
  simp [writeOpaqueBytes, total_u16 (bytes.2.trans_lt width)]

theorem validateInvariantTerm_self (t : StateInvariantTerm) (path : String) :
    validateInvariantTerm (invariantTermInputOf t) path = .ok t := by
  have version : ∀ path, parseSmallUint (.integer t.version.1) UINT32_MAX path = .ok t.version :=
    parseSmallUint_self (by decide) t.version
  simp only [validateInvariantTerm, invariantTermInputOf, bind, Except.bind, parseIdentifierAs_self,
    version, validateMembers_self validateAnyResource_self, parseOpaqueBytes_self]

theorem frames_invariantTerm (t : StateInvariantTerm) :
    Frames (writeInvariantTerm t) readInvariantTermInput (invariantTermInputOf t) 5338 := by
  have params : Frames (writeOpaqueBytes t.params.1) readOpaqueBytes (bytesToHex t.params.1) 1026 :=
    (frames_opaqueBytes t.params.1).mono (by
      have short := t.params.2
      simp only [MAX_INVARIANT_PARAMS_BYTES] at short
      omega)
  refine Frames.mono (.bind (frames_identifier _) (.bind (frames_u32 _)
    (.bind (frames_members frames_resourceId t.scope) (.last params)))) ?_
  decide

@[simp] theorem total_invariantTerm (t : StateInvariantTerm) : (writeInvariantTerm t).Total := by
  simp (disch := first | decide | simp) [writeInvariantTerm]

theorem validateStatePolicyTerm_self (t : StatePolicyTerm) (path : String) :
    validateStatePolicyTerm (statePolicyInputOf t) path = .ok t := by
  simp only [validateStatePolicyTerm, statePolicyInputOf, bind, Except.bind, parseIdentifierAs_self,
    validateMembers_self (g := identifierTextOf) parseIdentifierAs_self, validateStateRequirement_self]

theorem frames_sourceId (source : Identifier) :
    Frames (writeSourceId source) readStr (identifierTextOf source) 130 := frames_identifier source

theorem frames_statePolicyTerm (t : StatePolicyTerm) :
    Frames (writeStatePolicyTerm t) readStatePolicyTermInput (statePolicyInputOf t) 4852 := by
  refine Frames.mono (.bind (frames_identifier _) (.bind (frames_identifier _)
    (.bind (frames_members frames_sourceId t.admittedSources) (.last (frames_stateRequirement _))))) ?_
  decide

@[simp] theorem total_statePolicyTerm (t : StatePolicyTerm) : (writeStatePolicyTerm t).Total := by
  simp (disch := first | decide | simp) [writeStatePolicyTerm, @total_members _ _ writeSourceId total_identifier]

theorem validateTerm_self (t : AuthorityTerm) (path : String) :
    validateTerm (termInputOf t) path = .ok t := by
  cases t with
  | set t => simp [validateTerm, termInputOf, validateSetTerm_self]
  | right t => simp [validateTerm, termInputOf, validateRightTerm_self]
  | bound t => simp [validateTerm, termInputOf, validateBoundTerm_self]
  | timeWindow t => simp [validateTerm, termInputOf, validateTimeWindowTerm_self]
  | ledgerDimension t => simp [validateTerm, termInputOf, validateDimensionTerm_self]
  | stateInvariant t => simp [validateTerm, termInputOf, validateInvariantTerm_self]
  | statePolicy t => simp [validateTerm, termInputOf, validateStatePolicyTerm_self]

def termSize (t : AuthorityTerm) : Nat := if t.kind = .set then 75780 else 5339

theorem frames_term (t : AuthorityTerm) :
    Frames (writeTerm t) readTermInput (termInputOf t) (termSize t) := by
  have body : ∃ size, 1 + size ≤ termSize t ∧
      Frames (writeTermBody t) (readTermBody t.kind) (termInputOf t) size := by
    cases t with
    | set t => exact ⟨75779, by simp [termSize, AuthorityTerm.kind], (frames_setTerm t).map⟩
    | right t => exact ⟨2, by simp [termSize, AuthorityTerm.kind], (frames_rightTerm t).map⟩
    | bound t => exact ⟨200, by simp [termSize, AuthorityTerm.kind], (frames_boundTerm t).map⟩
    | timeWindow t => exact ⟨146, by simp [termSize, AuthorityTerm.kind], (frames_timeWindowTerm t).map⟩
    | ledgerDimension t => exact ⟨1131, by simp [termSize, AuthorityTerm.kind], (frames_dimensionTerm t).map⟩
    | stateInvariant t => exact ⟨5338, by simp [termSize, AuthorityTerm.kind], (frames_invariantTerm t).map⟩
    | statePolicy t => exact ⟨4852, by simp [termSize, AuthorityTerm.kind], (frames_statePolicyTerm t).map⟩
  obtain ⟨size, fits, frames⟩ := body
  exact ((frames_code _ _).bind frames).mono fits

@[simp] theorem total_term (t : AuthorityTerm) : (writeTerm t).Total := by
  cases t <;> simp [writeTerm, writeTermBody]

theorem encodeWith_injective {α β : Type} {write : α → Writer} {read : CoreReader β} {inputOf : α → β}
    {size : α → Nat} {validate : β → String → CoreResult α} (total : ∀ item, (write item).Total)
    (frames : ∀ item, Frames (write item) read (inputOf item) (size item))
    (valid : ∀ item path, validate (inputOf item) path = .ok item) {a b : α}
    (same : encodeWith write a = encodeWith write b) : a = b := by
  obtain ⟨first, writtenA⟩ := total a
  obtain ⟨second, writtenB⟩ := total b
  simp only [encodeWith, writtenA, writtenB, Option.getD_some] at same
  subst same
  have inputs := (frames a _ writtenA).2.inj (frames b _ writtenB).2
  have parsed := valid a ""
  rw [inputs, valid b ""] at parsed
  exact (Except.ok.inj parsed).symm

theorem encodeTerm_injective {a b : AuthorityTerm}
    (same : encodeWith writeTerm a = encodeWith writeTerm b) : a = b :=
  encodeWith_injective total_term frames_term validateTerm_self same

end Mandate.Core
