import Mandate.Kernel.StateFraming

/-! The kernel's three formats. Each reads back what it writes; what it accepts it would
have written, unless a text began with a mark or a state's representations were out of order. -/
namespace Mandate.Kernel
open Core Lib.Wire Lib.Text List

theorem frames_header (tag : String) (version : Nat) :
    Frames (writeHeader tag version) (readHeader tag version) () ((encodeText tag).length + 2) := by
  have tagged : Frames (Writer.raw (encodeText tag)) (readRawTag tag) () (encodeText tag).length := by
    apply (Frames.raw _ _).check
    rw [if_pos rfl]
    exact Reads.pure ()
  have versioned : Frames (writeU16 version) (readVersion version) () 2 := by
    apply (frames_u16 version).check
    rw [if_pos rfl]
    exact Reads.pure ()
  exact tagged.bind versioned

variable {version : Nat}

theorem total_header (tag : String) (small : version < 65536) :
    (writeHeader tag version).Total := Writer.total_append (Writer.total_raw _) (total_u16 small)

theorem consumes_matched {same : Prop} [Decidable same] (code : CoreErrorCode) :
    Consumes (if same then pure () else Reader.fail code : CoreReader Unit) fun used _ => same ∧ used = [] := by
  split
  · rename_i matched
    refine (Consumes.pure ()).mono ?_
    rintro _ _ ⟨rfl, _⟩
    exact ⟨matched, rfl⟩
  · exact (Consumes.fail _).mono fun _ _ impossible => impossible.elim

theorem consumes_header (tag : String) (version : Nat) :
    Consumes (readHeader tag version) fun used _ => writeHeader tag version = some used := by
  have tagged : Consumes (readRawTag tag) fun used _ => used = encodeText tag := by
    refine ((Consumes.raw _ _).bind fun bytes => consumes_matched _).mono ?_
    rintro _ _ ⟨⟨rfl, _⟩, same, rfl⟩
    rw [append_nil, same]
  have versioned : Consumes (readVersion version) fun used _ => writeU16 version = some used := by
    refine (consumes_u16.bind fun found => consumes_matched _).mono ?_
    rintro _ _ ⟨written, same, rfl⟩
    rw [append_nil, ← same]
    exact written
  refine (tagged.bind fun _ => versioned).mono ?_
  rintro _ _ ⟨rfl, written⟩
  exact written_append rfl written

/-- A tagged object of the kernel: its tag and version, its body, and no trailing bytes. -/
def object {ι α : Type} (tag : String) (version : Nat) (write : α → Writer) (read : CoreReader ι)
    (parse : ι → KernelResult α) : Format CoreErrorCode ReasonCode ι α where
  write x := writeHeader tag version ++ write x
  read := wholeObject tag version read
  validate := parse

theorem decodeWith_ok {ι α : Type} {tag : String} {version : Nat} {write : α → Writer}
    {read : CoreReader ι} {parse : ι → KernelResult α} {malformed unsupported : ReasonCode}
    {bytes : Bytes} {x : α} :
    decodeWith (wholeObject tag version read) parse malformed unsupported bytes = .ok x ↔
      (object tag version write read parse).Accepts bytes x := by
  simp only [decodeWith, Format.Accepts, object]
  split
  · rename_i failed
    simp [failed]
  · rename_i failed
    simp [failed]
  · rename_i input stop read
    constructor
    · intro valid
      exact ⟨input, stop, read, valid⟩
    · rintro ⟨other, end_, again, valid⟩
      rw [read] at again
      cases again
      exact valid

theorem lawful_object {ι α : Type} (tag : String) (small : version < 65536)
    {write : α → Writer} {read : CoreReader ι} {parse : ι → KernelResult α} {inputOf : α → ι}
    {size : α → Nat} (total : ∀ x, (write x).Total) (framed : ∀ x, Frames (write x) read (inputOf x) (size x))
    (own : ∀ x, parse (inputOf x) = .ok x) (spelled : Spelled read parse write) :
    (object tag version write read parse).Lawful where
  total x := Writer.total_append (total_header tag small) (total x)
  framed x bytes written := ⟨inputOf x, whole_framed (frames_header tag version) (framed x) written, own x⟩
  spells := by
    refine (whole_spells .encodingTrailingBytes (consumes_header tag version) spelled).mono ?_
    rintro _ input ⟨before, after, rfl, header, body⟩ x valid
    exact written_append header (body x valid)
  ended _ _ _ run := whole_ended run

/-- The representations of the input stand in the order of their ids, length first. -/
def InIdOrder (input : TrustedStateInput) : Prop :=
  (input.representations.map (·.value.representationId)).Pairwise
    fun a b => (compare a.toList.length b.toList.length).then (compare a.toList b.toList) = .lt

inductive KernelKind | mandate | candidate | trustedState

namespace KernelKind

def Input : KernelKind → Type
  | mandate => MandateInput
  | candidate => CandidateInput
  | trustedState => TrustedStateInput

def Object : KernelKind → Type
  | mandate => CanonicalMandate
  | candidate => ExecutionCandidate
  | trustedState => TrustedState

def encode : (kind : KernelKind) → kind.Object → Bytes
  | mandate => encodeMandate
  | candidate => encodeCandidate
  | trustedState => encodeTrustedState

def decode : (kind : KernelKind) → Bytes → KernelResult kind.Object
  | mandate => decodeMandate
  | candidate => decodeCandidate
  | trustedState => decodeTrustedState

/-- The object as its encoding keeps it: a state's representations are in the order of their ids. -/
def canonical : (kind : KernelKind) → kind.Object → kind.Object
  | mandate => id
  | candidate => id
  | trustedState => TrustedState.sorted

def format : (kind : KernelKind) → Format CoreErrorCode ReasonCode kind.Input kind.Object
  | mandate => object MANDATE_TAG MANDATE_SCHEMA_VERSION writeMandate readMandateInput parseMandate
  | candidate =>
    object CANDIDATE_TAG CANDIDATE_SCHEMA_VERSION writeCandidate readCandidateInput parseCandidate
  | trustedState => object STATE_TAG STATE_SCHEMA_VERSION writeState readStateInput parseTrustedState

/-- Only a state is sorted by its encoder and left as it stands by its decoder. -/
def InOrder : (kind : KernelKind) → kind.Input → Prop
  | mandate => fun _ => True
  | candidate => fun _ => True
  | trustedState => InIdOrder

/-- Whatever is read from the bytes is read without a mark and in order. -/
def Canonical (kind : KernelKind) (bytes : Bytes) : Prop :=
  ∀ input stop, kind.format.read.run ⟨0, bytes, false⟩ = .ok (input, stop) →
    stop.marked = false ∧ kind.InOrder input

theorem lawful (kind : KernelKind) : kind.format.Lawful := by
  cases kind with
  | mandate =>
    exact lawful_object _ (by decide) total_mandate frames_mandate parseMandate_self spelled_mandate
  | candidate =>
    exact lawful_object _ (by decide) total_candidate frames_candidate parseCandidate_self spelled_candidate
  | trustedState =>
    exact lawful_object _ (by decide) total_state frames_state parseTrustedState_self spelled_state

theorem decode_format (kind : KernelKind) {bytes : Bytes} {x : kind.Object} :
    kind.decode bytes = .ok x ↔ kind.format.Accepts bytes x := by
  cases kind <;> exact decodeWith_ok

theorem encode_format (kind : KernelKind) (x : kind.Object) :
    kind.encode x = kind.format.encode (kind.canonical x) := by
  cases kind with
  | mandate =>
    change ((writeHeader MANDATE_TAG x.version ++ writeMandate x).getD []) = _
    rw [CanonicalMandate.supported x]
    rfl
  | candidate =>
    change ((writeHeader CANDIDATE_TAG x.version ++ writeCandidate x).getD []) = _
    rw [ExecutionCandidate.supported x]
    rfl
  | trustedState =>
    change ((writeHeader STATE_TAG (TrustedState.sorted x).version ++ writeState (TrustedState.sorted x)).getD []) = _
    rw [TrustedState.supported (TrustedState.sorted x)]
    rfl

end KernelKind

theorem sorted_iff (s : TrustedState) : s.sorted = s ↔ Ascends (s.representations.map representationId) := by
  constructor
  · intro same
    have sorted : s.representations.insertionSort representationLE = s.representations :=
      congrArg TrustedState.representations same
    have ordered := pairwise_insertionSort representationLE s.representations
    rw [sorted] at ordered
    exact ascends_of_sorted (pairwise_map.mpr ordered) s.distinct
  · intro ascends
    have ordered : s.representations.Pairwise representationLE :=
      (pairwise_map.mp ascends).imp fun below => identifierLE_iff.mpr (.inl below)
    simp only [TrustedState.sorted, ordered.insertionSort_eq]

theorem parseObserved_ok {ι α : Type} {parse : ι → KernelResult α} {input : ObservedInput ι}
    {o : Observed α} (parsed : parseObserved parse input = .ok o) : parse input.value = .ok o.value := by
  simp only [parseObserved, except_bind_ok] at parsed
  obtain ⟨_, _, _, valueParsed, same⟩ := parsed
  cases same
  exact valueParsed

theorem parseRepresentationState_id {input : RepresentationInput} {rep : RepresentationState}
    (parsed : parseRepresentationState input = .ok rep) : rep.representationId.1 = input.representationId := by
  simp only [parseRepresentationState, except_bind_ok, asStateError_ok] at parsed
  obtain ⟨_, idParsed, _, _, _, _, _, _, _, _, same⟩ := parsed
  cases same
  exact parseIdentifier_ok.mp idParsed

theorem paired_ids {inputs : List (ObservedInput RepresentationInput)}
    {reps : List (Observed RepresentationState)}
    (paired : List.Forall₂ (fun input rep => parseObserved parseRepresentationState input = .ok rep)
      inputs reps) : inputs.map (·.value.representationId) = (reps.map representationId).map (·.1) := by
  induction paired with
  | nil => rfl
  | cons here _ ih =>
    simp only [map_cons, ih, representationId, parseRepresentationState_id (parseObserved_ok here)]

variable {input : TrustedStateInput} {s : TrustedState}

theorem parsed_ids (parsed : parseTrustedState input = .ok s) :
    input.representations.map (·.value.representationId) = (s.representations.map representationId).map (·.1) := by
  simp only [parseTrustedState, except_bind_ok, require_ok] at parsed
  obtain ⟨_, _, _, _, _, _, _, reps, repsParsed, _, _, _, _, _, _, _, same⟩ := parsed
  cases same
  exact paired_ids (parseRepresentations_ok repsParsed)

theorem inIdOrder_iff (parsed : parseTrustedState input = .ok s) : InIdOrder input ↔ s.sorted = s := by
  rw [sorted_iff, InIdOrder, parsed_ids parsed, pairwise_map]
  rfl

theorem KernelKind.inOrder_iff (kind : KernelKind) {input : kind.Input} {x : kind.Object}
    (valid : kind.format.validate input = .ok x) : kind.InOrder input ↔ kind.canonical x = x := by
  cases kind with
  | mandate => exact iff_of_true trivial rfl
  | candidate => exact iff_of_true trivial rfl
  | trustedState => exact inIdOrder_iff valid

/-- An object is read back as its canonical form. Accepted bytes are the encoding of their
object exactly when they carry no mark and stand in order, and such bytes are the only ones. -/
theorem kernel_codec_canonical (kind : KernelKind) :
    (∀ x, kind.decode (kind.encode x) = .ok (kind.canonical x)) ∧
    (∀ bytes x, kind.decode bytes = .ok x → (kind.encode x = bytes ↔ kind.Canonical bytes)) ∧
    ∀ bytes other x, kind.decode bytes = .ok x → kind.decode other = .ok x →
      kind.Canonical bytes → kind.Canonical other → bytes = other := by
  have reencoded : ∀ bytes x, kind.decode bytes = .ok x → (kind.encode x = bytes ↔ kind.Canonical bytes) := by
    intro bytes x decoded
    obtain ⟨input, stop, run, valid⟩ := kind.decode_format.mp decoded
    have accepts : kind.format.Accepts bytes x := ⟨input, stop, run, valid⟩
    rw [kind.encode_format]
    constructor
    · intro same
      -- the bytes are the encoding of the canonical object, which is what they are read as
      have own := Format.accepts_encode kind.lawful (kind.canonical x)
      have unmarked := Format.unmarked_encode kind.lawful (kind.canonical x)
      rw [same] at own unmarked
      obtain ⟨_, _, again, found⟩ := own
      intro other last read
      rw [run] at again read
      cases again
      cases read
      have fixed : x = kind.canonical x := Except.ok.inj (valid.symm.trans found)
      exact ⟨unmarked _ _ run, (kind.inOrder_iff valid).mpr fixed.symm⟩
    · intro canonical
      obtain ⟨unmarked, ordered⟩ := canonical input stop run
      rw [(kind.inOrder_iff valid).mp ordered]
      refine (Format.encode_of_accepts kind.lawful accepts).mpr ?_
      intro other last read
      rw [run] at read
      cases read
      exact unmarked
  refine ⟨?_, reencoded, ?_⟩
  · intro x
    rw [kind.encode_format]
    exact kind.decode_format.mpr (Format.accepts_encode kind.lawful _)
  · intro bytes other x decoded decoded' canonical canonical'
    rw [← (reencoded bytes x decoded).mpr canonical, ← (reencoded other x decoded').mpr canonical']

/-- A representation of one asset under an id, as one source observed it. -/
def sampleRepresentation (id : Identifier) : Observed RepresentationState where
  provenance := ⟨⟨.verified, by decide⟩, ⟨"feed", by decide⟩, ⟨0, seconds_zero⟩⟩
  value := ⟨id, ⟨⟨"EQUITY", by decide⟩, ⟨"ISIN", by decide⟩, ⟨"A1", by decide⟩⟩, ⟨"issuer", by decide⟩,
    ⟨"chain", by decide⟩, none, .no, .active⟩

/-- A state whose representations came in against the order of their ids. -/
def disorderedState : TrustedState where
  version := STATE_SCHEMA_VERSION
  stateId := ⟨"s", by decide⟩
  registrySnapshotDigest := none
  representations := [sampleRepresentation ⟨"b", by decide⟩, sampleRepresentation ⟨"a", by decide⟩]
  market := none
  corporateAction := none
  replay := none
  supported := rfl
  bounded := by decide
  distinct := by decide

def disorderedBytes : Bytes :=
  encodeWith (fun s => writeHeader STATE_TAG s.version ++ writeState s) disorderedState

/-- The encoding of the same state with a byte order mark before its id. -/
def markedStateBytes : Bytes :=
  encodeWith (fun s : TrustedState => writeHeader STATE_TAG s.version ++
    (writeOpaqueBytes ([0xEF, 0xBB, 0xBF] ++ encodeText s.stateId.1) ++
      (writeNullable writeDigest s.registrySnapshotDigest ++
        (writeList (writeObserved writeRepresentation) s.representations ++
          (writeNullable (writeObserved writeMarket) s.market ++
            (writeNullable (writeObserved writeCorporateAction) s.corporateAction ++
              writeNullable (writeObserved writeReplay) s.replay)))))) disorderedState.sorted

theorem disordered_accepted : (decodeTrustedState disorderedBytes = .ok disorderedState ∧
      encodeTrustedState disorderedState ≠ disorderedBytes) ∧
    (decodeTrustedState markedStateBytes = .ok disorderedState.sorted ∧
      encodeTrustedState disorderedState.sorted ≠ markedStateBytes) := by
  decide +kernel

theorem kernel_codec_canonical_disordered :
    (KernelKind.encode .trustedState disorderedState = disorderedBytes ↔
      KernelKind.Canonical .trustedState disorderedBytes) ∧
    KernelKind.encode .trustedState disorderedState.sorted =
      KernelKind.encode .trustedState disorderedState := by
  obtain ⟨readBack, reencoded, unique⟩ := kernel_codec_canonical .trustedState
  have same : encodeTrustedState disorderedState.sorted = encodeTrustedState disorderedState := by
    decide +kernel
  have first := readBack disorderedState
  have second : KernelKind.decode .trustedState (KernelKind.encode .trustedState disorderedState.sorted) =
      .ok (KernelKind.canonical .trustedState disorderedState) := by
    rw [← first]
    exact congrArg _ same
  refine ⟨reencoded _ _ ?_, unique _ _ _ second first ((reencoded _ _ second).mp rfl)
    ((reencoded _ _ first).mp same)⟩
  change decodeTrustedState disorderedBytes = .ok disorderedState
  decide +kernel

end Mandate.Kernel
