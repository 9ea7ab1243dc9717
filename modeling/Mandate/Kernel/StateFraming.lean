import Mandate.Kernel.Framing

/-! The fields of a trusted state, written and read. -/
namespace Mandate.Kernel
open Core Lib.Wire

theorem spelled_optional {ι α : Type} {read : CoreReader ι} {parse : ι → KernelResult α}
    {write : α → Writer} (spelled : Spelled read parse write) :
    Spelled (readNullable read) (parseOptional parse) (writeNullable write) := by
  refine (consumes_nullable spelled).mono ?_
  intro used input spelling value parsed
  cases input with
  | none =>
    cases parsed
    exact spelling
  | some input =>
    simp only [parseOptional, except_map_ok] at parsed
    obtain ⟨item, parsed, rfl⟩ := parsed
    obtain ⟨flag, after, rfl, present, rest⟩ := spelling
    exact written_append present (rest item parsed)

theorem frames_provenance (p : Provenance) :
    Frames (writeProvenance p) readProvenanceInput (provenanceInputOf p) 139 := by
  refine Frames.mono (.bind (frames_code _ _) (.bind (frames_identifier _) (.last (frames_i64 _)))) ?_
  decide

@[simp] theorem total_provenance (p : Provenance) : (writeProvenance p).Total := by
  simp [writeProvenance]

theorem spelled_provenance : Spelled readProvenanceInput parseProvenance writeProvenance := by
  have seconds := @spelled_bounded INT64_MIN INT64_MAX _ _ consumes_i64 .malformedTrustedState
  refine ((consumes_code _).bind fun _ => spelled_identifier.bind fun _ => seconds.last).mono ?_
  rintro _ _ ⟨first, second, ⟨third⟩⟩ p parsed
  simp only [parseProvenance, except_bind_ok, asStateError_ok, require_ok] at parsed
  obtain ⟨_, sourceParsed, _, observedParsed, _, same⟩ := parsed
  cases same
  exact written_append first (written_append (second _ sourceParsed) (third _ observedParsed))

theorem frames_observed {ι α : Type} {write : α → Writer} {read : CoreReader ι} {inputOf : α → ι}
    {size : Nat} (frames : ∀ x, Frames (write x) read (inputOf x) size) (o : Observed α) :
    Frames (writeObserved write o) (readObservedInput read) (observedInputOf inputOf o) (139 + size) :=
  (frames_provenance o.provenance).bind (frames o.value).last

@[simp] theorem total_observed {α : Type} {write : α → Writer} (total : ∀ x, (write x).Total) (o : Observed α) :
    (writeObserved write o).Total := by
  simp [writeObserved, total]

theorem spelled_observed {ι α : Type} {read : CoreReader ι} {parse : ι → KernelResult α}
    {write : α → Writer} (spelled : Spelled read parse write) :
    Spelled (readObservedInput read) (parseObserved parse) (writeObserved write) := by
  refine (spelled_provenance.bind fun _ => spelled.last).mono ?_
  rintro _ _ ⟨first, ⟨second⟩⟩ o parsed
  simp only [parseObserved, except_bind_ok] at parsed
  obtain ⟨_, provenanceParsed, _, valueParsed, same⟩ := parsed
  cases same
  exact written_append (first _ provenanceParsed) (second _ valueParsed)

theorem frames_representation (r : RepresentationState) :
    Frames (writeRepresentation r) readRepresentationInput (representationInputOf r) 913 := by
  refine Frames.mono (.bind (frames_identifier _) (.bind (frames_asset _) (.bind (frames_identifier _)
    (.bind (frames_identifier _) (.bind (frames_nullable frames_identifier _) (.bind (frames_code _ _)
      (.last (frames_code _ _)))))))) ?_
  decide

@[simp] theorem total_representation (r : RepresentationState) : (writeRepresentation r).Total := by
  simp [writeRepresentation]

theorem spelled_representation :
    Spelled readRepresentationInput parseRepresentationState writeRepresentation := by
  refine (spelled_identifier.bind fun _ => spelled_asset.bind fun _ => spelled_identifier.bind fun _ =>
    spelled_identifier.bind fun _ => (spelled_optional spelled_identifier).bind fun _ =>
      (consumes_code _).bind fun _ => (consumes_code _).last).mono ?_
  rintro _ _ ⟨first, second, third, fourth,
    fifth, sixth, ⟨seventh⟩⟩ r parsed
  simp only [parseRepresentationState, except_bind_ok, asStateError_ok] at parsed
  obtain ⟨_, idParsed, _, assetParsed, _, issuerParsed, _, chainParsed, _, instrumentParsed, same⟩ := parsed
  cases same
  exact written_append (first _ idParsed) (written_append (second _ assetParsed)
    (written_append (third _ issuerParsed) (written_append (fourth _ chainParsed)
      (written_append (fifth _ instrumentParsed) (written_append sixth seventh)))))

theorem frames_market (m : MarketState) : Frames (writeMarket m) readMarketInput (marketInputOf m) 685 := by
  refine Frames.mono (.bind (frames_asset _) (.bind (frames_nullable frames_price _)
    (.last (frames_code _ _)))) ?_
  decide

@[simp] theorem total_market (m : MarketState) : (writeMarket m).Total := by
  simp [writeMarket]

theorem spelled_market : Spelled readMarketInput parseMarketState writeMarket := by
  refine (spelled_asset.bind fun _ => (spelled_optional spelled_price).bind fun _ =>
    (consumes_code _).last).mono ?_
  rintro _ _ ⟨first, second, ⟨third⟩⟩ m parsed
  simp only [parseMarketState, except_bind_ok, asStateError_ok] at parsed
  obtain ⟨_, assetParsed, _, priceParsed, same⟩ := parsed
  cases same
  exact written_append (first _ assetParsed) (written_append (second _ priceParsed) third)

def epochInputOf (epoch : Uint64) : IntegerInput := .bigint epoch.1

theorem frames_epoch (epoch : Uint64) : Frames (writeEpoch epoch) readEpochInput (epochInputOf epoch) 8 :=
  (frames_u64_int _).last

theorem spelled_epoch : Spelled readEpochInput parseEpochNumber writeEpoch := by
  have epoch := @spelled_bounded 0 UINT64_MAX _ _ consumes_u64_int .malformedTrustedState
  refine epoch.last.mono ?_
  rintro used _ ⟨spelled⟩
  exact spelled

theorem frames_corporateAction (c : CorporateActionState) :
    Frames (writeCorporateAction c) readCorporateActionInput (corporateActionInputOf c) 399 := by
  refine Frames.mono (.bind (frames_asset _) (.last (frames_nullable frames_epoch _))) ?_
  decide

@[simp] theorem total_corporateAction (c : CorporateActionState) : (writeCorporateAction c).Total := by
  simp [writeCorporateAction, @total_nullable _ writeEpoch total_u64]

theorem spelled_corporateAction :
    Spelled readCorporateActionInput parseCorporateActionState writeCorporateAction := by
  refine (spelled_asset.bind fun _ => (spelled_optional spelled_epoch).last).mono ?_
  rintro _ _ ⟨first, ⟨second⟩⟩ c parsed
  simp only [parseCorporateActionState, except_bind_ok, asStateError_ok] at parsed
  obtain ⟨_, assetParsed, _, epochParsed, same⟩ := parsed
  cases same
  exact written_append (first _ assetParsed) (second _ epochParsed)

theorem frames_replay (r : ReplayState) : Frames (writeReplay r) readReplayInput (replayInputOf r) 33 := by
  refine Frames.mono (.bind (frames_digest _) (.last (frames_code _ _))) ?_
  decide

@[simp] theorem total_replay (r : ReplayState) : (writeReplay r).Total := by
  simp [writeReplay]

theorem spelled_replay : Spelled readReplayInput parseReplayState writeReplay := by
  refine ((spelled_digest .malformedTrustedState).bind fun _ => (consumes_code _).last).mono ?_
  rintro _ _ ⟨first, ⟨second⟩⟩ r parsed
  simp only [parseReplayState, except_bind_ok] at parsed
  obtain ⟨_, digestParsed, same⟩ := parsed
  cases same
  exact written_append (first _ digestParsed) second

theorem parseRepresentations_ok {inputs : List (ObservedInput RepresentationInput)}
    {reps : {reps : List (Observed RepresentationState) // reps.length = inputs.length}}
    (parsed : parseRepresentations inputs = .ok reps) :
    List.Forall₂ (fun input rep => parseObserved parseRepresentationState input = .ok rep) inputs reps.1 := by
  induction inputs with
  | nil =>
    cases parsed
    exact .nil
  | cons input inputs ih =>
    simp only [parseRepresentations, except_bind_ok] at parsed
    obtain ⟨rep, here, rest, tail, same⟩ := parsed
    cases same
    exact .cons here (ih tail)

theorem frames_state (s : TrustedState) : Frames (writeState s) readStateInput (trustedStateInputOf s)
      (130 + ((1 + 32) + ((2 + (s.representations.map fun _ => 139 + 913).sum) + ((1 + (139 + 685)) +
        ((1 + (139 + 399)) + (1 + (139 + 33))))))) := by
  have supported : trustedStateInputOf s =
      { trustedStateInputOf s with version := .integer STATE_SCHEMA_VERSION } := by
    rw [trustedStateInputOf, s.supported]
  have reps := frames_list s.bounded fun o _ => frames_observed frames_representation o
  rw [supported]
  exact .bind (frames_identifier _) (.bind (frames_nullable frames_digest _) (.bind reps
    (.bind (frames_nullable (frames_observed frames_market) _)
      (.bind (frames_nullable (frames_observed frames_corporateAction) _)
        (.last (frames_nullable (frames_observed frames_replay) _))))))

@[simp] theorem total_state (s : TrustedState) : (writeState s).Total := by
  have short := s.bounded
  simp only [MAX_STATE_REPRESENTATIONS] at short
  have listed : (writeList (writeObserved writeRepresentation) s.representations).Total :=
    total_list (by omega) fun o _ => by simp
  simp [writeState, listed]

theorem spelled_state : Spelled readStateInput parseTrustedState writeState := by
  have digest := spelled_optional (spelled_digest .malformedTrustedState)
  have reps := consumes_list MAX_STATE_REPRESENTATIONS (spelled_observed spelled_representation) false
  refine (spelled_identifier.bind fun _ => digest.bind fun _ => reps.bind fun _ =>
    (spelled_optional (spelled_observed spelled_market)).bind fun _ =>
      (spelled_optional (spelled_observed spelled_corporateAction)).bind fun _ =>
        (spelled_optional (spelled_observed spelled_replay)).last).mono ?_
  rintro _ _ ⟨first, second, ⟨_, _, rfl, counted, listed⟩,
    fourth, fifth, ⟨sixth⟩⟩ s parsed
  simp only [parseTrustedState, except_bind_ok, asStateError_ok, require_ok] at parsed
  obtain ⟨_, _, _, idParsed, _, digestParsed, _, found, repsParsed, _, _, marketParsed, _, actionParsed,
    _, replayParsed, same⟩ := parsed
  cases same
  have body := listed.written (fun _ _ result spelling value => spelling result value)
    (parseRepresentations_ok repsParsed)
  rw [← found.2] at counted
  exact written_append (first _ idParsed) (written_append (second _ digestParsed)
    (written_append (written_append counted body) (written_append (fourth _ marketParsed)
      (written_append (fifth _ actionParsed) (sixth _ replayParsed)))))

end Mandate.Kernel
