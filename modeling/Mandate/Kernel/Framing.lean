import Mandate.Kernel.Codec

/-! The kernel's fields, written and read: each is read back as it was written, and what is
read without a mark and parses is what would be written. -/
namespace Mandate.Kernel
open Core Lib.Wire List

def Spelled {ι α : Type} (read : CoreReader ι) (parse : ι → KernelResult α) (write : α → Writer) : Prop :=
  Consumes read fun used input => ∀ value, parse input = .ok value → write value = some used

theorem spelled_identifier : Spelled readStr parseIdentifier fun id => writeStr id.1 := by
  refine spells_identifier.mono ?_
  intro used text spelled id parsed
  exact spelled "" id (parseIdentifierAs_ok.mpr (parseIdentifier_ok.mp parsed))

theorem spelled_digest (code : ReasonCode) : Spelled readDigest (parseBytes32 · code) writeDigest := by
  refine spells_digest.mono ?_
  intro used text spelled digest parsed
  exact spelled "" digest (parseBytes32_ok.mp parsed)

theorem spelled_party : Spelled readPartyInput parsePartyId writeParty := by
  refine (spelled_identifier.bind fun _ => spelled_identifier.last).mono ?_
  rintro _ _ ⟨first, ⟨second⟩⟩ party parsed
  simp only [parsePartyId, except_bind_ok, require_ok] at parsed
  obtain ⟨_, kindParsed, _, valueParsed, _, same⟩ := parsed
  cases same
  exact written_append (first _ kindParsed) (second _ valueParsed)

theorem frames_asset (a : CanonicalAssetId) :
    Frames (writeAsset a) readAssetInput (assetIdInputOf a) 390 := by
  refine Frames.mono (.bind (frames_identifier _) (.bind (frames_identifier _)
    (.last (frames_identifier _)))) ?_
  decide

@[simp] theorem total_asset (a : CanonicalAssetId) : (writeAsset a).Total := by
  simp [writeAsset]

theorem spelled_asset : Spelled readAssetInput parseCanonicalAssetId writeAsset := by
  refine (spelled_identifier.bind fun _ => spelled_identifier.bind fun _ => spelled_identifier.last).mono ?_
  rintro _ _ ⟨first, second, ⟨third⟩⟩ a parsed
  simp only [parseCanonicalAssetId, except_bind_ok] at parsed
  obtain ⟨_, classParsed, _, schemeParsed, _, valueParsed, same⟩ := parsed
  cases same
  exact written_append (first _ classParsed) (written_append (second _ schemeParsed) (third _ valueParsed))

@[simp] theorem total_u256 (value : Atoms) : (writeU256 value.1).Total := by
  have bound := value.2
  simp only [UINT256_MAX] at bound
  exact Writer.total_uint bound.1 (by norm_num at bound ⊢; omega)

@[simp] theorem total_decimals {decimals : Nat} (small : decimals ≤ MAX_DECIMALS) : (writeU8 decimals).Total :=
  total_u8 (by simp only [MAX_DECIMALS] at small; omega)

theorem frames_amount (a : ParsedAmount) : Frames (writeAmount a) readAmountInput (amountInputOf a) 163 := by
  refine Frames.mono (.bind (frames_identifier _) (.bind (frames_u8 _) (.last (frames_u256_int _)))) ?_
  decide

@[simp] theorem total_amount (a : ParsedAmount) : (writeAmount a).Total := by
  simp [writeAmount, total_decimals a.2.1, total_u256 ⟨a.1.atoms, a.2.2⟩]

theorem spelled_amount : Spelled readAmountInput parseAmount writeAmount := by
  refine (spelled_identifier.bind fun _ => consumes_u8.bind fun _ => consumes_u256_int.last).mono ?_
  rintro _ _ ⟨first, second, ⟨third⟩⟩ a parsed
  simp only [parseAmount, except_bind_ok] at parsed
  obtain ⟨_, unitParsed, _, decimalsParsed, _, atomsParsed, same⟩ := parsed
  cases same
  rw [← parseDecimals_ok.mp decimalsParsed] at second
  rw [← parseBounded_ok.mp atomsParsed] at third
  exact written_append (first _ unitParsed) (written_append second third)

theorem frames_price (p : Price) : Frames (writePrice p) readPriceInput (priceInputOf p) 293 := by
  refine Frames.mono (.bind (frames_identifier _) (.bind (frames_identifier _) (.bind (frames_u8 _)
    (.last (frames_u256_int _))))) ?_
  decide

@[simp] theorem total_price (p : Price) : (writePrice p).Total := by
  simp [writePrice, total_decimals p.decimals.2]

theorem spelled_price : Spelled readPriceInput parsePrice writePrice := by
  refine (spelled_identifier.bind fun _ => spelled_identifier.bind fun _ => consumes_u8.bind fun _ =>
    consumes_u256_int.last).mono ?_
  rintro _ _ ⟨first, second, third, ⟨fourth⟩⟩ p parsed
  simp only [parsePrice, except_bind_ok] at parsed
  obtain ⟨_, numeratorParsed, _, denominatorParsed, _, decimalsParsed, _, atomsParsed, same⟩ := parsed
  cases same
  rw [← parseDecimals_ok.mp decimalsParsed] at third
  rw [← parseBounded_ok.mp atomsParsed] at fourth
  exact written_append (first _ numeratorParsed) (written_append (second _ denominatorParsed)
    (written_append third fourth))

private theorem frames_members {ids : List Identifier} (ascends : Ascends ids) {previous : Option Identifier}
    (follows : ∀ before ∈ previous, ∀ id ∈ ids, compareIdentifierBytes before id = .lt) :
    Frames (Writer.each (fun id : Identifier => writeStr id.1) ids) (readMembers ids.length previous)
      (ids.map (·.1)) (130 * ids.length) := by
  induction ids generalizing previous with
  | nil => exact Frames.pure []
  | cons id ids ih =>
    obtain ⟨above, ascends⟩ := pairwise_cons.mp ascends
    have first := (frames_identifier id).ofExcept
      (f := fun text => (parseIdentifier text).mapError fun _ => CoreErrorCode.encodingMalformed)
      (b := id) (by rw [parseIdentifier_self]; rfl)
    have ordered : (previous.all fun before => compareIdentifierBytes before id == .lt) = true := by
      cases previous with
      | none => rfl
      | some before => simp [follows before rfl id (by simp)]
    have rest := @ih ascends (some id) (by rintro _ ⟨⟩ other member; exact above other member)
    refine Frames.mono (first.bind (n := 130 * ids.length) ?_) (by simp only [length_cons]; omega)
    simp only [ordered, if_true]
    exact rest.last

theorem frames_identifierSet (set : IdentifierSet) :
    Frames (writeIdentifierSet set) readIdentifierSet (identifierSetInputOf set) (2 + 130 * MAX_SET_SIZE) := by
  have members := @frames_members _ set.ascending none (by simp)
  exact ((frames_u16 _).bind members).mono (by have := set.bounded; omega)

@[simp] theorem total_identifierSet (set : IdentifierSet) : (writeIdentifierSet set).Total := by
  have bounded := set.bounded
  simp only [MAX_SET_SIZE] at bounded
  exact total_list (by omega) fun id _ => total_identifier id

theorem consumes_members (count : Nat) (previous : Option Identifier) :
    Consumes (readMembers count previous) fun used texts => ∃ ids : List Identifier,
      texts = ids.map (·.1) ∧ ids.length = count ∧ Ascends ids ∧
      (∀ before ∈ previous, ∀ id ∈ ids, compareIdentifierBytes before id = .lt) ∧
      Writer.each (fun id : Identifier => writeStr id.1) ids = some used := by
  induction count generalizing previous with
  | zero =>
    refine (Consumes.pure []).mono ?_
    rintro _ _ ⟨rfl, rfl⟩
    exact ⟨[], rfl, rfl, List.Pairwise.nil, by simp, rfl⟩
  | succ count ih =>
    have here : Consumes (do
        let text ← readStr
        Reader.ofExcept ((parseIdentifier text).mapError fun _ => CoreErrorCode.encodingMalformed) :
          CoreReader Identifier) fun used id => writeStr id.1 = some used := by
      refine spelled_identifier.checked.mono ?_
      rintro used id ⟨text, parsed, written⟩
      cases found : parseIdentifier text with
      | error code =>
        rw [found] at parsed
        cases parsed
      | ok other =>
        rw [found] at parsed
        cases parsed
        exact written id found
    have after : ∀ id : Identifier, Consumes
        (if previous.all fun before => compareIdentifierBytes before id == .lt then do
          let rest ← readMembers count (some id)
          pure (id.1 :: rest)
        else Reader.fail .encodingNonCanonical : CoreReader (List String)) fun used texts =>
          (∀ before ∈ previous, compareIdentifierBytes before id = .lt) ∧ ∃ ids : List Identifier,
            texts = id.1 :: ids.map (·.1) ∧ ids.length = count ∧ Ascends (id :: ids) ∧
            Writer.each (fun id : Identifier => writeStr id.1) ids = some used := by
      intro id
      split
      · rename_i ordered
        refine (ih (some id)).last.mono ?_
        rintro used _ ⟨ids, rfl, sized, ascends, above, written⟩
        refine ⟨?_, ids, rfl, sized, pairwise_cons.mpr ⟨above id rfl, ascends⟩, written⟩
        rintro before ⟨⟩
        simpa using ordered
      · exact (Consumes.fail _).mono fun _ _ impossible => impossible.elim
    refine (here.bind after).mono ?_
    rintro _ _ @⟨id, _, _, _, first, ordered, ids, rfl, sized, ascends, written⟩
    refine ⟨id :: ids, rfl, congrArg (· + 1) sized, ascends, ?_, written_append first written⟩
    intro before known other member
    have below := ordered before known
    rcases mem_cons.mp member with rfl | later
    · exact below
    · exact compareIdentifier_trans below ((pairwise_cons.mp ascends).1 other later)

theorem parseIdentifierSet_ascending {ids : List Identifier} (ascends : Ascends ids)
    {code : ReasonCode} {set : IdentifierSet}
    (parsed : parseIdentifierSet (ids.map (·.1)) code = .ok set) : set.members = ids := by
  have short : (ids.map (·.1)).length ≤ MAX_SET_SIZE := by
    by_contra long
    rw [parseIdentifierSet, dif_neg long] at parsed
    cases parsed
  rw [length_map] at short
  have own := parseIdentifierSet_self ⟨ids, short, ascends⟩ code
  rw [identifierSetInputOf] at own
  rw [own] at parsed
  cases parsed
  rfl

theorem spelled_identifierSet (code : ReasonCode) :
    Spelled readIdentifierSet (parseIdentifierSet · code) writeIdentifierSet := by
  refine (consumes_u16.bind fun count => consumes_members count none).mono ?_
  rintro _ _ ⟨counted, ids, rfl, rfl, ascends, _, written⟩ set parsed
  have same := parseIdentifierSet_ascending ascends parsed
  rw [writeIdentifierSet, same]
  exact written_append counted written

theorem frames_uint16 (value : Int) : Frames (writeUint16 value) readUint16 value 2 :=
  uint_frames_nonneg (Frames.uint _ 2 value)

theorem consumes_uint16 : Consumes readUint16 fun used value => writeUint16 value = some used := by
  refine consumes_u16.map.mono ?_
  rintro used _ ⟨written⟩
  exact written

@[simp] theorem total_uint16 (value : IntegerInRange 0 UINT16_MAX) : (writeUint16 value.1).Total := by
  have bound := value.2
  simp only [UINT16_MAX] at bound
  exact Writer.total_uint bound.1 (by norm_num at bound ⊢; omega)

theorem spelled_bounded {min max : Int} {read : CoreReader Int} {write : Int → Writer}
    (consumes : Consumes read fun used value => write value = some used) (code : ReasonCode) :
    Spelled read (fun value => parseBounded (.bigint value) min max code)
      fun value : IntegerInRange min max => write value.1 := by
  refine consumes.mono ?_
  intro used value written parsed valid
  change write parsed.1 = some used
  rw [parseBounded_ok.mp valid]
  exact written

theorem frames_mandate (m : CanonicalMandate) :
    Frames (writeMandate m) readMandateInput (mandateInputOf m) 402000 := by
  have supported : mandateInputOf m = { mandateInputOf m with version := .integer MANDATE_SCHEMA_VERSION } := by
    rw [mandateInputOf, m.supported]
  rw [supported]
  refine Frames.mono (.bind (frames_digest _) (.bind (frames_u64_int _) (.bind (frames_party _)
    (.bind (frames_party _) (.bind (frames_asset _) (.bind (frames_code _ _) (.bind (frames_amount _)
      (.bind (frames_amount _) (.bind (frames_uint16 _) (.bind (frames_code _ _)
        (.bind (frames_identifierSet _) (.bind (frames_identifierSet _) (.bind (frames_identifierSet _)
          (.bind (frames_u64_int _) (.bind (frames_u32_int _) (.bind (frames_u32_int _)
            (.bind (frames_code _ _) (.bind (frames_i64 _) (.bind (frames_i64 _)
              (.last (frames_i64 _))))))))))))))))))))) ?_
  decide

theorem total_mandate (m : CanonicalMandate) : (writeMandate m).Total := by
  simp [writeMandate]

theorem spelled_mandate : Spelled readMandateInput parseMandate writeMandate := by
  have epoch := @spelled_bounded 0 UINT64_MAX _ _ consumes_u64_int .malformedMandate
  have duration := @spelled_bounded 0 UINT32_MAX _ _ consumes_u32_int .malformedMandate
  have seconds := @spelled_bounded INT64_MIN INT64_MAX _ _ consumes_i64 .malformedMandate
  have bps := @spelled_bounded 0 UINT16_MAX _ _ consumes_uint16 .malformedMandate
  have set := spelled_identifierSet .malformedMandate
  refine ((spelled_digest .malformedMandate).bind fun _ => epoch.bind fun _ => spelled_party.bind fun _ =>
    spelled_party.bind fun _ => spelled_asset.bind fun _ => (consumes_code _).bind fun _ =>
      spelled_amount.bind fun _ => spelled_amount.bind fun _ => bps.bind fun _ =>
        (consumes_code _).bind fun _ => set.bind fun _ => set.bind fun _ => set.bind fun _ =>
          epoch.bind fun _ => duration.bind fun _ => duration.bind fun _ => (consumes_code _).bind fun _ =>
            seconds.bind fun _ => seconds.bind fun _ => seconds.last).mono ?_
  rintro _ _ ⟨id, nonce, principal, agent, asset, side, notional, limit, deviation, synthetic, issuers, chains,
    venues, action, priceAge, actionAge, halt, created, start, ⟨stop⟩⟩ m parsed
  simp only [parseMandate, except_bind_ok, require_ok] at parsed
  obtain ⟨_, _, _, idParsed, _, nonceParsed, _, principalParsed, _, agentParsed, _, assetParsed,
    _, notionalParsed, _, limitParsed, _, deviationParsed, _, issuersParsed, _, chainsParsed,
    _, venuesParsed, _, actionParsed, _, priceAgeParsed, _, actionAgeParsed, _, createdParsed,
    _, startParsed, _, stopParsed, _, _, same⟩ := parsed
  cases same
  exact written_append (id _ idParsed) (written_append (nonce _ nonceParsed)
    (written_append (principal _ principalParsed) (written_append (agent _ agentParsed)
      (written_append (asset _ assetParsed) (written_append side
        (written_append (notional _ notionalParsed) (written_append (limit _ limitParsed)
          (written_append (deviation _ deviationParsed) (written_append synthetic
            (written_append (issuers _ issuersParsed) (written_append (chains _ chainsParsed)
              (written_append (venues _ venuesParsed) (written_append (action _ actionParsed)
                (written_append (priceAge _ priceAgeParsed) (written_append (actionAge _ actionAgeParsed)
                  (written_append halt (written_append (created _ createdParsed)
                    (written_append (start _ startParsed) (stop _ stopParsed)))))))))))))))))))

theorem frames_candidate (c : ExecutionCandidate) :
    Frames (writeCandidate c) readCandidateInput (candidateInputOf c) 2600 := by
  have supported : candidateInputOf c =
      { candidateInputOf c with version := .integer CANDIDATE_SCHEMA_VERSION } := by
    rw [candidateInputOf, c.supported]
  rw [supported]
  refine Frames.mono (.bind (frames_identifier _) (.bind (frames_asset _) (.bind (frames_identifier _)
    (.bind (frames_identifier _) (.bind (frames_identifier _) (.bind (frames_code _ _)
      (.bind (frames_party _) (.bind (frames_amount _) (.bind (frames_price _) (.bind (frames_amount _)
        (.bind (frames_amount _) (.bind (frames_identifier _) (.bind (frames_digest _)
          (.bind (frames_digest _) (.last (frames_u64_int _)))))))))))))))) ?_
  decide

theorem total_candidate (c : ExecutionCandidate) : (writeCandidate c).Total := by
  simp [writeCandidate]

theorem spelled_candidate : Spelled readCandidateInput parseCandidate writeCandidate := by
  have epoch := @spelled_bounded 0 UINT64_MAX _ _ consumes_u64_int .malformedCandidate
  have digest := spelled_digest .malformedCandidate
  refine (spelled_identifier.bind fun _ => spelled_asset.bind fun _ => spelled_identifier.bind fun _ =>
    spelled_identifier.bind fun _ => spelled_identifier.bind fun _ => (consumes_code _).bind fun _ =>
      spelled_party.bind fun _ => spelled_amount.bind fun _ => spelled_price.bind fun _ =>
        spelled_amount.bind fun _ => spelled_amount.bind fun _ => spelled_identifier.bind fun _ =>
          digest.bind fun _ => digest.bind fun _ => epoch.last).mono ?_
  rintro _ _ ⟨representation, asset, issuer, chain, venue, side, agent, quantity, price, notional, fee, stateId,
    stateDigest, registry, ⟨action⟩⟩ c parsed
  simp only [parseCandidate, except_bind_ok] at parsed
  obtain ⟨_, _, _, representationParsed, _, assetParsed, _, issuerParsed, _, chainParsed,
    _, venueParsed, _, agentParsed, _, quantityParsed, _, priceParsed, _, notionalParsed,
    _, feeParsed, _, stateIdParsed, _, stateDigestParsed, _, registryParsed, _, actionParsed, same⟩ := parsed
  cases same
  exact written_append (representation _ representationParsed) (written_append (asset _ assetParsed)
    (written_append (issuer _ issuerParsed) (written_append (chain _ chainParsed)
      (written_append (venue _ venueParsed) (written_append side (written_append (agent _ agentParsed)
        (written_append (quantity _ quantityParsed) (written_append (price _ priceParsed)
          (written_append (notional _ notionalParsed) (written_append (fee _ feeParsed)
            (written_append (stateId _ stateIdParsed) (written_append (stateDigest _ stateDigestParsed)
              (written_append (registry _ registryParsed) (action _ actionParsed))))))))))))))

end Mandate.Kernel
