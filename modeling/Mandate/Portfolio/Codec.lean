import Mandate.Core.Validated
import Mandate.Kernel.Framing
import Mandate.Portfolio.Inputs

/-! Every portfolio object reads back what it writes, and spells the bytes it was read from:
its fields do, in the order they are written. -/
set_option linter.dupNamespace false
namespace Mandate.Portfolio
open Core Lib.Wire Lib.Text List
open Kernel (CanonicalAssetId assetIdInputOf writeAsset)

section Fields

theorem frames_readInt64 (value : Int) : Frames (writeI64 value) readInt64 (.bigint value) 8 :=
  (frames_i64 value).map

theorem frames_readUint64 (value : Int) : Frames (writeU64 value) readUint64 (.bigint value) 8 :=
  (frames_u64_int value).map

theorem frames_readUint256 (value : Int) : Frames (writeU256 value) readUint256 (.bigint value) 32 :=
  (frames_u256_int value).map

variable {read : CoreReader Nat}

theorem frames_readSmall {writer : Writer} {value size : Nat}
    (frames : Frames writer read value size) : Frames writer (readSmall read) (.integer value) size := frames.map

theorem frames_u32_nat (value : Nat) : Frames (writeU32 value) readU32 value 4 := by
  have frames := frames_u32 (value : Int)
  rwa [Int.toNat_natCast] at frames

@[simp] theorem total_writeIdentifier (id : Identifier) : (writeIdentifier id).Total := total_identifier id

theorem total_u256_from {low : Int} (nonneg : 0 ≤ low) (value : IntegerInRange low UINT256_MAX) :
    (writeU256 value.1).Total := total_u256 ⟨value.1, nonneg.trans value.2.1, value.2.2⟩

@[simp] theorem total_small {max : Nat} (short : max ≤ UINT32_MAX) (value : SmallUint max) :
    (writeU32 value.1).Total := total_version ⟨value.1, value.2.trans short⟩

theorem spells_int64 : Spells readInt64 parseUnixSeconds fun seconds => writeI64 seconds.1 := by
  refine spells_i64.map.mono ?_
  rintro used _ ⟨spelled⟩
  exact spelled

theorem spells_uint64 : Spells readUint64 parseUint64 fun value => writeU64 value.1 := by
  refine spells_u64.map.mono ?_
  rintro used _ ⟨spelled⟩
  exact spelled

theorem spells_uint256 (low : Int) : Spells readUint256
    (fun raw path => parseIntegerInRange raw low UINT256_MAX path) fun value => writeU256 value.1 := by
  refine consumes_u256_int.map.mono ?_
  rintro used _ ⟨written⟩ path value valid
  obtain rfl := parseIntegerInRange_ok valid
  exact written

theorem spells_small {write : Nat → Writer} (max : Nat)
    (consumes : Consumes read fun used value => write value = some used) :
    Spells (readSmall read) (fun raw path => parseSmallUint raw max path) fun value => write value.1 := by
  refine consumes.map.mono ?_
  rintro used _ ⟨written⟩ path value valid
  have same := parseSmallUint_ok valid
  change write value.1 = some used
  rw [same]
  exact written

theorem spells_decimals : Spells (readSmall readU8) parseDecimals fun value => writeU8 value.1 := by
  refine consumes_u8.map.mono ?_
  rintro used _ ⟨written⟩ path value valid
  have same := parseDecimals_ok valid
  change writeU8 value.1 = some used
  rw [same]
  exact written

theorem spells_code {α : Type} (codes : WireCodes α) :
    Spells (readCode codes) (fun value _ => .ok value) (writeCode codes) := by
  refine (consumes_code codes).mono ?_
  intro used key written path value valid
  cases valid
  exact written

theorem writeList_map {α β : Type} (write : β → Writer) (f : α → β) (items : List α) :
    writeList write (items.map f) = writeList (fun item => write (f item)) items := by
  simp [writeList, Writer.each, foldr_map]

theorem frames_asset (a : CanonicalAssetId) :
    Frames (writeAsset a) readCanonicalAssetInput (assetIdInputOf a) 390 := by
  refine Frames.mono (.bind (frames_identifier _) (.bind (frames_identifier _)
    (.last (frames_identifier _)))) ?_
  decide

theorem validateCanonicalAsset_self (a : CanonicalAssetId) (path : String) :
    validateCanonicalAsset (assetIdInputOf a) path = .ok a := by
  simp [validateCanonicalAsset, assetIdInputOf, bind, Except.bind]

theorem spells_asset : Spells readCanonicalAssetInput validateCanonicalAsset writeAsset := by
  refine (spells_identifier.bind fun _ => spells_identifier.bind fun _ => spells_identifier.last).mono ?_
  rintro _ _ ⟨first, second, ⟨third⟩⟩ path a valid
  simp only [validateCanonicalAsset, except_bind_ok] at valid
  obtain ⟨_, classValid, _, schemeValid, _, valueValid, same⟩ := valid
  cases same
  exact written_append (first _ _ classValid) (written_append (second _ _ schemeValid) (third _ _ valueValid))

end Fields

section Scope

variable {max : Nat}

theorem frames_strings (set : CanonicalSet writeIdentifier max) :
    Frames (writeList writeIdentifier set.members) (readList max readStr true) (set.members.map (·.1))
      (2 + max * 130) := frames_members frames_identifier set

theorem frames_codes {α : Type} {codes : WireCodes α} (set : CanonicalSet (writeCode codes) max) :
    Frames (writeList (writeCode codes) set.members) (readList max (readCode codes) true) set.members
      (2 + max * 1) := by
  have frames := frames_members (v := id) (frames_code codes) set
  rwa [map_id] at frames

theorem frames_scope (s : AuthorityScope) :
    Frames (writeAuthorityScope s) readAuthorityScopeInput (authorityScopeInputOf s) 75140 := by
  have leverage := frames_nullable (v := ratioInputOf) frames_ratio s.maxLeverage
  have slippage := frames_nullable (v := fun bps : BasisPoints => NumberInput.integer bps.1)
    (fun bps => frames_readSmall (frames_u32_nat bps.1)) s.maxSlippageBps
  have age := frames_nullable (v := fun age : Uint64 => IntegerInput.bigint age.1)
    (fun age => frames_readUint64 age.1) s.maxQuoteAgeSeconds
  simp only [writeAuthorityScope, Writer.append_assoc]
  refine Frames.mono (.bind (frames_strings _) (.bind (frames_codes _) (.bind (frames_strings _)
    (.bind (frames_strings _) (.bind (frames_members frames_asset _) (.bind (frames_strings _)
      (.bind (frames_strings _) (.bind (frames_strings _) (.bind (frames_code _ _) (.bind (frames_codes _)
        (.bind leverage (.bind slippage (.last age))))))))))))) ?_
  decide

theorem validateAuthorityScope_self (s : AuthorityScope) (path : String) :
    validateAuthorityScope (authorityScopeInputOf s) path = .ok s := by
  have strings := fun (set : IdentifierSet) path =>
    validateMembers_self (g := Subtype.val) parseIdentifierAs_self set path
  have actions := fun path => validateMembers_self (f := fun kind _ => .ok kind) (g := id)
    (fun _ _ => rfl) s.actions path
  have rights := fun path => validateMembers_self (f := fun kind _ => .ok kind) (g := id)
    (fun _ _ => rfl) s.requiredRights path
  have leverage := fun path => validateNullable_self validateRatio_self path s.maxLeverage
  have slippage := fun path => validateNullable_self (f := parseBasisPoints)
    (fun bps path => parseSmallUint_self (by decide) bps path) path s.maxSlippageBps
  have age := fun path => validateNullable_self parseUint64_self path s.maxQuoteAgeSeconds
  simp only [map_id] at actions rights
  simp only [validateAuthorityScope, authorityScopeInputOf, identifierSet, enumSet, strings, actions, rights,
    validateMembers_self validateCanonicalAsset_self, leverage, slippage, age, bind, Except.bind]

@[simp] theorem total_scope (s : AuthorityScope) : (writeAuthorityScope s).Total := by
  have bps := total_nullable (fun bps : BasisPoints => total_small (by decide) bps) s.maxSlippageBps
  simp (disch := first | decide | simp) [writeAuthorityScope, bps]

theorem spells_scope : Spells readAuthorityScopeInput validateAuthorityScope writeAuthorityScope := by
  have strings : Spells readStrings identifierSet fun set => writeList writeIdentifier set.members :=
    spells_members MAX_SCOPE_MEMBERS spells_identifier
  refine (strings.bind fun _ => (spells_members MAX_SCOPE_MEMBERS (spells_code ACTION_KIND_CODE)).bind fun _ =>
    strings.bind fun _ => strings.bind fun _ => (spells_members MAX_SCOPE_MEMBERS spells_asset).bind fun _ =>
      strings.bind fun _ => strings.bind fun _ => strings.bind fun _ => (consumes_code _).bind fun _ =>
        (spells_members MAX_SCOPE_MEMBERS (spells_code RIGHT_CODE)).bind fun _ =>
          (spells_nullable spells_ratio).bind fun _ =>
            (spells_nullable (spells_small 10000 consumes_u32)).bind fun _ =>
              (spells_nullable spells_uint64).last).mono ?_
  rintro _ _ ⟨domains, actions, chains, venues,
    assets, representations, issuers, recipients,
    synthetic, rights, leverage, slippage, ⟨age⟩⟩ path s valid
  simp only [validateAuthorityScope, except_bind_ok] at valid
  obtain ⟨_, domainsValid, _, actionsValid, _, chainsValid, _, venuesValid, _, assetsValid,
    _, representationsValid, _, issuersValid, _, recipientsValid, _, rightsValid, _, leverageValid,
    _, slippageValid, _, ageValid, same⟩ := valid
  cases same
  simp only [writeAuthorityScope, Writer.append_assoc]
  exact written_append (domains _ _ domainsValid) (written_append (actions _ _ actionsValid)
    (written_append (chains _ _ chainsValid) (written_append (venues _ _ venuesValid)
      (written_append (assets _ _ assetsValid) (written_append (representations _ _ representationsValid)
        (written_append (issuers _ _ issuersValid) (written_append (recipients _ _ recipientsValid)
          (written_append synthetic (written_append (rights _ _ rightsValid)
            (written_append (leverage _ _ leverageValid) (written_append (slippage _ _ slippageValid)
              (age _ _ ageValid))))))))))))

end Scope

section Candidates

theorem frames_claims (c : Claims) : Frames (writeClaims c) readClaimsInput (claimsInputOf c) 784 := by
  have named := fun item => frames_nullable (v := Subtype.val) frames_identifier item
  have asset := frames_nullable (v := assetIdInputOf) frames_asset c.asset
  simp only [writeClaims, Writer.append_assoc]
  refine Frames.mono (.bind (named _) (.bind (named _) (.bind (named _) (.last asset)))) ?_
  decide

theorem validateClaims_self (c : Claims) (path : String) : validateClaims (claimsInputOf c) path = .ok c := by
  have named := fun (item : Option Identifier) path =>
    validateNullable_self (g := Subtype.val) parseIdentifierAs_self path item
  have asset := fun path => validateNullable_self validateCanonicalAsset_self path c.asset
  simp only [validateClaims, claimsInputOf, named, asset, bind, Except.bind]

@[simp] theorem total_claims (c : Claims) : (writeClaims c).Total := by
  simp [writeClaims]

theorem spells_claims : Spells readClaimsInput validateClaims writeClaims := by
  refine ((spells_nullable spells_identifier).bind fun _ => (spells_nullable spells_identifier).bind fun _ =>
    (spells_nullable spells_identifier).bind fun _ => (spells_nullable spells_asset).last).mono ?_
  rintro _ _ ⟨ticker, name, issuer, ⟨asset⟩⟩ path c valid
  simp only [validateClaims, except_bind_ok] at valid
  obtain ⟨_, tickerValid, _, nameValid, _, issuerValid, _, assetValid, same⟩ := valid
  cases same
  simp only [writeClaims, Writer.append_assoc]
  exact written_append (ticker _ _ tickerValid) (written_append (name _ _ nameValid)
    (written_append (issuer _ _ issuerValid) (asset _ _ assetValid)))

def writeCandidateBody : ActionCandidate → Writer
  | .stockBuy representation account quantity claims =>
    writeIdentifier representation ++ (writeIdentifier account ++ (writeU256 quantity.1 ++ writeClaims claims))
  | .swapExactIn router route tokenIn tokenOut amountIn quotedOut minOut quoteObservedAt recipient claims _ _ =>
    writeIdentifier router ++ (writeList writeIdentifier route ++ (writeIdentifier tokenIn ++
      (writeIdentifier tokenOut ++ (writeU256 amountIn.1 ++ (writeU256 quotedOut.1 ++ (writeU256 minOut.1 ++
        (writeI64 quoteObservedAt.1 ++ (writeIdentifier recipient ++ writeClaims claims))))))))
  | .nftBuy marketplace collection tokenId maxPrice recipient claims =>
    writeIdentifier marketplace ++ (writeIdentifier collection ++ (writeU256 tokenId.1 ++
      (writeU256 maxPrice.1 ++ (writeIdentifier recipient ++ writeClaims claims))))
  | .yieldDeposit product amount quotedApyBps quoteObservedAt recipient claims =>
    writeIdentifier product ++ (writeU256 amount.1 ++ (writeU32 quotedApyBps.1 ++
      (writeI64 quoteObservedAt.1 ++ (writeIdentifier recipient ++ writeClaims claims))))
  | .perpOpen market account side size price initialMarginFraction claims _ =>
    writeIdentifier market ++ (writeIdentifier account ++ (writeCode PERP_SIDE_CODE side ++
      (writeU256 size.1 ++ (writeU256 price.1 ++ (writeU16 initialMarginFraction.1 ++ writeClaims claims)))))

theorem writeActionCandidate_body (c : ActionCandidate) :
    writeActionCandidate c = writeCode ACTION_KIND_CODE c.kind ++ writeCandidateBody c := by
  cases c <;> simp only [writeActionCandidate, writeCandidateBody, ActionCandidate.kind, Writer.append_assoc]

theorem frames_route (route : List Identifier) (few : route.length ≤ MAX_ROUTE_HOPS) :
    Frames (writeList writeIdentifier route) (readList MAX_ROUTE_HOPS readStr false) (route.map (·.1)) 522 := by
  refine (frames_list (n := fun _ => 130) few fun hop _ => frames_identifier hop).mono ?_
  have bounded := Nat.mul_le_mul_right 130 few
  simp only [map_const', sum_replicate_nat, MAX_ROUTE_HOPS] at bounded ⊢
  omega

theorem frames_candidateBody (c : ActionCandidate) :
    Frames (writeCandidateBody c) (readCandidateBody c.kind) (actionCandidateInputOf c) 2100 := by
  have claimed := frames_claims
  cases c with
  | stockBuy representation account quantity claims =>
    refine Frames.mono (.bind (frames_identifier _) (.bind (frames_identifier _)
      (.bind (frames_readUint256 _) (.last (claimed claims))))) ?_
    decide
  | swapExactIn router route tokenIn tokenOut amountIn quotedOut minOut observed recipient claims routed =>
    refine Frames.mono (.bind (frames_identifier _) (.bind (frames_route route routed.2)
      (.bind (frames_identifier _) (.bind (frames_identifier _) (.bind (frames_readUint256 _)
        (.bind (frames_readUint256 _) (.bind (frames_readUint256 _) (.bind (frames_readInt64 _)
          (.bind (frames_identifier _) (.last (claimed claims))))))))))) ?_
    decide
  | nftBuy marketplace collection tokenId maxPrice recipient claims =>
    refine Frames.mono (.bind (frames_identifier _) (.bind (frames_identifier _)
      (.bind (frames_readUint256 _) (.bind (frames_readUint256 _) (.bind (frames_identifier _)
        (.last (claimed claims))))))) ?_
    decide
  | yieldDeposit product amount apy observed recipient claims =>
    refine Frames.mono (.bind (frames_identifier _) (.bind (frames_readUint256 _)
      (.bind (frames_readSmall (frames_u32_nat _)) (.bind (frames_readInt64 _) (.bind (frames_identifier _)
        (.last (claimed claims))))))) ?_
    decide
  | perpOpen market account side size price imf claims margined =>
    refine Frames.mono (.bind (frames_identifier _) (.bind (frames_identifier _) (.bind (frames_code _ _)
      (.bind (frames_readUint256 _) (.bind (frames_readUint256 _) (.bind (frames_readSmall (frames_u16 _))
        (.last (claimed claims)))))))) ?_
    decide

theorem frames_candidate (c : ActionCandidate) :
    Frames (writeActionCandidate c) readActionCandidateInput (actionCandidateInputOf c) 2101 := by
  rw [writeActionCandidate_body]
  exact ((frames_code ACTION_KIND_CODE c.kind).bind (frames_candidateBody c)).mono (by decide)

theorem validateActionCandidate_self (c : ActionCandidate) (path : String) :
    validateActionCandidate (actionCandidateInputOf c) path = .ok c := by
  have claimed := validateClaims_self
  have small := fun (max : Nat) (safe : max ≤ MAX_SAFE_INTEGER) => parseSmallUint_self safe
  cases c with
  | stockBuy representation account quantity claims =>
    simp only [validateActionCandidate, actionCandidateInputOf, claimed, parseIdentifierAs_self, positive,
      parseIntegerInRange_self, bind, Except.bind]
  | swapExactIn router route tokenIn tokenOut amountIn quotedOut minOut observed recipient claims routed fillable =>
    obtain ⟨⟨kept, sized⟩, hops, same⟩ := validateEach_self (g := Subtype.val) parseIdentifierAs_self
      (atField path "route") route 0
    change kept = route at same
    subst kept
    have few : (List.map Subtype.val route).length ≤ MAX_ROUTE_HOPS := by rw [length_map]; exact routed.2
    have some_ : 0 < (List.map Subtype.val route).length := by rw [length_map]; exact routed.1
    simp only [validateActionCandidate, actionCandidateInputOf, claimed, parseIdentifierAs_self, positive,
      unsigned, parseIntegerInRange_self, parseUnixSeconds_self, dif_pos few, dif_pos some_, hops,
      dif_pos fillable, bind, Except.bind]
  | nftBuy marketplace collection tokenId maxPrice recipient claims =>
    simp only [validateActionCandidate, actionCandidateInputOf, claimed, parseIdentifierAs_self, positive,
      unsigned, parseIntegerInRange_self, bind, Except.bind]
  | yieldDeposit product amount apy observed recipient claims =>
    simp only [validateActionCandidate, actionCandidateInputOf, claimed, parseIdentifierAs_self, positive,
      parseIntegerInRange_self, parseUnixSeconds_self, small 1000000 (by decide) apy, bind, Except.bind]
  | perpOpen market account side size price imf claims margined =>
    simp only [validateActionCandidate, actionCandidateInputOf, claimed, parseIdentifierAs_self, positive,
      parseBasisPoints, parseIntegerInRange_self, small 10000 (by decide) imf, dif_pos margined, bind, Except.bind]

@[simp] theorem total_candidate (c : ActionCandidate) : (writeActionCandidate c).Total := by
  have atoms := fun (value : PositiveAtoms) => total_u256_from (by decide) value
  rw [writeActionCandidate_body, Writer.total_both]
  refine ⟨total_code _ _, ?_⟩
  cases c with
  | swapExactIn router route tokenIn tokenOut amountIn quotedOut minOut observed recipient claims routed =>
    have hops : (writeList writeIdentifier route).Total :=
      total_list (routed.2.trans_lt (by decide)) fun hop _ => total_identifier hop
    simp [writeCandidateBody, atoms, hops]
  | perpOpen market account side size price imf claims margined =>
    simp [writeCandidateBody, atoms, total_u16 (imf.2.trans_lt (by decide))]
  | _ => simp (disch := first | decide | simp) [writeCandidateBody, atoms]

theorem spells_candidateBody (kind : ActionKind) : Consumes (readCandidateBody kind)
    fun used input => ∀ path c, validateActionCandidate input path = .ok c →
      c.kind = kind ∧ writeCandidateBody c = some used := by
  have named := spells_identifier
  have positives : Spells readUint256 positive fun value => writeU256 value.1 := spells_uint256 1
  have unsigneds : Spells readUint256 unsigned fun value => writeU256 value.1 := spells_uint256 0
  cases kind with
  | stockBuy =>
    refine (named.bind fun _ => named.bind fun _ => positives.bind fun _ => spells_claims.last).mono ?_
    rintro _ _ ⟨representation, account, quantity, ⟨claims⟩⟩ path c valid
    simp only [validateActionCandidate, except_bind_ok] at valid
    obtain ⟨_, claimsValid, _, representationValid, _, accountValid, _, quantityValid, same⟩ := valid
    cases same
    exact ⟨rfl, written_append (representation _ _ representationValid) (written_append (account _ _ accountValid)
      (written_append (quantity _ _ quantityValid) (claims _ _ claimsValid)))⟩
  | swapExactIn =>
    refine (named.bind fun _ => (consumes_list MAX_ROUTE_HOPS named false).bind fun _ => named.bind fun _ =>
      named.bind fun _ => positives.bind fun _ => positives.bind fun _ => unsigneds.bind fun _ =>
        spells_int64.bind fun _ => named.bind fun _ => spells_claims.last).mono ?_
    rintro _ _ ⟨router, ⟨header, body, rfl, counted, listed⟩, tokenIn, tokenOut, amountIn, quotedOut, minOut,
      observed, recipient, ⟨claims⟩⟩ path c valid
    simp only [validateActionCandidate, except_bind_ok, guard_ok] at valid
    obtain ⟨_, claimsValid, _, routerValid, _, _, route, routeValid, _, tokenInValid, _, tokenOutValid,
      _, amountInValid, _, quotedOutValid, _, minOutValid, _, _, observedValid, _, recipientValid, same⟩ := valid
    cases same
    have each : ∀ used input item, (∀ path value, parseIdentifierAs input path = .ok value →
        writeIdentifier value = some used) → (∃ path, parseIdentifierAs input path = .ok item) →
        writeIdentifier item = some used := by
      rintro used input item spelled ⟨path, here⟩
      exact spelled path item here
    have routed : writeList writeIdentifier route.1 = some (header ++ body) := by
      rw [writeList, route.2]
      exact written_append counted (listed.written each (validateEach_ok routeValid))
    exact ⟨rfl, written_append (router _ _ routerValid) (written_append routed
      (written_append (tokenIn _ _ tokenInValid) (written_append (tokenOut _ _ tokenOutValid)
        (written_append (amountIn _ _ amountInValid) (written_append (quotedOut _ _ quotedOutValid)
          (written_append (minOut _ _ minOutValid) (written_append (observed _ _ observedValid)
            (written_append (recipient _ _ recipientValid) (claims _ _ claimsValid)))))))))⟩
  | nftBuy =>
    refine (named.bind fun _ => named.bind fun _ => unsigneds.bind fun _ => positives.bind fun _ =>
      named.bind fun _ => spells_claims.last).mono ?_
    rintro _ _ ⟨marketplace, collection, tokenId, maxPrice, recipient, ⟨claims⟩⟩ path c valid
    simp only [validateActionCandidate, except_bind_ok] at valid
    obtain ⟨_, claimsValid, _, marketplaceValid, _, collectionValid, _, tokenIdValid, _, maxPriceValid,
      _, recipientValid, same⟩ := valid
    cases same
    exact ⟨rfl, written_append (marketplace _ _ marketplaceValid) (written_append (collection _ _ collectionValid)
      (written_append (tokenId _ _ tokenIdValid) (written_append (maxPrice _ _ maxPriceValid)
        (written_append (recipient _ _ recipientValid) (claims _ _ claimsValid)))))⟩
  | yieldDeposit =>
    refine (named.bind fun _ => positives.bind fun _ => (spells_small 1000000 consumes_u32).bind fun _ =>
      spells_int64.bind fun _ => named.bind fun _ => spells_claims.last).mono ?_
    rintro _ _ ⟨product, amount, apy, observed,
      recipient, ⟨claims⟩⟩ path c valid
    simp only [validateActionCandidate, except_bind_ok] at valid
    obtain ⟨_, claimsValid, _, productValid, _, amountValid, _, apyValid, _, observedValid, _, recipientValid,
      same⟩ := valid
    cases same
    exact ⟨rfl, written_append (product _ _ productValid) (written_append (amount _ _ amountValid)
      (written_append (apy _ _ apyValid) (written_append (observed _ _ observedValid)
        (written_append (recipient _ _ recipientValid) (claims _ _ claimsValid)))))⟩
  | perpOpen =>
    refine (named.bind fun _ => named.bind fun _ => (consumes_code _).bind fun _ => positives.bind fun _ =>
      positives.bind fun _ => (spells_small 10000 consumes_u16).bind fun _ => spells_claims.last).mono ?_
    rintro _ _ ⟨market, account, side, size,
      price, fraction, ⟨claims⟩⟩ path c valid
    simp only [validateActionCandidate, except_bind_ok, guard_ok] at valid
    obtain ⟨_, claimsValid, _, marketValid, _, accountValid, _, sizeValid, _, priceValid, _, fractionValid,
      _, same⟩ := valid
    cases same
    exact ⟨rfl, written_append (market _ _ marketValid) (written_append (account _ _ accountValid)
      (written_append side (written_append (size _ _ sizeValid) (written_append (price _ _ priceValid)
        (written_append (fraction _ _ fractionValid) (claims _ _ claimsValid))))))⟩

theorem spells_candidate : Spells readActionCandidateInput validateActionCandidate writeActionCandidate := by
  refine ((consumes_code ACTION_KIND_CODE).bind spells_candidateBody).mono ?_
  rintro _ _ ⟨coded, body⟩ path c valid
  obtain ⟨rfl, spelled⟩ := body path c valid
  rw [writeActionCandidate_body]
  exact written_append coded spelled

end Candidates

section Amounts

theorem trackable (kind : ResourceKind) : (QUANTITY_KIND_RULES kind.1).ledgerTrackable = true := by
  obtain ⟨kind, listed⟩ := kind
  revert listed
  cases kind <;> decide

theorem frames_definition (d : ResourceDefinition) :
    Frames (writeResourceDefinition d) readResourceDefinitionInput (resourceDefinitionInputOf d) 300 := by
  have domain := frames_nullable (v := Subtype.val) frames_identifier d.domain
  simp only [writeResourceDefinition, Writer.append_assoc]
  refine Frames.mono (.bind (frames_identifier _) (.bind (frames_code _ _) (.bind (frames_unit _)
    (.bind (frames_readSmall (frames_u8 _)) (.last domain))))) ?_
  decide

theorem validateResourceDefinition_self (d : ResourceDefinition) (path : String) :
    validateResourceDefinition (resourceDefinitionInputOf d) path = .ok d := by
  have domain := fun path => validateNullable_self (g := Subtype.val) parseIdentifierAs_self path d.domain
  simp only [validateResourceDefinition, resourceDefinitionInputOf, parseIdentifierAs_self, trackable, if_true,
    parseUnitCode_self, dif_pos d.counted, parseDecimals_self, domain, bind, Except.bind]

@[simp] theorem total_definition (d : ResourceDefinition) : (writeResourceDefinition d).Total := by
  simp [writeResourceDefinition]

theorem spells_definition :
    Spells readResourceDefinitionInput validateResourceDefinition writeResourceDefinition := by
  refine (spells_identifier.bind fun _ => (consumes_code _).bind fun _ => spells_unit.bind fun _ =>
    spells_decimals.bind fun _ => (spells_nullable spells_identifier).last).mono ?_
  rintro _ _ ⟨resource, kind, unit, decimals, ⟨domain⟩⟩ path d valid
  simp only [validateResourceDefinition, trackable, if_true, except_bind_ok, guard_ok] at valid
  obtain ⟨_, resourceValid, _, unitValid, _, _, decimalsValid, _, domainValid, same⟩ := valid
  cases same
  simp only [writeResourceDefinition, Writer.append_assoc]
  exact written_append (resource _ _ resourceValid) (written_append kind (written_append (unit _ _ unitValid)
    (written_append (decimals _ _ decimalsValid) (domain _ _ domainValid))))

theorem definition_keyed : Keyed writeResourceDefinition writeDefinitionKey readStr where
  begins d := by
    refine ⟨writeCode RESOURCE_KIND_CODE d.kind ++ (writeStr d.unit.1 ++ (writeU8 d.decimals.1 ++
      writeNullable (fun domain : DomainId => writeStr domain.1) d.domain)), ?_, ?_⟩
    · simp only [writeResourceDefinition, writeDefinitionKey, Writer.append_assoc]
    · simp
  total d := total_identifier d.resource
  framed d bytes written := ⟨_, (frames_identifier d.resource bytes written).2⟩

def writeAmount (a : ValidAmount) : Writer := writeStr a.1.resource.1 ++ writeU256 a.1.atoms

theorem writeResourceVector_amounts (v : ValidVector) :
    writeResourceVector v.amounts = writeList writeAmount v.members := by
  rw [writeResourceVector, ValidVector.amounts, writeList_map]
  rfl

@[simp] theorem total_amount (a : ValidAmount) : (writeAmount a).Total := by
  simp [writeAmount, total_u256 ⟨a.1.atoms, a.2⟩]

theorem amount_keyed : Keyed writeAmount writeAmountKey readStr where
  begins a := ⟨writeU256 a.1.atoms, rfl, total_u256 ⟨a.1.atoms, a.2⟩⟩
  total a := total_identifier a.1.resource
  framed a bytes written := ⟨_, (frames_identifier a.1.resource bytes written).2⟩

private theorem frames_amount (a : ValidAmount) : Frames (writeAmount a) readAmountInput (amountInputOf a) 162 := by
  refine Frames.mono (.bind (frames_identifier _) (.last (frames_readUint256 _))) ?_
  decide

theorem validateAmount_self (a : ValidAmount) (path : String) :
    validateAmount (amountInputOf a) path = .ok a := by
  have nonneg : ¬ a.1.atoms < 0 := by have := a.2; omega
  simp only [validateAmount, amountInputOf, parseIdentifierAs_self, parseInteger_self, if_neg nonneg,
    dif_pos a.2, bind, Except.bind]

theorem spells_amount : Spells readAmountInput validateAmount writeAmount := by
  refine (spells_identifier.bind fun _ => consumes_u256_int.map.last).mono ?_
  rintro _ _ ⟨resource, ⟨⟨written⟩⟩⟩ path a valid
  simp only [validateAmount, parseInteger_self, except_bind_ok, unless_ok, guard_ok] at valid
  obtain ⟨_, resourceValid, _, parsed, _, _, same⟩ := valid
  cases parsed
  cases same
  exact written_append (resource _ _ resourceValid) written

theorem frames_vector (v : ValidVector) : Frames (writeResourceVector v.amounts) readResourceVectorInput
    (resourceVectorInputOf v) 5186 := by
  rw [writeResourceVector_amounts]
  exact (amount_keyed.frames_set v frames_amount).mono (by decide)

theorem validateResourceVector_self (v : ValidVector) (path : String) :
    validateResourceVector (resourceVectorInputOf v) path = .ok v :=
  validateMembers_self validateAmount_self v path

@[simp] theorem total_vector (v : ValidVector) : (writeResourceVector v.amounts).Total := by
  rw [writeResourceVector_amounts]
  exact Keyed.total_set (by decide) v total_amount

theorem spells_vector : Spells readResourceVectorInput validateResourceVector
    fun v => writeResourceVector v.amounts := by
  refine (amount_keyed.spells_set MAX_RESOURCES spells_amount).mono ?_
  intro used inputs spelled path v valid
  change writeResourceVector v.amounts = some used
  rw [writeResourceVector_amounts]
  exact spelled path v valid

end Amounts

section Objects

theorem frames_agentPolicy (a : AgentPolicy) :
    Frames (writeAgentPolicy a) readAgentPolicyInput (agentPolicyInputOf a) 85918 := by
  simp only [writeAgentPolicy, Writer.append_assoc]
  refine Frames.mono (.bind (frames_party _) (.bind (frames_identifier _) (.bind (frames_scope _)
    (.bind (frames_readInt64 _) (.bind (frames_readInt64 _) (.bind (frames_vector _)
      (.last (frames_vector _)))))))) ?_
  decide

theorem validateAgentPolicy_self (a : AgentPolicy) (path : String) :
    validateAgentPolicy (agentPolicyInputOf a) path = .ok a := by
  simp only [validateAgentPolicy, agentPolicyInputOf, validatePartyId_self, parseIdentifierAs_self,
    validateAuthorityScope_self, validateWindow_self, validateResourceVector_self, bind, Except.bind]

@[simp] theorem total_afterAgent (a : AgentPolicy) : (writeStr a.label.1 ++ (writeAuthorityScope a.scope ++
    (writeI64 a.window.notBefore.1 ++ (writeI64 a.window.expiresAt.1 ++
      (writeResourceVector a.hardMaxima.amounts ++ writeResourceVector a.preferred.amounts))))).Total :=
  by simp

theorem spells_agentPolicy : Spells readAgentPolicyInput validateAgentPolicy writeAgentPolicy := by
  refine (spells_party.bind fun _ => spells_identifier.bind fun _ => spells_scope.bind fun _ =>
    spells_int64.bind fun _ => spells_int64.bind fun _ => spells_vector.bind fun _ => spells_vector.last).mono ?_
  rintro _ _ ⟨agent, label, scope, start, stop,
    maxima, ⟨preferred⟩⟩ path a valid
  simp only [validateAgentPolicy, except_bind_ok] at valid
  obtain ⟨_, agentValid, _, labelValid, _, scopeValid, _, windowValid, _, maximaValid, _, preferredValid, same⟩ := valid
  cases same
  obtain ⟨⟨_, startValid⟩, _, stopValid⟩ := validateWindow_ok windowValid
  simp only [writeAgentPolicy, Writer.append_assoc]
  exact written_append (agent _ _ agentValid) (written_append (label _ _ labelValid)
    (written_append (scope _ _ scopeValid) (written_append (start _ _ startValid) (written_append (stop _ _ stopValid)
      (written_append (maxima _ _ maximaValid) (preferred _ _ preferredValid))))))

theorem agent_keyed : Keyed writeAgentPolicy writeAgentKey readPartyInput where
  begins a := ⟨_, by simp only [writeAgentPolicy, writeAgentKey, Writer.append_assoc], total_afterAgent a⟩
  total a := total_party a.agent
  framed a bytes written := ⟨_, (frames_party a.agent bytes written).2⟩

@[simp] theorem total_agentPolicy (a : AgentPolicy) : (writeAgentPolicy a).Total := by
  simp [writeAgentPolicy]

def writeMandateBody (m : PortfolioMandate) : Writer :=
  writeParty m.principal ++ (writeU64 m.policyVersion.1 ++ (writeU64 m.nonce.1 ++
    (writeI64 m.window.notBefore.1 ++ (writeI64 m.window.expiresAt.1 ++
      (writeCode ALLOCATION_MODE_CODE m.allocationMode ++
        (writeList writeResourceDefinition m.resources.members ++ (writeAuthorityScope m.scope ++
          (writeResourceVector m.limits.amounts ++ writeList writeAgentPolicy m.agents.members))))))))

theorem frames_mandate (m : PortfolioMandate) :
    Frames (writeMandateBody m) readMandateInput (portfolioMandateInputOf m) 1465000 := by
  refine Frames.mono (.bind (frames_party _) (.bind (frames_readUint64 _) (.bind (frames_readUint64 _)
    (.bind (frames_readInt64 _) (.bind (frames_readInt64 _) (.bind (frames_code _ _)
      (.bind (definition_keyed.frames_set _ frames_definition) (.bind (frames_scope _) (.bind (frames_vector _)
        (.last (agent_keyed.frames_set _ frames_agentPolicy))))))))))) ?_
  decide

theorem validatePortfolioMandate_self (m : PortfolioMandate) (path : String) :
    validatePortfolioMandate (portfolioMandateInputOf m) path = .ok m := by
  simp only [validatePortfolioMandate, portfolioMandateInputOf, validatePartyId_self, parseUint64_self,
    validateWindow_self, validateResourceDefinitions, validateMembers_self validateResourceDefinition_self,
    validateAuthorityScope_self, validateResourceVector_self, validateMembers_self validateAgentPolicy_self,
    bind, Except.bind]

theorem total_mandate (m : PortfolioMandate) : (writeMandateBody m).Total := by
  simp (disch := first | decide | simp) [writeMandateBody]

theorem spells_mandate : Spells readMandateInput validatePortfolioMandate writeMandateBody := by
  refine (spells_party.bind fun _ => spells_uint64.bind fun _ => spells_uint64.bind fun _ =>
    spells_int64.bind fun _ => spells_int64.bind fun _ => (consumes_code _).bind fun _ =>
      (definition_keyed.spells_set MAX_RESOURCES spells_definition).bind fun _ => spells_scope.bind fun _ =>
        spells_vector.bind fun _ => (agent_keyed.spells_set MAX_AGENTS spells_agentPolicy).last).mono ?_
  rintro _ _ ⟨principal, version, nonce, start,
    stop, mode, resources, scope, limits, ⟨agents⟩⟩ path m valid
  simp only [validatePortfolioMandate, except_bind_ok] at valid
  obtain ⟨_, principalValid, _, versionValid, _, nonceValid, _, windowValid, _, resourcesValid, _, scopeValid,
    _, limitsValid, _, agentsValid, same⟩ := valid
  cases same
  obtain ⟨⟨_, startValid⟩, _, stopValid⟩ := validateWindow_ok windowValid
  exact written_append (principal _ _ principalValid) (written_append (version _ _ versionValid)
    (written_append (nonce _ _ nonceValid) (written_append (start _ _ startValid)
      (written_append (stop _ _ stopValid) (written_append mode (written_append (resources _ _ resourcesValid)
        (written_append (scope _ _ scopeValid) (written_append (limits _ _ limitsValid)
          (agents _ _ agentsValid)))))))))

def writeProposalBody (p : AgentProposal) : Writer :=
  writeDigest p.portfolioMandate ++ (writeParty p.agent ++ (writeU64 p.sequence.1 ++
    (writeActionCandidate p.candidate ++ (writeResourceVector p.requested.amounts ++
      (writeResourceVector p.minimum.amounts ++ (writeI64 p.utilityBps.1 ++ (writeI64 p.createdAt.1 ++
        (writeI64 p.expiresAt.1 ++ writeList writeIdentifier p.criticalExtensions.members))))))))

theorem frames_proposal (p : AgentProposal) :
    Frames (writeProposalBody p) readProposalInput (agentProposalInputOf p) 13900 := by
  refine Frames.mono (.bind (frames_digest _) (.bind (frames_party _) (.bind (frames_readUint64 _)
    (.bind (frames_candidate _) (.bind (frames_vector _) (.bind (frames_vector _) (.bind (frames_readInt64 _)
      (.bind (frames_readInt64 _) (.bind (frames_readInt64 _)
        (.last (frames_members frames_identifier _))))))))))) ?_
  decide

theorem validateAgentProposal_self (p : AgentProposal) (path : String) :
    validateAgentProposal (agentProposalInputOf p) path = .ok p := by
  have extensions := fun path => validateMembers_self (g := Subtype.val) parseIdentifierAs_self
    p.criticalExtensions path
  simp only [validateAgentProposal, agentProposalInputOf, parseDigest_toHex, validatePartyId_self,
    parseUint64_self, validateActionCandidate_self, validateResourceVector_self, parseIntegerInRange_self,
    validateWindowFrom, parseUnixSeconds_self, dif_pos p.ordered, extensions, bind, Except.bind]

theorem total_proposal (p : AgentProposal) : (writeProposalBody p).Total := by
  simp (disch := first | decide | simp) [writeProposalBody]

theorem spells_proposal : Spells readProposalInput validateAgentProposal writeProposalBody := by
  refine (spells_digest.bind fun _ => spells_party.bind fun _ => spells_uint64.bind fun _ =>
    spells_candidate.bind fun _ => spells_vector.bind fun _ => spells_vector.bind fun _ =>
      spells_int64.bind fun _ => spells_int64.bind fun _ => spells_int64.bind fun _ =>
        (spells_members MAX_EXTENSIONS spells_identifier).last).mono ?_
  rintro _ _ ⟨mandate, agent, sequence, candidate,
    requested, minimum, utility, start, stop, ⟨extensions⟩⟩ path p valid
  simp only [validateAgentProposal, validateWindowFrom, except_bind_ok, guard_ok] at valid
  obtain ⟨_, mandateValid, _, agentValid, _, sequenceValid, _, candidateValid, _, requestedValid, _, minimumValid,
    _, utilityValid, _, ⟨_, startValid, _, stopValid, _, windowed⟩, _, extensionsValid, same⟩ := valid
  cases windowed
  cases same
  exact written_append (mandate _ _ mandateValid) (written_append (agent _ _ agentValid)
    (written_append (sequence _ _ sequenceValid) (written_append (candidate _ _ candidateValid)
      (written_append (requested _ _ requestedValid) (written_append (minimum _ _ minimumValid)
        (written_append (utility _ _ utilityValid) (written_append (start _ _ startValid)
          (written_append (stop _ _ stopValid) (extensions _ _ extensionsValid)))))))))

def writeReleaseBody (r : AgentRelease) : Writer :=
  writeDigest r.portfolioMandate ++ (writeParty r.agent ++ (writeU64 r.sequence.1 ++
    writeResourceVector r.amounts.amounts))

theorem frames_release (r : AgentRelease) :
    Frames (writeReleaseBody r) readReleaseInput (agentReleaseInputOf r) 5486 := by
  refine Frames.mono (.bind (frames_digest _) (.bind (frames_party _) (.bind (frames_readUint64 _)
    (.last (frames_vector _))))) ?_
  decide

theorem validateAgentRelease_self (r : AgentRelease) (path : String) :
    validateAgentRelease (agentReleaseInputOf r) path = .ok r := by
  simp only [validateAgentRelease, agentReleaseInputOf, parseDigest_toHex, validatePartyId_self,
    parseUint64_self, validateResourceVector_self, bind, Except.bind]

theorem total_release (r : AgentRelease) : (writeReleaseBody r).Total := by
  simp [writeReleaseBody]

theorem spells_release : Spells readReleaseInput validateAgentRelease writeReleaseBody := by
  refine (spells_digest.bind fun _ => spells_party.bind fun _ => spells_uint64.bind fun _ =>
    spells_vector.last).mono ?_
  rintro _ _ ⟨mandate, agent, sequence, ⟨amounts⟩⟩ path r valid
  simp only [validateAgentRelease, except_bind_ok] at valid
  obtain ⟨_, mandateValid, _, agentValid, _, sequenceValid, _, amountsValid, same⟩ := valid
  cases same
  exact written_append (mandate _ _ mandateValid) (written_append (agent _ _ agentValid)
    (written_append (sequence _ _ sequenceValid) (amounts _ _ amountsValid)))

def writeValidChild (c : ValidChild) : Writer :=
  writeDigest c.portfolioMandate ++ (writeParty c.principal ++ (writeParty c.agent ++ (writeDigest c.proposal ++
    (writeDigest c.candidate ++ (writeAuthorityScope c.scope ++ (writeResourceVector c.approved.amounts ++
      (writeI64 c.window.notBefore.1 ++ writeI64 c.window.expiresAt.1)))))))

theorem frames_child (c : ValidChild) :
    Frames (writeValidChild c) readChildInput (childExecutionAuthorizationInputOf c) 80960 := by
  refine Frames.mono (.bind (frames_digest _) (.bind (frames_party _) (.bind (frames_party _)
    (.bind (frames_digest _) (.bind (frames_digest _) (.bind (frames_scope _) (.bind (frames_vector _)
      (.bind (frames_readInt64 _) (.last (frames_readInt64 _)))))))))) ?_
  decide

theorem validateChild_self (c : ValidChild) (path : String) :
    validateChildExecutionAuthorization (childExecutionAuthorizationInputOf c) path = .ok c := by
  simp only [validateChildExecutionAuthorization, childExecutionAuthorizationInputOf, parseDigest_toHex,
    validatePartyId_self, validateAuthorityScope_self, validateResourceVector_self, validateWindow_self,
    bind, Except.bind]

theorem total_child (c : ValidChild) : (writeValidChild c).Total := by
  simp [writeValidChild]

theorem spells_child : Spells readChildInput validateChildExecutionAuthorization writeValidChild := by
  refine (spells_digest.bind fun _ => spells_party.bind fun _ => spells_party.bind fun _ =>
    spells_digest.bind fun _ => spells_digest.bind fun _ => spells_scope.bind fun _ => spells_vector.bind fun _ =>
      spells_int64.bind fun _ => spells_int64.last).mono ?_
  rintro _ _ ⟨mandate, principal, agent, proposal,
    candidate, scope, approved, start, ⟨stop⟩⟩ path c valid
  simp only [validateChildExecutionAuthorization, except_bind_ok] at valid
  obtain ⟨_, mandateValid, _, principalValid, _, agentValid, _, proposalValid, _, candidateValid, _, scopeValid,
    _, approvedValid, _, windowValid, same⟩ := valid
  cases same
  obtain ⟨⟨_, startValid⟩, _, stopValid⟩ := validateWindow_ok windowValid
  exact written_append (mandate _ _ mandateValid) (written_append (principal _ _ principalValid)
    (written_append (agent _ _ agentValid) (written_append (proposal _ _ proposalValid)
      (written_append (candidate _ _ candidateValid) (written_append (scope _ _ scopeValid)
        (written_append (approved _ _ approvedValid) (written_append (start _ _ startValid)
          (stop _ _ stopValid))))))))

end Objects

section Plans

@[simp] theorem total_afterEntry (e : InitialAllocationEntry) :
    (writeU64 e.allocatedAtoms.1 ++ writeCode SOURCE_CODE e.source).Total := by
  simp

@[simp] theorem total_entry (e : InitialAllocationEntry) : (writeEntry e).Total := by
  simp [writeEntry]

theorem entry_keyed : Keyed writeEntry writeEntryKey readPartyInput where
  begins e := ⟨_, Writer.append_assoc _ _ _, total_afterEntry e⟩
  total e := total_party e.agent
  framed e bytes written := ⟨_, (frames_party e.agent bytes written).2⟩

theorem frames_entry (e : InitialAllocationEntry) :
    Frames (writeEntry e) readEntryInput (entryInputOf e) 269 := by
  rw [writeEntry, Writer.append_assoc]
  refine Frames.mono (.bind (frames_party _) (.bind (frames_readUint64 _) (.last (frames_code _ _)))) ?_
  decide

variable [Keccak] {m : PortfolioMandate}

theorem frames_plan (plan : InitialAllocationPlan m) :
    Frames (writePlanBody plan) readPlanInput (initialAllocationPlanInputOf plan) 4356 := by
  simp only [writePlanBody, Writer.append_assoc]
  refine Frames.mono (.bind (frames_digest _) (.bind (frames_readUint64 _) (.bind (frames_code _ _)
    (.bind (frames_flag _) (.bind (entry_keyed.frames_set _ frames_entry) (.last (frames_readUint64 _))))))) ?_
  decide

theorem total_plan (plan : InitialAllocationPlan m) : (writePlanBody plan).Total := by
  simp (disch := first | decide | simp) [writePlanBody]

omit [Keccak] in
theorem validateEntries_self {mode : InitialAllocationMode} {entries : List InitialAllocationEntry}
    (listed : ∀ e ∈ entries, e.agent ∈ m.agents.members.map (·.agent))
    (sourced : ∀ e ∈ entries, mode.admits e.source = true) (path : String) (index : Nat) :
    ∃ out, validateEach (validateEntry m mode) path (entries.map entryInputOf) index = .ok out ∧
      out.1.map (·.1) = entries := by
  induction entries generalizing index with
  | nil => exact ⟨⟨[], rfl⟩, rfl, rfl⟩
  | cons e entries ih =>
    obtain ⟨out, rest, same⟩ := ih (fun e member => listed e (mem_cons_of_mem _ member))
      (fun e member => sourced e (mem_cons_of_mem _ member)) (index + 1)
    have known : (m.agents.members.any fun policy => partyIdsEqual policy.agent e.agent) = true := by
      obtain ⟨policy, inside, named⟩ := mem_map.mp (listed e mem_cons_self)
      exact any_eq_true.mpr ⟨policy, inside, (partyIdsEqual_iff ..).mpr named⟩
    have admitted : mode.admits e.source = true := sourced e mem_cons_self
    have here : ∀ path, validateEntry m mode (entryInputOf e) path = .ok ⟨e, admitted⟩ := by
      intro path
      simp only [validateEntry, entryInputOf, validatePartyId_self, known, if_true, parseUint64_self, bind,
        Except.bind]
      exact dif_pos admitted
    have all : validateEach (validateEntry m mode) path (entryInputOf e :: entries.map entryInputOf) index =
        .ok ⟨⟨e, admitted⟩ :: out.1, congrArg (· + 1) out.2⟩ := by
      simp only [validateEach, here, rest, bind, Except.bind]
    exact ⟨_, all, by rw [map_cons, same]⟩

theorem validatePlan_self (plan : InitialAllocationPlan m) (path : String) :
    validateInitialAllocationPlan (initialAllocationPlanInputOf plan) m path = .ok plan := by
  have listed : ∀ e ∈ plan.entries.members, e.agent ∈ m.agents.members.map (·.agent) := by
    intro e member
    rw [← plan.listed]
    exact mem_map_of_mem member
  obtain ⟨out, entries, same⟩ := validateEntries_self listed (all_eq_true.mp plan.sourced)
    (atField path "entries") 0
  have count : plan.entries.members.length = m.agents.members.length := by
    have lengths := congrArg List.length plan.listed
    simpa using lengths
  have few : (plan.entries.members.map entryInputOf).length ≤ m.agents.members.length := by
    rw [length_map, count]
  have all : (plan.entries.members.map entryInputOf).length = m.agents.members.length := by
    rw [length_map, count]
  have within : entriesAllocated plan.entries.members ≤ plan.totalCapitalAtoms.1 := by
    have := plan.whole
    have := plan.unallocatedAtoms.2.1
    omega
  have canonical : ∀ bounded, (canonicalSet writeEntryKey (out.1.map (·.1)) bounded (atField path "entries") :
      CoreResult (CanonicalSet writeEntryKey MAX_AGENTS)) = .ok plan.entries := by
    rw [same]
    intro bounded
    exact canonicalSet_self plan.entries _
  simp only [validateInitialAllocationPlan, initialAllocationPlanInputOf, parseDigest_toHex, parseUint64_self,
    bind, Except.bind]
  rw [dif_pos plan.bound, dif_pos few, if_neg (not_not.mpr all)]
  simp only [entries]
  split
  · rename_i error refused
    cases (canonical _).symm.trans refused
  · rename_i set accepted
    obtain rfl := Except.ok.inj ((canonical _).symm.trans accepted)
    rw [dif_pos plan.listed, dif_pos ⟨within, plan.whole⟩]

omit [Keccak] in
theorem spells_entry (mode : InitialAllocationMode) : Consumes readEntryInput fun used input =>
    ∀ path e, validateEntry m mode input path = .ok e → writeEntry e.1 = some used := by
  refine (spells_party.bind fun _ => spells_uint64.bind fun _ => (consumes_code SOURCE_CODE).last).mono ?_
  rintro _ _ ⟨agent, amount, ⟨source⟩⟩ path e valid
  simp only [validateEntry, except_bind_ok] at valid
  obtain ⟨_, agentValid, valid⟩ := valid
  split at valid
  · simp only [except_bind_ok, guard_ok] at valid
    obtain ⟨_, amountValid, _, same⟩ := valid
    cases same
    rw [writeEntry, Writer.append_assoc]
    exact written_append (agent _ _ agentValid) (written_append (amount _ _ amountValid) source)
  · cases valid

theorem spells_plan : Spells readPlanInput (fun input path => validateInitialAllocationPlan input m path)
    writePlanBody := by
  have entry : Consumes readEntryInput fun used input => ∀ mode path e,
      validateEntry m mode input path = .ok e → writeEntry e.1 = some used := by
    refine ((spells_entry (m := m) .fixed).all (spells_entry (m := m))).mono ?_
    rintro used input ⟨_, every⟩ mode path e valid
    exact every mode path e valid
  refine (spells_digest.bind fun _ => spells_uint64.bind fun _ => (consumes_code INITIAL_MODE_CODE).bind fun _ =>
    consumes_flag.bind fun _ => (consumes_list 16 entry true).bind fun _ => spells_uint64.last).mono ?_
  rintro _ _ ⟨digest, total, coded, flagged, @⟨inputs, _, _, _, ⟨header, body, rfl, counted, listed⟩, ⟨unallocated⟩⟩⟩ path
    plan valid
  simp only [validateInitialAllocationPlan, except_bind_ok, guard_ok, unless_ok] at valid
  obtain ⟨_, digestValid, _, _, totalValid, _, _, items, validated, valid⟩ := valid
  split at valid
  · cases valid
  · rename_i set canonical
    simp only [except_bind_ok, guard_ok] at valid
    obtain ⟨_, _, unallocatedValid, _, same⟩ := valid
    cases same
    have valued : List.Forall₂ (fun input e => ∃ mode path found, validateEntry m mode input path = .ok found ∧
        found.1 = e) inputs (items.1.map (·.1)) := by
      refine forall₂_map_right_iff.mpr ((validateEach_ok validated).imp ?_)
      rintro input found ⟨path, here⟩
      exact ⟨_, path, found, here, rfl⟩
    have entries : writeList writeEntry set.members = some (header ++ body) := by
      refine entry_keyed.written_set ?_ counted listed valued canonical
      rintro used input e spelled ⟨mode, path, found, here, rfl⟩
      exact spelled mode path found here
    simp only [writePlanBody, Writer.append_assoc]
    exact written_append (digest _ _ digestValid) (written_append (total _ _ totalValid) (written_append coded
      (written_append flagged (written_append entries (unallocated _ _ unallocatedValid)))))

end Plans

section Kinds

/-- The signed and committed objects of a portfolio; a plan is of one exact mandate. -/
inductive PortfolioKind
  | mandate | proposal | release | child | plan (m : PortfolioMandate)

namespace PortfolioKind
variable [Keccak]

def Input : PortfolioKind → Type
  | mandate => PortfolioMandateInput
  | proposal => AgentProposalInput
  | release => AgentReleaseInput
  | child => ChildExecutionAuthorizationInput
  | plan _ => InitialAllocationPlanInput

def Object : PortfolioKind → Type
  | mandate => PortfolioMandate
  | proposal => AgentProposal
  | release => AgentRelease
  | child => ValidChild
  | plan m => InitialAllocationPlan m

def encode : (kind : PortfolioKind) → kind.Object → Bytes
  | mandate => encodePortfolioMandate
  | proposal => encodeAgentProposal
  | release => encodeAgentRelease
  | child => fun c => encodeChildExecutionAuthorization c.authorization
  | plan _ => encodeInitialAllocationPlan

def decode : (kind : PortfolioKind) → Bytes → CoreResult kind.Object
  | mandate => decodePortfolioMandate
  | proposal => decodeAgentProposal
  | release => decodeAgentRelease
  | child => decodeChildExecutionAuthorization
  | plan m => (decodeInitialAllocationPlan · m)

def format : (kind : PortfolioKind) → Format CoreErrorCode CoreError kind.Input kind.Object
  | mandate => tagged MANDATE_TAG writeMandateBody readMandateInput (validatePortfolioMandate · "mandate")
  | proposal => tagged PROPOSAL_TAG writeProposalBody readProposalInput (validateAgentProposal · "proposal")
  | release => tagged RELEASE_TAG writeReleaseBody readReleaseInput (validateAgentRelease · "release")
  | child => tagged CHILD_AUTHORIZATION_TAG writeValidChild readChildInput
    (validateChildExecutionAuthorization · "child")
  | plan m => tagged INITIAL_ALLOCATION_TAG writePlanBody readPlanInput
    (validateInitialAllocationPlan · m "initialAllocation")

theorem encode_format (kind : PortfolioKind) (x : kind.Object) : kind.encode x = kind.format.encode x := by
  cases kind with
  | mandate =>
    change encodeWith writePortfolioMandate x = (taggedWriter MANDATE_TAG ++ writeMandateBody x).getD []
    simp only [encodeWith, writePortfolioMandate, writeMandateBody, Writer.append_assoc]
    rfl
  | proposal =>
    change encodeWith writeAgentProposal x = (taggedWriter PROPOSAL_TAG ++ writeProposalBody x).getD []
    simp only [encodeWith, writeAgentProposal, writeProposalBody, Writer.append_assoc]
    rfl
  | release =>
    change encodeWith writeAgentRelease x = (taggedWriter RELEASE_TAG ++ writeReleaseBody x).getD []
    simp only [encodeWith, writeAgentRelease, writeReleaseBody, Writer.append_assoc]
    rfl
  | child =>
    change encodeChildExecutionAuthorization (ValidChild.authorization x) =
      (taggedWriter CHILD_AUTHORIZATION_TAG ++ writeValidChild x).getD []
    simp only [encodeChildExecutionAuthorization, encodeWith, writeChildBody, writeValidChild,
      Writer.append_assoc]
    rfl
  | plan m => rfl

theorem decode_format (kind : PortfolioKind) {bytes : Bytes} {x : kind.Object} :
    kind.decode bytes = .ok x ↔ kind.format.Accepts bytes x := by
  cases kind <;> exact decodeTagged_ok

theorem lawful (kind : PortfolioKind) : kind.format.Lawful := by
  cases kind with
  | mandate =>
    exact tagged_lawful _ (ascii_of_all (by decide)) (by decide) total_mandate frames_mandate
      validatePortfolioMandate_self spells_mandate
  | proposal =>
    exact tagged_lawful _ (ascii_of_all (by decide)) (by decide) total_proposal frames_proposal
      validateAgentProposal_self spells_proposal
  | release =>
    exact tagged_lawful _ (ascii_of_all (by decide)) (by decide) total_release frames_release
      validateAgentRelease_self spells_release
  | child =>
    exact tagged_lawful _ (ascii_of_all (by decide)) (by decide) total_child frames_child
      validateChild_self spells_child
  | plan m =>
    exact tagged_lawful (f := fun input path => validateInitialAllocationPlan input m path)
      "initialAllocation" (ascii_of_all (by decide)) (by decide) total_plan frames_plan validatePlan_self spells_plan

end PortfolioKind

variable [Keccak]

/-- Every object decodes from its encoding; the bytes a kind accepts are that encoding exactly when
none of their texts carries a mark. -/
theorem codecs_canonical (kind : PortfolioKind) : (∀ x, kind.decode (kind.encode x) = .ok x) ∧
      ∀ bytes x, kind.decode bytes = .ok x → (kind.encode x = bytes ↔ kind.format.Unmarked bytes) := by
  refine ⟨fun x => ?_, fun bytes x decoded => ?_⟩
  · rw [PortfolioKind.encode_format]
    exact (PortfolioKind.decode_format kind).mpr (Format.accepts_encode kind.lawful x)
  · rw [PortfolioKind.encode_format]
    exact Format.encode_of_accepts kind.lawful ((PortfolioKind.decode_format kind).mp decoded)

theorem encode_inj (kind : PortfolioKind) {x y : kind.Object} (same : kind.encode x = kind.encode y) : x = y := by
  rw [PortfolioKind.encode_format, PortfolioKind.encode_format] at same
  have first := (PortfolioKind.decode_format kind).mpr (Format.accepts_encode kind.lawful x)
  rw [same, (PortfolioKind.decode_format kind).mpr (Format.accepts_encode kind.lawful y)] at first
  exact (Except.ok.inj first).symm

end Kinds

section Sample

def emptyRelease : AgentRelease where
  portfolioMandate := 1
  agent := ⟨⟨"session", .refl true⟩, ⟨"desk", .refl true⟩, by decide⟩
  sequence := ⟨1, uint64_one⟩
  amounts := noAmounts

def markedReleaseBytes : Bytes :=
  encodeWith (fun r : AgentRelease => taggedWriter RELEASE_TAG ++ (writeDigest r.portfolioMandate ++
    (writeStr r.agent.kind.1 ++ (writeOpaqueBytes ([0xEF, 0xBB, 0xBF] ++ encodeText r.agent.value.1) ++
      (writeU64 r.sequence.1 ++ writeResourceVector r.amounts.amounts))))) emptyRelease

attribute [local instance] platformKeccak

theorem marked_release_accepted : PortfolioKind.decode .release markedReleaseBytes = .ok emptyRelease ∧
    PortfolioKind.encode .release emptyRelease ≠ markedReleaseBytes := by
  change decodeAgentRelease markedReleaseBytes = .ok emptyRelease ∧
    encodeAgentRelease emptyRelease ≠ markedReleaseBytes
  decide +kernel

theorem codecs_canonical_marked : PortfolioKind.encode .release emptyRelease = markedReleaseBytes ↔
    (PortfolioKind.format .release).Unmarked markedReleaseBytes := by
  refine (codecs_canonical .release).2 markedReleaseBytes emptyRelease ?_
  change decodeAgentRelease markedReleaseBytes = .ok emptyRelease
  decide +kernel

end Sample

end Mandate.Portfolio
