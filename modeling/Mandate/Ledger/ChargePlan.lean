import Mandate.Ledger.Encoding
import Mandate.Core.Execution

/-! The charge plan: already-derived quantitative demand for one reservation, and the
revocation object. A plan cannot say where to charge. -/
namespace Mandate.Ledger
open Core Lib.Wire

structure ContributionInput where
  quantity : EconomicQuantityInput
  market : Option ResourceIdInput
  account : Option ResourceIdInput
  required : Bool

/-- Floating values are invariants, not counters; unrealized PnL is valued at a mark. -/
def countable (q : EconomicQuantity) : Bool :=
  (QUANTITY_KIND_RULES q.kind).ledgerTrackable && !(q.kind == .pnl && q.valuation.isSome)

structure Contribution where
  quantity : EconomicQuantity
  market : Option MarketId
  account : Option AccountId
  required : Bool
  counted : countable quantity = true
  positive : 0 < quantity.atoms

structure ChargePlanInput where
  principal : PartyIdInput
  authority : String
  actor : PartyIdInput
  action : String
  generation : IntegerInput
  module : ModuleRefInput
  implementation : String
  contributions : List ContributionInput

structure ChargePlan where
  principal : PrincipalId
  authority : AuthorityId
  actor : AgentId
  action : ActionId
  generation : ReservationGeneration
  module : ModuleRef
  implementation : ImplementationDigest
  contributions : List Contribution
  nonempty : contributions ≠ []
  bounded : contributions.length ≤ MAX_PLAN_CONTRIBUTIONS

def orMalformed {α : Type} (path : String) (result : CoreResult α) : LedgerResult α :=
  result.mapError fun core => .refused (.malformed path core)

def validateContribution (input : ContributionInput) (path : String) : LedgerResult Contribution := do
  let q ← orMalformed path (validateQuantity input.quantity (atField path "quantity"))
  if counted : countable q = true then
    if positive : 0 < q.atoms then
      let market ← orMalformed path
        (validateNullable (validateResourceIn [.market]) (atField path "market") input.market)
      let account ← orMalformed path
        (validateNullable (validateResourceIn [.account]) (atField path "account") input.account)
      .ok ⟨q, market, account, input.required, counted, positive⟩
    else refuse .contributionInvalid (atField path "quantity.atoms")
  else refuse .contributionInvalid (atField path "quantity.kind")

def validateContributions (path : String) : (inputs : List ContributionInput) → Nat →
    LedgerResult {items : List Contribution // items.length = inputs.length}
  | [], _ => .ok ⟨[], rfl⟩
  | input :: rest, index => do
    let item ← validateContribution input (atIndex path index)
    let items ← validateContributions path rest (index + 1)
    .ok ⟨item :: items.1, congrArg (· + 1) items.2⟩

def validateChargePlan (input : ChargePlanInput) (path : String) : LedgerResult ChargePlan := do
  let principal ← orMalformed path (validatePartyId input.principal (atField path "principal"))
  let authority ← orMalformed path (parseDigest input.authority (atField path "authority"))
  let actor ← orMalformed path (validatePartyId input.actor (atField path "actor"))
  let action ← orMalformed path (parseDigest input.action (atField path "action"))
  let generation ← orMalformed path (parseReservationGeneration input.generation (atField path "generation"))
  let module ← orMalformed path (validateModuleRef input.module (atField path "module"))
  let implementation ← orMalformed path
    (parseNonZeroDigest input.implementation (atField path "implementation"))
  let contributionsPath := atField path "contributions"
  if bounded : input.contributions.length ≤ MAX_PLAN_CONTRIBUTIONS then
    if nonempty : input.contributions ≠ [] then
      let contributions ← validateContributions contributionsPath input.contributions 0
      .ok ⟨principal, authority, actor, action, generation, module, implementation, contributions.1,
        fun empty => nonempty (List.length_eq_zero_iff.mp (by rw [← contributions.2, empty]; rfl)),
        contributions.2.le.trans bounded⟩
    else malformed ⟨.collectionEmpty, contributionsPath⟩ path
  else malformed ⟨.collectionTooLarge, contributionsPath⟩ path

def reservationIdFor [Keccak] (action : ActionId) (generation : ReservationGeneration) : ReservationId :=
  ledgerDigest (taggedWriter LedgerTag.RESERVATION ++ (writeDigest action ++ writeU64 generation.1))

def planReservationId [Keccak] (p : ChargePlan) : ReservationId := reservationIdFor p.action p.generation

def writeContribution (c : Contribution) : Writer :=
  writeQuantityBody c.quantity ++ (writeNullable writeResourceOf c.market ++
    (writeNullable writeResourceOf c.account ++ writeFlag c.required))

def readContributionInput : CoreReader ContributionInput := do
  let quantity ← readQuantityInput
  let market ← readNullable readResourceIdInput
  let account ← readNullable readResourceIdInput
  let required ← readFlag
  pure ⟨quantity, market, account, required⟩

def writeChargePlan (p : ChargePlan) : Writer :=
  writeParty p.principal ++ (writeDigest p.authority ++ (writeParty p.actor ++
    (writeDigest p.action ++ (writeU64 p.generation.1 ++ (writeModuleRef p.module ++
      (writeDigest p.implementation.1 ++ writeList writeContribution p.contributions))))))

def readChargePlanInput : CoreReader ChargePlanInput := do
  let principal ← readPartyInput
  let authority ← readDigest
  let actor ← readPartyInput
  let action ← readDigest
  let generation ← (fun n : Nat => (n : Int)) <$> readU64
  let module ← readModuleRefInput
  let implementation ← readDigest
  let contributions ← readList MAX_PLAN_CONTRIBUTIONS readContributionInput false
  pure ⟨principal, authority, actor, action, .bigint generation, module, implementation, contributions⟩

def contributionInputOf (c : Contribution) : ContributionInput :=
  ⟨quantityInputOf c.quantity, c.market.map resourceOfInputOf, c.account.map resourceOfInputOf, c.required⟩

def chargePlanInputOf (p : ChargePlan) : ChargePlanInput :=
  ⟨partyIdInputOf p.principal, p.authority.toHex, partyIdInputOf p.actor, p.action.toHex,
    .bigint p.generation.1, moduleRefInputOf p.module, p.implementation.1.toHex,
    p.contributions.map contributionInputOf⟩

theorem orMalformed_ok {α : Type} (path : String) (value : α) :
    orMalformed path (.ok value) = .ok value := rfl

theorem validateContribution_self (c : Contribution) (path : String) :
    validateContribution (contributionInputOf c) path = .ok c := by
  simp only [validateContribution, contributionInputOf, bind, Except.bind, validateQuantity_self,
    orMalformed_ok, dif_pos c.counted, dif_pos c.positive, validateNullable_self validateResourceIn_self]

theorem validateContributions_self (path : String) (items : List Contribution) (index : Nat) :
    ∃ out, validateContributions path (items.map contributionInputOf) index = .ok out ∧ out.1 = items := by
  induction items generalizing index with
  | nil => exact ⟨⟨[], rfl⟩, rfl, rfl⟩
  | cons item items ih =>
    obtain ⟨out, rest, same⟩ := ih (index + 1)
    refine ⟨⟨item :: out.1, by simp [same]⟩, ?_, congrArg (List.cons item) same⟩
    change validateContributions path (contributionInputOf item :: items.map contributionInputOf)
      index = _
    simp only [validateContributions, validateContribution_self, rest, bind, Except.bind]

theorem validateChargePlan_self (p : ChargePlan) (path : String) :
    validateChargePlan (chargePlanInputOf p) path = .ok p := by
  obtain ⟨⟨_, _⟩, each, same⟩ := validateContributions_self (atField path "contributions")
    p.contributions 0
  have bounded : (p.contributions.map contributionInputOf).length ≤ MAX_PLAN_CONTRIBUTIONS := by
    rw [List.length_map]
    exact p.bounded
  have nonempty : p.contributions.map contributionInputOf ≠ [] := by
    simpa using p.nonempty
  simp only at same
  subst same
  simp only [validateChargePlan, chargePlanInputOf, bind, Except.bind, validatePartyId_self,
    parseDigest_toHex, parseReservationGeneration_self, validateModuleRef_self,
    parseNonZeroDigest_toHex, orMalformed_ok, dif_pos bounded, dif_pos nonempty, each]

theorem frames_contribution (c : Contribution) :
    Frames (writeContribution c) readContributionInput (contributionInputOf c) 999 := by
  refine Frames.mono (.bind (frames_quantity _) (.bind (frames_nullable frames_resourceOf _)
    (.bind (frames_nullable frames_resourceOf _) (.last (frames_flag _))))) ?_
  decide

theorem frames_chargePlan (p : ChargePlan) :
    Frames (writeChargePlan p) readChargePlanInput (chargePlanInputOf p) 64860 := by
  have contributions := frames_list (n := fun _ => 999) p.bounded (fun item _ => frames_contribution item)
  have short : 2 + (p.contributions.map fun _ => 999).sum ≤ 63938 := by
    have bounded := p.bounded
    simp only [List.map_const', List.sum_replicate_nat, MAX_PLAN_CONTRIBUTIONS] at bounded ⊢
    omega
  refine Frames.mono (.bind (frames_party _) (.bind (frames_digest _) (.bind (frames_party _)
    (.bind (frames_digest _) (.bind (frames_u64_int _) (.bind (frames_moduleRef _)
      (.bind (frames_digest _) (.last (contributions.mono short))))))))) ?_
  decide

structure RevocationInput where
  target : String
  issuer : PartyIdInput
  effectiveAt : IntegerInput
  nonce : IntegerInput

/-- Never later than its registration; whether the issuer may revoke is a ledger fact. -/
structure Revocation where
  target : AuthorityId
  issuer : PartyId
  effectiveAt : UnixSeconds
  nonce : Uint64

abbrev RevocationId := Digest32

def validateRevocation (input : RevocationInput) (path : String) : CoreResult Revocation := do
  let target ← parseDigest input.target (atField path "target")
  let issuer ← validatePartyId input.issuer (atField path "issuer")
  let effectiveAt ← parseUnixSeconds input.effectiveAt (atField path "effectiveAt")
  let nonce ← parseUint64 input.nonce (atField path "nonce")
  .ok ⟨target, issuer, effectiveAt, nonce⟩

def writeRevocationBody (r : Revocation) : Writer :=
  writeDigest r.target ++ (writeParty r.issuer ++ (writeI64 r.effectiveAt.1 ++ writeU64 r.nonce.1))

def writeRevocation (r : Revocation) : Writer :=
  ledgerWriter LedgerTag.REVOCATION ++ writeRevocationBody r

def readRevocationInput : CoreReader RevocationInput := do
  let target ← readDigest
  let issuer ← readPartyInput
  let effectiveAt ← readI64
  let nonce ← (fun n : Nat => (n : Int)) <$> readU64
  pure ⟨target, issuer, .bigint effectiveAt, .bigint nonce⟩

def encodeRevocation (r : Revocation) : Bytes := encodeWith writeRevocation r

def revocationId [Keccak] (r : Revocation) : RevocationId := ledgerDigest (writeRevocation r)

def revocationInputOf (r : Revocation) : RevocationInput :=
  ⟨r.target.toHex, partyIdInputOf r.issuer, .bigint r.effectiveAt.1, .bigint r.nonce.1⟩

theorem validateRevocation_self (r : Revocation) (path : String) :
    validateRevocation (revocationInputOf r) path = .ok r := by
  simp [validateRevocation, revocationInputOf, bind, Except.bind]

theorem frames_revocation (r : Revocation) :
    Frames (writeRevocationBody r) readRevocationInput (revocationInputOf r) 308 := by
  refine Frames.mono (.bind (frames_digest _) (.bind (frames_party _) (.bind (frames_i64 _)
    (.last (frames_u64_int _))))) ?_
  decide

theorem total_revocation (r : Revocation) : (writeRevocationBody r).Total :=
  by simp [writeRevocationBody]

end Mandate.Ledger
