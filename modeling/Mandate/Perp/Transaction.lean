import Mandate.Perp.Vocabulary

/-! The exact unsigned venue transaction of an authorized action, and the check that nothing else
is hashed or signed. -/
namespace Mandate.Perp
open Core

def ALLOWED_TX_TYPES : List String := ["CREATE_ORDER", "CANCEL_ORDER"]

def TX_TYPE_CODE : String → Option Nat
  | "CREATE_ORDER" => some 14
  | "CANCEL_ORDER" => some 15
  | _ => none

def SELF_TRADE_BEHAVIOR_EXPIRE_TAKER : Nat := 1

structure CustodyTx where
  type : String
  chainId : Nat
  accountIndex : Int
  apiKeyIndex : Nat
  marketIndex : Nat
  clientOrderIndex : Int
  baseAmount : Int
  price : Int
  isAsk : Nat
  orderType : Nat
  timeInForce : Nat
  reduceOnly : Nat
  orderExpiry : Int
  cancelIndex : Int
  expiredAt : Int
  nonce : Int
  selfTradeBehavior : Nat
  selfTradeEquality : Nat

def slotScope (chainId : Nat) (accountIndex : Int) (apiKeyIndex : Nat) : String :=
  "lighter:" ++ toString chainId ++ ":account:" ++ toString accountIndex ++ ":key:" ++ toString apiKeyIndex

/-- One key of one account; its slot scope is an identifier, or the ledger admits nothing for it. -/
structure SignerIdentity where
  chainId : Nat
  accountIndex : Int
  apiKeyIndex : Nat
  lane : identifierText (slotScope chainId accountIndex apiKeyIndex) = true

def SignerIdentity.scope (id : SignerIdentity) : Identifier :=
  ⟨slotScope id.chainId id.accountIndex id.apiKeyIndex, id.lane⟩

/-- The client order index range: 1 … 2^48 − 1 holds every value taken. -/
def CLIENT_ORDER_SPACE : Nat := 2 ^ 47 - 1

def clientOrderIndexFor [Keccak] (reservation : ReservationId) : Int :=
  let digest := keccakDigest ((writeStr "mandate/perp-lighter/client-order-index" ++
    (writeU16 1 ++ writeDigest reservation)).getD [])
  1 + digest.toNat % CLIENT_ORDER_SPACE

def ARTIFACT_KIND : Identifier := ⟨"lighter.l2-tx-hash", by decide⟩

def EXECUTION : Execution → Nat × Nat
  | .marketIoc => (1, 0)
  | .limitIoc => (0, 0)
  | .limitGtt => (0, 1)
  | .limitPostOnly => (0, 2)

variable [Keccak]

def buildOrderTx (o : DecodedOrder) (id : SignerIdentity) (reservation : ReservationId)
    (nonce expiredAt : Int) : Option CustodyTx :=
  (marketIndexOf o.market.1 id.chainId).map fun market => {
    type := "CREATE_ORDER"
    chainId := id.chainId
    accountIndex := id.accountIndex
    apiKeyIndex := id.apiKeyIndex
    marketIndex := market
    clientOrderIndex := clientOrderIndexFor reservation
    baseAmount := o.baseAmount
    price := o.price
    isAsk := if o.side = .sell then 1 else 0
    orderType := (EXECUTION o.execution).1
    timeInForce := (EXECUTION o.execution).2
    reduceOnly := if o.reduceOnly then 1 else 0
    orderExpiry := o.orderExpiryMs
    cancelIndex := 0
    expiredAt
    nonce
    selfTradeBehavior := SELF_TRADE_BEHAVIOR_EXPIRE_TAKER
    selfTradeEquality := 0 }

/-- The target is named by the client order index derived for the target reservation. -/
def buildCancelTx (c : DecodedCancel) (id : SignerIdentity) (nonce expiredAt : Int) : Option CustodyTx :=
  (marketIndexOf c.market.1 id.chainId).map fun market => {
    type := "CANCEL_ORDER"
    chainId := id.chainId
    accountIndex := id.accountIndex
    apiKeyIndex := id.apiKeyIndex
    marketIndex := market
    clientOrderIndex := 0
    baseAmount := 0
    price := 0
    isAsk := 0
    orderType := 0
    timeInForce := 0
    reduceOnly := 0
    orderExpiry := 0
    cancelIndex := clientOrderIndexFor c.target
    expiredAt
    nonce
    selfTradeBehavior := 0
    selfTradeEquality := 0 }

def buildTx (action : DecodedAction) (id : SignerIdentity) (reservation : ReservationId)
    (nonce expiredAt : Int) : Option CustodyTx :=
  match action with
  | .order o => buildOrderTx o id reservation nonce expiredAt
  | .cancel c => buildCancelTx c id nonce expiredAt

def checkAllowed (tx : CustodyTx) : Option String :=
  if tx.type ∈ ALLOWED_TX_TYPES then none else some "TX_TYPE_FORBIDDEN"

def FIELDS : List (String × (CustodyTx → CustodyTx → Bool)) :=
  [("type", (·.type == ·.type)), ("chainId", (·.chainId == ·.chainId)),
    ("accountIndex", (·.accountIndex == ·.accountIndex)), ("apiKeyIndex", (·.apiKeyIndex == ·.apiKeyIndex)),
    ("marketIndex", (·.marketIndex == ·.marketIndex)),
    ("clientOrderIndex", (·.clientOrderIndex == ·.clientOrderIndex)),
    ("baseAmount", (·.baseAmount == ·.baseAmount)), ("price", (·.price == ·.price)),
    ("isAsk", (·.isAsk == ·.isAsk)), ("orderType", (·.orderType == ·.orderType)),
    ("timeInForce", (·.timeInForce == ·.timeInForce)), ("reduceOnly", (·.reduceOnly == ·.reduceOnly)),
    ("orderExpiry", (·.orderExpiry == ·.orderExpiry)), ("cancelIndex", (·.cancelIndex == ·.cancelIndex)),
    ("expiredAt", (·.expiredAt == ·.expiredAt)), ("nonce", (·.nonce == ·.nonce)),
    ("selfTradeBehavior", (·.selfTradeBehavior == ·.selfTradeBehavior)),
    ("selfTradeEquality", (·.selfTradeEquality == ·.selfTradeEquality))]

/-- The first field in which a transaction is not the one re-derived from the authorized action. -/
def checkBinding (tx : CustodyTx) (action : DecodedAction) (id : SignerIdentity)
    (reservation : ReservationId) (nonce expiredAt : Int) : Option String :=
  match buildTx action id reservation nonce expiredAt with
  | none => some "MARKET_NOT_ON_CHAIN"
  | some expected =>
    (FIELDS.find? fun field => !field.2 tx expected).map fun field => "TX_FIELD_MISMATCH." ++ field.1

variable {tx : CustodyTx}

omit [Keccak] in
theorem fields_agree {expected : CustodyTx}
    (agree : FIELDS.find? (fun field => !field.2 tx expected) = none) : tx = expected := by
  simp only [FIELDS, List.find?_eq_none, List.mem_cons, List.not_mem_nil, or_false, forall_eq_or_imp,
    forall_eq, Bool.not_eq_true', Bool.not_eq_false, beq_iff_eq] at agree
  cases tx
  cases expected
  simpa using agree

variable {action : DecodedAction} {id : SignerIdentity} {reservation : ReservationId}
  {nonce expiredAt : Int}

theorem checkBinding_none (bound : checkBinding tx action id reservation nonce expiredAt = none) :
    buildTx action id reservation nonce expiredAt = some tx := by
  unfold checkBinding at bound
  cases derived : buildTx action id reservation nonce expiredAt with
  | none => simp [derived] at bound
  | some expected =>
    simp only [derived, Option.map_eq_none_iff] at bound
    rw [fields_agree bound]

theorem buildTx_lane
    (built : buildTx action id reservation nonce expiredAt = some tx) : tx.nonce = nonce ∧ tx.expiredAt = expiredAt ∧
      ((∃ o, action = .order o ∧ tx.orderExpiry = o.orderExpiryMs) ∨ tx.orderExpiry = 0) := by
  cases action with
  | order o =>
    obtain ⟨market, _, rfl⟩ := Option.map_eq_some_iff.mp built
    exact ⟨rfl, rfl, .inl ⟨o, rfl, rfl⟩⟩
  | cancel c =>
    obtain ⟨market, _, rfl⟩ := Option.map_eq_some_iff.mp built
    exact ⟨rfl, rfl, .inr rfl⟩

end Mandate.Perp
