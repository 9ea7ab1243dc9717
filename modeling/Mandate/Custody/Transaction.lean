import Mandate.Core.Primitives

/-! The two transaction shapes custody signs, built for the venue's SDK from an accepted
description. The SDK itself is outside: its constants and functions are parameters. -/
namespace Mandate.Custody
open Core Lib.Wire Lib.Text

abbrev Int64 := IntegerInRange INT64_MIN INT64_MAX
abbrev Int16 := IntegerInRange (-2 ^ 15) (2 ^ 15 - 1)
abbrev Uint32 := SmallUint (2 ^ 32 - 1)
abbrev Uint8 := SmallUint 255

structure Tx where
  type : String
  chainId : Uint32
  accountIndex : Int64
  apiKeyIndex : Uint8
  marketIndex : Int16
  clientOrderIndex : Int64
  baseAmount : Int64
  price : Uint32
  isAsk : Uint8
  orderType : Uint8
  timeInForce : Uint8
  reduceOnly : Uint8
  orderExpiry : Int64
  cancelIndex : Int64
  expiredAt : Int64
  nonce : Int64
  selfTradeBehavior : Int64
  selfTradeEquality : Int64

structure Config where
  chainId : Uint32
  accountIndex : Int64
  apiKeyIndex : Uint8

structure L2TxAttributes where
  selfTradeBehaviorMode : Option Int64
  selfTradeEqualityMode : Option Int64

structure OrderInfo where
  marketIndex : Int16
  clientOrderIndex : Int64
  baseAmount : Int64
  price : Uint32
  isAsk : Uint8
  type : Uint8
  timeInForce : Uint8
  reduceOnly : Uint8
  triggerPrice : Uint32
  orderExpiry : Int64

inductive TxInfo
  | createOrder (accountIndex : Int64) (apiKeyIndex : Uint8) (order : OrderInfo) (expiredAt nonce : Int64)
      (attributes : L2TxAttributes)
  | cancelOrder (accountIndex : Int64) (apiKeyIndex : Uint8) (marketIndex : Int16) (index : Int64)
      (expiredAt nonce : Int64)

structure Sdk where
  limitOrder : Uint8
  marketOrder : Uint8
  nilOrderTriggerPrice : Uint32
  txTypeL2CreateOrder : Uint8
  txTypeL2CancelOrder : Uint8
  validate : TxInfo → Except String Unit
  hash : TxInfo → Uint32 → Except String Bytes
  sign : Bytes → Option Bytes
  getTxInfo : TxInfo → Bytes → List Char → Option String

def attributes (tx : Tx) : L2TxAttributes where
  selfTradeBehaviorMode := if tx.selfTradeBehavior.1 = 0 then none else some tx.selfTradeBehavior
  selfTradeEqualityMode := if tx.selfTradeEquality.1 = 0 then none else some tx.selfTradeEquality

def validated (sdk : Sdk) (info : TxInfo) (txType : Uint8) : Except String (TxInfo × Uint8) :=
  match sdk.validate info with
  | .error why => .error ("TX_INVALID: " ++ why)
  | .ok () => .ok (info, txType)

def build (sdk : Sdk) (cfg : Config) : Option Tx → Except String (TxInfo × Uint8)
  | none => .error "TX_MISSING"
  | some tx =>
    if tx.chainId ≠ cfg.chainId ∨ tx.accountIndex ≠ cfg.accountIndex ∨ tx.apiKeyIndex ≠ cfg.apiKeyIndex then
      .error "TX_BINDING_MISMATCH"
    else if tx.type = "CREATE_ORDER" then
      if tx.orderType ≠ sdk.limitOrder ∧ tx.orderType ≠ sdk.marketOrder then .error "TX_TYPE_FORBIDDEN"
      else validated sdk (.createOrder tx.accountIndex tx.apiKeyIndex {
          marketIndex := tx.marketIndex
          clientOrderIndex := tx.clientOrderIndex
          baseAmount := tx.baseAmount
          price := tx.price
          isAsk := tx.isAsk
          type := tx.orderType
          timeInForce := tx.timeInForce
          reduceOnly := tx.reduceOnly
          triggerPrice := sdk.nilOrderTriggerPrice
          orderExpiry := tx.orderExpiry } tx.expiredAt tx.nonce (attributes tx)) sdk.txTypeL2CreateOrder
    else if tx.type = "CANCEL_ORDER" then
      validated sdk (.cancelOrder tx.accountIndex tx.apiKeyIndex tx.marketIndex tx.cancelIndex tx.expiredAt
        tx.nonce) sdk.txTypeL2CancelOrder
    else .error "TX_TYPE_FORBIDDEN"

def encodeToString (bytes : Bytes) : List Char :=
  bytes.flatMap fun byte => [hexDigit (byte.toNat / 16), hexDigit (byte.toNat % 16)]

structure Hashed where
  text : List Char
  msg : Bytes
  info : TxInfo
  txType : Uint8

def hash (sdk : Sdk) (cfg : Config) (tx : Option Tx) : Except String Hashed := do
  let (info, txType) ← build sdk cfg tx
  match sdk.hash info cfg.chainId with
  | .error why => .error ("HASH_FAILED: " ++ why)
  | .ok msg => .ok ⟨encodeToString msg, msg, info, txType⟩

def Sdk.Sized (sdk : Sdk) : Prop :=
  ∀ info chainId msg, sdk.hash info chainId = .ok msg → msg.length = 40

theorem encodeToString_length (bytes : Bytes) : (encodeToString bytes).length = 2 * bytes.length := by
  induction bytes with
  | nil => rfl
  | cons byte rest ih =>
    rw [encodeToString, List.flatMap_cons, List.length_append]
    change 2 + (encodeToString rest).length = _
    rw [ih, List.length_cons]
    omega

variable {sdk : Sdk} {cfg : Config} {tx : Option Tx} {hashed : Hashed}

theorem hash_msg (ok : hash sdk cfg tx = .ok hashed) :
    hashed.text = encodeToString hashed.msg ∧ sdk.hash hashed.info cfg.chainId = .ok hashed.msg := by
  unfold hash at ok
  cases built : build sdk cfg tx with
  | error why =>
    rw [built] at ok
    cases ok
  | ok pair =>
    rw [built] at ok
    change (match sdk.hash pair.1 cfg.chainId with
      | .error why => Except.error ("HASH_FAILED: " ++ why)
      | .ok msg => .ok (Hashed.mk (encodeToString msg) msg pair.1 pair.2)) = .ok hashed at ok
    split at ok
    · cases ok
    · rename_i msg known
      cases ok
      exact ⟨rfl, known⟩

theorem hash_length (sized : sdk.Sized) (ok : hash sdk cfg tx = .ok hashed) : hashed.text.length = 80 := by
  obtain ⟨text, known⟩ := hash_msg ok
  rw [text, encodeToString_length, sized _ _ _ known]

end Mandate.Custody
