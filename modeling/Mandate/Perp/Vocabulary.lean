import Mandate.Ledger.Attempt
import Mandate.Custody.Journal

/-! The perp vocabulary: its identifiers, the two action payloads an agent signs, and the market,
price and account payloads a reader makes of what the venue reports. -/
set_option linter.dupNamespace false
namespace Mandate.Perp
open Core Ledger Lib.Wire
open Custody (parseDigits)

def DOMAIN_ID : String := "lighter-perp"

def ACTION_CREATE_ORDER : String := "perp.create-order"
def ACTION_CANCEL_ORDER : String := "perp.cancel-order"

def MAX_ACCOUNT_INDEX : Nat := 281474976710654

def numberOf (n : Nat) : Nat :=
  let scale := 2 ^ (n.log2 - 52)
  let kept := n / scale
  let twice := 2 * (n % scale)
  (if scale < twice ∨ twice = scale ∧ kept % 2 = 1 then kept + 1 else kept) * scale

def lighterIndexes (localId word : String) : Option (Nat × Nat) := do
  let rest ← "lighter:".toList.isPrefixOf? localId.toList
  let chain := rest.takeWhile Char.isDigit
  let index ← (":" ++ word ++ ":").toList.isPrefixOf? (rest.drop chain.length)
  some (← parseDigits chain, ← parseDigits index)

/-- The account index a resource names on this chain, unless the venue cannot have it. -/
def accountIndexOf (r : ResourceId) (chainId : Nat) : Option Nat :=
  if r.domain.1 ≠ DOMAIN_ID ∨ r.kind ≠ .account then none
  else do
    let (chain, index) ← lighterIndexes r.localId.1 "account"
    if numberOf chain ≠ chainId then none
    else if index ≤ MAX_ACCOUNT_INDEX then some index else none

def marketIndexOf (r : ResourceId) (chainId : Nat) : Option Nat :=
  if r.domain.1 ≠ DOMAIN_ID ∨ r.kind ≠ .market then none
  else do
    let (chain, index) ← lighterIndexes r.localId.1 "market"
    if numberOf chain ≠ chainId then none else some (numberOf index)

abbrev CanonicalAssetRef := ResourceOf [.canonicalAsset]

inductive Side | buy | sell
deriving DecidableEq

inductive Execution | marketIoc | limitIoc | limitGtt | limitPostOnly
deriving DecidableEq

def EXECUTIONS : List Execution := [.marketIoc, .limitIoc, .limitGtt, .limitPostOnly]

structure PerpOrder where
  account : ResourceIdInput
  market : ResourceIdInput
  side : Side
  baseAmount : Int
  price : Int
  execution : Execution
  reduceOnly : Bool
  orderExpiryMs : Int

structure PerpCancel where
  account : ResourceIdInput
  market : ResourceIdInput
  target : ReservationId

def writeChecked (input : ResourceIdInput) (allowed : List ResourceKind) (path : String) : Writer :=
  match validateResourceId input allowed path with
  | .ok resource => writeResourceOf resource
  | .error _ => Writer.throw

def encodeOrder (o : PerpOrder) : Writer :=
  writeStr "lighter-perp/v1/create-order" ++ (writeChecked o.account [.account] "account" ++
    (writeChecked o.market [.market] "market" ++ (writeU8 (if o.side = .buy then 1 else 2) ++ (writeU64 o.baseAmount ++
      (writeU64 o.price ++ (writeU8 (EXECUTIONS.idxOf o.execution + 1) ++ (writeU8 (if o.reduceOnly then 1 else 0) ++
        writeU64 o.orderExpiryMs)))))))

def encodeCancel (c : PerpCancel) : Writer :=
  writeStr "lighter-perp/v1/cancel-order" ++ (writeChecked c.account [.account] "account" ++
    (writeChecked c.market [.market] "market" ++ writeDigest c.target))

structure DecodedOrder where
  account : AccountId
  market : MarketId
  side : Side
  baseAmount : Int
  price : Int
  execution : Execution
  reduceOnly : Bool
  orderExpiryMs : Int
deriving DecidableEq

structure DecodedCancel where
  account : AccountId
  market : MarketId
  target : ReservationId
deriving DecidableEq

inductive DecodedAction
  | order (order : DecodedOrder)
  | cancel (cancel : DecodedCancel)
deriving DecidableEq

def DecodedAction.account : DecodedAction → AccountId
  | .order o => o.account
  | .cancel c => c.account

/-- Whatever a reader throws at, left-over bytes included, reads as nothing. -/
def decodeWith {α : Type} (bytes : Bytes) (read : CoreReader α) : Option α :=
  (runReader (do let value ← read; Reader.finish .encodingTrailingBytes; pure value) bytes).toOption

def readInt (read : CoreReader Nat) : CoreReader Int := (fun n : Nat => (n : Int)) <$> read

def readOrder (account : AccountId) (market : MarketId) : CoreReader DecodedAction := do
  let side ← readU8
  let baseAmount ← readInt readU64
  let price ← readInt readU64
  let execution ← readU8
  let reduceOnly ← readU8
  let orderExpiryMs ← readInt readU64
  match (if execution = 0 then none else EXECUTIONS[execution - 1]?) with
  | none => Reader.fail .encodingMalformed
  | some execution =>
    if (side ≠ 1 ∧ side ≠ 2) ∨ (reduceOnly ≠ 0 ∧ reduceOnly ≠ 1) then Reader.fail .encodingMalformed
    else pure (.order ⟨account, market, if side = 1 then .buy else .sell, baseAmount, price, execution,
      reduceOnly = 1, orderExpiryMs⟩)

def readAction : CoreReader DecodedAction := do
  let tag ← readStr
  let account ← readResourceIdInput
  let market ← readResourceIdInput
  let account ← must (validateResourceId account [.account] "account")
  let market ← must (validateResourceId market [.market] "market")
  if tag = "lighter-perp/v1/cancel-order" then do
    let target ← readDigestAs parseDigest "target"
    pure (.cancel ⟨account, market, target⟩)
  else if tag ≠ "lighter-perp/v1/create-order" then Reader.fail .encodingMalformed
  else readOrder account market

def decodeAction (bytes : Bytes) : Option DecodedAction := decodeWith bytes readAction

section Market

structure MarketStatic where
  chainId : Int
  marketIndex : Int
  symbol : String
  sizeDecimals : Int
  priceDecimals : Int
  minBaseAmount : Int
  minQuoteAmount : Int
  minInitialMarginFraction : Int
  defaultInitialMarginFraction : Int
  maintenanceMarginFraction : Int
  closeoutMarginFraction : Int
  multiplier : String

def encodeMarketStatic (m : MarketStatic) : Writer :=
  writeStr "lighter-perp/v1/market" ++ (writeU32 m.chainId ++ (Writer.uint 2 m.marketIndex ++ (writeStr m.symbol ++
    (writeStr "perp" ++ (Writer.uint 1 m.sizeDecimals ++ (Writer.uint 1 m.priceDecimals ++ (writeU64 m.minBaseAmount ++
      (writeU64 m.minQuoteAmount ++ (Writer.uint 2 m.minInitialMarginFraction ++
        (Writer.uint 2 m.defaultInitialMarginFraction ++ (Writer.uint 2 m.maintenanceMarginFraction ++
          (Writer.uint 2 m.closeoutMarginFraction ++ writeStr m.multiplier))))))))))))

def readExactly (text : String) : CoreReader Unit := do
  let found ← readStr
  Reader.ofExcept (if found = text then .ok () else .error .encodingMalformed)

def readMarketStatic : CoreReader MarketStatic := do
  readExactly "lighter-perp/v1/market"
  let chainId ← readInt readU32
  let marketIndex ← readInt readU16
  let symbol ← readStr
  readExactly "perp"
  let sizeDecimals ← readInt readU8
  let priceDecimals ← readInt readU8
  let minBaseAmount ← readInt readU64
  let minQuoteAmount ← readInt readU64
  let minInitialMarginFraction ← readInt readU16
  let defaultInitialMarginFraction ← readInt readU16
  let maintenanceMarginFraction ← readInt readU16
  let closeoutMarginFraction ← readInt readU16
  let multiplier ← readStr
  pure { chainId, marketIndex, symbol, sizeDecimals, priceDecimals, minBaseAmount, minQuoteAmount, minInitialMarginFraction,
         defaultInitialMarginFraction, maintenanceMarginFraction, closeoutMarginFraction, multiplier }

def decodeMarketStatic (bytes : Bytes) : Option MarketStatic := decodeWith bytes readMarketStatic

structure AssetPrice (ρ : Type) where
  asset : ρ
  price : Int

def encodeAssetPrice (p : AssetPrice ResourceIdInput) : Writer :=
  writeStr "lighter-perp/v1/asset-price" ++ (writeChecked p.asset [.canonicalAsset] "asset" ++ writeU64 p.price)

def readAssetPrice : CoreReader (AssetPrice CanonicalAssetRef) := do
  readExactly "lighter-perp/v1/asset-price"
  let asset ← readResourceIdInput
  let price ← readInt readU64
  let asset ← must (validateResourceId asset [.canonicalAsset] "asset")
  Reader.ofExcept (if price = 0 then .error .encodingMalformed else .ok ⟨asset, price⟩)

def decodeAssetPrice (bytes : Bytes) : Option (AssetPrice CanonicalAssetRef) := decodeWith bytes readAssetPrice

end Market

section Account

inductive MarginMode | cross | isolated
deriving DecidableEq

structure PositionEntry where
  marketIndex : Int
  size : Int
  marginMode : MarginMode
  initialMarginFraction : Int
  allocatedMargin : Int
deriving DecidableEq

structure OpenOrderEntry where
  marketIndex : Int
  clientOrderIndex : Int
  isAsk : Bool
  remainingBaseAmount : Int
  price : Int
  reduceOnly : Bool
deriving DecidableEq

structure AccountBook (ρ : Type) where
  account : ρ
  collateral : Int
  availableBalance : Int
  positions : List PositionEntry
  openOrders : List OpenOrderEntry
deriving DecidableEq

def writePosition (p : PositionEntry) : Writer :=
  Writer.uint 2 p.marketIndex ++ (writeI64 p.size ++ (writeU8 (if p.marginMode = .isolated then 1 else 0) ++
    (Writer.uint 2 p.initialMarginFraction ++ writeU64 p.allocatedMargin)))

def writeOpenOrder (o : OpenOrderEntry) : Writer :=
  Writer.uint 2 o.marketIndex ++ (writeU64 o.clientOrderIndex ++ (writeU8 (if o.isAsk then 1 else 0) ++
    (writeU64 o.remainingBaseAmount ++ (writeU64 o.price ++ writeU8 (if o.reduceOnly then 1 else 0)))))

def encodeAccountBook (b : AccountBook ResourceIdInput) : Writer :=
  writeStr "lighter-perp/v1/account" ++ (writeChecked b.account [.account] "account" ++ (writeU64 b.collateral ++
    (writeU64 b.availableBalance ++ (writeList writePosition b.positions ++ writeList writeOpenOrder b.openOrders))))

def readPosition : CoreReader PositionEntry := do
  let marketIndex ← readInt readU16
  let size ← readI64
  let mode ← readU8
  let marginMode ← Reader.ofExcept (if 1 < mode then .error .encodingMalformed
    else .ok (if mode = 1 then MarginMode.isolated else .cross))
  let initialMarginFraction ← readInt readU16
  let allocatedMargin ← readInt readU64
  pure ⟨marketIndex, size, marginMode, initialMarginFraction, allocatedMargin⟩

-- Any flag but 1 is read as absent.
def readOpenOrder : CoreReader OpenOrderEntry := do
  let marketIndex ← readInt readU16
  let clientOrderIndex ← readInt readU64
  let isAsk ← readU8
  let remainingBaseAmount ← readInt readU64
  let price ← readInt readU64
  let reduceOnly ← readU8
  pure ⟨marketIndex, clientOrderIndex, isAsk = 1, remainingBaseAmount, price, reduceOnly = 1⟩

def readEntries {α : Type} (read : CoreReader α) : CoreReader (List α) := do
  let count ← readU16
  Reader.items (fun _ _ => true) .encodingMalformed read count none

def readAccountBook : CoreReader (AccountBook AccountId) := do
  readExactly "lighter-perp/v1/account"
  let account ← readResourceIdInput
  let account ← must (validateResourceId account [.account] "account")
  let collateral ← readInt readU64
  let availableBalance ← readInt readU64
  let positions ← readEntries readPosition
  let openOrders ← readEntries readOpenOrder
  pure { account, collateral, availableBalance, positions, openOrders }

def decodeAccountBook (bytes : Bytes) : Option (AccountBook AccountId) := decodeWith bytes readAccountBook

end Account

end Mandate.Perp
