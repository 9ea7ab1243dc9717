import Mandate.Perp.Vocabulary
import Mandate.Gate.Wire

/-! Gate spot's vocabulary: accounts and markets as resources, the buy an agent proposes, and the
reviewed record of a gate's market with the venue's exact arithmetic on it. -/
namespace Mandate.Evm
open Core Lib.Wire Lib.Text
open Gate (GateAsset writeGateAsset)
open Perp (decodeWith)
open Custody (parseDigits)

def DOMAIN_ID : String := "robinhood-evm"

def ACTION_GATE_BUY : String := "evm.gate-buy"

def isAddress (text : String) : Bool := (hexToBytes text).any fun bytes => bytes.length == 20

section Resources

def caip2 (chainId : Int) : String := "eip155:" ++ toString chainId

def representationIdOf (chainId : Int) (token : String) : String := caip2 chainId ++ "/erc20:" ++ token

def accountResource (chainId : Int) (address : String) : Option AccountId :=
  (validateResourceId ⟨DOMAIN_ID, .account, caip2 chainId ++ ":account:" ++ address⟩ [.account] "account").toOption

/-- The digits and the address of `eip155:<digits><separator><address>`. -/
def splitLocalId (localId separator : String) : Option (Nat × String) := do
  let rest ← "eip155:".toList.isPrefixOf? localId.toList
  let chain := rest.takeWhile Char.isDigit
  let address ← separator.toList.isPrefixOf? (rest.drop chain.length)
  if isAddress (String.ofList address) then some (← parseDigits chain, String.ofList address) else none

def addressOn (kind : ResourceKind) (separator : String) (r : ResourceId) (chainId : Int) : Option String := do
  let (chain, address) ← splitLocalId r.localId.1 separator
  if r.domain.1 ≠ DOMAIN_ID ∨ r.kind ≠ kind ∨ (chain : Int) ≠ chainId then none else some address

def accountAddressOf (r : ResourceId) (chainId : Int) : Option String := addressOn .account ":account:" r chainId

def marketTokenOf (r : ResourceId) (chainId : Int) : Option String := addressOn .market "/erc20:" r chainId

end Resources

section Buy

structure DecodedBuy where
  account : AccountId
  market : MarketId
  quantity : Int
deriving DecidableEq

def BUY_TAG : String := "robinhood-evm/v1/gate-buy"

def readGateBuy : CoreReader DecodedBuy := do
  let tag ← readStr
  if tag ≠ BUY_TAG then Reader.fail .encodingMalformed
  else do
    let account ← readResourceIdInput
    let market ← readResourceIdInput
    let account ← must (validateResourceId account [.account] "account")
    let market ← must (validateResourceId market [.market] "market")
    let quantity ← readU256
    pure ⟨account, market, quantity⟩

def decodeGateBuy (bytes : Bytes) : Option DecodedBuy := decodeWith bytes readGateBuy

end Buy

section Market

/-- One market as its deployment review recorded it; `venueId` is the gate's name for the venue. -/
structure ReviewedMarket where
  representation : String
  fundingToken : String
  adapter : String
  venue : String
  representationDecimals : Nat
  fundingDecimals : Nat
  canonicalAsset : GateAsset String
  issuer : String
  venueId : String
  quantityUnit : String
  settlementUnit : String
  synthetic : Bool
  fixturePriceDecimals : Nat
  fixturePriceAtoms : Int
  feeBps : Nat

structure ReviewedGate where
  chainId : Int
  gate : String
  markets : List ReviewedMarket

def reviewedMarketFor (g : ReviewedGate) (representation : String) : Option ReviewedMarket :=
  g.markets.find? fun m => m.representation == representation

def ceilDiv (a b : Int) : Int := if a = 0 then 0 else (a + b - 1).tdiv b

variable (m : ReviewedMarket)

/-- Funding atoms for a whole representation token, where the funding token can express the price. -/
def venuePrice : Option Int :=
  if m.fixturePriceDecimals ≤ m.fundingDecimals then
    some (m.fixturePriceAtoms * 10 ^ (m.fundingDecimals - m.fixturePriceDecimals))
  else
    let d : Int := 10 ^ (m.fixturePriceDecimals - m.fundingDecimals)
    if m.fixturePriceAtoms.tmod d = 0 then some (m.fixturePriceAtoms.tdiv d) else none

def grossCost (quantity : Int) : Option Int :=
  (venuePrice m).map fun price => ceilDiv (quantity * price) (10 ^ m.representationDecimals)

def feeOn (gross : Int) : Int := ceilDiv (gross * m.feeBps) 10000

/-- The principal's worst-case debit: what the venue quotes, its fee included. -/
def buyCost (quantity : Int) : Option Int := (grossCost m quantity).map fun gross => gross + feeOn m gross

end Market

section Snapshot
variable [Keccak]

def writeAddress (address : String) : Writer := if isAddress address then writeStr address else Writer.throw

def assetHash (a : GateAsset String) : Option Digest32 := (writeGateAsset a).map keccakDigest

def textHash (text : String) : Digest32 := keccakDigest (encodeText text)

def MARKET_TAG : String := "robinhood-evm/v1/gate-market"

/-- What the chain must report for a reviewed market, as the policy pins it: `classification` is 1,
and identifiers are the hashes the gate stores. -/
def encodeReviewedSnapshot (chainId : Int) (gate : String) (m : ReviewedMarket) : Option Bytes := do
  let assetHash ← assetHash m.canonicalAsset
  let hashes := [assetHash, textHash m.issuer, textHash m.venueId, textHash m.quantityUnit, textHash m.settlementUnit]
  writeStr MARKET_TAG ++ (writeU64 chainId ++
    (Writer.each writeAddress [gate, m.representation, m.fundingToken, m.adapter, m.venue] ++
      (writeU8 m.representationDecimals ++ (writeU8 m.fundingDecimals ++ (writeFlag m.synthetic ++ (writeU8 1 ++
        (Writer.each (fun hash : Digest32 => writeStr hash.toHex) hashes ++ (writeU8 m.fixturePriceDecimals ++
          (writeU256 m.fixturePriceAtoms ++ writeU16 m.feeBps)))))))))

end Snapshot

end Mandate.Evm
