import Mandate.Kernel.Authorization
import Mandate.Lib.Lanes

/-! The structs the gate is handed, in encoder field order and with the widths the encoder
writes. What a string is depends on who looks: the contract finds its bytes in calldata, the
TypeScript model holds its text. A party is an address, and two strings once it is spelled. -/
namespace Mandate.Gate
open Kernel Lib.Wire Lib.Lanes

def SIDE_BUY : BitVec 8 := 1
def SIDE_SELL : BitVec 8 := 2
def SYNTHETIC_FORBIDDEN : BitVec 8 := 1
def SYNTHETIC_ALLOWED : BitVec 8 := 2
def HALT_FORBID_WHEN_HALTED : BitVec 8 := 1
def HALT_ALLOW_WHEN_HALTED : BitVec 8 := 2

@[ext] structure GateAsset (σ : Type) where
  assetClass : σ
  idScheme : σ
  value : σ
deriving DecidableEq

@[ext] structure GateAmount (σ : Type) where
  unit : σ
  decimals : BitVec 8
  atoms : BitVec 256
deriving DecidableEq

@[ext] structure GatePrice (σ : Type) where
  numeratorUnit : σ
  denominatorUnit : σ
  decimals : BitVec 8
  atoms : BitVec 256
deriving DecidableEq

@[ext] structure GateMandate (σ π : Type) where
  version : BitVec 16
  mandateId : BitVec 256
  nonce : BitVec 64
  principal : π
  agent : π
  canonicalAsset : GateAsset σ
  side : BitVec 8
  maxNotional : GateAmount σ
  economicLimit : GateAmount σ
  maxDeviationBps : BitVec 16
  syntheticPolicy : BitVec 8
  allowedIssuers : List σ
  allowedChains : List σ
  allowedVenues : List σ
  requiredCorporateActionEpoch : BitVec 64
  maxPriceAgeSeconds : BitVec 32
  maxCorporateActionAgeSeconds : BitVec 32
  haltPolicy : BitVec 8
  createdAtUnixSeconds : BitVec 64
  notBeforeUnixSeconds : BitVec 64
  expiresAtUnixSeconds : BitVec 64
deriving DecidableEq

@[ext] structure GateCandidate (σ π : Type) where
  version : BitVec 16
  representationId : σ
  canonicalAsset : GateAsset σ
  issuer : σ
  chain : σ
  venue : σ
  side : BitVec 8
  agent : π
  quantity : GateAmount σ
  executionPrice : GatePrice σ
  notional : GateAmount σ
  feeTotal : GateAmount σ
  evaluationStateId : σ
  evaluationStateDigest : BitVec 256
  registrySnapshotDigest : BitVec 256
  corporateActionEpoch : BitVec 64
deriving DecidableEq

section Map
variable {σ τ π ρ : Type} (f : σ → τ) (g : π → ρ)

def GateAsset.map (a : GateAsset σ) : GateAsset τ := ⟨f a.assetClass, f a.idScheme, f a.value⟩

def GateAmount.map (a : GateAmount σ) : GateAmount τ := ⟨f a.unit, a.decimals, a.atoms⟩

def GatePrice.map (p : GatePrice σ) : GatePrice τ := ⟨f p.numeratorUnit, f p.denominatorUnit, p.decimals, p.atoms⟩

def GateMandate.map (m : GateMandate σ π) : GateMandate τ ρ :=
  { m with
    principal := g m.principal
    agent := g m.agent
    canonicalAsset := m.canonicalAsset.map f
    maxNotional := m.maxNotional.map f
    economicLimit := m.economicLimit.map f
    allowedIssuers := m.allowedIssuers.map f
    allowedChains := m.allowedChains.map f
    allowedVenues := m.allowedVenues.map f }

def GateCandidate.map (c : GateCandidate σ π) : GateCandidate τ ρ :=
  { c with
    agent := g c.agent
    representationId := f c.representationId
    canonicalAsset := c.canonicalAsset.map f
    issuer := f c.issuer
    chain := f c.chain
    venue := f c.venue
    quantity := c.quantity.map f
    executionPrice := c.executionPrice.map f
    notional := c.notional.map f
    feeTotal := c.feeTotal.map f
    evaluationStateId := f c.evaluationStateId }

end Map

/-- A string where it lies: its bytes, and what a whole-word load past its end reads. -/
structure Located where
  bytes : Bytes
  following : Bytes

/-- The word at an offset of the string; past the end of the data a load reads zeros. -/
def Located.load (s : Located) (offset : Nat) : Word :=
  ofLanes fun j => (s.bytes ++ s.following).getD (offset + j) 0

def wordOffsets (length : Nat) : List Nat := (List.range ((length + 31) / 32)).map (32 * ·)

end Mandate.Gate
