import Mandate.Gate.Types

/-! Solidity's re-encoding of mandates and candidates, and the validation before it. Strings
are classified and compared a word at a time, and each encoder fills one buffer. -/
set_option linter.dupNamespace false
namespace Mandate.Gate
open Core Kernel Lib.Wire Lib.Lanes

def MANDATE_TAG_BYTES : Nat := 0x4d414e444154452e4d414e444154452e5632
def CANDIDATE_TAG_BYTES : Nat := 0x4d414e444154452e43414e4449444154452e5633

def PARTY_HEAD : BitVec 160 := 0x000e6569703135352d61646472657373002a3078

inductive Validity | valid | unsupportedVersion | malformed
deriving DecidableEq

def IDENTIFIER_SEPARATORS : Word :=
  ((1 : Word) <<< 0x2d) ||| (1 <<< 0x2e) ||| (1 <<< 0x2f) ||| (1 <<< 0x3a) ||| (1 <<< 0x5f)

def LANES : Word := 0x0101010101010101010101010101010101010101010101010101010101010101
def LANE_HIGH_BITS : Word := 0x80 * LANES
def LANE_LOW_BITS : Word := 0x7f * LANES

/-- Bit 7 of each lane is set iff that byte is outside the identifier charset: its low seven
bits are tested against the four ranges, and no lane carries into the next. -/
def outsideCharset (word : Word) : Word :=
  let v := word &&& LANE_LOW_BITS
  let inRange := ((v + 0x53 * LANES) &&& ~~~(v + 0x45 * LANES)) -- [0x2d, 0x3a]
    ||| ((v + 0x3f * LANES) &&& ~~~(v + 0x25 * LANES)) -- [0x41, 0x5a]
    ||| ((v + 0x21 * LANES) &&& ~~~(v + 0x20 * LANES)) -- [0x5f, 0x5f]
    ||| ((v + 0x1f * LANES) &&& ~~~(v + 0x05 * LANES)) -- [0x61, 0x7a]
  ~~~(inRange &&& ~~~word) &&& LANE_HIGH_BITS

def leadingLanes (count : Nat) : Word := ~~~(BitVec.allOnes 256 >>> (8 * count))

def isSeparator (ch : UInt8) : Bool := (IDENTIFIER_SEPARATORS >>> ch.toNat) &&& 1 != 0

def outsideLanes (s : Located) : Word :=
  (wordOffsets s.bytes.length).foldl
    (fun outside i => outside ||| (outsideCharset (s.load i) &&& leadingLanes (s.bytes.length - i))) 0

def isIdentifier (s : Located) : Bool :=
  let n := s.bytes.length
  if n = 0 ∨ IDENTIFIER_MAX_LENGTH < n then false
  else
    let first := laneOf (s.load 0) 0
    let last := laneOf (s.load (n - 1)) 0
    if isSeparator first || isSeparator last then false else outsideLanes s == 0

/-- The same for a string in memory: its ends are indexed, its words loaded. -/
def isIdentifierBytes (b : Located) : Bool :=
  let n := b.bytes.length
  if n = 0 ∨ IDENTIFIER_MAX_LENGTH < n then false
  else if isSeparator (b.bytes.getD 0 0) || isSeparator (b.bytes.getD (n - 1) 0) then false
  else outsideLanes b == 0

def isCanonicalAsset (a : GateAsset Located) : Bool :=
  isIdentifier a.assetClass && isIdentifier a.idScheme && isIdentifier a.value

def isAmount (a : GateAmount Located) : Bool := isIdentifier a.unit && decide (a.decimals.toNat ≤ MAX_DECIMALS)

def isPrice (p : GatePrice Located) : Bool :=
  isIdentifier p.numeratorUnit && isIdentifier p.denominatorUnit && decide (p.decimals.toNat ≤ MAX_DECIMALS)

def compareWords (a b : Located) : List Nat → Ordering
  | [] => .eq
  | i :: rest =>
    let keep := leadingLanes (a.bytes.length - i)
    let x := a.load i &&& keep
    let y := b.load i &&& keep
    if x ≠ y then (if x < y then .lt else .gt) else compareWords a b rest

def compareEncoded (a b : Located) : Ordering :=
  if a.bytes.length ≠ b.bytes.length then (if a.bytes.length < b.bytes.length then .lt else .gt)
  else compareWords a b (wordOffsets a.bytes.length)

def membersAscend : Option Located → List Located → Bool
  | _, [] => true
  | previous, value :: rest =>
    isIdentifier value && previous.all (fun before => compareEncoded before value == .lt) &&
      membersAscend (some value) rest

def isIdentifierSet (values : List Located) : Bool :=
  decide (values.length ≤ MAX_SET_SIZE) && membersAscend none values

def equal [Keccak] (a b : Located) : Bool := keccakDigest a.bytes == keccakDigest b.bytes

def validateMandate [Keccak] (m : GateMandate Located Address) : Validity :=
  if m.version.toNat ≠ MANDATE_SCHEMA_VERSION then .unsupportedVersion
  else if !isCanonicalAsset m.canonicalAsset then .malformed
  else if m.side ≠ SIDE_BUY ∧ m.side ≠ SIDE_SELL then .malformed
  else if !isAmount m.maxNotional || !isAmount m.economicLimit then .malformed
  else if m.syntheticPolicy ≠ SYNTHETIC_FORBIDDEN ∧ m.syntheticPolicy ≠ SYNTHETIC_ALLOWED then .malformed
  else if !isIdentifierSet m.allowedIssuers then .malformed
  else if !isIdentifierSet m.allowedChains then .malformed
  else if !isIdentifierSet m.allowedVenues then .malformed
  else if m.haltPolicy ≠ HALT_FORBID_WHEN_HALTED ∧ m.haltPolicy ≠ HALT_ALLOW_WHEN_HALTED then .malformed
  else if m.expiresAtUnixSeconds.toInt ≤ m.notBeforeUnixSeconds.toInt then .malformed
  else if !equal m.maxNotional.unit m.economicLimit.unit then .malformed
  else .valid

def isValidCandidate (c : GateCandidate Located Address) : Bool :=
  if c.version.toNat ≠ CANDIDATE_SCHEMA_VERSION then false
  else if !isIdentifier c.representationId then false
  else if !isCanonicalAsset c.canonicalAsset then false
  else if !isIdentifier c.issuer || !isIdentifier c.chain || !isIdentifier c.venue then false
  else if c.side ≠ SIDE_BUY ∧ c.side ≠ SIDE_SELL then false
  else if !isAmount c.quantity || !isPrice c.executionPrice then false
  else if !isAmount c.notional || !isAmount c.feeTotal then false
  else if !isIdentifier c.evaluationStateId then false
  else true

/-- The data of an allocated `bytes` and the pointer the writers have reached. Nothing is
assumed of a byte that no store has reached. -/
structure Buffer where
  memory : Nat → Option UInt8
  p : Nat

namespace Buffer

def alloc : Buffer := ⟨fun _ => none, 0⟩

def mstore (memory : Nat → Option UInt8) (p : Nat) (word : Word) : Nat → Option UInt8 := fun i =>
  if p ≤ i ∧ i < p + 32 then some (laneOf word (i - p)) else memory i

def calldatacopy (memory : Nat → Option UInt8) (p : Nat) (bytes : Bytes) : Nat → Option UInt8 := fun i =>
  if p ≤ i ∧ i < p + bytes.length then some (bytes.getD (i - p) 0) else memory i

/-- The bytes written, when they are exactly as many as were allocated: an assertion. -/
def sealed (len : Nat) (b : Buffer) : Option Bytes :=
  if b.p = len then (List.range len).mapM b.memory else none

/-- The low `size` bytes, big-endian: the word is stored whole, its tail overwritten next. -/
def putUint (b : Buffer) (value : Word) (size : Nat) : Buffer :=
  ⟨mstore b.memory b.p (value <<< (256 - 8 * size)), b.p + size⟩

def putString (b : Buffer) (s : Located) : Buffer :=
  let len := s.bytes.length
  ⟨calldatacopy (mstore b.memory b.p (BitVec.ofNat 256 len <<< 240)) (b.p + 2) s.bytes, b.p + 2 + len⟩

end Buffer

def SPREAD_64 : Word := 0xffffffffffffffff * (1 ||| (1 <<< 128))
def SPREAD_32 : Word := 0xffffffff * (1 ||| (1 <<< 64) ||| (1 <<< 128) ||| (1 <<< 192))

/-- The low 16 bytes as 32 hex digits, one a lane: each step moves the upper half of every
lane into the next lane up, until each nibble is alone. -/
def hexDigits (value : Word) : Word :=
  let x := value &&& 0xffffffffffffffffffffffffffffffff
  let x := (x ||| (x <<< 64)) &&& SPREAD_64
  let x := (x ||| (x <<< 32)) &&& SPREAD_32
  let x := (x ||| (x <<< 16)) &&& 0x0000ffff0000ffff0000ffff0000ffff0000ffff0000ffff0000ffff0000ffff
  let x := (x ||| (x <<< 8)) &&& 0x00ff00ff00ff00ff00ff00ff00ff00ff00ff00ff00ff00ff00ff00ff00ff00ff
  let x := (x ||| (x <<< 4)) &&& 0x0f0f0f0f0f0f0f0f0f0f0f0f0f0f0f0f0f0f0f0f0f0f0f0f0f0f0f0f0f0f0f0f
  x + (0x30 : Word) * LANES + (((x + (0x06 : Word) * LANES) >>> 4) &&& LANES) * (0x27 : Word)

def PARTY_BYTES : Nat := 60

namespace Buffer

/-- The head and 40 hex digits, in three stores of increasing address. -/
def putParty (b : Buffer) (party : Address) : Buffer :=
  let a : Word := party.setWidth 256
  let high := hexDigits (a >>> 32)
  let low := hexDigits (a &&& 0xffffffff) <<< 192
  let head : Word := PARTY_HEAD.setWidth 256 <<< 96
  ⟨mstore (mstore (mstore b.memory b.p head) (b.p + 20) high) (b.p + 52) low, b.p + PARTY_BYTES⟩

def putAsset (b : Buffer) (a : GateAsset Located) : Buffer :=
  ((b.putString a.assetClass).putString a.idScheme).putString a.value

def putAmount (b : Buffer) (a : GateAmount Located) : Buffer :=
  ((b.putString a.unit).putUint (a.decimals.setWidth 256) 1).putUint a.atoms 32

def putSet (b : Buffer) (values : List Located) : Buffer :=
  values.foldl putString (b.putUint (BitVec.ofNat 256 values.length) 2)

end Buffer

def assetBytes (a : GateAsset Located) : Nat :=
  6 + a.assetClass.bytes.length + a.idScheme.bytes.length + a.value.bytes.length

def setBytes (values : List Located) : Nat :=
  values.foldl (fun size value => size + value.bytes.length) (2 + 2 * values.length)

def MANDATE_FIXED_BYTES : Nat := 295
def CANDIDATE_FIXED_BYTES : Nat := 307

def encodeMandate (m : GateMandate Located Address) : Option Bytes :=
  let len := MANDATE_FIXED_BYTES + assetBytes m.canonicalAsset + m.maxNotional.unit.bytes.length +
    m.economicLimit.unit.bytes.length + setBytes m.allowedIssuers + setBytes m.allowedChains +
    setBytes m.allowedVenues
  let b := Buffer.alloc
  let b := b.putUint (BitVec.ofNat 256 MANDATE_TAG_BYTES) 18
  let b := b.putUint (m.version.setWidth 256) 2
  let b := b.putUint m.mandateId 32
  let b := b.putUint (m.nonce.setWidth 256) 8
  let b := b.putParty m.principal
  let b := b.putParty m.agent
  let b := b.putAsset m.canonicalAsset
  let b := b.putUint (m.side.setWidth 256) 1
  let b := b.putAmount m.maxNotional
  let b := b.putAmount m.economicLimit
  let b := b.putUint (m.maxDeviationBps.setWidth 256) 2
  let b := b.putUint (m.syntheticPolicy.setWidth 256) 1
  let b := b.putSet m.allowedIssuers
  let b := b.putSet m.allowedChains
  let b := b.putSet m.allowedVenues
  let b := b.putUint (m.requiredCorporateActionEpoch.setWidth 256) 8
  let b := b.putUint (m.maxPriceAgeSeconds.setWidth 256) 4
  let b := b.putUint (m.maxCorporateActionAgeSeconds.setWidth 256) 4
  let b := b.putUint (m.haltPolicy.setWidth 256) 1
  let b := b.putUint (m.createdAtUnixSeconds.setWidth 256) 8
  let b := b.putUint (m.notBeforeUnixSeconds.setWidth 256) 8
  let b := b.putUint (m.expiresAtUnixSeconds.setWidth 256) 8
  b.sealed len

def encodeCandidate (c : GateCandidate Located Address) : Option Bytes :=
  let len := CANDIDATE_FIXED_BYTES + c.representationId.bytes.length + assetBytes c.canonicalAsset +
    c.issuer.bytes.length + c.chain.bytes.length + c.venue.bytes.length + c.quantity.unit.bytes.length +
    c.executionPrice.numeratorUnit.bytes.length + c.executionPrice.denominatorUnit.bytes.length +
    c.notional.unit.bytes.length + c.feeTotal.unit.bytes.length + c.evaluationStateId.bytes.length
  let b := Buffer.alloc
  let b := b.putUint (BitVec.ofNat 256 CANDIDATE_TAG_BYTES) 20
  let b := b.putUint (c.version.setWidth 256) 2
  let b := b.putString c.representationId
  let b := b.putAsset c.canonicalAsset
  let b := b.putString c.issuer
  let b := b.putString c.chain
  let b := b.putString c.venue
  let b := b.putUint (c.side.setWidth 256) 1
  let b := b.putParty c.agent
  let b := b.putAmount c.quantity
  let b := b.putString c.executionPrice.numeratorUnit
  let b := b.putString c.executionPrice.denominatorUnit
  let b := b.putUint (c.executionPrice.decimals.setWidth 256) 1
  let b := b.putUint c.executionPrice.atoms 32
  let b := b.putAmount c.notional
  let b := b.putAmount c.feeTotal
  let b := b.putString c.evaluationStateId
  let b := b.putUint c.evaluationStateDigest 32
  let b := b.putUint c.registrySnapshotDigest 32
  let b := b.putUint (c.corporateActionEpoch.setWidth 256) 8
  b.sealed len

def mandateDigest [Keccak] (m : GateMandate Located Address) : Option Digest32 := (encodeMandate m).map keccakDigest

def candidateDigest [Keccak] (c : GateCandidate Located Address) : Option Digest32 :=
  (encodeCandidate c).map keccakDigest

end Mandate.Gate
