import Mathlib.Algebra.Group.Nat.Defs
import Mathlib.Data.List.Basic

/-! Keccak-256, computed: the 1600-bit state is one number, its lanes 64 bits each, so that
every step is arithmetic and a digest can be evaluated. -/
namespace Mandate.Lib.Keccak

def ROUND_CONSTANTS : List Nat :=
  [0x0000000000000001, 0x0000000000008082, 0x800000000000808A, 0x8000000080008000,
    0x000000000000808B, 0x0000000080000001, 0x8000000080008081, 0x8000000000008009,
    0x000000000000008A, 0x0000000000000088, 0x0000000080008009, 0x000000008000000A,
    0x000000008000808B, 0x800000000000008B, 0x8000000000008089, 0x8000000000008003,
    0x8000000000008002, 0x8000000000000080, 0x000000000000800A, 0x800000008000000A,
    0x8000000080008081, 0x8000000000008080, 0x0000000080000001, 0x8000000080008008]

/-- Where each lane of a permuted state comes from, and how far it is rotated. -/
def LANES : List (Nat × Nat) :=
  [(0, 0), (6, 44), (12, 43), (18, 21), (24, 14), (3, 28), (9, 20), (10, 3), (16, 45), (22, 61),
    (1, 1), (7, 6), (13, 25), (19, 8), (20, 18), (4, 27), (5, 36), (11, 10), (17, 15), (23, 56),
    (2, 62), (8, 55), (14, 39), (15, 41), (21, 2)]

def lane (state index : Nat) : Nat := (state >>> (64 * index)) % 2 ^ 64

def pack (lanes : List Nat) : Nat := lanes.foldr (fun lane rest => lane ||| rest <<< 64) 0

def rotl (lane count : Nat) : Nat := (lane <<< count ||| lane >>> (64 - count)) % 2 ^ 64

def PLANES : Nat := 1 + 2 ^ 320 + 2 ^ 640 + 2 ^ 960 + 2 ^ 1280

def nextLane (state : Nat) : Nat :=
  (state >>> 64 &&& PLANES * (2 ^ 256 - 1)) ||| (state &&& PLANES * (2 ^ 64 - 1)) <<< 256

def parity (state : Nat) : Nat :=
  (state ^^^ state >>> 320 ^^^ state >>> 640 ^^^ state >>> 960 ^^^ state >>> 1280) % 2 ^ 320

def mix (columns x : Nat) : Nat := lane columns ((x + 4) % 5) ^^^ rotl (lane columns ((x + 1) % 5)) 1

def theta (state : Nat) : Nat := state ^^^ pack ([0, 1, 2, 3, 4].map (mix (parity state))) * PLANES

def rhoPi (state : Nat) : Nat := pack (LANES.map fun source => rotl (lane state source.1) source.2)

def chi (state : Nat) : Nat := state ^^^ ((2 ^ 1600 - 1 ^^^ nextLane state) &&& nextLane (nextLane state))

def permute (state : Nat) : Nat :=
  ROUND_CONSTANTS.foldl (fun state constant => chi (rhoPi (theta state)) ^^^ constant) state

def RATE : Nat := 136

def littleEndian (bytes : List UInt8) : Nat := bytes.foldr (fun byte rest => byte.toNat + 256 * rest) 0

def pad (message : List UInt8) : List UInt8 :=
  let free := RATE - message.length % RATE
  if free = 1 then message ++ [0x81] else message ++ 0x01 :: List.replicate (free - 2) 0 ++ [0x80]

def absorb : Nat → List UInt8 → Nat → Nat
  | 0, _, state => state
  | count + 1, padded, state =>
    absorb count (padded.drop RATE) (permute (state ^^^ littleEndian (padded.take RATE)))

/-- The first 256 bits of the final state, least significant byte first. -/
def keccak256 (message : List UInt8) : List UInt8 :=
  let padded := pad message
  let state := absorb (padded.length / RATE) padded 0
  (List.range 32).map fun i => UInt8.ofNat (state >>> (8 * i))

section Straight

/-! The same steps without the lists they are written with, as the operations that evaluate in one. -/

def turned (state offset count back rest : Nat) : Nat :=
  Nat.lor (Nat.mod (Nat.lor (Nat.shiftLeft (Nat.mod (Nat.shiftRight state offset) 0x10000000000000000) count)
    (Nat.shiftRight (Nat.mod (Nat.shiftRight state offset) 0x10000000000000000) back)) 0x10000000000000000)
    (Nat.shiftLeft rest 64)

def straightRhoPi (state : Nat) : Nat :=
  turned state 0 0 64 (turned state 384 44 20 (turned state 768 43 21 (turned state 1152 21 43 (turned state 1536 14 50
    (turned state 192 28 36 (turned state 576 20 44 (turned state 640 3 61 (turned state 1024 45 19
      (turned state 1408 61 3 (turned state 64 1 63 (turned state 448 6 58 (turned state 832 25 39
        (turned state 1216 8 56 (turned state 1280 18 46 (turned state 256 27 37 (turned state 320 36 28
          (turned state 704 10 54 (turned state 1088 15 49 (turned state 1472 56 8 (turned state 128 62 2
            (turned state 512 55 9 (turned state 896 39 25 (turned state 960 41 23
              (turned state 1344 2 62 0))))))))))))))))))))))))

def mixed (columns before after rest : Nat) : Nat :=
  Nat.lor (Nat.xor (Nat.mod (Nat.shiftRight columns before) 0x10000000000000000)
    (Nat.mod (Nat.lor (Nat.shiftLeft (Nat.mod (Nat.shiftRight columns after) 0x10000000000000000) 1)
      (Nat.shiftRight (Nat.mod (Nat.shiftRight columns after) 0x10000000000000000) 63)) 0x10000000000000000))
    (Nat.shiftLeft rest 64)

def mixture (columns : Nat) : Nat :=
  mixed columns 256 64 (mixed columns 0 128 (mixed columns 64 192 (mixed columns 128 256 (mixed columns 192 0 0))))

/-- A plane and the whole state, and the lanes that move on and around. -/
def PLANE : Nat := 2 ^ 320
def WHOLE : Nat := 2 ^ 1600 - 1
def ONWARD : Nat := PLANES * (2 ^ 256 - 1)
def AROUND : Nat := PLANES * (2 ^ 64 - 1)

def straightParity (state : Nat) : Nat :=
  Nat.mod (Nat.xor (Nat.xor (Nat.xor (Nat.xor state (Nat.shiftRight state 320)) (Nat.shiftRight state 640))
    (Nat.shiftRight state 960)) (Nat.shiftRight state 1280)) PLANE

def straightTheta (state : Nat) : Nat := Nat.xor state (Nat.mul (mixture (straightParity state)) PLANES)

def straightNext (state : Nat) : Nat :=
  Nat.lor (Nat.land (Nat.shiftRight state 64) ONWARD) (Nat.shiftLeft (Nat.land state AROUND) 256)

def straightChi (state : Nat) : Nat :=
  Nat.xor state (Nat.land (Nat.xor WHOLE (straightNext state)) (straightNext (straightNext state)))

def straightPermute (state : Nat) : Nat :=
  ROUND_CONSTANTS.foldl
    (fun state constant => Nat.xor (straightChi (straightRhoPi (straightTheta state))) constant) state

def straightEndian (bytes : List UInt8) : Nat :=
  bytes.foldr (fun byte rest => Nat.add byte.toNat (Nat.mul 256 rest)) 0

def straightAbsorb : Nat → List UInt8 → Nat → Nat
  | 0, _, state => state
  | count + 1, padded, state =>
    straightAbsorb count (List.drop 136 padded)
      (straightPermute (Nat.xor state (straightEndian (List.take 136 padded))))

def straight256 (message : List UInt8) : List UInt8 :=
  let padded := pad message
  let state := straightAbsorb (Nat.div padded.length 136) padded 0
  (List.range 32).map fun i => UInt8.ofNat (Nat.shiftRight state (Nat.mul 8 i))

theorem theta_straight (state : Nat) : theta state = straightTheta state := by
  have columns : parity state = straightParity state := by
    unfold straightParity PLANE
    rfl
  rw [theta, columns]
  rfl

theorem next_straight (state : Nat) : nextLane state = straightNext state := by
  unfold straightNext ONWARD AROUND
  rfl

theorem chi_straight (state : Nat) : chi state = straightChi state := by
  rw [chi, next_straight, next_straight]
  unfold straightChi WHOLE
  rfl

theorem permute_straight : permute = straightPermute := by
  funext state
  have round : ∀ state constant, chi (rhoPi (theta state)) ^^^ constant =
      Nat.xor (straightChi (straightRhoPi (straightTheta state))) constant := by
    intro state constant
    rw [theta_straight, chi_straight]
    rfl
  simp only [permute, straightPermute, round]

theorem absorb_straight (count : Nat) (padded : List UInt8) (state : Nat) :
    absorb count padded state = straightAbsorb count padded state := by
  induction count generalizing padded state with
  | zero => rfl
  | succ count ih =>
    rw [absorb, ih, permute_straight]
    rfl

theorem keccak256_straight : keccak256 = straight256 := by
  funext message
  simp only [keccak256, absorb_straight]
  rfl

end Straight

example : (keccak256 []).take 8 = [0xc5, 0xd2, 0x46, 0x01, 0x86, 0xf7, 0x23, 0x3c] := by decide +kernel

end Mandate.Lib.Keccak
