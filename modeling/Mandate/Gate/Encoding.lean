import Mandate.Gate.Charset

/-! What the single-buffer writers write: the fields one after another, strings behind their
low sixteen bits of length, and never fewer or more bytes than were allocated. -/
set_option linter.dupNamespace false
namespace Mandate.Gate
open Core Kernel Lib.Radix Lib.Wire Lib.Text Lib.Lanes List
open UInt8 (ofNat)

def Buffer.Holds (b : Buffer) (bytes : Bytes) : Prop :=
  b.p = bytes.length ∧ ∀ i < bytes.length, b.memory i = bytes[i]?

variable {j : Nat}

theorem toDigits_get (width value : Nat) (inside : j < width) :
    (toDigits 256 width value)[j]? = some (value / 256 ^ (width - 1 - j) % 256) := by
  induction width generalizing value with
  | zero => omega
  | succ width ih =>
    rw [toDigits]
    by_cases last : j = width
    · subst last
      rw [getElem?_append_right (by rw [toDigits_length]), toDigits_length, Nat.sub_self]
      simp
    · have below : j < width := by omega
      rw [getElem?_append_left (by rwa [toDigits_length]), ih _ below, Nat.div_div_eq_div_mul,
        ← Nat.pow_succ']
      congr 4
      omega

theorem beBytes_get (width value : Nat) (inside : j < width) :
    (beBytes width value)[j]? = some (ofNat (value / 256 ^ (width - 1 - j))) := by
  rw [beBytes, getElem?_map, toDigits_get width value inside, Option.map_some]
  congr 1
  apply UInt8.toNat_inj.mp
  simp

namespace Buffer

theorem holds_alloc : Buffer.alloc.Holds [] := ⟨rfl, by simp⟩

theorem Holds.store {b : Buffer} {bytes : Bytes} (holds : b.Holds bytes) {word : Word}
    {front : Bytes} (fits : front.length ≤ 32) (lanes : ∀ j < front.length, front[j]? = some (laneOf word j)) :
    (⟨mstore b.memory b.p word, b.p + front.length⟩ : Buffer).Holds (bytes ++ front) := by
  obtain ⟨reached, held⟩ := holds
  refine ⟨by rw [length_append, reached], ?_⟩
  intro i inside
  rw [length_append] at inside
  dsimp only [mstore]
  by_cases before : i < bytes.length
  · rw [if_neg (by omega), getElem?_append_left before, held i before]
  · rw [if_pos (by omega), getElem?_append_right (by omega), lanes _ (by omega), reached]

variable {b : Buffer} {bytes : Bytes}

theorem Holds.copy (holds : b.Holds bytes) (copied : Bytes) :
    (⟨calldatacopy b.memory b.p copied, b.p + copied.length⟩ : Buffer).Holds (bytes ++ copied) := by
  obtain ⟨reached, held⟩ := holds
  refine ⟨by rw [length_append, reached], ?_⟩
  intro i inside
  rw [length_append] at inside
  dsimp only [calldatacopy]
  by_cases before : i < bytes.length
  · rw [if_neg (by omega), getElem?_append_left before, held i before]
  · have within : i - bytes.length < copied.length := by omega
    rw [if_pos (by omega), getElem?_append_right (by omega), reached, getD_eq_getElem?_getD,
      getElem?_eq_getElem within, Option.getD_some]

theorem Holds.putUint (holds : b.Holds bytes) (value : Word) {size : Nat}
    (fits : size ≤ 32) : (b.putUint value size).Holds (bytes ++ beBytes size value.toNat) := by
  have stored := @Holds.store b bytes holds (value <<< (256 - 8 * size)) (beBytes size value.toNat)
  rw [beBytes_length] at stored
  refine stored fits ?_
  intro j inside
  have shift : 256 - 8 * size = 8 * (32 - size) := by omega
  rw [beBytes_get _ _ inside, shift, ← ofLanes_laneOf value, raise_lanes, laneOf_ofLanes _ (by omega),
    if_pos (by omega), ofLanes_laneOf, laneOf]
  congr 4
  omega

end Buffer

def stringBytes (bytes : Bytes) : Bytes := beBytes 2 bytes.length ++ bytes

namespace Buffer

theorem Holds.putString {b : Buffer} {bytes : Bytes} (holds : b.Holds bytes) (s : Located) :
    (b.putString s).Holds (bytes ++ stringBytes s.bytes) := by
  have stored := @Holds.store b bytes holds (BitVec.ofNat 256 s.bytes.length <<< 240)
    (beBytes 2 s.bytes.length) (by rw [beBytes_length]; decide)
  rw [beBytes_length] at stored
  have copied := (stored ?_).copy s.bytes
  · rw [List.append_assoc] at copied
    exact copied
  · intro j inside
    rw [beBytes_get _ _ inside, ← ofLanes_laneOf (BitVec.ofNat 256 s.bytes.length),
      show (240 : Nat) = 8 * 30 from rfl, raise_lanes, laneOf_ofLanes _ (by omega), if_pos (by omega)]
    congr 1
    apply UInt8.toNat_inj.mp
    rw [laneOf_toNat, UInt8.toNat_ofNat', BitVec.toNat_ofNat, show 31 - (j + 30) = 2 - 1 - j by omega]
    have split : (2 : Nat) ^ 256 = 256 ^ (2 - 1 - j) * (256 * 256 ^ (30 + j)) := by
      rw [← Nat.pow_succ', ← pow_add, show 2 - 1 - j + (30 + j + 1) = 32 by omega]
      norm_num
    rw [split, Nat.mod_mul_right_div_self, Nat.mod_mul_right_mod]

end Buffer

/-- The bits of a value spread out: each run of `half` stands in the low half of its lane. -/
private def SpreadBy (half : Nat) (value x : Word) : Prop :=
  ∀ i < 256, x.getLsbD i =
    (decide (i % (2 * half) < half) && value.getLsbD (half * (i / (2 * half)) + i % (2 * half)))

theorem divided {lane i p r : Nat} (place : i = lane * p + r) (below : r < lane) :
    i / lane = p ∧ i % lane = r := by
  subst place
  exact ⟨by rw [Nat.mul_add_div (by omega), Nat.div_eq_of_lt below, Nat.add_zero],
    by rw [Nat.mul_add_mod, Nat.mod_eq_of_lt below]⟩

variable {value x : Word}

theorem spread_step (half : Nat) (mask : Word) (positive : 0 < half) (spread : SpreadBy (2 * half) value x)
    (keeps : ∀ i < 256, mask.getLsbD i = decide (i % (2 * half) < half)) :
    SpreadBy half value ((x ||| (x <<< half)) &&& mask) := by
  intro i inside
  rw [BitVec.getLsbD_and, BitVec.getLsbD_or, BitVec.getLsbD_shiftLeft, keeps i inside, Bool.and_comm]
  by_cases low : i % (2 * half) < half
  · simp only [low, inside, decide_true, Bool.true_and]
    have whole := Nat.div_add_mod i (2 * half)
    generalize i % (2 * half) = r at low whole ⊢
    generalize i / (2 * half) = q at whole ⊢
    obtain ⟨p, even | odd⟩ := Nat.even_or_odd' q
    · -- an even lane keeps the low half it has; what would be moved onto it was cleared
      have place : i = 2 * (2 * half) * p + r := by rw [← whole, even]; ring
      obtain ⟨quotient, remainder⟩ := divided place (by omega)
      have here := spread i inside
      rw [quotient, remainder, decide_eq_true (by omega : r < 2 * half), Bool.true_and] at here
      have target : 2 * half * p + r = half * q + r := by rw [even]; ring
      rw [here, target]
      by_cases first : i < half
      · simp [first]
      · have positive' : 0 < p := by
          rcases Nat.eq_zero_or_pos p with rfl | positive'
          · rw [Nat.mul_zero, Nat.zero_add] at place
            omega
          · exact positive'
        have moved : i - half = 2 * (2 * half) * (p - 1) + (3 * half + r) := by
          obtain ⟨before, rfl⟩ := Nat.exists_eq_add_of_le' positive'
          rw [place, Nat.add_sub_cancel, Nat.mul_add, Nat.mul_one]
          omega
        obtain ⟨_, remainder'⟩ := divided moved (by omega)
        have cleared : ¬3 * half + r < 2 * half := by omega
        rw [spread _ (by omega), remainder', decide_eq_false cleared, Bool.false_and, Bool.and_false,
          Bool.or_false]
    · -- an odd lane is empty, and takes the upper half of the lane below
      have place : i = 2 * (2 * half) * p + (2 * half + r) := by rw [← whole, odd]; ring
      obtain ⟨_, remainder⟩ := divided place (by omega)
      have here := spread i inside
      rw [remainder, decide_eq_false (by omega), Bool.false_and] at here
      have moved : i - half = 2 * (2 * half) * p + (half + r) := by omega
      obtain ⟨quotient', remainder'⟩ := divided moved (by omega)
      have there := spread (i - half) (by omega)
      rw [quotient', remainder', decide_eq_true (by omega : half + r < 2 * half), Bool.true_and] at there
      have target : 2 * half * p + (half + r) = half * q + r := by rw [odd]; ring
      have later : ¬i < half := by omega
      rw [here, there, target]
      simp [later]
  · simp [low]

private def nibble (value : Word) (index : Nat) : Nat := value.toNat / 16 ^ (31 - index) % 16

theorem spread_nibbles (spread : SpreadBy 4 value x) : x = ofLanes fun j => ofNat (nibble value j) := by
  apply BitVec.eq_of_getLsbD_eq
  intro i inside
  have small : nibble value (31 - i / 8) < 256 := Nat.lt_trans (Nat.mod_lt _ (by decide)) (by decide)
  have power : (16 : Nat) ^ (31 - (31 - i / 8)) = 2 ^ (4 * (i / 8)) := by
    rw [show 31 - (31 - i / 8) = i / 8 by omega, pow_mul]
    norm_num
  rw [spread i inside, ofLanes_getLsbD _ inside, UInt8.toNat_ofNat_of_lt' small, nibble, power,
    show (16 : Nat) = 2 ^ 4 from rfl, Nat.testBit_mod_two_pow, Nat.testBit_div_two_pow, BitVec.getLsbD,
    Nat.add_comm]

def digitByte (digit : Nat) : UInt8 := ofNat (hexDigit digit).toNat

theorem digit_lane (digit : Nat) (small : digit < 16) :
    ofNat digit + 0x30 + (((ofNat digit + 0x06) >>> (ofNat 4)) &&& 1) * 0x27 =
      digitByte digit := by
  interval_cases digit <;> rfl

theorem digit_room (digit : Nat) (small : digit < 16) :
    (ofNat digit).toNat + (0x30 : UInt8).toNat < 256 ∧
    (ofNat digit).toNat + (0x06 : UInt8).toNat < 256 ∧
    (((ofNat digit + 0x06) >>> ofNat 4) &&& 1).toNat * (0x27 : UInt8).toNat < 256 ∧
    (ofNat digit + 0x30).toNat +
      ((((ofNat digit + 0x06) >>> ofNat 4) &&& 1) * 0x27).toNat < 256 := by
  interval_cases digit <;> decide

theorem spread_start (value : Word) : SpreadBy 128 value (value &&& 0xffffffffffffffffffffffffffffffff) := by
  have keeps : ∀ i < 256, (0xffffffffffffffffffffffffffffffff : Word).getLsbD i = decide (i < 128) := by
    decide +kernel
  intro i inside
  rw [BitVec.getLsbD_and, keeps i inside, Nat.mod_eq_of_lt inside, Nat.div_eq_of_lt inside, Bool.and_comm,
    Nat.mul_zero, Nat.zero_add]

set_option maxRecDepth 20000 in
theorem hexDigits_lanes (value : Word) : hexDigits value = ofLanes fun j => digitByte (nibble value j) := by
  have one := spread_step 64 SPREAD_64 (by decide) (spread_start value) (by decide)
  have two := spread_step 32 SPREAD_32 (by decide) one (by decide)
  have three := spread_step 16 0x0000ffff0000ffff0000ffff0000ffff0000ffff0000ffff0000ffff0000ffff (by decide) two
    (by decide)
  have four := spread_step 8 0x00ff00ff00ff00ff00ff00ff00ff00ff00ff00ff00ff00ff00ff00ff00ff00ff (by decide) three
    (by decide)
  have five := spread_step 4 0x0f0f0f0f0f0f0f0f0f0f0f0f0f0f0f0f0f0f0f0f0f0f0f0f0f0f0f0f0f0f0f0f (by decide) four
    (by decide)
  have nibbles := spread_nibbles five
  have room := fun j => digit_room (nibble value j) (Nat.mod_lt _ (by decide))
  have ones : LANES = ofLanes fun _ => 1 := by decide
  have base : (0x30 : Word) * LANES = ofLanes fun _ => 0x30 := by decide
  have six : (0x06 : Word) * LANES = ofLanes fun _ => 0x06 := by decide
  have digits := add_lanes (fun j => ofNat (nibble value j)) (fun _ => 0x30) fun j _ => (room j).1
  have past := add_lanes (fun j => ofNat (nibble value j)) (fun _ => 0x06) fun j _ => (room j).2.1
  have letters := mul_lanes (fun j => ((ofNat (nibble value j) + 0x06) >>> ofNat 4) &&& 1) 0x27
    fun j _ => (room j).2.2.1
  have factor : (0x27 : Word) = BitVec.ofNat 256 (0x27 : UInt8).toNat := rfl
  simp only [hexDigits]
  rw [nibbles, base, six, digits, past, ones, shift_lanes _ (by decide), factor, letters,
    add_lanes _ _ fun j _ => (room j).2.2.2]
  exact ofLanes_congr fun j _ => digit_lane _ (Nat.mod_lt _ (by decide))

def addressDigits (value : Nat) : Bytes :=
  (List.range 40).map fun k => digitByte (value / 16 ^ (39 - k) % 16)

theorem flatMap_digits (width value : Nat) :
    (beBytes width value).flatMap (fun byte => [digitByte (byte.toNat / 16), digitByte (byte.toNat % 16)]) =
      (List.range (2 * width)).map fun k => digitByte (value / 16 ^ (2 * width - 1 - k) % 16) := by
  induction width generalizing value with
  | zero => rfl
  | succ width ih =>
    have last : (ofNat (value % 256)).toNat = value % 256 :=
      UInt8.toNat_ofNat_of_lt' (Nat.mod_lt _ (by decide))
    have split : beBytes (width + 1) value = beBytes width (value / 256) ++ [ofNat (value % 256)] := by
      rw [beBytes, toDigits, map_append]
      rfl
    have earlier : (List.range (2 * width)).map (fun k => digitByte (value / 256 / 16 ^ (2 * width - 1 - k) % 16)) =
        (List.range (2 * width)).map fun k => digitByte (value / 16 ^ (2 * (width + 1) - 1 - k) % 16) := by
      refine map_congr_left ?_
      intro k member
      have inside := mem_range.mp member
      rw [Nat.div_div_eq_div_mul, show (256 : Nat) = 16 ^ 2 from rfl, ← pow_add,
        show 2 + (2 * width - 1 - k) = 2 * (width + 1) - 1 - k by omega]
    rw [split, flatMap_append, ih, earlier, show 2 * (width + 1) = 2 * width + 1 + 1 by omega,
      range_succ, range_succ, List.append_assoc, map_append]
    congr 1
    simp only [flatMap_cons, flatMap_nil, append_nil, cons_append, nil_append,
      map_cons, map_nil, last]
    rw [show 2 * width + 1 + 1 - 1 - 2 * width = 1 by omega,
      show 2 * width + 1 + 1 - 1 - (2 * width + 1) = 0 by omega, pow_one, pow_zero, Nat.div_one,
      show value % 256 / 16 = value / 16 % 16 by omega, show value % 256 % 16 = value % 16 by omega]

theorem encodeText_bytesToHex (bytes : Bytes) : encodeText (bytesToHex bytes) =
    [0x30, 0x78] ++ bytes.flatMap fun byte => [digitByte (byte.toNat / 16), digitByte (byte.toNat % 16)] := by
  rw [encodeText_map (bytesToHex_ascii bytes), bytesToHex, String.toList_ofList, map_cons, map_cons, map_flatMap]
  rfl

theorem hexDigits_text (value : Word) : [0x30, 0x78] ++ (List.range 32).map (laneOf (hexDigits value)) =
      encodeText (bytesToHex (beBytes 16 value.toNat)) := by
  rw [encodeText_bytesToHex, flatMap_digits, hexDigits_lanes]
  congr 1
  refine map_congr_left fun k member => ?_
  rw [laneOf_ofLanes _ (mem_range.mp member)]
  rfl

theorem encodeText_toHex (a : Address) :
    encodeText (Address.toHex a) = [0x30, 0x78] ++ addressDigits a.toNat := by
  rw [Address.toHex, encodeText_bytesToHex, Address.bytes, flatMap_digits]
  rfl

abbrev PartyText := Bytes × Bytes

def partySpelling (p : PartyText) : Bytes := stringBytes p.1 ++ stringBytes p.2

/-- An address as the kernel spells one: the only party scheme the gate can express. -/
def partyText (a : Address) : PartyText :=
  (encodeText PARTY_KIND_EIP155_ADDRESS, encodeText (Address.toHex a))

namespace Buffer

theorem low_digit (value : Nat) {place : Nat} (low : place < 8) :
    value % 2 ^ 32 / 16 ^ place % 16 = value / 16 ^ place % 16 := by
  have split : (2 : Nat) ^ 32 = 16 ^ place * (16 * 16 ^ (7 - place)) := by
    rw [← Nat.pow_succ', ← pow_add, show place + (7 - place + 1) = 8 by omega]
    norm_num
  rw [split, Nat.mod_mul_right_div_self, Nat.mod_mul_right_mod]

theorem head_lanes : ∀ j < 20, (beBytes 20 PARTY_HEAD.toNat)[j]? =
    some (laneOf (PARTY_HEAD.setWidth 256 <<< 96) j) := by decide

theorem head_spelled : beBytes 20 PARTY_HEAD.toNat =
    stringBytes (encodeText PARTY_KIND_EIP155_ADDRESS) ++ (beBytes 2 42 ++ [0x30, 0x78]) := by decide

theorem Holds.putParty {b : Buffer} {bytes : Bytes} (holds : b.Holds bytes) (party : Address) :
    (b.putParty party).Holds (bytes ++ partySpelling (partyText party)) := by
  have width : (party.setWidth 256).toNat = party.toNat := by
    rw [BitVec.toNat_setWidth, Nat.mod_eq_of_lt (Nat.lt_trans party.isLt (by decide))]
  have digit (k : Nat) (inside : k < 40) :
      (addressDigits party.toNat)[k]? = some (digitByte (party.toNat / 16 ^ (39 - k) % 16)) := by
    rw [addressDigits, getElem?_map, getElem?_range inside, Option.map_some]
  have sized : (addressDigits party.toNat).length = 40 := by
    rw [addressDigits, length_map, length_range]
  have head := @Holds.store b bytes holds (PARTY_HEAD.setWidth 256 <<< 96) (beBytes 20 PARTY_HEAD.toNat)
    (by rw [beBytes_length]; decide) (by rw [beBytes_length]; exact head_lanes)
  have high := @Holds.store _ _ head (hexDigits (party.setWidth 256 >>> 32))
    ((addressDigits party.toNat).take 32) (by simp [sized]) (by
      intro j inside
      rw [length_take, sized] at inside
      rw [getElem?_take_of_lt (by omega), digit j (by omega), hexDigits_lanes,
        laneOf_ofLanes _ (by omega), nibble, BitVec.toNat_ushiftRight, width, Nat.shiftRight_eq_div_pow,
        Nat.div_div_eq_div_mul, show (2 : Nat) ^ 32 = 16 ^ 8 from rfl, ← pow_add,
        show 8 + (31 - j) = 39 - j by omega])
  have low := @Holds.store _ _ high (hexDigits (party.setWidth 256 &&& 0xffffffff) <<< 192)
    ((addressDigits party.toNat).drop 32) (by simp [sized]) (by
      intro j inside
      rw [length_drop, sized] at inside
      rw [getElem?_drop, digit _ (by omega), hexDigits_lanes, show (192 : Nat) = 8 * 24 from rfl,
        raise_lanes, laneOf_ofLanes _ (by omega), if_pos (by omega), nibble, BitVec.toNat_and, width,
        show (0xffffffff : Word).toNat = 2 ^ 32 - 1 from rfl, Nat.and_two_pow_sub_one_eq_mod]
      rw [show 31 - (j + 24) = 39 - (32 + j) by omega, low_digit party.toNat (by omega)])
  have taken : ((addressDigits party.toNat).take 32).length = 32 := by rw [length_take, sized]; rfl
  have dropped : ((addressDigits party.toNat).drop 32).length = 8 := by rw [length_drop, sized]
  rw [beBytes_length, taken, dropped, List.append_assoc, List.append_assoc, take_append_drop] at low
  have spelled : partySpelling (partyText party) =
      beBytes 20 PARTY_HEAD.toNat ++ addressDigits party.toNat := by
    rw [partySpelling, partyText, encodeText_toHex, head_spelled]
    simp only [stringBytes, length_append, sized, List.append_assoc]
    rfl
  rw [spelled]
  exact low

end Buffer

def assetSpelling (a : GateAsset Bytes) : Bytes :=
  stringBytes a.assetClass ++ (stringBytes a.idScheme ++ stringBytes a.value)

def amountSpelling (a : GateAmount Bytes) : Bytes :=
  stringBytes a.unit ++ (beBytes 1 a.decimals.toNat ++ beBytes 32 a.atoms.toNat)

def priceSpelling (p : GatePrice Bytes) : Bytes :=
  stringBytes p.numeratorUnit ++ (stringBytes p.denominatorUnit ++ (beBytes 1 p.decimals.toNat ++
    beBytes 32 p.atoms.toNat))

def setSpelling (values : List Bytes) : Bytes := beBytes 2 values.length ++ values.flatMap stringBytes

abbrev WireMandate := GateMandate Bytes PartyText
abbrev WireCandidate := GateCandidate Bytes PartyText

def GateMandate.wire (m : GateMandate Located Address) : WireMandate := m.map Located.bytes partyText
def GateCandidate.wire (c : GateCandidate Located Address) : WireCandidate := c.map Located.bytes partyText

def mandateFields (m : WireMandate) : Bytes :=
  beBytes 32 m.mandateId.toNat ++ (beBytes 8 m.nonce.toNat ++ (partySpelling m.principal ++
    (partySpelling m.agent ++ (assetSpelling m.canonicalAsset ++ (beBytes 1 m.side.toNat ++
      (amountSpelling m.maxNotional ++ (amountSpelling m.economicLimit ++
        (beBytes 2 m.maxDeviationBps.toNat ++ (beBytes 1 m.syntheticPolicy.toNat ++
          (setSpelling m.allowedIssuers ++ (setSpelling m.allowedChains ++ (setSpelling m.allowedVenues ++
            (beBytes 8 m.requiredCorporateActionEpoch.toNat ++ (beBytes 4 m.maxPriceAgeSeconds.toNat ++
              (beBytes 4 m.maxCorporateActionAgeSeconds.toNat ++ (beBytes 1 m.haltPolicy.toNat ++
                (beBytes 8 m.createdAtUnixSeconds.toNat ++ (beBytes 8 m.notBeforeUnixSeconds.toNat ++
                  beBytes 8 m.expiresAtUnixSeconds.toNat))))))))))))))))))

def mandateSpelling (m : WireMandate) : Bytes :=
  encodeText MANDATE_TAG ++ (beBytes 2 m.version.toNat ++ mandateFields m)

def candidateFields (c : WireCandidate) : Bytes :=
  stringBytes c.representationId ++ (assetSpelling c.canonicalAsset ++ (stringBytes c.issuer ++
    (stringBytes c.chain ++ (stringBytes c.venue ++ (beBytes 1 c.side.toNat ++ (partySpelling c.agent ++
      (amountSpelling c.quantity ++ (priceSpelling c.executionPrice ++ (amountSpelling c.notional ++
        (amountSpelling c.feeTotal ++ (stringBytes c.evaluationStateId ++
          (beBytes 32 c.evaluationStateDigest.toNat ++ (beBytes 32 c.registrySnapshotDigest.toNat ++
            beBytes 8 c.corporateActionEpoch.toNat)))))))))))))

def candidateSpelling (c : WireCandidate) : Bytes :=
  encodeText CANDIDATE_TAG ++ (beBytes 2 c.version.toNat ++ candidateFields c)

theorem beBytes_word (width value : Nat) (fits : width ≤ 32) :
    beBytes width (value % 2 ^ 256) = beBytes width value := by
  have digits (number : Nat) : toDigits 256 width (number % 256 ^ width) = toDigits 256 width number := by
    have back := toDigits_ofDigits (toDigits 256 width number) (toDigits_lt (by decide) width number)
    rwa [toDigits_length, ofDigits_toDigits] at back
  have divides : 256 ^ width ∣ 2 ^ 256 := by
    rw [show (2 : Nat) ^ 256 = 256 ^ 32 by norm_num]
    exact Nat.pow_dvd_pow _ fits
  rw [beBytes, beBytes, ← digits, Nat.mod_mod_of_dvd _ divides, digits]

namespace Buffer

variable {b : Buffer} {bytes : Bytes}

theorem Holds.putField (holds : b.Holds bytes) {width : Nat}
    (value : BitVec width) {size : Nat} (narrow : width ≤ 256) (fits : size ≤ 32) :
    (b.putUint (value.setWidth 256) size).Holds (bytes ++ beBytes size value.toNat) := by
  have put := holds.putUint (value.setWidth 256) fits
  rwa [BitVec.toNat_setWidth_of_le narrow] at put

private theorem Holds.putAsset (holds : b.Holds bytes) (a : GateAsset Located) :
    (b.putAsset a).Holds (bytes ++ assetSpelling (a.map Located.bytes)) := by
  have put := ((holds.putString a.assetClass).putString a.idScheme).putString a.value
  rw [List.append_assoc, List.append_assoc] at put
  exact put

private theorem Holds.putAmount (holds : b.Holds bytes) (a : GateAmount Located) :
    (b.putAmount a).Holds (bytes ++ amountSpelling (a.map Located.bytes)) := by
  have scaled := (holds.putString a.unit).putField a.decimals (by decide) (by decide : 1 ≤ 32)
  have put := scaled.putUint a.atoms (Nat.le_refl 32)
  rw [List.append_assoc, List.append_assoc] at put
  exact put

theorem Holds.putStrings (holds : b.Holds bytes) (values : List Located) :
    (values.foldl Buffer.putString b).Holds (bytes ++ (values.map Located.bytes).flatMap stringBytes) := by
  induction values generalizing b bytes with
  | nil =>
    rw [map_nil, flatMap_nil, append_nil]
    exact holds
  | cons value values ih =>
    have rest := ih (holds.putString value)
    rw [List.append_assoc] at rest
    exact rest

private theorem Holds.putSet (holds : b.Holds bytes) (values : List Located) :
    (b.putSet values).Holds (bytes ++ setSpelling (values.map Located.bytes)) := by
  have put := (holds.putUint (BitVec.ofNat 256 values.length) (by decide : 2 ≤ 32)).putStrings values
  rw [BitVec.toNat_ofNat, beBytes_word _ _ (by decide), List.append_assoc] at put
  rw [setSpelling, length_map]
  exact put

private theorem Holds.sealed {b : Buffer} {bytes : Bytes} (holds : b.Holds bytes) {len : Nat}
    (exact' : len = bytes.length) : b.sealed len = some bytes := by
  obtain ⟨reached, held⟩ := holds
  have read : ∀ count ≤ bytes.length, (List.range count).mapM b.memory = some (bytes.take count) := by
    intro count
    induction count with
    | zero => exact fun _ => rfl
    | succ count ih =>
      intro inside
      rw [range_succ, mapM_append, ih (by omega), take_add_one]
      have here := held count (by omega)
      rw [getElem?_eq_getElem (by omega)] at here ⊢
      simp [here]
  rw [Buffer.sealed, if_pos (by rw [reached, exact']), exact', read _ (Nat.le_refl _), take_length]

end Buffer

section Lengths

theorem stringBytes_length (bytes : Bytes) : (stringBytes bytes).length = 2 + bytes.length := by
  rw [stringBytes, length_append, beBytes_length]

theorem partySpelling_length (a : Address) : (partySpelling (partyText a)).length = 60 := by
  rw [partySpelling, partyText, length_append, stringBytes_length, stringBytes_length, encodeText_toHex]
  simp only [addressDigits, length_append, length_map, length_range]
  rfl

theorem assetSpelling_length (a : GateAsset Located) :
    (assetSpelling (a.map Located.bytes)).length = assetBytes a := by
  simp only [assetSpelling, GateAsset.map, length_append, stringBytes_length, assetBytes]
  omega

theorem amountSpelling_length (a : GateAmount Bytes) : (amountSpelling a).length = 35 + a.unit.length := by
  simp only [amountSpelling, length_append, stringBytes_length, beBytes_length]
  omega

theorem setSpelling_length (values : List Located) :
    (setSpelling (values.map Located.bytes)).length = setBytes values := by
  have total (seed : Nat) : values.foldl (fun size value => size + value.bytes.length) seed +
      2 * values.length = seed + ((values.map Located.bytes).flatMap stringBytes).length := by
    induction values generalizing seed with
    | nil => rfl
    | cons value values ih =>
      have rest := ih (seed + value.bytes.length)
      simp only [foldl_cons, map_cons, flatMap_cons, length_append, length_cons,
        stringBytes_length] at rest ⊢
      omega
  have whole := total (2 + 2 * values.length)
  simp only [setSpelling, setBytes, length_append, beBytes_length]
  omega

end Lengths

theorem encodeMandate_spells (m : GateMandate Located Address) :
    encodeMandate m = some (mandateSpelling m.wire) := by
  have held := (((((((Buffer.holds_alloc.putUint (BitVec.ofNat 256 MANDATE_TAG_BYTES)
    (by decide : 18 ≤ 32)).putField m.version (by decide) (by decide : 2 ≤ 32)).putUint m.mandateId
    (Nat.le_refl 32)).putField m.nonce (by decide) (by decide : 8 ≤ 32)).putParty m.principal).putParty
    m.agent).putAsset m.canonicalAsset).putField m.side (by decide) (by decide : 1 ≤ 32)
  have held := ((((((held.putAmount m.maxNotional).putAmount m.economicLimit).putField m.maxDeviationBps
    (by decide) (by decide : 2 ≤ 32)).putField m.syntheticPolicy (by decide) (by decide : 1 ≤ 32)).putSet
    m.allowedIssuers).putSet m.allowedChains).putSet m.allowedVenues
  have held := ((held.putField m.requiredCorporateActionEpoch (by decide) (by decide : 8 ≤ 32)).putField
    m.maxPriceAgeSeconds (by decide) (by decide : 4 ≤ 32)).putField m.maxCorporateActionAgeSeconds
    (by decide) (by decide : 4 ≤ 32)
  have held := (((held.putField m.haltPolicy (by decide) (by decide : 1 ≤ 32)).putField
    m.createdAtUnixSeconds (by decide) (by decide : 8 ≤ 32)).putField m.notBeforeUnixSeconds (by decide)
    (by decide : 8 ≤ 32)).putField m.expiresAtUnixSeconds (by decide) (by decide : 8 ≤ 32)
  have tag : beBytes 18 (BitVec.ofNat 256 MANDATE_TAG_BYTES).toNat = encodeText MANDATE_TAG := by
    decide
  simp only [nil_append, List.append_assoc, tag] at held
  refine held.sealed ?_
  have tagged : (encodeText MANDATE_TAG).length = 18 := by decide
  simp only [length_append, beBytes_length, tagged, partySpelling_length, assetSpelling_length,
    amountSpelling_length, setSpelling_length, GateAmount.map, MANDATE_FIXED_BYTES]
  omega

theorem encodeCandidate_spells (c : GateCandidate Located Address) :
    encodeCandidate c = some (candidateSpelling c.wire) := by
  have held := (((((((Buffer.holds_alloc.putUint (BitVec.ofNat 256 CANDIDATE_TAG_BYTES)
    (by decide : 20 ≤ 32)).putField c.version (by decide) (by decide : 2 ≤ 32)).putString
    c.representationId).putAsset c.canonicalAsset).putString c.issuer).putString c.chain).putString
    c.venue).putField c.side (by decide) (by decide : 1 ≤ 32)
  have held := ((((held.putParty c.agent).putAmount c.quantity).putString
    c.executionPrice.numeratorUnit).putString c.executionPrice.denominatorUnit).putField
    c.executionPrice.decimals (by decide) (by decide : 1 ≤ 32)
  have held := (((held.putUint c.executionPrice.atoms (Nat.le_refl 32)).putAmount c.notional).putAmount
    c.feeTotal).putString c.evaluationStateId
  have held := ((held.putUint c.evaluationStateDigest (Nat.le_refl 32)).putUint c.registrySnapshotDigest
    (Nat.le_refl 32)).putField c.corporateActionEpoch (by decide) (by decide : 8 ≤ 32)
  have tag : beBytes 20 (BitVec.ofNat 256 CANDIDATE_TAG_BYTES).toNat = encodeText CANDIDATE_TAG := by
    decide
  simp only [nil_append, List.append_assoc, tag] at held
  have whole := @Buffer.Holds.sealed _ (candidateSpelling c.wire) (by
    simp only [candidateSpelling, candidateFields, GateCandidate.wire, GateCandidate.map, GatePrice.map, priceSpelling,
      List.append_assoc]
    exact held)
  refine whole ?_
  have tagged : (encodeText CANDIDATE_TAG).length = 20 := by decide
  simp only [candidateSpelling, candidateFields, GateCandidate.wire, GateCandidate.map, GatePrice.map, priceSpelling,
    length_append, beBytes_length, tagged, partySpelling_length, assetSpelling_length,
    amountSpelling_length, stringBytes_length, GateAmount.map, CANDIDATE_FIXED_BYTES]
  omega

end Mandate.Gate
