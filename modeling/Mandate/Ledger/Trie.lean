import Mandate.Lib.Packed
import Mandate.Lib.Table
import Mathlib.Data.Nat.Bitwise
import Mathlib.Tactic.Ring

/-! The persistent map of the ledger's state: a hash trie whose branches pack their children under a
bitmap. A key is a string's code units; every value of the code's number type is one of 32 bits. -/
namespace Mandate.Ledger.Trie
open Lib Lib.Packed List
open Option (some.inj)

abbrev Key := List UInt16

abbrev Hash := BitVec 32

structure Leaf (ν : Type) where
  hash : Hash
  key : Key
  value : ν

inductive TrieNode (ν : Type)
  | leaf (leaf : Leaf ν)
  | collision (hash : Hash) (leaves : List (Leaf ν))
  | branch (bitmap : BitVec 32) (children : List (TrieNode ν))

def BITS : Nat := 5
def MASK : BitVec 32 := 31

def hashKey (key : Key) : Hash := key.foldl (fun h unit => (h ^^^ BitVec.ofNat 32 unit.toNat) * 0x01000193) 0x811c9dc5

def popcount (x : BitVec 32) : Nat :=
  let v := x - ((x >>> 1) &&& (0x55555555 : BitVec 32))
  let v := (v &&& (0x33333333 : BitVec 32)) + ((v >>> 2) &&& (0x33333333 : BitVec 32))
  ((((v + (v >>> 4)) &&& (0x0f0f0f0f : BitVec 32)) * (0x01010101 : BitVec 32)) >>> 24).toNat

def chunk (hash : Hash) (shift : Nat) : Nat := ((hash >>> (shift % 32)) &&& MASK).toNat

def bitAt (slot : Nat) : BitVec 32 := (1 : BitVec 32) <<< slot

section Popcount

variable {m k : Nat}

theorem shifted_and {r s b : Nat} (byte : b < 256) (few : k < 8) (mask : m < 2 ^ (8 - k)) :
    (256 * r + b) / 2 ^ k &&& (256 * s + m) = 256 * (r / 2 ^ k &&& s) + (b / 2 ^ k &&& m) := by
  have byte' : b < 2 ^ 8 := byte
  have mask' : m < 2 ^ 8 := lt_of_lt_of_le mask (Nat.pow_le_pow_right (by decide) (by omega))
  have low : (b / 2 ^ k &&& m) < 2 ^ 8 := lt_of_le_of_lt Nat.and_le_right mask'
  apply Nat.eq_of_testBit_eq
  intro i
  rw [show (256 : Nat) = 2 ^ 8 from rfl, Nat.testBit_two_pow_mul_add _ low, Nat.testBit_and, Nat.testBit_div_two_pow,
    Nat.testBit_two_pow_mul_add _ byte', Nat.testBit_two_pow_mul_add _ mask']
  by_cases inside : i < 8
  · rw [if_pos inside, if_pos inside, Nat.testBit_and, Nat.testBit_div_two_pow]
    by_cases kept : i < 8 - k
    · rw [if_pos (by omega)]
    · have clear : m.testBit i = false :=
        Nat.testBit_lt_two_pow (lt_of_lt_of_le mask (Nat.pow_le_pow_right (by decide) (by omega)))
      rw [clear, Bool.and_false, Bool.and_false]
  · rw [if_neg inside, if_neg inside, if_neg (by omega), Nat.testBit_and, Nat.testBit_div_two_pow,
      show i + k - 8 = i - 8 + k by omega]

private def pairs (byte : Nat) : Nat := byte - (byte / 2 ^ 1 &&& 0x55)
private def quads (byte : Nat) : Nat := (pairs byte &&& 0x33) + (pairs byte / 2 ^ 2 &&& 0x33)
private def ones (byte : Nat) : Nat := (quads byte + quads byte / 16) % 16

theorem byte_counts : ∀ byte < 256, (byte / 2 ^ 1 &&& 0x55) ≤ byte ∧ pairs byte < 256 ∧
    quads byte ≤ 0x44 ∧ quads byte % 16 ≤ 4 ∧ ones byte = (List.range 8).countP byte.testBit ∧ ones byte ≤ 8 := by
  decide +kernel

private def word4 (b3 b2 b1 b0 : Nat) : Nat := 256 * (256 * (256 * b3 + b2) + b1) + b0

variable {b2 b1 b0 : Nat}

theorem masked (b3 : Nat) (h2 : b2 < 256) (h1 : b1 < 256) (h0 : b0 < 256)
    (few : k < 8) (mask : m < 2 ^ (8 - k)) : word4 b3 b2 b1 b0 / 2 ^ k &&& word4 m m m m =
      word4 (b3 / 2 ^ k &&& m) (b2 / 2 ^ k &&& m) (b1 / 2 ^ k &&& m) (b0 / 2 ^ k &&& m) := by
  unfold word4
  rw [shifted_and h0 few mask, shifted_and h1 few mask, shifted_and h2 few mask]

theorem countP_bytes {x : BitVec 32} {b3 : Nat} (h2 : b2 < 256) (h1 : b1 < 256) (h0 : b0 < 256)
    (whole : x.toNat = word4 b3 b2 b1 b0) : (List.range 32).countP x.getLsbD =
      (List.range 8).countP b3.testBit + (List.range 8).countP b2.testBit + (List.range 8).countP b1.testBit +
        (List.range 8).countP b0.testBit := by
  have bit : ∀ {r b i : Nat}, b < 256 → (256 * r + b).testBit i = if i < 8 then b.testBit i else r.testBit (i - 8) :=
    fun byte => Nat.testBit_two_pow_mul_add (i := 8) _ byte _
  have split : List.range 32 = List.range 8 ++ (List.range 8).map (8 + ·) ++ (List.range 8).map (16 + ·) ++
      (List.range 8).map (24 + ·) := by decide
  have counted : ∀ (b shift : Nat), (∀ j < 8, x.toNat.testBit (shift + j) = b.testBit j) →
      ((List.range 8).map (shift + ·)).countP x.getLsbD = (List.range 8).countP b.testBit := by
    intro b shift same
    rw [countP_map]
    refine countP_congr fun j member => ?_
    simp only [Function.comp_apply, BitVec.getLsbD, same j (mem_range.mp member)]
  have first : (List.range 8).countP x.getLsbD = (List.range 8).countP b0.testBit := by
    refine countP_congr fun j member => ?_
    have inside := mem_range.mp member
    rw [BitVec.getLsbD, whole, word4, bit h0, if_pos inside]
  rw [split, countP_append, countP_append, countP_append, first,
    counted b1 8, counted b2 16, counted b3 24]
  · omega
  · intro j inside
    rw [whole, word4, bit h0, if_neg (by omega), bit h1, if_neg (by omega), bit h2, if_neg (by omega),
      show 24 + j - 8 - 8 - 8 = j by omega]
  · intro j inside
    rw [whole, word4, bit h0, if_neg (by omega), bit h1, if_neg (by omega), bit h2, if_pos (by omega),
      show 16 + j - 8 - 8 = j by omega]
  · intro j inside
    rw [whole, word4, bit h0, if_neg (by omega), bit h1, if_pos (by omega), show 8 + j - 8 = j by omega]

theorem summed_bytes {o3 o2 o1 o0 : Nat} (e3 : o3 ≤ 8) (e2 : o2 ≤ 8) (e1 : o1 ≤ 8) (e0 : o0 ≤ 8) :
    word4 o3 o2 o1 o0 * 16843009 % 2 ^ 32 / 2 ^ 24 = o3 + o2 + o1 + o0 := by
  have carried : word4 o3 o2 o1 o0 * 16843009 = 2 ^ 32 * (65793 * o3 + 257 * o2 + o1) +
      (2 ^ 24 * (o3 + o2 + o1 + o0) + (65536 * (o2 + o1 + o0) + 256 * (o1 + o0) + o0)) := by
    unfold word4
    ring
  rw [carried, Nat.mul_add_mod, Nat.mod_eq_of_lt (by omega), Nat.mul_add_div (by decide),
    Nat.div_eq_of_lt (by omega), Nat.add_zero]

theorem popcount_eq (x : BitVec 32) : popcount x = (List.range 32).countP x.getLsbD := by
  have bound := x.isLt
  obtain ⟨b3, b2, b1, b0, h3, h2, h1, h0, whole⟩ : ∃ b3 b2 b1 b0, b3 < 256 ∧ b2 < 256 ∧ b1 < 256 ∧ b0 < 256 ∧
      x.toNat = word4 b3 b2 b1 b0 :=
    ⟨x.toNat / 16777216, x.toNat / 65536 % 256, x.toNat / 256 % 256, x.toNat % 256, by omega, by omega, by omega,
      by omega, by unfold word4; omega⟩
  obtain ⟨le3, p3, q3, n3, o3, e3⟩ := byte_counts b3 h3
  obtain ⟨le2, p2, q2, n2, o2, e2⟩ := byte_counts b2 h2
  obtain ⟨le1, p1, q1, n1, o1, e1⟩ := byte_counts b1 h1
  obtain ⟨le0, p0, q0, n0, o0, e0⟩ := byte_counts b0 h0
  rw [countP_bytes h2 h1 h0 whole, ← o3, ← o2, ← o1, ← o0]
  unfold popcount
  dsimp only
  have halves : ((x >>> 1) &&& (0x55555555 : BitVec 32)).toNat = word4 (b3 / 2 ^ 1 &&& 0x55) (b2 / 2 ^ 1 &&& 0x55)
      (b1 / 2 ^ 1 &&& 0x55) (b0 / 2 ^ 1 &&& 0x55) := by
    rw [BitVec.toNat_and, BitVec.toNat_ushiftRight, Nat.shiftRight_eq_div_pow, whole,
      ← masked b3 h2 h1 h0 (by decide) (by decide)]
    rfl
  have paired : (x - ((x >>> 1) &&& (0x55555555 : BitVec 32))).toNat = word4 (pairs b3) (pairs b2) (pairs b1) (pairs b0) := by
    rw [BitVec.toNat_sub_of_le (by rw [BitVec.le_def, halves, whole]; unfold word4; omega), halves, whole]
    unfold pairs word4
    omega
  generalize x - ((x >>> 1) &&& (0x55555555 : BitVec 32)) = v at paired ⊢
  have quaded : ((v &&& (0x33333333 : BitVec 32)) + ((v >>> 2) &&& (0x33333333 : BitVec 32))).toNat =
      word4 (quads b3) (quads b2) (quads b1) (quads b0) := by
    have even := masked (m := 0x33) (k := 0) (pairs b3) p2 p1 p0 (by decide) (by decide)
    have odd := masked (m := 0x33) (k := 2) (pairs b3) p2 p1 p0 (by decide) (by decide)
    rw [← paired] at even odd
    simp only [pow_zero, Nat.div_one] at even
    have mask : word4 0x33 0x33 0x33 0x33 = 0x33333333 := rfl
    rw [mask] at even odd
    have literal : (0x33333333 : BitVec 32).toNat = 0x33333333 := rfl
    rw [BitVec.toNat_add, BitVec.toNat_and, BitVec.toNat_and, BitVec.toNat_ushiftRight, Nat.shiftRight_eq_div_pow,
      literal, even, odd]
    unfold quads word4 at *
    omega
  generalize (v &&& (0x33333333 : BitVec 32)) + ((v >>> 2) &&& (0x33333333 : BitVec 32)) = w at quaded ⊢
  have summed : (w + (w >>> 4)).toNat = word4 (quads b3 + quads b3 / 16)
      (quads b2 + quads b2 / 16 + 16 * (quads b3 % 16)) (quads b1 + quads b1 / 16 + 16 * (quads b2 % 16))
      (quads b0 + quads b0 / 16 + 16 * (quads b1 % 16)) := by
    rw [BitVec.toNat_add, BitVec.toNat_ushiftRight, Nat.shiftRight_eq_div_pow, quaded]
    unfold word4
    omega
  have counted : ((w + (w >>> 4)) &&& (0x0f0f0f0f : BitVec 32)).toNat = word4 (ones b3) (ones b2) (ones b1) (ones b0) := by
    have low := masked (m := 0xf) (k := 0) (quads b3 + quads b3 / 16)
      (by omega : quads b2 + quads b2 / 16 + 16 * (quads b3 % 16) < 256)
      (by omega : quads b1 + quads b1 / 16 + 16 * (quads b2 % 16) < 256)
      (by omega : quads b0 + quads b0 / 16 + 16 * (quads b1 % 16) < 256) (by decide) (by decide)
    simp only [← summed, pow_zero, Nat.div_one] at low
    have nibble : ∀ byte, byte &&& 0xf = byte % 16 := fun byte => Nat.and_two_pow_sub_one_eq_mod byte 4
    have literal : (0x0f0f0f0f : BitVec 32).toNat = word4 0xf 0xf 0xf 0xf := rfl
    rw [BitVec.toNat_and, literal, low, nibble, nibble, nibble, nibble]
    unfold ones word4
    omega
  have literal : (0x01010101 : BitVec 32).toNat = 16843009 := rfl
  rw [BitVec.toNat_ushiftRight, Nat.shiftRight_eq_div_pow, BitVec.toNat_mul, counted, literal]
  exact summed_bytes e3 e2 e1 e0

end Popcount

section Bits
variable {slot : Nat} (inside : slot < 32)

theorem chunk_lt (hash : Hash) (shift : Nat) : chunk hash shift < 32 := by
  rw [chunk, BitVec.toNat_and]
  exact lt_of_le_of_lt Nat.and_le_right (by decide)

include inside

theorem bitAt_toNat : (bitAt slot).toNat = 2 ^ slot := by
  have small : 2 ^ slot < 2 ^ 32 := Nat.pow_lt_pow_right (by decide) inside
  rw [bitAt, BitVec.toNat_shiftLeft, Nat.shiftLeft_eq, show BitVec.toNat (1 : BitVec 32) = 1 from rfl,
    Nat.one_mul, Nat.mod_eq_of_lt small]

theorem bitAt_bit (other : Nat) : (bitAt slot).getLsbD other = decide (slot = other) := by
  rw [BitVec.getLsbD, bitAt_toNat inside, Nat.testBit_two_pow]

theorem bitAt_fill : (bitAt slot).getLsbD = fill (fun _ => false) slot := by
  funext other
  rw [bitAt_bit inside, fill, Bool.or_false, Bool.eq_iff_iff, decide_eq_true_eq, beq_iff_eq]
  exact eq_comm

theorem below_bit (other : Nat) : (bitAt slot - 1).getLsbD other = decide (other < slot) := by
  have one : (1 : BitVec 32) ≤ bitAt slot := by
    rw [BitVec.le_def, bitAt_toNat inside]
    exact Nat.one_le_two_pow
  rw [BitVec.getLsbD, BitVec.toNat_sub_of_le one, bitAt_toNat inside]
  exact Nat.testBit_two_pow_sub_one slot other

theorem unset_iff (bitmap : BitVec 32) : bitmap &&& bitAt slot = 0 ↔ bitmap.getLsbD slot = false := by
  constructor
  · intro clear
    have here : (bitmap &&& bitAt slot).getLsbD slot = false := by rw [clear]; exact BitVec.getLsbD_zero
    rwa [BitVec.getLsbD_and, bitAt_bit inside, decide_eq_true rfl, Bool.and_true] at here
  · intro clear
    apply BitVec.eq_of_getLsbD_eq
    intro other _
    rw [BitVec.getLsbD_and, bitAt_bit inside]
    by_cases same : slot = other
    · rw [← same, clear]
      exact (Bool.false_and _).trans BitVec.getLsbD_zero.symm
    · rw [decide_eq_false same, Bool.and_false]
      exact BitVec.getLsbD_zero.symm

theorem set_bit (bitmap : BitVec 32) : (bitmap ||| bitAt slot).getLsbD = fill bitmap.getLsbD slot := by
  funext other
  rw [BitVec.getLsbD_or, bitAt_bit inside, fill, Bool.or_comm]
  congr 1
  rw [Bool.beq_comm]
  rfl

theorem popcount_below (bitmap : BitVec 32) : popcount (bitmap &&& (bitAt slot - 1)) = rank bitmap.getLsbD slot := by
  have cut : ∀ width ≥ slot, rank (fun other => bitmap.getLsbD other && decide (other < slot)) width =
      rank bitmap.getLsbD slot := by
    intro width le
    induction le with
    | refl =>
      refine countP_congr fun other listed => ?_
      rw [decide_eq_true (mem_range.mp listed), Bool.and_true]
    | @step width le ih =>
      rw [rank_succ, ih, decide_eq_false (Nat.not_lt.mpr le), Bool.and_false]
      rfl
  have bits : (bitmap &&& (bitAt slot - 1)).getLsbD = fun other => bitmap.getLsbD other && decide (other < slot) := by
    funext other
    rw [BitVec.getLsbD_and, below_bit inside]
  rw [popcount_eq, bits]
  exact cut 32 inside.le

end Bits

variable {ν : Type}

def LEVELS : Nat := 7

/-- Two nodes with different hashes, merged under a branch at `shift`. -/
def merge : Nat → Nat → Hash → TrieNode ν → Leaf ν → Option (TrieNode ν)
  | 0, _, _, _, _ => none
  | levels + 1, shift, hash, a, b =>
    let ia := chunk hash shift
    let ib := chunk b.hash shift
    if ia = ib then (merge levels (shift + BITS) hash a b).map fun child => .branch (bitAt ia) [child]
    else some (.branch (bitAt ia ||| bitAt ib) (if ia < ib then [a, .leaf b] else [.leaf b, a]))

mutual

def insert : TrieNode ν → Nat → Leaf ν → Option (TrieNode ν × Bool)
  | .leaf held, shift, leaf =>
    if held.key = leaf.key then some (.leaf leaf, false)
    else if held.hash = leaf.hash then some (.collision leaf.hash [held, leaf], true)
    else (merge LEVELS shift held.hash (.leaf held) leaf).map (·, true)
  | .collision hash leaves, shift, leaf =>
    if hash ≠ leaf.hash then (merge LEVELS shift hash (.collision hash leaves) leaf).map (·, true)
    else match leaves.findIdx? (·.key = leaf.key) with
      | none => some (.collision hash (leaves ++ [leaf]), true)
      | some i => some (.collision hash (leaves.set i leaf), false)
  | .branch bitmap children, shift, leaf =>
    let bit := bitAt (chunk leaf.hash shift)
    let pos := popcount (bitmap &&& (bit - 1))
    if bitmap &&& bit = 0 then some (.branch (bitmap ||| bit) (children.insertIdx pos (.leaf leaf)), true)
    else (insertAt children pos (shift + BITS) leaf).map fun r => (.branch bitmap r.1, r.2)

/-- The children with the one at an index replaced; no child is there to replace at the end. -/
def insertAt : List (TrieNode ν) → Nat → Nat → Leaf ν → Option (List (TrieNode ν) × Bool)
  | [], _, _, _ => none
  | child :: rest, 0, shift, leaf => (insert child shift leaf).map fun r => (r.1 :: rest, r.2)
  | child :: rest, pos + 1, shift, leaf => (insertAt rest pos shift leaf).map fun r => (child :: r.1, r.2)

end

mutual

def lookup : TrieNode ν → Nat → Hash → Key → Option ν
  | .leaf held, _, _, key => if held.key = key then some held.value else none
  | .collision hash leaves, _, sought, key =>
    if hash = sought then (leaves.find? (·.key = key)).map (·.value) else none
  | .branch bitmap children, shift, sought, key =>
    let bit := bitAt (chunk sought shift)
    if bitmap &&& bit = 0 then none
    else lookupAt children (popcount (bitmap &&& (bit - 1))) (shift + BITS) sought key

def lookupAt : List (TrieNode ν) → Nat → Nat → Hash → Key → Option ν
  | [], _, _, _, _ => none
  | child :: _, 0, shift, sought, key => lookup child shift sought key
  | _ :: rest, pos + 1, shift, sought, key => lookupAt rest pos shift sought key

end

mutual

def walk : TrieNode ν → List (Key × ν)
  | .leaf held => [(held.key, held.value)]
  | .collision _ leaves => leaves.map fun held => (held.key, held.value)
  | .branch _ children => walkAll children

def walkAll : List (TrieNode ν) → List (Key × ν)
  | [] => []
  | child :: rest => walk child ++ walkAll rest

end

structure PMap (ν : Type) where
  root : Option (TrieNode ν)
  size : Nat

def PMap.empty : PMap ν := { root := none, size := 0 }

def PMap.get (map : PMap ν) (key : Key) : Option ν := map.root.bind fun root => lookup root 0 (hashKey key) key

def PMap.has (map : PMap ν) (key : Key) : Bool := (map.get key).isSome

def PMap.set (map : PMap ν) (key : Key) (value : ν) : Option (PMap ν) :=
  let leaf : Leaf ν := { hash := hashKey key, key, value }
  match map.root with
  | none => some { root := some (.leaf leaf), size := map.size + 1 }
  | some root => (insert root 0 leaf).map fun r =>
    { root := some r.1, size := if r.2 then map.size + 1 else map.size }

def PMap.entries (map : PMap ν) : List (Key × ν) := map.root.elim [] walk

def PMap.sortedKeys (map : PMap ν) : List Key := (map.entries.map (·.1)).insertionSort (· ≤ ·)

theorem insertAt_eq (children : List (TrieNode ν)) (pos shift : Nat) (leaf : Leaf ν) :
    insertAt children pos shift leaf = children[pos]?.bind fun child =>
      (insert child shift leaf).map fun r => (children.set pos r.1, r.2) := by
  induction children generalizing pos with
  | nil => rfl
  | cons child rest ih =>
    cases pos with
    | zero => rfl
    | succ pos =>
      rw [insertAt, ih, getElem?_cons_succ]
      cases rest[pos]? with
      | none => rfl
      | some held => exact Option.map_map ..

theorem lookupAt_eq (children : List (TrieNode ν)) (pos shift : Nat) (sought : Hash) (key : Key) :
    lookupAt children pos shift sought key = children[pos]?.bind fun child => lookup child shift sought key := by
  induction children generalizing pos with
  | nil => rfl
  | cons child rest ih =>
    cases pos with
    | zero => rfl
    | succ pos => rw [lookupAt, ih, getElem?_cons_succ]

theorem walkAll_eq (children : List (TrieNode ν)) : walkAll children = children.flatMap walk := by
  induction children with
  | nil => rfl
  | cons child rest ih => rw [walkAll, ih, flatMap_cons]

/-- Each key lies where its hash leads: five more bits at every branch. -/
inductive Routed : Nat → (Hash → Prop) → TrieNode ν → Prop
  | leaf {shift : Nat} {region : Hash → Prop} (held : Leaf ν) (hashed : held.hash = hashKey held.key)
      (inside : region held.hash) : Routed shift region (.leaf held)
  | collision {shift : Nat} {region : Hash → Prop} {hash : Hash} {leaves : List (Leaf ν)}
      (alike : ∀ held ∈ leaves, hashKey held.key = hash) (apart : (leaves.map (·.key)).Nodup)
      (inside : region hash) : Routed shift region (.collision hash leaves)
  | branch {shift : Nat} {region : Hash → Prop} {bitmap : BitVec 32} {children : List (TrieNode ν)}
      (fits : Fits 32 bitmap.getLsbD children)
      (below : ∀ slot child, read bitmap.getLsbD children slot = some child →
        Routed (shift + BITS) (fun hash => region hash ∧ chunk hash shift = slot) child) :
      Routed shift region (.branch bitmap children)

section Routing
variable {shift : Nat} {region : Hash → Prop} {node : TrieNode ν}

theorem Routed.within (routed : Routed shift region node) : ∀ e ∈ walk node, region (hashKey e.1) := by
  induction routed with
  | leaf held hashed inside =>
    intro e listed
    rw [walk, mem_singleton] at listed
    rw [listed, ← hashed]
    exact inside
  | collision alike apart inside =>
    intro e listed
    rw [walk] at listed
    obtain ⟨held, member, rfl⟩ := mem_map.mp listed
    rw [alike held member]
    exact inside
  | branch fits below ih =>
    intro e listed
    rw [walk, walkAll_eq] at listed
    obtain ⟨child, member, listed⟩ := mem_flatMap.mp listed
    obtain ⟨slot, _, found⟩ := fits.mem_iff.mp member
    exact (ih slot child found e listed).1

theorem Routed.nodup (routed : Routed shift region node) : ((walk node).map (·.1)).Nodup := by
  induction routed with
  | leaf held hashed inside => exact nodup_singleton _
  | collision alike apart inside =>
    rw [walk, map_map]
    exact apart
  | @branch shift region bitmap children fits below ih =>
    rw [walk, walkAll_eq, map_flatMap, nodup_flatMap]
    constructor
    · intro child member
      obtain ⟨slot, _, found⟩ := fits.mem_iff.mp member
      exact ih slot child found
    · refine fits.pairwise fun first second item other different found found' => ?_
      intro key listed listed'
      obtain ⟨e, here, rfl⟩ := mem_map.mp listed
      obtain ⟨e', there, same⟩ := mem_map.mp listed'
      have left := ((below first item found).within e here).2
      have right := ((below second other found').within e' there).2
      rw [same, left] at right
      exact different right

theorem walk_branch {bitmap : BitVec 32} {children : List (TrieNode ν)} (fits : Fits 32 bitmap.getLsbD children)
    (below : ∀ slot child, read bitmap.getLsbD children slot = some child →
      Routed (shift + BITS) (fun hash => region hash ∧ chunk hash shift = slot) child) (e : Key × ν) :
    e ∈ walk (.branch bitmap children) ↔
      ∃ child, read bitmap.getLsbD children (chunk (hashKey e.1) shift) = some child ∧ e ∈ walk child := by
  rw [walk, walkAll_eq, mem_flatMap]
  constructor
  · rintro ⟨child, member, listed⟩
    obtain ⟨slot, _, found⟩ := fits.mem_iff.mp member
    have here := ((below slot child found).within e listed).2
    exact ⟨child, by rw [here]; exact found, listed⟩
  · rintro ⟨child, found, listed⟩
    exact ⟨child, fits.mem_iff.mpr ⟨_, chunk_lt _ _, found⟩, listed⟩

theorem lookup_branch (bitmap : BitVec 32) (children : List (TrieNode ν)) (shift : Nat) (sought : Hash) (key : Key) :
    lookup (.branch bitmap children) shift sought key = (read bitmap.getLsbD children (chunk sought shift)).bind
      fun child => lookup child (shift + BITS) sought key := by
  rw [lookup, lookupAt_eq, popcount_below (chunk_lt _ _)]
  simp only [unset_iff (chunk_lt _ _), Lib.Packed.read]
  cases bitmap.getLsbD (chunk sought shift) <;> simp

theorem Routed.lookup (routed : Routed shift region node) (key : Key) (value : ν) :
    lookup node shift (hashKey key) key = some value ↔ (key, value) ∈ walk node := by
  induction routed with
  | leaf held hashed inside =>
    rw [Trie.lookup, walk, mem_singleton]
    constructor
    · intro found
      split at found
      · rename_i same
        rw [← same, some.inj found]
      · cases found
    · intro same
      obtain ⟨rfl, rfl⟩ := Prod.mk.inj same
      exact if_pos rfl
  | @collision shift region hash leaves alike apart inside =>
    rw [Trie.lookup, walk, mem_map]
    constructor
    · intro found
      split at found
      · obtain ⟨held, first, rfl⟩ := Option.map_eq_some_iff.mp found
        have same : held.key = key := by simpa using find?_some first
        exact ⟨held, mem_of_find?_eq_some first, by rw [same]⟩
      · cases found
    · rintro ⟨held, member, same⟩
      obtain ⟨rfl, rfl⟩ := Prod.mk.inj same
      rw [if_pos (alike held member).symm]
      cases first : leaves.find? fun other => decide (other.key = held.key) with
      | none => exact absurd (find?_eq_none.mp first held member) (by simp)
      | some other =>
        have same : other.key = held.key := by simpa using find?_some first
        have equal := inj_on_of_nodup_map apart (mem_of_find?_eq_some first) member same
        rw [equal]
        rfl
  | @branch shift region bitmap children fits below ih =>
    rw [lookup_branch, Option.bind_eq_some_iff, walk_branch fits below]
    exact exists_congr fun child => and_congr_right fun found => ih _ child found

end Routing

section Merging
variable {shift : Nat} {region : Hash → Prop}

theorem alike_next {a b : Hash} (alike : a.toNat % 2 ^ shift = b.toNat % 2 ^ shift)
    (same : chunk a shift = chunk b shift) : a.toNat % 2 ^ (shift + BITS) = b.toNat % 2 ^ (shift + BITS) := by
  by_cases short : shift < 32
  · have bits : ∀ hash : Hash, chunk hash shift = hash.toNat / 2 ^ shift % 2 ^ BITS := by
      intro hash
      rw [chunk, Nat.mod_eq_of_lt short, BitVec.toNat_and, BitVec.toNat_ushiftRight, Nat.shiftRight_eq_div_pow]
      exact Nat.and_two_pow_sub_one_eq_mod _ 5
    rw [bits, bits] at same
    rw [Nat.pow_add, Nat.mod_mul, Nat.mod_mul, alike, same]
  · have long : 2 ^ 32 ≤ 2 ^ shift := Nat.pow_le_pow_right (by decide) (Nat.not_lt.mp short)
    rw [Nat.mod_eq_of_lt (a.isLt.trans_le long), Nat.mod_eq_of_lt (b.isLt.trans_le long)] at alike
    rw [alike]

theorem alone_fits {slot : Nat} (inside : slot < 32) (child : TrieNode ν) :
    Fits 32 (bitAt slot).getLsbD [child] ∧
      ∀ other, read (bitAt slot).getLsbD [child] other = if other = slot then some child else none := by
  have placed : [child] = ([] : List (TrieNode ν)).insertIdx (rank (fun _ => false) slot) child := by rw [rank_none]; rfl
  rw [bitAt_fill inside, placed]
  exact ⟨(Fits.none 32).insert rfl inside child, (Fits.none 32).read_insert rfl inside child⟩

theorem pair_fits {ia ib : Nat} (low : ia < 32) (high : ib < 32) (apart : ia ≠ ib) (a b : TrieNode ν) :
    Fits 32 (bitAt ia ||| bitAt ib).getLsbD (if ia < ib then [a, b] else [b, a]) ∧
      ∀ other, read (bitAt ia ||| bitAt ib).getLsbD (if ia < ib then [a, b] else [b, a]) other =
        if other = ib then some b else if other = ia then some a else none := by
  obtain ⟨fits, reads⟩ := alone_fits low a
  have fresh : (bitAt ia).getLsbD ib = false := by rw [bitAt_bit low, decide_eq_false apart]
  have placed : (if ia < ib then [a, b] else [b, a]) = [a].insertIdx (rank (bitAt ia).getLsbD ib) b := by
    rw [bitAt_fill low, rank_fill rfl, rank_none]
    split <;> rfl
  rw [set_bit high, placed]
  refine ⟨fits.insert fresh high b, fun other => ?_⟩
  rw [fits.read_insert fresh high b other, reads]

theorem merge_spec {hash : Hash} {a : TrieNode ν} {b : Leaf ν} (levels : Nat) (room : 35 ≤ shift + BITS * levels)
    (different : hash ≠ b.hash) (alike : hash.toNat % 2 ^ shift = b.hash.toNat % 2 ^ shift)
    (hashed : b.hash = hashKey b.key) (here : region hash) (there : region b.hash)
    (held : ∀ shift (region : Hash → Prop), region hash → Routed shift region a) :
    ∃ node, merge levels shift hash a b = some node ∧ Routed shift region node ∧
      ∀ e, e ∈ walk node ↔ e ∈ walk a ∨ e = (b.key, b.value) := by
  induction levels generalizing shift region with
  | zero =>
    have long : 2 ^ 32 ≤ 2 ^ shift := Nat.pow_le_pow_right (by decide) (by omega)
    rw [Nat.mod_eq_of_lt (hash.isLt.trans_le long), Nat.mod_eq_of_lt (b.hash.isLt.trans_le long)] at alike
    exact absurd (BitVec.eq_of_toNat_eq alike) different
  | succ levels ih =>
    by_cases same : chunk hash shift = chunk b.hash shift
    · have rest : 35 ≤ shift + BITS + BITS * levels := by
        rw [Nat.mul_succ] at room
        omega
      obtain ⟨child, merged, routed, walked⟩ := @ih (shift + BITS)
        (fun other => region other ∧ chunk other shift = chunk hash shift) rest (alike_next alike same) ⟨here, rfl⟩
        ⟨there, same.symm⟩
      obtain ⟨fits, reads⟩ := alone_fits (chunk_lt hash shift) child
      refine ⟨.branch (bitAt (chunk hash shift)) [child], ?_, .branch fits fun slot other found => ?_, fun e => ?_⟩
      · rw [merge, if_pos same, merged]
        rfl
      · rw [reads] at found
        split at found
        · rename_i at_slot
          rw [← some.inj found, at_slot]
          exact routed
        · cases found
      · rw [walk, walkAll, walkAll, append_nil]
        exact walked e
    · obtain ⟨fits, reads⟩ := pair_fits (chunk_lt hash shift) (chunk_lt b.hash shift) same a (.leaf b)
      refine ⟨_, by rw [merge, if_neg same], .branch fits fun slot other found => ?_, fun e => ?_⟩
      · rw [reads] at found
        split at found
        · rename_i at_slot
          rw [← some.inj found, at_slot]
          exact .leaf b hashed ⟨there, rfl⟩
        · split at found
          · rename_i at_slot
            rw [← some.inj found, at_slot]
            exact held _ _ ⟨here, rfl⟩
          · cases found
      · rw [walk]
        split <;> simp [walkAll, walk, or_comm]

end Merging

structure Inserted (shift : Nat) (region : Hash → Prop) (node : TrieNode ν) (leaf : Leaf ν)
    (result : TrieNode ν × Bool) : Prop where
  routed : Routed shift region result.1
  added : result.2 = false ↔ ∃ value, (leaf.key, value) ∈ walk node
  walked : ∀ key value, (key, value) ∈ walk result.1 ↔
    if key = leaf.key then value = leaf.value else (key, value) ∈ walk node

section Inserting
variable {shift : Nat} {region : Hash → Prop} {leaf : Leaf ν} {hash : Hash}

theorem merge_inserted {a : TrieNode ν} (different : hash ≠ leaf.hash)
    (alike : hash.toNat % 2 ^ shift = leaf.hash.toNat % 2 ^ shift) (hashed : leaf.hash = hashKey leaf.key)
    (here : region hash) (there : region leaf.hash)
    (held : ∀ shift (region : Hash → Prop), region hash → Routed shift region a) :
    ∃ result, (merge LEVELS shift hash a leaf).map (·, true) = some result ∧ Inserted shift region a leaf result := by
  obtain ⟨node, merged, routed, walked⟩ := merge_spec LEVELS (Nat.le_add_left 35 shift) different alike hashed here there held
  have absent : ∀ value, (leaf.key, value) ∉ walk a := by
    intro value listed
    have equal := (held 0 (· = hash) rfl).within _ listed
    exact different (equal.symm.trans hashed.symm)
  refine ⟨(node, true), by rw [merged]; rfl, routed, ⟨nofun, ?_⟩, fun key value => ?_⟩
  · rintro ⟨value, listed⟩
    exact absurd listed (absent value)
  · rw [walked, Prod.mk.injEq]
    split
    · rename_i same
      subst same
      simp [absent]
    · rename_i other
      simp [other]

variable {leaves : List (Leaf ν)}

theorem collision_walk (key : Key) (value : ν) :
    (key, value) ∈ walk (.collision hash leaves) ↔ ∃ held ∈ leaves, held.key = key ∧ held.value = value := by
  simp [walk]

theorem leaf_inserted {held : Leaf ν} (own : held.hash = hashKey held.key) (here : region held.hash)
    (alike : held.hash.toNat % 2 ^ shift = leaf.hash.toNat % 2 ^ shift)
    (hashed : leaf.hash = hashKey leaf.key) (inside : region leaf.hash) :
    ∃ result, insert (.leaf held) shift leaf = some result ∧ Inserted shift region (.leaf held) leaf result := by
  unfold insert
  split
  · rename_i same
    refine ⟨_, rfl, .leaf leaf hashed inside, ⟨fun _ => ⟨held.value, ?_⟩, fun _ => rfl⟩, fun key value => ?_⟩
    · rw [walk, ← same]
      exact mem_singleton.mpr rfl
    · simp only [walk, mem_singleton, Prod.mk.injEq]
      split <;> simp_all
  · rename_i different
    split
    · rename_i same
      refine ⟨_, rfl, .collision ?_ ?_ inside, ⟨nofun, ?_⟩, fun key value => ?_⟩
      · intro other listed
        rcases mem_pair.mp listed with rfl | rfl
        · rw [← own, same]
        · exact hashed.symm
      · simpa using different
      · rintro ⟨value, listed⟩
        simp only [walk, mem_singleton, Prod.mk.injEq] at listed
        exact absurd listed.1.symm different
      · simp only [walk, map_cons, map_nil, mem_pair, mem_singleton, Prod.mk.injEq]
        split
        · rename_i at_key
          simp [at_key, Ne.symm different]
        · rename_i other
          simp [other]
    · rename_i apart
      exact merge_inserted apart alike hashed here inside fun shift region here => .leaf held own here

section Bucket
variable {hash : Hash} {leaves : List (Leaf ν)} (same : ∀ held ∈ leaves, hashKey held.key = hash)
  (apart : (leaves.map (·.key)).Nodup) (here : region hash) (hashed : hash = hashKey leaf.key)
include same apart here hashed

theorem append_inserted (absent : ∀ held ∈ leaves, held.key ≠ leaf.key) :
    Inserted shift region (.collision hash leaves) leaf (.collision hash (leaves ++ [leaf]), true) := by
  refine ⟨.collision ?_ ?_ here, ⟨nofun, ?_⟩, fun key value => ?_⟩
  · intro other listed
    rcases mem_append.mp listed with listed | listed
    · exact same other listed
    · rw [mem_singleton.mp listed, hashed]
  · rw [map_append, nodup_append]
    refine ⟨apart, nodup_singleton _, fun key listed other single => ?_⟩
    obtain ⟨held, member, rfl⟩ := mem_map.mp listed
    rw [mem_singleton.mp single]
    exact absent held member
  · rintro ⟨value, listed⟩
    obtain ⟨held, member, found, _⟩ := (collision_walk _ _).mp listed
    exact absurd found (absent held member)
  · rw [collision_walk, collision_walk]
    split
    · rename_i at_key
      subst at_key
      constructor
      · rintro ⟨held, member, found, rfl⟩
        rcases mem_append.mp member with member | member
        · exact absurd found (absent held member)
        · rw [mem_singleton.mp member]
      · rintro rfl
        exact ⟨leaf, by simp, rfl, rfl⟩
    · rename_i other
      constructor
      · rintro ⟨held, member, found, rfl⟩
        rcases mem_append.mp member with member | member
        · exact ⟨held, member, found, rfl⟩
        · rw [mem_singleton.mp member] at found
          exact absurd found.symm other
      · rintro ⟨held, member, found⟩
        exact ⟨held, mem_append_left _ member, found⟩

theorem replace_inserted {i : Nat} (low : i < leaves.length) (at_i : leaves[i].key = leaf.key) :
    Inserted shift region (.collision hash leaves) leaf (.collision hash (leaves.set i leaf), false) := by
  have keys : (leaves.set i leaf).map (·.key) = leaves.map (·.key) := by
    apply ext_getElem (by simp)
    intro j _ _
    simp only [getElem_map, getElem_set]
    split
    · rename_i equal
      subst equal
      exact at_i.symm
    · rfl
  have listed : leaf ∈ leaves.set i leaf := mem_set low leaf
  refine ⟨.collision ?_ (keys ▸ apart) here, ⟨fun _ => ⟨leaves[i].value, ?_⟩, fun _ => rfl⟩, fun key value => ?_⟩
  · intro other member
    rcases mem_or_eq_of_mem_set member with member | rfl
    · exact same other member
    · exact hashed.symm
  · exact (collision_walk _ _).mpr ⟨_, getElem_mem low, at_i, rfl⟩
  · rw [collision_walk, collision_walk]
    split
    · rename_i at_key
      subst at_key
      constructor
      · rintro ⟨held, member, found, rfl⟩
        rw [inj_on_of_nodup_map (keys ▸ apart) member listed found]
      · rintro rfl
        exact ⟨leaf, listed, rfl, rfl⟩
    · rename_i other
      constructor
      · rintro ⟨held, member, found, rfl⟩
        rcases mem_or_eq_of_mem_set member with member | equal
        · exact ⟨held, member, found, rfl⟩
        · exact absurd (equal ▸ found).symm other
      · rintro ⟨held, member, found, rfl⟩
        obtain ⟨j, inside, rfl⟩ := mem_iff_getElem.mp member
        have elsewhere : i ≠ j := by
          rintro rfl
          exact other (found.symm.trans at_i)
        refine ⟨leaves[j], ?_, found, rfl⟩
        rw [← getElem_set_ne elsewhere (by simpa using inside)]
        exact getElem_mem _

end Bucket

theorem collision_inserted (same : ∀ held ∈ leaves, hashKey held.key = hash)
    (apart : (leaves.map (·.key)).Nodup) (here : region hash)
    (alike : hash.toNat % 2 ^ shift = leaf.hash.toNat % 2 ^ shift)
    (hashed : leaf.hash = hashKey leaf.key) (inside : region leaf.hash) :
    ∃ result, insert (.collision hash leaves) shift leaf = some result ∧
      Inserted shift region (.collision hash leaves) leaf result := by
  unfold insert
  split
  · rename_i different
    exact merge_inserted different alike hashed here inside fun shift region here => .collision same apart here
  · rename_i equal
    have bucket : hash = hashKey leaf.key := (not_not.mp equal).trans hashed
    split
    · rename_i missing
      have absent : ∀ held ∈ leaves, held.key ≠ leaf.key := by simpa [findIdx?_eq_none_iff] using missing
      exact ⟨_, rfl, append_inserted same apart here bucket absent⟩
    · rename_i i found
      obtain ⟨low, at_i, _⟩ := findIdx?_eq_some_iff_getElem.mp found
      exact ⟨_, rfl, replace_inserted same apart here bucket low (of_decide_eq_true at_i)⟩

section Branching
variable {bitmap : BitVec 32} {children : List (TrieNode ν)} (fits : Fits 32 bitmap.getLsbD children)
  (below : ∀ slot child, read bitmap.getLsbD children slot = some child →
    Routed (shift + BITS) (fun hash => region hash ∧ chunk hash shift = slot) child)
  (hashed : leaf.hash = hashKey leaf.key) (inside : region leaf.hash)
include fits below hashed

theorem branch_written {bitmap' : BitVec 32} {children' : List (TrieNode ν)} {child : TrieNode ν} {added : Bool}
    (fits' : Fits 32 bitmap'.getLsbD children') (reads : ∀ other, read bitmap'.getLsbD children' other =
      if other = chunk leaf.hash shift then some child else read bitmap.getLsbD children other)
    (routed : Routed (shift + BITS) (fun hash => region hash ∧ chunk hash shift = chunk leaf.hash shift) child)
    (counted : added = false ↔ ∃ value, (leaf.key, value) ∈ walk (.branch bitmap children))
    (walked : ∀ key value, (key, value) ∈ walk child ↔ if key = leaf.key then value = leaf.value
      else chunk (hashKey key) shift = chunk leaf.hash shift ∧ (key, value) ∈ walk (.branch bitmap children)) :
    Inserted shift region (.branch bitmap children) leaf (.branch bitmap' children', added) := by
  have below' : ∀ slot child, read bitmap'.getLsbD children' slot = some child →
      Routed (shift + BITS) (fun hash => region hash ∧ chunk hash shift = slot) child := by
    intro slot other found
    rw [reads] at found
    split at found
    · rename_i at_slot
      rw [← some.inj found, at_slot]
      exact routed
    · exact below slot other found
  refine ⟨.branch fits' below', counted, fun key value => ?_⟩
  rw [walk_branch fits' below']
  simp only [reads]
  by_cases at_slot : chunk (hashKey key) shift = chunk leaf.hash shift
  · simp only [at_slot, if_true, Option.some.injEq, exists_eq_left', walked, true_and]
  · have other : key ≠ leaf.key := by
      rintro rfl
      exact at_slot (by rw [hashed])
    simp only [if_neg at_slot, if_neg other]
    exact (walk_branch fits below (key, value)).symm

include inside

theorem branch_inserted (alike : ∀ hash, region hash → hash.toNat % 2 ^ shift = leaf.hash.toNat % 2 ^ shift)
    (ih : ∀ slot child, read bitmap.getLsbD children slot = some child →
      (∀ hash, region hash ∧ chunk hash shift = slot →
        hash.toNat % 2 ^ (shift + BITS) = leaf.hash.toNat % 2 ^ (shift + BITS)) →
      region leaf.hash ∧ chunk leaf.hash shift = slot →
      ∃ result, insert child (shift + BITS) leaf = some result ∧
        Inserted (shift + BITS) (fun hash => region hash ∧ chunk hash shift = slot) child leaf result) :
    ∃ result, insert (.branch bitmap children) shift leaf = some result ∧
      Inserted shift region (.branch bitmap children) leaf result := by
  have low := chunk_lt leaf.hash shift
  unfold insert
  simp only [popcount_below low, unset_iff low]
  split
  · rename_i fresh
    have nothing : read bitmap.getLsbD children (chunk (hashKey leaf.key) shift) = none := by
      rw [← hashed, Lib.Packed.read, fresh]
      rfl
    refine ⟨_, rfl, branch_written fits below hashed (set_bit low bitmap ▸ fits.insert fresh low _)
      (fun other => set_bit low bitmap ▸ fits.read_insert fresh low _ other) (.leaf leaf hashed ⟨inside, rfl⟩)
      ⟨by simp, ?_⟩ fun key value => ?_⟩
    · rintro ⟨value, listed⟩
      obtain ⟨child, found, _⟩ := (walk_branch fits below _).mp listed
      rw [nothing] at found
      cases found
    · simp only [walk, mem_singleton, Prod.mk.injEq]
      split
      · rename_i same
        simp [same]
      · rename_i other
        simp only [other, false_and, false_iff]
        rintro ⟨at_slot, listed⟩
        obtain ⟨child, found, _⟩ := (walk_branch fits below _).mp listed
        rw [at_slot, hashed, nothing] at found
        cases found
  · rename_i set
    have here : bitmap.getLsbD (chunk leaf.hash shift) = true := by simpa using set
    obtain ⟨child, found⟩ := fits.read_some here
    obtain ⟨⟨child', added⟩, done, routed, counted, walked⟩ := ih _ child found
      (fun hash at_slot => alike_next (alike hash at_slot.1) at_slot.2) ⟨inside, rfl⟩
    have at_pos : children[rank bitmap.getLsbD (chunk leaf.hash shift)]? = some child := by
      rwa [Lib.Packed.read, if_pos here] at found
    refine ⟨_, by rw [insertAt_eq, at_pos, Option.bind_some, done]; rfl, branch_written fits below hashed (fits.set child')
      (fits.read_set here child') routed ?_ fun key value => ?_⟩
    · refine counted.trans (exists_congr fun value => ?_)
      rw [walk_branch fits below, ← hashed, found]
      simp
    · rw [walked]
      split
      · rfl
      · rw [walk_branch fits below]
        constructor
        · intro listed
          have at_slot := ((below _ child found).within _ listed).2
          exact ⟨at_slot, child, by rw [at_slot, found], listed⟩
        · rintro ⟨at_slot, other, found', listed⟩
          rw [at_slot, found] at found'
          rwa [some.inj found']

end Branching

theorem Routed.insert {node : TrieNode ν} (routed : Routed shift region node)
    (alike : ∀ hash, region hash → hash.toNat % 2 ^ shift = leaf.hash.toNat % 2 ^ shift)
    (hashed : leaf.hash = hashKey leaf.key) (inside : region leaf.hash) :
    ∃ result, insert node shift leaf = some result ∧ Inserted shift region node leaf result := by
  induction routed with
  | leaf held own here => exact leaf_inserted own here (alike _ here) hashed inside
  | collision same apart here => exact collision_inserted same apart here (alike _ here) hashed inside
  | branch fits below ih => exact branch_inserted fits below hashed inside alike ih

end Inserting

structure PMap.Tracks (map : PMap ν) (table : Table.PMap Key ν) : Prop where
  routed : ∀ root, map.root = some root → Routed 0 (fun _ => True) root
  listed : ∀ key value, (key, value) ∈ map.entries ↔ table.lookup key = some value
  size : map.size = table.keys.length

structure PMap.Agrees (map : PMap ν) (table : Table.PMap Key ν) : Prop where
  get : ∀ key, map.get key = table.lookup key
  has : ∀ key, map.has key = true ↔ key ∈ table
  size : map.size = table.keys.length
  entries : map.entries.Perm (table.entries.map fun e => (e.1, e.2))
  sortedKeys : map.sortedKeys = table.keys.insertionSort (· ≤ ·)

theorem PMap.Tracks.empty : (PMap.empty : PMap ν).Tracks ∅ :=
  ⟨nofun, fun key value => by simp [PMap.entries, PMap.empty], rfl⟩

section
variable {map : PMap ν} {table : Table.PMap Key ν}

theorem PMap.Tracks.set (tracks : map.Tracks table) (key : Key) (value : ν) :
    ∃ next, map.set key value = some next ∧ next.Tracks (table.insert key value) := by
  have keys := Table.length_insert table key value
  have known_iff : key ∈ table ↔ ∃ old, (key, old) ∈ map.entries := by
    rw [← AList.lookup_isSome, Option.isSome_iff_exists]
    exact exists_congr fun old => (tracks.listed key old).symm
  unfold PMap.set
  dsimp only
  split
  · rename_i nothing
    have absent : ∀ entry, entry ∉ map.entries := by simp [PMap.entries, nothing]
    have fresh : key ∉ table := fun known => (known_iff.mp known).elim fun old listed => absent _ listed
    refine ⟨_, rfl, ?_, fun other found => ?_, ?_⟩
    · intro root same
      rw [← some.inj same]
      exact .leaf _ rfl trivial
    · have missing : ∀ found, table.lookup other ≠ some found := fun found here =>
        absent _ ((tracks.listed other found).mpr here)
      rw [Table.lookup_insert_eq]
      simp only [PMap.entries, Option.elim_some, walk, mem_singleton, Prod.mk.injEq]
      split
      · rename_i same
        simp [same, eq_comm]
      · rename_i different
        simp [different, missing]
    · rw [keys, if_neg fresh, tracks.size]
  · rename_i root here
    have entries : map.entries = walk root := by rw [PMap.entries, here]; rfl
    have lone : ∀ hash : Hash, True → hash.toNat % 2 ^ 0 = (hashKey key).toNat % 2 ^ 0 := fun _ _ => by
      rw [pow_zero, Nat.mod_one, Nat.mod_one]
    let leaf : Leaf ν := { hash := hashKey key, key, value }
    obtain ⟨⟨root', added⟩, done, routed, counted, walked⟩ :=
      Routed.insert (tracks.routed root here) (show ∀ hash : Hash, True → hash.toNat % 2 ^ 0 = leaf.hash.toNat % 2 ^ 0 from lone)
        rfl trivial
    refine ⟨_, by rw [done]; rfl, ?_, fun other found => ?_, ?_⟩
    · intro root same
      rw [← some.inj same]
      exact routed
    · rw [Table.lookup_insert_eq]
      refine (walked other found).trans ?_
      split
      · rw [Option.some.injEq, eq_comm]
      · rw [← entries]
        exact tracks.listed other found
    · rw [keys, ← tracks.size]
      have old : added = false ↔ key ∈ table := by
        rw [known_iff, entries]
        exact counted
      cases added <;> simp_all

theorem PMap.Tracks.agrees (tracks : map.Tracks table) : map.Agrees table := by
  have nodup : (map.entries.map (·.1)).Nodup := by
    unfold PMap.entries
    cases here : map.root with
    | none => exact nodup_nil
    | some root => exact (tracks.routed root here).nodup
  have get : ∀ key, map.get key = table.lookup key := by
    intro key
    apply Option.ext
    intro value
    rw [← tracks.listed key value, PMap.get, PMap.entries]
    cases here : map.root with
    | none => simp
    | some root => exact (tracks.routed root here).lookup key value
  have own : ((table.entries.map fun e => (e.1, e.2)).map (·.1)) = table.keys := map_map
  have perm : map.entries.Perm (table.entries.map fun e => (e.1, e.2)) := by
    refine (perm_ext_iff_of_nodup (List.Nodup.of_map _ nodup) (List.Nodup.of_map (·.1) (own ▸ table.nodupKeys))).mpr ?_
    rintro ⟨key, value⟩
    rw [tracks.listed]
    constructor
    · intro found
      exact mem_map.mpr ⟨⟨key, value⟩, Table.mem_entries.mpr found, rfl⟩
    · intro listed
      obtain ⟨e, member, same⟩ := mem_map.mp listed
      obtain ⟨rfl, rfl⟩ := Prod.mk.inj same
      exact Table.mem_entries.mp member
  refine ⟨get, fun key => ?_, tracks.size, perm, ?_⟩
  · rw [PMap.has, get, AList.lookup_isSome]
  · have keys : (map.entries.map (·.1)).Perm table.keys := own ▸ perm.map (·.1)
    exact List.Perm.eq_of_pairwise' (pairwise_insertionSort _ _) (pairwise_insertionSort _ _)
      (((perm_insertionSort _ _).trans keys).trans (perm_insertionSort _ _).symm)

end

structure SetCall (ν : Type) where
  version : Nat
  key : Key
  value : ν

/-- Every version made so far, and the one that a call makes of an earlier one. -/
def PMap.perform (versions : List (PMap ν)) (call : SetCall ν) : Option (List (PMap ν)) := do
  let map ← versions[call.version]?
  let next ← map.set call.key call.value
  return versions ++ [next]

def performTables (versions : List (Table.PMap Key ν)) (call : SetCall ν) : Option (List (Table.PMap Key ν)) := do
  let table ← versions[call.version]?
  return versions ++ [table.insert call.key call.value]

variable {versions : List (PMap ν)} {tables tables' : List (Table.PMap Key ν)}

theorem PMap.Tracks.perform {call : SetCall ν}
    (tracks : List.Forall₂ Tracks versions tables) (done : performTables tables call = some tables') :
    ∃ versions', PMap.perform versions call = some versions' ∧ List.Forall₂ Tracks versions' tables' ∧
      versions <+: versions' := by
  obtain ⟨table, here, done⟩ := Option.bind_eq_some_iff.mp done
  obtain rfl := some.inj done
  obtain ⟨low, rfl⟩ := List.getElem?_eq_some_iff.mp here
  have low' : call.version < versions.length := by rwa [tracks.length_eq]
  obtain ⟨next, set, tracks'⟩ := (tracks.get low' low).set call.key call.value
  refine ⟨versions ++ [next], ?_, rel_append tracks (.cons tracks' .nil), prefix_append _ _⟩
  rw [PMap.perform, getElem?_eq_getElem low', Option.bind_eq_bind, Option.bind_some]
  rw [get_eq_getElem] at set
  rw [set]
  rfl

theorem PMap.Tracks.run (calls : List (SetCall ν))
    (tracks : List.Forall₂ Tracks versions tables) (done : calls.foldlM performTables tables = some tables') :
    ∃ versions', calls.foldlM PMap.perform versions = some versions' ∧ List.Forall₂ Tracks versions' tables' ∧
      versions <+: versions' := by
  induction calls generalizing versions tables with
  | nil =>
    obtain rfl := some.inj done
    exact ⟨versions, rfl, tracks, prefix_rfl⟩
  | cons call calls ih =>
    obtain ⟨middle, first, done⟩ := Option.bind_eq_some_iff.mp done
    obtain ⟨versions', performed, tracks', kept⟩ := PMap.Tracks.perform tracks first
    obtain ⟨versions'', rest, tracks'', kept'⟩ := ih tracks' done
    refine ⟨versions'', ?_, tracks'', kept.trans kept'⟩
    rw [foldlM_cons, performed, Option.bind_eq_bind, Option.bind_some]
    exact rest

/-- Whatever calls of `set` are made, each on any version made before it: every call comes to an end
with a new version, every version agrees with the finite map that its calls build, and those made
before a call are still there, and still agree, after every later one. -/
theorem pmap_refines {calls later : List (SetCall ν)} {tables tables' : List (Table.PMap Key ν)}
    (done : calls.foldlM performTables [∅] = some tables) (done' : later.foldlM performTables tables = some tables') :
    ∃ versions versions', calls.foldlM PMap.perform [PMap.empty] = some versions ∧
      later.foldlM PMap.perform versions = some versions' ∧
      List.Forall₂ PMap.Agrees versions tables ∧ List.Forall₂ PMap.Agrees versions' tables' ∧
      versions <+: versions' := by
  have start : List.Forall₂ PMap.Tracks [(PMap.empty : PMap ν)] [∅] := .cons .empty .nil
  obtain ⟨versions, performed, tracks, _⟩ := PMap.Tracks.run calls start done
  obtain ⟨versions', performed', tracks', kept⟩ := PMap.Tracks.run later tracks done'
  exact ⟨versions, versions', performed, performed', tracks.imp fun _ _ => PMap.Tracks.agrees,
    tracks'.imp fun _ _ => PMap.Tracks.agrees, kept⟩

theorem pmap_refines_sample : ∃ versions versions', [SetCall.mk 0 [97] 1, .mk 0 [98] 2].foldlM PMap.perform
      [(PMap.empty : PMap Nat)] = some versions ∧ [SetCall.mk 1 [97] 3].foldlM PMap.perform versions = some versions' ∧
      List.Forall₂ PMap.Agrees versions [∅, AList.singleton [97] 1, AList.singleton [98] 2] ∧
      List.Forall₂ PMap.Agrees versions' [∅, AList.singleton [97] 1, AList.singleton [98] 2, AList.singleton [97] 3] ∧
      versions <+: versions' :=
  pmap_refines rfl rfl

end Mandate.Ledger.Trie
