import Mandate.Lib.Wire

/-! Spellings no one of which begins another: what stands in front of any bytes tells the
object it spells, and leaves the rest. -/
namespace Mandate.Lib.Prefix
open Lib.Wire

/-- On the objects allowed, the front of the bytes determines the object and the rest. -/
def PrefixFree {α : Type} (allowed : α → Prop) (spell : α → Bytes) : Prop :=
  ∀ a b x y, allowed a → allowed b → spell a ++ x = spell b ++ y → a = b ∧ x = y

variable {α : Type} {p : α → Prop} {spell : α → Bytes} {x y : Bytes}

theorem PrefixFree.next (free : PrefixFree p spell) {a b : α} (first : p a) (second : p b)
    (same : spell a ++ x = spell b ++ y) : a = b ∧ x = y := free a b x y first second same

theorem PrefixFree.inj (free : PrefixFree p spell) {a b : α} (first : p a) (second : p b)
    (same : spell a = spell b) : a = b := by
  have padded : spell a ++ [] = spell b ++ [] := by rw [same]
  exact (free.next first second padded).1

theorem prefixFree_uint (width : Nat) : PrefixFree (fun n => n < 256 ^ width) (beBytes width) := by
  intro a b x y first second same
  obtain ⟨front, rest⟩ := List.append_inj same (by rw [beBytes_length, beBytes_length])
  refine ⟨?_, rest⟩
  rw [← beNat_beBytes first, ← beNat_beBytes second, front]

theorem prefixFree_bits {width : Nat} (size : Nat) (same : width = 8 * size) :
    PrefixFree (fun _ : BitVec width => True) fun bits => beBytes size bits.toNat := by
  intro a b x y _ _ spelled
  have bound : ∀ bits : BitVec width, bits.toNat < 256 ^ size := by
    intro bits
    have total : 2 ^ width = 256 ^ size := by
      rw [same, pow_mul]
      norm_num
    rw [← total]
    exact bits.isLt
  obtain ⟨number, rest⟩ := (prefixFree_uint size).next (bound a) (bound b) spelled
  exact ⟨BitVec.eq_of_toNat_eq number, rest⟩

theorem prefixFree_sized (width : Nat) : PrefixFree (fun bytes : Bytes => bytes.length < 256 ^ width)
    fun bytes => beBytes width bytes.length ++ bytes := by
  intro a b x y first second same
  rw [List.append_assoc, List.append_assoc] at same
  obtain ⟨sized, rest⟩ := (prefixFree_uint width).next first second same
  exact List.append_inj rest sized

theorem items_free (free : PrefixFree p spell) {as bs : List α}
    (sized : as.length = bs.length) (first : ∀ a ∈ as, p a) (second : ∀ b ∈ bs, p b)
    (same : as.flatMap spell ++ x = bs.flatMap spell ++ y) : as = bs ∧ x = y := by
  induction as generalizing bs with
  | nil =>
    rw [List.eq_nil_of_length_eq_zero sized.symm] at same ⊢
    exact ⟨rfl, same⟩
  | cons a as ih =>
    cases bs with
    | nil => cases sized
    | cons b bs =>
      rw [List.flatMap_cons, List.flatMap_cons, List.append_assoc, List.append_assoc] at same
      obtain ⟨here, rest⟩ := free.next (first a (by simp)) (second b (by simp)) same
      obtain ⟨tails, after⟩ := ih (by simpa using sized) (fun a member => first a (by simp [member]))
        (fun b member => second b (by simp [member])) rest
      exact ⟨by rw [here, tails], after⟩

theorem PrefixFree.counted (free : PrefixFree p spell) (width : Nat) :
    PrefixFree (fun items : List α => items.length < 256 ^ width ∧ ∀ item ∈ items, p item)
      fun items => beBytes width items.length ++ items.flatMap spell := by
  rintro as bs x y ⟨few, first⟩ ⟨few', second⟩ same
  rw [List.append_assoc, List.append_assoc] at same
  obtain ⟨sized, rest⟩ := (prefixFree_uint width).next few few' same
  exact items_free free sized first second rest

end Mandate.Lib.Prefix

/-! Writers whose bytes end by themselves: whatever follows, where two of them begin one byte string
they wrote the same bytes, and from the same value. -/
namespace Mandate.Lib.Delimited
open Lib.Wire

/-- Two writers that begin one byte string wrote the same, and `alike` holds. -/
def Pins (alike : Prop) (first second : Writer) : Prop :=
  ∀ p q r r', first = some p → second = some q → p ++ r = q ++ r' → p = q ∧ alike

variable {alike further : Prop} {first second : Writer}

theorem Pins.imp (pins : Pins alike first second) (implies : alike → further) : Pins further first second :=
  fun p q r r' written written' same => (pins p q r r' written written' same).imp id implies

theorem Pins.own (writer : Writer) : Pins True writer writer := by
  intro p q r r' written written' _
  exact ⟨Option.some.inj (written.symm.trans written'), trivial⟩

theorem Pins.of_frames {ε α : Type} {read : Reader ε α} {a b : α} {m n : Nat} (frames : Frames first read a m)
    (frames' : Frames second read b n) : Pins (a = b) first second := by
  intro p q r r' written written' same
  have reads := (frames p written).2 0 r
  have reads' := (frames' q written').2 0 r'
  rw [same, reads'] at reads
  simp only [Except.ok.injEq, Prod.mk.injEq, Cursor.mk.injEq, Nat.zero_add] at reads
  obtain ⟨value, _, rest, _⟩ := reads
  rw [rest] at same
  exact ⟨List.append_cancel_right same, value.symm⟩

theorem Pins.raw {p q : Bytes} (width : p.length = q.length) : Pins (p = q) (Writer.raw p) (Writer.raw q) := by
  intro a b r r' written written' same
  cases written
  cases written'
  exact ⟨(List.append_inj same width).1, (List.append_inj same width).1⟩

variable {rest rest' : Writer}

theorem Pins.append (pins : Pins alike first second)
    (then' : alike → Pins further rest rest') : Pins (alike ∧ further) (first ++ rest) (second ++ rest') := by
  intro p q r r' written written' same
  obtain ⟨p, p', one, two, rfl⟩ := Writer.append_some.mp written
  obtain ⟨q, q', one', two', rfl⟩ := Writer.append_some.mp written'
  rw [List.append_assoc, List.append_assoc] at same
  obtain ⟨rfl, holds⟩ := pins p q _ _ one one' same
  obtain ⟨rfl, holds'⟩ := then' holds p' q' r r' two two' (List.append_cancel_left same)
  exact ⟨rfl, holds, holds'⟩

theorem Pins.each {α : Type} {write : α → Writer} (one : ∀ a b, Pins (a = b) (write a) (write b)) {items others : List α}
    (count : items.length = others.length) :
    Pins (items = others) (Writer.each write items) (Writer.each write others) := by
  induction items generalizing others with
  | nil =>
    rw [List.length_eq_zero_iff.mp count.symm]
    exact (Pins.raw rfl).imp fun _ => rfl
  | cons item items ih =>
    cases others with
    | nil => cases count
    | cons other others =>
      refine ((one item other).append fun _ => ih (Nat.succ.inj count)).imp ?_
      rintro ⟨rfl, rfl⟩
      rfl

variable {bytes : Bytes}

theorem Pins.next (pins : Pins alike first second)
    (written : first ++ rest = some bytes) (written' : second ++ rest' = some bytes) :
    alike ∧ ∃ left, rest = some left ∧ rest' = some left := by
  obtain ⟨p, p', one, two, same⟩ := Writer.append_some.mp written
  obtain ⟨q, q', one', two', same'⟩ := Writer.append_some.mp written'
  have whole : p ++ p' = q ++ q' := same.symm.trans same'
  obtain ⟨rfl, holds⟩ := pins p q p' q' one one' whole
  obtain rfl := List.append_cancel_left whole
  exact ⟨holds, p', two, two'⟩

theorem Pins.same (pins : Pins alike first second) (written : first = some bytes)
    (written' : second = some bytes) : alike :=
  (pins bytes bytes [] [] written written' rfl).2

end Mandate.Lib.Delimited
