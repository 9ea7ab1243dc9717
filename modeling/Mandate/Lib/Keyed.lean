import Mathlib.Data.List.Sort
import Mathlib.Data.List.Induction

/-! Entries told apart by a key: what is found under a key, and how the entries are ordered, do not
depend on the order they came in. -/
namespace Mandate.Lib.Keyed
open List

variable {α κ : Type} {key : α → κ} {items items' : List α}

def Apart (key : α → κ) (items : List α) : Prop := ∀ a ∈ items, ∀ b ∈ items, key a = key b → a = b

theorem apart_of_nodup (distinct : (items.map key).Nodup) : Apart key items := fun _ here _ there same =>
  inj_on_of_nodup_map distinct here there same

theorem Apart.mono (apart : Apart key items) (inside : ∀ a ∈ items', a ∈ items) : Apart key items' :=
  fun a here b there same => apart a (inside a here) b (inside b there) same

theorem map_inj (apart : ∀ a ∈ items, ∀ b ∈ items', key a = key b → a = b)
    (same : items.map key = items'.map key) : items = items' := by
  induction items generalizing items' with
  | nil => exact (map_eq_nil_iff.mp same.symm).symm
  | cons a rest ih =>
    cases items' with
    | nil => cases same
    | cons b rest' =>
      obtain ⟨head, tail⟩ := List.cons.inj same
      rw [apart a mem_cons_self b mem_cons_self head,
        ih (fun c here d there => apart c (mem_cons_of_mem _ here) d (mem_cons_of_mem _ there)) tail]

theorem find?_apart [DecidableEq κ] (apart : Apart key items) (same : ∀ a, a ∈ items ↔ a ∈ items') (k : κ) :
    (items.find? fun a => key a == k) = items'.find? fun a => key a == k := by
  cases found : items.find? fun a => key a == k with
  | none =>
    symm
    rw [find?_eq_none] at found ⊢
    exact fun a listed => found a ((same a).mpr listed)
  | some a =>
    have listed := (same a).mp (mem_of_find?_eq_some found)
    have here : key a = k := by simpa using find?_some found
    cases other : items'.find? fun a => key a == k with
    | none =>
      rw [find?_eq_none] at other
      exact absurd (beq_iff_eq.mpr here) (other a listed)
    | some b =>
      have there : key b = k := by simpa using find?_some other
      exact congrArg some (apart a (mem_of_find?_eq_some found) b
        ((same b).mpr (mem_of_find?_eq_some other)) (here.trans there.symm))

theorem eq_of_perm (perm : items.Perm items') (same : items.map key = items'.map key)
    (distinct : (items.map key).Nodup) : items = items' := by
  induction items generalizing items' with
  | nil => exact (nil_perm.mp perm).symm
  | cons a rest ih =>
    cases items' with
    | nil => cases same
    | cons b rest' =>
      obtain ⟨head, tail⟩ := List.cons.inj same
      have listed : b ∈ a :: rest := perm.mem_iff.mpr mem_cons_self
      obtain rfl := apart_of_nodup distinct a mem_cons_self b listed head
      rw [ih (perm_cons a |>.mp perm) tail (nodup_cons.mp distinct).2]

theorem insertionSort_perm {le : α → α → Prop} [DecidableRel le] [Std.Total le] [IsTrans α le]
    (perm : items.Perm items') (apart : ∀ a ∈ items, ∀ b ∈ items, le a b → le b a → a = b) :
    items.insertionSort le = items'.insertionSort le := by
  have sorted := pairwise_insertionSort le items
  have sorted' := pairwise_insertionSort le items'
  have same := (perm_insertionSort le items).trans (perm.trans (perm_insertionSort le items').symm)
  refine List.Perm.eq_of_pairwise ?_ sorted sorted' same
  intro a b here there below above
  exact apart a ((mem_insertionSort le).mp here) b (perm.mem_iff.mpr ((mem_insertionSort le).mp there)) below
    above

theorem forall₂_of_keys {R : α → α → Prop} (related : ∀ a ∈ items, ∀ b ∈ items', key a = key b → R a b)
    (same : items.map key = items'.map key) : List.Forall₂ R items items' := by
  induction items generalizing items' with
  | nil =>
    rw [map_eq_nil_iff.mp same.symm]
    exact .nil
  | cons a rest ih =>
    cases items' with
    | nil => cases same
    | cons b rest' =>
      obtain ⟨head, tail⟩ := List.cons.inj same
      refine .cons (related a mem_cons_self b mem_cons_self head) (ih (fun c here d there => ?_) tail)
      exact related c (mem_cons_of_mem _ here) d (mem_cons_of_mem _ there)

section Gather
variable [DecidableEq κ] (key) (join : α → α → Option α)

def gatherOne (merged : List α) (a : α) : Option (List α) :=
  match merged.find? fun m => key m == key a with
  | none => some (merged ++ [a])
  | some prev => (join prev a).map fun both => merged.map fun m => if key m = key a then both else m

def joined : Option α → List α → Option (Option α)
  | found, [] => some found
  | none, a :: rest => joined (some a) rest
  | some prev, a :: rest => (join prev a).bind fun both => joined (some both) rest

variable {key} {join}

theorem joined_some (a : α) (items : List α) : joined join (some a) items = (items.foldlM join a).map some := by
  induction items generalizing a with
  | nil => rfl
  | cons b rest ih =>
    rw [joined, foldlM_cons]
    cases join a b with
    | none => rfl
    | some both => exact ih both

theorem find?_other {merged : List α} {both : α} {k l : κ} (own : key both = k) (other : l ≠ k) :
    ((merged.map fun m => if key m = k then both else m).find? fun m => key m == l) =
      merged.find? fun m => key m == l := by
  induction merged with
  | nil => rfl
  | cons m rest ih =>
    rw [map_cons, find?_cons, find?_cons, ih]
    by_cases here : key m = k
    · have apart : (k == l) = false := beq_false_of_ne (Ne.symm other)
      rw [if_pos here, own, here, apart]
    · rw [if_neg here]

theorem find?_replaced {merged : List α} {both : α} {k : κ} (own : key both = k)
    (present : ∃ m ∈ merged, key m = k) :
    ((merged.map fun m => if key m = k then both else m).find? fun m => key m == k) = some both := by
  induction merged with
  | nil =>
    obtain ⟨m, listed, _⟩ := present
    cases listed
  | cons m rest ih =>
    rw [map_cons, find?_cons]
    by_cases here : key m = k
    · have found : (key both == k) = true := beq_iff_eq.mpr own
      rw [if_pos here, found]
    · have apart : (key m == k) = false := beq_false_of_ne here
      rw [if_neg here, apart]
      obtain ⟨n, listed, named⟩ := present
      rcases mem_cons.mp listed with rfl | listed
      · exact absurd named here
      · exact ih ⟨n, listed, named⟩

theorem keys_replaced {merged : List α} {both : α} {k : κ} (own : key both = k) :
    (merged.map fun m => if key m = k then both else m).map key = merged.map key := by
  rw [map_map]
  refine map_congr_left fun m _ => ?_
  rw [Function.comp_apply]
  split
  · rename_i here
    rw [own, here]
  · rfl

theorem gatherOne_some (keeps : ∀ a b c, join a b = some c → key c = key a) {merged out : List α} {a : α}
    (distinct : (merged.map key).Nodup) (gathered : gatherOne key join merged a = some out) :
    (out.map key).Nodup ∧ ∀ k, ∀ rest, joined join (out.find? fun m => key m == k) rest =
      joined join (merged.find? fun m => key m == k) (([a].filter fun m => key m == k) ++ rest) := by
  unfold gatherOne at gathered
  split at gathered
  · rename_i fresh
    obtain rfl := Option.some.inj gathered
    have unseen : ∀ m ∈ merged, key m ≠ key a := by simpa using fresh
    refine ⟨?_, fun k rest => ?_⟩
    · rw [map_append, nodup_append']
      refine ⟨distinct, nodup_singleton _, ?_⟩
      simpa [disjoint_singleton] using unseen
    · rw [find?_append]
      by_cases here : key a = k
      · subst here
        rw [fresh]
        simp [joined]
      · simp [here]
  · rename_i prev found
    obtain ⟨both, met, rfl⟩ := Option.map_eq_some_iff.mp gathered
    have named : key prev = key a := by simpa using find?_some found
    have own : key both = key a := (keeps _ _ _ met).trans named
    refine ⟨by rw [keys_replaced own]; exact distinct, fun k rest => ?_⟩
    by_cases here : k = key a
    · subst here
      rw [find?_replaced own ⟨prev, mem_of_find?_eq_some found, named⟩, found]
      simp [joined, met]
    · rw [find?_other own here]
      simp [Ne.symm here]

theorem gatherOne_none {merged : List α} {a : α} (failed : gatherOne key join merged a = none) (rest : List α) :
    joined join (merged.find? fun m => key m == key a) (([a].filter fun m => key m == key a) ++ rest) = none := by
  unfold gatherOne at failed
  split at failed
  · cases failed
  · rename_i prev found
    have unmet := Option.map_eq_none_iff.mp failed
    rw [found]
    simp [joined, unmet]

theorem gather_joined (keeps : ∀ a b c, join a b = some c → key c = key a) {items merged : List α}
    (distinct : (merged.map key).Nodup) :
    (∀ out, items.foldlM (gatherOne key join) merged = some out → (out.map key).Nodup ∧ ∀ k,
      joined join (merged.find? fun m => key m == k) (items.filter fun m => key m == k) =
        some (out.find? fun m => key m == k)) ∧ (items.foldlM (gatherOne key join) merged = none → ∃ k,
      joined join (merged.find? fun m => key m == k) (items.filter fun m => key m == k) = none) := by
  induction items generalizing merged with
  | nil =>
    refine ⟨fun out gathered => ?_, fun failed => by cases failed⟩
    obtain rfl := Option.some.inj gathered
    exact ⟨distinct, fun k => rfl⟩
  | cons a rest ih =>
    have parted : ∀ k, (a :: rest).filter (fun m => key m == k) =
        ([a].filter fun m => key m == k) ++ rest.filter fun m => key m == k := fun k => by
      rw [← filter_append, singleton_append]
    rw [foldlM_cons]
    simp only [parted]
    cases one : gatherOne key join merged a with
    | none =>
      refine ⟨fun out gathered => ?_, fun _ => ⟨key a, gatherOne_none one _⟩⟩
      cases gathered
    | some next =>
      obtain ⟨distinct', found⟩ := gatherOne_some keeps distinct one
      simp only [← found]
      exact ih distinct'

theorem gather_related {R : α → α → Prop} (keeps : ∀ a b c, join a b = some c → key c = key a)
    (groups : ∀ k, Option.Rel (Option.Rel R) (joined join none (items.filter fun m => key m == k))
      (joined join none (items'.filter fun m => key m == k))) :
    Option.Rel (fun out out' => (out.map key).Nodup ∧ (out'.map key).Nodup ∧
        ∀ k, Option.Rel R (out.find? fun m => key m == k) (out'.find? fun m => key m == k))
      (items.foldlM (gatherOne key join) []) (items'.foldlM (gatherOne key join) []) := by
  have here := @gather_joined _ _ key _ join keeps items [] nodup_nil
  have there := @gather_joined _ _ key _ join keeps items' [] nodup_nil
  simp only [find?_nil] at here there
  cases gathered : items.foldlM (gatherOne key join) [] with
  | none =>
    obtain ⟨k, failed⟩ := here.2 gathered
    have group := groups k
    rw [failed] at group
    cases gathered' : items'.foldlM (gatherOne key join) [] with
    | none => exact .none
    | some out' =>
      rw [(there.1 out' gathered').2 k] at group
      cases group
  | some out =>
    obtain ⟨distinct, found⟩ := here.1 out gathered
    cases gathered' : items'.foldlM (gatherOne key join) [] with
    | none =>
      obtain ⟨k, failed⟩ := there.2 gathered'
      have group := groups k
      rw [failed, found k] at group
      cases group
    | some out' =>
      obtain ⟨distinct', found'⟩ := there.1 out' gathered'
      refine .some ⟨distinct, distinct', fun k => ?_⟩
      have group := groups k
      rw [found k, found' k] at group
      cases group with
      | some related => exact related

end Gather

theorem find?_own [DecidableEq κ] (distinct : (items.map key).Nodup) {a : α} (listed : a ∈ items) :
    (items.find? fun m => key m == key a) = some a := by
  cases found : items.find? fun m => key m == key a with
  | none =>
    have unseen := find?_eq_none.mp found a listed
    simp at unseen
  | some b =>
    have named : key b = key a := by simpa using find?_some found
    rw [apart_of_nodup distinct b (mem_of_find?_eq_some found) a listed named]

theorem keys_of_related [DecidableEq κ] {R : α → α → Prop} {out out' : List α}
    (related : ∀ k, Option.Rel R (out.find? fun m => key m == k) (out'.find? fun m => key m == k)) {k : κ}
    (listed : k ∈ out.map key) : k ∈ out'.map key := by
  obtain ⟨a, here, named⟩ := mem_map.mp listed
  have held := related k
  cases found : out.find? fun m => key m == k with
  | none => exact absurd (beq_iff_eq.mpr named) (find?_eq_none.mp found a here)
  | some b =>
    rw [found] at held
    cases found' : out'.find? fun m => key m == k with
    | none =>
      rw [found'] at held
      cases held
    | some c =>
      have named' : key c = k := by simpa using find?_some found'
      exact mem_map.mpr ⟨c, mem_of_find?_eq_some found', named'⟩

theorem rel_flip {R : α → α → Prop} {a b : Option α} (held : Option.Rel R a b) : Option.Rel (flip R) b a := by
  cases held with
  | none => exact .none
  | some related => exact .some related

theorem sorted_related [DecidableEq κ] {le : κ → κ → Prop} [DecidableRel le] [Std.Total le] [IsTrans κ le]
    (antisymm : ∀ k l, le k l → le l k → k = l) {R : α → α → Prop} {out out' : List α} (distinct : (out.map key).Nodup)
    (distinct' : (out'.map key).Nodup)
    (related : ∀ k, Option.Rel R (out.find? fun m => key m == k) (out'.find? fun m => key m == k)) :
    List.Forall₂ R (out.insertionSort fun a b => le (key a) (key b)) (out'.insertionSort fun a b => le (key a) (key b)) := by
  have members : (out.map key).Perm (out'.map key) := (perm_ext_iff_of_nodup distinct distinct').mpr fun k =>
    ⟨keys_of_related related, keys_of_related fun k => rel_flip (related k)⟩
  have sorted : ∀ l : List α, (l.insertionSort fun a b => le (key a) (key b)).map key =
      (l.map key).insertionSort le := fun l => map_insertionSort _ _ key l fun _ _ _ _ => Iff.rfl
  refine @forall₂_of_keys _ _ key _ _ _ (fun a here b there same => ?_) ?_
  · have held := related (key a)
    rw [find?_own distinct ((mem_insertionSort _).mp here), same,
      find?_own distinct' ((mem_insertionSort _).mp there)] at held
    cases held with
    | some holds => exact holds
  · rw [sorted, sorted]
    exact insertionSort_perm members fun _ _ _ _ below above => antisymm _ _ below above

section Once
variable [DecidableEq κ] (key)

/-- Written over the entry of its key, else behind all others, as a map keeps its insertion order. -/
def put (items : List α) (x : α) : List α :=
  if items.any (fun y => key y = key x) then items.map fun y => if key y = key x then x else y else items ++ [x]

/-- One entry a key: where the first stood, the last one given. -/
def once (items : List α) : List α := items.foldl (put key) []

/-- The last entry of a key among these, else the one there was. -/
def latest (items : List α) (was : α) : α := items.foldl (fun y x => if key y = key x then x else y) was

variable {key}

theorem put_known {x : α} (known : key x ∈ items.map key) :
    put key items x = items.map fun y => if key y = key x then x else y := by
  obtain ⟨y, listed, same⟩ := mem_map.mp known
  exact if_pos (any_eq_true.mpr ⟨y, listed, decide_eq_true same⟩)

theorem put_new {x : α} (new : key x ∉ items.map key) : put key items x = items ++ [x] := by
  refine if_neg fun known => new ?_
  obtain ⟨y, listed, same⟩ := any_eq_true.mp known
  exact mem_map.mpr ⟨y, listed, of_decide_eq_true same⟩

theorem key_latest (items : List α) (was : α) : key (latest key items was) = key was := by
  induction items generalizing was with
  | nil => rfl
  | cons x items ih =>
    refine (ih _).trans ?_
    change key (if key was = key x then x else was) = key was
    split
    · rename_i same
      exact same.symm
    · rfl

/-- Entries given after others, of keys that are all known, only rewrite them. -/
theorem foldl_put_known {given : List α} (known : ∀ x ∈ given, key x ∈ items.map key) :
    given.foldl (put key) items = items.map (latest key given) := by
  induction given generalizing items with
  | nil => exact (map_id' items).symm
  | cons x given ih =>
    rw [foldl_cons, put_known (known x mem_cons_self), ih, map_map]
    · rfl
    · intro y listed
      obtain ⟨z, there, same⟩ := mem_map.mp (known y (mem_cons_of_mem _ listed))
      refine mem_map.mpr ⟨_, mem_map_of_mem there, ?_⟩
      split
      · rename_i mine
        exact mine.symm.trans same
      · exact same

/-- Entries of keys that are new, and apart from each other, are given behind the others. -/
theorem foldl_put_new {given : List α} (distinct : (given.map key).Nodup) (new : ∀ x ∈ given, key x ∉ items.map key) :
    given.foldl (put key) items = items ++ given := by
  induction given generalizing items with
  | nil => exact (append_nil items).symm
  | cons x given ih =>
    obtain ⟨apart, distinct⟩ := nodup_cons.mp distinct
    rw [foldl_cons, put_new (new x mem_cons_self), ih distinct, List.append_assoc, singleton_append]
    intro y listed inside
    rw [map_append, mem_append, map_singleton, mem_singleton] at inside
    rcases inside with known | same
    · exact new y (mem_cons_of_mem _ listed) known
    · exact apart (same ▸ mem_map_of_mem listed)

theorem once_of_nodup (distinct : (items.map key).Nodup) : once key items = items :=
  foldl_put_new distinct fun _ _ => not_mem_nil

theorem keys_put (items : List α) (x : α) :
    (put key items x).map key = if key x ∈ items.map key then items.map key else items.map key ++ [key x] := by
  split
  · rename_i known
    rw [put_known known, map_map]
    refine map_congr_left fun y _ => ?_
    change key (if key y = key x then x else y) = key y
    split
    · rename_i same
      exact same.symm
    · rfl
  · rename_i new
    rw [put_new new, map_append, map_singleton]

theorem nodup_foldl_put {given : List α} (distinct : (items.map key).Nodup) : ((given.foldl (put key) items).map key).Nodup := by
  induction given generalizing items with
  | nil => exact distinct
  | cons x given ih =>
    refine ih ?_
    rw [keys_put]
    split
    · exact distinct
    · rename_i new
      exact nodup_append.mpr ⟨distinct, nodup_singleton _, fun k here k' there => by
        rw [mem_singleton.mp there]
        exact fun same => new (same ▸ here)⟩

theorem once_nodup (items : List α) : ((once key items).map key).Nodup := nodup_foldl_put nodup_nil

theorem mem_keys_foldl_put {given : List α} {k : κ} :
    k ∈ (given.foldl (put key) items).map key ↔ k ∈ items.map key ∨ k ∈ given.map key := by
  induction given generalizing items with
  | nil => simp
  | cons x given ih =>
    rw [foldl_cons, ih, keys_put]
    split <;> simp <;> aesop

theorem mem_keys_once {k : κ} : k ∈ (once key items).map key ↔ k ∈ items.map key := by
  rw [once, mem_keys_foldl_put]
  simp

theorem latest_apart {given : List α} {was : α} (absent : key was ∉ given.map key) : latest key given was = was := by
  induction given with
  | nil => rfl
  | cons x given ih =>
    rw [map_cons, mem_cons, not_or] at absent
    refine Eq.trans ?_ (ih absent.2)
    exact congrArg (latest key given) (if_neg absent.1)

/-- The last entry of a key does not depend on the one there was. -/
theorem latest_given {given : List α} {a b : α} (same : key a = key b) (known : key a ∈ given.map key) :
    latest key given a = latest key given b := by
  induction given generalizing a b with
  | nil => cases known
  | cons x given ih =>
    change latest key given (if key a = key x then x else a) = latest key given (if key b = key x then x else b)
    by_cases mine : key a = key x
    · rw [if_pos mine, if_pos (same ▸ mine)]
    · rw [if_neg mine, if_neg (same ▸ mine)]
      rw [map_cons, mem_cons] at known
      exact ih same (known.resolve_left mine)

theorem latest_snoc (given : List α) (x was : α) : latest key (given ++ [x]) was = if key was = key x then x else latest key given was := by
  rw [latest, foldl_append, foldl_cons, foldl_nil]
  change (if key (latest key given was) = key x then x else latest key given was) = _
  rw [show key (latest key given was) = key was from key_latest given was]

theorem latest_once {y : α} (kept : y ∈ once key items) : latest key items y = y := by
  induction items using List.reverseRecOn generalizing y with
  | nil => rfl
  | append_singleton items x ih =>
    rw [latest_snoc]
    rw [once, foldl_append, foldl_cons, foldl_nil] at kept
    change y ∈ put key (once key items) x at kept
    split
    · rename_i same
      by_cases known : key x ∈ (once key items).map key
      · rw [put_known known] at kept
        obtain ⟨z, -, rfl⟩ := mem_map.mp kept
        by_cases mine : key z = key x
        · rw [if_pos mine]
        · rw [if_neg mine] at same
          exact absurd same mine
      · rw [put_new known, mem_append, mem_singleton] at kept
        rcases kept with kept | rfl
        · exact absurd (same ▸ mem_map_of_mem kept) known
        · rfl
    · rename_i other
      refine ih ?_
      by_cases known : key x ∈ (once key items).map key
      · rw [put_known known] at kept
        obtain ⟨z, there, rfl⟩ := mem_map.mp kept
        by_cases mine : key z = key x
        · rw [if_pos mine] at other
          exact absurd rfl other
        · rwa [if_neg mine]
      · rw [put_new known, mem_append, mem_singleton] at kept
        rcases kept with kept | rfl
        · exact kept
        · exact absurd rfl other

theorem foldl_put_apart {added : List α} (distinct : (added.map key).Nodup) :
    added.foldl (put key) items = items.map (latest key added) ++ added.filter fun x => key x ∉ items.map key := by
  induction added generalizing items with
  | nil => exact ((append_nil _).trans (map_id' _)).symm
  | cons x added ih =>
    obtain ⟨apart, distinct⟩ := nodup_cons.mp distinct
    rw [foldl_cons, ih distinct, keys_put]
    by_cases known : key x ∈ items.map key
    · rw [put_known known, map_map, if_pos known, filter_cons_of_neg (by simpa using known)]
      rfl
    · rw [put_new known, if_neg known, filter_cons_of_pos (by simpa using known), map_append, map_singleton,
        latest_apart apart, List.append_assoc, singleton_append]
      congr 1
      · refine map_congr_left fun y listed => (congrArg (latest key added) (if_neg fun same => ?_)).symm
        exact known (same ▸ mem_map_of_mem listed)
      · refine congrArg (x :: ·) (filter_congr fun y listed => ?_)
        have other : key y ≠ key x := fun same => apart (same ▸ mem_map_of_mem listed)
        simp [other]

/-- What is given again behind others changes none of them. -/
theorem once_around {added : List α} (distinct : (added.map key).Nodup) :
    once key (items ++ added ++ items) = once key items ++ added.filter fun x => key x ∉ items.map key := by
  have known : ∀ x, key x ∈ (once key items).map key ↔ key x ∈ items.map key := fun x => mem_keys_once
  have same : (added.filter fun x => key x ∉ (once key items).map key) = added.filter fun x => key x ∉ items.map key :=
    filter_congr fun x _ => by simp only [known]
  rw [once, foldl_append, foldl_append, ← once, foldl_put_apart distinct, foldl_put_known, map_append,
    map_map, same]
  · congr 1
    · refine (map_congr_left fun y kept => ?_).trans (map_id' _)
      have there := (known y).mp (mem_map_of_mem kept)
      have same : key (latest key added y) = key y := key_latest added y
      exact (latest_given same (same.symm ▸ there)).trans (latest_once kept)
    · refine (map_congr_left fun y new => ?_).trans (map_id' _)
      exact latest_apart (of_decide_eq_true (mem_filter.mp new).2)
  · intro x listed
    rw [map_append, map_map, mem_append]
    refine .inl ?_
    obtain ⟨y, kept, is⟩ := mem_map.mp ((known x).mpr (mem_map_of_mem listed))
    exact mem_map.mpr ⟨y, kept, (key_latest added y).trans is⟩

end Once

end Mandate.Lib.Keyed
