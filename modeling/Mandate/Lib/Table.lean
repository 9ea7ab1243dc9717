import Mathlib.Data.List.AList
import Mathlib.Algebra.Order.BigOperators.Group.List
import Mathlib.Data.List.Sort

/-! Finite maps that are only ever written to: sums over their entries, how writing one
entry changes a sum, and their keys in the order of a text. -/
namespace Mandate.Lib.Table
open List

abbrev PMap (κ ν : Type) := AList fun _ : κ => ν

variable {κ ν M : Type}

theorem mem_entries [DecidableEq κ] {table : PMap κ ν} {e : Sigma fun _ : κ => ν} :
    e ∈ table.entries ↔ table.lookup e.1 = some e.2 :=
  AList.mem_lookup_iff.symm

theorem lookup_insert_eq [DecidableEq κ] (table : PMap κ ν) (key other : κ) (value : ν) :
    (table.insert key value).lookup other = if other = key then some value else table.lookup other := by
  split
  · rename_i same
    subst same
    exact AList.lookup_insert table
  · rename_i different
    exact AList.lookup_insert_ne different

theorem length_insert [DecidableEq κ] (table : PMap κ ν) (key : κ) (value : ν) :
    (table.insert key value).keys.length = if key ∈ table then table.keys.length else table.keys.length + 1 := by
  rw [AList.keys_insert, length_cons]
  split
  · rename_i known
    have positive := length_pos_of_mem (AList.mem_keys.mp known)
    rw [length_erase_of_mem (AList.mem_keys.mp known)]
    omega
  · rename_i fresh
    rw [erase_of_not_mem (mt AList.mem_keys.mpr fresh)]

section Total
variable [AddCommMonoid M]

def total (measure : ν → M) (table : PMap κ ν) : M :=
  (table.entries.map fun entry => measure entry.2).sum

theorem total_congr [DecidableEq κ] {first second : ν → M} {table : PMap κ ν}
    (agree : ∀ key value, table.lookup key = some value → first value = second value) :
    total first table = total second table :=
  congrArg List.sum (map_congr_left fun entry member =>
    agree entry.1 entry.2 (mem_entries.mp member))

theorem total_insert_new [DecidableEq κ] {table : PMap κ ν} {key : κ} (absent : table.lookup key = none)
    (measure : ν → M) (value : ν) :
    total measure (table.insert key value) = measure value + total measure table := by
  rw [total, AList.entries_insert_of_notMem (AList.lookup_eq_none.mp absent)]
  rfl

theorem kerase_split [DecidableEq κ] {key : κ} {value : ν} {entries : List (Sigma fun _ : κ => ν)}
    (unique : entries.NodupKeys) (member : (⟨key, value⟩ : Sigma fun _ : κ => ν) ∈ entries) :
    entries.Perm (⟨key, value⟩ :: entries.kerase key) := by
  induction entries with
  | nil => cases member
  | cons head tail ih =>
    obtain ⟨fresh, rest⟩ := nodupKeys_cons.mp unique
    rcases mem_cons.mp member with rfl | later
    · have erased : List.kerase key ((⟨key, value⟩ : Sigma fun _ : κ => ν) :: tail) = tail :=
        kerase_cons_eq rfl
      rw [erased]
    · have different : key ≠ head.1 := by
        intro same
        exact fresh (same ▸ mem_keys_of_mem later)
      rw [kerase_cons_ne different]
      exact ((ih rest later).cons head).trans (List.Perm.swap _ _ _)

theorem total_insert_old [DecidableEq κ] {table : PMap κ ν} {key : κ} {old : ν}
    (present : table.lookup key = some old) (measure : ν → M) (value : ν) :
    total measure (table.insert key value) + measure old = total measure table + measure value := by
  have split := kerase_split table.nodupKeys (mem_entries (e := ⟨key, old⟩) |>.mpr present)
  have whole := (split.map fun entry => measure entry.2).sum_eq
  rw [total, total, AList.entries_insert, whole]
  simp only [map_cons, sum_cons]
  rw [add_assoc, add_comm, add_comm _ (measure old)]

theorem total_add (first second : ν → M) (table : PMap κ ν) :
    total (fun value => first value + second value) table = total first table + total second table :=
  sum_map_add

theorem map_total {N : Type} [AddCommMonoid N] (hom : M →+ N) (measure : ν → M) (table : PMap κ ν) :
    hom (total measure table) = total (fun value => hom (measure value)) table := by
  rw [total, total, map_list_sum, map_map]
  rfl

end Total

variable [DecidableEq κ]

theorem total_mono [AddCommMonoid M] [PartialOrder M] [IsOrderedAddMonoid M] {first second : ν → M}
    {table : PMap κ ν} (below : ∀ key value, table.lookup key = some value → first value ≤ second value) :
    total first table ≤ total second table :=
  sum_le_sum fun entry member => below entry.1 entry.2 (mem_entries.mp member)

variable {measure : ν → M}

theorem total_nonneg [AddCommMonoid M] [PartialOrder M] [IsOrderedAddMonoid M]
    {table : PMap κ ν} (nonneg : ∀ key value, table.lookup key = some value → 0 ≤ measure value) :
    0 ≤ total measure table := by
  refine sum_nonneg fun value member => ?_
  obtain ⟨entry, listed, rfl⟩ := mem_map.mp member
  exact nonneg entry.1 entry.2 (mem_entries.mp listed)

theorem le_total [AddCommMonoid M] [PartialOrder M] [IsOrderedAddMonoid M]
    {table : PMap κ ν} (nonneg : ∀ key value, table.lookup key = some value → 0 ≤ measure value)
    {key : κ} {value : ν} (present : table.lookup key = some value) : measure value ≤ total measure table := by
  have member : (⟨key, value⟩ : Sigma fun _ : κ => ν) ∈ table.entries := mem_entries.mpr present
  refine single_le_sum (fun amount listed => ?_) _ (mem_map_of_mem member)
  obtain ⟨entry, inside, rfl⟩ := mem_map.mp listed
  exact nonneg entry.1 entry.2 (mem_entries.mp inside)

/-- Keys by the ascending order of their text: the canonical order of an encoding. -/
def sortedKeys (text : κ → String) (table : PMap κ ν) : List κ :=
  table.keys.insertionSort fun a b => text a ≤ text b

section Index
variable {ι κ ν : Type} [DecidableEq ι] [DecidableEq κ] {key : ν → Option ι} {index : PMap ι κ}
  {table : PMap κ ν}

/-- `index` names the one record that has each key, for every key some record has. -/
def Indexes (key : ν → Option ι) (index : PMap ι κ) (table : PMap κ ν) : Prop :=
  ∀ k id, index.lookup k = some id ↔ ∃ record, table.lookup id = some record ∧ key record = some k

theorem Indexes.unique (indexes : Indexes key index table) {id other : κ} {record record' : ν} {k : ι}
    (known : table.lookup id = some record) (known' : table.lookup other = some record')
    (here : key record = some k) (here' : key record' = some k) : id = other := by
  have first := (indexes k id).mpr ⟨record, known, here⟩
  have second := (indexes k other).mpr ⟨record', known', here'⟩
  exact Option.some.inj (first.symm.trans second)

theorem Indexes.insert (indexes : Indexes key index table) {id : κ} {record : ν}
    (fresh : table.lookup id = none) (unbound : ∀ k, key record = some k → index.lookup k = none) :
    Indexes key ((key record).elim index fun k => index.insert k id) (table.insert id record) := by
  intro k other
  have bound : ((key record).elim index fun k => index.insert k id).lookup k = some other ↔
      (key record = some k ∧ other = id) ∨ index.lookup k = some other := by
    cases own : key record with
    | none => simp
    | some mine =>
      rw [Option.elim_some, lookup_insert_eq]
      by_cases same : k = mine
      · subst same
        simp [unbound k own, eq_comm]
      · simp [same, Ne.symm same]
  rw [bound, indexes k other]
  constructor
  · rintro (⟨here, rfl⟩ | ⟨found, present, here⟩)
    · exact ⟨record, AList.lookup_insert _, here⟩
    · refine ⟨found, ?_, here⟩
      rw [lookup_insert_eq, if_neg, present]
      rintro rfl
      simp [fresh] at present
  · rintro ⟨found, present, here⟩
    rw [lookup_insert_eq] at present
    split at present
    · obtain rfl := Option.some.inj present
      exact .inl ⟨here, ‹_›⟩
    · exact .inr ⟨found, present, here⟩

end Index

end Mandate.Lib.Table
