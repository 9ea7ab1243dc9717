import Mandate.Core.Pathless

/-! What a validated list holds: exactly what validating its inputs gives, wherever each stands. -/
namespace Mandate.Core
open Lib.Wire List

theorem adjacentEqual_nodup {items : List Bytes} (nodup : items.Nodup) : adjacentEqual items = false := by
  induction items with
  | nil => rfl
  | cons first rest ih =>
    obtain ⟨fresh, tail⟩ := nodup_cons.mp nodup
    cases rest with
    | nil => rfl
    | cons second rest =>
      simp only [adjacentEqual, Bool.or_eq_false_iff, ih tail, and_true, beq_eq_false_iff_ne, ne_eq]
      intro same
      have eq : first = second := @Std.LawfulEqCmp.eq_of_compare _ compare _ _ _ same
      exact fresh (eq ▸ mem_cons_self ..)

theorem canonicalSet_nodup {α : Type} {write : α → Writer} {max : Nat} {items : List α}
    (distinct : (items.map (encodeWith write)).Nodup) (bounded : items.length ≤ max) (path : String) :
    ∃ set : CanonicalSet write max, canonicalSet write items bounded path = .ok set ∧ set.members.Perm items := by
  have sorted : (sortEncoded write items).Perm items := perm_insertionSort _ items
  have apart := adjacentEqual_nodup ((sorted.map (encodeWith write)).nodup_iff.mpr distinct)
  exact ⟨_, dif_pos apart, sorted⟩
section Members
variable {ι α : Type} {validate : ι → String → CoreResult α} {path : String}

theorem validateEach_mem {inputs : List ι} {index : Nat} {out : {items : List α // items.length = inputs.length}}
    (ok : validateEach validate path inputs index = .ok out) :
    (∀ x ∈ out.1, ∃ input ∈ inputs, ∃ p, validate input p = .ok x) ∧
      ∀ input ∈ inputs, ∃ y ∈ out.1, ∃ p, validate input p = .ok y := by
  induction inputs generalizing index with
  | nil =>
    obtain ⟨items, sized⟩ := out
    obtain rfl := eq_nil_of_length_eq_zero sized
    simp
  | cons first rest ih =>
    obtain ⟨head, here, ok⟩ := except_bind_success ok
    obtain ⟨tail, later, ok⟩ := except_bind_success ok
    cases ok
    obtain ⟨back, forth⟩ := ih later
    constructor
    · intro x member
      rcases mem_cons.mp member with rfl | member
      · exact ⟨first, by simp, _, here⟩
      · obtain ⟨input, listed, p, valid⟩ := back x member
        exact ⟨input, by simp [listed], p, valid⟩
    · intro input listed
      rcases mem_cons.mp listed with rfl | listed
      · exact ⟨head, by simp, _, here⟩
      · obtain ⟨y, member, p, valid⟩ := forth input listed
        exact ⟨y, by simp [member], p, valid⟩

variable {max : Nat}

theorem validateMembers_mem {write : α → Writer} {inputs : List ι} {set : CanonicalSet write max}
    (ok : validateMembers write max validate inputs path = .ok set) :
    (∀ x ∈ set.members, ∃ input ∈ inputs, ∃ p, validate input p = .ok x) ∧
      ∀ input ∈ inputs, ∃ y ∈ set.members, ∃ p, validate input p = .ok y := by
  unfold validateMembers at ok
  split at ok
  · obtain ⟨items, each, ok⟩ := except_bind_success ok
    unfold canonicalSet at ok
    split at ok
    · cases ok
      have sorted : ∀ y, y ∈ sortEncoded write items.1 ↔ y ∈ items.1 := fun y => mem_insertionSort _
      obtain ⟨back, forth⟩ := validateEach_mem each
      refine ⟨fun x member => back x ((sorted x).mp member), fun input listed => ?_⟩
      obtain ⟨y, member, valid⟩ := forth input listed
      exact ⟨y, (sorted y).mpr member, valid⟩
    · cases ok
  · cases ok

theorem validateMembers_subset {write : α → Writer} {inputs others : List ι} {path' : String}
    {set wide : CanonicalSet write max} (pathless : Pathless validate) (sub : inputs ⊆ others)
    (ok : validateMembers write max validate inputs path = .ok set)
    (wider : validateMembers write max validate others path' = .ok wide) : set.members ⊆ wide.members := by
  intro x member
  obtain ⟨input, listed, p, valid⟩ := (validateMembers_mem ok).1 x member
  obtain ⟨y, there, p', same⟩ := (validateMembers_mem wider).2 input (sub listed)
  have agreed := (pathless input p p').ok valid
  rw [agreed] at same
  cases same
  exact there

end Members

variable {path : String}

theorem validateResourceIn_ok {input : ResourceIdInput} {allowed : List ResourceKind}
    {r : ResourceOf allowed} (ok : validateResourceIn allowed input path = .ok r) :
    r.1.domain.1 = input.domain ∧ r.1.kind = input.kind ∧ r.1.localId.1 = input.localId := by
  obtain ⟨domain, parsed, ok⟩ := except_bind_success ok
  split at ok
  · obtain ⟨localId, named, ok⟩ := except_bind_success ok
    cases ok
    exact ⟨parseIdentifierAs_ok.mp parsed, rfl, parseIdentifierAs_ok.mp named⟩
  · cases ok

theorem validateQuantityBound_ok {kind : QuantityKind} {unit : String} {decimals : Nat} {atoms : Int}
    {bound : QuantityBound} (ok : validateQuantityBound ⟨kind, unit, .integer decimals, .bigint atoms⟩ path = .ok bound) :
    bound.kind = kind ∧ bound.unit.1 = unit ∧ bound.decimals.1 = decimals ∧ bound.atoms.1 = atoms := by
  simp only [validateQuantityBound, parseInteger, except_bind_ok, guard_ok, unless_ok] at ok
  obtain ⟨spelled, united, _, scale, scaled, _, whole, _, _, same⟩ := ok
  cases whole
  cases same
  exact ⟨rfl, parseUnitCode_ok united, parseDecimals_ok scaled, rfl⟩

theorem validateDimensionTerm_ok {input : LedgerDimensionInput} {t : LedgerDimensionTerm}
    (ok : validateDimensionTerm input path = .ok t) :
    t.dimensionId.1 = input.dimensionId ∧ (∃ p, validateQuantityBound input.limit p = .ok t.limit) ∧
      t.accounting = input.accounting ∧ t.restoration = input.restoration ∧
      (∃ p e, validateEpochOf input.restoration input.epoch p = .ok e ∧ t.epoch = e.1) ∧ t.sign = input.sign ∧
      ∃ p, validateScope input.scope p = .ok t.scope := by
  simp only [validateDimensionTerm, except_bind_ok, guard_ok] at ok
  obtain ⟨id, named, limit, bounded, _, _, epoch, epochal, _, scope, placed, same⟩ := ok
  cases same
  exact ⟨parseIdentifierAs_ok.mp named, ⟨_, bounded⟩, rfl, rfl, ⟨_, _, epochal, rfl⟩, rfl, _, placed⟩

section Terms
variable {admits : AuthorityTerm → Bool} {validate : TermValidator admits} {path : String}
  {inputs : List AuthorityTermInput}

theorem validateTerms_mem {index : Nat} {seen : List TermKey}
    {out : KeyedTerms admits inputs.length seen} (ok : validateTerms validate path inputs index seen = .ok out) :
    (∀ t ∈ out.items, ∃ input ∈ inputs, ∃ p, (validate input p).map (·.1) = .ok t) ∧
      ∀ input ∈ inputs, ∃ t ∈ out.items, ∃ p, (validate input p).map (·.1) = .ok t := by
  induction inputs generalizing index seen with
  | nil =>
    obtain ⟨items, sized, distinct, fresh, admitted⟩ := out
    obtain rfl := eq_nil_of_length_eq_zero sized
    simp
  | cons first rest ih =>
    obtain ⟨head, here, ok⟩ := except_bind_success ok
    split at ok
    · obtain ⟨tail, later, ok⟩ := except_bind_success ok
      cases ok
      obtain ⟨back, forth⟩ := ih later
      have own : (validate first (atIndex path index)).map (·.1) = .ok head.1 := by
        rw [here]
        rfl
      constructor
      · intro t member
        rcases mem_cons.mp member with rfl | member
        · exact ⟨first, by simp, _, own⟩
        · obtain ⟨input, listed, p, valid⟩ := back t member
          exact ⟨input, by simp [listed], p, valid⟩
      · intro input listed
        rcases mem_cons.mp listed with rfl | listed
        · exact ⟨head.1, mem_cons_self, _, own⟩
        · obtain ⟨t, member, p, valid⟩ := forth input listed
          exact ⟨t, mem_cons_of_mem _ member, p, valid⟩
    · cases ok

theorem validateTermList_mem {max : Nat} {list : TermList max admits}
    (ok : validateTermList validate inputs path = .ok list) :
    (∀ t ∈ list.items, ∃ input ∈ inputs, ∃ p, (validate input p).map (·.1) = .ok t) ∧
      ∀ input ∈ inputs, ∃ t ∈ list.items, ∃ p, (validate input p).map (·.1) = .ok t := by
  unfold validateTermList at ok
  split at ok
  · obtain ⟨terms, each, ok⟩ := except_bind_success ok
    cases ok
    have sorted : ∀ t, t ∈ sortEncoded writeTerm terms.items ↔ t ∈ terms.items := fun t => mem_insertionSort _
    obtain ⟨back, forth⟩ := validateTerms_mem each
    refine ⟨fun t member => back t ((sorted t).mp member), fun input listed => ?_⟩
    obtain ⟨t, member, valid⟩ := forth input listed
    exact ⟨t, (sorted t).mpr member, valid⟩
  · cases ok

end Terms

variable {input : AuthorityGrantInput} {g : AuthorityGrant}

theorem validateAuthorityGrant_terms (ok : validateAuthorityGrant input path = .ok g) :
    (∀ t ∈ g.terms.items, ∃ i ∈ input.terms, ∃ p, validateTerm i p = .ok t) ∧
      ∀ i ∈ input.terms, ∃ t ∈ g.terms.items, ∃ p, validateTerm i p = .ok t := by
  have plain : ∀ {i p t}, (validateGrantTerm i p).map (·.1) = .ok t → validateTerm i p = .ok t := by
    intro i p t valid
    unfold validateGrantTerm at valid
    cases validated : validateTerm i p with
    | error _ =>
      rw [validated] at valid
      cases valid
    | ok t' =>
      rw [validated] at valid
      cases valid
      rfl
  obtain ⟨lineage, _, ok⟩ := except_bind_success ok
  obtain ⟨principal, _, ok⟩ := except_bind_success ok
  split at ok
  · obtain ⟨holder, _, ok⟩ := except_bind_success ok
    obtain ⟨window, _, ok⟩ := except_bind_success ok
    obtain ⟨terms, listed, ok⟩ := except_bind_success ok
    obtain ⟨nonce, _, ok⟩ := except_bind_success ok
    cases ok
    obtain ⟨back, forth⟩ := validateTermList_mem listed
    constructor
    · intro t member
      obtain ⟨i, given, p, valid⟩ := back t member
      exact ⟨i, given, p, plain valid⟩
    · intro i given
      obtain ⟨t, member, p, valid⟩ := forth i given
      exact ⟨t, member, p, plain valid⟩
  · cases ok

theorem validateAuthorityGrant_window
    (ok : validateAuthorityGrant input path = .ok g) {notBefore expiresAt : Int}
    (starts : input.notBefore = .bigint notBefore) (ends : input.expiresAt = .bigint expiresAt) :
    g.window.notBefore.1 = notBefore ∧ g.window.expiresAt.1 = expiresAt := by
  obtain ⟨lineage, _, ok⟩ := except_bind_success ok
  obtain ⟨principal, _, ok⟩ := except_bind_success ok
  split at ok
  · obtain ⟨holder, _, ok⟩ := except_bind_success ok
    obtain ⟨window, windowed, ok⟩ := except_bind_success ok
    obtain ⟨terms, _, ok⟩ := except_bind_success ok
    obtain ⟨nonce, _, ok⟩ := except_bind_success ok
    cases ok
    rw [starts, ends] at windowed
    obtain ⟨⟨_, first⟩, ⟨_, last⟩⟩ := validateWindow_ok windowed
    exact ⟨parseIntegerInRange_ok first, parseIntegerInRange_ok last⟩
  · cases ok

section Keys

variable {a b : Bytes}

theorem compare_append_lt {x y : Bytes} (below : compare a b = .lt) (apart : ¬ a <+: b) :
    compare (a ++ x) (b ++ y) = .lt := by
  induction a generalizing b with
  | nil => exact absurd nil_prefix apart
  | cons byte a ih =>
    cases b with
    | nil => simp [List.compare_cons_nil] at below
    | cons byte' b =>
      rw [cons_append, cons_append, List.compare_cons_cons]
      rw [List.compare_cons_cons] at below
      cases first : compare byte byte' with
      | lt => rfl
      | gt => simp [first] at below
      | eq =>
        rw [first] at below
        have same : byte = byte' := Std.LawfulEqCmp.eq_of_compare first
        have apart' : ¬ a <+: b := fun inside => apart (by rw [same]; exact cons_prefix_cons.mpr ⟨rfl, inside⟩)
        exact ih (by simpa using below) apart'

theorem Reads.prefix_eq {α : Type} {read : CoreReader α} {u v : α} (first : Reads read a u)
    (second : Reads read b v) (inside : a <+: b) : a = b := by
  obtain ⟨rest, rfl⟩ := inside
  have short := first 0 rest
  have long := second 0 []
  rw [append_nil, short] at long
  simp only [Except.ok.injEq, Prod.mk.injEq, Lib.Wire.Cursor.mk.injEq] at long
  rw [long.2.2.1, append_nil]

/-- A writer whose entries begin with a key that its reader takes whole. -/
structure Keyed {α κ : Type} (write key : α → Writer) (readKey : CoreReader κ) : Prop where
  begins : ∀ item, ∃ rest, write item = key item ++ rest ∧ rest.Total
  total : ∀ item, (key item).Total
  framed : ∀ item bytes, key item = some bytes → ∃ value, Reads readKey bytes value

namespace Keyed
variable {α κ : Type} {write key : α → Writer} {readKey : CoreReader κ}

private theorem parts (keyed : Keyed write key readKey) (item : α) : ∃ front rest,
    key item = some front ∧ write item = some (front ++ rest) ∧ ∃ value, Reads readKey front value := by
  obtain ⟨after, split, rest, rfl⟩ := keyed.begins item
  obtain ⟨front, here⟩ := keyed.total item
  refine ⟨front, rest, here, ?_, keyed.framed item front here⟩
  rw [split, here]
  rfl

theorem lifts (keyed : Keyed write key readKey) {a b : α}
    (below : compareBytes (encodeWith key a) (encodeWith key b) = .lt) :
    compareBytes (encodeWith write a) (encodeWith write b) = .lt := by
  obtain ⟨front, rest, here, whole, _, reads⟩ := keyed.parts a
  obtain ⟨front', rest', here', whole', _, reads'⟩ := keyed.parts b
  simp only [encodeWith, here, here', whole, whole', Option.getD_some, compareBytes] at below ⊢
  refine compare_append_lt below fun inside => ?_
  rw [Reads.prefix_eq reads reads' inside] at below
  simp at below

theorem ascending (keyed : Keyed write key readKey) {items : List α} (sorted : Ascending key items) :
    Ascending write items := sorted.imp keyed.lifts

theorem keys_ascending (keyed : Keyed write key readKey) {items : List α} (sorted : Ascending write items)
    (apart : items.Pairwise fun a b => encodeWith key a ≠ encodeWith key b) : Ascending key items := by
  refine (sorted.and apart).imp ?_
  rintro a b ⟨below, different⟩
  cases order : compareBytes (encodeWith key a) (encodeWith key b) with
  | lt => rfl
  | eq => exact absurd (@Std.LawfulEqCmp.eq_of_compare _ compare _ _ _ order) different
  | gt =>
    have above : compareBytes (encodeWith key b) (encodeWith key a) = .lt := by
      unfold compareBytes at order ⊢
      rw [@Std.OrientedCmp.eq_swap _ compare, order]
      rfl
    have twice := keyed.lifts above
    unfold compareBytes at below twice
    rw [@Std.OrientedCmp.eq_swap _ compare, below] at twice
    cases twice

variable {max : Nat} {path : String} {set : CanonicalSet key max}

theorem sorted_apart {items : List α} {bounded : items.length ≤ max} (valid : canonicalSet key items bounded path = .ok set) :
    items.Pairwise fun a b => encodeWith key a ≠ encodeWith key b := by
  have sorted := canonicalSet_ok valid
  have strict : (sortEncoded key items).Pairwise fun a b => encodeWith key a ≠ encodeWith key b := by
    rw [← sorted]
    refine set.ascending.imp fun {a b} below same => ?_
    rw [same] at below
    simp [compareBytes] at below
  exact ((perm_insertionSort _ items).pairwise_iff fun {_ _} different => different.symm).mp strict

theorem written_set {ι : Type} {p : Spelling ι} {value : ι → α → Prop} {header body : Bytes} {inputs : List ι}
    {items : List α} {bounded : items.length ≤ max} (keyed : Keyed write key readKey)
    (each : ∀ used input item, p used input → value input item → write item = some used)
    (counted : writeU16 inputs.length = some header) (listed : Listed (Follows true) p none body inputs)
    (valued : List.Forall₂ value inputs items) (valid : canonicalSet key items bounded path = .ok set) :
    writeList write set.members = some (header ++ body) := by
  have entries := (ascending_of_listed each listed valued).1
  have kept := sortEncoded_ascending (keyed.keys_ascending entries (sorted_apart valid))
  rw [canonicalSet_ok valid, kept, writeList, ← valued.length_eq]
  exact written_append counted (listed.written each valued)

theorem spells_set {ι : Type} {read : CoreReader ι} {validate : ι → String → CoreResult α} (max : Nat)
    (keyed : Keyed write key readKey) (spells : Spells read validate write) :
    Spells (readList max read true) (validateMembers key max validate) fun set => writeList write set.members := by
  refine (consumes_list max spells true).mono ?_
  rintro _ inputs ⟨header, body, rfl, counted, listed⟩ path set valid
  simp only [validateMembers, guard_ok, except_bind_ok] at valid
  obtain ⟨_, items, validated, canonical⟩ := valid
  refine keyed.written_set ?_ counted listed (validateEach_ok validated) canonical
  rintro used input item spelled ⟨path, here⟩
  exact spelled path item here

theorem frames_set {β : Type} {read : CoreReader β} {v : α → β} {n : Nat}
    (keyed : Keyed write key readKey) (set : CanonicalSet key max)
    (each : ∀ item, Frames (write item) read (v item) n) :
    Frames (writeList write set.members) (readList max read true) (set.members.map v) (2 + max * n) := by
  refine (Core.frames_set (n := fun _ => n) set.bounded (fun item _ => each item)
    (keyed.ascending set.ascending)).mono ?_
  have bounded := Nat.mul_le_mul_right n set.bounded
  simp only [map_const', sum_replicate_nat]
  omega

@[simp] theorem total_set (short : max < 65536) (set : CanonicalSet key max)
    (each : ∀ item, (write item).Total) : (writeList write set.members).Total :=
  total_list (set.bounded.trans_lt short) fun item _ => each item

end Keyed

end Keys

end Mandate.Core
