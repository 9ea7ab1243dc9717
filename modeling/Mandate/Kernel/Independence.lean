import Mandate.Kernel.Totality
import Mandate.Lib.Keyed

/-! No check reads what another found: whatever list is made of the same checks, however often and in
whatever order, the receipt is the same. A violation's key tells all of it, so that keeping one for
each key keeps them all. -/
namespace Mandate.Kernel
open Core Lib.Text Lib.Keyed Lib.Lines List

section Order

theorem mem_kept {violations : List Violation} (apart : Apart violationKey violations) (v : Violation) :
    v ∈ violations.foldl kept [] ↔ v ∈ violations := by
  have inside : ∀ w ∈ violations.foldl kept [], w ∈ violations := fun w member =>
    (fold_mem member).resolve_left not_mem_nil
  refine ⟨inside v, fun listed => ?_⟩
  have keys := (@fold_keys violations [] nodup_nil).2
  rw [map_nil, toFinset_nil, Finset.empty_union] at keys
  have key : violationKey v ∈ ((violations.foldl kept []).map violationKey).toFinset := by
    rw [keys, mem_toFinset]
    exact mem_map_of_mem listed
  obtain ⟨w, member, same⟩ := mem_map.mp (mem_toFinset.mp key)
  exact apart w (inside w member) v listed same ▸ member

instance : Std.Total fun a b : Violation => (compare (violationKey a) (violationKey b)).isLE = true where
  total a b := by
    rw [@Std.OrientedCmp.eq_swap _ compare _ (violationKey b)]
    cases compare (violationKey a) (violationKey b) <;> simp

instance : IsTrans Violation fun a b => (compare (violationKey a) (violationKey b)).isLE = true where
  trans _ _ _ first second := @Std.TransCmp.isLE_trans _ compare _ _ _ _ first second

theorem canonicalize_congr {first second : List Violation} (same : ∀ v, v ∈ first ↔ v ∈ second)
    (apart : Apart violationKey first) : canonicalize first = canonicalize second := by
  have apart' : Apart violationKey second := apart.mono fun v => (same v).mpr
  have distinct : ∀ violations : List Violation, (violations.foldl kept []).Nodup := fun violations =>
    (@fold_keys violations [] nodup_nil).1.of_map _
  have perm : (first.foldl kept []).Perm (second.foldl kept []) := by
    rw [perm_ext_iff_of_nodup (distinct first) (distinct second)]
    intro v
    rw [mem_kept apart, mem_kept apart', same]
  refine insertionSort_perm perm fun a here b there below above => ?_
  have keys : violationKey a = violationKey b := by
    simpa using @Std.OrientedCmp.isLE_antisymm _ compare _ _ _ below above
  exact apart a ((mem_kept apart a).mp here) b ((mem_kept apart b).mp there) keys

end Order

section Keys

theorem id_spellings :
    ((List.range 51).map fun n => (ReasonCode.ofNat n).id.toByteArray.data.toList.map UInt8.toNat).Nodup := by
  decide +kernel

theorem ReasonCode.id_inj {c d : ReasonCode} (same : c.id = d.id) : c = d := by
  have bound : ∀ e : ReasonCode, e.ctorIdx ∈ List.range 51 := by
    intro e
    cases e <;> decide
  have apart := apart_of_nodup id_spellings _ (bound c) _ (bound d)
  rw [ReasonCode.ofNat_ctorIdx, ReasonCode.ofNat_ctorIdx, same] at apart
  rw [← ReasonCode.ofNat_ctorIdx c, apart rfl, ReasonCode.ofNat_ctorIdx]

theorem key_letters : ∀ keys ∈ DETAIL_KEYS, keys.Nodup ∧ ∀ key ∈ keys, '\x00' ∉ key.toList ∧ '=' ∉ key.toList := by
  decide +kernel

theorem shapes_apart : ∀ keys ∈ DETAIL_KEYS, ∀ others ∈ DETAIL_KEYS, keys.Perm others → keys = others := by
  decide +kernel

private def spelled (entry : String × String) : String := entry.1 ++ "=" ++ entry.2

variable {entry : String × String}

theorem spelled_solid (key : '\x00' ∉ entry.1.toList) (value : clear entry.2 = true) :
    (spelled entry).toList ≠ [] ∧ '\x00' ∉ (spelled entry).toList := by
  have zero := clear_zero value
  simp [spelled, key, zero]

theorem spelled_inj {other : String × String} (key : '=' ∉ entry.1.toList) (key' : '=' ∉ other.1.toList)
    (same : spelled entry = spelled other) : entry = other := by
  have texts := congrArg String.toList same
  simp only [spelled, String.toList_append, List.append_assoc] at texts
  obtain ⟨keys, values⟩ := split_inj key key' texts
  exact Prod.ext (String.toList_inj.mp keys) (String.toList_inj.mp values)

variable {v w : Violation}

theorem key_parts (same : violationKey v = violationKey w) : v.code.id = w.code.id ∧
    (String.singleton '\x00').intercalate ((sortedDetail v.detail).map spelled) =
      (String.singleton '\x00').intercalate ((sortedDetail w.detail).map spelled) := by
  have texts := congrArg String.toList same
  simp only [violationKey, String.toList_append, List.append_assoc] at texts
  obtain ⟨ids, rest⟩ := split_inj (id_zero v.code) (id_zero w.code) texts
  exact ⟨String.toList_inj.mp ids, String.toList_inj.mp rest⟩

private theorem sorted_perm (detail : List (String × String)) : (sortedDetail detail).Perm detail :=
  perm_insertionSort ..

theorem spelled_parts {detail : List (String × String)} (shape : detail.map (·.1) ∈ DETAIL_KEYS)
    (values : ∀ entry ∈ detail, clear entry.2 = true) :
    ∀ piece ∈ (sortedDetail detail).map spelled, piece.toList ≠ [] ∧ '\x00' ∉ piece.toList := by
  intro piece listed
  obtain ⟨entry, member, rfl⟩ := mem_map.mp listed
  have here := (sorted_perm detail).mem_iff.mp member
  exact spelled_solid ((key_letters _ shape).2 _ (mem_map_of_mem here)).1 (values entry here)

theorem key_inj {given given' : ReasonCode → Bool} {first second : List Violation} (legible : Legible given first)
    (legible' : Legible given' second) (here : v ∈ first) (there : w ∈ second)
    (same : violationKey v = violationKey w) : v = w := by
  obtain ⟨_, shape, values⟩ := legible v here
  obtain ⟨_, shape', values'⟩ := legible' w there
  obtain ⟨ids, details⟩ := key_parts same
  have pieces := joined_inj (spelled_parts shape values) (spelled_parts shape' values') details
  have apart : ∀ entry ∈ sortedDetail v.detail, ∀ other ∈ sortedDetail w.detail, spelled entry = spelled other →
      entry = other := by
    intro entry member other member'
    have key := (key_letters _ shape).2 _ (mem_map_of_mem ((sorted_perm _).mem_iff.mp member))
    have key' := (key_letters _ shape').2 _ (mem_map_of_mem ((sorted_perm _).mem_iff.mp member'))
    exact spelled_inj key.2 key'.2
  have sorted : sortedDetail v.detail = sortedDetail w.detail := map_inj apart pieces
  have perm : v.detail.Perm w.detail := (sorted_perm _).symm.trans (sorted ▸ sorted_perm w.detail)
  have keys := shapes_apart _ shape _ shape' (perm.map (·.1))
  have detail := eq_of_perm perm keys (key_letters _ shape).1
  cases v
  cases w
  exact congrArg₂ _ (ReasonCode.id_inj ids) detail

end Keys

namespace Plain
variable [Keccak]

def contextOf (request : Plain) : Option CheckContext :=
  let r := requestFields request
  match parseMandate (field r "mandate"), parseAuthorizationEnvelope (field r "authorization"),
    parseCandidate (field r "candidate"), parseTrustedState (field r "trustedState"), parseClock (field r "clock"),
    parseEip712Domain (field r "expectedDomain") with
  | .ok mandate, .ok authorization, .ok candidate, .ok state, .ok now, .ok expectedDomain =>
    some ⟨mandate, authorization, candidate, state, now, expectedDomain, Kernel.mandateDigest mandate,
      Kernel.trustedStateDigest state⟩
  | _, _, _, _, _, _ => none

def parseViolations (request : Plain) : List Violation :=
  let r := requestFields request
  let mandate := parseMandate (field r "mandate")
  let candidate := parseCandidate (field r "candidate")
  let state := parseTrustedState (field r "trustedState")
  collect mandate "mandate" ++ collect (parseAuthorizationEnvelope (field r "authorization")) "authorization" ++
    collect candidate "candidate" ++ collect state "trustedState" ++ collect (parseClock (field r "clock")) "clock" ++
    collect (parseEip712Domain (field r "expectedDomain")) "expectedDomain" ++
    (digest mandate mandateWriter "mandate").2 ++ (digest candidate candidateWriter "candidate").2 ++
    (digest state stateWriter "trustedState").2

def found (checks : List Check) (request : Plain) : List Violation :=
  parseViolations request ++ (contextOf request).elim [] fun ctx => checks.flatMap fun check => check ctx

def verifyWith (checks : List Check) (request : Plain) : Option VerificationReceipt :=
  let r := requestFields request
  finish (digest (parseMandate (field r "mandate")) mandateWriter "mandate").1
    (digest (parseCandidate (field r "candidate")) candidateWriter "candidate").1
    (digest (parseTrustedState (field r "trustedState")) stateWriter "trustedState").1
    (parseClock (field r "clock")).toOption (found checks request)

omit [Keccak] in
private theorem collect_nil {α : Type} {parsed : KernelResult α} {name : String} :
    collect parsed name = [] ↔ ∃ value, parsed = .ok value := by
  cases parsed <;> simp [collect]

theorem parseViolations_nil (request : Plain) :
    parseViolations request = [] ↔ ∃ ctx, contextOf request = some ctx := by
  unfold parseViolations contextOf
  dsimp only
  simp only [append_eq_nil_iff, collect_nil]
  constructor
  · rintro ⟨⟨⟨⟨⟨⟨⟨⟨⟨m, mandate⟩, a, authorization⟩, c, candidate⟩, t, state⟩, n, clock⟩, d, domain⟩, _⟩, _⟩, _⟩
    rw [mandate, authorization, candidate, state, clock, domain]
    exact ⟨_, rfl⟩
  · rintro ⟨ctx, read⟩
    split at read
    · rename_i mandate authorization candidate state now domain first second third fourth fifth sixth
      rw [first, second, third, fourth, fifth, sixth, mandate_digest, candidate_digest, state_digest]
      exact ⟨⟨⟨⟨⟨⟨⟨⟨⟨_, rfl⟩, _, rfl⟩, _, rfl⟩, _, rfl⟩, _, rfl⟩, _, rfl⟩, rfl⟩, rfl⟩, rfl⟩
    · cases read

theorem found_nil (checks : List Check) (request : Plain) : found checks request = [] ↔
    ∃ ctx, contextOf request = some ctx ∧ ∀ check ∈ checks, check ctx = [] := by
  rw [found, append_eq_nil_iff, parseViolations_nil]
  constructor
  · rintro ⟨⟨ctx, read⟩, clean⟩
    rw [read, Option.elim_some, flatMap_eq_nil_iff] at clean
    exact ⟨ctx, read, clean⟩
  · rintro ⟨ctx, read, clean⟩
    rw [read, Option.elim_some, flatMap_eq_nil_iff]
    exact ⟨⟨ctx, rfl⟩, clean⟩

private theorem finish_pass (violations : List Violation) (a b c : Option Digest32) (t : Option UnixSeconds) :
    (∃ receipt, finish a b c t violations = some receipt ∧ receipt.body.decision = .pass) ↔ violations = [] := by
  constructor
  · rintro ⟨receipt, returned, passed⟩
    obtain ⟨bytes, _, rfl⟩ := Option.map_eq_some_iff.mp returned
    have none_ : (canonicalize violations).length = 0 := by
      by_contra some_
      simp [some_] at passed
    rw [canonicalize_length, different, Finset.card_eq_zero, toFinset_eq_empty_iff] at none_
    exact map_eq_nil_iff.mp none_
  · rintro rfl
    have counted : different [] ≤ 65535 := by decide
    obtain ⟨receipt, returned⟩ := (finish_returns (@legible_nil fun _ => true) a b c t).mpr counted
    refine ⟨receipt, returned, ?_⟩
    obtain ⟨bytes, _, rfl⟩ := Option.map_eq_some_iff.mp returned
    rfl

variable {checks : List Check}

theorem verify_chosen [Secp256k1] {request : Plain}
    (chosen : chosenChecks (field (requestFields request) "checks") = some checks) :
    verify request = verifyWith checks request := by
  unfold verify verifyWith found contextOf parseViolations
  dsimp only
  split
  · rename_i first second third fourth fifth sixth seventh eighth
    rw [first, second, third, fourth, fifth, sixth] at *
    rw [chosen]
    rw [mandate_digest] at seventh
    rw [state_digest] at eighth
    rw [← Option.some.inj seventh, ← Option.some.inj eighth]
    rfl
  · rename_i unread
    split
    · rename_i first second third fourth fifth sixth
      have mandate := (congrArg (fun m => (digest m mandateWriter "mandate").1) first).trans
        (congrArg Prod.fst (mandate_digest _ "mandate"))
      have state := (congrArg (fun t => (digest t stateWriter "trustedState").1) fourth).trans
        (congrArg Prod.fst (state_digest _ "trustedState"))
      exact (unread _ _ _ _ _ _ _ _ first second third fourth fifth sixth mandate state).elim
    · rw [Option.elim_none, append_nil]

variable [Secp256k1]

theorem mem_found (same : ∀ check, check ∈ checks ↔ check ∈ CHECKS) (request : Plain)
    (v : Violation) : v ∈ found checks request ↔ v ∈ found CHECKS request := by
  unfold found
  cases contextOf request with
  | none => rfl
  | some ctx => simp only [Option.elim_some, mem_append, mem_flatMap, same]

theorem legible_found (request : Plain) : Legible (fun _ => true) (found CHECKS request) := by
  refine legible_append.mpr ⟨(parse_few _ _ _ _ _ _ rfl).2, ?_⟩
  cases contextOf request with
  | none => exact legible_nil
  | some ctx => exact legible_checks ctx

theorem found_apart (same : ∀ check, check ∈ checks ↔ check ∈ CHECKS)
    (request other : Plain) : ∀ v ∈ found checks request, ∀ w ∈ found checks other,
      violationKey v = violationKey w → v = w := fun _ here _ there =>
  key_inj (legible_found request) (legible_found other) ((mem_found same request _).mp here)
    ((mem_found same other _).mp there)

end Plain

end Mandate.Kernel
