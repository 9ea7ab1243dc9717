import Mandate.Registry.Vocabulary
import Mathlib.Data.List.Dedup

/-! Claims: a property is a set of what sources assert, each with where it came from, and is
established only where every claim at the floor and in time agrees. A claim below the floor can
neither establish a value nor contest one. -/
namespace Mandate.Registry
open Core List

/-- Any class is recorded; `none` is a name the parser's `in` finds on the prototype. -/
structure Provenance where
  trustClass : Option TrustClass
  sourceId : Identifier
  observedAt : UnixSeconds

structure Claim (α : Type) where
  value : α
  provenance : Provenance

def MAX_CLAIMS_PER_PROPERTY : Nat := 65535

/-- Zero or more claims about one property, no more than its encoder counts. -/
abbrev ClaimSet (α : Type) := {claims : List (Claim α) // claims.length ≤ MAX_CLAIMS_PER_PROPERTY}

inductive UnknownReason | noClaims | belowTrustFloor | stale

inductive ClaimResolution (α : Type)
  | established (value : α) (provenance : Provenance)
  | unknown (reason : UnknownReason)
  | conflict (claims : List (Claim α))

structure ClaimPolicy where
  minimumTrust : TrustClass
  now : UnixSeconds
  maxClaimAge : Option Int

/-- At or above the floor: what is below stops here, for agreement and for conflict. -/
def atFloor (policy : ClaimPolicy) (p : Provenance) : Bool := meetsTrustFloor p.trustClass policy.minimumTrust

def inTime (policy : ClaimPolicy) (p : Provenance) : Bool :=
  let age := policy.now.1 - p.observedAt.1
  0 ≤ age && policy.maxClaimAge.all fun max => age ≤ max

/-- Trust rank, then observation time, then source, then value; where a claim ranks with nothing
it never stands among fresh ones. -/
def claimLE {α : Type} (keyOf : α → String) (a b : Claim α) : Prop :=
  let rank (c : Claim α) : Nat := c.provenance.trustClass.elim 0 TRUST_RANK
  if rank a ≠ rank b then rank a ≤ rank b
  else if a.provenance.observedAt ≠ b.provenance.observedAt then
    a.provenance.observedAt.1 ≤ b.provenance.observedAt.1
  else if a.provenance.sourceId ≠ b.provenance.sourceId then
    a.provenance.sourceId.1 ≤ b.provenance.sourceId.1
  else keyOf a.value ≤ keyOf b.value

instance {α : Type} (keyOf : α → String) : DecidableRel (claimLE keyOf) := fun _ _ => by
  unfold claimLE
  infer_instance

def sortClaims {α : Type} (keyOf : α → String) (claims : List (Claim α)) : List (Claim α) :=
  claims.insertionSort (claimLE keyOf)

def freshClaims {α : Type} (policy : ClaimPolicy) (claims : List (Claim α)) : List (Claim α) :=
  (claims.filter fun c => atFloor policy c.provenance).filter fun c => inTime policy c.provenance

/-- A claim set to a single state. No claim takes precedence: two values are a conflict. -/
def resolveClaimSet {α : Type} (claims : List (Claim α)) (policy : ClaimPolicy) (keyOf : α → String) :
    ClaimResolution α :=
  if claims = [] then .unknown .noClaims
  else if (claims.filter fun c => atFloor policy c.provenance) = [] then .unknown .belowTrustFloor
  else if 1 < ((freshClaims policy claims).map fun c => keyOf c.value).dedup.length then
    .conflict (sortClaims keyOf (freshClaims policy claims))
  else match (sortClaims keyOf (freshClaims policy claims)).getLast? with
  | none => .unknown .stale
  | some best => .established best.value best.provenance

def Contested {α : Type} (claims : List (Claim α)) (policy : ClaimPolicy) (keyOf : α → String) : Prop :=
  ∃ c ∈ freshClaims policy claims, ∃ d ∈ freshClaims policy claims, keyOf c.value ≠ keyOf d.value

section Resolution
variable {α : Type} {claims : List (Claim α)} {policy : ClaimPolicy} {keyOf : α → String}

theorem mem_freshClaims {c : Claim α} :
    c ∈ freshClaims policy claims ↔ c ∈ claims ∧ atFloor policy c.provenance = true ∧
      inTime policy c.provenance = true := by
  simp only [freshClaims, mem_filter, and_assoc]

theorem dedup_crowded {keys : List String} : 1 < keys.dedup.length ↔ ∃ a ∈ keys, ∃ b ∈ keys, a ≠ b := by
  constructor
  · intro crowded
    match listed : keys.dedup, crowded with
    | a :: b :: rest, _ =>
      have apart : (a :: b :: rest).Nodup := listed ▸ nodup_dedup keys
      have members : ∀ k ∈ a :: b :: rest, k ∈ keys := fun k member => mem_dedup.mp (listed ▸ member)
      refine ⟨a, members a (by simp), b, members b (by simp), ?_⟩
      rintro rfl
      exact (nodup_cons.mp apart).1 (mem_cons_self ..)
  · rintro ⟨a, first, b, second, apart⟩
    have first := mem_dedup.mpr first
    have second := mem_dedup.mpr second
    match listed : keys.dedup with
    | [] => simp [listed] at first
    | [only] =>
      rw [listed, mem_singleton] at first second
      exact absurd (first.trans second.symm) apart
    | _ :: _ :: _ => simp

theorem crowded_iff : 1 < ((freshClaims policy claims).map fun c => keyOf c.value).dedup.length ↔
    Contested claims policy keyOf := by
  simp only [dedup_crowded, Contested, mem_map]
  constructor
  · rintro ⟨_, ⟨c, first, rfl⟩, _, ⟨d, second, rfl⟩, apart⟩
    exact ⟨c, first, d, second, apart⟩
  · rintro ⟨c, first, d, second, apart⟩
    exact ⟨_, ⟨c, first, rfl⟩, _, ⟨d, second, rfl⟩, apart⟩

theorem inTime_iff {p : Provenance} : inTime policy p = true ↔
    p.observedAt.1 ≤ policy.now.1 ∧ ∀ max ∈ policy.maxClaimAge, policy.now.1 - p.observedAt.1 ≤ max := by
  simp only [inTime, Bool.and_eq_true, decide_eq_true_eq, Option.all_eq_true, sub_nonneg]
  exact Iff.rfl

theorem resolveClaimSet_established {value : α} {provenance : Provenance}
    (resolved : resolveClaimSet claims policy keyOf = .established value provenance) :
    (⟨value, provenance⟩ : Claim α) ∈ freshClaims policy claims ∧ ¬Contested claims policy keyOf := by
  unfold resolveClaimSet at resolved
  split at resolved
  · cases resolved
  split at resolved
  · cases resolved
  split at resolved
  · cases resolved
  · rename_i agreed
    split at resolved
    · cases resolved
    · rename_i best last
      cases resolved
      refine ⟨?_, mt crowded_iff.mpr agreed⟩
      exact (perm_insertionSort _ _).mem_iff.mp (mem_of_getLast? last)

theorem resolveClaimSet_agreed {c : Claim α} (read : c ∈ freshClaims policy claims)
    (agreed : ¬Contested claims policy keyOf) :
    ∃ value provenance, resolveClaimSet claims policy keyOf = .established value provenance ∧
      (⟨value, provenance⟩ : Claim α) ∈ freshClaims policy claims := by
  obtain ⟨listed, trusted, -⟩ := mem_freshClaims.mp read
  have some : sortClaims keyOf (freshClaims policy claims) ≠ [] :=
    ne_nil_of_mem ((perm_insertionSort _ _).mem_iff.mpr read)
  unfold resolveClaimSet
  rw [if_neg (ne_nil_of_mem listed), if_neg (ne_nil_of_mem (mem_filter.mpr ⟨listed, trusted⟩)),
    if_neg (mt crowded_iff.mp agreed), getLast?_eq_some_getLast some]
  refine ⟨_, _, rfl, ?_⟩
  exact (perm_insertionSort _ _).mem_iff.mp (getLast_mem some)

end Resolution

end Mandate.Registry
