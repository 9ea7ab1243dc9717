import Mandate.Ledger.Encoding
import Mandate.Lib.Table
import Mandate.Portfolio.Reasons

/-! Resources: declared, typed quantities, and vectors of amounts keyed by resource.
Two resources never combine; a domain's quantity reaches one only through `demandOf`. -/
set_option linter.dupNamespace false
namespace Mandate.Portfolio
open Core Lib.Wire Lib.Table List
open Ledger (rescaleExact)

def MAX_RESOURCES : Nat := 32

abbrev PortfolioResourceId := Identifier

def RESOURCE_KINDS : List QuantityKind :=
  [.tokenAmount, .capital, .positionSize, .notional, .margin, .collateral, .debt, .count]

abbrev ResourceKind := {kind : QuantityKind // kind ∈ RESOURCE_KINDS}

def RESOURCE_KIND_CODE : WireCodes ResourceKind where
  keys := RESOURCE_KINDS.attach
  code kind := match kind.1 with
    | .tokenAmount => 1 | .capital => 2 | .positionSize => 3 | .notional => 4 | .margin => 5
    | .collateral => 6 | .debt => 7 | .count => 8
    | .grossExposure | .netExposure | .pnl => 0
  width := by
    rintro ⟨kind, _⟩
    cases kind <;> simp
  unique := by
    rintro ⟨kind, member⟩
    cases kind <;> first | rfl | (exfalso; revert member; decide)

structure ResourceDefinition where
  resource : PortfolioResourceId
  kind : ResourceKind
  unit : UnitCode
  decimals : Decimals
  domain : Option DomainId
  counted : kind.1 = .count ↔ unit.1 = COUNT_UNIT

structure ResourceAmount where
  resource : PortfolioResourceId
  atoms : Int
deriving DecidableEq

/-- Any list of amounts: what a validator or an untrusted party hands over. -/
abbrev ResourceVector := List ResourceAmount

def Unrepeated (v : ResourceVector) : Prop := (v.map (·.resource)).Nodup

instance (v : ResourceVector) : Decidable (Unrepeated v) := inferInstanceAs (Decidable (List.Nodup _))

abbrev ValidAmount := {a : ResourceAmount // 0 ≤ a.atoms ∧ a.atoms ≤ UINT256_MAX}

def writeAmountKey (a : ValidAmount) : Writer := writeStr a.1.resource.1

/-- A validated vector: one entry per resource, in the order of their encodings. -/
abbrev ValidVector := CanonicalSet writeAmountKey MAX_RESOURCES

def noAmounts : ValidVector := ⟨[], by decide, .nil⟩

def ValidVector.amounts (v : ValidVector) : ResourceVector := v.members.map (·.1)

def writeResourceDefinition (d : ResourceDefinition) : Writer :=
  writeStr d.resource.1 ++ writeCode RESOURCE_KIND_CODE d.kind ++ writeStr d.unit.1 ++
    writeU8 d.decimals.1 ++ writeNullable (fun domain : DomainId => writeStr domain.1) d.domain

def writeResourceVector (v : ResourceVector) : Writer :=
  writeList (fun a : ResourceAmount => writeStr a.resource.1 ++ writeU256 a.atoms) v

abbrev ResourceTable := List ResourceDefinition

def ResourceTable.has (table : ResourceTable) (r : PortfolioResourceId) : Bool :=
  table.any fun d => d.resource = r

/-- Every resource the vector names that the table does not declare. -/
def undeclared (v : ResourceVector) (table : ResourceTable) : List Reason :=
  (v.filter fun a => !table.has a.resource).map fun a => reason .resourceUndeclared a.resource.1

def amountOf (v : ResourceVector) (r : PortfolioResourceId) : Int :=
  ((v.find? fun a => a.resource = r).map (·.atoms)).getD 0

/-- Shorter identifiers first, then their text: the order of their encodings. -/
def resourceLE (a b : PortfolioResourceId) : Prop :=
  a.1.length < b.1.length ∨ (a.1.length = b.1.length ∧ a.1 ≤ b.1)

instance : DecidableRel resourceLE := fun _ _ => inferInstanceAs (Decidable (_ ∨ _))

def vectorOf (entries : PMap PortfolioResourceId Int) : ResourceVector :=
  (entries.keys.insertionSort resourceLE).map fun r => ⟨r, (entries.lookup r).getD 0⟩

def gather (entries : PMap PortfolioResourceId Int) (a : ResourceAmount) : PMap PortfolioResourceId Int :=
  entries.insert a.resource ((entries.lookup a.resource).getD 0 + a.atoms)

/-- The sum per resource; entries of different resources stay different entries. -/
def addVectors (a b : ResourceVector) : ResourceVector := vectorOf ((a ++ b).foldl gather ∅)

def vectorsEqual (a b : ResourceVector) : Bool :=
  ((a ++ b).map (·.resource)).all fun r => amountOf a r == amountOf b r

def exceeding (v limits : ResourceVector) : List PortfolioResourceId :=
  (v.filter fun a => amountOf limits a.resource < a.atoms).map (·.resource)

def exceedingListed (v limits : ResourceVector) : List PortfolioResourceId :=
  (v.filter fun a => limits.any fun l => l.resource = a.resource ∧ l.atoms < a.atoms).map (·.resource)

structure Contribution where
  kind : QuantityKind
  unit : String
  decimals : Nat
  atoms : Int
  domain : String

def counts (d : ResourceDefinition) (c : Contribution) : Bool :=
  c.kind == d.kind.1 && c.unit == d.unit.1 && d.domain.all fun domain => domain.1 == c.domain

def demandOf (table : ResourceTable) (contributions : List Contribution) : Except Reason ResourceVector :=
  vectorOf <$> table.foldlM (fun out d => contributions.foldlM (fun out c =>
    if counts d c then
      match rescaleExact c.atoms c.decimals d.decimals.1 with
      | none => .error (reason .resourceIncomparable d.resource.1)
      | some atoms => .ok (gather out ⟨d.resource, atoms⟩)
    else .ok out) out) ∅

def totalOf (v : ResourceVector) (r : PortfolioResourceId) : Int :=
  ((v.filter fun a => a.resource = r).map (·.atoms)).sum

@[simp] theorem totalOf_nil (r : PortfolioResourceId) : totalOf [] r = 0 := rfl

theorem totalOf_cons (a : ResourceAmount) (v : ResourceVector) (r : PortfolioResourceId) :
    totalOf (a :: v) r = (if a.resource = r then a.atoms else 0) + totalOf v r := by
  by_cases here : a.resource = r
  · simp [totalOf, here]
  · simp [totalOf, here]

@[simp] theorem totalOf_append (v w : ResourceVector) (r : PortfolioResourceId) :
    totalOf (v ++ w) r = totalOf v r + totalOf w r := by
  simp [totalOf]

variable {v : ResourceVector} {r : PortfolioResourceId}

theorem totalOf_eq_zero (absent : ∀ a ∈ v, a.resource ≠ r) : totalOf v r = 0 := by
  have none : (v.filter fun a => a.resource = r) = [] :=
    filter_eq_nil_iff.mpr fun a member => by simpa using absent a member
  rw [totalOf, none]
  rfl

@[simp] theorem amountOf_nil (r : PortfolioResourceId) : amountOf [] r = 0 := rfl

theorem amountOf_cons (a : ResourceAmount) (v : ResourceVector) (r : PortfolioResourceId) :
    amountOf (a :: v) r = if a.resource = r then a.atoms else amountOf v r := by
  by_cases here : a.resource = r
  · simp [amountOf, here]
  · simp [amountOf, here]

theorem amountOf_absent (absent : ∀ a ∈ v, a.resource ≠ r) : amountOf v r = 0 := by
  have missing : (v.find? fun a => a.resource = r) = none :=
    find?_eq_none.mpr fun a member => by simpa using absent a member
  rw [amountOf, missing]
  rfl

theorem amountOf_mem (unrepeated : Unrepeated v) {a : ResourceAmount} (member : a ∈ v) :
    amountOf v a.resource = a.atoms := by
  induction v with
  | nil => cases member
  | cons head tail ih =>
    obtain ⟨fresh, rest⟩ := nodup_cons.mp unrepeated
    rw [amountOf_cons]
    rcases mem_cons.mp member with rfl | later
    · rw [if_pos rfl]
    · have apart : head.resource ≠ a.resource := by
        intro same
        exact fresh (mem_map.mpr ⟨a, later, same.symm⟩)
      rw [if_neg apart]
      exact ih rest later

theorem amountOf_eq_totalOf (unrepeated : Unrepeated v) (r : PortfolioResourceId) :
    amountOf v r = totalOf v r := by
  induction v with
  | nil => rfl
  | cons head tail ih =>
    obtain ⟨fresh, rest⟩ := nodup_cons.mp unrepeated
    rw [amountOf_cons, totalOf_cons, ih rest]
    split
    · rename_i here
      have gone : totalOf tail r = 0 := by
        refine totalOf_eq_zero fun a member same => fresh ?_
        exact mem_map.mpr ⟨a, member, same.trans here.symm⟩
      rw [gone, add_zero]
    · rw [zero_add]

theorem amountOf_nonneg (nonneg : ∀ a ∈ v, 0 ≤ a.atoms) (r : PortfolioResourceId) : 0 ≤ amountOf v r := by
  induction v with
  | nil => exact le_rfl
  | cons head tail ih =>
    rw [amountOf_cons]
    split
    · exact nonneg head (by simp)
    · exact ih fun a member => nonneg a (mem_cons_of_mem _ member)

theorem vectorsEqual_iff {a b : ResourceVector} :
    vectorsEqual a b = true ↔ ∀ r, amountOf a r = amountOf b r := by
  simp only [vectorsEqual, all_eq_true, beq_iff_eq]
  constructor
  · intro listed r
    by_cases named : r ∈ (a ++ b).map (·.resource)
    · exact listed r named
    · have absent : ∀ x ∈ a ++ b, x.resource ≠ r := by
        intro x member same
        exact named (same ▸ mem_map_of_mem member)
      rw [amountOf_absent fun x member => absent x (mem_append_left _ member),
        amountOf_absent fun x member => absent x (mem_append_right _ member)]
  · intro same r _
    exact same r

theorem lookup_gathered (v : ResourceVector) (entries : PMap PortfolioResourceId Int)
    (r : PortfolioResourceId) :
    ((v.foldl gather entries).lookup r).getD 0 = (entries.lookup r).getD 0 + totalOf v r := by
  induction v generalizing entries with
  | nil => simp
  | cons head tail ih =>
    rw [foldl_cons, ih, gather, lookup_insert_eq, totalOf_cons]
    by_cases here : r = head.resource
    · subst here
      rw [if_pos rfl, if_pos rfl, Option.getD_some]
      ring
    · rw [if_neg here, if_neg (Ne.symm here), zero_add]

theorem unrepeated_vectorOf (entries : PMap PortfolioResourceId Int) : Unrepeated (vectorOf entries) := by
  have keys : (vectorOf entries).map (·.resource) = entries.keys.insertionSort resourceLE := by
    simp [vectorOf, Function.comp_def]
  rw [Unrepeated, keys]
  exact (perm_insertionSort _ _).nodup_iff.mpr entries.keys_nodup

theorem amountOf_vectorOf (entries : PMap PortfolioResourceId Int) (r : PortfolioResourceId) :
    amountOf (vectorOf entries) r = (entries.lookup r).getD 0 := by
  by_cases present : r ∈ entries
  · have member : (⟨r, (entries.lookup r).getD 0⟩ : ResourceAmount) ∈ vectorOf entries :=
      mem_map.mpr ⟨r, (mem_insertionSort _).mpr present, rfl⟩
    exact amountOf_mem (unrepeated_vectorOf entries) member
  · rw [AList.lookup_eq_none.mpr present, amountOf_absent]
    · rfl
    · rintro a member rfl
      obtain ⟨key, inside, rfl⟩ := mem_map.mp member
      exact present ((mem_insertionSort _).mp inside)

theorem unrepeated_addVectors (a b : ResourceVector) : Unrepeated (addVectors a b) := unrepeated_vectorOf _

theorem amountOf_addVectors (a b : ResourceVector) (r : PortfolioResourceId) :
    amountOf (addVectors a b) r = totalOf a r + totalOf b r := by
  rw [addVectors, amountOf_vectorOf, lookup_gathered, totalOf_append]
  simp

theorem exceedingListed_eq_nil {limits : ResourceVector} : exceedingListed v limits = [] ↔
      ∀ a ∈ v, ∀ l ∈ limits, l.resource = a.resource → a.atoms ≤ l.atoms := by
  simp [exceedingListed]

theorem undeclared_eq_nil {table : ResourceTable} :
    undeclared v table = [] ↔ ∀ a ∈ v, ∃ d ∈ table, d.resource = a.resource := by
  simp [undeclared, ResourceTable.has]

theorem ValidVector.nonneg (v : ValidVector) : ∀ a ∈ v.amounts, 0 ≤ a.atoms := by
  intro a member
  obtain ⟨valid, _, rfl⟩ := mem_map.mp member
  exact valid.2.1

theorem ValidVector.unrepeated (v : ValidVector) : Unrepeated v.amounts := by
  rw [Unrepeated, ValidVector.amounts, map_map]
  refine pairwise_map.mpr (v.ascending.imp ?_)
  intro a b below same
  have equal : encodeWith writeAmountKey a = encodeWith writeAmountKey b := by
    simp only [encodeWith, writeAmountKey]
    rw [show a.1.resource = b.1.resource from same]
  rw [equal] at below
  simp [compareBytes] at below

end Mandate.Portfolio
