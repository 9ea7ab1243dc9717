import Mandate.Core.TermFraming
import Mathlib.Data.List.Perm.Subperm

/-! Authority grants and the principal policy: canonical term lists, and objects whose
identity is the digest of their encoding. A policy grants nothing. -/
namespace Mandate.Core
open Lib.Wire List

/-- Terms in canonical order, each unique by its key and of a kind the object admits. -/
structure TermList (max : Nat) (admits : AuthorityTerm → Bool) where
  items : List AuthorityTerm
  bounded : items.length ≤ max
  distinct : (items.map termKey).Nodup
  ascending : Ascending writeTerm items
  admitted : ∀ t ∈ items, admits t = true
deriving DecidableEq

structure KeyedTerms (admits : AuthorityTerm → Bool) (count : Nat) (seen : List TermKey) where
  items : List AuthorityTerm
  sized : items.length = count
  distinct : (items.map termKey).Nodup
  fresh : ∀ t ∈ items, termKey t ∉ seen
  admitted : ∀ t ∈ items, admits t = true

abbrev TermValidator (admits : AuthorityTerm → Bool) :=
  AuthorityTermInput → String → CoreResult {t : AuthorityTerm // admits t = true}

def KeyedTerms.cons {admits : AuthorityTerm → Bool} {count : Nat} {seen : List TermKey}
    (t : {t : AuthorityTerm // admits t = true}) (unseen : termKey t.1 ∉ seen)
    (rest : KeyedTerms admits count (termKey t.1 :: seen)) : KeyedTerms admits (count + 1) seen where
  items := t.1 :: rest.items
  sized := congrArg (· + 1) rest.sized
  distinct := by
    refine nodup_cons.mpr ⟨fun member => ?_, rest.distinct⟩
    obtain ⟨other, listed, same⟩ := mem_map.mp member
    exact rest.fresh other listed (by simp [same])
  fresh := by
    intro other member
    rcases mem_cons.mp member with rfl | later
    · exact unseen
    · exact fun old => rest.fresh other later (mem_cons_of_mem _ old)
  admitted := by
    intro other member
    rcases mem_cons.mp member with rfl | later
    · exact t.2
    · exact rest.admitted other later

def validateTerms {admits : AuthorityTerm → Bool} (validate : TermValidator admits) (path : String) :
    (inputs : List AuthorityTermInput) → Nat → (seen : List TermKey) →
      CoreResult (KeyedTerms admits inputs.length seen)
  | [], _, _ => .ok ⟨[], rfl, nodup_nil, by simp, by simp⟩
  | input :: rest, index, seen => do
    let t ← validate input (atIndex path index)
    if unseen : termKey t.1 ∉ seen then
      let terms ← validateTerms validate path rest (index + 1) (termKey t.1 :: seen)
      .ok (terms.cons t unseen)
    else fail .duplicateTerm (atIndex path index)

variable {items : List AuthorityTerm}

theorem sortTerms_ascending (distinct : items.Nodup) : Ascending writeTerm (sortEncoded writeTerm items) := by
  have sorted := pairwise_insertionSort (encodedLE writeTerm) items
  have unequal := (perm_insertionSort (encodedLE writeTerm) items).nodup_iff.mpr distinct
  refine (sorted.and unequal).imp fun {a b} both => ?_
  have le := both.1
  unfold encodedLE at le
  cases order : compareBytes (encodeWith writeTerm a) (encodeWith writeTerm b) with
  | lt => rfl
  | eq => exact absurd (encodeTerm_injective (Std.LawfulEqOrd.eq_of_compare order)) both.2
  | gt => simp [order] at le

def validateTermList {max : Nat} {admits : AuthorityTerm → Bool} (validate : TermValidator admits)
    (inputs : List AuthorityTermInput) (path : String) : CoreResult (TermList max admits) :=
  if fits : inputs.length ≤ max then do
    let terms ← validateTerms validate path inputs 0 []
    let perm := perm_insertionSort (encodedLE writeTerm) terms.items
    .ok ⟨sortEncoded writeTerm terms.items, perm.length_eq.trans terms.sized |>.le.trans fits,
      (perm.map termKey).nodup_iff.mpr terms.distinct,
      sortTerms_ascending (List.Nodup.of_map _ terms.distinct),
      fun t member => terms.admitted t (perm.mem_iff.mp member)⟩
  else fail .collectionTooLarge path

variable {admits : AuthorityTerm → Bool}

theorem validateTerms_self {validate : TermValidator admits}
    (valid : ∀ t path, validate (termInputOf t.1) path = .ok t) (path : String) :
    ∀ (items : List AuthorityTerm) (index : Nat) (seen : List TermKey),
      (items.map termKey).Nodup → (∀ t ∈ items, termKey t ∉ seen) → (∀ t ∈ items, admits t = true) →
      ∃ out, validateTerms validate path (items.map termInputOf) index seen = .ok out ∧
        out.items = items := by
  intro items
  induction items with
  | nil => exact fun _ _ _ _ _ => ⟨_, rfl, rfl⟩
  | cons t items ih =>
    intro index seen distinct fresh admitted
    obtain ⟨headFresh, tailDistinct⟩ := nodup_cons.mp distinct
    have unseen := fresh t (by simp)
    obtain ⟨out, rest, same⟩ := ih (index + 1) (termKey t :: seen) tailDistinct (fun other member old => by
        rcases mem_cons.mp old with equal | old
        · exact headFresh (equal ▸ mem_map_of_mem member)
        · exact fresh other (by simp [member]) old)
      (fun other member => admitted other (by simp [member]))
    have own := valid ⟨t, admitted t (by simp)⟩ (atIndex path index)
    refine ⟨out.cons ⟨t, admitted t (by simp)⟩ unseen, ?_, congrArg (List.cons t) same⟩
    change validateTerms validate path (termInputOf t :: items.map termInputOf) index seen = _
    simp only [validateTerms, own, rest, bind, Except.bind, dif_pos unseen]

variable {max : Nat}

theorem validateTermList_self {f : TermValidator admits} (valid : ∀ t path, f (termInputOf t.1) path = .ok t)
    (list : TermList max admits) (path : String) :
    validateTermList f (list.items.map termInputOf) path = .ok list := by
  obtain ⟨out, terms, same⟩ := validateTerms_self valid path list.items 0 [] list.distinct
    (by simp) list.admitted
  have fits : (list.items.map termInputOf).length ≤ max := by
    rw [length_map]
    exact list.bounded
  have sorted := sortEncoded_ascending list.ascending
  rw [validateTermList, dif_pos fits]
  simp only [bind, Except.bind, terms, same, sorted]

theorem sum_termSize (items : List AuthorityTerm) :
    (items.map termSize).sum = 5339 * items.length + 70441 * items.countP (·.kind == .set) := by
  induction items with
  | nil => rfl
  | cons t items ih =>
    rw [map_cons, sum_cons, ih, length_cons, countP_cons, termSize]
    by_cases set : t.kind = .set
    · simp only [set, if_true, beq_self_eq_true]
      ring
    · simp only [if_neg set, beq_eq_false_iff_ne.mpr set]
      simp
      ring

theorem sets_few (distinct : (items.map termKey).Nodup) : items.countP (·.kind == .set) ≤ 7 := by
  have sublist := (filter_sublist (p := fun t : AuthorityTerm => t.kind == .set) (l := items)).map termKey
  have nodup := distinct.sublist sublist
  have listed : (items.filter (·.kind == .set)).map termKey ⊆
      SET_VOCABULARY_CODE.keys.map TermKey.set := by
    intro key member
    obtain ⟨t, kept, rfl⟩ := mem_map.mp member
    have kind := (mem_filter.mp kept).2
    cases t with
    | set t =>
      refine mem_map_of_mem ?_
      cases t.vocabulary <;> decide
    | _ => cases kind
  have short := (List.Nodup.subperm nodup listed).length_le
  rw [countP_eq_length_filter]
  simpa [SET_VOCABULARY_CODE] using short

theorem frames_terms (list : TermList 128 admits) :
    Frames (writeList writeTerm list.items) (readList 128 readTermInput true)
      (list.items.map termInputOf) 1176481 := by
  have frames := frames_set list.bounded (fun t _ => frames_term t) list.ascending
  refine frames.mono ?_
  have few := sets_few list.distinct
  have short := list.bounded
  rw [sum_termSize]
  omega

@[simp] theorem total_terms (width : max < 65536)
    (list : TermList max admits) : (writeList writeTerm list.items).Total :=
  total_list (list.bounded.trans_lt width) fun t _ => total_term t

inductive LineageKind | root | delegation
deriving DecidableEq

def LINEAGE_CODE : WireCodes LineageKind where
  keys := [.root, .delegation]
  code
    | .root => 1 | .delegation => 2
  width key := by cases key <;> decide
  unique key := by cases key <;> rfl

inductive GrantLineageInput
  | root (issuer : PartyIdInput)
  | delegation (parent : String) (issuer : PartyIdInput)

/-- A root is issued by the principal; a delegation by the parent node's holder. -/
inductive GrantLineage
  | root (issuer : PrincipalId)
  | delegation (parent : AuthorityId) (issuer : AgentId)
deriving DecidableEq

namespace GrantLineage

def kind : GrantLineage → LineageKind
  | root _ => .root
  | delegation _ _ => .delegation

def issuer : GrantLineage → PartyId
  | root issuer => issuer
  | delegation _ issuer => issuer

def parent : GrantLineage → Option AuthorityId
  | root _ => none
  | delegation parent _ => some parent

end GrantLineage

structure AuthorityGrantInput where
  lineage : GrantLineageInput
  principal : PartyIdInput
  holder : PartyIdInput
  notBefore : IntegerInput
  expiresAt : IntegerInput
  terms : List AuthorityTermInput
  nonce : IntegerInput

def rootIssued (lineage : GrantLineage) (principal : PrincipalId) : Bool :=
  lineage.kind != .root || partyIdsEqual lineage.issuer principal

structure AuthorityGrant where
  lineage : GrantLineage
  principal : PrincipalId
  holder : AgentId
  window : Window
  terms : TermList MAX_GRANT_TERMS (fun _ => true)
  nonce : Uint64
  issued : rootIssued lineage principal = true
deriving DecidableEq

def validateLineage (input : GrantLineageInput) (path : String) : CoreResult GrantLineage :=
  match input with
  | .root issuer => .root <$> validatePartyId issuer (atField path "issuer")
  | .delegation parent issuer => do
    let parent ← parseDigest parent (atField path "parent")
    let issuer ← validatePartyId issuer (atField path "issuer")
    .ok (.delegation parent issuer)

def validateGrantTerm : TermValidator (fun _ => true) := fun input path =>
  (validateTerm input path).map fun t => ⟨t, rfl⟩

def validateAuthorityGrant (input : AuthorityGrantInput) (path : String) : CoreResult AuthorityGrant := do
  let lineage ← validateLineage input.lineage (atField path "lineage")
  let principal ← validatePartyId input.principal (atField path "principal")
  if issued : rootIssued lineage principal = true then
    let holder ← validatePartyId input.holder (atField path "holder")
    let window ← validateWindow input.notBefore input.expiresAt path
    let terms ← validateTermList validateGrantTerm input.terms (atField path "terms")
    let nonce ← parseUint64 input.nonce (atField path "nonce")
    .ok ⟨lineage, principal, holder, window, terms, nonce, issued⟩
  else fail .rootIssuerNotPrincipal (atField path "lineage.issuer")

def writeLineageBody : GrantLineage → Writer
  | .root issuer => writeParty issuer
  | .delegation parent issuer => writeDigest parent ++ writeParty issuer

def writeLineage (l : GrantLineage) : Writer := writeCode LINEAGE_CODE l.kind ++ writeLineageBody l

def readLineageBody : LineageKind → CoreReader GrantLineageInput
  | .root => .root <$> readPartyInput
  | .delegation => do
    let parent ← readDigest
    let issuer ← readPartyInput
    pure (.delegation parent issuer)

def readLineageInput : CoreReader GrantLineageInput := do
  let kind ← readCode LINEAGE_CODE
  readLineageBody kind

def AUTHORITY_TAG : String := "mandate-core/v1/authority"
def PRINCIPAL_POLICY_TAG : String := "mandate-core/v1/principal-policy"

def writeGrantBody (g : AuthorityGrant) : Writer :=
  writeLineage g.lineage ++ (writeParty g.principal ++ (writeParty g.holder ++
    (writeI64 g.window.notBefore.1 ++ (writeI64 g.window.expiresAt.1 ++
      (writeList writeTerm g.terms.items ++ writeU64 g.nonce.1)))))

def writeAuthorityGrant (g : AuthorityGrant) : Writer := taggedWriter AUTHORITY_TAG ++ writeGrantBody g

def encodeAuthorityGrant (g : AuthorityGrant) : Bytes := encodeWith writeAuthorityGrant g

def readGrantInput : CoreReader AuthorityGrantInput := do
  let lineage ← readLineageInput
  let principal ← readPartyInput
  let holder ← readPartyInput
  let notBefore ← readI64
  let expiresAt ← readI64
  let terms ← readList MAX_GRANT_TERMS readTermInput true
  let nonce ← (fun n : Nat => (n : Int)) <$> readU64
  pure ⟨lineage, principal, holder, .bigint notBefore, .bigint expiresAt, terms, .bigint nonce⟩

def decodeAuthorityGrant (bytes : Bytes) : CoreResult AuthorityGrant :=
  decodeTagged bytes AUTHORITY_TAG readGrantInput fun input => validateAuthorityGrant input "grant"

def authorityId [Keccak] (g : AuthorityGrant) : AuthorityId := keccakDigest (encodeAuthorityGrant g)

def lineageInputOf : GrantLineage → GrantLineageInput
  | .root issuer => .root (partyIdInputOf issuer)
  | .delegation parent issuer => .delegation parent.toHex (partyIdInputOf issuer)

def authorityGrantInputOf (g : AuthorityGrant) : AuthorityGrantInput :=
  ⟨lineageInputOf g.lineage, partyIdInputOf g.principal, partyIdInputOf g.holder,
    .bigint g.window.notBefore.1, .bigint g.window.expiresAt.1, g.terms.items.map termInputOf,
    .bigint g.nonce.1⟩

/-- Terms that say what an action may do: a policy holds none of them. -/
def GRANTING_TERM_KINDS : List TermKind := [.set, .right]

def POLICY_TERM_KINDS : List TermKind := [.ledgerDimension, .stateInvariant, .statePolicy]

def isPolicyTerm (t : AuthorityTerm) : Bool := POLICY_TERM_KINDS.contains t.kind

structure PrincipalPolicyInput where
  principal : PartyIdInput
  sequence : IntegerInput
  terms : List AuthorityTermInput
  nonce : IntegerInput

structure PrincipalPolicy where
  principal : PrincipalId
  sequence : Uint64
  terms : TermList MAX_POLICY_TERMS isPolicyTerm
  nonce : Uint64
deriving DecidableEq

theorem validateTerm_kind {input : AuthorityTermInput} {path : String} {t : AuthorityTerm}
    (ok : validateTerm input path = .ok t) : t.kind = input.kind := by
  cases input <;>
  · obtain ⟨body, _, rfl⟩ := except_map_success ok
    rfl

/-- The kind is refused before the body is validated, so a granting term is named as such. -/
def validatePolicyTerm : TermValidator isPolicyTerm := fun input path =>
  if GRANTING_TERM_KINDS.contains input.kind then
    fail .principalPolicyGrantsAuthority (atField path "kind")
  else if permitted : POLICY_TERM_KINDS.contains input.kind = true then
    match parsed : validateTerm input path with
    | .ok t => .ok ⟨t, by rw [isPolicyTerm, validateTerm_kind parsed]; exact permitted⟩
    | .error error => .error error
  else fail .principalPolicyTermNotPermitted (atField path "kind")

def validatePrincipalPolicy (input : PrincipalPolicyInput) (path : String) :
    CoreResult PrincipalPolicy := do
  let principal ← validatePartyId input.principal (atField path "principal")
  let sequence ← parseUint64 input.sequence (atField path "sequence")
  let terms ← validateTermList validatePolicyTerm input.terms (atField path "terms")
  let nonce ← parseUint64 input.nonce (atField path "nonce")
  .ok ⟨principal, sequence, terms, nonce⟩

def writePolicyBody (p : PrincipalPolicy) : Writer :=
  writeParty p.principal ++ (writeU64 p.sequence.1 ++ (writeList writeTerm p.terms.items ++
    writeU64 p.nonce.1))

def writePrincipalPolicy (p : PrincipalPolicy) : Writer :=
  taggedWriter PRINCIPAL_POLICY_TAG ++ writePolicyBody p

def encodePrincipalPolicy (p : PrincipalPolicy) : Bytes := encodeWith writePrincipalPolicy p

def readPolicyInput : CoreReader PrincipalPolicyInput := do
  let principal ← readPartyInput
  let sequence ← (fun n : Nat => (n : Int)) <$> readU64
  let terms ← readList MAX_POLICY_TERMS readTermInput true
  let nonce ← (fun n : Nat => (n : Int)) <$> readU64
  pure ⟨principal, .bigint sequence, terms, .bigint nonce⟩

def decodePrincipalPolicy (bytes : Bytes) : CoreResult PrincipalPolicy :=
  decodeTagged bytes PRINCIPAL_POLICY_TAG readPolicyInput fun input =>
    validatePrincipalPolicy input "policy"

def principalPolicyId [Keccak] (p : PrincipalPolicy) : PrincipalPolicyId :=
  keccakDigest (encodePrincipalPolicy p)

def principalPolicyInputOf (p : PrincipalPolicy) : PrincipalPolicyInput :=
  ⟨partyIdInputOf p.principal, .bigint p.sequence.1, p.terms.items.map termInputOf, .bigint p.nonce.1⟩

def dimensionOf : AuthorityTerm → Option LedgerDimensionTerm
  | .ledgerDimension t => some t
  | _ => none

def invariantOf : AuthorityTerm → Option StateInvariantTerm
  | .stateInvariant t => some t
  | _ => none

def statePolicyOf : AuthorityTerm → Option StatePolicyTerm
  | .statePolicy t => some t
  | _ => none

def policyDimensions (p : PrincipalPolicy) : List LedgerDimensionTerm := p.terms.items.filterMap dimensionOf

def policyInvariants (p : PrincipalPolicy) : List StateInvariantTerm := p.terms.items.filterMap invariantOf

def policyStatePolicy (p : PrincipalPolicy) : List StatePolicyTerm := p.terms.items.filterMap statePolicyOf

@[simp] theorem validateLineage_self (l : GrantLineage) (path : String) :
    validateLineage (lineageInputOf l) path = .ok l := by
  cases l <;> simp [validateLineage, lineageInputOf, bind, Except.bind]

theorem validateAuthorityGrant_self (g : AuthorityGrant) (path : String) :
    validateAuthorityGrant (authorityGrantInputOf g) path = .ok g := by
  have terms := validateTermList_self (f := validateGrantTerm)
    (fun t path => by simp [validateGrantTerm, validateTerm_self, Except.map]) g.terms
  simp only [validateAuthorityGrant, authorityGrantInputOf, bind, Except.bind, validateLineage_self,
    validatePartyId_self, dif_pos g.issued, validateWindow_self, terms, parseUint64_self]

theorem validatePrincipalPolicy_self (p : PrincipalPolicy) (path : String) :
    validatePrincipalPolicy (principalPolicyInputOf p) path = .ok p := by
  have terms := validateTermList_self (f := validatePolicyTerm) (fun t path => by
    obtain ⟨t, admitted⟩ := t
    have grants : GRANTING_TERM_KINDS.contains (termInputOf t).kind = false := by
      cases t <;> first | rfl | cases admitted
    have kind := validateTerm_kind (validateTerm_self t path)
    have permitted : POLICY_TERM_KINDS.contains (termInputOf t).kind = true := by
      rw [← kind]
      exact admitted
    rw [validatePolicyTerm, grants, if_neg Bool.false_ne_true, dif_pos permitted]
    split
    · rename_i parsed
      rw [validateTerm_self] at parsed
      cases parsed
      rfl
    · rename_i parsed
      rw [validateTerm_self] at parsed
      cases parsed) p.terms
  simp only [validatePrincipalPolicy, principalPolicyInputOf, bind, Except.bind, validatePartyId_self,
    parseUint64_self, terms]

theorem frames_grant (g : AuthorityGrant) :
    Frames (writeGrantBody g) readGrantInput (authorityGrantInputOf g) 1177318 := by
  have lineage : Frames (writeLineage g.lineage) readLineageInput (lineageInputOf g.lineage) 293 := by
    refine .bind (frames_code _ _) (n := 292) ?_
    cases g.lineage with
    | root issuer => exact (frames_party issuer).map.mono (by decide)
    | delegation parent issuer =>
      exact Frames.mono (.bind (frames_digest _) (.last (frames_party _))) (by decide)
  refine Frames.mono (.bind lineage (.bind (frames_party _) (.bind (frames_party _)
    (.bind (frames_i64 _) (.bind (frames_i64 _) (.bind (frames_terms _) (.last (frames_u64_int _)))))))) ?_
  decide

theorem frames_policy (p : PrincipalPolicy) :
    Frames (writePolicyBody p) readPolicyInput (principalPolicyInputOf p) 1176757 := by
  refine Frames.mono (.bind (frames_party _) (.bind (frames_u64_int _) (.bind (frames_terms _)
    (.last (frames_u64_int _))))) ?_
  decide

theorem total_grant (g : AuthorityGrant) : (writeGrantBody g).Total := by
  have lineage : (writeLineage g.lineage).Total := by
    cases g.lineage <;> simp [writeLineage, writeLineageBody]
  simp (disch := first | decide | simp) [writeGrantBody, lineage]

theorem total_policy (p : PrincipalPolicy) : (writePolicyBody p).Total := by
  simp (disch := first | decide | simp) [writePolicyBody]

end Mandate.Core
