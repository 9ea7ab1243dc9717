import Mandate.Portfolio.Replay
import Mandate.Portfolio.Verifier

/-! What a screening and each check of the verifier establish when they report nothing. -/
namespace Mandate.Portfolio
open Core Lib.Table List
open Kernel (Secp256k1)

/-- An operation that applies to an agent exactly what comparing first entries reads of it, and
names an agent that can sign. -/
def AllocationOp.Plain : AllocationOp → Prop
  | .commit agent _ amounts | .release agent _ amounts =>
    agent.kind.1 = PARTY_KIND_EIP155_ADDRESS ∧
      ∀ a ∈ amounts, totalOf amounts a.resource = amountOf amounts a.resource
  | .claim .. => True

instance : DecidablePred AllocationOp.Plain
  | .commit .. | .release .. => inferInstanceAs (Decidable (_ ∧ _))
  | .claim .. => inferInstanceAs (Decidable True)

theorem totalOf_plain {amounts : ResourceVector}
    (plain : ∀ a ∈ amounts, totalOf amounts a.resource = amountOf amounts a.resource) (r : PortfolioResourceId) :
    totalOf amounts r = amountOf amounts r := by
  by_cases listed : ∃ a ∈ amounts, a.resource = r
  · obtain ⟨a, member, rfl⟩ := listed
    exact plain a member
  · have absent : ∀ a ∈ amounts, a.resource ≠ r := fun a member same => listed ⟨a, member, same⟩
    rw [totalOf_eq_zero absent, amountOf_absent absent]

variable [Keccak] {signed : SignedProposal}

theorem byDigest_some {proposals : List SignedProposal} {d : String}
    (found : byDigest proposals d = some signed) : signed ∈ proposals ∧ proposalText signed.proposal = d := by
  rw [byDigest] at found
  have named := find?_some found
  have inside := mem_of_find?_eq_some found
  exact ⟨mem_reverse.mp inside, of_decide_eq_true named⟩

theorem signedRelease_some {supplied : List SignedRelease} {id : String} {signed : SignedRelease}
    (found : signedRelease supplied id = some signed) : signed ∈ supplied ∧ releaseText signed.release = id := by
  rw [signedRelease] at found
  have named := find?_some found
  have inside := mem_of_find?_eq_some found
  exact ⟨mem_reverse.mp inside, of_decide_eq_true named⟩

theorem mem_inOrder {input : VerifierInput} :
    signed ∈ inOrder input ↔ ∃ d ∈ input.candidate.accepted, byDigest input.proposals d = some signed := by
  simp [inOrder]

theorem deriveChildAuthorization_cases {m : PortfolioMandate} {p : AgentProposal} {a : ResolvedAction} {now : Int}
    {derived : Except (List Reason) ChildExecutionAuthorization}
    (derives : deriveChildAuthorization m p a now = some derived) :
    (∃ reasons, derived = .error reasons ∧ reasons ≠ []) ∨
    ∃ child, derived = .ok child ∧ child.agent = p.agent ∧ child.approved = a.demand ∧
      checkChildAuthorization m child = [] := by
  unfold deriveChildAuthorization at derives
  split at derives
  · cases derives
    exact Or.inl ⟨_, rfl, cons_ne_nil _ _⟩
  · rename_i agent known
    obtain ⟨byAgent, _, derives⟩ := Option.bind_eq_some_iff.mp derives
    obtain ⟨byPortfolio, _, derives⟩ := Option.bind_eq_some_iff.mp derives
    extract_lets bound ends notBefore expiresAt found reasons at derives
    split at derives
    · rename_i refused
      cases derives
      refine Or.inl ⟨_, rfl, ?_⟩
      rw [ne_eq, canonicalReasons_eq_nil]
      exact refused
    · obtain ⟨scope, _, derives⟩ := Option.bind_eq_some_iff.mp derives
      extract_lets child recheck at derives
      split at derives
      · rename_i rechecked
        cases derives
        exact Or.inr ⟨child, rfl, (agentPolicyOf_some known).2, rfl, rechecked⟩
      · rename_i widens
        cases derives
        exact Or.inl ⟨recheck, rfl, widens⟩

variable [Secp256k1]

section Screened
variable {m : PortfolioMandate} {bindings : List DomainBinding} {signed : SignedProposal} {now : Int}
  {s : Screening}

structure Passed (m : PortfolioMandate) (signed : SignedProposal) (s : Screening)
    (child : ChildExecutionAuthorization) : Prop where
  mandate : signed.proposal.portfolioMandate = portfolioMandateDigest m
  known : Known m signed.proposal.agent
  signature : proposalSignedByAgent signed.proposal signed.signature = true
  agent : child.agent = signed.proposal.agent
  demand : child.approved = s.demand
  unrepeated : Unrepeated s.demand

theorem screenProposal_cases (screened : screenProposal m bindings signed now = some s) :
    (s.child = none ∧ s.reasons ≠ []) ∨ ∃ child, s.child = some child ∧ Passed m signed s child := by
  have refused : ∀ reasons registry action, reasons ≠ [] →
      (refusedScreening reasons registry action).child = none ∧
        (refusedScreening reasons registry action).reasons ≠ [] := by
    intro reasons registry action named
    exact ⟨rfl, fun empty => named (canonicalReasons_eq_nil.mp empty)⟩
  unfold screenProposal at screened
  extract_lets p at screened
  split at screened
  · cases screened
    exact Or.inl (refused _ _ _ (cons_ne_nil _ _))
  · rename_i mandate
    split at screened
    · cases screened
      exact Or.inl (refused _ _ _ (cons_ne_nil _ _))
    · rename_i agent known
      split at screened
      · cases screened
        exact Or.inl (refused _ _ _ (cons_ne_nil _ _))
      · rename_i signature
        split at screened
        · rename_i reasons named registry resolution
          cases screened
          exact Or.inl (refused _ _ _ (append_ne_nil_of_right_ne_nil _ named))
        · rename_i action registry resolution
          extract_lets found at screened
          obtain ⟨derived, derives, screened⟩ := Option.bind_eq_some_iff.mp screened
          rcases deriveChildAuthorization_cases derives with ⟨reasons, rfl, named⟩ |
            ⟨child, rfl, owner, approved, _⟩
          · cases screened
            exact Or.inl (refused _ _ _ (append_ne_nil_of_right_ne_nil _ named))
          · simp only at screened
            split at screened
            · rename_i wrong
              cases screened
              exact Or.inl (refused _ _ _ wrong)
            · cases screened
              refine Or.inr ⟨child, rfl, ?_⟩
              exact {
                mandate := not_not.mp mandate
                known := known_iff.mp (by rw [known]; exact Option.some_ne_none _)
                signature := by simpa using signature
                agent := owner
                demand := approved
                unrepeated := action.unrepeated }

end Screened

section Accepted
variable {m : PortfolioMandate} {bindings : List DomainBinding} {now : Int}

def Yields (m : PortfolioMandate) (bindings : List DomainBinding) (now : Int) (signed : SignedProposal)
    (x : VerifiedChild × ResourceVector) : Prop :=
  ∃ s, screenProposal m bindings signed now = some s ∧ Passed m signed s x.1.child ∧ x.2 = s.demand ∧
    x.1.proposal = proposalDigest signed.proposal

theorem verifyAccepted_passed {ordered : List SignedProposal} {last : PMap Identifier Int}
    {passed : List (VerifiedChild × ResourceVector)}
    (verified : verifyAccepted m bindings now ordered last = some ([], passed)) :
    List.Forall₂ (Yields m bindings now) ordered passed := by
  induction ordered generalizing last passed with
  | nil =>
    cases verified
    exact .nil
  | cons signed rest ih =>
    rw [verifyAccepted] at verified
    obtain ⟨s, screened, verified⟩ := Option.bind_eq_some_iff.mp verified
    obtain ⟨⟨found, children⟩, later, verified⟩ := Option.bind_eq_some_iff.mp verified
    simp only at verified
    rcases screenProposal_cases screened with ⟨none, refused⟩ | ⟨child, some, passes⟩
    · rw [none] at verified
      simp only [Option.some.injEq, Prod.mk.injEq, append_eq_nil_iff, prefixed_eq_nil] at verified
      exact absurd verified.1.1.2 refused
    · rw [some] at verified
      simp only [Option.some.injEq, Prod.mk.injEq, append_eq_nil_iff] at verified
      obtain ⟨⟨_, rfl⟩, rfl⟩ := verified
      exact .cons ⟨s, screened, passes, rfl, rfl⟩ (ih later)

end Accepted

section Log
variable {c : PortfolioCandidate} {proposals : List SignedProposal} {supplied : List SignedRelease}
  {demands : List (String × ResourceVector)}

/-- What the verifier checks of one operation, whatever came before it. -/
def Checked (c : PortfolioCandidate) (proposals : List SignedProposal) (supplied : List SignedRelease)
    (demands : List (String × ResourceVector)) : AllocationOp → Prop
  | .release agent id amounts => ∃ s, signedRelease supplied id = some s ∧ genuineRelease c agent amounts s = true
  | .claim .. => True
  | .commit agent id amounts => ∃ signed, byDigest proposals id = some signed ∧ id ∈ c.accepted ∧
      signed.proposal.agent.value = agent.value ∧
      ∀ demand, demands.lookup id = some demand → vectorsEqual demand amounts = true

theorem checkLog_checked {log earlier : List AllocationOp} {last : PMap Identifier Int}
    (clean : checkLog c proposals supplied demands log earlier last = []) :
    ∀ op ∈ log, Checked c proposals supplied demands op := by
  induction log generalizing earlier last with
  | nil => exact nofun
  | cons op rest ih =>
    intro other member
    cases op with
    | commit agent id amounts =>
      rw [checkLog, append_eq_nil_iff] at clean
      obtain ⟨here, later⟩ := clean
      rcases mem_cons.mp member with rfl | onward
      · split at here
        · cases here
        · rename_i signed found
          split at here
          · cases here
          · rename_i accepted
            split at here
            · cases here
            · rename_i owner
              refine ⟨signed, found, not_not.mp accepted, not_not.mp owner, ?_⟩
              intro demand known
              rw [known] at here
              simpa using here
      · exact ih later other onward
    | claim agent id lot amount =>
      rw [checkLog, append_eq_nil_iff] at clean
      rcases mem_cons.mp member with rfl | onward
      · trivial
      · exact ih clean.2 other onward
    | release agent id amounts =>
      rw [checkLog] at clean
      generalize (if (earlier.any fun op => decide (op.kind = .release ∧ op.id = id)) = true then
        [mismatch ("release-duplicate:" ++ id)] else []) = repeated at clean
      split at clean
      · cases clean
      · rename_i s genuine
        obtain ⟨found, checked⟩ := Option.filter_eq_some_iff.mp genuine
        simp only at clean
        split at clean
        · exact absurd clean (by simp)
        · rw [append_eq_nil_iff] at clean
          rcases mem_cons.mp member with rfl | onward
          · exact ⟨s, found, checked⟩
          · exact ih clean.2 other onward

theorem checkLog_release {agent : AgentId} {amounts : ResourceVector} {rest : List AllocationOp} {s : SignedRelease}
    (genuine : genuineRelease c agent amounts s = true) :
    checkLog c proposals [s] demands (.release agent (releaseText s.release) amounts :: rest) [] ∅ =
      checkLog c proposals [s] demands rest [.release agent (releaseText s.release) amounts]
        ((∅ : PMap Identifier Int).insert s.release.agent.value s.release.sequence.1) := by
  have found : signedRelease [s] (releaseText s.release) = some s := by simp [signedRelease]
  rw [checkLog, found, Option.filter_some, if_pos genuine]
  rfl

end Log

end Mandate.Portfolio
