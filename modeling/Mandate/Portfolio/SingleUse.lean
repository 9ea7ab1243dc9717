import Mandate.Ledger.Batches
import Mandate.Portfolio.Codec
import Mandate.Portfolio.Permission
import Mandate.Portfolio.Reservation
import Mandate.Portfolio.Soundness

/-! One signed proposal, one action, one reservation: whenever a proposal is screened it compiles to
the same action, so no run of reservations, admissions and closes reserves for it twice. -/
set_option linter.dupNamespace false
namespace Mandate.Portfolio
open Core Ledger Control Lib.Wire Lib.Table Lib.Machine List
open Lib.Optimistic Lib.Text
open Kernel (Secp256k1)
open Option (some.inj bind_eq_some_iff)

section Derivation
variable [Keccak] {m : PortfolioMandate} {p : AgentProposal} {a : ResolvedAction} {now : Int}

def derivedChild (m : PortfolioMandate) (p : AgentProposal) (agent : AgentPolicy) (a : ResolvedAction)
    (scope : AuthorityScope) : ChildExecutionAuthorization where
  portfolioMandate := portfolioMandateDigest m
  principal := m.principal
  agent := agent.agent
  proposal := proposalDigest p
  candidate := candidateDigest p.candidate
  scope
  approved := a.demand
  notBefore := max (max p.createdAt.1 agent.window.notBefore.1) m.window.notBefore.1
  expiresAt := ([agent.window.expiresAt.1, m.window.expiresAt.1] ++
    (match a.quoteObservedAt, quoteAgeBound agent.scope m.scope with
      | some observedAt, some age => [quoteExpiresAt observedAt age.1]
      | _, _ => [])).foldl min p.expiresAt.1

theorem deriveChildAuthorization_ok {child : ChildExecutionAuthorization}
    (derives : deriveChildAuthorization m p a now = some (.ok child)) :
    ∃ agent scope, agentPolicyOf m p.agent = some agent ∧
      authorizedScope a (quoteAgeBound agent.scope m.scope) = some scope ∧ child = derivedChild m p agent a scope := by
  unfold deriveChildAuthorization at derives
  split at derives
  · cases derives
  · rename_i agent known
    obtain ⟨byAgent, _, derives⟩ := bind_eq_some_iff.mp derives
    obtain ⟨byPortfolio, _, derives⟩ := bind_eq_some_iff.mp derives
    extract_lets bound ends notBefore expiresAt found reasons at derives
    split at derives
    · cases derives
    · obtain ⟨scope, narrowed, derives⟩ := bind_eq_some_iff.mp derives
      extract_lets built recheck at derives
      split at derives
      · obtain rfl := Except.ok.inj (some.inj derives)
        exact ⟨agent, scope, known, narrowed, rfl⟩
      · cases derives

variable [Secp256k1] {bindings : List DomainBinding} {signed : SignedProposal} {s : Screening}

theorem screenProposal_child {child : ChildExecutionAuthorization}
    (screened : screenProposal m bindings signed now = some s) (yields : s.child = some child) :
    ∃ agent a registry, agentPolicyOf m signed.proposal.agent = some agent ∧
      resolveCandidate bindings m agent signed.proposal.candidate now = .resolved a registry ∧
      deriveChildAuthorization m signed.proposal a now = some (.ok child) := by
  unfold screenProposal at screened
  extract_lets p at screened
  split at screened
  · cases screened
    cases yields
  · split at screened
    · cases screened
      cases yields
    · rename_i agent known
      split at screened
      · cases screened
        cases yields
      · split at screened
        · cases screened
          cases yields
        · rename_i a registry resolution
          extract_lets found at screened
          obtain ⟨derived, derives, screened⟩ := bind_eq_some_iff.mp screened
          cases derived with
          | error reasons =>
            cases screened
            cases yields
          | ok derived =>
            simp only at screened
            split at screened
            · cases screened
              cases yields
            · cases screened
              cases yields
              exact ⟨agent, a, registry, known, resolution, derives⟩

end Derivation

section Timeless
variable [Keccak]

def Timeless (b : DomainBinding) : Prop :=
  ∀ candidate ctx now, b.resolve candidate { ctx with now } = b.resolve candidate ctx

omit [Keccak] in
theorem fixture_timeless (config : FixtureModule) : Timeless (createFixtureBinding config).toDomainBinding :=
  fun _ _ _ => rfl

omit [Keccak] in
theorem perps_timeless (config : PerpsConfig) : Timeless (createPerpsBinding config).toDomainBinding :=
  fun _ _ _ => rfl

omit [Keccak] in
theorem bindingFor_map (bindings : List Binding) (kind : ActionKind) :
    bindingFor (bindings.map (·.toDomainBinding)) kind = (bindingOf bindings kind).map (·.toDomainBinding) := by
  have same : (bindings.map (·.toDomainBinding)).filter (fun b => b.kind = kind) =
      (bindings.filter fun b => b.kind = kind).map (·.toDomainBinding) := by
    rw [filter_map]
    rfl
  rw [bindingFor, bindingOf, same]
  generalize bindings.filter (fun b => b.kind = kind) = chosen
  rcases chosen with _ | ⟨b, _ | ⟨_, _⟩⟩ <;> rfl

omit [Keccak] in
theorem bindingOf_some {bindings : List Binding} {kind : ActionKind} {b : Binding}
    (chosen : bindingOf bindings kind = .ok b) : b ∈ bindings ∧ b.kind = kind := by
  unfold bindingOf at chosen
  split at chosen
  · rename_i lone filtered
    cases chosen
    have listed : b ∈ bindings.filter fun b => b.kind = kind := by rw [filtered]; exact mem_singleton_self _
    simpa using mem_filter.mp listed
  · cases chosen

variable [Secp256k1]

/-- Screening accepts the signed proposal at `time`, with this child. -/
def Accepts (c : CompiledPortfolio) (signed : SignedProposal) (time : Int) (child : ChildExecutionAuthorization) : Prop :=
  ∃ s, screenProposal c.mandate (domainBindings c) signed time = some s ∧ s.child = some child

variable {c : CompiledPortfolio} {signed other : SignedProposal} {time later : Int}
  {child again : ChildExecutionAuthorization}

theorem Accepts.built (accepts : Accepts c signed time child) :
    ∃ agent b a registry scope, agentPolicyOf c.mandate signed.proposal.agent = some agent ∧
      bindingOf c.bindings signed.proposal.candidate.kind = .ok b ∧
      b.resolve signed.proposal.candidate ⟨c.mandate, agent, c.mandate.resources.members, time⟩ = .resolved a registry ∧
      authorizedScope a (quoteAgeBound agent.scope c.mandate.scope) = some scope ∧
      child = derivedChild c.mandate signed.proposal agent a scope := by
  obtain ⟨s, screened, yields⟩ := accepts
  obtain ⟨agent, a, registry, known, resolution, derives⟩ := screenProposal_child screened yields
  obtain ⟨agent', scope, known', narrowed, rfl⟩ := deriveChildAuthorization_ok derives
  obtain rfl := some.inj (known.symm.trans known')
  rw [resolveCandidate, domainBindings, bindingFor_map] at resolution
  cases chosen : bindingOf c.bindings signed.proposal.candidate.kind with
  | error refused => simp [chosen, Except.map] at resolution
  | ok b =>
    simp only [chosen, Except.map] at resolution
    exact ⟨agent, b, a, registry, scope, known, rfl, resolution, narrowed, rfl⟩

theorem Accepts.candidate (accepts : Accepts c signed time child) :
    child.candidate = candidateDigest signed.proposal.candidate := by
  obtain ⟨agent, b, a, registry, scope, _, _, _, _, rfl⟩ := accepts.built
  rfl

theorem accepted_child (accepts : Accepts c signed time child) (repeated : Accepts c other later again)
    (same : signed.proposal = other.proposal)
    (timeless : ∀ b, bindingOf c.bindings signed.proposal.candidate.kind = .ok b → Timeless b.toDomainBinding) :
    child = again := by
  obtain ⟨agent, b, a, registry, scope, known, chosen, resolved, narrowed, rfl⟩ := accepts.built
  obtain ⟨agent', b', a', registry', scope', known', chosen', resolved', narrowed', rfl⟩ := repeated.built
  rw [← same] at known' chosen' resolved'
  obtain rfl := some.inj (known.symm.trans known')
  obtain rfl := Except.ok.inj (chosen.symm.trans chosen')
  have still := timeless b chosen signed.proposal.candidate
    ⟨c.mandate, agent, c.mandate.resources.members, time⟩ later
  rw [resolved] at still
  obtain ⟨rfl, -⟩ := Resolution.resolved.inj (resolved'.symm.trans still)
  obtain rfl := some.inj (narrowed.symm.trans narrowed')
  rw [same]

theorem accepted_action (known : ∀ b ∈ c.bindings, RepositoryBinding b) (accepts : Accepts c signed time child)
    (repeated : Accepts c other later again) (same : signed.proposal = other.proposal) :
    compileAction c child signed.proposal.candidate = compileAction c again signed.proposal.candidate := by
  obtain ⟨agent, b, a, registry, scope, agreed, chosen, resolved, narrowed, built⟩ := accepts.built
  have supplied := known b (bindingOf_some chosen).1
  cases supplied with
  | fixture config =>
    rw [accepted_child accepts repeated same fun b' chosen' => by
      obtain rfl := Except.ok.inj (chosen.symm.trans chosen')
      exact fixture_timeless config]
  | perps config =>
    rw [accepted_child accepts repeated same fun b' chosen' => by
      obtain rfl := Except.ok.inj (chosen.symm.trans chosen')
      exact perps_timeless config]
  | stock config =>
    obtain ⟨agent', b', a', registry', scope', agreed', chosen', resolved', narrowed', built'⟩ := repeated.built
    rw [← same] at agreed' chosen' resolved' built'
    obtain rfl := some.inj (agreed.symm.trans agreed')
    obtain rfl := Except.ok.inj (chosen.symm.trans chosen')
    have unquoted := stock_unquoted resolved
    have unquoted' := stock_unquoted resolved'
    -- Its scope may tell the two apart, but neither the envelope nor the action reads it.
    obtain ⟨narrow, approved, rfl⟩ : ∃ narrow approved, child = { again with scope := narrow, approved } := by
      refine ⟨child.scope, child.approved, ?_⟩
      subst built built'
      simp only [derivedChild, unquoted, unquoted', same]
    simp only [compileAction, chosen]
    rfl

end Timeless

section Boundary
variable [Keccak] [Secp256k1] {m : PortfolioMandate} {bindings : List DomainBinding} {now : Int}

/-- Where a verified child comes from: a proposal that was screened, and nothing else. -/
def Stems (m : PortfolioMandate) (bindings : List DomainBinding) (now : Int) (signed : SignedProposal)
    (x : VerifiedChild) : Prop :=
  (∃ s, screenProposal m bindings signed now = some s ∧ s.child = some x.child) ∧
    x.digest = childAuthorizationDigest x.child ∧ x.candidate = signed.proposal.candidate ∧
    x.proposal = proposalDigest signed.proposal

theorem verifyAccepted_stems {ordered : List SignedProposal} {last : PMap Identifier Int}
    {found : List Reason} {passed : List (VerifiedChild × ResourceVector)}
    (verified : verifyAccepted m bindings now ordered last = some (found, passed)) :
    ∀ x ∈ passed, ∃ signed ∈ ordered, Stems m bindings now signed x.1 := by
  induction ordered generalizing last found passed with
  | nil =>
    obtain ⟨-, rfl⟩ := Prod.mk.inj (some.inj verified)
    intro x member
    cases member
  | cons signed rest ih =>
    rw [verifyAccepted] at verified
    obtain ⟨s, screened, verified⟩ := bind_eq_some_iff.mp verified
    obtain ⟨⟨_, children⟩, later, verified⟩ := bind_eq_some_iff.mp verified
    simp only at verified
    have onward : ∀ x ∈ children, ∃ other ∈ signed :: rest, Stems m bindings now other x.1 := by
      intro x member
      obtain ⟨other, listed, stems⟩ := ih later x member
      exact ⟨other, mem_cons_of_mem _ listed, stems⟩
    cases yields : s.child with
    | none =>
      rw [yields] at verified
      cases verified
      exact onward
    | some child =>
      rw [yields] at verified
      cases verified
      intro x member
      rcases mem_cons.mp member with rfl | member
      · exact ⟨signed, mem_cons_self, ⟨s, screened, yields⟩, rfl, rfl, rfl⟩
      · exact onward x member

theorem verifyPortfolio_stems {input : VerifierInput} {children : List VerifiedChild} {book : AllocationBook}
    {approved : ResourceVector} (verified : verifyPortfolio input = some (.verified children book approved)) :
    ∀ x ∈ children, ∃ signed ∈ input.proposals, Stems input.mandate input.bindings input.now signed x := by
  unfold verifyPortfolio at verified
  extract_lets m c refuse mandate at verified
  split at verified
  · cases verified
  · split at verified
    · cases verified
    · obtain ⟨⟨screened, passed⟩, accepted, verified⟩ := bind_eq_some_iff.mp verified
      cases replayed : replayAllocation m c.allocationLog with
      | error why =>
        rw [replayed] at verified
        cases verified
      | ok book =>
        simp only [replayed] at verified
        split at verified
        · cases verified
        · simp only [Option.some.injEq, VerifierResult.verified.injEq] at verified
          obtain ⟨rfl, rfl, rfl⟩ := verified
          intro x member
          obtain ⟨y, passes, rfl⟩ := mem_map.mp ((mem_insertionSort _).mp member)
          obtain ⟨signed, listed, stems⟩ := verifyAccepted_stems accepted y passes
          obtain ⟨d, _, found⟩ := mem_inOrder.mp listed
          exact ⟨signed, (byDigest_some found).1, stems⟩

variable {core : PortfolioCore} {transcript : VerificationTranscript} {digest : ChildAuthorizationDigest}
  {time : Int} {verified : VerifiedChild}

theorem verifiedAtBoundary_ok (passes : verifiedAtBoundary core transcript digest time = some (.ok verified)) :
    verified.digest = digest ∧ ∃ signed ∈ transcript.proposals,
      Accepts core.compiled signed transcript.verifiedAt verified.child ∧
      verified.digest = childAuthorizationDigest verified.child ∧
      verified.candidate = signed.proposal.candidate ∧ verified.proposal = proposalDigest signed.proposal := by
  unfold verifiedAtBoundary at passes
  extract_lets m at passes
  obtain ⟨result, verification, passes⟩ := bind_eq_some_iff.mp passes
  cases result with
  | refused reasons => cases passes
  | verified children book approved =>
    simp only at passes
    split at passes
    · cases passes
    · rename_i chosen found
      split at passes
      · cases passes
      · obtain ⟨current, _, passes⟩ := bind_eq_some_iff.mp passes
        split at passes
        · cases passes
        · split at passes
          · cases passes
          · obtain rfl := Except.ok.inj (some.inj passes)
            obtain ⟨signed, supplied, accepts, own, candidate, proposal⟩ :=
              verifyPortfolio_stems verification _ (mem_of_find?_eq_some found)
            exact ⟨by simpa using find?_some found, signed, supplied, accepts, own, candidate, proposal⟩

theorem verifyPortfolio_refused {input : VerifierInput} {reasons : List Reason}
    (refused : verifyPortfolio input = some (.refused reasons)) : reasons ≠ [] := by
  unfold verifyPortfolio at refused
  extract_lets m c refuse mandate at refused
  have named : ∀ {found : List Reason}, refuse found = some (.refused reasons) → found ≠ [] → reasons ≠ [] := by
    intro found same named
    obtain rfl := VerifierResult.refused.inj (some.inj same)
    exact fun empty => named (canonicalReasons_eq_nil.mp empty)
  split at refused
  · rename_i found
    exact named refused found
  · split at refused
    · exact named refused (cons_ne_nil _ _)
    · obtain ⟨⟨screened, passed⟩, accepted, refused⟩ := bind_eq_some_iff.mp refused
      cases replayed : replayAllocation m c.allocationLog with
      | error why =>
        simp only [replayed] at refused
        exact named refused (append_ne_nil_of_right_ne_nil _ (cons_ne_nil _ _))
      | ok book =>
        simp only [replayed] at refused
        split at refused
        · rename_i found
          exact named refused found
        · cases refused

theorem verifiedAtBoundary_error {reasons : List Reason}
    (refused : verifiedAtBoundary core transcript digest time = some (.error reasons)) : reasons ≠ [] := by
  unfold verifiedAtBoundary at refused
  extract_lets m at refused
  obtain ⟨result, verification, refused⟩ := bind_eq_some_iff.mp refused
  cases result with
  | refused found =>
    obtain rfl := Except.error.inj (some.inj refused)
    exact verifyPortfolio_refused verification
  | verified children book approved =>
    simp only at refused
    split at refused
    · obtain rfl := Except.error.inj (some.inj refused)
      exact cons_ne_nil _ _
    · split at refused
      · obtain rfl := Except.error.inj (some.inj refused)
        exact cons_ne_nil _ _
      · obtain ⟨current, screened, refused⟩ := bind_eq_some_iff.mp refused
        split at refused
        · rename_i nothing
          obtain rfl := Except.error.inj (some.inj refused)
          rcases screenProposal_cases screened with ⟨_, found⟩ | ⟨child, some, _⟩
          · exact found
          · rw [nothing] at some
            cases some
        · split at refused
          · obtain rfl := Except.error.inj (some.inj refused)
            exact cons_ne_nil _ _
          · cases refused

end Boundary

section Encodings

variable {bytes : Bytes}

theorem Frames.peel {ε α : Type} {read : Reader ε α} {first second restFirst restSecond : Writer} {x y : α}
    {m n : Nat} (one : Frames first read x m) (two : Frames second read y n)
    (writtenOne : first ++ restFirst = some bytes) (writtenTwo : second ++ restSecond = some bytes) :
    x = y ∧ ∃ rest, restFirst = some rest ∧ restSecond = some rest := by
  obtain ⟨front, back, frontWritten, backWritten, rfl⟩ := Writer.append_some.mp writtenOne
  obtain ⟨front', back', frontWritten', backWritten', same⟩ := Writer.append_some.mp writtenTwo
  have here := (one front frontWritten).2 0 back
  have there := (two front' frontWritten').2 0 back'
  rw [same, there] at here
  simp only [Except.ok.injEq, Prod.mk.injEq] at here
  obtain ⟨value, state⟩ := here
  have left : back' = back := by injection state
  exact ⟨value.symm, back, backWritten, left ▸ backWritten'⟩

private theorem Frames.unique {ε α : Type} {read : Reader ε α} {first second : Writer} {x y : α}
    {m n : Nat} (one : Frames first read x m) (two : Frames second read y n)
    (writtenOne : first = some bytes) (writtenTwo : second = some bytes) : x = y := by
  have here := (one bytes writtenOne).2 0 []
  rw [(two bytes writtenTwo).2 0 []] at here
  exact (Prod.mk.inj (Except.ok.inj here)).1.symm

theorem written_list_bounded {α : Type} {write : α → Writer} {items : List α}
    (written : writeList write items = some bytes) : items.length ≤ 65535 := by
  obtain ⟨count, _, counted, _, _⟩ := Writer.append_some.mp written
  by_contra long
  rw [writeU16, Writer.uint, if_neg (by omega)] at counted
  cases counted

theorem toHex_inj {a b : Digest32} (same : a.toHex = b.toHex) : a = b := by
  have parsed := parseDigest_toHex a ""
  rw [same, parseDigest_toHex] at parsed
  exact (Except.ok.inj parsed).symm

theorem partyInput_inj {a b : PartyId} (same : partyIdInputOf a = partyIdInputOf b) : a = b := by
  have valid := validatePartyId_self a ""
  rw [same, validatePartyId_self] at valid
  exact (Except.ok.inj valid).symm

theorem scopeInput_inj {a b : AuthorityScope} (same : authorityScopeInputOf a = authorityScopeInputOf b) :
    a = b := by
  have valid := validateAuthorityScope_self a ""
  rw [same, validateAuthorityScope_self] at valid
  exact (Except.ok.inj valid).symm

theorem frames_amounts (v : ResourceVector) : Frames (writeResourceVector v)
    (readList 65535 readAmountInput false) (v.map fun a => ⟨a.resource.1, .bigint a.atoms⟩)
    (2 + (v.map fun _ => 162).sum) := by
  intro bytes written
  have bounded := written_list_bounded written
  refine frames_list (n := fun _ => 162) bounded (fun a _ => ?_) bytes written
  exact Frames.mono (.bind (frames_identifier _) (.last (frames_readUint256 _))) (by decide)

theorem child_determined {c d : ChildExecutionAuthorization}
    (writes : writeChildBody c = some bytes) (alike : writeChildBody d = some bytes) : c = d := by
  simp only [writeChildBody, Writer.append_assoc] at writes alike
  obtain ⟨mandate, _, writes, alike⟩ := Frames.peel (frames_digest _) (frames_digest _) writes alike
  obtain ⟨principal, _, writes, alike⟩ := Frames.peel (frames_party _) (frames_party _) writes alike
  obtain ⟨agent, _, writes, alike⟩ := Frames.peel (frames_party _) (frames_party _) writes alike
  obtain ⟨proposal, _, writes, alike⟩ := Frames.peel (frames_digest _) (frames_digest _) writes alike
  obtain ⟨candidate, _, writes, alike⟩ := Frames.peel (frames_digest _) (frames_digest _) writes alike
  obtain ⟨scope, _, writes, alike⟩ := Frames.peel (frames_scope _) (frames_scope _) writes alike
  obtain ⟨approved, _, writes, alike⟩ := Frames.peel (frames_amounts _) (frames_amounts _) writes alike
  obtain ⟨starts, _, writes, alike⟩ := Frames.peel (frames_i64 _) (frames_i64 _) writes alike
  have ends := Frames.unique (frames_i64 _) (frames_i64 _) writes alike
  have amounts : c.approved = d.approved := by
    refine map_injective_iff.mpr ?_ approved
    rintro ⟨r, x⟩ ⟨r', x'⟩ same
    obtain ⟨named, counted⟩ := ResourceAmountInput.mk.inj same
    obtain rfl := Subtype.ext named
    obtain rfl := IntegerInput.bigint.inj counted
    rfl
  have within := scopeInput_inj scope
  have mandate := toHex_inj mandate
  have proposal := toHex_inj proposal
  have candidate := toHex_inj candidate
  have principal := partyInput_inj principal
  have agent := partyInput_inj agent
  clear writes alike
  obtain ⟨⟩ := c
  obtain ⟨⟩ := d
  simp only at mandate principal agent proposal candidate within amounts starts ends
  rw [mandate, principal, agent, proposal, candidate, within, amounts, starts, ends]

theorem portfolioWriter_total (tag : String) (ascii : Ascii tag) (short : tag.length ≤ 1024) :
    ∃ front, portfolioWriter tag = some front ∧ front ≠ [] := by
  obtain ⟨text, written⟩ := total_str ascii short
  have counted : writeU16 PORTFOLIO_SCHEMA_VERSION = some (beBytes 2 1) := rfl
  exact ⟨_, written_append written counted, append_ne_nil_of_right_ne_nil _ (by decide)⟩

theorem encoded_alike {α β : Type} {head : Writer} {front : Bytes} {first : α → Writer} {second : β → Writer}
    {x : α} {y : β} (headed : head = some front) (tagged : front ≠ []) (total : (second y).Total)
    (same : encodeWith (fun a => head ++ first a) x = encodeWith (fun b => head ++ second b) y) :
    ∃ bytes, first x = some bytes ∧ second y = some bytes := by
  obtain ⟨bytes, written⟩ := total
  refine ⟨bytes, ?_, written⟩
  have right : (head ++ second y : Writer) = some (front ++ bytes) := written_append headed written
  cases left : first x with
  | none =>
    have none : (head ++ first x : Writer) = none := by
      rw [left, headed]
      rfl
    simp only [encodeWith, right, none, Option.getD_none, Option.getD_some] at same
    exact absurd (append_eq_nil_iff.mp same.symm).1 tagged
  | some other =>
    have both : (head ++ first x : Writer) = some (front ++ other) := written_append headed left
    simp only [encodeWith, right, both, Option.getD_some, append_cancel_left_eq] at same
    rw [same]

theorem encodeActionCandidate_inj {c d : ActionCandidate}
    (same : encodeActionCandidate c = encodeActionCandidate d) : c = d := by
  obtain ⟨front, headed, tagged⟩ := portfolioWriter_total "PORTFOLIO_ACTION_CANDIDATE.V1"
    (ascii_of_all (by decide)) (by decide)
  obtain ⟨bytes, one, two⟩ := encoded_alike headed tagged (total_candidate d) same
  have inputs := Frames.unique (frames_candidate c) (frames_candidate d) one two
  have valid := validateActionCandidate_self c ""
  rw [inputs, validateActionCandidate_self] at valid
  exact (Except.ok.inj valid).symm

theorem encodeChild_inj {c : ChildExecutionAuthorization} {d : ValidChild}
    (same : encodeChildExecutionAuthorization c = encodeChildExecutionAuthorization d.authorization) :
    c = d.authorization := by
  obtain ⟨front, headed, tagged⟩ := portfolioWriter_total "PORTFOLIO_CHILD_AUTHORIZATION.V1"
    (ascii_of_all (by decide)) (by decide)
  have total : (writeChildBody d.authorization).Total := by
    rw [writeChildBody]
    simp only [Writer.append_assoc]
    exact total_child d
  obtain ⟨bytes, one, two⟩ := encoded_alike headed tagged total same
  exact child_determined one two

end Encodings

section Commits
variable [Keccak] {rules : ReducerRules} {core : PortfolioCore}

/-- A reservation of a child's one action, in its one generation, and of nothing else. -/
def Reserves (c : CompiledPortfolio) (verified : VerifiedChild) (key : PrincipalId) (batch : List LedgerEvent) : Prop :=
  ∃ action time plan lineage policy legs, compileAction c verified.child verified.candidate = some (.ok action) ∧
    key = action.envelope.principal ∧ batch = [.reserve time plan lineage policy legs] ∧
    planReservationId plan = reservationIdFor (actionId action.envelope) PORTFOLIO_GENERATION

variable {request : AuthorizationRequest}

theorem requestFor_ok {child : ChildExecutionAuthorization} {candidate : ActionCandidate} {time : Int}
    {principal : PrincipalId}
    (requested : requestFor core child candidate time = some (.ok (principal, request))) :
    ∃ a, compileAction core.compiled child candidate = some (.ok a) ∧ principal = a.envelope.principal ∧
      request.action = .given (actionEnvelopeInputOf a.envelope) ∧
      request.generation = .bigint PORTFOLIO_GENERATION.1 := by
  obtain ⟨compiled, found, mapped⟩ := Option.map_eq_some_iff.mp requested
  cases compiled with
  | error refused => cases mapped
  | ok a =>
    simp only [Except.map, Except.ok.injEq, Prod.mk.injEq] at mapped
    obtain ⟨rfl, rfl⟩ := mapped
    exact ⟨a, found, rfl, rfl, rfl⟩

omit [Keccak] in
theorem checkRequest_given {req : CheckedRequest} {envelope : ActionEnvelope}
    {generation : ReservationGeneration} (checked : checkRequest request = .ok req)
    (action : request.action = .given (actionEnvelopeInputOf envelope))
    (numbered : request.generation = .bigint generation.1) : req.action = envelope ∧ req.generation = generation := by
  unfold checkRequest at checked
  rw [action, numbered] at checked
  simp only [requestAction, validateActionEnvelope_self, parseReservationGeneration_self, orInvalidRequest,
    Except.mapError, bind, Except.bind] at checked
  cases paid : requestPayload request.payload with
  | error fault => simp [paid] at checked
  | ok payload =>
    simp only [paid, Except.ok.injEq] at checked
    rw [← checked]
    exact ⟨rfl, rfl⟩

theorem authorizes_reserves {verified : VerifiedChild} {time : Int} {principal key : PrincipalId} {snapshot : LedgerSnapshot} {batch : List LedgerEvent}
    (requested : requestFor core verified.child verified.candidate time = some (.ok (principal, request)))
    (authorizes : Authorizes core.engine principal request key snapshot batch) :
    Reserves core.compiled verified key batch := by
  obtain ⟨rfl, d, usable, rfl⟩ := authorizes
  obtain ⟨decision, decided, usable⟩ := except_bind_success usable
  obtain ⟨_, _, usable⟩ := except_bind_success usable
  obtain rfl := Except.ok.inj usable
  obtain ⟨a, compiled, rfl, action, numbered⟩ := requestFor_ok requested
  obtain ⟨w, yields⟩ := decideWith_ok decided
  obtain ⟨lineage, policy, legs, reserves⟩ := yields.reserves
  obtain ⟨same, generation⟩ := checkRequest_given yields.checked action numbered
  refine ⟨a, _, decision.plan, lineage, policy, legs, compiled, rfl, by rw [reserves.event], ?_⟩
  rw [planReservationId, reserves.action, reserves.generation, same, generation]

variable [Secp256k1]

theorem reserveChild_guarded (core : PortfolioCore) (transcript : VerificationTranscript)
    (digest : ChildAuthorizationDigest) (time : Int) (retry : RetryPolicy) :
    LedgerGuarded rules (fun key _ batch => ∃ verified,
      verifiedAtBoundary core transcript digest time = some (.ok verified) ∧
        Reserves core.compiled verified key batch) (reserveChild core transcript digest time retry) := by
  unfold reserveChild
  cases boundary : verifiedAtBoundary core transcript digest time with
  | none => trivial
  | some found =>
    cases found with
    | error reasons => trivial
    | ok verified =>
      dsimp only
      cases checkChildAuthorization core.compiled.mandate verified.child with
      | cons => trivial
      | nil =>
        dsimp only
        cases requested : requestFor core verified.child verified.candidate time with
        | none => trivial
        | some request =>
          cases request with
          | error refused => trivial
          | ok request =>
            obtain ⟨principal, request⟩ := request
            intro snapshot _
            dsimp only
            cases decideWith PRODUCTION_PIPELINE snapshot request core.engine.env with
            | error fault => cases fault <;> trivial
            | ok decision =>
              dsimp only
              cases chargedReasons core.compiled verified.child decision with
              | cons => trivial
              | nil =>
                have guarded : LedgerGuarded rules _ _ := authorizeAndReserve_guarded core.engine principal request retry
                refine (Guarded.weaken guarded fun key view batch authorizes => ?_).map.forget _
                exact ⟨verified, rfl, authorizes_reserves requested authorizes⟩

end Commits

section Runs
variable [Keccak] [Secp256k1]

/-- A call to reserve, with the engine it is made through and what the bindings then supply. -/
structure ReserveCall where
  engine : ControlEngine
  states : Binding → ActionCandidate → Int → List SuppliedState
  sources : Binding → List StateSourceConfigInput
  transcript : VerificationTranscript
  digest : ChildAuthorizationDigest
  time : Int
  retry : RetryPolicy

def ReserveCall.core (call : ReserveCall) (c : CompiledPortfolio) : PortfolioCore :=
  ⟨c, call.engine, call.states, call.sources⟩

/-- What a client of the ledger does; beside reserving, admitting and closing it may do anything. -/
inductive Operation
  | reserve (call : ReserveCall)
  | attempt (engine : ControlEngine) (record : AuthorizationRecord) (request : AttemptRequest) (retry : RetryPolicy)
  | close (engine : ControlEngine) (record : AuthorizationRecord) (request : RevalidationRequest) (retry : RetryPolicy)
  | other (program : LedgerProgram Unit)

def Operation.program (c : CompiledPortfolio) : Operation → LedgerProgram Unit
  | .reserve call =>
    (reserveChild (call.core c) call.transcript call.digest call.time call.retry).map fun _ => ()
  | .attempt engine record request retry => (admitAttempt engine record request retry).map fun _ => ()
  | .close engine record request retry => (closeNeverIssued engine record request retry).map fun _ => ()
  | .other program => program

/-- Whether an operation reserves for the proposal of this digest: the child it found verified is its. -/
def Operation.reservesFor (c : CompiledPortfolio) (digest : ProposalDigest) : Operation → Bool
  | .reserve call =>
    match verifiedAtBoundary (call.core c) call.transcript call.digest call.time with
    | some (.ok verified) => verified.proposal = digest
    | _ => false
  | _ => false

/-- The messages that the digests of a run stand for: the proposals of its transcripts, the children
those yield, and what is shown to have a signature. -/
inductive Said (c : CompiledPortfolio) (p : AgentProposal) (transcripts : Set VerificationTranscript)
    (claims : Set SignClaim) : Bytes → Prop
  | own : Said c p transcripts claims (encodeAgentProposal p)
  | candidate : Said c p transcripts claims (encodeActionCandidate p.candidate)
  | supplied {t : VerificationTranscript} {signed : SignedProposal} (said : t ∈ transcripts)
      (listed : signed ∈ t.proposals) : Said c p transcripts claims (encodeAgentProposal signed.proposal)
  | derived {t : VerificationTranscript} {signed : SignedProposal} {child : ChildExecutionAuthorization}
      (said : t ∈ transcripts) (listed : signed ∈ t.proposals) (accepts : Accepts c signed t.verifiedAt child) :
      Said c p transcripts claims (encodeChildExecutionAuthorization child)
  | shown {claim : SignClaim} (said : claim ∈ claims) :
      Said c p transcripts claims (encodeChildExecutionAuthorization claim.authorized)
  | carried {claim : SignClaim} (said : claim ∈ claims) :
      Said c p transcripts claims (encodeActionCandidate claim.candidate)

def Apart (said : Bytes → Prop) : Prop :=
  ∀ a b, said a → said b → Keccak.keccak256 a = Keccak.keccak256 b → a = b

variable {c : CompiledPortfolio} {p : AgentProposal} {transcripts : Set VerificationTranscript}
  {claims : Set SignClaim} {core : PortfolioCore} {transcript : VerificationTranscript}

theorem verified_for (apart : Apart (Said c p transcripts claims)) (own : core.compiled = c)
    (said : transcript ∈ transcripts) {digest : ChildAuthorizationDigest} {time : Int} {verified : VerifiedChild}
    (passes : verifiedAtBoundary core transcript digest time = some (.ok verified))
    (whose : verified.proposal = proposalDigest p) :
    ∃ signed ∈ transcript.proposals, signed.proposal = p ∧ Accepts c signed transcript.verifiedAt verified.child ∧
      verified.candidate = p.candidate ∧ digest = childAuthorizationDigest verified.child := by
  subst own
  obtain ⟨same, signed, listed, accepts, digested, candidate, proposal⟩ := verifiedAtBoundary_ok passes
  have one : signed.proposal = p := encode_inj .proposal
    (apart _ _ (.supplied said listed) .own (proposal.symm.trans whose))
  exact ⟨signed, listed, one, accepts, by rw [candidate, one], same.symm.trans digested⟩

theorem yields_one (known : ∀ b ∈ c.bindings, RepositoryBinding b) {signed other : SignedProposal} {time later : Int}
    {child again : ChildExecutionAuthorization} {a b : CompiledAction} (one : signed.proposal = p)
    (two : other.proposal = p) (accepts : Accepts c signed time child) (repeated : Accepts c other later again)
    (compiled : compileAction c child p.candidate = some (.ok a))
    (recompiled : compileAction c again p.candidate = some (.ok b)) : a = b := by
  subst one
  rw [accepted_action known accepts repeated two.symm, recompiled] at compiled
  exact (Except.ok.inj (some.inj compiled)).symm

omit [Secp256k1] in
theorem compileAction_candidate {child : ChildExecutionAuthorization} {candidate : ActionCandidate} {a : CompiledAction}
    (compiled : compileAction c child candidate = some (.ok a)) : candidateDigest candidate = child.candidate := by
  by_contra other
  rw [compileAction, if_pos other] at compiled
  cases compiled

omit [Secp256k1] in
theorem reservationReasons_nil {claim : SignClaim} {rules : ReducerRules} {principal : PrincipalId}
    {state : LedgerState} (reachable : Reachable rules principal state)
    (clean : reservationReasons core claim state = []) :
    claim.reservation = reservationIdFor claim.action PORTFOLIO_GENERATION := by
  unfold reservationReasons at clean
  split at clean
  · cases clean
  · rename_i r known
    obtain ⟨generation, held⟩ := append_eq_nil_iff.mp clean
    split at held
    · cases held
    · rename_i whole
      simp only [not_or, not_not] at whole
      rw [reachable.identified known, whole.2.1]
      by_contra other
      rw [if_pos fun same => other (by rw [same])] at generation
      cases generation

theorem checkBeforeSign_nil (apart : Apart (Said c p transcripts claims)) (own : core.compiled = c)
    (said : transcript ∈ transcripts) {claim : SignClaim} (shown : claim ∈ claims)
    (whose : claim.child.proposal = proposalDigest p) {rules : ReducerRules} {principal : PrincipalId}
    {state : LedgerState} (reachable : Reachable rules principal state)
    (passes : checkBeforeSign core transcript claim state = some []) :
    ∃ signed child a, signed.proposal = p ∧ Accepts c signed transcript.verifiedAt child ∧
      compileAction c child p.candidate = some (.ok a) ∧
      claim.reservation = reservationIdFor (actionId a.envelope) PORTFOLIO_GENERATION := by
  obtain ⟨proof, boundary, passes⟩ := bind_eq_some_iff.mp passes
  obtain ⟨compiled, compiles, passes⟩ := bind_eq_some_iff.mp passes
  simp only [Option.some.injEq, canonicalReasons_eq_nil, append_eq_nil_iff] at passes
  obtain ⟨⟨⟨⟨⟨child, _⟩, action⟩, generation⟩, reservation⟩, _⟩ := passes
  cases proof with
  | error reasons => exact absurd child (verifiedAtBoundary_error boundary)
  | ok verified =>
    simp only [childReasons, ite_eq_right_iff, cons_ne_nil, imp_false, not_or, not_not] at child
    obtain ⟨_, proposal⟩ := child
    obtain ⟨signed, listed, one, accepts, _, digested⟩ := verified_for apart own said boundary (proposal.trans whose)
    -- The child shown is the one verified, and the candidate shown is the proposal's.
    have same : verified.child = claim.authorized := encodeChild_inj
      (apart _ _ (.derived said listed (own ▸ accepts)) (.shown shown) digested.symm)
    cases compiled with
    | error refused => simp [actionReasons] at action
    | ok a =>
      simp only [actionReasons, ite_eq_right_iff, cons_ne_nil, imp_false, not_not] at action
      have carried : claim.candidate = p.candidate := by
        have bound := compileAction_candidate compiles
        rw [← same, accepts.candidate, one] at bound
        exact encodeActionCandidate_inj (apart _ _ (.carried shown) .candidate bound)
      rw [carried, ← same, own] at compiles
      refine ⟨signed, verified.child, a, one, accepts, compiles, ?_⟩
      rw [action]
      exact reservationReasons_nil reachable reservation

section Systems
variable {ι : Type} [DecidableEq ι] {rules : ReducerRules}
  {log : List (System PrincipalId PrincipalLog LedgerSnapshot Stamp (List LedgerEvent) CommitResult Unit ι ×
    Option (LedgerCommit ι))}
  {finish : System PrincipalId PrincipalLog LedgerSnapshot Stamp (List LedgerEvent) CommitResult Unit ι}

theorem committed_reserves {operations : ι → Operation} {ledger : PrincipalId → PrincipalLog}
    (sound : ∀ key, LogSound rules key (ledger key))
    (trace : Trace (Turn (inMemoryStore rules)) ⟨ledger, fun i => (operations i).program c⟩ log finish)
    {made : LedgerCommit ι} (committed : made ∈ Lib.Optimistic.commits log) {call : ReserveCall}
    (reserving : operations made.client = .reserve call) :
    ∃ verified a, verifiedAtBoundary (call.core c) call.transcript call.digest call.time = some (.ok verified) ∧
      compileAction c verified.child verified.candidate = some (.ok a) ∧ made.key = a.envelope.principal ∧
      made.before.state.reservations.lookup (reservationIdFor (actionId a.envelope) PORTFOLIO_GENERATION) = none ∧
      (made.after.state.reservations.lookup (reservationIdFor (actionId a.envelope) PORTFOLIO_GENERATION)).isSome := by
  have guarded : LedgerGuarded rules _ _ :=
    reserveChild_guarded (call.core c) call.transcript call.digest call.time call.retry
  have decided := guarded_commits (inMemoryStore_lawful rules) trace sound (i := made.client)
    (by simp only [reserving, Operation.program]; exact guarded.map) made committed rfl
  obtain ⟨verified, boundary, a, time, plan, lineage, policy, legs, compiled, key, batch, named⟩ := decided.decided
  obtain ⟨fate, reply, appended⟩ := decided.appended
  obtain ⟨_, applied, accepted, _, after⟩ := compareAndAppend_published appended
  rw [batch] at accepted
  obtain ⟨unused, present⟩ := applyBatch_reserves accepted
  rw [named] at unused present
  exact ⟨verified, a, boundary, compiled, key, unused, by rw [after]; exact present⟩

theorem reserved_once (known : ∀ b ∈ c.bindings, RepositoryBinding b) (apart : Apart (Said c p transcripts claims))
    {operations : ι → Operation} {ledger : PrincipalId → PrincipalLog}
    (sound : ∀ key, LogSound rules key (ledger key))
    (said : ∀ i call, operations i = .reserve call → call.transcript ∈ transcripts)
    (trace : Trace (Turn (inMemoryStore rules)) ⟨ledger, fun i => (operations i).program c⟩ log finish) :
    ((Lib.Optimistic.commits log).filter fun made => (operations made.client).reservesFor c (proposalDigest p)).length ≤ 1 := by
  let marks (made : LedgerCommit ι) : Bool := (operations made.client).reservesFor c (proposalDigest p)
  change ((Lib.Optimistic.commits log).filter marks).length ≤ 1
  -- Each such commit is of the proposal's one action.
  have whose : ∀ made ∈ Lib.Optimistic.commits log, marks made = true → ∃ signed child a time, signed.proposal = p ∧
      Accepts c signed time child ∧ compileAction c child p.candidate = some (.ok a) ∧
      made.key = a.envelope.principal ∧
      made.before.state.reservations.lookup (reservationIdFor (actionId a.envelope) PORTFOLIO_GENERATION) = none ∧
      (made.after.state.reservations.lookup
        (reservationIdFor (actionId a.envelope) PORTFOLIO_GENERATION)).isSome := by
    intro made committed marked
    cases reserving : operations made.client with
    | reserve call =>
      obtain ⟨verified, a, boundary, compiled, key, unused, present⟩ :=
        committed_reserves sound trace committed reserving
      have proposal : verified.proposal = proposalDigest p := by
        simpa [marks, reserving, Operation.reservesFor, boundary] using marked
      obtain ⟨signed, _, one, accepts, candidate, _⟩ :=
        verified_for apart rfl (said _ _ reserving) boundary proposal
      rw [candidate] at compiled
      exact ⟨signed, verified.child, a, _, one, accepts, compiled, key, unused, present⟩
    | attempt | close | other => simp [marks, reserving, Operation.reservesFor] at marked
  by_cases none : (Lib.Optimistic.commits log).filter marks = []
  · rw [none]
    exact Nat.zero_le 1
  · obtain ⟨first, listed⟩ := exists_mem_of_ne_nil _ none
    obtain ⟨committed, marked⟩ := mem_filter.mp listed
    obtain ⟨signed, child, a, time, one, accepts, compiled, key, _⟩ := whose first committed marked
    let held (cell : PrincipalLog) : Prop := (cell.state.reservations.lookup
      (reservationIdFor (actionId a.envelope) PORTFOLIO_GENERATION)).isSome
    have fresh : ∀ made ∈ Lib.Optimistic.commits log, marks made = true →
        made.key = a.envelope.principal ∧ ¬held made.before ∧ held made.after := by
      intro made committed' marked'
      obtain ⟨other, again, b, later, two, repeated, recompiled, key', unused, present⟩ := whose made committed' marked'
      obtain rfl := yields_one known one two accepts repeated compiled recompiled
      exact ⟨key', by simp [held, unused], present⟩
    refine marked_once (inMemoryStore_lawful rules) trace sound ?_ marks fresh
    intro fate cell expected batch reply after _ before appended
    obtain ⟨_, applied, accepted, _, rfl⟩ := compareAndAppend_published appended
    exact applyBatch_keeps_reservation accepted before

end Systems

/-- One signed proposal, one action, one reservation: whenever it is accepted it compiles to the same
action, and where resolving it reads no time to the same child; no run reserves for it twice,
whatever else runs; and what is signed for it is signed for one reservation. -/
theorem proposal_reserved_once (known : ∀ b ∈ c.bindings, RepositoryBinding b) (apart : Apart (Said c p transcripts claims)) :
    (∀ signed other time later child again, signed.proposal = p → other.proposal = p →
      Accepts c signed time child → Accepts c other later again →
      compileAction c child p.candidate = compileAction c again p.candidate ∧
      ((∀ b, bindingOf c.bindings p.candidate.kind = .ok b → Timeless b.toDomainBinding) →
        encodeChildExecutionAuthorization child = encodeChildExecutionAuthorization again)) ∧
    (∀ (ι : Type) (_ : DecidableEq ι) (rules : ReducerRules) (operations : ι → Operation)
      (ledger : PrincipalId → PrincipalLog) log finish, (∀ key, LogSound rules key (ledger key)) →
      (∀ i call, operations i = .reserve call → call.transcript ∈ transcripts) →
      Trace (Turn (inMemoryStore rules)) ⟨ledger, fun i => (operations i).program c⟩ log finish →
      ((Lib.Optimistic.commits log).filter
        fun made => (operations made.client).reservesFor c (proposalDigest p)).length ≤ 1) ∧
    ∀ core again transcript later claim repeated rules rules' principal principal' state state',
      core.compiled = c → again.compiled = c → transcript ∈ transcripts → later ∈ transcripts →
      claim ∈ claims → repeated ∈ claims →
      claim.child.proposal = proposalDigest p → repeated.child.proposal = proposalDigest p →
      Reachable rules principal state → Reachable rules' principal' state' →
      checkBeforeSign core transcript claim state = some [] →
      checkBeforeSign again later repeated state' = some [] → claim.reservation = repeated.reservation := by
  refine ⟨?_, ?_, ?_⟩
  · rintro signed other time later child again rfl same accepts repeated
    refine ⟨accepted_action known accepts repeated same.symm, fun timeless => ?_⟩
    rw [accepted_child accepts repeated same.symm timeless]
  · intro ι _ rules operations ledger log finish sound said trace
    exact reserved_once known apart sound said trace
  · intro core again transcript later claim repeated rules rules' principal principal' state state' own own' said
      said' shown shown' whose whose' reachable reachable' passes passes'
    obtain ⟨signed, child, a, one, accepts, compiled, named⟩ :=
      checkBeforeSign_nil apart own said shown whose reachable passes
    obtain ⟨other, child', b, two, accepts', recompiled, named'⟩ :=
      checkBeforeSign_nil apart own' said' shown' whose' reachable' passes'
    obtain rfl := yields_one known one two accepts accepts' compiled recompiled
    rw [named, named']

end Runs

theorem compiled_parts [Keccak] {m : PortfolioMandate} {bindings : List Binding} {c : CompiledPortfolio}
    (compiled : (compilePortfolio m bindings).run = .ok (some c)) : c.mandate = m ∧ c.bindings = bindings := by
  unfold compilePortfolio at compiled
  split at compiled
  · cases compiled
  · obtain ⟨policy, -, compiled⟩ := compiled_bind compiled
    obtain ⟨terms, -, compiled⟩ := compiled_bind compiled
    obtain ⟨root, -, compiled⟩ := compiled_bind compiled
    obtain ⟨delegations, -, compiled⟩ := compiled_bind compiled
    cases compiled
    exact ⟨rfl, rfl⟩

section Sample

def galleryScope : AuthorityScope :=
  { purchaseScope with
    domains := singleton _ sampleGallery.domain
    venues := singleton _ ⟨"bazaar", .refl true⟩
    assets := singleton _ sampleCollection.asset
    representations := singleton _ sampleCollection.instrument }

/-- One agent, its principal too, who may buy the collection for 70. -/
def galleryMandate : PortfolioMandate :=
  { signedMandate with
    resources := ⟨[{ sampleResource "a" (.refl true) with kind := ⟨.notional, by decide⟩, counted := by decide }],
      by decide, pairwise_singleton _ _⟩
    scope := galleryScope
    agents := ⟨[⟨signingAgent, ⟨"one", .refl true⟩, galleryScope, sampleWindow, noAmounts,
      signedMandate.limits⟩], by decide, pairwise_singleton _ _⟩ }

def galleryProposal [Keccak] : AgentProposal :=
  { sampleProposal with
    portfolioMandate := portfolioMandateDigest galleryMandate
    candidate := sampleBuy ⟨"bazaar", .refl true⟩ ⟨"punks", .refl true⟩ }

def gallerySigned [Keccak] : SignedProposal where
  proposal := galleryProposal
  signature := "0xc6047f9441ed7d6d3045406e95c07cd85c778e4b8cef3ca7abac09b95c709ee53d031cd7b757252941698a1a2c9de12518c9ffcd364470bb936f25859c3680e01b"

@[reducible] def galleryCurve : Secp256k1 where
  recoverPublicKey hash r s recovery :=
    if (hash.toNat, s, recovery) = (0xb401ba1b2cc0cce5528dd3c5c37b45708fcb4e358ee2450b3b049fdeac32a41c,
          0x3d031cd7b757252941698a1a2c9de12518c9ffcd364470bb936f25859c3680e0, 0) ∧
        r = 0xc6047f9441ed7d6d3045406e95c07cd85c778e4b8cef3ca7abac09b95c709ee5 then
      hexToBytes "0x0479be667ef9dcbbac55a06295ce870b07029bfcdb2dce28d959f2815b16f81798483ada7726a3c4655da4fbfc0e1108a8fd17b448a68554199c47d08ffb10d4b8"
    else none

attribute [local instance] platformKeccak galleryCurve

def compiledGallery : Except (List Reason) (Option CompiledPortfolio) :=
  (compilePortfolio galleryMandate [createFixtureBinding sampleGallery]).run

def galleryChild (c : CompiledPortfolio) (time : Int) : Option ChildExecutionAuthorization :=
  (screenProposal c.mandate (domainBindings c) gallerySigned time).bind (·.child)

variable {c : CompiledPortfolio}

theorem galleryChild_accepts {time : Int} {child : ChildExecutionAuthorization} :
    galleryChild c time = some child ↔ Accepts c gallerySigned time child :=
  bind_eq_some_iff

theorem gallery_compiles : ∃ c, compiledGallery = .ok (some c) := by
  have present : compiledGallery.toOption.any Option.isSome = true := by
    rewrite [compiledGallery, platformKeccak_straight]
    decide +kernel
  rcases compiled : compiledGallery with refused | _ | c <;> rw [compiled] at present
  · cases present
  · cases present
  · exact ⟨c, rfl⟩

theorem gallery_signed : proposalSignedByAgent gallerySigned.proposal gallerySigned.signature = true := by
  refine Bool.and_eq_true_iff.mpr ⟨rfl, beq_iff_eq.mpr (@recoverSigner_some platformKeccak galleryCurve _ _ _ _
    (by rewrite [gallerySigned, hexToBytes_ofList]; rfl) ?_)⟩
  rewrite [platformKeccak_straight, galleryCurve, hexToBytes_ofList]
  decide +kernel

def galleryScreened (time : Int) : Option ChildExecutionAuthorization :=
  (screenProposal galleryMandate [(createFixtureBinding sampleGallery).toDomainBinding] gallerySigned time).bind (·.child)

theorem galleryChild_screened (compiled : compiledGallery = .ok (some c)) (time : Int) :
    galleryChild c time = galleryScreened time := by
  obtain ⟨mandate, bindings⟩ := compiled_parts compiled
  rw [galleryChild, domainBindings, mandate, bindings]
  rfl

theorem gallery_first : ∃ child, galleryScreened 100 = some child ∧
    childAuthorizationDigest child ≠ proposalDigest galleryProposal ∧
    childAuthorizationDigest child ≠ candidateDigest galleryProposal.candidate ∧
    proposalDigest galleryProposal ≠ candidateDigest galleryProposal.candidate := by
  have present : (galleryScreened 100).any (fun child =>
      decide (childAuthorizationDigest child ≠ proposalDigest galleryProposal ∧
        childAuthorizationDigest child ≠ candidateDigest galleryProposal.candidate ∧
        proposalDigest galleryProposal ≠ candidateDigest galleryProposal.candidate)) = true := by
    unfold galleryScreened screenProposal
    dsimp only
    rewrite [gallery_signed, platformKeccak_straight]
    decide +kernel
  obtain ⟨child, first, apart⟩ := (Option.any_eq_true _ _).mp present
  exact ⟨child, first, of_decide_eq_true apart⟩

theorem gallery_again : (galleryScreened 200).isSome = true := by
  unfold galleryScreened screenProposal
  dsimp only
  rw [gallery_signed]
  decide +kernel

theorem gallery_accepted : ∃ c child again, compiledGallery = .ok (some c) ∧
    galleryChild c 100 = some child ∧ galleryChild c 200 = some again ∧
    childAuthorizationDigest child ≠ proposalDigest galleryProposal ∧
    childAuthorizationDigest child ≠ candidateDigest galleryProposal.candidate ∧
    proposalDigest galleryProposal ≠ candidateDigest galleryProposal.candidate := by
  obtain ⟨c, compiled⟩ := gallery_compiles
  obtain ⟨child, first, apart⟩ := gallery_first
  obtain ⟨again, second⟩ := Option.isSome_iff_exists.mp gallery_again
  exact ⟨c, child, again, compiled, (galleryChild_screened compiled 100).trans first,
    (galleryChild_screened compiled 200).trans second, apart⟩

def galleryTranscript : VerificationTranscript where
  signature := ""
  authority := none
  availability := fullAvailability galleryMandate
  verifiedAt := 100
  candidate := ⟨portfolioMandateDigest galleryMandate, [proposalText galleryProposal],
    [.commit signingAgent (proposalText galleryProposal) [atomsOfA 20]]⟩
  proposals := [gallerySigned]
  releases := []

theorem gallery_said {child : ChildExecutionAuthorization} {bytes : Bytes}
    (accepted : galleryChild c 100 = some child) (said : Said c galleryProposal {galleryTranscript} ∅ bytes) :
    bytes = encodeAgentProposal galleryProposal ∨ bytes = encodeActionCandidate galleryProposal.candidate ∨
      bytes = encodeChildExecutionAuthorization child := by
  cases said with
  | own => exact .inl rfl
  | candidate => exact .inr (.inl rfl)
  | supplied said listed =>
    obtain rfl := Set.mem_singleton_iff.mp said
    obtain rfl := mem_singleton.mp listed
    exact .inl rfl
  | derived said listed accepts =>
    obtain rfl := Set.mem_singleton_iff.mp said
    obtain rfl := mem_singleton.mp listed
    obtain rfl := some.inj (accepted.symm.trans (galleryChild_accepts.mpr accepts))
    exact .inr (.inr rfl)
  | shown said => cases said
  | carried said => cases said

/-- Accepted at two times, the proposal compiles to one action under one child. -/
theorem proposal_reserved_once_gallery : ∃ c child again, compiledGallery = .ok (some c) ∧
    galleryChild c 100 = some child ∧ galleryChild c 200 = some again ∧
    compileAction c child galleryProposal.candidate = compileAction c again galleryProposal.candidate ∧
    encodeChildExecutionAuthorization child = encodeChildExecutionAuthorization again := by
  obtain ⟨c, child, again, compiled, first, second, fromProposal, fromCandidate, between⟩ := gallery_accepted
  have bound := (compiled_parts compiled).2
  have known : ∀ b ∈ c.bindings, RepositoryBinding b := by
    intro b member
    rw [bound, mem_singleton] at member
    rw [member]
    exact .fixture sampleGallery
  have apart : Apart (Said c galleryProposal {galleryTranscript} ∅) := by
    intro a b saidA saidB same
    rcases gallery_said first saidA with rfl | rfl | rfl
    · rcases gallery_said first saidB with rfl | rfl | rfl
      · rfl
      · exact absurd same between
      · exact absurd same.symm fromProposal
    · rcases gallery_said first saidB with rfl | rfl | rfl
      · exact absurd same.symm between
      · rfl
      · exact absurd same.symm fromCandidate
    · rcases gallery_said first saidB with rfl | rfl | rfl
      · exact absurd same fromProposal
      · exact absurd same fromCandidate
      · rfl
  obtain ⟨action, alike⟩ := (proposal_reserved_once known apart).1 gallerySigned gallerySigned 100 200 child again rfl rfl
    (galleryChild_accepts.mp first) (galleryChild_accepts.mp second)
  refine ⟨c, child, again, compiled, first, second, action, alike fun b chosen => ?_⟩
  have listed := (bindingOf_some chosen).1
  rw [bound, mem_singleton] at listed
  rw [listed]
  exact fixture_timeless sampleGallery

end Sample

end Mandate.Portfolio
