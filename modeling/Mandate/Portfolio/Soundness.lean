import Mandate.Portfolio.Checks

/-! The verifier against an arbitrary room: every accepted proposal signed and covered, every
reduction signed, the total within limit, availability and hard maxima. -/
set_option linter.dupNamespace false
namespace Mandate.Portfolio
open Core Lib.Wire Lib.Table Lib.Text List
open Kernel (Secp256k1)

section Sums

variable {r : PortfolioResourceId}

theorem mem_addVectors {a b : ResourceVector} :
    r ∈ (addVectors a b).map (·.resource) ↔ r ∈ (a ++ b).map (·.resource) := by
  have gathered : ∀ (v : ResourceVector) (entries : PMap PortfolioResourceId Int),
      r ∈ v.foldl gather entries ↔ r ∈ entries ∨ r ∈ v.map (·.resource) := by
    intro v
    induction v with
    | nil => simp
    | cons head tail ih =>
      intro entries
      rw [foldl_cons, ih, gather, AList.mem_insert, map_cons, mem_cons]
      tauto
  rw [addVectors, vectorOf, map_map]
  have keys := gathered (a ++ b) ∅
  simp only [AList.notMem_empty, false_or] at keys
  rw [← keys]
  simp [Function.comp_def, AList.mem_keys]

theorem foldl_approved (children : List VerifiedChild) (start : ResourceVector)
    (apart : ∀ x ∈ children, Unrepeated x.child.approved) (unrepeated : Unrepeated start)
    (r : PortfolioResourceId) :
    amountOf (children.foldl (fun approved x => addVectors approved x.child.approved) start) r =
      amountOf start r + (children.map fun x => amountOf x.child.approved r).sum := by
  induction children generalizing start with
  | nil => simp
  | cons x rest ih =>
    have onward := ih (addVectors start x.child.approved)
      (fun y member => apart y (mem_cons_of_mem _ member)) (unrepeated_addVectors _ _)
    rw [foldl_cons, onward, amountOf_addVectors, map_cons, sum_cons,
      ← amountOf_eq_totalOf unrepeated, ← amountOf_eq_totalOf (apart x (by simp)), add_assoc]

variable {children : List VerifiedChild}

theorem amountOf_approvedOf (apart : ∀ x ∈ children, Unrepeated x.child.approved) (r : PortfolioResourceId) :
    amountOf (approvedOf children) r = (children.map fun x => amountOf x.child.approved r).sum := by
  rw [approvedOf, foldl_approved children [] apart nodup_nil, amountOf_nil, zero_add]

theorem mem_approvedOf :
    r ∈ (approvedOf children).map (·.resource) ↔ ∃ x ∈ children, r ∈ x.child.approved.map (·.resource) := by
  have folded : ∀ (children : List VerifiedChild) (start : ResourceVector),
      r ∈ (children.foldl (fun approved x => addVectors approved x.child.approved) start).map (·.resource) ↔
        r ∈ start.map (·.resource) ∨ ∃ x ∈ children, r ∈ x.child.approved.map (·.resource) := by
    intro children
    induction children with
    | nil => simp
    | cons x rest ih =>
      intro start
      rw [foldl_cons, ih, mem_addVectors, map_append, mem_append, or_assoc]
      simp
  rw [approvedOf, folded]
  simp

theorem unrepeated_approvedOf (children : List VerifiedChild) : Unrepeated (approvedOf children) := by
  induction children using List.reverseRecOn with
  | nil => exact nodup_nil
  | append_singleton rest x ih =>
    rw [approvedOf, foldl_append, foldl_cons, foldl_nil]
    exact unrepeated_addVectors _ _

theorem sum_selected {β : Type} (items : List β) (selected : β → Bool) (f : β → Int)
    (outside : ∀ x ∈ items, selected x = false → f x = 0) :
    (items.map f).sum = ((items.filter selected).map f).sum := by
  induction items with
  | nil => rfl
  | cons x rest ih =>
    have tail := ih fun y member => outside y (mem_cons_of_mem _ member)
    rw [map_cons, sum_cons, tail]
    cases chosen : selected x with
    | true => rw [filter_cons_of_pos chosen, map_cons, sum_cons]
    | false => rw [filter_cons_of_neg (by simp [chosen]), outside x (by simp) chosen, zero_add]

def committing (op : AllocationOp) : Bool := op.kind = .commit

theorem commits_of_other {op : AllocationOp} (other : committing op = false) (r : PortfolioResourceId) :
    commits op r = 0 := by
  cases op with
  | commit => cases other
  | release => rfl
  | claim => rfl

end Sums

def own (agent other : AgentId) : Bool := partyIdsEqual other agent

def anyone (_ : AgentId) : Bool := true

def isVerified : Option VerifierResult → Bool
  | some (.verified ..) => true
  | _ => false

theorem isVerified_some {result : Option VerifierResult} (verified : isVerified result = true) :
    ∃ children book approved, result = some (.verified children book approved) := by
  cases result with
  | none => cases verified
  | some result =>
    cases result with
    | refused => cases verified
    | verified children book approved => exact ⟨children, book, approved, rfl⟩

section Rooms
variable [Keccak] [Secp256k1]

def derivedDemand (input : VerifierInput) (signed : SignedProposal) : ResourceVector :=
  ((screenProposal input.mandate input.bindings signed input.now).map (·.demand)).getD []

/-- The derived demand of one accepted proposal, where `whose` selects its agent. -/
def demandedOf (input : VerifierInput) (whose : AgentId → Bool) (r : PortfolioResourceId) (d : String) : Int :=
  match byDigest input.proposals d with
  | some signed => if whose signed.proposal.agent then amountOf (derivedDemand input signed) r else 0
  | none => 0

/-- The derived demands of the accepted proposals of the agents that `whose` selects. -/
def demanded (input : VerifierInput) (whose : AgentId → Bool) (r : PortfolioResourceId) : Int :=
  (input.candidate.accepted.map (demandedOf input whose r)).sum

structure Sound (input : VerifierInput) (children : List VerifiedChild) (book : AllocationBook)
    (approved : ResourceVector) : Prop where
  replayed : replayAllocation input.mandate input.candidate.allocationLog = .ok book
  signed : ∀ d ∈ input.candidate.accepted, ∃ s ∈ input.proposals, proposalText s.proposal = d ∧
    byDigest input.proposals d = some s ∧ s.proposal.portfolioMandate = portfolioMandateDigest input.mandate ∧
    Known input.mandate s.proposal.agent ∧ proposalSignedByAgent s.proposal s.signature = true
  covered : ∀ agent r, demanded input (own agent) r ≤ allocatedTo book.entries agent r
  reduced : ∀ before op after earlier next, input.candidate.allocationLog = before ++ op :: after →
    replayAllocation input.mandate before = .ok earlier → applyAllocation input.mandate earlier op = .ok next →
    ∀ agent r, allocatedTo next.entries agent r < allocatedTo earlier.entries agent r →
      ∃ s ∈ input.releases, op.kind = .release ∧ releaseText s.release = op.id ∧ s.release.agent = agent ∧
        s.release.portfolioMandate = portfolioMandateDigest input.mandate ∧
        releaseSignedByAgent s.release s.signature = true ∧ allocatedTo earlier.entries agent r =
          allocatedTo next.entries agent r + amountOf s.release.amounts.amounts r
  once : ((input.candidate.allocationLog.filter fun op => op.kind = .release).map (·.id)).Nodup
  total : ∀ r, amountOf approved r = demanded input anyone r
  limited : ∀ r, demanded input anyone r ≤ amountOf input.mandate.limits.amounts r
  available : ∀ a ∈ approved, a.atoms ≤ amountOf input.availability.portfolio a.resource
  room : ∀ x ∈ children, ∀ a ∈ x.child.approved,
    demanded input (own x.child.agent) a.resource ≤ headroom input.availability x.child.agent.value a.resource
  maxima : ∀ policy ∈ input.mandate.agents.members, ∀ h ∈ policy.hardMaxima.amounts,
    demanded input (own policy.agent) h.resource ≤ h.atoms

section Verified
variable {input : VerifierInput} {children : List VerifiedChild} {book : AllocationBook}
  {approved : ResourceVector}

structure Cleared (input : VerifierInput) (passed : List (VerifiedChild × ResourceVector))
    (book : AllocationBook) : Prop where
  mandate : checkPortfolioMandate input.mandate = []
  subject : input.candidate.portfolioMandate = portfolioMandateDigest input.mandate
  accepted : checkAccepted input = []
  screened : List.Forall₂ (Yields input.mandate input.bindings input.now) (inOrder input) passed
  replayed : replayAllocation input.mandate input.candidate.allocationLog = .ok book
  invariant : checkBookInvariant input.mandate book = []
  log : ∀ op ∈ input.candidate.allocationLog, Checked input.candidate input.proposals input.releases
    (passed.map fun x => (Digest32.toHex x.1.proposal, x.2)) op
  committed : checkCommitted input.candidate = []
  room : checkRoom input.availability (passed.map (·.1)) = []

theorem verifyPortfolio_cleared (verified : verifyPortfolio input = some (.verified children book approved)) :
    ∃ passed, Cleared input passed book ∧ children = (passed.map (·.1)).insertionSort byText ∧
      approved = approvedOf (passed.map (·.1)) := by
  unfold verifyPortfolio at verified
  extract_lets m c refuse mandate at verified
  split at verified
  · cases verified
  · rename_i signed
    split at verified
    · cases verified
    · rename_i subject
      obtain ⟨⟨screened, passed⟩, accepted, verified⟩ := Option.bind_eq_some_iff.mp verified
      cases replayed : replayAllocation m c.allocationLog with
      | error why =>
        rw [replayed] at verified
        cases verified
      | ok replayed' =>
        simp only [replayed] at verified
        split at verified
        · cases verified
        · rename_i clean
          simp only [Option.some.injEq, VerifierResult.verified.injEq] at verified
          obtain ⟨rfl, rfl, rfl⟩ := verified
          have none := not_not.mp clean
          simp only [append_eq_nil_iff] at none
          obtain ⟨⟨⟨⟨⟨⟨once, nothing⟩, invariant⟩, log⟩, committed⟩, room⟩, _⟩ := none
          subst nothing
          have reasons : mandate = [] := not_not.mp signed
          simp only [mandate, mandateReasons, canonicalReasons_eq_nil, append_eq_nil_iff] at reasons
          refine ⟨passed, ?_, rfl, rfl⟩
          exact {
            mandate := reasons.2
            subject := not_not.mp subject
            accepted := once
            screened := verifyAccepted_passed accepted
            replayed := replayed
            invariant := invariant
            log := checkLog_checked log
            committed := committed
            room := room }

section Accepted
variable {passed : List (VerifiedChild × ResourceVector)}

theorem verifyPortfolio_clean (quiet : mandateReasons input.mandate input.signature input.now input.authority = [])
    (subject : input.candidate.portfolioMandate = portfolioMandateDigest input.mandate)
    (accepted : verifyAccepted input.mandate input.bindings input.now (inOrder input) ∅ = some ([], passed))
    (replayed : replayAllocation input.mandate input.candidate.allocationLog = .ok book)
    (once : checkAccepted input = []) (invariant : checkBookInvariant input.mandate book = [])
    (log : checkLog input.candidate input.proposals input.releases
      (passed.map fun x => (Digest32.toHex x.1.proposal, x.2)) input.candidate.allocationLog [] ∅ = [])
    (committed : checkCommitted input.candidate = [])
    (room : checkRoom input.availability (passed.map (·.1)) = [])
    (children : ∀ x ∈ passed, checkChildAuthorization input.mandate x.1.child = []) :
    isVerified (verifyPortfolio input) = true := by
  have nested : (passed.map (·.1)).flatMap (fun x => (checkChildAuthorization input.mandate x.child).map
      fun r => reason r.code (Digest32.toHex x.digest ++ "/" ++ r.subject)) = [] := by
    simpa using children
  unfold verifyPortfolio
  simp only [quiet, subject, accepted, replayed, once, invariant, log, committed, room, nested, ne_eq, not_true_eq_false,
    if_false, Option.bind_eq_bind, Option.bind_some, nil_append, isVerified]

theorem Cleared.nodup (cleared : Cleared input passed book) : input.candidate.accepted.Nodup := by
  have once := (append_eq_nil_iff.mp cleared.accepted).1
  rw [map_eq_nil_iff, filter_eq_nil_iff] at once
  refine nodup_iff_count_le_one.mpr fun d => ?_
  by_cases listed : d ∈ input.candidate.accepted
  · simpa using once d listed
  · rw [count_eq_zero.mpr listed]
    exact Nat.zero_le _

variable {d : String}

theorem Cleared.supplied (cleared : Cleared input passed book)
    (accepted : d ∈ input.candidate.accepted) : ∃ signed, byDigest input.proposals d = some signed := by
  have known := (append_eq_nil_iff.mp cleared.accepted).2
  rw [map_eq_nil_iff, filter_eq_nil_iff] at known
  exact Option.ne_none_iff_exists'.mp (by simpa using known d accepted)

variable {signed : SignedProposal}

theorem Cleared.yields (cleared : Cleared input passed book)
    (accepted : d ∈ input.candidate.accepted) (found : byDigest input.proposals d = some signed) :
    ∃ x ∈ passed, Yields input.mandate input.bindings input.now signed x := by
  have ordered : signed ∈ inOrder input := mem_inOrder.mpr ⟨d, accepted, found⟩
  obtain ⟨index, inside, rfl⟩ := getElem_of_mem ordered
  have screened := cleared.screened
  have same := screened.length_eq
  exact ⟨passed[index], getElem_mem _, forall₂_iff_get.mp screened |>.2 index inside (same ▸ inside)⟩

variable {x : VerifiedChild × ResourceVector}

theorem Yields.demand (yields : Yields input.mandate input.bindings input.now signed x) :
    x.2 = derivedDemand input signed ∧ x.1.child.approved = derivedDemand input signed := by
  obtain ⟨s, screened, passes, demand, _⟩ := yields
  rw [derivedDemand, screened]
  exact ⟨demand, passes.demand⟩

theorem Cleared.demand (cleared : Cleared input passed book)
    (member : x ∈ passed) : ∃ signed, byDigest input.proposals (Digest32.toHex x.1.proposal) = some signed ∧
      Yields input.mandate input.bindings input.now signed x := by
  obtain ⟨index, inside, rfl⟩ := getElem_of_mem member
  have screened := cleared.screened
  have same := screened.length_eq
  have yields := forall₂_iff_get.mp screened |>.2 index (same.symm ▸ inside) inside
  have ordered : (inOrder input)[index] ∈ inOrder input := getElem_mem _
  obtain ⟨d, _, found⟩ := mem_inOrder.mp ordered
  obtain ⟨s, _, _, _, proposal⟩ := id yields
  have named := (byDigest_some found).2
  refine ⟨_, ?_, yields⟩
  have text : Digest32.toHex passed[index].1.proposal = d := by
    rw [← named, proposalText]
    exact congrArg Digest32.toHex proposal
  rw [text, found]
  rfl

end Accepted

section Commits
variable {passed : List (VerifiedChild × ResourceVector)}

theorem Cleared.commits_perm (cleared : Cleared input passed book) :
    (((input.candidate.allocationLog.filter committing).map (·.id))).Perm input.candidate.accepted := by
  have once := replay_once cleared.replayed nodup_nil
  rw [replay_log cleared.replayed, show (initialBook input.mandate).log = [] from rfl, nil_append] at once
  have nodup : ((input.candidate.allocationLog.filter committing).map (·.id)).Nodup := by
    refine pairwise_map.mpr ?_
    have apart := (pairwise_map.mp once).filter committing
    refine apart.imp_of_mem fun {a b} first second differ same => differ ?_
    have left : a.kind = .commit := of_decide_eq_true (mem_filter.mp first).2
    have right : b.kind = .commit := of_decide_eq_true (mem_filter.mp second).2
    rw [left, right, same]
  refine (perm_ext_iff_of_nodup nodup cleared.nodup).mpr fun d => ?_
  constructor
  · intro listed
    obtain ⟨op, member, rfl⟩ := mem_map.mp listed
    obtain ⟨inside, kind⟩ := mem_filter.mp member
    have checked := cleared.log op inside
    cases op with
    | commit agent id amounts =>
      obtain ⟨_, _, accepted, _⟩ := checked
      exact accepted
    | release => cases kind
    | claim => cases kind
  · intro accepted
    have exact := filter_eq_nil_iff.mp (map_eq_nil_iff.mp cleared.committed) d accepted
    simp only [ne_eq, decide_eq_true_eq, not_not] at exact
    obtain ⟨op, only⟩ := length_eq_one_iff.mp exact
    have member : op ∈ input.candidate.allocationLog.filter fun op => op.kind = .commit ∧ op.id = d := by
      rw [only]
      exact mem_singleton_self op
    obtain ⟨inside, chosen⟩ := mem_filter.mp member
    obtain ⟨kind, named⟩ := of_decide_eq_true chosen
    exact mem_map.mpr ⟨op, mem_filter.mpr ⟨inside, decide_eq_true kind⟩, named⟩

theorem Cleared.commit_demand (cleared : Cleared input passed book) {op : AllocationOp}
    (member : op ∈ input.candidate.allocationLog) (kind : committing op = true) (plain : op.Plain)
    (whose : AgentId → Bool) (r : PortfolioResourceId) :
    demandedOf input whose r op.id = if whose op.agent then commits op r else 0 := by
  have checked := cleared.log op member
  cases op with
  | release => cases kind
  | claim => cases kind
  | commit agent id amounts =>
    obtain ⟨signed, found, accepted, owner, equal⟩ := checked
    obtain ⟨x, inside, yields⟩ := cleared.yields accepted found
    obtain ⟨s, _, passes, _, proposal⟩ := yields
    obtain ⟨address, first⟩ := plain
    have signer : signed.proposal.agent = agent := by
      have own := passes.signature
      rw [proposalSignedByAgent, Bool.and_eq_true, beq_iff_eq] at own
      exact (partyIdsEqual_iff _ _).mp (by simp [partyIdsEqual, owner, Subtype.ext (own.1.trans address.symm)])
    have text : Digest32.toHex x.1.proposal = id := by
      rw [proposal]
      exact (byDigest_some found).2
    let demands := passed.map fun x => (Digest32.toHex x.1.proposal, x.2)
    have recorded : (id, x.2) ∈ demands := mem_map.mpr ⟨x, inside, by rw [text]⟩
    have matched : ∀ r, amountOf (derivedDemand input signed) r = totalOf amounts r := by
      intro r
      cases looked : demands.lookup id with
      | none =>
        have missing := lookup_eq_none_iff.mp looked _ recorded
        simp at missing
      | some other =>
        obtain ⟨before, after, parts, _⟩ := lookup_eq_some_iff.mp looked
        have listed : (id, other) ∈ demands := by
          rw [parts]
          simp
        obtain ⟨y, there, pair⟩ := mem_map.mp listed
        obtain ⟨same, rfl⟩ := Prod.mk.injEq _ _ _ _ ▸ pair
        obtain ⟨again, refound, yielded⟩ := cleared.demand there
        rw [same, found] at refound
        obtain rfl := Option.some.inj refound
        have read := vectorsEqual_iff.mp (equal _ looked) r
        rw [totalOf_plain first, ← read, yielded.demand.1]
    have named : byDigest input.proposals (AllocationOp.commit agent id amounts).id = some signed := found
    rw [demandedOf, named]
    simp only [signer, matched]
    rfl

theorem Cleared.demanded_eq (cleared : Cleared input passed book)
    (plain : ∀ op ∈ input.candidate.allocationLog, op.Plain) (whose : AgentId → Bool)
    (r : PortfolioResourceId) : demanded input whose r =
      (input.candidate.allocationLog.map fun op => if whose op.agent then commits op r else 0).sum := by
  have listed := sum_selected input.candidate.allocationLog committing
    (fun op => if whose op.agent then commits op r else 0) fun op _ other => by
      simp [commits_of_other other]
  have perm := (cleared.commits_perm.map (demandedOf input whose r)).sum_eq
  rw [demanded, ← perm, listed, map_map]
  refine congrArg List.sum (map_congr_left fun op member => ?_)
  obtain ⟨inside, kind⟩ := mem_filter.mp member
  exact cleared.commit_demand inside kind (plain op inside) whose r

theorem Cleared.demanded_own (cleared : Cleared input passed book)
    (plain : ∀ op ∈ input.candidate.allocationLog, op.Plain) (agent : AgentId) (r : PortfolioResourceId) :
    demanded input (own agent) r = committedTo book.entries agent r := by
  have replayed := replay_committed cleared.replayed agent r
  have start : committedTo (initialBook input.mandate).entries agent r = 0 := committedTo_initial _ _ _
  rw [start, zero_add] at replayed
  rw [cleared.demanded_eq plain, replayed]
  simp [own, forAgent]

theorem Cleared.demanded_all (cleared : Cleared input passed book)
    (plain : ∀ op ∈ input.candidate.allocationLog, op.Plain) (r : PortfolioResourceId) :
    demanded input anyone r = committedOf book.entries r := by
  have replayed := replay_together cleared.replayed r
  have start : committedOf (initialBook input.mandate).entries r = 0 := committedOf_initial _ _
  rw [start, zero_add] at replayed
  rw [cleared.demanded_eq plain, replayed]
  simp [anyone]

end Commits

section Passed
variable {passed : List (VerifiedChild × ResourceVector)}

theorem Cleared.demanded_children (cleared : Cleared input passed book) (whose : AgentId → Bool)
    (r : PortfolioResourceId) : demanded input whose r =
      ((passed.filter fun x => whose x.1.child.agent).map fun x => amountOf x.1.child.approved r).sum := by
  have accepted : (inOrder input).Perm (input.candidate.accepted.filterMap (byDigest input.proposals)) := by
    rw [inOrder, List.Nodup.dedup cleared.nodup]
    exact perm_insertionSort _ _
  have whole : ∀ ds ⊆ input.candidate.accepted, (ds.map (demandedOf input whose r)).sum =
      ((ds.filterMap (byDigest input.proposals)).map fun signed =>
        if whose signed.proposal.agent then amountOf (derivedDemand input signed) r else 0).sum := by
    intro ds listed
    induction ds with
    | nil => rfl
    | cons d rest ih =>
      obtain ⟨signed, found⟩ := cleared.supplied (listed (mem_cons_self))
      have tail := ih fun other member => listed (mem_cons_of_mem _ member)
      rw [map_cons, sum_cons, tail, filterMap_cons_some found, map_cons, sum_cons,
        demandedOf, found]
  have paired : ∀ {ordered : List SignedProposal} {passed : List (VerifiedChild × ResourceVector)},
      List.Forall₂ (Yields input.mandate input.bindings input.now) ordered passed → (ordered.map fun signed =>
        if whose signed.proposal.agent then amountOf (derivedDemand input signed) r else 0).sum =
      (passed.map fun x => if whose x.1.child.agent then amountOf x.1.child.approved r else 0).sum := by
    intro ordered passed screened
    induction screened with
    | nil => rfl
    | cons yields _ ih =>
      have approved := yields.demand.2
      obtain ⟨s, _, passes, _, _⟩ := yields
      rw [map_cons, sum_cons, map_cons, sum_cons, ih, approved, passes.agent]
  have selected := sum_selected passed (fun x => whose x.1.child.agent)
    (fun x => if whose x.1.child.agent then amountOf x.1.child.approved r else 0) fun x _ other => by
      simp [other]
  rw [demanded, whole _ (List.Subset.refl _), ← (accepted.map _).sum_eq, paired cleared.screened, selected]
  refine congrArg List.sum (map_congr_left fun x member => ?_)
  rw [if_pos (mem_filter.mp member).2]

theorem Cleared.unrepeated (cleared : Cleared input passed book) :
    ∀ x ∈ passed.map (·.1), Unrepeated x.child.approved := by
  intro y member
  obtain ⟨x, inside, rfl⟩ := mem_map.mp member
  obtain ⟨_, _, s, _, passes, _, _⟩ := cleared.demand inside
  rw [passes.demand]
  exact passes.unrepeated

theorem Cleared.agents (cleared : Cleared input passed book) {x y : VerifiedChild × ResourceVector}
    (first : x ∈ passed) (second : y ∈ passed) (same : x.1.child.agent.value = y.1.child.agent.value) :
    x.1.child.agent = y.1.child.agent := by
  have address : ∀ x ∈ passed, x.1.child.agent.kind.1 = PARTY_KIND_EIP155_ADDRESS := by
    intro x member
    obtain ⟨_, _, s, _, passes, _, _⟩ := cleared.demand member
    have signature := passes.signature
    rw [proposalSignedByAgent, Bool.and_eq_true, beq_iff_eq] at signature
    rw [passes.agent]
    exact signature.1
  have kinds := (address x first).trans (address y second).symm
  exact (partyIdsEqual_iff _ _).mp (by simp [partyIdsEqual, same, Subtype.ext kinds])

theorem Cleared.portfolio_room (cleared : Cleared input passed book) :
    ∀ a ∈ approvedOf (passed.map (·.1)), a.atoms ≤ amountOf input.availability.portfolio a.resource := by
  have room := (append_eq_nil_iff.mp cleared.room).1
  rw [map_eq_nil_iff, filter_eq_nil_iff] at room
  intro a member
  simpa using room a member

theorem Cleared.agent_room (cleared : Cleared input passed book) {x : VerifiedChild}
    (member : x ∈ passed.map (·.1)) {a : ResourceAmount} (listed : a ∈ x.child.approved) :
    demanded input (own x.child.agent) a.resource ≤
      headroom input.availability x.child.agent.value a.resource := by
  have room := (append_eq_nil_iff.mp cleared.room).2
  rw [flatMap_eq_nil_iff] at room
  have agent := room x.child.agent.value (mem_dedup.mpr (mem_map.mpr ⟨x, member, rfl⟩))
  rw [map_eq_nil_iff, filter_eq_nil_iff] at agent
  have mine : x ∈ (passed.map (·.1)).filter fun y => y.child.agent.value = x.child.agent.value :=
    mem_filter.mpr ⟨member, decide_eq_true rfl⟩
  have present := mem_approvedOf.mpr ⟨x, mine, mem_map_of_mem listed⟩
  obtain ⟨b, inside, named⟩ := mem_map.mp present
  have fits := agent b inside
  rw [decide_eq_true_eq, not_lt, ← amountOf_mem (unrepeated_approvedOf _) inside, named,
    amountOf_approvedOf fun y here => cleared.unrepeated y (mem_of_mem_filter here)] at fits
  rw [cleared.demanded_children]
  refine le_of_eq_of_le ?_ fits
  rw [filter_map, map_map]
  refine congrArg (fun chosen => (List.map _ chosen).sum) (filter_congr fun y here => ?_)
  obtain ⟨z, there, rfl⟩ := mem_map.mp member
  by_cases same : y.1.child.agent.value = z.1.child.agent.value
  · have owner := cleared.agents here there same
    simp [own, owner]
  · have other : own z.1.child.agent y.1.child.agent = false :=
      Bool.eq_false_iff.mpr fun owner => same (by rw [(partyIdsEqual_iff _ _).mp owner])
    simp [other, same]

/-- Verified over a plain log, a portfolio is sound whatever the room did. -/
theorem verified_sound (verified : verifyPortfolio input = some (.verified children book approved))
    (plain : ∀ op ∈ input.candidate.allocationLog, op.Plain) : Sound input children book approved := by
  obtain ⟨passed, cleared, rfl, rfl⟩ := verifyPortfolio_cleared verified
  have valid := checkPortfolioMandate_valid cleared.mandate
  have covered : ∀ agent r, demanded input (own agent) r ≤ allocatedTo book.entries agent r := by
    intro agent r
    rw [cleared.demanded_own plain]
    exact committedTo_le cleared.invariant agent r
  exact {
    replayed := cleared.replayed
    signed := by
      intro d accepted
      obtain ⟨s, found⟩ := cleared.supplied accepted
      obtain ⟨x, _, yields⟩ := cleared.yields accepted found
      obtain ⟨_, _, passes, _, _⟩ := yields
      obtain ⟨inside, text⟩ := byDigest_some found
      exact ⟨s, inside, text, found, passes.mandate, passes.known, passes.signature⟩
    covered := covered
    reduced := by
      intro before op after earlier next log replayed applied agent r less
      have effect := effect_apply applied
      have member : op ∈ input.candidate.allocationLog := by
        rw [log]
        simp
      obtain ⟨kind, owner⟩ := effect.reduced agent r less
      cases op with
      | commit => cases kind
      | claim => cases kind
      | release holder id amounts =>
        obtain ⟨address, first⟩ := plain _ member
        obtain ⟨s, found, genuine⟩ := cleared.log _ member
        obtain ⟨supplied, text⟩ := signedRelease_some found
        simp only [genuineRelease, Bool.and_eq_true, decide_eq_true_eq] at genuine
        obtain ⟨⟨⟨value, mandate⟩, equal⟩, signature⟩ := genuine
        have signer : s.release.agent = holder := by
          have own := signature
          rw [releaseSignedByAgent, Bool.and_eq_true, beq_iff_eq] at own
          have kinds : s.release.agent.kind = holder.kind := Subtype.ext (own.1.trans address.symm)
          exact (partyIdsEqual_iff _ _).mp (by simp [partyIdsEqual, value, kinds])
        have exactly := effect.released rfl agent r
        rw [forAgent_own owner, releases, totalOf_plain first, ← vectorsEqual_iff.mp equal r] at exactly
        exact ⟨s, supplied, rfl, text, signer.trans owner, mandate.trans cleared.subject, signature, by omega⟩
    once := by
      have once := replay_once cleared.replayed nodup_nil
      rw [replay_log cleared.replayed, show (initialBook input.mandate).log = [] from rfl,
        nil_append] at once
      refine pairwise_map.mpr (((pairwise_map.mp once).filter _).imp_of_mem ?_)
      intro a b first second differ same
      have left : a.kind = .release := of_decide_eq_true (mem_filter.mp first).2
      have right : b.kind = .release := of_decide_eq_true (mem_filter.mp second).2
      exact differ (by rw [left, right, same])
    total := by
      intro r
      rw [amountOf_approvedOf cleared.unrepeated, cleared.demanded_children, map_map]
      simp [anyone, Function.comp_def]
    limited := by
      intro r
      rw [cleared.demanded_all plain]
      exact committedOf_le cleared.invariant (replay_keys cleared.replayed) r
    available := cleared.portfolio_room
    room := by
      intro x member a listed
      exact cleared.agent_room ((mem_insertionSort _).mp member) listed
    maxima := by
      intro policy member h listed
      exact (covered policy.agent h.resource).trans (allocatedTo_le cleared.invariant valid member listed) }

end Passed

end Verified

end Rooms

section Sample

def signingAgent : AgentId :=
  ⟨⟨"eip155-address", .refl true⟩, ⟨"0x7e5f4552091a69125d5dfcb7b8c2659029395bdf", .refl true⟩, by decide⟩

def purchase : ResolvedAction where
  kind := .nftBuy
  domain := ⟨"nft", .refl true⟩
  chain := ⟨"eip155:1", .refl true⟩
  venue := ⟨"market", .refl true⟩
  route := []
  asset := ⟨⟨"nft", .refl true⟩, ⟨"collection", .refl true⟩, ⟨"cat", .refl true⟩⟩
  representation := ⟨"cat", .refl true⟩
  issuer := none
  recipient := ⟨"vault", .refl true⟩
  synthetic := false
  rights := []
  leverage := none
  slippageBps := none
  quoteObservedAt := none
  demand := [⟨⟨"a", .refl true⟩, 20⟩]
  unrepeated := by decide

def purchaseScope : AuthorityScope where
  domains := singleton _ purchase.domain
  actions := singleton _ purchase.kind
  chains := singleton _ purchase.chain
  venues := singleton _ purchase.venue
  assets := singleton _ purchase.asset
  representations := singleton _ purchase.representation
  issuers := noMembers _
  recipients := singleton _ purchase.recipient
  syntheticPolicy := .forbidden
  requiredRights := noMembers _
  maxLeverage := none
  maxSlippageBps := none
  maxQuoteAgeSeconds := none

def amountOfA (atoms : Int) (inside : 0 ≤ atoms ∧ atoms ≤ UINT256_MAX) : ValidVector :=
  ⟨[⟨⟨⟨"a", .refl true⟩, atoms⟩, inside⟩], by simp [MAX_RESOURCES], pairwise_singleton _ _⟩

def signedMandate : PortfolioMandate where
  principal := signingAgent
  policyVersion := ⟨1, uint64_one⟩
  nonce := ⟨0, uint64_zero⟩
  window := sampleWindow
  allocationMode := .hybrid
  resources := ⟨[sampleResource "a" (.refl true)], by decide, pairwise_singleton _ _⟩
  scope := purchaseScope
  limits := amountOfA 70 (by decide)
  agents := ⟨[⟨signingAgent, ⟨"one", .refl true⟩, purchaseScope, sampleWindow, noAmounts,
    amountOfA 70 (by decide)⟩], by decide, pairwise_singleton _ _⟩

theorem ten_inside : (0 : Int) ≤ 10 ∧ (10 : Int) ≤ UINT256_MAX := by decide

def sampleRelease [Keccak] : AgentRelease :=
  ⟨portfolioMandateDigest signedMandate, signingAgent, ⟨1, uint64_one⟩, amountOfA 10 ten_inside⟩

def sampleBuy (venue instrument : Identifier) : ActionCandidate :=
  .nftBuy venue instrument ⟨7, by decide⟩ ⟨20, by decide⟩ ⟨"vault", .refl true⟩ ⟨none, none, none, none⟩

def sampleProposal [Keccak] : AgentProposal where
  portfolioMandate := portfolioMandateDigest signedMandate
  agent := signingAgent
  sequence := ⟨1, uint64_one⟩
  candidate := sampleBuy ⟨"market", by decide⟩ ⟨"cats", by decide⟩
  requested := amountOfA 20 (by decide)
  minimum := noAmounts
  utilityBps := ⟨0, seconds_zero⟩
  createdAt := ⟨0, seconds_zero⟩
  expiresAt := ⟨500, by decide⟩
  ordered := by decide
  criticalExtensions := ⟨[], by decide, .nil⟩

@[reducible] def signedCurve : Secp256k1 where
  recoverPublicKey hash r s recovery :=
    if (hash.toNat, s, recovery) ∈ [(0x9b009a501459620edcfc748dbc2f44871eb384f77e9df9960695da50e18be326,
          0x30828cf22b236fbe06a0da7e28f7e0b0603e1b2e2e224b00f937c2beb6e32065, 0),
        (0x4796db939d9591b872c3fa757e524d250ad35a18ec8f874bb9b98a3fa3811d0d,
          0x7932526c103e786d2e7b628df5f69b00070968b472893e420d1f9490503d6348, 1),
        (0x53b2d6dbf9bb8f470f72fe7871ed1c3d62284eaf7f41ffd16e05907302428f24,
          0x0cdbab381dd4865a1fdc1f7383d6cc8b81f8800a2e744e1eacef9dcfc73e7664, 0)] ∧
        r = 0xc6047f9441ed7d6d3045406e95c07cd85c778e4b8cef3ca7abac09b95c709ee5 then
      hexToBytes "0x0479be667ef9dcbbac55a06295ce870b07029bfcdb2dce28d959f2815b16f81798483ada7726a3c4655da4fbfc0e1108a8fd17b448a68554199c47d08ffb10d4b8"
    else none

/-- A room that accepts `accepted` over `log`, of the one release and the one proposal signed. -/
def sampleInput [Keccak] (accepted : List String) (log : List AllocationOp) : VerifierInput where
  mandate := signedMandate
  signature := "0xc6047f9441ed7d6d3045406e95c07cd85c778e4b8cef3ca7abac09b95c709ee530828cf22b236fbe06a0da7e28f7e0b0603e1b2e2e224b00f937c2beb6e320651b"
  authority := none
  bindings := [⟨.nftBuy, fun _ _ => .resolved purchase none⟩]
  availability := fullAvailability signedMandate
  now := 100
  candidate := ⟨portfolioMandateDigest signedMandate, accepted, log⟩
  proposals := [⟨sampleProposal, "0xc6047f9441ed7d6d3045406e95c07cd85c778e4b8cef3ca7abac09b95c709ee50cdbab381dd4865a1fdc1f7383d6cc8b81f8800a2e744e1eacef9dcfc73e76641b"⟩]
  releases := [⟨sampleRelease, "0xc6047f9441ed7d6d3045406e95c07cd85c778e4b8cef3ca7abac09b95c709ee57932526c103e786d2e7b628df5f69b00070968b472893e420d1f9490503d63481c"⟩]

def atomsOfA (atoms : Int) : ResourceAmount := ⟨⟨"a", .refl true⟩, atoms⟩

section Signed
attribute [local instance] platformKeccak signedCurve

theorem sample_signed : principalSigned signedMandate (sampleInput [] []).signature none = true ∧
    (∀ s ∈ (sampleInput [] []).releases, releaseSignedByAgent s.release s.signature = true) ∧
    ∀ s ∈ (sampleInput [] []).proposals, proposalSignedByAgent s.proposal s.signature = true := by
  dsimp only [sampleInput, principalSigned]
  simp only [forall_mem_singleton]
  refine ⟨?_, ?_, ?_⟩ <;> refine Bool.and_eq_true_iff.mpr ⟨rfl, beq_iff_eq.mpr
    (@recoverSigner_some platformKeccak signedCurve _ _ _ _ (by rewrite [hexToBytes_ofList]; rfl) ?_)⟩
  all_goals
    rewrite [platformKeccak_straight, signedCurve, hexToBytes_ofList]
    decide +kernel

theorem sample_quiet (accepted : List String) (log : List AllocationOp) :
    mandateReasons (sampleInput accepted log).mandate (sampleInput accepted log).signature
      (sampleInput accepted log).now (sampleInput accepted log).authority = [] := by
  have quiet : mandateReasons signedMandate (sampleInput [] []).signature 100 none = [] := by
    unfold mandateReasons
    rw [if_pos sample_signed.1]
    decide +kernel
  exact quiet

/-- A release signed for 10 and logged as 10 and 50: verified, and its agent stripped of 60. -/
def strippedLog [Keccak] : List AllocationOp :=
  [.release signingAgent (releaseText sampleRelease) [atomsOfA 10, atomsOfA 50]]

theorem stripped_verified : isVerified (verifyPortfolio (sampleInput [] strippedLog)) = true := by
  have signed := sample_signed.2.1 _ (mem_singleton_self _)
  exact verifyPortfolio_clean (sample_quiet _ _) rfl rfl rfl rfl (by decide)
    (checkLog_release (Bool.and_eq_true_iff.mpr ⟨by simp [sampleInput, sampleRelease]; decide, signed⟩)) rfl rfl (by simp)

theorem stripped_applied (id : String) : ∃ next, applyAllocation signedMandate (initialBook signedMandate)
      (.release signingAgent id [atomsOfA 10, atomsOfA 50]) = .ok next ∧
    allocatedTo next.entries signingAgent ⟨"a", by decide⟩ = 10 := ⟨_, rfl, rfl⟩

theorem release_strips : ∃ children book approved,
    @verifyPortfolio platformKeccak signedCurve (@sampleInput platformKeccak [] (@strippedLog platformKeccak)) =
      some (.verified children book approved) ∧
    ¬ @Sound platformKeccak signedCurve (@sampleInput platformKeccak [] (@strippedLog platformKeccak))
      children book approved := by
  obtain ⟨children, book, approved, verified⟩ := isVerified_some stripped_verified
  refine ⟨children, book, approved, verified, fun sound => ?_⟩
  obtain ⟨next, applied, left⟩ := stripped_applied (@releaseText platformKeccak (@sampleRelease platformKeccak))
  have start : allocatedTo (initialBook signedMandate).entries signingAgent ⟨"a", by decide⟩ = 70 := rfl
  obtain ⟨s, supplied, _, _, _, _, _, reduced⟩ := @Sound.reduced platformKeccak signedCurve _ _ _ _ sound [] _ []
    (initialBook signedMandate) next rfl rfl
    applied signingAgent ⟨"a", by decide⟩ (by rw [start, left]; decide)
  obtain rfl := mem_singleton.mp supplied
  rw [start, left] at reduced
  revert reduced
  decide

/-- The same release logged as signed, and the proposal accepted and committed. -/
def honestLog [Keccak] : List AllocationOp :=
  [.release signingAgent (releaseText sampleRelease) [atomsOfA 10],
    .commit signingAgent (proposalText sampleProposal) [atomsOfA 20]]

theorem honest_derived : ∃ child, deriveChildAuthorization signedMandate sampleProposal purchase 100 =
    some (.ok child) := by
  have present : ((deriveChildAuthorization signedMandate sampleProposal purchase 100).bind
      (·.toOption)).isSome = true := by
    rewrite [platformKeccak_straight]
    decide +kernel
  obtain ⟨child, made⟩ := Option.isSome_iff_exists.mp present
  obtain ⟨result, derived, made⟩ := Option.bind_eq_some_iff.mp made
  exact ⟨child, derived.trans (congrArg some (except_toOption_some made))⟩

theorem honest_replayed (a b : String) : ∃ book, replayAllocation signedMandate
    [.release signingAgent a [atomsOfA 10], .commit signingAgent b [atomsOfA 20]] = .ok book ∧
      checkBookInvariant signedMandate book = [] := ⟨_, rfl, rfl⟩

theorem honest_verified : isVerified (verifyPortfolio (sampleInput [proposalText sampleProposal] honestLog)) = true := by
  obtain ⟨child, derived⟩ := honest_derived
  rcases deriveChildAuthorization_cases derived with ⟨_, refused, _⟩ | ⟨_, same, owner, approved, rechecked⟩
  · cases refused
  cases same
  obtain ⟨s, only, of⟩ : ∃ s, (sampleInput [] []).proposals = [s] ∧ s.proposal = sampleProposal := ⟨_, rfl, rfl⟩
  have supplied : ∀ accepted log, (sampleInput accepted log).proposals = [s] := fun _ _ => only
  have accepts : ∀ a l, (sampleInput a l).candidate.accepted = a := fun _ _ => rfl
  have signature := sample_signed.2.2 s (by rw [only]; exact mem_singleton_self s)
  obtain ⟨agent, known⟩ : ∃ agent, agentPolicyOf signedMandate sampleProposal.agent = some agent := ⟨_, rfl⟩
  have screened : screenProposal signedMandate [⟨.nftBuy, fun _ _ => .resolved purchase none⟩] s 100 =
      some ⟨[], false, some purchase, purchase.demand, some child, none⟩ := by
    unfold screenProposal
    rw [of] at signature
    have resolved : resolveCandidate [⟨.nftBuy, fun _ _ => .resolved purchase none⟩] signedMandate agent
      sampleProposal.candidate 100 = .resolved purchase none := rfl
    simp [of, known, resolved, signature, derived, show sampleProposal.portfolioMandate = portfolioMandateDigest signedMandate from rfl,
      show formReasons sampleProposal = [] from rfl,
      show vectorsEqual sampleProposal.requested.amounts purchase.demand = true from rfl]
  have accepted : verifyAccepted signedMandate [⟨.nftBuy, fun _ _ => .resolved purchase none⟩] 100
      (inOrder (sampleInput [proposalText sampleProposal] honestLog)) ∅ =
        some ([], [(⟨child, childAuthorizationDigest child, sampleProposal.candidate, proposalDigest sampleProposal,
          none⟩, purchase.demand)]) := by
    rw [show inOrder (sampleInput [proposalText sampleProposal] honestLog) = [s] by
      simp [inOrder, byDigest, supplied, ← of, accepts]]
    simp [verifyAccepted, screened, of]
  obtain ⟨book, replayed, invariant⟩ := honest_replayed (releaseText sampleRelease) (proposalText sampleProposal)
  have genuine := sample_signed.2.1 _ (mem_singleton_self _)
  refine verifyPortfolio_clean (sample_quiet _ _) rfl accepted replayed ?_ invariant
    ((checkLog_release (Bool.and_eq_true_iff.mpr ⟨by simp [sampleInput, sampleRelease]; decide, genuine⟩)).trans ?_)
    ?_ ?_ (by simp; exact rechecked)
  · simp [checkAccepted, sampleInput, byDigest]
  · have named : s.proposal.agent.value = signingAgent.value := by rw [of]; rfl
    rw [supplied, ← of]
    simp [checkLog, byDigest, accepts, named, proposalText, show vectorsEqual purchase.demand [atomsOfA 20] = true from rfl]
  · simp [checkCommitted, sampleInput, honestLog, AllocationOp.kind, AllocationOp.id]
  · simp [checkRoom, approvedOf, owner, approved]
    decide

end Signed

theorem verified_sound_sample : ∃ children book approved,
    @Sound platformKeccak signedCurve (@sampleInput platformKeccak
      [@proposalText platformKeccak (@sampleProposal platformKeccak)] (@honestLog platformKeccak))
      children book approved := by
  obtain ⟨children, book, approved, verified⟩ := isVerified_some honest_verified
  refine ⟨children, book, approved, @verified_sound platformKeccak signedCurve _ _ _ _ verified ?_⟩
  intro op member
  rcases mem_cons.mp member with rfl | later
  · exact ⟨rfl, by decide⟩
  · obtain rfl := mem_singleton.mp later
    exact ⟨rfl, by decide⟩

end Sample

end Mandate.Portfolio
