import Mandate.Authoring.LiveRoom

/-! What a conflict is, and the size an agent may re-plan to alone: a search between its candidate's
minimum and an upper size, in steps of a whole USDC from either end. -/
set_option linter.dupNamespace false
namespace Mandate.Live
open Portfolio Lib.Table List
open Authoring (Role NOTIONAL)

inductive ExcessCause | ownLimit | soleDemander

structure LocalExcess where
  role : Role
  resource : PortfolioResourceId
  demandAtoms : Int
  limitAtoms : Int
  cause : ExcessCause

structure SharedConflict where
  resource : PortfolioResourceId
  demanders : List Role
  demandAtoms : Int
  authorityAtoms : Int
  requiredReductionAtoms : Int

inductive ConflictKind | validAndFits | agentLocalExcess | sharedConflict

inductive RoomPurpose | initialAllocation | hybridAllocation | reallocation | sharedResourceCoordination

inductive Handling | direct | localReplan | room | deterministicRefusal

structure Classification where
  kind : ConflictKind
  localExcess : List LocalExcess
  shared : List SharedConflict
  roomPurpose : Option RoomPurpose
  handling : Handling

/-- A line over its limit is the excess of the one agent that demands it, or a conflict of several. -/
def classifyLine (demands : List (Participant × ResourceVector)) (found : List LocalExcess × List SharedConflict)
    (line : ResourceLine) : List LocalExcess × List SharedConflict :=
  let required := line.requiredReductionAtoms
  if required = 0 then found
  else match (demands.filter fun d => 0 < amountOf d.2 line.resource).map (·.1.role) with
    | [role] =>
      if found.1.any (fun l => l.role = role && l.resource = line.resource) then found
      else (found.1 ++ [⟨role, line.resource, line.demandAtoms, line.authorityAtoms, .soleDemander⟩], found.2)
    | demanders => (found.1, found.2 ++ [⟨line.resource, demanders, line.demandAtoms, line.authorityAtoms, required⟩])

def classifyConflict (fit : Fit) (participants : List Participant) (requests : Requests) (demandAt : DemandAt)
    (coordinationAuthorized : Bool) : Classification :=
  if fit.feasible then ⟨.validAndFits, [], [], none, .direct⟩
  else
    let demands := participants.map fun p => (p, demandAt p ((requests.lookup p.role).getD 0))
    let own := fit.agentExcess.map fun x => LocalExcess.mk x.role x.resource x.requestedAtoms x.limitAtoms .ownLimit
    let found := fit.lines.foldl (classifyLine demands) (own, [])
    if found.1 ≠ [] then ⟨.agentLocalExcess, found.1, found.2, none, .localReplan⟩
    else
      let parties := (found.2.flatMap (·.demanders)).dedup
      if coordinationAuthorized && 2 ≤ parties.length then
        ⟨.sharedConflict, found.1, found.2, some .sharedResourceCoordination, .room⟩
      else ⟨.sharedConflict, found.1, found.2, none, .deterministicRefusal⟩

/-- A whole USDC, in atoms. -/
def unit : Int := 1000000

def halfway (lo hi : Int) : Int :=
  let step := (hi - lo) / unit / 2 * unit
  lo + if step = 0 then unit else step

theorem halfway_within {lo hi : Int} (wide : unit < hi - lo) :
    lo < halfway lo hi ∧ halfway lo hi < hi ∧ unit ∣ halfway lo hi - lo := by
  unfold halfway
  dsimp only
  split
  · exact ⟨by unfold unit; omega, by omega, by simp⟩
  · exact ⟨by unfold unit at *; omega, by unfold unit at *; omega, by simp⟩

/-- The search: `fits lo`, and `hi` does not fit. -/
def searchWhole (fits : Int → Bool) (lo hi : Int) : Int :=
  if _wide : unit < hi - lo then
    if fits (halfway lo hi) then searchWhole fits (halfway lo hi) hi else searchWhole fits lo (halfway lo hi)
  else lo
termination_by (hi - lo).toNat
decreasing_by
  · have := halfway_within _wide; omega
  · have := halfway_within _wide; omega

/-- A participant whose size is sought, everyone else's request unchanged. -/
structure Sizing where
  p : Participant
  participants : List Participant
  requests : Requests
  av : ResourceAvailability
  demandAt : DemandAt

/-- What a participant's request demands of a resource. -/
def asks (requests : Requests) (demandAt : DemandAt) (q : Participant) (r : PortfolioResourceId) : Int :=
  amountOf (demandAt q ((requests.lookup q.role).getD 0)) r

namespace Sizing
variable (s : Sizing)

def trial (atoms : Int) : Requests := s.requests.insert s.p.role atoms

def fit (atoms : Int) : Fit := assess s.participants (s.trial atoms) s.av s.demandAt

def fits (atoms : Int) : Bool :=
  if (s.fit atoms).agentExcess.any (fun x => x.role = s.p.role) then false
  else if (s.demandAt s.p atoms).any (fun a => headroom s.av s.p.agent a.resource < a.atoms) then false
  else !(classifyConflict (s.fit atoms) s.participants (s.trial atoms) s.demandAt false).localExcess.any fun l =>
    l.role = s.p.role

def largestFittingAtoms (upTo : Int) : Option Int :=
  let lo : Int := s.p.candidate.minAtoms
  if upTo < lo || !s.fits lo then none
  else
    let hi := upTo - upTo.tmod unit
    if hi < lo then some lo
    else if s.fits hi then some hi
    else some (searchWhole s.fits lo hi)

/-- At this size it is over neither its own headroom nor a portfolio limit only it demands. -/
structure Clear (atoms : Int) : Prop where
  own : ∀ a ∈ s.demandAt s.p atoms, a.atoms ≤ headroom s.av s.p.agent a.resource
  alone : ∀ limit ∈ s.av.portfolio,
    (∀ q ∈ s.participants, q.role ≠ s.p.role → asks s.requests s.demandAt q limit.resource ≤ 0) →
    0 < amountOf (s.demandAt s.p atoms) limit.resource → amountOf (s.demandAt s.p atoms) limit.resource ≤ limit.atoms

/-- It is one of the participants, no two have one role, and demands are canonical vectors in which a larger
size demands no less of any resource. -/
structure Rising : Prop where
  listed : s.p ∈ s.participants
  distinct : (s.participants.map (·.role)).Nodup
  unrepeated : ∀ q atoms, Unrepeated (s.demandAt q atoms)
  nonneg : ∀ q atoms, ∀ a ∈ s.demandAt q atoms, 0 ≤ a.atoms
  grows : ∀ q {less more}, less ≤ more → ∀ a ∈ s.demandAt q less, ∃ b ∈ s.demandAt q more,
    b.resource = a.resource ∧ a.atoms ≤ b.atoms

end Sizing

/-- The largest size, in whole USDC, between a minimum and an upper size at which it is clear. -/
structure LargestFit (clear : Int → Prop) (least upTo : Int) (result : Option Int) : Prop where
  refused : result = none ↔ upTo < least ∨ ¬ clear least
  between : ∀ n ∈ result, least ≤ n ∧ n ≤ upTo ∧ clear n
  largest : ∀ n ∈ result, ∀ whole, unit ∣ whole → n < whole → whole ≤ upTo → ¬ clear whole

theorem LargestFit.found {clear : Int → Prop} {least upTo n : Int} (fit : clear least) (low : least ≤ n)
    (high : n ≤ upTo) (here : clear n) (largest : ∀ whole, unit ∣ whole → n < whole → whole ≤ upTo → ¬ clear whole) :
    LargestFit clear least upTo (some n) where
  refused := ⟨nofun, fun either => either.elim (fun less => absurd (low.trans high) (not_le.mpr less)) (absurd fit)⟩
  between := by
    rintro _ ⟨⟩
    exact ⟨low, high, here⟩
  largest := by
    rintro _ ⟨⟩
    exact largest

section Loop
variable {good : Int → Bool}

/-- What the search returns fits, a step above does not, and both keep to the steps from the lower end,
unless the step above ends at the upper end. -/
theorem searchWhole_spec {lo hi : Int} (fit : good lo = true) (exceeds : good hi = false) (less : lo < hi) :
    ∃ found top, searchWhole good lo hi = found ∧ good found = true ∧ good top = false ∧
      lo ≤ found ∧ found < top ∧ top ≤ hi ∧ top ≤ found + unit ∧ unit ∣ found - lo ∧ (top = hi ∨ unit ∣ top - lo) := by
  fun_induction searchWhole good lo hi with
  | case1 lo hi wide here ih =>
    have above := halfway_within wide
    obtain ⟨found, top, result, fits, beyond, low, under, high, near, steps, ends⟩ := ih here exceeds above.2.1
    refine ⟨found, top, result, fits, beyond, by omega, under, high, near, ?_, ends.imp_right fun steps => ?_⟩
    · simpa using dvd_add steps above.2.2
    · simpa using dvd_add steps above.2.2
  | case2 lo hi wide here ih =>
    have above := halfway_within wide
    obtain ⟨found, top, result, fits, beyond, low, under, high, near, steps, ends⟩ :=
      ih fit (by simpa using here) above.1
    refine ⟨found, top, result, fits, beyond, low, under, by omega, near, steps, .inr ?_⟩
    rcases ends with rfl | steps
    · exact above.2.2
    · exact steps
  | case3 lo hi wide => exact ⟨lo, hi, rfl, fit, exceeds, le_rfl, less, le_rfl, by omega, by simp, .inl rfl⟩

end Loop

section Lines
variable {participants : List Participant} {requests : Requests} {av : ResourceAvailability} {demandAt : DemandAt}
  {role : Role}

theorem classifyLine_local (demands : List (Participant × ResourceVector))
    (found : List LocalExcess × List SharedConflict) (line : ResourceLine) (role : Role) :
    (∃ l ∈ (classifyLine demands found line).1, l.role = role) ↔
      (∃ l ∈ found.1, l.role = role) ∨ (line.requiredReductionAtoms ≠ 0 ∧
        (demands.filter fun d => 0 < amountOf d.2 line.resource).map (·.1.role) = [role]) := by
  unfold classifyLine
  by_cases within : line.requiredReductionAtoms = 0
  · simp [within]
  · simp only [within, ↓reduceIte, ne_eq, not_false_eq_true, true_and]
    split
    · rename_i sole alone
      rw [alone, singleton_inj]
      split
      · rename_i there
        obtain ⟨l, listed, same⟩ := any_eq_true.mp there
        simp only [Bool.and_eq_true, decide_eq_true_eq] at same
        exact ⟨.inl, fun either => either.elim id fun same' => ⟨l, listed, same.1.trans same'⟩⟩
      · simp [or_and_right, exists_or]
    · rename_i several
      exact ⟨.inl, fun either => either.elim id fun alone => absurd alone (several role)⟩

theorem classifyLine_fold (demands : List (Participant × ResourceVector)) (lines : List ResourceLine)
    (found : List LocalExcess × List SharedConflict) (role : Role) :
    (∃ l ∈ (lines.foldl (classifyLine demands) found).1, l.role = role) ↔
      (∃ l ∈ found.1, l.role = role) ∨ ∃ line ∈ lines, line.requiredReductionAtoms ≠ 0 ∧
        (demands.filter fun d => 0 < amountOf d.2 line.resource).map (·.1.role) = [role] := by
  induction lines generalizing found with
  | nil => simp
  | cons line rest ih => rw [foldl_cons, ih, classifyLine_local, or_assoc, exists_mem_cons_iff]

theorem mem_agentExcess {x : AgentExcess} : x ∈ (assess participants requests av demandAt).agentExcess ↔
    ∃ q ∈ participants, ∃ a ∈ demandAt q ((requests.lookup q.role).getD 0), headroom av q.agent a.resource < a.atoms ∧
      ⟨q.role, a.resource, a.atoms, headroom av q.agent a.resource⟩ = x := by
  simp [assess]

theorem mem_lines {line : ResourceLine} : line ∈ (assess participants requests av demandAt).lines ↔
    ∃ limit ∈ av.portfolio, ∃ total, (participants.map fun q => asks requests demandAt q limit.resource).sum = total ∧
      total ≠ 0 ∧
        ⟨limit.resource, limit.atoms, total, if limit.atoms < total then total - limit.atoms else 0⟩ = line := by
  unfold asks
  simp [assess, Function.comp_def]

/-- The excess of a role: its own, or the one line over that it alone demands. -/
theorem localExcess_iff (coordination : Bool) {f : Fit} (is : assess participants requests av demandAt = f) :
    (∃ l ∈ (classifyConflict f participants requests demandAt coordination).localExcess, l.role = role) ↔
      (∃ x ∈ f.agentExcess, x.role = role) ∨ ∃ line ∈ f.lines, line.requiredReductionAtoms ≠ 0 ∧
        (participants.filter fun q => 0 < asks requests demandAt q line.resource).map (·.role) = [role] := by
  have found := classifyLine_fold (participants.map fun q => (q, demandAt q ((requests.lookup q.role).getD 0))) f.lines
    (f.agentExcess.map fun x => LocalExcess.mk x.role x.resource x.requestedAtoms x.limitAtoms .ownLimit, []) role
  simp only [filter_map, map_map, Function.comp_def, mem_map, exists_exists_and_eq_and] at found
  unfold classifyConflict
  split
  · rename_i feasible
    subst is
    obtain ⟨within, none⟩ := (Bool.and_eq_true ..).mp feasible
    have none : (assess participants requests av demandAt).agentExcess = [] := isEmpty_iff.mp none
    simp only [not_mem_nil, false_and, exists_false, false_iff, not_or, not_exists, not_and]
    refine ⟨fun x listed => by simp [none] at listed, fun line listed exceeds => ?_⟩
    have low := of_decide_eq_true (all_eq_true.mp within line listed)
    obtain ⟨limit, _, total, _, _, rfl⟩ := mem_lines.mp listed
    dsimp only at low exceeds
    split at low
    · omega
    · simp_all
  · dsimp only
    split
    · exact found
    · split
      · exact found
      · exact found

end Lines

namespace Sizing
variable {s : Sizing} {atoms : Int}

theorem trial_own : ((s.trial atoms).lookup s.p.role).getD 0 = atoms := by simp [trial]

theorem trial_other {q : Participant} (other : q.role ≠ s.p.role) (r : PortfolioResourceId) :
    asks (s.trial atoms) s.demandAt q r = asks s.requests s.demandAt q r := by
  rw [asks, asks, trial, lookup_insert_eq, if_neg other]

theorem asks_own (r : PortfolioResourceId) :
    asks (s.trial atoms) s.demandAt s.p r = amountOf (s.demandAt s.p atoms) r := by
  rw [asks, trial_own]

theorem Rising.only (rising : Rising s) {q : Participant} (member : q ∈ s.participants) (same : q.role = s.p.role) :
    q = s.p := inj_on_of_nodup_map rising.distinct member rising.listed same

/-- It is the one participant that demands a resource. -/
theorem Rising.sole_iff (rising : Rising s) (r : PortfolioResourceId) :
    (s.participants.filter fun q => 0 < asks (s.trial atoms) s.demandAt q r).map (·.role) = [s.p.role] ↔
      0 < amountOf (s.demandAt s.p atoms) r ∧
        ∀ q ∈ s.participants, q.role ≠ s.p.role → asks s.requests s.demandAt q r ≤ 0 := by
  rw [← asks_own]
  have roles : ∀ role, role ∈ (s.participants.filter fun q => 0 < asks (s.trial atoms) s.demandAt q r).map (·.role) ↔
      ∃ q ∈ s.participants, 0 < asks (s.trial atoms) s.demandAt q r ∧ q.role = role := by simp [and_assoc]
  constructor
  · intro sole
    obtain ⟨q, member, positive, same⟩ := (roles s.p.role).mp (by simp [sole])
    obtain rfl := rising.only member same
    refine ⟨positive, fun q member other => not_lt.mp fun positive => other ?_⟩
    rw [← @trial_other s atoms q other] at positive
    simpa [sole] using (roles q.role).mpr ⟨q, member, positive, rfl⟩
  · rintro ⟨positive, others⟩
    have once := rising.distinct.sublist
      ((filter_sublist (p := fun q => 0 < asks (s.trial atoms) s.demandAt q r)).map Participant.role)
    refine perm_singleton.mp ((perm_ext_iff_of_nodup once (nodup_singleton _)).mpr fun role => ?_)
    rw [roles, mem_singleton]
    constructor
    · rintro ⟨q, member, demands, rfl⟩
      refine by_contra fun other => absurd (others q member other) (not_le.mpr ?_)
      rwa [trial_other other] at demands
    · rintro rfl
      exact ⟨s.p, rising.listed, positive, rfl⟩

theorem Rising.total (rising : Rising s) {r : PortfolioResourceId}
    (others : ∀ q ∈ s.participants, q.role ≠ s.p.role → asks s.requests s.demandAt q r ≤ 0) :
    (s.participants.map fun q => asks (s.trial atoms) s.demandAt q r).sum = amountOf (s.demandAt s.p atoms) r := by
  classical
  have apart : ∀ q, q ≠ s.p → q ∈ s.participants → asks (s.trial atoms) s.demandAt q r = 0 := by
    intro q ne member
    have other := fun same => ne (rising.only member same)
    rw [trial_other other]
    exact le_antisymm (others q member other) (amountOf_nonneg (rising.nonneg q _) r)
  rw [sum_map_eq_nsmul_single s.p _ apart, count_eq_one_of_mem (.of_map _ rising.distinct) rising.listed, one_nsmul,
    asks_own]

theorem Rising.excess_iff (rising : Rising s) : (∃ x ∈ (s.fit atoms).agentExcess, x.role = s.p.role) ↔
    ∃ a ∈ s.demandAt s.p atoms, headroom s.av s.p.agent a.resource < a.atoms := by
  constructor
  · rintro ⟨x, found, same⟩
    obtain ⟨q, member, a, demanded, exceeds, rfl⟩ := mem_agentExcess.mp found
    obtain rfl := rising.only member same
    rw [trial_own] at demanded
    exact ⟨a, demanded, exceeds⟩
  · rintro ⟨a, demanded, exceeds⟩
    exact ⟨_, mem_agentExcess.mpr ⟨s.p, rising.listed, a, by rwa [trial_own], exceeds, rfl⟩, rfl⟩

theorem Rising.line_iff (rising : Rising s) : (∃ line ∈ (s.fit atoms).lines, line.requiredReductionAtoms ≠ 0 ∧
      (s.participants.filter fun q => 0 < asks (s.trial atoms) s.demandAt q line.resource).map (·.role) = [s.p.role]) ↔
    ∃ limit ∈ s.av.portfolio, (∀ q ∈ s.participants, q.role ≠ s.p.role →
      asks s.requests s.demandAt q limit.resource ≤ 0) ∧ 0 < amountOf (s.demandAt s.p atoms) limit.resource ∧
        limit.atoms < amountOf (s.demandAt s.p atoms) limit.resource := by
  constructor
  · rintro ⟨line, found, required, sole⟩
    obtain ⟨limit, there, _, rfl, _, rfl⟩ := mem_lines.mp found
    obtain ⟨positive, others⟩ := (rising.sole_iff _).mp sole
    refine ⟨limit, there, others, positive, ?_⟩
    rw [← rising.total others]
    exact by_contra fun within => required (if_neg within)
  · rintro ⟨limit, there, others, positive, beyond⟩
    refine ⟨_, mem_lines.mpr ⟨limit, there, _, rising.total others, positive.ne', rfl⟩, ?_,
      (rising.sole_iff _).mpr ⟨positive, others⟩⟩
    rw [if_pos beyond]
    exact (sub_pos.mpr beyond).ne'

theorem Rising.fits_iff (rising : Rising s) (atoms : Int) : s.fits atoms = true ↔ s.Clear atoms := by
  have found := @localExcess_iff _ _ _ _ s.p.role false _ (rfl : _ = s.fit atoms)
  rw [rising.excess_iff, rising.line_iff] at found
  unfold fits
  by_cases own : ∃ a ∈ s.demandAt s.p atoms, headroom s.av s.p.agent a.resource < a.atoms
  · rw [if_pos (by simpa using rising.excess_iff.mpr own)]
    refine ⟨nofun, fun clear => ?_⟩
    obtain ⟨a, demanded, beyond⟩ := own
    exact absurd (clear.own a demanded) (not_le.mpr beyond)
  · rw [if_neg (by simpa using mt rising.excess_iff.mp own), if_neg (by simpa using own), Bool.not_eq_true',
      ← Bool.not_eq_true, any_eq_true]
    simp only [own, false_or] at found
    simp only [decide_eq_true_eq, found, not_exists, not_and, not_lt]
    refine ⟨fun within => ⟨fun a demanded => ?_, within⟩, Clear.alone⟩
    exact not_lt.mp fun beyond => own ⟨a, demanded, beyond⟩

theorem Rising.less (rising : Rising s) {less more : Int} (fewer : less ≤ more) (clear : s.Clear more) :
    s.Clear less := by
  have most : ∀ r, amountOf (s.demandAt s.p less) r ≤ amountOf (s.demandAt s.p more) r := by
    intro r
    by_cases demanded : ∃ a ∈ s.demandAt s.p less, a.resource = r
    · obtain ⟨a, demanded, rfl⟩ := demanded
      obtain ⟨b, there, same, above⟩ := rising.grows s.p fewer a demanded
      rw [amountOf_mem (rising.unrepeated ..) demanded, ← same, amountOf_mem (rising.unrepeated ..) there]
      exact above
    · rw [amountOf_absent fun a member same => demanded ⟨a, member, same⟩]
      exact amountOf_nonneg (rising.nonneg s.p more) r
  constructor
  · intro a demanded
    obtain ⟨b, there, same, above⟩ := rising.grows s.p fewer a demanded
    rw [← same]
    exact above.trans (clear.own b there)
  · intro limit there others positive
    exact (most _).trans (clear.alone limit there others (positive.trans_le (most _)))

theorem whole_below {upTo : Int} (nonneg : 0 ≤ upTo) :
    unit ∣ upTo - upTo.tmod unit ∧ upTo - upTo.tmod unit ≤ upTo ∧ upTo < upTo - upTo.tmod unit + unit := by
  rw [Int.tmod_eq_emod_of_nonneg nonneg]
  unfold unit
  omega

/-- The size returned is the largest whole one exactly when no whole size is clear that a step of the
search passes over: one from which the fraction of the minimum leads to a size that is not. -/
theorem largestFittingAtoms_largest (s : Sizing) (rising : s.Rising) (upTo : Int) :
    LargestFit s.Clear s.p.candidate.minAtoms upTo (s.largestFittingAtoms upTo) ↔
      ∀ whole, unit ∣ whole → s.p.candidate.minAtoms < whole → whole + unit ≤ upTo → s.Clear whole →
        s.Clear (whole + s.p.candidate.minAtoms % unit) := by
  have good := rising.fits_iff
  have below : ∀ {less more}, less ≤ more → s.Clear more → s.Clear less := rising.less
  generalize s.Clear = clear at *
  unfold largestFittingAtoms
  generalize s.fits = fits at *
  have natural : (0 : Int) ≤ s.p.candidate.minAtoms := Int.natCast_nonneg _
  generalize (s.p.candidate.minAtoms : Int) = lo at *
  dsimp only
  split
  · rename_i refused
    have refused : upTo < lo ∨ ¬ clear lo := by simpa [← good] using refused
    refine ⟨fun _ whole _ above under fit => ?_, fun _ => ⟨by simpa using refused, nofun, nofun⟩⟩
    rcases refused with small | unfit
    · unfold unit at under
      omega
    · exact absurd (below above.le fit) unfit
  · rename_i taken
    obtain ⟨small, fit⟩ : lo ≤ upTo ∧ clear lo := by simpa [← good] using taken
    obtain ⟨round, under, near⟩ := whole_below (natural.trans small)
    generalize upTo - upTo.tmod unit = hi at *
    have within : ∀ whole, unit ∣ whole → whole ≤ upTo → whole ≤ hi := by
      unfold unit at *
      omega
    split
    · rename_i short
      have none : ∀ whole, unit ∣ whole → lo < whole → ¬ whole ≤ upTo := fun whole rounded above less =>
        absurd (short.trans above) (not_lt.mpr (within whole rounded less))
      refine ⟨fun _ whole rounded above under _ => absurd ?_ (none whole rounded above), fun _ =>
        .found fit le_rfl small fit fun whole rounded above less => absurd less (none whole rounded above)⟩
      unfold unit at under
      omega
    · rename_i long
      split
      · rename_i top
        have top := (good hi).mp top
        refine ⟨fun _ whole rounded above under _ => below ?_ top, fun _ =>
          .found fit (not_lt.mp long) under top fun whole rounded above less =>
            absurd (within whole rounded less) (not_le.mpr above)⟩
        have := within (whole + unit) (dvd_add_self_right.mpr rounded) under
        unfold unit at *
        omega
      · rename_i exceeds
        have less : lo < hi := lt_of_le_of_ne (not_lt.mp long) fun same => exceeds ((good hi).mpr (same ▸ fit))
        obtain ⟨found, top, result, fits', beyond, low, before, high, close, steps, _⟩ :=
          searchWhole_spec ((good lo).mpr fit) (by simpa using exceeds) less
        rw [result]
        have fits' := (good found).mp fits'
        have beyond : ¬ clear top := fun clear => absurd ((good top).mpr clear) (by simp [beyond])
        constructor
        · intro largest whole rounded above under fit
          refine below (?_ : _ ≤ found) fits'
          have := not_lt.mp fun more => largest.largest found rfl whole rounded more (by unfold unit at under; omega) fit
          unfold unit at *
          omega
        · intro steady
          refine .found fit low (by omega) fits' fun whole rounded above less fit => ?_
          have under : whole < hi := not_le.mp fun more => exceeds ((good hi).mpr (below more fit))
          have stepped := steady whole rounded (by omega) (by unfold unit at *; omega) fit
          refine beyond (below ?_ stepped)
          unfold unit at *
          omega

section Sample

def notionalDemand (atoms : Int) : ResourceVector := if atoms ≤ 0 then [] else [⟨NOTIONAL, atoms⟩]

def halfMinimum : Participant := ⟨.stock, ⟨"a", .refl true⟩, ⟨"c", "t", 1500000, true⟩, 0, 10000000, 1500000⟩

/-- An agent alone, whose smallest size is 1.5 USDC, under a limit of 5. -/
def half : Sizing := ⟨halfMinimum, [halfMinimum], ∅, ⟨0, [⟨NOTIONAL, 5000000⟩], ∅, []⟩, fun _ => notionalDemand⟩

theorem mem_notionalDemand {n : Int} {a : ResourceAmount} : a ∈ notionalDemand n ↔ 0 < n ∧ a = ⟨NOTIONAL, n⟩ := by
  unfold notionalDemand
  split
  · simp [*]
  · simp [not_le.mp ‹_›]

theorem half_rising : half.Rising where
  listed := mem_singleton_self _
  distinct := nodup_singleton _
  unrepeated _ atoms := by
    change Unrepeated (if atoms ≤ 0 then [] else [_])
    split <;> simp [Unrepeated]
  nonneg _ atoms a demanded := by
    obtain ⟨positive, rfl⟩ := mem_notionalDemand.mp demanded
    exact positive.le
  grows _ less more fewer a demanded := by
    obtain ⟨positive, rfl⟩ := mem_notionalDemand.mp demanded
    exact ⟨_, mem_notionalDemand.mpr ⟨positive.trans_le fewer, rfl⟩, rfl, fewer⟩

theorem half_largest : LargestFit half.Clear half.p.candidate.minAtoms 3000000 (half.largestFittingAtoms 3000000) ↔
    ∀ whole, unit ∣ whole → half.p.candidate.minAtoms < whole → whole + unit ≤ 3000000 → half.Clear whole →
      half.Clear (whole + half.p.candidate.minAtoms % unit) :=
  largestFittingAtoms_largest half half_rising 3000000

theorem half_size : half.largestFittingAtoms 10000000 = some 4500000 := by
  have size : ((half.p.candidate.minAtoms : Nat) : Int) = 1500000 := rfl
  have low : half.fits 1500000 = true := by decide +kernel
  have high : half.fits 10000000 = false := by decide +kernel
  have exceeds : half.fits 5500000 = false := by decide +kernel
  have first : half.fits 3500000 = true := by decide +kernel
  have second : half.fits 4500000 = true := by decide +kernel
  simp [largestFittingAtoms, searchWhole, halfway, unit, size, low, high, exceeds, first, second]

/-- 4.5 is returned where 5 is clear. -/
theorem largestFittingAtoms_passes : ¬ ∀ (s : Sizing) (upTo : Int), s.Rising →
    LargestFit s.Clear s.p.candidate.minAtoms upTo (s.largestFittingAtoms upTo) := by
  intro all
  have largest := (all half 10000000 half_rising).largest 4500000 half_size 5000000 (by decide) (by omega) (by omega)
  have clear : half.fits 5000000 = true := by decide +kernel
  exact largest ((half_rising.fits_iff _).mp clear)

end Sample

end Sizing

end Mandate.Live
