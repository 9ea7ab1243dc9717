import Mandate.Control.Aggregate
import Mandate.Ledger.Canonical
import Mandate.Lib.Keyed

/-! What an aggregate's verdict says: the scope is closed, what it counts was valued at one price, and
the exact sum is within the limit. One such limit is compared with another by what each counts. -/
set_option linter.dupNamespace false
namespace Mandate.Control
open Core Ledger Lib.Wire Lib.Text Lib.Delimited Lib.Keyed List

section Contexts

theorem pins_resourceOf {allowed : List ResourceKind} (a b : ResourceOf allowed) :
    Pins (a = b) (writeResourceOf a) (writeResourceOf b) := by
  refine (Pins.of_frames (frames_resourceOf a) (frames_resourceOf b)).imp fun same => ?_
  have back := congrArg (fun input => validateResourceId input allowed "") same
  simp only [validateResourceId_self] at back
  exact Except.ok.inj back

theorem pins_unit (a b : UnitCode) : Pins (a = b) (writeStr a.1) (writeStr b.1) :=
  (Pins.of_frames (frames_unit a) (frames_unit b)).imp Subtype.ext

theorem sequence_ascii (kind : SequenceKind) : Ascii (sequenceText kind) := by
  cases kind <;> exact ascii_of_all (by decide)

theorem pins_sequence (a b : StateSequence) : Pins (a = b)
    (writeStr (sequenceText a.kind) ++ writeU64 (sequenceValue a))
    (writeStr (sequenceText b.kind) ++ writeU64 (sequenceValue b)) := by
  refine ((Pins.of_frames (frames_str (sequence_ascii a.kind)) (frames_str (sequence_ascii b.kind))).append fun _ =>
    pins_u64 _ _).imp ?_
  rintro ⟨texts, values⟩
  have kinds : ∀ k l, sequenceText k = sequenceText l → k = l := by
    intro k l
    cases k <;> cases l <;> decide
  have kind := kinds _ _ texts
  cases a with
  | none =>
    cases b with
    | none => rfl
    | counted k value => exact absurd kind.symm k.2
  | counted k value =>
    cases b with
    | none => exact absurd kind k.2
    | counted l other => exact congrArg₂ _ (Subtype.ext kind) (Subtype.ext values)

theorem pins_price (a b : Price) : Pins (a = b) (writePrice a) (writePrice b) := by
  refine ((pins_unit _ _).append fun _ => (pins_unit _ _).append fun _ => (pins_u8 _ _).append fun _ =>
    pins_u256 _ _).imp ?_
  rintro ⟨numerator, denominator, decimals, atoms⟩
  cases a
  cases b
  exact congr (congr (congrArg₂ _ numerator denominator) (Subtype.ext decimals)) (Subtype.ext atoms)

theorem pins_context (v w : ValuationContext) : Pins (v = w) (writeValuationContext v) (writeValuationContext w) := by
  have assoc : ∀ u : ValuationContext, writeValuationContext u = writeResourceOf u.asset ++ (writeStr u.source.1 ++
      ((writeStr (sequenceText u.sequence.kind) ++ writeU64 (sequenceValue u.sequence)) ++ (writeI64 u.observedAt.1 ++
        writePrice u.price))) := fun u => by
    simp only [writeValuationContext, writePrice, Writer.append_assoc]
  rw [assoc, assoc]
  refine ((pins_resourceOf _ _).append fun _ => (pins_identifier _ _).append fun _ => (pins_sequence _ _).append fun _ =>
    (pins_i64 _ _).append fun _ => pins_price _ _).imp ?_
  rintro ⟨asset, source, sequence, observedAt, price⟩
  cases v
  cases w
  exact congr (congr (congr (congrArg₂ _ asset source) sequence) (Subtype.ext observedAt)) price

theorem total_context (v : ValuationContext) : (writeValuationContext v).Total := by
  have text : (writeStr (sequenceText v.sequence.kind)).Total :=
    total_str (sequence_ascii _) (by cases v.sequence.kind <;> decide)
  have value : (writeU64 (sequenceValue v.sequence)).Total := by
    cases v.sequence with
    | none => exact total_u64 ⟨0, by decide⟩
    | counted _ value => exact total_u64 value
  simp [writeValuationContext, text, value]

theorem valuationContextKey_inj {v w : ValuationContext} (same : valuationContextKey v = valuationContextKey w) :
    v = w := by
  obtain ⟨p, written⟩ := total_context v
  obtain ⟨q, written'⟩ := total_context w
  rw [valuationContextKey, valuationContextKey, encodeWith, encodeWith, written, written'] at same
  exact (pins_context v w p q [] [] written written' (by simpa using same)).2

end Contexts

section Meaning
variable (spec : AggregateSpec) (participants : List ParticipantView) (active : List ModuleRef)

/-- Whoever may hold a part of the sum was asked, and nobody else has one. -/
structure Closed : Prop where
  contributors : ∀ c ∈ spec.params.contributors, ∃ p ∈ participants, p.module = c
  unresolved : ∀ m ∈ active, ∃ p ∈ participants, p.module = m
  declared : ∀ p ∈ participants, p.module ∉ spec.params.contributors → matchingFacts spec p = []

/-- Every participant's matching facts, each with what its module was given. -/
def matched : List (EconomicFact × List AdmittedState) :=
  participants.flatMap fun p => (matchingFacts spec p).map fun f => (f, p.admitted)

/-- Nothing counted is marked, or all of it at one observation of the asset's price. -/
def OneContext : Prop :=
  (∀ f ∈ matched spec participants, valuationContextOf spec f.1 f.2 = .ok none) ∨
    ∃ v, ∀ f ∈ matched spec participants, valuationContextOf spec f.1 f.2 = .ok (some v)

def exactSum : ℚ :=
  ((matched spec participants).map fun f => (f.1.quantity.atoms : ℚ) / 10 ^ f.1.quantity.decimals.1).sum

def exactLimit (params : AggregateParams) : ℚ := (params.limit : ℚ) / 10 ^ params.decimals.1

end Meaning

section Scope
variable {spec : AggregateSpec} {participants : List ParticipantView} {active : List ModuleRef}

theorem consultedModule_iff {m : ModuleRef} :
    consultedModule participants m = true ↔ ∃ p ∈ participants, p.module = m := by
  simp [consultedModule]

theorem isContributor_iff {m : ModuleRef} : isContributor spec m = true ↔ m ∈ spec.params.contributors := by
  simp [isContributor]

theorem checkAggregateScope_none : checkAggregateScope spec participants active = none ↔
    Closed spec participants active := by
  have declared : (participants.any fun p => !isContributor spec p.module && !(matchingFacts spec p).isEmpty) = false ↔
      ∀ p ∈ participants, p.module ∉ spec.params.contributors → matchingFacts spec p = [] := by
    simp [any_eq_false, ← isContributor_iff]
  have asked : ∀ modules : List ModuleRef, modules.all (consultedModule participants) = true ↔
      ∀ m ∈ modules, ∃ p ∈ participants, p.module = m := by
    simp [all_eq_true, consultedModule_iff]
  unfold checkAggregateScope
  constructor
  · intro passed
    split at passed
    · cases passed
    · rename_i undeclared
      split at passed
      · cases passed
      · rename_i contributors
        split at passed
        · cases passed
        · rename_i unresolved
          exact ⟨(asked _).mp (by simpa using contributors), (asked _).mp (by simpa using unresolved),
            declared.mp (Bool.eq_false_of_not_eq_true undeclared)⟩
  · rintro ⟨contributors, unresolved, undeclared⟩
    rw [if_neg (by rw [declared.mpr undeclared]; exact Bool.false_ne_true), (asked _).mpr contributors,
      (asked _).mpr unresolved]
    rfl

theorem scan_marked {facts : List (EconomicFact × List AdmittedState)} {v : ValuationContext} {unmarked : Bool} :
    scanContexts spec facts (some (valuationContextKey v)) unmarked = none ↔
      unmarked = false ∧ ∀ f ∈ facts, valuationContextOf spec f.1 f.2 = .ok (some v) := by
  induction facts generalizing unmarked with
  | nil => simp [scanContexts]
  | cons fact rest ih =>
    obtain ⟨f, admitted⟩ := fact
    rw [scanContexts, forall_mem_cons]
    cases context : valuationContextOf spec f admitted with
    | error reason => simp
    | ok found =>
      cases found with
      | none => simp [ih]
      | some w =>
        by_cases same : w = v
        · subst same
          simp [ih]
        · have apart : ¬ valuationContextKey v = valuationContextKey w := fun equal =>
            same (valuationContextKey_inj equal).symm
          simp [apart, same]

theorem scan_none {facts : List (EconomicFact × List AdmittedState)} {unmarked : Bool} :
    scanContexts spec facts none unmarked = none ↔ (∀ f ∈ facts, valuationContextOf spec f.1 f.2 = .ok none) ∨
      unmarked = false ∧ ∃ v, ∀ f ∈ facts, valuationContextOf spec f.1 f.2 = .ok (some v) := by
  induction facts generalizing unmarked with
  | nil => simp [scanContexts]
  | cons fact rest ih =>
    obtain ⟨f, admitted⟩ := fact
    rw [scanContexts]
    simp only [forall_mem_cons]
    cases context : valuationContextOf spec f admitted with
    | error reason => simp
    | ok found =>
      cases found with
      | none => simp [ih]
      | some v => simp [scan_marked]

theorem flatMap_filter {α β : Type} {keep : α → Bool} {f : α → List β} {items : List α}
    (dropped : ∀ a ∈ items, keep a = false → f a = []) : (items.filter keep).flatMap f = items.flatMap f := by
  induction items with
  | nil => rfl
  | cons a rest ih =>
    have tail := ih fun b listed => dropped b (mem_cons_of_mem _ listed)
    cases kept : keep a with
    | true => rw [filter_cons_of_pos kept, flatMap_cons, flatMap_cons, tail]
    | false =>
      rw [filter_cons_of_neg (by simp [kept]), flatMap_cons, dropped a mem_cons_self kept, tail]
      rfl

theorem declared_nothing (closed : Closed spec participants active) : ∀ p ∈ participants,
    isContributor spec p.module = false → matchingFacts spec p = [] := by
  intro p listed foreign
  refine closed.declared p listed fun member => ?_
  rw [isContributor_iff.mpr member] at foreign
  cases foreign

theorem checkValuationContexts_none (closed : Closed spec participants active) :
    checkValuationContexts spec participants = none ↔ OneContext spec participants := by
  have same : contributedFacts spec participants = matched spec participants := by
    refine flatMap_filter fun p listed foreign => ?_
    rw [declared_nothing closed p listed foreign, map_nil]
  rw [checkValuationContexts, same, scan_none, OneContext]
  simp

end Scope

section Sum
variable {spec : AggregateSpec} {participants : List ParticipantView} {active : List ModuleRef}

theorem views_of_contributors {modules : List ModuleRef}
    (asked : ∀ c ∈ modules, ∃ p ∈ participants, p.module = c) :
    ∃ views, (modules.mapM fun c => participants.find? fun p => moduleRefsEqual p.module c) = some views ∧
      views.map (·.module) = modules ∧ ∀ v ∈ views, v ∈ participants := by
  induction modules with
  | nil => exact ⟨[], rfl, rfl, fun _ listed => absurd listed not_mem_nil⟩
  | cons c rest ih =>
    obtain ⟨views, found, names, inside⟩ := ih fun d listed => asked d (mem_cons_of_mem _ listed)
    obtain ⟨p, listed, named⟩ := asked c mem_cons_self
    have present : (participants.find? fun p => moduleRefsEqual p.module c).isSome = true :=
      find?_isSome.mpr ⟨p, listed, (moduleRefsEqual_iff p.module c).mpr named⟩
    obtain ⟨q, first⟩ := Option.isSome_iff_exists.mp present
    have there := mem_of_find?_eq_some first
    have here : q.module = c := by simpa using find?_some first
    refine ⟨q :: views, ?_, ?_, forall_mem_cons.mpr ⟨there, inside⟩⟩
    · rw [mapM_cons, first, found]
      rfl
    · rw [map_cons, here, names]

theorem includedFacts_matched (closed : Closed spec participants active)
    (distinct : (participants.map (·.module)).Nodup) (once : spec.params.contributors.Nodup) :
    ∃ facts, includedFacts spec participants = some facts ∧
      facts.Perm ((matched spec participants).map Prod.fst) := by
  obtain ⟨views, found, names, inside⟩ := views_of_contributors closed.contributors
  have perm : views.Perm (participants.filter fun p => isContributor spec p.module) := by
    have one : views.Nodup := List.Nodup.of_map (·.module) (names ▸ once)
    have two : (participants.filter fun p => isContributor spec p.module).Nodup :=
      (List.Nodup.of_map _ distinct).filter _
    rw [perm_ext_iff_of_nodup one two]
    intro p
    rw [mem_filter, isContributor_iff, ← names]
    constructor
    · exact fun listed => ⟨inside p listed, mem_map_of_mem listed⟩
    · rintro ⟨listed, named⟩
      obtain ⟨v, member, same⟩ := mem_map.mp named
      exact apart_of_nodup distinct v (inside v member) p listed same ▸ member
  refine ⟨views.flatMap (matchingFacts spec), ?_, ?_⟩
  · rw [includedFacts, found]
    rfl
  · have all : (matched spec participants).map Prod.fst = participants.flatMap (matchingFacts spec) := by
      simp [matched, map_flatMap, Function.comp_def]
    rw [all, ← flatMap_filter (declared_nothing closed)]
    exact perm.flatMap_right _

theorem widest_covers (decimals : Decimals) (facts : List EconomicFact) : decimals.1 ≤ (widest decimals facts).1 ∧
    ∀ f ∈ facts, f.quantity.decimals.1 ≤ (widest decimals facts).1 := by
  induction facts generalizing decimals with
  | nil => exact ⟨le_rfl, fun _ listed => absurd listed not_mem_nil⟩
  | cons f rest ih =>
    obtain ⟨start, each⟩ := ih (if decimals.1 < f.quantity.decimals.1 then f.quantity.decimals else decimals)
    rw [show widest decimals (f :: rest) = widest _ rest from rfl]
    refine ⟨?_, forall_mem_cons.mpr ⟨?_, each⟩⟩
    · refine le_trans ?_ start
      split <;> omega
    · refine le_trans ?_ start
      split <;> omega

theorem scaled_up {atoms : Int} {decimals scale : Nat} (fine : decimals ≤ scale) :
    ((atoms * 10 ^ (scale - decimals) : Int) : ℚ) = (atoms : ℚ) / 10 ^ decimals * 10 ^ scale := by
  have split : (10 : ℚ) ^ scale = 10 ^ (scale - decimals) * 10 ^ decimals := by
    rw [← pow_add, Nat.sub_add_cancel fine]
  rw [split]
  push_cast
  field_simp

theorem sumAt_exact {scale : Decimals} {facts : List EconomicFact}
    (fine : ∀ f ∈ facts, f.quantity.decimals.1 ≤ scale.1) : ((sumAt scale facts : Int) : ℚ) =
      (facts.map fun f => (f.quantity.atoms : ℚ) / 10 ^ f.quantity.decimals.1).sum * 10 ^ scale.1 := by
  induction facts with
  | nil => simp [sumAt]
  | cons f rest ih =>
    have head := @scaled_up f.quantity.atoms _ _ (fine f mem_cons_self)
    have tail := ih fun g listed => fine g (mem_cons_of_mem _ listed)
    rw [sumAt] at tail ⊢
    rw [map_cons, sum_cons, map_cons, sum_cons, add_mul, ← head, ← tail, Int.cast_add]

theorem sum_within {facts : List EconomicFact} (params : AggregateParams) :
    (sumAt (widest params.decimals facts) facts ≤
        params.limit * 10 ^ ((widest params.decimals facts).1 - params.decimals.1)) ↔
      (facts.map fun f => (f.quantity.atoms : ℚ) / 10 ^ f.quantity.decimals.1).sum ≤ exactLimit params := by
  obtain ⟨own, each⟩ := widest_covers params.decimals facts
  have positive : (0 : ℚ) < 10 ^ (widest params.decimals facts).1 := by positivity
  have limit := @scaled_up params.limit _ _ own
  rw [← @Int.cast_le ℚ, sumAt_exact each, limit, exactLimit, Int.cast_natCast]
  exact mul_le_mul_iff_left₀ positive

theorem sumAggregate_exact (closed : Closed spec participants active)
    (distinct : (participants.map (·.module)).Nodup) (once : spec.params.contributors.Nodup) :
    (sumAggregate spec participants).outcome =
      if exactSum spec participants ≤ exactLimit spec.params then .holds else .violated := by
  obtain ⟨facts, included, perm⟩ := includedFacts_matched closed distinct once
  have sums : (facts.map fun f => (f.quantity.atoms : ℚ) / 10 ^ f.quantity.decimals.1).sum =
      exactSum spec participants := by
    rw [(perm.map _).sum_eq, map_map]
    rfl
  unfold sumAggregate
  rw [included]
  simp only [sum_within, sums]

end Sum

section Verdict
variable {spec : AggregateSpec} {participants : List ParticipantView} {active : List ModuleRef}

theorem evaluateAggregate_outcome (distinct : (participants.map (·.module)).Nodup)
    (once : spec.params.contributors.Nodup) : (evaluateAggregate spec participants active).outcome =
      open Classical in if Closed spec participants active ∧ OneContext spec participants then
        if exactSum spec participants ≤ exactLimit spec.params then .holds else .violated
      else .unknown := by
  unfold evaluateAggregate
  cases scope : checkAggregateScope spec participants active with
  | some reason =>
    have opened : ¬ Closed spec participants active := fun closed =>
      absurd (checkAggregateScope_none.mpr closed) (by simp [scope])
    rw [if_neg fun both => opened both.1]
    rfl
  | none =>
    have closed := checkAggregateScope_none.mp scope
    cases contexts : checkValuationContexts spec participants with
    | some reason =>
      have mixed : ¬ OneContext spec participants := fun one =>
        absurd ((checkValuationContexts_none closed).mpr one) (by simp [contexts])
      rw [if_neg fun both => mixed both.2]
      rfl
    | none =>
      rw [if_pos ⟨closed, (checkValuationContexts_none closed).mp contexts⟩]
      exact sumAggregate_exact closed distinct once

def Rearranged (participants participants' : List ParticipantView) : Prop :=
  ∃ middle, participants.Perm middle ∧ List.Forall₂ (fun p q => p.module = q.module ∧ p.admitted = q.admitted ∧
    p.projection.facts.Perm q.projection.facts) middle participants'

theorem matched_rearranged {participants' : List ParticipantView}
    (rearranged : Rearranged participants participants') : (participants.map (·.module)).Perm (participants'.map (·.module)) ∧
      (∀ m, (∃ p ∈ participants, p.module = m ∧ matchingFacts spec p ≠ []) ↔
        ∃ p ∈ participants', p.module = m ∧ matchingFacts spec p ≠ []) ∧
      (matched spec participants).Perm (matched spec participants') := by
  obtain ⟨middle, perm, each⟩ := rearranged
  suffices aligned : middle.map (·.module) = participants'.map (·.module) ∧
      (∀ m, (∃ p ∈ middle, p.module = m ∧ matchingFacts spec p ≠ []) ↔
        ∃ p ∈ participants', p.module = m ∧ matchingFacts spec p ≠ []) ∧
      (matched spec middle).Perm (matched spec participants') by
    refine ⟨(perm.map _).trans (.of_eq aligned.1), fun m => ?_, (perm.flatMap_right _).trans aligned.2.2⟩
    rw [← aligned.2.1]
    simp only [perm.mem_iff]
  clear perm
  induction each with
  | nil => exact ⟨rfl, fun _ => Iff.rfl, .refl _⟩
  | @cons p q rest rest' first _ ih =>
    obtain ⟨module, admitted, facts⟩ := first
    obtain ⟨modules, declared, tail⟩ := ih
    have counted : (matchingFacts spec p).Perm (matchingFacts spec q) := facts.filter _
    refine ⟨by rw [map_cons, map_cons, module, modules], fun m => ?_, ?_⟩
    · have some_ : matchingFacts spec p ≠ [] ↔ matchingFacts spec q ≠ [] := by
        rw [ne_eq, ne_eq, ← length_eq_zero_iff, ← length_eq_zero_iff, counted.length_eq]
      simp only [exists_mem_cons_iff, declared, module, some_]
    · exact ((counted.map _).trans (.of_eq (by rw [admitted]))).append tail

theorem closed_rearranged {participants' : List ParticipantView} (rearranged : Rearranged participants participants')
    (closed : Closed spec participants active) : Closed spec participants' active := by
  obtain ⟨modules, declared, _⟩ := @matched_rearranged spec _ _ rearranged
  have asked : ∀ m, (∃ p ∈ participants, p.module = m) → ∃ p ∈ participants', p.module = m := fun m => by
    rw [← mem_map, ← mem_map, modules.mem_iff]
    exact id
  refine ⟨fun c named => asked c (closed.contributors c named), fun m unresolved => asked m
    (closed.unresolved m unresolved), fun q listed foreign => ?_⟩
  by_contra some_
  obtain ⟨p, member, named, facts⟩ := (declared q.module).mpr ⟨q, listed, rfl, some_⟩
  exact facts (closed.declared p member (named ▸ foreign))

private def Alike (p q : ParticipantView) : Prop :=
  p.module = q.module ∧ p.admitted = q.admitted ∧ p.projection.facts.Perm q.projection.facts

private theorem Rearranged.symm {participants' : List ParticipantView} (rearranged : Rearranged participants participants') :
    Rearranged participants' participants := by
  obtain ⟨middle, perm, each⟩ := rearranged
  have back : List.Forall₂ Alike participants' middle := by
    refine each.flip.imp fun p q same => ?_
    exact ⟨same.1.symm, same.2.1.symm, same.2.2.symm⟩
  have swapped : Relation.Comp List.Perm (List.Forall₂ Alike) participants' participants := by
    rw [← forall₂_comp_perm_eq_perm_comp_forall₂]
    exact ⟨middle, back, perm.symm⟩
  exact swapped

/-- The verdict is the three conditions, and no order is among them. -/
theorem evaluateAggregate_exact (distinct : (participants.map (·.module)).Nodup)
    (once : spec.params.contributors.Nodup) :
    ((evaluateAggregate spec participants active).outcome = .holds ↔ Closed spec participants active ∧
      OneContext spec participants ∧ exactSum spec participants ≤ exactLimit spec.params) ∧
    ∀ participants', Rearranged participants participants' → (evaluateAggregate spec participants' active).outcome =
      (evaluateAggregate spec participants active).outcome := by
  constructor
  · rw [evaluateAggregate_outcome distinct once]
    split
    · rename_i both
      split
      · rename_i within
        exact iff_of_true rfl ⟨both.1, both.2, within⟩
      · rename_i above
        exact iff_of_false (by decide) fun all => above all.2.2
    · rename_i unknown
      exact iff_of_false (by decide) fun all => unknown ⟨all.1, all.2.1⟩
  · intro participants' rearranged
    obtain ⟨modules, _, facts⟩ := @matched_rearranged spec _ _ rearranged
    have closed : Closed spec participants' active ↔ Closed spec participants active :=
      ⟨closed_rearranged rearranged.symm, closed_rearranged rearranged⟩
    have one : OneContext spec participants' ↔ OneContext spec participants := by
      simp only [OneContext, facts.mem_iff]
    have sums : exactSum spec participants' = exactSum spec participants := (facts.symm.map _).sum_eq
    rw [evaluateAggregate_outcome distinct once, evaluateAggregate_outcome (modules.nodup_iff.mp distinct) once]
    rw [sums]
    by_cases both : Closed spec participants active ∧ OneContext spec participants
    · rw [if_pos both, if_pos ((and_congr closed one).mpr both)]
    · rw [if_neg both, if_neg fun both' => both ((and_congr closed one).mp both')]

end Verdict

section Narrowing

/-- The child counts what the parent counts, and its limit is within the parent's. -/
structure Narrows (p c : AggregateParams) : Prop where
  kind : p.kind = c.kind
  unit : p.unit = c.unit
  covers : ∀ m ∈ p.contributors, m ∈ c.contributors
  signed : (QUANTITY_KIND_RULES p.kind).signed = true → c.contributors.length = p.contributors.length
  limit : exactLimit c ≤ exactLimit p

private theorem Narrows.refl (p : AggregateParams) : Narrows p p :=
  ⟨rfl, rfl, fun _ named => named, fun _ => rfl, le_rfl⟩

private theorem Narrows.trans {p c d : AggregateParams} (first : Narrows p c) (second : Narrows c d) : Narrows p d where
  kind := first.kind.trans second.kind
  unit := first.unit.trans second.unit
  covers m named := second.covers m (first.covers m named)
  signed rule := (second.signed (first.kind ▸ rule)).trans (first.signed rule)
  limit := second.limit.trans first.limit

theorem limit_within (p c : AggregateParams) : c.limit * 10 ^ (max p.decimals.1 c.decimals.1 - c.decimals.1) ≤
        p.limit * 10 ^ (max p.decimals.1 c.decimals.1 - p.decimals.1) ↔ exactLimit c ≤ exactLimit p := by
  have positive : (0 : ℚ) < 10 ^ max p.decimals.1 c.decimals.1 := by positivity
  have above := @scaled_up p.limit _ _ (le_max_left p.decimals.1 c.decimals.1)
  have below := @scaled_up c.limit _ _ (le_max_right p.decimals.1 c.decimals.1)
  rw [Int.cast_natCast] at above below
  rw [← mul_le_mul_iff_left₀ positive, exactLimit, exactLimit, ← above, ← below]
  norm_cast

theorem compareAggregateParams_iff {parent child : StateInvariantTerm} :
    compareAggregateParams parent child = .noWeaker ↔ ∃ p c, decodeAggregateParams parent.params.1 = .ok p ∧
      decodeAggregateParams child.params.1 = .ok c ∧ Narrows p c := by
  unfold compareAggregateParams
  cases above : decodeAggregateParams parent.params.1 with
  | error reason => simp
  | ok p =>
    cases below : decodeAggregateParams child.params.1 with
    | error reason => simp
    | ok c =>
      have covers : (p.contributors.all fun x => c.contributors.any fun y => moduleRefsEqual x y) = true ↔
          ∀ m ∈ p.contributors, m ∈ c.contributors := by
        simp
      have narrows : Narrows p c ↔ ¬ (p.kind ≠ c.kind ∨ p.unit ≠ c.unit) ∧
          (p.contributors.all fun x => c.contributors.any fun y => moduleRefsEqual x y) = true ∧
          ¬ ((QUANTITY_KIND_RULES p.kind).signed = true ∧ c.contributors.length ≠ p.contributors.length) ∧
          c.limit * 10 ^ (max p.decimals.1 c.decimals.1 - c.decimals.1) ≤
            p.limit * 10 ^ (max p.decimals.1 c.decimals.1 - p.decimals.1) := by
        rw [covers, limit_within]
        constructor
        · rintro ⟨kind, unit, all, signed, limit⟩
          exact ⟨by simp [kind, unit], all, fun both => both.2 (signed both.1), limit⟩
        · rintro ⟨measure, all, signed, limit⟩
          simp only [ne_eq, not_or, not_not] at measure
          exact ⟨measure.1, measure.2, all, fun rule => not_not.mp fun other => signed ⟨rule, other⟩, limit⟩
      have only : (∃ p' c', (Except.ok p : Except String AggregateParams) = .ok p' ∧
          (Except.ok c : Except String AggregateParams) = .ok c' ∧ Narrows p' c') ↔ Narrows p c := by
        constructor
        · rintro ⟨p', c', one, two, narrows⟩
          rwa [Except.ok.inj one, Except.ok.inj two]
        · exact fun narrows => ⟨p, c, rfl, rfl, narrows⟩
      rw [only, narrows]
      dsimp only
      split
      · rename_i other
        simp [other]
      · rename_i measure
        split
        · rename_i missing
          simp_all
        · rename_i all
          split
          · rename_i signed
            simp [signed]
          · rename_i signed
            split
            · rename_i limit
              simp_all
            · rename_i limit
              simp [limit]

theorem aggregateSpecOf_params {term : StateInvariantTerm} {spec : AggregateSpec} (read : aggregateSpecOf term = .ok spec) :
    decodeAggregateParams term.params.1 = .ok spec.params := by
  obtain ⟨params, decoded, rest⟩ := except_bind_success read
  split at rest
  · dsimp only at rest
    split at rest
    · cases rest
      exact decoded
    · cases rest
  · cases rest

variable {p c : AggregateSpec} {participants : List ParticipantView} {active : List ModuleRef}

theorem matching_same (narrows : Narrows p.params c.params) (asset : c.asset = p.asset) :
    matchingFacts c = matchingFacts p := by
  funext view
  rw [matchingFacts, matchingFacts, narrows.kind, narrows.unit, asset]

theorem contexts_same (asset : c.asset = p.asset) : valuationContextOf c = valuationContextOf p := by
  funext f admitted
  unfold valuationContextOf
  rw [asset]

theorem narrower_holds (narrows : Narrows p.params c.params) (asset : c.asset = p.asset)
    (distinct : (participants.map (·.module)).Nodup) (once : p.params.contributors.Nodup)
    (once' : c.params.contributors.Nodup) (holds : (evaluateAggregate c participants active).outcome = .holds) :
    ((evaluateAggregate p participants active).outcome = .holds ↔
      ∀ v ∈ participants, v.module ∉ p.params.contributors → matchingFacts p v = []) ∧
    (evaluateAggregate p participants active).outcome ≠ .violated := by
  obtain ⟨closed, one, within⟩ := (evaluateAggregate_exact distinct once').1.mp holds
  have facts : matched c participants = matched p participants := by
    rw [matched, matched, matching_same narrows asset]
  rw [OneContext, facts, contexts_same asset] at one
  rw [exactSum, facts] at within
  have below : exactSum p participants ≤ exactLimit p.params := within.trans narrows.limit
  refine ⟨(evaluateAggregate_exact distinct once).1.trans ⟨fun all => all.1.declared, fun declared => ⟨⟨fun m named =>
    closed.contributors m (narrows.covers m named), closed.unresolved, declared⟩, one, below⟩⟩, ?_⟩
  rw [evaluateAggregate_outcome distinct once, if_pos below]
  split <;> decide

/-- A limit no weaker than another may be taken for it wherever only what the other names has a part in the
sum; and such limits compose along a lineage. -/
theorem compareAggregateParams_sound :
    (∀ parent child p c participants active, aggregateSpecOf parent = .ok p → aggregateSpecOf child = .ok c →
      p.asset = c.asset → p.params.contributors.Nodup → c.params.contributors.Nodup →
      (participants.map ParticipantView.module).Nodup → compareAggregateParams parent child = .noWeaker →
      (evaluateAggregate c participants active).outcome = .holds →
      ((evaluateAggregate p participants active).outcome = .holds ↔
        ∀ v ∈ participants, v.module ∉ p.params.contributors → matchingFacts p v = []) ∧
      (evaluateAggregate p participants active).outcome ≠ .violated) ∧
    (∀ term params, decodeAggregateParams term.params.1 = .ok params → compareAggregateParams term term = .noWeaker) ∧
    (∀ a b c, compareAggregateParams a b = .noWeaker → compareAggregateParams b c = .noWeaker →
      compareAggregateParams a c = .noWeaker) ∧
    ∀ root lineage, List.IsChain (fun a b => compareAggregateParams a b = .noWeaker) (root :: lineage) →
      ∀ last ∈ lineage, compareAggregateParams root last = .noWeaker := by
  have composes : ∀ a b c, compareAggregateParams a b = .noWeaker → compareAggregateParams b c = .noWeaker →
      compareAggregateParams a c = .noWeaker := by
    intro a b c first second
    obtain ⟨p, q, one, two, above⟩ := compareAggregateParams_iff.mp first
    obtain ⟨q', r, two', three, below⟩ := compareAggregateParams_iff.mp second
    obtain rfl := Except.ok.inj (two.symm.trans two')
    exact compareAggregateParams_iff.mpr ⟨p, r, one, three, above.trans below⟩
  refine ⟨?_, fun term params decoded => compareAggregateParams_iff.mpr ⟨params, params, decoded, decoded, .refl _⟩,
    composes, fun root lineage chain last listed => ?_⟩
  · intro parent child p c participants active above below asset once once' distinct narrower holds
    obtain ⟨p', c', one, two, narrows⟩ := compareAggregateParams_iff.mp narrower
    obtain rfl := Except.ok.inj (one.symm.trans (aggregateSpecOf_params above))
    obtain rfl := Except.ok.inj (two.symm.trans (aggregateSpecOf_params below))
    exact narrower_holds narrows asset.symm distinct once once' holds
  · have trans : IsTrans StateInvariantTerm fun a b => compareAggregateParams a b = .noWeaker := ⟨composes⟩
    exact rel_of_pairwise_cons (isChain_iff_pairwise.mp chain) listed

end Narrowing

section Sample

/-- The parameters as a term carries them, contributors in the order of their encodings. -/
def encodeAggregateParams (p : AggregateParams) : Bytes :=
  encodeWith (fun p : AggregateParams => taggedWriter ControlTag.AGGREGATE_PARAMS ++
    (writeCode QUANTITY_KIND_CODE p.kind ++ (writeStr p.unit.1 ++ (writeU8 p.decimals.1 ++ (writeU256 p.limit ++
      writeList writeModuleRef (sortEncoded writeModuleRef p.contributors)))))) p

private def dollars : UnitCode := ⟨"USD", .refl true⟩

private def coin : ResourceId := ⟨⟨"core", by decide⟩, .canonicalAsset, ⟨"coin", by decide⟩⟩

/-- Orders placed for a coin, at most a hundred dollars by these modules. -/
private def orderCap (contributors : List ModuleRef) : AggregateParams := ⟨.notional, dollars, ⟨0, Nat.zero_le _⟩, 100,
  contributors⟩

private def lateModule : ModuleRef := { sampleModule with moduleId := ⟨"twap", by decide⟩ }

private def capTerm (params : Bytes) (short : params.length ≤ MAX_INVARIANT_PARAMS_BYTES) : StateInvariantTerm where
  invariantId := ⟨AGGREGATE_INVARIANT_ID, by decide⟩
  version := ⟨AGGREGATE_INVARIANT_VERSION, by decide⟩
  scope := ⟨[coin], by decide, by simp [Ascending]⟩
  params := ⟨params, short⟩

private def oneTerm : StateInvariantTerm := capTerm (encodeAggregateParams (orderCap [sampleModule])) (by decide +kernel)

private def bothTerm : StateInvariantTerm :=
  capTerm (encodeAggregateParams (orderCap [sampleModule, lateModule])) (by decide +kernel)

private def oneSpec : AggregateSpec := ⟨oneTerm, orderCap [sampleModule], ⟨coin, by decide⟩, []⟩

private def bothSpec : AggregateSpec := ⟨bothTerm, orderCap [sampleModule, lateModule], ⟨coin, by decide⟩, []⟩

theorem oneTerm_spec : aggregateSpecOf oneTerm = .ok oneSpec := by decide +kernel

theorem bothTerm_spec : aggregateSpecOf bothTerm = .ok bothSpec := by decide +kernel

private def orderAt (price : IntegerInRange 0 UINT256_MAX) : EconomicFact where
  component := .proposed
  quantity := ⟨.notional, dollars, ⟨0, Nat.zero_le _⟩, 10, some ⟨coin, by decide⟩,
    some ⟨⟨dollars, ⟨"COIN", by decide⟩, ⟨0, Nat.zero_le _⟩, price⟩, .limit, ⟨.action, 1⟩, ⟨0, seconds_zero⟩, rfl⟩, by decide +kernel,
    by decide +kernel, by decide +kernel, by simp [valuationFits, QUANTITY_KIND_RULES]⟩
  market := none
  account := none
  states := []
  reservations := []

private def ordersOf (module : ModuleRef) : ParticipantView :=
  ⟨module, ⟨[orderAt ⟨1, by decide⟩, orderAt ⟨2, by decide⟩], [], [], [], []⟩, []⟩

/-- Orders at two prices, which no observation valued, are one sum. -/
theorem orders_hold : ¬ ∀ term spec participants active, aggregateSpecOf term = .ok spec →
    spec.params.contributors.Nodup → (participants.map ParticipantView.module).Nodup →
    ((evaluateAggregate spec participants active).outcome = .holds ↔ Closed spec participants active ∧
      (∃ v, ∀ f ∈ matched spec participants, valuationContextOf spec f.1 f.2 = .ok (some v)) ∧
      exactSum spec participants ≤ exactLimit spec.params) := by
  intro claimed
  have holds : (evaluateAggregate oneSpec [ordersOf sampleModule] [sampleModule]).outcome = .holds := by decide +kernel
  obtain ⟨_, ⟨v, valued⟩, _⟩ := (claimed oneTerm oneSpec [ordersOf sampleModule] [sampleModule] oneTerm_spec (by decide)
    (by decide)).mp holds
  have listed : (orderAt ⟨1, by decide⟩, []) ∈ matched oneSpec [ordersOf sampleModule] := by decide +kernel
  have unmarked : valuationContextOf oneSpec (orderAt ⟨1, by decide⟩) [] = .ok none := by decide +kernel
  have contradiction := unmarked.symm.trans (valued _ listed)
  cases contradiction

theorem orders_decided : ((evaluateAggregate oneSpec [ordersOf sampleModule] [sampleModule]).outcome = .holds ↔
      Closed oneSpec [ordersOf sampleModule] [sampleModule] ∧ OneContext oneSpec [ordersOf sampleModule] ∧
        exactSum oneSpec [ordersOf sampleModule] ≤ exactLimit oneSpec.params) ∧
    ∀ participants', Rearranged [ordersOf sampleModule] participants' →
      (evaluateAggregate oneSpec participants' [sampleModule]).outcome =
        (evaluateAggregate oneSpec [ordersOf sampleModule] [sampleModule]).outcome :=
  evaluateAggregate_exact (by decide) (by decide)

/-- What only the narrower limit counts is not known to the wider one. -/
theorem late_orders : ¬ ∀ parent child p c participants active, aggregateSpecOf parent = .ok p →
    aggregateSpecOf child = .ok c → p.asset = c.asset → p.params.contributors.Nodup → c.params.contributors.Nodup →
    (participants.map ParticipantView.module).Nodup → (∀ f ∈ matched c participants, 0 ≤ f.1.quantity.atoms) →
    compareAggregateParams parent child = .noWeaker → (evaluateAggregate c participants active).outcome = .holds →
    (evaluateAggregate p participants active).outcome = .holds := by
  intro claimed
  have holds := claimed oneTerm bothTerm oneSpec bothSpec [ordersOf sampleModule, ordersOf lateModule] [] oneTerm_spec
    bothTerm_spec rfl (by decide) (by decide) (by decide) (by decide +kernel) (by decide +kernel) (by decide +kernel)
  exact absurd holds (by decide +kernel)

theorem early_orders :
    ((evaluateAggregate oneSpec [ordersOf sampleModule, ⟨lateModule, ⟨[], [], [], [], []⟩, []⟩] []).outcome = .holds ↔
      ∀ v ∈ [ordersOf sampleModule, ⟨lateModule, ⟨[], [], [], [], []⟩, []⟩], v.module ∉ oneSpec.params.contributors →
        matchingFacts oneSpec v = []) ∧
    (evaluateAggregate oneSpec [ordersOf sampleModule, ⟨lateModule, ⟨[], [], [], [], []⟩, []⟩] []).outcome ≠ .violated :=
  compareAggregateParams_sound.1 oneTerm bothTerm oneSpec bothSpec _ _ oneTerm_spec bothTerm_spec rfl (by decide)
    (by decide) (by decide) (by decide +kernel) (by decide +kernel)

end Sample

end Mandate.Control
