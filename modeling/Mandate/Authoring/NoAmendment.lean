import Mandate.Authoring.Evidence
import Mandate.Authoring.Passes

/-! What is reserved under one version is not counted again under another: while the ledger holds a
reservation of the session, and every pass that reserved has said so, no version is committed. -/
set_option linter.dupNamespace false
namespace Mandate.Authoring
open Core Lib.Machine List
open Kernel (Secp256k1)
open Option (some.inj map_eq_some_iff)

section Calm
variable {Draft : Type} {sys after : VersionsSystem Draft}

/-- No step but a pass's moves its flags, and a commit begins only where they let it. -/
structure Calm (sys after : VersionsSystem Draft) : Prop where
  reserved : after.versions.reserved = sys.versions.reserved
  reserving : after.versions.reserving = sys.versions.reserving
  begun : ∀ {call c}, committing (after.calls call) = some c →
    committing (sys.calls call) = some c ∨ sys.versions.Free
  grows : sys.versions.entries.length ≤ after.versions.entries.length
  still : (∀ call, committing (sys.calls call) = none) →
    after.versions.entries.length = sys.versions.entries.length

theorem Progress.length {b : MandateVersions.Commit Draft → Prop} (progress : Progress b sys after) :
    sys.versions.entries.length ≤ after.versions.entries.length ∧
    ((∀ call, committing (sys.calls call) = none) →
      after.versions.entries.length = sys.versions.entries.length) := by
  have grows : sys.versions.entries.length ≤ after.versions.entries.length := by
    rcases Nat.eq_zero_or_pos sys.versions.entries.length with zero | positive
    · omega
    · have at_ := getElem?_eq_getElem (i := sys.versions.entries.length - 1) (l := sys.versions.entries) (by omega)
      obtain ⟨entry, there, _⟩ := progress.kept at_
      have := (List.getElem?_eq_some_iff.mp there).1
      omega
  refine ⟨grows, fun none_ => Nat.le_antisymm ?_ grows⟩
  by_contra more
  have within : sys.versions.entries.length < after.versions.entries.length := by omega
  rcases progress.entries (getElem?_eq_getElem within) with ⟨was, before, _⟩ | ⟨_, call, c, commits, _⟩
  · have := (List.getElem?_eq_some_iff.mp before).1
    omega
  · rw [none_ call] at commits
    cases commits

theorem Calm.refl (sys : VersionsSystem Draft) : Calm sys sys := ⟨rfl, rfl, .inl, Nat.le_refl _, fun _ => rfl⟩

theorem Calm.of_step {label : VersionsLabel Draft} (taken : Stepped sys label after) (own : ¬label.passes) :
    Calm sys after := by
  have progress := Progress.of_step taken
  obtain ⟨grows, still⟩ := progress.length
  have flags : after.versions.reserved = sys.versions.reserved ∧ after.versions.reserving = sys.versions.reserving := by
    cases taken with
    | @completes call c revokedAt ledgerVersion =>
      unfold MandateVersions.registered
      cases c.previous <;> exact ⟨rfl, rfl⟩
    | @fails call c revokedAt =>
      unfold MandateVersions.registerRefused
      cases c.previous <;> exact ⟨rfl, rfl⟩
    | flags passes => exact absurd passes own
    | _ => exact ⟨rfl, rfl⟩
  refine ⟨flags.1, flags.2, ?_, grows, still⟩
  intro call c commits
  rcases progress.begun commits with before | ⟨_, _, free⟩
  · exact .inl before
  · exact .inr free

variable [Keccak] [Secp256k1] {e : SessionEnv Draft} {s next : LiveSession Draft} {label : SessionLabel Draft}

theorem session_calm (taken : LiveSession.Steps e s label next) (own : label.own = true) : Calm s.core next.core := by
  cases taken.stepped with
  | same => exact .refl _
  | issues => exact .refl _
  | @submits call draft id signature wallNow protocolNow idle =>
    obtain ⟨_, quiet, stepped⟩ := authorizeWithWallet_stepped (e := e) idle draft id signature wallNow protocolNow
    exact .of_step stepped quiet
  | @versions label core _ moved =>
    refine .of_step moved ?_
    cases label with
    | beginReservation | endReservation | markReserved => cases own
    | _ => exact not_false

theorem session_sound (taken : LiveSession.Steps e s label next) (sound : Sound s.core) : Sound next.core := by
  cases taken.stepped with
  | same => exact sound
  | issues => exact sound
  | @submits call draft id signature wallNow protocolNow idle =>
    obtain ⟨_, _, stepped⟩ := authorizeWithWallet_stepped (e := e) idle draft id signature wallNow protocolNow
    exact sound.stepped stepped
  | versions _ moved => exact sound.stepped moved

end Calm

section Ban
variable {Draft : Type} {s after : ReservingSession Draft}

def Pass.Took (p : Pass) : Prop := ∃ digest, (digest, true) ∈ p.reservations

/-- The pass reports a reservation: on the reverifying path, one that requests some notional. -/
def Pass.Shows (p : Pass) : Prop :=
  ∃ item ∈ p.items, p.reservedOf item = true ∧ (p.path = .reverify → 0 < item.notional)

theorem Pass.reservedAny_iff (p : Pass) : p.reservedAny = true ↔ p.Shows := by
  unfold Pass.reservedAny Pass.Shows Pass.reserved Pass.outcomes
  cases path : p.path with
  | reverify =>
    simp only [decide_eq_true_eq, map_map, forall_const]
    rw [Nat.pos_iff_ne_zero, Ne, sum_eq_zero_iff]
    simp [Nat.pos_iff_ne_zero]
  | submitOne => simp

/-- No throw comes between a reservation and the flag, and a pass that reserved reports it. -/
def Counted (s : ReservingSession Draft) : ReservingLabel Draft → Prop
  | .reserve (.threw took) => took = false ∧ ∀ p, s.pass = some p → ¬p.Took
  | .finish threw => ∀ p, s.pass = some p → p.Took → threw = false ∧ p.Shows
  | _ => True

def quietCalls (s : ReservingSession Draft) : Prop := ∀ call, committing (s.session.core.calls call) = none

/-- While a pass runs or after something was reserved, no commit is on its way. -/
structure Ban (s : ReservingSession Draft) : Prop where
  sound : Sound s.session.core
  holding : ∀ {p}, s.pass = some p → s.session.core.versions.reserving = true
  free : s.pass = none → s.session.core.versions.reserving = false
  quiet : s.pass.isSome = true ∨ s.session.core.versions.reserved = true → quietCalls s
  within : s.pass.isSome = true ∨ s.session.core.versions.reserved = true → 0 < s.session.core.versions.entries.length
  known : s.reserves ≠ [] → s.session.core.versions.reserved = true ∨ ∃ p, s.pass = some p ∧ p.Took

theorem Ban.ends (ban : Ban s) {p : Pass} (here : s.pass = some p) {reserved : Bool} {reserves : List (Nat × Digest32)}
    (known : reserves ≠ [] → s.session.core.versions.reserved = true ∨ reserved = true) :
    Ban ({ s with reserves }.endPass reserved) := by
  have quiet := ban.quiet (.inl (by rw [here]; rfl))
  have within := ban.within (.inl (by rw [here]; rfl))
  have flag : ({ s with reserves }.endPass reserved).session.core.versions.reserved =
      (reserved || s.session.core.versions.reserved) := by
    cases reserved <;> rfl
  have sound : Sound ({ s with reserves }.endPass reserved).session.core := by
    cases reserved <;> exact ban.sound.flags rfl rfl rfl
  refine ⟨sound, nofun, ?_, fun _ => quiet, ?_, ?_⟩
  · intro _
    cases reserved <;> rfl
  · intro _
    cases reserved <;> exact within
  · intro holds
    rw [flag]
    rcases known holds with flagged | now
    · rw [flagged, Bool.or_true]
      exact .inl rfl
    · rw [now, Bool.true_or]
      exact .inl rfl

theorem Ban.begins (ban : Ban s) {path : PassPath} {version : Nat} {items : List PassItem}
    (taken : s.beginPass path version items = some after) : Ban after := by
  unfold ReservingSession.beginPass at taken
  split at taken
  · cases taken
  next known =>
    unfold MandateVersions.beginReservation at taken
    split at taken
    next busy =>
      obtain rfl := some.inj taken
      exact ban
    next versions begun =>
      obtain rfl := some.inj taken
      split at begun
      · cases begun
      next free =>
        obtain rfl := (Prod.mk.inj begun).2
        have unbusy : s.session.core.versions.busy ≠ true := fun busy => free (.inl busy)
        have quiet : quietCalls s := by
          intro call
          cases stage : committing (s.session.core.calls call) with
          | none => rfl
          | some c => exact absurd (ban.sound.busy stage) unbusy
        refine ⟨ban.sound.flags rfl rfl rfl, fun _ => rfl, nofun, fun _ => quiet, fun _ => ?_, ?_⟩
        · show 0 < s.session.core.versions.entries.length
          omega
        · intro holds
          rcases ban.known holds with flagged | ⟨p, here, _⟩
          · exact .inl flagged
          · exact absurd (.inr (ban.holding here)) free

theorem Ban.goes (ban : Ban s) {p q : Pass} (here : s.pass = some p) {reserves : List (Nat × Digest32)}
    (keeps : p.Took → q.Took) (known : reserves ≠ s.reserves → q.Took) :
    Ban { s with pass := some q, reserves } := by
  refine ⟨ban.sound, fun _ => ban.holding here, nofun, fun _ => ban.quiet (.inl (by rw [here]; rfl)),
    fun _ => ban.within (.inl (by rw [here]; rfl)), ?_⟩
  intro holds
  by_cases same : reserves = s.reserves
  · rcases ban.known (same ▸ holds) with flagged | ⟨_, there, took⟩
    · exact .inl flagged
    · obtain rfl := some.inj (here.symm.trans there)
      exact .inr ⟨q, rfl, keeps took⟩
  · exact .inr ⟨q, rfl, known same⟩

theorem Ban.verifies (ban : Ban s) {children : List PassChild} (taken : s.verified children = some after) :
    Ban after := by
  unfold ReservingSession.verified at taken
  split at taken
  next p here =>
    split at taken
    · obtain rfl := some.inj taken
      exact ban.goes here (fun took => took) fun other => absurd rfl other
    · cases taken
  next => cases taken

theorem Ban.reserves_ (ban : Ban s) {answer : ReserveAnswer} (taken : s.reserve answer = some after)
    (counted : ∀ took, answer = .threw took → took = false ∧ ∀ p, s.pass = some p → ¬p.Took) : Ban after := by
  have more {p : Pass} {entry : Digest32 × Bool} {stage : PassStage} (took : p.Took) :
      Pass.Took { p with reservations := p.reservations ++ [entry], stage } := by
    obtain ⟨digest, member⟩ := took
    exact ⟨digest, mem_append_left _ member⟩
  unfold ReservingSession.reserve at taken
  split at taken
  next p here =>
    split at taken
    next child todo stage =>
      cases answer with
      | reserved =>
        obtain rfl := some.inj taken
        exact ban.goes here more fun _ =>
          ⟨child.digest, mem_append_right _ (mem_singleton.mpr rfl)⟩
      | refused =>
        obtain rfl := some.inj taken
        exact ban.goes here more fun other => absurd rfl other
      | threw took =>
        obtain rfl := some.inj taken
        obtain ⟨rfl, nothing⟩ := counted took rfl
        refine ban.ends here fun holds => ?_
        rcases ban.known holds with flagged | ⟨q, there, reserved⟩
        · exact .inl flagged
        · exact absurd reserved (nothing q there)
    next => cases taken
  next => cases taken

theorem Ban.finishes (ban : Ban s) {threw : Bool} (taken : s.finish threw = some after)
    (counted : ∀ p, s.pass = some p → p.Took → threw = false ∧ p.Shows) : Ban after := by
  have known {reserved : Bool} {p : Pass} (here : s.pass = some p) (tells : threw = false → p.Shows → reserved = true)
      (holds : s.reserves ≠ []) : s.session.core.versions.reserved = true ∨ reserved = true := by
    rcases ban.known holds with flagged | ⟨q, there, took⟩
    · exact .inl flagged
    · obtain rfl := some.inj (here.symm.trans there)
      obtain ⟨returned, shows_⟩ := counted p here took
      exact .inr (tells returned shows_)
  unfold ReservingSession.finish at taken
  split at taken
  next p here =>
    split at taken
    next verifying =>
      split at taken
      next thrown =>
        obtain rfl := some.inj taken
        refine ban.ends here (known here fun returned => ?_)
        rw [thrown] at returned
        cases returned
      next => cases taken
    next done =>
      obtain rfl := some.inj taken
      refine ban.ends here (known here fun returned shows_ => ?_)
      rw [returned, if_neg Bool.false_ne_true]
      exact p.reservedAny_iff.mpr shows_
    next => cases taken
  next => cases taken

variable [Keccak] [Secp256k1] {e : SessionEnv Draft} {label : ReservingLabel Draft}

theorem Ban.step (ban : Ban s) (taken : ReservingSession.Steps e s label after) (counted : Counted s label) :
    Ban after := by
  unfold ReservingSession.Steps ReservingSession.step at taken
  cases label with
  | session label =>
    dsimp only at taken
    split at taken
    next own =>
      obtain ⟨next, stepped, rfl⟩ := map_eq_some_iff.mp taken
      have calm := session_calm stepped own
      refine ⟨session_sound stepped ban.sound, ?_, ?_, ?_, ?_, ?_⟩
      · intro p here
        exact calm.reserving.trans (ban.holding here)
      · intro here
        exact calm.reserving.trans (ban.free here)
      · intro holds call
        have holds : s.pass.isSome = true ∨ s.session.core.versions.reserved = true := by
          rcases holds with running | flagged
          · exact .inl running
          · exact .inr (calm.reserved.symm.trans flagged)
        cases commits : committing (next.core.calls call) with
        | none => rfl
        | some c =>
          rcases calm.begun commits with before | ⟨still, amendable⟩
          · rw [ban.quiet holds call] at before
            cases before
          · rcases holds with running | flagged
            · obtain ⟨p, here⟩ := Option.isSome_iff_exists.mp running
              rw [ban.holding here] at still
              cases still
            · rw [amendable (ban.within (.inr flagged))] at flagged
              cases flagged
      · intro holds
        refine Nat.lt_of_lt_of_le (ban.within ?_) calm.grows
        rcases holds with running | flagged
        · exact .inl running
        · exact .inr (calm.reserved.symm.trans flagged)
      · intro holds
        rw [calm.reserved]
        exact ban.known holds
    next => cases taken
  | beginPass path version items => exact ban.begins taken
  | verified children => exact ban.verifies taken
  | reserve answer =>
    refine ban.reserves_ taken fun took is => ?_
    subst is
    exact counted
  | finish threw => exact ban.finishes taken counted

omit [Keccak] [Secp256k1] in
theorem Ban.reserved_quiet (ban : Ban s) (holds : s.reserves ≠ []) : quietCalls s := by
  rcases ban.known holds with flagged | ⟨p, here, _⟩
  · exact ban.quiet (.inr flagged)
  · exact ban.quiet (.inl (by rw [here]; rfl))

theorem step_keeps (taken : ReservingSession.Steps e s label after) :
    (s.reserves ≠ [] → after.reserves ≠ []) ∧ (quietCalls s →
      after.session.core.versions.entries.length = s.session.core.versions.entries.length) := by
  have ends (t : ReservingSession Draft) (reserved : Bool) :
      (t.endPass reserved).session.core.versions.entries = t.session.core.versions.entries := by
    cases reserved <;> rfl
  unfold ReservingSession.Steps ReservingSession.step at taken
  cases label with
  | session label =>
    dsimp only at taken
    split at taken
    next own =>
      obtain ⟨next, stepped, rfl⟩ := map_eq_some_iff.mp taken
      exact ⟨id, (session_calm stepped own).still⟩
    next => cases taken
  | beginPass path version items =>
    dsimp only at taken
    unfold ReservingSession.beginPass MandateVersions.beginReservation at taken
    split at taken
    · cases taken
    · split at taken
      · obtain rfl := some.inj taken
        exact ⟨id, fun _ => rfl⟩
      next versions begun =>
        obtain rfl := some.inj taken
        split at begun
        · cases begun
        · obtain rfl := (Prod.mk.inj begun).2
          exact ⟨id, fun _ => rfl⟩
  | verified children =>
    dsimp only at taken
    unfold ReservingSession.verified at taken
    split at taken
    · split at taken
      · obtain rfl := some.inj taken
        exact ⟨id, fun _ => rfl⟩
      · cases taken
    · cases taken
  | reserve answer =>
    dsimp only at taken
    unfold ReservingSession.reserve at taken
    split at taken
    · split at taken
      · cases answer with
        | reserved =>
          obtain rfl := some.inj taken
          exact ⟨fun _ => append_ne_nil_of_right_ne_nil _ (cons_ne_nil _ _), fun _ => rfl⟩
        | refused =>
          obtain rfl := some.inj taken
          exact ⟨id, fun _ => rfl⟩
        | threw took =>
          obtain rfl := some.inj taken
          cases took with
          | false => exact ⟨id, fun _ => rfl⟩
          | true => exact ⟨fun _ => append_ne_nil_of_right_ne_nil _ (cons_ne_nil _ _), fun _ => rfl⟩
      · cases taken
    · cases taken
  | finish threw =>
    dsimp only at taken
    unfold ReservingSession.finish at taken
    split at taken
    · split at taken
      · split at taken
        · obtain rfl := some.inj taken
          exact ⟨id, fun _ => congrArg List.length (ends s _)⟩
        · cases taken
      · obtain rfl := some.inj taken
        exact ⟨id, fun _ => congrArg List.length (ends s _)⟩
      · cases taken
    · cases taken

/-- Once a version's ledger holds a reservation of the session, nothing is committed any more. -/
structure NoAmendment (log : List (ReservingSession Draft × ReservingLabel Draft)) (s : ReservingSession Draft) :
    Prop where
  quiet : s.reserves ≠ [] → ∀ call, committing (s.session.core.calls call) = none
  frozen : ∀ {was label}, (was, label) ∈ log → was.reserves ≠ [] → s.reserves ≠ [] ∧
    s.session.core.versions.entries.length = was.session.core.versions.entries.length

omit [Keccak] [Secp256k1] in
theorem ban_new : Ban (ReservingSession.new : ReservingSession Draft) := by
  refine ⟨sound_new, nofun, fun _ => rfl, ?_, ?_, fun holds => absurd rfl holds⟩
  · rintro (running | flagged)
    · cases running
    · cases flagged
  · rintro (running | flagged)
    · cases running
    · cases flagged

theorem no_amendment {log : List (ReservingSession Draft × ReservingLabel Draft)}
    (trace : Trace (ReservingSession.Steps e) .new log s) (counted : ∀ step ∈ log, Counted step.1 step.2) :
    NoAmendment log s := by
  have kept : (∀ step ∈ log, Counted step.1 step.2) → Ban s ∧ ∀ {was label}, (was, label) ∈ log →
      was.reserves ≠ [] → s.reserves ≠ [] ∧
        s.session.core.versions.entries.length = was.session.core.versions.entries.length := by
    refine trace.history (fun log s => (∀ step ∈ log, Counted step.1 step.2) → Ban s ∧ ∀ {was label},
      (was, label) ∈ log → was.reserves ≠ [] → s.reserves ≠ [] ∧
        s.session.core.versions.entries.length = was.session.core.versions.entries.length) ?_ ?_
    · exact fun _ => ⟨ban_new, fun member => absurd member not_mem_nil⟩
    · intro log s label after _ ih taken counted
      obtain ⟨ban, frozen⟩ := ih fun step member => counted step (mem_append_left _ member)
      have last := counted (s, label) (mem_append_right _ (mem_singleton.mpr rfl))
      obtain ⟨grows, still⟩ := step_keeps taken
      refine ⟨ban.step taken last, fun {was at_} member holds => ?_⟩
      rcases mem_append.mp member with before | now
      · obtain ⟨reserved, length⟩ := frozen before holds
        exact ⟨grows reserved, (still (ban.reserved_quiet reserved)).trans length⟩
      · obtain ⟨rfl, rfl⟩ := Prod.mk.inj (mem_singleton.mp now)
        exact ⟨grows holds, still (ban.reserved_quiet holds)⟩
  obtain ⟨ban, frozen⟩ := kept counted
  exact ⟨ban.reserved_quiet, frozen⟩

end Ban

section Sample

def sampleStep (s : ReservingSession String) (label : ReservingLabel String) : Option (ReservingSession String) :=
  @ReservingSession.step _ platformKeccak walletCurve sampleSession s label

/-- The first version is authorized, and a pass under it has one proposal reserved. -/
def reserving : List (ReservingLabel String) :=
  [.session (.versions (.authorize 0 "draft" (some (sampleMandate 1 101)) "AUTHORIZE MANDATE V1" 5)),
   .session (.versions (.ledger 0 (.ok 1))), .session (.versions (.ledger 0 (.ok 2))), .session (.versions (.resume 0)),
   .beginPass .reverify 1 [⟨.swap, 7, [("portfolio-notional", 100)]⟩], .verified [⟨9, 7⟩], .reserve .reserved]

def amendingSample : List (ReservingLabel String) :=
  [.session (.versions (.authorize 1 "draft" (some (sampleMandate 2 201)) "AUTHORIZE MANDATE V2" 6)),
   .session (.versions (.ledger 1 (.ok 4))), .session (.versions (.resume 1)), .session (.versions (.ledger 1 (.ok 5))),
   .session (.versions (.ledger 1 (.ok 6))), .session (.versions (.resume 1))]

/-- A pass that throws after its reservation is committed leaves the session free to amend. -/
theorem amended_after_reservation : ¬∀ (e : SessionEnv String)
    (log : List (ReservingSession String × ReservingLabel String)) (s : ReservingSession String),
    @Trace _ _ (@ReservingSession.Steps _ platformKeccak walletCurve e) .new log s → NoAmendment log s := by
  intro claimed
  obtain ⟨log, s, replayed, ⟨was, label, at_, holds, one⟩, two⟩ : ∃ log s,
      replay sampleStep .new (reserving ++ [.finish true] ++ amendingSample) = some (log, s) ∧
      (∃ was label, log[7]? = some (was, label) ∧ was.reserves = [(1, 9)] ∧
        was.session.core.versions.entries.length = 1) ∧ s.session.core.versions.entries.length = 2 :=
    ⟨_, _, rfl, ⟨_, _, rfl, rfl, rfl⟩, rfl⟩
  have frozen := ((claimed sampleSession log s (replay_trace replayed)).frozen (mem_of_getElem? at_)
    (by rw [holds]; exact cons_ne_nil _ _)).2
  rw [one, two] at frozen
  cases frozen

/-- The pass returns and says what it reserved: the same amendment is refused. -/
theorem no_amendment_reported : ∃ log, ∃ s : ReservingSession String,
    @Trace _ _ (@ReservingSession.Steps _ platformKeccak walletCurve sampleSession) .new log s ∧ s.reserves = [(1, 9)] ∧
    s.session.core.calls 1 = .returned (.error .amendmentAfterReservation) ∧ NoAmendment log s := by
  obtain ⟨first, s, replayed, p, here, shown, after, finished, second, last, refused, holds, returned⟩ : ∃ first s,
      replay sampleStep .new reserving = some (first, s) ∧ ∃ p, s.pass = some p ∧ p.reservedAny = true ∧
      ∃ after, sampleStep s (.finish false) = some after ∧ ∃ second last, replay sampleStep after [amendingSample.headD (.finish true)] =
        some (second, last) ∧ last.reserves = [(1, 9)] ∧
        last.session.core.calls 1 = .returned (.error .amendmentAfterReservation) :=
    ⟨_, _, rfl, _, rfl, rfl, _, rfl, _, _, rfl, rfl, rfl⟩
  have trace := ((replay_trace replayed).snoc finished).append (replay_trace refused)
  refine ⟨_, last, trace, holds, returned, @no_amendment _ _ platformKeccak walletCurve sampleSession _ trace ?_⟩
  intro step member
  rcases mem_append.mp member with before | now
  · rcases mem_append.mp before with early | finishing
    · have label : step.2 ∈ reserving := by
        rw [← replay_labels replayed]
        exact mem_map_of_mem early
      simp only [reserving, mem_cons, not_mem_nil, or_false] at label
      rcases label with label | label | label | label | label | label | label <;> unfold Counted <;> rw [label] <;> trivial
    · obtain rfl := mem_singleton.mp finishing
      intro q there took
      obtain rfl := some.inj (here.symm.trans there)
      exact ⟨rfl, p.reservedAny_iff.mp shown⟩
  · have label : step.2 ∈ [amendingSample.headD (.finish true)] := by
      rw [← replay_labels refused]
      exact mem_map_of_mem now
    unfold Counted
    rw [mem_singleton.mp label]
    trivial

end Sample

end Mandate.Authoring
