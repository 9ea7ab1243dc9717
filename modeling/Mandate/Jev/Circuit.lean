import Mathlib.Tactic.Linarith
import Mandate.Lib.Machine

/-! The advisory circuit, shared by any number of calls: a call is attempted, and once admitted it reports a
success or a failure. The circuit has one flag for its probe, and every report clears it. -/
namespace Mandate.Jev
open Lib.Machine List
open Option (some.inj)

structure CircuitPolicy where
  failureThreshold : Nat
  cooldownMs : ℚ
  positive : 1 ≤ failureThreshold
  waits : 0 ≤ cooldownMs

inductive CircuitState | closed | opened | halfOpen
deriving DecidableEq

structure AdvisoryCircuit where
  consecutiveFailures : Nat
  openedAtMs : Option ℚ
  probeInFlight : Bool

namespace AdvisoryCircuit

def fresh : AdvisoryCircuit := ⟨0, none, false⟩

def state (policy : CircuitPolicy) (c : AdvisoryCircuit) (nowMs : ℚ) : CircuitState :=
  match c.openedAtMs with
  | none => .closed
  | some openedAt => if policy.cooldownMs ≤ nowMs - openedAt then .halfOpen else .opened

def shouldAttempt (policy : CircuitPolicy) (c : AdvisoryCircuit) (nowMs : ℚ) : Bool × AdvisoryCircuit :=
  match c.state policy nowMs with
  | .closed => (true, c)
  | .opened => (false, c)
  | .halfOpen => if c.probeInFlight then (false, c) else (true, { c with probeInFlight := true })

def recordSuccess (_ : AdvisoryCircuit) : AdvisoryCircuit := ⟨0, none, false⟩

def recordFailure (policy : CircuitPolicy) (c : AdvisoryCircuit) (nowMs : ℚ) : AdvisoryCircuit where
  consecutiveFailures := c.consecutiveFailures + 1
  openedAtMs := if policy.failureThreshold ≤ c.consecutiveFailures + 1 then some nowMs else c.openedAtMs
  probeInFlight := false

end AdvisoryCircuit

structure Call where
  id : Nat
  probe : Bool
  /-- Another call has reported since this one was admitted. -/
  overtaken : Bool

structure Calls where
  circuit : AdvisoryCircuit
  outstanding : List Call
  admitted : Nat
  now : ℚ
  lastFailure : Option ℚ

def Calls.start (now : ℚ) : Calls := ⟨.fresh, [], 0, now, none⟩

inductive Turn | attempt | success (id : Nat) | failure (id : Nat)
deriving DecidableEq

structure Event where
  turn : Turn
  at_ : ℚ

def Calls.isOutstanding (s : Calls) (id : Nat) : Bool := s.outstanding.any (·.id == id)

def Calls.reported (s : Calls) (id : Nat) : List Call :=
  (s.outstanding.filter (·.id ≠ id)).map ({ · with overtaken := true })

def Calls.next (policy : CircuitPolicy) (s : Calls) (e : Event) : Option Calls :=
  if e.at_ < s.now then none
  else match e.turn with
    | .attempt =>
      let (admitted, circuit) := s.circuit.shouldAttempt policy e.at_
      if admitted then
        some { s with
          circuit, now := e.at_, admitted := s.admitted + 1
          outstanding := s.outstanding ++ [⟨s.admitted, s.circuit.state policy e.at_ = .halfOpen, false⟩] }
      else some { s with now := e.at_ }
    | .success id =>
      if s.isOutstanding id then
        some { s with circuit := s.circuit.recordSuccess, outstanding := s.reported id, now := e.at_ }
      else none
    | .failure id =>
      if s.isOutstanding id then
        some { s with
          circuit := s.circuit.recordFailure policy e.at_, outstanding := s.reported id
          now := e.at_, lastFailure := some e.at_ }
      else none

abbrev Calls.Step (policy : CircuitPolicy) (before : Calls) (e : Event) (after : Calls) : Prop :=
  before.next policy e = some after

def Calls.probes (s : Calls) : List Call := s.outstanding.filter (·.probe)

def AtMostOneProbe (policy : CircuitPolicy) (s : Calls) : Prop :=
  s.circuit.state policy s.now ≠ .closed → s.probes.length ≤ 1

instance (policy : CircuitPolicy) (s : Calls) : Decidable (AtMostOneProbe policy s) :=
  inferInstanceAs (Decidable (_ → _))

/-- When every admitted call has reported, an attempt that waited out the last failure is admitted. -/
def Recovers (policy : CircuitPolicy) (s : Calls) : Prop :=
  s.outstanding = [] → ∀ now, s.now ≤ now → (∀ failed ∈ s.lastFailure, policy.cooldownMs ≤ now - failed) →
    (s.circuit.shouldAttempt policy now).1 = true

/-- An attempt past the cooldown finds no probe outstanding that another call's report has overtaken. -/
def Undisturbed (policy : CircuitPolicy) (s : Calls) (e : Event) : Prop :=
  e.turn = .attempt → s.circuit.state policy e.at_ = .halfOpen → ∀ c ∈ s.probes, c.overtaken = false

instance (policy : CircuitPolicy) (s : Calls) (e : Event) : Decidable (Undisturbed policy s e) :=
  inferInstanceAs (Decidable (_ → _ → _))

section Steps
variable {policy : CircuitPolicy} {s after : Calls} {e : Event}

theorem state_closed {c : AdvisoryCircuit} {now : ℚ} : c.state policy now = .closed ↔ c.openedAtMs = none := by
  unfold AdvisoryCircuit.state
  cases c.openedAtMs with
  | none => simp
  | some openedAt =>
    simp only [reduceCtorEq, iff_false]
    split <;> nofun

inductive Did (policy : CircuitPolicy) (s : Calls) (e : Event) (after : Calls) : Prop
  | joined (attempt : e.turn = .attempt) (closed : s.circuit.openedAtMs = none) (is : after = { s with
      now := e.at_, admitted := s.admitted + 1, outstanding := s.outstanding ++ [⟨s.admitted, false, false⟩] })
  | probed (attempt : e.turn = .attempt) (halfOpen : s.circuit.state policy e.at_ = .halfOpen)
    (free : s.circuit.probeInFlight = false)
    (is : after = { s with
      circuit := { s.circuit with probeInFlight := true }, now := e.at_, admitted := s.admitted + 1
      outstanding := s.outstanding ++ [⟨s.admitted, true, false⟩] })
  | refused (attempt : e.turn = .attempt)
    (held : s.circuit.state policy e.at_ = .halfOpen → s.circuit.probeInFlight = true)
    (is : after = { s with now := e.at_ })
  | succeeded (id : Nat) (success : e.turn = .success id)
    (is : after = { s with circuit := s.circuit.recordSuccess, outstanding := s.reported id, now := e.at_ })
  | failed (id : Nat) (failure : e.turn = .failure id) (is : after = { s with
      circuit := s.circuit.recordFailure policy e.at_, outstanding := s.reported id
      now := e.at_, lastFailure := some e.at_ })

theorem step_did (taken : Calls.Step policy s e after) : s.now ≤ e.at_ ∧ Did policy s e after := by
  unfold Calls.Step Calls.next at taken
  split at taken
  · cases taken
  rename_i late
  refine ⟨not_lt.mp late, ?_⟩
  split at taken
  · rename_i attempt
    cases state : s.circuit.state policy e.at_ with
    | closed =>
      simp only [AdvisoryCircuit.shouldAttempt, state, if_true] at taken
      exact .joined attempt (state_closed.mp state) (some.inj taken).symm
    | opened =>
      simp only [AdvisoryCircuit.shouldAttempt, state] at taken
      exact .refused attempt (fun halfOpen => absurd (state.symm.trans halfOpen) nofun) (some.inj taken).symm
    | halfOpen =>
      cases flag : s.circuit.probeInFlight with
      | true =>
        simp only [AdvisoryCircuit.shouldAttempt, state, flag, if_true] at taken
        exact .refused attempt (fun _ => flag) (some.inj taken).symm
      | false =>
        simp only [AdvisoryCircuit.shouldAttempt, state, flag] at taken
        exact .probed attempt state flag (some.inj taken).symm
  · rename_i id success
    split at taken
    · exact .succeeded id success (some.inj taken).symm
    · cases taken
  · rename_i id failure
    split at taken
    · exact .failed id failure (some.inj taken).symm
    · cases taken

theorem probes_reported (s : Calls) (id : Nat) : ((s.reported id).filter (·.probe)).length ≤ s.probes.length := by
  rw [Calls.reported, filter_map, length_map, Calls.probes]
  exact (filter_sublist.filter _).length_le

theorem overtaken_reported {id : Nat} {c : Call} (listed : c ∈ s.reported id) : c.overtaken = true := by
  obtain ⟨_, _, rfl⟩ := mem_map.mp listed
  rfl

end Steps

section Recovery
variable {policy : CircuitPolicy} {s after : Calls} {e : Event}

/-- The flag is some outstanding call's, and the circuit was opened by a failure. -/
structure Accounted (s : Calls) : Prop where
  held : s.circuit.probeInFlight = true → s.outstanding ≠ []
  opened : ∀ t ∈ s.circuit.openedAtMs, ∃ f ∈ s.lastFailure, t ≤ f
  past : ∀ f ∈ s.lastFailure, f ≤ s.now

theorem accounted_start (now : ℚ) : Accounted (.start now) := ⟨nofun, nofun, nofun⟩

theorem accounted_step (accounted : Accounted s) (taken : Calls.Step policy s e after) : Accounted after := by
  obtain ⟨later, did⟩ := step_did taken
  have past : ∀ f ∈ s.lastFailure, f ≤ e.at_ := fun f failed => (accounted.past f failed).trans later
  cases did with
  | joined _ _ is | probed _ _ _ is =>
    subst is
    exact ⟨fun _ => by simp, accounted.opened, past⟩
  | refused _ _ is =>
    subst is
    exact ⟨accounted.held, accounted.opened, past⟩
  | succeeded _ _ is =>
    subst is
    exact ⟨nofun, nofun, past⟩
  | failed _ _ is =>
    subst is
    refine ⟨nofun, fun t opened => ⟨e.at_, rfl, ?_⟩, fun f failed => (some.inj failed).ge⟩
    dsimp only [AdvisoryCircuit.recordFailure] at opened
    split at opened
    · exact (some.inj opened).ge
    · obtain ⟨f, failed, before⟩ := accounted.opened t opened
      exact before.trans (past f failed)

theorem recovers_of_accounted (accounted : Accounted s) : Recovers policy s := by
  intro settled now _ waited
  have free : s.circuit.probeInFlight = false := Bool.eq_false_iff.mpr fun held => accounted.held held settled
  unfold AdvisoryCircuit.shouldAttempt AdvisoryCircuit.state
  cases opened : s.circuit.openedAtMs with
  | none => rfl
  | some t =>
    obtain ⟨f, failed, before⟩ := accounted.opened t opened
    have waited := waited f failed
    have past : policy.cooldownMs ≤ now - t := by linarith
    simp [past, free]

end Recovery

section Probes
variable {policy : CircuitPolicy} {s after : Calls} {e : Event}

/-- One probe at most, whose flag is set until another call reports. -/
structure Single (s : Calls) : Prop where
  one : s.probes.length ≤ 1
  flagged : ∀ c ∈ s.probes, c.overtaken = false → s.circuit.probeInFlight = true

theorem single_start (now : ℚ) : Single (.start now) := ⟨by simp [Calls.start, Calls.probes], nofun⟩

theorem single_reported {id : Nat} (single : Single s) (is : after.outstanding = s.reported id) : Single after where
  one := by
    rw [Calls.probes, is]
    exact (probes_reported s id).trans single.one
  flagged := by
    intro c listed fresh
    rw [Calls.probes, is] at listed
    rw [overtaken_reported (mem_filter.mp listed).1] at fresh
    cases fresh

theorem single_step (single : Single s) (undisturbed : Undisturbed policy s e) (taken : Calls.Step policy s e after) :
    Single after := by
  obtain ⟨_, did⟩ := step_did taken
  cases did with
  | joined _ _ is =>
    have same : after.probes = s.probes := by simp [is, Calls.probes]
    exact ⟨same ▸ single.one, fun c listed fresh => by
      rw [is]
      exact single.flagged c (same ▸ listed) fresh⟩
  | probed attempt halfOpen free is =>
    -- a probe no call has overtaken would hold the flag, and the attempt found none overtaken
    have none_out : s.probes = [] := by
      refine eq_nil_iff_forall_not_mem.mpr fun c listed => ?_
      have held := single.flagged c listed (undisturbed attempt halfOpen c listed)
      rw [free] at held
      cases held
    have only : after.probes = [⟨s.admitted, true, false⟩] := by
      rw [Calls.probes] at none_out
      simp [is, Calls.probes, none_out]
    exact ⟨by simp [only], fun _ _ _ => by rw [is]⟩
  | refused _ _ is =>
    subst is
    exact ⟨single.one, single.flagged⟩
  | succeeded id _ is | failed id _ is => exact single_reported single (by rw [is])

def Lost (s : Calls) : Prop := ∀ c ∈ s.probes, c.overtaken = true → s.circuit.probeInFlight = false

theorem probed_alone {policy : CircuitPolicy} (one : AtMostOneProbe policy after)
    (halfOpen : s.circuit.state policy e.at_ = .halfOpen) (is : after = { s with
      circuit := { s.circuit with probeInFlight := true }, now := e.at_, admitted := s.admitted + 1
      outstanding := s.outstanding ++ [⟨s.admitted, true, false⟩] }) : s.probes = [] := by
  have open_ : after.circuit.state policy after.now ≠ .closed := by
    intro closed
    rw [state_closed, is] at closed
    rw [state_closed.mpr (show s.circuit.openedAtMs = none from closed)] at halfOpen
    cases halfOpen
  have short := one open_
  have split : after.probes = s.probes ++ [⟨s.admitted, true, false⟩] := by simp [is, Calls.probes]
  rw [split, length_append] at short
  exact length_eq_zero_iff.mp (by simpa using short)

theorem lost_step (lost : Lost s) (one : AtMostOneProbe policy after) (taken : Calls.Step policy s e after) : Lost after := by
  obtain ⟨_, did⟩ := step_did taken
  cases did with
  | joined _ _ is =>
    have same : after.probes = s.probes := by simp [is, Calls.probes]
    intro c listed overtaken
    rw [is]
    exact lost c (same ▸ listed) overtaken
  | probed _ halfOpen _ is =>
    have alone := probed_alone one halfOpen is
    have only : after.probes = [⟨s.admitted, true, false⟩] := by
      rw [Calls.probes] at alone
      simp [is, Calls.probes, alone]
    intro c listed overtaken
    rw [only, mem_singleton] at listed
    rw [listed] at overtaken
    cases overtaken
  | refused _ _ is =>
    subst is
    exact lost
  | succeeded _ _ is =>
    intro _ _ _
    rw [is]
    rfl
  | failed _ _ is =>
    intro _ _ _
    rw [is]
    rfl

theorem undisturbed_of_one (lost : Lost s) (one : AtMostOneProbe policy after) (taken : Calls.Step policy s e after) :
    Undisturbed policy s e := by
  intro attempt halfOpen c listed
  by_contra disturbed
  have free := lost c listed (Bool.not_eq_false _ ▸ disturbed)
  obtain ⟨_, did⟩ := step_did taken
  cases did with
  | joined _ closed _ =>
    rw [state_closed.mpr closed] at halfOpen
    cases halfOpen
  | probed _ halfOpen _ is =>
    rw [probed_alone one halfOpen is] at listed
    cases listed
  | refused _ held _ =>
    rw [held halfOpen] at free
    cases free
  | succeeded _ success _ => cases attempt.symm.trans success
  | failed _ failure _ => cases attempt.symm.trans failure

end Probes

section Runs
variable {policy : CircuitPolicy} {start : ℚ} {log : List (Calls × Event)} {finish : Calls}

def visited (log : List (Calls × Event)) (finish : Calls) : List Calls := log.map Prod.fst ++ [finish]

theorem accounted_run (trace : Trace (Calls.Step policy) (.start start) log finish) :
    ∀ s ∈ visited log finish, Accounted s := by
  refine trace.history (fun log s => ∀ s' ∈ visited log s, Accounted s') ?_ ?_
  · intro s listed
    obtain rfl := mem_singleton.mp listed
    exact accounted_start start
  · intro log before label after _ all taken s listed
    simp only [visited, map_append, map_cons, map_nil, mem_append, mem_singleton] at listed
    rcases listed with (earlier | rfl) | rfl
    · exact all s (mem_append_left _ earlier)
    · exact all s (mem_append_right _ (mem_singleton.mpr rfl))
    · exact accounted_step (all before (mem_append_right _ (mem_singleton.mpr rfl))) taken

/-- In every run, the circuit admits one probe at a time and recovers just when no attempt past the cooldown is
made while a probe is outstanding that another call's report has overtaken. -/
theorem circuit_sound (policy : CircuitPolicy) (start : ℚ) {log : List (Calls × Event)} {finish : Calls}
    (trace : Trace (Calls.Step policy) (.start start) log finish) :
    (∀ s ∈ visited log finish, AtMostOneProbe policy s ∧ Recovers policy s) ↔
      ∀ entry ∈ log, Undisturbed policy entry.1 entry.2 := by
  constructor
  · intro all
    have runs := trace.history (fun log s => (∀ s' ∈ visited log s, AtMostOneProbe policy s') →
      Lost s ∧ ∀ entry ∈ log, Undisturbed policy entry.1 entry.2) (fun _ => ⟨nofun, nofun⟩) ?_
    · exact (runs fun s listed => (all s listed).1).2
    · intro log before label after _ ih taken one
      have earlier : ∀ s' ∈ visited log before, AtMostOneProbe policy s' := by
        intro s' listed
        refine one s' ?_
        simp only [visited, map_append, map_cons, map_nil]
        exact mem_append_left _ listed
      have last : AtMostOneProbe policy after := one after (mem_append_right _ (mem_singleton.mpr rfl))
      obtain ⟨lost, undisturbed⟩ := ih earlier
      refine ⟨lost_step lost last taken, fun entry listed => ?_⟩
      rcases mem_append.mp listed with before | here
      · exact undisturbed entry before
      · rw [mem_singleton.mp here]
        exact undisturbed_of_one lost last taken
  · intro undisturbed s listed
    refine ⟨fun _ => ?_, recovers_of_accounted (accounted_run trace s listed)⟩
    have singles := trace.history (fun log s => (∀ entry ∈ log, Undisturbed policy entry.1 entry.2) →
      ∀ s' ∈ visited log s, Single s') ?_ ?_
    · exact (singles undisturbed s listed).one
    · intro _ s' listed
      rw [mem_singleton.mp listed]
      exact single_start start
    · intro log before label after _ ih taken undisturbed s' listed
      have earlier := ih fun entry listed => undisturbed entry (mem_append_left _ listed)
      have here : Single before := earlier before (mem_append_right _ (mem_singleton.mpr rfl))
      simp only [visited, map_append, map_cons, map_nil] at listed
      rcases mem_append.mp listed with listed | last
      · exact earlier s' listed
      · rw [mem_singleton.mp last]
        exact single_step here (undisturbed _ (mem_append_right _ (mem_singleton.mpr rfl))) taken

def samplePolicy : CircuitPolicy := ⟨1, 10, by decide, by decide⟩

/-- Two calls go out before the circuit opens; the second fails after the first probe has gone out. -/
def twoProbes : List Event :=
  [⟨.attempt, 0⟩, ⟨.attempt, 0⟩, ⟨.failure 0, 0⟩, ⟨.attempt, 10⟩, ⟨.failure 1, 10⟩, ⟨.attempt, 20⟩]

/-- A run that admits its second probe while the first is outstanding. -/
theorem two_probes_out : ∃ log finish, Trace (Calls.Step samplePolicy) (.start 0) log finish ∧
    log.map Prod.snd = twoProbes ∧ ¬ AtMostOneProbe samplePolicy finish := by
  have played : (replay (Calls.next samplePolicy) (.start 0) twoProbes).isSome = true := by decide +kernel
  obtain ⟨⟨log, finish⟩, played⟩ := Option.isSome_iff_exists.mp played
  have two : (replay (Calls.next samplePolicy) (.start 0) twoProbes).all
      (fun run => ¬ AtMostOneProbe samplePolicy run.2) = true := by decide +kernel
  rw [played] at two
  exact ⟨log, finish, replay_trace played, replay_labels played, of_decide_eq_true two⟩

/-- The same calls, had the second reported before the probe went out. -/
def oneProbe : List Event := [⟨.attempt, 0⟩, ⟨.attempt, 0⟩, ⟨.failure 0, 0⟩, ⟨.failure 1, 5⟩, ⟨.attempt, 20⟩]

theorem one_probe_out : ∃ log finish, Trace (Calls.Step samplePolicy) (.start 0) log finish ∧
    log.map Prod.snd = oneProbe ∧ ∀ s ∈ visited log finish, AtMostOneProbe samplePolicy s ∧ Recovers samplePolicy s := by
  have played : (replay (Calls.next samplePolicy) (.start 0) oneProbe).isSome = true := by decide +kernel
  obtain ⟨⟨log, finish⟩, played⟩ := Option.isSome_iff_exists.mp played
  have calm : (replay (Calls.next samplePolicy) (.start 0) oneProbe).all
      (fun run => ∀ entry ∈ run.1, Undisturbed samplePolicy entry.1 entry.2) = true := by decide +kernel
  rw [played] at calm
  exact ⟨log, finish, replay_trace played, replay_labels played,
    (circuit_sound samplePolicy 0 (replay_trace played)).mpr (of_decide_eq_true calm)⟩

end Runs

end Mandate.Jev
