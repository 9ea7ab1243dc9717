import Mandate.Lib.Machine
import Mandate.Ledger.Reducer

/-! Runs of the ledger: batch by batch as they are committed, and event by event as the
reducer folds them; every state of a committed run is one the events reach. -/
namespace Mandate.Ledger
open Core Lib.Wire Lib.Machine

structure CommittedBatch where
  version : Nat
  previousHead : LedgerHeadDigest
  head : LedgerHeadDigest
  events : List LedgerEvent
  encoded : Bytes

def committedBatch (before : LedgerState) (events : List LedgerEvent) (applied : AppliedBatch) :
    CommittedBatch :=
  ⟨applied.state.version, before.head, applied.state.head, events, applied.encoded⟩

/-- Batches accepted in sequence from the empty state of a principal. -/
inductive Run [Keccak] (rules : ReducerRules) (principal : PrincipalId) :
    List CommittedBatch → LedgerState → Prop
  | genesis : Run rules principal [] (emptyLedgerState principal)
  | batch {history : List CommittedBatch} {s : LedgerState} {events : List LedgerEvent}
      {applied : AppliedBatch} (run : Run rules principal history s)
      (accepted : applyBatch s events rules = .ok applied) :
      Run rules principal (history ++ [committedBatch s events applied]) applied.state

inductive Step [Keccak] (rules : ReducerRules) : LedgerState → Option LedgerEvent → LedgerState → Prop
  | event {s next : LedgerState} {e : LedgerEvent}
      (accepted : applyEvent s e (s.version + 1) rules = .ok next) : Step rules s (some e) next
  | sealed {s : LedgerState} (head : LedgerHeadDigest) :
      Step rules s none { s with version := s.version + 1, head := head }

/-- The states a ledger of `principal` passes through, between any two events. -/
def Reachable [Keccak] (rules : ReducerRules) (principal : PrincipalId) (s : LedgerState) : Prop :=
  Reaches (Step rules) (emptyLedgerState principal) s

variable [Keccak] {rules : ReducerRules}

theorem applyEvent_ok {s next : LedgerState} {e : LedgerEvent} {version : Nat}
    (ok : applyEvent s e version rules = .ok next) : (∀ last, s.lastAt = some last → last ≤ e.time) ∧
      ∃ moved, dispatchEvent s version rules e = .ok moved ∧ next = { moved with lastAt := some e.time } := by
  simp only [applyEvent, ite_refuse_ok] at ok
  obtain ⟨onward, rest⟩ := ok
  obtain ⟨moved, dispatched, built⟩ := except_bind_success rest
  refine ⟨fun last known => ?_, moved, dispatched, (Except.ok.inj built).symm⟩
  simpa [known] using onward

end Mandate.Ledger
