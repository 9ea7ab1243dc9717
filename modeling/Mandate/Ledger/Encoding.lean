import Mandate.Ledger.Errors
import Mandate.Lib.FixedPoint

/-! Ledger encoding helpers on Core's canonical encoding: tags, digests, embedded segments,
and exact base-10 rescaling. -/
namespace Mandate.Ledger
open Core Lib.Wire Lib.Scale

namespace LedgerTag

def REVOCATION : String := "mandate-core/v1/revocation"
def LEDGER_GENESIS : String := "mandate-core/v1/ledger-genesis"
def LEDGER_BATCH : String := "mandate-core/v1/ledger-batch"
def LEDGER_STATE : String := "mandate-core/v1/ledger-state"
def POLICY_DIMENSION : String := "mandate-core/v1/policy-dimension"
def ATTEMPT : String := "mandate-core/v1/attempt"
def RESERVATION : String := "mandate-core/v1/reservation"

end LedgerTag

def ledgerWriter (tag : String) : Writer := taggedWriter tag

def ledgerDigest [Keccak] (writer : Writer) : Digest32 := keccakDigest (writer.getD [])

def MAX_PLAN_CONTRIBUTIONS : Nat := 64
def MAX_BATCH_EVENTS : Nat := 256
def MAX_COMMIT_ATTEMPTS : Nat := 32
def readTimes {α : Type} (count : Nat) (read : CoreReader α) : CoreReader (List α) :=
  Reader.items (fun _ _ => true) CoreErrorCode.encodingMalformed read count none

def writeSegment (bytes : Bytes) : Writer := writeU32 bytes.length ++ Writer.raw bytes

theorem frames_times {α β : Type} {write : α → Writer} {read : CoreReader β} {v : α → β}
    {n : Nat} (items : List α) (each : ∀ item ∈ items, Frames (write item) read (v item) n) :
    Frames (Writer.each write items) (readTimes items.length read) (items.map v) (items.length * n) := by
  have frames : Frames (Writer.each write items) (readTimes items.length read) (items.map v)
      (items.map fun _ => n).sum :=
    Frames.items (fun _ => n) items each (List.pairwise_of_forall fun _ _ _ _ _ _ => rfl) none (by simp)
  rwa [List.map_const', List.sum_replicate_nat] at frames

/-- Exact base-10 rescale, or `none` when a non-zero digit would be dropped. -/
def rescaleExact (atoms : Int) (source target : Nat) : Option Int :=
  if source ≤ target then some (atoms * 10 ^ (target - source))
  else if atoms.tmod (10 ^ (source - target)) = 0 then some (atoms.tdiv (10 ^ (source - target)))
  else none

def compareScaled (a : Int) (aDecimals : Nat) (b : Int) (bDecimals : Nat) : Ordering :=
  compare (a * 10 ^ bDecimals) (b * 10 ^ aDecimals)

theorem rescaleExact_some {atoms result : Int} {source target : Nat} :
    rescaleExact atoms source target = some result ↔ (result : ℚ) = rescaled atoms source target := by
  rw [rescaled_eq_iff, rescaleExact]
  by_cases finer : source ≤ target
  · obtain ⟨gap, rfl⟩ := Nat.exists_eq_add_of_le finer
    have positive : (10 : Int) ^ source ≠ 0 := by positivity
    rw [if_pos finer, Nat.add_sub_cancel_left, pow_add]
    constructor
    · rintro ⟨rfl⟩
      ring
    · intro same
      have whole : atoms * 10 ^ gap * 10 ^ source = result * 10 ^ source := by rw [same]; ring
      exact congrArg some (mul_right_cancel₀ positive whole)
  · obtain ⟨gap, rfl⟩ := Nat.exists_eq_add_of_le (Nat.le_of_lt (Nat.lt_of_not_le finer))
    have positive : (10 : Int) ^ target ≠ 0 := by positivity
    have divisor : (10 : Int) ^ gap ≠ 0 := by positivity
    rw [if_neg finer, Nat.add_sub_cancel_left, pow_add]
    have cancel : result * (10 ^ target * 10 ^ gap) = atoms * 10 ^ target ↔ result * 10 ^ gap = atoms := by
      constructor
      · intro same
        refine mul_right_cancel₀ positive ?_
        rw [← same]
        ring
      · rintro rfl
        ring
    rw [cancel]
    by_cases whole : atoms.tmod (10 ^ gap) = 0
    · rw [if_pos whole, Option.some.injEq]
      have product := Int.mul_tdiv_add_tmod atoms (10 ^ gap)
      rw [whole, add_zero] at product
      constructor
      · rintro rfl
        rw [mul_comm]
        exact product
      · rintro rfl
        exact Int.mul_tdiv_cancel result divisor
    · rw [if_neg whole]
      refine ⟨nofun, ?_⟩
      rintro rfl
      exact absurd (Int.mul_tmod_left result (10 ^ gap)) whole

end Mandate.Ledger
