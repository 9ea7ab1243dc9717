import Mandate.Authoring.Wallet
import Mandate.Authoring.OneLive

/-! What a wallet's signature leads to: one version at most, the one its challenge was issued for, and,
as long as no approval replaces another's evidence, an approval that verifies at every later moment. -/
namespace Mandate.Authoring
open Core Lib.Text Lib.Wire List
open Kernel (Secp256k1)
open Option (some.inj bind_eq_some_iff)

section Signatures

theorem hexDigit_toLower : ∀ digit < 16, (hexDigit digit).toLower = hexDigit digit := by decide

theorem bytesToHex_toLower (bytes : Bytes) : (bytesToHex bytes).toLower = bytesToHex bytes := by
  change (bytesToHex bytes).map Char.toLower = _
  rw [← String.toList_inj, String.toList_map]
  exact (map_congr_left (bytesToHex_each (by decide) (by decide) hexDigit_toLower bytes)).trans (map_id' _)

theorem normalizeSignature_bytes {bytes : Bytes} (sized : bytes.length = 65)
    (v : (bytes.getD 64 0).toNat = 27 ∨ (bytes.getD 64 0).toNat = 28) :
    Portfolio.normalizeSignature (bytesToHex bytes) = some (bytesToHex bytes) := by
  unfold Portfolio.normalizeSignature
  have start : (bytesToHex bytes).toList.take 2 = ['0', 'x'] := by
    rw [bytesToHex, String.toList_ofList]
    rfl
  rw [if_pos start, bytesToHex_toLower, hexToBytes_bytesToHex]
  have neither : ¬((bytes.getD 64 0).toNat = 0 ∨ (bytes.getD 64 0).toNat = 1) := by omega
  simp only [Option.bind_eq_bind, Option.bind_some]
  rw [if_neg (not_not.mpr sized), if_neg neither, if_pos v]

variable {signature normalized : String}

theorem normalizeSignature_fixed (made : Portfolio.normalizeSignature signature = some normalized) :
    Portfolio.normalizeSignature normalized = some normalized := by
  unfold Portfolio.normalizeSignature at made
  dsimp only at made
  split at made
  case isFalse => cases made
  obtain ⟨bytes, read, made⟩ := bind_eq_some_iff.mp made
  split at made
  · cases made
  next sized =>
    have sized := not_not.mp sized
    split at made
    next low =>
      obtain rfl := some.inj made
      refine normalizeSignature_bytes (by simp [sized]) ?_
      have here : (bytes.take 64 ++ [UInt8.ofNat ((bytes.getD 64 0).toNat + 27)]).getD 64 0 =
          UInt8.ofNat ((bytes.getD 64 0).toNat + 27) := by
        simp [getD_eq_getElem?_getD, sized]
      rw [here]
      rcases low with zero | one
      · rw [zero]
        exact .inl rfl
      · rw [one]
        exact .inr rfl
    next =>
      split at made
      next v =>
        obtain rfl := some.inj made
        exact normalizeSignature_bytes sized v
      next => cases made

variable [Keccak] [Secp256k1]

theorem recoverAddress_bytes {hash : Digest32} {bytes public_ : Bytes} (sized : bytes.length = 65)
    (v : (bytes.getD 64 0).toNat = 27 ∨ (bytes.getD 64 0).toNat = 28)
    (canonical : ¬(beNat (bytes.take 32) = 0 ∨ Kernel.SECP256K1_ORDER ≤ beNat (bytes.take 32) ∨
      beNat ((bytes.drop 32).take 32) = 0 ∨ Kernel.SECP256K1_ORDER ≤ beNat ((bytes.drop 32).take 32) ∨
      Kernel.SECP256K1_ORDER / 2 < beNat ((bytes.drop 32).take 32)))
    (key : Secp256k1.recoverPublicKey hash (beNat (bytes.take 32)) (beNat ((bytes.drop 32).take 32))
      ((bytes.getD 64 0).toNat - 27) = some public_) :
    recoverAddress hash (bytesToHex bytes) = some (Kernel.addressFromPublicKey public_, bytesToHex bytes) := by
  have signer : Portfolio.recoverSigner hash (bytesToHex bytes) = some (Kernel.addressFromPublicKey public_) :=
    Portfolio.recoverSigner_some (hexToBytes_bytesToHex bytes) (decide_eq_true ⟨sized, v, canonical, by rw [key]; rfl⟩)
  unfold recoverAddress
  rw [normalizeSignature_bytes sized v, Option.bind_eq_bind, Option.bind_some, signer]
  rfl

variable {message : ApprovalMessage}

theorem checkApproval_ok (approved : checkApproval message signature = some (.ok normalized)) :
    ∃ hash, approvalHash message = some hash ∧ recoverAddress hash signature = some (message.principal, normalized) := by
  unfold checkApproval at approved
  obtain ⟨hash, hashed, approved⟩ := bind_eq_some_iff.mp approved
  refine ⟨hash, hashed, ?_⟩
  cases recovered : recoverAddress hash signature with
  | none => rw [recovered] at approved; cases approved
  | some found =>
    obtain ⟨address, normal⟩ := found
    rw [recovered] at approved
    dsimp only at approved
    split at approved
    · cases approved
    next same =>
      obtain rfl := Except.ok.inj (some.inj approved)
      rw [not_not.mp same]

theorem checkApproval_again (approved : checkApproval message signature = some (.ok normalized)) :
    checkApproval message normalized = some (.ok normalized) := by
  obtain ⟨hash, hashed, recovered⟩ := checkApproval_ok approved
  unfold recoverAddress at recovered
  obtain ⟨normal, normalizes, recovered⟩ := bind_eq_some_iff.mp recovered
  obtain ⟨address, signer, recovered⟩ := bind_eq_some_iff.mp recovered
  obtain ⟨rfl, rfl⟩ := Prod.mk.inj (some.inj recovered)
  have again : recoverAddress hash normal = some (message.principal, normal) := by
    unfold recoverAddress
    rw [normalizeSignature_fixed normalizes]
    simp [signer]
  unfold checkApproval
  rw [hashed]
  simp [again]

end Signatures

section Calls
variable {Draft : Type} {e : VersionsEnv} {sys after : VersionsSystem Draft} {label : VersionsLabel Draft}

def Entry.Same (was now : Entry Draft) : Prop :=
  now.active = was.active ∧ now.record.version = was.record.version ∧ now.record.digest = was.record.digest ∧
    now.record.authorization = was.record.authorization

def MandateVersions.Commit.Made (c : MandateVersions.Commit Draft) (entry : Entry Draft) : Prop :=
  entry.active.mandate = c.prepared.mandate ∧ entry.active.draft = c.prepared.draft ∧
    entry.record.version = c.prepared.version ∧
    entry.record.digest = c.prepared.mandate.portfolioMandateDigest ∧ entry.record.authorization = c.authorization

/-- What any step does to versions and calls: at most one version is added, by the commit that returns. -/
structure Progress (begins : MandateVersions.Commit Draft → Prop) (sys after : VersionsSystem Draft) : Prop where
  entries : ∀ {i : Nat} {entry : Entry Draft}, after.versions.entries[i]? = some entry →
    (∃ was : Entry Draft, sys.versions.entries[i]? = some was ∧ was.Same entry) ∨
      i = sys.versions.entries.length ∧ ∃ call c, committing (sys.calls call) = some c ∧
        after.calls call = .returned (.ok c.prepared.version) ∧ c.Made entry
  kept : ∀ {i : Nat} {was : Entry Draft}, sys.versions.entries[i]? = some was →
    ∃ entry, after.versions.entries[i]? = some entry ∧ was.Same entry
  commits : ∀ {call c}, committing (sys.calls call) = some c → committing (after.calls call) = some c ∨
    (∃ code, after.calls call = .returned (.error code)) ∨ (∃ revoked, after.calls call = .threw revoked) ∨
    after.calls call = .returned (.ok c.prepared.version) ∧
      ∃ entry, after.versions.entries[sys.versions.entries.length]? = some entry ∧ c.Made entry
  begun : ∀ {call c}, committing (after.calls call) = some c → committing (sys.calls call) = some c ∨
    sys.calls call = .idle ∧ begins c
  returned : ∀ {call result}, sys.calls call = .returned result → after.calls call = .returned result
  threw : ∀ {call revoked}, sys.calls call = .threw revoked → after.calls call = .threw revoked

theorem Entry.Same.refl (entry : Entry Draft) : entry.Same entry := ⟨rfl, rfl, rfl, rfl⟩

variable {begins : MandateVersions.Commit Draft → Prop} {call : Nat} {stage : Stage Draft}

/-- A call that has ended makes no step. -/
def Stage.running (stage : Stage Draft) : Prop :=
  (∀ result, stage ≠ .returned result) ∧ ∀ revoked, stage ≠ .threw revoked

theorem Progress.moves (entries : after.versions.entries = sys.versions.entries)
    (calls : after.calls = Function.update sys.calls call stage)
    (waiting : (sys.calls call).running)
    (goes : ∀ c, committing (sys.calls call) = some c → committing stage = some c ∨
      (∃ code, stage = .returned (.error code)) ∨ ∃ revoked, stage = .threw revoked)
    (comes : ∀ c, committing stage = some c → committing (sys.calls call) = some c ∨
      sys.calls call = .idle ∧ begins c) : Progress begins sys after := by
  constructor <;> simp only [entries, calls, Function.update_apply]
  · intro i entry found
    exact .inl ⟨entry, found, .refl entry⟩
  · intro i was found
    exact ⟨was, found, .refl was⟩
  all_goals grind [Stage.running]

theorem Progress.unmoved
    (entries : after.versions.entries = sys.versions.entries) (calls : after.calls = sys.calls) :
    Progress begins sys after := by
  constructor <;> simp only [entries, calls]
  · intro i entry found
    exact .inl ⟨entry, found, .refl entry⟩
  · intro i was found
    exact ⟨was, found, .refl was⟩
  all_goals grind

theorem Progress.records {index : Nat} {change : VersionRecord → VersionRecord}
    (entries : after.versions.entries = (sys.versions.setRecord index change).entries)
    (same : ∀ record, (change record).version = record.version ∧ (change record).digest = record.digest ∧
      (change record).authorization = record.authorization)
    (calls : after.calls = Function.update sys.calls call stage)
    (waiting : (sys.calls call).running)
    (goes : ∃ result, stage = .returned result ∧ (committing (sys.calls call) = none ∨ ∃ code, result = .error code)) :
    Progress begins sys after := by
  obtain ⟨_, found, _⟩ := setRecord_spec sys.versions index change
  have back {i : Nat} {was : Entry Draft} (at_ : sys.versions.entries[i]? = some was) :
      ∃ entry, (sys.versions.setRecord index change).entries[i]? = some entry ∧ was.Same entry := by
    rw [MandateVersions.setRecord_get, at_, Option.map_some]
    refine ⟨_, rfl, ?_⟩
    split
    · exact ⟨rfl, same was.record⟩
    · exact .refl was
  constructor <;> simp only [entries, calls, Function.update_apply]
  · intro i entry at_
    obtain ⟨was, there, active, record⟩ := found i entry at_
    refine .inl ⟨was, there, active, ?_⟩
    rcases record with ⟨_, now⟩ | ⟨_, now⟩
    · rw [now]
      exact same was.record
    · rw [now]
      exact ⟨rfl, rfl, rfl⟩
  · exact back
  all_goals grind [committing, Stage.running]

theorem Progress.completes {c : MandateVersions.Commit Draft} {revokedAt : Option Nat} {ledgerVersion : Nat}
    (here : sys.calls call = .registered c revokedAt (.ok ledgerVersion)) :
    Progress begins sys ({ sys with versions := sys.versions.registered c revokedAt ledgerVersion }.move call
      (.returned (.ok c.prepared.version))) := by
  obtain ⟨supersedes, length, fresh, others⟩ :=
    MandateVersions.registered_entries sys.versions c revokedAt ledgerVersion
  have made : c.Made (c.entry supersedes ledgerVersion) := ⟨rfl, rfl, rfl, rfl, rfl⟩
  have commits : committing (sys.calls call) = some c := by rw [here]; rfl
  generalize c.entry supersedes ledgerVersion = entry at fresh made
  generalize sys.versions.registered c revokedAt ledgerVersion = versions at *
  constructor <;> simp only [VersionsSystem.move, Function.update_apply]
  · intro i now at_
    have within : i < versions.entries.length := (List.getElem?_eq_some_iff.mp at_).1
    rcases Nat.lt_or_ge i sys.versions.entries.length with old | new
    · obtain ⟨was, found, was_, found_, active, version, digest, authorization, _⟩ := others i old
      obtain rfl := some.inj (found_.symm.trans at_)
      exact .inl ⟨was, was_, active, version, digest, authorization⟩
    · obtain rfl : i = sys.versions.entries.length := by omega
      obtain rfl := some.inj (at_.symm.trans fresh)
      exact .inr ⟨rfl, call, c, commits, if_pos rfl, made⟩
  · intro i was at_
    have within : i < sys.versions.entries.length := (List.getElem?_eq_some_iff.mp at_).1
    obtain ⟨was', found, was_, found_, active, version, digest, authorization, _⟩ := others i within
    obtain rfl := some.inj (was_.symm.trans at_)
    exact ⟨found, found_, active, version, digest, authorization⟩
  all_goals grind [committing]

theorem Progress.of_step (taken : Stepped sys label after) :
    Progress (fun c => Begins label c ∧ sys.versions.Free) sys after := by
  have ends {versions : MandateVersions Draft} {call : Nat} {stage : Stage Draft}
      (entries : versions.entries = sys.versions.entries) (waiting : (sys.calls call).running)
      (goes : (∃ code, stage = .returned (.error code)) ∨ ∃ revoked, stage = .threw revoked) :
      Progress (fun c => Begins label c ∧ sys.versions.Free) sys ({ sys with versions }.move call stage) := by
    refine .moves entries rfl waiting (fun d _ => .inr goes) fun d commits => ?_
    rcases goes with ⟨_, rfl⟩ | ⟨_, rfl⟩
    · cases commits
    · cases commits
  have goes {roots : Roots} {call : Nat} {was stage : Stage Draft} (here : sys.calls call = was) (waiting : was.running)
      (same : committing stage = committing was) :
      Progress (fun c => Begins label c ∧ sys.versions.Free) sys ({ sys with roots }.move call stage) := by
    subst here
    exact .moves rfl rfl waiting (fun d commits => .inl (same.trans commits)) fun d commits => .inl (same.symm.trans commits)
  cases taken with
  | refuses idle stops =>
    refine ends rfl (by rw [idle]; exact ⟨by simp, by simp⟩) ?_
    rcases stops with refused | threw
    · exact .inl refused
    · exact .inr ⟨none, threw⟩
  | @begins call c idle begins _ _ unreserved =>
    refine .moves rfl rfl (by rw [idle]; exact ⟨by simp, by simp⟩) (fun d commits => by rw [idle] at commits; cases commits) ?_
    intro d commits
    have same : d = c := by
      cases previous : c.previous <;> simp only [previous, committing] at commits <;>
        exact (some.inj commits).symm
    exact .inr ⟨idle, same ▸ begins, unreserved⟩
  | pauses idle => exact goes idle ⟨by simp, by simp⟩ rfl
  | revokes here => exact goes here ⟨by simp, by simp⟩ rfl
  | registers here _ next =>
    refine goes here ⟨by simp, by simp⟩ ?_
    rcases next with rfl | ⟨rfl, _⟩
    · rfl
    · rfl
  | revokesPaused here => exact goes here ⟨by simp, by simp⟩ rfl
  | proceeds here => exact goes here ⟨by simp, by simp⟩ rfl
  | stops here _ stops =>
    refine ends rfl ⟨?_, ?_⟩ stops
    · intro result returned
      rw [returned] at here
      cases here
    · intro revoked threw
      rw [threw] at here
      cases here
  | completes here => exact .completes here
  | @fails call c revokedAt here =>
    have waiting : (sys.calls call).running := by rw [here]; exact ⟨by simp, by simp⟩
    unfold MandateVersions.registerRefused
    cases c.previous with
    | none => exact ends rfl waiting (.inl ⟨_, rfl⟩)
    | some index =>
      exact .records (show _ = (sys.versions.setRecord index fun record =>
        { record with status := .revoked, revokedAtLedgerVersion := revokedAt }).entries from rfl) (fun _ => ⟨rfl, rfl, rfl⟩) rfl
        waiting ⟨_, rfl, .inr ⟨_, rfl⟩⟩
  | @paused call index ledgerVersion here =>
    exact .records (show _ = (sys.versions.setRecord index fun record =>
      { record with status := .revoked, revokedAtLedgerVersion := some ledgerVersion }).entries from rfl) (fun _ => ⟨rfl, rfl, rfl⟩)
      rfl (by rw [here]; exact ⟨by simp, by simp⟩) ⟨_, rfl, .inl (by rw [here]; rfl)⟩
  | unpaused here _ stops => exact ends rfl (by rw [here]; exact ⟨by simp, by simp⟩) stops
  | flags _ entries => exact .unmoved entries rfl

end Calls

end Mandate.Authoring
