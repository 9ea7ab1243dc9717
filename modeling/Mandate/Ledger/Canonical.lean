import Mandate.Lib.Delimited
import Mandate.Ledger.Revocation

/-! The canonical encoding: equal bytes are equal states. A batch's bytes tell its events, the head
tells the batches, and the state follows from them. -/
set_option linter.dupNamespace false
namespace Mandate.Ledger
open Core Lib.Wire Lib.Text Lib.Delimited List
open Lib.Table (PMap sortedKeys)

section Fields

theorem pins_digest (a b : Digest32) : Pins (a = b) (writeDigest a) (writeDigest b) :=
  .of_frames (frames_digestAs a "") (frames_digestAs b "")

theorem pins_identifier (a b : Identifier) : Pins (a = b) (writeStr a.1) (writeStr b.1) :=
  .of_frames (frames_readIdentifier a "") (frames_readIdentifier b "")

theorem pins_u8 (a b : Nat) : Pins (a = b) (writeU8 a) (writeU8 b) := .of_frames (frames_u8 a) (frames_u8 b)

theorem pins_u16 (a b : Nat) : Pins (a = b) (writeU16 a) (writeU16 b) := .of_frames (frames_u16 a) (frames_u16 b)

theorem pins_u32 (a b : Int) : Pins (a = b) (writeU32 a) (writeU32 b) := .of_frames (frames_u32_int a) (frames_u32_int b)

theorem pins_u64 (a b : Int) : Pins (a = b) (writeU64 a) (writeU64 b) := .of_frames (frames_u64_int a) (frames_u64_int b)

theorem pins_u256 (a b : Int) : Pins (a = b) (writeU256 a) (writeU256 b) :=
  .of_frames (frames_u256_int a) (frames_u256_int b)

theorem pins_i64 (a b : Int) : Pins (a = b) (writeI64 a) (writeI64 b) := .of_frames (frames_i64 a) (frames_i64 b)

theorem pins_flag (a b : Bool) : Pins (a = b) (writeFlag a) (writeFlag b) := .of_frames (frames_flag a) (frames_flag b)

theorem pins_generation (a b : ReservationGeneration) : Pins (a = b) (writeU64 a.1) (writeU64 b.1) :=
  .of_frames (frames_generation a) (frames_generation b)

theorem pins_moduleRef (a b : ModuleRef) : Pins (a = b) (writeModuleRef a) (writeModuleRef b) :=
  .of_frames (frames_readModuleRef a) (frames_readModuleRef b)

theorem pins_adapterRef (a b : AdapterRef) : Pins (a = b) (writeAdapterRef a) (writeAdapterRef b) := by
  have read : ∀ a : AdapterRef, Frames (writeAdapterRef a) readAdapterRef a 166 := fun a =>
    frames_must (f := fun input => validateAdapterRef input "adapter") (frames_adapterRef a) (validateAdapterRef_self a _)
  exact .of_frames (read a) (read b)

theorem pins_account (a b : AccountId) : Pins (a = b) (writeResourceOf a) (writeResourceOf b) := by
  have read : ∀ a : AccountId, Frames (writeResourceOf a) readVenueAccount a 261 := fun a =>
    frames_must (f := fun input => validateResourceIn [.account] input "venueAccount") (frames_resourceOf a)
      (validateResourceIn_self a _)
  exact .of_frames (read a) (read b)

theorem pins_scoped (a b : ScopedDefinition) : Pins (a = b) (writeScoped a) (writeScoped b) :=
  .of_frames (frames_scoped a) (frames_scoped b)

theorem pins_nullable {α : Type} {write : α → Writer} (one : ∀ a b, Pins (a = b) (write a) (write b)) (a b : Option α) :
    Pins (a = b) (writeNullable write a) (writeNullable write b) := by
  cases a with
  | none =>
    cases b with
    | none => exact (pins_flag _ _).imp fun _ => rfl
    | some b =>
      intro p q r r' written written' same
      obtain ⟨q, q', one, two, rfl⟩ := Writer.append_some.mp written'
      rw [List.append_assoc] at same
      cases (pins_flag false true p q _ _ written one same).2
  | some a =>
    cases b with
    | none =>
      intro p q r r' written written' same
      obtain ⟨p, p', one, two, rfl⟩ := Writer.append_some.mp written
      rw [List.append_assoc] at same
      cases (pins_flag true false p q _ _ one written' same).2
    | some b => exact ((pins_flag _ _).append fun _ => one a b).imp fun same => congrArg some same.2

theorem pins_list {α : Type} {write : α → Writer} (one : ∀ a b, Pins (a = b) (write a) (write b)) (a b : List α) :
    Pins (a = b) (writeList write a) (writeList write b) :=
  ((pins_u16 _ _).append fun count => .each one count).imp And.right

theorem pins_segment (a b : Bytes) : Pins (a = b) (writeSegment a) (writeSegment b) :=
  ((pins_u32 _ _).append fun count => .raw (Int.ofNat.inj count)).imp And.right

variable {tag : String}

theorem tagged_injective {α β : Type} (labelled : (taggedWriter tag).Total) {write : α → Writer}
    {read : CoreReader β} {inputOf : α → β} {size : Nat} {validate : β → String → CoreResult α}
    (total : ∀ item, (write item).Total) (frames : ∀ item, Frames (write item) read (inputOf item) size)
    (valid : ∀ item path, validate (inputOf item) path = .ok item) {a b : α}
    (same : encodeWith (fun item => taggedWriter tag ++ write item) a =
      encodeWith (fun item => taggedWriter tag ++ write item) b) : a = b := by
  obtain ⟨label, written⟩ := labelled
  refine encodeWith_injective total frames valid ?_
  obtain ⟨first, writtenA⟩ := total a
  obtain ⟨second, writtenB⟩ := total b
  simp only [encodeWith, written, writtenA, writtenB] at same ⊢
  exact append_cancel_left same

theorem total_tagged (ascii : Ascii tag) (short : tag.length ≤ 1024) : (taggedWriter tag).Total :=
  Writer.total_append (total_str ascii short) (total_u16 (by decide))

theorem encodeAuthorityGrant_injective {a b : AuthorityGrant} (same : encodeAuthorityGrant a = encodeAuthorityGrant b) :
    a = b :=
  tagged_injective (total_tagged (ascii_of_all (by decide)) (by decide)) total_grant frames_grant
    validateAuthorityGrant_self same

theorem encodePrincipalPolicy_injective {a b : PrincipalPolicy}
    (same : encodePrincipalPolicy a = encodePrincipalPolicy b) : a = b :=
  tagged_injective (total_tagged (ascii_of_all (by decide)) (by decide)) total_policy frames_policy
    validatePrincipalPolicy_self same

theorem encodeRevocation_injective {a b : Revocation} (same : encodeRevocation a = encodeRevocation b) : a = b :=
  tagged_injective (total_tagged (ascii_of_all (by decide)) (by decide)) total_revocation frames_revocation
    validateRevocation_self same

theorem pins_grant (a b : AuthorityGrant) : Pins (a = b) (writeSegment (encodeAuthorityGrant a))
    (writeSegment (encodeAuthorityGrant b)) := (pins_segment _ _).imp encodeAuthorityGrant_injective

theorem pins_policy (a b : PrincipalPolicy) : Pins (a = b) (writeSegment (encodePrincipalPolicy a))
    (writeSegment (encodePrincipalPolicy b)) := (pins_segment _ _).imp encodePrincipalPolicy_injective

theorem pins_revocation (a b : Revocation) : Pins (a = b) (writeSegment (encodeRevocation a))
    (writeSegment (encodeRevocation b)) := (pins_segment _ _).imp encodeRevocation_injective

theorem pins_party (a b : PartyId) : Pins (a = b) (writeParty a) (writeParty b) := by
  refine (Pins.of_frames (frames_party a) (frames_party b)).imp fun same => ?_
  have parsed := validatePartyId_self a ""
  rw [same, validatePartyId_self] at parsed
  exact (Except.ok.inj parsed).symm

theorem pins_chargePlan (a b : ChargePlan) : Pins (a = b) (writeChargePlan a) (writeChargePlan b) := by
  refine (Pins.of_frames (frames_chargePlan a) (frames_chargePlan b)).imp fun same => ?_
  have parsed := validateChargePlan_self a ""
  rw [same, validateChargePlan_self] at parsed
  exact (Except.ok.inj parsed).symm

theorem pins_targetRef (a b : TargetRef) : Pins (a = b) (writeTargetRef a) (writeTargetRef b) := by
  cases a <;> cases b <;> refine ((pins_u8 _ _).append fun code => (pins_digest _ _).append fun _ => pins_identifier _ _).imp ?_
  · rintro ⟨_, rfl, rfl⟩
    rfl
  · rintro ⟨code, _⟩
    cases code
  · rintro ⟨code, _⟩
    cases code
  · rintro ⟨_, rfl, rfl⟩
    rfl

theorem pins_leg (a b : EventLeg) : Pins (a = b) (writeLeg a) (writeLeg b) := by
  refine ((pins_targetRef _ _).append fun _ => (pins_u256 _ _).append fun _ => pins_nullable pins_u64 _ _).imp ?_
  rintro ⟨target, amount, epoch⟩
  cases a
  cases b
  simp_all

theorem pins_artifact (a b : ArtifactIdentity) : Pins (a = b) (writeArtifact a) (writeArtifact b) := by
  have byte : ∀ a b : UInt8, Pins (a = b) (writeU8 a.toNat) (writeU8 b.toNat) := fun a b =>
    (pins_u8 _ _).imp UInt8.toNat.inj
  refine ((pins_identifier _ _).append fun _ => (pins_u8 _ _).append fun count => .each byte count).imp ?_
  rintro ⟨kind, _, id⟩
  cases a
  cases b
  simp_all

theorem pins_slot (a b : VenueSlot) : Pins (a = b) (writeSlot a) (writeSlot b) := by
  refine ((pins_identifier _ _).append fun _ => pins_u64 _ _).imp ?_
  rintro ⟨scope, sequence⟩
  cases a
  cases b
  simp_all

theorem pins_attemptAdmission (a b : AttemptAdmission) :
    Pins (a = b) (writeAttemptAdmission a) (writeAttemptAdmission b) := by
  have read : ∀ v : Int, Frames (writeU16Int v) ((fun n : Nat => (n : Int)) <$> readU16) v 2 := fun v =>
    uint_frames_nonneg (Frames.uint _ 2 v)
  refine ((pins_digest _ _).append fun _ => (Pins.of_frames (read _) (read _)).append fun _ => (pins_digest _ _).append fun _ =>
    (pins_generation _ _).append fun _ => (pins_digest _ _).append fun _ => (pins_digest _ _).append fun _ =>
    (pins_moduleRef _ _).append fun _ => (pins_adapterRef _ _).append fun _ => (pins_account _ _).append fun _ =>
    (pins_artifact _ _).append fun _ => (pins_nullable pins_slot _ _).append fun _ => (pins_i64 _ _).append fun _ =>
    (pins_digest _ _).append fun _ => pins_digest _ _).imp ?_
  rintro ⟨_, _, _, _, _, _, _, _, _, _, _, _, _, _⟩
  cases a
  cases b
  simp_all

theorem pins_accounting {a b : AccountingEvent} (time : a.time = b.time) :
    Pins (a = b) (writeAccounting a) (writeAccounting b) := by
  refine ((pins_digest _ _).append fun _ => (pins_generation _ _).append fun _ => (pins_digest _ _).append fun _ =>
    pins_list pins_u256 _ _).imp ?_
  rintro ⟨_, _, _, _⟩
  cases a
  cases b
  simp_all

theorem pins_semantics {bindings others : List SemanticTermBinding} {proofs proofs' : List SemanticProofRef}
    (bound : bindings = [] ↔ others = []) (proven : bindings = [] → (proofs = [] ↔ proofs' = [])) :
    Pins (bindings = others ∧ proofs = proofs') (writeSemantics bindings proofs) (writeSemantics others proofs') := by
  unfold writeSemantics
  by_cases unbound : bindings = []
  · rw [if_neg (not_not.mpr unbound), if_neg (not_not.mpr (bound.mp unbound))]
    by_cases unproven : proofs = []
    · have unproven' := (proven unbound).mp unproven
      rw [if_neg (not_not.mpr unproven), if_neg (not_not.mpr unproven')]
      exact (Pins.raw rfl).imp fun _ => ⟨unbound.trans (bound.mp unbound).symm, unproven.trans unproven'.symm⟩
    · rw [if_pos unproven, if_pos (mt (proven unbound).mpr unproven)]
      exact (pins_list pins_scoped _ _).imp fun same => ⟨unbound.trans (bound.mp unbound).symm, same⟩
  · rw [if_pos unbound, if_pos (mt bound.mpr unbound)]
    exact (pins_list pins_scoped _ _).append fun _ => pins_list pins_scoped _ _

theorem pins_payload {a b : LedgerEvent} (kind : wireKind a = wireKind b) (time : a.time = b.time) :
    Pins (a = b) (writePayload a) (writePayload b) := by
  cases a with
  | registerPolicy t policy proofs bindings =>
    cases b with
    | registerPolicy t' policy' proofs' bindings' =>
      refine ((pins_policy _ _).append fun _ => pins_semantics ?_ ?_).imp ?_
      · grind [wireKind]
      · grind [wireKind]
      · rintro ⟨rfl, rfl, rfl⟩
        rw [show t = t' from time]
    | _ => exact absurd kind (by grind [wireKind])
  | registerGrant t grant proofs bindings =>
    cases b with
    | registerGrant t' grant' proofs' bindings' =>
      refine ((pins_grant _ _).append fun _ => pins_semantics ?_ ?_).imp ?_
      · grind [wireKind]
      · grind [wireKind]
      · rintro ⟨rfl, rfl, rfl⟩
        rw [show t = t' from time]
    | _ => exact absurd kind (by grind [wireKind])
  | revoke t revocation =>
    cases b with
    | revoke t' revocation' =>
      refine (pins_revocation _ _).imp ?_
      rintro rfl
      rw [show t = t' from time]
    | _ => exact absurd kind (by grind [wireKind])
  | reserve t plan lineage policy legs =>
    cases b with
    | reserve t' plan' lineage' policy' legs' =>
      refine ((pins_chargePlan _ _).append fun _ => (pins_list pins_digest _ _).append fun _ =>
        (pins_digest _ _).append fun _ => pins_list (pins_list pins_leg) _ _).imp ?_
      rintro ⟨rfl, rfl, rfl, rfl⟩
      rw [show t = t' from time]
    | _ => exact absurd kind (by grind [wireKind])
  | consume e =>
    cases b with
    | consume e' => exact (pins_accounting time).imp (congrArg LedgerEvent.consume)
    | _ => exact absurd kind (by grind [wireKind])
  | close e =>
    cases b with
    | close e' => exact (pins_accounting time).imp (congrArg LedgerEvent.close)
    | _ => exact absurd kind (by grind [wireKind])
  | restore e =>
    cases b with
    | restore e' => exact (pins_accounting time).imp (congrArg LedgerEvent.restore)
    | _ => exact absurd kind (by grind [wireKind])
  | admitAttempt t admission =>
    cases b with
    | admitAttempt t' admission' =>
      refine (pins_attemptAdmission _ _).imp ?_
      rintro rfl
      rw [show t = t' from time]
    | _ => exact absurd kind (by grind [wireKind])

theorem pins_eventBody (a b : LedgerEvent) : Pins (a = b) (writeEventBody a) (writeEventBody b) :=
  ((Pins.of_frames (frames_code EVENT_CODE _) (frames_code EVENT_CODE _)).append fun kind =>
    (pins_i64 _ _).append fun time => pins_payload kind time).imp fun same => same.2.2

theorem encodeBatch_pins (principal : PrincipalId) (version : Nat) (head other : LedgerHeadDigest)
    (events events' : List LedgerEvent) : Pins (head = other ∧ events = events')
      (encodeBatch principal version head events) (encodeBatch principal version other events') := by
  refine ((Pins.own _).append fun _ => (pins_party _ _).append fun _ => (pins_u64 _ _).append fun _ =>
    (pins_digest _ _).append fun _ => pins_list pins_eventBody _ _).imp ?_
  rintro ⟨_, _, _, heads, listed⟩
  exact ⟨heads, listed⟩

end Fields

/-- No two of the committed batches are hashed to one head but as one encoding. -/
def HeadsApart [Keccak] (batches : List CommittedBatch) : Prop :=
  ∀ batch ∈ batches, ∀ other ∈ batches, batchHead batch.encoded = batchHead other.encoded → batch.encoded = other.encoded

instance [Keccak] (batches : List CommittedBatch) : Decidable (HeadsApart batches) :=
  inferInstanceAs (Decidable (∀ batch ∈ batches, ∀ other ∈ batches, _ → _))

section Runs
variable [Keccak] {rules : ReducerRules} {principal : PrincipalId} {history : List CommittedBatch} {s : LedgerState}

theorem Run.version (run : Run rules principal history s) : s.version = history.length := by
  induction run with
  | genesis => rfl
  | @batch history s events applied run accepted ih =>
    obtain ⟨_, _, _, state⟩ := applyBatch_ok accepted
    rw [state, length_append, ← ih]
    rfl

theorem Run.determined {history' : List CommittedBatch} {s' : LedgerState} (run : Run rules principal history s)
    (run' : Run rules principal history' s') (apart : HeadsApart (history ++ history')) (version : s.version = s'.version)
    (head : s.head = s'.head) : history = history' ∧ s = s' := by
  induction run generalizing history' s' with
  | genesis =>
    have empty : history'.length = 0 := run'.version.symm.trans version.symm
    cases run' with
    | genesis => exact ⟨rfl, rfl⟩
    | batch => simp at empty
  | @batch history s events applied run accepted ih =>
    cases run' with
    | genesis =>
      have full := (run.batch accepted).version
      rw [version] at full
      simp [emptyLedgerState] at full
    | @batch history' s' events' applied' run' accepted' =>
      obtain ⟨_, _, written, state⟩ := applyBatch_ok accepted
      obtain ⟨_, _, written', state'⟩ := applyBatch_ok accepted'
      have versions : s.version = s'.version := by
        rw [state, state'] at version
        exact Nat.succ.inj version
      have heads : batchHead applied.encoded = batchHead applied'.encoded := by
        rw [state, state'] at head
        exact head
      have encoded : applied.encoded = applied'.encoded :=
        apart (committedBatch s events applied) (by simp) (committedBatch s' events' applied') (by simp) heads
      rw [run.reachable.whose, encoded] at written
      rw [run'.reachable.whose, ← versions] at written'
      obtain ⟨before, rfl⟩ := (encodeBatch_pins _ _ _ _ _ _).same written written'
      obtain ⟨rfl, rfl⟩ := ih run' (fun batch listed other listed' => apart batch (by simp at listed ⊢; tauto) other
        (by simp at listed' ⊢; tauto)) versions before
      rw [accepted] at accepted'
      obtain rfl := Except.ok.inj accepted'
      exact ⟨rfl, rfl⟩

end Runs

section Order

def SameEntries {κ ν : Type} [DecidableEq κ] (table other : PMap κ ν) : Prop :=
  ∀ key, table.lookup key = other.lookup key

theorem SameEntries.sortedKeys {κ ν : Type} [DecidableEq κ] {table other : PMap κ ν} (same : SameEntries table other)
    {text : κ → String} (injective : Function.Injective text) : sortedKeys text table = sortedKeys text other := by
  have keys : table.keys.Perm other.keys := by
    refine (perm_ext_iff_of_nodup table.nodupKeys other.nodupKeys).mpr fun key => ?_
    change key ∈ table ↔ key ∈ other
    rw [← AList.lookup_isSome, ← AList.lookup_isSome, same key]
  have total : Std.Total fun a b : κ => text a ≤ text b := ⟨fun _ _ => String.le_total _ _⟩
  have trans : IsTrans κ fun a b => text a ≤ text b := ⟨fun _ _ _ => String.le_trans⟩
  have antisymm : Std.Antisymm fun a b : κ => text a ≤ text b := ⟨fun _ _ le ge => injective (String.le_antisymm le ge)⟩
  exact List.Perm.eq_of_pairwise' (pairwise_insertionSort _ _) (pairwise_insertionSort _ _)
    (((perm_insertionSort _ _).trans keys).trans (perm_insertionSort _ _).symm)

theorem SameEntries.written {κ ν : Type} [DecidableEq κ] {table other : PMap κ ν} (same : SameEntries table other)
    {text : κ → String} (injective : Function.Injective text) (write : κ → ν → Writer) :
    writeEntries text write table = writeEntries text write other := by
  unfold writeEntries
  rw [same.sortedKeys injective]
  simp only [same _]

theorem toHex_injective : Function.Injective Digest32.toHex := by
  intro a b same
  have parsed := parseDigest_toHex a ""
  rw [same, parseDigest_toHex] at parsed
  exact (Except.ok.inj parsed).symm

theorem node_chars (authority : AuthorityId) (dimensionId : DimensionId) :
    (targetKeyText (.node authority dimensionId)).toList = ['[', '"', 'N', '"', ',', '"'] ++
      (authority.toHex.toList ++ (['"', ',', '"'] ++ (dimensionId.1.toList ++ ['"', ']']))) := by
  rw [targetKeyText, quoted, quoted]
  generalize authority.toHex = hex
  generalize dimensionId.1 = dim
  simp only [String.toList_append, List.append_assoc]
  rfl

theorem policy_chars (identity : Digest32) :
    (targetKeyText (.policy identity)).toList = ['[', '"', 'P', '"', ',', '"'] ++ (identity.toHex.toList ++ ['"', ']']) := by
  rw [targetKeyText, quoted]
  generalize identity.toHex = hex
  simp only [String.toList_append, List.append_assoc]
  rfl

theorem hex_width (digest : Digest32) : digest.toHex.toList.length = 66 := by
  rw [String.length_toList, Digest32.toHex, bytesToHex_length, Digest32.bytes, beBytes_length]

theorem targetKeyText_injective : Function.Injective targetKeyText := by
  intro a b same
  have chars := congrArg String.toList same
  cases a with
  | node authority dimensionId =>
    cases b with
    | node authority' dimensionId' =>
      rw [node_chars, node_chars] at chars
      have widths : authority.toHex.toList.length = authority'.toHex.toList.length := by rw [hex_width, hex_width]
      obtain ⟨hex, rest⟩ := append_inj (append_cancel_left chars) widths
      have names := append_cancel_right (append_cancel_left rest)
      rw [toHex_injective (String.toList_inj.mp hex), Subtype.ext (String.toList_inj.mp names)]
    | policy identity =>
      rw [node_chars, policy_chars] at chars
      cases (List.cons.inj (List.cons.inj (List.cons.inj chars).2).2).1
  | policy identity =>
    cases b with
    | node authority dimensionId =>
      rw [node_chars, policy_chars] at chars
      cases (List.cons.inj (List.cons.inj (List.cons.inj chars).2).2).1
    | policy identity' =>
      rw [policy_chars, policy_chars] at chars
      have hex := append_cancel_right (append_cancel_left chars)
      rw [toHex_injective (String.toList_inj.mp hex)]

end Order

/-- The same logical state: equal scalars, and in every map the same entries. -/
structure LogicallyEqual (s other : LedgerState) : Prop where
  version : s.version = other.version
  head : s.head = other.head
  lastAt : s.lastAt = other.lastAt
  policy : s.policy = other.policy
  nodes : SameEntries s.nodes other.nodes
  targets : SameEntries s.targets other.targets
  reservations : SameEntries s.reservations other.reservations
  attempts : SameEntries s.attempts other.attempts

/-- Its maps filled in another order; the indexes, which are not encoded, are left open. -/
structure Refilled (s other : LedgerState) : Prop extends LogicallyEqual s other where
  principal : s.principal = other.principal
  everReserved : s.everReserved = other.everReserved
  actions : SameEntries s.actions other.actions

theorem writeAttempts_same {attempts others : PMap AttemptId AttemptRecord} (same : SameEntries attempts others) :
    writeAttempts attempts = writeAttempts others := by
  have keys := congrArg List.length (same.sortedKeys toHex_injective)
  unfold sortedKeys at keys
  rw [length_insertionSort, length_insertionSort] at keys
  have empty : attempts.entries.isEmpty = others.entries.isEmpty := by
    have lengths : attempts.entries.length = others.entries.length := by simpa [AList.keys, List.keys] using keys
    rw [Bool.eq_iff_iff, isEmpty_iff_length_eq_zero, isEmpty_iff_length_eq_zero, lengths]
  rw [writeAttempts, writeAttempts, empty, same.written toHex_injective]

variable {s other : LedgerState}

theorem Refilled.encoded (same : Refilled s other) : encodeLedgerState s = encodeLedgerState other := by
  unfold encodeLedgerState
  rw [same.principal, same.version, same.head, same.lastAt, same.policy, same.everReserved,
    same.nodes.written toHex_injective, same.targets.written targetKeyText_injective,
    same.reservations.written toHex_injective, same.actions.written toHex_injective, writeAttempts_same same.attempts]

theorem encodeLedgerState_head {bytes : Bytes} (written : encodeLedgerState s = some bytes)
    (written' : encodeLedgerState other = some bytes) : s.version = other.version ∧ s.head = other.head := by
  unfold encodeLedgerState at written written'
  obtain ⟨_, _, written, written'⟩ := (Pins.own _).next written written'
  obtain ⟨_, _, written, written'⟩ := (pins_party _ _).next written written'
  obtain ⟨version, _, written, written'⟩ := (pins_u64 _ _).next written written'
  exact ⟨Int.ofNat.inj version, ((pins_digest _ _).next written written').1⟩

/-- Of two states of one principal that accepted histories lead to: the encoding of one is that of
the other exactly if they are logically equal; and no order of filling the maps shows in it. -/
theorem encodeLedgerState_canonical [Keccak] {rules : ReducerRules} {principal : PrincipalId}
    {history history' : List CommittedBatch} {s s' : LedgerState} {bytes : Bytes} (run : Run rules principal history s)
    (run' : Run rules principal history' s') (apart : HeadsApart (history ++ history'))
    (written : encodeLedgerState s = some bytes) : (encodeLedgerState s' = some bytes ↔ LogicallyEqual s s') ∧
      ∀ other, Refilled s other → encodeLedgerState other = some bytes := by
  refine ⟨⟨fun written' => ?_, fun same => ?_⟩, fun other same => same.encoded.symm.trans written⟩
  · obtain ⟨version, head⟩ := encodeLedgerState_head written written'
    obtain ⟨_, rfl⟩ := run.determined run' apart version head
    exact ⟨rfl, rfl, rfl, rfl, fun _ => rfl, fun _ => rfl, fun _ => rfl, fun _ => rfl⟩
  · obtain ⟨_, rfl⟩ := run.determined run' apart same.version same.head
    exact written

section Sample
attribute [local instance] platformKeccak

theorem encodeLedgerState_canonical_sample : ∃ s bytes, stateAfter sampleEvents = some s ∧
    encodeLedgerState s = some bytes ∧ (encodeLedgerState s = some bytes ↔ LogicallyEqual s s) ∧
      ∀ other, Refilled s other → encodeLedgerState other = some bytes := by
  have encodes : ((stateAfter sampleEvents).bind encodeLedgerState).isSome = true := by
    rewrite [platformKeccak_straight]
    decide +kernel
  obtain ⟨bytes, found⟩ := Option.isSome_iff_exists.mp encodes
  obtain ⟨s, after, written⟩ := Option.bind_eq_some_iff.mp found
  cases applied : applyBatch (emptyLedgerState samplePrincipal) sampleEvents CORE_RULES with
  | error _ => simp [stateAfter, applied, Except.toOption] at after
  | ok batch =>
    have reached : batch.state = s := by simpa [stateAfter, applied, Except.toOption] using after
    have run := Run.batch .genesis applied
    rw [reached] at run
    have apart : HeadsApart (([] ++ [committedBatch (emptyLedgerState samplePrincipal) sampleEvents batch]) ++
        ([] ++ [committedBatch (emptyLedgerState samplePrincipal) sampleEvents batch])) := by
      intro one listed other listed' _
      simp only [nil_append, mem_append, mem_singleton, or_self] at listed listed'
      rw [listed, listed']
    exact ⟨s, bytes, after, written, encodeLedgerState_canonical run run apart written⟩

end Sample

end Mandate.Ledger
