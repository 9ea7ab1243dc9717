import Mandate.Kernel.Findings
import Mandate.Lib.Lines
import Mathlib.Data.List.TakeWhile

/-! When the verifier returns. It throws on exactly the requests whose different violations are
more than the receipt's two bytes can count, and only a state with as many representations
reaches that many. -/
set_option linter.dupNamespace false
namespace Mandate.Kernel
open Core Lib.Wire Lib.Text Lib.Lines List

section Counting

def kept (seen : List Violation) (v : Violation) : List Violation :=
  if seen.any fun other => violationKey other == violationKey v then seen else seen ++ [v]

theorem kept_keys {seen : List Violation} (distinct : (seen.map violationKey).Nodup) (v : Violation) :
    ((kept seen v).map violationKey).Nodup ∧
      ((kept seen v).map violationKey).toFinset = insert (violationKey v) (seen.map violationKey).toFinset := by
  unfold kept
  split
  · rename_i found
    obtain ⟨other, member, same⟩ := any_eq_true.mp found
    rw [beq_iff_eq] at same
    have listed : violationKey v ∈ (seen.map violationKey).toFinset := by
      rw [mem_toFinset, ← same]
      exact mem_map_of_mem member
    exact ⟨distinct, (Finset.insert_eq_of_mem listed).symm⟩
  · rename_i fresh
    have apart : violationKey v ∉ seen.map violationKey := by
      intro member
      obtain ⟨other, listed, same⟩ := mem_map.mp member
      exact fresh (any_eq_true.mpr ⟨other, listed, beq_iff_eq.mpr same⟩)
    rw [map_append, map_cons, map_nil]
    refine ⟨nodup_append'.mpr ⟨distinct, nodup_singleton _, ?_⟩, ?_⟩
    · simpa using apart
    · ext key
      simp

theorem fold_keys {violations seen : List Violation} (distinct : (seen.map violationKey).Nodup) :
    ((violations.foldl kept seen).map violationKey).Nodup ∧
      ((violations.foldl kept seen).map violationKey).toFinset =
        (seen.map violationKey).toFinset ∪ (violations.map violationKey).toFinset := by
  induction violations generalizing seen with
  | nil => simpa using distinct
  | cons v violations ih =>
    obtain ⟨still, keys⟩ := kept_keys distinct v
    obtain ⟨nodup, whole⟩ := ih still
    refine ⟨nodup, ?_⟩
    rw [foldl_cons, whole, keys, map_cons, toFinset_cons, Finset.union_insert, Finset.insert_union]

theorem fold_mem {violations seen : List Violation} {v : Violation}
    (member : v ∈ violations.foldl kept seen) : v ∈ seen ∨ v ∈ violations := by
  induction violations generalizing seen with
  | nil => exact .inl member
  | cons first violations ih =>
    rcases ih member with early | late
    · unfold kept at early
      split at early
      · exact .inl early
      · rcases mem_append.mp early with early | new
        · exact .inl early
        · rw [mem_singleton] at new
          exact .inr (new ▸ mem_cons_self ..)
    · exact .inr (mem_cons_of_mem _ late)

/-- How many different violations there are: by code and by details. -/
def different (violations : List Violation) : Nat := (violations.map violationKey).toFinset.card

theorem canonicalize_length (violations : List Violation) :
    (canonicalize violations).length = different violations := by
  obtain ⟨nodup, keys⟩ := @fold_keys violations [] nodup_nil
  rw [map_nil, toFinset_nil, Finset.empty_union] at keys
  rw [different, ← keys, toFinset_card_of_nodup nodup, length_map]
  exact length_insertionSort ..

variable {given : ReasonCode → Bool} {violations : List Violation}

theorem legible_canonical (fits : Legible given violations) : Legible given (canonicalize violations) := by
  intro v member
  have listed := (perm_insertionSort _ _).mem_iff.mp member
  exact fits v ((@fold_mem violations [] v listed).resolve_left not_mem_nil)

theorem finish_returns [Keccak]
    (fits : Legible given violations) (a b c : Option Digest32) (t : Option UnixSeconds) :
    (∃ receipt, finish a b c t violations = some receipt) ↔ different violations ≤ 65535 := by
  rw [← canonicalize_length, ← Option.isSome_iff_exists]
  dsimp only [finish]
  rw [Option.isSome_map, Option.isSome_iff_exists]
  exact total_receipt (legible_canonical fits).writable

end Counting

section Chains

/-- The representations whose declared chain is not the one their id names. -/
def inconsistentRepresentations (s : TrustedState) : List (Observed RepresentationState) :=
  s.representations.filter fun o => chainSegmentOf o.value.representationId ≠ some o.value.chain.1

private def stateViolation (o : Observed RepresentationState) : Violation :=
  ⟨.representationChainInconsistent, [("source", "trustedState"),
    ("representationId", o.value.representationId.1), ("declared", o.value.chain.1)]⟩

theorem state_violations (reps : List (Observed RepresentationState)) :
    (reps.flatMap fun o => chainViolation "trustedState" o.value.representationId o.value.chain) =
      (reps.filter fun o => chainSegmentOf o.value.representationId ≠ some o.value.chain.1).map
        stateViolation := by
  induction reps with
  | nil => rfl
  | cons o reps ih =>
    rw [flatMap_cons, ih, chainViolation, unlessViolated]
    by_cases same : chainSegmentOf o.value.representationId = some o.value.chain.1
    · rw [if_pos same, filter_cons_of_neg (by simpa using same)]
      rfl
    · rw [if_neg same, filter_cons_of_pos (by simpa using same)]
      rfl

theorem sorted_chain (source r c : String) :
    sortedDetail [("source", source), ("representationId", r), ("declared", c)] =
      [("declared", c), ("representationId", r), ("source", source)] := by
  have one : (compare "representationId" "declared").isLE = false := by decide
  have two : (compare "source" "declared").isLE = false := by decide
  have three : (compare "source" "representationId").isLE = false := by decide
  simp [sortedDetail, List.insertionSort, List.orderedInsert, one, two, three]

theorem chain_key (source r c : String) : (violationKey ⟨.representationChainInconsistent,
      [("source", source), ("representationId", r), ("declared", c)]⟩).toList =
      "MND-REPR-006\x00declared=".toList ++ (c.toList ++ '\x00' :: ("representationId=".toList ++
        (r.toList ++ '\x00' :: ("source=".toList ++ source.toList)))) := by
  have joined : ∀ a b d, "\x00".intercalate [a, b, d] = a ++ "\x00" ++ b ++ "\x00" ++ d := fun _ _ _ => rfl
  simp [violationKey, sorted_chain, joined, ReasonCode.id, String.toList_append]

theorem chain_key_inj {source source' : String} {r r' c c' : Identifier}
    (same : violationKey ⟨.representationChainInconsistent,
        [("source", source), ("representationId", r.1), ("declared", c.1)]⟩ =
      violationKey ⟨.representationChainInconsistent,
        [("source", source'), ("representationId", r'.1), ("declared", c'.1)]⟩) :
    r = r' ∧ source = source' := by
  have texts := congrArg String.toList same
  rw [chain_key, chain_key] at texts
  obtain ⟨_, rest⟩ := split_inj (identifier_zero c) (identifier_zero c') (append_cancel_left texts)
  obtain ⟨ids, rest⟩ := split_inj (identifier_zero r) (identifier_zero r') (append_cancel_left rest)
  exact ⟨Subtype.ext (String.toList_inj.mp ids), String.toList_inj.mp (append_cancel_left rest)⟩

theorem id_zero (code : ReasonCode) : '\x00' ∉ code.id.toList := by
  cases code <;> (rw [ReasonCode.id, String.toList_ofList]; decide)

variable {v : Violation}

theorem key_code {w : Violation} (same : violationKey v = violationKey w) : v.code.id = w.code.id := by
  have texts := congrArg String.toList same
  simp only [violationKey, String.toList_append, List.append_assoc] at texts
  exact String.toList_inj.mp (split_inj (id_zero v.code) (id_zero w.code) texts).1

theorem other_id {code : ReasonCode} (other : otherCode code = true) :
    code.id ≠ ReasonCode.representationChainInconsistent.id := by
  revert other
  cases code <;> decide

theorem state_different (s : TrustedState) :
    (((inconsistentRepresentations s).map stateViolation).map violationKey).Nodup := by
  have distinct : (inconsistentRepresentations s).Pairwise fun a b => representationId a ≠ representationId b :=
    (pairwise_map.mp s.distinct).filter _
  rw [map_map, List.Nodup, pairwise_map]
  refine distinct.imp ?_
  intro a b apart same
  exact apart (chain_key_inj same).1

theorem others_apart [Keccak] [Secp256k1] (ctx : CheckContext)
    (found : v ∈ otherViolations ctx) (o : Observed RepresentationState) :
    violationKey v ≠ violationKey (stateViolation o) := by
  intro same
  rcases mem_append.mp found with other | own
  · exact other_id (legible_others ctx v other).1 (key_code same)
  · unfold chainViolation unlessViolated at own
    split at own
    · cases own
    · rw [mem_singleton] at own
      subst own
      exact absurd (chain_key_inj same).2 (by decide)

theorem different_congr {first second : List Violation} (same : ∀ v, v ∈ first ↔ v ∈ second) :
    different first = different second := by
  unfold different
  congr 1
  ext key
  simp only [mem_toFinset, mem_map, same]

theorem different_checks [Keccak] [Secp256k1] (ctx : CheckContext) :
    different (CHECKS.flatMap fun check => check ctx) =
      (inconsistentRepresentations ctx.state).length + different (otherViolations ctx) := by
  have reordered : different (CHECKS.flatMap fun check => check ctx) =
      different ((inconsistentRepresentations ctx.state).map stateViolation ++ otherViolations ctx) := by
    apply different_congr
    intro v
    rw [inconsistentRepresentations, ← state_violations]
    rw [mem_checks]
    simp only [otherViolations, checkRepresentationChain, mem_append]
    tauto
  have apart : Disjoint (((inconsistentRepresentations ctx.state).map stateViolation).map violationKey).toFinset
      ((otherViolations ctx).map violationKey).toFinset := by
    rw [Finset.disjoint_left]
    intro key first second
    simp only [mem_toFinset, mem_map] at first second
    obtain ⟨_, ⟨o, _, rfl⟩, rfl⟩ := first
    obtain ⟨v, found, same⟩ := second
    exact others_apart ctx found o same
  rw [reordered, different, map_append, toFinset_append, Finset.card_union_of_disjoint apart,
    toFinset_card_of_nodup (state_different ctx.state), length_map, length_map]
  rfl

end Chains

namespace Plain

theorem total_mandateWriter (m : CanonicalMandate) : (mandateWriter m).Total := by
  have small : m.version < 65536 := by
    rw [m.supported]
    decide
  exact Writer.total_append (total_header _ small) (total_mandate m)

theorem total_candidateWriter (c : ExecutionCandidate) : (candidateWriter c).Total := by
  have small : c.version < 65536 := by
    rw [c.supported]
    decide
  exact Writer.total_append (total_header _ small) (total_candidate c)

theorem total_stateWriter (s : TrustedState) : (stateWriter s).Total := by
  have small : s.sorted.version < 65536 := by
    rw [s.sorted.supported]
    decide
  exact Writer.total_append (total_header _ small) (total_state s.sorted)

section Verdict
variable [Keccak]

theorem digest_ok {α : Type} {write : α → Writer} {value : α} (total : (write value).Total) (name : String) :
    digest (.ok value) write name = (some (keccakDigest (encodeWith write value)), []) := by
  obtain ⟨bytes, written⟩ := total
  have encoded : encodeWith write value = bytes := by
    rw [encodeWith, written]
    rfl
  rw [digest, written, encoded]

theorem mandate_digest (m : CanonicalMandate) (name : String) :
    digest (.ok m) mandateWriter name = (some (mandateDigest m), []) := by
  rw [mandateDigest, encodeMandate]
  exact digest_ok (total_mandateWriter m) name

theorem candidate_digest (c : ExecutionCandidate) (name : String) :
    digest (.ok c) candidateWriter name = (some (candidateDigest c), []) := by
  rw [candidateDigest, encodeCandidate]
  exact digest_ok (total_candidateWriter c) name

theorem state_digest (s : TrustedState) (name : String) :
    digest (.ok s) stateWriter name = (some (trustedStateDigest s), []) := by
  have whole := digest_ok (total_stateWriter s) name
  rw [encodeWith, stateWriter] at whole
  rw [trustedStateDigest, encodeTrustedState, encodeWith]
  exact whole

/-- Every input of the request parses, and the default checks judge it. -/
structure Judged (request : Plain) (ctx : CheckContext) : Prop where
  mandate : parseMandate (field (requestFields request) "mandate") = .ok ctx.mandate
  authorization : parseAuthorizationEnvelope (field (requestFields request) "authorization") = .ok ctx.authorization
  candidate : parseCandidate (field (requestFields request) "candidate") = .ok ctx.candidate
  state : parseTrustedState (field (requestFields request) "trustedState") = .ok ctx.state
  clock : parseClock (field (requestFields request) "clock") = .ok ctx.now
  expectedDomain : parseEip712Domain (field (requestFields request) "expectedDomain") = .ok ctx.expectedDomain
  mandateDigest : ctx.mandateDigest = Kernel.mandateDigest ctx.mandate
  trustedStateDigest : ctx.trustedStateDigest = Kernel.trustedStateDigest ctx.state
  checks : field (requestFields request) "checks" = .undefined

private def Single (violations : List Violation) : Prop :=
  violations.length ≤ 1 ∧ Legible (fun _ => true) violations

variable {name : String}

omit [Keccak] in
theorem collect_single {α : Type} (parsed : KernelResult α)
    (short : clear name = true) : Single (collect parsed name) := by
  cases parsed with
  | error code => exact ⟨le_rfl, by simp +decide [collect, Legible, short]⟩
  | ok _ => exact ⟨Nat.zero_le _, by simp [collect, Legible]⟩

variable {count : Nat}

omit [Keccak] in
private theorem Single.append {first second : List Violation}
    (few : first.length ≤ count ∧ Legible (fun _ => true) first) (one : Single second) :
    (first ++ second).length ≤ count + 1 ∧ Legible (fun _ => true) (first ++ second) := by
  refine ⟨?_, legible_append.mpr ⟨few.2, one.2⟩⟩
  rw [length_append]
  exact Nat.add_le_add few.1 one.1

theorem digest_single {α : Type} (parsed : KernelResult α) (write : α → Writer)
    (short : clear name = true) : Single (digest parsed write name).2 := by
  unfold digest
  split
  · exact ⟨Nat.zero_le _, legible_nil⟩
  · split
    · exact ⟨Nat.zero_le _, legible_nil⟩
    · exact ⟨le_rfl, by simp +decide [short]⟩

variable {violations : List Violation}

theorem finish_few (small : count ≤ 65535)
    (few : violations.length ≤ count ∧ Legible (fun _ => true) violations) (a b c : Option Digest32)
    (t : Option UnixSeconds) : ∃ receipt, finish a b c t violations = some receipt := by
  rw [finish_returns few.2]
  have distinct := (toFinset_card_le (violations.map violationKey)).trans (length_map _).le
  exact distinct.trans (few.1.trans small)

variable [Secp256k1] {request : Plain} {ctx : CheckContext}

omit [Secp256k1] in
private theorem Judged.unique {other : CheckContext} (first : Judged request ctx)
    (second : Judged request other) : other = ctx := by
  obtain ⟨m, a, c, s, t, d, _, _⟩ := ctx
  obtain ⟨m', a', c', s', t', d', _, _⟩ := other
  have mandate := Except.ok.inj (second.mandate.symm.trans first.mandate)
  have authorization := Except.ok.inj (second.authorization.symm.trans first.authorization)
  have candidate := Except.ok.inj (second.candidate.symm.trans first.candidate)
  have state := Except.ok.inj (second.state.symm.trans first.state)
  have clock := Except.ok.inj (second.clock.symm.trans first.clock)
  have domain := Except.ok.inj (second.expectedDomain.symm.trans first.expectedDomain)
  have one := first.mandateDigest
  have two := first.trustedStateDigest
  have three := second.mandateDigest
  have four := second.trustedStateDigest
  dsimp only at *
  subst mandate authorization candidate state clock domain
  rw [one, two, three, four]

theorem verify_judged (judged : Judged request ctx) :
    Plain.verify request = finish (some ctx.mandateDigest) (some (candidateDigest ctx.candidate))
      (some ctx.trustedStateDigest) (some ctx.now) (CHECKS.flatMap fun check => check ctx) := by
  obtain ⟨mandate, authorization, candidate, state, clock, domain, one, two, checks⟩ := judged
  unfold Plain.verify
  dsimp only
  rw [mandate, authorization, candidate, state, clock, domain, checks, mandate_digest, candidate_digest,
    state_digest, ← one, ← two]
  rfl

omit [Secp256k1] in
theorem parse_few (mandate : KernelResult CanonicalMandate)
    (authorization : KernelResult AuthorizationEnvelope) (candidate : KernelResult ExecutionCandidate)
    (state : KernelResult TrustedState) (clock : KernelResult UnixSeconds)
    (domain : KernelResult Eip712Domain)
    (found : violations = collect mandate "mandate" ++ collect authorization "authorization" ++
      collect candidate "candidate" ++ collect state "trustedState" ++ collect clock "clock" ++
      collect domain "expectedDomain" ++ (digest mandate mandateWriter "mandate").2 ++
      (digest candidate candidateWriter "candidate").2 ++ (digest state stateWriter "trustedState").2) :
    violations.length ≤ 9 ∧ Legible (fun _ => true) violations := by
  have two := Single.append (collect_single mandate (by decide : clear "mandate" = true))
    (collect_single authorization (by decide : clear "authorization" = true))
  have three := Single.append two (collect_single candidate (by decide : clear "candidate" = true))
  have four := Single.append three (collect_single state (by decide : clear "trustedState" = true))
  have five := Single.append four (collect_single clock (by decide : clear "clock" = true))
  have six := Single.append five (collect_single domain (by decide : clear "expectedDomain" = true))
  have seven := Single.append six (digest_single mandate mandateWriter (by decide : clear "mandate" = true))
  have eight := Single.append seven
    (digest_single candidate candidateWriter (by decide : clear "candidate" = true))
  rw [found]
  exact Single.append eight (digest_single state stateWriter (by decide : clear "trustedState" = true))

theorem verify_unjudged (unjudged : ∀ ctx, ¬ Judged request ctx) :
    ∃ receipt, Plain.verify request = some receipt := by
  have few := parse_few (parseMandate (field (requestFields request) "mandate"))
    (parseAuthorizationEnvelope (field (requestFields request) "authorization"))
    (parseCandidate (field (requestFields request) "candidate"))
    (parseTrustedState (field (requestFields request) "trustedState"))
    (parseClock (field (requestFields request) "clock"))
    (parseEip712Domain (field (requestFields request) "expectedDomain")) rfl
  unfold Plain.verify
  dsimp only
  split
  · rename_i mandate authorization candidate state now domain _ _ mandateParsed authorizationParsed candidateParsed
      stateParsed clockParsed domainParsed _ _
    split
    · refine finish_few (by decide) (Single.append few ⟨le_rfl, ?_⟩) _ _ _ _
      simp +decide
    · rename_i checks chosen
      have none_ : checks = [] := by
        unfold chosenChecks at chosen
        split at chosen
        · rename_i undefined
          exact absurd ⟨mandateParsed, authorizationParsed, candidateParsed, stateParsed, clockParsed, domainParsed,
              rfl, rfl, undefined⟩
            (unjudged ⟨mandate, authorization, candidate, state, now, domain, Kernel.mandateDigest mandate,
              Kernel.trustedStateDigest state⟩)
        · exact (Option.some.inj chosen).symm
        · cases chosen
      rw [none_, flatMap_nil, append_nil]
      exact finish_few (by decide) few _ _ _ _
  · exact finish_few (by decide) few _ _ _ _

end Verdict

section Crowded

private def sampleAsset : Plain :=
  .object [("assetClass", .text "EQUITY"), ("idScheme", .text "ISIN"), ("value", .text "A1")]

private def sampleUnits (unit : String) (atoms : Int) : Plain :=
  .object [("unit", .text unit), ("decimals", .number (.integer 0)), ("atoms", .bigint atoms)]

private def sampleParty : Plain := .object [("kind", .text "agent"), ("value", .text "a")]

private def zeroDigest : Plain := .text "0x0000000000000000000000000000000000000000000000000000000000000000"

def buyerMandate : Plain := .object [("version", .number (.integer 2)), ("mandateId", zeroDigest),
  ("nonce", .bigint 0), ("principal", sampleParty), ("agent", sampleParty), ("canonicalAsset", sampleAsset),
  ("side", .text "BUY"), ("maxNotional", sampleUnits "USD" 1), ("economicLimit", sampleUnits "USD" 1),
  ("maxDeviationBps", .bigint 0), ("syntheticPolicy", .text "FORBIDDEN"), ("allowedIssuers", .array []),
  ("allowedChains", .array []), ("allowedVenues", .array []), ("requiredCorporateActionEpoch", .bigint 0),
  ("maxPriceAgeSeconds", .bigint 60), ("maxCorporateActionAgeSeconds", .bigint 60),
  ("haltPolicy", .text "FORBID_WHEN_HALTED"), ("createdAtUnixSeconds", .bigint 0),
  ("notBeforeUnixSeconds", .bigint 0), ("expiresAtUnixSeconds", .bigint 100)]

def sellerCandidate : Plain := .object [("version", .number (.integer 3)), ("representationId", .text "r"),
  ("canonicalAsset", sampleAsset), ("issuer", .text "i"), ("chain", .text "c"), ("venue", .text "v"),
  ("side", .text "SELL"), ("agent", sampleParty), ("quantity", sampleUnits "SHARE" 1),
  ("executionPrice", .object [("numeratorUnit", .text "USD"), ("denominatorUnit", .text "SHARE"),
    ("decimals", .number (.integer 0)), ("atoms", .bigint 1)]),
  ("notional", sampleUnits "USD" 1), ("feeTotal", sampleUnits "USD" 0), ("evaluationStateId", .text "s"),
  ("evaluationStateDigest", zeroDigest), ("registrySnapshotDigest", zeroDigest),
  ("corporateActionEpoch", .bigint 0)]

def sampleDomain : Plain := .object [("name", .text "Mandate"), ("version", .text "1"), ("chainId", .bigint 1),
  ("verifyingContract", .text "0x0000000000000000000000000000000000000001")]

def unsignedEnvelope : Plain := .object [("scheme", .text AUTHORIZATION_SCHEME),
  ("signer", .object [("kind", .text PARTY_KIND_EIP155_ADDRESS),
    ("value", .text "0x0000000000000000000000000000000000000001")]),
  ("signature", .text (bytesToHex (List.replicate 65 0))), ("domain", sampleDomain)]

def crowdedEntry (i : Nat) : Plain := .object
  [("provenance", .object [("trustClass", .text "VERIFIED"), ("sourceId", .text "feed"),
      ("observedAtUnixSeconds", .bigint 0)]),
    ("value", .object [("representationId", .text ("r" ++ Nat.repr i)), ("canonicalAsset", sampleAsset),
      ("issuer", .text "i"), ("chain", .text "c"), ("synthetic", .text "NO"),
      ("operationalState", .text "ACTIVE")])]

/-- As many representations as a state may hold, every one inconsistent. -/
def crowdedState : Plain := .object [("version", .number (.integer 2)), ("stateId", .text "s"),
  ("representations", .array ((List.range MAX_STATE_REPRESENTATIONS).map crowdedEntry))]

def crowdedRequest : Plain := .object [("mandate", buyerMandate), ("authorization", unsignedEnvelope),
  ("candidate", sellerCandidate), ("trustedState", crowdedState),
  ("clock", .object [("nowUnixSeconds", .bigint 0)]), ("expectedDomain", sampleDomain)]

variable {c : Char}

theorem digit_char (digit : c.isDigit = true) :
    identifierChar c = true ∧ identifierSeparator c = false ∧ c ≠ '/' := by
  have all : ∀ value < 58, 48 ≤ value → identifierChar (Char.ofNat value) = true ∧
      identifierSeparator (Char.ofNat value) = false ∧ Char.ofNat value ≠ '/' := by decide
  simp only [Char.isDigit, Bool.and_eq_true, decide_eq_true_eq] at digit
  have zero : '0'.toNat = 48 := by decide
  have nine : '9'.toNat = 57 := by decide
  have low : '0'.toNat ≤ c.toNat := digit.1
  have high : c.toNat ≤ '9'.toNat := digit.2
  have here := all c.toNat (by omega) (by omega)
  rwa [Char.ofNat_toNat] at here

variable {i : Nat}

theorem crowded_digit (member : c ∈ Nat.toDigits 10 i) :
    identifierChar c = true ∧ identifierSeparator c = false ∧ c ≠ '/' :=
  digit_char (Nat.isDigit_of_mem_toDigits (by decide) (by decide) member)

theorem crowded_text (i : Nat) : ("r" ++ Nat.repr i).toList = 'r' :: Nat.toDigits 10 i := by
  rw [String.toList_append, Nat.toList_repr]
  rfl

theorem crowded_valid (small : i < 65535) : identifierText ("r" ++ Nat.repr i) = true := by
  have short : (Nat.toDigits 10 i).length ≤ 5 :=
    (Nat.length_toDigits_le_iff (by decide) (by decide)).mpr (by omega)
  obtain ⟨last, ends⟩ : ∃ last, (Nat.toDigits 10 i).getLast? = some last :=
    ⟨_, getLast?_eq_some_getLast Nat.toDigits_ne_nil⟩
  have closing : ('r' :: Nat.toDigits 10 i).getLast? = some last := by
    rw [getLast?_cons, ends]
    rfl
  have letters : ('r' :: Nat.toDigits 10 i).all identifierChar = true := by
    rw [all_cons, Bool.and_eq_true, all_eq_true]
    exact ⟨by decide, fun c member => (crowded_digit member).1⟩
  have final := (crowded_digit (mem_of_getLast? ends)).2.1
  have first : identifierSeparator 'r' = false := by decide
  have fits : ('r' :: Nat.toDigits 10 i).length ≤ IDENTIFIER_MAX_LENGTH := by
    simp only [length_cons, IDENTIFIER_MAX_LENGTH]
    omega
  rw [identifierText, crowded_text, letters, closing, head?_cons, decide_eq_true fits]
  simp only [first, final, Bool.not_false, Bool.and_self]

theorem crowded_inj {j : Nat} (same : "r" ++ Nat.repr i = "r" ++ Nat.repr j) : i = j := by
  have texts := congrArg String.toList same
  rw [crowded_text, crowded_text] at texts
  have digits := congrArg (fun cs => Nat.ofDigitChars 10 cs 0) (List.cons.inj texts).2
  simpa only [Nat.ofDigitChars_ten_toDigits] using digits

theorem crowded_chain (small : i < 65535) :
    chainSegmentOf ⟨"r" ++ Nat.repr i, crowded_valid small⟩ = none := by
  have whole : ∀ c ∈ 'r' :: Nat.toDigits 10 i, decide (c ≠ '/') = true := by
    intro c member
    rcases mem_cons.mp member with rfl | digit
    · decide
    · exact decide_eq_true (crowded_digit digit).2.2
  have none_ : ('r' :: Nat.toDigits 10 i).dropWhile (fun c => decide (c ≠ '/')) = [] := by
    rw [dropWhile_eq_nil_iff]
    exact whole
  rw [chainSegmentOf, crowded_text, none_]

theorem verified_admissible : TrustClass.verified ∈ ADMISSIBLE_TRUST := by decide

private def crowdedRepresentation (i : Nat) (small : i < 65535) : Observed RepresentationState where
  provenance := ⟨⟨.verified, verified_admissible⟩, ⟨"feed", .refl true⟩, ⟨0, seconds_zero⟩⟩
  value := ⟨⟨"r" ++ Nat.repr i, crowded_valid small⟩, ⟨⟨"EQUITY", .refl true⟩, ⟨"ISIN", .refl true⟩,
    ⟨"A1", .refl true⟩⟩, ⟨"i", .refl true⟩, ⟨"c", .refl true⟩, none, .no, .active⟩

theorem observed_ok {α : Type} {parse : Plain → KernelResult α} {p v : Plain} {provenance : Provenance}
    {value : α} (first : parseProvenance p = .ok provenance) (second : parse v = .ok value) :
    parseObserved parse (.object [("provenance", p), ("value", v)]) = .ok ⟨provenance, value⟩ := by
  have one : field [("provenance", p), ("value", v)] "provenance" = p := rfl
  have two : field [("provenance", p), ("value", v)] "value" = v := rfl
  simp only [parseObserved, fieldsOf, bind, Except.bind, one, first, two, second]

theorem crowded_entry (small : i < 65535) :
    parseObserved parseRepresentationState (crowdedEntry i) = .ok (crowdedRepresentation i small) := by
  have id : parseIdentifier (.text ("r" ++ Nat.repr i)) = .ok ⟨_, crowded_valid small⟩ :=
    parseIdentifier_ok.mpr rfl
  have value : parseRepresentationState (.object [("representationId", .text ("r" ++ Nat.repr i)),
      ("canonicalAsset", sampleAsset), ("issuer", .text "i"), ("chain", .text "c"), ("synthetic", .text "NO"),
      ("operationalState", .text "ACTIVE")]) = .ok (crowdedRepresentation i small).value := by
    unfold parseRepresentationState
    change (asStateError (parseIdentifier (.text ("r" ++ Nat.repr i))) >>= _) = _
    rw [id]
    rfl
  exact observed_ok rfl value

theorem crowded_entries (count start : Nat) (small : start + count ≤ 65535) :
    ∃ parsed, parseEach (parseObserved parseRepresentationState) ((List.range' start count).map crowdedEntry) =
      .ok parsed ∧ parsed.1.map (fun o => o.value.representationId.1) =
        (List.range' start count).map (fun i => "r" ++ Nat.repr i) ∧
      ∀ o ∈ parsed.1, chainSegmentOf o.value.representationId ≠ some o.value.chain.1 := by
  induction count generalizing start with
  | zero => exact ⟨⟨[], rfl⟩, rfl, rfl, fun o member => absurd member not_mem_nil⟩
  | succ count ih =>
    obtain ⟨rest, parsed, ids, inconsistent⟩ := ih (start + 1) (by omega)
    have inside : start < 65535 := by omega
    have first := crowded_entry inside
    have whole : ∃ out, parseEach (parseObserved parseRepresentationState)
        (crowdedEntry start :: (List.range' (start + 1) count).map crowdedEntry) = .ok out ∧
        out.1 = crowdedRepresentation start inside :: rest.1 := by
      simp only [parseEach, first, parsed, bind, Except.bind]
      exact ⟨_, rfl, rfl⟩
    obtain ⟨out, read, same⟩ := whole
    refine ⟨out, read, ?_, ?_⟩
    · rw [same, map_cons, ids]
      rfl
    · intro o member
      rw [same] at member
      rcases mem_cons.mp member with rfl | later
      · rw [show chainSegmentOf (crowdedRepresentation start inside).value.representationId = none from
          crowded_chain inside]
        exact (Option.some_ne_none _).symm
      · exact inconsistent o later

theorem state_ok {entries : List Plain} {reps : {reps : List (Observed RepresentationState) //
      reps.length = entries.length}}
    (parsed : parseEach (parseObserved parseRepresentationState) entries = .ok reps)
    (fits : entries.length ≤ MAX_STATE_REPRESENTATIONS) (distinct : (reps.1.map representationId).Nodup) :
    ∃ s, parseTrustedState (.object [("version", .number (.integer 2)), ("stateId", .text "s"),
      ("representations", .array entries)]) = .ok s ∧ s.representations = reps.1 := by
  refine ⟨⟨2, ⟨"s", by decide⟩, none, reps.1, none, none, none, rfl, reps.2.le.trans fits, distinct⟩, ?_, rfl⟩
  have version : parseVersion STATE_SCHEMA_VERSION .malformedTrustedState .malformedTrustedState
      (.number (.integer 2)) = .ok ⟨2, rfl⟩ := rfl
  have stateId : asStateError (parseIdentifier (.text "s")) = .ok ⟨"s", by decide⟩ := rfl
  simp +decide only [parseTrustedState, fieldsOf, bind, Except.bind, field_cons, field_nil, if_true, if_false, version, stateId, optional,
    parseEntries, dif_pos fits, parsed, dif_pos distinct]

theorem crowded_state : ∃ s, parseTrustedState crowdedState = .ok s ∧
    (inconsistentRepresentations s).length = 65535 := by
  obtain ⟨reps, parsed, ids, inconsistent⟩ := crowded_entries 65535 0 le_rfl
  have sized : reps.1.length = 65535 := by rw [reps.2, length_map, length_range']
  have texts : ((reps.1.map representationId).map fun id : Identifier => id.1).Nodup := by
    rw [map_map]
    refine ids.symm ▸ (nodup_range' ..).map ?_
    intro i j same
    exact crowded_inj same
  have fits : ((List.range' 0 65535).map crowdedEntry).length ≤ MAX_STATE_REPRESENTATIONS := by
    rw [length_map, length_range', MAX_STATE_REPRESENTATIONS]
  obtain ⟨s, read, same⟩ := state_ok parsed fits (texts.of_map _)
  refine ⟨s, ?_, ?_⟩
  · rw [crowdedState, MAX_STATE_REPRESENTATIONS, range_eq_range']
    exact read
  · rw [inconsistentRepresentations, same, filter_eq_self.mpr, sized]
    intro o member
    exact decide_eq_true (inconsistent o member)

theorem parsed_of {α : Type} {result : KernelResult α} {p : α → Bool}
    (found : result.toOption.any p = true) : ∃ value, result = .ok value ∧ p value = true := by
  cases result with
  | error code => cases found
  | ok value => exact ⟨value, rfl, found⟩

theorem crowded_judged : ∃ ctx, @Judged platformKeccak crowdedRequest ctx ∧
    (inconsistentRepresentations ctx.state).length = 65535 ∧ ctx.mandate.side = .buy ∧
    ctx.candidate.side = .sell := by
  obtain ⟨s, state, crowded⟩ := crowded_state
  obtain ⟨m, mandate, buys⟩ := parsed_of
    (by decide +kernel : (parseMandate buyerMandate).toOption.any (fun m => decide (m.side = .buy)) = true)
  obtain ⟨c, candidate, sells⟩ := parsed_of
    (by decide +kernel : (parseCandidate sellerCandidate).toOption.any (fun c => decide (c.side = .sell)) = true)
  obtain ⟨d, domain, _⟩ := parsed_of (by decide +kernel : (parseEip712Domain sampleDomain).toOption.any (fun _ => true) = true)
  obtain ⟨a, authorization, _⟩ := parsed_of
    (by decide +kernel : (parseAuthorizationEnvelope unsignedEnvelope).toOption.any (fun _ => true) = true)
  obtain ⟨now, clock, _⟩ := parsed_of
    (by decide +kernel : (parseClock (.object [("nowUnixSeconds", .bigint 0)])).toOption.any (fun _ => true) = true)
  refine ⟨⟨m, a, c, s, now, d, @Kernel.mandateDigest platformKeccak m, @Kernel.trustedStateDigest platformKeccak s⟩,
    @Judged.mk platformKeccak _ _ ?_ ?_ ?_ ?_ ?_ ?_ rfl rfl ?_, crowded, of_decide_eq_true buys, of_decide_eq_true sells⟩
  all_goals simp +decide only [crowdedRequest, requestFields, field_cons, field_nil, if_true, if_false, mandate,
    candidate, domain, authorization, clock, state]

@[reducible] def emptyCurve : Secp256k1 where
  recoverPublicKey _ _ _ _ := none

end Crowded

end Plain

end Mandate.Kernel
