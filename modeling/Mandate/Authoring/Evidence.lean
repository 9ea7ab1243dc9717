import Mandate.Authoring.Approvals

/-! Runs of one session: what each accepted submission of a challenge leads to, and which evidence is kept. -/
set_option linter.dupNamespace false
namespace Mandate.Authoring
open Core Lib.Text Lib.Wire Lib.Machine List
open Kernel (Secp256k1 word)
open Option (some.inj map_eq_some_iff)
open Function (update_self update_of_ne)

section Session
variable {Draft : Type} [Keccak] [Secp256k1] {e : SessionEnv Draft}

namespace LiveSession
variable (e) (s : LiveSession Draft)

/-- The challenge a submission consumes, and the authorization it commits under. -/
def accepted (draft : Draft) (id : Digest32) (signature : String) (wallNow : Int) :
    Option (WalletChallenge Draft × PrincipalAuthorization) :=
  match s.checked e draft id signature wallNow with
  | .approved c rebuilt normalized => some (c, approvalAuthorization e c rebuilt normalized)
  | .spine c plan normalized => some (c, spineAuthorization e c plan normalized)
  | _ => none

def bad (draft : Draft) (id : Digest32) (signature : String) (wallNow : Int) : Bool :=
  match s.checked e draft id signature wallNow with
  | .failed _ => true
  | _ => false

end LiveSession

def WalletChallenge.rebuilt (e : SessionEnv Draft) (c : WalletChallenge Draft) (message : ApprovalMessage) : ApprovalMessage :=
  approvalMessage c.prepared.mandate c.prepared.version message.principal e.protocolSigner message.validAfter
    e.sessionId c.id

/-- The signature is the challenged wallet's, of what the challenge asked it to sign, and `authorization` says so. -/
def WalletChallenge.Signed (e : SessionEnv Draft) (c : WalletChallenge Draft) (signature : String)
    (authorization : PrincipalAuthorization) : Prop :=
  (∃ message hash normalized, c.spine = .v1 ∧ c.message = some message ∧
    approvalHash (c.rebuilt e message) = some hash ∧
    recoverAddress hash signature = some (message.principal, normalized) ∧
    authorization = LiveSession.approvalAuthorization e c (c.rebuilt e message) normalized) ∨
  ∃ plan hash normalized, c.spine = .v2 ∧ c.initialAllocationDigest = some plan ∧
    e.portfolioMandateAuthorizationV2Hash c.prepared.mandate (sessionDigest e.sessionId) plan = some hash ∧
    recoverAddress hash signature = some (c.prepared.mandate.principal, normalized) ∧
    authorization = LiveSession.spineAuthorization e c plan normalized

structure WalletChallenge.Passes (e : SessionEnv Draft) (s : LiveSession Draft) (draft : Draft) (id : Digest32)
    (signature : String) (wallNow : Int) (authorization : PrincipalAuthorization) (c : WalletChallenge Draft) : Prop where
  found : s.challenges id = some c
  own : c.sessionId = e.sessionId
  unused : c.consumed = false
  unlocked : c.failures < MAX_SIGNATURE_FAILURES
  alive : c.issuedAt ≤ wallNow ∧ wallNow < c.deadline
  next : c.prepared.version = s.core.versions.nextVersion
  same : e.draftKey draft = c.draftKey
  signed : c.Signed e signature authorization

section Submission
variable {s : LiveSession Draft} {draft : Draft} {id : Digest32} {signature : String} {wallNow : Int}

theorem checked_reached {judged : Checked Draft} (is : s.checked e draft id signature wallNow = judged)
    (reached : ∀ code, judged ≠ .refused code) :
    ∃ c, s.challenges id = some c ∧ c.sessionId = e.sessionId ∧ c.consumed = false ∧
      c.failures < MAX_SIGNATURE_FAILURES ∧ (c.issuedAt ≤ wallNow ∧ wallNow < c.deadline) ∧
      c.prepared.version = s.core.versions.nextVersion ∧ e.draftKey draft = c.draftKey ∧
      (c.spine = .v2 ∧ LiveSession.checkSpine e c signature = judged ∨
        c.spine = .v1 ∧ ∃ message, c.message = some message ∧
          judged = match checkApproval (c.rebuilt e message) signature with
            | none => .threw
            | some (.error code) => .failed code
            | some (.ok normalized) => .approved c (c.rebuilt e message) normalized) := by
  unfold LiveSession.checked at is
  cases found : s.challenges id with
  | none =>
    rw [found] at is
    exact absurd is.symm (reached _)
  | some c =>
    rw [found] at is
    dsimp only at is
    split at is
    · exact absurd is.symm (reached _)
    next own =>
      split at is
      · exact absurd is.symm (reached _)
      next unused =>
        split at is
        · exact absurd is.symm (reached _)
        next unlocked =>
          split at is
          · exact absurd is.symm (reached _)
          next alive =>
            split at is
            · exact absurd is.symm (reached _)
            next next_ =>
              split at is
              · exact absurd is.symm (reached _)
              next same =>
                refine ⟨c, rfl, not_not.mp own, Bool.eq_false_iff.mpr unused, Nat.lt_of_not_le unlocked,
                  by omega, not_not.mp next_, not_not.mp same, ?_⟩
                cases spine : c.spine with
                | v2 =>
                  rw [spine] at is
                  exact .inl ⟨rfl, is⟩
                | v1 =>
                  rw [spine] at is
                  dsimp only at is
                  cases asked : c.message with
                  | none =>
                    rw [asked] at is
                    exact absurd is.symm (reached _)
                  | some message =>
                    rw [asked] at is
                    exact .inr ⟨rfl, message, rfl, is.symm⟩

variable {c : WalletChallenge Draft} {normalized : String}

theorem checkSpine_spine {d : WalletChallenge Draft} {plan : Digest32}
    (is : LiveSession.checkSpine e c signature = .spine d plan normalized) :
    d = c ∧ c.initialAllocationDigest = some plan ∧ ∃ hash,
      e.portfolioMandateAuthorizationV2Hash c.prepared.mandate (sessionDigest e.sessionId) plan = some hash ∧
      recoverAddress hash signature = some (c.prepared.mandate.principal, normalized) := by
  unfold LiveSession.checkSpine at is
  cases committed : c.initialAllocationDigest with
  | none => rw [committed] at is; cases is
  | some known =>
    rw [committed] at is
    dsimp only at is
    cases hashed : e.portfolioMandateAuthorizationV2Hash c.prepared.mandate (sessionDigest e.sessionId) known with
    | none => rw [hashed] at is; cases is
    | some hash =>
      rw [hashed] at is
      dsimp only at is
      cases recovered : recoverAddress hash signature with
      | none => rw [recovered] at is; cases is
      | some pair =>
        obtain ⟨address, normal⟩ := pair
        rw [recovered] at is
        dsimp only at is
        split at is
        · cases is
        next principal =>
          obtain ⟨rfl, rfl, rfl⟩ := Checked.spine.inj is
          exact ⟨rfl, rfl, hash, hashed, by rw [recovered, not_not.mp principal]⟩

theorem checkSpine_approved {d : WalletChallenge Draft} {rebuilt : ApprovalMessage} :
    LiveSession.checkSpine e c signature ≠ .approved d rebuilt normalized := by
  intro is
  unfold LiveSession.checkSpine at is
  split at is
  · cases is
  · split at is
    · cases is
    · split at is
      · cases is
      · split at is <;> cases is

theorem checked_approved {rebuilt : ApprovalMessage}
    (is : s.checked e draft id signature wallNow = .approved c rebuilt normalized) :
    c.Passes e s draft id signature wallNow (LiveSession.approvalAuthorization e c rebuilt normalized) ∧
      checkApproval rebuilt signature = some (.ok normalized) ∧
      ∃ message, c.message = some message ∧ rebuilt = c.rebuilt e message := by
  obtain ⟨d, found, own, unused, unlocked, alive, next_, same, ⟨_, spine⟩ | ⟨spine, message, asked, judged⟩⟩ :=
    checked_reached is nofun
  · exact absurd spine checkSpine_approved
  · cases approved : checkApproval (d.rebuilt e message) signature with
    | none => rw [approved] at judged; cases judged
    | some result =>
      rw [approved] at judged
      cases result with
      | error code => cases judged
      | ok normal =>
        obtain ⟨rfl, rfl, rfl⟩ := Checked.approved.inj judged
        obtain ⟨hash, hashed, recovered⟩ := checkApproval_ok approved
        exact ⟨⟨found, own, unused, unlocked, alive, next_, same,
          .inl ⟨message, hash, _, spine, asked, hashed, recovered, rfl⟩⟩, approved, message, asked, rfl⟩

theorem checked_approves {c : WalletChallenge Draft} {message : ApprovalMessage} {normalized : String}
    (found : s.challenges id = some c) (own : c.sessionId = e.sessionId) (unused : c.consumed = false)
    (unlocked : c.failures < MAX_SIGNATURE_FAILURES) (alive : c.issuedAt ≤ wallNow ∧ wallNow < c.deadline)
    (next : c.prepared.version = s.core.versions.nextVersion) (same : e.draftKey draft = c.draftKey)
    (spine : c.spine = .v1) (asked : c.message = some message)
    (approved : checkApproval (c.rebuilt e message) signature = some (.ok normalized)) :
    s.checked e draft id signature wallNow = .approved c (c.rebuilt e message) normalized := by
  unfold WalletChallenge.rebuilt at *
  unfold LiveSession.checked
  rw [found]
  dsimp only
  rw [if_neg (not_not.mpr own), if_neg (by rw [unused]; exact Bool.false_ne_true), if_neg (Nat.not_le_of_lt unlocked),
    if_neg (by omega), if_neg (not_not.mpr next), if_neg (not_not.mpr same), spine, asked]
  dsimp only
  rw [approved]

theorem checked_spine {plan : Digest32}
    (is : s.checked e draft id signature wallNow = .spine c plan normalized) :
    c.Passes e s draft id signature wallNow (LiveSession.spineAuthorization e c plan normalized) := by
  obtain ⟨d, found, own, unused, unlocked, alive, next_, same, ⟨spine, here⟩ | ⟨_, message, _, judged⟩⟩ :=
    checked_reached is nofun
  · obtain ⟨rfl, committed, hash, hashed, recovered⟩ := checkSpine_spine here
    exact ⟨found, own, unused, unlocked, alive, next_, same,
      .inr ⟨plan, hash, normalized, spine, committed, hashed, recovered, rfl⟩⟩
  · split at judged <;> cases judged

theorem accepted_passes {authorization : PrincipalAuthorization}
    (is : s.accepted e draft id signature wallNow = some (c, authorization)) :
    c.Passes e s draft id signature wallNow authorization := by
  unfold LiveSession.accepted at is
  cases judged : s.checked e draft id signature wallNow with
  | refused code => rw [judged] at is; cases is
  | threw => rw [judged] at is; cases is
  | failed code => rw [judged] at is; cases is
  | approved d rebuilt normalized =>
    rw [judged] at is
    obtain ⟨rfl, rfl⟩ := Prod.mk.inj (some.inj is)
    exact (checked_approved judged).1
  | spine d plan normalized =>
    rw [judged] at is
    obtain ⟨rfl, rfl⟩ := Prod.mk.inj (some.inj is)
    exact checked_spine judged

theorem authorizeWithWallet_core (s : LiveSession Draft) (call : Nat) (draft : Draft) (id : Digest32) (signature : String)
    (wallNow protocolNow : Int) : ∃ stage,
    (s.authorizeWithWallet e call draft id signature wallNow protocolNow).core.calls =
      Function.update s.core.calls call stage ∧
    (s.authorizeWithWallet e call draft id signature wallNow protocolNow).core.versions.entries =
      s.core.versions.entries ∧ ((∃ code, stage = .returned (.error code)) ∨ stage = .threw none ∨
      ∃ c authorization k, s.accepted e draft id signature wallNow = some (c, authorization) ∧
        committing stage = some k ∧ k.prepared = c.prepared ∧ k.authorization = authorization) := by
  have starts (c : WalletChallenge Draft) (authorization : PrincipalAuthorization) (supplied : Option String)
      (is : s.accepted e draft id signature wallNow = some (c, authorization)) : ∃ stage,
      (s.core.start call (s.core.versions.commit e.toVersionsEnv c.prepared authorization protocolNow supplied)).calls =
        Function.update s.core.calls call stage ∧
      (s.core.start call (s.core.versions.commit e.toVersionsEnv c.prepared authorization protocolNow
        supplied)).versions.entries = s.core.versions.entries ∧
      ((∃ code, stage = .returned (.error code)) ∨ stage = .threw none ∨
        ∃ c authorization k, s.accepted e draft id signature wallNow = some (c, authorization) ∧
          committing stage = some k ∧ k.prepared = c.prepared ∧ k.authorization = authorization) := by
    cases committed : s.core.versions.commit e.toVersionsEnv c.prepared authorization protocolNow supplied with
    | error code => exact ⟨_, rfl, rfl, .inl ⟨code, rfl⟩⟩
    | ok made =>
      obtain ⟨k, versions⟩ := made
      obtain ⟨_, _, _, _, _, prepared, same, _, rfl⟩ := MandateVersions.commit_ok committed
      refine ⟨_, rfl, rfl, .inr (.inr ⟨c, authorization, k, is, ?_, prepared, same⟩)⟩
      cases k.previous <;> rfl
  unfold LiveSession.authorizeWithWallet
  unfold LiveSession.accepted at starts ⊢
  cases judged : s.checked e draft id signature wallNow with
  | refused code => exact ⟨_, rfl, rfl, .inl ⟨code, rfl⟩⟩
  | threw => exact ⟨_, rfl, rfl, .inr (.inl rfl)⟩
  | failed code => exact ⟨_, rfl, rfl, .inl ⟨code, rfl⟩⟩
  | approved c rebuilt normalized =>
    rw [judged] at starts
    exact starts c _ none rfl
  | spine c plan normalized =>
    rw [judged] at starts
    exact starts c _ (some normalized) rfl

theorem authorizeWithWallet_stepped {call : Nat} (idle : s.core.calls call = .idle) (draft : Draft)
    (id : Digest32) (signature : String) (wallNow protocolNow : Int) : ∃ label, ¬VersionsLabel.passes label ∧
    Stepped s.core label (s.authorizeWithWallet e call draft id signature wallNow protocolNow).core := by
  have starts (prepared : PreparedVersion Draft) (authorization : PrincipalAuthorization) (supplied : Option String) :
      ∃ label, ¬VersionsLabel.passes label ∧ Stepped s.core label
        (s.core.start call (s.core.versions.commit e.toVersionsEnv prepared authorization protocolNow supplied)) := by
    have taken : VersionsSystem.Steps e.toVersionsEnv s.core (.commit call prepared authorization protocolNow supplied)
        (s.core.start call (s.core.versions.commit e.toVersionsEnv prepared authorization protocolNow supplied)) := by
      unfold VersionsSystem.Steps VersionsSystem.step
      simp only [idle]
    exact ⟨.commit call prepared authorization protocolNow supplied, not_false, taken.stepped⟩
  unfold LiveSession.authorizeWithWallet
  split
  · exact ⟨.resume call, not_false, .refuses idle (.inl ⟨_, rfl⟩)⟩
  · exact ⟨.resume call, not_false, .refuses idle (.inr rfl)⟩
  · exact ⟨.resume call, not_false, .refuses idle (.inl ⟨_, rfl⟩)⟩
  · exact starts _ _ none
  · exact starts _ _ (some _)

omit [Keccak] [Secp256k1] in
theorem ChallengeBook.change_get (book : ChallengeBook Draft) (f : WalletChallenge Draft → WalletChallenge Draft)
    (other : Digest32) : book.change id f other = (book other).map fun c => if id = other then f c else c := by
  unfold ChallengeBook.change
  by_cases same : id = other
  · subst same
    cases found : book id with
    | none => simp [found]
    | some c => simp
  · cases found : book id with
    | none => simp [same]
    | some c => simp [same, update_of_ne (Ne.symm same)]

theorem authorizeWithWallet_challenge (s : LiveSession Draft) (call : Nat) (draft : Draft) (id : Digest32)
    (signature : String) (wallNow protocolNow : Int) (other : Digest32) :
    (s.authorizeWithWallet e call draft id signature wallNow protocolNow).challenges other =
      (s.challenges other).map fun c => { c with
        failures := c.failures + if id = other ∧ s.bad e draft id signature wallNow = true then 1 else 0
        consumed := c.consumed || (id = other ∧ (s.accepted e draft id signature wallNow).isSome) } := by
  unfold LiveSession.authorizeWithWallet LiveSession.accepted LiveSession.bad
  cases s.checked e draft id signature wallNow <;>
    simp only [ChallengeBook.consume, ChallengeBook.failed, ChallengeBook.change_get] <;>
    cases s.challenges other <;> by_cases same : id = other <;> simp [same]

theorem bad_found (bad : s.bad e draft id signature wallNow = true) : ∃ c, s.challenges id = some c := by
  unfold LiveSession.bad at bad
  cases judged : s.checked e draft id signature wallNow with
  | failed code =>
    obtain ⟨c, found, _⟩ := checked_reached judged nofun
    exact ⟨c, found⟩
  | _ => rw [judged] at bad; cases bad

theorem authorizeWithWallet_approvals (s : LiveSession Draft) (call : Nat) (draft : Draft) (id : Digest32)
    (signature : String) (wallNow protocolNow : Int) :
    (s.authorizeWithWallet e call draft id signature wallNow protocolNow).approvals = s.approvals ∧
      (∀ c rebuilt normalized, s.checked e draft id signature wallNow ≠ .approved c rebuilt normalized) ∨
    ∃ c rebuilt normalized, s.checked e draft id signature wallNow = .approved c rebuilt normalized ∧
      (s.authorizeWithWallet e call draft id signature wallNow protocolNow).approvals =
        Function.update s.approvals c.prepared.version (some (rebuilt, normalized)) := by
  unfold LiveSession.authorizeWithWallet
  cases s.checked e draft id signature wallNow with
  | approved c rebuilt normalized => exact .inr ⟨c, rebuilt, normalized, rfl, rfl⟩
  | refused | threw | failed | spine => exact .inl ⟨rfl, fun _ _ _ is => by cases is⟩

end Submission

section Books
variable (e) (log : List (LiveSession Draft × SessionLabel Draft))

/-- How many submissions of a challenge carried a signature that was not its wallet's. -/
def badSignatures (id : Digest32) : Nat :=
  log.countP fun (was, label) => match label with
    | .authorizeWithWallet _ draft other signature wallNow _ => other = id && was.bad e draft other signature wallNow
    | _ => false

/-- The challenge was issued to this wallet, for the draft and the version that were prepared then. -/
structure WalletChallenge.Issued (wallet : String) (c : WalletChallenge Draft) : Prop where
  own : c.sessionId = e.sessionId
  deadline : c.deadline = c.issuedAt + CHALLENGE_LIFETIME_SECONDS
  request : ∃ was draft drafted address protocolNow, wallet = address.toLower ∧ c.draftKey = e.draftKey draft ∧
    was.core.versions.prepare draft drafted protocolNow = .ok c.prepared ∧
    ((was, .walletChallenge draft drafted address c.id c.issuedAt protocolNow) ∈ log ∧ c.spine = .v1 ∧
        c.message = some (approvalMessage c.prepared.mandate c.prepared.version wallet e.protocolSigner c.issuedAt
          e.sessionId c.id) ∨
      ∃ plan, (was, .spineChallenge draft drafted address false (some plan) c.id c.issuedAt protocolNow) ∈ log ∧
        c.spine = .v2 ∧ c.initialAllocationDigest = some plan ∧ c.prepared.mandate.principal = wallet)

/-- A call that submitted a challenge and was let through its checks. -/
def Submitted (call : Nat) (id : Digest32) (c : WalletChallenge Draft) (authorization : PrincipalAuthorization) : Prop :=
  ∃ was draft signature wallNow protocolNow,
    (was, .authorizeWithWallet call draft id signature wallNow protocolNow) ∈ log ∧
    was.accepted e draft id signature wallNow = some (c, authorization)

def Leads (call : Nat) (i : Nat) (entry : Entry Draft) (calls : Nat → Stage Draft) : Prop :=
  ∃ id c, Submitted e log call id c entry.record.authorization ∧ calls call = .returned (.ok (i + 1)) ∧
    c.prepared.version = i + 1 ∧ entry.active.mandate = c.prepared.mandate ∧ entry.active.draft = c.prepared.draft ∧
    entry.record.digest = c.prepared.mandate.portfolioMandateDigest

/-- What a session's challenges and versions owe to the submissions made so far. -/
structure Books (s : LiveSession Draft) : Prop where
  sound : Sound s.core
  named : ∀ {id c}, s.challenges id = some c → c.id = id
  issued : ∀ {id c}, s.challenges id = some c → ∃ wallet, c.Issued e log wallet
  counted : ∀ {id}, badSignatures e log id = ((s.challenges id).map (·.failures)).getD 0
  used : ∀ {call id c authorization}, Submitted e log call id c authorization →
    ∃ now, s.challenges id = some now ∧ now.consumed = true
  once : ∀ {call call' id c c' authorization authorization'}, Submitted e log call id c authorization →
    Submitted e log call' id c' authorization' → call = call'
  begun : ∀ {call k}, committing (s.core.calls call) = some k → k.authorization.method = .demoPrincipalKey ∨
    ∃ id c, Submitted e log call id c k.authorization ∧ k.prepared = c.prepared
  made : ∀ {i entry}, s.core.versions.entries[i]? = some entry →
    entry.record.authorization.method = .demoPrincipalKey ∨ ∃ call, Leads e log call i entry s.core.calls
  ended : ∀ {was call draft id signature wallNow protocolNow},
    (was, .authorizeWithWallet call draft id signature wallNow protocolNow) ∈ log →
    (∃ code, s.core.calls call = .returned (.error code)) ∨ (∃ revoked, s.core.calls call = .threw revoked) ∨
    ∃ c authorization, was.accepted e draft id signature wallNow = some (c, authorization) ∧
      ((∃ k, committing (s.core.calls call) = some k ∧ k.prepared = c.prepared ∧ k.authorization = authorization) ∨
        ∃ i entry, s.core.versions.entries[i]? = some entry ∧ s.core.calls call = .returned (.ok (i + 1)) ∧
          c.prepared.version = i + 1 ∧ entry.record.authorization = authorization ∧
          entry.active.mandate = c.prepared.mandate ∧ entry.active.draft = c.prepared.draft ∧
          entry.record.digest = c.prepared.mandate.portfolioMandateDigest)

variable {e log} {s after : LiveSession Draft} {label : SessionLabel Draft}

def Quiet (label : SessionLabel Draft) : Prop :=
  ∀ call draft id signature wallNow protocolNow, label ≠ .authorizeWithWallet call draft id signature wallNow protocolNow

/-- What one call of a session leaves: a challenge is issued, a wallet's answer is judged, or the versions step. -/
inductive SessionStepped (e : SessionEnv Draft) (s : LiveSession Draft) : SessionLabel Draft → LiveSession Draft → Prop
  | same {label : SessionLabel Draft} (quiet : Quiet label) : SessionStepped e s label s
  | issues {label : SessionLabel Draft} {c w} (quiet : Quiet label) (zero : c.failures = 0)
      (issued : ∀ log, (s, label) ∈ log → WalletChallenge.Issued e log w c) :
      SessionStepped e s label { s with challenges := (s.challenges.issue c).getD s.challenges }
  | submits {call draft id signature wallNow protocolNow} (idle : s.core.calls call = .idle) :
      SessionStepped e s (.authorizeWithWallet call draft id signature wallNow protocolNow)
        (s.authorizeWithWallet e call draft id signature wallNow protocolNow)
  | versions {label : VersionsLabel Draft} {core} (demo : ∀ c, Begins label c → c.authorization.method = .demoPrincipalKey)
      (taken : Stepped s.core label core) : SessionStepped e s (.versions label) { s with core }

theorem LiveSession.Steps.stepped (taken : LiveSession.Steps e s label after) : SessionStepped e s label after := by
  unfold LiveSession.Steps LiveSession.step at taken
  cases label with
  | walletChallenge draft drafted address id wallNow protocolNow =>
    obtain rfl := some.inj taken
    unfold LiveSession.walletChallenge
    split
    · exact .same nofun
    · split
      · exact .same nofun
      next prepared is =>
        refine .issues (w := address.toLower) nofun rfl fun log last => ?_
        exact ⟨rfl, rfl, s, draft, drafted, address, protocolNow, rfl, rfl, is, .inl ⟨last, rfl, rfl⟩⟩
  | spineChallenge draft drafted address stale allocation id wallNow protocolNow =>
    obtain rfl := some.inj taken
    unfold LiveSession.spineChallenge
    split
    · exact .same nofun
    · split
      · exact .same nofun
      next prepared is =>
        split
        · exact .same nofun
        next fresh =>
          cases allocation with
          | none => exact .same nofun
          | some plan =>
            dsimp only
            split
            · exact .same nofun
            next principal =>
              obtain rfl := Bool.eq_false_iff.mpr fresh
              refine .issues (w := address.toLower) nofun rfl fun log last => ?_
              exact ⟨rfl, rfl, s, draft, drafted, address, protocolNow, rfl, rfl, is,
                .inr ⟨plan, last, rfl, rfl, not_not.mp principal⟩⟩
  | authorizeWithWallet call draft id signature wallNow protocolNow =>
    dsimp only at taken
    split at taken
    next idle =>
      obtain rfl := some.inj taken
      exact .submits idle
    next => cases taken
  | versions label =>
    have moves (there : (s.core.step e.toVersionsEnv label).map (fun core => { s with core }) = some after)
        (demo : ∀ c, Begins label c → c.authorization.method = .demoPrincipalKey) :
        SessionStepped e s (.versions label) after := by
      obtain ⟨core, took, rfl⟩ := map_eq_some_iff.mp there
      exact .versions demo (VersionsSystem.Steps.stepped took)
    cases label with
    | commit => cases taken
    | authorize => exact moves taken fun c begins => begins
    | pause | ledger | resume | beginReservation | endReservation | markReserved =>
      exact moves taken fun c begins => begins.elim

variable {call : Nat} {id : Digest32} {c : WalletChallenge Draft}

theorem submitted_snoc {authorization : PrincipalAuthorization} :
    Submitted e (log ++ [(s, label)]) call id c authorization ↔ Submitted e log call id c authorization ∨
      ∃ draft signature wallNow protocolNow,
        label = .authorizeWithWallet call draft id signature wallNow protocolNow ∧
        s.accepted e draft id signature wallNow = some (c, authorization) := by
  constructor
  · rintro ⟨was, draft, signature, wallNow, protocolNow, member, accepted⟩
    rcases mem_append.mp member with before | now
    · exact .inl ⟨was, draft, signature, wallNow, protocolNow, before, accepted⟩
    · obtain ⟨rfl, same⟩ := Prod.mk.inj (mem_singleton.mp now)
      exact .inr ⟨draft, signature, wallNow, protocolNow, same.symm, accepted⟩
  · rintro (⟨was, draft, signature, wallNow, protocolNow, before, accepted⟩ | ⟨draft, signature, wallNow, protocolNow, rfl, accepted⟩)
    · exact ⟨was, draft, signature, wallNow, protocolNow, mem_append_left _ before, accepted⟩
    · exact ⟨s, draft, signature, wallNow, protocolNow, mem_append_right _ (mem_singleton.mpr rfl), accepted⟩

theorem submitted_quiet (quiet : Quiet label) {authorization : PrincipalAuthorization} :
    Submitted e (log ++ [(s, label)]) call id c authorization ↔ Submitted e log call id c authorization := by
  rw [submitted_snoc]
  constructor
  · rintro (before | ⟨draft, signature, wallNow, protocolNow, now, _⟩)
    · exact before
    · exact absurd now (quiet _ _ _ _ _ _)
  · exact .inl

theorem badSignatures_quiet (quiet : Quiet label) (id : Digest32) :
    badSignatures e (log ++ [(s, label)]) id = badSignatures e log id := by
  unfold badSignatures
  rw [countP_append, countP_singleton]
  cases label with
  | authorizeWithWallet call draft other signature wallNow protocolNow => exact absurd rfl (quiet _ _ _ _ _ _)
  | _ => rfl

theorem badSignatures_submission (call : Nat) (draft : Draft) (id other : Digest32) (signature : String)
    (wallNow protocolNow : Int) :
    badSignatures e (log ++ [(s, .authorizeWithWallet call draft id signature wallNow protocolNow)]) other =
      badSignatures e log other + if id = other ∧ s.bad e draft id signature wallNow = true then 1 else 0 := by
  unfold badSignatures
  rw [countP_append, countP_singleton]
  simp only [Bool.and_eq_true, decide_eq_true_eq]

omit [Secp256k1] in
theorem WalletChallenge.Issued.snoc {wallet : String} {c : WalletChallenge Draft} (issued : c.Issued e log wallet) :
    c.Issued e (log ++ [(s, label)]) wallet := by
  obtain ⟨own, deadline, was, draft, drafted, address, protocolNow, same, key, prepared, kind⟩ := issued
  refine ⟨own, deadline, was, draft, drafted, address, protocolNow, same, key, prepared, ?_⟩
  rcases kind with ⟨member, rest⟩ | ⟨plan, member, rest⟩
  · exact .inl ⟨mem_append_left _ member, rest⟩
  · exact .inr ⟨plan, mem_append_left _ member, rest⟩

theorem Leads.keeps {i : Nat} {was entry : Entry Draft} (led : Leads e log call i was s.core.calls)
    (same : was.Same entry) (stays : after.core.calls call = s.core.calls call) :
    Leads e (log ++ [(s, label)]) call i entry after.core.calls := by
  obtain ⟨id, c, submitted, returned, version, mandate, draft, digest⟩ := led
  obtain ⟨active, _, digests, authorization⟩ := same
  refine ⟨id, c, ?_, stays.trans returned, version, ?_, ?_, digests.trans digest⟩
  · rw [authorization]
    exact submitted_snoc.mpr (.inl submitted)
  · rw [active]
    exact mandate
  · rw [active]
    exact draft

theorem Books.quiet (books : Books e log s) {b : MandateVersions.Commit Draft → Prop} (quiet : Quiet label)
    (sound : Sound after.core) (progress : Progress b s.core after.core)
    (demo : ∀ k, b k → k.authorization.method = .demoPrincipalKey)
    (kept : ∀ {id c}, s.challenges id = some c → after.challenges id = some c)
    (fresh : ∀ {id c}, after.challenges id = some c → s.challenges id = some c ∨
      s.challenges id = none ∧ c.id = id ∧ c.failures = 0 ∧ ∃ wallet, c.Issued e (log ++ [(s, label)]) wallet) :
    Books e (log ++ [(s, label)]) after := by
  refine ⟨sound, ?_, ?_, ?_, ?_, ?_, ?_, ?_, ?_⟩
  · intro id c found
    rcases fresh found with old | ⟨_, named, _⟩
    · exact books.named old
    · exact named
  · intro id c found
    rcases fresh found with old | ⟨_, _, _, issued⟩
    · obtain ⟨wallet, issued⟩ := books.issued old
      exact ⟨wallet, issued.snoc⟩
    · exact issued
  · intro id
    rw [badSignatures_quiet quiet, books.counted]
    cases found : after.challenges id with
    | none =>
      cases old : s.challenges id with
      | none => rfl
      | some c => rw [kept old] at found; cases found
    | some c =>
      rcases fresh found with old | ⟨none_, _, zero, _⟩
      · rw [old]
      · rw [none_, Option.map_some, zero]
        rfl
  · intro call id c authorization submitted
    obtain ⟨now, found, consumed⟩ := books.used ((submitted_quiet quiet).mp submitted)
    exact ⟨now, kept found, consumed⟩
  · intro call call' id c c' authorization authorization' first second
    exact books.once ((submitted_quiet quiet).mp first) ((submitted_quiet quiet).mp second)
  · intro call k commits
    rcases progress.begun commits with before | ⟨_, begins⟩
    · rcases books.begun before with demo | ⟨id, c, submitted, prepared⟩
      · exact .inl demo
      · exact .inr ⟨id, c, (submitted_quiet quiet).mpr submitted, prepared⟩
    · exact .inl (demo k begins)
  · intro i entry at_
    rcases progress.entries at_ with ⟨was, before, same⟩ |
      ⟨rfl, call, k, commits, returned, mandate, draft, version, digest, authorization⟩
    · rcases books.made before with demo | ⟨call, led⟩
      · exact .inl (by rw [same.2.2.2]; exact demo)
      · have ⟨_, _, _, returned, _⟩ := led
        exact .inr ⟨call, led.keeps same ((progress.returned returned).trans returned.symm)⟩
    · rw [authorization]
      rcases books.begun commits with demo | ⟨id, c, submitted, prepared⟩
      · exact .inl demo
      · have next := (books.sound.next commits).1
        refine .inr ⟨call, id, c, ?_, ?_, ?_, ?_, ?_, ?_⟩
        · rw [authorization]
          exact (submitted_quiet quiet).mpr submitted
        · rw [returned, next]
        · rw [← prepared, next]
        · rw [mandate, prepared]
        · rw [draft, prepared]
        · rw [digest, prepared]
  · intro was call draft id signature wallNow protocolNow member
    have member : (was, .authorizeWithWallet call draft id signature wallNow protocolNow) ∈ log := by
      rcases mem_append.mp member with before | now
      · exact before
      · exact absurd (Prod.mk.inj (mem_singleton.mp now)).2.symm (quiet _ _ _ _ _ _)
    rcases books.ended member with ⟨code, returned⟩ | ⟨revoked, threw⟩ | ⟨c, authorization, accepted, stands⟩
    · exact .inl ⟨code, progress.returned returned⟩
    · exact .inr (.inl ⟨revoked, progress.threw threw⟩)
    · rcases stands with ⟨k, commits, prepared, same⟩ |
        ⟨i, entry, at_, returned, version, authorized, mandate, drafts, digest⟩
      · rcases progress.commits commits with still | ⟨code, returned⟩ | ⟨revoked, threw⟩ |
          ⟨returned, entry, at_, active, draft_, version, digest, authorized⟩
        · exact .inr (.inr ⟨c, authorization, accepted, .inl ⟨k, still, prepared, same⟩⟩)
        · exact .inl ⟨code, returned⟩
        · exact .inr (.inl ⟨revoked, threw⟩)
        · have next := (books.sound.next commits).1
          refine .inr (.inr ⟨c, authorization, accepted, .inr ⟨_, entry, at_, ?_, ?_, authorized.trans same, ?_, ?_, ?_⟩⟩)
          · rw [returned, next]
          · rw [← prepared, next]
          · rw [active, prepared]
          · rw [draft_, prepared]
          · rw [digest, prepared]
      · obtain ⟨now, there, active, _, digests, authorizes⟩ := progress.kept at_
        refine .inr (.inr ⟨c, authorization, accepted, .inr ⟨i, now, there, progress.returned returned, version,
          authorizes.trans authorized, ?_, ?_, digests.trans digest⟩⟩)
        · rw [active]
          exact mandate
        · rw [active]
          exact drafts

theorem Books.submits (books : Books e log s) {draft : Draft} {signature : String}
    {wallNow protocolNow : Int} (idle : s.core.calls call = .idle) :
    Books e (log ++ [(s, .authorizeWithWallet call draft id signature wallNow protocolNow)])
      (s.authorizeWithWallet e call draft id signature wallNow protocolNow) := by
  obtain ⟨stage, calls, entries, stands⟩ :=
    authorizeWithWallet_core (e := e) s call draft id signature wallNow protocolNow
  have challenge := authorizeWithWallet_challenge (e := e) s call draft id signature wallNow protocolNow
  have ⟨_, _, stepped⟩ := authorizeWithWallet_stepped (e := e) idle draft id signature wallNow protocolNow
  have sound := books.sound.stepped stepped
  generalize s.authorizeWithWallet e call draft id signature wallNow protocolNow = after at *
  have other {call' : Nat} (busy : s.core.calls call' ≠ .idle) : after.core.calls call' = s.core.calls call' := by
    rw [calls, update_of_ne]
    rintro rfl
    exact busy idle
  have here : after.core.calls call = stage := by rw [calls, update_self]
  have spent {c : WalletChallenge Draft} {authorization : PrincipalAuthorization}
      (accepted : s.accepted e draft id signature wallNow = some (c, authorization)) {call' : Nat}
      {d : WalletChallenge Draft} {authorization' : PrincipalAuthorization}
      (before : Submitted e log call' id d authorization') : False := by
    obtain ⟨now, found, consumed⟩ := books.used before
    have passes := accepted_passes accepted
    obtain rfl := some.inj (found.symm.trans passes.found)
    rw [passes.unused] at consumed
    cases consumed
  refine ⟨sound, ?_, ?_, ?_, ?_, ?_, ?_, ?_, ?_⟩
  · intro other c found
    rw [challenge] at found
    obtain ⟨was, there, rfl⟩ := map_eq_some_iff.mp found
    show was.id = other
    exact books.named there
  · intro other c found
    rw [challenge] at found
    obtain ⟨was, there, rfl⟩ := map_eq_some_iff.mp found
    obtain ⟨wallet, issued⟩ := books.issued there
    exact ⟨wallet, issued.own, issued.deadline, issued.snoc.request⟩
  · intro other
    rw [badSignatures_submission, books.counted, challenge]
    cases found : s.challenges other with
    | some c => rfl
    | none =>
      rw [if_neg]
      · rfl
      · rintro ⟨rfl, bad⟩
        obtain ⟨c, there⟩ := bad_found bad
        rw [found] at there
        cases there
  · intro call' id' c authorization submitted
    rw [challenge]
    rcases submitted_snoc.mp submitted with before | ⟨_, _, _, _, now, accepted⟩
    · obtain ⟨was, found, consumed⟩ := books.used before
      refine ⟨_, by rw [found]; rfl, ?_⟩
      show (was.consumed || _) = true
      rw [consumed, Bool.true_or]
    · cases now
      refine ⟨_, by rw [(accepted_passes accepted).found]; rfl, ?_⟩
      simp [accepted]
  · intro call' call'' id' c c' authorization authorization' first second
    rcases submitted_snoc.mp first with before | ⟨_, _, _, _, now, accepted⟩
    · rcases submitted_snoc.mp second with before' | ⟨_, _, _, _, now', accepted'⟩
      · exact books.once before before'
      · cases now'
        exact (spent accepted' before).elim
    · cases now
      rcases submitted_snoc.mp second with before' | ⟨_, _, _, _, now', accepted'⟩
      · exact (spent accepted before').elim
      · cases now'
        rfl
  · intro call' k commits
    by_cases same : call' = call
    · subst same
      rw [here] at commits
      rcases stands with ⟨code, rfl⟩ | rfl | ⟨c, authorization, d, accepted, committing_, prepared, authorizes⟩
      · cases commits
      · cases commits
      · obtain rfl := some.inj (committing_.symm.trans commits)
        refine .inr ⟨id, c, submitted_snoc.mpr (.inr ⟨draft, signature, wallNow, protocolNow, rfl, ?_⟩), prepared⟩
        rw [authorizes]
        exact accepted
    · rw [calls, update_of_ne same] at commits
      rcases books.begun commits with demo | ⟨id', c, submitted, prepared⟩
      · exact .inl demo
      · exact .inr ⟨id', c, submitted_snoc.mpr (.inl submitted), prepared⟩
  · intro i entry at_
    rw [entries] at at_
    rcases books.made at_ with demo | ⟨call', led⟩
    · exact .inl demo
    · have ⟨_, _, _, returned, _⟩ := led
      exact .inr ⟨call', led.keeps (.refl entry) (other (by rw [returned]; nofun))⟩
  · intro was call' draft' id' signature' wallNow' protocolNow' member
    rcases mem_append.mp member with before | now
    · rcases books.ended before with ⟨code, returned⟩ | ⟨revoked, threw⟩ | ⟨c, authorization, accepted, stands⟩
      · exact .inl ⟨code, (other (by rw [returned]; nofun)).trans returned⟩
      · exact .inr (.inl ⟨revoked, (other (by rw [threw]; nofun)).trans threw⟩)
      · refine .inr (.inr ⟨c, authorization, accepted, ?_⟩)
        rcases stands with ⟨k, commits, rest⟩ | ⟨i, entry, at_, returned, rest⟩
        · refine .inl ⟨k, ?_, rest⟩
          rw [other]
          · exact commits
          · intro waits
            rw [waits] at commits
            cases commits
        · refine .inr ⟨i, entry, ?_, ?_, rest⟩
          · rw [entries]
            exact at_
          · rw [other (by rw [returned]; nofun)]
            exact returned
    · cases mem_singleton.mp now
      rw [here, entries]
      rcases stands with ⟨code, rfl⟩ | rfl | ⟨c, authorization, k, accepted, rest⟩
      · exact .inl ⟨code, rfl⟩
      · exact .inr (.inl ⟨_, rfl⟩)
      · exact .inr (.inr ⟨c, authorization, accepted, .inl ⟨k, rest⟩⟩)

theorem Books.issues (books : Books e log s) (quiet : Quiet label) {w : String}
    (zero : c.failures = 0) (issued : c.Issued e (log ++ [(s, label)]) w) :
    Books e (log ++ [(s, label)]) { s with challenges := (s.challenges.issue c).getD s.challenges } := by
  refine books.quiet (b := fun _ => False) quiet books.sound (.unmoved rfl rfl) (fun _ => False.elim) ?_ ?_
  · intro id d found
    unfold ChallengeBook.issue
    split
    · exact found
    next free =>
      show Function.update s.challenges c.id (some c) id = some d
      rw [update_of_ne]
      · exact found
      · rintro rfl
        rw [found] at free
        exact free rfl
  · intro id d found
    unfold ChallengeBook.issue at found
    split at found
    · exact .inl found
    next free =>
      change Function.update s.challenges c.id (some c) id = some d at found
      rw [Function.update_apply] at found
      split at found
      next same =>
        obtain rfl := some.inj found
        refine .inr ⟨?_, same.symm, zero, w, issued⟩
        rw [same]
        exact Option.not_isSome_iff_eq_none.mp free
      next => exact .inl found

theorem Books.same (books : Books e log s) (quiet : Quiet label) : Books e (log ++ [(s, label)]) s :=
  books.quiet (b := fun _ => False) quiet books.sound (.unmoved rfl rfl) (fun _ => False.elim) id .inl

theorem Books.step (books : Books e log s) (taken : LiveSession.Steps e s label after) :
    Books e (log ++ [(s, label)]) after := by
  cases taken.stepped with
  | same quiet => exact books.same quiet
  | issues quiet zero issued => exact books.issues quiet zero (issued _ (mem_append_right _ (mem_singleton.mpr rfl)))
  | submits idle => exact books.submits idle
  | versions demo moved =>
    exact books.quiet nofun (books.sound.stepped moved) (.of_step moved) (fun k begins => demo k begins.1) id .inl

theorem books_kept (trace : Trace (LiveSession.Steps e) .new log s) : Books e log s := by
  refine trace.history (Books e) ?_ fun _ books taken => books.step taken
  refine ⟨sound_new, nofun, nofun, rfl, ?_, ?_, nofun, nofun, nofun⟩
  · rintro call id c authorization ⟨_, _, _, _, _, member, _⟩
    cases member
  · rintro call call' id c c' authorization authorization' ⟨_, _, _, _, _, member, _⟩
    cases member

end Books

section Kept

/-- No V1 approval is accepted while a V1 wallet's commit is on its way. -/
def Apart (e : SessionEnv Draft) (s : LiveSession Draft) : SessionLabel Draft → Prop
  | .authorizeWithWallet _ draft id signature wallNow _ =>
    (∃ c rebuilt normalized, s.checked e draft id signature wallNow = .approved c rebuilt normalized) →
      ∀ call k, committing (s.core.calls call) = some k → k.authorization.method ≠ .walletEip712
  | _ => True

/-- The call's V1 approval is the evidence that is kept for the version it commits. -/
def Backs (e : SessionEnv Draft) (log : List (LiveSession Draft × SessionLabel Draft))
    (approvals : Nat → Option (ApprovalMessage × String)) (call : Nat) (prepared : PreparedVersion Draft)
    (authorization : PrincipalAuthorization) : Prop :=
  ∃ was draft id signature wallNow protocolNow c rebuilt normalized,
    (was, .authorizeWithWallet call draft id signature wallNow protocolNow) ∈ log ∧
    was.checked e draft id signature wallNow = .approved c rebuilt normalized ∧ prepared = c.prepared ∧
    authorization = LiveSession.approvalAuthorization e c rebuilt normalized ∧
    approvals prepared.version = some (rebuilt, normalized)

structure Kept (e : SessionEnv Draft) (log : List (LiveSession Draft × SessionLabel Draft)) (s : LiveSession Draft) :
    Prop where
  coming : ∀ {call k}, committing (s.core.calls call) = some k → k.authorization.method = .walletEip712 →
    Backs e log s.approvals call k.prepared k.authorization
  made : ∀ {i entry}, s.core.versions.entries[i]? = some entry →
    entry.record.authorization.method = .walletEip712 →
    ∃ call prepared, Backs e log s.approvals call prepared entry.record.authorization ∧
      s.core.calls call = .returned (.ok (i + 1)) ∧ prepared.version = i + 1 ∧
      entry.record.digest = prepared.mandate.portfolioMandateDigest

variable {log : List (LiveSession Draft × SessionLabel Draft)} {s after : LiveSession Draft} {label : SessionLabel Draft}

theorem Backs.keeps {approvals approvals' : Nat → Option (ApprovalMessage × String)} {call : Nat}
    {prepared : PreparedVersion Draft} {authorization : PrincipalAuthorization}
    (backs : Backs e log approvals call prepared authorization)
    (same : approvals' prepared.version = approvals prepared.version) :
    Backs e (log ++ [(s, label)]) approvals' call prepared authorization := by
  obtain ⟨was, draft, id, signature, wallNow, protocolNow, c, rebuilt, normalized, member, checked, own, authorizes,
    evidence⟩ := backs
  exact ⟨was, draft, id, signature, wallNow, protocolNow, c, rebuilt, normalized, mem_append_left _ member,
    checked, own, authorizes, same.trans evidence⟩

theorem Kept.quiet (kept : Kept e log s) (sound : Sound s.core) {b : MandateVersions.Commit Draft → Prop}
    (progress : Progress b s.core after.core) (demo : ∀ k, b k → k.authorization.method = .demoPrincipalKey)
    (same : after.approvals = s.approvals) : Kept e (log ++ [(s, label)]) after := by
  refine ⟨?_, ?_⟩
  · intro call k commits method
    rcases progress.begun commits with before | ⟨_, begins⟩
    · rw [same]
      exact (kept.coming before method).keeps rfl
    · rw [demo k begins] at method
      cases method
  · intro i entry at_ method
    rw [same]
    rcases progress.entries at_ with ⟨was, before, active, version, digest, authorization⟩ |
      ⟨rfl, call, k, commits, returned, mandate, draft, version, digest, authorization⟩
    · rw [authorization] at method ⊢
      obtain ⟨call, prepared, backs, returned, versions, digests⟩ := kept.made before method
      exact ⟨call, prepared, backs.keeps rfl, progress.returned returned, versions, digest.trans digests⟩
    · rw [authorization] at method ⊢
      have next := (sound.next commits).1
      exact ⟨call, k.prepared, (kept.coming commits method).keeps rfl, by rw [returned, next], next, digest⟩

theorem Kept.submits (kept : Kept e log s) {call : Nat} {draft : Draft} {id : Digest32}
    {signature : String} {wallNow protocolNow : Int} (idle : s.core.calls call = .idle)
    (apart : Apart e s (.authorizeWithWallet call draft id signature wallNow protocolNow)) :
    Kept e (log ++ [(s, .authorizeWithWallet call draft id signature wallNow protocolNow)])
      (s.authorizeWithWallet e call draft id signature wallNow protocolNow) := by
  obtain ⟨stage, calls, entries, stands⟩ :=
    authorizeWithWallet_core (e := e) s call draft id signature wallNow protocolNow
  have approvals := authorizeWithWallet_approvals (e := e) s call draft id signature wallNow protocolNow
  generalize s.authorizeWithWallet e call draft id signature wallNow protocolNow = after at *
  refine ⟨?_, ?_⟩
  · intro call' k commits method
    by_cases here : call' = call
    · subst here
      rw [calls, update_self] at commits
      rcases stands with ⟨code, rfl⟩ | rfl | ⟨c, authorization, d, accepted, committing_, prepared, authorizes⟩
      · cases commits
      · cases commits
      · obtain rfl := some.inj (committing_.symm.trans commits)
        unfold LiveSession.accepted at accepted
        cases judged : s.checked e draft id signature wallNow with
        | refused code => rw [judged] at accepted; cases accepted
        | threw => rw [judged] at accepted; cases accepted
        | failed code => rw [judged] at accepted; cases accepted
        | spine e' plan normalized =>
          rw [judged] at accepted
          obtain ⟨rfl, rfl⟩ := Prod.mk.inj (some.inj accepted)
          rw [authorizes] at method
          cases method
        | approved c' rebuilt normalized =>
          rw [judged] at accepted
          obtain ⟨rfl, rfl⟩ := Prod.mk.inj (some.inj accepted)
          refine ⟨s, draft, id, signature, wallNow, protocolNow, c', rebuilt, normalized,
            mem_append_right _ (mem_singleton.mpr rfl), judged, prepared, authorizes, ?_⟩
          rcases approvals with ⟨_, never⟩ | ⟨c'', rebuilt', normalized', judged', now⟩
          · exact absurd judged (never _ _ _)
          · obtain ⟨rfl, rfl, rfl⟩ := Checked.approved.inj (judged.symm.trans judged')
            rw [now, prepared, update_self]
    · rw [calls, update_of_ne here] at commits
      have backs := kept.coming commits method
      rcases approvals with ⟨same, _⟩ | ⟨c, rebuilt, normalized, judged, now⟩
      · rw [same]
        exact backs.keeps rfl
      · exact absurd method (apart ⟨c, rebuilt, normalized, judged⟩ call' k commits)
  · intro i entry at_ method
    rw [entries] at at_
    obtain ⟨call', prepared, backs, returned, version, digest⟩ := kept.made at_ method
    refine ⟨call', prepared, backs.keeps ?_, ?_, version, digest⟩
    · rcases approvals with ⟨same, _⟩ | ⟨c, rebuilt, normalized, judged, now⟩
      · rw [same]
      · have next := (checked_approved judged).1.next
        have within := (List.getElem?_eq_some_iff.mp at_).1
        rw [now, update_of_ne]
        unfold MandateVersions.nextVersion at next
        omega
    · rw [calls, update_of_ne]
      · exact returned
      · rintro rfl
        rw [idle] at returned
        cases returned

theorem Kept.step (kept : Kept e log s) (sound : Sound s.core) (taken : LiveSession.Steps e s label after)
    (apart : Apart e s label) : Kept e (log ++ [(s, label)]) after := by
  have still {challenges : ChallengeBook Draft} : Kept e (log ++ [(s, label)]) { s with challenges } :=
    kept.quiet (b := fun _ => False) sound (.unmoved rfl rfl) (fun _ => False.elim) rfl
  cases taken.stepped with
  | same => exact still
  | issues => exact still
  | submits idle => exact kept.submits idle apart
  | versions demo moved => exact kept.quiet sound (.of_step moved) (fun k begins => demo k begins.1) rfl

theorem evidence_kept (trace : Trace (LiveSession.Steps e) .new log s) (apart : ∀ step ∈ log, Apart e step.1 step.2) :
    Kept e log s := by
  have kept : (∀ step ∈ log, Apart e step.1 step.2) → Kept e log s ∧ Books e log s := by
    refine trace.history (fun log s => (∀ step ∈ log, Apart e step.1 step.2) → Kept e log s ∧ Books e log s) ?_ ?_
    · exact fun _ => ⟨⟨nofun, nofun⟩, books_kept .nil⟩
    · intro log s label after _ ih taken apart
      obtain ⟨kept, books⟩ := ih fun step member => apart step (mem_append_left _ member)
      have last := apart (s, label) (mem_append_right _ (mem_singleton.mpr rfl))
      exact ⟨kept.step books.sound taken last, books.step taken⟩
  exact (kept apart).1

omit [Keccak] [Secp256k1] in
theorem Sound.found {sys : VersionsSystem Draft} (sound : Sound sys) {i : Nat} {entry : Entry Draft}
    (at_ : sys.versions.entries[i]? = some entry) :
    sys.versions.entries.find? (fun entry => entry.record.version = i + 1) = some entry := by
  obtain ⟨within, here⟩ := List.getElem?_eq_some_iff.mp at_
  rw [find?_eq_some_iff_getElem]
  refine ⟨by simp [(sound.numbered at_).1], i, within, here, fun j before => ?_⟩
  have there := getElem?_eq_getElem (Nat.lt_trans before within)
  simp only [(sound.numbered there).1, Bool.not_eq_true', decide_eq_false_iff_not]
  omega

theorem Kept.verifies (kept : Kept e log s) (sound : Sound s.core) {i : Nat} {entry : Entry Draft}
    (at_ : s.core.versions.entries[i]? = some entry) (method : entry.record.authorization.method = .walletEip712) :
    s.verifyWalletApproval e (i + 1) = .ok entry.record.authorization.principal := by
  obtain ⟨call, prepared, backs, _, version, digest⟩ := kept.made at_ method
  obtain ⟨was, draft, id, signature, wallNow, protocolNow, c, rebuilt, normalized, _, judged, rfl, authorizes,
    evidence⟩ := backs
  obtain ⟨_, approved, message, _, rfl⟩ := checked_approved judged
  rw [version] at evidence
  unfold LiveSession.verifyWalletApproval
  rw [sound.found at_]
  dsimp only
  rw [if_neg (not_not.mpr method), evidence]
  dsimp only
  have bound : ¬((c.rebuilt e message).mandateDigest ≠ entry.record.digest ∨
      (c.rebuilt e message).mandateVersion ≠ i + 1 ∨
      (c.rebuilt e message).principal ≠ entry.record.authorization.principal ∨
      (c.rebuilt e message).sessionDigest ≠ sessionDigest e.sessionId) := by
    rw [digest, authorizes]
    simp only [not_or, not_not]
    exact ⟨rfl, version, rfl, rfl⟩
  rw [if_neg bound, checkApproval_again approved]
  dsimp only
  rw [authorizes]
  exact if_neg (not_not.mpr rfl)

end Kept

section Results
variable (e) (log : List (LiveSession Draft × SessionLabel Draft)) (s : LiveSession Draft)

def WalletChallenge.asked (c : WalletChallenge Draft) : Option Digest32 :=
  match c.spine with
  | .v1 => c.message.bind approvalHash
  | .v2 => c.initialAllocationDigest.bind fun plan =>
      e.portfolioMandateAuthorizationV2Hash c.prepared.mandate (sessionDigest e.sessionId) plan

/-- The challenge that a submission used, and all that had to hold of both. -/
structure Authorizes (earlier : List (LiveSession Draft × SessionLabel Draft)) (draft : Draft) (id : Digest32)
    (signature : String) (wallNow : Int) (c : WalletChallenge Draft) : Prop where
  named : c.id = id
  unused : c.consumed = false
  same : e.draftKey draft = c.draftKey
  alive : c.issuedAt ≤ wallNow ∧ wallNow < c.deadline
  unlocked : badSignatures e earlier id < MAX_SIGNATURE_FAILURES
  wallet : ∃ wallet hash normalized, c.Issued e earlier wallet ∧ c.asked e = some hash ∧
    recoverAddress hash signature = some (wallet, normalized)

structure SingleUse : Prop where
  once : ∀ {was was' call call' draft draft' id signature signature' wallNow wallNow' protocolNow protocolNow'
      version version'}, (was, .authorizeWithWallet call draft id signature wallNow protocolNow) ∈ log →
    (was', .authorizeWithWallet call' draft' id signature' wallNow' protocolNow') ∈ log →
    s.core.calls call = .returned (.ok version) → s.core.calls call' = .returned (.ok version') →
    call = call' ∧ version = version'
  issued : ∀ {earlier was call draft id signature wallNow protocolNow later version},
    log = earlier ++ (was, .authorizeWithWallet call draft id signature wallNow protocolNow) :: later →
    s.core.calls call = .returned (.ok version) →
    ∃ c i entry, Authorizes e earlier draft id signature wallNow c ∧ version = i + 1 ∧ c.prepared.version = i + 1 ∧
      s.core.versions.entries[i]? = some entry ∧ entry.record.version = i + 1 ∧
      entry.record.digest = c.prepared.mandate.portfolioMandateDigest ∧
      entry.active.mandate = c.prepared.mandate ∧ entry.active.draft = c.prepared.draft
  submitted : ∀ {i entry}, s.core.versions.entries[i]? = some entry →
    entry.record.authorization.method ≠ .demoPrincipalKey → ∃ was call draft id signature wallNow protocolNow,
      (was, .authorizeWithWallet call draft id signature wallNow protocolNow) ∈ log ∧
      s.core.calls call = .returned (.ok (i + 1))

/-- Every version approved by a V1 signature verifies, from the message and signature that authorized it. -/
def Verifiable : Prop :=
  ∀ {i : Nat} {entry : Entry Draft}, s.core.versions.entries[i]? = some entry →
    entry.record.authorization.method = .walletEip712 →
    s.verifyWalletApproval e entry.record.version = .ok entry.record.authorization.principal ∧
    ∃ was call draft id signature wallNow protocolNow c rebuilt normalized,
      (was, .authorizeWithWallet call draft id signature wallNow protocolNow) ∈ log ∧
      s.core.calls call = .returned (.ok entry.record.version) ∧
      was.checked e draft id signature wallNow = .approved c rebuilt normalized ∧
      s.approvals entry.record.version = some (rebuilt, normalized)

variable {e log s}

theorem WalletChallenge.Issued.recovers {c : WalletChallenge Draft} {wallet signature : String}
    {authorization : PrincipalAuthorization} (issued : c.Issued e log wallet)
    (signed : c.Signed e signature authorization) :
    ∃ hash normalized, c.asked e = some hash ∧ recoverAddress hash signature = some (wallet, normalized) := by
  obtain ⟨_, _, was, draft, drafted, address, protocolNow, _, _, _, kind⟩ := issued
  rcases signed with ⟨message, hash, normalized, spine, asked, hashed, recovered, _⟩ |
    ⟨plan, hash, normalized, spine, planned, hashed, recovered, _⟩
  · rcases kind with ⟨_, _, issued⟩ | ⟨_, _, other, _⟩
    · obtain rfl := some.inj (asked.symm.trans issued)
      refine ⟨hash, normalized, ?_, recovered⟩
      unfold WalletChallenge.asked
      rw [spine, asked]
      exact hashed
    · rw [spine] at other
      cases other
  · rcases kind with ⟨_, other, _⟩ | ⟨_, _, _, _, principal⟩
    · rw [spine] at other
      cases other
    · refine ⟨hash, normalized, ?_, principal ▸ recovered⟩
      unfold WalletChallenge.asked
      rw [spine, planned]
      exact hashed

theorem used_once (trace : Trace (LiveSession.Steps e) .new log s) : SingleUse e log s := by
  have books := books_kept trace
  have used {was : LiveSession Draft} {call : Nat} {draft : Draft} {id : Digest32} {signature : String}
      {wallNow protocolNow : Int} {version : Nat}
      (member : (was, .authorizeWithWallet call draft id signature wallNow protocolNow) ∈ log)
      (returned : s.core.calls call = .returned (.ok version)) :
      ∃ c authorization, was.accepted e draft id signature wallNow = some (c, authorization) ∧
        ∃ i entry, s.core.versions.entries[i]? = some entry ∧ version = i + 1 ∧ c.prepared.version = i + 1 ∧
          entry.active.mandate = c.prepared.mandate ∧ entry.active.draft = c.prepared.draft ∧
          entry.record.digest = c.prepared.mandate.portfolioMandateDigest := by
    rcases books.ended member with ⟨code, other⟩ | ⟨revoked, other⟩ | ⟨c, authorization, accepted, stands⟩
    · rw [returned] at other
      cases other
    · rw [returned] at other
      cases other
    · rcases stands with ⟨k, commits, _⟩ | ⟨i, entry, at_, ok, prepared, _, mandate, draft, digest⟩
      · rw [returned] at commits
        cases commits
      · rw [returned] at ok
        exact ⟨c, authorization, accepted, i, entry, at_, Except.ok.inj (Stage.returned.inj ok), prepared, mandate,
          draft, digest⟩
  refine ⟨?_, ?_, ?_⟩
  · intro was was' call call' draft draft' id signature signature' wallNow wallNow' protocolNow protocolNow' version
      version' member member' returned returned'
    obtain ⟨c, authorization, accepted, _⟩ := used member returned
    obtain ⟨c', authorization', accepted', _⟩ := used member' returned'
    obtain rfl := books.once ⟨was, draft, signature, wallNow, protocolNow, member, accepted⟩
      ⟨was', draft', signature', wallNow', protocolNow', member', accepted'⟩
    exact ⟨rfl, Except.ok.inj (Stage.returned.inj (returned.symm.trans returned'))⟩
  · intro earlier was call draft id signature wallNow protocolNow later version parts returned
    have member : (was, .authorizeWithWallet call draft id signature wallNow protocolNow) ∈ log := by
      rw [parts]
      exact mem_append_right _ mem_cons_self
    obtain ⟨c, authorization, accepted, i, entry, at_, same, prepared, mandate, drafts, digest⟩ := used member returned
    obtain ⟨_, prior, _, _⟩ := trace.split parts
    have before := books_kept prior
    have passes := accepted_passes accepted
    obtain ⟨wallet, issued⟩ := before.issued passes.found
    obtain ⟨hash, normalized, asked, recovered⟩ := issued.recovers passes.signed
    have counted : badSignatures e earlier id = c.failures := by
      rw [before.counted, passes.found]
      rfl
    exact ⟨c, i, entry, ⟨before.named passes.found, passes.unused, passes.same, passes.alive,
      counted ▸ passes.unlocked, wallet, hash, normalized, issued, asked, recovered⟩, same, prepared, at_,
      (books.sound.numbered at_).1, digest, mandate, drafts⟩
  · intro i entry at_ wallet
    rcases books.made at_ with demo | ⟨call, id, c, ⟨was, draft, signature, wallNow, protocolNow, member, _⟩, returned, _⟩
    · exact absurd demo wallet
    · exact ⟨was, call, draft, id, signature, wallNow, protocolNow, member, returned⟩

theorem approvals_verifiable (trace : Trace (LiveSession.Steps e) .new log s)
    (apart : ∀ step ∈ log, Apart e step.1 step.2) : SingleUse e log s ∧ Verifiable e log s := by
  refine ⟨used_once trace, ?_⟩
  intro i entry at_ method
  have sound := (books_kept trace).sound
  have kept := evidence_kept trace apart
  rw [(sound.numbered at_).1]
  refine ⟨kept.verifies sound at_ method, ?_⟩
  obtain ⟨call, prepared, backs, returned, version, _⟩ := kept.made at_ method
  obtain ⟨was, draft, id, signature, wallNow, protocolNow, c, rebuilt, normalized, member, judged, _, _, evidence⟩ := backs
  rw [version] at evidence
  exact ⟨was, call, draft, id, signature, wallNow, protocolNow, c, rebuilt, normalized, member, returned, judged, evidence⟩

end Results

end Session

section Overlap

def firstKey : Bytes := 4 :: (beBytes 32 0x79be667ef9dcbbac55a06295ce870b07029bfcdb2dce28d959f2815b16f81798 ++
  beBytes 32 0x483ada7726a3c4655da4fbfc0e1108a8fd17b448a68554199c47d08ffb10d4b8)

def secondKey : Bytes := 4 :: (beBytes 32 0xc6047f9441ed7d6d3045406e95c07cd85c778e4b8cef3ca7abac09b95c709ee5 ++
  beBytes 32 0x1ae168fea63dc339a3c58419466ceaeef7f632653266d0e1236431a950cfe52a)

def firstWallet : Bytes := beBytes 20 0x7e5f4552091a69125d5dfcb7b8c2659029395bdf
def secondWallet : Bytes := beBytes 20 0x2b5ad5c4795c026514f8317c7a215e218dccd6cf

def signatureBytes (s : Nat) : Bytes :=
  beBytes 32 0xc6047f9441ed7d6d3045406e95c07cd85c778e4b8cef3ca7abac09b95c709ee5 ++ beBytes 32 s ++ [27]

def firstSignature : Bytes := signatureBytes 0x24b32182bdea4308ef5329b1df3dbdf8baa5d8e4bb17a576f373b678ef3f29b5
def secondSignature : Bytes := signatureBytes 0x56c74090f69a0bbaa622b5acec365c088387d1ae60ae16a9d55c754d60cbe3b9

@[reducible] def walletCurve : Secp256k1 where
  recoverPublicKey _ r s recovery :=
    if r ≠ 0xc6047f9441ed7d6d3045406e95c07cd85c778e4b8cef3ca7abac09b95c709ee5 ∨ recovery ≠ 0 then none
    else if s = 0x24b32182bdea4308ef5329b1df3dbdf8baa5d8e4bb17a576f373b678ef3f29b5 then some firstKey
    else if s = 0x56c74090f69a0bbaa622b5acec365c088387d1ae60ae16a9d55c754d60cbe3b9 then some secondKey
    else none

theorem first_recovers (hash : Digest32) : @recoverAddress platformKeccak walletCurve hash (bytesToHex firstSignature) =
    some (bytesToHex firstWallet, bytesToHex firstSignature) := by
  have key : @Secp256k1.recoverPublicKey walletCurve hash (beNat (firstSignature.take 32))
      (beNat ((firstSignature.drop 32).take 32)) ((firstSignature.getD 64 0).toNat - 27) = some firstKey :=
    (if_neg (by decide)).trans (if_pos (by decide))
  rw [@recoverAddress_bytes platformKeccak walletCurve hash _ _ (by decide) (by decide) (by decide) key]
  exact congrArg (fun bytes => some (bytesToHex bytes, bytesToHex firstSignature)) (by decide +kernel)

theorem second_recovers (hash : Digest32) : @recoverAddress platformKeccak walletCurve hash (bytesToHex secondSignature) =
    some (bytesToHex secondWallet, bytesToHex secondSignature) := by
  have key : @Secp256k1.recoverPublicKey walletCurve hash (beNat (secondSignature.take 32))
      (beNat ((secondSignature.drop 32).take 32)) ((secondSignature.getD 64 0).toNat - 27) = some secondKey :=
    (if_neg (by decide)).trans ((if_neg (by decide)).trans (if_pos (by decide)))
  rw [@recoverAddress_bytes platformKeccak walletCurve hash _ _ (by decide) (by decide) (by decide) key]
  exact congrArg (fun bytes => some (bytesToHex bytes, bytesToHex secondSignature)) (by decide +kernel)

def sampleSession : SessionEnv String :=
  ⟨⟨bytesToHex (beBytes 20 0x6813eb9362372eef6200f3b1dbc3f819671cba69), fun _ => "signed", fun _ _ _ _ => false,
    fun _ _ _ _ _ => false⟩, "session", fun draft => draft, fun _ _ _ => none⟩

/-- The challenge a wallet is issued at time 100 for the first version. -/
def sampleChallenge (id : Digest32) (wallet : Bytes) : WalletChallenge String :=
  ⟨id, "session", sampleVersion 1 101, .v1,
    some (@approvalMessage platformKeccak (sampleMandate 1 101) 1 (bytesToHex wallet) sampleSession.protocolSigner 100
      "session" id), none, 100, 400, "draft", 0, false⟩

def asks (id : Digest32) (wallet : Bytes) : SessionLabel String :=
  .walletChallenge "draft" (some (sampleMandate 1 101)) (bytesToHex wallet) id 100 5

def submits (call : Nat) (id : Digest32) (signature : Bytes) : SessionLabel String :=
  .authorizeWithWallet call "draft" id (bytesToHex signature) 101 5

def completing : List (SessionLabel String) :=
  [.versions (.ledger 0 (.ok 1)), .versions (.ledger 0 (.ok 2)), .versions (.resume 0)]

theorem asks_issues {s : LiveSession String} {id : Digest32} {w : Bytes} (sized : w.length = 20)
    (fresh : s.challenges id = none) (start : s.core = .new) :
    @LiveSession.Steps _ platformKeccak sampleSession walletCurve s (asks id w)
      { s with challenges := Function.update s.challenges id (some (sampleChallenge id w)) } := by
  have address : isAddress (bytesToHex w) = true := by
    unfold isAddress
    rw [bytesToHex_toLower, hexToBytes_bytesToHex, bytesToHex, String.toList_ofList]
    simp [sized]
  unfold LiveSession.Steps LiveSession.step asks
  dsimp only
  unfold LiveSession.walletChallenge
  rw [address, if_neg (by decide), start, bytesToHex_toLower]
  unfold ChallengeBook.issue
  simp only [fresh]
  rfl

section Submits
variable {s : LiveSession String} {id : Digest32} {wallet signature : Bytes}
  (recovers : ∀ hash, @recoverAddress platformKeccak walletCurve hash (bytesToHex signature) =
    some (bytesToHex wallet, bytesToHex signature)) (sized : wallet.length = 20)
  (found : s.challenges id = some (sampleChallenge id wallet)) (next : s.core.versions.nextVersion = 1)
include recovers sized found next

theorem submits_approved :
    @LiveSession.checked _ platformKeccak sampleSession s walletCurve "draft" id (bytesToHex signature) 101 =
      .approved (sampleChallenge id wallet) (@approvalMessage platformKeccak (sampleMandate 1 101) 1 (bytesToHex wallet)
        sampleSession.protocolSigner 100 "session" id) (bytesToHex signature) := by
  have address (bytes : Bytes) (length : bytes.length = 20) :
      addressWord (bytesToHex bytes) = some (word (beNat bytes)) := by
    unfold addressWord
    rw [hexToBytes_bytesToHex, Option.bind_eq_bind, Option.bind_some, if_pos length]
  refine @checked_approves _ platformKeccak walletCurve sampleSession s "draft" id _ 101 _ _ _ found rfl rfl
    (show (0 : Nat) < 5 by decide) ⟨show (100 : Int) ≤ 101 by decide, show (101 : Int) < 400 by decide⟩
    next.symm rfl rfl rfl ?_
  have version : uint64Word ((1 : Nat) : Int) = some (word 1) := rfl
  have after : uint64Word 100 = some (word 100) := rfl
  have deadline : uint64Word (100 + CHALLENGE_LIFETIME_SECONDS) = some (word 400) := rfl
  unfold checkApproval approvalHash WalletChallenge.rebuilt approvalMessage
  dsimp only [sampleChallenge, sampleVersion, sampleSession]
  rw [version, address _ sized, address _ (by decide), after, deadline]
  simp only [Option.bind_eq_bind, Option.bind_some, recovers]
  rw [if_neg (not_not.mpr rfl)]

def sampleMessage (id : Digest32) (wallet : Bytes) : ApprovalMessage :=
  @approvalMessage platformKeccak (sampleMandate 1 101) 1 (bytesToHex wallet) sampleSession.protocolSigner 100 "session" id

def sampleAuthorization (id : Digest32) (wallet signature : Bytes) : PrincipalAuthorization :=
  @LiveSession.approvalAuthorization _ platformKeccak sampleSession (sampleChallenge id wallet) (sampleMessage id wallet)
    (bytesToHex signature)

theorem submits_steps {i : Nat} (idle : s.core.calls i = .idle) :
    @LiveSession.Steps _ platformKeccak sampleSession walletCurve s (submits i id signature)
      { core := s.core.start i (s.core.versions.commit sampleSession.toVersionsEnv (sampleVersion 1 101)
          (sampleAuthorization id wallet signature) 5 none)
        challenges := s.challenges.consume id
        approvals := Function.update s.approvals 1 (some (sampleMessage id wallet, bytesToHex signature)) } := by
  have approved := submits_approved recovers sized found next
  unfold LiveSession.Steps LiveSession.step submits
  dsimp only
  rw [idle]
  dsimp only
  unfold LiveSession.authorizeWithWallet
  rw [approved]
  rfl

end Submits

def challenged : LiveSession String where
  core := .new
  challenges := Function.update (Function.update (fun _ => none) 1 (some (sampleChallenge 1 firstWallet))) 2
    (some (sampleChallenge 2 secondWallet))
  approvals := fun _ => none

def approving : LiveSession String where
  core := VersionsSystem.new.start 0 (MandateVersions.new.commit sampleSession.toVersionsEnv (sampleVersion 1 101)
    (sampleAuthorization 1 firstWallet firstSignature) 5 none)
  challenges := challenged.challenges.consume 1
  approvals := Function.update (fun _ => none) 1 (some (sampleMessage 1 firstWallet, bytesToHex firstSignature))

theorem approving_reached : @Trace _ _ (@LiveSession.Steps _ platformKeccak sampleSession walletCurve) .new
    [(.new, asks 1 firstWallet),
     ({ LiveSession.new with challenges := Function.update (fun _ => none) 1 (some (sampleChallenge 1 firstWallet)) },
      asks 2 secondWallet), (challenged, submits 0 1 firstSignature)] approving := by
  have first := @asks_issues .new 1 firstWallet (by decide) rfl rfl
  have second := @asks_issues { LiveSession.new with
    challenges := Function.update (fun _ => none) 1 (some (sampleChallenge 1 firstWallet)) } 2 secondWallet
    (by decide) rfl rfl
  have third := submits_steps (s := challenged) (i := 0) first_recovers (by decide)
    (show challenged.challenges 1 = some (sampleChallenge 1 firstWallet) from rfl) rfl rfl
  exact .cons first (.cons second (.cons third .nil))

/-- A second wallet's approval has arrived while the first's is committed, and was refused. -/
def overlapped : LiveSession String where
  core := approving.core.start 1 (approving.core.versions.commit sampleSession.toVersionsEnv (sampleVersion 1 101)
    (sampleAuthorization 2 secondWallet secondSignature) 5 none)
  challenges := approving.challenges.consume 2
  approvals := Function.update approving.approvals 1 (some (sampleMessage 2 secondWallet, bytesToHex secondSignature))

/-- The refused approval has taken the place of the evidence of the version that is committed. -/
theorem evidence_overwritten : ¬∀ (e : SessionEnv String) (log : List (LiveSession String × SessionLabel String))
    (s : LiveSession String), @Trace _ _ (@LiveSession.Steps _ platformKeccak e walletCurve) .new log s →
    @SingleUse _ platformKeccak walletCurve e log s ∧ @Verifiable _ platformKeccak walletCurve e log s := by
  intro claimed
  have refused : @LiveSession.Steps _ platformKeccak sampleSession walletCurve approving (submits 1 2 secondSignature)
      overlapped :=
    submits_steps (s := approving) (i := 1) second_recovers (by decide)
      (show approving.challenges 2 = some (sampleChallenge 2 secondWallet) from rfl) rfl rfl
  obtain ⟨log, s, replayed, entry, recorded, authorized, evidence⟩ : ∃ log s,
      replay (fun s label => @LiveSession.step _ platformKeccak sampleSession s walletCurve label) overlapped completing =
        some (log, s) ∧ ∃ entry, s.core.versions.entries[0]? = some entry ∧
      entry.record.authorization = sampleAuthorization 1 firstWallet firstSignature ∧
      s.approvals 1 = some (sampleMessage 2 secondWallet, bytesToHex secondSignature) :=
    ⟨_, _, rfl, _, rfl, rfl, rfl⟩
  have trace := (approving_reached.snoc refused).append (replay_trace replayed)
  have books := @books_kept String platformKeccak walletCurve sampleSession _ s trace
  have sound := @Books.sound String platformKeccak walletCurve sampleSession _ s books
  obtain ⟨_, verifiable⟩ := claimed _ _ _ trace
  obtain ⟨verified, _⟩ := verifiable recorded (by rw [authorized]; rfl)
  have other : (sampleMessage 2 secondWallet).principal ≠ entry.record.authorization.principal := by
    rw [authorized]
    intro same
    have wallets : secondWallet = firstWallet := by
      have := congrArg hexToBytes (show bytesToHex secondWallet = bytesToHex firstWallet from same)
      rw [hexToBytes_bytesToHex, hexToBytes_bytesToHex] at this
      exact some.inj this
    exact absurd wallets (by decide)
  rw [(sound.numbered recorded).1] at verified
  unfold LiveSession.verifyWalletApproval at verified
  rw [sound.found recorded] at verified
  dsimp only at verified
  rw [if_neg (by rw [authorized]; exact not_not.mpr rfl), evidence] at verified
  dsimp only at verified
  rw [if_pos (.inr (.inr (.inl other)))] at verified
  cases verified

theorem approvals_verifiable_once : ∃ log, ∃ s : LiveSession String,
    @Trace _ _ (@LiveSession.Steps _ platformKeccak sampleSession walletCurve) .new log s ∧
    s.core.versions.entries.length = 1 ∧ @SingleUse _ platformKeccak walletCurve sampleSession log s ∧
    @Verifiable _ platformKeccak walletCurve sampleSession log s := by
  obtain ⟨log, s, replayed, one⟩ : ∃ log s, replay (fun s label => @LiveSession.step _ platformKeccak sampleSession s
      walletCurve label) approving completing = some (log, s) ∧ s.core.versions.entries.length = 1 := ⟨_, _, rfl, rfl⟩
  have trace := approving_reached.append (replay_trace replayed)
  refine ⟨_, s, trace, one, @approvals_verifiable _ platformKeccak walletCurve _ _ _ trace ?_⟩
  intro step member
  rcases mem_append.mp member with before | after
  · simp only [mem_cons, not_mem_nil, or_false] at before
    rcases before with rfl | rfl | rfl
    · exact trivial
    · exact trivial
    · intro _ call k commits
      cases commits
  · have label : step.2 ∈ completing := by
      rw [← replay_labels replayed]
      exact mem_map_of_mem after
    simp only [completing, mem_cons, not_mem_nil, or_false] at label
    rcases label with label | label | label <;> unfold Apart <;> rw [label] <;> trivial

end Overlap

end Mandate.Authoring
