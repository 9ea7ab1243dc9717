import Mandate.Ledger.Lineage

/-! Mandate versions: the only path from a draft to authority. Each method runs up to its next await in
one step; between two steps any other call may run, and the ledger answers. -/
namespace Mandate.Authoring
open Core

inductive VersionStatus | active | superseded | revoked
deriving DecidableEq

inductive AuthorizationMethod
  | walletEip712 | demoPrincipalKey | walletPrincipalV2 | walletPrincipalV2Plan
deriving DecidableEq

inductive DomainDelegation | notDelegated | samePrincipal
deriving DecidableEq

structure WalletApprovalFacts where
  chainId : Nat
  sessionDigest : Digest32
  challengeDigest : Digest32
  signatureDigest : Digest32
  validAfter : Int
  validUntil : Int
  initialAllocationDigest : Option Digest32

structure PrincipalAuthorization where
  method : AuthorizationMethod
  principal : String
  protocolSigner : String
  wallet : Option WalletApprovalFacts
  domainDelegation : DomainDelegation

/-- A validated mandate and its compilation, as far as a version reads them: its digest, its principal,
and the grants it registers. -/
structure CompiledMandate where
  portfolioMandateDigest : Digest32
  policyVersion : Nat
  principalKind : String
  principal : String
  expiresAt : Int
  limits : List (String × Int)
  agents : List String
  root : AuthorityId
  delegations : List AuthorityId

/-- One exact mandate, compiled and ready to authorize: what a wallet challenge binds. -/
structure PreparedVersion (Draft : Type) where
  version : Nat
  draft : Draft
  mandate : CompiledMandate
  preparedAt : Int

structure VersionRecord where
  version : Nat
  status : VersionStatus
  digest : Digest32
  policyVersion : Nat
  signature : String
  protocolTime : Int
  expiresAt : Int
  ledgerVersion : Nat
  supersedes : Option Nat
  supersededBy : Option Nat
  revokedAtLedgerVersion : Option Nat
  authorization : PrincipalAuthorization

structure ActiveMandate (Draft : Type) where
  version : Nat
  mandate : CompiledMandate
  signature : String
  draft : Draft

structure Entry (Draft : Type) where
  record : VersionRecord
  active : ActiveMandate Draft

inductive RefusalCode
  | confirmationRequired | draftInvalid | amendmentAfterReservation | mandatePaused | noActiveMandate
  | ledgerRefused | busy | versionStale | sessionRestored | mandateExpired | walletAddressInvalid
  | walletChallengeUnknown | walletChallengeExpired | walletChallengeReused | walletChallengeStale
  | walletChallengeLocked | walletDraftChanged | walletSignatureMalformed | walletSignerMismatch
  | spineSignatureInvalid

/-- The signer and the two signature checks of the protocol's own package. -/
structure VersionsEnv where
  protocolSigner : String
  signMandate : CompiledMandate → String
  mandateSignedByPrincipalV2 : CompiledMandate → String → Nat → Digest32 → Bool
  mandateSignedByPrincipalV2Plan : CompiledMandate → String → Nat → Digest32 → Digest32 → Bool

structure MandateVersions (Draft : Type) where
  entries : List (Entry Draft)
  reserved : Bool
  reserving : Bool
  paused : Bool
  busy : Bool

def PAUSE_CONFIRMATION : String := "PAUSE MANDATE"
def APPROVAL_CHAIN_ID : Nat := 46630

namespace MandateVersions
variable {Draft : Type} (v : MandateVersions Draft)

def new : MandateVersions Draft := ⟨[], false, false, false, false⟩

def nextVersion : Nat := v.entries.length + 1

/-- The exact words the principal must give to authorize the next version. -/
def expectedConfirmation : String := "AUTHORIZE MANDATE V" ++ toString v.nextVersion

def active : Option (ActiveMandate Draft) :=
  if v.paused then none
  else match v.entries.getLast? with
    | some last => if last.record.status = .active then some last.active else none
    | none => none

def beginReservation : Bool × MandateVersions Draft :=
  if v.busy ∨ v.reserving then (false, v) else (true, { v with reserving := true })

def markReserved : MandateVersions Draft := { v with reserved := true }

def endReservation (reserved : Bool) : MandateVersions Draft :=
  let ended := { v with reserving := false }
  if reserved then ended.markReserved else ended

def held : Option RefusalCode := if v.busy ∨ v.reserving then some .busy else none

def closed : Option RefusalCode :=
  if v.paused then some .mandatePaused
  else if 0 < v.entries.length ∧ v.reserved then some .amendmentAfterReservation
  else none

/-- The key that countersigns a V1 version, or the wallet's own signature of a V2 one. -/
def protocolSignature (e : VersionsEnv) (prepared : PreparedVersion Draft) (authorization : PrincipalAuthorization)
    (supplied : Option String) : Except RefusalCode String :=
  if authorization.method ≠ .walletPrincipalV2 ∧ authorization.method ≠ .walletPrincipalV2Plan then
    if supplied.isSome then .error .spineSignatureInvalid else .ok (e.signMandate prepared.mandate)
  else match authorization.wallet, supplied with
    | some wallet, some signature =>
      if authorization.domainDelegation ≠ .samePrincipal ∨ authorization.protocolSigner ≠ authorization.principal then
        .error .spineSignatureInvalid
      else if prepared.mandate.principalKind ≠ "eip155-address" ∨
          prepared.mandate.principal ≠ authorization.principal then .error .spineSignatureInvalid
      else if wallet.chainId ≠ APPROVAL_CHAIN_ID then .error .spineSignatureInvalid
      else
        let valid := if authorization.method = .walletPrincipalV2Plan then
            wallet.initialAllocationDigest.any fun plan => e.mandateSignedByPrincipalV2Plan prepared.mandate signature
              APPROVAL_CHAIN_ID wallet.sessionDigest plan
          else e.mandateSignedByPrincipalV2 prepared.mandate signature APPROVAL_CHAIN_ID wallet.sessionDigest
        if valid then .ok signature else .error .spineSignatureInvalid
    | _, _ => .error .spineSignatureInvalid

def barred : Option RefusalCode := v.held.or v.closed

def prepare (draft : Draft) (drafted : Option CompiledMandate) (protocolNow : Int) :
    Except RefusalCode (PreparedVersion Draft) :=
  match v.barred with
  | some code => .error code
  | none => match drafted with
    | none => .error .draftInvalid
    | some mandate => .ok ⟨v.nextVersion, draft, mandate, protocolNow⟩

/-- A commit on its way: what it registers, and the version it supersedes. -/
structure Commit (Draft : Type) where
  prepared : PreparedVersion Draft
  authorization : PrincipalAuthorization
  protocolNow : Int
  signature : String
  previous : Option Nat

/-- Up to the first await: nothing else is authorized until this commit ends. -/
def commit (e : VersionsEnv) (prepared : PreparedVersion Draft) (authorization : PrincipalAuthorization)
    (protocolNow : Int) (supplied : Option String) : Except RefusalCode (Commit Draft × MandateVersions Draft) :=
  match v.barred with
  | some code => .error code
  | none =>
    if prepared.version ≠ v.nextVersion then .error .versionStale
    else if prepared.mandate.expiresAt ≤ protocolNow then .error .mandateExpired
    else match protocolSignature e prepared authorization supplied with
      | .error code => .error code
      | .ok signature =>
        let previous := if v.entries.length = 0 then none else some (v.entries.length - 1)
        .ok (⟨prepared, authorization, protocolNow, signature, previous⟩, { v with busy := true })

/-- The demonstration principal key path: the exact confirmation text, then prepare and commit. -/
def authorize (e : VersionsEnv) (draft : Draft) (drafted : Option CompiledMandate) (confirmation : String)
    (protocolNow : Int) : Except RefusalCode (Commit Draft × MandateVersions Draft) :=
  match v.held with
  | some code => .error code
  | none =>
    if confirmation ≠ v.expectedConfirmation then .error .confirmationRequired
    else match v.prepare draft drafted protocolNow with
      | .error code => .error code
      | .ok prepared => v.commit e prepared ⟨.demoPrincipalKey, e.protocolSigner, e.protocolSigner, none,
          .notDelegated⟩ protocolNow none

def setRecord (index : Nat) (change : VersionRecord → VersionRecord) : MandateVersions Draft :=
  { v with entries := v.entries.modify index fun entry => { entry with record := change entry.record } }

def release : MandateVersions Draft := { v with busy := false }

/-- The ledger would not register the successor of a version it has revoked: no version is active. -/
def registerRefused (c : Commit Draft) (revokedAt : Option Nat) : MandateVersions Draft :=
  match c.previous with
  | some index =>
    { v.setRecord index fun record => { record with status := .revoked, revokedAtLedgerVersion := revokedAt } with
      paused := true, busy := false }
  | none => v.release

/-- The version a commit makes, as it is recorded and as it is used. -/
def Commit.entry (c : Commit Draft) (supersedes : Option Nat) (ledgerVersion : Nat) : Entry Draft :=
  ⟨⟨c.prepared.version, .active, c.prepared.mandate.portfolioMandateDigest, c.prepared.mandate.policyVersion,
    c.signature, c.protocolNow, c.prepared.mandate.expiresAt, ledgerVersion, supersedes, none, none, c.authorization⟩,
   ⟨c.prepared.version, c.prepared.mandate, c.signature, c.prepared.draft⟩⟩

def registered (c : Commit Draft) (revokedAt : Option Nat) (ledgerVersion : Nat) : MandateVersions Draft :=
  let previous := c.previous.bind fun index => v.entries[index]?
  let superseding := match c.previous with
    | some index => v.setRecord index fun record => { record with
        status := .superseded, supersededBy := some c.prepared.version, revokedAtLedgerVersion := revokedAt }
    | none => v
  let entry := c.entry (previous.map (·.record.version)) ledgerVersion
  { superseding with entries := superseding.entries ++ [entry], busy := false }

def pause (confirmation : String) : Except RefusalCode Nat :=
  if confirmation ≠ PAUSE_CONFIRMATION then .error .confirmationRequired
  else if v.reserving ∨ v.busy then .error .busy
  else match v.entries.getLast? with
    | some last =>
      if last.record.status ≠ .active ∨ v.paused then .error .noActiveMandate else .ok (v.entries.length - 1)
    | none => .error .noActiveMandate

def pauseRevoked (index revokedAt : Nat) : MandateVersions Draft :=
  { v.setRecord index fun record => { record with status := .revoked, revokedAtLedgerVersion := some revokedAt } with
    paused := true }

end MandateVersions

inductive Standing | absent | live | revoked
deriving DecidableEq

/-- A ledger call's answer; one that throws may have been carried out. -/
inductive Outcome | ok (ledgerVersion : Nat) | refused | thrown (took : Bool)

/-- One write of a registration: the policy, then the root, then each agent's delegation. -/
inductive LedgerWrite | policy | grant (id : AuthorityId)

abbrev Roots := AuthorityId → Standing

def Outcome.took : Outcome → Bool
  | .ok _ => true
  | .refused => false
  | .thrown took => took

def revokeRoot (roots : Roots) (root : AuthorityId) (outcome : Outcome) : Option Roots :=
  if outcome.took then
    if roots root = .live then some (Function.update roots root .revoked) else none
  else some roots

def register (roots : Roots) (write : LedgerWrite) (outcome : Outcome) : Option Roots :=
  match write with
  | .policy => some roots
  | .grant id =>
    if outcome.took then
      if roots id = .absent then some (Function.update roots id .live) else none
    else some roots

def registrationOf (mandate : CompiledMandate) : List LedgerWrite :=
  .policy :: .grant mandate.root :: mandate.delegations.map .grant

/-- Where one call of `commit`, `authorize` or `pause` stands; an `-ed` stage has the ledger's answer
and waits for its turn. -/
inductive Stage (Draft : Type)
  | idle
  | revoking (c : MandateVersions.Commit Draft) (index : Nat)
  | revoked (c : MandateVersions.Commit Draft) (index : Nat) (outcome : Outcome)
  | registering (c : MandateVersions.Commit Draft) (revokedAt : Option Nat) (todo : List LedgerWrite)
  | registered (c : MandateVersions.Commit Draft) (revokedAt : Option Nat) (outcome : Outcome)
  | pausing (index : Nat)
  | pauseRevoked (index : Nat) (outcome : Outcome)
  | returned (result : Except RefusalCode Nat)
  | threw (revoked : Option Nat)

/-- One `MandateVersions`, the ledger it writes to, and the calls made of it. -/
structure VersionsSystem (Draft : Type) where
  versions : MandateVersions Draft
  roots : Roots
  calls : Nat → Stage Draft

inductive VersionsLabel (Draft : Type)
  | authorize (call : Nat) (draft : Draft) (drafted : Option CompiledMandate) (confirmation : String) (protocolNow : Int)
  | commit (call : Nat) (prepared : PreparedVersion Draft) (authorization : PrincipalAuthorization)
    (protocolNow : Int) (supplied : Option String)
  | pause (call : Nat) (confirmation : String)
  | ledger (call : Nat) (outcome : Outcome)
  | resume (call : Nat)
  | beginReservation
  | endReservation (reserved : Bool)
  | markReserved

namespace VersionsSystem
variable {Draft : Type} (sys : VersionsSystem Draft)

def move (call : Nat) (stage : Stage Draft) : VersionsSystem Draft :=
  { sys with calls := Function.update sys.calls call stage }

def start (call : Nat) : Except RefusalCode (MandateVersions.Commit Draft × MandateVersions Draft) →
    VersionsSystem Draft
  | .error code => sys.move call (.returned (.error code))
  | .ok (c, versions) =>
    { sys with versions }.move call (match c.previous with
      | some index => .revoking c index
      | none => .registering c none (registrationOf c.prepared.mandate))

def rootAt (index : Nat) : Option AuthorityId := (sys.versions.entries[index]?).map (·.active.mandate.root)

/-- The ledger takes or refuses one write of a call that waits for it. -/
def ledger (call : Nat) (outcome : Outcome) : Option (VersionsSystem Draft) :=
  match sys.calls call with
  | .revoking c index => do
    let roots ← revokeRoot sys.roots (← sys.rootAt index) outcome
    some ({ sys with roots }.move call (.revoked c index outcome))
  | .registering c revokedAt (write :: todo) => do
    let roots ← register sys.roots write outcome
    let stage : Stage Draft := match outcome, todo with
      | .ok _, _ :: _ => .registering c revokedAt todo
      | _, _ => .registered c revokedAt outcome
    some ({ sys with roots }.move call stage)
  | .pausing index => do
    let roots ← revokeRoot sys.roots (← sys.rootAt index) outcome
    some ({ sys with roots }.move call (.pauseRevoked index outcome))
  | _ => none

/-- After an await; a throw leaves `commit` through its `finally`, and `pause` as it is. -/
def resume (call : Nat) : Option (VersionsSystem Draft) :=
  match sys.calls call with
  | .revoked c index outcome => some (match outcome with
    | .ok ledgerVersion => sys.move call (.registering c (some ledgerVersion) (registrationOf c.prepared.mandate))
    | .refused => { sys with versions := sys.versions.release }.move call (.returned (.error .ledgerRefused))
    | .thrown took => { sys with versions := sys.versions.release }.move call (.threw (if took then some index else none)))
  | .registered c revokedAt outcome => some (match outcome with
    | .ok ledgerVersion => { sys with versions := sys.versions.registered c revokedAt ledgerVersion }.move call
        (.returned (.ok c.prepared.version))
    | .refused => { sys with versions := sys.versions.registerRefused c revokedAt }.move call
        (.returned (.error .ledgerRefused))
    | .thrown _ => { sys with versions := sys.versions.release }.move call (.threw c.previous))
  | .pauseRevoked index outcome => some (match outcome with
    | .ok ledgerVersion => { sys with versions := sys.versions.pauseRevoked index ledgerVersion }.move call
        (.returned (.ok (index + 1)))
    | .refused => sys.move call (.returned (.error .ledgerRefused))
    | .thrown took => sys.move call (.threw (if took then some index else none)))
  | _ => none

/-- A call's own steps come one after another; `none` where it has no such step now. -/
def step (e : VersionsEnv) (sys : VersionsSystem Draft) : VersionsLabel Draft → Option (VersionsSystem Draft)
  | .authorize call draft drafted confirmation protocolNow => match sys.calls call with
    | .idle => some (sys.start call (sys.versions.authorize e draft drafted confirmation protocolNow))
    | _ => none
  | .commit call prepared authorization protocolNow supplied => match sys.calls call with
    | .idle => some (sys.start call (sys.versions.commit e prepared authorization protocolNow supplied))
    | _ => none
  | .pause call confirmation => match sys.calls call with
    | .idle => some (sys.move call (match sys.versions.pause confirmation with
      | .error code => .returned (.error code)
      | .ok index => .pausing index))
    | _ => none
  | .ledger call outcome => sys.ledger call outcome
  | .resume call => sys.resume call
  | .beginReservation => some { sys with versions := sys.versions.beginReservation.2 }
  | .endReservation reserved => some { sys with versions := sys.versions.endReservation reserved }
  | .markReserved => some { sys with versions := sys.versions.markReserved }

def Steps (e : VersionsEnv) (before : VersionsSystem Draft) (label : VersionsLabel Draft)
    (after : VersionsSystem Draft) : Prop := before.step e label = some after

def new : VersionsSystem Draft := ⟨.new, fun _ => .absent, fun _ => .idle⟩

end VersionsSystem

end Mandate.Authoring
