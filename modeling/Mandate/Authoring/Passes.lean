import Mandate.Authoring.Wallet

/-! Passes through the portfolio protocol: a session holds its version still, the ledger reserves the
verified children one by one, and the session is told what was reserved when the pass ends. -/
namespace Mandate.Authoring
open Core
open Kernel (Secp256k1)

inductive Role | stock | swap | nft | yield | perps
deriving DecidableEq

def ROLES : List Role := [.stock, .swap, .nft, .yield, .perps]

structure PassItem where
  role : Role
  proposal : Digest32
  requested : List (String × Nat)

namespace PassItem

def notional (item : PassItem) : Nat :=
  ((item.requested.find? fun a => a.1 = "portfolio-notional").map (·.2)).getD 0

end PassItem

structure PassChild where
  digest : Digest32
  proposal : Digest32

/-- How the ledger answered one child: a throw may come after the reservation was committed. -/
inductive ReserveAnswer | reserved | refused | threw (took : Bool)

/-- `#reverify` hands over a run's proposals; `#submitOne` one of a policy-stress case. -/
inductive PassPath | reverify | submitOne

inductive PassStage
  | verifying
  | reserving (todo : List PassChild)

structure Pass where
  path : PassPath
  version : Nat
  items : List PassItem
  children : List PassChild
  reservations : List (Digest32 × Bool)
  stage : PassStage

namespace Pass
variable (p : Pass)

/-- The reservation that is reported for an item: its first child's. -/
def reservedOf (item : PassItem) : Bool :=
  match p.children.find? fun c => c.proposal = item.proposal with
  | none => false
  | some child => ((p.reservations.find? fun r => r.1 = child.digest).map (·.2)).getD false

def outcomes : List (PassItem × Bool) := p.items.map fun item => (item, p.reservedOf item)

def reserved : Nat := (p.outcomes.map fun o => if o.2 then o.1.notional else 0).sum

/-- What the session is told: on one path a sum of notional, on the other a reservation's status. -/
def reservedAny : Bool :=
  match p.path with
  | .reverify => 0 < p.reserved
  | .submitOne => p.outcomes.any (·.2)

end Pass

/-- One live session, the pass it holds its version still for, and every RESERVE of it that the ledger holds. -/
structure ReservingSession (Draft : Type) where
  session : LiveSession Draft
  pass : Option Pass
  reserves : List (Nat × Digest32)

inductive ReservingLabel (Draft : Type)
  | session (label : SessionLabel Draft)
  | beginPass (path : PassPath) (version : Nat) (items : List PassItem)
  | verified (children : List PassChild)
  | reserve (answer : ReserveAnswer)
  | finish (threw : Bool)

def SessionLabel.own {Draft : Type} : SessionLabel Draft → Bool
  | .versions .beginReservation | .versions (.endReservation _) | .versions .markReserved => false
  | _ => true

namespace ReservingSession
variable {Draft : Type} (s : ReservingSession Draft)

def new : ReservingSession Draft := ⟨.new, none, []⟩

def setVersions (versions : MandateVersions Draft) : ReservingSession Draft :=
  { s with session := { s.session with core := { s.session.core with versions } } }

def endPass (reserved : Bool) : ReservingSession Draft :=
  { s.setVersions (s.session.core.versions.endReservation reserved) with pass := none }

/-- A version that was active when the run or the case began; another pass or a commit under way refuses. -/
def beginPass (path : PassPath) (version : Nat) (items : List PassItem) : Option (ReservingSession Draft) :=
  if version = 0 ∨ s.session.core.versions.entries.length < version then none
  else match s.session.core.versions.beginReservation with
    | (false, _) => some s
    | (true, versions) =>
      some { s.setVersions versions with pass := some ⟨path, version, items, [], [], .verifying⟩ }

/-- What the verifier returned; none of its children where it refused. -/
def verified (children : List PassChild) : Option (ReservingSession Draft) :=
  match s.pass with
  | some p => match p.stage with
    | .verifying => some { s with pass := some { p with children, stage := .reserving children } }
    | _ => none
  | none => none

/-- The ledger's answer to the next child; a throw leaves through the `finally`. -/
def reserve (answer : ReserveAnswer) : Option (ReservingSession Draft) :=
  match s.pass with
  | some p => match p.stage with
    | .reserving (child :: todo) => match answer with
      | .reserved => some { s with
          pass := some { p with reservations := p.reservations ++ [(child.digest, true)], stage := .reserving todo }
          reserves := s.reserves ++ [(p.version, child.digest)] }
      | .refused => some { s with
          pass := some { p with reservations := p.reservations ++ [(child.digest, false)], stage := .reserving todo } }
      | .threw took => some ({ s with
          reserves := if took then s.reserves ++ [(p.version, child.digest)] else s.reserves }.endPass false)
    | _ => none
  | none => none

/-- After the last child: execution, the receipt and the records of what was reserved may still throw. -/
def finish (threw : Bool) : Option (ReservingSession Draft) :=
  match s.pass with
  | some p => match p.stage with
    | .verifying => if threw then some (s.endPass false) else none
    | .reserving [] => some (s.endPass (if threw then false else p.reservedAny))
    | _ => none
  | none => none

variable [Keccak] [Secp256k1]

def step (e : SessionEnv Draft) (s : ReservingSession Draft) : ReservingLabel Draft → Option (ReservingSession Draft)
  | .session label => if label.own then (s.session.step e label).map fun session => { s with session } else none
  | .beginPass path version items => s.beginPass path version items
  | .verified children => s.verified children
  | .reserve answer => s.reserve answer
  | .finish threw => s.finish threw

def Steps (e : SessionEnv Draft) (before : ReservingSession Draft) (label : ReservingLabel Draft)
    (after : ReservingSession Draft) : Prop := before.step e label = some after

end ReservingSession

end Mandate.Authoring
