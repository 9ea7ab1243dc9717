import Mandate.Core.Action
import Mandate.Portfolio.Allocation
import Mandate.Portfolio.Child

/-! Screening one signed proposal: authentication, form, identity through the domain's binding,
honesty of the declared demand, authority; shared by the room and the verifier. A domain's binding
resolves a candidate against its trusted data and maps it onto one Core action. -/
namespace Mandate.Portfolio
open Core Lib.Wire Lib.Table
open Kernel (Secp256k1)

structure ResolveContext where
  mandate : PortfolioMandate
  agent : AgentPolicy
  table : ResourceTable
  now : Int

structure RepresentationDecisionRecord where
  representation : Identifier
  admissible : Bool
  codes : List String

inductive Resolution
  | resolved (action : ResolvedAction) (registry : Option RepresentationDecisionRecord)
  | refused (reasons : List Reason) (named : reasons ≠ []) (registry : Option RepresentationDecisionRecord)

structure DomainBinding where
  kind : ActionKind
  resolve : ActionCandidate → ResolveContext → Resolution

def bindingFor (bindings : List DomainBinding) (kind : ActionKind) : Except Reason DomainBinding :=
  match bindings.filter fun b => b.kind = kind with
  | [b] => .ok b
  | _ => .error (reason .instrumentUnknown ("binding:" ++ kind.text))

def resolveCandidate (bindings : List DomainBinding) (m : PortfolioMandate) (agent : AgentPolicy)
    (candidate : ActionCandidate) (now : Int) : Resolution :=
  match bindingFor bindings candidate.kind with
  | .error refused => .refused [refused] (List.cons_ne_nil _ _) none
  | .ok b => b.resolve candidate ⟨m, agent, m.resources.members, now⟩

/-- What the ledger still has room for, as the room and the verifier read it. -/
structure ResourceAvailability where
  ledgerVersion : Int
  portfolio : ResourceVector
  agents : PMap Identifier ResourceVector
  reserved : ResourceVector

def fullAvailability (m : PortfolioMandate) : ResourceAvailability where
  ledgerVersion := 0
  portfolio := m.limits.amounts
  agents := m.agents.members.foldl (fun agents a => agents.insert a.agent.value a.hardMaxima.amounts) ∅
  reserved := m.limits.amounts.map fun l => ⟨l.resource, 0⟩

/-- The most `agent` could still take: the portfolio's headroom and, where it lists one, its own. -/
def headroom (av : ResourceAvailability) (agent : Identifier) (r : PortfolioResourceId) : Int :=
  let portfolio := amountOf av.portfolio r
  match (av.agents.lookup agent).bind fun own => own.find? fun a => a.resource = r with
  | none => portfolio
  | some own => if portfolio < own.atoms then portfolio else own.atoms

structure Screening where
  reasons : List Reason
  quantityOnly : Bool
  action : Option ResolvedAction
  demand : ResourceVector
  child : Option ChildExecutionAuthorization
  registry : Option RepresentationDecisionRecord

def QUANTITY_CODES : List ReasonCode := [.agentLimitExceeded, .portfolioLimitExceeded]

def refusedScreening (reasons : List Reason) (registry : Option RepresentationDecisionRecord)
    (action : Option ResolvedAction) : Screening :=
  let canonical := canonicalReasons reasons
  { reasons := canonical
    quantityOnly := !canonical.isEmpty && canonical.all fun r => QUANTITY_CODES.contains r.code
    action
    demand := (action.map (·.demand)).getD []
    child := none
    registry }

def formReasons (p : AgentProposal) : List Reason :=
  (p.criticalExtensions.members.map fun e => reason .proposalExtensionUnknown e.1) ++
  (((p.minimum.amounts ++ p.requested.amounts).map (·.resource)).filter fun r =>
      amountOf p.requested.amounts r < amountOf p.minimum.amounts r).map
    fun r => reason .proposalMinimumInvalid r.1

section Screening
variable [Keccak] [Secp256k1]

def screenProposal (m : PortfolioMandate) (bindings : List DomainBinding) (signed : SignedProposal)
    (now : Int) : Option Screening :=
  let p := signed.proposal
  if p.portfolioMandate ≠ portfolioMandateDigest m then
    some (refusedScreening [reason .mandateDigestMismatch ""] none none)
  else match agentPolicyOf m p.agent with
  | none => some (refusedScreening [reason .agentUnknown p.agent.value.1] none none)
  | some agent =>
    if proposalSignedByAgent p signed.signature = false then
      some (refusedScreening [reason .agentSignatureInvalid p.agent.value.1] none none)
    else match resolveCandidate bindings m agent p.candidate now with
    | .refused reasons _ registry => some (refusedScreening (formReasons p ++ reasons) registry none)
    | .resolved action registry => do
      let found := formReasons p ++ (if vectorsEqual p.requested.amounts action.demand then []
          else [reason .proposalResourcesMisdeclared "requested"])
      let derived ← deriveChildAuthorization m p action now
      match derived with
      | .error reasons => some (refusedScreening (found ++ reasons) registry (some action))
      | .ok child =>
        if found ≠ [] then some (refusedScreening found registry (some action))
        else some ⟨[], false, some action, action.demand, some child, registry⟩

/-- A mandate that may be coordinated under at `now`: signed, current and valid. -/
def mandateReasons (m : PortfolioMandate) (signature : String) (now : Int)
    (authority : Option PortfolioAuthority) : List Reason :=
  canonicalReasons (
    (if principalSigned m signature authority then [] else [reason .mandateSignatureInvalid ""]) ++
    (if now < m.window.notBefore.1 then [reason .mandateNotYetValid ""] else []) ++
    (if m.window.expiresAt.1 ≤ now then [reason .mandateExpired ""] else []) ++ checkPortfolioMandate m)

structure PortfolioCandidate where
  portfolioMandate : PortfolioMandateDigest
  accepted : List String
  allocationLog : List AllocationOp

end Screening

/-- The domain's part of one Core action; the envelope around it is built alike for every domain. -/
structure CoreAction where
  actionType : String
  target : ResourceIdInput
  resources : List ResourceIdInput
  payload : Bytes

/-- The set members a scope compiles to: only what the binding itself reviews. -/
structure CoreCoverage where
  markets : List ResourceIdInput
  venues : List ResourceIdInput
  recipients : List ResourceIdInput

structure Binding extends DomainBinding where
  domain : DomainId
  module : ModuleRef
  adapter : AdapterRefInput
  actionTypes : List String
  coverage : AuthorityScope → Option CoreCoverage
  delegationTerms : AuthorityScope → Option (List AuthorityTermInput)
  coreAction : ActionCandidate → ChildAuthorizationDigest → Option (Option CoreAction)

/-- A resource a reviewed constant names; a text no resource can have is a throw. -/
def mustResource (allowed : List Core.ResourceKind) (input : ResourceIdInput) : Option (ResourceOf allowed) :=
  (validateResourceId input allowed "").toOption

/-- What an agent says of an instrument, against what its record says. -/
def claimMismatches (claims : Claims) (asset : Kernel.CanonicalAssetId) (issuer : Option Identifier) : List Reason :=
  (if claims.asset.any fun claimed => assetKey claimed ≠ assetKey asset then
    [reason .identityClaimMismatch "asset"] else []) ++
  (if claims.issuer.any fun claimed => issuer ≠ some claimed then
    [reason .identityClaimMismatch "issuer"] else [])

theorem demandOf_unrepeated {table : ResourceTable} {contributions : List Contribution} {demand : ResourceVector}
    (demanded : demandOf table contributions = .ok demand) : Unrepeated demand := by
  obtain ⟨entries, -, rfl⟩ := except_map_ok.mp demanded
  exact unrepeated_vectorOf entries

end Mandate.Portfolio
