import Mandate.Portfolio.Candidate
import Mandate.Portfolio.Resources

/-! The portfolio mandate: which agents may act, in which scope, over which resources, within
which limits and under which allocation mode. Structure only; validity is decided elsewhere. -/
namespace Mandate.Portfolio
open Core Lib.Wire List

def MAX_AGENTS : Nat := 16

abbrev PortfolioMandateDigest := Digest32

inductive AllocationMode | preallocated | dynamic | hybrid
deriving DecidableEq

def ALLOCATION_MODE_CODE : WireCodes AllocationMode where
  keys := [.preallocated, .dynamic, .hybrid]
  code
    | .preallocated => 1 | .dynamic => 2 | .hybrid => 3
  width key := by cases key <;> decide
  unique key := by cases key <;> rfl

structure AgentPolicy where
  agent : AgentId
  label : Identifier
  scope : AuthorityScope
  window : Window
  hardMaxima : ValidVector
  preferred : ValidVector

def writeAgentKey (a : AgentPolicy) : Writer := writeParty a.agent

def writeDefinitionKey (d : ResourceDefinition) : Writer := writeStr d.resource.1

structure PortfolioMandate where
  principal : PrincipalId
  policyVersion : Uint64
  nonce : Uint64
  window : Window
  allocationMode : AllocationMode
  resources : CanonicalSet writeDefinitionKey MAX_RESOURCES
  scope : AuthorityScope
  limits : ValidVector
  agents : CanonicalSet writeAgentKey MAX_AGENTS

def writeAgentPolicy (a : AgentPolicy) : Writer :=
  writeParty a.agent ++ writeStr a.label.1 ++ writeAuthorityScope a.scope ++
  writeI64 a.window.notBefore.1 ++ writeI64 a.window.expiresAt.1 ++
  writeResourceVector a.hardMaxima.amounts ++ writeResourceVector a.preferred.amounts

def writePortfolioMandate (m : PortfolioMandate) : Writer :=
  portfolioWriter "PORTFOLIO_MANDATE.V1" ++ writeParty m.principal ++ writeU64 m.policyVersion.1 ++
  writeU64 m.nonce.1 ++ writeI64 m.window.notBefore.1 ++ writeI64 m.window.expiresAt.1 ++
  writeCode ALLOCATION_MODE_CODE m.allocationMode ++
  writeList writeResourceDefinition m.resources.members ++ writeAuthorityScope m.scope ++
  writeResourceVector m.limits.amounts ++ writeList writeAgentPolicy m.agents.members

def encodePortfolioMandate (m : PortfolioMandate) : Bytes := encodeWith writePortfolioMandate m

def portfolioMandateDigest [Keccak] (m : PortfolioMandate) : PortfolioMandateDigest :=
  keccakDigest (encodePortfolioMandate m)

def agentPolicyOf (m : PortfolioMandate) (agent : AgentId) : Option AgentPolicy :=
  m.agents.members.find? fun a => partyIdsEqual a.agent agent

variable {m : PortfolioMandate} {agent : AgentId} {policy : AgentPolicy}

theorem agentPolicyOf_some
    (found : agentPolicyOf m agent = some policy) : policy ∈ m.agents.members ∧ policy.agent = agent := by
  have there := find?_some found
  rw [partyIdsEqual_iff] at there
  exact ⟨mem_of_find?_eq_some found, there⟩

theorem agents_apart (m : PortfolioMandate) : (m.agents.members.map (·.agent)).Nodup := by
  refine pairwise_map.mpr (m.agents.ascending.imp ?_)
  intro a b below same
  have equal : encodeWith writeAgentKey a = encodeWith writeAgentKey b := by
    simp only [encodeWith, writeAgentKey]
    rw [same]
  rw [equal] at below
  simp [compareBytes] at below

theorem agentPolicyOf_member (member : policy ∈ m.agents.members) :
    agentPolicyOf m policy.agent = some policy := by
  cases found : agentPolicyOf m policy.agent with
  | none =>
    have missing := find?_eq_none.mp found policy member
    simp at missing
  | some other =>
    obtain ⟨inside, same⟩ := agentPolicyOf_some found
    rw [inj_on_of_nodup_map (agents_apart m) inside member same]

theorem agentPolicyOf_isSome :
    (∃ policy, agentPolicyOf m agent = some policy) ↔ agent ∈ m.agents.members.map (·.agent) := by
  constructor
  · rintro ⟨policy, found⟩
    obtain ⟨inside, rfl⟩ := agentPolicyOf_some found
    exact mem_map_of_mem inside
  · intro listed
    obtain ⟨policy, inside, rfl⟩ := mem_map.mp listed
    exact ⟨policy, agentPolicyOf_member inside⟩

end Mandate.Portfolio
