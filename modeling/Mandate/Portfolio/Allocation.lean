import Mandate.Portfolio.Authority

/-! The allocation book: which agent may use which part of the portfolio's limits. Every
operation yields a new book or a refusal, and the book keeps the log of those it applied. -/
set_option linter.dupNamespace false
namespace Mandate.Portfolio
open Core

/-- What an agent may hold of a resource: its listed maximum, or the portfolio limit. -/
def agentCap (m : PortfolioMandate) (agent : AgentId) (r : PortfolioResourceId) : Int :=
  match agentPolicyOf m agent with
  | none => 0
  | some policy => ((policy.hardMaxima.amounts.find? fun h => h.resource = r).map (·.atoms)).getD
      (amountOf m.limits.amounts r)

structure AllocationEntry where
  agent : AgentId
  resource : PortfolioResourceId
  allocated : Int
  committed : Int

/-- Released allocation, or the remainder of a limit nobody was allocated. -/
structure Lot where
  id : String
  resource : PortfolioResourceId
  fromAgent : Option AgentId
  amount : Int
  remaining : Int

inductive OpKind | commit | release | claim
deriving DecidableEq

inductive AllocationOp
  | commit (agent : AgentId) (id : String) (amounts : ResourceVector)
  | release (agent : AgentId) (id : String) (amounts : ResourceVector)
  | claim (agent : AgentId) (id : String) (lot : String) (amount : Int)

def AllocationOp.kind : AllocationOp → OpKind
  | .commit .. => .commit
  | .release .. => .release
  | .claim .. => .claim

def AllocationOp.agent : AllocationOp → AgentId
  | .commit agent _ _ | .release agent _ _ | .claim agent _ _ _ => agent

def AllocationOp.id : AllocationOp → String
  | .commit _ id _ | .release _ id _ | .claim _ id _ _ => id

structure AllocationBook where
  mode : AllocationMode
  entries : List AllocationEntry
  lots : List Lot
  log : List AllocationOp

def allocatedResources (m : PortfolioMandate) : List PortfolioResourceId :=
  (m.limits.amounts.map (·.resource)).insertionSort resourceLE

inductive LotKind | unallocated | release

def LotKind.text : LotKind → String
  | .unallocated => "unallocated"
  | .release => "release"

def lotId (kind : LotKind) (ref : String) (r : PortfolioResourceId) : String :=
  "lot/" ++ kind.text ++ "/" ++ ref ++ "/" ++ r.1

/-- What the entries allocate of a resource, and what the lots still hold of it. -/
def allocatedOf (entries : List AllocationEntry) (r : PortfolioResourceId) : Int :=
  ((entries.filter fun e => e.resource = r).map (·.allocated)).sum

def pooledOf (lots : List Lot) (r : PortfolioResourceId) : Int :=
  ((lots.filter fun l => l.resource = r).map (·.remaining)).sum

def initialEntries (m : PortfolioMandate) : List AllocationEntry :=
  m.agents.members.flatMap fun a => (allocatedResources m).map fun r =>
    ⟨a.agent, r, if m.allocationMode = .dynamic then 0 else amountOf a.preferred.amounts r, 0⟩

/-- Preferred allocations are allocated at once; the remainder of each limit is one lot. -/
def initialBook (m : PortfolioMandate) : AllocationBook where
  mode := m.allocationMode
  entries := initialEntries m
  lots := (allocatedResources m).filterMap fun r =>
    let taken := allocatedOf (initialEntries m) r
    let remainder := amountOf m.limits.amounts r - taken
    if 0 < remainder then some ⟨lotId .unallocated "portfolio" r, r, none, remainder, remainder⟩ else none
  log := []

def AllocationEntry.holds (e : AllocationEntry) (agent : AgentId) (r : PortfolioResourceId) : Bool :=
  partyIdsEqual e.agent agent && e.resource = r

def withEntry (agent : AgentId) (r : PortfolioResourceId)
    (change : AllocationEntry → Except Reason AllocationEntry) :
    List AllocationEntry → Except Reason (List AllocationEntry)
  | [] => .error (reason .resourceUndeclared r.1)
  | e :: rest =>
    if e.holds agent r then (· :: rest) <$> change e else (e :: ·) <$> withEntry agent r change rest

def applied (book : AllocationBook) (kind : OpKind) (id : String) : Bool :=
  book.log.any fun op => op.kind = kind ∧ op.id = id

def commitAmount (agent : AgentId) (a : ResourceAmount) (e : AllocationEntry) : Except Reason AllocationEntry :=
  if e.allocated < e.committed + a.atoms then
    .error (reason .commitExceedsAllocation (agent.value.1 ++ "/" ++ a.resource.1))
  else .ok { e with committed := e.committed + a.atoms }

def releaseAmount (agent : AgentId) (a : ResourceAmount) (e : AllocationEntry) : Except Reason AllocationEntry :=
  if e.allocated - e.committed < a.atoms then
    .error (reason .releaseExceedsUnused (agent.value.1 ++ "/" ++ a.resource.1))
  else .ok { e with allocated := e.allocated - a.atoms }

def claimAmount (m : PortfolioMandate) (agent : AgentId) (r : PortfolioResourceId) (amount : Int)
    (e : AllocationEntry) : Except Reason AllocationEntry :=
  if agentCap m agent r < e.allocated + amount then
    .error (reason .agentLimitExceeded (agent.value.1 ++ "/" ++ r.1))
  else .ok { e with allocated := e.allocated + amount }

def releasedLot (agent : AgentId) (id : String) (a : ResourceAmount) : List Lot :=
  if a.atoms = 0 then [] else [⟨lotId .release id a.resource, a.resource, some agent, a.atoms, a.atoms⟩]

def drawLot (id : String) (amount : Int) : List Lot → List Lot
  | [] => []
  | l :: rest => if l.id = id then { l with remaining := l.remaining - amount } :: rest
      else l :: drawLot id amount rest

/-- One operation applied: the new book, or the reason nothing changed. -/
def applyAllocation (m : PortfolioMandate) (book : AllocationBook) (op : AllocationOp) :
    Except Reason AllocationBook :=
  if agentPolicyOf m op.agent = none then .error (reason .agentUnknown op.agent.value.1)
  else match op with
  | .commit agent id amounts =>
    if applied book .commit id then .error (reason .commitAlreadyApplied id)
    else do
      let entries ← amounts.foldlM
        (fun entries a => withEntry agent a.resource (commitAmount agent a) entries) book.entries
      .ok { book with entries, log := book.log ++ [op] }
  | .release agent id amounts =>
    if applied book .release id then .error (reason .releaseAlreadyApplied id)
    else do
      let entries ← amounts.foldlM
        (fun entries a => withEntry agent a.resource (releaseAmount agent a) entries) book.entries
      .ok { book with
        entries
        lots := book.lots ++ amounts.flatMap (releasedLot agent id)
        log := book.log ++ [op] }
  | .claim agent id lot amount =>
    if book.mode = .preallocated then .error (reason .claimNotPermittedInMode id)
    else if applied book .claim id then .error (reason .claimAlreadyApplied id)
    else match book.lots.find? fun l => l.id = lot with
    | none => .error (reason .lotUnknown lot)
    | some drawn =>
      if amount ≤ 0 ∨ drawn.remaining < amount then .error (reason .lotExhausted lot)
      else do
        let entries ← withEntry agent drawn.resource (claimAmount m agent drawn.resource amount) book.entries
        .ok { book with entries, lots := drawLot lot amount book.lots, log := book.log ++ [op] }

/-- A log replayed from the mandate's initial book: the book, or the first operation refused and why. -/
def replayFrom (m : PortfolioMandate) (book : AllocationBook) :
    List AllocationOp → Nat → Except (Nat × Reason) AllocationBook
  | [], _ => .ok book
  | op :: rest, index =>
    match applyAllocation m book op with
    | .error why => .error (index, why)
    | .ok next => replayFrom m next rest (index + 1)

def replayAllocation (m : PortfolioMandate) (log : List AllocationOp) : Except (Nat × Reason) AllocationBook :=
  replayFrom m (initialBook m) log 0

def checkBookInvariant (m : PortfolioMandate) (book : AllocationBook) : List Reason :=
  (((allocatedResources m).filter fun r =>
      allocatedOf book.entries r + pooledOf book.lots r ≠ amountOf m.limits.amounts r).map
    fun r => reason .candidateBookMismatch ("conservation/" ++ r.1)) ++ ((book.entries.filter fun e =>
      let cap := match agentPolicyOf m e.agent with
        | none => 0
        | some policy =>
          if book.mode = .preallocated then amountOf policy.preferred.amounts e.resource
          else agentCap m e.agent e.resource
      e.allocated < e.committed ∨ cap < e.allocated).map
    fun e => reason .candidateBookMismatch (e.agent.value.1 ++ "/" ++ e.resource.1)) ++
  ((book.lots.filter fun l => l.remaining < 0 ∨ l.amount < l.remaining).map
    fun l => reason .candidateBookMismatch l.id)

end Mandate.Portfolio
