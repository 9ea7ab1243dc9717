import Mandate.Lib.Machine

/-! Optimistic concurrency: programs that read a view of a shared cell, decide on it, and append
by compare-and-swap. A disciplined program commits only what it decided on the very view of the
cell it commits to, commits at most once, and returns a result its commit warrants. -/
namespace Mandate.Lib.Optimistic
open Lib.Machine List

/-- Cells `σ` are read as views `ν`. An append expects a stamp; what befalls it decides whether it
replies and whether it publishes a next cell. -/
structure Store (κ σ ν τ β ρ φ : Type) where
  view : κ → σ → ν
  append : φ → κ → σ → τ → β → Option ρ × Option σ

inductive Program (κ ν τ β ρ α : Type)
  | done (result : α)
  | failed
  | read (key : κ) (next : ν → Program κ ν τ β ρ α)
  | append (key : κ) (expected : τ) (batch : β) (next : ρ → Program κ ν τ β ρ α)

structure System (κ σ ν τ β ρ α ι : Type) where
  cells : κ → σ
  clients : ι → Program κ ν τ β ρ α

structure Commit (κ σ β ι : Type) where
  client : ι
  key : κ
  before : σ
  batch : β
  after : σ
  lost : Bool

variable {κ σ ν τ β ρ φ α ι : Type}

inductive Turn [DecidableEq κ] [DecidableEq ι] (S : Store κ σ ν τ β ρ φ) :
    System κ σ ν τ β ρ α ι → Option (Commit κ σ β ι) → System κ σ ν τ β ρ α ι → Prop
  | read {sys : System κ σ ν τ β ρ α ι} {i : ι} {key : κ} {next : ν → Program κ ν τ β ρ α}
      (turn : sys.clients i = .read key next) :
      Turn S sys none { sys with
        clients := Function.update sys.clients i (next (S.view key (sys.cells key))) }
  | rejected {sys : System κ σ ν τ β ρ α ι} {i : ι} {key : κ} {expected : τ} {batch : β} {fate : φ}
      {reply : Option ρ} {next : ρ → Program κ ν τ β ρ α}
      (turn : sys.clients i = .append key expected batch next)
      (replied : S.append fate key (sys.cells key) expected batch = (reply, none)) :
      Turn S sys none { sys with
        clients := Function.update sys.clients i (reply.elim .failed next) }
  | committed {sys : System κ σ ν τ β ρ α ι} {i : ι} {key : κ} {expected : τ} {batch : β} {fate : φ}
      {reply : Option ρ} {next : ρ → Program κ ν τ β ρ α} {after : σ} (lost : Bool)
      (turn : sys.clients i = .append key expected batch next)
      (replied : S.append fate key (sys.cells key) expected batch = (reply, some after)) :
      Turn S sys (some ⟨i, key, sys.cells key, batch, after, lost⟩) {
        cells := Function.update sys.cells key after
        clients := Function.update sys.clients i (if lost then .failed else reply.elim .failed next) }

section Discipline
variable (S : Store κ σ ν τ β ρ φ) (stamp : ν → τ) (sound : κ → σ → Prop)

/-- What a store has to be: views show the age of their cell; an append that publishes replies, was
expected at the cell's own age and makes the cell older; and sound cells stay sound. -/
structure Lawful (age : σ → Nat) (seenAge : ν → Nat) : Prop where
  viewed : ∀ key cell, seenAge (S.view key cell) = age cell
  replies : ∀ {fate key cell expected batch reply after},
    S.append fate key cell expected batch = (reply, some after) → reply.isSome
  older : ∀ {fate key cell expected batch reply after}, sound key cell →
    S.append fate key cell expected batch = (reply, some after) → age cell < age after
  current : ∀ {fate key cell view batch reply after}, sound key cell →
    S.append fate key cell (stamp view) batch = (reply, some after) → seenAge view = age cell
  kept : ∀ {fate key cell expected batch reply after}, sound key cell →
    S.append fate key cell expected batch = (reply, some after) → sound key after

/-- What a program decides, which results its commit warrants, and which results it may return
without one. -/
structure Contract (κ σ ν β α : Type) where
  decides : κ → ν → β → Prop
  warrants : κ → σ → β → σ → α → Prop
  silent : α → Prop

variable (contract : Contract κ σ ν β α)

/-- Every append is decided on the view read last and expects its stamp. Once it published, the
program returns what it warrants; otherwise it goes on as if nothing had been read. -/
def Follows : Program κ ν τ β ρ α → Option (κ × ν) → Prop
  | .done result, _ => contract.silent result
  | .failed, _ => True
  | .read key next, _ => ∀ view, (∃ cell, sound key cell ∧ S.view key cell = view) →
      Follows (next view) (some (key, view))
  | .append key expected batch next, seen => ∃ view, seen = some (key, view) ∧ expected = stamp view ∧
      contract.decides key view batch ∧ (∀ {fate cell after reply}, sound key cell → S.view key cell = view →
        S.append fate key cell expected batch = (some reply, some after) →
        ∃ result, next reply = .done result ∧ contract.warrants key cell batch after result) ∧
      ∀ {fate cell reply}, sound key cell →
        S.append fate key cell expected batch = (some reply, none) → Follows (next reply) none

def Fits (age : σ → Nat) (seenAge : ν → Nat) (cells : κ → σ) (seen : Option (κ × ν)) : Prop :=
  ∀ key view, seen = some (key, view) → seenAge view ≤ age (cells key) ∧
    (seenAge view = age (cells key) → S.view key (cells key) = view)

/-- Where a client stands: it has committed nothing and follows its discipline, or it has committed
once, and returned what that warrants unless the reply was lost. -/
inductive Standing (age : σ → Nat) (seenAge : ν → Nat) (made : List (Commit κ σ β ι)) (cells : κ → σ)
    (program : Program κ ν τ β ρ α) : Prop
  | idle (nothing : made = []) (seen : Option (κ × ν)) (fits : Fits S age seenAge cells seen)
      (follows : Follows S stamp sound contract program seen)
  | returned (c : Commit κ σ β ι) (once : made = [c]) (result : α) (ended : program = .done result)
      (warranted : contract.warrants c.key c.before c.batch c.after result)
  | lost (c : Commit κ σ β ι) (once : made = [c]) (gone : c.lost = true) (ended : program = .failed)

structure Decided (c : Commit κ σ β ι) : Prop where
  sound : sound c.key c.before
  decided : contract.decides c.key (S.view c.key c.before) c.batch
  appended : ∃ fate reply,
    S.append fate c.key c.before (stamp (S.view c.key c.before)) c.batch = (reply, some c.after)

end Discipline

def commits {Sys : Type} (log : List (Sys × Option (Commit κ σ β ι))) : List (Commit κ σ β ι) :=
  log.filterMap (·.2)

def commitsBy {Sys : Type} [DecidableEq ι] (i : ι) (log : List (Sys × Option (Commit κ σ β ι))) :
    List (Commit κ σ β ι) := (commits log).filter fun c => c.client = i

theorem commits_append {Sys : Type} (log : List (Sys × Option (Commit κ σ β ι))) (sys : Sys)
    (label : Option (Commit κ σ β ι)) : commits (log ++ [(sys, label)]) = commits log ++ label.toList := by
  cases label <;> simp [commits]

section Runs
variable [DecidableEq κ] [DecidableEq ι] {S : Store κ σ ν τ β ρ φ} {stamp : ν → τ}
  {sound : κ → σ → Prop} {age : σ → Nat} {seenAge : ν → Nat} {contract : ι → Contract κ σ ν β α}
  {log : List (System κ σ ν τ β ρ α ι × Option (Commit κ σ β ι))} {sys finish : System κ σ ν τ β ρ α ι}

omit [DecidableEq κ] in
theorem commitsBy_append (i : ι) (label : Option (Commit κ σ β ι)) : commitsBy i (log ++ [(sys, label)]) =
      commitsBy i log ++ label.toList.filter fun c => c.client = i := by
  rw [commitsBy, commits_append, filter_append, ← commitsBy]

theorem Fits.updated {cells : κ → σ} {seen : Option (κ × ν)} {key : κ} {after : σ}
    (fits : Fits S age seenAge cells seen) (grown : age (cells key) < age after) :
    Fits S age seenAge (Function.update cells key after) seen := by
  intro other view here
  obtain ⟨bound, same⟩ := fits other view here
  by_cases moved : other = key
  · subst moved
    rw [Function.update_self]
    exact ⟨by omega, fun equal => by omega⟩
  · rw [Function.update_of_ne moved]
    exact ⟨bound, same⟩

variable (S stamp sound age seenAge contract)

structure Orderly (log : List (System κ σ ν τ β ρ α ι × Option (Commit κ σ β ι)))
    (sys : System κ σ ν τ β ρ α ι) : Prop where
  cells : ∀ key, sound key (sys.cells key)
  decided : ∀ c ∈ commits log, Decided S stamp sound (contract c.client) c
  clients : ∀ i, Standing S stamp sound (contract i) age seenAge (commitsBy i log) sys.cells (sys.clients i)

variable {S stamp sound age seenAge contract}

omit [DecidableEq κ] in
theorem clients_quiet {i : ι} {program : Program κ ν τ β ρ α}
    (clients : ∀ j, Standing S stamp sound (contract j) age seenAge (commitsBy j log) sys.cells
      (sys.clients j))
    (turn : Standing S stamp sound (contract i) age seenAge (commitsBy i log) sys.cells program) :
    ∀ j, Standing S stamp sound (contract j) age seenAge
      (commitsBy j (log ++ [(sys, (none : Option (Commit κ σ β ι)))])) sys.cells
      (Function.update sys.clients i program j) := by
  intro j
  rw [commitsBy_append, Option.toList_none, filter_nil, append_nil]
  by_cases mine : j = i
  · subst mine
    rw [Function.update_self]
    exact turn
  · rw [Function.update_of_ne mine]
    exact clients j

theorem clients_committed {c : Commit κ σ β ι} {program : Program κ ν τ β ρ α}
    (clients : ∀ j, Standing S stamp sound (contract j) age seenAge (commitsBy j log) sys.cells
      (sys.clients j)) (grown : age (sys.cells c.key) < age c.after)
    (turn : Standing S stamp sound (contract c.client) age seenAge (commitsBy c.client log ++ [c])
      (Function.update sys.cells c.key c.after) program) :
    ∀ j, Standing S stamp sound (contract j) age seenAge (commitsBy j (log ++ [(sys, some c)]))
      (Function.update sys.cells c.key c.after) (Function.update sys.clients c.client program j) := by
  intro j
  rw [commitsBy_append, Option.toList_some]
  by_cases mine : j = c.client
  · subst mine
    simpa using turn
  · have theirs : [c].filter (fun made => made.client = j) = [] := by simp [Ne.symm mine]
    rw [Function.update_of_ne mine, theirs, append_nil]
    rcases clients j with ⟨nothing, seen, fits, follows⟩ | ⟨made, once, result, ended, warranted⟩ |
      ⟨made, once, gone, ended⟩
    · exact .idle nothing seen (fits.updated grown) follows
    · exact .returned made once result ended warranted
    · exact .lost made once gone ended

omit [DecidableEq κ] [DecidableEq ι] in
theorem Standing.waiting {made : List (Commit κ σ β ι)} {cells : κ → σ}
    {program : Program κ ν τ β ρ α} {contract : Contract κ σ ν β α}
    (standing : Standing S stamp sound contract age seenAge made cells program)
    (open_ : ∀ result, program ≠ .done result) (alive : program ≠ .failed) :
    made = [] ∧ ∃ seen, Fits S age seenAge cells seen ∧ Follows S stamp sound contract program seen := by
  rcases standing with ⟨nothing, seen, fits, follows⟩ | ⟨_, _, result, ended, _⟩ | ⟨_, _, _, ended⟩
  · exact ⟨nothing, seen, fits, follows⟩
  · exact absurd ended (open_ result)
  · exact absurd ended alive

theorem orderly_step (lawful : Lawful S stamp sound age seenAge) {after : System κ σ ν τ β ρ α ι}
    {label : Option (Commit κ σ β ι)} (before : Orderly S stamp sound age seenAge contract log sys)
    (taken : Turn S sys label after) :
    Orderly S stamp sound age seenAge contract (log ++ [(sys, label)]) after := by
  have nothing : commits (log ++ [(sys, (none : Option (Commit κ σ β ι)))]) = commits log := by
    rw [commits_append, Option.toList_none, append_nil]
  cases taken with
  | @read i key next turn =>
    refine ⟨before.cells, by rw [nothing]; exact before.decided, clients_quiet before.clients ?_⟩
    obtain ⟨idle, seen, _, follows⟩ := (before.clients i).waiting (by simp [turn]) (by simp [turn])
    rw [turn] at follows
    refine .idle idle (some (key, S.view key (sys.cells key))) ?_ (follows _ ⟨_, before.cells key, rfl⟩)
    intro other view here
    obtain ⟨rfl, rfl⟩ := Prod.mk.inj (Option.some.inj here)
    exact ⟨Nat.le_of_eq (lawful.viewed _ _), fun _ => rfl⟩
  | @rejected i key expected batch fate reply next turn replied =>
    refine ⟨before.cells, by rw [nothing]; exact before.decided, clients_quiet before.clients ?_⟩
    obtain ⟨idle, seen, _, follows⟩ := (before.clients i).waiting (by simp [turn]) (by simp [turn])
    rw [turn] at follows
    obtain ⟨view, _, _, _, _, otherwise⟩ := follows
    refine .idle idle none (by simp [Fits]) ?_
    cases reply with
    | none => trivial
    | some reply => exact otherwise (before.cells key) replied
  | @committed i key expected batch fate reply next published lost turn replied =>
    have grown := lawful.older (before.cells key) replied
    obtain ⟨idle, seen, fits, follows⟩ := (before.clients i).waiting (by simp [turn]) (by simp [turn])
    rw [turn] at follows
    obtain ⟨view, here, rfl, decided, reported, _⟩ := follows
    -- The view is the cell's own: a cell that has grown since would have refused the stamp.
    have same := (fits key view here).2 (lawful.current (before.cells key) replied)
    refine ⟨?_, ?_, ?_⟩
    · intro other
      by_cases moved : other = key
      · subst moved
        simpa using lawful.kept (before.cells other) replied
      · simpa [moved] using before.cells other
    · rw [commits_append]
      intro c made
      rcases mem_append.mp made with old | new
      · exact before.decided c old
      · obtain rfl := mem_singleton.mp new
        exact ⟨before.cells key, by rw [same]; exact decided, fate, reply, by rw [same]; exact replied⟩
    · refine clients_committed (c := ⟨i, key, sys.cells key, batch, published, lost⟩) before.clients
        grown ?_
      simp only [idle, nil_append]
      cases lost with
      | true => exact .lost _ rfl rfl rfl
      | false =>
        obtain ⟨reply, rfl⟩ := Option.isSome_iff_exists.mp (lawful.replies replied)
        obtain ⟨result, returned, warranted⟩ := reported (before.cells key) same replied
        exact .returned _ rfl result returned warranted

theorem orderly (lawful : Lawful S stamp sound age seenAge) {start : System κ σ ν τ β ρ α ι}
    (trace : Trace (Turn S) start log finish) (cells : ∀ key, sound key (start.cells key))
    (clients : ∀ i, Follows S stamp sound (contract i) (start.clients i) none) :
    Orderly S stamp sound age seenAge contract log finish := by
  refine trace.history (Orderly S stamp sound age seenAge contract) ⟨cells, by simp [commits], ?_⟩
    fun _ before taken => orderly_step lawful before taken
  exact fun i => .idle rfl none (by simp [Fits]) (clients i)

omit [DecidableEq κ] in
theorem Orderly.returned (run : Orderly S stamp sound age seenAge contract log finish) {i : ι} {result : α}
    (here : finish.clients i = .done result) : (∃ c, commitsBy i log = [c] ∧
        (contract i).warrants c.key c.before c.batch c.after result) ∨
      commitsBy i log = [] ∧ (contract i).silent result := by
  rcases run.clients i with ⟨nothing, seen, _, follows⟩ | ⟨c, once, other, ended, warranted⟩ |
    ⟨_, _, _, ended⟩
  · rw [here] at follows
    exact .inr ⟨nothing, follows⟩
  · rw [here] at ended
    obtain rfl := Program.done.inj ended
    exact .inl ⟨c, once, warranted⟩
  · rw [here] at ended
    cases ended

omit [DecidableEq κ] in
theorem Orderly.atMostOnce (run : Orderly S stamp sound age seenAge contract log finish) (i : ι) :
    (commitsBy i log).length ≤ 1 ∧ (finish.clients i = .failed → ∀ c ∈ commitsBy i log, c.lost = true) := by
  rcases run.clients i with ⟨nothing, _, _, _⟩ | ⟨c, once, result, ended, _⟩ | ⟨c, once, gone, _⟩
  · simp [nothing]
  · simp [once, ended]
  · simp [once, gone]

theorem recorded {γ : Type} {record : σ → List γ} {entry : β → γ}
    (adds : ∀ {fate key cell expected batch reply after},
      S.append fate key cell expected batch = (reply, some after) → record after = record cell ++ [entry batch])
    {start : System κ σ ν τ β ρ α ι} (trace : Trace (Turn S) start log finish) (key : κ) :
    record (finish.cells key) = record (start.cells key) ++
      ((commits log).filter fun c => c.key = key).map fun c => entry c.batch := by
  refine trace.history (fun log (sys : System κ σ ν τ β ρ α ι) => record (sys.cells key) =
    record (start.cells key) ++ ((commits log).filter fun c => c.key = key).map fun c => entry c.batch)
    (by simp [commits]) fun {log before label after} _ so_far taken => ?_
  cases taken with
  | read turn => simpa [commits_append] using so_far
  | rejected turn replied => simpa [commits_append] using so_far
  | @committed i moved expected batch fate reply next published lost turn replied =>
    rw [commits_append, Option.toList_some, filter_append, map_append, ← List.append_assoc, ← so_far]
    by_cases here : moved = key
    · subst here
      simpa using adds replied
    · simp [here, Function.update_of_ne (Ne.symm here)]

end Runs

end Mandate.Lib.Optimistic
