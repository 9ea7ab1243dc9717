import Mandate.Lib.Machine
import Mathlib.Data.List.Induction

/-! Programs that call services they share. What a client asks next is decided by the answers it
has had, so a discipline on each client's own transcript is one on every call of every
interleaving, however many clients crash on the way. -/
namespace Mandate.Lib.Calls
open Lib.Machine List

inductive Program (Call : Type) (Reply : Call → Type) (α : Type)
  | done (result : α)
  | failed
  | call (request : Call) (next : Reply request → Program Call Reply α)

variable {Call σ α β ι : Type} {Reply : Call → Type}

def Program.bind : Program Call Reply α → (α → Program Call Reply β) → Program Call Reply β
  | .done result, rest => rest result
  | .failed, _ => .failed
  | .call request next, rest => .call request fun reply => (next reply).bind rest

abbrev Answer (Call : Type) (Reply : Call → Type) := Σ request : Call, Reply request

structure System (σ Call : Type) (Reply : Call → Type) (α ι : Type) where
  store : σ
  clients : ι → Program Call Reply α

structure Event (Call : Type) (Reply : Call → Type) (ι : Type) where
  client : ι
  answer : Answer Call Reply
  lost : Bool

abbrev History (σ Call : Type) (Reply : Call → Type) (α ι : Type) :=
  List (System σ Call Reply α ι × Option (Event Call Reply ι))

inductive Turn [DecidableEq ι] (answers : (request : Call) → σ → Reply request → σ → Prop) :
    System σ Call Reply α ι → Option (Event Call Reply ι) → System σ Call Reply α ι → Prop
  | crashed {sys : System σ Call Reply α ι} {i : ι} {request : Call}
      {next : Reply request → Program Call Reply α} (turn : sys.clients i = .call request next) :
      Turn answers sys none { sys with clients := Function.update sys.clients i .failed }
  | served {sys : System σ Call Reply α ι} {i : ι} {request : Call} {reply : Reply request}
      {next : Reply request → Program Call Reply α} {store : σ} (lost : Bool)
      (turn : sys.clients i = .call request next) (answered : answers request sys.store reply store) :
      Turn answers sys (some ⟨i, ⟨request, reply⟩, lost⟩)
        ⟨store, Function.update sys.clients i (if lost then .failed else next reply)⟩

def transcript [DecidableEq ι] (i : ι) (log : History σ Call Reply α ι) : List (Answer Call Reply) :=
  ((log.filterMap (·.2)).filter fun e => e.client = i ∧ e.lost = false).map (·.answer)

section Discipline
variable (possible : Answer Call Reply → Prop) (permits : List (Answer Call Reply) → Call → Prop)
  (warrants : List (Answer Call Reply) → α → Prop)

/-- Every call is permitted by the answers so far, and so is the result. -/
def Obeys : Program Call Reply α → List (Answer Call Reply) → Prop
  | .done result, had => warrants had result
  | .failed, _ => True
  | .call request next, had => permits had request ∧
      ∀ reply, possible ⟨request, reply⟩ → Obeys (next reply) (had ++ [⟨request, reply⟩])

variable {possible permits warrants} {had : List (Answer Call Reply)}

theorem Obeys.done {result : α} (warranted : warrants had result) :
    Obeys possible permits warrants (.done result) had := warranted

theorem Obeys.failed : Obeys possible permits warrants .failed had :=
  True.intro

theorem Obeys.call {request : Call} {next : Reply request → Program Call Reply α} (permitted : permits had request)
    (onward : ∀ reply, possible ⟨request, reply⟩ →
      Obeys possible permits warrants (next reply) (had ++ [⟨request, reply⟩])) :
    Obeys possible permits warrants (.call request next) had := ⟨permitted, onward⟩

theorem Obeys.bind {program : Program Call Reply β} {rest : β → Program Call Reply α}
    (first : Obeys possible permits (fun had result => Obeys possible permits warrants (rest result) had)
      program had) : Obeys possible permits warrants (program.bind rest) had := by
  induction program generalizing had with
  | done result => exact first
  | failed => trivial
  | call request next ih => exact ⟨first.1, fun reply able => ih reply (first.2 reply able)⟩

theorem Obeys.weaken {program : Program Call Reply α}
    {looser : List (Answer Call Reply) → α → Prop} (follows : Obeys possible permits warrants program had)
    (weaker : ∀ had result, warrants had result → looser had result) :
    Obeys possible permits looser program had := by
  induction program generalizing had with
  | done result => exact weaker had result follows
  | failed => trivial
  | call request next ih => exact ⟨follows.1, fun reply able => ih reply (follows.2 reply able)⟩

theorem Obeys.grown {program : Program Call Reply α} (follows : Obeys possible permits warrants program had) :
    Obeys possible permits (fun later result => had ⊆ later ∧ warrants later result) program had := by
  induction program generalizing had with
  | done result => exact ⟨List.Subset.refl had, follows⟩
  | failed => trivial
  | call request next ih =>
    refine ⟨follows.1, fun reply able => (ih reply (follows.2 reply able)).weaken ?_⟩
    rintro later result ⟨grown, warranted⟩
    exact ⟨fun answer listed => grown (mem_append_left _ listed), warranted⟩

end Discipline

inductive Alone (answers : (request : Call) → σ → Reply request → σ → Prop) :
    σ → Program Call Reply α → σ → Program Call Reply α → Prop
  | here (store : σ) (program : Program Call Reply α) : Alone answers store program store program
  | served {store middle finish : σ} {request : Call} (reply : Reply request)
      {next : Reply request → Program Call Reply α} {program : Program Call Reply α}
      (answered : answers request store reply middle)
      (rest : Alone answers middle (next reply) finish program) :
      Alone answers store (.call request next) finish program

theorem Alone.trans {answers : (request : Call) → σ → Reply request → σ → Prop} {first second third : σ}
    {program middle last : Program Call Reply α} (before : Alone answers first program second middle)
    (after : Alone answers second middle third last) : Alone answers first program third last := by
  induction before with
  | here store program => exact after
  | served reply answered _ ih => exact .served reply answered (ih after)

theorem Alone.under {answers : (request : Call) → σ → Reply request → σ → Prop} {first second : σ}
    {program middle : Program Call Reply β} {rest : β → Program Call Reply α}
    (before : Alone answers first program second middle) :
    Alone answers first (program.bind rest) second (middle.bind rest) := by
  induction before with
  | here store program => exact .here store _
  | served reply answered _ ih => exact .served reply answered ih

theorem Alone.bind {answers : (request : Call) → σ → Reply request → σ → Prop} {first second third : σ}
    {program : Program Call Reply β} {result : β} {rest : β → Program Call Reply α}
    {last : Program Call Reply α} (before : Alone answers first program second (.done result))
    (after : Alone answers second (rest result) third last) :
    Alone answers first (program.bind rest) third last :=
  before.under.trans after

section Runs
variable [DecidableEq ι] {answers : (request : Call) → σ → Reply request → σ → Prop}
  {log : History σ Call Reply α ι} {start finish sys : System σ Call Reply α ι}
  {possible : Answer Call Reply → Prop} {permits : ι → List (Answer Call Reply) → Call → Prop}
  {warrants : ι → List (Answer Call Reply) → α → Prop}

theorem Alone.run {i : ι} {store after : σ} {program last : Program Call Reply α}
    (alone : Alone answers store program after last) (trace : Trace (Turn answers) start log sys)
    (here : sys.store = store) (mine : sys.clients i = program) :
    ∃ later, Trace (Turn answers) start later ⟨after, Function.update sys.clients i last⟩ := by
  induction alone generalizing log sys with
  | here store program =>
    subst here mine
    exact ⟨log, by rw [Function.update_eq_self]; exact trace⟩
  | @served store middle finish request reply next program answered _ ih =>
    subst here
    obtain ⟨later, reached⟩ := ih (trace.snoc (Turn.served false mine answered)) rfl
      (Function.update_self i (next reply) sys.clients)
    exact ⟨later, by simpa using reached⟩

theorem transcript_append (i : ι) (label : Option (Event Call Reply ι)) :
    transcript i (log ++ [(sys, label)]) = transcript i log ++
      (label.toList.filter fun e => e.client = i ∧ e.lost = false).map (·.answer) := by
  cases label <;> simp [transcript]

theorem transcript_other {i : ι} {e : Event Call Reply ι} (other : e.client ≠ i) :
    transcript i (log ++ [(sys, some e)]) = transcript i log := by
  simp [transcript_append, other]

theorem transcript_crashed (i : ι) :
    transcript i (log ++ [(sys, (none : Option (Event Call Reply ι)))]) = transcript i log := by
  simp [transcript_append]

theorem transcript_served (i : ι) (answer : Answer Call Reply) :
    transcript i (log ++ [(sys, some ⟨i, answer, false⟩)]) = transcript i log ++ [answer] := by
  simp [transcript_append]

variable {answer : Answer Call Reply}

theorem mem_transcript {i : ι} :
    answer ∈ transcript i log ↔ ∃ before, (before, some ⟨i, answer, false⟩) ∈ log := by
  simp only [transcript, mem_map, mem_filter, mem_filterMap, Prod.exists]
  constructor
  · rintro ⟨⟨client, _, lost⟩, ⟨⟨before, label, listed, rfl⟩, mine⟩, rfl⟩
    obtain ⟨rfl, rfl⟩ := of_decide_eq_true mine
    exact ⟨before, listed⟩
  · rintro ⟨before, listed⟩
    exact ⟨⟨i, answer, false⟩, ⟨⟨before, some ⟨i, answer, false⟩, listed, rfl⟩, by simp⟩, rfl⟩

theorem transcript_last {i : ι} (last : (transcript i log).getLast? = some answer) :
    ∃ earlier before later, log = earlier ++ (before, some ⟨i, answer, false⟩) :: later ∧
      transcript i later = [] := by
  induction log using List.reverseRecOn with
  | nil => simp [transcript] at last
  | append_singleton log entry ih =>
    obtain ⟨before, label⟩ := entry
    by_cases mine : ∃ told, label = some ⟨i, told, false⟩
    · obtain ⟨told, rfl⟩ := mine
      rw [transcript_served, getLast?_concat] at last
      obtain rfl := Option.some.inj last
      exact ⟨log, before, [], rfl, rfl⟩
    · have silent (rest : History σ Call Reply α ι) :
          transcript i (rest ++ [(before, label)]) = transcript i rest := by
        cases label with
        | none => exact transcript_crashed i
        | some e =>
          obtain ⟨client, told, lost⟩ := e
          have nothing : ¬(client = i ∧ lost = false) := by
            rintro ⟨rfl, rfl⟩
            exact mine ⟨told, rfl⟩
          simp [transcript_append, nothing]
      rw [silent] at last
      obtain ⟨earlier, found, later, rfl, quiet⟩ := ih last
      exact ⟨earlier, found, later ++ [(before, label)], by simp, by rw [silent, quiet]⟩

theorem disciplined (sound : σ → Prop) (trace : Trace (Turn answers) start log finish)
    (sound_start : sound start.store)
    (kept : ∀ {request store reply after}, sound store → answers request store reply after →
      sound after ∧ possible ⟨request, reply⟩)
    (clients : ∀ i, Obeys possible (permits i) (warrants i) (start.clients i) []) :
    sound finish.store ∧ ∀ i, Obeys possible (permits i) (warrants i) (finish.clients i) (transcript i log) := by
  refine trace.history (fun log (sys : System σ Call Reply α ι) => sound sys.store ∧
    ∀ i, Obeys possible (permits i) (warrants i) (sys.clients i) (transcript i log))
    ⟨sound_start, clients⟩ ?_
  rintro log before label after _ ⟨sound_before, follows⟩ taken
  cases taken with
  | @crashed i request next turn =>
    refine ⟨sound_before, (Function.forall_update_iff before.clients fun j program =>
      Obeys possible (permits j) (warrants j) program (transcript j (log ++ [(before, none)]))).mpr ⟨trivial, ?_⟩⟩
    intro j _
    rw [transcript_crashed]
    exact follows j
  | @served i request reply next store lost turn answered =>
    obtain ⟨sound_after, able⟩ := kept sound_before answered
    refine ⟨sound_after, (Function.forall_update_iff before.clients fun j program =>
      Obeys possible (permits j) (warrants j) program
        (transcript j (log ++ [(before, some ⟨i, ⟨request, reply⟩, lost⟩)]))).mpr ⟨?_, ?_⟩⟩
    · cases lost with
      | true => trivial
      | false =>
        have here := follows i
        rw [turn] at here
        rw [transcript_served]
        exact here.2 reply able
    · intro j other
      rw [transcript_other (Ne.symm other)]
      exact follows j

theorem lost_failed {i : ι} (trace : Trace (Turn answers) start log finish) {was : System σ Call Reply α ι} (listed : (was, some ⟨i, answer, true⟩) ∈ log) : finish.clients i = .failed := by
  revert listed
  refine trace.history (fun log (sys : System σ Call Reply α ι) =>
    (was, some ⟨i, answer, true⟩) ∈ log → sys.clients i = .failed) nofun ?_
  intro log before label after _ ih taken listed
  rcases mem_append.mp listed with listed | listed
  · have failed := ih listed
    have silent {j : ι} {request : Call} {next : Reply request → Program Call Reply α}
        (turn : before.clients j = .call request next) : i ≠ j := by
      rintro rfl
      rw [failed] at turn
      cases turn
    cases taken with
    | crashed turn => rw [← failed]; exact Function.update_of_ne (silent turn) _ _
    | served lost turn answered => rw [← failed]; exact Function.update_of_ne (silent turn) _ _
  · obtain ⟨rfl, rfl⟩ := Prod.mk.inj (mem_singleton.mp listed)
    cases taken with
    | served lost turn answered => exact Function.update_self i _ _

end Runs

end Mandate.Lib.Calls
