import Mandate.Authoring.Versions

/-! One live version, whatever calls overlap and whatever the ledger answers: what is recorded, what the
ledger holds, and which call still has to say what it revoked. -/
set_option linter.dupNamespace false
namespace Mandate.Authoring
open Core Lib.Machine
open Option (some.inj bind_eq_some_iff)

variable {Draft : Type}

namespace MandateVersions

@[simp] theorem setRecord_length (v : MandateVersions Draft) (index : Nat) (change : VersionRecord → VersionRecord) :
    (v.setRecord index change).entries.length = v.entries.length := List.length_modify ..

@[simp] theorem pauseRevoked_length (v : MandateVersions Draft) (index revokedAt : Nat) :
    (v.pauseRevoked index revokedAt).entries.length = v.entries.length := by
  simp [pauseRevoked]

theorem setRecord_get (v : MandateVersions Draft) (index other : Nat) (change : VersionRecord → VersionRecord) :
    (v.setRecord index change).entries[other]? = (v.entries[other]?).map fun entry =>
      if other = index then { entry with record := change entry.record } else entry := by
  unfold setRecord
  rw [List.getElem?_modify]
  cases v.entries[other]? with
  | none => rfl
  | some entry =>
    by_cases here : index = other
    · subst here
      simp
    · simp [here, Ne.symm here]

variable {v : MandateVersions Draft}

theorem commit_ok {after : MandateVersions Draft} {e : VersionsEnv} {prepared : PreparedVersion Draft}
    {authorization : PrincipalAuthorization} {protocolNow : Int} {supplied : Option String} {c : Commit Draft}
    (committed : v.commit e prepared authorization protocolNow supplied = .ok (c, after)) :
    v.busy = false ∧ v.paused = false ∧ v.reserving = false ∧ (0 < v.entries.length → v.reserved = false) ∧
      prepared.version = v.nextVersion ∧ c.prepared = prepared ∧ c.authorization = authorization ∧
      c.previous = (if v.entries.length = 0 then none else some (v.entries.length - 1)) ∧
      after = { v with busy := true } := by
  unfold commit barred held closed at committed
  split at committed
  · cases committed
  next free =>
    split at committed
    · cases committed
    next next_ =>
      split at committed
      · cases committed
      · split at committed
        · cases committed
        next signature signed =>
          obtain ⟨rfl, rfl⟩ := Prod.mk.inj (Except.ok.inj committed)
          refine ⟨?_, ?_, ?_, ?_, not_not.mp next_, rfl, rfl, rfl, rfl⟩ <;> grind -linarith

theorem authorize_ok {after : MandateVersions Draft} {e : VersionsEnv} {draft : Draft}
    {drafted : Option CompiledMandate} {confirmation : String} {protocolNow : Int} {c : Commit Draft}
    (authorized : v.authorize e draft drafted confirmation protocolNow = .ok (c, after)) :
    ∃ prepared authorization, authorization.method = .demoPrincipalKey ∧
      v.commit e prepared authorization protocolNow none = .ok (c, after) := by
  unfold authorize at authorized
  split at authorized
  · cases authorized
  · split at authorized
    · cases authorized
    · split at authorized
      · cases authorized
      · exact ⟨_, _, rfl, authorized⟩

theorem pause_ok {confirmation : String} {index : Nat}
    (pausing : v.pause confirmation = .ok index) : index + 1 = v.entries.length ∧ v.busy = false ∧ v.paused = false := by
  unfold pause at pausing
  split at pausing
  · cases pausing
  · split at pausing
    · cases pausing
    next free =>
      split at pausing
      next last found =>
        split at pausing
        · cases pausing
        next active =>
          obtain rfl := Except.ok.inj pausing
          have some_entry : v.entries ≠ [] := by
            rintro empty
            rw [empty] at found
            cases found
          have positive := List.length_pos_of_ne_nil some_entry
          refine ⟨by omega, ?_, ?_⟩ <;> grind -linarith
      next => cases pausing

theorem registered_entries (v : MandateVersions Draft) (c : Commit Draft) (revokedAt : Option Nat) (ledgerVersion : Nat) :
    ∃ supersedes, (v.registered c revokedAt ledgerVersion).entries.length = v.entries.length + 1 ∧
      (v.registered c revokedAt ledgerVersion).entries[v.entries.length]? = some (c.entry supersedes ledgerVersion) ∧
      ∀ j, j < v.entries.length → ∃ was now, v.entries[j]? = some was ∧
        (v.registered c revokedAt ledgerVersion).entries[j]? = some now ∧ now.active = was.active ∧
        now.record.version = was.record.version ∧ now.record.digest = was.record.digest ∧
        now.record.authorization = was.record.authorization ∧
        (c.previous = some j ∧ now.record.status = .superseded ∨ c.previous ≠ some j ∧ now.record = was.record) := by
  have found (j : Nat) (within : j < v.entries.length) : v.entries[j]? = some (v.entries.get ⟨j, within⟩) :=
    List.getElem?_eq_getElem within
  refine ⟨(c.previous.bind fun index => v.entries[index]?).map (·.record.version), ?_⟩
  unfold registered
  cases previous : c.previous with
  | none =>
    refine ⟨by simp, by simp, fun j within => ?_⟩
    refine ⟨_, _, found j within, ?_, rfl, rfl, rfl, rfl, .inr ⟨by simp, rfl⟩⟩
    dsimp only
    rw [List.getElem?_append_left within, found j within]
  | some index =>
    refine ⟨by simp, ?_, fun j within => ?_⟩
    · dsimp only
      rw [List.getElem?_append_right (by simp)]
      simp
    · by_cases same : j = index
      · subst same
        have here := found j within
        generalize v.entries.get ⟨j, within⟩ = was at here
        refine ⟨was, { was with record := { was.record with
          status := .superseded, supersededBy := some c.prepared.version, revokedAtLedgerVersion := revokedAt } },
          here, ?_, rfl, rfl, rfl, rfl, .inl ⟨rfl, rfl⟩⟩
        dsimp only
        rw [List.getElem?_append_left (by simpa using within), setRecord_get, here]
        simp
      · refine ⟨_, _, found j within, ?_, rfl, rfl, rfl, rfl, .inr ⟨by simpa using Ne.symm same, rfl⟩⟩
        dsimp only
        rw [List.getElem?_append_left (by simpa using within), setRecord_get, found j within]
        simp [same]

end MandateVersions

section Invariant

def committing : Stage Draft → Option (MandateVersions.Commit Draft)
  | .revoking c _ | .revoked c _ _ | .registering c _ _ | .registered c _ _ => some c
  | _ => none

/-- The call has had a revocation of this entry's root accepted, and has not returned. -/
def owes (index : Nat) : Stage Draft → Prop
  | .revoked _ at_ outcome | .pauseRevoked at_ outcome => outcome.took ∧ at_ = index
  | .registering c _ _ | .registered c _ _ => c.previous = some index
  | .threw revoked => revoked = some index
  | _ => False

def past : Stage Draft → Prop
  | .revoked _ _ outcome => outcome.took
  | .registering _ _ _ | .registered _ _ _ => True
  | _ => False

variable (sys : VersionsSystem Draft)

def standingAt (index : Nat) (standing : Standing) : Prop := (sys.rootAt index).map sys.roots = some standing

/-- The commit's own root is registered, and is no recorded version's. -/
def Registered (c : MandateVersions.Commit Draft) : Prop :=
  sys.roots c.prepared.mandate.root = .live ∧ ∀ index, sys.rootAt index ≠ some c.prepared.mandate.root

structure Sound : Prop where
  numbered : ∀ {i entry}, sys.versions.entries[i]? = some entry →
    entry.record.version = i + 1 ∧ entry.active.version = i + 1
  last : ∀ {i entry}, sys.versions.entries[i]? = some entry → entry.record.status = .active →
    i + 1 = sys.versions.entries.length
  registered : ∀ {i}, ¬standingAt sys i .absent
  earlier : ∀ {i}, i + 1 < sys.versions.entries.length → standingAt sys i .revoked
  owed : ∀ {i entry}, sys.versions.entries[i]? = some entry → entry.record.status = .active →
    standingAt sys i .revoked → ∃ call, owes i (sys.calls call)
  paused : sys.versions.paused → ∀ {i}, i < sys.versions.entries.length → standingAt sys i .revoked
  busy : ∀ {call c}, committing (sys.calls call) = some c → sys.versions.busy
  alone : ∀ {call other c d}, committing (sys.calls call) = some c → committing (sys.calls other) = some d →
    call = other
  next : ∀ {call c}, committing (sys.calls call) = some c → c.prepared.version = sys.versions.entries.length + 1 ∧
    c.previous = if sys.versions.entries.length = 0 then none else some (sys.versions.entries.length - 1)
  revoking : ∀ {call c i}, sys.calls call = .revoking c i → c.previous = some i
  revoked : ∀ {call c i outcome}, sys.calls call = .revoked c i outcome → c.previous = some i
  passed : ∀ {call c i}, past (sys.calls call) → committing (sys.calls call) = some c → c.previous = some i →
    standingAt sys i .revoked
  todo : ∀ {call c revokedAt todo}, sys.calls call = .registering c revokedAt todo →
    .grant c.prepared.mandate.root ∈ todo ∨ Registered sys c
  done : ∀ {call c revokedAt ledgerVersion}, sys.calls call = .registered c revokedAt (.ok ledgerVersion) →
    Registered sys c
  pausing : ∀ {call i}, sys.calls call = .pausing i → i < sys.versions.entries.length
  pauseRevoked : ∀ {call i outcome}, sys.calls call = .pauseRevoked i outcome → i < sys.versions.entries.length ∧
    (outcome.took → standingAt sys i .revoked ∧ i + 1 = sys.versions.entries.length ∧
      ∀ other, ¬past (sys.calls other))
  shut : sys.versions.paused → ∀ call, ¬past (sys.calls call)

end Invariant

section Stepped
variable {sys : VersionsSystem Draft} {label : VersionsLabel Draft} {call : Nat}

def Begins : VersionsLabel Draft → MandateVersions.Commit Draft → Prop
  | .authorize _ _ _ _ _, c => c.authorization.method = .demoPrincipalKey
  | .commit _ prepared authorization _ _, c => c.prepared = prepared ∧ c.authorization = authorization
  | _, _ => False

/-- Nothing is being reserved, and nothing has been that an amendment would count again. -/
def MandateVersions.Free (v : MandateVersions Draft) : Prop :=
  v.reserving = false ∧ (0 < v.entries.length → v.reserved = false)

def VersionsLabel.passes : VersionsLabel Draft → Prop
  | .beginReservation | .endReservation _ | .markReserved => True
  | _ => False

variable (sys label) in
/-- What one step leaves: a call begins, the ledger answers it, it goes on or ends, or a pass sets its flags. -/
inductive Stepped : VersionsSystem Draft → Prop
  | refuses {call stage} (idle : sys.calls call = .idle)
      (ends : (∃ code, stage = .returned (.error code)) ∨ stage = .threw none) : Stepped (sys.move call stage)
  | begins {call c} (idle : sys.calls call = .idle) (begins : Begins label c) (free : sys.versions.busy = false)
      (unpaused : sys.versions.paused = false) (unreserved : sys.versions.Free)
      (version : c.prepared.version = sys.versions.nextVersion)
      (previous : c.previous =
        if sys.versions.entries.length = 0 then none else some (sys.versions.entries.length - 1)) :
      Stepped (sys.start call (.ok (c, { sys.versions with busy := true })))
  | pauses {call index} (idle : sys.calls call = .idle) (last : index + 1 = sys.versions.entries.length) :
      Stepped (sys.move call (.pausing index))
  | revokes {call c index root roots outcome} (here : sys.calls call = .revoking c index)
      (found : sys.rootAt index = some root) (answered : revokeRoot sys.roots root outcome = some roots) :
      Stepped ({ sys with roots }.move call (.revoked c index outcome))
  | registers {call c revokedAt write todo roots outcome stage}
      (here : sys.calls call = .registering c revokedAt (write :: todo))
      (answered : register sys.roots write outcome = some roots)
      (goes : stage = .registered c revokedAt outcome ∨ stage = .registering c revokedAt todo ∧ outcome.took = true)
      (ends : ∀ version, stage = .registered c revokedAt (.ok version) → todo = []) :
      Stepped ({ sys with roots }.move call stage)
  | revokesPaused {call index root roots outcome} (here : sys.calls call = .pausing index)
      (found : sys.rootAt index = some root) (answered : revokeRoot sys.roots root outcome = some roots) :
      Stepped ({ sys with roots }.move call (.pauseRevoked index outcome))
  | proceeds {call c index ledgerVersion} (here : sys.calls call = .revoked c index (.ok ledgerVersion)) :
      Stepped (sys.move call (.registering c (some ledgerVersion) (registrationOf c.prepared.mandate)))
  | stops {call c stage} (here : committing (sys.calls call) = some c)
      (keeps : ∀ i, owes i (sys.calls call) → owes i stage)
      (ends : (∃ code, stage = .returned (.error code)) ∨ ∃ revoked, stage = .threw revoked) :
      Stepped ({ sys with versions := sys.versions.release }.move call stage)
  | completes {call c revokedAt ledgerVersion} (here : sys.calls call = .registered c revokedAt (.ok ledgerVersion)) :
      Stepped ({ sys with versions := sys.versions.registered c revokedAt ledgerVersion }.move call
        (.returned (.ok c.prepared.version)))
  | fails {call c revokedAt} (here : sys.calls call = .registered c revokedAt .refused) :
      Stepped ({ sys with versions := sys.versions.registerRefused c revokedAt }.move call
        (.returned (.error .ledgerRefused)))
  | paused {call index ledgerVersion} (here : sys.calls call = .pauseRevoked index (.ok ledgerVersion)) :
      Stepped ({ sys with versions := sys.versions.pauseRevoked index ledgerVersion }.move call
        (.returned (.ok (index + 1))))
  | unpaused {call index outcome stage} (here : sys.calls call = .pauseRevoked index outcome)
      (keeps : ∀ i, owes i (sys.calls call) → owes i stage)
      (ends : (∃ code, stage = .returned (.error code)) ∨ ∃ revoked, stage = .threw revoked) :
      Stepped (sys.move call stage)
  | flags {versions} (passes : label.passes) (entries : versions.entries = sys.versions.entries)
      (paused : versions.paused = sys.versions.paused) (busy : versions.busy = sys.versions.busy) :
      Stepped { sys with versions }

theorem Stepped.starts {e : VersionsEnv} {made : Except RefusalCode (MandateVersions.Commit Draft × MandateVersions Draft)}
    (idle : sys.calls call = .idle)
    (begun : ∀ made', made = .ok made' → Begins label made'.1 ∧ ∃ prepared authorization protocolNow supplied,
      sys.versions.commit e prepared authorization protocolNow supplied = .ok made') :
    Stepped sys label (sys.start call made) := by
  cases made with
  | error code => exact .refuses idle (.inl ⟨code, rfl⟩)
  | ok made =>
    obtain ⟨c, versions⟩ := made
    obtain ⟨begins, _, _, _, _, committed⟩ := begun _ rfl
    obtain ⟨free, unpaused, reserving, reserved, version, rfl, -, previous, rfl⟩ := MandateVersions.commit_ok committed
    exact .begins idle begins free unpaused ⟨reserving, reserved⟩ version previous

theorem Stepped.answers {outcome : Outcome} {after : VersionsSystem Draft}
    (answered : sys.ledger call outcome = some after) : Stepped sys label after := by
  unfold VersionsSystem.ledger at answered
  split at answered
  next c index here =>
    obtain ⟨root, found, answered⟩ := bind_eq_some_iff.mp answered
    obtain ⟨roots, revoked, answered⟩ := bind_eq_some_iff.mp answered
    obtain rfl := some.inj answered
    exact .revokes here found revoked
  next c revokedAt write todo here =>
    obtain ⟨roots, registered, answered⟩ := bind_eq_some_iff.mp answered
    obtain rfl := some.inj answered
    refine .registers here registered ?_ ?_
    · cases outcome with
      | ok version =>
        cases todo with
        | nil => exact .inl rfl
        | cons _ _ => exact .inr ⟨rfl, rfl⟩
      | refused => exact .inl rfl
      | thrown took => exact .inl rfl
    · intro version ends
      cases todo with
      | nil => rfl
      | cons _ _ => cases outcome <;> cases ends
  next index here =>
    obtain ⟨root, found, answered⟩ := bind_eq_some_iff.mp answered
    obtain ⟨roots, revoked, answered⟩ := bind_eq_some_iff.mp answered
    obtain rfl := some.inj answered
    exact .revokesPaused here found revoked
  next => cases answered

theorem Stepped.resumes {after : VersionsSystem Draft} (resumed : sys.resume call = some after) :
    Stepped sys label after := by
  unfold VersionsSystem.resume at resumed
  split at resumed
  next c index outcome here =>
    have commits : committing (sys.calls call) = some c := by rw [here]; rfl
    obtain rfl := some.inj resumed
    cases outcome with
    | ok ledgerVersion => exact .proceeds here
    | refused => exact .stops commits (by rw [here]; exact fun i owed => absurd owed.1 nofun) (.inl ⟨_, rfl⟩)
    | thrown took =>
      refine .stops commits ?_ (.inr ⟨_, rfl⟩)
      rintro i owed
      rw [here] at owed
      obtain ⟨rfl, rfl⟩ := owed
      rfl
  next c revokedAt outcome here =>
    have commits : committing (sys.calls call) = some c := by rw [here]; rfl
    obtain rfl := some.inj resumed
    cases outcome with
    | ok ledgerVersion => exact .completes here
    | refused => exact .fails here
    | thrown took => exact .stops commits (by rw [here]; exact fun i owed => owed) (.inr ⟨_, rfl⟩)
  next index outcome here =>
    obtain rfl := some.inj resumed
    cases outcome with
    | ok ledgerVersion => exact .paused here
    | refused => exact .unpaused here (by rw [here]; exact fun i owed => absurd owed.1 nofun) (.inl ⟨_, rfl⟩)
    | thrown took =>
      refine .unpaused here ?_ (.inr ⟨_, rfl⟩)
      rintro i owed
      rw [here] at owed
      obtain ⟨rfl, rfl⟩ := owed
      rfl
  next => cases resumed

theorem VersionsSystem.Steps.stepped {e : VersionsEnv} {after : VersionsSystem Draft}
    (taken : VersionsSystem.Steps e sys label after) :
    Stepped sys label after := by
  unfold VersionsSystem.Steps VersionsSystem.step at taken
  cases label with
  | authorize call draft drafted confirmation protocolNow =>
    dsimp only at taken
    split at taken
    next idle =>
      obtain rfl := some.inj taken
      refine .starts (e := e) idle fun made authorized => ?_
      obtain ⟨prepared, authorization, method, committed⟩ := MandateVersions.authorize_ok authorized
      obtain ⟨-, -, -, -, -, -, same, -⟩ := MandateVersions.commit_ok committed
      exact ⟨(congrArg PrincipalAuthorization.method same).trans method, _, _, _, _, committed⟩
    next => cases taken
  | commit call prepared authorization protocolNow supplied =>
    dsimp only at taken
    split at taken
    next idle =>
      obtain rfl := some.inj taken
      refine .starts (e := e) idle fun made committed => ?_
      obtain ⟨-, -, -, -, -, prepared_, same, -⟩ := MandateVersions.commit_ok committed
      exact ⟨⟨prepared_, same⟩, _, _, _, _, committed⟩
    next => cases taken
  | pause call confirmation =>
    dsimp only at taken
    split at taken
    next idle =>
      obtain rfl := some.inj taken
      cases pausing : sys.versions.pause confirmation with
      | error code => exact .refuses idle (.inl ⟨code, rfl⟩)
      | ok index => exact .pauses idle (MandateVersions.pause_ok pausing).1
    next => cases taken
  | ledger call outcome => exact .answers taken
  | resume call => exact .resumes taken
  | beginReservation =>
    obtain rfl := some.inj taken
    unfold MandateVersions.beginReservation
    split <;> exact .flags trivial rfl rfl rfl
  | endReservation reserved =>
    obtain rfl := some.inj taken
    cases reserved <;> exact .flags trivial rfl rfl rfl
  | markReserved =>
    obtain rfl := some.inj taken
    exact .flags trivial rfl rfl rfl

end Stepped

section Steps
variable {sys after : VersionsSystem Draft} {call index ledgerVersion : Nat} {stage : Stage Draft}
  {label : VersionsLabel Draft} {c : MandateVersions.Commit Draft} {revokedAt : Option Nat} {roots : Roots}
  {root : AuthorityId} {write : LedgerWrite} {outcome : Outcome} {e : VersionsEnv}

theorem revokeRoot_some {after : Roots} (answered : revokeRoot roots root outcome = some after) :
    outcome.took = true ∧ roots root = .live ∧ after = Function.update roots root .revoked ∨
      outcome.took = false ∧ after = roots := by
  unfold revokeRoot at answered
  grind -linarith

theorem register_some {after : Roots} (answered : register roots write outcome = some after) :
    after = roots ∧ (∀ id, write = .grant id → outcome.took = false) ∨
      ∃ id, write = .grant id ∧ outcome.took = true ∧ roots id = .absent ∧
        after = Function.update roots id .live := by
  unfold register at answered
  grind -linarith

theorem registered_spec (v : MandateVersions Draft) (c : MandateVersions.Commit Draft) (revokedAt : Option Nat)
    (ledgerVersion : Nat) : ∃ entry : Entry Draft,
      (entry.record.version = c.prepared.version ∧ entry.active.version = c.prepared.version ∧
        entry.active.mandate = c.prepared.mandate) ∧
      (v.registered c revokedAt ledgerVersion).entries.length = v.entries.length + 1 ∧
      (v.registered c revokedAt ledgerVersion).entries[v.entries.length]? = some entry ∧
      (∀ (j : Nat) (e : Entry Draft), (v.registered c revokedAt ledgerVersion).entries[j]? = some e →
        j = v.entries.length ∧ e = entry ∨ j < v.entries.length ∧ ∃ was,
          v.entries[j]? = some was ∧ e.active = was.active ∧ e.record.version = was.record.version ∧
          e.record.digest = was.record.digest ∧ e.record.authorization = was.record.authorization ∧
          (c.previous = some j ∧ e.record.status = .superseded ∨ c.previous ≠ some j ∧ e.record = was.record)) ∧
      ∀ j : Nat, ((v.registered c revokedAt ledgerVersion).entries[j]?).map (fun entry => entry.active.mandate.root) =
        if j = v.entries.length then some c.prepared.mandate.root
        else (v.entries[j]?).map fun entry => entry.active.mandate.root := by
  obtain ⟨supersedes, length, fresh, others⟩ := MandateVersions.registered_entries v c revokedAt ledgerVersion
  have version : (c.entry supersedes ledgerVersion).record.version = c.prepared.version ∧
      (c.entry supersedes ledgerVersion).active.version = c.prepared.version ∧
      (c.entry supersedes ledgerVersion).active.mandate = c.prepared.mandate := ⟨rfl, rfl, rfl⟩
  generalize c.entry supersedes ledgerVersion = entry at fresh version
  generalize v.registered c revokedAt ledgerVersion = versions at *
  refine ⟨entry, version, length, fresh, fun j e at_ => ?_, fun j => ?_⟩
  · have within : j < versions.entries.length := (List.getElem?_eq_some_iff.mp at_).1
    rcases Nat.lt_or_ge j v.entries.length with old | new
    · obtain ⟨was, now, was_, now_, rest⟩ := others j old
      obtain rfl := Option.some.inj (now_.symm.trans at_)
      exact .inr ⟨old, was, was_, rest⟩
    · obtain rfl : j = v.entries.length := by omega
      exact .inl ⟨rfl, Option.some.inj (at_.symm.trans fresh)⟩
  · split
    next new => rw [new, fresh, Option.map_some, version.2.2]
    next old =>
      rcases Nat.lt_or_ge j v.entries.length with within | beyond
      · obtain ⟨was, now, was_, now_, same, _⟩ := others j within
        rw [was_, now_, Option.map_some, Option.map_some, same]
      · rw [List.getElem?_eq_none (by omega), List.getElem?_eq_none (by omega)]

theorem setRecord_spec (v : MandateVersions Draft) (index : Nat) (change : VersionRecord → VersionRecord) :
    (v.setRecord index change).entries.length = v.entries.length ∧
    (∀ (j : Nat) (e : Entry Draft), (v.setRecord index change).entries[j]? = some e → ∃ was, v.entries[j]? = some was ∧
      e.active = was.active ∧ (j = index ∧ e.record = change was.record ∨ j ≠ index ∧ e.record = was.record)) ∧
    ∀ j : Nat, ((v.setRecord index change).entries[j]?).map (fun entry => entry.active.mandate.root) =
      (v.entries[j]?).map fun entry => entry.active.mandate.root := by
  refine ⟨MandateVersions.setRecord_length v index change, fun j e at_ => ?_, fun j => ?_⟩
  · rw [MandateVersions.setRecord_get] at at_
    obtain ⟨was, found, rfl⟩ := Option.map_eq_some_iff.mp at_
    refine ⟨was, found, ?_, ?_⟩
    · split <;> rfl
    · by_cases same : j = index
      · exact .inl ⟨same, by rw [if_pos same]⟩
      · exact .inr ⟨same, by rw [if_neg same]⟩
  · rw [MandateVersions.setRecord_get]
    cases v.entries[j]? with
    | none => rfl
    | some entry =>
      simp only [Option.map_some]
      split <;> rfl

/-- Seventeen clauses in four groups, each settled by one search. -/
private theorem grouped {A B C D E F G H I J K L M N O P Q S : Prop}
    (mk : A → B → C → D → E → F → G → H → I → J → K → L → M → N → O → P → Q → S) (p : A ∧ B ∧ C ∧ D ∧ E)
    (q : F ∧ G ∧ H ∧ I) (r : J ∧ K ∧ L ∧ M) (s : N ∧ O ∧ P ∧ Q) : S := by
  obtain ⟨a, b, c, d, e⟩ := p
  obtain ⟨f, g, h, i⟩ := q
  obtain ⟨j, k, l, m⟩ := r
  obtain ⟨n, o, p, q⟩ := s
  exact mk a b c d e f g h i j k l m n o p q

section
open VersionsSystem (rootAt move)
open Function (update_apply)

variable (sound : Sound sys)
include sound

theorem Sound.moves (keeps : ∀ i, owes i (sys.calls call) → owes i stage)
    (ends : (∃ result, stage = .returned result) ∨ (∃ revoked, stage = .threw revoked) ∨
      ∃ i, stage = .pausing i ∧ i < sys.versions.entries.length) : Sound (sys.move call stage) := by
  cases sound
  simp only [standingAt, Registered, rootAt] at *
  refine grouped Sound.mk ?_ ?_ ?_ ?_ <;> simp only [move, update_apply, standingAt, Registered, rootAt]
  all_goals grind -linarith [committing, owes, past]

theorem Sound.begins_first (alone : ∀ other, committing (sys.calls other) = none)
    (unpaused : sys.versions.paused = false) (version : c.prepared.version = sys.versions.nextVersion)
    (empty : sys.versions.entries.length = 0) (previous : c.previous = none) :
    Sound ({ sys with versions := { sys.versions with busy := true } }.move call
      (.registering c none (registrationOf c.prepared.mandate))) := by
  have root : LedgerWrite.grant c.prepared.mandate.root ∈ registrationOf c.prepared.mandate := by simp [registrationOf]
  cases sound
  simp only [standingAt, Registered, rootAt, MandateVersions.nextVersion] at *
  refine grouped Sound.mk ?_ ?_ ?_ ?_ <;> simp only [move, update_apply, standingAt, Registered, rootAt]
  all_goals grind -linarith [committing, owes, past]

theorem Sound.begins_next (idle : sys.calls call = .idle)
    (alone : ∀ other, committing (sys.calls other) = none) (quiet : ∀ other, ¬past (sys.calls other))
    (unpaused : sys.versions.paused = false) (version : c.prepared.version = sys.versions.nextVersion)
    (some_ : sys.versions.entries.length ≠ 0) (previous : c.previous = some (sys.versions.entries.length - 1)) :
    Sound ({ sys with versions := { sys.versions with busy := true } }.move call
      (.revoking c (sys.versions.entries.length - 1))) := by
  cases sound
  simp only [standingAt, Registered, rootAt, MandateVersions.nextVersion] at *
  refine grouped Sound.mk ?_ ?_ ?_ ?_ <;> simp only [move, update_apply, standingAt, Registered, rootAt]
  all_goals grind -linarith [committing, owes, past]

theorem Sound.begins (idle : sys.calls call = .idle) (free : sys.versions.busy = false)
    (unpaused : sys.versions.paused = false) (version : c.prepared.version = sys.versions.nextVersion)
    (previous : c.previous =
      if sys.versions.entries.length = 0 then none else some (sys.versions.entries.length - 1)) :
    Sound (sys.start call (.ok (c, { sys.versions with busy := true }))) := by
  have alone (other : Nat) : committing (sys.calls other) = none := by
    cases stage : committing (sys.calls other) with
    | none => rfl
    | some d => rw [sound.busy stage] at free; cases free
  have quiet (other : Nat) : ¬past (sys.calls other) := by
    have none_ := alone other
    intro passed
    cases stage : sys.calls other <;> simp [stage, past, committing] at passed none_
  unfold VersionsSystem.start
  by_cases empty : sys.versions.entries.length = 0
  · rw [if_pos empty] at previous
    simp only [previous]
    exact sound.begins_first alone unpaused version empty previous
  · rw [if_neg empty] at previous
    simp only [previous]
    exact sound.begins_next idle alone quiet unpaused version empty previous

theorem Sound.revokes_root (here : sys.calls call = .revoking c index) (found : sys.rootAt index = some root)
    (took : outcome.took = true) (live : sys.roots root = .live) :
    Sound ({ sys with roots := Function.update sys.roots root .revoked }.move call (.revoked c index outcome)) := by
  cases sound
  simp only [standingAt, Registered, rootAt] at *
  refine grouped Sound.mk ?_ ?_ ?_ ?_ <;> simp only [move, update_apply, standingAt, Registered, rootAt]
  all_goals grind -linarith [committing, owes, past, update_apply]

theorem Sound.revokes_none (here : sys.calls call = .revoking c index) (found : sys.rootAt index = some root)
    (kept : outcome.took = false) : Sound (sys.move call (.revoked c index outcome)) := by
  cases sound
  simp only [standingAt, Registered, rootAt] at *
  refine grouped Sound.mk ?_ ?_ ?_ ?_ <;> simp only [move, update_apply, standingAt, Registered, rootAt]
  all_goals grind -linarith [committing, owes, past]

theorem Sound.revokes (here : sys.calls call = .revoking c index)
    (found : sys.rootAt index = some root) (answered : revokeRoot sys.roots root outcome = some roots) :
    Sound ({ sys with roots }.move call (.revoked c index outcome)) := by
  rcases revokeRoot_some answered with ⟨took, live, rfl⟩ | ⟨kept, rfl⟩
  · exact sound.revokes_root here found took live
  · exact sound.revokes_none here found kept

theorem Sound.pauses_root (here : sys.calls call = .pausing index) (found : sys.rootAt index = some root)
    (took : outcome.took = true) (live : sys.roots root = .live) :
    Sound ({ sys with roots := Function.update sys.roots root .revoked }.move call (.pauseRevoked index outcome)) := by
  have within : index < sys.versions.entries.length := sound.pausing here
  have last : index + 1 = sys.versions.entries.length := by
    by_contra other
    have revoked : standingAt sys index .revoked := sound.earlier (by omega)
    unfold standingAt at revoked
    rw [found, Option.map_some, live] at revoked
    cases revoked
  have quiet (other : Nat) : ¬past (sys.calls other) := by
    intro passed
    obtain ⟨c, commits⟩ : ∃ c, committing (sys.calls other) = some c := by
      cases stage : sys.calls other <;> simp [stage, past, committing] at passed ⊢
    have previous := (sound.next commits).2
    rw [if_neg (by omega)] at previous
    have revoked := sound.passed passed commits previous
    rw [show sys.versions.entries.length - 1 = index by omega] at revoked
    unfold standingAt at revoked
    rw [found, Option.map_some, live] at revoked
    cases revoked
  cases sound
  simp only [standingAt, Registered, rootAt] at *
  refine grouped Sound.mk ?_ ?_ ?_ ?_ <;> simp only [move, update_apply, standingAt, Registered, rootAt]
  all_goals grind -linarith [committing, owes, past, update_apply]

theorem Sound.pauses_none (here : sys.calls call = .pausing index) (kept : outcome.took = false) :
    Sound (sys.move call (.pauseRevoked index outcome)) := by
  have within : index < sys.versions.entries.length := sound.pausing here
  cases sound
  simp only [standingAt, Registered, rootAt] at *
  refine grouped Sound.mk ?_ ?_ ?_ ?_ <;> simp only [move, update_apply, standingAt, Registered, rootAt]
  all_goals grind -linarith [committing, owes, past]

theorem Sound.pauses (here : sys.calls call = .pausing index) (found : sys.rootAt index = some root)
    (answered : revokeRoot sys.roots root outcome = some roots) :
    Sound ({ sys with roots }.move call (.pauseRevoked index outcome)) := by
  rcases revokeRoot_some answered with ⟨took, live, rfl⟩ | ⟨kept, rfl⟩
  · exact sound.pauses_root here found took live
  · exact sound.pauses_none here kept

private theorem Sound.writes {todo : List LedgerWrite}
    (here : sys.calls call = .registering c revokedAt (write :: todo))
    (kept : ∀ id, write = .grant id → outcome.took = false)
    (goes : stage = .registered c revokedAt outcome ∨ stage = .registering c revokedAt todo ∧ outcome.took = true)
    (ends : ∀ version, stage = .registered c revokedAt (.ok version) → todo = []) :
    Sound (sys.move call stage) := by
  cases sound
  simp only [standingAt, Registered, rootAt] at *
  refine grouped Sound.mk ?_ ?_ ?_ ?_ <;> simp only [move, update_apply, standingAt, Registered, rootAt]
  all_goals grind -linarith [committing, owes, past, Outcome.took]

theorem Sound.registers {todo : List LedgerWrite}
    (here : sys.calls call = .registering c revokedAt (write :: todo))
    (answered : register sys.roots write outcome = some roots)
    (goes : stage = .registered c revokedAt outcome ∨ stage = .registering c revokedAt todo ∧ outcome.took = true)
    (ends : ∀ version, stage = .registered c revokedAt (.ok version) → todo = []) :
    Sound ({ sys with roots }.move call stage) := by
  rcases register_some answered with ⟨rfl, kept⟩ | ⟨id, rfl, took, absent, rfl⟩
  · exact sound.writes here kept goes ends
  · cases sound
    simp only [standingAt, Registered, rootAt] at *
    refine grouped Sound.mk ?_ ?_ ?_ ?_ <;> simp only [move, update_apply, standingAt, Registered, rootAt]
    all_goals grind -linarith [committing, owes, past, Outcome.took, update_apply]

theorem Sound.proceeds (here : sys.calls call = .revoked c index (.ok ledgerVersion)) :
    Sound (sys.move call (.registering c (some ledgerVersion) (registrationOf c.prepared.mandate))) := by
  have root : LedgerWrite.grant c.prepared.mandate.root ∈ registrationOf c.prepared.mandate := by simp [registrationOf]
  cases sound
  simp only [standingAt, Registered, rootAt] at *
  refine grouped Sound.mk ?_ ?_ ?_ ?_ <;> simp only [move, update_apply, standingAt, Registered, rootAt]
  all_goals grind -linarith [committing, owes, past, Outcome.took]

theorem Sound.stops (here : committing (sys.calls call) = some c)
    (keeps : ∀ i, owes i (sys.calls call) → owes i stage)
    (ends : (∃ code, stage = .returned (.error code)) ∨ ∃ revoked, stage = .threw revoked) :
    Sound ({ sys with versions := sys.versions.release }.move call stage) := by
  cases sound
  simp only [standingAt, Registered, rootAt, MandateVersions.release] at *
  refine grouped Sound.mk ?_ ?_ ?_ ?_ <;> simp only [move, update_apply, standingAt, Registered, rootAt]
  all_goals grind -linarith [committing, owes, past]

theorem Sound.completes (here : sys.calls call = .registered c revokedAt (.ok ledgerVersion)) :
    Sound ({ sys with versions := sys.versions.registered c revokedAt ledgerVersion }.move call
      (.returned (.ok c.prepared.version))) := by
  have paused : (sys.versions.registered c revokedAt ledgerVersion).paused = sys.versions.paused := by
    unfold MandateVersions.registered
    cases c.previous <;> rfl
  obtain ⟨entry, version, length, fresh, found, roots⟩ := registered_spec sys.versions c revokedAt ledgerVersion
  generalize sys.versions.registered c revokedAt ledgerVersion = versions at *
  have live := sound.done here
  have next := sound.next (show committing (sys.calls call) = some c by rw [here]; rfl)
  have passed : past (sys.calls call) := by rw [here]; trivial
  have revoked {i : Nat} (previous : c.previous = some i) := sound.passed passed (by rw [here]; rfl) previous
  have free (other : Nat) (different : other ≠ call) : committing (sys.calls other) = none := by
    cases stage : committing (sys.calls other) with
    | none => rfl
    | some d => exact absurd (sound.alone stage (by rw [here]; rfl : committing (sys.calls call) = some c)) different
  cases sound
  simp only [standingAt, Registered, rootAt] at *
  refine grouped Sound.mk ?_ ?_ ?_ ?_ <;> simp only [move, update_apply, standingAt, Registered, rootAt]
  all_goals grind -linarith [committing, owes, past]

theorem Sound.fails (here : sys.calls call = .registered c revokedAt .refused) :
    Sound ({ sys with versions := sys.versions.registerRefused c revokedAt }.move call
      (.returned (.error .ledgerRefused))) := by
  have commits : committing (sys.calls call) = some c := by rw [here]; rfl
  have passed : past (sys.calls call) := by rw [here]; trivial
  have next := (sound.next commits).2
  unfold MandateVersions.registerRefused
  cases previous : c.previous with
  | none =>
    refine sound.stops commits ?_ (.inl ⟨_, rfl⟩)
    intro i owed
    rw [here] at owed
    exact absurd (previous.symm.trans owed) nofun
  | some index =>
    have revoked := sound.passed passed commits previous
    have last : index + 1 = sys.versions.entries.length := by
      rw [previous] at next
      split at next
      · cases next
      · have := Option.some.inj next
        omega
    have free (other : Nat) (different : other ≠ call) : committing (sys.calls other) = none := by
      cases stage : committing (sys.calls other) with
      | none => rfl
      | some d => exact absurd (sound.alone stage commits) different
    have quiet (other : Nat) (different : other ≠ call) : ¬past (sys.calls other) := by
      have none_ := free other different
      intro passed
      cases stage : sys.calls other <;> simp [stage, past, committing] at passed none_
    dsimp only
    obtain ⟨length, found, roots⟩ := setRecord_spec sys.versions index
      fun record => { record with status := .revoked, revokedAtLedgerVersion := revokedAt }
    generalize sys.versions.setRecord index
      (fun record => { record with status := .revoked, revokedAtLedgerVersion := revokedAt }) = versions at *
    cases sound
    simp only [standingAt, Registered, rootAt] at *
    refine grouped Sound.mk ?_ ?_ ?_ ?_ <;> simp only [move, update_apply, standingAt, Registered, rootAt]
    all_goals grind -linarith [committing, owes, past]

theorem Sound.pausedBy (here : sys.calls call = .pauseRevoked index (.ok ledgerVersion)) :
    Sound ({ sys with versions := sys.versions.pauseRevoked index ledgerVersion }.move call
      (.returned (.ok (index + 1)))) := by
  obtain ⟨within, took⟩ := sound.pauseRevoked here
  obtain ⟨revoked, last, quiet⟩ := took rfl
  unfold MandateVersions.pauseRevoked
  obtain ⟨length, found, roots⟩ := setRecord_spec sys.versions index
    fun record => { record with status := .revoked, revokedAtLedgerVersion := some ledgerVersion }
  have busy : (sys.versions.setRecord index fun record =>
    { record with status := .revoked, revokedAtLedgerVersion := some ledgerVersion }).busy = sys.versions.busy := rfl
  generalize sys.versions.setRecord index
    (fun record => { record with status := .revoked, revokedAtLedgerVersion := some ledgerVersion }) = versions at *
  cases sound
  simp only [standingAt, Registered, rootAt] at *
  refine grouped Sound.mk ?_ ?_ ?_ ?_ <;> simp only [move, update_apply, standingAt, Registered, rootAt]
  all_goals grind -linarith [committing, owes, past]

theorem Sound.flags {versions : MandateVersions Draft} (entries : versions.entries = sys.versions.entries)
    (paused : versions.paused = sys.versions.paused) (busy : versions.busy = sys.versions.busy) :
    Sound { sys with versions } := by
  cases sound
  constructor <;> simp only [standingAt, Registered, rootAt, entries, paused, busy] at * <;> assumption

theorem Sound.stepped (taken : Stepped sys label after) : Sound after := by
  have keeps {call : Nat} {stage : Stage Draft} (idle : sys.calls call = .idle) (i : Nat)
      (owed : owes i (sys.calls call)) : owes i stage := by
    rw [idle] at owed
    exact owed.elim
  cases taken with
  | refuses idle ends =>
    refine sound.moves (keeps idle) ?_
    rcases ends with ⟨code, rfl⟩ | rfl
    · exact .inl ⟨_, rfl⟩
    · exact .inr (.inl ⟨_, rfl⟩)
  | begins idle _ free unpaused _ version previous => exact sound.begins idle free unpaused version previous
  | pauses idle last => exact sound.moves (keeps idle) (.inr (.inr ⟨_, rfl, by omega⟩))
  | revokes here found answered => exact sound.revokes here found answered
  | registers here answered goes ends => exact sound.registers here answered goes ends
  | revokesPaused here found answered => exact sound.pauses here found answered
  | proceeds here => exact sound.proceeds here
  | stops here keeps ends => exact sound.stops here keeps ends
  | completes here => exact sound.completes here
  | fails here => exact sound.fails here
  | paused here => exact sound.pausedBy here
  | unpaused here keeps ends =>
    refine sound.moves keeps ?_
    rcases ends with ⟨code, rfl⟩ | threw
    · exact .inl ⟨_, rfl⟩
    · exact .inr (.inl threw)
  | flags _ entries paused busy => exact sound.flags entries paused busy

theorem Sound.step (taken : VersionsSystem.Steps e sys label after) : Sound after := sound.stepped taken.stepped

end

theorem sound_new : Sound (VersionsSystem.new : VersionsSystem Draft) := by
  constructor <;> simp [VersionsSystem.new, MandateVersions.new, standingAt, VersionsSystem.rootAt, committing, owes, past]

theorem sound_reached {e : VersionsEnv} {log : List (VersionsSystem Draft × VersionsLabel Draft)}
    (trace : Trace (VersionsSystem.Steps e) .new log sys) : Sound sys :=
  trace.history (fun _ sys => Sound sys) sound_new fun _ sound taken => sound.step taken

end Steps

section Runs
variable {e : VersionsEnv} {log : List (VersionsSystem Draft × VersionsLabel Draft)} {sys after : VersionsSystem Draft}
  {label : VersionsLabel Draft}

/-- Some commit or pause has had a revocation of the last version accepted, and has not returned. -/
def Unreturned (sys : VersionsSystem Draft) : Prop :=
  ∃ call, owes (sys.versions.entries.length - 1) (sys.calls call)

/-- The active version's root is live, or its revocation has yet to be reported. -/
def LiveOrUnreturned (sys : VersionsSystem Draft) (a : ActiveMandate Draft) : Prop :=
  sys.roots a.mandate.root = .live ∨ sys.roots a.mandate.root = .revoked ∧ Unreturned sys

variable {a : ActiveMandate Draft}

theorem active_entry {v : MandateVersions Draft} (active : v.active = some a) :
    v.paused = false ∧ 0 < v.entries.length ∧ ∃ entry, v.entries[v.entries.length - 1]? = some entry ∧
      entry.record.status = .active ∧ entry.active = a := by
  unfold MandateVersions.active at active
  split at active
  · cases active
  next running =>
    split at active
    next last found =>
      split at active
      next standing =>
        obtain rfl := Option.some.inj active
        rw [List.getLast?_eq_getElem?] at found
        have within := (List.getElem?_eq_some_iff.mp found).1
        exact ⟨Bool.eq_false_iff.mpr running, by omega, last, found, standing, rfl⟩
      · cases active
    · cases active

theorem Sound.live (sound : Sound sys) (active : sys.versions.active = some a) :
    a.version = sys.versions.entries.length ∧ LiveOrUnreturned sys a := by
  obtain ⟨_, positive, entry, found, standing, rfl⟩ := active_entry active
  refine ⟨by have := (sound.numbered found).2; omega, ?_⟩
  have here : sys.rootAt (sys.versions.entries.length - 1) = some entry.active.mandate.root := by
    unfold VersionsSystem.rootAt
    rw [found, Option.map_some]
  have known := sound.registered (i := sys.versions.entries.length - 1)
  have owed := sound.owed found standing
  unfold standingAt at known owed
  rw [here, Option.map_some] at known owed
  unfold LiveOrUnreturned Unreturned
  cases root : sys.roots entry.active.mandate.root with
  | absent => exact absurd (congrArg some root) known
  | live => exact .inl rfl
  | revoked => exact .inr ⟨rfl, owed (congrArg some root)⟩

theorem Sound.commits_last (sound : Sound sys) {call : Nat} {c : MandateVersions.Commit Draft} (commits : committing (sys.calls call) = some c) (active : sys.versions.active = some a) :
    a.version + 1 = c.prepared.version := by
  rw [(sound.live active).1, (sound.next commits).1]

theorem Sound.stays_paused (sound : Sound sys) (paused : sys.versions.paused)
    (taken : VersionsSystem.Steps e sys label after) :
    after.versions.paused ∧ after.versions.entries.length = sys.versions.entries.length := by
  cases taken.stepped with
  | begins _ _ _ unpaused => exact absurd (paused.symm.trans unpaused) nofun
  | @completes call _ _ _ here | @fails call _ _ here =>
    have quiet := sound.shut paused call
    rw [here] at quiet
    exact absurd trivial quiet
  | paused => exact ⟨rfl, MandateVersions.pauseRevoked_length ..⟩
  | flags _ entries same => exact ⟨same.trans paused, congrArg List.length entries⟩
  | _ => exact ⟨paused, rfl⟩

theorem refusal_keeps {call : Nat} {code : RefusalCode} (taken : VersionsSystem.Steps e sys label after)
    (running : ∀ result, sys.calls call ≠ .returned result) (refused : after.calls call = .returned (.error code)) :
    after.versions.active = none ∨ after.versions.active = sys.versions.active := by
  have other {s : VersionsSystem Draft} {call' : Nat} {stage : Stage Draft} (same : s.calls = sys.calls)
      (moved : (s.move call' stage).calls call = .returned (.error code)) : stage = .returned (.error code) := by
    simp only [VersionsSystem.move, Function.update_apply, same] at moved
    split at moved
    · exact moved
    · exact absurd moved (running _)
  cases taken.stepped with
  | @begins call c =>
    have stage := other (s := { sys with versions := { sys.versions with busy := true } }) rfl refused
    split at stage <;> cases stage
  | @completes call c revokedAt ledgerVersion =>
    cases other (s := { sys with versions := sys.versions.registered c revokedAt ledgerVersion }) rfl refused
  | @fails call c revokedAt =>
    unfold MandateVersions.registerRefused
    cases c.previous with
    | none => exact .inr rfl
    | some index => exact .inl rfl
  | @paused call index ledgerVersion =>
    cases other (s := { sys with versions := sys.versions.pauseRevoked index ledgerVersion }) rfl refused
  | flags => exact absurd refused (running _)
  | _ => exact .inr rfl

/-- What holds of one session's versions after any run of overlapping calls. -/
structure OneLive (e : VersionsEnv) (log : List (VersionsSystem Draft × VersionsLabel Draft))
    (sys : VersionsSystem Draft) : Prop where
  numbered : ∀ {i entry}, sys.versions.entries[i]? = some entry →
    entry.record.version = i + 1 ∧ entry.active.version = i + 1
  last : ∀ {i entry}, sys.versions.entries[i]? = some entry → entry.record.status = .active →
    i + 1 = sys.versions.entries.length
  live : ∀ {a}, sys.versions.active = some a → a.version = sys.versions.entries.length ∧ LiveOrUnreturned sys a ∧
    ∀ i, i + 1 < sys.versions.entries.length → standingAt sys i .revoked
  paused : ∀ {earlier was call index ledgerVersion later}, log = earlier ++ (was, .resume call) :: later →
    was.calls call = .pauseRevoked index (.ok ledgerVersion) →
    sys.versions.entries.length = was.versions.entries.length ∧ sys.versions.active = none ∧
      ∀ i, i < sys.versions.entries.length → standingAt sys i .revoked
  refused : ∀ {earlier was label later}, log = earlier ++ (was, label) :: later →
    ∃ after, VersionsSystem.Steps e was label after ∧ ∀ {call code},
      (∀ result, was.calls call ≠ .returned result) → after.calls call = .returned (.error code) →
      after.versions.active = none ∨ after.versions.active = was.versions.active ∧
        ∀ a, after.versions.active = some a → LiveOrUnreturned after a ∧
          ∀ c, committing (was.calls call) = some c → a.version + 1 = c.prepared.version

theorem one_live_version (trace : Trace (VersionsSystem.Steps e) .new log sys) : OneLive e log sys := by
  have sound := sound_reached trace
  refine ⟨sound.numbered, sound.last, ?_, ?_, ?_⟩
  · intro a active
    obtain ⟨version, live⟩ := sound.live active
    exact ⟨version, live, fun i earlier => sound.earlier earlier⟩
  · intro earlier was call index ledgerVersion later here pausing
    obtain ⟨after, prior, taken, onward⟩ := trace.split here
    have sound_was := sound_reached prior
    obtain rfl : after = { was with versions := was.versions.pauseRevoked index ledgerVersion }.move call
        (.returned (.ok (index + 1))) := by
      unfold VersionsSystem.Steps VersionsSystem.step VersionsSystem.resume at taken
      simp only [pausing] at taken
      exact (Option.some.inj taken).symm
    have length := MandateVersions.pauseRevoked_length was.versions index ledgerVersion
    obtain ⟨paused, same, _⟩ := onward.history
      (fun _ sys => sys.versions.paused = true ∧ sys.versions.entries.length = was.versions.entries.length ∧ Sound sys)
      ⟨rfl, length, sound_was.step taken⟩ fun _ ⟨paused, same, sound⟩ taken =>
        ⟨(sound.stays_paused paused taken).1, ((sound.stays_paused paused taken).2).trans same, sound.step taken⟩
    refine ⟨same, ?_, fun i within => sound.paused paused within⟩
    unfold MandateVersions.active
    rw [if_pos paused]
  · intro earlier was label later here
    obtain ⟨after, prior, taken, _⟩ := trace.split here
    have sound_was := sound_reached prior
    have sound_after := sound_was.step taken
    refine ⟨after, taken, fun running refused => ?_⟩
    rcases refusal_keeps taken running refused with none_ | same
    · exact .inl none_
    · refine .inr ⟨same, fun a active => ⟨(sound_after.live active).2, fun c commits => ?_⟩⟩
      exact sound_was.commits_last commits (same ▸ active)

end Runs

section Amendment

def sampleVersionsEnv : VersionsEnv := ⟨"0xd3m0", fun _ => "signed", fun _ _ _ _ => false, fun _ _ _ _ _ => false⟩

def sampleMandate (version : Nat) (root : AuthorityId) : CompiledMandate :=
  ⟨BitVec.ofNat 256 version, version, "eip155-address", "0xd3m0", 1000, [("portfolio-notional", 500)], ["swap"], root, []⟩

def sampleVersion (version : Nat) (root : AuthorityId) : PreparedVersion String :=
  ⟨version, "draft", sampleMandate version root, 5⟩

def byDemoKey : PrincipalAuthorization := ⟨.demoPrincipalKey, "0xd3m0", "0xd3m0", none, .notDelegated⟩

/-- The first version is authorized; an amendment has revoked its root and not yet registered its own. -/
def amending : List (VersionsLabel String) :=
  [.commit 0 (sampleVersion 1 101) byDemoKey 5 none, .ledger 0 (.ok 1), .ledger 0 (.ok 2), .resume 0,
   .commit 1 (sampleVersion 2 201) byDemoKey 6 none, .ledger 1 (.ok 3)]

theorem amending_reaches : ∃ log, ∃ sys : VersionsSystem String,
    Trace (VersionsSystem.Steps sampleVersionsEnv) .new log sys ∧
    ∃ a, sys.versions.active = some a ∧ a.version = 1 ∧ sys.roots a.mandate.root = .revoked :=
  ⟨_, _, replay_trace (show replay (VersionsSystem.step sampleVersionsEnv) .new amending = some (_, _) from rfl),
    _, rfl, rfl, by decide⟩

/-- A version's root may be revoked while the version is still active: its amendment is not done. -/
theorem active_root_revoked : ¬∀ (e : VersionsEnv) (log : List (VersionsSystem String × VersionsLabel String))
    (sys : VersionsSystem String), Trace (VersionsSystem.Steps e) .new log sys →
    ∀ a, sys.versions.active = some a → sys.roots a.mandate.root = .live := by
  intro claimed
  obtain ⟨log, sys, trace, a, active, _, revoked⟩ := amending_reaches
  rw [claimed _ log sys trace a active] at revoked
  cases revoked

theorem one_live_version_amending : ∃ log, ∃ sys : VersionsSystem String,
    Trace (VersionsSystem.Steps sampleVersionsEnv) .new log sys ∧ sys.versions.entries.length = 1 ∧ OneLive sampleVersionsEnv log sys := by
  obtain ⟨log, sys, trace, a, active, first, _⟩ := amending_reaches
  have one := one_live_version trace
  exact ⟨log, sys, trace, (one.live active).1 ▸ first, one⟩

end Amendment

end Mandate.Authoring
