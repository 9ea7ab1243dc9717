import Mandate.Ledger.Solvency

/-! Progress of accounting: what a reservation still holds can always be consumed, closed or
restored, whatever became of the authority it was reserved under. -/
namespace Mandate.Ledger
open Core Lib.Scale Lib.Table List

def AccountingKind.Admits (kind : AccountingKind) (d : DemandRecord) (amount : Int) : Prop :=
  0 ≤ amount ∧
  (match kind with
  | .consume => amount ≤ d.reserved - d.consumed
  | .close => amount = d.reserved - d.consumed
  | .restore => amount ≤ d.consumed - d.restored ∧ (0 < amount → ∃ leg ∈ d.legs, leg.capacity = true)) ∧
  ∀ leg ∈ d.legs, kind.posting.only leg.capacity = true → ∃ x : Int, (x : ℚ) = atScale d leg amount

/-- What an event adds to the consumed counter of a target, the only one that may overflow. -/
def AccountingKind.consumes (kind : AccountingKind) (x : ℚ) : ℚ :=
  match kind with
  | .consume => x
  | _ => 0

def Room (kind : AccountingKind) (keys : TargetKey → Prop) (targets : Targets) (ahead : TargetKey → ℚ) : Prop :=
  kind = .consume → ∀ key b, keys key → targets.lookup key = some b →
    (b.consumed : ℚ) + ahead key ≤ UINT256_MAX

variable {kind : AccountingKind} {keys : TargetKey → Prop} {targets : Targets} {d : DemandRecord} {amount : Int}

theorem check_admits (admits : kind.Admits d amount) (path : String) :
    kind.posting.check d amount path = .ok () := by
  obtain ⟨_, bound, _⟩ := admits
  cases kind with
  | consume =>
    simp only [AccountingKind.posting, consumePosting, ite_refuse_ok]
    exact ⟨by omega, trivial⟩
  | close =>
    simp only [AccountingKind.posting, closePosting, ite_refuse_ok]
    exact ⟨not_not.mpr bound, trivial⟩
  | restore =>
    simp only [AccountingKind.posting, restorePosting, ite_refuse_ok]
    refine ⟨by omega, ?_, trivial⟩
    rintro ⟨positive, budget⟩
    obtain ⟨leg, listed, capacity⟩ := bound.2 positive
    have none := all_eq_true.mp budget leg listed
    simp [capacity] at none

theorem update_admits {b : TargetBalance} {x : Int} (epoch : Option Int)
    (room : kind = .consume → (b.consumed : ℚ) + x ≤ UINT256_MAX) :
    ∃ next, kind.posting.update b x epoch = some next ∧
      (kind = .consume → (next.consumed : ℚ) = b.consumed + x) := by
  cases kind with
  | consume =>
    have fits : ¬(UINT256_MAX : Int) < b.consumed + x := by
      have bound := room rfl
      exact_mod_cast not_lt.mpr bound
    simp only [AccountingKind.posting, consumePosting, if_neg fits]
    exact ⟨_, rfl, fun _ => by push_cast; rfl⟩
  | close => exact ⟨_, rfl, by simp⟩
  | restore => exact ⟨_, rfl, by simp⟩

theorem forEachLeg_accepts (path : String) {legs : List LegRecord}
    {later : TargetKey → ℚ} (nonneg : 0 ≤ amount) (inside : ∀ leg ∈ legs, keys leg.key)
    (whole : ∀ leg ∈ legs, kind.posting.only leg.capacity = true → ∃ x : Int, (x : ℚ) = atScale d leg amount)
    (ahead : ∀ key, keys key → 0 ≤ later key) (present : ∀ key, keys key → (targets.lookup key).isSome)
    (room : Room kind keys targets fun key =>
      legSum key (fun leg => kind.consumes (atScale d leg amount)) legs + later key) :
    ∃ moved, forEachLeg d amount path kind.posting.only kind.posting.update legs targets = .ok moved ∧
      Room kind keys moved later ∧ ∀ key, keys key → (moved.lookup key).isSome := by
  have positive : ∀ rest key, 0 ≤ legSum key (fun leg => kind.consumes (atScale d leg amount)) rest := by
    intro rest key
    refine sum_nonneg fun value listed => ?_
    obtain ⟨leg, _, rfl⟩ := mem_map.mp listed
    have scaled : 0 ≤ atScale d leg amount := rescaled_nonneg nonneg _ _
    split
    · cases kind <;> simp [AccountingKind.consumes, scaled]
    · exact le_rfl
  induction legs generalizing targets with
  | nil =>
    refine ⟨targets, rfl, fun consumes key b charged there => ?_, present⟩
    simpa using room consumes key b charged there
  | cons leg rest ih =>
    have others : ∀ leg' ∈ rest, kind.posting.only leg'.capacity = true → _ := fun leg' listed =>
      whole leg' (mem_cons_of_mem _ listed)
    have inner : ∀ leg' ∈ rest, keys leg'.key := fun leg' listed => inside leg' (mem_cons_of_mem _ listed)
    cases applies : kind.posting.only leg.capacity with
    | false =>
      have skip : kind ≠ .consume := by
        rintro rfl
        cases applies
      simp only [forEachLeg, applies, Bool.false_eq_true, if_false]
      exact ih inner others present fun consumes => absurd consumes skip
    | true =>
      obtain ⟨x, exact⟩ := whole leg mem_cons_self applies
      have own := inside leg mem_cons_self
      obtain ⟨b, there⟩ := Option.isSome_iff_exists.mp (present leg.key own)
      have fits : kind = .consume → (b.consumed : ℚ) + x ≤ UINT256_MAX := by
        rintro rfl
        have bound := room rfl leg.key b own there
        simp only [legSum_cons, if_true] at bound
        have rest_nonneg := positive rest leg.key
        have later_nonneg := ahead leg.key own
        simp only [AccountingKind.consumes] at bound rest_nonneg
        rw [exact]
        linarith
      obtain ⟨next, updated, counted⟩ := update_admits leg.epoch fits
      have still : ∀ key, keys key → ((targets.insert leg.key next).lookup key).isSome := by
        intro key charged
        rw [lookup_insert_eq]
        split
        · rfl
        · exact present key charged
      have onward : Room kind keys (targets.insert leg.key next) fun key =>
          legSum key (fun leg => kind.consumes (atScale d leg amount)) rest + later key := by
        intro consumes key found charged registered
        rw [lookup_insert_eq] at registered
        split at registered
        · rename_i here
          obtain rfl := Option.some.inj registered
          have bound := room consumes key b charged (here ▸ there)
          simp only [legSum_cons, if_pos here.symm] at bound
          rw [counted consumes, exact]
          subst consumes
          simp only [AccountingKind.consumes] at bound ⊢
          linarith
        · rename_i other
          have bound := room consumes key found charged registered
          simpa only [legSum_cons, if_neg (Ne.symm other), zero_add] using bound
      obtain ⟨moved, posted, roomy, kept⟩ := ih inner others still onward
      refine ⟨moved, ?_, roomy, kept⟩
      simp only [forEachLeg, applies, if_true, rescaleExact_some.mpr exact, there, orThrow, Option.elim_some, bind,
        Except.bind, updated]
      exact posted

theorem demands_accepts {pairs : List (DemandRecord × Int)} {index : Nat}
    (inside : ∀ pair ∈ pairs, ∀ leg ∈ pair.1.legs, keys leg.key)
    (admits : ∀ pair ∈ pairs, kind.Admits pair.1 pair.2)
    (present : ∀ key, keys key → (targets.lookup key).isSome)
    (room : Room kind keys targets fun key => (pairs.map fun pair =>
      legSum key (fun leg => kind.consumes (atScale pair.1 leg pair.2)) pair.1.legs).sum) :
    ∃ moved, kind.posting.demands pairs index targets = .ok moved := by
  induction pairs generalizing targets index with
  | nil => exact ⟨_, rfl⟩
  | cons pair rest ih =>
    have admitted := admits pair mem_cons_self
    have others := fun pair listed => admits pair (mem_cons_of_mem _ listed)
    have ahead : ∀ key, keys key → 0 ≤ (rest.map fun pair =>
        legSum key (fun leg => kind.consumes (atScale pair.1 leg pair.2)) pair.1.legs).sum := by
      intro key _
      refine sum_nonneg fun value listed => ?_
      obtain ⟨other, there, rfl⟩ := mem_map.mp listed
      refine sum_nonneg fun value listed => ?_
      obtain ⟨leg, _, rfl⟩ := mem_map.mp listed
      have scaled : 0 ≤ atScale other.1 leg other.2 := rescaled_nonneg (others other there).1 _ _
      split
      · cases kind <;> simp [AccountingKind.consumes, scaled]
      · exact le_rfl
    obtain ⟨between, first, roomy, kept⟩ := forEachLeg_accepts (atIndex "amounts" index) admitted.1
      (inside pair mem_cons_self) admitted.2.2 ahead present room
    obtain ⟨moved, later⟩ := @ih between (index + 1)
      (fun pair listed => inside pair (mem_cons_of_mem _ listed)) others kept roomy
    have here : kind.posting.demand pair.1 pair.2 (atIndex "amounts" index) targets = .ok between := by
      rw [Posting.demand, check_admits admitted]
      exact first
    refine ⟨(moved.1, kind.posting.record pair.1 pair.2 :: moved.2), ?_⟩
    rw [Posting.demands, here]
    change (do
      let others ← kind.posting.demands rest (index + 1) between
      .ok (others.1, kind.posting.record pair.1 pair.2 :: others.2)) = _
    rw [later]
    rfl

section Events
variable {s : LedgerState} {e : AccountingEvent} {r : ReservationRecord}

theorem zip_admits {demands : List DemandRecord} {amounts : List Int}
    (admits : List.Forall₂ kind.Admits demands amounts) :
    ∀ pair ∈ demands.zip amounts, kind.Admits pair.1 pair.2 := by
  induction admits with
  | nil => simp
  | cons here _ ih => exact forall_mem_cons.mpr ⟨here, ih⟩

theorem room_admits (books : Books s.targets s.reservations)
    (known : s.reservations.lookup e.reservation = some r) (active : kind = .restore ∨ r.status = .active)
    (admits : List.Forall₂ kind.Admits r.demands e.amounts)
    (room : kind = .consume → ∀ d ∈ r.demands, ∀ leg ∈ d.legs, ∀ b, s.targets.lookup leg.key = some b →
      b.consumed + b.reserved ≤ UINT256_MAX) :
    Room kind (fun key => ∃ d ∈ r.demands, ∃ leg ∈ d.legs, leg.key = key) s.targets fun key =>
      ((r.demands.zip e.amounts).map fun pair =>
        legSum key (fun leg => kind.consumes (atScale pair.1 leg pair.2)) pair.1.legs).sum := by
  rintro rfl key b ⟨d, listed, leg, charged, rfl⟩ present
  have open_ := active.resolve_left (by simp)
  have held := books.read reservedOf leg.key
  rw [present] at held
  change (b.reserved : ℚ) = total (chargedTo leg.key fun d leg => atScale d leg d.stillOpen) s.reservations at held
  have own : chargedTo leg.key (fun d leg => atScale d leg d.stillOpen) r ≤ b.reserved := by
    rw [held]
    refine le_total (fun id other there => chargedTo_nonneg fun d listed leg _ => ?_) known
    exact rescaled_nonneg (books.demands there d listed).stillOpen _ _
  have posted : ((r.demands.zip e.amounts).map fun pair => legSum leg.key
      (fun leg => AccountingKind.consume.consumes (atScale pair.1 leg pair.2)) pair.1.legs).sum ≤
      chargedTo leg.key (fun d leg => atScale d leg d.stillOpen) r := by
    have firsts : r.demands = (r.demands.zip e.amounts).map Prod.fst :=
      (map_fst_zip admits.length_eq.le).symm
    have summed : chargedTo leg.key (fun d leg => atScale d leg d.stillOpen) r =
        ((r.demands.zip e.amounts).map fun pair =>
          legSum leg.key (fun leg => atScale pair.1 leg pair.1.stillOpen) pair.1.legs).sum := by
      conv_lhs => rw [chargedTo, firsts, map_map]
      rfl
    rw [summed]
    refine sum_le_sum fun pair inside => sum_le_sum fun leg _ => ?_
    have bound := (zip_admits admits pair inside).2.1
    have released := (books.demands known pair.1 (of_mem_zip (b := pair.2) inside).1).released
    rw [open_, if_neg (by simp)] at released
    split
    · refine rescaled_mono ?_ _ _
      simp only at bound
      simp only [DemandRecord.stillOpen]
      omega
    · exact le_rfl
  have fits : (b.consumed : ℚ) + b.reserved ≤ UINT256_MAX := by
    exact_mod_cast room rfl d listed leg charged b present
  linarith

theorem account_accepted [Keccak] (books : Books s.targets s.reservations)
    (known : s.reservations.lookup e.reservation = some r) (generation : r.generation = e.generation)
    (active : kind = .restore ∨ r.status = .active) (moves : kind = .close ∨ ∃ amount ∈ e.amounts, 0 < amount)
    (admits : List.Forall₂ kind.Admits r.demands e.amounts)
    (room : kind = .consume → ∀ d ∈ r.demands, ∀ leg ∈ d.legs, ∀ b, s.targets.lookup leg.key = some b →
      b.consumed + b.reserved ≤ UINT256_MAX)
    (clock : ∀ last, s.lastAt = some last → last ≤ e.time) (version : Nat) (rules : ReducerRules) :
    ∃ next, applyEvent s (kind.event e) version rules = .ok next := by
  have nonneg : ¬e.amounts.any (· < 0) = true := by
    simp only [any_eq_true, not_exists, not_and, decide_eq_true_eq, not_lt]
    intro amount listed
    obtain ⟨index, bound, rfl⟩ := mem_iff_getElem.mp listed
    have paired := admits.get (i := index) (by rw [admits.length_eq]; exact bound) bound
    exact paired.1
  have found : reservationFor s e = .ok r := by
    rw [reservationFor, known]
    simp [generation, admits.length_eq.symm, nonneg]
  obtain ⟨moved, posted⟩ := @demands_accepts kind (fun key => ∃ d ∈ r.demands, ∃ leg ∈ d.legs, leg.key = key)
    s.targets (r.demands.zip e.amounts) 0
    (fun pair inside leg charged => ⟨pair.1, (of_mem_zip (b := pair.2) inside).1, leg, charged, rfl⟩)
    (zip_admits admits) (fun key ⟨d, listed, leg, charged, here⟩ => here ▸ books.targets known d listed leg charged)
    (room_admits books known active admits room)
  have positive : kind ≠ .close → ¬e.amounts.all (· ≤ 0) = true := by
    intro other none
    obtain ⟨amount, listed, more⟩ := moves.resolve_left other
    have less := all_eq_true.mp none amount listed
    simp only [decide_eq_true_eq] at less
    omega
  have onward : ¬s.lastAt.any (fun last => e.time < last) = true := by
    cases last : s.lastAt with
    | none => simp
    | some last' => simpa [last] using clock last' last
  have dispatched : dispatchEvent s version rules (kind.event e) = .ok (kind.settled s r moved) := by
    cases kind with
    | consume =>
      have is : ¬r.status ≠ .active := not_not.mpr (active.resolve_left nofun)
      change applyConsume s e = _
      change consumePosting.demands (r.demands.zip e.amounts) 0 s.targets = _ at posted
      simp only [applyConsume, found, bind, Except.bind, if_neg is, if_neg (positive nofun), posted]
      rfl
    | close =>
      have is : ¬r.status ≠ .active := not_not.mpr (active.resolve_left nofun)
      change applyClose s e = _
      change closePosting.demands (r.demands.zip e.amounts) 0 s.targets = _ at posted
      simp only [applyClose, found, bind, Except.bind, if_neg is, posted]
      rfl
    | restore =>
      change applyRestore s e = _
      change restorePosting.demands (r.demands.zip e.amounts) 0 s.targets = _ at posted
      simp only [applyRestore, found, bind, Except.bind, if_neg (positive nofun), posted]
      rfl
  have time : (kind.event e).time = e.time := by cases kind <;> rfl
  refine ⟨{ kind.settled s r moved with lastAt := some e.time }, ?_⟩
  rw [applyEvent, time, if_neg onward, dispatched]
  rfl

end Events

end Mandate.Ledger
