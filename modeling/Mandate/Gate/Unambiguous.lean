import Mandate.Gate.Wire
import Mandate.Lib.Delimited
import Mathlib.Algebra.Order.BigOperators.Group.List

/-! Spellings tell structs apart as long as no length is cut: a string's is sixteen bits, and so
is the count of a set. -/
namespace Mandate.Gate
open Core Kernel Lib.Wire Lib.Text Lib.Prefix List

def Fits (raw : Bytes) : Prop := raw.length < 65536

def SetFits (values : List Bytes) : Prop := values.length < 65536 ∧ ∀ raw ∈ values, Fits raw

structure GateMandate.Fits (w : WireMandate) : Prop where
  texts : ∀ raw ∈ w.texts, Gate.Fits raw
  principal : Gate.Fits w.principal.1 ∧ Gate.Fits w.principal.2
  agent : Gate.Fits w.agent.1 ∧ Gate.Fits w.agent.2
  issuers : w.allowedIssuers.length < 65536
  chains : w.allowedChains.length < 65536
  venues : w.allowedVenues.length < 65536

structure GateCandidate.Fits (w : WireCandidate) : Prop where
  texts : ∀ raw ∈ w.texts, Gate.Fits raw
  agent : Gate.Fits w.agent.1 ∧ Gate.Fits w.agent.2

section Fields

theorem free_text : PrefixFree Fits stringBytes := prefixFree_sized 2

theorem free_party : PrefixFree (fun p : PartyText => Fits p.1 ∧ Fits p.2) partySpelling := by
  intro p q x y first second same
  simp only [partySpelling, List.append_assoc] at same
  obtain ⟨kind, rest⟩ := free_text.next first.1 second.1 same
  obtain ⟨value, rest⟩ := free_text.next first.2 second.2 rest
  exact ⟨Prod.ext kind value, rest⟩

theorem free_asset : PrefixFree (fun a : GateAsset Bytes => Fits a.assetClass ∧ Fits a.idScheme ∧
    Fits a.value) assetSpelling := by
  intro a b x y first second same
  simp only [assetSpelling, List.append_assoc] at same
  obtain ⟨assetClass, rest⟩ := free_text.next first.1 second.1 same
  obtain ⟨idScheme, rest⟩ := free_text.next first.2.1 second.2.1 rest
  obtain ⟨value, rest⟩ := free_text.next first.2.2 second.2.2 rest
  exact ⟨GateAsset.ext assetClass idScheme value, rest⟩

theorem free_amount : PrefixFree (fun a : GateAmount Bytes => Fits a.unit) amountSpelling := by
  intro a b x y first second same
  simp only [amountSpelling, List.append_assoc] at same
  obtain ⟨unit, rest⟩ := free_text.next first second same
  obtain ⟨decimals, rest⟩ := (prefixFree_bits 1 rfl).next trivial trivial rest
  obtain ⟨atoms, rest⟩ := (prefixFree_bits 32 rfl).next trivial trivial rest
  exact ⟨GateAmount.ext unit decimals atoms, rest⟩

theorem free_price : PrefixFree (fun p : GatePrice Bytes => Fits p.numeratorUnit ∧ Fits p.denominatorUnit)
    priceSpelling := by
  intro p q x y first second same
  simp only [priceSpelling, List.append_assoc] at same
  obtain ⟨numerator, rest⟩ := free_text.next first.1 second.1 same
  obtain ⟨denominator, rest⟩ := free_text.next first.2 second.2 rest
  obtain ⟨decimals, rest⟩ := (prefixFree_bits 1 rfl).next trivial trivial rest
  obtain ⟨atoms, rest⟩ := (prefixFree_bits 32 rfl).next trivial trivial rest
  exact ⟨GatePrice.ext numerator denominator decimals atoms, rest⟩

theorem free_set : PrefixFree SetFits setSpelling := free_text.counted 2

end Fields

section Means

theorem setMeans_fits {values : List Bytes} {k : IdentifierSet} (means : setMeans values k) :
    SetFits values := by
  have sized := List.Forall₂.length_eq means
  have few := k.bounded
  simp only [MAX_SET_SIZE] at few
  refine ⟨by omega, ?_⟩
  intro raw member
  obtain ⟨index, inside, rfl⟩ := getElem_of_mem member
  exact (List.Forall₂.get means inside (by omega)).1

theorem MandateMeans.fits {w : WireMandate} {k : CanonicalMandate} (means : MandateMeans w k) : w.Fits where
  texts := by
    simp only [GateMandate.texts, cons_append, nil_append, forall_mem_cons,
      forall_mem_append]
    exact ⟨means.canonicalAsset.assetClass.1, means.canonicalAsset.idScheme.1, means.canonicalAsset.value.1,
      means.maxNotional.unit.1, means.economicLimit.unit.1, (setMeans_fits means.allowedIssuers).2,
      (setMeans_fits means.allowedChains).2, (setMeans_fits means.allowedVenues).2⟩
  principal := ⟨means.principal.kind.1, means.principal.value.1⟩
  agent := ⟨means.agent.kind.1, means.agent.value.1⟩
  issuers := (setMeans_fits means.allowedIssuers).1
  chains := (setMeans_fits means.allowedChains).1
  venues := (setMeans_fits means.allowedVenues).1

theorem CandidateMeans.fits {w : WireCandidate} {k : ExecutionCandidate} (means : CandidateMeans w k) :
    w.Fits where
  texts := by
    simp only [GateCandidate.texts, forall_mem_cons]
    exact ⟨means.representationId.1, means.canonicalAsset.assetClass.1, means.canonicalAsset.idScheme.1,
      means.canonicalAsset.value.1, means.issuer.1, means.chain.1, means.venue.1, means.quantity.unit.1,
      means.executionPrice.numeratorUnit.1, means.executionPrice.denominatorUnit.1, means.notional.unit.1,
      means.feeTotal.unit.1, means.evaluationStateId.1, by simp⟩
  agent := ⟨means.agent.kind.1, means.agent.value.1⟩

theorem textMeans_short {raw : Bytes} {id : Identifier} (means : textMeans raw id) : raw.length ≤ 131 := by
  have spelled := textMeans_iff.mp means
  have short := wireText_length id
  have marked := stripMark_length raw
  rw [spelled] at marked
  simp only [IDENTIFIER_MAX_LENGTH] at short
  omega

theorem candidateSpelling_length (w : WireCandidate) : (candidateSpelling w).length =
    22 + (w.texts.map fun raw => 2 + raw.length).sum + (2 + w.agent.1.length) + (2 + w.agent.2.length) + 205 := by
  have tagged : (encodeText CANDIDATE_TAG).length = 20 := by decide
  simp only [candidateSpelling, candidateFields, assetSpelling, amountSpelling, priceSpelling, partySpelling,
    stringBytes, length_append, beBytes_length, tagged, GateCandidate.texts, map_cons, map_nil,
    sum_cons, sum_nil]
  omega

theorem CandidateMeans.fits_of_same {w w' : WireCandidate} {k : ExecutionCandidate} (means : CandidateMeans w k)
    (agent : Fits w'.agent.1 ∧ Fits w'.agent.2) (same : candidateSpelling w' = candidateSpelling w) : w'.Fits where
  texts := by
    intro raw member
    have sized := congrArg List.length same
    have short : ∀ raw ∈ w.texts, 2 + raw.length ≤ 133 := by
      have small : ∀ {raw : Bytes} {id : Identifier}, textMeans raw id → 2 + raw.length ≤ 133 := fun means =>
        Nat.add_le_add_left (textMeans_short means) 2
      simp only [GateCandidate.texts, forall_mem_cons]
      exact ⟨small means.representationId, small means.canonicalAsset.assetClass, small means.canonicalAsset.idScheme,
        small means.canonicalAsset.value, small means.issuer, small means.chain, small means.venue,
        small means.quantity.unit, small means.executionPrice.numeratorUnit, small means.executionPrice.denominatorUnit,
        small means.notional.unit, small means.feeTotal.unit, small means.evaluationStateId, by simp⟩
    have own : (w.texts.map fun raw => 2 + raw.length).sum ≤ 13 * 133 :=
      (sum_le_card_nsmul _ 133 (forall_mem_map.mpr short)).trans_eq rfl
    have kind := textMeans_short means.agent.kind
    have value := textMeans_short means.agent.value
    have inside : 2 + raw.length ≤ (w'.texts.map fun raw => 2 + raw.length).sum :=
      single_le_sum (fun _ _ => Nat.zero_le _) _ (mem_map.mpr ⟨raw, member, rfl⟩)
    rw [candidateSpelling_length, candidateSpelling_length] at sized
    rw [Fits]
    omega
  agent := agent

end Means

section Structs

theorem mandateSpelling_front {w w' : WireMandate} (principal : Fits w.principal.1 ∧ Fits w.principal.2)
    (principal' : Fits w'.principal.1 ∧ Fits w'.principal.2) (agent : Fits w.agent.1 ∧ Fits w.agent.2)
    (agent' : Fits w'.agent.1 ∧ Fits w'.agent.2) (same : mandateSpelling w = mandateSpelling w') :
    w.principal = w'.principal ∧ w.agent = w'.agent := by
  rw [mandateSpelling, mandateSpelling, append_right_inj, mandateFields, mandateFields] at same
  obtain ⟨_, rest⟩ := (prefixFree_bits 2 rfl).next trivial trivial same
  obtain ⟨_, rest⟩ := (prefixFree_bits 32 rfl).next trivial trivial rest
  obtain ⟨_, rest⟩ := (prefixFree_bits 8 rfl).next trivial trivial rest
  obtain ⟨first, rest⟩ := free_party.next principal principal' rest
  obtain ⟨second, _⟩ := free_party.next agent agent' rest
  exact ⟨first, second⟩

theorem mandateSpelling_inj {w w' : WireMandate} (fits : w.Fits) (fits' : w'.Fits)
    (same : mandateSpelling w = mandateSpelling w') : w = w' := by
  obtain ⟨texts, principal, agent, issuers, chains, venues⟩ := fits
  obtain ⟨texts', principal', agent', issuers', chains', venues'⟩ := fits'
  simp only [GateMandate.texts, cons_append, nil_append, forall_mem_cons, forall_mem_append]
    at texts texts'
  obtain ⟨assetClass, idScheme, value, maxUnit, limitUnit, issuer, chain, venue⟩ := texts
  obtain ⟨assetClass', idScheme', value', maxUnit', limitUnit', issuer', chain', venue'⟩ := texts'
  rw [mandateSpelling, mandateSpelling, append_right_inj, mandateFields, mandateFields] at same
  obtain ⟨e1, rest⟩ := (prefixFree_bits 2 rfl).next trivial trivial same
  obtain ⟨e2, rest⟩ := (prefixFree_bits 32 rfl).next trivial trivial rest
  obtain ⟨e3, rest⟩ := (prefixFree_bits 8 rfl).next trivial trivial rest
  obtain ⟨e4, rest⟩ := free_party.next principal principal' rest
  obtain ⟨e5, rest⟩ := free_party.next agent agent' rest
  obtain ⟨e6, rest⟩ := free_asset.next ⟨assetClass, idScheme, value⟩ ⟨assetClass', idScheme', value'⟩ rest
  obtain ⟨e7, rest⟩ := (prefixFree_bits 1 rfl).next trivial trivial rest
  obtain ⟨e8, rest⟩ := free_amount.next maxUnit maxUnit' rest
  obtain ⟨e9, rest⟩ := free_amount.next limitUnit limitUnit' rest
  obtain ⟨e10, rest⟩ := (prefixFree_bits 2 rfl).next trivial trivial rest
  obtain ⟨e11, rest⟩ := (prefixFree_bits 1 rfl).next trivial trivial rest
  obtain ⟨e12, rest⟩ := free_set.next ⟨issuers, issuer⟩ ⟨issuers', issuer'⟩ rest
  obtain ⟨e13, rest⟩ := free_set.next ⟨chains, chain⟩ ⟨chains', chain'⟩ rest
  obtain ⟨e14, rest⟩ := free_set.next ⟨venues, venue⟩ ⟨venues', venue'⟩ rest
  obtain ⟨e15, rest⟩ := (prefixFree_bits 8 rfl).next trivial trivial rest
  obtain ⟨e16, rest⟩ := (prefixFree_bits 4 rfl).next trivial trivial rest
  obtain ⟨e17, rest⟩ := (prefixFree_bits 4 rfl).next trivial trivial rest
  obtain ⟨e18, rest⟩ := (prefixFree_bits 1 rfl).next trivial trivial rest
  obtain ⟨e19, rest⟩ := (prefixFree_bits 8 rfl).next trivial trivial rest
  obtain ⟨e20, rest⟩ := (prefixFree_bits 8 rfl).next trivial trivial rest
  have e21 := (prefixFree_bits 8 rfl).inj trivial trivial rest
  exact GateMandate.ext e1 e2 e3 e4 e5 e6 e7 e8 e9 e10 e11 e12 e13 e14 e15 e16 e17 e18 e19 e20 e21

theorem candidateSpelling_inj {w w' : WireCandidate} (fits : w.Fits) (fits' : w'.Fits)
    (same : candidateSpelling w = candidateSpelling w') : w = w' := by
  obtain ⟨texts, agent⟩ := fits
  obtain ⟨texts', agent'⟩ := fits'
  simp only [GateCandidate.texts, forall_mem_cons] at texts texts'
  obtain ⟨representation, assetClass, idScheme, value, issuer, chain, venue, quantity, numerator, denominator,
    notional, feeTotal, stateId, _⟩ := texts
  obtain ⟨representation', assetClass', idScheme', value', issuer', chain', venue', quantity', numerator',
    denominator', notional', feeTotal', stateId', _⟩ := texts'
  rw [candidateSpelling, candidateSpelling, append_right_inj, candidateFields, candidateFields] at same
  obtain ⟨e1, rest⟩ := (prefixFree_bits 2 rfl).next trivial trivial same
  obtain ⟨e2, rest⟩ := free_text.next representation representation' rest
  obtain ⟨e3, rest⟩ := free_asset.next ⟨assetClass, idScheme, value⟩ ⟨assetClass', idScheme', value'⟩ rest
  obtain ⟨e4, rest⟩ := free_text.next issuer issuer' rest
  obtain ⟨e5, rest⟩ := free_text.next chain chain' rest
  obtain ⟨e6, rest⟩ := free_text.next venue venue' rest
  obtain ⟨e7, rest⟩ := (prefixFree_bits 1 rfl).next trivial trivial rest
  obtain ⟨e8, rest⟩ := free_party.next agent agent' rest
  obtain ⟨e9, rest⟩ := free_amount.next quantity quantity' rest
  obtain ⟨e10, rest⟩ := free_price.next ⟨numerator, denominator⟩ ⟨numerator', denominator'⟩ rest
  obtain ⟨e11, rest⟩ := free_amount.next notional notional' rest
  obtain ⟨e12, rest⟩ := free_amount.next feeTotal feeTotal' rest
  obtain ⟨e13, rest⟩ := free_text.next stateId stateId' rest
  obtain ⟨e14, rest⟩ := (prefixFree_bits 32 rfl).next trivial trivial rest
  obtain ⟨e15, rest⟩ := (prefixFree_bits 32 rfl).next trivial trivial rest
  have e16 := (prefixFree_bits 8 rfl).inj trivial trivial rest
  exact GateCandidate.ext e1 e2 e3 e4 e5 e6 e7 e8 e9 e10 e11 e12 e13 e14 e15 e16

end Structs

end Mandate.Gate
