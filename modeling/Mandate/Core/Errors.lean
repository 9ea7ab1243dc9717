import Mathlib.Data.List.Basic

/-! Structured validation errors of Core objects: a code and the path of the field. -/
namespace Mandate.Core

inductive CoreErrorCode
  | wrongType | nonFiniteNumber | nonInteger | unsafeInteger | nonCanonicalInteger
  | integerOutOfRange | invalidDecimals | unknownEnumValue
  | malformedIdentifier | malformedUnit | malformedDigest | zeroDigest | malformedParty
  | malformedBytes | resourceKindMismatch
  | collectionTooLarge | collectionEmpty | duplicateSetMember
  | quantityNegativeUnsigned | quantityOutOfRange | assetRequired | assetForbidden
  | assetFormInvalid | valuationRequired | valuationForbidden | valuationBasisInvalid
  | valuationSourceInvalid | valuationUnitMismatch | countUnitRequired
  | quantityKindMismatch | quantityUnitMismatch | quantityAssetMismatch | quantityDecimalsMismatch
  | quantityValuationMismatch | inexactRescale | nonCanonicalDecimal
  | duplicateTerm | invalidTimeWindow | delegateDepthInvalid | dimensionKindNotLedgerTrackable
  | restorationAccountingMismatch | epochRequired | epochForbidden | epochInvalid
  | netSignRequiresSignedKind
  | minTrustNotAdmissible | executionDependenceIncompatible
  | trustClassNotAdmissible | stateValidityInvalid | targetRepeatedInResources | lineageRepeatsNode
  | rootIssuerNotPrincipal | principalPolicyGrantsAuthority | principalPolicyTermNotPermitted
  | generationZero
  | encodingMalformed | encodingTrailingBytes | encodingWrongTag | encodingUnsupportedVersion
  | encodingNonCanonical | encodingUnknownCode | encodingInvalidFlag
deriving DecidableEq

structure CoreError where
  code : CoreErrorCode
  path : String
deriving DecidableEq

abbrev CoreResult := Except CoreError

def fail {α : Type} (code : CoreErrorCode) (path : String) : CoreResult α := .error ⟨code, path⟩

def atField (path field : String) : String := if path = "" then field else path ++ "." ++ field

def atIndex (path : String) (index : Nat) : String := path ++ "[" ++ toString index ++ "]"

theorem except_toOption_some {ε α : Type} {result : Except ε α} {value : α}
    (ok : result.toOption = some value) : result = .ok value := by
  cases result with
  | error _ => cases ok
  | ok found => exact congrArg Except.ok (Option.some.inj ok)

theorem except_bind_success {ε α β : Type} {first : Except ε α} {next : α → Except ε β} {result : β}
    (ok : first >>= next = .ok result) : ∃ value, first = .ok value ∧ next value = .ok result := by
  cases first with
  | error _ => simp [bind, Except.bind] at ok
  | ok value => exact ⟨value, rfl, ok⟩

theorem except_bind_ok {ε α β : Type} {first : Except ε α} {next : α → Except ε β} {result : β} :
    first >>= next = .ok result ↔ ∃ value, first = .ok value ∧ next value = .ok result := by
  constructor
  · exact except_bind_success
  · rintro ⟨value, here, rest⟩
    rw [here]
    exact rest

theorem except_map_ok {ε α β : Type} {result : Except ε α} {build : α → β} {built : β} :
    build <$> result = .ok built ↔ ∃ value, result = .ok value ∧ build value = built := by
  cases result with
  | error _ => simp
  | ok value => simp

variable {p : Prop} {code : CoreErrorCode} {path : String}

theorem guard_ok {α : Type} [Decidable p] {next : p → CoreResult α} {result : α} : (if holds : p then next holds else fail code path) = .ok result ↔
      ∃ holds : p, next holds = .ok result := by
  by_cases holds : p
  · simp [holds]
  · simp [holds, fail]

theorem unless_ok {α : Type} [Decidable p] {next : CoreResult α} {result : α} :
    (if p then fail code path else next) = .ok result ↔ ¬ p ∧ next = .ok result := by
  by_cases holds : p
  · simp [holds, fail]
  · simp [holds]

theorem require_ok {ε α : Type} [Decidable p] {next : p → Except ε α} {code : ε} {result : α} :
    (if holds : p then next holds else .error code) = .ok result ↔ ∃ holds : p, next holds = .ok result := by
  by_cases holds : p
  · simp [holds]
  · simp [holds]

theorem refuse_ok {ε α : Type} [Decidable p] {next : Except ε α} {code : ε} {result : α} :
    (if p then .error code else next) = .ok result ↔ ¬ p ∧ next = .ok result := by
  by_cases holds : p
  · simp [holds]
  · simp [holds]

theorem except_map_success {ε α β : Type} {result : Except ε α} {build : α → β} {built : β}
    (ok : build <$> result = .ok built) : ∃ value, result = .ok value ∧ built = build value := by
  cases result with
  | error _ => simp at ok
  | ok value => exact ⟨value, rfl, (Except.ok.inj ok).symm⟩

theorem except_mapM_success {ε α β : Type} {f : α → Except ε β} {items : List α} {results : List β}
    (ok : items.mapM f = .ok results) : List.Forall₂ (fun item result => f item = .ok result) items results := by
  induction items generalizing results with
  | nil =>
    obtain rfl := Except.ok.inj ok
    exact .nil
  | cons item items ih =>
    rw [List.mapM_cons] at ok
    obtain ⟨result, here, ok⟩ := except_bind_success ok
    obtain ⟨others, rest, ok⟩ := except_bind_success ok
    obtain rfl := Except.ok.inj ok
    exact .cons here (ih rest)

end Mandate.Core
