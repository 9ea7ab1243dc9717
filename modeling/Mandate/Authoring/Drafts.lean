import Mandate.Authoring.Passes
import Mandate.Lib.Lines
import Mandate.Lib.Keyed

/-! Mandate drafts: a prompt-derived draft, the form merged onto it, and the issues that say where the two
disagree. A draft's issues are kept once each and cut to the first twelve. -/
set_option linter.dupNamespace false
namespace Mandate.Authoring
open Lib Lib.Keyed List

section Fields

inductive PortfolioField
  | totalCapital | minUnallocated | maxDeployed | deployAll | maxDerivative | maxIlliquid | validityMinutes
  | autoReallocate
deriving DecidableEq

inductive AgentField | enabled | maxAllocation | maxExposure | budget
deriving DecidableEq

inductive MarketField
  | assets | issuers | representations | venues | chains | maxLeverage | maxSlippageBps | maxQuoteAgeSeconds
deriving DecidableEq

inductive DraftPath
  | portfolio (field : PortfolioField)
  | agents (role : Role) (field : AgentField)
  | market (field : MarketField)
  | recipients
deriving DecidableEq

def PortfolioField.text : PortfolioField → String
  | .totalCapital => "totalCapital"
  | .minUnallocated => "minUnallocated"
  | .maxDeployed => "maxDeployed"
  | .deployAll => "deployAll"
  | .maxDerivative => "maxDerivative"
  | .maxIlliquid => "maxIlliquid"
  | .validityMinutes => "validityMinutes"
  | .autoReallocate => "autoReallocate"

def AgentField.text : AgentField → String
  | .enabled => "enabled"
  | .maxAllocation => "maxAllocation"
  | .maxExposure => "maxExposure"
  | .budget => "budget"

def MarketField.text : MarketField → String
  | .assets => "assets"
  | .issuers => "issuers"
  | .representations => "representations"
  | .venues => "venues"
  | .chains => "chains"
  | .maxLeverage => "maxLeverage"
  | .maxSlippageBps => "maxSlippageBps"
  | .maxQuoteAgeSeconds => "maxQuoteAgeSeconds"

def Role.text : Role → String
  | .stock => "stock"
  | .swap => "swap"
  | .nft => "nft"
  | .yield => "yield"
  | .perps => "perps"

def DraftPath.text : DraftPath → String
  | .portfolio field => "portfolio." ++ field.text
  | .agents role field => "agents." ++ role.text ++ "." ++ field.text
  | .market field => "market." ++ field.text
  | .recipients => "execution.recipients"

inductive FieldValue
  | text (value : String)
  | flag (value : Bool)
  | choices (values : List String)
deriving DecidableEq

inductive FieldSource
  | preset | interpreted | explicitPrompt | modelExtracted | deterministicDerived | user | planned
deriving DecidableEq

inductive IssueKind | ambiguous | conflict | needsClarification | unsupported
deriving DecidableEq

structure DraftIssue where
  kind : IssueKind
  field : Option String
  text : String
deriving DecidableEq

structure MandateDraft where
  fieldAt : DraftPath → Option FieldValue
  provenance : DraftPath → Option FieldSource
  issues : List DraftIssue

/-- A copy of the draft with the field set, recorded with its source. -/
def MandateDraft.withField (d : MandateDraft) (path : DraftPath) (value : FieldValue) (source : FieldSource) :
    MandateDraft where
  fieldAt := Function.update d.fieldAt path (some value)
  provenance := Function.update d.provenance path (some source)
  issues := d.issues

def MandateDraft.textAt (d : MandateDraft) (path : DraftPath) : Option String :=
  match d.fieldAt path with
  | some (.text value) => some value
  | _ => none

def MandateDraft.flagAt (d : MandateDraft) (path : DraftPath) : Option Bool :=
  match d.fieldAt path with
  | some (.flag value) => some value
  | _ => none

end Fields

section Amounts

def isSpace (c : Char) : Bool :=
  [9, 10, 11, 12, 13, 32, 160, 5760, 8232, 8233, 8239, 8287, 12288, 65279].contains c.toNat ||
    (8192 ≤ c.toNat && c.toNat ≤ 8202)

def trim (text : List Char) : List Char := ((text.dropWhile isSpace).reverse.dropWhile isSpace).reverse

def decimal (digits : List Char) : Nat := digits.foldl (fun n c => 10 * n + (c.toNat - 48)) 0

def parseUsdc (text : String) : Option Nat :=
  let trimmed := trim text.toList
  let t := (if trimmed.head? = some '$' then trimmed.tail else trimmed).filter (· ≠ ',')
  let digits := t.takeWhile Char.isDigit
  let frac := (t.dropWhile Char.isDigit).tail
  if digits.length < 1 ∨ 15 < digits.length then none
  else if t.dropWhile Char.isDigit = [] then some (decimal digits * USDC_SCALE)
  else if (t.dropWhile Char.isDigit).head? = some '.' ∧ 1 ≤ frac.length ∧ frac.length ≤ 6 ∧ frac.all Char.isDigit then
    some (decimal digits * USDC_SCALE + decimal frac * 10 ^ (6 - frac.length))
  else none

def parseCount (text : String) (max : Nat) : Option Nat :=
  let t := trim text.toList
  if 1 ≤ t.length ∧ t.length ≤ 9 ∧ t.all Char.isDigit ∧ decimal t ≤ max then some (decimal t) else none

/-- What a value says: an amount however it is spelled, and any other text, flag or choice as it stands. -/
inductive Meaning
  | amount (atoms : Nat)
  | word (text : String)
  | flag (value : Bool)
  | choices (values : List String)
deriving DecidableEq

def FieldValue.meaning : FieldValue → Meaning
  | .text value => ((parseUsdc value).map .amount).getD (.word value)
  | .flag value => .flag value
  | .choices values => .choices values

def valuesEqual (a b : FieldValue) : Bool :=
  a = b || match a, b with
    | .text a, .text b => match parseUsdc a, parseUsdc b with
      | some a, some b => a = b
      | _, _ => false
    | _, _ => false

theorem valuesEqual_iff {a b : FieldValue} : valuesEqual a b = true ↔ a.meaning = b.meaning := by
  unfold valuesEqual
  cases a with
  | flag a | choices a => cases b with
    | text b => cases parsed : parseUsdc b <;> simp [FieldValue.meaning, parsed]
    | flag b | choices b => simp [FieldValue.meaning]
  | text a => cases b with
    | flag b | choices b => cases parsed : parseUsdc a <;> simp [FieldValue.meaning, parsed]
    | text b =>
      -- two texts that read as different things are different texts
      have apart : parseUsdc a ≠ parseUsdc b → a ≠ b := fun different same => different (same ▸ rfl)
      cases first : parseUsdc a <;> cases second : parseUsdc b <;>
        simp_all [FieldValue.meaning]
      rintro rfl
      exact Option.some.inj (first.symm.trans second)

def stringify : FieldValue → String
  | .text value => if value ≠ "" ∧ value.toList.all (fun c => c.isDigit || c = '.') then "$" ++ value else value
  | .flag value => if value then "true" else "false"
  | .choices values => String.intercalate ", " values

end Amounts

section Capital

def HUMAN_FIELD_SOURCES : List FieldSource := [.interpreted, .explicitPrompt, .deterministicDerived, .user]

/-- What may be deployed: the maximum deployed, once it is consistent with the reserve. -/
def deployable (total minUnallocated : Nat) (maxDeployed : Option Nat) (deployAll : Bool) : Option Nat :=
  if total < minUnallocated then none
  else match (if deployAll then some total else maxDeployed) with
    | none => none
    | some max => if total - minUnallocated < max then none else some max

/-- An amount that is unset reads as `unset`; one that is malformed reads as nothing. -/
def MandateDraft.amountAt (d : MandateDraft) (field : PortfolioField) (unset : Option Nat) : Option Nat :=
  match d.textAt (.portfolio field) with
  | none => unset
  | some text => parseUsdc text

def draftDeployable (d : MandateDraft) : Option Nat := do
  let validity := match d.textAt (.portfolio .validityMinutes) with
    | none => some 1
    | some text => parseCount text 100000000
  let total ← d.amountAt .totalCapital none
  let minUnallocated ← d.amountAt .minUnallocated (some 0)
  let _ ← validity
  let deployAll := d.flagAt (.portfolio .deployAll) = some true
  let maxDeployed := d.amountAt .maxDeployed none
  if ¬deployAll ∧ maxDeployed = none then none
  else deployable total minUnallocated maxDeployed deployAll

def budgetOf (d : MandateDraft) (role : Role) : Option Nat := (d.textAt (.agents role .budget)).bind parseUsdc

def fixedAgents (d : MandateDraft) : List Role := ROLES.filter fun role =>
  d.flagAt (.agents role .enabled) = some true ∧ (budgetOf d role).isSome ∧
    HUMAN_FIELD_SOURCES.contains ((d.provenance (.agents role .budget)).getD .preset)

def fixedAtoms (d : MandateDraft) : Nat := ((fixedAgents d).map fun role => (budgetOf d role).getD 0).sum

/-- The room the fixed budgets are held against, also before the maximum deployed is filled. -/
def allocationRoom (d : MandateDraft) : Option Nat :=
  match draftDeployable d with
  | some room => some room
  | none => match d.amountAt .totalCapital none, d.amountAt .minUnallocated (some 0) with
    | some total, some reserve => if reserve ≤ total then some (total - reserve) else none
    | _, _ => none

def overAllocation (beyond : Nat) : DraftIssue := ⟨.conflict, some "portfolio.totalCapital",
  "Requested fixed allocations exceed portfolio authority by " ++ usdcText beyond ++
    " USDC. Edit the budgets or the total; Mandate will not silently reduce either."⟩

def overAllocationIssues (d : MandateDraft) : List DraftIssue :=
  match allocationRoom d with
  | none => []
  | some room => if fixedAtoms d ≤ room then [] else [overAllocation (fixedAtoms d - room)]

end Capital

section Merging

def EXPLICIT : List FieldSource := [.user, .explicitPrompt]

def AUTHORITY_PATHS : List DraftPath :=
  [DraftPath.portfolio .totalCapital, .portfolio .maxDeployed, .portfolio .minUnallocated, .portfolio .deployAll,
    .portfolio .maxDerivative, .portfolio .maxIlliquid, .portfolio .autoReallocate, .market .maxLeverage] ++
    ROLES.flatMap fun role => [DraftPath.agents role .enabled, .agents role .maxAllocation, .agents role .budget]

def OTHER_PATHS : List DraftPath :=
  [DraftPath.portfolio .validityMinutes, .market .assets, .market .issuers, .market .representations, .market .venues,
    .market .chains, .market .maxSlippageBps, .market .maxQuoteAgeSeconds, .recipients] ++
    ROLES.map fun role => DraftPath.agents role .maxExposure

def IssueKind.text : IssueKind → String
  | .ambiguous => "AMBIGUOUS"
  | .conflict => "CONFLICT"
  | .needsClarification => "NEEDS_CLARIFICATION"
  | .unsupported => "UNSUPPORTED"

def DraftIssue.key (i : DraftIssue) : String := i.kind.text ++ "|" ++ i.field.getD "null" ++ "|" ++ i.text

/-- A map of the issues by key, in insertion order. -/
def dedupeIssues (issues : List DraftIssue) : List DraftIssue := once DraftIssue.key issues

def conflictOn (path : DraftPath) (formValue promptValue : FieldValue) : DraftIssue :=
  ⟨.conflict, some path.text, "You entered " ++ stringify formValue ++ ", but your prompt says " ++
    stringify promptValue ++ ". Which should Mandate authorize?"⟩

/-- One authority path of the form: fills what the prompt left unset, and where both are explicit and differ,
keeps the form's value and says so. -/
def mergeField (prompt form : MandateDraft) (merged : MandateDraft × List DraftIssue) (path : DraftPath) :
    MandateDraft × List DraftIssue :=
  match form.fieldAt path, form.provenance path with
  | some formValue, some formSource => match prompt.fieldAt path, prompt.provenance path with
    | some promptValue, some promptSource =>
      if valuesEqual formValue promptValue then
        (merged.1.withField path formValue (if formSource = .user then .user else promptSource), merged.2)
      else if EXPLICIT.contains formSource ∧ EXPLICIT.contains promptSource then
        (merged.1.withField path formValue .user, merged.2 ++ [conflictOn path formValue promptValue])
      else if formSource = .user ∨ (EXPLICIT.contains formSource ∧ ¬EXPLICIT.contains promptSource) then
        (merged.1.withField path formValue formSource, merged.2)
      else merged
    | _, _ => (merged.1.withField path formValue formSource, merged.2)
  | _, _ => merged

def carryField (form out : MandateDraft) (path : DraftPath) : MandateDraft :=
  match form.provenance path, out.fieldAt path, form.fieldAt path with
  | some source, none, some value => out.withField path value source
  | _, _, _ => out

def ISSUES_KEPT : Nat := 12

def mergeFormOntoPrompt (prompt form : MandateDraft) : MandateDraft :=
  let merged := AUTHORITY_PATHS.foldl (mergeField prompt form) (prompt, prompt.issues)
  let out := OTHER_PATHS.foldl (carryField form) merged.1
  { out with issues := (dedupeIssues (merged.2 ++ out.issues)).take ISSUES_KEPT }

/-- From the prompt-derived draft on: the form, if there is one, and then the fixed budgets against the total. -/
def compileMandateDraft (prompt : MandateDraft) (form : Option MandateDraft) : MandateDraft :=
  let draft := match form with
    | none => prompt
    | some form => mergeFormOntoPrompt prompt form
  let overs := overAllocationIssues draft
  if overs = [] then draft else { draft with issues := (dedupeIssues (draft.issues ++ overs)).take ISSUES_KEPT }

end Merging

section Disagreements

/-- Both drafts carry an explicit value there, and the two say different things. -/
def Disagree (prompt form : MandateDraft) (path : DraftPath) : Prop :=
  ∃ formValue promptValue formSource promptSource, form.fieldAt path = some formValue ∧
    prompt.fieldAt path = some promptValue ∧ form.provenance path = some formSource ∧
    prompt.provenance path = some promptSource ∧ formSource ∈ EXPLICIT ∧ promptSource ∈ EXPLICIT ∧
    formValue.meaning ≠ promptValue.meaning

def Reported (path : DraftPath) (issues : List DraftIssue) : Prop :=
  ∃ i ∈ issues, i.kind = .conflict ∧ i.field = some path.text

def Exceeds (d : MandateDraft) : Prop := ∃ room, draftDeployable d = some room ∧ room < fixedAtoms d

def OverReported (issues : List DraftIssue) : Prop := ∃ beyond, overAllocation beyond ∈ issues

/-- The issue of the two values at a path, where they disagree. -/
def disagreement (prompt form : MandateDraft) (path : DraftPath) : Option DraftIssue :=
  match form.fieldAt path, form.provenance path, prompt.fieldAt path, prompt.provenance path with
  | some formValue, some formSource, some promptValue, some promptSource =>
    if EXPLICIT.contains formSource ∧ EXPLICIT.contains promptSource ∧ ¬valuesEqual formValue promptValue then
      some (conflictOn path formValue promptValue)
    else none
  | _, _, _, _ => none

/-- The disagreements that the prompt's own issues do not have already. -/
def newConflicts (prompt form : MandateDraft) : List DraftIssue :=
  (AUTHORITY_PATHS.filterMap (disagreement prompt form)).filter fun i => i.key ∉ prompt.issues.map DraftIssue.key

variable {prompt form : MandateDraft} {path : DraftPath} {i : DraftIssue}

theorem disagreement_some (conflict : disagreement prompt form path = some i) :
    Disagree prompt form path ∧ ∃ text, i = ⟨.conflict, some path.text, text⟩ := by
  unfold disagreement at conflict
  split at conflict
  · rename_i formValue formSource promptValue promptSource atForm formFrom atPrompt promptFrom
    split at conflict
    · rename_i apart
      refine ⟨⟨_, _, _, _, atForm, atPrompt, formFrom, promptFrom, contains_iff_mem.mp apart.1,
        contains_iff_mem.mp apart.2.1, fun same => apart.2.2 (valuesEqual_iff.mpr same)⟩, _, (Option.some.inj conflict).symm⟩
    · cases conflict
  · cases conflict

theorem mergeField_issues (merged : MandateDraft × List DraftIssue) :
    (mergeField prompt form merged path).1.issues = merged.1.issues ∧
      (mergeField prompt form merged path).2 = merged.2 ++ (disagreement prompt form path).toList := by
  unfold mergeField disagreement
  cases form.fieldAt path with
  | none => simp
  | some formValue =>
    cases form.provenance path with
    | none => simp
    | some formSource =>
      cases prompt.fieldAt path with
      | none => simp [MandateDraft.withField]
      | some promptValue =>
        cases prompt.provenance path with
        | none => simp [MandateDraft.withField]
        | some promptSource =>
          dsimp only
          by_cases same : valuesEqual formValue promptValue = true
          · simp [same, MandateDraft.withField]
          · by_cases explicit : EXPLICIT.contains formSource ∧ EXPLICIT.contains promptSource
            · rw [if_neg same, if_pos explicit, if_pos ⟨explicit.1, explicit.2, same⟩]
              exact ⟨rfl, rfl⟩
            · have silent : ¬(EXPLICIT.contains formSource ∧ EXPLICIT.contains promptSource ∧
                  ¬valuesEqual formValue promptValue) := fun all => explicit ⟨all.1, all.2.1⟩
              rw [if_neg same, if_neg explicit, if_neg silent]
              split <;> simp [MandateDraft.withField]

theorem mergeFields_issues (paths : List DraftPath) (merged : MandateDraft × List DraftIssue) :
    (paths.foldl (mergeField prompt form) merged).1.issues = merged.1.issues ∧
      (paths.foldl (mergeField prompt form) merged).2 = merged.2 ++ paths.filterMap (disagreement prompt form) := by
  induction paths generalizing merged with
  | nil => exact ⟨rfl, (append_nil _).symm⟩
  | cons path paths ih =>
    obtain ⟨kept, behind⟩ := ih (mergeField prompt form merged path)
    obtain ⟨same, added⟩ := @mergeField_issues prompt form path merged
    refine ⟨kept.trans same, behind.trans ?_⟩
    rw [added, List.append_assoc, filterMap_cons]
    cases disagreement prompt form path <;> rfl

theorem carryFields_issues (paths : List DraftPath) (out : MandateDraft) :
    (paths.foldl (carryField form) out).issues = out.issues := by
  induction paths generalizing out with
  | nil => rfl
  | cons path paths ih =>
    refine (ih _).trans ?_
    unfold carryField
    split <;> rfl

theorem authority_plain : ∀ path ∈ AUTHORITY_PATHS, '|' ∉ path.text.toList := by
  have all : (AUTHORITY_PATHS.all fun path => path.text.toList.all (· ≠ '|')) = true := by
    decide +kernel
  intro path listed inside
  have plain := all_eq_true.mp (all_eq_true.mp all path listed) _ inside
  exact of_decide_eq_true plain rfl

theorem authority_apart : ∀ path ∈ AUTHORITY_PATHS, ∀ path' ∈ AUTHORITY_PATHS, path.text = path'.text → path = path' := by
  decide +kernel

/-- The key of a conflict on an authority path tells the path. -/
theorem key_path {path' : DraftPath} {text text' : String} (listed : path ∈ AUTHORITY_PATHS) (listed' : path' ∈ AUTHORITY_PATHS)
    (same : (⟨.conflict, some path.text, text⟩ : DraftIssue).key = (⟨.conflict, some path'.text, text'⟩ : DraftIssue).key) :
    path = path' := by
  have letters := congrArg String.toList same
  simp only [DraftIssue.key, Option.getD_some, String.toList_append, List.append_assoc, append_cancel_left_eq] at letters
  have texts := (Lines.split_inj (authority_plain _ listed) (authority_plain _ listed') letters).1
  exact authority_apart _ listed _ listed' (String.toList_inj.mp texts)

theorem conflicts_distinct : ((AUTHORITY_PATHS.filterMap (disagreement prompt form)).map DraftIssue.key).Nodup := by
  have paths : AUTHORITY_PATHS.Nodup := by decide
  refine pairwise_map.mpr (pairwise_filterMap.mpr (paths.imp_of_mem fun {path path'} listed listed' apart => ?_))
  intro i first j second same
  obtain ⟨-, text, rfl⟩ := disagreement_some first
  obtain ⟨-, text', rfl⟩ := disagreement_some second
  exact apart (key_path listed listed' same)

theorem merged_issues : (mergeFormOntoPrompt prompt form).issues =
    (once DraftIssue.key prompt.issues ++ newConflicts prompt form).take ISSUES_KEPT := by
  unfold mergeFormOntoPrompt dedupeIssues
  dsimp only
  obtain ⟨same, added⟩ := @mergeFields_issues prompt form AUTHORITY_PATHS (prompt, prompt.issues)
  rw [carryFields_issues, same, added, once_around conflicts_distinct]
  rfl

theorem before_distinct :
    ((once DraftIssue.key prompt.issues ++ newConflicts prompt form).map DraftIssue.key).Nodup := by
  rw [map_append]
  refine nodup_append.mpr ⟨once_nodup _, conflicts_distinct.sublist (filter_sublist.map _), ?_⟩
  intro k known k' new same
  obtain ⟨i, listed, rfl⟩ := mem_map.mp new
  exact of_decide_eq_true (mem_filter.mp listed).2 (same ▸ mem_keys_once.mp known)

/-- Among the first twelve of the prompt's own issues, or a new conflict with fewer than twelve before it. -/
def Survives (prompt form : MandateDraft) (path : DraftPath) : Prop :=
  Reported path ((once DraftIssue.key prompt.issues).take ISSUES_KEPT) ∨
    ∃ i ∈ newConflicts prompt form, i.field = some path.text ∧
      (once DraftIssue.key prompt.issues).length + (newConflicts prompt form).idxOf i < ISSUES_KEPT

theorem newConflicts_kind (new : i ∈ newConflicts prompt form) : i.kind = .conflict := by
  obtain ⟨path, -, made⟩ := mem_filterMap.mp (mem_filter.mp new).1
  obtain ⟨-, text, rfl⟩ := disagreement_some made
  rfl

theorem merged_reported : Reported path (mergeFormOntoPrompt prompt form).issues ↔ Survives prompt form path := by
  rw [merged_issues, take_append]
  constructor
  · rintro ⟨i, listed, kind, field⟩
    rcases mem_append.mp listed with own | new
    · exact .inl ⟨i, own, kind, field⟩
    · have there := mem_of_mem_take new
      have first := (mem_take_iff_idxOf_lt there).mp new
      exact .inr ⟨i, there, field, by omega⟩
  · rintro (⟨i, own, kind, field⟩ | ⟨i, new, field, first⟩)
    · exact ⟨i, mem_append_left _ own, kind, field⟩
    · have taken := (mem_take_iff_idxOf_lt new).mpr (show _ < ISSUES_KEPT - (once DraftIssue.key prompt.issues).length by omega)
      exact ⟨i, mem_append_right _ taken, newConflicts_kind new, field⟩

end Disagreements

section Compiling

/-- The draft before the fixed budgets are checked. -/
def mergedDraft (prompt : MandateDraft) : Option MandateDraft → MandateDraft
  | none => prompt
  | some form => mergeFormOntoPrompt prompt form

def issuesBefore (prompt : MandateDraft) : Option MandateDraft → List DraftIssue
  | none => once DraftIssue.key prompt.issues
  | some form => once DraftIssue.key prompt.issues ++ newConflicts prompt form

def excess (d : MandateDraft) : Nat := fixedAtoms d - (draftDeployable d).getD 0

/-- Fewer than twelve issues before it, or one of the first twelve says the same. -/
def OverKept (prompt : MandateDraft) (form : Option MandateDraft) : Prop :=
  (issuesBefore prompt form).length < ISSUES_KEPT ∨ ∃ i ∈ (issuesBefore prompt form).take ISSUES_KEPT,
    i.key = (overAllocation (excess (mergedDraft prompt form))).key ∨ ∃ beyond, i = overAllocation beyond

variable {prompt : MandateDraft} {form : Option MandateDraft} {path : DraftPath}

theorem compiled_fields : draftDeployable (compileMandateDraft prompt form) = draftDeployable (mergedDraft prompt form) ∧
    fixedAtoms (compileMandateDraft prompt form) = fixedAtoms (mergedDraft prompt form) := by
  unfold compileMandateDraft mergedDraft
  cases form <;> dsimp only <;> split <;> exact ⟨rfl, rfl⟩

theorem compiled_exceeds : Exceeds (compileMandateDraft prompt form) ↔ Exceeds (mergedDraft prompt form) := by
  unfold Exceeds
  rw [compiled_fields.1, compiled_fields.2]

theorem exceeds_issue {d : MandateDraft} (beyond : Exceeds d) : overAllocationIssues d = [overAllocation (excess d)] := by
  obtain ⟨room, deploys, exceeds⟩ := beyond
  unfold overAllocationIssues allocationRoom excess
  rw [deploys]
  exact if_neg (Nat.not_le.mpr exceeds)

theorem compiled_issues : (compileMandateDraft prompt form).issues =
    if overAllocationIssues (mergedDraft prompt form) = [] then (mergedDraft prompt form).issues
    else (once DraftIssue.key ((mergedDraft prompt form).issues ++ overAllocationIssues (mergedDraft prompt form))).take
      ISSUES_KEPT := by
  unfold compileMandateDraft mergedDraft
  cases form <;> dsimp only <;> split <;> rfl

theorem once_snoc (issues : List DraftIssue) (i : DraftIssue) :
    once DraftIssue.key (issues ++ [i]) = put DraftIssue.key (once DraftIssue.key issues) i := by
  rw [once, foldl_append]
  rfl

theorem overIssues_shape (d : MandateDraft) : overAllocationIssues d = [] ∨ ∃ beyond, overAllocationIssues d = [overAllocation beyond] := by
  unfold overAllocationIssues
  split
  · exact .inl rfl
  · split
    · exact .inl rfl
    · exact .inr ⟨_, rfl⟩

variable {issues : List DraftIssue} {beyond : Nat}

/-- The over-allocation takes the place of no conflict but one on the total. -/
theorem reported_put (short : issues.length ≤ ISSUES_KEPT)
    (listed : path ∈ AUTHORITY_PATHS) (reported : Reported path issues) :
    Reported path ((put DraftIssue.key issues (overAllocation beyond)).take ISSUES_KEPT) := by
  obtain ⟨i, here, kind, field⟩ := reported
  by_cases known : (overAllocation beyond).key ∈ issues.map DraftIssue.key
  · rw [put_known known, take_of_length_le (by rwa [length_map])]
    refine ⟨_, mem_map_of_mem here, ?_⟩
    split
    · rename_i same
      obtain ⟨kind', field', text⟩ := i
      obtain rfl : kind' = .conflict := kind
      obtain rfl : field' = some path.text := field
      obtain rfl := @key_path path (.portfolio .totalCapital) _ _ listed (by decide) same
      exact ⟨rfl, rfl⟩
    · exact ⟨kind, field⟩
  · rw [put_new known, take_append, take_of_length_le short]
    exact ⟨i, mem_append_left _ here, kind, field⟩

theorem compiled_reported {f : MandateDraft} (listed : path ∈ AUTHORITY_PATHS)
    (reported : Reported path (mergeFormOntoPrompt prompt f).issues) :
    Reported path (compileMandateDraft prompt (some f)).issues := by
  rw [compiled_issues]
  split
  · exact reported
  · rename_i beyond
    obtain ⟨beyond, is⟩ := (overIssues_shape (mergedDraft prompt (some f))).resolve_left beyond
    have distinct : ((mergeFormOntoPrompt prompt f).issues.map DraftIssue.key).Nodup := by
      rw [merged_issues, map_take]
      exact before_distinct.sublist (take_sublist _ _)
    rw [is, once_snoc, show (mergedDraft prompt (some f)).issues = (mergeFormOntoPrompt prompt f).issues from rfl,
      once_of_nodup distinct]
    refine reported_put ?_ listed reported
    rw [merged_issues]
    exact length_take_le _ _

theorem over_put : OverReported ((put DraftIssue.key issues (overAllocation beyond)).take ISSUES_KEPT) ↔
      issues.length < ISSUES_KEPT ∨ ∃ i ∈ issues.take ISSUES_KEPT, i.key = (overAllocation beyond).key ∨ ∃ n, i = overAllocation n := by
  by_cases known : (overAllocation beyond).key ∈ issues.map DraftIssue.key
  · rw [put_known known, ← map_take]
    constructor
    · rintro ⟨n, there⟩
      obtain ⟨i, here, is⟩ := mem_map.mp there
      refine .inr ⟨i, here, ?_⟩
      by_cases same : i.key = (overAllocation beyond).key
      · exact .inl same
      · exact .inr ⟨n, (if_neg same).symm.trans is⟩
    · have written : ∀ i ∈ issues.take ISSUES_KEPT, i.key = (overAllocation beyond).key →
          OverReported ((issues.take ISSUES_KEPT).map fun j => if j.key = (overAllocation beyond).key then overAllocation beyond else j) :=
        fun i here same => ⟨beyond, mem_map.mpr ⟨i, here, if_pos same⟩⟩
      rintro (short | ⟨i, here, same | ⟨n, rfl⟩⟩)
      · obtain ⟨i, here, same⟩ := mem_map.mp known
        exact written i (by rwa [take_of_length_le short.le]) same
      · exact written i here same
      · by_cases same : (overAllocation n).key = (overAllocation beyond).key
        · exact written _ here same
        · exact ⟨n, mem_map.mpr ⟨_, here, if_neg same⟩⟩
  · rw [put_new known, take_append]
    constructor
    · rintro ⟨n, there⟩
      rcases mem_append.mp there with own | new
      · exact .inr ⟨_, own, .inr ⟨n, rfl⟩⟩
      · refine .inl (Nat.lt_of_not_le fun full => ?_)
        rw [Nat.sub_eq_zero_of_le full] at new
        cases new
    · rintro (short | ⟨i, here, same | ⟨n, rfl⟩⟩)
      · obtain ⟨room, is⟩ := Nat.exists_eq_succ_of_ne_zero (Nat.sub_ne_zero_of_lt short)
        rw [is]
        exact ⟨beyond, mem_append_right _ mem_cons_self⟩
      · exact absurd (mem_map.mpr ⟨i, mem_of_mem_take here, same⟩) known
      · exact ⟨n, mem_append_left _ here⟩

theorem compiled_over (exceeds : Exceeds (mergedDraft prompt form)) :
    OverReported (compileMandateDraft prompt form).issues ↔ OverKept prompt form := by
  rw [compiled_issues, exceeds_issue exceeds, if_neg (cons_ne_nil _ _), once_snoc, over_put]
  unfold OverKept issuesBefore
  cases form with
  | none => rfl
  | some f =>
    have same : once DraftIssue.key (mergeFormOntoPrompt prompt f).issues =
        (once DraftIssue.key prompt.issues ++ newConflicts prompt f).take ISSUES_KEPT := by
      rw [merged_issues]
      refine once_of_nodup ?_
      rw [map_take]
      exact before_distinct.sublist (take_sublist _ _)
    have fewer : (once DraftIssue.key (mergeFormOntoPrompt prompt f).issues).length < ISSUES_KEPT ↔
        (once DraftIssue.key prompt.issues ++ newConflicts prompt f).length < ISSUES_KEPT := by
      rw [same, length_take]
      omega
    dsimp only
    rw [← fewer, show (mergedDraft prompt (some f)).issues = (mergeFormOntoPrompt prompt f).issues from rfl, same,
      take_take, Nat.min_self]

/-- The draft tells every explicit disagreement exactly where none is cut off behind the first twelve issues. -/
theorem disagreements_reported (prompt : MandateDraft) (form : Option MandateDraft) :
    (∀ f ∈ form, ∀ path ∈ AUTHORITY_PATHS, Disagree prompt f path →
      Reported path (mergeFormOntoPrompt prompt f).issues ∧ Reported path (compileMandateDraft prompt form).issues) ∧
      (Exceeds (compileMandateDraft prompt form) → OverReported (compileMandateDraft prompt form).issues) ↔
    (∀ f ∈ form, ∀ path ∈ AUTHORITY_PATHS, Disagree prompt f path → Survives prompt f path) ∧
      (Exceeds (mergedDraft prompt form) → OverKept prompt form) := by
  refine and_congr ⟨fun told f given path listed apart => ?_, fun kept f given path listed apart => ?_⟩ ?_
  · exact merged_reported.mp (told f given path listed apart).1
  · have reported := merged_reported.mpr (kept f given path listed apart)
    obtain rfl := Option.mem_def.mp given
    exact ⟨reported, compiled_reported listed reported⟩
  · rw [compiled_exceeds]
    exact forall_congr' fun exceeds => compiled_over exceeds

def asked (n : Nat) : DraftIssue := ⟨.needsClarification, none, Nat.repr n⟩

def draftOf (path : DraftPath) (value : String) (source : FieldSource) (issues : List DraftIssue) : MandateDraft :=
  MandateDraft.withField ⟨fun _ => none, fun _ => none, issues⟩ path (.text value) source

/-- Twelve questions of the interpreter, and the form's total is not the prompt's: nothing says so. -/
theorem disagreement_lost : ¬ ∀ prompt form : MandateDraft, ∀ path ∈ AUTHORITY_PATHS, Disagree prompt form path →
    Reported path (mergeFormOntoPrompt prompt form).issues := by
  intro all
  obtain ⟨i, listed, kind, -⟩ := all
    (draftOf (.portfolio .totalCapital) "100" .explicitPrompt ((List.range 12).map asked))
    (draftOf (.portfolio .totalCapital) "200" .user []) (.portfolio .totalCapital) (by decide)
    ⟨_, _, _, _, rfl, rfl, rfl, rfl, by decide, by decide, by decide +kernel⟩
  have questions : once DraftIssue.key ((List.range 12).map asked) = (List.range 12).map asked :=
    once_of_nodup (by decide +kernel)
  rw [merged_issues] at listed
  change i ∈ (once DraftIssue.key ((List.range 12).map asked) ++ _).take ISSUES_KEPT at listed
  rw [questions, take_append_of_le_length (by decide), take_of_length_le (by decide)] at listed
  obtain ⟨n, -, rfl⟩ := mem_map.mp listed
  cases kind

end Compiling

end Mandate.Authoring
