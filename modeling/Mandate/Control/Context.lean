import Mandate.Control.Outputs

/-! The explicit evaluation context: the time of the decision, the configured sources, the block
heads and the watermarks. Every lookup is exact; a key given twice is refused. -/
namespace Mandate.Control
open Core Ledger Lib.Wire Lib.Text

structure SourceKindInput where
  domain : String
  stateKind : String

/-- Entries are read before they are checked: one that is absent throws. -/
structure StateSourceConfigInput where
  sourceId : String
  trustClass : TrustClass
  kinds : List (Option SourceKindInput)

structure BlockHeadInput where
  sourceId : String
  block : IntegerInput

structure WatermarkInput where
  sourceId : String
  stateKind : String
  subject : ResourceIdInput
  sequence : IntegerInput

structure EvaluationContextInput where
  evaluationTime : IntegerInput
  sources : List (Option StateSourceConfigInput)
  blockHeads : List (Option BlockHeadInput)
  sequenceWatermarks : List (Option WatermarkInput)

structure SourceKind where
  domain : Identifier
  stateKind : Identifier
deriving DecidableEq

structure StateSourceConfig where
  sourceId : Identifier
  trustClass : TrustClass
  kinds : List SourceKind

structure BlockHead where
  sourceId : Identifier
  block : Uint64

structure Watermark where
  sourceId : Identifier
  stateKind : Identifier
  subject : ResourceId
  sequence : Uint64

structure EvaluationContext where
  evaluationTime : UnixSeconds
  digest : Digest32
  sources : List StateSourceConfig
  blockHeads : List BlockHead
  watermarks : List Watermark

def EvaluationContext.source (ctx : EvaluationContext) (id : Identifier) : Option StateSourceConfig :=
  ctx.sources.find? fun s => s.sourceId == id

def EvaluationContext.blockHead (ctx : EvaluationContext) (id : Identifier) : Option Uint64 :=
  (ctx.blockHeads.find? fun h => h.sourceId == id).map (·.block)

def sameMark (sourceId stateKind : Identifier) (subject : ResourceId) (m : Watermark) : Bool :=
  m.sourceId == sourceId && m.stateKind == stateKind && m.subject == subject

def EvaluationContext.watermark (ctx : EvaluationContext) (sourceId stateKind : Identifier)
    (subject : ResourceId) : Option Uint64 :=
  (ctx.watermarks.find? (sameMark sourceId stateKind subject)).map (·.sequence)

section Validation
variable {α : Type}

def invalid (reason path : String) : ControlResult α := refuse .contextInvalid reason path

def orInvalid (result : CoreResult α) : ControlResult α :=
  result.mapError fun error =>
    .refused (refusal .contextInvalid (coreErrorText error.code) error.path)

def entry (raw : Option α) : ControlResult α := raw.elim (.error .thrown) .ok

def validateKinds (path : String) : List (Option SourceKindInput) → Nat → (kinds : List SourceKind) →
    ControlResult (List SourceKind)
  | [], _, kinds => .ok kinds
  | raw :: rest, index, kinds => do
    let k ← entry raw
    let domain ← orInvalid (parseIdentifierAs k.domain (atIndex path index ++ ".domain"))
    let stateKind ← orInvalid (parseIdentifierAs k.stateKind (atIndex path index ++ ".stateKind"))
    if ⟨domain, stateKind⟩ ∈ kinds then invalid "SOURCE_KIND_LISTED_TWICE" (atIndex path index)
    else validateKinds path rest (index + 1) (kinds ++ [⟨domain, stateKind⟩])

def kindLE (a b : SourceKind) : Prop :=
  a.domain.1 < b.domain.1 ∨ (a.domain = b.domain ∧ a.stateKind.1 ≤ b.stateKind.1)

instance : DecidableRel kindLE := fun _ _ => inferInstanceAs (Decidable (_ ∨ (_ ∧ _)))

def validateSources (path : String) : List (Option StateSourceConfigInput) → Nat →
    (sources : List StateSourceConfig) → ControlResult (List StateSourceConfig)
  | [], _, sources => .ok sources
  | raw :: rest, index, sources => do
    let sp := atIndex path index
    let s ← entry raw
    let id ← orInvalid (parseIdentifierAs s.sourceId (sp ++ ".sourceId"))
    if sources.any (fun known => known.sourceId == id) then invalid "SOURCE_CONFIGURED_TWICE" sp
    else if MAX_CONTEXT_ENTRIES < s.kinds.length then invalid "WRONG_TYPE" (sp ++ ".kinds")
    else do
      let kinds ← validateKinds (sp ++ ".kinds") s.kinds 0 []
      validateSources path rest (index + 1) (sources ++ [⟨id, s.trustClass, kinds.insertionSort kindLE⟩])

def validateHeads (path : String) : List (Option BlockHeadInput) → Nat → (heads : List BlockHead) →
    ControlResult (List BlockHead)
  | [], _, heads => .ok heads
  | raw :: rest, index, heads => do
    let hp := atIndex path index
    let h ← entry raw
    let id ← orInvalid (parseIdentifierAs h.sourceId (hp ++ ".sourceId"))
    if heads.any (fun known => known.sourceId == id) then invalid "BLOCK_HEAD_GIVEN_TWICE" hp
    else do
      let block ← orInvalid (parseUint64 h.block (hp ++ ".block"))
      validateHeads path rest (index + 1) (heads ++ [⟨id, block⟩])

def validateMarks (path : String) : List (Option WatermarkInput) → Nat → (marks : List Watermark) →
    ControlResult (List Watermark)
  | [], _, marks => .ok marks
  | raw :: rest, index, marks => do
    let mp := atIndex path index
    let m ← entry raw
    let id ← orInvalid (parseIdentifierAs m.sourceId (mp ++ ".sourceId"))
    let stateKind ← orInvalid (parseIdentifierAs m.stateKind (mp ++ ".stateKind"))
    let subject ← orInvalid (validateAnyResource m.subject (mp ++ ".subject"))
    let sequence ← orInvalid (parseUint64 m.sequence (mp ++ ".sequence"))
    if marks.any (sameMark id stateKind subject) then invalid "WATERMARK_GIVEN_TWICE" mp
    else validateMarks path rest (index + 1) (marks ++ [⟨id, stateKind, subject, sequence⟩])

end Validation

def TRUST_CODE : TrustClass → Nat
  | .authoritative => 1 | .verified => 2 | .advisory => 3 | .untrusted => 4

def writeKind (k : SourceKind) : Writer := writeStr k.domain.1 ++ writeStr k.stateKind.1

def writeSource (s : StateSourceConfig) : Writer :=
  writeStr s.sourceId.1 ++ (writeU8 (TRUST_CODE s.trustClass) ++ (writeU32 s.kinds.length ++
    Writer.each writeKind s.kinds))

def writeHead (h : BlockHead) : Writer := writeStr h.sourceId.1 ++ writeU64 h.block.1

def writeMark (m : Watermark) : Writer :=
  writeStr m.sourceId.1 ++ (writeStr m.stateKind.1 ++ (writeResourceId m.subject ++ writeU64 m.sequence.1))

def watermarkKey (m : Watermark) : String :=
  "[" ++ quoted m.sourceId.1 ++ "," ++ quoted m.stateKind.1 ++ "," ++
    quoted (bytesToHex (encodeWith writeResourceId m.subject)) ++ "]"

def byText {α : Type} (text : α → String) (items : List α) : List α :=
  items.insertionSort fun a b => text a ≤ text b

def writeContext (time : UnixSeconds) (sources : List StateSourceConfig) (heads : List BlockHead)
    (marks : List Watermark) : Writer :=
  controlWriter ControlTag.CONTEXT ++ (writeI64 time.1 ++
    (writeU32 sources.length ++ (Writer.each writeSource (byText (·.sourceId.1) sources) ++
      (writeU32 heads.length ++ (Writer.each writeHead (byText (·.sourceId.1) heads) ++
        (writeU32 marks.length ++ Writer.each writeMark (byText watermarkKey marks)))))))

def withinEntries {α : Type} (items : List α) (path : String) : ControlResult Unit :=
  if MAX_CONTEXT_ENTRIES < items.length then refuse .resourceBoundExceeded "CONTEXT_TOO_LARGE" path
  else .ok ()

def validateEvaluationContext [Keccak] (input : EvaluationContextInput) (path : String) :
    ControlResult EvaluationContext := do
  let time ← orInvalid (parseUnixSeconds input.evaluationTime (path ++ ".evaluationTime"))
  withinEntries input.sources (path ++ ".sources")
  withinEntries input.blockHeads (path ++ ".blockHeads")
  withinEntries input.sequenceWatermarks (path ++ ".sequenceWatermarks")
  let sources ← validateSources (path ++ ".sources") input.sources 0 []
  let heads ← validateHeads (path ++ ".blockHeads") input.blockHeads 0 []
  let marks ← validateMarks (path ++ ".sequenceWatermarks") input.sequenceWatermarks 0 []
  let digest ← written (controlDigest (writeContext time sources heads marks))
  .ok ⟨time, digest, sources, heads, marks⟩

end Mandate.Control
