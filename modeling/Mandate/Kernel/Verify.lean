import Mandate.Kernel.Checks

/-! The verifier: every input parsed on its own, every check run, and a receipt whose
decision is the union of what was found. -/
namespace Mandate.Kernel
open Core Lib.Wire Lib.Text

inductive Decision | pass | reject
deriving DecidableEq

def Decision.name : Decision → String
  | .pass => "PASS" | .reject => "REJECT"

def VERIFIER_VERSION : String := "mandate-kernel/2"
def RECEIPT_TAG : String := "MANDATE.RECEIPT.V1"

structure ReceiptBody where
  mandateDigest : Option Digest32
  candidateDigest : Option Digest32
  trustedStateDigest : Option Digest32
  evaluatedAt : Option UnixSeconds
  decision : Decision
  reasonCodes : List ReasonCode
  violations : List Violation

structure VerificationReceipt where
  verifierVersion : String
  body : ReceiptBody
  receiptDigest : Digest32

def sortedDetail (detail : List (String × String)) : List (String × String) :=
  detail.insertionSort fun a b => (compare a.1 b.1).isLE = true

def writeViolation (v : Violation) : Writer :=
  writeStr v.code.name ++ writeList (fun entry : String × String => writeStr entry.1 ++ writeStr entry.2)
    (sortedDetail v.detail)

def writeReceipt (r : ReceiptBody) : Writer :=
  Writer.raw (encodeText RECEIPT_TAG) ++ (writeU16 1 ++ (writeStr VERIFIER_VERSION ++
    (writeNullable writeDigest r.mandateDigest ++ (writeNullable writeDigest r.candidateDigest ++
      (writeNullable writeDigest r.trustedStateDigest ++
        (writeNullable (fun seconds : UnixSeconds => writeI64 seconds.1) r.evaluatedAt ++
          (writeStr r.decision.name ++ writeList writeViolation r.violations)))))))

def violationKey (v : Violation) : String :=
  v.code.id ++ "\x00" ++ "\x00".intercalate ((sortedDetail v.detail).map fun entry => entry.1 ++ "=" ++ entry.2)

def canonicalize (violations : List Violation) : List Violation :=
  let firsts := violations.foldl (fun seen v =>
    if seen.any fun other => violationKey other == violationKey v then seen else seen ++ [v]) []
  firsts.insertionSort fun a b => (compare (violationKey a) (violationKey b)).isLE = true

structure VerifyRequest where
  mandate : MandateInput
  authorization : AuthorizationInput
  candidate : CandidateInput
  trustedState : TrustedStateInput
  clock : IntegerInput
  expectedDomain : Eip712DomainInput

def collect {α : Type} (result : KernelResult α) (input : String) : List Violation :=
  match result with
  | .ok _ => []
  | .error code => [⟨code, [("input", input)]⟩]

variable [Keccak] [Secp256k1]

/-- A receipt over what was found; its digest's writer asserts its lengths and may throw. -/
def finish (mandateDigest candidateDigest trustedStateDigest : Option Digest32)
    (evaluatedAt : Option UnixSeconds) (violations : List Violation) : Option VerificationReceipt :=
  let canonical := canonicalize violations
  let body : ReceiptBody := ⟨mandateDigest, candidateDigest, trustedStateDigest, evaluatedAt,
    if canonical.length = 0 then .pass else .reject, (canonical.map (·.code)).eraseDups, canonical⟩
  (writeReceipt body).map fun bytes => ⟨VERIFIER_VERSION, body, keccakDigest bytes⟩

/-- The verifier over its default checks. The writers of digests never throw on parsed values. -/
def verify (request : VerifyRequest) : Option VerificationReceipt :=
  let mandate := parseMandate request.mandate
  let authorization := parseAuthorizationEnvelope request.authorization
  let candidate := parseCandidate request.candidate
  let state := parseTrustedState request.trustedState
  let clock := parseUnixSeconds request.clock .malformedTrustedState
  let expectedDomain := parseEip712Domain request.expectedDomain
  let parseViolations := collect mandate "mandate" ++ collect authorization "authorization" ++
    collect candidate "candidate" ++ collect state "trustedState" ++ collect clock "clock" ++
    collect expectedDomain "expectedDomain"
  let finished := finish (mandate.toOption.map mandateDigest) (candidate.toOption.map candidateDigest)
    (state.toOption.map trustedStateDigest) clock.toOption
  match mandate, authorization, candidate, state, clock, expectedDomain with
  | .ok mandate, .ok authorization, .ok candidate, .ok state, .ok now, .ok expectedDomain =>
    let ctx : CheckContext := ⟨mandate, authorization, candidate, state, now, expectedDomain,
      mandateDigest mandate, trustedStateDigest state⟩
    finished (parseViolations ++ CHECKS.flatMap fun check => check ctx)
  | _, _, _, _, _, _ => finished parseViolations

def Passes (request : VerifyRequest) : Prop :=
  ∃ receipt, verify request = some receipt ∧ receipt.body.decision = .pass

end Mandate.Kernel
