import Mandate.Ledger.State

/-! The identity of a policy dimension: everything of it but its limit's atoms. Its encoding
reads back, so that where the hash does not collide a policy key names one identity. -/
namespace Mandate.Ledger
open Core Lib.Wire Lib.Text
open Writer (total_append)

structure SameDimension (d other : LedgerDimensionTerm) : Prop where
  dimensionId : d.dimensionId = other.dimensionId
  kind : d.limit.kind = other.limit.kind
  unit : d.limit.unit = other.limit.unit
  decimals : d.limit.decimals = other.limit.decimals
  accounting : d.accounting = other.accounting
  restoration : d.restoration = other.restoration
  epoch : d.epoch = other.epoch
  sign : d.sign = other.sign
  scope : d.scope = other.scope

structure IdentityTexts where
  dimensionId : String
  kind : String
  unit : String
  decimals : Nat
  accounting : String
  restoration : String
  epoch : Option (Int × Int)
  sign : String
  scope : DimensionScopeInput

def identityTextsOf (d : LedgerDimensionTerm) : IdentityTexts :=
  ⟨d.dimensionId.1, kindText d.limit.kind, d.limit.unit.1, d.limit.decimals.1, accountingText d.accounting,
    restorationText d.restoration, d.epoch.map fun e => (e.anchor.1, e.lengthSeconds.1),
    signText d.sign, scopeInputOf d.scope⟩

def readIdentityEpoch : CoreReader (Int × Int) := do
  let anchor ← readI64
  let length ← (fun n : Nat => (n : Int)) <$> readU64
  pure (anchor, length)

def readDimensionIdentity : CoreReader IdentityTexts := do
  let dimensionId ← readStr
  let kind ← readStr
  let unit ← readStr
  let decimals ← readU8
  let accounting ← readStr
  let restoration ← readStr
  let epoch ← readNullable readIdentityEpoch
  let sign ← readStr
  let scope ← readScopeInput
  pure ⟨dimensionId, kind, unit, decimals, accounting, restoration, epoch, sign, scope⟩

theorem frames_identityEpoch (e : Epoch) :
    Frames (writeIdentityEpoch e) readIdentityEpoch (e.anchor.1, e.lengthSeconds.1) 16 :=
  Frames.mono (.bind (frames_i64 _) (.last (frames_u64_int _))) (by decide)

theorem kind_ascii (kind : QuantityKind) : Ascii (kindText kind) := by
  cases kind <;> exact ascii_of_all (by decide)

theorem accounting_ascii (accounting : Accounting) : Ascii (accountingText accounting) := by
  cases accounting <;> exact ascii_of_all (by decide)

theorem restoration_ascii (restoration : Restoration) : Ascii (restorationText restoration) := by
  cases restoration <;> exact ascii_of_all (by decide)

theorem sign_ascii (sign : SignMode) : Ascii (signText sign) := by
  cases sign <;> exact ascii_of_all (by decide)

variable {d : LedgerDimensionTerm}

theorem reads_dimensionIdentity {bytes : Bytes} (written : writeDimensionIdentity d = some bytes) :
    Reads readDimensionIdentity bytes (identityTextsOf d) := by
  have frames : Frames (writeDimensionIdentity d) readDimensionIdentity (identityTextsOf d) _ :=
    .bind (frames_identifier _) (.bind (frames_str (kind_ascii _)) (.bind (frames_unit _)
      (.bind (frames_u8 _) (.bind (frames_str (accounting_ascii _)) (.bind
        (frames_str (restoration_ascii _)) (.bind (frames_nullable frames_identityEpoch _)
          (.bind (frames_str (sign_ascii _)) (.last (frames_scope _)))))))))
  exact (frames bytes written).2

@[simp] theorem total_identityEpoch (e : Epoch) : (writeIdentityEpoch e).Total := by
  have length := e.lengthSeconds.2
  simp only [UINT32_MAX] at length
  simp only [writeIdentityEpoch, Writer.total_both, total_i64, true_and]
  exact Writer.total_uint (by omega) (by norm_num; omega)

theorem total_dimensionIdentity (d : LedgerDimensionTerm) : (writeDimensionIdentity d).Total := by
  have decimals := d.limit.decimals.2
  simp only [MAX_DECIMALS] at decimals
  have kind := total_str (kind_ascii d.limit.kind) (by cases d.limit.kind <;> decide)
  have accounting := total_str (accounting_ascii d.accounting) (by cases d.accounting <;> decide)
  have restoration := total_str (restoration_ascii d.restoration) (by cases d.restoration <;> decide)
  have sign := total_str (sign_ascii d.sign) (by cases d.sign <;> decide)
  simp [writeDimensionIdentity, kind, accounting, restoration, sign]

variable {other : LedgerDimensionTerm}

theorem identity_injective (same : identityTextsOf d = identityTextsOf other) : SameDimension d other := by
  simp only [identityTextsOf, IdentityTexts.mk.injEq] at same
  obtain ⟨id, kind, unit, decimals, accounting, restoration, epoch, sign, scope⟩ := same
  have scopes : validateScope (scopeInputOf d.scope) "" = validateScope (scopeInputOf other.scope) "" := by
    rw [scope]
  rw [validateScope_self, validateScope_self] at scopes
  have anchored : Function.Injective fun e : Epoch => (e.anchor.1, e.lengthSeconds.1) := by
    rintro ⟨anchor, length⟩ ⟨anchor', length'⟩ agree
    obtain ⟨first, second⟩ := Prod.mk.inj agree
    obtain rfl : anchor = anchor' := Subtype.ext first
    obtain rfl : length = length' := Subtype.ext second
    rfl
  refine ⟨Subtype.ext id, ?_, Subtype.ext unit, Subtype.ext decimals, ?_, ?_,
    Option.map_injective anchored epoch, ?_, Except.ok.inj scopes⟩
  · cases first : d.limit.kind <;> cases second : other.limit.kind <;>
      simp_all [kindText]
  · cases first : d.accounting <;> cases second : other.accounting <;>
      simp_all [accountingText]
  · cases first : d.restoration <;> cases second : other.restoration <;>
      simp_all [restorationText]
  · cases first : d.sign <;> cases second : other.sign <;> simp_all [signText]

def dimensionIdentityBytes (d : LedgerDimensionTerm) : Bytes := (dimensionIdentityWriter d).getD []

theorem dimensionIdentityBytes_injective
    (same : dimensionIdentityBytes d = dimensionIdentityBytes other) : SameDimension d other := by
  obtain ⟨first, written⟩ := total_dimensionIdentity d
  obtain ⟨second, written'⟩ := total_dimensionIdentity other
  have tagged : (ledgerWriter LedgerTag.POLICY_DIMENSION).Total :=
    total_append (total_str (ascii_of_all (by decide)) (by decide)) (total_u16 (by decide))
  obtain ⟨tag, labelled⟩ := tagged
  simp only [dimensionIdentityBytes, dimensionIdentityWriter, labelled, written, written'] at same
  have bodies : first = second := List.append_cancel_left same
  subst bodies
  exact identity_injective ((reads_dimensionIdentity written).inj (reads_dimensionIdentity written'))

/-- No two of the dimensions are hashed to one key but as one identity. -/
def CollisionFree [Keccak] (dims : List LedgerDimensionTerm) : Prop :=
  ∀ d ∈ dims, ∀ other ∈ dims,
    keccakDigest (dimensionIdentityBytes d) = keccakDigest (dimensionIdentityBytes other) →
      dimensionIdentityBytes d = dimensionIdentityBytes other

instance [Keccak] (dims : List LedgerDimensionTerm) : Decidable (CollisionFree dims) :=
  inferInstanceAs (Decidable (∀ d ∈ dims, ∀ other ∈ dims, _ → _))

theorem CollisionFree.same [Keccak] {dims : List LedgerDimensionTerm} (free : CollisionFree dims) (listed : d ∈ dims) (listed' : other ∈ dims)
    (key : policyKey d = policyKey other) : SameDimension d other :=
  dimensionIdentityBytes_injective (free d listed other listed' (TargetKey.policy.inj key))

end Mandate.Ledger
