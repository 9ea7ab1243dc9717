import Mandate.Registry.Vocabulary
import Mandate.Kernel.Checks

/-! Financial identity: canonical assets under closed schemes whose check digits are verified, and
representations named by a chain and a contract on it. -/
set_option linter.dupNamespace false
namespace Mandate.Registry
open Core Lib.Text
open Kernel (CanonicalAssetId)

inductive AssetIdScheme | figi | isin | cusip

def SCHEMES : List (String × AssetIdScheme) := [("figi", .figi), ("isin", .isin), ("cusip", .cusip)]

def CLASSES : List String := ["equity", "fund", "treasury", "bond", "commodity"]

def ordinal (c : Char) : Option Nat :=
  if '0' ≤ c ∧ c ≤ '9' then some (c.toNat - 48)
  else if 'A' ≤ c ∧ c ≤ 'Z' then some (c.toNat - 55) else none

def digitSum (v : Nat) : Nat := v % 10 + v / 10

def checkDigit (weight : Nat → Nat) (values : List Nat) : Nat :=
  (10 - ((values.zipIdx.map fun (v, i) => digitSum (v * weight i)).sum % 10)) % 10

def FIGI_CONSONANTS : List Char := "BCDFGHJKLMNPQRSTVWXYZ0123456789".toList

def FIGI_RESERVED_PREFIXES : List String := ["BS", "BM", "GG", "GB", "GH", "KY", "VG"]

def validateFigi (value : List Char) : Bool :=
  match value.mapM ordinal, value.drop 11 with
  | some values, [_] =>
    value[2]? == some 'G' && !FIGI_RESERVED_PREFIXES.contains (String.ofList (value.take 2)) &&
    ((value.take 11).eraseIdx 2).all FIGI_CONSONANTS.contains &&
    values[11]? == some (checkDigit (fun i => if (i + 1) % 2 = 0 then 2 else 1) (values.take 11))
  | _, _ => false

def luhnCheckDigit (digits : List Nat) : Nat :=
  checkDigit (fun i => if i % 2 = 0 then 2 else 1) digits.reverse

def validateIsin (value : List Char) : Bool :=
  match value.mapM ordinal, value.drop 11 with
  | some values, [_] =>
    (value.take 2).all Char.isUpper &&
    values[11]? == some (luhnCheckDigit ((values.take 11).flatMap fun v => if v < 10 then [v] else [v / 10, v % 10]))
  | _, _ => false

def cusipOrdinal (c : Char) : Option Nat :=
  if c = '*' then some 36 else if c = '@' then some 37 else if c = '#' then some 38 else ordinal c

def validateCusip (value : List Char) : Bool :=
  match (value.take 8).mapM cusipOrdinal, value.drop 8 with
  | some values, [last] =>
    last.isDigit && last.toNat - 48 == checkDigit (fun i => if i % 2 = 1 then 2 else 1) values
  | _, _ => false

def isValidSchemeValue (scheme : AssetIdScheme) (value : String) : Bool :=
  match scheme with
  | .figi => validateFigi value.toList
  | .isin => validateIsin value.toList
  | .cusip => validateCusip value.toList

def validAsset (id : CanonicalAssetId) : Bool :=
  CLASSES.contains id.assetClass.1 && (SCHEMES.lookup id.idScheme.1).any fun s => isValidSchemeValue s id.value.1

/-- Of a known class, under a known scheme, with a value that verifies under it. -/
abbrev ValidatedCanonicalAssetId := {id : CanonicalAssetId // validAsset id = true}

def validateCanonicalAssetId (id : CanonicalAssetId) : RegistryResult ValidatedCanonicalAssetId :=
  if CLASSES.contains id.assetClass.1 = false then .error .assetClassUnsupported
  else if SCHEMES.lookup id.idScheme.1 = none then .error .assetIdentifierSchemeUnsupported
  else if valid : validAsset id = true then .ok ⟨id, valid⟩
  else .error .assetIdentifierInvalid

def canonicalAssetKey (id : ValidatedCanonicalAssetId) : String :=
  id.1.assetClass.1 ++ "\x00" ++ id.1.idScheme.1 ++ "\x00" ++ id.1.value.1

def isHexDigit (c : Char) : Bool := c.isDigit || ('a' ≤ c && c ≤ 'f') || ('A' ≤ c && c ≤ 'F')

def isChainReference (text : List Char) : Bool :=
  text.all Char.isDigit && text.head?.any (· ≠ '0') && text.length ≤ 32

def isAddress (text : List Char) : Bool :=
  text.take 2 == "0x".toList && (text.drop 2).length == 40 && (text.drop 2).all isHexDigit

def isLowerAddress (text : List Char) : Bool := isAddress text && (text.drop 2).all fun c => !c.isUpper

def nibble (digest : Digest32) (i : Nat) : Nat := digest.toNat / 16 ^ (63 - i) % 16

/-- A letter is upper-case exactly where the hash of the lower-case body is 8 or above. -/
def hasValidEip55Checksum [Keccak] (text : List Char) : Bool :=
  let body := text.drop 2
  let hash := keccakDigest (encodeText (String.ofList (body.map Char.toLower)))
  body.zipIdx.all fun (c, i) => c.isDigit || (decide (8 ≤ nibble hash i) == c.isUpper)

/-- Lower-case addresses claim no checksum; any other is refused unless its own verifies. -/
def parseContractAddress [Keccak] (raw : List Char) : RegistryResult (List Char) :=
  if isAddress raw = false then .error .representationIdMalformed
  else if isLowerAddress raw then .ok raw
  else if hasValidEip55Checksum raw = false then .error .representationIdMalformed
  else .ok (raw.map Char.toLower)

/-- One contract on one chain; the canonical spelling is the kernel's opaque identifier. -/
structure RepresentationId where
  chainReference : List Char
  contractAddress : List Char
  chain : Identifier
  value : Identifier
  referenced : isChainReference chainReference = true
  addressed : isLowerAddress contractAddress = true
  chained : chain.1.toList = "eip155:".toList ++ chainReference
  named : value.1.toList = chain.1.toList ++ "/erc20:".toList ++ contractAddress

def buildId (chainReference contractAddress : List Char) : RegistryResult RepresentationId :=
  let chain := String.ofList ("eip155:".toList ++ chainReference)
  let value := String.ofList (chain.toList ++ "/erc20:".toList ++ contractAddress)
  if referenced : isChainReference chainReference = true then
    if addressed : isLowerAddress contractAddress = true then
      if chainValid : identifierText chain = true then
        if valueValid : identifierText value = true then
          .ok ⟨chainReference, contractAddress, ⟨chain, chainValid⟩, ⟨value, valueValid⟩, referenced,
            addressed, by simp [chain], by simp [value]⟩
        else .error .representationIdMalformed
      else .error .representationIdMalformed
    else .error .representationIdMalformed
  else .error .representationIdMalformed

/-- The two forms an identifier is given in; a structured one may repeat what it derives. -/
inductive RepresentationIdInput
  | text (raw : String)
  | fields (chainNamespace chainReference assetNamespace contractAddress : String) (chain value : Option String)

def parseReferences [Keccak] (chainNamespace chainReference assetNamespace contractAddress : List Char) :
    RegistryResult RepresentationId :=
  if chainNamespace ≠ "eip155".toList then .error .representationIdMalformed
  else if assetNamespace ≠ "erc20".toList then .error .representationIdMalformed
  else if isChainReference chainReference = false then .error .representationIdMalformed
  else do
    let address ← parseContractAddress contractAddress
    buildId chainReference address

def parseRepresentationId [Keccak] : RepresentationIdInput → RegistryResult RepresentationId
  | .text raw =>
    match (raw.toList.splitOn '/').map (·.splitOn ':') with
    | [[chainNamespace, chainReference], [assetNamespace, contractAddress]] =>
      parseReferences chainNamespace chainReference assetNamespace contractAddress
    | _ => .error .representationIdMalformed
  | .fields chainNamespace chainReference assetNamespace contractAddress chain value => do
    let id ← parseReferences chainNamespace.toList chainReference.toList assetNamespace.toList contractAddress.toList
    if chain.any (· ≠ id.chain.1) ∨ value.any (· ≠ id.value.1) then .error .representationIdMalformed
    else .ok id

end Mandate.Registry
