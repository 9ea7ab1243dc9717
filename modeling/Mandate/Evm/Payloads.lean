import Mandate.Control.Outputs
import Mandate.Evm.Vocabulary
import Mandate.Perp.Payloads

/-! The gate's two payloads, the buy an agent signs and the market a reader reports: what is encoded
decodes to itself, and what decodes was encoded so, but for a text that begins with a mark. -/
set_option linter.dupNamespace false
namespace Mandate.Evm
open Core Ledger Control Lib.Wire Lib.Text List
open Perp (decodeWith readInt readExactly writeChecked writeChecked_self must_self consumes_must consumes_resource
  consumes_number frames_number consumes_exactly frames_exactly Plain plain_of_frames decoded_of_frames)
open Writer (append_some)

section Codecs

structure GateBuy where
  account : ResourceIdInput
  market : ResourceIdInput
  quantity : Int

def encodeGateBuy (b : GateBuy) : Writer :=
  writeStr BUY_TAG ++ (writeChecked b.account [.account] "account" ++ (writeChecked b.market [.market] "market" ++
    writeU256 b.quantity))

/-- One market of the deployed gate as the chain reports it; identifiers are the hashes the chain stores. -/
structure GateMarketSnapshot where
  chainId : Int
  gate : String
  representation : String
  fundingToken : String
  adapter : String
  venue : String
  representationDecimals : Nat
  fundingDecimals : Nat
  synthetic : Bool
  classification : Nat
  canonicalAssetHash : String
  issuerHash : String
  venueHash : String
  quantityUnitHash : String
  settlementUnitHash : String
  fixturePriceDecimals : Nat
  fixturePriceAtoms : Int
  feeBps : Nat

def isHash (text : String) : Bool := (hexToBytes text).any fun bytes => bytes.length == 32

/-- A text is written only where it passes, and read so. -/
def writePassing (passes : String → Bool) (text : String) : Writer :=
  if passes text then writeStr text else Writer.throw

def readPassing (passes : String → Bool) : CoreReader String := do
  let text ← readStr
  if passes text then pure text else Reader.fail .encodingMalformed

def readEach (passes : String → Bool) : Nat → CoreReader (List String)
  | 0 => pure []
  | n + 1 => do
    let text ← readPassing passes
    let rest ← readEach passes n
    pure (text :: rest)

def encodeGateMarket (m : GateMarketSnapshot) : Writer :=
  writeStr MARKET_TAG ++ (writeU64 m.chainId ++
    (Writer.each (writePassing isAddress) [m.gate, m.representation, m.fundingToken, m.adapter, m.venue] ++
      (writeU8 m.representationDecimals ++ (writeU8 m.fundingDecimals ++ (writeU8 (if m.synthetic then 1 else 0) ++
        (writeU8 m.classification ++ (Writer.each (writePassing isHash) [m.canonicalAssetHash, m.issuerHash, m.venueHash,
          m.quantityUnitHash, m.settlementUnitHash] ++ (writeU8 m.fixturePriceDecimals ++
            (writeU256 m.fixturePriceAtoms ++ writeU16 m.feeBps)))))))))

def readGateMarket : CoreReader GateMarketSnapshot := do
  readExactly MARKET_TAG
  let chainId ← readInt readU64
  let addresses ← readEach isAddress 5
  let representationDecimals ← readU8
  let fundingDecimals ← readU8
  let synthetic ← readU8
  let classification ← readU8
  let hashes ← readEach isHash 5
  if 1 < synthetic then Reader.fail .encodingMalformed
  else match addresses, hashes with
    | [gate, representation, fundingToken, adapter, venue],
      [canonicalAssetHash, issuerHash, venueHash, quantityUnitHash, settlementUnitHash] => do
      let fixturePriceDecimals ← readU8
      let fixturePriceAtoms ← readInt readU256
      let feeBps ← readU16
      pure ⟨chainId, gate, representation, fundingToken, adapter, venue, representationDecimals, fundingDecimals,
        synthetic = 1, classification, canonicalAssetHash, issuerHash, venueHash, quantityUnitHash,
        settlementUnitHash, fixturePriceDecimals, fixturePriceAtoms, feeBps⟩
    | _, _ => Reader.fail .encodingMalformed

def decodeGateMarket (bytes : Bytes) : Option GateMarketSnapshot := decodeWith bytes readGateMarket

end Codecs

section Texts

theorem hexPairs_some {digits : List Char} {bytes : Bytes} (read : hexPairs digits = some bytes) :
    (∀ c ∈ digits, c.toNat < 128) ∧ digits.length = 2 * bytes.length := by
  have small {c : Char} {n : Nat} (digit : hexValue c = some n) : c.toNat < 128 := by
    unfold hexValue at digit
    split at digit
    · next range => exact Nat.lt_of_le_of_lt (show c.toNat ≤ '9'.toNat from range.2) (by decide)
    split at digit
    · next range => exact Nat.lt_of_le_of_lt (show c.toNat ≤ 'f'.toNat from range.2) (by decide)
    · cases digit
  induction digits using hexPairs.induct generalizing bytes with
  | case1 =>
    cases read
    simp
  | case2 => cases read
  | case3 high low rest ih =>
    obtain ⟨_, first, read⟩ := Option.bind_eq_some_iff.mp read
    obtain ⟨_, second, read⟩ := Option.bind_eq_some_iff.mp read
    obtain ⟨after, rest, made⟩ := Option.bind_eq_some_iff.mp read
    obtain rfl := Option.some.inj made
    obtain ⟨ascii, length⟩ := ih rest
    refine ⟨fun c member => ?_, by simp only [length_cons, length]; omega⟩
    rcases mem_cons.mp member with rfl | member
    · exact small first
    rcases mem_cons.mp member with rfl | member
    · exact small second
    · exact ascii c member

/-- A text of `size` hexadecimal bytes is short and plain, so it is written whenever it passes. -/
def Hexadecimal (passes : String → Bool) : Prop := ∀ text, passes text = true → Ascii text ∧ text.length ≤ 66

theorem hexadecimal_of_size {size : Nat} (small : size ≤ 32) :
    Hexadecimal fun text => (hexToBytes text).any fun bytes => bytes.length == size := by
  intro text passes
  obtain ⟨bytes, read, width⟩ := (Option.any_eq_true _ _).mp passes
  unfold hexToBytes at read
  split at read
  · next digits spelled =>
    obtain ⟨ascii, length⟩ := hexPairs_some read
    refine ⟨fun c member => ?_, ?_⟩
    · rw [spelled] at member
      rcases mem_cons.mp member with rfl | member
      · decide
      rcases mem_cons.mp member with rfl | member
      · decide
      · exact ascii c member
    · rw [← String.length_toList, spelled, length_cons, length_cons, length, beq_iff_eq.mp width]
      omega
  · cases read

theorem hexadecimal_address : Hexadecimal isAddress := hexadecimal_of_size (by decide)

theorem hexadecimal_hash : Hexadecimal isHash := hexadecimal_of_size (by decide)

variable {passes : String → Bool}

theorem frames_passing (hex : Hexadecimal passes) (text : String) :
    Frames (writePassing passes text) (readPassing passes) text 68 := by
  intro bytes written
  unfold writePassing at written
  split at written
  · next ok =>
    refine (((frames_str (hex text ok).1).check ?_).mono (by have := (hex text ok).2; omega)) bytes written
    rw [if_pos ok]
    exact Reads.pure text
  · cases written

theorem consumes_passing (hex : Hexadecimal passes) :
    Consumes (readPassing passes) fun used text => writePassing passes text = some used := by
  have last (text : String) : Consumes (if passes text then pure text else Reader.fail .encodingMalformed : CoreReader String)
      fun used read => used = [] ∧ read = text ∧ passes text = true := by
    split
    · next ok => exact (Consumes.pure text).mono fun _ _ is => ⟨is.1, is.2, ok⟩
    · exact (Consumes.fail _).mono fun _ _ impossible => impossible.elim
  refine (consumes_str.bind last).mono ?_
  rintro _ text ⟨spelled, rfl, rfl, ok⟩
  rw [writePassing, if_pos ok, append_nil]
  exact spelled (hex text ok).1 (by have := (hex text ok).2; omega)

theorem frames_each (hex : Hexadecimal passes) (texts : List String) :
    Frames (Writer.each (writePassing passes) texts) (readEach passes texts.length) texts (68 * texts.length) := by
  induction texts with
  | nil => exact Frames.pure []
  | cons text rest ih => exact ((frames_passing hex text).bind ih.last).mono (by rw [length_cons]; omega)

theorem consumes_each (hex : Hexadecimal passes) (n : Nat) :
    Consumes (readEach passes n) fun used texts => Writer.each (writePassing passes) texts = some used := by
  induction n with
  | zero =>
    refine (Consumes.pure []).mono ?_
    rintro _ _ ⟨rfl, rfl⟩
    rfl
  | succ n ih =>
    refine ((consumes_passing hex).bind fun _ => ih.last).mono ?_
    rintro _ _ ⟨first, ⟨after⟩⟩
    exact written_append first after

end Texts

section Buy

def DecodedBuy.given (b : DecodedBuy) : GateBuy :=
  ⟨resourceOfInputOf b.account, resourceOfInputOf b.market, b.quantity⟩

theorem ascii_buy : Ascii BUY_TAG := ascii_of_all (by decide)

theorem frames_buy (b : DecodedBuy) : Frames (encodeGateBuy b.given) readGateBuy b 700 := by
  rw [encodeGateBuy, DecodedBuy.given, readGateBuy]
  dsimp only
  rw [writeChecked_self, writeChecked_self]
  refine ((frames_str ascii_buy).bind (n := 261 + (261 + 32)) ?_).mono (by decide)
  rw [if_neg (not_not.mpr rfl)]
  refine (frames_resourceOf _).bind ((frames_resourceOf _).bind ?_)
  rw [must_self, must_self, pure_bind, pure_bind]
  have quantity := (frames_u256_int b.quantity).last (f := DecodedBuy.mk b.account b.market)
  rwa [bind_map_left] at quantity

theorem consumes_buy : Consumes readGateBuy fun used b => True → encodeGateBuy b.given = some used := by
  have rest (tag : String) : Consumes (if tag ≠ BUY_TAG then Reader.fail .encodingMalformed else do
        let account ← readResourceIdInput
        let market ← readResourceIdInput
        let account ← must (validateResourceId account [.account] "account")
        let market ← must (validateResourceId market [.market] "market")
        let quantity ← readU256
        pure ⟨account, market, quantity⟩ : CoreReader DecodedBuy) fun used b => tag = BUY_TAG ∧
      writeResourceOf b.account ++ (writeResourceOf b.market ++ writeU256 b.quantity) = some used := by
    split
    · exact (Consumes.fail _).mono fun _ _ impossible => impossible.elim
    · next is =>
      refine ((consumes_resource [.account]).bind fun a => (consumes_resource [.market]).bind fun m =>
        (consumes_must (validateResourceId a [.account] "account")).bind fun _ =>
          (consumes_must (validateResourceId m [.market] "market")).bind fun _ => (consumes_uint 32).last).mono ?_
      rintro _ _ ⟨first, second, ⟨rfl, account_is⟩, ⟨rfl, market_is⟩, ⟨third⟩⟩
      exact ⟨not_not.mp is, written_append (first _ _ account_is) (written_append (second _ _ market_is) third)⟩
  refine (consumes_str.bind rest).mono ?_
  rintro _ b ⟨tagged, rfl, written⟩ _
  rw [encodeGateBuy, DecodedBuy.given]
  dsimp only
  rw [writeChecked_self, writeChecked_self]
  exact written_append (tagged ascii_buy (by decide)) written

end Buy

section Market

theorem ascii_market : Ascii MARKET_TAG := ascii_of_all (by decide)

theorem frames_gateMarket (m : GateMarketSnapshot) : Frames (encodeGateMarket m) readGateMarket m 1000 := by
  refine ((frames_exactly ascii_market).bind ((frames_number rfl _).bind ((frames_each hexadecimal_address _).bind
    ((frames_u8 _).bind ((frames_u8 _).bind ((frames_u8 _).bind ((frames_u8 _).bind ((frames_each hexadecimal_hash _).bind
      (n := 1 + (32 + 2)) ?_)))))))).mono ?_
  · have known : ¬ 1 < (if m.synthetic then 1 else 0) := by split <;> decide
    rw [if_neg known]
    refine (frames_u8 _).bind ((frames_number rfl _).bind ((frames_u16 _).check ?_))
    obtain ⟨_, _, _, _, _, _, _, _, synthetic⟩ := m
    cases synthetic <;> exact Reads.pure _
  · exact (by decide : 2 + MARKET_TAG.length + (8 + (68 * 5 + (1 + (1 + (1 + (1 + (68 * 5 + (1 + (32 + 2))))))))) ≤ 1000)

theorem consumes_gateMarket : Consumes readGateMarket fun used m => True → encodeGateMarket m = some used := by
  have last (chainId : Int) (addresses hashes : List String) (representationDecimals fundingDecimals synthetic
      classification : Nat) : Consumes (if 1 < synthetic then Reader.fail .encodingMalformed
    else match addresses, hashes with
      | [gate, representation, fundingToken, adapter, venue],
        [canonicalAssetHash, issuerHash, venueHash, quantityUnitHash, settlementUnitHash] => do
        let fixturePriceDecimals ← readU8
        let fixturePriceAtoms ← readInt readU256
        let feeBps ← readU16
        pure ⟨chainId, gate, representation, fundingToken, adapter, venue, representationDecimals, fundingDecimals,
          synthetic = 1, classification, canonicalAssetHash, issuerHash, venueHash, quantityUnitHash,
          settlementUnitHash, fixturePriceDecimals, fixturePriceAtoms, feeBps⟩
      | _, _ => Reader.fail .encodingMalformed : CoreReader GateMarketSnapshot) fun used m => ∀ tag chain first second
        third fourth fifth sixth, writeStr MARKET_TAG = some tag → writeU64 chainId = some chain →
          Writer.each (writePassing isAddress) addresses = some first → writeU8 representationDecimals = some second →
          writeU8 fundingDecimals = some third → writeU8 synthetic = some fourth → writeU8 classification = some fifth →
          Writer.each (writePassing isHash) hashes = some sixth → encodeGateMarket m = some
            (tag ++ (chain ++ (first ++ (second ++ (third ++ (fourth ++ (fifth ++ (sixth ++ used)))))))) := by
    split
    · exact (Consumes.fail _).mono fun _ _ impossible => impossible.elim
    next known =>
    split
    · refine (consumes_u8.bind fun _ => (consumes_number rfl).bind fun _ => consumes_u16.last).mono ?_
      rintro _ _ ⟨seventh, eighth, ⟨ninth⟩⟩ tag chain first second third fourth fifth
        sixth tagged chained addressed one two three four hashed
      rw [Perp.flag_of_byte (Nat.le_of_not_lt known)] at three
      exact written_append tagged (written_append chained (written_append addressed (written_append one (written_append
        two (written_append three (written_append four (written_append hashed (written_append seventh
          (written_append eighth ninth)))))))))
    · exact (Consumes.fail _).mono fun _ _ impossible => impossible.elim
  refine ((consumes_exactly ascii_market (by decide)).bind fun _ => (consumes_number rfl).bind fun chainId =>
    (consumes_each hexadecimal_address 5).bind fun addresses => consumes_u8.bind fun representation =>
      consumes_u8.bind fun funding => consumes_u8.bind fun synthetic => consumes_u8.bind fun classification =>
        (consumes_each hexadecimal_hash 5).bind fun hashes =>
          last chainId addresses hashes representation funding synthetic classification).mono ?_
  rintro _ _ ⟨tagged, chained, addressed, one, two,
    three, four, hashed, spelled⟩ _
  exact spelled _ _ _ _ _ _ _ _ tagged chained addressed one two three four hashed

end Market

section Canonical

variable {bytes : Bytes}

theorem writeChecked_some {input : ResourceIdInput} {allowed : List ResourceKind} {path : String}
    (written : writeChecked input allowed path = some bytes) :
    ∃ r : ResourceOf allowed, input = resourceOfInputOf r := by
  unfold writeChecked at written
  split at written
  · next r valid =>
    simp only [validateResourceId, except_bind_ok, guard_ok] at valid
    obtain ⟨domain, domainValid, member, localId, localValid, same⟩ := valid
    obtain rfl := Except.ok.inj same
    obtain ⟨named, domain_is⟩ := guard_ok.mp domainValid
    obtain ⟨shaped, local_is⟩ := guard_ok.mp localValid
    obtain rfl := Except.ok.inj domain_is
    obtain rfl := Except.ok.inj local_is
    exact ⟨⟨⟨⟨_, named⟩, _, ⟨_, shaped⟩⟩, member⟩, rfl⟩
  · cases written

theorem encodeGateBuy_given {b : GateBuy} (written : encodeGateBuy b = some bytes) :
    ∃ d : DecodedBuy, d.given = b := by
  obtain ⟨_, _, _, written, _⟩ := append_some.mp written
  obtain ⟨_, _, account, written, _⟩ := append_some.mp written
  obtain ⟨_, _, market, _, _⟩ := append_some.mp written
  obtain ⟨account, same⟩ := writeChecked_some account
  obtain ⟨market, same'⟩ := writeChecked_some market
  exact ⟨⟨account, market, b.quantity⟩, by rw [DecodedBuy.given, ← same, ← same']⟩

theorem buy_canonical (d : DecodedBuy) (decoded : decodeGateBuy bytes = some d) :
    encodeGateBuy d.given = some bytes ↔ Plain readGateBuy (fun _ => True) bytes :=
  ⟨fun written => plain_of_frames (frames_buy d) written trivial,
    fun plain => @Plain.written _ _ readGateBuy (fun _ => True) (fun b => encodeGateBuy b.given) _ consumes_buy plain decoded⟩

/-- What the digest of a state payload is taken of. -/
def statePreimage (ref : ModuleRef) (payload : Bytes) : Writer :=
  controlWriter ControlTag.STATE_PAYLOAD ++ (writeDigest ref.moduleDigest.1 ++ (writeU32 payload.length ++
    Writer.raw payload))

theorem statePayloadDigest_eq [Keccak] (ref : ModuleRef) (payload : Bytes) :
    statePayloadDigest ref payload = (statePreimage ref payload).map keccakDigest := rfl

theorem rest_of_append {first second third : Writer} (one : first ++ second = some bytes)
    (other : first ++ third = some bytes) : ∃ rest, second = some rest ∧ third = some rest := by
  obtain ⟨before, rest, here, there, split⟩ := append_some.mp one
  obtain ⟨before', rest', here', there', split'⟩ := append_some.mp other
  obtain rfl : before = before' := Option.some.inj (here.symm.trans here')
  exact ⟨rest, there, append_cancel_left (split'.symm.trans split) ▸ there'⟩

theorem statePreimage_inj {ref : ModuleRef} {a b image : Bytes} (first : statePreimage ref a = some image)
    (second : statePreimage ref b = some image) : a = b := by
  obtain ⟨_, first, second⟩ := rest_of_append first second
  obtain ⟨_, first, second⟩ := rest_of_append first second
  obtain ⟨_, _, sized, held, split⟩ := append_some.mp first
  obtain ⟨_, _, sized', held', split'⟩ := append_some.mp second
  obtain ⟨_, _, rfl⟩ := Writer.uint_some.mp sized
  obtain ⟨_, _, rfl⟩ := Writer.uint_some.mp sized'
  obtain rfl := Option.some.inj held
  obtain rfl := Option.some.inj held'
  exact (append_inj (split.symm.trans split') (by rw [beBytes_length, beBytes_length])).2

/-- For every byte string and both payloads: what a value encodes to decodes to it; what decodes was encoded so
exactly where no text begins with a mark. Payloads without marks denote different buys, and a pinned market is met
by its own encoding alone, unless the hash collides. -/
theorem gatePayloads_canonical [Keccak] (bytes : Bytes) :
    ((∀ b, encodeGateBuy b = some bytes → ∃ d, decodeGateBuy bytes = some d ∧ d.given = b) ∧
      (∀ d, decodeGateBuy bytes = some d →
        (encodeGateBuy d.given = some bytes ↔ Plain readGateBuy (fun _ => True) bytes)) ∧
      ∀ d other, decodeGateBuy bytes = some d → decodeGateBuy other = some d → Plain readGateBuy (fun _ => True) bytes →
        Plain readGateBuy (fun _ => True) other → other = bytes) ∧
    (∀ m, (encodeGateMarket m = some bytes → decodeGateMarket bytes = some m) ∧ (decodeGateMarket bytes = some m →
      (encodeGateMarket m = some bytes ↔ Plain readGateMarket (fun _ => True) bytes))) ∧
    ∀ ref chainId gate m expected pinned, encodeReviewedSnapshot chainId gate m = some expected →
      statePayloadDigest ref expected = some pinned →
      (∀ x y, statePreimage ref expected = some x → statePreimage ref bytes = some y → keccakDigest x = keccakDigest y →
        x = y) → (statePayloadDigest ref bytes = some pinned ↔ bytes = expected) := by
  refine ⟨⟨fun b written => ?_, buy_canonical, fun d other decoded decoded' plain plain' => ?_⟩,
    fun m => ⟨fun written => decoded_of_frames (frames_gateMarket m) written, fun decoded => ⟨fun written =>
      plain_of_frames (frames_gateMarket m) written trivial, fun plain => ?_⟩⟩, ?_⟩
  · obtain ⟨d, rfl⟩ := encodeGateBuy_given written
    exact ⟨d, decoded_of_frames (frames_buy d) written, rfl⟩
  · have one := (buy_canonical d decoded).mpr plain
    rw [(buy_canonical d decoded').mpr plain'] at one
    exact Option.some.inj one
  · exact Plain.written consumes_gateMarket plain decoded
  · intro ref chainId gate m expected pinned _ known separate
    refine ⟨fun met => ?_, fun same => same ▸ known⟩
    rw [statePayloadDigest_eq] at known met
    obtain ⟨x, spelled, hashed⟩ := Option.map_eq_some_iff.mp known
    obtain ⟨y, spelled', hashed'⟩ := Option.map_eq_some_iff.mp met
    obtain rfl := separate x y spelled spelled' (hashed.trans hashed'.symm)
    exact statePreimage_inj spelled' spelled

def sampleBuy : Bytes :=
  (encodeGateBuy ⟨⟨"evm", .account, "a"⟩, ⟨"evm", .market, "m"⟩, 7⟩).getD []

/-- A mark before the tag is read past: a second payload that denotes the buy. -/
theorem mark_unread : (decodeGateBuy sampleBuy).isSome = true ∧
    decodeGateBuy ([0, 28, 0xEF, 0xBB, 0xBF] ++ sampleBuy.drop 2) = decodeGateBuy sampleBuy ∧
    [0, 28, 0xEF, 0xBB, 0xBF] ++ sampleBuy.drop 2 ≠ sampleBuy := by
  decide +kernel

end Canonical

end Mandate.Evm
