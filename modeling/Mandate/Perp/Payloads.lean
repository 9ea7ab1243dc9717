import Mandate.Perp.Vocabulary
import Mandate.Lib.Unicode
import Mandate.Lib.Format

/-! The perp payloads: what is encoded decodes to itself, and what decodes was encoded so, but for a
text that begins with a mark, a text longer than is written, and a flag that is neither 0 nor 1. -/
set_option linter.dupNamespace false
namespace Mandate.Perp
open Core Ledger Lib.Wire Lib.Text List
open Writer (append_some)

section Readings
variable {α β : Type} {bytes : Bytes}

theorem decodeWith_some {read : CoreReader α} {v : α} : decodeWith bytes read = some v ↔
    ∃ stop, read.run ⟨0, bytes, false⟩ = .ok (v, stop) ∧ stop.rest = [] := by
  unfold decodeWith runReader
  rw [StateT.run_bind]
  cases read.run ⟨0, bytes, false⟩ with
  | error failed => simp [bind, Except.bind, fail, Except.toOption]
  | ok step =>
    obtain ⟨value, stop⟩ := step
    by_cases empty : stop.rest.isEmpty = true
    · simp [bind, Except.bind, StateT.run, StateT.bind, Reader.finish, Except.toOption, pure, Except.pure,
        List.isEmpty_iff.mp empty]
      exact Option.some_inj
    · simp [bind, Except.bind, StateT.run, StateT.bind, Reader.finish, empty, fail, Except.toOption]
      intro _ ended
      exact empty (List.isEmpty_iff.mpr ended)

theorem decodeWith_map {read : CoreReader α} (f : α → β) :
    decodeWith bytes (f <$> read) = (decodeWith bytes read).map f := by
  ext v
  rw [decodeWith_some, Option.map_eq_some_iff]
  simp only [decodeWith_some, StateT.run_map]
  cases read.run ⟨0, bytes, false⟩ with
  | error failed => simp [Functor.map, Except.map]
  | ok step =>
    simp only [Functor.map, Except.map, Except.ok.injEq, Prod.mk.injEq]
    constructor
    · rintro ⟨stop, ⟨rfl, rfl⟩, ended⟩
      exact ⟨step.1, ⟨step.2, rfl, ended⟩, rfl⟩
    · rintro ⟨_, ⟨_, rfl, ended⟩, rfl⟩
      exact ⟨_, ⟨rfl, rfl⟩, ended⟩

/-- Reading the bytes meets no text that begins with a mark, and sees only what is fine. -/
def Plain (read : CoreReader α) (fine : α → Prop) (bytes : Bytes) : Prop :=
  ∀ seen stop, read.run ⟨0, bytes, false⟩ = .ok (seen, stop) → stop.marked = false ∧ fine seen

variable {read : CoreReader α} {fine : α → Prop} {write : α → Writer} {seen : α}

theorem Plain.written (spells : Consumes read fun used seen => fine seen → write seen = some used)
    (plain : Plain read fine bytes) (decoded : decodeWith bytes read = some seen) : write seen = some bytes := by
  obtain ⟨stop, run, ended⟩ := decodeWith_some.mp decoded
  obtain ⟨clean, holds⟩ := plain seen stop run
  obtain ⟨_, used, split, _, spelled⟩ := spells _ _ _ run clean
  rw [ended, append_nil] at split
  change bytes = used at split
  rw [split]
  exact spelled holds

variable {writer : Writer} {size : Nat}

theorem run_of_frames (frames : Frames writer read seen size) (written : writer = some bytes) :
    read.run ⟨0, bytes, false⟩ = .ok (seen, ⟨bytes.length, [], false⟩) := by
  have run := (frames bytes written).2 0 []
  rwa [append_nil, Nat.zero_add] at run

theorem decoded_of_frames (frames : Frames writer read seen size)
    (written : writer = some bytes) : decodeWith bytes read = some seen :=
  decodeWith_some.mpr ⟨_, run_of_frames frames written, rfl⟩

theorem plain_of_frames (frames : Frames writer read seen size)
    (written : writer = some bytes) (holds : fine seen) : Plain read fine bytes := by
  intro other stop run
  rw [run_of_frames frames written] at run
  cases run
  exact ⟨rfl, holds⟩

theorem run_framed {k : α → CoreReader β} {offset : Nat} {first rest : Bytes} {result : β × Cursor}
    (frames : Frames writer read seen size) (written : writer = some first)
    (run : (read >>= k).run ⟨offset, first ++ rest, false⟩ = .ok result) :
    (k seen).run ⟨offset + first.length, rest, false⟩ = .ok result := by
  rw [StateT.run_bind, (frames first written).2] at run
  exact run

theorem run_written {more : Writer} {k : α → CoreReader β} {offset : Nat} {result : β × Cursor}
    (frames : Frames writer read seen size) (written : writer ++ more = some bytes)
    (run : (read >>= k).run ⟨offset, bytes, false⟩ = .ok result) :
    ∃ rest offset', more = some rest ∧ (k seen).run ⟨offset', rest, false⟩ = .ok result := by
  obtain ⟨first, rest, here, there, rfl⟩ := append_some.mp written
  exact ⟨rest, _, there, run_framed frames here run⟩

end Readings

section Fields

theorem frames_number {width : Nat} {read : CoreReader Nat} (is : read = Reader.uint .encodingMalformed width)
    (value : Int) : Frames (Writer.uint width value) (readInt read) value width := by
  subst is
  exact uint_frames_nonneg (Frames.uint _ width value)

theorem consumes_number {width : Nat} {read : CoreReader Nat} (is : read = Reader.uint .encodingMalformed width) :
    Consumes (readInt read) fun used value => Writer.uint width value = some used := by
  subst is
  refine (Consumes.uint _ width).map.mono ?_
  rintro _ _ ⟨small, rfl⟩
  exact Writer.uint_some.mpr ⟨by omega, by exact_mod_cast small, by rw [Int.toNat_natCast]⟩

theorem frames_exactly {text : String} (ascii : Ascii text) :
    Frames (writeStr text) (readExactly text) () (2 + text.length) :=
  (frames_str ascii).ofExcept (if_pos rfl)

theorem consumes_exactly {text : String} (ascii : Ascii text) (short : text.length ≤ 1024) :
    Consumes (readExactly text) fun used _ => writeStr text = some used := by
  refine consumes_str.checked.mono ?_
  rintro used _ ⟨found, same, spelled⟩
  split at same
  · rename_i is
    subst is
    exact spelled ascii short
  · cases same

theorem writeChecked_self {allowed : List ResourceKind} (r : ResourceOf allowed) (path : String) :
    writeChecked (resourceOfInputOf r) allowed path = writeResourceOf r := by
  rw [writeChecked, validateResourceId_self]

theorem must_self {allowed : List ResourceKind} (r : ResourceOf allowed) (path : String) :
    must (validateResourceId (resourceOfInputOf r) allowed path) = pure r := by
  rw [validateResourceId_self]
  rfl

theorem consumes_must {α : Type} (result : CoreResult α) :
    Consumes (must result) fun used value => used = [] ∧ result = .ok value := by
  refine (Consumes.ofExcept _).mono ?_
  rintro used value ⟨nothing, is⟩
  refine ⟨nothing, ?_⟩
  cases result with
  | error failed => cases is
  | ok found => exact congrArg Except.ok (Except.ok.inj is)

theorem consumes_resource (allowed : List ResourceKind) : Consumes readResourceIdInput fun used input =>
    ∀ (path : String) (r : ResourceOf allowed), validateResourceId input allowed path = .ok r →
      writeResourceOf r = some used :=
  spells_resourceId allowed

end Fields

section Actions

def DecodedOrder.given (o : DecodedOrder) : PerpOrder :=
  ⟨resourceOfInputOf o.account, resourceOfInputOf o.market, o.side, o.baseAmount, o.price, o.execution, o.reduceOnly,
    o.orderExpiryMs⟩

def DecodedCancel.given (c : DecodedCancel) : PerpCancel :=
  ⟨resourceOfInputOf c.account, resourceOfInputOf c.market, c.target⟩

def encodeAction : DecodedAction → Writer
  | .order o => encodeOrder o.given
  | .cancel c => encodeCancel c.given

theorem ascii_create : Ascii "lighter-perp/v1/create-order" := ascii_of_all (by decide)

theorem ascii_cancel : Ascii "lighter-perp/v1/cancel-order" := ascii_of_all (by decide)

theorem frames_order (o : DecodedOrder) :
    Frames (writeU8 (if o.side = .buy then 1 else 2) ++ (writeU64 o.baseAmount ++ (writeU64 o.price ++
      (writeU8 (EXECUTIONS.idxOf o.execution + 1) ++ (writeU8 (if o.reduceOnly then 1 else 0) ++ writeU64 o.orderExpiryMs)))))
      (readOrder o.account o.market) (.order o) 27 := by
  refine ((frames_u8 _).bind ((frames_u64_int _).bind ((frames_u64_int _).bind ((frames_u8 _).bind ((frames_u8 _).bind
    ((frames_u64_int _).check ?_)))))).mono (by norm_num)
  obtain ⟨account, market, side, baseAmount, price, execution, reduceOnly, orderExpiryMs⟩ := o
  cases side <;> cases execution <;> cases reduceOnly <;> exact Reads.pure _

theorem frames_action (a : DecodedAction) : Frames (encodeAction a) readAction a 700 := by
  cases a with
  | order o =>
    rw [encodeAction, encodeOrder, DecodedOrder.given]
    dsimp only
    rw [writeChecked_self, writeChecked_self]
    refine ((frames_str ascii_create).bind ((frames_resourceOf _).bind ((frames_resourceOf _).bind ?_))).mono
      (by decide : 30 + (261 + (261 + 27)) ≤ 700)
    rw [must_self, must_self, pure_bind, pure_bind,
      if_neg (show ¬"lighter-perp/v1/create-order" = "lighter-perp/v1/cancel-order" by decide), if_neg (not_not.mpr rfl)]
    exact frames_order o
  | cancel c =>
    rw [encodeAction, encodeCancel, DecodedCancel.given]
    dsimp only
    rw [writeChecked_self, writeChecked_self]
    refine ((frames_str ascii_cancel).bind ((frames_resourceOf _).bind ((frames_resourceOf _).bind ?_))).mono
      (by decide : 30 + (261 + (261 + 32)) ≤ 700)
    rw [must_self, must_self, pure_bind, pure_bind, if_pos rfl]
    exact ((frames_digest c.target).ofExcept (by rw [parseDigest_toHex]; rfl)).last

theorem execution_code {code : Nat} {e : Execution}
    (found : (if code = 0 then none else EXECUTIONS[code - 1]?) = some e) : code = EXECUTIONS.idxOf e + 1 := by
  match code with
  | 0 => cases found
  | 1 | 2 | 3 | 4 =>
    cases found
    rfl
  | n + 5 => simp [EXECUTIONS] at found

theorem consumes_order (account : AccountId) (market : MarketId) : Consumes (readOrder account market)
    fun used a => ∃ o, a = .order o ∧ o.account = account ∧ o.market = market ∧
      writeU8 (if o.side = .buy then 1 else 2) ++ (writeU64 o.baseAmount ++ (writeU64 o.price ++
        (writeU8 (EXECUTIONS.idxOf o.execution + 1) ++ (writeU8 (if o.reduceOnly then 1 else 0) ++
          writeU64 o.orderExpiryMs)))) = some used := by
  refine (consumes_u8.bind fun side => (consumes_number rfl).bind fun baseAmount => (consumes_number rfl).bind fun price =>
    consumes_u8.bind fun execution => consumes_u8.bind fun reduceOnly => (consumes_number rfl).bind fun expiry =>
      (?_ : Consumes _ fun used a => used = [] ∧ ∃ o, a = .order o ∧ o.account = account ∧ o.market = market ∧
        side = (if o.side = .buy then 1 else 2) ∧ o.baseAmount = baseAmount ∧ o.price = price ∧
        execution = EXECUTIONS.idxOf o.execution + 1 ∧ reduceOnly = (if o.reduceOnly then 1 else 0) ∧
        o.orderExpiryMs = expiry)).mono ?_
  · split
    · exact (Consumes.fail _).mono fun _ _ impossible => impossible.elim
    · rename_i e found
      split
      · exact (Consumes.fail _).mono fun _ _ impossible => impossible.elim
      · rename_i known
        refine (Consumes.pure _).mono ?_
        rintro used a ⟨nothing, rfl⟩
        refine ⟨nothing, _, rfl, rfl, rfl, ?_, rfl, rfl, execution_code found, ?_, rfl⟩
        · dsimp only
          split <;> simp <;> omega
        · simp only [decide_eq_true_eq]
          split <;> omega
  · rintro _ _ ⟨first, second, third, fourth, fifth, sixth, rfl, o, rfl, account_is, market_is, rfl, rfl, rfl, rfl, rfl, rfl⟩
    rw [append_nil]
    exact ⟨o, rfl, account_is, market_is, written_append first (written_append second (written_append third
      (written_append fourth (written_append fifth sixth))))⟩

theorem consumes_target : Consumes (readDigestAs parseDigest "target") fun used target =>
    writeDigest target = some used := by
  refine (spells_digest.bind fun text => consumes_must (parseDigest text "target")).mono ?_
  rintro _ target ⟨spelled, rfl, valid⟩
  rw [append_nil]
  exact spelled _ target valid

theorem consumes_action : Consumes readAction fun used a => encodeAction a = some used := by
  have rest : ∀ (tag : String) (account : AccountId) (market : MarketId), Consumes
      (if tag = "lighter-perp/v1/cancel-order" then do
        let target ← readDigestAs parseDigest "target"
        pure (.cancel ⟨account, market, target⟩)
      else if tag ≠ "lighter-perp/v1/create-order" then Reader.fail .encodingMalformed
      else readOrder account market : CoreReader DecodedAction) fun used a => ∀ before account_bytes market_bytes,
        (Ascii tag → tag.length ≤ 1024 → writeStr tag = some before) → writeResourceOf account = some account_bytes →
        writeResourceOf market = some market_bytes →
        encodeAction a = some (before ++ (account_bytes ++ (market_bytes ++ used))) := by
    intro tag account market
    split
    · rename_i is
      refine consumes_target.last.mono ?_
      · rintro used _ ⟨written⟩ before account_bytes market_bytes tagged first second
        rw [encodeAction, encodeCancel, DecodedCancel.given]
        dsimp only
        rw [writeChecked_self, writeChecked_self]
        exact written_append (is ▸ tagged (is ▸ ascii_cancel) (by rw [is]; decide)) (written_append first
          (written_append second written))
    · split
      · exact (Consumes.fail _).mono fun _ _ impossible => impossible.elim
      · rename_i other is
        refine (consumes_order account market).mono ?_
        rintro used _ ⟨o, rfl, rfl, rfl, written⟩ before account_bytes market_bytes tagged first second
        rw [encodeAction, encodeOrder, DecodedOrder.given]
        dsimp only
        rw [writeChecked_self, writeChecked_self]
        have is := not_not.mp is
        exact written_append (is ▸ tagged (is ▸ ascii_create) (by rw [is]; decide)) (written_append first
          (written_append second written))
  refine (consumes_str.bind fun tag => (consumes_resource [.account]).bind fun a => (consumes_resource [.market]).bind fun m =>
    (consumes_must (validateResourceId a [.account] "account")).bind fun account =>
      (consumes_must (validateResourceId m [.market] "market")).bind fun market => rest tag account market).mono ?_
  rintro _ a ⟨tagged, first, second, ⟨rfl, account_is⟩, ⟨rfl, market_is⟩, spelled⟩
  exact spelled _ _ _ tagged (first _ _ account_is) (second _ _ market_is)

theorem action_canonical {bytes : Bytes} (a : DecodedAction) :
    (encodeAction a = some bytes → decodeAction bytes = some a) ∧
      (decodeAction bytes = some a → (encodeAction a = some bytes ↔ Plain readAction (fun _ => True) bytes)) := by
  refine ⟨fun written => decoded_of_frames (frames_action a) written, fun decoded => ⟨fun written => ?_, fun plain => ?_⟩⟩
  · exact plain_of_frames (frames_action a) written trivial
  · exact plain.written (consumes_action.mono fun _ _ written _ => written) decoded

end Actions

section Prices

def AssetPrice.given (p : AssetPrice CanonicalAssetRef) : AssetPrice ResourceIdInput :=
  ⟨resourceOfInputOf p.asset, p.price⟩

theorem ascii_price : Ascii "lighter-perp/v1/asset-price" := ascii_of_all (by decide)

private theorem frames_price {p : AssetPrice CanonicalAssetRef} (priced : p.price ≠ 0) :
    Frames (encodeAssetPrice p.given) readAssetPrice p 298 := by
  rw [encodeAssetPrice, AssetPrice.given]
  dsimp only
  rw [writeChecked_self]
  refine ((frames_exactly ascii_price).bind ((frames_resourceOf _).bind ((frames_u64_int _).check ?_))).mono (by decide)
  rw [must_self, pure_bind, if_neg priced]
  exact Reads.pure p

theorem consumes_price : Consumes readAssetPrice fun used p => True → encodeAssetPrice p.given = some used := by
  refine ((consumes_exactly ascii_price (by decide)).bind fun _ => (consumes_resource [.canonicalAsset]).bind fun input =>
    (consumes_number rfl).bind fun price => (consumes_must (validateResourceId input [.canonicalAsset] "asset")).bind
      fun asset => Consumes.ofExcept _).mono ?_
  rintro _ p ⟨tagged, first, second, ⟨rfl, valid⟩, rfl, made⟩
  split at made
  · cases made
  · obtain rfl := Except.ok.inj made
    intro _
    rw [encodeAssetPrice, AssetPrice.given]
    dsimp only
    rw [writeChecked_self, nil_append, append_nil]
    exact written_append tagged (written_append (first _ _ valid) second)

theorem price_read {start stop : Cursor} {p : AssetPrice CanonicalAssetRef}
    (run : readAssetPrice.run start = .ok (p, stop)) : p.price ≠ 0 := by
  obtain ⟨_, _, _, run⟩ := Reader.bind_ok run
  obtain ⟨input, _, _, run⟩ := Reader.bind_ok run
  obtain ⟨price, _, _, run⟩ := Reader.bind_ok run
  obtain ⟨asset, _, _, run⟩ := Reader.bind_ok run
  by_cases free : price = 0
  · rw [if_pos free] at run
    cases run
  · rw [if_neg free] at run
    cases run
    exact free

theorem price_canonical {bytes : Bytes} (p : AssetPrice CanonicalAssetRef) :
    (p.price ≠ 0 → encodeAssetPrice p.given = some bytes → decodeAssetPrice bytes = some p) ∧
      (decodeAssetPrice bytes = some p →
        (encodeAssetPrice p.given = some bytes ↔ Plain readAssetPrice (fun _ => True) bytes)) := by
  refine ⟨fun priced written => decoded_of_frames (frames_price priced) written,
    fun decoded => ⟨fun written => ?_, fun plain =>
      @Plain.written _ _ readAssetPrice (fun _ => True) (fun p => encodeAssetPrice p.given) p consumes_price plain decoded⟩⟩
  obtain ⟨_, run, _⟩ := decodeWith_some.mp decoded
  exact plain_of_frames (frames_price (price_read run)) written trivial

end Prices

section Texts

def readSized : CoreReader (Nat × String) := do
  let length ← readU16
  let text ← readChars length
  pure (length, text)

theorem readStr_sized : readStr = Prod.snd <$> readSized := by
  simp only [readStr, readSized, map_bind, map_pure, bind_pure]

variable {text : String}

theorem frames_sized (unmarked : hasMark (encodeText text) = false) :
    Frames (writeStr text) readSized ((encodeText text).length, text) 1026 := by
  have noted : Reads (Reader.note (hasMark (encodeText text)) : CoreReader Unit) [] () := by
    rw [unmarked]
    exact Reads.note
  have decoded : Reads (Reader.ofExcept (decodeStr (encodeText text)) : CoreReader String) [] text := by
    rw [decodeStr, decodeText_of_unmarked unmarked]
    exact Reads.pure text
  have chars : Frames (Writer.raw (encodeText text)) (readChars (encodeText text).length) text (encodeText text).length :=
    (Frames.raw _ (encodeText text)).check (noted.bind (k := fun _ => Reader.ofExcept (decodeStr (encodeText text))) decoded)
  intro bytes written
  rw [writeStr] at written
  split at written
  · cases written
  · rename_i short
    have framed := ((frames_u16 (encodeText text).length).bind (k := fun length => do
      let found ← readChars length
      pure (length, found)) chars.last) bytes written
    exact ⟨by omega, framed.2⟩

theorem consumes_sized : Consumes readSized fun used seen => seen.1 ≤ 1024 → writeStr seen.2 = some used := by
  refine (consumes_u16.bind fun length => (consumes_chars length).last).mono ?_
  rintro _ _ @⟨_, _, _, after, announced, @⟨text, _, taken, unmarked, decoded⟩⟩ short
  have spelled : encodeText text = after := by
    rw [encodeText_of_decodeText decoded, stripMark_of_unmarked unmarked]
  dsimp only at short ⊢
  rw [writeStr, spelled, if_neg (by omega), taken]
  exact written_append announced rfl

theorem sized_written {first rest : Bytes} {offset : Nat} {seen : Nat × String} {stop : Cursor}
    (written : writeStr text = some first) (run : readSized.run ⟨offset, first ++ rest, false⟩ = .ok (seen, stop)) :
    decodeText (encodeText text) = some seen.2 := by
  rw [writeStr] at written
  split at written
  · cases written
  · obtain ⟨header, chars, announced, is, rfl⟩ := append_some.mp written
    obtain rfl := Option.some.inj is
    rw [List.append_assoc] at run
    have run := run_framed (frames_u16 (encodeText text).length) announced run
    obtain ⟨found, _, run, last⟩ := Reader.bind_ok run
    cases last
    obtain ⟨bytes, _, taken, run⟩ := Reader.bind_ok run
    have raw := (Frames.raw CoreErrorCode.encodingMalformed (encodeText text) _ rfl).2 (offset + header.length) rest
    rw [raw] at taken
    cases taken
    obtain ⟨_, _, _, run⟩ := Reader.bind_ok run
    unfold decodeStr at run
    cases found_is : decodeText (encodeText text) with
    | none =>
      rw [found_is] at run
      cases run
    | some found' =>
      rw [found_is] at run
      cases run
      rfl

theorem unmarked_of_self (self : decodeText (encodeText text) = some text) :
    hasMark (encodeText text) = false := by
  have same := encodeText_of_decodeText self
  cases marked : hasMark (encodeText text) with
  | false => rfl
  | true =>
    generalize encodeText text = bytes at same marked
    unfold hasMark at marked
    split at marked
    · rename_i rest
      have lengths := congrArg List.length same
      simp [stripMark] at lengths
      omega
    · cases marked

end Texts

section Markets

/-- A market as its payload has it, with the lengths announced for its two texts. -/
def readMarketSeen : CoreReader (List Nat × MarketStatic) := do
  readExactly "lighter-perp/v1/market"
  let chainId ← readInt readU32
  let marketIndex ← readInt readU16
  let symbol ← readSized
  readExactly "perp"
  let sizeDecimals ← readInt readU8
  let priceDecimals ← readInt readU8
  let minBaseAmount ← readInt readU64
  let minQuoteAmount ← readInt readU64
  let minInitialMarginFraction ← readInt readU16
  let defaultInitialMarginFraction ← readInt readU16
  let maintenanceMarginFraction ← readInt readU16
  let closeoutMarginFraction ← readInt readU16
  let multiplier ← readSized
  pure ([symbol.1, multiplier.1],
    ⟨chainId, marketIndex, symbol.2, sizeDecimals, priceDecimals, minBaseAmount, minQuoteAmount, minInitialMarginFraction,
      defaultInitialMarginFraction, maintenanceMarginFraction, closeoutMarginFraction, multiplier.2⟩)

theorem readMarket_seen : readMarketStatic = Prod.snd <$> readMarketSeen := by
  simp only [readMarketStatic, readMarketSeen, readStr_sized, map_bind, map_pure, bind_map_left]

theorem ascii_market : Ascii "lighter-perp/v1/market" := ascii_of_all (by decide)

theorem ascii_perp : Ascii "perp" := ascii_of_all (by decide)

def MarketStatic.Unmarked (m : MarketStatic) : Prop :=
  hasMark (encodeText m.symbol) = false ∧ hasMark (encodeText m.multiplier) = false

def MarketStatic.lengths (m : MarketStatic) : List Nat := [(encodeText m.symbol).length, (encodeText m.multiplier).length]

variable {m : MarketStatic}

private theorem frames_market (unmarked : m.Unmarked) :
    Frames (encodeMarketStatic m) readMarketSeen (m.lengths, m) 2200 := by
  refine ((frames_exactly ascii_market).bind ((frames_u32_int _).bind ((frames_number rfl _).bind
    ((frames_sized unmarked.1).bind ((frames_exactly ascii_perp).bind ((frames_number rfl _).bind ((frames_number rfl _).bind
    ((frames_u64_int _).bind ((frames_u64_int _).bind ((frames_number rfl _).bind ((frames_number rfl _).bind
    ((frames_number rfl _).bind ((frames_number rfl _).bind (frames_sized unmarked.2).last))))))))))))).mono ?_
  decide

theorem consumes_market : Consumes readMarketSeen fun used seen =>
    (∀ n ∈ seen.1, n ≤ 1024) → encodeMarketStatic seen.2 = some used := by
  refine ((consumes_exactly ascii_market (by decide)).bind fun _ => consumes_u32_int.bind fun _ =>
    (consumes_number rfl).bind fun _ => consumes_sized.bind fun _ => (consumes_exactly ascii_perp (by decide)).bind fun _ =>
    (consumes_number rfl).bind fun _ => (consumes_number rfl).bind fun _ => (consumes_number rfl).bind fun _ =>
    (consumes_number rfl).bind fun _ => (consumes_number rfl).bind fun _ => (consumes_number rfl).bind fun _ =>
    (consumes_number rfl).bind fun _ => (consumes_number rfl).bind fun _ => consumes_sized.last).mono ?_
  rintro _ _ ⟨tagged, chain, index, symbol, perp,
    size, price, base, quote, first, second, third, fourth, ⟨multiplier⟩⟩ short
  exact written_append tagged (written_append chain (written_append index (written_append (symbol (short _ (by simp)))
    (written_append perp (written_append size (written_append price (written_append base (written_append quote
    (written_append first (written_append second (written_append third (written_append fourth
      (multiplier (short _ (by simp)))))))))))))))

variable {bytes : Bytes}

theorem unmarked_of_read {lengths : List Nat} {stop : Cursor} (written : encodeMarketStatic m = some bytes)
    (run : readMarketSeen.run ⟨0, bytes, false⟩ = .ok ((lengths, m), stop)) : m.Unmarked := by
  obtain ⟨_, _, rest, run⟩ := run_written (frames_exactly ascii_market) written run
  obtain ⟨_, _, rest, run⟩ := run_written (frames_u32_int _) rest run
  obtain ⟨_, _, rest, run⟩ := run_written (frames_number rfl _) rest run
  have first : hasMark (encodeText m.symbol) = false := by
    obtain ⟨seen, _, here, run⟩ := Reader.bind_ok run
    obtain ⟨_, _, symbol, _, is⟩ := append_some.mp rest
    rw [is] at here
    have read := sized_written symbol here
    iterate 10 obtain ⟨_, _, _, run⟩ := Reader.bind_ok run
    have made : seen.2 = m.symbol :=
      congrArg (fun result : (List Nat × MarketStatic) × Cursor => result.1.2.symbol) (Except.ok.inj run)
    rw [made] at read
    exact unmarked_of_self read
  refine ⟨first, ?_⟩
  obtain ⟨_, _, rest, run⟩ := run_written (frames_sized first) rest run
  obtain ⟨_, _, rest, run⟩ := run_written (frames_exactly ascii_perp) rest run
  obtain ⟨_, _, rest, run⟩ := run_written (frames_number rfl _) rest run
  obtain ⟨_, _, rest, run⟩ := run_written (frames_number rfl _) rest run
  obtain ⟨_, _, rest, run⟩ := run_written (frames_u64_int _) rest run
  obtain ⟨_, _, rest, run⟩ := run_written (frames_u64_int _) rest run
  iterate 3 obtain ⟨_, _, rest, run⟩ := run_written (frames_number rfl _) rest run
  obtain ⟨last, _, rest, run⟩ := run_written (frames_number rfl _) rest run
  obtain ⟨seen, _, here, run⟩ := Reader.bind_ok run
  rw [← append_nil last] at here
  have read := sized_written rest here
  have made : seen.2 = m.multiplier :=
    congrArg (fun result : (List Nat × MarketStatic) × Cursor => result.1.2.multiplier) (Except.ok.inj run)
  rw [made] at read
  exact unmarked_of_self read

theorem short_of_written {text : String} (written : writeStr text = some bytes) :
    (encodeText text).length ≤ 1024 := by
  rw [writeStr] at written
  split at written
  · cases written
  · omega

theorem lengths_of_written (written : encodeMarketStatic m = some bytes) : ∀ n ∈ m.lengths, n ≤ 1024 := by
  obtain ⟨_, _, _, rest, _⟩ := append_some.mp written
  obtain ⟨_, _, _, rest, _⟩ := append_some.mp rest
  obtain ⟨_, _, _, rest, _⟩ := append_some.mp rest
  obtain ⟨_, _, symbol, rest, _⟩ := append_some.mp rest
  iterate 8 obtain ⟨_, _, _, rest, _⟩ := append_some.mp rest
  obtain ⟨_, _, _, multiplier, _⟩ := append_some.mp rest
  intro n listed
  simp only [MarketStatic.lengths, mem_cons, mem_nil_iff, or_false] at listed
  rcases listed with rfl | rfl
  · exact short_of_written symbol
  · exact short_of_written multiplier

/-- A market's payload decodes to it when neither text begins with a mark, and what decodes was encoded
so when no text it read begins with one or is longer than is written. -/
theorem market_canonical (m : MarketStatic) :
    (encodeMarketStatic m = some bytes → (decodeMarketStatic bytes = some m ↔ m.Unmarked)) ∧
      (decodeMarketStatic bytes = some m →
        (encodeMarketStatic m = some bytes ↔ Plain readMarketSeen (fun seen => ∀ n ∈ seen.1, n ≤ 1024) bytes)) := by
  have seen : decodeMarketStatic bytes = some m → ∃ lengths, decodeWith bytes readMarketSeen = some (lengths, m) := by
    intro decoded
    rw [decodeMarketStatic, readMarket_seen, decodeWith_map] at decoded
    obtain ⟨⟨lengths, _⟩, found, rfl⟩ := Option.map_eq_some_iff.mp decoded
    exact ⟨lengths, found⟩
  have unmarked : encodeMarketStatic m = some bytes → decodeMarketStatic bytes = some m → m.Unmarked := by
    intro written decoded
    obtain ⟨lengths, found⟩ := seen decoded
    obtain ⟨_, run, _⟩ := decodeWith_some.mp found
    exact unmarked_of_read written run
  refine ⟨fun written => ⟨unmarked written, fun plain => ?_⟩, fun decoded => ⟨fun written => ?_, fun plain => ?_⟩⟩
  · rw [decodeMarketStatic, readMarket_seen, decodeWith_map, decoded_of_frames (frames_market plain) written]
    rfl
  · exact plain_of_frames (frames_market (unmarked written decoded)) written (lengths_of_written written)
  · obtain ⟨lengths, found⟩ := seen decoded
    exact @Plain.written _ _ readMarketSeen (fun seen => ∀ n ∈ seen.1, n ≤ 1024) (fun seen => encodeMarketStatic seen.2)
      (lengths, m) consumes_market plain found

end Markets

section Accounts

def AccountBook.given (b : AccountBook AccountId) : AccountBook ResourceIdInput :=
  ⟨resourceOfInputOf b.account, b.collateral, b.availableBalance, b.positions, b.openOrders⟩

def readOrderSeen : CoreReader (List Nat × OpenOrderEntry) := do
  let marketIndex ← readInt readU16
  let clientOrderIndex ← readInt readU64
  let isAsk ← readU8
  let remainingBaseAmount ← readInt readU64
  let price ← readInt readU64
  let reduceOnly ← readU8
  pure ([isAsk, reduceOnly], ⟨marketIndex, clientOrderIndex, isAsk = 1, remainingBaseAmount, price, reduceOnly = 1⟩)

def readBookSeen : CoreReader (List (List Nat) × AccountBook AccountId) := do
  readExactly "lighter-perp/v1/account"
  let account ← readResourceIdInput
  let account ← must (validateResourceId account [.account] "account")
  let collateral ← readInt readU64
  let availableBalance ← readInt readU64
  let positions ← readEntries readPosition
  let openOrders ← readEntries readOrderSeen
  pure (openOrders.map Prod.fst, ⟨account, collateral, availableBalance, positions, openOrders.map Prod.snd⟩)

theorem items_map {α β : Type} (f : α → β) (read : CoreReader α) (count : Nat) (previous : Option Bytes) :
    Reader.items (fun _ _ => true) .encodingMalformed (f <$> read) count previous =
      List.map f <$> Reader.items (fun _ _ => true) CoreErrorCode.encodingMalformed read count previous := by
  induction count generalizing previous with
  | zero => rfl
  | succ count ih =>
    funext start
    change Reader.items _ _ _ (count + 1) previous start =
      Functor.map (fun step => (step.1.map f, step.2)) (Reader.items _ _ read (count + 1) previous start)
    simp only [Reader.items, ih, StateT.run_map, bind_map_left, map_bind]
    cases read.run start with
    | error failed => rfl
    | ok step =>
      obtain ⟨item, stop⟩ := step
      simp only [bind, Except.bind]
      split
      · cases (Reader.items (fun _ _ => true) CoreErrorCode.encodingMalformed read count _).run stop with
        | error failed => rfl
        | ok rest => rfl
      · rfl

theorem readBook_seen : readAccountBook = Prod.snd <$> readBookSeen := by
  have order : readOpenOrder = Prod.snd <$> readOrderSeen := by
    simp only [readOpenOrder, readOrderSeen, map_bind, map_pure]
  have orders : readEntries readOpenOrder = List.map Prod.snd <$> readEntries readOrderSeen := by
    simp only [readEntries, order, items_map, map_bind]
  simp only [readAccountBook, readBookSeen, orders, map_bind, map_pure, bind_map_left]

theorem ascii_account : Ascii "lighter-perp/v1/account" := ascii_of_all (by decide)

theorem frames_position (p : PositionEntry) : Frames (writePosition p) readPosition p 21 := by
  have mode : (Reader.ofExcept (if 1 < (if p.marginMode = .isolated then 1 else 0) then .error .encodingMalformed
      else .ok (if (if p.marginMode = .isolated then 1 else 0) = 1 then MarginMode.isolated else .cross)) :
        CoreReader MarginMode) = pure p.marginMode := by
    cases p.marginMode <;> rfl
  refine ((frames_number rfl _).bind ((frames_i64 _).bind ((frames_u8 _).bind ?_))).mono
    (by decide : 2 + (8 + (1 + (2 + 8))) ≤ 21)
  rw [mode, pure_bind]
  exact (frames_number rfl _).bind (frames_u64_int _).last

theorem consumes_position : Consumes readPosition fun used p => writePosition p = some used := by
  refine ((consumes_number rfl).bind fun _ => consumes_i64.bind fun _ => consumes_u8.bind fun mode =>
    (Consumes.ofExcept _).bind fun _ => (consumes_number rfl).bind fun _ => (consumes_number rfl).last).mono ?_
  rintro _ _ ⟨index, size, @⟨mode, _, _, _, byte, @⟨margin, _, _, _, ⟨rfl, made⟩, ⟨fraction, ⟨allocated⟩⟩⟩⟩⟩
  have is : mode = if margin = .isolated then 1 else 0 := by
    split at made
    · cases made
    · obtain rfl := Except.ok.inj made
      by_cases isolated : mode = 1
      · rw [if_pos isolated, if_pos rfl, isolated]
      · rw [if_neg isolated, if_neg nofun]
        omega
  rw [is] at byte
  rw [nil_append]
  exact written_append index (written_append size (written_append byte (written_append fraction allocated)))

def OpenOrderEntry.flags (o : OpenOrderEntry) : List Nat := [if o.isAsk then 1 else 0, if o.reduceOnly then 1 else 0]

theorem frames_openOrder (o : OpenOrderEntry) : Frames (writeOpenOrder o) readOrderSeen (o.flags, o) 28 := by
  refine ((frames_number rfl _).bind ((frames_u64_int _).bind ((frames_u8 _).bind ((frames_u64_int _).bind
    ((frames_u64_int _).bind ((frames_u8 _).check ?_)))))).mono (by decide : 2 + (8 + (1 + (8 + (8 + 1)))) ≤ 28)
  obtain ⟨_, _, isAsk, _, _, reduceOnly⟩ := o
  cases isAsk <;> cases reduceOnly <;> exact Reads.pure _

theorem flag_of_byte {flag : Nat} (known : flag ≤ 1) : flag = if decide (flag = 1) then 1 else 0 := by
  by_cases set : flag = 1
  · rw [set]
    rfl
  · rw [decide_eq_false set]
    simp
    omega

theorem consumes_openOrder : Consumes readOrderSeen fun used seen =>
    (∀ f ∈ seen.1, f ≤ 1) → writeOpenOrder seen.2 = some used := by
  refine ((consumes_number rfl).bind fun _ => (consumes_number rfl).bind fun _ => consumes_u8.bind fun _ =>
    (consumes_number rfl).bind fun _ => (consumes_number rfl).bind fun _ => consumes_u8.last).mono ?_
  rintro _ _ ⟨index, client, @⟨isAsk, _, _, _, ask, ⟨remaining, price, @⟨reduceOnly, _, reduce⟩⟩⟩⟩ known
  rw [flag_of_byte (known isAsk (by simp))] at ask
  rw [flag_of_byte (known reduceOnly (by simp))] at reduce
  exact written_append index (written_append client (written_append ask (written_append remaining (written_append price
    reduce))))

theorem frames_entries {α β : Type} {write : α → Writer} {read : CoreReader β} {value : α → β} {size : Nat}
    (each : ∀ item, Frames (write item) read (value item) size) (items : List α) :
    Frames (writeList write items) (readEntries read) (items.map value) (2 + (items.map fun _ => size).sum) := by
  refine (frames_u16 items.length).bind ?_
  refine Frames.items (fun _ => size) items (fun item _ => each item) ?_ none (by simp)
  exact pairwise_of_forall (fun _ _ _ _ _ _ => rfl)

theorem consumes_entries {α : Type} {read : CoreReader α} {p : Spelling α} (consumes : Consumes read p) :
    Consumes (readEntries read) fun used items => ∃ header after, used = header ++ after ∧
      writeU16 items.length = some header ∧ Listed (fun _ _ => true) p none after items := by
  refine (consumes_u16.bind fun count => consumes.items count none).mono ?_
  rintro _ items @⟨_, _, header, after, written, rfl, listed⟩
  exact ⟨header, after, rfl, written, listed⟩

theorem frames_book (b : AccountBook AccountId) :
    Frames (encodeAccountBook b.given) readBookSeen (b.openOrders.map OpenOrderEntry.flags, b)
      (1026 + (1000 + (8 + (8 + ((2 + (b.positions.map fun _ => 21).sum) + (2 + (b.openOrders.map fun _ => 28).sum)))))) := by
  rw [encodeAccountBook, AccountBook.given]
  dsimp only
  rw [writeChecked_self]
  refine ((frames_exactly ascii_account).mono (by decide)).bind (((frames_resourceOf _).mono (by decide)).bind ?_)
  rw [must_self, pure_bind]
  refine (frames_u64_int _).bind ((frames_u64_int _).bind ((?_ : Frames _ _ b.positions _).bind
    ((frames_entries frames_openOrder b.openOrders).check ?_)))
  · have framed := frames_entries frames_position b.positions
    rwa [map_id'] at framed
  · simp only [map_map]
    have seen : b.openOrders.map (Prod.fst ∘ fun o => (o.flags, o)) = b.openOrders.map OpenOrderEntry.flags := rfl
    have same : b.openOrders.map (Prod.snd ∘ fun o => (o.flags, o)) = b.openOrders := map_id _
    rw [seen, same]
    exact Reads.pure _

theorem consumes_book : Consumes readBookSeen fun used seen =>
    (∀ flags ∈ seen.1, ∀ f ∈ flags, f ≤ 1) → encodeAccountBook seen.2.given = some used := by
  refine ((consumes_exactly ascii_account (by decide)).bind fun _ => (consumes_resource [.account]).bind fun input =>
    (consumes_must (validateResourceId input [.account] "account")).bind fun _ => (consumes_number rfl).bind fun _ =>
      (consumes_number rfl).bind fun _ => (consumes_entries consumes_position).bind fun _ =>
        (consumes_entries consumes_openOrder).last).mono ?_
  rintro _ _ ⟨tagged, first, ⟨rfl, valid⟩, collateral, available, ⟨_, _, rfl, count, listed⟩,
    ⟨_, _, rfl, count', listed'⟩⟩ known
  rw [encodeAccountBook, AccountBook.given]
  dsimp only
  rw [writeChecked_self, nil_append]
  refine written_append tagged (written_append (first _ _ valid) (written_append collateral (written_append available
    (written_append (written_append count ?_) (written_append ?_ ?_)))))
  · exact @Listed.written _ _ _ _ _ Eq (fun _ _ _ spelled is => is ▸ spelled) _ _ _ listed _ (forall₂_same.mpr fun _ _ => rfl)
  · rwa [length_map]
  · refine @Listed.written _ _ _ _ _ (fun seen o => (∀ f ∈ seen.1, f ≤ 1) ∧ o = seen.2)
      (fun _ _ _ spelled is => is.2 ▸ spelled is.1) _ _ _ listed' _ ?_
    rw [forall₂_map_right_iff, forall₂_same]
    exact fun seen listed => ⟨known _ (mem_map_of_mem listed), rfl⟩

theorem account_canonical {bytes : Bytes} (b : AccountBook AccountId) :
    (encodeAccountBook b.given = some bytes → decodeAccountBook bytes = some b) ∧
      (decodeAccountBook bytes = some b → (encodeAccountBook b.given = some bytes ↔
        Plain readBookSeen (fun seen => ∀ flags ∈ seen.1, ∀ f ∈ flags, f ≤ 1) bytes)) := by
  refine ⟨fun written => ?_, fun decoded => ⟨fun written => ?_, fun plain => ?_⟩⟩
  · rw [decodeAccountBook, readBook_seen, decodeWith_map, decoded_of_frames (frames_book b) written]
    rfl
  · refine plain_of_frames (frames_book b) written fun flags listed f member => ?_
    obtain ⟨o, _, rfl⟩ := mem_map.mp listed
    simp only [OpenOrderEntry.flags, mem_cons, mem_nil_iff, or_false] at member
    rcases member with rfl | rfl <;> split <;> omega
  · rw [decodeAccountBook, readBook_seen, decodeWith_map] at decoded
    obtain ⟨⟨flags, _⟩, found, rfl⟩ := Option.map_eq_some_iff.mp decoded
    exact @Plain.written _ _ readBookSeen (fun seen => ∀ flags ∈ seen.1, ∀ f ∈ flags, f ≤ 1)
      (fun seen => encodeAccountBook seen.2.given) _ consumes_book plain found

end Accounts

section Canonical

/-- For every byte string and each of the four payloads: a value it encodes is what it decodes to, and a value
it decodes to is what it encodes, in exactly these cases. -/
theorem payloads_canonical (bytes : Bytes) :
    (∀ a, (encodeAction a = some bytes → decodeAction bytes = some a) ∧ (decodeAction bytes = some a →
        (encodeAction a = some bytes ↔ Plain readAction (fun _ => True) bytes))) ∧
      (∀ p : AssetPrice CanonicalAssetRef, (encodeAssetPrice p.given = some bytes →
          (decodeAssetPrice bytes = some p ↔ p.price ≠ 0)) ∧ (decodeAssetPrice bytes = some p →
        (encodeAssetPrice p.given = some bytes ↔ Plain readAssetPrice (fun _ => True) bytes))) ∧
      (∀ m, (encodeMarketStatic m = some bytes → (decodeMarketStatic bytes = some m ↔ m.Unmarked)) ∧
        (decodeMarketStatic bytes = some m →
          (encodeMarketStatic m = some bytes ↔ Plain readMarketSeen (fun seen => ∀ n ∈ seen.1, n ≤ 1024) bytes))) ∧
      ∀ b : AccountBook AccountId, (encodeAccountBook b.given = some bytes → decodeAccountBook bytes = some b) ∧
        (decodeAccountBook bytes = some b → (encodeAccountBook b.given = some bytes ↔
          Plain readBookSeen (fun seen => ∀ flags ∈ seen.1, ∀ f ∈ flags, f ≤ 1) bytes)) := by
  refine ⟨action_canonical, fun p => ⟨fun written => ⟨fun decoded => ?_, fun priced => ?_⟩, (price_canonical p).2⟩,
    market_canonical, account_canonical⟩
  · obtain ⟨_, run, _⟩ := decodeWith_some.mp decoded
    exact price_read run
  · exact (price_canonical p).1 priced written

def sampleBook (side : UInt8) : Bytes :=
  let bytes := ((encodeAccountBook ⟨⟨"lighter", .account, "7"⟩, 5, 5, [], [⟨1, 9, false, 3, 4, false⟩]⟩).getD [])
  bytes.set (bytes.length - 18) side

/-- Two payloads that denote one book. -/
theorem side_unread : (decodeAccountBook (sampleBook 0)).isSome = true ∧
    decodeAccountBook (sampleBook 2) = decodeAccountBook (sampleBook 0) ∧ sampleBook 2 ≠ sampleBook 0 := by
  decide +kernel

end Canonical

end Mandate.Perp
