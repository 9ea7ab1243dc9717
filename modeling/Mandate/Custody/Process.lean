import Mandate.Custody.Journal
import Mandate.Custody.Transaction

/-! The custody process: the requests it answers, and its runs over restarts and over journal
writes that fail or are cut short. -/
namespace Mandate.Custody
open Core Lib.Wire Lib.Table Lib.Text Lib.Lines List

structure AttemptClaim where
  attempt : String
  reservation : String
  generation : Uint64
  action : String

/-- Whether the ledger admitted exactly this signing: an error, or none. -/
abbrev Verifier := AttemptClaim → Tx → Bytes → Config → Int → Option String

structure CustodyService where
  sdk : Sdk
  cfg : Config
  publicKey : Bytes
  verify : Verifier

inductive Request
  | publicKey
  | hash (tx : Option Tx)
  | sign (tx : Option Tx) (claim : Option AttemptClaim)
  | forbidden

inductive Response
  | error (text : String)
  | publicKey (key : List Char)
  | hashed (hash : List Char) (txType : Uint8)
  | signed (hash : List Char) (txType : Uint8) (txInfo : String)

/-- A sign request that passes every check before the journal: its transaction and its hash. -/
def admitted (c : CustodyService) (tx : Option Tx) (claim : Option AttemptClaim) (now : Int) :
    Except String (Tx × Hashed) :=
  match claim with
  | none => .error "ATTEMPT_ID_MISSING"
  | some claim =>
    if claim.attempt = "" then .error "ATTEMPT_ID_MISSING"
    else match tx, hash c.sdk c.cfg tx with
    | _, .error why => .error why
    | none, .ok _ => .error "TX_MISSING"
    | some tx, .ok hashed =>
      match c.verify claim tx hashed.msg c.cfg now with
      | some why => .error why
      | none => .ok (tx, hashed)

def signRecorded (c : CustodyService) (hashed : Hashed) : Response :=
  match c.sdk.sign hashed.msg with
  | none => .error "SIGN_FAILED"
  | some signature =>
    match c.sdk.getTxInfo hashed.info signature hashed.text with
    | none => .error "SERIALIZE_FAILED"
    | some txInfo => .signed hashed.text hashed.txType txInfo

/-- The journal file, the slots of the process when it runs, and the signatures returned so far. -/
structure State where
  journal : List Char
  running : Option Slots
  signed : List (Int × List Char)

def returned (response : Response) (nonce : Int) (hash : List Char) (signed : List (Int × List Char)) :
    List (Int × List Char) :=
  match response with
  | .signed .. => (nonce, hash) :: signed
  | _ => signed

def State.fresh : State := ⟨[], none, []⟩

def signStep (c : CustodyService) (s : State) (slots : Slots) (tx : Option Tx) (claim : Option AttemptClaim)
    (now : Int) (disk : Disk) : State × Option Response :=
  match admitted c tx claim now with
  | .error why => (s, some (.error why))
  | .ok (tx, hashed) =>
    let (journal, outcome) := recordSlot s.journal slots tx.nonce.1 hashed.text disk
    match outcome with
    | .ended => ({ s with journal, running := none }, none)
    | .refused why => ({ s with journal }, some (.error why))
    | .recorded slots =>
      let response := signRecorded c hashed
      (⟨journal, some slots, returned response tx.nonce.1 hashed.text s.signed⟩, some response)

inductive Event
  | start
  | stop
  | request (r : Request) (now : Int) (disk : Disk)

def step (c : CustodyService) (s : State) : Event → State × Option Response
  | .start => ({ s with running := loadJournal s.journal }, none)
  | .stop => ({ s with running := none }, none)
  | .request r now disk =>
    match s.running with
    | none => (s, none)
    | some slots => match r with
      | .publicKey => (s, some (.publicKey (encodeToString c.publicKey)))
      | .hash tx => (s, some (match hash c.sdk c.cfg tx with
          | .error why => .error why
          | .ok hashed => .hashed hashed.text hashed.txType))
      | .sign tx claim => signStep c s slots tx claim now disk
      | .forbidden => (s, some (.error "OP_FORBIDDEN"))

def run (c : CustodyService) (s : State) (events : List Event) : State :=
  events.foldl (fun s e => (step c s e).1) s

/-- When a step leaves every line within the scanner's buffer, and ends no pending line that is
not a field on its own. -/
def Clean (c : CustodyService) (s : State) : Event → Prop
  | .request (.sign tx claim) now disk => ∀ slots accepted hashed, s.running = some slots →
      admitted c tx claim now = .ok (accepted, hashed) → slots.lookup accepted.nonce.1 = none →
      Short (s.journal ++ disk.persists (slotLine accepted.nonce.1 hashed.text)) ∧
        (disk = .synced → Joinable s.journal)
  | _ => True

def CleanRun (c : CustodyService) : State → List Event → Prop
  | _, [] => True
  | s, e :: rest => Clean c s e ∧ CleanRun c (step c s e).1 rest

/-- One hash for each slot ever signed, and a restarted custody refuses every other. -/
structure Exclusive (c : CustodyService) (s : State) : Prop where
  one : ∀ n first second, (n, first) ∈ s.signed → (n, second) ∈ s.signed → first = second
  refused : ∀ n hash, (n, hash) ∈ s.signed → ∀ slots, (step c s .start).1.running = some slots →
    ∀ tx claim now disk accepted hashed, admitted c tx claim now = .ok (accepted, hashed) →
      accepted.nonce.1 = n → hashed.text ≠ hash → signStep c (step c s .start).1 slots tx claim now disk =
        ((step c s .start).1, some (.error "SLOT_ALREADY_SIGNED"))

theorem admitted_hash {c : CustodyService} {tx : Option Tx} {claim : Option AttemptClaim} {now : Int}
    {accepted : Tx} {hashed : Hashed} (ok : admitted c tx claim now = .ok (accepted, hashed)) :
    hash c.sdk c.cfg (some accepted) = .ok hashed := by
  unfold admitted at ok
  split at ok
  · cases ok
  · split at ok
    · cases ok
    · split at ok
      · cases ok
      · cases ok
      · rename_i known
        split at ok
        · cases ok
        · cases ok
          exact known

theorem encodeToString_solid (bytes : Bytes) : ∀ c ∈ encodeToString bytes, isSpace c = false := by
  have digit : ∀ n < 16, isSpace (hexDigit n) = false := by decide
  intro c member
  obtain ⟨byte, _, here⟩ := mem_flatMap.mp member
  have bound := byte.toNat_lt
  simp only [mem_cons, not_mem_nil, or_false] at here
  rcases here with rfl | rfl
  · exact digit _ (by omega)
  · exact digit _ (Nat.mod_lt _ (by decide))

/-- What holds in every state of a clean run: the journal guards every slot the process knows and
every slot it has signed, and the process knows those it has signed. -/
structure Kept (s : State) : Prop where
  short : Short s.journal
  begun : Begun s.journal
  known : ∀ slots, s.running = some slots → ∀ n text, slots.lookup n = some text → Guarded s.journal n text
  sized : ∀ n hash, (n, hash) ∈ s.signed → hash.length = 80
  guarded : ∀ n hash, (n, hash) ∈ s.signed → Guarded s.journal n hash
  held : ∀ slots, s.running = some slots → ∀ n hash, (n, hash) ∈ s.signed →
    ∃ text, slots.lookup n = some text ∧ hash <+: text
  one : ∀ n first second, (n, first) ∈ s.signed → (n, second) ∈ s.signed → first = second

theorem kept_fresh : Kept State.fresh where
  short := by decide
  begun := nofun
  known := nofun
  sized := nofun
  guarded := nofun
  held := nofun
  one := nofun

section Steps
variable {c : CustodyService} {s : State}

theorem kept_stop (kept : Kept s) : Kept { s with running := none } :=
  { kept with known := nofun, held := nofun }

theorem kept_start (kept : Kept s) : Kept { s with running := loadJournal s.journal } :=
  { kept with
    known := fun slots loaded n text there => guarded_loaded kept.short loaded there
    held := fun slots loaded n hash signed => by
      have all := kept.guarded n hash signed [] slots
      rw [append_nil] at all
      exact all kept.short loaded }

theorem kept_append (kept : Kept s) {written : List Char} (short : Short (s.journal ++ written))
    (begun : Begun (s.journal ++ written)) : Kept { s with journal := s.journal ++ written } :=
  { kept with
    short := short
    begun := begun
    known := fun slots running n text there => (kept.known slots running n text there).append written
    guarded := fun n hash signed => (kept.guarded n hash signed).append written }

variable {slots : Slots} {n : Int} {hash : List Char}

theorem kept_sign (kept : Kept s) (running : s.running = some slots) (held : slots.lookup n = some hash) (sized : hash.length = 80) :
    Kept { s with signed := (n, hash) :: s.signed } := by
  have agree : ∀ other, (n, other) ∈ s.signed → other = hash := by
    intro other signed
    obtain ⟨text, known, start⟩ := kept.held slots running n other signed
    rw [held] at known
    obtain rfl := Option.some.inj known
    exact start.eq_of_length ((kept.sized n other signed).trans sized.symm)
  refine { kept with sized := ?_, guarded := ?_, held := ?_, one := ?_ }
  · intro m other signed
    rcases mem_cons.mp signed with same | earlier
    · cases same
      exact sized
    · exact kept.sized m other earlier
  · intro m other signed
    rcases mem_cons.mp signed with same | earlier
    · cases same
      exact kept.known slots running n hash held
    · exact kept.guarded m other earlier
  · intro slots' running' m other signed
    rcases mem_cons.mp signed with same | earlier
    · cases same
      rw [running] at running'
      cases running'
      exact ⟨hash, held, prefix_refl _⟩
    · exact kept.held slots' running' m other earlier
  · intro m first second left right
    rcases mem_cons.mp left with same | earlier
    · cases same
      rcases mem_cons.mp right with same | later
      · cases same
        rfl
      · exact (agree second later).symm
    · rcases mem_cons.mp right with same | later
      · cases same
        exact agree first earlier
      · exact kept.one m first second earlier later

theorem kept_record (kept : Kept s) (running : s.running = some slots) (free : slots.lookup n = none) (guarded : Guarded s.journal n hash) :
    Kept { s with running := some (slots.insert n hash) } := by
  refine { kept with known := ?_, held := ?_ }
  · intro slots' running' m text there
    cases running'
    rw [lookup_insert_eq] at there
    split at there
    · rename_i same
      subst same
      cases there
      exact guarded
    · exact kept.known slots running m text there
  · intro slots' running' m other signed
    cases running'
    obtain ⟨text, there, start⟩ := kept.held slots running m other signed
    have apart : m ≠ n := by
      rintro rfl
      rw [free] at there
      cases there
    exact ⟨text, by rw [lookup_insert_eq, if_neg apart, there], start⟩

theorem kept_returned (kept : Kept s) (running : s.running = some slots) (held : slots.lookup n = some hash) (sized : hash.length = 80) (response : Response) :
    Kept { s with signed := returned response n hash s.signed } := by
  cases response with
  | signed => exact kept_sign kept running held sized
  | error => exact kept
  | publicKey => exact kept
  | hashed => exact kept

theorem persists_prefix (disk : Disk) (line : List Char) : disk.persists line <+: line := by
  cases disk with
  | synced => exact prefix_refl _
  | unavailable => exact nil_prefix
  | writeFailed => exact take_prefix _ _
  | syncFailed => exact take_prefix _ _
  | crashed => exact take_prefix _ _

theorem kept_request (sized : c.sdk.Sized) (kept : Kept s) (running : s.running = some slots)
    {tx : Option Tx} {claim : Option AttemptClaim} {now : Int} {disk : Disk}
    (clean : Clean c s (.request (.sign tx claim) now disk)) : Kept (signStep c s slots tx claim now disk).1 := by
  unfold signStep
  cases checked : admitted c tx claim now with
  | error why => exact kept
  | ok pair =>
    obtain ⟨accepted, hashed⟩ := pair
    have known := admitted_hash checked
    have long := hash_length sized known
    have solid : ∀ d ∈ hashed.text, isSpace d = false := by
      rw [(hash_msg known).1]
      exact encodeToString_solid _
    have begun : hashed.text ≠ [] := by
      intro empty
      rw [empty] at long
      cases long
    simp only [recordSlot]
    cases held : slots.lookup accepted.nonce.1 with
    | some prior =>
      simp only
      by_cases same : prior = hashed.text
      · subst same
        simp only [if_true]
        have next := kept_returned kept running held long (signRecorded c hashed)
        rw [← running]
        exact next
      · simp only [same, if_false]
        exact kept
    | none =>
      obtain ⟨short, joinable⟩ := clean slots accepted hashed running checked held
      have part := persists_prefix disk (slotLine accepted.nonce.1 hashed.text)
      have written := kept_append kept short (begun_append kept.begun part solid)
      simp only
      cases disk with
      | unavailable why => exact written
      | writeFailed why persisted => exact written
      | syncFailed why persisted => exact written
      | crashed persisted => exact kept_stop written
      | synced =>
        have guarded := guarded_appended kept.begun (joinable rfl) accepted.nonce.2 begun solid
        have recorded := kept_record written running held guarded
        exact kept_returned recorded rfl (by rw [lookup_insert_eq, if_pos rfl]) long (signRecorded c hashed)

theorem kept_step (sized : c.sdk.Sized) (kept : Kept s) {e : Event} (clean : Clean c s e) :
    Kept (step c s e).1 := by
  cases e with
  | start => exact kept_start kept
  | stop => exact kept_stop kept
  | request r now disk =>
    rw [step]
    cases running : s.running with
    | none => exact kept
    | some slots =>
      cases r with
      | publicKey => exact kept
      | hash tx => exact kept
      | sign tx claim => exact kept_request sized kept running clean
      | forbidden => exact kept

theorem kept_run (sized : c.sdk.Sized) {events : List Event} (kept : Kept s) (clean : CleanRun c s events) :
    Kept (run c s events) := by
  induction events generalizing s with
  | nil => exact kept
  | cons e rest ih => exact ih (kept_step sized kept clean.1) clean.2

theorem kept_exclusive (sized : c.sdk.Sized) (kept : Kept s) : Exclusive c s where
  one := kept.one
  refused := by
    intro n hash signed slots running tx claim now disk accepted hashed checked slot other
    subst slot
    have started := kept_start kept
    obtain ⟨text, held, start⟩ := started.held slots running _ hash signed
    have long := hash_length sized (admitted_hash checked)
    have apart : text ≠ hashed.text := by
      rintro rfl
      exact other (start.eq_of_length ((kept.sized _ hash signed).trans long.symm)).symm
    unfold signStep
    rw [checked]
    simp only [recordSlot, held, apart, if_false]

end Steps

/-- In every clean run custody signs one hash per slot, and keeps refusing the others. -/
theorem slots_exclusive {c : CustodyService} (sized : c.sdk.Sized) {events : List Event}
    (clean : CleanRun c .fresh events) : Exclusive c (run c .fresh events) :=
  kept_exclusive sized (kept_run sized kept_fresh clean)

section Sample

def sampleSdk : Sdk where
  limitOrder := ⟨0, by decide⟩
  marketOrder := ⟨1, by decide⟩
  nilOrderTriggerPrice := ⟨0, by decide⟩
  txTypeL2CreateOrder := ⟨14, by decide⟩
  txTypeL2CancelOrder := ⟨15, by decide⟩
  validate _ := .ok ()
  hash info _ := match info with
    | .createOrder _ _ order _ _ _ => .ok (List.replicate 40 (UInt8.ofNat order.price.1))
    | .cancelOrder .. => .ok (List.replicate 40 0)
  sign msg := some msg
  getTxInfo _ _ _ := some "order"

/-- Any verifier that admits: the journal is custody's own guard behind it. -/
def sampleCustody : CustodyService where
  sdk := sampleSdk
  cfg := ⟨⟨300, by decide⟩, ⟨1, by decide⟩, ⟨5, by decide⟩⟩
  publicKey := []
  verify _ _ _ _ _ := none

def sampleTx (nonce : Int64) (price : Uint32) : Tx where
  type := "CREATE_ORDER"
  chainId := ⟨300, by decide⟩
  accountIndex := ⟨1, by decide⟩
  apiKeyIndex := ⟨5, by decide⟩
  marketIndex := ⟨1, by decide⟩
  clientOrderIndex := ⟨7, by decide⟩
  baseAmount := ⟨100, by decide⟩
  price
  isAsk := ⟨0, by decide⟩
  orderType := ⟨0, by decide⟩
  timeInForce := ⟨0, by decide⟩
  reduceOnly := ⟨0, by decide⟩
  orderExpiry := ⟨0, by decide⟩
  cancelIndex := ⟨0, by decide⟩
  expiredAt := ⟨0, by decide⟩
  nonce
  selfTradeBehavior := ⟨0, by decide⟩
  selfTradeEquality := ⟨0, by decide⟩

def sampleSign (nonce : Int64) (price : Uint32) (disk : Disk) : Event :=
  .request (.sign (some (sampleTx nonce price)) (some ⟨"0x01", "", ⟨0, by decide⟩, ""⟩)) 0 disk

theorem sampleSdk_sized : sampleSdk.Sized := by
  intro info chainId msg ok
  cases info with
  | createOrder => cases ok; rfl
  | cancelOrder => cases ok; rfl

/-- The disk keeps one digit of slot 5; slot 6 is signed onto it and, after a restart, again. -/
def tornRun : List Event :=
  [.start, sampleSign ⟨5, by decide⟩ ⟨1, by decide⟩ (.writeFailed "no space left on device" 1),
    sampleSign ⟨6, by decide⟩ ⟨1, by decide⟩ .synced, .stop, .start,
    sampleSign ⟨6, by decide⟩ ⟨2, by decide⟩ .synced]

theorem torn_signs_twice : ¬ Exclusive sampleCustody (run sampleCustody .fresh tornRun) := by
  intro exclusive
  have signed : (run sampleCustody .fresh tornRun).signed =
      [(6, encodeToString (List.replicate 40 2)), (6, encodeToString (List.replicate 40 1))] := by
    decide +kernel
  have same := exclusive.one 6 _ _ (by rw [signed]; exact mem_cons_self)
    (by rw [signed]; exact mem_cons_of_mem _ mem_cons_self)
  revert same
  decide +kernel

def wholeRun : List Event :=
  [.start, sampleSign ⟨6, by decide⟩ ⟨1, by decide⟩ .synced, .stop, .start,
    sampleSign ⟨6, by decide⟩ ⟨1, by decide⟩ .synced]

theorem slots_exclusive_sample : Exclusive sampleCustody (run sampleCustody .fresh wholeRun) := by
  refine slots_exclusive sampleSdk_sized ?_
  refine ⟨trivial, ?_, trivial, trivial, ?_, trivial⟩
  · intro slots accepted hashed running checked free
    cases running
    cases checked
    exact ⟨by decide, fun _ => Or.inl rfl⟩
  · intro slots accepted hashed running checked free
    cases running
    cases checked
    exact absurd free (by decide)

end Sample

end Mandate.Custody
