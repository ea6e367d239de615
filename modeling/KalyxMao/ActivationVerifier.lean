import KalyxMao.ActivationPolicy
import KalyxMao.ActivationReconciliation
import KalyxMao.BlockchainIntents

/-!
# Reading activation receipts

The logs of a receipt are untyped. The loop keeps one event: an `Activated` log
of the contract replaces the one found before it, and only the last one is
compared with the intent. Amounts that are no number are noted as a reason; an
activation id that is no number is not caught.
-/

namespace ActivationVerifier
open PythonText PythonValues PythonConversions
open ActivationPolicy (OrbioCreditActivationIntent)
open ActivationReconciliation (ActivationVerificationResult)

def activationChainId : Int := 4663

/-- `ORBIO_CREDIT_MAINNET`, which has no capital letters to lower. -/
def activationContract : String := PurchasePolicy.orbioCreditMainnet

/-- The Keccak hash of `Activated(uint256,address,bytes32,uint256)`. -/
def activatedTopic0 : String := "0x3a293632e41f6556f85d186d28ae95749534c2c9422cec0e1075886560ca7147"

/-- The Keccak hash of `ActivationFeeCharged(uint256,uint256)`. -/
def feeTopic0 : String := "0x22bce9ab29f23f4818afa41ce0ca8cc1d23816cf4544e29580a53aead6f0176c"

structure ActivationVerificationReport where
  result : ActivationVerificationResult
  reasons : List String := []
  activationId : Option Int := none
  burnedAmount : Option Int := none
  feeAtoms : Option Int := none
  sender : Option String := none
  beneficiary : Option String := none
  txHash : PyValue := .none

section Access

def noAttribute (v : PyValue) (name : String) : PyError :=
  ⟨.otherException, s!"'{typeName v}' object has no attribute '{name}'"⟩

/-- The map a value's `get` reads. -/
def itemsOf : PyValue → Except PyError (List (String × PyValue))
  | .dict items => .ok items
  | v => .error (noAttribute v "get")

/-- What `for x in v or []` goes through. -/
def elementsOf (v : PyValue) : Except PyError (List PyValue) :=
  if truthy v then
    match v with
    | .list xs => .ok xs
    | .str s => .ok (s.toList.map fun c => .str (String.singleton c))
    | .dict items => .ok (items.map fun item => .str item.1)
    | v => .error (notIterable (typeName v))
  else .ok []

/-- What `v or []` is indexed by; a map has no key `0`. -/
def topicsOf (v : PyValue) : Except PyError (List PyValue) :=
  if truthy v then
    match v with
    | .list xs => .ok xs
    | .str s => .ok (s.toList.map fun c => .str (String.singleton c))
    | .dict _ => .error ⟨.otherException, "0"⟩
    | v => .error ⟨.typeError, s!"'{typeName v}' object is not subscriptable"⟩
  else .ok []

variable (t : TextRules)

/-- `v.lower()`. -/
def lowered : PyValue → Except PyError String
  | .str s => .ok (t.lower s)
  | v => .error (noAttribute v "lower")

def notText : PyError := ⟨.typeError, "int() can't convert non-string with explicit base"⟩

/-- `_topic_addr`, of the text in lower case. -/
def topicAddr (topic : String) : String :=
  let digits := (BlockchainIntents.removeAll "0x" topic).toList
  "0x" ++ String.ofList (digits.drop (digits.length - 40))

theorem topicAddr_ne (topic : String) : topicAddr topic ≠ "" :=
  append_ne_empty _ (by decide)

def topicUint : PyValue → Except PyError Int
  | .str s => intOfHex t s
  | _ => .error notText

/-- `_data_uint`. -/
def dataUint (v : PyValue) : Except PyError (Option Int) :=
  if truthy v then
    match v with
    | .str s =>
      if s = "0x" ∨ s = "0x0" then .ok none
      else
        match intOfHex t s with
        | .ok n => .ok (some n)
        | .error _ => .ok none
    | _ => .error notText
  else .ok none

end Access

section Loop
variable (t : TextRules) (i : OrbioCreditActivationIntent)

structure ActivatedEvent where
  activationId : Int
  sender : String
  beneficiary : String
  amount : Int
  named : sender ≠ ""

/-- What the loop makes of one log. -/
inductive Finding where
  | skipped
  | flaw (reason : String)
  | activated (event : ActivatedEvent)
  | fee (atoms : Option Int)

/-- The variables of the loop. -/
structure Scan where
  reasons : List String
  activated : Option ActivatedEvent
  feeAtoms : Option Int

def Scan.note (s : Scan) : Finding → Scan
  | .skipped => s
  | .flaw reason => { s with reasons := s.reasons ++ [reason] }
  | .activated event => { s with activated := some event }
  | .fee atoms => { s with feeAtoms := atoms }

def dataOf (log : List (String × PyValue)) : PyValue := firstTruthy [get log "data", .str "0x"]

def addressOf (log : List (String × PyValue)) : PyValue := firstTruthy [get log "address", .str ""]

/-- The three indexed values and the amount of a log of the contract. -/
def readEvent (log : List (String × PyValue)) (activationId sender beneficiary : PyValue) :
    Except PyError Finding := do
  let amount ← dataUint t (dataOf log)
  match amount with
  | none => return .flaw "Activated event amount data missing or malformed"
  | some amount => do
    let activationId ← topicUint t activationId
    let sender ← lowered t sender
    let beneficiary ← lowered t beneficiary
    return .activated ⟨activationId, topicAddr sender, beneficiary, amount, topicAddr_ne sender⟩

/-- A log with the topic of `Activated`, by the topics after that one. -/
def readActivated (log : List (String × PyValue)) : List PyValue → Except PyError Finding
  | activationId :: sender :: beneficiary :: _ => do
    let address ← lowered t (addressOf log)
    if address = "" then return .flaw "Activated log missing address"
    else if address ≠ activationContract then
      return .flaw s!"Activated log address {address} != allowlisted CREDIT"
    else if address ≠ t.lower i.creditContract then
      return .flaw s!"Activated log address {address} != intent.credit_contract"
    else readEvent t log activationId sender beneficiary
  | _ => return .flaw "Activated event has fewer than 4 topics (malformed)"

/-- A log by its topics. -/
def readTopics (log : List (String × PyValue)) : List PyValue → Except PyError Finding
  | .str topic0 :: rest =>
    if t.lower topic0 = t.lower activatedTopic0 then readActivated t i log rest
    else if t.lower topic0 = t.lower feeTopic0 then do
      let atoms ← dataUint t (dataOf log)
      return .fee atoms
    else return .skipped
  | _ => return .skipped

def readLog (log : PyValue) : Except PyError Finding := do
  let log ← itemsOf log
  let topics ← topicsOf (get log "topics")
  readTopics t i log topics

def scan (s : Scan) : List PyValue → Except PyError Scan
  | [] => .ok s
  | log :: rest => do
    let finding ← readLog t i log
    scan (s.note finding) rest

end Loop

section Verification
variable (t : TextRules) (i : OrbioCreditActivationIntent) (chainId : Int)
  (receipt : List (String × PyValue))

def noteIf (wrong : Prop) [Decidable wrong] (reason : String) : List String :=
  if wrong then [reason] else []

/-- `status in (1, "0x1", "1", True)`. -/
def isSuccess (status : PyValue) : Bool :=
  [.int 1, .str "0x1", .str "1", .bool true].any (valuesEqual status)

def recipientReasons : List String :=
  match get receipt "to" with
  | .none => ["receipt.to is missing"]
  | recipient =>
    if valuesEqual recipient (.str "") then ["receipt.to is missing"]
    else
      let toAddr := t.lower (strOf t recipient)
      noteIf (toAddr ≠ activationContract)
          s!"receipt.to {toAddr} != allowlisted CREDIT {activationContract}" ++
        noteIf (toAddr ≠ t.lower i.creditContract)
          s!"receipt.to {toAddr} != intent.credit_contract {i.creditContract}"

def statusReason (status : PyValue) : String := s!"receipt status not success: {strOf t status}"

/-- What is noted before the logs are read. -/
def receiptReasons : List String :=
  noteIf (chainId ≠ activationChainId) s!"chain_id {chainId} != {activationChainId}" ++
    noteIf (isSuccess (get receipt "status") = false) (statusReason t (get receipt "status")) ++
    recipientReasons t i receipt ++
    noteIf (t.lower i.creditContract ≠ activationContract)
      "intent credit_contract not mainnet allowlist"

/-- What is noted about the event that was kept. -/
def eventReasons (event : ActivatedEvent) (expectedSender : String) : List String :=
  noteIf (event.amount ≠ i.amount)
      s!"Activated.amount {event.amount} != intent.amount {i.amount}" ++
    (if event.sender = "" then ["Activated.from missing"]
    else noteIf (t.lower event.sender ≠ t.lower expectedSender)
      s!"Activated.from {event.sender} != expected_sender {expectedSender}")

/-- The report on what the loop left. -/
def conclude (expectedSender : String) (s : Scan) : ActivationVerificationReport :=
  match s.activated with
  | none =>
    { result := .rejected
      reasons := s.reasons ++ ["Activated event missing from receipt logs"]
      feeAtoms := s.feeAtoms
      txHash := get receipt "transactionHash" }
  | some event =>
    let reasons := s.reasons ++ eventReasons t i event expectedSender
    { result := if reasons = [] then .verified else .rejected
      reasons := if reasons = [] then ["receipt success + Activated event matches intent"] else reasons
      activationId := some event.activationId
      burnedAmount := some event.amount
      feeAtoms := s.feeAtoms
      sender := some event.sender
      beneficiary := some event.beneficiary
      txHash := get receipt "transactionHash" }

/-- `OrbioCreditActivationVerifier.verify`. -/
def verify (expectedSender : Option String) : Except PyError ActivationVerificationReport :=
  let expectedSender := expectedSender.getD ""
  if expectedSender = "" then
    .ok
      { result := .rejected
        reasons := ["expected_sender is required for production activation verification"]
        txHash := get receipt "transactionHash" }
  else do
    let logs ← elementsOf (get receipt "logs")
    let s ← scan t i ⟨receiptReasons t i chainId receipt, none, none⟩ logs
    return conclude t i receipt expectedSender s

end Verification

section Logs
variable (t : TextRules) (i : OrbioCreditActivationIntent)

/-- The first topic is that of `Activated`; `rest` are the topics after it. -/
def HasActivatedTopic (log : PyValue) (items : List (String × PyValue)) (rest : List PyValue) : Prop :=
  log = .dict items ∧ ∃ topic0, topicsOf (get items "topics") = .ok (.str topic0 :: rest) ∧
    t.lower topic0 = t.lower activatedTopic0

/-- An `Activated` log of the contract. -/
def IsActivated (log : PyValue) : Prop :=
  ∃ items rest, HasActivatedTopic t log items rest ∧
    lowered t (addressOf items) = .ok activationContract

/-- The log's second indexed value is the sender and its data the amount. -/
def Names (log : PyValue) (expectedSender : String) (amount : Nat) : Prop :=
  ∃ items activationId sender beneficiary rest,
    HasActivatedTopic t log items (activationId :: .str sender :: beneficiary :: rest) ∧
    dataUint t (dataOf items) = .ok (some (amount : Int)) ∧
    t.lower (topicAddr (t.lower sender)) = t.lower expectedSender

/-- A log with the topic of `Activated` that is not an event of the contract with an amount. -/
def Flawed (log : PyValue) : Prop :=
  ∃ items rest, HasActivatedTopic t log items rest ∧
    (rest.length < 3 ∨ lowered t (addressOf items) ≠ .ok activationContract ∨
      dataUint t (dataOf items) = .ok none)

def IsText (v : PyValue) : Prop := ∃ s, v = .str s

/-- `int(v, 16)` gives a number. -/
def IsHexLiteral (v : PyValue) : Prop := ∃ s n, v = .str s ∧ intOfHex t s = .ok n

/-- What is converted of an event of the contract is of the type for it. -/
structure ReadableEvent (items : List (String × PyValue)) (activationId sender beneficiary : PyValue) :
    Prop where
  data : IsText (dataOf items)
  topics : ∀ n, dataUint t (dataOf items) = .ok (some n) →
    IsHexLiteral t activationId ∧ IsText sender ∧ IsText beneficiary

/-- The types of what the loop looks at in a log. -/
def Readable (log : PyValue) : Prop :=
  ∃ items topics, log = .dict items ∧ topicsOf (get items "topics") = .ok topics ∧
    ∀ topic0 rest, topics = .str topic0 :: rest →
      (t.lower topic0 = t.lower activatedTopic0 → ∀ activationId sender beneficiary more,
        rest = activationId :: sender :: beneficiary :: more → IsText (addressOf items) ∧
          (lowered t (addressOf items) = .ok activationContract →
            t.lower i.creditContract = activationContract →
              ReadableEvent t items activationId sender beneficiary)) ∧
      (t.lower topic0 ≠ t.lower activatedTopic0 → t.lower topic0 = t.lower feeTopic0 →
        IsText (dataOf items))

end Logs

section Readings
variable {t : TextRules} {i : OrbioCreditActivationIntent} {log : PyValue}
  {items : List (String × PyValue)} {rest : List PyValue}

theorem HasActivatedTopic.inj {items' : List (String × PyValue)} {rest' : List PyValue}
    (here : HasActivatedTopic t log items rest) (there : HasActivatedTopic t log items' rest') :
    items' = items ∧ rest' = rest := by
  obtain ⟨rfl, topic0, found, -⟩ := here
  obtain ⟨same, topic0', found', -⟩ := there
  obtain rfl := PyValue.dict.inj same
  rw [found] at found'
  exact ⟨rfl, (List.cons.inj (Except.ok.inj found')).2.symm⟩

theorem lowered_ok {v : PyValue} {s : String} : lowered t v = .ok s ↔ ∃ u, v = .str u ∧ t.lower u = s := by
  constructor
  · intro done
    cases v with
    | str u => exact ⟨u, rfl, Except.ok.inj done⟩
    | _ => cases done
  · rintro ⟨u, rfl, rfl⟩
    rfl

theorem topicUint_ok {v : PyValue} : (∃ n, topicUint t v = .ok n) ↔ IsHexLiteral t v := by
  constructor
  · rintro ⟨n, done⟩
    cases v with
    | str u => exact ⟨u, n, rfl, done⟩
    | _ => cases done
  · rintro ⟨u, n, rfl, done⟩
    exact ⟨n, done⟩

theorem dataOf_truthy (items : List (String × PyValue)) : truthy (dataOf items) = true := by
  show truthy (if truthy (get items "data") then get items "data" else .str "0x") = true
  split
  · assumption
  · rfl

theorem dataUint_str {u : String} (something : truthy (.str u) = true) :
    ∃ amount, dataUint t (.str u) = .ok amount := by
  rw [dataUint, if_pos something]
  split
  · exact ⟨none, rfl⟩
  · cases intOfHex t u with
    | ok n => exact ⟨some n, rfl⟩
    | error e => exact ⟨none, rfl⟩

/-- What is no text raises `TypeError`, which is not caught. -/
theorem dataUint_ok (items : List (String × PyValue)) :
    (∃ amount, dataUint t (dataOf items) = .ok amount) ↔ IsText (dataOf items) := by
  have something := dataOf_truthy items
  generalize dataOf items = v at something ⊢
  constructor
  · rintro ⟨amount, done⟩
    unfold dataUint at done
    rw [if_pos something] at done
    cases v with
    | str u => exact ⟨u, rfl⟩
    | _ => cases done
  · rintro ⟨u, rfl⟩
    exact dataUint_str something

theorem readEvent_finding {a s b : PyValue} {f : Finding} (done : readEvent t items a s b = .ok f) :
    (dataUint t (dataOf items) = .ok none ∧ ∃ reason, f = .flaw reason) ∨
    ∃ event u, f = .activated event ∧ s = .str u ∧ event.sender = topicAddr (t.lower u) ∧
      dataUint t (dataOf items) = .ok (some event.amount) := by
  obtain ⟨amount, parsed, done⟩ := bind_ok.mp done
  cases amount with
  | none => exact .inl ⟨parsed, _, (Except.ok.inj done).symm⟩
  | some n =>
    obtain ⟨activationId, -, done⟩ := bind_ok.mp done
    obtain ⟨sender, named, done⟩ := bind_ok.mp done
    obtain ⟨beneficiary, -, done⟩ := bind_ok.mp done
    obtain ⟨u, rfl, rfl⟩ := lowered_ok.mp named
    exact .inr ⟨_, u, (Except.ok.inj done).symm, rfl, rfl, parsed⟩

theorem readEvent_ok {a s b : PyValue} :
    (∃ f, readEvent t items a s b = .ok f) ↔ ReadableEvent t items a s b := by
  constructor
  · rintro ⟨f, done⟩
    obtain ⟨amount, parsed, done⟩ := bind_ok.mp done
    refine ⟨(dataUint_ok items).mp ⟨amount, parsed⟩, fun n number => ?_⟩
    obtain rfl : amount = some n := Except.ok.inj (parsed.symm.trans number)
    obtain ⟨activationId, read, done⟩ := bind_ok.mp done
    obtain ⟨sender, named, done⟩ := bind_ok.mp done
    obtain ⟨beneficiary, given, done⟩ := bind_ok.mp done
    obtain ⟨u, isSender, -⟩ := lowered_ok.mp named
    obtain ⟨v, isBeneficiary, -⟩ := lowered_ok.mp given
    exact ⟨topicUint_ok.mp ⟨activationId, read⟩, ⟨u, isSender⟩, ⟨v, isBeneficiary⟩⟩
  · intro readable
    obtain ⟨amount, parsed⟩ := (dataUint_ok (t := t) items).mpr readable.data
    cases amount with
    | none => exact ⟨_, bind_ok.mpr ⟨none, parsed, rfl⟩⟩
    | some n =>
      obtain ⟨literal, ⟨u, rfl⟩, ⟨v, rfl⟩⟩ := readable.topics n parsed
      obtain ⟨activationId, read⟩ := topicUint_ok.mpr literal
      exact ⟨_, bind_ok.mpr ⟨some n, parsed, bind_ok.mpr ⟨activationId, read, rfl⟩⟩⟩

theorem contract_ne : activationContract ≠ "" := by decide

variable {a sender b : PyValue} {more : List PyValue} {f : Finding}

theorem readActivated_event (here : lowered t (addressOf items) = .ok activationContract)
    (agrees : t.lower i.creditContract = activationContract) :
    readActivated t i items (a :: sender :: b :: more) = readEvent t items a sender b := by
  simp only [readActivated, here, agrees, bind, Except.bind, contract_ne, ne_eq, not_true_eq_false,
    if_false]

/-- Of a log of another address only a reason is noted. -/
theorem readActivated_elsewhere (a sender b : PyValue) (more : List PyValue) {address : String}
    (addressed : lowered t (addressOf items) = .ok address)
    (elsewhere : ¬(address = activationContract ∧ t.lower i.creditContract = activationContract)) :
    ∃ reason, readActivated t i items (a :: sender :: b :: more) = .ok (.flaw reason) := by
  rw [readActivated, addressed]
  by_cases missing : address = ""
  · exact ⟨_, if_pos missing⟩
  · by_cases here : address = activationContract
    · have other : address ≠ t.lower i.creditContract :=
        fun same => elsewhere ⟨here, same.symm.trans here⟩
      exact ⟨_, (if_neg missing).trans ((if_neg (not_not.mpr here)).trans (if_pos other))⟩
    · exact ⟨_, (if_neg missing).trans (if_pos here)⟩

/-- With a log of the contract the loop notes a flaw or keeps what the log names. -/
theorem readActivated_finding (agrees : t.lower i.creditContract = activationContract)
    (done : readActivated t i items rest = .ok f) :
    ((rest.length < 3 ∨ lowered t (addressOf items) ≠ .ok activationContract ∨
        dataUint t (dataOf items) = .ok none) ∧ ∃ reason, f = .flaw reason) ∨
    ∃ event a u b more, rest = a :: .str u :: b :: more ∧ f = .activated event ∧
      lowered t (addressOf items) = .ok activationContract ∧
      event.sender = topicAddr (t.lower u) ∧ dataUint t (dataOf items) = .ok (some event.amount) := by
  match rest, done with
  | a :: sender :: b :: more, done =>
    obtain ⟨address, addressed, -⟩ := bind_ok.mp done
    by_cases here : address = activationContract
    · subst here
      rw [readActivated_event addressed agrees] at done
      rcases readEvent_finding done with ⟨missing, flaw⟩ | ⟨event, u, rfl, rfl, named, parsed⟩
      · exact .inl ⟨.inr (.inr missing), flaw⟩
      · exact .inr ⟨event, a, u, b, more, rfl, rfl, addressed, named, parsed⟩
    · obtain ⟨reason, noted⟩ := readActivated_elsewhere a sender b more addressed
        fun both : address = activationContract ∧ t.lower i.creditContract = _ => here both.1
      rw [noted] at done
      refine .inl ⟨.inr (.inl fun same => ?_), reason, (Except.ok.inj done).symm⟩
      exact here (Except.ok.inj (addressed.symm.trans same))
  | [], done => exact .inl ⟨.inl (by decide), _, (Except.ok.inj done).symm⟩
  | [a], done => exact .inl ⟨.inl (by simp), _, (Except.ok.inj done).symm⟩
  | [a, sender], done => exact .inl ⟨.inl (by simp), _, (Except.ok.inj done).symm⟩

theorem readActivated_ok : (∃ f, readActivated t i items rest = .ok f) ↔
    ∀ a sender b more, rest = a :: sender :: b :: more → IsText (addressOf items) ∧
      (lowered t (addressOf items) = .ok activationContract →
        t.lower i.creditContract = activationContract → ReadableEvent t items a sender b) := by
  constructor
  · rintro ⟨f, done⟩ a sender b more rfl
    obtain ⟨address, addressed, -⟩ := bind_ok.mp done
    obtain ⟨u, isText, -⟩ := lowered_ok.mp addressed
    refine ⟨⟨u, isText⟩, fun here agrees => readEvent_ok.mp ⟨f, ?_⟩⟩
    rwa [readActivated_event here agrees] at done
  · intro readable
    match rest, readable with
    | a :: sender :: b :: more, readable =>
      obtain ⟨⟨u, isText⟩, event⟩ := readable a sender b more rfl
      have addressed : lowered t (addressOf items) = .ok (t.lower u) := lowered_ok.mpr ⟨u, isText, rfl⟩
      by_cases both : t.lower u = activationContract ∧ t.lower i.creditContract = activationContract
      · obtain ⟨here, agrees⟩ := both
        rw [here] at addressed
        obtain ⟨f, done⟩ := readEvent_ok.mpr (event addressed agrees)
        exact ⟨f, (readActivated_event addressed agrees).trans done⟩
      · obtain ⟨reason, noted⟩ := readActivated_elsewhere a sender b more addressed both
        exact ⟨_, noted⟩
    | [], _ => exact ⟨_, rfl⟩
    | [_], _ => exact ⟨_, rfl⟩
    | [_, _], _ => exact ⟨_, rfl⟩

theorem readLog_iff : readLog t i log = .ok f ↔ ∃ items topics, log = .dict items ∧
    topicsOf (get items "topics") = .ok topics ∧ readTopics t i items topics = .ok f := by
  constructor
  · intro done
    obtain ⟨items, isMap, done⟩ := bind_ok.mp done
    obtain ⟨topics, found, done⟩ := bind_ok.mp done
    cases log with
    | dict items' =>
      obtain rfl := Except.ok.inj isMap
      exact ⟨items', topics, rfl, found, done⟩
    | _ => cases isMap
  · rintro ⟨items, topics, rfl, found, done⟩
    exact bind_ok.mpr ⟨items, rfl, bind_ok.mpr ⟨topics, found, done⟩⟩

theorem readLog_activated (topic : HasActivatedTopic t log items rest) :
    readLog t i log = .ok f ↔ readActivated t i items rest = .ok f := by
  obtain ⟨rfl, topic0, found, same⟩ := topic
  rw [readLog_iff]
  constructor
  · rintro ⟨items', topics, isMap, found', done⟩
    obtain rfl := PyValue.dict.inj isMap
    obtain rfl := Except.ok.inj (found.symm.trans found')
    exact (if_pos same).symm.trans done
  · intro done
    exact ⟨items, _, rfl, found, (if_pos same).trans done⟩

/-- A log of another topic leaves the reasons and the event as they are. -/
theorem readLog_other (other : ∀ items rest, ¬HasActivatedTopic t log items rest)
    (done : readLog t i log = .ok f) : f = .skipped ∨ ∃ atoms, f = .fee atoms := by
  obtain ⟨items, topics, rfl, found, done⟩ := readLog_iff.mp done
  unfold readTopics at done
  split at done
  · rename_i topic0 rest
    rw [if_neg fun same => other _ rest ⟨rfl, topic0, found, same⟩] at done
    rcases ite_eq_iff.mp done with ⟨-, done⟩ | ⟨-, done⟩
    · obtain ⟨atoms, -, done⟩ := bind_ok.mp done
      exact .inr ⟨atoms, (Except.ok.inj done).symm⟩
    · exact .inl (Except.ok.inj done).symm
  · exact .inl (Except.ok.inj done).symm

theorem readLog_ok : (∃ f, readLog t i log = .ok f) ↔ Readable t i log := by
  constructor
  · rintro ⟨f, done⟩
    obtain ⟨items, topics, rfl, found, done⟩ := readLog_iff.mp done
    refine ⟨items, topics, rfl, found, ?_⟩
    rintro topic0 rest rfl
    constructor
    · intro same
      exact readActivated_ok.mp ⟨f, (if_pos same).symm.trans done⟩
    · intro other fee
      have charged := (if_pos fee).symm.trans ((if_neg other).symm.trans done)
      obtain ⟨atoms, parsed, -⟩ := bind_ok.mp charged
      exact (dataUint_ok items).mp ⟨atoms, parsed⟩
  · rintro ⟨items, topics, rfl, found, readable⟩
    suffices read : ∃ f, readTopics t i items topics = .ok f by
      obtain ⟨f, done⟩ := read
      exact ⟨f, readLog_iff.mpr ⟨items, topics, rfl, found, done⟩⟩
    unfold readTopics
    split
    · rename_i topic0 rest
      obtain ⟨event, fee⟩ := readable topic0 rest rfl
      by_cases same : t.lower topic0 = t.lower activatedTopic0
      · rw [if_pos same]
        exact readActivated_ok.mpr (event same)
      · rw [if_neg same]
        by_cases charged : t.lower topic0 = t.lower feeTopic0
        · obtain ⟨atoms, parsed⟩ := (dataUint_ok items).mpr (fee same charged)
          rw [if_pos charged]
          exact ⟨_, bind_ok.mpr ⟨atoms, parsed, rfl⟩⟩
        · exact ⟨_, if_neg charged⟩
    · exact ⟨_, rfl⟩

end Readings

section Scans
variable {t : TextRules} {i : OrbioCreditActivationIntent} {log : PyValue} {logs : List PyValue}
  {s s' : Scan} {f : Finding} {expectedSender : String}

/-- What the report needs of the kept event. -/
def ActivatedEvent.Agrees (t : TextRules) (i : OrbioCreditActivationIntent) (expectedSender : String)
    (event : ActivatedEvent) : Prop :=
  event.amount = i.amount ∧ t.lower event.sender = t.lower expectedSender

/-- What a log is decides what the loop makes of it, where the intent names the contract. -/
theorem readLog_finding (agrees : t.lower i.creditContract = activationContract)
    (done : readLog t i log = .ok f) :
    (Flawed t log ∧ ∃ reason, f = .flaw reason) ∨
    (¬Flawed t log ∧ IsActivated t log ∧ ∃ event, f = .activated event ∧
      ∀ expectedSender, event.Agrees t i expectedSender ↔ Names t log expectedSender i.amount) ∨
    (¬Flawed t log ∧ ¬IsActivated t log ∧ (f = .skipped ∨ ∃ atoms, f = .fee atoms)) := by
  by_cases topic : ∃ items rest, HasActivatedTopic t log items rest
  · obtain ⟨items, rest, topic⟩ := topic
    rcases readActivated_finding agrees ((readLog_activated topic).mp done) with
      ⟨wrong, flaw⟩ | ⟨event, a, u, b, more, rfl, rfl, here, named, parsed⟩
    · exact .inl ⟨⟨items, rest, topic, wrong⟩, flaw⟩
    · refine .inr (.inl ⟨?_, ⟨items, _, topic, here⟩, event, rfl, fun expectedSender => ?_⟩)
      · rintro ⟨items', rest', topic', wrong⟩
        obtain ⟨rfl, rfl⟩ := topic.inj topic'
        rcases wrong with short | elsewhere | missing
        · simp only [List.length_cons] at short
          omega
        · exact elsewhere here
        · rw [parsed] at missing
          cases missing
      · constructor
        · rintro ⟨amount, sender⟩
          rw [named] at sender
          rw [amount] at parsed
          exact ⟨items, a, u, b, more, topic, parsed, sender⟩
        · rintro ⟨items', a', u', b', more', topic', parsed', sender⟩
          obtain ⟨rfl, same⟩ := topic.inj topic'
          obtain rfl := PyValue.str.inj (List.cons.inj (List.cons.inj same).2).1
          rw [parsed] at parsed'
          exact ⟨Option.some.inj (Except.ok.inj parsed'), named ▸ sender⟩
  · have other : ∀ items rest, ¬HasActivatedTopic t log items rest :=
      fun items rest here => topic ⟨items, rest, here⟩
    refine .inr (.inr ⟨?_, ?_, readLog_other other done⟩)
    · rintro ⟨items, rest, here, -⟩
      exact other items rest here
    · rintro ⟨items, rest, here, -⟩
      exact other items rest here

theorem scan_cons {rest : List PyValue} : scan t i s (log :: rest) = .ok s' ↔
    ∃ f, readLog t i log = .ok f ∧ scan t i (s.note f) rest = .ok s' :=
  bind_ok

theorem note_reasons (finding : Finding) :
    (s.note finding).reasons = [] ↔ s.reasons = [] ∧ ∀ reason, finding ≠ .flaw reason := by
  cases finding with
  | flaw reason =>
    constructor
    · intro none
      exact absurd none (List.append_ne_nil_of_right_ne_nil _ (List.cons_ne_nil reason []))
    · rintro ⟨-, other⟩
      exact absurd rfl (other reason)
  | _ => simp [Scan.note]

/-- A reason that was noted stays. -/
theorem scan_reasons (done : scan t i s logs = .ok s') (none : s'.reasons = []) : s.reasons = [] := by
  induction logs generalizing s with
  | nil =>
    rwa [Except.ok.inj done]
  | cons log rest ih =>
    obtain ⟨f, -, done⟩ := scan_cons.mp done
    exact ((note_reasons f).mp (ih done)).1

theorem scan_returns : (∃ s', scan t i s logs = .ok s') ↔ ∀ log ∈ logs, Readable t i log := by
  induction logs generalizing s with
  | nil =>
    constructor
    · rintro - log mem
      cases mem
    · rintro -
      exact ⟨s, rfl⟩
  | cons log rest ih =>
    rw [List.forall_mem_cons, ← readLog_ok]
    constructor
    · rintro ⟨s', done⟩
      obtain ⟨f, read, done⟩ := scan_cons.mp done
      exact ⟨⟨f, read⟩, ih.mp ⟨s', done⟩⟩
    · rintro ⟨⟨f, read⟩, readable⟩
      obtain ⟨s', done⟩ := ih.mpr readable
      exact ⟨s', scan_cons.mpr ⟨f, read, done⟩⟩

/-- The last event of the contract names the sender and the amount. -/
def LastNames (t : TextRules) (expectedSender : String) (amount : Nat) (logs : List PyValue) : Prop :=
  ∃ before log after, logs = before ++ log :: after ∧ IsActivated t log ∧
    Names t log expectedSender amount ∧ ∀ later ∈ after, ¬IsActivated t later

theorem lastNames_cons {amount : Nat} {rest : List PyValue} :
    LastNames t expectedSender amount (log :: rest) ↔ LastNames t expectedSender amount rest ∨
      (IsActivated t log ∧ Names t log expectedSender amount ∧ ∀ later ∈ rest, ¬IsActivated t later) := by
  constructor
  · rintro ⟨before, kept, after, same, activated, names, later⟩
    cases before with
    | nil =>
      obtain ⟨rfl, rfl⟩ := List.cons.inj same
      exact .inr ⟨activated, names, later⟩
    | cons first before =>
      obtain ⟨rfl, rfl⟩ := List.cons.inj same
      exact .inl ⟨before, kept, after, rfl, activated, names, later⟩
  · rintro (⟨before, kept, after, rfl, activated, names, later⟩ | ⟨activated, names, later⟩)
    · exact ⟨log :: before, kept, after, rfl, activated, names, later⟩
    · exact ⟨[], log, rest, rfl, activated, names, later⟩

theorem scan_clean (agrees : t.lower i.creditContract = activationContract)
    (done : scan t i s logs = .ok s') :
    s'.reasons = [] ↔ s.reasons = [] ∧ ∀ log ∈ logs, ¬Flawed t log := by
  induction logs generalizing s with
  | nil =>
    rw [Except.ok.inj done]
    exact ⟨fun none => ⟨none, List.forall_mem_nil _⟩, And.left⟩
  | cons log rest ih =>
    obtain ⟨f, read, done⟩ := scan_cons.mp done
    have noted : (∀ reason, f ≠ .flaw reason) ↔ ¬Flawed t log := by
      rcases readLog_finding agrees read with
        ⟨flawed, reason, rfl⟩ | ⟨sound, -, event, rfl, -⟩ | ⟨sound, -, rfl | ⟨atoms, rfl⟩⟩
      · exact ⟨fun other => absurd rfl (other reason), fun sound => absurd flawed sound⟩
      · exact ⟨fun _ => sound, fun _ _ => Finding.noConfusion⟩
      · exact ⟨fun _ => sound, fun _ _ => Finding.noConfusion⟩
      · exact ⟨fun _ => sound, fun _ _ => Finding.noConfusion⟩
    rw [ih done, note_reasons, noted, List.forall_mem_cons, and_assoc]

/-- The loop keeps the last event of the contract. -/
theorem scan_kept (agrees : t.lower i.creditContract = activationContract)
    (done : scan t i s logs = .ok s') (sound : ∀ log ∈ logs, ¬Flawed t log) :
    (∃ event, s'.activated = some event ∧ event.Agrees t i expectedSender) ↔
      LastNames t expectedSender i.amount logs ∨ ((∀ log ∈ logs, ¬IsActivated t log) ∧
        ∃ event, s.activated = some event ∧ event.Agrees t i expectedSender) := by
  induction logs generalizing s with
  | nil =>
    rw [Except.ok.inj done]
    constructor
    · intro kept
      exact .inr ⟨List.forall_mem_nil _, kept⟩
    · rintro (⟨before, log, after, same, -⟩ | ⟨-, kept⟩)
      · exact absurd same (by simp)
      · exact kept
  | cons log rest ih =>
    obtain ⟨f, read, done⟩ := scan_cons.mp done
    rw [List.forall_mem_cons] at sound
    rw [ih done sound.2, lastNames_cons, List.forall_mem_cons]
    rcases readLog_finding agrees read with
      ⟨flawed, -⟩ | ⟨-, activated, event, rfl, names⟩ | ⟨-, other, skipped⟩
    · exact absurd flawed sound.1
    · have kept : (∃ e, (s.note (.activated event)).activated = some e ∧
          e.Agrees t i expectedSender) ↔ Names t log expectedSender i.amount := by
        rw [← names expectedSender]
        simp [Scan.note]
      rw [kept]
      constructor
      · rintro (last | ⟨later, named⟩)
        · exact .inl (.inl last)
        · exact .inl (.inr ⟨activated, named, later⟩)
      · rintro ((last | ⟨-, named, later⟩) | ⟨⟨none, -⟩, -⟩)
        · exact .inl last
        · exact .inr ⟨later, named⟩
        · exact absurd activated none
    · have same : (s.note f).activated = s.activated := by
        rcases skipped with rfl | ⟨atoms, rfl⟩
        · rfl
        · rfl
      rw [same]
      constructor
      · rintro (last | ⟨later, kept⟩)
        · exact .inl (.inl last)
        · exact .inr ⟨⟨other, later⟩, kept⟩
      · rintro ((last | ⟨activated, -⟩) | ⟨⟨-, later⟩, kept⟩)
        · exact .inl last
        · exact absurd activated other
        · exact .inr ⟨later, kept⟩

end Scans

section Verdicts
variable (t : TextRules) (i : OrbioCreditActivationIntent) (chainId : Int)
  (receipt : List (String × PyValue)) (expectedSender : Option String)

/-- A successful receipt of the chain and the contract, which the intent names too. -/
structure Confirms : Prop where
  chain : chainId = activationChainId
  success : isSuccess (get receipt "status") = true
  recipient : t.lower (strOf t (get receipt "to")) = activationContract
  present : get receipt "to" ≠ .none ∧ get receipt "to" ≠ .str ""
  contract : t.lower i.creditContract = activationContract

/-- Two receipts that differ in the order of their logs. -/
structure Reordered (receipt receipt' : List (String × PyValue)) : Prop where
  others : ∀ key, key ≠ "logs" → receipt'.lookup key = receipt.lookup key
  logs : ∃ logs logs', receipt.lookup "logs" = some (.list logs) ∧
    receipt'.lookup "logs" = some (.list logs') ∧ logs.Perm logs'

/-- The logs of a receipt, where they can be gone through. -/
def HasLogs (logs : List PyValue) : Prop := elementsOf (get receipt "logs") = .ok logs

/-- The verifier returns, its verdict is the same in every order of the logs, and a verified
receipt is a confirmation in which every event of the contract is the expected one. -/
structure Sound : Prop where
  returns : ∃ report, verify t i chainId receipt expectedSender = .ok report
  ordered : ∀ receipt', Reordered receipt receipt' → ∀ report report',
    verify t i chainId receipt expectedSender = .ok report →
    verify t i chainId receipt' expectedSender = .ok report' → report'.result = report.result
  verified : ∀ report, verify t i chainId receipt expectedSender = .ok report →
    report.result = .verified → Confirms t i chainId receipt ∧
      ∃ sender logs, expectedSender = some sender ∧ HasLogs receipt logs ∧
        (∃ log ∈ logs, IsActivated t log) ∧
        ∀ log ∈ logs, IsActivated t log → Names t log sender i.amount

/-- Nothing in the receipt is of a type that raises, and its events do not disagree. -/
def Unambiguous (sender : String) : Prop :=
  ∃ logs, HasLogs receipt logs ∧ (∀ log ∈ logs, Readable t i log) ∧
    (Confirms t i chainId receipt → (∀ log ∈ logs, ¬Flawed t log) →
      (∀ log ∈ logs, IsActivated t log → Names t log sender i.amount) ∨
      ∀ log ∈ logs, IsActivated t log → ¬Names t log sender i.amount)

end Verdicts

section Conclusions
variable {t : TextRules} {i : OrbioCreditActivationIntent} {chainId : Int}
  {receipt : List (String × PyValue)} {sender : String} {logs : List PyValue}

theorem noteIf_nil {wrong : Prop} [Decidable wrong] {reason : String} :
    noteIf wrong reason = [] ↔ ¬wrong := by
  unfold noteIf
  split
  · simpa
  · simpa

theorem recipientReasons_nil : recipientReasons t i receipt = [] ↔
    (get receipt "to" ≠ .none ∧ get receipt "to" ≠ .str "") ∧
      t.lower (strOf t (get receipt "to")) = activationContract ∧
      t.lower (strOf t (get receipt "to")) = t.lower i.creditContract := by
  have empty (v : PyValue) : valuesEqual v (.str "") = true ↔ v = .str "" := by
    cases v <;> simp [valuesEqual, numberOf]
  unfold recipientReasons
  split
  · rename_i absent
    simp [absent]
  · rename_i present
    by_cases blank : get receipt "to" = .str ""
    · simp [blank, valuesEqual]
    · rw [if_neg fun same => blank ((empty _).mp same), List.append_eq_nil_iff, noteIf_nil, noteIf_nil,
        not_not, not_not]
      exact ⟨fun both => ⟨⟨present, blank⟩, both⟩, And.right⟩

theorem receiptReasons_nil : receiptReasons t i chainId receipt = [] ↔ Confirms t i chainId receipt := by
  unfold receiptReasons
  rw [List.append_eq_nil_iff, List.append_eq_nil_iff, List.append_eq_nil_iff, noteIf_nil, noteIf_nil,
    noteIf_nil, not_not, not_not, Bool.not_eq_false, recipientReasons_nil]
  constructor
  · rintro ⟨⟨⟨chain, success⟩, present, recipient, -⟩, contract⟩
    exact ⟨chain, success, recipient, present, contract⟩
  · intro c
    exact ⟨⟨⟨c.chain, c.success⟩, c.present, c.recipient, c.recipient.trans c.contract.symm⟩,
      c.contract⟩

theorem eventReasons_nil {event : ActivatedEvent} :
    eventReasons t i event sender = [] ↔ event.Agrees t i sender := by
  rw [eventReasons, if_neg event.named, List.append_eq_nil_iff, noteIf_nil, noteIf_nil, not_not, not_not]
  exact Iff.rfl

theorem conclude_verified {s : Scan} : (conclude t i receipt sender s).result = .verified ↔
    s.reasons = [] ∧ ∃ event, s.activated = some event ∧ event.Agrees t i sender := by
  unfold conclude
  split
  · rename_i none
    simp [none]
  · rename_i event kept
    rw [kept]
    simp [eventReasons_nil]

theorem conclude_decides (s : Scan) : (conclude t i receipt sender s).result = .verified ∨
    (conclude t i receipt sender s).result = .rejected := by
  unfold conclude
  split
  · exact .inr rfl
  · dsimp only
    split
    · exact .inl rfl
    · exact .inr rfl

theorem verify_iff (named : sender ≠ "") {report : ActivationVerificationReport} :
    verify t i chainId receipt (some sender) = .ok report ↔ ∃ logs s, HasLogs receipt logs ∧
      scan t i ⟨receiptReasons t i chainId receipt, none, none⟩ logs = .ok s ∧
      report = conclude t i receipt sender s := by
  unfold verify
  rw [Option.getD_some, if_neg named]
  constructor
  · intro done
    obtain ⟨logs, has, done⟩ := bind_ok.mp done
    obtain ⟨s, scanned, done⟩ := bind_ok.mp done
    exact ⟨logs, s, has, scanned, (Except.ok.inj done).symm⟩
  · rintro ⟨logs, s, has, scanned, rfl⟩
    exact bind_ok.mpr ⟨logs, has, bind_ok.mpr ⟨s, scanned, rfl⟩⟩

/-- A receipt is verified by the last event of the contract. -/
theorem verified_iff (named : sender ≠ "") (has : HasLogs receipt logs)
    {report : ActivationVerificationReport}
    (done : verify t i chainId receipt (some sender) = .ok report) :
    report.result = .verified ↔ Confirms t i chainId receipt ∧ (∀ log ∈ logs, ¬Flawed t log) ∧
      LastNames t sender i.amount logs := by
  obtain ⟨logs', s, has', scanned, rfl⟩ := (verify_iff named).mp done
  obtain rfl := Except.ok.inj (has.symm.trans has')
  rw [conclude_verified]
  by_cases confirms : Confirms t i chainId receipt
  · rw [scan_clean confirms.contract scanned]
    have clean := receiptReasons_nil.mpr confirms
    constructor
    · rintro ⟨⟨-, sound⟩, kept⟩
      rcases (scan_kept confirms.contract scanned sound).mp kept with last | ⟨-, _, none, -⟩
      · exact ⟨confirms, sound, last⟩
      · cases none
    · rintro ⟨-, sound, last⟩
      exact ⟨⟨clean, sound⟩, (scan_kept confirms.contract scanned sound).mpr (.inl last)⟩
  · constructor
    · rintro ⟨clean, -⟩
      exact absurd (receiptReasons_nil.mp (scan_reasons scanned clean)) confirms
    · rintro ⟨here, -⟩
      exact absurd here confirms

theorem verify_decides (named : sender ≠ "") {report : ActivationVerificationReport}
    (done : verify t i chainId receipt (some sender) = .ok report) :
    report.result = .verified ∨ report.result = .rejected := by
  obtain ⟨logs, s, -, -, rfl⟩ := (verify_iff named).mp done
  exact conclude_decides s

theorem verify_returns (named : sender ≠ "") :
    (∃ report, verify t i chainId receipt (some sender) = .ok report) ↔
      ∃ logs, HasLogs receipt logs ∧ ∀ log ∈ logs, Readable t i log := by
  constructor
  · rintro ⟨report, done⟩
    obtain ⟨logs, s, has, scanned, -⟩ := (verify_iff named).mp done
    exact ⟨logs, has, scan_returns.mp ⟨s, scanned⟩⟩
  · rintro ⟨logs, has, readable⟩
    obtain ⟨s, scanned⟩ := scan_returns.mpr readable
    exact ⟨_, (verify_iff named).mpr ⟨logs, s, has, scanned, rfl⟩⟩

variable (t i chainId receipt) in
theorem verify_unnamed {expectedSender : Option String} (unnamed : expectedSender.getD "" = "") :
    ∃ report, verify t i chainId receipt expectedSender = .ok report ∧ report.result = .rejected :=
  ⟨_, if_pos unnamed, rfl⟩

section Orders
variable {receipt' : List (String × PyValue)} {logs' : List PyValue}

theorem Reordered.get_eq (r : Reordered receipt receipt') {key : String} (other : key ≠ "logs") :
    PythonValues.get receipt' key = PythonValues.get receipt key := by
  rw [PythonValues.get, r.others key other, PythonValues.get]

theorem Reordered.confirms (r : Reordered receipt receipt') :
    Confirms t i chainId receipt' ↔ Confirms t i chainId receipt := by
  have status := r.get_eq (show "status" ≠ "logs" by decide)
  have recipient := r.get_eq (show "to" ≠ "logs" by decide)
  rw [← receiptReasons_nil, ← receiptReasons_nil]
  unfold receiptReasons recipientReasons
  rw [status, recipient]

theorem elementsOf_list (xs : List PyValue) : elementsOf (.list xs) = .ok xs := by
  cases xs with
  | nil => rfl
  | cons x xs => rfl

theorem Reordered.hasLogs (r : Reordered receipt receipt') (has : HasLogs receipt logs) :
    ∃ logs', HasLogs receipt' logs' ∧ logs.Perm logs' := by
  obtain ⟨xs, ys, here, there, perm⟩ := r.logs
  unfold HasLogs PythonValues.get at *
  rw [here, Option.getD_some, elementsOf_list] at has
  obtain rfl := Except.ok.inj has
  exact ⟨ys, by rw [there, Option.getD_some, elementsOf_list], perm⟩

/-- Logs that can be read are given as a list, unless there are none. -/
theorem lookup_logs {log : PyValue} (has : HasLogs receipt logs) (mem : log ∈ logs)
    (readable : Readable t i log) : receipt.lookup "logs" = some (.list logs) := by
  obtain ⟨items, -, isMap, -⟩ := readable
  unfold HasLogs elementsOf PythonValues.get at has
  cases found : receipt.lookup "logs" with
  | none =>
    rw [found] at has
    obtain rfl := Except.ok.inj has
    cases mem
  | some v =>
    rw [found, Option.getD_some] at has
    rcases ite_eq_iff.mp has with ⟨-, has⟩ | ⟨-, has⟩
    · cases v with
      | list xs => rw [Except.ok.inj has]
      | str u =>
        obtain rfl := Except.ok.inj has
        obtain ⟨c, -, same⟩ := List.mem_map.mp mem
        rw [isMap] at same
        cases same
      | dict entries =>
        obtain rfl := Except.ok.inj has
        obtain ⟨c, -, same⟩ := List.mem_map.mp mem
        rw [isMap] at same
        cases same
      | _ => cases has
    · obtain rfl := Except.ok.inj has
      cases mem

/-- The same receipt with its logs put into another order. -/
theorem reordered_cons (found : receipt.lookup "logs" = some (.list logs)) (perm : logs.Perm logs') :
    Reordered receipt (("logs", .list logs') :: receipt) := by
  refine ⟨fun key other => ?_, logs, logs', found, ?_, perm⟩
  · rw [List.lookup_cons, beq_false_of_ne other]
  · rfl

/-- Where all events of the contract agree, any of them will do. -/
theorem lastNames_of_all {log : PyValue} (mem : log ∈ logs) (activated : IsActivated t log)
    (all : ∀ log ∈ logs, IsActivated t log → Names t log sender i.amount) :
    LastNames t sender i.amount logs := by
  induction logs generalizing log with
  | nil => cases mem
  | cons first rest ih =>
    rw [lastNames_cons]
    rw [List.forall_mem_cons] at all
    by_cases later : ∃ log ∈ rest, IsActivated t log
    · obtain ⟨log, mem, activated⟩ := later
      exact .inl (ih mem activated all.2)
    · rcases List.mem_cons.mp mem with rfl | mem
      · exact .inr ⟨activated, all.1 activated, fun log mem here => later ⟨log, mem, here⟩⟩
      · exact absurd ⟨log, mem, activated⟩ later

/-- With an event that names the sender and the amount moved to the end, another order of
the logs is verified. -/
theorem verified_elsewhere (named : sender ≠ "") {log : PyValue} (has : HasLogs receipt logs)
    (readable : ∀ log ∈ logs, Readable t i log) (confirms : Confirms t i chainId receipt)
    (sound : ∀ log ∈ logs, ¬Flawed t log) (mem : log ∈ logs) (activated : IsActivated t log)
    (names : Names t log sender i.amount) : ∃ receipt' report', Reordered receipt receipt' ∧
      verify t i chainId receipt' (some sender) = .ok report' ∧ report'.result = .verified := by
  obtain ⟨before, after, rfl⟩ := List.append_of_mem mem
  have perm : (before ++ log :: after).Perm ((before ++ after) ++ [log]) :=
    List.perm_middle.trans (List.perm_append_singleton log _).symm
  have moved := reordered_cons (lookup_logs has mem (readable log mem)) perm
  have there : HasLogs (("logs", .list ((before ++ after) ++ [log])) :: receipt)
      ((before ++ after) ++ [log]) := elementsOf_list _
  obtain ⟨report', done⟩ : ∃ report', verify t i chainId _ (some sender) = .ok report' :=
    (verify_returns named).mpr ⟨_, there, fun log mem => readable log (perm.mem_iff.mpr mem)⟩
  refine ⟨_, report', moved, done, (verified_iff named there done).mpr ⟨moved.confirms.mpr confirms,
    fun log mem => sound log (perm.mem_iff.mpr mem), ?_⟩⟩
  exact ⟨before ++ after, log, [], rfl, activated, names, List.forall_mem_nil _⟩

theorem unambiguous_of_sound (named : sender ≠ "")
    (sound : Sound t i chainId receipt (some sender)) : Unambiguous t i chainId receipt sender := by
  obtain ⟨logs, has, readable⟩ := (verify_returns named).mp sound.returns
  refine ⟨logs, has, readable, fun confirms clean => ?_⟩
  by_cases some : ∃ log ∈ logs, IsActivated t log ∧ Names t log sender i.amount
  · obtain ⟨log, mem, activated, names⟩ := some
    obtain ⟨receipt', report', moved, done', verified'⟩ :=
      verified_elsewhere named has readable confirms clean mem activated names
    obtain ⟨report, done⟩ := sound.returns
    have verified : report.result = .verified :=
      (sound.ordered receipt' moved report report' done done').symm.trans verified'
    obtain ⟨-, sender', logs', same, has', -, all⟩ := sound.verified report done verified
    obtain rfl := Option.some.inj same
    obtain rfl := Except.ok.inj (has.symm.trans has')
    exact .inl all
  · exact .inr fun log mem activated names => some ⟨log, mem, activated, names⟩

/-- All events of the contract agree where the last one is as expected. -/
theorem agree_of_last (last : LastNames t sender i.amount logs)
    (agree : (∀ log ∈ logs, IsActivated t log → Names t log sender i.amount) ∨
      ∀ log ∈ logs, IsActivated t log → ¬Names t log sender i.amount) :
    (∃ log ∈ logs, IsActivated t log) ∧ ∀ log ∈ logs, IsActivated t log → Names t log sender i.amount := by
  obtain ⟨before, log, after, rfl, activated, names, -⟩ := last
  have mem : log ∈ before ++ log :: after := List.mem_append_right before List.mem_cons_self
  refine ⟨⟨log, mem, activated⟩, ?_⟩
  rcases agree with all | none
  · exact all
  · exact absurd names (none log mem activated)

theorem verified_perm (named : sender ≠ "") (unambiguous : Unambiguous t i chainId receipt sender)
    (r : Reordered receipt receipt') {report report' : ActivationVerificationReport}
    (done : verify t i chainId receipt (some sender) = .ok report)
    (done' : verify t i chainId receipt' (some sender) = .ok report') :
    report'.result = .verified ↔ report.result = .verified := by
  obtain ⟨logs, has, -, agree⟩ := unambiguous
  obtain ⟨logs', has', perm⟩ := r.hasLogs has
  rw [verified_iff named has done, verified_iff named has' done', r.confirms]
  have sound : (∀ log ∈ logs', ¬Flawed t log) ↔ ∀ log ∈ logs, ¬Flawed t log :=
    ⟨fun all log mem => all log (perm.mem_iff.mp mem), fun all log mem => all log (perm.mem_iff.mpr mem)⟩
  rw [sound]
  refine and_congr_right fun confirms => and_congr_right fun clean => ?_
  have agree := agree confirms clean
  constructor
  · intro last
    obtain ⟨⟨log, mem, activated⟩, all⟩ := agree_of_last last (agree.imp
      (fun all log mem => all log (perm.mem_iff.mpr mem)) (fun none log mem => none log (perm.mem_iff.mpr mem)))
    exact lastNames_of_all (perm.mem_iff.mpr mem) activated fun log mem => all log (perm.mem_iff.mp mem)
  · intro last
    obtain ⟨⟨log, mem, activated⟩, all⟩ := agree_of_last last agree
    exact lastNames_of_all (perm.mem_iff.mp mem) activated fun log mem => all log (perm.mem_iff.mpr mem)

theorem sound_of_unambiguous (named : sender ≠ "")
    (unambiguous : Unambiguous t i chainId receipt sender) :
    Sound t i chainId receipt (some sender) where
  returns := by
    obtain ⟨logs, has, readable, -⟩ := unambiguous
    exact (verify_returns named).mpr ⟨logs, has, readable⟩
  ordered receipt' r report report' done done' := by
    have same := verified_perm named unambiguous r done done'
    rcases verify_decides named done with verified | rejected
    · rw [verified, same.mpr verified]
    · rcases verify_decides named done' with verified' | rejected'
      · rw [verified', same.mp verified']
      · rw [rejected, rejected']
  verified report done verified := by
    obtain ⟨logs, has, -, agree⟩ := unambiguous
    obtain ⟨confirms, clean, last⟩ := (verified_iff named has done).mp verified
    exact ⟨confirms, sender, logs, rfl, has, agree_of_last last (agree confirms clean)⟩

end Orders

/-- The verifier is sound where nobody is expected, or where no log raises and the events of
the contract do not disagree. -/
theorem sound_iff (t : TextRules) (i : OrbioCreditActivationIntent) (chainId : Int)
    (receipt : List (String × PyValue)) (expectedSender : Option String) :
    Sound t i chainId receipt expectedSender ↔ expectedSender.getD "" = "" ∨
      Unambiguous t i chainId receipt (expectedSender.getD "") := by
  by_cases unnamed : expectedSender.getD "" = ""
  · refine iff_of_true ?_ (.inl unnamed)
    obtain ⟨report, done, rejected⟩ := verify_unnamed t i chainId receipt unnamed
    refine ⟨⟨report, done⟩, fun receipt' r first second here there => ?_, fun first here verified => ?_⟩
    · obtain ⟨report', done', rejected'⟩ := verify_unnamed t i chainId receipt' unnamed
      obtain rfl := Except.ok.inj (done.symm.trans here)
      obtain rfl := Except.ok.inj (done'.symm.trans there)
      rw [rejected, rejected']
    · obtain rfl := Except.ok.inj (done.symm.trans here)
      rw [rejected] at verified
      cases verified
  · cases expectedSender with
    | none => exact absurd rfl unnamed
    | some sender =>
      rw [Option.getD_some] at unnamed ⊢
      rw [or_iff_right unnamed]
      exact ⟨unambiguous_of_sound unnamed, sound_of_unambiguous unnamed⟩

end Conclusions

section Sample

/-- ASCII text; `lower` goes through the list of characters, which evaluates. -/
def textRules : TextRules :=
  { asciiRules (fun _ => "0.0") with lower := fun s => String.ofList (s.toList.map Char.toLower) }

def sampleIntent : OrbioCreditActivationIntent where
  tenantId := "tenant"
  organisationId := "org"
  missionId := none
  operationId := "op"
  chainId := 4663
  network := "robinhood-mainnet"
  creditContract := activationContract
  amount := 1000000
  beneficiary := none
  maxFeePerGas := 25000000000
  maxPriorityFeePerGas := 1500000000
  gasLimit := 150000
  amountCredits := 0
  idempotencyKey := "k"
  policyDecisionId := "d"
  authorizationTokenHash := "a"
  deadline := none
  positive := ActivationPolicy.oneCredit_pos

def operator : String := "0x1111111111111111111111111111111111111111"

def stranger : String := "0x000000000000000000000000abababababababababababababababababababab"

def eventLog (activationId sender data : String) : PyValue :=
  .dict [("address", .str activationContract),
    ("topics", .list [.str activatedTopic0, .str activationId, .str sender, .str "0x00"]),
    ("data", .str data)]

def ownLog : PyValue := eventLog "0x2a" operator "0xf4240"

/-- Another sender and another amount. -/
def strangersLog : PyValue := eventLog "0x2b" stranger "0x01"

/-- The right sender and amount, with an activation id that is no number. -/
def unnumberedLog : PyValue := eventLog "0xzz" operator "0xf4240"

def receiptOf (logs : List PyValue) : List (String × PyValue) :=
  [("status", .int 1), ("to", .str activationContract), ("logs", .list logs)]

/-- The verdict, unless an exception was raised. -/
def verdictOn (logs : List PyValue) : Option ActivationVerificationResult :=
  match verify textRules sampleIntent 4663 (receiptOf logs) (some operator) with
  | .ok report => some report.result
  | .error _ => none

/-- An activation id that is no number raises; an event of a stranger is passed over when the
operator's comes after it, and not when it comes before. -/
theorem strangers_event_verified : verdictOn [unnumberedLog] = none ∧
    verdictOn [strangersLog, ownLog] = some .verified ∧
    verdictOn [ownLog, strangersLog] = some .rejected ∧
    Reordered (receiptOf [strangersLog, ownLog]) (receiptOf [ownLog, strangersLog]) ∧
    IsActivated textRules strangersLog ∧
    ¬Names textRules strangersLog operator sampleIntent.amount := by
  have topic : HasActivatedTopic textRules strangersLog
      [("address", .str activationContract),
        ("topics", .list [.str activatedTopic0, .str "0x2b", .str stranger, .str "0x00"]),
        ("data", .str "0x01")] [.str "0x2b", .str stranger, .str "0x00"] := ⟨rfl, _, rfl, rfl⟩
  refine ⟨by decide +kernel, by decide +kernel, by decide +kernel, ?_, ⟨_, _, topic, by decide +kernel⟩, ?_⟩
  · refine ⟨fun key other => ?_, _, _, rfl, rfl, List.Perm.swap _ _ _⟩
    simp [receiptOf, List.lookup_cons, beq_false_of_ne other]
  · rintro ⟨items, activationId, sender, beneficiary, rest, topic', parsed, -⟩
    obtain ⟨rfl, -⟩ := topic.inj topic'
    have other : dataUint textRules (.str "0x01") = .ok (some 1) := by decide +kernel
    have amount : (1 : Int) = sampleIntent.amount :=
      Option.some.inj (Except.ok.inj (other.symm.trans parsed))
    exact absurd amount (by decide)

end Sample

end ActivationVerifier
