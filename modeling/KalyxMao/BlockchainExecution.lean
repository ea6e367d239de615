import KalyxMao.BlockchainIntents
import KalyxMao.BlockchainProvider
import KalyxMao.NonceAllocation

/-!
# Signing and broadcasting a transaction

`execute` of the settlement provider: the intent is built, a nonce allocated and
the transaction signed, then it is handed to the network and its receipt is
looked up once. What raises before the transaction is handed over leaves
`execute`, and so does what raises while a confirmed receipt is written into
evidence. The wait before the lookup is left out.
-/

namespace BlockchainExecution
open PythonText PythonValues PythonConversions Domain BlockchainProvider BlockchainIntents
open NonceAllocation
open PurchaseVerifier (isHexText optionalStr)

section Numbers

/-- Arithmetic on floats, which the number format decides. -/
structure FloatRules where
  ofInt : Int → Except PyError PyFloat
  mul : PyFloat → PyFloat → PyFloat

variable (f : FloatRules)

def unsupported (a b : PyValue) : PyError :=
  ⟨.typeError, s!"unsupported operand type(s) for *: '{typeName a}' and '{typeName b}'"⟩

/-- An `int`, or a `bool` as one. -/
def integerOf : PyValue → Option Int
  | .int i => some i
  | .bool b => some (if b then 1 else 0)
  | _ => none

def floatOf : PyValue → Option (Except PyError PyFloat)
  | .float x => some (.ok x)
  | v => (integerOf v).map f.ofInt

/-- `xs * n`. -/
def repeated (xs : List PyValue) (n : Int) : Except PyError PyValue :=
  if n < 2 ^ 63 then .ok (.list (List.replicate n.toNat xs).flatten)
  else .error ⟨.overflowError, "cannot fit 'int' into an index-sized integer"⟩

def notAFactor (v : PyValue) : PyError :=
  ⟨.typeError, s!"can't multiply sequence by non-int of type '{typeName v}'"⟩

/-- `a * b` of two values neither of which is a string. -/
def times (a b : PyValue) : Except PyError PyValue :=
  match a, b with
  | .list xs, b =>
    match integerOf b with
    | some n => repeated xs n
    | none => .error (notAFactor b)
  | a, .list ys =>
    match integerOf a with
    | some n => repeated ys n
    | none => .error (notAFactor a)
  | a, b =>
    match integerOf a, integerOf b with
    | some i, some j => .ok (.int (i * j))
    | _, _ =>
      match floatOf f a, floatOf f b with
      | some x, some y => do return .float (f.mul (← x) (← y))
      | _, _ => .error (unsupported a b)

/-- What an `Optional[int]` field reads, none where it refuses the value. -/
def wholeNumber : PyValue → Option (Option Int)
  | .none => some none
  | .float (.finite q) => if q.den = 1 ∧ -2 ^ 63 < q ∧ q < 2 ^ 63 then some (some q.num) else none
  | v => (integerOf v).map some

def requireOptionalInt (field : String) (v : PyValue) : Except PyError (Option Int) :=
  match wholeNumber v with
  | some n => .ok n
  | none => .error ⟨.validationError, s!"{field}: Input should be a valid integer"⟩

end Numbers

section Evidence
variable (t : TextRules) (f : FloatRules)

/-- `int(receipt[key], 16)` where the field is a string, else the field as it is. -/
def receiptNumber (receipt : List (String × PyValue)) (key : String) : Except PyError PyValue :=
  match get receipt key with
  | .str s => (intOfHex t s).map .int
  | v => .ok v

/-- `gas_used * eff_price`, where there are both. -/
def feeOf (gasUsed effPrice : PyValue) : Except PyError PyValue :=
  match gasUsed, effPrice with
  | .none, _ => .ok .none
  | _, .none => .ok .none
  | gasUsed, effPrice => times f gasUsed effPrice

/-- `^0x[0-9a-fA-F]{64}$` on stripped text. -/
def validateTxHash (v : String) : Except PyError String :=
  let clean := String.ofList (strip t v.toList)
  if isHexText 64 clean then .ok (t.lower clean)
  else .error ⟨.validationError, s!"Invalid EVM transaction hash: '{v}'"⟩

structure BlockchainReceiptEvidence where
  provider : String
  network : String
  chainId : Int
  transactionHash : String
  status : String
  blockNumber : Option Int
  blockHash : Option String
  gasUsed : Option Int
  effectiveGasPrice : Option Int
  networkFeeWei : Option Int
  sender : String
  recipient : String
  amountWei : Nat
  intentHash : String
  rawReceipt : List (String × PyValue)
  timestamp : String

def optionalInt (n : Option Int) : PyValue := n.elim .none .int

def BlockchainReceiptEvidence.computeEvidenceHash (h : Hashing) (e : BlockchainReceiptEvidence) :
    String :=
  h.ofJson
    [("provider", .str e.provider), ("network", .str e.network), ("chain_id", .int e.chainId),
      ("transaction_hash", .str e.transactionHash), ("status", .str e.status),
      ("block_number", optionalInt e.blockNumber), ("gas_used", optionalInt e.gasUsed),
      ("effective_gas_price", optionalInt e.effectiveGasPrice),
      ("network_fee_wei", optionalInt e.networkFeeWei), ("sender", .str (t.lower e.sender)),
      ("recipient", .str (t.lower e.recipient)), ("amount_wei", .int e.amountWei),
      ("intent_hash", .str e.intentHash)]

/-- `model_dump(mode="json")`. -/
def BlockchainReceiptEvidence.dump (e : BlockchainReceiptEvidence) : List (String × PyValue) :=
  [("provider", .str e.provider), ("network", .str e.network), ("chain_id", .int e.chainId),
    ("transaction_hash", .str e.transactionHash), ("status", .str e.status),
    ("block_number", optionalInt e.blockNumber), ("block_hash", optionalStr e.blockHash),
    ("gas_used", optionalInt e.gasUsed), ("effective_gas_price", optionalInt e.effectiveGasPrice),
    ("network_fee_wei", optionalInt e.networkFeeWei), ("sender", .str e.sender),
    ("recipient", .str e.recipient), ("amount_wei", .int e.amountWei),
    ("intent_hash", .str e.intentHash), ("raw_receipt", .dict e.rawReceipt),
    ("timestamp", .str e.timestamp)]

end Evidence

section Provider

structure BlockchainSigner where
  address : String
  signTransaction : BlockchainTransactionIntent → Int → Except PyError (List UInt8 × String)

/-- The RPC client as `execute` sees it: what each call answers in this call of `execute`. -/
structure BroadcastClient extends EvmRpcClient where
  className : String
  getTransactionCount : String → String → Except PyError Int
  sendRawTransaction : List UInt8 → Except PyError String

structure Setup where
  hashing : Hashing
  text : TextRules
  floats : FloatRules
  settings : ProviderSettings
  signer : BlockchainSigner

/-- What the provider keeps in memory, what was stored last in front. -/
structure Memory where
  nonceManager : NonceManager
  opTxHashes : List (String × String)

structure Signed where
  intent : BlockchainTransactionIntent
  raw : List UInt8
  txHash : String

variable (p : Setup) (rpc : BroadcastClient)

/-- All that `execute` does before the transaction is handed to the network. -/
def signTransaction (op : ConsequentialOperation) (m : Memory) : Except PyError Signed × Memory :=
  match buildIntent p.hashing p.text p.settings op with
  | .error exc => (.error exc, m)
  | .ok intent =>
    let (allocated, nonces) := getOrAllocateNonce p.text m.nonceManager p.signer.address
      intent.chainId op.id op.idempotencyKey (rpc.getTransactionCount p.signer.address "pending")
    match allocated with
    | .error exc => (.error exc, { m with nonceManager := nonces })
    | .ok nonce =>
      match p.signer.signTransaction intent nonce with
      | .error exc => (.error exc, { m with nonceManager := nonces })
      | .ok (raw, txHash) => (.ok ⟨intent, raw, txHash⟩,
        { nonceManager := nonces
          opTxHashes := (op.idempotencyKey, txHash) :: (op.id, txHash) :: m.opTxHashes })

def explorerUrl (isSim : Bool) (chainId : Int) (txRef : String) : PyValue :=
  if !isSim && chainId = 11155111 then .str s!"https://sepolia.etherscan.io/tx/{txRef}"
  else if !isSim && chainId = 46630 then
    .str s!"https://explorer.testnet.chain.robinhood.com/tx/{txRef}"
  else .none

/-- The evidence of a confirmed receipt. -/
def receiptEvidence (intent : BlockchainTransactionIntent) (txRef now : String)
    (receipt : List (String × PyValue)) : Except PyError BlockchainReceiptEvidence := do
  let blockNum ← receiptNumber p.text receipt "blockNumber"
  let gasUsed ← receiptNumber p.text receipt "gasUsed"
  let effPrice ← receiptNumber p.text receipt "effectiveGasPrice"
  let fee ← feeOf p.floats gasUsed effPrice
  let txHash ← validateTxHash p.text txRef
  let blockNum ← requireOptionalInt "block_number" blockNum
  let blockHash ← requireOptionalStr "block_hash" (get receipt "blockHash")
  let gasUsed ← requireOptionalInt "gas_used" gasUsed
  let effPrice ← requireOptionalInt "effective_gas_price" effPrice
  let fee ← requireOptionalInt "network_fee_wei" fee
  return {
    provider := "evm"
    network := intent.network
    chainId := intent.chainId
    transactionHash := txHash
    status := "confirmed"
    blockNumber := blockNum
    blockHash := blockHash
    gasUsed := gasUsed
    effectiveGasPrice := effPrice
    networkFeeWei := fee
    sender := p.signer.address
    recipient := intent.recipient
    amountWei := intent.amountWei
    intentHash := computeIntentHash p.hashing intent
    rawReceipt := receipt
    timestamp := now }

def ofReceipt (operationId : String) (intent : BlockchainTransactionIntent) (txRef now : String)
    (receipt : List (String × PyValue)) : Except PyError ProviderExecutionResult :=
  if receiptSucceeded (get receipt "status") then do
    let evidence ← receiptEvidence p intent txRef now receipt
    let isSim := isIn "simulated" (p.text.lower rpc.className)
    return ⟨"blockchain", operationId, outcomeSuccess, some txRef,
      evidence.dump ++ [("is_simulated", .bool isSim),
        ("explorer_url", explorerUrl isSim intent.chainId txRef)], none,
      some (evidence.computeEvidenceHash p.text p.hashing)⟩
  else .ok ⟨"blockchain", operationId, outcomeFailure, some txRef,
    [("status", .str "reverted"), ("tx_hash", .str txRef), ("raw_receipt", .dict receipt)],
    some "Transaction reverted on-chain (receipt status: 0)", some (p.hashing.ofJson receipt)⟩

/-- From `send_raw_transaction` on. -/
def broadcast (operationId now : String) (s : Signed) : Except PyError ProviderExecutionResult :=
  let intentHash := computeIntentHash p.hashing s.intent
  match rpc.sendRawTransaction s.raw with
  | .error exc => .ok ⟨"blockchain", operationId, outcomeTimeout, some s.txHash,
      [("error", .str exc.message), ("tx_hash", .str s.txHash), ("intent_hash", .str intentHash)],
      some s!"Transport error during broadcast: {exc.message}", none⟩
  | .ok broadcastTxHash =>
    let txRef := orElse (some broadcastTxHash) s.txHash
    match rpc.getTransactionReceipt txRef with
    | .ok (some receipt) => ofReceipt p rpc operationId s.intent txRef now receipt
    | _ => .ok ⟨"blockchain", operationId, outcomeTimeout, some txRef,
        [("status", .str "pending"), ("tx_hash", .str txRef), ("sender", .str p.signer.address),
          ("recipient", .str s.intent.recipient), ("intent_hash", .str intentHash)],
        some "Transaction submitted to mempool; pending on-chain confirmation", none⟩

/-- An execution: its answer, the transaction it handed to the network, if it came to that, and the
memory it leaves. -/
structure Execution where
  answer : Except PyError ProviderExecutionResult
  sent : Option Signed
  memory : Memory

def execute (now : String) (op : ConsequentialOperation) (m : Memory) : Execution :=
  match signTransaction p rpc op m with
  | (.error exc, m') => ⟨.error exc, none, m'⟩
  | (.ok s, m') => ⟨broadcast p rpc op.id now s, some s, m'⟩

end Provider

section Outcomes

/-- The number that a receipt's status stands for, if it stands for one. -/
def statusValue : PyValue → Option Int
  | .float (.finite q) => if q.den = 1 then some q.num else none
  | .str s => (intOfHex (asciiRules fun _ => "") s).toOption
  | v => integerOf v

/-- A settled outcome rests on what the receipt of the reported transaction says: success on a
status of one, failure on a status of zero. -/
structure Supported (rpc : EvmRpcClient) (outcome : String) (reference : Option String) : Prop where
  success : outcome = outcomeSuccess → ∃ txRef receipt, reference = some txRef ∧
    rpc.getTransactionReceipt txRef = .ok (some receipt) ∧
    statusValue (get receipt "status") = some 1
  failure : outcome = outcomeFailure → ∃ txRef receipt, reference = some txRef ∧
    rpc.getTransactionReceipt txRef = .ok (some receipt) ∧
    statusValue (get receipt "status") = some 0

/-- The status is one that is taken for a success, or it says zero. -/
def Definite (status : PyValue) : Prop :=
  receiptSucceeded status = true ∨ statusValue status = some 0

variable {p : Setup} {rpc : BroadcastClient} {client : EvmRpcClient} {m : Memory}
  {op : ConsequentialOperation} {receipt : List (String × PyValue)} {txRef now operationId : String}

theorem statusValue_succeeded {v : PyValue} (succeeded : receiptSucceeded v = true) :
    statusValue v = some 1 := by
  cases v with
  | int i => exact congrArg some (of_decide_eq_true succeeded)
  | bool b =>
    obtain rfl : b = true := succeeded
    rfl
  | float x =>
    obtain rfl : x = .finite 1 := of_decide_eq_true succeeded
    rfl
  | str s =>
    simp only [receiptSucceeded, Bool.or_eq_true, decide_eq_true_eq] at succeeded
    rcases succeeded with rfl | rfl
    · decide
    · decide
  | _ => cases succeeded

theorem supported_timeout {reference : Option String} : Supported client outcomeTimeout reference :=
  ⟨fun success => absurd success (by decide), fun failure => absurd failure (by decide)⟩

theorem supported_success (found : client.getTransactionReceipt txRef = .ok (some receipt))
    (succeeded : receiptSucceeded (get receipt "status") = true) :
    Supported client outcomeSuccess (some txRef) :=
  ⟨fun _ => ⟨txRef, receipt, rfl, found, statusValue_succeeded succeeded⟩,
    fun failure => absurd failure (by decide)⟩

/-- A failure is supported exactly if the receipt's status is definite. -/
theorem supported_failure (found : client.getTransactionReceipt txRef = .ok (some receipt))
    (unsuccessful : ¬receiptSucceeded (get receipt "status") = true) :
    Supported client outcomeFailure (some txRef) ↔ Definite (get receipt "status") := by
  constructor
  · intro supported
    obtain ⟨txRef', receipt', same, found', zero⟩ := supported.failure rfl
    obtain rfl := Option.some.inj same
    rw [found] at found'
    obtain rfl := Option.some.inj (Except.ok.inj found')
    exact .inr zero
  · rintro (succeeded | zero)
    · exact absurd succeeded unsuccessful
    · exact ⟨fun success => absurd success (by decide), fun _ => ⟨txRef, receipt, rfl, found, zero⟩⟩

/-- The transaction as it is looked up after the broadcast. -/
def reference (sent : String) (s : Signed) : String := orElse (some sent) s.txHash

/-- The network took the transaction, and the lookup then found its receipt. -/
structure Found (rpc : BroadcastClient) (s : Signed) (sent : String)
    (receipt : List (String × PyValue)) : Prop where
  taken : rpc.sendRawTransaction s.raw = .ok sent
  found : rpc.getTransactionReceipt (reference sent s) = .ok (some receipt)

theorem Found.unique {s : Signed} {sent sent' : String} {receipt' : List (String × PyValue)}
    (found : Found rpc s sent receipt) (found' : Found rpc s sent' receipt') :
    sent' = sent ∧ receipt' = receipt := by
  obtain rfl := Except.ok.inj (found.taken.symm.trans found'.taken)
  exact ⟨rfl, (Option.some.inj (Except.ok.inj (found.found.symm.trans found'.found))).symm⟩

/-- Evidence can be written: a hash of the right shape, and every field none or of its type. -/
structure Readable (p : Setup) (txRef : String) (receipt : List (String × PyValue)) : Prop where
  hash : isHexText 64 (String.ofList (strip p.text txRef.toList)) = true
  numbers : ∃ block gas price fee, receiptNumber p.text receipt "blockNumber" = .ok block ∧
    receiptNumber p.text receipt "gasUsed" = .ok gas ∧
    receiptNumber p.text receipt "effectiveGasPrice" = .ok price ∧
    feeOf p.floats gas price = .ok fee ∧
    ∀ v ∈ [block, gas, price, fee], (wholeNumber v).isSome
  blockHash : get receipt "blockHash" = .none ∨ ∃ s, get receipt "blockHash" = .str s

theorem requireOptionalInt_ok_iff {field : String} {v : PyValue} :
    (∃ n, requireOptionalInt field v = .ok n) ↔ (wholeNumber v).isSome := by
  unfold requireOptionalInt
  cases wholeNumber v with
  | none => exact iff_of_false (fun ⟨_, ok⟩ => by cases ok) (by simp)
  | some n => exact iff_of_true ⟨n, rfl⟩ rfl

theorem requireOptionalStr_ok_iff (field : String) {v : PyValue} :
    (∃ s, requireOptionalStr field v = .ok s) ↔ v = .none ∨ ∃ s, v = .str s := by
  constructor
  · rintro ⟨s, ok⟩
    cases v with
    | none => exact .inl rfl
    | str s' => exact .inr ⟨s', rfl⟩
    | _ => cases ok
  · rintro (rfl | ⟨s, rfl⟩)
    · exact ⟨_, rfl⟩
    · exact ⟨_, rfl⟩

theorem validateTxHash_ok_iff {t : TextRules} :
    (∃ v, validateTxHash t txRef = .ok v) ↔ isHexText 64 (String.ofList (strip t txRef.toList)) = true := by
  unfold validateTxHash
  dsimp only
  split
  · rename_i shaped
    exact iff_of_true ⟨_, rfl⟩ shaped
  · rename_i shapeless
    exact iff_of_false (fun ⟨_, ok⟩ => by cases ok) shapeless

theorem receiptEvidence_ok_iff (now : String) (intent : BlockchainTransactionIntent) :
    (∃ e, receiptEvidence p intent txRef now receipt = .ok e) ↔ Readable p txRef receipt := by
  unfold receiptEvidence
  constructor
  · rintro ⟨e, made⟩
    obtain ⟨block, blockOk, made⟩ := bind_ok.mp made
    obtain ⟨gas, gasOk, made⟩ := bind_ok.mp made
    obtain ⟨price, priceOk, made⟩ := bind_ok.mp made
    obtain ⟨fee, feeOk, made⟩ := bind_ok.mp made
    obtain ⟨hash, hashOk, made⟩ := bind_ok.mp made
    obtain ⟨block', blockOk', made⟩ := bind_ok.mp made
    obtain ⟨blockHash, blockHashOk, made⟩ := bind_ok.mp made
    obtain ⟨gas', gasOk', made⟩ := bind_ok.mp made
    obtain ⟨price', priceOk', made⟩ := bind_ok.mp made
    obtain ⟨fee', feeOk', -⟩ := bind_ok.mp made
    refine ⟨validateTxHash_ok_iff.mp ⟨hash, hashOk⟩,
      ⟨block, gas, price, fee, blockOk, gasOk, priceOk, feeOk, ?_⟩,
      (requireOptionalStr_ok_iff _).mp ⟨blockHash, blockHashOk⟩⟩
    simp only [List.forall_mem_cons, List.not_mem_nil, false_implies, implies_true, and_true]
    exact ⟨requireOptionalInt_ok_iff.mp ⟨_, blockOk'⟩, requireOptionalInt_ok_iff.mp ⟨_, gasOk'⟩,
      requireOptionalInt_ok_iff.mp ⟨_, priceOk'⟩, requireOptionalInt_ok_iff.mp ⟨_, feeOk'⟩⟩
  · rintro ⟨shaped, ⟨block, gas, price, fee, blockOk, gasOk, priceOk, feeOk, whole⟩, blockHash⟩
    obtain ⟨hash, hashOk⟩ := (validateTxHash_ok_iff (t := p.text)).mpr shaped
    obtain ⟨blockHash', blockHashOk⟩ :=
      (requireOptionalStr_ok_iff "block_hash").mpr blockHash
    have read (field : String) {v : PyValue} (mem : v ∈ [block, gas, price, fee]) :
        ∃ n, requireOptionalInt field v = .ok n := requireOptionalInt_ok_iff.mpr (whole v mem)
    obtain ⟨block', blockOk'⟩ := read "block_number" (v := block) (by simp)
    obtain ⟨gas', gasOk'⟩ := read "gas_used" (v := gas) (by simp)
    obtain ⟨price', priceOk'⟩ := read "effective_gas_price" (v := price) (by simp)
    obtain ⟨fee', feeOk'⟩ := read "network_fee_wei" (v := fee) (by simp)
    exact ⟨_, bind_ok.mpr ⟨block, blockOk, bind_ok.mpr ⟨gas, gasOk, bind_ok.mpr ⟨price, priceOk,
      bind_ok.mpr ⟨fee, feeOk, bind_ok.mpr ⟨hash, hashOk, bind_ok.mpr ⟨block', blockOk',
      bind_ok.mpr ⟨blockHash', blockHashOk, bind_ok.mpr ⟨gas', gasOk', bind_ok.mpr ⟨price', priceOk',
      bind_ok.mpr ⟨fee', feeOk', rfl⟩⟩⟩⟩⟩⟩⟩⟩⟩⟩⟩

/-- What can come of a broadcast, by the answers of the network. -/
inductive Announced (p : Setup) (rpc : BroadcastClient) (s : Signed) :
    Except PyError ProviderExecutionResult → Prop
  | lost (exc : PyError) (r : ProviderExecutionResult) (raised : rpc.sendRawTransaction s.raw = .error exc)
      (outcome : r.outcome = outcomeTimeout) (referred : r.providerReference = some s.txHash) :
      Announced p rpc s (.ok r)
  | pending (sent : String) (r : ProviderExecutionResult)
      (taken : rpc.sendRawTransaction s.raw = .ok sent)
      (absent : ∀ receipt, rpc.getTransactionReceipt (reference sent s) ≠ .ok (some receipt))
      (outcome : r.outcome = outcomeTimeout) (referred : r.providerReference = some (reference sent s)) :
      Announced p rpc s (.ok r)
  | confirmed (sent : String) (receipt : List (String × PyValue)) (r : ProviderExecutionResult)
      (found : Found rpc s sent receipt)
      (succeeded : receiptSucceeded (get receipt "status") = true)
      (readable : Readable p (reference sent s) receipt)
      (outcome : r.outcome = outcomeSuccess) (referred : r.providerReference = some (reference sent s)) :
      Announced p rpc s (.ok r)
  | unreadable (sent : String) (receipt : List (String × PyValue)) (exc : PyError)
      (found : Found rpc s sent receipt)
      (succeeded : receiptSucceeded (get receipt "status") = true)
      (garbled : ¬Readable p (reference sent s) receipt) : Announced p rpc s (.error exc)
  | reverted (sent : String) (receipt : List (String × PyValue)) (r : ProviderExecutionResult)
      (found : Found rpc s sent receipt)
      (unsuccessful : ¬receiptSucceeded (get receipt "status") = true)
      (outcome : r.outcome = outcomeFailure) (referred : r.providerReference = some (reference sent s)) :
      Announced p rpc s (.ok r)

theorem broadcast_announced (s : Signed) :
    Announced p rpc s (broadcast p rpc operationId now s) := by
  unfold broadcast
  cases taken : rpc.sendRawTransaction s.raw with
  | error exc => exact .lost exc _ taken rfl rfl
  | ok sent =>
    dsimp only
    split
    · rename_i receipt found
      unfold ofReceipt
      split
      · rename_i succeeded
        cases made : receiptEvidence p s.intent (orElse (some sent) s.txHash) now receipt with
        | error exc =>
          refine .unreadable sent receipt exc ⟨taken, found⟩ succeeded fun readable => ?_
          obtain ⟨e, ok⟩ := (receiptEvidence_ok_iff now s.intent).mpr readable
          rw [show orElse (some sent) s.txHash = reference sent s from rfl, ok] at made
          cases made
        | ok e =>
          exact .confirmed sent receipt _ ⟨taken, found⟩ succeeded
            ((receiptEvidence_ok_iff _ _).mp ⟨e, made⟩) rfl rfl
      · rename_i unsuccessful
        exact .reverted sent receipt _ ⟨taken, found⟩ unsuccessful rfl rfl
    · rename_i absent
      exact .pending sent _ taken (fun receipt found => absent receipt found) rfl rfl

/-- An execution fails before anything is handed to the network, or it hands a signed transaction
over and answers by what comes of it. -/
theorem execute_cases (p : Setup) (rpc : BroadcastClient) (now : String) (op : ConsequentialOperation)
    (m : Memory) :
    (∃ exc, (signTransaction p rpc op m).1 = .error exc ∧ (execute p rpc now op m).sent = none ∧
      (execute p rpc now op m).answer = .error exc) ∨
    (∃ s, (signTransaction p rpc op m).1 = .ok s ∧ (execute p rpc now op m).sent = some s ∧
      Announced p rpc s (execute p rpc now op m).answer) := by
  unfold execute
  rcases signTransaction p rpc op m with ⟨exc | s, m'⟩
  · exact .inl ⟨exc, rfl, rfl, rfl⟩
  · exact .inr ⟨s, rfl, rfl, broadcast_announced s⟩

/-- Executions report settled outcomes on good grounds exactly if each receipt that is found has a
definite status. -/
theorem execute_supported_iff :
    (∀ r, (execute p rpc now op m).answer = .ok r →
      Supported rpc.toEvmRpcClient r.outcome r.providerReference) ↔
    ∀ s sent receipt, (signTransaction p rpc op m).1 = .ok s → Found rpc s sent receipt →
      Definite (get receipt "status") := by
  obtain ⟨exc, refused, -, answer⟩ | ⟨s, signed, -, announced⟩ := execute_cases p rpc now op m
  · refine iff_of_true (fun r said => ?_) fun s _ _ signed => ?_
    · rw [answer] at said
      cases said
    · rw [refused] at signed
      cases signed
  · have same : (∀ s' sent receipt, (signTransaction p rpc op m).1 = .ok s' → Found rpc s' sent receipt →
        Definite (get receipt "status")) ↔
        ∀ sent receipt, Found rpc s sent receipt → Definite (get receipt "status") := by
      rw [signed]
      constructor
      · intro definite sent receipt found
        exact definite s sent receipt rfl found
      · rintro definite s' sent receipt equal found
        obtain rfl := Except.ok.inj equal
        exact definite sent receipt found
    rw [same]
    generalize (execute p rpc now op m).answer = answer at announced
    cases announced with
    | lost exc r raised outcome referred =>
      refine iff_of_true ?_ fun sent _ found => ?_
      · rintro _ ⟨rfl⟩
        rw [outcome]
        exact supported_timeout
      · have taken := found.taken
        rw [raised] at taken
        cases taken
    | pending sent r taken absent outcome referred =>
      refine iff_of_true ?_ fun sent' receipt found => ?_
      · rintro _ ⟨rfl⟩
        rw [outcome]
        exact supported_timeout
      · obtain rfl := Except.ok.inj (taken.symm.trans found.taken)
        exact absurd found.found (absent receipt)
    | confirmed sent receipt r found succeeded readable outcome referred =>
      refine iff_of_true ?_ fun sent' receipt' found' => ?_
      · rintro _ ⟨rfl⟩
        rw [outcome, referred]
        exact supported_success found.found succeeded
      · rw [(found.unique found').2]
        exact .inl succeeded
    | unreadable sent receipt exc found succeeded garbled =>
      refine iff_of_true (fun _ said => by cases said) fun sent' receipt' found' => ?_
      rw [(found.unique found').2]
      exact .inl succeeded
    | reverted sent receipt r found unsuccessful outcome referred =>
      have grounds := supported_failure found.found unsuccessful
      constructor
      · intro supported sent' receipt' found'
        rw [(found.unique found').2]
        have claimed := supported r rfl
        rw [outcome, referred] at claimed
        exact grounds.mp claimed
      · rintro definite _ ⟨rfl⟩
        rw [outcome, referred]
        exact grounds.mpr (definite sent receipt found)

/-- And so do status queries. -/
theorem status_supported_iff {h : Hashing} {opTxHashes : List (String × String)}
    {idempotencyKey providerReference : Option String} :
    (∀ r, status h client opTxHashes operationId idempotencyKey providerReference = .ok r →
      Supported client r.outcome r.providerReference) ↔
    ∀ receipt, statusTxHash opTxHashes operationId idempotencyKey providerReference ≠ "" →
      client.getTransactionReceipt
        (statusTxHash opTxHashes operationId idempotencyKey providerReference) = .ok (some receipt) →
      Definite (get receipt "status") := by
  unfold status
  generalize statusTxHash opTxHashes operationId idempotencyKey providerReference = txHash
  dsimp only
  by_cases absent : txHash = ""
  · rw [if_pos absent]
    refine iff_of_true ?_ fun _ present => absurd absent present
    rintro _ ⟨rfl⟩
    exact supported_timeout
  · rw [if_neg absent]
    cases answer : client.getTransactionReceipt txHash with
    | error exc =>
      refine iff_of_true ?_ fun _ _ found => by cases found
      rintro _ ⟨rfl⟩
      exact supported_timeout
    | ok said =>
      cases said with
      | none =>
        refine iff_of_true (fun r said => ?_) fun _ _ found => by cases found
        obtain ⟨txData, -, said⟩ := bind_ok.mp said
        have timeout : r.outcome = outcomeTimeout := by
          split at said
          · rw [← Except.ok.inj said]
          · rw [← Except.ok.inj said]
        rw [timeout]
        exact supported_timeout
      | some receipt =>
        by_cases succeeded : receiptSucceeded (get receipt "status") = true
        · refine iff_of_true ?_ ?_
          · rintro _ ⟨rfl⟩
            unfold statusOfReceipt
            rw [if_pos succeeded]
            exact supported_success answer succeeded
          · rintro _ - ⟨rfl⟩
            exact .inl succeeded
        · have grounds := supported_failure answer succeeded
          constructor
          · rintro supported _ - ⟨rfl⟩
            have claimed := supported _ rfl
            unfold statusOfReceipt at claimed
            rw [if_neg succeeded] at claimed
            exact grounds.mp claimed
          · rintro definite _ ⟨rfl⟩
            unfold statusOfReceipt
            rw [if_neg succeeded]
            exact grounds.mpr (definite receipt absent rfl)

end Outcomes

end BlockchainExecution
