import KalyxMao.ColumnReading
import KalyxMao.IntentProjections

/-!
# The simulated exchange

The provider that stands in for `Exchange.buyAndActivate`. It keeps the USDG and
the credits of every organisation, and one record for each idempotency key. A
timeout hides the outcome from the caller and may settle in the background.
-/

namespace ExchangeProvider
open PythonText PythonValues PythonConversions Domain KeyedLists
open IntentProjections (lowerOf)
open ColumnReading (setItem)

inductive ProviderOutcome where
  | success
  | failure
  | timeout
  | unknown
  deriving DecidableEq

def ProviderOutcome.value : ProviderOutcome → String
  | .success => "SUCCESS"
  | .failure => "FAILURE"
  | .timeout => "TIMEOUT"
  | .unknown => "UNKNOWN"

structure SimulatedExchangeRecord where
  operationId : String
  idempotencyKey : String
  tenantId : String
  organisationId : String
  usdgSpent : Int
  creditOut : Int
  beneficiary : String
  exchangeContract : String
  outcome : ProviderOutcome
  providerReference : String
  evidenceHash : String
  activationId : String
  submissionCount : Nat := 1
  raw : List (String × PyValue)
  fingerprint : String
  chainId : PyValue
  network : PyValue

/-- `DEFAULT_FILL_RATE_BPS`. -/
def defaultFillRateBps : Int := 9800

structure ExchangeSettings where
  name : String := "orbio-exchange-simulated"
  fillRateBps : Int := defaultFillRateBps
  requirePurchaseActionType : Bool := true

/-- What the provider holds. An organisation or key that is missing counts as zero. -/
structure Exchange where
  usdg : String → Int
  credit : String → Int
  records : List SimulatedExchangeRecord
  timeoutKeys : List String
  backgroundSuccess : List String
  backgroundFailure : List String
  failureRules : List (String × String)
  submissionAttempts : String → Nat

def put {β : Type} (f : String → β) (key : String) (value : β) : String → β :=
  fun k => if k = key then value else f k

namespace Exchange

def recordOf (s : Exchange) (key : String) : Option SimulatedExchangeRecord :=
  lookupBy SimulatedExchangeRecord.idempotencyKey s.records key

/-- `self._records[key] = rec`: a key that is there keeps its place. -/
def putRecord (s : Exchange) (rec : SimulatedExchangeRecord) : Exchange :=
  { s with records := match s.recordOf rec.idempotencyKey with
      | some _ => replaceBy SimulatedExchangeRecord.idempotencyKey s.records rec
      | none => s.records ++ [rec] }

def setTimeoutRule (s : Exchange) (key : String) (executes fails : Bool) : Exchange :=
  { s with
    timeoutKeys := key :: s.timeoutKeys
    backgroundSuccess := if executes then key :: s.backgroundSuccess else s.backgroundSuccess
    backgroundFailure := if fails then key :: s.backgroundFailure else s.backgroundFailure }

def setFailureRule (s : Exchange) (key reason : String) : Exchange :=
  { s with failureRules := (key, reason) :: s.failureRules }

/-- `rules.get(key) or rules.get(op_id)`, where an empty reason fails nothing. -/
def failureReason (s : Exchange) (op : ConsequentialOperation) : String :=
  orElse (s.failureRules.lookup op.idempotencyKey) ((s.failureRules.lookup op.id).getD "")

def attempted (s : Exchange) (key : String) : Exchange :=
  { s with submissionAttempts := put s.submissionAttempts key (s.submissionAttempts key + 1) }

/-- A rule for timeouts names a key or an operation. -/
def names (rules : List String) (op : ConsequentialOperation) : Prop :=
  op.idempotencyKey ∈ rules ∨ op.id ∈ rules

instance (rules : List String) (op : ConsequentialOperation) : Decidable (names rules op) :=
  inferInstanceAs (Decidable (_ ∨ _))

end Exchange

section Settlement
variable (x : ExchangeSettings) (h : Hashing) (t : TextRules)

/-- `(params.get(a) or params.get(b) or "").lower()`. -/
def loweredField (items : List (String × PyValue)) (keys : List String) : Except PyError PyValue :=
  (lowerOf t (firstTruthy (keys.map (get items) ++ [.str ""]))).map .str

/-- `compute_operation_fingerprint`. -/
def computeOperationFingerprint (op : ConsequentialOperation) : Except PyError String := do
  let p := op.parameters
  let network ← loweredField t p ["network"]
  let exchange ← loweredField t p ["exchange_contract", "recipient"]
  let payment ← loweredField t p ["payment_token", "token_contract"]
  let credit ← loweredField t p ["credit_token"]
  let beneficiary ← loweredField t p ["beneficiary_bytes32", "beneficiary"]
  let usdgIn ← intOf t (getD p "usdg_in" (.int op.amount))
  let minCreditOut ← intOf t (getD p "min_credit_out" (.int 0))
  return h.ofJson
    [("tenant_id", .str op.tenantId), ("organisation_id", .str op.organisationId),
      ("mission_id", get p "mission_id"), ("chain_id", get p "chain_id"), ("network", network),
      ("exchange_contract", exchange), ("payment_token", payment), ("credit_token", credit),
      ("beneficiary", beneficiary), ("usdg_in", .int usdgIn),
      ("min_credit_out", .int minCreditOut),
      ("purchase_intent_hash", get p "purchase_intent_hash")]

def computeCreditOut (usdgIn : Int) : Int := usdgIn * x.fillRateBps / 10000

def computeReference (op : ConsequentialOperation) : String :=
  let payload := s!"{op.organisationId}|{op.id}|{op.idempotencyKey}|" ++
    strOf t (getD op.parameters "usdg_in" (.int 0))
  "sim-xchg-" ++ String.ofList ((h.sha256 payload).toList.take 20)

def failureRaw (op : ConsequentialOperation) (reason fingerprint : String) :
    List (String × PyValue) :=
  [("simulated", .bool true), ("error", .str reason), ("status", .str "reverted"),
    ("chain_id", get op.parameters "chain_id"), ("network", get op.parameters "network"),
    ("fingerprint", .str fingerprint)]

def failureRecord (op : ConsequentialOperation) (reason fingerprint : String) :
    SimulatedExchangeRecord where
  operationId := op.id
  idempotencyKey := op.idempotencyKey
  tenantId := op.tenantId
  organisationId := op.organisationId
  usdgSpent := 0
  creditOut := 0
  beneficiary := strOf t (getD op.parameters "beneficiary" (.str ""))
  exchangeContract := strOf t (getD op.parameters "exchange_contract" (.str ""))
  outcome := .failure
  providerReference := computeReference h t op
  evidenceHash := h.sha256 s!"fail|{computeReference h t op}|{reason}"
  activationId := ""
  raw := failureRaw op reason fingerprint
  fingerprint := fingerprint
  chainId := get op.parameters "chain_id"
  network := get op.parameters "network"

/-- `_settle_failure`, which cannot raise. -/
def settleFailure (s : Exchange) (op : ConsequentialOperation) (reason fingerprint : String) :
    Exchange × Except PyError SimulatedExchangeRecord :=
  (s.putRecord (failureRecord h t op reason fingerprint),
    .ok (failureRecord h t op reason fingerprint))

def successBeneficiary (op : ConsequentialOperation) : String :=
  strOf t (firstTruthy
    [get op.parameters "beneficiary_bytes32", get op.parameters "beneficiary", .str ""])

def successContract (op : ConsequentialOperation) : String :=
  strOf t (firstTruthy
    [get op.parameters "exchange_contract", get op.parameters "recipient", .str ""])

def activationIdOf (op : ConsequentialOperation) : String :=
  "act-" ++ h.short (computeReference h t op)

/-- The raw answer of a settled purchase, with the balances it leaves. -/
def successRaw (op : ConsequentialOperation) (creditOut usdgSpent minCreditOut : Int)
    (fingerprint : String) (usdgAfter creditAfter : Int) : List (String × PyValue) :=
  [("simulated", .bool true), ("status", .str "confirmed"), ("function", .str "buyAndActivate"),
    ("usdg_spent", .int usdgSpent), ("credit_out", .int creditOut),
    ("min_credit_out", .int minCreditOut), ("beneficiary", .str (successBeneficiary t op)),
    ("exchange_contract", .str (successContract t op)),
    ("chain_id", get op.parameters "chain_id"), ("network", get op.parameters "network"),
    ("activation_id", .str (activationIdOf h t op)),
    ("events", .list [.dict [("name", .str "Activated"),
      ("activation_id", .str (activationIdOf h t op)),
      ("beneficiary", .str (successBeneficiary t op)), ("credit_amount", .int creditOut)]]),
    ("balances", .dict [("usdg_after", .int usdgAfter), ("credit_after", .int creditAfter)]),
    ("purchase_intent_hash", get op.parameters "purchase_intent_hash"),
    ("data_payload", get op.parameters "data_payload"), ("fingerprint", .str fingerprint)]

def successRecord (op : ConsequentialOperation) (creditOut usdgSpent minCreditOut : Int)
    (fingerprint : String) (usdgAfter creditAfter : Int) : SimulatedExchangeRecord where
  operationId := op.id
  idempotencyKey := op.idempotencyKey
  tenantId := op.tenantId
  organisationId := op.organisationId
  usdgSpent := usdgSpent
  creditOut := creditOut
  beneficiary := successBeneficiary t op
  exchangeContract := successContract t op
  outcome := .success
  providerReference := computeReference h t op
  evidenceHash := h.ofJson
    [("ref", .str (computeReference h t op)), ("activation_id", .str (activationIdOf h t op)),
      ("usdg", .int usdgSpent), ("credit", .int creditOut),
      ("beneficiary", .str (successBeneficiary t op)), ("op_id", .str op.id),
      ("idem", .str op.idempotencyKey)]
  activationId := activationIdOf h t op
  raw := successRaw h t op creditOut usdgSpent minCreditOut fingerprint usdgAfter creditAfter
  fingerprint := fingerprint
  chainId := get op.parameters "chain_id"
  network := get op.parameters "network"

/-- What the organisation pays and what it is granted. -/
def Exchange.moved (s : Exchange) (organisationId : String) (creditOut usdgSpent : Int) :
    Exchange :=
  { s with
    usdg := put s.usdg organisationId (s.usdg organisationId - usdgSpent)
    credit := put s.credit organisationId (s.credit organisationId + creditOut) }

/-- `_settle_success`: the balances move before the record is built. -/
def settleSuccess (s : Exchange) (op : ConsequentialOperation) (creditOut usdgSpent : Int)
    (fingerprint : String) : Exchange × Except PyError SimulatedExchangeRecord :=
  let s := s.moved op.organisationId creditOut usdgSpent
  match intOf t (getD op.parameters "min_credit_out" (.int 0)) with
  | .error e => (s, .error e)
  | .ok minCreditOut =>
    let settled := successRecord h t op creditOut usdgSpent minCreditOut fingerprint
      (s.usdg op.organisationId) (s.credit op.organisationId)
    (s.putRecord settled, .ok settled)

/-- The economic checks and the settlement behind them, which the source writes out once
for the caller and once for the background. -/
def settleChecked (s : Exchange) (op : ConsequentialOperation) (fingerprint : String) :
    Exchange × Except PyError SimulatedExchangeRecord :=
  match intOf t (getD op.parameters "usdg_in" (.int 0)) with
  | .error e => (s, .error e)
  | .ok usdgIn =>
    match intOf t (getD op.parameters "min_credit_out" (.int 0)) with
    | .error e => (s, .error e)
    | .ok minCreditOut =>
      let available := s.usdg op.organisationId
      if usdgIn ≤ 0 then settleFailure h t s op "usdg_in must be positive" fingerprint
      else if available < usdgIn then
        settleFailure h t s op
          s!"Insufficient USDG: available={available}, required={usdgIn}" fingerprint
      else if computeCreditOut x usdgIn < minCreditOut then
        settleFailure h t s op
          s!"Slippage: credit_out={computeCreditOut x usdgIn} < min_credit_out={minCreditOut}"
          fingerprint
      else settleSuccess h t s op (computeCreditOut x usdgIn) usdgIn fingerprint

/-- What a timeout leaves to the background. -/
def settleInBackground (s : Exchange) (op : ConsequentialOperation) (fingerprint : String) :
    Exchange × Except PyError Unit :=
  if Exchange.names s.backgroundSuccess op then
    let settled := settleChecked x h t s op fingerprint
    (settled.1, settled.2.map fun _ => ())
  else if Exchange.names s.backgroundFailure op then
    ((settleFailure h t s op "Simulated background failure" fingerprint).1, .ok ())
  else (s, .ok ())

end Settlement

section Answers
variable (x : ExchangeSettings) (h : Hashing) (t : TextRules)

/-- `None if rec.outcome == SUCCESS else str(raw.get("error"))`. -/
def errorText (rec : SimulatedExchangeRecord) : Option String :=
  if rec.outcome = .success then none else some (strOf t (get rec.raw "error"))

/-- `_result_from_record`. -/
def resultFromRecord (rec : SimulatedExchangeRecord) (operationId : String) (duplicate : Bool) :
    ProviderExecutionResult where
  providerName := x.name
  operationId := operationId
  outcome := rec.outcome.value
  providerReference := some rec.providerReference
  rawResponse := setItem (setItem rec.raw ("duplicate_submission", .bool duplicate))
    ("submission_count", .int rec.submissionCount)
  errorMessage := errorText t rec
  evidenceHash := some rec.evidenceHash

/-- An answer that names no record. -/
def refusal (op : ConsequentialOperation) (outcome : ProviderOutcome)
    (raw : List (String × PyValue)) (message : String) : ProviderExecutionResult where
  providerName := x.name
  operationId := op.id
  outcome := outcome.value
  providerReference := none
  rawResponse := raw
  errorMessage := some message
  evidenceHash := none

def collision (op : ConsequentialOperation) (existing presented : String) :
    ProviderExecutionResult :=
  refusal x op .failure
    [("error", .str "idempotency_key_collision_fingerprint_mismatch"), ("simulated", .bool true),
      ("existing_fingerprint", .str existing), ("presented_fingerprint", .str presented)]
    s!"Idempotency key '{op.idempotencyKey}' collision: operation fingerprint does not match original record"

def unsupported (op : ConsequentialOperation) : ProviderExecutionResult :=
  refusal x op .failure [("error", .str "unsupported_action_type"), ("simulated", .bool true)]
    s!"Simulated exchange rejects action_type={op.actionType.value}"

def timedOut (op : ConsequentialOperation) : ProviderExecutionResult :=
  refusal x op .timeout
    [("error", .str "Simulated exchange transport timeout"), ("simulated", .bool true)]
    "Simulated exchange transport timeout"

/-- A submission under a key that has no record. -/
def executeNew (s : Exchange) (op : ConsequentialOperation) (fingerprint : String) :
    Exchange × Except PyError ProviderExecutionResult :=
  if x.requirePurchaseActionType ∧
      op.actionType ∉ [ActionType.orbioCreditPurchase, .blockchainTransaction] then
    (s, .ok (unsupported x op))
  else if Exchange.names s.timeoutKeys op then
    let settled := settleInBackground x h t s op fingerprint
    (settled.1, settled.2.map fun _ => timedOut x op)
  else
    let settled := if s.failureReason op ≠ "" then
        settleFailure h t s op (s.failureReason op) fingerprint
      else settleChecked x h t s op fingerprint
    (settled.1, settled.2.map fun rec => resultFromRecord x t rec op.id false)

/-- A replay is answered from the record if its fingerprint is the recorded one. -/
def replay (s : Exchange) (op : ConsequentialOperation) (rec : SimulatedExchangeRecord)
    (fingerprint : String) : Exchange × Except PyError ProviderExecutionResult :=
  if rec.fingerprint ≠ "" ∧ rec.fingerprint ≠ fingerprint then
    (s, .ok (collision x op rec.fingerprint fingerprint))
  else
    let counted := { rec with submissionCount := rec.submissionCount + 1 }
    (s.putRecord counted, .ok (resultFromRecord x t counted op.id true))

def execute (s : Exchange) (op : ConsequentialOperation) :
    Exchange × Except PyError ProviderExecutionResult :=
  let s := s.attempted op.idempotencyKey
  match computeOperationFingerprint h t op with
  | .error e => (s, .error e)
  | .ok fingerprint =>
    match s.recordOf op.idempotencyKey with
    | some rec => replay x t s op rec fingerprint
    | none => executeNew x h t s op fingerprint

/-- The first record with the reference, else the first with the operation's id. -/
def Exchange.named (s : Exchange) (operationId : String) (providerReference : Option String) :
    Option SimulatedExchangeRecord :=
  let reference := providerReference.getD ""
  let referenced :=
    if reference ≠ "" then s.records.find? fun r => r.providerReference = reference else none
  match referenced with
  | some rec => some rec
  | none => s.records.find? fun r => r.operationId = operationId

/-- The record that `status` answers from: the one of the key, where there is one. -/
def Exchange.reported (s : Exchange) (operationId : String)
    (idempotencyKey providerReference : Option String) : Option SimulatedExchangeRecord :=
  let key := idempotencyKey.getD ""
  if key ≠ "" ∧ (s.recordOf key).isSome then s.recordOf key
  else s.named operationId providerReference

/-- `a or b` of two values. -/
def orValue (a b : PyValue) : PyValue := if truthy a then a else b

def rawStatusOf (rec : SimulatedExchangeRecord) : List (String × PyValue) :=
  [("status", .str rec.outcome.value), ("reference", .str rec.providerReference),
    ("activation_id", .str rec.activationId), ("usdg_spent", .int rec.usdgSpent),
    ("credit_out", .int rec.creditOut), ("submission_count", .int rec.submissionCount),
    ("simulated", .bool true), ("chain_id", orValue rec.chainId (get rec.raw "chain_id")),
    ("network", orValue rec.network (get rec.raw "network")),
    ("exchange_contract", .str rec.exchangeContract), ("beneficiary", .str rec.beneficiary),
    ("purchase_intent_hash", get rec.raw "purchase_intent_hash"),
    ("fingerprint", .str rec.fingerprint)].foldl setItem rec.raw

/-- The reason of a record that did not succeed, `None` where it holds none. -/
def reasonOf (rec : SimulatedExchangeRecord) : Option String :=
  if rec.outcome = .success then none
  else
    match get rec.raw "error" with
    | .str reason => some reason
    | _ => none

def status (s : Exchange) (operationId : String) (idempotencyKey providerReference : Option String) :
    ProviderStatusResult :=
  match s.reported operationId idempotencyKey providerReference with
  | none =>
    { providerName := x.name
      operationId := operationId
      outcome := ProviderOutcome.unknown.value
      providerReference := none
      rawStatus := [("error", .str "unknown_to_exchange"), ("simulated", .bool true)]
      errorMessage := some "Operation not found in simulated exchange records"
      evidenceHash := none }
  | some rec =>
    { providerName := x.name
      operationId := operationId
      outcome := rec.outcome.value
      providerReference := some rec.providerReference
      rawStatus := rawStatusOf rec
      errorMessage := reasonOf rec
      evidenceHash := some rec.evidenceHash }

end Answers

end ExchangeProvider
