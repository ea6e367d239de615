import KalyxMao.BlockchainIntents

/-!
# From purchase intents to operations

A purchase intent is validated when it is built. Once the policy has decided on
it, the bridge projects an allowed intent to a transaction intent and writes the
parameters of the operation that executes it.
-/

namespace PurchaseBridge
open PythonText PythonValues PythonConversions Domain PurchaseVerifier PurchasePolicy
open BlockchainIntents

section Construction
variable (t : TextRules)

/-- The arguments of `OrbioPurchaseIntent(...)`, with their defaults. -/
structure PurchaseFields where
  tenantId : String
  organisationId : String
  missionId : Option String := none
  operationId : String
  chainId : Int
  network : String
  exchangeContract : String := orbioExchangeMainnet
  paymentToken : String := usdgMainnet
  creditToken : String := orbioCreditMainnet
  usdgIn : Int
  minCreditOut : Int
  beneficiary : String
  maxFills : Int := 10
  maxFeePerGas : Int := 25000000000
  maxPriorityFeePerGas : Int := 1500000000
  gasLimit : Int := 350000
  amountCredits : Int := 0
  idempotencyKey : String
  policyDecisionId : String
  authorizationTokenHash : String
  deadline : Option Int := none

def stripLower (v : String) : String := t.lower (String.ofList (strip t v.toList))

def validateContractAddress (v : String) : Except PyError String :=
  if matchesAddress (stripLower t v) then .ok (stripLower t v)
  else .error ⟨.validationError, s!"Invalid contract address: '{v}'"⟩

/-- A stripped beneficiary ends in no line break, so that the patterns match to its end. -/
def validateBeneficiary (v : String) :
    Except PyError { b : String // isHexText 40 b = true ∨ isHexText 64 b = true } :=
  if shape : isHexText 40 (stripLower t v) = true ∨ isHexText 64 (stripLower t v) = true then
    .ok ⟨stripLower t v, shape⟩
  else .error ⟨.validationError,
    s!"beneficiary must be a 0x-prefixed EVM address or bytes32; got '{v}'"⟩

/-- `OrbioPurchaseIntent.__init__`: the validators, and the bounds of the fields. -/
def newPurchaseIntent (f : PurchaseFields) : Except PyError OrbioPurchaseIntent := do
  let exchange ← validateContractAddress t f.exchangeContract
  let payment ← validateContractAddress t f.paymentToken
  let credit ← validateContractAddress t f.creditToken
  let usdgIn ← requireAtLeast "usdg_in" 0 f.usdgIn
  let minCreditOut ← requireAtLeast "min_credit_out" 0 f.minCreditOut
  let beneficiary ← validateBeneficiary t f.beneficiary
  let maxFills ← requireAtLeast "max_fills" 1 f.maxFills
  let fee ← requireAtLeast "max_fee_per_gas" 0 f.maxFeePerGas
  let priorityFee ← requireAtLeast "max_priority_fee_per_gas" 0 f.maxPriorityFeePerGas
  let gas ← requireAtLeast "gas_limit" 21000 f.gasLimit
  let credits ← requireAtLeast "amount_credits" 0 f.amountCredits
  if some_amount : ¬(usdgIn = 0 ∧ minCreditOut = 0) then
    return {
      tenantId := f.tenantId
      organisationId := f.organisationId
      missionId := f.missionId
      operationId := f.operationId
      chainId := f.chainId
      network := f.network
      exchangeContract := exchange
      paymentToken := payment
      creditToken := credit
      usdgIn := usdgIn
      minCreditOut := minCreditOut
      beneficiary := beneficiary.1
      maxFills := maxFills
      maxFeePerGas := fee
      maxPriorityFeePerGas := priorityFee
      gasLimit := gas
      amountCredits := credits
      idempotencyKey := f.idempotencyKey
      policyDecisionId := f.policyDecisionId
      authorizationTokenHash := f.authorizationTokenHash
      deadline := f.deadline
      some_amount := some_amount
      beneficiary_shape := beneficiary.2 }
  else .error ⟨.validationError, "usdg_in and min_credit_out cannot both be zero"⟩

end Construction

section Bridge
variable (r : ApprovalRules)

/-- A decision with the identifier and the time it was recorded under. -/
structure RecordedDecision extends PurchasePolicyDecision where
  decisionId : String
  evaluatedAt : String

def PurchaseDecisionResult.value : PurchaseDecisionResult → String
  | .allow => "ALLOW"
  | .deny => "DENY"
  | .humanConfirmationRequired => "HUMAN_CONFIRMATION_REQUIRED"

def texts (values : List String) : PyValue := .list (values.map .str)

def RecordedDecision.toAuditDict (d : RecordedDecision) : List (String × PyValue) :=
  [("decision_id", .str d.decisionId), ("result", .str (PurchaseDecisionResult.value d.result)),
    ("policy_id", .str d.policyId), ("policy_version", .str d.policyVersion),
    ("intent_hash", .str d.intentHash), ("reasons", texts d.reasons),
    ("denial_codes", texts d.denialCodes),
    ("requires_human_confirmation", .bool d.requiresHumanConfirmation),
    ("autonomous_usdg_ceiling", .int d.autonomousUsdgCeiling),
    ("absolute_usdg_ceiling", .int d.absoluteUsdgCeiling), ("evaluated_at", .str d.evaluatedAt)]

structure PurchasePreparation where
  purchaseIntent : OrbioPurchaseIntent
  purchaseIntentHash : String
  policyDecision : RecordedDecision
  blockchainIntent : Option BlockchainTransactionIntent
  operationParameters : List (String × PyValue)

def PurchasePreparation.isAuthorized (p : PurchasePreparation) : Prop :=
  p.policyDecision.result = .allow

instance (p : PurchasePreparation) : Decidable p.isAuthorized :=
  inferInstanceAs (Decidable (_ = _))

/-- What the operation of an allowed purchase carries. -/
def operationParameters (i : OrbioPurchaseIntent) (bc : BlockchainTransactionIntent)
    (d : RecordedDecision) : List (String × PyValue) :=
  [("recipient", .str bc.recipient), ("amount_wei", .int bc.amountWei), ("chain_id", .int bc.chainId),
    ("network", .str bc.network), ("data_payload", .str bc.dataPayload),
    ("token_contract", optionalStr bc.tokenContract), ("asset", .str bc.asset),
    ("max_fee_per_gas", .int bc.maxFeePerGas),
    ("max_priority_fee_per_gas", .int bc.maxPriorityFeePerGas), ("gas_limit", .int bc.gasLimit),
    ("mission_id", optionalStr i.missionId), ("authorization_token", .str i.authorizationTokenHash),
    ("purchase_intent_hash", .str (i.computePurchaseIntentHash r.toHashing)),
    ("usdg_in", .int i.usdgIn), ("min_credit_out", .int i.minCreditOut),
    ("beneficiary", .str i.beneficiary), ("beneficiary_bytes32", .str i.beneficiaryAsBytes32),
    ("max_fills", .int i.maxFills), ("exchange_contract", .str i.exchangeContract),
    ("payment_token", .str i.paymentToken), ("credit_token", .str i.creditToken),
    ("function", .str "buyAndActivate"), ("policy_decision", .dict d.toAuditDict)]

/-- `OrbioPurchaseBridge.prepare`, on what the policy answered. -/
def prepare (i : OrbioPurchaseIntent) (decided : Except PyError RecordedDecision) :
    Except PyError PurchasePreparation := do
  let decision ← decided
  let hash := i.computePurchaseIntentHash r.toHashing
  if decision.result ≠ .allow then return ⟨i, hash, decision, none, []⟩
  else
    let bc ← toBlockchainIntent r.text i
    return ⟨i, hash, decision, some bc, operationParameters r i bc decision⟩

def exchangeTarget (i : OrbioPurchaseIntent) : String := s!"orbio://exchange/{i.exchangeContract}"

/-- `create_operation_from_preparation`, under an identifier drawn by `uuid4`. -/
def createOperationFromPreparation (p : PurchasePreparation) (org : Organisation)
    (providerName uuidHex : String) : Except PyError ConsequentialOperation :=
  if ¬p.isAuthorized then
    let joined := ",".intercalate p.policyDecision.denialCodes
    let codes := if joined = "" then "DENIED" else joined
    .error ⟨.policyViolationError,
      s!"Orbio purchase not authorized ({PurchaseDecisionResult.value p.policyDecision.result}): {codes}"⟩
  else if p.blockchainIntent.isNone then
    .error ⟨.policyViolationError, "Missing blockchain intent projection after ALLOW"⟩
  else
    .ok
      { id := s!"cop-{uuidHex}"
        tenantId := p.purchaseIntent.tenantId
        organisationId := org.id
        proposalId := s!"prop-{p.purchaseIntent.operationId}"
        decisionId := p.policyDecision.decisionId
        idempotencyKey := p.purchaseIntent.idempotencyKey
        actionType := .orbioCreditPurchase
        target := exchangeTarget p.purchaseIntent
        parameters := p.operationParameters
        amount := p.purchaseIntent.amountCredits
        providerName := providerName
        providerReference := none
        state := .created
        errorMessage := none }

/-- `build_action_proposal`: the proposal on the way through the policy engine. -/
def buildActionProposal (i : OrbioPurchaseIntent) (proposingAgentId taskId uuidHex : String) :
    ActionProposal where
  id := s!"prop-orbio-{uuidHex}"
  taskId := taskId
  proposingAgentId := proposingAgentId
  actionType := .orbioCreditPurchase
  target := exchangeTarget i
  parameters :=
    [("chain_id", .int i.chainId), ("network", .str i.network), ("usdg_in", .int i.usdgIn),
      ("min_credit_out", .int i.minCreditOut), ("beneficiary", .str i.beneficiary),
      ("max_fills", .int i.maxFills), ("exchange_contract", .str i.exchangeContract),
      ("purchase_intent_hash", .str (i.computePurchaseIntentHash r.toHashing))]
  requestedCredits := i.amountCredits

end Bridge

section Specifications
variable {r : ApprovalRules} {i : OrbioPurchaseIntent} {p : PurchasePreparation}

/-- The numbers of a built intent are the numbers it was built from. -/
theorem newPurchaseIntent_amounts {t : TextRules} {f : PurchaseFields}
    (built : newPurchaseIntent t f = .ok i) :
    (i.usdgIn : Int) = f.usdgIn ∧ (i.amountCredits : Int) = f.amountCredits := by
  unfold newPurchaseIntent at built
  obtain ⟨exchange, -, built⟩ := bind_ok.mp built
  obtain ⟨payment, -, built⟩ := bind_ok.mp built
  obtain ⟨credit, -, built⟩ := bind_ok.mp built
  obtain ⟨usdgIn, spend, built⟩ := bind_ok.mp built
  obtain ⟨least, -, built⟩ := bind_ok.mp built
  obtain ⟨beneficiary, -, built⟩ := bind_ok.mp built
  obtain ⟨fills, -, built⟩ := bind_ok.mp built
  obtain ⟨fee, -, built⟩ := bind_ok.mp built
  obtain ⟨priority, -, built⟩ := bind_ok.mp built
  obtain ⟨gas, -, built⟩ := bind_ok.mp built
  obtain ⟨credits, escrowed, built⟩ := bind_ok.mp built
  split at built
  · rw [← Except.ok.inj built]
    exact ⟨(requireAtLeast_ok spend).symm, (requireAtLeast_ok escrowed).symm⟩
  · cases built

/-- The parameters of an allowed purchase, and an empty map for any other. -/
theorem prepare_ok {decided : Except PyError RecordedDecision}
    (prepared : prepare r i decided = .ok p) :
    p.purchaseIntent = i ∧ (p.isAuthorized → ∃ bc d, p.operationParameters = operationParameters r i bc d) := by
  unfold prepare at prepared
  obtain ⟨decision, -, prepared⟩ := bind_ok.mp prepared
  dsimp only at prepared
  split at prepared
  · rename_i refused
    obtain rfl := Except.ok.inj prepared
    exact ⟨rfl, fun allowed => absurd allowed refused⟩
  · obtain ⟨bc, -, prepared⟩ := bind_ok.mp prepared
    obtain rfl := Except.ok.inj prepared
    exact ⟨rfl, fun _ => ⟨bc, decision, rfl⟩⟩

/-- An operation is created from an allowed preparation only, with its parameters and amount. -/
theorem createOperation_ok {org : Organisation} {providerName uuidHex : String}
    {op : ConsequentialOperation}
    (created : createOperationFromPreparation p org providerName uuidHex = .ok op) :
    p.isAuthorized ∧ op.parameters = p.operationParameters ∧
      op.amount = p.purchaseIntent.amountCredits := by
  unfold createOperationFromPreparation at created
  split at created
  · cases created
  · rename_i allowed
    split at created
    · cases created
    · rw [← Except.ok.inj created]
      exact ⟨not_not.mp allowed, rfl, rfl⟩

end Specifications

end PurchaseBridge
