import KalyxMao.ActivationPolicy
import KalyxMao.PurchaseBridge

/-!
# From activation intents to operations

The bridge of the activations follows the one of the purchases. An allowed
intent is projected to a transaction on the CREDIT contract, whose calldata is
encoded from the amount, and to the parameters of the operation.
-/

namespace ActivationBridge
open PythonText PythonValues PythonConversions Domain BlockchainIntents ActivationPolicy
open PurchasePolicy (ApprovalRules matchesAddress orbioCreditMainnet)
open PurchaseVerifier (optionalStr)
open PurchaseBridge (stripLower texts)

section Construction
variable (t : TextRules)

/-- The arguments of `OrbioCreditActivationIntent(...)`, with their defaults. -/
structure ActivationFields where
  tenantId : String
  organisationId : String
  missionId : Option String := none
  operationId : String
  chainId : Int := 4663
  network : String := "robinhood-mainnet"
  creditContract : String := orbioCreditMainnet
  amount : Int
  beneficiary : Option String := none
  maxFeePerGas : Int := 25000000000
  maxPriorityFeePerGas : Int := 1500000000
  gasLimit : Int := 150000
  amountCredits : Int := 0
  idempotencyKey : String
  policyDecisionId : String
  authorizationTokenHash : String
  deadline : Option Int := none

def validateContract (v : String) : Except PyError String :=
  if matchesAddress (stripLower t v) then .ok (stripLower t v)
  else .error ⟨.validationError, s!"Invalid CREDIT contract address: '{v}'"⟩

/-- `OrbioCreditActivationIntent.__init__`: the validators, and the bounds of the fields. -/
def newActivationIntent (f : ActivationFields) : Except PyError OrbioCreditActivationIntent := do
  let contract ← validateContract t f.creditContract
  let amount ← requireAtLeast "amount" 1 f.amount
  let fee ← requireAtLeast "max_fee_per_gas" 0 f.maxFeePerGas
  let priorityFee ← requireAtLeast "max_priority_fee_per_gas" 0 f.maxPriorityFeePerGas
  let gas ← requireAtLeast "gas_limit" 21000 f.gasLimit
  let credits ← requireAtLeast "amount_credits" 0 f.amountCredits
  if positive : 0 < amount then
    return {
      tenantId := f.tenantId
      organisationId := f.organisationId
      missionId := f.missionId
      operationId := f.operationId
      chainId := f.chainId
      network := f.network
      creditContract := contract
      amount := amount
      beneficiary := f.beneficiary
      maxFeePerGas := fee
      maxPriorityFeePerGas := priorityFee
      gasLimit := gas
      amountCredits := credits
      idempotencyKey := f.idempotencyKey
      policyDecisionId := f.policyDecisionId
      authorizationTokenHash := f.authorizationTokenHash
      deadline := f.deadline
      positive := positive }
  else .error ⟨.validationError, "activation amount must be positive"⟩

end Construction

section Projection
variable (h : Hashing) (t : TextRules)

def activateSelector : String := "b260c42a"

/-- `encode_activate_calldata`. -/
def encodeActivateCalldata (amount : Nat) : Except PyError String := do
  let word ← wordOf amount
  return "0x" ++ activateSelector ++ word

/-- `OrbioCreditActivationIntent.to_blockchain_intent`. -/
def toBlockchainIntent (i : OrbioCreditActivationIntent) : Except PyError BlockchainTransactionIntent := do
  let data ← encodeActivateCalldata i.amount
  let recipient ← validateRecipient t i.creditContract
  let token ← validateTokenContract t (some i.creditContract)
  let gas ← requireGas i.gasLimit
  return {
    tenantId := i.tenantId
    organisationId := i.organisationId
    missionId := i.missionId
    operationId := i.operationId
    chainId := i.chainId
    network := i.network
    recipient := recipient
    amountWei := 0
    amountCredits := i.amountCredits
    asset := "ORBIO_CREDIT"
    tokenContract := token
    transactionType := 2
    maxFeePerGas := i.maxFeePerGas
    maxPriorityFeePerGas := i.maxPriorityFeePerGas
    gasLimit := gas.1
    dataPayload := data
    idempotencyKey := i.idempotencyKey
    policyDecisionId := i.policyDecisionId
    authorizationTokenHash := i.authorizationTokenHash
    gas_floor := BlockchainIntents.floor_of_gas gas }

/-- `OrbioCreditActivationIntent.to_operation_parameters`. -/
def toOperationParameters (i : OrbioCreditActivationIntent) : Except PyError (List (String × PyValue)) := do
  let data ← encodeActivateCalldata i.amount
  return [("recipient", .str i.creditContract), ("amount_wei", .int 0), ("chain_id", .int i.chainId),
    ("network", .str i.network), ("data_payload", .str data), ("token_contract", .str i.creditContract),
    ("asset", .str "ORBIO_CREDIT"), ("max_fee_per_gas", .int i.maxFeePerGas),
    ("max_priority_fee_per_gas", .int i.maxPriorityFeePerGas), ("gas_limit", .int i.gasLimit),
    ("mission_id", optionalStr i.missionId), ("authorization_token", .str i.authorizationTokenHash),
    ("activation_intent_hash", .str (i.computeActivationIntentHash h)),
    ("activation_amount", .int i.amount), ("credit_contract", .str i.creditContract),
    ("function", .str "activate(uint256)"), ("orbio_action", .str "credit_activate")]

end Projection

section Bridge
variable (r : ApprovalRules)

/-- A decision with the identifier and the time it was recorded under. -/
structure RecordedDecision extends ActivationPolicyDecision where
  decisionId : String
  evaluatedAt : String

def ActivationDecisionResult.value : ActivationDecisionResult → String
  | .allow => "ALLOW"
  | .deny => "DENY"
  | .humanConfirmationRequired => "HUMAN_CONFIRMATION_REQUIRED"

def RecordedDecision.toAuditDict (d : RecordedDecision) : List (String × PyValue) :=
  [("decision_id", .str d.decisionId), ("result", .str (ActivationDecisionResult.value d.result)),
    ("policy_id", .str d.policyId), ("policy_version", .str d.policyVersion),
    ("intent_hash", .str d.intentHash), ("reasons", texts d.reasons),
    ("denial_codes", texts d.denialCodes),
    ("requires_human_confirmation", .bool d.requiresHumanConfirmation),
    ("max_activation_amount", .int d.maxActivationAmount), ("evaluated_at", .str d.evaluatedAt)]

structure ActivationPreparation where
  activationIntent : OrbioCreditActivationIntent
  activationIntentHash : String
  policyDecision : RecordedDecision
  blockchainIntent : Option BlockchainTransactionIntent
  operationParameters : List (String × PyValue)

def ActivationPreparation.isAuthorized (p : ActivationPreparation) : Prop :=
  p.policyDecision.result = .allow

instance (p : ActivationPreparation) : Decidable p.isAuthorized :=
  inferInstanceAs (Decidable (_ = _))

/-- `OrbioCreditActivationBridge.prepare`, on what the policy answered. -/
def prepare (i : OrbioCreditActivationIntent) (decision : RecordedDecision) :
    Except PyError ActivationPreparation := do
  let hash := i.computeActivationIntentHash r.toHashing
  if decision.result ≠ .allow then return ⟨i, hash, decision, none, []⟩
  else
    let bc ← toBlockchainIntent r.text i
    let params ← toOperationParameters r.toHashing i
    return ⟨i, hash, decision, some bc, params ++ [("policy_decision", .dict decision.toAuditDict)]⟩

/-- `create_operation_from_preparation`, under an identifier drawn by `uuid4`. -/
def createOperationFromPreparation (p : ActivationPreparation) (org : Organisation)
    (proposalId decisionId idempotencyKey : Option String) (providerName uuidHex : String) :
    Except PyError ConsequentialOperation :=
  if ¬p.isAuthorized then
    let joined := ",".intercalate p.policyDecision.denialCodes
    let codes := if joined = "" then "DENIED" else joined
    .error ⟨.policyViolationError,
      s!"Orbio activation not authorized ({ActivationDecisionResult.value p.policyDecision.result}): {codes}"⟩
  else if p.blockchainIntent.isNone then
    .error ⟨.policyViolationError, "Missing blockchain intent after ALLOW"⟩
  else
    .ok
      { id := s!"cop-{uuidHex}"
        tenantId := p.activationIntent.tenantId
        organisationId := org.id
        proposalId := orElse proposalId s!"prop-{p.activationIntent.operationId}"
        decisionId := orElse decisionId p.policyDecision.decisionId
        idempotencyKey := orElse idempotencyKey p.activationIntent.idempotencyKey
        actionType := .orbioCreditActivation
        target := s!"orbio://credit/{p.activationIntent.creditContract}"
        parameters := p.operationParameters
        amount := p.activationIntent.amountCredits
        providerName := providerName
        providerReference := none
        state := .created
        errorMessage := none }

end Bridge

end ActivationBridge
