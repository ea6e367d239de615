import KalyxMao.ApprovalRegistry
import KalyxMao.PurchaseVerifier
import KalyxMao.TokenBinding
import Mathlib.Data.List.Dedup

/-!
# Deciding on purchase intents

A typed intent is compared with the configured deployments, beneficiaries and
bounds. Above the autonomous ceiling a human approval is needed; it carries a
token the policy signed and has to be in the policy's own registry.
-/

namespace PurchasePolicy
open PythonText PythonValues PythonConversions Domain PurchaseVerifier ApprovalRegistry
open TokenBinding (compareDigest compareDigest_true)

/-- The digests, clock arithmetic and text rules the policies work with. -/
structure ApprovalRules extends Hashing where
  hmac : String → String → String
  add : PyFloat → PyFloat → PyFloat
  text : TextRules

inductive PurchaseDecisionResult where
  | allow
  | deny
  | humanConfirmationRequired
  deriving DecidableEq

inductive PurchaseDenialCode where
  | unauthorizedNetwork
  | unauthorizedExchange
  | unauthorizedPaymentToken
  | unauthorizedCreditToken
  | unauthorizedBeneficiary
  | maxUsdgExceeded
  | slippageBoundInvalid
  | maxFillsExceeded
  | gasBoundExceeded
  | deadlineExpired
  | missingHumanApproval
  | humanApprovalIntentMismatch
  | humanApprovalExpired
  | humanApprovalTenantMismatch
  | unauthorizedHumanApproval
  | humanApprovalRevoked
  | unauthorizedDeployment
  deriving DecidableEq

def PurchaseDenialCode.value : PurchaseDenialCode → String
  | .unauthorizedNetwork => "UNAUTHORIZED_NETWORK"
  | .unauthorizedExchange => "UNAUTHORIZED_EXCHANGE"
  | .unauthorizedPaymentToken => "UNAUTHORIZED_PAYMENT_TOKEN"
  | .unauthorizedCreditToken => "UNAUTHORIZED_CREDIT_TOKEN"
  | .unauthorizedBeneficiary => "UNAUTHORIZED_BENEFICIARY"
  | .maxUsdgExceeded => "MAX_USDG_EXCEEDED"
  | .slippageBoundInvalid => "SLIPPAGE_BOUND_INVALID"
  | .maxFillsExceeded => "MAX_FILLS_EXCEEDED"
  | .gasBoundExceeded => "GAS_BOUND_EXCEEDED"
  | .deadlineExpired => "DEADLINE_EXPIRED"
  | .missingHumanApproval => "MISSING_HUMAN_APPROVAL"
  | .humanApprovalIntentMismatch => "HUMAN_APPROVAL_INTENT_MISMATCH"
  | .humanApprovalExpired => "HUMAN_APPROVAL_EXPIRED"
  | .humanApprovalTenantMismatch => "HUMAN_APPROVAL_TENANT_MISMATCH"
  | .unauthorizedHumanApproval => "UNAUTHORIZED_HUMAN_APPROVAL"
  | .humanApprovalRevoked => "HUMAN_APPROVAL_REVOKED"
  | .unauthorizedDeployment => "UNAUTHORIZED_DEPLOYMENT"

abbrev Denial := PurchaseDenialCode × String

section Configuration

structure OrbioDeployment where
  chainId : Int
  network : String
  exchangeContract : String
  paymentToken : String
  creditToken : String

abbrev DeploymentTuple := Int × String × String × String × String

def OrbioDeployment.toTuple (t : TextRules) (d : OrbioDeployment) : DeploymentTuple :=
  (d.chainId, t.lower d.network, t.lower d.exchangeContract, t.lower d.paymentToken,
    t.lower d.creditToken)

/-- The order in which Python sorts the tuples. -/
def tupleLE (a b : DeploymentTuple) : Bool :=
  ((compare a.1 b.1).then <| (compare a.2.1 b.2.1).then <| (compare a.2.2.1 b.2.2.1).then <|
    (compare a.2.2.2.1 b.2.2.2.1).then (compare a.2.2.2.2 b.2.2.2.2)).isLE

def orbioExchangeMainnet : String := "0x6951ffd32630b05e06f50062aea801625a58ebc0"

def orbioCreditMainnet : String := "0xe33322da1380e61e5ae5dfb21e7f62924c73004c"

def usdgMainnet : String := "0x5fc5360d0400a0fd4f2af552add042d716f1d168"

def deploymentOf (chainId : Int) (network : String) : OrbioDeployment :=
  ⟨chainId, network, orbioExchangeMainnet, usdgMainnet, orbioCreditMainnet⟩

def deploymentRobinhoodTestnet : OrbioDeployment := deploymentOf 46630 "robinhood-testnet"
def deploymentRobinhoodTestnetAlias : OrbioDeployment := deploymentOf 46630 "robinhood"
def deploymentRobinhoodMainnet : OrbioDeployment := deploymentOf 4663 "robinhood-mainnet"
def deploymentRobinhoodMainnetAlias : OrbioDeployment := deploymentOf 4663 "robinhood"

def defaultDeployments : List OrbioDeployment :=
  [deploymentRobinhoodTestnet, deploymentRobinhoodTestnetAlias, deploymentRobinhoodMainnet,
    deploymentRobinhoodMainnetAlias]

/-- What a policy is built from; `none` is an argument left out. -/
structure PurchasePolicySettings where
  deployments : Option (List OrbioDeployment) := none
  allowedChainIds : Option (List Int) := none
  allowedNetworks : Option (List String) := none
  allowedExchangeContracts : Option (List String) := none
  allowedPaymentTokens : Option (List String) := none
  allowedCreditTokens : Option (List String) := none
  allowedBeneficiaries : Option (List String) := none
  autonomousUsdgCeiling : Int := 5000000
  absoluteUsdgCeiling : Int := 25000000
  maxFills : Int := 20
  maxFeePerGas : Int := 100000000000
  maxPriorityFeePerGas : Int := 10000000000
  maxGasLimit : Int := 500000
  requireBeneficiaryAllowlist : Bool := false
  humanApprovalTtlSeconds : PyFloat := .finite 3600
  signingSecret : String

structure OrbioPurchasePolicy where
  deployments : List OrbioDeployment
  allowedChainIds : List Int
  allowedNetworks : List String
  allowedExchangeContracts : List String
  allowedPaymentTokens : List String
  allowedCreditTokens : List String
  allowedBeneficiaries : List String
  requireBeneficiaryAllowlist : Bool
  autonomousUsdgCeiling : Int
  absoluteUsdgCeiling : Int
  maxFills : Int
  maxFeePerGas : Int
  maxPriorityFeePerGas : Int
  maxGasLimit : Int
  humanApprovalTtlSeconds : PyFloat
  secret : String
  ceilings : autonomousUsdgCeiling ≤ absoluteUsdgCeiling

/-- One of the filters on the default deployments. -/
def keepAllowed {α : Type} [DecidableEq α] (part : OrbioDeployment → α) (allowed : Option (List α))
    (deployments : List OrbioDeployment) : List OrbioDeployment :=
  match allowed with
  | none => deployments
  | some values => deployments.filter fun d => part d ∈ values

def PurchasePolicySettings.chosenDeployments (t : TextRules) (s : PurchasePolicySettings) :
    List OrbioDeployment :=
  let lowered (values : Option (List String)) := values.map fun vs => vs.map t.lower
  s.deployments.getD <|
    keepAllowed (fun d => t.lower d.creditToken) (lowered s.allowedCreditTokens) <|
    keepAllowed (fun d => t.lower d.paymentToken) (lowered s.allowedPaymentTokens) <|
    keepAllowed (fun d => t.lower d.exchangeContract) (lowered s.allowedExchangeContracts) <|
    keepAllowed (fun d => t.lower d.network) (lowered s.allowedNetworks) <|
    keepAllowed (·.chainId) s.allowedChainIds defaultDeployments

/-- `OrbioPurchasePolicy.__init__`. -/
def PurchasePolicySettings.init (t : TextRules) (s : PurchasePolicySettings) :
    Except PyError OrbioPurchasePolicy :=
  let chosen := s.chosenDeployments t
  let orDeployed (values : Option (List String)) (part : OrbioDeployment → String) :=
    ((values.getD (chosen.map part)).map t.lower).dedup
  if fits : s.autonomousUsdgCeiling ≤ s.absoluteUsdgCeiling then
    .ok
      { deployments := chosen
        allowedChainIds := (s.allowedChainIds.getD (chosen.map (·.chainId))).dedup
        allowedNetworks := orDeployed s.allowedNetworks (·.network)
        allowedExchangeContracts := orDeployed s.allowedExchangeContracts (·.exchangeContract)
        allowedPaymentTokens := orDeployed s.allowedPaymentTokens (·.paymentToken)
        allowedCreditTokens := orDeployed s.allowedCreditTokens (·.creditToken)
        allowedBeneficiaries := ((s.allowedBeneficiaries.getD []).map t.lower).dedup
        requireBeneficiaryAllowlist := s.requireBeneficiaryAllowlist
        autonomousUsdgCeiling := s.autonomousUsdgCeiling
        absoluteUsdgCeiling := s.absoluteUsdgCeiling
        maxFills := s.maxFills
        maxFeePerGas := s.maxFeePerGas
        maxPriorityFeePerGas := s.maxPriorityFeePerGas
        maxGasLimit := s.maxGasLimit
        humanApprovalTtlSeconds := s.humanApprovalTtlSeconds
        secret := s.signingSecret
        ceilings := fits }
  else .error ⟨.valueError, "autonomous_usdg_ceiling cannot exceed absolute_usdg_ceiling"⟩

end Configuration

section Approvals

/-- Operator approval bound to a single purchase intent hash. -/
structure HumanPurchaseApproval where
  approvalId : String
  intentHash : String
  tenantId : String
  organisationId : String
  operatorId : String
  issuedAt : PyFloat
  expiresAt : PyFloat
  notes : Option String
  issuanceToken : Option String
  deriving DecidableEq

variable (r : ApprovalRules)

def floatText (f : PyFloat) : String := r.text.reprFloat f

/-- `is_valid_for`: nothing, or what speaks against the approval. -/
def HumanPurchaseApproval.isValidFor (a : HumanPurchaseApproval) (i : OrbioPurchaseIntent)
    (now : PyFloat) : Option Denial :=
  if a.expiresAt.lt now then
    some (.humanApprovalExpired,
      s!"Human approval expired at {floatText r a.expiresAt}, current time {floatText r now}")
  else if a.intentHash ≠ i.computePurchaseIntentHash r.toHashing then
    some (.humanApprovalIntentMismatch,
      "Human approval intent hash does not match current purchase intent")
  else if a.tenantId ≠ i.tenantId ∨ a.organisationId ≠ i.organisationId then
    some (.humanApprovalTenantMismatch,
      "Human approval tenant/organisation does not match purchase intent")
  else none

/-- What the issuance token signs. -/
def HumanPurchaseApproval.payload (a : HumanPurchaseApproval) : String :=
  s!"{a.approvalId}:{a.intentHash}:{a.tenantId}:{a.organisationId}:{a.operatorId}:{floatText r a.issuedAt}:{floatText r a.expiresAt}"

/-- One call of `issue_human_approval`, with the identifier `uuid4` draws in it. -/
structure IssueRequest where
  intent : OrbioPurchaseIntent
  operatorId : String
  notes : Option String
  ttlSeconds : Option PyFloat
  now : PyFloat
  uuid : String

namespace OrbioPurchasePolicy
variable (p : OrbioPurchasePolicy)

def computeIssuanceToken (a : HumanPurchaseApproval) : String := r.hmac p.secret (a.payload r)

def approvalFor (q : IssueRequest) : HumanPurchaseApproval :=
  let unsigned : HumanPurchaseApproval :=
    { approvalId := q.uuid
      intentHash := q.intent.computePurchaseIntentHash r.toHashing
      tenantId := q.intent.tenantId
      organisationId := q.intent.organisationId
      operatorId := q.operatorId
      issuedAt := q.now
      expiresAt := r.add q.now (q.ttlSeconds.getD p.humanApprovalTtlSeconds)
      notes := q.notes
      issuanceToken := none }
  { unsigned with issuanceToken := some (p.computeIssuanceToken r unsigned) }

/-- `_approvals`, `_issued_approvals` and `_revoked_approval_ids`. -/
abbrev Approvals := Registry String HumanPurchaseApproval

def issueHumanApproval (s : Approvals) (q : IssueRequest) : Approvals :=
  s.issue (·.approvalId) (·.intentHash) (p.approvalFor r q)

def revokeHumanApproval (s : Approvals) (approvalIdOrIntentHash : String) : Approvals :=
  s.revokeBoth (·.approvalId) (·.intentHash) approvalIdOrIntentHash

end OrbioPurchasePolicy

end Approvals

section Beneficiaries
variable (t : TextRules)

/-- `^0x[0-9a-fA-F]{40}$`, whose `$` also stands before a final line break. -/
def matchesAddress (s : String) : Bool :=
  isHexText 40 s ||
    (s.toList.getLast? = some '\n' && isHexText 40 (String.ofList s.toList.dropLast))

def zfill (width : Nat) (s : List Char) : List Char := List.replicate (width - s.length) '0' ++ s

def addressToBeneficiaryBytes32 (address : String) : Except PyError String :=
  let clean := t.lower (String.ofList (strip t address.toList))
  if matchesAddress clean then .ok (String.ofList ('0' :: 'x' :: zfill 64 (clean.toList.drop 2)))
  else .error ⟨.valueError, s!"Invalid beneficiary address: '{address}'"⟩

/-- The bytes32 form of an address, in lower case. -/
def loweredBytes32 (address : String) : Except PyError String :=
  (addressToBeneficiaryBytes32 t address).map t.lower

/-- The search through the allowlist for a beneficiary given as bytes32. -/
def searchAllowlist (key : String) : List String → Except PyError Bool
  | [] => .ok false
  | addr :: rest =>
    if matchesAddress addr then do
      let b32 ← loweredBytes32 t addr
      if b32 = key then return true
      searchAllowlist key rest
    else if addr = key then .ok true
    else searchAllowlist key rest

def isAllowlisted (allowed : List String) (key : String) : Except PyError Bool :=
  if key ∈ allowed then .ok true
  else if matchesAddress key then do
    let b32 ← loweredBytes32 t key
    return b32 ∈ allowed
  else searchAllowlist t key allowed

/-- The two texts are one, or one is the bytes32 form of the other. -/
def SameBeneficiary (a b : String) : Prop :=
  a = b ∨ loweredBytes32 t a = .ok b ∨ loweredBytes32 t b = .ok a

end Beneficiaries

section Evaluation
variable (r : ApprovalRules)

structure PurchasePolicyDecision where
  result : PurchaseDecisionResult
  policyId : String
  policyVersion : String
  intentHash : String
  reasons : List String
  denialCodes : List String
  requiresHumanConfirmation : Bool
  autonomousUsdgCeiling : Int
  absoluteUsdgCeiling : Int

def policyId : String := "POLICY-ORBIO-PURCHASE-01"

def tupleValue (d : DeploymentTuple) : PyValue :=
  .list [.int d.1, .str d.2.1, .str d.2.2.1, .str d.2.2.2.1, .str d.2.2.2.2]

def sortedInts (xs : List Int) : PyValue := .list ((xs.dedup.mergeSort (· ≤ ·)).map .int)

def sortedTexts (xs : List String) : PyValue := .list ((xs.dedup.mergeSort (· ≤ ·)).map .str)

namespace OrbioPurchasePolicy
variable (p : OrbioPurchasePolicy)

def allowedDeploymentTuples : List DeploymentTuple := (p.deployments.map (·.toTuple r.text)).dedup

def getPolicyVersion : String :=
  r.ofJson
    [("policy_id", .str policyId),
      ("deployments",
        .list (((p.deployments.map (·.toTuple r.text)).mergeSort tupleLE).map tupleValue)),
      ("allowed_chain_ids", sortedInts p.allowedChainIds),
      ("allowed_networks", sortedTexts p.allowedNetworks),
      ("allowed_exchange_contracts", sortedTexts p.allowedExchangeContracts),
      ("allowed_payment_tokens", sortedTexts p.allowedPaymentTokens),
      ("allowed_credit_tokens", sortedTexts p.allowedCreditTokens),
      ("allowed_beneficiaries", sortedTexts p.allowedBeneficiaries),
      ("require_beneficiary_allowlist", .bool p.requireBeneficiaryAllowlist),
      ("autonomous_usdg_ceiling", .int p.autonomousUsdgCeiling),
      ("absolute_usdg_ceiling", .int p.absoluteUsdgCeiling),
      ("max_fills", .int p.maxFills), ("max_fee_per_gas", .int p.maxFeePerGas),
      ("max_priority_fee_per_gas", .int p.maxPriorityFeePerGas),
      ("max_gas_limit", .int p.maxGasLimit)]

/-- The tuple the intent names, in lower case. -/
def intentTuple (i : OrbioPurchaseIntent) : DeploymentTuple :=
  (i.chainId, r.text.lower i.network, r.text.lower i.exchangeContract, r.text.lower i.paymentToken,
    r.text.lower i.creditToken)

/-- Only the whole tuple counts; its parts are looked at for the message. -/
def deploymentDenial (i : OrbioPurchaseIntent) : Option Denial :=
  let tuples := p.allowedDeploymentTuples r
  let tuple := intentTuple r i
  if tuple ∈ tuples then none
  else if tuple.1 ∉ tuples.map (·.1) then
    some (.unauthorizedNetwork,
      s!"chain_id {i.chainId} not in allowed set {strOf r.text (sortedInts (tuples.map (·.1)))}")
  else if tuple.2.1 ∉ tuples.map (·.2.1) then
    some (.unauthorizedNetwork,
      s!"network '{i.network}' not in allowed set {strOf r.text (sortedTexts (tuples.map (·.2.1)))}")
  else if (tuple.1, tuple.2.1) ∉ tuples.map (fun d => (d.1, d.2.1)) then
    some (.unauthorizedNetwork,
      s!"Deployment mismatch: network '{i.network}' is not valid for chain_id {i.chainId}")
  else if tuple.2.2.1 ∉ tuples.map (·.2.2.1) then
    some (.unauthorizedExchange, s!"exchange_contract '{i.exchangeContract}' is not authorized")
  else if tuple.2.2.2.1 ∉ tuples.map (·.2.2.2.1) then
    some (.unauthorizedPaymentToken, s!"payment_token '{i.paymentToken}' is not authorized")
  else if tuple.2.2.2.2 ∉ tuples.map (·.2.2.2.2) then
    some (.unauthorizedCreditToken, s!"credit_token '{i.creditToken}' is not authorized")
  else
    some (.unauthorizedDeployment,
      s!"Deployment tuple mismatch: contracts do not match deployment for chain {i.chainId} / network '{i.network}'")

def beneficiaryDenial (i : OrbioPurchaseIntent) : Except PyError (Option Denial) :=
  if p.requireBeneficiaryAllowlist ∨ p.allowedBeneficiaries ≠ [] then do
    if ← isAllowlisted r.text p.allowedBeneficiaries (r.text.lower i.beneficiary) then return none
    return some (.unauthorizedBeneficiary,
      s!"beneficiary '{i.beneficiary}' is not on the approved allowlist")
  else .ok none

def expired (deadline : Option Int) (now : PyFloat) : Bool :=
  deadline.any fun d => (PyFloat.finite d).lt now

def boundsDenial (i : OrbioPurchaseIntent) (now : PyFloat) : Option Denial :=
  if (i.usdgIn : Int) > p.absoluteUsdgCeiling then
    some (.maxUsdgExceeded, s!"usdg_in {i.usdgIn} exceeds absolute ceiling {p.absoluteUsdgCeiling}")
  else if i.minCreditOut > i.usdgIn then
    some (.slippageBoundInvalid, s!"min_credit_out ({i.minCreditOut}) exceeds usdg_in ({i.usdgIn})")
  else if i.minCreditOut ≤ 0 ∧ i.usdgIn > 0 then
    some (.slippageBoundInvalid,
      "min_credit_out must be positive when usdg_in > 0 (unbounded slippage forbidden)")
  else if (i.maxFills : Int) > p.maxFills then
    some (.maxFillsExceeded, s!"max_fills {i.maxFills} exceeds policy maximum {p.maxFills}")
  else if (i.maxFeePerGas : Int) > p.maxFeePerGas then
    some (.gasBoundExceeded, s!"max_fee_per_gas {i.maxFeePerGas} exceeds ceiling {p.maxFeePerGas}")
  else if (i.maxPriorityFeePerGas : Int) > p.maxPriorityFeePerGas then
    some (.gasBoundExceeded,
      s!"max_priority_fee_per_gas {i.maxPriorityFeePerGas} exceeds ceiling {p.maxPriorityFeePerGas}")
  else if (i.gasLimit : Int) > p.maxGasLimit then
    some (.gasBoundExceeded, s!"gas_limit {i.gasLimit} exceeds ceiling {p.maxGasLimit}")
  else if expired i.deadline now then
    some (.deadlineExpired,
      s!"purchase intent deadline {strOf r.text (i.deadline.elim .none .int)} has passed (now={floatText r now})")
  else none

def needsHuman (i : OrbioPurchaseIntent) : Prop := (i.usdgIn : Int) > p.autonomousUsdgCeiling

instance (i : OrbioPurchaseIntent) : Decidable (p.needsHuman i) :=
  inferInstanceAs (Decidable ((i.usdgIn : Int) > p.autonomousUsdgCeiling))

def approvalDenial (s : Approvals) (i : OrbioPurchaseIntent) (a : HumanPurchaseApproval)
    (now : PyFloat) : Except PyError (Option Denial) := do
  if a.approvalId ∈ s.revoked then
    return some (.humanApprovalRevoked, s!"Human approval '{a.approvalId}' has been revoked")
  let token := a.issuanceToken.getD ""
  if token = "" then
    return some (.unauthorizedHumanApproval,
      "Human approval lacks issuance token; caller-fabricated approvals are rejected")
  if !(← compareDigest token (p.computeIssuanceToken r a)) then
    return some (.unauthorizedHumanApproval,
      "Human approval issuance token signature mismatch; caller-fabricated approvals are rejected")
  if (s.issued.lookup a.approvalId).isNone then
    return some (.unauthorizedHumanApproval,
      s!"Human approval '{a.approvalId}' not found in policy issuance registry")
  return a.isValidFor r i now

def decision (i : OrbioPurchaseIntent) (result : PurchaseDecisionResult) (reasons : List String)
    (denialCodes : List PurchaseDenialCode) : PurchasePolicyDecision where
  result := result
  policyId := policyId
  policyVersion := p.getPolicyVersion r
  intentHash := i.computePurchaseIntentHash r.toHashing
  reasons := reasons
  denialCodes := denialCodes.map (·.value)
  requiresHumanConfirmation := result = .humanConfirmationRequired
  autonomousUsdgCeiling := p.autonomousUsdgCeiling
  absoluteUsdgCeiling := p.absoluteUsdgCeiling

def deny (i : OrbioPurchaseIntent) (d : Denial) : PurchasePolicyDecision :=
  p.decision r i .deny [d.2] [d.1]

/-- The approval looked at: the one supplied, else the latest one for the intent. -/
def approvalUsed (s : Approvals) (i : OrbioPurchaseIntent) (supplied : Option HumanPurchaseApproval) :
    Option HumanPurchaseApproval :=
  supplied.or (s.current.lookup (i.computePurchaseIntentHash r.toHashing))

def confirm (s : Approvals) (i : OrbioPurchaseIntent) (supplied : Option HumanPurchaseApproval)
    (now : PyFloat) : Except PyError PurchasePolicyDecision :=
  match approvalUsed r s i supplied with
  | none => .ok <| p.decision r i .humanConfirmationRequired
      [s!"usdg_in {i.usdgIn} exceeds autonomous ceiling {p.autonomousUsdgCeiling}; human confirmation required"]
      [.missingHumanApproval]
  | some a => do
    match ← p.approvalDenial r s i a now with
    | some d => return p.deny r i d
    | none =>
      let start := String.ofList ((i.computePurchaseIntentHash r.toHashing).toList.take 16)
      return p.decision r i .allow
        [s!"Human approval {a.approvalId} by {a.operatorId} accepted for intent_hash={start}…"] []

def evaluate (s : Approvals) (i : OrbioPurchaseIntent) (supplied : Option HumanPurchaseApproval)
    (now : PyFloat) : Except PyError PurchasePolicyDecision := do
  if let some d := p.deploymentDenial r i then return p.deny r i d
  if let some d ← p.beneficiaryDenial r i then return p.deny r i d
  if let some d := p.boundsDenial r i now then return p.deny r i d
  if p.needsHuman i then p.confirm r s i supplied now
  else return p.decision r i .allow ["Purchase within autonomous policy bounds"] []

end OrbioPurchasePolicy

end Evaluation

section Specifications
variable {r : ApprovalRules} {p : OrbioPurchasePolicy} {s : OrbioPurchasePolicy.Approvals}
  {i : OrbioPurchaseIntent} {supplied : Option HumanPurchaseApproval} {now : PyFloat}

/-- `is_allowed()` of a decision that is returned. -/
def Allowed (answer : Except PyError PurchasePolicyDecision) : Prop :=
  ∃ d, answer = .ok d ∧ d.result = .allow

/-- What an allowed intent has to meet, approvals aside. -/
structure OrbioPurchasePolicy.Permits (r : ApprovalRules) (p : OrbioPurchasePolicy)
    (i : OrbioPurchaseIntent) (now : PyFloat) : Prop where
  deployment : ∃ d ∈ p.deployments, d.toTuple r.text = OrbioPurchasePolicy.intentTuple r i
  beneficiary : p.requireBeneficiaryAllowlist ∨ p.allowedBeneficiaries ≠ [] →
    ∃ entry ∈ p.allowedBeneficiaries, SameBeneficiary r.text entry (r.text.lower i.beneficiary)
  slippage : 0 < i.minCreditOut ∧ i.minCreditOut ≤ i.usdgIn
  spend : (i.usdgIn : Int) ≤ p.absoluteUsdgCeiling
  fills : (i.maxFills : Int) ≤ p.maxFills
  feePerGas : (i.maxFeePerGas : Int) ≤ p.maxFeePerGas
  priorityFee : (i.maxPriorityFeePerGas : Int) ≤ p.maxPriorityFeePerGas
  gas : (i.gasLimit : Int) ≤ p.maxGasLimit
  deadline : ∀ d, i.deadline = some d → (PyFloat.finite d).lt now = false

theorem mem_allowedDeploymentTuples {tuple : DeploymentTuple} :
    tuple ∈ p.allowedDeploymentTuples r ↔ ∃ d ∈ p.deployments, d.toTuple r.text = tuple := by
  rw [OrbioPurchasePolicy.allowedDeploymentTuples, List.mem_dedup, List.mem_map]

theorem deploymentDenial_none :
    p.deploymentDenial r i = none ↔
      ∃ d ∈ p.deployments, d.toTuple r.text = OrbioPurchasePolicy.intentTuple r i := by
  unfold OrbioPurchasePolicy.deploymentDenial
  rw [← mem_allowedDeploymentTuples]
  constructor
  · intro passed
    by_contra absent
    simp only [absent, if_false] at passed
    repeat (split at passed; cases passed)
    cases passed
  · intro present
    exact if_pos present

theorem searchAllowlist_found {t : TextRules} {key : String} {allowed : List String}
    (found : searchAllowlist t key allowed = .ok true) :
    ∃ entry ∈ allowed, SameBeneficiary t entry key := by
  induction allowed with
  | nil => cases found
  | cons addr rest ih =>
    rw [searchAllowlist] at found
    have later (h : searchAllowlist t key rest = .ok true) :
        ∃ entry ∈ addr :: rest, SameBeneficiary t entry key :=
      (ih h).imp fun _ => And.imp_left (List.mem_cons_of_mem addr)
    split at found
    · obtain ⟨b32, form, found⟩ := bind_ok.mp found
      by_cases same : b32 = key
      · exact ⟨addr, List.mem_cons_self, .inr (.inl (same ▸ form))⟩
      · exact later (by simpa [same] using found)
    · split at found
      · rename_i same
        exact ⟨addr, List.mem_cons_self, .inl same⟩
      · exact later found

theorem isAllowlisted_found {t : TextRules} {key : String} {allowed : List String}
    (found : isAllowlisted t allowed key = .ok true) :
    ∃ entry ∈ allowed, SameBeneficiary t entry key := by
  rw [isAllowlisted] at found
  split at found
  · rename_i present
    exact ⟨key, present, .inl rfl⟩
  · split at found
    · obtain ⟨b32, form, found⟩ := bind_ok.mp found
      refine ⟨b32, ?_, .inr (.inr form)⟩
      simpa using Except.ok.inj found
    · exact searchAllowlist_found found

theorem beneficiaryDenial_none (passed : p.beneficiaryDenial r i = .ok none)
    (asked : p.requireBeneficiaryAllowlist ∨ p.allowedBeneficiaries ≠ []) :
    ∃ entry ∈ p.allowedBeneficiaries, SameBeneficiary r.text entry (r.text.lower i.beneficiary) := by
  rw [OrbioPurchasePolicy.beneficiaryDenial, if_pos asked] at passed
  obtain ⟨found, search, passed⟩ := bind_ok.mp passed
  cases found with
  | true => exact isAllowlisted_found search
  | false => cases passed

theorem boundsDenial_none :
    p.boundsDenial r i now = none ↔
      (i.usdgIn : Int) ≤ p.absoluteUsdgCeiling ∧ i.minCreditOut ≤ i.usdgIn ∧
      (i.minCreditOut ≤ 0 → i.usdgIn = 0) ∧ (i.maxFills : Int) ≤ p.maxFills ∧
      (i.maxFeePerGas : Int) ≤ p.maxFeePerGas ∧
      (i.maxPriorityFeePerGas : Int) ≤ p.maxPriorityFeePerGas ∧
      (i.gasLimit : Int) ≤ p.maxGasLimit ∧ OrbioPurchasePolicy.expired i.deadline now = false := by
  unfold OrbioPurchasePolicy.boundsDenial
  constructor
  · intro passed
    repeat (split at passed; cases passed)
    simp_all
  · rintro ⟨spend, slip, positive, fills, fee, priority, gas, deadline⟩
    simp only [gt_iff_lt, not_lt.mpr spend, not_lt.mpr slip, not_lt.mpr fills, not_lt.mpr fee,
      not_lt.mpr priority, not_lt.mpr gas, deadline, if_false]
    rw [if_neg]
    · rfl
    · rintro ⟨none, some⟩
      exact absurd (positive none) (Nat.pos_iff_ne_zero.mp some)

/-- The approval that opens the gate. -/
structure OrbioPurchasePolicy.Accepts (r : ApprovalRules) (p : OrbioPurchasePolicy)
    (s : Approvals) (i : OrbioPurchaseIntent) (a : HumanPurchaseApproval) (now : PyFloat) : Prop where
  unrevoked : a.approvalId ∉ s.revoked
  signed : a.issuanceToken = some (p.computeIssuanceToken r a)
  registered : (s.issued.lookup a.approvalId).isSome
  valid : a.isValidFor r i now = none

theorem approvalDenial_none {a : HumanPurchaseApproval}
    (passed : p.approvalDenial r s i a now = .ok none) : p.Accepts r s i a now := by
  unfold OrbioPurchasePolicy.approvalDenial at passed
  split at passed
  · cases passed
  · rename_i unrevoked
    dsimp only at passed
    split at passed
    · cases passed
    · rename_i present
      obtain ⟨same, compared, passed⟩ := bind_ok.mp passed
      cases same with
      | false => cases passed
      | true =>
        simp only [Bool.not_true, Bool.false_eq_true, if_false] at passed
        split at passed
        · cases passed
        · rename_i registered
          refine ⟨unrevoked, ?_, Option.isSome_iff_ne_none.mpr (by simpa using registered),
            Except.ok.inj passed⟩
          rw [← compareDigest_true compared]
          cases token : a.issuanceToken with
          | none => exact absurd (by rw [token]; rfl) present
          | some token => rfl

theorem isValidFor_none {a : HumanPurchaseApproval} :
    a.isValidFor r i now = none ↔ a.expiresAt.lt now = false ∧
      a.intentHash = i.computePurchaseIntentHash r.toHashing ∧ a.tenantId = i.tenantId ∧
      a.organisationId = i.organisationId := by
  rw [HumanPurchaseApproval.isValidFor]
  split_ifs with expired hash tenant
  · simp [expired]
  · simp [hash]
  · simp only [false_iff]
    rintro ⟨-, -, sameTenant, sameOrganisation⟩
    rcases tenant with other | other
    · exact other sameTenant
    · exact other sameOrganisation
  · rw [not_or, not_not, not_not] at tenant
    simp [expired, not_not.mp hash, tenant]

/-- Above the autonomous ceiling an intent is allowed by an approval. -/
theorem confirm_allowed (allowed : Allowed (p.confirm r s i supplied now)) :
    ∃ a, OrbioPurchasePolicy.approvalUsed r s i supplied = some a ∧ p.Accepts r s i a now := by
  obtain ⟨d, answer, allow⟩ := allowed
  rw [OrbioPurchasePolicy.confirm] at answer
  split at answer
  · rw [← Except.ok.inj answer] at allow
    cases allow
  · rename_i a used
    obtain ⟨denial, passed, answer⟩ := bind_ok.mp answer
    cases denial with
    | none => exact ⟨a, used, approvalDenial_none passed⟩
    | some denial =>
      rw [← Except.ok.inj answer] at allow
      cases allow

/-- Every way to an allowed intent. -/
theorem evaluate_allowed (allowed : Allowed (p.evaluate r s i supplied now)) :
    p.Permits r i now ∧ (p.needsHuman i →
      ∃ a, OrbioPurchasePolicy.approvalUsed r s i supplied = some a ∧ p.Accepts r s i a now) := by
  obtain ⟨d, answer, allow⟩ := allowed
  have denied (denial : Denial)
      (same : (pure (p.deny r i denial) : Except PyError _) = .ok d) : False := by
    rw [← Except.ok.inj same] at allow
    cases allow
  unfold OrbioPurchasePolicy.evaluate at answer
  cases deployment : p.deploymentDenial r i with
  | some denial => exact (denied denial (by simpa [deployment] using answer)).elim
  | none =>
    simp only [deployment] at answer
    obtain ⟨beneficiary, search, answer⟩ := bind_ok.mp answer
    cases beneficiary with
    | some denial => exact (denied denial answer).elim
    | none =>
      cases bounds : p.boundsDenial r i now with
      | some denial => exact (denied denial (by simpa [bounds] using answer)).elim
      | none =>
        simp only [bounds] at answer
        obtain ⟨spend, slip, positive, fills, fee, priority, gas, deadline⟩ := boundsDenial_none.mp bounds
        have some_amount := i.some_amount
        refine ⟨⟨deploymentDenial_none.mp deployment, beneficiaryDenial_none search,
          ⟨by omega, slip⟩, spend, fills, fee, priority, gas, fun d due => ?_⟩, fun human => ?_⟩
        · rw [OrbioPurchasePolicy.expired, due] at deadline
          exact deadline
        · rw [if_pos human] at answer
          exact confirm_allowed ⟨d, answer, allow⟩

/-- An approval that opens the gate opens it, its token being plain text. -/
theorem approvalDenial_accepts {a : HumanPurchaseApproval} (accepts : p.Accepts r s i a now)
    (ascii : TokenBinding.isAscii (p.computeIssuanceToken r a) = true)
    (present : p.computeIssuanceToken r a ≠ "") : p.approvalDenial r s i a now = .ok none := by
  have compared : compareDigest (p.computeIssuanceToken r a) (p.computeIssuanceToken r a) = .ok true := by
    rw [compareDigest, ascii, Bool.and_self, if_pos rfl, decide_eq_true rfl]
  have registered : (s.issued.lookup a.approvalId).isNone = false := by
    rw [← Option.not_isSome, accepts.registered]
    rfl
  unfold OrbioPurchasePolicy.approvalDenial
  rw [if_neg accepts.unrevoked, accepts.signed]
  simp only [Option.getD_some, present, if_false, compared, registered, accepts.valid]
  rfl

theorem evaluate_allows {a : HumanPurchaseApproval} (deployment : p.deploymentDenial r i = none)
    (beneficiary : p.beneficiaryDenial r i = .ok none) (bounds : p.boundsDenial r i now = none)
    (human : p.needsHuman i) (used : OrbioPurchasePolicy.approvalUsed r s i supplied = some a)
    (opens : p.approvalDenial r s i a now = .ok none) :
    Allowed (p.evaluate r s i supplied now) := by
  have confirmed : Allowed (p.confirm r s i supplied now) := by
    rw [OrbioPurchasePolicy.confirm, used]
    simp only [opens]
    exact ⟨_, rfl, rfl⟩
  rw [OrbioPurchasePolicy.evaluate]
  simp only [deployment, beneficiary, bounds]
  exact (if_pos human).symm ▸ confirmed

theorem payload_toList (a : HumanPurchaseApproval) : (a.payload r).toList =
    a.approvalId.toList ++ ':' :: (a.intentHash.toList ++ ':' ::
      ((a.tenantId.toList ++ ':' :: (a.organisationId.toList ++ ':' ::
        (a.operatorId.toList ++ ':' :: (floatText r a.issuedAt).toList))) ++ ':' ::
          (floatText r a.expiresAt).toList)) := by
  unfold HumanPurchaseApproval.payload
  simp only [String.toList_append, List.append_assoc, List.cons_append]
  rfl

end Specifications

end PurchasePolicy
