import KalyxMao.PurchasePolicy

/-!
# Deciding on CREDIT activations

The activation policy keeps the same kind of registry as the purchase policy.
Its human gate looks at the identifiers withdrawn and at what the approval says
of itself; neither the issuance token nor the registry is looked at.
-/

namespace ActivationPolicy
open PythonText PythonValues PythonConversions Domain ApprovalRegistry
open PurchasePolicy (ApprovalRules floatText)
open PurchaseVerifier (optionalStr)

inductive ActivationDecisionResult where
  | allow
  | deny
  | humanConfirmationRequired
  deriving DecidableEq

inductive ActivationDenialCode where
  | unauthorizedNetwork
  | unauthorizedContract
  | amountExceedsCeiling
  | amountInvalid
  | gasBoundExceeded
  | deadlineExpired
  | missingHumanApproval
  | humanApprovalIntentMismatch
  | humanApprovalExpired
  | humanApprovalTenantMismatch
  | humanApprovalRevoked
  | testnetForbidden
  | simulationForbidden
  deriving DecidableEq

def ActivationDenialCode.value : ActivationDenialCode → String
  | .unauthorizedNetwork => "UNAUTHORIZED_NETWORK"
  | .unauthorizedContract => "UNAUTHORIZED_CONTRACT"
  | .amountExceedsCeiling => "AMOUNT_EXCEEDS_CEILING"
  | .amountInvalid => "AMOUNT_INVALID"
  | .gasBoundExceeded => "GAS_BOUND_EXCEEDED"
  | .deadlineExpired => "DEADLINE_EXPIRED"
  | .missingHumanApproval => "MISSING_HUMAN_APPROVAL"
  | .humanApprovalIntentMismatch => "HUMAN_APPROVAL_INTENT_MISMATCH"
  | .humanApprovalExpired => "HUMAN_APPROVAL_EXPIRED"
  | .humanApprovalTenantMismatch => "HUMAN_APPROVAL_TENANT_MISMATCH"
  | .humanApprovalRevoked => "HUMAN_APPROVAL_REVOKED"
  | .testnetForbidden => "TESTNET_FORBIDDEN"
  | .simulationForbidden => "SIMULATION_FORBIDDEN"

abbrev Denial := ActivationDenialCode × String

/-- A validated intent; the contract is stored stripped and in lower case. -/
structure OrbioCreditActivationIntent where
  tenantId : String
  organisationId : String
  missionId : Option String
  operationId : String
  chainId : Int
  network : String
  creditContract : String
  amount : Nat
  beneficiary : Option String
  maxFeePerGas : Nat
  maxPriorityFeePerGas : Nat
  gasLimit : Nat
  amountCredits : Nat
  idempotencyKey : String
  policyDecisionId : String
  authorizationTokenHash : String
  deadline : Option Int
  positive : 0 < amount

theorem oneCredit_pos : 0 < 1000000 := by decide

def OrbioCreditActivationIntent.computeActivationIntentHash (h : Hashing)
    (i : OrbioCreditActivationIntent) : String :=
  h.ofJson
    [("tenant_id", .str i.tenantId), ("organisation_id", .str i.organisationId),
      ("mission_id", optionalStr i.missionId), ("operation_id", .str i.operationId),
      ("chain_id", .int i.chainId), ("network", .str i.network),
      ("credit_contract", .str i.creditContract), ("amount", .int i.amount),
      ("beneficiary", optionalStr i.beneficiary), ("max_fee_per_gas", .int i.maxFeePerGas),
      ("max_priority_fee_per_gas", .int i.maxPriorityFeePerGas), ("gas_limit", .int i.gasLimit),
      ("amount_credits", .int i.amountCredits), ("idempotency_key", .str i.idempotencyKey),
      ("policy_decision_id", .str i.policyDecisionId),
      ("authorization_token_hash", .str i.authorizationTokenHash),
      ("deadline", i.deadline.elim .none .int), ("function", .str "activate(uint256)")]

section Approvals

/-- Operator approval bound to one activation intent hash. -/
structure HumanActivationApproval where
  approvalId : String
  intentHash : String
  tenantId : String
  organisationId : String
  operatorId : String
  chainId : Int
  creditContract : String
  activationAmount : Int
  issuedAt : PyFloat
  expiresAt : PyFloat
  notes : Option String
  issuanceToken : Option String
  deriving DecidableEq

variable (r : ApprovalRules)

/-- `is_valid_for`: nothing, or what speaks against the approval. -/
def HumanActivationApproval.isValidFor (a : HumanActivationApproval)
    (i : OrbioCreditActivationIntent) (now : PyFloat) : Option Denial :=
  if a.expiresAt.lt now then
    some (.humanApprovalExpired, s!"Human approval expired at {floatText r a.expiresAt}")
  else if a.intentHash ≠ i.computeActivationIntentHash r.toHashing then
    some (.humanApprovalIntentMismatch,
      "Human approval intent hash does not match activation intent")
  else if a.tenantId ≠ i.tenantId ∨ a.organisationId ≠ i.organisationId then
    some (.humanApprovalTenantMismatch, "Human approval tenant/organisation mismatch")
  else if a.chainId ≠ i.chainId then
    some (.humanApprovalIntentMismatch, "Human approval chain_id mismatch")
  else if r.text.lower a.creditContract ≠ r.text.lower i.creditContract then
    some (.humanApprovalIntentMismatch, "Human approval credit_contract mismatch")
  else if a.activationAmount ≠ i.amount then
    some (.humanApprovalIntentMismatch, "Human approval activation_amount mismatch")
  else none

/-- What the issuance token signs. -/
def HumanActivationApproval.payload (a : HumanActivationApproval) : String :=
  s!"{a.approvalId}:{a.intentHash}:{a.tenantId}:{a.organisationId}:{a.operatorId}:{a.chainId}:{a.creditContract}:{a.activationAmount}:{floatText r a.issuedAt}:{floatText r a.expiresAt}"

/-- One call of `issue_human_approval`, with the identifier `uuid4` draws in it. -/
structure IssueRequest where
  intent : OrbioCreditActivationIntent
  operatorId : String
  notes : Option String
  ttlSeconds : Option PyFloat
  now : PyFloat
  uuid : String

structure OrbioCreditActivationPolicy where
  maxActivationAmount : Int
  allowedChainId : Int
  allowedNetwork : String
  allowedCreditContract : String
  maxFeePerGas : Int
  maxPriorityFeePerGas : Int
  maxGasLimit : Int
  requireHumanApproval : Bool
  humanApprovalTtlSeconds : PyFloat
  forbidTestnet : Bool
  forbidSimulation : Bool
  secret : String
  ceiling : 0 < maxActivationAmount

/-- What a policy is built from, with the defaults of the constructor. -/
structure ActivationPolicySettings where
  maxActivationAmount : Int := 1000000
  allowedChainId : Int := 4663
  allowedNetwork : String := "robinhood-mainnet"
  allowedCreditContract : String := PurchasePolicy.orbioCreditMainnet
  maxFeePerGas : Int := 100000000000
  maxPriorityFeePerGas : Int := 10000000000
  maxGasLimit : Int := 500000
  requireHumanApproval : Bool := true
  humanApprovalTtlSeconds : PyFloat := .finite 3600
  signingSecret : String
  forbidTestnet : Bool := true
  forbidSimulation : Bool := true

/-- `OrbioCreditActivationPolicy.__init__`. -/
def ActivationPolicySettings.init (t : TextRules) (s : ActivationPolicySettings) :
    Except PyError OrbioCreditActivationPolicy :=
  if positive : 0 < s.maxActivationAmount then
    .ok
      { maxActivationAmount := s.maxActivationAmount
        allowedChainId := s.allowedChainId
        allowedNetwork := t.lower s.allowedNetwork
        allowedCreditContract := t.lower s.allowedCreditContract
        maxFeePerGas := s.maxFeePerGas
        maxPriorityFeePerGas := s.maxPriorityFeePerGas
        maxGasLimit := s.maxGasLimit
        requireHumanApproval := s.requireHumanApproval
        humanApprovalTtlSeconds := s.humanApprovalTtlSeconds
        forbidTestnet := s.forbidTestnet
        forbidSimulation := s.forbidSimulation
        secret := s.signingSecret
        ceiling := positive }
  else .error ⟨.valueError, "max_activation_amount must be positive"⟩

namespace OrbioCreditActivationPolicy
variable (p : OrbioCreditActivationPolicy)

def issuanceToken (a : HumanActivationApproval) : String := r.hmac p.secret (a.payload r)

def approvalFor (q : IssueRequest) : HumanActivationApproval :=
  let unsigned : HumanActivationApproval :=
    { approvalId := q.uuid
      intentHash := q.intent.computeActivationIntentHash r.toHashing
      tenantId := q.intent.tenantId
      organisationId := q.intent.organisationId
      operatorId := q.operatorId
      chainId := q.intent.chainId
      creditContract := q.intent.creditContract
      activationAmount := q.intent.amount
      issuedAt := q.now
      expiresAt := r.add q.now (q.ttlSeconds.getD p.humanApprovalTtlSeconds)
      notes := q.notes
      issuanceToken := none }
  { unsigned with issuanceToken := some (p.issuanceToken r unsigned) }

/-- `_approvals`, `_issued` and `_revoked`. -/
abbrev Approvals := Registry String HumanActivationApproval

def issueHumanApproval (s : Approvals) (q : IssueRequest) : Approvals :=
  s.issue (·.approvalId) (·.intentHash) (p.approvalFor r q)

def revokeHumanApproval (s : Approvals) (approvalIdOrHash : String) : Approvals :=
  s.revokeFirst (·.approvalId) (·.intentHash) approvalIdOrHash

end OrbioCreditActivationPolicy

end Approvals

section Evaluation
variable (r : ApprovalRules)

structure ActivationPolicyDecision where
  result : ActivationDecisionResult
  policyId : String
  policyVersion : String
  intentHash : String
  reasons : List String
  denialCodes : List String
  requiresHumanConfirmation : Bool
  maxActivationAmount : Int

def policyId : String := "POLICY-ORBIO-ACTIVATION-01"

namespace OrbioCreditActivationPolicy
variable (p : OrbioCreditActivationPolicy)

def getPolicyVersion : String :=
  r.ofJson
    [("policy_id", .str policyId), ("max_activation_amount", .int p.maxActivationAmount),
      ("allowed_chain_id", .int p.allowedChainId), ("allowed_network", .str p.allowedNetwork),
      ("allowed_credit_contract", .str p.allowedCreditContract),
      ("require_human_approval", .bool p.requireHumanApproval),
      ("forbid_testnet", .bool p.forbidTestnet)]

def isSimulation (runtimeMode : Option String) : Bool :=
  runtimeMode.any fun mode =>
    mode ≠ "" && r.text.lower mode ∈ ["simulation", "simulated", "sim"]

/-- Everything checked before the human gate. -/
def boundsDenial (i : OrbioCreditActivationIntent) (runtimeMode : Option String) (now : PyFloat) :
    Option Denial :=
  if p.forbidTestnet ∧ i.chainId = 46630 then
    some (.testnetForbidden,
      "Robinhood testnet (46630) has no deployed Orbio contracts; activation forbidden")
  else if p.forbidTestnet ∧ i.chainId ≠ p.allowedChainId then
    some (.unauthorizedNetwork, s!"chain_id {i.chainId} not allowed; required {p.allowedChainId}")
  else if r.text.lower i.network ∉ [p.allowedNetwork, "robinhood"] ∧ i.chainId ≠ p.allowedChainId then
    some (.unauthorizedNetwork, s!"network '{i.network}' not allowed for activation")
  else if p.forbidSimulation ∧ isSimulation r runtimeMode then
    some (.simulationForbidden, "Mainnet activation cannot run under simulation runtime mode")
  else if r.text.lower i.creditContract ≠ p.allowedCreditContract then
    some (.unauthorizedContract, s!"credit_contract '{i.creditContract}' not allowlisted")
  else if i.amount ≤ 0 then some (.amountInvalid, "amount must be positive")
  else if (i.amount : Int) > p.maxActivationAmount then
    some (.amountExceedsCeiling, s!"amount {i.amount} exceeds ceiling {p.maxActivationAmount}")
  else if (i.maxFeePerGas : Int) > p.maxFeePerGas then
    some (.gasBoundExceeded, s!"max_fee_per_gas {i.maxFeePerGas} exceeds policy")
  else if (i.maxPriorityFeePerGas : Int) > p.maxPriorityFeePerGas then
    some (.gasBoundExceeded, "max_priority_fee_per_gas exceeds policy")
  else if (i.gasLimit : Int) > p.maxGasLimit then
    some (.gasBoundExceeded, s!"gas_limit {i.gasLimit} exceeds policy")
  else if i.deadline.any fun d => (PyFloat.finite d).lt now then
    some (.deadlineExpired, "activation deadline expired")
  else none

def approvalDenial (s : Approvals) (i : OrbioCreditActivationIntent) (a : HumanActivationApproval)
    (now : PyFloat) : Option Denial :=
  if a.approvalId ∈ s.revoked then some (.humanApprovalRevoked, "Human approval was revoked")
  else a.isValidFor r i now

def decision (i : OrbioCreditActivationIntent) (result : ActivationDecisionResult)
    (reasons : List String) (denialCodes : List ActivationDenialCode) : ActivationPolicyDecision where
  result := result
  policyId := policyId
  policyVersion := p.getPolicyVersion r
  intentHash := i.computeActivationIntentHash r.toHashing
  reasons := reasons
  denialCodes := denialCodes.map (·.value)
  requiresHumanConfirmation := result = .humanConfirmationRequired
  maxActivationAmount := p.maxActivationAmount

def deny (i : OrbioCreditActivationIntent) (d : Denial) : ActivationPolicyDecision :=
  p.decision r i .deny [d.2] [d.1]

def allow (i : OrbioCreditActivationIntent) : ActivationPolicyDecision :=
  p.decision r i .allow ["Activation within ceiling, mainnet allowlist, and human approval"] []

/-- The approval looked at: the one supplied, else the latest one for the intent. -/
def approvalUsed (s : Approvals) (i : OrbioCreditActivationIntent)
    (supplied : Option HumanActivationApproval) : Option HumanActivationApproval :=
  supplied.or (s.current.lookup (i.computeActivationIntentHash r.toHashing))

def evaluate (s : Approvals) (i : OrbioCreditActivationIntent)
    (supplied : Option HumanActivationApproval) (runtimeMode : Option String) (now : PyFloat) :
    ActivationPolicyDecision :=
  match p.boundsDenial r i runtimeMode now with
  | some d => p.deny r i d
  | none =>
    if p.requireHumanApproval then
      match approvalUsed r s i supplied with
      | none => p.decision r i .humanConfirmationRequired
          ["First mainnet activation requires explicit human approval"] [.missingHumanApproval]
      | some a =>
        match approvalDenial r s i a now with
        | some d => p.deny r i d
        | none => p.allow r i
    else p.allow r i

end OrbioCreditActivationPolicy

end Evaluation

section Specifications
variable {r : ApprovalRules} {p : OrbioCreditActivationPolicy}
  {s : OrbioCreditActivationPolicy.Approvals} {i : OrbioCreditActivationIntent}
  {supplied : Option HumanActivationApproval} {runtimeMode : Option String} {now : PyFloat}

/-- With the human gate on, an intent within the bounds is allowed by an approval that is
not withdrawn and agrees with the intent. -/
theorem evaluate_allow (gate : p.requireHumanApproval = true) :
    (p.evaluate r s i supplied runtimeMode now).result = .allow ↔
      p.boundsDenial r i runtimeMode now = none ∧
      ∃ a, OrbioCreditActivationPolicy.approvalUsed r s i supplied = some a ∧
        a.approvalId ∉ s.revoked ∧ a.isValidFor r i now = none := by
  rw [OrbioCreditActivationPolicy.evaluate]
  cases bounds : p.boundsDenial r i runtimeMode now with
  | some d => simp [OrbioCreditActivationPolicy.deny, OrbioCreditActivationPolicy.decision]
  | none =>
    simp only [gate, if_true, true_and]
    cases used : OrbioCreditActivationPolicy.approvalUsed r s i supplied with
    | none => simp [OrbioCreditActivationPolicy.decision]
    | some a =>
      simp only [OrbioCreditActivationPolicy.approvalDenial, Option.some.injEq, exists_eq_left']
      by_cases revoked : a.approvalId ∈ s.revoked
      · simp [revoked, OrbioCreditActivationPolicy.deny, OrbioCreditActivationPolicy.decision]
      · simp only [revoked, if_false, not_false_iff, true_and]
        cases a.isValidFor r i now with
        | some d => simp [OrbioCreditActivationPolicy.deny, OrbioCreditActivationPolicy.decision]
        | none => simp [OrbioCreditActivationPolicy.allow, OrbioCreditActivationPolicy.decision]

theorem isValidFor_none {a : HumanActivationApproval} :
    a.isValidFor r i now = none ↔ a.expiresAt.lt now = false ∧
      a.intentHash = i.computeActivationIntentHash r.toHashing ∧ a.tenantId = i.tenantId ∧
      a.organisationId = i.organisationId ∧ a.chainId = i.chainId ∧
      r.text.lower a.creditContract = r.text.lower i.creditContract ∧
      a.activationAmount = i.amount := by
  unfold HumanActivationApproval.isValidFor
  constructor
  · intro valid
    repeat (split at valid; cases valid)
    simp_all
  · rintro ⟨unexpired, hash, tenant, organisation, chain, contract, amount⟩
    simp [unexpired, hash, tenant, organisation, chain, contract, amount]

end Specifications

end ActivationPolicy
