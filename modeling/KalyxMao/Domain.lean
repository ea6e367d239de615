import KalyxMao.PythonValues

/-!
# Organisations, proposals, decisions and consequential operations

The records the engine passes between its components, with their enumerations
under the values the source stores. An operation moves along
`VALID_OPERATION_TRANSITIONS`; timestamps that nothing decides by are left out.
-/

namespace Domain
open PythonText PythonValues

inductive AgentStatus where
  | active
  | probation
  | restricted
  | suspended
  | retired
  deriving DecidableEq

def AgentStatus.value : AgentStatus → String
  | .active => "ACTIVE"
  | .probation => "PROBATION"
  | .restricted => "RESTRICTED"
  | .suspended => "SUSPENDED"
  | .retired => "RETIRED"

inductive PolicyResult where
  | approved
  | rejected
  | escalateToHuman
  deriving DecidableEq

def PolicyResult.value : PolicyResult → String
  | .approved => "APPROVED"
  | .rejected => "REJECTED"
  | .escalateToHuman => "ESCALATE_TO_HUMAN"

inductive ActionType where
  | internalAnalysis
  | dataFetch
  | externalApiCall
  | simulatedAllocation
  | replan
  | blockchainTransaction
  | orbioKeyLifecycle
  | externalInference
  | orbioCreditPurchase
  | orbioCreditActivation
  | executeWorkOrder
  | collectRevenue
  | proposeCapabilityExpansion
  | publishMarketplaceOrder
  | claimMarketplaceOrder
  | releaseMarketplaceEscrow
  deriving DecidableEq

def ActionType.value : ActionType → String
  | .internalAnalysis => "INTERNAL_ANALYSIS"
  | .dataFetch => "DATA_FETCH"
  | .externalApiCall => "EXTERNAL_API_CALL"
  | .simulatedAllocation => "SIMULATED_ALLOCATION"
  | .replan => "REPLAN"
  | .blockchainTransaction => "BLOCKCHAIN_TRANSACTION"
  | .orbioKeyLifecycle => "ORBIO_KEY_LIFECYCLE"
  | .externalInference => "EXTERNAL_INFERENCE"
  | .orbioCreditPurchase => "ORBIO_CREDIT_PURCHASE"
  | .orbioCreditActivation => "ORBIO_CREDIT_ACTIVATION"
  | .executeWorkOrder => "EXECUTE_WORK_ORDER"
  | .collectRevenue => "COLLECT_REVENUE"
  | .proposeCapabilityExpansion => "PROPOSE_CAPABILITY_EXPANSION"
  | .publishMarketplaceOrder => "PUBLISH_MARKETPLACE_ORDER"
  | .claimMarketplaceOrder => "CLAIM_MARKETPLACE_ORDER"
  | .releaseMarketplaceEscrow => "RELEASE_MARKETPLACE_ESCROW"

inductive OperationState where
  | created
  | authorized
  | escrowed
  | submitted
  | succeeded
  | failed
  | unknown
  | reconciling
  | reconciled
  deriving DecidableEq

def OperationState.value : OperationState → String
  | .created => "created"
  | .authorized => "authorized"
  | .escrowed => "escrowed"
  | .submitted => "submitted"
  | .succeeded => "succeeded"
  | .failed => "failed"
  | .unknown => "unknown"
  | .reconciling => "reconciling"
  | .reconciled => "reconciled"

/-- `VALID_OPERATION_TRANSITIONS`. -/
def validTransitions : OperationState → List OperationState
  | .created => [.authorized, .failed]
  | .authorized => [.escrowed, .failed]
  | .escrowed => [.submitted, .failed]
  | .submitted => [.succeeded, .failed, .unknown, .reconciling]
  | .unknown => [.reconciling]
  | .reconciling => [.reconciled, .unknown]
  | .succeeded => []
  | .failed => []
  | .reconciled => []

/-- The states with no way out. -/
def OperationState.Terminal (s : OperationState) : Prop := validTransitions s = []

instance (s : OperationState) : Decidable s.Terminal := inferInstanceAs (Decidable (_ = _))

/-- The values of `ProviderOutcome`; a provider answers with a bare string. -/
def outcomeSuccess : String := "SUCCESS"
def outcomeFailure : String := "FAILURE"
def outcomeTimeout : String := "TIMEOUT"
def outcomeUnknown : String := "UNKNOWN"

structure AgentRecord where
  id : String
  status : AgentStatus
  allowedActionTypes : List ActionType
  authorityCeiling : Int
  deriving DecidableEq

structure Organisation where
  id : String
  tenantId : String
  agents : List (String × AgentRecord)
  deriving DecidableEq

structure ActionProposal where
  id : String
  taskId : String
  proposingAgentId : String
  actionType : ActionType
  target : String
  parameters : List (String × PyValue)
  requestedCredits : Nat

structure PolicyDecision where
  id : String
  result : PolicyResult
  violatedRuleId : Option String
  authorizationToken : Option String
  deriving DecidableEq

structure ConsequentialOperation where
  id : String
  tenantId : String
  organisationId : String
  proposalId : String
  decisionId : String
  idempotencyKey : String
  actionType : ActionType
  target : String
  parameters : List (String × PyValue)
  amount : Nat
  providerName : String
  providerReference : Option String
  state : OperationState
  errorMessage : Option String

structure ExecutionReceipt where
  id : String
  proposalId : String
  authorizationToken : String
  actionType : ActionType
  target : String
  httpStatus : Nat
  rawResponseHash : String
  rawOutput : List (String × PyValue)
  costCredits : Nat

structure ProviderExecutionResult where
  providerName : String
  operationId : String
  outcome : String
  providerReference : Option String
  rawResponse : List (String × PyValue)
  errorMessage : Option String
  evidenceHash : Option String

structure ProviderStatusResult where
  providerName : String
  operationId : String
  outcome : String
  providerReference : Option String
  rawStatus : List (String × PyValue)
  errorMessage : Option String
  evidenceHash : Option String

/-- A digest function and the printing of floats: what fixes the hashes of JSON data. -/
structure Hashing where
  sha256 : String → String
  reprFloat : PyFloat → String

def Hashing.ofJson (h : Hashing) (items : List (String × PyValue)) : String :=
  h.sha256 (canonicalJson h.reprFloat (.dict items))

/-- `hexdigest()[:16]`. -/
def Hashing.short (h : Hashing) (s : String) : String := String.ofList ((h.sha256 s).toList.take 16)

namespace ConsequentialOperation

/-- A step along the table. An absent message or reference leaves the old one. -/
def transitionTo (op : ConsequentialOperation) (state : OperationState)
    (errorMessage : Option String) (providerReference : Option String) :
    Except PyError ConsequentialOperation :=
  if state ∈ validTransitions op.state then
    .ok { op with
      state := state
      errorMessage := errorMessage <|> op.errorMessage
      providerReference := providerReference <|> op.providerReference }
  else .error ⟨.invalidStateTransitionError,
    s!"Invalid operation state transition: {op.state.value} -> {state.value}"⟩

def fingerprintData (tenantId organisationId proposalId decisionId idempotencyKey : String)
    (actionType : ActionType) (target : String) (parameters : List (String × PyValue))
    (amount : Nat) (providerName : String) : List (String × PyValue) :=
  [("tenant_id", .str tenantId), ("organisation_id", .str organisationId),
    ("proposal_id", .str proposalId), ("decision_id", .str decisionId),
    ("idempotency_key", .str idempotencyKey), ("action_type", .str actionType.value),
    ("target", .str target), ("parameters", .dict parameters), ("amount", .int amount),
    ("provider_name", .str providerName)]

def getFingerprint (h : Hashing) (op : ConsequentialOperation) : String :=
  h.ofJson (fingerprintData op.tenantId op.organisationId op.proposalId op.decisionId
    op.idempotencyKey op.actionType op.target op.parameters op.amount op.providerName)

/-- A transition changes the state, the message and the reference only. -/
structure SameTerms (a b : ConsequentialOperation) : Prop where
  id : a.id = b.id
  tenantId : a.tenantId = b.tenantId
  organisationId : a.organisationId = b.organisationId
  idempotencyKey : a.idempotencyKey = b.idempotencyKey
  amount : a.amount = b.amount

theorem transitionTo_ok {op op' : ConsequentialOperation} {state : OperationState}
    {errorMessage providerReference : Option String}
    (h : op.transitionTo state errorMessage providerReference = .ok op') :
    state ∈ validTransitions op.state ∧ op'.state = state ∧ SameTerms op' op := by
  unfold transitionTo at h
  split at h
  · rename_i legal
    obtain rfl := Except.ok.inj h
    exact ⟨legal, rfl, rfl, rfl, rfl, rfl, rfl⟩
  · cases h

theorem transitionTo_parameters {op op' : ConsequentialOperation} {state : OperationState}
    {errorMessage providerReference : Option String}
    (h : op.transitionTo state errorMessage providerReference = .ok op') :
    op'.parameters = op.parameters := by
  unfold transitionTo at h
  split at h
  · rw [← Except.ok.inj h]
  · cases h

theorem transitionTo_legal (op : ConsequentialOperation) {state : OperationState}
    (legal : state ∈ validTransitions op.state) (errorMessage providerReference : Option String) :
    ∃ op', op.transitionTo state errorMessage providerReference = .ok op' ∧
      op'.state = state ∧ SameTerms op' op :=
  ⟨_, if_pos legal, rfl, rfl, rfl, rfl, rfl, rfl⟩

theorem SameTerms.refl (a : ConsequentialOperation) : SameTerms a a := ⟨rfl, rfl, rfl, rfl, rfl⟩

theorem SameTerms.trans {a b c : ConsequentialOperation} (h : SameTerms a b) (g : SameTerms b c) :
    SameTerms a c :=
  ⟨h.id.trans g.id, h.tenantId.trans g.tenantId, h.organisationId.trans g.organisationId,
    h.idempotencyKey.trans g.idempotencyKey, h.amount.trans g.amount⟩

end ConsequentialOperation

/-- `enforce_agent_capability`. -/
def enforceAgentCapability (proposal : ActionProposal) (org : Organisation) :
    Except PyError Unit :=
  match org.agents.lookup proposal.proposingAgentId with
  | none => .error ⟨.unauthorizedActionError,
      s!"Unknown proposing agent '{proposal.proposingAgentId}'"⟩
  | some agent =>
    if agent.status ≠ .active then .error ⟨.unauthorizedActionError,
      s!"Agent '{agent.id}' is not active (status={agent.status.value})"⟩
    else if proposal.actionType ∉ agent.allowedActionTypes then .error ⟨.unauthorizedActionError,
      s!"Agent '{agent.id}' is not authorized for action type '{proposal.actionType.value}'"⟩
    else if agent.authorityCeiling < proposal.requestedCredits then
      .error ⟨.unauthorizedActionError,
        s!"Proposal requests {proposal.requestedCredits} credits, above agent '{agent.id}' authority ceiling of {agent.authorityCeiling}"⟩
    else .ok ()

end Domain
