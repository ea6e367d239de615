import KalyxMao.CapabilityGrants
import KalyxMao.ProgramPools
import KalyxMao.SurplusAccounting

/-!
# Orders between organisations

A client publishes an order and locks its bounty, a provider claims it, has the
work done and settles it, and the client may take the escrow back. Every
statement of the repository and every payment is a transaction of its own: a
claim is compared and set in one statement, every other change of a status is
unconditional and rests on what an earlier statement read.
-/

namespace Marketplace
open PythonText PythonValues PythonDates Domain Ledger SqlLedgers KeyedLists EffectPrograms
open EffectPrograms.Prog PolicyRules PolicyEngine WorkOrders SurplusAccounting
open TokenBinding (TokenRules)
open CapabilityGrants (CapabilityGrant CapabilityManager listAgentGrants)

section Tables

inductive MarketplaceOrderStatus where
  | «open»
  | claimed
  | delivered
  | completed
  | expired
  | cancelled
  deriving DecidableEq

/-- `f"{status}"`. -/
def MarketplaceOrderStatus.shown : MarketplaceOrderStatus → String
  | .open => "MarketplaceOrderStatus.OPEN"
  | .claimed => "MarketplaceOrderStatus.CLAIMED"
  | .delivered => "MarketplaceOrderStatus.DELIVERED"
  | .completed => "MarketplaceOrderStatus.COMPLETED"
  | .expired => "MarketplaceOrderStatus.EXPIRED"
  | .cancelled => "MarketplaceOrderStatus.CANCELLED"

inductive EscrowStatus where
  | held
  | released
  | refunded
  deriving DecidableEq

def EscrowStatus.shown : EscrowStatus → String
  | .held => "EscrowStatus.HELD"
  | .released => "EscrowStatus.RELEASED"
  | .refunded => "EscrowStatus.REFUNDED"

/-- Tenant, organisation and the row's own id. -/
abbrev Key := String × String × String

structure MarketplaceOrder where
  tenantId : String
  organisationId : String
  orderId : String
  title : String
  description : String
  specificationHash : String
  requiredCapability : String
  bountyAmount : Int
  bountyAsset : String := "USDG"
  slaTimeoutSeconds : Int := 3600
  status : MarketplaceOrderStatus := .open
  claimedByTenantId : Option String := none
  claimedByOrgId : Option String := none
  claimedByAgentId : Option String := none
  workOrderId : Option String := none
  deliverableId : Option String := none
  createdAt : String
  claimedAt : Option String := none
  completedAt : Option String := none
  deriving DecidableEq

def MarketplaceOrder.key (o : MarketplaceOrder) : Key := (o.tenantId, o.organisationId, o.orderId)

structure EscrowAgreement where
  tenantId : String
  organisationId : String
  escrowId : String
  orderId : String
  clientTenantId : String
  clientOrgId : String
  bountyAmount : Int
  bountyAsset : String := "USDG"
  providerTenantId : Option String := none
  providerOrgId : Option String := none
  status : EscrowStatus := .held
  clientLedgerTxId : Option String := none
  providerLedgerTxId : Option String := none
  createdAt : String
  releasedAt : Option String := none
  deriving DecidableEq

def EscrowAgreement.key (e : EscrowAgreement) : Key := (e.tenantId, e.organisationId, e.escrowId)

/-- A row of `revenue_events`. -/
structure StoredEvent where
  tenantId : String
  organisationId : String
  event : RevenueEvent

def StoredEvent.key (s : StoredEvent) : Key :=
  (s.tenantId, s.organisationId, s.event.revenueEventId)

/-- The tables, the ledgers, and what every surplus reconciler remembers. -/
structure Board where
  orders : List MarketplaceOrder
  escrows : List EscrowAgreement
  capabilities : CapabilityGrants.Database
  events : List StoredEvent
  ledgers : Nat → SqliteLedger
  reconciled : Nat → List RevenueEvent

end Tables

section Statements

/-- Who claims an order, and for which work order. -/
structure Claim where
  tenantId : String
  orgId : String
  agentId : String
  workOrderId : String
  deriving DecidableEq

/-- The row that `claim_order` makes of an open one. -/
def MarketplaceOrder.claim (o : MarketplaceOrder) (c : Claim) (now : String) : MarketplaceOrder :=
  { o with
    status := .claimed
    claimedByTenantId := some c.tenantId
    claimedByOrgId := some c.orgId
    claimedByAgentId := some c.agentId
    workOrderId := some c.workOrderId
    claimedAt := some now }

/-- `COALESCE(a, b)`. -/
def coalesce {α : Type} (a b : Option α) : Option α := a.or b

def MarketplaceOrder.update (o : MarketplaceOrder) (status : MarketplaceOrderStatus)
    (deliverableId : Option String) (now : String) : MarketplaceOrder :=
  { o with
    status := status
    deliverableId := coalesce deliverableId o.deliverableId
    completedAt := coalesce (if status = .completed then some now else none) o.completedAt }

/-- The provider's part of an update of an escrow. -/
structure Provider where
  tenantId : Option String := none
  orgId : Option String := none
  ledgerTxId : Option String := none

def EscrowAgreement.update (e : EscrowAgreement) (status : EscrowStatus) (p : Provider)
    (now : String) : EscrowAgreement :=
  { e with
    status := status
    providerTenantId := coalesce p.tenantId e.providerTenantId
    providerOrgId := coalesce p.orgId e.providerOrgId
    providerLedgerTxId := coalesce p.ledgerTxId e.providerLedgerTxId
    releasedAt := coalesce (if status = .held then none else some now) e.releasedAt }

variable (b : Board)

def getOrder (key : Key) : Option MarketplaceOrder := lookupBy MarketplaceOrder.key b.orders key

def getOrderById (orderId : String) : Option MarketplaceOrder :=
  b.orders.find? fun o => o.orderId = orderId

/-- The ids that `list_public_orders` answers, of the newest order first. -/
def listPublicOrders : List String :=
  ((b.orders.filter fun o => o.status = .open).mergeSort fun o o' => o'.createdAt ≤ o.createdAt).map
    MarketplaceOrder.orderId

def conflict (message : String) : PyError := ⟨.idempotencyConflict, message⟩

def createOrder (o : MarketplaceOrder) : Except PyError MarketplaceOrder × Board :=
  match getOrder b o.key with
  | some existing =>
    if existing.specificationHash = o.specificationHash then (.ok existing, b)
    else (.error (conflict (s!"Marketplace order '{o.orderId}' already exists with conflicting specification hash: existing '{existing.specificationHash}' vs proposed '{o.specificationHash}'")), b)
  | none =>
    if o.tenantId ∈ b.capabilities.tenants ∧ o.organisationId ∈ b.capabilities.organisations then
      (.ok o, { b with orders := b.orders ++ [o] })
    else (.error ⟨.integrityError, "FOREIGN KEY constraint failed"⟩, b)

/-- `claim_order`: whether a row was open under the key. -/
def claimOrder (key : Key) (c : Claim) (now : String) : Bool × Board :=
  (b.orders.any fun o => o.key = key ∧ o.status = .open,
    { b with orders := b.orders.map fun o =>
        if o.key = key ∧ o.status = .open then o.claim c now else o })

def updateOrderStatus (key : Key) (status : MarketplaceOrderStatus) (deliverableId : Option String)
    (now : String) : Board :=
  { b with orders := b.orders.map fun o =>
      if o.key = key then o.update status deliverableId now else o }

def saveEscrow (e : EscrowAgreement) : Except PyError EscrowAgreement × Board :=
  match lookupBy EscrowAgreement.key b.escrows e.key with
  | some existing =>
    if existing.orderId = e.orderId ∧ existing.bountyAmount = e.bountyAmount then (.ok existing, b)
    else (.error (conflict (s!"Escrow '{e.escrowId}' already exists with conflicting parameters: order_id '{existing.orderId}' vs '{e.orderId}', bounty '{existing.bountyAmount}' vs '{e.bountyAmount}'")), b)
  | none =>
    if e.tenantId ∈ b.capabilities.tenants ∧ e.organisationId ∈ b.capabilities.organisations then
      (.ok e, { b with escrows := b.escrows ++ [e] })
    else (.error ⟨.integrityError, "FOREIGN KEY constraint failed"⟩, b)

/-- `get_escrow_by_order`, for the client or for the provider that the order is claimed by. -/
def getEscrowByOrder (orderId tenantId organisationId : String) :
    Except PyError (Option EscrowAgreement) :=
  if tenantId = "" ∨ organisationId = "" then
    .error ⟨.valueError, "tenant_id and organisation_id are required for scoped escrow lookup"⟩
  else
    .ok (b.escrows.find? fun e => e.orderId = orderId ∧ b.orders.any fun o =>
      o.key = (e.clientTenantId, e.clientOrgId, e.orderId) ∧
        ((e.tenantId = tenantId ∧ e.organisationId = organisationId) ∨
          (o.claimedByTenantId = some tenantId ∧ o.claimedByOrgId = some organisationId)))

def updateEscrowStatus (key : Key) (status : EscrowStatus) (p : Provider) (now : String) : Board :=
  { b with escrows := b.escrows.map fun e => if e.key = key then e.update status p now else e }

/-- `save_revenue_event`; an event that is there stays as it is. -/
def saveRevenueEvent (s : StoredEvent) : Except PyError Unit × Board :=
  match lookupBy StoredEvent.key b.events s.key with
  | some _ => (.ok (), b)
  | none =>
    if s.tenantId ∈ b.capabilities.tenants ∧ s.organisationId ∈ b.capabilities.organisations then
      (.ok (), { b with events := b.events ++ [s] })
    else (.error ⟨.integrityError, "FOREIGN KEY constraint failed"⟩, b)

end Statements

/-- What the coordinator and its collaborators compute with. `notExpired` compares the text of an
expiry with the current time. -/
structure MarketRules where
  tokens : TokenRules
  text : RuleText
  surplus : SurplusRules
  plusDays : DateTime → Int → Except PyError DateTime
  notExpired : String → DateTime → Bool

section Commands

inductive Cmd where
  | getBalance (ledger : Nat) (account : String)
  | transfer (ledger : Nat) (source target : String) (amount : Int) (memo transactionId : String)
  | depositRevenue (ledger : Nat) (amount : Int) (memo transactionId : String)
  | createOrder (o : MarketplaceOrder)
  | saveEscrow (e : EscrowAgreement)
  | listPublicOrders
  | getOrderById (orderId : String)
  | getOrder (key : Key)
  | hasCapability (tenantId organisationId agentId capability : String)
  | evaluateAndGrant (m : CapabilityManager) (asked : CapabilityGrants.Call) (org : PolicyOrganisation)
  | claimOrder (key : Key) (claim : Claim)
  | getEscrowByOrder (orderId tenantId organisationId : String)
  /-- Saving a work order, a deliverable or a receipt; no code here reads their tables. -/
  | saveWork
  | reconcileSurplus (reconciler ledger : Nat) (k : SurplusReconciler) (w : WorkOrder)
      (c : WorkDeliverableReceipt) (gross expense credits : Int)
  | saveRevenueEvent (s : StoredEvent)
  | updateEscrowStatus (key : Key) (status : EscrowStatus) (provider : Provider)
  | updateOrderStatus (key : Key) (status : MarketplaceOrderStatus) (deliverableId : Option String)

abbrev Resp : Cmd → Type
  | .getBalance .. => Int
  | .transfer .. => Except PyError LedgerEntry
  | .depositRevenue .. => Except PyError LedgerEntry
  | .createOrder _ => Except PyError MarketplaceOrder
  | .saveEscrow _ => Except PyError EscrowAgreement
  | .listPublicOrders => List String
  | .getOrderById _ => Option MarketplaceOrder
  | .getOrder _ => Option MarketplaceOrder
  | .hasCapability .. => Bool
  | .evaluateAndGrant .. => Except PyError (Option CapabilityGrant)
  | .claimOrder .. => Bool
  | .getEscrowByOrder .. => Except PyError (Option EscrowAgreement)
  | .saveWork => Except PyError Unit
  | .reconcileSurplus .. => Except PyError RevenueEvent
  | .saveRevenueEvent _ => Except PyError Unit
  | .updateEscrowStatus .. => Unit
  | .updateOrderStatus .. => Unit

/-- What a command takes from outside: identifiers, the time, and the answer of the tables that are
left out. -/
structure Input where
  draw : Ledger.Draw
  settlement : SettlementDraws
  moment : DateTime
  saved : Except PyError Unit

abbrev Program := Prog Cmd Resp PyError

abbrev ask (c : Cmd) : Program (Resp c) := perform c

def Board.setLedger (b : Board) (n : Nat) (l : SqliteLedger) : Board :=
  { b with ledgers := Function.update b.ledgers n l }

variable (x : MarketRules)

/-- `has_capability`. -/
def hasCapability (b : Board) (tenantId organisationId agentId capability : String) (now : DateTime) :
    Bool :=
  (listAgentGrants b.capabilities tenantId organisationId agentId).any fun g =>
    g.capabilityName = capability ∧ x.notExpired g.expiresAt now

def respond : Handler Cmd Resp Board Input
  | .getBalance n account, b, _ => ((b.ledgers n).getBalance account, b)
  | .transfer n source target amount memo txId, b, i =>
    let answer := (b.ledgers n).transfer i.draw source target amount memo (some txId)
    (answer.1, b.setLedger n answer.2)
  | .depositRevenue n amount memo txId, b, i =>
    let answer := (b.ledgers n).depositRevenue i.draw amount memo (some txId) revenue
    (answer.1, b.setLedger n answer.2)
  | .createOrder o, b, _ => createOrder b o
  | .saveEscrow e, b, _ => saveEscrow b e
  | .listPublicOrders, b, _ => (listPublicOrders b, b)
  | .getOrderById orderId, b, _ => (getOrderById b orderId, b)
  | .getOrder key, b, _ => (getOrder b key, b)
  | .hasCapability tenantId orgId agentId capability, b, i =>
    (hasCapability x b tenantId orgId agentId capability i.moment, b)
  | .evaluateAndGrant m asked org, b, _ =>
    let answer := CapabilityGrants.evaluateAndGrant x.tokens x.plusDays m asked ⟨org, b.capabilities⟩
    (answer.2, { b with capabilities := answer.1.db })
  | .claimOrder key claim, b, i => claimOrder b key claim i.moment.isoformat
  | .getEscrowByOrder orderId tenantId orgId, b, _ => (getEscrowByOrder b orderId tenantId orgId, b)
  | .saveWork, b, i => (i.saved, b)
  | .reconcileSurplus n ledger k w c gross expense credits, b, i =>
    let answer := reconcileSurplus x.surplus k (b.reconciled n) (b.ledgers ledger) i.settlement w c
      gross expense credits none
    let b := b.setLedger ledger answer.2
    match answer.1 with
    | .error e => (.error e, b)
    | .ok event =>
      (.ok event, { b with reconciled := Function.update b.reconciled n (b.reconciled n ++ [event]) })
  | .saveRevenueEvent s, b, _ => saveRevenueEvent b s
  | .updateEscrowStatus key status p, b, i =>
    ((), updateEscrowStatus b key status p i.moment.isoformat)
  | .updateOrderStatus key status deliverableId, b, i =>
    ((), updateOrderStatus b key status deliverableId i.moment.isoformat)

end Commands

section Specifications
variable {x : MarketRules} {b : Board}

/-- An order is created under a new key, or nothing is. -/
theorem createOrder_cases (b : Board) (o : MarketplaceOrder) :
    (∃ answer, createOrder b o = (answer, b)) ∨
      (getOrder b o.key = none ∧ createOrder b o = (.ok o, { b with orders := b.orders ++ [o] })) := by
  unfold createOrder
  split
  · split_ifs
    · exact .inl ⟨_, rfl⟩
    · exact .inl ⟨_, rfl⟩
  · rename_i missing
    split_ifs
    · exact .inr ⟨missing, rfl⟩
    · exact .inl ⟨_, rfl⟩

theorem saveEscrow_cases (b : Board) (e : EscrowAgreement) :
    (∃ answer, saveEscrow b e = (answer, b)) ∨
      (lookupBy EscrowAgreement.key b.escrows e.key = none ∧
        saveEscrow b e = (.ok e, { b with escrows := b.escrows ++ [e] })) := by
  unfold saveEscrow
  split
  · split_ifs
    · exact .inl ⟨_, rfl⟩
    · exact .inl ⟨_, rfl⟩
  · rename_i missing
    split_ifs
    · exact .inr ⟨missing, rfl⟩
    · exact .inl ⟨_, rfl⟩

theorem saveRevenueEvent_cases (b : Board) (s : StoredEvent) :
    (∃ answer, saveRevenueEvent b s = (answer, b)) ∨
      saveRevenueEvent b s = (.ok (), { b with events := b.events ++ [s] }) := by
  unfold saveRevenueEvent
  split
  · exact .inl ⟨_, rfl⟩
  · split_ifs
    · exact .inr rfl
    · exact .inl ⟨_, rfl⟩

/-- A reconciliation writes one ledger and what the reconciler remembers. -/
theorem reconcile_writes {n ledger : Nat} {k : SurplusReconciler} {w : WorkOrder}
    {c : WorkDeliverableReceipt} {gross expense credits : Int} (i : Input) :
    ∃ reconciled, (respond x (.reconcileSurplus n ledger k w c gross expense credits) b i).2 =
      { b.setLedger ledger (reconcileSurplus x.surplus k (b.reconciled n) (b.ledgers ledger)
          i.settlement w c gross expense credits none).2 with reconciled := reconciled } := by
  unfold respond
  dsimp only
  split
  · exact ⟨b.reconciled, rfl⟩
  · exact ⟨_, rfl⟩

end Specifications

section Coordinator
variable (x : MarketRules)

def permission (message : String) : PyError := ⟨.permissionError, message⟩

def value (message : String) : PyError := ⟨.valueError, message⟩

/-- The arguments of `publish_b2b_order`; `paused` is the answer of the circuit breaker, and the
hash of the specification is left to the JSON of its payload. -/
structure PublishCall where
  clientTenantId : String
  clientOrgId : String
  title : String
  description : String
  requiredCapability : String
  bountyAmount : Int
  clientLedger : Nat
  policyEngine : PolicyEngine.Engine
  clientAgent : PolicyAgent
  clientOrg : PolicyOrganisation
  slaTimeoutSeconds : Int := 3600
  paused : Bool
  specificationHash : String
  draw : PolicyEngine.Draw
  order : String
  proposal : String
  task : String
  escrow : String
  now : String

def PublishCall.orderId (c : PublishCall) : String := s!"mkt-order-{c.order}"

/-- A bounty below zero is no proposal. -/
def PublishCall.actionProposal (c : PublishCall) : Except PyError ActionProposal :=
  if c.bountyAmount < 0 then
    .error ⟨.validationError, "requested_credits: Input should be greater than or equal to 0"⟩
  else .ok
    { id := s!"prop-{c.proposal}"
      taskId := s!"task-mkt-{c.task}"
      proposingAgentId := c.clientAgent.id
      actionType := .publishMarketplaceOrder
      target := s!"marketplace://order/{c.orderId}"
      parameters := [("bounty_amount", .int c.bountyAmount),
        ("required_capability", .str c.requiredCapability)]
      requestedCredits := c.bountyAmount.toNat }

/-- `MarketplaceOrder.create`, once the bounty is positive. -/
def PublishCall.marketplaceOrder (c : PublishCall) : MarketplaceOrder :=
  { tenantId := c.clientTenantId
    organisationId := c.clientOrgId
    orderId := c.orderId
    title := c.title
    description := c.description
    specificationHash := c.specificationHash
    requiredCapability := c.requiredCapability
    bountyAmount := c.bountyAmount
    slaTimeoutSeconds := c.slaTimeoutSeconds
    createdAt := c.now }

def PublishCall.escrowAgreement (c : PublishCall) : EscrowAgreement :=
  { tenantId := c.clientTenantId
    organisationId := c.clientOrgId
    escrowId := s!"escrow-{c.escrow}"
    orderId := c.orderId
    clientTenantId := c.clientTenantId
    clientOrgId := c.clientOrgId
    bountyAmount := c.bountyAmount
    clientLedgerTxId := some s!"escrow-lock-{c.orderId}"
    createdAt := c.now }

def publishB2bOrder (c : PublishCall) : Program MarketplaceOrder := do
  if c.paused then
    .raise (permission (s!"Organisation '{c.clientOrgId}' circuit breaker is PAUSED: new order publication blocked"))
  else
    let proposal ← Prog.ofExcept c.actionProposal
    let held ← ask (.getBalance c.clientLedger treasury)
    let org := CapabilityGrants.enrol c.clientOrg c.clientAgent
    let decision ← Prog.ofExcept (evaluate x.tokens c.policyEngine proposal org (some held) c.draw)
    if decision.result ≠ .approved then
      let reason := orElse decision.violatedRuleDescription
        (orElse decision.violatedRuleId s!"PolicyResult.{decision.result.value}")
      .raise (permission (s!"Policy rejected B2B order publication: {reason}"))
    else
      let moved ← ask (.transfer c.clientLedger treasury Ledger.escrow c.bountyAmount
        s!"Escrow lock for B2B Order {c.orderId}" s!"escrow-lock-{c.orderId}")
      let _ ← Prog.ofExcept moved
      let created ← ask (.createOrder c.marketplaceOrder)
      let _ ← Prog.ofExcept created
      let saved ← ask (.saveEscrow c.escrowAgreement)
      let _ ← Prog.ofExcept saved
      return c.marketplaceOrder

structure ClaimCall where
  providerTenantId : String
  providerOrgId : String
  providerAgent : PolicyAgent
  providerOrg : PolicyOrganisation
  capabilityManager : CapabilityManager
  targetOrderId : Option String
  paused : Bool
  draw : CapabilityGrants.GrantDraw

/-- The first public order that is the one asked for and not the provider's own. -/
def eligibleOrder (c : ClaimCall) : List String → Program (Option MarketplaceOrder)
  | [] => return none
  | orderId :: rest =>
    if orElse c.targetOrderId orderId ≠ orderId then eligibleOrder c rest
    else do
      let found : Option MarketplaceOrder ← ask (.getOrderById orderId)
      match found with
      | none => eligibleOrder c rest
      | some o =>
        if o.tenantId = c.providerTenantId ∧ o.organisationId = c.providerOrgId then
          eligibleOrder c rest
        else return some o

/-- The supervisor that the coordinator makes up for a provider. -/
def ClaimCall.supervisor (c : ClaimCall) : PolicyAgent where
  id := s!"{c.providerOrgId}-ceo"
  status := .active
  allowedActionTypes := [.proposeCapabilityExpansion]
  authorityCeiling := 25
  role := .ceo
  performanceScore := .finite 100

def ClaimCall.expansion (c : ClaimCall) (capability : String) : CapabilityGrants.Call where
  proposal :=
    { tenantId := c.providerTenantId
      organisationId := c.providerOrgId
      targetAgentId := c.providerAgent.id
      proposerAgentId := s!"{c.providerOrgId}-ceo"
      requestedCapability := capability
      requestedPermission := "EXECUTE_ADVANCED"
      currentPerformanceScore := c.providerAgent.performanceScore }
  supervisor := c.supervisor
  ledger := none
  draw := c.draw

/-- `normalized_score >= 0.80`. -/
def qualifies (score : PyFloat) : Bool :=
  let normalized := unitScale x.text score
  !normalized.lt (.finite (3602879701896397 / 4503599627370496)) && normalized ≠ .nan

/-- Whether the provider's agent has the capability, or is granted it. -/
def capable (c : ClaimCall) (capability : String) : Program Bool := do
  let held ← ask (.hasCapability c.providerTenantId c.providerOrgId c.providerAgent.id capability)
  if held then return true
  else if qualifies x c.providerAgent.performanceScore then
    let org := CapabilityGrants.enrol (CapabilityGrants.enrol c.providerOrg c.supervisor) c.providerAgent
    let answer ← ask (.evaluateAndGrant c.capabilityManager (c.expansion capability) org)
    let grant ← Prog.ofExcept answer
    return grant.isSome
  else return false

def ClaimCall.claim (c : ClaimCall) (o : MarketplaceOrder) : Claim where
  tenantId := c.providerTenantId
  orgId := c.providerOrgId
  agentId := c.providerAgent.id
  workOrderId := s!"wo-b2b-{o.orderId}"

def discoverAndClaim (c : ClaimCall) : Program (Option MarketplaceOrder) := do
  if c.paused then
    .raise (permission (s!"Organisation '{c.providerOrgId}' circuit breaker is PAUSED: order claim blocked"))
  else
    let orders ← ask .listPublicOrders
    match ← eligibleOrder c orders with
    | none => return none
    | some o =>
      if !(← capable x c o.requiredCapability) then return none
      else
        let success ← ask (.claimOrder o.key (c.claim o))
        if !success then return none
        else ask (.getOrder o.key)

/-- The arguments of `execute_and_settle`; `work` is the answer of the work executor, and `saves`
says whether there is a repository of work orders. -/
structure SettleCall where
  order : MarketplaceOrder
  providerTenantId : String
  providerOrgId : String
  producerAgentId : String
  work : Except PyError WorkDeliverable
  workVerifier : WorkDeliverableVerifier
  receiptId : String
  clientLedger : Nat
  providerLedger : Nat
  surplusReconciler : SurplusReconciler
  reconciler : Nat
  reconcilerLedger : Nat
  saves : Bool

def SettleCall.workOrderId (c : SettleCall) : String :=
  orElse c.order.workOrderId s!"wo-b2b-{c.order.orderId}"

def SettleCall.workOrder (c : SettleCall) : WorkOrder where
  workOrderId := c.workOrderId
  tenantId := c.providerTenantId
  organisationId := c.providerOrgId
  deliverableType := "B2B_DELIVERABLE"
  requiredOrbioCredits := 1000
  bountyAmount := c.order.bountyAmount
  status := .proposed

structure SettlementOutcome where
  orderId : String
  workOrderId : String
  deliverable : WorkDeliverable
  receipt : WorkDeliverableReceipt
  revenueEvent : RevenueEvent

def saveWork (saves : Bool) : Program Unit :=
  if saves then do
    let saved ← ask .saveWork
    Prog.ofExcept saved
  else return ()

def releaseTx (orderId : String) : String := s!"escrow-release-{orderId}"

def revenueTx (orderId : String) : String := s!"revenue-b2b-{orderId}"

def refundTx (orderId : String) : String := s!"escrow-refund-{orderId}"

/-- The checks before the work is executed; the escrow they find. -/
def preflight (c : SettleCall) : Program EscrowAgreement := do
  let o := c.order
  if o.status ≠ .claimed then
    .raise (value (s!"Marketplace order '{o.orderId}' cannot be executed: status is '{o.status.shown}', must be CLAIMED."))
  else if o.claimedByOrgId ≠ some c.providerOrgId ∨ o.claimedByAgentId ≠ some c.producerAgentId then
    .raise (permission (s!"Caller ({c.providerOrgId}, {c.producerAgentId}) is not the authorized claimant for order '{o.orderId}' (claimed by: {Consequential.showOption o.claimedByOrgId}, {Consequential.showOption o.claimedByAgentId})"))
  else
    let found ← ask (.getEscrowByOrder o.orderId o.tenantId o.organisationId)
    let unheld (status : String) : PyError := value (s!"Active escrow not found or not HELD for order '{o.orderId}' (current status: {status})")
    match ← Prog.ofExcept found with
    | none => .raise (unheld "None")
    | some e =>
      if e.status ≠ .held then .raise (unheld e.status.shown)
      else
        let held ← ask (.hasCapability c.providerTenantId c.providerOrgId c.producerAgentId
          o.requiredCapability)
        if !held then
          .raise (permission (s!"Producer agent '{c.producerAgentId}' does not hold active, unrevoked capability '{o.requiredCapability}'"))
        else return e

/-- The payments and the records of a settlement, once the receipt is verified. -/
def settle (c : SettleCall) (e : EscrowAgreement) (d : WorkDeliverable) (r : WorkDeliverableReceipt) :
    Program SettlementOutcome := do
  let o := c.order
  let released ← ask (.transfer c.clientLedger Ledger.escrow externalSink o.bountyAmount
    s!"Escrow released to provider {c.providerOrgId} for order {o.orderId}" (releaseTx o.orderId))
  let _ ← Prog.ofExcept released
  let deposited ← ask (.depositRevenue c.providerLedger o.bountyAmount
    s!"B2B revenue from client {o.organisationId} for order {o.orderId}" (revenueTx o.orderId))
  let _ ← Prog.ofExcept deposited
  let reconciled ← ask (.reconcileSurplus c.reconciler c.reconcilerLedger c.surplusReconciler
    c.workOrder r o.bountyAmount 0 d.orbioCreditsConsumed)
  let event ← Prog.ofExcept reconciled
  if c.saves then
    let saved ← ask (.saveRevenueEvent ⟨c.providerTenantId, c.providerOrgId, event⟩)
    Prog.ofExcept saved
  let _ ← ask (.updateEscrowStatus e.key .released
    ⟨some c.providerTenantId, some c.providerOrgId, some (revenueTx o.orderId)⟩)
  let _ ← ask (.updateOrderStatus o.key .completed (some d.deliverableId))
  return ⟨o.orderId, c.workOrderId, d, r, event⟩

def executeAndSettle (c : SettleCall) : Program SettlementOutcome := do
  let e ← preflight c
  saveWork c.saves
  let d ← Prog.ofExcept c.work
  saveWork c.saves
  let r := c.workVerifier.verify x.surplus.toSigningRules c.workOrder d c.receiptId
  saveWork c.saves
  if !r.isVerified then
    .raise (value (s!"B2B Deliverable failed independent verification: {r.verificationNotes}"))
  else settle c e d r

structure RefundCall where
  tenantId : String
  organisationId : String
  orderId : String
  clientLedger : Nat
  reason : String := "Order cancelled or expired"

def refundEscrow (c : RefundCall) : Program EscrowAgreement := do
  let order : Option MarketplaceOrder ← ask (.getOrder (c.tenantId, c.organisationId, c.orderId))
  match order with
  | none => .raise (value (s!"Marketplace order '{c.orderId}' not found."))
  | some o =>
    if o.status = .completed then
      .raise (value (s!"Cannot refund escrow for completed order '{c.orderId}'."))
    else
      let unheld : PyError := value (s!"No escrow in HELD status found for order '{c.orderId}'.")
      let found ← ask (.getEscrowByOrder c.orderId c.tenantId c.organisationId)
      match ← Prog.ofExcept found with
      | none => .raise unheld
      | some e =>
        if e.status ≠ .held then .raise unheld
        else
          let moved ← ask (.transfer c.clientLedger Ledger.escrow treasury e.bountyAmount
            s!"Escrow refund for order {c.orderId}: {c.reason}" (refundTx c.orderId))
          let _ ← Prog.ofExcept moved
          let _ ← ask (.updateEscrowStatus e.key .refunded {})
          let _ ← ask (.updateOrderStatus o.key .cancelled none)
          let found ← ask (.getEscrowByOrder c.orderId c.tenantId c.organisationId)
          match ← Prog.ofExcept found with
          | none => .raise ⟨.runtimeError, s!"Escrow '{c.orderId}' missing after refund update."⟩
          | some e => return e

end Coordinator

section Issued
variable (x : MarketRules) {P : Cmd → Prop}

/-- The statements that neither create an order nor set a status unconditionally. -/
def Plain : Cmd → Prop
  | .createOrder _ => False
  | .updateEscrowStatus .. => False
  | .updateOrderStatus .. => False
  | _ => True

theorem issues_ask {c : Cmd} {α : Type} {f : Resp c → Program α} (allowed : P c)
    (rest : ∀ r, Issues P (f r)) : Issues P (ask c >>= f) := ⟨allowed, rest⟩

theorem issues_ofExcept {α β : Type} {answer : Except PyError α} {f : α → Program β}
    (rest : ∀ a, Issues P (f a)) : Issues P (Prog.ofExcept answer >>= f) :=
  (Issues.ofExcept answer).bind rest

/-- Publishing creates its order, and the rest of it is plain. -/
theorem publishB2bOrder_issues (c : PublishCall) (plain : ∀ c, Plain c → P c)
    (create : P (.createOrder c.marketplaceOrder)) : Issues P (publishB2bOrder x c) := by
  unfold publishB2bOrder
  split_ifs
  · trivial
  · refine issues_ofExcept fun proposal => issues_ask (plain _ trivial) fun held => ?_
    refine issues_ofExcept fun decision => ?_
    split_ifs
    · trivial
    · refine issues_ask (plain _ trivial) fun moved => issues_ofExcept fun _ => ?_
      refine issues_ask create fun created => issues_ofExcept fun _ => ?_
      exact issues_ask (plain _ trivial) fun saved => issues_ofExcept fun _ => trivial

theorem eligibleOrder_issues (c : ClaimCall) (orders : List String) :
    Issues Plain (eligibleOrder c orders) := by
  induction orders with
  | nil => trivial
  | cons orderId rest ih =>
    unfold eligibleOrder
    split_ifs
    · exact ih
    · refine issues_ask trivial fun found => ?_
      split
      · exact ih
      · split_ifs
        · exact ih
        · trivial

theorem capable_issues (c : ClaimCall) (capability : String) : Issues Plain (capable x c capability) := by
  refine issues_ask trivial fun held => ?_
  split_ifs
  · trivial
  · exact issues_ask trivial fun answer => issues_ofExcept fun grant => trivial
  · trivial

theorem discoverAndClaim_issues (c : ClaimCall) : Issues Plain (discoverAndClaim x c) := by
  unfold discoverAndClaim
  split_ifs
  · trivial
  · refine issues_ask trivial fun orders => (eligibleOrder_issues c orders).bind fun found => ?_
    split
    · trivial
    · refine (capable_issues x c _).bind fun able => ?_
      split_ifs
      · trivial
      · refine issues_ask trivial fun success => ?_
        split_ifs
        · trivial
        · exact .perform trivial

theorem preflight_issues (c : SettleCall) : Issues Plain (preflight c) := by
  unfold preflight
  dsimp only
  split_ifs
  · trivial
  · trivial
  · refine issues_ask trivial fun found => issues_ofExcept fun escrow => ?_
    split
    · trivial
    · split_ifs
      · trivial
      · refine issues_ask trivial fun held => ?_
        split_ifs
        · trivial
        · trivial

theorem saveWork_issues (saves : Bool) : Issues Plain (saveWork saves) := by
  unfold saveWork
  split_ifs
  · exact issues_ask trivial fun saved => .ofExcept saved
  · trivial

/-- A settlement sets the status of the escrow it was given and of its order. -/
theorem settle_issues (c : SettleCall) (e : EscrowAgreement) (d : WorkDeliverable)
    (r : WorkDeliverableReceipt) (plain : ∀ c, Plain c → P c)
    (escrow : ∀ p, P (.updateEscrowStatus e.key .released p))
    (order : ∀ deliverableId, P (.updateOrderStatus c.order.key .completed deliverableId)) :
    Issues P (settle c e d r) := by
  refine issues_ask (plain _ trivial) fun released => issues_ofExcept fun _ => ?_
  refine issues_ask (plain _ trivial) fun deposited => issues_ofExcept fun _ => ?_
  refine issues_ask (plain _ trivial) fun reconciled => issues_ofExcept fun event => ?_
  have closing : Issues P (do
      let _ ← ask (.updateEscrowStatus e.key .released
        ⟨some c.providerTenantId, some c.providerOrgId, some (revenueTx c.order.orderId)⟩)
      let _ ← ask (.updateOrderStatus c.order.key .completed (some d.deliverableId))
      return (⟨c.order.orderId, c.workOrderId, d, r, event⟩ : SettlementOutcome)) :=
    issues_ask (escrow _) fun _ => issues_ask (order _) fun _ => trivial
  split_ifs
  · exact issues_ask (plain _ trivial) fun saved => issues_ofExcept fun _ => closing
  · exact closing

theorem executeAndSettle_issues (c : SettleCall) (plain : ∀ c, Plain c → P c)
    (escrow : ∀ key p, P (.updateEscrowStatus key .released p))
    (order : ∀ deliverableId, P (.updateOrderStatus c.order.key .completed deliverableId)) :
    Issues P (executeAndSettle x c) := by
  have saving : Issues P (saveWork c.saves) := (saveWork_issues c.saves).mono plain
  refine ((preflight_issues c).mono plain).bind fun e => saving.bind fun _ => ?_
  refine issues_ofExcept fun d => saving.bind fun _ => saving.bind fun _ => ?_
  split_ifs
  · trivial
  · exact settle_issues c e d _ plain (escrow e.key) order

/-- A refund sets the status of an escrow and of an order. -/
theorem refundEscrow_issues (c : RefundCall) (plain : ∀ c, Plain c → P c)
    (escrow : ∀ key, P (.updateEscrowStatus key .refunded {}))
    (order : ∀ key, P (.updateOrderStatus key .cancelled none)) : Issues P (refundEscrow c) := by
  refine issues_ask (plain _ trivial) fun found => ?_
  dsimp only
  split
  · trivial
  · split_ifs
    · trivial
    · refine issues_ask (plain _ trivial) fun found => issues_ofExcept fun escrow => ?_
      split
      · trivial
      · split_ifs
        · trivial
        · refine issues_ask (plain _ trivial) fun moved => issues_ofExcept fun _ => ?_
          refine issues_ask (escrow _) fun _ => issues_ask (order _) fun _ => ?_
          refine issues_ask (plain _ trivial) fun found => issues_ofExcept fun escrow => ?_
          split
          · trivial
          · trivial

end Issued

end Marketplace
