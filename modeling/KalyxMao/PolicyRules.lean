import KalyxMao.BlockchainIntents
import KalyxMao.TokenBinding

/-!
# The rules of the policy engine

Every rule answers a proposal with nothing or with the reason it objects. The
rules stand with their parameters, defaults and texts as the source has them;
the blockchain rules read the untyped parameters of the proposal, and a value
they cannot convert makes them object or raise.
-/

namespace PolicyRules
open PythonText PythonValues PythonConversions Domain TokenBinding
open BlockchainIntents (addressOfTarget)
open PurchasePolicy (matchesAddress)

inductive AgentRole where
  | ceo
  | researcher
  | strategist
  | financialAnalyst
  deriving DecidableEq

def AgentRole.value : AgentRole → String
  | .ceo => "CEO"
  | .researcher => "RESEARCHER"
  | .strategist => "STRATEGIST"
  | .financialAnalyst => "FINANCIAL_ANALYST"

structure PolicyAgent extends AgentRecord where
  role : AgentRole
  performanceScore : PyFloat

/-- An organisation as the rules see it. -/
structure PolicyOrganisation where
  id : String
  tenantId : String
  treasuryBalance : Int
  state : OrgState
  agents : List (String × PolicyAgent)

/-- What the executors see of it. -/
def PolicyOrganisation.toOrganisation (org : PolicyOrganisation) : Organisation where
  id := org.id
  tenantId := org.tenantId
  agents := org.agents.map fun entry => (entry.1, entry.2.toAgentRecord)

/-- What the tokens are bound to of it. -/
def PolicyOrganisation.toToken (org : PolicyOrganisation) : TokenOrganisation := ⟨org.id, org.state⟩

theorem lookup_toOrganisation (org : PolicyOrganisation) (key : String) :
    org.toOrganisation.agents.lookup key = (org.agents.lookup key).map PolicyAgent.toAgentRecord := by
  show (org.agents.map fun entry => (entry.1, entry.2.toAgentRecord)).lookup key = _
  induction org.agents with
  | nil => rfl
  | cons entry agents ih =>
    rw [List.map_cons, List.lookup_cons, List.lookup_cons]
    cases key == entry.1 with
    | true => rfl
    | false => exact ih

/-- Texts, and the float operations the rules compute with. -/
structure RuleText extends TextRules where
  floatOf : PyValue → Except PyError PyFloat
  divHundred : PyFloat → PyFloat
  fixedTwo : PyFloat → String

/-- The keyword arguments of `evaluate`: the balance `get_balance("TREASURY")` of a ledger that
is given, and the ids of the engine's rules. -/
structure Keywords where
  ledger : Option Int
  rules : Option (List String)

abbrev Verdict := Except PyError (Option String)

structure PolicyRule where
  ruleId : String
  description : String
  evaluate : ActionProposal → PolicyAgent → PolicyOrganisation → Keywords → Verdict

section Governance

def spendLimitRule : PolicyRule where
  ruleId := "RULE-01"
  description := "Requested credits cannot exceed agent authority ceiling"
  evaluate p agent _ _ :=
    if agent.authorityCeiling < p.requestedCredits then .ok (some
      s!"Requested {p.requestedCredits} credits exceeds authority ceiling of {agent.authorityCeiling}")
    else .ok none

def treasuryBalanceRule : PolicyRule where
  ruleId := "RULE-02"
  description := "Requested credits cannot exceed organisation treasury balance"
  evaluate p _ org k :=
    let available := k.ledger.getD org.treasuryBalance
    if available < p.requestedCredits then .ok (some
      s!"Requested {p.requestedCredits} credits exceeds available treasury ({available})")
    else .ok none

def rolePermissionRule : PolicyRule where
  ruleId := "RULE-03"
  description := "Action type must be in agent allowed action types"
  evaluate p agent _ _ :=
    if p.actionType ∉ agent.allowedActionTypes then .ok (some
      s!"Action type '{p.actionType.value}' is not permitted for role '{agent.role.value}'")
    else .ok none

def defaultTargets : List String :=
  ["sandbox://market_index_fund", "sandbox://verified_bonds", "api://market_data/v1/summary",
    "internal://research_synthesis"]

/-- `given or default` for a set that may be left out. -/
def setOr {α : Type} (given : Option (List α)) (fallback : List α) : List α :=
  match given with
  | none => fallback
  | some [] => fallback
  | some xs => xs

def purchaseRuleId : String := "RULE-ORBIO-PURCHASE-01"

/-- The first test that applies decides whether the target is looked up at all. -/
def targetAllowlistRule (approvedTargets : Option (List String)) : PolicyRule where
  ruleId := "RULE-04"
  description := "Target endpoint must be on the approved allowlist"
  evaluate p _ _ k :=
    if p.actionType = .blockchainTransaction ∨
        ["blockchain://", "evm://", "sepolia://"].any (startsWith p.target) then .ok none
    else if p.actionType ∈ [.externalInference, .orbioKeyLifecycle] then .ok none
    else if p.actionType = .orbioCreditPurchase then
      if purchaseRuleId ∈ k.rules.getD [] then .ok none
      else .ok (some
        "ORBIO_CREDIT_PURCHASE not authorized: dedicated OrbioPurchaseGovernanceRule is required but not registered in PolicyEngine")
    else if ["orbio://", "marketplace://", "capability://"].any (startsWith p.target) then .ok none
    else if p.actionType ∈ [.proposeCapabilityExpansion, .publishMarketplaceOrder,
        .claimMarketplaceOrder, .releaseMarketplaceEscrow, .executeWorkOrder, .collectRevenue] then
      .ok none
    else if p.target ∉ setOr approvedTargets defaultTargets then .ok (some
      s!"Target '{p.target}' is not on the approved destination allowlist")
    else .ok none

def orgPauseRule : PolicyRule where
  ruleId := "RULE-06"
  description := "No actions may execute when organisation is paused"
  evaluate _ _ org _ :=
    if org.state = .paused then .ok (some "Organisation is PAUSED by emergency kill switch")
    else .ok none

def agentStatusRule : PolicyRule where
  ruleId := "RULE-07"
  description := "Suspended or retired agents cannot propose actions; restricted agents can only propose internal analysis with zero credits"
  evaluate p agent _ _ :=
    if agent.status = .suspended ∨ agent.status = .retired then .ok (some
      s!"Agent '{agent.id}' is {agent.status.value} and cannot propose actions")
    else if agent.status = .restricted then
      if p.actionType ≠ .internalAnalysis then .ok (some
        s!"Agent '{agent.id}' is RESTRICTED and can only perform INTERNAL_ANALYSIS")
      else if 0 < p.requestedCredits then .ok (some
        s!"Agent '{agent.id}' is RESTRICTED and cannot request credits (>0)")
      else .ok none
    else .ok none

end Governance

section Blockchain
variable (t : RuleText)

def isBlockchainAction (p : ActionProposal) : Bool :=
  p.actionType = .blockchainTransaction ||
    ["blockchain://", "evm://", "sepolia://"].any (startsWith p.target) ||
    hasKey p.parameters "chain_id"

/-- `f"{v}"`. -/
def shown (v : PyValue) : String := strOf t.toTextRules v

/-- `int(v)`, with the conversion errors a rule answers by objecting. -/
def intOr (v : PyValue) (objection : String) (judge : Int → Verdict) : Verdict :=
  match intOf t.toTextRules v with
  | .ok i => judge i
  | .error e => if isConversionError e then .ok (some objection) else .error e

def allowedChainRule (allowedChainIds : Option (List Int)) : PolicyRule where
  ruleId := "RULE-BC-01"
  description := "Only configured EVM networks and chain IDs may be targeted"
  evaluate p _ _ _ :=
    let allowed := setOr allowedChainIds [11155111]
    if !isBlockchainAction p then .ok none
    else
      match get p.parameters "chain_id" with
      | .none => .ok (some "Blockchain proposal must specify a target 'chain_id'")
      | chainId =>
        intOr t chainId s!"Invalid chain_id '{shown t chainId}'; must be an integer" fun cid =>
          if cid ∉ allowed then
            let ids := shown t (.list ((allowed.mergeSort fun a b => a ≤ b).map .int))
            .ok (some
              s!"Chain ID {cid} is not in the allowed network list ({ids}); mainnet and unapproved chains are strictly prohibited")
          else .ok none

def recipientAllowlistRule (approvedRecipients : Option (List String))
    (allowAnyValidTestnet : Bool) : PolicyRule where
  ruleId := "RULE-BC-02"
  description := "Recipient address must be a valid EVM address on the approved allowlist"
  evaluate p _ _ _ :=
    let approved := (approvedRecipients.getD []).map t.lower
    if !isBlockchainAction p then .ok none
    else
      let named := firstTruthy [get p.parameters "recipient", .str (addressOfTarget p.target)]
      if !truthy named then .ok (some "Blockchain proposal must specify a 'recipient' address")
      else
        let recipient := t.lower (String.ofList (strip t.toTextRules (shown t named).toList))
        if !matchesAddress recipient then .ok (some
          s!"Invalid EVM recipient address '{recipient}'; must be a 42-char 0x-prefixed hex address")
        else if approved ≠ [] ∧ recipient ∉ approved then .ok (some
          s!"Recipient address '{recipient}' is not on the approved destination allowlist")
        else if approved = [] ∧ !allowAnyValidTestnet then .ok (some
          "No approved recipient allowlist configured for blockchain actions")
        else .ok none

def transactionAmountCeilingRule (maxCredits : Int) (maxWei : Int) : PolicyRule where
  ruleId := "RULE-BC-03"
  description := "Transaction credit and value amount must not exceed the policy ceiling"
  evaluate p _ _ _ :=
    if !isBlockchainAction p then .ok none
    else if maxCredits < p.requestedCredits then .ok (some
      s!"Requested {p.requestedCredits} credits exceeds blockchain action ceiling of {maxCredits}")
    else
      match get p.parameters "amount_wei" with
      | .none => .ok none
      | amountWei =>
        intOr t amountWei s!"Invalid amount_wei '{shown t amountWei}'" fun weiVal =>
          if maxWei < weiVal then .ok (some
            s!"Transaction value of {weiVal} wei exceeds maximum allowable ceiling of {maxWei} wei")
          else if weiVal < 0 then .ok (some "Transaction value cannot be negative")
          else .ok none

/-- `max_fee_per_gas` and `gas_limit` are looked at in turn. -/
def gasExposureRule (maxFeePerGas maxGasLimit : Int) : PolicyRule where
  ruleId := "RULE-BC-04"
  description := "Gas price and gas limit must not exceed safe exposure thresholds"
  evaluate p _ _ _ :=
    let bounded (key label : String) (bound : Int) : Verdict :=
      match get p.parameters key with
      | .none => .ok none
      | v =>
        intOr t v s!"Invalid {key} '{shown t v}'" fun i =>
          if bound < i then .ok (some
            s!"{label} ({shown t v}) exceeds maximum allowable ceiling of {bound}")
          else .ok none
    if !isBlockchainAction p then .ok none
    else do
      match ← bounded "max_fee_per_gas" "Max fee per gas" maxFeePerGas with
      | some objection => return some objection
      | none => bounded "gas_limit" "Gas limit" maxGasLimit

def intentMatchRule : PolicyRule where
  ruleId := "RULE-BC-05"
  description := "Transaction intent parameters must match proposal specifications"
  evaluate p _ _ _ :=
    let amount := get p.parameters "amount_credits"
    if !isBlockchainAction p then .ok none
    else if hasKey p.parameters "amount_credits" ∧ !valuesEqual amount (.int p.requestedCredits) then
      .ok (some
        s!"Parameter amount_credits ({shown t amount}) does not match proposal requested_credits ({p.requestedCredits})")
    else .ok none

end Blockchain

section Capabilities
variable (t : RuleText)

/-- Scores above one are read as percentages. -/
def unitScale (f : PyFloat) : PyFloat := if (PyFloat.finite 1).lt f then t.divHundred f else f

/-- `min(a, b)` of two floats. -/
def minFloat (a b : PyFloat) : PyFloat := if b.lt a then b else a

/-- An agent record always has a score, so the branches for a missing one are not taken. -/
def capabilityEvolutionRule (minPerformanceThreshold : PyFloat) : PolicyRule where
  ruleId := "RULE-CAPABILITY-01"
  description := "Governed capability expansion requires proven empirical track record and anti-self-granting validation"
  evaluate p _ org _ :=
    if p.actionType ≠ .proposeCapabilityExpansion then .ok none
    else
      let target := firstTruthy [get p.parameters "target_agent_id", .str p.proposingAgentId]
      let proposer := firstTruthy [get p.parameters "proposer_agent_id", .str p.proposingAgentId]
      if valuesEqual target proposer then .ok (some
        s!"Agent '{shown t target}' cannot self-grant capabilities. Expansion proposals must originate from an independent supervisor.")
      else do
        hashable target
        let found := match target with
          | .str key => org.agents.lookup key
          | _ => none
        match found with
        | none => .ok (some
            s!"Target agent '{shown t target}' does not belong to organisation '{org.id}'.")
        | some targetAgent =>
          let score ← match get p.parameters "performance_score" with
            | .none => .ok targetAgent.performanceScore
            | param => (t.floatOf param).map fun f => minFloat f targetAgent.performanceScore
          let normalized := unitScale t score
          let threshold :=
            if (PyFloat.finite 1).lt minPerformanceThreshold ∨ minPerformanceThreshold = .nan then
              t.divHundred minPerformanceThreshold
            else minPerformanceThreshold
          if normalized.lt threshold then .ok (some
            s!"Agent '{shown t target}' performance score {t.fixedTwo normalized} is below the required capability promotion threshold of {t.fixedTwo threshold}.")
          else .ok none

end Capabilities

section Configured
variable (t : RuleText)

/-- The profile of an organisation is read at every call; an empty list limits nothing. -/
def configuredGovernanceRule (config : List (String × PyValue)) : PolicyRule where
  ruleId := "RULE-CONFIGURED-ORG"
  description := "Organisation policy profile limits spend, actions, targets and providers"
  evaluate p _ _ _ := do
    let ceiling ← intOf t.toTextRules (getD config "spending_ceiling" (.int 25))
    let perAgent ← intOf t.toTextRules (getD config "per_agent_ceiling" (.int ceiling))
    if ceiling < p.requestedCredits then
      return some s!"Organisation policy ceiling exceeded: {p.requestedCredits} > {ceiling}"
    if perAgent < p.requestedCredits then
      return some s!"Agent policy ceiling exceeded: {p.requestedCredits} > {perAgent}"
    let allowedActions ← setOfValue (get config "allowed_actions")
    if allowedActions ≠ [] ∧ !(← inSet (.str p.actionType.value) allowedActions) then
      return some
        s!"Action '{p.actionType.value}' is not allowed by the organisation policy profile"
    let allowedTargets ← setOfValue (get config "allowed_targets")
    if allowedTargets ≠ [] ∧ !(← inSet (.str p.target) allowedTargets) then
      return some s!"Target '{p.target}' is not allowed by the organisation policy profile"
    let allowedProviders ← setOfValue (get config "allowed_providers")
    if allowedProviders ≠ [] then
      let provider := firstTruthy [get p.parameters "provider", get p.parameters "provider_name"]
      if !truthy provider then
        return some "Provider 'unspecified' is not allowed by the organisation policy profile"
      if !(← inSet provider allowedProviders) then
        return some
          s!"Provider '{shown t provider}' is not allowed by the organisation policy profile"
    return none

end Configured

/-- The rules of an engine that is given none. -/
def defaultRules (t : RuleText) : List PolicyRule :=
  [orgPauseRule, agentStatusRule, treasuryBalanceRule, spendLimitRule, rolePermissionRule,
    targetAllowlistRule none, allowedChainRule t none, recipientAllowlistRule t none true,
    transactionAmountCeilingRule t 50 50000000000000000, gasExposureRule t 100000000000 200000,
    intentMatchRule t, capabilityEvolutionRule t (.finite (3602879701896397 / 4503599627370496))]

end PolicyRules
