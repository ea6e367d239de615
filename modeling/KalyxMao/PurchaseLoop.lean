import KalyxMao.PurchaseBridge
import KalyxMao.PurchaseReconciliation

/-!
# The purchasing agent's loop

The loop sizes a purchase to what is still needed, asks the policy, waits for a
human where the policy says so, hands the operation to the provider, and counts
what was verified as spent. An ambiguous execution is reconciled first.

The record beside the state notes what the loop asked of others, in order; the
loop never reads it.
-/

namespace PurchaseLoop
open PythonText PythonValues PythonConversions Ledger Domain EffectPrograms PurchaseVerifier
open PurchasePolicy PurchaseBridge
open ConsequentialOperation (transitionTo_ok transitionTo_parameters)
open PurchaseReconciliation (Desk Input PurchaseReconciliationOutcome reconcileFound)

section Model

inductive LoopStatus where
  | ready
  | waitingHuman
  | waitingReconcile
  | objectiveComplete
  | stoppedPolicyDeny
  | stoppedSpendLimit
  | stoppedIterationLimit
  | stoppedFailure
  | stoppedUnknown
  | stoppedCrossTenant
  deriving DecidableEq

def LoopStatus.value : LoopStatus → String
  | .ready => "READY"
  | .waitingHuman => "WAITING_HUMAN"
  | .waitingReconcile => "WAITING_RECONCILE"
  | .objectiveComplete => "OBJECTIVE_COMPLETE"
  | .stoppedPolicyDeny => "STOPPED_POLICY_DENY"
  | .stoppedSpendLimit => "STOPPED_SPEND_LIMIT"
  | .stoppedIterationLimit => "STOPPED_ITERATION_LIMIT"
  | .stoppedFailure => "STOPPED_FAILURE"
  | .stoppedUnknown => "STOPPED_UNKNOWN"
  | .stoppedCrossTenant => "STOPPED_CROSS_TENANT"

structure AgentLoopState where
  agentId : String
  tenantId : String
  organisationId : String
  missionId : String
  targetCredit : Int
  acquiredCredit : Int := 0
  activationConfirmed : Bool := false
  cumulativeUsdgSpent : Int := 0
  loopIteration : Int := 0
  status : LoopStatus := .ready
  lastIntentHash : Option String := none
  lastVerificationResult : Option String := none
  completedIntentHashes : List String := []
  pendingOperationId : Option String := none
  reasons : List String := []

def AgentLoopState.objectiveMet (s : AgentLoopState) : Bool :=
  s.targetCredit ≤ s.acquiredCredit && s.activationConfirmed

/-- `PurchaseVerificationResult`, as the loop state stores it. -/
def verificationText : PurchaseVerificationResult → String
  | .verified => "VERIFIED"
  | .rejected => "REJECTED"
  | .pendingEvidence => "PENDING_EVIDENCE"

/-- What the loop asked of others. `interrupted` is a step that raised after it had handed
an operation to the provider. -/
inductive Event where
  | supplied (approval : HumanPurchaseApproval)
  | asked (intentHash : String)
  | authorized (intentHash : String) (approval : HumanPurchaseApproval)
  | handed (op : ConsequentialOperation)
  | ambiguous (operationId : String)
  | resolved (operationId : String)
  | interrupted

structure Loop where
  state : AgentLoopState
  pendingApproval : Option HumanPurchaseApproval
  pendingIntent : Option OrbioPurchaseIntent
  pendingOperation : Option ConsequentialOperation
  record : List Event

/-- A loop as it is constructed around a state. -/
def Loop.new (state : AgentLoopState) : Loop := ⟨state, none, none, none, []⟩

structure LoopSettings where
  org : Organisation
  hasReconciler : Bool
  hasLedger : Bool
  maxIterations : Int := 5
  maxCumulativeUsdg : Int := 25000000
  maxSingleUsdg : Int := 10000000
  defaultBeneficiary : String
  chainId : Int := 46630
  network : String := "robinhood-testnet"
  expectedFillRateBps : Int := 9800
  providerName : String

structure AgentPurchaseProposal where
  agentId : String
  tenantId : String
  organisationId : String
  missionId : String
  operationId : String
  intent : OrbioPurchaseIntent
  reason : String
  expectedOutcome : String

structure LoopStepResult where
  status : LoopStatus
  proposal : Option AgentPurchaseProposal := none
  preparation : Option PurchasePreparation := none
  operation : Option ConsequentialOperation := none
  execution : Option ProviderExecutionResult := none
  verificationResult : Option String := none
  message : String

/-- What others answer during one step: the policy, `uuid4`, the ledger, the provider, the
memory of the verifier and the desk of the reconciler. The last three are what a
reconciliation that raises has set on the operation object. -/
structure Answers where
  policy : OrbioPurchaseIntent → Option HumanPurchaseApproval → Except PyError RecordedDecision
  uuidHex : String
  getBalance : String → Int
  transfer : String → String → Nat → String → String → Except PyError Unit
  execute : ConsequentialOperation → Except PyError ProviderExecutionResult
  verified : Verified
  desk : Desk
  input : Input
  leftState : OperationState
  leftErrorMessage : Option String
  leftReference : Option String

abbrev Outcome := Loop × Except PyError LoopStepResult

namespace Loop

def note (s : Loop) (e : Event) : Loop := { s with record := s.record ++ [e] }

def enter (s : Loop) (status : LoopStatus) : Loop := { s with state := { s.state with status } }

def touch (s : Loop) (reason : String) : Loop :=
  { s with state := { s.state with reasons := s.state.reasons ++ [reason] } }

/-- A fresh intent uses up an iteration. -/
def begin (s : Loop) (intentHash : String) : Loop :=
  { s with
    state := { s.state with
      loopIteration := s.state.loopIteration + 1
      lastIntentHash := some intentHash } }

/-- A status reached without a proposal. -/
def stop (s : Loop) (status : LoopStatus) (reason message : String) : Outcome :=
  ((s.enter status).touch reason, .ok { status := status, message := message })

end Loop

variable (r : ApprovalRules) (cfg : LoopSettings) (a : Answers)

section Execution

def holdsEscrow (op : ConsequentialOperation) : Bool := cfg.hasLedger && decide (0 < op.amount)

/-- The treasury's share of the operation goes to escrow; `false` where it has too little. -/
def lockEscrow (op : ConsequentialOperation) : Except PyError Bool :=
  if holdsEscrow cfg op then
    if a.getBalance treasury < op.amount then .ok false
    else (a.transfer treasury escrow op.amount s!"Escrow for loop operation {op.id}"
      s!"esc-loop-{op.id}").map fun _ => true
  else .ok true

def leaveEscrow (op : ConsequentialOperation) (target memo transactionId : String) :
    Except PyError Unit :=
  if holdsEscrow cfg op && decide ((op.amount : Int) ≤ a.getBalance escrow) then
    a.transfer escrow target op.amount memo transactionId
  else .ok ()

def submit (op : ConsequentialOperation) : Except PyError ConsequentialOperation := do
  let authorized ← op.transitionTo .authorized none none
  let escrowed ← authorized.transitionTo .escrowed none none
  escrowed.transitionTo .submitted none none

/-- `verify_execution`. -/
def verifyExecution (i : OrbioPurchaseIntent) (result : ProviderExecutionResult)
    (op : ConsequentialOperation) : Except PyError PurchaseVerificationReport := do
  let evidence ← extractEvidenceFromExecution r.text result (some op)
  let judged ← verify r.toHashing r.text a.verified i evidence (some result.outcome)
    result.providerReference
  return judged.1

/-- One execution: the proposal, its preparation, the operation as submitted. -/
structure Attempt where
  proposal : AgentPurchaseProposal
  preparation : PurchasePreparation
  operation : ConsequentialOperation

def Attempt.result (x : Attempt) (status : LoopStatus) (op : ConsequentialOperation)
    (execution : ProviderExecutionResult) (message : String) : LoopStepResult :=
  { status := status
    proposal := some x.proposal
    preparation := some x.preparation
    operation := some op
    execution := some execution
    message := message }

def awaitReconciliation (s : Loop) (x : Attempt) (result : ProviderExecutionResult) : Outcome :=
  match x.operation.transitionTo .unknown (some "timeout") none with
  | .error e => (s, .error e)
  | .ok op =>
    let s := { s with
      pendingOperation := some op
      pendingIntent := some x.proposal.intent
      state := { s.state with pendingOperationId := some op.id, status := .waitingReconcile } }
    ((s.touch "Execution UNKNOWN; must reconcile before next purchase").note (.ambiguous op.id),
      .ok (x.result .waitingReconcile op result "UNKNOWN — blocked until reconciliation"))

def failExecution (s : Loop) (x : Attempt) (result : ProviderExecutionResult) : Outcome :=
  let op := x.operation
  let failed : Except PyError ConsequentialOperation := do
    leaveEscrow cfg a op treasury s!"Escrow refund for failed operation {op.id}" s!"ref-loop-{op.id}"
    op.transitionTo .failed result.errorMessage none
  match failed with
  | .error e => (s, .error e)
  | .ok op =>
    let message := strOf r.text (optionalStr result.errorMessage)
    ({ (s.enter .stoppedFailure).touch s!"Execution failed: {message}" with pendingApproval := none },
      .ok (x.result .stoppedFailure op result "Execution failed"))

def rejectExecution (s : Loop) (x : Attempt) (result : ProviderExecutionResult)
    (report : PurchaseVerificationReport) : Outcome :=
  let op := x.operation
  let reason := s!"Verification rejected: {strOf r.text (texts report.codes)}"
  let failed : Except PyError ConsequentialOperation := do
    leaveEscrow cfg a op treasury s!"Escrow refund for rejected verification {op.id}"
      s!"ref-ver-{op.id}"
    op.transitionTo .failed (some reason) none
  match failed with
  | .error e => (s, .error e)
  | .ok op =>
    ({ (s.enter .stoppedFailure).touch reason with pendingApproval := none },
      .ok { x.result .stoppedFailure op result "Verification rejected" with
        verificationResult := some (verificationText report.result) })

/-- The counters after a verified purchase. -/
def AgentLoopState.credited (s : AgentLoopState) (intentHash : String) (credit usdg : Int) :
    AgentLoopState :=
  { s with
    acquiredCredit := s.acquiredCredit + credit
    cumulativeUsdgSpent := s.cumulativeUsdgSpent + usdg
    activationConfirmed := true
    completedIntentHashes := s.completedIntentHashes ++ [intentHash] }

def completeExecution (s : Loop) (x : Attempt) (result : ProviderExecutionResult)
    (report : PurchaseVerificationReport) : Outcome :=
  let op := x.operation
  let intent := x.proposal.intent
  let succeeded : Except PyError ConsequentialOperation := do
    leaveEscrow cfg a op externalSink s!"Settlement for verified operation {op.id}"
      s!"set-loop-{op.id}"
    op.transitionTo .succeeded none result.providerReference
  match succeeded with
  | .error e => (s, .error e)
  | .ok op =>
    let credit := report.evidence.elim 0 (·.creditOut)
    let usdg := report.evidence.elim (intent.usdgIn : Int) (·.usdgSpent)
    let s : Loop :=
      { state := s.state.credited (intent.computePurchaseIntentHash r.toHashing) credit usdg
        pendingApproval := none
        pendingIntent := none
        pendingOperation := none
        record := s.record }
    let answered (status : LoopStatus) (reason message : String) : Outcome :=
      ((s.enter status).touch reason,
        .ok { x.result status op result message with
          verificationResult := some (verificationText report.result) })
    if s.state.objectiveMet then
      answered .objectiveComplete "Objective met after verified purchase"
        "Objective complete after verified activation"
    else answered .ready "Verified purchase; objective still open"
      "Verified; may propose again if still needed"

/-- From the provider's answer on. -/
def afterExecution (s : Loop) (x : Attempt) (result : ProviderExecutionResult) : Outcome :=
  if result.outcome = outcomeTimeout then awaitReconciliation s x result
  else if result.outcome ≠ outcomeSuccess then failExecution r cfg a s x result
  else
    match verifyExecution r a x.proposal.intent result x.operation with
    | .error e => (s, .error e)
    | .ok report =>
      let s := { s with
        state := { s.state with lastVerificationResult := some (verificationText report.result) } }
      if report.result ≠ .verified then rejectExecution r cfg a s x result report
      else completeExecution r cfg a s x result report

def markInterrupted : Outcome → Outcome
  | (s, .error e) => (s.note .interrupted, .error e)
  | done => done

/-- `provider.execute`, and what follows in the same step. -/
def handOver (s : Loop) (x : Attempt) : Outcome :=
  let s := s.note (.handed x.operation)
  markInterrupted <|
    match a.execute x.operation with
    | .error e => (s, .error e)
    | .ok result => afterExecution r cfg a s x result

/-- `_execute_authorized`. -/
def executeAuthorized (s : Loop) (proposal : AgentPurchaseProposal) (prep : PurchasePreparation) :
    Outcome :=
  match createOperationFromPreparation prep cfg.org cfg.providerName a.uuidHex with
  | .error e => (s, .error e)
  | .ok op =>
    match lockEscrow cfg a op with
    | .error e => (s, .error e)
    | .ok false =>
      let balance := a.getBalance treasury
      match op.transitionTo .failed
          (some s!"Insufficient treasury balance: required {op.amount}, available {balance}") none with
      | .error e => (s, .error e)
      | .ok op =>
        ((s.enter .stoppedSpendLimit).touch "Insufficient treasury balance for escrow",
          .ok { status := .stoppedSpendLimit
                proposal := some proposal
                preparation := some prep
                operation := some op
                message := "Insufficient treasury balance for escrow" })
    | .ok true =>
      match submit op with
      | .error e => (s, .error e)
      | .ok op => handOver r cfg a s ⟨proposal, prep, op⟩

end Execution

section Steps

/-- Sizes the purchase so that the expected fill meets the need. -/
def usdgForCreditNeed (need : Int) : Int :=
  if need ≤ 0 then 0
  else
    let bps := max 1 cfg.expectedFillRateBps
    (need * 10000 + bps - 1) / bps

/-- A proposal asks for no more than one purchase and the whole budget allow. -/
def clampUsdg (s : Loop) (usdgIn : Int) : Int :=
  let usdgIn := if usdgIn > cfg.maxSingleUsdg then cfg.maxSingleUsdg else usdgIn
  let remaining := cfg.maxCumulativeUsdg - s.state.cumulativeUsdgSpent
  if usdgIn > remaining then max 0 remaining else usdgIn

def proposedId (s : Loop) : String :=
  s!"cop-loop-{s.state.agentId}-{s.state.loopIteration + 1}"

def proposedFields (s : Loop) (usdgIn minCreditOut amountCredits : Int) : PurchaseFields where
  tenantId := s.state.tenantId
  organisationId := s.state.organisationId
  missionId := some s.state.missionId
  operationId := proposedId s
  chainId := cfg.chainId
  network := cfg.network
  usdgIn := clampUsdg cfg s usdgIn
  minCreditOut := minCreditOut
  beneficiary := cfg.defaultBeneficiary
  maxFills := 5
  amountCredits :=
    if amountCredits = 0 then max 1 (clampUsdg cfg s usdgIn / 1000000) else amountCredits
  idempotencyKey := s!"{s.state.organisationId}:{s.state.missionId}:{proposedId s}"
  policyDecisionId := s!"dec-loop-{s.state.loopIteration + 1}"
  authorizationTokenHash := s!"tok-loop-{s.state.agentId}"

def proposalOf (s : Loop) (minCreditOut : Int) (reason : String) (intent : OrbioPurchaseIntent) :
    AgentPurchaseProposal where
  agentId := s.state.agentId
  tenantId := s.state.tenantId
  organisationId := s.state.organisationId
  missionId := s.state.missionId
  operationId := proposedId s
  intent := intent
  reason := reason
  expectedOutcome := s!"Activate at least {minCreditOut} CREDIT toward target {s.state.targetCredit}"

/-- `propose_purchase`. A foreign organisation stops the loop. -/
def proposePurchase (s : Loop) (usdgIn minCreditOut amountCredits : Int) (reason : String) :
    Loop × Except PyError AgentPurchaseProposal :=
  if s.state.tenantId ≠ cfg.org.tenantId ∨ s.state.organisationId ≠ cfg.org.id then
    (s.enter .stoppedCrossTenant,
      .error ⟨.permissionError, "Agent tenant/org does not match organisation context"⟩)
  else
    (s, (newPurchaseIntent r.text (proposedFields cfg s usdgIn minCreditOut amountCredits)).map
      (proposalOf s minCreditOut reason))

/-- From a fresh proposal on. -/
def submitProposal (s : Loop) (proposal : AgentPurchaseProposal) : Outcome :=
  let intentHash := proposal.intent.computePurchaseIntentHash r.toHashing
  if intentHash ∈ s.state.completedIntentHashes then
    ((s.enter .objectiveComplete).touch "Duplicate objective intent already completed",
      .ok { status := .objectiveComplete, proposal := some proposal,
            message := "Duplicate intent blocked" })
  else
    let s := s.begin intentHash
    match prepare r proposal.intent (a.policy proposal.intent s.pendingApproval) with
    | .error e => (s, .error e)
    | .ok prep =>
      match prep.policyDecision.result with
      | .humanConfirmationRequired =>
        let s := { (s.enter .waitingHuman) with pendingIntent := some proposal.intent }
        ((s.touch "Human confirmation required").note (.asked intentHash),
          .ok { status := .waitingHuman, proposal := some proposal, preparation := some prep,
                message := "Human confirmation required; agent must wait" })
      | .deny =>
        let codes := strOf r.text (texts prep.policyDecision.denialCodes)
        ((s.enter .stoppedPolicyDeny).touch s!"Policy denied: {codes}",
          .ok { status := .stoppedPolicyDeny, proposal := some proposal, preparation := some prep,
                message := "Policy denied" })
      | .allow => executeAuthorized r cfg a s proposal prep

/-- A step of a loop that is ready. -/
def proposeNext (s : Loop) : Outcome :=
  if cfg.maxIterations ≤ s.state.loopIteration then
    s.stop .stoppedIterationLimit "Iteration limit reached" "Max iterations"
  else if cfg.maxCumulativeUsdg ≤ s.state.cumulativeUsdgSpent then
    s.stop .stoppedSpendLimit "Cumulative spend limit reached" "Spend limit"
  else
    let need := max 0 (s.state.targetCredit - s.state.acquiredCredit)
    if need ≤ 0 then s.stop .objectiveComplete "No credit needed" "No credit needed"
    else
      let remaining := cfg.maxCumulativeUsdg - s.state.cumulativeUsdgSpent
      let usdgIn := min (min (usdgForCreditNeed cfg need) cfg.maxSingleUsdg) remaining
      if usdgIn ≤ 0 then
        (s.enter .stoppedSpendLimit,
          .ok { status := .stoppedSpendLimit, message := "No remaining budget" })
      else
        match proposePurchase r cfg s usdgIn (max 1 ((usdgIn * 90) / 100)) (max 1 (usdgIn / 1000000))
            s!"Need {need} CREDIT for mission; proposing bounded purchase" with
        | (s, .error e) => (s, .error e)
        | (s, .ok proposal) => submitProposal r cfg a s proposal

/-- `_handle_waiting_human`. -/
def handleWaitingHuman (s : Loop) : Outcome :=
  match s.pendingIntent, s.pendingApproval with
  | none, _ =>
    (s.enter .stoppedFailure, .ok { status := .stoppedFailure, message := "Missing pending intent" })
  | some _, none =>
    (s, .ok { status := .waitingHuman, message := "Still waiting for human approval" })
  | some intent, some approval =>
    match prepare r intent (a.policy intent (some approval)) with
    | .error e => (s, .error e)
    | .ok prep =>
      if ¬prep.isAuthorized then
        let s := { (s.enter .waitingHuman) with pendingApproval := none }
        (s.touch "Approval invalid for pending intent; still waiting",
          .ok { status := .waitingHuman, preparation := some prep,
                message := "Approval does not match pending intent" })
      else
        let proposal : AgentPurchaseProposal :=
          { agentId := s.state.agentId
            tenantId := s.state.tenantId
            organisationId := s.state.organisationId
            missionId := s.state.missionId
            operationId := intent.operationId
            intent := intent
            reason := "Resuming after human approval"
            expectedOutcome := "Activate CREDIT after human approval" }
        let s := (s.enter .ready).note
          (.authorized (intent.computePurchaseIntentHash r.toHashing) approval)
        executeAuthorized r cfg a s proposal prep

/-- From the verdict of a reconciliation on. -/
def concludeReconciliation (s : Loop) (intent : OrbioPurchaseIntent)
    (outcome : PurchaseReconciliationOutcome) : Outcome :=
  match outcome.verification with
  | none =>
    (s.enter .stoppedUnknown,
      .ok { status := .stoppedUnknown, message := "No verification on reconcile" })
  | some ver =>
    let s := { s with
      state := { s.state with lastVerificationResult := some (verificationText ver.result) } }
    let answered (s : Loop) (status : LoopStatus) (message : String) : Outcome :=
      (s, .ok { status := status, operation := some outcome.operation,
                verificationResult := some (verificationText ver.result), message := message })
    match ver.result with
    | .pendingEvidence =>
      answered ((s.enter .waitingReconcile).touch "Still UNKNOWN after reconcile attempt")
        .waitingReconcile "Still pending evidence"
    | .rejected =>
      let s := { (s.enter .stoppedFailure) with pendingOperation := none, pendingIntent := none }
      answered ((s.touch "Reconciliation rejected evidence").note (.resolved outcome.operation.id))
        .stoppedFailure "Reconciliation rejected"
    | .verified =>
      let credit := ver.evidence.elim 0 (·.creditOut)
      let usdg := ver.evidence.elim 0 (·.usdgSpent)
      let credited := s.state.credited (intent.computePurchaseIntentHash r.toHashing) credit usdg
      let s := { s with
        state := { credited with pendingOperationId := none }
        pendingOperation := none
        pendingIntent := none }
      let s := s.note (.resolved outcome.operation.id)
      if s.state.objectiveMet then
        let message := "Objective complete after reconciliation"
        answered ((s.enter .objectiveComplete).touch message) .objectiveComplete message
      else
        let message := "Reconciled success; loop may continue"
        answered ((s.enter .ready).touch message) .ready message

/-- `_handle_reconcile`. The reconciler works on the operation object itself. -/
def handleReconcile (s : Loop) : Outcome :=
  match cfg.hasReconciler, s.pendingOperation, s.pendingIntent with
  | true, some op, some intent =>
    match (exec PurchaseReconciliation.respond a.input
        (reconcileFound r.toHashing r.text ⟨op.id, intent, cfg.org⟩ op) a.desk).1 with
    | .error e =>
      let left := { op with
        state := a.leftState
        errorMessage := a.leftErrorMessage
        providerReference := a.leftReference }
      ({ s with pendingOperation := some left }, .error e)
    | .ok outcome =>
      concludeReconciliation r { s with pendingOperation := some outcome.operation } intent outcome
  | _, _, _ => s.stop .stoppedUnknown "UNKNOWN unresolved and no reconciler" "Cannot reconcile"

def step (s : Loop) : Outcome :=
  if s.state.objectiveMet then
    s.stop .objectiveComplete "Objective already complete" "Objective complete"
  else
    match s.state.status with
    | .waitingHuman => handleWaitingHuman r cfg a s
    | .waitingReconcile => handleReconcile r cfg a s
    | .ready => proposeNext r cfg a s
    | status => (s, .ok { status := status, message := s!"Loop stopped: {status.value}" })

end Steps

section Runs

def supplyHumanApproval (s : Loop) (approval : HumanPurchaseApproval) : Loop :=
  { s with pendingApproval := some approval }.note (.supplied approval)

/-- The statuses that end `run_until_terminal`. -/
def LoopStatus.ends : LoopStatus → Bool
  | .ready => false
  | .waitingReconcile => false
  | _ => true

/-- The loop of `run_until_terminal`, with the answers for as many steps as are left. -/
def runSteps (answers : Nat → Answers) : Nat → Loop → Loop × Except PyError (List LoopStepResult)
  | 0, s => (s, .ok [])
  | left + 1, s =>
    match step r cfg (answers left) s with
    | (s, .error e) => (s, .error e)
    | (s, .ok result) =>
      if result.status.ends then (s, .ok [result])
      else
        let rest := runSteps answers left s
        (rest.1, rest.2.map (result :: ·))

def runUntilTerminal (answers : Nat → Answers) (maxSteps : Option Int) (s : Loop) :
    Loop × Except PyError (List LoopStepResult) :=
  runSteps r cfg answers (maxSteps.getD (cfg.maxIterations * 3)).toNat s

/-- What a caller does with the loop. -/
inductive Call where
  | supply (approval : HumanPurchaseApproval)
  | step (answers : Answers)
  | run (maxSteps : Option Int) (answers : Nat → Answers)

def Call.perform (s : Loop) : Call → Loop
  | .supply approval => supplyHumanApproval s approval
  | .step answers => (PurchaseLoop.step r cfg answers s).1
  | .run maxSteps answers => (runUntilTerminal r cfg answers maxSteps s).1

def performAll (s : Loop) (calls : List Call) : Loop := calls.foldl (Call.perform r cfg) s

end Runs

end Model

section Records

/-- The amount an operation was handed over for. -/
def usdgOf (op : ConsequentialOperation) : Int :=
  match get op.parameters "usdg_in" with
  | .int n => n
  | _ => 0

def Event.handedOp : Event → Option ConsequentialOperation
  | .handed op => some op
  | _ => none

/-- The operation asks for what the intent does, and escrows what the intent says. -/
def Carries (i : OrbioPurchaseIntent) (op : ConsequentialOperation) : Prop :=
  usdgOf op = i.usdgIn ∧ op.amount = i.amountCredits

def handedOver (es : List Event) : List ConsequentialOperation := es.filterMap Event.handedOp

def spent (es : List Event) : Int := ((handedOver es).map usdgOf).sum

def noteDecision : Option String → Event → Option String
  | _, .asked intentHash => some intentHash
  | some asked, .authorized intentHash _ => if intentHash = asked then none else some asked
  | waiting, _ => waiting

/-- The intent a human was asked about last, if no approval of it was accepted since. -/
def outstanding (es : List Event) : Option String := es.foldl noteDecision none

def noteAmbiguity : Option String → Event → Option String
  | _, .ambiguous id => some id
  | some id, .resolved id' => if id' = id then none else some id
  | waiting, _ => waiting

/-- The operation whose execution is not known to have succeeded or failed. -/
def unreconciled (es : List Event) : Option String := es.foldl noteAmbiguity none

/-- When an operation may be handed over, after what was recorded before. -/
structure Permitted (cfg : LoopSettings) (before : List Event) (op : ConsequentialOperation) :
    Prop where
  single : usdgOf op ≤ cfg.maxSingleUsdg
  cumulative : spent before + usdgOf op ≤ cfg.maxCumulativeUsdg
  iterations : (handedOver before).length + 1 ≤ cfg.maxIterations
  decided : outstanding before = none
  reconciled : unreconciled before = none

def Fitting (cfg : LoopSettings) (before : List Event) : Event → Prop
  | .handed op => Permitted cfg before op
  | .authorized _ approval => .supplied approval ∈ before
  | _ => True

/-- Every event fits what was recorded before it. -/
def Clean (cfg : LoopSettings) (es : List Event) : Prop :=
  ∀ before e after, es = before ++ e :: after → Fitting cfg before e

variable {cfg : LoopSettings} {es : List Event} {e : Event}

theorem clean_nil : Clean cfg [] := by
  intro before e after same
  simp at same

theorem clean_snoc (clean : Clean cfg es) (fits : Fitting cfg es e) : Clean cfg (es ++ [e]) := by
  intro before e' after same
  rcases List.eq_nil_or_concat after with rfl | ⟨after', last, rfl⟩
  · obtain ⟨rfl, head⟩ := List.append_inj' same rfl
    obtain rfl := List.head_eq_of_cons_eq head
    exact fits
  · rw [List.concat_eq_append, ← List.cons_append, ← List.append_assoc] at same
    exact clean before e' after' (List.append_inj' same rfl).1

theorem handedOver_snoc (op : ConsequentialOperation) :
    handedOver (es ++ [.handed op]) = handedOver es ++ [op] := by
  simp [handedOver, Event.handedOp]

theorem handedOver_quiet (quiet : e.handedOp = none) : handedOver (es ++ [e]) = handedOver es := by
  simp [handedOver, quiet]

theorem spent_snoc (op : ConsequentialOperation) :
    spent (es ++ [.handed op]) = spent es + usdgOf op := by
  simp [spent, handedOver_snoc]

theorem spent_quiet (quiet : e.handedOp = none) : spent (es ++ [e]) = spent es := by
  rw [spent, handedOver_quiet quiet, spent]

theorem outstanding_snoc : outstanding (es ++ [e]) = noteDecision (outstanding es) e := by
  simp [outstanding]

theorem unreconciled_snoc : unreconciled (es ++ [e]) = noteAmbiguity (unreconciled es) e := by
  simp [unreconciled]

theorem unreconciled_asked (intentHash : String) :
    unreconciled (es ++ [.asked intentHash]) = unreconciled es := by
  rw [unreconciled_snoc]
  cases unreconciled es with
  | none => rfl
  | some id => rfl

theorem unreconciled_authorized (intentHash : String) (approval : HumanPurchaseApproval) :
    unreconciled (es ++ [.authorized intentHash approval]) = unreconciled es := by
  rw [unreconciled_snoc]
  cases unreconciled es with
  | none => rfl
  | some id => rfl

theorem unreconciled_supplied (approval : HumanPurchaseApproval) :
    unreconciled (es ++ [.supplied approval]) = unreconciled es := by
  rw [unreconciled_snoc]
  cases unreconciled es with
  | none => rfl
  | some id => rfl

theorem outstanding_supplied (approval : HumanPurchaseApproval) :
    outstanding (es ++ [.supplied approval]) = outstanding es := by
  rw [outstanding_snoc]
  cases outstanding es with
  | none => rfl
  | some id => rfl

/-- The last operation handed over in a clean record bounds what all of them were for. -/
theorem Clean.totals (clean : Clean cfg es) :
    handedOver es = [] ∨
      (spent es ≤ cfg.maxCumulativeUsdg ∧ ((handedOver es).length : Int) ≤ cfg.maxIterations) := by
  induction es using List.reverseRecOn with
  | nil => exact .inl rfl
  | append_singleton es e ih =>
    have earlier : Clean cfg es := by
      intro before e' after same
      exact clean before e' (after ++ [e]) (by rw [same, List.append_assoc, List.cons_append])
    cases e with
    | handed op =>
      have permitted : Permitted cfg es op := clean es (.handed op) [] rfl
      right
      rw [spent_snoc, handedOver_snoc]
      constructor
      · exact permitted.cumulative
      · simpa using permitted.iterations
    | _ =>
      rw [spent_quiet rfl, handedOver_quiet rfl]
      exact ih earlier

theorem mem_handedOver {op : ConsequentialOperation} (mem : op ∈ handedOver es) :
    ∃ before after, es = before ++ .handed op :: after := by
  obtain ⟨e, present, same⟩ := List.mem_filterMap.mp mem
  cases e with
  | handed op' =>
    obtain rfl := Option.some.inj same
    exact List.append_of_mem present
  | _ => cases same

end Records

section Invariant
variable (r : ApprovalRules) (cfg : LoopSettings)

/-- One more execution of the intent stays within every limit. -/
structure Affordable (s : Loop) (i : OrbioPurchaseIntent) : Prop where
  counted : spent s.record ≤ s.state.cumulativeUsdgSpent
  budget : spent s.record + i.usdgIn ≤ cfg.maxCumulativeUsdg
  single : (i.usdgIn : Int) ≤ cfg.maxSingleUsdg
  begun : (handedOver s.record).length + 1 ≤ s.state.loopIteration
  iterations : s.state.loopIteration ≤ cfg.maxIterations
  reconciled : unreconciled s.record = none

structure Ready (s : Loop) : Prop where
  counted : spent s.record ≤ s.state.cumulativeUsdgSpent
  begun : (handedOver s.record).length ≤ s.state.loopIteration
  decided : outstanding s.record = none
  reconciled : unreconciled s.record = none

/-- The pending operation is ambiguous, and its amount not yet counted. -/
structure Unresolved (s : Loop) (i : OrbioPurchaseIntent) (id : String) : Prop where
  counted : spent s.record ≤ s.state.cumulativeUsdgSpent + i.usdgIn
  begun : (handedOver s.record).length ≤ s.state.loopIteration
  decided : outstanding s.record = none
  unreconciled : unreconciled s.record = some id

/-- What the status of a loop says about its record; a stopped loop does nothing more. -/
def Standing (s : Loop) : Prop :=
  match s.state.status with
  | .ready => Ready s
  | .waitingHuman => ∀ i, s.pendingIntent = some i →
      Affordable cfg s i ∧ outstanding s.record = some (i.computePurchaseIntentHash r.toHashing)
  | .waitingReconcile => ∀ i op, s.pendingIntent = some i → s.pendingOperation = some op →
      Unresolved s i op.id
  | _ => True

structure Tidy (s : Loop) : Prop where
  clean : Clean cfg s.record
  supplied : ∀ approval, s.pendingApproval = some approval → .supplied approval ∈ s.record

structure Sound (s : Loop) : Prop extends Tidy cfg s where
  standing : Standing r cfg s

/-- A loop none of whose steps was interrupted is sound. -/
def Inv (s : Loop) : Prop := .interrupted ∈ s.record ∨ Sound r cfg s

/-- What is left to say of a step that handed an operation over. -/
def Concludes (outcome : Outcome) : Prop := ∀ result, outcome.2 = .ok result → Sound r cfg outcome.1

/-- An operation was handed over in this very step and is not yet accounted for. -/
structure Underway (s : Loop) (i : OrbioPurchaseIntent) : Prop where
  counted : spent s.record ≤ s.state.cumulativeUsdgSpent + i.usdgIn
  begun : (handedOver s.record).length ≤ s.state.loopIteration
  decided : outstanding s.record = none
  reconciled : unreconciled s.record = none

variable {r cfg} {a : Answers} {s s' : Loop} {i : OrbioPurchaseIntent}

theorem ready_standing (status : s.state.status = .ready) (ready : Ready s) : Standing r cfg s := by
  unfold Standing
  rw [status]
  exact ready

theorem Tidy.keep (tidy : Tidy cfg s) (record : s'.record = s.record)
    (approval : s'.pendingApproval = s.pendingApproval ∨ s'.pendingApproval = none) :
    Tidy cfg s' where
  clean := record ▸ tidy.clean
  supplied := by
    intro approval' pending
    rw [record]
    rcases approval with same | gone
    · exact tidy.supplied approval' (same ▸ pending)
    · cases gone ▸ pending

theorem Tidy.note {e : Event} (tidy : Tidy cfg s) (fits : Fitting cfg s.record e) :
    Tidy cfg (s.note e) where
  clean := clean_snoc tidy.clean fits
  supplied := fun approval pending => List.mem_append_left _ (tidy.supplied approval pending)

theorem markInterrupted_keeps {outcome : Outcome} (concludes : Concludes r cfg outcome) :
    Inv r cfg (markInterrupted outcome).1 := by
  rcases outcome with ⟨s, e | result⟩
  · exact .inl (List.mem_append_right _ List.mem_cons_self)
  · exact .inr (concludes result rfl)

theorem awaitReconciliation_concludes {x : Attempt} {result : ProviderExecutionResult}
    (tidy : Tidy cfg s) (underway : Underway s x.proposal.intent) :
    Concludes r cfg (awaitReconciliation s x result) := by
  intro answer done
  unfold awaitReconciliation at done ⊢
  split at done
  · cases done
  · rename_i op left
    refine ⟨Tidy.note (tidy.keep rfl (.inl rfl)) trivial, ?_⟩
    intro i op' pending pendingOp
    obtain rfl := Option.some.inj pending
    obtain rfl := Option.some.inj pendingOp
    constructor
    · exact (spent_quiet rfl).trans_le underway.counted
    · show ((handedOver (s.record ++ [Event.ambiguous op.id])).length : Int) ≤ s.state.loopIteration
      rw [handedOver_quiet rfl]
      exact underway.begun
    · exact outstanding_snoc.trans (congrArg (noteDecision · _) underway.decided)
    · exact unreconciled_snoc.trans (congrArg (noteAmbiguity · _) underway.reconciled)

theorem failExecution_concludes {x : Attempt} {result : ProviderExecutionResult}
    (tidy : Tidy cfg s) : Concludes r cfg (failExecution r cfg a s x result) := by
  intro answer done
  unfold failExecution at done ⊢
  dsimp only at done ⊢
  split at done
  · cases done
  · exact ⟨tidy.keep rfl (.inr rfl), trivial⟩

theorem rejectExecution_concludes {x : Attempt} {result : ProviderExecutionResult}
    {report : PurchaseVerificationReport} (tidy : Tidy cfg s) :
    Concludes r cfg (rejectExecution r cfg a s x result report) := by
  intro answer done
  unfold rejectExecution at done ⊢
  dsimp only at done ⊢
  split at done
  · cases done
  · exact ⟨tidy.keep rfl (.inr rfl), trivial⟩

/-- Verified evidence is of the authorised amount, so that all that was handed over is counted. -/
theorem completeExecution_concludes {x : Attempt} {result : ProviderExecutionResult}
    {report : PurchaseVerificationReport} (tidy : Tidy cfg s)
    (underway : Underway s x.proposal.intent)
    (evidence : ∃ e, report.evidence = some e ∧ e.usdgSpent = x.proposal.intent.usdgIn) :
    Concludes r cfg (completeExecution r cfg a s x result report) := by
  obtain ⟨e, read, exactly⟩ := evidence
  intro answer done
  unfold completeExecution at done ⊢
  dsimp only at done ⊢
  split at done
  · cases done
  · split at done
    · rename_i met
      rw [if_pos met]
      exact ⟨tidy.keep rfl (.inr rfl), trivial⟩
    · rename_i met
      rw [if_neg met]
      refine ⟨tidy.keep rfl (.inr rfl), ?_, underway.begun, underway.decided, underway.reconciled⟩
      show spent s.record ≤ s.state.cumulativeUsdgSpent +
        report.evidence.elim (x.proposal.intent.usdgIn : Int) (·.usdgSpent)
      rw [read, Option.elim, exactly]
      exact underway.counted

theorem verifyExecution_spent {result : ProviderExecutionResult} {op : ConsequentialOperation}
    {report : PurchaseVerificationReport} (judged : verifyExecution r a i result op = .ok report)
    (confirmed : report.result = .verified) :
    ∃ e, report.evidence = some e ∧ e.usdgSpent = i.usdgIn ∧ (i.minCreditOut : Int) ≤ e.creditOut := by
  obtain ⟨evidence, -, judged⟩ := bind_ok.mp judged
  obtain ⟨pair, verdict, same⟩ := bind_ok.mp judged
  obtain rfl := Except.ok.inj same
  exact verify_spent verdict confirmed

theorem afterExecution_concludes {x : Attempt} {result : ProviderExecutionResult}
    (tidy : Tidy cfg s) (underway : Underway s x.proposal.intent) :
    Concludes r cfg (afterExecution r cfg a s x result) := by
  unfold afterExecution
  split
  · exact awaitReconciliation_concludes tidy underway
  · split
    · exact failExecution_concludes tidy
    · split
      · intro answer done
        cases done
      · rename_i report judged
        dsimp only
        split
        · exact rejectExecution_concludes (tidy.keep rfl (.inl rfl))
        · rename_i confirmed
          obtain ⟨e, read, exactly, -⟩ := verifyExecution_spent judged (not_not.mp confirmed)
          refine completeExecution_concludes (tidy.keep rfl (.inl rfl)) ?_ ⟨e, read, exactly⟩
          exact ⟨underway.counted, underway.begun, underway.decided, underway.reconciled⟩

/-- Nothing is counted twice over: the operation carries the amounts of its intent. -/
theorem prepared_carries {prep : PurchasePreparation} {decided : Except PyError RecordedDecision}
    {op op' : ConsequentialOperation} {providerName uuidHex : String}
    (prepared : prepare r i decided = .ok prep)
    (created : createOperationFromPreparation prep cfg.org providerName uuidHex = .ok op)
    (submitted : submit op = .ok op') : Carries i op' := by
  obtain ⟨allowed, carried, amount⟩ := createOperation_ok created
  obtain ⟨rfl, parameters⟩ := prepare_ok prepared
  obtain ⟨bc, d, parameters⟩ := parameters allowed
  obtain ⟨authorized, first, submitted⟩ := bind_ok.mp submitted
  obtain ⟨escrowed, second, third⟩ := bind_ok.mp submitted
  have same : op'.parameters = operationParameters r prep.purchaseIntent bc d := by
    rw [transitionTo_parameters third, transitionTo_parameters second, transitionTo_parameters first,
      carried, parameters]
  constructor
  · rw [usdgOf, same]
    rfl
  · have terms := (transitionTo_ok third).2.2.trans
      ((transitionTo_ok second).2.2.trans (transitionTo_ok first).2.2)
    exact terms.amount.trans amount

/-- An affordable intent is executed at most once, and only with nothing left open. -/
theorem executeAuthorized_keeps {proposal : AgentPurchaseProposal} {prep : PurchasePreparation}
    {decided : Except PyError RecordedDecision} (tidy : Tidy cfg s)
    (affordable : Affordable cfg s proposal.intent) (decision : outstanding s.record = none)
    (ready : s.state.status = .ready) (prepared : prepare r proposal.intent decided = .ok prep) :
    Inv r cfg (executeAuthorized r cfg a s proposal prep).1 := by
  have unchanged : Sound r cfg s := by
    have begun := affordable.begun
    refine ⟨tidy, ready_standing ready ?_⟩
    exact ⟨affordable.counted, by omega, decision, affordable.reconciled⟩
  unfold executeAuthorized
  split
  · exact .inr unchanged
  · rename_i op created
    split
    · exact .inr unchanged
    · dsimp only
      split
      · exact .inr unchanged
      · exact .inr ⟨tidy.keep rfl (.inl rfl), trivial⟩
    · split
      · exact .inr unchanged
      · rename_i op' submitted
        have amount := (prepared_carries prepared created submitted).1
        have permitted : Permitted cfg s.record op' := by
          constructor
          · exact amount.trans_le affordable.single
          · exact amount.symm ▸ affordable.budget
          · exact affordable.begun.trans affordable.iterations
          · exact decision
          · exact affordable.reconciled
        have handed : Tidy cfg (s.note (.handed op')) := tidy.note permitted
        have underway : Underway (s.note (.handed op')) proposal.intent := by
          constructor
          · show spent (s.record ++ [Event.handed op']) ≤
              s.state.cumulativeUsdgSpent + proposal.intent.usdgIn
            rw [spent_snoc, amount]
            exact Int.add_le_add_right affordable.counted _
          · show ((handedOver (s.record ++ [Event.handed op'])).length : Int) ≤ s.state.loopIteration
            rw [handedOver_snoc, List.length_append]
            exact affordable.begun
          · exact outstanding_snoc.trans (congrArg (noteDecision · _) decision)
          · exact unreconciled_snoc.trans (congrArg (noteAmbiguity · _) affordable.reconciled)
        apply markInterrupted_keeps
        cases executed : a.execute op' with
        | error e =>
          intro answer done
          cases done
        | ok result =>
          exact afterExecution_concludes (x := ⟨proposal, prep, op'⟩) handed underway

/-- The clamps change nothing on an amount within the limits. -/
theorem clampUsdg_eq {usdgIn : Int} (single : usdgIn ≤ cfg.maxSingleUsdg)
    (budget : usdgIn ≤ cfg.maxCumulativeUsdg - s.state.cumulativeUsdgSpent) :
    clampUsdg cfg s usdgIn = usdgIn := by
  unfold clampUsdg
  rw [if_neg (Int.not_lt.mpr single)]
  exact if_neg (Int.not_lt.mpr budget)

theorem proposePurchase_cases {usdgIn minCreditOut amountCredits : Int} {reason : String}
    (single : usdgIn ≤ cfg.maxSingleUsdg)
    (budget : usdgIn ≤ cfg.maxCumulativeUsdg - s.state.cumulativeUsdgSpent) :
    (∃ e s', proposePurchase r cfg s usdgIn minCreditOut amountCredits reason = (s', .error e) ∧
      (s' = s ∨ s' = s.enter .stoppedCrossTenant)) ∨
    ∃ proposal, proposePurchase r cfg s usdgIn minCreditOut amountCredits reason =
      (s, .ok proposal) ∧ (proposal.intent.usdgIn : Int) = usdgIn := by
  unfold proposePurchase
  split
  · exact .inl ⟨_, _, rfl, .inr rfl⟩
  · cases built : newPurchaseIntent r.text (proposedFields cfg s usdgIn minCreditOut amountCredits) with
    | error e => exact .inl ⟨e, s, rfl, .inl rfl⟩
    | ok intent =>
      have amount := (newPurchaseIntent_amounts built).1
      exact .inr ⟨_, rfl, amount.trans (clampUsdg_eq single budget)⟩

/-- Events of the human's side leave an affordable intent affordable. -/
theorem Affordable.keep (affordable : Affordable cfg s i) (es : List Event)
    (record : s'.record = s.record ++ es) (quiet : handedOver es = [])
    (clear : unreconciled s'.record = unreconciled s.record)
    (counter : s'.state.cumulativeUsdgSpent = s.state.cumulativeUsdgSpent)
    (iteration : s'.state.loopIteration = s.state.loopIteration) : Affordable cfg s' i := by
  have same : handedOver s'.record = handedOver s.record := by
    rw [record, handedOver, List.filterMap_append, ← handedOver, ← handedOver, quiet, List.append_nil]
  have amount : spent s'.record = spent s.record := by rw [spent, same, spent]
  constructor
  · rw [amount, counter]
    exact affordable.counted
  · rw [amount]
    exact affordable.budget
  · exact affordable.single
  · rw [same, iteration]
    exact affordable.begun
  · rw [iteration]
    exact affordable.iterations
  · rw [clear]
    exact affordable.reconciled

theorem submitProposal_keeps {proposal : AgentPurchaseProposal} (tidy : Tidy cfg s) (ready : Ready s)
    (status : s.state.status = .ready) (left : s.state.loopIteration < cfg.maxIterations)
    (single : (proposal.intent.usdgIn : Int) ≤ cfg.maxSingleUsdg)
    (budget : (proposal.intent.usdgIn : Int) ≤ cfg.maxCumulativeUsdg - s.state.cumulativeUsdgSpent) :
    Inv r cfg (submitProposal r cfg a s proposal).1 := by
  unfold submitProposal
  dsimp only
  split
  · exact .inr ⟨tidy.keep rfl (.inl rfl), trivial⟩
  · generalize hash : proposal.intent.computePurchaseIntentHash r.toHashing = intentHash
    have affordable : Affordable cfg (s.begin intentHash) proposal.intent := by
      have counted := ready.counted
      have begun := ready.begun
      refine ⟨counted, ?_, single, ?_, left, ready.reconciled⟩
      · show spent s.record + proposal.intent.usdgIn ≤ cfg.maxCumulativeUsdg
        omega
      · show ((handedOver s.record).length : Int) + 1 ≤ s.state.loopIteration + 1
        omega
    split
    · -- the policy raised: the iteration is used up
      refine .inr ⟨tidy.keep rfl (.inl rfl), ready_standing status ?_⟩
      refine ⟨ready.counted, ?_, ready.decided, ready.reconciled⟩
      have begun := affordable.begun
      exact (Int.le_add_of_nonneg_right Int.one_nonneg).trans begun
    · rename_i prep prepared
      split
      · -- a human has to be asked
        have begun : Tidy cfg (s.begin intentHash) := tidy.keep rfl (.inl rfl)
        refine .inr ⟨(begun.note (show Fitting cfg _ (.asked intentHash) from trivial)).keep rfl
          (.inl rfl), ?_⟩
        intro i pending
        obtain rfl := Option.some.inj pending
        constructor
        · refine affordable.keep [Event.asked intentHash] rfl rfl ?_ rfl rfl
          exact unreconciled_asked intentHash
        · exact outstanding_snoc.trans (hash ▸ rfl)
      · exact .inr ⟨tidy.keep rfl (.inl rfl), trivial⟩
      · exact executeAuthorized_keeps (tidy.keep rfl (.inl rfl)) affordable ready.decided status prepared

theorem proposeNext_keeps (tidy : Tidy cfg s) (ready : Ready s) (status : s.state.status = .ready) :
    Inv r cfg (proposeNext r cfg a s).1 := by
  have stops {status : LoopStatus} {reason message : String} (stopped : Standing r cfg
      ((s.enter status).touch reason)) : Inv r cfg (s.stop status reason message).1 :=
    .inr ⟨tidy.keep rfl (.inl rfl), stopped⟩
  unfold proposeNext
  split
  · exact stops trivial
  · rename_i left
    split
    · exact stops trivial
    · dsimp only
      split
      · exact stops trivial
      · split
        · exact .inr ⟨tidy.keep rfl (.inl rfl), trivial⟩
        · generalize sized : min (min (usdgForCreditNeed cfg _) cfg.maxSingleUsdg)
            (cfg.maxCumulativeUsdg - s.state.cumulativeUsdgSpent) = usdgIn
          have single : usdgIn ≤ cfg.maxSingleUsdg := by omega
          have budget : usdgIn ≤ cfg.maxCumulativeUsdg - s.state.cumulativeUsdgSpent := by omega
          split
          · rename_i s' e proposed
            rcases proposePurchase_cases single budget with ⟨e', s'', same, kept⟩ | ⟨_, same, -⟩
            · obtain ⟨rfl, -⟩ := Prod.mk.inj (proposed.symm.trans same)
              rcases kept with rfl | rfl
              · exact .inr ⟨tidy, ready_standing status ready⟩
              · exact .inr ⟨tidy.keep rfl (.inl rfl), trivial⟩
            · cases proposed.symm.trans same
          · rename_i s' proposal proposed
            rcases proposePurchase_cases single budget with ⟨_, _, same, -⟩ | ⟨p, same, amount⟩
            · cases proposed.symm.trans same
            · obtain ⟨rfl, both⟩ := Prod.mk.inj (proposed.symm.trans same)
              obtain rfl := Except.ok.inj both
              exact submitProposal_keeps tidy ready status (Int.not_le.mp left)
                (amount.trans_le single) (amount.trans_le budget)

theorem handleWaitingHuman_keeps (sound : Sound r cfg s) (status : s.state.status = .waitingHuman) :
    Inv r cfg (handleWaitingHuman r cfg a s).1 := by
  have standing := sound.standing
  unfold Standing at standing
  rw [status] at standing
  unfold handleWaitingHuman
  split
  · exact .inr ⟨sound.keep rfl (.inl rfl), trivial⟩
  · exact .inr sound
  · rename_i intent approval pending supplied
    obtain ⟨affordable, asked⟩ := standing intent pending
    split
    · exact .inr sound
    · rename_i prep prepared
      split
      · -- the human is still asked about the same intent
        refine .inr ⟨sound.keep rfl (.inr rfl), ?_⟩
        intro i same
        obtain ⟨affordable, asked⟩ := standing i same
        exact ⟨affordable.keep [] (List.append_nil _).symm rfl rfl rfl rfl, asked⟩
      · dsimp only
        generalize hash : intent.computePurchaseIntentHash r.toHashing = intentHash at asked ⊢
        have entered : Tidy cfg (s.enter .ready) := sound.keep rfl (.inl rfl)
        have fits : Fitting cfg s.record (Event.authorized intentHash approval) :=
          sound.supplied approval supplied
        have clear : outstanding (s.record ++ [Event.authorized intentHash approval]) = none := by
          rw [outstanding_snoc, asked]
          exact if_pos rfl
        have resumed : Affordable cfg ((s.enter .ready).note (Event.authorized intentHash approval)) intent :=
          affordable.keep [Event.authorized intentHash approval] rfl rfl
            (unreconciled_authorized intentHash approval) rfl rfl
        exact executeAuthorized_keeps (entered.note fits) resumed clear rfl prepared

section Reconciling
open PurchaseReconciliation

/-- A verified report carries evidence of exactly the intent's amount. -/
def SpentIfVerified (i : OrbioPurchaseIntent) (report : PurchaseVerificationReport) : Prop :=
  report.result = .verified → ∃ e, report.evidence = some e ∧ e.usdgSpent = i.usdgIn

/-- What a reconciliation says of the operation and the intent it was asked about. -/
def Judges (i : OrbioPurchaseIntent) (op : ConsequentialOperation)
    (outcome : PurchaseReconciliationOutcome) : Prop :=
  outcome.operation.id = op.id ∧ ∀ ver, outcome.verification = some ver → SpentIfVerified i ver

theorem reconcileFound_judges {op : ConsequentialOperation} {c : PurchaseCall} :
    Returns (Judges c.intent op) (reconcileFound r.toHashing r.text c op) := by
  apply reconcileFound_returns
  intro verified status op' judged same
  obtain ⟨evidence, -, verdict⟩ := bind_ok.mp same
  intro confirmed
  obtain ⟨e, read, exactly, -⟩ := verify_spent verdict confirmed
  exact ⟨e, read, exactly⟩

end Reconciling

theorem concludeReconciliation_keeps {op : ConsequentialOperation}
    {outcome : PurchaseReconciliationOutcome} (tidy : Tidy cfg s)
    (unresolved : Unresolved s i op.id) (judges : Judges i op outcome)
    (pending : s.pendingIntent = some i) (here : s.pendingOperation = some outcome.operation) :
    Inv r cfg (concludeReconciliation r s i outcome).1 := by
  obtain ⟨same, judged⟩ := judges
  unfold concludeReconciliation
  split
  · exact .inr ⟨tidy.keep rfl (.inl rfl), trivial⟩
  · rename_i ver given
    dsimp only
    split
    · -- still ambiguous: the same operation stays pending
      refine .inr ⟨tidy.keep rfl (.inl rfl), ?_⟩
      intro i' op' pending' here'
      obtain rfl := Option.some.inj (pending.symm.trans pending')
      obtain rfl := Option.some.inj (here.symm.trans here')
      refine ⟨unresolved.counted, unresolved.begun, unresolved.decided, ?_⟩
      exact unresolved.unreconciled.trans (congrArg some same.symm)
    · refine .inr ⟨?_, trivial⟩
      have stopped : Tidy cfg (s.enter .stoppedFailure) := tidy.keep rfl (.inl rfl)
      exact (stopped.note (show Fitting cfg s.record (.resolved _) from trivial)).keep rfl (.inl rfl)
    · rename_i confirmed
      obtain ⟨e, read, exactly⟩ := judged ver given confirmed
      have noted : Tidy cfg (s.note (.resolved outcome.operation.id)) :=
        tidy.note (show Fitting cfg s.record (.resolved _) from trivial)
      split
      · exact .inr ⟨noted.keep rfl (.inl rfl), trivial⟩
      · refine .inr ⟨noted.keep rfl (.inl rfl), ?_, ?_, ?_, ?_⟩
        · show spent (s.record ++ [Event.resolved outcome.operation.id]) ≤
            s.state.cumulativeUsdgSpent + ver.evidence.elim 0 (·.usdgSpent)
          rw [spent_quiet rfl, read, Option.elim, exactly]
          exact unresolved.counted
        · show ((handedOver (s.record ++ [Event.resolved outcome.operation.id])).length : Int) ≤
            s.state.loopIteration
          rw [handedOver_quiet rfl]
          exact unresolved.begun
        · show outstanding (s.record ++ [Event.resolved outcome.operation.id]) = none
          rw [outstanding_snoc, unresolved.decided]
          rfl
        · show unreconciled (s.record ++ [Event.resolved outcome.operation.id]) = none
          rw [unreconciled_snoc, unresolved.unreconciled]
          exact if_pos same

theorem handleReconcile_keeps (sound : Sound r cfg s) (status : s.state.status = .waitingReconcile) :
    Inv r cfg (handleReconcile r cfg a s).1 := by
  have standing := sound.standing
  unfold Standing at standing
  rw [status] at standing
  unfold handleReconcile
  split
  · rename_i op intent _ here pending
    have unresolved := standing intent op pending here
    split
    · refine .inr ⟨sound.keep rfl (.inl rfl), ?_⟩
      unfold Standing
      rw [status]
      intro i' op' pending' here'
      obtain rfl := Option.some.inj (pending.symm.trans pending')
      obtain rfl := Option.some.inj here'
      exact ⟨unresolved.counted, unresolved.begun, unresolved.decided, unresolved.unreconciled⟩
    · rename_i outcome done
      refine concludeReconciliation_keeps (sound.keep rfl (.inl rfl)) ?_
        (Returns.exec (reconcileFound_judges (c := ⟨op.id, intent, cfg.org⟩)) done) pending rfl
      exact ⟨unresolved.counted, unresolved.begun, unresolved.decided, unresolved.unreconciled⟩
  · exact .inr ⟨sound.keep rfl (.inl rfl), trivial⟩

section Growing

theorem grows_append (es es' : List Event) : es <+: es ++ es' := List.prefix_append es es'

theorem afterExecution_grows {x : Attempt} {result : ProviderExecutionResult} :
    s.record <+: (afterExecution r cfg a s x result).1.record := by
  unfold afterExecution
  split
  · unfold awaitReconciliation
    split
    · exact List.prefix_rfl
    · exact grows_append _ _
  · split
    · unfold failExecution
      dsimp only
      split
      · exact List.prefix_rfl
      · exact List.prefix_rfl
    · split
      · exact List.prefix_rfl
      · dsimp only
        split
        · unfold rejectExecution
          dsimp only
          split
          · exact List.prefix_rfl
          · exact List.prefix_rfl
        · unfold completeExecution
          dsimp only
          split
          · exact List.prefix_rfl
          · split
            · exact List.prefix_rfl
            · exact List.prefix_rfl

theorem markInterrupted_grows (outcome : Outcome) :
    outcome.1.record <+: (markInterrupted outcome).1.record := by
  rcases outcome with ⟨s, e | result⟩
  · exact grows_append _ _
  · exact List.prefix_rfl

theorem executeAuthorized_grows {proposal : AgentPurchaseProposal} {prep : PurchasePreparation} :
    s.record <+: (executeAuthorized r cfg a s proposal prep).1.record := by
  unfold executeAuthorized
  split
  · exact List.prefix_rfl
  · split
    · exact List.prefix_rfl
    · dsimp only
      split
      · exact List.prefix_rfl
      · exact List.prefix_rfl
    · split
      · exact List.prefix_rfl
      · rename_i op submitted
        refine (grows_append s.record [.handed op]).trans (.trans ?_ (markInterrupted_grows _))
        dsimp only
        split
        · exact List.prefix_rfl
        · exact afterExecution_grows (s := s.note (.handed op))

theorem submitProposal_grows {proposal : AgentPurchaseProposal} :
    s.record <+: (submitProposal r cfg a s proposal).1.record := by
  unfold submitProposal
  dsimp only
  split
  · exact List.prefix_rfl
  · split
    · exact List.prefix_rfl
    · split
      · exact grows_append _ _
      · exact List.prefix_rfl
      · exact executeAuthorized_grows (s := s.begin _)

theorem proposeNext_grows : s.record <+: (proposeNext r cfg a s).1.record := by
  have proposing (usdgIn least credits : Int) (reason : String) :
      (proposePurchase r cfg s usdgIn least credits reason).1.record = s.record := by
    unfold proposePurchase
    split
    · rfl
    · rfl
  unfold proposeNext
  split
  · exact List.prefix_rfl
  · split
    · exact List.prefix_rfl
    · dsimp only
      split
      · exact List.prefix_rfl
      · split
        · exact List.prefix_rfl
        · split
          · rename_i proposed
            rw [← proposing, proposed]
          · rename_i proposed
            rw [← proposing, proposed]
            exact submitProposal_grows

theorem handleWaitingHuman_grows : s.record <+: (handleWaitingHuman r cfg a s).1.record := by
  unfold handleWaitingHuman
  split
  · exact List.prefix_rfl
  · exact List.prefix_rfl
  · rename_i intent approval _ _
    split
    · exact List.prefix_rfl
    · split
      · exact List.prefix_rfl
      · let accepted := Event.authorized (intent.computePurchaseIntentHash r.toHashing) approval
        refine List.IsPrefix.trans (grows_append s.record [accepted]) ?_
        exact executeAuthorized_grows (s := (s.enter .ready).note accepted)

theorem concludeReconciliation_grows {outcome : PurchaseReconciliationOutcome} :
    s.record <+: (concludeReconciliation r s i outcome).1.record := by
  unfold concludeReconciliation
  split
  · exact List.prefix_rfl
  · dsimp only
    split
    · exact List.prefix_rfl
    · exact grows_append _ _
    · split
      · exact grows_append _ _
      · exact grows_append _ _

theorem handleReconcile_grows : s.record <+: (handleReconcile r cfg a s).1.record := by
  unfold handleReconcile
  split
  · split
    · exact List.prefix_rfl
    · exact concludeReconciliation_grows (s := { s with pendingOperation := some _ })
  · exact List.prefix_rfl

theorem step_grows : s.record <+: (step r cfg a s).1.record := by
  unfold step
  split
  · exact List.prefix_rfl
  · split
    · exact handleWaitingHuman_grows
    · exact handleReconcile_grows
    · exact proposeNext_grows
    · exact List.prefix_rfl

end Growing

theorem step_keeps (inv : Inv r cfg s) : Inv r cfg (step r cfg a s).1 := by
  rcases inv with interrupted | sound
  · exact .inl (step_grows.subset interrupted)
  · unfold step
    split
    · exact .inr ⟨sound.keep rfl (.inl rfl), trivial⟩
    · split
      · rename_i status
        exact handleWaitingHuman_keeps sound status
      · rename_i status
        exact handleReconcile_keeps sound status
      · rename_i status
        have standing := sound.standing
        unfold Standing at standing
        rw [status] at standing
        exact proposeNext_keeps sound.toTidy standing status
      · exact .inr sound

/-- What every step keeps, a run of steps keeps. -/
theorem runSteps_induction {P : Loop → Prop} (kept : ∀ a s, P s → P (step r cfg a s).1)
    (answers : Nat → Answers) (left : Nat) (now : P s) : P (runSteps r cfg answers left s).1 := by
  induction left generalizing s with
  | zero => exact now
  | succ left ih =>
    have stepped := kept (answers left) s now
    rw [runSteps]
    split
    · rename_i raised
      rw [raised] at stepped
      exact stepped
    · rename_i returned
      rw [returned] at stepped
      split
      · exact stepped
      · exact ih stepped

theorem runSteps_keeps (answers : Nat → Answers) (left : Nat) (inv : Inv r cfg s) :
    Inv r cfg (runSteps r cfg answers left s).1 :=
  runSteps_induction (fun _ _ => step_keeps) answers left inv

/-- Of the record only what was handed over and what is open counts. -/
theorem Standing.keep (standing : Standing r cfg s) (state : s'.state = s.state)
    (intent : s'.pendingIntent = s.pendingIntent)
    (operation : s'.pendingOperation = s.pendingOperation)
    (handed : handedOver s'.record = handedOver s.record)
    (decided : outstanding s'.record = outstanding s.record)
    (reconciled : unreconciled s'.record = unreconciled s.record) : Standing r cfg s' := by
  have amount : spent s'.record = spent s.record := by rw [spent, handed, spent]
  unfold Standing at standing ⊢
  rw [state]
  cases status : s.state.status with
  | ready =>
    rw [status] at standing
    refine ⟨?_, ?_, decided.trans standing.decided, reconciled.trans standing.reconciled⟩
    · rw [amount, state]
      exact standing.counted
    · rw [handed, state]
      exact standing.begun
  | waitingHuman =>
    rw [status] at standing
    intro i pending
    obtain ⟨affordable, asked⟩ := standing i (intent ▸ pending)
    refine ⟨⟨?_, ?_, affordable.single, ?_, ?_, reconciled.trans affordable.reconciled⟩,
      decided.trans asked⟩
    · rw [amount, state]
      exact affordable.counted
    · rw [amount]
      exact affordable.budget
    · rw [handed, state]
      exact affordable.begun
    · rw [state]
      exact affordable.iterations
  | waitingReconcile =>
    rw [status] at standing
    intro i op pending here
    have unresolved := standing i op (intent ▸ pending) (operation ▸ here)
    refine ⟨?_, ?_, decided.trans unresolved.decided, reconciled.trans unresolved.unreconciled⟩
    · rw [amount, state]
      exact unresolved.counted
    · rw [handed, state]
      exact unresolved.begun
  | _ => trivial

theorem supplyHumanApproval_keeps {approval : HumanPurchaseApproval} (inv : Inv r cfg s) :
    Inv r cfg (supplyHumanApproval s approval) := by
  rcases inv with interrupted | sound
  · exact .inl (List.mem_append_left _ interrupted)
  · right
    have clean : Clean cfg (s.record ++ [Event.supplied approval]) := clean_snoc sound.clean trivial
    refine ⟨⟨clean, ?_⟩, ?_⟩
    · intro approval' same
      obtain rfl := Option.some.inj same
      exact List.mem_append_right _ List.mem_cons_self
    · exact sound.standing.keep rfl rfl rfl (handedOver_quiet rfl) (outstanding_supplied approval)
        (unreconciled_supplied approval)

theorem perform_keeps (call : Call) (inv : Inv r cfg s) : Inv r cfg (call.perform r cfg s) := by
  cases call with
  | supply approval => exact supplyHumanApproval_keeps inv
  | step answers => exact step_keeps inv
  | run maxSteps answers => exact runSteps_keeps answers _ inv

theorem performAll_keeps (calls : List Call) (inv : Inv r cfg s) :
    Inv r cfg (performAll r cfg s calls) := by
  induction calls generalizing s with
  | nil => exact inv
  | cons call rest ih => exact ih (perform_keeps call inv)

end Invariant

section Sample

def sampleRules : ApprovalRules where
  sha256 _ := "5709fe5b7c0ecc3dfeb18562e09cb715dfb1805a57cd4cd595a7518a04024d41"
  reprFloat _ := "0.0"
  hmac _ _ := ""
  add f _ := f
  text := { asciiRules (fun _ => "0.0") with lower := id, space := fun _ => false }

def sampleSettings : LoopSettings where
  org := ⟨"org", "tenant", []⟩
  hasReconciler := true
  hasLedger := false
  defaultBeneficiary := "0x0000000000000000000000000000000000000001"
  providerName := "orbio-exchange-simulated"

def sampleState : AgentLoopState where
  agentId := "agent"
  tenantId := "tenant"
  organisationId := "org"
  missionId := "mission"
  targetCredit := 2000000

/-- A policy that allows everything, and a provider that times out. -/
def sampleAnswers : Answers where
  policy i _ := .ok
    { result := .allow
      policyId := policyId
      policyVersion := ""
      intentHash := i.computePurchaseIntentHash sampleRules.toHashing
      reasons := []
      denialCodes := []
      requiresHumanConfirmation := false
      autonomousUsdgCeiling := 5000000
      absoluteUsdgCeiling := 25000000
      decisionId := "decision"
      evaluatedAt := "" }
  uuidHex := "0123456789ab"
  getBalance _ := 0
  transfer _ _ _ _ _ := .ok ()
  execute op := .ok ⟨"orbio-exchange-simulated", op.id, outcomeTimeout, none, [], none, none⟩
  verified := []
  desk := ⟨⟨[]⟩, [], []⟩
  input := ⟨⟨"", "", 0⟩, .error ⟨.typeError, ""⟩, .error ⟨.typeError, ""⟩⟩
  leftState := .unknown
  leftErrorMessage := none
  leftReference := none

def sampleRun : Loop := performAll sampleRules sampleSettings (.new sampleState) [.step sampleAnswers]

def handedThenAmbiguous : List Event → Bool
  | [.handed _, .ambiguous _] => true
  | _ => false

theorem handedThenAmbiguous_eq {es : List Event} (shape : handedThenAmbiguous es = true) :
    ∃ op id, es = [.handed op, .ambiguous id] := by
  unfold handedThenAmbiguous at shape
  split at shape
  · exact ⟨_, _, rfl⟩
  · cases shape

theorem sampleRun_shape : handedThenAmbiguous sampleRun.record = true := by decide +kernel

end Sample

end PurchaseLoop
