import KalyxMao.Consequential

/-!
# Reconciling CREDIT activations

The receipt's verdict and the answer of the credit API come from outside. A
definite verdict moves the escrow first and changes the operation afterwards,
in memory step by step, with one save at the end.
-/

namespace ActivationReconciliation
open PythonText Ledger Domain EffectPrograms EffectPrograms.Prog Consequential

inductive ActivationVerificationResult where
  | verified
  | rejected
  | pending
  deriving DecidableEq

structure ActivationVerificationReport where
  result : ActivationVerificationResult
  reasons : List String
  txHash : Option String

structure OrbioApiVerificationReport where
  isConfirmed : Bool
  errorMessage : Option String

structure ActivationReconciliationOutcome where
  operation : ConsequentialOperation
  onChainVerification : Option ActivationVerificationReport
  apiVerification : Option OrbioApiVerificationReport
  economicAction : String
  status : String

/-- One call of `reconcile`: what it is given, what the two verifiers answer, and
whether the reconciler was built with the repository. -/
structure ActivationCall where
  operation : ConsequentialOperation
  org : Organisation
  onChain : Option (Except PyError ActivationVerificationReport)
  api : Except PyError OrbioApiVerificationReport
  withRepo : Bool

def activationMemo (operationId : String) : String := s!"Orbio activation settlement for {operationId}"

def activationRefundMemo (operationId : String) : String := s!"Orbio activation refund for {operationId}"

def activationTx (h : Hashing) (op : ConsequentialOperation) : String :=
  s!"tx-act-rec-{h.short op.id}"

def activationRefundTx (h : Hashing) (op : ConsequentialOperation) : String :=
  s!"rollback-act-rec-{h.short op.id}"

/-- The ledger half, answering whether credits moved. -/
def moveEscrow (op : ConsequentialOperation) (target memo txId : String) : Action Bool :=
  if 0 < op.amount then do
    let read ← ask .getEntries
    let entries ← ofExcept read
    if entries.any fun e => e.transactionId = txId then return false
    else do
      let held ← ask (.getBalance escrow)
      if held < op.amount then return false
      else do
        let moved ← ask (.transfer escrow target op.amount memo txId)
        let _ ← ofExcept moved
        let _ ← ask (.getBalance treasury)
        return true
  else return false

def leaveEscrowed (op : ConsequentialOperation) : Except PyError ConsequentialOperation :=
  if op.state = .escrowed then op.transitionTo .submitted none none else .ok op

def startReconciling (op : ConsequentialOperation) (txRef : Option String) :
    Except PyError ConsequentialOperation :=
  if op.state ≠ .reconciling then op.transitionTo .reconciling none txRef else .ok op

/-- The transitions of a confirmed activation. -/
def confirmed (op : ConsequentialOperation) (apiOk : Bool) (txRef : Option String) :
    Except PyError ConsequentialOperation := do
  let op ← leaveEscrowed op
  if apiOk then op.transitionTo .succeeded none txRef
  else do
    let op ← startReconciling op txRef
    op.transitionTo .reconciled none txRef

/-- The transitions of a rejected one. -/
def refused (op : ConsequentialOperation) (reasons : List String) :
    Except PyError ConsequentialOperation := do
  let op ← leaveEscrowed op
  op.transitionTo .failed
    (some (if reasons = [] then "On-chain activation rejected" else String.intercalate "; " reasons))
    none

def saveIf (withRepo : Bool) (op : ConsequentialOperation) : Action Unit :=
  if withRepo then save op else return ()

def finalizeRejection (h : Hashing) (c : ActivationCall) (report : ActivationVerificationReport) :
    Action ActivationReconciliationOutcome := do
  let op := c.operation
  let moved ← moveEscrow op treasury (activationRefundMemo op.id) (activationRefundTx h op)
  let op' ← ofExcept (refused op report.reasons)
  saveIf c.withRepo op'
  return ⟨op', some report, none, if moved then "refunded" else "none", "REJECTED"⟩

def finalizeActivation (h : Hashing) (c : ActivationCall) (report : ActivationVerificationReport)
    (api : OrbioApiVerificationReport) : Action ActivationReconciliationOutcome := do
  let op := c.operation
  let moved ← moveEscrow op externalSink (activationMemo op.id) (activationTx h op)
  let op' ← ofExcept (confirmed op api.isConfirmed report.txHash)
  saveIf c.withRepo op'
  return ⟨op', some report, some api, if moved then "settled" else "none", "VERIFIED"⟩

/-- After the verifiers: a rejection does not ask the API. -/
def concludeActivation (h : Hashing) (c : ActivationCall)
    (report : Option ActivationVerificationReport) : Action ActivationReconciliationOutcome :=
  match report with
  | some report =>
    if report.result = .rejected then finalizeRejection h c report
    else do
      let api ← ofExcept c.api
      if report.result = .verified then finalizeActivation h c report api
      else return ⟨c.operation, some report, some api, "none", "PENDING"⟩
  | none => do
    let api ← ofExcept c.api
    return ⟨c.operation, none, some api, "none", "PENDING"⟩

def reconcileActivation (h : Hashing) (c : ActivationCall) :
    Action ActivationReconciliationOutcome :=
  if c.operation.tenantId ≠ c.org.tenantId ∨ c.operation.organisationId ≠ c.org.id then
    raise ⟨.unauthorizedActionError,
      "Isolation violation: Cannot reconcile operation belonging to a different tenant or organisation"⟩
  else if c.operation.actionType ≠ .orbioCreditActivation then
    raise ⟨.reconciliationError,
      s!"Invalid action_type: expected ORBIO_CREDIT_ACTIVATION, got {c.operation.actionType.value}"⟩
  else if c.operation.state = .succeeded ∨ c.operation.state = .reconciled then
    return ⟨c.operation, none, none, "none", "VERIFIED"⟩
  else
    match c.onChain with
    | none => concludeActivation h c none
    | some verdict => do
      let report ← ofExcept verdict
      concludeActivation h c (some report)

end ActivationReconciliation
