import KalyxMao.Consequential

/-!
# The reconciliation service

An unresolved operation is settled by what the provider reports about it. The
ledger is searched for an earlier settlement in the reported direction, by
transaction id or by a memo that names the operation, before credits move.
-/

namespace Reconciliation
open PythonText Ledger SqlLedgers Domain EffectPrograms EffectPrograms.Prog Consequential

def reconcileMemo (operationId : String) : String :=
  s!"Reconciliation settlement for operation {operationId}"

def releaseMemo (operationId : String) : String :=
  s!"Reconciliation escrow release for failed operation {operationId}"

def settleTx (h : Hashing) (op : ConsequentialOperation) : String := s!"tx-rec-{h.short op.id}"

def releaseTx (h : Hashing) (op : ConsequentialOperation) : String :=
  s!"rollback-rec-{h.short op.id}"

/-- An entry under the deterministic transaction id with the expected contents. -/
def isOwnTransaction (op : ConsequentialOperation) (target txId : String) (e : LedgerEntry) :
    Bool :=
  e.transactionId = txId && e.fromAccount = escrow && e.toAccount = target && e.amount = op.amount

def alreadySettled (h : Hashing) (op : ConsequentialOperation) (entries : List LedgerEntry) :
    Bool :=
  (entries.any fun e => isOwnTransaction op externalSink (settleTx h op) e) ||
    entries.any fun e => isIn op.id e.memo && e.toAccount = externalSink && e.amount = op.amount

def alreadyRefunded (h : Hashing) (op : ConsequentialOperation) (entries : List LedgerEntry) :
    Bool :=
  (entries.any fun e => isOwnTransaction op treasury (releaseTx h op) e) ||
    entries.any fun e => isIn op.id e.memo && e.toAccount = treasury && e.fromAccount = escrow &&
      e.amount = op.amount

/-- The ledger half of a verdict. A duplicate reported by the ledger is taken as
settled; any other exception goes on. -/
def moveOnce (op : ConsequentialOperation) (already : List LedgerEntry → Bool)
    (target memo txId : String) : Action Unit :=
  if 0 < op.amount then do
    let read ← ask .getEntries
    let entries ← ofExcept read
    if already entries then return ()
    else do
      let held ← ask (.getBalance escrow)
      if held < op.amount then return ()
      else do
        let moved ← ask (.transfer escrow target op.amount memo txId)
        match moved with
        | .ok _ =>
          let _ ← ask (.getBalance treasury)
          return ()
        | .error exc =>
          if isIn "Duplicate transaction ID" exc.message ||
              isIn "UNIQUE constraint failed" exc.message then return ()
          else raise exc
  else return ()

def markReconciled (op : ConsequentialOperation) (errorMessage providerReference : Option String) :
    Action ConsequentialOperation := do
  let fresh ← ask (.get op.id)
  match fresh with
  | some other =>
    if other.state = .reconciled then return other
    else if op.state ≠ .reconciled then
      transitionAndSave op .reconciled errorMessage providerReference
    else return op
  | none =>
    if op.state ≠ .reconciled then
      transitionAndSave op .reconciled errorMessage providerReference
    else return op

/-- A provider that does not take the reference is asked again without it. -/
def queryStatus (op : ConsequentialOperation) : Action ProviderStatusResult := do
  let answer ← ask (.status op.id op.idempotencyKey (some op.providerReference))
  match answer with
  | .ok status => return status
  | .error exc =>
    if exc.kind = .typeError then do
      let answer ← ask (.status op.id op.idempotencyKey none)
      ofExcept answer
    else raise exc

def applyStatus (h : Hashing) (op : ConsequentialOperation) (status : ProviderStatusResult) :
    Action ConsequentialOperation :=
  if status.outcome = outcomeSuccess then do
    moveOnce op (alreadySettled h op) externalSink (reconcileMemo op.id) (settleTx h op)
    markReconciled op none status.providerReference
  else if status.outcome = outcomeFailure then do
    moveOnce op (alreadyRefunded h op) treasury (releaseMemo op.id) (releaseTx h op)
    markReconciled op (some (orElse status.errorMessage "Provider confirmed failure"))
      status.providerReference
  else
    transitionAndSave op .unknown (some "Provider status remains unresolved; escrow preserved") none

def enterReconciling (op : ConsequentialOperation) : Action ConsequentialOperation :=
  if op.state ≠ .reconciling then transitionAndSave op .reconciling none none else return op

/-- From a stored operation to its answer, once isolation is checked. -/
def resolveOperation (h : Hashing) (op : ConsequentialOperation) : Action ConsequentialOperation :=
  if op.state = .succeeded ∨ op.state = .failed ∨ op.state = .reconciled then return op
  else if op.state ≠ .unknown ∧ op.state ≠ .reconciling ∧ op.state ≠ .submitted then
    raise ⟨.reconciliationError,
      s!"Cannot reconcile operation in state '{op.state.value}' (must be UNKNOWN, RECONCILING, or SUBMITTED)"⟩
  else do
    let op ← enterReconciling op
    let status ← queryStatus op
    applyStatus h op status

def reconcileOperation (h : Hashing) (operationId : String) (org : Organisation) :
    Action ConsequentialOperation := do
  let found ← ask (.get operationId)
  match found with
  | none =>
    raise ⟨.reconciliationError, s!"Consequential operation '{operationId}' not found"⟩
  | some op =>
    if op.tenantId ≠ org.tenantId ∨ op.organisationId ≠ org.id then
      raise ⟨.unauthorizedActionError,
        "Isolation violation: Cannot reconcile operation belonging to a different tenant or organisation"⟩
    else resolveOperation h op

end Reconciliation
