import KalyxMao.Consequential
import KalyxMao.PurchaseVerifier

/-!
# Reconciling Orbio purchases

An ambiguous purchase is settled or refunded by the verdict of the purchase
verifier on the provider's status answer. An earlier settlement is recognised by
the operation's id in the memo of any entry in the same direction.
-/

namespace PurchaseReconciliation
open PythonText PythonValues PythonConversions Ledger SqlLedgers Domain EffectPrograms
open EffectPrograms.Prog Consequential PurchaseVerifier

/-- The shared ledger, the operation objects, and the verifier's memory. -/
structure Desk where
  ledger : SqliteLedger
  operations : List ConsequentialOperation
  verified : Verified

/-- What a call takes from outside: identifiers, and the provider's answers with and
without the reference. -/
structure Input where
  draw : Draw
  answer : Except PyError ProviderStatusResult
  retried : Except PyError ProviderStatusResult

inductive Cmd where
  | get (operationId : String)
  | save (op : ConsequentialOperation)
  | getEntries
  | getBalance (account : String)
  | transfer (fromAccount toAccount : String) (amount : Nat) (memo transactionId : String)
  | status (operationId idempotencyKey : String) (providerReference : Option (Option String))
  | readVerified
  | writeVerified (verified : Verified)

abbrev Resp : Cmd → Type
  | .get _ => Option ConsequentialOperation
  | .save _ => Except PyError Unit
  | .getEntries => Except PyError (List LedgerEntry)
  | .getBalance _ => Int
  | .transfer _ _ _ _ _ => Except PyError LedgerEntry
  | .status _ _ _ => Except PyError ProviderStatusResult
  | .readVerified => Verified
  | .writeVerified _ => Unit

abbrev Action := Prog Cmd Resp PyError

abbrev ask (c : Cmd) : Action (Resp c) := perform c

def respond : Handler Cmd Resp Desk Input
  | .get id, s, _ => (find s.operations id, s)
  | .save op, s, _ =>
    match saveOperation s.operations op with
    | .error err => (.error err, s)
    | .ok ops => (.ok (), { s with operations := ops })
  | .getEntries, s, _ => (s.ledger.getEntries none, s)
  | .getBalance account, s, _ => (s.ledger.getBalance account, s)
  | .transfer source target amount memo txId, s, input =>
    let answer := s.ledger.transfer input.draw source target amount memo (some txId)
    (answer.1, { s with ledger := answer.2 })
  | .status _ _ (some _), s, input => (input.answer, s)
  | .status _ _ none, s, input => (input.retried, s)
  | .readVerified, s, _ => (s.verified, s)
  | .writeVerified verified, s, _ => ((), { s with verified })

structure PurchaseReconciliationOutcome where
  operation : ConsequentialOperation
  verification : Option PurchaseVerificationReport
  providerStatus : Option ProviderStatusResult
  economicAction : String

structure PurchaseCall where
  operationId : String
  intent : OrbioPurchaseIntent
  org : Organisation

def purchaseMemo (operationId : String) : String :=
  s!"Orbio purchase reconciliation settlement for {operationId}"

def purchaseRefundMemo (operationId : String) : String :=
  s!"Orbio purchase reconciliation refund for {operationId}"

def purchaseTx (h : Hashing) (op : ConsequentialOperation) : String :=
  s!"tx-orbio-rec-{h.short op.id}"

def purchaseRefundTx (h : Hashing) (op : ConsequentialOperation) : String :=
  s!"rollback-orbio-rec-{h.short op.id}"

def save (op : ConsequentialOperation) : Action Unit := do
  let saved ← ask (.save op)
  ofExcept saved

def transitionAndSave (op : ConsequentialOperation) (state : OperationState)
    (errorMessage providerReference : Option String) : Action ConsequentialOperation := do
  let op' ← ofExcept (op.transitionTo state errorMessage providerReference)
  save op'
  return op'

def isSettlementOf (op : ConsequentialOperation) (e : LedgerEntry) : Bool :=
  isIn op.id e.memo && e.toAccount = externalSink

def isRefundOf (op : ConsequentialOperation) (e : LedgerEntry) : Bool :=
  isIn op.id e.memo && e.toAccount = treasury && e.fromAccount = escrow

/-- The ledger half of a verdict; a duplicate reported by the ledger is passed over. -/
def moveOnce (op : ConsequentialOperation) (already : LedgerEntry → Bool)
    (target memo txId : String) : Action Unit :=
  if 0 < op.amount then do
    let read ← ask .getEntries
    let entries ← ofExcept read
    if entries.any already then return ()
    else do
      let held ← ask (.getBalance escrow)
      if held < op.amount then return ()
      else do
        let moved ← ask (.transfer escrow target op.amount memo txId)
        match moved with
        | .ok _ =>
          let _ ← ask (.getBalance treasury)
          return ()
        | .error exc =>
          if isIn "Duplicate transaction ID" exc.message || isIn "UNIQUE constraint" exc.message then
            return ()
          else raise exc
  else return ()

def finish (op : ConsequentialOperation) (errorMessage providerReference : Option String) :
    Action ConsequentialOperation :=
  if op.state ≠ .reconciled then transitionAndSave op .reconciled errorMessage providerReference
  else return op

def settleSuccess (h : Hashing) (op : ConsequentialOperation) (status : ProviderStatusResult) :
    Action ConsequentialOperation := do
  moveOnce op (isSettlementOf op) externalSink (purchaseMemo op.id) (purchaseTx h op)
  finish op none status.providerReference

def settleFailure (h : Hashing) (op : ConsequentialOperation) (status : ProviderStatusResult)
    (report : PurchaseVerificationReport) : Action ConsequentialOperation := do
  moveOnce op (isRefundOf op) treasury (purchaseRefundMemo op.id) (purchaseRefundTx h op)
  finish op
    (some (orElse (some ("; ".intercalate report.reasons))
      (orElse status.errorMessage "verification rejected")))
    status.providerReference

def queryStatus (op : ConsequentialOperation) : Action ProviderStatusResult := do
  let answer ← ask (.status op.id op.idempotencyKey (some op.providerReference))
  match answer with
  | .ok status => return status
  | .error exc =>
    if exc.kind = .typeError then do
      let answer ← ask (.status op.id op.idempotencyKey none)
      ofExcept answer
    else raise exc

/-- The verifier on a status answer, with its memory. -/
def verifyAnswer (h : Hashing) (t : TextRules) (intent : OrbioPurchaseIntent)
    (status : ProviderStatusResult) (op : ConsequentialOperation) :
    Action PurchaseVerificationReport := do
  let verified ← ask .readVerified
  let judged ← ofExcept (verifyStatus h t verified intent status (some op))
  ask (.writeVerified judged.2)
  return judged.1

def enterReconciling (op : ConsequentialOperation) : Action ConsequentialOperation :=
  if op.state ≠ .reconciling then transitionAndSave op .reconciling none none else return op

/-- The stored hash, where there is one, must be the given intent's. -/
def boundElsewhere (h : Hashing) (op : ConsequentialOperation) (intent : OrbioPurchaseIntent) :
    Bool :=
  let stored := get op.parameters "purchase_intent_hash"
  truthy stored && (match stored with
    | .str s => s ≠ intent.computePurchaseIntentHash h
    | _ => true)

def orPrevious (reference previous : Option String) : Option String :=
  match reference with
  | some r => if r = "" then previous else some r
  | none => previous

/-- From an unresolved operation to its outcome. -/
def resolvePurchase (h : Hashing) (t : TextRules) (op : ConsequentialOperation)
    (intent : OrbioPurchaseIntent) : Action PurchaseReconciliationOutcome := do
  let op ← enterReconciling op
  let status ← queryStatus op
  let report ← verifyAnswer h t intent status op
  match report.result with
  | .verified =>
    let op' ← settleSuccess h op status
    return ⟨op', some report, some status, "settled"⟩
  | .rejected =>
    let op' ← settleFailure h op status report
    return ⟨op', some report, some status, "refunded"⟩
  | .pendingEvidence =>
    let op' ← transitionAndSave op .unknown (some "Purchase evidence pending; escrow preserved")
      (orPrevious status.providerReference op.providerReference)
    return ⟨op', some report, some status, "none"⟩

def reconcileFound (h : Hashing) (t : TextRules) (c : PurchaseCall) (op : ConsequentialOperation) :
    Action PurchaseReconciliationOutcome :=
  if op.tenantId ≠ c.org.tenantId ∨ op.organisationId ≠ c.org.id then
    raise ⟨.unauthorizedActionError,
      "Isolation violation: cannot reconcile purchase for another tenant/org"⟩
  else if c.intent.organisationId ≠ c.org.id ∨ c.intent.tenantId ≠ c.org.tenantId then
    raise ⟨.unauthorizedActionError,
      "Purchase intent tenant/org does not match reconciliation organisation"⟩
  else if op.actionType ≠ .orbioCreditPurchase ∧ op.actionType ≠ .blockchainTransaction then
    raise ⟨.reconciliationError,
      s!"Orbio purchase reconciliation does not apply to action_type={op.actionType.value}"⟩
  else if op.state = .succeeded ∨ op.state = .failed ∨ op.state = .reconciled then
    return ⟨op, none, none, "none"⟩
  else if op.state ≠ .unknown ∧ op.state ≠ .reconciling ∧ op.state ≠ .submitted then
    raise ⟨.reconciliationError, s!"Cannot reconcile purchase in state '{op.state.value}'"⟩
  else if boundElsewhere h op c.intent then
    raise ⟨.reconciliationError,
      "Operation purchase_intent_hash does not match provided intent"⟩
  else resolvePurchase h t op c.intent

def reconcilePurchase (h : Hashing) (t : TextRules) (c : PurchaseCall) :
    Action PurchaseReconciliationOutcome := do
  let found ← ask (.get c.operationId)
  match found with
  | none => raise ⟨.reconciliationError, s!"Operation '{c.operationId}' not found"⟩
  | some op => reconcileFound h t c op

section Verdicts
open ConsequentialOperation (transitionTo_ok)
variable {h : Hashing} {t : TextRules} {i : OrbioPurchaseIntent} {op : ConsequentialOperation}
variable {Q : PurchaseVerificationReport → Prop}

theorem transitionAndSave_id {state : OperationState} {errorMessage providerReference : Option String} :
    Returns (fun op' => op'.id = op.id) (transitionAndSave op state errorMessage providerReference) := by
  refine Returns.bind (Returns.ofExcept fun op' moved => (transitionTo_ok moved).2.2.id) ?_
  intro op' same
  exact (Returns.any (save op')).bind fun _ _ => same

theorem settle_id {already : LedgerEntry → Bool} {target memo txId : String}
    {errorMessage providerReference : Option String} :
    Returns (fun op' => op'.id = op.id) (do
      moveOnce op already target memo txId
      finish op errorMessage providerReference) := by
  refine (Returns.any (moveOnce op already target memo txId)).bind fun _ _ => ?_
  unfold finish
  split
  · exact transitionAndSave_id
  · rfl

theorem enterReconciling_id :
    Returns (fun op' => op'.id = op.id) (enterReconciling op) := by
  unfold enterReconciling
  split
  · exact transitionAndSave_id
  · rfl

theorem verifyAnswer_returns {status : ProviderStatusResult}
    (judged : ∀ verified answer, verifyStatus h t verified i status (some op) = .ok answer → Q answer.1) :
    Returns Q (verifyAnswer h t i status op) := by
  refine (Returns.any (ask .readVerified)).bind fun verified _ => ?_
  refine Returns.bind (Returns.ofExcept fun answer same => same) fun answer same => ?_
  exact fun _ => judged verified answer same

theorem resolvePurchase_returns (judged : ∀ verified status op' answer,
    verifyStatus h t verified i status (some op') = .ok answer → Q answer.1) :
    Returns (fun outcome => outcome.operation.id = op.id ∧
      ∀ ver, outcome.verification = some ver → Q ver) (resolvePurchase h t op i) := by
  refine enterReconciling_id.bind fun op' same => ?_
  refine (Returns.any (queryStatus op')).bind fun status _ => ?_
  refine (verifyAnswer_returns fun verified => judged verified status op').bind fun report good => ?_
  have answers {op'' : ConsequentialOperation} (kept : op''.id = op'.id) :
      op''.id = op.id ∧ ∀ ver, some report = some ver → Q ver :=
    ⟨kept.trans same, fun ver given => Option.some.inj given ▸ good⟩
  split
  · exact settle_id.bind fun op'' kept => answers kept
  · exact settle_id.bind fun op'' kept => answers kept
  · exact transitionAndSave_id.bind fun op'' kept => answers kept

/-- An outcome is about the operation it was asked for, and what the verifier says of every
status answer holds of its report. -/
theorem reconcileFound_returns {c : PurchaseCall} (judged : ∀ verified status op' answer,
    verifyStatus h t verified c.intent status (some op') = .ok answer → Q answer.1) :
    Returns (fun outcome => outcome.operation.id = op.id ∧
      ∀ ver, outcome.verification = some ver → Q ver) (reconcileFound h t c op) := by
  unfold reconcileFound
  split
  · trivial
  · split
    · trivial
    · split
      · trivial
      · split
        · refine ⟨rfl, ?_⟩
          intro ver given
          cases given
        · split
          · trivial
          · split
            · trivial
            · exact resolvePurchase_returns judged

/-- The credits a reconciliation moves come out of escrow. -/
def FromEscrow : Cmd → Prop
  | .transfer source _ _ _ _ => source = escrow
  | _ => True

theorem ask_issues (c : Cmd) (allowed : FromEscrow c) : Issues FromEscrow (ask c) :=
  Issues.perform allowed

theorem transitionAndSave_issues {state : OperationState} {errorMessage providerReference : Option String} :
    Issues FromEscrow (transitionAndSave op state errorMessage providerReference) := by
  refine (Issues.ofExcept _).bind fun op' => ?_
  have saving : Issues FromEscrow (save op') :=
    (ask_issues (.save op') trivial).bind fun saved => Issues.ofExcept saved
  exact saving.bind fun _ => trivial

theorem moveOnce_issues {already : LedgerEntry → Bool} {target memo txId : String} :
    Issues FromEscrow (moveOnce op already target memo txId) := by
  unfold moveOnce
  split
  · refine (ask_issues (.getEntries) trivial).bind fun read => ?_
    refine (Issues.ofExcept read).bind fun entries => ?_
    split
    · trivial
    · refine (ask_issues (.getBalance escrow) trivial).bind fun held => ?_
      split
      · trivial
      · refine (ask_issues (.transfer escrow target op.amount memo txId) rfl).bind fun moved => ?_
        cases moved with
        | ok e => exact (ask_issues (.getBalance treasury) trivial).bind fun _ => trivial
        | error exc =>
          dsimp only
          split
          · trivial
          · trivial
  · trivial

theorem finish_issues {errorMessage providerReference : Option String} :
    Issues FromEscrow (finish op errorMessage providerReference) := by
  unfold finish
  split
  · exact transitionAndSave_issues
  · trivial

theorem queryStatus_issues : Issues FromEscrow (queryStatus op) := by
  refine (ask_issues (.status op.id op.idempotencyKey (some op.providerReference)) trivial).bind fun answer => ?_
  cases answer with
  | ok status => trivial
  | error exc =>
    dsimp only
    split
    · exact (ask_issues (.status op.id op.idempotencyKey none) trivial).bind
        fun _ => Issues.ofExcept _
    · trivial

theorem verifyAnswer_issues {status : ProviderStatusResult} :
    Issues FromEscrow (verifyAnswer h t i status op) := by
  refine (ask_issues (.readVerified) trivial).bind fun verified => ?_
  refine (Issues.ofExcept _).bind fun judged => ?_
  exact (ask_issues (.writeVerified judged.2) trivial).bind fun _ => trivial

theorem reconcileFound_issues {c : PurchaseCall} :
    Issues FromEscrow (reconcileFound h t c op) := by
  have entering : Issues FromEscrow (enterReconciling op) := by
    unfold enterReconciling
    split
    · exact transitionAndSave_issues
    · trivial
  unfold reconcileFound
  iterate 5
    split
    · trivial
  split
  · trivial
  · refine entering.bind fun op' => ?_
    refine queryStatus_issues.bind fun status => ?_
    refine verifyAnswer_issues.bind fun report => ?_
    split
    · exact (moveOnce_issues.bind fun _ => finish_issues).bind fun _ => trivial
    · exact (moveOnce_issues.bind fun _ => finish_issues).bind fun _ => trivial
    · exact transitionAndSave_issues.bind fun _ => trivial

end Verdicts

end PurchaseReconciliation
