import KalyxMao.Domain
import KalyxMao.EffectPrograms
import KalyxMao.KeyedLists
import KalyxMao.SqlLedgers

/-!
# The consequential execution manager

Each method is a program over durable commands: repository reads and writes,
the token journal, the ledger, and the provider. The operation object a method
changes in place is returned. Two things are left out because nothing decides
by them: the audit events and the organisation's cached treasury figure, of
which only the balance query remains.
-/

namespace Consequential
open PythonText PythonValues Ledger SqlLedgers Domain EffectPrograms EffectPrograms.Prog KeyedLists

def isHexDigit (c : Char) : Bool := c.isDigit || ('a'.toNat ≤ c.toNat && c.toNat ≤ 'f'.toNat)

/-- `uuid4().hex`. -/
structure Uuid where
  hex : List Char
  long : hex.length = 32
  digits : ∀ c ∈ hex, isHexDigit c = true

structure World where
  ledger : SqliteLedger
  operations : List ConsequentialOperation
  consumed : List String
  executed : List String

inductive Cmd where
  | getByIdempotencyKey (key : String)
  | get (operationId : String)
  | save (op : ConsequentialOperation)
  | consume (nonce : String)
  | verifyToken (token : String) (proposal : ActionProposal) (org : Organisation)
      (decision : PolicyDecision)
  | getEntries
  | getBalance (account : String)
  | transfer (fromAccount toAccount : String) (amount : Nat) (memo transactionId : String)
  | execute (op : ConsequentialOperation)
  | status (operationId idempotencyKey : String) (providerReference : Option (Option String))
  | uuid4

abbrev Resp : Cmd → Type
  | .getByIdempotencyKey _ => Option ConsequentialOperation
  | .get _ => Option ConsequentialOperation
  | .save _ => Except PyError Unit
  | .consume _ => Except PyError Unit
  | .verifyToken _ _ _ _ => Bool × String
  | .getEntries => Except PyError (List LedgerEntry)
  | .getBalance _ => Int
  | .transfer _ _ _ _ _ => Except PyError LedgerEntry
  | .execute _ => Except PyError ProviderExecutionResult
  | .status _ _ _ => Except PyError ProviderStatusResult
  | .uuid4 => Uuid

abbrev Action := Prog Cmd Resp PyError

abbrev ask (c : Cmd) : Action (Resp c) := perform c

/-- What one command may take from outside the stores. -/
structure Env where
  draw : Draw
  uuid : Uuid
  verdict : Bool × String
  execution : Except PyError ProviderExecutionResult
  status : Except PyError ProviderStatusResult

section Repository

def find (ops : List ConsequentialOperation) (operationId : String) :
    Option ConsequentialOperation :=
  lookupBy ConsequentialOperation.id ops operationId

def findKey (ops : List ConsequentialOperation) (key : String) : Option ConsequentialOperation :=
  lookupBy ConsequentialOperation.idempotencyKey ops key

def keyTaken : PyError :=
  ⟨.integrityError, "UNIQUE constraint failed: consequential_operations.idempotency_key"⟩

/-- `ConsequentialOperationRepository.save`: update where the id exists, else insert. -/
def saveOperation (ops : List ConsequentialOperation) (op : ConsequentialOperation) :
    Except PyError (List ConsequentialOperation) :=
  match find ops op.id with
  | some _ =>
    if ops.any fun o => o.id ≠ op.id ∧ o.idempotencyKey = op.idempotencyKey then .error keyTaken
    else .ok (replaceBy ConsequentialOperation.id ops op)
  | none =>
    if ops.any fun o => o.idempotencyKey = op.idempotencyKey then .error keyTaken
    else .ok (ops ++ [op])

theorem saveOperation_insert {ops : List ConsequentialOperation} {op : ConsequentialOperation}
    (new : find ops op.id = none) :
    saveOperation ops op = .error keyTaken ∨
      (saveOperation ops op = .ok (ops ++ [op]) ∧
        ∀ o ∈ ops, o.idempotencyKey ≠ op.idempotencyKey) := by
  rw [saveOperation, new]
  dsimp only
  split_ifs with taken
  · exact .inl rfl
  · rw [Bool.not_eq_true, List.any_eq_false] at taken
    exact .inr ⟨rfl, fun o ho same => taken o ho (decide_eq_true same)⟩

theorem saveOperation_update {ops : List ConsequentialOperation} {op old : ConsequentialOperation}
    (found : find ops op.id = some old) :
    saveOperation ops op = .error keyTaken ∨
      saveOperation ops op = .ok (replaceBy ConsequentialOperation.id ops op) := by
  rw [saveOperation, found]
  dsimp only
  split_ifs
  · exact .inl rfl
  · exact .inr rfl

/-- A record saved under its old key is never refused. -/
theorem saveOperation_keyed {ops : List ConsequentialOperation} {op old : ConsequentialOperation}
    (found : find ops op.id = some old) (keys : (ops.map (·.idempotencyKey)).Nodup)
    (same : op.idempotencyKey = old.idempotencyKey) :
    saveOperation ops op = .ok (replaceBy ConsequentialOperation.id ops op) := by
  have free : ops.any (fun o => o.id ≠ op.id ∧ o.idempotencyKey = op.idempotencyKey) = false := by
    obtain ⟨mem, id⟩ := lookupBy_some found
    refine List.any_eq_false.mpr fun o ho taken => ?_
    obtain ⟨other, key⟩ := of_decide_eq_true taken
    have : o = old := eq_of_key keys ho mem (key.trans same)
    exact other (this ▸ id)
  rw [saveOperation, found]
  dsimp only
  rw [free, if_neg Bool.false_ne_true]

/-- `AuthorizationTokenJournal.consume`; the nonce is the primary key. -/
def consumeNonce (consumed : List String) (nonce : String) : Except PyError (List String) :=
  if nonce = "" then .error ⟨.valueError, "nonce is required"⟩
  else if nonce ∈ consumed then
    .error ⟨.tokenAlreadyConsumed, s!"Authorization token nonce '{nonce}' already consumed"⟩
  else .ok (consumed ++ [nonce])

/-- A nonce is refused for a reason of its own, refused as spent, or taken in. -/
theorem consumeNonce_cases (consumed : List String) (nonce : String) :
    (∃ err, consumeNonce consumed nonce = .error err ∧ err.kind ≠ .tokenAlreadyConsumed) ∨
    (∃ err, consumeNonce consumed nonce = .error err ∧ err.kind = .tokenAlreadyConsumed ∧
      nonce ∈ consumed) ∨
    consumeNonce consumed nonce = .ok (consumed ++ [nonce]) := by
  simp only [consumeNonce]
  split_ifs with blank spent
  · exact .inl ⟨_, rfl, by decide⟩
  · exact .inr (.inl ⟨_, rfl, rfl, spent⟩)
  · exact .inr (.inr rfl)

end Repository

def respond : Handler Cmd Resp World Env
  | .getByIdempotencyKey key, w, _ => (findKey w.operations key, w)
  | .get id, w, _ => (find w.operations id, w)
  | .save op, w, _ =>
    match saveOperation w.operations op with
    | .error err => (.error err, w)
    | .ok ops => (.ok (), { w with operations := ops })
  | .consume nonce, w, _ =>
    match consumeNonce w.consumed nonce with
    | .error err => (.error err, w)
    | .ok consumed => (.ok (), { w with consumed })
  | .verifyToken _ _ _ _, w, env => (env.verdict, w)
  | .getEntries, w, _ => (w.ledger.getEntries none, w)
  | .getBalance account, w, _ => (w.ledger.getBalance account, w)
  | .transfer source target amount memo txId, w, env =>
    let answer := w.ledger.transfer env.draw source target amount memo (some txId)
    (answer.1, { w with ledger := answer.2 })
  | .execute op, w, env => (env.execution, { w with executed := w.executed ++ [op.id] })
  | .status _ _ _, w, env => (env.status, w)
  | .uuid4, w, env => (env.uuid, w)

/-- The collaborators of the manager: digests, the provider's name, and the nonce
found in a token's claims. -/
structure Manager where
  hashing : Hashing
  providerName : String
  nonceOf : String → Except PyError String

def showOption (s : Option String) : String := s.getD "None"

def save (op : ConsequentialOperation) : Action Unit := do
  let saved ← ask (.save op)
  ofExcept saved

/-- Change the state in memory, then write the record. -/
def transitionAndSave (op : ConsequentialOperation) (state : OperationState)
    (errorMessage providerReference : Option String) : Action ConsequentialOperation := do
  let op' ← ofExcept (op.transitionTo state errorMessage providerReference)
  save op'
  return op'

def operationId (u : Uuid) : String := String.ofList ("cop-".toList ++ u.hex.take 12)

def newOperation (m : Manager) (proposal : ActionProposal) (decision : PolicyDecision)
    (org : Organisation) (key : String) (u : Uuid) : ConsequentialOperation where
  id := operationId u
  tenantId := org.tenantId
  organisationId := org.id
  proposalId := proposal.id
  decisionId := decision.id
  idempotencyKey := key
  actionType := proposal.actionType
  target := proposal.target
  parameters := proposal.parameters
  amount := proposal.requestedCredits
  providerName := m.providerName
  providerReference := none
  state := .created
  errorMessage := none

/-- What `create_operation` does once the decision and the token are accepted. -/
def registerOperation (m : Manager) (proposal : ActionProposal) (decision : PolicyDecision)
    (org : Organisation) (key : String) : Action ConsequentialOperation := do
  let existing ← ask (.getByIdempotencyKey key)
  match existing with
  | some op =>
    if op.tenantId ≠ org.tenantId ∨ op.organisationId ≠ org.id then
      raise ⟨.unauthorizedActionError,
        "Cross-tenant or cross-organisation operation key conflict"⟩
    else if op.getFingerprint m.hashing ≠ m.hashing.ofJson
        (ConsequentialOperation.fingerprintData org.tenantId org.id proposal.id decision.id key
          proposal.actionType proposal.target proposal.parameters proposal.requestedCredits
          m.providerName) then
      raise ⟨.idempotencyConflict,
        s!"Operation key '{key}' was already registered with different parameters"⟩
    else return op
  | none =>
    let u ← ask .uuid4
    let op := newOperation m proposal decision org key u
    save op
    return op

def createOperation (m : Manager) (proposal : ActionProposal) (decision : PolicyDecision)
    (org : Organisation) (idempotencyKey : Option String) : Action ConsequentialOperation :=
  let token := orElse decision.authorizationToken ""
  if decision.result ≠ .approved then
    raise ⟨.policyViolationError,
      s!"Execution rejected: Decision is '{decision.result.value}' (Rule: {showOption decision.violatedRuleId})"⟩
  else if token = "" then
    raise ⟨.unauthorizedActionError, "Execution rejected: Missing authorization token"⟩
  else do
    let verdict ← ask (.verifyToken token proposal org decision)
    match verdict with
    | (false, reason) => raise ⟨.unauthorizedActionError, s!"Execution rejected: {reason}"⟩
    | (true, _) =>
      ofExcept (enforceAgentCapability proposal org)
      registerOperation m proposal decision org (orElse idempotencyKey s!"{org.id}:{proposal.id}")

def authorizeOperation (m : Manager) (op : ConsequentialOperation) (decision : PolicyDecision) :
    Action ConsequentialOperation :=
  let token := orElse decision.authorizationToken ""
  if token = "" then raise ⟨.unauthorizedActionError, "Missing authorization token"⟩
  else do
    let nonce ← ofExcept (m.nonceOf token)
    let consumed ← ask (.consume nonce)
    match consumed with
    | .error err =>
      if err.kind = .tokenAlreadyConsumed then do
        let _ ← transitionAndSave op .failed (some "Authorization token already consumed") none
        raise ⟨.unauthorizedActionError,
          "Execution rejected: Token has already been consumed (replay barrier)"⟩
      else raise err
    | .ok () => transitionAndSave op .authorized none none

section Escrow

def lockMemo (operationId : String) : String :=
  s!"Escrow lock for consequential operation {operationId}"

def commitMemo (operationId : String) : String :=
  s!"Settlement commit for consequential operation {operationId}"

def rollbackMemo (operationId : String) : String :=
  s!"Escrow rollback for failed consequential operation {operationId}"

def lockTx (h : Hashing) (op : ConsequentialOperation) : String := s!"res-{h.short op.id}"

/-- The reservation under the operation's own transaction id, made once. -/
def lockEscrow (h : Hashing) (op : ConsequentialOperation) : Action Unit := do
  let read ← ask .getEntries
  let entries ← ofExcept read
  match entries.find? fun e => e.transactionId = lockTx h op with
  | some e =>
    if e.fromAccount ≠ treasury ∨ e.toAccount ≠ escrow ∨ e.amount ≠ op.amount ∨
        isIn op.id e.memo = false then
      raise ⟨.invalidStateTransitionError,
        s!"Escrow transaction '{lockTx h op}' exists with unexpected contents"⟩
    else return ()
  | none =>
    let moved ← ask (.transfer treasury escrow op.amount (lockMemo op.id) (lockTx h op))
    let _ ← ofExcept moved
    return ()

def escrowOperation (h : Hashing) (op : ConsequentialOperation) :
    Action ConsequentialOperation :=
  if op.state ≠ .authorized then
    raise ⟨.invalidStateTransitionError,
      s!"Cannot escrow operation in state {op.state.value} (must be AUTHORIZED)"⟩
  else do
    if 0 < op.amount then do
      lockEscrow h op
      let _ ← ask (.getBalance treasury)
      transitionAndSave op .escrowed none none
    else transitionAndSave op .escrowed none none

/-- The ledger half of a definite answer to `execute`. -/
def payOut (op : ConsequentialOperation) (target memo txId : String) : Action Unit :=
  if 0 < op.amount then do
    let moved ← ask (.transfer escrow target op.amount memo txId)
    let _ ← ofExcept moved
    let _ ← ask (.getBalance treasury)
    return ()
  else return ()

end Escrow

section Submission

def receipt (op : ConsequentialOperation) (proposal : ActionProposal) (decision : PolicyDecision)
    (u : Uuid) (hash : String) (rawOutput : List (String × PyValue)) : ExecutionReceipt where
  id := String.ofList u.hex
  proposalId := proposal.id
  authorizationToken := orElse decision.authorizationToken "TOKEN-MOCK"
  actionType := proposal.actionType
  target := proposal.target
  httpStatus := 200
  rawResponseHash := hash
  rawOutput := rawOutput
  costCredits := op.amount

/-- What follows the provider's answer, by its outcome. -/
def concludeSubmission (h : Hashing) (op : ConsequentialOperation) (proposal : ActionProposal)
    (decision : PolicyDecision) (result : ProviderExecutionResult) : Action ExecutionReceipt :=
  let tokenHash := h.short (orElse decision.authorizationToken op.id)
  if result.outcome = outcomeSuccess then do
    payOut op externalSink (commitMemo op.id) s!"tx-{tokenHash}"
    let op' ← transitionAndSave op .succeeded none result.providerReference
    let u ← ask .uuid4
    return receipt op' proposal decision u
      (orElse result.evidenceHash (h.ofJson result.rawResponse)) result.rawResponse
  else if result.outcome = outcomeFailure then do
    payOut op treasury (rollbackMemo op.id) s!"rollback-{tokenHash}"
    let _ ← transitionAndSave op .failed result.errorMessage none
    raise ⟨.externalExecutionError,
      s!"External execution rejected by provider: {showOption result.errorMessage}"⟩
  else do
    let _ ← transitionAndSave op .unknown
      (some (orElse result.errorMessage "Provider returned timeout/unknown outcome"))
      result.providerReference
    raise ⟨.externalExecutionError,
      s!"External execution outcome is UNKNOWN ({showOption result.errorMessage}); escrow remains locked pending reconciliation"⟩

def submitOperation (h : Hashing) (op : ConsequentialOperation) (proposal : ActionProposal)
    (decision : PolicyDecision) : Action ExecutionReceipt :=
  if op.state ≠ .escrowed then
    raise ⟨.invalidStateTransitionError,
      s!"Cannot submit operation in state {op.state.value} (must be ESCROWED)"⟩
  else do
    let submitted ← transitionAndSave op .submitted none none
    let answer ← ask (.execute submitted)
    match answer with
    | .error exc =>
      let _ ← transitionAndSave submitted .unknown
        (some s!"Transport exception during dispatch: {exc.message}") none
      raise ⟨.externalExecutionError,
        s!"Consequential execution outcome is UNKNOWN ({exc.message}); escrow remains locked pending reconciliation"⟩
    | .ok result => concludeSubmission h submitted proposal decision result

def whenIn (state : OperationState)
    (step : ConsequentialOperation → Action ConsequentialOperation)
    (op : ConsequentialOperation) : Action ConsequentialOperation :=
  if op.state = state then step op else return op

/-- The three lifecycle steps, each taken only from its own state. -/
def driveOperation (m : Manager) (op : ConsequentialOperation) (proposal : ActionProposal)
    (decision : PolicyDecision) : Action ExecutionReceipt := do
  let op ← whenIn .created (fun op => authorizeOperation m op decision) op
  let op ← whenIn .authorized (escrowOperation m.hashing) op
  if op.state = .escrowed then submitOperation m.hashing op proposal decision
  else raise ⟨.invalidStateTransitionError, s!"Unexpected operation state: {op.state.value}"⟩

def executeProposal (m : Manager) (proposal : ActionProposal) (decision : PolicyDecision)
    (org : Organisation) (idempotencyKey : Option String) : Action ExecutionReceipt := do
  let op ← createOperation m proposal decision org idempotencyKey
  if op.state = .succeeded then do
    let u ← ask .uuid4
    return receipt op proposal decision u (m.hashing.sha256 op.idempotencyKey)
      [("idempotent_replay", .bool true),
        ("reference", match op.providerReference with | none => .none | some r => .str r)]
  else if op.state = .unknown ∨ op.state = .reconciling ∨ op.state = .submitted then
    raise ⟨.externalExecutionError,
      s!"Operation '{op.id}' is unresolved ({op.state.value}); must be reconciled before retry"⟩
  else if op.state = .failed then
    raise ⟨.externalExecutionError,
      s!"Operation '{op.id}' previously failed: {showOption op.errorMessage}"⟩
  else driveOperation m op proposal decision

end Submission

end Consequential
