import KalyxMao.BlockchainProvider
import KalyxMao.ExecutionAudits
import KalyxMao.LedgerAudit

/-!
# The auditor's verification of a consequential operation

Beside the token and the binding of the operation to its decision, the auditor reads what
the provider left on the operation, the ledger, and for operations on a chain the receipt
of the transaction. An audit leaves one event whatever it finds, and answers with a
receipt only if it has noted nothing.
-/

namespace OperationAudits
open PythonText PythonValues PythonDates Ledger SqlLedgers Domain TokenBinding
open BlockchainProvider (EvmRpcClient receiptSucceeded)
open Consequential (showOption)
open EventChain (AuditEvent)
open EventStores (Payload)
open ExecutionAudits (Rules VerificationReceipt orOption noted noted_nil accepts_verdict)
open LedgerAudit (verifyLedgerSettlement)
open PayloadText (PyKey Value)
open PurchaseVerifier (isHexText)

/-- The arguments of `verify_consequential_operation` less the ledger and the log, and what the
call draws. -/
structure AuditCall where
  operation : ConsequentialOperation
  proposal : ActionProposal
  decision : PolicyDecision
  org : TokenOrganisation
  policyEngine : Option (String × String)
  verificationSecret : Option String
  policyVersionHash : Option String
  rpcClient : Option EvmRpcClient
  blockchainReceipt : Option (List (String × PyValue))
  now : PyFloat
  uuid : String
  clock : DateTime
  naive : clock.offset = none

section Sections
variable (ownSecret : Option String) (a : AuditCall)

/-- The secret that signatures are verified with; no secret is left where all of them are empty. -/
def AuditCall.secret : Option String :=
  orOption (orOption (orOption a.verificationSecret (a.policyEngine.elim ownSecret fun e => some e.1))
    ownSecret) none

def AuditCall.version : Option String :=
  orOption a.policyVersionHash (a.policyEngine.map Prod.snd)

def bindingFailures : List String :=
  noted (a.operation.proposalId ≠ a.proposal.id)
    s!"Operation proposal_id '{a.operation.proposalId}' does not match proposal '{a.proposal.id}'" ++
  noted (a.operation.decisionId ≠ a.decision.id)
    s!"Operation decision_id '{a.operation.decisionId}' does not match decision '{a.decision.id}'" ++
  noted (a.operation.organisationId ≠ a.org.id)
    s!"Operation organisation_id '{a.operation.organisationId}' does not match organisation '{a.org.id}'" ++
  noted (a.operation.amount ≠ a.proposal.requestedCredits)
    s!"Operation amount ({a.operation.amount}) does not match requested credits ({a.proposal.requestedCredits})"

variable (op : ConsequentialOperation)

def evidenceFailures : List String :=
  if op.state = .succeeded ∨ op.state = .reconciled then
    noted (op.state = .succeeded ∧ orElse op.providerReference "" = "")
      "Succeeded consequential operation lacks provider reference"
  else
    noted (op.state = .failed ∧ orElse op.errorMessage "" = "")
      "Failed consequential operation lacks error message"

def settlementFailures (h : Hashing) (decision : PolicyDecision) (ledger : Option SqliteLedger) :
    Except PyError (List String) :=
  match ledger with
  | some l => if 0 < op.amount then
      (l.getEntries none).map (verifyLedgerSettlement h op decision)
    else .ok []
  | none => .ok []

def conservationFailures (ledger : Option SqliteLedger) : List String :=
  noted (ledger.elim false fun l => !l.verifyConservation) "Conservation of credits broken in ledger"

/-- `^0x[0-9a-fA-F]{64}$`, whose `$` also stands before a final line break. -/
def matchesTxHash (s : String) : Bool :=
  isHexText 64 s ||
    (s.toList.getLast? = some '\n' && isHexText 64 (String.ofList s.toList.dropLast))

def OnChain : Prop :=
  op.providerName = "blockchain" ∨ op.providerName = "evm" ∨ op.actionType = .blockchainTransaction

instance : Decidable (OnChain op) := inferInstanceAs (Decidable (_ ∨ _))

/-- The receipt that is compared: the one given, or the client's where that is missing or empty. -/
def receiptOf (client : Option EvmRpcClient) (given : Option (List (String × PyValue))) :
    List String × Option (List (String × PyValue)) :=
  match client with
  | some client =>
    if given.elim true List.isEmpty ∧ orElse op.providerReference "" ≠ "" then
      match client.getTransactionReceipt (orElse op.providerReference "") with
      | .ok receipt => ([], receipt)
      | .error exc => ([s!"RPC error during independent audit verification: {exc.message}"], given)
    else ([], given)
  | none => ([], given)

def mismatchFailures (receipt : List (String × PyValue)) : List String :=
  let confirmed := receiptSucceeded (PythonValues.get receipt "status")
  noted (op.state = .succeeded ∧ ¬confirmed)
    "Audit mismatch: Operation marked SUCCEEDED but on-chain receipt reverted (status: 0)" ++
  noted (op.state = .failed ∧ confirmed)
    "Audit mismatch: Operation marked FAILED but on-chain receipt confirmed (status: 1)"

def chainFailures (client : Option EvmRpcClient) (given : Option (List (String × PyValue))) :
    List String :=
  if OnChain op then
    let (unread, receipt) := receiptOf op client given
    noted ((op.state = .succeeded ∨ op.state = .reconciled) ∧
        ¬(matchesTxHash (orElse op.providerReference "")))
      s!"Invalid or missing blockchain transaction hash reference: '{showOption op.providerReference}'" ++
    unread ++ receipt.elim [] (mismatchFailures op)
  else []

def auditChecks : List String :=
  ["OPERATION_FINGERPRINT", "PROPOSAL_FINGERPRINT", "TOKEN_VALIDITY", "AUTH_OPERATION_BINDING",
    "PROVIDER_EVIDENCE_INTEGRITY", "LEDGER_SETTLEMENT", "CREDIT_CONSERVATION", "STATE_CONSISTENCY"] ++
  if OnChain op then ["BLOCKCHAIN_EVIDENCE_INTEGRITY"] else []

end Sections

section Verification
variable {Other : Type} (r : Rules Other) (ownSecret : Option String) (a : AuditCall)
  (ledger : Option SqliteLedger)

/-- Everything that is noted against an operation, in the order of the checks. -/
def auditFailures : Except PyError (List String) := do
  let (valid, reason) ← verifyAuthorizationToken r.toTokenRules (a.secret ownSecret) a.version
    a.decision.authorizationToken a.proposal a.org (some a.decision) a.now
  let settlement ← settlementFailures a.operation r.toHashing a.decision ledger
  return noted (a.operation.getFingerprint r.toHashing = "") "Operation fingerprint computation failed" ++
    noted (getContentHash r.toTokenRules a.proposal = "") "Proposal fingerprint computation failed" ++
    noted (!valid) s!"Authorization token verification failed: {showOption reason}" ++
    bindingFailures a ++ evidenceFailures a.operation ++ settlement ++ conservationFailures ledger ++
    noted (a.org.state = .paused) "Organisation is in PAUSED state" ++
    chainFailures a.operation a.rpcClient a.blockchainReceipt

def newVerification (failures : List String) : VerificationReceipt where
  id := a.uuid
  executionId := a.operation.id
  verified := failures.isEmpty
  checks := auditChecks a.operation
  failures := failures
  evidenceHash := r.ofJson [("operation_id", .str a.operation.id), ("proposal_id", .str a.proposal.id),
    ("decision_id", .str a.decision.id), ("state", .str a.operation.state.value),
    ("checks", .list ((auditChecks a.operation).map .str)), ("failures", .list (failures.map .str)),
    ("verified", .bool failures.isEmpty)]
  timestamp := a.clock

/-- The event an audit leaves, whatever it has found. -/
def verifiedEvent (v : VerificationReceipt) : EventStores.Call Other where
  actorId := "AUDITOR"
  eventType := "AUDIT_VERIFIED"
  entityId := a.operation.id
  payload := [(.str "id", .str v.id), (.str "execution_id", .str v.executionId),
    (.str "verified", .bool v.verified), (.str "checks", .list (v.checks.map .str)),
    (.str "failures", .list (v.failures.map .str)), (.str "evidence_hash", .str v.evidenceHash),
    (.str "timestamp", .other (r.moment v.timestamp))]
  tenantId := none
  organisationId := none
  now := a.clock
  naive := a.naive

/-- The log with one more event, if there is a log and it takes the event. -/
def logged (c : EventStores.Call Other) :
    Option (List (AuditEvent (Payload r.events))) → Option (Option (List (AuditEvent (Payload r.events))))
  | none => some none
  | some events => (EventStores.memoryAppend r.events events c).map fun e => some (events ++ [e])

/-- `Auditor.verify_consequential_operation`. -/
def verifyConsequentialOperation (events : Option (List (AuditEvent (Payload r.events)))) :
    Except PyError VerificationReceipt × Option (List (AuditEvent (Payload r.events))) :=
  match auditFailures r ownSecret a ledger with
  | .error err => (.error err, events)
  | .ok failures =>
    let verification := newVerification r a failures
    match logged r (verifiedEvent r a verification) events with
    | none => (.error ⟨.otherException, "the event is not taken"⟩, events)
    | some events =>
      if failures.isEmpty then (.ok verification, events)
      else
        let shown := String.intercalate "; " failures
        (.error ⟨.otherException, s!"Audit verification failed: {shown}"⟩, events)

def Verifies (events : Option (List (AuditEvent (Payload r.events)))) : Prop :=
  ∃ v, (verifyConsequentialOperation r ownSecret a ledger events).1 = .ok v

/-- The operation is the decision's, for the proposal and the organisation. -/
structure BoundTo : Prop where
  proposal : a.operation.proposalId = a.proposal.id
  decision : a.operation.decisionId = a.decision.id
  org : a.operation.organisationId = a.org.id
  amount : a.operation.amount = a.proposal.requestedCredits

/-- What is asked of the authorization: a token that is accepted now, and the operation's own. -/
structure Authorized : Prop extends BoundTo a where
  token : Accepts (verifyAuthorizationToken r.toTokenRules (a.secret ownSecret) a.version
    a.decision.authorizationToken a.proposal a.org (some a.decision) a.now)
  fingerprint : a.operation.getFingerprint r.toHashing ≠ ""
  content : getContentHash r.toTokenRules a.proposal ≠ ""
  active : a.org.state ≠ .paused

end Verification

section Failures
variable {Other : Type} {r : Rules Other} {ownSecret : Option String} {a : AuditCall}
  {ledger : Option SqliteLedger} {op : ConsequentialOperation}

theorem bindingFailures_nil : bindingFailures a = [] ↔ BoundTo a := by
  unfold bindingFailures
  simp only [List.append_eq_nil_iff, noted_nil, decide_eq_false_iff_not, not_not]
  constructor
  · rintro ⟨⟨⟨proposal, decision⟩, org⟩, amount⟩
    exact ⟨proposal, decision, org, amount⟩
  · intro bound
    exact ⟨⟨⟨bound.proposal, bound.decision⟩, bound.org⟩, bound.amount⟩

/-- A success carries its reference, a failure its message. -/
theorem evidenceFailures_nil : evidenceFailures op = [] ↔
    (op.state = .succeeded → orElse op.providerReference "" ≠ "") ∧
      (op.state = .failed → orElse op.errorMessage "" ≠ "") := by
  unfold evidenceFailures
  cases op.state <;> simp [noted_nil]

theorem chainFailures_nil (plain : ¬OnChain op) (client : Option EvmRpcClient)
    (given : Option (List (String × PyValue))) : chainFailures op client given = [] := by
  simp [chainFailures, plain]

/-- Nothing is noted against an operation exactly if every check is met. -/
theorem auditFailures_nil : auditFailures r ownSecret a ledger = .ok [] ↔
    Authorized r ownSecret a ∧ evidenceFailures a.operation = [] ∧
      settlementFailures a.operation r.toHashing a.decision ledger = .ok [] ∧
      conservationFailures ledger = [] ∧
      chainFailures a.operation a.rpcClient a.blockchainReceipt = [] := by
  unfold auditFailures
  rcases token : verifyAuthorizationToken r.toTokenRules (a.secret ownSecret) a.version
    a.decision.authorizationToken a.proposal a.org (some a.decision) a.now with err | ⟨valid, reason⟩
  · refine iff_of_false ?_ ?_
    · intro same
      cases same
    · rintro ⟨authorized, -⟩
      obtain ⟨message, same⟩ := token ▸ authorized.token
      cases same
  · cases settlement : settlementFailures a.operation r.toHashing a.decision ledger with
    | error err =>
      refine iff_of_false ?_ ?_
      · intro same
        cases same
      · rintro ⟨-, -, same, -⟩
        cases same
    | ok failures =>
      have authorized : Authorized r ownSecret a ↔ (((valid = true ∧ bindingFailures a = []) ∧
          a.operation.getFingerprint r.toHashing ≠ "") ∧
          getContentHash r.toTokenRules a.proposal ≠ "") ∧ a.org.state ≠ .paused := by
        rw [bindingFailures_nil]
        constructor
        · intro met
          exact ⟨⟨⟨⟨(accepts_ok _).mp (token ▸ met.token), met.toBoundTo⟩, met.fingerprint⟩,
            met.content⟩, met.active⟩
        · rintro ⟨⟨⟨⟨accepted, bound⟩, fingerprint⟩, content⟩, active⟩
          exact ⟨bound, token.symm ▸ (accepts_ok _).mpr accepted, fingerprint, content, active⟩
      rw [authorized]
      show Except.ok _ = Except.ok [] ↔ _
      simp only [Except.ok.injEq, List.append_eq_nil_iff, noted_nil, decide_eq_false_iff_not,
        Bool.not_eq_false', ne_eq]
      tauto

end Failures

section Log
variable {Other : Type} {r : Rules Other} {ownSecret : Option String} {a : AuditCall}
  {ledger : Option SqliteLedger} {events : Option (List (AuditEvent (Payload r.events)))}

/-- The event of an audit can always be hashed. -/
theorem verifiedEvent_payload (r : Rules Other) (a : AuditCall) (v : VerificationReceipt) :
    ∃ p : Payload r.events, p.items = (verifiedEvent r a v).payload := by
  obtain ⟨checks, first⟩ := Option.isSome_iff_exists.mp
    (@ExecutionAudits.written_texts Other r.events.str r.events.reprFloat v.checks)
  obtain ⟨failures, second⟩ := Option.isSome_iff_exists.mp
    (@ExecutionAudits.written_texts Other r.events.str r.events.reprFloat v.failures)
  have writes : (EventStores.payloadJson r.events (verifiedEvent r a v).payload).isSome = true := by
    unfold EventStores.payloadJson PayloadText.canonicalJson verifiedEvent PayloadText.written
    rw [if_pos (by rfl)]
    simp only [PayloadText.writtenItems, PayloadText.written, first, second, PyKey.text]
    rfl
  obtain ⟨text, wrote⟩ := Option.isSome_iff_exists.mp writes
  exact ⟨⟨_, rfl, text, wrote⟩, rfl⟩

/-- A log takes the event of every audit. -/
theorem logged_verified (v : VerificationReceipt) :
    logged r (verifiedEvent r a v) events =
      some (events.map fun es => EventStores.memoryStep r.events es (verifiedEvent r a v)) := by
  cases events with
  | none => rfl
  | some es =>
    obtain ⟨payload, same⟩ := verifiedEvent_payload r a v
    simp [logged, EventStores.memoryStep, EventStores.memoryAppend_taken same]

/-- An audit answers with a receipt if and only if nothing was noted. -/
theorem verifies_iff :
    Verifies r ownSecret a ledger events ↔ auditFailures r ownSecret a ledger = .ok [] := by
  unfold Verifies verifyConsequentialOperation
  cases auditFailures r ownSecret a ledger with
  | error err =>
    refine iff_of_false ?_ ?_
    · rintro ⟨v, same⟩
      cases same
    · intro same
      cases same
  | ok failures =>
    dsimp only
    rw [logged_verified]
    cases failures with
    | nil => exact iff_of_true ⟨_, rfl⟩ rfl
    | cons failure failures =>
      refine iff_of_false ?_ ?_
      · rintro ⟨v, same⟩
        cases same
      · intro same
        cases Except.ok.inj same

/-- The log an audit leaves: one more event, or as it was where a check has raised. -/
theorem verify_events : ∃ v,
    (verifyConsequentialOperation r ownSecret a ledger events).2 = events ∨
      (verifyConsequentialOperation r ownSecret a ledger events).2 =
        events.map fun es => EventStores.memoryStep r.events es (verifiedEvent r a v) := by
  unfold verifyConsequentialOperation
  cases auditFailures r ownSecret a ledger with
  | error err => exact ⟨newVerification r a [], .inl rfl⟩
  | ok failures =>
    refine ⟨newVerification r a failures, .inr ?_⟩
    dsimp only
    rw [logged_verified]
    dsimp only
    split <;> rfl

/-- An audit leaves a chained log chained. -/
theorem verify_chained {es : List (AuditEvent (Payload r.events))} (chained : ExecutionAudits.Chained es) :
    ∃ es', (verifyConsequentialOperation r ownSecret a ledger (some es)).2 = some es' ∧
      ExecutionAudits.Chained es' := by
  obtain ⟨v, still | longer⟩ := @verify_events Other r ownSecret a ledger (some es)
  · exact ⟨es, still, chained⟩
  · exact ⟨_, longer, ExecutionAudits.memoryStep_chained chained _⟩

end Log

end OperationAudits
