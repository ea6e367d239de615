import KalyxMao.Conservation
import KalyxMao.EventStores
import KalyxMao.Orchestration
import KalyxMao.TokenAgreement
import Mathlib.Logic.Relation

/-!
# The auditor's verification of an execution

The auditor reads the token, the receipt, the ledger and the event log again, and
trusts none of the executor's answers. Executions, audits and appended events
share one ledger and one log and may come in any order. What the executor has
returned a receipt for keeps its settlement in the ledger from then on, and a
receipt with a cost passes only for a token the executor has spent.
-/

namespace ExecutionAudits
open PythonText PythonValues PythonDates Ledger Domain TokenBinding Executors
open Consequential (showOption)
open EventChain (AuditEvent)
open EventStores (Payload)
open PayloadText (PyKey Value)
open Orchestration (TaskStatus)

section Model

structure Rules (Other : Type) extends TokenRules where
  nonceOf : String → Except PyError String
  text : PythonConversions.TextRules
  upper : String → String
  events : EventStores.Rules Other
  moment : DateTime → Other

variable {Other : Type} (r : Rules Other)

def Rules.executor : ExecutorRules := ⟨r.toHashing, r.nonceOf, r.text, r.upper⟩

/-- Where an execution goes, with what it takes from outside. -/
inductive Adapter where
  | sandbox (input : SandboxInput)
  | external (executor : ExternalExecutor) (input : ExternalInput)

/-- A call of `execute`, and the clock when the policy engine verifies the token. -/
structure ExecuteCall where
  proposal : ActionProposal
  decision : PolicyDecision
  org : Organisation
  state : OrgState
  adapter : Adapter
  now : PyFloat

/-- The token as the executor takes it from the decision. -/
def ExecuteCall.token (c : ExecuteCall) : String := orElse c.decision.authorizationToken ""

/-- The answer of the engine's own `verify_token`. -/
def verdictOn (secret version : String) (c : ExecuteCall) : Except PyError (Bool × Option String) :=
  verifyToken r.toTokenRules secret version c.token c.proposal ⟨c.org.id, c.state⟩ (some c.decision) c.now

def executeCall (secret version : String) (s : ExecutorState) (c : ExecuteCall) :
    Except PyError ExecutionReceipt × ExecutorState :=
  let verdict := verdictOn r secret version c
  match c.adapter with
  | .sandbox i =>
    sandboxExecute r.executor s c.proposal c.decision c.org { i with verdict := verdict }
  | .external x i =>
    externalExecute r.executor s c.proposal c.decision c.org x { i with verdict := verdict }

/-- The arguments of `verify_execution` less the ledger and the log, and what the call draws. -/
structure AuditCall where
  proposal : ActionProposal
  decision : PolicyDecision
  receipt : ExecutionReceipt
  org : TokenOrganisation
  task : TaskStatus
  policyEngine : Option (String × String)
  verificationSecret : Option String
  policyVersionHash : Option String
  now : PyFloat
  uuid : String
  clock : DateTime
  naive : clock.offset = none

structure VerificationReceipt where
  id : String
  executionId : String
  verified : Bool
  checks : List String
  failures : List String
  evidenceHash : String
  timestamp : DateTime

/-- `a or b` on optional texts. -/
def orOption (a b : Option String) : Option String := if a = none ∨ a = some "" then b else a

variable (ownSecret : Option String) (a : AuditCall)

/-- The secret that signatures are verified with; no secret is left where all of them are empty. -/
def AuditCall.secret : Option String :=
  orOption (orOption (orOption a.verificationSecret (a.policyEngine.elim ownSecret fun e => some e.1))
    ownSecret) none

def AuditCall.version : Option String :=
  orOption a.policyVersionHash (a.policyEngine.map Prod.snd)

def noted (failed : Bool) (text : String) : List String := if failed then [text] else []

def bindingFailures : List String :=
  noted (a.receipt.proposalId ≠ a.proposal.id)
    s!"Receipt proposal_id '{a.receipt.proposalId}' does not match proposal '{a.proposal.id}'" ++
  noted (some a.receipt.authorizationToken ≠ a.decision.authorizationToken)
    "Receipt authorization_token does not match policy decision token"

def integrityFailures : List String :=
  noted (a.receipt.costCredits ≠ a.proposal.requestedCredits)
    s!"Receipt cost credits ({a.receipt.costCredits}) does not match approved credits ({a.proposal.requestedCredits})" ++
  noted (a.receipt.target ≠ a.proposal.target)
    s!"Receipt target '{a.receipt.target}' does not match approved target '{a.proposal.target}'" ++
  noted (a.receipt.actionType ≠ a.proposal.actionType)
    s!"Receipt action_type '{a.receipt.actionType.value}' does not match approved action_type '{a.proposal.actionType.value}'"

/-- The digest of the decision's token that names a settlement. -/
def AuditCall.tokenHash : String := r.short (orElse a.decision.authorizationToken "")

/-- The entries under either id that a settlement may have. -/
def settlements (entries : List LedgerEntry) : List LedgerEntry :=
  entries.filter fun e => e.transactionId ∈ ["tx-" ++ a.tokenHash r, "commit-" ++ a.tokenHash r]

def settlementFailures (entries : List LedgerEntry) : List String :=
  if 0 < a.receipt.costCredits then
    match (settlements r a entries).getLast? with
    | none => [s!"No ledger settlement found for transaction ID 'tx-{a.tokenHash r}'"]
    | some e => noted (e.amount ≠ a.receipt.costCredits)
        s!"Ledger settled amount ({e.amount}) differs from receipt cost ({a.receipt.costCredits})"
  else []

def chainFailures (chain : Bool × Option String) : List String :=
  noted (!chain.1) s!"Audit chain cryptographic verification failed: {showOption chain.2}"

def stateFailures : List String :=
  noted (a.org.state = .paused) "Organisation is in PAUSED state" ++
  noted (a.task ∉ [.approved, .completed])
    s!"Task status '{a.task.value}' is inconsistent with execution"

def auditChecks : List String :=
  ["PROPOSAL_FINGERPRINT", "TOKEN_VALIDITY", "AUTH_EXEC_BINDING", "RECEIPT_INTEGRITY",
    "LEDGER_SETTLEMENT", "AUDIT_CHAIN_INTEGRITY", "CREDIT_CONSERVATION", "STATE_CONSISTENCY"]

/-- The executor with its ledger, and the log. -/
structure House where
  executor : ExecutorState
  events : List (AuditEvent (Payload r.events))

variable (h : House r)

/-- Everything that is noted against an execution, in the order of the checks. -/
def auditFailures : Except PyError (List String) := do
  let (valid, reason) ← verifyAuthorizationToken r.toTokenRules (a.secret ownSecret) a.version
    a.decision.authorizationToken a.proposal a.org (some a.decision) a.now
  return noted (getContentHash r.toTokenRules a.proposal = "") "Proposal fingerprint computation failed" ++
    noted (!valid) s!"Authorization token verification failed: {showOption reason}" ++
    bindingFailures a ++ integrityFailures a ++
    settlementFailures r a h.executor.ledger.entries ++
    chainFailures (EventStores.memoryVerify r.events h.events) ++
    noted (!h.executor.ledger.verifyConservation) "Conservation of credits broken in ledger" ++
    stateFailures a

def newVerification (failures : List String) : VerificationReceipt where
  id := a.uuid
  executionId := a.receipt.id
  verified := failures.isEmpty
  checks := auditChecks
  failures := failures
  evidenceHash := r.ofJson [("execution_id", .str a.receipt.id), ("proposal_id", .str a.proposal.id),
    ("decision_id", .str a.decision.id), ("checks", .list (auditChecks.map .str)),
    ("failures", .list (failures.map .str)), ("verified", .bool failures.isEmpty)]
  timestamp := a.clock

/-- The event an audit leaves, whatever it has found. -/
def verifiedEvent (v : VerificationReceipt) : EventStores.Call Other where
  actorId := "AUDITOR"
  eventType := "AUDIT_VERIFIED"
  entityId := a.receipt.id
  payload := [(.str "id", .str v.id), (.str "execution_id", .str v.executionId),
    (.str "verified", .bool v.verified), (.str "checks", .list (v.checks.map .str)),
    (.str "failures", .list (v.failures.map .str)), (.str "evidence_hash", .str v.evidenceHash),
    (.str "timestamp", .other (r.moment v.timestamp))]
  tenantId := none
  organisationId := none
  now := a.clock
  naive := a.naive

/-- `Auditor.verify_execution`. -/
def verifyExecution : Except PyError VerificationReceipt × House r :=
  match auditFailures r ownSecret a h with
  | .error err => (.error err, h)
  | .ok failures =>
    let verification := newVerification r a failures
    match EventStores.memoryAppend r.events h.events (verifiedEvent r a verification) with
    | none => (.error ⟨.otherException, "the event is not taken"⟩, h)
    | some event =>
      let logged := { h with events := h.events ++ [event] }
      if failures.isEmpty then (.ok verification, logged)
      else
        let shown := String.intercalate "; " failures
        (.error ⟨.otherException, s!"Audit verification failed: {shown}"⟩, logged)

/-- Whatever works on the ledger and the log. -/
inductive Call (Other : Type) where
  | execute (c : ExecuteCall)
  | audit (a : AuditCall)
  | append (c : EventStores.Call Other)

def House.opened (d : Draw) (initialTreasury : Int) (journal : Option (List String)) : House r where
  executor := ⟨.create d initialTreasury, [], journal, initialTreasury⟩
  events := []

variable {r}

def House.step (secret version : String) (h : House r) : Call Other → House r
  | .execute c => { h with executor := (executeCall r secret version h.executor c).2 }
  | .audit a => (verifyExecution r ownSecret a h).2
  | .append c => { h with events := EventStores.memoryStep r.events h.events c }

def House.run (secret version : String) (h : House r) (calls : List (Call Other)) : House r :=
  calls.foldl (House.step ownSecret secret version) h

end Model

section Property
variable {Other : Type} (r : Rules Other) (secret version : String) (ownSecret : Option String)

/-- The claims of the token have not expired. -/
def Unexpired (token : String) (now : PyFloat) : Prop :=
  ∃ start b64 signature c, splitText token '.' = [start, b64, signature] ∧
    fromB64 r.toTokenRules b64 = .ok c ∧ c.expiresAt.lt now = false

/-- The call has come among the others and returned the receipt. -/
def Executed (opened : House r) (calls : List (Call Other)) (c : ExecuteCall)
    (receipt : ExecutionReceipt) : Prop :=
  ∃ earlier later, calls = earlier ++ .execute c :: later ∧
    (executeCall r secret version (opened.run ownSecret secret version earlier).executor c).1 = .ok receipt

/-- The audit goes by the engine's secret and version, as the orchestration calls it. -/
structure Ordinary (a : AuditCall) : Prop where
  engine : a.policyEngine = some (secret, version)
  noSecret : a.verificationSecret = none
  noVersion : a.policyVersionHash = none

/-- The audit is one of the execution. -/
structure Concerns (a : AuditCall) (c : ExecuteCall) (receipt : ExecutionReceipt) : Prop where
  proposal : a.proposal = c.proposal
  decision : a.decision = c.decision
  receipt : a.receipt = receipt
  org : a.org.id = c.org.id

def Verifies (h : House r) (a : AuditCall) : Prop := ∃ v, (verifyExecution r ownSecret a h).1 = .ok v

/-- The executor was admitted with the token and charged what the receipt says. -/
structure Charged (a : AuditCall) (c : ExecuteCall) : Prop where
  carried : c.decision.authorizationToken = a.decision.authorizationToken
  approved : c.decision.result = .approved
  proposal : c.proposal.id = a.proposal.id
  content : getContentHash r.toTokenRules c.proposal = getContentHash r.toTokenRules a.proposal
  org : c.org.id = a.org.id
  cost : c.proposal.requestedCredits = a.receipt.costCredits

end Property

section Tokens
variable {Other : Type} {r : Rules Other} {secret version token : String} {p : ActionProposal}
  {org : TokenOrganisation} {decision : Option PolicyDecision} {now : PyFloat}

theorem accepts_verdict (answer : Except PyError (Bool × Option String)) :
    Accepts answer ↔ TokenAgreement.verdict answer = .ok true := by
  cases answer with
  | error err =>
    constructor
    · rintro ⟨message, same⟩
      cases same
    · intro same
      cases same
  | ok pair =>
    rw [accepts_ok]
    constructor
    · intro valid
      exact congrArg Except.ok valid
    · intro same
      exact Except.ok.inj same

/-- What the engine has to find in a token it accepts. -/
theorem verifyToken_parts
    (accepted : Accepts (verifyToken r.toTokenRules secret version token p org decision now)) :
    token ≠ "" ∧ ∃ start b64 signature c, splitText token '.' = [start, b64, signature] ∧
      startsWith start "AUTH-" = true ∧
      verifierVerify r.toTokenRules secret b64 signature = .ok true ∧
      fromB64 r.toTokenRules b64 = .ok c ∧
      ClaimsFit r.toTokenRules p org decision now c ∧ c.policyVersionHash = version := by
  unfold verifyToken at accepted
  by_cases empty : token = ""
  · rw [if_pos empty, accepts_ok] at accepted
    exact absurd accepted Bool.false_ne_true
  refine ⟨empty, ?_⟩
  rw [if_neg empty] at accepted
  by_cases paused : org.state = .paused
  · rw [if_pos paused, accepts_ok] at accepted
    exact absurd accepted Bool.false_ne_true
  rw [if_neg paused] at accepted
  split at accepted
  · rename_i start b64 signature parts
    split at accepted
    · rename_i starts
      cases signed : verifierVerify r.toTokenRules secret b64 signature with
      | error err =>
        rw [signed] at accepted
        obtain ⟨message, same⟩ := accepted
        cases same
      | ok verdict =>
        rw [signed] at accepted
        cases verdict with
        | false => exact absurd ((accepts_ok _).mp accepted) Bool.false_ne_true
        | true =>
          dsimp only at accepted
          cases claims : fromB64 r.toTokenRules b64 with
          | error err =>
            rw [claims] at accepted
            exact absurd ((accepts_ok _).mp accepted) Bool.false_ne_true
          | ok c =>
            rw [claims] at accepted
            have fit := (checkClaims_iff ..).mp ((accepts_ok _).mp accepted)
            exact ⟨start, b64, signature, c, parts, starts, signed, claims, fit⟩
    · exact absurd ((accepts_ok _).mp accepted) Bool.false_ne_true
  · exact absurd ((accepts_ok _).mp accepted) Bool.false_ne_true

/-- A token once accepted is accepted again until it expires or the organisation is paused. -/
theorem verifyToken_again
    (accepted : Accepts (verifyToken r.toTokenRules secret version token p org decision now))
    {org' : TokenOrganisation} (same : org'.id = org.id) (now' : PyFloat) :
    Accepts (verifyToken r.toTokenRules secret version token p org' decision now') ↔
      org'.state ≠ .paused ∧ Unexpired r token now' := by
  obtain ⟨filled, start, b64, signature, c, parts, starts, signed, claims, fit, versioned⟩ :=
    verifyToken_parts accepted
  have fits : ClaimsFit r.toTokenRules p org' decision now' c ↔ c.expiresAt.lt now' = false := by
    rw [ClaimsFit, same]
    exact ⟨fun fits => fits.1, fun unexpired => ⟨unexpired, fit.2⟩⟩
  have unexpired : Unexpired r token now' ↔ c.expiresAt.lt now' = false := by
    constructor
    · rintro ⟨start', b64', signature', c', parts', claims', unexpired⟩
      have pieces := parts.symm.trans parts'
      simp only [List.cons.injEq, and_true] at pieces
      rw [← pieces.2.1, claims] at claims'
      rw [Except.ok.inj claims']
      exact unexpired
    · intro unexpired
      exact ⟨start, b64, signature, c, parts, claims, unexpired⟩
  rw [verifyToken, if_neg filled, unexpired]
  by_cases paused : org'.state = .paused
  · rw [if_pos paused, accepts_ok]
    exact iff_of_false Bool.false_ne_true fun both => both.1 paused
  · rw [if_neg paused, parts]
    dsimp only
    rw [if_pos starts, signed]
    dsimp only
    rw [claims]
    dsimp only
    rw [accepts_ok, checkClaims_iff, fits]
    exact ⟨fun both => ⟨paused, both.1⟩, fun both => ⟨both.2, versioned⟩⟩

/-- The auditor's reading of a token that the engine has accepted. -/
theorem audited_again (named : version ≠ "")
    (accepted : Accepts (verifyToken r.toTokenRules secret version token p org decision now))
    {org' : TokenOrganisation} (same : org'.id = org.id) (now' : PyFloat) :
    Accepts (verifyAuthorizationToken r.toTokenRules (some secret) (some version) (some token) p org'
      decision now') ↔ org'.state ≠ .paused ∧ Unexpired r token now' := by
  rw [← verifyToken_again accepted same now', accepts_verdict, accepts_verdict,
    TokenAgreement.verdicts_agree named]

end Tokens

section Failures
variable {Other : Type} {r : Rules Other} {ownSecret : Option String} {a : AuditCall} {h : House r}

theorem noted_nil {failed : Bool} {text : String} : noted failed text = [] ↔ failed = false := by
  cases failed with
  | true => exact iff_of_false (List.cons_ne_nil _ _) Bool.true_eq_false_eq_False
  | false => exact iff_of_true rfl rfl

/-- The receipt is of the proposal, under the decision's token. -/
structure Matches (a : AuditCall) : Prop where
  proposal : a.receipt.proposalId = a.proposal.id
  token : some a.receipt.authorizationToken = a.decision.authorizationToken
  cost : a.receipt.costCredits = a.proposal.requestedCredits
  target : a.receipt.target = a.proposal.target
  action : a.receipt.actionType = a.proposal.actionType

theorem matches_iff : bindingFailures a = [] ∧ integrityFailures a = [] ↔ Matches a := by
  unfold bindingFailures integrityFailures
  simp only [List.append_eq_nil_iff, noted_nil, decide_eq_false_iff_not, not_not]
  constructor
  · rintro ⟨⟨proposal, token⟩, ⟨cost, target⟩, action⟩
    exact ⟨proposal, token, cost, target, action⟩
  · intro fit
    exact ⟨⟨fit.proposal, fit.token⟩, ⟨fit.cost, fit.target⟩, fit.action⟩

theorem stateFailures_nil :
    stateFailures a = [] ↔ a.org.state ≠ .paused ∧ a.task ∈ [TaskStatus.approved, .completed] := by
  unfold stateFailures
  simp only [List.append_eq_nil_iff, noted_nil, decide_eq_false_iff_not, not_not, ne_eq]

theorem settlementFailures_nil {entries : List LedgerEntry} : settlementFailures r a entries = [] ↔
    (0 < a.receipt.costCredits → ∃ e, (settlements r a entries).getLast? = some e ∧
      e.amount = a.receipt.costCredits) := by
  unfold settlementFailures
  split
  · rename_i positive
    cases last : (settlements r a entries).getLast? with
    | none =>
      refine iff_of_false (List.cons_ne_nil _ _) ?_
      intro settled
      obtain ⟨e, found, -⟩ := settled positive
      cases found
    | some e =>
      dsimp only
      rw [noted_nil, decide_eq_false_iff_not, not_not]
      constructor
      · intro amount _
        exact ⟨e, rfl, amount⟩
      · intro settled
        obtain ⟨e', found, amount⟩ := settled positive
        obtain rfl := Option.some.inj found
        exact amount
  · rename_i free
    exact iff_of_true rfl fun positive => absurd positive free

/-- Nothing is noted against an execution exactly if every check is met. -/
theorem auditFailures_nil : auditFailures r ownSecret a h = .ok [] ↔
    Accepts (verifyAuthorizationToken r.toTokenRules (a.secret ownSecret) a.version
      a.decision.authorizationToken a.proposal a.org (some a.decision) a.now) ∧
    getContentHash r.toTokenRules a.proposal ≠ "" ∧ Matches a ∧
    settlementFailures r a h.executor.ledger.entries = [] ∧
    (EventStores.memoryVerify r.events h.events).1 = true ∧
    h.executor.ledger.verifyConservation = true ∧
    a.org.state ≠ .paused ∧ a.task ∈ [TaskStatus.approved, .completed] := by
  unfold auditFailures
  rcases verifyAuthorizationToken r.toTokenRules (a.secret ownSecret) a.version
    a.decision.authorizationToken a.proposal a.org (some a.decision) a.now with err | ⟨valid, reason⟩
  · refine iff_of_false ?_ ?_
    · intro same
      cases same
    · rintro ⟨⟨message, same⟩, -⟩
      cases same
  · rw [accepts_ok, ← matches_iff, ← stateFailures_nil]
    show Except.ok _ = Except.ok [] ↔ _
    rw [Except.ok.injEq]
    simp only [List.append_eq_nil_iff, noted_nil, chainFailures, decide_eq_false_iff_not,
      Bool.not_eq_false', ne_eq]
    tauto

end Failures

section Log
variable {Other : Type} {r : Rules Other} {ownSecret : Option String} {a : AuditCall} {h : House r}

def Chained (events : List (AuditEvent (Payload r.events))) : Prop :=
  EventStores.memoryVerify r.events events = (true, none)

theorem written_texts {str : Other → String} {reprFloat : PyFloat → String} (texts : List String) :
    (PayloadText.writtenList reprFloat str (texts.map .str)).isSome = true := by
  induction texts with
  | nil => rfl
  | cons text texts ih =>
    obtain ⟨written, rest⟩ := Option.isSome_iff_exists.mp ih
    rw [List.map_cons, PayloadText.writtenList, rest]
    rfl

/-- The event of an audit can always be hashed. -/
theorem verifiedEvent_payload (r : Rules Other) (a : AuditCall) (v : VerificationReceipt) :
    ∃ p : Payload r.events, p.items = (verifiedEvent r a v).payload := by
  obtain ⟨checks, first⟩ := Option.isSome_iff_exists.mp
    (@written_texts Other r.events.str r.events.reprFloat v.checks)
  obtain ⟨failures, second⟩ := Option.isSome_iff_exists.mp
    (@written_texts Other r.events.str r.events.reprFloat v.failures)
  have writes : (EventStores.payloadJson r.events (verifiedEvent r a v).payload).isSome = true := by
    unfold EventStores.payloadJson PayloadText.canonicalJson verifiedEvent PayloadText.written
    rw [if_pos (by rfl)]
    simp only [PayloadText.writtenItems, PayloadText.written, first, second, PyKey.text]
    rfl
  obtain ⟨text, wrote⟩ := Option.isSome_iff_exists.mp writes
  exact ⟨⟨_, rfl, text, wrote⟩, rfl⟩

/-- An audit answers without failures if and only if nothing was noted. -/
theorem verifies_iff : Verifies r ownSecret h a ↔ auditFailures r ownSecret a h = .ok [] := by
  unfold Verifies verifyExecution
  cases noted : auditFailures r ownSecret a h with
  | error err =>
    refine iff_of_false ?_ ?_
    · rintro ⟨v, same⟩
      cases same
    · intro same
      cases same
  | ok failures =>
    obtain ⟨payload, same⟩ := verifiedEvent_payload r a (newVerification r a failures)
    dsimp only
    rw [EventStores.memoryAppend_taken same]
    dsimp only
    cases failures with
    | nil => exact iff_of_true ⟨_, rfl⟩ rfl
    | cons failure failures =>
      refine iff_of_false ?_ ?_
      · rintro ⟨v, same⟩
        cases same
      · intro same
        cases Except.ok.inj same

theorem ofValue_items {items : List (PyKey × Value Other)} {p : Payload r.events}
    (made : Payload.ofValue r.events (.dict items) = some p) : p.items = items := by
  unfold Payload.ofValue at made
  dsimp only at made
  split at made
  · exact congrArg Payload.items (Option.some.inj made).symm
  · cases made

/-- Whatever is appended, the log stays a chain. -/
theorem memoryStep_chained {events : List (AuditEvent (Payload r.events))} (chained : Chained events)
    (c : EventStores.Call Other) : Chained (EventStores.memoryStep r.events events c) := by
  unfold EventStores.memoryStep
  cases appended : EventStores.memoryAppend r.events events c with
  | none =>
    rw [Option.toList_none, List.append_nil]
    exact chained
  | some e =>
    have taken : ∃ p : Payload r.events, p.items = c.payload := by
      unfold EventStores.memoryAppend at appended
      simp only [Option.bind_eq_bind, Option.bind_eq_some_iff] at appended
      obtain ⟨_, -, p, made, -⟩ := appended
      exact ⟨p, ofValue_items made⟩
    obtain ⟨p, same⟩ := taken
    rw [EventStores.memoryAppend_taken same] at appended
    obtain rfl := Option.some.inj appended
    refine EventChain.verifyFrom_true _ _ _ ((EventChain.verifyFrom_concat ..).mpr ⟨?_, ?_⟩)
    · exact congrArg Prod.fst chained
    · rw [Nat.zero_add]
      exact EventStores.newEvent_linked c p ..

theorem verifyExecution_events : (verifyExecution r ownSecret a h).2 = h ∨
    ∃ v, (verifyExecution r ownSecret a h).2 =
      { h with events := EventStores.memoryStep r.events h.events (verifiedEvent r a v) } := by
  unfold verifyExecution
  cases auditFailures r ownSecret a h with
  | error err => exact .inl rfl
  | ok failures =>
    dsimp only
    cases appended : EventStores.memoryAppend r.events h.events
      (verifiedEvent r a (newVerification r a failures)) with
    | none => exact .inl rfl
    | some event =>
      refine .inr ⟨newVerification r a failures, ?_⟩
      rw [EventStores.memoryStep, appended]
      dsimp only
      split <;> rfl

end Log

section Spending
variable {Other : Type} {r : Rules Other} {secret version : String} {x : ExecutorRules}
  {s : ExecutorState} {proposal : ActionProposal} {decision : PolicyDecision} {org : Organisation}
  {token : String} {l l' : DoubleEntryLedger}

/-- One transfer of the executor under the token: a fresh id, no account of the mint. -/
def Spend (x : ExecutorRules) (token : String) (credits : Nat) (l l' : DoubleEntryLedger) : Prop :=
  ∃ start source target e, start ∈ ["tx", "res", "rollback"] ∧ source ≠ systemMint ∧ target ≠ systemMint ∧
    s!"{start}-{x.hashing.short token}" ∉ l.recordedTxIds ∧
    Books e s!"{start}-{x.hashing.short token}" source target credits ∧ l' = l.move e

/-- Any number of transfers under the token. -/
def Spends (x : ExecutorRules) (token : String) (credits : Nat) :
    DoubleEntryLedger → DoubleEntryLedger → Prop :=
  Relation.ReflTransGen (Spend x token credits)

theorem moveCredits_spends {start source target memo : String} {d : Draw}
    (known : start ∈ ["tx", "res", "rollback"]) (paid : source ≠ systemMint) (kept : target ≠ systemMint)
    (different : source ≠ target) : Spends x token proposal.requestedCredits s.ledger
      (moveCredits x s proposal token start source target memo d).2.ledger := by
  rcases Nat.eq_zero_or_pos proposal.requestedCredits with nothing | positive
  · rw [moveCredits_nothing nothing]
    exact .refl
  · rcases moveCredits_cases (r := x) s token start memo d positive different with
      ⟨-, e, refused⟩ | ⟨fresh, -, e, s', books, done, ledger⟩
    · rw [refused]
      exact .refl
    · rw [done]
      exact .single ⟨start, source, target, e, known, paid, kept, fresh, books, ledger⟩

theorem commitReservation_spends (s : ExecutorState) (d : Draw) :
    Spends x token proposal.requestedCredits s.ledger
      (commitReservation x s proposal token d).2.ledger :=
  moveCredits_spends (by decide) (by decide) (by decide) (by decide)

theorem rollbackReservation_spends (s : ExecutorState) (d : Draw) :
    Spends x token proposal.requestedCredits s.ledger
      (rollbackReservation x s proposal token d).2.ledger :=
  moveCredits_spends (by decide) (by decide) (by decide) (by decide)

theorem attempt_spends (s : ExecutorState) (e : ExternalExecutor) (i : ExternalInput) :
    Spends x token proposal.requestedCredits s.ledger (attempt x s proposal token e i).2.ledger := by
  have committed := @commitReservation_spends x proposal token s i.settled
  unfold attempt
  split
  · exact .refl
  · split
    · exact .refl
    · split
      · rename_i outcome
        rw [outcome] at committed
        exact committed
      · rename_i outcome
        rw [outcome] at committed
        exact committed

theorem executeReserved_spends (s : ExecutorState) (e : ExternalExecutor) (i : ExternalInput) :
    Spends x token proposal.requestedCredits s.ledger
      (executeReserved x s proposal token e i).2.ledger := by
  have tried := @attempt_spends x proposal token s e i
  unfold executeReserved
  split
  · rename_i outcome
    rw [outcome] at tried
    exact tried
  · rename_i err s' outcome
    rw [outcome] at tried
    have undone := @rollbackReservation_spends x proposal token s' i.rolledBack
    split
    · rename_i outcome
      rw [outcome] at undone
      exact tried.trans undone
    · rename_i outcome
      rw [outcome] at undone
      exact tried.trans undone

/-- A token that has passed `_verify_preconditions`. -/
structure Admitted (decision : PolicyDecision) (verdict : Except PyError (Bool × Option String))
    (token : String) : Prop where
  carried : decision.authorizationToken = some token
  approved : decision.result = .approved
  accepted : Accepts verdict

theorem verifyPreconditions_ok {verdict : Except PyError (Bool × Option String)}
    (passed : verifyPreconditions s proposal decision org verdict = .ok token) :
    Admitted decision verdict token := by
  unfold verifyPreconditions at passed
  dsimp only at passed
  split at passed
  · cases passed
  rename_i approved
  split at passed
  · cases passed
  rename_i filled
  split at passed
  · cases passed
  rcases verdict with err | ⟨valid, reason⟩
  · cases passed
  · cases valid with
    | false => cases passed
    | true =>
      have capable : (do enforceAgentCapability proposal org; return orElse decision.authorizationToken "" :
        Except PyError String) = .ok token := passed
      have carried : orElse decision.authorizationToken "" = token := by
        cases allowed : enforceAgentCapability proposal org with
        | error err =>
          rw [allowed] at capable
          cases capable
        | ok done =>
          rw [allowed] at capable
          exact Except.ok.inj capable
      refine ⟨?_, not_not.mp approved, reason, rfl⟩
      rw [← carried]
      cases held : decision.authorizationToken with
      | none =>
        rw [held] at filled
        exact absurd rfl filled
      | some t =>
        rw [held] at filled
        rw [orElse] at filled ⊢
        split
        · rename_i empty
          rw [if_pos empty] at filled
          exact absurd rfl filled
        · rfl

theorem admission_ok {e : ExternalExecutor} {i : ExternalInput}
    (admitted : admission x s proposal decision org e i = .ok token) :
    Admitted decision i.verdict token := by
  unfold admission at admitted
  cases passed : verifyPreconditions s proposal decision org i.verdict with
  | error err =>
    rw [passed] at admitted
    cases admitted
  | ok t =>
    rw [passed] at admitted
    have answer : t = token := by
      simp only [bind, Except.bind] at admitted
      split at admitted
      · cases admitted
      · split at admitted
        · cases admitted
        · split at admitted
          · cases admitted
          · exact Except.ok.inj admitted
    exact answer ▸ verifyPreconditions_ok passed

/-- A call leaves the ledger alone, or its token was admitted and is what it spends under. -/
theorem executeCall_cases (r : Rules Other) (secret version : String) (s : ExecutorState) (c : ExecuteCall) :
    (executeCall r secret version s c).2.ledger = s.ledger ∨
      ∃ token, Admitted c.decision (verdictOn r secret version c) token ∧
        Spends r.executor token c.proposal.requestedCredits s.ledger
          (executeCall r secret version s c).2.ledger := by
  unfold executeCall
  cases c.adapter with
  | sandbox i =>
    unfold sandboxExecute
    dsimp only
    split
    · exact .inl rfl
    · rename_i token passed
      have admitted := verifyPreconditions_ok passed
      have same : (markTokenConsumed r.executor s token).2.ledger = s.ledger := markTokenConsumed_ledger
      split
      · rename_i marked
        rw [marked] at same
        exact .inl same
      · rename_i s₁ marked
        rw [marked] at same
        have settled : Spends r.executor token c.proposal.requestedCredits s₁.ledger
            (settleLedgerFee r.executor s₁ c.proposal token i.draw).2.ledger :=
          moveCredits_spends (by decide) (by decide) (by decide) (by decide)
        dsimp only at same
        rw [same] at settled
        refine .inr ⟨token, admitted, ?_⟩
        split
        · rename_i outcome
          rw [outcome] at settled
          exact settled
        · rename_i outcome
          rw [outcome] at settled
          exact settled
  | external e i =>
    unfold externalExecute reserve
    dsimp only
    cases entered : admission r.executor s c.proposal c.decision c.org e
      { i with verdict := verdictOn r secret version c } with
    | error err => exact .inl rfl
    | ok token =>
      have admitted := admission_ok entered
      have same : (markTokenConsumed r.executor s token).2.ledger = s.ledger := markTokenConsumed_ledger
      dsimp only
      rcases marked : markTokenConsumed r.executor s token with ⟨err | ⟨⟩, s₁⟩
      · rw [marked] at same
        exact .inl same
      · rw [marked] at same
        dsimp only at same ⊢
        have reserved : Spends r.executor token c.proposal.requestedCredits s₁.ledger
            (reserveCredits r.executor s₁ c.proposal token i.reserved).2.ledger :=
          moveCredits_spends (by decide) (by decide) (by decide) (by decide)
        rw [same] at reserved
        refine .inr ⟨token, admitted, ?_⟩
        rcases held : reserveCredits r.executor s₁ c.proposal token i.reserved with ⟨err | ⟨⟩, s₂⟩
        · rw [held] at reserved
          exact reserved
        · rw [held] at reserved
          exact reserved.trans (executeReserved_spends ..)

end Spending

section Receipts
variable {Other : Type} {r : Rules Other} {secret version : String} {x : ExecutorRules}
  {s : ExecutorState} {proposal : ActionProposal} {token : String} {receipt : ExecutionReceipt}

/-- A receipt of the proposal under the token, with its cost settled in the ledger. -/
structure Receipted (x : ExecutorRules) (proposal : ActionProposal) (token : String)
    (receipt : ExecutionReceipt) (l : DoubleEntryLedger) : Prop where
  proposalId : receipt.proposalId = proposal.id
  carried : receipt.authorizationToken = token
  cost : receipt.costCredits = proposal.requestedCredits
  target : receipt.target = proposal.target
  action : receipt.actionType = proposal.actionType
  settled : 0 < proposal.requestedCredits →
    ∃ e ∈ l.entries, e.transactionId = commitId x token ∧ e.amount = proposal.requestedCredits

theorem newReceipt_receipted {receiptId : String} {status : Nat} {body : PyValue} {l : DoubleEntryLedger}
    (made : newReceipt x proposal token receiptId status body = .ok receipt)
    (settled : 0 < proposal.requestedCredits →
      ∃ e ∈ l.entries, e.transactionId = commitId x token ∧ e.amount = proposal.requestedCredits) :
    Receipted x proposal token receipt l := by
  unfold newReceipt at made
  split at made
  · obtain rfl := Except.ok.inj made
    exact ⟨rfl, rfl, rfl, rfl, rfl, settled⟩
  · cases made

/-- A transfer under the settlement's id that has gone through is found in the ledger. -/
theorem moveCredits_settled {source target memo : String} {d : Draw} {s' : ExecutorState}
    (different : source ≠ target)
    (moved : moveCredits x s proposal token "tx" source target memo d = (.ok (), s'))
    (positive : 0 < proposal.requestedCredits) :
    ∃ e ∈ s'.ledger.entries, e.transactionId = commitId x token ∧ e.amount = proposal.requestedCredits := by
  rcases moveCredits_cases (r := x) s token "tx" memo d positive different with
    ⟨-, e, refused⟩ | ⟨-, -, e, s'', books, done, ledger⟩
  · rw [moved] at refused
    cases refused
  · rw [moved] at done
    obtain ⟨-, rfl⟩ := Prod.mk.inj done
    refine ⟨e, ?_, books.transactionId, books.amount⟩
    rw [ledger]
    exact List.mem_append_right _ (List.mem_singleton.mpr rfl)

theorem executeReserved_receipted {e : ExternalExecutor} {i : ExternalInput} {s' : ExecutorState}
    (done : executeReserved x s proposal token e i = (.ok receipt, s')) :
    Receipted x proposal token receipt s'.ledger := by
  unfold executeReserved at done
  split at done
  · rename_i receipt' s₁ tried
    obtain ⟨same, rfl⟩ := Prod.mk.inj done
    obtain rfl := Except.ok.inj same
    unfold attempt at tried
    split at tried
    · cases (Prod.mk.inj tried).1
    · split at tried
      · cases (Prod.mk.inj tried).1
      · split at tried
        · cases (Prod.mk.inj tried).1
        · rename_i s₂ committed
          obtain ⟨made, rfl⟩ := Prod.mk.inj tried
          exact newReceipt_receipted made (moveCredits_settled (by decide) committed)
  · split at done
    · cases (Prod.mk.inj done).1
    · cases (Prod.mk.inj done).1

/-- What a call has done that returns a receipt. -/
theorem executeCall_receipted {c : ExecuteCall}
    (done : (executeCall r secret version s c).1 = .ok receipt) :
    ∃ token, Admitted c.decision (verdictOn r secret version c) token ∧
      Receipted r.executor c.proposal token receipt (executeCall r secret version s c).2.ledger := by
  unfold executeCall at done ⊢
  cases where_ : c.adapter with
  | sandbox i =>
    rw [where_] at done
    unfold sandboxExecute at done ⊢
    dsimp only at done ⊢
    split at done
    · cases done
    · rename_i token passed
      split at done
      · cases done
      · rename_i s₁ marked
        split at done
        · cases done
        · rename_i s₂ settled
          have made : newReceipt r.executor c.proposal token i.receiptId 200
            (outputPayload c.proposal i.simulatedValue) = .ok receipt := done
          exact ⟨token, verifyPreconditions_ok passed,
            newReceipt_receipted made (moveCredits_settled (by decide) settled)⟩
  | external e i =>
    rw [where_] at done
    unfold externalExecute at done ⊢
    dsimp only at done ⊢
    split at done
    · cases done
    · rename_i token s₁ reserved
      refine ⟨token, ?_, ?_⟩
      · unfold reserve at reserved
        split at reserved
        · cases (Prod.mk.inj reserved).1
        · rename_i token' entered
          split at reserved
          · cases (Prod.mk.inj reserved).1
          · split at reserved
            · cases (Prod.mk.inj reserved).1
            · obtain ⟨same, -⟩ := Prod.mk.inj reserved
              exact Except.ok.inj same ▸ admission_ok entered
      · rcases outcome : executeReserved r.executor s₁ c.proposal token e
          { i with verdict := verdictOn r secret version c } with ⟨answer, s₂⟩
        rw [outcome] at done
        exact executeReserved_receipted (outcome.trans (congrArg (fun a => (a, s₂)) done))

end Receipts

section Ledgers
variable {Other : Type} {r : Rules Other} {secret version : String} {ownSecret : Option String}
  {x : ExecutorRules} {token : String} {credits : Nat} {l l' : DoubleEntryLedger}

/-- A ledger that only credits and moves of the executor have been booked in. -/
structure Kept (l : DoubleEntryLedger) : Prop where
  figures : l = .replay l.entries
  distinct : (l.entries.map LedgerEntry.transactionId).Nodup
  targets : ∀ e ∈ l.entries, e.toAccount ≠ systemMint
  uncommitted : ∀ e ∈ l.entries, ∀ hash, e.transactionId ≠ "commit-" ++ hash

theorem Kept.recorded (kept : Kept l) : l.recordedTxIds = l.entries.map LedgerEntry.transactionId := by
  have figures := kept.figures
  exact (congrArg DoubleEntryLedger.recordedTxIds figures).trans
    (DoubleEntryLedger.recordedTxIds_replay l.entries)

theorem started_uncommitted {start : String} (known : start ∈ ["tx", "res", "rollback"])
    (rest hash : String) : s!"{start}-{rest}" ≠ "commit-" ++ hash := by
  simp only [List.mem_cons, List.not_mem_nil, or_false] at known
  rcases known with rfl | rfl | rfl
  · exact ne_of_starts _ _ 2 (by decide) (by decide) (by decide)
  · exact ne_of_starts _ _ 2 (by decide) (by decide) (by decide)
  · exact ne_of_starts _ _ 2 (by decide) (by decide) (by decide)

/-- Only a settlement's id starts as a settlement's id does. -/
theorem started_settles {start : String} (known : start ∈ ["tx", "res", "rollback"]) {rest hash : String}
    (same : s!"{start}-{rest}" = "tx-" ++ hash) : rest = hash := by
  simp only [List.mem_cons, List.not_mem_nil, or_false] at known
  rcases known with rfl | rfl | rfl
  · exact (String.append_right_inj _).mp same
  · exact absurd same (ne_of_starts _ _ 2 (by decide) (by decide) (by decide))
  · exact absurd same (ne_of_starts _ _ 2 (by decide) (by decide) (by decide))

theorem Spend.kept (spend : Spend x token credits l l') (kept : Kept l) : Kept l' := by
  obtain ⟨start, source, target, e, known, paid, held, fresh, books, rfl⟩ := spend
  have moved : (l.move e).entries = l.entries ++ [e] := rfl
  rw [kept.recorded, ← books.transactionId] at fresh
  constructor
  · have figures := congrArg (fun l : DoubleEntryLedger => l.record e) kept.figures
    rw [moved, DoubleEntryLedger.replay_concat, ← figures]
    exact (if_neg (books.source ▸ paid)).symm
  · rw [moved, List.map_append]
    refine List.nodup_append.mpr ⟨kept.distinct, List.nodup_singleton _, ?_⟩
    intro id old id' new same
    rw [List.map_singleton, List.mem_singleton] at new
    exact fresh (new ▸ same ▸ old)
  · rw [moved]
    exact List.forall_mem_append.mpr ⟨kept.targets, List.forall_mem_singleton.mpr (books.target ▸ held)⟩
  · rw [moved]
    refine List.forall_mem_append.mpr ⟨kept.uncommitted, List.forall_mem_singleton.mpr ?_⟩
    intro hash
    rw [books.transactionId]
    exact started_uncommitted known _ hash

theorem Spends.kept (spends : Spends x token credits l l') (kept : Kept l) : Kept l' := by
  induction spends with
  | refl => exact kept
  | tail _ spend ih => exact spend.kept ih

/-- Entries stay, and what is added under a settlement's id is of this token and this amount. -/
theorem Spends.entries (spends : Spends x token credits l l') :
    (∀ e ∈ l.entries, e ∈ l'.entries) ∧
      ∀ e ∈ l'.entries, e ∈ l.entries ∨ e.amount = credits ∧
        ∀ hash, e.transactionId = "tx-" ++ hash → x.hashing.short token = hash := by
  induction spends with
  | refl => exact ⟨fun e old => old, fun e old => .inl old⟩
  | tail _ spend ih =>
    obtain ⟨start, source, target, e, known, -, -, -, books, rfl⟩ := spend
    constructor
    · intro e' old
      exact List.mem_append_left _ (ih.1 e' old)
    · intro e' present
      rcases List.mem_append.mp present with earlier | last
      · exact ih.2 e' earlier
      · obtain rfl := List.mem_singleton.mp last
        refine .inr ⟨books.amount, ?_⟩
        intro hash named
        exact started_settles known (books.transactionId.symm.trans named)

theorem opened_kept (r : Rules Other) (d : Draw) (initialTreasury : Int) (journal : Option (List String)) :
    Kept (House.opened r d initialTreasury journal).executor.ledger := by
  show Kept (DoubleEntryLedger.create d initialTreasury)
  unfold DoubleEntryLedger.create
  split
  · rename_i positive
    rw [DoubleEntryLedger.mint, ledgerEntry, dif_pos positive]
    constructor
    · rfl
    · exact List.nodup_singleton _
    · exact List.forall_mem_singleton.mpr (by decide : treasury ≠ systemMint)
    · refine List.forall_mem_singleton.mpr ?_
      intro hash
      exact ne_of_starts (s := "mint-") (t := "commit-") _ _ 2 (by decide) (by decide) (by decide)
  · constructor
    · rfl
    · exact List.nodup_nil
    · intro e none
      cases none
    · intro e none
      cases none

end Ledgers

section Runs
variable {Other : Type} {r : Rules Other} {secret version : String} {ownSecret : Option String}
  {calls : List (Call Other)} {h : House r}

/-- An executor was admitted with a token of this digest and asked for this amount. -/
def Explains (r : Rules Other) (secret version : String) (calls : List (Call Other)) (e : LedgerEntry)
    (hash : String) : Prop :=
  ∃ c token, Call.execute c ∈ calls ∧ Admitted c.decision (verdictOn r secret version c) token ∧
    r.short token = hash ∧ e.amount = c.proposal.requestedCredits

/-- What holds of the ledger and the log after any calls. -/
structure Sound (r : Rules Other) (secret version : String) (calls : List (Call Other)) (h : House r) :
    Prop where
  kept : Kept h.executor.ledger
  chained : Chained h.events
  explained : ∀ e ∈ h.executor.ledger.entries, ∀ hash, e.transactionId = "tx-" ++ hash →
    Explains r secret version calls e hash

theorem Explains.grow {e : LedgerEntry} {hash : String} (explains : Explains r secret version calls e hash)
    (call : Call Other) : Explains r secret version (calls ++ [call]) e hash := by
  obtain ⟨c, token, member, found⟩ := explains
  exact ⟨c, token, List.mem_append_left _ member, found⟩

/-- Entries are never taken back. -/
theorem step_entries (h : House r) (call : Call Other) :
    ∀ e ∈ h.executor.ledger.entries, e ∈ (h.step ownSecret secret version call).executor.ledger.entries := by
  intro e old
  cases call with
  | execute c =>
    rcases executeCall_cases r secret version h.executor c with
      same | ⟨token, -, spends⟩
    · exact same.symm ▸ old
    · exact spends.entries.1 e old
  | audit a =>
    have same : (h.step ownSecret secret version (.audit a)).executor = h.executor := by
      rcases @verifyExecution_events Other r ownSecret a h with same | ⟨v, same⟩
      · exact congrArg House.executor same
      · rw [House.step, same]
    exact same.symm ▸ old
  | append c => exact old

theorem run_entries (h : House r) (calls : List (Call Other)) :
    ∀ e ∈ h.executor.ledger.entries, e ∈ (h.run ownSecret secret version calls).executor.ledger.entries := by
  induction calls generalizing h with
  | nil => exact fun e old => old
  | cons call calls ih => exact fun e old => ih _ e (step_entries h call e old)

theorem Sound.step (sound : Sound r secret version calls h) (call : Call Other) :
    Sound r secret version (calls ++ [call]) (h.step ownSecret secret version call) := by
  have grown : ∀ e ∈ h.executor.ledger.entries, ∀ hash, e.transactionId = "tx-" ++ hash →
      Explains r secret version (calls ++ [call]) e hash := by
    intro e old hash named
    exact (sound.explained e old hash named).grow call
  cases call with
  | execute c =>
    rcases executeCall_cases r secret version h.executor c with
      same | ⟨token, admitted, spends⟩
    · refine ⟨same.symm ▸ sound.kept, sound.chained, ?_⟩
      exact same.symm ▸ grown
    · refine ⟨spends.kept sound.kept, sound.chained, ?_⟩
      intro e present hash named
      rcases spends.entries.2 e present with old | ⟨amount, new⟩
      · exact grown e old hash named
      · exact ⟨c, token, List.mem_append_right _ (List.mem_singleton.mpr rfl), admitted,
          new hash named, amount⟩
  | audit a =>
    rcases @verifyExecution_events Other r ownSecret a h with same | ⟨v, same⟩
    · have still : h.step ownSecret secret version (.audit a) = h := same
      rw [still]
      exact ⟨sound.kept, sound.chained, grown⟩
    · have logged : h.step ownSecret secret version (.audit a) = _ := same
      rw [logged]
      exact ⟨sound.kept, memoryStep_chained sound.chained _, grown⟩
  | append c => exact ⟨sound.kept, memoryStep_chained sound.chained c, grown⟩

theorem run_sound (d : Draw) (initialTreasury : Int) (journal : Option (List String))
    (calls : List (Call Other)) : Sound r secret version calls
      ((House.opened r d initialTreasury journal).run ownSecret secret version calls) := by
  induction calls using List.reverseRecOn with
  | nil =>
    refine ⟨opened_kept r d initialTreasury journal, rfl, ?_⟩
    intro e present hash named
    change e ∈ (DoubleEntryLedger.create d initialTreasury).entries at present
    unfold DoubleEntryLedger.create at present
    split at present
    · rename_i positive
      rw [DoubleEntryLedger.mint, ledgerEntry, dif_pos positive] at present
      obtain rfl := List.mem_singleton.mp present
      exact absurd named (ne_of_starts (s := "mint-") (t := "tx-") _ _ 2 (by decide) (by decide) (by decide))
    · cases present
  | append_singleton calls call ih =>
    rw [House.run, List.foldl_concat]
    exact ih.step call

/-- Among entries of distinct ids, the settlement of a digest is the last under its two ids. -/
theorem settlements_last {entries : List LedgerEntry} {a : AuditCall} {e : LedgerEntry}
    (distinct : (entries.map LedgerEntry.transactionId).Nodup)
    (uncommitted : ∀ e ∈ entries, ∀ hash, e.transactionId ≠ "commit-" ++ hash)
    (present : e ∈ entries) (named : e.transactionId = "tx-" ++ a.tokenHash r) :
    (settlements r a entries).getLast? = some e := by
  have found : e ∈ settlements r a entries := by
    refine List.mem_filter.mpr ⟨present, decide_eq_true ?_⟩
    rw [named]
    exact List.mem_cons_self
  have filled : settlements r a entries ≠ [] := List.ne_nil_of_mem found
  rw [List.getLast?_eq_some_getLast filled]
  obtain ⟨there, listed⟩ := List.mem_filter.mp (List.getLast_mem filled)
  have listed := of_decide_eq_true listed
  simp only [List.mem_cons, List.not_mem_nil, or_false] at listed
  rcases listed with same | committed
  · exact congrArg some (List.inj_on_of_nodup_map distinct there present (same.trans named.symm))
  · exact absurd committed (uncommitted _ there _)

end Runs

section Results
variable {Other : Type} {r : Rules Other} {secret version : String} {ownSecret : Option String}

theorem Ordinary.resolved {a : AuditCall} (ordinary : Ordinary secret version a) (keyed : secret ≠ "")
    (ownSecret : Option String) : a.secret ownSecret = some secret ∧ a.version = some version := by
  unfold AuditCall.secret AuditCall.version
  rw [ordinary.engine, ordinary.noSecret, ordinary.noVersion]
  constructor
  · simp [orOption, keyed]
  · rfl

/-- The token of an admitted call is there, and the engine has accepted it. -/
theorem Admitted.token_eq {c : ExecuteCall} {token : String}
    (admitted : Admitted c.decision (verdictOn r secret version c) token) : c.token = token ∧ token ≠ "" := by
  have accepted := admitted.accepted
  unfold verdictOn at accepted
  have filled := (verifyToken_parts accepted).1
  rw [ExecuteCall.token, admitted.carried, orElse] at filled ⊢
  by_cases empty : token = ""
  · rw [if_pos empty] at filled
    exact absurd rfl filled
  · rw [if_neg empty]
    exact ⟨rfl, empty⟩

/-- Whatever executions, audits and events have come before and after: the audit of an execution
passes until its token expires, unless the organisation is paused or the task has moved on. -/
theorem executions_pass_audit (named : version ≠ "") (keyed : secret ≠ "")
    (digests : ∀ s, r.sha256 s ≠ "") (d : Draw) (initialTreasury : Int) (journal : Option (List String))
    {calls : List (Call Other)} {c : ExecuteCall} {receipt : ExecutionReceipt}
    (executed : Executed r secret version ownSecret (.opened r d initialTreasury journal) calls c receipt)
    {a : AuditCall} (ordinary : Ordinary secret version a) (concerns : Concerns a c receipt) :
    Verifies r ownSecret ((House.opened r d initialTreasury journal).run ownSecret secret version calls) a ↔
      a.org.state ≠ .paused ∧ Unexpired r c.token a.now ∧ a.task ∈ [TaskStatus.approved, .completed] := by
  have sound : Sound r secret version calls
    ((House.opened r d initialTreasury journal).run ownSecret secret version calls) :=
      run_sound d initialTreasury journal calls
  obtain ⟨earlier, later, split, done⟩ := executed
  obtain ⟨token, admitted, receipted⟩ := executeCall_receipted done
  obtain ⟨spelled, filled⟩ := admitted.token_eq
  have carried : a.decision.authorizationToken = some token := concerns.decision ▸ admitted.carried
  obtain ⟨secret_, version_⟩ := ordinary.resolved keyed ownSecret
  have accepted : Accepts (verifyToken r.toTokenRules secret version token c.proposal ⟨c.org.id, c.state⟩
      (some c.decision) c.now) := spelled ▸ admitted.accepted
  have again := audited_again named accepted concerns.org a.now
  have receipt_ : Matches a := by
    constructor
    · rw [concerns.receipt, concerns.proposal]
      exact receipted.proposalId
    · rw [concerns.receipt, carried, receipted.carried]
    · rw [concerns.receipt, concerns.proposal]
      exact receipted.cost
    · rw [concerns.receipt, concerns.proposal]
      exact receipted.target
    · rw [concerns.receipt, concerns.proposal]
      exact receipted.action
  have settled : settlementFailures r a
      ((House.opened r d initialTreasury journal).run ownSecret secret version calls).executor.ledger.entries
        = [] := by
    rw [settlementFailures_nil]
    intro positive
    have cost : a.receipt.costCredits = c.proposal.requestedCredits := by
      rw [concerns.receipt]
      exact receipted.cost
    rw [cost] at positive ⊢
    obtain ⟨e, booked, id, amount⟩ := receipted.settled positive
    have present : e ∈ ((House.opened r d initialTreasury journal).run ownSecret secret version
        calls).executor.ledger.entries := by
      rw [split, House.run, List.foldl_append, List.foldl_cons]
      exact run_entries _ later e booked
    refine ⟨e, settlements_last sound.kept.distinct sound.kept.uncommitted present ?_, amount⟩
    rw [id, AuditCall.tokenHash, carried, orElse_some filled]
    rfl
  have conserved : ((House.opened r d initialTreasury journal).run ownSecret secret version
      calls).executor.ledger.verifyConservation = true := by
    rw [sound.kept.figures, Conservation.verifyConservation_replay]
    exact sound.kept.targets
  rw [verifies_iff, auditFailures_nil, secret_, version_, carried, concerns.proposal, concerns.decision,
    again]
  constructor
  · rintro ⟨⟨-, unexpired⟩, -, -, -, -, -, active, task⟩
    exact ⟨active, spelled.symm ▸ unexpired, task⟩
  · rintro ⟨active, unexpired, task⟩
    exact ⟨⟨active, spelled ▸ unexpired⟩, digests _, receipt_, settled, congrArg Prod.fst sound.chained,
      conserved, active, task⟩

/-- Two actions for which the engine and the auditor accept one token are the same. -/
theorem same_claims (named : version ≠ "") {token : String} {p p' : ActionProposal}
    {org org' : TokenOrganisation} {decision decision' : Option PolicyDecision} {now now' : PyFloat}
    (accepted : Accepts (verifyToken r.toTokenRules secret version token p org decision now))
    (audited : Accepts (verifyAuthorizationToken r.toTokenRules (some secret) (some version) (some token) p'
      org' decision' now')) :
    p.id = p'.id ∧ getContentHash r.toTokenRules p = getContentHash r.toTokenRules p' ∧
      org.id = org'.id := by
  rw [accepts_verdict, ← TokenAgreement.verdicts_agree named, ← accepts_verdict] at audited
  obtain ⟨-, start, b64, signature, c, parts, -, -, claims, fit, -⟩ := verifyToken_parts accepted
  obtain ⟨-, start', b64', signature', c', parts', -, -, claims', fit', -⟩ := verifyToken_parts audited
  have pieces := parts.symm.trans parts'
  simp only [List.cons.injEq, and_true] at pieces
  rw [← pieces.2.1, claims] at claims'
  obtain rfl := Except.ok.inj claims'
  obtain ⟨-, org_, proposal, content, -⟩ := fit
  obtain ⟨-, org_', proposal', content', -⟩ := fit'
  exact ⟨proposal.symm.trans proposal', content.symm.trans content', org_.symm.trans org_'⟩

/-- Where no two tokens share a digest, a receipt with a cost passes only for a token that the
executor was admitted with, for this proposal's content and at this cost. -/
theorem audited_receipts_charged (named : version ≠ "") (keyed : secret ≠ "") (d : Draw)
    (initialTreasury : Int) (journal : Option (List String)) {calls : List (Call Other)} {a : AuditCall}
    (ordinary : Ordinary secret version a) (costly : 0 < a.receipt.costCredits)
    (apart : ∀ c, Call.execute c ∈ calls → r.short c.token = a.tokenHash r →
      c.token = orElse a.decision.authorizationToken "")
    (verifies : Verifies r ownSecret
      ((House.opened r d initialTreasury journal).run ownSecret secret version calls) a) :
    ∃ c, Call.execute c ∈ calls ∧ Charged r a c := by
  have sound : Sound r secret version calls
    ((House.opened r d initialTreasury journal).run ownSecret secret version calls) :=
      run_sound d initialTreasury journal calls
  obtain ⟨secret_, version_⟩ := ordinary.resolved keyed ownSecret
  obtain ⟨accepts, -, matches_, settled, -⟩ := auditFailures_nil.mp (verifies_iff.mp verifies)
  obtain ⟨e, last, amount⟩ := settlementFailures_nil.mp settled costly
  obtain ⟨present, listed⟩ := List.mem_filter.mp (List.mem_of_getLast? last)
  have listed := of_decide_eq_true listed
  simp only [List.mem_cons, List.not_mem_nil, or_false] at listed
  rcases listed with id | committed
  · obtain ⟨c, token, member, admitted, digest, paid⟩ := sound.explained e present _ id
    obtain ⟨spelled, filled⟩ := admitted.token_eq
    have same := apart c member (spelled.symm ▸ digest)
    have carried : a.decision.authorizationToken = some token := by
      rw [spelled] at same
      cases held : a.decision.authorizationToken with
      | none =>
        rw [held] at same
        exact absurd same filled
      | some t =>
        rw [held, orElse] at same
        split at same
        · exact absurd same filled
        · exact congrArg some same.symm
    rw [secret_, version_, carried] at accepts
    have accepted : Accepts (verifyToken r.toTokenRules secret version token c.proposal
      ⟨c.org.id, c.state⟩ (some c.decision) c.now) := spelled ▸ admitted.accepted
    obtain ⟨proposal, content, org⟩ := same_claims named accepted accepts
    refine ⟨c, member, admitted.carried.trans carried.symm, admitted.approved, proposal, content, org, ?_⟩
    exact Int.ofNat_inj.mp (paid.symm.trans amount)
  · exact absurd committed (sound.kept.uncommitted e present _)

/-- After any executions, audits and events in any order: every execution that has returned a receipt
passes its audit while its token lasts, the organisation is not paused and the task stands where it
was left; and no receipt with a cost passes but for a token that the executor has charged. -/
theorem audits_follow_executions (named : version ≠ "") (keyed : secret ≠ "")
    (digests : ∀ s, r.sha256 s ≠ "") (d : Draw) (initialTreasury : Int) (journal : Option (List String))
    (calls : List (Call Other)) :
    let opened := House.opened r d initialTreasury journal
    let house := opened.run ownSecret secret version calls
    (∀ c receipt, Executed r secret version ownSecret opened calls c receipt →
      ∀ a, Ordinary secret version a → Concerns a c receipt →
        (Verifies r ownSecret house a ↔
          a.org.state ≠ .paused ∧ Unexpired r c.token a.now ∧ a.task ∈ [TaskStatus.approved, .completed])) ∧
    ∀ a, Ordinary secret version a → 0 < a.receipt.costCredits →
      (∀ c, Call.execute c ∈ calls → r.short c.token = a.tokenHash r →
        c.token = orElse a.decision.authorizationToken "") →
      Verifies r ownSecret house a → ∃ c, Call.execute c ∈ calls ∧ Charged r a c := by
  intro opened house
  constructor
  · intro c receipt executed a ordinary concerns
    exact executions_pass_audit named keyed digests d initialTreasury journal executed ordinary concerns
  · intro a ordinary costly apart verifies
    exact audited_receipts_charged named keyed d initialTreasury journal ordinary costly apart verifies

end Results

section Samples

/-- An unspent token that the engine accepts executes what the treasury can pay for. -/
theorem sandbox_executes {Other : Type} (r : Rules Other) {secret version token : String}
    {s : ExecutorState} {c : ExecuteCall} {i : SandboxInput} {reason : Option String}
    (sandboxed : c.adapter = .sandbox i) (approved : c.decision.result = .approved)
    (carried : c.decision.authorizationToken = some token) (filled : token ≠ "")
    (accepted : verdictOn r secret version c = .ok (true, reason))
    (capable : enforceAgentCapability c.proposal c.org = .ok ()) (unspent : s.consumedTokens = [])
    (unjournaled : s.tokenJournal = none) (positive : 0 < c.proposal.requestedCredits)
    (fresh : commitId r.executor token ∉ s.ledger.recordedTxIds)
    (rich : (c.proposal.requestedCredits : Int) ≤ s.ledger.getBalance treasury) :
    ∃ receipt, (executeCall r secret version s c).1 = .ok receipt := by
  have spelled : orElse c.decision.authorizationToken "" = token := by
    rw [carried]
    exact orElse_some filled ""
  have passed : verifyPreconditions s c.proposal c.decision c.org (verdictOn r secret version c) =
      .ok token := by
    rw [verifyPreconditions, spelled, accepted, unspent]
    dsimp only
    rw [if_neg (not_not.mpr approved), if_neg filled, if_neg (List.not_mem_nil)]
    show (do enforceAgentCapability c.proposal c.org; return token : Except PyError String) = _
    rw [capable]
    rfl
  have marked : markTokenConsumed r.executor s token =
      (.ok (), { s with consumedTokens := token :: s.consumedTokens }) := by
    rw [markTokenConsumed, unspent, unjournaled, if_neg (List.not_mem_nil)]
  unfold executeCall
  rw [sandboxed]
  dsimp only
  rw [sandboxExecute, passed]
  dsimp only
  rw [marked]
  dsimp only
  rcases @moveCredits_cases r.executor c.proposal treasury externalSink
    { s with consumedTokens := token :: s.consumedTokens } token "tx"
    s!"Execution fee for proposal {c.proposal.id}" i.draw positive (by decide) with
    ⟨refusal, -⟩ | ⟨-, -, e, s', -, done, -⟩
  · rcases refusal with known | poor
    · exact absurd known fresh
    · exact absurd rich (not_le.mpr poor)
  · rw [settleLedgerFee, done]
    exact ⟨_, rfl⟩

def sampleRules : Rules String where
  toTokenRules := plainRules
  nonceOf := .ok
  text := PythonConversions.asciiRules fun _ => "0.0"
  upper := id
  events := EventStores.sampleRules
  moment := DateTime.isoformat

def sampleToken : String :=
  generateToken plainRules "s" "v" (sampleProposal "a" .dataFetch "x") "o" (some "d") sampleIssue

def sampleExecute : ExecuteCall where
  proposal := sampleProposal "a" .dataFetch "x"
  decision := ⟨"d", .approved, none, some sampleToken⟩
  org := ⟨"o", "tenant", [("a", ⟨"a", .active, [.dataFetch], 25⟩)]⟩
  state := .executing
  adapter := .sandbox ⟨.ok (true, none), ⟨"u1", "e1", 1⟩, "rec-1", .finite 1⟩
  now := .finite 0

def sampleOpened : House sampleRules := .opened sampleRules ⟨"u0", "e0", 0⟩ 100 none

theorem sample_clock_naive : EventChain.newYear.offset = none := rfl

def sampleAudit (receipt : ExecutionReceipt) : AuditCall where
  proposal := sampleExecute.proposal
  decision := sampleExecute.decision
  receipt := receipt
  org := ⟨"o", .executing⟩
  task := .approved
  policyEngine := some ("s", "v")
  verificationSecret := none
  policyVersionHash := none
  now := .finite 1
  uuid := "v1"
  clock := EventChain.newYear
  naive := sample_clock_naive

theorem sample_token_filled : sampleToken ≠ "" := by
  unfold sampleToken generateToken
  exact tokenOf_ne_empty _ _ _

/-- The sample's token opens at any time up to its expiry. -/
theorem sample_accepted (now : PyFloat) (unexpired : (PyFloat.finite 60).lt now = false) :
    Accepts (verifyToken plainRules "s" "v" sampleToken sampleExecute.proposal ⟨"o", .executing⟩
      (some sampleExecute.decision) now) := by
  have text : contentText plainRules (sampleProposal "a" .dataFetch "x") =
      "p|t|a|DATA_FETCH|x|1|44136fa355b3678a1146ad16f7e8649e94fb4fc21fe77e8310c060f61caaff8a" := by
    rw [contentText, Hashing.ofJson, show plainRules.reprFloat = printFloat from rfl,
      sample_empty rfl]
    decide +kernel
  refine (verifyToken_iff (sample_reads rfl text (by decide +kernel) plain_alphabet)
    (sample_mac (by decide +kernel)) ..).mpr ⟨by decide, by decide, rfl, ⟨?_, rfl, rfl, rfl, ?_⟩, rfl⟩
  · show (PyFloat.finite (0 + 60)).lt now = false
    rw [zero_add]
    exact unexpired
  · rintro d ⟨⟩
    rfl

theorem sample_receipt :
    ∃ receipt, (executeCall sampleRules "s" "v" sampleOpened.executor sampleExecute).1 = .ok receipt := by
  have spelled : sampleExecute.token = sampleToken := orElse_some sample_token_filled ""
  obtain ⟨reason, accepted⟩ := sample_accepted (.finite 0) (by decide)
  refine sandbox_executes sampleRules rfl rfl rfl sample_token_filled (?_ : verdictOn _ _ _ _ = .ok (true, reason))
    (by decide) rfl rfl (by decide) ?_ (by decide)
  · rw [verdictOn, spelled]
    exact accepted
  · have recorded : sampleOpened.executor.ledger.recordedTxIds = ["mint-u0"] := rfl
    have minted : "mint-u0" = "mint-" ++ "u0" := rfl
    rw [recorded, List.mem_singleton, minted]
    exact ne_of_starts (s := "tx-") _ _ 2 (by decide) (by decide) (by decide)

theorem sample_digests (s : String) : sampleRules.sha256 s ≠ "" := by
  show (if s = "\x7b\x7d" then emptyHash else if s = _ then _ else zeros) ≠ ""
  split_ifs
  · decide +kernel
  · decide +kernel
  · decide +kernel

/-- An execution in the sandbox, audited a second later and once more: both audits pass, and the
receipt is of a charged token. -/
theorem sample_execution_audited : ∃ receipt,
    let calls := [.execute sampleExecute, .audit (sampleAudit receipt)]
    Verifies sampleRules none (sampleOpened.run none "s" "v" calls) (sampleAudit receipt) ∧
      ∃ c, Call.execute c ∈ calls ∧ Charged sampleRules (sampleAudit receipt) c := by
  obtain ⟨receipt, done⟩ := sample_receipt
  refine ⟨receipt, ?_⟩
  intro calls
  have spelled : sampleExecute.token = sampleToken := orElse_some sample_token_filled ""
  have accepted := sample_accepted (.finite 1) (by decide)
  have unexpired : Unexpired sampleRules sampleToken (.finite 1) :=
    ((verifyToken_again (r := sampleRules) accepted rfl _).mp accepted).2
  obtain ⟨_, -, receipted⟩ := executeCall_receipted done
  obtain ⟨passes, charged⟩ := @audits_follow_executions String sampleRules "s" "v" none
    (by decide) (by decide) sample_digests ⟨"u0", "e0", 0⟩ 100 none calls
  have verifies : Verifies sampleRules none (sampleOpened.run none "s" "v" calls) (sampleAudit receipt) := by
    refine (passes sampleExecute receipt ⟨[], [.audit (sampleAudit receipt)], rfl, done⟩
      (sampleAudit receipt) ⟨rfl, rfl, rfl⟩ ⟨rfl, rfl, rfl, rfl⟩).mpr ?_
    exact ⟨by simp [sampleAudit], spelled.symm ▸ unexpired, by simp [sampleAudit]⟩
  refine ⟨verifies, charged (sampleAudit receipt) ⟨rfl, rfl, rfl⟩ ?_ ?_ verifies⟩
  · show 0 < receipt.costCredits
    rw [receipted.cost]
    decide
  · intro c member _
    simp only [calls, List.mem_cons, Call.execute.injEq, List.not_mem_nil, or_false, reduceCtorEq] at member
    rw [member]
    rfl

end Samples

end ExecutionAudits
