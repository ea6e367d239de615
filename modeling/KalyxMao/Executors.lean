import KalyxMao.Consequential
import KalyxMao.LedgerEquivalence
import KalyxMao.PythonConversions
import KalyxMao.QuorumApprovals

/-!
# The sandbox executor and the controlled external executor

Both check the decision and its token, spend the token, and then move credits.
The sandbox pays a fee at once. The external executor reserves the credits in
escrow, dispatches the request, and commits or rolls the reservation back; the
commit and the construction of the receipt stand in the same `try` block.
-/

namespace Executors
open PythonText PythonValues Ledger Domain Consequential

section Model

/-- What a `BaseExecutor` keeps: its ledger, the tokens it has seen, the journal if it has
one, and the organisation's copy of the treasury. -/
structure ExecutorState where
  ledger : DoubleEntryLedger
  consumedTokens : List String
  tokenJournal : Option (List String)
  treasuryBalance : Int

/-- The digests, and the nonce found in a token's claims. -/
structure ExecutorRules where
  hashing : Hashing
  nonceOf : String → Except PyError String
  text : PythonConversions.TextRules
  upper : String → String

variable (r : ExecutorRules) (s : ExecutorState) (proposal : ActionProposal)
  (decision : PolicyDecision) (org : Organisation) (token : String)

/-- `_verify_preconditions`; `verdict` is the answer of `verify_token`. -/
def verifyPreconditions (verdict : Except PyError (Bool × Option String)) : Except PyError String :=
  let token := orElse decision.authorizationToken ""
  if decision.result ≠ .approved then
    .error ⟨.policyViolationError,
      s!"Execution rejected: Decision is '{decision.result.value}' (Rule: {showOption decision.violatedRuleId})"⟩
  else if token = "" then
    .error ⟨.unauthorizedActionError, "Execution rejected: Missing authorization token"⟩
  else if token ∈ s.consumedTokens then
    .error ⟨.unauthorizedActionError,
      "Execution rejected: Token has already been consumed (replay attack detected)"⟩
  else do
    let (valid, reason) ← verdict
    if !valid then
      .error ⟨.unauthorizedActionError, s!"Execution rejected: {showOption reason}"⟩
    else do
      enforceAgentCapability proposal org
      return token

/-- `_mark_token_consumed`: the journal first, then the executor's own set. -/
def markTokenConsumed : Except PyError Unit × ExecutorState :=
  if token ∈ s.consumedTokens then
    (.error ⟨.unauthorizedActionError,
      "Execution rejected: Token has already been consumed (replay attack detected)"⟩, s)
  else
    let marked := { s with consumedTokens := token :: s.consumedTokens }
    match s.tokenJournal with
    | none => (.ok (), marked)
    | some consumed =>
      match r.nonceOf token with
      | .error e => (.error e, s)
      | .ok nonce =>
        match consumeNonce consumed nonce with
        | .error e =>
          if e.kind = .tokenAlreadyConsumed then
            (.error ⟨.unauthorizedActionError,
              "Execution rejected: Token has already been consumed (durable replay barrier)"⟩, s)
          else (.error e, s)
        | .ok consumed => (.ok (), { marked with tokenJournal := some consumed })

/-- The shape of the four ledger methods: one transfer under an id made from the token. -/
def moveCredits (start source target memo : String) (d : Draw) : Except PyError Unit × ExecutorState :=
  if 0 < proposal.requestedCredits then
    match s.ledger.transfer d source target proposal.requestedCredits memo
        (some s!"{start}-{r.hashing.short token}") with
    | (.error e, ledger) => (.error e, { s with ledger })
    | (.ok _, ledger) => (.ok (), { s with ledger, treasuryBalance := ledger.getBalance treasury })
  else (.ok (), s)

def settleLedgerFee : Draw → Except PyError Unit × ExecutorState :=
  moveCredits r s proposal token "tx" treasury externalSink s!"Execution fee for proposal {proposal.id}"

def reserveCredits : Draw → Except PyError Unit × ExecutorState :=
  moveCredits r s proposal token "res" treasury escrow
    s!"Escrow reservation for proposal {proposal.id}"

def commitReservation : Draw → Except PyError Unit × ExecutorState :=
  moveCredits r s proposal token "tx" escrow externalSink
    s!"Settlement commit for proposal {proposal.id}"

def rollbackReservation : Draw → Except PyError Unit × ExecutorState :=
  moveCredits r s proposal token "rollback" escrow treasury
    s!"Escrow rollback for failed proposal {proposal.id}"

/-- `ExecutionReceipt(…)`: the raw output has to be an object. -/
def newReceipt (receiptId : String) (httpStatus : Nat) (rawOutput : PyValue) :
    Except PyError ExecutionReceipt :=
  match rawOutput with
  | .dict items => .ok
    { id := receiptId
      proposalId := proposal.id
      authorizationToken := token
      actionType := proposal.actionType
      target := proposal.target
      httpStatus := httpStatus
      rawResponseHash := r.hashing.sha256 (canonicalJson r.hashing.reprFloat rawOutput)
      rawOutput := items
      costCredits := proposal.requestedCredits }
  | _ => .error ⟨.validationError, "raw_output: Input should be a valid dictionary"⟩

section Sandbox

/-- What a call takes from outside. -/
structure SandboxInput where
  verdict : Except PyError (Bool × Option String)
  draw : Draw
  receiptId : String
  simulatedValue : PyFloat

def outputPayload (simulatedValue : PyFloat) : PyValue :=
  .dict [("status", .str "SUCCESS"), ("target", .str proposal.target),
    ("action_type", .str proposal.actionType.value), ("simulated_value", .float simulatedValue),
    ("executed_parameters", .dict proposal.parameters)]

def sandboxExecute (i : SandboxInput) : Except PyError ExecutionReceipt × ExecutorState :=
  match verifyPreconditions s proposal decision org i.verdict with
  | .error e => (.error e, s)
  | .ok token =>
    match markTokenConsumed r s token with
    | (.error e, s) => (.error e, s)
    | (.ok (), s) =>
      match settleLedgerFee r s proposal token i.draw with
      | (.error e, s) => (.error e, s)
      | (.ok (), s) =>
        (newReceipt r proposal token i.receiptId 200 (outputPayload proposal i.simulatedValue), s)

end Sandbox

section External

/-- The URL library and the resolver: a scheme and a host of a target, and addresses with
whether they are in a restricted range. -/
structure Network where
  urlparse : String → String × Option String
  ipAddress : String → Option Bool
  getaddrinfo : String → Except String (List (String × Bool))

structure ExternalExecutor where
  allowlist : List String
  maxPayloadBytes : Nat
  network : Network

/-- What a call takes from outside; `dispatch` answers a status and a body, or raises. -/
structure ExternalInput where
  verdict : Except PyError (Bool × Option String)
  dispatch : Except PyError (Nat × PyValue)
  reserved : Draw
  settled : Draw
  rolledBack : Draw
  receiptId : String

variable (x : ExternalExecutor)

def stripBrackets (host : String) : String :=
  let bracket (c : Char) : Bool := c = '[' || c = ']'
  String.ofList (((host.toList.dropWhile bracket).reverse.dropWhile bracket).reverse)

def resolveAndValidateHost (host : String) : Except PyError Unit :=
  match x.network.ipAddress (stripBrackets host) with
  | some true => .error ⟨.unauthorizedActionError,
      s!"SSRF blocked: Direct IP '{host}' is in a restricted/private network range"⟩
  | some false => .ok ()
  | none =>
    match x.network.getaddrinfo host with
    | .error e => .error ⟨.unauthorizedActionError,
        s!"SSRF check failed: DNS resolution error for '{host}': {e}"⟩
    | .ok addresses =>
      match addresses.find? Prod.snd with
      | some (ip, _) => .error ⟨.unauthorizedActionError,
          s!"SSRF blocked: Host '{host}' resolved to restricted IP '{ip}'"⟩
      | none =>
        if addresses.isEmpty then .error ⟨.unauthorizedActionError,
          s!"SSRF check failed: No valid IP addresses resolved for '{host}'"⟩
        else .ok ()

def validateOutboundTarget (target : String) : Except PyError Unit :=
  if x.allowlist.any fun item => startsWith target item then
    let (scheme, hostname) := x.network.urlparse target
    if scheme = "http" ∨ scheme = "https" then
      let host := orElse hostname ""
      if host = "" then .error ⟨.unauthorizedActionError,
        s!"External execution rejected: Target '{target}' has no hostname"⟩
      else if r.text.lower host ∈ ["localhost", "0.0.0.0", "127.0.0.1", "::1"] then
        .error ⟨.unauthorizedActionError,
          s!"External execution rejected: Target '{target}' points to forbidden loopback/localhost"⟩
      else resolveAndValidateHost x host
    else .ok ()
  else .error ⟨.unauthorizedActionError,
    s!"External execution rejected: Target '{target}' is not in the outbound allowlist"⟩

/-- `_validate_request_payload`: the size of the parameters, and a method given with them. -/
def validateRequestPayload : Except PyError String :=
  let size := (QuorumApprovals.dumps r.hashing.reprFloat (.dict proposal.parameters)).utf8ByteSize
  if x.maxPayloadBytes < size then .error ⟨.unauthorizedActionError,
    s!"Request payload size ({size} bytes) exceeds limit ({x.maxPayloadBytes} bytes)"⟩
  else if proposal.actionType = .externalApiCall then
    match getD proposal.parameters "method" (.str "POST") with
    | .str method =>
      let method := r.upper method
      if method ≠ "GET" ∧ method ≠ "POST" then .error ⟨.unauthorizedActionError,
        s!"HTTP method '{method}' is not permitted for external execution (only GET, POST allowed)"⟩
      else .ok method
    | _ => .error ⟨.otherException, "object has no attribute 'upper'"⟩
  else .ok "GET"

/-- Everything that is checked before the token is spent. -/
def admission (i : ExternalInput) : Except PyError String := do
  let token ← verifyPreconditions s proposal decision org i.verdict
  validateOutboundTarget r x proposal.target
  if proposal.actionType ∉ [.externalApiCall, .dataFetch, .simulatedAllocation] then
    .error ⟨.unauthorizedActionError,
      s!"External execution rejected: ActionType '{proposal.actionType.value}' not allowed for external adapter"⟩
  else do
    let _ ← validateRequestPayload r proposal x
    return token

/-- The status and the size of a response are in order. -/
def acceptable (status : Nat) (body : PyValue) : Except PyError Unit :=
  let size := (canonicalJson r.hashing.reprFloat body).utf8ByteSize
  if 400 ≤ status then .error ⟨.externalExecutionError,
    s!"External execution failed with HTTP status {status}: {PythonConversions.strOf r.text body}"⟩
  else if x.maxPayloadBytes < size then .error ⟨.externalExecutionError,
    s!"Response payload size ({size} bytes) exceeds limit ({x.maxPayloadBytes} bytes)"⟩
  else .ok ()

/-- The `try` block: dispatch, commit, receipt. -/
def attempt (i : ExternalInput) : Except PyError ExecutionReceipt × ExecutorState :=
  match i.dispatch with
  | .error e => (.error e, s)
  | .ok (status, body) =>
    match acceptable r x status body with
    | .error e => (.error e, s)
    | .ok () =>
      match commitReservation r s proposal token i.settled with
      | (.error e, s) => (.error e, s)
      | (.ok (), s) => (newReceipt r proposal token i.receiptId status body, s)

/-- What `except Exception` raises after the rollback. -/
def wrapped (e : PyError) : PyError :=
  if e.kind = .unauthorizedActionError ∨ e.kind = .externalExecutionError then e
  else ⟨.externalExecutionError, s!"External execution dispatch failed: {e.message}"⟩

/-- The reservation stands: try, and roll back on any exception. -/
def executeReserved (i : ExternalInput) : Except PyError ExecutionReceipt × ExecutorState :=
  match attempt r s proposal token x i with
  | (.ok receipt, s) => (.ok receipt, s)
  | (.error e, s) =>
    match rollbackReservation r s proposal token i.rolledBack with
    | (.error e', s) => (.error e', s)
    | (.ok (), s) => (.error (wrapped e), s)

/-- What has happened once `_reserve_credits` has returned: the token, and the state. -/
def reserve (i : ExternalInput) : Except PyError String × ExecutorState :=
  match admission r s proposal decision org x i with
  | .error e => (.error e, s)
  | .ok token =>
    match markTokenConsumed r s token with
    | (.error e, s) => (.error e, s)
    | (.ok (), s) =>
      match reserveCredits r s proposal token i.reserved with
      | (.error e, s) => (.error e, s)
      | (.ok (), s) => (.ok token, s)

/-- `ControlledExternalExecutor.execute`. -/
def externalExecute (i : ExternalInput) : Except PyError ExecutionReceipt × ExecutorState :=
  match reserve r s proposal decision org x i with
  | (.error e, s) => (.error e, s)
  | (.ok token, s) => executeReserved r s proposal token x i

end External

end Model

section Property

/-- What one call may do to the ledger: on return the credits have gone to the sink, on an
exception nothing has moved, and escrow never pays out more than the call put in. -/
structure Atomic (before after : DoubleEntryLedger) (credits : Nat)
    (outcome : Except PyError ExecutionReceipt) : Prop where
  paid : ∀ receipt, outcome = .ok receipt →
    after.getBalance externalSink = before.getBalance externalSink + credits ∧
      after.getBalance treasury = before.getBalance treasury - credits ∧
      after.getBalance escrow = before.getBalance escrow
  restored : ∀ e, outcome = .error e →
    after.getBalance treasury = before.getBalance treasury ∧
      after.getBalance escrow = before.getBalance escrow ∧
      after.getBalance externalSink = before.getBalance externalSink
  others : ∃ added, after.entries = before.entries ++ added ∧
    ∀ n, 0 ≤ Bookkeeping.balance (postings (added.take n)) escrow

variable (r : ExecutorRules) (s : ExecutorState) (proposal : ActionProposal)
  (decision : PolicyDecision) (org : Organisation) (token : String) (x : ExternalExecutor)
  (i : ExternalInput)

def commitId : String := s!"tx-{r.hashing.short token}"

def rollbackId : String := s!"rollback-{r.hashing.short token}"

/-- The response is accepted and the commit can be booked. -/
def Settles : Prop :=
  ∃ status body, i.dispatch = .ok (status, body) ∧ acceptable r x status body = .ok () ∧
    commitId r token ∉ s.ledger.recordedTxIds

/-- Escrow is not overdrawn; what is settled comes with an object as its body, and what is not
can be rolled back. -/
structure Clean : Prop where
  covered : 0 ≤ s.ledger.getBalance escrow
  object : Settles r s token x i → ∃ status items, i.dispatch = .ok (status, .dict items)
  undone : ¬Settles r s token x i → rollbackId r token ∉ s.ledger.recordedTxIds

end Property

section Specifications
variable {r : ExecutorRules} {s s' : ExecutorState} {proposal : ActionProposal}
  {decision : PolicyDecision} {org : Organisation} {token : String} {x : ExternalExecutor}
  {i : ExternalInput} {start source target memo : String} {d : Draw}

theorem getBalance_move (l : DoubleEntryLedger) (e : LedgerEntry) (a : String) :
    (l.move e).getBalance a = l.getBalance a - (if e.fromAccount = a then e.amount else 0) +
      (if e.toAccount = a then e.amount else 0) := by
  unfold DoubleEntryLedger.move DoubleEntryLedger.getBalance
  rw [Bookkeeping.value_bump, Bookkeeping.value_bump]
  split
  · rw [sub_eq_add_neg]
  · rw [add_zero, sub_zero]

/-- The entry a transfer of the executor books. -/
structure Books (e : LedgerEntry) (txId source target : String) (credits : Nat) : Prop where
  transactionId : e.transactionId = txId
  source : e.fromAccount = source
  target : e.toAccount = target
  amount : e.amount = credits

theorem txId_ne_empty (start : String) (rest : String) : s!"{start}-{rest}" ≠ "" := by
  intro blank
  have letters := congrArg String.toList blank
  simp only [String.toList_append] at letters
  obtain ⟨-, dash⟩ := List.append_eq_nil_iff.mp (List.append_eq_nil_iff.mp letters).1
  exact absurd dash (by decide)

section Balances
variable {e : LedgerEntry} {txId : String} {credits : Nat} (l : DoubleEntryLedger)

theorem Books.at_source (books : Books e txId source target credits) (different : source ≠ target) :
    (l.move e).getBalance source = l.getBalance source - credits := by
  rw [getBalance_move, books.source, books.target, books.amount, if_pos rfl, if_neg different.symm,
    add_zero]

theorem Books.at_target (books : Books e txId source target credits) (different : source ≠ target) :
    (l.move e).getBalance target = l.getBalance target + credits := by
  rw [getBalance_move, books.source, books.target, books.amount, if_pos rfl, if_neg different,
    sub_zero]

theorem Books.elsewhere (books : Books e txId source target credits) {a : String}
    (notSource : source ≠ a) (notTarget : target ≠ a) :
    (l.move e).getBalance a = l.getBalance a := by
  rw [getBalance_move, books.source, books.target, if_neg notSource, if_neg notTarget, sub_zero,
    add_zero]

theorem Books.recorded (books : Books e txId source target credits) {id : String}
    (other : id ≠ txId) : id ∈ (l.move e).recordedTxIds ↔ id ∈ l.recordedTxIds := by
  unfold DoubleEntryLedger.move
  simp [books.transactionId, other]

end Balances

/-- What a move of credits under an id comes to, said of each of the four. -/
def Moves (s : ExecutorState) (txId source target : String) (credits : Nat)
    (done : Except PyError Unit × ExecutorState) : Prop :=
  ((txId ∈ s.ledger.recordedTxIds ∨ s.ledger.getBalance source < (credits : Int)) ∧
      ∃ e, done = (.error e, s)) ∨
    (txId ∉ s.ledger.recordedTxIds ∧ (credits : Int) ≤ s.ledger.getBalance source ∧
      ∃ e s', Books e txId source target credits ∧ done = (.ok (), s') ∧
        s'.ledger = s.ledger.move e)

/-- A transfer is refused and leaves the ledger, or it books one entry. -/
theorem moveCredits_cases (s : ExecutorState) (token start memo : String) (d : Draw)
    (positive : 0 < proposal.requestedCredits) (different : source ≠ target) :
    Moves s s!"{start}-{r.hashing.short token}" source target proposal.requestedCredits
      (moveCredits r s proposal token start source target memo d) := by
  let txId := s!"{start}-{r.hashing.short token}"
  let done := moveCredits r s proposal token start source target memo d
  show Moves s txId source target proposal.requestedCredits done
  have amount : 0 < (proposal.requestedCredits : Int) := by omega
  have named : orElse (some txId) d.txUuid = txId := orElse_some (txId_ne_empty start _) _
  have unfolded : done = match s.ledger.transfer d source target proposal.requestedCredits memo
        (some txId) with
      | (.error e, ledger) => (.error e, { s with ledger })
      | (.ok _, ledger) => (.ok (), { s with ledger, treasuryBalance := ledger.getBalance treasury }) :=
    if_pos positive
  rw [unfolded, DoubleEntryLedger.transfer, named]
  dsimp only
  by_cases recorded : txId ∈ s.ledger.recordedTxIds
  · rw [if_pos recorded]
    exact .inl ⟨.inl recorded, _, rfl⟩
  · rw [if_neg recorded, if_neg (not_le.mpr amount), if_neg different]
    by_cases poor : s.ledger.getBalance source < (proposal.requestedCredits : Int)
    · rw [if_pos poor]
      exact .inl ⟨.inr poor, _, rfl⟩
    · rw [if_neg poor, ledgerEntry, dif_pos amount]
      exact .inr ⟨recorded, not_lt.mp poor, _, _, ⟨rfl, rfl, rfl, rfl⟩, rfl, rfl⟩

theorem reserveCredits_cases (r : ExecutorRules) (s : ExecutorState) (token : String) (d : Draw)
    (positive : 0 < proposal.requestedCredits) :
    Moves s s!"res-{r.hashing.short token}" treasury escrow proposal.requestedCredits
      (reserveCredits r s proposal token d) :=
  moveCredits_cases s token "res" _ d positive (by decide)

theorem commitReservation_cases (r : ExecutorRules) (s : ExecutorState) (token : String) (d : Draw)
    (positive : 0 < proposal.requestedCredits) :
    Moves s (commitId r token) escrow externalSink proposal.requestedCredits
      (commitReservation r s proposal token d) :=
  moveCredits_cases s token "tx" _ d positive (by decide)

theorem rollbackReservation_cases (r : ExecutorRules) (s : ExecutorState) (token : String) (d : Draw)
    (positive : 0 < proposal.requestedCredits) :
    Moves s (rollbackId r token) escrow treasury proposal.requestedCredits
      (rollbackReservation r s proposal token d) :=
  moveCredits_cases s token "rollback" _ d positive (by decide)

theorem moveCredits_nothing (nothing : proposal.requestedCredits = 0) :
    moveCredits r s proposal token start source target memo d = (.ok (), s) := by
  rw [moveCredits, nothing]
  rfl

theorem markTokenConsumed_ledger : (markTokenConsumed r s token).2.ledger = s.ledger := by
  unfold markTokenConsumed
  split
  · rfl
  · dsimp only
    split
    · rfl
    · split
      · rfl
      · split
        · split <;> rfl
        · rfl

/-- A call either ends before its reservation, with the ledger as it was, or reserves. -/
theorem reserve_cases :
    (∃ e s', reserve r s proposal decision org x i = (.error e, s') ∧ s'.ledger = s.ledger) ∨
    ∃ token s', reserve r s proposal decision org x i = (.ok token, s') ∧
      (proposal.requestedCredits = 0 ∧ s'.ledger = s.ledger ∨
        0 < proposal.requestedCredits ∧ s!"res-{r.hashing.short token}" ∉ s.ledger.recordedTxIds ∧
          ∃ e, Books e s!"res-{r.hashing.short token}" treasury escrow proposal.requestedCredits ∧
            s'.ledger = s.ledger.move e) := by
  unfold reserve
  cases admitted : admission r s proposal decision org x i with
  | error e => exact .inl ⟨e, s, rfl, rfl⟩
  | ok token =>
    have same : (markTokenConsumed r s token).2.ledger = s.ledger := markTokenConsumed_ledger
    dsimp only
    rcases marked : markTokenConsumed r s token with ⟨e | ⟨⟩, s₁⟩
    · rw [marked] at same
      exact .inl ⟨e, s₁, rfl, same⟩
    · rw [marked] at same
      dsimp only at same ⊢
      rcases Nat.eq_zero_or_pos proposal.requestedCredits with nothing | positive
      · have moved : reserveCredits r s₁ proposal token i.reserved = (.ok (), s₁) :=
          moveCredits_nothing nothing
        rw [moved]
        exact .inr ⟨token, s₁, rfl, .inl ⟨nothing, same⟩⟩
      · rcases reserveCredits_cases r s₁ token i.reserved positive with
          ⟨-, e, refused⟩ | ⟨unknown, -, e, s₂, books, reserved, ledger⟩
        · rw [refused]
          exact .inl ⟨e, s₁, rfl, same⟩
        · rw [reserved]
          rw [same] at unknown ledger
          exact .inr ⟨token, s₂, rfl, .inr ⟨positive, unknown, e, books, ledger⟩⟩

theorem newReceipt_ok {receiptId : String} {status : Nat} {body : PyValue} :
    (∃ receipt, newReceipt r proposal token receiptId status body = .ok receipt) ↔
      ∃ items, body = .dict items := by
  cases body with
  | dict items => exact ⟨fun _ => ⟨items, rfl⟩, fun _ => ⟨_, rfl⟩⟩
  | _ => exact ⟨nofun, nofun⟩

/-- The response is accepted, and the commit can be booked and paid. -/
def Commits (r : ExecutorRules) (s : ExecutorState) (token : String) (x : ExternalExecutor)
    (i : ExternalInput) (credits : Nat) : Prop :=
  Settles r s token x i ∧ (credits : Int) ≤ s.ledger.getBalance escrow

/-- The `try` block books the commit and makes its receipt, or fails before. -/
theorem attempt_cases (s : ExecutorState) (token : String) (x : ExternalExecutor) (i : ExternalInput)
    (positive : 0 < proposal.requestedCredits) :
    (∃ status body e s', i.dispatch = .ok (status, body) ∧
        Commits r s token x i proposal.requestedCredits ∧
        Books e (commitId r token) escrow externalSink proposal.requestedCredits ∧
        s'.ledger = s.ledger.move e ∧
        attempt r s proposal token x i = (newReceipt r proposal token i.receiptId status body, s')) ∨
    (¬Commits r s token x i proposal.requestedCredits ∧
      ∃ e, attempt r s proposal token x i = (.error e, s)) := by
  unfold attempt
  rcases answer : i.dispatch with e | ⟨status, body⟩
  · refine .inr ⟨?_, e, rfl⟩
    rintro ⟨⟨status, body, answered, -⟩, -⟩
    rw [answer] at answered
    cases answered
  · dsimp only
    rcases accepted : acceptable r x status body with e | ⟨⟩
    · refine .inr ⟨?_, e, rfl⟩
      rintro ⟨⟨status', body', answered, fine, -⟩, -⟩
      rw [answer] at answered
      obtain ⟨rfl, rfl⟩ := Prod.mk.inj (Except.ok.inj answered)
      rw [accepted] at fine
      cases fine
    · dsimp only
      rcases commitReservation_cases r s token i.settled positive with
        ⟨refusal, e, refused⟩ | ⟨unknown, covered, e, s', books, done, ledger⟩
      · rw [refused]
        refine .inr ⟨?_, e, rfl⟩
        rintro ⟨⟨-, -, -, -, unknown⟩, covered⟩
        rcases refusal with known | poor
        · exact unknown known
        · omega
      · rw [done]
        exact .inl ⟨status, body, e, s', rfl, ⟨⟨status, body, answer, accepted, unknown⟩, covered⟩,
          books, ledger, rfl⟩

section Reserved
variable {e : LedgerEntry}

theorem commitId_ne_reserved : commitId r token ≠ s!"res-{r.hashing.short token}" :=
  ne_of_starts _ _ 2 (by decide) (by decide) (by decide)

theorem rollbackId_ne_reserved : rollbackId r token ≠ s!"res-{r.hashing.short token}" :=
  ne_of_starts _ _ 2 (by decide) (by decide) (by decide)

theorem rollbackId_ne_commitId : rollbackId r token ≠ commitId r token :=
  ne_of_starts _ _ 2 (by decide) (by decide) (by decide)

/-- With the credits in escrow, the commit can be paid wherever escrow was not overdrawn. -/
theorem commits_reserved (ledger : s'.ledger = s.ledger.move e)
    (books : Books e s!"res-{r.hashing.short token}" treasury escrow proposal.requestedCredits) :
    Commits r s' token x i proposal.requestedCredits ↔
      Settles r s token x i ∧ 0 ≤ s.ledger.getBalance escrow := by
  have held := books.at_target s.ledger (by decide)
  unfold Commits Settles
  rw [ledger, books.recorded s.ledger commitId_ne_reserved, held]
  constructor
  · rintro ⟨settles, covered⟩
    exact ⟨settles, by omega⟩
  · rintro ⟨settles, covered⟩
    exact ⟨settles, by omega⟩

/-- Nothing that was in escrow before can be paid out by entries of this kind. -/
theorem balance_added (books : Books e s!"res-{r.hashing.short token}" treasury escrow
      proposal.requestedCredits) {f : LedgerEntry} {txId : String}
    (exit : Books f txId escrow target proposal.requestedCredits) (n : Nat) :
    0 ≤ Bookkeeping.balance (postings ([e, f].take n)) escrow := by
  have apart : treasury ≠ escrow := by decide
  have first : Bookkeeping.balance (postings [e]) escrow = proposal.requestedCredits := by
    rw [← List.nil_append [e], balance_postings_concat, books.source, books.target, books.amount,
      if_pos rfl, if_neg apart]
    exact (zero_add _).trans (sub_zero _)
  have second : 0 ≤ Bookkeeping.balance (postings [e, f]) escrow := by
    rw [← List.singleton_append, balance_postings_concat, first, exit.source, exit.amount, if_pos rfl]
    split <;> omega
  match n with
  | 0 => exact le_refl _
  | 1 => exact first ▸ Int.natCast_nonneg _
  | n + 2 => 
    rw [List.take_of_length_le (by simp)]
    exact second

/-- An exception that leaves the treasury short is no rollback. -/
theorem not_restored {before after : DoubleEntryLedger} {credits : Nat} {e : PyError}
    (moved : after.getBalance treasury ≠ before.getBalance treasury ∨
      after.getBalance externalSink ≠ before.getBalance externalSink) :
    ¬Atomic before after credits (.error e) := by
  intro atomic
  obtain ⟨treasury_, -, sink⟩ := atomic.restored e rfl
  rcases moved with short | grown
  · exact short treasury_
  · exact grown sink

/-- From a reservation on, a call is atomic exactly if what it settles is clean. -/
theorem executeReserved_atomic (positive : 0 < proposal.requestedCredits)
    (ledger : s'.ledger = s.ledger.move e)
    (books : Books e s!"res-{r.hashing.short token}" treasury escrow proposal.requestedCredits) :
    let done := executeReserved r s' proposal token x i
    Atomic s.ledger done.2.ledger proposal.requestedCredits done.1 ↔ Clean r s token x i := by
  intro done
  have committable := commits_reserved (x := x) (i := i) ledger books
  have treasury₁ : s'.ledger.getBalance treasury =
      s.ledger.getBalance treasury - proposal.requestedCredits := by
    rw [ledger]
    exact books.at_source s.ledger (by decide)
  have escrow₁ : s'.ledger.getBalance escrow =
      s.ledger.getBalance escrow + proposal.requestedCredits := by
    rw [ledger]
    exact books.at_target s.ledger (by decide)
  have sink₁ : s'.ledger.getBalance externalSink = s.ledger.getBalance externalSink := by
    rw [ledger]
    exact books.elsewhere s.ledger (by decide) (by decide)
  have entries₁ : s'.ledger.entries = s.ledger.entries ++ [e] := by
    rw [ledger]
    rfl
  rcases attempt_cases s' token x i positive with
    ⟨status, body, f, s₂, answered, commits, commit, ledger₂, tried⟩ | ⟨idle, f, tried⟩
  · obtain ⟨settles, covered⟩ := committable.mp commits
    have treasury₂ : s₂.ledger.getBalance treasury = s'.ledger.getBalance treasury := by
      rw [ledger₂]
      exact commit.elsewhere s'.ledger (by decide) (by decide)
    have escrow₂ : s₂.ledger.getBalance escrow =
        s'.ledger.getBalance escrow - proposal.requestedCredits := by
      rw [ledger₂]
      exact commit.at_source s'.ledger (by decide)
    have sink₂ : s₂.ledger.getBalance externalSink =
        s'.ledger.getBalance externalSink + proposal.requestedCredits := by
      rw [ledger₂]
      exact commit.at_target s'.ledger (by decide)
    rcases made : newReceipt r proposal token i.receiptId status body with f' | receipt
    · -- the commit stands, and the exception comes after it
      have other : ¬∃ items, body = .dict items := by
        intro dict
        obtain ⟨receipt, there⟩ := (@newReceipt_ok r proposal token i.receiptId status body).mpr dict
        cases made.symm.trans there
      have dirty : ¬Clean r s token x i := by
        intro clean
        obtain ⟨status', items, same⟩ := clean.object settles
        rw [answered] at same
        exact other ⟨items, (Prod.mk.inj (Except.ok.inj same)).2⟩
      refine iff_of_false ?_ dirty
      rcases rollbackReservation_cases r s₂ token i.rolledBack positive with
        ⟨-, f₃, refused⟩ | ⟨-, -, f₃, s₃, books₃, rolled, ledger₃⟩
      · have ends : done = (.error f₃, s₂) := by
          simp only [done, executeReserved, tried, made, refused]
        rw [ends]
        refine not_restored (.inl ?_)
        dsimp only
        omega
      · have ends : done = (.error (wrapped f'), s₃) := by
          simp only [done, executeReserved, tried, made, rolled]
        have sink₃ := books₃.elsewhere s₂.ledger (by decide : escrow ≠ externalSink) (by decide)
        rw [ends]
        refine not_restored (.inr ?_)
        rw [ledger₃, sink₃]
        omega
    · have object : ∃ items, body = .dict items := newReceipt_ok.mp ⟨receipt, made⟩
      have ends : done = (.ok receipt, s₂) := by
        simp only [done, executeReserved, tried, made]
      have clean : Clean r s token x i := by
        obtain ⟨items, rfl⟩ := object
        exact ⟨covered, fun _ => ⟨status, items, answered⟩, fun open_ => absurd settles open_⟩
      refine iff_of_true ?_ clean
      rw [ends]
      dsimp only
      refine ⟨fun _ _ => ⟨by omega, by omega, by omega⟩, nofun, [e, f], ?_, balance_added books commit⟩
      rw [ledger₂]
      show s'.ledger.entries ++ [f] = _
      rw [entries₁, List.append_assoc]
      rfl
  · rcases rollbackReservation_cases r s' token i.rolledBack positive with
      ⟨refusal, f₃, refused⟩ | ⟨unknown, covered, f₃, s₃, books₃, rolled, ledger₃⟩
    · have ends : done = (.error f₃, s') := by
        simp only [done, executeReserved, tried, refused]
      have dirty : ¬Clean r s token x i := by
        intro clean
        have open_ : ¬Settles r s token x i := fun settles =>
          idle (committable.mpr ⟨settles, clean.covered⟩)
        have free := clean.undone open_
        have covered := clean.covered
        rcases refusal with known | poor
        · rw [ledger, books.recorded s.ledger rollbackId_ne_reserved] at known
          exact free known
        · omega
      refine iff_of_false ?_ dirty
      rw [ends]
      refine not_restored (.inl ?_)
      dsimp only
      omega
    · have ends : done = (.error (wrapped f), s₃) := by
        simp only [done, executeReserved, tried, rolled]
      have treasury₃ := books₃.at_target s'.ledger (by decide)
      have escrow₃ := books₃.at_source s'.ledger (by decide)
      have sink₃ := books₃.elsewhere s'.ledger (by decide : escrow ≠ externalSink) (by decide)
      have overdrawn : 0 ≤ s.ledger.getBalance escrow := by omega
      have clean : Clean r s token x i := by
        refine ⟨overdrawn, fun settles => absurd (committable.mpr ⟨settles, overdrawn⟩) idle, ?_⟩
        intro _
        rwa [ledger, books.recorded s.ledger rollbackId_ne_reserved] at unknown
      refine iff_of_true ?_ clean
      rw [ends]
      refine ⟨nofun, fun _ _ => ?_, [e, f₃], ?_, balance_added books books₃⟩
      · rw [ledger₃, treasury₃, escrow₃, sink₃]
        exact ⟨by omega, by omega, by omega⟩
      · rw [ledger₃]
        show s'.ledger.entries ++ [f₃] = _
        rw [entries₁, List.append_assoc]
        rfl

/-- Without credits the ledger stays as it is. -/
theorem executeReserved_nothing (nothing : proposal.requestedCredits = 0) (s : ExecutorState) :
    (executeReserved r s proposal token x i).2 = s := by
  have tried : (attempt r s proposal token x i).2 = s := by
    unfold attempt
    split
    · rfl
    · split
      · rfl
      · rw [commitReservation, moveCredits_nothing nothing]
  have rolled : rollbackReservation r s proposal token i.rolledBack = (.ok (), s) :=
    moveCredits_nothing nothing
  rcases outcome : attempt r s proposal token x i with ⟨e | receipt, s₂⟩
  · rw [outcome] at tried
    obtain rfl : s₂ = s := tried
    simp only [executeReserved, outcome, rolled]
  · rw [outcome] at tried
    simp only [executeReserved, outcome]
    exact tried

end Reserved

theorem atomic_unmoved {before after : DoubleEntryLedger} (same : after = before)
    {outcome : Except PyError ExecutionReceipt} : Atomic before after 0 outcome := by
  subst same
  refine ⟨fun _ _ => ⟨by simp, by simp, rfl⟩, fun _ _ => ⟨rfl, rfl, rfl⟩, [], by simp, ?_⟩
  intro n
  rw [List.take_nil]
  exact le_refl _

theorem atomic_refused {before after : DoubleEntryLedger} (same : after = before) {credits : Nat}
    (e : PyError) : Atomic before after credits (.error e) := by
  subst same
  refine ⟨nofun, fun _ _ => ⟨rfl, rfl, rfl⟩, [], by simp, ?_⟩
  intro n
  rw [List.take_nil]
  exact le_refl _

/-- For every ledger, proposal and response: a call of the external executor is atomic if and
only if it ends before its reservation, or reserves nothing, or is clean from there on. -/
theorem externalExecute_atomic (r : ExecutorRules) (s : ExecutorState) (proposal : ActionProposal)
    (decision : PolicyDecision) (org : Organisation) (x : ExternalExecutor) (i : ExternalInput) :
    let done := externalExecute r s proposal decision org x i
    Atomic s.ledger done.2.ledger proposal.requestedCredits done.1 ↔
      (0 < proposal.requestedCredits → ∀ token s',
        reserve r s proposal decision org x i = (.ok token, s') → Clean r s token x i) := by
  intro done
  rcases @reserve_cases r s proposal decision org x i with ⟨e, s', refused, same⟩ | ⟨token, s', reserved, outcome⟩
  · have ends : done = (.error e, s') := by
      simp only [done, externalExecute, refused]
    rw [ends]
    refine iff_of_true (atomic_refused same e) fun _ token s' ok => ?_
    rw [refused] at ok
    cases (Prod.mk.inj ok).1
  · have ends : done = executeReserved r s' proposal token x i := by
      simp only [done, externalExecute, reserved]
    rw [ends]
    rcases outcome with ⟨nothing, same⟩ | ⟨positive, -, e, books, ledger⟩
    · refine iff_of_true ?_ fun positive => absurd positive (by omega)
      rw [nothing, executeReserved_nothing nothing]
      exact atomic_unmoved same
    · refine (executeReserved_atomic positive ledger books).trans ⟨fun clean _ token' s₂ ok => ?_, ?_⟩
      · rw [reserved] at ok
        obtain ⟨rfl, -⟩ : token = token' ∧ s' = s₂ := by simpa using ok
        exact clean
      · exact fun clean => clean positive token s' reserved

section Charges

/-- What an executor that has returned a receipt has done to the ledger. -/
def Charged (credits : Nat) (before after : DoubleEntryLedger) : Prop :=
  credits = 0 ∧ after = before ∨
    0 < credits ∧ after.getBalance externalSink = before.getBalance externalSink + credits

/-- Only what costs nothing leaves every balance as it was. -/
theorem Charged.balances_iff {credits : Nat} {before after : DoubleEntryLedger}
    (charged : Charged credits before after) :
    (∀ account, after.getBalance account = before.getBalance account) ↔ credits = 0 := by
  rcases charged with ⟨nothing, rfl⟩ | ⟨positive, grown⟩
  · exact iff_of_true (fun _ => rfl) nothing
  · refine iff_of_false (fun same => ?_) (by omega)
    have sink := same externalSink
    omega

theorem sandboxExecute_charges {i : SandboxInput} {receipt : ExecutionReceipt}
    (done : sandboxExecute r s proposal decision org i = (.ok receipt, s')) :
    Charged proposal.requestedCredits s.ledger s'.ledger := by
  unfold sandboxExecute at done
  rcases verified : verifyPreconditions s proposal decision org i.verdict with e | token
  · simp only [verified] at done
    cases (Prod.mk.inj done).1
  · have same : (markTokenConsumed r s token).2.ledger = s.ledger := markTokenConsumed_ledger
    simp only [verified] at done
    rcases marked : markTokenConsumed r s token with ⟨e | ⟨⟩, s₁⟩
    · simp only [marked] at done
      cases (Prod.mk.inj done).1
    · simp only [marked] at done same
      rcases Nat.eq_zero_or_pos proposal.requestedCredits with nothing | positive
      · have settled : settleLedgerFee r s₁ proposal token i.draw = (.ok (), s₁) :=
          moveCredits_nothing nothing
        simp only [settled] at done
        exact .inl ⟨nothing, (Prod.mk.inj done).2 ▸ same⟩
      · rcases @moveCredits_cases r proposal treasury externalSink s₁ token "tx"
            s!"Execution fee for proposal {proposal.id}" i.draw positive (by decide) with ⟨-, e, refused⟩ | ⟨-, -, e, s₂, books, settled, ledger⟩
        · have settles : settleLedgerFee r s₁ proposal token i.draw = (.error e, s₁) := refused
          simp only [settles] at done
          cases (Prod.mk.inj done).1
        · have settles : settleLedgerFee r s₁ proposal token i.draw = (.ok (), s₂) := settled
          simp only [settles] at done
          refine .inr ⟨positive, ?_⟩
          rw [← (Prod.mk.inj done).2, ledger, books.at_target s₁.ledger (by decide), same]

theorem externalExecute_charges {receipt : ExecutionReceipt}
    (done : externalExecute r s proposal decision org x i = (.ok receipt, s')) :
    Charged proposal.requestedCredits s.ledger s'.ledger := by
  unfold externalExecute at done
  rcases @reserve_cases r s proposal decision org x i with
    ⟨e, s₁, refused, -⟩ | ⟨token, s₁, reserved, outcome⟩
  · simp only [refused] at done
    cases (Prod.mk.inj done).1
  · simp only [reserved] at done
    rcases outcome with ⟨nothing, same⟩ | ⟨positive, -, e, books, ledger⟩
    · have still : s' = s₁ := by
        rw [← @executeReserved_nothing r proposal token x i nothing s₁, done]
      exact .inl ⟨nothing, still ▸ same⟩
    · refine .inr ⟨positive, ?_⟩
      have sink₁ : s₁.ledger.getBalance externalSink = s.ledger.getBalance externalSink := by
        rw [ledger]
        exact books.elsewhere s.ledger (by decide) (by decide)
      rw [← sink₁]
      unfold executeReserved at done
      rcases attempt_cases s₁ token x i positive with
        ⟨status, body, f, s₂, -, -, commit, ledger₂, tried⟩ | ⟨-, f, tried⟩
      · rw [tried] at done
        rcases made : newReceipt r proposal token i.receiptId status body with f' | receipt'
        · simp only [made] at done
          split at done
          · cases (Prod.mk.inj done).1
          · cases (Prod.mk.inj done).1
        · simp only [made] at done
          rw [← (Prod.mk.inj done).2, ledger₂]
          exact commit.at_target s₁.ledger (by decide)
      · simp only [tried] at done
        split at done
        · cases (Prod.mk.inj done).1
        · cases (Prod.mk.inj done).1

end Charges

end Specifications

section Sample

def sampleRules : ExecutorRules where
  hashing := ⟨id, fun _ => "0.0"⟩
  nonceOf := .ok
  text := PythonConversions.asciiRules fun _ => "0.0"
  upper := id

def sampleProposal : ActionProposal :=
  ⟨"prop-1", "task-1", "agent-1", .dataFetch, "api://market_data/v1/summary", [], 20⟩

def sampleDecision : PolicyDecision := ⟨"dec-1", .approved, none, some "AUTH-1.claims.mac"⟩

def sampleOrganisation : Organisation :=
  ⟨"org-1", "tenant-1", [("agent-1", ⟨"agent-1", .active, [.dataFetch], 25⟩)]⟩

/-- A treasury of 60 and 40 in escrow for another proposal. -/
def sampleState : ExecutorState where
  ledger := ((DoubleEntryLedger.create ⟨"u0", "e0", 0⟩ 100).transfer ⟨"u1", "e1", 1⟩ treasury escrow 40
    "Escrow reservation for proposal prop-0" (some "res-0")).2
  consumedTokens := []
  tokenJournal := none
  treasuryBalance := 60

def sampleExecutor : ExternalExecutor where
  allowlist := ["api://market_data/v1/summary"]
  maxPayloadBytes := 65536
  network := ⟨fun _ => ("api", some "market_data"), fun _ => none, fun _ => .ok []⟩

def sampleInput (body : PyValue) : ExternalInput where
  verdict := .ok (true, none)
  dispatch := .ok (200, body)
  reserved := ⟨"u2", "e2", 2⟩
  settled := ⟨"u3", "e3", 3⟩
  rolledBack := ⟨"u4", "e4", 4⟩
  receiptId := "rec-1"

def sampleCall (body : PyValue) : Except PyError ExecutionReceipt × ExecutorState :=
  externalExecute sampleRules sampleState sampleProposal sampleDecision sampleOrganisation
    sampleExecutor (sampleInput body)

/-- A response whose body is a list is paid for, fails, and is refunded from the escrow of the
other proposal. -/
theorem list_body_not_atomic :
    (sampleCall (.list [])).1.toOption.isNone = true ∧
    (sampleCall (.list [])).2.ledger.getBalance treasury = 60 ∧
    (sampleCall (.list [])).2.ledger.getBalance escrow = 20 ∧
    (sampleCall (.list [])).2.ledger.getBalance externalSink = 20 ∧
    ¬Atomic sampleState.ledger (sampleCall (.list [])).2.ledger 20 (sampleCall (.list [])).1 := by
  have raised : (sampleCall (.list [])).1.toOption.isNone = true := by decide +kernel
  have left_ : (sampleCall (.list [])).2.ledger.getBalance escrow = 20 := by decide +kernel
  refine ⟨raised, by decide +kernel, left_, by decide +kernel, fun atomic => ?_⟩
  cases outcome : (sampleCall (.list [])).1 with
  | ok receipt =>
    rw [outcome] at raised
    cases raised
  | error e =>
    obtain ⟨-, kept, -⟩ := atomic.restored e outcome
    rw [left_] at kept
    exact absurd kept (by decide +kernel)

end Sample

end Executors
