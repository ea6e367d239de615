import KalyxMao.PythonConversions
import KalyxMao.QuorumApprovals

/-!
# The emergency circuit breaker of an organisation

A pause is a single operator's, a resumption takes a quorum of approvals. Both
write the state of the scope and an event of the audit trail in one transaction;
the quorum is consumed in a transaction of its own before that.
-/

namespace CircuitBreakers
open PythonText PythonValues PythonConversions EffectPrograms QuorumApprovals
open TokenBinding (compareDigest)

section Histories
variable {α S : Type} (before after : α → S)

/-- Each event starts from where the one before it ended. -/
def Linked : S → List α → Prop
  | _, [] => True
  | s, e :: rest => before e = s ∧ Linked (after e) rest

def final (s : S) (events : List α) : S := events.foldl (fun _ e => after e) s

variable {before after}

theorem final_concat (s : S) (events : List α) (e : α) : final after s (events ++ [e]) = after e := by
  rw [final, List.foldl_append]
  rfl

theorem linked_concat {s : S} {events : List α} {e : α} (linked : Linked before after s events)
    (next : before e = final after s events) : Linked before after s (events ++ [e]) := by
  induction events generalizing s with
  | nil => exact ⟨next, trivial⟩
  | cons a rest ih => exact ⟨linked.1, ih linked.2 next⟩

end Histories

section Tables

inductive CircuitBreakerState where
  | normal
  | paused
  deriving DecidableEq

structure Scope where
  tenantId : String
  organisationId : String
  deriving DecidableEq

/-- A row of `system_circuit_breaker`. -/
structure BreakerRow where
  state : CircuitBreakerState
  pausedBy : Option String
  pausedReason : Option String

inductive AuditAction where
  | pause
  | resume

/-- A row of `circuit_breaker_audit`. -/
structure AuditEvent where
  id : String
  scope : Scope
  action : AuditAction
  actorId : String
  reason : String
  stateBefore : CircuitBreakerState
  stateAfter : CircuitBreakerState
  approvalsJson : String

structure Database where
  tenants : List String
  organisations : List String
  approvals : Table
  breakers : AList fun _ : Scope => BreakerRow
  audit : List AuditEvent

variable (db : Database)

def getState (scope : Scope) : CircuitBreakerState :=
  match db.breakers.lookup scope with
  | none => .normal
  | some row => row.state

def isPaused (scope : Scope) : Bool := getState db scope = .paused

/-- The foreign keys of both tables. -/
def checkReferences (scope : Scope) : Except PyError Unit :=
  if scope.tenantId ∈ db.tenants ∧ scope.organisationId ∈ db.organisations then .ok ()
  else .error ⟨.integrityError, "FOREIGN KEY constraint failed"⟩

def upsertState (scope : Scope) (row : BreakerRow) : Except PyError Database := do
  checkReferences db scope
  return { db with breakers := db.breakers.insert scope row }

def insertAudit (e : AuditEvent) : Except PyError Database := do
  if e.id ∈ db.audit.map (·.id) then
    .error ⟨.integrityError, "UNIQUE constraint failed: circuit_breaker_audit.id"⟩
  checkReferences db e.scope
  return { db with audit := db.audit ++ [e] }

/-- A `with` block on the connection: an exception rolls it back. -/
def transaction (body : Except PyError Database) (auditId : String) :
    Except PyError String × Database :=
  match body with
  | .ok written => (.ok auditId, written)
  | .error e => (.error e, db)

end Tables

/-- How floats are read from JSON values, beside the rules of the quorum. -/
structure BreakerRules extends QuorumRules where
  text : TextRules
  floatOf : PyValue → Except PyError PyFloat

section Records
variable (r : BreakerRules)

/-- An element of `approvals_data`. -/
inductive RawApproval where
  | approval (a : AdminApproval)
  | record (v : PyValue)

/-- `raw[key]`. A `KeyError` is the one exception of another kind here. -/
def item (v : PyValue) (key : String) : Except PyError PyValue :=
  match v with
  | .dict items =>
    match items.lookup key with
    | some x => .ok x
    | none => .error ⟨.otherException, s!"'{key}'"⟩
  | .list _ => .error ⟨.typeError, "list indices must be integers or slices, not str"⟩
  | .str _ => .error ⟨.typeError, "string indices must be integers, not 'str'"⟩
  | v => .error ⟨.typeError, s!"'{typeName v}' object is not subscriptable"⟩

def readApproval : RawApproval → Except PyError AdminApproval
  | .approval a => .ok a
  | .record v => do
    return {
      approvalId := strOf r.text (← item v "approval_id")
      tenantId := strOf r.text (← item v "tenant_id")
      actionType := strOf r.text (← item v "action_type")
      targetId := strOf r.text (← item v "target_id")
      payloadHash := strOf r.text (← item v "payload_hash")
      approverId := strOf r.text (← item v "approver_id")
      expiresAt := ← r.floatOf (← item v "expires_at")
      signature := strOf r.text (← item v "signature") }

/-- `except (KeyError, TypeError, ValueError)`: an `OverflowError` of `float` passes. -/
def malformed (e : PyError) : PyError :=
  if e.kind = .overflowError then e
  else ⟨.valueError, s!"Malformed administrative approval record: {e.message}"⟩

def readApprovals (raws : List RawApproval) : Except PyError (List AdminApproval) :=
  (raws.mapM (readApproval r)).mapError malformed

def AdminApproval.toDict (a : AdminApproval) : PyValue :=
  .dict [("approval_id", .str a.approvalId), ("tenant_id", .str a.tenantId),
    ("action_type", .str a.actionType), ("target_id", .str a.targetId),
    ("payload_hash", .str a.payloadHash), ("approver_id", .str a.approverId),
    ("expires_at", .float a.expiresAt), ("signature", .str a.signature)]

def approvalsJson (approvals : List AdminApproval) : String :=
  dumps r.reprFloat (.list (approvals.map AdminApproval.toDict))

end Records

section Calls
variable (r : BreakerRules)

/-- A call of `pause`. A text with a lone surrogate cannot be bound to a statement. -/
structure Pause where
  scope : Scope
  operatorId : Except PyError String
  reason : Except PyError String
  auditId : String

/-- A call of `resume`, with the key of the breaker's governance manager if it has one. -/
structure Resume where
  scope : Scope
  approverIds : List String
  approvalsData : Option (List RawApproval)
  reason : Except PyError String
  governanceManager : Option String
  now : PyFloat
  auditId : String

inductive Call where
  | pause (c : Pause)
  | resume (c : Resume)

def pause (c : Pause) (db : Database) : Except PyError String × Database :=
  let stateBefore := getState db c.scope
  transaction db (do
    let operatorId ← c.operatorId
    let reason ← c.reason
    let db ← upsertState db c.scope ⟨.paused, some operatorId, some reason⟩
    insertAudit db
      { id := c.auditId
        scope := c.scope
        action := .pause
        actorId := operatorId
        reason := reason
        stateBefore := stateBefore
        stateAfter := .paused
        approvalsJson := "[]" }) c.auditId

def quorumCall (scope : Scope) (approvals : List AdminApproval) (now : PyFloat) : QuorumCall where
  approvals := approvals
  requiredApprovals := 2
  expectedTenantId := scope.tenantId
  expectedActionType := "CIRCUIT_BREAKER_RESUME"
  expectedTargetId := scope.organisationId
  actualPayload := .dict [("organisation_id", .str scope.organisationId)]
  now := now

/-- What the insertion of a consumed approval meets: a NaN is stored as NULL, and the tenant
is a foreign key. -/
def insertFailure (db : Database) (a : AdminApproval) : Option PyError :=
  if a.expiresAt = .nan then
    some ⟨.integrityError, "NOT NULL constraint failed: admin_approvals.expires_at"⟩
  else if a.tenantId ∉ db.tenants then some ⟨.integrityError, "FOREIGN KEY constraint failed"⟩
  else none

def requireManager : Option String → Except PyError String
  | none => .error ⟨.valueError, "AdminGovernanceManager is required for circuit breaker resumption"⟩
  | some secretKey => .ok secretKey

/-- The approvals as far as they are looked at before the governance manager is asked. -/
def presentedApprovals (c : Resume) : Except PyError (String × List AdminApproval) := do
  let secretKey ← requireManager c.governanceManager
  if c.approverIds.dedup.length < 2 then
    .error ⟨.valueError,
      s!"Resumption requires at least 2 distinct administrative approvers, got {c.approverIds.dedup.length}"⟩
  let raws := c.approvalsData.getD []
  if raws.length < 2 then
    .error
      ⟨.valueError, "Resumption requires at least 2 cryptographically signed approval records"⟩
  let approvals ← readApprovals r raws
  if approvals.map (·.approverId) ≠ c.approverIds then
    .error ⟨.valueError, "Approval identities do not match the supplied approver_ids"⟩
  return (secretKey, approvals)

/-- Everything up to and with `verify_and_consume_quorum`: the approvals it has consumed. -/
def authorizeResume (c : Resume) (db : Database) : Except PyError (List AdminApproval) × Database :=
  match presentedApprovals r c with
  | .error e => (.error e, db)
  | .ok (secretKey, approvals) =>
    let answered := exec (respond false) (approvals.findSome? (insertFailure db))
      (verifyAndConsumeQuorum r.toQuorumRules secretKey (quorumCall c.scope approvals c.now))
      db.approvals
    let db := { db with approvals := answered.2 }
    match answered.1 with
    | .error e => (.error e, db)
    | .ok (quorumOk, quorumError) =>
      if quorumOk then (.ok approvals, db)
      else
        let shown := quorumError.getD "None"
        (.error ⟨.valueError, s!"Circuit breaker resumption governance rejected: {shown}"⟩, db)

/-- The transaction that ends a resumption. -/
def recordResume (c : Resume) (approvals : List AdminApproval) (db : Database) :
    Except PyError String × Database :=
  let stateBefore := getState db c.scope
  transaction db (do
    let db ← upsertState db c.scope ⟨.normal, none, none⟩
    let reason ← c.reason
    insertAudit db
      { id := c.auditId
        scope := c.scope
        action := .resume
        actorId := "multi-sig:" ++ ",".intercalate c.approverIds
        reason := reason
        stateBefore := stateBefore
        stateAfter := .normal
        approvalsJson := approvalsJson r approvals }) c.auditId

def resume (c : Resume) (db : Database) : Except PyError String × Database :=
  match authorizeResume r c db with
  | (.error e, db) => (.error e, db)
  | (.ok approvals, db) => recordResume r c approvals db

def perform (db : Database) : Call → Except PyError String × Database
  | .pause c => pause c db
  | .resume c => resume r c db

/-- No scope was ever paused or resumed. -/
def Database.start (tenants organisations : List String) (approvals : Table) : Database :=
  ⟨tenants, organisations, approvals, ∅, []⟩

end Calls

section Property
variable (r : BreakerRules)

def eventsOf (db : Database) (scope : Scope) : List AuditEvent :=
  db.audit.filter fun e => e.scope = scope

/-- State and trail of every scope fit together. -/
structure TrailSound (db : Database) : Prop where
  current : ∀ scope, getState db scope =
    final AuditEvent.stateAfter CircuitBreakerState.normal (eventsOf db scope)
  linked : ∀ scope, Linked AuditEvent.stateBefore AuditEvent.stateAfter .normal (eventsOf db scope)

/-- A signed, unexpired approval of the resumption of a scope that a step has consumed. -/
structure ConsumedBy (db db' : Database) (scope : Scope) (c : Resume) (a : AdminApproval) : Prop where
  checked : ∃ secretKey, c.governanceManager = some secretKey ∧
    Checked r.toQuorumRules secretKey (quorumCall scope [a] c.now) a
  fresh : isConsumed db.approvals a.approvalId = false
  consumed : isConsumed db'.approvals a.approvalId = true

/-- At least two of them, of distinct approvers. -/
def QuorumConsumed (db db' : Database) (scope : Scope) (c : Resume) : Prop :=
  ∃ approvals : List AdminApproval, 2 ≤ approvals.length ∧ (approvals.map (·.approverId)).Nodup ∧
    ∀ a ∈ approvals, ConsumedBy r db db' scope c a

/-- What is asked of one call. -/
structure StepSound (db : Database) (call : Call) : Prop where
  governed : ∀ scope, getState db scope = .paused → getState (perform r db call).2 scope = .normal →
    ∃ c, call = .resume c ∧ QuorumConsumed r db (perform r db call).2 scope c
  refused : ∀ e, (perform r db call).1 = .error e → (perform r db call).2 = db

def RunSound (db : Database) : List Call → Prop
  | [] => TrailSound db
  | call :: rest => TrailSound db ∧ StepSound r db call ∧ RunSound (perform r db call).2 rest

/-- The row of the resumption can be written. -/
structure Storable (db : Database) (c : Resume) : Prop where
  tenant : c.scope.tenantId ∈ db.tenants
  organisation : c.scope.organisationId ∈ db.organisations
  reason : ∃ reason, c.reason = .ok reason
  auditId : c.auditId ∉ db.audit.map (·.id)

/-- A resumption whose quorum is accepted can be written. -/
def Call.Meets (db : Database) : Call → Prop
  | .pause _ => True
  | .resume c => ∀ approvals db', authorizeResume r c db = (.ok approvals, db') → Storable db c

def MeetsRun (db : Database) : List Call → Prop
  | [] => True
  | call :: rest => call.Meets r db ∧ MeetsRun (perform r db call).2 rest

end Property

section Quorum
variable {r : QuorumRules} {secretKey : String} {q : QuorumCall} {w : Table}

/-- A program of one caller alone, whatever its insertions meet. -/
abbrev Alone {α : Type} (Q : α → Table → Prop) (X : Table → Prop) (p : QuorumApprovals.Action α)
    (w : Table) : Prop :=
  Keeps (respond false) (fun _ _ _ => True) (fun _ => True) Q (fun _ => X) p w

theorem alone_verifySingleApproval (a : AdminApproval) :
    Alone (fun reason w' => w' = w ∧ (reason = none → Checked r secretKey q a ∧
      isConsumed w a.approvalId = false)) (· = w) (verifySingleApproval r secretKey q a) w := by
  refine Keeps.bind (Q := fun reason w' => w' = w ∧ checkFields r secretKey q a = .ok reason)
    (Keeps.ofExcept (fun reason found => ⟨rfl, found⟩) (fun _ _ => rfl)) ?_
  rintro reason _ ⟨rfl, found⟩
  cases reason with
  | some reason => exact ⟨rfl, fun none => nomatch none⟩
  | none =>
    refine Keeps.perform trivial ?_
    intro i consumed w' _ answered
    obtain ⟨same, rfl⟩ := Prod.mk.inj answered
    cases consumed with
    | true => exact ⟨rfl, fun none => nomatch none⟩
    | false => exact ⟨rfl, fun _ => ⟨checkFields_none found, same⟩⟩

theorem alone_verifyEach (approvals : List AdminApproval) :
    Alone (fun reason w' => w' = w ∧ (reason = none → ∀ a ∈ approvals, Checked r secretKey q a ∧
      isConsumed w a.approvalId = false)) (· = w) (verifyEach r secretKey q approvals) w := by
  induction approvals with
  | nil => exact ⟨rfl, fun _ a mem => nomatch mem⟩
  | cons a rest ih =>
    refine Keeps.bind (alone_verifySingleApproval a) ?_
    rintro reason _ ⟨rfl, passed⟩
    cases reason with
    | some reason => exact ⟨rfl, fun none => nomatch none⟩
    | none =>
      refine ih.mono ?_
      rintro reason _ ⟨rfl, others⟩
      exact ⟨rfl, fun none => List.forall_mem_cons.mpr ⟨passed rfl, others none⟩⟩

theorem alone_insertEach (approvals : List AdminApproval) :
    Alone (fun _ w' => w' = w) (· = w) (insertEach approvals) w := by
  induction approvals with
  | nil => exact rfl
  | cons a rest ih =>
    refine Keeps.perform trivial ?_
    intro failure answer w' _ answered
    cases failure with
    | some e =>
      obtain ⟨rfl, rfl⟩ := Prod.mk.inj answered
      exact rfl
    | none =>
      obtain ⟨rfl, rfl⟩ := Prod.mk.inj answered
      exact ih

/-- What a granted quorum rests on, and that nothing else is written. -/
structure Granted (r : QuorumRules) (secretKey : String) (q : QuorumCall) (w w' : Table) : Prop where
  enough : q.requiredApprovals ≤ q.approvals.length
  distinct : (q.approvals.map (·.approverId)).Nodup
  checked : ∀ a ∈ q.approvals, Checked r secretKey q a
  fresh : ∀ a ∈ q.approvals, isConsumed w a.approvalId = false
  written : w' = q.approvals.foldl upsert w

variable (r secretKey q w) in
theorem alone_verifyAndConsumeQuorum :
    Alone (fun answer w' => if answer.1 then Granted r secretKey q w w' else w' = w) (· = w)
      (verifyAndConsumeQuorum r secretKey q) w := by
  rw [verifyAndConsumeQuorum]
  split
  · exact rfl
  · rename_i enough
    dsimp only
    split
    · exact rfl
    · rename_i distinct
      refine Keeps.bind (alone_verifyEach q.approvals) ?_
      rintro reason _ ⟨rfl, checked⟩
      cases reason with
      | some reason => exact rfl
      | none =>
        refine Keeps.bind (alone_insertEach q.approvals) ?_
        rintro _ _ rfl
        refine Keeps.perform trivial ?_
        intro failure answer w' _ answered
        obtain ⟨-, rfl⟩ := Prod.mk.inj answered
        exact ⟨not_lt.mp enough, nodup_of_dedup (by rwa [List.length_map]),
          fun a mem => (checked rfl a mem).1, fun a mem => (checked rfl a mem).2, rfl⟩

end Quorum

section Specifications
variable {r : BreakerRules} {db db' : Database} {c : Resume} {call : Call}

theorem presentedApprovals_manager {secretKey : String} {approvals : List AdminApproval}
    (presented : presentedApprovals r c = .ok (secretKey, approvals)) :
    c.governanceManager = some secretKey := by
  unfold presentedApprovals at presented
  obtain ⟨key, required, rest⟩ := bind_ok.mp presented
  dsimp only at rest
  split at rest
  · cases rest
  split at rest
  · cases rest
  obtain ⟨read, -, rest⟩ := bind_ok.mp rest
  split at rest
  · cases rest
  obtain rfl := (Prod.mk.inj (Except.ok.inj rest)).1
  cases held : c.governanceManager with
  | none =>
    rw [held] at required
    cases required
  | some key' =>
    rw [held] at required
    rw [Except.ok.inj required]

/-- Before the state is written, either nothing has happened or a quorum is consumed. -/
theorem authorizeResume_cases (c : Resume) (db : Database) :
    (∃ e, authorizeResume r c db = (.error e, db)) ∨
      ∃ secretKey approvals w, c.governanceManager = some secretKey ∧
        authorizeResume r c db = (.ok approvals, { db with approvals := w }) ∧
        Granted r.toQuorumRules secretKey (quorumCall c.scope approvals c.now) db.approvals w := by
  unfold authorizeResume
  cases presented : presentedApprovals r c with
  | error e => exact .inl ⟨e, rfl⟩
  | ok found =>
    obtain ⟨secretKey, approvals⟩ := found
    have manager := presentedApprovals_manager presented
    dsimp only
    have outcome := Keeps.exec (alone_verifyAndConsumeQuorum r.toQuorumRules secretKey
      (quorumCall c.scope approvals c.now) db.approvals)
      (approvals.findSome? (insertFailure db)) (fun _ _ => trivial)
    generalize exec (respond false) _ _ db.approvals = answered at outcome ⊢
    obtain ⟨answer | ⟨quorumOk, quorumError⟩, w⟩ := answered
    · obtain rfl := outcome
      exact .inl ⟨answer, rfl⟩
    · cases quorumOk with
      | false =>
        obtain rfl := outcome
        exact .inl ⟨_, rfl⟩
      | true => exact .inr ⟨secretKey, approvals, w, manager, rfl, outcome⟩

/-- One transition of a scope, in its row and in the trail. -/
structure Written (db db' : Database) (scope : Scope) (state : CircuitBreakerState) : Prop where
  write : ∃ row e, db' = { db with
      breakers := db.breakers.insert scope row
      audit := db.audit ++ [e] } ∧ row.state = state ∧ e.scope = scope ∧
    e.stateBefore = getState db scope ∧ e.stateAfter = state

theorem Written.getState {scope : Scope} {state : CircuitBreakerState}
    (written : Written db db' scope state) (other : Scope) :
    getState db' other = if other = scope then state else getState db other := by
  obtain ⟨row, e, rfl, rfl, -⟩ := written.write
  unfold CircuitBreakers.getState
  dsimp only
  split_ifs with same
  · rw [same, AList.lookup_insert]
  · rw [AList.lookup_insert_ne same]

theorem Written.trailSound {scope : Scope} {state : CircuitBreakerState}
    (written : Written db db' scope state) (sound : TrailSound db) : TrailSound db' := by
  have states := written.getState
  obtain ⟨row, e, rfl, -, here, before, after⟩ := written.write
  have events (other : Scope) : eventsOf { db with
      breakers := db.breakers.insert scope row
      audit := db.audit ++ [e] } other =
        if other = scope then eventsOf db other ++ [e] else eventsOf db other := by
    unfold eventsOf
    dsimp only
    rw [List.filter_append, List.filter_singleton, here]
    split_ifs with same
    · rw [decide_eq_true same.symm]
      rfl
    · rw [decide_eq_false (Ne.symm same)]
      exact List.append_nil _
  constructor
  · intro other
    rw [states, events]
    split_ifs with same
    · rw [final_concat, after]
    · exact sound.current other
  · intro other
    rw [events]
    split_ifs with same
    · refine linked_concat (sound.linked other) ?_
      rw [before, same, sound.current]
    · exact sound.linked other

theorem checkReferences_ok {scope : Scope} :
    checkReferences db scope = .ok () ↔
      scope.tenantId ∈ db.tenants ∧ scope.organisationId ∈ db.organisations := by
  unfold checkReferences
  split_ifs with known
  · exact ⟨fun _ => known, fun _ => rfl⟩
  · exact ⟨fun same => (nomatch same), fun known' => absurd known' known⟩

theorem upsertState_ok {scope : Scope} {row : BreakerRow} :
    upsertState db scope row = .ok db' ↔ checkReferences db scope = .ok () ∧
      db' = { db with breakers := db.breakers.insert scope row } := by
  unfold upsertState
  constructor
  · intro ok
    obtain ⟨⟨⟩, referenced, same⟩ := bind_ok.mp ok
    exact ⟨referenced, (Except.ok.inj same).symm⟩
  · rintro ⟨referenced, rfl⟩
    exact bind_ok.mpr ⟨(), referenced, rfl⟩

theorem insertAudit_ok {e : AuditEvent} :
    insertAudit db e = .ok db' ↔ e.id ∉ db.audit.map (·.id) ∧
      checkReferences db e.scope = .ok () ∧ db' = { db with audit := db.audit ++ [e] } := by
  unfold insertAudit
  split
  · rename_i used
    exact ⟨fun same => (nomatch same), fun found => absurd used found.1⟩
  · rename_i new
    constructor
    · intro ok
      obtain ⟨⟨⟩, referenced, same⟩ := bind_ok.mp ok
      exact ⟨new, referenced, (Except.ok.inj same).symm⟩
    · rintro ⟨-, referenced, rfl⟩
      exact bind_ok.mpr ⟨(), referenced, rfl⟩

/-- The two statements of a transaction write one transition. -/
theorem written_of_ok {scope : Scope} {row : BreakerRow} {e : AuditEvent} {db₁ db₂ : Database}
    (upserted : upsertState db scope row = .ok db₁) (inserted : insertAudit db₁ e = .ok db₂)
    (here : e.scope = scope) (before : e.stateBefore = getState db scope)
    (after : e.stateAfter = row.state) : Written db db₂ scope row.state := by
  obtain ⟨-, rfl⟩ := upsertState_ok.mp upserted
  obtain ⟨-, -, rfl⟩ := insertAudit_ok.mp inserted
  exact ⟨row, e, rfl, rfl, here, before, after⟩

theorem pause_cases (c : Pause) (db : Database) :
    (∃ e, pause c db = (.error e, db)) ∨
      ∃ db', pause c db = (.ok c.auditId, db') ∧ Written db db' c.scope .paused := by
  unfold pause transaction
  dsimp only
  generalize writing : (do
    let operatorId ← c.operatorId
    _ : Except PyError Database) = body
  cases body with
  | error e => exact .inl ⟨e, rfl⟩
  | ok written =>
    obtain ⟨operatorId, -, rest⟩ := bind_ok.mp writing
    obtain ⟨reason, -, rest⟩ := bind_ok.mp rest
    obtain ⟨db₁, upserted, inserted⟩ := bind_ok.mp rest
    exact .inr ⟨written, rfl, written_of_ok upserted inserted rfl rfl rfl⟩

theorem recordResume_cases (c : Resume) (approvals : List AdminApproval) (db : Database) :
    (∃ e, recordResume r c approvals db = (.error e, db)) ∨
      ∃ db', recordResume r c approvals db = (.ok c.auditId, db') ∧ Storable db c ∧
        Written db db' c.scope .normal := by
  unfold recordResume transaction
  dsimp only
  generalize writing : (do
    let db ← upsertState db c.scope ⟨.normal, none, none⟩
    _ : Except PyError Database) = body
  cases body with
  | error e => exact .inl ⟨e, rfl⟩
  | ok written =>
    obtain ⟨db₁, upserted, rest⟩ := bind_ok.mp writing
    obtain ⟨reason, given, inserted⟩ := bind_ok.mp rest
    have write := written_of_ok upserted inserted rfl rfl rfl
    obtain ⟨referenced, rfl⟩ := upsertState_ok.mp upserted
    obtain ⟨tenant, organisation⟩ := checkReferences_ok.mp referenced
    have new := (insertAudit_ok.mp inserted).1
    exact .inr ⟨written, rfl, ⟨tenant, organisation, ⟨reason, given⟩, new⟩, write⟩

variable (r db) in
theorem recordResume_storable (approvals : List AdminApproval) (storable : Storable db c) :
    (recordResume r c approvals db).1 = .ok c.auditId := by
  obtain ⟨reason, given⟩ := storable.reason
  have referenced := checkReferences_ok.mpr ⟨storable.tenant, storable.organisation⟩
  unfold recordResume
  dsimp only
  rw [upsertState_ok.mpr ⟨referenced, rfl⟩, given]
  show (transaction db (insertAudit _ _) c.auditId).1 = _
  rw [insertAudit_ok.mpr ⟨storable.auditId, referenced, rfl⟩]
  rfl

end Specifications

section Runs
variable {r : BreakerRules} {db : Database} {call : Call}

/-- A call refused before anything is written is sound. -/
theorem stepSound_unchanged {answer : Except PyError String} (same : perform r db call = (answer, db)) :
    StepSound r db call := by
  constructor
  · intro scope paused normal
    rw [same] at normal
    cases paused.symm.trans normal
  · intro e _
    rw [same]

/-- A step is sound exactly when it meets the condition. -/
theorem stepSound_iff : StepSound r db call ↔ call.Meets r db := by
  cases call with
  | pause c =>
    refine ⟨fun _ => trivial, fun _ => ?_⟩
    rcases pause_cases c db with ⟨e, refused⟩ | ⟨db', done, written⟩
    · exact stepSound_unchanged refused
    · constructor
      · intro scope paused normal
        have state : getState db' scope = .normal := by rwa [perform, done] at normal
        rw [written.getState] at state
        split_ifs at state
        cases paused.symm.trans state
      · intro e refused
        rw [perform, done] at refused
        cases refused
  | resume c =>
    rcases authorizeResume_cases (r := r) c db with
      ⟨e, refused⟩ | ⟨secretKey, approvals, w, manager, accepted, granted⟩
    · have unchanged : perform r db (.resume c) = (.error e, db) := by
        rw [perform, resume, refused]
      refine ⟨fun _ approvals db' accepted => ?_, fun _ => stepSound_unchanged unchanged⟩
      cases refused.symm.trans accepted
    have performed : perform r db (.resume c) =
        recordResume r c approvals { db with approvals := w } := by
      rw [perform, resume, accepted]
    have consumed (a : AdminApproval) (mem : a ∈ approvals) : isConsumed w a.approvalId = true := by
      rw [granted.written, isConsumed_upserts, Bool.or_eq_true, decide_eq_true_iff]
      exact .inl (List.mem_map_of_mem mem)
    constructor
    · intro sound approvals' db' accepted'
      rcases recordResume_cases (r := r) c approvals { db with approvals := w } with
        ⟨e, refused⟩ | ⟨-, -, storable, -⟩
      · -- The quorum is consumed, so the database is not the one before.
        have kept := sound.refused e (by rw [performed, refused])
        rw [performed, refused] at kept
        have same : w = db.approvals := congrArg Database.approvals kept
        obtain ⟨a, mem⟩ := List.exists_mem_of_length_pos (l := approvals) (by
          have enough : (2 : Int) ≤ approvals.length := granted.enough
          omega)
        have fresh := granted.fresh a mem
        rw [← same, consumed a mem] at fresh
        cases fresh
      · exact ⟨storable.tenant, storable.organisation, storable.reason, storable.auditId⟩
    · intro meets
      have storable := meets approvals _ accepted
      have answered := recordResume_storable r { db with approvals := w } approvals
        ⟨storable.tenant, storable.organisation, storable.reason, storable.auditId⟩
      rcases recordResume_cases (r := r) c approvals { db with approvals := w } with
        ⟨e, refused⟩ | ⟨db', done, -, written⟩
      · rw [refused] at answered
        cases answered
      · constructor
        · intro scope paused normal
          rw [performed, done] at normal ⊢
          have here : scope = c.scope := by
            have state : getState db' scope = .normal := normal
            rw [written.getState] at state
            split_ifs at state with same
            · exact same
            · cases paused.symm.trans state
          subst here
          have table : db'.approvals = w := by
            obtain ⟨row, e, rfl, -⟩ := written.write
            rfl
          refine ⟨c, rfl, approvals, ?_, granted.distinct, fun a mem => ⟨?_, granted.fresh a mem, ?_⟩⟩
          · have enough : (2 : Int) ≤ approvals.length := granted.enough
            omega
          · have passed := granted.checked a mem
            exact ⟨secretKey, manager, passed.tenant, passed.action, passed.target,
              passed.unexpired, passed.payload, passed.signed⟩
          · show isConsumed db'.approvals a.approvalId = true
            rw [table]
            exact consumed a mem
        · intro e refused
          rw [performed, done] at refused
          cases refused

variable (r call) in
/-- No call breaks the trail, also where it fails half way. -/
theorem trailSound_perform (sound : TrailSound db) : TrailSound (perform r db call).2 := by
  cases call with
  | pause c =>
    rw [perform]
    rcases pause_cases c db with ⟨e, refused⟩ | ⟨db', done, written⟩
    · rw [refused]
      exact sound
    · rw [done]
      exact written.trailSound sound
  | resume c =>
    rw [perform, resume]
    rcases authorizeResume_cases (r := r) c db with
      ⟨e, refused⟩ | ⟨secretKey, approvals, w, -, accepted, -⟩
    · rw [refused]
      exact sound
    · have still : TrailSound { db with approvals := w } := ⟨sound.current, sound.linked⟩
      rw [accepted]
      dsimp only
      rcases recordResume_cases (r := r) c approvals { db with approvals := w } with
        ⟨e, refused⟩ | ⟨db', done, -, written⟩
      · rw [refused]
        exact still
      · rw [done]
        exact written.trailSound still

theorem runSound_iff {calls : List Call} (sound : TrailSound db) :
    RunSound r db calls ↔ MeetsRun r db calls := by
  induction calls generalizing db with
  | nil => exact ⟨fun _ => trivial, fun _ => sound⟩
  | cons call rest ih =>
    have later := ih (trailSound_perform r call sound)
    constructor
    · rintro ⟨-, step, run⟩
      exact ⟨stepSound_iff.mp step, later.mp run⟩
    · rintro ⟨meets, run⟩
      exact ⟨sound, stepSound_iff.mpr meets, later.mpr run⟩

theorem trailSound_start (tenants organisations : List String) (approvals : Table) :
    TrailSound (Database.start tenants organisations approvals) :=
  ⟨fun _ => rfl, fun _ => trivial⟩

/-- State, trail and consumed approvals go together in exactly the runs in which every resumption
with an accepted quorum can be written. -/
theorem breaker_governed (r : BreakerRules) (tenants organisations : List String) (approvals : Table)
    (calls : List Call) :
    RunSound r (Database.start tenants organisations approvals) calls ↔
      MeetsRun r (Database.start tenants organisations approvals) calls :=
  runSound_iff (trailSound_start tenants organisations approvals)

end Runs

section Sample

def sampleRules : BreakerRules where
  toQuorumRules := QuorumApprovals.sampleRules
  text := asciiRules fun _ => ""
  floatOf _ := .error ⟨.typeError, ""⟩

def sampleCreations : List Creation :=
  [QuorumApprovals.sampleCreation,
    { QuorumApprovals.sampleCreation with
      approverId := "bob"
      uuidHex := "bbbbbbbbbbbbbbbbbbbbbbbbbbbbbbbb" }]

/-- Two approvals for an organisation nobody has registered. -/
def sampleResume : Resume where
  scope := ⟨"t", "org-1"⟩
  approverIds := ["alice", "bob"]
  approvalsData := some (sampleCreations.map fun c =>
    .approval (createApproval QuorumApprovals.sampleRules "k" c))
  reason := .ok "Governance quorum verified resumption"
  governanceManager := some "k"
  now := .finite 60
  auditId := "cb-audit-1"

/-- They are consumed by the call that fails. -/
theorem sample_consumed_in_vain :
    ¬RunSound sampleRules (Database.start ["t"] [] ∅) [.resume sampleResume] := by
  intro sound
  have meets := (runSound_iff (trailSound_start ["t"] [] ∅)).mp sound
  have accepted : (authorizeResume sampleRules sampleResume (.start ["t"] [] ∅)).1.isOk = true := by
    decide +kernel
  cases authorized : authorizeResume sampleRules sampleResume (.start ["t"] [] ∅) with
  | mk answer db' =>
    rw [authorized] at accepted
    cases answer with
    | error e => cases accepted
    | ok approvals => cases (meets.1 approvals db' authorized).organisation

end Sample

end CircuitBreakers
