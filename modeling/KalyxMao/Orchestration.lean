import KalyxMao.Executors
import KalyxMao.PolicyRules
import KalyxMao.ProgramPools

/-!
# The state machine, the human gate and the orchestration engine

An operation of the engine is a program over the organisation's state, its tasks
and its ledger. What the policy engine, the auditor, the planner, the event store
and the observers answer comes from outside, so that another component may act
between any two commands.
-/

namespace Orchestration
open EffectPrograms EffectPrograms.Prog ProgramPools PythonText PythonValues Ledger Domain Executors
open Consequential (showOption)
open PolicyRules (AgentRole)
open TokenBinding (OrgState)

section StateMachine

def orgStateValue : OrgState → String
  | .initializing => "INITIALIZING"
  | .planning => "PLANNING"
  | .executing => "EXECUTING"
  | .paused => "PAUSED"
  | .failed => "FAILED"
  | .completed => "COMPLETED"

/-- `ORG_TRANSITIONS`. -/
def orgTransitions : OrgState → List OrgState
  | .initializing => [.planning, .failed]
  | .planning => [.executing, .paused, .failed]
  | .executing => [.planning, .paused, .completed, .failed]
  | .paused => [.executing, .failed]
  | .completed => [.planning]
  | .failed => []

inductive TaskStatus where
  | pending
  | assigned
  | inProgress
  | submitted
  | approved
  | rejected
  | completed
  | failed
  deriving DecidableEq

def TaskStatus.value : TaskStatus → String
  | .pending => "PENDING"
  | .assigned => "ASSIGNED"
  | .inProgress => "IN_PROGRESS"
  | .submitted => "SUBMITTED"
  | .approved => "APPROVED"
  | .rejected => "REJECTED"
  | .completed => "COMPLETED"
  | .failed => "FAILED"

/-- `TASK_TRANSITIONS`. -/
def taskTransitions : TaskStatus → List TaskStatus
  | .pending => [.assigned, .failed]
  | .assigned => [.inProgress, .failed]
  | .inProgress => [.submitted, .completed, .failed]
  | .submitted => [.approved, .rejected, .completed, .failed]
  | .approved => [.completed, .failed]
  | .rejected => [.inProgress, .failed]
  | .completed => []
  | .failed => []

def transitionOrg (state toState : OrgState) : Except PyError OrgState :=
  if toState ∈ orgTransitions state then .ok toState
  else .error ⟨.invalidStateTransitionError,
    s!"Illegal organisation transition from {orgStateValue state} to {orgStateValue toState}"⟩

structure Task where
  id : String
  assignedAgentId : Option String
  allocatedCredits : Nat
  status : TaskStatus

def transitionTask (task : Task) (toStatus : TaskStatus) : Except PyError Task :=
  if toStatus ∈ taskTransitions task.status then .ok { task with status := toStatus }
  else .error ⟨.invalidStateTransitionError,
    s!"Illegal task transition from {task.status.value} to {toStatus.value}"⟩

/-- `HumanGate.trigger_kill_switch`: whatever the state is. -/
def triggerKillSwitch (_ : OrgState) : OrgState := .paused

/-- `HumanGate.resume_from_pause`. -/
def resumeFromPause (state : OrgState) : OrgState :=
  if state = .paused then .executing else state

end StateMachine

section Engine

inductive ExecutorKind where
  | sandbox
  | external (executor : ExternalExecutor)

/-- What an engine is made with. -/
structure Engine where
  rules : ExecutorRules
  executor : ExecutorKind
  orgId : String
  tenantId : String
  maxReplanAttempts : Nat

structure PlannedTask where
  taskId : String
  assignedRole : AgentRole
  allocatedCredits : Nat

/-- The organisation, the registry, the executor with the ledger, and the proposal whose
execution the auditor has rejected, if there was one. -/
structure World where
  state : OrgState
  agents : List (String × AgentRecord)
  tasks : List (String × Task)
  aliases : List (String × String)
  replanCounts : List (String × Nat)
  executor : ExecutorState
  receipts : List ExecutionReceipt
  rejected : Option ActionProposal

/-- What comes from outside at a command: an exception, or the answer of a component. -/
structure Input where
  raised : Option PyError
  uuid : String
  plan : List PlannedTask
  assigned : Option (String × Nat)
  decision : PolicyDecision
  sandbox : SandboxInput
  external : ExternalInput
  failures : List String
  reputation : AgentRecord → AgentRecord
  replanned : ActionProposal

inductive Cmd where
  | orgState
  | transitionOrg (toState : OrgState)
  | triggerKillSwitch
  | resumeFromPause
  | notify (what : String)
  | createInitialPlan
  | bindAlias (logicalId : String)
  | assignAndAllocate (item : PlannedTask)
  | putTask (logicalId : String) (task : Task)
  | taskId (logicalId : String)
  | task (key : String)
  | transitionTask (key : String) (toStatus : TaskStatus)
  | evaluate (proposal : ActionProposal)
  | agent (key : String)
  | record (event : String) (key : String)
  | execute (proposal : ActionProposal) (decision : PolicyDecision)
  | verifyExecution (proposal : ActionProposal) (receipt : ExecutionReceipt)
  | bumpReplans (actual taskId : String)
  | replanAfterRejection (taskId : String) (rejected : ActionProposal) (attempt : Nat)
  | reviewMission

abbrev Resp : Cmd → Type
  | .orgState => OrgState
  | .createInitialPlan => Except PyError (List PlannedTask)
  | .bindAlias _ => String
  | .assignAndAllocate _ => Except PyError (Option (String × Nat))
  | .putTask _ _ => Unit
  | .taskId _ => String
  | .task _ => Option Task
  | .evaluate _ => Except PyError PolicyDecision
  | .agent _ => Option AgentRecord
  | .execute _ _ => Except PyError ExecutionReceipt
  | .verifyExecution _ _ => Except PyError (List String)
  | .bumpReplans _ _ => Nat
  | .replanAfterRejection _ _ _ => Except PyError ActionProposal
  | _ => Except PyError Unit

def put {β : Type} (items : List (String × β)) (key : String) (value : β) : List (String × β) :=
  (key, value) :: items.filter fun entry => entry.1 ≠ key

def World.resolve (w : World) (key : String) : String := (w.aliases.lookup key).getD key

def World.organisation (w : World) (e : Engine) : Organisation := ⟨e.orgId, e.tenantId, w.agents⟩

def answer {α : Type} (raised : Option PyError) (value : α) : Except PyError α :=
  match raised with
  | some e => .error e
  | none => .ok value

def execute (e : Engine) (w : World) (proposal : ActionProposal) (decision : PolicyDecision)
    (i : Input) : Except PyError ExecutionReceipt × ExecutorState :=
  match e.executor with
  | .sandbox => sandboxExecute e.rules w.executor proposal decision (w.organisation e) i.sandbox
  | .external x => externalExecute e.rules w.executor proposal decision (w.organisation e) x i.external

def handle (e : Engine) : Handler Cmd Resp World Input
  | .orgState, w, _ => (w.state, w)
  | .transitionOrg toState, w, _ =>
    match transitionOrg w.state toState with
    | .error e => (.error e, w)
    | .ok state => (.ok (), { w with state })
  | .triggerKillSwitch, w, _ => (.ok (), { w with state := triggerKillSwitch w.state })
  | .resumeFromPause, w, _ => (.ok (), { w with state := resumeFromPause w.state })
  | .notify _, w, i => (answer i.raised (), w)
  | .createInitialPlan, w, i => (answer i.raised i.plan, w)
  | .bindAlias logicalId, w, i =>
    let actual := s!"{e.orgId}-{logicalId}-{i.uuid}"
    (actual, { w with aliases := put w.aliases logicalId actual })
  | .assignAndAllocate _, w, i => (answer i.raised i.assigned, w)
  | .putTask logicalId task, w, _ =>
    ((), { w with tasks := put w.tasks task.id task, aliases := put w.aliases logicalId task.id })
  | .taskId logicalId, w, _ => (w.resolve logicalId, w)
  | .task key, w, _ => (w.tasks.lookup (w.resolve key), w)
  | .transitionTask key toStatus, w, _ =>
    match w.tasks.lookup key with
    | none => (.error ⟨.otherException, key⟩, w)
    | some task =>
      match transitionTask task toStatus with
      | .error e => (.error e, w)
      | .ok task => (.ok (), { w with tasks := put w.tasks key task })
  | .evaluate _, w, i => (answer i.raised i.decision, w)
  | .agent key, w, _ => (w.agents.lookup key, w)
  | .record _ key, w, i => (answer i.raised (), { w with agents := w.agents.map fun entry =>
      if entry.1 = key then (key, i.reputation entry.2) else entry })
  | .execute proposal decision, w, i =>
    match execute e w proposal decision i with
    | (.error e, executor) => (.error e, { w with executor })
    | (.ok receipt, executor) => (.ok receipt, { w with executor, receipts := w.receipts ++ [receipt] })
  | .verifyExecution proposal _, w, i =>
    match answer i.raised i.failures with
    | .error e => (.error e, w)
    | .ok [] => (.ok [], w)
    | .ok failures => (.ok failures, { w with rejected := some proposal })
  | .bumpReplans actual taskId, w, _ =>
    let attempts := (w.replanCounts.lookup actual).getD 0 + 1
    (attempts, { w with replanCounts := put (put w.replanCounts actual attempts) taskId attempts })
  | .replanAfterRejection _ _ _, w, i => (answer i.raised i.replanned, w)
  | .reviewMission, w, i => (answer i.raised (), w)

abbrev Action := Prog Cmd Resp PyError

def given (condition : Prop) [Decidable condition] (p : Action Unit) : Action Unit :=
  if condition then p else pure ()

def orgState : Action OrgState := perform Cmd.orgState

def agentOf (key : String) : Action (Option AgentRecord) := perform (Cmd.agent key)

def findTask (key : String) : Action (Option Task) := perform (Cmd.task key)

def putTask (logicalId : String) (task : Task) : Action Unit := perform (Cmd.putTask logicalId task)

def notify (what : String) : Action Unit := do ofExcept (← perform (.notify what))

def moveOrg (toState : OrgState) : Action Unit := do
  ofExcept (← perform (.transitionOrg toState))

def moveTask (task : Task) (toStatus : TaskStatus) : Action Unit := do
  ofExcept (← perform (.transitionTask task.id toStatus))

/-- `_sync_state`. -/
def syncState : Action Unit := notify "SYNC_STATE"

def startMission : Action Unit := do
  let state ← orgState
  given (state ≠ .planning) (moveOrg .planning)
  notify "MISSION_STARTED"
  syncState

/-- One item of the plan; where nobody is eligible the task is left without an assignee. -/
def openTask (item : PlannedTask) : Action Task := do
  let actual ← perform (.bindAlias item.taskId)
  let assigned ← ofExcept (← perform (.assignAndAllocate item))
  match assigned with
  | some (agentId, allocation) =>
    let task : Task := ⟨actual, some agentId, allocation, .assigned⟩
    putTask item.taskId task
    return task
  | none =>
    let task ← ofExcept (transitionTask ⟨actual, none, item.allocatedCredits, .pending⟩ .assigned)
    notify "TASK_ASSIGNMENT_FAILED"
    putTask item.taskId task
    return task

def openTasks : List PlannedTask → Action (List Task)
  | [] => pure []
  | item :: items => do
    let task ← openTask item
    let tasks ← openTasks items
    return task :: tasks

def decomposeAndPlan : Action (List Task) := do
  let plan ← ofExcept (← perform .createInitialPlan)
  notify "MISSION_PLAN_CREATED"
  let created ← openTasks plan
  moveOrg .executing
  syncState
  return created

/-- The proposer's record first, then the assignee's, if that is another agent. -/
def recordEach (event : String) (proposal : ActionProposal) (task : Task) : Action Unit := do
  let agent ← agentOf proposal.proposingAgentId
  given agent.isSome (do ofExcept (← perform (.record event proposal.proposingAgentId)))
  let agent ← agentOf proposal.proposingAgentId
  let assignedId := orElse task.assignedAgentId ""
  let assigned ← agentOf assignedId
  given (assignedId ≠ "" ∧ assigned.isSome ∧ assigned ≠ agent)
    (do ofExcept (← perform (.record event assignedId)))

/-- The audit has failed. -/
def auditFailed (task : Task) (failures : List String) :
    Action (PolicyDecision × Option ExecutionReceipt) := do
  moveTask task .failed
  moveOrg .failed
  notify "AUDIT_FAILED"
  syncState
  let shown := String.intercalate "; " failures
  raise ⟨.otherException, s!"Audit verification failed: {shown}"⟩

def verified (task : Task) (proposal : ActionProposal) (decision : PolicyDecision)
    (receipt : ExecutionReceipt) : Action (PolicyDecision × Option ExecutionReceipt) := do
  notify "VERIFIED"
  recordEach "TASK_SUCCESS" proposal task
  moveTask task .completed
  syncState
  return (decision, some receipt)

/-- A receipt is there: it is stored, shown, and audited. -/
def audit (task : Task) (proposal : ActionProposal) (decision : PolicyDecision)
    (receipt : ExecutionReceipt) : Action (PolicyDecision × Option ExecutionReceipt) := do
  notify "ACTION_EXECUTED"
  let failures ← ofExcept (← perform (.verifyExecution proposal receipt))
  match failures with
  | [] => verified task proposal decision receipt
  | failures => auditFailed task failures

def approved (task : Task) (proposal : ActionProposal) (decision : PolicyDecision) :
    Action (PolicyDecision × Option ExecutionReceipt) := do
  moveTask task .approved
  let receipt ← ofExcept (← perform (.execute proposal decision))
  audit task proposal decision receipt

def abort (task : Task) (e : Engine) (proposal : ActionProposal) (decision : PolicyDecision) :
    Action ActionProposal := do
  recordEach "TASK_FAILURE" proposal task
  moveTask task .failed
  moveOrg .failed
  syncState
  raise ⟨.policyViolationError,
    s!"Task {task.id} aborted: Max replan attempts ({e.maxReplanAttempts}) exceeded. Last violation: {showOption decision.violatedRuleId}"⟩

/-- The rejected branch, up to the proposal that is tried next. -/
def rejected (e : Engine) (task : Task) (actual taskId : String) (proposal : ActionProposal)
    (decision : PolicyDecision) : Action ActionProposal := do
  moveTask task .rejected
  recordEach "POLICY_VIOLATION" proposal task
  let attempts ← perform (.bumpReplans actual taskId)
  if e.maxReplanAttempts < attempts then abort task e proposal decision
  else do
    notify "REPLAN_TRIGGERED"
    moveTask task .inProgress
    let replanned ← ofExcept (← perform (.replanAfterRejection taskId proposal attempts))
    syncState
    return if 0 < task.allocatedCredits then
      { replanned with requestedCredits := min replanned.requestedCredits task.allocatedCredits }
    else replanned

def escalated (decision : PolicyDecision) : Action (PolicyDecision × Option ExecutionReceipt) := do
  let state ← orgState
  given (state ≠ .paused) (moveOrg .paused)
  notify "ESCALATION_REQUIRED"
  syncState
  return (decision, none)

/-- From the lookup of the task to the decision. -/
def submit (taskId : String) (proposal : ActionProposal) :
    Action (String × Task × ActionProposal × PolicyDecision) := do
  let actual ← perform (.taskId taskId)
  let found ← findTask actual
  match found with
  | none => raise ⟨.otherException, actual⟩
  | some task => do
    let proposal := { proposal with taskId := task.id }
    given (task.status = .failed) (raise ⟨.policyViolationError,
      s!"Task {actual} is already FAILED and cannot accept proposals"⟩)
    given (task.status ≠ .submitted) (moveTask task .submitted)
    notify "PROPOSAL_SUBMITTED"
    let decision ← ofExcept (← perform (.evaluate proposal))
    notify "POLICY_EVALUATED"
    return (actual, task, proposal, decision)

/-- `process_action_proposal`; it calls itself with a replanned proposal, as deep as the
interpreter allows. -/
def processActionProposal (e : Engine) :
    Nat → String → ActionProposal → Action (PolicyDecision × Option ExecutionReceipt)
  | 0, _, _ => raise ⟨.runtimeError, "maximum recursion depth exceeded"⟩
  | depth + 1, taskId, proposal => do
    let (actual, task, proposal, decision) ← submit taskId proposal
    match decision.result with
    | .approved => approved task proposal decision
    | .rejected => do
      let replanned ← rejected e task actual taskId proposal decision
      processActionProposal e depth actual replanned
    | .escalateToHuman => escalated decision

def completeMission : Action Unit := do
  let state ← orgState
  if state = .paused then do
    ofExcept (← perform .reviewMission)
    notify "MISSION_PAUSED_ESCALATION"
    syncState
  else do
    moveOrg .completed
    ofExcept (← perform .reviewMission)
    notify "MISSION_COMPLETED"
    syncState

end Engine

section States

/-- Who may change the state. -/
inductive Job where
  | transition (toState : OrgState)
  | killSwitch
  | resume
  | start
  | decompose
  | process (depth : Nat) (taskId : String) (proposal : ActionProposal)
  | complete

def Job.program (e : Engine) : Job → Action Unit
  | .transition toState => moveOrg toState
  | .killSwitch => do ofExcept (← perform .triggerKillSwitch)
  | .resume => do ofExcept (← perform .resumeFromPause)
  | .start => startMission
  | .decompose => ignore decomposeAndPlan
  | .process depth taskId proposal => ignore (processActionProposal e depth taskId proposal)
  | .complete => completeMission

def poolOf (e : Engine) (jobs : List Job) : Pool Cmd Resp PyError Unit Unit :=
  jobs.map fun job => ⟨(), job.program e⟩

abbrev anyOrder : Protocol Cmd Resp Unit := Protocol.free Cmd Resp

/-- The state stays, or takes an edge, or is paused by the kill switch before its end. -/
def Lawful (c : Cmd) (before after : World) : Prop :=
  after.state = before.state ∨ after.state ∈ orgTransitions before.state ∨
    c = .triggerKillSwitch ∧ after.state = .paused ∧ before.state ≠ .completed ∧
      before.state ≠ .failed

/-- The kill switch is not used on an organisation that is completed or failed. -/
def Guarded (c : Cmd) (w : World) : Prop :=
  c = .triggerKillSwitch → w.state ≠ .completed ∧ w.state ≠ .failed

variable {e : Engine}

theorem resumeFromPause_lawful (state : OrgState) :
    resumeFromPause state = state ∨ resumeFromPause state ∈ orgTransitions state := by
  cases state with
  | paused => exact .inr (by decide)
  | _ => exact .inl rfl

theorem transitionOrg_lawful {state toState after : OrgState}
    (done : transitionOrg state toState = .ok after) :
    after ∈ orgTransitions state := by
  unfold transitionOrg at done
  split at done
  · rename_i edge
    exact Except.ok.inj done ▸ edge
  · cases done

/-- No command but three touches the state. -/
theorem handle_state (c : Cmd) (w : World) (i : Input) (other : ∀ toState, c ≠ .transitionOrg toState)
    (notKilled : c ≠ .triggerKillSwitch) (notResumed : c ≠ .resumeFromPause) :
    (handle e c w i).2.state = w.state := by
  cases c with
  | transitionOrg toState => exact absurd rfl (other toState)
  | triggerKillSwitch => exact absurd rfl notKilled
  | resumeFromPause => exact absurd rfl notResumed
  | transitionTask key toStatus =>
    simp only [handle]
    split
    · rfl
    · split <;> rfl
  | execute proposal decision =>
    simp only [handle]
    split <;> rfl
  | verifyExecution proposal receipt =>
    simp only [handle]
    split <;> rfl
  | _ => rfl

/-- A command is lawful exactly if it is no kill switch on an organisation at its end. -/
theorem lawful_iff (c : Cmd) (w : World) (i : Input) :
    Lawful c w (handle e c w i).2 ↔ Guarded c w := by
  by_cases killed : c = .triggerKillSwitch
  · subst killed
    have after : (handle e .triggerKillSwitch w i).2.state = .paused := rfl
    unfold Lawful Guarded
    rw [after]
    constructor
    · rintro (same | edge | ⟨-, -, open_⟩) -
      · rw [← same]
        decide
      · constructor
        · intro completed
          rw [completed] at edge
          exact absurd edge (by decide)
        · intro failed
          rw [failed] at edge
          exact absurd edge (by decide)
      · exact open_
    · intro guarded
      exact .inr (.inr ⟨rfl, rfl, guarded rfl⟩)
  · refine iff_of_true ?_ fun same => absurd same killed
    by_cases moved : ∃ toState, c = .transitionOrg toState
    · obtain ⟨toState, rfl⟩ := moved
      unfold Lawful
      simp only [handle]
      split
      · exact .inl rfl
      · rename_i done
        exact .inr (.inl (transitionOrg_lawful done))
    · by_cases resumed : c = .resumeFromPause
      · subst resumed
        exact (resumeFromPause_lawful w.state).imp id .inl
      · exact .inl (handle_state c w i (fun toState same => moved ⟨toState, same⟩) killed resumed)

/-- A lawful step does not leave `FAILED`. -/
theorem Lawful.failed {c : Cmd} {before after : World} (lawful : Lawful c before after)
    (failed : before.state = .failed) : after.state = .failed := by
  unfold Lawful at lawful
  rw [failed] at lawful
  rcases lawful with same | edge | ⟨-, -, -, open_⟩
  · exact same
  · exact absurd edge List.not_mem_nil
  · exact absurd rfl open_

/-- For every engine, jobs, schedule and world: all steps are lawful and `FAILED` is never left
if and only if no kill switch falls on a completed or failed organisation. -/
theorem org_states_lawful (e : Engine) (jobs : List Job) (schedule : List (Nat × Input)) (w : World) :
    (EachTurn (handle e) anyOrder Lawful schedule (poolOf e jobs) w ∧
      ∀ first rest, schedule = first ++ rest →
        (interleave (handle e) anyOrder first (poolOf e jobs) w).2.state = .failed →
        (interleave (handle e) anyOrder schedule (poolOf e jobs) w).2.state = .failed) ↔
      Respects (handle e) anyOrder (fun _ => Guarded) schedule (poolOf e jobs) w := by
  rw [← eachTurn_iff lawful_iff]
  refine and_iff_left_of_imp fun each first rest split_ failed => ?_
  subst split_
  rw [interleave_append]
  exact (eachTurn_append each).preserves (A := fun w => w.state = .failed)
    (fun c w w' lawful => lawful.failed) failed

section Sample

def sampleEngine : Engine := ⟨sampleRules, .sandbox, "org-1", "tenant-1", 3⟩

def sampleWorld : World where
  state := .executing
  agents := sampleOrganisation.agents
  tasks := [("task-1", ⟨"task-1", some "agent-1", 20, .inProgress⟩)]
  aliases := []
  replanCounts := []
  executor := sampleState
  receipts := []
  rejected := none

/-- An approved decision; the audit finds the failures it is given. -/
def sampleTurn (failures : List String) : Input where
  raised := none
  uuid := "0a1b2c3d"
  plan := []
  assigned := none
  decision := sampleDecision
  sandbox := ⟨.ok (true, none), ⟨"u2", "e2", 2⟩, "rec-1", .finite 1⟩
  external := sampleInput (.dict [])
  failures := failures
  reputation := id
  replanned := sampleProposal

def sampleSchedule : List (Nat × Input) := [(0, sampleTurn []), (1, sampleTurn []), (2, sampleTurn [])]

/-- A failed organisation is paused by the kill switch and resumed into execution. -/
theorem failed_organisation_resumes :
    let run (n : Nat) := (interleave (handle sampleEngine) anyOrder (sampleSchedule.take n)
      (poolOf sampleEngine [.transition .failed, .killSwitch, .resume]) sampleWorld).2.state
    run 1 = .failed ∧ run 2 = .paused ∧ run 3 = .executing ∧
      OrgState.paused ∉ orgTransitions .failed := by
  decide +kernel

end Sample

end States

section Audits

/-- The commands that reach neither the ledger nor the auditor. -/
def Quiet : Cmd → Prop
  | .execute _ _ => False
  | .verifyExecution _ _ => False
  | _ => True

variable {e : Engine} {F : DoubleEntryLedger → Option ActionProposal → Prop}

theorem handle_quiet {c : Cmd} (quiet : Quiet c) (w : World) (i : Input) :
    (handle e c w i).2.executor = w.executor ∧ (handle e c w i).2.rejected = w.rejected := by
  cases c with
  | execute proposal decision => exact quiet.elim
  | verifyExecution proposal receipt => exact quiet.elim
  | transitionOrg toState =>
    simp only [handle]
    split <;> exact ⟨rfl, rfl⟩
  | transitionTask key toStatus =>
    simp only [handle]
    split
    · exact ⟨rfl, rfl⟩
    · split <;> exact ⟨rfl, rfl⟩
  | _ => exact ⟨rfl, rfl⟩

/-- The commands that reach no task, no count of replans, no ledger and no auditor. -/
def Plain : Cmd → Prop
  | .bindAlias _ => False
  | .putTask _ _ => False
  | .taskId _ => False
  | .transitionTask _ _ => False
  | .evaluate _ => False
  | .execute _ _ => False
  | .verifyExecution _ _ => False
  | .bumpReplans _ _ => False
  | _ => True

theorem quiet_of_plain (c : Cmd) (plain : Plain c) : Quiet c := by
  cases c with
  | execute proposal decision => exact plain.elim
  | verifyExecution proposal receipt => exact plain.elim
  | _ => trivial

section Issued
variable {P : Cmd → Prop}

theorem given_issues {condition : Prop} [Decidable condition] {p : Action Unit} (issues : Issues P p) :
    Issues P (given condition p) := by
  unfold given
  split
  · exact issues
  · trivial

theorem moveTask_issues {task : Task} {toStatus : TaskStatus} (move : P (.transitionTask task.id toStatus)) :
    Issues P (moveTask task toStatus) :=
  .bind (.perform move) fun _ => .ofExcept _

variable (plain : ∀ c, Plain c → P c)
include plain

theorem notify_issues (what : String) : Issues P (notify what) :=
  .bind (.perform (plain _ trivial)) fun _ => .ofExcept _

theorem moveOrg_issues (toState : OrgState) : Issues P (moveOrg toState) :=
  .bind (.perform (plain _ trivial)) fun _ => .ofExcept _

theorem recordEach_issues (event : String) (proposal : ActionProposal) (task : Task) :
    Issues P (recordEach event proposal task) := by
  have record (key : String) : Issues P (do ofExcept (← perform (.record event key)) : Action Unit) :=
    .bind (.perform (plain _ trivial)) fun _ => .ofExcept _
  refine .bind (.perform (plain _ trivial)) fun agent => .bind (given_issues (record _)) fun _ => ?_
  refine .bind (.perform (plain _ trivial)) fun agent => .bind (.perform (plain _ trivial)) fun assigned => ?_
  exact given_issues (record _)

theorem escalated_issues (decision : PolicyDecision) : Issues P (escalated decision) := by
  refine .bind (.perform (plain _ trivial)) fun state =>
    .bind (given_issues (moveOrg_issues plain _)) fun _ => ?_
  exact .bind (notify_issues plain _) fun _ => .bind (notify_issues plain _) fun _ => trivial

variable {task : Task} (moves : ∀ toStatus, P (.transitionTask task.id toStatus))
include moves

theorem auditFailed_issues (failures : List String) : Issues P (auditFailed task failures) := by
  refine .bind (moveTask_issues (moves _)) fun _ => .bind (moveOrg_issues plain _) fun _ => ?_
  exact .bind (notify_issues plain _) fun _ => .bind (notify_issues plain _) fun _ => trivial

theorem verified_issues (proposal : ActionProposal) (decision : PolicyDecision)
    (receipt : ExecutionReceipt) : Issues P (verified task proposal decision receipt) := by
  refine .bind (notify_issues plain _) fun _ => .bind (recordEach_issues plain _ _ _) fun _ => ?_
  exact .bind (moveTask_issues (moves _)) fun _ => .bind (notify_issues plain _) fun _ => trivial

theorem abort_issues (proposal : ActionProposal) (decision : PolicyDecision) :
    Issues P (abort task e proposal decision) := by
  refine .bind (recordEach_issues plain _ _ _) fun _ => .bind (moveTask_issues (moves _)) fun _ => ?_
  exact .bind (moveOrg_issues plain _) fun _ => .bind (notify_issues plain _) fun _ => trivial

theorem rejected_issues {actual taskId : String} (bump : P (.bumpReplans actual taskId))
    (proposal : ActionProposal) (decision : PolicyDecision) :
    Issues P (rejected e task actual taskId proposal decision) := by
  refine .bind (moveTask_issues (moves _)) fun _ => .bind (recordEach_issues plain _ _ _) fun _ => ?_
  refine .bind (.perform bump) fun attempts => ?_
  split
  · exact abort_issues plain moves proposal decision
  · refine .bind (notify_issues plain _) fun _ => .bind (moveTask_issues (moves _)) fun _ => ?_
    refine .bind (.perform (plain _ trivial)) fun answered => .bind (.ofExcept _) fun replanned => ?_
    exact .bind (notify_issues plain _) fun _ => trivial

end Issued

theorem submit_issues {P : Cmd → Prop} (plain : ∀ c, Plain c → P c) {taskId : String}
    (start : P (.taskId taskId)) (moves : ∀ key toStatus, P (.transitionTask key toStatus))
    (asks : ∀ proposal, P (.evaluate proposal)) (proposal : ActionProposal) :
    Issues P (submit taskId proposal) := by
  refine .bind (.perform start) fun actual => .bind (.perform (plain _ trivial)) fun found => ?_
  cases found with
  | none => trivial
  | some task =>
    refine .bind (given_issues trivial) fun _ =>
      .bind (given_issues (moveTask_issues (moves _ _))) fun _ => ?_
    refine .bind (notify_issues plain _) fun _ => .bind (.perform (asks _)) fun answered => ?_
    exact .bind (.ofExcept _) fun decision => .bind (notify_issues plain _) fun _ => trivial

variable {opening : DoubleEntryLedger}

/-- What has been rejected has been charged, on top of the ledger before the call. -/
def ChargedRejection (opening : DoubleEntryLedger) (l : DoubleEntryLedger)
    (rejected : Option ActionProposal) : Prop :=
  ∀ proposal, rejected = some proposal → Charged proposal.requestedCredits opening l

/-- A property of the world as a call leaves it at each of its commands. -/
abbrev Leaves (F : DoubleEntryLedger → Option ActionProposal → Prop) (w : World) : Prop :=
  F w.executor.ledger w.rejected

/-- Where a call may be cut: the rejected execution, if there is one, has been charged. -/
abbrev Charges (e : Engine) (opening : DoubleEntryLedger) {α : Type} (Q : α → World → Prop) :
    Action α → World → Prop :=
  Keeps (handle e) (fun _ _ _ => True) (Leaves (ChargedRejection opening)) Q
    fun _ => Leaves (ChargedRejection opening)

theorem quiet_charges {α : Type} {p : Action α} {w : World} (quiet : Issues Quiet p)
    (within : ∀ l rejected, F l rejected → ChargedRejection opening l rejected)
    (now : Leaves F w) : Charges e opening (fun _ => Leaves F) p w := by
  refine Keeps.weaken (Issues.keeps quiet ?_ (fun w => within _ _) now) fun _ w => within _ _
  intro c w i quiet _ now
  obtain ⟨executor, rejected⟩ := handle_quiet (e := e) quiet w i
  unfold Leaves
  rw [executor, rejected]
  exact now

/-- Nothing has been executed yet. -/
def Untouched (opening : DoubleEntryLedger) (l : DoubleEntryLedger)
    (rejected : Option ActionProposal) : Prop := rejected = none ∧ l = opening

/-- The proposal has been executed and not been judged. -/
def Executed (opening : DoubleEntryLedger) (credits : Nat) (l : DoubleEntryLedger)
    (rejected : Option ActionProposal) : Prop := rejected = none ∧ Charged credits opening l

theorem charged_of_none {l : DoubleEntryLedger} : ChargedRejection opening l none := nofun

theorem execute_charges {w : World} {proposal : ActionProposal} {decision : PolicyDecision} {i : Input}
    {receipt : ExecutionReceipt} {s : ExecutorState}
    (done : execute e w proposal decision i = (.ok receipt, s)) :
    Charged proposal.requestedCredits w.executor.ledger s.ledger := by
  unfold execute at done
  split at done
  · exact sandboxExecute_charges done
  · exact externalExecute_charges done

theorem charges_audit {task : Task} {proposal : ActionProposal} {decision : PolicyDecision}
    {receipt : ExecutionReceipt} {w : World}
    (now : Leaves (Executed opening proposal.requestedCredits) w) :
    Charges e opening (fun _ => Leaves (ChargedRejection opening))
      (audit task proposal decision receipt) w := by
  have within : ∀ l rejected, Executed opening proposal.requestedCredits l rejected →
      ChargedRejection opening l rejected := by
    rintro l rejected ⟨rfl, -⟩
    exact charged_of_none
  refine Keeps.bind (quiet_charges (notify_issues quiet_of_plain _) within now) fun _ w now => ?_
  refine Keeps.perform (within _ _ now) fun i answered w' _ step => ?_
  simp only [handle] at step
  split at step
  · obtain ⟨rfl, rfl⟩ := Prod.mk.inj step
    exact within _ _ now
  · obtain ⟨rfl, rfl⟩ := Prod.mk.inj step
    exact quiet_charges (verified_issues quiet_of_plain (fun _ => trivial) _ _ _) (fun _ _ => id)
      (within _ _ now)
  · rename_i failures found _
    obtain ⟨rfl, rfl⟩ := Prod.mk.inj step
    have charged : ChargedRejection opening w.executor.ledger (some proposal) := by
      rintro p same
      obtain rfl := Option.some.inj same
      exact now.2
    rw [ofExcept_ok, ret_bind]
    cases failures with
    | nil => exact absurd rfl found
    | cons failure failures =>
      exact quiet_charges (auditFailed_issues quiet_of_plain (fun _ => trivial) _) (fun _ _ => id) charged

theorem charges_approved {task : Task} {proposal : ActionProposal} {decision : PolicyDecision} {w : World}
    (now : Leaves (Untouched opening) w) :
    Charges e opening (fun _ => Leaves (ChargedRejection opening)) (approved task proposal decision) w := by
  have within : ∀ l rejected, Untouched opening l rejected → ChargedRejection opening l rejected := by
    rintro l rejected ⟨rfl, -⟩
    exact charged_of_none
  refine Keeps.bind (quiet_charges (moveTask_issues trivial) within now) fun _ w now => ?_
  refine Keeps.perform (within _ _ now) fun i answered w' _ step => ?_
  obtain ⟨unjudged, same⟩ := now
  rcases outcome : execute e w proposal decision i with ⟨error | receipt, s⟩
  · simp only [handle, outcome] at step
    obtain ⟨rfl, rfl⟩ := Prod.mk.inj step
    show ChargedRejection opening s.ledger w.rejected
    rw [unjudged]
    exact charged_of_none
  · simp only [handle, outcome] at step
    obtain ⟨rfl, rfl⟩ := Prod.mk.inj step
    exact charges_audit ⟨unjudged, same ▸ execute_charges outcome⟩

/-- Wherever a call is cut, a rejected execution has been charged. -/
theorem processActionProposal_charges (depth : Nat) (taskId : String) (proposal : ActionProposal)
    {w : World} (now : Leaves (Untouched opening) w) :
    Charges e opening (fun _ => Leaves (ChargedRejection opening))
      (processActionProposal e depth taskId proposal) w := by
  have within : ∀ l rejected, Untouched opening l rejected → ChargedRejection opening l rejected := by
    rintro l rejected ⟨rfl, -⟩
    exact charged_of_none
  induction depth generalizing taskId proposal w with
  | zero => exact within _ _ now
  | succ depth ih =>
    have quiet : Issues Quiet (submit taskId proposal) :=
      submit_issues quiet_of_plain trivial (fun _ _ => trivial) (fun _ => trivial) proposal
    refine Keeps.bind (quiet_charges quiet within now) ?_
    rintro ⟨actual, task, proposal, decision⟩ w now
    dsimp only
    split
    · exact charges_approved now
    · have quiet : Issues Quiet (rejected e task actual taskId proposal decision) :=
        rejected_issues quiet_of_plain (fun _ => trivial) trivial proposal decision
      exact Keeps.bind (quiet_charges quiet within now)
        fun replanned w now => ih actual replanned now
    · exact Keeps.mono (quiet_charges (escalated_issues quiet_of_plain _) within now) fun _ w => within _ _

/-- For every engine, proposal and answers from outside: once the auditor has rejected an
execution, the balances are those before it if and only if it has cost nothing. -/
theorem rejected_audit_balances (e : Engine) (depth : Nat) (taskId : String) (proposal : ActionProposal)
    (w : World) (is : List Input) :
    let left_ := (advance (handle e) is (processActionProposal e depth taskId proposal)
      { w with rejected := none }).2
    ∀ rejected, left_.rejected = some rejected →
      ((∀ account, left_.executor.ledger.getBalance account = w.executor.ledger.getBalance account) ↔
        rejected.requestedCredits = 0) := by
  intro left_ rejected judged
  have charges := @processActionProposal_charges e w.executor.ledger depth taskId proposal
    { w with rejected := none } ⟨rfl, rfl⟩
  have kept := charges.advance (fun _ _ => id) (fun _ _ => id) is
    (Legal.always _ (fun _ _ _ => trivial) is _ _)
  exact (kept rejected judged).balances_iff

section Sample

def rejectedRun : Prog Cmd Resp PyError (PolicyDecision × Option ExecutionReceipt) × World :=
  advance (handle sampleEngine) (List.replicate 40 (sampleTurn ["Organisation is in PAUSED state"]))
    (processActionProposal sampleEngine 10 "task-1" sampleProposal) sampleWorld

/-- The auditor rejects an execution that cost twenty credits; the run is over, and they are
with the external sink. -/
theorem rejected_audit_not_refunded :
    rejectedRun.1.Ended ∧ rejectedRun.2.rejected.isSome ∧ rejectedRun.2.state = .failed ∧
    sampleWorld.executor.ledger.getBalance treasury = 60 ∧
    rejectedRun.2.executor.ledger.getBalance treasury = 40 ∧
    rejectedRun.2.executor.ledger.getBalance externalSink = 20 := by
  decide +kernel

end Sample

end Audits

end Orchestration
