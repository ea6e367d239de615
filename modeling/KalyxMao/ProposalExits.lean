import KalyxMao.Orchestration
import KalyxMao.ProgramExits

/-!
# Where a proposal leaves its task

A call on a proposal moves its task around calls of other components, each of
which may raise. Nothing is caught, so what is left behind is the status the task
had when the exception came: the states between a decision and what follows from
it have no way back to a proposal.
-/

namespace ProposalExits
open EffectPrograms EffectPrograms.Prog ProgramExits Domain Orchestration

section Property

def errorOf {α : Type} : Except PythonText.PyError α → Option PythonText.PyError
  | .ok _ => none
  | .error err => some err

/-- The exception that a command is answered with. -/
def failure : (c : Cmd) → Resp c → Option PythonText.PyError
  | .orgState, _ => none
  | .transitionOrg _, r => errorOf r
  | .triggerKillSwitch, r => errorOf r
  | .resumeFromPause, r => errorOf r
  | .notify _, r => errorOf r
  | .createInitialPlan, r => errorOf r
  | .bindAlias _, _ => none
  | .assignAndAllocate _, r => errorOf r
  | .putTask _ _, _ => none
  | .taskId _, _ => none
  | .task _, _ => none
  | .transitionTask _ _, r => errorOf r
  | .evaluate _, r => errorOf r
  | .agent _, _ => none
  | .record _ _, r => errorOf r
  | .execute _ _, r => errorOf r
  | .verifyExecution _ _, r => errorOf r
  | .bumpReplans _ _, _ => none
  | .replanAfterRejection _ _ _, r => errorOf r
  | .reviewMission, r => errorOf r

/-- `COMPLETED` and `FAILED`, and the states in which a proposal may be submitted. A decision on an
escalation is taken in `SUBMITTED`. -/
def Resumable (status : TaskStatus) : Prop :=
  status = .completed ∨ status = .failed ∨ status = .submitted ∨ .submitted ∈ taskTransitions status

instance (status : TaskStatus) : Decidable (Resumable status) :=
  inferInstanceAs (Decidable (_ ∨ _ ∨ _ ∨ _))

/-- The states between a decision and what follows from it. -/
def Undecided (status : TaskStatus) : Prop := status = .approved ∨ status = .rejected

instance (status : TaskStatus) : Decidable (Undecided status) := inferInstanceAs (Decidable (_ ∨ _))

def taskStatus (w : World) (key : String) : Option TaskStatus := (w.tasks.lookup key).map Task.status

/-- The registry keeps every task under its own id. -/
def Registered (w : World) : Prop := ∀ key task, w.tasks.lookup key = some task → task.id = key

variable (e : Engine)

/-- Nothing raises while the task is approved or rejected. -/
def Unraised (key : String) (c : Cmd) (w : World) (i : Input) : Prop :=
  ∀ status ∈ taskStatus w key, Undecided status → failure c (handle e c w i).1 = none

instance (key : String) (c : Cmd) (w : World) (i : Input) : Decidable (Unraised e key c w i) :=
  inferInstanceAs (Decidable (∀ status ∈ taskStatus w key, Undecided status → _))

end Property

section Raising
variable {e : Engine} {α : Type}

theorem errorOf_isSome {r : Except PythonText.PyError α} (failed : (errorOf r).isSome) :
    ∃ err, r = .error err := by
  cases r with
  | ok a => cases failed
  | error err => exact ⟨err, rfl⟩

theorem errorOf_none {r : Except PythonText.PyError α} (fine : errorOf r = none) : ∃ a, r = .ok a := by
  cases r with
  | ok a => exact ⟨a, rfl⟩
  | error err => cases fine

/-- The answer is read as a result or an exception at once. -/
theorem raises_ofExcept {β : Type} {r : Except PythonText.PyError α} {f : α → Action β}
    (failed : (errorOf r).isSome) : ∃ err, (ofExcept r >>= f) = .raise err := by
  obtain ⟨err, rfl⟩ := errorOf_isSome failed
  exact ⟨err, rfl⟩

theorem raises_end {r : Except PythonText.PyError α} (failed : (errorOf r).isSome) :
    ∃ err, (ofExcept r : Action α) = .raise err := by
  obtain ⟨err, rfl⟩ := errorOf_isSome failed
  exact ⟨err, rfl⟩

theorem strict_notify (what : String) : Strict failure (notify what) :=
  .attempt (fun _ => raises_end) fun _ => .ofExcept _

theorem strict_moveOrg (toState : TokenBinding.OrgState) : Strict failure (moveOrg toState) :=
  .attempt (fun _ => raises_end) fun _ => .ofExcept _

theorem strict_moveTask (task : Task) (toStatus : TaskStatus) : Strict failure (moveTask task toStatus) :=
  .attempt (fun _ => raises_end) fun _ => .ofExcept _

theorem strict_given {condition : Prop} [Decidable condition] {p : Action Unit}
    (strict : Strict failure p) : Strict failure (given condition p) := by
  unfold given
  split
  · exact strict
  · trivial

theorem strict_recordEach (event : String) (proposal : ActionProposal) (task : Task) :
    Strict failure (recordEach event proposal task) := by
  have record (key : String) :
      Strict failure (do ofExcept (← perform (.record event key)) : Action Unit) :=
    .attempt (fun _ => raises_end) fun _ => .ofExcept _
  refine .bind (.perform fun _ => rfl) fun agent => .bind (strict_given (record _)) fun _ => ?_
  refine .bind (.perform fun _ => rfl) fun agent => .bind (.perform fun _ => rfl) fun assigned => ?_
  exact strict_given (record _)

theorem strict_audit (task : Task) (proposal : ActionProposal) (decision : PolicyDecision)
    (receipt : ExecutionReceipt) : Strict failure (audit task proposal decision receipt) := by
  refine .bind (strict_notify _) fun _ => .attempt (fun _ => raises_ofExcept) fun answered => ?_
  refine .bind (.ofExcept _) fun failures => ?_
  cases failures with
  | nil =>
    refine .bind (strict_notify _) fun _ => .bind (strict_recordEach _ _ _) fun _ => ?_
    exact .bind (strict_moveTask _ _) fun _ => .bind (strict_notify _) fun _ => trivial
  | cons failed failures =>
    refine .bind (strict_moveTask _ _) fun _ => .bind (strict_moveOrg _) fun _ => ?_
    exact .bind (strict_notify _) fun _ => .bind (strict_notify _) fun _ => trivial

theorem strict_approved (task : Task) (proposal : ActionProposal) (decision : PolicyDecision) :
    Strict failure (approved task proposal decision) := by
  refine .bind (strict_moveTask _ _) fun _ => .attempt (fun _ => raises_ofExcept) fun answered => ?_
  exact .bind (.ofExcept _) fun receipt => strict_audit task proposal decision receipt

theorem strict_rejected (task : Task) (actual taskId : String) (proposal : ActionProposal)
    (decision : PolicyDecision) : Strict failure (rejected e task actual taskId proposal decision) := by
  refine .bind (strict_moveTask _ _) fun _ => .bind (strict_recordEach _ _ _) fun _ => ?_
  refine .bind (.perform fun _ => rfl) fun attempts => ?_
  split
  · refine .bind (strict_recordEach _ _ _) fun _ => .bind (strict_moveTask _ _) fun _ => ?_
    exact .bind (strict_moveOrg _) fun _ => .bind (strict_notify _) fun _ => trivial
  · refine .bind (strict_notify _) fun _ => .bind (strict_moveTask _ _) fun _ => ?_
    refine .attempt (fun _ => raises_ofExcept) fun answered => .bind (.ofExcept _) fun replanned => ?_
    exact .bind (strict_notify _) fun _ => trivial

theorem strict_escalated (decision : PolicyDecision) : Strict failure (escalated decision) := by
  refine .bind (.perform fun _ => rfl) fun state => .bind (strict_given (strict_moveOrg _)) fun _ => ?_
  exact .bind (strict_notify _) fun _ => .bind (strict_notify _) fun _ => trivial

theorem strict_submit (taskId : String) (proposal : ActionProposal) :
    Strict failure (submit taskId proposal) := by
  refine .bind (.perform fun _ => rfl) fun actual => .bind (.perform fun _ => rfl) fun found => ?_
  cases found with
  | none => trivial
  | some task =>
    refine .bind (strict_given trivial) fun _ => .bind (strict_given (strict_moveTask _ _)) fun _ => ?_
    refine .bind (strict_notify _) fun _ => .attempt (fun _ => raises_ofExcept) fun answered => ?_
    exact .bind (.ofExcept _) fun decision => .bind (strict_notify _) fun _ => trivial

/-- No exception is caught on the way. -/
theorem strict_processActionProposal (depth : Nat) (taskId : String) (proposal : ActionProposal) :
    Strict failure (processActionProposal e depth taskId proposal) := by
  induction depth generalizing taskId proposal with
  | zero => trivial
  | succ depth ih =>
    refine .bind (strict_submit _ _) ?_
    rintro ⟨actual, task, proposal, decision⟩
    dsimp only
    split
    · exact strict_approved task proposal decision
    · exact .bind (strict_rejected _ _ _ _ _) fun replanned => ih actual replanned
    · exact strict_escalated decision

theorem firm_notify (what : String) : Firm failure (notify what) := by
  intro r fine
  obtain ⟨a, rfl⟩ := errorOf_none fine
  trivial

theorem firm_given {condition : Prop} [Decidable condition] {p : Action Unit} (firm : Firm failure p) :
    Firm failure (given condition p) := by
  unfold given
  split
  · exact firm
  · trivial

theorem firm_recordEach (event : String) (proposal : ActionProposal) (task : Task) :
    Firm failure (recordEach event proposal task) := by
  have record (key : String) :
      Firm failure (do ofExcept (← perform (.record event key)) : Action Unit) := by
    intro r fine
    obtain ⟨a, rfl⟩ := errorOf_none fine
    trivial
  have ask (key : String) : Firm failure (agentOf key) := fun _ _ => trivial
  refine (ask _).bind fun agent => (firm_given (record _)).bind fun _ => ?_
  exact (ask _).bind fun agent => (ask _).bind fun assigned => firm_given (record _)

end Raising

section Statuses
variable {e : Engine} {key : String} {w : World}

theorem lookup_put_self {β : Type} (items : List (String × β)) (key : String) (value : β) :
    (put items key value).lookup key = some value := by
  rw [put, List.lookup_cons, beq_self_eq_true]

theorem lookup_put_ne {β : Type} (items : List (String × β)) {key other : String} (ne : other ≠ key)
    (value : β) : (put items key value).lookup other = items.lookup other := by
  have away : (other == key) = false := beq_eq_false_iff_ne.mpr ne
  rw [put, List.lookup_cons, away]
  dsimp only
  induction items with
  | nil => rfl
  | cons item items ih =>
    by_cases here : item.1 = key
    · have passed : (other == item.1) = false := beq_eq_false_iff_ne.mpr (here ▸ ne)
      rw [List.filter_cons_of_neg (by simpa using here), ih, List.lookup_cons, passed]
    · rw [List.filter_cons_of_pos (by simpa using here), List.lookup_cons, List.lookup_cons, ih]

/-- The commands that leave the task under a key as it is. -/
def Apart (key : String) : Cmd → Prop
  | .putTask _ task => task.id ≠ key
  | .transitionTask other _ => other ≠ key
  | _ => True

theorem apart_of_plain (c : Cmd) (plain : Plain c) : Apart key c := by
  cases c with
  | putTask logicalId task => exact plain.elim
  | transitionTask other toStatus => exact plain.elim
  | _ => trivial

theorem handle_apart {c : Cmd} (apart : Apart key c) (w : World) (i : Input) :
    (handle e c w i).2.tasks.lookup key = w.tasks.lookup key := by
  cases c with
  | putTask logicalId task => exact lookup_put_ne w.tasks (Ne.symm apart) task
  | transitionTask other toStatus =>
    simp only [handle]
    split
    · rfl
    · split
      · rfl
      · exact lookup_put_ne w.tasks (Ne.symm apart) _
  | transitionOrg toState =>
    simp only [handle]
    split <;> rfl
  | execute proposal decision =>
    simp only [handle]
    split <;> rfl
  | verifyExecution proposal receipt =>
    simp only [handle]
    split <;> rfl
  | _ => rfl

/-- A failing command leaves every task as it is. -/
theorem handle_failed {c : Cmd} {i : Input} (failed : (failure c (handle e c w i).1).isSome) :
    (handle e c w i).2.tasks = w.tasks := by
  cases c with
  | putTask logicalId task => cases failed
  | transitionTask other toStatus =>
    revert failed
    simp only [handle]
    split
    · exact fun _ => rfl
    · split
      · exact fun _ => rfl
      · intro failed
        cases failed
  | transitionOrg toState =>
    simp only [handle]
    split <;> rfl
  | execute proposal decision =>
    simp only [handle]
    split <;> rfl
  | verifyExecution proposal receipt =>
    simp only [handle]
    split <;> rfl
  | _ => rfl

theorem handle_registered (registered : Registered w) (c : Cmd) (i : Input) :
    Registered (handle e c w i).2 := by
  have put_registered (task : Task) (k : String) (t : Task)
      (found : (put w.tasks task.id task).lookup k = some t) : t.id = k := by
    by_cases here : k = task.id
    · rw [here, lookup_put_self] at found
      rw [← Option.some.inj found, here]
    · rw [lookup_put_ne _ here] at found
      exact registered k t found
  cases c with
  | putTask logicalId task => exact put_registered task
  | transitionTask other toStatus =>
    simp only [handle]
    split
    · exact registered
    · rename_i task found
      split
      · exact registered
      · rename_i task' moved
        have same : task'.id = other := by
          rw [transitionTask] at moved
          split_ifs at moved
          rw [← Except.ok.inj moved]
          exact registered other task found
        rw [← same]
        exact put_registered task'
  | transitionOrg toState =>
    simp only [handle]
    split <;> exact registered
  | execute proposal decision =>
    simp only [handle]
    split <;> exact registered
  | verifyExecution proposal receipt =>
    simp only [handle]
    split <;> exact registered
  | _ => exact registered

/-- The task under a key is there, with a status of a kind. -/
structure In (key : String) (P : TaskStatus → Prop) (w : World) : Prop where
  registered : Registered w
  found : ∃ task, w.tasks.lookup key = some task ∧ P task.status

theorem In.mono {P Q : TaskStatus → Prop} (now : In key P w) (weaker : ∀ status, P status → Q status) :
    In key Q w := by
  obtain ⟨task, found, holds⟩ := now.found
  exact ⟨now.registered, task, found, weaker _ holds⟩

theorem In.status {P : TaskStatus → Prop} (now : In key P w) :
    ∃ status, taskStatus w key = some status ∧ P status := by
  obtain ⟨task, found, holds⟩ := now.found
  exact ⟨task.status, by rw [taskStatus, found]; rfl, holds⟩

theorem In.handle {P : TaskStatus → Prop} {c : Cmd} (now : In key P w) (apart : Apart key c) (i : Input) :
    In key P (handle e c w i).2 := by
  obtain ⟨task, found, holds⟩ := now.found
  exact ⟨handle_registered now.registered c i, task, by rw [handle_apart apart, found], holds⟩

/-- A transition of the task along the table. -/
theorem In.move {status toStatus : TaskStatus} (now : In key (· = status) w)
    (legal : toStatus ∈ taskTransitions status) (i : Input) :
    (Orchestration.handle e (.transitionTask key toStatus) w i).1 = .ok () ∧
      In key (· = toStatus) (Orchestration.handle e (.transitionTask key toStatus) w i).2 := by
  obtain ⟨task, found, rfl⟩ := now.found
  have registered := handle_registered (e := e) now.registered (.transitionTask key toStatus) i
  have moved : transitionTask task toStatus = .ok { task with status := toStatus } := if_pos legal
  revert registered
  simp only [Orchestration.handle, found, moved]
  intro registered
  exact ⟨trivial, registered, _, lookup_put_self _ _ _, rfl⟩

end Statuses

section Exits
variable {e : Engine} {key : String} {w : World} {α : Type} {P : TaskStatus → Prop}

/-- Where nothing raises in between, a program leaves the task resumable when it raises. -/
abbrev Leaves (e : Engine) (key : String) (Q : α → World → Prop) : Action α → World → Prop :=
  Keeps (handle e) (Unraised e key) (fun _ => True) Q fun _ => In key Resumable

theorem leaves_apart {p : Action α} (apart : Issues (Apart key) p) (now : In key P w)
    (resumable : ∀ status, P status → Resumable status) : Leaves e key (fun _ => In key P) p w := by
  refine Keeps.weaken (Issues.keeps apart ?_ (fun _ _ => trivial) now)
    fun _ w after => after.mono resumable
  exact fun c w i apart _ now => now.handle apart i

/-- Between a decision and what follows from it nothing raises. -/
theorem leaves_undecided {p : Action α} {status : TaskStatus} (undecided : Undecided status)
    (firm : Firm failure p) (apart : Issues (Apart key) p) (now : In key (· = status) w) :
    Leaves e key (fun _ => In key (· = status)) p w := by
  refine Keeps.weaken (Firm.keeps firm apart ?_ ?_ (fun _ _ => trivial) now) fun _ _ => False.elim
  · rintro c w i now unraised
    obtain ⟨status', there, rfl⟩ := now.status
    exact unraised status' there undecided
  · exact fun c w i apart now => now.handle apart i

theorem leaves_move {task : Task} {status toStatus : TaskStatus} (own : task.id = key)
    (legal : toStatus ∈ taskTransitions status) (now : In key (· = status) w) :
    Leaves e key (fun _ => In key (· = toStatus)) (moveTask task toStatus) w := by
  subst own
  refine ⟨trivial, fun i _ => ?_⟩
  obtain ⟨answered, after⟩ := now.move (e := e) legal i
  rw [answered]
  exact after

theorem plain_apart {p : Action α} (issues : ∀ {P : Cmd → Prop}, (∀ c, Plain c → P c) → Issues P p) :
    Issues (Apart key) p := issues apart_of_plain

/-- An answer that comes while the task is undecided is no exception. -/
theorem leaves_ask {β : Type} {c : Cmd} {f : Resp c → Action β} {Q : β → World → Prop} {status : TaskStatus}
    (undecided : Undecided status) (apart : Apart key c) (now : In key (· = status) w)
    (rest : ∀ r w', failure c r = none → In key (· = status) w' → Leaves e key Q (f r) w') :
    Leaves e key Q (perform c >>= f) w := by
  refine ⟨trivial, fun i unraised => ?_⟩
  obtain ⟨status', there, rfl⟩ := now.status
  exact rest _ _ (unraised status' there undecided) (now.handle apart i)

theorem approved_undecided : Undecided .approved := .inl rfl

theorem rejected_undecided : Undecided .rejected := .inr rfl

/-- An audited receipt completes the task, or fails it. -/
theorem leaves_audit {task : Task} {proposal : ActionProposal} {decision : PolicyDecision}
    {receipt : Domain.ExecutionReceipt} (own : task.id = key) (now : In key (· = .approved) w) :
    Leaves e key (fun _ => In key Resumable) (audit task proposal decision receipt) w := by
  have completed : ∀ status, status = .completed → Resumable status := fun _ => .inl
  have failed : ∀ status, status = .failed → Resumable status := fun _ same => .inr (.inl same)
  have notified (what : String) : Issues (Apart key) (notify what) := notify_issues apart_of_plain what
  refine Keeps.bind (leaves_undecided approved_undecided (firm_notify _) (notified _) now)
    fun _ w now => ?_
  refine leaves_ask approved_undecided trivial now fun r w fine now => ?_
  obtain ⟨failures, rfl⟩ := errorOf_none fine
  cases failures with
  | nil =>
    show Leaves e key _ (verified task proposal decision receipt) w
    refine Keeps.bind (leaves_undecided approved_undecided (firm_notify _) (notified _) now)
      fun _ w now => ?_
    refine Keeps.bind (leaves_undecided approved_undecided (firm_recordEach _ _ _)
      (recordEach_issues apart_of_plain _ _ _) now) fun _ w now => ?_
    refine Keeps.bind (leaves_move own (by decide) now) fun _ w now => ?_
    exact Keeps.bind (leaves_apart (notified _) now completed) fun _ w now => now.mono completed
  | cons first failures =>
    show Leaves e key _ (auditFailed task (first :: failures)) w
    refine Keeps.bind (leaves_move own (by decide) now) fun _ w now => ?_
    refine Keeps.bind (leaves_apart (moveOrg_issues apart_of_plain _) now failed) fun _ w now => ?_
    refine Keeps.bind (leaves_apart (notified _) now failed) fun _ w now => ?_
    exact Keeps.bind (leaves_apart (notified _) now failed) fun _ w now => now.mono failed

theorem leaves_approved {task : Task} {proposal : ActionProposal} {decision : PolicyDecision}
    (own : task.id = key) (now : In key (· = .submitted) w) :
    Leaves e key (fun _ => In key Resumable) (approved task proposal decision) w := by
  refine Keeps.bind (leaves_move own (by decide) now) fun _ w now => ?_
  refine leaves_ask approved_undecided trivial now fun r w fine now => ?_
  obtain ⟨receipt, rfl⟩ := errorOf_none fine
  exact leaves_audit own now

theorem leaves_rejected {task : Task} {actual taskId : String} {proposal : ActionProposal}
    {decision : PolicyDecision} (own : task.id = key) (now : In key (· = .submitted) w) :
    Leaves e key (fun _ => In key (· = .inProgress)) (rejected e task actual taskId proposal decision) w := by
  have failed : ∀ status, status = .failed → Resumable status := fun _ same => .inr (.inl same)
  have progress : ∀ status, status = .inProgress → Resumable status := by
    rintro _ rfl
    decide
  have notified (what : String) : Issues (Apart key) (notify what) := notify_issues apart_of_plain what
  have recorded (event : String) : Issues (Apart key) (recordEach event proposal task) :=
    recordEach_issues apart_of_plain event proposal task
  refine Keeps.bind (leaves_move own (by decide) now) fun _ w now => ?_
  refine Keeps.bind (leaves_undecided rejected_undecided (firm_recordEach _ _ _) (recorded _) now)
    fun _ w now => ?_
  refine leaves_ask rejected_undecided trivial now fun attempts w _ now => ?_
  split
  · refine Keeps.bind (leaves_undecided rejected_undecided (firm_recordEach _ _ _) (recorded _) now)
      fun _ w now => ?_
    refine Keeps.bind (leaves_move own (by decide) now) fun _ w now => ?_
    refine Keeps.bind (leaves_apart (moveOrg_issues apart_of_plain _) now failed) fun _ w now => ?_
    exact Keeps.bind (leaves_apart (notified _) now failed) fun _ w now => now.mono failed
  · refine Keeps.bind (leaves_undecided rejected_undecided (firm_notify _) (notified _) now)
      fun _ w now => ?_
    refine Keeps.bind (leaves_move own (by decide) now) fun _ w now => ?_
    refine leaves_apart (P := (· = .inProgress)) ?_ now progress
    refine .bind (.perform trivial) fun answered => .bind (.ofExcept _) fun replanned => ?_
    exact .bind (notified _) fun _ => trivial

/-- A transition off the table raises and changes nothing. -/
theorem leaves_stay {task : Task} {status toStatus : TaskStatus} {Q : Unit → World → Prop}
    (own : task.id = key) (illegal : toStatus ∉ taskTransitions status) (now : In key (· = status) w)
    (resumable : Resumable status) : Leaves e key Q (moveTask task toStatus) w := by
  subst own
  refine ⟨trivial, fun i _ => ?_⟩
  obtain ⟨stored, found, rfl⟩ := now.found
  have refused : transitionTask stored toStatus = .error _ := if_neg illegal
  simp only [handle, found, refused]
  exact now.mono fun _ same => same ▸ resumable

/-- The task is submitted; another one stays as it was. -/
theorem leaves_resubmit {task : Task} (now : In key Resumable w)
    (there : w.tasks.lookup task.id = some task) :
    Leaves e key (fun _ => In key fun status => Resumable status ∧ (task.id = key → status = .submitted))
      (given (task.status ≠ .submitted) (moveTask task .submitted)) w := by
  by_cases own : task.id = key
  · obtain ⟨stored, found, resumable⟩ := now.found
    have same : task = stored := Option.some.inj (there.symm.trans (own ▸ found))
    subst same
    have here : In key (· = task.status) w := ⟨now.registered, task, found, rfl⟩
    have moved : Leaves e key (fun _ => In key (· = .submitted))
        (given (task.status ≠ .submitted) (moveTask task .submitted)) w := by
      by_cases already : task.status = .submitted
      · rw [given, if_neg (not_not.mpr already)]
        rw [already] at here
        exact here
      · rw [given, if_pos already]
        by_cases legal : TaskStatus.submitted ∈ taskTransitions task.status
        · exact leaves_move own legal here
        · exact leaves_stay own legal here resumable
    refine Keeps.mono moved fun _ w now => now.mono ?_
    rintro _ rfl
    exact ⟨by decide, fun _ => rfl⟩
  · refine leaves_apart (given_issues (moveTask_issues own)) (now.mono fun status resumable => ?_)
      fun _ => And.left
    exact ⟨resumable, fun same => absurd same own⟩

/-- The two requests that find a task read the tasks and leave the world as it is. -/
theorem task_found (taskId : String) (w : World) (i j : Input) :
    handle e (.task (handle e (.taskId taskId) w i).1) (handle e (.taskId taskId) w i).2 j =
      (w.tasks.lookup (w.resolve (w.resolve taskId)), w) := rfl

/-- From the lookup to the decision: the task is submitted, or another one is. -/
theorem leaves_submit {taskId : String} {proposal : ActionProposal} (now : In key Resumable w) :
    Leaves e key (fun r => In key fun status => Resumable status ∧ (r.2.1.id = key → status = .submitted))
      (submit taskId proposal) w := by
  have notified (what : String) : Issues (Apart key) (notify what) := notify_issues apart_of_plain what
  refine ⟨trivial, fun i _ => ⟨trivial, fun j _ => ?_⟩⟩
  rw [task_found taskId w i j]
  cases there : w.tasks.lookup (w.resolve (w.resolve taskId)) with
  | none => exact now
  | some task =>
    have id := now.registered _ _ there
    rw [← id] at there
    show Leaves e key _ (given (task.status = .failed) _ >>= _) w
    by_cases failed : task.status = .failed
    · rw [given, if_pos failed]
      exact now
    · rw [given, if_neg failed, pure_eq, ret_bind]
      refine Keeps.bind (leaves_resubmit now there) fun _ w now => ?_
      refine Keeps.bind (leaves_apart (notified _) now fun _ => And.left) fun _ w now => ?_
      refine Keeps.bind (leaves_apart (.perform trivial) now fun _ => And.left) fun r w now => ?_
      refine Keeps.bind (leaves_apart (.ofExcept _) now fun _ => And.left) fun decision w now => ?_
      exact Keeps.bind (leaves_apart (notified _) now fun _ => And.left) fun _ w now => now

theorem approved_issues {R : Cmd → Prop} (plain : ∀ c, Plain c → R c) {task : Task}
    (moves : ∀ toStatus, R (.transitionTask task.id toStatus))
    (executes : ∀ proposal decision, R (.execute proposal decision))
    (verifies : ∀ proposal receipt, R (.verifyExecution proposal receipt)) (proposal : ActionProposal)
    (decision : PolicyDecision) : Issues R (approved task proposal decision) := by
  refine .bind (moveTask_issues (moves _)) fun _ => .bind (.perform (executes _ _)) fun answered => ?_
  refine .bind (.ofExcept _) fun receipt => .bind (notify_issues plain _) fun _ => ?_
  refine .bind (.perform (verifies _ _)) fun answered => .bind (.ofExcept _) fun failures => ?_
  cases failures with
  | nil => exact verified_issues plain moves proposal decision receipt
  | cons first failures => exact auditFailed_issues plain moves (first :: failures)

/-- Where nothing raises between a decision and what follows from it, every exit leaves the task
resumable. -/
theorem leaves_processActionProposal (depth : Nat) (taskId : String) (proposal : ActionProposal)
    (now : In key Resumable w) :
    Leaves e key (fun _ => In key Resumable) (processActionProposal e depth taskId proposal) w := by
  induction depth generalizing taskId proposal w with
  | zero => exact now
  | succ depth ih =>
    refine Keeps.bind (leaves_submit now) ?_
    rintro ⟨actual, task, proposal, decision⟩ w now
    have resumable : In key Resumable w := now.mono fun _ => And.left
    by_cases own : task.id = key
    · have submitted : In key (· = .submitted) w := now.mono fun _ both => both.2 own
      dsimp only
      split
      · exact leaves_approved own submitted
      · refine Keeps.bind (leaves_rejected own submitted) fun replanned w now => ih actual replanned ?_
        refine now.mono ?_
        rintro _ rfl
        decide
      · exact leaves_apart (escalated_issues apart_of_plain decision) resumable fun _ => (·)
    · have moves : ∀ toStatus, Apart key (.transitionTask task.id toStatus) := fun _ => own
      dsimp only
      split
      · have apart : Issues (Apart key) (approved task proposal decision) :=
          approved_issues apart_of_plain moves (fun _ _ => trivial) (fun _ _ => trivial) proposal decision
        exact leaves_apart apart resumable fun _ => (·)
      · have apart : Issues (Apart key) (rejected e task actual taskId proposal decision) :=
          rejected_issues apart_of_plain moves trivial proposal decision
        exact Keeps.bind (leaves_apart apart resumable fun _ => (·))
          fun replanned w now => ih actual replanned now
      · exact leaves_apart (escalated_issues apart_of_plain decision) resumable fun _ => (·)

theorem unraised_broken {c : Cmd} {i : Input} (broken : ¬Unraised e key c w i) :
    (∃ status, taskStatus w key = some status ∧ Undecided status) ∧
      (failure c (handle e c w i).1).isSome := by
  unfold Unraised at broken
  push Not at broken
  obtain ⟨status, found, undecided, raised⟩ := broken
  exact ⟨⟨status, found, undecided⟩, Option.isSome_iff_ne_none.mpr raised⟩

theorem not_resumable_of_undecided {status : TaskStatus} (undecided : Undecided status) :
    ¬Resumable status := by
  rcases undecided with rfl | rfl
  · decide
  · decide

/-- A call that finds its task in another state raises and changes nothing. -/
theorem submit_refused {task : Task} {taskId : String} {proposal : ActionProposal}
    (there : w.tasks.lookup (w.resolve (w.resolve taskId)) = some task) (registered : Registered w)
    (stuck : ¬Resumable task.status) :
    Keeps (handle e) (fun _ _ _ => True) (fun _ => True) (fun _ _ => False) (fun _ w' => w' = w)
      (submit taskId proposal) w := by
  have id := registered _ _ there
  have unfailed : task.status ≠ .failed := fun same => stuck (.inr (.inl same))
  have unsubmitted : task.status ≠ .submitted := fun same => stuck (.inr (.inr (.inl same)))
  have refused : transitionTask task .submitted = .error _ :=
    if_neg fun legal => stuck (.inr (.inr (.inr legal)))
  refine ⟨trivial, fun i _ => ⟨trivial, fun j _ => ?_⟩⟩
  rw [task_found taskId w i j, there]
  show Keeps _ _ _ _ _ (given (task.status = .failed) _ >>= _) w
  rw [given, if_neg unfailed, pure_eq, ret_bind, given, if_pos unsubmitted]
  refine ⟨trivial, fun i _ => ?_⟩
  rw [← id] at there
  simp only [handle, there, refused]
  rfl

theorem process_refused {task : Task} {depth : Nat} {taskId : String} {proposal : ActionProposal}
    (there : w.tasks.lookup (w.resolve (w.resolve taskId)) = some task) (registered : Registered w)
    (stuck : ¬Resumable task.status) (is : List Input)
    (ended : (advance (handle e) is (processActionProposal e depth taskId proposal) w).1.Ended) :
    (advance (handle e) is (processActionProposal e depth taskId proposal) w).2 = w := by
  have stays : Keeps (handle e) (fun _ _ _ => True) (fun _ => True) (fun _ _ => False) (fun _ w' => w' = w)
      (processActionProposal e depth taskId proposal) w := by
    cases depth with
    | zero => rfl
    | succ depth => exact Keeps.bind (submit_refused there registered stuck) fun _ _ => False.elim
  have outcome := stays.outcome is (.always _ (fun _ _ _ => trivial) is _ _)
  revert outcome ended
  rcases advance (handle e) is (processActionProposal e depth taskId proposal) w with ⟨_ | _ | _, w'⟩
  · exact fun _ => False.elim
  · exact fun _ => (·)
  · exact fun ended => ended.elim

/-- For every engine, task, proposal and behaviour of the components, a call that has ended leaves
its task completed, failed, or open to a proposal, if and only if it found the task so and nothing
raised while the task was approved or rejected. -/
theorem exit_resumable_iff (e : Engine) (depth : Nat) (taskId : String) (proposal : ActionProposal)
    (w : World) (is : List Input) (task : Task) (registered : Registered w)
    (there : w.tasks.lookup (w.resolve (w.resolve taskId)) = some task)
    (ended : (advance (handle e) is (processActionProposal e depth taskId proposal) w).1.Ended) :
    (∀ status, taskStatus (advance (handle e) is (processActionProposal e depth taskId proposal) w).2
        task.id = some status → Resumable status) ↔
      Resumable task.status ∧
        Legal (handle e) (Unraised e task.id) is (processActionProposal e depth taskId proposal) w := by
  have id := registered _ _ there
  constructor
  · intro exits
    have start : Resumable task.status := by
      by_contra stuck
      refine stuck (exits task.status ?_)
      rw [process_refused there registered stuck is ended, taskStatus, id, there]
      rfl
    refine ⟨start, ?_⟩
    have raises : ∀ c w i, ¬Unraised e task.id c w i → (failure c (handle e c w i).1).isSome :=
      fun _ _ _ broken => (unraised_broken broken).2
    rcases (strict_processActionProposal depth taskId proposal).exit raises is ended with
      legal | ⟨c, w', i, broken, last⟩
    · exact legal
    · obtain ⟨⟨status, found, undecided⟩, failed⟩ := unraised_broken broken
      rw [last] at exits
      have kept : taskStatus (handle e c w' i).2 task.id = some status := by
        rw [taskStatus, handle_failed failed]
        exact found
      exact absurd (exits status kept) (not_resumable_of_undecided undecided)
  · rintro ⟨start, legal⟩ status found
    have now : In task.id Resumable w := ⟨registered, task, id ▸ there, start⟩
    have outcome := (leaves_processActionProposal (e := e) depth taskId proposal now).outcome is legal
    have after : In task.id Resumable
        (advance (handle e) is (processActionProposal e depth taskId proposal) w).2 := by
      revert outcome ended
      rcases advance (handle e) is (processActionProposal e depth taskId proposal) w with ⟨_ | _ | _, w'⟩
      · exact fun _ => (·)
      · exact fun _ => (·)
      · exact fun ended => ended.elim
    obtain ⟨status', found', resumable⟩ := after.status
    rw [found] at found'
    exact Option.some.inj found' ▸ resumable

end Exits

section Samples

def sampleCall : Action (PolicyDecision × Option Domain.ExecutionReceipt) :=
  processActionProposal sampleEngine 10 "task-1" Executors.sampleProposal

theorem sample_registered : Registered sampleWorld := by
  intro key task found
  by_cases here : key = "task-1"
  · subst here
    exact Option.some.inj found ▸ rfl
  · have away : (key == "task-1") = false := beq_eq_false_iff_ne.mpr here
    rw [sampleWorld, List.lookup_cons, away] at found
    cases found

theorem audited_exit_resumable :
    (sampleWorld.tasks.lookup "task-1").isSome ∧ ∀ status,
      taskStatus (advance (handle sampleEngine) (List.replicate 40 (sampleTurn [])) sampleCall
        sampleWorld).2 "task-1" = some status → Resumable status :=
  ⟨by decide +kernel, (exit_resumable_iff sampleEngine 10 "task-1" Executors.sampleProposal sampleWorld
    (List.replicate 40 (sampleTurn [])) ⟨"task-1", some "agent-1", 20, .inProgress⟩ sample_registered rfl
    (by decide +kernel)).mpr ⟨by decide, by decide +kernel⟩⟩

/-- The executor does not take the token. -/
def refusingTurn : Input :=
  { sampleTurn [] with
    sandbox := ⟨.ok (false, some "token rejected"), ⟨"u2", "e2", 2⟩, "rec-1", .finite 1⟩ }

/-- An executor that raises leaves the task approved, where no proposal is taken any more. -/
theorem refused_execution_stays_approved :
    let left_ := advance (handle sampleEngine) (List.replicate 40 refusingTurn) sampleCall sampleWorld
    left_.1.Ended ∧ taskStatus left_.2 "task-1" = some .approved ∧ ¬Resumable .approved := by
  decide +kernel

end Samples

end ProposalExits
