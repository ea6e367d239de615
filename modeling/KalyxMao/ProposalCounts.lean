import KalyxMao.ProposalExits
import KalyxMao.StepRuns

/-!
# How often a task is rejected

A rejection is counted under the actual id of its task before the planner is asked
again. The count bounds the calls inside a call and, since a task whose rejection
was not counted takes no proposal any more, the rejections over all calls.
-/

namespace ProposalCounts
open EffectPrograms EffectPrograms.Prog ProgramExits Domain Orchestration ProposalExits

section Counts

/-- The policy engine rejects a proposal for the task. -/
def rejects (key : String) : Cmd → World → Input → Bool
  | .evaluate proposal, _, i => proposal.taskId = key && i.raised.isNone && i.decision.result = .rejected
  | _, _, _ => false

/-- Every call, and every call inside a call, begins with the lookup of its task. -/
def begins : Cmd → World → Input → Bool
  | .taskId _, _, _ => true
  | _, _, _ => false

/-- Storing and showing a decision does not raise. -/
def Recorded : Cmd → World → Input → Prop
  | .notify what, _, i => what = "POLICY_EVALUATED" → i.raised = none
  | _, _, _ => True

instance (c : Cmd) (w : World) (i : Input) : Decidable (Recorded c w i) := by
  cases c with
  | notify what => exact inferInstanceAs (Decidable (what = _ → i.raised = none))
  | _ => exact isTrue trivial

def replans (w : World) (key : String) : ℕ := (w.replanCounts.lookup key).getD 0

/-- A call of `process_action_proposal` with what its components answer. -/
structure Submission where
  depth : ℕ
  taskId : String
  proposal : ActionProposal
  inputs : List Input

variable (e : Engine) (key : String)

def Submission.program (s : Submission) : Action (PolicyDecision × Option Domain.ExecutionReceipt) :=
  processActionProposal e s.depth s.taskId s.proposal

def Submission.run (w : World) (s : Submission) : World := (advance (handle e) s.inputs (s.program e) w).2

/-- The evaluations of a task's proposals that end in rejection, over all calls. -/
def rejections : World → List Submission → ℕ
  | _, [] => 0
  | w, s :: rest =>
    tally (handle e) (rejects key) s.inputs (s.program e) w + rejections (s.run e w) rest

/-- A call for the task, under its logical or its actual id, that reaches an exit. -/
structure Submits (w : World) (s : Submission) : Prop where
  addressed : w.resolve s.taskId = key
  ended : (advance (handle e) s.inputs (s.program e) w).1.Ended
  recorded : Legal (handle e) Recorded s.inputs (s.program e) w

/-- How many calls one call has made, itself included. -/
def calls (w : World) (s : Submission) : ℕ := tally (handle e) begins s.inputs (s.program e) w

end Counts

section Budgets
variable {e : Engine} {key : String} {aliases : List (String × String)}

/-- The commands that reach neither the tables of tasks and aliases nor the counts. -/
def Mild : Cmd → Prop
  | .bindAlias _ => False
  | .putTask _ _ => False
  | .taskId _ => False
  | .evaluate _ => False
  | .bumpReplans _ _ => False
  | _ => True

theorem mild_of_plain (c : Cmd) (plain : Plain c) : Mild c := by
  cases c with
  | bindAlias logicalId => exact plain.elim
  | putTask logicalId task => exact plain.elim
  | taskId logicalId => exact plain.elim
  | evaluate proposal => exact plain.elim
  | bumpReplans actual taskId => exact plain.elim
  | _ => trivial

theorem handle_mild {c : Cmd} (mild : Mild c) (w : World) (i : Input) :
    (handle e c w i).2.aliases = w.aliases ∧ (handle e c w i).2.replanCounts = w.replanCounts := by
  cases c with
  | bindAlias logicalId => exact mild.elim
  | putTask logicalId task => exact mild.elim
  | bumpReplans actual taskId => exact mild.elim
  | transitionTask other toStatus =>
    simp only [handle]
    split
    · exact ⟨rfl, rfl⟩
    · split <;> exact ⟨rfl, rfl⟩
  | transitionOrg toState =>
    simp only [handle]
    split <;> exact ⟨rfl, rfl⟩
  | execute proposal decision =>
    simp only [handle]
    split <;> exact ⟨rfl, rfl⟩
  | verifyExecution proposal receipt =>
    simp only [handle]
    split <;> exact ⟨rfl, rfl⟩
  | _ => exact ⟨rfl, rfl⟩

theorem rejects_mild {c : Cmd} (mild : Mild c) (w : World) (i : Input) : rejects key c w i = false := by
  cases c with
  | evaluate proposal => exact mild.elim
  | _ => rfl

theorem begins_mild {c : Cmd} (mild : Mild c) (w : World) (i : Input) : begins c w i = false := by
  cases c with
  | taskId logicalId => exact mild.elim
  | _ => rfl

theorem bump_replans (e : Engine) (key : String) (w : World) (taskId : String) (i : Input) :
    replans (handle e (.bumpReplans key taskId) w i).2 key = replans w key + 1 ∧
      (handle e (.bumpReplans key taskId) w i).1 = replans w key + 1 := by
  refine ⟨?_, rfl⟩
  rw [replans]
  simp only [handle]
  by_cases same : key = taskId
  · rw [same, lookup_put_self]
    rfl
  · rw [lookup_put_ne _ same, lookup_put_self]
    rfl

/-- The count of a task bounds its rejections and lies within the limit. -/
structure Open (e : Engine) (key : String) (aliases : List (String × String)) (s : World × ℕ) : Prop where
  registered : Registered s.1
  bound : s.1.aliases = aliases
  counted : s.2 ≤ replans s.1 key
  within : replans s.1 key ≤ e.maxReplanAttempts

/-- The task has been rejected once more than is counted. -/
structure Charged (e : Engine) (key : String) (aliases : List (String × String)) (status : TaskStatus)
    (s : World × ℕ) : Prop where
  now : In key (· = status) s.1
  bound : s.1.aliases = aliases
  counted : s.2 ≤ replans s.1 key + 1
  within : replans s.1 key ≤ e.maxReplanAttempts

/-- The rejections of a task lie within the limit and one more, and the count is open unless the
task takes no proposal any more. -/
structure Budget (e : Engine) (key : String) (aliases : List (String × String)) (s : World × ℕ) : Prop where
  registered : Registered s.1
  bound : s.1.aliases = aliases
  total : s.2 ≤ e.maxReplanAttempts + 1
  spent : Open e key aliases s ∨ In key (fun status => status = .rejected ∨ status = .failed) s.1

/-- The task is rejected or failed, within the limit and one more. -/
structure Closed (e : Engine) (key : String) (aliases : List (String × String)) (status : TaskStatus)
    (s : World × ℕ) : Prop where
  now : In key (· = status) s.1
  bound : s.1.aliases = aliases
  total : s.2 ≤ e.maxReplanAttempts + 1

variable {s : World × ℕ} {α : Type} {status : TaskStatus}

theorem Open.budget (now : Open e key aliases s) : Budget e key aliases s :=
  ⟨now.registered, now.bound, by have := now.counted; have := now.within; omega, .inl now⟩

theorem Closed.budget (now : Closed e key aliases status s) (closed : status = .rejected ∨ status = .failed) :
    Budget e key aliases s :=
  ⟨now.now.registered, now.bound, now.total, .inr (now.now.mono fun _ same => same ▸ closed)⟩

theorem Charged.closed (now : Charged e key aliases status s) : Closed e key aliases status s :=
  ⟨now.now, now.bound, by have := now.counted; have := now.within; omega⟩

/-- A property of the world and the rejections so far, at the exits of a program. -/
abbrev Spends (e : Engine) (key : String) (aliases : List (String × String)) (Q : α → World × ℕ → Prop) :
    Action α → World × ℕ → Prop :=
  Keeps (counted (handle e) (rejects key)) (fun c s i => Recorded c s.1 i) (fun _ => True) Q
    fun _ => Budget e key aliases

theorem spends_issues {P : Cmd → Prop} {J : World × ℕ → Prop} {p : Action α} (issues : Issues P p)
    (kept : ∀ c s i, P c → J s → J (counted (handle e) (rejects key) c s i).2)
    (within : ∀ s, J s → Budget e key aliases s) (now : J s) :
    Spends e key aliases (fun _ => J) p s :=
  Keeps.weaken (Issues.keeps issues (fun c s i allowed _ now => kept c s i allowed now)
    (fun _ _ => trivial) now) fun _ s => within s

theorem counted_mild {c : Cmd} (mild : Mild c) (s : World × ℕ) (i : Input) :
    (counted (handle e) (rejects key) c s i).2 = ((handle e c s.1 i).2, s.2) := by
  rw [counted, rejects_mild mild]
  rfl

theorem replans_mild (e : Engine) (key : String) {c : Cmd} (mild : Mild c) (w : World) (i : Input) :
    replans (handle e c w i).2 key = replans w key := by
  rw [replans, (handle_mild mild w i).2, replans]

theorem open_handle {c : Cmd} (mild : Mild c) (i : Input) (now : Open e key aliases s) :
    Open e key aliases (counted (handle e) (rejects key) c s i).2 := by
  have same := replans_mild e key mild s.1 i
  rw [counted_mild mild]
  exact ⟨handle_registered now.registered c i, (handle_mild mild s.1 i).1.trans now.bound,
    same ▸ now.counted, same ▸ now.within⟩

/-- The commands that leave the task and its count. -/
def Off (key : String) (c : Cmd) : Prop := Mild c ∧ Apart key c

theorem off_of_plain (c : Cmd) (plain : Plain c) : Off key c := ⟨mild_of_plain c plain, apart_of_plain c plain⟩

theorem charged_handle {c : Cmd} (off : Off key c) (i : Input) (now : Charged e key aliases status s) :
    Charged e key aliases status (counted (handle e) (rejects key) c s i).2 := by
  have same := replans_mild e key off.1 s.1 i
  rw [counted_mild off.1]
  exact ⟨now.now.handle off.2 i, (handle_mild off.1 s.1 i).1.trans now.bound, same ▸ now.counted,
    same ▸ now.within⟩

theorem closed_handle {c : Cmd} (off : Off key c) (i : Input) (now : Closed e key aliases status s) :
    Closed e key aliases status (counted (handle e) (rejects key) c s i).2 := by
  rw [counted_mild off.1]
  exact ⟨now.now.handle off.2 i, (handle_mild off.1 s.1 i).1.trans now.bound, now.total⟩

theorem spends_open {p : Action α} (mild : Issues Mild p) (now : Open e key aliases s) :
    Spends e key aliases (fun _ => Open e key aliases) p s :=
  spends_issues mild (fun _ _ i mild now => open_handle mild i now) (fun _ now => now.budget) now

theorem spends_closed {p : Action α} (off : Issues (Off key) p)
    (closed : status = .rejected ∨ status = .failed) (now : Closed e key aliases status s) :
    Spends e key aliases (fun _ => Closed e key aliases status) p s :=
  spends_issues off (fun _ _ i off now => closed_handle off i now) (fun _ now => now.budget closed) now

theorem spends_charged {p : Action α} (off : Issues (Off key) p)
    (now : Charged e key aliases .rejected s) :
    Spends e key aliases (fun _ => Charged e key aliases .rejected) p s :=
  spends_issues off (fun _ _ i off now => charged_handle off i now)
    (fun _ now => now.closed.budget (.inl rfl)) now

/-- A legal transition of the task; what is known of the counts stays. -/
theorem spends_move {task : Task} {toStatus : TaskStatus} {Q : Unit → World × ℕ → Prop}
    (own : task.id = key) (legal : toStatus ∈ taskTransitions status) (now : In key (· = status) s.1)
    (rest : ∀ w, In key (· = toStatus) w → w.aliases = s.1.aliases → replans w key = replans s.1 key →
      Q () (w, s.2)) : Spends e key aliases Q (moveTask task toStatus) s := by
  subst own
  refine ⟨trivial, fun i _ => ?_⟩
  obtain ⟨answered, after⟩ := now.move (e := e) legal i
  have mild : Mild (.transitionTask task.id toStatus) := trivial
  rw [counted_mild mild]
  show Keeps _ _ _ _ _ (ofExcept (handle e (.transitionTask task.id toStatus) s.1 i).1) _
  rw [answered]
  exact rest _ after (handle_mild mild s.1 i).1 (replans_mild e _ mild s.1 i)

theorem charged_move {task : Task} {toStatus : TaskStatus} (own : task.id = key)
    (legal : toStatus ∈ taskTransitions status) (now : Charged e key aliases status s) :
    Spends e key aliases (fun _ => Charged e key aliases toStatus) (moveTask task toStatus) s :=
  spends_move own legal now.now fun _ here bound same =>
    ⟨here, bound.trans now.bound, same ▸ now.counted, same ▸ now.within⟩

theorem closed_move {task : Task} {toStatus : TaskStatus} (own : task.id = key)
    (legal : toStatus ∈ taskTransitions status) (now : Closed e key aliases status s) :
    Spends e key aliases (fun _ => Closed e key aliases toStatus) (moveTask task toStatus) s :=
  spends_move own legal now.now fun _ here bound _ => ⟨here, bound.trans now.bound, now.total⟩

theorem spends_abort {task : Task} {proposal : ActionProposal} {decision : PolicyDecision}
    {Q : ActionProposal → World × ℕ → Prop} (own : task.id = key) (now : Closed e key aliases .rejected s) :
    Spends e key aliases Q (abort task e proposal decision) s := by
  have failed : TaskStatus.failed = .rejected ∨ TaskStatus.failed = .failed := .inr rfl
  refine Keeps.bind (spends_closed (recordEach_issues off_of_plain _ _ _) (.inl rfl) now) fun _ s now => ?_
  refine Keeps.bind (closed_move own (by decide) now) fun _ s now => ?_
  refine Keeps.bind (spends_closed (moveOrg_issues off_of_plain _) failed now) fun _ s now => ?_
  exact Keeps.bind (spends_closed (notify_issues off_of_plain _) failed now) fun _ s now => now.budget failed

/-- The rejected branch counts the rejection, or closes the task. -/
theorem spends_rejected {task : Task} {taskId : String} {proposal : ActionProposal}
    {decision : PolicyDecision} (own : task.id = key) (now : Charged e key aliases .submitted s) :
    Spends e key aliases (fun _ => Open e key aliases) (rejected e task key taskId proposal decision) s := by
  refine Keeps.bind (charged_move own (by decide) now) fun _ s now => ?_
  refine Keeps.bind (spends_charged (recordEach_issues off_of_plain _ _ _) now) fun _ s now => ?_
  refine ⟨trivial, fun i _ => ?_⟩
  obtain ⟨counts, answered⟩ := bump_replans e key s.1 taskId i
  have apart : Apart key (.bumpReplans key taskId) := trivial
  have here : In key (· = .rejected) (handle e (.bumpReplans key taskId) s.1 i).2 :=
    now.now.handle apart i
  have bound : (handle e (.bumpReplans key taskId) s.1 i).2.aliases = aliases := now.bound
  show Keeps _ _ _ _ _ (if e.maxReplanAttempts < (handle e (.bumpReplans key taskId) s.1 i).1 then _ else _)
    ((handle e (.bumpReplans key taskId) s.1 i).2, s.2 + 0)
  rw [answered]
  split
  · exact spends_abort own ⟨here, bound, now.closed.total⟩
  · rename_i within
    have opened : Open e key aliases ((handle e (.bumpReplans key taskId) s.1 i).2, s.2 + 0) :=
      ⟨here.registered, bound, by rw [counts]; exact now.counted, by rw [counts]; omega⟩
    refine spends_open ?_ opened
    refine .bind (notify_issues mild_of_plain _) fun _ => .bind (moveTask_issues trivial) fun _ => ?_
    refine .bind (.perform trivial) fun answered => .bind (.ofExcept _) fun replanned => ?_
    exact .bind (notify_issues mild_of_plain _) fun _ => trivial

/-- What is known of a decision: a rejection has been charged to the task. -/
def Decided (e : Engine) (key : String) (aliases : List (String × String))
    (r : String × Task × ActionProposal × PolicyDecision) (s : World × ℕ) : Prop :=
  r.1 = key ∧ r.2.1.id = key ∧
    if r.2.2.2.result = .rejected then Charged e key aliases .submitted s else Open e key aliases s

/-- The policy engine is asked, and the answer is stored. -/
theorem spends_evaluate {task : Task} {proposal : ActionProposal} (own : task.id = key)
    (named : proposal.taskId = key) (opened : Open e key aliases s) (now : In key (· = .submitted) s.1) :
    Spends e key aliases (Decided e key aliases) (do
      let decision ← ofExcept (← perform (.evaluate proposal))
      notify "POLICY_EVALUATED"
      return (key, task, proposal, decision)) s := by
  refine ⟨trivial, fun i _ => ?_⟩
  show Keeps _ _ _ _ _ (ofExcept (answer i.raised i.decision) >>= _)
    (s.1, s.2 + (rejects key (.evaluate proposal) s.1 i).toNat)
  cases raised : i.raised with
  | some err =>
    have uncounted : rejects key (.evaluate proposal) s.1 i = false := by simp [rejects, raised]
    rw [uncounted]
    exact opened.budget
  | none =>
    refine ⟨trivial, fun j recorded => ?_⟩
    have quiet : j.raised = none := recorded rfl
    have mild : Mild (.notify "POLICY_EVALUATED") := trivial
    have apart : Apart key (.notify "POLICY_EVALUATED") := trivial
    show Keeps _ _ _ _ _ (ofExcept (answer j.raised ()) >>= _) _
    rw [quiet]
    refine ⟨rfl, own, ?_⟩
    dsimp only
    split
    · rename_i refused
      have once : rejects key (.evaluate proposal) s.1 i = true := by simp [rejects, raised, named, refused]
      rw [counted_mild mild, once]
      exact ⟨now.handle (e := e) apart j, opened.bound, Nat.add_le_add_right opened.counted 1, opened.within⟩
    · rename_i other
      have uncounted : rejects key (.evaluate proposal) s.1 i = false := by simp [rejects, other]
      rw [uncounted]
      exact open_handle mild j opened

/-- An illegal transition raises and changes nothing. -/
theorem spends_stay {task : Task} {toStatus : TaskStatus} {Q : Unit → World × ℕ → Prop}
    (own : task.id = key) (illegal : toStatus ∉ taskTransitions status) (here : In key (· = status) s.1)
    (now : Budget e key aliases s) : Spends e key aliases Q (moveTask task toStatus) s := by
  subst own
  have mild : Mild (.transitionTask task.id toStatus) := trivial
  refine ⟨trivial, fun i _ => ?_⟩
  rw [counted_mild mild]
  obtain ⟨stored, found, rfl⟩ := here.found
  have refused : transitionTask stored toStatus = .error _ := if_neg illegal
  show Keeps _ _ _ _ _ (ofExcept (handle e (.transitionTask task.id toStatus) s.1 i).1) _
  simp only [handle, found, refused]
  exact now

/-- A task that takes no proposal refuses one; any other is submitted. -/
theorem spends_resubmit {task : Task} (now : Budget e key aliases s) (own : task.id = key)
    (there : s.1.tasks.lookup key = some task) (unfailed : task.status ≠ .failed) :
    Spends e key aliases (fun _ s => Open e key aliases s ∧ In key (· = .submitted) s.1)
      (given (task.status ≠ .submitted) (moveTask task .submitted)) s := by
  have here : In key (· = task.status) s.1 := ⟨now.registered, task, there, rfl⟩
  rcases now.spent with opened | closed
  · by_cases already : task.status = .submitted
    · rw [given, if_neg (not_not.mpr already)]
      rw [already] at here
      exact ⟨opened, here⟩
    · rw [given, if_pos already]
      rcases Classical.em (TaskStatus.submitted ∈ taskTransitions task.status) with legal | illegal
      · refine spends_move own legal here fun w after bound same => ⟨?_, after⟩
        exact ⟨after.registered, bound.trans opened.bound, same ▸ opened.counted, same ▸ opened.within⟩
      · exact spends_stay own illegal here now
  · obtain ⟨stored, found, refused⟩ := closed.found
    obtain rfl := Option.some.inj (there.symm.trans found)
    have rejected := refused.resolve_right unfailed
    have illegal : TaskStatus.submitted ∉ taskTransitions task.status := by
      rw [rejected]
      decide
    rw [given, if_pos (by rw [rejected]; decide)]
    exact spends_stay own illegal here now

/-- From the lookup to the decision. -/
theorem spends_submit {taskId : String} {proposal : ActionProposal} (now : Budget e key aliases s)
    (addressed : (aliases.lookup taskId).getD taskId = key) (own : (aliases.lookup key).getD key = key) :
    Spends e key aliases (Decided e key aliases) (submit taskId proposal) s := by
  have resolved : s.1.resolve taskId = key := by rw [World.resolve, now.bound, addressed]
  have again : s.1.resolve key = key := by rw [World.resolve, now.bound, own]
  refine ⟨trivial, fun i _ => ?_⟩
  have actual : (counted (handle e) (rejects key) (.taskId taskId) s i).1 = key := resolved
  rw [actual]
  refine ⟨trivial, fun j _ => ?_⟩
  have found : counted (handle e) (rejects key) (.task key)
      (counted (handle e) (rejects key) (.taskId taskId) s i).2 j =
        (s.1.tasks.lookup (s.1.resolve key), s) := rfl
  rw [found, again]
  cases there : s.1.tasks.lookup key with
  | none => exact now
  | some task =>
    have id := now.registered key task there
    show Spends e key aliases _ (given (task.status = .failed) _ >>= _) s
    by_cases failed : task.status = .failed
    · rw [given, if_pos failed]
      exact now
    · rw [given, if_neg failed, pure_eq, ret_bind]
      refine Keeps.bind (spends_resubmit now id there failed) ?_
      rintro _ s ⟨opened, submitted⟩
      have kept := spends_issues (notify_issues off_of_plain "PROPOSAL_SUBMITTED")
        (J := fun s => Open e key aliases s ∧ In key (· = .submitted) s.1)
        (fun c s i off both => ⟨open_handle off.1 i both.1, both.2.handle off.2 i⟩)
        (fun _ both => both.1.budget) ⟨opened, submitted⟩
      exact Keeps.bind kept fun _ s both => spends_evaluate id id both.1 both.2

theorem spends_processActionProposal (depth : Nat) (taskId : String) (proposal : ActionProposal)
    (addressed : (aliases.lookup taskId).getD taskId = key) (own : (aliases.lookup key).getD key = key)
    (now : Budget e key aliases s) :
    Spends e key aliases (fun _ => Budget e key aliases) (processActionProposal e depth taskId proposal) s := by
  induction depth generalizing taskId proposal s with
  | zero => exact now
  | succ depth ih =>
    refine Keeps.bind (spends_submit now addressed own) ?_
    rintro ⟨actual, task, proposal, decision⟩ s ⟨rfl, mine, known⟩
    dsimp only at known ⊢
    split
    · rename_i approval
      rw [approval, if_neg nofun] at known
      have mild : Issues Mild (approved task proposal decision) :=
        approved_issues mild_of_plain (fun _ => trivial) (fun _ _ => trivial) (fun _ _ => trivial) _ _
      exact Keeps.mono (spends_open mild known) fun _ _ now => now.budget
    · rename_i rejection
      rw [rejection, if_pos rfl] at known
      exact Keeps.bind (spends_rejected mine known) fun replanned s now => ih actual replanned own now.budget
    · rename_i escalation
      rw [escalation, if_neg nofun] at known
      exact Keeps.mono (spends_open (escalated_issues mild_of_plain decision) known)
        fun _ _ now => now.budget

end Budgets

section Nesting
variable {e : Engine} {key : String} {aliases : List (String × String)} {s : World × ℕ} {α : Type}

/-- The commands that begin no call and count no rejection. -/
def Inner (c : Cmd) : Prop := Mild c ∨ ∃ proposal, c = .evaluate proposal

theorem inner_of_plain (c : Cmd) (plain : Plain c) : Inner c := .inl (mild_of_plain c plain)

/-- A call has begun: there are at most as many as rejections are counted, and one. -/
structure Begun (e : Engine) (key : String) (aliases : List (String × String)) (s : World × ℕ) : Prop where
  bound : s.1.aliases = aliases
  counted : s.2 ≤ replans s.1 key + 1
  within : s.2 ≤ e.maxReplanAttempts + 1

theorem counted_inner (e : Engine) (key : String) {c : Cmd} (inner : Inner c) (s : World × ℕ) (i : Input) :
    (counted (handle e) begins c s i).2.1.aliases = s.1.aliases ∧
      replans (counted (handle e) begins c s i).2.1 key = replans s.1 key ∧
      (counted (handle e) begins c s i).2.2 = s.2 := by
  rcases inner with mild | ⟨proposal, rfl⟩
  · refine ⟨(handle_mild mild s.1 i).1, replans_mild e key mild s.1 i, ?_⟩
    rw [counted, begins_mild mild]
    rfl
  · exact ⟨rfl, rfl, rfl⟩

theorem begun_handle {c : Cmd} (inner : Inner c) (i : Input) (now : Begun e key aliases s) :
    Begun e key aliases (counted (handle e) begins c s i).2 := by
  obtain ⟨bound, counts, same⟩ := counted_inner e key inner s i
  exact ⟨bound.trans now.bound, by rw [counts, same]; exact now.counted, same ▸ now.within⟩

/-- A property of the world and the calls so far, and the limit wherever a program raises. -/
abbrev Nests (e : Engine) (Q : α → World × ℕ → Prop) : Action α → World × ℕ → Prop :=
  Keeps (counted (handle e) begins) (fun _ _ _ => True) (fun _ => True) Q
    fun _ s => s.2 ≤ e.maxReplanAttempts + 1

theorem nests_inner {p : Action α} (inner : Issues Inner p) (now : Begun e key aliases s) :
    Nests e (fun _ => Begun e key aliases) p s :=
  Keeps.weaken (Issues.keeps inner (fun _ _ i inner _ now => begun_handle inner i now)
    (fun _ _ => trivial) now) fun _ _ now => now.within

/-- The calls so far have been rejected, and the rejections lie within the limit. -/
structure Replanned (e : Engine) (key : String) (s : World × ℕ) : Prop where
  counted : s.2 ≤ replans s.1 key
  within : replans s.1 key ≤ e.maxReplanAttempts

/-- At the start of a call: it is the first, or those before it have been rejected. -/
def Entering (e : Engine) (key : String) (aliases : List (String × String)) (s : World × ℕ) : Prop :=
  s.1.aliases = aliases ∧ (s.2 = 0 ∨ Replanned e key s)

theorem Replanned.limit (now : Replanned e key s) : s.2 ≤ e.maxReplanAttempts + 1 :=
  (now.counted.trans now.within).trans (Nat.le_succ _)

theorem nests_replanned {p : Action α} (inner : Issues Inner p) (bound : s.1.aliases = aliases)
    (now : Replanned e key s) : Nests e (fun _ => Entering e key aliases) p s := by
  have kept (c : Cmd) (s : World × ℕ) (i : Input) (inner : Inner c)
      (now : s.1.aliases = aliases ∧ Replanned e key s) :
      (counted (handle e) begins c s i).2.1.aliases = aliases ∧
        Replanned e key (counted (handle e) begins c s i).2 := by
    obtain ⟨bound', counts, same⟩ := counted_inner e key inner s i
    exact ⟨bound'.trans now.1, by rw [counts, same]; exact now.2.counted, by rw [counts]; exact now.2.within⟩
  exact Keeps.weaken (Keeps.mono (inner.keeps (fun c s i inner _ => kept c s i inner)
    (fun _ _ => trivial) ⟨bound, now⟩) fun _ _ both => ⟨both.1, .inr both.2⟩) fun _ _ both => both.2.limit

theorem nests_submit {taskId : String} {proposal : ActionProposal}
    (addressed : (aliases.lookup taskId).getD taskId = key) (now : Entering e key aliases s) :
    Nests e (fun r s => r.1 = key ∧ Begun e key aliases s) (submit taskId proposal) s := by
  refine ⟨trivial, fun i _ => ?_⟩
  have actual : (counted (handle e) begins (.taskId taskId) s i).1 = key := by
    show s.1.resolve taskId = key
    rw [World.resolve, now.1, addressed]
  have begun : Begun e key aliases (counted (handle e) begins (.taskId taskId) s i).2 := by
    obtain ⟨bound, first | ⟨counted, within⟩⟩ := now
    · refine ⟨bound, ?_, ?_⟩
      · show s.2 + 1 ≤ _
        omega
      · show s.2 + 1 ≤ _
        omega
    · exact ⟨bound, Nat.add_le_add_right counted 1, Nat.add_le_add_right (counted.trans within) 1⟩
  rw [actual]
  have notified (what : String) : Issues Inner (notify what) := notify_issues inner_of_plain what
  have finds : Issues Inner (findTask key) := .perform (.inl trivial)
  refine keeps_returns (nests_inner (finds.bind fun found => ?_) begun) ?_
  · cases found with
    | none => trivial
    | some task =>
      refine .bind (given_issues trivial) fun _ =>
        .bind (given_issues (moveTask_issues (.inl trivial))) fun _ => ?_
      refine .bind (notified _) fun _ => .bind (.perform (.inr ⟨_, rfl⟩)) fun answered => ?_
      exact .bind (.ofExcept _) fun decision => .bind (notified _) fun _ => trivial
  · refine Returns.bind (Q := (· = key)) rfl ?_
    rintro _ rfl
    refine .bind (.any _) fun found _ => ?_
    cases found with
    | none => trivial
    | some task =>
      refine .bind (.any _) fun _ _ => .bind (.any _) fun _ _ => .bind (.any _) fun _ _ => ?_
      exact .bind (.any _) fun _ _ => .bind (.any _) fun _ _ => .bind (.any _) fun _ _ => rfl

theorem nests_rejected {task : Task} {taskId : String} {proposal : ActionProposal}
    {decision : PolicyDecision} (now : Begun e key aliases s) :
    Nests e (fun _ => Entering e key aliases) (rejected e task key taskId proposal decision) s := by
  have move (toStatus : TaskStatus) : Inner (.transitionTask task.id toStatus) := .inl trivial
  refine Keeps.bind (nests_inner (moveTask_issues (move _)) now) fun _ s now => ?_
  refine Keeps.bind (nests_inner (recordEach_issues inner_of_plain _ _ _) now) fun _ s now => ?_
  refine ⟨trivial, fun i _ => ?_⟩
  obtain ⟨counts, answered⟩ := bump_replans e key s.1 taskId i
  have within : s.2 + 0 ≤ e.maxReplanAttempts + 1 := now.within
  have bound : (handle e (.bumpReplans key taskId) s.1 i).2.aliases = aliases := now.bound
  show Keeps _ _ _ _ _ (if e.maxReplanAttempts < (handle e (.bumpReplans key taskId) s.1 i).1 then _ else _)
    ((handle e (.bumpReplans key taskId) s.1 i).2, s.2 + 0)
  rw [answered]
  have begun : Begun e key aliases ((handle e (.bumpReplans key taskId) s.1 i).2, s.2 + 0) :=
    ⟨bound, by rw [counts]; exact Nat.le_succ_of_le now.counted, within⟩
  split
  · refine Keeps.mono (keeps_returns (T := fun _ => False) (nests_inner ?_ begun) ?_) fun _ _ => fun both =>
      both.1.elim
    · exact abort_issues inner_of_plain move proposal decision
    · refine .bind (.any _) fun _ _ => .bind (.any _) fun _ _ => .bind (.any _) fun _ _ => ?_
      exact .bind (.any _) fun _ _ => trivial
  · rename_i attempts
    refine nests_replanned ?_ bound ⟨by rw [counts]; exact now.counted, by rw [counts]; omega⟩
    refine .bind (notify_issues inner_of_plain _) fun _ => .bind (moveTask_issues (move _)) fun _ => ?_
    refine .bind (.perform (.inl trivial)) fun answered => .bind (.ofExcept _) fun replanned => ?_
    exact .bind (notify_issues inner_of_plain _) fun _ => trivial

/-- The calls inside one call lie within the limit and one more, however deep it may go. -/
theorem nests_processActionProposal (depth : Nat) (taskId : String) (proposal : ActionProposal)
    (addressed : (aliases.lookup taskId).getD taskId = key) (own : (aliases.lookup key).getD key = key)
    (now : Entering e key aliases s) :
    Nests e (fun _ s => s.2 ≤ e.maxReplanAttempts + 1) (processActionProposal e depth taskId proposal) s := by
  induction depth generalizing taskId proposal s with
  | zero =>
    obtain ⟨-, first | replanned⟩ := now
    · show s.2 ≤ e.maxReplanAttempts + 1
      omega
    · exact replanned.limit
  | succ depth ih =>
    refine Keeps.bind (nests_submit addressed now) ?_
    rintro ⟨actual, task, proposal, decision⟩ s ⟨rfl, begun⟩
    have move (toStatus : TaskStatus) : Inner (.transitionTask task.id toStatus) := .inl trivial
    dsimp only
    split
    · have inner : Issues Inner (approved task proposal decision) :=
        approved_issues inner_of_plain move (fun _ _ => .inl trivial) (fun _ _ => .inl trivial) _ _
      exact Keeps.mono (nests_inner inner begun) fun _ _ now => now.within
    · exact Keeps.bind (nests_rejected begun) fun replanned s now => ih actual replanned own now
    · exact Keeps.mono (nests_inner (escalated_issues inner_of_plain decision) begun) fun _ _ now =>
        now.within

end Nesting

section Runs
variable {e : Engine} {key : String} {w : World}

theorem submits_budget {s : Submission} {n : ℕ} {aliases : List (String × String)}
    (own : (aliases.lookup key).getD key = key) (submits : Submits e key w s)
    (now : Budget e key aliases (w, n)) :
    Budget e key aliases (s.run e w, n + tally (handle e) (rejects key) s.inputs (s.program e) w) := by
  have addressed : (aliases.lookup s.taskId).getD s.taskId = key := by
    rw [← now.bound]
    exact submits.addressed
  have outcome := tally_outcome (fun c w i => Recorded c w i)
    (spends_processActionProposal s.depth s.taskId s.proposal addressed own now) submits.recorded
  have ended := submits.ended
  revert outcome ended
  unfold Submission.run Submission.program
  cases (advance (handle e) s.inputs (processActionProposal e s.depth s.taskId s.proposal) w).1 with
  | ret a => exact fun outcome _ => outcome
  | raise err => exact fun outcome _ => outcome
  | call c next => exact fun _ ended => ended.elim

theorem submits_calls {s : Submission} (own : w.resolve key = key) (addressed : w.resolve s.taskId = key)
    (ended : (advance (handle e) s.inputs (s.program e) w).1.Ended) :
    calls e w s ≤ e.maxReplanAttempts + 1 := by
  have entering : Entering e key w.aliases (w, 0) := ⟨rfl, .inl rfl⟩
  have nests := nests_processActionProposal s.depth s.taskId s.proposal addressed own entering
  have outcome := tally_outcome (fun _ _ _ => True) nests
    (.always (handle e) (fun _ _ _ => trivial) s.inputs (s.program e) w)
  revert outcome ended
  unfold calls Submission.program
  rw [Nat.zero_add]
  cases (advance (handle e) s.inputs (processActionProposal e s.depth s.taskId s.proposal) w).1 with
  | ret a => exact fun _ outcome => outcome
  | raise err => exact fun _ outcome => outcome
  | call c next => exact fun ended => ended.elim

/-- For every engine, every task that is new to it and every sequence of calls for it that reach an
exit, whatever planner, policy, executor and auditor answer: over all calls at most one rejection more
than the limit, and within each call at most that many calls. -/
theorem rejections_bounded (e : Engine) (key : String) (w : World) (registered : Registered w)
    (own : w.resolve key = key) (new : w.replanCounts.lookup key = none) (submissions : List Submission)
    (submits : StepRuns.Along (fun w s => s.run e w) (Submits e key) w submissions) :
    rejections e key w submissions ≤ e.maxReplanAttempts + 1 ∧
      StepRuns.Along (fun w s => s.run e w) (fun w s => calls e w s ≤ e.maxReplanAttempts + 1) w
        submissions := by
  have counts : replans w key = 0 := by rw [replans, new]; rfl
  have start : Budget e key w.aliases (w, 0) :=
    ⟨registered, rfl, Nat.zero_le _, .inl ⟨registered, rfl, Nat.zero_le _, (le_of_eq counts).trans (Nat.zero_le _)⟩⟩
  generalize given_ : w.aliases = aliases at start
  have bound : (aliases.lookup key).getD key = key := given_ ▸ own
  have general : ∀ n w, Budget e key aliases (w, n) →
      StepRuns.Along (fun w s => s.run e w) (Submits e key) w submissions →
      n + rejections e key w submissions ≤ e.maxReplanAttempts + 1 ∧
        StepRuns.Along (fun w s => s.run e w) (fun w s => calls e w s ≤ e.maxReplanAttempts + 1) w
          submissions := by
    clear submits
    induction submissions with
    | nil => exact fun n w now _ => ⟨now.total, trivial⟩
    | cons s rest ih =>
      rintro n w now ⟨first, later⟩
      have resolved : w.resolve key = key := by
        rw [World.resolve, now.bound, bound]
      obtain ⟨total, nested⟩ := ih _ _ (submits_budget bound first now) later
      refine ⟨?_, submits_calls resolved first.addressed first.ended, nested⟩
      rw [rejections, ← Nat.add_assoc]
      exact total
  have all := general 0 w start submits
  rwa [Nat.zero_add] at all

/-- Every proposal is rejected, and the planner replans each time. -/
def rejectingTurn : Input := { sampleTurn [] with decision := { Executors.sampleDecision with result := .rejected } }

def namedWorld : World := { sampleWorld with aliases := [("logical", "task-1")] }

def rejectedUnder (taskId : String) : Submission :=
  ⟨10, taskId, Executors.sampleProposal, List.replicate 80 rejectingTurn⟩

/-- The first call rejects four proposals and fails the task; the second finds it failed. -/
theorem four_rejections :
    rejections sampleEngine "task-1" namedWorld [rejectedUnder "logical", rejectedUnder "task-1"] ≤ 4 ∧
      StepRuns.Along (fun w s => s.run sampleEngine w) (fun w s => calls sampleEngine w s ≤ 4) namedWorld
        [rejectedUnder "logical", rejectedUnder "task-1"] :=
  rejections_bounded sampleEngine "task-1" namedWorld sample_registered rfl rfl _
    ⟨⟨rfl, by decide +kernel, by decide +kernel⟩, ⟨by decide +kernel, by decide +kernel, by decide +kernel⟩,
      trivial⟩

example : rejections sampleEngine "task-1" namedWorld
    [rejectedUnder "logical", rejectedUnder "task-1"] = 4 := by decide +kernel

end Runs

end ProposalCounts
