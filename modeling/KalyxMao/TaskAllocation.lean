import KalyxMao.AgentRepository
import KalyxMao.Orchestration
import KalyxMao.ResourceAllocation
import Mathlib.Data.List.MinMax
import Mathlib.Data.Prod.Lex

/-!
# What the tasks of a plan are allocated

Each task goes to the fittest agent of its role and takes what was asked for it,
cut to the tier of the agent, to the treasury and to the agent's balance where
one is in force. The cuts are made for each task alone: nothing is set aside for
the tasks before it, and the mark of a balance is not stored.
-/

namespace TaskAllocation
open PythonText PythonConversions DecimalRounding ProportionalShares Reputation ResourceAllocation
open AgentRepository (Database Consistent StoredOrganisation agentsOf loadOrganisation)
open Orchestration (TaskStatus)
open PolicyRules (AgentRole)

section Selection
variable {α β : Type} [LinearOrder β]

/-- The head of a stable sort, greatest first, is the first of the greatest. -/
theorem head_insertionSort (f : α → β) (r : α → α → Prop) [DecidableRel r]
    (order : ∀ a b, r a b ↔ f b ≤ f a) (l : List α) : (l.insertionSort r).head? = l.argmax f := by
  induction l with
  | nil => rfl
  | cons a l ih =>
    rw [List.insertionSort_cons, List.argmax_cons, ← ih]
    cases l.insertionSort r with
    | nil => rfl
    | cons b sorted =>
      rw [List.orderedInsert_cons]
      show _ = if f a < f b then some b else some a
      by_cases first : r a b
      · rw [if_pos first, if_neg (not_lt.mpr ((order a b).mp first))]
        rfl
      · rw [if_neg first, if_pos (not_le.mp fun le => first ((order a b).mpr le))]
        rfl

end Selection

section Model

structure TaskPlanItem where
  taskId : String
  assignedRole : AgentRole
  objective : String
  allocatedCredits : Nat

structure Task where
  id : String
  missionId : String
  assignedAgentId : Option String
  objective : String
  allocatedCredits : Int
  status : TaskStatus

def canAssignTask (a : Member) : Bool :=
  a.status = .active || a.status = .probation || a.status = .restricted

/-- `calculate_fitness`. -/
def calculateFitness (a : Member) : ℚ :=
  let rep := a.reputationScore / 100
  let rel := a.reliabilityScore / 100
  let eff := min 1 (max 0 a.resourceEfficiency)
  let perf := a.performanceScore / 100
  let fitness := 35 / 100 * rep + 25 / 100 * rel + 20 / 100 * eff + 20 / 100 * perf
  let fitness := match a.status with
    | .probation => fitness * (8 / 10)
    | .restricted => fitness * (5 / 10)
    | _ => fitness
  roundTo 4 fitness

/-- `infer_required_role`, from the words of an objective. -/
def inferRequiredRole (t : TextRules) (taskObjective : String) : Option AgentRole :=
  let lowered := t.lower taskObjective
  if ["research", "data", "fetch", "gather", "survey"].any fun w => isIn w lowered then
    some .researcher
  else if ["strategy", "synthesize", "plan", "roadmap", "prioritize"].any fun w => isIn w lowered then
    some .strategist
  else if ["finance", "financial", "treasury", "liquidity", "yield", "budget", "cost"].any fun w =>
      isIn w lowered then
    some .financialAnalyst
  else none

/-- Who can be given a task for a role; the chief executive only where it is asked for. -/
def takes (targetRole : Option AgentRole) (a : Member) : Bool :=
  canAssignTask a && (targetRole.all fun role => a.role = role) &&
    (a.role ≠ .ceo || targetRole = some .ceo)

/-- The order of the candidates: by fitness, then by reputation, the greatest first. -/
def ahead (a b : Member) : Prop :=
  calculateFitness b < calculateFitness a ∨
    (calculateFitness a = calculateFitness b ∧ b.reputationScore ≤ a.reputationScore)

instance : DecidableRel ahead :=
  fun a b => inferInstanceAs (Decidable (calculateFitness b < calculateFitness a ∨
    (calculateFitness a = calculateFitness b ∧ b.reputationScore ≤ a.reputationScore)))

variable (t : TextRules)

/-- `select_agent_for_task`. -/
def selectAgentForTask (task : Task) (org : Organisation) (requiredRole : Option AgentRole) :
    Except PyError Member :=
  let targetRole := requiredRole.or (inferRequiredRole t task.objective)
  match (org.agents.filter (takes targetRole)).insertionSort ahead with
  | a :: _ => .ok a
  | [] =>
    let roleDesc := targetRole.elim "" fun role => s!" for role {role.value}"
    .error ⟨.otherException,
      s!"No eligible agents found{roleDesc} to handle task '{task.id}' (objective: '{task.objective}')."⟩

/-- A balance that an allocation has set, or any that is positive. -/
def balanceInForce (a : Member) : Prop := a.hasAllocatedBalance = true ∨ 0 < a.creditBalance

instance (a : Member) : Decidable (balanceInForce a) :=
  inferInstanceAs (Decidable (a.hasAllocatedBalance = true ∨ 0 < a.creditBalance))

/-- `determine_credit_allocation`. -/
def determineCreditAllocation (task : Task) (a : Member) (org : Organisation)
    (requestedCredits : Option Int) : Int :=
  let requested := requestedCredits.getD task.allocatedCredits
  let requested := if requested ≤ 0 then min a.authorityCeiling 20 else requested
  let available := max 0 org.treasuryBalance
  if available = 0 then 0
  else
    let allocation := match a.status with
      | .active =>
        if 85 ≤ a.reputationScore then min (min requested a.authorityCeiling) available
        else min (min requested (max 5 (truncate (a.authorityCeiling * (8 / 10))))) available
      | .probation => min (min requested (min 10 a.authorityCeiling)) available
      | .restricted => min requested (min 5 available)
      | _ => 0
    let allocation := if balanceInForce a then min allocation a.creditBalance else allocation
    max 0 allocation

/-- `assign_and_allocate`, and what it makes of the task. -/
def assignAndAllocate (task : Task) (org : Organisation) (requiredRole : Option AgentRole)
    (requestedCredits : Option Int) : Except PyError (Member × Int × Task) := do
  let a ← selectAgentForTask t task org requiredRole
  let allocation := determineCreditAllocation task a org requestedCredits
  return (a, allocation,
    { task with assignedAgentId := some a.id, allocatedCredits := allocation, status := .assigned })

/-- One item of a plan; without an eligible agent the task keeps what was asked for it. -/
def openTask (org : Organisation) (item : TaskPlanItem) (digits : String) : Task :=
  let task : Task :=
    { id := s!"{org.id}-{item.taskId}-{digits}"
      missionId := org.id
      assignedAgentId := none
      objective := item.objective
      allocatedCredits := item.allocatedCredits
      status := .pending }
  match assignAndAllocate t task org (some item.assignedRole) (some item.allocatedCredits) with
  | .ok (_, _, task) => task
  | .error _ => { task with status := .assigned }

/-- The tasks that `decompose_and_plan` creates, each under the digits drawn for it. -/
def decomposeAndPlan (org : Organisation) (plan : List (TaskPlanItem × String)) : List Task :=
  plan.map fun p => openTask t org p.1 p.2

/-- An organisation as it is loaded: no agent carries a mark. -/
def ofStored (stored : StoredOrganisation) (filed : (stored.agents.map fun p => p.2.id).Nodup) :
    Organisation where
  id := stored.id
  tenantId := stored.tenantId
  treasuryBalance := stored.treasuryBalance
  agents := stored.agents.map fun p => { p.2 with hasAllocatedBalance := false }
  filed := by
    rw [List.map_map]
    exact filed

end Model

section Property

/-- The bounds on a plan's tasks: the ceiling of the agent that has a task, the treasury, and the
budgets that were set. -/
structure Within (org : Organisation) (budgets : String → Option Int) (tasks : List Task) : Prop where
  ceilings : ∀ task ∈ tasks, ∀ a ∈ org.agents, task.assignedAgentId = some a.id →
    task.allocatedCredits ≤ a.authorityCeiling
  treasury : (tasks.map Task.allocatedCredits).sum ≤ org.treasuryBalance
  budgets : ∀ agentId credits, budgets agentId = some credits →
    ((tasks.filter fun task => task.assignedAgentId = some agentId).map Task.allocatedCredits).sum ≤
      credits

/-- The budgets that an allocation has written back. -/
def written (org : Organisation) (d : ResourceAllocationDecision) (agentId : String) : Option Int :=
  if idle org then none else d.allocations.lookup agentId

/-- The first of the fittest agents of a role. -/
def bestFor (org : Organisation) (role : AgentRole) : Option Member :=
  (org.agents.filter fun a => canAssignTask a && decide (a.role = role)).argmax fun a =>
    toLex (calculateFitness a, a.reputationScore)

/-- What the status of an agent lets a task of its take. -/
def tier (a : Member) : Int :=
  match a.status with
  | .active =>
    if 85 ≤ a.reputationScore then a.authorityCeiling
    else max 5 (truncate (a.authorityCeiling * (8 / 10)))
  | .probation => min 10 a.authorityCeiling
  | .restricted => 5
  | _ => 0

def wanted (a : Member) (credits : Nat) : Int :=
  if credits = 0 then min a.authorityCeiling 20 else credits

/-- A request cut to the tier, the treasury and the balance in force. -/
def cut (org : Organisation) (a : Member) (credits : Nat) : Int :=
  let granted := min (min (wanted a credits) (tier a)) org.treasuryBalance
  max 0 (if balanceInForce a then min granted a.creditBalance else granted)

def cutFor (org : Organisation) (item : TaskPlanItem) : Int :=
  match bestFor org item.assignedRole with
  | some a => cut org a item.allocatedCredits
  | none => item.allocatedCredits

/-- Where a tier may be above the ceiling, the ceiling is five at least, or something else cuts the
request to it. -/
def CeilingHeld (org : Organisation) (a : Member) (credits : Nat) : Prop :=
  0 ≤ a.authorityCeiling ∧ (5 ≤ a.authorityCeiling ∨ a.status = .probation ∨
    (a.status = .active ∧ 85 ≤ a.reputationScore) ∨ credits ≤ a.authorityCeiling ∨
    org.treasuryBalance ≤ a.authorityCeiling ∨
    (balanceInForce a ∧ a.creditBalance ≤ a.authorityCeiling))

/-- The requests of a plan, each cut for the agent that is best for it, add up to no more than there
is for all and for each. -/
structure Affordable (org : Organisation) (budgets : String → Option Int) (plan : List TaskPlanItem) :
    Prop where
  ceilings : ∀ item ∈ plan, ∀ a, bestFor org item.assignedRole = some a →
    CeilingHeld org a item.allocatedCredits
  treasury : (plan.map (cutFor org)).sum ≤ org.treasuryBalance
  budgets : ∀ agentId credits, budgets agentId = some credits →
    ((plan.filter fun item => (bestFor org item.assignedRole).map (fun a => a.id) = some agentId).map
      (cutFor org)).sum ≤ credits

end Property

section Tasks
variable {t : TextRules} {org : Organisation} {a : Member}

theorem takes_role (role : AgentRole) (a : Member) :
    takes (some role) a = (canAssignTask a && decide (a.role = role)) := by
  unfold takes
  cases canAssignTask a with
  | false => rfl
  | true =>
    by_cases same : a.role = role
    · subst same
      by_cases chief : a.role = .ceo
      · simp [chief]
      · simp [chief]
    · simp [same]

theorem ahead_iff (a b : Member) : ahead a b ↔
    toLex (calculateFitness b, b.reputationScore) ≤ toLex (calculateFitness a, a.reputationScore) := by
  rw [Prod.Lex.toLex_le_toLex]
  unfold ahead
  constructor
  · rintro (fitter | ⟨same, rep⟩)
    · exact .inl fitter
    · exact .inr ⟨same.symm, rep⟩
  · rintro (fitter | ⟨same, rep⟩)
    · exact .inl fitter
    · exact .inr ⟨same.symm, rep⟩

/-- The agent that is selected for a role is the best for it. -/
theorem selectAgentForTask_head (task : Task) (org : Organisation) (role : AgentRole) :
    (∃ a, bestFor org role = some a ∧ selectAgentForTask t task org (some role) = .ok a) ∨
      (bestFor org role = none ∧ ∃ e, selectAgentForTask t task org (some role) = .error e) := by
  have head := head_insertionSort (fun a : Member => toLex (calculateFitness a, a.reputationScore)) ahead
    ahead_iff (org.agents.filter (takes (some role)))
  have same : org.agents.filter (takes (some role)) =
      org.agents.filter fun a => canAssignTask a && decide (a.role = role) :=
    congrArg (org.agents.filter ·) (funext (takes_role role))
  unfold selectAgentForTask bestFor
  rw [← same, ← head]
  dsimp only [Option.or]
  cases (org.agents.filter (takes (some role))).insertionSort ahead with
  | nil => exact .inr ⟨rfl, _, rfl⟩
  | cons a rest => exact .inl ⟨a, rfl, rfl⟩

theorem bestFor_mem {role : AgentRole} (best : bestFor org role = some a) :
    a ∈ org.agents ∧ canAssignTask a = true := by
  obtain ⟨there, fits⟩ := List.mem_filter.mp (List.argmax_mem best)
  rw [Bool.and_eq_true] at fits
  exact ⟨there, fits.1⟩

theorem able_status (able : canAssignTask a = true) :
    a.status = .active ∨ a.status = .probation ∨ a.status = .restricted := by
  simpa [canAssignTask, or_assoc] using able

/-- A task is allocated its request, cut. -/
theorem determine_eq (task : Task) (able : canAssignTask a = true) (credits : Nat) :
    determineCreditAllocation task a org (some credits) = cut org a credits := by
  have asked : (if (credits : Int) ≤ 0 then min a.authorityCeiling 20 else (credits : Int)) =
      wanted a credits := by
    unfold wanted
    split_ifs <;> omega
  unfold determineCreditAllocation cut
  dsimp only [Option.getD_some]
  rw [asked]
  generalize wanted a credits = requested
  by_cases poor : org.treasuryBalance ≤ 0
  · rw [max_eq_left poor, if_pos rfl]
    generalize tier a = most
    split_ifs <;> omega
  · have funded : max 0 org.treasuryBalance = org.treasuryBalance := max_eq_right (Int.not_le.mp poor).le
    rw [funded, if_neg (by omega)]
    unfold tier
    rcases able_status able with status | status | status
    · rw [status]
      dsimp only
      split_ifs <;> omega
    · rw [status]
    · rw [status]
      dsimp only
      split_ifs <;> omega

/-- The whole part of four fifths of a ceiling of five or more is within it. -/
theorem good_standing_le (a : Member) :
    max 5 (truncate (a.authorityCeiling * (8 / 10))) ≤ a.authorityCeiling ↔ 5 ≤ a.authorityCeiling := by
  constructor
  · intro le
    omega
  · intro five
    have positive : (5 : ℚ) ≤ a.authorityCeiling := by exact_mod_cast five
    have part : truncate (a.authorityCeiling * (8 / 10)) ≤ a.authorityCeiling := by
      rw [truncate_nonneg (by linarith)]
      have floor := Int.floor_le ((a.authorityCeiling : ℚ) * (8 / 10))
      have : ((⌊(a.authorityCeiling : ℚ) * (8 / 10)⌋ : Int) : ℚ) ≤ a.authorityCeiling := by linarith
      exact_mod_cast this
    exact max_le five part

theorem tier_le_iff (able : canAssignTask a = true) : tier a ≤ a.authorityCeiling ↔
    5 ≤ a.authorityCeiling ∨ a.status = .probation ∨ (a.status = .active ∧ 85 ≤ a.reputationScore) := by
  unfold tier
  rcases able_status able with status | status | status
  · rw [status]
    dsimp only
    split_ifs with top
    · simp [top]
    · rw [good_standing_le]
      simp [top]
  · simp [status]
  · simp [status]

theorem cut_le_iff (able : canAssignTask a = true) (credits : Nat) :
    cut org a credits ≤ a.authorityCeiling ↔ CeilingHeld org a credits := by
  have asked (ceiling : 0 ≤ a.authorityCeiling) :
      wanted a credits ≤ a.authorityCeiling ↔ (credits : Int) ≤ a.authorityCeiling := by
    unfold wanted
    split_ifs <;> omega
  unfold CeilingHeld cut
  rw [← or_assoc (a := a.status = .probation), ← or_assoc (a := 5 ≤ a.authorityCeiling),
    ← tier_le_iff able]
  dsimp only
  by_cases ceiling : 0 ≤ a.authorityCeiling
  · rw [← asked ceiling]
    by_cases force : balanceInForce a
    · simp only [force, if_true, ceiling, true_and]
      omega
    · simp only [force, if_false, ceiling, true_and, false_and, or_false]
      omega
  · simp only [ceiling, false_and, iff_false]
    omega

theorem openTask_allocated (item : TaskPlanItem) (digits : String) :
    (openTask t org item digits).assignedAgentId =
        (bestFor org item.assignedRole).map (fun a => a.id) ∧
      (openTask t org item digits).allocatedCredits = cutFor org item := by
  unfold openTask assignAndAllocate cutFor
  dsimp only
  rcases @selectAgentForTask_head t ⟨s!"{org.id}-{item.taskId}-{digits}", org.id, none, item.objective,
    item.allocatedCredits, .pending⟩ org item.assignedRole with ⟨a, best, selected⟩ | ⟨none_, e, refused⟩
  · rw [selected, best]
    exact ⟨rfl, determine_eq _ (bestFor_mem best).2 item.allocatedCredits⟩
  · rw [refused, none_]
    exact ⟨rfl, rfl⟩

end Tasks

section Plans
variable {t : TextRules} {org : Organisation} {plan : List (TaskPlanItem × String)}

theorem credits_eq (plan : List (TaskPlanItem × String)) :
    (decomposeAndPlan t org plan).map Task.allocatedCredits = (plan.map Prod.fst).map (cutFor org) := by
  rw [decomposeAndPlan, List.map_map, List.map_map]
  exact List.map_congr_left fun p _ => (openTask_allocated p.1 p.2).2

theorem credits_of_eq (plan : List (TaskPlanItem × String)) (agentId : String) :
    ((decomposeAndPlan t org plan).filter fun task => task.assignedAgentId = some agentId).map
        Task.allocatedCredits =
      ((plan.map Prod.fst).filter fun item =>
        (bestFor org item.assignedRole).map (fun a => a.id) = some agentId).map (cutFor org) := by
  induction plan with
  | nil => rfl
  | cons p plan ih =>
    obtain ⟨assigned, allocated⟩ := @openTask_allocated t org p.1 p.2
    rw [decomposeAndPlan] at ih ⊢
    rw [List.map_cons, List.map_cons, List.filter_cons, List.filter_cons, assigned]
    split_ifs with his
    · rw [List.map_cons, List.map_cons, allocated, ih]
    · exact ih

/-- For every organisation, budgets and plan. -/
theorem within_iff (t : TextRules) (org : Organisation) (budgets : String → Option Int)
    (plan : List (TaskPlanItem × String)) :
    Within org budgets (decomposeAndPlan t org plan) ↔ Affordable org budgets (plan.map Prod.fst) := by
  constructor
  · intro within
    refine ⟨?_, ?_, ?_⟩
    · intro item mem a best
      obtain ⟨p, planned, rfl⟩ := List.mem_map.mp mem
      obtain ⟨assigned, allocated⟩ := @openTask_allocated t org p.1 p.2
      obtain ⟨there, able⟩ := bestFor_mem best
      have held := within.ceilings _ (List.mem_map_of_mem planned) a there (by rw [assigned, best]; rfl)
      rw [allocated, cutFor, best] at held
      exact (cut_le_iff able _).mp held
    · rw [← credits_eq (t := t)]
      exact within.treasury
    · intro agentId credits set
      rw [← credits_of_eq (t := t)]
      exact within.budgets agentId credits set
  · intro affordable
    refine ⟨?_, ?_, ?_⟩
    · intro task mem a there assigned
      obtain ⟨p, planned, rfl⟩ := List.mem_map.mp mem
      obtain ⟨best, allocated⟩ := @openTask_allocated t org p.1 p.2
      rw [best] at assigned
      obtain ⟨b, chosen, same⟩ := Option.map_eq_some_iff.mp assigned
      obtain ⟨there', able⟩ := bestFor_mem chosen
      obtain rfl := List.inj_on_of_nodup_map org.filed there' there same
      rw [allocated, cutFor, chosen]
      exact (cut_le_iff able _).mpr
        (affordable.ceilings p.1 (List.mem_map_of_mem planned) b chosen)
    · rw [credits_eq]
      exact affordable.treasury
    · intro agentId credits set
      rw [credits_of_eq]
      exact affordable.budgets agentId credits set

theorem loaded_filed {db : Database} {orgId : String} {ledger : Option Int} {stored : StoredOrganisation}
    (consistent : Consistent db) (loads : loadOrganisation db orgId ledger = some stored) :
    (stored.agents.map fun p => p.2.id).Nodup := by
  unfold loadOrganisation at loads
  obtain ⟨row, -, rfl⟩ := Option.map_eq_some_iff.mp loads
  show ((agentsOf db orgId).map fun p => p.2.id).Nodup
  rw [agentsOf, List.map_map]
  exact consistent.agents.sublist (List.filter_sublist.map _)

end Plans

/-- The treasury is allocated; and for every plan, on the organisation as it is at any later time and
on any that is loaded from a database, the tasks' credits are within the ceilings, the treasury and
the budgets that were set if and only if the requests, each cut for the agent that takes it, are. -/
theorem plans_within_iff (t : TextRules) (digits : String) (org : Organisation)
    (strategy : AllocationStrategy) (missionId : Option String) (records : Records)
    (missionType : Option String) :
    ∃ d after, allocate t digits org strategy missionId records missionType = .ok (d, after) ∧
      (∀ (now : Organisation) (plan : List (TaskPlanItem × String)),
        Within now (written org d) (decomposeAndPlan t now plan) ↔
          Affordable now (written org d) (plan.map Prod.fst)) ∧
      ∀ (db : Database) (consistent : Consistent db) (orgId : String) (ledger : Option Int)
        (stored : StoredOrganisation) (loads : loadOrganisation db orgId ledger = some stored)
        (plan : List (TaskPlanItem × String)),
        Within (ofStored stored (loaded_filed consistent loads)) (written org d)
            (decomposeAndPlan t (ofStored stored (loaded_filed consistent loads)) plan) ↔
          Affordable (ofStored stored (loaded_filed consistent loads)) (written org d)
            (plan.map Prod.fst) := by
  obtain ⟨d, after, made, -⟩ := allocate_spec t records missionType strategy org digits missionId
  refine ⟨d, after, made, ?_, ?_⟩
  · intro now plan
    exact within_iff t now (written org d) plan
  · intro db consistent orgId ledger stored loads plan
    exact within_iff t _ (written org d) plan

section Samples

def research (credits : Nat) : TaskPlanItem × String :=
  (⟨"task-01", .researcher, "Research the market", credits⟩, "0123abcd")

def noBudgets (_ : String) : Option Int := none

def organisationRow (treasuryBalance : Int) : AgentRepository.OrganisationRow :=
  ⟨"org-1", "tenant-1", "", treasuryBalance, .executing, ""⟩

def savedWith (treasuryBalance : Int) (a : Agent) : Database :=
  ⟨["tenant-1"], [organisationRow treasuryBalance], [⟨"org-1", a⟩]⟩

theorem savedWith_saved (treasuryBalance : Int) (a : Agent) :
    (AgentRepository.saveOrganisation (.empty ["tenant-1"]) (organisationRow treasuryBalance) >>= fun db =>
      AgentRepository.saveAgent db a "org-1") = .ok (savedWith treasuryBalance a) := rfl

theorem savedWith_consistent (treasuryBalance : Int) (a : Agent) :
    Consistent (savedWith treasuryBalance a) := by
  constructor
  · exact List.nodup_singleton _
  · intro row mem
    rw [List.mem_singleton.mp mem]
    exact List.mem_cons_self

def storedWith (treasuryBalance : Int) (a : Agent) : StoredOrganisation :=
  { organisationRow treasuryBalance with agents := [(a.id, a)] }

theorem savedWith_loads (treasuryBalance : Int) (a : Agent) :
    loadOrganisation (savedWith treasuryBalance a) "org-1" none = some (storedWith treasuryBalance a) :=
  rfl

/-- What an agent of a sample is after its allocation. -/
def allocated (ceiling credits : Int) : Member :=
  { member "a" .active ceiling credits with hasAllocatedBalance := true }

theorem single_allocated (treasuryBalance : Int) (strategy : AllocationStrategy) (ceiling credits : Int)
    (busy : ¬idle (single treasuryBalance (member "a" .active ceiling 0)))
    (comes : entitled textRules [] none strategy (single treasuryBalance (member "a" .active ceiling 0))
      (member "a" .active ceiling 0) = credits) :
    ∃ d after, allocate textRules "0123456789ab" (single treasuryBalance (member "a" .active ceiling 0))
        strategy none [] none = .ok (d, after) ∧ after.agents = [allocated ceiling credits] ∧
      ∀ agentId, written (single treasuryBalance (member "a" .active ceiling 0)) d agentId =
        if agentId = "a" then some credits else none := by
  obtain ⟨d, after, made, given⟩ := allocate_spec textRules [] none strategy
    (single treasuryBalance (member "a" .active ceiling 0)) "0123456789ab" none
  have granted : d.allocations.lookup "a" = some credits := by
    have found := given.lookups _ List.mem_cons_self
    rw [comes, if_pos (.inr rfl)] at found
    exact found
  have named : (member "a" .active ceiling 0).id = "a" := rfl
  refine ⟨d, after, made, ?_, ?_⟩
  · rw [given.after, if_neg busy]
    show [(member "a" .active ceiling 0).budgeted d.allocations] = _
    rw [Member.budgeted, named, granted]
    rfl
  · intro agentId
    rw [written, if_neg busy]
    split_ifs with here
    · rw [here, granted]
    · cases found : d.allocations.lookup agentId with
      | none => rfl
      | some other =>
        obtain ⟨a, mem, same⟩ := given.entries _ (mem_of_lookup found)
        obtain rfl := List.mem_singleton.mp mem
        exact absurd ((Prod.mk.inj same).1.trans named) here

/-- Two tasks that an agent's budget is enough for, after a reload. -/
theorem sample_within :
    ∃ d after, allocate textRules "0123456789ab" (single 100 (member "a" .active 25 0)) .performance none []
        none = .ok (d, after) ∧ after.agents = [allocated 25 25] ∧
      Within (ofStored (storedWith 100 (allocated 25 25).toAgent)
          (loaded_filed (savedWith_consistent 100 _) (savedWith_loads 100 _)))
        (written (single 100 (member "a" .active 25 0)) d)
        (decomposeAndPlan textRules (ofStored (storedWith 100 (allocated 25 25).toAgent)
          (loaded_filed (savedWith_consistent 100 _) (savedWith_loads 100 _))) [research 10, research 10]) := by
  obtain ⟨d, after, made, agents, set⟩ := single_allocated 100 .performance 25 25 (by decide +kernel)
    (by decide +kernel)
  obtain ⟨d', after', made', -, loaded⟩ := plans_within_iff textRules "0123456789ab"
    (single 100 (member "a" .active 25 0)) .performance none [] none
  obtain ⟨rfl, rfl⟩ := Prod.mk.inj (Except.ok.inj (made.symm.trans made'))
  refine ⟨d, after, made, agents, (loaded (savedWith 100 (allocated 25 25).toAgent) (savedWith_consistent 100 _)
    "org-1" none _ (savedWith_loads 100 _) [research 10, research 10]).mpr ⟨?_, by decide +kernel, ?_⟩⟩
  · intro item _ a best
    rw [List.mem_singleton.mp (bestFor_mem best).1]
    exact ⟨by decide, .inl (by decide)⟩
  · intro agentId credits known
    rw [set] at known
    split_ifs at known with here
    rw [here, ← Option.some.inj known]
    decide +kernel

/-- A restricted agent is given more than its ceiling; two tasks take the treasury twice over, and
two others an agent's budget; and a budget of nothing is forgotten when the agent is loaded. -/
theorem bounds_exceeded :
    ¬Within (single 100 (member "a" .restricted 2 0)) noBudgets
      (decomposeAndPlan textRules (single 100 (member "a" .restricted 2 0)) [research 5]) ∧
    ¬Within (single 20 (member "a" .active 25 0)) noBudgets
      (decomposeAndPlan textRules (single 20 (member "a" .active 25 0)) [research 20, research 20]) ∧
    (∃ d after, allocate textRules "0123456789ab" (single 100 (member "a" .active 10 0)) .performance
        none [] none = .ok (d, after) ∧ after.agents = [allocated 10 10] ∧
      ¬Within (single 100 (allocated 10 10)) (written (single 100 (member "a" .active 10 0)) d)
        (decomposeAndPlan textRules (single 100 (allocated 10 10)) [research 10, research 10])) ∧
    ∃ d after, allocate textRules "0123456789ab" (single 1 (member "a" .active 25 0)) .adaptive none []
        none = .ok (d, after) ∧ after.agents = [allocated 25 0] ∧
      ¬Within (ofStored (storedWith 1 (allocated 25 0).toAgent)
          (loaded_filed (savedWith_consistent 1 _) (savedWith_loads 1 _)))
        (written (single 1 (member "a" .active 25 0)) d)
        (decomposeAndPlan textRules (ofStored (storedWith 1 (allocated 25 0).toAgent)
          (loaded_filed (savedWith_consistent 1 _) (savedWith_loads 1 _))) [research 1]) := by
  refine ⟨?_, ?_, ?_, ?_⟩
  · intro within
    exact absurd (within.ceilings _ List.mem_cons_self _ List.mem_cons_self (by decide +kernel))
      (by decide +kernel)
  · intro within
    exact absurd within.treasury (by decide +kernel)
  · obtain ⟨d, after, made, agents, set⟩ := single_allocated 100 .performance 10 10 (by decide +kernel)
      (by decide +kernel)
    refine ⟨d, after, made, agents, ?_⟩
    intro within
    exact absurd (within.budgets "a" 10 (set "a")) (by decide +kernel)
  · obtain ⟨d, after, made, agents, set⟩ := single_allocated 1 .adaptive 25 0 (by decide +kernel)
      (by decide +kernel)
    refine ⟨d, after, made, agents, ?_⟩
    intro within
    exact absurd (within.budgets "a" 0 (set "a")) (by decide +kernel)

end Samples

end TaskAllocation
