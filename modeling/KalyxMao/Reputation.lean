import KalyxMao.DecimalRounding
import KalyxMao.PolicyRules
import KalyxMao.StepRuns

/-!
# Scores, statuses and authority ceilings of agents

Every event is noted on the agent and on the performance record that comes with
it, the scores are computed afresh, and three kinds of events then evaluate the
lifecycle. Scores are exact rationals here; the weights, thresholds and places
of rounding are the source's.
-/

namespace Reputation
open PythonText Domain DecimalRounding StepRuns
open PolicyRules (AgentRole)

section Model

/-- An agent with the data its lifecycle is decided by. -/
structure Agent extends AgentRecord where
  role : AgentRole
  modelName : String
  creditBalance : Int
  reputationScore : ℚ
  successfulTasks : ℕ
  failedTasks : ℕ
  policyViolations : ℕ
  performanceScore : ℚ
  riskScore : ℚ
  resourceEfficiency : ℚ
  reliabilityScore : ℚ
  taskHistory : List String
  deriving DecidableEq

structure AgentPerformanceRecord where
  tasksCompleted : ℕ
  tasksFailed : ℕ
  successfulProposals : ℕ
  rejectedProposals : ℕ
  policyViolations : ℕ
  resourcesAllocated : ℤ
  resourcesConsumed : ℤ
  valueProduced : ℚ
  executionSuccesses : ℕ
  executionFailures : ℕ
  recoverySuccesses : ℕ
  recoveryFailures : ℕ
  performanceScore : ℚ
  reliabilityScore : ℚ
  resourceEfficiencyScore : ℚ
  policyComplianceScore : ℚ
  compositeScore : ℚ
  reputationScore : ℚ
  authorityLevel : ℤ
  evaluationCount : ℕ

/-- An agent and the performance record that is passed along, if there is one. -/
structure Standing where
  agent : Agent
  record : Option AgentPerformanceRecord

def successBoost : ℚ := 3
def failurePenalty : ℚ := 5
def policyViolationPenalty : ℚ := 10
def weightPerformance : ℚ := 35 / 100
def weightReliability : ℚ := 25 / 100
def weightEfficiency : ℚ := 20 / 100
def weightCompliance : ℚ := 20 / 100

def round2 (q : ℚ) : ℚ := roundTo 2 q

/-- `max(0.0, min(100.0, q))`. -/
def clamp (q : ℚ) : ℚ := max 0 (min 100 q)

section Metrics

def taskSuccessRate (a : Agent) : ℚ := a.successfulTasks / (a.successfulTasks + a.failedTasks : ℕ)

def perfScore (a : Agent) : ℚ := taskSuccessRate a * 100

def complianceScore (a : Agent) : ℚ := max 0 (100 - 10 * a.policyViolations)

def relBase (s : Standing) : ℚ :=
  let base := taskSuccessRate s.agent * (complianceScore s.agent / 100) * 100
  match s.record with
  | none => base
  | some record =>
    let total := record.executionSuccesses + record.executionFailures
    if 0 < total then base * (6 / 10) + record.executionSuccesses / total * 40 else base

def reliability (s : Standing) : ℚ := round2 (clamp (relBase s))

def effRatio (s : Standing) : ℚ :=
  match s.record with
  | none => s.agent.resourceEfficiency
  | some record =>
    if 0 < record.resourcesConsumed then record.valueProduced / record.resourcesConsumed
    else s.agent.resourceEfficiency

def normEff (s : Standing) : ℚ := min 100 (max 0 (effRatio s * 100))

def composite (s : Standing) : ℚ :=
  round2 (clamp (weightPerformance * perfScore s.agent + weightReliability * reliability s +
    weightEfficiency * normEff s + weightCompliance * complianceScore s.agent))

/-- No task has been finished: everything but the reputation is put back. -/
def untried (s : Standing) : Standing where
  agent := { s.agent with reliabilityScore := 100, performanceScore := 100 }
  record := s.record.map fun record => { record with
    performanceScore := 100
    reliabilityScore := 100
    resourceEfficiencyScore := 1
    policyComplianceScore := 100
    compositeScore := 100
    reputationScore := round2 (clamp s.agent.reputationScore) }

def scored (s : Standing) : Standing :=
  let reputation := round2 (clamp s.agent.reputationScore)
  { agent := { s.agent with
      reliabilityScore := reliability s
      performanceScore := composite s
      reputationScore := reputation
      riskScore := round2 (clamp s.agent.riskScore) }
    record := s.record.map fun record => { record with
      performanceScore := round2 (perfScore s.agent)
      reliabilityScore := reliability s
      resourceEfficiencyScore := round2 (effRatio s)
      policyComplianceScore := round2 (complianceScore s.agent)
      compositeScore := composite s
      reputationScore := round2 (clamp reputation) } }

/-- `_update_metrics`. -/
def updateMetrics (s : Standing) : Standing :=
  if s.agent.successfulTasks + s.agent.failedTasks = 0 then untried s else scored s

end Metrics

section Lifecycle

def isSuccess (entry : String) : Bool := startsWith entry "SUCCESS"

def isFailure (entry : String) : Bool := startsWith entry "FAILURE" || startsWith entry "VIOLATION"

/-- The entries counted from the start of a list up to the first that stops the count; others
are passed over. -/
def countUntil (counts stops : String → Bool) : List String → ℕ
  | [] => 0
  | entry :: rest =>
    if counts entry then countUntil counts stops rest + 1
    else if stops entry then 0
    else countUntil counts stops rest

def consecutiveFailures (a : Agent) : ℕ := countUntil isFailure isSuccess a.taskHistory.reverse

/-- One of three measures is below the threshold of a band. -/
def Falls (a : Agent) (scoreBelow compositeBelow : ℚ) (failures : ℕ) : Prop :=
  a.reputationScore < scoreBelow ∨ a.performanceScore < compositeBelow ∨
    failures ≤ consecutiveFailures a

instance (a : Agent) (scoreBelow compositeBelow : ℚ) (failures : ℕ) :
    Decidable (Falls a scoreBelow compositeBelow failures) := inferInstanceAs (Decidable (_ ∨ _ ∨ _))

def highRisk : List ActionType := [.externalApiCall, .simulatedAllocation, .blockchainTransaction]

/-- The downward triggers, in order of severity. -/
def triggered (a : Agent) : Agent :=
  if Falls a 15 15 15 then { a with status := .retired, authorityCeiling := 0, allowedActionTypes := [] }
  else if Falls a 30 30 10 then
    { a with status := .suspended, authorityCeiling := 0, allowedActionTypes := [] }
  else if Falls a 50 50 6 then
    { a with
      status := .restricted
      authorityCeiling := 0
      allowedActionTypes := a.allowedActionTypes.filter (· ∉ highRisk) }
  else if Falls a 75 70 3 then
    { a with status := .probation, authorityCeiling := min a.authorityCeiling 12 }
  else { a with status := .active, authorityCeiling := max a.authorityCeiling 25 }

/-- Promotion and demotion, where there is a record. -/
def adjusted (s : Standing) : Standing :=
  match s.record with
  | none => s
  | some record =>
    if s.agent.status = .active ∧ 90 ≤ s.agent.performanceScore ∧ 5 ≤ record.evaluationCount then
      let level := min 5 (record.authorityLevel + 1)
      { agent := { s.agent with authorityCeiling := min 50 (25 + level * 5) }
        record := some { record with authorityLevel := level } }
    else if s.agent.performanceScore < 60 ∧ s.agent.status ≠ .retired then
      { agent := { s.agent with authorityCeiling := max 5 (s.agent.authorityCeiling - 5) }
        record := some { record with authorityLevel := max 1 (record.authorityLevel - 1) } }
    else s

/-- `_evaluate_lifecycle`. -/
def evaluateLifecycle (s : Standing) : Standing :=
  if s.agent.status = .retired then
    { agent := { s.agent with authorityCeiling := 0, allowedActionTypes := [] }
      record := s.record.map fun record => { record with authorityLevel := 0 } }
  else adjusted { s with agent := triggered s.agent }

end Lifecycle

section Events

inductive Event where
  | taskSuccess (creditsAllocated creditsUsed : ℤ) (valueScore : ℚ) (taskId : Option String)
  | taskFailure (creditsAllocated creditsUsed : ℤ) (reason taskId : Option String)
  | policyViolation (details taskId : Option String)
  | proposalOutcome (approved : Bool)
  | executionOutcome (succeeded recovered : Bool)

/-- `f"{kind}:{task_id or 'unknown'}"`, with a text behind it if there is one. -/
def historyEntry (kind : String) (taskId note : Option String) : String :=
  let shown := orElse taskId "unknown"
  let entry := s!"{kind}:{shown}"
  let note := orElse note ""
  if note = "" then entry else s!"{entry}:{note}"

def succeeds (a : Agent) (creditsAllocated creditsUsed : ℤ) (valueScore : ℚ)
    (taskId : Option String) : Agent :=
  let ratio := creditsAllocated / (max 1 creditsUsed : ℤ) * max (1 / 10) valueScore
  let bounded := min 2 (max 0 ratio)
  let named := orElse taskId ""
  { a with
    successfulTasks := a.successfulTasks + 1
    taskHistory := a.taskHistory ++ [if named = "" then "SUCCESS" else s!"SUCCESS:{named}"]
    resourceEfficiency :=
      if 0 < creditsAllocated ∧ 0 ≤ creditsUsed then
        round2 (7 / 10 * a.resourceEfficiency + 3 / 10 * bounded)
      else a.resourceEfficiency
    reputationScore := min 100 (round2 (a.reputationScore + successBoost)) }

def fails (a : Agent) (creditsUsed : ℤ) (reason taskId : Option String) : Agent :=
  { a with
    failedTasks := a.failedTasks + 1
    taskHistory := a.taskHistory ++ [historyEntry "FAILURE" taskId reason]
    resourceEfficiency :=
      if 0 < creditsUsed then round2 (max (1 / 10) (a.resourceEfficiency * (85 / 100)))
      else a.resourceEfficiency
    reputationScore := clamp (round2 (clamp a.reputationScore - failurePenalty)) }

def violates (a : Agent) (details taskId : Option String) : Agent :=
  { a with
    policyViolations := a.policyViolations + 1
    taskHistory := a.taskHistory ++ [historyEntry "VIOLATION" taskId details]
    reputationScore := clamp (round2 (clamp a.reputationScore - policyViolationPenalty))
    riskScore := min 100 (round2 (a.riskScore + 15)) }

/-- What an event writes down before any score is computed. -/
def noted (s : Standing) : Event → Standing
  | .taskSuccess creditsAllocated creditsUsed valueScore taskId =>
    { agent := succeeds s.agent creditsAllocated creditsUsed valueScore taskId
      record := s.record.map fun record => { record with
        tasksCompleted := record.tasksCompleted + 1
        resourcesAllocated := record.resourcesAllocated + creditsAllocated
        resourcesConsumed := record.resourcesConsumed + creditsUsed
        valueProduced := record.valueProduced + valueScore
        evaluationCount := record.evaluationCount + 1 } }
  | .taskFailure creditsAllocated creditsUsed reason taskId =>
    { agent := fails s.agent creditsUsed reason taskId
      record := s.record.map fun record => { record with
        tasksFailed := record.tasksFailed + 1
        resourcesAllocated := record.resourcesAllocated + creditsAllocated
        resourcesConsumed := record.resourcesConsumed + creditsUsed
        evaluationCount := record.evaluationCount + 1 } }
  | .policyViolation details taskId =>
    { agent := violates s.agent details taskId
      record := s.record.map fun record => { record with
        policyViolations := record.policyViolations + 1
        evaluationCount := record.evaluationCount + 1 } }
  | .proposalOutcome approved =>
    { s with record := s.record.map fun record =>
        if approved then { record with successfulProposals := record.successfulProposals + 1 }
        else { record with rejectedProposals := record.rejectedProposals + 1 } }
  | .executionOutcome succeeded recovered =>
    { s with record := s.record.map fun record =>
        if succeeded then { record with
          executionSuccesses := record.executionSuccesses + 1
          recoverySuccesses := record.recoverySuccesses + recovered.toNat }
        else { record with
          executionFailures := record.executionFailures + 1
          recoveryFailures := record.recoveryFailures + recovered.toNat } }

def Event.evaluates : Event → Bool
  | .proposalOutcome _ => false
  | .executionOutcome _ _ => false
  | _ => true

/-- The `record_*` methods. The two kinds of outcomes do nothing without a record. -/
def recorded (s : Standing) (event : Event) : Standing :=
  if event.evaluates then evaluateLifecycle (updateMetrics (noted s event))
  else if s.record.isSome then updateMetrics (noted s event)
  else s

/-- A call with an event, to which the record is passed or not. -/
structure Call where
  event : Event
  passed : Bool

def Call.seen (c : Call) (s : Standing) : Standing :=
  { s with record := if c.passed then s.record else none }

def Call.run (c : Call) (s : Standing) : Standing :=
  let after := recorded (c.seen s) c.event
  { after with record := if c.passed then after.record else s.record }

end Events

end Model

section Property

def Percent (q : ℚ) : Prop := 0 ≤ q ∧ q ≤ 100

structure AgentRanged (a : Agent) : Prop where
  reputation : Percent a.reputationScore
  performance : Percent a.performanceScore
  risk : Percent a.riskScore
  efficiency : Percent a.resourceEfficiency
  reliability : Percent a.reliabilityScore

structure RecordRanged (record : AgentPerformanceRecord) : Prop where
  performance : Percent record.performanceScore
  reliability : Percent record.reliabilityScore
  efficiency : Percent record.resourceEfficiencyScore
  compliance : Percent record.policyComplianceScore
  composite : Percent record.compositeScore
  reputation : Percent record.reputationScore

/-- All scores are percentages. -/
structure Ranged (s : Standing) : Prop where
  agent : AgentRanged s.agent
  record : ∀ record, s.record = some record → RecordRanged record

/-- Who is restricted or worse has no credits to spend. -/
def Grounded (a : Agent) : Prop :=
  a.status ∈ [.restricted, .suspended, .retired] → a.authorityCeiling = 0

/-- What a call has to keep. -/
structure Kept (s : Standing) (c : Call) : Prop where
  scores : Ranged (c.run s)
  ceiling : c.event.evaluates = true → Grounded (c.run s).agent
  terminal : s.agent.status = .retired → (c.run s).agent.status = .retired

/-- The value delivered per credit that a record is about to store can be read as a percentage,
to half a unit of its last place. -/
def Measured (s : Standing) : Prop :=
  s.record.isSome → s.agent.successfulTasks + s.agent.failedTasks ≠ 0 →
    -(1 / 200) ≤ effRatio s ∧ effRatio s ≤ 100 + 1 / 200

/-- The agent is not both restricted or suspended and demoted by one evaluation. -/
def Spared (s : Standing) : Prop :=
  s.record = none ∨ 60 ≤ s.agent.performanceScore ∨ s.agent.status = .retired ∨
    Falls s.agent 15 15 15 ∨ ¬Falls s.agent 50 50 6

/-- When a call keeps it. -/
structure Meets (s : Standing) (c : Call) : Prop where
  efficiency : Measured (noted (c.seen s) c.event)
  demotion : c.event.evaluates = true → Spared (updateMetrics (noted (c.seen s) c.event))

/-- Every call of a sequence has a property, in the standing that it finds. -/
abbrev AlongCalls (P : Standing → Call → Prop) : Standing → List Call → Prop :=
  Along (fun s c => c.run s) P

end Property

section Scores
variable {q p : ℚ}

theorem percent_clamp (q : ℚ) : Percent (clamp q) :=
  ⟨le_max_left _ _, max_le (by norm_num) (min_le_left _ _)⟩

theorem Percent.round2 (percent : Percent q) : Percent (round2 q) := by
  have between := roundTo_between (m := 0) (n := 100) (q := q) two_ne_zero
    (by exact_mod_cast percent.1) (by exact_mod_cast percent.2)
  exact ⟨by exact_mod_cast between.1, by exact_mod_cast between.2⟩

theorem percent_round2_iff : Percent (round2 q) ↔ -(1 / 200) ≤ q ∧ q ≤ 100 + 1 / 200 := by
  have lower := le_roundTo_iff (q := q) (n := 0) two_ne_zero
  have upper := roundTo_le_iff (q := q) (n := 100) two_ne_zero
  norm_num at lower upper
  unfold Percent round2
  rw [lower, upper]
  norm_num

/-- A non-negative score that is cut off at a hundred after rounding. -/
theorem percent_capped (lower : 0 ≤ q) : Percent (min 100 (round2 q)) := by
  refine ⟨le_min (by norm_num) ?_, min_le_left _ _⟩
  have least := (le_roundTo_iff (q := q) (n := 0) two_ne_zero).mpr
    (by norm_num; linarith)
  exact_mod_cast least

theorem rate_unit (part rest : ℕ) : 0 ≤ (part : ℚ) / (part + rest : ℕ) ∧
    (part : ℚ) / (part + rest : ℕ) ≤ 1 := by
  refine ⟨by positivity, div_le_one_of_le₀ ?_ (by positivity)⟩
  exact_mod_cast Nat.le_add_right part rest

theorem percent_perfScore (a : Agent) : Percent (perfScore a) := by
  obtain ⟨lower, upper⟩ := rate_unit a.successfulTasks a.failedTasks
  unfold perfScore taskSuccessRate
  exact ⟨by linarith, by linarith⟩

theorem percent_complianceScore (a : Agent) : Percent (complianceScore a) := by
  refine ⟨le_max_left _ _, max_le (by norm_num) ?_⟩
  have : (0 : ℚ) ≤ a.policyViolations := Nat.cast_nonneg _
  linarith

theorem percent_reliability (s : Standing) : Percent (reliability s) := (percent_clamp _).round2

theorem percent_composite (s : Standing) : Percent (composite s) := (percent_clamp _).round2

theorem percent_hundred : Percent 100 := ⟨by norm_num, le_refl _⟩

/-- The scores that the computation of the others starts from. -/
structure Based (a : Agent) : Prop where
  reputation : Percent a.reputationScore
  risk : Percent a.riskScore
  efficiency : Percent a.resourceEfficiency

theorem AgentRanged.based {a : Agent} (ranged : AgentRanged a) : Based a :=
  ⟨ranged.reputation, ranged.risk, ranged.efficiency⟩

theorem untried_ranged {s : Standing} (based : Based s.agent) : Ranged (untried s) := by
  constructor
  · exact ⟨based.reputation, percent_hundred, based.risk, based.efficiency, percent_hundred⟩
  · intro record some_
    obtain ⟨before, -, rfl⟩ := Option.map_eq_some_iff.mp some_
    exact ⟨percent_hundred, percent_hundred, ⟨by norm_num, by norm_num⟩, percent_hundred,
      percent_hundred, (percent_clamp _).round2⟩

/-- The scores computed afresh are percentages, the stored efficiency if it is measured. -/
theorem scored_ranged_iff {s : Standing} (based : Based s.agent) :
    Ranged (scored s) ↔ (s.record.isSome → Percent (round2 (effRatio s))) := by
  constructor
  · intro ranged present
    obtain ⟨record, some_⟩ := Option.isSome_iff_exists.mp present
    have made : (scored s).record = some _ := congrArg (Option.map _) some_
    exact (ranged.record _ made).efficiency
  · intro measured
    constructor
    · exact ⟨(percent_clamp _).round2, percent_composite s, (percent_clamp _).round2, based.efficiency,
        percent_reliability s⟩
    · intro record some_
      obtain ⟨before, present, rfl⟩ := Option.map_eq_some_iff.mp some_
      exact ⟨(percent_perfScore _).round2, percent_reliability s, measured (by rw [present]; rfl),
        (percent_complianceScore _).round2, percent_composite s, (percent_clamp _).round2⟩

theorem updateMetrics_ranged_iff {s : Standing} (based : Based s.agent) :
    Ranged (updateMetrics s) ↔ Measured s := by
  unfold updateMetrics Measured
  split
  · rename_i none_
    exact iff_of_true (untried_ranged based) fun _ some_ => absurd none_ some_
  · rename_i some_
    rw [scored_ranged_iff based, percent_round2_iff]
    exact ⟨fun measured present _ => measured present, fun measured present => measured present some_⟩

theorem updateMetrics_agent_ranged {s : Standing} (based : Based s.agent) :
    AgentRanged (updateMetrics s).agent := by
  unfold updateMetrics
  split
  · exact (untried_ranged based).agent
  · exact ⟨(percent_clamp _).round2, percent_composite s, (percent_clamp _).round2, based.efficiency,
      percent_reliability s⟩

theorem updateMetrics_status (s : Standing) : (updateMetrics s).agent.status = s.agent.status := by
  unfold updateMetrics
  split
  · rfl
  · rfl

end Scores

section Noting
variable {s : Standing}

theorem succeeds_based {a : Agent} (based : Based a) (creditsAllocated creditsUsed : ℤ) (valueScore : ℚ)
    (taskId : Option String) : Based (succeeds a creditsAllocated creditsUsed valueScore taskId) := by
  refine ⟨percent_capped ?_, based.risk, ?_⟩
  · have := based.reputation.1
    unfold successBoost
    linarith
  · unfold succeeds
    dsimp only
    split
    · refine Percent.round2 ?_
      obtain ⟨lower, upper⟩ := based.efficiency
      have bounded (q : ℚ) : 0 ≤ min 2 (max 0 q) ∧ min 2 (max 0 q) ≤ 2 :=
        ⟨le_min (by norm_num) (le_max_left _ _), min_le_left _ _⟩
      obtain ⟨least, most⟩ := bounded
        (creditsAllocated / (max 1 creditsUsed : ℤ) * max (1 / 10) valueScore)
      constructor
      · linarith
      · linarith
    · exact based.efficiency

theorem fails_based {a : Agent} (based : Based a) (creditsUsed : ℤ) (reason taskId : Option String) :
    Based (fails a creditsUsed reason taskId) := by
  refine ⟨percent_clamp _, based.risk, ?_⟩
  unfold fails
  dsimp only
  split
  · obtain ⟨lower, upper⟩ := based.efficiency
    refine Percent.round2 ⟨le_max_of_le_left (by norm_num), max_le (by norm_num) ?_⟩
    linarith
  · exact based.efficiency

theorem violates_based {a : Agent} (based : Based a) (details taskId : Option String) :
    Based (violates a details taskId) := by
  refine ⟨percent_clamp _, percent_capped ?_, based.efficiency⟩
  have := based.risk.1
  linarith

theorem noted_based (based : Based s.agent) (event : Event) : Based (noted s event).agent := by
  cases event with
  | taskSuccess creditsAllocated creditsUsed valueScore taskId =>
    exact succeeds_based based creditsAllocated creditsUsed valueScore taskId
  | taskFailure creditsAllocated creditsUsed reason taskId =>
    exact fails_based based creditsUsed reason taskId
  | policyViolation details taskId => exact violates_based based details taskId
  | proposalOutcome approved => exact based
  | executionOutcome succeeded recovered => exact based

theorem noted_status (event : Event) : (noted s event).agent.status = s.agent.status := by
  cases event with
  | _ => rfl

theorem noted_record (event : Event) : (noted s event).record.isSome = s.record.isSome := by
  cases event with
  | _ => exact Option.isSome_map

end Noting

section Bands
variable {a : Agent} {s : Standing}

theorem Falls.mono {scoreBelow scoreBelow' compositeBelow compositeBelow' : ℚ} {failures failures' : ℕ}
    (falls : Falls a scoreBelow compositeBelow failures) (score : scoreBelow ≤ scoreBelow')
    (composite : compositeBelow ≤ compositeBelow') (fewer : failures' ≤ failures) :
    Falls a scoreBelow' compositeBelow' failures' := by
  rcases falls with below | below | many
  · exact .inl (below.trans_le score)
  · exact .inr (.inl (below.trans_le composite))
  · exact .inr (.inr (fewer.trans many))

/-- Restricted or suspended is exactly who falls below the second band and not below the first. -/
theorem triggered_status : (triggered a).status ∈ [.restricted, .suspended] ↔
    Falls a 50 50 6 ∧ ¬Falls a 15 15 15 := by
  unfold triggered
  split
  · rename_i retired
    exact iff_of_false (by simp) fun band => band.2 retired
  · rename_i notRetired
    split
    · rename_i suspended
      exact iff_of_true (by simp) ⟨suspended.mono (by norm_num) (by norm_num) (by norm_num), notRetired⟩
    · split
      · rename_i restricted
        exact iff_of_true (by simp) ⟨restricted, notRetired⟩
      · rename_i notRestricted
        split
        · exact iff_of_false (by simp) fun band => notRestricted band.1
        · exact iff_of_false (by simp) fun band => notRestricted band.1

theorem triggered_grounded : Grounded (triggered a) := by
  unfold Grounded triggered
  split
  · exact fun _ => rfl
  · split
    · exact fun _ => rfl
    · split
      · exact fun _ => rfl
      · split
        · intro band
          simp at band
        · intro band
          simp at band

theorem triggered_performance : (triggered a).performanceScore = a.performanceScore := by
  unfold triggered
  split_ifs <;> rfl

theorem triggered_ranged (ranged : AgentRanged a) : AgentRanged (triggered a) := by
  have := ranged
  unfold triggered
  split_ifs <;> exact ⟨this.reputation, this.performance, this.risk, this.efficiency, this.reliability⟩

end Bands

section Evaluation
variable {s : Standing}

/-- Promotion and demotion touch no score and no status. -/
theorem adjusted_frame (s : Standing) :
    (adjusted s).agent = { s.agent with authorityCeiling := (adjusted s).agent.authorityCeiling } ∧
    ∀ record, (adjusted s).record = some record → ∃ before, s.record = some before ∧
      record = { before with authorityLevel := record.authorityLevel } := by
  unfold adjusted
  split
  · rename_i none_
    exact ⟨rfl, fun record some_ => by rw [none_] at some_; cases some_⟩
  · rename_i before present
    split_ifs
    · exact ⟨rfl, fun record some_ => ⟨before, present, Option.some.inj some_ ▸ rfl⟩⟩
    · exact ⟨rfl, fun record some_ => ⟨before, present, Option.some.inj some_ ▸ rfl⟩⟩
    · refine ⟨rfl, fun record some_ => ⟨before, present, ?_⟩⟩
      obtain rfl := Option.some.inj (present.symm.trans some_)
      rfl

/-- The ceiling that promotion and demotion leave to a restricted or suspended agent. -/
theorem adjusted_ceiling (grounded : s.agent.authorityCeiling = 0)
    (band : s.agent.status ∈ [.restricted, .suspended]) :
    (adjusted s).agent.authorityCeiling = 0 ↔ s.record = none ∨ 60 ≤ s.agent.performanceScore := by
  have inactive : s.agent.status ≠ .active := by
    intro active
    rw [active] at band
    simp at band
  have unretired : s.agent.status ≠ .retired := by
    intro retired
    rw [retired] at band
    simp at band
  unfold adjusted
  split
  · rename_i none_
    exact iff_of_true grounded (.inl none_)
  · rename_i record present
    rw [if_neg fun promoted => inactive promoted.1, present]
    by_cases low : s.agent.performanceScore < 60
    · rw [if_pos ⟨low, unretired⟩, grounded]
      have raised : max (5 : ℤ) (0 - 5) ≠ 0 := by decide
      exact iff_of_false raised (by simp [low])
    · rw [if_neg fun demoted => low demoted.1]
      exact iff_of_true grounded (.inr (not_lt.mp low))

theorem evaluateLifecycle_agent_ranged (ranged : AgentRanged s.agent) :
    AgentRanged (evaluateLifecycle s).agent := by
  unfold evaluateLifecycle
  split
  · exact ⟨ranged.reputation, ranged.performance, ranged.risk, ranged.efficiency, ranged.reliability⟩
  · have after := triggered_ranged ranged
    rw [(adjusted_frame _).1]
    exact ⟨after.reputation, after.performance, after.risk, after.efficiency, after.reliability⟩

theorem evaluateLifecycle_record (s : Standing) (record : AgentPerformanceRecord)
    (some_ : (evaluateLifecycle s).record = some record) :
    ∃ before, s.record = some before ∧ record = { before with authorityLevel := record.authorityLevel } := by
  unfold evaluateLifecycle at some_
  split at some_
  · obtain ⟨before, present, rfl⟩ := Option.map_eq_some_iff.mp some_
    exact ⟨before, present, rfl⟩
  · exact (adjusted_frame { s with agent := triggered s.agent }).2 record some_

theorem evaluateLifecycle_isSome (s : Standing) :
    (evaluateLifecycle s).record.isSome = s.record.isSome := by
  unfold evaluateLifecycle adjusted
  split
  · exact Option.isSome_map
  · split
    · rfl
    · rename_i present
      split_ifs <;> simp_all

/-- The scores are percentages after the lifecycle evaluation if they were before it. -/
theorem evaluateLifecycle_ranged (ranged : Ranged s) : Ranged (evaluateLifecycle s) := by
  constructor
  · exact evaluateLifecycle_agent_ranged ranged.agent
  · intro record some_
    obtain ⟨before, present, same⟩ := evaluateLifecycle_record s record some_
    have after := ranged.record before present
    rw [same]
    exact ⟨after.performance, after.reliability, after.efficiency, after.compliance, after.composite,
      after.reputation⟩

theorem record_ranged_of_evaluated (ranged : Ranged (evaluateLifecycle s)) :
    ∀ record, s.record = some record → RecordRanged record := by
  intro before present
  have some_ : (evaluateLifecycle s).record.isSome := by
    rw [evaluateLifecycle_isSome, present]
    rfl
  obtain ⟨record, found⟩ := Option.isSome_iff_exists.mp some_
  obtain ⟨before', present', same⟩ := evaluateLifecycle_record s record found
  obtain rfl := Option.some.inj (present.symm.trans present')
  have after := ranged.record record found
  rw [same] at after
  exact ⟨after.performance, after.reliability, after.efficiency, after.compliance, after.composite,
    after.reputation⟩

/-- An evaluation grounds a restricted, suspended or retired agent exactly if it is spared. -/
theorem evaluateLifecycle_grounded_iff :
    Grounded (evaluateLifecycle s).agent ↔ Spared s := by
  unfold evaluateLifecycle Spared
  split
  · rename_i retired
    exact iff_of_true (fun _ => rfl) (.inr (.inr (.inl retired)))
  · rename_i unretired
    have status : (adjusted { s with agent := triggered s.agent }).agent.status =
        (triggered s.agent).status := by
      rw [(adjusted_frame _).1]
    by_cases band : (triggered s.agent).status ∈ [.restricted, .suspended]
    · have grounded : (triggered s.agent).authorityCeiling = 0 :=
        triggered_grounded (by simp at band ⊢; tauto)
      have ceiling := adjusted_ceiling (s := { s with agent := triggered s.agent }) grounded band
      obtain ⟨falls, notRetired⟩ := triggered_status.mp band
      unfold Grounded
      rw [status]
      have listed : (triggered s.agent).status ∈ [.restricted, .suspended, .retired] := by
        simp at band ⊢
        tauto
      rw [forall_prop_of_true listed, ceiling]
      dsimp only
      rw [triggered_performance]
      tauto
    · refine iff_of_true ?_ ?_
      · intro low
        rw [status] at low
        have retired : (triggered s.agent).status = .retired := by
          simp at band low
          tauto
        have zero : (triggered s.agent).authorityCeiling = 0 := triggered_grounded (by simp [retired])
        unfold adjusted
        split
        · exact zero
        · rw [if_neg, if_neg]
          · exact zero
          · exact fun demoted => demoted.2 retired
          · intro promoted
            have active : (triggered s.agent).status = .active := promoted.1
            rw [retired] at active
            cases active
      · rw [triggered_status] at band
        tauto

theorem evaluateLifecycle_retired (retired : s.agent.status = .retired) :
    (evaluateLifecycle s).agent.status = .retired := by
  unfold evaluateLifecycle
  rw [if_pos retired]
  exact retired

end Evaluation

section Runs
variable {s : Standing} {c : Call}

theorem recorded_retired (event : Event) (retired : s.agent.status = .retired) :
    (recorded s event).agent.status = .retired := by
  have computed : (updateMetrics (noted s event)).agent.status = .retired := by
    rw [updateMetrics_status, noted_status, retired]
  unfold recorded
  split
  · exact evaluateLifecycle_retired computed
  · split
    · exact computed
    · exact retired

/-- Scores after an event: the efficiency decides. -/
theorem recorded_ranged_iff (ranged : Ranged s) (event : Event) :
    Ranged (recorded s event) ↔ Measured (noted s event) := by
  have based := noted_based ranged.agent.based event
  have computed := updateMetrics_ranged_iff based
  unfold recorded
  split
  · constructor
    · intro after
      exact computed.mp ⟨updateMetrics_agent_ranged based, record_ranged_of_evaluated after⟩
    · intro measured
      exact evaluateLifecycle_ranged (computed.mpr measured)
  · split
    · exact computed
    · rename_i absent
      refine iff_of_true ranged fun present => ?_
      rw [noted_record] at present
      exact absurd present absent

theorem seen_ranged (ranged : Ranged s) (c : Call) : Ranged (c.seen s) := by
  refine ⟨ranged.agent, fun record some_ => ?_⟩
  unfold Call.seen at some_
  dsimp only at some_
  split at some_
  · exact ranged.record record some_
  · cases some_

theorem run_ranged_iff (ranged : Ranged s) (c : Call) :
    Ranged (c.run s) ↔ Measured (noted (c.seen s) c.event) := by
  have after := recorded_ranged_iff (seen_ranged ranged c) c.event
  cases passed : c.passed with
  | true =>
    have same : c.run s = recorded (c.seen s) c.event := by
      unfold Call.run
      rw [passed]
      rfl
    rw [same, after]
  | false =>
    -- without the record nothing is stored that could be out of range
    have absent : (noted (c.seen s) c.event).record.isSome = false := by
      rw [noted_record, Call.seen, passed]
      rfl
    have measured : Measured (noted (c.seen s) c.event) := by
      intro present
      rw [absent] at present
      cases present
    refine iff_of_true ⟨(after.mpr measured).agent, fun record some_ => ?_⟩ measured
    unfold Call.run at some_
    rw [passed] at some_
    exact ranged.record record some_

/-- A call keeps what it has to keep exactly if it meets its condition. -/
theorem kept_iff_meets (ranged : Ranged s) (c : Call) : Kept s c ↔ Meets s c := by
  have ceiling : (c.event.evaluates = true → Grounded (c.run s).agent) ↔
      (c.event.evaluates = true → Spared (updateMetrics (noted (c.seen s) c.event))) := by
    refine forall_congr' fun evaluates => ?_
    rw [← evaluateLifecycle_grounded_iff]
    unfold Call.run recorded
    rw [if_pos evaluates]
  constructor
  · intro kept
    exact ⟨(run_ranged_iff ranged c).mp kept.scores, ceiling.mp kept.ceiling⟩
  · intro meets
    exact ⟨(run_ranged_iff ranged c).mpr meets.efficiency, ceiling.mpr meets.demotion,
      fun retired => recorded_retired c.event retired⟩

/-- For every agent and record whose scores are percentages and every sequence of events: the
scores stay percentages, each evaluation grounds a restricted, suspended or retired agent, and
`RETIRED` is not left, if and only if every call meets its condition. -/
theorem lifecycle_kept_iff (s : Standing) (ranged : Ranged s) (calls : List Call) :
    AlongCalls Kept s calls ↔ AlongCalls Meets s calls :=
  along_iff (fun _ c ranged => kept_iff_meets ranged c) (fun _ _ _ kept => kept.scores) calls ranged

end Runs

section Sample

def freshAgent : Agent where
  id := "agent-1"
  status := .active
  allowedActionTypes := [.internalAnalysis, .externalApiCall]
  authorityCeiling := 25
  role := .researcher
  modelName := "gemini-2.5-flash"
  creditBalance := 0
  reputationScore := 100
  successfulTasks := 0
  failedTasks := 0
  policyViolations := 0
  performanceScore := 100
  riskScore := 0
  resourceEfficiency := 1
  reliabilityScore := 100
  taskHistory := []

def freshRecord : AgentPerformanceRecord where
  tasksCompleted := 0
  tasksFailed := 0
  successfulProposals := 0
  rejectedProposals := 0
  policyViolations := 0
  resourcesAllocated := 0
  resourcesConsumed := 0
  valueProduced := 0
  executionSuccesses := 0
  executionFailures := 0
  recoverySuccesses := 0
  recoveryFailures := 0
  performanceScore := 100
  reliabilityScore := 100
  resourceEfficiencyScore := 1
  policyComplianceScore := 100
  compositeScore := 100
  reputationScore := 100
  authorityLevel := 1
  evaluationCount := 0

def fresh : Standing := ⟨freshAgent, some freshRecord⟩

theorem fresh_ranged : Ranged fresh := by
  have percent (q : ℚ) (lower : 0 ≤ q) (upper : q ≤ 100) : Percent q := ⟨lower, upper⟩
  constructor
  · constructor <;> exact percent _ (by decide +kernel) (by decide +kernel)
  · intro record some_
    obtain rfl := Option.some.inj some_
    constructor <;> exact percent _ (by decide +kernel) (by decide +kernel)

def failure : Call := ⟨.taskFailure 10 5 none (some "t-1"), true⟩

/-- One failed task suspends a fresh agent, whose record then gives it five credits to spend. -/
theorem suspended_agent_demoted_upwards :
    (failure.run fresh).agent.status = .suspended ∧ (failure.run fresh).agent.authorityCeiling = 5 ∧
      ¬AlongCalls Kept fresh [failure] := by
  have status : (failure.run fresh).agent.status = .suspended := by decide +kernel
  have ceiling : (failure.run fresh).agent.authorityCeiling = 5 := by decide +kernel
  refine ⟨status, ceiling, fun kept => ?_⟩
  have grounded := kept.1.ceiling rfl
  have zero := grounded (by simp [status])
  rw [ceiling] at zero
  exact absurd zero (by decide)

def success : Call := ⟨.taskSuccess 10 8 1 (some "t-1"), true⟩

theorem fresh_lifecycle_kept :
    Ranged fresh ∧ (AlongCalls Kept fresh [success] ↔ AlongCalls Meets fresh [success]) :=
  ⟨fresh_ranged, lifecycle_kept_iff fresh fresh_ranged [success]⟩

end Sample

end Reputation
