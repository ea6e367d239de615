import KalyxMao.Reputation

/-!
# What a failure or a violation may do to an agent

A loss takes points from the scores, and the lifecycle is then evaluated from
the scores alone: the status is set to the band they fall into, whatever it was,
and the ceiling is set by the band and by the rule for promotion and demotion.
-/

namespace ReputationLosses
open Domain Reputation

section Property

/-- The place of a status in `ACTIVE`, `PROBATION`, `RESTRICTED`, `SUSPENDED`, `RETIRED`. -/
def severity : AgentStatus → ℕ
  | .active => 0
  | .probation => 1
  | .restricted => 2
  | .suspended => 3
  | .retired => 4

/-- The agent may do no more after than before. -/
structure Lowered (before after : Agent) : Prop where
  ceiling : after.authorityCeiling ≤ before.authorityCeiling
  status : severity before.status ≤ severity after.status
  actions : after.allowedActionTypes ⊆ before.allowedActionTypes

/-- The events of `record_task_failure` and `record_policy_violation`. -/
def isLoss : Event → Bool
  | .taskFailure .. => true
  | .policyViolation .. => true
  | _ => false

/-- The scores are in a band at least as severe as the status. -/
def Banded (a : Agent) : Prop :=
  match a.status with
  | .active => True
  | .probation => Falls a 75 70 3
  | .restricted => Falls a 50 50 6
  | .suspended => Falls a 30 30 10
  | .retired => True

/-- The ceiling an active agent gets: that of the promotion it is due, or the least one. -/
def activeCeiling (s : Standing) : ℤ :=
  match s.record with
  | none => 25
  | some record =>
    if 90 ≤ s.agent.performanceScore ∧ 5 ≤ record.evaluationCount then
      min 50 (25 + min 5 (record.authorityLevel + 1) * 5)
    else 25

/-- The ceiling is not below the one that the scores lead to. -/
def Capped (s : Standing) : Prop :=
  if s.agent.status = .retired ∨ Falls s.agent 15 15 15 then 0 ≤ s.agent.authorityCeiling
  else if s.record.isSome ∧ s.agent.performanceScore < 60 then 5 ≤ s.agent.authorityCeiling
  else if Falls s.agent 50 50 6 then 0 ≤ s.agent.authorityCeiling
  else if Falls s.agent 75 70 3 then True
  else activeCeiling s ≤ s.agent.authorityCeiling

/-- The standing after the event is noted and the scores are computed, with the status, the ceiling
and the action types of before. -/
def scoredAfter (s : Standing) (c : Call) : Standing := updateMetrics (noted (c.seen s) c.event)

end Property

section Frame
variable {s : Standing}

theorem updateMetrics_frame (s : Standing) :
    (updateMetrics s).agent.status = s.agent.status ∧
    (updateMetrics s).agent.authorityCeiling = s.agent.authorityCeiling ∧
    (updateMetrics s).agent.allowedActionTypes = s.agent.allowedActionTypes := by
  unfold updateMetrics
  split
  · exact ⟨rfl, rfl, rfl⟩
  · exact ⟨rfl, rfl, rfl⟩

theorem noted_frame (s : Standing) (event : Event) :
    (noted s event).agent.status = s.agent.status ∧
    (noted s event).agent.authorityCeiling = s.agent.authorityCeiling ∧
    (noted s event).agent.allowedActionTypes = s.agent.allowedActionTypes := by
  cases event with
  | _ => exact ⟨rfl, rfl, rfl⟩

/-- Noting and scoring an event leaves what the lifecycle decides about. -/
theorem scoredAfter_frame (s : Standing) (c : Call) :
    (scoredAfter s c).agent.status = s.agent.status ∧
    (scoredAfter s c).agent.authorityCeiling = s.agent.authorityCeiling ∧
    (scoredAfter s c).agent.allowedActionTypes = s.agent.allowedActionTypes := by
  obtain ⟨status, ceiling, actions⟩ := updateMetrics_frame (noted (c.seen s) c.event)
  obtain ⟨status', ceiling', actions'⟩ := noted_frame (c.seen s) c.event
  exact ⟨status.trans status', ceiling.trans ceiling', actions.trans actions'⟩

theorem lowered_congr {before before' after : Agent} (status : before'.status = before.status)
    (ceiling : before'.authorityCeiling = before.authorityCeiling)
    (actions : before'.allowedActionTypes = before.allowedActionTypes) :
    Lowered before' after ↔ Lowered before after := by
  constructor
  · intro lowered
    exact ⟨ceiling ▸ lowered.ceiling, status ▸ lowered.status, actions ▸ lowered.actions⟩
  · intro lowered
    exact ⟨ceiling ▸ lowered.ceiling, status ▸ lowered.status, actions ▸ lowered.actions⟩

end Frame

section Bands
variable {a : Agent} {s : Standing}

theorem falls_suspended (falls : Falls a 15 15 15) : Falls a 30 30 10 :=
  falls.mono (by norm_num) (by norm_num) (by norm_num)

theorem falls_restricted (falls : Falls a 30 30 10) : Falls a 50 50 6 :=
  falls.mono (by norm_num) (by norm_num) (by norm_num)

theorem falls_probation (falls : Falls a 50 50 6) : Falls a 75 70 3 :=
  falls.mono (by norm_num) (by norm_num) (by norm_num)

/-- A band is entered from above exactly if the status is not worse than it. -/
theorem triggered_severity (unretired : a.status ≠ .retired) :
    severity a.status ≤ severity (triggered a).status ↔ Banded a := by
  have suspended := falls_suspended (a := a)
  have restricted := falls_restricted (a := a)
  have probation := falls_probation (a := a)
  unfold triggered Banded
  split_ifs
  all_goals
    cases status : a.status with
    | retired => exact absurd status unretired
    | _ => simp_all [severity]

theorem triggered_actions : (triggered a).allowedActionTypes ⊆ a.allowedActionTypes := by
  unfold triggered
  split_ifs
  · exact List.nil_subset _
  · exact List.nil_subset _
  · exact List.filter_subset_self _
  · exact List.Subset.refl _
  · exact List.Subset.refl _

/-- The status and the ceiling of a band, before promotion and demotion. -/
theorem triggered_cases (a : Agent) :
    (Falls a 15 15 15 ∧ (triggered a).status = .retired ∧ (triggered a).authorityCeiling = 0) ∨
    (¬Falls a 15 15 15 ∧ Falls a 50 50 6 ∧ (triggered a).status ∈ [.restricted, .suspended] ∧
      (triggered a).authorityCeiling = 0) ∨
    (¬Falls a 50 50 6 ∧ Falls a 75 70 3 ∧ (triggered a).status = .probation ∧
      (triggered a).authorityCeiling = min a.authorityCeiling 12) ∨
    (¬Falls a 75 70 3 ∧ (triggered a).status = .active ∧
      (triggered a).authorityCeiling = max a.authorityCeiling 25) := by
  unfold triggered
  split_ifs with retired suspended restricted probation
  · exact .inl ⟨retired, rfl, rfl⟩
  · exact .inr (.inl ⟨retired, falls_restricted suspended, by simp, rfl⟩)
  · exact .inr (.inl ⟨retired, restricted, by simp, rfl⟩)
  · exact .inr (.inr (.inl ⟨restricted, probation, rfl, rfl⟩))
  · exact .inr (.inr (.inr ⟨probation, rfl, rfl⟩))

/-- Without a promotion, the ceiling is only changed by a demotion. -/
theorem adjusted_inactive (inactive : s.agent.status ≠ .active) :
    (adjusted s).agent.authorityCeiling =
      if s.record.isSome ∧ s.agent.performanceScore < 60 ∧ s.agent.status ≠ .retired then
        max 5 (s.agent.authorityCeiling - 5)
      else s.agent.authorityCeiling := by
  unfold adjusted
  cases present : s.record with
  | none => simp
  | some record =>
    dsimp only
    rw [if_neg fun promoted => inactive promoted.1]
    split_ifs <;> simp_all

theorem adjusted_active (active : s.agent.status = .active) (good : 60 ≤ s.agent.performanceScore) :
    (adjusted s).agent.authorityCeiling =
      match s.record with
      | none => s.agent.authorityCeiling
      | some record =>
        if 90 ≤ s.agent.performanceScore ∧ 5 ≤ record.evaluationCount then
          min 50 (25 + min 5 (record.authorityLevel + 1) * 5)
        else s.agent.authorityCeiling := by
  unfold adjusted
  cases present : s.record with
  | none => rfl
  | some record =>
    dsimp only
    simp only [active, true_and]
    rw [if_neg fun demoted : _ ∧ _ => absurd demoted.1 (not_lt.mpr good)]
    split_ifs <;> rfl

/-- The ceiling that the evaluation leaves to an agent that is not retired. -/
theorem adjusted_triggered_ceiling (unretired : s.agent.status ≠ .retired) :
    (adjusted { s with agent := triggered s.agent }).agent.authorityCeiling ≤
      s.agent.authorityCeiling ↔ Capped s := by
  have score : (triggered s.agent).performanceScore = s.agent.performanceScore := triggered_performance
  have inactive := adjusted_inactive (s := { s with agent := triggered s.agent })
  have active := adjusted_active (s := { s with agent := triggered s.agent })
  dsimp only at inactive active
  rw [score] at inactive active
  unfold Capped
  obtain ⟨retired, status, ceiling⟩ | ⟨kept, low, status, ceiling⟩ | ⟨kept, low, status, ceiling⟩ |
    ⟨kept, status, ceiling⟩ := triggered_cases s.agent
  · rw [inactive (by simp [status]), if_neg (by simp [status]), ceiling, if_pos (.inr retired)]
  · have listed : (triggered s.agent).status ≠ .active ∧ (triggered s.agent).status ≠ .retired := by
      simp at status
      rcases status with same | same
      · simp [same]
      · simp [same]
    rw [inactive listed.1, if_neg (not_or_intro unretired kept), ceiling]
    by_cases demoted : s.record.isSome ∧ s.agent.performanceScore < 60
    · rw [if_pos ⟨demoted.1, demoted.2, listed.2⟩, if_pos demoted]
      rfl
    · rw [if_neg fun both => demoted ⟨both.1, both.2.1⟩, if_neg demoted, if_pos low]
  · have lenient : ¬Falls s.agent 15 15 15 := fun same => kept (falls_restricted (falls_suspended same))
    rw [inactive (by simp [status]), if_neg (not_or_intro unretired lenient), ceiling]
    by_cases demoted : s.record.isSome ∧ s.agent.performanceScore < 60
    · rw [if_pos ⟨demoted.1, demoted.2, by simp [status]⟩, if_pos demoted]
      omega
    · rw [if_neg fun both => demoted ⟨both.1, both.2.1⟩, if_neg demoted, if_neg kept, if_pos low]
      exact iff_of_true (min_le_left _ _) trivial
  · have good : 70 ≤ s.agent.performanceScore := by
      by_contra below
      exact kept (.inr (.inl (not_le.mp below)))
    have lenient : ¬Falls s.agent 50 50 6 := fun same => kept (falls_probation same)
    have unbanned : ¬Falls s.agent 15 15 15 := fun same => lenient (falls_restricted (falls_suspended same))
    rw [active status (by linarith), if_neg (not_or_intro unretired unbanned),
      if_neg fun demoted => absurd demoted.2 (by linarith), if_neg lenient, if_neg kept, ceiling]
    unfold activeCeiling
    cases s.record with
    | none => exact max_le_iff.trans (and_iff_right le_rfl)
    | some record =>
      dsimp only
      split_ifs
      · rfl
      · exact max_le_iff.trans (and_iff_right le_rfl)

end Bands

section Losses
variable {s : Standing}

/-- An evaluation takes nothing back exactly if the scores are in a band at least as severe as the
status and lead to no higher ceiling. -/
theorem evaluateLifecycle_lowered_iff :
    Lowered s.agent (evaluateLifecycle s).agent ↔ Banded s.agent ∧ Capped s := by
  unfold evaluateLifecycle
  by_cases retired : s.agent.status = .retired
  · rw [if_pos retired]
    have banded : Banded s.agent := by
      unfold Banded
      rw [retired]
      trivial
    constructor
    · intro lowered
      refine ⟨banded, ?_⟩
      unfold Capped
      rw [if_pos (.inl retired)]
      exact lowered.ceiling
    · rintro ⟨-, capped⟩
      unfold Capped at capped
      rw [if_pos (.inl retired)] at capped
      exact ⟨capped, le_rfl, List.nil_subset _⟩
  · rw [if_neg retired]
    have frame := (adjusted_frame { s with agent := triggered s.agent }).1
    have ceiling := adjusted_triggered_ceiling retired
    have severe := triggered_severity retired
    have status : (adjusted { s with agent := triggered s.agent }).agent.status =
        (triggered s.agent).status := by
      rw [frame]
    have actions : (adjusted { s with agent := triggered s.agent }).agent.allowedActionTypes =
        (triggered s.agent).allowedActionTypes := by
      rw [frame]
    constructor
    · intro lowered
      exact ⟨severe.mp (status ▸ lowered.status), ceiling.mp lowered.ceiling⟩
    · rintro ⟨banded, capped⟩
      exact ⟨ceiling.mpr capped, status ▸ severe.mpr banded, actions ▸ triggered_actions⟩

/-- For every agent and record, a failure or a violation leaves the agent with no higher ceiling, no
better status and no new action type if and only if the scores it leaves are in a band at least as
severe as the status and lead to no higher ceiling. -/
theorem loss_lowers_iff (s : Standing) (c : Call) (loss : isLoss c.event = true) :
    Lowered s.agent (c.run s).agent ↔ Banded (scoredAfter s c).agent ∧ Capped (scoredAfter s c) := by
  have evaluates : c.event.evaluates = true := by
    cases event : c.event with
    | taskFailure => rfl
    | policyViolation => rfl
    | _ => rw [event] at loss; cases loss
  obtain ⟨status, ceiling, actions⟩ := scoredAfter_frame s c
  have ran : (c.run s).agent = (evaluateLifecycle (scoredAfter s c)).agent := by
    unfold Call.run recorded scoredAfter
    rw [if_pos evaluates]
  rw [ran, ← evaluateLifecycle_lowered_iff]
  exact (lowered_congr status ceiling actions).symm

/-- The agent after a failed task for which no record was passed. -/
def restricted : Standing := (Call.run ⟨.taskFailure 10 5 none (some "t-0"), false⟩ fresh)

/-- A restricted agent has a ceiling of zero; another failed task suspends it, and the demotion that
goes with this gives it a ceiling of five. -/
theorem demotion_raises_ceiling : isLoss failure.event = true ∧
    restricted.agent.status = .restricted ∧ restricted.agent.authorityCeiling = 0 ∧
    (failure.run restricted).agent.status = .suspended ∧
    (failure.run restricted).agent.authorityCeiling = 5 ∧
    ¬Lowered restricted.agent (failure.run restricted).agent := by
  have before : restricted.agent.authorityCeiling = 0 := by decide +kernel
  have after : (failure.run restricted).agent.authorityCeiling = 5 := by decide +kernel
  refine ⟨rfl, by decide +kernel, before, by decide +kernel, after, fun lowered => ?_⟩
  have ceiling := lowered.ceiling
  rw [before, after] at ceiling
  exact absurd ceiling (by decide)

/-- A failed task of a fresh agent. -/
theorem fresh_failure_lowers : isLoss failure.event = true ∧
    (Lowered fresh.agent (failure.run fresh).agent ↔
      Banded (scoredAfter fresh failure).agent ∧ Capped (scoredAfter fresh failure)) :=
  ⟨rfl, loss_lowers_iff fresh failure rfl⟩

end Losses

end ReputationLosses
