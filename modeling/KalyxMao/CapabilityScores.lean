import KalyxMao.PolicyEngine
import Mathlib.Tactic.Linarith

/-!
# The score guard of capability grants

The rule takes the smaller of two numbers and then reads it as a share of one
or of a hundred, by whether it is above one. The smaller number is not the
lower score where the two are given on different scales.
-/

namespace CapabilityScores
open PythonText PythonValues PythonConversions Domain PolicyRules PolicyEngine

section Property

inductive Scale where
  | unit
  | percent
  deriving DecidableEq

def Scale.top : Scale → ℚ
  | .unit => 1
  | .percent => 100

/-- A score as it is given, on one of the two scales. -/
structure Score where
  scale : Scale
  value : ℚ
  nonneg : 0 ≤ value
  bounded : value ≤ scale.top

variable (t : RuleText) (minPerformanceThreshold : PyFloat)

/-- A score between zero and one. -/
def Score.normalised (s : Score) : PyFloat :=
  match s.scale with
  | .unit => .finite s.value
  | .percent => t.divHundred (.finite s.value)

/-- The threshold that the guard compares with. -/
def required : PyFloat :=
  if (PyFloat.finite 1).lt minPerformanceThreshold ∨ minPerformanceThreshold = .nan then
    t.divHundred minPerformanceThreshold
  else minPerformanceThreshold

def Reaches (f : PyFloat) : Prop := f.lt (required t minPerformanceThreshold) = false

instance (f : PyFloat) : Decidable (Reaches t minPerformanceThreshold f) :=
  inferInstanceAs (Decidable (_ = false))

/-- Division by a hundred keeps the order of numbers, rounding included. -/
def DividesInOrder : Prop :=
  ∀ p q : ℚ, p ≤ q → ∃ p' q' : ℚ, t.divHundred (.finite p) = .finite p' ∧
    t.divHundred (.finite q) = .finite q' ∧ p' ≤ q'

def targetOf (p : ActionProposal) : PyValue :=
  firstTruthy [get p.parameters "target_agent_id", .str p.proposingAgentId]

def proposerOf (p : ActionProposal) : PyValue :=
  firstTruthy [get p.parameters "proposer_agent_id", .str p.proposingAgentId]

/-- A proposal for an agent of the organisation that is not its proposer. -/
structure Asks (org : PolicyOrganisation) (p : ActionProposal) (target : PolicyAgent) : Prop where
  action : p.actionType = .proposeCapabilityExpansion
  independent : valuesEqual (targetOf p) (proposerOf p) = false
  found : ∃ key, targetOf p = .str key ∧ org.agents.lookup key = some target

/-- The score that a proposal carries. -/
structure Carries (p : ActionProposal) (s : Score) : Prop where
  present : get p.parameters "performance_score" ≠ .none
  read : t.floatOf (get p.parameters "performance_score") = .ok (.finite s.value)

/-- The same proposal without a score. -/
structure Unscored (p p' : ActionProposal) : Prop where
  action : p'.actionType = p.actionType
  target : targetOf p' = targetOf p
  proposer : proposerOf p' = proposerOf p
  absent : get p'.parameters "performance_score" = .none

/-- The guard lets a proposal pass. -/
def Lets (org : PolicyOrganisation) (acting : PolicyAgent) (kw : Keywords) (p : ActionProposal) : Prop :=
  (capabilityEvolutionRule t minPerformanceThreshold).evaluate p acting org kw = .ok none

/-- What passes has both scores reach the threshold, and would have passed on the agent's alone. -/
structure Guarded (org : PolicyOrganisation) (acting : PolicyAgent) (kw : Keywords)
    (p : ActionProposal) (agent param : Score) : Prop where
  both : Lets t minPerformanceThreshold org acting kw p →
    Reaches t minPerformanceThreshold (agent.normalised t) ∧
      Reaches t minPerformanceThreshold (param.normalised t)
  alone : ∀ p', Unscored p p' → Lets t minPerformanceThreshold org acting kw p →
    Lets t minPerformanceThreshold org acting kw p'

/-- Where the smaller number is at most one and reaches the threshold as it stands, a score that is
given as a percentage reaches it as well. -/
def Unmixed (agent param : Score) : Prop :=
  min param.value agent.value ≤ 1 →
    Reaches t minPerformanceThreshold (.finite (min param.value agent.value)) →
      (agent.scale = .percent → Reaches t minPerformanceThreshold (agent.normalised t)) ∧
        (param.scale = .percent → Reaches t minPerformanceThreshold (param.normalised t))

end Property

section Guard
variable {t : RuleText} {minPerformanceThreshold : PyFloat} {org : PolicyOrganisation}
  {acting target : PolicyAgent} {kw : Keywords} {p p' : ActionProposal} {agent param : Score}

theorem lt_finite (p q : ℚ) : (PyFloat.finite p).lt (.finite q) = decide (p < q) := rfl

theorem minFloat_finite (p q : ℚ) : minFloat (.finite p) (.finite q) = .finite (min p q) := by
  unfold minFloat
  rw [lt_finite]
  by_cases less : q < p
  · rw [decide_eq_true less, if_pos rfl, min_eq_right less.le]
  · rw [decide_eq_false less, if_neg (by decide), min_eq_left (not_lt.mp less)]

theorem unitScale_finite (t : RuleText) (q : ℚ) :
    unitScale t (.finite q) = if 1 < q then t.divHundred (.finite q) else .finite q := by
  unfold unitScale
  rw [lt_finite]
  by_cases above : 1 < q
  · rw [decide_eq_true above, if_pos rfl, if_pos above]
  · rw [decide_eq_false above, if_neg (by decide), if_neg above]

/-- The guard lets a score pass that is not below the threshold. -/
theorem verdict_iff (t : RuleText) (threshold score : PyFloat) (objection : String) :
    (if (unitScale t score).lt threshold then Except.ok (some objection) else .ok none : Verdict) =
      .ok none ↔ (unitScale t score).lt threshold = false := by
  split
  · rename_i below
    rw [below]
    simp
  · rename_i notBelow
    simpa using notBelow

theorem lets_scored (asks : Asks org p target) (score : target.performanceScore = .finite agent.value)
    (carries : Carries t p param) : Lets t minPerformanceThreshold org acting kw p ↔
      Reaches t minPerformanceThreshold (unitScale t (.finite (min param.value agent.value))) := by
  obtain ⟨key, named, found⟩ := asks.found
  have independent := asks.independent
  have read := carries.read
  unfold targetOf at named independent
  unfold proposerOf at independent
  unfold Lets capabilityEvolutionRule
  dsimp only
  rw [if_neg (by simp [asks.action]), independent, named]
  simp only [Bool.false_eq_true, if_false, hashable, bind, Except.bind, found]
  split
  · rename_i absent
    exact absurd absent carries.present
  · rw [read, score]
    simp only [Except.map, minFloat_finite]
    exact verdict_iff ..

theorem lets_unscored (asks : Asks org p target) (score : target.performanceScore = .finite agent.value)
    (unscored : Unscored p p') : Lets t minPerformanceThreshold org acting kw p' ↔
      Reaches t minPerformanceThreshold (unitScale t (.finite agent.value)) := by
  obtain ⟨key, named, found⟩ := asks.found
  have independent := asks.independent
  have target_ := unscored.target
  have proposer := unscored.proposer
  rw [← target_] at named
  rw [← target_, ← proposer] at independent
  unfold targetOf at named independent
  unfold proposerOf at independent
  unfold Lets capabilityEvolutionRule
  dsimp only
  rw [if_neg (by simp [unscored.action, asks.action]), independent, named, unscored.absent]
  simp only [Bool.false_eq_true, if_false, hashable, bind, Except.bind, found]
  rw [score]
  exact verdict_iff ..

theorem reaches_mono {p q : ℚ} (order : p ≤ q) (reaches : Reaches t minPerformanceThreshold (.finite p)) :
    Reaches t minPerformanceThreshold (.finite q) := by
  unfold Reaches at *
  cases bound : required t minPerformanceThreshold with
  | finite r =>
    rw [bound, lt_finite, decide_eq_false_iff_not, not_lt] at reaches
    rw [lt_finite, decide_eq_false_iff_not, not_lt]
    exact reaches.trans order
  | inf negative =>
    rw [bound] at reaches
    exact reaches
  | nan => rfl

theorem reaches_divided (divides : DividesInOrder t) {p q : ℚ} (order : p ≤ q)
    (reaches : Reaches t minPerformanceThreshold (t.divHundred (.finite p))) :
    Reaches t minPerformanceThreshold (t.divHundred (.finite q)) := by
  obtain ⟨p', q', hp, hq, order'⟩ := divides p q order
  rw [hp] at reaches
  rw [hq]
  exact reaches_mono order' reaches

/-- A number above one is given as a percentage. -/
theorem Score.percent_of_above {s : Score} (above : 1 < s.value) : s.scale = .percent := by
  have bounded := s.bounded
  cases scale : s.scale with
  | unit =>
    rw [scale] at bounded
    exact absurd above (not_lt.mpr bounded)
  | percent => rfl

theorem Score.normalised_above {s : Score} (above : 1 < s.value) :
    s.normalised t = t.divHundred (.finite s.value) := by
  rw [Score.normalised, Score.percent_of_above above]

/-- A score reaches the threshold if its number does, unless it is a percentage. -/
theorem Score.reaches {s : Score} {q : ℚ} (order : q ≤ s.value)
    (reaches : Reaches t minPerformanceThreshold (.finite q))
    (percent : s.scale = .percent → Reaches t minPerformanceThreshold (s.normalised t)) :
    Reaches t minPerformanceThreshold (s.normalised t) := by
  cases scale : s.scale with
  | unit =>
    rw [Score.normalised, scale]
    exact reaches_mono order reaches
  | percent => exact percent scale

end Guard

/-- For every agent's score and every score that a proposal carries, on either scale: what passes
the guard has both scores reach the threshold and would have passed without the carried score, if
and only if no percentage below the threshold is beside a number up to one that reaches it. -/
theorem guarded_iff (t : RuleText) (divides : DividesInOrder t) (minPerformanceThreshold : PyFloat)
    (org : PolicyOrganisation) (acting target : PolicyAgent) (kw : Keywords) (p : ActionProposal)
    (agent param : Score) (asks : Asks org p target)
    (score : target.performanceScore = .finite agent.value) (carries : Carries t p param) :
    Guarded t minPerformanceThreshold org acting kw p agent param ↔
      Unmixed t minPerformanceThreshold agent param := by
  have scored : Lets t minPerformanceThreshold org acting kw p ↔ _ := lets_scored asks score carries
  have lowerAgent : min param.value agent.value ≤ agent.value := min_le_right _ _
  have lowerParam : min param.value agent.value ≤ param.value := min_le_left _ _
  rw [unitScale_finite] at scored
  constructor
  · intro guarded small reaches
    rw [if_neg (not_lt.mpr small)] at scored
    obtain ⟨agentReaches, paramReaches⟩ := guarded.both (scored.mpr reaches)
    exact ⟨fun _ => agentReaches, fun _ => paramReaches⟩
  · intro unmixed
    by_cases above : 1 < min param.value agent.value
    · rw [if_pos above] at scored
      have agentAbove : 1 < agent.value := lt_of_lt_of_le above lowerAgent
      have paramAbove : 1 < param.value := lt_of_lt_of_le above lowerParam
      refine ⟨?_, ?_⟩
      · intro lets
        rw [Score.normalised_above agentAbove, Score.normalised_above paramAbove]
        exact ⟨reaches_divided divides lowerAgent (scored.mp lets),
          reaches_divided divides lowerParam (scored.mp lets)⟩
      · intro p' unscored lets
        rw [lets_unscored asks score unscored, unitScale_finite, if_pos agentAbove]
        exact reaches_divided divides lowerAgent (scored.mp lets)
    · rw [if_neg above] at scored
      refine ⟨?_, ?_⟩
      · intro lets
        have reaches := scored.mp lets
        obtain ⟨agentPercent, paramPercent⟩ := unmixed (not_lt.mp above) reaches
        exact ⟨Score.reaches lowerAgent reaches agentPercent,
          Score.reaches lowerParam reaches paramPercent⟩
      · intro p' unscored lets
        have reaches := scored.mp lets
        obtain ⟨agentPercent, -⟩ := unmixed (not_lt.mp above) reaches
        rw [lets_unscored asks score unscored, unitScale_finite]
        split
        · rename_i agentAbove
          rw [← Score.normalised_above agentAbove]
          exact agentPercent (Score.percent_of_above agentAbove)
        · exact reaches_mono lowerAgent reaches

section Samples

/-- The float `0.80`. -/
def eighty : PyFloat := .finite (3602879701896397 / 4503599627370496)

def worker (score : ℚ) : PolicyAgent :=
  { sampleAgent with id := "worker", performanceScore := .finite score }

def team (score : ℚ) : PolicyOrganisation :=
  ⟨"o", "tenant-demo", 100, .planning, [("worker", worker score)]⟩

def expansion (score : ℚ) : ActionProposal where
  id := "prop-1"
  taskId := "task-1"
  proposingAgentId := "ceo"
  actionType := .proposeCapabilityExpansion
  target := "capability://ADVANCED_ANALYTICS"
  parameters := [("target_agent_id", .str "worker"), ("performance_score", .float (.finite score))]
  requestedCredits := 0

def percentage (value : ℚ) (bounds : 0 ≤ value ∧ value ≤ 100) : Score :=
  ⟨.percent, value, bounds.1, bounds.2⟩

def nineTenths : Score := ⟨.unit, 9 / 10, by decide +kernel, by decide +kernel⟩

def fifty : Score := percentage 50 (by decide +kernel)

def eightyFive : Score := percentage 85 (by decide +kernel)

def ninety : Score := percentage 90 (by decide +kernel)

theorem plain_divides : DividesInOrder plainText := by
  intro p q order
  exact ⟨p / 100, q / 100, rfl, rfl, by linarith⟩

theorem expansion_asks (score param : ℚ) : Asks (team score) (expansion param) (worker score) := by
  refine ⟨rfl, ?_, "worker", ?_, rfl⟩
  · rfl
  · rfl

theorem expansion_carries (s : Score) : Carries plainText (expansion s.value) s := by
  refine ⟨?_, rfl⟩
  intro absent
  cases absent

/-- Two percentages are compared as what they are. -/
theorem percentages_guarded :
    Guarded plainText eighty (team 90) sampleAgent ⟨none, none⟩ (expansion 85) ninety eightyFive := by
  refine (guarded_iff plainText plain_divides eighty (team 90) sampleAgent (worker 90) ⟨none, none⟩
    (expansion 85) ninety eightyFive (expansion_asks 90 85) rfl (expansion_carries eightyFive)).mpr ?_
  intro small
  exact absurd small (by decide +kernel)

/-- Nine tenths let an agent pass that has fifty of a hundred. -/
theorem fraction_lifts_percentage :
    Lets plainText eighty (team 50) sampleAgent ⟨none, none⟩ (expansion (9 / 10)) ∧
      ¬Guarded plainText eighty (team 50) sampleAgent ⟨none, none⟩ (expansion (9 / 10)) fifty nineTenths := by
  have own : (worker 50).performanceScore = .finite fifty.value := rfl
  have lets : Lets plainText eighty (team 50) sampleAgent ⟨none, none⟩ (expansion (9 / 10)) :=
    (lets_scored (expansion_asks 50 (9 / 10)) own (expansion_carries nineTenths)).mpr (by decide +kernel)
  refine ⟨lets, ?_⟩
  intro guarded
  exact absurd (guarded.both lets).1 (by decide +kernel)

end Samples

end CapabilityScores
