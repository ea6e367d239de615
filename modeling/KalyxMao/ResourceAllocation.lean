import KalyxMao.ProportionalShares
import KalyxMao.PythonConversions
import KalyxMao.Reputation

/-!
# Allocating the treasury to agents

Suspended and retired agents take no part. The strategies differ in what an
agent asks for: an equal share under caps of its status, or the whole part of a
share proportional to its weight, which agents of some statuses have fixed.
Arithmetic is exact; what is divided, cut and rounded follows the source.
-/

namespace ResourceAllocation
open PythonText PythonConversions Domain Reputation ProportionalShares
open PolicyRules (AgentRole)

section Model

inductive AllocationStrategy where
  | static
  | performance
  | adaptive
  deriving DecidableEq

/-- An agent and the mark that an allocation leaves on its record in memory. -/
structure Member extends Agent where
  hasAllocatedBalance : Bool

/-- An organisation; its agents are filed under their ids. -/
structure Organisation where
  id : String
  tenantId : String
  treasuryBalance : Int
  agents : List Member
  filed : (agents.map fun a => a.id).Nodup

abbrev Records := List (String × AgentPerformanceRecord)

structure ResourceAllocationDecision where
  id : String
  tenantId : String
  organisationId : String
  missionId : Option String
  strategy : AllocationStrategy
  treasuryAvailable : Int
  totalAllocated : Int
  allocations : List (String × Int)
  authorityLimits : List (String × Int)
  rationale : String

def eligible (a : Member) : Bool := a.status ≠ .suspended && a.status ≠ .retired

section Static

def staticShare (share : Int) (a : Member) : Int :=
  match a.status with
  | .restricted => min 5 share
  | .probation => min a.authorityCeiling (min 12 share)
  | _ => min a.authorityCeiling share

/-- `_allocate_static`. -/
def allocateStatic (agents : List Member) (treasury : Int) : List (String × Int) × String :=
  let share := treasury / agents.length
  (agents.map fun a => (a.id, staticShare share a),
    s!"Static equal division: {share} credits per eligible agent (capped by authority)")

end Static

section Weighted
variable (t : TextRules) (records : Records) (missionType : Option String)

/-- The scores of an agent as they are read: from its performance record, where there is one. -/
structure Scores where
  composite : ℚ
  performance : ℚ
  reliability : ℚ
  efficiency : ℚ
  compliance : ℚ
  reputation : ℚ

def scoresOf (a : Member) : Scores :=
  match records.lookup a.id with
  | some perf => ⟨perf.compositeScore, perf.performanceScore, perf.reliabilityScore,
      perf.resourceEfficiencyScore, perf.policyComplianceScore, a.reputationScore⟩
  | none => ⟨a.performanceScore, a.performanceScore, a.reliabilityScore, a.resourceEfficiency, 100,
      a.reputationScore⟩

/-- `scores` of `_allocate_performance`. -/
def performanceWeight (a : Member) : ℚ :=
  match a.status with
  | .restricted => 5
  | _ => max 1 (scoresOf records a).composite

/-- The boost of the role that the kind of mission calls for. -/
def roleBoost (role : AgentRole) : ℚ :=
  match missionType with
  | none => 1
  | some mission =>
    if mission = "" then 1
    else
      let lowered := t.lower mission
      if isIn "financial" lowered || isIn "market" lowered || isIn "liquidity" lowered then
        if role = .financialAnalyst then 13 / 10 else 1
      else if isIn "research" lowered || isIn "analysis" lowered then
        if role = .researcher then 13 / 10 else 1
      else if isIn "strategy" lowered || isIn "governance" lowered then
        if role = .strategist then 13 / 10 else 1
      else 1

/-- The adaptive composite factor. -/
def combined (role : AgentRole) (s : Scores) : ℚ :=
  (30 / 100 * (s.performance / 100) + 25 / 100 * (s.reliability / 100) +
    20 / 100 * min (3 / 2) s.efficiency + 15 / 100 * (s.compliance / 100) +
    10 / 100 * (s.reputation / 100)) * roleBoost t missionType role

/-- `weights` of `_allocate_adaptive`. -/
def adaptiveWeight (a : Member) : ℚ :=
  match a.status with
  | .restricted => 2
  | .probation => 8
  | _ => max (1 / 10) (combined t missionType a.role (scoresOf records a))

def scarcityMultiplier (treasury : Int) : ℚ :=
  if 50 ≤ treasury then 1 else if treasury < 20 then 1 / 2 else 3 / 4

def scarcityText (treasury : Int) : String :=
  if 50 ≤ treasury then "1.0" else if treasury < 20 then "0.5" else "0.75"

/-- The order of `sorted(agents, key=lambda a: (-weights[a.id], a.id))`. -/
def precedes (weight : Member → ℚ) (a b : Member) : Prop :=
  weight b < weight a ∨ (weight a = weight b ∧ a.id ≤ b.id)

instance (weight : Member → ℚ) : DecidableRel (precedes weight) :=
  fun a b => inferInstanceAs (Decidable (weight b < weight a ∨ (weight a = weight b ∧ a.id ≤ b.id)))

/-- The loop over the sorted agents; `share` is what an agent's ceiling then cuts. -/
def shareOut (weight : Member → ℚ) (share : Member → Int) (treasury : Int) (agents : List Member) :
    List (String × Int) :=
  (handOut (fun a => min a.authorityCeiling (share a)) treasury 0
    (agents.insertionSort (precedes weight))).map fun p => (p.1.id, p.2)

/-- `_allocate_performance`. -/
def allocatePerformance (agents : List Member) (treasury : Int) : List (String × Int) × String :=
  let weight := performanceWeight records
  let totalScore := (agents.map weight).sum
  (shareOut weight (fun a => truncate (weight a / totalScore * treasury)) treasury agents,
    "Performance-weighted proportional allocation based on demonstrated composite scores")

/-- `_allocate_adaptive`. -/
def allocateAdaptive (agents : List Member) (treasury : Int) : List (String × Int) × String :=
  let weight := adaptiveWeight t records missionType
  let totalWeight := (agents.map weight).sum
  (shareOut weight
      (fun a => truncate (weight a / totalWeight * treasury * scarcityMultiplier treasury))
      treasury agents,
    "Adaptive allocation: multi-factor weighted with scarcity damping " ++
      s!"(factor {scarcityText treasury}) and mission alignment")

def allocateBy (strategy : AllocationStrategy) (agents : List Member) (treasury : Int) :
    List (String × Int) × String :=
  match strategy with
  | .static => allocateStatic agents treasury
  | .performance => allocatePerformance records agents treasury
  | .adaptive => allocateAdaptive t records missionType agents treasury

end Weighted

/-- What an agent is after the budgets were written back. -/
def Member.budgeted (allocations : List (String × Int)) (a : Member) : Member :=
  match allocations.lookup a.id with
  | some credit => { a with creditBalance := credit, hasAllocatedBalance := true }
  | none => a

theorem Member.budgeted_id (allocations : List (String × Int)) (a : Member) :
    (a.budgeted allocations).id = a.id := by
  unfold Member.budgeted
  split
  · rfl
  · rfl

def Organisation.budgeted (org : Organisation) (allocations : List (String × Int)) : Organisation where
  id := org.id
  tenantId := org.tenantId
  treasuryBalance := org.treasuryBalance
  agents := org.agents.map fun a => a.budgeted allocations
  filed := by
    rw [List.map_map]
    have same : ((fun a : Member => a.id) ∘ fun a : Member => a.budgeted allocations) =
        fun a : Member => a.id := funext fun a => a.budgeted_id allocations
    rw [same]
    exact org.filed

/-- `allocate`; `digits` are those of the decision's id. -/
def allocate (t : TextRules) (digits : String) (org : Organisation) (strategy : AllocationStrategy)
    (missionId : Option String) (records : Records) (missionType : Option String) :
    Except PyError (ResourceAllocationDecision × Organisation) :=
  let treasury := max 0 org.treasuryBalance
  let eligibleAgents := org.agents.filter eligible
  let decision : ResourceAllocationDecision :=
    { id := s!"alloc-{digits}"
      tenantId := org.tenantId
      organisationId := org.id
      missionId
      strategy
      treasuryAvailable := treasury
      totalAllocated := 0
      allocations := org.agents.map fun a => (a.id, 0)
      authorityLimits := org.agents.map fun a => (a.id, a.authorityCeiling)
      rationale := "Zero eligible agents or exhausted treasury" }
  if eligibleAgents = [] ∨ treasury = 0 then .ok (decision, org)
  else
    let (allocations, rationale) := allocateBy t records missionType strategy eligibleAgents treasury
    let totalAllocated := (allocations.map Prod.snd).sum
    if treasury < totalAllocated then
      .error ⟨.otherException,
        s!"Conservation violated: total allocated ({totalAllocated}) > treasury ({treasury})"⟩
    else
      .ok ({ decision with
        totalAllocated
        allocations
        authorityLimits := eligibleAgents.map fun a => (a.id, a.authorityCeiling)
        rationale }, org.budgeted allocations)

end Model

section Property

def idle (org : Organisation) : Prop := org.agents.filter eligible = [] ∨ org.treasuryBalance ≤ 0

instance (org : Organisation) : Decidable (idle org) :=
  inferInstanceAs (Decidable (org.agents.filter eligible = [] ∨ org.treasuryBalance ≤ 0))

/-- The credits that a decision names for an agent. -/
def ResourceAllocationDecision.granted (d : ResourceAllocationDecision) (agentId : String) : Int :=
  (d.allocations.lookup agentId).getD 0

/-- What the class guarantees, and that the agents' balances are the allocations. -/
structure Sound (org : Organisation) (d : ResourceAllocationDecision) (after : Organisation) : Prop where
  nonneg : ∀ p ∈ d.allocations, 0 ≤ p.2
  capped : ∀ a ∈ org.agents, d.granted a.id ≤ a.authorityCeiling
  conserved : (d.allocations.map Prod.snd).sum ≤ max 0 org.treasuryBalance
  members : after.agents.map (fun a => a.id) = org.agents.map fun a => a.id
  balances : ∀ a ∈ after.agents, a.creditBalance = d.granted a.id

/-- Who gets no share had no credits before. -/
def Cleared (org : Organisation) : Prop :=
  ∀ a ∈ org.agents, idle org ∨ eligible a = false → a.creditBalance = 0

/-- A restricted agent's equal share, up to five credits, is within its ceiling. -/
def RestrictedWithin (org : Organisation) : Prop :=
  ¬idle org → ∀ a ∈ org.agents, a.status = .restricted →
    min 5 (org.treasuryBalance / (org.agents.filter eligible).length) ≤ a.authorityCeiling

end Property

section Budgets
variable (t : TextRules) (records : Records) (missionType : Option String)

/-- The weight of an agent where shares are proportional. -/
def weightOf (strategy : AllocationStrategy) : Member → ℚ :=
  match strategy with
  | .static => fun _ => 1
  | .performance => performanceWeight records
  | .adaptive => adaptiveWeight t records missionType

def damping (strategy : AllocationStrategy) (treasury : Int) : ℚ :=
  match strategy with
  | .adaptive => scarcityMultiplier treasury
  | _ => 1

/-- The whole part of a proportional share. -/
def proportion (strategy : AllocationStrategy) (agents : List Member) (treasury : Int) (a : Member) : Int :=
  ⌊weightOf t records missionType strategy a /
    (agents.map (weightOf t records missionType strategy)).sum * treasury * damping strategy treasury⌋

/-- What an eligible agent is allocated, whatever the order. -/
def budget (strategy : AllocationStrategy) (agents : List Member) (treasury : Int) (a : Member) : Int :=
  match strategy with
  | .static => staticShare (treasury / agents.length) a
  | strategy => max 0 (min a.authorityCeiling (proportion t records missionType strategy agents treasury a))

end Budgets

section Shares
variable (t : TextRules) (records : Records) (missionType : Option String)
  (strategy : AllocationStrategy) {agents : List Member} {treasury : Int}

theorem weightOf_pos (a : Member) :
    0 < weightOf t records missionType strategy a := by
  cases strategy with
  | static => exact one_pos
  | performance =>
    show 0 < performanceWeight records a
    unfold performanceWeight
    split
    · norm_num
    · exact lt_of_lt_of_le one_pos (le_max_left _ _)
  | adaptive =>
    show 0 < adaptiveWeight t records missionType a
    unfold adaptiveWeight
    split
    · norm_num
    · norm_num
    · exact lt_of_lt_of_le (by norm_num) (le_max_left _ _)

theorem damping_bounds (treasury : Int) :
    0 ≤ damping strategy treasury ∧ damping strategy treasury ≤ 1 := by
  cases strategy with
  | static => exact ⟨zero_le_one, le_refl _⟩
  | performance => exact ⟨zero_le_one, le_refl _⟩
  | adaptive =>
    show 0 ≤ scarcityMultiplier treasury ∧ scarcityMultiplier treasury ≤ 1
    unfold scarcityMultiplier
    split_ifs
    · norm_num
    · norm_num
    · norm_num

theorem total_pos (some_ : agents ≠ []) :
    0 < (agents.map (weightOf t records missionType strategy)).sum := by
  apply List.sum_pos
  · intro q mem
    obtain ⟨a, -, rfl⟩ := List.mem_map.mp mem
    exact weightOf_pos t records missionType strategy a
  · simpa using some_

theorem share_nonneg (some_ : agents ≠ []) (funded : 0 ≤ treasury) (a : Member) :
    0 ≤ weightOf t records missionType strategy a /
      (agents.map (weightOf t records missionType strategy)).sum * treasury * damping strategy treasury := by
  have weight := (weightOf_pos t records missionType strategy a).le
  have total := (total_pos t records missionType strategy some_).le
  have funds : (0 : ℚ) ≤ treasury := by exact_mod_cast funded
  exact mul_nonneg (mul_nonneg (div_nonneg weight total) funds) (damping_bounds strategy treasury).1

theorem proportion_nonneg (some_ : agents ≠ []) (funded : 0 ≤ treasury) (a : Member) :
    0 ≤ proportion t records missionType strategy agents treasury a :=
  Int.floor_nonneg.mpr (share_nonneg t records missionType strategy some_ funded a)

theorem sum_proportion_le (some_ : agents ≠ []) (funded : 0 ≤ treasury) :
    (agents.map (proportion t records missionType strategy agents treasury)).sum ≤ treasury := by
  have funds : (0 : ℚ) ≤ treasury := by exact_mod_cast funded
  have within := sum_floor_le agents (total_pos t records missionType strategy some_) funds
    (damping_bounds strategy treasury).2
  exact_mod_cast within

theorem sum_uncut_le (some_ : agents ≠ []) (funded : 0 ≤ treasury) :
    (agents.map fun a => max 0 (min a.authorityCeiling
      (proportion t records missionType strategy agents treasury a))).sum ≤ treasury := by
  refine le_trans (List.sum_le_sum ?_) (sum_proportion_le t records missionType strategy some_ funded)
  intro a _
  exact max_le (proportion_nonneg t records missionType strategy some_ funded a) (min_le_right _ _)

theorem staticShare_le (share : Int) (a : Member) : staticShare share a ≤ share := by
  unfold staticShare
  split
  · exact min_le_right _ _
  · exact le_trans (min_le_right _ _) (min_le_right _ _)
  · exact min_le_right _ _

theorem sum_budget_le (some_ : agents ≠ []) (funded : 0 ≤ treasury) :
    (agents.map (budget t records missionType strategy agents treasury)).sum ≤ treasury := by
  cases strategy with
  | static =>
    have share : ∀ l : List Member, (l.map (staticShare (treasury / agents.length))).sum ≤
        l.length * (treasury / agents.length) := by
      intro l
      induction l with
      | nil => simp
      | cons a l ih =>
        have one := staticShare_le (treasury / agents.length) a
        simp only [List.map_cons, List.sum_cons, List.length_cons, Nat.cast_add, Nat.cast_one]
        linarith
    exact (share agents).trans (Int.mul_ediv_self_le (by simpa using some_))
  | performance => exact sum_uncut_le t records missionType _ some_ funded
  | adaptive => exact sum_uncut_le t records missionType _ some_ funded

/-- The ceiling cuts a share; nothing else does. -/
theorem shareOut_eq {weight : Member → ℚ} {share : Member → Int}
    (within : (agents.map fun a => max 0 (min a.authorityCeiling (share a))).sum ≤ treasury) :
    shareOut weight share treasury agents = (agents.insertionSort (precedes weight)).map fun a =>
      (a.id, max 0 (min a.authorityCeiling (share a))) := by
  have sorted := List.perm_insertionSort (precedes weight) agents
  rw [shareOut, handOut_eq, List.map_map]
  · rfl
  · rw [zero_add, (sorted.map _).sum_eq]
    exact within

/-- Each eligible agent gets its budget, in some order. -/
theorem allocateBy_eq (some_ : agents ≠ []) (funded : 0 ≤ treasury) :
    ∃ order : List Member, order.Perm agents ∧ (allocateBy t records missionType strategy agents treasury).1 =
      order.map fun a => (a.id, budget t records missionType strategy agents treasury a) := by
  cases strategy with
  | static => exact ⟨agents, .refl _, rfl⟩
  | performance =>
    refine ⟨_, List.perm_insertionSort (precedes (performanceWeight records)) agents, ?_⟩
    have shares : (fun a => truncate (performanceWeight records a /
        (agents.map (performanceWeight records)).sum * treasury)) =
        proportion t records missionType .performance agents treasury := by
      funext a
      have nonneg := share_nonneg t records missionType .performance some_ funded a
      rw [proportion, ← truncate_nonneg nonneg]
      exact congrArg truncate (mul_one _).symm
    show shareOut _ _ treasury agents = _
    rw [shares]
    exact shareOut_eq (sum_uncut_le t records missionType _ some_ funded)
  | adaptive =>
    refine ⟨_, List.perm_insertionSort (precedes (adaptiveWeight t records missionType)) agents, ?_⟩
    have shares : (fun a => truncate (adaptiveWeight t records missionType a /
        (agents.map (adaptiveWeight t records missionType)).sum * treasury *
          scarcityMultiplier treasury)) =
        proportion t records missionType .adaptive agents treasury := by
      funext a
      exact truncate_nonneg (share_nonneg t records missionType .adaptive some_ funded a)
    show shareOut _ _ treasury agents = _
    rw [shares]
    exact shareOut_eq (sum_uncut_le t records missionType _ some_ funded)

end Shares

section Filed
variable {l : List Member} {f : Member → Int}

theorem lookup_filed (filed : (l.map fun a => a.id).Nodup) {a : Member} (mem : a ∈ l) :
    (l.map fun a => (a.id, f a)).lookup a.id = some (f a) := by
  induction l with
  | nil => cases mem
  | cons b l ih =>
    rw [List.map_cons, List.nodup_cons] at filed
    obtain ⟨new, rest⟩ := filed
    rw [List.map_cons, List.lookup_cons]
    rcases List.mem_cons.mp mem with rfl | mem
    · rw [beq_self_eq_true]
    · have ne : a.id ≠ b.id := fun same => new (same ▸ List.mem_map_of_mem mem)
      rw [beq_eq_false_iff_ne.mpr ne]
      exact ih rest mem

theorem mem_of_lookup {allocations : List (String × Int)} {id : String} {credit : Int}
    (found : allocations.lookup id = some credit) : (id, credit) ∈ allocations := by
  induction allocations with
  | nil => cases found
  | cons p allocations ih =>
    rw [List.lookup_cons] at found
    split at found
    · rename_i same
      rw [beq_iff_eq.mp same, ← Option.some.inj found]
      exact List.mem_cons_self
    · exact List.mem_cons_of_mem _ (ih found)

theorem lookup_unfiled {id : String} (absent : ∀ a ∈ l, a.id ≠ id) :
    (l.map fun a => (a.id, f a)).lookup id = none := by
  cases found : (l.map fun a => (a.id, f a)).lookup id with
  | none => rfl
  | some credit =>
    obtain ⟨a, mem, same⟩ := List.mem_map.mp (mem_of_lookup found)
    exact absurd (Prod.mk.inj same).1 (absent a mem)

end Filed

section Allocating
variable (t : TextRules) (records : Records) (missionType : Option String)

/-- What an allocation comes to for an agent of the organisation. -/
def entitled (strategy : AllocationStrategy) (org : Organisation) (a : Member) : Int :=
  if idle org ∨ eligible a = false then 0
  else budget t records missionType strategy (org.agents.filter eligible) org.treasuryBalance a

/-- What is known of an allocation. -/
structure Allocated (strategy : AllocationStrategy) (org : Organisation)
    (d : ResourceAllocationDecision) (after : Organisation) : Prop where
  lookups : ∀ a ∈ org.agents, d.allocations.lookup a.id =
    if idle org ∨ eligible a then some (entitled t records missionType strategy org a) else none
  entries : ∀ p ∈ d.allocations, ∃ a ∈ org.agents,
    p = (a.id, entitled t records missionType strategy org a)
  conserved : (d.allocations.map Prod.snd).sum ≤ max 0 org.treasuryBalance
  after : after = if idle org then org else org.budgeted d.allocations

variable {t records missionType} {strategy : AllocationStrategy} {org : Organisation}

theorem eligible_filed (org : Organisation) :
    ((org.agents.filter eligible).map fun a => a.id).Nodup :=
  org.filed.sublist (List.filter_sublist.map _)

theorem entitled_idle (still : idle org) (a : Member) : entitled t records missionType strategy org a = 0 :=
  if_pos (.inl still)

theorem entitled_eligible (busy : ¬idle org) {a : Member} (takes : eligible a = true) :
    entitled t records missionType strategy org a =
      budget t records missionType strategy (org.agents.filter eligible) org.treasuryBalance a := by
  refine if_neg ?_
  rintro (still | out)
  · exact busy still
  · rw [takes] at out
    cases out

variable (t records missionType strategy org) in
/-- An allocation never raises. -/
theorem allocate_spec (digits : String) (missionId : Option String) :
    ∃ d after, allocate t digits org strategy missionId records missionType = .ok (d, after) ∧
      Allocated t records missionType strategy org d after := by
  unfold allocate
  by_cases still : idle org
  · have early : org.agents.filter eligible = [] ∨ max 0 org.treasuryBalance = 0 := by
      rcases still with none_ | poor
      · exact .inl none_
      · exact .inr (max_eq_left poor)
    dsimp only
    rw [if_pos early]
    refine ⟨_, _, rfl, ?_, ?_, ?_, (if_pos still).symm⟩
    · intro a mem
      rw [if_pos (.inl still), entitled_idle still]
      exact lookup_filed org.filed mem
    · intro p mem
      obtain ⟨a, there, rfl⟩ := List.mem_map.mp mem
      exact ⟨a, there, by rw [entitled_idle still]⟩
    · dsimp only
      rw [List.map_map, List.sum_eq_zero (by simp)]
      exact le_max_left _ _
  · have some_ : org.agents.filter eligible ≠ [] := fun none_ => still (.inl none_)
    have funded : 0 < org.treasuryBalance := Int.not_le.mp fun poor => still (.inr poor)
    have treasury : max 0 org.treasuryBalance = org.treasuryBalance := max_eq_right funded.le
    have late : ¬(org.agents.filter eligible = [] ∨ org.treasuryBalance = 0) := by
      rintro (none_ | poor)
      · exact some_ none_
      · omega
    obtain ⟨order, perm, shared⟩ := allocateBy_eq t records missionType strategy some_ funded.le
    have total := sum_budget_le t records missionType strategy some_ funded.le
    have sum : ((order.map fun a => (a.id, budget t records missionType strategy
        (org.agents.filter eligible) org.treasuryBalance a)).map Prod.snd).sum ≤
          org.treasuryBalance := by
      rw [List.map_map, (perm.map _).sum_eq]
      exact total
    dsimp only
    rw [treasury, if_neg late, shared, if_neg (by omega)]
    refine ⟨_, _, rfl, ?_, ?_, ?_, (if_neg still).symm⟩
    · intro a mem
      dsimp only
      have filed : (order.map fun a => a.id).Nodup := (perm.map _).nodup_iff.mpr (eligible_filed org)
      by_cases takes : eligible a = true
      · rw [if_pos (.inr takes), entitled_eligible still takes]
        exact lookup_filed filed (perm.mem_iff.mpr (List.mem_filter.mpr ⟨mem, takes⟩))
      · rw [if_neg (by simp [still, takes])]
        apply lookup_unfiled
        intro b taken same
        obtain ⟨there, takes'⟩ := List.mem_filter.mp (perm.mem_iff.mp taken)
        exact takes (List.inj_on_of_nodup_map org.filed there mem same ▸ takes')
    · intro p mem
      obtain ⟨a, taken, rfl⟩ := List.mem_map.mp mem
      obtain ⟨there, takes⟩ := List.mem_filter.mp (perm.mem_iff.mp taken)
      exact ⟨a, there, by rw [entitled_eligible still takes]⟩
    · dsimp only
      rw [treasury]
      exact sum

theorem Allocated.granted {d : ResourceAllocationDecision} {after : Organisation}
    (given : Allocated t records missionType strategy org d after) {a : Member} (mem : a ∈ org.agents) :
    d.granted a.id = entitled t records missionType strategy org a := by
  rw [ResourceAllocationDecision.granted, given.lookups a mem]
  split
  · rfl
  · rename_i out
    rw [not_or, Bool.not_eq_true] at out
    exact (if_pos (.inr out.2)).symm

end Allocating

section Soundness
variable {t : TextRules} {records : Records} {missionType : Option String}
  {strategy : AllocationStrategy} {org : Organisation}

theorem staticShare_nonneg {share : Int} (nonneg : 0 ≤ share) {a : Member}
    (ceiling : 0 ≤ a.authorityCeiling) : 0 ≤ staticShare share a := by
  unfold staticShare
  split
  · omega
  · omega
  · omega

theorem entitled_nonneg {a : Member} (ceiling : 0 ≤ a.authorityCeiling) :
    0 ≤ entitled t records missionType strategy org a := by
  unfold entitled
  split
  · exact le_refl 0
  · rename_i busy
    have funded : 0 ≤ org.treasuryBalance := by
      by_contra poor
      exact busy (.inl (.inr (by omega)))
    cases strategy with
    | static => exact staticShare_nonneg (Int.ediv_nonneg funded (by omega)) ceiling
    | performance => exact le_max_left _ _
    | adaptive => exact le_max_left _ _

/-- Only a restricted agent's equal share is not cut to the ceiling. -/
theorem staticShare_le_ceiling {share : Int} {a : Member} :
    staticShare share a ≤ a.authorityCeiling ↔
      (a.status = .restricted → min 5 share ≤ a.authorityCeiling) := by
  unfold staticShare
  split
  · rename_i restricted
    simp [restricted]
  · rename_i probation
    simp [probation]
  · rename_i notRestricted _
    constructor
    · intro _ restricted
      exact (notRestricted restricted).elim
    · intro _
      exact min_le_left _ _

variable (t records missionType strategy) in
theorem capped_iff (ceilings : ∀ a ∈ org.agents, 0 ≤ a.authorityCeiling) :
    (∀ a ∈ org.agents, entitled t records missionType strategy org a ≤ a.authorityCeiling) ↔
      (strategy = .static → RestrictedWithin org) := by
  have eligible_restricted : ∀ a : Member, a.status = .restricted → eligible a = true := by
    intro a restricted
    simp [eligible, restricted]
  constructor
  · intro capped static busy a mem restricted
    have within := capped a mem
    rw [entitled_eligible busy (eligible_restricted a restricted), static] at within
    exact staticShare_le_ceiling.mp within restricted
  · intro within a mem
    have ceiling := ceilings a mem
    unfold entitled
    split
    · exact ceiling
    · rename_i out
      rw [not_or] at out
      cases strategy with
      | static => exact staticShare_le_ceiling.mpr (within rfl out.1 a mem)
      | performance => exact max_le ceiling (min_le_left _ _)
      | adaptive => exact max_le ceiling (min_le_left _ _)

theorem balances_iff {d : ResourceAllocationDecision} {after : Organisation}
    (given : Allocated t records missionType strategy org d after) :
    (∀ a ∈ after.agents, a.creditBalance = d.granted a.id) ↔ Cleared org := by
  by_cases still : idle org
  · have same : after = org := by rw [given.after, if_pos still]
    subst same
    constructor
    · intro balances a mem _
      rw [balances a mem, given.granted mem, entitled_idle still]
    · intro cleared a mem
      rw [cleared a mem (.inl still), given.granted mem, entitled_idle still]
  · have written : after = org.budgeted d.allocations := by rw [given.after, if_neg still]
    subst written
    have balance : ∀ a ∈ org.agents, (a.budgeted d.allocations).creditBalance =
        if eligible a then d.granted a.id else a.creditBalance := by
      intro a mem
      rw [Member.budgeted, ResourceAllocationDecision.granted, given.lookups a mem]
      by_cases takes : eligible a = true
      · simp [takes]
      · simp [still, takes]
    have none_granted : ∀ a ∈ org.agents, eligible a = false → d.granted a.id = 0 := by
      intro a mem out
      rw [given.granted mem]
      exact if_pos (.inr out)
    constructor
    · intro balances a mem out
      have out : eligible a = false := out.resolve_left still
      have here := balances _ (List.mem_map_of_mem mem)
      rw [balance a mem, Member.budgeted_id, out, none_granted a mem out] at here
      exact here
    · intro cleared a' mem'
      obtain ⟨a, mem, rfl⟩ := List.mem_map.mp mem'
      rw [balance a mem, Member.budgeted_id]
      split
      · rfl
      · rename_i out
        rw [Bool.not_eq_true] at out
        rw [cleared a mem (.inr out), none_granted a mem out]

/-- For every organisation with ceilings that are not negative and every strategy, an allocation
is made. It keeps what the class guarantees, and leaves every agent with its allocation, if and
only if no restricted agent's equal share is above its ceiling and who gets no share had no
credits before. -/
theorem allocation_sound_iff (t : TextRules) (digits : String) (org : Organisation)
    (strategy : AllocationStrategy) (missionId : Option String) (records : Records)
    (missionType : Option String) (ceilings : ∀ a ∈ org.agents, 0 ≤ a.authorityCeiling) :
    ∃ d after, allocate t digits org strategy missionId records missionType = .ok (d, after) ∧
      (Sound org d after ↔ (strategy = .static → RestrictedWithin org) ∧ Cleared org) := by
  obtain ⟨d, after, made, given⟩ := allocate_spec t records missionType strategy org
    digits missionId
  refine ⟨d, after, made, ?_⟩
  constructor
  · intro sound
    refine ⟨(capped_iff t records missionType strategy ceilings).mp ?_,
      (balances_iff given).mp sound.balances⟩
    intro a mem
    rw [← given.granted mem]
    exact sound.capped a mem
  · rintro ⟨within, cleared⟩
    refine ⟨?_, ?_, given.conserved, ?_, (balances_iff given).mpr cleared⟩
    · intro p mem
      obtain ⟨a, there, rfl⟩ := given.entries p mem
      exact entitled_nonneg (ceilings a there)
    · intro a mem
      rw [given.granted mem]
      exact (capped_iff t records missionType strategy ceilings).mpr within a mem
    · rw [given.after]
      split
      · rfl
      · rw [Organisation.budgeted, List.map_map]
        exact List.map_congr_left fun a _ => a.budgeted_id d.allocations

end Soundness

section Samples

def textRules : TextRules := asciiRules fun _ => "0.0"

def member (id : String) (status : AgentStatus) (ceiling credits : Int) : Member :=
  { freshAgent with
    id, status, authorityCeiling := ceiling, creditBalance := credits, hasAllocatedBalance := false }

def single (treasuryBalance : Int) (a : Member) : Organisation :=
  ⟨"org-1", "tenant-1", treasuryBalance, [a], List.nodup_singleton _⟩

/-- Five credits are within the ceiling of the restricted agent here. -/
theorem restricted_within_sound :
    (0 : Int) ≤ 20 ∧ ∃ d after, allocate textRules "0123456789ab" (single 100 (member "a" .restricted 20 0))
      .static none [] none = .ok (d, after) ∧ Sound (single 100 (member "a" .restricted 20 0)) d after := by
  obtain ⟨d, after, made, sound⟩ := allocation_sound_iff textRules "0123456789ab"
    (single 100 (member "a" .restricted 20 0)) .static none [] none (by decide)
  refine ⟨by decide, d, after, made, sound.mpr ⟨?_, ?_⟩⟩
  · intro _ _
    decide
  · intro a mem _
    rw [List.mem_singleton.mp mem]
    rfl

/-- A restricted agent is allocated more than its ceiling; and where the treasury is exhausted, an
agent that is allocated nothing keeps its credits. -/
theorem allocation_unsound :
    (∃ d after, allocate textRules "0123456789ab" (single 100 (member "a" .restricted 2 0))
      .static none [] none = .ok (d, after) ∧ ¬d.granted "a" ≤ 2 ∧
      ¬Sound (single 100 (member "a" .restricted 2 0)) d after) ∧
    ∃ d after, allocate textRules "0123456789ab" (single 0 (member "a" .active 20 7))
      .performance none [] none = .ok (d, after) ∧ d.granted "a" = 0 ∧
      ¬Sound (single 0 (member "a" .active 20 7)) d after := by
  constructor
  · refine ⟨_, _, rfl, by decide, ?_⟩
    intro sound
    exact absurd (sound.capped _ List.mem_cons_self) (by decide)
  · refine ⟨_, _, rfl, by decide, ?_⟩
    intro sound
    exact absurd (sound.balances _ List.mem_cons_self) (by decide)

end Samples

end ResourceAllocation
