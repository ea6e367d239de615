import KalyxMao.ReputationLosses
import KalyxMao.ResourceAllocation

/-!
# The order of agents, and who is allocated more

The agents are sorted before they take their shares and no share is ever cut to
what is left, so the order they are stored in does not show. A better agent is
not always allocated more: the weights of restricted agents and of those on
probation are fixed, and a restricted agent's equal share ignores its ceiling.
-/

namespace AllocationOrder
open PythonText PythonConversions ResourceAllocation ProportionalShares
open Domain (AgentStatus)
open ReputationLosses (severity)

section Property
variable (t : TextRules) (records : Records) (missionType : Option String)
  (strategy : AllocationStrategy)

/-- An agent takes part in the role of another and is at least as good in every respect. -/
structure AtLeast (a b : Member) : Prop where
  takes : eligible b = true
  role : a.role = b.role
  status : severity a.status ≤ severity b.status
  ceiling : b.authorityCeiling ≤ a.authorityCeiling
  composite : (scoresOf records b).composite ≤ (scoresOf records a).composite
  performance : (scoresOf records b).performance ≤ (scoresOf records a).performance
  reliability : (scoresOf records b).reliability ≤ (scoresOf records a).reliability
  efficiency : (scoresOf records b).efficiency ≤ (scoresOf records a).efficiency
  compliance : (scoresOf records b).compliance ≤ (scoresOf records a).compliance
  reputation : (scoresOf records b).reputation ≤ (scoresOf records a).reputation

/-- The same allocations, and the same agents after them. -/
structure Alike (d d' : ResourceAllocationDecision) (after after' : Organisation) : Prop where
  allocations : ∀ id, d'.allocations.lookup id = d.allocations.lookup id
  agents : ∀ a, a ∈ after'.agents ↔ a ∈ after.agents

/-- The decision is the same in whatever order the agents are stored, and allocates no less to
an agent that is at least as good. -/
structure Fair (org : Organisation) (d : ResourceAllocationDecision) (after : Organisation) : Prop where
  reordered : ∀ digits missionId (org' : Organisation), org'.agents.Perm org.agents →
    org'.treasuryBalance = org.treasuryBalance → ∃ d' after',
      allocate t digits org' strategy missionId records missionType = .ok (d', after') ∧
        Alike d d' after after'
  monotone : ∀ a ∈ org.agents, ∀ b ∈ org.agents, AtLeast records a b → d.granted b.id ≤ d.granted a.id

/-- What the better of two agents of different status needs for not being allocated less: under
`STATIC`, a ceiling that the restricted agent's share does not exceed; otherwise a weight that is
not below, or a share in whole credits that reaches the other's share or ceiling. -/
def Reaches (agents : List Member) (treasury : Int) (a b : Member) : Prop :=
  match strategy with
  | .static => b.status = .restricted → min 5 (treasury / agents.length) ≤ a.authorityCeiling
  | strategy => weightOf t records missionType strategy a < weightOf t records missionType strategy b →
      b.authorityCeiling ≤ proportion t records missionType strategy agents treasury a ∨
        proportion t records missionType strategy agents treasury b ≤
          proportion t records missionType strategy agents treasury a

/-- Nobody of a better status is overtaken. -/
def Unovertaken (org : Organisation) : Prop :=
  ¬idle org → ∀ a ∈ org.agents, ∀ b ∈ org.agents, AtLeast records a b → a.status ≠ b.status →
    Reaches t records missionType strategy (org.agents.filter eligible) org.treasuryBalance a b

end Property

section Reordering
variable {t : TextRules} {records : Records} {missionType : Option String}
  {strategy : AllocationStrategy} {org org' : Organisation}

theorem idle_perm (perm : org'.agents.Perm org.agents)
    (treasury : org'.treasuryBalance = org.treasuryBalance) : idle org' ↔ idle org := by
  have none_ : org'.agents.filter eligible = [] ↔ org.agents.filter eligible = [] := by
    constructor
    · intro empty
      have here := (perm.filter eligible).symm
      rw [empty] at here
      exact here.eq_nil
    · intro empty
      have here := perm.filter eligible
      rw [empty] at here
      exact here.eq_nil
  rw [idle, idle, none_, treasury]

theorem proportion_perm {agents agents' : List Member} (perm : agents'.Perm agents) (treasury : Int)
    (a : Member) : proportion t records missionType strategy agents' treasury a =
      proportion t records missionType strategy agents treasury a := by
  unfold proportion
  rw [(perm.map (weightOf t records missionType strategy)).sum_eq]

theorem budget_perm {agents agents' : List Member} (perm : agents'.Perm agents) (treasury : Int)
    (a : Member) : budget t records missionType strategy agents' treasury a =
      budget t records missionType strategy agents treasury a := by
  unfold budget
  rw [perm.length_eq]
  simp only [proportion_perm perm]

theorem entitled_perm (perm : org'.agents.Perm org.agents)
    (treasury : org'.treasuryBalance = org.treasuryBalance) (a : Member) :
    entitled t records missionType strategy org' a = entitled t records missionType strategy org a := by
  unfold entitled
  rw [treasury, budget_perm (perm.filter eligible)]
  simp only [idle_perm perm treasury]

theorem alike_of_perm (perm : org'.agents.Perm org.agents)
    (treasury : org'.treasuryBalance = org.treasuryBalance) {d d' : ResourceAllocationDecision}
    {after after' : Organisation} (given : Allocated t records missionType strategy org d after)
    (given' : Allocated t records missionType strategy org' d' after') : Alike d d' after after' := by
  have unnamed : ∀ {org : Organisation} {d : ResourceAllocationDecision} {after : Organisation},
      Allocated t records missionType strategy org d after → ∀ id, (∀ a ∈ org.agents, a.id ≠ id) →
        d.allocations.lookup id = none := by
    intro org d after given id absent
    cases found : d.allocations.lookup id with
    | none => rfl
    | some credit =>
      obtain ⟨a, mem, same⟩ := given.entries _ (mem_of_lookup found)
      exact absurd (Prod.mk.inj same).1.symm (absent a mem)
  have allocations : ∀ id, d'.allocations.lookup id = d.allocations.lookup id := by
    intro id
    by_cases named : ∃ a ∈ org.agents, a.id = id
    · obtain ⟨a, mem, rfl⟩ := named
      rw [given.lookups a mem, given'.lookups a (perm.mem_iff.mpr mem), entitled_perm perm treasury]
      simp only [idle_perm perm treasury]
    · have absent : ∀ a ∈ org.agents, a.id ≠ id := fun a mem same => named ⟨a, mem, same⟩
      rw [unnamed given id absent, unnamed given' id fun a mem => absent a (perm.mem_iff.mp mem)]
  refine ⟨allocations, ?_⟩
  intro a
  rw [given.after, given'.after]
  by_cases still : idle org
  · rw [if_pos still, if_pos ((idle_perm perm treasury).mpr still)]
    exact perm.mem_iff
  · rw [if_neg still, if_neg fun still' => still ((idle_perm perm treasury).mp still')]
    have same : ∀ b : Member, b.budgeted d'.allocations = b.budgeted d.allocations := by
      intro b
      rw [Member.budgeted, Member.budgeted, allocations]
    show a ∈ org'.agents.map _ ↔ a ∈ org.agents.map _
    rw [List.map_congr_left fun b _ => same b]
    exact (perm.map _).mem_iff

end Reordering

section Standing
variable {t : TextRules} {records : Records} {missionType : Option String}
  {strategy : AllocationStrategy} {agents : List Member} {treasury : Int} {a b : Member}

theorem eligible_iff (a : Member) : eligible a = true ↔ severity a.status ≤ 2 := by
  unfold eligible severity
  cases a.status <;> decide

theorem AtLeast.takes_too (order : AtLeast records a b) : eligible a = true := by
  rw [eligible_iff]
  exact order.status.trans ((eligible_iff b).mp order.takes)

theorem roleBoost_pos (role : PolicyRules.AgentRole) : 0 < roleBoost t missionType role := by
  unfold roleBoost
  split
  · norm_num
  · dsimp only
    split_ifs
    all_goals norm_num

theorem combined_mono (order : AtLeast records a b) :
    combined t missionType b.role (scoresOf records b) ≤
      combined t missionType a.role (scoresOf records a) := by
  unfold combined
  rw [order.role]
  refine mul_le_mul_of_nonneg_right ?_ (roleBoost_pos b.role).le
  have efficiency : min (3 / 2) (scoresOf records b).efficiency ≤
      min (3 / 2) (scoresOf records a).efficiency := min_le_min_left _ order.efficiency
  linarith [order.performance, order.reliability, order.compliance, order.reputation]

/-- Within one status a better agent weighs no less. -/
theorem weightOf_mono (order : AtLeast records a b) (same : a.status = b.status) :
    weightOf t records missionType strategy b ≤ weightOf t records missionType strategy a := by
  cases strategy with
  | static => exact le_refl _
  | performance =>
    show performanceWeight records b ≤ performanceWeight records a
    unfold performanceWeight
    rw [same]
    split
    · exact le_refl _
    · exact max_le_max_left _ order.composite
  | adaptive =>
    show adaptiveWeight t records missionType b ≤ adaptiveWeight t records missionType a
    unfold adaptiveWeight
    rw [same]
    split
    · exact le_refl _
    · exact le_refl _
    · exact max_le_max_left _ (combined_mono order)

theorem proportion_mono (some_ : agents ≠ []) (funded : 0 ≤ treasury)
    (order : weightOf t records missionType strategy b ≤ weightOf t records missionType strategy a) :
    proportion t records missionType strategy agents treasury b ≤
      proportion t records missionType strategy agents treasury a :=
  floor_share_mono order (total_pos t records missionType strategy some_) (by exact_mod_cast funded)
    (damping_bounds strategy treasury).1

/-- Of two shares under their ceilings, the one with the higher ceiling is no less where it
reaches the other's ceiling or share. -/
theorem cut_le_iff {c c' p p' : Int} (ceiling : c ≤ c') (nonneg : 0 ≤ p) (nonneg' : 0 ≤ p') :
    max 0 (min c p) ≤ max 0 (min c' p') ↔ c ≤ p' ∨ p ≤ p' := by
  omega

theorem staticShare_mono {share : Int} (order : AtLeast records a b) :
    staticShare share b ≤ staticShare share a ↔
      (a.status ≠ b.status → b.status = .restricted → min 5 share ≤ a.authorityCeiling) := by
  have ceiling := order.ceiling
  have status := order.status
  have takes := order.takes
  unfold eligible at takes
  unfold severity at status
  unfold staticShare
  cases ha : a.status <;> cases hb : b.status <;> simp_all

theorem budget_mono_iff (some_ : agents ≠ []) (funded : 0 ≤ treasury) (order : AtLeast records a b) :
    budget t records missionType strategy agents treasury b ≤
        budget t records missionType strategy agents treasury a ↔
      (a.status ≠ b.status → Reaches t records missionType strategy agents treasury a b) := by
  have weighted : max 0 (min b.authorityCeiling (proportion t records missionType strategy agents treasury b)) ≤
      max 0 (min a.authorityCeiling (proportion t records missionType strategy agents treasury a)) ↔
      (a.status ≠ b.status →
        weightOf t records missionType strategy a < weightOf t records missionType strategy b →
        b.authorityCeiling ≤ proportion t records missionType strategy agents treasury a ∨
          proportion t records missionType strategy agents treasury b ≤
            proportion t records missionType strategy agents treasury a) := by
    rw [cut_le_iff order.ceiling (proportion_nonneg t records missionType strategy some_ funded b)
      (proportion_nonneg t records missionType strategy some_ funded a)]
    constructor
    · intro reaches _ _
      exact reaches
    · intro reaches
      by_cases lighter : weightOf t records missionType strategy a < weightOf t records missionType strategy b
      · by_cases same : a.status = b.status
        · exact absurd (weightOf_mono order same) (not_le.mpr lighter)
        · exact reaches same lighter
      · exact .inr (proportion_mono some_ funded (not_lt.mp lighter))
  cases strategy with
  | static => exact staticShare_mono order
  | performance => exact weighted
  | adaptive => exact weighted

end Standing

/-- For every organisation and strategy, an allocation is made. It does not depend on the order
the agents are stored in, and allocates no less to an agent that is at least as good, if and only
if nobody of a better status is overtaken. -/
theorem allocation_fair_iff (t : TextRules) (digits : String) (org : Organisation)
    (strategy : AllocationStrategy) (missionId : Option String) (records : Records)
    (missionType : Option String) :
    ∃ d after, allocate t digits org strategy missionId records missionType = .ok (d, after) ∧
      (Fair t records missionType strategy org d after ↔
        Unovertaken t records missionType strategy org) := by
  obtain ⟨d, after, made, given⟩ := allocate_spec t records missionType strategy org
    digits missionId
  refine ⟨d, after, made, ?_⟩
  have monotone_iff : (∀ a ∈ org.agents, ∀ b ∈ org.agents, AtLeast records a b →
      d.granted b.id ≤ d.granted a.id) ↔ Unovertaken t records missionType strategy org := by
    by_cases still : idle org
    · constructor
      · intro _ busy
        exact absurd still busy
      · intro _ a ha b hb _
        rw [given.granted ha, given.granted hb, entitled_idle still, entitled_idle still]
    · have some_ : org.agents.filter eligible ≠ [] := fun none_ => still (.inl none_)
      have funded : 0 ≤ org.treasuryBalance := le_of_lt (Int.not_le.mp fun poor => still (.inr poor))
      have pair : ∀ a ∈ org.agents, ∀ b ∈ org.agents, AtLeast records a b →
          (d.granted b.id ≤ d.granted a.id ↔ (a.status ≠ b.status →
            Reaches t records missionType strategy (org.agents.filter eligible) org.treasuryBalance a b)) := by
        intro a ha b hb order
        rw [given.granted ha, given.granted hb, entitled_eligible still order.takes,
          entitled_eligible still order.takes_too]
        exact budget_mono_iff some_ funded order
      constructor
      · intro monotone _ a ha b hb order
        exact (pair a ha b hb order).mp (monotone a ha b hb order)
      · intro unovertaken a ha b hb order
        exact (pair a ha b hb order).mpr (unovertaken still a ha b hb order)
  constructor
  · intro fair
    exact monotone_iff.mp fair.monotone
  · intro unovertaken
    refine ⟨?_, monotone_iff.mpr unovertaken⟩
    intro digits' missionId' org' perm treasury
    obtain ⟨d', after', made', given'⟩ := allocate_spec t records missionType strategy
      org' digits' missionId'
    exact ⟨d', after', made', alike_of_perm perm treasury given given'⟩

section Samples

/-- Two agents that differ in their status only. -/
def pairOf (a b : AgentStatus) : Organisation :=
  ⟨"org-1", "tenant-1", 100, [member "a" a 50 0, member "b" b 50 0], by simp [member]⟩

theorem active_over_probation :
    AtLeast [] (member "a" .active 50 0) (member "b" .probation 50 0) := by
  constructor
  all_goals decide +kernel

/-- Under `ADAPTIVE`, an agent on probation is allocated more than an active one that is as good
in everything else. -/
theorem probation_overtakes :
    ∃ d after, allocate textRules "0123456789ab" (pairOf .active .probation) .adaptive none [] none =
        .ok (d, after) ∧ d.granted "a" < d.granted "b" ∧
      ¬Fair textRules [] none .adaptive (pairOf .active .probation) d after := by
  obtain ⟨d, after, made, given⟩ : ∃ d after, allocate textRules "0123456789ab"
      (pairOf .active .probation) .adaptive none [] none = .ok (d, after) ∧
      Allocated textRules [] none .adaptive (pairOf .active .probation) d after := allocate_spec ..
  have active := given.granted (List.mem_cons_self (a := member "a" .active 50 0))
  have probation := given.granted (List.mem_cons_of_mem _ (List.mem_cons_self (a := member "b" .probation 50 0)))
  have less : d.granted "a" < d.granted "b" := by
    show d.granted (member "a" .active 50 0).id < d.granted (member "b" .probation 50 0).id
    rw [active, probation]
    decide +kernel
  refine ⟨d, after, made, less, ?_⟩
  intro fair
  have order := fair.monotone _ List.mem_cons_self _ (List.mem_cons_of_mem _ List.mem_cons_self)
    active_over_probation
  exact absurd order (not_le.mpr less)

end Samples

end AllocationOrder
