import KalyxMao.DecimalRounding
import KalyxMao.MissionRunner
import Mathlib.Data.Int.Log

/-!
# What a purchase of credits is projected to cost, and what it costs

The financial analyst prices a shortfall in whole units, the purchase loop sizes
a purchase in millionths at the fill ratio it expects, and the ledger escrows
whole units again. Only the runner's gate rounds the amount of the purchase up.
-/

namespace AcquisitionCosts
open PythonText Domain SqlLedgers DecimalRounding PurchaseVerifier PurchasePolicy PurchaseBridge
open PurchaseLoop LoopLedger WorkOrders MissionRunner

section Floats

/-- The nearest multiple of the last place of a 53 bit significand. -/
def nearestDouble (q : ℚ) : ℚ :=
  let place : ℚ := 2 ^ max (Int.log 2 |q| - 52) (-1074)
  halfEven (q / place) * place

/-- `a / b` for integers. -/
def trueDivision (a b : Int) : Except PyError ℚ :=
  if b = 0 then .error ⟨.otherException, "division by zero"⟩
  else
    let q := nearestDouble (a / b)
    if 2 ^ 1024 ≤ |q| then
      .error ⟨.overflowError, "integer division result too large for a float"⟩
    else .ok q

/-- The format `.1%`; a float keeps its sign where it rounds to zero. -/
def percentText (negative : Bool) (q : ℚ) : String :=
  let sign := if negative then "-" else ""
  let tenths := (halfEven (|nearestDouble (q * 100)| * 10)).natAbs
  s!"{sign}{tenths / 10}.{tenths % 10}%"

end Floats

section Analyst

structure UnitEconomicsEvaluation where
  viable : Bool
  marginRatio : ℚ
  projectedDirectCostUsdg : Int
  expectedSurplusUsdg : Int
  reason : String

/-- The direct cost of the missing credits in whole units. -/
def projectedDirectCost (creditShortfall microCreditsPerUsdg : Int) : Except PyError Int :=
  if 0 < creditShortfall then
    (trueDivision creditShortfall microCreditsPerUsdg).map fun q => ⌈q⌉
  else .ok 0

def creditShortfall (w : WorkOrder) (currentOrbioCredits : Int) : Int :=
  max 0 (w.requiredOrbioCredits - currentOrbioCredits)

/-- `evaluate_unit_economics`. -/
def evaluateUnitEconomics (w : WorkOrder) (currentTreasuryUsdg currentOrbioCredits : Int)
    (microCreditsPerUsdg : Int) (minMarginRatio : ℚ) : Except PyError UnitEconomicsEvaluation := do
  let cost ← projectedDirectCost (creditShortfall w currentOrbioCredits) microCreditsPerUsdg
  let bounty := w.bountyAmount
  let surplus := bounty - cost
  if cost > currentTreasuryUsdg then
    return {
      viable := false
      marginRatio := 0
      projectedDirectCostUsdg := cost
      expectedSurplusUsdg := surplus
      reason := s!"INSUFFICIENT_TREASURY: Direct compute cost ({cost} USDG) exceeds treasury balance ({currentTreasuryUsdg} USDG)" }
  if bounty ≤ 0 then
    return {
      viable := false
      marginRatio := 0
      projectedDirectCostUsdg := cost
      expectedSurplusUsdg := surplus
      reason := "ZERO_OR_NEGATIVE_BOUNTY: Work order has no revenue potential" }
  let ratio ← trueDivision surplus bounty
  let margin := nearestDouble (roundTo 4 ratio)
  let shown := percentText (surplus < 0) margin
  if margin < minMarginRatio then
    let least := percentText (minMarginRatio < 0) minMarginRatio
    return {
      viable := false
      marginRatio := margin
      projectedDirectCostUsdg := cost
      expectedSurplusUsdg := surplus
      reason := s!"MARGIN_BELOW_THRESHOLD: Projected margin {shown} is below minimum required {least}" }
  return {
    viable := true
    marginRatio := margin
    projectedDirectCostUsdg := cost
    expectedSurplusUsdg := surplus
    reason := s!"VIABLE: Projected margin {shown} exceeds threshold with {surplus} USDG surplus" }

end Analyst

section Property

/-- `credit_still_needed` of `observe`. -/
def creditStillNeeded (s : Loop) : Int := max 0 (s.state.targetCredit - s.state.acquiredCredit)

def remainingBudget (cfg : LoopSettings) (s : Loop) : Int :=
  cfg.maxCumulativeUsdg - s.state.cumulativeUsdgSpent

/-- A purchase, in millionths, costs no more than was projected and no more than is escrowed. -/
structure Covered (shortfall microCreditsPerUsdg : Int) (op : ConsequentialOperation) : Prop where
  projected : ∃ cost, projectedDirectCost shortfall microCreditsPerUsdg = .ok cost ∧
    usdgOf op ≤ cost * 1000000
  escrowed : usdgOf op ≤ op.amount * 1000000

/-- Whole units that pay for the shortfall at the price also pay for it at the expected fill, or
for the most that the loop may spend. -/
def PricedIn (cfg : LoopSettings) (s : Loop) (microCreditsPerUsdg : Int) : Prop :=
  ∃ q, trueDivision (creditStillNeeded s) microCreditsPerUsdg = .ok q ∧ ∀ k : Int, q ≤ k →
    creditStillNeeded s * 10000 ≤ k * 1000000 * max 1 cfg.expectedFillRateBps ∨
      cfg.maxSingleUsdg ≤ k * 1000000 ∨ remainingBudget cfg s ≤ k * 1000000

/-- The tightest of the need at the expected fill and the two limits is whole units, or not more
than one. -/
def WholeUnits (cfg : LoopSettings) (s : Loop) : Prop :=
  let filled : ℚ := (creditStillNeeded s * 10000 : Int) / (max 1 cfg.expectedFillRateBps : Int)
  let tightest := min (min ⌈filled⌉ cfg.maxSingleUsdg) (remainingBudget cfg s)
  tightest ≤ 1000000 ∨ (1000000 : Int) ∣ tightest

end Property

section Sizing
variable {r : ApprovalRules} {cfg : LoopSettings} {a : Answers} {s s' : Loop}
  {i : OrbioPurchaseIntent}

/-- The intent asks for what the loop would spend now, and escrows it in whole units. -/
structure Sized (cfg : LoopSettings) (s : Loop) (i : OrbioPurchaseIntent) : Prop where
  something : 0 < plannedUsdg cfg s
  spend : (i.usdgIn : Int) = plannedUsdg cfg s
  lock : (i.amountCredits : Int) = max 1 (plannedUsdg cfg s / 1000000)

def Asking (s : Loop) : Prop := s.state.status = .waitingHuman

/-- While a human is asked, the counters are those the pending intent was sized with. -/
def AsksSized (cfg : LoopSettings) (s : Loop) : Prop :=
  Asking s → ∀ i, s.pendingIntent = some i → Sized cfg s i

theorem AsksSized.awake (awake : ¬Asking s) : AsksSized cfg s := fun asking => absurd asking awake

theorem AsksSized.keep (asks : AsksSized cfg s) (state : s'.state = s.state)
    (intent : s'.pendingIntent = s.pendingIntent) : AsksSized cfg s' := by
  intro asking i pending
  have same : plannedUsdg cfg s' = plannedUsdg cfg s := by
    rw [plannedUsdg, plannedUsdg, state]
  have asking : s.state.status = .waitingHuman := (congrArg AgentLoopState.status state).symm.trans asking
  obtain ⟨something, spend, lock⟩ := asks asking i (intent ▸ pending)
  exact ⟨same ▸ something, same ▸ spend, same ▸ lock⟩

theorem stop_awake {status : LoopStatus} {reason message : String} (other : status ≠ .waitingHuman) :
    ¬Asking (s.stop status reason message).1 := other

theorem afterExecution_awake {x : Attempt} {result : ProviderExecutionResult} (awake : ¬Asking s) :
    ¬Asking (afterExecution r cfg a s x result).1 := by
  unfold afterExecution
  split
  · unfold awaitReconciliation
    split
    · exact awake
    · exact nofun
  · split
    · unfold failExecution
      dsimp only
      split
      · exact awake
      · exact nofun
    · split
      · exact awake
      · dsimp only
        split
        · unfold rejectExecution
          dsimp only
          split
          · exact awake
          · exact nofun
        · unfold completeExecution
          dsimp only
          split
          · exact awake
          · split
            · exact nofun
            · exact nofun

theorem markInterrupted_asking (outcome : Outcome) :
    Asking (markInterrupted outcome).1 ↔ Asking outcome.1 := by
  rcases outcome with ⟨s, e | result⟩
  · exact Iff.rfl
  · exact Iff.rfl

theorem executeAuthorized_awake {proposal : AgentPurchaseProposal} {prep : PurchasePreparation}
    (awake : ¬Asking s) : ¬Asking (executeAuthorized r cfg a s proposal prep).1 := by
  unfold executeAuthorized
  split
  · exact awake
  · split
    · exact awake
    · dsimp only
      split
      · exact awake
      · exact nofun
    · split
      · exact awake
      · rename_i op submitted
        unfold handOver
        rw [markInterrupted_asking]
        cases a.execute op with
        | error e => exact awake
        | ok result => exact afterExecution_awake (s := s.note (.handed op)) awake

theorem concludeReconciliation_awake {outcome : PurchaseReconciliation.PurchaseReconciliationOutcome} :
    ¬Asking (concludeReconciliation r s i outcome).1 := by
  unfold concludeReconciliation
  split
  · exact nofun
  · dsimp only
    split
    · exact nofun
    · exact nofun
    · split
      · exact nofun
      · exact nofun

theorem concludeReconciliation_handed
    {outcome : PurchaseReconciliation.PurchaseReconciliationOutcome} :
    handedOver (concludeReconciliation r s i outcome).1.record = handedOver s.record := by
  unfold concludeReconciliation
  split
  · rfl
  · dsimp only
    split
    · rfl
    · exact handedOver_quiet rfl
    · split
      · exact handedOver_quiet rfl
      · exact handedOver_quiet rfl

theorem handleReconcile_awake (status : s.state.status = .waitingReconcile) :
    ¬Asking (handleReconcile r cfg a s).1 := by
  have awake : ¬Asking s := by simp [Asking, status]
  unfold handleReconcile
  split
  · split
    · exact awake
    · exact concludeReconciliation_awake
  · exact stop_awake (by decide)

theorem handleReconcile_handed :
    handedOver (handleReconcile r cfg a s).1.record = handedOver s.record := by
  unfold handleReconcile
  split
  · split
    · rfl
    · rename_i op intent _ _ _ outcome _
      exact concludeReconciliation_handed (s := { s with pendingOperation := some outcome.operation })
  · rfl

theorem planned_le : plannedUsdg cfg s ≤ cfg.maxSingleUsdg ∧
    plannedUsdg cfg s ≤ cfg.maxCumulativeUsdg - s.state.cumulativeUsdgSpent := by
  unfold plannedUsdg
  omega

/-- What is built from the planned amount is sized with it. -/
theorem newPurchaseIntent_sized {least : Int} (something : 0 < plannedUsdg cfg s)
    (built : newPurchaseIntent r.text (proposedFields cfg s (plannedUsdg cfg s) least
      (max 1 (plannedUsdg cfg s / 1000000))) = .ok i) : Sized cfg s i := by
  obtain ⟨spend, lock⟩ := newPurchaseIntent_amounts built
  refine ⟨something, spend.trans (clampUsdg_eq planned_le.1 planned_le.2), lock.trans (if_neg ?_)⟩
  omega

theorem submitProposal_asks {proposal : AgentPurchaseProposal} (awake : ¬Asking s)
    (sized : Sized cfg s proposal.intent) : AsksSized cfg (submitProposal r cfg a s proposal).1 := by
  unfold submitProposal
  dsimp only
  split
  · exact .awake nofun
  · split
    · exact .awake awake
    · split
      · intro _ i pending
        obtain rfl := Option.some.inj pending
        exact ⟨sized.something, sized.spend, sized.lock⟩
      · exact .awake nofun
      · exact .awake (executeAuthorized_awake awake)

/-- From the sized purchase on. -/
theorem proposed_asks (awake : ¬Asking s) (something : 0 < plannedUsdg cfg s) (reason : String) :
    AsksSized cfg (match proposePurchase r cfg s (plannedUsdg cfg s)
        (max 1 ((plannedUsdg cfg s * 90) / 100)) (max 1 (plannedUsdg cfg s / 1000000)) reason with
      | (s, .error e) => ((s, .error e) : Outcome)
      | (s, .ok proposal) => submitProposal r cfg a s proposal).1 := by
  unfold proposePurchase
  split
  · rename_i outcome proposed
    split at proposed
    · rw [← (Prod.mk.inj proposed).1]
      exact .awake nofun
    · rw [← (Prod.mk.inj proposed).1]
      exact .awake awake
  · rename_i outcome proposal proposed
    split at proposed
    · cases proposed
    · obtain ⟨rfl, mapped⟩ := Prod.mk.inj proposed
      cases built : newPurchaseIntent r.text (proposedFields cfg s (plannedUsdg cfg s)
        (max 1 ((plannedUsdg cfg s * 90) / 100)) (max 1 (plannedUsdg cfg s / 1000000))) with
      | error e =>
        rw [built] at mapped
        cases mapped
      | ok intent =>
        rw [built] at mapped
        obtain rfl := Except.ok.inj mapped
        exact submitProposal_asks awake (newPurchaseIntent_sized something built)

theorem proposeNext_asks (status : s.state.status = .ready) :
    AsksSized cfg (proposeNext r cfg a s).1 := by
  have awake : ¬Asking s := by simp [Asking, status]
  unfold proposeNext
  split
  · exact .awake nofun
  · split
    · exact .awake nofun
    · dsimp only
      split
      · exact .awake nofun
      · split
        · exact .awake nofun
        · rename_i something
          exact proposed_asks awake (Int.not_le.mp something) _

theorem handleWaitingHuman_asks (asks : AsksSized cfg s) (status : s.state.status = .waitingHuman) :
    AsksSized cfg (handleWaitingHuman r cfg a s).1 := by
  unfold handleWaitingHuman
  split
  · exact .awake nofun
  · exact asks
  · split
    · exact asks
    · split
      · intro _ i pending
        have sized := asks status i pending
        exact ⟨sized.something, sized.spend, sized.lock⟩
      · have resumed : ¬Asking (s.enter .ready) := nofun
        exact .awake (executeAuthorized_awake resumed)

theorem step_asks (asks : AsksSized cfg s) : AsksSized cfg (step r cfg a s).1 := by
  unfold step
  split
  · exact .awake nofun
  · split
    · rename_i status
      exact handleWaitingHuman_asks asks status
    · rename_i status
      exact .awake (handleReconcile_awake status)
    · rename_i status
      exact proposeNext_asks status
    · exact asks

theorem runSteps_asks (answers : Nat → Answers) (left : Nat) (asks : AsksSized cfg s) :
    AsksSized cfg (runSteps r cfg answers left s).1 :=
  runSteps_induction (fun _ _ => step_asks) answers left asks

theorem performAll_asks (calls : List Call) (asks : AsksSized cfg s) :
    AsksSized cfg (performAll r cfg s calls) := by
  induction calls generalizing s with
  | nil => exact asks
  | cons call rest ih =>
    refine ih ?_
    cases call with
    | supply approval => exact asks.keep rfl rfl
    | step answers => exact step_asks asks
    | run maxSteps answers => exact runSteps_asks answers _ asks

theorem proposed_sized (next : proposed r cfg s = some i) : Sized cfg s i := by
  unfold proposed at next
  split at next
  · rename_i open_
    rw [Bool.and_eq_true, Bool.and_eq_true, Bool.and_eq_true, decide_eq_true_iff,
      decide_eq_true_iff] at open_
    split at next
    · rename_i built
      obtain rfl := Option.some.inj next
      exact newPurchaseIntent_sized open_.1.2 built
    · cases next
  · cases next

/-- The next intent is sized with the counters of the loop, proposed now or asked about before. -/
theorem nextIntent_sized (asks : AsksSized cfg s) (next : nextIntent r cfg s = some i) :
    Sized cfg s i := by
  unfold nextIntent at next
  split at next
  · cases next
  · split at next
    · exact proposed_sized (Option.filter_eq_some_iff.mp next).1
    · rename_i status
      split at next
      · exact asks status i next
      · cases next
    · cases next

/-- What a step hands over is sized with the counters of the loop. -/
theorem step_sized (asks : AsksSized cfg s) {op : ConsequentialOperation}
    (handed : op ∈ handedBetween s (step r cfg a s).1) : ∃ i, Carries i op ∧ Sized cfg s i := by
  by_cases reconciling : s.state.objectiveMet = false ∧ s.state.status = .waitingReconcile
  · obtain ⟨met, status⟩ := reconciling
    have here : step r cfg a s = handleReconcile r cfg a s := by
      rw [step, met, status]
      rfl
    rw [here, handedBetween, handleReconcile_handed, List.drop_length] at handed
    cases handed
  · have settled : s.state.objectiveMet = true ∨ s.state.status ≠ .waitingReconcile := by
      cases met : s.state.objectiveMet with
      | true => exact .inl rfl
      | false => exact .inr fun status => reconciling ⟨met, status⟩
    rcases @step_handed r cfg a s settled with none | ⟨i, op', next, -, carries, one⟩
    · rw [none] at handed
      cases handed
    · rw [one, List.mem_singleton] at handed
      exact ⟨i, handed ▸ carries, nextIntent_sized asks next⟩

end Sizing

section Rounding
variable {r : ApprovalRules} {cfg : LoopSettings} {a : Answers} {s : Loop}

theorem creditStillNeeded_pos (something : 0 < plannedUsdg cfg s) : 0 < creditStillNeeded s := by
  by_contra none
  have nothing : usdgForCreditNeed cfg (creditStillNeeded s) = 0 := if_pos (Int.not_lt.mp none)
  unfold plannedUsdg at something
  unfold creditStillNeeded at nothing
  omega

theorem add_sub_ediv_eq_ceil {n d : Int} (pos : 0 < d) : (n + d - 1) / d = ⌈(n : ℚ) / d⌉ := by
  refine eq_of_forall_ge_iff fun k => ?_
  have positive : (0 : ℚ) < d := by exact_mod_cast pos
  have up : ⌈(n : ℚ) / d⌉ ≤ k ↔ n ≤ k * d := by
    rw [Int.ceil_le, div_le_iff₀ positive]
    exact_mod_cast Iff.rfl
  rw [up, ← Int.lt_add_one_iff, Int.ediv_lt_iff_lt_mul pos, add_mul, one_mul]
  omega

/-- The amount for a need is the quotient by the fill ratio, rounded up. -/
theorem usdgForCreditNeed_eq {need : Int} (open_ : 0 < need) : usdgForCreditNeed cfg need =
    ⌈((need * 10000 : Int) : ℚ) / (max 1 cfg.expectedFillRateBps : Int)⌉ := by
  have pos : 0 < max 1 cfg.expectedFillRateBps := by omega
  rw [usdgForCreditNeed, if_neg (Int.not_le.mpr open_)]
  exact add_sub_ediv_eq_ceil pos

theorem planned_le_iff (something : 0 < plannedUsdg cfg s) (k : Int) :
    plannedUsdg cfg s ≤ k * 1000000 ↔
      creditStillNeeded s * 10000 ≤ k * 1000000 * max 1 cfg.expectedFillRateBps ∨
        cfg.maxSingleUsdg ≤ k * 1000000 ∨ remainingBudget cfg s ≤ k * 1000000 := by
  have pos : (0 : ℚ) < (max 1 cfg.expectedFillRateBps : Int) := by
    exact_mod_cast (by omega : 0 < max 1 cfg.expectedFillRateBps)
  have filled : usdgForCreditNeed cfg (creditStillNeeded s) ≤ k * 1000000 ↔
      creditStillNeeded s * 10000 ≤ k * 1000000 * max 1 cfg.expectedFillRateBps := by
    rw [usdgForCreditNeed_eq (creditStillNeeded_pos something), Int.ceil_le, div_le_iff₀ pos]
    exact_mod_cast Iff.rfl
  rw [← filled, ← or_assoc]
  show min (min _ _) _ ≤ _ ↔ _
  rw [min_le_iff, min_le_iff]
  rfl

theorem escrowed_iff (amount : Int) : amount ≤ max 1 (amount / 1000000) * 1000000 ↔
    amount ≤ 1000000 ∨ (1000000 : Int) ∣ amount := by
  omega

/-- The runner's gate rounds up, so that it never admits a purchase for too little. -/
theorem gate_covers {shortfall : Int} : usdgForCreditNeed cfg shortfall ≤
    usdgNeededWhole cfg shortfall * 1000000 := by
  unfold usdgNeededWhole
  omega

end Rounding

/-- For every run of the loop and every mission whose shortfall is what the loop needs: an executed
purchase costs no more than projected and escrowed if and only if the whole units that pay for the
shortfall also pay for the purchase, and the purchase is of whole units or not more than one. -/
theorem acquisition_covered_iff (r : ApprovalRules) (cfg : LoopSettings) (state : AgentLoopState)
    (calls : List Call) (a : Answers) (w : WorkOrder) (currentOrbioCredits microCreditsPerUsdg : Int)
    (op : ConsequentialOperation)
    (same : creditShortfall w currentOrbioCredits =
      creditStillNeeded (performAll r cfg (.new state) calls))
    (handed : op ∈ handedBetween (performAll r cfg (.new state) calls)
      (step r cfg a (performAll r cfg (.new state) calls)).1) :
    Covered (creditShortfall w currentOrbioCredits) microCreditsPerUsdg op ↔
      PricedIn cfg (performAll r cfg (.new state) calls) microCreditsPerUsdg ∧
        WholeUnits cfg (performAll r cfg (.new state) calls) := by
  have opening : AsksSized cfg (.new state) := fun _ _ pending => nomatch pending
  have asks : AsksSized cfg (performAll r cfg (.new state) calls) := performAll_asks calls opening
  generalize performAll r cfg (.new state) calls = s at same handed asks ⊢
  obtain ⟨i, ⟨spends, escrows⟩, sized⟩ := step_sized asks handed
  have pos := creditStillNeeded_pos sized.something
  have spend : usdgOf op = plannedUsdg cfg s := spends.trans sized.spend
  have lock : (op.amount : Int) = max 1 (plannedUsdg cfg s / 1000000) := by
    rw [escrows]
    exact sized.lock
  have projected : (∃ cost, projectedDirectCost (creditShortfall w currentOrbioCredits)
      microCreditsPerUsdg = .ok cost ∧ usdgOf op ≤ cost * 1000000) ↔
      PricedIn cfg s microCreditsPerUsdg := by
    rw [same, projectedDirectCost, if_pos pos, spend]
    unfold PricedIn
    cases trueDivision (creditStillNeeded s) microCreditsPerUsdg with
    | error e => simp [Except.map]
    | ok q =>
      simp only [Except.map, Except.ok.injEq, exists_eq_left', ← planned_le_iff sized.something]
      constructor
      · intro enough k le
        have up : ⌈q⌉ ≤ k := Int.ceil_le.mpr le
        omega
      · intro enough
        exact enough ⌈q⌉ (Int.le_ceil q)
  have escrowed : usdgOf op ≤ op.amount * 1000000 ↔ WholeUnits cfg s := by
    rw [spend, lock, escrowed_iff]
    unfold WholeUnits
    dsimp only
    rw [← usdgForCreditNeed_eq pos]
    exact Iff.rfl
  constructor
  · intro covered
    exact ⟨projected.mp covered.projected, escrowed.mp covered.escrowed⟩
  · rintro ⟨priced, whole⟩
    exact ⟨projected.mpr priced, escrowed.mpr whole⟩

section Samples

def fundedAnswers : Answers := { sampleAnswers with getBalance := fun _ => 100 }

def sampleNeeding (credits : Int) : Loop := .new { sampleState with targetCredit := credits }

def handedAmounts (credits : Int) : List (Int × Nat) :=
  (handedBetween (sampleNeeding credits)
    (step sampleRules sharedSettings fundedAnswers (sampleNeeding credits)).1).map
      fun op => (usdgOf op, op.amount)

theorem handed_of_amounts {credits spend : Int} {lock : Nat}
    (amounts : handedAmounts credits = [(spend, lock)]) :
    ∃ op ∈ handedBetween (sampleNeeding credits)
      (step sampleRules sharedSettings fundedAnswers (sampleNeeding credits)).1,
      usdgOf op = spend ∧ op.amount = lock := by
  have member : (spend, lock) ∈ handedAmounts credits := by simp [amounts]
  obtain ⟨op, handed, both⟩ := List.mem_map.mp member
  obtain ⟨spends, locks⟩ := Prod.mk.inj both
  exact ⟨op, handed, spends, locks⟩

/-- 98 hundredths of a unit are bought for one. -/
theorem sample_covered : ∃ op ∈ handedBetween (sampleNeeding 980000)
    (step sampleRules sharedSettings fundedAnswers (sampleNeeding 980000)).1,
    Covered (creditShortfall (sampleOrder 980000) 0) 1000000 op := by
  have amounts : handedAmounts 980000 = [(1000000, 1)] := by decide +kernel
  obtain ⟨op, handed, -⟩ := handed_of_amounts amounts
  refine ⟨op, handed, (acquisition_covered_iff sampleRules sharedSettings { sampleState with targetCredit := 980000 } []
    fundedAnswers (sampleOrder 980000) 0 1000000 op rfl handed).mpr ⟨?_, ?_⟩⟩
  · refine ⟨nearestDouble (980000 / 1000000), by decide +kernel, ?_⟩
    intro k enough
    left
    have up : ⌈nearestDouble (980000 / 1000000)⌉ ≤ k := Int.ceil_le.mpr enough
    have one : ⌈nearestDouble (980000 / 1000000)⌉ = 1 := by decide +kernel
    show (980000 : Int) * 10000 ≤ k * 1000000 * 9800
    omega
  · left
    decide +kernel

/-- A whole unit of credits at the price of one costs a fiftieth more. -/
theorem whole_unit_uncovered : ∃ op ∈ handedBetween (sampleNeeding 1000000)
    (step sampleRules sharedSettings fundedAnswers (sampleNeeding 1000000)).1,
    usdgOf op = 1020409 ∧ op.amount = 1 ∧ projectedDirectCost 1000000 1000000 = .ok 1 ∧
      ¬Covered (creditShortfall (sampleOrder 1000000) 0) 1000000 op := by
  have amounts : handedAmounts 1000000 = [(1020409, 1)] := by decide +kernel
  obtain ⟨op, handed, spends, locks⟩ := handed_of_amounts amounts
  refine ⟨op, handed, spends, locks, by decide +kernel, ?_⟩
  intro covered
  have escrowed := covered.escrowed
  rw [spends, locks] at escrowed
  exact absurd escrowed (by decide)

end Samples

end AcquisitionCosts
