import KalyxMao.LoopLedger
import KalyxMao.WorkOrders

/-!
# Acquiring the credits of a mission

Before the work starts, the runner compares the organisation's credits with
what the order takes. It prices the shortfall against the budget, but has the
purchase loop step towards the loop's own target, and it takes any of three
signs for success.
-/

namespace MissionRunner
open PythonText Ledger SqlLedgers PurchaseVerifier PurchasePolicy PurchaseLoop LoopLedger WorkOrders

section Model

/-- What `execute_mission` is called with, and the credits it reads first. -/
structure MissionInput where
  order : WorkOrder
  currentCredits : Int
  purchaseLoop : Option (LoopSettings × Loop)
  availableBudgetLimit : Option Int

def MissionInput.shortfall (m : MissionInput) : Int := m.order.requiredOrbioCredits - m.currentCredits

/-- The price of a shortfall in whole units, rounded up. -/
def usdgNeededWhole (cfg : LoopSettings) (shortfall : Int) : Int :=
  max 1 ((usdgForCreditNeed cfg shortfall + 1000000 - 1) / 1000000)

def MissionInput.overBudget (m : MissionInput) (cfg : LoopSettings) : Bool :=
  m.availableBudgetLimit.any fun limit => limit < usdgNeededWhole cfg m.shortfall

def isSuccessful (creditsNeeded : Int) (s : Loop) (result : LoopStepResult) : Bool :=
  result.verificationResult = some (verificationText .verified) ||
    result.status = .objectiveComplete || creditsNeeded ≤ s.state.acquiredCredit

inductive Supply where
  | supplied (directExpense : Int)
  | rejected (directExpense : Int) (message : String)

/-- What the acquisition leaves behind. -/
structure Acquisition where
  answer : Except PyError Supply
  loop : Option Loop
  ledger : SqliteLedger

variable (r : ApprovalRules)

/-- The acquisition of `execute_mission`; an exception of the loop is passed on. -/
def acquire (e : Surroundings) (l : SqliteLedger) (m : MissionInput) : Acquisition :=
  if m.order.requiredOrbioCredits ≤ m.currentCredits then
    ⟨.ok (.supplied 0), m.purchaseLoop.map Prod.snd, l⟩
  else
    match m.purchaseLoop with
    | none =>
      let message := s!"Need {m.shortfall} Orbio credits but no purchase loop provided."
      ⟨.ok (.rejected 0 message), none, l⟩
    | some (cfg, s) =>
      if m.overBudget cfg then
        let message := s!"Acquisition cost {usdgNeededWhole cfg m.shortfall} USDG exceeds self-funded mission budget {m.availableBudgetLimit.getD default} USDG."
        ⟨.ok (.rejected 0 message), some s, l⟩
      else
        let outcome := stepOn r cfg e l s
        let after := ledgerAfter r cfg e l s
        let directExpense := max 0 (l.getBalance treasury - after.getBalance treasury)
        match outcome.2 with
        | .error err => ⟨.error err, some outcome.1, after⟩
        | .ok result =>
          if isSuccessful m.order.requiredOrbioCredits outcome.1 result then
            ⟨.ok (.supplied directExpense), some outcome.1, after⟩
          else
            let message := s!"Orbio credit acquisition failed: {result.message}"
            ⟨.ok (.rejected directExpense message), some outcome.1, after⟩

def Acquisition.startsWork (a : Acquisition) : Prop := ∃ expense, a.answer = .ok (.supplied expense)

/-- By how much the treasury falls during the acquisition. -/
def treasuryFall (e : Surroundings) (l : SqliteLedger) (m : MissionInput) : Int :=
  l.getBalance treasury - (acquire r e l m).ledger.getBalance treasury

def acquiredOf (s : Option Loop) : Int := s.elim 0 fun s => s.state.acquiredCredit

/-- The credits of the purchases that the acquisition saw verified. -/
def creditsVerified (e : Surroundings) (l : SqliteLedger) (m : MissionInput) : Int :=
  acquiredOf (acquire r e l m).loop - acquiredOf (m.purchaseLoop.map Prod.snd)

/-- The treasury falls within the budget, and no work starts without the credits for it. -/
structure Prudent (e : Surroundings) (l : SqliteLedger) (m : MissionInput) : Prop where
  within : ∀ limit, m.availableBudgetLimit = some limit → 0 < treasuryFall r e l m →
    treasuryFall r e l m ≤ limit
  covered : (acquire r e l m).startsWork →
    m.order.requiredOrbioCredits ≤ m.currentCredits + creditsVerified r e l m

/-- The loop aims where the runner does: what it would lock is within the budget, it has
something left to do, and the purchase at stake brings the shortfall. -/
structure Aligned (cfg : LoopSettings) (s : Loop) (l : SqliteLedger) (m : MissionInput) : Prop where
  within : ∀ limit, m.availableBudgetLimit = some limit → ∀ i, nextIntent r cfg s = some i →
    Payable cfg l i → Projects r i → i.amountCredits ≤ limit
  unfinished : finished r cfg s = false
  wanting : s.state.acquiredCredit < m.order.requiredOrbioCredits
  enough : ∀ i, intentAtStake r cfg s = some i → m.shortfall ≤ i.minCreditOut

end Model

section Acquiring
variable {r : ApprovalRules} {e : Surroundings} {l : SqliteLedger} {m : MissionInput}

/-- Without a shortfall, a loop or room in the budget nothing is bought. -/
theorem acquire_idle (idle : m.order.requiredOrbioCredits ≤ m.currentCredits ∨
    ∀ cfg s, m.purchaseLoop = some (cfg, s) → m.overBudget cfg = true) :
    (acquire r e l m).ledger = l ∧ (acquire r e l m).loop = m.purchaseLoop.map Prod.snd ∧
      ((acquire r e l m).startsWork → m.order.requiredOrbioCredits ≤ m.currentCredits) := by
  unfold acquire
  split
  · rename_i covered
    exact ⟨rfl, rfl, fun _ => covered⟩
  · rename_i short
    have enough := idle.resolve_left short
    cases line : m.purchaseLoop with
    | none =>
      refine ⟨rfl, rfl, ?_⟩
      rintro ⟨expense, answer⟩
      cases answer
    | some pair =>
      obtain ⟨cfg, s⟩ := pair
      dsimp only
      rw [if_pos (enough cfg s line)]
      refine ⟨rfl, rfl, ?_⟩
      rintro ⟨expense, answer⟩
      cases answer

theorem acquire_step {cfg : LoopSettings} {s : Loop} (line : m.purchaseLoop = some (cfg, s))
    (short : ¬m.order.requiredOrbioCredits ≤ m.currentCredits) (budget : m.overBudget cfg = false) :
    (acquire r e l m).ledger = ledgerAfter r cfg e l s ∧
      (acquire r e l m).loop = some (stepOn r cfg e l s).1 ∧
      ((acquire r e l m).startsWork ↔ ∃ result, (stepOn r cfg e l s).2 = .ok result ∧
        isSuccessful m.order.requiredOrbioCredits (stepOn r cfg e l s).1 result = true) := by
  unfold acquire
  rw [if_neg short, line]
  dsimp only
  rw [budget, if_neg Bool.false_ne_true]
  cases answer : (stepOn r cfg e l s).2 with
  | error err =>
    refine ⟨rfl, rfl, ?_, ?_⟩
    · rintro ⟨expense, same⟩
      cases same
    · rintro ⟨result, same, -⟩
      cases same
  | ok result =>
    dsimp only
    split
    · rename_i successful
      exact ⟨rfl, rfl, fun _ => ⟨result, rfl, successful⟩, fun _ => ⟨_, rfl⟩⟩
    · rename_i failed
      refine ⟨rfl, rfl, ?_, ?_⟩
      · rintro ⟨expense, same⟩
        cases same
      · rintro ⟨result', same, successful⟩
        obtain rfl := Except.ok.inj same
        exact absurd successful failed

theorem acquiredOf_line {cfg : LoopSettings} {s : Loop} (line : m.purchaseLoop = some (cfg, s)) :
    acquiredOf (m.purchaseLoop.map Prod.snd) = s.state.acquiredCredit := by
  rw [line]
  rfl

/-- An idle acquisition is prudent. -/
theorem acquire_idle_prudent (idle : m.order.requiredOrbioCredits ≤ m.currentCredits ∨
    ∀ cfg s, m.purchaseLoop = some (cfg, s) → m.overBudget cfg = true) : Prudent r e l m := by
  obtain ⟨ledger, loop, starts⟩ := acquire_idle (r := r) (e := e) (l := l) idle
  constructor
  · intro limit _ falls
    rw [treasuryFall, ledger] at falls
    omega
  · intro working
    have covered := starts working
    rw [creditsVerified, loop]
    omega

theorem aligned_prudent {cfg : LoopSettings} {s : Loop} (line : m.purchaseLoop = some (cfg, s))
    (short : ¬m.order.requiredOrbioCredits ≤ m.currentCredits) (budget : m.overBudget cfg = false)
    (aligned : Aligned r cfg s l m) : Prudent r e l m := by
  obtain ⟨ledger, loop, starts⟩ := acquire_step (r := r) (e := e) (l := l) line short budget
  constructor
  · intro limit given falls
    rw [treasuryFall, ledger] at falls ⊢
    rcases @ledgerAfter_treasury r cfg e l s with kept | ⟨i, next, payable, projects, bounded⟩
    · omega
    · have affordable := aligned.within limit given i next payable projects
      omega
  · intro working
    obtain ⟨result, done, successful⟩ := starts.mp working
    rw [creditsVerified, loop, acquiredOf_line line]
    show _ ≤ m.currentCredits + ((stepOn r cfg e l s).1.state.acquiredCredit - s.state.acquiredCredit)
    rcases step_credits (r := r) done with ⟨same, finished | ⟨open_, unverified⟩⟩ | ⟨i, atStake, credited⟩
    · rw [aligned.unfinished] at finished
      cases finished
    · -- the only sign left is what the loop had acquired before
      have wanting := aligned.wanting
      have same : (stepOn r cfg e l s).1.state.acquiredCredit = s.state.acquiredCredit := same
      rw [isSuccessful, Bool.or_eq_true, Bool.or_eq_true, decide_eq_true_iff, decide_eq_true_iff,
        decide_eq_true_iff] at successful
      rcases successful with (verified | complete) | reached
      · exact absurd verified unverified
      · exact absurd complete open_
      · omega
    · have enough := aligned.enough i atStake
      have credited : s.state.acquiredCredit + i.minCreditOut ≤
        (stepOn r cfg e l s).1.state.acquiredCredit := credited
      rw [MissionInput.shortfall] at enough
      omega

end Acquiring

section Sample

def sampleTreasury : SqliteLedger :=
  ⟨[⟨"e1", 0, "mint-1", systemMint, treasury, 100, "Initial treasury allocation", defaultTenant⟩]⟩

/-- The policy allows everything, and the provider times out. -/
def sampleSurroundings : Surroundings where
  policy := sampleAnswers.policy
  uuidHex := "0123456789ab"
  lockDraw := ⟨"tx-2", "e2", 1⟩
  leaveDraw := ⟨"tx-3", "e3", 2⟩
  execute := sampleAnswers.execute
  verified := []
  operations := []
  reconcilerVerified := []
  input := sampleAnswers.input
  leftState := .unknown
  leftErrorMessage := none
  leftReference := none

def sharedSettings : LoopSettings := { sampleSettings with hasLedger := true }

def sampleOrder (requiredOrbioCredits : Int) : WorkOrder where
  workOrderId := "order"
  tenantId := "tenant"
  organisationId := "org"
  deliverableType := "SECURITY_AUDIT"
  requiredOrbioCredits := requiredOrbioCredits
  bountyAmount := 50
  status := .inProgress

/-- A mission short of all it takes, with a budget of its own and a loop with another target. -/
def sampleMission (requiredOrbioCredits limit targetCredit : Int) : MissionInput where
  order := sampleOrder requiredOrbioCredits
  currentCredits := 0
  purchaseLoop := some (sharedSettings, .new { sampleState with targetCredit := targetCredit })
  availableBudgetLimit := some limit

/-- The loop aims at two credits, and the mission is short of a little less. -/
theorem sample_planned :
    (nextIntent sampleRules sharedSettings (.new { sampleState with targetCredit := 2000000 })).map
      (fun i => (i.amountCredits, i.minCreditOut)) = some (2, 1836735) := by decide +kernel

end Sample

end MissionRunner
