import KalyxMao.PurchaseLoop
import KalyxMao.ScopedLedgers

/-!
# The purchasing loop on a shared ledger

A step locks the credits of the operation it submits and moves them on when it
knows what became of it; a reconciliation moves them out of escrow only. The
intent a step goes for is decided by the loop before anything is asked, so it
bounds what the treasury can lose and what a verification can bring.
-/

namespace LoopLedger
open PythonText PythonValues PythonConversions Ledger SqlLedgers Domain EffectPrograms
open PurchaseVerifier PurchasePolicy PurchaseBridge PurchaseLoop BlockchainIntents
open PurchaseReconciliation (Desk Input respond reconcileFound reconcileFound_issues
  reconcileFound_returns PurchaseReconciliationOutcome)

section Model

/-- What a step takes from outside, the ledger apart. -/
structure Surroundings where
  policy : OrbioPurchaseIntent → Option HumanPurchaseApproval → Except PyError RecordedDecision
  uuidHex : String
  lockDraw : Draw
  leaveDraw : Draw
  execute : ConsequentialOperation → Except PyError ProviderExecutionResult
  verified : Verified
  operations : List ConsequentialOperation
  reconcilerVerified : Verified
  input : Input
  leftState : OperationState
  leftErrorMessage : Option String
  leftReference : Option String

variable (r : ApprovalRules) (cfg : LoopSettings)

/-- What a ready loop would spend: no more than the need, one purchase or the budget takes. -/
def plannedUsdg (s : Loop) : Int :=
  min (min (usdgForCreditNeed cfg (max 0 (s.state.targetCredit - s.state.acquiredCredit)))
    cfg.maxSingleUsdg) (cfg.maxCumulativeUsdg - s.state.cumulativeUsdgSpent)

def plannedIntent (s : Loop) : Except PyError OrbioPurchaseIntent :=
  newPurchaseIntent r.text (proposedFields cfg s (plannedUsdg cfg s)
    (max 1 ((plannedUsdg cfg s * 90) / 100)) (max 1 (plannedUsdg cfg s / 1000000)))

/-- Neither the iterations nor the budget of a ready loop are used up. -/
def hasRoom (s : Loop) : Bool :=
  s.state.loopIteration < cfg.maxIterations && s.state.cumulativeUsdgSpent < cfg.maxCumulativeUsdg

def ownOrganisation (s : Loop) : Bool :=
  s.state.tenantId = cfg.org.tenantId && s.state.organisationId = cfg.org.id

/-- The proposal of a ready loop that gets as far as one. -/
def proposed (s : Loop) : Option OrbioPurchaseIntent :=
  if hasRoom cfg s && decide (s.state.acquiredCredit < s.state.targetCredit) &&
      decide (0 < plannedUsdg cfg s) && ownOrganisation cfg s then
    match plannedIntent r cfg s with
    | .ok i => some i
    | .error _ => none
  else none

def alreadyCompleted (s : Loop) (i : OrbioPurchaseIntent) : Bool :=
  i.computePurchaseIntentHash r.toHashing ∈ s.state.completedIntentHashes

/-- The intent that the next step hands to the policy, if it comes to that. -/
def nextIntent (s : Loop) : Option OrbioPurchaseIntent :=
  if s.state.objectiveMet then none
  else
    match s.state.status with
    | .ready => (proposed r cfg s).filter fun i => !alreadyCompleted r s i
    | .waitingHuman => if s.pendingApproval.isSome then s.pendingIntent else none
    | _ => none

/-- The intent whose purchase the next step may verify. -/
def intentAtStake (s : Loop) : Option OrbioPurchaseIntent :=
  if !s.state.objectiveMet && s.state.status = .waitingReconcile then
    if cfg.hasReconciler && s.pendingOperation.isSome then s.pendingIntent else none
  else nextIntent r cfg s

/-- The next step declares the objective complete without a purchase. -/
def finished (s : Loop) : Bool :=
  s.state.objectiveMet ||
    match s.state.status with
    | .objectiveComplete => true
    | .ready => hasRoom cfg s && (decide (s.state.targetCredit ≤ s.state.acquiredCredit) ||
        (proposed r cfg s).any (alreadyCompleted r s))
    | _ => false

/-- The ledger once the escrow for an intent is locked; as it was where the lock is refused. -/
def lockedLedger (e : Surroundings) (l : SqliteLedger) (i : OrbioPurchaseIntent) : SqliteLedger :=
  if cfg.hasLedger then
    (l.transfer e.lockDraw treasury escrow i.amountCredits s!"Escrow for loop operation cop-{e.uuidHex}"
      (some s!"esc-loop-cop-{e.uuidHex}")).2
  else l

def lockedFor (e : Surroundings) (l : SqliteLedger) (s : Loop) : SqliteLedger :=
  match nextIntent r cfg s with
  | some i => lockedLedger cfg e l i
  | none => l

/-- The treasury is read and debited before the lock, the escrow after it. -/
def Surroundings.answers (e : Surroundings) (l locked : SqliteLedger) : Answers where
  policy := e.policy
  uuidHex := e.uuidHex
  getBalance account :=
    if account = treasury then l.getBalance account else locked.getBalance account
  transfer source target amount memo transactionId :=
    if source = treasury then
      (l.transfer e.lockDraw source target amount memo (some transactionId)).1.map fun _ => ()
    else (locked.transfer e.leaveDraw source target amount memo (some transactionId)).1.map fun _ => ()
  execute := e.execute
  verified := e.verified
  desk := ⟨l, e.operations, e.reconcilerVerified⟩
  input := e.input
  leftState := e.leftState
  leftErrorMessage := e.leftErrorMessage
  leftReference := e.leftReference

def stepOn (e : Surroundings) (l : SqliteLedger) (s : Loop) : Outcome :=
  step r cfg (e.answers l (lockedFor r cfg e l s)) s

def leave (e : Surroundings) (locked : SqliteLedger) (op : ConsequentialOperation)
    (target memo transactionId : String) : SqliteLedger :=
  if holdsEscrow cfg op && decide ((op.amount : Int) ≤ locked.getBalance escrow) then
    (locked.transfer e.leaveDraw escrow target op.amount memo (some transactionId)).2
  else locked

/-- Where the credits of a submitted operation are when the step answers; a step that raises
has left them in escrow. -/
def departed (e : Surroundings) (locked : SqliteLedger) (op : ConsequentialOperation) :
    Except PyError LoopStepResult → SqliteLedger
  | .error _ => locked
  | .ok result =>
    match result.status, result.verificationResult with
    | .waitingReconcile, _ => locked
    | .stoppedFailure, none =>
      leave cfg e locked op treasury s!"Escrow refund for failed operation {op.id}" s!"ref-loop-{op.id}"
    | .stoppedFailure, some _ =>
      leave cfg e locked op treasury s!"Escrow refund for rejected verification {op.id}"
        s!"ref-ver-{op.id}"
    | _, _ =>
      leave cfg e locked op externalSink s!"Settlement for verified operation {op.id}"
        s!"set-loop-{op.id}"

/-- The operations that a step handed to the provider. -/
def handedBetween (s s' : Loop) : List ConsequentialOperation :=
  (handedOver s'.record).drop (handedOver s.record).length

def ledgerAfter (e : Surroundings) (l : SqliteLedger) (s : Loop) : SqliteLedger :=
  if !s.state.objectiveMet && s.state.status = .waitingReconcile then
    match cfg.hasReconciler, s.pendingOperation, s.pendingIntent with
    | true, some op, some intent =>
      (exec respond e.input (reconcileFound r.toHashing r.text ⟨op.id, intent, cfg.org⟩ op)
        ⟨l, e.operations, e.reconcilerVerified⟩).2.ledger
    | _, _, _ => l
  else
    let outcome := stepOn r cfg e l s
    match handedBetween s outcome.1 with
    | op :: _ => departed cfg e (lockedFor r cfg e l s) op outcome.2
    | [] => l

end Model

section Steps
variable {r : ApprovalRules} {cfg : LoopSettings} {a : Answers} {s : Loop} {i : OrbioPurchaseIntent}

/-- Nothing is handed over, nothing verified, and the objective not declared complete. -/
structure Quiet (s : Loop) (outcome : Outcome) : Prop where
  handed : handedOver outcome.1.record = handedOver s.record
  acquired : outcome.1.state.acquiredCredit = s.state.acquiredCredit
  answer : ∀ result, outcome.2 = .ok result →
    result.status ≠ .objectiveComplete ∧ result.verificationResult = none

/-- The objective is declared complete, and that is all. -/
structure Declares (s : Loop) (outcome : Outcome) : Prop where
  handed : handedOver outcome.1.record = handedOver s.record
  acquired : outcome.1.state.acquiredCredit = s.state.acquiredCredit
  answer : ∃ result, outcome.2 = .ok result ∧ result.status = .objectiveComplete

/-- What is executed is the intent the policy was asked about, on the counters of before. -/
structure Executes (r : ApprovalRules) (cfg : LoopSettings) (a : Answers) (s : Loop)
    (i : OrbioPurchaseIntent) (outcome : Outcome) : Prop where
  executed : ∃ s' proposal prep decided, proposal.intent = i ∧ prepare r i decided = .ok prep ∧
    handedOver s'.record = handedOver s.record ∧
    s'.state.acquiredCredit = s.state.acquiredCredit ∧
    outcome = executeAuthorized r cfg a s' proposal prep

theorem Quiet.raised {e : PyError} {s' : Loop} (handed : handedOver s'.record = handedOver s.record)
    (acquired : s'.state.acquiredCredit = s.state.acquiredCredit) : Quiet s (s', .error e) := by
  refine ⟨handed, acquired, ?_⟩
  intro result done
  cases done

theorem Quiet.answered {result : LoopStepResult} {s' : Loop}
    (handed : handedOver s'.record = handedOver s.record)
    (acquired : s'.state.acquiredCredit = s.state.acquiredCredit)
    (open_ : result.status ≠ .objectiveComplete) (unverified : result.verificationResult = none) :
    Quiet s (s', .ok result) := by
  refine ⟨handed, acquired, ?_⟩
  intro result' done
  obtain rfl := Except.ok.inj done
  exact ⟨open_, unverified⟩

theorem submitProposal_cases (proposal : AgentPurchaseProposal) :
    (alreadyCompleted r s proposal.intent = true ∧ Declares s (submitProposal r cfg a s proposal)) ∨
      (alreadyCompleted r s proposal.intent = false ∧ (Quiet s (submitProposal r cfg a s proposal) ∨
        Executes r cfg a s proposal.intent (submitProposal r cfg a s proposal))) := by
  unfold submitProposal alreadyCompleted
  dsimp only
  split
  · rename_i completed
    exact .inl ⟨decide_eq_true completed, rfl, rfl, _, rfl, rfl⟩
  · rename_i fresh
    refine .inr ⟨decide_eq_false fresh, ?_⟩
    split
    · exact .inl (.raised rfl rfl)
    · rename_i prep prepared
      split
      · exact .inl (.answered (handedOver_quiet rfl) rfl (by simp) rfl)
      · exact .inl (.answered rfl rfl (by simp) rfl)
      · exact .inr ⟨s.begin _, proposal, prep, _, rfl, prepared, rfl, rfl, rfl⟩

theorem proposePurchase_planned (least credits : Int) (reason : String)
    (own : ownOrganisation cfg s = true) :
    proposePurchase r cfg s (plannedUsdg cfg s) least credits reason =
      (s, (newPurchaseIntent r.text (proposedFields cfg s (plannedUsdg cfg s) least credits)).map
        (proposalOf s least reason)) := by
  rw [ownOrganisation, Bool.and_eq_true, decide_eq_true_iff, decide_eq_true_iff] at own
  rw [proposePurchase, if_neg]
  rintro (foreign | foreign)
  · exact foreign own.1
  · exact foreign own.2

theorem proposePurchase_foreign (usdgIn least credits : Int) (reason : String)
    (foreign : ownOrganisation cfg s = false) :
    proposePurchase r cfg s usdgIn least credits reason = (s.enter .stoppedCrossTenant,
      .error ⟨.permissionError, "Agent tenant/org does not match organisation context"⟩) := by
  rw [ownOrganisation, Bool.and_eq_false_iff, decide_eq_false_iff_not, decide_eq_false_iff_not] at foreign
  rw [proposePurchase, if_pos foreign]

/-- A step declares the objective complete, asks and executes its intent, or does neither. -/
def StepCases (r : ApprovalRules) (cfg : LoopSettings) (a : Answers) (s : Loop) (outcome : Outcome) :
    Prop :=
  (finished r cfg s = true ∧ Declares s outcome) ∨ (finished r cfg s = false ∧
    (Quiet s outcome ∨ ∃ i, nextIntent r cfg s = some i ∧ Executes r cfg a s i outcome))

theorem finished_ready (met : s.state.objectiveMet = false) (status : s.state.status = .ready) :
    finished r cfg s = (hasRoom cfg s && (decide (s.state.targetCredit ≤ s.state.acquiredCredit) ||
      (proposed r cfg s).any (alreadyCompleted r s))) := by
  rw [finished, met, status]
  rfl

theorem nextIntent_ready (met : s.state.objectiveMet = false) (status : s.state.status = .ready) :
    nextIntent r cfg s = (proposed r cfg s).filter fun i => !alreadyCompleted r s i := by
  rw [nextIntent, met, status]
  rfl

/-- From the sized purchase on. -/
theorem proposed_cases (met : s.state.objectiveMet = false) (status : s.state.status = .ready)
    (room : hasRoom cfg s = true) (need : s.state.acquiredCredit < s.state.targetCredit)
    (some_ : 0 < plannedUsdg cfg s) (reason : String) :
    StepCases r cfg a s
      (match proposePurchase r cfg s (plannedUsdg cfg s) (max 1 ((plannedUsdg cfg s * 90) / 100))
          (max 1 (plannedUsdg cfg s / 1000000)) reason with
      | (s, .error e) => (s, .error e)
      | (s, .ok proposal) => submitProposal r cfg a s proposal) := by
  have unmet : decide (s.state.targetCredit ≤ s.state.acquiredCredit) = false :=
    decide_eq_false (Int.not_le.mpr need)
  unfold StepCases
  rw [finished_ready met status, nextIntent_ready met status, room, unmet, proposed, room,
    decide_eq_true need, decide_eq_true some_]
  cases own : ownOrganisation cfg s with
  | false =>
    rw [proposePurchase_foreign _ _ _ _ own]
    exact .inr ⟨rfl, .inl (.raised rfl rfl)⟩
  | true =>
    rw [proposePurchase_planned _ _ _ own]
    simp only [Bool.and_self, if_true, Bool.true_and, Bool.false_or]
    rw [plannedIntent]
    cases newPurchaseIntent r.text (proposedFields cfg s (plannedUsdg cfg s)
        (max 1 ((plannedUsdg cfg s * 90) / 100)) (max 1 (plannedUsdg cfg s / 1000000))) with
    | error e => exact .inr ⟨rfl, .inl (.raised rfl rfl)⟩
    | ok intent =>
      rcases @submitProposal_cases r cfg a s
        (proposalOf s (max 1 ((plannedUsdg cfg s * 90) / 100)) reason intent) with
        ⟨completed, declares⟩ | ⟨fresh, going⟩
      · exact .inl ⟨completed, declares⟩
      · refine .inr ⟨fresh, going.imp_right fun executes => ⟨intent, ?_, executes⟩⟩
        have fresh : alreadyCompleted r s intent = false := fresh
        simp [Option.filter, fresh]

theorem proposeNext_cases (met : s.state.objectiveMet = false) (status : s.state.status = .ready) :
    StepCases r cfg a s (proposeNext r cfg a s) := by
  have idle {outcome : Outcome} (room : hasRoom cfg s = false) (quiet : Quiet s outcome) :
      StepCases r cfg a s outcome := by
    refine .inr ⟨?_, .inl quiet⟩
    rw [finished_ready met status, room]
    rfl
  unfold proposeNext
  split
  · rename_i spent
    refine idle ?_ (.answered rfl rfl (by simp) rfl)
    simp [hasRoom, Int.not_lt.mpr spent]
  · rename_i left
    split
    · rename_i spent
      refine idle ?_ (.answered rfl rfl (by simp) rfl)
      simp [hasRoom, Int.not_lt.mpr spent]
    · rename_i budget
      have room : hasRoom cfg s = true := by
        simp [hasRoom, Int.not_le.mp left, Int.not_le.mp budget]
      dsimp only
      split
      · rename_i none
        have reached : s.state.targetCredit ≤ s.state.acquiredCredit := by omega
        refine .inl ⟨?_, rfl, rfl, _, rfl, rfl⟩
        rw [finished_ready met status, room, decide_eq_true reached]
        rfl
      · rename_i open_
        have need : s.state.acquiredCredit < s.state.targetCredit := by omega
        split
        · rename_i nothing
          refine .inr ⟨?_, .inl (.answered rfl rfl (by simp) rfl)⟩
          have none : ¬0 < plannedUsdg cfg s := Int.not_lt.mpr nothing
          rw [finished_ready met status, proposed, decide_eq_false none,
            decide_eq_false (Int.not_le.mpr need)]
          simp
        · rename_i something
          exact proposed_cases met status room need (Int.not_le.mp something) _

theorem handleWaitingHuman_cases (met : s.state.objectiveMet = false)
    (status : s.state.status = .waitingHuman) : StepCases r cfg a s (handleWaitingHuman r cfg a s) := by
  refine .inr ⟨?_, ?_⟩
  · rw [finished, met, status]
    rfl
  · unfold handleWaitingHuman
    split
    · exact .inl (.answered rfl rfl (by simp) rfl)
    · exact .inl (.answered rfl rfl (by simp) rfl)
    · rename_i intent approval pending supplied
      split
      · exact .inl (.raised rfl rfl)
      · rename_i prep prepared
        split
        · exact .inl (.answered rfl rfl (by simp) rfl)
        · dsimp only
          refine .inr ⟨intent, ?_, ⟨_, _, prep, _, ?_, prepared, ?_, ?_, rfl⟩⟩
          · rw [nextIntent, met, status, supplied, pending]
            rfl
          · rfl
          · exact handedOver_quiet rfl
          · rfl

/-- A step that does not reconcile. -/
theorem step_cases (settled : s.state.objectiveMet = true ∨ s.state.status ≠ .waitingReconcile) :
    StepCases r cfg a s (step r cfg a s) := by
  unfold step
  split
  · rename_i met
    refine .inl ⟨?_, rfl, rfl, _, rfl, rfl⟩
    rw [finished, met]
    rfl
  · rename_i open_
    have met : s.state.objectiveMet = false := Bool.eq_false_iff.mpr open_
    split
    · rename_i status
      exact handleWaitingHuman_cases met status
    · rename_i status
      exact absurd status (settled.resolve_left open_)
    · rename_i status
      exact proposeNext_cases met status
    · rename_i human reconcile ready
      by_cases complete : s.state.status = .objectiveComplete
      · refine .inl ⟨?_, rfl, rfl, _, rfl, complete⟩
        rw [finished, complete]
        exact Bool.or_true _
      · refine .inr ⟨?_, .inl (.answered rfl rfl complete rfl)⟩
        rw [finished, met]
        split
        · exact absurd ‹_› complete
        · exact absurd ‹_› ready
        · rfl

end Steps

section Executing
variable {r : ApprovalRules} {cfg : LoopSettings} {a : Answers} {s : Loop} {i : OrbioPurchaseIntent}

def Projects (r : ApprovalRules) (i : OrbioPurchaseIntent) : Prop :=
  ∃ bc, toBlockchainIntent r.text i = .ok bc

theorem prepare_projects {decided : Except PyError RecordedDecision} {prep : PurchasePreparation}
    (prepared : prepare r i decided = .ok prep) (allowed : prep.isAuthorized) : Projects r i := by
  obtain ⟨decision, -, prepared⟩ := bind_ok.mp prepared
  dsimp only at prepared
  split at prepared
  · rename_i refused
    obtain rfl := Except.ok.inj prepared
    exact absurd allowed refused
  · obtain ⟨bc, projected, -⟩ := bind_ok.mp prepared
    exact ⟨bc, projected⟩

theorem markInterrupted_handed (outcome : Outcome) :
    handedOver (markInterrupted outcome).1.record = handedOver outcome.1.record := by
  rcases outcome with ⟨s, e | result⟩
  · exact handedOver_quiet rfl
  · rfl

theorem afterExecution_handed {x : Attempt} {result : ProviderExecutionResult} :
    handedOver (afterExecution r cfg a s x result).1.record = handedOver s.record := by
  unfold afterExecution
  split
  · unfold awaitReconciliation
    split
    · rfl
    · exact handedOver_quiet rfl
  · split
    · unfold failExecution
      dsimp only
      split <;> rfl
    · split
      · rfl
      · dsimp only
        split
        · unfold rejectExecution
          dsimp only
          split <;> rfl
        · unfold completeExecution
          dsimp only
          split
          · rfl
          · split <;> rfl

/-- An execution hands over one operation at most, of an intent that could be projected. -/
theorem executeAuthorized_handed {proposal : AgentPurchaseProposal} {prep : PurchasePreparation}
    {decided : Except PyError RecordedDecision} (prepared : prepare r i decided = .ok prep) :
    handedOver (executeAuthorized r cfg a s proposal prep).1.record = handedOver s.record ∨
      (Projects r i ∧ ∃ op, Carries i op ∧
        handedOver (executeAuthorized r cfg a s proposal prep).1.record = handedOver s.record ++ [op]) := by
  unfold executeAuthorized
  split
  · exact .inl rfl
  · rename_i op created
    split
    · exact .inl rfl
    · dsimp only
      split
      · exact .inl rfl
      · exact .inl rfl
    · split
      · exact .inl rfl
      · rename_i op' submitted
        refine .inr ⟨prepare_projects prepared (createOperation_ok created).1, op',
          prepared_carries prepared created submitted, ?_⟩
        unfold handOver
        rw [markInterrupted_handed]
        cases executed : a.execute op' with
        | error e => exact handedOver_snoc op'
        | ok result => exact afterExecution_handed.trans (handedOver_snoc op')

/-- What an answer says about credits: none were verified, or at least what the intent
asked for. -/
def Credits (s : Loop) (i : OrbioPurchaseIntent) (outcome : Outcome) : Prop :=
  ∀ result, outcome.2 = .ok result →
    (outcome.1.state.acquiredCredit = s.state.acquiredCredit ∧ result.status ≠ .objectiveComplete ∧
      result.verificationResult ≠ some (verificationText .verified)) ∨
    s.state.acquiredCredit + i.minCreditOut ≤ outcome.1.state.acquiredCredit

theorem Credits.raised {s' : Loop} {e : PyError} : Credits s i (s', .error e) := by
  intro result done
  cases done

theorem Credits.unverified {s' : Loop} {result : LoopStepResult}
    (acquired : s'.state.acquiredCredit = s.state.acquiredCredit)
    (open_ : result.status ≠ .objectiveComplete)
    (unverified : result.verificationResult ≠ some (verificationText .verified)) :
    Credits s i (s', .ok result) := by
  intro result' done
  obtain rfl := Except.ok.inj done
  exact .inl ⟨acquired, open_, unverified⟩

theorem Credits.verified {s' : Loop} {result : LoopStepResult}
    (credited : s.state.acquiredCredit + i.minCreditOut ≤ s'.state.acquiredCredit) :
    Credits s i (s', .ok result) := fun _ _ => .inr credited

theorem verificationText_ne {v : PurchaseVerificationResult} (other : v ≠ .verified) :
    some (verificationText v) ≠ some (verificationText .verified) := by
  cases v with
  | verified => exact absurd rfl other
  | rejected => simp [verificationText]
  | pendingEvidence => simp [verificationText]

theorem markInterrupted_credits {outcome : Outcome} (credits : Credits s i outcome) :
    Credits s i (markInterrupted outcome) := by
  rcases outcome with ⟨s', e | result⟩
  · exact .raised
  · exact credits

theorem completeExecution_credits {x : Attempt} {result : ProviderExecutionResult}
    {report : PurchaseVerificationReport}
    (evidence : ∃ e, report.evidence = some e ∧ (i.minCreditOut : Int) ≤ e.creditOut) :
    Credits s i (completeExecution r cfg a s x result report) := by
  obtain ⟨e, read, enough⟩ := evidence
  have credited : s.state.acquiredCredit + i.minCreditOut ≤
      s.state.acquiredCredit + report.evidence.elim 0 (·.creditOut) := by
    rw [read]
    exact Int.add_le_add_left enough _
  unfold completeExecution
  dsimp only
  split
  · exact .raised
  · split
    · exact .verified credited
    · exact .verified credited

theorem afterExecution_credits {x : Attempt} {result : ProviderExecutionResult} :
    Credits s x.proposal.intent (afterExecution r cfg a s x result) := by
  unfold afterExecution
  split
  · unfold awaitReconciliation
    split
    · exact .raised
    · exact .unverified rfl (by simp [Attempt.result]) (by simp [Attempt.result])
  · split
    · unfold failExecution
      dsimp only
      split
      · exact .raised
      · exact .unverified rfl (by simp [Attempt.result]) (by simp [Attempt.result])
    · split
      · exact .raised
      · rename_i report judged
        dsimp only
        split
        · rename_i rejected
          unfold rejectExecution
          dsimp only
          split
          · exact .raised
          · exact .unverified rfl (by simp [Attempt.result]) (verificationText_ne rejected)
        · rename_i confirmed
          obtain ⟨e, read, -, enough⟩ := verifyExecution_spent judged (not_not.mp confirmed)
          exact completeExecution_credits (s := { s with state := { s.state with
            lastVerificationResult := some (verificationText report.result) } }) ⟨e, read, enough⟩

theorem executeAuthorized_credits {proposal : AgentPurchaseProposal} {prep : PurchasePreparation} :
    Credits s proposal.intent (executeAuthorized r cfg a s proposal prep) := by
  unfold executeAuthorized
  split
  · exact .raised
  · split
    · exact .raised
    · dsimp only
      split
      · exact .raised
      · exact .unverified rfl (by simp) (by simp)
    · split
      · exact .raised
      · rename_i op submitted
        unfold handOver
        apply markInterrupted_credits
        cases a.execute op with
        | error e => exact .raised
        | ok result => exact afterExecution_credits (s := s.note (.handed op)) (x := ⟨proposal, prep, op⟩)

theorem concludeReconciliation_credits {outcome : PurchaseReconciliationOutcome}
    (judged : ∀ ver, outcome.verification = some ver → ver.result = .verified →
      ∃ e, ver.evidence = some e ∧ (i.minCreditOut : Int) ≤ e.creditOut) :
    Credits s i (concludeReconciliation r s i outcome) := by
  unfold concludeReconciliation
  split
  · exact .unverified rfl (by simp) (by simp)
  · rename_i ver given
    dsimp only
    split
    · rename_i pending
      exact .unverified rfl (by simp) (verificationText_ne (by simp [pending]))
    · rename_i rejected
      exact .unverified rfl (by simp) (verificationText_ne (by simp [rejected]))
    · rename_i confirmed
      obtain ⟨e, read, enough⟩ := judged ver given confirmed
      have credited : s.state.acquiredCredit + i.minCreditOut ≤
          s.state.acquiredCredit + ver.evidence.elim 0 (·.creditOut) := by
        rw [read]
        exact Int.add_le_add_left enough _
      split
      · exact .verified credited
      · exact .verified credited

/-- A reconciliation brings what the pending intent asked for, or nothing. -/
theorem handleReconcile_credits : (∃ i op, cfg.hasReconciler = true ∧ s.pendingOperation = some op ∧
    s.pendingIntent = some i ∧ Credits s i (handleReconcile r cfg a s)) ∨
      Quiet s (handleReconcile r cfg a s) := by
  unfold handleReconcile
  split
  · rename_i op intent reconciler here pending
    refine .inl ⟨intent, op, reconciler, here, pending, ?_⟩
    split
    · exact .raised
    · rename_i outcome done
      refine concludeReconciliation_credits (s := { s with pendingOperation := some outcome.operation }) ?_
      have judged := Returns.exec (reconcileFound_returns (c := ⟨op.id, intent, cfg.org⟩)
        (Q := fun ver => ver.result = .verified → ∃ e, ver.evidence = some e ∧
          (intent.minCreditOut : Int) ≤ e.creditOut) ?_) done
      · exact judged.2
      · intro verified status op' answer same confirmed
        obtain ⟨evidence, -, verdict⟩ := bind_ok.mp same
        obtain ⟨e, read, -, enough⟩ := verify_spent verdict confirmed
        exact ⟨e, read, enough⟩
  · exact .inr (.answered rfl rfl (by simp) rfl)

/-- Credits come out of a step from the intent at stake only; else the step does not claim
success unless the loop was finished before. -/
theorem step_credits {result : LoopStepResult} (done : (step r cfg a s).2 = .ok result) :
    ((step r cfg a s).1.state.acquiredCredit = s.state.acquiredCredit ∧
      (finished r cfg s = true ∨ (result.status ≠ .objectiveComplete ∧
        result.verificationResult ≠ some (verificationText .verified)))) ∨
    ∃ i, intentAtStake r cfg s = some i ∧
      s.state.acquiredCredit + i.minCreditOut ≤ (step r cfg a s).1.state.acquiredCredit := by
  by_cases reconciling : s.state.objectiveMet = false ∧ s.state.status = .waitingReconcile
  · obtain ⟨met, status⟩ := reconciling
    have here : step r cfg a s = handleReconcile r cfg a s := by
      rw [step, met, status]
      rfl
    rw [here] at done ⊢
    rcases @handleReconcile_credits r cfg a s with
      ⟨i, op, reconciler, known, pending, credits⟩ | quiet
    · rcases credits result done with ⟨same, open_, unverified⟩ | credited
      · exact .inl ⟨same, .inr ⟨open_, unverified⟩⟩
      · refine .inr ⟨i, ?_, credited⟩
        rw [intentAtStake, met, status, reconciler, known, pending]
        rfl
    · obtain ⟨open_, unverified⟩ := quiet.answer result done
      exact .inl ⟨quiet.acquired, .inr ⟨open_, by simp [unverified]⟩⟩
  · have settled : s.state.objectiveMet = true ∨ s.state.status ≠ .waitingReconcile := by
      cases met : s.state.objectiveMet with
      | true => exact .inl rfl
      | false => exact .inr fun status => reconciling ⟨met, status⟩
    have atStake : intentAtStake r cfg s = nextIntent r cfg s := by
      rw [intentAtStake, if_neg]
      simpa using reconciling
    rcases @step_cases r cfg a s settled with
      ⟨finished, declares⟩ | ⟨-, quiet | ⟨i, next, s', proposal, prep, decided, rfl, -, -, same, here⟩⟩
    · exact .inl ⟨declares.acquired, .inl finished⟩
    · obtain ⟨open_, unverified⟩ := quiet.answer result done
      exact .inl ⟨quiet.acquired, .inr ⟨open_, by simp [unverified]⟩⟩
    · rw [here] at done ⊢
      rcases executeAuthorized_credits result done with ⟨kept, open_, unverified⟩ | credited
      · exact .inl ⟨kept.trans same, .inr ⟨open_, unverified⟩⟩
      · exact .inr ⟨proposal.intent, atStake.trans next, same ▸ credited⟩

/-- A step that does not reconcile hands over one operation at most, of its next intent. -/
theorem step_handed (settled : s.state.objectiveMet = true ∨ s.state.status ≠ .waitingReconcile) :
    handedBetween s (step r cfg a s).1 = [] ∨ ∃ i op, nextIntent r cfg s = some i ∧ Projects r i ∧
      Carries i op ∧ handedBetween s (step r cfg a s).1 = [op] := by
  unfold handedBetween
  rcases @step_cases r cfg a s settled with
    ⟨-, declares⟩ | ⟨-, quiet | ⟨i, next, s', proposal, prep, decided, -, prepared, same, -, here⟩⟩
  · rw [declares.handed, List.drop_length]
    exact .inl rfl
  · rw [quiet.handed, List.drop_length]
    exact .inl rfl
  · rw [here]
    rcases @executeAuthorized_handed r cfg a s' i proposal prep _ prepared with
      none | ⟨projects, op, carries, one⟩
    · rw [none, same, List.drop_length]
      exact .inl rfl
    · rw [one, same, List.drop_left]
      exact .inr ⟨i, op, next, projects, carries, rfl⟩

end Executing

section Treasury
variable {r : ApprovalRules} {cfg : LoopSettings} {e : Surroundings} {l : SqliteLedger} {s : Loop}
  {i : OrbioPurchaseIntent}

/-- The ledger can lock the credits of an intent. -/
structure Payable (cfg : LoopSettings) (l : SqliteLedger) (i : OrbioPurchaseIntent) : Prop where
  shared : cfg.hasLedger = true
  something : 0 < i.amountCredits
  held : (i.amountCredits : Int) ≤ l.getBalance treasury

theorem escrow_ne_treasury : escrow ≠ treasury := by decide

theorem leave_treasury (locked : SqliteLedger) (op : ConsequentialOperation)
    (target memo transactionId : String) :
    locked.getBalance treasury ≤ (leave cfg e locked op target memo transactionId).getBalance treasury := by
  unfold leave
  split
  · exact sqlite_transfer_balance locked e.leaveDraw op.amount memo _ escrow_ne_treasury
  · exact le_refl _

theorem departed_treasury (locked : SqliteLedger) (op : ConsequentialOperation)
    (answer : Except PyError LoopStepResult) :
    locked.getBalance treasury ≤ (departed cfg e locked op answer).getBalance treasury := by
  unfold departed
  cases answer with
  | error err => exact le_refl _
  | ok result =>
    dsimp only
    split
    · exact le_refl _
    · exact leave_treasury ..
    · exact leave_treasury ..
    · exact leave_treasury ..

theorem lockedLedger_treasury (e : Surroundings) (l : SqliteLedger) (i : OrbioPurchaseIntent) :
    (lockedLedger cfg e l i).getBalance treasury = l.getBalance treasury ∨
      (Payable cfg l i ∧ (lockedLedger cfg e l i).getBalance treasury =
        l.getBalance treasury - i.amountCredits) := by
  unfold lockedLedger
  split
  · rename_i shared
    rcases sqlite_transfer_cases l e.lockDraw treasury escrow i.amountCredits
      s!"Escrow for loop operation cop-{e.uuidHex}" (some s!"esc-loop-cop-{e.uuidHex}") with
      ⟨err, refused⟩ | ⟨entry, row, taken, source, target, exactly, -, -, pos, -, held⟩
    · rw [refused]
      exact .inl rfl
    · right
      refine ⟨⟨shared, by omega, held⟩, ?_⟩
      rw [taken]
      show balanceOf (l.rows ++ [row]) treasury = balanceOf l.rows treasury - i.amountCredits
      rw [balanceOf_concat, source, target, exactly, if_pos rfl, if_neg escrow_ne_treasury]
      omega
  · exact .inl rfl

theorem reconcile_treasury (call : PurchaseReconciliation.PurchaseCall) (op : ConsequentialOperation)
    (desk : Desk) (input : Input) : desk.ledger.getBalance treasury ≤
      (exec respond input (reconcileFound r.toHashing r.text call op) desk).2.ledger.getBalance treasury := by
  refine Issues.exec (fun w : Desk => desk.ledger.getBalance treasury ≤ w.ledger.getBalance treasury)
    reconcileFound_issues ?_ (le_refl _)
  intro c w allowed now
  cases c with
  | transfer source target amount memo txId =>
    have fromEscrow : source = escrow := allowed
    have apart : source ≠ treasury := fromEscrow ▸ escrow_ne_treasury
    exact now.trans (sqlite_transfer_balance w.ledger input.draw amount memo (some txId) apart)
  | save op =>
    unfold respond
    dsimp only
    split
    · exact now
    · exact now
  | status id key reference =>
    cases reference with
    | none => exact now
    | some reference => exact now
  | _ => exact now

/-- What the treasury loses in a step it loses for the next intent, which it could pay. -/
theorem ledgerAfter_treasury (e : Surroundings) (l : SqliteLedger) (s : Loop) :
    l.getBalance treasury ≤ (ledgerAfter r cfg e l s).getBalance treasury ∨
      ∃ i, nextIntent r cfg s = some i ∧ Payable cfg l i ∧ Projects r i ∧
        l.getBalance treasury - (ledgerAfter r cfg e l s).getBalance treasury ≤ i.amountCredits := by
  unfold ledgerAfter
  split
  · left
    split
    · exact reconcile_treasury ⟨_, _, cfg.org⟩ _ ⟨l, e.operations, e.reconcilerVerified⟩ e.input
    · exact le_refl _
  · rename_i other
    have settled : s.state.objectiveMet = true ∨ s.state.status ≠ .waitingReconcile := by
      cases met : s.state.objectiveMet with
      | true => exact .inl rfl
      | false =>
        refine .inr fun status => other ?_
        rw [met, status]
        rfl
    dsimp only
    rcases @step_handed r cfg (e.answers l (lockedFor r cfg e l s)) s settled with
      none | ⟨i, op, next, projects, -, one⟩
    · rw [stepOn, none]
      exact .inl (le_refl _)
    · rw [stepOn, one, lockedFor, next]
      dsimp only
      have left_ := @departed_treasury cfg e (lockedLedger cfg e l i) op
        (step r cfg (e.answers l (lockedLedger cfg e l i)) s).2
      rcases @lockedLedger_treasury cfg e l i with same | ⟨payable, less⟩
      · exact .inl (same ▸ left_)
      · refine .inr ⟨i, rfl, payable, projects, ?_⟩
        omega

end Treasury

end LoopLedger
