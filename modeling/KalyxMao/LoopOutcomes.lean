import KalyxMao.LedgerEquivalence
import KalyxMao.LoopLedger

/-!
# What a purchase comes to, by the provider's answer

A step that hands an operation to the provider has locked its escrow before. A
timeout leaves it locked, with the operation pending; only a reconciliation
opens the way to another purchase. A reported success is settled or, where the
verifier does not verify it, refunded.
-/

namespace LoopOutcomes
open PythonText PythonValues Ledger SqlLedgers Domain EffectPrograms
open PurchaseVerifier PurchasePolicy PurchaseBridge PurchaseLoop LoopLedger
open PurchaseReconciliation (PurchaseReconciliationOutcome reconcileFound_returns)

section Property
variable (r : ApprovalRules) (cfg : LoopSettings)

/-- The treasury has more than with the escrow of the step locked. -/
def Refunded (locked after : SqliteLedger) : Prop :=
  locked.getBalance treasury < after.getBalance treasury

/-- The verifier judges a reported success, and does not verify it. -/
def Unverified (a : Answers) (i : OrbioPurchaseIntent) (result : ProviderExecutionResult)
    (op : ConsequentialOperation) : Prop :=
  ∃ report, verifyExecution r a i result op = .ok report ∧ report.result ≠ .verified

/-- Whatever is called from here on: nothing is handed over before the operation is reconciled. -/
def Barred (s : Loop) (operationId : String) : Prop :=
  ∀ calls before op after, (performAll r cfg s calls).record =
    s.record ++ before ++ .handed op :: after → Event.resolved operationId ∈ before

/-- The operation is ambiguous: its escrow is locked, the loop waits for its reconciliation. -/
structure Waiting (s : Loop) (op : ConsequentialOperation) (locked after : SqliteLedger) : Prop where
  locked : after = locked
  status : s.state.status = .waitingReconcile
  recorded : s.state.pendingOperationId = some op.id
  pending : ∃ op', s.pendingOperation = some op' ∧ op'.id = op.id ∧ op'.state = .unknown
  barred : Barred r cfg s op.id

/-- What a step that handed an operation over keeps, by the provider's answer. -/
structure OutcomesKept (e : Surroundings) (l : SqliteLedger) (s : Loop) : Prop where
  refund : ∀ op, handedBetween s (stepOn r cfg e l s).1 = [op] →
    Refunded (lockedFor r cfg e l s) (ledgerAfter r cfg e l s) →
    ∃ result, e.execute op = .ok result ∧ result.outcome ≠ outcomeTimeout ∧
      (result.outcome = outcomeSuccess → ∃ i, nextIntent r cfg s = some i ∧
        Unverified r (e.answers l (lockedFor r cfg e l s)) i result op)
  raised : ∀ op exc, handedBetween s (stepOn r cfg e l s).1 = [op] → e.execute op = .error exc →
    ledgerAfter r cfg e l s = lockedFor r cfg e l s
  timeout : ∀ op result, handedBetween s (stepOn r cfg e l s).1 = [op] → e.execute op = .ok result →
    result.outcome = outcomeTimeout →
    Waiting r cfg (stepOn r cfg e l s).1 op (lockedFor r cfg e l s) (ledgerAfter r cfg e l s)

end Property

section Barring
variable {r : ApprovalRules} {cfg : LoopSettings} {a : Answers} {s : Loop} {id : String}
  {extra new : List Event}

/-- An operation is handed over behind the reconciliation only. -/
def Guarded (id : String) (es : List Event) : Prop :=
  ∀ before op after, es = before ++ .handed op :: after → .resolved id ∈ before

/-- The loop does not go on from here, or it waits for the operation. -/
def Stuck (id : String) (s : Loop) : Prop :=
  match s.state.status with
  | .ready => False
  | .waitingHuman => False
  | .waitingReconcile => ∀ op, s.pendingOperation = some op → op.id = id
  | _ => True

theorem guarded_nil : Guarded id [] := by
  intro before op after same
  simp at same

theorem Guarded.append (guarded : Guarded id extra)
    (opened : .resolved id ∈ extra ∨ handedOver new = []) : Guarded id (extra ++ new) := by
  intro before op after same
  obtain ⟨mid, rfl, behind⟩ | ⟨mid, rfl, inside⟩ := List.append_eq_append_iff.mp same
  · -- the hand-over is among the new events
    rcases opened with resolved | none_
    · exact List.mem_append_left _ resolved
    · have mem : op ∈ handedOver new := by
        rw [behind]
        simp [handedOver, Event.handedOp]
      rw [none_] at mem
      cases mem
  · cases mid with
    | nil =>
      rcases opened with resolved | none_
      · simpa using resolved
      · have mem : op ∈ handedOver new := by
          rw [← List.nil_append new, ← inside]
          simp [handedOver, Event.handedOp]
        rw [none_] at mem
        cases mem
    | cons head tail =>
      obtain ⟨rfl, rfl⟩ := List.cons.inj inside
      exact guarded before op tail rfl

/-- What was recorded since, and whether the operation is still open. -/
def Held (id : String) (base : List Event) (s : Loop) : Prop :=
  ∃ extra, s.record = base ++ extra ∧ Guarded id extra ∧ (.resolved id ∈ extra ∨ Stuck id s)

theorem concludeReconciliation_stuck {i : OrbioPurchaseIntent} {outcome : PurchaseReconciliationOutcome}
    (same : outcome.operation.id = id) (here : s.pendingOperation = some outcome.operation) :
    ∃ new, (concludeReconciliation r s i outcome).1.record = s.record ++ new ∧ handedOver new = [] ∧
      (.resolved id ∈ new ∨ Stuck id (concludeReconciliation r s i outcome).1) := by
  unfold concludeReconciliation
  split
  · exact ⟨[], (List.append_nil _).symm, rfl, .inr trivial⟩
  · dsimp only
    split
    · refine ⟨[], (List.append_nil _).symm, rfl, .inr fun op pending => ?_⟩
      obtain rfl := Option.some.inj (here.symm.trans pending)
      exact same
    · exact ⟨[.resolved outcome.operation.id], rfl, rfl, .inl (same ▸ List.mem_singleton_self _)⟩
    · split
      · exact ⟨[.resolved outcome.operation.id], rfl, rfl, .inl (same ▸ List.mem_singleton_self _)⟩
      · exact ⟨[.resolved outcome.operation.id], rfl, rfl, .inl (same ▸ List.mem_singleton_self _)⟩

variable (r cfg a) in
/-- A step of such a loop hands nothing over, and it reconciles the operation or stays. -/
theorem step_stuck (stuck : Stuck id s) :
    ∃ new, (step r cfg a s).1.record = s.record ++ new ∧ handedOver new = [] ∧
      (.resolved id ∈ new ∨ Stuck id (step r cfg a s).1) := by
  unfold step
  split
  · exact ⟨[], (List.append_nil _).symm, rfl, .inr trivial⟩
  · unfold Stuck at stuck
    split
    · rename_i status
      rw [status] at stuck
      exact stuck.elim
    · rename_i status
      rw [status] at stuck
      unfold handleReconcile
      split
      · rename_i op intent _ here pending
        split
        · refine ⟨[], (List.append_nil _).symm, rfl, .inr ?_⟩
          unfold Stuck
          rw [status]
          intro op' same
          obtain rfl := Option.some.inj same
          exact stuck op here
        · rename_i outcome done
          have judged := Returns.exec (reconcileFound_returns (h := r.toHashing) (t := r.text)
            (c := ⟨op.id, intent, cfg.org⟩) (Q := fun _ => True)
            fun _ _ _ _ _ => trivial) done
          exact concludeReconciliation_stuck (s := { s with pendingOperation := some outcome.operation })
            (judged.1.trans (stuck op here)) rfl
      · exact ⟨[], (List.append_nil _).symm, rfl, .inr trivial⟩
    · rename_i status
      rw [status] at stuck
      exact stuck.elim
    · exact ⟨[], (List.append_nil _).symm, rfl, .inr stuck⟩

theorem step_held {base : List Event} (held : Held id base s) : Held id base (step r cfg a s).1 := by
  obtain ⟨extra, recorded, guarded, resolved | stuck⟩ := held
  · obtain ⟨new, grown⟩ : s.record <+: (step r cfg a s).1.record := step_grows
    refine ⟨extra ++ new, ?_, guarded.append (.inl resolved), .inl (List.mem_append_left _ resolved)⟩
    rw [← grown, recorded, List.append_assoc]
  · obtain ⟨new, grown, quiet, opened⟩ := step_stuck r cfg a stuck
    refine ⟨extra ++ new, ?_, guarded.append (.inr quiet), ?_⟩
    · rw [grown, recorded, List.append_assoc]
    · exact opened.imp_left (List.mem_append_right _)

theorem runSteps_held {base : List Event} (answers : ℕ → Answers) (left : ℕ) (held : Held id base s) :
    Held id base (runSteps r cfg answers left s).1 :=
  runSteps_induction (fun _ _ => step_held) answers left held

theorem perform_held {base : List Event} (call : Call) (held : Held id base s) :
    Held id base (call.perform r cfg s) := by
  cases call with
  | supply approval =>
    obtain ⟨extra, recorded, guarded, opened⟩ := held
    refine ⟨extra ++ [.supplied approval], ?_, guarded.append (.inr rfl),
      opened.imp_left (List.mem_append_left _)⟩
    show s.record ++ [Event.supplied approval] = _
    rw [recorded, List.append_assoc]
  | step answers => exact step_held held
  | run maxSteps answers => exact runSteps_held answers _ held

theorem performAll_held {base : List Event} (calls : List Call) (held : Held id base s) :
    Held id base (performAll r cfg s calls) := by
  induction calls generalizing s with
  | nil => exact held
  | cons call rest ih => exact ih (perform_held call held)

theorem barred_of_stuck (stuck : Stuck id s) : Barred r cfg s id := by
  intro calls before op after same
  have start : Held id s.record s := ⟨[], (List.append_nil _).symm, guarded_nil, .inr stuck⟩
  have kept : Held id s.record (performAll r cfg s calls) := performAll_held calls start
  obtain ⟨extra, recorded, guarded, -⟩ := kept
  rw [recorded, List.append_assoc] at same
  exact guarded before op after (List.append_cancel_left same)

end Barring

section HandOver
variable {r : ApprovalRules} {cfg : LoopSettings} {e : Surroundings} {l locked : SqliteLedger}
  {a : Answers} {s : Loop} {op : ConsequentialOperation}

theorem submit_state {op' : ConsequentialOperation} (submitted : submit op = .ok op') :
    op'.state = .submitted := by
  obtain ⟨authorized, -, submitted⟩ := bind_ok.mp submitted
  obtain ⟨escrowed, -, submitted⟩ := bind_ok.mp submitted
  exact (ConsequentialOperation.transitionTo_ok submitted).2.1

variable (r cfg a s) in
/-- An execution hands nothing over, or it is the hand-over of a submitted operation. -/
theorem executeAuthorized_cases (proposal : AgentPurchaseProposal) (prep : PurchasePreparation) :
    handedOver (executeAuthorized r cfg a s proposal prep).1.record = handedOver s.record ∨
    ∃ op, op.state = .submitted ∧
      executeAuthorized r cfg a s proposal prep = handOver r cfg a s ⟨proposal, prep, op⟩ := by
  unfold executeAuthorized
  split
  · exact .inl rfl
  · split
    · exact .inl rfl
    · dsimp only
      split
      · exact .inl rfl
      · exact .inl rfl
    · split
      · exact .inl rfl
      · rename_i op' submitted
        exact .inr ⟨op', submit_state submitted, rfl⟩

variable (r cfg a s) in
theorem handOver_handed (x : Attempt) :
    handedOver (handOver r cfg a s x).1.record = handedOver s.record ++ [x.operation] := by
  unfold handOver
  rw [markInterrupted_handed]
  cases a.execute x.operation with
  | error exc => exact handedOver_snoc x.operation
  | ok result => exact afterExecution_handed.trans (handedOver_snoc x.operation)

/-- A loop that waits for a reconciliation hands nothing over. -/
theorem step_waiting (waiting : s.state.status = .waitingReconcile) :
    handedBetween s (step r cfg a s).1 = [] := by
  have stuck : Stuck ((s.pendingOperation.map (·.id)).getD "") s := by
    unfold Stuck
    rw [waiting]
    intro op pending
    rw [pending]
    rfl
  obtain ⟨new, grown, quiet, -⟩ := step_stuck r cfg a stuck
  have same : handedOver (step r cfg a s).1.record = handedOver s.record := by
    rw [grown, handedOver, List.filterMap_append]
    exact (congrArg (handedOver s.record ++ ·) quiet).trans (List.append_nil _)
  rw [handedBetween, same, List.drop_length]

/-- The step that handed an operation over: what it executed, for which intent, from which loop. -/
theorem stepOn_handed (handed : handedBetween s (stepOn r cfg e l s).1 = [op]) :
    ∃ s' x, op.state = .submitted ∧ x.operation = op ∧ nextIntent r cfg s = some x.proposal.intent ∧
      stepOn r cfg e l s = handOver r cfg (e.answers l (lockedFor r cfg e l s)) s' x ∧
      ledgerAfter r cfg e l s =
        departed cfg e (lockedFor r cfg e l s) op (stepOn r cfg e l s).2 := by
  have awake : s.state.status ≠ .waitingReconcile := by
    intro waiting
    rw [stepOn, step_waiting waiting] at handed
    cases handed
  have after : ledgerAfter r cfg e l s =
      departed cfg e (lockedFor r cfg e l s) op (stepOn r cfg e l s).2 := by
    unfold ledgerAfter
    rw [if_neg (by simp [awake])]
    dsimp only
    rw [handed]
  unfold stepOn at handed ⊢
  rcases @step_cases r cfg (e.answers l (lockedFor r cfg e l s)) s (.inr awake) with
    ⟨-, declares⟩ | ⟨-, quiet | ⟨i, next, s', proposal, prep, decided, rfl, -, same, -, here⟩⟩
  · rw [handedBetween, declares.handed, List.drop_length] at handed
    cases handed
  · rw [handedBetween, quiet.handed, List.drop_length] at handed
    cases handed
  · rcases executeAuthorized_cases r cfg (e.answers l (lockedFor r cfg e l s)) s'
      proposal prep with nothing | ⟨op', submitted, over_⟩
    · rw [handedBetween, here, nothing, same, List.drop_length] at handed
      cases handed
    · have one := handOver_handed r cfg (e.answers l (lockedFor r cfg e l s)) s'
        ⟨proposal, prep, op'⟩
      rw [handedBetween, here, over_, one, same, List.drop_left] at handed
      obtain rfl : op' = op := List.head_eq_of_cons_eq handed
      exact ⟨s', ⟨proposal, prep, op'⟩, submitted, rfl, next, here.trans over_, after⟩

theorem departed_waiting {result : LoopStepResult} (status : result.status = .waitingReconcile) :
    departed cfg e locked op (.ok result) = locked := by
  unfold departed
  dsimp only
  rw [status]

/-- What leaves escrow for the sink brings the treasury nothing. -/
theorem leave_sink (memo transactionId : String) :
    (leave cfg e locked op externalSink memo transactionId).getBalance treasury =
      locked.getBalance treasury := by
  unfold leave
  split
  · rcases sqlite_transfer_cases locked e.leaveDraw escrow externalSink op.amount memo
      (some transactionId) with ⟨err, refused⟩ | ⟨entry, row, taken, source, target, -⟩
    · rw [refused]
    · rw [taken]
      refine balanceOf_concat_other locked.rows ?_ ?_
      · rw [source]
        exact escrow_ne_treasury
      · rw [target]
        decide
  · rfl

/-- A verified purchase is settled with the sink, not refunded. -/
theorem departed_complete {x : Attempt} {result : ProviderExecutionResult}
    {report : PurchaseVerificationReport} :
    (departed cfg e locked op (completeExecution r cfg a s x result report).2).getBalance treasury =
      locked.getBalance treasury := by
  unfold completeExecution
  dsimp only
  split
  · rfl
  · split
    · exact leave_sink _ _
    · exact leave_sink _ _

theorem handOver_raised {x : Attempt} {exc : PyError} (raised : a.execute x.operation = .error exc) :
    (handOver r cfg a s x).2 = .error exc := by
  unfold handOver
  rw [raised]
  rfl

theorem markInterrupted_answer (outcome : Outcome) : (markInterrupted outcome).2 = outcome.2 := by
  rcases outcome with ⟨s, exc | result⟩
  · rfl
  · rfl

variable (r cfg s) in
/-- After a timeout the operation is pending, and the loop waits for it. -/
theorem handOver_timeout {x : Attempt} {result : ProviderExecutionResult}
    (submitted : x.operation.state = .submitted) (answer : a.execute x.operation = .ok result)
    (timeout : result.outcome = outcomeTimeout) :
    ∃ op' answered, (handOver r cfg a s x).2 = .ok answered ∧ answered.status = .waitingReconcile ∧
      (handOver r cfg a s x).1.state.status = .waitingReconcile ∧
      (handOver r cfg a s x).1.state.pendingOperationId = some x.operation.id ∧
      (handOver r cfg a s x).1.pendingOperation = some op' ∧ op'.id = x.operation.id ∧
      op'.state = .unknown := by
  have legal : OperationState.unknown ∈ validTransitions x.operation.state := by
    rw [submitted]
    decide
  obtain ⟨op', moved, unknown, same⟩ := x.operation.transitionTo_legal legal (some "timeout") none
  unfold handOver
  rw [answer]
  dsimp only
  unfold afterExecution
  rw [if_pos timeout]
  unfold awaitReconciliation
  rw [moved]
  exact ⟨op', _, rfl, rfl, rfl, congrArg some same.id, rfl, same.id, unknown⟩

/-- For every step, ledger, answer of the provider and verdict: the escrow that the step locked is
refunded only on an answer other than a timeout, and on a reported success only where the verifier
does not verify it; it stays locked where the provider raises; after a timeout it stays locked, the
loop waits with the operation recorded, and nothing is handed over before that is reconciled. -/
theorem outcomes_kept (r : ApprovalRules) (cfg : LoopSettings) (e : Surroundings) (l : SqliteLedger)
    (s : Loop) : OutcomesKept r cfg e l s := by
  constructor
  · intro op handed refunded
    obtain ⟨s', x, submitted, rfl, next, ran, after⟩ := stepOn_handed handed
    rw [after] at refunded
    unfold Refunded at refunded
    have answers : (e.answers l (lockedFor r cfg e l s)).execute = e.execute := rfl
    cases answer : e.execute x.operation with
    | error exc =>
      rw [ran, handOver_raised (answers ▸ answer)] at refunded
      exact absurd refunded (lt_irrefl _)
    | ok result =>
      refine ⟨result, rfl, fun timeout => ?_, fun success => ⟨x.proposal.intent, next, ?_⟩⟩
      · obtain ⟨op', answered, said, status, -⟩ := handOver_timeout r cfg s'
          submitted (answers ▸ answer) timeout
        rw [ran, said, departed_waiting status] at refunded
        exact absurd refunded (lt_irrefl _)
      · rw [ran] at refunded
        unfold handOver at refunded
        rw [markInterrupted_answer, answers, answer] at refunded
        dsimp only at refunded
        unfold afterExecution at refunded
        rw [if_neg (by rw [success]; decide), if_neg (not_not.mpr success)] at refunded
        split at refunded
        · exact absurd refunded (lt_irrefl _)
        · rename_i report judged
          refine ⟨report, judged, fun confirmed => ?_⟩
          dsimp only at refunded
          rw [if_neg (not_not.mpr confirmed), departed_complete] at refunded
          exact absurd refunded (lt_irrefl _)
  · intro op exc handed raised
    obtain ⟨s', x, -, rfl, -, ran, after⟩ := stepOn_handed handed
    rw [after, ran, handOver_raised raised]
    rfl
  · intro op result handed answer timeout
    obtain ⟨s', x, submitted, rfl, -, ran, after⟩ := stepOn_handed handed
    obtain ⟨op', answered, said, answeredStatus, status, recorded, pending, same, unknown⟩ :=
      handOver_timeout r cfg s'
        (a := e.answers l (lockedFor r cfg e l s)) submitted answer timeout
    rw [after, ran]
    refine ⟨?_, status, recorded, ⟨op', pending, same, unknown⟩, barred_of_stuck ?_⟩
    · rw [said, departed_waiting answeredStatus]
    · unfold Stuck
      rw [status]
      intro op'' pending'
      obtain rfl := Option.some.inj (pending.symm.trans pending')
      exact same

end HandOver

section Sample

/-- The escrow of a step is refunded on a definite failure only. -/
def RefundsOnFailureOnly (r : ApprovalRules) (cfg : LoopSettings) (e : Surroundings) (l : SqliteLedger)
    (s : Loop) : Prop :=
  ∀ op, handedBetween s (stepOn r cfg e l s).1 = [op] →
    Refunded (lockedFor r cfg e l s) (ledgerAfter r cfg e l s) →
    ∃ result, e.execute op = .ok result ∧ result.outcome = outcomeFailure

def ledgerSettings : LoopSettings := { sampleSettings with hasLedger := true }

/-- A success of another purchase. -/
def strangeSuccess (op : ConsequentialOperation) : ProviderExecutionResult :=
  ⟨"orbio-exchange-simulated", op.id, outcomeSuccess, some "ref-1",
    [("chain_id", .int 46630), ("network", .str "robinhood-testnet"), ("exchange_contract", .str "0x1"),
      ("beneficiary", .str "0x2"), ("purchase_intent_hash", .str "other"), ("usdg_spent", .int 1),
      ("credit_out", .int 1)], none, none⟩

def strangeSurroundings : Surroundings where
  policy := sampleAnswers.policy
  uuidHex := sampleAnswers.uuidHex
  lockDraw := ⟨"l1", "t1", 0⟩
  leaveDraw := ⟨"l2", "t2", 0⟩
  execute op := .ok (strangeSuccess op)
  verified := []
  operations := []
  reconcilerVerified := []
  input := sampleAnswers.input
  leftState := .unknown
  leftErrorMessage := none
  leftReference := none

def fundedLedger : SqliteLedger :=
  LedgerEquivalence.sqliteOf
    [⟨"m1", 0, "mint-0", systemMint, treasury, 100, "Initial capital", LedgerEquivalence.capital_pos⟩]

/-- A reported success whose evidence is of another purchase: the escrow goes back to the treasury. -/
theorem rejected_success_refunded :
    (handedBetween (.new sampleState)
      (stepOn sampleRules ledgerSettings strangeSurroundings fundedLedger (.new sampleState)).1).length = 1 ∧
    (lockedFor sampleRules ledgerSettings strangeSurroundings fundedLedger (.new sampleState)).getBalance
      treasury = 98 ∧
    (ledgerAfter sampleRules ledgerSettings strangeSurroundings fundedLedger (.new sampleState)).getBalance
      treasury = 100 ∧
    ¬RefundsOnFailureOnly sampleRules ledgerSettings strangeSurroundings fundedLedger
      (.new sampleState) := by
  have observed : (handedBetween (.new sampleState)
        (stepOn sampleRules ledgerSettings strangeSurroundings fundedLedger
          (.new sampleState)).1).length = 1 ∧
      (lockedFor sampleRules ledgerSettings strangeSurroundings fundedLedger
        (.new sampleState)).getBalance treasury = 98 ∧
      (ledgerAfter sampleRules ledgerSettings strangeSurroundings fundedLedger
        (.new sampleState)).getBalance treasury = 100 := by
    decide +kernel
  obtain ⟨one, locked, after⟩ := observed
  refine ⟨one, locked, after, fun onFailure => ?_⟩
  obtain ⟨op, handed⟩ := List.length_eq_one_iff.mp one
  obtain ⟨result, answer, failed⟩ := onFailure op handed (by unfold Refunded; rw [locked, after]; decide)
  obtain rfl := Except.ok.inj answer
  exact absurd failed (by simp [strangeSuccess]; decide)

end Sample

end LoopOutcomes
