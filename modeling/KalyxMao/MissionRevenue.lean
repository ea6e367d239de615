import KalyxMao.MissionRunner
import KalyxMao.SurplusAccounting

/-!
# Missions and the revenue they mint

A mission acquires its credits, has the work done and verified, and settles it.
The coordinator runs a mission for an order it was told is viable; the daemon
adapts the reserve ratio to the treasury and coordinates what was chosen among
the candidates. Work orders may come again, to the same runner or to another.
-/

namespace MissionRevenue
open PythonText PythonValues Ledger SqlLedgers Domain EffectPrograms PurchaseVerifier PurchasePolicy
open PurchaseLoop LoopLedger WorkOrders MissionRunner SurplusAccounting
open PurchaseReconciliation (Desk Input respond reconcileFound reconcileFound_issues FromEscrow)

section Model

structure MissionRules extends ApprovalRules where
  floorTimes : Int → PyFloat → Except PyError Int

def MissionRules.surplus (r : MissionRules) : SurplusRules where
  toHashing := r.toHashing
  hmac := r.hmac
  text := r.text
  floorTimes := r.floorTimes

structure Runner where
  workVerifier : WorkDeliverableVerifier
  surplusReconciler : SurplusReconciler

/-- The shared ledger, what each runner's reconciler remembers, the ratio each runner settles
with, and a record of the orders that reached `SETTLED`. -/
structure Books where
  ledger : SqliteLedger
  events : Nat → List RevenueEvent
  reserveRatio : Nat → PyFloat
  settled : List WorkOrder

/-- One call of `execute_mission` on one of the runners, with what the work executor answers. -/
structure MissionCall where
  runner : Nat
  input : MissionInput
  surroundings : Surroundings
  work : Except PyError WorkDeliverable
  receiptId : String
  draws : SettlementDraws

structure MissionExecutionResult where
  workOrder : WorkOrder
  deliverable : Option WorkDeliverable := none
  receipt : Option WorkDeliverableReceipt := none
  revenueEvent : Option RevenueEvent := none
  directExpenseUsdg : Int
  success : Bool := false
  errorMessage : Option String := none

/-- A mission up to its settlement. -/
inductive Stage where
  | ended (answer : Except PyError MissionExecutionResult)
  | settling (w : WorkOrder) (d : WorkDeliverable) (c : WorkDeliverableReceipt) (directExpense : Int)

variable (r : MissionRules) (runners : Nat → Runner)

/-- Verification of a deliverable; the signature is looked at on accepted receipts only. -/
def auditDeliverable (k : Runner) (w : WorkOrder) (d : WorkDeliverable) (receiptId : String)
    (directExpense : Int) : Stage :=
  let c := k.workVerifier.verify r.surplus.toSigningRules w d receiptId
  let rejected : MissionExecutionResult :=
    { workOrder := w.transitionTo .rejected
      deliverable := some d
      receipt := some c
      directExpenseUsdg := directExpense
      errorMessage := some s!"Deliverable audit rejected: {c.verificationNotes}" }
  if !c.isVerified then .ended (.ok rejected)
  else
    match c.verifyHmac r.surplus.toSigningRules k.workVerifier.secretKey with
    | .error err => .ended (.error err)
    | .ok false => .ended (.ok rejected)
    | .ok true => .settling (w.transitionTo .verified) d c directExpense

def prepareMission (k : Runner) (l : SqliteLedger) (c : MissionCall) : Stage × SqliteLedger :=
  let w := c.input.order.transitionTo .inProgress
  let acquisition := acquire r.toApprovalRules c.surroundings l c.input
  let stage : Stage :=
    match acquisition.answer with
    | .error err => .ended (.error err)
    | .ok (.rejected directExpense message) =>
      .ended (.ok { workOrder := w.transitionTo .rejected, directExpenseUsdg := directExpense,
                    errorMessage := some message })
    | .ok (.supplied directExpense) =>
      match c.work with
      | .error err =>
        .ended (.ok { workOrder := w.transitionTo .rejected, directExpenseUsdg := directExpense,
                      errorMessage := some s!"Work execution failed: {err.message}" })
      | .ok d => auditDeliverable r k (w.transitionTo .delivered) d c.receiptId directExpense
  (stage, acquisition.ledger)

/-- `execute_mission`. -/
def executeMission (b : Books) (c : MissionCall) : Except PyError MissionExecutionResult × Books :=
  let k := runners c.runner
  match prepareMission r k b.ledger c with
  | (.ended answer, l) => (answer, { b with ledger := l })
  | (.settling w d receipt directExpense, l) =>
    match settleMission r.surplus k.surplusReconciler (b.events c.runner) l c.draws w receipt
        directExpense d.orbioCreditsConsumed (b.reserveRatio c.runner) with
    | (.error err, l) => (.error err, { b with ledger := l })
    | (.ok event, l) =>
      let w := w.transitionTo .settled
      (.ok { workOrder := w
             deliverable := some d
             receipt := some receipt
             revenueEvent := some event
             directExpenseUsdg := directExpense
             success := true },
        { b with
          ledger := l
          events := Function.update b.events c.runner (b.events c.runner ++ [event])
          settled := b.settled ++ [w] })

/-- A call of `coordinate_single_order`: the evaluation it is given, and what its repository
answers before and after the mission. -/
structure CoordinateCall where
  mission : MissionCall
  viable : Bool
  reason : String
  savedBefore : Except PyError Unit
  savedAfter : Except PyError Unit

/-- `coordinate_single_order`; it passes no budget limit. -/
def coordinateSingleOrder (b : Books) (c : CoordinateCall) :
    Except PyError MissionExecutionResult × Books :=
  if !c.viable then
    let w := c.mission.input.order.transitionTo .rejected
    (c.savedBefore.map fun _ => { workOrder := w, directExpenseUsdg := 0, errorMessage := some c.reason }, b)
  else
    match c.savedBefore with
    | .error err => (.error err, b)
    | .ok _ =>
      let mission := { c.mission with input := { c.mission.input with availableBudgetLimit := none } }
      match executeMission r runners b mission with
      | (.error err, b) => (.error err, b)
      | (.ok result, b) => (c.savedAfter.map fun _ => result, b)

inductive SolvencyRegime where
  | expansion
  | austere
  | standby
  deriving DecidableEq

def deriveSolvencyRegime (treasuryBalance expansionThreshold standbyThreshold : Int) : SolvencyRegime :=
  if expansionThreshold ≤ treasuryBalance then .expansion
  else if standbyThreshold ≤ treasuryBalance then .austere
  else .standby

/-- The reserve ratios of `REGIME_POLICIES`: the doubles nearest to 0.2, 0.5 and 1. -/
def regimeReserveRatio : SolvencyRegime → PyFloat
  | .expansion => .finite (3602879701896397 / 18014398509481984)
  | .austere => .finite (1 / 2)
  | .standby => .finite 1

/-- A call of `step_cycle`: whether there are candidates, and what was chosen among them. -/
structure CycleCall where
  runner : Nat
  expansionThreshold : Int := 150
  standbyThreshold : Int := 40
  hasCandidates : Bool
  chosen : Option CoordinateCall

def stepCycle (b : Books) (c : CycleCall) : Except PyError (Option MissionExecutionResult) × Books :=
  let regime := deriveSolvencyRegime (b.ledger.getBalance treasury) c.expansionThreshold c.standbyThreshold
  if regime = .standby then (.ok none, b)
  else if !c.hasCandidates then (.ok none, b)
  else
    let b := { b with reserveRatio := Function.update b.reserveRatio c.runner (regimeReserveRatio regime) }
    match c.chosen with
    | none => (.ok none, b)
    | some call =>
      let outcome := coordinateSingleOrder r runners b call
      (outcome.1.map some, outcome.2)

inductive Call where
  | mission (c : MissionCall)
  | coordinate (c : CoordinateCall)
  | cycle (c : CycleCall)

def Call.perform (b : Books) : Call → Books
  | .mission c => (executeMission r runners b c).2
  | .coordinate c => (coordinateSingleOrder r runners b c).2
  | .cycle c => (stepCycle r runners b c).2

def performAll (b : Books) (calls : List Call) : Books := calls.foldl (Call.perform r runners) b

/-- Books of runners that have settled nothing yet. -/
def Books.opened (l : SqliteLedger) (reserveRatio : Nat → PyFloat) : Books :=
  ⟨l, fun _ => [], reserveRatio, []⟩

end Model

section Specification
variable (r : MissionRules) (runners : Nat → Runner)

/-- The mission that a call comes to, and the books it finds. -/
def reachedBy (b : Books) : Call → Option (MissionCall × Books)
  | .mission c => some (c, b)
  | .coordinate c => coordinated b c
  | .cycle c =>
    let regime := deriveSolvencyRegime (b.ledger.getBalance treasury) c.expansionThreshold c.standbyThreshold
    if regime = .standby ∨ c.hasCandidates = false then none
    else c.chosen.bind (coordinated { b with
      reserveRatio := Function.update b.reserveRatio c.runner (regimeReserveRatio regime) })
where
  coordinated (b : Books) (c : CoordinateCall) : Option (MissionCall × Books) :=
    match c.viable, c.savedBefore with
    | true, .ok _ =>
      some ({ c.mission with input := { c.mission.input with availableBudgetLimit := none } }, b)
    | _, _ => none

/-- A call that comes to a settlement finds an order not settled before, and in order what the
reconciler looks at after the deposit. -/
def Sound (b : Books) (call : Call) : Prop :=
  ∀ c b', reachedBy b call = some (c, b') → ∀ w d receipt directExpense l,
    prepareMission r (runners c.runner) b'.ledger c = (.settling w d receipt directExpense, l) →
    (∀ w' ∈ b'.settled, w'.workOrderId ≠ w.workOrderId) ∧
      Settleable r.surplus (runners c.runner).surplusReconciler (b'.events c.runner) l c.draws w receipt
        directExpense (b'.reserveRatio c.runner)

def AllSound : Books → List Call → Prop
  | _, [] => True
  | b, call :: rest => Sound r runners b call ∧ AllSound (call.perform r runners b) rest

/-- A settlement that raises leaves every balance as it found it. -/
def LeavesNoTrace (b : Books) (call : Call) : Prop :=
  ∀ c b', reachedBy b call = some (c, b') → ∀ w d receipt directExpense l,
    prepareMission r (runners c.runner) b'.ledger c = (.settling w d receipt directExpense, l) →
    ∀ err, (executeMission r runners b' c).1 = .error err →
      ∀ account, (executeMission r runners b' c).2.ledger.getBalance account = l.getBalance account

/-- What the mint paid to `REVENUE` since are the bounties of the settled orders, each once. -/
structure Accounted (before : SqliteLedger) (b : Books) : Prop where
  minted : mintedTo b.ledger revenue = mintedTo before revenue + (b.settled.map (·.bountyAmount)).sum
  distinct : (b.settled.map (·.workOrderId)).Nodup

end Specification

section Acquisitions
variable {r : ApprovalRules} {cfg : LoopSettings} {e : Surroundings} {l : SqliteLedger}

theorem treasury_ne_systemMint : treasury ≠ systemMint := by decide

theorem escrow_ne_systemMint : escrow ≠ systemMint := by decide

theorem lockedFor_moves (s : Loop) : MovesOnly l (lockedFor r cfg e l s) := by
  unfold lockedFor
  split
  · unfold lockedLedger
    split
    · exact .transfer l e.lockDraw escrow _ _ _ treasury_ne_systemMint
    · exact .refl l
  · exact .refl l

theorem leave_moves (op : ConsequentialOperation) (target memo transactionId : String) :
    MovesOnly l (leave cfg e l op target memo transactionId) := by
  unfold leave
  split
  · exact .transfer l e.leaveDraw target _ _ _ escrow_ne_systemMint
  · exact .refl l

theorem departed_moves (op : ConsequentialOperation) (answer : Except PyError LoopStepResult) :
    MovesOnly l (departed cfg e l op answer) := by
  unfold departed
  cases answer with
  | error err => exact .refl l
  | ok result =>
    dsimp only
    split
    · exact .refl l
    · exact leave_moves ..
    · exact leave_moves ..
    · exact leave_moves ..

theorem reconcile_moves (call : PurchaseReconciliation.PurchaseCall) (op : ConsequentialOperation)
    (desk : Desk) (input : Input) : MovesOnly desk.ledger
      (exec respond input (reconcileFound r.toHashing r.text call op) desk).2.ledger := by
  refine Issues.exec (fun w : Desk => MovesOnly desk.ledger w.ledger) reconcileFound_issues ?_
    (.refl desk.ledger)
  intro c w allowed now
  cases c with
  | transfer source target amount memo txId =>
    have fromEscrow : source = escrow := allowed
    have notMint : source ≠ systemMint := fromEscrow ▸ escrow_ne_systemMint
    exact now.trans (.transfer w.ledger input.draw target amount memo (some txId) notMint)
  | save op =>
    unfold respond
    dsimp only
    split
    · exact now
    · exact now
  | status id key reference =>
    cases reference with
    | none => exact now
    | some reference => exact now
  | _ => exact now

/-- A step of a purchase loop mints nothing. -/
theorem ledgerAfter_moves (s : Loop) : MovesOnly l (ledgerAfter r cfg e l s) := by
  unfold ledgerAfter
  split
  · split
    · exact reconcile_moves ⟨_, _, cfg.org⟩ _ ⟨l, e.operations, e.reconcilerVerified⟩ e.input
    · exact .refl l
  · dsimp only
    split
    · exact (lockedFor_moves s).trans (departed_moves ..)
    · exact .refl l

/-- An acquisition mints nothing, and the expense it reports is not negative. -/
theorem acquire_spec (m : MissionInput) : MovesOnly l (acquire r e l m).ledger ∧
    ∀ expense, (acquire r e l m).answer = .ok (.supplied expense) → 0 ≤ expense := by
  unfold acquire
  split
  · refine ⟨.refl l, ?_⟩
    intro expense same
    injection Except.ok.inj same with zero
    omega
  · split
    · refine ⟨.refl l, ?_⟩
      intro expense same
      injection Except.ok.inj same
    · rename_i cfg s _
      split
      · refine ⟨.refl l, ?_⟩
        intro expense same
        injection Except.ok.inj same
      · dsimp only
        split
        · refine ⟨ledgerAfter_moves s, ?_⟩
          intro expense same
          cases same
        · split
          · refine ⟨ledgerAfter_moves s, ?_⟩
            intro expense same
            injection Except.ok.inj same with fall
            omega
          · refine ⟨ledgerAfter_moves s, ?_⟩
            intro expense same
            injection Except.ok.inj same

end Acquisitions

section Missions
variable {r : MissionRules} {runners : Nat → Runner} {b b' : Books} {c : MissionCall}
  {before l : SqliteLedger} {w : WorkOrder} {d : WorkDeliverable} {receipt : WorkDeliverableReceipt}
  {directExpense : Int}

theorem auditDeliverable_settling {k : Runner} {w' : WorkOrder} {d' : WorkDeliverable}
    {receiptId : String} {expense : Int}
    (settling : auditDeliverable r k w' d' receiptId expense = .settling w d receipt directExpense) :
    receipt.isVerified = true ∧ receipt.workOrderId = w.workOrderId ∧ directExpense = expense := by
  unfold auditDeliverable at settling
  dsimp only at settling
  split at settling
  · cases settling
  · rename_i accepted
    split at settling
    · cases settling
    · cases settling
    · injection settling with order deliverable same expense
      refine ⟨?_, ?_, expense.symm⟩
      · rw [← same]
        simpa using accepted
      · rw [← same, ← order]
        rfl

theorem prepareMission_moves (r : MissionRules) (k : Runner) (l : SqliteLedger) (c : MissionCall) :
    MovesOnly l (prepareMission r k l c).2 := (acquire_spec c.input).1

theorem prepareMission_settling {k : Runner} {l' : SqliteLedger}
    (settling : prepareMission r k l c = (.settling w d receipt directExpense, l')) :
    receipt.isVerified = true ∧ receipt.workOrderId = w.workOrderId ∧ 0 ≤ directExpense := by
  have stage := congrArg Prod.fst settling
  have nonneg := (acquire_spec (r := r.toApprovalRules) (e := c.surroundings) (l := l) c.input).2
  unfold prepareMission at stage
  dsimp only at stage
  split at stage
  · cases stage
  · cases stage
  · rename_i expense supplied
    split at stage
    · cases stage
    · obtain ⟨verified, same, rfl⟩ := auditDeliverable_settling stage
      exact ⟨verified, same, nonneg _ supplied⟩

/-- What one mission does to the books: it ends before its settlement, or settles as it should. -/
theorem executeMission_cases (sound : ∀ w d receipt directExpense l,
    prepareMission r (runners c.runner) b.ledger c = (.settling w d receipt directExpense, l) →
    (∀ w' ∈ b.settled, w'.workOrderId ≠ w.workOrderId) ∧
      Settleable r.surplus (runners c.runner).surplusReconciler (b.events c.runner) l c.draws w receipt
        directExpense (b.reserveRatio c.runner)) :
    ((executeMission r runners b c).2.settled = b.settled ∧
        mintedTo (executeMission r runners b c).2.ledger revenue = mintedTo b.ledger revenue ∧
        (executeMission r runners b c).2.ledger = (prepareMission r (runners c.runner) b.ledger c).2) ∨
      ∃ w, (∀ w' ∈ b.settled, w'.workOrderId ≠ w.workOrderId) ∧
        (executeMission r runners b c).2.settled = b.settled ++ [w] ∧
        mintedTo (executeMission r runners b c).2.ledger revenue =
          mintedTo b.ledger revenue + w.bountyAmount ∧
        ∃ result, (executeMission r runners b c).1 = .ok result := by
  have moves := prepareMission_moves r (runners c.runner) b.ledger c
  unfold executeMission
  dsimp only
  split
  · rename_i answer l ended
    rw [ended] at moves ⊢
    exact .inl ⟨rfl, moves.minted, rfl⟩
  · rename_i w d receipt directExpense l settling
    rw [settling] at moves ⊢
    obtain ⟨fresh, settleable⟩ := sound w d receipt directExpense l settling
    obtain ⟨verified, same, nonneg⟩ := prepareMission_settling settling
    rcases settleMission_cases settleable verified same nonneg d.orbioCreditsConsumed with
      ⟨err, refused⟩ | ⟨event, l', done, -, minted⟩
    · rw [refused]
      exact .inl ⟨rfl, moves.minted, rfl⟩
    · rw [done]
      refine .inr ⟨w.transitionTo .settled, fresh, rfl, ?_, _, rfl⟩
      rw [minted, moves.minted]
      rfl

theorem executeMission_accounted (accounted : Accounted before b)
    (sound : ∀ w d receipt directExpense l,
      prepareMission r (runners c.runner) b.ledger c = (.settling w d receipt directExpense, l) →
      (∀ w' ∈ b.settled, w'.workOrderId ≠ w.workOrderId) ∧
        Settleable r.surplus (runners c.runner).surplusReconciler (b.events c.runner) l c.draws w receipt
          directExpense (b.reserveRatio c.runner)) :
    Accounted before (executeMission r runners b c).2 := by
  rcases executeMission_cases sound with ⟨same, kept, -⟩ | ⟨w, fresh, more, minted, -⟩
  · refine ⟨?_, same ▸ accounted.distinct⟩
    rw [same, kept]
    exact accounted.minted
  · constructor
    · have before := accounted.minted
      rw [more, minted, List.map_append, List.sum_append]
      simp only [List.map_cons, List.map_nil, List.sum_singleton]
      omega
    · rw [more, List.map_append, List.nodup_append]
      refine ⟨accounted.distinct, List.nodup_singleton _, ?_⟩
      intro id mem id' mem'
      obtain ⟨w', old, rfl⟩ := List.mem_map.mp mem
      rw [List.map_singleton, List.mem_singleton] at mem'
      exact mem' ▸ fresh w' old

/-- The balances after a sound mission that raises are those its settlement found. -/
theorem executeMission_traceless (sound : ∀ w d receipt directExpense l,
    prepareMission r (runners c.runner) b.ledger c = (.settling w d receipt directExpense, l) →
    (∀ w' ∈ b.settled, w'.workOrderId ≠ w.workOrderId) ∧
      Settleable r.surplus (runners c.runner).surplusReconciler (b.events c.runner) l c.draws w receipt
        directExpense (b.reserveRatio c.runner)) {err : PyError}
    (raised : (executeMission r runners b c).1 = .error err) :
    (executeMission r runners b c).2.ledger = (prepareMission r (runners c.runner) b.ledger c).2 := by
  rcases executeMission_cases sound with ⟨-, -, ledger⟩ | ⟨w, -, -, -, result, done⟩
  · exact ledger
  · cases done.symm.trans raised

end Missions

section Runs
variable {r : MissionRules} {runners : Nat → Runner} {b b' : Books} {c : MissionCall} {call : Call}
  {before : SqliteLedger}

theorem Accounted.sameBooks (accounted : Accounted before b) (ledger : b'.ledger = b.ledger)
    (settled : b'.settled = b.settled) : Accounted before b' := by
  refine ⟨?_, settled ▸ accounted.distinct⟩
  rw [ledger, settled]
  exact accounted.minted

/-- Coordinating an order is running its mission, or nothing. -/
theorem coordinateSingleOrder_books (b : Books) (x : CoordinateCall) :
    (coordinateSingleOrder r runners b x).2 =
      match reachedBy.coordinated b x with
      | some (c, b') => (executeMission r runners b' c).2
      | none => b := by
  unfold coordinateSingleOrder reachedBy.coordinated
  cases x.viable with
  | false => rfl
  | true =>
    cases x.savedBefore with
    | error err => rfl
    | ok u =>
      simp only [Bool.not_true, Bool.false_eq_true, if_false]
      split
      · rename_i answer
        rw [answer]
      · rename_i answer
        rw [answer]

/-- A call changes the books by the mission it comes to; else only the ratio may change. -/
theorem perform_books (b : Books) (call : Call) :
    (∃ c b', reachedBy b call = some (c, b') ∧ b'.ledger = b.ledger ∧ b'.settled = b.settled ∧
      call.perform r runners b = (executeMission r runners b' c).2) ∨
    ((call.perform r runners b).ledger = b.ledger ∧ (call.perform r runners b).settled = b.settled) := by
  have coordinated (b : Books) (x : CoordinateCall) :
      (∃ c, reachedBy.coordinated b x = some (c, b) ∧
        (coordinateSingleOrder r runners b x).2 = (executeMission r runners b c).2) ∨
      (coordinateSingleOrder r runners b x).2 = b := by
    have books := @coordinateSingleOrder_books r runners b x
    cases reached : reachedBy.coordinated b x with
    | none =>
      rw [reached] at books
      exact .inr books
    | some pair =>
      obtain ⟨c, b'⟩ := pair
      have same : b' = b := by
        unfold reachedBy.coordinated at reached
        split at reached
        · exact (Prod.mk.inj (Option.some.inj reached)).2.symm
        · cases reached
      subst same
      rw [reached] at books
      exact .inl ⟨c, rfl, books⟩
  cases call with
  | mission c => exact .inl ⟨c, b, rfl, rfl, rfl, rfl⟩
  | coordinate x =>
    rcases coordinated b x with ⟨c, reached, same⟩ | same
    · exact .inl ⟨c, b, reached, rfl, rfl, same⟩
    · exact .inr ⟨congrArg Books.ledger same, congrArg Books.settled same⟩
  | cycle x =>
    unfold Call.perform stepCycle reachedBy
    by_cases standby : deriveSolvencyRegime (b.ledger.getBalance treasury) x.expansionThreshold
        x.standbyThreshold = .standby
    · right
      simp [standby]
    · simp only [standby, false_or, if_false]
      cases x.hasCandidates with
      | false => exact .inr ⟨rfl, rfl⟩
      | true =>
        simp only [Bool.not_true, Bool.false_eq_true, Bool.true_eq_false, if_false]
        cases x.chosen with
        | none => exact .inr ⟨rfl, rfl⟩
        | some y =>
          rcases coordinated _ y with ⟨c, reached, same⟩ | same
          · exact .inl ⟨c, _, reached, rfl, rfl, same⟩
          · have ledger := congrArg Books.ledger same
            have settled := congrArg Books.settled same
            exact .inr ⟨ledger, settled⟩

theorem perform_accounted (accounted : Accounted before b) (sound : Sound r runners b call) :
    Accounted before (call.perform r runners b) := by
  rcases @perform_books r runners b call with
    ⟨c, b', reached, ledger, settled, same⟩ | ⟨ledger, settled⟩
  · rw [same]
    exact executeMission_accounted (accounted.sameBooks ledger settled) (sound c b' reached)
  · exact accounted.sameBooks ledger settled

theorem sound_traceless (sound : Sound r runners b call) : LeavesNoTrace r runners b call := by
  intro c b' reached w d receipt directExpense l settling err raised account
  rw [executeMission_traceless (sound c b' reached) raised, settling]

theorem performAll_accounted {calls : List Call} (accounted : Accounted before b)
    (sound : AllSound r runners b calls) : Accounted before (performAll r runners b calls) := by
  induction calls generalizing b with
  | nil => exact accounted
  | cons call rest ih => exact ih (perform_accounted accounted sound.1) sound.2

theorem allSound_at {calls earlier later : List Call} (sound : AllSound r runners b calls)
    (split : calls = earlier ++ call :: later) :
    Sound r runners (performAll r runners b earlier) call := by
  subst split
  induction earlier generalizing b with
  | nil => exact sound.1
  | cons first rest ih => exact ih sound.2

/-- In every run whose settlements find an order not settled before, and what the reconciler
looks at in order, the mint has paid the bounties of the distinct settled orders to `REVENUE`,
and no settlement that raised changed a balance. -/
theorem revenue_follows_settlements (r : MissionRules) (runners : Nat → Runner) (l : SqliteLedger)
    (reserveRatio : Nat → PyFloat) (calls : List Call)
    (sound : AllSound r runners (.opened l reserveRatio) calls) :
    Accounted l (performAll r runners (.opened l reserveRatio) calls) ∧
      ∀ earlier call later, calls = earlier ++ call :: later →
        LeavesNoTrace r runners (performAll r runners (.opened l reserveRatio) earlier) call := by
  constructor
  · refine performAll_accounted ⟨?_, List.nodup_nil⟩ sound
    simp [Books.opened]
  · intro earlier call later split
    exact sound_traceless (allSound_at sound split)

end Runs

section Sample

def missionRules : MissionRules where
  toApprovalRules := { sampleRules with hmac := fun _ _ => "ab" }
  floorTimes n ratio :=
    match ratio with
    | .finite q => .ok (Rat.floor (n * q))
    | _ => .error ⟨.overflowError, "cannot convert float infinity to integer"⟩

def sampleRunner : Runner where
  workVerifier := ⟨"DeterministicClientVerifier", "k"⟩
  surplusReconciler := ⟨.finite (1 / 5), "k", false⟩

def sampleDeliverable : WorkDeliverable where
  deliverableId := "deliverable"
  workOrderId := "order"
  producerAgentId := "agent"
  contentPayload := .dict [("deliverable_type", .str "SECURITY_AUDIT")]
  contentHash := sampleRules.sha256 ""
  orbioCreditsConsumed := 1
  executionTelemetry := []

/-- An order the organisation has the credits for, and identifiers for its settlement. -/
def sampleCall (draw : String) : MissionCall where
  runner := 0
  input := ⟨sampleOrder 1, 1, none, none⟩
  surroundings := sampleSurroundings
  work := .ok sampleDeliverable
  receiptId := "receipt"
  draws :=
    { deposit := ⟨draw, draw ++ "a", 1⟩
      cost := ⟨draw, draw ++ "b", 1⟩
      reserve := ⟨draw, draw ++ "c", 1⟩
      mission := ⟨draw, draw ++ "d", 1⟩
      txGroup := draw
      eventUuid := draw
      stored := .ok false }

def sampleBooks : Books := .opened sampleTreasury fun _ => .finite (1 / 5)

def deliveredOrder : WorkOrder := ((sampleOrder 1).transitionTo .inProgress).transitionTo .delivered

def sampleReceipt : WorkDeliverableReceipt :=
  sampleRunner.workVerifier.verify missionRules.surplus.toSigningRules deliveredOrder sampleDeliverable
    "receipt"

theorem sample_accepted : sampleReceipt.isVerified = true ∧
    sampleReceipt.verifyHmac missionRules.surplus.toSigningRules "k" = .ok true := by decide +kernel

theorem sample_prepared (draw : String) (l : SqliteLedger) :
    prepareMission missionRules sampleRunner l (sampleCall draw) =
      (.settling (deliveredOrder.transitionTo .verified) sampleDeliverable sampleReceipt 0, l) := by
  have covered : (sampleCall draw).input.order.requiredOrbioCredits ≤
      (sampleCall draw).input.currentCredits := le_refl _
  have audited : auditDeliverable missionRules sampleRunner deliveredOrder sampleDeliverable "receipt" 0 =
      .settling (deliveredOrder.transitionTo .verified) sampleDeliverable sampleReceipt 0 := by
    unfold auditDeliverable
    have verified : sampleRunner.workVerifier.verify missionRules.surplus.toSigningRules deliveredOrder
      sampleDeliverable "receipt" = sampleReceipt := rfl
    have key : sampleRunner.workVerifier.secretKey = "k" := rfl
    simp only [verified, key, sample_accepted, Bool.not_true, Bool.false_eq_true, if_false]
  unfold prepareMission acquire
  rw [if_pos covered]
  exact congrArg (·, l) audited

theorem sample_accounted : Accounted sampleTreasury
    (performAll missionRules (fun _ => sampleRunner) sampleBooks [.mission (sampleCall "x")]) := by
  refine (revenue_follows_settlements missionRules (fun _ => sampleRunner) sampleTreasury
    (fun _ => .finite (1 / 5)) [.mission (sampleCall "x")] ⟨?_, trivial⟩).1
  intro c b' reached w d receipt directExpense l settling
  obtain ⟨rfl, rfl⟩ := Prod.mk.inj (Option.some.inj reached)
  obtain ⟨stage, rfl⟩ := Prod.mk.inj ((sample_prepared "x" sampleTreasury).symm.trans settling)
  injection stage with order deliverable same expense
  subst order deliverable same expense
  refine ⟨by simp [Books.opened], ?_⟩
  constructor
  · exact sample_accepted.2
  · simp [Books.opened]
  · intro repo
    cases repo
  · decide +kernel
  · intro _
    refine ⟨10, ?_, by decide, by decide⟩
    decide +kernel
  · decide
  · refine ⟨by decide, by decide, by decide⟩

/-- The same order a second time: its bounty is deposited before the reconciler refuses it. -/
theorem minted_twice : ∃ r runners l reserveRatio calls,
    ¬Accounted l (performAll r runners (.opened l reserveRatio) calls) := by
  refine ⟨missionRules, fun _ => sampleRunner, sampleTreasury, fun _ => .finite (1 / 5),
    [.mission (sampleCall "x"), .mission (sampleCall "y")], ?_⟩
  intro accounted
  have minted := accounted.minted
  revert minted
  decide +kernel

end Sample

end MissionRevenue
