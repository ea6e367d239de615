import KalyxMao.AcquisitionCosts
import KalyxMao.MissionRevenue
import KalyxMao.RepositoryHistories

/-!
# Cycles of the autonomous daemon

A cycle reads the treasury, takes the proposed orders of its organisation, has the
best viable one authorised and worked on, and saves its counter and the mission that
succeeded last. A process may stop between any two of its commands, and a new daemon
knows what was saved. Orders are posted and executed through the interface as well.
-/

namespace DaemonCycles
open PythonText PythonValues EffectPrograms UpsertTables PurchaseLoop LoopLedger
open MissionRevenue SurplusAccounting AcquisitionCosts
open Ledger (treasury)
open WorkOrders (WorkOrderStatus WorkDeliverable WorkDeliverableReceipt)
open WorkOrderRepository (WorkOrder WorkOrderRow Key statusValue rowToWorkOrder)

section Model

structure DaemonRules extends MissionRules where
  parseFloat : String → Option PyFloat
  strOf : WorkOrderRepository.Payload → String

def DaemonRules.repository (r : DaemonRules) : WorkOrderRepository.Rules where
  toSigningRules := r.surplus.toSigningRules
  parseFloat := r.parseFloat
  strOf := r.strOf

structure RegimePolicy where
  minMarginRatio : ℚ
  allowCreditAcquisition : Bool

/-- `REGIME_POLICIES` beside the reserve ratios: the doubles nearest to 0.15, 0.25 and 0.5. -/
def regimePolicy : SolvencyRegime → RegimePolicy
  | .expansion => ⟨5404319552844595 / 36028797018963968, true⟩
  | .austere => ⟨1 / 4, true⟩
  | .standby => ⟨1 / 2, false⟩

def SolvencyRegime.value : SolvencyRegime → String
  | .expansion => "EXPANSION"
  | .austere => "AUSTERE"
  | .standby => "STANDBY"

structure WorkOrderExecutionOutcome where
  missionId : String
  workOrderId : String
  status : WorkOrderStatus
  evaluation : UnitEconomicsEvaluation
  deliverable : Option WorkDeliverable := none
  receipt : Option WorkDeliverableReceipt := none
  revenueEvent : Option RevenueEvent := none
  directExpenseUsdg : Int := 0
  netSurplusUsdg : Int := 0
  allocatedToMissionBudget : Int := 0
  allocatedToReserve : Int := 0
  success : Bool := false
  errorMessage : Option String := none

structure DaemonCycleResult where
  cycleNumber : Nat
  regime : SolvencyRegime
  missionId : Option String := none
  workOrderId : Option String := none
  outcome : Option WorkOrderExecutionOutcome := none
  treasuryBalanceBefore : Int
  treasuryBalanceAfter : Int
  stateSummary : String

structure LineageRow where
  key : Key
  parentMissionId : Option String
  fundingSource : String
  fundingAmountUsdg : Int
  createdAt : String

/-- A row of `daemon_state`; its key names no record. -/
structure DaemonStateRow where
  key : Key
  cycleCount : Nat
  lastMissionId : Option String
  updatedAt : String

/-- A daemon with its coordinator, and what the database knows of organisations. The order of rows
that were created at the same time is left to the database. -/
structure Setup where
  tenantId : String
  organisationId : String
  expansionThreshold : Int := 150
  standbyThreshold : Int := 40
  hasFactory : Bool
  tenants : List String
  organisations : List String
  byCreation : List WorkOrderRow → List WorkOrderRow
  byCreation_perm : ∀ rows, (byCreation rows).Perm rows

variable (r : DaemonRules) (k : Setup)

def Setup.orders : Layout WorkOrder WorkOrder WorkOrderRow Key :=
  RepositoryHistories.workOrders r.repository k.tenants k.organisations

/-- `record_mission_lineage`. -/
def Setup.lineage : Layout LineageRow LineageRow LineageRow Key where
  key := LineageRow.key
  record := id
  write row := if WorkOrderRepository.binds row.fundingAmountUsdg then some row else none
  admits row := RepositoryHistories.admits k.tenants k.organisations row.key
  update stored row := { row with key := stored.key, createdAt := stored.createdAt }
  rowKey := LineageRow.key
  read := some
  keep stored row := { row with key := stored.key, createdAt := stored.createdAt }
  write_key wrote := by
    split_ifs at wrote
    rw [Option.some.inj wrote]
  update_key _ _ := rfl
  read_update read _ := by
    rw [Option.some.inj read]
    rfl

/-- `save_daemon_state`. -/
def Setup.states : Layout DaemonStateRow DaemonStateRow DaemonStateRow Key where
  key := DaemonStateRow.key
  record := id
  write row := if WorkOrderRepository.binds row.cycleCount then some row else none
  admits row := RepositoryHistories.admits k.tenants k.organisations row.key
  update stored row := { row with key := stored.key }
  rowKey := DaemonStateRow.key
  read := some
  keep stored row := { row with key := stored.key }
  write_key wrote := by
    split_ifs at wrote
    rw [Option.some.inj wrote]
  update_key _ _ := rfl
  read_update read _ := by
    rw [Option.some.inj read]
    rfl

def Setup.stateKey : Key := ⟨k.tenantId, k.organisationId, ""⟩

inductive Evidence where
  | deliverable (d : WorkDeliverable)
  | receipt (c : WorkDeliverableReceipt)
  | revenueEvent (e : RevenueEvent)

/-- What a daemon remembers. -/
structure Daemon where
  cycleCount : Nat := 0
  lastMissionId : Option String := none
  totalRevenueEarnedUsdg : Int := 0
  totalComputeConsumedCredits : Int := 0
  history : List DaemonCycleResult := []

/-- A mission that an order was worked on in. -/
structure Mission where
  missionId : String
  key : Key
  success : Bool

/-- The ledger and what runners keep, the tables, the daemon, and all missions so far. -/
structure World where
  books : Books
  orders : List WorkOrderRow := []
  lineage : List LineageRow := []
  states : List DaemonStateRow := []
  evidence : List Evidence := []
  daemon : Daemon := {}
  missions : List Mission := []

inductive Command where
  | loadState
  | count
  | treasury
  | listProposed
  | getOrder (workOrderId : String)
  | adapt (runner : Nat) (regime : SolvencyRegime)
  | drawHex
  | creditBalance
  | purchaseLoop (missionId : String) (targetNeeded : Option Int)
  | saveOrder (w : WorkOrder)
  | recordLineage (row : String → LineageRow)
  | mission (runner : Nat) (missionId : String) (w : WorkOrder) (loop : Option (LoopSettings × Loop))
  | saveEvidence (e : Evidence)
  | succeeded (missionId : String) (event : Option RevenueEvent)
  | persistState
  | append (result : DaemonCycleResult)

def Answer : Command → Type
  | .loadState => Except PyError Unit
  | .count => Nat × Option String
  | .treasury => Int
  | .listProposed => Except PyError (List WorkOrder)
  | .getOrder _ => Except PyError (Option WorkOrder)
  | .adapt _ _ => Unit
  | .drawHex => String
  | .creditBalance => Except PyError Int
  | .purchaseLoop _ _ => Except PyError (LoopSettings × Loop)
  | .saveOrder _ => Except PyError Unit
  | .recordLineage _ => Except PyError Unit
  | .mission _ _ _ _ => Except PyError MissionExecutionResult
  | .saveEvidence _ => Except PyError Unit
  | .succeeded _ _ => Unit
  | .persistState => Except PyError Unit
  | .append _ => Unit

abbrev Program := Prog Command Answer PyError

def ask (c : Command) : Program (Answer c) := Prog.perform c

/-- What a command meets outside: whether the database refuses it, the clock, and the answers of
the exchange, the purchase loop and the executor of the work. -/
structure Input where
  refusal : PyError
  refuses : Bool
  now : String
  hex : String
  credits : Except PyError Int
  purchaseLoop : Except PyError (LoopSettings × Loop)
  surroundings : Surroundings
  work : Except PyError WorkDeliverable
  receiptId : String
  draws : SettlementDraws

/-- A statement that changes one table, in a transaction of its own. -/
def Input.commit (i : Input) {ρ : Type} (w : World) (saved : Option ρ) (store : ρ → World) :
    Except PyError Unit × World :=
  match i.refuses, saved with
  | false, some rows => (.ok (), store rows)
  | _, _ => (.error i.refusal, w)

def Input.query (i : Input) {α : Type} (read : Option α) : Except PyError α :=
  if i.refuses then .error i.refusal else read.elim (.error i.refusal) .ok

def Setup.owns (key : Key) : Bool := key.tenantId = k.tenantId && key.organisationId = k.organisationId

/-- `list_work_orders` for the status `PROPOSED`. -/
def Setup.listProposed (rows : List WorkOrderRow) : Option (List WorkOrder) :=
  (k.byCreation (rows.filter fun row => k.owns row.key && row.status = statusValue .proposed)).mapM
    (rowToWorkOrder r.repository)

/-- The call of `execute_mission` that works on an order. -/
def missionCall (i : Input) (runner : Nat) (w : WorkOrder) (credits : Int)
    (loop : Option (LoopSettings × Loop)) : MissionCall where
  runner := runner
  input := ⟨w.toWorkOrder, credits, loop, none⟩
  surroundings := i.surroundings
  work := i.work
  receiptId := i.receiptId
  draws := i.draws

variable (runners : Nat → Runner)

def runMission (i : Input) (w : World) (runner : Nat) (order : WorkOrder)
    (loop : Option (LoopSettings × Loop)) : Except PyError MissionExecutionResult × Books :=
  match i.credits with
  | .error err => (.error err, w.books)
  | .ok credits => executeMission r.toMissionRules runners w.books (missionCall i runner order credits loop)

def succeeds : Except PyError MissionExecutionResult → Bool
  | .ok result => result.success
  | .error _ => false

/-- What a command answers, and what it does. -/
def respond : Handler Command Answer World Input
  | .loadState, w, i =>
    match i.query ((k.states.get w.states k.stateKey).elim (some none) (·.map some)) with
    | .error err => (.error err, w)
    | .ok none => (.ok (), { w with daemon := {} })
    | .ok (some row) =>
      (.ok (), { w with daemon := { cycleCount := row.cycleCount, lastMissionId := row.lastMissionId } })
  | .count, w, _ =>
    ((w.daemon.cycleCount + 1, w.daemon.lastMissionId),
      { w with daemon := { w.daemon with cycleCount := w.daemon.cycleCount + 1 } })
  | .treasury, w, _ => (w.books.ledger.getBalance Ledger.treasury, w)
  | .listProposed, w, i => (i.query (k.listProposed r w.orders), w)
  | .getOrder id, w, i =>
    (i.query (((k.orders r).get w.orders ⟨k.tenantId, k.organisationId, id⟩).elim (some none) (·.map some)), w)
  | .adapt runner regime, w, _ =>
    ((), { w with books := { w.books with
      reserveRatio := Function.update w.books.reserveRatio runner (regimeReserveRatio regime) } })
  | .drawHex, w, i => (i.hex, w)
  | .creditBalance, w, i => (i.credits, w)
  | .purchaseLoop _ _, w, i => (i.purchaseLoop, w)
  | .saveOrder order, w, i =>
    i.commit w ((k.orders r).save w.orders order) fun orders => { w with orders }
  | .recordLineage row, w, i =>
    i.commit w (k.lineage.save w.lineage (row i.now)) fun lineage => { w with lineage }
  | .mission runner missionId order loop, w, i =>
    let done := runMission r runners i w runner order loop
    (done.1, { w with
      books := done.2
      missions := w.missions ++ [⟨missionId, order.key, succeeds done.1⟩] })
  | .saveEvidence e, w, i => i.commit w (some e) fun e => { w with evidence := w.evidence ++ [e] }
  | .succeeded missionId event, w, _ =>
    ((), { w with daemon := { w.daemon with
      lastMissionId := some missionId
      totalRevenueEarnedUsdg := w.daemon.totalRevenueEarnedUsdg + event.elim 0 (·.grossRevenueUsdg)
      totalComputeConsumedCredits :=
        w.daemon.totalComputeConsumedCredits + event.elim 0 (·.orbioCreditsConsumed) } })
  | .persistState, w, i =>
    i.commit w (k.states.save w.states ⟨k.stateKey, w.daemon.cycleCount, w.daemon.lastMissionId, i.now⟩)
      fun states => { w with states }
  | .append result, w, _ =>
    ((), { w with daemon := { w.daemon with history := w.daemon.history ++ [result] } })

end Model

section Coordination
variable (r : DaemonRules)

/-- `evaluate_candidates`: a dictionary by identifier, in which the last order of an identifier
counts. -/
def evaluateCandidates (treasuryUsdg credits : Int) (minMarginRatio : ℚ) (workOrders : List WorkOrder) :
    Except PyError (String → Option UnitEconomicsEvaluation) :=
  workOrders.foldlM (fun evaluations w => do
    let e ← evaluateUnitEconomics w.toWorkOrder treasuryUsdg credits 1000000 minMarginRatio
    return Function.update evaluations w.workOrderId (some e)) fun _ => none

/-- The key that orders are ranked by: the surplus, then the margin. -/
def ranksBelow (a b : UnitEconomicsEvaluation) : Bool :=
  a.expectedSurplusUsdg < b.expectedSurplusUsdg ||
    a.expectedSurplusUsdg = b.expectedSurplusUsdg && a.marginRatio < b.marginRatio

/-- Python's `max` with a key: of several greatest the first. -/
def maxBy {α : Type} (below : α → α → Bool) : List α → Option α
  | [] => none
  | a :: rest => some (rest.foldl (fun best b => if below best b then b else best) a)

def selectBestWorkOrder (workOrders : List WorkOrder)
    (evaluations : String → Option UnitEconomicsEvaluation) :
    Option (WorkOrder × UnitEconomicsEvaluation) :=
  maxBy (fun a b => ranksBelow a.2 b.2) (workOrders.filterMap fun w =>
    (evaluations w.workOrderId).bind fun e => if e.viable then some (w, e) else none)

/-- What is answered for an order that is not authorised. -/
def rejectedOutcome (missionId workOrderId : String) (e : UnitEconomicsEvaluation) :
    WorkOrderExecutionOutcome where
  missionId := missionId
  workOrderId := workOrderId
  status := .rejected
  evaluation := e
  errorMessage := some e.reason

def executionOutcome (missionId : String) (w : WorkOrder) (e : UnitEconomicsEvaluation)
    (result : MissionExecutionResult) : WorkOrderExecutionOutcome where
  missionId := missionId
  workOrderId := w.workOrderId
  status := result.workOrder.status
  evaluation := e
  deliverable := result.deliverable
  receipt := result.receipt
  revenueEvent := result.revenueEvent
  directExpenseUsdg := result.directExpenseUsdg
  netSurplusUsdg := result.revenueEvent.elim 0 (·.netSurplusUsdg)
  allocatedToMissionBudget := result.revenueEvent.elim 0 (·.allocatedToMissionBudget)
  allocatedToReserve := result.revenueEvent.elim 0 (·.allocatedToReserve)
  success := result.success
  errorMessage := result.errorMessage

def lineageRow (missionId : String) (w : WorkOrder) (parent : Option String) (source : String)
    (amount : Int) (now : String) : LineageRow :=
  ⟨⟨w.tenantId, w.organisationId, missionId⟩, parent, source, amount, now⟩

def saveEvidence {α : Type} (wrap : α → Evidence) : Option α → Program Unit
  | none => return
  | some a => do
    let saved ← ask (.saveEvidence (wrap a))
    Prog.ofExcept saved

def rejectOrder (w : WorkOrder) : Program Unit := do
  let saved ← ask (.saveOrder { w with status := .rejected })
  Prog.ofExcept saved

/-- Who pays for a mission: the runner it is worked on by, its parent and its funding. -/
structure Funding where
  runner : Nat
  parentMissionId : Option String := none
  source : String := "ORGANISATION_TREASURY"
  amountUsdg : Int := 0

/-- `coordinate_single_order`. -/
def coordinateSingleOrder (f : Funding) (missionId : String) (w : WorkOrder)
    (e : UnitEconomicsEvaluation) (loop : Option (LoopSettings × Loop)) :
    Program WorkOrderExecutionOutcome :=
  if !e.viable then do
    rejectOrder w
    return rejectedOutcome missionId w.workOrderId e
  else do
    let saved ← ask (.saveOrder { w with status := .authorized })
    Prog.ofExcept saved
    if f.parentMissionId.any (· ≠ "") || decide (0 < f.amountUsdg) then
      let recorded ← ask
        (.recordLineage (lineageRow missionId w f.parentMissionId f.source f.amountUsdg))
      Prog.ofExcept recorded
    let worked ← ask (.mission f.runner missionId w loop)
    let result ← Prog.ofExcept worked
    saveEvidence .deliverable result.deliverable
    saveEvidence .receipt result.receipt
    saveEvidence .revenueEvent result.revenueEvent
    let saved ← ask (.saveOrder { w with status := result.workOrder.status })
    Prog.ofExcept saved
    return executionOutcome missionId w e result

def noViableWorkOrders : UnitEconomicsEvaluation := ⟨false, 0, 0, 0, "NO_VIABLE_WORK_ORDERS"⟩

/-- `select_and_coordinate`. -/
def selectAndCoordinate (f : Funding) (missionId : String) (workOrders : List WorkOrder)
    (treasuryUsdg credits : Int) (minMarginRatio : ℚ) (loop : Option (LoopSettings × Loop)) :
    Program WorkOrderExecutionOutcome := do
  let evaluations ← Prog.ofExcept (evaluateCandidates treasuryUsdg credits minMarginRatio workOrders)
  match selectBestWorkOrder workOrders evaluations, workOrders with
  | some (w, e), _ => coordinateSingleOrder f missionId w e loop
  | none, [] => return rejectedOutcome missionId "none" noViableWorkOrders
  | none, first :: _ => do
    rejectOrder first
    return rejectedOutcome missionId first.workOrderId
      ((evaluations first.workOrderId).getD noViableWorkOrders)

end Coordination

section Cycles
variable (k : Setup)

def missionIdOf (cycle : Nat) (hex : String) : String := s!"mission-cycle-{cycle}-{hex}"

def persistAndNote (result : DaemonCycleResult) : Program DaemonCycleResult := do
  let saved ← ask .persistState
  Prog.ofExcept saved
  ask (.append result)
  return result

def haltedSummary (cycle : Nat) (treasuryBefore : Int) : String :=
  s!"Cycle {cycle} halted: STANDBY regime active (Treasury: {treasuryBefore} USDG < {k.standbyThreshold} USDG threshold). Preserving remaining capital."

/-- `max([c.required_orbio_credits for c in candidates], default=1_000_000)`. -/
def targetNeeded : List WorkOrder → Int
  | [] => 1000000
  | w :: rest => rest.foldl (fun most w => max most w.requiredOrbioCredits) w.requiredOrbioCredits

/-- The factory is asked with the credits, and again without them where it takes no second
argument. -/
def buildPurchaseLoop (regime : SolvencyRegime) (missionId : String) (candidates : List WorkOrder) :
    Program (Option (LoopSettings × Loop)) :=
  if k.hasFactory && (regimePolicy regime).allowCreditAcquisition then do
    let built ← ask (.purchaseLoop missionId (some (targetNeeded candidates)))
    match built with
    | .error ⟨.typeError, _⟩ => do
      let built ← ask (.purchaseLoop missionId none)
      let loop ← Prog.ofExcept built
      return some loop
    | answer => do
      let loop ← Prog.ofExcept answer
      return some loop
  else return none

def cycleSummary (cycle : Nat) (regime : SolvencyRegime) (outcome : WorkOrderExecutionOutcome)
    (before after : Int) : String :=
  if outcome.success then
    s!"Cycle {cycle} [{SolvencyRegime.value regime}] SUCCESS: Executed {outcome.workOrderId}, earned {outcome.netSurplusUsdg} USDG net surplus. Treasury updated: {before} -> {after} USDG."
  else
    s!"Cycle {cycle} [{SolvencyRegime.value regime}] REJECTED/FAILED: {Consequential.showOption outcome.errorMessage}. Treasury preserved at {after} USDG."

/-- The candidates: those that are passed, else what the repository proposes. -/
def candidatesOf : Option (List WorkOrder) → Program (List WorkOrder)
  | some (w :: rest) => return w :: rest
  | _ => do
    let listed ← ask .listProposed
    Prog.ofExcept listed

def fundingOf (runner : Nat) (parent : Option String) (treasuryBefore : Int) : Funding where
  runner := runner
  parentMissionId := parent
  source := if parent.any (· ≠ "") then "PRIOR_SURPLUS" else "TREASURY_RESERVE"
  amountUsdg := treasuryBefore

/-- A cycle that has candidates. -/
def workCycle (runner cycle : Nat) (regime : SolvencyRegime) (parent : Option String)
    (treasuryBefore : Int) (candidates : List WorkOrder) : Program DaemonCycleResult := do
  ask (.adapt runner regime)
  let hex ← ask .drawHex
  let missionId := missionIdOf cycle hex
  let credits ← ask .creditBalance
  let credits ← Prog.ofExcept credits
  let loop ← buildPurchaseLoop k regime missionId candidates
  let outcome ← selectAndCoordinate (fundingOf runner parent treasuryBefore) missionId candidates
    treasuryBefore credits (regimePolicy regime).minMarginRatio loop
  let treasuryAfter ← ask .treasury
  if outcome.success then
    ask (.succeeded missionId outcome.revenueEvent)
  persistAndNote
    { cycleNumber := cycle
      regime := regime
      missionId := some missionId
      workOrderId := some outcome.workOrderId
      outcome := some outcome
      treasuryBalanceBefore := treasuryBefore
      treasuryBalanceAfter := treasuryAfter
      stateSummary := cycleSummary cycle regime outcome treasuryBefore treasuryAfter }

/-- `step_cycle`. -/
def stepCycle (runner : Nat) (given : Option (List WorkOrder)) : Program DaemonCycleResult := do
  let (cycle, parent) ← ask .count
  let treasuryBefore ← ask .treasury
  let regime := deriveSolvencyRegime treasuryBefore k.expansionThreshold k.standbyThreshold
  if regime = .standby then
    persistAndNote
      { cycleNumber := cycle
        regime := regime
        treasuryBalanceBefore := treasuryBefore
        treasuryBalanceAfter := treasuryBefore
        stateSummary := haltedSummary k cycle treasuryBefore }
  else do
    let candidates ← candidatesOf given
    if candidates = [] then
      persistAndNote
        { cycleNumber := cycle
          regime := regime
          treasuryBalanceBefore := treasuryBefore
          treasuryBalanceAfter := treasuryBefore
          stateSummary := s!"Cycle {cycle}: No candidate work orders available." }
    else workCycle k runner cycle regime parent treasuryBefore candidates

/-- `run_cycles`, from the cycle at a position. -/
def runCycles (runner : Nat) (batches : List (List WorkOrder)) : Nat → Program (List DaemonCycleResult)
  | 0 => return []
  | left + 1 => do
    let result ← stepCycle k runner batches.head?
    if result.regime = .standby then return [result]
    else do
      let results ← runCycles runner batches.tail left
      return result :: results

/-- `__init__`, as far as it reads the database. -/
def startDaemon : Program Unit := do
  let loaded ← ask .loadState
  Prog.ofExcept loaded

/-- `create_work_order_endpoint`, once the order is built. -/
def postOrder (w : WorkOrder) : Program Unit := do
  let saved ← ask (.saveOrder { w with status := .proposed })
  Prog.ofExcept saved

def execMissionId (hex : String) : String := s!"mission-exec-{hex}"

/-- The purchase loop of the interface, for an order that takes more than there is. -/
def loopForShortfall (missionId : String) (w : WorkOrder) (credits : Int) :
    Program (Option (LoopSettings × Loop)) :=
  if credits < w.requiredOrbioCredits then do
    let built ← ask (.purchaseLoop missionId (some w.requiredOrbioCredits))
    let loop ← Prog.ofExcept built
    return some loop
  else return none

/-- `execute_work_order_endpoint`, on a coordinator of its own. -/
def executeOrder (runner : Nat) (workOrderId : String) : Program WorkOrderExecutionOutcome := do
  let found ← ask (.getOrder workOrderId)
  let order ← Prog.ofExcept found
  match order with
  | none => Prog.raise ⟨.otherException, "Work order not found"⟩
  | some w => do
    ask (.adapt runner .expansion)
    let treasuryUsdg ← ask .treasury
    let credits ← ask .creditBalance
    let credits ← Prog.ofExcept credits
    let hex ← ask .drawHex
    let loop ← loopForShortfall (execMissionId hex) w credits
    selectAndCoordinate { runner } (execMissionId hex) [w] treasuryUsdg credits
      (regimePolicy .expansion).minMarginRatio loop

end Cycles

section Runs
variable (r : DaemonRules) (k : Setup) (runners : Nat → Runner)

/-- What happens to the organisation. The inputs are one for each command that is reached: where
they are fewer, the process stops there. -/
inductive Event where
  | start (inputs : List Input)
  | cycles (runner : Nat) (maxCycles : Nat) (batches : List (List WorkOrder)) (inputs : List Input)
  | post (w : WorkOrder) (inputs : List Input)
  | execute (runner : Nat) (workOrderId : String) (inputs : List Input)

def step (w : World) : Event → World
  | .start inputs => (advance (respond r k runners) inputs startDaemon w).2
  | .cycles runner maxCycles batches inputs =>
    (advance (respond r k runners) inputs (runCycles k runner batches maxCycles) w).2
  | .post order inputs => (advance (respond r k runners) inputs (postOrder order) w).2
  | .execute runner id inputs => (advance (respond r k runners) inputs (executeOrder runner id) w).2

def run (w : World) (events : List Event) : World := events.foldl (step r k runners) w

end Runs

section Rows
variable {r : DaemonRules} {k : Setup} {rows rows' : List WorkOrderRow} {w : WorkOrder} {key : Key}

/-- A row of the key says that the order is proposed. -/
def proposed (key : Key) (rows : List WorkOrderRow) : Bool :=
  rows.any fun row => row.key = key && row.status = statusValue .proposed

theorem proposed_iff : proposed key rows = true ↔
    ∃ row ∈ rows, row.key = key ∧ row.status = statusValue .proposed := by
  simp [proposed]

theorem statusValue_inj {a b : WorkOrderStatus} (same : statusValue a = statusValue b) : a = b := by
  have read := congrArg WorkOrderRepository.statusOfValue same
  rw [WorkOrderRepository.statusOfValue_value, WorkOrderRepository.statusOfValue_value] at read
  exact Option.some.inj read

/-- After a save, a row is an old one of another key, or it is of the key and says what was saved. -/
theorem mem_saved (saved : (k.orders r).save rows w = some rows') {row : WorkOrderRow}
    (mem : row ∈ rows') :
    row.key ≠ w.key ∧ row ∈ rows ∨ row.key = w.key ∧ row.status = statusValue w.status := by
  obtain ⟨written, new, wrote, stored⟩ := Layout.mem_save saved
  have status : written.status = statusValue w.status := by
    obtain ⟨_, -, rfl⟩ := RepositoryHistories.workOrder_row wrote
    rfl
  rcases stored.members row mem with rfl | ⟨old, other⟩
  · refine .inr ⟨stored.rowKey, ?_⟩
    rcases stored.made with rfl | ⟨before, -, rfl⟩
    · exact status
    · exact status
  · exact .inl ⟨other, old⟩

theorem proposed_saved (saved : (k.orders r).save rows w = some rows') :
    proposed key rows' = true →
      key ≠ w.key ∧ proposed key rows = true ∨ key = w.key ∧ w.status = .proposed := by
  intro open_
  obtain ⟨row, mem, rfl, status⟩ := proposed_iff.mp open_
  rcases mem_saved saved mem with ⟨other, old⟩ | ⟨own, said⟩
  · exact .inl ⟨other, proposed_iff.mpr ⟨row, old, rfl, status⟩⟩
  · exact .inr ⟨own, statusValue_inj (said.symm.trans status)⟩

end Rows

section Commands
variable {r : DaemonRules} {k : Setup} {runners : Nat → Runner} {w w' : World} {i : Input} {c : Command}

theorem commit_cases (i : Input) {ρ : Type} (w : World) (saved : Option ρ) (store : ρ → World) :
    i.commit w saved store = (.error i.refusal, w) ∨
      ∃ rows, saved = some rows ∧ i.commit w saved store = (.ok (), store rows) := by
  unfold Input.commit
  cases i.refuses with
  | true => exact .inl rfl
  | false =>
    cases saved with
    | none => exact .inl rfl
    | some rows => exact .inr ⟨rows, rfl, rfl⟩

theorem query_ok {α : Type} {read : Option α} {a : α} (answered : i.query read = .ok a) :
    read = some a := by
  unfold Input.query at answered
  split_ifs at answered
  cases read with
  | none => cases answered
  | some b => exact congrArg some (Except.ok.inj answered)

/-- Neither an order is saved nor a mission worked on. -/
def Quiet : Command → Prop
  | .saveOrder _ => False
  | .mission _ _ _ _ => False
  | _ => True

theorem quiet_command (quiet : Quiet c) : (respond r k runners c w i).2.orders = w.orders ∧
    (respond r k runners c w i).2.missions = w.missions := by
  cases c with
  | saveOrder order => exact quiet.elim
  | mission runner missionId order loop => exact quiet.elim
  | loadState =>
    unfold respond
    dsimp only
    split
    · exact ⟨rfl, rfl⟩
    · exact ⟨rfl, rfl⟩
    · exact ⟨rfl, rfl⟩
  | recordLineage row =>
    rcases commit_cases i w (k.lineage.save w.lineage (row i.now)) fun lineage => { w with lineage } with
      same | ⟨rows, -, same⟩
    · exact ⟨congrArg (·.2.orders) same, congrArg (·.2.missions) same⟩
    · exact ⟨congrArg (·.2.orders) same, congrArg (·.2.missions) same⟩
  | saveEvidence e =>
    rcases commit_cases i w (some e) fun e => { w with evidence := w.evidence ++ [e] } with
      same | ⟨rows, -, same⟩
    · exact ⟨congrArg (·.2.orders) same, congrArg (·.2.missions) same⟩
    · exact ⟨congrArg (·.2.orders) same, congrArg (·.2.missions) same⟩
  | persistState =>
    rcases commit_cases i w (k.states.save w.states ⟨k.stateKey, w.daemon.cycleCount,
      w.daemon.lastMissionId, i.now⟩) fun states => { w with states } with same | ⟨rows, -, same⟩
    · exact ⟨congrArg (·.2.orders) same, congrArg (·.2.missions) same⟩
    · exact ⟨congrArg (·.2.orders) same, congrArg (·.2.missions) same⟩
  | _ => exact ⟨rfl, rfl⟩

/-- A save that goes through says of its order what it was given, and nothing of others. -/
theorem saveOrder_cases (order : WorkOrder) :
    respond r k runners (.saveOrder order) w i = (.error i.refusal, w) ∨
      ∃ rows, (k.orders r).save w.orders order = some rows ∧
        respond r k runners (.saveOrder order) w i = (.ok (), { w with orders := rows }) :=
  commit_cases i w _ _

/-- A mission returns with its order rejected or settled, and settled exactly if it succeeds. -/
theorem executeMission_status {m : MissionRules} {b : Books} {call : MissionCall}
    {result : MissionExecutionResult} (done : (executeMission m runners b call).1 = .ok result) :
    result.workOrder.status = if result.success then .settled else .rejected := by
  unfold executeMission at done
  dsimp only at done
  split at done
  · rename_i answer l ended
    have stage := congrArg Prod.fst ended
    obtain rfl : answer = .ok result := done
    unfold prepareMission at stage
    dsimp only at stage
    split at stage
    · cases stage
    · cases stage
      rfl
    · split at stage
      · cases stage
        rfl
      · unfold auditDeliverable at stage
        dsimp only at stage
        split at stage
        · cases stage
          rfl
        · split at stage
          · cases stage
          · cases stage
            rfl
          · cases stage
  · split at done
    · cases done
    · cases done
      rfl

theorem runMission_status {runner : Nat} {order : WorkOrder} {loop : Option (LoopSettings × Loop)}
    {result : MissionExecutionResult} (done : (runMission r runners i w runner order loop).1 = .ok result) :
    result.workOrder.status = if result.success then .settled else .rejected := by
  unfold runMission at done
  split at done
  · cases done
  · exact executeMission_status done

end Commands

section Programs
variable {k : Setup}

theorem quiet_ask {c : Command} (quiet : Quiet c) : Issues Quiet (ask c) := .perform quiet

theorem quiet_saveEvidence {α : Type} (wrap : α → Evidence) (a : Option α) :
    Issues Quiet (saveEvidence wrap a) := by
  cases a with
  | none => trivial
  | some a => exact .bind (quiet_ask trivial) fun saved => .ofExcept saved

theorem quiet_persistAndNote (result : DaemonCycleResult) : Issues Quiet (persistAndNote result) :=
  .bind (quiet_ask trivial) fun saved => .bind (.ofExcept saved) fun _ =>
    .bind (quiet_ask trivial) fun _ => trivial

theorem quiet_buildPurchaseLoop (regime : SolvencyRegime) (missionId : String)
    (candidates : List WorkOrder) : Issues Quiet (buildPurchaseLoop k regime missionId candidates) := by
  unfold buildPurchaseLoop
  split
  · refine .bind (quiet_ask trivial) fun built => ?_
    split
    · exact .bind (quiet_ask trivial) fun built => .bind (.ofExcept built) fun _ => trivial
    · exact .bind (.ofExcept _) fun _ => trivial
  · trivial

theorem quiet_loopForShortfall (missionId : String) (w : WorkOrder) (credits : Int) :
    Issues Quiet (loopForShortfall missionId w credits) := by
  unfold loopForShortfall
  split
  · exact .bind (quiet_ask trivial) fun built => .bind (.ofExcept built) fun _ => trivial
  · trivial

theorem quiet_startDaemon : Issues Quiet startDaemon :=
  .bind (quiet_ask trivial) fun loaded => .ofExcept loaded

end Programs

section Samples

def sampleRules : DaemonRules where
  toMissionRules := MissionRevenue.missionRules
  parseFloat := EventStores.readFloat
  strOf _ := ""

def sampleSetup : Setup where
  tenantId := "t1"
  organisationId := "org1"
  hasFactory := false
  tenants := ["t1"]
  organisations := ["org1"]
  byCreation := id
  byCreation_perm _ := .refl _

def sampleOrder (id : String) : WorkOrder :=
  { RepositoryHistories.sampleOrder with workOrderId := id, deliverableType := "SECURITY_AUDIT" }

/-- The database accepts everything, and the work on an order is done. -/
def sampleInput (id : String) : Input where
  refusal := ⟨.otherException, "database is locked"⟩
  refuses := false
  now := "2026-09-17T11:30:00"
  hex := id
  credits := .ok 10
  purchaseLoop := .error ⟨.typeError, "one argument"⟩
  surroundings := MissionRunner.sampleSurroundings
  work := .ok { MissionRevenue.sampleDeliverable with workOrderId := id }
  receiptId := "receipt"
  draws := (MissionRevenue.sampleCall id).draws

end Samples

end DaemonCycles
