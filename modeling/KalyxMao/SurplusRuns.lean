import KalyxMao.StepRuns
import KalyxMao.SurplusAccounting
import Mathlib.Data.Rat.Floor
import Mathlib.Tactic.Linarith

/-!
# Reconciliations over the in-memory ledger

The three payments of a reconciliation are transactions of their own, named
after the work order and a group drawn anew. `REVENUE` covers them together
before the first is made, and no name of an order that is not reconciled yet is
in the ledger: nothing can be refused between the first and the last.
-/

namespace SurplusRuns
open PythonText PythonValues Ledger WorkOrders StepRuns
open SurplusAccounting (RevenueEvent SurplusRules SurplusReconciler SettlementDraws Split splitRevenue
  checkSettlement costTx reserveTx missionTx revenueEvent ratioWithin costTx_starts reserveTx_starts
  missionTx_starts)

section Model

/-- `math.floor(n * ratio)` in exact arithmetic. -/
def exactFloor (n : Int) : PyFloat → Except PyError Int
  | .finite q => .ok ⌊n * q⌋
  | .inf _ => .error ⟨.overflowError, "cannot convert float infinity to integer"⟩
  | .nan => .error ⟨.valueError, "cannot convert float NaN to integer"⟩

def exactRules (r : SigningRules) : SurplusRules := { r with floorTimes := exactFloor }

/-- The ledger, and the events under their ids. -/
structure Books where
  ledger : DoubleEntryLedger
  events : List (String × RevenueEvent)

/-- What a reconciliation draws; the group is eight characters of an identifier. -/
structure SurplusDraws extends SettlementDraws where
  eight : txGroup.toList.length = 8

/-- A payment out of `REVENUE`, where there is something to pay. -/
def pay (l : DoubleEntryLedger) (d : Draw) (target : String) (amount : Int) (memo transactionId : String) :
    Except PyError Unit × DoubleEntryLedger :=
  if 0 < amount then
    let answer := l.transfer d revenue target amount memo (some transactionId)
    (answer.1.map fun _ => (), answer.2)
  else (.ok (), l)

/-- The three payments, one after the other. -/
def payOut (l : DoubleEntryLedger) (d : SurplusDraws) (orderId : String) (x : Split) :
    Except PyError Unit × DoubleEntryLedger :=
  match pay l d.cost treasury x.reimbursement s!"[USDG] Cost reimbursement for work order {orderId}"
      (costTx orderId d.txGroup) with
  | (.error err, l) => (.error err, l)
  | (.ok _, l) =>
    match pay l d.reserve surplusReserve x.toReserve
        s!"[USDG] Retained surplus reserve for work order {orderId}" (reserveTx orderId d.txGroup) with
    | (.error err, l) => (.error err, l)
    | (.ok _, l) =>
      pay l d.mission treasury x.toMission
        s!"[USDG] Mission budget surplus allocation for work order {orderId}" (missionTx orderId d.txGroup)

/-- `self._events[event_id] = event`. -/
def record (events : List (String × RevenueEvent)) (event : RevenueEvent) : List (String × RevenueEvent) :=
  if event.revenueEventId ∈ events.map Prod.fst then
    events.map fun p => if p.1 = event.revenueEventId then (p.1, event) else p
  else events ++ [(event.revenueEventId, event)]

/-- The arguments of `reconcile_surplus`. -/
structure Request where
  draws : SurplusDraws
  workOrder : WorkOrder
  receipt : WorkDeliverableReceipt
  gross : Int
  expense : Int
  credits : Int
  reserveRatio : Option PyFloat

def reconcileSurplus (r : SurplusRules) (k : SurplusReconciler) (b : Books) (q : Request) :
    Except PyError RevenueEvent × Books :=
  match checkSettlement r k (b.events.map Prod.snd) q.workOrder q.receipt q.gross q.expense q.reserveRatio
      q.draws.stored with
  | .error err => (.error err, b)
  | .ok ratio =>
    match splitRevenue r q.gross q.expense ratio with
    | .error err => (.error err, b)
    | .ok x =>
      let held := b.ledger.getBalance revenue
      if held < q.gross then
        (.error ⟨.valueError,
          s!"REVENUE account has insufficient balance ({held}) for settlement of {q.gross}"⟩, b)
      else
        match payOut b.ledger q.draws q.workOrder.workOrderId x with
        | (.error err, l) => (.error err, { b with ledger := l })
        | (.ok _, l) =>
          let event := revenueEvent q.draws.toSettlementDraws q.workOrder q.gross q.expense q.credits x
          (.ok event, ⟨l, record b.events event⟩)

/-- What else is done with the ledger between the reconciliations. -/
inductive LedgerCall where
  | depositRevenue (d : Draw) (amount : Int) (memo : String) (transactionId : Option String)
  | transfer (d : Draw) (fromAccount toAccount : String) (amount : Int) (memo : String)
      (transactionId : Option String)

/-- The id that a call records. -/
def LedgerCall.txId : LedgerCall → String
  | .depositRevenue d _ _ transactionId => orElse transactionId s!"deposit-{d.txUuid}"
  | .transfer d _ _ _ _ transactionId => orElse transactionId d.txUuid

def LedgerCall.run (l : DoubleEntryLedger) : LedgerCall → DoubleEntryLedger
  | .depositRevenue d amount memo transactionId => (l.depositRevenue d amount memo transactionId).2
  | .transfer d fromAccount toAccount amount memo transactionId =>
    (l.transfer d fromAccount toAccount amount memo transactionId).2

inductive Op where
  | reconcile (q : Request)
  | ledger (c : LedgerCall)

def step (r : SurplusRules) (k : SurplusReconciler) (b : Books) : Op → Books
  | .reconcile q => (reconcileSurplus r k b q).2
  | .ledger c => { b with ledger := c.run b.ledger }

end Model

section Property

/-- The work orders that are reconciled. -/
def Books.orders (b : Books) : List String := b.events.map fun p => p.2.workOrderId

/-- An accepted reconciliation splits the gross revenue and moves exactly that. -/
structure Settled (b b' : Books) (q : Request) (event : RevenueEvent) : Prop where
  split : ∃ recovered, 0 ≤ recovered ∧ 0 ≤ event.allocatedToReserve ∧
    0 ≤ event.allocatedToMissionBudget ∧
    recovered + event.allocatedToReserve + event.allocatedToMissionBudget = q.gross ∧
    b'.ledger.getBalance treasury =
      b.ledger.getBalance treasury + recovered + event.allocatedToMissionBudget
  reserve : b'.ledger.getBalance surplusReserve =
    b.ledger.getBalance surplusReserve + event.allocatedToReserve
  revenue : b'.ledger.getBalance revenue = b.ledger.getBalance revenue - q.gross
  new : q.workOrder.workOrderId ∉ b.orders
  orders : b'.orders = b.orders ++ [q.workOrder.workOrderId]

/-- A reconciliation settles, or is refused and changes nothing. -/
def Atomic (r : SurplusRules) (k : SurplusReconciler) (b : Books) : Op → Prop
  | .reconcile q =>
    (∀ event, (reconcileSurplus r k b q).1 = .ok event → Settled b (reconcileSurplus r k b q).2 q event) ∧
      ∀ err, (reconcileSurplus r k b q).1 = .error err → (reconcileSurplus r k b q).2 = b
  | .ledger _ => True

/-- Not named like a payment of a reconciliation. -/
def Foreign (txId : String) : Prop := startsWith txId "reconcile-" = false

instance (txId : String) : Decidable (Foreign txId) := inferInstanceAs (Decidable (_ = false))

/-- The ids of the events that the reconciliations of a run draw. -/
def eventUuids (ops : List Op) : List String :=
  ops.filterMap fun
    | .reconcile q => some q.draws.eventUuid
    | .ledger _ => none

/-- The ids that are drawn are new, and nobody else names payments of reconciliations. -/
structure Admissible (ops : List Op) : Prop where
  drawn : (eventUuids ops).Nodup
  foreign : ∀ c, Op.ledger c ∈ ops → Foreign c.txId

end Property

section Names

/-- How the payments of a reconciliation are named, before the order and the group. -/
def purposes : List String := ["reconcile-cost-", "reconcile-res-", "reconcile-msn-"]

/-- The payments of an order, whatever the group. -/
def PaymentOf (orderId txId : String) : Prop :=
  ∃ purpose ∈ purposes, ∃ group : String, group.toList.length = 8 ∧
    txId = purpose ++ (orderId ++ "-" ++ group)

theorem append_cancel {s u v : String} (same : s ++ u = s ++ v) : u = v := by
  have lists := congrArg String.toList same
  rw [String.toList_append, String.toList_append] at lists
  exact String.toList_inj.mp (List.append_cancel_left lists)

theorem purposes_apart {purpose purpose' u v : String} (mem : purpose ∈ purposes)
    (mem' : purpose' ∈ purposes) (same : purpose ++ u = purpose' ++ v) : u = v := by
  have apart : ∀ p ∈ purposes, ∀ p' ∈ purposes, p.toList.take 11 = p'.toList.take 11 → p = p' := by decide
  have long : ∀ p ∈ purposes, 11 ≤ p.toList.length := by decide
  by_cases heads : purpose.toList.take 11 = purpose'.toList.take 11
  · rw [apart purpose mem purpose' mem' heads] at same
    exact append_cancel same
  · exact absurd same (ne_of_starts u v 11 (long _ mem) (long _ mem') heads)

/-- A payment names its order: groups are equally long. -/
theorem PaymentOf.order {orderId orderId' txId : String} (payment : PaymentOf orderId txId)
    (payment' : PaymentOf orderId' txId) : orderId = orderId' := by
  obtain ⟨purpose, mem, group, eight, rfl⟩ := payment
  obtain ⟨purpose', mem', group', eight', same⟩ := payment'
  have lists := congrArg String.toList (purposes_apart mem mem' same)
  simp only [String.toList_append] at lists
  have fronts := (List.append_inj' lists (eight.trans eight'.symm)).1
  exact String.toList_inj.mp (List.append_inj' fronts rfl).1

theorem PaymentOf.not_foreign {orderId txId : String} (payment : PaymentOf orderId txId) :
    ¬Foreign txId := by
  obtain ⟨purpose, mem, group, -, rfl⟩ := payment
  have starts : ∀ p ∈ purposes, "reconcile-".toList <+: p.toList := by decide
  have whole : startsWith (purpose ++ (orderId ++ "-" ++ group)) "reconcile-" = true := by
    rw [startsWith_iff, String.toList_append]
    exact (starts purpose mem).trans (List.prefix_append _ _)
  intro foreign
  rw [Foreign, whole] at foreign
  cases foreign

theorem PaymentOf.nonempty {orderId txId : String} (payment : PaymentOf orderId txId) : txId ≠ "" := by
  obtain ⟨purpose, mem, group, -, rfl⟩ := payment
  have some_ : ∀ p ∈ purposes, p.toList ≠ [] := by decide
  exact append_ne_empty _ (some_ purpose mem)

variable (d : SurplusDraws) (orderId : String)

theorem payment_cost : PaymentOf orderId (costTx orderId d.txGroup) :=
  ⟨_, by decide, d.txGroup, d.eight, costTx_starts ..⟩

theorem payment_reserve : PaymentOf orderId (reserveTx orderId d.txGroup) :=
  ⟨_, by decide, d.txGroup, d.eight, reserveTx_starts ..⟩

theorem payment_mission : PaymentOf orderId (missionTx orderId d.txGroup) :=
  ⟨_, by decide, d.txGroup, d.eight, missionTx_starts ..⟩

end Names

section Paying
variable {l : DoubleEntryLedger}

theorem transfer_ok {d : Draw} {source target txId : String} {amount : Int} (memo : String)
    (named : txId ≠ "") (unused : txId ∉ l.recordedTxIds) (positive : 0 < amount)
    (apart : source ≠ target) (covered : amount ≤ l.getBalance source) :
    l.transfer d source target amount memo (some txId) = (.ok ⟨d.entryId, d.now, txId, source, target,
      amount, memo, positive⟩, l.move ⟨d.entryId, d.now, txId, source, target, amount, memo, positive⟩) := by
  have id : orElse (some txId) d.txUuid = txId := if_neg named
  unfold DoubleEntryLedger.transfer
  dsimp only
  rw [id, if_neg unused, if_neg (Int.not_le.mpr positive), if_neg apart, if_neg (Int.not_lt.mpr covered),
    ledgerEntry, dif_pos positive]

theorem getBalance_move (l : DoubleEntryLedger) (e : LedgerEntry) (account : String) :
    (l.move e).getBalance account = l.getBalance account -
      (if e.fromAccount = account then e.amount else 0) +
      (if e.toAccount = account then e.amount else 0) := by
  unfold DoubleEntryLedger.move DoubleEntryLedger.getBalance
  dsimp only
  rw [Bookkeeping.value_bump, Bookkeeping.value_bump]
  split_ifs
  · ring
  · ring
  · ring
  · ring

/-- What a payment out of `REVENUE` does to the ledger. -/
structure Paid (l l' : DoubleEntryLedger) (target txId : String) (amount : Int) : Prop where
  balances : ∀ account, l'.getBalance account = l.getBalance account -
    (if revenue = account then amount else 0) + (if target = account then amount else 0)
  recorded : ∀ tx ∈ l'.recordedTxIds, tx ∈ l.recordedTxIds ∨ tx = txId

theorem pay_accepts {d : Draw} {target txId : String} {amount : Int} (memo : String)
    (named : txId ≠ "") (unused : txId ∉ l.recordedTxIds) (nonneg : 0 ≤ amount)
    (apart : revenue ≠ target) (covered : amount ≤ l.getBalance revenue) :
    ∃ l', pay l d target amount memo txId = (.ok (), l') ∧ Paid l l' target txId amount := by
  unfold pay
  split
  · rename_i positive
    rw [transfer_ok memo named unused positive apart covered]
    refine ⟨_, rfl, ?_, ?_⟩
    · intro account
      exact getBalance_move ..
    · intro tx mem
      rcases List.mem_append.mp mem with old | new
      · exact .inl old
      · exact .inr (List.mem_singleton.mp new)
  · rename_i nothing
    obtain rfl : amount = 0 := by omega
    refine ⟨l, rfl, ?_, fun tx mem => .inl mem⟩
    intro account
    simp

theorem revenue_ne_treasury : revenue ≠ treasury := by decide

theorem revenue_ne_reserve : revenue ≠ surplusReserve := by decide

theorem treasury_ne_reserve : treasury ≠ surplusReserve := by decide

/-- What a split pays out. -/
structure PaidOut (l l' : DoubleEntryLedger) (orderId : String) (x : Split) : Prop where
  revenue : l'.getBalance revenue = l.getBalance revenue - (x.reimbursement + x.toReserve + x.toMission)
  treasury : l'.getBalance treasury = l.getBalance treasury + x.reimbursement + x.toMission
  reserve : l'.getBalance surplusReserve = l.getBalance surplusReserve + x.toReserve
  recorded : ∀ tx ∈ l'.recordedTxIds, tx ∈ l.recordedTxIds ∨ PaymentOf orderId tx

/-- Where no payment of the order is in the ledger and `REVENUE` covers them together, all are
made. -/
theorem payOut_accepts {d : SurplusDraws} {orderId : String} {x : Split}
    (unpaid : ∀ tx ∈ l.recordedTxIds, ¬PaymentOf orderId tx) (reimbursement : 0 ≤ x.reimbursement)
    (toReserve : 0 ≤ x.toReserve) (toMission : 0 ≤ x.toMission)
    (covered : x.reimbursement + x.toReserve + x.toMission ≤ l.getBalance revenue) :
    ∃ l', payOut l d orderId x = (.ok (), l') ∧ PaidOut l l' orderId x := by
  have cost := payment_cost d orderId
  have reserve := payment_reserve d orderId
  have mission := payment_mission d orderId
  have costReserve : reserveTx orderId d.txGroup ≠ costTx orderId d.txGroup :=
    (SurplusAccounting.costTx_ne_reserveTx orderId d.txGroup).symm
  have costMission : missionTx orderId d.txGroup ≠ costTx orderId d.txGroup :=
    (SurplusAccounting.costTx_ne_missionTx orderId d.txGroup).symm
  have reserveMission : missionTx orderId d.txGroup ≠ reserveTx orderId d.txGroup :=
    (SurplusAccounting.reserveTx_ne_missionTx orderId d.txGroup).symm
  obtain ⟨l₁, pay₁, paid₁⟩ := pay_accepts (l := l) (d := d.cost)
    s!"[USDG] Cost reimbursement for work order {orderId}" cost.nonempty
    (fun mem => unpaid _ mem cost) reimbursement revenue_ne_treasury (by omega)
  have held₁ := paid₁.balances Ledger.revenue
  rw [if_pos rfl, if_neg revenue_ne_treasury.symm] at held₁
  obtain ⟨l₂, pay₂, paid₂⟩ := pay_accepts (l := l₁) (d := d.reserve)
    s!"[USDG] Retained surplus reserve for work order {orderId}" reserve.nonempty
    (fun mem => (paid₁.recorded _ mem).elim (fun old => unpaid _ old reserve) costReserve)
    toReserve revenue_ne_reserve (by omega)
  have held₂ := paid₂.balances Ledger.revenue
  rw [if_pos rfl, if_neg revenue_ne_reserve.symm] at held₂
  obtain ⟨l₃, pay₃, paid₃⟩ := pay_accepts (l := l₂) (d := d.mission)
    s!"[USDG] Mission budget surplus allocation for work order {orderId}" mission.nonempty
    (fun mem => (paid₂.recorded _ mem).elim
      (fun old => (paid₁.recorded _ old).elim (fun old => unpaid _ old mission) costMission) reserveMission)
    toMission revenue_ne_treasury (by omega)
  refine ⟨l₃, ?_, ?_, ?_, ?_, ?_⟩
  · rw [payOut, pay₁]
    dsimp only
    rw [pay₂]
    exact pay₃
  · rw [paid₃.balances, if_pos rfl, if_neg revenue_ne_treasury.symm]
    omega
  · rw [paid₃.balances, if_neg revenue_ne_treasury, if_pos rfl, paid₂.balances,
      if_neg revenue_ne_treasury, if_neg treasury_ne_reserve.symm, paid₁.balances,
      if_neg revenue_ne_treasury, if_pos rfl]
    omega
  · rw [paid₃.balances, if_neg revenue_ne_reserve, if_neg treasury_ne_reserve, paid₂.balances,
      if_neg revenue_ne_reserve, if_pos rfl, paid₁.balances, if_neg revenue_ne_reserve,
      if_neg treasury_ne_reserve]
    omega
  · intro tx mem
    rcases paid₃.recorded tx mem with old | rfl
    · rcases paid₂.recorded tx old with old | rfl
      · rcases paid₁.recorded tx old with old | rfl
        · exact .inl old
        · exact .inr cost
      · exact .inr reserve
    · exact .inr mission

end Paying

section Reconciling
variable {r : SigningRules} {k : SurplusReconciler} {b : Books} {q : Request}

theorem guard_ok {α : Type} {refused : Prop} [Decidable refused] {err : PyError} {x : Except PyError α}
    {a : α} : (if refused then .error err else x) = .ok a ↔ ¬refused ∧ x = .ok a := by
  by_cases here : refused
  · simp [here]
  · simp [here]

/-- What the checks have seen when they let a reconciliation through. -/
structure Checked (events : List RevenueEvent) (q : Request) (ratio : PyFloat) : Prop where
  new : ∀ e ∈ events, e.workOrderId ≠ q.workOrder.workOrderId
  gross : 0 ≤ q.gross
  expense : 0 ≤ q.expense
  within : ratioWithin ratio = true

theorem checkSettlement_ok {s : SurplusRules} {events : List RevenueEvent} {ratio : PyFloat}
    (passed : checkSettlement s k events q.workOrder q.receipt q.gross q.expense q.reserveRatio
      q.draws.stored = .ok ratio) : Checked events q ratio := by
  unfold checkSettlement at passed
  simp only [bind, Except.bind, pure, Except.pure, throw, throwThe, MonadExceptOf.throw, guard_ok] at passed
  obtain ⟨-, passed⟩ := passed
  split at passed
  · cases passed
  · simp only [guard_ok] at passed
    obtain ⟨-, -, known, passed⟩ := passed
    have amounts : ¬q.gross < 0 ∧ ¬q.expense < 0 ∧
        ¬(!ratioWithin (q.reserveRatio.getD k.reserveRatio)) = true ∧
        Except.ok (q.reserveRatio.getD k.reserveRatio) = (Except.ok ratio : Except PyError PyFloat) := by
      split at passed
      · split at passed
        · cases passed
        · simp only [guard_ok] at passed
          exact passed.2
      · simpa only [guard_ok] using passed
    obtain ⟨gross, expense, within, same⟩ := amounts
    refine ⟨?_, Int.not_lt.mp gross, Int.not_lt.mp expense, ?_⟩
    · intro e mem same
      exact known (List.any_eq_true.mpr ⟨e, mem, decide_eq_true same⟩)
    · rw [← Except.ok.inj same]
      simpa using within

/-- The exact whole part of a ratio of a surplus is a part of it. -/
theorem exactFloor_within {n : Int} {ratio : PyFloat} (nonneg : 0 ≤ n) (within : ratioWithin ratio = true) :
    ∃ m, exactFloor n ratio = .ok m ∧ 0 ≤ m ∧ m ≤ n := by
  cases ratio with
  | finite ratio =>
    simp only [ratioWithin, Bool.and_eq_true, decide_eq_true_eq] at within
    have surplus : (0 : ℚ) ≤ n := by exact_mod_cast nonneg
    refine ⟨⌊n * ratio⌋, rfl, ?_, ?_⟩
    · exact Int.floor_nonneg.mpr (mul_nonneg surplus within.1)
    · have part : (n : ℚ) * ratio ≤ n := mul_le_of_le_one_right surplus within.2
      have whole : ((⌊(n : ℚ) * ratio⌋ : Int) : ℚ) ≤ n := (Int.floor_le _).trans part
      exact_mod_cast whole
  | inf negative => cases within
  | nan => cases within

theorem splitRevenue_ok {events : List RevenueEvent} {ratio : PyFloat} (checked : Checked events q ratio) :
    ∃ x, splitRevenue (exactRules r) q.gross q.expense ratio = .ok x ∧ 0 ≤ x.reimbursement ∧
      0 ≤ x.toReserve ∧ 0 ≤ x.toMission ∧ x.reimbursement + x.toReserve + x.toMission = q.gross := by
  have gross := checked.gross
  have expense := checked.expense
  unfold splitRevenue
  split
  · rename_i covered
    obtain ⟨m, floor, nonneg, part⟩ := exactFloor_within (Int.sub_nonneg.mpr covered) checked.within
    have taken : (exactRules r).floorTimes (q.gross - q.expense) ratio = .ok m := floor
    rw [taken]
    refine ⟨_, rfl, expense, nonneg, ?_, ?_⟩
    · show 0 ≤ q.gross - q.expense - m
      omega
    · show q.expense + m + (q.gross - q.expense - m) = q.gross
      omega
  · exact ⟨_, rfl, gross, le_refl _, le_refl _, by simp⟩

/-- Every id in the ledger is somebody else's, or that of a payment of a reconciled order. -/
def Recorded (b : Books) : Prop :=
  ∀ tx ∈ b.ledger.recordedTxIds, Foreign tx ∨ ∃ orderId ∈ b.orders, PaymentOf orderId tx

theorem Recorded.unpaid (recorded : Recorded b) {orderId : String} (new : orderId ∉ b.orders) :
    ∀ tx ∈ b.ledger.recordedTxIds, ¬PaymentOf orderId tx := by
  intro tx mem payment
  rcases recorded tx mem with foreign | ⟨other, there, payment'⟩
  · exact payment.not_foreign foreign
  · rw [payment.order payment'] at new
    exact new there

theorem record_new {events : List (String × RevenueEvent)} {event : RevenueEvent}
    (fresh : event.revenueEventId ∉ events.map Prod.fst) :
    record events event = events ++ [(event.revenueEventId, event)] := if_neg fresh

/-- A reconciliation is refused and changes nothing, or all of it is done. -/
theorem reconcile_cases (recorded : Recorded b) :
    (∃ err, reconcileSurplus (exactRules r) k b q = (.error err, b)) ∨
    ∃ x l, q.workOrder.workOrderId ∉ b.orders ∧ 0 ≤ x.reimbursement ∧ 0 ≤ x.toReserve ∧
      0 ≤ x.toMission ∧ x.reimbursement + x.toReserve + x.toMission = q.gross ∧
      PaidOut b.ledger l q.workOrder.workOrderId x ∧
      reconcileSurplus (exactRules r) k b q =
        (.ok (revenueEvent q.draws.toSettlementDraws q.workOrder q.gross q.expense q.credits x),
          ⟨l, record b.events
            (revenueEvent q.draws.toSettlementDraws q.workOrder q.gross q.expense q.credits x)⟩) := by
  unfold reconcileSurplus
  split
  · exact .inl ⟨_, rfl⟩
  · rename_i ratio passed
    have checked := checkSettlement_ok passed
    have new : q.workOrder.workOrderId ∉ b.orders := by
      intro mem
      obtain ⟨p, there, same⟩ := List.mem_map.mp mem
      exact checked.new p.2 (List.mem_map_of_mem there) same
    obtain ⟨x, split, reimbursement, toReserve, toMission, total⟩ := splitRevenue_ok (r := r) checked
    rw [split]
    dsimp only
    split_ifs with short
    · exact .inl ⟨_, rfl⟩
    · obtain ⟨l, paid, moved⟩ := payOut_accepts (d := q.draws) (recorded.unpaid new) reimbursement
        toReserve toMission (by omega)
      rw [paid]
      exact .inr ⟨x, l, new, reimbursement, toReserve, toMission, total, moved, rfl⟩

end Reconciling

section Runs
variable {r : SigningRules} {k : SurplusReconciler} {b : Books} {q : Request} {c : LedgerCall}

/-- What stays true between the steps: what the ledger records, each order once, and the event ids
that are still to be drawn unused. -/
structure Inv (b : Books) (ops : List Op) : Prop where
  recorded : Recorded b
  once : b.orders.Nodup
  unused : ∀ uuid ∈ eventUuids ops, s!"rev-{uuid}" ∉ b.events.map Prod.fst

theorem eventUuids_reconcile (q : Request) (ops : List Op) :
    eventUuids (.reconcile q :: ops) = q.draws.eventUuid :: eventUuids ops := rfl

theorem eventUuids_ledger (c : LedgerCall) (ops : List Op) :
    eventUuids (.ledger c :: ops) = eventUuids ops := rfl

theorem Admissible.tail {op : Op} {ops : List Op} (admissible : Admissible (op :: ops)) : Admissible ops := by
  refine ⟨?_, fun c mem => admissible.foreign c (List.mem_cons_of_mem _ mem)⟩
  have drawn := admissible.drawn
  cases op with
  | reconcile q => exact (List.nodup_cons.mp drawn).2
  | ledger c => exact drawn

theorem ledger_records {l : DoubleEntryLedger} (c : LedgerCall) :
    ∀ tx ∈ (c.run l).recordedTxIds, tx ∈ l.recordedTxIds ∨ tx = c.txId := by
  have credited : ∀ e : LedgerEntry, ∀ tx ∈ (l.credit e).recordedTxIds,
      tx ∈ l.recordedTxIds ∨ tx = e.transactionId := by
    intro e tx mem
    rcases List.mem_append.mp mem with old | new
    · exact .inl old
    · exact .inr (List.mem_singleton.mp new)
  have moved : ∀ e : LedgerEntry, ∀ tx ∈ (l.move e).recordedTxIds,
      tx ∈ l.recordedTxIds ∨ tx = e.transactionId := credited
  cases c with
  | depositRevenue d amount memo transactionId =>
    show ∀ tx ∈ (l.depositRevenue d amount memo transactionId).2.recordedTxIds, _
    unfold DoubleEntryLedger.depositRevenue
    split
    · exact fun tx mem => .inl mem
    · rename_i positive
      dsimp only
      split
      · exact fun tx mem => .inl mem
      · rw [ledgerEntry, dif_pos (Int.not_le.mp positive)]
        exact credited _
  | transfer d fromAccount toAccount amount memo transactionId =>
    show ∀ tx ∈ (l.transfer d fromAccount toAccount amount memo transactionId).2.recordedTxIds, _
    unfold DoubleEntryLedger.transfer
    dsimp only
    split
    · exact fun tx mem => .inl mem
    · split
      · exact fun tx mem => .inl mem
      · rename_i positive
        split
        · exact fun tx mem => .inl mem
        · split
          · exact fun tx mem => .inl mem
          · rw [ledgerEntry, dif_pos (Int.not_le.mp positive)]
            exact moved _

theorem inv_ledger {ops : List Op} (inv : Inv b (.ledger c :: ops)) (foreign : Foreign c.txId) :
    Inv { b with ledger := c.run b.ledger } ops := by
  refine ⟨?_, inv.once, inv.unused⟩
  intro tx mem
  rcases ledger_records c tx mem with old | rfl
  · exact inv.recorded tx old
  · exact .inl foreign

/-- A reconciliation is atomic, and keeps what stays true. -/
theorem inv_reconcile {ops : List Op} (inv : Inv b (.reconcile q :: ops))
    (drawn : (eventUuids (.reconcile q :: ops)).Nodup) :
    Atomic (exactRules r) k b (.reconcile q) ∧ Inv (reconcileSurplus (exactRules r) k b q).2 ops := by
  have later : ∀ uuid ∈ eventUuids ops, uuid ∈ eventUuids (.reconcile q :: ops) :=
    fun uuid mem => List.mem_cons_of_mem _ mem
  rcases reconcile_cases (r := r) (k := k) (q := q) inv.recorded with
    ⟨err, refused⟩ | ⟨x, l, new, reimbursement, toReserve, toMission, total, moved, made⟩
  · constructor
    · constructor
      · intro event ok
        rw [refused] at ok
        cases ok
      · intro _ _
        rw [refused]
    · rw [refused]
      exact ⟨inv.recorded, inv.once, fun uuid mem => inv.unused uuid (later uuid mem)⟩
  · have fresh := inv.unused q.draws.eventUuid List.mem_cons_self
    have events : record b.events
        (revenueEvent q.draws.toSettlementDraws q.workOrder q.gross q.expense q.credits x) =
        b.events ++ [(s!"rev-{q.draws.eventUuid}",
          revenueEvent q.draws.toSettlementDraws q.workOrder q.gross q.expense q.credits x)] :=
      record_new fresh
    rw [events] at made
    have orders : (reconcileSurplus (exactRules r) k b q).2.orders =
        b.orders ++ [q.workOrder.workOrderId] := by
      rw [made]
      exact List.map_append
    constructor
    · constructor
      · intro event ok
        rw [made] at ok ⊢
        obtain rfl := Except.ok.inj ok
        refine ⟨⟨x.reimbursement, reimbursement, toReserve, toMission, total, moved.treasury⟩,
          moved.reserve, ?_, new, List.map_append⟩
        show l.getBalance revenue = b.ledger.getBalance revenue - q.gross
        rw [moved.revenue, total]
      · intro err failed
        rw [made] at failed
        cases failed
    · refine ⟨?_, ?_, ?_⟩
      · intro tx mem
        rw [orders]
        rw [made] at mem
        rcases moved.recorded tx mem with old | payment
        · rcases inv.recorded tx old with foreign | ⟨other, there, payment⟩
          · exact .inl foreign
          · exact .inr ⟨other, List.mem_append_left _ there, payment⟩
        · exact .inr ⟨_, List.mem_append_right _ List.mem_cons_self, payment⟩
      · rw [orders]
        exact List.nodup_append.mpr ⟨inv.once, List.nodup_singleton _, by
          intro other there orderId last
          rw [List.mem_singleton.mp last]
          exact fun same => new (same ▸ there)⟩
      · intro uuid mem taken
        rw [made, List.map_append, List.mem_append] at taken
        rcases taken with old | last
        · exact inv.unused uuid (later uuid mem) old
        · have same : uuid = q.draws.eventUuid := append_cancel (List.mem_singleton.mp last)
          rw [same] at mem
          exact (List.nodup_cons.mp drawn).1 mem

theorem atomic_run (ops : List Op) (inv : Inv b ops) (admissible : Admissible ops) :
    Along (step (exactRules r) k) (Atomic (exactRules r) k) b ops ∧
      (run (step (exactRules r) k) b ops).orders.Nodup := by
  induction ops generalizing b with
  | nil => exact ⟨trivial, inv.once⟩
  | cons op ops ih =>
    cases op with
    | reconcile q =>
      obtain ⟨atomic, next⟩ := inv_reconcile (r := r) (k := k) inv admissible.drawn
      obtain ⟨along, once⟩ := ih next admissible.tail
      exact ⟨⟨atomic, along⟩, once⟩
    | ledger c =>
      obtain ⟨along, once⟩ := ih (inv_ledger inv (admissible.foreign c List.mem_cons_self)) admissible.tail
      exact ⟨⟨trivial, along⟩, once⟩

/-- From a ledger without payments of reconciliations, over every sequence of reconciliations and
other movements: an accepted reconciliation splits its gross revenue into shares that are not
negative and moves exactly that out of `REVENUE`, a refused one changes nothing, and no work order
is reconciled twice. -/
theorem reconciliations_atomic (r : SigningRules) (k : SurplusReconciler) (l : DoubleEntryLedger)
    (foreign : ∀ tx ∈ l.recordedTxIds, Foreign tx) (ops : List Op) (admissible : Admissible ops) :
    Along (step (exactRules r) k) (Atomic (exactRules r) k) ⟨l, []⟩ ops ∧
      (run (step (exactRules r) k) ⟨l, []⟩ ops).orders.Nodup :=
  atomic_run ops ⟨fun tx mem => .inl (foreign tx mem), List.nodup_nil, fun _ _ => List.not_mem_nil⟩ admissible

end Runs

section Samples

/-- What HMAC-SHA256 gives for the receipt under the key "k". -/
def signature : String := "bc655ecd94aa19fcbbabe5be00b790f8270a1f44649f3be6edba38539ba4cd33"

def sampleRules : SigningRules where
  sha256 _ := ""
  reprFloat _ := ""
  hmac _ _ := signature
  text := PythonConversions.asciiRules fun _ => ""

def reconciler : SurplusReconciler := ⟨.finite (1 / 5), "k", false⟩

def draw (n : Nat) : Draw := ⟨s!"deposit-{n}", s!"entry-{n}", n⟩

/-- A reconciliation of a bounty of a hundred after an expense of thirty. -/
def request (eventUuid : String) : Request where
  draws := ⟨⟨draw 0, draw 1, draw 2, draw 3, "0123abcd", eventUuid, .ok false⟩,
    show "0123abcd".toList.length = 8 by decide⟩
  workOrder := ⟨"wo-1", "t", "o", "REPORT", 10, 100, .verified⟩
  receipt := ⟨"rec-1", "wo-1", "d-1", "c-hash", "e-hash", "auditor", .accepted, "", some signature⟩
  gross := 100
  expense := 30
  credits := 10
  reserveRatio := none

/-- A deposit, the reconciliation, and the same reconciliation again. -/
def sampleOps : List Op := [
  .ledger (.depositRevenue (draw 4) 100 "client deposit" none),
  .reconcile (request "u-1"),
  .reconcile (request "u-2")]

theorem sample_admissible : Admissible sampleOps := by
  refine ⟨by decide, ?_⟩
  intro c mem
  simp only [sampleOps, List.mem_cons, Op.ledger.injEq, reduceCtorEq, List.not_mem_nil, or_false] at mem
  subst mem
  decide

theorem sample_atomic :
    Along (step (exactRules sampleRules) reconciler) (Atomic (exactRules sampleRules) reconciler)
        ⟨.empty, []⟩ sampleOps ∧
      (run (step (exactRules sampleRules) reconciler) ⟨.empty, []⟩ sampleOps).orders.Nodup :=
  reconciliations_atomic sampleRules reconciler .empty (List.forall_mem_nil _) sampleOps sample_admissible

example : (run (step (exactRules sampleRules) reconciler) ⟨.empty, []⟩ sampleOps).orders = ["wo-1"] := by
  decide +kernel

end Samples

end SurplusRuns
