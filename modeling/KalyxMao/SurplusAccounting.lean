import KalyxMao.ScopedLedgers
import KalyxMao.WorkOrders

/-!
# Surplus accounting

A client's bounty is deposited in `REVENUE` first. The reconciler then checks
the receipt and that the order was not reconciled before, reimburses the
treasury for what the mission cost, and splits the rest. Each of the payments is
a transaction of its own: what raises on the way leaves the earlier ones.
-/

namespace SurplusAccounting
open PythonText PythonValues Ledger SqlLedgers WorkOrders

section Model

structure RevenueEvent where
  revenueEventId : String
  workOrderId : String
  grossRevenueUsdg : Int
  directExpenseUsdg : Int
  netSurplusUsdg : Int
  orbioCreditsConsumed : Int
  allocatedToMissionBudget : Int
  allocatedToReserve : Int
  ledgerTxId : String

/-- `math.floor(n * ratio)` is left to the floating point arithmetic. -/
structure SurplusRules extends SigningRules where
  floorTimes : Int → PyFloat → Except PyError Int

/-- `0.0 <= ratio <= 1.0`. -/
def ratioWithin : PyFloat → Bool
  | .finite q => 0 ≤ q && q ≤ 1
  | _ => false

structure SurplusReconciler where
  reserveRatio : PyFloat
  receiptSecretKey : String
  hasRepo : Bool

/-- What a reconciliation takes from outside: the identifiers it draws, and whether the
repository knows a revenue event of the order. -/
structure SettlementDraws where
  deposit : Draw
  cost : Draw
  reserve : Draw
  mission : Draw
  txGroup : String
  eventUuid : String
  stored : Except PyError Bool

structure Split where
  net : Int
  reimbursement : Int
  toReserve : Int
  toMission : Int

variable (r : SurplusRules)

def splitRevenue (gross expense : Int) (ratio : PyFloat) : Except PyError Split :=
  if expense ≤ gross then do
    let toReserve ← r.floorTimes (gross - expense) ratio
    return ⟨gross - expense, expense, toReserve, gross - expense - toReserve⟩
  else .ok ⟨0, gross, 0, 0⟩

def reconciledBefore (orderId : String) : PyError :=
  ⟨.valueError, s!"Work order '{orderId}' has already been reconciled."⟩

/-- The checks of `reconcile_surplus`, up to the ratio it splits by. -/
def checkSettlement (k : SurplusReconciler) (events : List RevenueEvent) (w : WorkOrder)
    (c : WorkDeliverableReceipt) (gross expense : Int) (reserveRatio : Option PyFloat)
    (stored : Except PyError Bool) : Except PyError PyFloat := do
  if !c.isVerified then
    throw ⟨.valueError, s!"Cannot reconcile unverified deliverable receipt {c.receiptId}"⟩
  if !(← c.verifyHmac r.toSigningRules k.receiptSecretKey) then
    throw ⟨.valueError, s!"Cannot reconcile receipt with invalid HMAC signature {c.receiptId}"⟩
  if c.workOrderId ≠ w.workOrderId then
    throw ⟨.valueError, s!"Receipt work_order_id mismatch: {c.workOrderId} vs {w.workOrderId}"⟩
  if events.any fun e => e.workOrderId = w.workOrderId then
    throw (reconciledBefore w.workOrderId)
  if k.hasRepo then
    if (← stored) then
      throw ⟨.valueError, s!"Work order '{w.workOrderId}' has already been reconciled in durable storage."⟩
  if gross < 0 then throw ⟨.valueError, "gross_revenue_usdg cannot be negative"⟩
  if expense < 0 then throw ⟨.valueError, "direct_expense_usdg cannot be negative"⟩
  let ratio := reserveRatio.getD k.reserveRatio
  if !ratioWithin ratio then throw ⟨.valueError, "reserve_ratio must be between 0.0 and 1.0"⟩
  return ratio

/-- A payment out of `REVENUE`, where there is something to pay. -/
def pay (l : SqliteLedger) (d : Draw) (target : String) (amount : Int) (memo transactionId : String) :
    Except PyError Unit × SqliteLedger :=
  if 0 < amount then
    let answer := l.transfer d revenue target amount memo (some transactionId)
    (answer.1.map fun _ => (), answer.2)
  else (.ok (), l)

def costTx (orderId group : String) : String := s!"reconcile-cost-{orderId}-{group}"

def reserveTx (orderId group : String) : String := s!"reconcile-res-{orderId}-{group}"

def missionTx (orderId group : String) : String := s!"reconcile-msn-{orderId}-{group}"

/-- The three payments, one after the other. -/
def payOut (l : SqliteLedger) (d : SettlementDraws) (orderId : String) (x : Split) :
    Except PyError Unit × SqliteLedger :=
  match pay l d.cost treasury x.reimbursement s!"[USDG] Cost reimbursement for work order {orderId}"
      (costTx orderId d.txGroup) with
  | (.error err, l) => (.error err, l)
  | (.ok _, l) =>
    match pay l d.reserve surplusReserve x.toReserve
        s!"[USDG] Retained surplus reserve for work order {orderId}" (reserveTx orderId d.txGroup) with
    | (.error err, l) => (.error err, l)
    | (.ok _, l) =>
      pay l d.mission treasury x.toMission
        s!"[USDG] Mission budget surplus allocation for work order {orderId}" (missionTx orderId d.txGroup)

def revenueEvent (d : SettlementDraws) (w : WorkOrder) (gross expense credits : Int) (x : Split) :
    RevenueEvent where
  revenueEventId := s!"rev-{d.eventUuid}"
  workOrderId := w.workOrderId
  grossRevenueUsdg := gross
  directExpenseUsdg := expense
  netSurplusUsdg := x.net
  orbioCreditsConsumed := credits
  allocatedToMissionBudget := x.toMission
  allocatedToReserve := x.toReserve
  ledgerTxId := d.txGroup

/-- `reconcile_surplus`; the event it returns is what the reconciler remembers. -/
def reconcileSurplus (k : SurplusReconciler) (events : List RevenueEvent) (l : SqliteLedger)
    (d : SettlementDraws) (w : WorkOrder) (c : WorkDeliverableReceipt)
    (gross expense credits : Int) (reserveRatio : Option PyFloat) :
    Except PyError RevenueEvent × SqliteLedger :=
  match checkSettlement r k events w c gross expense reserveRatio d.stored with
  | .error err => (.error err, l)
  | .ok ratio =>
    match splitRevenue r gross expense ratio with
    | .error err => (.error err, l)
    | .ok x =>
      let held := l.getBalance revenue
      if held < gross then
        (.error ⟨.valueError,
          s!"REVENUE account has insufficient balance ({held}) for settlement of {gross}"⟩, l)
      else
        match payOut l d w.workOrderId x with
        | (.error err, l) => (.error err, l)
        | (.ok _, l) => (.ok (revenueEvent d w gross expense credits x), l)

/-- The settlement of `execute_mission`: the deposit, and then the reconciliation. -/
def settleMission (k : SurplusReconciler) (events : List RevenueEvent) (l : SqliteLedger)
    (d : SettlementDraws) (w : WorkOrder) (c : WorkDeliverableReceipt) (expense credits : Int)
    (reserveRatio : PyFloat) : Except PyError RevenueEvent × SqliteLedger :=
  match l.depositRevenue d.deposit w.bountyAmount s!"Client deposit for work order {w.workOrderId}"
      none revenue with
  | (.error err, l) => (.error err, l)
  | (.ok _, l) => reconcileSurplus r k events l d w c w.bountyAmount expense credits (some reserveRatio)

/-- What the mint ever paid to an account. -/
def mintedTo (l : SqliteLedger) (account : String) : Int :=
  ((l.rows.filter fun q => q.fromAccount = systemMint && q.toAccount = account).map LedgerRow.amount).sum

/-- Rows were appended, none of them from the mint. -/
def MovesOnly (l l' : SqliteLedger) : Prop :=
  ∃ added, l'.rows = l.rows ++ added ∧ ∀ q ∈ added, q.fromAccount ≠ systemMint

/-- The payments of a settlement are under identifiers that no row has. -/
structure FreshDraws (rows : Table) (orderId : String) (d : SettlementDraws) : Prop where
  transactions : ∀ q ∈ rows, q.transactionId ≠ costTx orderId d.txGroup ∧
    q.transactionId ≠ reserveTx orderId d.txGroup ∧ q.transactionId ≠ missionTx orderId d.txGroup
  entries : ∀ q ∈ rows, q.id ≠ d.cost.entryId ∧ q.id ≠ d.reserve.entryId ∧ q.id ≠ d.mission.entryId
  distinct : [d.deposit.entryId, d.cost.entryId, d.reserve.entryId, d.mission.entryId].Nodup

/-- The share for the reserve is a part of the net surplus. -/
def FairShare (gross expense : Int) (ratio : PyFloat) : Prop :=
  expense ≤ gross → ∃ n, r.floorTimes (gross - expense) ratio = .ok n ∧ 0 ≤ n ∧ n ≤ gross - expense

/-- What the reconciler looks at after the deposit is in order before it. -/
structure Settleable (k : SurplusReconciler) (events : List RevenueEvent) (l : SqliteLedger)
    (d : SettlementDraws) (w : WorkOrder) (c : WorkDeliverableReceipt) (expense : Int)
    (reserveRatio : PyFloat) : Prop where
  signed : c.verifyHmac r.toSigningRules k.receiptSecretKey = .ok true
  unreconciled : ∀ e ∈ events, e.workOrderId ≠ w.workOrderId
  unstored : k.hasRepo = true → d.stored = .ok false
  within : ratioWithin reserveRatio = true
  share : FairShare r w.bountyAmount expense reserveRatio
  solvent : 0 ≤ l.getBalance revenue
  fresh : FreshDraws l.rows w.workOrderId d

end Model

section Minted
variable {l l' l'' : SqliteLedger} {account : String}

theorem MovesOnly.refl (l : SqliteLedger) : MovesOnly l l := ⟨[], by simp, by simp⟩

theorem MovesOnly.trans (first : MovesOnly l l') (next : MovesOnly l' l'') : MovesOnly l l'' := by
  obtain ⟨added, rows, none⟩ := first
  obtain ⟨added', rows', none'⟩ := next
  refine ⟨added ++ added', ?_, ?_⟩
  · rw [rows', rows, List.append_assoc]
  · intro q mem
    rcases List.mem_append.mp mem with here | there
    · exact none q here
    · exact none' q there

theorem MovesOnly.transfer (l : SqliteLedger) (d : Draw) {source : String} (target : String)
    (amount : Int) (memo : String) (transactionId : Option String) (notMint : source ≠ systemMint) :
    MovesOnly l (l.transfer d source target amount memo transactionId).2 := by
  rcases sqlite_transfer_cases l d source target amount memo transactionId with
    ⟨err, refused⟩ | ⟨e, q, taken, from_, -⟩
  · rw [refused]
    exact .refl l
  · rw [taken]
    refine ⟨[q], rfl, ?_⟩
    intro q' mem
    rw [List.mem_singleton.mp mem, from_]
    exact notMint

theorem MovesOnly.minted (moves : MovesOnly l l') : mintedTo l' account = mintedTo l account := by
  obtain ⟨added, rows, none⟩ := moves
  have nothing : (added.filter fun q => q.fromAccount = systemMint && q.toAccount = account) = [] := by
    apply List.filter_eq_nil_iff.mpr
    intro q mem
    simp [none q mem]
  rw [mintedTo, rows, List.filter_append, nothing, List.append_nil, mintedTo]

/-- A deposit is refused and changes nothing, or mints its amount in one row. -/
theorem deposit_cases (l : SqliteLedger) (d : Draw) (amount : Int) (memo : String) :
    (∃ err, l.depositRevenue d amount memo none revenue = (.error err, l)) ∨
    ∃ e, l.depositRevenue d amount memo none revenue = (.ok e, ⟨l.rows ++ [⟨d.entryId, d.now,
      s!"deposit-{d.txUuid}", systemMint, revenue, amount, memo, defaultTenant⟩]⟩) ∧ 0 < amount := by
  unfold SqliteLedger.depositRevenue
  split
  · exact .inl ⟨_, rfl⟩
  · rename_i pos
    have pos : 0 < amount := Int.not_le.mp pos
    unfold post
    rw [orElse_none]
    cases inserted : insertRow .sqlite l.rows ⟨d.entryId, d.now, s!"deposit-{d.txUuid}", systemMint,
        revenue, amount, memo, defaultTenant⟩ with
    | error err => exact .inl ⟨err, rfl⟩
    | ok rows =>
      refine .inr ⟨⟨d.entryId, d.now, s!"deposit-{d.txUuid}", systemMint, revenue, amount, memo, pos⟩,
        ?_, pos⟩
      rw [insertRow_ok inserted]
      dsimp only
      rw [LedgerRow.toEntry, ledgerEntry, dif_pos pos]

theorem minted_deposit (rows : Table) {q : LedgerRow} (mint : q.fromAccount = systemMint)
    (target : q.toAccount = account) :
    mintedTo ⟨rows ++ [q]⟩ account = mintedTo ⟨rows⟩ account + q.amount := by
  simp [mintedTo, List.filter_append, mint, target]

end Minted

section Paying
variable {l : SqliteLedger}

theorem revenue_ne_mint : revenue ≠ systemMint := by decide

theorem treasury_ne_revenue : treasury ≠ revenue := by decide

theorem reserve_ne_revenue : surplusReserve ≠ revenue := by decide

theorem pay_moves (l : SqliteLedger) (d : Draw) (target : String) (amount : Int)
    (memo transactionId : String) : MovesOnly l (pay l d target amount memo transactionId).2 := by
  unfold pay
  split
  · exact .transfer l d target amount memo _ revenue_ne_mint
  · exact .refl l

/-- A payment that `REVENUE` covers, under fresh identifiers, is made. -/
theorem pay_accepts {d : Draw} {target transactionId : String} {amount : Int} (memo : String)
    (covered : max 0 amount ≤ l.getBalance revenue) (apart : target ≠ revenue)
    (named : transactionId ≠ "")
    (unused : ∀ q ∈ l.rows, q.transactionId ≠ transactionId ∧ q.id ≠ d.entryId) :
    ∃ l', pay l d target amount memo transactionId = (.ok (), l') ∧
      l'.getBalance revenue = l.getBalance revenue - max 0 amount ∧
      ∀ q ∈ l'.rows, q ∈ l.rows ∨ (q.transactionId = transactionId ∧ q.id = d.entryId) := by
  unfold pay
  split
  · rename_i pos
    obtain ⟨e, taken⟩ := sqlite_transfer_accepts memo named pos apart.symm (by omega)
      (fun q mem => (unused q mem).1) (fun q mem => (unused q mem).2)
    rw [taken]
    refine ⟨_, rfl, ?_, ?_⟩
    · show balanceOf (l.rows ++ [_]) revenue = balanceOf l.rows revenue - _
      rw [balanceOf_concat, if_neg apart, if_pos rfl]
      dsimp only
      omega
    · intro q mem
      rcases List.mem_append.mp mem with old | new
      · exact .inl old
      · rw [List.mem_singleton.mp new]
        exact .inr ⟨rfl, rfl⟩
  · rename_i nothing
    refine ⟨l, rfl, ?_, fun q mem => .inl mem⟩
    omega

theorem payOut_moves (l : SqliteLedger) (d : SettlementDraws) (orderId : String) (x : Split) :
    MovesOnly l (payOut l d orderId x).2 := by
  have first := pay_moves l d.cost treasury x.reimbursement
    s!"[USDG] Cost reimbursement for work order {orderId}" (costTx orderId d.txGroup)
  unfold payOut
  split
  · rename_i err l₁ raised
    rw [raised] at first
    exact first
  · rename_i l₁ paid
    rw [paid] at first
    have second := pay_moves l₁ d.reserve surplusReserve x.toReserve
      s!"[USDG] Retained surplus reserve for work order {orderId}" (reserveTx orderId d.txGroup)
    split
    · rename_i err l₂ raised
      rw [raised] at second
      exact first.trans second
    · rename_i l₂ paid
      rw [paid] at second
      exact first.trans (second.trans (pay_moves ..))

/-- The identifiers of the payments are told apart by how they begin. -/
theorem id_starts (purpose orderId group : String) :
    purpose ++ orderId ++ "-" ++ group = purpose ++ (orderId ++ "-" ++ group) := by
  rw [String.append_assoc, String.append_assoc, String.append_assoc]

theorem costTx_starts (orderId group : String) :
    costTx orderId group = "reconcile-cost-" ++ (orderId ++ "-" ++ group) := id_starts _ _ _

theorem reserveTx_starts (orderId group : String) :
    reserveTx orderId group = "reconcile-res-" ++ (orderId ++ "-" ++ group) := id_starts _ _ _

theorem missionTx_starts (orderId group : String) :
    missionTx orderId group = "reconcile-msn-" ++ (orderId ++ "-" ++ group) := id_starts _ _ _

theorem costTx_ne_reserveTx (orderId group : String) : costTx orderId group ≠ reserveTx orderId group := by
  rw [costTx_starts, reserveTx_starts]
  exact ne_of_starts _ _ 11 (by decide) (by decide) (by decide)

theorem costTx_ne_missionTx (orderId group : String) : costTx orderId group ≠ missionTx orderId group := by
  rw [costTx_starts, missionTx_starts]
  exact ne_of_starts _ _ 11 (by decide) (by decide) (by decide)

theorem reserveTx_ne_missionTx (orderId group : String) :
    reserveTx orderId group ≠ missionTx orderId group := by
  rw [reserveTx_starts, missionTx_starts]
  exact ne_of_starts _ _ 11 (by decide) (by decide) (by decide)

theorem payOut_accepts {d : SettlementDraws} {orderId : String} {x : Split}
    (fresh : FreshDraws l.rows orderId d) (reimbursement : 0 ≤ x.reimbursement)
    (toReserve : 0 ≤ x.toReserve) (toMission : 0 ≤ x.toMission)
    (covered : x.reimbursement + x.toReserve + x.toMission ≤ l.getBalance revenue) :
    ∃ l', payOut l d orderId x = (.ok (), l') := by
  have distinct := fresh.distinct
  simp only [List.nodup_cons, List.mem_cons, not_or] at distinct
  obtain ⟨-, ⟨costReserve, costMission, -⟩, ⟨reserveMission, -⟩, -⟩ := distinct
  obtain ⟨l₁, paid₁, held₁, rows₁⟩ : ∃ l₁, pay l d.cost treasury x.reimbursement
      s!"[USDG] Cost reimbursement for work order {orderId}" (costTx orderId d.txGroup) = (.ok (), l₁) ∧
      l₁.getBalance revenue = l.getBalance revenue - max 0 x.reimbursement ∧ ∀ q ∈ l₁.rows,
        q ∈ l.rows ∨ (q.transactionId = costTx orderId d.txGroup ∧ q.id = d.cost.entryId) := by
    refine pay_accepts _ (by omega) treasury_ne_revenue ?_ ?_
    · rw [costTx_starts]
      exact append_ne_empty _ (by decide)
    · intro q mem
      exact ⟨(fresh.transactions q mem).1, (fresh.entries q mem).1⟩
  obtain ⟨l₂, paid₂, held₂, rows₂⟩ : ∃ l₂, pay l₁ d.reserve surplusReserve x.toReserve
      s!"[USDG] Retained surplus reserve for work order {orderId}" (reserveTx orderId d.txGroup) =
        (.ok (), l₂) ∧
      l₂.getBalance revenue = l₁.getBalance revenue - max 0 x.toReserve ∧ ∀ q ∈ l₂.rows,
        q ∈ l₁.rows ∨ (q.transactionId = reserveTx orderId d.txGroup ∧ q.id = d.reserve.entryId) := by
    refine pay_accepts _ (by omega) reserve_ne_revenue ?_ ?_
    · rw [reserveTx_starts]
      exact append_ne_empty _ (by decide)
    · intro q mem
      rcases rows₁ q mem with old | ⟨tx, id⟩
      · exact ⟨(fresh.transactions q old).2.1, (fresh.entries q old).2.1⟩
      · exact ⟨tx ▸ costTx_ne_reserveTx orderId d.txGroup, id ▸ costReserve⟩
  obtain ⟨l₃, paid₃, -⟩ : ∃ l₃, pay l₂ d.mission treasury x.toMission
      s!"[USDG] Mission budget surplus allocation for work order {orderId}"
      (missionTx orderId d.txGroup) = (.ok (), l₃) ∧ _ := by
    refine pay_accepts _ (by omega) treasury_ne_revenue ?_ ?_
    · rw [missionTx_starts]
      exact append_ne_empty _ (by decide)
    · intro q mem
      rcases rows₂ q mem with earlier | ⟨tx, id⟩
      · rcases rows₁ q earlier with old | ⟨tx, id⟩
        · exact ⟨(fresh.transactions q old).2.2, (fresh.entries q old).2.2⟩
        · exact ⟨tx ▸ costTx_ne_missionTx orderId d.txGroup, id ▸ costMission⟩
      · exact ⟨tx ▸ reserveTx_ne_missionTx orderId d.txGroup, id ▸ reserveMission⟩
  refine ⟨l₃, ?_⟩
  rw [payOut, paid₁]
  dsimp only
  rw [paid₂]
  exact paid₃

end Paying

section Settling
variable {r : SurplusRules} {k : SurplusReconciler} {events : List RevenueEvent} {l : SqliteLedger}
  {d : SettlementDraws} {w : WorkOrder} {c : WorkDeliverableReceipt} {expense : Int} {ratio : PyFloat}

theorem deposit_ne_payments (txUuid orderId group : String) :
    s!"deposit-{txUuid}" ≠ costTx orderId group ∧ s!"deposit-{txUuid}" ≠ reserveTx orderId group ∧
      s!"deposit-{txUuid}" ≠ missionTx orderId group := by
  rw [costTx_starts, reserveTx_starts, missionTx_starts]
  refine ⟨?_, ?_, ?_⟩
  · exact ne_of_starts _ _ 1 (by decide) (by decide) (by decide)
  · exact ne_of_starts _ _ 1 (by decide) (by decide) (by decide)
  · exact ne_of_starts _ _ 1 (by decide) (by decide) (by decide)

/-- The row of the deposit takes none of the identifiers of the payments. -/
theorem FreshDraws.deposited {rows : Table} {orderId : String} (fresh : FreshDraws rows orderId d)
    {q : LedgerRow} (id : q.id = d.deposit.entryId)
    (tx : q.transactionId = s!"deposit-{d.deposit.txUuid}") : FreshDraws (rows ++ [q]) orderId d := by
  have distinct := fresh.distinct
  simp only [List.nodup_cons, List.mem_cons, not_or] at distinct
  obtain ⟨⟨cost, reserve, mission, -⟩, -⟩ := distinct
  refine ⟨?_, ?_, fresh.distinct⟩
  · intro q' mem
    rcases List.mem_append.mp mem with old | new
    · exact fresh.transactions q' old
    · rw [List.mem_singleton.mp new, tx]
      exact deposit_ne_payments d.deposit.txUuid orderId d.txGroup
  · intro q' mem
    rcases List.mem_append.mp mem with old | new
    · exact fresh.entries q' old
    · rw [List.mem_singleton.mp new, id]
      exact ⟨cost, reserve, mission⟩

theorem checkSettlement_accepts (settleable : Settleable r k events l d w c expense ratio)
    (verified : c.isVerified = true) (same : c.workOrderId = w.workOrderId) (gross : 0 ≤ w.bountyAmount)
    (spent : 0 ≤ expense) :
    checkSettlement r k events w c w.bountyAmount expense (some ratio) d.stored = .ok ratio := by
  have unreconciled : (events.any fun e => e.workOrderId = w.workOrderId) = false := by
    simpa using settleable.unreconciled
  unfold checkSettlement
  rw [verified, settleable.signed]
  simp only [Bool.not_true, Bool.false_eq_true, if_false, bind, Except.bind, pure, Except.pure, same,
    ne_eq, not_true_eq_false, unreconciled, Int.not_lt.mpr gross, Int.not_lt.mpr spent,
    Option.getD_some, settleable.within]
  split
  · rename_i repo
    rw [settleable.unstored repo]
    rfl
  · rfl

theorem splitRevenue_accepts (share : FairShare r w.bountyAmount expense ratio)
    (gross : 0 ≤ w.bountyAmount) (spent : 0 ≤ expense) :
    ∃ x, splitRevenue r w.bountyAmount expense ratio = .ok x ∧ 0 ≤ x.reimbursement ∧
      0 ≤ x.toReserve ∧ 0 ≤ x.toMission ∧
      x.reimbursement + x.toReserve + x.toMission = w.bountyAmount := by
  unfold splitRevenue
  split
  · rename_i covered
    obtain ⟨n, taken, nonneg, bounded⟩ := share covered
    rw [taken]
    refine ⟨_, rfl, spent, nonneg, ?_, ?_⟩
    · show 0 ≤ w.bountyAmount - expense - n
      omega
    · show expense + n + (w.bountyAmount - expense - n) = w.bountyAmount
      omega
  · refine ⟨_, rfl, gross, le_refl _, le_refl _, ?_⟩
    simp

/-- Where everything is in order, a settlement mints the bounty and returns its event, or the
deposit itself is refused. -/
theorem settleMission_cases (settleable : Settleable r k events l d w c expense ratio)
    (verified : c.isVerified = true) (same : c.workOrderId = w.workOrderId) (spent : 0 ≤ expense)
    (credits : Int) :
    (∃ err, settleMission r k events l d w c expense credits ratio = (.error err, l)) ∨
    ∃ event l', settleMission r k events l d w c expense credits ratio = (.ok event, l') ∧
      event.workOrderId = w.workOrderId ∧
      mintedTo l' revenue = mintedTo l revenue + w.bountyAmount := by
  unfold settleMission
  rcases deposit_cases l d.deposit w.bountyAmount s!"Client deposit for work order {w.workOrderId}" with
    ⟨err, refused⟩ | ⟨e, taken, pos⟩
  · rw [refused]
    exact .inl ⟨err, rfl⟩
  · rw [taken]
    dsimp only
    generalize row : (⟨d.deposit.entryId, d.deposit.now, s!"deposit-{d.deposit.txUuid}", systemMint,
      revenue, w.bountyAmount, s!"Client deposit for work order {w.workOrderId}", defaultTenant⟩ :
        LedgerRow) = q
    have amount : q.amount = w.bountyAmount := row ▸ rfl
    have source : q.fromAccount = systemMint := row ▸ rfl
    have target : q.toAccount = revenue := row ▸ rfl
    have held : SqliteLedger.getBalance ⟨l.rows ++ [q]⟩ revenue = l.getBalance revenue + w.bountyAmount := by
      show balanceOf (l.rows ++ [q]) revenue = balanceOf l.rows revenue + w.bountyAmount
      rw [balanceOf_concat, source, target, amount, if_pos rfl, if_neg revenue_ne_mint.symm]
      omega
    have solvent := settleable.solvent
    obtain ⟨x, split, reimbursement, toReserve, toMission, total⟩ :=
      splitRevenue_accepts settleable.share pos.le spent
    obtain ⟨l', paid⟩ := payOut_accepts (l := ⟨l.rows ++ [q]⟩)
      (settleable.fresh.deposited (row ▸ rfl) (row ▸ rfl)) reimbursement toReserve toMission (by omega)
    have moves := payOut_moves ⟨l.rows ++ [q]⟩ d w.workOrderId x
    right
    refine ⟨revenueEvent d w w.bountyAmount expense credits x, l', ?_, rfl, ?_⟩
    · unfold reconcileSurplus
      rw [checkSettlement_accepts settleable verified same pos.le spent]
      dsimp only
      rw [split]
      dsimp only
      rw [if_neg (by omega), paid]
    · rw [paid] at moves
      rw [moves.minted, minted_deposit l.rows source target, amount]

end Settling

end SurplusAccounting
