import KalyxMao.ExactlyOnce
import KalyxMao.MarketplaceClaims
import KalyxMao.StepRuns

/-!
# What the recovery scanner lists

The scanner selects by the columns of single rows: operations by their state,
escrows by the status of their order, orders by their own status and by the work
order of a revenue event. It reads no ledger, so a payment made before a crash is
seen only where a status was written after it.
-/

namespace RecoveryScans
open PythonText Domain Ledger SqlLedgers KeyedLists EffectPrograms EffectPrograms.Prog Marketplace
open SurplusAccounting WorkOrders
open Consequential (Manager)
open MarketplaceClaims (MarketCall)

section Joins

universe u v
variable {α : Type u} {β : Type v}

/-- `LEFT JOIN`: a row without a partner is kept with nulls. -/
def leftJoin (on_ : α → β → Bool) (as : List α) (bs : List β) : List (α × Option β) :=
  as.flatMap fun a =>
    match bs.filter (on_ a) with
    | [] => [(a, none)]
    | found => found.map fun b => (a, some b)

theorem mem_leftJoin_none {on_ : α → β → Bool} {as : List α} {bs : List β} {a : α} (mem : a ∈ as)
    (alone : ∀ b ∈ bs, on_ a b = false) : (a, none) ∈ leftJoin on_ as bs := by
  refine List.mem_flatMap.mpr ⟨a, mem, ?_⟩
  have empty : bs.filter (on_ a) = [] := List.filter_eq_nil_iff.mpr fun b hb => by simp [alone b hb]
  rw [empty]
  exact List.mem_singleton.mpr rfl

theorem mem_leftJoin_some {on_ : α → β → Bool} {as : List α} {bs : List β} {a : α} {b : β}
    (mem : a ∈ as) (there : b ∈ bs) (joined : on_ a b = true) :
    (a, some b) ∈ leftJoin on_ as bs := by
  refine List.mem_flatMap.mpr ⟨a, mem, ?_⟩
  have found : b ∈ bs.filter (on_ a) := List.mem_filter.mpr ⟨there, joined⟩
  cases partners : bs.filter (on_ a) with
  | nil =>
    rw [partners] at found
    cases found
  | cons first rest =>
    rw [partners] at found
    exact List.mem_map.mpr ⟨b, found, rfl⟩

end Joins

section Scanner

/-- The tables that the scanner reads, beside the ledgers that it does not. -/
structure Database where
  world : Consequential.World
  board : Board

structure DanglingEscrow where
  tenantId : String
  organisationId : String
  escrowId : String
  orderId : String
  bountyAmount : Int
  escrowStatus : EscrowStatus
  orderStatus : Option MarketplaceOrderStatus

structure StaleClaim where
  tenantId : String
  organisationId : String
  orderId : String
  claimedByTenantId : Option String
  claimedByOrgId : Option String
  claimedByAgentId : Option String
  claimedAt : Option String

structure UnknownOperation where
  id : String
  tenantId : String
  organisationId : String
  actionType : ActionType
  target : String
  amount : Nat
  state : OperationState
  errorMessage : Option String

structure UnreconciledOrder where
  tenantId : String
  organisationId : String
  orderId : String
  workOrderId : Option String
  bountyAmount : Int
  completedAt : Option String

variable (d : Database)

/-- `o.status IS NULL OR o.status NOT IN ('OPEN', 'CLAIMED')`. -/
def leftBehind : Option MarketplaceOrder → Bool
  | none => true
  | some o => o.status ∉ [.open, .claimed]

def sameOrder (e : EscrowAgreement) (o : MarketplaceOrder) : Bool :=
  e.tenantId = o.tenantId && e.organisationId = o.organisationId && e.orderId = o.orderId

def scanDanglingEscrows : List DanglingEscrow :=
  ((leftJoin sameOrder d.board.escrows d.board.orders).filter fun row =>
    row.1.status = .held && leftBehind row.2).map fun row =>
      ⟨row.1.tenantId, row.1.organisationId, row.1.escrowId, row.1.orderId, row.1.bountyAmount,
        row.1.status, row.2.map MarketplaceOrder.status⟩

/-- The timeout that `scan_stale_claims` takes is not used. -/
def scanStaleClaims : List StaleClaim :=
  (d.board.orders.filter fun o => o.status = .claimed).map fun o =>
    ⟨o.tenantId, o.organisationId, o.orderId, o.claimedByTenantId, o.claimedByOrgId,
      o.claimedByAgentId, o.claimedAt⟩

def scanUnknownConsequentialOperations : List UnknownOperation :=
  (d.world.operations.filter fun op => op.state = .unknown).map fun op =>
    ⟨op.id, op.tenantId, op.organisationId, op.actionType, op.target, op.amount, op.state,
      op.errorMessage⟩

/-- Nulls are equal to nothing. -/
def sameWorkOrder (o : MarketplaceOrder) (s : StoredEvent) : Bool :=
  o.workOrderId = some s.event.workOrderId

def scanUnreconciledRevenue : List UnreconciledOrder :=
  ((leftJoin sameWorkOrder d.board.orders d.board.events).filter fun row =>
    row.1.status = .completed && row.2.isNone).map fun row =>
      ⟨row.1.tenantId, row.1.organisationId, row.1.orderId, row.1.workOrderId, row.1.bountyAmount,
        row.1.completedAt⟩

end Scanner

section Runs
variable (m : Manager) (x : MarketRules)

/-- A call on the manager or on the coordinator, cut after as many commands as there are inputs. -/
inductive Step where
  | manage (c : ExactlyOnce.Call) (inputs : List Consequential.Env)
  | publish (c : PublishCall) (inputs : List Input)
  | trade (c : MarketCall) (inputs : List Input)

def Step.run (d : Database) : Step → Database
  | .manage c inputs =>
    { d with world := (advance Consequential.respond inputs (c.program m) d.world).2 }
  | .publish c inputs => { d with board := (advance (respond x) inputs (publishB2bOrder x c) d.board).2 }
  | .trade c inputs => { d with board := (advance (respond x) inputs (c.program x) d.board).2 }

abbrev runAll (d : Database) (steps : List Step) : Database := StepRuns.run (Step.run m x) d steps

/-- The coordinator's calls on an order use the ledger that its bounty is locked in. -/
def Step.OwnLedger (home : String → Nat) : Step → Prop
  | .publish c _ => c.clientLedger = home c.orderId
  | .trade (.settle c) _ => c.clientLedger = home c.order.orderId
  | .trade (.refund c) _ => c.clientLedger = home c.orderId
  | _ => True

end Runs

section Property
variable (m : Manager) (x : MarketRules) (home : String → Nat) (d : Database)

def OperationListed (op : ConsequentialOperation) : Prop :=
  ∃ row ∈ scanUnknownConsequentialOperations d, row.id = op.id

def EscrowListed (e : EscrowAgreement) : Prop :=
  ∃ row ∈ scanDanglingEscrows d, (row.tenantId, row.organisationId, row.escrowId) = e.key

def ClaimListed (o : MarketplaceOrder) : Prop :=
  ∃ row ∈ scanStaleClaims d, (row.tenantId, row.organisationId, row.orderId) = o.key

def OrderListed (o : MarketplaceOrder) : Prop :=
  ∃ row ∈ scanUnreconciledRevenue d, (row.tenantId, row.organisationId, row.orderId) = o.key

/-- The reservation of an operation is in the ledger. -/
def Locked (op : ConsequentialOperation) : Prop :=
  ∃ row ∈ d.world.ledger.rows, row.transactionId = Consequential.lockTx m.hashing op

/-- No later calls of the coordinator take an escrow out of `HELD`. -/
def Unsettleable (e : EscrowAgreement) : Prop :=
  ∀ steps : List Step, (∀ step ∈ steps, step.OwnLedger home) →
    ∃ e' ∈ (runAll m x d steps).board.escrows, e'.key = e.key ∧ e'.status = .held

/-- Every locked operation with an open outcome is listed. -/
def ListsOperations : Prop :=
  ∀ op ∈ d.world.operations, Locked m d op →
    op.state ∈ [.escrowed, .submitted, .unknown, .reconciling] → OperationListed d op

/-- Every escrow that stays held for good is listed. -/
def ListsEscrows : Prop :=
  ∀ e ∈ d.board.escrows, e.status = .held → Unsettleable m x home d e → EscrowListed d e

/-- What the scans select: unknown operations, held escrows by their order, and completed orders
whose work order no revenue event names. -/
structure Scanned : Prop where
  operations : ∀ op ∈ d.world.operations, op.state = .unknown → OperationListed d op
  escrows : ∀ e ∈ d.board.escrows, e.status = .held → EscrowListed d e ∨
    ∃ o ∈ d.board.orders, o.key = (e.tenantId, e.organisationId, e.orderId) ∧
      (o.status = .open ∨ (o.status = .claimed ∧ ClaimListed d o))
  revenue : ∀ o ∈ d.board.orders, o.status = .completed →
    (∀ s ∈ d.board.events, o.workOrderId ≠ some s.event.workOrderId) → OrderListed d o

end Property

section Listing
variable {d : Database}

theorem operation_listed {op : ConsequentialOperation} (mem : op ∈ d.world.operations)
    (unknown : op.state = .unknown) : OperationListed d op :=
  ⟨_, List.mem_map.mpr ⟨op, List.mem_filter.mpr ⟨mem, decide_eq_true unknown⟩, rfl⟩, rfl⟩

theorem claim_listed {o : MarketplaceOrder} (mem : o ∈ d.board.orders) (claimed : o.status = .claimed) :
    ClaimListed d o :=
  ⟨_, List.mem_map.mpr ⟨o, List.mem_filter.mpr ⟨mem, decide_eq_true claimed⟩, rfl⟩, rfl⟩

theorem escrow_listed {e : EscrowAgreement} {joined : Option MarketplaceOrder}
    (row : (e, joined) ∈ leftJoin sameOrder d.board.escrows d.board.orders) (held : e.status = .held)
    (left : leftBehind joined = true) : EscrowListed d e := by
  refine ⟨_, List.mem_map.mpr ⟨(e, joined), List.mem_filter.mpr ⟨row, ?_⟩, rfl⟩, rfl⟩
  rw [Bool.and_eq_true]
  exact ⟨decide_eq_true held, left⟩

/-- A held escrow has no order, or one that is open, claimed, or left behind. -/
theorem held_scanned {e : EscrowAgreement} (mem : e ∈ d.board.escrows) (held : e.status = .held) :
    EscrowListed d e ∨ ∃ o ∈ d.board.orders, o.key = (e.tenantId, e.organisationId, e.orderId) ∧
      (o.status = .open ∨ (o.status = .claimed ∧ ClaimListed d o)) := by
  by_cases paired : ∃ o ∈ d.board.orders, sameOrder e o = true
  · obtain ⟨o, there, same⟩ := paired
    cases left : leftBehind (some o) with
    | true => exact .inl (escrow_listed (mem_leftJoin_some mem there same) held left)
    | false =>
      have key : o.key = (e.tenantId, e.organisationId, e.orderId) := by
        simp only [sameOrder, Bool.and_eq_true, decide_eq_true_eq] at same
        rw [MarketplaceOrder.key, same.1.1, same.1.2, same.2]
      have status : o.status ∈ [MarketplaceOrderStatus.open, .claimed] :=
        not_not.mp (of_decide_eq_false left)
      rw [List.mem_cons, List.mem_singleton] at status
      refine .inr ⟨o, there, key, ?_⟩
      rcases status with isOpen | claimed
      · exact .inl isOpen
      · exact .inr ⟨claimed, claim_listed there claimed⟩
  · refine .inl (escrow_listed (mem_leftJoin_none mem ?_) held rfl)
    intro o there
    rw [Bool.eq_false_iff]
    exact fun same => paired ⟨o, there, same⟩

theorem revenue_scanned {o : MarketplaceOrder} (mem : o ∈ d.board.orders) (completed : o.status = .completed)
    (unnamed : ∀ s ∈ d.board.events, o.workOrderId ≠ some s.event.workOrderId) : OrderListed d o := by
  have row : (o, none) ∈ leftJoin sameWorkOrder d.board.orders d.board.events :=
    mem_leftJoin_none mem fun s there => decide_eq_false (unnamed s there)
  refine ⟨_, List.mem_map.mpr ⟨_, List.mem_filter.mpr ⟨row, ?_⟩, rfl⟩, rfl⟩
  rw [Bool.and_eq_true]
  exact ⟨decide_eq_true completed, rfl⟩

end Listing

section Stuck
variable {x : MarketRules} {home : String → Nat} {orderId : String} {key : Key} {b b' : Board}

/-- The board has an escrow held for an order whose release and whose refund are both spent. -/
structure Stuck (home : String → Nat) (orderId : String) (key : Key) (b : Board) : Prop where
  released : ∃ row ∈ (b.ledgers (home orderId)).rows, row.transactionId = Marketplace.releaseTx orderId
  refunded : ∃ row ∈ (b.ledgers (home orderId)).rows, row.transactionId = refundTx orderId
  there : ∃ e ∈ b.escrows, e.key = key
  held : ∀ e ∈ b.escrows, e.key = key → e.orderId = orderId ∧ e.status = .held

/-- Every ledger has the rows it had. -/
def Grows (b b' : Board) : Prop := ∀ n, ∃ added, (b'.ledgers n).rows = (b.ledgers n).rows ++ added

theorem Grows.of_same (same : b'.ledgers = b.ledgers) : Grows b b' := fun n => ⟨[], by rw [same]; simp⟩

theorem grows_setLedger {n : Nat} {l : SqliteLedger} (added : ∃ rows, l.rows = (b.ledgers n).rows ++ rows)
    (same : b'.ledgers = Function.update b.ledgers n l) : Grows b b' := by
  intro k
  rw [same]
  by_cases here : k = n
  · subst here
    rw [Function.update_self]
    exact added
  · rw [Function.update_of_ne here]
    exact ⟨[], by simp⟩

theorem transfer_grows (l : SqliteLedger) (d : Ledger.Draw) (source target : String) (amount : Int)
    (memo : String) (txId : Option String) :
    ∃ rows, (l.transfer d source target amount memo txId).2.rows = l.rows ++ rows := by
  rcases sqlite_transfer_cases l d source target amount memo txId with
    ⟨err, refused⟩ | ⟨e, row, taken, -⟩
  · exact ⟨[], by rw [refused]; simp⟩
  · exact ⟨[row], by rw [taken]⟩

theorem deposit_grows (l : SqliteLedger) (d : Ledger.Draw) (amount : Int) (memo : String)
    (txId : Option String) (account : String) :
    ∃ rows, (l.depositRevenue d amount memo txId account).2.rows = l.rows ++ rows := by
  unfold SqliteLedger.depositRevenue
  split_ifs
  · exact ⟨[], by simp⟩
  · unfold post
    split
    · exact ⟨[], by simp⟩
    · rename_i rows inserted
      exact ⟨_, insertRow_ok inserted⟩

theorem reconcile_grows (r : SurplusRules) (k : SurplusReconciler) (events : List RevenueEvent)
    (l : SqliteLedger) (d : SettlementDraws) (w : WorkOrder) (c : WorkDeliverableReceipt)
    (gross expense credits : Int) :
    ∃ rows, (reconcileSurplus r k events l d w c gross expense credits none).2.rows = l.rows ++ rows := by
  have still : ∃ rows, l.rows = l.rows ++ rows := ⟨[], by simp⟩
  unfold reconcileSurplus
  split
  · exact still
  · split
    · exact still
    · rename_i ratio accepted split_ divided
      obtain ⟨added, rows, -⟩ := payOut_moves l d w.workOrderId split_
      dsimp only
      split_ifs
      · exact still
      · cases paid : payOut l d w.workOrderId split_ with
        | mk answer l' =>
          rw [paid] at rows
          cases answer with
          | error err => exact ⟨added, rows⟩
          | ok _ => exact ⟨added, rows⟩

/-- The statements that leave the escrow under a key alone. -/
def Harmless (key : Key) : Cmd → Prop
  | .updateEscrowStatus other _ _ => other ≠ key
  | _ => True

theorem respond_grows (c : Cmd) (i : Input) : Grows b (respond x c b i).2 := by
  cases c with
  | transfer n source target amount memo txId =>
    exact grows_setLedger (transfer_grows ..) rfl
  | depositRevenue n amount memo txId => exact grows_setLedger (deposit_grows ..) rfl
  | reconcileSurplus n ledger k w receipt gross expense credits =>
    obtain ⟨reconciled, written⟩ := reconcile_writes (x := x) (b := b) i
    rw [written]
    exact grows_setLedger (reconcile_grows ..) rfl
  | createOrder o =>
    refine .of_same ?_
    rcases createOrder_cases b o with ⟨answer, same⟩ | ⟨-, added⟩
    · exact congrArg (fun answer => answer.2.ledgers) same
    · exact congrArg (fun answer => answer.2.ledgers) added
  | saveEscrow e =>
    refine .of_same ?_
    rcases saveEscrow_cases b e with ⟨answer, same⟩ | ⟨-, added⟩
    · exact congrArg (fun answer => answer.2.ledgers) same
    · exact congrArg (fun answer => answer.2.ledgers) added
  | saveRevenueEvent s =>
    refine .of_same ?_
    rcases saveRevenueEvent_cases b s with ⟨answer, same⟩ | added
    · exact congrArg (fun answer => answer.2.ledgers) same
    · exact congrArg (fun answer => answer.2.ledgers) added
  | _ => exact .of_same rfl

/-- Escrows under a key that is there are not added, and others' updates leave them alone. -/
theorem respond_escrows {c : Cmd} {i : Input} (harmless : Harmless key c)
    (there : ∃ e ∈ b.escrows, e.key = key) :
    ∀ e, e.key = key → (e ∈ (respond x c b i).2.escrows ↔ e ∈ b.escrows) := by
  intro e own
  cases c with
  | updateEscrowStatus other status p =>
    show e ∈ b.escrows.map _ ↔ _
    constructor
    · intro mem
      obtain ⟨e', mem', rfl⟩ := List.mem_map.mp mem
      by_cases hit : e'.key = other
      · rw [if_pos hit] at own
        exact absurd (hit.symm.trans own) harmless
      · rw [if_neg hit]
        exact mem'
    · intro mem
      refine List.mem_map.mpr ⟨e, mem, if_neg ?_⟩
      rw [own]
      exact Ne.symm harmless
  | saveEscrow new =>
    show e ∈ (saveEscrow b new).2.escrows ↔ _
    rcases saveEscrow_cases b new with ⟨answer, same⟩ | ⟨missing, added⟩
    · rw [same]
    · have other : e ≠ new := by
        rintro rfl
        obtain ⟨e', mem, same⟩ := there
        exact lookupBy_none.mp missing e' mem (same.trans own.symm)
      rw [added]
      simp [other]
  | createOrder o =>
    show e ∈ (createOrder b o).2.escrows ↔ _
    rcases createOrder_cases b o with ⟨answer, same⟩ | ⟨-, added⟩
    · rw [same]
    · rw [added]
  | saveRevenueEvent s =>
    show e ∈ (saveRevenueEvent b s).2.escrows ↔ _
    rcases saveRevenueEvent_cases b s with ⟨answer, same⟩ | added
    · rw [same]
    · rw [added]
  | reconcileSurplus n ledger k w receipt gross expense credits =>
    obtain ⟨reconciled, written⟩ := reconcile_writes (x := x) (b := b) i
    rw [written]
    rfl
  | _ => rfl

theorem stuck_respond {c : Cmd} {i : Input} (harmless : Harmless key c) (stuck : Stuck home orderId key b) :
    Stuck home orderId key (respond x c b i).2 := by
  have same := respond_escrows (x := x) (i := i) harmless stuck.there
  obtain ⟨added, rows⟩ := respond_grows (x := x) (b := b) c i (home orderId)
  have kept {txId : String} (spent : ∃ row ∈ (b.ledgers (home orderId)).rows, row.transactionId = txId) :
      ∃ row ∈ ((respond x c b i).2.ledgers (home orderId)).rows, row.transactionId = txId := by
    obtain ⟨row, mem, named⟩ := spent
    refine ⟨row, ?_, named⟩
    rw [rows]
    exact List.mem_append_left _ mem
  obtain ⟨e, mem, own⟩ := stuck.there
  refine ⟨kept stuck.released, kept stuck.refunded, ⟨e, (same e own).mpr mem, own⟩, ?_⟩
  intro e' mem' own'
  exact stuck.held e' ((same e' own').mp mem') own'

theorem transfer_spent {l : SqliteLedger} {txId : String} (d : Ledger.Draw) (source target : String)
    (amount : Int) (memo : String) (named : txId ≠ "") (spent : ∃ row ∈ l.rows, row.transactionId = txId) :
    ∃ err, l.transfer d source target amount memo (some txId) = (.error err, l) := by
  have known : (l.rows.any fun row => row.transactionId = orElse (some txId) d.txUuid) = true := by
    obtain ⟨row, mem, same⟩ := spent
    rw [List.any_eq_true]
    exact ⟨row, mem, decide_eq_true (same.trans (orElse_some named _).symm)⟩
  unfold SqliteLedger.transfer
  dsimp only
  rw [if_pos known]
  split_ifs
  · exact ⟨_, rfl⟩
  · exact ⟨_, rfl⟩
  · exact ⟨_, rfl⟩

/-- What keeps the escrow stuck before every statement and at the end of a program. -/
abbrev KeepsStuck (x : MarketRules) (home : String → Nat) (orderId : String) (key : Key) {α : Type}
    (Q : α → Board → Prop) (p : Program α) (b : Board) : Prop :=
  Keeps (respond x) (fun _ _ _ => True) (Stuck home orderId key) Q
    (fun _ => Stuck home orderId key) p b

theorem keeps_harmless {α : Type} {p : Program α} (harmless : Issues (Harmless key) p)
    (stuck : Stuck home orderId key b) :
    KeepsStuck x home orderId key (fun _ => Stuck home orderId key) p b :=
  harmless.keeps (fun _ _ _ allowed _ now => stuck_respond allowed now) (fun _ now => now) stuck

theorem keeps_ask {c : Cmd} {α : Type} {f : Resp c → Program α} {Q : α → Board → Prop}
    (harmless : Harmless key c) (stuck : Stuck home orderId key b)
    (rest : ∀ i, Stuck home orderId key (respond x c b i).2 →
      KeepsStuck x home orderId key Q (f (respond x c b i).1) (respond x c b i).2) :
    KeepsStuck x home orderId key Q (ask c >>= f) b :=
  ⟨stuck, fun i _ => rest i (stuck_respond harmless stuck)⟩

theorem keeps_ofExcept {α β : Type} {answer : Except PyError α} {f : α → Program β}
    {Q : β → Board → Prop} (stuck : Stuck home orderId key b)
    (rest : ∀ a, answer = .ok a → KeepsStuck x home orderId key Q (f a) b) :
    KeepsStuck x home orderId key Q (Prog.ofExcept answer >>= f) b := by
  cases answer with
  | ok a => exact rest a rfl
  | error e => exact stuck

/-- A payment that was made before raises. -/
theorem keeps_transfer {n : Nat} {source target : String} {amount : Int} {memo txId : String} {α : Type}
    {f : LedgerEntry → Program α} {Q : α → Board → Prop} (named : txId ≠ "")
    (spent : ∃ row ∈ (b.ledgers n).rows, row.transactionId = txId) (stuck : Stuck home orderId key b) :
    KeepsStuck x home orderId key Q (do
      let moved ← ask (.transfer n source target amount memo txId)
      let entry ← Prog.ofExcept moved
      f entry) b := by
  refine keeps_ask trivial stuck fun i after => ?_
  obtain ⟨err, refused⟩ := transfer_spent i.draw source target amount memo named spent
  have answer : (respond x (.transfer n source target amount memo txId) b i).1 = .error err :=
    congrArg Prod.fst refused
  rw [answer]
  exact after

theorem Harmless.of_plain {c : Cmd} (plain : Plain c) : Harmless key c := by
  cases c with
  | updateEscrowStatus other status p => exact plain.elim
  | _ => trivial

theorem getEscrowByOrder_some {ordered tenantId organisationId : String} {e : EscrowAgreement}
    (found : getEscrowByOrder b ordered tenantId organisationId = .ok (some e)) :
    e ∈ b.escrows ∧ e.orderId = ordered := by
  unfold getEscrowByOrder at found
  split_ifs at found
  have taken := Except.ok.inj found
  have holds := List.find?_some taken
  exact ⟨List.mem_of_find?_eq_some taken, (of_decide_eq_true holds).1⟩

/-- The escrow that the checks find is the stuck one only for the stuck order. -/
theorem preflight_keeps (c : SettleCall) (stuck : Stuck home orderId key b) :
    KeepsStuck x home orderId key
      (fun e b => Stuck home orderId key b ∧ (e.key = key → c.order.orderId = orderId))
      (preflight c) b := by
  unfold preflight
  dsimp only
  split_ifs
  · exact stuck
  · exact stuck
  · refine keeps_ask trivial stuck fun i _ => keeps_ofExcept stuck fun found answer => ?_
    split
    · exact stuck
    · rename_i e
      obtain ⟨mem, ordered⟩ := getEscrowByOrder_some (b := b) answer
      split_ifs
      · exact stuck
      · refine keeps_ask trivial stuck fun i _ => ?_
        split_ifs
        · exact stuck
        · exact ⟨stuck, fun own => ordered.symm.trans (stuck.held e mem own).1⟩

theorem releaseTx_ne_empty (orderId : String) : Marketplace.releaseTx orderId ≠ "" :=
  append_ne_empty _ (by decide)

theorem refundTx_ne_empty (orderId : String) : refundTx orderId ≠ "" :=
  append_ne_empty _ (by decide)

/-- A settlement of the stuck order fails at its first payment, any other leaves the escrow alone. -/
theorem settle_keeps (c : SettleCall) (e : EscrowAgreement) (d : WorkDeliverable)
    (r : WorkDeliverableReceipt) (own : c.clientLedger = home c.order.orderId)
    (found : e.key = key → c.order.orderId = orderId) (stuck : Stuck home orderId key b) :
    KeepsStuck x home orderId key (fun _ => Stuck home orderId key) (settle c e d r) b := by
  by_cases ours : c.order.orderId = orderId
  · refine keeps_transfer (releaseTx_ne_empty _) ?_ stuck
    rw [own, ours]
    exact stuck.released
  · exact keeps_harmless (settle_issues c e d r (fun _ => .of_plain)
      (fun _ same => ours (found same)) fun _ => trivial) stuck

theorem executeAndSettle_keeps (c : SettleCall) (own : c.clientLedger = home c.order.orderId)
    (stuck : Stuck home orderId key b) :
    KeepsStuck x home orderId key (fun _ => Stuck home orderId key) (executeAndSettle x c) b := by
  have saving {b : Board} (stuck : Stuck home orderId key b) :
      KeepsStuck x home orderId key (fun _ => Stuck home orderId key) (saveWork c.saves) b :=
    keeps_harmless ((saveWork_issues c.saves).mono fun _ => .of_plain) stuck
  refine (preflight_keeps c stuck).bind ?_
  rintro e b ⟨stuck, found⟩
  refine (saving stuck).bind fun _ b stuck => keeps_ofExcept stuck fun d _ => ?_
  refine (saving stuck).bind fun _ b stuck => (saving stuck).bind fun _ b stuck => ?_
  split_ifs
  · exact stuck
  · exact settle_keeps c e d _ own found stuck

theorem refundEscrow_keeps (c : RefundCall) (own : c.clientLedger = home c.orderId)
    (stuck : Stuck home orderId key b) :
    KeepsStuck x home orderId key (fun _ => Stuck home orderId key) (refundEscrow c) b := by
  refine keeps_ask trivial stuck fun i _ => ?_
  dsimp only
  split
  · exact stuck
  · split_ifs
    · exact stuck
    · refine keeps_ask trivial stuck fun i _ => keeps_ofExcept stuck fun found answer => ?_
      split
      · exact stuck
      · rename_i e
        obtain ⟨mem, ordered⟩ := getEscrowByOrder_some (b := b) answer
        split_ifs
        · exact stuck
        · by_cases ours : c.orderId = orderId
          · refine keeps_transfer (refundTx_ne_empty _) ?_ stuck
            show ∃ row ∈ (b.ledgers c.clientLedger).rows, _
            rw [own, ours]
            exact stuck.refunded
          · have other : e.key ≠ key := fun same => ours (ordered.symm.trans (stuck.held e mem same).1)
            refine keeps_ask trivial stuck fun i stuck => keeps_ofExcept stuck fun _ _ => ?_
            refine keeps_ask other stuck fun i stuck => keeps_ask trivial stuck fun i stuck => ?_
            refine keeps_ask trivial stuck fun i stuck => keeps_ofExcept stuck fun found _ => ?_
            split
            · exact stuck
            · exact stuck

variable {m : Manager} {d : Database}

theorem cut_stuck {α : Type} {p : Program α}
    (kept : KeepsStuck x home orderId key (fun _ => Stuck home orderId key) p b) (inputs : List Input) :
    Stuck home orderId key (advance (respond x) inputs p b).2 :=
  kept.advance (fun _ _ now => now) (fun _ _ now => now) inputs (.always _ (fun _ _ _ => trivial) ..)

theorem keeps_ignore {α : Type} {p : Program α}
    (kept : KeepsStuck x home orderId key (fun _ => Stuck home orderId key) p b) :
    KeepsStuck x home orderId key (fun _ => Stuck home orderId key) p.ignore b :=
  Keeps.bind kept fun _ _ now => now

/-- A call on the order's own ledger, cut anywhere, leaves the escrow stuck. -/
theorem step_stuck {step : Step} (own : step.OwnLedger home) (stuck : Stuck home orderId key d.board) :
    Stuck home orderId key (step.run m x d).board := by
  cases step with
  | manage c inputs => exact stuck
  | publish c inputs =>
    exact cut_stuck (keeps_harmless (publishB2bOrder_issues x c (fun _ => .of_plain) trivial) stuck)
      inputs
  | trade c inputs =>
    cases c with
    | claim c =>
      have harmless : Issues (Harmless key) (discoverAndClaim x c) :=
        (discoverAndClaim_issues x c).mono fun _ => .of_plain
      exact cut_stuck (keeps_ignore (keeps_harmless harmless stuck)) inputs
    | settle c => exact cut_stuck (keeps_ignore (executeAndSettle_keeps c own stuck)) inputs
    | refund c => exact cut_stuck (keeps_ignore (refundEscrow_keeps c own stuck)) inputs

/-- No later calls settle an escrow whose release and refund are both spent. -/
theorem unsettleable_of_stuck {e : EscrowAgreement} (stuck : Stuck home orderId e.key d.board) :
    Unsettleable m x home d e := by
  intro steps own
  have after : Stuck home orderId e.key (runAll m x d steps).board := by
    induction steps generalizing d with
    | nil => exact stuck
    | cons step steps ih =>
      obtain ⟨first, rest⟩ := List.forall_mem_cons.mp own
      exact ih (step_stuck first stuck) rest
  obtain ⟨e', mem, same⟩ := after.there
  exact ⟨e', mem, same, (after.held e' mem same).2⟩

end Stuck

section Samples
open CapabilityGrants PolicyEngine
open MarketplaceClaims (marketRules sampleGrant claiming turnOf)

/-- A client with a treasury and a provider whose worker has the capability; nothing has happened. -/
def opening : Database where
  world := ExactlyOnce.funded
  board :=
    { orders := []
      escrows := []
      capabilities := ⟨["t"], ["client", "provider"], [sampleGrant "provider"]⟩
      events := []
      ledgers := fun _ => ⟨[⟨"e1", 1, "mint-1", systemMint, treasury, 1000, "", defaultTenant⟩]⟩
      reconciled := fun _ => [] }

def publishing (id : String) : PublishCall where
  clientTenantId := "t"
  clientOrgId := "client"
  title := "Calibration"
  description := "Calibrate the surface"
  requiredCapability := "ADVANCED_ANALYTICS"
  bountyAmount := 30
  clientLedger := 0
  policyEngine := sampleManager.policyEngine
  clientAgent :=
    { id := "buyer"
      status := .active
      allowedActionTypes := [.publishMarketplaceOrder]
      authorityCeiling := 30
      role := .researcher
      performanceScore := .finite 90 }
  clientOrg := ⟨"client", "t", 100, .planning, []⟩
  paused := false
  specificationHash := TokenBinding.zeros
  draw := ⟨.finite 0, "d", "n"⟩
  order := id
  proposal := id
  task := id
  escrow := id
  now := newYear.isoformat

def workOf (id : String) : SettleCall where
  order := (publishing id).marketplaceOrder.claim
    ⟨"t", "provider", "worker", s!"wo-b2b-mkt-order-{id}"⟩ newYear.isoformat
  providerTenantId := "t"
  providerOrgId := "provider"
  producerAgentId := "worker"
  work := .ok
    { deliverableId := "deliverable"
      workOrderId := s!"wo-b2b-mkt-order-{id}"
      producerAgentId := "worker"
      contentPayload := .dict [("deliverable_type", .str "B2B_DELIVERABLE")]
      contentHash := TokenBinding.zeros
      orbioCreditsConsumed := 1
      executionTelemetry := [] }
  workVerifier := ⟨"DeterministicClientVerifier", "k"⟩
  receiptId := "receipt"
  clientLedger := 0
  providerLedger := 1
  surplusReconciler := ⟨.finite (1 / 5), "k", false⟩
  reconciler := 0
  reconcilerLedger := 1
  saves := false

def inputsOf (ids : List String) : List Input := ids.map fun id => (turnOf 0 id).2

/-- An operation is stopped once it is escrowed. Of two orders the first is claimed, and its refund
and then its settlement are stopped after their payment. -/
def crashed : List Step :=
  [.manage ExactlyOnce.otherEscrowed.1 ExactlyOnce.otherEscrowed.2,
    .publish (publishing "a") (inputsOf ["a", "b", "c", "d"]),
    .trade (claiming "provider") (inputsOf ["e", "f", "g", "h", "i"]),
    .publish (publishing "b") (inputsOf ["j", "k", "l", "m"]),
    .trade (.refund ⟨"t", "client", "mkt-order-a", 0, "Order cancelled or expired"⟩)
      (inputsOf ["n", "o", "p"]),
    .trade (.settle (workOf "a")) (inputsOf ["q", "r", "s"])]

def left : Database := runAll ExactlyOnce.manager marketRules opening crashed

end Samples

end RecoveryScans
