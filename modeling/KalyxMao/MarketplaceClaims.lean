import KalyxMao.Marketplace

/-!
# Who holds an order of the marketplace

Providers that claim and settle and a client that takes its escrow back run
their statements in any order. A claim is won at most once and its holder stays;
whether an order that is completed also stays so depends on the refund that read
it before.
-/

namespace MarketplaceClaims
open PythonText EffectPrograms EffectPrograms.Prog ProgramPools KeyedLists Marketplace

section Model
variable (x : MarketRules)

inductive MarketCall where
  | claim (c : ClaimCall)
  | settle (c : SettleCall)
  | refund (c : RefundCall)

def MarketCall.program : MarketCall → Program Unit
  | .claim c => (discoverAndClaim x c).ignore
  | .settle c => (executeAndSettle x c).ignore
  | .refund c => (refundEscrow c).ignore

/-- The commands that leave it at completing and cancelling orders, and create none. -/
def Routine : Cmd → Prop
  | .createOrder _ => False
  | .updateOrderStatus _ status _ => status = .completed ∨ status = .cancelled
  | _ => True

abbrev protocol : Protocol Cmd Resp Unit := .only Routine Resp

def calling (calls : List MarketCall) : Pool Cmd Resp PyError Unit Unit :=
  calls.map fun call => ⟨(), call.program x⟩

/-- The board after a schedule of the calls' statements. -/
def after (calls : List MarketCall) (b : Board) (schedule : List (Nat × Input)) : Board :=
  (interleave (respond x) protocol schedule (calling x calls) b).2

def statements (calls : List MarketCall) (b : Board) (schedule : List (Nat × Input)) :
    List ((c : Cmd) × Resp c) :=
  trace (respond x) protocol schedule (calling x calls) b

/-- A `claim_order` on the order that returned true. -/
def wins (k : Key) : (c : Cmd) × Resp c → Bool
  | ⟨.claimOrder key _, won⟩ => key = k && won
  | _ => false

end Model

section Property
variable (x : MarketRules) (calls : List MarketCall) (b : Board) (schedule : List (Nat × Input))
  (k : Key)

def claimant (o : MarketplaceOrder) : Option String × Option String × Option String :=
  (o.claimedByTenantId, o.claimedByOrgId, o.claimedByAgentId)

/-- What an order may have become later on. -/
structure Later (o o' : MarketplaceOrder) : Prop where
  held : o.status ≠ .open → claimant o' = claimant o
  left : o.status ≠ .open → o'.status ≠ .open
  reclaimed : o.status ≠ .open → o'.status = .claimed → o.status = .claimed
  cancelled : o.status = .completed → o'.status ≠ .cancelled

/-- One caller at most wins the order, and of two moments of a run the later one shows a lawful
successor of what the earlier one shows. -/
structure Exclusive : Prop where
  once : ((statements x calls b schedule).filter (wins k)).length ≤ 1
  later : ∀ first next rest, schedule = first ++ (next ++ rest) →
    ∀ o o', getOrder (after x calls b first) k = some o →
      getOrder (after x calls b (first ++ next)) k = some o' → Later o o'

/-- Cancelling finds the order not completed in the meantime. -/
def Current (k : Key) : Cmd → Board → Prop
  | .updateOrderStatus key .cancelled _, b =>
    key = k → ∀ o ∈ getOrder b k, o.status ≠ .completed
  | _, _ => True

instance (k : Key) (c : Cmd) (b : Board) : Decidable (Current k c b) := by
  unfold Current
  split
  · infer_instance
  · infer_instance

end Property

section Programs
variable (x : MarketRules)

theorem Routine.of_plain {c : Cmd} (plain : Plain c) : Routine c := by
  cases c with
  | createOrder o => exact plain.elim
  | updateOrderStatus key status deliverableId => exact plain.elim
  | _ => trivial

theorem calling_disciplined (calls : List MarketCall) : Disciplined protocol (calling x calls) := by
  intro t mem
  obtain ⟨call, -, rfl⟩ := List.mem_map.mp mem
  have issues : Issues Routine (call.program x) := by
    cases call with
    | claim c => exact ((discoverAndClaim_issues x c).mono fun _ => .of_plain).bind fun _ => trivial
    | settle c =>
      refine (executeAndSettle_issues x c (fun _ => .of_plain) (fun _ _ => trivial) ?_).bind
        fun _ => trivial
      exact fun _ => .inl rfl
    | refund c =>
      refine (refundEscrow_issues c (fun _ => .of_plain) (fun _ => trivial) ?_).bind fun _ => trivial
      exact fun _ => .inr rfl
  exact .of_issues issues

end Programs

section Steps
variable {x : MarketRules} {b : Board} {k : Key} {c : Cmd} {i : Input}

/-- What a statement does to the order under a key, and whether it is a claim that is won. -/
inductive Moves (k : Key) : Cmd → MarketplaceOrder → MarketplaceOrder → Bool → Prop
  | still {c : Cmd} (o : MarketplaceOrder) : Moves k c o o false
  | claim {o : MarketplaceOrder} (claim : Claim) (now : String) (free : o.status = .open) :
      Moves k (.claimOrder k claim) o (o.claim claim now) true
  | update (o : MarketplaceOrder) (status : MarketplaceOrderStatus) (deliverableId : Option String)
      (now : String) : Moves k (.updateOrderStatus k status deliverableId) o
        (o.update status deliverableId now) false

/-- The statements that do not write an order. -/
def Apart : Cmd → Prop
  | .createOrder _ => False
  | .claimOrder .. => False
  | .updateOrderStatus .. => False
  | _ => True

theorem respond_orders (apart : Apart c) : (respond x c b i).2.orders = b.orders := by
  cases c with
  | createOrder o => exact apart.elim
  | claimOrder key claim => exact apart.elim
  | updateOrderStatus key status deliverableId => exact apart.elim
  | saveEscrow e =>
    rcases saveEscrow_cases b e with ⟨answer, same⟩ | ⟨-, added⟩
    · exact congrArg (fun answer => answer.2.orders) same
    · exact congrArg (fun answer => answer.2.orders) added
  | saveRevenueEvent s =>
    rcases saveRevenueEvent_cases b s with ⟨answer, same⟩ | added
    · exact congrArg (fun answer => answer.2.orders) same
    · exact congrArg (fun answer => answer.2.orders) added
  | reconcileSurplus n ledger k w receipt gross expense credits =>
    obtain ⟨reconciled, written⟩ := reconcile_writes (x := x) (b := b) i
    rw [written]
    rfl
  | _ => rfl

theorem any_open {orders : List MarketplaceOrder} (keys : (orders.map MarketplaceOrder.key).Nodup)
    (k : Key) : orders.any (fun o => o.key = k ∧ o.status = .open) = true ↔
      ∃ o, lookupBy MarketplaceOrder.key orders k = some o ∧ o.status = .open := by
  rw [List.any_eq_true]
  constructor
  · rintro ⟨o, mem, holds⟩
    obtain ⟨rfl, free⟩ := of_decide_eq_true holds
    exact ⟨o, lookupBy_of_mem keys mem, free⟩
  · rintro ⟨o, found, free⟩
    obtain ⟨mem, key⟩ := lookupBy_some found
    exact ⟨o, mem, decide_eq_true ⟨key, free⟩⟩

theorem respond_keys (routine : Routine c) :
    (respond x c b i).2.orders.map MarketplaceOrder.key = b.orders.map MarketplaceOrder.key := by
  cases c with
  | createOrder o => exact routine.elim
  | claimOrder key claim =>
    show (b.orders.map _).map _ = _
    rw [List.map_map]
    refine List.map_congr_left fun o _ => ?_
    show MarketplaceOrder.key (if _ then _ else o) = o.key
    split_ifs
    · rfl
    · rfl
  | updateOrderStatus key status deliverableId =>
    show (b.orders.map _).map _ = _
    rw [List.map_map]
    refine List.map_congr_left fun o _ => ?_
    show MarketplaceOrder.key (if _ then _ else o) = o.key
    split_ifs
    · rfl
    · rfl
  | _ => exact congrArg _ (respond_orders trivial)

/-- The row that an unconditional update leaves under its key. -/
theorem updated_order {key : Key} {status : MarketplaceOrderStatus} {deliverableId : Option String}
    {o : MarketplaceOrder} (there : getOrder b key = some o) :
    getOrder (respond x (.updateOrderStatus key status deliverableId) b i).2 key =
      some (o.update status deliverableId i.moment.isoformat) := by
  have own : o.key = key := (lookupBy_some there).2
  have found : getOrder (respond x (.updateOrderStatus key status deliverableId) b i).2 key =
      (getOrder b key).map fun o =>
        if o.key = key then o.update status deliverableId i.moment.isoformat else o :=
    lookupBy_map fun o => by split_ifs <;> rfl
  rw [found, there, Option.map_some, if_pos own]

/-- The order under a key is absent before and after a statement, or moves. -/
theorem order_step (routine : Routine c) (keys : (b.orders.map MarketplaceOrder.key).Nodup) :
    (getOrder b k = none ∧ getOrder (respond x c b i).2 k = none ∧
      wins k ⟨c, (respond x c b i).1⟩ = false) ∨
    ∃ o o', getOrder b k = some o ∧ getOrder (respond x c b i).2 k = some o' ∧
      Moves k c o o' (wins k ⟨c, (respond x c b i).1⟩) := by
  have untouched (same : getOrder (respond x c b i).2 k = getOrder b k)
      (lost : wins k ⟨c, (respond x c b i).1⟩ = false) :
      (getOrder b k = none ∧ getOrder (respond x c b i).2 k = none ∧
        wins k ⟨c, (respond x c b i).1⟩ = false) ∨
      ∃ o o', getOrder b k = some o ∧ getOrder (respond x c b i).2 k = some o' ∧
        Moves k c o o' (wins k ⟨c, (respond x c b i).1⟩) := by
    rw [same, lost]
    cases getOrder b k with
    | none => exact .inl ⟨rfl, rfl, rfl⟩
    | some o => exact .inr ⟨o, o, rfl, rfl, .still o⟩
  cases c with
  | createOrder o => exact routine.elim
  | claimOrder key claim =>
    have found : getOrder (respond x (.claimOrder key claim) b i).2 k = (getOrder b k).map fun o =>
        if o.key = key ∧ o.status = .open then o.claim claim i.moment.isoformat else o :=
      lookupBy_map fun o => by split_ifs <;> rfl
    have won : wins k ⟨.claimOrder key claim, (respond x (.claimOrder key claim) b i).1⟩ =
        (decide (key = k) && b.orders.any fun o => o.key = key ∧ o.status = .open) := rfl
    by_cases here : key = k
    · subst here
      rw [won, found, decide_eq_true rfl, Bool.true_and]
      cases there : getOrder b key with
      | none =>
        refine .inl ⟨rfl, rfl, ?_⟩
        rw [Bool.eq_false_iff]
        intro some_
        obtain ⟨o, taken, -⟩ := (any_open keys key).mp some_
        cases there.symm.trans taken
      | some o =>
        have own : o.key = key := (lookupBy_some there).2
        refine .inr ⟨o, _, rfl, rfl, ?_⟩
        dsimp only
        by_cases free : o.status = .open
        · rw [if_pos ⟨own, free⟩, (any_open keys key).mpr ⟨o, there, free⟩]
          exact .claim claim _ free
        · have none_ : b.orders.any (fun o => o.key = key ∧ o.status = .open) = false := by
            rw [Bool.eq_false_iff]
            intro some_
            obtain ⟨o', taken, free'⟩ := (any_open keys key).mp some_
            obtain rfl := Option.some.inj (there.symm.trans taken)
            exact free free'
          rw [if_neg fun both => free both.2, none_]
          exact .still o
    · refine untouched ?_ ?_
      · rw [found]
        cases there : getOrder b k with
        | none => rfl
        | some o =>
          have own : o.key = k := (lookupBy_some there).2
          rw [Option.map_some, if_neg fun both => here (both.1.symm.trans own)]
      · rw [won, decide_eq_false here, Bool.false_and]
  | updateOrderStatus key status deliverableId =>
    have found : getOrder (respond x (.updateOrderStatus key status deliverableId) b i).2 k =
        (getOrder b k).map fun o =>
          if o.key = key then o.update status deliverableId i.moment.isoformat else o :=
      lookupBy_map fun o => by split_ifs <;> rfl
    cases there : getOrder b k with
    | none =>
      rw [found, there]
      exact .inl ⟨rfl, rfl, rfl⟩
    | some o =>
      have own : o.key = k := (lookupBy_some there).2
      rw [found, there]
      refine .inr ⟨o, _, rfl, rfl, ?_⟩
      dsimp only
      by_cases here : key = k
      · subst here
        rw [if_pos own]
        exact .update o status deliverableId _
      · rw [if_neg fun same => here (same.symm.trans own)]
        exact .still o
  | _ => exact untouched (congrArg (lookupBy MarketplaceOrder.key · k) (respond_orders trivial)) rfl

end Steps

section Runs
variable {x : MarketRules} {b : Board} {k : Key}

/-- What a statement that finds its condition met, and so a run, makes of an order. -/
structure Advance (o o' : MarketplaceOrder) : Prop where
  held : o.status ≠ .open → claimant o' = claimant o
  left : o.status ≠ .open → o'.status ≠ .open
  reclaimed : o.status ≠ .open → o'.status = .claimed → o.status = .claimed
  completed : o.status = .completed → o'.status = .completed

theorem Advance.refl (o : MarketplaceOrder) : Advance o o := ⟨fun _ => rfl, id, fun _ => id, id⟩

theorem Advance.trans {o o' o'' : MarketplaceOrder} (first : Advance o o') (next : Advance o' o'') :
    Advance o o'' where
  held left := (next.held (first.left left)).trans (first.held left)
  left left := next.left (first.left left)
  reclaimed left claimed := first.reclaimed left (next.reclaimed (first.left left) claimed)
  completed done := next.completed (first.completed done)

theorem Advance.later {o o' : MarketplaceOrder} (advance : Advance o o') : Later o o' where
  held := advance.held
  left := advance.left
  reclaimed := advance.reclaimed
  cancelled done := by
    rw [advance.completed done]
    decide

theorem Moves.advance {c : Cmd} {o o' : MarketplaceOrder} {won : Bool} (moves : Moves k c o o' won)
    (routine : Routine c) (there : getOrder b k = some o) (current : Current k c b) :
    Advance o o' := by
  cases moves with
  | still => exact .refl o
  | claim claim now free =>
    refine ⟨fun left => absurd free left, fun left => absurd free left, fun left => absurd free left, ?_⟩
    intro done
    cases free.symm.trans done
  | update _ status deliverableId now =>
    rcases routine with rfl | rfl
    · exact ⟨fun _ => rfl, fun _ => MarketplaceOrderStatus.noConfusion,
        fun _ claimed => MarketplaceOrderStatus.noConfusion claimed, fun _ => rfl⟩
    · exact ⟨fun _ => rfl, fun _ => MarketplaceOrderStatus.noConfusion,
        fun _ claimed => MarketplaceOrderStatus.noConfusion claimed,
        fun done => absurd done (current rfl o there)⟩

/-- An order that is on a board advances to one on a later board. -/
def Advances (k : Key) (b b' : Board) : Prop :=
  ∀ o, getOrder b k = some o → ∃ o', getOrder b' k = some o' ∧ Advance o o'

theorem respond_advances {c : Cmd} {i : Input} (routine : Routine c)
    (keys : (b.orders.map MarketplaceOrder.key).Nodup) (current : Current k c b) :
    Advances k b (respond x c b i).2 := by
  intro o there
  rcases order_step routine keys with ⟨missing, -, -⟩ | ⟨o₁, o', found, later, moves⟩
  · cases missing.symm.trans there
  · obtain rfl := Option.some.inj (found.symm.trans there)
    exact ⟨o', later, moves.advance routine there current⟩

/-- A run in which cancelling finds the order as it was read advances every order. -/
theorem run_advances {pool : Pool Cmd Resp PyError Unit Unit} {schedule : List (Nat × Input)}
    (disciplined : Disciplined protocol pool) (keys : (b.orders.map MarketplaceOrder.key).Nodup)
    (respects : Respects (respond x) protocol (fun _ => Current k) schedule pool b) :
    ((interleave (respond x) protocol schedule pool b).2.orders.map MarketplaceOrder.key).Nodup ∧
      Advances k b (interleave (respond x) protocol schedule pool b).2 := by
  refine interleave_relates (A := fun b => (b.orders.map MarketplaceOrder.key).Nodup) ?_ ?_ ?_
    schedule disciplined keys respects
  · intro b o there
    exact ⟨o, there, .refl o⟩
  · intro b b' b'' first next o there
    obtain ⟨o', found, advance⟩ := first o there
    obtain ⟨o'', found', advance'⟩ := next o' found
    exact ⟨o'', found', advance.trans advance'⟩
  · intro b g c i routine current keys
    refine ⟨?_, respond_advances routine keys current⟩
    rw [respond_keys routine]
    exact keys

/-- What is left to win: the order is open or it is not. -/
theorem wins_le {pool : Pool Cmd Resp PyError Unit Unit} (schedule : List (Nat × Input))
    (disciplined : Disciplined protocol pool) (keys : (b.orders.map MarketplaceOrder.key).Nodup) :
    ((trace (respond x) protocol schedule pool b).filter (wins k)).length ≤
      if (getOrder b k).map MarketplaceOrder.status = some .open then 1 else 0 := by
  induction schedule generalizing pool b with
  | nil => exact Nat.zero_le _
  | cons t schedule ih =>
    obtain ⟨n, i⟩ := t
    rw [trace]
    rcases issued_cases (h := respond x) (P := protocol) n i pool b with
      ⟨none_, still⟩ | ⟨g, c, next, at_, some_, moved⟩
    · rw [none_, still]
      exact ih disciplined keys
    · have routine : Routine c := (disciplined _ (List.mem_of_getElem? at_)).1
      have rest := ih (disciplined_turn (h := respond x) (n := n) (i := i) (w := b) disciplined)
        (b := (turn (respond x) protocol n i pool b).2) (by rw [moved, respond_keys routine]; exact keys)
      rw [some_, Option.toList_some, List.singleton_append, List.filter_cons]
      rw [moved] at rest ⊢
      rcases order_step (x := x) (k := k) (i := i) routine keys with
        ⟨missing, later, lost⟩ | ⟨o, o', found, later, moves⟩
      · rw [lost, missing]
        rw [later] at rest
        exact rest
      · rw [later] at rest
        rw [found]
        generalize wins k ⟨c, (respond x c b i).1⟩ = won at moves ⊢
        cases moves with
        | still => exact rest
        | claim claim now free =>
          have closed : (some (o.claim claim now)).map MarketplaceOrder.status ≠ some .open := by
            simp [MarketplaceOrder.claim]
          have free : (some o).map MarketplaceOrder.status = some .open := congrArg some free
          rw [if_neg closed] at rest
          rw [if_pos free, if_pos rfl, List.length_cons]
          omega
        | update _ status deliverableId now =>
          have closed : (some (o.update status deliverableId now)).map MarketplaceOrder.status ≠
              some .open := by
            rcases routine with rfl | rfl
            · simp [MarketplaceOrder.update]
            · simp [MarketplaceOrder.update]
          rw [if_neg closed] at rest
          exact rest.trans (Nat.zero_le _)

/-- The order is won once at most and its holder stays, and a completed order is not cancelled, in
exactly the runs whose cancellations find it not completed. -/
theorem exclusive_iff (x : MarketRules) (calls : List MarketCall) (b : Board) (k : Key)
    (keys : (b.orders.map MarketplaceOrder.key).Nodup) (schedule : List (Nat × Input)) :
    Exclusive x calls b schedule k ↔
      Respects (respond x) protocol (fun _ => Current k) schedule (calling x calls) b := by
  have disciplined := calling_disciplined x calls
  constructor
  · intro exclusive
    refine (respects_iff schedule).mpr ?_
    rintro first ⟨n, i⟩ rest rfl
    unfold Admits
    split
    · rename_i g c next at_
      show Current k c (after x calls b first)
      unfold Current
      split
      · rename_i c' b' key deliverableId
        rintro rfl o there done
        have turned : after x calls b (first ++ [(n, i)]) =
            (respond x (.updateOrderStatus key .cancelled deliverableId) (after x calls b first) i).2 := by
          unfold after
          rw [interleave_append, interleave, interleave]
          unfold turn
          rw [at_]
        have later := exclusive.later first [(n, i)] rest rfl o _ there (by rw [turned]; exact updated_order there)
        exact later.cancelled done rfl
      · trivial
    · trivial
  · intro respects
    refine ⟨?_, ?_⟩
    · refine (wins_le schedule disciplined keys).trans ?_
      split_ifs
      · exact le_refl 1
      · exact Nat.zero_le 1
    · rintro first next rest rfl o o' there found
      obtain ⟨begun, later⟩ := respects_append respects
      have start := (run_advances disciplined keys begun).1
      obtain ⟨-, advances⟩ := run_advances (disciplined_interleave first disciplined) start
        (respects_append later).1
      unfold after at found
      rw [interleave_append] at found
      obtain ⟨o'', taken, advance⟩ := advances o there
      obtain rfl := Option.some.inj (taken.symm.trans found)
      exact advance.later

end Runs

section Samples
open Ledger SqlLedgers WorkOrders SurplusAccounting CapabilityGrants PolicyEngine

def marketRules : MarketRules where
  tokens := versionRules
  text := plainText
  surplus :=
    { reprFloat := TokenBinding.printFloat
      sha256 := fun _ => TokenBinding.zeros
      hmac := fun _ _ => TokenBinding.zeros
      text := plainText.toTextRules
      floorTimes := fun n ratio => match ratio with
        | .finite q => .ok (Rat.floor (n * q))
        | _ => .error ⟨.overflowError, "cannot convert float infinity to integer"⟩ }
  plusDays := fromNewYear
  notExpired expiry _ := expiry = weekLater.isoformat

def sampleOrder : MarketplaceOrder where
  tenantId := "t"
  organisationId := "client"
  orderId := "order"
  title := "Calibration"
  description := "Calibrate the surface"
  specificationHash := TokenBinding.zeros
  requiredCapability := "ADVANCED_ANALYTICS"
  bountyAmount := 300
  createdAt := "2024-01-01T00:00:00+00:00"

def sampleEscrow : EscrowAgreement where
  tenantId := "t"
  organisationId := "client"
  escrowId := "escrow"
  orderId := "order"
  clientTenantId := "t"
  clientOrgId := "client"
  bountyAmount := 300
  createdAt := "2024-01-01T00:00:00+00:00"

def sampleGrant (organisationId : String) : CapabilityGrant where
  tenantId := "t"
  organisationId := organisationId
  grantId := "grant"
  agentId := "worker"
  capabilityName := "ADVANCED_ANALYTICS"
  permissionLevel := "EXECUTE_ADVANCED"
  triggerPerformanceScore := .finite 90
  grantedByPolicyId := capabilityPolicyId
  status := .active
  grantedAt := newYear.isoformat
  expiresAt := weekLater.isoformat

/-- The client holds the bounties of this order and of another one in escrow. -/
def clientLedger : SqliteLedger :=
  ⟨[⟨"e1", 1, "mint-1", systemMint, treasury, 1000, "", defaultTenant⟩,
    ⟨"e2", 2, "escrow-lock-order", treasury, Ledger.escrow, 300, "", defaultTenant⟩,
    ⟨"e3", 3, "escrow-lock-other", treasury, Ledger.escrow, 300, "", defaultTenant⟩]⟩

def openBoard : Board where
  orders := [sampleOrder]
  escrows := [sampleEscrow]
  capabilities := ⟨["t"], ["client", "provider", "rival"], [sampleGrant "provider", sampleGrant "rival"]⟩
  events := []
  ledgers n := if n = 0 then clientLedger else ⟨[]⟩
  reconciled _ := []

/-- The worker of a provider claims the order. -/
def claiming (providerOrgId : String) : MarketCall := .claim
  { providerTenantId := "t"
    providerOrgId := providerOrgId
    providerAgent := worker .active
    providerOrg := (sampleWorld .active).organisation
    capabilityManager := sampleManager
    targetOrderId := none
    paused := false
    draw := sampleCall.draw }

/-- The provider settles the order that it was answered when it claimed it. -/
def settling : MarketCall := .settle
  { order := sampleOrder.claim ⟨"t", "provider", "worker", "wo-b2b-order"⟩ newYear.isoformat
    providerTenantId := "t"
    providerOrgId := "provider"
    producerAgentId := "worker"
    work := .ok
      { deliverableId := "deliverable"
        workOrderId := "wo-b2b-order"
        producerAgentId := "worker"
        contentPayload := .dict [("deliverable_type", .str "B2B_DELIVERABLE")]
        contentHash := TokenBinding.zeros
        orbioCreditsConsumed := 1
        executionTelemetry := [] }
    workVerifier := ⟨"DeterministicClientVerifier", "k"⟩
    receiptId := "receipt"
    clientLedger := 0
    providerLedger := 1
    surplusReconciler := ⟨.finite (1 / 5), "k", false⟩
    reconciler := 0
    reconcilerLedger := 1
    saves := false }

def refunding : MarketCall := .refund ⟨"t", "client", "order", 0, "Order cancelled or expired"⟩

/-- A turn of a call with the identifiers it draws. -/
def turnOf (n : Nat) (id : String) : Nat × Input :=
  (n, { draw := ⟨id, id, 4⟩
        settlement :=
          { deposit := ⟨id, id ++ "a", 4⟩
            cost := ⟨id, id ++ "b", 4⟩
            reserve := ⟨id, id ++ "c", 4⟩
            mission := ⟨id, id ++ "d", 4⟩
            txGroup := id
            eventUuid := id
            stored := .ok false }
        moment := newYear
        saved := .ok () })

def turnsOf (n : Nat) (ids : List String) : List (Nat × Input) := ids.map (turnOf n)

/-- Two providers look for the order before either claims it. -/
theorem rivals_exclusive : Exclusive marketRules [claiming "provider", claiming "rival"] openBoard
    (turnsOf 0 ["a", "b", "c"] ++ turnsOf 1 ["d", "e", "f", "g", "h"] ++ turnsOf 0 ["i"])
    sampleOrder.key :=
  (exclusive_iff marketRules _ openBoard sampleOrder.key (by decide) _).mpr (by decide +kernel)

/-- The order is claimed, the client reads it and its escrow, and the provider settles it. -/
def settled : List (Nat × Input) :=
  turnsOf 0 ["a", "b", "c", "d", "e"] ++ turnsOf 2 ["f", "g"] ++
    turnsOf 1 ["h", "i", "j", "k", "l", "m", "n"]

/-- A refund that had read the order before it was settled cancels it all the same. -/
theorem completed_order_cancelled : ¬Exclusive marketRules [claiming "provider", settling, refunding]
    openBoard (settled ++ (turnsOf 2 ["o", "p", "q"] ++ [])) sampleOrder.key := by
  intro exclusive
  have found (schedule : List (Nat × Input)) (status : MarketplaceOrderStatus)
      (reached : (getOrder (after marketRules [claiming "provider", settling, refunding] openBoard
        schedule) sampleOrder.key).map MarketplaceOrder.status = some status) :
      ∃ o, getOrder (after marketRules [claiming "provider", settling, refunding] openBoard schedule)
        sampleOrder.key = some o ∧ o.status = status := Option.map_eq_some_iff.mp reached
  obtain ⟨o, there, completed⟩ := found settled .completed (by decide +kernel)
  obtain ⟨o', later, cancelled⟩ := found (settled ++ turnsOf 2 ["o", "p", "q"]) .cancelled
    (by decide +kernel)
  exact (exclusive.later settled _ [] rfl o o' there later).cancelled completed cancelled

end Samples

end MarketplaceClaims
