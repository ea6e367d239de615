import KalyxMao.DaemonCycles

/-!
# How often an order is worked on

A cycle takes an order off the proposals before its mission starts, so whatever
stops it, no later cycle takes the order again unless it is posted or handed in again.
-/

namespace DaemonRuns
open PythonText EffectPrograms DaemonCycles
open PurchaseLoop (Loop LoopSettings)
open MissionRevenue (Runner MissionExecutionResult SolvencyRegime deriveSolvencyRegime)
open AcquisitionCosts (UnitEconomicsEvaluation)
open WorkOrders (WorkOrderStatus)
open WorkOrderRepository (WorkOrder WorkOrderRow Key statusValue)

section Counting

def worked (key : Key) (w : World) : Nat := w.missions.countP fun m => m.key = key

/-- The missions of an order and a proposal of it come to no more than a number. -/
def Counted (limit : Nat) (key : Key) (w : World) : Prop :=
  worked key w + (proposed key w.orders).toNat ≤ limit

/-- The order is among those given. -/
def among (key : Key) (orders : List WorkOrder) : Bool := orders.any fun w => w.key = key

/-- How often an event asks for work on an order. -/
def asks (k : Setup) (key : Key) : Event → Nat
  | .start _ => 0
  | .cycles _ maxCycles batches _ => (batches.take maxCycles).countP (among key)
  | .post w _ => if w.key = key then 1 else 0
  | .execute _ id _ => if ⟨k.tenantId, k.organisationId, id⟩ = key then 1 else 0

/-- How often an order was posted, handed in or asked for by name. -/
def asked (k : Setup) (key : Key) (events : List Event) : Nat := (events.map (asks k key)).sum

end Counting

section Steps
variable {r : DaemonRules} {k : Setup} {runners : Nat → Runner} {key : Key} {limit : Nat}
  {w w' : World} {i : Input}

theorem Counted.mono {more : Nat} (counted : Counted limit key w) (le : limit ≤ more) :
    Counted more key w := Nat.le_trans counted le

theorem Counted.same (counted : Counted limit key w) (orders : w'.orders = w.orders)
    (missions : w'.missions = w.missions) : Counted limit key w' := by
  rw [Counted, worked, orders, missions]
  exact counted

/-- The order is counted, and a mission of it is still open. -/
structure Ready (limit : Nat) (key : Key) (mine : Bool) (w : World) : Prop where
  counted : Counted limit key w
  room : mine = true → worked key w + 1 ≤ limit

theorem Ready.same {mine : Bool} (ready : Ready limit key mine w) (orders : w'.orders = w.orders)
    (missions : w'.missions = w.missions) : Ready limit key mine w' := by
  refine ⟨ready.counted.same orders missions, ?_⟩
  rw [worked, missions]
  exact ready.room

/-- No condition on the inputs. -/
abbrev Always (_ : Command) (_ : World) (_ : Input) : Prop := True

/-- Quiet commands keep the count. -/
theorem quiet_keeps {α : Type} {p : Program α} {limit' : Nat} {mine : Bool} (quiet : Issues Quiet p)
    (ready : Ready limit key mine w) (le : limit ≤ limit') :
    Keeps (respond r k runners) Always (Counted limit' key) (fun _ => Ready limit key mine)
      (fun _ => Counted limit' key) p w := by
  refine Keeps.weaken ?_ fun _ _ (ready : Ready limit key mine _) => ready.counted.mono le
  refine quiet.keeps ?_ (fun _ ready => ready.counted.mono le) ready
  intro c w i quiet _ ready
  obtain ⟨orders, missions⟩ := quiet_command quiet
  exact ready.same orders missions

theorem quiet_counted {α : Type} {p : Program α} {limit' : Nat} (quiet : Issues Quiet p)
    (counted : Counted limit key w) (le : limit ≤ limit') :
    Keeps (respond r k runners) Always (Counted limit' key) (fun _ => Counted limit key)
      (fun _ => Counted limit' key) p w := by
  have ready : Ready limit key false w := ⟨counted, fun absent => absurd absent Bool.false_ne_true⟩
  exact (quiet_keeps quiet ready le).mono fun _ _ ready => ready.counted

theorem ofExcept_keeps {α : Type} {x : Except PyError α} {J : World → Prop} (now : J w)
    (counted : Counted limit key w) :
    Keeps (respond r k runners) Always (Counted limit key) (fun _ => J)
      (fun _ => Counted limit key) (Prog.ofExcept x) w :=
  .ofExcept (fun _ _ => now) fun _ _ => counted

/-- Saving an order that is not proposed leaves no proposal of it. -/
theorem saveOrder_counted {order : WorkOrder} (closed : order.status ≠ .proposed)
    (counted : Counted limit key w) {answer : Except PyError Unit}
    (saved : respond r k runners (.saveOrder order) w i = (answer, w')) :
    Counted limit key w' ∧ w'.missions = w.missions ∧
      (answer = .ok () → order.key = key → proposed key w'.orders = false) := by
  rcases @saveOrder_cases r k runners w i order with
    same | ⟨rows, stored, same⟩
  · obtain ⟨rfl, rfl⟩ := Prod.mk.inj (same.symm.trans saved)
    exact ⟨counted, rfl, nofun⟩
  · obtain ⟨rfl, rfl⟩ := Prod.mk.inj (same.symm.trans saved)
    refine ⟨?_, rfl, ?_⟩
    · refine Nat.le_trans (Nat.add_le_add_left (Bool.toNat_le_toNat ?_) _) counted
      intro open_
      rcases proposed_saved stored open_ with ⟨-, before⟩ | ⟨-, status⟩
      · exact before
      · exact absurd status closed
    · rintro - rfl
      by_contra open_
      rw [Bool.not_eq_false] at open_
      rcases proposed_saved stored open_ with ⟨other, -⟩ | ⟨-, status⟩
      · exact other rfl
      · exact closed status

theorem rejectOrder_keeps (order : WorkOrder) (counted : Counted limit key w) :
    Keeps (respond r k runners) Always (Counted limit key) (fun _ => Counted limit key)
      (fun _ => Counted limit key) (rejectOrder order) w := by
  refine .perform counted fun i answer w' _ saved => ?_
  have after := (saveOrder_counted (by simp) counted saved).1
  exact ofExcept_keeps after after

theorem saveEvidence_keeps {α : Type} (wrap : α → Evidence) (a : Option α)
    (counted : Counted limit key w) :
    Keeps (respond r k runners) Always (Counted limit key) (fun _ => Counted limit key)
      (fun _ => Counted limit key) (saveEvidence wrap a) w :=
  quiet_counted (quiet_saveEvidence wrap a) counted (Nat.le_refl limit)

/-- A mission takes the room that was left for it. -/
theorem mission_counted {runner : Nat} {missionId : String} {order : WorkOrder}
    {loop : Option (LoopSettings × Loop)} {answer : Except PyError MissionExecutionResult}
    (counted : Counted limit key w)
    (closed : order.key = key → worked key w + 1 ≤ limit ∧ proposed key w.orders = false)
    (done : respond r k runners (.mission runner missionId order loop) w i = (answer, w')) :
    Counted limit key w' ∧ answer = (runMission r runners i w runner order loop).1 := by
  obtain ⟨rfl, rfl⟩ := Prod.mk.inj done
  refine ⟨?_, rfl⟩
  rw [Counted, worked, List.countP_append]
  by_cases mine : order.key = key
  · obtain ⟨room, none⟩ := closed mine
    rw [worked] at room
    simpa [mine, none] using room
  · rw [Counted, worked] at counted
    simpa [mine] using counted

/-- An order with room for its mission is coordinated within the count. -/
theorem coordinateSingleOrder_keeps (f : Funding) (missionId : String) (order : WorkOrder)
    (e : UnitEconomicsEvaluation) (loop : Option (LoopSettings × Loop))
    (ready : Ready limit key (decide (order.key = key)) w) :
    Keeps (respond r k runners) Always (Counted limit key) (fun _ => Counted limit key)
      (fun _ => Counted limit key) (coordinateSingleOrder f missionId order e loop) w := by
  unfold coordinateSingleOrder
  split
  · exact (rejectOrder_keeps order ready.counted).bind fun _ w counted => counted
  · refine .perform ready.counted fun i answer w₁ _ saved => ?_
    obtain ⟨counted, same, closed⟩ := saveOrder_counted (by simp) ready.counted saved
    have room : order.key = key → worked key w₁ + 1 ≤ limit := by
      intro mine
      rw [worked, same]
      exact ready.room (decide_eq_true mine)
    cases answer with
    | error err => exact counted
    | ok done =>
      let J (w : World) : Prop := Counted limit key w ∧
        (order.key = key → worked key w + 1 ≤ limit ∧ proposed key w.orders = false)
      have now : J w₁ := ⟨counted, fun mine => ⟨room mine, closed rfl mine⟩⟩
      have worksOn : ∀ w, J w → Keeps (respond r k runners) Always (Counted limit key)
          (fun _ => Counted limit key) (fun _ => Counted limit key) (do
            let worked ← ask (.mission f.runner missionId order loop)
            let result ← Prog.ofExcept worked
            saveEvidence .deliverable result.deliverable
            saveEvidence .receipt result.receipt
            saveEvidence .revenueEvent result.revenueEvent
            let saved ← ask (.saveOrder { order with status := result.workOrder.status })
            Prog.ofExcept saved
            return executionOutcome missionId order e result) w := by
        intro w now
        refine .perform now.1 fun i answer w' _ done => ?_
        obtain ⟨counted, same⟩ := mission_counted now.1 now.2 done
        cases answer with
        | error err => exact counted
        | ok result =>
          have closed : result.workOrder.status ≠ .proposed := by
            rw [runMission_status same.symm]
            split_ifs
            · simp
            · simp
          refine (saveEvidence_keeps _ _ counted).bind fun _ w counted => ?_
          refine (saveEvidence_keeps _ _ counted).bind fun _ w counted => ?_
          refine (saveEvidence_keeps _ _ counted).bind fun _ w counted => ?_
          refine .perform counted fun i answer w' _ saved => ?_
          have after := (saveOrder_counted closed counted saved).1
          exact (ofExcept_keeps after after).bind fun _ w counted => counted
      split_ifs
      · refine .perform now.1 fun i answer w' _ recorded => ?_
        obtain ⟨orders, missions⟩ := @quiet_command r k runners w₁ i (.recordLineage _) trivial
        rw [recorded] at orders missions
        have later : J w' := by
          refine ⟨now.1.same orders missions, ?_⟩
          rw [worked, orders, missions]
          exact now.2
        cases answer with
        | error err => exact later.1
        | ok done => exact worksOn w' later
      · exact worksOn w₁ now

end Steps

section Selection
variable {α : Type} {below : α → α → Bool} {a b : α} {xs : List α}

theorem maxBy_mem (found : maxBy below xs = some a) : a ∈ xs := by
  have folded : ∀ (rest : List α) (first : α),
      rest.foldl (fun best b => if below best b then b else best) first ∈ first :: rest := by
    intro rest
    induction rest with
    | nil => intro first; exact List.mem_singleton_self first
    | cons b rest ih =>
      intro first
      rw [List.foldl_cons]
      split
      · exact List.mem_cons_of_mem _ (ih b)
      · rcases List.mem_cons.mp (ih first) with same | later
        · exact List.mem_cons.mpr (.inl same)
        · exact List.mem_cons_of_mem _ (List.mem_cons_of_mem _ later)
  cases xs with
  | nil => cases found
  | cons first rest => exact Option.some.inj found ▸ folded rest first

theorem selected_mem {orders : List WorkOrder} {evaluations : String → Option UnitEconomicsEvaluation}
    {w : WorkOrder} {e : UnitEconomicsEvaluation}
    (selected : selectBestWorkOrder orders evaluations = some (w, e)) :
    w ∈ orders ∧ evaluations w.workOrderId = some e ∧ e.viable = true := by
  obtain ⟨w', mem, same⟩ := List.mem_filterMap.mp (maxBy_mem selected)
  obtain ⟨e', evaluated, same⟩ := Option.bind_eq_some_iff.mp same
  split_ifs at same with viable
  obtain ⟨rfl, rfl⟩ := Prod.mk.inj (Option.some.inj same)
  exact ⟨mem, evaluated, viable⟩

end Selection

section Cycles
variable {r : DaemonRules} {k : Setup} {runners : Nat → Runner} {key : Key} {limit : Nat}
  {w w' : World} {i : Input}

theorem selectAndCoordinate_keeps (f : Funding) (missionId : String) (orders : List WorkOrder)
    (treasuryUsdg credits : Int) (minMarginRatio : ℚ) (loop : Option (LoopSettings × Loop))
    (ready : Ready limit key (among key orders) w) :
    Keeps (respond r k runners) Always (Counted limit key) (fun _ => Counted limit key)
      (fun _ => Counted limit key)
      (selectAndCoordinate f missionId orders treasuryUsdg credits minMarginRatio loop) w := by
  unfold selectAndCoordinate
  refine (ofExcept_keeps ready ready.counted).bind fun evaluations w ready => ?_
  split
  · rename_i order e _ selected
    refine coordinateSingleOrder_keeps f missionId order e loop ⟨ready.counted, ?_⟩
    intro mine
    exact ready.room (List.any_eq_true.mpr ⟨order, (selected_mem selected).1, mine⟩)
  · exact ready.counted
  · exact (rejectOrder_keeps _ ready.counted).bind fun _ w counted => counted

theorem workCycle_keeps (runner cycle : Nat) (regime : SolvencyRegime) (parent : Option String)
    (treasuryBefore : Int) (candidates : List WorkOrder)
    (ready : Ready limit key (among key candidates) w) :
    Keeps (respond r k runners) Always (Counted limit key) (fun _ => Counted limit key)
      (fun _ => Counted limit key)
      (workCycle k runner cycle regime parent treasuryBefore candidates) w := by
  have quiet {α : Type} {p : Program α} (issues : Issues Quiet p) {w : World}
      (ready : Ready limit key (among key candidates) w) := @quiet_keeps r k runners key limit w α p limit _
        issues ready (Nat.le_refl limit)
  have after {α : Type} {p : Program α} (issues : Issues Quiet p) {w : World}
      (counted : Counted limit key w) := @quiet_counted r k runners key limit w α p limit
        issues counted (Nat.le_refl limit)
  unfold workCycle
  refine (quiet (quiet_ask (by trivial)) ready).bind fun _ w ready => ?_
  refine (quiet (quiet_ask (by trivial)) ready).bind fun hex w ready => ?_
  refine (quiet (quiet_ask (by trivial)) ready).bind fun answer w ready => ?_
  refine (ofExcept_keeps ready ready.counted).bind fun credits w ready => ?_
  refine (quiet (quiet_buildPurchaseLoop _ _ _) ready).bind fun loop w ready => ?_
  refine (selectAndCoordinate_keeps _ _ _ _ _ _ _ ready).bind fun outcome w counted => ?_
  refine (after (quiet_ask (by trivial)) counted).bind fun treasuryAfter w counted => ?_
  split
  · refine (after (quiet_ask (by trivial)) counted).bind fun _ w counted => ?_
    exact after (quiet_persistAndNote _) counted
  · exact after (quiet_persistAndNote _) counted

theorem mem_mapM {α β : Type} {f : α → Option β} {xs : List α} {ys : List β} {y : β}
    (read : xs.mapM f = some ys) (mem : y ∈ ys) : ∃ x ∈ xs, f x = some y := by
  induction xs generalizing ys with
  | nil =>
    obtain rfl := Option.some.inj read
    cases mem
  | cons x xs ih =>
    rw [List.mapM_cons] at read
    obtain ⟨first, here, read⟩ := Option.bind_eq_some_iff.mp read
    obtain ⟨rest, there, read⟩ := Option.bind_eq_some_iff.mp read
    obtain rfl := Option.some.inj read
    rcases List.mem_cons.mp mem with rfl | later
    · exact ⟨x, List.mem_cons_self, here⟩
    · obtain ⟨x', member, same⟩ := ih there later
      exact ⟨x', List.mem_cons_of_mem x member, same⟩

theorem read_key {row : WorkOrderRow} {order : WorkOrder}
    (read : WorkOrderRepository.rowToWorkOrder r.repository row = some order) : order.key = row.key := by
  obtain ⟨createdAt, -, read⟩ := Option.bind_eq_some_iff.mp read
  obtain ⟨metadata, -, read⟩ := Option.bind_eq_some_iff.mp read
  obtain ⟨bountyAsset, -, read⟩ := Option.bind_eq_some_iff.mp read
  obtain ⟨status, -, read⟩ := Option.bind_eq_some_iff.mp read
  rw [← Option.some.inj read]
  rfl

/-- What the repository lists is proposed. -/
theorem listed_proposed {rows : List WorkOrderRow} {listed : List WorkOrder}
    (read : k.listProposed r rows = some listed) (mine : among key listed = true) :
    proposed key rows = true := by
  obtain ⟨order, mem, same⟩ := List.any_eq_true.mp mine
  obtain ⟨row, member, shown⟩ := mem_mapM read mem
  obtain ⟨old, filed⟩ := List.mem_filter.mp ((k.byCreation_perm _).mem_iff.mp member)
  rw [Bool.and_eq_true, decide_eq_true_eq] at filed
  rw [decide_eq_true_eq, read_key shown] at same
  exact proposed_iff.mpr ⟨row, old, same, filed.2⟩

/-- The candidates of a cycle leave room for a mission: those of the repository are proposed, and
those that are given were asked for. -/
theorem candidatesOf_keeps (given : Option (List WorkOrder)) (counted : Counted limit key w) :
    Keeps (respond r k runners) Always (Counted (limit + (given.any (among key)).toNat) key)
      (fun candidates => Ready (limit + (given.any (among key)).toNat) key (among key candidates))
      (fun _ => Counted (limit + (given.any (among key)).toNat) key) (candidatesOf given) w := by
  have more := counted.mono (Nat.le_add_right limit (given.any (among key)).toNat)
  unfold candidatesOf
  split
  · rename_i first rest
    refine ⟨more, fun mine => ?_⟩
    have one : (Option.any (among key) (some (first :: rest))).toNat = 1 := by
      rw [Option.any_some, mine]
      rfl
    rw [one]
    exact Nat.succ_le_succ (Nat.le_trans (Nat.le_add_right _ _) counted)
  · refine .perform more fun i answer w' _ listed => ?_
    obtain ⟨rfl, rfl⟩ := Prod.mk.inj listed
    refine .ofExcept (fun candidates listed => ⟨more, fun mine => ?_⟩) fun _ _ => more
    have open_ := listed_proposed (DaemonCycles.query_ok listed) mine
    rw [Counted, open_] at counted
    exact Nat.le_trans counted (Nat.le_add_right _ _)

theorem stepCycle_keeps (runner : Nat) (given : Option (List WorkOrder)) (counted : Counted limit key w) :
    Keeps (respond r k runners) Always (Counted (limit + (given.any (among key)).toNat) key)
      (fun _ => Counted (limit + (given.any (among key)).toNat) key)
      (fun _ => Counted (limit + (given.any (among key)).toNat) key) (stepCycle k runner given) w := by
  have le := Nat.le_add_right limit (given.any (among key)).toNat
  have quiet {α : Type} {p : Program α} (issues : Issues Quiet p) {w : World}
      (counted : Counted limit key w) := @quiet_counted r k runners key limit w α p _ issues counted le
  unfold stepCycle
  refine (quiet (quiet_ask (by trivial)) counted).bind fun begun w counted => ?_
  refine (quiet (quiet_ask (by trivial)) counted).bind fun treasuryBefore w counted => ?_
  dsimp only
  split
  · exact (quiet (quiet_persistAndNote _) counted).mono fun _ _ counted => counted.mono le
  · refine (candidatesOf_keeps given counted).bind fun candidates w ready => ?_
    split
    · refine (quiet_keeps (quiet_persistAndNote _) ready (Nat.le_refl _)).mono ?_
      exact fun _ _ ready => ready.counted
    · exact workCycle_keeps _ _ _ _ _ _ ready

theorem runCycles_keeps (runner left : Nat) (batches : List (List WorkOrder)) (most : Nat)
    (enough : limit + (batches.take left).countP (among key) ≤ most) (counted : Counted limit key w) :
    Keeps (respond r k runners) Always (Counted most key) (fun _ => Counted most key)
      (fun _ => Counted most key) (runCycles k runner batches left) w := by
  induction left generalizing limit batches w with
  | zero => exact counted.mono (Nat.le_trans (Nat.le_add_right _ _) enough)
  | succ left ih =>
    have asks : (batches.take (left + 1)).countP (among key) =
        (batches.head?.any (among key)).toNat + (batches.tail.take left).countP (among key) := by
      cases batches with
      | nil => simp
      | cons batch rest =>
        cases mine : among key batch with
        | false => simp [mine]
        | true => simp [mine, Nat.add_comm]
    rw [asks, ← Nat.add_assoc] at enough
    have within := Nat.le_trans (Nat.le_add_right _ _) enough
    have first := @stepCycle_keeps r k runners _ _ _ runner batches.head? counted
    refine Keeps.bind ((first.weaken fun _ _ counted => counted.mono within).relax
      fun _ counted => counted.mono within) fun result w counted => ?_
    split
    · exact counted.mono within
    · exact (ih batches.tail enough counted).bind fun results w counted => counted

theorem postOrder_keeps (order : WorkOrder) (counted : Counted limit key w) (most : Nat)
    (enough : limit + (if order.key = key then 1 else 0) ≤ most) :
    Keeps (respond r k runners) Always (Counted most key) (fun _ => Counted most key)
      (fun _ => Counted most key) (postOrder order) w := by
  have le : limit ≤ most := Nat.le_trans (Nat.le_add_right _ _) enough
  refine .perform (counted.mono le) fun i answer w' _ saved => ?_
  have after : Counted most key w' := by
    rcases @saveOrder_cases r k runners w i
      { order with status := .proposed } with same | ⟨rows, stored, same⟩
    · obtain ⟨-, rfl⟩ := Prod.mk.inj (same.symm.trans saved)
      exact counted.mono le
    · obtain ⟨-, rfl⟩ := Prod.mk.inj (same.symm.trans saved)
      by_cases mine : order.key = key
      · rw [if_pos mine] at enough
        have one := Bool.toNat_le (proposed key rows)
        have before := Nat.le_trans (Nat.le_add_right _ _) counted
        exact Nat.le_trans (Nat.add_le_add before one) enough
      · refine Nat.le_trans (Nat.add_le_add_left (Bool.toNat_le_toNat ?_) _) (counted.mono le)
        intro open_
        rcases proposed_saved stored open_ with ⟨-, before⟩ | ⟨own, -⟩
        · exact before
        · exact absurd own.symm mine
  exact ofExcept_keeps after after

theorem executeOrder_keeps (runner : Nat) (id : String) (counted : Counted limit key w) (most : Nat)
    (enough : limit + (if ⟨k.tenantId, k.organisationId, id⟩ = key then 1 else 0) ≤ most) :
    Keeps (respond r k runners) Always (Counted most key) (fun _ => Counted most key)
      (fun _ => Counted most key) (executeOrder runner id) w := by
  have le : limit ≤ most := Nat.le_trans (Nat.le_add_right _ _) enough
  unfold executeOrder
  refine .perform (counted.mono le) fun i answer w' _ found => ?_
  obtain ⟨rfl, rfl⟩ := Prod.mk.inj found
  refine Keeps.bind (Q := fun order w => Counted most key w ∧
    ∀ o, order = some o → Ready most key (among key [o]) w) ?_ ?_
  · refine .ofExcept (fun order found => ⟨counted.mono le, fun o same => ⟨counted.mono le, fun mine => ?_⟩⟩)
      fun _ _ => counted.mono le
    subst same
    have place : o.key = ⟨k.tenantId, k.organisationId, id⟩ := by
      have read := query_ok found
      cases there : (k.orders r).get w.orders ⟨k.tenantId, k.organisationId, id⟩ with
      | none =>
        rw [there] at read
        cases read
      | some answer =>
        rw [there] at read
        obtain ⟨row, stored, shown⟩ := Option.map_eq_some_iff.mp there
        cases answer with
        | none => cases read
        | some o' =>
          obtain rfl : o' = o := Option.some.inj (Option.some.inj read)
          exact (read_key shown).trans (KeyedLists.lookupBy_some stored).2
    have same : o.key = key := by simpa [among] using mine
    rw [if_pos (place.symm.trans same)] at enough
    exact Nat.le_trans (Nat.succ_le_succ (Nat.le_trans (Nat.le_add_right _ _) counted)) enough
  · rintro order w ⟨counted, ready⟩
    cases order with
    | none => exact counted
    | some o =>
      have quiet {α : Type} {p : Program α} (issues : Issues Quiet p) {w : World}
          (ready : Ready most key (among key [o]) w) := @quiet_keeps r k runners key most w α p most _
            issues ready (Nat.le_refl most)
      refine (quiet (quiet_ask (by trivial)) (ready o rfl)).bind fun _ w ready => ?_
      refine (quiet (quiet_ask (by trivial)) ready).bind fun treasuryUsdg w ready => ?_
      refine (quiet (quiet_ask (by trivial)) ready).bind fun answer w ready => ?_
      refine (ofExcept_keeps ready ready.counted).bind fun credits w ready => ?_
      refine (quiet (quiet_ask (by trivial)) ready).bind fun hex w ready => ?_
      refine (quiet (quiet_loopForShortfall _ _ _) ready).bind fun loop w ready => ?_
      exact selectAndCoordinate_keeps _ _ _ _ _ _ _ ready

end Cycles

section Runs
variable {r : DaemonRules} {k : Setup} {runners : Nat → Runner} {key : Key} {limit : Nat} {w : World}

theorem step_counted (event : Event) (counted : Counted limit key w) :
    Counted (limit + asks k key event) key (step r k runners w event) := by
  have cut {α : Type} {p : Program α} {most : Nat} (inputs : List Input)
      (kept : Keeps (respond r k runners) Always (Counted most key) (fun _ => Counted most key)
        (fun _ => Counted most key) p w) : Counted most key (advance (respond r k runners) inputs p w).2 :=
    kept.advance (fun _ _ => id) (fun _ _ => id) inputs (.always _ (fun _ _ _ => trivial) inputs p w)
  cases event with
  | start inputs =>
    exact cut inputs (quiet_counted quiet_startDaemon counted le_rfl)
  | cycles runner maxCycles batches inputs =>
    exact cut inputs (runCycles_keeps runner maxCycles batches _ le_rfl counted)
  | post order inputs => exact cut inputs (postOrder_keeps order counted _ le_rfl)
  | execute runner id inputs => exact cut inputs (executeOrder_keeps runner id counted _ le_rfl)

theorem run_counted (events : List Event) (counted : Counted limit key w) :
    Counted (limit + asked k key events) key (run r k runners w events) := by
  induction events generalizing limit w with
  | nil => exact counted
  | cons event events ih =>
    have first : Counted (limit + asks k key event) key (step r k runners w event) := step_counted event counted
    have later := ih first
    rw [asked, List.map_cons, List.sum_cons, ← Nat.add_assoc]
    exact later

/-- Over any cycles, posts, executions and restarts, stopped anywhere and refused by the database
anywhere: an order is worked on no more often than it was proposed at first, and posted, handed in
or asked for since; while it is proposed, once less. -/
theorem worked_as_asked (r : DaemonRules) (k : Setup) (runners : Nat → Runner) (w : World)
    (events : List Event) (key : Key) :
    worked key (run r k runners w events) + (proposed key (run r k runners w events).orders).toNat ≤
      worked key w + (proposed key w.orders).toNat + asked k key events :=
  run_counted events (Nat.le_refl _)

end Runs

end DaemonRuns
