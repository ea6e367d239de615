import KalyxMao.DaemonRuns
import Mathlib.Data.Finset.Dedup
import Mathlib.Data.Prod.Lex

/-!
# Which order a cycle takes, and how the backlog drains

Of the proposed orders that are viable a cycle takes one with the greatest surplus and,
among those, the greatest margin; where none is viable it rejects the first one listed.
Either way a cycle that returns has taken one order off the proposals.
-/

namespace DaemonBacklog
open PythonText EffectPrograms DaemonCycles
open DaemonRuns (Always mem_mapM read_key maxBy_mem selected_mem)
open PurchaseLoop (Loop LoopSettings)
open MissionRevenue (Runner MissionExecutionResult SolvencyRegime deriveSolvencyRegime)
open AcquisitionCosts (UnitEconomicsEvaluation evaluateUnitEconomics)
open WorkOrderRepository (WorkOrder WorkOrderRow Key statusValue rowToWorkOrder)

section Greatest
variable {α β : Type} [LinearOrder β] {f : α → β} {a : α} {xs : List α}

/-- What Python's `max` finds is not below any other. -/
theorem maxBy_greatest (found : maxBy (fun a b => decide (f a < f b)) xs = some a) :
    ∀ b ∈ xs, f b ≤ f a := by
  have folded : ∀ (rest : List α) (first : α), ∀ b ∈ first :: rest,
      f b ≤ f (rest.foldl (fun best b => if decide (f best < f b) then b else best) first) := by
    intro rest
    induction rest with
    | nil =>
      intro first b mem
      rw [List.mem_singleton.mp mem]
      exact le_rfl
    | cons c rest ih =>
      intro first b mem
      rw [List.foldl_cons]
      split
      · rename_i below
        rcases List.mem_cons.mp mem with rfl | later
        · exact le_trans (of_decide_eq_true below).le (ih c c List.mem_cons_self)
        · exact ih c b later
      · rename_i above
        rcases List.mem_cons.mp mem with rfl | later
        · exact ih b b List.mem_cons_self
        · rcases List.mem_cons.mp later with rfl | later
          · refine le_trans (le_of_not_gt ?_) (ih first first List.mem_cons_self)
            simpa using above
          · exact ih first b (List.mem_cons_of_mem _ later)
  cases xs with
  | nil => cases found
  | cons first rest => exact Option.some.inj found ▸ folded rest first

end Greatest

section Selection

/-- Orders rank by their surplus, then by their margin. -/
def rank (e : UnitEconomicsEvaluation) : ℤ ×ₗ ℚ := toLex (e.expectedSurplusUsdg, e.marginRatio)

theorem ranksBelow_eq (a b : UnitEconomicsEvaluation) : ranksBelow a b = decide (rank a < rank b) := by
  rw [Bool.eq_iff_iff, decide_eq_true_eq, rank, rank, Prod.Lex.toLex_lt_toLex]
  simp [ranksBelow]

variable {orders : List WorkOrder} {evaluations : String → Option UnitEconomicsEvaluation}
  {w : WorkOrder} {e : UnitEconomicsEvaluation}

theorem mem_viable (mem : w ∈ orders) (evaluated : evaluations w.workOrderId = some e)
    (viable : e.viable = true) : (w, e) ∈ orders.filterMap fun w =>
      (evaluations w.workOrderId).bind fun e => if e.viable then some (w, e) else none := by
  refine List.mem_filterMap.mpr ⟨w, mem, ?_⟩
  rw [evaluated, Option.bind_some, if_pos viable]

/-- No viable order ranks above the one that is selected. -/
theorem selected_greatest (selected : selectBestWorkOrder orders evaluations = some (w, e))
    {w' : WorkOrder} {e' : UnitEconomicsEvaluation} (mem : w' ∈ orders)
    (evaluated : evaluations w'.workOrderId = some e') (viable : e'.viable = true) : rank e' ≤ rank e := by
  unfold selectBestWorkOrder at selected
  simp only [ranksBelow_eq] at selected
  exact maxBy_greatest (f := fun pair : WorkOrder × UnitEconomicsEvaluation => rank pair.2) selected
    (w', e') (mem_viable mem evaluated viable)

/-- Nothing is selected only where nothing is viable. -/
theorem unselected (none_ : selectBestWorkOrder orders evaluations = none) (mem : w ∈ orders)
    (evaluated : evaluations w.workOrderId = some e) : e.viable = false := by
  by_contra viable
  rw [Bool.not_eq_false] at viable
  have listed := mem_viable mem evaluated viable
  unfold selectBestWorkOrder at none_
  cases rest : orders.filterMap fun w =>
      (evaluations w.workOrderId).bind fun e => if e.viable then some (w, e) else none with
  | nil =>
    rw [rest] at listed
    cases listed
  | cons first rest' =>
    rw [rest] at none_
    cases none_

/-- A dictionary filled from a list without repetitions holds what was found for each. -/
theorem foldlM_update {α β : Type} (name : α → String) (evaluate : α → Except PyError β) (xs : List α) :
    ∀ before after : String → Option β,
      xs.foldlM (fun found x => do
        let b ← evaluate x
        return Function.update found (name x) (some b)) before = (.ok after : Except PyError _) →
      (xs.map name).Nodup →
      (∀ x ∈ xs, ∃ b, evaluate x = .ok b ∧ after (name x) = some b) ∧
        ∀ id, id ∉ xs.map name → after id = before id := by
  induction xs with
  | nil =>
    intro before after done _
    obtain rfl := Except.ok.inj done
    exact ⟨nofun, fun _ _ => rfl⟩
  | cons first rest ih =>
    intro before after done apart
    rw [List.foldlM_cons] at done
    obtain ⟨next, here, later⟩ := bind_ok.mp done
    obtain ⟨b, evaluated, updated⟩ := bind_ok.mp here
    obtain rfl := Except.ok.inj updated
    rw [List.map_cons, List.nodup_cons] at apart
    obtain ⟨each, others⟩ := ih _ after later apart.2
    constructor
    · intro x mem
      rcases List.mem_cons.mp mem with rfl | mem
      · refine ⟨b, evaluated, ?_⟩
        rw [others _ apart.1, Function.update_self]
      · exact each x mem
    · intro id absent
      rw [List.map_cons, List.mem_cons, not_or] at absent
      rw [others id absent.2, Function.update_of_ne absent.1]

/-- What is evaluated of orders with different identifiers is found under theirs. -/
theorem evaluateCandidates_spec {treasuryUsdg credits : Int} {margin : ℚ}
    (done : evaluateCandidates treasuryUsdg credits margin orders = .ok evaluations)
    (apart : (orders.map (·.workOrderId)).Nodup) (mem : w ∈ orders) :
    ∃ e, evaluateUnitEconomics w.toWorkOrder treasuryUsdg credits 1000000 margin = .ok e ∧
      evaluations w.workOrderId = some e :=
  (foldlM_update (fun w : WorkOrder => w.workOrderId)
    (fun w => evaluateUnitEconomics w.toWorkOrder treasuryUsdg credits 1000000 margin) orders
    (fun _ => none) evaluations done apart).1 w mem

end Selection

section Proposals
variable {r : DaemonRules} {k : Setup} {rows rows' : List WorkOrderRow} {w : WorkOrder} {key : Key}

/-- The orders of the organisation that are proposed. -/
def backlog (k : Setup) (rows : List WorkOrderRow) : Finset Key :=
  ((rows.filter fun row => k.owns row.key && row.status = statusValue .proposed).map (·.key)).toFinset

theorem mem_backlog : key ∈ backlog k rows ↔ k.owns key = true ∧ proposed key rows = true := by
  rw [backlog, List.mem_toFinset, List.mem_map, proposed_iff]
  constructor
  · rintro ⟨row, mem, rfl⟩
    obtain ⟨there, filed⟩ := List.mem_filter.mp mem
    rw [Bool.and_eq_true, decide_eq_true_eq] at filed
    exact ⟨filed.1, row, there, rfl, filed.2⟩
  · rintro ⟨owned, row, there, rfl, status⟩
    refine ⟨row, List.mem_filter.mpr ⟨there, ?_⟩, rfl⟩
    rw [Bool.and_eq_true, decide_eq_true_eq]
    exact ⟨owned, status⟩

/-- Saving an order that is not proposed takes it off the backlog, and nothing else. -/
theorem backlog_saved (saved : (k.orders r).save rows w = some rows') (closed : w.status ≠ .proposed) :
    backlog k rows' = (backlog k rows).erase w.key := by
  ext key
  rw [Finset.mem_erase, mem_backlog, mem_backlog]
  constructor
  · rintro ⟨owned, open_⟩
    rcases proposed_saved saved open_ with ⟨other, before⟩ | ⟨-, status⟩
    · exact ⟨other, owned, before⟩
    · exact absurd status closed
  · rintro ⟨other, owned, open_⟩
    obtain ⟨row, mem, rfl, status⟩ := proposed_iff.mp open_
    obtain ⟨written, new, -, stored⟩ := UpsertTables.Layout.mem_save saved
    exact ⟨owned, proposed_iff.mpr ⟨row, stored.kept row mem other, rfl, status⟩⟩

/-- What is listed are the orders of the backlog. -/
theorem mem_listed {listed : List WorkOrder} (read : k.listProposed r rows = some listed) :
    (∀ w ∈ listed, w.key ∈ backlog k rows) ∧ (listed = [] → backlog k rows = ∅) := by
  constructor
  · intro w mem
    obtain ⟨row, member, shown⟩ := mem_mapM read mem
    have there := (k.byCreation_perm _).mem_iff.mp member
    rw [backlog, List.mem_toFinset, List.mem_map]
    exact ⟨row, there, (read_key shown).symm⟩
  · rintro rfl
    have empty : k.byCreation (rows.filter fun row => k.owns row.key && row.status = statusValue .proposed) =
        [] := by
      cases sorted : k.byCreation
          (rows.filter fun row => k.owns row.key && row.status = statusValue .proposed) with
      | nil => rfl
      | cons row rest =>
        rw [Setup.listProposed, sorted, List.mapM_cons] at read
        obtain ⟨first, -, read⟩ := Option.bind_eq_some_iff.mp read
        obtain ⟨others, -, read⟩ := Option.bind_eq_some_iff.mp read
        cases read
    have perm := k.byCreation_perm
      (rows.filter fun row => k.owns row.key && row.status = statusValue .proposed)
    rw [empty] at perm
    rw [backlog, perm.symm.eq_nil]
    rfl

theorem owned_id {a b : Key} (ha : k.owns a = true) (hb : k.owns b = true) (same : a.id = b.id) : a = b := by
  obtain ⟨tenant, org⟩ := (Bool.and_eq_true ..).mp ha
  obtain ⟨tenant', org'⟩ := (Bool.and_eq_true ..).mp hb
  rw [decide_eq_true_eq] at tenant org tenant' org'
  cases a
  cases b
  simp_all

/-- The orders that are listed have different identifiers. -/
theorem listed_apart {listed : List WorkOrder} (read : k.listProposed r rows = some listed)
    (keys : (rows.map (·.key)).Nodup) : (listed.map (·.workOrderId)).Nodup := by
  have reads : ∀ (rows : List WorkOrderRow) listed,
      rows.mapM (rowToWorkOrder r.repository) = some listed → listed.map (·.key) = rows.map (·.key) := by
    intro rows
    induction rows with
    | nil =>
      intro listed read
      obtain rfl := Option.some.inj read
      rfl
    | cons row rows ih =>
      intro listed read
      rw [List.mapM_cons] at read
      obtain ⟨first, here, read⟩ := Option.bind_eq_some_iff.mp read
      obtain ⟨rest, there, read⟩ := Option.bind_eq_some_iff.mp read
      obtain rfl := Option.some.inj read
      rw [List.map_cons, List.map_cons, ih rest there, read_key here]
  have same := reads _ listed read
  have perm := (k.byCreation_perm
    (rows.filter fun row => k.owns row.key && row.status = statusValue .proposed)).map (·.key)
  have distinct : (listed.map (·.key)).Nodup := by
    rw [same]
    exact perm.nodup_iff.mpr (keys.sublist (List.filter_sublist.map _))
  have ids : listed.map (·.workOrderId) = (listed.map (·.key)).map Key.id := by
    rw [List.map_map]
    rfl
  rw [ids]
  refine List.Nodup.map_on ?_ distinct
  intro a ha b hb same
  obtain ⟨w, mem, rfl⟩ := List.mem_map.mp ha
  obtain ⟨w', mem', rfl⟩ := List.mem_map.mp hb
  exact owned_id (mem_backlog.mp ((mem_listed read).1 w mem)).1
    (mem_backlog.mp ((mem_listed read).1 w' mem')).1 same

theorem keys_saved (saved : (k.orders r).save rows w = some rows') (keys : (rows.map (·.key)).Nodup) :
    (rows'.map (·.key)).Nodup := by
  obtain ⟨written, wrote, saved⟩ := Option.bind_eq_some_iff.mp saved
  split at saved
  · rename_i stored _
    obtain rfl := Option.some.inj saved
    have same : (KeyedLists.replaceBy (k.orders r).rowKey rows ((k.orders r).update stored written)).map
        (·.key) = rows.map (·.key) := KeyedLists.map_key_replaceBy rows _
    rw [same]
    exact keys
  · rename_i absent
    split_ifs at saved
    obtain rfl := Option.some.inj saved
    rw [List.map_append, List.map_singleton, List.nodup_append]
    refine ⟨keys, List.nodup_singleton _, ?_⟩
    intro key old key' new
    obtain ⟨row, mem, rfl⟩ := List.mem_map.mp old
    rw [List.mem_singleton.mp new]
    exact KeyedLists.lookupBy_none.mp absent row mem

end Proposals

section Specification

/-- Orders, missions and the ledger are as they were. -/
structure Untouched (before w : World) : Prop where
  orders : w.orders = before.orders
  missions : w.missions = before.missions
  ledger : w.books.ledger = before.books.ledger

/-- How the financial analyst judges an order in a cycle. -/
def judged (result : DaemonCycleResult) (credits : Int) (w : WorkOrder) :
    Except PyError UnitEconomicsEvaluation :=
  evaluateUnitEconomics w.toWorkOrder result.treasuryBalanceBefore credits 1000000
    (regimePolicy result.regime).minMarginRatio

/-- A cycle has taken an order off the proposals: one that no other viable one outranks, or, where
none is viable, the first that was listed, without a mission. -/
structure Takes (r : DaemonRules) (k : Setup) (before after : World) (result : DaemonCycleResult)
    (outcome : WorkOrderExecutionOutcome) (credits : Int) (listed : List WorkOrder) (order : WorkOrder) :
    Prop where
  proposals : k.listProposed r before.orders = some listed
  among : order ∈ listed
  reported : result.workOrderId = some order.workOrderId
  evaluation : judged result credits order = .ok outcome.evaluation
  taken : backlog k after.orders = (backlog k before.orders).erase order.key
  best : outcome.evaluation.viable = true → ∀ other ∈ listed, ∀ e, judged result credits other = .ok e →
    e.viable = true → rank e ≤ rank outcome.evaluation
  rejected : outcome.evaluation.viable = false → listed.head? = some order ∧
    after.missions = before.missions ∧ after.books.ledger = before.books.ledger ∧
    ∀ other ∈ listed, ∀ e, judged result credits other = .ok e → e.viable = false

/-- What a cycle that returns has done. -/
structure CycleDone (r : DaemonRules) (k : Setup) (before after : World) (result : DaemonCycleResult) :
    Prop where
  treasury : result.treasuryBalanceBefore = before.books.ledger.getBalance Ledger.treasury
  regime : result.regime =
    deriveSolvencyRegime result.treasuryBalanceBefore k.expansionThreshold k.standbyThreshold
  idle : result.outcome = none → result.workOrderId = none ∧ Untouched before after ∧
    (result.regime = .standby ∨ backlog k before.orders = ∅)
  took : ∀ outcome, result.outcome = some outcome → result.regime ≠ .standby ∧
    ∃ credits listed order, Takes r k before after result outcome credits listed order

end Specification

section Cycles
variable {r : DaemonRules} {k : Setup} {runners : Nat → Runner} {before w w' : World} {i : Input}

theorem Untouched.refl (w : World) : Untouched w w := ⟨rfl, rfl, rfl⟩

theorem Untouched.trans {w'' : World} (first : Untouched w w') (second : Untouched w' w'') :
    Untouched w w'' :=
  ⟨second.orders.trans first.orders, second.missions.trans first.missions,
    second.ledger.trans first.ledger⟩

theorem quiet_untouched {c : Command} (quiet : Quiet c) : Untouched w (respond r k runners c w i).2 := by
  obtain ⟨orders, missions⟩ := @quiet_command r k runners w i c quiet
  refine ⟨orders, missions, ?_⟩
  cases c with
  | saveOrder order => exact quiet.elim
  | mission runner missionId order loop => exact quiet.elim
  | loadState =>
    unfold respond
    dsimp only
    split
    · rfl
    · rfl
    · rfl
  | recordLineage row =>
    rcases commit_cases i w (k.lineage.save w.lineage (row i.now)) fun lineage => { w with lineage } with
      same | ⟨rows, -, same⟩
    · exact congrArg (·.2.books.ledger) same
    · exact congrArg (·.2.books.ledger) same
  | saveEvidence e =>
    rcases commit_cases i w (some e) fun e => { w with evidence := w.evidence ++ [e] } with
      same | ⟨rows, -, same⟩
    · exact congrArg (·.2.books.ledger) same
    · exact congrArg (·.2.books.ledger) same
  | persistState =>
    rcases commit_cases i w (k.states.save w.states ⟨k.stateKey, w.daemon.cycleCount,
      w.daemon.lastMissionId, i.now⟩) fun states => { w with states } with same | ⟨rows, -, same⟩
    · exact congrArg (·.2.books.ledger) same
    · exact congrArg (·.2.books.ledger) same
  | _ => rfl

/-- Where a program comes to an end, a condition holds; nothing is asked of it on its way. -/
abbrev Ends {α : Type} (r : DaemonRules) (k : Setup) (runners : Nat → Runner) (Q : α → World → Prop)
    (p : Program α) (w : World) : Prop :=
  Keeps (respond r k runners) Always (fun _ => True) Q (fun _ _ => True) p w

theorem ofExcept_ends {α : Type} {x : Except PyError α} {Q : α → World → Prop}
    (good : ∀ a, x = .ok a → Q a w) : Ends r k runners Q (Prog.ofExcept x) w :=
  .ofExcept good fun _ _ => trivial

/-- Quiet programs keep whatever untouched worlds do. -/
theorem quiet_ends {α : Type} {p : Program α} {J : World → Prop} (quiet : Issues Quiet p)
    (stable : ∀ w w', J w → Untouched w w' → J w') (now : J w) :
    Ends r k runners (fun _ => J) p w :=
  (quiet.keeps (fun _ _ _ quiet _ now => stable _ _ now (quiet_untouched quiet))
    (fun _ _ => trivial) now).weaken fun _ _ _ => trivial

theorem saveOrder_ends {order : WorkOrder} {rows : Finset Key}
    (saved : respond r k runners (.saveOrder order) w i = (.ok (), w')) (closed : order.status ≠ .proposed)
    (now : backlog k w.orders = rows ∨ backlog k w.orders = rows.erase order.key) :
    backlog k w'.orders = rows.erase order.key ∧ w'.missions = w.missions ∧
      w'.books.ledger = w.books.ledger := by
  rcases @saveOrder_cases r k runners w i order with
    same | ⟨stored, taken, same⟩
  · cases same.symm.trans saved
  · obtain ⟨-, rfl⟩ := Prod.mk.inj (same.symm.trans saved)
    refine ⟨?_, rfl, rfl⟩
    have erased := backlog_saved taken closed
    rcases now with open_ | done
    · exact erased.trans (congrArg (·.erase order.key) open_)
    · rw [erased, done, Finset.erase_idem]

theorem rejectOrder_ends (order : WorkOrder) (untouched : Untouched before w) :
    Ends r k runners (fun _ w' => backlog k w'.orders = (backlog k before.orders).erase order.key ∧
      w'.missions = before.missions ∧ w'.books.ledger = before.books.ledger) (rejectOrder order) w := by
  refine .perform trivial fun i answer w' _ saved => ?_
  cases answer with
  | error err => trivial
  | ok u =>
    obtain ⟨erased, missions, ledger⟩ := saveOrder_ends saved (by simp)
      (.inl (congrArg (backlog k) untouched.orders))
    exact ⟨erased, missions.trans untouched.missions, ledger.trans untouched.ledger⟩

/-- What becomes of the order that is coordinated. -/
def Coordinated (k : Setup) (before : World) (order : WorkOrder) (e : UnitEconomicsEvaluation)
    (outcome : WorkOrderExecutionOutcome) (w : World) : Prop :=
  outcome.workOrderId = order.workOrderId ∧ outcome.evaluation = e ∧
    backlog k w.orders = (backlog k before.orders).erase order.key

theorem coordinateSingleOrder_ends (f : Funding) (missionId : String) (order : WorkOrder)
    {e : UnitEconomicsEvaluation} (viable : e.viable = true) (loop : Option (LoopSettings × Loop))
    (untouched : Untouched before w) :
    Ends r k runners (Coordinated k before order e) (coordinateSingleOrder f missionId order e loop) w := by
  let J (w : World) : Prop := backlog k w.orders = (backlog k before.orders).erase order.key
  have stable : ∀ w w', J w → Untouched w w' → J w' := by
    intro w w' now same
    exact (congrArg (backlog k) same.orders).trans now
  have worksOn : ∀ w, J w → Ends r k runners (Coordinated k before order e) (do
      let worked ← ask (.mission f.runner missionId order loop)
      let result ← Prog.ofExcept worked
      saveEvidence .deliverable result.deliverable
      saveEvidence .receipt result.receipt
      saveEvidence .revenueEvent result.revenueEvent
      let saved ← ask (.saveOrder { order with status := result.workOrder.status })
      Prog.ofExcept saved
      return executionOutcome missionId order e result) w := by
    intro w now
    refine .perform trivial fun i answer w' _ done => ?_
    have same : (runMission r runners i w f.runner order loop).1 = answer := congrArg Prod.fst done
    have now : J w' := by
      obtain ⟨-, rfl⟩ := Prod.mk.inj done
      exact now
    cases answer with
    | error err => trivial
    | ok result =>
      have closed : result.workOrder.status ≠ .proposed := by
        rw [runMission_status same]
        split_ifs
        · simp
        · simp
      rw [Prog.ofExcept_ok, Prog.ret_bind]
      refine (quiet_ends (J := J) (quiet_saveEvidence _ _) stable now).bind fun _ w now => ?_
      refine (quiet_ends (J := J) (quiet_saveEvidence _ _) stable now).bind fun _ w now => ?_
      refine (quiet_ends (J := J) (quiet_saveEvidence _ _) stable now).bind fun _ w now => ?_
      refine .perform trivial fun i answer w' _ saved => ?_
      cases answer with
      | error err => trivial
      | ok u => exact ⟨rfl, rfl, (saveOrder_ends saved closed (.inr now)).1⟩
  unfold coordinateSingleOrder
  rw [viable, Bool.not_true, if_neg (by simp)]
  refine .perform trivial fun i answer w' _ saved => ?_
  cases answer with
  | error err => trivial
  | ok u =>
    have now : J w' := (saveOrder_ends saved (by simp)
      (.inl (congrArg (backlog k) untouched.orders))).1
    rw [Prog.ofExcept_ok, Prog.ret_bind]
    split_ifs
    · refine (quiet_ends (J := J) (quiet_ask (by trivial)) stable now).bind fun recorded w now => ?_
      exact (ofExcept_ends fun _ _ => now).bind fun _ w now => worksOn w now
    · exact worksOn w' now

/-- Of the candidates that the repository lists, what is selected is taken. -/
theorem selectAndCoordinate_ends {f : Funding} {missionId : String} {listed : List WorkOrder}
    {treasuryUsdg credits : Int} {margin : ℚ} {loop : Option (LoopSettings × Loop)}
    (keys : (before.orders.map (·.key)).Nodup) (read : k.listProposed r before.orders = some listed)
    (some_ : listed ≠ []) (untouched : Untouched before w) :
    Ends r k runners (fun outcome after => ∃ order ∈ listed, outcome.workOrderId = order.workOrderId ∧
        evaluateUnitEconomics order.toWorkOrder treasuryUsdg credits 1000000 margin =
          .ok outcome.evaluation ∧
        backlog k after.orders = (backlog k before.orders).erase order.key ∧
        (outcome.evaluation.viable = true → ∀ other ∈ listed, ∀ e,
          evaluateUnitEconomics other.toWorkOrder treasuryUsdg credits 1000000 margin = .ok e →
          e.viable = true → rank e ≤ rank outcome.evaluation) ∧
        (outcome.evaluation.viable = false → listed.head? = some order ∧
          after.missions = before.missions ∧ after.books.ledger = before.books.ledger ∧
          ∀ other ∈ listed, ∀ e,
            evaluateUnitEconomics other.toWorkOrder treasuryUsdg credits 1000000 margin = .ok e →
            e.viable = false))
      (selectAndCoordinate f missionId listed treasuryUsdg credits margin loop) w := by
  unfold selectAndCoordinate
  refine Keeps.bind (ofExcept_ends (Q := fun evaluations w => Untouched before w ∧
    evaluateCandidates treasuryUsdg credits margin listed = .ok evaluations)
      fun evaluations done => ⟨untouched, done⟩) ?_
  rintro evaluations w ⟨untouched, done⟩
  have apart := listed_apart read keys
  have found : ∀ other ∈ listed, ∀ e,
      evaluateUnitEconomics other.toWorkOrder treasuryUsdg credits 1000000 margin = .ok e →
      evaluations other.workOrderId = some e := by
    intro other mem e evaluated
    obtain ⟨e', same, stored⟩ := evaluateCandidates_spec done apart mem
    rw [stored, Except.ok.inj (same.symm.trans evaluated)]
  split
  · rename_i order e selected
    obtain ⟨mem, stored, viable⟩ := selected_mem selected
    obtain ⟨e', evaluated, same⟩ := evaluateCandidates_spec done apart mem
    obtain rfl := Option.some.inj (stored.symm.trans same)
    refine (coordinateSingleOrder_ends f missionId order viable loop untouched).mono ?_
    rintro outcome after ⟨id, rfl, taken⟩
    refine ⟨order, mem, id, evaluated, taken, fun _ other member e' judged viable' => ?_, fun no => ?_⟩
    · exact selected_greatest selected member (found other member e' judged) viable'
    · rw [viable] at no
      cases no
  · exact absurd rfl some_
  · rename_i first rest none_
    obtain ⟨e, evaluated, stored⟩ := evaluateCandidates_spec done apart List.mem_cons_self
    have unviable : ∀ other ∈ first :: rest, ∀ e,
        evaluateUnitEconomics other.toWorkOrder treasuryUsdg credits 1000000 margin = .ok e →
        e.viable = false :=
      fun other member e judged => unselected none_ member (found other member e judged)
    refine (rejectOrder_ends first untouched).bind fun _ after rejected => ?_
    have own : ((evaluations first.workOrderId).getD noViableWorkOrders) = e := by
      rw [stored]
      rfl
    rw [own]
    refine ⟨first, List.mem_cons_self, rfl, evaluated, rejected.1, fun viable => ?_, fun _ =>
      ⟨rfl, rejected.2.1, rejected.2.2, unviable⟩⟩
    have no := unviable first List.mem_cons_self e evaluated
    exact absurd (viable.symm.trans no) (by decide)

/-- What is saved and noted of a cycle leaves its orders, missions and ledger. -/
theorem persistAndNote_ends (result : DaemonCycleResult) (w : World) :
    Ends r k runners (fun same after => same = result ∧ Untouched w after) (persistAndNote result) w := by
  refine Keeps.bind (quiet_ends (J := Untouched w) (quiet_ask (by trivial)) ?_ (.refl w)) ?_
  · exact fun _ _ before after => before.trans after
  · intro saved w' untouched
    refine Keeps.bind (ofExcept_ends (Q := fun _ => Untouched w) fun _ _ => untouched) fun _ w' untouched => ?_
    refine Keeps.bind (quiet_ends (J := Untouched w) (quiet_ask (by trivial)) ?_ untouched) ?_
    · exact fun _ _ before after => before.trans after
    · exact fun _ w' untouched => ⟨rfl, untouched⟩

theorem workCycle_ends (runner cycle : Nat) (parent : Option String) {listed : List WorkOrder}
    (solvent : deriveSolvencyRegime (before.books.ledger.getBalance Ledger.treasury) k.expansionThreshold
      k.standbyThreshold ≠ .standby)
    (keys : (before.orders.map (·.key)).Nodup) (read : k.listProposed r before.orders = some listed)
    (some_ : listed ≠ []) (untouched : Untouched before w) :
    Ends r k runners (fun result after => CycleDone r k before after result)
      (workCycle k runner cycle (deriveSolvencyRegime (before.books.ledger.getBalance Ledger.treasury)
        k.expansionThreshold k.standbyThreshold) parent
        (before.books.ledger.getBalance Ledger.treasury) listed) w := by
  have quiet {α : Type} {p : Program α} (issues : Issues Quiet p) {w : World}
      (untouched : Untouched before w) := @quiet_ends r k runners w α p (Untouched before) issues
        (fun _ _ before after => before.trans after) untouched
  unfold workCycle
  refine (quiet (quiet_ask (by trivial)) untouched).bind fun _ w untouched => ?_
  refine (quiet (quiet_ask (by trivial)) untouched).bind fun hex w untouched => ?_
  refine (quiet (quiet_ask (by trivial)) untouched).bind fun answer w untouched => ?_
  refine Keeps.bind (ofExcept_ends (Q := fun _ => Untouched before) fun _ _ => untouched)
    fun credits w untouched => ?_
  refine (quiet (quiet_buildPurchaseLoop _ _ _) untouched).bind fun loop w untouched => ?_
  refine (selectAndCoordinate_ends keys read some_ untouched).bind fun outcome w taken => ?_
  obtain ⟨order, mem, id, evaluated, erased, best, rejected⟩ := taken
  have finish : ∀ (result : DaemonCycleResult) (w' : World), Untouched w w' →
      result.treasuryBalanceBefore = before.books.ledger.getBalance Ledger.treasury →
      result.regime = deriveSolvencyRegime (before.books.ledger.getBalance Ledger.treasury)
        k.expansionThreshold k.standbyThreshold →
      result.workOrderId = some outcome.workOrderId → result.outcome = some outcome →
      Ends r k runners (fun result after => CycleDone r k before after result) (persistAndNote result) w' := by
    intro result w' later treasury regime workOrderId conclusion
    refine (persistAndNote_ends result w').mono ?_
    rintro _ after ⟨rfl, last⟩
    have untouched := later.trans last
    refine ⟨treasury, regime.trans (by rw [treasury]), ?_, ?_⟩
    · intro none_
      cases conclusion.symm.trans none_
    · intro outcome' same
      obtain rfl := Option.some.inj (conclusion.symm.trans same)
      refine ⟨regime ▸ solvent, credits, listed, order, read, mem, workOrderId.trans (congrArg some id),
        ?_, ?_, ?_, ?_⟩
      · rw [judged, treasury, regime]
        exact evaluated
      · rw [untouched.orders]
        exact erased
      · simp only [judged, treasury, regime]
        exact best
      · simp only [judged, treasury, regime]
        intro unviable
        obtain ⟨first, missions, ledger, none_⟩ := rejected unviable
        exact ⟨first, untouched.missions.trans missions, untouched.ledger.trans ledger, none_⟩
  refine Keeps.bind (quiet_ends (J := Untouched w) (quiet_ask (by trivial)) ?_ (.refl w)) ?_
  · exact fun _ _ before after => before.trans after
  · intro treasuryAfter w' later
    split
    · refine Keeps.bind (quiet_ends (J := Untouched w) (quiet_ask (by trivial)) ?_ later) ?_
      · exact fun _ _ before after => before.trans after
      · exact fun _ w' later => finish _ w' later rfl rfl rfl rfl
    · exact finish _ w' later rfl rfl rfl rfl

theorem stepCycle_ends (runner : Nat) (keys : (w.orders.map (·.key)).Nodup) :
    Ends r k runners (fun result after => CycleDone r k w after result) (stepCycle k runner none) w := by
  refine .perform trivial fun i begun w₁ _ counted => ?_
  have untouched : Untouched w w₁ := by
    have quiet := @quiet_untouched r k runners w i .count trivial
    rw [counted] at quiet
    exact quiet
  refine .perform trivial fun i treasuryBefore w₂ _ balance => ?_
  obtain ⟨rfl, rfl⟩ := Prod.mk.inj balance
  have treasury : w₁.books.ledger.getBalance Ledger.treasury = w.books.ledger.getBalance Ledger.treasury :=
    congrArg (·.getBalance Ledger.treasury) untouched.ledger
  rw [treasury]
  dsimp only
  have idle : ∀ (result : DaemonCycleResult) (w' : World), Untouched w w' →
      result.treasuryBalanceBefore = w.books.ledger.getBalance Ledger.treasury →
      result.regime = deriveSolvencyRegime (w.books.ledger.getBalance Ledger.treasury)
        k.expansionThreshold k.standbyThreshold →
      result.workOrderId = none → result.outcome = none →
      (result.regime = .standby ∨ backlog k w.orders = ∅) →
      Ends r k runners (fun result after => CycleDone r k w after result) (persistAndNote result) w' := by
    intro result w' later treasury regime workOrderId conclusion why
    refine (persistAndNote_ends result w').mono ?_
    rintro _ after ⟨rfl, last⟩
    refine ⟨treasury, regime.trans (by rw [treasury]), fun _ => ⟨workOrderId, later.trans last, why⟩, ?_⟩
    intro outcome same
    cases conclusion.symm.trans same
  split
  · rename_i standby
    exact idle _ w₁ untouched rfl rfl rfl rfl (.inl standby)
  · rename_i solvent
    refine Keeps.bind (Q := fun listed w' => Untouched w w' ∧ k.listProposed r w.orders = some listed) ?_ ?_
    · refine .perform trivial fun i answer w' _ listed => ?_
      obtain ⟨rfl, rfl⟩ := Prod.mk.inj listed
      refine ofExcept_ends fun listed answered => ⟨untouched, ?_⟩
      rw [← untouched.orders]
      exact query_ok answered
    · rintro listed w' ⟨untouched, read⟩
      split
      · rename_i none_
        exact idle _ w' untouched rfl rfl rfl rfl (.inr ((mem_listed read).2 none_))
      · rename_i some_
        exact workCycle_ends runner _ _ solvent keys read some_ untouched

end Cycles

section Keys
variable {r : DaemonRules} {k : Setup} {runners : Nat → Runner} {w : World} {i : Input}

/-- Every order has one row. -/
def Keyed (w : World) : Prop := (w.orders.map (·.key)).Nodup

theorem respond_keyed (c : Command) (keyed : Keyed w) : Keyed (respond r k runners c w i).2 := by
  by_cases quiet : Quiet c
  · rw [Keyed, (quiet_command quiet).1]
    exact keyed
  · cases c with
    | saveOrder order =>
      rcases @saveOrder_cases r k runners w i order with
        same | ⟨rows, saved, same⟩
      · rw [same]
        exact keyed
      · rw [same]
        exact keys_saved saved keyed
    | mission runner missionId order loop => exact keyed
    | _ => exact absurd trivial quiet

theorem advance_keyed {α : Type} (inputs : List Input) (p : Program α) (keyed : Keyed w) :
    Keyed (advance (respond r k runners) inputs p w).2 := by
  induction inputs generalizing p w with
  | nil => exact keyed
  | cons i inputs ih =>
    cases p with
    | ret a => exact keyed
    | raise e => exact keyed
    | call c next => exact ih _ (respond_keyed c keyed)

theorem run_keyed (events : List Event) (keyed : Keyed w) : Keyed (run r k runners w events) := by
  induction events generalizing w with
  | nil => exact keyed
  | cons event events ih =>
    have next : Keyed (step r k runners w event) := by
      cases event with
      | start inputs => exact advance_keyed inputs _ keyed
      | cycles runner maxCycles batches inputs => exact advance_keyed inputs _ keyed
      | post order inputs => exact advance_keyed inputs _ keyed
      | execute runner id inputs => exact advance_keyed inputs _ keyed
    exact ih next

/-- What ends as it should also keeps every order on one row. -/
theorem ends_keyed {α : Type} {Q : α → World → Prop} {p : Program α} (ends : Ends r k runners Q p w)
    (keyed : Keyed w) : Ends r k runners (fun a w => Q a w ∧ Keyed w) p w := by
  induction p generalizing w with
  | ret a => exact ⟨ends, keyed⟩
  | raise e => trivial
  | call c next ih => exact ⟨trivial, fun i allowed => ih _ (ends.2 i allowed) (respond_keyed c keyed)⟩

/-- In a state that any run has reached, a cycle that returns takes the best of the proposed orders
that are viable, or rejects the first one if none is, or leaves everything as it was: in standby, or
with nothing proposed. -/
theorem cycle_takes_best (r : DaemonRules) (k : Setup) (runners : Nat → Runner)
    (books : MissionRevenue.Books) (events : List Event) (runner : Nat) (inputs : List Input)
    (result : DaemonCycleResult) (after : World)
    (returned : advance (respond r k runners) inputs (stepCycle k runner none)
      (run r k runners { books } events) = (.ret result, after)) :
    CycleDone r k (run r k runners { books } events) after result := by
  have keyed : Keyed (run r k runners { books } events) := run_keyed events List.nodup_nil
  have outcome := (@stepCycle_ends r k runners _ runner keyed).outcome inputs
    (.always _ (fun _ _ _ => trivial) inputs _ _)
  rw [returned] at outcome
  exact outcome

end Keys

section Draining
variable {r : DaemonRules} {k : Setup} {runners : Nat → Runner} {w before after : World}
  {result : DaemonCycleResult} {results : List DaemonCycleResult}

/-- What cycles that return have done to the backlog. -/
structure Drains (k : Setup) (before after : World) (results : List DaemonCycleResult) : Prop where
  shrunk : backlog k after.orders ⊆ backlog k before.orders
  counted : (backlog k after.orders).card + results.countP (·.outcome.isSome) =
    (backlog k before.orders).card
  taken : ∀ id ∈ results.filterMap (·.workOrderId),
    ∃ key ∈ backlog k before.orders, key.id = id ∧ key ∉ backlog k after.orders
  apart : (results.filterMap (·.workOrderId)).Nodup
  emptied : (∀ result ∈ results, result.regime ≠ .standby) →
    (backlog k before.orders).card ≤ results.length → backlog k after.orders = ∅

/-- What one cycle has done. -/
theorem CycleDone.drains (done : CycleDone r k before after result) :
    (result.outcome = none ∧ result.workOrderId = none ∧
      backlog k after.orders = backlog k before.orders ∧
      (result.regime = .standby ∨ backlog k before.orders = ∅)) ∨
    ∃ key ∈ backlog k before.orders, result.outcome.isSome = true ∧ result.workOrderId = some key.id ∧
      backlog k after.orders = (backlog k before.orders).erase key := by
  cases conclusion : result.outcome with
  | none =>
    obtain ⟨id, untouched, why⟩ := done.idle conclusion
    exact .inl ⟨rfl, id, congrArg (backlog k) untouched.orders, why⟩
  | some outcome =>
    obtain ⟨-, credits, listed, order, takes⟩ := done.took outcome conclusion
    exact .inr ⟨order.key, (mem_listed takes.proposals).1 order takes.among, rfl, takes.reported,
      takes.taken⟩

theorem Drains.nil (w : World) : Drains k w w [] where
  shrunk := Finset.Subset.refl _
  counted := rfl
  taken := nofun
  apart := List.nodup_nil
  emptied _ le := Finset.card_eq_zero.mp (Nat.le_zero.mp le)

theorem Drains.cons {middle : World} (done : CycleDone r k before middle result)
    (rest : Drains k middle after results) : Drains k before after (result :: results) := by
  rcases done.drains with ⟨idle, id, same, why⟩ | ⟨key, mem, some_, id, erased⟩
  · constructor
    · exact same ▸ rest.shrunk
    · rw [List.countP_cons_of_neg (by simp [idle]), rest.counted, same]
    · rw [List.filterMap_cons_none id, ← same]
      exact rest.taken
    · rw [List.filterMap_cons_none id]
      exact rest.apart
    · intro solvent _
      have none_ := why.resolve_left (solvent result List.mem_cons_self)
      exact Finset.subset_empty.mp (none_ ▸ same ▸ rest.shrunk)
  · have fewer : (backlog k middle.orders).card + 1 = (backlog k before.orders).card := by
      rw [erased]
      exact Finset.card_erase_add_one mem
    have within : backlog k middle.orders ⊆ backlog k before.orders := by
      rw [erased]
      exact Finset.erase_subset _ _
    have gone : key ∉ backlog k middle.orders := by
      rw [erased]
      exact Finset.notMem_erase key _
    constructor
    · exact rest.shrunk.trans within
    · rw [List.countP_cons, some_, if_pos rfl, ← Nat.add_assoc, rest.counted, fewer]
    · rw [List.filterMap_cons_some id]
      intro id' member
      rcases List.mem_cons.mp member with rfl | later
      · exact ⟨key, mem, rfl, fun there => gone (rest.shrunk there)⟩
      · obtain ⟨key', mem', same, gone'⟩ := rest.taken id' later
        exact ⟨key', within mem', same, gone'⟩
    · rw [List.filterMap_cons_some id, List.nodup_cons]
      refine ⟨fun again => ?_, rest.apart⟩
      obtain ⟨key', mem', same, -⟩ := rest.taken key.id again
      have equal := owned_id (mem_backlog.mp (within mem')).1 (mem_backlog.mp mem).1 same
      exact gone (equal ▸ mem')
    · intro solvent enough
      rw [List.length_cons, ← fewer] at enough
      exact rest.emptied (fun result member => solvent result (List.mem_cons_of_mem _ member))
        (Nat.le_of_succ_le_succ enough)

/-- Cycles go on to the last one, or to the first in standby. -/
def Stops (maxCycles : Nat) (results : List DaemonCycleResult) : Prop :=
  (∀ result ∈ results.dropLast, result.regime ≠ .standby) ∧ results.length ≤ maxCycles ∧
    (results.length = maxCycles ∨ ∃ result, results.getLast? = some result ∧ result.regime = .standby)

theorem runCycles_ends (runner left : Nat) (keyed : Keyed w) :
    Ends r k runners (fun results after => Drains k w after results ∧ Stops left results)
      (runCycles k runner [] left) w := by
  induction left generalizing w with
  | zero =>
    have none_ : Stops 0 [] := ⟨by simp, Nat.le_refl 0, .inl rfl⟩
    exact ⟨.nil w, none_⟩
  | succ left ih =>
    rw [runCycles, List.head?_nil, List.tail_nil]
    refine Keeps.bind (ends_keyed (stepCycle_ends runner keyed) keyed) fun result w' done => ?_
    split
    · rename_i standby
      have alone : Stops (left + 1) [result] :=
        ⟨by simp, Nat.succ_le_succ (Nat.zero_le left), .inr ⟨result, rfl, standby⟩⟩
      exact ⟨.cons done.1 (.nil w'), alone⟩
    · rename_i solvent
      refine (ih done.2).bind fun results after rest => ?_
      obtain ⟨drains, before, short, stops⟩ := rest
      refine ⟨.cons done.1 drains, ?_, Nat.succ_le_succ short, ?_⟩
      · cases results with
        | nil => simp
        | cons next later =>
          rw [List.dropLast_cons_of_ne_nil (List.cons_ne_nil _ _)]
          intro result' mem
          rcases List.mem_cons.mp mem with rfl | mem
          · exact solvent
          · exact before result' mem
      · rcases stops with full | ⟨last, found, standby⟩
        · exact .inl (congrArg Nat.succ full)
        · refine .inr ⟨last, ?_, standby⟩
          cases results with
          | nil => cases found
          | cons next later => exact found

/-- In a state that any run has reached, cycles that return take different orders, each off the
backlog for good, one in each cycle that has an outcome; without standby, as many cycles as orders
are proposed leave none. They stop early exactly in standby. -/
theorem backlog_drains (r : DaemonRules) (k : Setup) (runners : Nat → Runner)
    (books : MissionRevenue.Books) (events : List Event) (runner maxCycles : Nat) (inputs : List Input)
    (results : List DaemonCycleResult) (after : World)
    (returned : advance (respond r k runners) inputs (runCycles k runner [] maxCycles)
      (run r k runners { books } events) = (.ret results, after)) :
    Drains k (run r k runners { books } events) after results ∧ Stops maxCycles results := by
  have keyed : Keyed (run r k runners { books } events) := run_keyed events List.nodup_nil
  have outcome := (@runCycles_ends r k runners _ runner maxCycles keyed).outcome
    inputs (.always _ (fun _ _ _ => trivial) inputs _ _)
  rw [returned] at outcome
  exact outcome

end Draining

section Samples

def samplePosts : List Event :=
  [.post (sampleOrder "a") [sampleInput "a"], .post (sampleOrder "b") [sampleInput "b"]]

def sampleWorld : World :=
  run sampleRules sampleSetup (fun _ => MissionRevenue.sampleRunner) { books := MissionRevenue.sampleBooks }
    samplePosts

/-- Enough answers for a cycle. -/
def sampleInputs (id : String) : List Input := List.replicate 17 (sampleInput id)

theorem sample_best : ∃ result after, result.workOrderId = some "a" ∧
    CycleDone sampleRules sampleSetup sampleWorld after result := by
  have reported : ((advance (respond sampleRules sampleSetup fun _ => MissionRevenue.sampleRunner)
      (sampleInputs "a") (stepCycle sampleSetup 0 none) sampleWorld).1.returned.bind (·.workOrderId)) =
        some "a" := by
    decide +kernel
  rcases stopped : advance (respond sampleRules sampleSetup fun _ => MissionRevenue.sampleRunner)
      (sampleInputs "a") (stepCycle sampleSetup 0 none) sampleWorld with ⟨p, after⟩
  rw [stopped] at reported
  cases p with
  | ret result =>
    exact ⟨result, after, reported, cycle_takes_best sampleRules sampleSetup
      (fun _ => MissionRevenue.sampleRunner) MissionRevenue.sampleBooks samplePosts 0 (sampleInputs "a")
      result after stopped⟩
  | raise err => cases reported
  | call c next => cases reported

theorem sample_drained : ∃ results after, results.length = 3 ∧
    Drains sampleSetup sampleWorld after results ∧ Stops 3 results := by
  have reported : ((advance (respond sampleRules sampleSetup fun _ => MissionRevenue.sampleRunner)
      (sampleInputs "a" ++ sampleInputs "b" ++ sampleInputs "") (runCycles sampleSetup 0 [] 3)
      sampleWorld).1.returned.map List.length) = some 3 := by
    decide +kernel
  rcases stopped : advance (respond sampleRules sampleSetup fun _ => MissionRevenue.sampleRunner)
      (sampleInputs "a" ++ sampleInputs "b" ++ sampleInputs "") (runCycles sampleSetup 0 [] 3) sampleWorld with
    ⟨p, after⟩
  rw [stopped] at reported
  cases p with
  | ret results =>
    exact ⟨results, after, Option.some.inj reported, backlog_drains sampleRules sampleSetup
      (fun _ => MissionRevenue.sampleRunner) MissionRevenue.sampleBooks samplePosts 0 3
      (sampleInputs "a" ++ sampleInputs "b" ++ sampleInputs "") results after stopped⟩
  | raise err => cases reported
  | call c next => cases reported

end Samples

end DaemonBacklog
