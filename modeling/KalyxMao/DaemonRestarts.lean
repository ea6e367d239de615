import KalyxMao.DaemonRuns
import KalyxMao.StepRuns

/-!
# A new daemon for every cycle

The interface builds a daemon for each request, which reads back what the one before
has saved. While cycles return, this makes no difference but to the daemon's totals
and its history, which no cycle reads.
-/

namespace DaemonRestarts
open PythonText EffectPrograms DaemonCycles
open DaemonRuns (Always)
open PurchaseLoop (Loop LoopSettings)
open MissionRevenue (Runner)
open AcquisitionCosts (UnitEconomicsEvaluation)
open WorkOrderRepository (WorkOrder)

section Specification

/-- A world without the daemon's totals and history. -/
def forget (w : World) : World :=
  { w with daemon := { cycleCount := w.daemon.cycleCount, lastMissionId := w.daemon.lastMissionId } }

/-- What a new daemon would start from. -/
def savedState (k : Setup) (w : World) : Nat × Option String :=
  (k.states.get w.states k.stateKey).elim (0, none) fun row =>
    row.elim (0, none) fun row => (row.cycleCount, row.lastMissionId)

/-- The daemon remembers what is saved. -/
def Synced (k : Setup) (w : World) : Prop :=
  savedState k w = (w.daemon.cycleCount, w.daemon.lastMissionId)

variable (r : DaemonRules) (k : Setup) (runners : Nat → Runner)

/-- What the cycles of an event report, if they return. -/
def report (w : World) : Event → Option (List DaemonCycleResult)
  | .cycles runner maxCycles batches inputs =>
    (advance (respond r k runners) inputs (runCycles k runner batches maxCycles) w).1.returned
  | _ => none

def reports : World → List Event → List (List DaemonCycleResult)
  | _, [] => []
  | w, event :: events => (report r k runners w event).toList ++ reports (step r k runners w event) events

def isCycles : Event → Bool
  | .cycles _ _ _ _ => true
  | _ => false

def isStart : Event → Bool
  | .start _ => true
  | _ => false

/-- Cycles return. -/
def Finishes (w : World) (event : Event) : Prop :=
  isCycles event = true → (report r k runners w event).isSome = true

end Specification

section Likeness
variable {r : DaemonRules} {k : Setup} {runners : Nat → Runner} {w w' : World} {i : Input}

@[simp] theorem forget_forget (w : World) : forget (forget w) = forget w := rfl

theorem commit_forget {ρ : Type} (saved : Option ρ) (store : World → ρ → World)
    (stores : ∀ w rows, forget (store w rows) = forget (store (forget w) rows)) :
    (i.commit w saved (store w)).1 = (i.commit (forget w) saved (store (forget w))).1 ∧
      forget (i.commit w saved (store w)).2 =
        forget (i.commit (forget w) saved (store (forget w))).2 := by
  unfold Input.commit
  cases i.refuses with
  | true => exact ⟨rfl, rfl⟩
  | false =>
    cases saved with
    | none => exact ⟨rfl, rfl⟩
    | some rows => exact ⟨rfl, stores w rows⟩

/-- No command reads the totals or the history. -/
theorem respond_forget (c : Command) (w : World) (i : Input) :
    (respond r k runners c w i).1 = (respond r k runners c (forget w) i).1 ∧
      forget (respond r k runners c w i).2 = forget (respond r k runners c (forget w) i).2 := by
  cases c with
  | loadState =>
    unfold respond
    dsimp only
    have same : (forget w).states = w.states := rfl
    rw [same]
    split
    · exact ⟨rfl, rfl⟩
    · exact ⟨rfl, rfl⟩
    · exact ⟨rfl, rfl⟩
  | saveOrder order => exact commit_forget _ (fun w orders => { w with orders }) fun _ _ => rfl
  | recordLineage row => exact commit_forget _ (fun w lineage => { w with lineage }) fun _ _ => rfl
  | saveEvidence e =>
    exact commit_forget (some e) (fun w e => { w with evidence := w.evidence ++ [e] }) fun _ _ => rfl
  | persistState => exact commit_forget _ (fun w states => { w with states }) fun _ _ => rfl
  | _ => exact ⟨rfl, rfl⟩

theorem respond_alike (c : Command) (w w' : World) (i : Input) (alike : forget w = forget w') :
    (respond r k runners c w i).1 = (respond r k runners c w' i).1 ∧
      forget (respond r k runners c w i).2 = forget (respond r k runners c w' i).2 := by
  obtain ⟨answer, after⟩ := @respond_forget r k runners c w i
  obtain ⟨answer', after'⟩ := @respond_forget r k runners c w' i
  rw [alike] at answer after
  exact ⟨answer.trans answer'.symm, after.trans after'.symm⟩

theorem advance_forget {α : Type} (inputs : List Input) (p : Program α) (alike : forget w = forget w') :
    (advance (respond r k runners) inputs p w).1 = (advance (respond r k runners) inputs p w').1 ∧
      forget (advance (respond r k runners) inputs p w).2 =
        forget (advance (respond r k runners) inputs p w').2 :=
  @advance_alike _ _ _ _ _ _ _ (fun w w' => forget w = forget w') respond_alike inputs p _ _ alike

theorem step_alike (event : Event) (alike : forget w = forget w') :
    report r k runners w event = report r k runners w' event ∧
      forget (step r k runners w event) = forget (step r k runners w' event) := by
  cases event with
  | start inputs => exact ⟨rfl, (advance_forget inputs _ alike).2⟩
  | cycles runner maxCycles batches inputs =>
    obtain ⟨same, after⟩ := @advance_forget r k runners w w' _ inputs (runCycles k runner batches maxCycles) alike
    exact ⟨congrArg Prog.returned same, after⟩
  | post order inputs => exact ⟨rfl, (advance_forget inputs _ alike).2⟩
  | execute runner id inputs => exact ⟨rfl, (advance_forget inputs _ alike).2⟩

theorem Synced.alike (synced : Synced k w) (alike : forget w = forget w') : Synced k w' := by
  have states : w'.states = w.states := (congrArg World.states alike).symm
  have count : w'.daemon.cycleCount = w.daemon.cycleCount :=
    (congrArg (fun w => w.daemon.cycleCount) alike).symm
  have last : w'.daemon.lastMissionId = w.daemon.lastMissionId :=
    (congrArg (fun w => w.daemon.lastMissionId) alike).symm
  rw [Synced, savedState, states, count, last]
  exact synced

end Likeness

section Saving
variable {r : DaemonRules} {k : Setup} {runners : Nat → Runner} {w w' : World} {i : Input}

/-- What a new daemon reads is what the old one has saved. -/
theorem loadState_forget (synced : Synced k w) :
    forget (respond r k runners .loadState w i).2 = forget w := by
  unfold respond
  dsimp only
  split
  · rfl
  · rename_i answered
    have read := query_ok answered
    cases found : k.states.get w.states k.stateKey with
    | none =>
      rw [Synced, savedState, found] at synced
      obtain ⟨count, last⟩ := Prod.mk.inj synced
      simp [forget, ← count, ← last]
    | some row =>
      rw [found] at read
      cases row with
      | none => cases read
      | some row => cases read
  · rename_i row answered
    have read := query_ok answered
    cases found : k.states.get w.states k.stateKey with
    | none =>
      rw [found] at read
      cases read
    | some row' =>
      rw [found] at read
      cases row' with
      | none => cases read
      | some stored =>
        obtain rfl := Option.some.inj (Option.some.inj read)
        rw [Synced, savedState, found] at synced
        obtain ⟨count, last⟩ := Prod.mk.inj synced
        simp [forget, ← count, ← last]

theorem persistState_synced (saved : (respond r k runners .persistState w i).1 = .ok ()) :
    Synced k (respond r k runners .persistState w i).2 := by
  rcases commit_cases i w (k.states.save w.states ⟨k.stateKey, w.daemon.cycleCount,
    w.daemon.lastMissionId, i.now⟩) fun states => { w with states } with same | ⟨rows, stored, same⟩
  · have refused := (congrArg Prod.fst same).symm.trans saved
    cases refused
  · have world : (respond r k runners .persistState w i).2 = { w with states := rows } :=
      congrArg Prod.snd same
    rw [world]
    obtain ⟨row, wrote, found, -⟩ := UpsertTables.Layout.lookup_save stored
    have written : row = ⟨k.stateKey, w.daemon.cycleCount, w.daemon.lastMissionId, i.now⟩ := by
      unfold Setup.states at wrote
      dsimp only at wrote
      split_ifs at wrote
      exact (Option.some.inj wrote).symm
    subst written
    have place : k.states.key ⟨k.stateKey, w.daemon.cycleCount, w.daemon.lastMissionId, i.now⟩ =
        k.stateKey := rfl
    rw [place] at found
    rw [Synced, savedState, UpsertTables.Layout.get, found]
    cases KeyedLists.lookupBy k.states.rowKey w.states k.stateKey with
    | none => rfl
    | some before => rfl

/-- Nothing is asked of a program on its way. -/
theorem keeps_anything {α : Type} (p : Program α) (w : World) :
    Keeps (respond r k runners) Always (fun _ => True) (fun _ _ => True) (fun _ _ => True) p w := by
  induction p generalizing w with
  | ret a => trivial
  | raise e => trivial
  | call c next ih => exact ⟨trivial, fun i _ => ih _ _⟩

abbrev EndsSynced {α : Type} (r : DaemonRules) (k : Setup) (runners : Nat → Runner) (p : Program α)
    (w : World) : Prop :=
  Keeps (respond r k runners) Always (fun _ => True) (fun _ => Synced k) (fun _ _ => True) p w

theorem EndsSynced.after {α β : Type} {p : Program α} {f : α → Program β}
    (rest : ∀ a w, EndsSynced r k runners (f a) w) : EndsSynced r k runners (p >>= f) w :=
  (keeps_anything p w).bind fun a w _ => rest a w

theorem persistAndNote_synced (result : DaemonCycleResult) (w : World) :
    EndsSynced r k runners (persistAndNote result) w := by
  refine .perform trivial fun i answer w' _ saved => ?_
  cases answer with
  | error err => trivial
  | ok u =>
    have synced := @persistState_synced r k runners w i (congrArg Prod.fst saved)
    rw [saved] at synced
    refine .perform trivial fun i answer w'' _ noted => ?_
    obtain ⟨-, rfl⟩ := Prod.mk.inj noted
    exact synced

theorem stepCycle_synced (runner : Nat) (given : Option (List WorkOrder)) (w : World) :
    EndsSynced r k runners (stepCycle k runner given) w := by
  unfold stepCycle
  refine .after fun begun w => .after fun treasuryBefore w => ?_
  dsimp only
  split
  · exact persistAndNote_synced _ w
  · refine .after fun candidates w => ?_
    split
    · exact persistAndNote_synced _ w
    · unfold workCycle
      refine .after fun _ w => .after fun hex w => .after fun answer w => .after fun credits w => ?_
      refine .after fun loop w => .after fun outcome w => .after fun treasuryAfter w => ?_
      split
      · exact .after fun _ w => persistAndNote_synced _ w
      · exact persistAndNote_synced _ w

/-- Cycles that return leave the daemon saved. -/
theorem runCycles_synced (runner left : Nat) (batches : List (List WorkOrder)) (synced : Synced k w) :
    EndsSynced r k runners (runCycles k runner batches left) w := by
  induction left generalizing batches w with
  | zero => exact synced
  | succ left ih =>
    refine (stepCycle_synced runner batches.head? w).bind fun result w synced => ?_
    split
    · exact synced
    · exact (ih batches.tail synced).bind fun results w synced => synced

/-- Commands that leave the daemon and what it has saved alone. -/
def Elsewhere : Command → Prop
  | .loadState => False
  | .count => False
  | .succeeded _ _ => False
  | .persistState => False
  | .append _ => False
  | _ => True

theorem elsewhere_synced {c : Command} (elsewhere : Elsewhere c) (synced : Synced k w) :
    Synced k (respond r k runners c w i).2 := by
  cases c with
  | loadState => exact elsewhere.elim
  | count => exact elsewhere.elim
  | succeeded missionId event => exact elsewhere.elim
  | persistState => exact elsewhere.elim
  | append result => exact elsewhere.elim
  | saveOrder order =>
    rcases @saveOrder_cases r k runners w i order with
      same | ⟨rows, -, same⟩
    · rw [same]
      exact synced
    · rw [same]
      exact synced
  | recordLineage row =>
    rcases commit_cases i w (k.lineage.save w.lineage (row i.now)) fun lineage => { w with lineage } with
      same | ⟨rows, -, same⟩
    · exact congrArg Prod.snd same ▸ synced
    · have world : (respond r k runners (.recordLineage row) w i).2 = { w with lineage := rows } :=
        congrArg Prod.snd same
      rw [world]
      exact synced
  | saveEvidence e =>
    rcases commit_cases i w (some e) fun e => { w with evidence := w.evidence ++ [e] } with
      same | ⟨rows, -, same⟩
    · exact congrArg Prod.snd same ▸ synced
    · have world : (respond r k runners (.saveEvidence e) w i).2 =
          { w with evidence := w.evidence ++ [rows] } := congrArg Prod.snd same
      rw [world]
      exact synced
  | _ => exact synced

theorem ask_elsewhere {c : Command} (elsewhere : Elsewhere c) : Issues Elsewhere (ask c) :=
  .perform elsewhere

theorem rejectOrder_elsewhere (order : WorkOrder) : Issues Elsewhere (rejectOrder order) :=
  .bind (ask_elsewhere trivial) fun saved => .ofExcept saved

theorem saveEvidence_elsewhere {α : Type} (wrap : α → Evidence) (a : Option α) :
    Issues Elsewhere (saveEvidence wrap a) := by
  cases a with
  | none => trivial
  | some a => exact .bind (ask_elsewhere trivial) fun saved => .ofExcept saved

theorem coordinateSingleOrder_elsewhere (f : Funding) (missionId : String) (order : WorkOrder)
    (e : UnitEconomicsEvaluation) (loop : Option (LoopSettings × Loop)) :
    Issues Elsewhere (coordinateSingleOrder f missionId order e loop) := by
  have worksOn : Issues Elsewhere (do
      let worked ← ask (.mission f.runner missionId order loop)
      let result ← Prog.ofExcept worked
      saveEvidence .deliverable result.deliverable
      saveEvidence .receipt result.receipt
      saveEvidence .revenueEvent result.revenueEvent
      let saved ← ask (.saveOrder { order with status := result.workOrder.status })
      Prog.ofExcept saved
      return executionOutcome missionId order e result) := by
    refine .bind (ask_elsewhere trivial) fun worked => .bind (.ofExcept worked) fun result => ?_
    refine .bind (saveEvidence_elsewhere _ _) fun _ => .bind (saveEvidence_elsewhere _ _) fun _ => ?_
    refine .bind (saveEvidence_elsewhere _ _) fun _ => .bind (ask_elsewhere trivial) fun saved => ?_
    exact .bind (.ofExcept saved) fun _ => trivial
  unfold coordinateSingleOrder
  split
  · exact .bind (rejectOrder_elsewhere order) fun _ => trivial
  · refine .bind (ask_elsewhere trivial) fun saved => .bind (.ofExcept saved) fun _ => ?_
    split_ifs
    · exact .bind (ask_elsewhere trivial) fun recorded => .bind (.ofExcept recorded) fun _ => worksOn
    · exact worksOn

theorem executeOrder_elsewhere (runner : Nat) (id : String) :
    Issues Elsewhere (executeOrder runner id) := by
  unfold executeOrder
  refine .bind (ask_elsewhere trivial) fun found => .bind (.ofExcept found) fun order => ?_
  split
  · trivial
  · refine .bind (ask_elsewhere trivial) fun _ => .bind (ask_elsewhere trivial) fun treasuryUsdg => ?_
    refine .bind (ask_elsewhere trivial) fun answer => .bind (.ofExcept answer) fun credits => ?_
    refine .bind (ask_elsewhere trivial) fun hex => .bind ?_ fun loop => ?_
    · unfold loopForShortfall
      split
      · exact .bind (ask_elsewhere trivial) fun built => .bind (.ofExcept built) fun _ => trivial
      · trivial
    · refine .bind (.ofExcept _) fun evaluations => ?_
      split
      · exact coordinateSingleOrder_elsewhere ..
      · trivial
      · exact .bind (rejectOrder_elsewhere _) fun _ => trivial

theorem advance_elsewhere {α : Type} {p : Program α} (elsewhere : Issues Elsewhere p) (inputs : List Input)
    (synced : Synced k w) : Synced k (advance (respond r k runners) inputs p w).2 := by
  have kept : Keeps (respond r k runners) Always (Synced k) (fun _ => Synced k) (fun _ => Synced k) p w :=
    elsewhere.keeps (fun _ _ _ elsewhere _ synced => elsewhere_synced elsewhere synced)
      (fun _ synced => synced) synced
  exact kept.advance (fun _ _ => id) (fun _ _ => id) inputs (.always _ (fun _ _ _ => trivial) inputs p w)

end Saving

section Runs
variable {r : DaemonRules} {k : Setup} {runners : Nat → Runner} {w w' : World}

theorem advance_ofExcept {α : Type} (x : Except PyError α) (inputs : List Input) (w : World) :
    (advance (respond r k runners) inputs (Prog.ofExcept x : Program α) w).2 = w := by
  cases inputs with
  | nil => rfl
  | cons i rest =>
    cases x with
    | error err => rfl
    | ok a => rfl

theorem start_forget (synced : Synced k w) (inputs : List Input) :
    forget (step r k runners w (.start inputs)) = forget w := by
  cases inputs with
  | nil => rfl
  | cons i rest =>
    have first := @loadState_forget r k runners w i synced
    have done : step r k runners w (.start (i :: rest)) = (respond r k runners .loadState w i).2 :=
      @advance_ofExcept r k runners Unit (respond r k runners .loadState w i).1 rest _
    rw [done]
    exact first

theorem step_synced {event : Event} (synced : Synced k w) (finishes : Finishes r k runners w event) :
    Synced k (step r k runners w event) := by
  cases event with
  | start inputs => exact synced.alike (start_forget synced inputs).symm
  | cycles runner maxCycles batches inputs =>
    obtain ⟨results, done⟩ := Option.isSome_iff_exists.mp (finishes rfl)
    have outcome := (@runCycles_synced r k runners w runner maxCycles batches synced).outcome inputs
      (.always _ (fun _ _ _ => trivial) inputs _ w)
    have world : step r k runners w (.cycles runner maxCycles batches inputs) =
        (advance (respond r k runners) inputs (runCycles k runner batches maxCycles) w).2 := rfl
    have answered : (advance (respond r k runners) inputs
        (runCycles k runner batches maxCycles) w).1.returned = some results := done
    rw [world]
    rcases stopped : advance (respond r k runners) inputs (runCycles k runner batches maxCycles) w with
      ⟨p, after⟩
    rw [stopped] at outcome answered
    cases p with
    | ret results => exact outcome
    | raise err => cases answered
    | call c next => cases answered
  | post order inputs =>
    refine advance_elsewhere ?_ inputs synced
    exact .bind (ask_elsewhere trivial) fun saved => .ofExcept saved
  | execute runner id inputs => exact advance_elsewhere (executeOrder_elsewhere runner id) inputs synced

theorem runs_alike (events : List Event) (synced : Synced k w) (alike : forget w = forget w')
    (finishes : StepRuns.Along (step r k runners) (Finishes r k runners) w events) :
    reports r k runners w events = reports r k runners w' (events.filter fun e => !isStart e) ∧
      forget (run r k runners w events) =
        forget (run r k runners w' (events.filter fun e => !isStart e)) := by
  induction events generalizing w w' with
  | nil => exact ⟨rfl, alike⟩
  | cons event events ih =>
    have next := step_synced synced finishes.1
    cases started : isStart event with
    | true =>
      have skipped : (event :: events).filter (fun e => !isStart e) = events.filter fun e => !isStart e := by
        simp [started]
      have quiet : report r k runners w event = none ∧ forget (step r k runners w event) = forget w := by
        cases event with
        | start inputs => exact ⟨rfl, start_forget synced inputs⟩
        | _ => cases started
      obtain ⟨same, after⟩ := ih next (quiet.2.trans alike) finishes.2
      rw [skipped]
      refine ⟨?_, after⟩
      rw [reports, quiet.1]
      exact same
    | false =>
      have kept : (event :: events).filter (fun e => !isStart e) =
          event :: events.filter fun e => !isStart e := by
        simp [started]
      obtain ⟨first, alike⟩ := @step_alike r k runners w w' event alike
      obtain ⟨same, after⟩ := ih next alike finishes.2
      rw [kept]
      refine ⟨?_, after⟩
      rw [reports, reports, first, same]

/-- While the cycles of a run return, new daemons between them change nothing: the same cycles
report the same, and the ledger, the tables, the missions and what is remembered of them end up the
same as with one daemon throughout. -/
theorem restarts_invisible (r : DaemonRules) (k : Setup) (runners : Nat → Runner) (w : World)
    (events : List Event) (synced : Synced k w)
    (finishes : StepRuns.Along (step r k runners) (Finishes r k runners) w events) :
    reports r k runners w events = reports r k runners w (events.filter fun e => !isStart e) ∧
      forget (run r k runners w events) =
        forget (run r k runners w (events.filter fun e => !isStart e)) :=
  runs_alike events synced rfl finishes

end Runs

section Sample

/-- Two orders are posted and worked on, the second by another daemon. -/
def sampleEvents : List Event :=
  [.post (sampleOrder "a") [sampleInput "a"], .cycles 0 1 [] (List.replicate 20 (sampleInput "a")),
    .start [sampleInput "b"], .post (sampleOrder "b") [sampleInput "b"],
    .cycles 1 1 [] (List.replicate 20 (sampleInput "b"))]

def sampleWorld : World := { books := MissionRevenue.sampleBooks }

theorem sample_restart : forget (run sampleRules sampleSetup (fun _ => MissionRevenue.sampleRunner)
      sampleWorld sampleEvents) =
    forget (run sampleRules sampleSetup (fun _ => MissionRevenue.sampleRunner) sampleWorld
      [.post (sampleOrder "a") [sampleInput "a"], .cycles 0 1 [] (List.replicate 20 (sampleInput "a")),
        .post (sampleOrder "b") [sampleInput "b"],
        .cycles 1 1 [] (List.replicate 20 (sampleInput "b"))]) := by
  refine (restarts_invisible sampleRules sampleSetup (fun _ => MissionRevenue.sampleRunner) sampleWorld
    sampleEvents rfl ⟨nofun, fun _ => ?_, nofun, nofun, fun _ => ?_, trivial⟩).2
  · decide +kernel
  · decide +kernel

end Sample

end DaemonRestarts
