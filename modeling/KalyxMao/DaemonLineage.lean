import KalyxMao.DaemonRuns
import Mathlib.Logic.Relation

/-!
# What missions descend from

Before a mission starts, its parent is recorded: the mission of the daemon that
succeeded last, also where another daemon saw it succeed. Cycle numbers fall along the
parents, so every line of missions begins with one that the treasury reserve paid for.
-/

namespace DaemonLineage
open PythonText EffectPrograms DaemonCycles
open DaemonRuns (Always)
open PurchaseLoop (Loop LoopSettings)
open MissionRevenue (Runner MissionExecutionResult SolvencyRegime deriveSolvencyRegime)
open AcquisitionCosts (UnitEconomicsEvaluation)
open WorkOrderRepository (WorkOrder Key)

section Specification

/-- A mission that succeeded, with its row. -/
structure Achieved (w : World) (missionId : String) : Prop where
  succeeded : ∃ m ∈ w.missions, m.missionId = missionId ∧ m.success = true
  recorded : ∃ row ∈ w.lineage, row.key.id = missionId

/-- The mission remembered at a cycle number is of a cycle up to it. -/
def Known (w : World) (n : Nat) (last : Option String) : Prop :=
  ∀ p, last = some p → ∃ m hex, p = missionIdOf m hex ∧ m ≤ n ∧ Achieved w p

/-- A row is of a mission that the reserve paid for, or its parent succeeded in an earlier cycle. -/
structure Descends (w : World) (row : LineageRow) (n : Nat) (hex : String) : Prop where
  named : row.key.id = missionIdOf n hex
  funded : (row.parentMissionId = none ∧ row.fundingSource = "TREASURY_RESERVE") ∨
    ∃ p m hex', row.parentMissionId = some p ∧ row.fundingSource = "PRIOR_SURPLUS" ∧
      p = missionIdOf m hex' ∧ m < n ∧ Achieved w p

structure Lineal (w : World) : Prop where
  rows : ∀ row ∈ w.lineage, ∃ n hex, Descends w row n hex
  daemon : Known w w.daemon.cycleCount w.daemon.lastMissionId
  states : ∀ row ∈ w.states, Known w row.cycleCount row.lastMissionId

/-- One mission is the recorded parent of another. -/
def Parent (w : World) (p q : String) : Prop :=
  ∃ row ∈ w.lineage, row.key.id = q ∧ row.parentMissionId = some p

end Specification

section Names

theorem hyphen_not_digit (n : Nat) : '-' ∉ n.repr.toList := by
  intro mem
  rw [Nat.toList_repr] at mem
  exact absurd (Nat.isDigit_of_mem_toDigits (by decide) (by decide) mem) (by decide)

theorem missionIdOf_toList (n : Nat) (hex : String) :
    (missionIdOf n hex).toList = "mission-cycle-".toList ++ (n.repr.toList ++ '-' :: hex.toList) := by
  have same : missionIdOf n hex = "mission-cycle-" ++ n.repr ++ "-" ++ hex := rfl
  have hyphen : "-".toList = ['-'] := by decide
  rw [same, String.toList_append, String.toList_append, String.toList_append, hyphen]
  simp

theorem before_hyphen {xs ys us vs : List Char} (hx : '-' ∉ xs) (hy : '-' ∉ ys)
    (same : xs ++ '-' :: us = ys ++ '-' :: vs) : xs = ys := by
  have first (zs ts : List Char) (hz : '-' ∉ zs) : (zs ++ '-' :: ts).takeWhile (· ≠ '-') = zs := by
    rw [List.takeWhile_append_of_pos]
    · simp
    · intro c mem
      simpa using fun same : c = '-' => hz (same ▸ mem)
  rw [← first xs us hx, same, first ys vs hy]

/-- An identifier tells the cycle of its mission. -/
theorem missionIdOf_cycle {m n : Nat} {hex hex' : String} (same : missionIdOf m hex = missionIdOf n hex') :
    m = n := by
  have texts := congrArg String.toList same
  rw [missionIdOf_toList, missionIdOf_toList] at texts
  exact CanonicalText.digits_inj
    (before_hyphen (hyphen_not_digit m) (hyphen_not_digit n) (List.append_cancel_left texts))

theorem missionIdOf_ne_empty (n : Nat) (hex : String) : missionIdOf n hex ≠ "" := by
  intro empty
  have texts := congrArg String.toList empty
  rw [missionIdOf_toList] at texts
  cases texts

end Names

section Growth
variable {w w' : World}

/-- Missions are not forgotten, and rows keep their names. -/
structure Grows (w w' : World) : Prop where
  missions : ∀ m ∈ w.missions, m ∈ w'.missions
  rows : ∀ row ∈ w.lineage, ∃ row' ∈ w'.lineage, row'.key.id = row.key.id

theorem Grows.refl (w : World) : Grows w w := ⟨fun _ mem => mem, fun row mem => ⟨row, mem, rfl⟩⟩

theorem Achieved.mono {p : String} (achieved : Achieved w p) (grows : Grows w w') : Achieved w' p := by
  obtain ⟨⟨m, mem, same, success⟩, ⟨row, there, name⟩⟩ := achieved
  obtain ⟨row', there', kept⟩ := grows.rows row there
  exact ⟨⟨m, grows.missions m mem, same, success⟩, ⟨row', there', kept.trans name⟩⟩

theorem Known.mono {n n' : Nat} {last : Option String} (known : Known w n last) (grows : Grows w w')
    (le : n ≤ n') : Known w' n' last := by
  intro p same
  obtain ⟨m, hex, rfl, before, achieved⟩ := known p same
  exact ⟨m, hex, rfl, Nat.le_trans before le, achieved.mono grows⟩

theorem Descends.mono {row : LineageRow} {n : Nat} {hex : String} (descends : Descends w row n hex)
    (grows : Grows w w') : Descends w' row n hex := by
  refine ⟨descends.named, descends.funded.imp_right ?_⟩
  rintro ⟨p, m, hex', parent, source, name, before, achieved⟩
  exact ⟨p, m, hex', parent, source, name, before, achieved.mono grows⟩

/-- Where missions and rows grow, the rows that are new descend and what is remembered is known, the
world stays as it should. -/
theorem Lineal.grow (lineal : Lineal w) (grows : Grows w w')
    (rows : ∀ row ∈ w'.lineage, row ∈ w.lineage ∨ ∃ n hex, Descends w' row n hex)
    (daemon : Known w' w'.daemon.cycleCount w'.daemon.lastMissionId)
    (states : ∀ row ∈ w'.states, row ∈ w.states ∨ Known w' row.cycleCount row.lastMissionId) :
    Lineal w' := by
  refine ⟨?_, daemon, ?_⟩
  · intro row mem
    rcases rows row mem with old | new
    · obtain ⟨n, hex, descends⟩ := lineal.rows row old
      exact ⟨n, hex, descends.mono grows⟩
    · exact new
  · intro row mem
    rcases states row mem with old | new
    · exact (lineal.states row old).mono grows le_rfl
    · exact new

end Growth

section Commands
variable {r : DaemonRules} {k : Setup} {runners : Nat → Runner} {w w' : World} {i : Input} {c : Command}

/-- Nothing happens to missions, rows and what is remembered of them. -/
structure Steady (w w' : World) : Prop where
  missions : w'.missions = w.missions
  lineage : w'.lineage = w.lineage
  states : w'.states = w.states
  cycleCount : w'.daemon.cycleCount = w.daemon.cycleCount
  lastMissionId : w'.daemon.lastMissionId = w.daemon.lastMissionId

theorem Steady.grows (steady : Steady w w') : Grows w w' :=
  ⟨fun _ mem => steady.missions ▸ mem, fun row mem => ⟨row, steady.lineage ▸ mem, rfl⟩⟩

theorem Lineal.steady (lineal : Lineal w) (steady : Steady w w') : Lineal w' := by
  refine lineal.grow steady.grows (fun row mem => .inl (steady.lineage ▸ mem)) ?_
    fun row mem => .inl (steady.states ▸ mem)
  rw [steady.cycleCount, steady.lastMissionId]
  exact lineal.daemon.mono steady.grows le_rfl

/-- A command that has nothing to do with missions. -/
def Plain : Command → Prop
  | .loadState => False
  | .count => False
  | .recordLineage _ => False
  | .mission _ _ _ _ => False
  | .succeeded _ _ => False
  | .persistState => False
  | _ => True

theorem plain_command (plain : Plain c) : Steady w (respond r k runners c w i).2 := by
  cases c with
  | loadState => exact plain.elim
  | count => exact plain.elim
  | recordLineage row => exact plain.elim
  | mission runner missionId order loop => exact plain.elim
  | succeeded missionId event => exact plain.elim
  | persistState => exact plain.elim
  | saveOrder order =>
    rcases @saveOrder_cases r k runners w i order with
      same | ⟨rows, -, same⟩
    · rw [same]
      exact ⟨rfl, rfl, rfl, rfl, rfl⟩
    · rw [same]
      exact ⟨rfl, rfl, rfl, rfl, rfl⟩
  | saveEvidence e =>
    rcases commit_cases i w (some e) fun e => { w with evidence := w.evidence ++ [e] } with
      same | ⟨rows, -, same⟩
    · have world := congrArg Prod.snd same
      exact world ▸ ⟨rfl, rfl, rfl, rfl, rfl⟩
    · have world := congrArg Prod.snd same
      exact world ▸ ⟨rfl, rfl, rfl, rfl, rfl⟩
  | _ => exact ⟨rfl, rfl, rfl, rfl, rfl⟩

theorem recordLineage_cases (row : String → LineageRow) :
    (respond r k runners (.recordLineage row) w i) = (.error i.refusal, w) ∨
      ∃ rows, k.lineage.save w.lineage (row i.now) = some rows ∧
        respond r k runners (.recordLineage row) w i = (.ok (), { w with lineage := rows }) :=
  commit_cases i w _ _

theorem persistState_cases : (respond r k runners .persistState w i) = (.error i.refusal, w) ∨
    ∃ rows, k.states.save w.states
        ⟨k.stateKey, w.daemon.cycleCount, w.daemon.lastMissionId, i.now⟩ = some rows ∧
      respond r k runners .persistState w i = (.ok (), { w with states := rows }) :=
  commit_cases i w _ _

theorem lineage_saved {rows rows' : List LineageRow} {row : LineageRow}
    (saved : k.lineage.save rows row = some rows') :
    (∀ x ∈ rows', x ∈ rows ∨ x.key = row.key ∧ x.parentMissionId = row.parentMissionId ∧
        x.fundingSource = row.fundingSource) ∧
      (∀ x ∈ rows, ∃ x' ∈ rows', x'.key = x.key) ∧ ∃ x ∈ rows', x.key = row.key := by
  obtain ⟨written, new, wrote, stored⟩ := UpsertTables.Layout.mem_save saved
  have same : written = row := by
    unfold Setup.lineage at wrote
    dsimp only at wrote
    split_ifs at wrote
    exact (Option.some.inj wrote).symm
  subst same
  refine ⟨?_, ?_, new, stored.there, stored.rowKey⟩
  · intro x mem
    rcases stored.members x mem with rfl | ⟨old, -⟩
    · refine .inr ⟨stored.rowKey, ?_⟩
      rcases stored.made with rfl | ⟨before, -, rfl⟩
      · exact ⟨rfl, rfl⟩
      · exact ⟨rfl, rfl⟩
    · exact .inl old
  · intro x old
    by_cases same : x.key = written.key
    · exact ⟨new, stored.there, stored.rowKey.trans same.symm⟩
    · exact ⟨x, stored.kept x old same, rfl⟩

theorem states_saved {rows rows' : List DaemonStateRow} {row : DaemonStateRow}
    (saved : k.states.save rows row = some rows') : ∀ x ∈ rows', x ∈ rows ∨
      x.key = row.key ∧ x.cycleCount = row.cycleCount ∧ x.lastMissionId = row.lastMissionId := by
  obtain ⟨written, new, wrote, stored⟩ := UpsertTables.Layout.mem_save saved
  have same : written = row := by
    unfold Setup.states at wrote
    dsimp only at wrote
    split_ifs at wrote
    exact (Option.some.inj wrote).symm
  subst same
  intro x mem
  rcases stored.members x mem with rfl | ⟨old, -⟩
  · refine .inr ⟨stored.rowKey, ?_⟩
    rcases stored.made with rfl | ⟨before, -, rfl⟩
    · exact ⟨rfl, rfl⟩
    · exact ⟨rfl, rfl⟩
  · exact .inl old

/-- A record of a mission that descends leaves everything in line, and the mission recorded. -/
theorem recordLineage_lineal {row : String → LineageRow} {n : Nat} {hex : String} (lineal : Lineal w)
    (descends : ∀ now, Descends w (row now) n hex) {answer : Except PyError Unit}
    (recorded : respond r k runners (.recordLineage row) w i = (answer, w')) :
    Lineal w' ∧ Grows w w' ∧ w'.daemon = w.daemon ∧
      (answer = .ok () → ∃ x ∈ w'.lineage, x.key.id = missionIdOf n hex) := by
  rcases @recordLineage_cases r k runners w i row with
    same | ⟨rows, saved, same⟩
  · obtain ⟨rfl, rfl⟩ := Prod.mk.inj (same.symm.trans recorded)
    exact ⟨lineal, .refl w, rfl, nofun⟩
  · obtain ⟨rfl, rfl⟩ := Prod.mk.inj (same.symm.trans recorded)
    obtain ⟨members, kept, x, there, place⟩ := lineage_saved saved
    have grows : Grows w { w with lineage := rows } := by
      refine ⟨fun _ mem => mem, fun row mem => ?_⟩
      obtain ⟨row', there, same⟩ := kept row mem
      exact ⟨row', there, congrArg Key.id same⟩
    refine ⟨lineal.grow grows ?_ (lineal.daemon.mono grows le_rfl) fun _ mem => .inl mem, grows, rfl, ?_⟩
    · intro row' mem
      refine (members row' mem).imp_right ?_
      rintro ⟨key, parent, source⟩
      obtain ⟨named, funded⟩ := (descends i.now).mono grows
      refine ⟨n, hex, ?_, ?_⟩
      · rw [key, named]
      · rw [parent, source]
        exact funded
    · intro _
      exact ⟨x, there, place ▸ (descends i.now).named⟩

theorem mission_lineal {runner : Nat} {missionId : String} {order : WorkOrder}
    {loop : Option (LoopSettings × Loop)} {answer : Except PyError MissionExecutionResult}
    (lineal : Lineal w)
    (done : respond r k runners (.mission runner missionId order loop) w i = (answer, w')) :
    Lineal w' ∧ Grows w w' ∧ w'.daemon = w.daemon ∧
      ∀ result, answer = .ok result → result.success = true →
        ∃ m ∈ w'.missions, m.missionId = missionId ∧ m.success = true := by
  obtain ⟨rfl, rfl⟩ := Prod.mk.inj done
  have grows : Grows w (respond r k runners (.mission runner missionId order loop) w i).2 :=
    ⟨fun _ mem => List.mem_append_left _ mem, fun row mem => ⟨row, mem, rfl⟩⟩
  refine ⟨lineal.grow grows (fun _ mem => .inl mem) (lineal.daemon.mono grows le_rfl)
    fun _ mem => .inl mem, grows, rfl, ?_⟩
  intro result answered success
  refine ⟨_, List.mem_append_right _ (List.mem_singleton_self _), rfl, ?_⟩
  have same : (runMission r runners i w runner order loop).1 = .ok result := answered
  rw [same]
  exact success

end Commands

section Programs
variable {r : DaemonRules} {k : Setup} {runners : Nat → Runner} {w : World} {cycle : Nat}
  {parent : Option String}

/-- Inside a cycle: its number is counted, and its parent succeeded in an earlier one. -/
structure Under (cycle : Nat) (parent : Option String) (w : World) : Prop where
  lineal : Lineal w
  counted : w.daemon.cycleCount = cycle
  parent : ∀ p, parent = some p → ∃ m hex, p = missionIdOf m hex ∧ m < cycle ∧ Achieved w p

theorem Under.grow {w' : World} (under : Under cycle parent w) (lineal : Lineal w') (grows : Grows w w')
    (counted : w'.daemon.cycleCount = w.daemon.cycleCount) : Under cycle parent w' := by
  refine ⟨lineal, counted.trans under.counted, fun p same => ?_⟩
  obtain ⟨m, hex, name, before, achieved⟩ := under.parent p same
  exact ⟨m, hex, name, before, achieved.mono grows⟩

theorem Under.steady {w' : World} (under : Under cycle parent w) (steady : Steady w w') :
    Under cycle parent w' :=
  under.grow (under.lineal.steady steady) steady.grows steady.cycleCount

/-- Plain commands keep what does not change with missions, rows and memory. -/
theorem plain_keeps {α : Type} {p : Program α} {J : World → Prop} (plain : Issues Plain p)
    (stable : ∀ w w', J w → Steady w w' → J w') (here : ∀ w, J w → Lineal w) (now : J w) :
    Keeps (respond r k runners) Always Lineal (fun _ => J) (fun _ => Lineal) p w :=
  (plain.keeps (fun _ _ _ plain _ now => stable _ _ now (plain_command plain)) here now).weaken
    fun _ w now => here w now

theorem plain_under {α : Type} {p : Program α} (plain : Issues Plain p) (under : Under cycle parent w) :
    Keeps (respond r k runners) Always Lineal (fun _ => Under cycle parent) (fun _ => Lineal) p w :=
  plain_keeps plain (fun _ _ under steady => under.steady steady) (fun _ under => under.lineal) under

theorem ofExcept_keeps {α : Type} {x : Except PyError α} {J : World → Prop} (now : J w)
    (lineal : Lineal w) : Keeps (respond r k runners) Always Lineal (fun _ => J) (fun _ => Lineal)
      (Prog.ofExcept x) w :=
  .ofExcept (fun _ _ => now) fun _ _ => lineal

theorem plain_ask {c : Command} (plain : Plain c) : Issues Plain (ask c) := .perform plain

theorem plain_rejectOrder (order : WorkOrder) : Issues Plain (rejectOrder order) :=
  .bind (plain_ask trivial) fun saved => .ofExcept saved

theorem plain_saveEvidence {α : Type} (wrap : α → Evidence) (a : Option α) :
    Issues Plain (saveEvidence wrap a) := by
  cases a with
  | none => trivial
  | some a => exact .bind (plain_ask trivial) fun saved => .ofExcept saved

theorem plain_buildPurchaseLoop (regime : SolvencyRegime) (missionId : String)
    (candidates : List WorkOrder) : Issues Plain (buildPurchaseLoop k regime missionId candidates) := by
  unfold buildPurchaseLoop
  split
  · refine .bind (plain_ask trivial) fun built => ?_
    split
    · exact .bind (plain_ask trivial) fun built => .bind (.ofExcept built) fun _ => trivial
    · exact .bind (.ofExcept _) fun _ => trivial
  · trivial

theorem plain_loopForShortfall (missionId : String) (order : WorkOrder) (credits : Int) :
    Issues Plain (loopForShortfall missionId order credits) := by
  unfold loopForShortfall
  split
  · exact .bind (plain_ask trivial) fun built => .bind (.ofExcept built) fun _ => trivial
  · trivial

theorem plain_candidatesOf (given : Option (List WorkOrder)) : Issues Plain (candidatesOf given) := by
  unfold candidatesOf
  split
  · trivial
  · exact .bind (plain_ask trivial) fun listed => .ofExcept listed

/-- Whether a funding is recorded. -/
def recorded (f : Funding) : Bool := f.parentMissionId.any (· ≠ "") || decide (0 < f.amountUsdg)

/-- What is recorded of a mission comes from its cycle. -/
def Funds (cycle : Nat) (hex : String) (f : Funding) (missionId : String) : Prop :=
  recorded f = true → missionId = missionIdOf cycle hex ∧
    f.source = if f.parentMissionId.any (· ≠ "") then "PRIOR_SURPLUS" else "TREASURY_RESERVE"

/-- What coordination returns: if it succeeds and is recorded, the mission is achieved. -/
def Concluded (cycle : Nat) (f : Funding) (missionId : String) (outcome : WorkOrderExecutionOutcome)
    (w : World) : Prop :=
  Under cycle f.parentMissionId w ∧
    (outcome.success = true → recorded f = true → Achieved w missionId)

theorem Under.descends {f : Funding} {hex missionId now : String} {order : WorkOrder}
    (under : Under cycle f.parentMissionId w) (funds : Funds cycle hex f missionId)
    (records : recorded f = true) :
    Descends w (lineageRow missionId order f.parentMissionId f.source f.amountUsdg now) cycle hex := by
  obtain ⟨named, source⟩ := funds records
  refine ⟨named, ?_⟩
  rw [lineageRow]
  cases last : f.parentMissionId with
  | none =>
    refine .inl ⟨rfl, ?_⟩
    rw [source, last]
    rfl
  | some p =>
    obtain ⟨m, hex', name, before, achieved⟩ := under.parent p last
    refine .inr ⟨p, m, hex', rfl, ?_, name, before, achieved⟩
    have filled : p ≠ "" := name ▸ missionIdOf_ne_empty m hex'
    rw [source, last]
    simp [filled]

theorem coordinateSingleOrder_keeps {f : Funding} {hex missionId : String} (order : WorkOrder)
    (e : UnitEconomicsEvaluation) (loop : Option (LoopSettings × Loop))
    (under : Under cycle f.parentMissionId w) (funds : Funds cycle hex f missionId) :
    Keeps (respond r k runners) Always Lineal (Concluded cycle f missionId) (fun _ => Lineal)
      (coordinateSingleOrder f missionId order e loop) w := by
  unfold coordinateSingleOrder
  split
  · refine (plain_under (plain_rejectOrder order) under).bind fun _ w under => ?_
    exact ⟨under, nofun⟩
  · refine (plain_under (plain_ask (by trivial)) under).bind fun saved w under => ?_
    refine (ofExcept_keeps under under.lineal).bind fun _ w under => ?_
    let J (w : World) : Prop := Under cycle f.parentMissionId w ∧
      (recorded f = true → ∃ x ∈ w.lineage, x.key.id = missionId)
    have worksOn : ∀ w, J w → Keeps (respond r k runners) Always Lineal
        (Concluded cycle f missionId) (fun _ => Lineal) (do
          let worked ← ask (.mission f.runner missionId order loop)
          let result ← Prog.ofExcept worked
          saveEvidence .deliverable result.deliverable
          saveEvidence .receipt result.receipt
          saveEvidence .revenueEvent result.revenueEvent
          let saved ← ask (.saveOrder { order with status := result.workOrder.status })
          Prog.ofExcept saved
          return executionOutcome missionId order e result) w := by
      rintro w ⟨under, row⟩
      refine .perform under.lineal fun i answer w' _ done => ?_
      obtain ⟨lineal, grows, daemon, success⟩ := mission_lineal under.lineal done
      have later := under.grow lineal grows (congrArg Daemon.cycleCount daemon)
      cases answer with
      | error err => exact lineal
      | ok result =>
        let K (w : World) : Prop := Under cycle f.parentMissionId w ∧
          (result.success = true → recorded f = true → Achieved w missionId)
        have kept {α : Type} {p : Program α} (plain : Issues Plain p) {w : World} (now : K w) :=
          @plain_keeps r k runners w α p K plain
            (fun _ _ now steady => ⟨now.1.steady steady,
              fun success records => (now.2 success records).mono steady.grows⟩)
            (fun _ now => now.1.lineal) now
        have now : K w' := by
          refine ⟨later, fun done records => ⟨success result rfl done, ?_⟩⟩
          obtain ⟨x, there, name⟩ := row records
          obtain ⟨x', there', same⟩ := grows.rows x there
          exact ⟨x', there', same.trans name⟩
        refine (kept (plain_saveEvidence _ _) now).bind fun _ w now => ?_
        refine (kept (plain_saveEvidence _ _) now).bind fun _ w now => ?_
        refine (kept (plain_saveEvidence _ _) now).bind fun _ w now => ?_
        refine (kept (plain_ask (by trivial)) now).bind fun saved w now => ?_
        exact (ofExcept_keeps now now.1.lineal).bind fun _ w now => now
    split_ifs with records
    · refine .perform under.lineal fun i answer w' _ done => ?_
      obtain ⟨lineal, grows, daemon, row⟩ :=
        recordLineage_lineal under.lineal (fun now => under.descends funds records) done
      cases answer with
      | error err => exact lineal
      | ok u =>
        refine worksOn w' ⟨under.grow lineal grows (congrArg Daemon.cycleCount daemon), fun _ => ?_⟩
        rw [(funds records).1]
        exact row rfl
    · exact worksOn w ⟨under, fun yes => absurd yes records⟩

theorem selectAndCoordinate_keeps {f : Funding} {hex missionId : String} (orders : List WorkOrder)
    (treasuryUsdg credits : Int) (minMarginRatio : ℚ) (loop : Option (LoopSettings × Loop))
    (under : Under cycle f.parentMissionId w) (funds : Funds cycle hex f missionId) :
    Keeps (respond r k runners) Always Lineal (Concluded cycle f missionId) (fun _ => Lineal)
      (selectAndCoordinate f missionId orders treasuryUsdg credits minMarginRatio loop) w := by
  unfold selectAndCoordinate
  refine (ofExcept_keeps under under.lineal).bind fun evaluations w under => ?_
  split
  · exact coordinateSingleOrder_keeps _ _ loop under funds
  · exact ⟨under, nofun⟩
  · exact (plain_under (plain_rejectOrder _) under).bind fun _ w under => ⟨under, nofun⟩

theorem persistAndNote_keeps (result : DaemonCycleResult) (lineal : Lineal w) :
    Keeps (respond r k runners) Always Lineal (fun _ => Lineal) (fun _ => Lineal)
      (persistAndNote result) w := by
  refine .perform lineal fun i answer w' _ saved => ?_
  have after : Lineal w' := by
    rcases @persistState_cases r k runners w i with
      same | ⟨rows, stored, same⟩
    · obtain ⟨-, rfl⟩ := Prod.mk.inj (same.symm.trans saved)
      exact lineal
    · obtain ⟨-, rfl⟩ := Prod.mk.inj (same.symm.trans saved)
      have grows : Grows w { w with states := rows } := ⟨fun _ mem => mem, fun row mem => ⟨row, mem, rfl⟩⟩
      refine lineal.grow grows (fun _ mem => .inl mem) (lineal.daemon.mono grows le_rfl) ?_
      intro row mem
      refine (states_saved stored row mem).imp_right ?_
      rintro ⟨-, count, last⟩
      rw [count, last]
      exact lineal.daemon.mono grows le_rfl
  refine (ofExcept_keeps after after).bind fun _ w lineal => ?_
  refine Keeps.bind (Q := fun _ => Lineal) ?_ fun _ w lineal => lineal
  exact plain_keeps (plain_ask (by trivial)) (fun _ _ lineal steady => lineal.steady steady)
    (fun _ lineal => lineal) lineal

/-- A mission that was achieved in this cycle may be remembered. -/
theorem succeeded_lineal {i : Input} {hex : String} {event : Option SurplusAccounting.RevenueEvent}
    (under : Under cycle parent w) (achieved : Achieved w (missionIdOf cycle hex)) :
    Lineal (respond r k runners (.succeeded (missionIdOf cycle hex) event) w i).2 := by
  have grows : Grows w (respond r k runners (.succeeded (missionIdOf cycle hex) event) w i).2 :=
    ⟨fun _ mem => mem, fun row mem => ⟨row, mem, rfl⟩⟩
  refine under.lineal.grow grows (fun _ mem => .inl mem) ?_ fun _ mem => .inl mem
  intro p same
  obtain rfl := Option.some.inj same
  exact ⟨cycle, hex, rfl, under.counted.ge, achieved.mono grows⟩

theorem workCycle_keeps (runner : Nat) (regime : SolvencyRegime) {treasuryBefore : Int}
    (candidates : List WorkOrder) (funded : 0 < treasuryBefore) (under : Under cycle parent w) :
    Keeps (respond r k runners) Always Lineal (fun _ => Lineal) (fun _ => Lineal)
      (workCycle k runner cycle regime parent treasuryBefore candidates) w := by
  unfold workCycle
  refine (plain_under (plain_ask (by trivial)) under).bind fun _ w under => ?_
  refine (plain_under (plain_ask (by trivial)) under).bind fun hex w under => ?_
  refine (plain_under (plain_ask (by trivial)) under).bind fun answer w under => ?_
  refine (ofExcept_keeps under under.lineal).bind fun credits w under => ?_
  refine (plain_under (plain_buildPurchaseLoop _ _ _) under).bind fun loop w under => ?_
  have records : recorded (fundingOf runner parent treasuryBefore) = true := by
    rw [recorded, Bool.or_eq_true]
    exact .inr (decide_eq_true funded)
  refine Keeps.bind (@selectAndCoordinate_keeps r k runners _ _ (fundingOf runner parent treasuryBefore) hex _
    candidates _ _ _ _ under fun _ => ⟨rfl, rfl⟩) ?_
  rintro outcome w ⟨under, achieved⟩
  let J (w : World) : Prop := Under cycle parent w ∧
    (outcome.success = true → Achieved w (missionIdOf cycle hex))
  have now : J w := ⟨under, fun success => achieved success records⟩
  refine Keeps.bind (plain_keeps (J := J) (plain_ask (by trivial)) ?_ (fun _ now => now.1.lineal) now) ?_
  · exact fun _ _ now steady => ⟨now.1.steady steady, fun success => (now.2 success).mono steady.grows⟩
  · rintro treasuryAfter w ⟨under, achieved⟩
    split
    · rename_i success
      refine .perform under.lineal fun i answer w' _ done => ?_
      have after := @succeeded_lineal r k runners _ _ _ i _ outcome.revenueEvent under
        (achieved success)
      rw [done] at after
      exact persistAndNote_keeps _ after
    · exact persistAndNote_keeps _ under.lineal

theorem count_under {i : Input} (lineal : Lineal w) :
    Under (w.daemon.cycleCount + 1) w.daemon.lastMissionId (respond r k runners .count w i).2 := by
  have grows : Grows w (respond r k runners .count w i).2 :=
    ⟨fun _ mem => mem, fun row mem => ⟨row, mem, rfl⟩⟩
  refine ⟨lineal.grow grows (fun _ mem => .inl mem) (lineal.daemon.mono grows (Nat.le_succ _))
    fun _ mem => .inl mem, rfl, fun p same => ?_⟩
  obtain ⟨m, hex, name, before, achieved⟩ := lineal.daemon p same
  exact ⟨m, hex, name, Nat.lt_succ_of_le before, achieved.mono grows⟩

theorem stepCycle_keeps (expansion : 0 < k.expansionThreshold) (standby : 0 < k.standbyThreshold)
    (runner : Nat) (given : Option (List WorkOrder)) (lineal : Lineal w) :
    Keeps (respond r k runners) Always Lineal (fun _ => Lineal) (fun _ => Lineal)
      (stepCycle k runner given) w := by
  refine .perform lineal fun i answer w' _ begun => ?_
  obtain ⟨rfl, rfl⟩ := Prod.mk.inj begun
  have under := @count_under r k runners w i lineal
  refine (plain_under (plain_ask (by trivial)) under).bind fun treasuryBefore w under => ?_
  dsimp only
  split
  · exact persistAndNote_keeps _ under.lineal
  · rename_i solvent
    refine (plain_under (plain_candidatesOf given) under).bind fun candidates w under => ?_
    split
    · exact persistAndNote_keeps _ under.lineal
    · refine workCycle_keeps _ _ _ ?_ under
      unfold deriveSolvencyRegime at solvent
      by_contra poor
      rw [if_neg (by omega), if_neg (by omega)] at solvent
      exact solvent rfl

theorem runCycles_keeps (expansion : 0 < k.expansionThreshold) (standby : 0 < k.standbyThreshold)
    (runner left : Nat) (batches : List (List WorkOrder)) (lineal : Lineal w) :
    Keeps (respond r k runners) Always Lineal (fun _ => Lineal) (fun _ => Lineal)
      (runCycles k runner batches left) w := by
  induction left generalizing batches w with
  | zero => exact lineal
  | succ left ih =>
    refine (stepCycle_keeps expansion standby runner batches.head? lineal).bind fun result w lineal => ?_
    split
    · exact lineal
    · exact (ih batches.tail lineal).bind fun results w lineal => lineal

theorem loaded_row {rows : List DaemonStateRow} {row : DaemonStateRow} {key : Key}
    (loaded : (k.states.get rows key).elim (some none) (·.map some) = some (some row)) : row ∈ rows := by
  cases found : k.states.get rows key with
  | none =>
    rw [found] at loaded
    cases loaded
  | some answer =>
    rw [found] at loaded
    obtain ⟨stored, there, read⟩ := Option.map_eq_some_iff.mp found
    obtain rfl : some stored = answer := read
    obtain rfl := Option.some.inj (Option.some.inj loaded)
    exact (KeyedLists.lookupBy_some there).1

theorem startDaemon_keeps (lineal : Lineal w) : Keeps (respond r k runners) Always Lineal
    (fun _ => Lineal) (fun _ => Lineal) startDaemon w := by
  refine .perform lineal fun i answer w' _ loaded => ?_
  have after : Lineal w' := by
    unfold respond at loaded
    dsimp only at loaded
    split at loaded
    · obtain ⟨-, rfl⟩ := Prod.mk.inj loaded
      exact lineal
    · obtain ⟨-, rfl⟩ := Prod.mk.inj loaded
      have grows : Grows w { w with daemon := {} } := ⟨fun _ mem => mem, fun row mem => ⟨row, mem, rfl⟩⟩
      exact lineal.grow grows (fun _ mem => .inl mem) nofun fun _ mem => .inl mem
    · rename_i row answered
      obtain ⟨-, rfl⟩ := Prod.mk.inj loaded
      have grows : Grows w { w with daemon :=
          { cycleCount := row.cycleCount, lastMissionId := row.lastMissionId } } :=
        ⟨fun _ mem => mem, fun row mem => ⟨row, mem, rfl⟩⟩
      refine lineal.grow grows (fun _ mem => .inl mem) ?_ fun _ mem => .inl mem
      exact (lineal.states row (loaded_row (query_ok answered))).mono grows le_rfl
  exact ofExcept_keeps after after

theorem executeOrder_keeps (runner : Nat) (id : String) (lineal : Lineal w) :
    Keeps (respond r k runners) Always Lineal (fun _ => Lineal) (fun _ => Lineal)
      (executeOrder runner id) w := by
  have under : Under w.daemon.cycleCount none w := ⟨lineal, rfl, nofun⟩
  unfold executeOrder
  refine (plain_under (plain_ask (by trivial)) under).bind fun found w' under => ?_
  refine (ofExcept_keeps under under.lineal).bind fun order w' under => ?_
  cases order with
  | none => exact under.lineal
  | some o =>
    refine (plain_under (plain_ask (by trivial)) under).bind fun _ w' under => ?_
    refine (plain_under (plain_ask (by trivial)) under).bind fun treasuryUsdg w' under => ?_
    refine (plain_under (plain_ask (by trivial)) under).bind fun answer w' under => ?_
    refine (ofExcept_keeps under under.lineal).bind fun credits w' under => ?_
    refine (plain_under (plain_ask (by trivial)) under).bind fun hex w' under => ?_
    refine (plain_under (plain_loopForShortfall _ _ _) under).bind fun loop w' under => ?_
    have unrecorded : Funds w.daemon.cycleCount "" { runner } (execMissionId hex) := nofun
    exact (selectAndCoordinate_keeps (f := { runner }) _ _ _ _ _ under unrecorded).mono
      fun _ _ concluded => concluded.1.lineal

end Programs

section Runs
variable {r : DaemonRules} {k : Setup} {runners : Nat → Runner} {w : World}

theorem step_lineal (expansion : 0 < k.expansionThreshold) (standby : 0 < k.standbyThreshold)
    (event : Event) (lineal : Lineal w) : Lineal (step r k runners w event) := by
  have cut {α : Type} {p : Program α} (inputs : List Input)
      (kept : Keeps (respond r k runners) Always Lineal (fun _ => Lineal) (fun _ => Lineal) p w) :
      Lineal (advance (respond r k runners) inputs p w).2 :=
    kept.advance (fun _ _ => id) (fun _ _ => id) inputs (.always _ (fun _ _ _ => trivial) inputs p w)
  cases event with
  | start inputs => exact cut inputs (startDaemon_keeps lineal)
  | cycles runner maxCycles batches inputs =>
    exact cut inputs (runCycles_keeps expansion standby runner maxCycles batches lineal)
  | post order inputs =>
    refine cut inputs (plain_keeps (.bind (plain_ask (by trivial)) fun saved => .ofExcept saved) ?_
      (fun _ lineal => lineal) lineal)
    exact fun _ _ lineal steady => lineal.steady steady
  | execute runner id inputs => exact cut inputs (executeOrder_keeps runner id lineal)

theorem run_lineal (expansion : 0 < k.expansionThreshold) (standby : 0 < k.standbyThreshold)
    (events : List Event) (lineal : Lineal w) : Lineal (run r k runners w events) := by
  induction events generalizing w with
  | nil => exact lineal
  | cons event events ih =>
    have next : Lineal (step r k runners w event) := step_lineal expansion standby event lineal
    exact ih next

theorem opened_lineal (books : MissionRevenue.Books) : Lineal { books } := ⟨nofun, nofun, nofun⟩

/-- A parent is the mission of an earlier cycle. -/
theorem Lineal.parent_earlier (lineal : Lineal w) {p : String} {n : Nat} {hex : String}
    (parent : Parent w p (missionIdOf n hex)) :
    ∃ m hex', p = missionIdOf m hex' ∧ m < n ∧ Achieved w p := by
  obtain ⟨row, mem, name, recorded⟩ := parent
  obtain ⟨n', _, descends⟩ := lineal.rows row mem
  obtain rfl : n' = n := missionIdOf_cycle (descends.named.symm.trans name)
  rcases descends.funded with ⟨none, -⟩ | ⟨p', m, hex', parent, -, name, before, achieved⟩
  · rw [none] at recorded
    cases recorded
  · obtain rfl := Option.some.inj (recorded.symm.trans parent)
    exact ⟨m, hex', name, before, achieved⟩

theorem Lineal.parents_wellFounded (lineal : Lineal w) : WellFounded (Parent w) := by
  have cycles : ∀ n hex, Acc (Parent w) (missionIdOf n hex) := by
    intro n
    induction n using Nat.strong_induction_on with
    | _ n ih =>
      intro hex
      refine Acc.intro _ fun p parent => ?_
      obtain ⟨m, hex', rfl, before, -⟩ := lineal.parent_earlier parent
      exact ih m before hex'
  refine ⟨fun q => Acc.intro q fun p parent => ?_⟩
  have mine := parent
  obtain ⟨row, mem, rfl, -⟩ := mine
  obtain ⟨n, hex, descends⟩ := lineal.rows row mem
  rw [descends.named] at parent
  obtain ⟨m, hex', rfl, -, -⟩ := lineal.parent_earlier parent
  exact cycles m hex'

/-- A line of missions begins with one that the treasury reserve paid for. -/
def FromReserve (w : World) (missionId : String) : Prop :=
  ∃ root ∈ w.lineage, root.parentMissionId = none ∧ root.fundingSource = "TREASURY_RESERVE" ∧
    Relation.ReflTransGen (Parent w) root.key.id missionId

theorem Lineal.fromReserve (lineal : Lineal w) {row : LineageRow} (mem : row ∈ w.lineage) :
    FromReserve w row.key.id := by
  have cycles : ∀ n hex, ∀ row ∈ w.lineage, Descends w row n hex → FromReserve w row.key.id := by
    intro n
    induction n using Nat.strong_induction_on with
    | _ n ih =>
      intro hex row mem descends
      rcases descends.funded with ⟨none, source⟩ | ⟨p, m, hex', parent, -, name, before, achieved⟩
      · exact ⟨row, mem, none, source, .refl⟩
      · obtain ⟨row', there, same⟩ := achieved.recorded
        obtain ⟨m', hex'', descends'⟩ := lineal.rows row' there
        obtain rfl : m' = m := missionIdOf_cycle (descends'.named.symm.trans (same.trans name))
        obtain ⟨root, member, first, source, line⟩ := ih m' before hex'' row' there descends'
        exact ⟨root, member, first, source, (same ▸ line).tail ⟨row, mem, rfl, parent⟩⟩
  obtain ⟨n, hex, descends⟩ := lineal.rows row mem
  exact cycles n hex row mem descends

/-- Over any cycles, posts, executions and restarts, stopped anywhere: a recorded parent succeeded in
an earlier cycle, there is no circle among parents, and following them from any mission ends with one
that the treasury reserve paid for. What a daemon remembers, and what another one reads back, is a
mission that succeeded. -/
theorem lineage_from_reserve (r : DaemonRules) (k : Setup) (runners : Nat → Runner)
    (expansion : 0 < k.expansionThreshold) (standby : 0 < k.standbyThreshold)
    (books : MissionRevenue.Books) (events : List Event) :
    let w := run r k runners { books } events
    Lineal w ∧ WellFounded (Parent w) ∧ ∀ row ∈ w.lineage, FromReserve w row.key.id := by
  have lineal : Lineal (run r k runners { books } events) :=
    run_lineal expansion standby events (opened_lineal books)
  exact ⟨lineal, lineal.parents_wellFounded, fun row mem => lineal.fromReserve mem⟩

end Runs

section Sample

/-- Two orders are posted and worked on, the second by another daemon that stops after its mission. -/
def sampleEvents : List Event :=
  [.post (sampleOrder "a") [sampleInput "a"], .cycles 0 1 [] (List.replicate 20 (sampleInput "a")),
    .start [sampleInput "b"], .post (sampleOrder "b") [sampleInput "b"],
    .cycles 1 1 [] (List.replicate 9 (sampleInput "b"))]

def sampleRun : World :=
  run sampleRules sampleSetup (fun _ => MissionRevenue.sampleRunner) { books := MissionRevenue.sampleBooks }
    sampleEvents

theorem sample_from_reserve : Parent sampleRun "mission-cycle-1-a" "mission-cycle-2-b" ∧
    FromReserve sampleRun "mission-cycle-2-b" := by
  have recorded : sampleRun.lineage.map (fun row => (row.key.id, row.parentMissionId)) =
      [("mission-cycle-1-a", none), ("mission-cycle-2-b", some "mission-cycle-1-a")] := by
    decide +kernel
  have mem : ("mission-cycle-2-b", some "mission-cycle-1-a") ∈
      sampleRun.lineage.map fun row => (row.key.id, row.parentMissionId) := by
    rw [recorded]
    decide
  obtain ⟨row, there, same⟩ := List.mem_map.mp mem
  obtain ⟨name, parent⟩ := Prod.mk.inj same
  refine ⟨⟨row, there, name, parent⟩, name ▸ ?_⟩
  exact (lineage_from_reserve sampleRules sampleSetup (fun _ => MissionRevenue.sampleRunner) (by decide)
    (by decide) MissionRevenue.sampleBooks sampleEvents).2.2 row there

end Sample

end DaemonLineage
