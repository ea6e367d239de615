import KalyxMao.ProviderDialogue

/-!
# Settlement against the simulated provider

Calls on the manager and the reconciler, each cut after any number of commands, and rules
set on the provider between them. The provider answers from books of its own, and nothing
is asked of its answers: whatever it times out on, carries out or refuses, every operation
leaves escrow once, for what the provider's record says.
-/

namespace ProviderRuns
open Bookkeeping PythonText Ledger SqlLedgers LedgerEquivalence Domain EffectPrograms
open EffectPrograms.Prog KeyedLists EscrowNames EscrowInvariant Reconciliation
open Consequential hiding respond
open ManagerSpecs ProgramViews SimulatedProvider ProviderAgreement ProviderDialogue
open ExactlyOnce (Call SettlesOnce)

inductive Event where
  | call (c : Call) (inputs : List Draws)
  | timeoutRule (key : String) (executes fails : Bool) (failureReason : Option String)
  | failureRule (key reason : String)

def step (m : Manager) (w : Joint) : Event → Joint
  | .call c inputs => (advance (respond m.hashing) inputs (c.program m) w).2
  | .timeoutRule key executes fails failureReason =>
    { w with provider := w.provider.setTimeoutRule key executes fails failureReason }
  | .failureRule key reason => { w with provider := w.provider.setFailureRule key reason }

def run (m : Manager) (w : Joint) (events : List Event) : Joint := events.foldl (step m) w

/-- A call fits the world it starts in, and new identifiers are new. -/
def Fits (m : Manager) (w : Joint) : Event → Prop
  | .call c inputs => c.Fits m w.engine ∧
      Legal (respond m.hashing) (Fresh m.hashing) inputs (c.program m) w
  | _ => True

def RunFits (m : Manager) : List Event → Joint → Prop
  | [], _ => True
  | event :: events, w => Fits m w event ∧ RunFits m events (step m w event)

/-- A funded treasury, no operation, and a provider that was asked nothing. -/
def Opening (w : Joint) : Prop :=
  ExactlyOnce.Opening w.engine ∧ w.provider.providerRecords = [] ∧
    ∀ key, w.provider.submissionAttempts key = 0

/-- Each operation leaves escrow once and is submitted once; its exit goes where the provider's
record of it says, and one that has succeeded was carried out. -/
structure SettledAsExecuted (w : Joint) : Prop where
  once : SettlesOnce w.engine
  submitted : ∀ key, w.provider.submissionAttempts key ≤ 1
  exits : ∀ entries, w.engine.ledger.getEntries none = .ok entries →
    ∀ o ∈ w.engine.operations, ∀ e ∈ exitsOf entries o.id,
      ∃ rec, w.provider.recordOf o.idempotencyKey = some rec ∧ IsOf rec o ∧
        e.amount = rec.amount ∧ Routed rec e.toAccount
  succeeded : ∀ o ∈ w.engine.operations, o.state = .succeeded →
    ∃ rec, w.provider.recordOf o.idempotencyKey = some rec ∧ IsOf rec o ∧ rec.outcome = .success

section Runs
variable {m : Manager} {w : Joint}

/-- An answer from the books does not contradict an exit the ledger already has. -/
theorem consistent_of_sound {h : Hashing} (c : Cmd) (w : Joint) (i : Draws) (fresh : Fresh h c w i)
    (inv : Inv h w.engine) (sound : Sound c w) : Consistent h c w.engine (heard h c w i) := by
  cases c with
  | uuid4 => exact fresh
  | transfer source target amount memo txId => exact fresh
  | status opId key ref =>
    cases ref with
    | some ref => trivial
    | none =>
      obtain ⟨entries, held⟩ := inv
      obtain ⟨agreed, own⟩ := sound
      -- An exit in the ledger is the one of the record that the answer is read from.
      have clear {target : String} (routed : ∀ o ∈ w.engine.operations, o.id = opId →
          o.idempotencyKey = key → ∃ rec ∈ w.provider.providerRecords, IsOf rec o ∧ ¬Routed rec target) :
          ¬Contradicted w.engine opId target := by
        rintro ⟨o, found, -, ⟨r, hr, source, goal, named⟩, -⟩
        obtain ⟨mem, same⟩ := lookupBy_some found
        obtain ⟨rec, hrec, its, other⟩ := routed o mem same (own o found)
        rw [← same] at named
        apply other
        rw [← goal]
        exact agreed.routed held.good mem hrec its hr source named
      constructor
      · intro success
        refine clear fun o mem same key' => ?_
        subst same key'
        obtain ⟨rec, hrec, its, outcome⟩ :=
          (agreed.status held.good.ids held.good.keys mem).success success
        refine ⟨rec, hrec, its, ?_⟩
        rintro (⟨-, wrong⟩ | ⟨other, -⟩)
        · exact absurd wrong (by decide)
        · simp [outcome] at other
      · intro failure
        refine clear fun o mem same key' => ?_
        subst same key'
        obtain ⟨rec, hrec, its, outcome⟩ :=
          (agreed.status held.good.ids held.good.keys mem).failure failure
        refine ⟨rec, hrec, its, ?_⟩
        rintro (⟨other, -⟩ | ⟨-, wrong⟩)
        · simp [outcome] at other
        · exact absurd wrong (by decide)
  | _ => trivial

theorem attends_ignore {h : Hashing} {α : Type} {Q : α → Joint → Prop} {p : Action α}
    (attends : Attends h Q p w) (ends : ∀ a w', Q a w' → Agreed w') :
    Attends h (fun _ w' => Agreed w') (ignore p) w :=
  Meets.bind attends fun a w' done => ends a w' done

theorem call_attends (agreed : Agreed w) (c : Call) (fits : c.Fits m w.engine) :
    Attends m.hashing (fun _ w' => Agreed w') (c.program m) w := by
  cases c with
  | create proposal decision org key =>
    exact attends_ignore (attends_createOperation m agreed proposal decision org key)
      fun _ _ known => known.agreed
  | authorize op decision =>
    exact attends_ignore (attends_authorizeOperation m decision agreed fun may => (fits may).1)
      fun _ _ known => known.agreed
  | escrow op =>
    exact attends_ignore (attends_escrowOperation (fun state => ⟨agreed, fits state⟩) agreed)
      fun _ _ known => known.agreed
  | submit op proposal decision =>
    exact attends_ignore (attends_submitOperation (fun state => ⟨agreed, fits state⟩) agreed
      proposal decision) fun _ _ agreed => agreed
  | execute proposal decision org key =>
    exact attends_ignore (attends_executeProposal m agreed proposal decision org key)
      fun _ _ agreed => agreed
  | reconcile id org =>
    exact attends_ignore (attends_reconcileOperation agreed id org) fun _ _ agreed => agreed

theorem step_keeps (hex : HexDigests m.hashing) (event : Event)
    (now : Inv m.hashing w.engine ∧ Agreed w) (fits : Fits m w event) :
    Inv m.hashing (step m w event).engine ∧ Agreed (step m w event) := by
  cases event with
  | call c inputs =>
    have safe := (views m.hashing).keeps (ExactlyOnce.call_keeps hex now.1 c fits.1)
    have both := Meets.beside safe (call_attends now.2 c fits.1) consistent_of_sound
      fun _ _ sound => sound.agreed
    exact both.advance (fun _ _ both => both) (fun _ _ both => both) inputs fits.2
  | timeoutRule key executes fails failureReason =>
    obtain ⟨records, attempts⟩ := setTimeoutRule_books w.provider key executes fails failureReason
    exact ⟨now.1, now.2.books records attempts⟩
  | failureRule key reason => exact ⟨now.1, now.2.books rfl rfl⟩

theorem run_keeps (hex : HexDigests m.hashing) (events : List Event)
    (now : Inv m.hashing w.engine ∧ Agreed w) (fits : RunFits m events w) :
    Inv m.hashing (run m w events).engine ∧ Agreed (run m w events) := by
  induction events generalizing w with
  | nil => exact now
  | cons event events ih =>
    have first := step_keeps hex event now fits.1
    exact ih first fits.2

theorem agreed_opening (opening : Opening w) : Agreed w := by
  obtain ⟨⟨none, entries, ledger, funding⟩, records, attempts⟩ := opening
  constructor
  · simp [records]
  · simp [records]
  · simp [records]
  · simp [attempts]
  · simp [attempts]
  · intro r hr source
    rw [ledger] at hr
    obtain ⟨e, he, rfl⟩ := List.mem_map.mp hr
    exact absurd ((funding e he).source.symm.trans source) (by decide)
  · simp [none]
  · simp [none]

theorem settled_of_both {h : Hashing} (inv : Inv h w.engine) (agreed : Agreed w) :
    SettledAsExecuted w where
  once := ExactlyOnce.settlesOnce_of_inv inv
  submitted := agreed.once
  exits := by
    obtain ⟨entries, held⟩ := inv
    intro read reads o mem e he
    rw [getEntries_eq held] at reads
    obtain rfl := Except.ok.inj reads
    have amount := (held.good.exit_of_mem mem he).amount
    obtain ⟨stored, hit⟩ := List.mem_filter.mp he
    simp only [Bool.and_eq_true, decide_eq_true_eq] at hit
    have row := mem_rows held stored
    obtain ⟨rec, hrec, for_, -⟩ := agreed.exits _ row hit.1
    obtain ⟨a, ha, own⟩ := agreed.behind rec hrec
    rw [own.id] at for_
    have same := (isIn_named (held.good.shapes o mem) (held.good.shapes a ha) for_).mp hit.2
    obtain rfl := held.good.same_of_id mem ha same
    have found := lookupBy_of_mem agreed.keys hrec
    rw [own.key] at found
    refine ⟨rec, found, own, ?_, agreed.routed held.good mem hrec own row hit.1 hit.2⟩
    rw [own.amount]
    exact amount
  succeeded := by
    intro o mem state
    obtain ⟨rec, hrec, own, outcome⟩ := agreed.succeeded o mem state
    have found := lookupBy_of_mem agreed.keys hrec
    rw [own.key] at found
    exact ⟨rec, found, own, outcome⟩

end Runs

section Scenario
open ExactlyOnce (manager proposal decision org firstUuid secondUuid funded manager_hexDigests funded_opening)

def draws (u : Uuid) (entryId : String) : Draws := ⟨⟨entryId, entryId, 0⟩, u, (true, "")⟩

def sampleOpening : Joint := ⟨funded, .init⟩

/-- A payment that times out and is carried out, one that is refused, and a reconciliation. -/
def sampleEvents : List Event :=
  [.timeoutRule "org-1:p1" true false none, .failureRule "org-1:p2" "declined",
    .call (.execute (proposal "p1") (decision "tok-1") org none)
      (List.replicate 13 (draws firstUuid "l1")),
    .call (.execute (proposal "p2") (decision "tok-2") org none)
      (List.replicate 10 (draws secondUuid "l2") ++ List.replicate 5 (draws secondUuid "x2")),
    .call (.reconcile "cop-111111111111" org) (List.replicate 10 (draws firstUuid "r1"))]

end Scenario

end ProviderRuns
