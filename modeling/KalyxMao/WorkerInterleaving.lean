import KalyxMao.ExactlyOnce
import KalyxMao.ProgramPools

/-!
# Workers and the reconciler on the same operation

Any number of `execute_proposal` and `reconcile_operation` calls run against one
repository, command by command in any order. A call works on a copy of the
record it loaded. While no call saves from a copy that the repository has moved
away from, the provider is called once for an operation and an ended record
stays as it is.
-/

namespace WorkerInterleaving
open Domain EffectPrograms EffectPrograms.Prog Consequential KeyedLists Reconciliation ProgramPools
open PythonText Ledger
open ConsequentialOperation (SameTerms transitionTo_ok)

/-- What a call holds: the record it loaded first or saved last, and whether it has
saved SUBMITTED and not yet called the provider. -/
structure Mark where
  base : Option ConsequentialOperation
  armed : Bool

def Mark.start : Mark := ⟨none, false⟩

def Mark.loads (g : Mark) (found : Option ConsequentialOperation) : Mark :=
  match g.base with
  | some _ => g
  | none => ⟨found, false⟩

def lifecycle : Protocol Cmd Resp Mark where
  allowed g c :=
    match c with
    | .save op =>
      match g.base with
      | some b => b.id = op.id ∧ op.state ∈ validTransitions b.state
      | none => op.state = .created
    | .execute op => g.armed = true ∧ g.base = some op
    | _ => True
  after g c r :=
    match c, r with
    | .getByIdempotencyKey _, found => g.loads found
    | .get _, found => g.loads found
    | .save op, .ok () => ⟨some op, op.state = .submitted⟩
    | .execute _, _ => ⟨g.base, false⟩
    | _, _ => g

section Discipline
variable {op : ConsequentialOperation} {g : Mark}

/-- A call that holds this operation, and is armed exactly if the record says so. -/
def Holding (op : ConsequentialOperation) (g : Mark) : Prop :=
  g.base = some op ∧ g.armed = decide (op.state = .submitted)

theorem follows_transitionAndSave (held : g.base = some op) (s : OperationState)
    (errorMessage providerReference : Option String) :
    Follows lifecycle (fun op' g' => Holding op' g' ∧ op'.state = s)
      (transitionAndSave op s errorMessage providerReference) g := by
  refine Follows.bind (Q := fun op' g' => g' = g ∧ s ∈ validTransitions op.state ∧
    op'.state = s ∧ SameTerms op' op) (Follows.ofExcept fun op' ok => ⟨rfl, transitionTo_ok ok⟩) ?_
  rintro op' _ ⟨rfl, legal, moved, same⟩
  constructor
  · simp only [lifecycle, held]
    exact ⟨same.id.symm, moved ▸ legal⟩
  · rintro (err | ⟨⟩)
    · trivial
    · exact ⟨⟨rfl, rfl⟩, moved⟩

/-- A read, a transfer or another command that leaves the mark alone. -/
theorem follows_quiet {α : Type} {Q : α → Mark → Prop} {c : Cmd} {f : Resp c → Action α}
    (allowed : lifecycle.allowed g c) (still : ∀ r, lifecycle.after g c r = g)
    (rest : ∀ r, Follows lifecycle Q (f r) g) : Follows lifecycle Q (ask c >>= f) g := by
  refine Follows.perform allowed fun r => ?_
  rw [still]
  exact rest r

theorem follows_lockEscrow (h : Hashing) (op : ConsequentialOperation) :
    Follows lifecycle (fun _ g' => g' = g) (lockEscrow h op) g := by
  refine follows_quiet trivial (fun _ => rfl) fun read => ?_
  refine Follows.bind (Q := fun _ g' => g' = g) (Follows.ofExcept fun _ _ => rfl) ?_
  rintro entries g rfl
  split
  · split_ifs
    · trivial
    · rfl
  · refine follows_quiet trivial (fun _ => rfl) fun moved => ?_
    exact Follows.bind (Q := fun _ g' => g' = g) (Follows.ofExcept fun _ _ => rfl)
      fun _ _ same => same

theorem follows_payOut (op : ConsequentialOperation) (target memo txId : String) :
    Follows lifecycle (fun _ g' => g' = g) (payOut op target memo txId) g := by
  rw [payOut]
  split_ifs
  · refine follows_quiet trivial (fun _ => rfl) fun moved => ?_
    refine Follows.bind (Q := fun _ g' => g' = g) (Follows.ofExcept fun _ _ => rfl) ?_
    rintro _ _ rfl
    exact follows_quiet trivial (fun _ => rfl) fun _ => rfl
  · rfl

theorem follows_escrowOperation (h : Hashing) (held : g.base = some op) :
    Follows lifecycle (fun op' g' => g'.base = some op') (escrowOperation h op) g := by
  have saved : Follows lifecycle (fun op' g' => g'.base = some op')
      (transitionAndSave op .escrowed none none) g :=
    (follows_transitionAndSave held _ _ _).mono fun op' g' done => done.1.1
  rw [escrowOperation]
  split_ifs
  · trivial
  · refine Follows.bind (follows_lockEscrow h op) ?_
    rintro _ _ rfl
    exact follows_quiet trivial (fun _ => rfl) fun _ => saved
  · exact saved

theorem follows_concludeSubmission (h : Hashing) (held : g.base = some op)
    (proposal : ActionProposal) (decision : PolicyDecision) (result : ProviderExecutionResult) :
    Follows lifecycle (fun _ _ => True) (concludeSubmission h op proposal decision result) g := by
  rw [concludeSubmission]
  split_ifs
  · refine Follows.bind (follows_payOut op _ _ _) ?_
    rintro _ _ rfl
    refine Follows.bind (follows_transitionAndSave held _ _ _) fun op' g' _ => ?_
    exact follows_quiet trivial (fun _ => rfl) fun _ => trivial
  · refine Follows.bind (follows_payOut op _ _ _) ?_
    rintro _ _ rfl
    exact Follows.bind (follows_transitionAndSave held _ _ _) fun _ _ _ => trivial
  · exact Follows.bind (follows_transitionAndSave held _ _ _) fun _ _ _ => trivial

theorem follows_submitOperation (h : Hashing) (held : g.base = some op)
    (proposal : ActionProposal) (decision : PolicyDecision) :
    Follows lifecycle (fun _ _ => True) (submitOperation h op proposal decision) g := by
  rw [submitOperation]
  split_ifs
  · trivial
  · refine Follows.bind (follows_transitionAndSave held _ _ _) ?_
    rintro submitted g' ⟨⟨base, armed⟩, moved⟩
    refine Follows.perform ⟨by rw [armed]; exact decide_eq_true moved, base⟩ fun answer => ?_
    have held' : (lifecycle.after g' (.execute submitted) answer).base = some submitted := base
    cases answer with
    | error exc => exact Follows.bind (follows_transitionAndSave held' _ _ _) fun _ _ _ => trivial
    | ok result => exact follows_concludeSubmission h held' proposal decision result

theorem follows_authorizeOperation (m : Manager) (held : g.base = some op)
    (decision : PolicyDecision) :
    Follows lifecycle (fun op' g' => g'.base = some op') (authorizeOperation m op decision) g := by
  simp only [authorizeOperation]
  split_ifs
  · trivial
  · refine Follows.bind (Q := fun _ g' => g' = g) (Follows.ofExcept fun _ _ => rfl) ?_
    rintro nonce _ rfl
    refine follows_quiet trivial (fun _ => rfl) fun consumed => ?_
    rcases consumed with err | ⟨⟩
    · dsimp only
      split_ifs
      · exact Follows.bind (follows_transitionAndSave held _ _ _) fun _ _ _ => trivial
      · trivial
    · exact (follows_transitionAndSave held _ _ _).mono fun op' g' done => done.1.1

theorem follows_registerOperation (m : Manager) (proposal : ActionProposal)
    (decision : PolicyDecision) (org : Organisation) (key : String) :
    Follows lifecycle (fun op g => g.base = some op)
      (registerOperation m proposal decision org key) Mark.start := by
  rw [registerOperation]
  refine Follows.perform trivial fun existing => ?_
  cases existing with
  | some op =>
    dsimp only
    split_ifs
    · trivial
    · trivial
    · rfl
  | none =>
    refine Follows.perform trivial fun u => ?_
    refine ⟨rfl, ?_⟩
    rintro (err | ⟨⟩)
    · trivial
    · rfl

theorem follows_createOperation (m : Manager) (proposal : ActionProposal)
    (decision : PolicyDecision) (org : Organisation) (idempotencyKey : Option String) :
    Follows lifecycle (fun op g => g.base = some op)
      (createOperation m proposal decision org idempotencyKey) Mark.start := by
  simp only [createOperation]
  split_ifs
  · trivial
  · trivial
  · refine follows_quiet trivial (fun _ => rfl) ?_
    rintro ⟨_ | _, reason⟩
    · trivial
    · refine Follows.bind (Q := fun _ g' => g' = Mark.start) (Follows.ofExcept fun _ _ => rfl) ?_
      rintro _ _ rfl
      exact follows_registerOperation m proposal decision org _

theorem follows_whenIn {step : ConsequentialOperation → Action ConsequentialOperation}
    (s : OperationState) (held : g.base = some op)
    (inside : Follows lifecycle (fun op' g' => g'.base = some op') (step op) g) :
    Follows lifecycle (fun op' g' => g'.base = some op') (whenIn s step op) g := by
  rw [whenIn]
  split_ifs
  · exact inside
  · exact held

theorem follows_executeProposal (m : Manager) (proposal : ActionProposal)
    (decision : PolicyDecision) (org : Organisation) (idempotencyKey : Option String) :
    Follows lifecycle (fun _ _ => True) (executeProposal m proposal decision org idempotencyKey)
      Mark.start := by
  rw [executeProposal]
  refine Follows.bind (follows_createOperation m proposal decision org idempotencyKey) ?_
  intro op g held
  split_ifs
  · exact follows_quiet trivial (fun _ => rfl) fun _ => trivial
  · trivial
  · trivial
  · rw [driveOperation]
    refine Follows.bind (follows_whenIn _ held (follows_authorizeOperation m held decision)) ?_
    intro op g held
    refine Follows.bind (follows_whenIn _ held (follows_escrowOperation m.hashing held)) ?_
    intro op g held
    split_ifs
    · exact follows_submitOperation m.hashing held proposal decision
    · trivial

theorem follows_moveOnce (op : ConsequentialOperation) (already : List LedgerEntry → Bool)
    (target memo txId : String) :
    Follows lifecycle (fun _ g' => g' = g) (moveOnce op already target memo txId) g := by
  rw [moveOnce]
  split_ifs
  · refine follows_quiet trivial (fun _ => rfl) fun read => ?_
    refine Follows.bind (Q := fun _ g' => g' = g) (Follows.ofExcept fun _ _ => rfl) ?_
    rintro entries g rfl
    split_ifs
    · rfl
    · refine follows_quiet trivial (fun _ => rfl) fun held => ?_
      split_ifs
      · rfl
      · refine follows_quiet trivial (fun _ => rfl) ?_
        rintro (exc | e)
        · dsimp only
          split_ifs
          · rfl
          · trivial
        · exact follows_quiet trivial (fun _ => rfl) fun _ => rfl
  · rfl

theorem loads_held (held : g.base = some op) (found : Option ConsequentialOperation) :
    g.loads found = g := by
  rw [Mark.loads, held]

theorem follows_markReconciled (held : g.base = some op)
    (errorMessage providerReference : Option String) :
    Follows lifecycle (fun _ _ => True) (markReconciled op errorMessage providerReference) g := by
  have saved : Follows lifecycle (fun _ _ => True)
      (transitionAndSave op .reconciled errorMessage providerReference) g :=
    (follows_transitionAndSave held _ _ _).mono fun _ _ _ => trivial
  rw [markReconciled]
  refine follows_quiet trivial (loads_held held) fun fresh => ?_
  cases fresh with
  | some other =>
    dsimp only
    split_ifs
    · trivial
    · exact saved
    · trivial
  | none =>
    dsimp only
    split_ifs
    · exact saved
    · trivial

theorem follows_queryStatus (op : ConsequentialOperation) :
    Follows lifecycle (fun _ g' => g' = g) (queryStatus op) g := by
  refine follows_quiet trivial (fun _ => rfl) ?_
  rintro (exc | s)
  · dsimp only
    split_ifs
    · exact follows_quiet trivial (fun _ => rfl) fun answer => Follows.ofExcept fun _ _ => rfl
    · trivial
  · rfl

theorem follows_applyStatus (h : Hashing) (held : g.base = some op) (s : ProviderStatusResult) :
    Follows lifecycle (fun _ _ => True) (applyStatus h op s) g := by
  rw [applyStatus]
  split_ifs
  · refine Follows.bind (follows_moveOnce op _ _ _ _) ?_
    rintro _ _ rfl
    exact follows_markReconciled held _ _
  · refine Follows.bind (follows_moveOnce op _ _ _ _) ?_
    rintro _ _ rfl
    exact follows_markReconciled held _ _
  · exact (follows_transitionAndSave held _ _ _).mono fun _ _ _ => trivial

theorem follows_enterReconciling (held : g.base = some op) :
    Follows lifecycle (fun op' g' => g'.base = some op') (enterReconciling op) g := by
  rw [enterReconciling]
  split_ifs
  · exact (follows_transitionAndSave held _ _ _).mono fun op' g' done => done.1.1
  · exact held

theorem follows_reconcileOperation (h : Hashing) (operationId : String) (org : Organisation) :
    Follows lifecycle (fun _ _ => True) (reconcileOperation h operationId org) Mark.start := by
  rw [reconcileOperation]
  refine Follows.perform trivial fun found => ?_
  cases found with
  | none => trivial
  | some op =>
    dsimp only
    split_ifs
    · trivial
    · rw [resolveOperation]
      split_ifs
      · trivial
      · trivial
      · have held : (lifecycle.after Mark.start (.get operationId) (some op)).base = some op := rfl
        refine Follows.bind (follows_enterReconciling held) ?_
        intro op' g' held'
        refine Follows.bind (follows_queryStatus op') ?_
        rintro s _ rfl
        exact follows_applyStatus h held' s

end Discipline

section Sharing

/-- No lost update: a record is saved while the stored one is still in the state of
the copy the call holds. -/
def Unmoved (g : Mark) (c : Cmd) (w : World) : Prop :=
  match c with
  | .save op => (find w.operations op.id).map ConsequentialOperation.state =
      g.base.map ConsequentialOperation.state
  | _ => True

/-- How many calls of the provider the stored record accounts for. -/
def dispatched : Option OperationState → Nat
  | none => 0
  | some .created => 0
  | some .authorized => 0
  | some .escrowed => 0
  | some _ => 1

theorem dispatched_mono {s s' : OperationState} (legal : s' ∈ validTransitions s) :
    dispatched (some s) ≤ dispatched (some s') := by
  cases s <;> revert legal <;> cases s' <;> decide

theorem dispatched_submitted {s : OperationState} (legal : .submitted ∈ validTransitions s) :
    dispatched (some s) = 0 := by
  cases s <;> revert legal <;> decide

def stateOf (w : World) (operationId : String) : Option OperationState :=
  (find w.operations operationId).map ConsequentialOperation.state

def Mark.armedFor (operationId : String) (g : Mark) : Bool :=
  g.armed && (g.base.map ConsequentialOperation.id == some operationId)

/-- Calls of the provider made and still to come are covered by the stored state. -/
structure Accounted (operationId : String) (gs : List Mark) (w : World) : Prop where
  ids : (w.operations.map ConsequentialOperation.id).Nodup
  bound : w.executed.count operationId + gs.countP (Mark.armedFor operationId) ≤
    dispatched (stateOf w operationId)

variable {gs : List Mark} {w : World} {n : Nat} {g g' : Mark} {id : String}

theorem countP_set_add (p : Mark → Bool) (g' : Mark) (at_ : gs[n]? = some g) :
    (gs.set n g').countP p + (p g).toNat = gs.countP p + (p g').toNat := by
  obtain ⟨inside, here⟩ := List.getElem?_eq_some_iff.mp at_
  have least : (p g).toNat ≤ gs.countP p := by
    cases hit : p g with
    | false => exact Nat.zero_le _
    | true => exact List.countP_pos_iff.mpr ⟨g, here ▸ List.getElem_mem inside, hit⟩
  have unit : ∀ b : Bool, (if b then 1 else 0) = b.toNat := by decide
  rw [List.countP_set inside, here, unit, unit]
  omega

/-- What a save does to the table: nothing, a new record, or a replaced one. -/
theorem save_cases (op : ConsequentialOperation) (w : World) (env : Env) :
    (respond (.save op) w env = (.error keyTaken, w)) ∨
    (find w.operations op.id = none ∧
      respond (.save op) w env = (.ok (), { w with operations := w.operations ++ [op] })) ∨
    (∃ old, find w.operations op.id = some old ∧ respond (.save op) w env =
      (.ok (), { w with operations := replaceBy ConsequentialOperation.id w.operations op })) := by
  cases found : find w.operations op.id with
  | none =>
    rcases saveOperation_insert found with taken | ⟨saved, _⟩
    · simp [respond, taken]
    · simp [respond, saved]
  | some old =>
    rcases saveOperation_update found with taken | saved
    · simp [respond, taken]
    · simp [respond, saved]

/-- After a successful save the record is stored and every other one is untouched. -/
theorem find_save (op : ConsequentialOperation) (env : Env)
    (ids : (w.operations.map ConsequentialOperation.id).Nodup) :
    respond (.save op) w env = (.error keyTaken, w) ∨
    ((respond (.save op) w env).1 = .ok () ∧
      (respond (.save op) w env).2.executed = w.executed ∧
      ((respond (.save op) w env).2.operations.map ConsequentialOperation.id).Nodup ∧
      ∀ x, find (respond (.save op) w env).2.operations x =
        if op.id = x then some op else find w.operations x) := by
  rcases save_cases op w env with taken | ⟨new, saved⟩ | ⟨old, found, saved⟩
  · exact .inl taken
  · right
    rw [saved]
    refine ⟨rfl, rfl, ?_, fun x => ?_⟩
    · have absent := lookupBy_none.mp new
      rw [List.map_append, List.nodup_append]
      refine ⟨ids, List.nodup_singleton _, ?_⟩
      rintro _ hx _ hy rfl
      obtain ⟨a, ha, same⟩ := List.mem_map.mp hx
      exact absent a ha (same.trans (List.mem_singleton.mp hy))
    · split_ifs with same
      · rw [← same]
        exact lookupBy_concat_self (lookupBy_none.mp new)
      · exact lookupBy_concat_ne same
  · right
    obtain ⟨mem, same⟩ := lookupBy_some found
    rw [saved]
    refine ⟨rfl, rfl, by rw [map_key_replaceBy]; exact ids, fun x => ?_⟩
    split_ifs with own
    · rw [← own]
      exact lookupBy_replaceBy_self ids mem same
    · exact lookupBy_replaceBy_ne own

/-- A command other than a save or a call of the provider changes no record, and
arms nobody. -/
theorem quiet_command (g : Mark) (id : String) (w : World) {c : Cmd} (env : Env)
    (notSave : ∀ op, c ≠ .save op)
    (notExecute : ∀ op, c ≠ .execute op) :
    (respond c w env).2.operations = w.operations ∧ (respond c w env).2.executed = w.executed ∧
      ((lifecycle.after g c (respond c w env).1).armedFor id = true → g.armedFor id = true) := by
  have loads : ∀ found, (g.loads found).armedFor id = true → g.armedFor id = true := by
    intro found armed
    rw [Mark.loads] at armed
    split at armed
    · exact armed
    · cases armed
  cases c with
  | save op => exact absurd rfl (notSave op)
  | execute op => exact absurd rfl (notExecute op)
  | getByIdempotencyKey key => exact ⟨rfl, rfl, loads _⟩
  | get operationId => exact ⟨rfl, rfl, loads _⟩
  | consume nonce =>
    cases taken : consumeNonce w.consumed nonce with
    | error err => simp [respond, taken, lifecycle]
    | ok consumed => simp [respond, taken, lifecycle]
  | verifyToken token proposal org decision => exact ⟨rfl, rfl, fun armed => armed⟩
  | getEntries => exact ⟨rfl, rfl, fun armed => armed⟩
  | getBalance account => exact ⟨rfl, rfl, fun armed => armed⟩
  | transfer source target amount memo txId => exact ⟨rfl, rfl, fun armed => armed⟩
  | status operationId key reference => exact ⟨rfl, rfl, fun armed => armed⟩
  | uuid4 => exact ⟨rfl, rfl, fun armed => armed⟩

theorem accounted_quiet (held : Accounted id gs w) (at_ : gs[n]? = some g) {w' : World}
    (operations : w'.operations = w.operations) (executed : w'.executed = w.executed)
    (armed : g'.armedFor id = true → g.armedFor id = true) : Accounted id (gs.set n g') w' := by
  refine ⟨operations ▸ held.ids, ?_⟩
  have count := countP_set_add (Mark.armedFor id) g' at_
  have fewer : (g'.armedFor id).toNat ≤ (g.armedFor id).toNat := Bool.toNat_le_toNat armed
  have bound := held.bound
  rw [executed, stateOf, operations, ← stateOf]
  omega

theorem accounted_save {op : ConsequentialOperation} {env : Env} (held : Accounted id gs w)
    (at_ : gs[n]? = some g) (allowed : lifecycle.allowed g (.save op))
    (unmoved : Unmoved g (.save op) w) :
    Accounted id (gs.set n (lifecycle.after g (.save op) (respond (.save op) w env).1))
      (respond (.save op) w env).2 := by
  rcases find_save op env held.ids with taken | ⟨answer, executed, ids, finds⟩
  · rw [taken]
    exact accounted_quiet held at_ rfl rfl fun armed => armed
  · rw [answer]
    refine ⟨ids, ?_⟩
    have count := countP_set_add (Mark.armedFor id) (lifecycle.after g (.save op) (.ok ())) at_
    have bound := held.bound
    have state : stateOf (respond (.save op) w env).2 id =
        if op.id = id then some op.state else stateOf w id := by
      rw [stateOf, finds]
      split_ifs
      · rfl
      · rfl
    rw [executed, state]
    by_cases own : op.id = id
    · rw [if_pos own]
      have before : stateOf w id = g.base.map ConsequentialOperation.state := own ▸ unmoved
      have arms : (lifecycle.after g (.save op) (.ok ())).armedFor id =
          decide (op.state = .submitted) := by
        simp [lifecycle, Mark.armedFor, own]
      rw [arms] at count
      cases base : g.base with
      | none =>
        simp only [lifecycle, base] at allowed
        rw [before, base] at bound
        have none : dispatched (Option.map ConsequentialOperation.state none) = 0 := rfl
        have created : dispatched (some OperationState.created) = 0 := rfl
        rw [none] at bound
        rw [allowed] at count ⊢
        rw [created]
        simp at count
        omega
      | some b =>
        simp only [lifecycle, base] at allowed
        rw [before, base] at bound
        obtain ⟨_, legal⟩ := allowed
        simp only [Option.map_some] at bound
        by_cases submits : op.state = .submitted
        · rw [submits] at legal count ⊢
          rw [dispatched_submitted legal] at bound
          simp [dispatched] at count ⊢
          omega
        · have mono := dispatched_mono legal
          rw [decide_eq_false submits] at count
          simp at count
          omega
    · rw [if_neg own]
      have arms : (lifecycle.after g (.save op) (.ok ())).armedFor id = false := by
        simp [lifecycle, Mark.armedFor, own]
      rw [arms] at count
      simp at count
      omega

/-- One step of any call, made without a lost update, keeps the account. -/
theorem accounted_step {c : Cmd} {env : Env} (at_ : gs[n]? = some g)
    (allowed : lifecycle.allowed g c) (unmoved : Unmoved g c w) (held : Accounted id gs w) :
    Accounted id (gs.set n (lifecycle.after g c (respond c w env).1)) (respond c w env).2 := by
  by_cases saves : ∃ op, c = .save op
  · obtain ⟨op, rfl⟩ := saves
    exact accounted_save held at_ allowed unmoved
  · by_cases executes : ∃ op, c = .execute op
    · obtain ⟨op, rfl⟩ := executes
      obtain ⟨armed, base⟩ := allowed
      refine ⟨held.ids, ?_⟩
      have count := countP_set_add (Mark.armedFor id)
        (lifecycle.after g (.execute op) env.execution) at_
      have bound := held.bound
      have disarms : (lifecycle.after g (.execute op) env.execution).armedFor id = false := rfl
      have was : g.armedFor id = (op.id == id) := by
        simp [Mark.armedFor, armed, base]
      have calls : (w.executed ++ [op.id]).count id =
          w.executed.count id + (op.id == id).toNat := by
        rw [List.count_append, List.count_singleton]
        cases op.id == id <;> rfl
      rw [disarms, was] at count
      show (w.executed ++ [op.id]).count id + _ ≤ _
      rw [calls]
      simp only [Bool.toNat_false, Nat.add_zero] at count
      show _ + (gs.set n (lifecycle.after g (.execute op) env.execution)).countP _ ≤
        dispatched (stateOf w id)
      omega
    · obtain ⟨operations, executed, armed⟩ := quiet_command g id w env
        (fun op h => saves ⟨op, h⟩) fun op h => executes ⟨op, h⟩
      exact accounted_quiet held at_ operations executed armed

/-- An ended record and the uniqueness of ids, kept by one step. -/
theorem ended_step {c : Cmd} {env : Env} {o : ConsequentialOperation} (terminal : o.state.Terminal)
    (allowed : lifecycle.allowed g c) (unmoved : Unmoved g c w)
    (held : (w.operations.map ConsequentialOperation.id).Nodup ∧ find w.operations id = some o) :
    ((respond c w env).2.operations.map ConsequentialOperation.id).Nodup ∧
      find (respond c w env).2.operations id = some o := by
  obtain ⟨ids, stored⟩ := held
  by_cases saves : ∃ op, c = .save op
  · obtain ⟨op, rfl⟩ := saves
    rcases find_save op env ids with taken | ⟨_, _, ids', finds⟩
    · rw [taken]
      exact ⟨ids, stored⟩
    · refine ⟨ids', ?_⟩
      rw [finds, if_neg, stored]
      intro own
      simp only [Unmoved, own, stored, Option.map_some] at unmoved
      cases base : g.base with
      | none =>
        rw [base] at unmoved
        cases unmoved
      | some b =>
        simp only [lifecycle, base] at allowed
        rw [base] at unmoved
        have same : o.state = b.state := Option.some.inj unmoved
        have none : validTransitions b.state = [] := same ▸ terminal
        rw [none] at allowed
        cases allowed.2
  · by_cases executes : ∃ op, c = .execute op
    · obtain ⟨op, rfl⟩ := executes
      exact ⟨ids, stored⟩
    · obtain ⟨operations, _⟩ := quiet_command g id w env
        (fun op h => saves ⟨op, h⟩) fun op h => executes ⟨op, h⟩
      rw [operations]
      exact ⟨ids, stored⟩

end Sharing

instance : ∀ (g : Mark) (c : Cmd) (w : World), Decidable (Unmoved g c w)
  | _, .save _, _ => inferInstanceAs (Decidable (_ = _))
  | _, .getByIdempotencyKey _, _ => isTrue trivial
  | _, .get _, _ => isTrue trivial
  | _, .consume _, _ => isTrue trivial
  | _, .verifyToken _ _ _ _, _ => isTrue trivial
  | _, .getEntries, _ => isTrue trivial
  | _, .getBalance _, _ => isTrue trivial
  | _, .transfer _ _ _ _ _, _ => isTrue trivial
  | _, .execute _, _ => isTrue trivial
  | _, .status _ _ _, _ => isTrue trivial
  | _, .uuid4, _ => isTrue trivial

inductive Job where
  | execute (proposal : ActionProposal) (decision : PolicyDecision) (org : Organisation)
      (idempotencyKey : Option String)
  | reconcile (operationId : String) (org : Organisation)

def Job.program (m : Manager) : Job → Action Unit
  | .execute proposal decision org key => ignore (executeProposal m proposal decision org key)
  | .reconcile id org => ignore (reconcileOperation m.hashing id org)

def workers (m : Manager) (jobs : List Job) : Pool Cmd Resp PyError Mark Unit :=
  jobs.map fun j => ⟨Mark.start, j.program m⟩

def worldAfter (m : Manager) (jobs : List Job) (w : World) (schedule : List (Nat × Env)) : World :=
  (interleave respond lifecycle schedule (workers m jobs) w).2

theorem workers_disciplined (m : Manager) (jobs : List Job) :
    Disciplined lifecycle (workers m jobs) := by
  intro t ht
  obtain ⟨j, _, rfl⟩ := List.mem_map.mp ht
  cases j with
  | execute proposal decision org key =>
    exact Follows.bind (follows_executeProposal m proposal decision org key) fun _ _ _ => trivial
  | reconcile id org =>
    exact Follows.bind (follows_reconcileOperation m.hashing id org) fun _ _ _ => trivial

theorem marks_workers (m : Manager) (jobs : List Job) (id : String) :
    (marks (workers m jobs)).countP (Mark.armedFor id) = 0 := by
  rw [List.countP_eq_zero]
  intro g hg
  obtain ⟨t, ht, rfl⟩ := List.mem_map.mp hg
  obtain ⟨j, _, rfl⟩ := List.mem_map.mp ht
  exact Bool.false_ne_true

variable {m : Manager} {jobs : List Job} {w : World}

theorem accounted_after (ids : (w.operations.map ConsequentialOperation.id).Nodup)
    (accounts : ∀ id, w.executed.count id ≤ dispatched (stateOf w id))
    (schedule : List (Nat × Env))
    (unmoved : Respects respond lifecycle Unmoved schedule (workers m jobs) w) (id : String) :
    Accounted id (marks (interleave respond lifecycle schedule (workers m jobs) w).1)
      (worldAfter m jobs w schedule) := by
  refine interleave_keeps (J := Accounted id) ?_ schedule (workers_disciplined m jobs) ?_ unmoved
  · intro gs w n g c i at_ allowed unmoved held
    exact accounted_step at_ allowed unmoved held
  · refine ⟨ids, ?_⟩
    rw [marks_workers]
    exact accounts id

/-- In every interleaving without a lost update the provider is called at most once for
an operation, and a record that has ended never changes again. -/
theorem dispatched_once_and_final (ids : (w.operations.map ConsequentialOperation.id).Nodup)
    (accounts : ∀ id, w.executed.count id ≤ dispatched (stateOf w id))
    (earlier later : List (Nat × Env))
    (unmoved : Respects respond lifecycle Unmoved (earlier ++ later) (workers m jobs) w) :
    (∀ id, (worldAfter m jobs w (earlier ++ later)).executed.count id ≤ 1) ∧
    ∀ id o, o.state.Terminal → find (worldAfter m jobs w earlier).operations id = some o →
      find (worldAfter m jobs w (earlier ++ later)).operations id = some o := by
  constructor
  · intro id
    have bound := (accounted_after ids accounts (earlier ++ later) unmoved id).bound
    have most : ∀ s, dispatched s ≤ 1 := by
      rintro (_ | s)
      · exact Nat.zero_le 1
      · cases s <;> decide
    have := most (stateOf (worldAfter m jobs w (earlier ++ later)) id)
    omega
  · intro id o terminal stored
    obtain ⟨first, rest⟩ := respects_append unmoved
    have ids' := (accounted_after ids accounts earlier first id).ids
    rw [worldAfter, interleave_append]
    refine (interleave_keeps (J := fun _ w => (w.operations.map ConsequentialOperation.id).Nodup ∧
      find w.operations id = some o) ?_ later
      (disciplined_interleave earlier (workers_disciplined m jobs)) ⟨ids', stored⟩ rest).2
    intro gs w n g c i _ allowed unmoved held
    exact ended_step terminal allowed unmoved held

section Scenario
open ExactlyOnce

def twoWorkers : List Job :=
  [.execute (proposal "p1") (decision "tok-1") org none,
    .execute (proposal "p1") (decision "tok-1") org none]

def turns (entryId : String) (threads : List Nat) : List (Nat × Env) :=
  threads.map fun n => (n, env firstUuid entryId "SUCCESS")

/-- The first worker ends, then the second one finds its record. -/
def inTurn : List (Nat × Env) := turns "l1" (List.replicate 10 0) ++ turns "x1" [0, 0, 0, 0, 0]

/-- The second worker loads the ESCROWED record just before the first one goes on. -/
def overtaken : List (Nat × Env) :=
  turns "l1" (List.replicate 10 0) ++ turns "x1" [1, 1, 0, 0, 0, 0, 0]

theorem workers_in_turn :
    (∀ id, (worldAfter manager twoWorkers funded
      (inTurn ++ turns "x2" [0, 1, 1, 1])).executed.count id ≤ 1) ∧
    ∀ id o, o.state.Terminal →
      find (worldAfter manager twoWorkers funded inTurn).operations id = some o →
      find (worldAfter manager twoWorkers funded
        (inTurn ++ turns "x2" [0, 1, 1, 1])).operations id = some o :=
  dispatched_once_and_final (by decide) (fun _ => Nat.zero_le _) _ _ (by decide +kernel)

theorem stale_worker_dispatches_again :
    stateOf (worldAfter manager twoWorkers funded overtaken) "cop-111111111111" =
      some .succeeded ∧
    stateOf (worldAfter manager twoWorkers funded (overtaken ++ turns "x2" [1, 1]))
      "cop-111111111111" = some .submitted ∧
    1 < (worldAfter manager twoWorkers funded (overtaken ++ turns "x2" [1, 1])).executed.count
      "cop-111111111111" := by
  decide +kernel

end Scenario

end WorkerInterleaving
