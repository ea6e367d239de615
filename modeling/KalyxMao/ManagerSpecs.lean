import KalyxMao.EscrowInvariant

/-!
# What each step of the execution manager preserves

One lemma for each method of the manager: between any two of its commands the
ledger entries fit the stored operations. The methods trust the operation object
they are given, so each lemma asks for the stored one where the method acts.
-/

namespace ManagerSpecs
open Bookkeeping PythonText Ledger SqlLedgers LedgerEquivalence Domain EffectPrograms
open EffectPrograms.Prog Consequential KeyedLists EscrowNames EscrowInvariant
open Reconciliation
open ConsequentialOperation (SameTerms transitionTo_ok)

/-- The world's ledger holds these entries, and they fit the stored operations. -/
structure Holds (h : Hashing) (entries : List LedgerEntry) (w : World) : Prop where
  ledger : w.ledger = sqliteOf entries
  good : Good h entries w.operations

def Inv (h : Hashing) (w : World) : Prop := ∃ entries, Holds h entries w

structure Stored (h : Hashing) (entries : List LedgerEntry) (w : World)
    (op : ConsequentialOperation) : Prop extends Holds h entries w where
  stored : find w.operations op.id = some op

/-- The reported outcome is at odds with a settlement the ledger already has, and
escrow could pay a second time. -/
def Contradicted (w : World) (opId target : String) : Prop :=
  ∃ o ∈ find w.operations opId, 0 < o.amount ∧
    (∃ r ∈ w.ledger.rows, r.fromAccount = escrow ∧ r.toAccount = target ∧
      isIn opId r.memo = true) ∧
    (o.amount : Int) ≤ w.ledger.getBalance escrow

/-- What is asked of the outside: identifiers whose digests are new, and status
answers that do not contradict the ledger. -/
def Consistent (h : Hashing) : Cmd → World → Env → Prop
  | .uuid4, w, env => ∀ o ∈ w.operations, h.short o.id ≠ h.short (operationId env.uuid)
  | .transfer _ _ _ _ _, w, env => ∀ r ∈ w.ledger.rows, r.id ≠ env.draw.entryId
  | .status opId _ _, w, env =>
    match env.status with
    | .ok s => (s.outcome = outcomeSuccess → ¬ Contradicted w opId treasury) ∧
        (s.outcome = outcomeFailure → ¬ Contradicted w opId externalSink)
    | .error _ => True
  | _, _, _ => True

instance (w : World) (opId target : String) : Decidable (Contradicted w opId target) :=
  inferInstanceAs (Decidable (∃ o ∈ find w.operations opId, _))

instance (h : Hashing) : ∀ (c : Cmd) (w : World) (env : Env), Decidable (Consistent h c w env)
  | .uuid4, w, env => inferInstanceAs (Decidable (∀ o ∈ w.operations, _ ≠ _))
  | .transfer _ _ _ _ _, w, env => inferInstanceAs (Decidable (∀ r ∈ w.ledger.rows, _ ≠ _))
  | .status opId _ _, w, env =>
    match said : env.status with
    | .ok s => decidable_of_iff ((s.outcome = outcomeSuccess → ¬ Contradicted w opId treasury) ∧
        (s.outcome = outcomeFailure → ¬ Contradicted w opId externalSink))
        (by simp only [Consistent, said])
    | .error _ => isTrue (by simp only [Consistent, said])
  | .getByIdempotencyKey _, _, _ => isTrue trivial
  | .get _, _, _ => isTrue trivial
  | .save _, _, _ => isTrue trivial
  | .consume _, _, _ => isTrue trivial
  | .verifyToken _ _ _ _, _, _ => isTrue trivial
  | .getEntries, _, _ => isTrue trivial
  | .getBalance _, _, _ => isTrue trivial
  | .execute _, _, _ => isTrue trivial

section Specs
variable {h : Hashing} {entries : List LedgerEntry} {w : World} {op : ConsequentialOperation}

/-- Programs that keep the escrow invariant at every command. -/
abbrev Safe (h : Hashing) {α : Type} (Q : α → World → Prop) (p : Action α) (w : World) : Prop :=
  Keeps respond (Consistent h) (Inv h) Q (fun _ w => Inv h w) p w

theorem Stored.mem (st : Stored h entries w op) : op ∈ w.operations := (lookupBy_some st.stored).1

theorem Stored.inv (st : Stored h entries w op) : Inv h w := ⟨entries, st.ledger, st.good⟩

theorem Stored.status (st : Stored h entries w op) (pos : 0 < op.amount) :
    Settlement op.state (locksOf entries op.id).length (exitsOf entries op.id).length :=
  st.good.status op st.mem pos

theorem stored_of_mem (held : Holds h entries w) (mem : op ∈ w.operations) :
    Stored h entries w op :=
  ⟨held, lookupBy_of_mem held.good.ids mem⟩

theorem getEntries_eq (held : Holds h entries w) : w.ledger.getEntries none = .ok entries := by
  rw [held.ledger]
  exact readEntries_entryRows defaultTenant entries

theorem getBalance_eq (held : Holds h entries w) (a : String) :
    w.ledger.getBalance a = balance (postings entries) a := by
  rw [held.ledger]
  exact balanceOf_entryRows defaultTenant entries a

theorem mem_rows (held : Holds h entries w) {e : LedgerEntry} (he : e ∈ entries) :
    entryRow defaultTenant e ∈ w.ledger.rows := by
  rw [held.ledger]
  exact List.mem_map_of_mem he

/-- A record written over the stored one it came from. -/
theorem safe_save {op' : ConsequentialOperation} (st : Stored h entries w op)
    (same : SameTerms op' op) (status : 0 < op.amount →
      Settlement op'.state (locksOf entries op.id).length (exitsOf entries op.id).length) :
    Safe h (fun _ w' => Stored h entries w' op') (save op') w := by
  refine ⟨st.inv, fun env _ => ?_⟩
  have found : find w.operations op'.id = some op := same.id ▸ st.stored
  simp only [respond, saveOperation_keyed found st.good.keys same.idempotencyKey]
  exact ⟨⟨st.ledger, st.good.replace st.mem same status⟩,
    lookupBy_replaceBy_self st.good.ids st.mem same.id.symm⟩

theorem safe_transitionAndSave (st : Stored h entries w op) {s : OperationState}
    {errorMessage providerReference : Option String}
    (status : s ∈ validTransitions op.state → 0 < op.amount →
      Settlement s (locksOf entries op.id).length (exitsOf entries op.id).length) :
    Safe h (fun op' w' => Stored h entries w' op' ∧ op'.state = s ∧ SameTerms op' op)
      (transitionAndSave op s errorMessage providerReference) w := by
  refine Keeps.bind (Keeps.ofExcept (Q := fun op' w' => w' = w ∧ s ∈ validTransitions op.state ∧
    op'.state = s ∧ SameTerms op' op) (fun op' ok => ⟨rfl, transitionTo_ok ok⟩)
    (fun _ _ => st.inv)) ?_
  rintro op' _ ⟨rfl, legal, moved, same⟩
  refine Keeps.bind (safe_save st same (moved.symm ▸ status legal)) ?_
  intro _ w' saved
  exact ⟨saved, moved, same⟩

/-- A transfer whose entry would be a lock or an exit that the state allows. -/
theorem safe_transfer (st : Stored h entries w op) (source : String) {target memo txId : String}
    (notMint : source ≠ systemMint) (named : txId ≠ "")
    (role : ∀ e : LedgerEntry, e.fromAccount = source → e.toAccount = target →
      e.amount = op.amount → e.memo = memo → e.transactionId = txId →
        (IsLock h op e ∨ IsExit h op e) ∧ Settlement op.state
          (locksOf (entries ++ [e]) op.id).length (exitsOf (entries ++ [e]) op.id).length) :
    Safe h (fun (answer : Except PyError LedgerEntry) w' => match answer with
      | .ok e => Stored h (entries ++ [e]) w' op ∧ e.fromAccount = source ∧ e.toAccount = target ∧
          e.amount = op.amount ∧ e.memo = memo ∧ e.transactionId = txId
      | .error _ => Stored h entries w' op ∧ ¬(0 < (op.amount : Int) ∧
          (∀ e ∈ entries, e.transactionId ≠ txId) ∧ source ≠ target ∧
          (op.amount : Int) ≤ balance (postings entries) source))
      (ask (.transfer source target op.amount memo txId)) w := by
  refine ⟨st.inv, fun env fresh => ?_⟩
  have unused : ∀ e ∈ entries, e.id ≠ env.draw.entryId := fun e he =>
    fresh _ (mem_rows st.toHolds he)
  simp only [respond, st.ledger]
  rcases transfer_cases target memo op.amount unused notMint named with ⟨err, refused, why⟩ | ⟨e, taken, from_, to_, amount, memo_, tx⟩
  · rw [refused]
    exact ⟨⟨⟨rfl, st.good⟩, st.stored⟩, why⟩
  · rw [taken]
    obtain ⟨origin, status⟩ := role e from_ to_ amount memo_ tx
    exact ⟨⟨⟨rfl, st.good.concat st.mem origin status⟩, st.stored⟩, from_, to_, amount, memo_, tx⟩

theorem length_lock (st : Stored h entries w op) {e : LedgerEntry} (lock : IsLock h op e) :
    (locksOf (entries ++ [e]) op.id).length = (locksOf entries op.id).length + 1 ∧
      exitsOf (entries ++ [e]) op.id = exitsOf entries op.id := by
  have shape := st.good.shapes op st.mem
  obtain ⟨locks, exits⟩ := counts_lock entries lock shape shape
  refine ⟨?_, exits⟩
  rw [locks, if_pos rfl, List.length_append, List.length_singleton]

theorem length_exit (st : Stored h entries w op) {e : LedgerEntry} (exit : IsExit h op e) :
    locksOf (entries ++ [e]) op.id = locksOf entries op.id ∧
      (exitsOf (entries ++ [e]) op.id).length = (exitsOf entries op.id).length + 1 := by
  have shape := st.good.shapes op st.mem
  obtain ⟨locks, exits⟩ := counts_exit entries exit shape shape
  refine ⟨locks, ?_⟩
  rw [exits, if_pos rfl, List.length_append, List.length_singleton]

theorem safe_lockEscrow (st : Stored h entries w op)
    (authorized : op.state = .authorized) (pos : 0 < op.amount) :
    Safe h (fun _ w' => ∃ entries', Stored h entries' w' op ∧
      (locksOf entries' op.id).length = 1 ∧ (exitsOf entries' op.id).length = 0)
      (lockEscrow h op) w := by
  have status := st.status pos
  rw [authorized] at status
  obtain ⟨atMost, none⟩ := status
  refine Keeps.perform st.inv fun env read w' _ answer => ?_
  obtain ⟨rfl, rfl⟩ := Prod.mk.inj answer
  rw [getEntries_eq st.toHolds, ofExcept_ok, ret_bind]
  cases found : entries.find? (fun e => e.transactionId = lockTx h op) with
  | some e =>
    have he := List.mem_of_find?_eq_some found
    have tx : e.transactionId = lockTx h op := by simpa using List.find?_some found
    have lock := st.good.lock_of_tx st.mem he tx
    have locked := List.length_pos_of_mem (st.good.mem_locksOf st.mem he lock)
    dsimp only
    split
    · exact st.inv
    · exact ⟨entries, st, by omega, none⟩
  | none =>
    have unlocked : (locksOf entries op.id).length = 0 := by
      refine List.length_eq_zero_iff.mpr (List.eq_nil_iff_forall_not_mem.mpr fun e he => ?_)
      have lock := st.good.lock_of_mem st.mem he
      have absent := List.find?_eq_none.mp found e (List.mem_of_mem_filter he)
      exact absent (decide_eq_true lock.tx)
    refine Keeps.bind (safe_transfer st treasury (by decide) lockTx_ne_empty ?_) ?_
    · intro e source target amount memo tx
      have lock : IsLock h op e := ⟨source, target, amount, memo ▸ lockMemo_named op.id, tx⟩
      obtain ⟨locks, exits⟩ := length_lock st lock
      rw [authorized, locks, exits]
      exact ⟨.inl lock, by omega, none⟩
    · rintro (_ | e) w' answer
      · exact answer.1.inv
      · obtain ⟨st', source, target, amount, memo, tx⟩ := answer
        have lock : IsLock h op e := ⟨source, target, amount, memo ▸ lockMemo_named op.id, tx⟩
        obtain ⟨locks, exits⟩ := length_lock st lock
        exact ⟨_, st', by omega, by rw [exits]; exact none⟩

/-- Writing a state and then ending, by return or exception, keeps the invariant. -/
theorem safe_finish {α : Type} (st : Stored h entries w op) {s : OperationState}
    {errorMessage providerReference : Option String}
    (status : s ∈ validTransitions op.state → 0 < op.amount →
      Settlement s (locksOf entries op.id).length (exitsOf entries op.id).length)
    {rest : ConsequentialOperation → Action α}
    (ends : ∀ op' w', Inv h w' → Safe h (fun _ w => Inv h w) (rest op') w') :
    Safe h (fun _ w => Inv h w)
      (transitionAndSave op s errorMessage providerReference >>= rest) w :=
  Keeps.bind (safe_transitionAndSave st status) fun op' w' saved => ends op' w' saved.1.inv

theorem safe_escrowOperation
    (st : op.state = .authorized → Stored h entries w op) (inv : Inv h w) :
    Safe h (fun op' w' => ∃ entries', Stored h entries' w' op' ∧ op'.state = .escrowed)
      (escrowOperation h op) w := by
  rw [escrowOperation]
  by_cases authorized : op.state = .authorized
  · have st := st authorized
    rw [if_neg (by simp [authorized])]
    by_cases pos : 0 < op.amount
    · rw [if_pos pos]
      refine Keeps.bind (safe_lockEscrow st authorized pos) ?_
      rintro _ w' ⟨entries', st', locks, exits⟩
      refine Keeps.perform st'.inv fun _ _ w'' _ answer => ?_
      obtain ⟨_, rfl⟩ := Prod.mk.inj answer
      exact (safe_transitionAndSave (s := .escrowed) st' fun _ _ => ⟨locks, exits⟩).mono
        fun op' w'' saved => ⟨entries', saved.1, saved.2.1⟩
    · rw [if_neg pos]
      exact (safe_transitionAndSave st fun _ positive => absurd positive pos).mono
        fun op' w' saved => ⟨entries, saved.1, saved.2.1⟩
  · rw [if_pos authorized]
    exact inv

/-- Paying out an operation that has not left escrow makes its one exit. -/
theorem safe_payOut (st : Stored h entries w op) (submitted : op.state = .submitted)
    (open_ : 0 < op.amount → (exitsOf entries op.id).length = 0) {target memo txId : String}
    (route : target = externalSink ∨ target = treasury) (named : NamedFor op.id memo)
    (tx : ExitTx h op txId) :
    Safe h (fun _ w' => ∃ entries', Stored h entries' w' op ∧
      (0 < op.amount → (locksOf entries' op.id).length = 1 ∧ (exitsOf entries' op.id).length = 1))
      (payOut op target memo txId) w := by
  rw [payOut]
  by_cases pos : 0 < op.amount
  · have status := st.status pos
    rw [submitted] at status
    have none := open_ pos
    have isExit : ∀ e : LedgerEntry, e.fromAccount = escrow → e.toAccount = target →
        e.amount = op.amount → e.memo = memo → e.transactionId = txId → IsExit h op e :=
      fun e source goal amount text id =>
        ⟨source, goal.symm ▸ route, amount, text.symm ▸ named, id.symm ▸ tx⟩
    rw [if_pos pos]
    refine Keeps.bind (safe_transfer st escrow (by decide) (exitTx_ne_empty tx) ?_) ?_
    · intro e source goal amount text id
      have exit := isExit e source goal amount text id
      obtain ⟨locks, exits⟩ := length_exit st exit
      rw [submitted, locks, exits]
      exact ⟨.inr exit, status.1, by omega⟩
    · rintro (_ | e) w' answer
      · exact answer.1.inv
      · obtain ⟨st', source, goal, amount, text, id⟩ := answer
        obtain ⟨locks, exits⟩ := length_exit st (isExit e source goal amount text id)
        refine Keeps.perform st'.inv fun _ _ w'' _ answer => ?_
        obtain ⟨_, rfl⟩ := Prod.mk.inj answer
        exact ⟨_, st', fun _ => ⟨by rw [locks]; exact status.1, by omega⟩⟩
  · rw [if_neg pos]
    exact ⟨entries, st, fun positive => absurd positive pos⟩

theorem safe_concludeSubmission (st : Stored h entries w op) (submitted : op.state = .submitted)
    (open_ : 0 < op.amount → (exitsOf entries op.id).length = 0) (proposal : ActionProposal)
    (decision : PolicyDecision) (result : ProviderExecutionResult) :
    Safe h (fun _ w' => Inv h w') (concludeSubmission h op proposal decision result) w := by
  rw [concludeSubmission]
  split_ifs with success failure
  · refine Keeps.bind (safe_payOut st submitted open_ (.inl rfl) (commitMemo_named op.id)
      (.inl ⟨_, by decide, _, rfl⟩)) ?_
    rintro _ w' ⟨entries', st', counts⟩
    refine safe_finish (s := .succeeded) st' (fun _ pos => counts pos) fun op' w'' inv => ?_
    refine Keeps.perform inv fun _ _ w''' _ answer => ?_
    obtain ⟨_, rfl⟩ := Prod.mk.inj answer
    exact inv
  · refine Keeps.bind (safe_payOut st submitted open_ (.inr rfl) (rollbackMemo_named op.id)
      (.inl ⟨_, by decide, _, rfl⟩)) ?_
    rintro _ w' ⟨entries', st', counts⟩
    refine safe_finish st' (fun _ pos => ?_) fun op' w'' inv => inv
    obtain ⟨locks, exits⟩ := counts pos
    exact ⟨by omega, by omega⟩
  · refine safe_finish st (fun _ pos => ?_) fun op' w' inv => inv
    have status := st.status pos
    rw [submitted] at status
    exact status

theorem safe_submitOperation (st : op.state = .escrowed → Stored h entries w op) (inv : Inv h w)
    (proposal : ActionProposal) (decision : PolicyDecision) :
    Safe h (fun _ w' => Inv h w') (submitOperation h op proposal decision) w := by
  rw [submitOperation]
  by_cases escrowed : op.state = .escrowed
  · have st := st escrowed
    have status : 0 < op.amount → (locksOf entries op.id).length = 1 ∧
        (exitsOf entries op.id).length = 0 := fun pos => by
      have status := st.status pos
      rwa [escrowed] at status
    rw [if_neg (by simp [escrowed])]
    refine Keeps.bind (safe_transitionAndSave st fun _ pos => ?_) ?_
    · obtain ⟨locks, exits⟩ := status pos
      exact ⟨locks, by omega⟩
    · rintro submitted w' ⟨st', moved, same⟩
      have open_ : 0 < submitted.amount → (exitsOf entries submitted.id).length = 0 := by
        rw [same.amount, same.id]
        exact fun pos => (status pos).2
      refine Keeps.perform st'.inv fun env result w'' _ answer => ?_
      obtain ⟨_, rfl⟩ := Prod.mk.inj answer
      have st'' : Stored h entries (respond (.execute submitted) w' env).2 submitted :=
        ⟨⟨st'.ledger, st'.good⟩, st'.stored⟩
      cases result with
      | error exc =>
        refine safe_finish st'' (fun _ pos => ?_) fun op' w''' inv => inv
        have status := st''.status pos
        rw [moved] at status
        exact status
      | ok result => exact safe_concludeSubmission st'' moved open_ proposal decision result
  · rw [if_pos escrowed]
    exact inv

theorem safe_registerOperation (m : Manager) (held : Holds m.hashing entries w)
    (proposal : ActionProposal) (decision : PolicyDecision) (org : Organisation) (key : String) :
    Safe m.hashing (fun op w' => Stored m.hashing entries w' op)
      (registerOperation m proposal decision org key) w := by
  rw [registerOperation]
  have inv : Inv m.hashing w := ⟨entries, held⟩
  refine Keeps.perform inv fun _ existing w' _ answer => ?_
  obtain ⟨found, rfl⟩ := Prod.mk.inj answer
  cases existing with
  | some op =>
    dsimp only
    split_ifs
    · exact inv
    · exact inv
    · exact stored_of_mem held (lookupBy_some found).1
  | none =>
    refine Keeps.perform inv fun env u w' unlike answer => ?_
    obtain ⟨rfl, rfl⟩ := Prod.mk.inj answer
    have fresh : ∀ o ∈ w.operations, m.hashing.short o.id ≠
        m.hashing.short (newOperation m proposal decision org key env.uuid).id := unlike
    refine Keeps.bind (Q := fun _ w' => Stored m.hashing entries w'
      (newOperation m proposal decision org key env.uuid)) ?_ fun _ w' st => st
    refine Keeps.perform inv fun _ saved w' _ answer => ?_
    have new : find w.operations (newOperation m proposal decision org key env.uuid).id = none :=
      lookupBy_none.mpr (Good.new_of_unlike fresh)
    rcases saveOperation_insert new with taken | ⟨done, newKey⟩
    · simp only [respond, taken] at answer
      obtain ⟨rfl, rfl⟩ := Prod.mk.inj answer
      exact inv
    · simp only [respond, done] at answer
      obtain ⟨rfl, rfl⟩ := Prod.mk.inj answer
      exact ⟨⟨held.ledger, held.good.register (operationId_shape env.uuid) fresh newKey rfl⟩,
        lookupBy_concat_self (Good.new_of_unlike fresh)⟩

theorem safe_createOperation (m : Manager) (held : Holds m.hashing entries w)
    (proposal : ActionProposal) (decision : PolicyDecision) (org : Organisation)
    (idempotencyKey : Option String) :
    Safe m.hashing (fun op w' => Stored m.hashing entries w' op)
      (createOperation m proposal decision org idempotencyKey) w := by
  have inv : Inv m.hashing w := ⟨entries, held⟩
  simp only [createOperation]
  split_ifs
  · exact inv
  · exact inv
  · refine Keeps.perform inv fun env verdict w' _ answer => ?_
    obtain ⟨_, rfl⟩ := Prod.mk.inj answer
    rcases verdict with ⟨_ | _, reason⟩
    · exact inv
    · refine Keeps.bind (Q := fun _ w' => w = w') (Keeps.ofExcept (fun _ _ => rfl)
        fun _ _ => inv) ?_
      rintro _ _ rfl
      exact safe_registerOperation m held proposal decision org _

/-- The token of a decision carries a nonce the journal already has. -/
def TokenSpent (m : Manager) (decision : PolicyDecision) (w : World) : Prop :=
  ∃ nonce, m.nonceOf (orElse decision.authorizationToken "") = .ok nonce ∧ nonce ∈ w.consumed

/-- An operation whose escrow is not in flight may fail. -/
theorem failed_status (st : Stored h entries w op)
    (idle : 0 < op.amount → pending entries op = false) (pos : 0 < op.amount) :
    Settlement .failed (locksOf entries op.id).length (exitsOf entries op.id).length := by
  have status := st.status pos
  have idle := idle pos
  have waiting : (locksOf entries op.id).length = 0 ∨ (exitsOf entries op.id).length ≠ 0 := by
    by_contra both
    push Not at both
    have locked : locksOf entries op.id ≠ [] := fun e => both.1 (by rw [e]; rfl)
    have open_ : exitsOf entries op.id = [] := List.length_eq_zero_iff.mp both.2
    simp [pending, locked, open_] at idle
  have bounds := settlement_bounds status
  exact ⟨by omega, bounds.2⟩

theorem safe_authorizeOperation (m : Manager) (decision : PolicyDecision) (inv : Inv h w)
    (st : .failed ∈ validTransitions op.state → Stored h entries w op ∧
      (TokenSpent m decision w → 0 < op.amount → pending entries op = false)) :
    Safe h (fun op' w' => Stored h entries w' op' ∧ op'.state = .authorized)
      (authorizeOperation m op decision) w := by
  simp only [authorizeOperation]
  split_ifs
  · exact inv
  · refine Keeps.bind (Q := fun nonce w' => w = w' ∧
      m.nonceOf (orElse decision.authorizationToken "") = .ok nonce)
      (Keeps.ofExcept (fun _ found => ⟨rfl, found⟩) fun _ _ => inv) ?_
    rintro nonce _ ⟨rfl, found⟩
    refine Keeps.perform inv fun env consumed w' _ answer => ?_
    rcases consumeNonce_cases w.consumed nonce with ⟨err, refused, other⟩ |
      ⟨err, refused, kind, spent⟩ | taken
    · simp only [respond, refused] at answer
      obtain ⟨rfl, rfl⟩ := Prod.mk.inj answer
      dsimp only
      rw [if_neg other]
      exact inv
    · simp only [respond, refused] at answer
      obtain ⟨rfl, rfl⟩ := Prod.mk.inj answer
      dsimp only
      rw [if_pos kind]
      by_cases may : OperationState.failed ∈ validTransitions op.state
      · obtain ⟨st, idle⟩ := st may
        exact Keeps.bind (safe_transitionAndSave st fun _ => failed_status st
          (idle ⟨nonce, found, spent⟩)) fun op' w' saved => saved.1.inv
      · have illegal : op.transitionTo .failed (some "Authorization token already consumed") none =
            .error _ := if_neg may
        rw [transitionAndSave, illegal]
        exact inv
    · simp only [respond, taken] at answer
      obtain ⟨rfl, rfl⟩ := Prod.mk.inj answer
      dsimp only
      by_cases fresh : op.state = .created
      · have may : OperationState.failed ∈ validTransitions op.state := by
          rw [fresh]
          decide
        obtain ⟨st, _⟩ := st may
        have st' : Stored h entries { w with consumed := w.consumed ++ [nonce] } op :=
          ⟨⟨st.ledger, st.good⟩, st.stored⟩
        refine (safe_transitionAndSave (s := .authorized) st' fun _ pos => ?_).mono
          fun op' w' saved => ⟨saved.1, saved.2.1⟩
        have status := st.status pos
        rw [fresh] at status
        obtain ⟨locks, exits⟩ := status
        exact ⟨by omega, exits⟩
      · have illegal : op.transitionTo .authorized none none = .error _ :=
          if_neg fun legal => fresh (by revert legal; cases op.state <;> decide)
        rw [transitionAndSave, illegal]
        obtain ⟨entries', held⟩ := inv
        exact ⟨entries', held.ledger, held.good⟩

theorem safe_driveOperation (m : Manager) 
    (st : Stored m.hashing entries w op) (proposal : ActionProposal) (decision : PolicyDecision) :
    Safe m.hashing (fun _ w' => Inv m.hashing w') (driveOperation m op proposal decision) w := by
  rw [driveOperation]
  refine Keeps.bind (Q := fun op' w' => ∃ entries', Stored m.hashing entries' w' op') ?_ ?_
  · rw [whenIn]
    by_cases created : op.state = .created
    · rw [if_pos created]
      refine (safe_authorizeOperation m decision st.inv fun _ => ⟨st, fun _ pos => ?_⟩).mono
        fun op' w' saved => ⟨entries, saved.1⟩
      have status := st.status pos
      rw [created] at status
      have unlocked := List.length_eq_zero_iff.mp status.1
      simp [pending, unlocked]
    · rw [if_neg created]
      exact ⟨entries, st⟩
  · rintro op' w' ⟨entries', st'⟩
    refine Keeps.bind (Q := fun op' w' => ∃ entries', Stored m.hashing entries' w' op') ?_ ?_
    · rw [whenIn]
      by_cases authorized : op'.state = .authorized
      · rw [if_pos authorized]
        exact (safe_escrowOperation (fun _ => st') st'.inv).mono
          fun _ _ saved => saved.imp fun _ => And.left
      · rw [if_neg authorized]
        exact ⟨entries', st'⟩
    · rintro op'' w'' ⟨entries'', st''⟩
      by_cases escrowed : op''.state = .escrowed
      · rw [if_pos escrowed]
        exact safe_submitOperation (fun _ => st'') st''.inv proposal decision
      · rw [if_neg escrowed]
        exact st''.inv

theorem safe_executeProposal (m : Manager) 
    (held : Holds m.hashing entries w) (proposal : ActionProposal) (decision : PolicyDecision)
    (org : Organisation) (idempotencyKey : Option String) :
    Safe m.hashing (fun _ w' => Inv m.hashing w')
      (executeProposal m proposal decision org idempotencyKey) w := by
  rw [executeProposal]
  refine Keeps.bind (safe_createOperation m held proposal decision org idempotencyKey) ?_
  intro op w' st
  split_ifs
  · refine Keeps.perform st.inv fun _ u w'' _ answer => ?_
    obtain ⟨_, rfl⟩ := Prod.mk.inj answer
    exact st.inv
  · exact st.inv
  · exact st.inv
  · exact safe_driveOperation m st proposal decision

end Specs

end ManagerSpecs
