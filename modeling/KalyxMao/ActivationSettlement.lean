import KalyxMao.ExactlyOnce

/-!
# Activation verdicts and the escrow they move

The activation reconciler moves credits before it knows whether the operation
can follow. Where its search finds nothing and escrow could pay, this is right
only for an operation whose own lock is still open and whose state leads to the
verdict. In runs that respect this, with manager calls before and after, each
operation leaves escrow once, after its lock, and a call that raises has changed
nothing.
-/

namespace ActivationSettlement
open Bookkeeping PythonText Ledger SqlLedgers LedgerEquivalence Domain EffectPrograms
open EffectPrograms.Prog Consequential KeyedLists EscrowNames EscrowInvariant
open ActivationReconciliation ManagerSpecs
open ConsequentialOperation (SameTerms transitionTo_ok transitionTo_legal)

/-- The search finds no transaction of this kind and escrow holds the amount. -/
def WouldMove (entries : List LedgerEntry) (op : ConsequentialOperation) (txId : String) : Prop :=
  0 < op.amount ∧ (∀ e ∈ entries, e.transactionId ≠ txId) ∧
    (op.amount : Int) ≤ balance (postings entries) escrow

/-- The states from which a confirmed activation can be recorded. -/
def Settleable (s : OperationState) (apiOk : Bool) : Prop :=
  s = .escrowed ∨ s = .submitted ∨ (apiOk = false ∧ (s = .unknown ∨ s = .reconciling))

def Refundable (s : OperationState) : Prop :=
  s = .created ∨ s = .authorized ∨ s = .escrowed ∨ s = .submitted

section Transitions
variable {op op' : ConsequentialOperation}

theorem leaveEscrowed_ok (h : leaveEscrowed op = .ok op') :
    SameTerms op' op ∧ (op.state = .escrowed ∧ op'.state = .submitted ∨
      op.state ≠ .escrowed ∧ op'.state = op.state) := by
  rw [leaveEscrowed] at h
  split_ifs at h with escrowed
  · obtain ⟨_, moved, same⟩ := transitionTo_ok h
    exact ⟨same, .inl ⟨escrowed, moved⟩⟩
  · obtain rfl := Except.ok.inj h
    exact ⟨.refl _, .inr ⟨escrowed, rfl⟩⟩

theorem leaveEscrowed_total (op : ConsequentialOperation) : ∃ op', leaveEscrowed op = .ok op' := by
  rw [leaveEscrowed]
  split_ifs with escrowed
  · obtain ⟨op', done, _⟩ := transitionTo_legal op
      (by rw [escrowed]; decide : OperationState.submitted ∈ validTransitions op.state) none none
    exact ⟨op', done⟩
  · exact ⟨op, rfl⟩

theorem startReconciling_ok {txRef : Option String} (h : startReconciling op txRef = .ok op') :
    SameTerms op' op ∧ op'.state = .reconciling ∧
      (op.state = .reconciling ∨ .reconciling ∈ validTransitions op.state) := by
  rw [startReconciling] at h
  split_ifs at h with other
  · obtain ⟨legal, moved, same⟩ := transitionTo_ok h
    exact ⟨same, moved, .inr legal⟩
  · obtain rfl := Except.ok.inj h
    have state := not_not.mp other
    exact ⟨.refl _, state, .inl state⟩

theorem confirmed_ok {apiOk : Bool} {txRef : Option String} (h : confirmed op apiOk txRef = .ok op') :
    SameTerms op' op ∧ (op'.state = .succeeded ∨ op'.state = .reconciled) ∧
      Settleable op.state apiOk := by
  obtain ⟨a, left, rest⟩ := bind_ok.mp h
  obtain ⟨same, before⟩ := leaveEscrowed_ok left
  cases apiOk with
  | true =>
    obtain ⟨legal, moved, same'⟩ := transitionTo_ok rest
    refine ⟨same'.trans same, .inl moved, ?_⟩
    rcases before with ⟨escrowed, _⟩ | ⟨_, unchanged⟩
    · exact .inl escrowed
    · rw [unchanged] at legal
      revert legal
      cases op.state <;> simp [Settleable, validTransitions]
  | false =>
    obtain ⟨b, started, last⟩ := bind_ok.mp rest
    obtain ⟨same', _, from_⟩ := startReconciling_ok started
    obtain ⟨_, moved, same''⟩ := transitionTo_ok last
    refine ⟨same''.trans (same'.trans same), .inr moved, ?_⟩
    rcases before with ⟨escrowed, _⟩ | ⟨_, unchanged⟩
    · exact .inl escrowed
    · rw [unchanged] at from_
      revert from_
      cases op.state <;> simp [Settleable, validTransitions]

theorem startReconciling_total {s : OperationState} (state : op.state = s)
    (may : s = .submitted ∨ s = .unknown ∨ s = .reconciling) (txRef : Option String) :
    ∃ op', startReconciling op txRef = .ok op' := by
  rw [startReconciling]
  split_ifs with other
  · have legal : OperationState.reconciling ∈ validTransitions op.state := by
      rw [state]
      rcases may with rfl | rfl | rfl
      · decide
      · decide
      · exact absurd state other
    obtain ⟨op', done, _⟩ := transitionTo_legal op legal none txRef
    exact ⟨op', done⟩
  · exact ⟨op, rfl⟩

theorem confirmed_total {apiOk : Bool} (may : Settleable op.state apiOk) (txRef : Option String) :
    ∃ op', confirmed op apiOk txRef = .ok op' := by
  obtain ⟨a, left⟩ := leaveEscrowed_total op
  obtain ⟨_, before⟩ := leaveEscrowed_ok left
  have state : a.state = .submitted ∨
      (apiOk = false ∧ (a.state = .unknown ∨ a.state = .reconciling)) := by
    rcases before with ⟨_, submitted⟩ | ⟨other, unchanged⟩
    · exact .inl submitted
    · rw [unchanged]
      rcases may with escrowed | rest
      · exact absurd escrowed other
      · exact rest
  cases apiOk with
  | true =>
    have submitted : a.state = .submitted := by simpa using state
    have legal : OperationState.succeeded ∈ validTransitions a.state := by
      rw [submitted]
      decide
    obtain ⟨op', done, _⟩ := transitionTo_legal a legal none txRef
    exact ⟨op', bind_ok.mpr ⟨a, left, done⟩⟩
  | false =>
    obtain ⟨b, started⟩ := startReconciling_total rfl (by tauto) txRef
    obtain ⟨_, reconciling, _⟩ := startReconciling_ok started
    have legal : OperationState.reconciled ∈ validTransitions b.state := by
      rw [reconciling]
      decide
    obtain ⟨op', done, _⟩ := transitionTo_legal b legal none txRef
    exact ⟨op', bind_ok.mpr ⟨a, left, bind_ok.mpr ⟨b, started, done⟩⟩⟩

theorem refused_ok {reasons : List String} (h : refused op reasons = .ok op') :
    SameTerms op' op ∧ op'.state = .failed := by
  obtain ⟨a, left, last⟩ := bind_ok.mp h
  obtain ⟨_, moved, same'⟩ := transitionTo_ok last
  exact ⟨same'.trans (leaveEscrowed_ok left).1, moved⟩

theorem refused_total (may : Refundable op.state) (reasons : List String) :
    ∃ op', refused op reasons = .ok op' := by
  obtain ⟨a, left⟩ := leaveEscrowed_total op
  obtain ⟨_, before⟩ := leaveEscrowed_ok left
  have legal : OperationState.failed ∈ validTransitions a.state := by
    rcases before with ⟨_, submitted⟩ | ⟨other, unchanged⟩
    · rw [submitted]
      decide
    · rw [unchanged]
      rcases may with s | s | s | s
      · rw [s]
        decide
      · rw [s]
        decide
      · exact absurd s other
      · rw [s]
        decide
  obtain ⟨op', done, _⟩ := transitionTo_legal a legal _ none
  exact ⟨op', bind_ok.mpr ⟨a, left, done⟩⟩

end Transitions

section OneCall
variable {h : Hashing} {entries : List LedgerEntry} {w : World} {op op' : ConsequentialOperation}

/-- A program run to its end: what it leaves on return, and nothing changed where it
raises. -/
abbrev AllOrNothing (h : Hashing) {α : Type} (Q : α → World → Prop) (p : Action α) (w₀ w : World) :
    Prop :=
  Keeps respond (Consistent h) (fun _ => True) Q (fun _ w' => w' = w₀) p w

/-- The ledger half finds nothing to do, or appends the one exit it stands for. -/
theorem moveEscrow_cases (held : Holds h entries w) {target memo txId : String}
    (route : escrow ≠ target) (named : txId ≠ "") :
    AllOrNothing h (fun moved w' => (moved = false ∧ w' = w ∧ ¬ WouldMove entries op txId) ∨
        (moved = true ∧ WouldMove entries op txId ∧ ∃ e : LedgerEntry,
          w' = { w with ledger := sqliteOf (entries ++ [e]) } ∧ e.fromAccount = escrow ∧
          e.toAccount = target ∧ e.amount = op.amount ∧ e.memo = memo ∧ e.transactionId = txId))
      (moveEscrow op target memo txId) w w := by
  rw [moveEscrow]
  by_cases pos : 0 < op.amount
  · rw [if_pos pos]
    refine Keeps.perform trivial fun _ read w' _ answer => ?_
    obtain ⟨rfl, rfl⟩ := Prod.mk.inj answer
    rw [getEntries_eq held, ofExcept_ok, ret_bind]
    by_cases found : (entries.any fun e => e.transactionId = txId) = true
    · rw [if_pos found]
      refine .inl ⟨rfl, rfl, fun would => ?_⟩
      obtain ⟨e, he, same⟩ := List.any_eq_true.mp found
      exact would.2.1 e he (of_decide_eq_true same)
    · rw [if_neg found]
      have unused : ∀ e ∈ entries, e.transactionId ≠ txId := fun e he same =>
        found (List.any_eq_true.mpr ⟨e, he, decide_eq_true same⟩)
      refine Keeps.perform trivial fun _ balance_ w' _ answer => ?_
      obtain ⟨rfl, rfl⟩ := Prod.mk.inj answer
      rw [getBalance_eq held]
      by_cases enough : (op.amount : Int) ≤ balance (postings entries) escrow
      · rw [if_neg (not_lt.mpr enough)]
        refine Keeps.perform trivial fun env moved w' fresh answer => ?_
        have newId : ∀ e ∈ entries, e.id ≠ env.draw.entryId := fun e he =>
          fresh _ (mem_rows held he)
        simp only [respond, held.ledger] at answer
        have mint : escrow ≠ systemMint := by decide
        rcases transfer_cases target memo op.amount newId mint named with
          ⟨err, _, why⟩ | ⟨e, taken, from_, to_, amount, memo_, tx⟩
        · exact absurd ⟨by omega, unused, route, enough⟩ why
        · rw [taken] at answer
          obtain ⟨rfl, rfl⟩ := Prod.mk.inj answer
          refine Keeps.perform trivial fun _ _ w' _ answer => ?_
          obtain ⟨_, rfl⟩ := Prod.mk.inj answer
          exact .inr ⟨rfl, ⟨pos, unused, enough⟩, e, rfl, from_, to_, amount, memo_, tx⟩
      · rw [if_pos (not_le.mp enough)]
        exact .inl ⟨rfl, rfl, fun would => enough would.2.2⟩
  · rw [if_neg pos]
    exact .inl ⟨rfl, rfl, fun would => pos would.1⟩

/-- An exit appended and an ended record stored: as if SUBMITTED had been saved between. -/
theorem good_settle (st : Stored h entries w op) {e : LedgerEntry} (exit : IsExit h op e)
    (waiting : pending entries op = true) (same : SameTerms op' op)
    (ended : ∀ locks, locks = 1 → Settlement op'.state locks 1) :
    Good h (entries ++ [e]) (replaceBy ConsequentialOperation.id w.operations op') := by
  have pos : 0 < op.amount := by
    have := exit.amount
    have := e.amount_pos
    omega
  simp only [pending, Bool.and_eq_true, Bool.not_eq_true', List.isEmpty_iff,
    List.isEmpty_eq_false_iff] at waiting
  obtain ⟨locked, none⟩ := waiting
  have one : (locksOf entries op.id).length = 1 := by
    have := List.length_pos_iff.mpr locked
    have := (settlement_bounds (st.status pos)).2
    omega
  let submitted := { op with state := OperationState.submitted }
  have terms : SameTerms submitted op := ⟨rfl, rfl, rfl, rfl, rfl⟩
  have first := st.good.replace st.mem terms fun _ => ⟨one, by simp [none]⟩
  have mem : submitted ∈ replaceBy ConsequentialOperation.id w.operations submitted :=
    mem_replaceBy_self st.mem rfl
  have exit' : IsExit h submitted e := ⟨exit.source, exit.target, exit.amount, exit.memo, exit.tx⟩
  obtain ⟨locks, exits⟩ := length_exit st exit
  have left : (exitsOf (entries ++ [e]) op.id).length = 1 := by
    rw [exits, none]
    rfl
  have second := first.concat mem (.inr exit') ⟨locks ▸ one, left.le⟩
  have third := second.replace mem (same.trans ⟨rfl, rfl, rfl, rfl, rfl⟩) fun _ =>
    left.symm ▸ ended _ (locks ▸ one)
  have own : submitted.id = op'.id := same.id.symm
  rwa [replaceBy_replaceBy own] at third

/-- Where nothing would move, the locks of the operation are matched by its exits. -/
theorem balanced_of_still (hex : HexDigests h) (st : Stored h entries w op) {txId : String}
    (own : OwnTx h op txId) (still : ¬ WouldMove entries op txId) (pos : 0 < op.amount) :
    (locksOf entries op.id).length = (exitsOf entries op.id).length := by
  have bounds := settlement_bounds (st.status pos)
  by_cases unused : ∀ e ∈ entries, e.transactionId ≠ txId
  · have short : ¬(op.amount : Int) ≤ balance (postings entries) escrow := fun enough =>
      still ⟨pos, unused, enough⟩
    by_contra apart
    exact short (st.good.covers st.mem (by omega) (by omega))
  · push Not at unused
    obtain ⟨e, he, rfl⟩ := unused
    have exit := st.good.exit_of_tx hex st.mem he own
    have := List.length_pos_of_mem (st.good.mem_exitsOf st.mem he exit)
    omega

/-- What the recorded state has to allow: a balanced operation, and one just settled. -/
structure Records (op op' : ConsequentialOperation) : Prop where
  same : SameTerms op' op
  balanced : ∀ n, Settlement op.state n n → Settlement op'.state n n
  settled : Settlement op'.state 1 1

theorem records_confirmed {apiOk : Bool} {txRef : Option String}
    (done : confirmed op apiOk txRef = .ok op') : Records op op' := by
  obtain ⟨same, ended, from_⟩ := confirmed_ok done
  refine ⟨same, fun n status => ?_, ?_⟩
  · have one : n = 1 := by
      rcases from_ with s | s | ⟨_, s | s⟩
      · rw [s] at status
        exact status.1
      · rw [s] at status
        exact status.1
      · rw [s] at status
        exact status.1
      · rw [s] at status
        exact status.1
    rw [one]
    rcases ended with s | s
    · rw [s]
      exact ⟨rfl, rfl⟩
    · rw [s]
      exact ⟨rfl, rfl⟩
  · rcases ended with s | s
    · rw [s]
      exact ⟨rfl, rfl⟩
    · rw [s]
      exact ⟨rfl, rfl⟩

theorem records_refused {reasons : List String} (done : refused op reasons = .ok op') :
    Records op op' := by
  obtain ⟨same, failed⟩ := refused_ok done
  refine ⟨same, fun n status => ?_, ?_⟩
  · rw [failed]
    exact ⟨rfl, (settlement_bounds status).2⟩
  · rw [failed]
    exact ⟨rfl, le_refl 1⟩

theorem record_saved {w₀ : World} (found : find w.operations op'.id = some op)
    (keys : (w.operations.map (·.idempotencyKey)).Nodup) (same : SameTerms op' op)
    (good : Inv h { w with operations := replaceBy ConsequentialOperation.id w.operations op' }) :
    AllOrNothing h (fun _ w' => Inv h w') (saveIf true op') w₀ w := by
  rw [saveIf, if_pos rfl]
  refine Keeps.perform trivial fun _ saved w' _ done => ?_
  simp only [respond, saveOperation_keyed found keys same.idempotencyKey] at done
  obtain ⟨rfl, rfl⟩ := Prod.mk.inj done
  exact good

/-- The shape both verdicts share: escrow first, then the record. -/
theorem moveThenRecord (hex : HexDigests h) (st : Stored h entries w op) {target memo txId : String}
    (route : target = externalSink ∨ target = treasury) (named : NamedFor op.id memo)
    (own : OwnTx h op txId) {next : Except PyError ConsequentialOperation}
    (records : ∀ op', next = .ok op' → Records op op')
    (fits : WouldMove entries op txId → pending entries op = true ∧ ∃ op', next = .ok op')
    {α : Type} (answer : Bool → ConsequentialOperation → α) :
    AllOrNothing h (fun _ w' => Inv h w') (do
      let moved ← moveEscrow op target memo txId
      let op' ← ofExcept next
      saveIf true op'
      return answer moved op') w w := by
  have apart : escrow ≠ target := by
    rcases route with rfl | rfl
    · decide
    · decide
  have filled := exitTx_ne_empty (h := h) (a := op) (.inr own)
  refine Keeps.bind (moveEscrow_cases st.toHolds apart filled) ?_
  rintro moved w' (⟨rfl, rfl, still⟩ | ⟨rfl, would, e, rfl, source, goal, amount, text, tx⟩)
  · refine Keeps.bind (Q := fun op' w'' => w'' = w' ∧ next = .ok op')
      (Keeps.ofExcept (fun op' ok => ⟨rfl, ok⟩) fun _ _ => rfl) ?_
    rintro op' w ⟨rfl, ok⟩
    obtain ⟨same, balanced, _⟩ := records op' ok
    have found : find w.operations op'.id = some op := same.id ▸ st.stored
    refine Keeps.bind (record_saved found st.good.keys same ?_) fun _ _ inv => inv
    refine ⟨entries, st.ledger, st.good.replace st.mem same fun pos => ?_⟩
    have level := balanced_of_still hex st own still pos
    have status := st.status pos
    rw [← level] at status ⊢
    exact balanced _ status
  · obtain ⟨waiting, op', ok⟩ := fits would
    obtain ⟨same, _, settled⟩ := records op' ok
    have exit : IsExit h op e :=
      ⟨source, goal.symm ▸ route, amount, text.symm ▸ named, tx.symm ▸ .inr own⟩
    have found : find w.operations op'.id = some op := same.id ▸ st.stored
    rw [ok, ofExcept_ok, ret_bind]
    refine Keeps.bind (record_saved found st.good.keys same ?_) fun _ _ inv => inv
    exact ⟨_, rfl, good_settle st exit waiting same fun locks one => one ▸ settled⟩

end OneCall

section Runs
variable {m : Manager} {w : World}

/-- The call reaches a verdict it acts on. -/
def Acts (c : ActivationCall) (report : ActivationVerificationReport) : Prop :=
  c.onChain = some (.ok report) ∧ c.operation.state ≠ .succeeded ∧ c.operation.state ≠ .reconciled

/-- The operation object is the stored one where the call would write it, and where
the call would move credits the operation's own lock is open and its state leads to
the verdict. -/
structure Fits (h : Hashing) (w : World) (c : ActivationCall) : Prop where
  stored : ∀ report, Acts c report → report.result ≠ .pending →
    c.withRepo = true ∧ find w.operations c.operation.id = some c.operation
  settles : ∀ report api entries, Acts c report → report.result = .verified → c.api = .ok api →
    w.ledger.getEntries none = .ok entries →
    WouldMove entries c.operation (activationTx h c.operation) →
    pending entries c.operation = true ∧ Settleable c.operation.state api.isConfirmed
  refunds : ∀ report entries, Acts c report → report.result = .rejected →
    w.ledger.getEntries none = .ok entries →
    WouldMove entries c.operation (activationRefundTx h c.operation) →
    pending entries c.operation = true ∧ Refundable c.operation.state

theorem concludeActivation_keeps {h : Hashing} (hex : HexDigests h) (inv : Inv h w)
    {c : ActivationCall} (fits : Fits h w c) {report : ActivationVerificationReport}
    (acts : Acts c report) :
    AllOrNothing h (fun _ w' => Inv h w') (concludeActivation h c (some report)) w w := by
  obtain ⟨entries, held⟩ := inv
  rw [concludeActivation]
  by_cases rejected : report.result = .rejected
  · obtain ⟨repo, stored⟩ := fits.stored report acts (by rw [rejected]; decide)
    rw [if_pos rejected, finalizeRejection, repo]
    refine moveThenRecord hex ⟨held, stored⟩ (.inr rfl) (activationRefundMemo_named _)
      activationRefundTx_own (fun _ done => records_refused done) (fun would => ?_) _
    obtain ⟨waiting, may⟩ := fits.refunds report entries acts rejected (getEntries_eq held) would
    exact ⟨waiting, refused_total may report.reasons⟩
  · rw [if_neg rejected]
    refine Keeps.bind (Q := fun api w' => w' = w ∧ c.api = .ok api)
      (Keeps.ofExcept (fun api ok => ⟨rfl, ok⟩) fun _ _ => rfl) ?_
    rintro api w ⟨rfl, ok⟩
    split_ifs with verified
    · obtain ⟨repo, stored⟩ := fits.stored report acts (by rw [verified]; decide)
      rw [finalizeActivation, repo]
      refine moveThenRecord hex ⟨held, stored⟩ (.inl rfl) (activationMemo_named _)
        activationTx_own (fun _ done => records_confirmed done) (fun would => ?_) _
      obtain ⟨waiting, may⟩ := fits.settles report api entries acts verified ok (getEntries_eq held)
        would
      exact ⟨waiting, confirmed_total may report.txHash⟩
    · exact ⟨entries, held⟩

theorem reconcileActivation_keeps {h : Hashing} (hex : HexDigests h) (inv : Inv h w)
    {c : ActivationCall} (fits : Fits h w c) :
    AllOrNothing h (fun _ w' => Inv h w') (reconcileActivation h c) w w := by
  rw [reconcileActivation]
  split_ifs with foreign kind ended
  · rfl
  · rfl
  · exact inv
  · rw [not_or] at ended
    cases checked : c.onChain with
    | none =>
      refine Keeps.bind (Q := fun _ w' => w' = w) (Keeps.ofExcept (fun _ _ => rfl)
        fun _ _ => rfl) ?_
      rintro api _ rfl
      exact inv
    | some verdict =>
      refine Keeps.bind (Q := fun report w' => w' = w ∧ verdict = .ok report)
        (Keeps.ofExcept (fun _ ok => ⟨rfl, ok⟩) fun _ _ => rfl) ?_
      rintro report w ⟨rfl, rfl⟩
      exact concludeActivation_keeps hex inv fits ⟨checked, ended.1, ended.2⟩

/-- A run mixes manager and reconciliation-service calls, cut anywhere, with
activation reconciliations that come to their end. -/
inductive Step where
  | call (c : ExactlyOnce.Call) (inputs : List Env)
  | activation (c : ActivationCall) (inputs : List Env)

def activate (m : Manager) (c : ActivationCall) (inputs : List Env) (w : World) :
    Prog Cmd Resp PyError ActivationReconciliationOutcome × World :=
  advance respond inputs (reconcileActivation m.hashing c) w

def Step.after (m : Manager) (w : World) : Step → World
  | .call c inputs => (advance respond inputs (c.program m) w).2
  | .activation c inputs => (activate m c inputs w).2

/-- A fitting activation call with consistent inputs, enough of them to end it. -/
def Completes (m : Manager) (w : World) (c : ActivationCall) (inputs : List Env) : Prop :=
  Fits m.hashing w c ∧
    Legal respond (Consistent m.hashing) inputs (reconcileActivation m.hashing c) w ∧
    (activate m c inputs w).1.Ended

def Step.Fits (m : Manager) (w : World) : Step → Prop
  | .call c inputs => c.Fits m w ∧ Legal respond (Consistent m.hashing) inputs (c.program m) w
  | .activation c inputs => Completes m w c inputs

def run (m : Manager) : List Step → World → World
  | [], w => w
  | s :: rest, w => run m rest (s.after m w)

def RunFits (m : Manager) : List Step → World → Prop
  | [], _ => True
  | s :: rest, w => s.Fits m w ∧ RunFits m rest (s.after m w)

/-- An activation call that comes to its end keeps the invariant, and has changed
nothing if it raises. -/
theorem activate_keeps (hex : HexDigests m.hashing) (inv : Inv m.hashing w) {c : ActivationCall}
    {inputs : List Env} (completes : Completes m w c inputs) :
    Inv m.hashing (activate m c inputs w).2 ∧
      ∀ e, (activate m c inputs w).1 = .raise e → (activate m c inputs w).2 = w := by
  obtain ⟨fits, legal, ended⟩ := completes
  have outcome := (reconcileActivation_keeps hex inv fits).outcome inputs legal
  have same : advance respond inputs (reconcileActivation m.hashing c) w =
      ((activate m c inputs w).1, (activate m c inputs w).2) := rfl
  rw [same] at outcome
  cases answer : (activate m c inputs w).1 with
  | ret a =>
    rw [answer] at outcome
    refine ⟨outcome, ?_⟩
    rintro e ⟨⟩
  | raise e =>
    rw [answer] at outcome
    exact ⟨outcome.symm ▸ inv, fun _ _ => outcome⟩
  | call cmd next =>
    rw [answer] at ended
    exact ended.elim

theorem step_keeps (hex : HexDigests m.hashing) (inv : Inv m.hashing w) (s : Step)
    (fits : s.Fits m w) : Inv m.hashing (s.after m w) := by
  cases s with
  | call c inputs =>
    obtain ⟨fit, legal⟩ := fits
    exact (ExactlyOnce.call_keeps hex inv c fit).advance (fun _ _ inv => inv) (fun _ _ inv => inv)
      inputs legal
  | activation c inputs => exact (activate_keeps hex inv fits).1

theorem run_keeps (hex : HexDigests m.hashing) (steps : List Step) (inv : Inv m.hashing w)
    (fits : RunFits m steps w) : Inv m.hashing (run m steps w) := by
  induction steps generalizing w with
  | nil => exact inv
  | cons s rest ih => exact ih (step_keeps hex inv s fits.1) fits.2

/-- Each operation leaves escrow at most once, and only after its own lock. -/
def LeavesOnce (w : World) : Prop :=
  ∃ entries, w.ledger.getEntries none = .ok entries ∧ ∀ o ∈ w.operations,
    (exitsOf entries o.id).length ≤ 1 ∧ (exitsOf entries o.id ≠ [] → locksOf entries o.id ≠ [])

theorem leavesOnce_of_inv {h : Hashing} (inv : Inv h w) : LeavesOnce w := by
  obtain ⟨entries, held⟩ := inv
  refine ⟨entries, getEntries_eq held, fun o mem => ⟨held.good.exactlyOnce.atMostOnce o mem, ?_⟩⟩
  intro left none
  obtain ⟨e, he⟩ := List.exists_mem_of_ne_nil _ left
  have pos : 0 < o.amount := by
    have := (held.good.exit_of_mem mem he).amount
    have := e.amount_pos
    omega
  have bounds := settlement_bounds (held.good.status o mem pos)
  have := List.length_pos_of_mem he
  rw [none] at bounds
  simp at bounds
  exact left bounds

theorem activations_leave_once (hex : HexDigests m.hashing) (opening : ExactlyOnce.Opening w)
    (steps : List Step) (fits : RunFits m steps w) :
    LeavesOnce (run m steps w) ∧
    ∀ c inputs e, Completes m (run m steps w) c inputs →
      (activate m c inputs (run m steps w)).1 = .raise e →
      ∀ account, (activate m c inputs (run m steps w)).2.ledger.getBalance account =
        (run m steps w).ledger.getBalance account := by
  have inv := run_keeps hex steps (ExactlyOnce.inv_opening opening) fits
  refine ⟨leavesOnce_of_inv inv, ?_⟩
  intro c inputs e completes raised account
  rw [(activate_keeps hex inv completes).2 e raised]

end Runs

section Scenario
open ExactlyOnce (Call manager env firstUuid decision funded funded_opening manager_hexDigests)

def activator : Organisation :=
  ⟨"org-1", "tenant-1", [("agent-1", ⟨"agent-1", .active, [.orbioCreditActivation], 1000⟩)]⟩

def activationProposal : ActionProposal :=
  ⟨"p1", "task-1", "agent-1", .orbioCreditActivation, "credit", [], 50⟩

/-- The manager's part of an activation, up to a number of its commands, with the
outcome the provider reports. -/
def managed (commands : Nat) (outcome : String) : Step :=
  .call (.execute activationProposal (decision "tok-1") activator none)
    (List.replicate 8 (env firstUuid "l1" "SUCCESS") ++ List.replicate (commands - 8)
      { env firstUuid "x1" "SUCCESS" with
        execution := .ok ⟨"chain", "", outcome, none, [], none, none⟩ })

def storedAfter (steps : List Step) : Option ConsequentialOperation :=
  find (run manager steps funded).operations "cop-111111111111"

def checked (op : ConsequentialOperation) (result : ActivationVerificationResult) :
    ActivationCall where
  operation := op
  org := activator
  onChain := some (.ok ⟨result, [], some "0xabc"⟩)
  api := .ok ⟨true, none⟩
  withRepo := true

theorem escrowed_stored : (storedAfter [managed 10 "SUCCESS"]).isSome = true := by decide +kernel

def escrowedOp : ConsequentialOperation := (storedAfter [managed 10 "SUCCESS"]).get escrowed_stored

theorem escrowedOp_facts : escrowedOp.id = "cop-111111111111" ∧ escrowedOp.state = .escrowed ∧
    (match (run manager [managed 10 "SUCCESS"] funded).ledger.getEntries none with
      | .ok entries => pending entries escrowedOp
      | .error _ => false) = true := by
  decide +kernel

theorem verified_fits :
    Fits manager.hashing (run manager [managed 10 "SUCCESS"] funded) (checked escrowedOp .verified) where
  stored := by
    intro report _ _
    refine ⟨rfl, ?_⟩
    show find _ escrowedOp.id = some escrowedOp
    rw [escrowedOp_facts.1]
    exact (Option.some_get escrowed_stored).symm
  settles := by
    intro report api entries _ _ _ read _
    have waiting := escrowedOp_facts.2.2
    rw [read] at waiting
    exact ⟨waiting, .inl escrowedOp_facts.2.1⟩
  refunds := by
    rintro report entries ⟨checked_, _⟩ rejected
    obtain rfl := Except.ok.inj (Option.some.inj checked_)
    cases rejected

def confirmedRun : List Step :=
  [managed 10 "SUCCESS",
    .activation (checked escrowedOp .verified) (List.replicate 6 (env firstUuid "x1" "SUCCESS"))]

/-- An escrowed activation whose receipt is confirmed. -/
theorem confirmed_run_leaves_once :
    LeavesOnce (run manager confirmedRun funded) ∧
    ∀ c inputs e, Completes manager (run manager confirmedRun funded) c inputs →
      (activate manager c inputs (run manager confirmedRun funded)).1 = .raise e →
      ∀ account, (activate manager c inputs (run manager confirmedRun funded)).2.ledger.getBalance
        account = (run manager confirmedRun funded).ledger.getBalance account :=
  activations_leave_once manager_hexDigests funded_opening confirmedRun
    ⟨⟨trivial, by decide +kernel⟩, ⟨verified_fits, by decide +kernel, by decide +kernel⟩, trivial⟩

theorem unknown_stored : (storedAfter [managed 13 "TIMEOUT"]).isSome = true := by decide +kernel

def unknownOp : ConsequentialOperation := (storedAfter [managed 13 "TIMEOUT"]).get unknown_stored

/-- A reverted receipt for an UNKNOWN operation refunds it and raises. -/
theorem reverted_unknown_moves_and_raises :
    (activate manager (checked unknownOp .rejected) (List.replicate 6 (env firstUuid "x2" "SUCCESS"))
      (run manager [managed 13 "TIMEOUT"] funded)).1.raised.isSome = true ∧
    (activate manager (checked unknownOp .rejected) (List.replicate 6 (env firstUuid "x2" "SUCCESS"))
      (run manager [managed 13 "TIMEOUT"] funded)).2.ledger.getBalance escrow ≠
      (run manager [managed 13 "TIMEOUT"] funded).ledger.getBalance escrow := by
  decide +kernel

end Scenario

end ActivationSettlement
