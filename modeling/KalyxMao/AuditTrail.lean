import KalyxMao.LedgerAudit

/-!
# What the manager and the reconciler leave for the audit

Beside the escrow invariant, each method keeps the ledger accounted for: exits go
the way the provider answers, a final state is saved after its exit, and a token
digest is submitted for one operation. The answers about an operation have to agree,
and a spent token must not end one that has credits at stake.
-/

namespace AuditTrail
open Bookkeeping PythonText Ledger SqlLedgers LedgerEquivalence Domain EffectPrograms
open EffectPrograms.Prog Consequential KeyedLists EscrowNames EscrowInvariant Reconciliation
open ManagerSpecs LedgerAudit LedgerAudit.Accounted
open ConsequentialOperation (transitionTo_ok)

/-- A definite answer is the one that was given before, or will be. -/
def Reports (o : Outcome) (said : String) : Prop :=
  (said = outcomeSuccess → o = .performed) ∧ (said = outcomeFailure → o = .refused)

instance (o : Outcome) (said : String) : Decidable (Reports o said) :=
  inferInstanceAs (Decidable (_ ∧ _))

/-- What is asked of the outside: new identifiers, and definite answers on operations with
credits at stake that agree with their outcome. -/
def Agreeing (h : Hashing) (outcome : String → Outcome) : Cmd → World → Env → Prop
  | .uuid4, w, env => ∀ o ∈ w.operations, h.short o.id ≠ h.short (operationId env.uuid)
  | .transfer _ _ _ _ _, w, env => ∀ r ∈ w.ledger.rows, r.id ≠ env.draw.entryId
  | .execute op, _, env => ∀ result ∈ env.execution.toOption, 0 < op.amount →
      Reports (outcome op.id) result.outcome
  | .status opId _ _, w, env => ∀ s ∈ env.status.toOption, ∀ o ∈ find w.operations opId,
      0 < o.amount → Reports (outcome opId) s.outcome
  | _, _, _ => True

instance (h : Hashing) (outcome : String → Outcome) :
    ∀ (c : Cmd) (w : World) (env : Env), Decidable (Agreeing h outcome c w env)
  | .uuid4, w, _ => inferInstanceAs (Decidable (∀ o ∈ w.operations, _ ≠ _))
  | .transfer _ _ _ _ _, w, _ => inferInstanceAs (Decidable (∀ r ∈ w.ledger.rows, _ ≠ _))
  | .execute _, _, env => inferInstanceAs (Decidable (∀ result ∈ env.execution.toOption, _ → _))
  | .status _ _ _, _, env => inferInstanceAs (Decidable (∀ s ∈ env.status.toOption, _))
  | .getByIdempotencyKey _, _, _ => isTrue trivial
  | .get _, _, _ => isTrue trivial
  | .save _, _, _ => isTrue trivial
  | .consume _, _, _ => isTrue trivial
  | .verifyToken _ _ _ _, _, _ => isTrue trivial
  | .getEntries, _, _ => isTrue trivial
  | .getBalance _, _, _ => isTrue trivial

section Trails
variable (h : Hashing) (tokens : String → Option String) (outcome : String → Outcome)

/-- The world's ledger holds these entries, and they account for its operations. -/
structure Trail (entries : List LedgerEntry) (w : World) : Prop where
  ledger : w.ledger = sqliteOf entries
  accounted : Accounted h tokens outcome entries w.operations

def Trailing (w : World) : Prop := ∃ entries, Trail h tokens outcome entries w

structure Known (entries : List LedgerEntry) (w : World) (op : ConsequentialOperation) : Prop
    extends Trail h tokens outcome entries w where
  found : find w.operations op.id = some op

/-- Programs that keep the ledger accounted for, wherever the escrow invariant holds. -/
abbrev Tracks {α : Type} (Q : α → World → Prop) (p : Action α) (w : World) : Prop :=
  Keeps respond (fun c w env => Agreeing h outcome c w env ∧ Inv h w) (Trailing h tokens outcome) Q
    (fun _ w => Trailing h tokens outcome w) p w

end Trails

/-- Only the operation of this id may have changed. -/
def Frame (w w' : World) (operationId : String) : Prop :=
  ∀ o ∈ w'.operations, o.id ≠ operationId → o ∈ w.operations

theorem Frame.trans {w w' w'' : World} {id : String} (first : Frame w w' id) (second : Frame w' w'' id) :
    Frame w w'' id :=
  fun o ho other => first o (second o ho other) other

theorem frame_same {w w' : World} (same : w'.operations = w.operations) (id : String) : Frame w w' id :=
  fun _ ho _ => same ▸ ho

theorem Frame.alone {h : Hashing} {tokens : String → Option String} {w w' : World} {id d : String}
    (frame : Frame w w' id) (alone : Alone h tokens w.operations id d) :
    Alone h tokens w'.operations id d :=
  fun o ho other => alone o (frame o ho other) other

theorem transitionTo_record {op op' : ConsequentialOperation} {s : OperationState}
    {errorMessage providerReference : Option String}
    (done : op.transitionTo s errorMessage providerReference = .ok op') :
    s ∈ validTransitions op.state ∧ op'.state = s ∧ SameRecord op' op := by
  obtain ⟨legal, moved, same⟩ := transitionTo_ok done
  refine ⟨legal, moved, same.id, same.idempotencyKey, ?_, same.amount⟩
  unfold ConsequentialOperation.transitionTo at done
  rw [if_pos legal] at done
  rw [← Except.ok.inj done]

section Blocks
variable {h : Hashing} {tokens : String → Option String} {outcome : String → Outcome}
  {entries : List LedgerEntry} {w : World} {op : ConsequentialOperation}

theorem Known.mem (known : Known h tokens outcome entries w op) : op ∈ w.operations :=
  (lookupBy_some known.found).1

theorem Known.trailing (known : Known h tokens outcome entries w op) : Trailing h tokens outcome w :=
  ⟨entries, known.toTrail⟩

theorem Trail.getEntries (trail : Trail h tokens outcome entries w) :
    w.ledger.getEntries none = .ok entries := by
  rw [trail.ledger]
  exact readEntries_entryRows defaultTenant entries

/-- A record written over the stored one it came from. -/
theorem tracks_save {op' : ConsequentialOperation} (known : Known h tokens outcome entries w op)
    (same : SameRecord op' op)
    (closes : 0 < op.amount → Closes h tokens outcome entries op op'.state)
    (alone : 0 < op.amount → IsSubmitted op'.state → IsSubmitted op.state ∨
      Alone h tokens w.operations op.id (digest h tokens op)) :
    Tracks h tokens outcome (fun _ w' => Known h tokens outcome entries w' op' ∧ Frame w w' op.id)
      (save op') w := by
  refine ⟨known.trailing, fun env allowed => ?_⟩
  obtain ⟨_, _, held⟩ := allowed
  have found : find w.operations op'.id = some op := same.id ▸ known.found
  rcases saveOperation_update found with taken | done
  · simp only [respond, taken]
    exact known.trailing
  · simp only [respond, done]
    refine ⟨⟨⟨known.ledger, known.accounted.replace held.good.ids known.mem same closes alone⟩,
      lookupBy_replaceBy_self held.good.ids known.mem same.id.symm⟩, fun o ho other => ?_⟩
    rcases mem_replaceBy ho with rfl | ⟨old, -⟩
    · exact absurd same.id other
    · exact old

theorem tracks_transitionAndSave (known : Known h tokens outcome entries w op) {s : OperationState}
    {errorMessage providerReference : Option String}
    (closes : s ∈ validTransitions op.state → 0 < op.amount → Closes h tokens outcome entries op s)
    (alone : s ∈ validTransitions op.state → 0 < op.amount → IsSubmitted s →
      IsSubmitted op.state ∨ Alone h tokens w.operations op.id (digest h tokens op)) :
    Tracks h tokens outcome (fun op' w' => Known h tokens outcome entries w' op' ∧ op'.state = s ∧
      SameRecord op' op ∧ Frame w w' op.id)
      (transitionAndSave op s errorMessage providerReference) w := by
  refine Keeps.bind (Keeps.ofExcept (Q := fun op' w' => w' = w ∧ s ∈ validTransitions op.state ∧
    op'.state = s ∧ SameRecord op' op) (fun op' ok => ⟨rfl, transitionTo_record ok⟩)
    (fun _ _ => known.trailing)) ?_
  rintro op' _ ⟨rfl, legal, moved, same⟩
  refine Keeps.bind (tracks_save known same (moved.symm ▸ closes legal) (moved.symm ▸ alone legal)) ?_
  rintro _ w' ⟨saved, frame⟩
  exact ⟨saved, moved, same, frame⟩

/-- Writing a state and then ending, by return or exception. -/
theorem tracks_finish {α : Type} (known : Known h tokens outcome entries w op) {s : OperationState}
    {errorMessage providerReference : Option String}
    (closes : s ∈ validTransitions op.state → 0 < op.amount → Closes h tokens outcome entries op s)
    (submitted : IsSubmitted op.state) {rest : ConsequentialOperation → Action α}
    (ends : ∀ op' w', Trailing h tokens outcome w' →
      Tracks h tokens outcome (fun _ w => Trailing h tokens outcome w) (rest op') w') :
    Tracks h tokens outcome (fun _ w => Trailing h tokens outcome w)
      (transitionAndSave op s errorMessage providerReference >>= rest) w :=
  Keeps.bind (tracks_transitionAndSave known closes fun _ _ _ => .inl submitted)
    fun op' w' saved => ends op' w' saved.1.trailing

/-- A transfer that leaves escrow, if it does, as a stored operation's exit. -/
theorem tracks_transfer (trail : Trail h tokens outcome entries w) {source target memo txId : String}
    {amount : Nat} (notMint : source ≠ systemMint) (named : txId ≠ "")
    (exit : ∀ e : LedgerEntry, e.fromAccount = source → e.toAccount = target → e.memo = memo →
      e.transactionId = txId → source = escrow → ∃ o ∈ w.operations, Leaves h tokens outcome o e) :
    Tracks h tokens outcome (fun (answer : Except PyError LedgerEntry) w' =>
      w'.operations = w.operations ∧ match answer with
        | .ok e => Trail h tokens outcome (entries ++ [e]) w' ∧ e.fromAccount = source ∧
            e.memo = memo ∧ e.transactionId = txId
        | .error _ => Trail h tokens outcome entries w')
      (ask (.transfer source target amount memo txId)) w := by
  refine ⟨⟨entries, trail⟩, fun env allowed => ?_⟩
  have unused : ∀ e ∈ entries, e.id ≠ env.draw.entryId := fun e he =>
    allowed.1 (entryRow defaultTenant e) (by rw [trail.ledger]; exact List.mem_map_of_mem he)
  simp only [respond, trail.ledger]
  rcases transfer_cases target memo amount unused notMint named with
    ⟨err, refused, -⟩ | ⟨e, taken, from_, to_, -, memo_, tx⟩
  · rw [refused]
    exact ⟨rfl, rfl, trail.accounted⟩
  · rw [taken]
    refine ⟨rfl, ⟨rfl, trail.accounted.concat fun source => ?_⟩, from_, memo_, tx⟩
    exact exit e from_ to_ memo_ tx (from_.symm.trans source)

theorem Known.of_operations (known : Known h tokens outcome entries w op) {entries' : List LedgerEntry}
    {w' : World} (trail : Trail h tokens outcome entries' w') (same : w'.operations = w.operations) :
    Known h tokens outcome entries' w' op :=
  ⟨trail, same ▸ known.found⟩

/-- Paying out the way the provider answered makes the direct exit. -/
theorem tracks_payOut (known : Known h tokens outcome entries w op) {target memo txId : String}
    (way : 0 < op.amount → target = (outcome op.id).target) (named : NamedFor op.id memo)
    (tx : 0 < op.amount → txId = directTx h tokens outcome op) :
    Tracks h tokens outcome (fun _ w' => ∃ entries', Known h tokens outcome entries' w' op ∧
      (0 < op.amount → DirectExit h tokens outcome entries' op)) (payOut op target memo txId) w := by
  rw [payOut]
  by_cases pos : 0 < op.amount
  · rw [if_pos pos]
    have filled : txId ≠ "" := tx pos ▸ exitTx_ne_empty directTx_exit
    refine Keeps.bind (tracks_transfer known.toTrail (by decide) filled ?_) ?_
    · intro e source goal text id _
      exact ⟨op, known.mem, source, goal.trans (way pos), text.symm ▸ named, .inl (id.trans (tx pos))⟩
    · rintro (_ | e) w' ⟨same, answer⟩
      · exact ⟨entries, answer⟩
      · obtain ⟨trail, source, text, id⟩ := answer
        refine Keeps.perform ⟨_, trail⟩ fun _ _ w'' _ answer => ?_
        obtain ⟨_, rfl⟩ := Prod.mk.inj answer
        exact ⟨_, known.of_operations trail same, fun _ =>
          ⟨e, List.mem_append_right _ List.mem_cons_self, source, text.symm ▸ named,
            id.trans (tx pos)⟩⟩
  · rw [if_neg pos]
    exact ⟨entries, known, fun positive => absurd positive pos⟩

/-- A verdict in the direction of the outcome makes the recovered exit, or none. -/
theorem tracks_moveOnce (known : Known h tokens outcome entries w op)
    (already : List LedgerEntry → Bool) {target memo txId : String}
    (way : 0 < op.amount → target = (outcome op.id).target) (named : NamedFor op.id memo)
    (tx : 0 < op.amount → txId = recoveredTx h outcome op) :
    Tracks h tokens outcome (fun _ w' => ∃ entries', Known h tokens outcome entries' w' op)
      (moveOnce op already target memo txId) w := by
  rw [moveOnce]
  by_cases pos : 0 < op.amount
  · rw [if_pos pos]
    refine Keeps.perform known.trailing fun _ read w' _ answer => ?_
    obtain ⟨rfl, rfl⟩ := Prod.mk.inj answer
    rw [known.getEntries, ofExcept_ok, ret_bind]
    split_ifs
    · exact ⟨entries, known⟩
    · refine Keeps.perform known.trailing fun _ held w' _ answer => ?_
      obtain ⟨rfl, rfl⟩ := Prod.mk.inj answer
      split_ifs
      · exact ⟨entries, known⟩
      · have filled : txId ≠ "" := tx pos ▸ exitTx_ne_empty (.inr recoveredTx_own)
        refine Keeps.bind (tracks_transfer known.toTrail (by decide) filled ?_) ?_
        · intro e source goal text id _
          exact ⟨op, known.mem, source, goal.trans (way pos), text.symm ▸ named,
            .inr (id.trans (tx pos))⟩
        · rintro (_ | e) w' ⟨same, answer⟩
          · dsimp only
            split_ifs
            · exact ⟨entries, known.of_operations answer same⟩
            · exact ⟨entries, answer⟩
          · refine Keeps.perform ⟨_, answer.1⟩ fun _ _ w'' _ answered => ?_
            obtain ⟨_, rfl⟩ := Prod.mk.inj answered
            exact ⟨_, known.of_operations answer.1 same⟩
  · rw [if_neg pos]
    exact ⟨entries, known⟩

theorem tracks_lockEscrow (known : Known h tokens outcome entries w op) :
    Tracks h tokens outcome (fun _ w' => ∃ entries', Known h tokens outcome entries' w' op ∧
      w'.operations = w.operations) (lockEscrow h op) w := by
  refine Keeps.perform known.trailing fun _ read w' _ answer => ?_
  obtain ⟨rfl, rfl⟩ := Prod.mk.inj answer
  rw [known.getEntries, ofExcept_ok, ret_bind]
  cases entries.find? (fun e => e.transactionId = lockTx h op) with
  | some e =>
    dsimp only
    split
    · exact known.trailing
    · exact ⟨entries, known, rfl⟩
  | none =>
    refine Keeps.bind (tracks_transfer known.toTrail (by decide) lockTx_ne_empty ?_) ?_
    · intro e source _ _ _ other
      exact absurd other (by decide)
    · rintro (_ | e) w' ⟨same, answer⟩
      · exact ⟨entries, answer⟩
      · exact ⟨_, known.of_operations answer.1 same, same⟩

end Blocks

section Manager
variable {h : Hashing} {tokens : String → Option String} {outcome : String → Outcome}
  {entries : List LedgerEntry} {w : World} {op : ConsequentialOperation}

theorem tracks_escrowOperation
    (known : op.state = .authorized → Known h tokens outcome entries w op)
    (trailing : Trailing h tokens outcome w) :
    Tracks h tokens outcome (fun op' w' => ∃ entries', Known h tokens outcome entries' w' op' ∧
      op'.state = .escrowed ∧ SameRecord op' op ∧ Frame w w' op.id) (escrowOperation h op) w := by
  have saved {entries' : List LedgerEntry} {w' : World} (known' : Known h tokens outcome entries' w' op)
      (frame : Frame w w' op.id) : Tracks h tokens outcome (fun op' w'' => ∃ entries'',
        Known h tokens outcome entries'' w'' op' ∧ op'.state = .escrowed ∧ SameRecord op' op ∧
          Frame w w'' op.id) (transitionAndSave op .escrowed none none) w' :=
    (tracks_transitionAndSave (s := .escrowed) known' (fun _ _ => trivial)
      (fun _ _ submitted => absurd rfl submitted.2.2)).mono
        fun op' w'' ⟨known'', state, same, frame'⟩ => ⟨_, known'', state, same, frame.trans frame'⟩
  rw [escrowOperation]
  by_cases authorized : op.state = .authorized
  · have known := known authorized
    rw [if_neg (not_not.mpr authorized)]
    split_ifs
    · refine Keeps.bind (tracks_lockEscrow known) ?_
      rintro _ w' ⟨entries', known', same⟩
      refine Keeps.perform known'.trailing fun _ _ w'' _ answer => ?_
      obtain ⟨_, rfl⟩ := Prod.mk.inj answer
      exact saved known' (frame_same same op.id)
    · exact saved known (frame_same rfl op.id)
  · rw [if_pos authorized]
    exact trailing

/-- The provider's answer decides the exit and the state that is saved after it. -/
theorem tracks_concludeSubmission (known : Known h tokens outcome entries w op)
    (submitted : op.state = .submitted) (proposal : ActionProposal) {decision : PolicyDecision}
    (token : decision.authorizationToken = tokens op.decisionId) {result : ProviderExecutionResult}
    (reports : 0 < op.amount → Reports (outcome op.id) result.outcome) :
    Tracks h tokens outcome (fun _ w' => Trailing h tokens outcome w')
      (concludeSubmission h op proposal decision result) w := by
  have called : IsSubmitted op.state := by
    rw [submitted]
    decide
  have hash : h.short (orElse decision.authorizationToken op.id) = digest h tokens op := by
    rw [token, digest]
  rw [concludeSubmission, hash]
  split_ifs with success failure
  · have performed (pos : 0 < op.amount) : outcome op.id = .performed := (reports pos).1 success
    refine Keeps.bind (tracks_payOut known (fun pos => by rw [performed pos]; rfl)
      (commitMemo_named op.id) fun pos => by rw [directTx, performed pos]; rfl) ?_
    rintro _ w' ⟨entries', known', direct⟩
    refine tracks_finish (s := .succeeded) known' (fun _ pos => ⟨performed pos, direct pos⟩) called
      fun op' w'' trailing => ?_
    refine Keeps.perform trailing fun _ _ last _ answer => ?_
    obtain ⟨_, rfl⟩ := Prod.mk.inj answer
    exact trailing
  · have refused (pos : 0 < op.amount) : outcome op.id = .refused := (reports pos).2 failure
    refine Keeps.bind (tracks_payOut known (fun pos => by rw [refused pos]; rfl)
      (rollbackMemo_named op.id) fun pos => by rw [directTx, refused pos]; rfl) ?_
    rintro _ w' ⟨entries', known', direct⟩
    exact tracks_finish (s := .failed) known' (fun _ pos => ⟨refused pos, direct pos⟩) called
      fun op' w'' trailing => trailing
  · exact tracks_finish (s := .unknown) known (fun _ _ => trivial) called fun op' w' trailing => trailing

theorem tracks_submitOperation (trailing : Trailing h tokens outcome w) (proposal : ActionProposal)
    {decision : PolicyDecision} (given : op.state = .escrowed → Known h tokens outcome entries w op ∧
      decision.authorizationToken = tokens op.decisionId ∧
      (0 < op.amount → Alone h tokens w.operations op.id (digest h tokens op))) :
    Tracks h tokens outcome (fun _ w' => Trailing h tokens outcome w')
      (submitOperation h op proposal decision) w := by
  rw [submitOperation]
  by_cases escrowed : op.state = .escrowed
  · obtain ⟨known, token, alone⟩ := given escrowed
    rw [if_neg (not_not.mpr escrowed)]
    refine Keeps.bind (tracks_transitionAndSave (s := .submitted) known (fun _ _ => trivial)
      fun _ pos _ => .inr (alone pos)) ?_
    rintro submitted w' ⟨known', moved, same, -⟩
    refine Keeps.perform known'.trailing fun env result w'' allowed answer => ?_
    obtain ⟨said, rfl⟩ := Prod.mk.inj answer
    have known'' : Known h tokens outcome entries (respond (.execute submitted) w' env).2 submitted :=
      ⟨⟨known'.ledger, known'.accounted⟩, known'.found⟩
    have called : IsSubmitted submitted.state := by
      rw [moved]
      decide
    cases result with
    | error exc =>
      exact tracks_finish (s := .unknown) known'' (fun _ _ => trivial) called fun _ _ trailing => trailing
    | ok result =>
      refine tracks_concludeSubmission known'' moved proposal (token.trans (by rw [same.decisionId])) ?_
      exact allowed.1 result (said ▸ rfl)
  · rw [if_pos escrowed]
    exact trailing

theorem tracks_authorizeOperation (m : Manager) (decision : PolicyDecision)
    (trailing : Trailing h tokens outcome w)
    (given : .failed ∈ validTransitions op.state → Known h tokens outcome entries w op ∧
      (TokenSpent m decision w → ¬0 < op.amount)) :
    Tracks h tokens outcome (fun op' w' => Known h tokens outcome entries w' op' ∧
      op'.state = .authorized ∧ SameRecord op' op ∧ Frame w w' op.id)
      (authorizeOperation m op decision) w := by
  simp only [authorizeOperation]
  split_ifs
  · exact trailing
  · refine Keeps.bind (Q := fun nonce w' => w = w' ∧
      m.nonceOf (orElse decision.authorizationToken "") = .ok nonce)
      (Keeps.ofExcept (fun _ found => ⟨rfl, found⟩) fun _ _ => trailing) ?_
    rintro nonce _ ⟨rfl, found⟩
    refine Keeps.perform trailing fun env consumed w' _ answer => ?_
    rcases consumeNonce_cases w.consumed nonce with ⟨err, refused, other⟩ |
      ⟨err, refused, kind, spent⟩ | taken
    · simp only [respond, refused] at answer
      obtain ⟨rfl, rfl⟩ := Prod.mk.inj answer
      dsimp only
      rw [if_neg other]
      exact trailing
    · simp only [respond, refused] at answer
      obtain ⟨rfl, rfl⟩ := Prod.mk.inj answer
      dsimp only
      rw [if_pos kind]
      by_cases may : OperationState.failed ∈ validTransitions op.state
      · -- nothing was at stake, so no exit is owed
        obtain ⟨known, idle⟩ := given may
        have nothing := idle ⟨nonce, found, spent⟩
        exact Keeps.bind (tracks_transitionAndSave (s := .failed) known
          (fun _ pos => absurd pos nothing) fun _ pos => absurd pos nothing)
          fun op' w' saved => saved.1.trailing
      · have illegal : op.transitionTo .failed (some "Authorization token already consumed") none =
            .error _ := if_neg may
        rw [transitionAndSave, illegal]
        exact trailing
    · simp only [respond, taken] at answer
      obtain ⟨rfl, rfl⟩ := Prod.mk.inj answer
      dsimp only
      by_cases fresh : op.state = .created
      · have may : OperationState.failed ∈ validTransitions op.state := by
          rw [fresh]
          decide
        obtain ⟨known, -⟩ := given may
        have known' : Known h tokens outcome entries { w with consumed := w.consumed ++ [nonce] } op :=
          ⟨⟨known.ledger, known.accounted⟩, known.found⟩
        exact tracks_transitionAndSave (s := .authorized) known' (fun _ _ => trivial)
          fun _ _ submitted => absurd rfl submitted.2.1
      · have illegal : op.transitionTo .authorized none none = .error _ :=
          if_neg fun legal => fresh (by revert legal; cases op.state <;> decide)
        rw [transitionAndSave, illegal]
        obtain ⟨entries', trail⟩ := trailing
        exact ⟨entries', trail.ledger, trail.accounted⟩

/-- What `execute_proposal` has to do with the operation it found or made. -/
structure Entered (h : Hashing) (tokens : String → Option String) (m : Manager) (w : World)
    (op : ConsequentialOperation) (decision : PolicyDecision) : Prop where
  token : decision.authorizationToken = tokens op.decisionId
  unspent : op.state = .created → 0 < op.amount → ¬TokenSpent m decision w
  alone : 0 < op.amount → ¬IsSubmitted op.state → Alone h tokens w.operations op.id (digest h tokens op)

theorem tracks_driveOperation {m : Manager} (known : Known m.hashing tokens outcome entries w op)
    (proposal : ActionProposal) {decision : PolicyDecision}
    (entered : Entered m.hashing tokens m w op decision) :
    Tracks m.hashing tokens outcome (fun _ w' => Trailing m.hashing tokens outcome w')
      (driveOperation m op proposal decision) w := by
  have unsubmitted {s : OperationState} (early : s = .created ∨ s = .authorized ∨ s = .escrowed) :
      ¬IsSubmitted s := by
    rcases early with rfl | rfl | rfl <;> decide
  rw [driveOperation]
  refine Keeps.bind (Q := fun op' w' => ∃ entries', Known m.hashing tokens outcome entries' w' op' ∧
    SameRecord op' op ∧ Frame w w' op.id ∧ (op'.state = .authorized ∨ op'.state = .escrowed →
      ¬IsSubmitted op.state)) ?_ ?_
  · rw [whenIn]
    by_cases created : op.state = .created
    · rw [if_pos created]
      refine (tracks_authorizeOperation m decision known.trailing fun _ =>
        ⟨known, fun spent pos => entered.unspent created pos spent⟩).mono ?_
      rintro op' w' ⟨known', -, same, frame⟩
      exact ⟨entries, known', same, frame, fun _ => unsubmitted (.inl created)⟩
    · rw [if_neg created]
      exact ⟨entries, known, ⟨rfl, rfl, rfl, rfl⟩, frame_same rfl _, fun early => unsubmitted (.inr early)⟩
  · rintro op' w' ⟨entries', known', same, frame, early⟩
    refine Keeps.bind (Q := fun op'' w'' => ∃ entries'', Known m.hashing tokens outcome entries'' w'' op'' ∧
      SameRecord op'' op ∧ Frame w w'' op.id ∧ (op''.state = .escrowed → ¬IsSubmitted op.state)) ?_ ?_
    · rw [whenIn]
      by_cases authorized : op'.state = .authorized
      · rw [if_pos authorized]
        refine (tracks_escrowOperation (fun _ => known') known'.trailing).mono ?_
        rintro op'' w'' ⟨entries'', known'', -, same', frame'⟩
        rw [same.id] at frame'
        exact ⟨entries'', known'', same'.trans same, frame.trans frame', fun _ => early (.inl authorized)⟩
      · rw [if_neg authorized]
        exact ⟨entries', known', same, frame, fun escrowed => early (.inr escrowed)⟩
    · rintro op'' w'' ⟨entries'', known'', same', frame', early'⟩
      split_ifs with escrowed
      · refine tracks_submitOperation known''.trailing proposal fun _ => ⟨known'', ?_, fun pos => ?_⟩
        · rw [same'.decisionId]
          exact entered.token
        · rw [same'.digest, same'.id]
          exact frame'.alone (entered.alone (same'.amount ▸ pos) (early' escrowed))
      · exact known''.trailing

/-- The operation of a key: the stored one, or a new one of the decision. -/
inductive Registered (m : Manager) (proposal : ActionProposal) (decision : PolicyDecision) (org : Organisation)
    (key : String) (w w' : World) (op : ConsequentialOperation) : Prop where
  | stored (mem : op ∈ w.operations) (same : op.idempotencyKey = key) (unchanged : w' = w)
  | added (u : Uuid) (new : op = newOperation m proposal decision org key u)
      (operations : w'.operations = w.operations ++ [op]) (consumed : w'.consumed = w.consumed)
      (free : ∀ o ∈ w.operations, o.idempotencyKey ≠ key)

theorem tracks_registerOperation (m : Manager) (trail : Trail m.hashing tokens outcome entries w)
    (proposal : ActionProposal) (decision : PolicyDecision) (org : Organisation) (key : String) :
    Tracks m.hashing tokens outcome (fun op w' => Known m.hashing tokens outcome entries w' op ∧
      Registered m proposal decision org key w w' op)
      (registerOperation m proposal decision org key) w := by
  rw [registerOperation]
  have trailing : Trailing m.hashing tokens outcome w := ⟨entries, trail⟩
  refine Keeps.perform trailing fun _ existing w' allowed answer => ?_
  obtain ⟨found, rfl⟩ := Prod.mk.inj answer
  cases existing with
  | some op =>
    dsimp only
    split_ifs
    · exact trailing
    · exact trailing
    · obtain ⟨_, _, held⟩ := allowed
      obtain ⟨mem, own⟩ := lookupBy_some found
      exact ⟨⟨trail, lookupBy_of_mem held.good.ids mem⟩, .stored mem own rfl⟩
  | none =>
    refine Keeps.perform trailing fun env u w' allowed answer => ?_
    obtain ⟨rfl, rfl⟩ := Prod.mk.inj answer
    have fresh : ∀ o ∈ w.operations, m.hashing.short o.id ≠
        m.hashing.short (newOperation m proposal decision org key env.uuid).id := allowed.1
    have new : find w.operations (newOperation m proposal decision org key env.uuid).id = none :=
      lookupBy_none.mpr (Good.new_of_unlike fresh)
    refine Keeps.bind (Q := fun _ w' => Known m.hashing tokens outcome entries w'
      (newOperation m proposal decision org key env.uuid) ∧ Registered m proposal decision org key w w'
        (newOperation m proposal decision org key env.uuid)) ?_ fun _ w' done => done
    refine Keeps.perform trailing fun _ saved w' _ answer => ?_
    rcases saveOperation_insert new with taken | ⟨done, free⟩
    · simp only [respond, taken] at answer
      obtain ⟨rfl, rfl⟩ := Prod.mk.inj answer
      exact trailing
    · simp only [respond, done] at answer
      obtain ⟨rfl, rfl⟩ := Prod.mk.inj answer
      exact ⟨⟨⟨trail.ledger, trail.accounted.register rfl⟩,
        lookupBy_concat_self (Good.new_of_unlike fresh)⟩, .added env.uuid rfl rfl rfl free⟩

theorem tracks_createOperation (m : Manager) (trail : Trail m.hashing tokens outcome entries w)
    (proposal : ActionProposal) (decision : PolicyDecision) (org : Organisation)
    (idempotencyKey : Option String) :
    Tracks m.hashing tokens outcome (fun op w' => Known m.hashing tokens outcome entries w' op ∧
      Registered m proposal decision org (orElse idempotencyKey s!"{org.id}:{proposal.id}") w w' op ∧
      orElse decision.authorizationToken "" ≠ "")
      (createOperation m proposal decision org idempotencyKey) w := by
  have trailing : Trailing m.hashing tokens outcome w := ⟨entries, trail⟩
  simp only [createOperation]
  split_ifs with _ named
  · exact trailing
  · exact trailing
  · refine Keeps.perform trailing fun env verdict w' _ answer => ?_
    obtain ⟨_, rfl⟩ := Prod.mk.inj answer
    rcases verdict with ⟨_ | _, reason⟩
    · exact trailing
    · refine Keeps.bind (Q := fun _ w' => w = w') (Keeps.ofExcept (fun _ _ => rfl)
        fun _ _ => trailing) ?_
      rintro _ _ rfl
      exact (tracks_registerOperation m trail proposal decision org _).mono
        fun op w' done => ⟨done.1, done.2, named⟩

/-- What is asked of a call to `execute_proposal`: the token is that of the decision, it is not
spent where credits would be at stake, and no other submitted operation has its digest. -/
structure Presents (m : Manager) (tokens : String → Option String) (w : World) (key : String)
    (decision : PolicyDecision) (amount : Nat) : Prop where
  token : decision.authorizationToken = tokens decision.id
  stored : ∀ o ∈ w.operations, o.idempotencyKey = key → o.decisionId = decision.id ∧
    (o.state = .created → 0 < o.amount → ¬TokenSpent m decision w)
  others : ∀ o ∈ w.operations, o.idempotencyKey ≠ key → 0 < o.amount → IsSubmitted o.state →
    digest m.hashing tokens o ≠ m.hashing.short (orElse decision.authorizationToken "")
  fresh : (∀ o ∈ w.operations, o.idempotencyKey ≠ key) → 0 < amount → ¬TokenSpent m decision w

theorem orElse_filled {value : Option String} (filled : orElse value "" ≠ "") (fallback : String) :
    orElse value fallback = orElse value "" := by
  cases value with
  | none => exact absurd rfl filled
  | some s =>
    by_cases blank : s = ""
    · exact absurd (by rw [blank]; rfl) filled
    · rw [orElse_some blank, orElse_some blank]

theorem entered_of_presents {m : Manager} {proposal : ActionProposal} {decision : PolicyDecision}
    {org : Organisation} {key : String} {w' : World}
    (presents : Presents m tokens w key decision proposal.requestedCredits)
    (keys : (w.operations.map ConsequentialOperation.idempotencyKey).Nodup)
    (registered : Registered m proposal decision org key w w' op)
    (filled : orElse decision.authorizationToken "" ≠ "") : Entered m.hashing tokens m w' op decision := by
  have digests (own : op.decisionId = decision.id) :
      digest m.hashing tokens op = m.hashing.short (orElse decision.authorizationToken "") := by
    rw [digest, own, ← presents.token, orElse_filled filled]
  cases registered with
  | stored mem same unchanged =>
    subst unchanged
    obtain ⟨own, unspent⟩ := presents.stored op mem same
    refine ⟨own ▸ presents.token, unspent, fun _ _ o ho other => ?_⟩
    rw [digests own]
    refine presents.others o ho fun key' => other ?_
    rw [eq_of_key keys ho mem (key'.trans same.symm)]
  | added u new operations consumed free =>
    have own : op.decisionId = decision.id := by
      rw [new]
      rfl
    refine ⟨own ▸ presents.token, fun _ pos => ?_, fun _ _ o ho other => ?_⟩
    · rw [TokenSpent, consumed]
      refine presents.fresh free ?_
      rw [new] at pos
      exact pos
    · rw [operations] at ho
      rcases List.mem_append.mp ho with old | added
      · rw [digests own]
        exact presents.others o old (free o old)
      · rw [List.mem_singleton.mp added] at other
        exact absurd rfl other

theorem tracks_executeProposal (m : Manager) (trail : Trail m.hashing tokens outcome entries w)
    (inv : Inv m.hashing w) (proposal : ActionProposal) {decision : PolicyDecision} (org : Organisation)
    {idempotencyKey : Option String}
    (presents : Presents m tokens w (orElse idempotencyKey s!"{org.id}:{proposal.id}") decision
      proposal.requestedCredits) :
    Tracks m.hashing tokens outcome (fun _ w' => Trailing m.hashing tokens outcome w')
      (executeProposal m proposal decision org idempotencyKey) w := by
  obtain ⟨_, held⟩ := inv
  rw [executeProposal]
  refine Keeps.bind (tracks_createOperation m trail proposal decision org idempotencyKey) ?_
  rintro op w' ⟨known, registered, filled⟩
  split_ifs
  · refine Keeps.perform known.trailing fun _ u w'' _ answer => ?_
    obtain ⟨_, rfl⟩ := Prod.mk.inj answer
    exact known.trailing
  · exact known.trailing
  · exact known.trailing
  · exact tracks_driveOperation known proposal
      (entered_of_presents presents held.good.keys registered filled)

end Manager

section Reconciler
variable {h : Hashing} {tokens : String → Option String} {outcome : String → Outcome}
  {entries : List LedgerEntry} {w : World} {op : ConsequentialOperation}

theorem tracks_markReconciled (known : Known h tokens outcome entries w op)
    (submitted : IsSubmitted op.state) (errorMessage providerReference : Option String) :
    Tracks h tokens outcome (fun _ w' => Trailing h tokens outcome w')
      (markReconciled op errorMessage providerReference) w := by
  have finish : Tracks h tokens outcome (fun _ w' => Trailing h tokens outcome w')
      (transitionAndSave op .reconciled errorMessage providerReference) w :=
    (tracks_transitionAndSave (s := .reconciled) known (fun _ _ => trivial)
      fun _ _ _ => .inl submitted).mono fun _ _ saved => saved.1.trailing
  rw [markReconciled]
  refine Keeps.perform known.trailing fun _ fresh w' _ answer => ?_
  obtain ⟨rfl, rfl⟩ := Prod.mk.inj answer
  rw [known.found]
  dsimp only
  split_ifs
  · exact known.trailing
  · exact finish

theorem tracks_queryStatus (known : Known h tokens outcome entries w op) :
    Tracks h tokens outcome (fun s w' => w = w' ∧ (0 < op.amount → Reports (outcome op.id) s.outcome))
      (queryStatus op) w := by
  have agrees {key : String} {ref : Option (Option String)} {env : Env} {s : ProviderStatusResult}
      (allowed : Agreeing h outcome (.status op.id key ref) w env) (said : env.status = .ok s) :
      0 < op.amount → Reports (outcome op.id) s.outcome :=
    allowed s (said ▸ rfl) op known.found
  refine Keeps.perform known.trailing fun env answered w' allowed answer => ?_
  obtain ⟨rfl, rfl⟩ := Prod.mk.inj answer
  cases said : env.status with
  | ok s =>
    dsimp only
    exact ⟨rfl, agrees allowed.1 said⟩
  | error exc =>
    dsimp only
    split_ifs
    · refine Keeps.perform known.trailing fun env again w' allowed answer => ?_
      obtain ⟨rfl, rfl⟩ := Prod.mk.inj answer
      exact Keeps.ofExcept (fun s said => ⟨rfl, agrees allowed.1 said⟩) fun _ _ => known.trailing
    · exact known.trailing

theorem tracks_applyStatus (known : Known h tokens outcome entries w op) (submitted : IsSubmitted op.state)
    {s : ProviderStatusResult} (reports : 0 < op.amount → Reports (outcome op.id) s.outcome) :
    Tracks h tokens outcome (fun _ w' => Trailing h tokens outcome w') (applyStatus h op s) w := by
  rw [applyStatus]
  split_ifs with success failure
  · have performed (pos : 0 < op.amount) : outcome op.id = .performed := (reports pos).1 success
    refine Keeps.bind (tracks_moveOnce known _ (fun pos => by rw [performed pos]; rfl)
      (reconcileMemo_named op.id) fun pos => by rw [recoveredTx, performed pos]; rfl) ?_
    rintro _ w' ⟨entries', known'⟩
    exact tracks_markReconciled known' submitted _ _
  · have refused (pos : 0 < op.amount) : outcome op.id = .refused := (reports pos).2 failure
    refine Keeps.bind (tracks_moveOnce known _ (fun pos => by rw [refused pos]; rfl)
      (releaseMemo_named op.id) fun pos => by rw [recoveredTx, refused pos]; rfl) ?_
    rintro _ w' ⟨entries', known'⟩
    exact tracks_markReconciled known' submitted _ _
  · exact (tracks_transitionAndSave (s := .unknown) known (fun _ _ => trivial)
      fun _ _ _ => .inl submitted).mono fun _ _ saved => saved.1.trailing

theorem tracks_resolveOperation (known : Known h tokens outcome entries w op) :
    Tracks h tokens outcome (fun _ w' => Trailing h tokens outcome w') (resolveOperation h op) w := by
  rw [resolveOperation]
  split_ifs with ended excluded
  · exact known.trailing
  · exact known.trailing
  · have submitted : IsSubmitted op.state := by
      revert excluded
      cases op.state <;> decide
    refine Keeps.bind (Q := fun op' w' => Known h tokens outcome entries w' op' ∧
      IsSubmitted op'.state) ?_ ?_
    · rw [enterReconciling]
      split_ifs
      · refine (tracks_transitionAndSave (s := .reconciling) known (fun _ _ => trivial)
          fun _ _ _ => .inl submitted).mono ?_
        rintro op' w' ⟨known', moved, -⟩
        refine ⟨known', ?_⟩
        rw [moved]
        decide
      · exact ⟨known, submitted⟩
    · rintro op' w' ⟨known', submitted'⟩
      refine Keeps.bind (tracks_queryStatus known') ?_
      rintro s _ ⟨rfl, reports⟩
      exact tracks_applyStatus known' submitted' reports

theorem tracks_reconcileOperation (trail : Trail h tokens outcome entries w) (operationId : String)
    (org : Organisation) : Tracks h tokens outcome (fun _ w' => Trailing h tokens outcome w')
      (reconcileOperation h operationId org) w := by
  rw [reconcileOperation]
  refine Keeps.perform ⟨entries, trail⟩ fun _ found w' _ answer => ?_
  obtain ⟨read, rfl⟩ := Prod.mk.inj answer
  cases found with
  | none => exact ⟨entries, trail⟩
  | some op =>
    dsimp only
    split_ifs
    · exact ⟨entries, trail⟩
    · have own : op.id = operationId := (lookupBy_some read).2
      exact tracks_resolveOperation ⟨trail, own ▸ read⟩

end Reconciler

end AuditTrail
