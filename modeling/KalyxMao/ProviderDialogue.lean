import KalyxMao.ProviderAgreement

/-!
# What the manager and the reconciler ask of the provider

One lemma for each method: between its commands the provider's books agree with the
ledger and the stored operations. An operation is submitted in the state it was saved
in, so it is the first submission of its key; its status is asked for under its own key.
-/

namespace ProviderDialogue
open Bookkeeping PythonText Ledger SqlLedgers LedgerEquivalence Domain EffectPrograms
open EffectPrograms.Prog KeyedLists EscrowNames EscrowInvariant Reconciliation
open Consequential hiding respond
open ManagerSpecs ProgramViews SimulatedProvider ProviderAgreement
open ConsequentialOperation (SameTerms transitionTo_ok)

/-- An operation that is submitted is stored, and its key was not submitted before. -/
structure FirstSubmission (w : Joint) (op : ConsequentialOperation) : Prop where
  stored : op ∈ w.engine.operations
  sent : ¬Unsent op.state
  first : w.provider.submissionAttempts op.idempotencyKey = 0

/-- The books agree before a command, an operation is submitted once, and a status is asked for
under the operation's key. -/
def Sound : Cmd → Joint → Prop
  | .execute op, w => Agreed w ∧ FirstSubmission w op
  | .status id key _, w => Agreed w ∧ ∀ o ∈ find w.engine.operations id, o.idempotencyKey = key
  | _, w => Agreed w

theorem Sound.agreed {c : Cmd} {w : Joint} (sound : Sound c w) : Agreed w := by
  cases c with
  | execute op => exact sound.1
  | status id key ref => exact sound.1
  | _ => exact sound

structure Known (w : Joint) (op : ConsequentialOperation) : Prop where
  agreed : Agreed w
  found : find w.engine.operations op.id = some op

/-- Programs that keep the books in agreement, wherever the escrow invariant holds. -/
abbrev Attends (h : Hashing) {α : Type} (Q : α → Joint → Prop) (p : Action α) (w : Joint) : Prop :=
  Meets (respond h) (fun c w i => Fresh h c w i ∧ Inv h w.engine) Sound Q (fun _ w => Agreed w) p w

section Blocks
variable {h : Hashing} {w : Joint} {op : ConsequentialOperation}

theorem Known.mem (known : Known w op) : op ∈ w.engine.operations := (lookupBy_some known.found).1

theorem respond_save_refused {w : Joint} {err : PyError} (i : Draws)
    (taken : saveOperation w.engine.operations op = .error err) :
    respond h (.save op) w i = (.error err, w) := by
  simp [respond, Consequential.respond, taken, providerAfter]

theorem respond_save {w : Joint} {ops : List ConsequentialOperation} (i : Draws)
    (stored : saveOperation w.engine.operations op = .ok ops) :
    respond h (.save op) w i = (.ok (), ⟨{ w.engine with operations := ops }, w.provider⟩) := by
  simp [respond, Consequential.respond, stored, providerAfter]

/-- A key behind an unsent operation has not been submitted. -/
theorem unasked (inv : Inv h w.engine) (known : Known w op) (unsent : Unsent op.state) :
    w.provider.submissionAttempts op.idempotencyKey = 0 := by
  obtain ⟨entries, held⟩ := inv
  by_contra asked
  obtain ⟨o, ho, same, sent⟩ := known.agreed.sent op.idempotencyKey (by omega)
  obtain rfl := eq_of_key held.good.keys ho known.mem same
  exact sent unsent

/-- A record written over the stored one it came from. -/
theorem attends_save {op' : ConsequentialOperation} (known : Known w op) (same : SameTerms op' op)
    (unsent : Unsent op'.state → Unsent op.state) (done : op'.state = .succeeded →
      ∃ rec ∈ w.provider.providerRecords, IsOf rec op ∧ rec.outcome = .success)
    (evidence : Evidenced op'.state op'.errorMessage op'.providerReference) :
    Attends h (fun _ w' => Known w' op' ∧ w'.provider = w.provider ∧ (Unsent op.state →
      w.provider.submissionAttempts op.idempotencyKey = 0)) (save op') w := by
  refine Meets.perform known.agreed fun i saved w' allowed answer => ?_
  have first := unasked allowed.2 known
  obtain ⟨-, _, held⟩ := allowed
  have found : find w.engine.operations op'.id = some op := same.id ▸ known.found
  rcases saveOperation_update found with taken | stored
  · rw [respond_save_refused i taken] at answer
    obtain ⟨rfl, rfl⟩ := Prod.mk.inj answer
    exact known.agreed
  · rw [respond_save i stored] at answer
    obtain ⟨rfl, rfl⟩ := Prod.mk.inj answer
    exact ⟨⟨known.agreed.replace held.good.ids known.mem same unsent done evidence,
      lookupBy_replaceBy_self held.good.ids known.mem same.id.symm⟩, rfl, first⟩

theorem attends_transitionAndSave (known : Known w op) {s : OperationState}
    {errorMessage providerReference : Option String} (done : s = .succeeded →
      ∃ rec ∈ w.provider.providerRecords, IsOf rec op ∧ rec.outcome = .success)
    (evidence : Evidenced s errorMessage providerReference) :
    Attends h (fun op' w' => Known w' op' ∧ op'.state = s ∧ SameTerms op' op ∧
      w'.provider = w.provider ∧
      (Unsent op.state → w.provider.submissionAttempts op.idempotencyKey = 0))
      (transitionAndSave op s errorMessage providerReference) w := by
  refine Meets.bind (Meets.ofExcept (Q := fun op' w' => (w' = w ∧ s ∈ validTransitions op.state ∧
    op'.state = s ∧ SameTerms op' op) ∧ Evidenced op'.state op'.errorMessage op'.providerReference)
    (fun op' ok => ⟨⟨rfl, transitionTo_ok ok⟩, evidenced_of_transition ok evidence⟩)
    (fun _ _ => known.agreed)) ?_
  rintro op' _ ⟨⟨rfl, legal, moved, same⟩, evidence⟩
  refine Meets.bind (attends_save known same ?_ ?_ evidence) ?_
  · rw [moved]
    exact unsent_before legal
  · rw [moved]
    exact done
  · rintro _ w' ⟨saved, provider, first⟩
    exact ⟨saved, moved, same, provider, first⟩

theorem evidenced_otherwise {s : OperationState} (other : s ≠ .succeeded ∧ s ≠ .failed)
    (errorMessage providerReference : Option String) : Evidenced s errorMessage providerReference :=
  ⟨fun state => absurd state other.1, fun state => absurd state other.2⟩

/-- Saving any state that is not a verdict. -/
theorem attends_moved (known : Known w op) {s : OperationState}
    {errorMessage providerReference : Option String} (other : s ≠ .succeeded ∧ s ≠ .failed) :
    Attends h (fun op' w' => Known w' op')
      (transitionAndSave op s errorMessage providerReference) w :=
  (attends_transitionAndSave known (fun state => absurd state other.1)
    (evidenced_otherwise other _ _)).mono fun _ _ saved => saved.1

/-- Saving a failure with its message. -/
theorem attends_failed (known : Known w op) {errorMessage : Option String}
    (told : orElse errorMessage "" ≠ "") : Attends h (fun op' w' => Known w' op')
      (transitionAndSave op .failed errorMessage none) w := by
  have evidence : Evidenced .failed errorMessage none := by
    constructor
    · intro state
      cases state
    · intro _
      exact told
  refine (attends_transitionAndSave known ?_ evidence).mono fun _ _ saved => saved.1
  intro state
  cases state

/-- A transfer, which leaves escrow only where a record of the provider says so. -/
theorem attends_transfer (agreed : Agreed w) {source target memo txId : String} {amount : Nat}
    (notMint : source ≠ systemMint) (named : txId ≠ "") (exit : source = escrow →
      ∃ rec ∈ w.provider.providerRecords, NamedFor rec.operationId memo ∧ Routed rec target) :
    Attends h (fun _ w' => Agreed w' ∧ w'.engine.operations = w.engine.operations ∧
      w'.provider = w.provider) (ask (.transfer source target amount memo txId)) w := by
  refine ⟨agreed, fun i allowed => ?_⟩
  obtain ⟨fresh, entries, held⟩ := allowed
  have unused : ∀ e ∈ entries, e.id ≠ i.draw.entryId := fun e he => fresh _ (mem_rows held he)
  rcases transfer_cases target memo amount unused notMint named with
    ⟨err, refused, -⟩ | ⟨e, taken, from_, to_, -, memo_, -⟩
  · simp only [respond, Consequential.respond, heard, held.ledger, refused]
    refine ⟨?_, rfl, rfl⟩
    unfold Agreed
    rw [← held.ledger]
    exact agreed
  · simp only [respond, Consequential.respond, heard, held.ledger, taken]
    refine ⟨?_, rfl, rfl⟩
    have rows : (sqliteOf (entries ++ [e])).rows =
        w.engine.ledger.rows ++ [entryRow defaultTenant e] := by
      simp [held.ledger, sqliteOf]
    unfold Agreed
    dsimp only
    rw [rows]
    refine agreed.append fun leaves => ?_
    have source : source = escrow := from_.symm.trans leaves
    obtain ⟨rec, hrec, for_, routed⟩ := exit source
    subst memo_ to_
    exact ⟨rec, hrec, for_, routed⟩

theorem Known.still (known : Known w op) {w' : Joint} (agreed : Agreed w')
    (same : w'.engine.operations = w.engine.operations) : Known w' op :=
  ⟨agreed, same ▸ known.found⟩

/-- An exit of the operation in the direction of its record. -/
theorem exit_of {rec : ExternalProviderRecord} {target memo : String}
    (mem : rec ∈ w.provider.providerRecords) (own : IsOf rec op) (named : NamedFor op.id memo)
    (routed : Routed rec target) :
    ∃ rec ∈ w.provider.providerRecords, NamedFor rec.operationId memo ∧ Routed rec target := by
  refine ⟨rec, mem, ?_, routed⟩
  rw [own.id]
  exact named

theorem attends_payOut (known : Known w op) {target memo txId : String} (filled : txId ≠ "")
    (exit : ∃ rec ∈ w.provider.providerRecords, NamedFor rec.operationId memo ∧ Routed rec target) :
    Attends h (fun _ w' => Known w' op ∧ w'.provider = w.provider) (payOut op target memo txId) w := by
  rw [payOut]
  split_ifs
  · refine Meets.bind (attends_transfer known.agreed (by decide) filled fun _ => exit) ?_
    rintro moved w' ⟨agreed, operations, provider⟩
    refine Meets.bind (Meets.ofExcept (Q := fun _ w'' => w'' = w') (fun _ _ => rfl) fun _ _ => agreed) ?_
    rintro _ _ rfl
    refine Meets.perform agreed fun _ _ w'' _ answer => ?_
    obtain ⟨-, rfl⟩ := Prod.mk.inj answer
    exact ⟨known.still agreed operations, provider⟩
  · exact ⟨known, rfl⟩

theorem attends_lockEscrow (known : Known w op) :
    Attends h (fun _ w' => Known w' op) (lockEscrow h op) w := by
  refine Meets.perform known.agreed fun _ read w' _ answer => ?_
  obtain ⟨-, rfl⟩ := Prod.mk.inj answer
  refine Meets.bind (Meets.ofExcept (Q := fun _ w' => w' = w) (fun _ _ => rfl) fun _ _ => known.agreed) ?_
  rintro entries _ rfl
  split
  · split_ifs
    · exact known.agreed
    · exact known
  · refine Meets.bind (attends_transfer known.agreed (by decide) lockTx_ne_empty fun out =>
      absurd out (by decide)) ?_
    rintro moved w' ⟨agreed, operations, -⟩
    exact Meets.bind (Meets.ofExcept (Q := fun _ w'' => w'' = w') (fun _ _ => rfl) fun _ _ => agreed)
      fun _ _ same => same ▸ known.still agreed operations

/-- A verdict moves credits in the direction of the operation's record, or not at all. -/
theorem attends_moveOnce (known : Known w op) (already : List LedgerEntry → Bool)
    {target memo txId : String} (filled : txId ≠ "")
    (exit : ∃ rec ∈ w.provider.providerRecords, NamedFor rec.operationId memo ∧ Routed rec target) :
    Attends h (fun _ w' => Known w' op) (moveOnce op already target memo txId) w := by
  rw [moveOnce]
  split_ifs
  · refine Meets.perform known.agreed fun _ read w' _ answer => ?_
    obtain ⟨-, rfl⟩ := Prod.mk.inj answer
    refine Meets.bind (Meets.ofExcept (Q := fun _ w' => w' = w) (fun _ _ => rfl) fun _ _ => known.agreed) ?_
    rintro entries _ rfl
    split_ifs
    · exact known
    · refine Meets.perform known.agreed fun _ held w' _ answer => ?_
      obtain ⟨-, rfl⟩ := Prod.mk.inj answer
      split_ifs
      · exact known
      · refine Meets.bind (attends_transfer known.agreed (by decide) filled fun _ => exit) ?_
        rintro (exc | e) w' ⟨agreed, operations, -⟩
        · dsimp only
          split_ifs
          · exact known.still agreed operations
          · exact agreed
        · refine Meets.perform agreed fun _ _ w'' _ answer => ?_
          obtain ⟨-, rfl⟩ := Prod.mk.inj answer
          exact known.still agreed operations
  · exact known

end Blocks

section Manager
variable {h : Hashing} {w : Joint} {op : ConsequentialOperation}

theorem attends_escrowOperation (known : op.state = .authorized → Known w op) (agreed : Agreed w) :
    Attends h (fun op' w' => Known w' op') (escrowOperation h op) w := by
  rw [escrowOperation]
  by_cases authorized : op.state = .authorized
  · have known := known authorized
    simp only [authorized, ne_eq, not_true_eq_false, if_false]
    split_ifs
    · refine Meets.bind (attends_lockEscrow known) fun _ w' known' => ?_
      refine Meets.perform known'.agreed fun _ _ w'' _ answer => ?_
      obtain ⟨-, rfl⟩ := Prod.mk.inj answer
      exact attends_moved known' (by decide)
    · exact attends_moved known (by decide)
  · rw [if_pos authorized]
    exact agreed

/-- What follows a definite answer moves credits and ends the operation as the answer says. -/
theorem attends_concludeSubmission (known : Known w op) (proposal : ActionProposal)
    (decision : PolicyDecision) {result : ProviderExecutionResult}
    (answered : Answered w.provider op result.outcome) (backed : Backed result) :
    Attends h (fun _ w' => Agreed w') (concludeSubmission h op proposal decision result) w := by
  have filled {start s : String} (mem : start ∈ directStarts) : start ++ h.short s ≠ "" :=
    exitTx_ne_empty (a := op) (.inl ⟨start, mem, s, rfl⟩)
  unfold concludeSubmission
  dsimp only
  split_ifs with success failure
  · obtain ⟨rec, hrec, own, outcome⟩ := answered.success success
    have exit := exit_of hrec own (commitMemo_named op.id) (.inl ⟨outcome, rfl⟩)
    refine Meets.bind (attends_payOut known (filled (by decide)) exit) ?_
    rintro _ w' ⟨known', provider⟩
    have evidence : Evidenced .succeeded none result.providerReference := by
      constructor
      · intro _
        exact backed.reference success
      · intro state
        cases state
    refine Meets.bind (attends_transitionAndSave known' (fun _ => ?_) evidence) ?_
    · rw [provider]
      exact ⟨rec, hrec, own, outcome⟩
    · rintro op' w'' ⟨saved, -⟩
      refine Meets.perform saved.agreed fun _ _ w''' _ answer => ?_
      obtain ⟨-, rfl⟩ := Prod.mk.inj answer
      exact saved.agreed
  · obtain ⟨rec, hrec, own, outcome⟩ := answered.failure failure
    have exit := exit_of hrec own (rollbackMemo_named op.id) (.inr ⟨outcome, rfl⟩)
    refine Meets.bind (attends_payOut known (filled (by decide)) exit) ?_
    rintro _ w' ⟨known', -⟩
    exact Meets.bind (attends_failed known' (backed.message failure)) fun _ _ saved => saved.agreed
  · exact Meets.bind (attends_moved known (by decide)) fun _ _ saved => saved.agreed

theorem attends_submitOperation (known : op.state = .escrowed → Known w op) (agreed : Agreed w)
    (proposal : ActionProposal) (decision : PolicyDecision) :
    Attends h (fun _ w' => Agreed w') (submitOperation h op proposal decision) w := by
  rw [submitOperation]
  by_cases escrowed : op.state = .escrowed
  · have known := known escrowed
    simp only [escrowed, ne_eq, not_true_eq_false, if_false]
    refine Meets.bind (attends_transitionAndSave known (fun state => absurd state (by decide))
      (evidenced_otherwise (by decide) _ _)) ?_
    rintro submitted w' ⟨saved, moved, same, provider, unasked⟩
    have first := unasked (.inr (.inr escrowed))
    have sent : ¬Unsent submitted.state := by
      rw [moved]
      decide
    rw [← provider, ← same.idempotencyKey] at first
    obtain ⟨agreed', answered, backed⟩ := saved.agreed.executed (h := h) saved.mem sent first
    refine Meets.perform ⟨saved.agreed, saved.mem, sent, first⟩ fun _ answer w'' _ told => ?_
    obtain ⟨rfl, rfl⟩ := Prod.mk.inj told
    have known' : Known ⟨{ w'.engine with executed := w'.engine.executed ++ [submitted.id] },
        (execute h w'.provider submitted).2⟩ submitted := ⟨agreed', saved.found⟩
    exact attends_concludeSubmission known' proposal decision answered backed
  · rw [if_pos escrowed]
    exact agreed

theorem attends_registerOperation (m : Manager) (agreed : Agreed w) (proposal : ActionProposal)
    (decision : PolicyDecision) (org : Organisation) (key : String) :
    Attends m.hashing (fun op w' => Known w' op)
      (registerOperation m proposal decision org key) w := by
  rw [registerOperation]
  refine Meets.perform agreed fun _ existing w' allowed answer => ?_
  obtain ⟨found, rfl⟩ := Prod.mk.inj answer
  cases existing with
  | some op =>
    dsimp only
    split_ifs
    · exact agreed
    · exact agreed
    · obtain ⟨-, _, held⟩ := allowed
      exact ⟨agreed, lookupBy_of_mem held.good.ids (lookupBy_some found).1⟩
  | none =>
    refine Meets.perform agreed fun i u w' allowed answer => ?_
    obtain ⟨rfl, rfl⟩ := Prod.mk.inj answer
    have unlike : ∀ o ∈ w.engine.operations, o.id ≠ operationId i.uuid :=
      fun o ho same => allowed.1 o ho (congrArg m.hashing.short same)
    have new : find w.engine.operations (newOperation m proposal decision org key i.uuid).id = none :=
      lookupBy_none.mpr unlike
    refine Meets.bind (Q := fun _ w' => Known w' (newOperation m proposal decision org key i.uuid))
      ?_ fun _ w' known => known
    refine Meets.perform agreed fun j saved w' _ answer => ?_
    have answer : respond m.hashing (.save (newOperation m proposal decision org key i.uuid)) w j =
        (saved, w') := answer
    rcases saveOperation_insert new with taken | ⟨stored, -⟩
    · rw [respond_save_refused j taken] at answer
      obtain ⟨rfl, rfl⟩ := Prod.mk.inj answer
      exact agreed
    · rw [respond_save j stored] at answer
      obtain ⟨rfl, rfl⟩ := Prod.mk.inj answer
      exact ⟨agreed.add rfl, lookupBy_concat_self unlike⟩

theorem attends_createOperation (m : Manager) (agreed : Agreed w) (proposal : ActionProposal)
    (decision : PolicyDecision) (org : Organisation) (idempotencyKey : Option String) :
    Attends m.hashing (fun op w' => Known w' op)
      (createOperation m proposal decision org idempotencyKey) w := by
  simp only [createOperation]
  split_ifs
  · exact agreed
  · exact agreed
  · refine Meets.perform agreed fun i verdict w' _ answer => ?_
    obtain ⟨-, rfl⟩ := Prod.mk.inj answer
    rcases verdict with ⟨_ | _, reason⟩
    · exact agreed
    · refine Meets.bind (Q := fun _ w' => w = w') (Meets.ofExcept (fun _ _ => rfl)
        fun _ _ => agreed) ?_
      rintro _ _ rfl
      exact attends_registerOperation m agreed proposal decision org _

theorem attends_authorizeOperation (m : Manager) (decision : PolicyDecision) (agreed : Agreed w)
    (found : .failed ∈ validTransitions op.state → find w.engine.operations op.id = some op) :
    Attends h (fun op' w' => Known w' op') (authorizeOperation m op decision) w := by
  have illegal {w' : Joint} (agreed' : Agreed w') {s : OperationState} {message : Option String}
      (out : s ∉ validTransitions op.state) :
      Attends h (fun op' w' => Known w' op') (transitionAndSave op s message none) w' := by
    have refused : op.transitionTo s message none = .error _ := if_neg out
    rw [transitionAndSave, refused]
    exact agreed'
  simp only [authorizeOperation]
  split_ifs
  · exact agreed
  · refine Meets.bind (Q := fun _ w' => w = w') (Meets.ofExcept (fun _ _ => rfl)
      fun _ _ => agreed) ?_
    rintro nonce _ rfl
    refine Meets.perform agreed fun i consumed w' _ answer => ?_
    have after : w'.engine.operations = w.engine.operations ∧ Agreed w' := by
      cases taken : consumeNonce w.engine.consumed nonce with
      | error err =>
        simp only [respond, Consequential.respond, taken] at answer
        obtain ⟨-, rfl⟩ := Prod.mk.inj answer
        exact ⟨rfl, agreed⟩
      | ok spent =>
        simp only [respond, Consequential.respond, taken] at answer
        obtain ⟨-, rfl⟩ := Prod.mk.inj answer
        exact ⟨rfl, agreed⟩
    obtain ⟨operations, agreed'⟩ := after
    have known (legal : .failed ∈ validTransitions op.state) : Known w' op :=
      ⟨agreed', operations ▸ found legal⟩
    rcases consumed with err | ⟨⟩
    · dsimp only
      split_ifs
      · refine Meets.bind (Q := fun op' w' => Known w' op') ?_ fun _ _ saved => saved.agreed
        by_cases legal : .failed ∈ validTransitions op.state
        · exact attends_failed (known legal) (by decide)
        · exact illegal agreed' legal
      · exact agreed'
    · by_cases legal : .authorized ∈ validTransitions op.state
      · refine attends_moved (known ?_) (by decide)
        revert legal
        cases op.state <;> decide
      · exact illegal agreed' legal

theorem attends_driveOperation {m : Manager} (known : Known w op) (proposal : ActionProposal) (decision : PolicyDecision) :
    Attends m.hashing (fun _ w' => Agreed w') (driveOperation m op proposal decision) w := by
  have entered {op : ConsequentialOperation} {w : Joint} (s : OperationState)
      {step : ConsequentialOperation → Action ConsequentialOperation} (known : Known w op)
      (inside : Attends m.hashing (fun op' w' => Known w' op') (step op) w) :
      Attends m.hashing (fun op' w' => Known w' op') (whenIn s step op) w := by
    rw [whenIn]
    split_ifs
    · exact inside
    · exact known
  rw [driveOperation]
  refine Meets.bind (entered .created known
    (attends_authorizeOperation m decision known.agreed fun _ => known.found)) ?_
  intro op' w' known'
  refine Meets.bind (entered .authorized known'
    (attends_escrowOperation (fun _ => known') known'.agreed)) ?_
  intro op'' w'' known''
  split_ifs
  · exact attends_submitOperation (fun _ => known'') known''.agreed proposal decision
  · exact known''.agreed

theorem attends_executeProposal (m : Manager) (agreed : Agreed w) (proposal : ActionProposal)
    (decision : PolicyDecision) (org : Organisation) (idempotencyKey : Option String) :
    Attends m.hashing (fun _ w' => Agreed w')
      (executeProposal m proposal decision org idempotencyKey) w := by
  rw [executeProposal]
  refine Meets.bind (attends_createOperation m agreed proposal decision org idempotencyKey) ?_
  intro op w' known
  split_ifs
  · refine Meets.perform known.agreed fun _ _ w'' _ answer => ?_
    obtain ⟨-, rfl⟩ := Prod.mk.inj answer
    exact known.agreed
  · exact known.agreed
  · exact known.agreed
  · exact attends_driveOperation known proposal decision

end Manager

section Reconciler
variable {h : Hashing} {w : Joint} {op : ConsequentialOperation}

theorem attends_markReconciled (known : Known w op) (errorMessage providerReference : Option String) :
    Attends h (fun _ w' => Agreed w') (markReconciled op errorMessage providerReference) w := by
  have saved : Attends h (fun _ w' => Agreed w')
      (transitionAndSave op .reconciled errorMessage providerReference) w :=
    (attends_moved known (by decide)).mono fun _ _ saved => saved.agreed
  rw [markReconciled]
  refine Meets.perform known.agreed fun _ fresh w' _ answer => ?_
  obtain ⟨-, rfl⟩ := Prod.mk.inj answer
  cases fresh with
  | some other =>
    dsimp only
    split_ifs
    · exact known.agreed
    · exact saved
    · exact known.agreed
  | none =>
    dsimp only
    split_ifs
    · exact saved
    · exact known.agreed

/-- The provider does not take the reference, and answers when asked without it. -/
theorem attends_queryStatus (known : Known w op) :
    Attends h (fun s w' => w' = w ∧ Answered w.provider op s.outcome) (queryStatus op) w := by
  have own : ∀ o ∈ find w.engine.operations op.id, o.idempotencyKey = op.idempotencyKey := by
    intro o found
    rw [known.found] at found
    rw [Option.some.inj found]
  refine Meets.perform ⟨known.agreed, own⟩ fun i answered w' _ answer => ?_
  obtain ⟨rfl, rfl⟩ := Prod.mk.inj answer
  refine Meets.perform ⟨known.agreed, own⟩ fun i again w' allowed answer => ?_
  obtain ⟨rfl, rfl⟩ := Prod.mk.inj answer
  obtain ⟨-, _, held⟩ := allowed
  exact ⟨rfl, known.agreed.status held.good.ids held.good.keys known.mem⟩

theorem attends_applyStatus (known : Known w op) {s : ProviderStatusResult}
    (answered : Answered w.provider op s.outcome) :
    Attends h (fun _ w' => Agreed w') (applyStatus h op s) w := by
  have filled {t : String} (own : OwnTx h op t) : t ≠ "" := exitTx_ne_empty (.inr own)
  rw [applyStatus]
  split_ifs with success failure
  · obtain ⟨rec, hrec, own, outcome⟩ := answered.success success
    refine Meets.bind (attends_moveOnce known _ (filled settleTx_own)
      (exit_of hrec own (reconcileMemo_named op.id) (.inl ⟨outcome, rfl⟩))) ?_
    intro _ w' known'
    exact attends_markReconciled known' _ _
  · obtain ⟨rec, hrec, own, outcome⟩ := answered.failure failure
    refine Meets.bind (attends_moveOnce known _ (filled releaseTx_own)
      (exit_of hrec own (releaseMemo_named op.id) (.inr ⟨outcome, rfl⟩))) ?_
    intro _ w' known'
    exact attends_markReconciled known' _ _
  · exact (attends_moved known (by decide)).mono fun _ _ saved => saved.agreed

theorem attends_resolveOperation (known : Known w op) :
    Attends h (fun _ w' => Agreed w') (resolveOperation h op) w := by
  rw [resolveOperation]
  split_ifs
  · exact known.agreed
  · exact known.agreed
  · refine Meets.bind (Q := fun op' w' => Known w' op') ?_ ?_
    · rw [enterReconciling]
      split_ifs
      · exact attends_moved known (by decide)
      · exact known
    · intro op' w' known'
      refine Meets.bind (attends_queryStatus known') ?_
      rintro s _ ⟨rfl, answered⟩
      exact attends_applyStatus known' answered

theorem attends_reconcileOperation (agreed : Agreed w) (operationId : String) (org : Organisation) :
    Attends h (fun _ w' => Agreed w') (reconcileOperation h operationId org) w := by
  rw [reconcileOperation]
  refine Meets.perform agreed fun _ found w' _ answer => ?_
  obtain ⟨read, rfl⟩ := Prod.mk.inj answer
  cases found with
  | none => exact agreed
  | some op =>
    dsimp only
    split_ifs
    · exact agreed
    · obtain rfl : op.id = operationId := (lookupBy_some read).2
      exact attends_resolveOperation ⟨agreed, read⟩

end Reconciler

end ProviderDialogue
