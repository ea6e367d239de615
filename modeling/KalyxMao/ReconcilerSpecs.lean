import KalyxMao.ManagerSpecs

/-!
# What the reconciler preserves

Locking puts exactly one reservation behind an unresolved operation, so a
verdict finds either its exit in the ledger or enough credits in escrow to make
it. An answer that contradicts an exit already made is excluded by assumption;
for everything else the search and the duplicate checks are enough.
-/

namespace ReconcilerSpecs
open Bookkeeping PythonText Ledger SqlLedgers LedgerEquivalence Domain EffectPrograms
open EffectPrograms.Prog Consequential KeyedLists EscrowNames EscrowInvariant
open Reconciliation ManagerSpecs

variable {h : Hashing} {entries : List LedgerEntry} {w : World} {op : ConsequentialOperation}

/-- A verdict in one direction is free to act: what the search misses has not
left escrow as long as escrow could still pay. -/
structure Unopposed (entries : List LedgerEntry) (op : ConsequentialOperation)
    (already : List LedgerEntry → Bool) (txId : String) : Prop where
  found : 0 < op.amount → already entries = true → exitsOf entries op.id ≠ []
  missed : 0 < op.amount → already entries = false →
    (op.amount : Int) ≤ balance (postings entries) escrow → exitsOf entries op.id = []
  own : ∀ e ∈ entries, e.transactionId = txId → exitsOf entries op.id ≠ []

theorem opposing_row (st : Stored h entries w op) {e : LedgerEntry}
    (he : e ∈ exitsOf entries op.id) (pos : 0 < op.amount)
    (enough : (op.amount : Int) ≤ balance (postings entries) escrow) :
    Contradicted w op.id e.toAccount := by
  obtain ⟨stored, hit⟩ := List.mem_filter.mp he
  simp only [Bool.and_eq_true, decide_eq_true_eq] at hit
  refine ⟨op, st.stored, pos, ⟨_, mem_rows st.toHolds stored, hit.1, rfl, hit.2⟩, ?_⟩
  rw [getBalance_eq st.toHolds]
  exact enough

theorem unopposed_settle (hex : HexDigests h) (st : Stored h entries w op)
    (agrees : ¬ Contradicted w op.id treasury) :
    Unopposed entries op (alreadySettled h op) (settleTx h op) where
  own := by
    intro e he tx
    have exit := st.good.exit_of_tx hex st.mem he (tx ▸ settleTx_own)
    exact List.ne_nil_of_mem (st.good.mem_exitsOf st.mem he exit)
  found := by
    intro pos hit
    rw [alreadySettled, Bool.or_eq_true, List.any_eq_true, List.any_eq_true] at hit
    rcases hit with ⟨e, he, own⟩ | ⟨e, he, named⟩
    · simp only [isOwnTransaction, Bool.and_eq_true, decide_eq_true_eq] at own
      have exit := st.good.exit_of_tx hex st.mem he (own.1.1.1 ▸ settleTx_own)
      exact List.ne_nil_of_mem (st.good.mem_exitsOf st.mem he exit)
    · simp only [Bool.and_eq_true, decide_eq_true_eq] at named
      refine List.ne_nil_of_mem (List.mem_filter.mpr ⟨he, ?_⟩)
      rcases st.good.origin e he with funding | ⟨a, _, lock | exit⟩
      · exact absurd (funding.target.symm.trans named.1.2) (by decide)
      · exact absurd (lock.target.symm.trans named.1.2) (by decide)
      · simp [exit.source, named.1.1]
  missed := by
    intro pos miss enough
    refine List.eq_nil_iff_forall_not_mem.mpr fun e he => ?_
    have exit := st.good.exit_of_mem st.mem he
    obtain ⟨stored, hit⟩ := List.mem_filter.mp he
    simp only [Bool.and_eq_true, decide_eq_true_eq] at hit
    rcases exit.target with sink | back
    · rw [alreadySettled, Bool.or_eq_false_iff, List.any_eq_false, List.any_eq_false] at miss
      exact miss.2 e stored (by simp [hit.2, sink, exit.amount])
    · exact agrees (back ▸ opposing_row st he pos enough)

theorem unopposed_release (hex : HexDigests h) (st : Stored h entries w op)
    (agrees : ¬ Contradicted w op.id externalSink) :
    Unopposed entries op (alreadyRefunded h op) (releaseTx h op) where
  own := by
    intro e he tx
    have exit := st.good.exit_of_tx hex st.mem he (tx ▸ releaseTx_own)
    exact List.ne_nil_of_mem (st.good.mem_exitsOf st.mem he exit)
  found := by
    intro pos hit
    rw [alreadyRefunded, Bool.or_eq_true, List.any_eq_true, List.any_eq_true] at hit
    rcases hit with ⟨e, he, own⟩ | ⟨e, he, named⟩
    · simp only [isOwnTransaction, Bool.and_eq_true, decide_eq_true_eq] at own
      have exit := st.good.exit_of_tx hex st.mem he (own.1.1.1 ▸ releaseTx_own)
      exact List.ne_nil_of_mem (st.good.mem_exitsOf st.mem he exit)
    · simp only [Bool.and_eq_true, decide_eq_true_eq] at named
      refine List.ne_nil_of_mem (List.mem_filter.mpr ⟨he, ?_⟩)
      simp [named.1.2, named.1.1.1]
  missed := by
    intro pos miss enough
    refine List.eq_nil_iff_forall_not_mem.mpr fun e he => ?_
    have exit := st.good.exit_of_mem st.mem he
    obtain ⟨stored, hit⟩ := List.mem_filter.mp he
    simp only [Bool.and_eq_true, decide_eq_true_eq] at hit
    rcases exit.target with sink | back
    · exact agrees (sink ▸ opposing_row st he pos enough)
    · rw [alreadyRefunded, Bool.or_eq_false_iff, List.any_eq_false, List.any_eq_false] at miss
      exact miss.2 e stored (by simp [hit.1, hit.2, back, exit.amount])

/-- A verdict leaves the one exit the operation was owed. -/
theorem safe_moveOnce (st : Stored h entries w op) (reconciling : op.state = .reconciling)
    {already : List LedgerEntry → Bool} {target memo txId : String}
    (clear : Unopposed entries op already txId)
    (route : target = externalSink ∨ target = treasury) (named : NamedFor op.id memo)
    (tx : OwnTx h op txId) :
    Safe h (fun _ w' => ∃ entries', Stored h entries' w' op ∧
      (0 < op.amount → (locksOf entries' op.id).length = 1 ∧ (exitsOf entries' op.id).length = 1))
      (moveOnce op already target memo txId) w := by
  rw [moveOnce]
  by_cases pos : 0 < op.amount
  · have status := st.status pos
    rw [reconciling] at status
    obtain ⟨locked, atMost⟩ := status
    have done : exitsOf entries op.id ≠ [] → ∃ entries', Stored h entries' w op ∧
        (0 < op.amount → (locksOf entries' op.id).length = 1 ∧
          (exitsOf entries' op.id).length = 1) := by
      intro left
      have := List.length_pos_iff.mpr left
      exact ⟨entries, st, fun _ => ⟨locked, by omega⟩⟩
    rw [if_pos pos]
    refine Keeps.perform st.inv fun _ read w' _ answer => ?_
    obtain ⟨rfl, rfl⟩ := Prod.mk.inj answer
    rw [getEntries_eq st.toHolds, ofExcept_ok, ret_bind]
    split_ifs with hit
    · exact done (clear.found pos hit)
    · refine Keeps.perform st.inv fun _ held w' _ answer => ?_
      obtain ⟨rfl, rfl⟩ := Prod.mk.inj answer
      rw [getBalance_eq st.toHolds]
      by_cases enough : (op.amount : Int) ≤ balance (postings entries) escrow
      · rw [if_neg (not_lt.mpr enough)]
        have none := clear.missed pos (by simpa using hit) enough
        have exitTx : ExitTx h op txId := .inr tx
        have isExit : ∀ e : LedgerEntry, e.fromAccount = escrow → e.toAccount = target →
            e.amount = op.amount → e.memo = memo → e.transactionId = txId → IsExit h op e :=
          fun e source goal amount text id =>
            ⟨source, goal.symm ▸ route, amount, text.symm ▸ named, id.symm ▸ exitTx⟩
        refine Keeps.bind (safe_transfer st escrow (by decide) (exitTx_ne_empty exitTx) ?_) ?_
        · intro e source goal amount text id
          have exit := isExit e source goal amount text id
          obtain ⟨locks, exits⟩ := length_exit st exit
          rw [reconciling, locks, exits, none]
          exact ⟨.inr exit, locked, by simp⟩
        · rintro (_ | e) w' answer
          · refine absurd ⟨by omega, ?_, ?_, enough⟩ answer.2
            · intro e he same
              exact clear.own e he same none
            · rcases route with rfl | rfl
              · decide
              · decide
          · obtain ⟨st', source, goal, amount, text, id⟩ := answer
            obtain ⟨locks, exits⟩ := length_exit st (isExit e source goal amount text id)
            refine Keeps.perform st'.inv fun _ _ w'' _ answer => ?_
            obtain ⟨_, rfl⟩ := Prod.mk.inj answer
            exact ⟨_, st', fun _ => ⟨by rw [locks]; exact locked, by rw [exits, none]; rfl⟩⟩
      · rw [if_pos (not_le.mp enough)]
        refine done fun none => enough ?_
        exact st.good.covers st.mem locked (List.length_eq_zero_iff.mpr none)
  · rw [if_neg pos]
    exact ⟨entries, st, fun positive => absurd positive pos⟩

theorem safe_markReconciled (st : Stored h entries w op) (reconciling : op.state = .reconciling)
    (counts : 0 < op.amount →
      (locksOf entries op.id).length = 1 ∧ (exitsOf entries op.id).length = 1)
    (errorMessage providerReference : Option String) :
    Safe h (fun _ w' => Inv h w') (markReconciled op errorMessage providerReference) w := by
  rw [markReconciled]
  refine Keeps.perform st.inv fun _ fresh w' _ answer => ?_
  obtain ⟨rfl, rfl⟩ := Prod.mk.inj answer
  rw [st.stored]
  dsimp only
  rw [if_neg (by simp [reconciling]), if_pos (by simp [reconciling])]
  exact (safe_transitionAndSave (s := .reconciled) st fun _ pos => counts pos).mono
    fun op' w' saved => saved.1.inv

theorem safe_queryStatus (inv : Inv h w) :
    Safe h (fun s w' => w = w' ∧
      (s.outcome = outcomeSuccess → ¬ Contradicted w op.id treasury) ∧
      (s.outcome = outcomeFailure → ¬ Contradicted w op.id externalSink)) (queryStatus op) w := by
  rw [queryStatus]
  have consistent : ∀ env s, Consistent h (.status op.id op.idempotencyKey none) w env →
      env.status = .ok s → (s.outcome = outcomeSuccess → ¬ Contradicted w op.id treasury) ∧
      (s.outcome = outcomeFailure → ¬ Contradicted w op.id externalSink) := by
    intro env s allowed said
    simpa only [Consistent, said] using allowed
  refine Keeps.perform inv fun env answered w' allowed answer => ?_
  obtain ⟨rfl, rfl⟩ := Prod.mk.inj answer
  cases said : env.status with
  | ok s =>
    dsimp only
    exact ⟨rfl, consistent env s allowed said⟩
  | error exc =>
    dsimp only
    split_ifs
    · refine Keeps.perform inv fun env again w' allowed answer => ?_
      obtain ⟨rfl, rfl⟩ := Prod.mk.inj answer
      exact Keeps.ofExcept (fun s said => ⟨rfl, consistent env s allowed said⟩) fun _ _ => inv
    · exact inv

theorem safe_applyStatus (hex : HexDigests h) (st : Stored h entries w op)
    (reconciling : op.state = .reconciling) {s : ProviderStatusResult}
    (success : s.outcome = outcomeSuccess → ¬ Contradicted w op.id treasury)
    (failure : s.outcome = outcomeFailure → ¬ Contradicted w op.id externalSink) :
    Safe h (fun _ w' => Inv h w') (applyStatus h op s) w := by
  rw [applyStatus]
  split_ifs with yes no
  · refine Keeps.bind (safe_moveOnce st reconciling (unopposed_settle hex st (success yes))
      (.inl rfl) (reconcileMemo_named op.id) settleTx_own) ?_
    rintro _ w' ⟨entries', st', counts⟩
    exact safe_markReconciled st' reconciling counts _ _
  · refine Keeps.bind (safe_moveOnce st reconciling (unopposed_release hex st (failure no))
      (.inr rfl) (releaseMemo_named op.id) releaseTx_own) ?_
    rintro _ w' ⟨entries', st', counts⟩
    exact safe_markReconciled st' reconciling counts _ _
  · refine (safe_transitionAndSave (s := .unknown) st fun _ pos => ?_).mono
      fun op' w' saved => saved.1.inv
    have status := st.status pos
    rw [reconciling] at status
    exact status

theorem safe_enterReconciling (st : Stored h entries w op)
    (unresolved : op.state = .unknown ∨ op.state = .reconciling ∨ op.state = .submitted) :
    Safe h (fun op' w' => Stored h entries w' op' ∧ op'.state = .reconciling)
      (enterReconciling op) w := by
  rw [enterReconciling]
  split_ifs with other
  · refine (safe_transitionAndSave (s := .reconciling) st fun _ pos => ?_).mono
      fun op' w' saved => ⟨saved.1, saved.2.1⟩
    have status := st.status pos
    rcases unresolved with s | s | s
    · rwa [s] at status
    · exact absurd s other
    · rwa [s] at status
  · exact ⟨st, not_not.mp other⟩

theorem safe_resolveOperation (hex : HexDigests h) (st : Stored h entries w op) :
    Safe h (fun _ w' => Inv h w') (resolveOperation h op) w := by
  rw [resolveOperation]
  split_ifs with ended excluded
  · exact st.inv
  · exact st.inv
  · have unresolved : op.state = .unknown ∨ op.state = .reconciling ∨ op.state = .submitted := by
      tauto
    refine Keeps.bind (safe_enterReconciling st unresolved) ?_
    rintro op' w' ⟨st', reconciling⟩
    refine Keeps.bind (safe_queryStatus st'.inv) ?_
    rintro s _ ⟨rfl, success, failure⟩
    exact safe_applyStatus hex st' reconciling success failure

theorem safe_reconcileOperation (hex : HexDigests h) (inv : Inv h w) (operationId : String)
    (org : Organisation) :
    Safe h (fun _ w' => Inv h w') (reconcileOperation h operationId org) w := by
  rw [reconcileOperation]
  refine Keeps.perform inv fun _ found w' _ answer => ?_
  obtain ⟨read, rfl⟩ := Prod.mk.inj answer
  cases found with
  | none => exact inv
  | some op =>
    dsimp only
    split_ifs
    · exact inv
    · obtain ⟨entries, held⟩ := inv
      exact safe_resolveOperation hex (stored_of_mem held (lookupBy_some read).1)

end ReconcilerSpecs
