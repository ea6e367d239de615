import KalyxMao.BlockchainProvider
import KalyxMao.ExactlyOnce
import KalyxMao.PurchaseReconciliation

/-!
# Purchase verdicts and the escrow they move

An entry belongs to a purchase by its transaction id. An unresolved purchase has
none, a reconciled one has exactly one, and escrow covers what is unresolved. A
call keeps this where no foreign memo is taken for the purchase's own, and it
settles a confirmed purchase where the answer carries the evidence.
-/

namespace PurchaseSettlement
open Bookkeeping PythonText PythonValues PythonConversions Ledger SqlLedgers LedgerEquivalence
open Domain EffectPrograms EffectPrograms.Prog KeyedLists EscrowNames PurchaseVerifier
open PurchaseReconciliation
open Consequential (find saveOperation saveOperation_keyed)
open ConsequentialOperation (SameTerms transitionTo_ok transitionTo_legal)

section Entries
variable {h : Hashing} {a b : ConsequentialOperation}

def OwnPurchaseTx (h : Hashing) (op : ConsequentialOperation) (t : String) : Prop :=
  t = purchaseTx h op ∨ t = purchaseRefundTx h op

instance (h : Hashing) (op : ConsequentialOperation) (t : String) :
    Decidable (OwnPurchaseTx h op t) :=
  inferInstanceAs (Decidable (_ ∨ _))

theorem ownPurchaseTx_congr {t : String} (same : a.id = b.id) :
    OwnPurchaseTx h a t ↔ OwnPurchaseTx h b t := by
  unfold OwnPurchaseTx purchaseTx purchaseRefundTx
  rw [same]

theorem purchaseTx_ne_refund : purchaseTx h a ≠ purchaseRefundTx h b :=
  ne_of_starts _ _ 1 (by decide) (by decide) (by decide)

theorem ownPurchaseTx_ne_empty {t : String} (own : OwnPurchaseTx h a t) : t ≠ "" := by
  rcases own with rfl | rfl
  · exact append_ne_empty _ (by decide)
  · exact append_ne_empty _ (by decide)

/-- Two purchases share a transaction id only if they share a digest. -/
theorem ownPurchaseTx_inj {t : String} (own : OwnPurchaseTx h a t) (other : OwnPurchaseTx h b t) :
    h.short a.id = h.short b.id := by
  rcases own with rfl | rfl
  · rcases other with same | same
    · exact (String.append_right_inj _).mp same
    · exact absurd same purchaseTx_ne_refund
  · rcases other with same | same
    · exact absurd same.symm purchaseTx_ne_refund
    · exact (String.append_right_inj _).mp same

/-- The entries of a purchase that take its amount out of escrow. -/
def ownExits (h : Hashing) (entries : List LedgerEntry) (op : ConsequentialOperation) :
    List LedgerEntry :=
  entries.filter fun e => e.fromAccount = escrow ∧ e.amount = op.amount ∧
    OwnPurchaseTx h op e.transactionId

def Unresolved (s : OperationState) : Prop := s = .unknown ∨ s = .reconciling ∨ s = .submitted

instance (s : OperationState) : Decidable (Unresolved s) := inferInstanceAs (Decidable (_ ∨ _))

def due (op : ConsequentialOperation) : Int := if Unresolved op.state then op.amount else 0

/-- Unresolved purchases are untouched and covered, reconciled ones have left once. -/
structure Accounted (h : Hashing) (entries : List LedgerEntry)
    (ops : List ConsequentialOperation) : Prop where
  ids : (ops.map (·.id)).Nodup
  keys : (ops.map (·.idempotencyKey)).Nodup
  digests : ∀ a ∈ ops, ∀ b ∈ ops, h.short a.id = h.short b.id → a.id = b.id
  unsettled : ∀ o ∈ ops, o.state ≠ .reconciled → ∀ e ∈ entries, ¬OwnPurchaseTx h o e.transactionId
  settled : ∀ o ∈ ops, o.state = .reconciled → 0 < o.amount → (ownExits h entries o).length = 1
  covered : (ops.map due).sum ≤ balance (postings entries) escrow

theorem ownExits_sameTerms (entries : List LedgerEntry) (same : SameTerms a b) :
    ownExits h entries a = ownExits h entries b := by
  refine List.filter_congr fun e _ => decide_eq_decide.mpr ?_
  rw [same.amount, ownPurchaseTx_congr same.id]

theorem ownExits_concat (entries : List LedgerEntry) (e : LedgerEntry) :
    ownExits h (entries ++ [e]) a = ownExits h entries a ++
      if e.fromAccount = escrow ∧ e.amount = a.amount ∧ OwnPurchaseTx h a e.transactionId then [e]
      else [] := by
  rw [ownExits, List.filter_append]
  congr 1
  split_ifs with own
  · simp [own]
  · simp [own]

theorem due_nonneg (op : ConsequentialOperation) : 0 ≤ due op := by
  rw [due]
  split_ifs
  · exact Int.natCast_nonneg _
  · exact le_refl 0

end Entries

section Keeping
variable {h : Hashing} {entries : List LedgerEntry} {ops : List ConsequentialOperation}
variable {op op' : ConsequentialOperation}

namespace Accounted

theorem none_own (acc : Accounted h entries ops) {o : ConsequentialOperation} (mem : o ∈ ops)
    (state : o.state ≠ .reconciled) : ownExits h entries o = [] := by
  refine List.filter_eq_nil_iff.mpr fun e he own => ?_
  exact acc.unsettled o mem state e he (of_decide_eq_true own).2.2

theorem atMostOnce (acc : Accounted h entries ops) {o : ConsequentialOperation} (mem : o ∈ ops) :
    (ownExits h entries o).length ≤ 1 := by
  by_cases state : o.state = .reconciled
  · by_cases pos : 0 < o.amount
    · exact (acc.settled o mem state pos).le
    · have none : ownExits h entries o = [] := by
        refine List.filter_eq_nil_iff.mpr fun e _ own => ?_
        have amount := (of_decide_eq_true own).2.1
        have := e.amount_pos
        omega
      simp [none]
  · simp [acc.none_own mem state]

theorem covers (acc : Accounted h entries ops) (mem : op ∈ ops) (state : Unresolved op.state) :
    (op.amount : Int) ≤ balance (postings entries) escrow := by
  have own : due op = op.amount := if_pos state
  refine le_trans ?_ acc.covered
  rw [← own]
  refine List.single_le_sum (fun x hx => ?_) _ (List.mem_map_of_mem mem)
  obtain ⟨a, _, rfl⟩ := List.mem_map.mp hx
  exact due_nonneg a

theorem eq_of_id (acc : Accounted h entries ops) {a b : ConsequentialOperation} (ha : a ∈ ops)
    (hb : b ∈ ops) (same : a.id = b.id) : a = b :=
  eq_of_key acc.ids ha hb same

theorem keys_replace (acc : Accounted h entries ops) (mem : op ∈ ops) (same : SameTerms op' op) :
    (replaceBy ConsequentialOperation.id ops op').map (·.idempotencyKey) =
      ops.map (·.idempotencyKey) := by
  rw [replaceBy, List.map_map]
  refine List.map_congr_left fun b hb => ?_
  by_cases own : b.id = op'.id
  · have : b = op := acc.eq_of_id hb mem (own.trans same.id)
    show (if b.id = op'.id then op' else b).idempotencyKey = b.idempotencyKey
    rw [if_pos own, same.idempotencyKey, this]
  · simp [own]

theorem digests_replace (acc : Accounted h entries ops) (mem : op ∈ ops) (same : SameTerms op' op) :
    ∀ a ∈ replaceBy ConsequentialOperation.id ops op',
      ∀ b ∈ replaceBy ConsequentialOperation.id ops op', h.short a.id = h.short b.id →
        a.id = b.id := by
  have kept : ∀ a ∈ replaceBy ConsequentialOperation.id ops op', ∃ b ∈ ops, b.id = a.id := by
    intro a ha
    rcases mem_replaceBy ha with rfl | ⟨old, _⟩
    · exact ⟨op, mem, same.id.symm⟩
    · exact ⟨a, old, rfl⟩
  intro a ha b hb digest
  obtain ⟨a', ha', ea⟩ := kept a ha
  obtain ⟨b', hb', eb⟩ := kept b hb
  rw [← ea, ← eb] at digest ⊢
  exact acc.digests a' ha' b' hb' digest

end Accounted

/-- What a verdict does to the entries: nothing for a zero amount, else one exit. -/
def Leaves (op : ConsequentialOperation) (target txId : String)
    (entries entries' : List LedgerEntry) : Prop :=
  (op.amount = 0 ∧ entries' = entries) ∨ ∃ e : LedgerEntry, entries' = entries ++ [e] ∧
    e.fromAccount = escrow ∧ e.toAccount = target ∧ e.amount = op.amount ∧ e.transactionId = txId

/-- The purchase is reconciled, under one target and transaction id. -/
def Gone (entries : List LedgerEntry) (s : Desk) (op : ConsequentialOperation)
    (target txId : String) (s' : Desk) : Prop :=
  ∃ op' entries', SameTerms op' op ∧ op'.state = .reconciled ∧
    Leaves op target txId entries entries' ∧ s'.ledger = sqliteOf entries' ∧
    s'.operations = replaceBy ConsequentialOperation.id s.operations op'

def Paid (h : Hashing) (entries : List LedgerEntry) (s : Desk) (op : ConsequentialOperation)
    (s' : Desk) : Prop :=
  Gone entries s op externalSink (purchaseTx h op) s'

def Refunded (h : Hashing) (entries : List LedgerEntry) (s : Desk) (op : ConsequentialOperation)
    (s' : Desk) : Prop :=
  Gone entries s op treasury (purchaseRefundTx h op) s'

def Waits (s : Desk) (op : ConsequentialOperation) (s' : Desk) : Prop :=
  ∃ op', SameTerms op' op ∧ Unresolved op'.state ∧ s'.ledger = s.ledger ∧
    s'.operations = replaceBy ConsequentialOperation.id s.operations op'

/-- What a call makes of an unresolved purchase. -/
def Effect (h : Hashing) (entries : List LedgerEntry) (s : Desk) (op : ConsequentialOperation)
    (s' : Desk) : Prop :=
  Waits s op s' ∨ Paid h entries s op s' ∨ Refunded h entries s op s'

namespace Accounted

theorem unresolved_ne {s : OperationState} (state : Unresolved s) : s ≠ .reconciled := by
  rintro rfl
  revert state
  decide

theorem wait (acc : Accounted h entries ops) (mem : op ∈ ops) (before : Unresolved op.state)
    (same : SameTerms op' op) (state : Unresolved op'.state) :
    Accounted h entries (replaceBy ConsequentialOperation.id ops op') where
  ids := by
    rw [map_key_replaceBy]
    exact acc.ids
  keys := by
    rw [acc.keys_replace mem same]
    exact acc.keys
  digests := acc.digests_replace mem same
  unsettled := by
    intro o ho notReconciled e he
    rcases mem_replaceBy ho with rfl | ⟨old, _⟩
    · rw [ownPurchaseTx_congr same.id]
      exact acc.unsettled op mem (unresolved_ne before) e he
    · exact acc.unsettled o old notReconciled e he
  settled := by
    intro o ho reconciled pos
    rcases mem_replaceBy ho with rfl | ⟨old, _⟩
    · exact absurd reconciled (unresolved_ne state)
    · exact acc.settled o old reconciled pos
  covered := by
    refine le_trans (le_of_eq ?_) acc.covered
    refine sum_map_replaceBy due fun b hb own => ?_
    have : b = op := acc.eq_of_id hb mem (own.trans same.id)
    rw [this, due, due, if_pos before, if_pos state, same.amount]

/-- The sum of what is due without one purchase that is no longer unresolved. -/
theorem due_replace (acc : Accounted h entries ops) (mem : op ∈ ops) (before : Unresolved op.state)
    (same : SameTerms op' op) (state : op'.state = .reconciled) :
    ((replaceBy ConsequentialOperation.id ops op').map due).sum = (ops.map due).sum - op.amount := by
  have paid : due op' = 0 := by
    rw [due, state]
    rfl
  have owed : due op = op.amount := if_pos before
  have one := sum_map_ite_key ConsequentialOperation.id due acc.ids mem
  have split : (ops.map due).sum =
      (ops.map fun b => (if b.id = op'.id then due op' else due b) +
        if b.id = op.id then due b else 0).sum := by
    refine congrArg List.sum (List.map_congr_left fun b _ => ?_)
    by_cases own : b.id = op.id
    · simp [own, same.id, paid]
    · simp [own, same.id]
  have moved : ((replaceBy ConsequentialOperation.id ops op').map due).sum =
      (ops.map fun b => if b.id = op'.id then due op' else due b).sum := by
    rw [replaceBy, List.map_map]
    refine congrArg List.sum (List.map_congr_left fun b _ => ?_)
    exact apply_ite due _ _ _
  rw [moved, split, List.sum_map_add, one, owed, add_sub_cancel_right]

theorem leave (acc : Accounted h entries ops) (mem : op ∈ ops) (before : Unresolved op.state)
    (same : SameTerms op' op) (state : op'.state = .reconciled) {target txId : String}
    {entries' : List LedgerEntry} (own : OwnPurchaseTx h op txId) (route : target ≠ escrow)
    (exits : Leaves op target txId entries entries') :
    Accounted h entries' (replaceBy ConsequentialOperation.id ops op') where
  ids := by
    rw [map_key_replaceBy]
    exact acc.ids
  keys := by
    rw [acc.keys_replace mem same]
    exact acc.keys
  digests := acc.digests_replace mem same
  unsettled := by
    intro o ho notReconciled f hf
    rcases mem_replaceBy ho with rfl | ⟨old, other⟩
    · exact absurd state notReconciled
    · rcases exits with ⟨_, rfl⟩ | ⟨e, rfl, _, _, _, tx⟩
      · exact acc.unsettled o old notReconciled f hf
      · rcases List.mem_append.mp hf with was | new
        · exact acc.unsettled o old notReconciled f was
        · intro shared
          rw [List.mem_singleton.mp new, tx] at shared
          exact other ((acc.digests o old op mem (ownPurchaseTx_inj shared own)).trans same.id.symm)
  settled := by
    intro o ho reconciled pos
    rcases mem_replaceBy ho with rfl | ⟨old, other⟩
    · rw [ownExits_sameTerms _ same]
      rcases exits with ⟨zero, _⟩ | ⟨e, rfl, source, _, amount, tx⟩
      · rw [same.amount] at pos
        omega
      · rw [ownExits_concat, acc.none_own mem (unresolved_ne before),
          if_pos ⟨source, amount, tx.symm ▸ own⟩]
        rfl
    · rcases exits with ⟨_, rfl⟩ | ⟨e, rfl, _, _, _, tx⟩
      · exact acc.settled o old reconciled pos
      · have foreign : ¬OwnPurchaseTx h o e.transactionId := by
          intro shared
          rw [tx] at shared
          exact other ((acc.digests o old op mem (ownPurchaseTx_inj shared own)).trans same.id.symm)
        rw [ownExits_concat, if_neg fun all => foreign all.2.2, List.append_nil]
        exact acc.settled o old reconciled pos
  covered := by
    rw [acc.due_replace mem before same state]
    have owed := acc.covered
    rcases exits with ⟨zero, rfl⟩ | ⟨e, rfl, source, goal, amount, _⟩
    · omega
    · rw [balance_postings_concat, source, goal, if_neg route, if_pos rfl, amount]
      omega

end Accounted

/-- The entries of a desk, and the purchases they account for. -/
structure Kept (h : Hashing) (entries : List LedgerEntry) (s : Desk) : Prop where
  ledger : s.ledger = sqliteOf entries
  acc : Accounted h entries s.operations

/-- The entries of a later desk are the old ones and the purchase's own. -/
def Grows (h : Hashing) (entries : List LedgerEntry) (op : ConsequentialOperation)
    (entries' : List LedgerEntry) : Prop :=
  ∀ e ∈ entries', e ∈ entries ∨ OwnPurchaseTx h op e.transactionId

theorem Leaves.grows {target txId : String} {entries' : List LedgerEntry}
    (own : OwnPurchaseTx h op txId) (exits : Leaves op target txId entries entries') :
    Grows h entries op entries' := by
  intro e he
  rcases exits with ⟨_, rfl⟩ | ⟨f, rfl, _, _, _, tx⟩
  · exact .inl he
  · rcases List.mem_append.mp he with old | new
    · exact .inl old
    · rw [List.mem_singleton.mp new, tx]
      exact .inr own

theorem Kept.gone {s s' : Desk} (kept : Kept h entries s)
    (stored : find s.operations op.id = some op) (before : Unresolved op.state)
    {target txId : String} (own : OwnPurchaseTx h op txId) (route : target ≠ escrow)
    (gone : Gone entries s op target txId s') :
    ∃ entries', Kept h entries' s' ∧ Grows h entries op entries' := by
  obtain ⟨op', entries', same, state, exits, ledger, operations⟩ := gone
  refine ⟨entries', ⟨ledger, ?_⟩, exits.grows own⟩
  rw [operations]
  exact kept.acc.leave (lookupBy_some stored).1 before same state own route exits

theorem Kept.effect {s s' : Desk} (kept : Kept h entries s)
    (stored : find s.operations op.id = some op) (before : Unresolved op.state)
    (effect : Effect h entries s op s') :
    ∃ entries', Kept h entries' s' ∧ Grows h entries op entries' := by
  rcases effect with ⟨op', same, state, ledger, operations⟩ | paid | refunded
  · refine ⟨entries, ⟨ledger.trans kept.ledger, ?_⟩, fun e he => .inl he⟩
    rw [operations]
    exact kept.acc.wait (lookupBy_some stored).1 before same state
  · exact kept.gone stored before (.inl rfl) (by decide) paid
  · exact kept.gone stored before (.inr rfl) (by decide) refunded

/-- Other records stay as they are. -/
theorem Effect.frame {s s' : Desk} (effect : Effect h entries s op s') {o : ConsequentialOperation}
    (mem : o ∈ s.operations) (other : o.id ≠ op.id) : o ∈ s'.operations := by
  have kept : ∀ op' : ConsequentialOperation, SameTerms op' op →
      s'.operations = replaceBy ConsequentialOperation.id s.operations op' →
      o ∈ s'.operations := by
    intro op' same operations
    rw [operations]
    exact mem_replaceBy_ne mem fun e => other (e.trans same.id)
  rcases effect with ⟨op', same, _, _, operations⟩ | ⟨op', _, same, _, _, _, operations⟩ |
    ⟨op', _, same, _, _, _, operations⟩
  · exact kept op' same operations
  · exact kept op' same operations
  · exact kept op' same operations

/-- A reconciled purchase none of whose entries went back to the treasury. -/
def Sealed (h : Hashing) (entries : List LedgerEntry) (s : Desk) (id : String) : Prop :=
  ∃ o ∈ s.operations, o.id = id ∧ o.state = .reconciled ∧
    ∀ e ∈ entries, OwnPurchaseTx h o e.transactionId → e.toAccount ≠ treasury

theorem Kept.sealed_effect {s s' : Desk} (kept : Kept h entries s)
    (stored : find s.operations op.id = some op) (before : Unresolved op.state)
    (effect : Effect h entries s op s') {id : String} (sealed_ : Sealed h entries s id) :
    ∃ entries', Kept h entries' s' ∧ Sealed h entries' s' id := by
  have memOp := (lookupBy_some stored).1
  obtain ⟨o, mem, rfl, state, clean⟩ := sealed_
  have other : o.id ≠ op.id := by
    intro same
    have : o = op := kept.acc.eq_of_id mem memOp same
    exact Accounted.unresolved_ne before (this ▸ state)
  obtain ⟨entries', kept', grows⟩ := kept.effect stored before effect
  refine ⟨entries', kept', o, effect.frame mem other, rfl, state, fun e he own => ?_⟩
  rcases grows e he with old | foreign
  · exact clean e old own
  · exact absurd (kept.acc.digests o mem op memOp (ownPurchaseTx_inj own foreign)) other

theorem Kept.sealed_paid {s s' : Desk} (kept : Kept h entries s)
    (stored : find s.operations op.id = some op) (before : Unresolved op.state)
    (paid : Paid h entries s op s') : ∃ entries', Kept h entries' s' ∧ Sealed h entries' s' op.id := by
  have mem := (lookupBy_some stored).1
  obtain ⟨op', entries', same, state, exits, ledger, operations⟩ := paid
  refine ⟨entries', ⟨ledger, ?_⟩, op', ?_, same.id, state, fun e he own => ?_⟩
  · rw [operations]
    exact kept.acc.leave mem before same state (.inl rfl) (by decide) exits
  · rw [operations]
    exact mem_replaceBy_self mem same.id.symm
  · have unused := kept.acc.unsettled op mem (Accounted.unresolved_ne before)
    rw [ownPurchaseTx_congr same.id] at own
    rcases exits with ⟨_, rfl⟩ | ⟨f, rfl, _, goal, _, _⟩
    · exact absurd own (unused e he)
    · rcases List.mem_append.mp he with old | new
      · exact absurd own (unused e old)
      · rw [List.mem_singleton.mp new, goal]
        decide

end Keeping

section Calls
variable {h : Hashing} {t : TextRules} {entries : List LedgerEntry} {s : Desk}
variable {op op' : ConsequentialOperation} {input : Input}

/-- A program run to its end on one input. -/
abbrev Ends (input : Input) {α : Type} (Q : α → Desk → Prop) (X : PyError → Desk → Prop)
    (p : Action α) (s : Desk) : Prop :=
  Keeps respond (fun _ _ i => i = input) (fun _ => True) Q X p s

/-- What the provider says in the end: asked again without the reference after a `TypeError`. -/
def answered (input : Input) : Except PyError ProviderStatusResult :=
  match input.answer with
  | .ok status => .ok status
  | .error exc => if exc.kind = .typeError then input.retried else .error exc

theorem moveOnce_leaves (held : s.ledger = sqliteOf entries) {already : LedgerEntry → Bool}
    {target memo txId : String} (unseen : 0 < op.amount → ∀ e ∈ entries, already e = false)
    (unused : ∀ e ∈ entries, e.transactionId ≠ txId)
    (covered : (op.amount : Int) ≤ balance (postings entries) escrow) (route : escrow ≠ target)
    (named : txId ≠ "") (newRow : ∀ e ∈ entries, e.id ≠ input.draw.entryId) :
    Ends input (fun _ s' => ∃ entries', s' = { s with ledger := sqliteOf entries' } ∧
        Leaves op target txId entries entries') (fun _ _ => False)
      (moveOnce op already target memo txId) s := by
  rw [moveOnce]
  by_cases pos : 0 < op.amount
  · rw [if_pos pos]
    refine Keeps.perform trivial fun _ read s' _ answer => ?_
    obtain ⟨rfl, rfl⟩ := Prod.mk.inj answer
    have listed : s.ledger.getEntries none = .ok entries := by
      rw [held]
      exact readEntries_entryRows defaultTenant entries
    have none : entries.any already = false := by
      refine List.any_eq_false.mpr fun e he => ?_
      rw [unseen pos e he]
      exact Bool.false_ne_true
    rw [listed, ofExcept_ok, ret_bind, none, if_neg Bool.false_ne_true]
    refine Keeps.perform trivial fun _ held_ s' _ answer => ?_
    obtain ⟨rfl, rfl⟩ := Prod.mk.inj answer
    have balance_ : (sqliteOf entries).getBalance escrow = balance (postings entries) escrow :=
      balanceOf_entryRows defaultTenant entries escrow
    have enough : ¬ s.ledger.getBalance escrow < op.amount := by
      rw [held, balance_]
      exact not_lt.mpr covered
    rw [if_neg enough]
    refine Keeps.perform trivial fun i moved s' same answer => ?_
    subst same
    simp only [respond, held] at answer
    have mint : escrow ≠ systemMint := by decide
    rcases transfer_cases target memo op.amount newRow mint named with
      ⟨err, _, why⟩ | ⟨e, taken, source, goal, amount, _, tx⟩
    · exact absurd ⟨by omega, unused, route, covered⟩ why
    · rw [taken] at answer
      obtain ⟨rfl, rfl⟩ := Prod.mk.inj answer
      refine Keeps.perform trivial fun _ _ s' _ answer => ?_
      obtain ⟨_, rfl⟩ := Prod.mk.inj answer
      exact ⟨_, rfl, .inr ⟨e, rfl, source, goal, amount, tx⟩⟩
  · rw [if_neg pos]
    refine ⟨entries, ?_, .inl ⟨by omega, rfl⟩⟩
    rw [← held]

theorem transitionAndSave_ends (stored : find s.operations op.id = some op)
    (keys : (s.operations.map (·.idempotencyKey)).Nodup) {state : OperationState}
    (legal : state ∈ validTransitions op.state) (errorMessage providerReference : Option String) :
    Ends input (fun op' s' => SameTerms op' op ∧ op'.state = state ∧
        s' = { s with operations := replaceBy ConsequentialOperation.id s.operations op' })
      (fun _ _ => False) (transitionAndSave op state errorMessage providerReference) s := by
  obtain ⟨op', moved, reached, same⟩ := transitionTo_legal op legal errorMessage providerReference
  have found : find s.operations op'.id = some op := same.id.symm ▸ stored
  rw [transitionAndSave, moved, ofExcept_ok, ret_bind]
  refine Keeps.bind (Q := fun _ s' => s' =
    { s with operations := replaceBy ConsequentialOperation.id s.operations op' })
    (Keeps.perform trivial fun _ saved s' _ done => ?_) ?_
  · simp only [respond, saveOperation_keyed found keys same.idempotencyKey] at done
    obtain ⟨rfl, rfl⟩ := Prod.mk.inj done
    exact rfl
  · rintro _ s' rfl
    exact ⟨same, reached, rfl⟩

/-- The record is stored as RECONCILING, whatever unresolved state it came from. -/
theorem enterReconciling_ends (kept : Kept h entries s)
    (stored : find s.operations op.id = some op) (before : Unresolved op.state) :
    Ends input (fun op' s' => SameTerms op' op ∧ op'.state = .reconciling ∧
        s' = { s with operations := replaceBy ConsequentialOperation.id s.operations op' })
      (fun _ _ => False) (enterReconciling op) s := by
  rw [enterReconciling]
  split_ifs with other
  · refine transitionAndSave_ends stored kept.acc.keys ?_ none none
    rcases before with state | state | state
    · rw [state]
      decide
    · exact absurd state other
    · rw [state]
      decide
  · refine ⟨.refl op, not_not.mp other, ?_⟩
    rw [replaceBy_of_mem kept.acc.ids (lookupBy_some stored).1]

theorem queryStatus_ends :
    Ends input (fun status s' => s' = s ∧ answered input = .ok status)
      (fun err s' => s' = s ∧ answered input = .error err) (queryStatus op) s := by
  refine Keeps.perform trivial fun i said s' same answer => ?_
  subst same
  obtain ⟨rfl, rfl⟩ := Prod.mk.inj answer
  rw [answered]
  cases i.answer with
  | ok status => exact ⟨rfl, rfl⟩
  | error exc =>
    dsimp only
    split_ifs
    · refine Keeps.perform trivial fun j said s' same again => ?_
      subst same
      obtain ⟨rfl, rfl⟩ := Prod.mk.inj again
      exact Keeps.ofExcept (fun _ ok => ⟨rfl, ok⟩) fun _ err => ⟨rfl, err⟩
    · exact ⟨rfl, rfl⟩

theorem verifyAnswer_ends (intent : OrbioPurchaseIntent) (status : ProviderStatusResult) :
    Ends input (fun report s' => ∃ verified, s' = { s with verified } ∧
        verifyStatus h t s.verified intent status (some op) = .ok (report, verified))
      (fun err s' => s' = s ∧
        verifyStatus h t s.verified intent status (some op) = .error err)
      (verifyAnswer h t intent status op) s := by
  refine Keeps.perform trivial fun _ memory s' _ answer => ?_
  obtain ⟨rfl, rfl⟩ := Prod.mk.inj answer
  refine Keeps.bind (Q := fun judged s' => s' = s ∧
    verifyStatus h t s.verified intent status (some op) = .ok judged)
    (Keeps.ofExcept (fun _ ok => ⟨rfl, ok⟩) fun _ err => ⟨rfl, err⟩) ?_
  rintro judged s' ⟨rfl, ok⟩
  refine Keeps.perform trivial fun _ _ s'' _ answer => ?_
  obtain ⟨_, rfl⟩ := Prod.mk.inj answer
  exact ⟨judged.2, rfl, ok⟩

/-- No entry in the ledger would be taken for the purchase's settlement or refund. -/
def Unnamed (s : Desk) (op : ConsequentialOperation) : Prop :=
  0 < op.amount → ∀ r ∈ s.ledger.rows, isIn op.id r.memo = true →
    r.toAccount ≠ externalSink ∧ ¬(r.fromAccount = escrow ∧ r.toAccount = treasury)

instance (s : Desk) (op : ConsequentialOperation) : Decidable (Unnamed s op) :=
  inferInstanceAs (Decidable (_ → _))

theorem unseen (kept : Kept h entries s) (unnamed : Unnamed s op) (same : SameTerms op' op)
    (pos : 0 < op'.amount) : ∀ e ∈ entries, isSettlementOf op' e = false ∧ isRefundOf op' e = false := by
  intro e he
  have row : entryRow defaultTenant e ∈ s.ledger.rows := by
    rw [kept.ledger]
    exact List.mem_map_of_mem he
  rw [isSettlementOf, isRefundOf, same.id]
  cases named : isIn op.id e.memo with
  | false => exact ⟨rfl, rfl⟩
  | true =>
    obtain ⟨notSink, notBack⟩ := unnamed (same.amount ▸ pos) _ row named
    constructor
    · exact decide_eq_false notSink
    · have notBack' : ¬(e.toAccount = treasury ∧ e.fromAccount = escrow) := fun both =>
        notBack both.symm
      simpa using notBack'

/-- Between entering RECONCILING and the verdict: the record alone has changed. -/
structure Reached (s : Desk) (op op' : ConsequentialOperation) (s' : Desk) : Prop where
  same : SameTerms op' op
  state : op'.state = .reconciling
  ledger : s'.ledger = s.ledger
  operations : s'.operations = replaceBy ConsequentialOperation.id s.operations op'

theorem moveOnce_finish_ends (kept : Kept h entries s) (stored : find s.operations op.id = some op)
    (before : Unresolved op.state) {s' : Desk} (reached : Reached s op op' s')
    (newRow : ∀ e ∈ entries, e.id ≠ input.draw.entryId) {already : LedgerEntry → Bool}
    {target memo txId : String} (unseen : 0 < op'.amount → ∀ e ∈ entries, already e = false)
    (own : OwnPurchaseTx h op txId) (route : escrow ≠ target)
    (errorMessage providerReference : Option String) :
    Ends input (fun _ s'' => Gone entries s op target txId s'') (fun _ _ => False)
      (do
        moveOnce op' already target memo txId
        finish op' errorMessage providerReference) s' := by
  obtain ⟨same, state, ledger, operations⟩ := reached
  have mem := (lookupBy_some stored).1
  have unused : ∀ e ∈ entries, e.transactionId ≠ txId := fun e he tx =>
    kept.acc.unsettled op mem (Accounted.unresolved_ne before) e he (tx.symm ▸ own)
  have covered : (op'.amount : Int) ≤ balance (postings entries) escrow :=
    same.amount.symm ▸ kept.acc.covers mem before
  refine Keeps.bind (moveOnce_leaves (ledger.trans kept.ledger) unseen unused covered route
    (ownPurchaseTx_ne_empty own) newRow) ?_
  rintro _ _ ⟨entries', rfl, exits⟩
  have found : find s'.operations op'.id = some op' := by
    rw [operations]
    exact lookupBy_replaceBy_self kept.acc.ids mem same.id.symm
  have keys : (s'.operations.map (·.idempotencyKey)).Nodup := by
    rw [operations, kept.acc.keys_replace mem same]
    exact kept.acc.keys
  have legal : OperationState.reconciled ∈ validTransitions op'.state := by
    rw [state]
    decide
  have open_ : op'.state ≠ .reconciled := by
    rw [state]
    decide
  rw [finish, if_pos open_]
  refine Keeps.mono (transitionAndSave_ends (s := { s' with ledger := sqliteOf entries' }) found keys
    legal errorMessage providerReference) ?_
  rintro op'' _ ⟨same', ended, rfl⟩
  have exits' : Leaves op target txId entries entries' := by
    rw [Leaves, same.amount] at exits
    exact exits
  refine ⟨op'', entries', same'.trans same, ended, exits', rfl, ?_⟩
  show replaceBy _ s'.operations op'' = _
  rw [operations, replaceBy_replaceBy same'.id.symm]

/-- The answer is a success that carries the evidence. -/
def Confirmed (h : Hashing) (t : TextRules) (s : Desk) (intent : OrbioPurchaseIntent)
    (op : ConsequentialOperation) (input : Input) : Prop :=
  ∃ status, answered input = .ok status ∧ status.outcome = outcomeSuccess ∧
    Evidenced h t s.verified intent status op

theorem resolvePurchase_ends (kept : Kept h entries s) (stored : find s.operations op.id = some op)
    (before : Unresolved op.state) (newRow : ∀ e ∈ entries, e.id ≠ input.draw.entryId)
    (unnamed : Unnamed s op) (intent : OrbioPurchaseIntent) :
    Ends input (fun _ s' => Effect h entries s op s' ∧
        (Confirmed h t s intent op input → Paid h entries s op s'))
      (fun _ s' => Effect h entries s op s' ∧ ¬Confirmed h t s intent op input)
      (resolvePurchase h t op intent) s := by
  have mem := (lookupBy_some stored).1
  -- the call stops in RECONCILING: a waiting purchase
  have stops : ∀ op' s', Reached s op op' s' → Effect h entries s op s' :=
    fun op' s' r => .inl ⟨op', r.same, .inr (.inl r.state), r.ledger, r.operations⟩
  refine Keeps.bind (Keeps.weaken (enterReconciling_ends kept stored before) ?_) ?_
  · intro _ _ impossible
    exact impossible.elim
  rintro op' s' ⟨same, state, rfl⟩
  have reached : Reached s op op'
      { s with operations := replaceBy ConsequentialOperation.id s.operations op' } :=
    ⟨same, state, rfl, rfl⟩
  refine Keeps.bind (Keeps.weaken queryStatus_ends ?_) ?_
  · rintro err _ ⟨rfl, silent⟩
    refine ⟨stops op' _ reached, ?_⟩
    rintro ⟨status, said, _⟩
    rw [silent] at said
    cases said
  rintro status s'' ⟨rfl, said⟩
  have verdict : Confirmed h t s intent op input → ∃ report verified',
      verifyStatus h t s.verified intent status (some op) = .ok (report, verified') ∧
        report.result = .verified := by
    rintro ⟨status', said', success, evidenced⟩
    obtain rfl := Except.ok.inj (said.symm.trans said')
    exact verifyStatus_verified success evidenced
  refine Keeps.bind (Keeps.weaken (verifyAnswer_ends intent status) ?_) ?_
  · rintro err _ ⟨rfl, failed⟩
    refine ⟨stops op' _ reached, fun confirmed => ?_⟩
    obtain ⟨_, _, judged, _⟩ := verdict confirmed
    rw [verifyStatus_sameTerms _ _ same] at failed
    rw [failed] at judged
    cases judged
  rintro report s'' ⟨verified, rfl, judged⟩
  rw [verifyStatus_sameTerms _ _ same] at judged
  have otherwise : report.result ≠ .verified → ¬Confirmed h t s intent op input := by
    intro other confirmed
    obtain ⟨_, _, judged', accepted⟩ := verdict confirmed
    obtain ⟨rfl, rfl⟩ := Prod.mk.inj (Except.ok.inj (judged.symm.trans judged'))
    exact other accepted
  have reached : Reached s op op'
      { s with
        operations := replaceBy ConsequentialOperation.id s.operations op'
        verified } :=
    ⟨same, state, rfl, rfl⟩
  cases result : report.result with
  | verified =>
    have tx : purchaseTx h op' = purchaseTx h op := by
      unfold purchaseTx
      rw [same.id]
    rw [settleSuccess, tx]
    refine Keeps.bind (Keeps.weaken (moveOnce_finish_ends kept stored before reached newRow
      (fun pos e he => (unseen kept unnamed same pos e he).1) (.inl rfl) (by decide) _ _) ?_) ?_
    · intro _ _ impossible
      exact impossible.elim
    · intro _ _ paid
      exact ⟨.inr (.inl paid), fun _ => paid⟩
  | rejected =>
    have tx : purchaseRefundTx h op' = purchaseRefundTx h op := by
      unfold purchaseRefundTx
      rw [same.id]
    rw [settleFailure, tx]
    refine Keeps.bind (Keeps.weaken (moveOnce_finish_ends kept stored before reached newRow
      (fun pos e he => (unseen kept unnamed same pos e he).2) (.inr rfl) (by decide) _ _) ?_) ?_
    · intro _ _ impossible
      exact impossible.elim
    · intro _ _ refunded
      exact ⟨.inr (.inr refunded), fun confirmed =>
        (otherwise (by rw [result]; decide) confirmed).elim⟩
  | pendingEvidence =>
    have mem' : op' ∈ replaceBy ConsequentialOperation.id s.operations op' :=
      mem_replaceBy_self mem same.id.symm
    have keys : ((replaceBy ConsequentialOperation.id s.operations op').map
        (·.idempotencyKey)).Nodup := by
      rw [kept.acc.keys_replace mem same]
      exact kept.acc.keys
    have found : find (replaceBy ConsequentialOperation.id s.operations op') op'.id = some op' :=
      lookupBy_replaceBy_self kept.acc.ids mem same.id.symm
    have legal : OperationState.unknown ∈ validTransitions op'.state := by
      rw [state]
      decide
    refine Keeps.bind (Keeps.weaken (transitionAndSave_ends found keys legal _ _) ?_) ?_
    · intro _ _ impossible
      exact impossible.elim
    · rintro op'' _ ⟨same', waiting, rfl⟩
      refine ⟨.inl ⟨op'', same'.trans same, .inl waiting, rfl, ?_⟩, fun confirmed =>
        (otherwise (by rw [result]; decide) confirmed).elim⟩
      exact replaceBy_replaceBy same'.id.symm

end Calls

section Runs
variable {h : Hashing} {t : TextRules} {entries : List LedgerEntry} {s : Desk}
variable {built : String → OrbioPurchaseIntent → Prop}

/-- The call gets as far as asking the provider about this operation. -/
structure Queries (h : Hashing) (s : Desk) (c : PurchaseCall) (op : ConsequentialOperation) :
    Prop where
  found : find s.operations c.operationId = some op
  own : op.tenantId = c.org.tenantId ∧ op.organisationId = c.org.id
  intent : c.intent.organisationId = c.org.id ∧ c.intent.tenantId = c.org.tenantId
  kind : op.actionType = .orbioCreditPurchase ∨ op.actionType = .blockchainTransaction
  state : Unresolved op.state
  bound : boundElsewhere h op c.intent = false

theorem Queries.stored {c : PurchaseCall} {op : ConsequentialOperation} (q : Queries h s c op) :
    find s.operations op.id = some op := by
  rw [(lookupBy_some q.found).2]
  exact q.found

/-- The new ledger row has an id of its own, no entry would be taken for one of the
purchase's, and a success reported for the transaction built from this intent carries
the evidence. -/
structure Fits (h : Hashing) (t : TextRules) (built : String → OrbioPurchaseIntent → Prop) (s : Desk)
    (c : PurchaseCall) (input : Input) : Prop where
  newRow : ∀ r ∈ s.ledger.rows, r.id ≠ input.draw.entryId
  unnamed : ∀ op, Queries h s c op → Unnamed s op
  evidenced : ∀ op status, Queries h s c op → built op.id c.intent →
    answered input = .ok status → status.outcome = outcomeSuccess →
    Evidenced h t s.verified c.intent status op

/-- What a call leaves behind, whether it returns or raises. -/
def After (h : Hashing) (t : TextRules) (entries : List LedgerEntry) (s : Desk) (c : PurchaseCall)
    (input : Input) (s' : Desk) : Prop :=
  (s' = s ∧ ∀ op, ¬Queries h s c op) ∨ ∃ op, Queries h s c op ∧ Effect h entries s op s' ∧
    (Confirmed h t s c.intent op input → Paid h entries s op s')

theorem reconcilePurchase_ends (kept : Kept h entries s) {c : PurchaseCall} {input : Input}
    (fits : Fits h t built s c input) :
    Ends input (fun _ s' => After h t entries s c input s')
      (fun _ s' => After h t entries s c input s') (reconcilePurchase h t c) s := by
  have newRow : ∀ e ∈ entries, e.id ≠ input.draw.entryId := by
    intro e he
    refine fits.newRow (entryRow defaultTenant e) ?_
    rw [kept.ledger]
    exact List.mem_map_of_mem he
  refine Keeps.perform trivial fun _ found s' _ answer => ?_
  obtain ⟨rfl, rfl⟩ := Prod.mk.inj answer
  cases lookup : find s.operations c.operationId with
  | none =>
    refine .inl ⟨rfl, fun op q => ?_⟩
    have found := q.found
    rw [lookup] at found
    cases found
  | some op =>
    have same : ∀ o, Queries h s c o → o = op := fun o q =>
      Option.some.inj (q.found.symm.trans lookup)
    dsimp only
    rw [reconcileFound]
    split_ifs with foreign mismatch kind ended state bound
    · exact .inl ⟨rfl, fun o q => by rw [same o q] at q; exact foreign.elim (· q.own.1) (· q.own.2)⟩
    · exact .inl ⟨rfl, fun o q => mismatch.elim (· q.intent.1) (· q.intent.2)⟩
    · exact .inl ⟨rfl, fun o q => by rw [same o q] at q; exact q.kind.elim kind.1 kind.2⟩
    · refine .inl ⟨rfl, fun o q => ?_⟩
      have unresolved := same o q ▸ q.state
      rcases ended with e | e | e
      · rw [e] at unresolved
        revert unresolved
        decide
      · rw [e] at unresolved
        revert unresolved
        decide
      · rw [e] at unresolved
        revert unresolved
        decide
    · refine .inl ⟨rfl, fun o q => ?_⟩
      rcases same o q ▸ q.state with e | e | e
      · exact state.1 e
      · exact state.2.1 e
      · exact state.2.2 e
    · refine .inl ⟨rfl, fun o q => ?_⟩
      have unbound := q.bound
      rw [same o q, bound] at unbound
      cases unbound
    · simp only [not_or, not_not, not_and_or] at foreign mismatch kind state
      have q : Queries h s c op := ⟨lookup, foreign, mismatch, kind, state, by simpa using bound⟩
      refine Keeps.mono (Keeps.weaken (resolvePurchase_ends kept q.stored q.state newRow
        (fits.unnamed op q) c.intent) ?_) ?_
      · rintro _ _ ⟨effect, unconfirmed⟩
        exact .inr ⟨op, q, effect, fun confirmed => absurd confirmed unconfirmed⟩
      · rintro _ _ ⟨effect, pays⟩
        exact .inr ⟨op, q, effect, pays⟩

def after (h : Hashing) (t : TextRules) (s : Desk) (step : PurchaseCall × Input) : Desk :=
  (exec respond step.2 (reconcilePurchase h t step.1) s).2

def run (h : Hashing) (t : TextRules) : List (PurchaseCall × Input) → Desk → Desk
  | [], s => s
  | step :: rest, s => run h t rest (after h t s step)

def RunFits (h : Hashing) (t : TextRules) (built : String → OrbioPurchaseIntent → Prop) :
    List (PurchaseCall × Input) → Desk → Prop
  | [], _ => True
  | step :: rest, s => Fits h t built s step.1 step.2 ∧ RunFits h t built rest (after h t s step)

theorem after_step (kept : Kept h entries s) {step : PurchaseCall × Input}
    (fits : Fits h t built s step.1 step.2) :
    After h t entries s step.1 step.2 (after h t s step) := by
  have ended := (reconcilePurchase_ends kept fits).exec step.2 fun _ _ => rfl
  rw [after]
  cases result : exec respond step.2 (reconcilePurchase h t step.1) s with
  | mk answer s' =>
    rw [result] at ended
    cases answer with
    | ok _ => exact ended
    | error _ => exact ended

theorem step_keeps (kept : Kept h entries s) {step : PurchaseCall × Input}
    (fits : Fits h t built s step.1 step.2) : ∃ entries', Kept h entries' (after h t s step) := by
  rcases after_step kept fits with ⟨same, _⟩ | ⟨op, q, effect, _⟩
  · exact ⟨entries, same.symm ▸ kept⟩
  · obtain ⟨entries', kept', _⟩ := kept.effect q.stored q.state effect
    exact ⟨entries', kept'⟩

theorem step_keeps_sealed (kept : Kept h entries s) {step : PurchaseCall × Input}
    (fits : Fits h t built s step.1 step.2) {id : String} (sealed_ : Sealed h entries s id) :
    ∃ entries', Kept h entries' (after h t s step) ∧ Sealed h entries' (after h t s step) id := by
  rcases after_step kept fits with ⟨same, _⟩ | ⟨op, q, effect, _⟩
  · exact ⟨entries, same.symm ▸ kept, same.symm ▸ sealed_⟩
  · exact kept.sealed_effect q.stored q.state effect sealed_

theorem run_keeps (steps : List (PurchaseCall × Input)) (kept : Kept h entries s)
    (fits : RunFits h t built steps s) : ∃ entries', Kept h entries' (run h t steps s) := by
  induction steps generalizing s entries with
  | nil => exact ⟨entries, kept⟩
  | cons step rest ih =>
    obtain ⟨entries', kept'⟩ := step_keeps kept fits.1
    exact ih kept' fits.2

theorem run_keeps_sealed (steps : List (PurchaseCall × Input)) (kept : Kept h entries s)
    (fits : RunFits h t built steps s) {id : String} (sealed_ : Sealed h entries s id) :
    ∃ entries', Kept h entries' (run h t steps s) ∧ Sealed h entries' (run h t steps s) id := by
  induction steps generalizing s entries with
  | nil => exact ⟨entries, kept, sealed_⟩
  | cons step rest ih =>
    obtain ⟨entries', kept', still⟩ := step_keeps_sealed kept fits.1 sealed_
    exact ih kept' fits.2 still

/-- At most one own exit for each purchase, exactly one for a reconciled one that had
an amount. -/
def LeavesOnce (h : Hashing) (s : Desk) : Prop :=
  ∃ entries, s.ledger.getEntries none = .ok entries ∧ ∀ o ∈ s.operations,
    (ownExits h entries o).length ≤ 1 ∧
    (o.state = .reconciled → 0 < o.amount → (ownExits h entries o).length = 1)

/-- No entry of the purchase credits the treasury. -/
def NotRefunded (h : Hashing) (s : Desk) (op : ConsequentialOperation) : Prop :=
  ∃ entries, s.ledger.getEntries none = .ok entries ∧
    ∀ e ∈ entries, OwnPurchaseTx h op e.transactionId → e.toAccount ≠ treasury

theorem Kept.getEntries (kept : Kept h entries s) : s.ledger.getEntries none = .ok entries := by
  rw [kept.ledger]
  exact readEntries_entryRows defaultTenant entries

theorem confirmed_not_refunded (steps : List (PurchaseCall × Input)) (kept : Kept h entries s)
    (fits : RunFits h t built steps s) {earlier later : List (PurchaseCall × Input)}
    {c : PurchaseCall} {input : Input} (split : steps = earlier ++ (c, input) :: later)
    {op : ConsequentialOperation} (q : Queries h (run h t earlier s) c op)
    (own : built op.id c.intent) {status : ProviderStatusResult}
    (said : answered input = .ok status) (success : status.outcome = outcomeSuccess) :
    NotRefunded h (run h t steps s) op := by
  subst split
  induction earlier generalizing s entries with
  | nil =>
    have confirmed : Confirmed h t s c.intent op input :=
      ⟨status, said, success, fits.1.evidenced op status q own said success⟩
    rcases after_step kept fits.1 with ⟨_, unasked⟩ | ⟨op', q', _, pays⟩
    · exact absurd q (unasked op)
    · obtain rfl := Option.some.inj (q'.found.symm.trans q.found)
      obtain ⟨entries', kept', sealed_⟩ := kept.sealed_paid q.stored q.state (pays confirmed)
      obtain ⟨final, kept'', o, _, same, _, clean⟩ :=
        run_keeps_sealed later kept' fits.2 sealed_
      refine ⟨final, kept''.getEntries, fun e he mine => clean e he ?_⟩
      exact (ownPurchaseTx_congr same).mpr mine
  | cons step earlier ih =>
    obtain ⟨entries', kept'⟩ := step_keeps kept fits.1
    exact ih kept' q fits.2

/-- In a run of fitting calls over locked purchases each leaves escrow once, and none
whose success was reported is refunded. -/
theorem purchases_leave_once (opening : ∃ entries, Kept h entries s)
    (steps : List (PurchaseCall × Input)) (fits : RunFits h t built steps s) :
    LeavesOnce h (run h t steps s) ∧
    ∀ earlier c input later op status, steps = earlier ++ (c, input) :: later →
      Queries h (run h t earlier s) c op → built op.id c.intent → answered input = .ok status →
      status.outcome = outcomeSuccess → NotRefunded h (run h t steps s) op := by
  obtain ⟨entries, kept⟩ := opening
  constructor
  · obtain ⟨final, kept'⟩ := run_keeps steps kept fits
    refine ⟨final, kept'.getEntries, fun o mem => ⟨kept'.acc.atMostOnce mem, ?_⟩⟩
    exact kept'.acc.settled o mem
  · intro earlier c input later op status split q own said success
    exact confirmed_not_refunded steps kept fits split q own said success

/-- What the blockchain provider reports of a confirmed transaction is no evidence. -/
theorem blockchain_status_unevidenced {rpc : BlockchainProvider.EvmRpcClient}
    {opTxHashes : List (String × String)} {operationId : String}
    {idempotencyKey providerReference : Option String} {status : ProviderStatusResult}
    (answer : BlockchainProvider.status h rpc opTxHashes operationId idempotencyKey
      providerReference = .ok status) (success : status.outcome = outcomeSuccess)
    (verified : Verified) (intent : OrbioPurchaseIntent) (op : ConsequentialOperation) :
    ¬Evidenced h t verified intent status op := by
  rintro ⟨e, extracted, m, _⟩
  obtain ⟨txHash, receipt, _, _, raw⟩ := BlockchainProvider.status_success answer success
  rw [extractEvidenceFromStatus, extractEvidenceFromExecution] at extracted
  simp only [raw] at extracted
  split_ifs at extracted
  · cases extracted
  · obtain ⟨_, _, extracted⟩ := bind_ok.mp extracted
    obtain ⟨_, _, extracted⟩ := bind_ok.mp extracted
    obtain ⟨_, _, extracted⟩ := bind_ok.mp extracted
    obtain ⟨_, _, extracted⟩ := bind_ok.mp extracted
    obtain rfl := Option.some.inj (Except.ok.inj extracted)
    exact m.exchange.1 rfl

end Runs

section Scenario
open ExactlyOnce (manager org)

def purchaseIntent : OrbioPurchaseIntent where
  tenantId := "tenant-1"
  organisationId := "org-1"
  missionId := none
  operationId := "cop-111111111111"
  chainId := 4663
  network := "robinhood"
  exchangeContract := "0x6951ffd32630b05e06f50062aea801625a58ebc0"
  paymentToken := "0x5fc5360d0400a0fd4f2af552add042d716f1d168"
  creditToken := "0xe33322da1380e61e5ae5dfb21e7f62924c73004c"
  usdgIn := 1000000
  minCreditOut := 900000
  beneficiary := "0x1111111111111111111111111111111111111111"
  maxFills := 10
  maxFeePerGas := 25000000000
  maxPriorityFeePerGas := 1500000000
  gasLimit := 350000
  amountCredits := 50
  idempotencyKey := "org-1:p1"
  policyDecisionId := "dec-1"
  authorizationTokenHash := "65dcf16ea3dfa490"
  deadline := none
  some_amount := by decide
  beneficiary_shape := by decide +kernel

/-- A purchase whose execution timed out. -/
def ambiguous : ConsequentialOperation where
  id := "cop-111111111111"
  tenantId := "tenant-1"
  organisationId := "org-1"
  proposalId := "p1"
  decisionId := "dec-1"
  idempotencyKey := "org-1:p1"
  actionType := .orbioCreditPurchase
  target := "orbio"
  parameters := []
  amount := 50
  providerName := "blockchain"
  providerReference := some "0xfeed"
  state := .unknown
  errorMessage := none

def lockedEntries : List LedgerEntry :=
  [⟨"m1", 0, "mint-0", systemMint, treasury, 100, "Initial capital", LedgerEquivalence.capital_pos⟩,
    ⟨"l1", 1, "res-809a29a1fb092eec", treasury, escrow, 50,
      "Escrow lock for consequential operation cop-111111111111", by decide⟩]

def desk : Desk := ⟨sqliteOf lockedEntries, [ambiguous], []⟩

theorem desk_kept : Kept manager.hashing lockedEntries desk where
  ledger := rfl
  acc :=
    { ids := by decide +kernel
      keys := by decide +kernel
      digests := by decide +kernel
      unsettled := by decide +kernel
      settled := by decide +kernel
      covered := by decide +kernel }

def purchaseCall : PurchaseCall := ⟨"cop-111111111111", purchaseIntent, org⟩

def textRules : TextRules := asciiRules fun _ => "0.0"

theorem sha256_ne_empty (s : String) : manager.hashing.sha256 s ≠ "" := by
  show (ExactlyOnce.digestTable.lookup s).getD "0000000000000000" ≠ ""
  cases found : ExactlyOnce.digestTable.lookup s with
  | none => decide
  | some d =>
    obtain ⟨l₁, l₂, split, _⟩ := List.lookup_eq_some_iff.mp found
    have known : d ∈ ExactlyOnce.digestTable.map Prod.snd := by
      rw [split]
      simp
    have filled : ∀ d ∈ ExactlyOnce.digestTable.map Prod.snd, d ≠ "" := by decide
    exact filled d known

/-- A success that names everything the verifier asks for. -/
def completeAnswer : ProviderStatusResult where
  providerName := "blockchain"
  operationId := "cop-111111111111"
  outcome := "SUCCESS"
  providerReference := some "0xfeed"
  rawStatus := [("chain_id", .int 4663), ("network", .str "robinhood"),
    ("exchange_contract", .str "0x6951ffd32630b05e06f50062aea801625a58ebc0"),
    ("usdg_spent", .int 1000000), ("credit_out", .int 950000),
    ("beneficiary", .str "0x1111111111111111111111111111111111111111"),
    ("activation_id", .str "act-1"),
    ("purchase_intent_hash", .str (purchaseIntent.computePurchaseIntentHash manager.hashing))]
  errorMessage := none
  evidenceHash := none

def answering (answer : Except PyError ProviderStatusResult) : Input :=
  ⟨⟨"r1", "r1", 2⟩, answer, answer⟩

theorem completeAnswer_evidenced :
    Evidenced manager.hashing textRules [] purchaseIntent completeAnswer ambiguous := by
  have first : strOf textRules (firstTruthy
      [.str (purchaseIntent.computePurchaseIntentHash manager.hashing), .none, .none, .none,
        .str ""]) = purchaseIntent.computePurchaseIntentHash manager.hashing := by
    have filled : truthy (.str (purchaseIntent.computePurchaseIntentHash manager.hashing)) = true := by
      rw [OrbioPurchaseIntent.computePurchaseIntentHash, Hashing.ofJson, truthy]
      exact decide_eq_true (sha256_ne_empty _)
    rw [firstTruthy, if_pos filled]
    · rfl
    · intro none
      cases none
  refine ⟨_, rfl, ?_, fun _ known => by cases known⟩
  exact {
    chain := rfl
    network := ⟨_, rfl, by decide, rfl⟩
    exchange := ⟨by decide, rfl⟩
    beneficiary := ⟨by decide, .inr rfl⟩
    reference := ⟨by decide, fun _ same => .inr (Option.some.inj same)⟩
    intentHash := ⟨fun none => sha256_ne_empty _ (first.symm.trans none), first⟩
    tenant := rfl
    organisation := rfl
    spent := rfl
    credit := by decide
    activation := .inl (by decide) }

theorem found_ambiguous {op : ConsequentialOperation}
    (q : Queries manager.hashing desk purchaseCall op) : op = ambiguous :=
  Option.some.inj (q.found.symm.trans rfl)

theorem complete_fits : Fits manager.hashing textRules (fun _ _ => True) desk purchaseCall
    (answering (.ok completeAnswer)) where
  newRow := by decide +kernel
  unnamed := by
    intro op q
    rw [found_ambiguous q]
    decide +kernel
  evidenced := by
    intro op status q _ said _
    obtain rfl := Except.ok.inj said
    rw [found_ambiguous q]
    exact completeAnswer_evidenced

/-- A timed out purchase whose provider now shows the whole receipt. -/
theorem complete_answer_settles :
    LeavesOnce manager.hashing
      (run manager.hashing textRules [(purchaseCall, answering (.ok completeAnswer))] desk) ∧
    ∀ earlier c input later op status,
      [(purchaseCall, answering (.ok completeAnswer))] = earlier ++ (c, input) :: later →
      Queries manager.hashing (run manager.hashing textRules earlier desk) c op → True →
      answered input = .ok status → status.outcome = outcomeSuccess →
      NotRefunded manager.hashing
        (run manager.hashing textRules [(purchaseCall, answering (.ok completeAnswer))] desk) op :=
  purchases_leave_once ⟨_, desk_kept⟩ _
    (show RunFits manager.hashing textRules (fun _ _ => True)
      [(purchaseCall, answering (.ok completeAnswer))] desk from ⟨complete_fits, trivial⟩)

def confirmedRpc : BlockchainProvider.EvmRpcClient where
  getTransactionReceipt _ := .ok (some [("status", .str "0x1")])
  getTransactionByHash _ := .ok .none

/-- What the blockchain provider answers for the purchase once it is confirmed. -/
def chainAnswer : Except PyError ProviderStatusResult :=
  BlockchainProvider.status manager.hashing confirmedRpc [] "cop-111111111111" (some "org-1:p1")
    (some "0xfeed")

/-- The provider reports success, and the purchase is refunded. -/
theorem confirmed_purchase_is_refunded :
    Queries manager.hashing desk purchaseCall ambiguous ∧
    (∃ status, answered (answering chainAnswer) = .ok status ∧ status.outcome = outcomeSuccess) ∧
    ¬NotRefunded manager.hashing
      (run manager.hashing textRules [(purchaseCall, answering chainAnswer)] desk) ambiguous := by
  refine ⟨⟨rfl, ⟨rfl, rfl⟩, ⟨rfl, rfl⟩, .inl rfl, .inl rfl, rfl⟩, ⟨_, rfl, rfl⟩, ?_⟩
  rintro ⟨entries, read, clean⟩
  have refunded : (((run manager.hashing textRules [(purchaseCall, answering chainAnswer)]
      desk).ledger.getEntries none).toOption.any fun entries => entries.any fun e =>
        decide (OwnPurchaseTx manager.hashing ambiguous e.transactionId) && e.toAccount = treasury) =
      true := by
    decide +kernel
  rw [read, Except.toOption, Option.any_some] at refunded
  obtain ⟨e, he, both⟩ := List.any_eq_true.mp refunded
  simp only [Bool.and_eq_true, decide_eq_true_eq] at both
  exact clean e he both.1 both.2

end Scenario

end PurchaseSettlement
