import KalyxMao.EscrowNames
import KalyxMao.LedgerEquivalence
import Mathlib.Algebra.Order.Ring.Int
import Mathlib.Tactic.Ring

/-!
# Ledger entries, operation states and the escrow balance

Every entry is either initial funding, or the lock or the exit of one stored
operation. How many of each an operation may have follows from its state, and
the escrow account holds what locks brought in and exits did not take out. The
lemmas say what one more entry, one changed record and one new record preserve.
-/

namespace EscrowInvariant
open Bookkeeping PythonText Ledger SqlLedgers LedgerEquivalence Domain Consequential KeyedLists
open EscrowNames ConsequentialOperation Reconciliation

/-- Entries that bring credits into escrow for an operation, found by its id. -/
def locksOf (entries : List LedgerEntry) (operationId : String) : List LedgerEntry :=
  entries.filter fun e => e.toAccount = escrow && isIn operationId e.memo

/-- Entries that take credits out of escrow for an operation, found by its id. -/
def exitsOf (entries : List LedgerEntry) (operationId : String) : List LedgerEntry :=
  entries.filter fun e => e.fromAccount = escrow && isIn operationId e.memo

/-- Escrowed and not yet settled. -/
def pending (entries : List LedgerEntry) (op : ConsequentialOperation) : Bool :=
  !(locksOf entries op.id).isEmpty && (exitsOf entries op.id).isEmpty

/-- Exactly-once settlement: no operation leaves escrow twice, an operation that
was locked and has ended left once with its own amount, and escrow covers what
is still pending. -/
structure ExactlyOnce (entries : List LedgerEntry) (ops : List ConsequentialOperation) : Prop where
  atMostOnce : ∀ o ∈ ops, (exitsOf entries o.id).length ≤ 1
  settled : ∀ o ∈ ops, o.state.Terminal → 0 < o.amount → locksOf entries o.id ≠ [] →
    ∃ e, exitsOf entries o.id = [e] ∧ e.amount = o.amount
  covered : (((ops.filter (pending entries)).map fun o => (o.amount : Int)).sum) ≤
    balance (postings entries) escrow

structure IsFunding (e : LedgerEntry) : Prop where
  source : e.fromAccount = systemMint
  target : e.toAccount = treasury
  tx : ∃ u, e.transactionId = "mint-" ++ u

structure IsLock (h : Hashing) (op : ConsequentialOperation) (e : LedgerEntry) : Prop where
  source : e.fromAccount = treasury
  target : e.toAccount = escrow
  amount : e.amount = op.amount
  memo : NamedFor op.id e.memo
  tx : e.transactionId = lockTx h op

structure IsExit (h : Hashing) (op : ConsequentialOperation) (e : LedgerEntry) : Prop where
  source : e.fromAccount = escrow
  target : e.toAccount = externalSink ∨ e.toAccount = treasury
  amount : e.amount = op.amount
  memo : NamedFor op.id e.memo
  tx : ExitTx h op e.transactionId

/-- How many locks and exits a state allows. -/
def Settlement : OperationState → Nat → Nat → Prop
  | .created, locks, exits => locks = 0 ∧ exits = 0
  | .authorized, locks, exits => locks ≤ 1 ∧ exits = 0
  | .escrowed, locks, exits => locks = 1 ∧ exits = 0
  | .submitted, locks, exits => locks = 1 ∧ exits ≤ 1
  | .unknown, locks, exits => locks = 1 ∧ exits ≤ 1
  | .reconciling, locks, exits => locks = 1 ∧ exits ≤ 1
  | .succeeded, locks, exits => locks = 1 ∧ exits = 1
  | .reconciled, locks, exits => locks = 1 ∧ exits = 1
  | .failed, locks, exits => locks = exits ∧ locks ≤ 1

def share (entries : List LedgerEntry) (op : ConsequentialOperation) : Int :=
  op.amount * ((locksOf entries op.id).length - (exitsOf entries op.id).length)

structure Good (h : Hashing) (entries : List LedgerEntry) (ops : List ConsequentialOperation) :
    Prop where
  ids : (ops.map ConsequentialOperation.id).Nodup
  shapes : ∀ o ∈ ops, IsOperationId o.id
  digests : ∀ a ∈ ops, ∀ b ∈ ops, h.short a.id = h.short b.id → a.id = b.id
  keys : (ops.map idempotencyKey).Nodup
  origin : ∀ e ∈ entries, IsFunding e ∨ ∃ o ∈ ops, IsLock h o e ∨ IsExit h o e
  status : ∀ o ∈ ops, 0 < o.amount →
    Settlement o.state (locksOf entries o.id).length (exitsOf entries o.id).length
  held : balance (postings entries) escrow = (ops.map (share entries)).sum

theorem settlement_bounds {s : OperationState} {locks exits : Nat}
    (status : Settlement s locks exits) : exits ≤ locks ∧ locks ≤ 1 := by
  cases s <;> simp only [Settlement] at status <;> omega

theorem settlement_terminal {s : OperationState} {locks exits : Nat}
    (status : Settlement s locks exits) (terminal : s.Terminal) : locks = exits := by
  cases s <;> simp only [Settlement] at status <;>
    first | omega | exact absurd terminal (by decide)

section Naming
variable {h : Hashing} {entries : List LedgerEntry} {ops : List ConsequentialOperation}
variable {o a : ConsequentialOperation} {e : LedgerEntry}

theorem locksOf_concat (entries : List LedgerEntry) (e : LedgerEntry) (id : String) :
    locksOf (entries ++ [e]) id =
      locksOf entries id ++ if e.toAccount = escrow && isIn id e.memo then [e] else [] := by
  simp only [locksOf, List.filter_append]
  congr 1
  by_cases hit : (e.toAccount = escrow && isIn id e.memo) = true
  · simp only [hit, List.filter_cons_of_pos, List.filter_nil, if_true]
  · simp [hit]

theorem exitsOf_concat (entries : List LedgerEntry) (e : LedgerEntry) (id : String) :
    exitsOf (entries ++ [e]) id =
      exitsOf entries id ++ if e.fromAccount = escrow && isIn id e.memo then [e] else [] := by
  simp only [exitsOf, List.filter_append]
  congr 1
  by_cases hit : (e.fromAccount = escrow && isIn id e.memo) = true
  · simp only [hit, List.filter_cons_of_pos, List.filter_nil, if_true]
  · simp [hit]

/-- A lock is counted for its own operation only. -/
theorem counts_lock (entries : List LedgerEntry) (lock : IsLock h o e)
    (ho : IsOperationId o.id) (ha : IsOperationId a.id) :
    locksOf (entries ++ [e]) a.id = locksOf entries a.id ++ (if a.id = o.id then [e] else []) ∧
      exitsOf (entries ++ [e]) a.id = exitsOf entries a.id := by
  have source : e.fromAccount ≠ escrow := by
    rw [lock.source]
    decide
  constructor
  · rw [locksOf_concat]
    by_cases same : a.id = o.id
    · have hit := (isIn_named ha ho lock.memo).mpr same
      rw [same] at hit ⊢
      simp [lock.target, hit]
    · have : isIn a.id e.memo = false :=
        Bool.eq_false_iff.mpr fun hit => same ((isIn_named ha ho lock.memo).mp hit)
      simp [this, same]
  · rw [exitsOf_concat]
    simp [source]

theorem counts_exit (entries : List LedgerEntry) (exit : IsExit h o e)
    (ho : IsOperationId o.id) (ha : IsOperationId a.id) :
    locksOf (entries ++ [e]) a.id = locksOf entries a.id ∧
      exitsOf (entries ++ [e]) a.id =
        exitsOf entries a.id ++ (if a.id = o.id then [e] else []) := by
  have target : e.toAccount ≠ escrow := by
    rcases exit.target with t | t
    · rw [t]
      decide
    · rw [t]
      decide
  constructor
  · rw [locksOf_concat]
    simp [target]
  · rw [exitsOf_concat]
    by_cases same : a.id = o.id
    · have hit := (isIn_named ha ho exit.memo).mpr same
      rw [same] at hit ⊢
      simp [exit.source, hit]
    · have : isIn a.id e.memo = false :=
        Bool.eq_false_iff.mpr fun hit => same ((isIn_named ha ho exit.memo).mp hit)
      simp [this, same]

end Naming

namespace Good
variable {h : Hashing} {entries : List LedgerEntry} {ops : List ConsequentialOperation}
variable {o : ConsequentialOperation} {e : LedgerEntry}

theorem same_of_id (good : Good h entries ops) {a b : ConsequentialOperation} (ha : a ∈ ops)
    (hb : b ∈ ops) (same : a.id = b.id) : a = b :=
  eq_of_key good.ids ha hb same

/-- The shares move with the balance when an operation's entry is appended. -/
theorem held_concat (good : Good h entries ops) (mem : o ∈ ops)
    (origin : IsLock h o e ∨ IsExit h o e) :
    balance (postings (entries ++ [e])) escrow = (ops.map (share (entries ++ [e]))).sum := by
  have one : ∀ x : Int, (ops.map fun a => if a.id = o.id then x else 0).sum = x := fun x =>
    sum_map_ite_key ConsequentialOperation.id (fun _ => x) good.ids mem
  have moved : ∀ x : Int, (∀ a ∈ ops, share (entries ++ [e]) a =
      share entries a + if a.id = o.id then x else 0) →
      (ops.map (share (entries ++ [e]))).sum = (ops.map (share entries)).sum + x := by
    intro x each
    rw [List.map_congr_left each, List.sum_map_add, one]
  rw [balance_postings_concat, good.held]
  rcases origin with lock | exit
  · have source : e.fromAccount ≠ escrow := by
      rw [lock.source]
      decide
    rw [moved e.amount, if_pos lock.target, if_neg source, sub_zero]
    intro a ha
    obtain ⟨locks, exits⟩ := counts_lock entries lock (good.shapes o mem)
      (good.shapes a ha)
    rw [share, share, locks, exits]
    by_cases same : a.id = o.id
    · rw [good.same_of_id ha mem same, lock.amount]
      simp only [if_true, List.length_append, List.length_singleton]
      push_cast
      ring
    · simp [same]
  · have target : e.toAccount ≠ escrow := by
      rcases exit.target with t | t
      · rw [t]
        decide
      · rw [t]
        decide
    rw [moved (-e.amount), if_neg target, if_pos exit.source, zero_sub]
    intro a ha
    obtain ⟨locks, exits⟩ := counts_exit entries exit (good.shapes o mem)
      (good.shapes a ha)
    rw [share, share, locks, exits]
    by_cases same : a.id = o.id
    · rw [good.same_of_id ha mem same, exit.amount]
      simp only [if_true, List.length_append, List.length_singleton]
      push_cast
      ring
    · simp [same]

/-- One more lock or exit of a stored operation, where its state allows it. -/
theorem concat (good : Good h entries ops) (mem : o ∈ ops)
    (origin : IsLock h o e ∨ IsExit h o e)
    (status : Settlement o.state (locksOf (entries ++ [e]) o.id).length
      (exitsOf (entries ++ [e]) o.id).length) : Good h (entries ++ [e]) ops where
  ids := good.ids
  shapes := good.shapes
  digests := good.digests
  keys := good.keys
  origin := by
    intro f hf
    rcases List.mem_append.mp hf with old | new
    · exact good.origin f old
    · rw [List.mem_singleton.mp new]
      exact .inr ⟨o, mem, origin⟩
  status := by
    intro a ha pos
    by_cases same : a.id = o.id
    · rw [good.same_of_id ha mem same]
      exact status
    · have before := good.status a ha pos
      rcases origin with lock | exit
      · obtain ⟨locks, exits⟩ := counts_lock entries lock (good.shapes o mem)
          (good.shapes a ha)
        rwa [locks, exits, if_neg same, List.append_nil]
      · obtain ⟨locks, exits⟩ := counts_exit entries exit (good.shapes o mem)
          (good.shapes a ha)
        rwa [locks, exits, if_neg same, List.append_nil]
  held := good.held_concat mem origin

/-- A changed record of the same terms, in a state its entries allow. -/
theorem replace (good : Good h entries ops) (mem : o ∈ ops) {o' : ConsequentialOperation}
    (same : SameTerms o' o) (status : 0 < o.amount →
      Settlement o'.state (locksOf entries o.id).length (exitsOf entries o.id).length) :
    Good h entries (replaceBy ConsequentialOperation.id ops o') where
  ids := by rw [map_key_replaceBy]; exact good.ids
  shapes := by
    intro a ha
    rcases mem_replaceBy ha with rfl | ⟨old, _⟩
    · rw [same.id]
      exact good.shapes o mem
    · exact good.shapes a old
  digests := by
    have kept : ∀ a ∈ replaceBy ConsequentialOperation.id ops o', ∃ b ∈ ops, b.id = a.id := by
      intro a ha
      rcases mem_replaceBy ha with rfl | ⟨old, _⟩
      · exact ⟨o, mem, same.id.symm⟩
      · exact ⟨a, old, rfl⟩
    intro a ha b hb digest
    obtain ⟨a', ha', ea⟩ := kept a ha
    obtain ⟨b', hb', eb⟩ := kept b hb
    rw [← ea, ← eb] at digest ⊢
    exact good.digests a' ha' b' hb' digest
  keys := by
    have kept : (replaceBy ConsequentialOperation.id ops o').map idempotencyKey =
        ops.map idempotencyKey := by
      rw [replaceBy, List.map_map]
      refine List.map_congr_left fun b hb => ?_
      by_cases own : b.id = o'.id
      · have : b = o := good.same_of_id hb mem (own.trans same.id)
        show (if b.id = o'.id then o' else b).idempotencyKey = b.idempotencyKey
        rw [if_pos own, same.idempotencyKey, this]
      · simp [own]
    rw [kept]
    exact good.keys
  origin := by
    intro f hf
    rcases good.origin f hf with funding | ⟨a, ha, origin⟩
    · exact .inl funding
    · right
      by_cases own : a.id = o'.id
      · have : a = o := good.same_of_id ha mem (own.trans same.id)
        subst this
        refine ⟨o', mem_replaceBy_self ha own, ?_⟩
        rcases origin with lock | exit
        · exact .inl ⟨lock.source, lock.target, by rw [lock.amount, same.amount],
            own ▸ lock.memo, by rw [lock.tx, lockTx, lockTx, own]⟩
        · refine .inr ⟨exit.source, exit.target, by rw [exit.amount, same.amount],
            own ▸ exit.memo, ?_⟩
          have tx := exit.tx
          rw [ExitTx, OwnTx, own] at tx
          exact tx
      · exact ⟨a, mem_replaceBy_ne ha own, origin⟩
  status := by
    intro a ha pos
    rcases mem_replaceBy ha with rfl | ⟨old, _⟩
    · rw [same.id]
      exact status (same.amount ▸ pos)
    · exact good.status a old pos
  held := by
    rw [good.held]
    refine (sum_map_replaceBy _ fun b hb own => ?_).symm
    have : b = o := good.same_of_id hb mem (own.trans same.id)
    rw [this, share, share, same.id, same.amount]

theorem lock_of_mem (good : Good h entries ops) (mem : o ∈ ops) (he : e ∈ locksOf entries o.id) :
    IsLock h o e := by
  obtain ⟨stored, hit⟩ := List.mem_filter.mp he
  simp only [Bool.and_eq_true, decide_eq_true_eq] at hit
  rcases good.origin e stored with funding | ⟨a, ha, lock | exit⟩
  · exact absurd (funding.target.symm.trans hit.1) (by decide)
  · have own := (isIn_named (good.shapes o mem) (good.shapes a ha) lock.memo).mp hit.2
    rwa [good.same_of_id mem ha own]
  · rcases exit.target with t | t
    · exact absurd (t.symm.trans hit.1) (by decide)
    · exact absurd (t.symm.trans hit.1) (by decide)

theorem exit_of_mem (good : Good h entries ops) (mem : o ∈ ops) (he : e ∈ exitsOf entries o.id) :
    IsExit h o e := by
  obtain ⟨stored, hit⟩ := List.mem_filter.mp he
  simp only [Bool.and_eq_true, decide_eq_true_eq] at hit
  rcases good.origin e stored with funding | ⟨a, ha, lock | exit⟩
  · exact absurd (funding.source.symm.trans hit.1) (by decide)
  · exact absurd (lock.source.symm.trans hit.1) (by decide)
  · have own := (isIn_named (good.shapes o mem) (good.shapes a ha) exit.memo).mp hit.2
    rwa [good.same_of_id mem ha own]

theorem mem_exitsOf (good : Good h entries ops) (mem : o ∈ ops) (he : e ∈ entries)
    (exit : IsExit h o e) : e ∈ exitsOf entries o.id := by
  have shape := good.shapes o mem
  have hit := (isIn_named shape shape exit.memo).mpr rfl
  exact List.mem_filter.mpr ⟨he, by simp [exit.source, hit]⟩

theorem mem_locksOf (good : Good h entries ops) (mem : o ∈ ops) (he : e ∈ entries)
    (lock : IsLock h o e) : e ∈ locksOf entries o.id := by
  have shape := good.shapes o mem
  have hit := (isIn_named shape shape lock.memo).mpr rfl
  exact List.mem_filter.mpr ⟨he, by simp [lock.target, hit]⟩

/-- The reservation id leads to the operation's own lock. -/
theorem lock_of_tx (good : Good h entries ops) (mem : o ∈ ops)
    (he : e ∈ entries) (tx : e.transactionId = lockTx h o) : IsLock h o e := by
  rcases good.origin e he with funding | ⟨a, ha, lock | exit⟩
  · obtain ⟨u, minted⟩ := funding.tx
    exact absurd (tx.symm.trans minted) (lockTx_ne_mint u)
  · have own := good.digests o mem a ha (lockTx_inj (tx.symm.trans lock.tx))
    rwa [good.same_of_id mem ha own]
  · exact absurd (tx ▸ exit.tx) lockTx_not_exit

/-- A reconciler's transaction id leads to an exit of the operation. -/
theorem exit_of_tx (good : Good h entries ops) (hex : HexDigests h) (mem : o ∈ ops)
    (he : e ∈ entries) (own : OwnTx h o e.transactionId) : IsExit h o e := by
  have exits : ExitTx h o e.transactionId := .inr own
  rcases good.origin e he with funding | ⟨a, ha, lock | exit⟩
  · obtain ⟨u, minted⟩ := funding.tx
    exact absurd minted (exitTx_ne_mint exits u)
  · exact absurd (lock.tx ▸ exits) lockTx_not_exit
  · rwa [good.same_of_id mem ha (good.digests o mem a ha (exitTx_own hex own exit.tx))]

/-- No entry names an operation that is not stored. -/
theorem unnamed (good : Good h entries ops) {id : String} (shape : IsOperationId id)
    (new : ∀ a ∈ ops, a.id ≠ id) : locksOf entries id = [] ∧ exitsOf entries id = [] := by
  constructor
  · refine List.filter_eq_nil_iff.mpr fun e he hit => ?_
    simp only [Bool.and_eq_true, decide_eq_true_eq] at hit
    rcases good.origin e he with funding | ⟨a, ha, lock | exit⟩
    · exact absurd (funding.target.symm.trans hit.1) (by decide)
    · exact new a ha ((isIn_named shape (good.shapes a ha) lock.memo).mp hit.2).symm
    · exact new a ha ((isIn_named shape (good.shapes a ha) exit.memo).mp hit.2).symm
  · refine List.filter_eq_nil_iff.mpr fun e he hit => ?_
    simp only [Bool.and_eq_true, decide_eq_true_eq] at hit
    rcases good.origin e he with funding | ⟨a, ha, lock | exit⟩
    · exact absurd (funding.source.symm.trans hit.1) (by decide)
    · exact new a ha ((isIn_named shape (good.shapes a ha) lock.memo).mp hit.2).symm
    · exact new a ha ((isIn_named shape (good.shapes a ha) exit.memo).mp hit.2).symm

theorem new_of_unlike (unlike : ∀ a ∈ ops, h.short a.id ≠ h.short o.id) :
    ∀ a ∈ ops, a.id ≠ o.id :=
  fun a ha same => unlike a ha (congrArg h.short same)

theorem register (good : Good h entries ops) (shape : IsOperationId o.id)
    (unlike : ∀ a ∈ ops, h.short a.id ≠ h.short o.id)
    (newKey : ∀ a ∈ ops, a.idempotencyKey ≠ o.idempotencyKey) (created : o.state = .created) :
    Good h entries (ops ++ [o]) where
  ids := by
    rw [List.map_append, List.nodup_append]
    refine ⟨good.ids, List.nodup_singleton _, ?_⟩
    rintro _ hx _ hy rfl
    obtain ⟨a, ha, rfl⟩ := List.mem_map.mp hx
    exact new_of_unlike unlike a ha (List.mem_singleton.mp hy)
  shapes := by
    intro a ha
    rcases List.mem_append.mp ha with old | added
    · exact good.shapes a old
    · rw [List.mem_singleton.mp added]
      exact shape
  digests := by
    intro a ha b hb digest
    rcases List.mem_append.mp ha with oldA | addedA
    · rcases List.mem_append.mp hb with oldB | addedB
      · exact good.digests a oldA b oldB digest
      · exact absurd (List.mem_singleton.mp addedB ▸ digest) (unlike a oldA)
    · rw [List.mem_singleton.mp addedA] at digest ⊢
      rcases List.mem_append.mp hb with oldB | addedB
      · exact absurd digest.symm (unlike b oldB)
      · rw [List.mem_singleton.mp addedB]
  keys := by
    rw [List.map_append, List.nodup_append]
    refine ⟨good.keys, List.nodup_singleton _, ?_⟩
    rintro _ hx _ hy rfl
    obtain ⟨a, ha, same⟩ := List.mem_map.mp hx
    exact newKey a ha (same.trans (List.mem_singleton.mp hy))
  origin := by
    intro f hf
    rcases good.origin f hf with funding | ⟨a, ha, origin⟩
    · exact .inl funding
    · exact .inr ⟨a, List.mem_append_left _ ha, origin⟩
  status := by
    intro a ha pos
    rcases List.mem_append.mp ha with old | added
    · exact good.status a old pos
    · obtain ⟨locks, exits⟩ := good.unnamed shape (new_of_unlike unlike)
      rw [List.mem_singleton.mp added, locks, exits, created]
      exact ⟨rfl, rfl⟩
  held := by
    obtain ⟨locks, exits⟩ := good.unnamed shape (new_of_unlike unlike)
    rw [good.held, List.map_append, List.sum_append]
    simp [share, locks, exits]

theorem share_nonneg (good : Good h entries ops) (mem : o ∈ ops) : 0 ≤ share entries o := by
  by_cases pos : 0 < o.amount
  · have := (settlement_bounds (good.status o mem pos)).1
    exact mul_nonneg (by omega) (by omega)
  · rw [share, Nat.eq_zero_of_not_pos pos]
    simp

/-- Escrow covers any operation whose lock has not been matched by an exit. -/
theorem covers (good : Good h entries ops) (mem : o ∈ ops)
    (locks : (locksOf entries o.id).length = 1) (exits : (exitsOf entries o.id).length = 0) :
    (o.amount : Int) ≤ balance (postings entries) escrow := by
  have own : share entries o = o.amount := by
    rw [share, locks, exits]
    simp
  rw [good.held, ← own]
  refine List.single_le_sum (fun x hx => ?_) _ (List.mem_map_of_mem mem)
  obtain ⟨a, ha, rfl⟩ := List.mem_map.mp hx
  exact good.share_nonneg ha

theorem exactlyOnce (good : Good h entries ops) : ExactlyOnce entries ops where
  atMostOnce := by
    intro o mem
    by_cases pos : 0 < o.amount
    · have := settlement_bounds (good.status o mem pos)
      omega
    · have none : exitsOf entries o.id = [] := by
        refine List.eq_nil_iff_forall_not_mem.mpr fun e he => ?_
        have amount := (good.exit_of_mem mem he).amount
        have := e.amount_pos
        omega
      simp [none]
  settled := by
    intro o mem terminal pos locked
    have status := good.status o mem pos
    have one : (locksOf entries o.id).length = 1 := by
      have := List.length_pos_iff.mpr locked
      have := (settlement_bounds status).2
      omega
    have left := settlement_terminal status terminal
    obtain ⟨e, he⟩ := List.length_eq_one_iff.mp (left.symm.trans one)
    exact ⟨e, he, (good.exit_of_mem mem (he ▸ List.mem_singleton_self e)).amount⟩
  covered := by
    rw [good.held]
    have below : ∀ l : List ConsequentialOperation, (∀ o ∈ l, o ∈ ops) →
        ((l.filter (pending entries)).map fun o => (o.amount : Int)).sum ≤
          (l.map (share entries)).sum := by
      intro l
      induction l with
      | nil => simp
      | cons o l ih =>
        intro sub
        have rest := ih fun a ha => sub a (List.mem_cons_of_mem o ha)
        have mem := sub o List.mem_cons_self
        rw [List.map_cons, List.sum_cons]
        cases waiting : pending entries o with
        | false =>
          rw [List.filter_cons_of_neg (by simp [waiting])]
          have := good.share_nonneg mem
          omega
        | true =>
          rw [List.filter_cons_of_pos waiting, List.map_cons, List.sum_cons]
          have own : (o.amount : Int) ≤ share entries o := by
            simp only [pending, Bool.and_eq_true, Bool.not_eq_true', List.isEmpty_iff,
              List.isEmpty_eq_false_iff] at waiting
            have locked := List.length_pos_iff.mpr waiting.1
            rw [share, waiting.2, List.length_nil]
            exact le_mul_of_one_le_right (by omega) (by omega)
          omega
    exact below ops fun o ho => ho

end Good

end EscrowInvariant
