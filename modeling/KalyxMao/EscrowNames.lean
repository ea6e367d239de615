import KalyxMao.ActivationReconciliation
import KalyxMao.Reconciliation

/-!
# Names under which escrow moves

Memos end in the operation's id and transaction ids in its digest. An operation
id holds exactly one hyphen and a memo text before it none, so the text search
of the reconciler finds an id in a memo only where the memo was written for it.
The transaction ids of different operations, purposes and routes are apart.
-/

namespace EscrowNames
open PythonText Ledger Domain Consequential Reconciliation ActivationReconciliation

/-- The shape of `cop-{uuid4().hex[:12]}`. -/
def IsOperationId (s : String) : Prop :=
  ∃ hex : List Char, hex.length = 12 ∧ (∀ c ∈ hex, isHexDigit c = true) ∧
    s = String.ofList ("cop-".toList ++ hex)

theorem operationId_shape (u : Uuid) : IsOperationId (operationId u) := by
  refine ⟨u.hex.take 12, ?_, ?_, rfl⟩
  · rw [List.length_take, u.long]
    rfl
  · intro c hc
    exact u.digits c (List.mem_of_mem_take hc)

theorem hyphen_not_mem {hex : List Char} (digits : ∀ c ∈ hex, isHexDigit c = true) :
    '-' ∉ hex := by
  intro h
  exact absurd (digits '-' h) (by decide)

def memoStarts : List String :=
  ["Escrow lock for consequential operation ", "Settlement commit for consequential operation ",
    "Escrow rollback for failed consequential operation ",
    "Reconciliation settlement for operation ",
    "Reconciliation escrow release for failed operation ", "Orbio activation settlement for ",
    "Orbio activation refund for "]

theorem memoStarts_clean : ∀ start ∈ memoStarts, '-' ∉ start.toList := by decide +kernel

def NamedFor (operationId memo : String) : Prop := ∃ start ∈ memoStarts, memo = start ++ operationId

theorem lockMemo_named (id : String) : NamedFor id (lockMemo id) := ⟨_, by decide, rfl⟩

theorem commitMemo_named (id : String) : NamedFor id (commitMemo id) := ⟨_, by decide, rfl⟩

theorem rollbackMemo_named (id : String) : NamedFor id (rollbackMemo id) := ⟨_, by decide, rfl⟩

theorem reconcileMemo_named (id : String) : NamedFor id (reconcileMemo id) := ⟨_, by decide, rfl⟩

theorem releaseMemo_named (id : String) : NamedFor id (releaseMemo id) := ⟨_, by decide, rfl⟩

theorem activationMemo_named (id : String) : NamedFor id (activationMemo id) :=
  ⟨_, by decide, rfl⟩

theorem activationRefundMemo_named (id : String) : NamedFor id (activationRefundMemo id) :=
  ⟨_, by decide, rfl⟩

theorem isIn_named {a b memo : String} (ha : IsOperationId a) (hb : IsOperationId b)
    (named : NamedFor b memo) : isIn a memo = true ↔ a = b := by
  obtain ⟨start, mem, rfl⟩ := named
  constructor
  · intro h
    obtain ⟨hexA, lenA, _, rfl⟩ := ha
    obtain ⟨hexB, lenB, digitsB, rfl⟩ := hb
    obtain ⟨u, v, split⟩ := isIn_iff.mp h
    have shape : (start.toList ++ "cop".toList) ++ '-' :: hexB =
        (u ++ "cop".toList) ++ '-' :: (hexA ++ v) := by
      simpa using split.symm
    have clean : '-' ∉ start.toList ++ "cop".toList := by
      rw [List.mem_append, not_or]
      exact ⟨memoStarts_clean start mem, by decide⟩
    obtain ⟨_, tails⟩ := append_cons_inj clean (hyphen_not_mem digitsB) shape
    have lengths := congrArg List.length tails
    rw [List.length_append, lenA, lenB] at lengths
    have : v = [] := List.length_eq_zero_iff.mp (by omega)
    rw [tails, this, List.append_nil]
  · rintro rfl
    exact isIn_append_right start a

/-- Digests are printed as hexadecimal text. -/
def HexDigests (h : Hashing) : Prop := ∀ s, ∀ c ∈ (h.short s).toList, isHexDigit c = true

section TransactionIds
variable {h : Hashing} {a b : ConsequentialOperation}

/-- How a direct submission begins the transaction id of an exit. -/
def directStarts : List String := ["tx-", "rollback-"]

/-- How the reconcilers begin the transaction ids they derive from the operation. -/
def ownStarts : List String := ["tx-rec-", "rollback-rec-", "tx-act-rec-", "rollback-act-rec-"]

def OwnTx (h : Hashing) (op : ConsequentialOperation) (t : String) : Prop :=
  ∃ start ∈ ownStarts, t = start ++ h.short op.id

def ExitTx (h : Hashing) (op : ConsequentialOperation) (t : String) : Prop :=
  (∃ start ∈ directStarts, ∃ s, t = start ++ h.short s) ∨ OwnTx h op t

theorem settleTx_own : OwnTx h a (settleTx h a) := ⟨_, by decide, rfl⟩

theorem releaseTx_own : OwnTx h a (releaseTx h a) := ⟨_, by decide, rfl⟩

theorem activationTx_own : OwnTx h a (activationTx h a) := ⟨_, by decide, rfl⟩

theorem activationRefundTx_own : OwnTx h a (activationRefundTx h a) := ⟨_, by decide, rfl⟩

theorem ExitTx.start {t : String} (exit : ExitTx h a t) :
    ∃ start ∈ directStarts ++ ownStarts, ∃ s, t = start ++ h.short s := by
  rcases exit with ⟨start, mem, s, e⟩ | ⟨start, mem, e⟩
  · exact ⟨start, List.mem_append_left _ mem, s, e⟩
  · exact ⟨start, List.mem_append_right _ mem, a.id, e⟩

theorem lockTx_inj (e : lockTx h a = lockTx h b) : h.short a.id = h.short b.id :=
  (String.append_right_inj _).mp e

/-- A digest has no hyphen and every beginning ends in one, so both can be read back. -/
theorem start_inj (hex : HexDigests h) {s t u v : String} (hs : s ∈ directStarts ++ ownStarts)
    (ht : t ∈ directStarts ++ ownStarts) (e : s ++ h.short u = t ++ h.short v) :
    s = t ∧ h.short u = h.short v := by
  have ends : ∀ r ∈ directStarts ++ ownStarts, r.toList = r.toList.dropLast ++ ['-'] := by decide
  have clean : ∀ x, '-' ∉ (h.short x).toList := fun x => hyphen_not_mem (hex x)
  have lists := congrArg String.toList e
  rw [String.toList_append, String.toList_append, ends s hs, ends t ht] at lists
  simp only [List.append_assoc, List.singleton_append] at lists
  obtain ⟨heads, tails⟩ := append_cons_inj_last (clean u) (clean v) lists
  refine ⟨String.toList_inj.mp ?_, String.toList_inj.mp tails⟩
  rw [ends s hs, ends t ht, heads]

theorem lockTx_ne_empty : lockTx h a ≠ "" := append_ne_empty _ (by decide)

theorem exitTx_ne_empty {t : String} (exit : ExitTx h a t) : t ≠ "" := by
  have filled : ∀ r ∈ directStarts ++ ownStarts, r.toList ≠ [] := by decide
  obtain ⟨start, mem, s, rfl⟩ := exit.start
  exact append_ne_empty _ (filled start mem)

theorem lockTx_ne_mint (u : String) : lockTx h a ≠ "mint-" ++ u :=
  ne_of_starts _ _ 1 (by decide) (by decide) (by decide)

theorem lockTx_not_exit : ¬ ExitTx h b (lockTx h a) := by
  intro exit
  have apart : ∀ r ∈ directStarts ++ ownStarts, 2 ≤ r.toList.length ∧
      "res-".toList.take 2 ≠ r.toList.take 2 := by
    decide
  obtain ⟨start, mem, s, e⟩ := exit.start
  exact ne_of_starts _ _ 2 (by decide) (apart start mem).1 (apart start mem).2 e

theorem exitTx_ne_mint {t : String} (exit : ExitTx h a t) (u : String) : t ≠ "mint-" ++ u := by
  have apart : ∀ r ∈ directStarts ++ ownStarts, 1 ≤ r.toList.length ∧
      r.toList.take 1 ≠ "mint-".toList.take 1 := by
    decide
  obtain ⟨start, mem, s, rfl⟩ := exit.start
  exact ne_of_starts _ _ 1 (apart start mem).1 (by decide) (apart start mem).2

/-- Only an operation with the same digest exits under a reconciler's transaction id. -/
theorem exitTx_own (hex : HexDigests h) {t : String} (own : OwnTx h a t) (exit : ExitTx h b t) :
    h.short a.id = h.short b.id := by
  obtain ⟨start, mem, rfl⟩ := own
  rcases exit with ⟨start', mem', s, e⟩ | ⟨start', mem', e⟩
  · obtain ⟨rfl, _⟩ := start_inj hex (List.mem_append_right _ mem) (List.mem_append_left _ mem') e
    have apart : ∀ r ∈ directStarts, r ∉ ownStarts := by decide
    exact absurd mem (apart _ mem')
  · exact (start_inj hex (List.mem_append_right _ mem) (List.mem_append_right _ mem') e).2

end TransactionIds

end EscrowNames
