import KalyxMao.ExactlyOnce

/-!
# The ledger section of an operation's audit

The auditor takes the first entry under one of the transaction ids a settlement
may have and compares its amount, not its accounts. What makes this enough is
said of the ledger as a whole: every exit from escrow goes the way the provider
decided, under an id that no other submitted operation can have.
-/

namespace LedgerAudit
open PythonText Ledger SqlLedgers LedgerEquivalence Domain Consequential KeyedLists
open EscrowNames EscrowInvariant Reconciliation

section Auditor
variable (h : Hashing) (op : ConsequentialOperation) (decision : PolicyDecision)

def auditTokenHash : String := h.short (orElse decision.authorizationToken op.id)

def possibleCommitTxIds : List String :=
  ["commit-" ++ op.id, "tx-" ++ auditTokenHash h op decision, "commit-" ++ auditTokenHash h op decision]

def possibleRollbackTxIds : List String :=
  ["rollback-" ++ op.id, "rollback-" ++ auditTokenHash h op decision]

def possibleRecTxIds : List String :=
  [settleTx h op, releaseTx h op, "tx-" ++ auditTokenHash h op decision,
    "commit-" ++ auditTokenHash h op decision, "rollback-" ++ auditTokenHash h op decision]

/-- The failures noted about the first entry under one of the ids. -/
def checkEntry (entries : List LedgerEntry) (txIds : List String) (missing : String)
    (wrong : Int → String) : List String :=
  match entries.find? fun e => e.transactionId ∈ txIds with
  | none => [missing]
  | some e => if e.amount ≠ op.amount then [wrong e.amount] else []

/-- The `LEDGER_SETTLEMENT` section of `Auditor.verify_consequential_operation`. -/
def verifyLedgerSettlement (entries : List LedgerEntry) : List String :=
  if 0 < op.amount then
    match op.state with
    | .succeeded =>
      checkEntry op entries (possibleCommitTxIds h op decision)
        s!"No commit transaction found for operation '{op.id}'"
        fun amount => s!"Ledger committed amount ({amount}) != operation amount ({op.amount})"
    | .failed =>
      checkEntry op entries (possibleRollbackTxIds h op decision)
        s!"No rollback transaction found for operation '{op.id}'"
        fun amount => s!"Ledger rolled back amount ({amount}) != operation amount ({op.amount})"
    | .reconciled =>
      checkEntry op entries (possibleRecTxIds h op decision)
        s!"No reconciliation transaction found for operation '{op.id}'"
        fun amount => s!"Reconciliation settled amount ({amount}) != operation amount ({op.amount})"
    | _ => []
  else []

variable {op}

theorem checkEntry_nil {entries : List LedgerEntry} {txIds : List String} {missing : String}
    {wrong : Int → String} (found : ∃ e ∈ entries, e.transactionId ∈ txIds)
    (amounts : ∀ e ∈ entries, e.transactionId ∈ txIds → e.amount = op.amount) :
    checkEntry op entries txIds missing wrong = [] := by
  unfold checkEntry
  split
  · rename_i none
    obtain ⟨e, mem, listed⟩ := found
    exact absurd (decide_eq_true listed) (List.find?_eq_none.mp none e mem)
  · rename_i e some
    have listed : e.transactionId ∈ txIds := by simpa using List.find?_some some
    rw [if_neg (not_not.mpr (amounts e (List.mem_of_find?_eq_some some) listed))]

end Auditor

section Outcomes

/-- What became of an operation at its provider. -/
inductive Outcome where
  | performed
  | refused
  deriving DecidableEq

def Outcome.target : Outcome → String
  | .performed => externalSink
  | .refused => treasury

/-- How the transaction id of a direct exit begins. -/
def Outcome.start : Outcome → String
  | .performed => "tx-"
  | .refused => "rollback-"

/-- How the transaction id of a reconciled exit begins. -/
def Outcome.recoveryStart : Outcome → String
  | .performed => "tx-rec-"
  | .refused => "rollback-rec-"

theorem Outcome.start_mem (o : Outcome) : o.start ∈ directStarts := by
  cases o <;> decide

theorem Outcome.recoveryStart_mem (o : Outcome) : o.recoveryStart ∈ ownStarts := by
  cases o <;> decide

theorem Outcome.target_route (o : Outcome) : o.target = externalSink ∨ o.target = treasury := by
  cases o
  · exact .inl rfl
  · exact .inr rfl

end Outcomes

section Accounts
variable (h : Hashing) (tokens : String → Option String) (outcome : String → Outcome)
  (entries : List LedgerEntry) (o : ConsequentialOperation)

/-- The digest of the token of the operation's decision. -/
def digest : String := h.short (orElse (tokens o.decisionId) o.id)

def directTx : String := (outcome o.id).start ++ digest h tokens o

def recoveredTx : String := (outcome o.id).recoveryStart ++ h.short o.id

/-- An exit of the operation the way the provider decided. -/
structure Leaves (e : LedgerEntry) : Prop where
  source : e.fromAccount = escrow
  target : e.toAccount = (outcome o.id).target
  memo : NamedFor o.id e.memo
  tx : e.transactionId = directTx h tokens outcome o ∨ e.transactionId = recoveredTx h outcome o

def DirectExit : Prop := ∃ e ∈ entries, e.fromAccount = escrow ∧ NamedFor o.id e.memo ∧
  e.transactionId = directTx h tokens outcome o

/-- What must be in the ledger for a state to be saved. -/
def Closes : OperationState → Prop
  | .succeeded => outcome o.id = .performed ∧ DirectExit h tokens outcome entries o
  | .failed => outcome o.id = .refused ∧ DirectExit h tokens outcome entries o
  | _ => True

/-- The provider has been called, or the operation has ended. -/
def IsSubmitted (s : OperationState) : Prop := s ≠ .created ∧ s ≠ .authorized ∧ s ≠ .escrowed

instance (s : OperationState) : Decidable (IsSubmitted s) := inferInstanceAs (Decidable (_ ∧ _))

/-- No other operation that was submitted has this token digest. -/
def Alone (ops : List ConsequentialOperation) (operationId d : String) : Prop :=
  ∀ o ∈ ops, o.id ≠ operationId → 0 < o.amount → IsSubmitted o.state → digest h tokens o ≠ d

/-- Exits are of stored operations, ended operations have theirs, and token digests of
submitted operations are apart. -/
structure Accounted (ops : List ConsequentialOperation) : Prop where
  exits : ∀ e ∈ entries, e.fromAccount = escrow → ∃ o ∈ ops, Leaves h tokens outcome o e
  ended : ∀ o ∈ ops, 0 < o.amount → Closes h tokens outcome entries o o.state
  apart : ∀ o ∈ ops, 0 < o.amount → IsSubmitted o.state → Alone h tokens ops o.id (digest h tokens o)

/-- The check passes under the operation's decision, and with credits at stake the ledger has
the operation's lock and one exit, to the account its outcome asks for. -/
structure Audited : Prop where
  passes : ∀ decision, decision.authorizationToken = tokens o.decisionId →
    verifyLedgerSettlement h o decision entries = []
  settled : 0 < o.amount → ∃ lock exit, locksOf entries o.id = [lock] ∧ exitsOf entries o.id = [exit] ∧
    lock.fromAccount = treasury ∧ lock.toAccount = escrow ∧ lock.amount = o.amount ∧
    exit.fromAccount = escrow ∧ exit.toAccount = (outcome o.id).target ∧ exit.amount = o.amount
  state : 0 < o.amount → (o.state = .succeeded → outcome o.id = .performed) ∧
    (o.state = .failed → outcome o.id = .refused)

end Accounts

section Transactions
variable {h : Hashing} {tokens : String → Option String} {outcome : String → Outcome}
  {entries : List LedgerEntry} {ops : List ConsequentialOperation} {o a : ConsequentialOperation}
  {e : LedgerEntry}

theorem directTx_exit : ExitTx h o (directTx h tokens outcome o) :=
  .inl ⟨_, (outcome o.id).start_mem, _, rfl⟩

theorem recoveredTx_own : OwnTx h o (recoveredTx h outcome o) :=
  ⟨_, (outcome o.id).recoveryStart_mem, rfl⟩

theorem Leaves.exitTx (leaves : Leaves h tokens outcome o e) : ExitTx h o e.transactionId := by
  rcases leaves.tx with direct | recovered
  · exact direct ▸ directTx_exit
  · exact recovered ▸ .inr recoveredTx_own

theorem leaves_of_mem (good : Good h entries ops) (acc : Accounted h tokens outcome entries ops)
    (mem : o ∈ ops) (he : e ∈ exitsOf entries o.id) : Leaves h tokens outcome o e := by
  obtain ⟨stored, hit⟩ := List.mem_filter.mp he
  simp only [Bool.and_eq_true, decide_eq_true_eq] at hit
  obtain ⟨a, ha, leaves⟩ := acc.exits e stored hit.1
  have own := (isIn_named (good.shapes o mem) (good.shapes a ha) leaves.memo).mp hit.2
  rwa [good.same_of_id mem ha own]

theorem Leaves.mem_exitsOf (leaves : Leaves h tokens outcome o e) (good : Good h entries ops)
    (mem : o ∈ ops) (he : e ∈ entries) : e ∈ exitsOf entries o.id := by
  have hit := (isIn_named (good.shapes o mem) (good.shapes o mem) leaves.memo).mpr rfl
  exact List.mem_filter.mpr ⟨he, by simp [leaves.source, hit]⟩

/-- Only a submitted operation has left escrow. -/
theorem submitted_of_exit (good : Good h entries ops) (mem : o ∈ ops)
    (he : e ∈ exitsOf entries o.id) : 0 < o.amount ∧ IsSubmitted o.state := by
  have pos : 0 < o.amount := by
    have amount := (good.exit_of_mem mem he).amount
    have := e.amount_pos
    omega
  have left := List.length_pos_of_mem he
  have status := good.status o mem pos
  refine ⟨pos, fun s => ?_, fun s => ?_, fun s => ?_⟩
  · rw [s] at status
    exact absurd status.2 (by omega)
  · rw [s] at status
    exact absurd status.2 (by omega)
  · rw [s] at status
    exact absurd status.2 (by omega)

/-- Every entry is funding, a lock, or an exit the way the provider decided. -/
theorem entry_cases (good : Good h entries ops) (acc : Accounted h tokens outcome entries ops)
    (he : e ∈ entries) : (∃ u, e.transactionId = "mint-" ++ u) ∨
    (∃ a : ConsequentialOperation, e.transactionId = lockTx h a) ∨
    ∃ a ∈ ops, e ∈ exitsOf entries a.id ∧ Leaves h tokens outcome a e := by
  rcases good.origin e he with funding | ⟨a, ha, lock | exit⟩
  · exact .inl funding.tx
  · exact .inr (.inl ⟨a, lock.tx⟩)
  · have mem := good.mem_exitsOf ha he exit
    exact .inr (.inr ⟨a, ha, mem, leaves_of_mem good acc ha mem⟩)

/-- Under an id an exit of the operation may have, the ledger has only its own exits. -/
theorem own_exit (hex : HexDigests h) (good : Good h entries ops)
    (acc : Accounted h tokens outcome entries ops) (mem : o ∈ ops) (pos : 0 < o.amount)
    (submitted : IsSubmitted o.state) (he : e ∈ entries)
    (tx : (∃ start ∈ directStarts, e.transactionId = start ++ digest h tokens o) ∨
      OwnTx h o e.transactionId) : e ∈ exitsOf entries o.id := by
  have exitTx : ExitTx h o e.transactionId :=
    tx.imp (fun ⟨start, mem, same⟩ => ⟨start, mem, _, same⟩) id
  have apart : ∀ start ∈ directStarts, start ∉ ownStarts := by decide
  rcases entry_cases good acc he with ⟨u, mint⟩ | ⟨a, lock⟩ | ⟨a, ha, exit, leaves⟩
  · exact absurd mint (exitTx_ne_mint exitTx u)
  · exact absurd (lock ▸ exitTx) lockTx_not_exit
  · suffices same : a.id = o.id by rwa [same] at exit
    rcases tx with ⟨start, known, direct⟩ | own
    · rcases leaves.tx with other | other
      · obtain ⟨-, digests⟩ := start_inj hex (List.mem_append_left _ (outcome a.id).start_mem)
          (List.mem_append_left _ known) (other.symm.trans direct)
        obtain ⟨posA, submittedA⟩ := submitted_of_exit good ha exit
        by_contra different
        exact acc.apart o mem pos submitted a ha different posA submittedA digests
      · obtain ⟨same, -⟩ := start_inj hex (List.mem_append_right _ (outcome a.id).recoveryStart_mem)
          (List.mem_append_left _ known) (other.symm.trans direct)
        exact absurd (outcome a.id).recoveryStart_mem (same ▸ apart start known)
    · exact (good.digests o mem a ha (exitTx_own hex own leaves.exitTx)).symm

theorem commit_unused (good : Good h entries ops) (acc : Accounted h tokens outcome entries ops)
    (he : e ∈ entries) (s : String) : e.transactionId ≠ "commit-" ++ s := by
  have starts : ∀ r ∈ directStarts ++ ownStarts, 1 ≤ r.toList.length ∧
      r.toList.take 1 ≠ "commit-".toList.take 1 := by
    decide
  rcases entry_cases good acc he with ⟨u, mint⟩ | ⟨a, lock⟩ | ⟨a, ha, -, leaves⟩
  · rw [mint]
    exact ne_of_starts _ _ 1 (by decide) (by decide) (by decide)
  · rw [lock]
    exact ne_of_starts _ _ 1 (by decide) (by decide) (by decide)
  · obtain ⟨start, known, u, same⟩ := leaves.exitTx.start
    rw [same]
    exact ne_of_starts _ _ 1 (starts start known).1 (by decide) (starts start known).2

/-- An operation's id ends in a second hyphen before its digits, which no exit's id has there. -/
theorem rollback_unused (hex : HexDigests h) (good : Good h entries ops)
    (acc : Accounted h tokens outcome entries ops) (mem : o ∈ ops) (he : e ∈ entries) :
    e.transactionId ≠ "rollback-" ++ o.id := by
  rcases entry_cases good acc he with ⟨u, mint⟩ | ⟨a, lock⟩ | ⟨a, ha, -, leaves⟩
  · rw [mint]
    exact ne_of_starts _ _ 1 (by decide) (by decide) (by decide)
  · rw [lock]
    exact ne_of_starts _ _ 2 (by decide) (by decide) (by decide)
  · obtain ⟨start, known, u, same⟩ := leaves.exitTx.start
    obtain ⟨digits, -, clean, shape⟩ := good.shapes o mem
    have ends : ∀ r ∈ directStarts ++ ownStarts, r.toList = r.toList.dropLast ++ ['-'] ∧
        r.toList.dropLast ≠ "rollback-cop".toList := by
      decide
    intro other
    have lists := congrArg String.toList (same.symm.trans other)
    rw [shape, String.toList_append, String.toList_append, String.toList_ofList, (ends start known).1] at lists
    have split : start.toList.dropLast ++ '-' :: (h.short u).toList =
        "rollback-cop".toList ++ '-' :: digits := by
      simpa using lists
    exact (ends start known).2
      (append_cons_inj_last (hyphen_not_mem (hex u)) (hyphen_not_mem clean) split).1

end Transactions

section Audits
variable {h : Hashing} {tokens : String → Option String} {outcome : String → Outcome}
  {entries : List LedgerEntry} {ops : List ConsequentialOperation} {o : ConsequentialOperation}
  {e : LedgerEntry} {decision : PolicyDecision}

theorem auditTokenHash_eq (token : decision.authorizationToken = tokens o.decisionId) :
    auditTokenHash h o decision = digest h tokens o := by
  rw [auditTokenHash, token, digest]

/-- What the check may take for a settlement of the operation is an exit of the operation. -/
theorem listed_exit (hex : HexDigests h) (good : Good h entries ops)
    (acc : Accounted h tokens outcome entries ops) (mem : o ∈ ops) (pos : 0 < o.amount)
    (submitted : IsSubmitted o.state) (token : decision.authorizationToken = tokens o.decisionId)
    (he : e ∈ entries) (listed : e.transactionId ∈ possibleCommitTxIds h o decision ∨
      e.transactionId ∈ possibleRollbackTxIds h o decision ∨
      e.transactionId ∈ possibleRecTxIds h o decision) : e ∈ exitsOf entries o.id := by
  have direct (start : String) (known : start ∈ directStarts)
      (same : e.transactionId = start ++ auditTokenHash h o decision) : e ∈ exitsOf entries o.id := by
    rw [auditTokenHash_eq token] at same
    exact own_exit hex good acc mem pos submitted he (.inl ⟨start, known, same⟩)
  simp only [possibleCommitTxIds, possibleRollbackTxIds, possibleRecTxIds, List.mem_cons,
    List.not_mem_nil, or_false] at listed
  rcases listed with (other | same | other) | (other | same) | (own | own | same | other | same)
  · exact absurd other (commit_unused good acc he _)
  · exact direct "tx-" (by decide) same
  · exact absurd other (commit_unused good acc he _)
  · exact absurd other (rollback_unused hex good acc mem he)
  · exact direct "rollback-" (by decide) same
  · exact own_exit hex good acc mem pos submitted he (.inr (own ▸ settleTx_own))
  · exact own_exit hex good acc mem pos submitted he (.inr (own ▸ releaseTx_own))
  · exact direct "tx-" (by decide) same
  · exact absurd other (commit_unused good acc he _)
  · exact direct "rollback-" (by decide) same

theorem DirectExit.mem_exitsOf (direct : DirectExit h tokens outcome entries o)
    (good : Good h entries ops) (mem : o ∈ ops) :
    ∃ e ∈ exitsOf entries o.id, e.transactionId = directTx h tokens outcome o := by
  obtain ⟨e, he, source, named, tx⟩ := direct
  have hit := (isIn_named (good.shapes o mem) (good.shapes o mem) named).mpr rfl
  exact ⟨e, List.mem_filter.mpr ⟨he, by simp [source, hit]⟩, tx⟩

/-- An ended operation with credits at stake has one lock and one exit. -/
theorem ended_once (good : Good h entries ops) (acc : Accounted h tokens outcome entries ops)
    (mem : o ∈ ops) (terminal : o.state.Terminal) (pos : 0 < o.amount) :
    ∃ lock exit, locksOf entries o.id = [lock] ∧ exitsOf entries o.id = [exit] := by
  have status := good.status o mem pos
  have closes := acc.ended o mem pos
  suffices once : (locksOf entries o.id).length = 1 ∧ (exitsOf entries o.id).length = 1 by
    obtain ⟨lock, locks⟩ := List.length_eq_one_iff.mp once.1
    obtain ⟨exit, exits⟩ := List.length_eq_one_iff.mp once.2
    exact ⟨lock, exit, locks, exits⟩
  cases state : o.state <;> rw [state] at status terminal closes
  case succeeded => exact status
  case reconciled => exact status
  case failed =>
    obtain ⟨e, he, -⟩ := closes.2.mem_exitsOf good mem
    have left := List.length_pos_of_mem he
    obtain ⟨same, atMost⟩ := status
    constructor <;> omega
  all_goals exact absurd terminal (by decide)

/-- The reconciliation ids cover both outcomes, directly settled or recovered. -/
theorem Leaves.listed (leaves : Leaves h tokens outcome o e)
    (token : decision.authorizationToken = tokens o.decisionId) :
    e.transactionId ∈ possibleRecTxIds h o decision := by
  rw [possibleRecTxIds, auditTokenHash_eq token]
  rcases leaves.tx with direct | recovered
  · rw [direct, directTx]
    cases outcome o.id <;> simp [Outcome.start]
  · rw [recovered, recoveredTx]
    cases outcome o.id with
    | performed => exact List.mem_cons_self
    | refused => exact List.mem_cons_of_mem _ List.mem_cons_self

theorem submitted_of_terminal {s : OperationState} (terminal : s.Terminal) : IsSubmitted s := by
  revert terminal
  cases s <;> decide

/-- The ids of the operation's own exit are among those the check looks for. -/
theorem check_passes (hex : HexDigests h) (good : Good h entries ops)
    (acc : Accounted h tokens outcome entries ops) (mem : o ∈ ops) (terminal : o.state.Terminal)
    (token : decision.authorizationToken = tokens o.decisionId) :
    verifyLedgerSettlement h o decision entries = [] := by
  unfold verifyLedgerSettlement
  split
  · rename_i pos
    obtain ⟨lock, exit, -, exits⟩ := ended_once good acc mem terminal pos
    have closes := acc.ended o mem pos
    have amounts {txIds : List String} (listed : ∀ e ∈ entries, e.transactionId ∈ txIds →
        e ∈ exitsOf entries o.id) : ∀ e ∈ entries, e.transactionId ∈ txIds → e.amount = o.amount :=
      fun e he known => (good.exit_of_mem mem (listed e he known)).amount
    have own {e : LedgerEntry} (he : e ∈ entries) := listed_exit hex good acc mem
      pos (submitted_of_terminal terminal) token he
    have stored : ∀ e ∈ exitsOf entries o.id, e ∈ entries := fun e he => List.mem_of_mem_filter he
    split
    · rename_i succeeded
      rw [succeeded] at closes
      obtain ⟨performed, direct⟩ := closes
      obtain ⟨e, he, tx⟩ := direct.mem_exitsOf good mem
      refine checkEntry_nil ⟨e, stored e he, ?_⟩ (amounts fun e he known => own he (.inl known))
      rw [tx, directTx, performed, possibleCommitTxIds, auditTokenHash_eq token]
      exact List.mem_cons_of_mem _ List.mem_cons_self
    · rename_i failed
      rw [failed] at closes
      obtain ⟨refused, direct⟩ := closes
      obtain ⟨e, he, tx⟩ := direct.mem_exitsOf good mem
      refine checkEntry_nil ⟨e, stored e he, ?_⟩ (amounts fun e he known => own he (.inr (.inl known)))
      rw [tx, directTx, refused, possibleRollbackTxIds, auditTokenHash_eq token]
      exact List.mem_cons_of_mem _ List.mem_cons_self
    · have he : exit ∈ exitsOf entries o.id := exits ▸ List.mem_cons_self
      refine checkEntry_nil ⟨exit, stored exit he, ?_⟩
        (amounts fun e he known => own he (.inr (.inr known)))
      exact (leaves_of_mem good acc mem he).listed token
    · rfl
  · rfl

/-- Every ended operation of an accounted ledger passes the check, and passes it rightly. -/
theorem audited (hex : HexDigests h) (good : Good h entries ops)
    (acc : Accounted h tokens outcome entries ops) (mem : o ∈ ops) (terminal : o.state.Terminal) :
    Audited h tokens outcome entries o where
  passes decision token := check_passes hex good acc mem terminal token
  settled pos := by
    obtain ⟨lock, exit, locks, exits⟩ := ended_once good acc mem terminal pos
    have isLock := good.lock_of_mem mem (locks ▸ List.mem_cons_self)
    have exited : exit ∈ exitsOf entries o.id := exits ▸ List.mem_cons_self
    have isExit := good.exit_of_mem mem exited
    exact ⟨lock, exit, locks, exits, isLock.source, isLock.target, isLock.amount, isExit.source,
      (leaves_of_mem good acc mem exited).target, isExit.amount⟩
  state pos := by
    have closes := acc.ended o mem pos
    constructor
    · intro succeeded
      rw [succeeded] at closes
      exact closes.1
    · intro failed
      rw [failed] at closes
      exact closes.1

end Audits

namespace Accounted
variable {h : Hashing} {tokens : String → Option String} {outcome : String → Outcome}
  {entries : List LedgerEntry} {ops : List ConsequentialOperation} {o o' : ConsequentialOperation}

theorem closes_mono (e : LedgerEntry) {s : OperationState} (closes : Closes h tokens outcome entries o s) :
    Closes h tokens outcome (entries ++ [e]) o s := by
  have more (direct : DirectExit h tokens outcome entries o) :
      DirectExit h tokens outcome (entries ++ [e]) o := by
    obtain ⟨f, hf, is⟩ := direct
    exact ⟨f, List.mem_append_left _ hf, is⟩
  cases s with
  | succeeded => exact ⟨closes.1, more closes.2⟩
  | failed => exact ⟨closes.1, more closes.2⟩
  | _ => trivial

/-- One more entry, which leaves escrow only as a stored operation's exit. -/
theorem concat (acc : Accounted h tokens outcome entries ops) {e : LedgerEntry}
    (exit : e.fromAccount = escrow → ∃ o ∈ ops, Leaves h tokens outcome o e) :
    Accounted h tokens outcome (entries ++ [e]) ops where
  exits f hf := by
    rcases List.mem_append.mp hf with old | new
    · exact acc.exits f old
    · rw [List.mem_singleton.mp new]
      exact exit
  ended o mem pos := closes_mono e (acc.ended o mem pos)
  apart := acc.apart

/-- What the ledger knows an operation by. -/
structure SameRecord (a b : ConsequentialOperation) : Prop where
  id : a.id = b.id
  idempotencyKey : a.idempotencyKey = b.idempotencyKey
  decisionId : a.decisionId = b.decisionId
  amount : a.amount = b.amount

theorem SameRecord.trans {o'' : ConsequentialOperation} (first : SameRecord o'' o')
    (second : SameRecord o' o) : SameRecord o'' o :=
  ⟨first.id.trans second.id, first.idempotencyKey.trans second.idempotencyKey,
    first.decisionId.trans second.decisionId, first.amount.trans second.amount⟩

theorem SameRecord.digest (same : SameRecord o' o) :
    LedgerAudit.digest h tokens o' = LedgerAudit.digest h tokens o := by
  rw [LedgerAudit.digest, LedgerAudit.digest, same.decisionId, same.id]

theorem SameRecord.directTx (same : SameRecord o' o) :
    LedgerAudit.directTx h tokens outcome o' = LedgerAudit.directTx h tokens outcome o := by
  rw [LedgerAudit.directTx, LedgerAudit.directTx, same.digest, same.id]

theorem SameRecord.leaves (same : SameRecord o' o) {e : LedgerEntry}
    (leaves : Leaves h tokens outcome o e) : Leaves h tokens outcome o' e where
  source := leaves.source
  target := by rw [same.id]; exact leaves.target
  memo := by rw [same.id]; exact leaves.memo
  tx := by
    rw [same.directTx, recoveredTx, same.id]
    exact leaves.tx

theorem SameRecord.closes (same : SameRecord o' o) {s : OperationState}
    (closes : Closes h tokens outcome entries o s) : Closes h tokens outcome entries o' s := by
  have again (direct : DirectExit h tokens outcome entries o) :
      DirectExit h tokens outcome entries o' := by
    obtain ⟨e, he, source, named, tx⟩ := direct
    exact ⟨e, he, source, same.id ▸ named, tx.trans same.directTx.symm⟩
  cases s with
  | succeeded => exact ⟨same.id ▸ closes.1, again closes.2⟩
  | failed => exact ⟨same.id ▸ closes.1, again closes.2⟩
  | _ => trivial

/-- A changed record whose state has what it needs in the ledger. -/
theorem replace (acc : Accounted h tokens outcome entries ops)
    (ids : (ops.map ConsequentialOperation.id).Nodup) (mem : o ∈ ops) (same : SameRecord o' o)
    (closes : 0 < o.amount → Closes h tokens outcome entries o o'.state)
    (alone : 0 < o.amount → IsSubmitted o'.state → IsSubmitted o.state ∨
      Alone h tokens ops o.id (digest h tokens o)) :
    Accounted h tokens outcome entries (replaceBy ConsequentialOperation.id ops o') where
  exits e he source := by
    obtain ⟨a, ha, leaves⟩ := acc.exits e he source
    by_cases own : a.id = o'.id
    · obtain rfl := eq_of_key ids ha mem (own.trans same.id)
      exact ⟨o', mem_replaceBy_self ha own, same.leaves leaves⟩
    · exact ⟨a, mem_replaceBy_ne ha own, leaves⟩
  ended a ha pos := by
    rcases mem_replaceBy ha with rfl | ⟨old, -⟩
    · exact same.closes (closes (same.amount ▸ pos))
    · exact acc.ended a old pos
  apart a ha pos submitted b hb different posB submittedB := by
    rcases mem_replaceBy ha with rfl | ⟨old, other⟩
    · rcases mem_replaceBy hb with rfl | ⟨oldB, -⟩
      · exact absurd rfl different
      · rw [same.id] at different
        rw [same.digest]
        rcases alone (same.amount ▸ pos) submitted with before | alone
        · exact acc.apart o mem (same.amount ▸ pos) before b oldB different posB submittedB
        · exact alone b oldB different posB submittedB
    · rcases mem_replaceBy hb with rfl | ⟨oldB, -⟩
      · rw [same.digest]
        rw [same.id] at different other
        rcases alone (same.amount ▸ posB) submittedB with before | alone
        · exact acc.apart a old pos submitted o mem different (same.amount ▸ posB) before
        · exact (alone a old other pos submitted).symm
      · exact acc.apart a old pos submitted b oldB different posB submittedB

/-- A new record that has not been submitted. -/
theorem register (acc : Accounted h tokens outcome entries ops) (created : o.state = .created) :
    Accounted h tokens outcome entries (ops ++ [o]) where
  exits e he source := by
    obtain ⟨a, ha, leaves⟩ := acc.exits e he source
    exact ⟨a, List.mem_append_left _ ha, leaves⟩
  ended a ha pos := by
    rcases List.mem_append.mp ha with old | added
    · exact acc.ended a old pos
    · rw [List.mem_singleton.mp added, created]
      trivial
  apart a ha pos submitted b hb different posB submittedB := by
    rcases List.mem_append.mp ha with old | added
    · rcases List.mem_append.mp hb with oldB | addedB
      · exact acc.apart a old pos submitted b oldB different posB submittedB
      · rw [List.mem_singleton.mp addedB] at submittedB
        exact absurd created submittedB.1
    · rw [List.mem_singleton.mp added] at submitted
      exact absurd created submitted.1

end Accounted

end LedgerAudit
