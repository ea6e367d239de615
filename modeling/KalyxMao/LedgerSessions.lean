import KalyxMao.ScopedLedgers
import KalyxMao.StepRuns

/-!
# Transfers over one SQLite connection

Both SQLite ledgers open a transaction, look for the identifier, read the
balance, insert the row and commit, and the database may raise at each of these
statements. The atomic ledger rolls back where the exception is an
`OperationalError`, the ledger it extends where any exception is raised.
-/

namespace LedgerSessions
open PythonText Ledger SqlLedgers StepRuns

section Model

/-- A connection, with what its open transaction sees. Rows refer to tenants. -/
structure Session where
  rows : Table
  pending : Option Table
  tenants : List String
  deriving DecidableEq

/-- An exception that a statement raises: whether it is a `sqlite3.OperationalError`, and whether
the database has ended the transaction on its own. -/
structure Failure where
  error : PyError
  operational : Bool
  ended : Bool
  deriving DecidableEq

/-- What the database raises at the statements of one transfer, where they are reached. -/
structure Faults where
  begin_ : Option Failure := none
  lookup : Option Failure := none
  balance : Option Failure := none
  insert : Option Failure := none
  commit : Option Failure := none
  deriving DecidableEq

namespace Session

def rollback (s : Session) : Session := { s with pending := none }

/-- The connection behind an exception of the database. -/
def raised (s : Session) (x : Failure) : Session := if x.ended then s.rollback else s

def view (s : Session) : Table := s.pending.getD s.rows

def nested : Failure :=
  ⟨⟨.otherException, "cannot start a transaction within a transaction"⟩, true, false⟩

/-- `BEGIN IMMEDIATE`. -/
def begin_ (s : Session) (fault : Option Failure) : Except Failure Session :=
  match fault with
  | some x => .error x
  | none => if s.pending.isSome then .error nested else .ok { s with pending := some s.rows }

def foreignKeyFailed : Failure := ⟨⟨.integrityError, "FOREIGN KEY constraint failed"⟩, false, false⟩

/-- `INSERT INTO ledger_entries`: the unique columns are checked first, the tenant at the end. -/
def insert (s : Session) (fault : Option Failure) (r : LedgerRow) : Except Failure Session :=
  match fault with
  | some x => .error x
  | none =>
    match insertRow .sqlite s.view r with
    | .error e => .error ⟨e, false, false⟩
    | .ok rows => if r.tenantId ∈ s.tenants then .ok { s with pending := some rows }
      else .error foreignKeyFailed

def commit (s : Session) (fault : Option Failure) : Except Failure Session :=
  match fault with
  | some x => .error x
  | none => .ok { s with rows := s.view, pending := none }

end Session

structure Request where
  draw : Draw
  fromAccount : String
  toAccount : String
  amount : Int
  memo : String
  transactionId : Option String
  deriving DecidableEq

namespace Request

def txId (q : Request) : String := orElse q.transactionId q.draw.txUuid

def row (q : Request) (tenantId : Option String) : LedgerRow :=
  ⟨q.draw.entryId, q.draw.now, q.txId, q.fromAccount, q.toAccount, q.amount, q.memo,
    tenantId.getD defaultTenant⟩

end Request

/-- The behaviour behind an exception of the database: `AtomicSqliteLedger` rolls back only where
it is an `OperationalError`. -/
def atomicHandler (s : Session) (x : Failure) : Except PyError LedgerEntry × Session :=
  let s := s.raised x
  (.error x.error, if x.operational then s.rollback else s)

def badTenant : PyError := ⟨.valueError, "tenant_id must be a non-empty identifier without ':'"⟩

/-- `AtomicSqliteLedger.transfer`. -/
def atomicTransfer (s : Session) (f : Faults) (q : Request) (tenantId : Option String) :
    Except PyError LedgerEntry × Session :=
  if q.amount ≤ 0 then (.error (amountNotPositive q.amount), s)
  else if q.fromAccount = q.toAccount then (.error sameAccount, s)
  else if ∃ t ∈ tenantId, ¬IsScope t then (.error badTenant, s)
  else
    match s.begin_ f.begin_ with
    | .error x => atomicHandler s x
    | .ok s =>
      match f.lookup with
      | some x => atomicHandler s x
      | none =>
        if s.view.any fun r => r.transactionId = q.txId then
          (.error (duplicateTransaction q.txId), s.rollback)
        else
          match f.balance with
          | some x => atomicHandler s x
          | none =>
            let balance := balanceOf s.view q.fromAccount
            if balance < q.amount then
              (.error (insufficientCredits q.fromAccount balance q.amount), s.rollback)
            else
              match s.insert f.insert (q.row tenantId) with
              | .error x => atomicHandler s x
              | .ok s =>
                match s.commit f.commit with
                | .error x => atomicHandler s x
                | .ok s => ((q.row tenantId).toEntry, s)

/-- `except Exception: if conn.in_transaction: conn.rollback()`. -/
def baseHandler (s : Session) (e : PyError) : Except PyError LedgerEntry × Session :=
  (.error e, s.rollback)

/-- `SqliteLedger.transfer`. -/
def baseTransfer (s : Session) (f : Faults) (q : Request) : Except PyError LedgerEntry × Session :=
  if q.amount ≤ 0 then (.error (amountNotPositive q.amount), s)
  else if q.fromAccount = q.toAccount then (.error sameAccount, s)
  else
    match s.begin_ f.begin_ with
    | .error x => baseHandler s x.error
    | .ok s =>
      match f.lookup with
      | some x => baseHandler s x.error
      | none =>
        if s.view.any fun r => r.transactionId = q.txId then
          baseHandler s (duplicateTransaction q.txId)
        else
          match f.balance with
          | some x => baseHandler s x.error
          | none =>
            let balance := balanceOf s.view q.fromAccount
            if balance < q.amount then
              baseHandler s (insufficientCredits q.fromAccount balance q.amount)
            else
              match s.insert f.insert (q.row none) with
              | .error x =>
                if x.error.kind = .integrityError ∧ isIn "transaction_id" x.error.message then
                  baseHandler s (duplicateTransaction q.txId)
                else baseHandler s x.error
              | .ok s =>
                match s.commit f.commit with
                | .error x => baseHandler s x.error
                | .ok s => ((q.row none).toEntry, s)

/-- The transaction does not stay open behind the exception. -/
def Failure.Cleared (x : Failure) : Prop := x.operational = true ∨ x.ended = true

end Model

section Property

/-- The request that a transfer looks at before it opens a transaction. -/
structure Valid (q : Request) (tenantId : Option String) : Prop where
  amount : 0 < q.amount
  accounts : q.fromAccount ≠ q.toAccount
  tenant : ∀ t ∈ tenantId, IsScope t

/-- The columns of the row that the schema constrains. -/
structure Fits (s : Session) (q : Request) (tenantId : Option String) : Prop where
  id : ∀ r ∈ s.rows, r.id ≠ q.draw.entryId
  tenant : tenantId.getD defaultTenant ∈ s.tenants

def New (s : Session) (q : Request) : Prop := ∀ r ∈ s.rows, r.transactionId ≠ q.txId

/-- A request that a ledger takes when the database raises nothing. -/
structure Acceptable (s : Session) (q : Request) (tenantId : Option String) : Prop where
  valid : Valid q tenantId
  new : New s q
  covered : q.amount ≤ balanceOf s.rows q.fromAccount
  fits : Fits s q tenantId

structure Call where
  faults : Faults
  request : Request
  tenantId : Option String

def step (s : Session) (c : Call) : Session := (atomicTransfer s c.faults c.request c.tenantId).2

/-- What a transfer promises: one entry, committed and as the plain ledger makes it, or none; and
in either case no open transaction, so that the next call goes through. -/
structure Settled (s : Session) (c : Call) : Prop where
  closed : (step s c).pending = none
  entry : (∃ e, (atomicTransfer s c.faults c.request c.tenantId).1 = .ok e ∧
      (step s c).rows = s.rows ++ [c.request.row c.tenantId]) ∨
    (∃ e, (atomicTransfer s c.faults c.request c.tenantId).1 = .error e) ∧ (step s c).rows = s.rows
  again : ∀ q tenantId, Acceptable (step s c) q tenantId →
    ∃ e, (atomicTransfer (step s c) {} q tenantId).1 = .ok e
  agrees : ∀ e, (atomicTransfer s c.faults c.request c.tenantId).1 = .ok e →
    baseTransfer s {} c.request = (.ok e, { s with rows := s.rows ++ [c.request.row none] })

/-- A transfer that has opened its transaction. -/
def Opened (c : Call) : Prop := Valid c.request c.tenantId ∧ c.faults.begin_ = none

/-- A transfer that has seen its identifier as new. -/
def Looked (s : Session) (c : Call) : Prop := Opened c ∧ c.faults.lookup = none ∧ New s c.request

/-- A transfer that has seen the balance as enough. -/
def Covered (s : Session) (c : Call) : Prop :=
  Looked s c ∧ c.faults.balance = none ∧ c.request.amount ≤ balanceOf s.rows c.request.fromAccount

/-- Whatever the database raises inside the transaction is an `OperationalError`, or ends it. -/
structure Contained (s : Session) (c : Call) : Prop where
  lookup : Opened c → ∀ x ∈ c.faults.lookup, x.Cleared
  balance : Looked s c → ∀ x ∈ c.faults.balance, x.Cleared
  insert : Covered s c → ∀ x ∈ c.faults.insert, x.Cleared
  constraints : Covered s c → c.faults.insert = none → Fits s c.request c.tenantId
  commit : Covered s c → c.faults.insert = none → Fits s c.request c.tenantId →
    ∀ x ∈ c.faults.commit, x.Cleared

end Property

section Transfers
variable {s : Session} {c : Call} {q : Request} {tenantId : Option String} {x : Failure} {p : Table}

theorem handler_rows : (atomicHandler { s with pending := some p } x).2.rows = s.rows := by
  unfold atomicHandler Session.raised Session.rollback
  dsimp only
  split
  · split
    · rfl
    · rfl
  · split
    · rfl
    · rfl

/-- Behind an exception the transaction is closed exactly if the handler or the database did it. -/
theorem handler_closed :
    (atomicHandler { s with pending := some p } x).2.pending = none ↔ x.Cleared := by
  unfold atomicHandler Session.raised Session.rollback Failure.Cleared
  dsimp only
  cases x.operational with
  | true => simp
  | false =>
    cases x.ended with
    | true => simp
    | false => simp

theorem handler_of_closed (closed : s.pending = none) : (atomicHandler s x).2 = s := by
  obtain ⟨rows, pending, tenants⟩ := s
  obtain rfl : pending = none := closed
  unfold atomicHandler Session.raised Session.rollback
  dsimp only
  split
  · split
    · rfl
    · rfl
  · split
    · rfl
    · rfl

/-- The row goes in where no constraint is broken. -/
theorem insert_fits (new : New s q) (fits : Fits s q tenantId) :
    ({ s with pending := some s.rows } : Session).insert none (q.row tenantId) =
      .ok { s with pending := some (s.rows ++ [q.row tenantId]) } := by
  have ids : (s.rows.any fun r => decide (r.id = (q.row tenantId).id)) = false := by
    rw [List.any_eq_false]
    intro r mem same
    exact fits.id r mem (of_decide_eq_true same)
  have transactions : (s.rows.any fun r => decide (r.transactionId = (q.row tenantId).transactionId)) =
      false := by
    rw [List.any_eq_false]
    intro r mem same
    exact new r mem (of_decide_eq_true same)
  have inserted : insertRow .sqlite s.rows (q.row tenantId) = .ok (s.rows ++ [q.row tenantId]) := by
    rw [insertRow, if_neg (by simp), ids, transactions]
    rfl
  have tenant : (q.row tenantId).tenantId ∈ s.tenants := fits.tenant
  unfold Session.insert
  dsimp only
  rw [show Session.view { s with pending := some s.rows } = s.rows from rfl, inserted]
  dsimp only
  rw [if_pos tenant]

/-- A broken constraint raises, and leaves the transaction open. -/
theorem insert_broken (broken : ¬Fits s q tenantId) :
    ∃ x, ({ s with pending := some s.rows } : Session).insert none (q.row tenantId) = .error x ∧
      ¬x.Cleared := by
  have stray (e : PyError) : ¬(⟨e, false, false⟩ : Failure).Cleared := by
    rintro (operational | ended)
    · cases operational
    · cases ended
  unfold Session.insert
  dsimp only
  rw [show Session.view { s with pending := some s.rows } = s.rows from rfl]
  cases inserted : insertRow .sqlite s.rows (q.row tenantId) with
  | error e => exact ⟨_, rfl, stray e⟩
  | ok rows =>
    dsimp only
    by_cases tenant : (q.row tenantId).tenantId ∈ s.tenants
    · have ids : ∀ r ∈ s.rows, r.id ≠ q.draw.entryId := by
        intro r mem same
        rw [insertRow, if_neg (by simp), if_pos (List.any_eq_true.mpr ⟨r, mem, decide_eq_true same⟩)]
          at inserted
        cases inserted
      exact absurd ⟨ids, tenant⟩ broken
    · rw [if_neg tenant]
      exact ⟨_, rfl, stray _⟩

theorem toEntry_row (valid : Valid q tenantId) :
    ∃ e, (q.row tenantId).toEntry = .ok e ∧ (q.row none).toEntry = .ok e := by
  refine ⟨⟨q.draw.entryId, q.draw.now, q.txId, q.fromAccount, q.toAccount, q.amount, q.memo,
    valid.amount⟩, ?_, ?_⟩
  · exact dif_pos valid.amount
  · exact dif_pos valid.amount

/-- A request that is not in order, or a transaction that does not begin, changes nothing. -/
theorem transfer_unopened (closed : s.pending = none) (unopened : ¬Opened c) :
    ∃ e, atomicTransfer s c.faults c.request c.tenantId = (.error e, s) := by
  unfold atomicTransfer
  by_cases amount : c.request.amount ≤ 0
  · rw [if_pos amount]
    exact ⟨_, rfl⟩
  · rw [if_neg amount]
    by_cases accounts : c.request.fromAccount = c.request.toAccount
    · rw [if_pos accounts]
      exact ⟨_, rfl⟩
    · rw [if_neg accounts]
      by_cases tenant : ∃ t ∈ c.tenantId, ¬IsScope t
      · rw [if_pos tenant]
        exact ⟨_, rfl⟩
      · rw [if_neg tenant]
        have valid : Valid c.request c.tenantId := by
          refine ⟨Int.not_le.mp amount, accounts, fun t mem => ?_⟩
          by_contra bad
          exact tenant ⟨t, mem, bad⟩
        cases begun : c.faults.begin_ with
        | none => exact absurd ⟨valid, begun⟩ unopened
        | some x =>
          show ∃ e, atomicHandler s x = (.error e, s)
          exact ⟨x.error, Prod.ext rfl (handler_of_closed closed)⟩

/-- What a transfer does inside its transaction. -/
theorem transfer_opened (closed : s.pending = none) (opened : Opened c) :
    atomicTransfer s c.faults c.request c.tenantId =
      match c.faults.lookup with
      | some x => atomicHandler { s with pending := some s.rows } x
      | none =>
        if s.rows.any fun r => r.transactionId = c.request.txId then
          (.error (duplicateTransaction c.request.txId), s)
        else
          match c.faults.balance with
          | some x => atomicHandler { s with pending := some s.rows } x
          | none =>
            if balanceOf s.rows c.request.fromAccount < c.request.amount then
              (.error (insufficientCredits c.request.fromAccount
                (balanceOf s.rows c.request.fromAccount) c.request.amount), s)
            else
              match Session.insert { s with pending := some s.rows } c.faults.insert
                (c.request.row c.tenantId) with
              | .error x => atomicHandler { s with pending := some s.rows } x
              | .ok s =>
                match s.commit c.faults.commit with
                | .error x => atomicHandler s x
                | .ok s => ((c.request.row c.tenantId).toEntry, s) := by
  obtain ⟨rows, pending, tenants⟩ := s
  obtain rfl : pending = none := closed
  obtain ⟨valid, begun⟩ := opened
  have tenant : ¬∃ t ∈ c.tenantId, ¬IsScope t := by
    rintro ⟨t, mem, bad⟩
    exact bad (valid.tenant t mem)
  unfold atomicTransfer
  rw [if_neg (Int.not_le.mpr valid.amount), if_neg valid.accounts, if_neg tenant, begun]
  rfl

theorem transfer_duplicate (closed : s.pending = none) (opened : Opened c)
    (lookup : c.faults.lookup = none) (old : ¬New s c.request) :
    ∃ e, atomicTransfer s c.faults c.request c.tenantId = (.error e, s) := by
  have found : (s.rows.any fun r => decide (r.transactionId = c.request.txId)) = true := by
    by_contra none_
    exact old fun r mem same => none_ (List.any_eq_true.mpr ⟨r, mem, decide_eq_true same⟩)
  rw [transfer_opened closed opened, lookup]
  dsimp only
  rw [if_pos found]
  exact ⟨_, rfl⟩

theorem transfer_looked (closed : s.pending = none) (looked : Looked s c) :
    atomicTransfer s c.faults c.request c.tenantId =
      match c.faults.balance with
      | some x => atomicHandler { s with pending := some s.rows } x
      | none =>
        if balanceOf s.rows c.request.fromAccount < c.request.amount then
          (.error (insufficientCredits c.request.fromAccount
            (balanceOf s.rows c.request.fromAccount) c.request.amount), s)
        else
          match Session.insert { s with pending := some s.rows } c.faults.insert
            (c.request.row c.tenantId) with
          | .error x => atomicHandler { s with pending := some s.rows } x
          | .ok s =>
            match s.commit c.faults.commit with
            | .error x => atomicHandler s x
            | .ok s => ((c.request.row c.tenantId).toEntry, s) := by
  obtain ⟨opened, lookup, new⟩ := looked
  have absent : (s.rows.any fun r => decide (r.transactionId = c.request.txId)) = false := by
    rw [List.any_eq_false]
    intro r mem same
    exact new r mem (of_decide_eq_true same)
  rw [transfer_opened closed opened, lookup]
  dsimp only
  rw [if_neg (ne_true_of_eq_false absent)]

theorem transfer_covered (closed : s.pending = none) (covered : Covered s c) :
    atomicTransfer s c.faults c.request c.tenantId =
      match Session.insert { s with pending := some s.rows } c.faults.insert
        (c.request.row c.tenantId) with
      | .error x => atomicHandler { s with pending := some s.rows } x
      | .ok s =>
        match s.commit c.faults.commit with
        | .error x => atomicHandler s x
        | .ok s => ((c.request.row c.tenantId).toEntry, s) := by
  obtain ⟨looked, balance, enough⟩ := covered
  rw [transfer_looked closed looked, balance]
  dsimp only
  rw [if_neg (Int.not_lt.mpr enough)]

/-- How a transfer ends: refused with nothing changed, in the handler of an exception that the
database raised inside the transaction, or accepted. -/
inductive Ends (s : Session) (c : Call) : Prop where
  | refused (unchanged : ∃ e, atomicTransfer s c.faults c.request c.tenantId = (.error e, s))
      (contained : Contained s c)
  | raised (x : Failure) (p : Table)
      (handled : atomicTransfer s c.faults c.request c.tenantId =
        atomicHandler { s with pending := some p } x)
      (contained : Contained s c ↔ x.Cleared)
  | accepted (acceptable : Acceptable s c.request c.tenantId) (contained : Contained s c)
      (entered : atomicTransfer s c.faults c.request c.tenantId = ((c.request.row c.tenantId).toEntry,
        { s with rows := s.rows ++ [c.request.row c.tenantId], pending := none }))

/-- A condition on statements that are not reached is met. -/
theorem contained_unlooked (lookup : Opened c → ∀ x ∈ c.faults.lookup, x.Cleared)
    (unlooked : ¬Looked s c) : Contained s c :=
  ⟨lookup, fun looked => absurd looked unlooked, fun covered => absurd covered.1 unlooked,
    fun covered => absurd covered.1 unlooked, fun covered => absurd covered.1 unlooked⟩

theorem contained_uncovered (lookup : c.faults.lookup = none)
    (balance : ∀ x ∈ c.faults.balance, x.Cleared) (uncovered : ¬Covered s c) : Contained s c :=
  ⟨fun _ _ mem => (Option.some_ne_none _ (mem.symm.trans lookup)).elim, fun _ => balance,
    fun covered => absurd covered uncovered, fun covered => absurd covered uncovered,
    fun covered => absurd covered uncovered⟩

theorem contained_covered (covered : Covered s c) (insert : ∀ x ∈ c.faults.insert, x.Cleared)
    (constraints : c.faults.insert = none → Fits s c.request c.tenantId)
    (commit : c.faults.insert = none → ∀ x ∈ c.faults.commit, x.Cleared) : Contained s c := by
  obtain ⟨⟨-, lookup, -⟩, balance, -⟩ := covered
  refine ⟨fun _ x mem => ?_, fun _ x mem => ?_, fun _ => insert, fun _ => constraints,
    fun _ inserted _ => commit inserted⟩
  · rw [lookup] at mem
    cases mem
  · rw [balance] at mem
    cases mem

theorem covered_ends (closed : s.pending = none) (covered : Covered s c) : Ends s c := by
  have enter := transfer_covered closed covered
  cases insert : c.faults.insert with
  | some x =>
    refine .raised x s.rows ?_ ⟨fun contained => contained.insert covered x insert, fun cleared => ?_⟩
    · rw [enter, insert]
      rfl
    · refine contained_covered covered (fun x' mem => ?_) (fun none_ => ?_) (fun none_ => ?_)
      · obtain rfl := Option.some.inj (insert.symm.trans mem)
        exact cleared
      · cases insert.symm.trans none_
      · cases insert.symm.trans none_
  | none =>
    have inserted : ∀ x ∈ c.faults.insert, x.Cleared := by
      intro x mem
      cases insert.symm.trans mem
    by_cases fits : Fits s c.request c.tenantId
    · rw [insert, insert_fits covered.1.2.2 fits] at enter
      cases commit : c.faults.commit with
      | some x =>
        refine .raised x (s.rows ++ [c.request.row c.tenantId]) ?_
          ⟨fun contained => contained.commit covered insert fits x commit, fun cleared => ?_⟩
        · rw [enter, commit]
          rfl
        · refine contained_covered covered inserted (fun _ => fits) (fun _ x' mem => ?_)
          obtain rfl := Option.some.inj (commit.symm.trans mem)
          exact cleared
      | none =>
        refine .accepted ⟨covered.1.1.1, covered.1.2.2, covered.2.2, fits⟩ ?_ ?_
        · refine contained_covered covered inserted (fun _ => fits) (fun _ x mem => ?_)
          cases commit.symm.trans mem
        · rw [enter, commit]
          rfl
    · obtain ⟨x, broken, stray⟩ := insert_broken fits
      refine .raised x s.rows ?_ ⟨fun contained => ?_, fun cleared => absurd cleared stray⟩
      · rw [enter, insert, broken]
      · exact absurd (contained.constraints covered insert) fits

theorem transfer_ends (closed : s.pending = none) : Ends s c := by
  by_cases opened : Opened c
  · cases lookup : c.faults.lookup with
    | some x =>
      have unlooked : ¬Looked s c := by
        rintro ⟨-, none_, -⟩
        rw [lookup] at none_
        cases none_
      refine .raised x s.rows ?_ ⟨fun contained => contained.lookup opened x lookup, fun cleared => ?_⟩
      · rw [transfer_opened closed opened, lookup]
      · apply contained_unlooked _ unlooked
        intro _ x' mem
        obtain rfl := Option.some.inj (lookup.symm.trans mem)
        exact cleared
    | none =>
      have unread : Opened c → ∀ x ∈ c.faults.lookup, x.Cleared := by
        intro _ x mem
        rw [lookup] at mem
        cases mem
      by_cases new : New s c.request
      · have looked : Looked s c := ⟨opened, lookup, new⟩
        cases balance : c.faults.balance with
        | some x =>
          have uncovered : ¬Covered s c := by
            rintro ⟨-, none_, -⟩
            rw [balance] at none_
            cases none_
          refine .raised x s.rows ?_ ⟨fun contained => contained.balance looked x balance,
            fun cleared => ?_⟩
          · rw [transfer_looked closed looked, balance]
          · apply contained_uncovered lookup _ uncovered
            intro x' mem
            obtain rfl := Option.some.inj (balance.symm.trans mem)
            exact cleared
        | none =>
          by_cases enough : c.request.amount ≤ balanceOf s.rows c.request.fromAccount
          · exact covered_ends closed ⟨looked, balance, enough⟩
          · refine .refused ?_ (contained_uncovered lookup ?_ fun covered => enough covered.2.2)
            · rw [transfer_looked closed looked, balance]
              dsimp only
              rw [if_pos (Int.not_le.mp enough)]
              exact ⟨_, rfl⟩
            · intro x mem
              rw [balance] at mem
              cases mem
      · exact .refused (transfer_duplicate closed opened lookup new)
          (contained_unlooked unread fun looked => new looked.2.2)
  · refine .refused (transfer_unopened closed opened) (contained_unlooked ?_ fun looked => opened looked.1)
    exact fun opened' => absurd opened' opened

/-- An acceptable request is taken where the database raises nothing. -/
theorem transfer_acceptable (closed : s.pending = none) (acceptable : Acceptable s q tenantId) :
    ∃ e, (atomicTransfer s {} q tenantId).1 = .ok e := by
  have covered : Covered s ⟨{}, q, tenantId⟩ :=
    ⟨⟨⟨acceptable.valid, rfl⟩, rfl, acceptable.new⟩, rfl, acceptable.covered⟩
  obtain ⟨e, entry, -⟩ := toEntry_row acceptable.valid
  refine ⟨e, ?_⟩
  rw [show atomicTransfer s {} q tenantId = _ from transfer_covered closed covered,
    insert_fits acceptable.new acceptable.fits]
  exact entry

/-- What the atomic ledger takes, the plain one takes with the same entry. -/
theorem base_agrees (closed : s.pending = none) (registered : defaultTenant ∈ s.tenants)
    (acceptable : Acceptable s q tenantId) {e : LedgerEntry}
    (entry : (q.row tenantId).toEntry = .ok e) :
    baseTransfer s {} q = (.ok e, { s with rows := s.rows ++ [q.row none] }) := by
  obtain ⟨rows, pending, tenants⟩ := s
  obtain rfl : pending = none := closed
  have absent : (rows.any fun r => decide (r.transactionId = q.txId)) = false := by
    rw [List.any_eq_false]
    intro r mem same
    exact acceptable.new r mem (of_decide_eq_true same)
  have fits : Fits ⟨rows, none, tenants⟩ q none := ⟨acceptable.fits.id, registered⟩
  have entered := insert_fits acceptable.new fits
  have plain : (q.row none).toEntry = .ok e := by
    obtain ⟨e', tagged, plain⟩ := toEntry_row acceptable.valid
    rw [plain, ← tagged, entry]
  unfold baseTransfer
  rw [if_neg (Int.not_le.mpr acceptable.valid.amount), if_neg acceptable.valid.accounts]
  rw [show Session.begin_ ⟨rows, none, tenants⟩ none = .ok ⟨rows, some rows, tenants⟩ from rfl]
  dsimp only
  rw [show Session.view ⟨rows, some rows, tenants⟩ = rows from rfl,
    if_neg (ne_true_of_eq_false absent), if_neg (Int.not_lt.mpr acceptable.covered), entered]
  dsimp only
  rw [show Session.commit ⟨rows, some (rows ++ [q.row none]), tenants⟩ none =
    .ok ⟨rows ++ [q.row none], none, tenants⟩ from rfl]
  dsimp only
  rw [plain]

theorem settled_iff (closed : s.pending = none) (registered : defaultTenant ∈ s.tenants) :
    Settled s c ↔ Contained s c := by
  cases transfer_ends (c := c) closed with
  | refused unchanged contained =>
    obtain ⟨e, same⟩ := unchanged
    have kept : step s c = s := congrArg Prod.snd same
    refine ⟨fun _ => contained, fun _ => ⟨?_, .inr ⟨⟨e, congrArg Prod.fst same⟩, ?_⟩, ?_, ?_⟩⟩
    · rw [kept]
      exact closed
    · rw [kept]
    · rw [kept]
      exact fun q tenantId acceptable => transfer_acceptable closed acceptable
    · intro e' accepted
      rw [same] at accepted
      cases accepted
  | raised x p handled contained =>
    have after : step s c = (atomicHandler { s with pending := some p } x).2 := congrArg Prod.snd handled
    have answer : (atomicTransfer s c.faults c.request c.tenantId).1 = .error x.error :=
      congrArg Prod.fst handled
    constructor
    · intro settled
      apply contained.mpr
      apply handler_closed.mp
      rw [← after]
      exact settled.closed
    · intro now
      have closed' : (step s c).pending = none := by
        rw [after]
        exact handler_closed.mpr (contained.mp now)
      refine ⟨closed', .inr ⟨⟨x.error, answer⟩, ?_⟩, ?_, ?_⟩
      · rw [after, handler_rows]
      · exact fun q tenantId acceptable => transfer_acceptable closed' acceptable
      · intro e accepted
        rw [answer] at accepted
        cases accepted
  | accepted acceptable contained entered =>
    obtain ⟨e, entry, -⟩ := toEntry_row acceptable.valid
    have after : step s c = { s with rows := s.rows ++ [c.request.row c.tenantId], pending := none } :=
      congrArg Prod.snd entered
    have answer : (atomicTransfer s c.faults c.request c.tenantId).1 = .ok e :=
      (congrArg Prod.fst entered).trans entry
    have closed' : (step s c).pending = none := by rw [after]
    refine ⟨fun _ => contained, fun _ => ⟨closed', .inl ⟨e, answer, ?_⟩, ?_, ?_⟩⟩
    · rw [after]
    · exact fun q tenantId acceptable => transfer_acceptable closed' acceptable
    · intro e' accepted
      obtain rfl := Except.ok.inj (answer.symm.trans accepted)
      exact base_agrees closed registered acceptable entry

theorem step_tenants (s : Session) (c : Call) : (step s c).tenants = s.tenants := by
  have handled (s : Session) (x : Failure) : (atomicHandler s x).2.tenants = s.tenants := by
    unfold atomicHandler Session.raised Session.rollback
    dsimp only
    split
    · split
      · rfl
      · rfl
    · split
      · rfl
      · rfl
  unfold step atomicTransfer
  split
  · rfl
  split
  · rfl
  split
  · rfl
  split
  · exact handled _ _
  · rename_i opened begun
    have same : opened.tenants = s.tenants := by
      unfold Session.begin_ at begun
      split at begun
      · cases begun
      · split at begun
        · cases begun
        · cases begun
          rfl
    split
    · exact (handled _ _).trans same
    split
    · exact same
    split
    · exact (handled _ _).trans same
    dsimp only
    split
    · exact same
    split
    · exact (handled _ _).trans same
    · rename_i entered inserted
      have kept : entered.tenants = opened.tenants := by
        unfold Session.insert at inserted
        split at inserted
        · cases inserted
        · split at inserted
          · cases inserted
          · split at inserted
            · cases inserted
              rfl
            · cases inserted
      split
      · exact (handled _ _).trans (kept.trans same)
      · rename_i committed done
        unfold Session.commit at done
        split at done
        · cases done
        · cases done
          exact kept.trans same

end Transfers

section Runs

/-- A connection that no transfer has open, in a store with the tenant of unscoped rows. -/
def Ready (s : Session) : Prop := s.pending = none ∧ defaultTenant ∈ s.tenants

/-- Every call of a run leaves what a transfer promises exactly if every exception raised inside
a transaction is an `OperationalError` or ends it. -/
theorem transfers_settled_iff {s : Session} (ready : Ready s) (calls : List Call) :
    Along step Settled s calls ↔ Along step Contained s calls := by
  have agree : ∀ s c, Ready s → (Settled s c ↔ Contained s c) := by
    rintro s c ⟨closed, registered⟩
    exact settled_iff closed registered
  have kept : ∀ s c, Ready s → Settled s c → Ready (step s c) := by
    rintro s c ⟨-, registered⟩ settled
    refine ⟨settled.closed, ?_⟩
    rw [step_tenants]
    exact registered
  exact along_iff agree kept calls ready

end Runs

section Samples

def fundedSession : Session :=
  ⟨[⟨"e0", 0, "mint-1", systemMint, "treasury", 100, "Initial treasury", defaultTenant⟩], none,
    [defaultTenant]⟩

def drawTo (txUuid entryId : String) (tenantId : Option String) : Call :=
  ⟨{}, ⟨⟨txUuid, entryId, 1⟩, "treasury", "agent-1", 10, "budget", none⟩, tenantId⟩

/-- A transfer that finds the database locked. -/
def lockedCall : Call :=
  { drawTo "tx-1" "e1" none with
    faults := { begin_ := some ⟨⟨.otherException, "database is locked"⟩, true, false⟩ } }

theorem funded_ready : Ready fundedSession := ⟨rfl, List.mem_singleton.mpr rfl⟩

theorem locked_then_settled :
    Along step Settled fundedSession [lockedCall, drawTo "tx-1" "e1" none] := by
  apply (transfers_settled_iff funded_ready _).mpr
  have unopened : ¬Opened lockedCall := by
    rintro ⟨-, begun⟩
    cases begun
  have silent : Contained fundedSession (drawTo "tx-1" "e1" none) := by
    refine ⟨?_, ?_, ?_, ?_, ?_⟩
    · rintro - x ⟨⟩
    · rintro - x ⟨⟩
    · rintro - x ⟨⟩
    · intro _ _
      exact ⟨by decide, by decide⟩
    · rintro - - - x ⟨⟩
  have first : step fundedSession lockedCall = fundedSession := by
    obtain ⟨e, same⟩ := transfer_unopened (s := fundedSession) rfl unopened
    exact congrArg Prod.snd same
  refine ⟨contained_unlooked (fun opened => absurd opened unopened) fun looked => unopened looked.1,
    ?_, trivial⟩
  rw [first]
  exact silent

/-- A row for a tenant that is not registered is refused and leaves its transaction open, and the
next transfer, which is in order, cannot begin. -/
theorem stray_tenant_blocks :
    ¬Settled fundedSession (drawTo "tx-1" "e1" (some "tenant-x")) ∧
    (step fundedSession (drawTo "tx-1" "e1" (some "tenant-x"))).pending = some fundedSession.rows ∧
    (atomicTransfer (step fundedSession (drawTo "tx-1" "e1" (some "tenant-x"))) {}
      (drawTo "tx-2" "e2" none).request none).1 = .error Session.nested.error := by
  have left : (step fundedSession (drawTo "tx-1" "e1" (some "tenant-x"))).pending =
      some fundedSession.rows := by decide +kernel
  refine ⟨fun settled => ?_, left, by decide +kernel⟩
  rw [settled.closed] at left
  cases left

end Samples

end LedgerSessions
