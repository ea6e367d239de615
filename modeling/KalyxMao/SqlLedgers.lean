import KalyxMao.Ledger
import Mathlib.Data.List.Dedup

/-!
# Ledgers over the `ledger_entries` table

The SQLite and PostgreSQL ledgers keep no figures of their own: balances and
totals are queries over the rows. Tenant and organisation ledgers are views of
one of these tables through account prefixes. A table is the list of its rows
in `sequence_num` order, and a statement that breaks a constraint of the schema
leaves it unchanged.
-/

namespace SqlLedgers
open Bookkeeping PythonText Ledger

structure LedgerRow where
  id : String
  timestamp : Nat
  transactionId : String
  fromAccount : String
  toAccount : String
  amount : Int
  memo : String
  tenantId : String
  deriving DecidableEq

abbrev Table := List LedgerRow

def LedgerRow.posting (r : LedgerRow) : Posting String Int :=
  ⟨r.fromAccount, r.toAccount, r.amount⟩

def rowPostings (rows : Table) : List (Posting String Int) := rows.map LedgerRow.posting

def LedgerRow.toEntry (r : LedgerRow) : Except PyError LedgerEntry :=
  ledgerEntry r.id r.timestamp r.transactionId r.fromAccount r.toAccount r.amount r.memo

/-- Rows come back as validated entries, so one bad row refuses the whole read. -/
def readEntries : Table → Except PyError (List LedgerEntry)
  | [] => .ok []
  | r :: rows => do
    let e ← r.toEntry
    let es ← readEntries rows
    return e :: es

inductive Engine where
  | sqlite
  | postgres
  deriving DecidableEq

def uniqueViolation (engine : Engine) (column : String) : PyError :=
  match engine with
  | .sqlite => ⟨.integrityError, s!"UNIQUE constraint failed: ledger_entries.{column}"⟩
  | .postgres => ⟨.integrityError,
      s!"duplicate key value violates unique constraint \"ledger_entries_{column}_key\""⟩

/-- `INSERT INTO ledger_entries`. Only the PostgreSQL schema checks the amount. -/
def insertRow (engine : Engine) (rows : Table) (r : LedgerRow) : Except PyError Table :=
  if engine = .postgres ∧ r.amount ≤ 0 then
    .error ⟨.integrityError, "new row for relation \"ledger_entries\" violates check constraint"⟩
  else if rows.any fun q => q.id = r.id then .error (uniqueViolation engine "id")
  else if rows.any fun q => q.transactionId = r.transactionId then
    .error (uniqueViolation engine "transaction_id")
  else .ok (rows ++ [r])

/-- One insertion in a transaction of its own, and the entry of the same values. -/
def post {S : Type} (engine : Engine) (rows : Table) (wrap : Table → S) (r : LedgerRow) :
    Except PyError LedgerEntry × S :=
  match insertRow engine rows r with
  | .error err => (.error err, wrap rows)
  | .ok rows' => (r.toEntry, wrap rows')

/-- The balance query both engines issue. -/
def balanceOf (rows : Table) (account : String) : Int := balance (rowPostings rows) account

def touching (rows : Table) (account : Option String) : Table :=
  match account with
  | none => rows
  | some a => if a = "" then rows else rows.filter fun r => r.fromAccount = a ∨ r.toAccount = a

structure SqliteLedger where
  rows : Table
  deriving DecidableEq

/-- The tenant a row gets when the statement names none. -/
def defaultTenant : String := "tenant-demo"

namespace SqliteLedger

def getBalance (l : SqliteLedger) (account : String) : Int := balanceOf l.rows account

def getEntries (l : SqliteLedger) (account : Option String) : Except PyError (List LedgerEntry) :=
  readEntries (touching l.rows account)

def mint (l : SqliteLedger) (d : Draw) (toAccount : String) (amount : Int) (memo : String) :
    Except PyError LedgerEntry × SqliteLedger :=
  post .sqlite l.rows mk ⟨d.entryId, d.now, s!"mint-{d.txUuid}", systemMint, toAccount, amount,
    memo, defaultTenant⟩

def depositRevenue (l : SqliteLedger) (d : Draw) (amount : Int) (memo : String)
    (transactionId : Option String) (toAccount : String) :
    Except PyError LedgerEntry × SqliteLedger :=
  if amount ≤ 0 then (.error depositNotPositive, l)
  else
    post .sqlite l.rows mk ⟨d.entryId, d.now, orElse transactionId s!"deposit-{d.txUuid}",
      systemMint, toAccount, amount, memo, defaultTenant⟩

def transfer (l : SqliteLedger) (d : Draw) (fromAccount toAccount : String) (amount : Int)
    (memo : String) (transactionId : Option String) :
    Except PyError LedgerEntry × SqliteLedger :=
  if amount ≤ 0 then (.error (amountNotPositive amount), l)
  else if fromAccount = toAccount then (.error sameAccount, l)
  else
    let txId := orElse transactionId d.txUuid
    if l.rows.any fun q => q.transactionId = txId then (.error (duplicateTransaction txId), l)
    else
      let currentBalance := l.getBalance fromAccount
      if currentBalance < amount then
        (.error (insufficientCredits fromAccount currentBalance amount), l)
      else
        let r : LedgerRow := ⟨d.entryId, d.now, txId, fromAccount, toAccount, amount, memo,
          defaultTenant⟩
        match insertRow .sqlite l.rows r with
        | .error err =>
          if isIn "transaction_id" err.message then (.error (duplicateTransaction txId), l)
          else (.error err, l)
        | .ok rows => (r.toEntry, ⟨rows⟩)

/-- The accounts the conservation query ranges over: `UNION` drops repetitions. -/
def accounts (l : SqliteLedger) : List String :=
  ((l.rows.map LedgerRow.fromAccount).filter (· ≠ systemMint) ++
    (l.rows.map LedgerRow.toAccount).filter (· ≠ systemMint)).dedup

def verifyConservation (l : SqliteLedger) : Bool :=
  (l.accounts.map fun a => balanceOf l.rows a).sum = debits (rowPostings l.rows) systemMint

end SqliteLedger

/-- What the three conservation checks written in Python compare: the sum of a
dictionary of net positions, and the sum of the entries from the mint. -/
def netPositions (entries : List LedgerEntry) : Tally String Int :=
  entries.foldl (fun net e => bump
    (if e.fromAccount ≠ systemMint then bump net e.fromAccount (-e.amount) else net)
    e.toAccount e.amount) ∅

def mintedIn (entries : List LedgerEntry) : Int :=
  ((entries.filter fun e => e.fromAccount = systemMint).map LedgerEntry.amount).sum

def conserved (entries : List LedgerEntry) : Bool :=
  total (fun _ => true) (netPositions entries) = mintedIn entries

structure PostgresLedger where
  rows : Table
  tenantId : String
  deriving DecidableEq

namespace PostgresLedger

def own (l : PostgresLedger) : Table := l.rows.filter fun r => r.tenantId = l.tenantId

def getBalance (l : PostgresLedger) (account : String) : Int := balanceOf l.own account

def getEntries (l : PostgresLedger) (account : Option String) : Except PyError (List LedgerEntry) :=
  readEntries (touching l.own account)

def mint (l : PostgresLedger) (d : Draw) (toAccount : String) (amount : Int) (memo : String) :
    Except PyError LedgerEntry × PostgresLedger :=
  post .postgres l.rows (fun rows => { l with rows }) ⟨d.entryId, d.now, s!"mint-{d.txUuid}",
    systemMint, toAccount, amount, memo, l.tenantId⟩

def depositRevenue (l : PostgresLedger) (d : Draw) (amount : Int) (memo : String)
    (transactionId : Option String) (toAccount : String) :
    Except PyError LedgerEntry × PostgresLedger :=
  if amount ≤ 0 then (.error depositNotPositive, l)
  else
    post .postgres l.rows (fun rows => { l with rows }) ⟨d.entryId, d.now,
      orElse transactionId s!"deposit-{d.txUuid}", systemMint, toAccount, amount, memo,
      l.tenantId⟩

/-- The duplicate test and the balance look at the tenant's own rows only; the
unique index on the transaction id spans all tenants. -/
def transferFor (l : PostgresLedger) (tid : String) (d : Draw) (fromAccount toAccount : String)
    (amount : Int) (memo : String) (transactionId : Option String) :
    Except PyError LedgerEntry × PostgresLedger :=
  if amount ≤ 0 then (.error (amountNotPositive amount), l)
  else if fromAccount = toAccount then (.error sameAccount, l)
  else
    let txId := orElse transactionId d.txUuid
    if l.rows.any fun q => q.transactionId = txId ∧ q.tenantId = tid then
      (.error (duplicateTransaction txId), l)
    else
      let currentBalance := balanceOf (l.rows.filter fun r => r.tenantId = tid) fromAccount
      if currentBalance < amount then
        (.error (insufficientCredits fromAccount currentBalance amount), l)
      else
        post .postgres l.rows (fun rows => { l with rows })
          ⟨d.entryId, d.now, txId, fromAccount, toAccount, amount, memo, tid⟩

def transfer (l : PostgresLedger) (d : Draw) (fromAccount toAccount : String) (amount : Int)
    (memo : String) (transactionId : Option String) (tenantId : Option String) :
    Except PyError LedgerEntry × PostgresLedger :=
  l.transferFor (orElse tenantId l.tenantId) d fromAccount toAccount amount memo transactionId

def verifyConservation (l : PostgresLedger) : Except PyError Bool := do
  return conserved (← l.getEntries none)

end PostgresLedger

/-- The store below a tenant ledger, as the factory picks it. -/
inductive RawLedger where
  | sqlite (l : SqliteLedger)
  | postgres (l : PostgresLedger)
  deriving DecidableEq

def RawLedger.getEntries : RawLedger → Option String → Except PyError (List LedgerEntry)
  | .sqlite l, account => l.getEntries account
  | .postgres l, account => l.getEntries account

/-- Identifiers the scoping constructors accept. -/
def IsScope (s : String) : Prop := s ≠ "" ∧ isIn ":" s = false

instance (s : String) : Decidable (IsScope s) := inferInstanceAs (Decidable (_ ∧ _))

structure TenantScopedLedger where
  ledger : RawLedger
  tenantId : String
  scope : IsScope tenantId

namespace TenantScopedLedger

def account (l : TenantScopedLedger) (name : String) : String :=
  if startsWith name s!"{l.tenantId}:" then name else s!"{l.tenantId}:{name}"

/-- Entries of the tenant's accounts, under the names the tenant uses. -/
def unscope (start : String) (e : LedgerEntry) : LedgerEntry :=
  { e with
    fromAccount := if e.fromAccount = systemMint then e.fromAccount
      else removePrefix e.fromAccount start
    toAccount := removePrefix e.toAccount start }

def inScope (start : String) (e : LedgerEntry) : Bool :=
  (e.fromAccount = systemMint || startsWith e.fromAccount start) && startsWith e.toAccount start

def getEntries (l : TenantScopedLedger) (account : Option String) :
    Except PyError (List LedgerEntry) := do
  let mapped := match account with
    | none => none
    | some a => if a = "" then none else some (l.account a)
  let entries ← l.ledger.getEntries mapped
  let start := s!"{l.tenantId}:"
  return (entries.filter (inScope start)).map (unscope start)

def verifyConservation (l : TenantScopedLedger) : Except PyError Bool := do
  return conserved (← l.getEntries none)

end TenantScopedLedger

structure OrganisationScopedLedger where
  tenantLedger : TenantScopedLedger
  organisationId : String
  scope : IsScope organisationId

namespace OrganisationScopedLedger

def account (l : OrganisationScopedLedger) (name : String) : String := s!"{l.organisationId}:{name}"

def getEntries (l : OrganisationScopedLedger) (account : Option String) :
    Except PyError (List LedgerEntry) := do
  let mapped := match account with
    | none => none
    | some a => if a = "" then none else some (l.account a)
  let entries ← l.tenantLedger.getEntries mapped
  let start := s!"{l.organisationId}:"
  return (entries.filter (TenantScopedLedger.inScope start)).map
    (TenantScopedLedger.unscope start)

def verifyConservation (l : OrganisationScopedLedger) : Except PyError Bool := do
  return conserved (← l.getEntries none)

end OrganisationScopedLedger
end SqlLedgers
