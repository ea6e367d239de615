import KalyxMao.Bookkeeping
import KalyxMao.PythonText
import Mathlib.Algebra.Order.Group.Int

/-!
# The in-memory double-entry ledger

Balances, recorded transaction ids and the minted total are running figures
beside the list of entries. A credit from the mint raises the minted total and
one balance; a move lowers one balance and raises another. Every call answers
an entry or an exception together with the ledger it leaves behind.
-/

namespace Ledger
open Bookkeeping PythonText

def systemMint : String := "SYSTEM_MINT"
def treasury : String := "TREASURY"
def escrow : String := "ESCROW"
def externalSink : String := "EXTERNAL_SINK"
def revenue : String := "REVENUE"
def surplusReserve : String := "SURPLUS_RESERVE"

/-- A validated entry: the model refuses an amount that is not positive. -/
structure LedgerEntry where
  id : String
  timestamp : Nat
  transactionId : String
  fromAccount : String
  toAccount : String
  amount : Int
  memo : String
  amount_pos : 0 < amount
  deriving DecidableEq

def LedgerEntry.posting (e : LedgerEntry) : Posting String Int :=
  ⟨e.fromAccount, e.toAccount, e.amount⟩

def postings (entries : List LedgerEntry) : List (Posting String Int) :=
  entries.map LedgerEntry.posting

theorem balance_postings_concat (es : List LedgerEntry) (e : LedgerEntry) (a : String) :
    balance (postings (es ++ [e])) a = balance (postings es) a +
      ((if e.toAccount = a then e.amount else 0) -
        (if e.fromAccount = a then e.amount else 0)) := by
  rw [postings, List.map_append]
  exact balance_concat _ e.posting a

theorem credits_postings_concat (es : List LedgerEntry) (e : LedgerEntry) (a : String) :
    credits (postings (es ++ [e])) a = credits (postings es) a +
      if e.toAccount = a then e.amount else 0 := by
  rw [postings, List.map_append, credits_append]
  exact congrArg _ (add_zero _)

theorem postings_pos (entries : List LedgerEntry) : ∀ p ∈ postings entries, 0 < p.amount := by
  intro p hp
  obtain ⟨e, _, rfl⟩ := List.mem_map.mp hp
  exact e.amount_pos

theorem credits_postings_eq_zero_iff (entries : List LedgerEntry) (a : String) :
    credits (postings entries) a = 0 ↔ ∀ e ∈ entries, e.toAccount ≠ a :=
  (credits_eq_zero_iff (postings_pos entries) a).trans List.forall_mem_map

def ledgerEntry (id : String) (timestamp : Nat) (transactionId fromAccount toAccount : String)
    (amount : Int) (memo : String) : Except PyError LedgerEntry :=
  if h : 0 < amount then
    .ok ⟨id, timestamp, transactionId, fromAccount, toAccount, amount, memo, h⟩
  else .error ⟨.validationError, "amount: Input should be greater than 0"⟩

/-- What one ledger call takes from outside: two fresh identifiers and the clock. -/
structure Draw where
  txUuid : String
  entryId : String
  now : Nat
  deriving DecidableEq

def duplicateTransaction (txId : String) : PyError :=
  ⟨.valueError, s!"Duplicate transaction ID '{txId}' detected. Transfer aborted to prevent double-spending."⟩

def amountNotPositive (amount : Int) : PyError :=
  ⟨.valueError, s!"Transfer amount must be positive, got {amount}"⟩

def sameAccount : PyError := ⟨.valueError, "Cannot transfer credits to the same account"⟩

def depositNotPositive : PyError := ⟨.valueError, "Deposit amount must be positive"⟩

def insufficientCredits (account : String) (held amount : Int) : PyError :=
  ⟨.insufficientCreditsError,
    s!"Account '{account}' has {held} credits, cannot transfer {amount}"⟩

structure DoubleEntryLedger where
  balances : Tally String Int
  entries : List LedgerEntry
  recordedTxIds : List String
  totalMinted : Int
  deriving DecidableEq

namespace DoubleEntryLedger

def empty : DoubleEntryLedger := ⟨∅, [], [], 0⟩

def getBalance (l : DoubleEntryLedger) (account : String) : Int := value l.balances account

def getEntries (l : DoubleEntryLedger) (account : Option String) : List LedgerEntry :=
  match account with
  | none => l.entries
  | some a => l.entries.filter fun e => e.fromAccount = a ∨ e.toAccount = a

def verifyConservation (l : DoubleEntryLedger) : Bool :=
  total (fun a => decide (a ≠ systemMint)) l.balances = l.totalMinted

/-- The bookkeeping shared by `_mint` and `deposit_revenue`. -/
def credit (l : DoubleEntryLedger) (e : LedgerEntry) : DoubleEntryLedger where
  balances := bump l.balances e.toAccount e.amount
  entries := l.entries ++ [e]
  recordedTxIds := l.recordedTxIds ++ [e.transactionId]
  totalMinted := l.totalMinted + e.amount

/-- The bookkeeping at the end of `transfer`. -/
def move (l : DoubleEntryLedger) (e : LedgerEntry) : DoubleEntryLedger where
  balances := bump (bump l.balances e.fromAccount (-e.amount)) e.toAccount e.amount
  entries := l.entries ++ [e]
  recordedTxIds := l.recordedTxIds ++ [e.transactionId]
  totalMinted := l.totalMinted

def mint (l : DoubleEntryLedger) (d : Draw) (toAccount : String) (amount : Int) (memo : String) :
    Except PyError LedgerEntry × DoubleEntryLedger :=
  match ledgerEntry d.entryId d.now s!"mint-{d.txUuid}" systemMint toAccount amount memo with
  | .error err => (.error err, l)
  | .ok e => (.ok e, l.credit e)

def depositRevenue (l : DoubleEntryLedger) (d : Draw) (amount : Int) (memo : String)
    (transactionId : Option String) : Except PyError LedgerEntry × DoubleEntryLedger :=
  if amount ≤ 0 then (.error depositNotPositive, l)
  else
    let txId := orElse transactionId s!"deposit-{d.txUuid}"
    if txId ∈ l.recordedTxIds then
      (.error ⟨.valueError, s!"Duplicate transaction_id: {txId}"⟩, l)
    else
      match ledgerEntry d.entryId d.now txId systemMint revenue amount memo with
      | .error err => (.error err, l)
      | .ok e => (.ok e, l.credit e)

def transfer (l : DoubleEntryLedger) (d : Draw) (fromAccount toAccount : String) (amount : Int)
    (memo : String) (transactionId : Option String) :
    Except PyError LedgerEntry × DoubleEntryLedger :=
  let txId := orElse transactionId d.txUuid
  if txId ∈ l.recordedTxIds then (.error (duplicateTransaction txId), l)
  else if amount ≤ 0 then (.error (amountNotPositive amount), l)
  else if fromAccount = toAccount then (.error sameAccount, l)
  else
    let currentBalance := l.getBalance fromAccount
    if currentBalance < amount then
      (.error (insufficientCredits fromAccount currentBalance amount), l)
    else
      match ledgerEntry d.entryId d.now txId fromAccount toAccount amount memo with
      | .error err => (.error err, l)
      | .ok e => (.ok e, l.move e)

/-- `DoubleEntryLedger(initial_treasury)`. -/
def create (d : Draw) (initialTreasury : Int) : DoubleEntryLedger :=
  if 0 < initialTreasury then
    (mint empty d treasury initialTreasury "Initial Organisation Treasury Allocation").2
  else empty

/-- An entry from the mint is booked as a credit, any other as a move. -/
def record (l : DoubleEntryLedger) (e : LedgerEntry) : DoubleEntryLedger :=
  if e.fromAccount = systemMint then l.credit e else l.move e

/-- The running figures of a ledger that holds the given entries. -/
def replay (entries : List LedgerEntry) : DoubleEntryLedger := entries.foldl record empty

theorem replay_concat (entries : List LedgerEntry) (e : LedgerEntry) :
    replay (entries ++ [e]) = (replay entries).record e := by
  simp [replay]

@[simp] theorem entries_replay (entries : List LedgerEntry) : (replay entries).entries = entries := by
  induction entries using List.reverseRecOn with
  | nil => rfl
  | append_singleton es e ih =>
    rw [replay_concat, record]
    split <;> simp [credit, move, ih]

@[simp] theorem recordedTxIds_replay (entries : List LedgerEntry) :
    (replay entries).recordedTxIds = entries.map LedgerEntry.transactionId := by
  induction entries using List.reverseRecOn with
  | nil => rfl
  | append_singleton es e ih =>
    rw [replay_concat, record]
    split <;> simp [credit, move, ih]

theorem getBalance_record (l : DoubleEntryLedger) (e : LedgerEntry) (a : String) :
    (l.record e).getBalance a = l.getBalance a + ((if e.toAccount = a then e.amount else 0) -
      (if e.fromAccount = a ∧ e.fromAccount ≠ systemMint then e.amount else 0)) := by
  by_cases h : e.fromAccount = systemMint
  · simp [record, credit, getBalance, value_bump, h]
  · by_cases hs : e.fromAccount = a
    · subst hs
      simp [record, h, move, getBalance, value_bump]
      omega
    · simp [record, h, move, getBalance, value_bump, hs]

/-- Away from the mint the running balance is what the entries say. -/
theorem getBalance_replay (entries : List LedgerEntry) {a : String} (ha : a ≠ systemMint) :
    (replay entries).getBalance a = balance (postings entries) a := by
  induction entries using List.reverseRecOn with
  | nil => rfl
  | append_singleton es e ih =>
    rw [replay_concat, getBalance_record, ih, balance_postings_concat]
    by_cases hs : e.fromAccount = a
    · simp [hs, ha]
    · simp [hs]

/-- The mint's own figure ignores what it paid out. -/
theorem getBalance_replay_mint (entries : List LedgerEntry) :
    (replay entries).getBalance systemMint = credits (postings entries) systemMint := by
  induction entries using List.reverseRecOn with
  | nil => rfl
  | append_singleton es e ih =>
    rw [replay_concat, getBalance_record, ih, credits_postings_concat]
    simp

end DoubleEntryLedger
end Ledger
