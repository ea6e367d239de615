import KalyxMao.Conservation

/-!
# Three ledgers, one history

One stream of requests, with one clock and one source of identifiers, is given
to the in-memory, the SQLite and the PostgreSQL ledger. What a ledger is for is
a list of entries and the rule that admits the next one; each of the three
follows that rule, so they stay copies of each other.
-/

namespace LedgerEquivalence
open Bookkeeping PythonText Ledger SqlLedgers Conservation DoubleEntryLedger

inductive Request where
  | mint (toAccount : String) (amount : Int) (memo : String)
  | deposit (amount : Int) (memo : String) (transactionId : Option String)
  | transfer (fromAccount toAccount : String) (amount : Int) (memo : String)
      (transactionId : Option String)
  deriving DecidableEq

def onMemory (l : DoubleEntryLedger) (d : Draw) :
    Request → Except PyError LedgerEntry × DoubleEntryLedger
  | .mint target amount memo => l.mint d target amount memo
  | .deposit amount memo txId => l.depositRevenue d amount memo txId
  | .transfer source target amount memo txId => l.transfer d source target amount memo txId

def onSqlite (l : SqliteLedger) (d : Draw) : Request → Except PyError LedgerEntry × SqliteLedger
  | .mint target amount memo => l.mint d target amount memo
  | .deposit amount memo txId => l.depositRevenue d amount memo txId revenue
  | .transfer source target amount memo txId => l.transfer d source target amount memo txId

def onPostgres (l : PostgresLedger) (d : Draw) :
    Request → Except PyError LedgerEntry × PostgresLedger
  | .mint target amount memo => l.mint d target amount memo
  | .deposit amount memo txId => l.depositRevenue d amount memo txId revenue
  | .transfer source target amount memo txId => l.transfer d source target amount memo txId none

structure Ledgers where
  memory : DoubleEntryLedger
  sqlite : SqliteLedger
  postgres : PostgresLedger
  deriving DecidableEq

def Ledgers.empty (tenantId : String) : Ledgers := ⟨DoubleEntryLedger.empty, ⟨[]⟩, ⟨[], tenantId⟩⟩

def Ledgers.step (w : Ledgers) (d : Draw) (r : Request) : Ledgers where
  memory := (onMemory w.memory d r).2
  sqlite := (onSqlite w.sqlite d r).2
  postgres := (onPostgres w.postgres d r).2

def NoCreditTo (account : String) (entries : List LedgerEntry) : Prop :=
  ∀ e ∈ entries, e.toAccount ≠ account

/-- Identifiers drawn for a call are new: the row id always, the transaction id
where no duplicate test is made. -/
def FreshDraw (entries : List LedgerEntry) (d : Draw) : Request → Prop
  | .mint _ _ _ => ∀ e ∈ entries, e.id ≠ d.entryId ∧ e.transactionId ≠ s!"mint-{d.txUuid}"
  | _ => ∀ e ∈ entries, e.id ≠ d.entryId

/-- Requests on which the three ledgers are meant to agree: the initial mint is
positive, and nothing is transferred out of a mint that was credited before. -/
def Regular (entries : List LedgerEntry) : Request → Prop
  | .mint _ amount _ => 0 < amount
  | .deposit _ _ _ => True
  | .transfer source _ _ _ _ => source = systemMint → NoCreditTo systemMint entries

inductive Reachable (tenantId : String) : Ledgers → Prop where
  | empty : Reachable tenantId (Ledgers.empty tenantId)
  | step {w : Ledgers} (d : Draw) (r : Request) : Reachable tenantId w →
      FreshDraw w.memory.entries d r → Regular w.memory.entries r →
      Reachable tenantId (w.step d r)

section Rule

/-- The rule for the next entry, stated over the entries alone. -/
def admitted (entries : List LedgerEntry) (d : Draw) : Request → Option LedgerEntry
  | .mint target amount memo =>
    if h : 0 < amount then
      some ⟨d.entryId, d.now, s!"mint-{d.txUuid}", systemMint, target, amount, memo, h⟩
    else none
  | .deposit amount memo txId =>
    let id := orElse txId s!"deposit-{d.txUuid}"
    if h : 0 < amount ∧ ∀ e ∈ entries, e.transactionId ≠ id then
      some ⟨d.entryId, d.now, id, systemMint, revenue, amount, memo, h.1⟩
    else none
  | .transfer source target amount memo txId =>
    let id := orElse txId d.txUuid
    if h : 0 < amount ∧ (∀ e ∈ entries, e.transactionId ≠ id) ∧ source ≠ target ∧
        amount ≤ balance (postings entries) source then
      some ⟨d.entryId, d.now, id, source, target, amount, memo, h.1⟩
    else none

/-- A ledger follows the rule on a request: it takes the admitted entry, and
without one it raises and keeps its state. -/
def Follows {S : Type} (state : List LedgerEntry → S) (entries : List LedgerEntry)
    (answer : Except PyError LedgerEntry × S) : Option LedgerEntry → Prop
  | some e => answer = (.ok e, state (entries ++ [e]))
  | none => ∃ err, answer = (.error err, state entries)

end Rule

def entryRow (tenantId : String) (e : LedgerEntry) : LedgerRow :=
  ⟨e.id, e.timestamp, e.transactionId, e.fromAccount, e.toAccount, e.amount, e.memo, tenantId⟩

@[simp] theorem toEntry_entryRow (tenantId : String) (e : LedgerEntry) :
    (entryRow tenantId e).toEntry = .ok e := by
  simp [entryRow, LedgerRow.toEntry, ledgerEntry, e.amount_pos]

@[simp] theorem balanceOf_entryRows (tenantId : String) (entries : List LedgerEntry)
    (a : String) :
    balanceOf (entries.map (entryRow tenantId)) a = balance (postings entries) a := by
  rw [balanceOf, rowPostings, List.map_map]
  rfl

@[simp] theorem own_entryRows (tenantId : String) (entries : List LedgerEntry) :
    (entries.map (entryRow tenantId)).filter (fun r => r.tenantId = tenantId) =
      entries.map (entryRow tenantId) := by
  simp [List.filter_eq_self, entryRow]

@[simp] theorem readEntries_entryRows (tenantId : String) (entries : List LedgerEntry) :
    readEntries (entries.map (entryRow tenantId)) = .ok entries := by
  induction entries with
  | nil => rfl
  | cons e es ih =>
    rw [List.map_cons, readEntries, toEntry_entryRow, ih]
    rfl

theorem insertRow_entryRow {entries : List LedgerEntry} (engine : Engine) (tenantId : String)
    (e : LedgerEntry) (fresh : ∀ f ∈ entries, f.id ≠ e.id)
    (new : ∀ f ∈ entries, f.transactionId ≠ e.transactionId) :
    insertRow engine (entries.map (entryRow tenantId)) (entryRow tenantId e) =
      .ok ((entries ++ [e]).map (entryRow tenantId)) := by
  have positive : ¬(engine = .postgres ∧ (entryRow tenantId e).amount ≤ 0) :=
    fun h => absurd e.amount_pos (not_lt.mpr h.2)
  have ids : (entries.map (entryRow tenantId)).any (fun q => q.id = (entryRow tenantId e).id) =
      false := by
    rw [List.any_map, List.any_eq_false]
    exact fun f hf h => fresh f hf (of_decide_eq_true h)
  have txs : (entries.map (entryRow tenantId)).any
      (fun q => q.transactionId = (entryRow tenantId e).transactionId) = false := by
    rw [List.any_map, List.any_eq_false]
    exact fun f hf h => new f hf (of_decide_eq_true h)
  simp [insertRow, positive, ids, txs]

theorem insertRow_duplicate {entries : List LedgerEntry} (engine : Engine) (tenantId : String)
    (r : LedgerRow) (dup : ∃ f ∈ entries, f.transactionId = r.transactionId) :
    ∃ err, insertRow engine (entries.map (entryRow tenantId)) r = .error err := by
  have txs : (entries.map (entryRow tenantId)).any
      (fun q => q.transactionId = r.transactionId) = true := by
    obtain ⟨f, hf, h⟩ := dup
    rw [List.any_map, List.any_eq_true]
    exact ⟨f, hf, decide_eq_true h⟩
  simp only [insertRow]
  split_ifs
  · exact ⟨_, rfl⟩
  · exact ⟨_, rfl⟩
  · exact ⟨_, rfl⟩

theorem capital_pos : (0 : Int) < 100 := by decide

def sqliteOf (entries : List LedgerEntry) : SqliteLedger := ⟨entries.map (entryRow defaultTenant)⟩

def postgresOf (tenantId : String) (entries : List LedgerEntry) : PostgresLedger :=
  ⟨entries.map (entryRow tenantId), tenantId⟩

/-- The three ledgers that hold the same entries. -/
def holding (tenantId : String) (entries : List LedgerEntry) : Ledgers :=
  ⟨replay entries, sqliteOf entries, postgresOf tenantId entries⟩

section Following
variable {S : Type} {state : List LedgerEntry → S}
variable {entries : List LedgerEntry} {d : Draw} {r : Request}

theorem follows_of_none {o : Option LedgerEntry} (h : o = none) (err : PyError) :
    Follows state entries (.error err, state entries) o := by
  subst h
  exact ⟨err, rfl⟩

theorem follows_of_some {o : Option LedgerEntry} {e : LedgerEntry}
    {answer : Except PyError LedgerEntry × S} (h : o = some e)
    (taken : answer = (.ok e, state (entries ++ [e]))) : Follows state entries answer o := by
  subst h
  exact taken

/-- Either way the next state holds what the rule admits. -/
theorem follows_next {o : Option LedgerEntry} {answer : Except PyError LedgerEntry × S}
    (h : Follows state entries answer o) : answer.2 = state (entries ++ o.toList) := by
  cases o with
  | none =>
    obtain ⟨err, rfl⟩ := h
    simp
  | some e => exact congrArg Prod.snd h

theorem follows_accepts {o : Option LedgerEntry} {answer : Except PyError LedgerEntry × S}
    (h : Follows state entries answer o) : (∃ e, answer.1 = .ok e) ↔ o.isSome := by
  cases o with
  | none =>
    obtain ⟨err, rfl⟩ := h
    simp
  | some e => simp [show answer = (.ok e, state (entries ++ [e])) from h]

theorem credits_mint_eq_zero (uncredited : NoCreditTo systemMint entries) :
    credits (postings entries) systemMint = 0 :=
  (credits_postings_eq_zero_iff entries systemMint).mpr uncredited

theorem balance_mint_nonpos (uncredited : NoCreditTo systemMint entries) :
    balance (postings entries) systemMint ≤ 0 := by
  have paid := debits_nonneg (postings_pos entries) systemMint
  rw [balance, credits_mint_eq_zero uncredited]
  omega

/-- The in-memory balance refuses an account exactly when the entries do: the
two figures differ for the mint only, and neither lets an uncredited mint pay. -/
theorem getBalance_replay_lt_iff {source : String} {amount : Int} (pos : 0 < amount)
    (reg : source = systemMint → NoCreditTo systemMint entries) :
    (replay entries).getBalance source < amount ↔ balance (postings entries) source < amount := by
  by_cases h : source = systemMint
  · subst h
    have held := getBalance_replay_mint entries
    rw [credits_mint_eq_zero (reg rfl)] at held
    have := balance_mint_nonpos (reg rfl)
    omega
  · rw [getBalance_replay entries h]

theorem memory_follows (reg : Regular entries r) :
    Follows replay entries (onMemory (replay entries) d r) (admitted entries d r) := by
  cases r with
  | mint target amount memo =>
    have pos : 0 < amount := reg
    refine follows_of_some (dif_pos pos) ?_
    simp [onMemory, DoubleEntryLedger.mint, ledgerEntry, pos, replay_concat, record]
  | deposit amount memo txId =>
    simp only [onMemory, depositRevenue, recordedTxIds_replay, List.mem_map]
    split_ifs with low dup
    · exact follows_of_none (dif_neg fun h => absurd h.1 (by omega)) _
    · obtain ⟨e, he, same⟩ := dup
      exact follows_of_none (dif_neg fun h => h.2 e he same) _
    · have pos : 0 < amount := by omega
      refine follows_of_some (dif_pos ⟨pos, fun e he same => dup ⟨e, he, same⟩⟩) ?_
      simp [ledgerEntry, pos, replay_concat, record]
  | transfer source target amount memo txId =>
    simp only [onMemory, transfer, recordedTxIds_replay, List.mem_map]
    split_ifs with dup low same poor
    · obtain ⟨e, he, same⟩ := dup
      exact follows_of_none (dif_neg fun h => h.2.1 e he same) _
    · exact follows_of_none (dif_neg fun h => absurd h.1 (by omega)) _
    · exact follows_of_none (dif_neg fun h => h.2.2.1 same) _
    · have short := (getBalance_replay_lt_iff (by omega) reg).mp poor
      exact follows_of_none (dif_neg fun h => absurd h.2.2.2 (by omega)) _
    · have pos : 0 < amount := by omega
      have enough : amount ≤ balance (postings entries) source :=
        not_lt.mp fun h => poor ((getBalance_replay_lt_iff pos reg).mpr h)
      have notMint : source ≠ systemMint := fun h =>
        absurd (balance_mint_nonpos (reg h)) (by rw [← h]; omega)
      refine follows_of_some
        (dif_pos ⟨pos, fun e he same => dup ⟨e, he, same⟩, same, enough⟩) ?_
      simp [ledgerEntry, pos, replay_concat, record, notMint]

/-- A posted entry goes in unless its transaction id is taken. -/
theorem post_follows (engine : Engine) (tenantId : String) (wrap : Table → S) (e : LedgerEntry)
    {o : Option LedgerEntry} (fresh : ∀ f ∈ entries, f.id ≠ e.id)
    (new : (∀ f ∈ entries, f.transactionId ≠ e.transactionId) → o = some e)
    (taken : ∀ f ∈ entries, f.transactionId = e.transactionId → o = none) :
    Follows (fun es => wrap (es.map (entryRow tenantId))) entries
      (post engine (entries.map (entryRow tenantId)) wrap (entryRow tenantId e)) o := by
  by_cases h : ∀ f ∈ entries, f.transactionId ≠ e.transactionId
  · rw [post, insertRow_entryRow engine tenantId e fresh h, new h]
    simp [Follows]
  · push Not at h
    obtain ⟨err, refused⟩ := insertRow_duplicate engine tenantId (entryRow tenantId e) h
    obtain ⟨f, hf, same⟩ := h
    rw [post, refused, taken f hf same]
    exact ⟨err, rfl⟩

theorem sqlite_follows (fresh : FreshDraw entries d r) (reg : Regular entries r) :
    Follows sqliteOf entries (onSqlite (sqliteOf entries) d r) (admitted entries d r) := by
  cases r with
  | mint target amount memo =>
    have pos : 0 < amount := reg
    exact post_follows .sqlite defaultTenant SqliteLedger.mk
      ⟨d.entryId, d.now, s!"mint-{d.txUuid}", systemMint, target, amount, memo, pos⟩
      (fun f hf => (fresh f hf).1) (fun _ => dif_pos pos)
      (fun f hf same => absurd same (fresh f hf).2)
  | deposit amount memo txId =>
    simp only [onSqlite, SqliteLedger.depositRevenue]
    split_ifs with low
    · exact follows_of_none (dif_neg fun h => absurd h.1 (by omega)) _
    · have pos : 0 < amount := by omega
      exact post_follows .sqlite defaultTenant SqliteLedger.mk
        ⟨d.entryId, d.now, orElse txId s!"deposit-{d.txUuid}", systemMint, revenue, amount, memo,
          pos⟩ fresh (fun new => dif_pos ⟨pos, new⟩)
        (fun f hf same => dif_neg fun h => h.2 f hf same)
  | transfer source target amount memo txId =>
    simp only [onSqlite, SqliteLedger.transfer, SqliteLedger.getBalance, sqliteOf, balanceOf_entryRows,
      List.any_map, List.any_eq_true, Function.comp_apply, decide_eq_true_eq]
    split_ifs with low same dup poor
    · exact follows_of_none (dif_neg fun h => absurd h.1 (by omega)) _
    · exact follows_of_none (dif_neg fun h => h.2.2.1 same) _
    · obtain ⟨e, he, same⟩ := dup
      exact follows_of_none (dif_neg fun h => h.2.1 e he same) _
    · exact follows_of_none (dif_neg fun h => absurd h.2.2.2 (by omega)) _
    · have pos : 0 < amount := by omega
      have new : ∀ f ∈ entries, f.transactionId ≠ orElse txId d.txUuid :=
        fun f hf same => dup ⟨f, hf, same⟩
      refine follows_of_some (dif_pos ⟨pos, new, same, not_lt.mp poor⟩) ?_
      have inserted := insertRow_entryRow .sqlite defaultTenant
        ⟨d.entryId, d.now, orElse txId d.txUuid, source, target, amount, memo, pos⟩ fresh new
      simp only [entryRow] at inserted
      simp [inserted, sqliteOf, LedgerRow.toEntry, ledgerEntry, pos, entryRow]

theorem postgres_follows {tenantId : String} (fresh : FreshDraw entries d r)
    (reg : Regular entries r) :
    Follows (postgresOf tenantId) entries (onPostgres (postgresOf tenantId entries) d r)
      (admitted entries d r) := by
  cases r with
  | mint target amount memo =>
    have pos : 0 < amount := reg
    exact post_follows .postgres tenantId (PostgresLedger.mk · tenantId)
      ⟨d.entryId, d.now, s!"mint-{d.txUuid}", systemMint, target, amount, memo, pos⟩
      (fun f hf => (fresh f hf).1) (fun _ => dif_pos pos)
      (fun f hf same => absurd same (fresh f hf).2)
  | deposit amount memo txId =>
    simp only [onPostgres, PostgresLedger.depositRevenue]
    split_ifs with low
    · exact follows_of_none (dif_neg fun h => absurd h.1 (by omega)) _
    · have pos : 0 < amount := by omega
      exact post_follows .postgres tenantId (PostgresLedger.mk · tenantId)
        ⟨d.entryId, d.now, orElse txId s!"deposit-{d.txUuid}", systemMint, revenue, amount, memo,
          pos⟩ fresh (fun new => dif_pos ⟨pos, new⟩)
        (fun f hf same => dif_neg fun h => h.2 f hf same)
  | transfer source target amount memo txId =>
    simp only [onPostgres, PostgresLedger.transfer, postgresOf, orElse_none]
    simp only [PostgresLedger.transferFor, own_entryRows, balanceOf_entryRows, List.any_map, List.any_eq_true, Function.comp_apply, decide_eq_true_eq]
    split_ifs with low same dup poor
    · exact follows_of_none (dif_neg fun h => absurd h.1 (by omega)) _
    · exact follows_of_none (dif_neg fun h => h.2.2.1 same) _
    · obtain ⟨e, he, taken, _⟩ := dup
      exact follows_of_none (dif_neg fun h => h.2.1 e he taken) _
    · exact follows_of_none (dif_neg fun h => absurd h.2.2.2 (by omega)) _
    · have pos : 0 < amount := by omega
      have new : ∀ f ∈ entries, f.transactionId ≠ orElse txId d.txUuid :=
        fun f hf taken => dup ⟨f, hf, taken, rfl⟩
      exact post_follows .postgres tenantId (PostgresLedger.mk · tenantId)
        ⟨d.entryId, d.now, orElse txId d.txUuid, source, target, amount, memo, pos⟩ fresh
        (fun _ => dif_pos ⟨pos, new, same, not_lt.mp poor⟩)
        (fun f hf taken => absurd taken (new f hf))

/-- What a transfer under a given id does to a SQLite ledger: it is refused and
nothing changes, or the entry asked for is appended. -/
theorem transfer_cases {source txId : String} (target memo : String) (amount : Int)
    (fresh : ∀ e ∈ entries, e.id ≠ d.entryId) (notMint : source ≠ systemMint) (named : txId ≠ "") :
    (∃ err, (sqliteOf entries).transfer d source target amount memo (some txId) =
        (.error err, sqliteOf entries) ∧
      ¬(0 < amount ∧ (∀ e ∈ entries, e.transactionId ≠ txId) ∧ source ≠ target ∧
        amount ≤ balance (postings entries) source)) ∨
    ∃ e : LedgerEntry, (sqliteOf entries).transfer d source target amount memo (some txId) =
        (.ok e, sqliteOf (entries ++ [e])) ∧
      e.fromAccount = source ∧ e.toAccount = target ∧ e.amount = amount ∧ e.memo = memo ∧
      e.transactionId = txId := by
  have follows := sqlite_follows (r := .transfer source target amount memo (some txId)) fresh
    fun mint => absurd mint notMint
  simp only [admitted, orElse_some named] at follows
  split at follows
  · exact .inr ⟨_, follows, rfl, rfl, rfl, rfl, rfl⟩
  · rename_i refused
    obtain ⟨err, answer⟩ := follows
    exact .inl ⟨err, answer, refused⟩

end Following

section Histories

def Covered (entries : List LedgerEntry) : Prop :=
  ∀ a, a ≠ systemMint → 0 ≤ balance (postings entries) a

theorem covered_admitted {entries : List LedgerEntry} {d : Draw} {r : Request} {e : LedgerEntry}
    (covered : Covered entries) (h : admitted entries d r = some e) : Covered (entries ++ [e]) := by
  have enough : e.fromAccount = systemMint ∨
      e.amount ≤ balance (postings entries) e.fromAccount := by
    cases r with
    | mint target amount memo =>
      simp only [admitted, Option.dite_none_right_eq_some, Option.some.injEq] at h
      obtain ⟨_, rfl⟩ := h
      exact .inl rfl
    | deposit amount memo txId =>
      simp only [admitted, Option.dite_none_right_eq_some, Option.some.injEq] at h
      obtain ⟨_, rfl⟩ := h
      exact .inl rfl
    | transfer source target amount memo txId =>
      simp only [admitted, Option.dite_none_right_eq_some, Option.some.injEq] at h
      obtain ⟨ok, rfl⟩ := h
      exact .inr ok.2.2.2
  intro a ha
  have held := covered a ha
  have pos := e.amount_pos
  rw [balance_postings_concat]
  by_cases hs : e.fromAccount = a
  · have := enough.resolve_left (hs ▸ ha)
    rw [hs] at this
    split_ifs <;> omega
  · rw [if_neg hs]
    split_ifs <;> omega

theorem step_holding {tenantId : String} {entries : List LedgerEntry} {d : Draw} {r : Request}
    (fresh : FreshDraw entries d r) (reg : Regular entries r) :
    (holding tenantId entries).step d r =
      holding tenantId (entries ++ (admitted entries d r).toList) := by
  rw [Ledgers.step, holding]
  congr 1
  · exact follows_next (memory_follows reg)
  · exact follows_next (sqlite_follows fresh reg)
  · exact follows_next (postgres_follows fresh reg)

/-- Reachable ledgers hold one common list of entries, covered account by account. -/
theorem reachable_holding {tenantId : String} {w : Ledgers} (h : Reachable tenantId w) :
    ∃ entries, w = holding tenantId entries ∧ Covered entries := by
  induction h with
  | empty => exact ⟨[], rfl, fun a _ => le_of_eq (balance_nil a).symm⟩
  | step d r _ fresh reg ih =>
    obtain ⟨entries, rfl, covered⟩ := ih
    have same : (holding tenantId entries).memory.entries = entries := entries_replay entries
    rw [same] at fresh reg
    refine ⟨_, step_holding fresh reg, ?_⟩
    cases taken : admitted entries d r with
    | none => simpa using covered
    | some e => exact covered_admitted covered taken

theorem mem_accounts {entries : List LedgerEntry} {a : String} :
    a ∈ (sqliteOf entries).accounts ↔
      (∃ e ∈ entries, e.fromAccount = a ∨ e.toAccount = a) ∧ a ≠ systemMint := by
  simp only [SqliteLedger.accounts, sqliteOf, List.map_map, List.mem_dedup, List.mem_append,
    List.mem_filter, List.mem_map, Function.comp_apply, entryRow, decide_eq_true_eq]
  constructor
  · rintro (⟨⟨e, he, rfl⟩, ha⟩ | ⟨⟨e, he, rfl⟩, ha⟩)
    · exact ⟨⟨e, he, .inl rfl⟩, ha⟩
    · exact ⟨⟨e, he, .inr rfl⟩, ha⟩
  · rintro ⟨⟨e, he, rfl | rfl⟩, ha⟩
    · exact .inl ⟨⟨e, he, rfl⟩, ha⟩
    · exact .inr ⟨⟨e, he, rfl⟩, ha⟩

theorem sqlite_verify_iff (entries : List LedgerEntry) :
    (sqliteOf entries).verifyConservation = true ↔ NoCreditTo systemMint entries := by
  have nodup : (sqliteOf entries).accounts.Nodup := List.nodup_dedup _
  have each : ∀ a, balanceOf (sqliteOf entries).rows a = balance (postings entries) a :=
    balanceOf_entryRows defaultTenant entries
  have net : ((sqliteOf entries).accounts.map fun a => balanceOf (sqliteOf entries).rows a).sum =
      debits (postings entries) systemMint - credits (postings entries) systemMint := by
    rw [← List.sum_toFinset _ nodup]
    simp only [each]
    refine sum_balance_without (postings entries) systemMint _ ?_ ?_
    · rw [List.mem_toFinset, mem_accounts]
      exact fun h => h.2 rfl
    · intro p hp
      obtain ⟨e, he, rfl⟩ := List.mem_map.mp hp
      simp only [List.mem_toFinset, mem_accounts]
      exact ⟨or_iff_not_imp_left.mpr fun h => ⟨⟨e, he, .inl rfl⟩, h⟩,
        or_iff_not_imp_left.mpr fun h => ⟨⟨e, he, .inr rfl⟩, h⟩⟩
  have minted : debits (rowPostings (sqliteOf entries).rows) systemMint =
      debits (postings entries) systemMint := by
    rw [sqliteOf, rowPostings, List.map_map]
    rfl
  rw [NoCreditTo, ← credits_postings_eq_zero_iff, SqliteLedger.verifyConservation,
    decide_eq_true_iff, net, minted]
  omega

theorem postgres_verify (tenantId : String) (entries : List LedgerEntry) :
    (postgresOf tenantId entries).verifyConservation = .ok true := by
  have own : (postgresOf tenantId entries).own = entries.map (entryRow tenantId) :=
    own_entryRows tenantId entries
  have read : (postgresOf tenantId entries).getEntries none = .ok entries := by
    rw [PostgresLedger.getEntries, own, touching, readEntries_entryRows]
  rw [PostgresLedger.verifyConservation, read]
  exact congrArg Except.ok (conserved_eq_true entries)

def allocated : Ledgers :=
  (Ledgers.empty "t1").step ⟨"u1", "e1", 0⟩ (.mint treasury 100 "allocation")

end Histories

end LedgerEquivalence
