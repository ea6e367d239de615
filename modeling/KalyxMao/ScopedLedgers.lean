import KalyxMao.SqlLedgers

/-!
# Reading, writing and opening scoped ledgers

A tenant ledger writes through its store under prefixed account names, an
organisation ledger through its tenant ledger. Opening a ledger may mint an
initial treasury. One fact about every write is used throughout: it leaves the
balance of any account it does not name.
-/

namespace SqlLedgers
open Bookkeeping PythonText Ledger

namespace RawLedger

def engine : RawLedger → Engine
  | .sqlite _ => .sqlite
  | .postgres _ => .postgres

def rows : RawLedger → Table
  | .sqlite l => l.rows
  | .postgres l => l.rows

def withRows : RawLedger → Table → RawLedger
  | .sqlite _, rows => .sqlite ⟨rows⟩
  | .postgres l, rows => .postgres { l with rows }

def getBalance : RawLedger → String → Int
  | .sqlite l, account => l.getBalance account
  | .postgres l, account => l.getBalance account

/-- What the constructors do: SQLite looks for any row, PostgreSQL at the treasury. -/
def opened (l : RawLedger) (initialTreasury : Int) (d : Draw) : Except PyError Unit × RawLedger :=
  match l with
  | .sqlite s =>
    if s.rows.length = 0 ∧ 0 < initialTreasury then
      let answer := s.mint d treasury initialTreasury "Initial Organisation Treasury Allocation"
      (answer.1.map fun _ => (), .sqlite answer.2)
    else (.ok (), l)
  | .postgres p =>
    if 0 < initialTreasury ∧ p.getBalance treasury = 0 then
      let answer := p.mint d treasury initialTreasury "Initial treasury allocation"
      (answer.1.map fun _ => (), .postgres answer.2)
    else (.ok (), l)

end RawLedger

namespace TenantScopedLedger

def withRows (l : TenantScopedLedger) (rows : Table) : TenantScopedLedger :=
  { l with ledger := l.ledger.withRows rows }

def getBalance (l : TenantScopedLedger) (name : String) : Int := l.ledger.getBalance (l.account name)

def mintScoped (l : TenantScopedLedger) (d : Draw) (amount : Int) (memo : String) :
    Except PyError LedgerEntry × TenantScopedLedger :=
  if amount ≤ 0 then (.error ⟨.valueError, "Mint amount must be positive"⟩, l)
  else
    post l.ledger.engine l.ledger.rows l.withRows
      ⟨d.entryId, d.now, s!"{l.tenantId}:mint-{d.txUuid}", systemMint, l.account treasury, amount,
        memo, l.tenantId⟩

def depositRevenue (l : TenantScopedLedger) (d : Draw) (amount : Int) (memo : String)
    (transactionId : Option String) (toAccount : String) :
    Except PyError LedgerEntry × TenantScopedLedger :=
  if amount ≤ 0 then (.error depositNotPositive, l)
  else
    post l.ledger.engine l.ledger.rows l.withRows
      ⟨d.entryId, d.now, orElse transactionId s!"{l.tenantId}:deposit-{d.txUuid}", systemMint,
        l.account toAccount, amount, memo, l.tenantId⟩

/-- `UPDATE ledger_entries SET tenant_id = ? WHERE id = ?`. -/
def markTenant (rows : Table) (tenantId entryId : String) : Table :=
  rows.map fun r => if r.id = entryId then { r with tenantId } else r

/-- The PostgreSQL ledger takes the tenant, the SQLite row is marked afterwards. -/
def transfer (l : TenantScopedLedger) (d : Draw) (fromAccount toAccount : String) (amount : Int)
    (memo : String) (transactionId : Option String) :
    Except PyError LedgerEntry × TenantScopedLedger :=
  let source := l.account fromAccount
  let target := l.account toAccount
  match l.ledger with
  | .postgres p =>
    let answer := p.transfer d source target amount memo transactionId (some l.tenantId)
    (answer.1, { l with ledger := .postgres answer.2 })
  | .sqlite s =>
    let answer := s.transfer d source target amount memo transactionId
    match answer.1 with
    | .error err => (.error err, { l with ledger := .sqlite answer.2 })
    | .ok e => (.ok e,
        { l with ledger := .sqlite ⟨markTenant answer.2.rows l.tenantId e.id⟩ })

def opened (l : TenantScopedLedger) (initialTreasury : Int) (d : Draw) :
    Except PyError Unit × TenantScopedLedger :=
  if 0 < initialTreasury ∧ l.getBalance treasury = 0 then
    let answer := l.mintScoped d initialTreasury s!"Initial treasury for {l.tenantId}"
    (answer.1.map fun _ => (), answer.2)
  else (.ok (), l)

end TenantScopedLedger

namespace OrganisationScopedLedger

def tenantId (l : OrganisationScopedLedger) : String := l.tenantLedger.tenantId

def store (l : OrganisationScopedLedger) : RawLedger := l.tenantLedger.ledger

def withRows (l : OrganisationScopedLedger) (rows : Table) : OrganisationScopedLedger :=
  { l with tenantLedger := l.tenantLedger.withRows rows }

/-- The account of the store that a logical name reaches through both layers. -/
def physical (l : OrganisationScopedLedger) (name : String) : String :=
  l.tenantLedger.account (l.account name)

def getBalance (l : OrganisationScopedLedger) (name : String) : Int :=
  l.tenantLedger.getBalance (l.account name)

def transfer (l : OrganisationScopedLedger) (d : Draw) (fromAccount toAccount : String)
    (amount : Int) (memo : String) (transactionId : Option String) :
    Except PyError LedgerEntry × OrganisationScopedLedger :=
  let answer := l.tenantLedger.transfer d (l.account fromAccount) (l.account toAccount) amount memo
    transactionId
  (answer.1, { l with tenantLedger := answer.2 })

/-- The statement joins the tenant prefix itself. -/
def depositRevenue (l : OrganisationScopedLedger) (d : Draw) (amount : Int) (memo : String)
    (transactionId : Option String) : Except PyError Unit × OrganisationScopedLedger :=
  if amount ≤ 0 then (.error depositNotPositive, l)
  else
    let answer := post l.store.engine l.store.rows l.withRows
      ⟨d.entryId, d.now,
        orElse transactionId s!"{l.tenantId}:org-{l.organisationId}:deposit-{d.txUuid}",
        systemMint, s!"{l.tenantId}:{l.account revenue}", amount, memo, l.tenantId⟩
    (answer.1.map fun _ => (), answer.2)

def opened (l : OrganisationScopedLedger) (initialTreasury : Int) (d : Draw) :
    Except PyError Unit × OrganisationScopedLedger :=
  if 0 < initialTreasury ∧ l.getBalance treasury = 0 then
    let answer := post l.store.engine l.store.rows l.withRows
      ⟨d.entryId, d.now, s!"{l.tenantId}:org-{l.organisationId}:mint-{d.txUuid}", systemMint,
        s!"{l.tenantId}:{l.account treasury}", initialTreasury,
        s!"Initial organisation treasury for {l.organisationId}", l.tenantId⟩
    (answer.1.map fun _ => (), answer.2)
  else (.ok (), l)

end OrganisationScopedLedger

section Frames
variable {x : String} {d : Draw}

theorem treasury_ne_mint : treasury ≠ systemMint := by decide

theorem colon_ne_mint (a b : String) : a ++ ":" ++ b ≠ systemMint := by
  intro mint
  have absent : ':' ∉ systemMint.toList := by decide
  rw [← mint] at absent
  simp at absent

theorem insertRow_ok {engine : Engine} {rows rows' : Table} {r : LedgerRow}
    (done : insertRow engine rows r = .ok rows') : rows' = rows ++ [r] := by
  rw [insertRow] at done
  split_ifs at done
  exact (Except.ok.inj done).symm

theorem balanceOf_concat_other (rows : Table) {r : LedgerRow} (notSource : r.fromAccount ≠ x)
    (notTarget : r.toAccount ≠ x) : balanceOf (rows ++ [r]) x = balanceOf rows x := by
  rw [balanceOf, rowPostings, List.map_append]
  exact balance_concat_of_ne _ r.posting notTarget notSource

theorem getBalance_withRows (l : RawLedger) (x : String) :
    (l.withRows l.rows).getBalance x = l.getBalance x := by
  cases l <;> rfl

/-- A row is seen by the accounts it names only. -/
theorem getBalance_insert (l : RawLedger) {r : LedgerRow} (notSource : r.fromAccount ≠ x)
    (notTarget : r.toAccount ≠ x) :
    (l.withRows (l.rows ++ [r])).getBalance x = l.getBalance x := by
  cases l with
  | sqlite s => exact balanceOf_concat_other _ notSource notTarget
  | postgres p =>
    show balanceOf ((p.rows ++ [r]).filter fun q => q.tenantId = p.tenantId) x = _
    rw [List.filter_append]
    by_cases own : r.tenantId = p.tenantId
    · rw [List.filter_cons_of_pos (by simpa using own), List.filter_nil]
      exact balanceOf_concat_other _ notSource notTarget
    · rw [List.filter_cons_of_neg (by simpa using own), List.filter_nil, List.append_nil]
      rfl

theorem post_cases {S : Type} (engine : Engine) (rows : Table) (wrap : Table → S) (r : LedgerRow) :
    (post engine rows wrap r).2 = wrap rows ∨ (post engine rows wrap r).2 = wrap (rows ++ [r]) := by
  rw [post]
  cases inserted : insertRow engine rows r with
  | error err => exact .inl rfl
  | ok rows' =>
    rw [insertRow_ok inserted]
    exact .inr rfl

theorem balanceOf_markTenant (rows : Table) (tenantId entryId x : String) :
    balanceOf (TenantScopedLedger.markTenant rows tenantId entryId) x = balanceOf rows x := by
  rw [balanceOf, balanceOf, TenantScopedLedger.markTenant, rowPostings, rowPostings, List.map_map]
  congr 1
  refine List.map_congr_left fun r _ => ?_
  by_cases marked : r.id = entryId
  · simp [marked, LedgerRow.posting]
  · simp [marked]

theorem sqlite_transfer_other (l : SqliteLedger) {source target : String} (amount : Int)
    (memo : String) (transactionId : Option String) (notSource : source ≠ x)
    (notTarget : target ≠ x) :
    (l.transfer d source target amount memo transactionId).2.getBalance x = l.getBalance x := by
  rw [SqliteLedger.transfer]
  split_ifs
  · rfl
  · rfl
  dsimp only
  split_ifs
  · rfl
  · rfl
  split
  · split_ifs
    · rfl
    · rfl
  · rename_i rows inserted
    rw [insertRow_ok inserted]
    exact balanceOf_concat_other _ notSource notTarget

theorem balanceOf_concat (rows : Table) (r : LedgerRow) (x : String) :
    balanceOf (rows ++ [r]) x = balanceOf rows x +
      ((if r.toAccount = x then r.amount else 0) - (if r.fromAccount = x then r.amount else 0)) := by
  rw [balanceOf, rowPostings, List.map_append]
  exact balance_concat _ r.posting x

/-- A transfer is refused and changes nothing, or its row is appended. -/
theorem sqlite_transfer_cases (l : SqliteLedger) (d : Draw) (source target : String) (amount : Int)
    (memo : String) (transactionId : Option String) :
    (∃ err, l.transfer d source target amount memo transactionId = (.error err, l)) ∨
    ∃ e r, l.transfer d source target amount memo transactionId = (.ok e, ⟨l.rows ++ [r]⟩) ∧
      r.fromAccount = source ∧ r.toAccount = target ∧ r.amount = amount ∧
      r.transactionId = orElse transactionId d.txUuid ∧ r.id = d.entryId ∧
      0 < amount ∧ source ≠ target ∧ amount ≤ l.getBalance source := by
  unfold SqliteLedger.transfer
  dsimp only
  split
  · exact .inl ⟨_, rfl⟩
  · rename_i pos
    split
    · exact .inl ⟨_, rfl⟩
    · rename_i apart
      split
      · exact .inl ⟨_, rfl⟩
      · split
        · exact .inl ⟨_, rfl⟩
        · rename_i enough
          split
          · split
            · exact .inl ⟨_, rfl⟩
            · exact .inl ⟨_, rfl⟩
          · rename_i rows inserted
            right
            rw [insertRow_ok inserted, LedgerRow.toEntry, ledgerEntry, dif_pos (Int.not_le.mp pos)]
            exact ⟨_, _, rfl, rfl, rfl, rfl, rfl, rfl, Int.not_le.mp pos, apart, Int.not_lt.mp enough⟩

/-- A transfer of credits that are there, under identifiers not used before, is accepted. -/
theorem sqlite_transfer_accepts {l : SqliteLedger} {d : Draw} {source target : String} {amount : Int}
    (memo : String) {txId : String} (named : txId ≠ "") (pos : 0 < amount) (apart : source ≠ target)
    (enough : amount ≤ l.getBalance source) (unused : ∀ q ∈ l.rows, q.transactionId ≠ txId)
    (fresh : ∀ q ∈ l.rows, q.id ≠ d.entryId) :
    ∃ e, l.transfer d source target amount memo (some txId) =
      (.ok e, ⟨l.rows ++ [⟨d.entryId, d.now, txId, source, target, amount, memo, defaultTenant⟩]⟩) := by
  have absent : (l.rows.any fun q => q.transactionId = txId) = false := by simpa using unused
  have inserted : insertRow .sqlite l.rows
      ⟨d.entryId, d.now, txId, source, target, amount, memo, defaultTenant⟩ =
        .ok (l.rows ++ [⟨d.entryId, d.now, txId, source, target, amount, memo, defaultTenant⟩]) := by
    have free : (l.rows.any fun q => q.id = d.entryId) = false := by simpa using fresh
    simp [insertRow, free, absent]
  have poor : ¬l.getBalance source < amount := Int.not_lt.mpr enough
  refine ⟨⟨d.entryId, d.now, txId, source, target, amount, memo, pos⟩, ?_⟩
  simp only [SqliteLedger.transfer, if_neg (Int.not_le.mpr pos), if_neg apart, orElse_some named,
    absent, if_neg poor, inserted, LedgerRow.toEntry, ledgerEntry, dif_pos pos]
  simp

/-- Only a transfer out of an account lowers its balance, and by no more than its amount. -/
theorem sqlite_transfer_balance (l : SqliteLedger) (d : Draw) {source target : String}
    (amount : Int) (memo : String) (transactionId : Option String) (notSource : source ≠ x) :
    l.getBalance x ≤ (l.transfer d source target amount memo transactionId).2.getBalance x := by
  rcases sqlite_transfer_cases l d source target amount memo transactionId with
    ⟨err, refused⟩ | ⟨e, r, taken, from_, to_, exactly, -, -, pos, -⟩
  · rw [refused]
  · rw [taken]
    show balanceOf l.rows x ≤ balanceOf (l.rows ++ [r]) x
    rw [balanceOf_concat, from_, to_, exactly, if_neg notSource]
    split <;> omega

theorem postgres_transfer_other (l : PostgresLedger) {source target : String} (amount : Int)
    (memo : String) (transactionId tenantId : Option String) (notSource : source ≠ x)
    (notTarget : target ≠ x) :
    (l.transfer d source target amount memo transactionId tenantId).2.getBalance x =
      l.getBalance x := by
  rw [PostgresLedger.transfer, PostgresLedger.transferFor]
  split_ifs
  · rfl
  · rfl
  dsimp only
  split_ifs
  · rfl
  · rfl
  rcases post_cases .postgres l.rows (fun rows => { l with rows }) _ with same | added
  · rw [same]
  · rw [added]
    exact getBalance_insert (.postgres l) notSource notTarget

/-- An accepted transfer over SQLite marks its row with the tenant. -/
theorem tenant_transfer_sqlite {l : TenantScopedLedger} {s s' : SqliteLedger} {source target : String}
    {amount : Int} {memo : String} {transactionId : Option String} {e : LedgerEntry}
    (held : l.ledger = .sqlite s)
    (taken : s.transfer d (l.account source) (l.account target) amount memo transactionId =
      (.ok e, s')) :
    (l.transfer d source target amount memo transactionId).2.ledger =
      .sqlite ⟨TenantScopedLedger.markTenant s'.rows l.tenantId e.id⟩ := by
  rw [TenantScopedLedger.transfer, held]
  dsimp only
  rw [taken]

end Frames

end SqlLedgers
