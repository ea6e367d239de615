import KalyxMao.ScopedLedgers

/-!
# Reopening a ledger

Constructing a ledger object over a store may mint an initial treasury. SQLite
asks whether the table has any row. The other ledgers ask whether the treasury
holds nothing, and a treasury that was spent to zero holds nothing again.
-/

namespace TreasuryOpening
open Bookkeeping PythonText Ledger SqlLedgers

/-- A ledger object of one of the four classes. -/
inductive LedgerView where
  | raw (l : RawLedger)
  | tenant (l : TenantScopedLedger)
  | organisation (l : OrganisationScopedLedger)

inductive Request where
  | transfer (fromAccount toAccount : String) (amount : Int) (memo : String)
      (transactionId tenantId : Option String)
  | depositRevenue (amount : Int) (memo : String) (transactionId : Option String)
      (toAccount : String)
  | reopen (initialTreasury : Int)

namespace LedgerView

def store : LedgerView → RawLedger
  | .raw l => l
  | .tenant l => l.ledger
  | .organisation l => l.store

/-- The constructor, run over the store as it stands. -/
def opened (initialTreasury : Int) (d : Draw) : LedgerView → LedgerView
  | .raw l => .raw (l.opened initialTreasury d).2
  | .tenant l => .tenant (l.opened initialTreasury d).2
  | .organisation l => .organisation (l.opened initialTreasury d).2

/-- What each constructor asks before it mints. -/
def Unfunded : LedgerView → Prop
  | .raw (.sqlite s) => s.rows.length = 0
  | .raw (.postgres p) => p.getBalance treasury = 0
  | .tenant l => l.getBalance treasury = 0
  | .organisation l => l.getBalance treasury = 0

/-- The row each constructor inserts. -/
def mintRow (initialTreasury : Int) (d : Draw) : LedgerView → LedgerRow
  | .raw (.sqlite _) => ⟨d.entryId, d.now, s!"mint-{d.txUuid}", systemMint, treasury,
      initialTreasury, "Initial Organisation Treasury Allocation", defaultTenant⟩
  | .raw (.postgres p) => ⟨d.entryId, d.now, s!"mint-{d.txUuid}", systemMint, treasury,
      initialTreasury, "Initial treasury allocation", p.tenantId⟩
  | .tenant l => ⟨d.entryId, d.now, s!"{l.tenantId}:mint-{d.txUuid}", systemMint,
      l.account treasury, initialTreasury, s!"Initial treasury for {l.tenantId}", l.tenantId⟩
  | .organisation l => ⟨d.entryId, d.now,
      s!"{l.tenantId}:org-{l.organisationId}:mint-{d.txUuid}", systemMint,
      s!"{l.tenantId}:{l.account treasury}", initialTreasury,
      s!"Initial organisation treasury for {l.organisationId}", l.tenantId⟩

/-- The constructor mints: it is given a treasury, finds none, and the table takes the row. -/
def Mints (initialTreasury : Int) (d : Draw) (l : LedgerView) : Prop :=
  0 < initialTreasury ∧ l.Unfunded ∧
    ∃ rows, insertRow l.store.engine l.store.rows (l.mintRow initialTreasury d) = .ok rows

end LedgerView

/-- The ledger after a request, accepted or refused. -/
def Request.apply (d : Draw) (l : LedgerView) : Request → LedgerView
  | .transfer source target amount memo txId tenantId =>
    match l with
    | .raw (.sqlite s) => .raw (.sqlite (s.transfer d source target amount memo txId).2)
    | .raw (.postgres p) =>
      .raw (.postgres (p.transfer d source target amount memo txId tenantId).2)
    | .tenant l => .tenant (l.transfer d source target amount memo txId).2
    | .organisation l => .organisation (l.transfer d source target amount memo txId).2
  | .depositRevenue amount memo txId toAccount =>
    match l with
    | .raw (.sqlite s) => .raw (.sqlite (s.depositRevenue d amount memo txId toAccount).2)
    | .raw (.postgres p) => .raw (.postgres (p.depositRevenue d amount memo txId toAccount).2)
    | .tenant l => .tenant (l.depositRevenue d amount memo txId toAccount).2
    | .organisation l => .organisation (l.depositRevenue d amount memo txId).2
  | .reopen initialTreasury => l.opened initialTreasury d

/-- A property of every reopening of a history, at the state it meets. -/
def AtReopenings (P : Int → Draw → LedgerView → Prop) : LedgerView → List (Draw × Request) → Prop
  | _, [] => True
  | l, (d, request) :: rest =>
    (∀ initialTreasury, request = .reopen initialTreasury → P initialTreasury d l) ∧
      AtReopenings P (request.apply d l) rest

theorem AtReopenings.congr {P Q : Int → Draw → LedgerView → Prop}
    (same : ∀ v d l, P v d l ↔ Q v d l) (l : LedgerView) (history : List (Draw × Request)) :
    AtReopenings P l history ↔ AtReopenings Q l history := by
  induction history generalizing l with
  | nil => exact Iff.rfl
  | cons request rest ih =>
    refine and_congr (forall_congr' fun v => imp_congr_right fun _ => same v _ l) (ih _)

/-- The store as a ledger object of another tenant reads it. -/
def seenBy (tenantId : String) : RawLedger → RawLedger
  | .sqlite s => .sqlite s
  | .postgres p => .postgres { p with tenantId }

/-- No ledger object over the store reads another balance than before. -/
def SameBalances (before after : RawLedger) : Prop :=
  ∀ tenantId x, (seenBy tenantId after).getBalance x = (seenBy tenantId before).getBalance x

/-- How many constructions of a history added a row. -/
def mintCount : LedgerView → List (Draw × Request) → Nat
  | _, [] => 0
  | l, (d, request) :: rest =>
    (match request with
      | .reopen v => if (l.opened v d).store.rows = l.store.rows then 0 else 1
      | _ => 0) + mintCount (request.apply d l) rest

section Opening
variable {l : LedgerView} {v : Int} {d : Draw}

theorem post_ok {S : Type} {engine : Engine} {rows : Table} {wrap : Table → S} {r : LedgerRow}
    (taken : ∃ rows', insertRow engine rows r = .ok rows') :
    (post engine rows wrap r).2 = wrap (rows ++ [r]) := by
  obtain ⟨rows', inserted⟩ := taken
  rw [post, inserted, insertRow_ok inserted]

theorem post_error {S : Type} {engine : Engine} {rows : Table} {wrap : Table → S} {r : LedgerRow}
    (refused : ¬∃ rows', insertRow engine rows r = .ok rows') :
    (post engine rows wrap r).2 = wrap rows := by
  rw [post]
  cases inserted : insertRow engine rows r with
  | error err => rfl
  | ok rows' => exact absurd ⟨rows', inserted⟩ refused

theorem post_snd {S : Type} (engine : Engine) (rows : Table) (wrap : Table → S) (r : LedgerRow) :
    (post engine rows wrap r).2 = wrap (post engine rows id r).2 := by
  rw [post, post]
  split
  · rfl
  · rfl

theorem store_withRows (l : RawLedger) : l.withRows l.rows = l := by
  cases l <;> rfl

/-- An unfunded ledger given a treasury runs the insertion. -/
theorem opened_unfunded (given : 0 < v) (unfunded : l.Unfunded) :
    (l.opened v d).store =
      l.store.withRows (post l.store.engine l.store.rows id (l.mintRow v d)).2 := by
  cases l with
  | raw l =>
    cases l with
    | sqlite s =>
      have guard : s.rows.length = 0 ∧ 0 < v := ⟨unfunded, given⟩
      show (RawLedger.opened _ v d).2 = _
      rw [RawLedger.opened, if_pos guard]
      show RawLedger.sqlite (s.mint _ _ _ _).2 = _
      rw [SqliteLedger.mint, post_snd]
      rfl
    | postgres p =>
      have guard : 0 < v ∧ p.getBalance treasury = 0 := ⟨given, unfunded⟩
      show (RawLedger.opened _ v d).2 = _
      rw [RawLedger.opened, if_pos guard]
      show RawLedger.postgres (p.mint _ _ _ _).2 = _
      rw [PostgresLedger.mint, post_snd]
      rfl
  | tenant l =>
    have guard : 0 < v ∧ l.getBalance treasury = 0 := ⟨given, unfunded⟩
    show (l.opened v d).2.ledger = _
    rw [TenantScopedLedger.opened, if_pos guard]
    show (l.mintScoped _ _ _).2.ledger = _
    rw [TenantScopedLedger.mintScoped, if_neg (by omega), post_snd]
    rfl
  | organisation l =>
    have guard : 0 < v ∧ l.getBalance treasury = 0 := ⟨given, unfunded⟩
    show (l.opened v d).2.store = _
    rw [OrganisationScopedLedger.opened, if_pos guard]
    exact congrArg OrganisationScopedLedger.store (post_snd _ _ _ _)

theorem opened_otherwise (closed : ¬(0 < v ∧ l.Unfunded)) : l.opened v d = l := by
  cases l with
  | raw l =>
    cases l with
    | sqlite s =>
      have guard : ¬(s.rows.length = 0 ∧ 0 < v) := fun both => closed ⟨both.2, both.1⟩
      show LedgerView.raw (RawLedger.opened _ v d).2 = _
      rw [RawLedger.opened, if_neg guard]
    | postgres p =>
      have guard : ¬(0 < v ∧ p.getBalance treasury = 0) := closed
      show LedgerView.raw (RawLedger.opened _ v d).2 = _
      rw [RawLedger.opened, if_neg guard]
  | tenant l =>
    have guard : ¬(0 < v ∧ l.getBalance treasury = 0) := closed
    rw [LedgerView.opened, TenantScopedLedger.opened, if_neg guard]
  | organisation l =>
    have guard : ¬(0 < v ∧ l.getBalance treasury = 0) := closed
    rw [LedgerView.opened, OrganisationScopedLedger.opened, if_neg guard]

/-- A construction appends its mint row, or leaves the store alone. -/
theorem opened_store (l : LedgerView) (v : Int) (d : Draw) :
    (l.Mints v d ∧ (l.opened v d).store = l.store.withRows (l.store.rows ++ [l.mintRow v d])) ∨
      (¬l.Mints v d ∧ (l.opened v d).store = l.store) := by
  by_cases guard : 0 < v ∧ l.Unfunded
  · have opened := opened_unfunded (d := d) guard.1 guard.2
    by_cases taken : ∃ rows, insertRow l.store.engine l.store.rows (l.mintRow v d) = .ok rows
    · refine .inl ⟨⟨guard.1, guard.2, taken⟩, ?_⟩
      rw [opened, post_ok taken]
      rfl
    · refine .inr ⟨fun mints => taken mints.2.2, ?_⟩
      rw [opened, post_error taken]
      exact store_withRows l.store
  · refine .inr ⟨fun mints => guard ⟨mints.1, mints.2.1⟩, ?_⟩
    rw [opened_otherwise guard]

theorem account_ne_mint (l : TenantScopedLedger) {name : String} (notMint : name ≠ systemMint) :
    l.account name ≠ systemMint := by
  rw [TenantScopedLedger.account]
  split_ifs
  · exact notMint
  · exact colon_ne_mint l.tenantId name

theorem mintRow_shape (l : LedgerView) (v : Int) (d : Draw) :
    (l.mintRow v d).fromAccount = systemMint ∧ (l.mintRow v d).toAccount ≠ systemMint ∧
      (l.mintRow v d).amount = v := by
  cases l with
  | raw l =>
    cases l with
    | sqlite s => exact ⟨rfl, treasury_ne_mint, rfl⟩
    | postgres p => exact ⟨rfl, treasury_ne_mint, rfl⟩
  | tenant l => exact ⟨rfl, account_ne_mint l treasury_ne_mint, rfl⟩
  | organisation l => exact ⟨rfl, colon_ne_mint l.tenantId (l.account treasury), rfl⟩

/-- The tenant of a row sees it credited. -/
theorem getBalance_credited (l : RawLedger) (r : LedgerRow) (route : r.fromAccount ≠ r.toAccount) :
    (seenBy r.tenantId (l.withRows (l.rows ++ [r]))).getBalance r.toAccount =
      (seenBy r.tenantId l).getBalance r.toAccount + r.amount := by
  have credited (rows : Table) :
      balanceOf (rows ++ [r]) r.toAccount = balanceOf rows r.toAccount + r.amount := by
    rw [balanceOf, rowPostings, List.map_append, List.map_singleton, balance_concat]
    simp [LedgerRow.posting, route, balanceOf, rowPostings]
  cases l with
  | sqlite s => exact credited s.rows
  | postgres p =>
    show balanceOf ((p.rows ++ [r]).filter fun q => q.tenantId = r.tenantId) r.toAccount =
      balanceOf (p.rows.filter fun q => q.tenantId = r.tenantId) r.toAccount + r.amount
    rw [List.filter_append, List.filter_cons_of_pos (by simp), List.filter_nil, credited]

/-- Every balance stays exactly when the construction does not mint. -/
theorem sameBalances_iff (l : LedgerView) (v : Int) (d : Draw) :
    SameBalances l.store (l.opened v d).store ↔ ¬l.Mints v d := by
  rcases opened_store l v d with ⟨mints, stored⟩ | ⟨idle, stored⟩
  · refine iff_of_false (fun same => ?_) (not_not_intro mints)
    obtain ⟨source, target, amount⟩ := mintRow_shape l v d
    have route : (l.mintRow v d).fromAccount ≠ (l.mintRow v d).toAccount := by
      rw [source]
      exact target.symm
    have seen := same (l.mintRow v d).tenantId (l.mintRow v d).toAccount
    rw [stored, getBalance_credited _ _ route, amount] at seen
    have positive := mints.1
    omega
  · refine iff_of_true (fun tenantId x => ?_) idle
    rw [stored]

theorem rows_withRows (l : RawLedger) (rows : Table) : (l.withRows rows).rows = rows := by
  cases l <;> rfl

theorem sameRows_iff (l : LedgerView) (v : Int) (d : Draw) :
    (l.opened v d).store.rows = l.store.rows ↔ ¬l.Mints v d := by
  rcases opened_store l v d with ⟨mints, stored⟩ | ⟨idle, stored⟩
  · refine iff_of_false (fun same => ?_) (not_not_intro mints)
    rw [stored, rows_withRows] at same
    have lengths := congrArg List.length same
    simp at lengths
  · exact iff_of_true (by rw [stored]) idle

theorem mintCount_eq_zero_iff (l : LedgerView) (history : List (Draw × Request)) :
    mintCount l history = 0 ↔ AtReopenings (fun v d l => ¬l.Mints v d) l history := by
  induction history generalizing l with
  | nil => simp [mintCount, AtReopenings]
  | cons request rest ih =>
    obtain ⟨d, request⟩ := request
    cases request with
    | reopen v =>
      show (if (l.opened v d).store.rows = l.store.rows then 0 else 1) + mintCount _ rest = 0 ↔ _
      rw [AtReopenings, Nat.add_eq_zero_iff, ih]
      refine and_congr_left fun _ => ?_
      by_cases minted : l.Mints v d
      · simp [sameRows_iff, minted]
      · simp [sameRows_iff, minted]
    | transfer source target amount memo txId tenantId =>
      show 0 + mintCount _ rest = 0 ↔ _
      simp [AtReopenings, ih]
    | depositRevenue amount memo txId toAccount =>
      show 0 + mintCount _ rest = 0 ↔ _
      simp [AtReopenings, ih]

/-- The treasury is minted once and reopening shows in no balance exactly when each
reopening finds a treasury, asks for none, or has its mint refused by the table. -/
theorem treasury_minted_once (l : LedgerView) (initialTreasury : Int) (d : Draw)
    (history : List (Draw × Request)) :
    (mintCount l ((d, .reopen initialTreasury) :: history) ≤ 1 ∧
      AtReopenings (fun v d l => SameBalances l.store (l.opened v d).store)
        (l.opened initialTreasury d) history) ↔
      AtReopenings (fun v d l => ¬l.Mints v d) (l.opened initialTreasury d) history := by
  rw [AtReopenings.congr fun v d l => sameBalances_iff l v d]
  refine ⟨And.right, fun idle => ⟨?_, idle⟩⟩
  have none := (mintCount_eq_zero_iff _ _).mpr idle
  rw [mintCount]
  show (if _ then 0 else 1) + mintCount (l.opened initialTreasury d) history ≤ 1
  rw [none]
  split_ifs
  · exact Nat.zero_le 1
  · exact le_refl 1

end Opening

section Spent

/-- A tenant over an empty SQLite store. -/
theorem acme_scope : IsScope "acme" := by decide

def acme : LedgerView := .tenant ⟨.sqlite ⟨[]⟩, "acme", acme_scope⟩

/-- The treasury of five is opened, spent and opened again. -/
def reopened : List (Draw × Request) :=
  [(⟨"t1", "e1", 0⟩, .transfer treasury "spent" 5 "" (some "x") none), (⟨"t2", "e2", 0⟩, .reopen 5)]

theorem acme_mints_twice :
    mintCount acme ((⟨"t0", "e0", 0⟩, .reopen 5) :: reopened) = 2 ∧
    ¬AtReopenings (fun v d l => SameBalances l.store (l.opened v d).store)
      (acme.opened 5 ⟨"t0", "e0", 0⟩) reopened := by
  refine ⟨by decide, fun same => ?_⟩
  have seen := same.2.1 5 rfl "acme" "acme:TREASURY"
  revert seen
  decide

end Spent

end TreasuryOpening
