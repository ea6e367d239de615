import KalyxMao.SqlLedgers

/-!
# What the conservation checks can detect

Credits paid back to the mint are the one thing the in-memory check can object
to. The checks of the PostgreSQL, tenant and organisation ledgers sum the net
position of every account, the mint's own credits included; each entry then
contributes to both sides alike, so the check never objects.
-/

namespace Conservation
open Bookkeeping PythonText Ledger SqlLedgers DoubleEntryLedger

/-- Minted credits that no account other than the mint holds. -/
def outstanding (l : DoubleEntryLedger) : Int :=
  l.totalMinted - total (fun a => decide (a ≠ systemMint)) l.balances

theorem outstanding_record (l : DoubleEntryLedger) (e : LedgerEntry) :
    outstanding (l.record e) =
      outstanding l + if e.toAccount = systemMint then e.amount else 0 := by
  by_cases h : e.fromAccount = systemMint
  · simp only [outstanding, record, h, if_true, credit, total_bump]
    by_cases ht : e.toAccount = systemMint
    · simp [ht]
      omega
    · simp [ht]
  · simp only [outstanding, record, h, if_false, move, total_bump]
    by_cases ht : e.toAccount = systemMint
    · simp [h, ht]
      omega
    · simp [h, ht]

theorem outstanding_replay (entries : List LedgerEntry) :
    outstanding (replay entries) = credits (postings entries) systemMint := by
  induction entries using List.reverseRecOn with
  | nil => rfl
  | append_singleton es e ih =>
    rw [replay_concat, outstanding_record, ih, credits_postings_concat]

theorem verifyConservation_replay (entries : List LedgerEntry) :
    (replay entries).verifyConservation = true ↔ ∀ e ∈ entries, e.toAccount ≠ systemMint := by
  have h := outstanding_replay entries
  rw [← credits_postings_eq_zero_iff, ← h, verifyConservation, decide_eq_true_iff, outstanding]
  omega

/-- Each entry adds as much to the net positions as to the minted sum: an entry
between accounts adds nothing, one from the mint adds its amount. -/
theorem total_netPositions (entries : List LedgerEntry) :
    total (fun _ => true) (netPositions entries) = mintedIn entries := by
  have run : ∀ net : Tally String Int, total (fun _ => true) (entries.foldl (fun net e => bump
      (if e.fromAccount ≠ systemMint then bump net e.fromAccount (-e.amount) else net)
      e.toAccount e.amount) net) = total (fun _ => true) net + mintedIn entries := by
    induction entries with
    | nil => simp [mintedIn]
    | cons e es ih =>
      intro net
      rw [List.foldl_cons, ih, total_bump]
      by_cases h : e.fromAccount = systemMint
      · simp only [h, ne_eq, not_true_eq_false, if_false, if_true, mintedIn, decide_true,
          List.filter_cons_of_pos, List.map_cons, List.sum_cons]
        omega
      · simp only [h, ne_eq, not_false_eq_true, if_true, total_bump, mintedIn, decide_false,
          Bool.false_eq_true, List.filter_cons_of_neg]
        omega
  simpa [netPositions] using run ∅

theorem conserved_eq_true (entries : List LedgerEntry) : conserved entries = true := by
  rw [conserved, total_netPositions]
  simp

/-- A check over the entries read from a store answers as the in-memory ledger
holding those entries would, and raises where they cannot be read. -/
def AgreesWithMemory (read : Except PyError (List LedgerEntry)) (check : Except PyError Bool) :
    Prop :=
  match read with
  | .error err => check = .error err
  | .ok entries => check = .ok true ↔ (replay entries).verifyConservation = true

def MintNeverCredited (read : Except PyError (List LedgerEntry)) : Prop :=
  ∀ entries, read = .ok entries → ∀ e ∈ entries, e.toAccount ≠ systemMint

theorem agreesWithMemory_iff (read : Except PyError (List LedgerEntry)) :
    AgreesWithMemory read (do return conserved (← read)) ↔ MintNeverCredited read := by
  cases read with
  | error err =>
    refine ⟨fun _ entries h => ?_, fun _ => rfl⟩
    cases h
  | ok entries =>
    have always : (do return conserved (← Except.ok entries) : Except PyError Bool) = .ok true :=
      congrArg Except.ok (conserved_eq_true entries)
    constructor
    · rintro h _ ⟨⟩
      exact (verifyConservation_replay entries).mp (h.mp always)
    · intro h
      exact ⟨fun _ => (verifyConservation_replay entries).mpr (h entries rfl), fun _ => always⟩

theorem never_false (read : Except PyError (List LedgerEntry)) :
    (do return conserved (← read) : Except PyError Bool) ≠ .ok false := by
  cases read with
  | error err => exact fun h => nomatch h
  | ok entries =>
    intro h
    have : conserved entries = false := Except.ok.inj h
    exact absurd (conserved_eq_true entries) (by simp [this])

/-- For any table contents, the three checks agree with the in-memory ledger
exactly when no entry they read credits the mint, and none ever answers false. -/
theorem stored_checks_agree_iff (postgres : PostgresLedger) (tenant : TenantScopedLedger)
    (organisation : OrganisationScopedLedger) :
    ((AgreesWithMemory (postgres.getEntries none) postgres.verifyConservation ↔
        MintNeverCredited (postgres.getEntries none)) ∧ postgres.verifyConservation ≠ .ok false) ∧
    ((AgreesWithMemory (tenant.getEntries none) tenant.verifyConservation ↔
        MintNeverCredited (tenant.getEntries none)) ∧ tenant.verifyConservation ≠ .ok false) ∧
    ((AgreesWithMemory (organisation.getEntries none) organisation.verifyConservation ↔
        MintNeverCredited (organisation.getEntries none)) ∧
      organisation.verifyConservation ≠ .ok false) :=
  ⟨⟨agreesWithMemory_iff _, never_false _⟩, ⟨agreesWithMemory_iff _, never_false _⟩,
    ⟨agreesWithMemory_iff _, never_false _⟩⟩

/-- A treasury of 100 of which 30 were then paid back to the mint. -/
def repaid : PostgresLedger where
  rows := [⟨"e1", 0, "mint-1", systemMint, treasury, 100, "Initial treasury allocation", "t1"⟩,
    ⟨"e2", 1, "tx-1", treasury, systemMint, 30, "repayment", "t1"⟩]
  tenantId := "t1"

theorem repaid_disagrees :
    repaid.verifyConservation = .ok true ∧
      ∃ entries, repaid.getEntries none = .ok entries ∧
        (replay entries).verifyConservation = false := by
  refine ⟨rfl, _, rfl, ?_⟩
  decide

end Conservation
