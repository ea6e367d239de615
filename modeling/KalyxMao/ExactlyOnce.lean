import KalyxMao.ReconcilerSpecs

/-!
# Exactly-once settlement over crashing runs

A run is a list of calls on the manager and the reconciler, each cut after any
number of its commands. As long as callers pass operations as they are stored,
spent tokens are not presented for locked operations, and the provider does not
contradict an exit that is already in the ledger, every operation leaves escrow
once.
-/

namespace ExactlyOnce
open Bookkeeping Ledger SqlLedgers LedgerEquivalence Domain EffectPrograms EffectPrograms.Prog
open Consequential EscrowNames EscrowInvariant Reconciliation ManagerSpecs ReconcilerSpecs
open PythonText PythonValues

inductive Call where
  | create (proposal : ActionProposal) (decision : PolicyDecision) (org : Organisation)
      (idempotencyKey : Option String)
  | authorize (op : ConsequentialOperation) (decision : PolicyDecision)
  | escrow (op : ConsequentialOperation)
  | submit (op : ConsequentialOperation) (proposal : ActionProposal) (decision : PolicyDecision)
  | execute (proposal : ActionProposal) (decision : PolicyDecision) (org : Organisation)
      (idempotencyKey : Option String)
  | reconcile (operationId : String) (org : Organisation)

def Call.program (m : Manager) : Call → Action Unit
  | .create proposal decision org key => ignore (createOperation m proposal decision org key)
  | .authorize op decision => ignore (authorizeOperation m op decision)
  | .escrow op => ignore (escrowOperation m.hashing op)
  | .submit op proposal decision => ignore (submitOperation m.hashing op proposal decision)
  | .execute proposal decision org key => ignore (executeProposal m proposal decision org key)
  | .reconcile id org => ignore (reconcileOperation m.hashing id org)

/-- The operation object is the stored one wherever the method would write it, and
a spent token does not fail an operation whose escrow is in flight. -/
def Call.Fits (m : Manager) (w : World) : Call → Prop
  | .authorize op decision => .failed ∈ validTransitions op.state →
      find w.operations op.id = some op ∧ (TokenSpent m decision w → 0 < op.amount →
        ∀ entries, w.ledger.getEntries none = .ok entries → pending entries op = false)
  | .escrow op => op.state = .authorized → find w.operations op.id = some op
  | .submit op _ _ => op.state = .escrowed → find w.operations op.id = some op
  | _ => True

def run (m : Manager) : List (Call × List Env) → World → World
  | [], w => w
  | (c, inputs) :: rest, w => run m rest (advance respond inputs (c.program m) w).2

/-- Every call fits the world it starts in, and every input is consistent. -/
def RunFits (m : Manager) : List (Call × List Env) → World → Prop
  | [], _ => True
  | (c, inputs) :: rest, w => c.Fits m w ∧
      Legal respond (Consistent m.hashing) inputs (c.program m) w ∧
      RunFits m rest (advance respond inputs (c.program m) w).2

/-- A funded treasury and no operation yet. -/
def Opening (w : World) : Prop :=
  w.operations = [] ∧ ∃ entries, w.ledger = sqliteOf entries ∧ ∀ e ∈ entries, IsFunding e

/-- What exactly-once settlement says of a world. -/
def SettlesOnce (w : World) : Prop :=
  ∃ entries, w.ledger.getEntries none = .ok entries ∧
    w.ledger.getBalance escrow = balance (postings entries) escrow ∧
    ExactlyOnce entries w.operations

section Runs
variable {m : Manager} {w : World}

theorem inv_opening (opening : Opening w) : Inv m.hashing w := by
  obtain ⟨none, entries, ledger, funding⟩ := opening
  refine ⟨entries, ledger, ?_⟩
  rw [none]
  refine ⟨List.nodup_nil, ?_, ?_, List.nodup_nil, fun e he => .inl (funding e he), ?_, ?_⟩
  · intro o ho
    cases ho
  · intro a ha
    cases ha
  · intro o ho
    cases ho
  · clear ledger
    induction entries using List.reverseRecOn with
    | nil => rfl
    | append_singleton entries e ih =>
      have last := funding e (List.mem_append_right _ (List.mem_singleton_self e))
      have earlier := ih fun f hf => funding f (List.mem_append_left _ hf)
      have source : e.fromAccount ≠ escrow := by
        rw [last.source]
        decide
      have target : e.toAccount ≠ escrow := by
        rw [last.target]
        decide
      rw [balance_postings_concat, if_neg target, if_neg source, earlier]
      rfl

theorem safe_ignore {h : Hashing} {α : Type} {Q : α → World → Prop} {p : Action α}
    (safe : Safe h Q p w) (ends : ∀ a w', Q a w' → Inv h w') :
    Safe h (fun _ w' => Inv h w') (ignore p) w :=
  Keeps.bind safe fun a w' done => ends a w' done

/-- Every call keeps the invariant between its commands. -/
theorem call_keeps (hex : HexDigests m.hashing) (inv : Inv m.hashing w) (c : Call)
    (fits : c.Fits m w) : Safe m.hashing (fun _ w' => Inv m.hashing w') (c.program m) w := by
  obtain ⟨entries, held⟩ := inv
  cases c with
  | create proposal decision org key =>
    apply safe_ignore (safe_createOperation m held proposal decision org key)
    intro op w' st
    exact st.inv
  | authorize op decision =>
    have given : .failed ∈ validTransitions op.state → Stored m.hashing entries w op ∧
        (TokenSpent m decision w → 0 < op.amount → pending entries op = false) := by
      intro may
      obtain ⟨stored, idle⟩ := fits may
      exact ⟨⟨held, stored⟩, fun spent pos => idle spent pos entries (getEntries_eq held)⟩
    apply safe_ignore (safe_authorizeOperation m decision ⟨entries, held⟩ given)
    intro op' w' saved
    exact saved.1.inv
  | escrow op =>
    apply safe_ignore (safe_escrowOperation (fun state => ⟨held, fits state⟩) ⟨entries, held⟩)
    rintro op' w' ⟨entries', st, _⟩
    exact st.inv
  | submit op proposal decision =>
    apply safe_ignore (safe_submitOperation (fun state => ⟨held, fits state⟩) ⟨entries, held⟩
      proposal decision)
    intro _ w' inv
    exact inv
  | execute proposal decision org key =>
    apply safe_ignore (safe_executeProposal m held proposal decision org key)
    intro _ w' inv
    exact inv
  | reconcile id org =>
    apply safe_ignore (safe_reconcileOperation hex ⟨entries, held⟩ id org)
    intro _ w' inv
    exact inv

theorem run_keeps (hex : HexDigests m.hashing) (calls : List (Call × List Env))
    (inv : Inv m.hashing w) (fits : RunFits m calls w) : Inv m.hashing (run m calls w) := by
  induction calls generalizing w with
  | nil => exact inv
  | cons first rest ih =>
    obtain ⟨c, inputs⟩ := first
    obtain ⟨fit, legal, later⟩ := fits
    refine ih ?_ later
    exact (call_keeps hex inv c fit).advance (fun _ _ inv => inv) (fun _ _ inv => inv) inputs legal

theorem settlesOnce_of_inv {h : Hashing} (inv : Inv h w) : SettlesOnce w := by
  obtain ⟨entries, held⟩ := inv
  exact ⟨entries, getEntries_eq held, getBalance_eq held escrow, held.good.exactlyOnce⟩

/-- Wherever a fitting run is cut, each operation has left escrow at most once,
exactly once if it was locked and has ended, and escrow covers the others. -/
theorem settles_once (hex : HexDigests m.hashing) (opening : Opening w)
    (calls : List (Call × List Env)) (fits : RunFits m calls w) : SettlesOnce (run m calls w) :=
  settlesOnce_of_inv (run_keeps hex calls (inv_opening opening) fits)

end Runs

section Scenario

def digestTable : List (String × String) :=
  [("cop-111111111111", "809a29a1fb092eeca2abf6b9aab74c11ef1f1b4f6d5f206e53821d9a6cbc15e7"),
    ("cop-222222222222", "8126c8e4be1671b15d1b813693ade7fbdf2aa67b978c0c9d82a187e3c8eada77"),
    ("tok-1", "65dcf16ea3dfa49069628089eb4a75483070f5584b2a21ee64912b5f621f12da"),
    ("tok-2", "b9d7f2826c798e990d30dd291fddb436a01327c293788ce57195e60c7efb82b2")]

def manager : Manager where
  hashing := ⟨fun s => (digestTable.lookup s).getD "0000000000000000", fun _ => "0.0"⟩
  providerName := "simulated"
  nonceOf := .ok

def agent : AgentRecord := ⟨"agent-1", .active, [.externalApiCall], 1000⟩

def org : Organisation := ⟨"org-1", "tenant-1", [("agent-1", agent)]⟩

def proposal (id : String) : ActionProposal :=
  ⟨id, "task-1", "agent-1", .externalApiCall, "https://example.org", [], 50⟩

def decision (token : String) : PolicyDecision := ⟨"dec-1", .approved, none, some token⟩

def uuidOf (c : Char) (digit : isHexDigit c = true) : Uuid where
  hex := List.replicate 32 c
  long := List.length_replicate
  digits := by
    intro d hd
    rw [List.eq_of_mem_replicate hd]
    exact digit

def env (u : Uuid) (entryId : String) (said : String) : Env where
  draw := ⟨entryId, entryId, 0⟩
  uuid := u
  verdict := (true, "")
  execution := .ok ⟨"simulated", "", "SUCCESS", some "ref", [], none, some "evidence"⟩
  status := .ok ⟨"simulated", "", said, some "ref", [], none, none⟩

def firstUuid : Uuid := uuidOf '1' (by decide)

def secondUuid : Uuid := uuidOf '2' (by decide)

/-- A treasury of 100 credits. -/
def funded : World where
  ledger := sqliteOf [⟨"m1", 0, "mint-0", systemMint, treasury, 100, "Initial capital", LedgerEquivalence.capital_pos⟩]
  operations := []
  consumed := []
  executed := []

/-- The submission pays out and stops before its record is saved. -/
def paidThenCut : Call × List Env :=
  (.execute (proposal "p1") (decision "tok-1") org none,
    List.replicate 8 (env firstUuid "l1" "SUCCESS") ++ List.replicate 5 (env firstUuid "x1" "SUCCESS"))

def otherEscrowed : Call × List Env :=
  (.execute (proposal "p2") (decision "tok-2") org none,
    List.replicate 10 (env secondUuid "l2" "SUCCESS"))

def reconciledAs (said : String) : Call × List Env :=
  (.reconcile "cop-111111111111" org, List.replicate 8 (env firstUuid "r1" said))

def exitCounts (w : World) : Except PyError (List Nat) :=
  (w.ledger.getEntries none).map fun entries =>
    w.operations.map fun o => (exitsOf entries o.id).length

theorem manager_hexDigests : HexDigests manager.hashing := by
  have digits : ∀ d ∈ "0000000000000000" :: digestTable.map Prod.snd,
      ∀ c ∈ d.toList.take 16, isHexDigit c = true := by
    decide +kernel
  intro s c hc
  have text : c ∈ ((digestTable.lookup s).getD "0000000000000000").toList.take 16 := by
    simpa [Hashing.short, manager] using hc
  cases found : digestTable.lookup s with
  | none =>
    rw [found] at text
    exact digits _ List.mem_cons_self c text
  | some d =>
    rw [found] at text
    have known : d ∈ digestTable.map Prod.snd := by
      obtain ⟨l₁, l₂, split, _⟩ := List.lookup_eq_some_iff.mp found
      rw [split]
      simp
    exact digits d (List.mem_cons_of_mem _ known) c text

theorem funded_opening : Opening funded := by
  refine ⟨rfl, _, rfl, ?_⟩
  intro e he
  rw [List.mem_singleton.mp he]
  exact ⟨rfl, rfl, "0", rfl⟩

/-- A payment cut before its record, another escrow, and an answer that agrees. -/
theorem agreeing_run_settles :
    SettlesOnce (run manager [paidThenCut, otherEscrowed, reconciledAs "SUCCESS"] funded) :=
  settles_once manager_hexDigests funded_opening _
    ⟨trivial, by decide +kernel, trivial, by decide +kernel, trivial, by decide +kernel, trivial⟩

/-- The same run with an answer that denies the payment takes the amount out twice. -/
theorem denied_payment_exits_twice :
    ¬ SettlesOnce (run manager [paidThenCut, otherEscrowed, reconciledAs "FAILURE"] funded) := by
  rintro ⟨entries, read, _, once⟩
  have twice : exitCounts (run manager [paidThenCut, otherEscrowed, reconciledAs "FAILURE"] funded) =
      .ok [2, 0] := by
    decide +kernel
  rw [exitCounts, read] at twice
  have counts : List.map (fun o : ConsequentialOperation => (exitsOf entries o.id).length) _ =
      [2, 0] := Except.ok.inj twice
  obtain ⟨o, mem, two⟩ := List.mem_map.mp (counts ▸ List.mem_cons_self)
  have := once.atMostOnce o mem
  omega

end Scenario

end ExactlyOnce
