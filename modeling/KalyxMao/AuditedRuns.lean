import KalyxMao.AuditTrail

/-!
# Audits of every operation that has ended

Over runs of calls cut at any command: an ended operation passes the ledger
check of the auditor, and the ledger has its lock and one exit in the direction
of its outcome. An operation failed for a spent token has neither, and a provider
that denies a payment it made has one paid out a second time; the check fails on
the first and passes on the second.
-/

namespace AuditedRuns
open Bookkeeping PythonText Ledger SqlLedgers LedgerEquivalence Domain EffectPrograms
open EffectPrograms.Prog Consequential KeyedLists EscrowNames EscrowInvariant Reconciliation
open ManagerSpecs ReconcilerSpecs ExactlyOnce LedgerAudit AuditTrail

/-- Operations are passed as they are stored, decisions with their own token; spent tokens are
not presented where credits are at stake, nor one digest for two submitted operations. -/
def Accountable (m : Manager) (tokens : String → Option String) (w : World) : Call → Prop
  | .create _ _ _ _ => True
  | .authorize op decision => .failed ∈ validTransitions op.state →
      find w.operations op.id = some op ∧ (TokenSpent m decision w → ¬0 < op.amount)
  | .escrow op => op.state = .authorized → find w.operations op.id = some op
  | .submit op _ decision => op.state = .escrowed → find w.operations op.id = some op ∧
      decision.authorizationToken = tokens op.decisionId ∧
      (0 < op.amount → Alone m.hashing tokens w.operations op.id (digest m.hashing tokens op))
  | .execute proposal decision org key => Presents m tokens w
      (orElse key s!"{org.id}:{proposal.id}") decision proposal.requestedCredits
  | .reconcile _ _ => True

/-- Every call is accountable in the world it starts in, and the provider's definite answers
agree with the outcomes. -/
def RunAgrees (m : Manager) (tokens : String → Option String) (outcome : String → Outcome) :
    List (Call × List Env) → World → Prop
  | [], _ => True
  | (c, inputs) :: rest, w => Accountable m tokens w c ∧
      Legal respond (Agreeing m.hashing outcome) inputs (c.program m) w ∧
      RunAgrees m tokens outcome rest (advance respond inputs (c.program m) w).2

/-- Every ended operation passes its audit, rightly. -/
def AllAudited (h : Hashing) (tokens : String → Option String) (outcome : String → Outcome)
    (w : World) : Prop :=
  ∃ entries, w.ledger.getEntries none = .ok entries ∧
    ∀ o ∈ w.operations, o.state.Terminal → Audited h tokens outcome entries o

section Runs
variable {m : Manager} {tokens : String → Option String} {outcome : String → Outcome} {w : World}

theorem sqliteOf_inj {xs ys : List LedgerEntry} (same : sqliteOf xs = sqliteOf ys) : xs = ys := by
  have read : (sqliteOf xs).getEntries none = (sqliteOf ys).getEntries none := by rw [same]
  have first : (sqliteOf xs).getEntries none = .ok xs := readEntries_entryRows defaultTenant xs
  have second : (sqliteOf ys).getEntries none = .ok ys := readEntries_entryRows defaultTenant ys
  rw [first, second] at read
  exact Except.ok.inj read

/-- An exit in the ledger went the way of the outcome, so an answer that agrees with the outcome
does not contradict it. -/
theorem uncontradicted {h : Hashing} (inv : Inv h w) (trailing : Trailing h tokens outcome w)
    {opId target : String} (other : ∀ o ∈ find w.operations opId, 0 < o.amount →
      (outcome opId).target ≠ target) : ¬Contradicted w opId target := by
  rintro ⟨o, found, pos, ⟨r, mem, source, goal, named⟩, -⟩
  obtain ⟨entries, held⟩ := inv
  obtain ⟨entries', trail⟩ := trailing
  obtain rfl := sqliteOf_inj (held.ledger.symm.trans trail.ledger)
  rw [held.ledger] at mem
  obtain ⟨e, he, rfl⟩ := List.mem_map.mp mem
  obtain ⟨a, ha, leaves⟩ := trail.accounted.exits e he source
  obtain ⟨stored, own⟩ := lookupBy_some found
  have same : opId = a.id := by
    rw [← own] at named ⊢
    exact (isIn_named (held.good.shapes o stored) (held.good.shapes a ha) leaves.memo).mp named
  refine other o found pos ?_
  rw [same]
  exact leaves.target.symm.trans goal

theorem consistent_of_agreeing {h : Hashing} (c : Cmd) (env : Env) (agreeing : Agreeing h outcome c w env)
    (inv : Inv h w) (trailing : Trailing h tokens outcome w) : Consistent h c w env := by
  cases c with
  | uuid4 => exact agreeing
  | transfer source target amount memo txId => exact agreeing
  | status opId key ref =>
    simp only [Consistent]
    cases said : env.status with
    | error exc => trivial
    | ok s =>
      have reports := agreeing s (said ▸ rfl)
      refine ⟨fun success => uncontradicted inv trailing fun o found pos => ?_,
        fun failure => uncontradicted inv trailing fun o found pos => ?_⟩
      · rw [(reports o found pos).1 success]
        decide
      · rw [(reports o found pos).2 failure]
        decide
  | _ => trivial

theorem fits_of_accountable {c : Call} (accountable : Accountable m tokens w c) : c.Fits m w := by
  cases c with
  | authorize op decision =>
    intro may
    obtain ⟨found, idle⟩ := accountable may
    exact ⟨found, fun spent pos => absurd pos (idle spent)⟩
  | escrow op => exact accountable
  | submit op proposal decision => exact fun escrowed => (accountable escrowed).1
  | _ => trivial

theorem tracks_ignore {h : Hashing} {α : Type} {Q : α → World → Prop} {p : Action α}
    (tracks : Tracks h tokens outcome Q p w)
    (ends : ∀ a w', Q a w' → Trailing h tokens outcome w') :
    Tracks h tokens outcome (fun _ w' => Trailing h tokens outcome w') (ignore p) w :=
  Keeps.bind tracks fun a w' done => ends a w' done

/-- Every call keeps the ledger accounted for between its commands. -/
theorem call_tracks (inv : Inv m.hashing w) (trailing : Trailing m.hashing tokens outcome w) (c : Call)
    (accountable : Accountable m tokens w c) :
    Tracks m.hashing tokens outcome (fun _ w' => Trailing m.hashing tokens outcome w') (c.program m) w := by
  obtain ⟨entries, trail⟩ := trailing
  have trailing : Trailing m.hashing tokens outcome w := ⟨entries, trail⟩
  cases c with
  | create proposal decision org key =>
    exact tracks_ignore (tracks_createOperation m trail proposal decision org key)
      fun _ _ done => done.1.trailing
  | authorize op decision =>
    have given : .failed ∈ validTransitions op.state → Known m.hashing tokens outcome entries w op ∧
        (TokenSpent m decision w → ¬0 < op.amount) := by
      intro may
      obtain ⟨found, idle⟩ := accountable may
      exact ⟨⟨trail, found⟩, idle⟩
    exact tracks_ignore (tracks_authorizeOperation m decision trailing given)
      fun _ _ done => done.1.trailing
  | escrow op =>
    refine tracks_ignore (tracks_escrowOperation (fun state => ⟨trail, accountable state⟩) trailing) ?_
    rintro _ w' ⟨entries', known, -⟩
    exact known.trailing
  | submit op proposal decision =>
    have given : op.state = .escrowed → Known m.hashing tokens outcome entries w op ∧
        decision.authorizationToken = tokens op.decisionId ∧
        (0 < op.amount → Alone m.hashing tokens w.operations op.id (digest m.hashing tokens op)) := by
      intro escrowed
      obtain ⟨found, token, alone⟩ := accountable escrowed
      exact ⟨⟨trail, found⟩, token, alone⟩
    exact tracks_ignore (tracks_submitOperation trailing proposal given) fun _ _ done => done
  | execute proposal decision org key =>
    exact tracks_ignore (tracks_executeProposal m trail inv proposal org accountable) fun _ _ done => done
  | reconcile id org =>
    exact tracks_ignore (tracks_reconcileOperation trail id org) fun _ _ done => done

theorem run_keeps_both (hex : HexDigests m.hashing) (calls : List (Call × List Env))
    (now : Inv m.hashing w ∧ Trailing m.hashing tokens outcome w)
    (agrees : RunAgrees m tokens outcome calls w) :
    Inv m.hashing (run m calls w) ∧ Trailing m.hashing tokens outcome (run m calls w) := by
  induction calls generalizing w with
  | nil => exact now
  | cons first rest ih =>
    obtain ⟨c, inputs⟩ := first
    obtain ⟨accountable, legal, later⟩ := agrees
    refine ih ?_ later
    have both := (call_keeps hex now.1 c (fits_of_accountable accountable)).beside
      (call_tracks now.1 now.2 c accountable)
      fun c w env agreeing inv trailing => consistent_of_agreeing c env agreeing inv trailing
    exact both.advance (fun _ _ both => both) (fun _ _ both => both) inputs legal

theorem trailing_opening {h : Hashing} (opening : Opening w) : Trailing h tokens outcome w := by
  obtain ⟨none, entries, ledger, funding⟩ := opening
  refine ⟨entries, ledger, ?_⟩
  rw [none]
  refine ⟨fun e he source => ?_, List.forall_mem_nil _, List.forall_mem_nil _⟩
  exact absurd ((funding e he).source.symm.trans source) (by decide)

theorem allAudited_of_both {h : Hashing} (hex : HexDigests h) (inv : Inv h w)
    (trailing : Trailing h tokens outcome w) : AllAudited h tokens outcome w := by
  obtain ⟨entries, held⟩ := inv
  obtain ⟨entries', trail⟩ := trailing
  obtain rfl := sqliteOf_inj (held.ledger.symm.trans trail.ledger)
  exact ⟨entries, getEntries_eq held, fun o mem terminal => audited hex held.good trail.accounted mem terminal⟩

/-- Wherever an agreeing run is cut, every operation that has ended passes the ledger check, and
the ledger has its lock and its one exit in the direction of the outcome. -/
theorem ended_audited (hex : HexDigests m.hashing) (opening : Opening w) (calls : List (Call × List Env))
    (agrees : RunAgrees m tokens outcome calls w) :
    AllAudited m.hashing tokens outcome (run m calls w) := by
  obtain ⟨inv, trailing⟩ := run_keeps_both hex calls ⟨inv_opening opening, trailing_opening opening⟩ agrees
  exact allAudited_of_both hex inv trailing

end Runs

section Scenario

def firstDecision : PolicyDecision := ⟨"dec-1", .approved, none, some "tok-1"⟩

def secondDecision : PolicyDecision := ⟨"dec-2", .approved, none, some "tok-2"⟩

def sampleTokens (decisionId : String) : Option String :=
  if decisionId = "dec-1" then some "tok-1" else some "tok-2"

/-- The payment of the first proposal stops before its record is saved. -/
def paidThenStopped : Call × List Env :=
  (.execute (proposal "p1") firstDecision org none,
    List.replicate 8 (env firstUuid "l1" "SUCCESS") ++ List.replicate 5 (env firstUuid "x1" "SUCCESS"))

def otherPaid : Call × List Env :=
  (.execute (proposal "p2") secondDecision org none,
    List.replicate 8 (env secondUuid "l2" "SUCCESS") ++ List.replicate 7 (env secondUuid "x2" "SUCCESS"))

def answeredAs (said : String) : Call × List Env :=
  (.reconcile "cop-111111111111" org, List.replicate 10 (env firstUuid "r1" said))

instance (m : Manager) (decision : PolicyDecision) (w : World) : Decidable (TokenSpent m decision w) :=
  match read : m.nonceOf (orElse decision.authorizationToken "") with
  | .ok nonce => decidable_of_iff (nonce ∈ w.consumed)
      ⟨fun spent => ⟨nonce, read, spent⟩, fun ⟨_, other, spent⟩ => Except.ok.inj (read.symm.trans other) ▸ spent⟩
  | .error _ => isFalse fun ⟨_, other, _⟩ => nomatch read.symm.trans other

instance (m : Manager) (tokens : String → Option String) (w : World) (key : String)
    (decision : PolicyDecision) (amount : Nat) : Decidable (Presents m tokens w key decision amount) :=
  decidable_of_iff (decision.authorizationToken = tokens decision.id ∧
      (∀ o ∈ w.operations, o.idempotencyKey = key → o.decisionId = decision.id ∧
        (o.state = .created → 0 < o.amount → ¬TokenSpent m decision w)) ∧
      (∀ o ∈ w.operations, o.idempotencyKey ≠ key → 0 < o.amount → IsSubmitted o.state →
        digest m.hashing tokens o ≠ m.hashing.short (orElse decision.authorizationToken "")) ∧
      ((∀ o ∈ w.operations, o.idempotencyKey ≠ key) → 0 < amount → ¬TokenSpent m decision w))
    ⟨fun ⟨token, stored, others, fresh⟩ => ⟨token, stored, others, fresh⟩,
      fun p => ⟨p.token, p.stored, p.others, p.fresh⟩⟩

/-- A payment stopped before its record, another one, and an answer that agrees. -/
theorem agreeing_run_audited : AllAudited manager.hashing sampleTokens (fun _ => .performed)
    (run manager [paidThenStopped, otherPaid, answeredAs "SUCCESS"] funded) :=
  ended_audited manager_hexDigests funded_opening _
    ⟨show Presents _ _ _ _ _ _ by decide +kernel, by decide +kernel,
      show Presents _ _ _ _ _ _ by decide +kernel, by decide +kernel, trivial, by decide +kernel, trivial⟩

/-- The record `authorize_operation` is called with, twice. -/
def created : ConsequentialOperation :=
  newOperation manager (proposal "p1") firstDecision org "org-1:p1" firstUuid

/-- The token is consumed and the call stops; called again, it finds the token spent. -/
def authorizedTwice : List (Call × List Env) :=
  [(.create (proposal "p1") firstDecision org none, List.replicate 4 (env firstUuid "l1" "SUCCESS")),
    (.authorize created firstDecision, [env firstUuid "l1" "SUCCESS"]),
    (.authorize created firstDecision, List.replicate 2 (env firstUuid "l1" "SUCCESS"))]

/-- The payment stops, another operation is escrowed, and the payment is denied. -/
def paidThenDenied : List (Call × List Env) :=
  [paidThenStopped,
    (.execute (proposal "p2") secondDecision org none, List.replicate 10 (env secondUuid "l2" "SUCCESS")),
    answeredAs "FAILURE"]

/-- Per operation: its state, whether its check passes, its locks and its exits. -/
def auditsOf (decision : PolicyDecision) (w : World) :
    Except PyError (List (OperationState × Bool × Nat × Nat)) :=
  (w.ledger.getEntries none).map fun entries =>
    w.operations.map fun o =>
      (o.state, (verifyLedgerSettlement manager.hashing o decision entries).isEmpty,
        (locksOf entries o.id).length, (exitsOf entries o.id).length)

/-- An operation failed before its escrow does not pass, and one paid out twice does. -/
theorem twice_paid_passes :
    auditsOf firstDecision (run manager authorizedTwice funded) = .ok [(.failed, false, 0, 0)] ∧
    auditsOf firstDecision (run manager paidThenDenied funded) =
      .ok [(.reconciled, true, 1, 2), (.escrowed, true, 1, 0)] := by
  constructor
  · decide +kernel
  · decide +kernel

end Scenario

end AuditedRuns
