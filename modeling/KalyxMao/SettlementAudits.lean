import KalyxMao.AuditedRuns
import KalyxMao.OperationAudits
import KalyxMao.ProviderRuns

/-!
# Audits of what was settled at the provider

The ledger accounts for its operations relative to what became of each at its provider,
which is known only at the end of a run. The provider never takes a record back, so what
it has on record at the end agrees with every answer it has given. An audit then finds
nothing against an operation but what its authorization lacks.
-/

namespace SettlementAudits
open Bookkeeping PythonText PythonValues PythonDates Ledger SqlLedgers LedgerEquivalence Domain
open EffectPrograms EffectPrograms.Prog KeyedLists EscrowNames EscrowInvariant Reconciliation
open Consequential hiding respond
open ManagerSpecs ProgramViews SimulatedProvider ProviderAgreement ProviderDialogue
open LedgerAudit (Outcome Audited audited verifyLedgerSettlement)
open AuditTrail (Trailing Agreeing Reports)
open AuditedRuns (Accountable fits_of_accountable sqliteOf_inj call_tracks consistent_of_agreeing)
open ExecutionAudits (Rules noted noted_nil)
open OperationAudits hiding verifiedEvent
open ProviderRuns (Event step run Opening)
open ExactlyOnce (Call)

/-- What became of an operation, by the provider's records. -/
def outcomeOf (p : Provider) (operationId : String) : Outcome :=
  if ∃ rec ∈ p.providerRecords, rec.operationId = operationId ∧ rec.outcome = .success then .performed
  else .refused

/-- No record contradicts these outcomes. -/
def Foretold (outcome : String → Outcome) (p : Provider) : Prop :=
  ∀ key rec, p.recordOf key = some rec →
    (rec.outcome = .success → outcome rec.operationId = .performed) ∧
      (rec.outcome = .failure → outcome rec.operationId = .refused)

/-- A call is accountable in the world it starts in, and new identifiers are new. -/
def Accounts (m : Manager) (tokens : String → Option String) (w : Joint) : Event → Prop
  | .call c inputs => Accountable m tokens w.engine c ∧
      Legal (respond m.hashing) (Fresh m.hashing) inputs (c.program m) w
  | _ => True

def RunAccounts (m : Manager) (tokens : String → Option String) : List Event → Joint → Prop
  | [], _ => True
  | event :: events, w => Accounts m tokens w event ∧ RunAccounts m tokens events (step m w event)

/-- An audit of a stored operation under its own token notes only what its authorization lacks,
and what has ended with credits at stake was locked once and paid as the provider has it. -/
structure Vouched {Other : Type} (r : Rules Other) (ownSecret : Option String)
    (tokens : String → Option String) (w : Joint) : Prop where
  audits : ∀ a : AuditCall, a.operation ∈ w.engine.operations → ¬OnChain a.operation →
    a.decision.authorizationToken = tokens a.operation.decisionId →
    ∀ events, Verifies r ownSecret a (some w.engine.ledger) events ↔ Authorized r ownSecret a
  settled : ∀ entries, w.engine.ledger.getEntries none = .ok entries →
    ∀ o ∈ w.engine.operations, o.state.Terminal → 0 < o.amount →
      ∃ lock exit rec, locksOf entries o.id = [lock] ∧ exitsOf entries o.id = [exit] ∧
        lock.amount = o.amount ∧ exit.amount = o.amount ∧
        w.provider.recordOf o.idempotencyKey = some rec ∧ IsOf rec o ∧ Routed rec exit.toAccount

section Records
variable {outcome : String → Outcome} {p : Provider}

theorem foretold_recordOf {p' : Provider} (told : Foretold outcome p')
    (same : ∀ key rec, p.recordOf key = some rec → ∃ rec', p'.recordOf key = some rec' ∧
      rec'.operationId = rec.operationId ∧ rec'.outcome = rec.outcome) : Foretold outcome p := by
  intro key rec found
  obtain ⟨rec', found', id, said⟩ := same key rec found
  have verdict := told key rec' found'
  rwa [id, said] at verdict

/-- A submission adds a record or counts on one that stays. -/
theorem foretold_back {h : Hashing} {op : ConsequentialOperation}
    (told : Foretold outcome (SimulatedProvider.execute h p op).2) : Foretold outcome p := by
  refine foretold_recordOf told fun key rec found => ?_
  cases present : p.recordOf op.idempotencyKey with
  | some existing =>
    rw [execute_duplicate present]
    have its := (lookupBy_some present).2
    by_cases own : existing.idempotencyKey = key
    · subst own
      have again : p.recordOf existing.idempotencyKey = some existing := by
        rw [its]
        exact present
      obtain rfl := Option.some.inj (found.symm.trans again)
      exact ⟨_, lookupBy_replaceBy_some again, rfl, rfl⟩
    · refine ⟨rec, ?_, rfl, rfl⟩
      have counted : existing.idempotencyKey =
          { existing with submissionCount := existing.submissionCount + 1 }.idempotencyKey := rfl
      rw [counted] at own
      exact (lookupBy_replaceBy_ne own).trans found
  | none =>
    rw [execute_new present]
    rcases executeNew_cases h (p.attempted op.idempotencyKey) op with lost | ⟨said, answer, -, decided, -⟩
    · rw [lost]
      exact ⟨rec, found, rfl, rfl⟩
    · rw [decided]
      refine ⟨rec, ?_, rfl, rfl⟩
      have other : (recordFor h op said).idempotencyKey ≠ key := by
        intro same
        have same : op.idempotencyKey = key := same
        rw [← same, present] at found
        cases found
      exact (lookupBy_concat_ne other).trans found

theorem respond_back {h : Hashing} (c : Cmd) (w : Joint) (i : Draws)
    (told : Foretold outcome (respond h c w i).2.provider) : Foretold outcome w.provider := by
  cases c with
  | execute op => exact foretold_back told
  | _ => exact told

theorem step_back {m : Manager} {w : Joint} {event : Event}
    (told : Foretold outcome (step m w event).provider) : Foretold outcome w.provider := by
  cases event with
  | call c inputs =>
    have back (c : Cmd) (w : Joint) (i : Draws) : Foretold outcome (respond m.hashing c w i).2.provider →
        Foretold outcome w.provider := respond_back c w i
    exact @back_of_advance _ _ _ _ _ _ _ (fun w : Joint => Foretold outcome w.provider) back
      inputs (c.program m) w told
  | timeoutRule key executes fails failureReason =>
    refine foretold_recordOf told fun key' rec found => ⟨rec, ?_, rfl, rfl⟩
    have records := (setTimeoutRule_books w.provider key executes fails failureReason).1
    unfold Provider.recordOf at found ⊢
    rw [← found]
    exact congrArg (fun rs => lookupBy ExternalProviderRecord.idempotencyKey rs key') records
  | failureRule key reason => exact told

theorem run_back {m : Manager} {w : Joint} (events : List Event)
    (told : Foretold outcome (run m w events).provider) : Foretold outcome w.provider := by
  induction events generalizing w with
  | nil => exact told
  | cons event events ih => exact step_back (ih told)

/-- The records of books in agreement contradict none of the outcomes read from them. -/
theorem foretold_outcomeOf {ops : List ConsequentialOperation} {rows : Table}
    (agree : Agree ops rows p) (ids : (ops.map ConsequentialOperation.id).Nodup) :
    Foretold (outcomeOf p) p := by
  intro key rec found
  obtain ⟨mem, -⟩ := lookupBy_some found
  constructor
  · intro success
    exact if_pos ⟨rec, mem, rfl, success⟩
  · intro failure
    refine if_neg ?_
    rintro ⟨other, hother, id, success⟩
    obtain ⟨o, ho, own⟩ := agree.behind rec mem
    obtain ⟨o', ho', own'⟩ := agree.behind other hother
    have same : o'.id = o.id := by rw [← own'.id, ← own.id, id]
    obtain rfl := eq_of_key ids ho' ho same
    obtain rfl := eq_of_key agree.keys hother mem (own'.key.trans own.key.symm)
    rw [failure] at success
    cases success

theorem reports_of_answered {ops : List ConsequentialOperation} {rows : Table}
    {op : ConsequentialOperation} {said : String} (agree : Agree ops rows p)
    (told : Foretold outcome p) (answered : Answered p op said) : Reports (outcome op.id) said := by
  have its {rec : ExternalProviderRecord} (mem : rec ∈ p.providerRecords) (own : IsOf rec op) :=
    own.id ▸ told _ rec (lookupBy_of_mem agree.keys mem)
  constructor
  · intro success
    obtain ⟨rec, mem, own, carried⟩ := answered.success success
    exact (its mem own).1 carried
  · intro failure
    obtain ⟨rec, mem, own, refused⟩ := answered.failure failure
    exact (its mem own).2 refused

end Records

section Runs
variable {m : Manager} {tokens : String → Option String} {outcome : String → Outcome} {w : Joint}

/-- Answers that are on record at the end agree with the outcomes there. -/
theorem agreeing_of_sound {h : Hashing} (c : Cmd) (w : Joint) (i : Draws) (fresh : Fresh h c w i)
    (told : Foretold outcome (respond h c w i).2.provider) (inv : Inv h w.engine) (sound : Sound c w) :
    Agreeing h outcome c w.engine (heard h c w i) := by
  cases c with
  | uuid4 => exact fresh
  | transfer source target amount memo txId => exact fresh
  | execute op =>
    obtain ⟨agreed, stored, sent, first⟩ := sound
    obtain ⟨agreed', answered, -⟩ := agreed.executed (h := h) stored sent first
    rintro result ⟨⟩ -
    exact reports_of_answered agreed' told answered
  | status opId key ref =>
    cases ref with
    | some ref => exact fun _ said => absurd said (by rintro ⟨⟩)
    | none =>
      obtain ⟨entries, held⟩ := inv
      obtain ⟨agreed, own⟩ := sound
      rintro s ⟨⟩ o found -
      obtain ⟨mem, rfl⟩ := lookupBy_some found
      rw [← own o found]
      exact reports_of_answered agreed told (agreed.status held.good.ids held.good.keys mem)
  | _ => trivial

/-- Between the commands of every run, the ledger is accounted for and the books agree. -/
structure Kept (m : Manager) (tokens : String → Option String) (outcome : String → Outcome)
    (w : Joint) : Prop where
  inv : Inv m.hashing w.engine
  trailing : Trailing m.hashing tokens outcome w.engine
  agreed : Agreed w

theorem step_kept (hex : HexDigests m.hashing) (event : Event) (now : Kept m tokens outcome w)
    (accounts : Accounts m tokens w event) (told : Foretold outcome (step m w event).provider) :
    Kept m tokens outcome (step m w event) := by
  cases event with
  | call c inputs =>
    obtain ⟨accountable, fresh⟩ := accounts
    have fits := fits_of_accountable accountable
    have safe := (ExactlyOnce.call_keeps hex now.inv c fits).beside
      (call_tracks now.inv now.trailing c accountable)
      fun c w env agreeing inv trailing => consistent_of_agreeing c env agreeing inv trailing
    have attends := ProviderRuns.call_attends now.agreed c fits
    have both := Meets.beside ((views m.hashing).keeps safe)
      (attends.restrict fun c w i allowed => ⟨allowed.1.1, allowed.2.1⟩)
      (fun c w i (allowed : Fresh m.hashing c w i ∧
          Foretold outcome (respond m.hashing c w i).2.provider) held sound =>
        agreeing_of_sound c w i allowed.1 allowed.2 held.1 sound)
      fun _ _ sound => sound.agreed
    have legal := legal_of_advance (P := fun w : Joint => Foretold outcome w.provider)
      (fun c w i => respond_back c w i) inputs (c.program m) w fresh told
    obtain ⟨⟨inv, trailing⟩, agreed⟩ := both.advance (fun _ _ both => both) (fun _ _ both => both)
      inputs legal
    exact ⟨inv, trailing, agreed⟩
  | timeoutRule key executes fails failureReason =>
    obtain ⟨records, attempts⟩ := setTimeoutRule_books w.provider key executes fails failureReason
    exact ⟨now.inv, now.trailing, now.agreed.books records attempts⟩
  | failureRule key reason => exact ⟨now.inv, now.trailing, now.agreed.books rfl rfl⟩

theorem run_kept (hex : HexDigests m.hashing) (events : List Event) (now : Kept m tokens outcome w)
    (accounts : RunAccounts m tokens events w) (told : Foretold outcome (run m w events).provider) :
    Kept m tokens outcome (run m w events) := by
  induction events generalizing w with
  | nil => exact now
  | cons event events ih =>
    have first := step_kept hex event now accounts.1 (run_back events told)
    exact ih first accounts.2 told

theorem runFits_of_accounts (events : List Event) (accounts : RunAccounts m tokens events w) :
    ProviderRuns.RunFits m events w := by
  induction events generalizing w with
  | nil => trivial
  | cons event events ih =>
    refine ⟨?_, ih accounts.2⟩
    cases event with
    | call c inputs => exact ⟨fits_of_accountable accounts.1.1, accounts.1.2⟩
    | timeoutRule key executes fails failureReason => trivial
    | failureRule key reason => trivial

/-- Every run that opens funded ends accounted for by what its provider has on record. -/
theorem kept_of_opening (hex : HexDigests m.hashing) (opening : Opening w) (events : List Event)
    (accounts : RunAccounts m tokens events w) :
    Kept m tokens (outcomeOf (run m w events).provider) (run m w events) := by
  obtain ⟨⟨_, held⟩, agreed⟩ := ProviderRuns.run_keeps hex events
    ⟨ExactlyOnce.inv_opening opening.1, ProviderRuns.agreed_opening opening⟩
    (runFits_of_accounts events accounts)
  exact run_kept hex events ⟨ExactlyOnce.inv_opening opening.1,
    AuditedRuns.trailing_opening opening.1, ProviderRuns.agreed_opening opening⟩ accounts
    (foretold_outcomeOf agreed held.good.ids)

end Runs

section Audits
variable {Other : Type} {r : Rules Other} {ownSecret : Option String} {m : Manager}
  {tokens : String → Option String} {outcome : String → Outcome} {w : Joint}
  {entries : List LedgerEntry} {o : ConsequentialOperation}

/-- Credits are only ever moved between the treasury, escrow and the outside. -/
theorem conservation_holds {h : Hashing} {w : World} (held : Holds h entries w) :
    w.ledger.verifyConservation = true := by
  rw [held.ledger, sqlite_verify_iff]
  intro e he
  rcases held.good.origin e he with funding | ⟨o, -, lock | exit⟩
  · rw [funding.target]
    decide
  · rw [lock.target]
    decide
  · rcases exit.target with out | back
    · rw [out]
      decide
    · rw [back]
      decide

/-- The ledger section looks at ended operations only. -/
theorem settlement_pending {h : Hashing} {decision : PolicyDecision} (pending : ¬o.state.Terminal) :
    verifyLedgerSettlement h o decision entries = [] := by
  unfold verifyLedgerSettlement
  split_ifs
  · revert pending
    cases o.state with
    | succeeded => exact fun pending => absurd (by decide) pending
    | failed => exact fun pending => absurd (by decide) pending
    | reconciled => exact fun pending => absurd (by decide) pending
    | _ => exact fun _ => rfl
  · rfl

theorem settlement_passes (hex : HexDigests m.hashing) (kept : Kept m tokens outcome w)
    (mem : o ∈ w.engine.operations) {decision : PolicyDecision}
    (token : decision.authorizationToken = tokens o.decisionId) :
    settlementFailures o m.hashing decision (some w.engine.ledger) = .ok [] := by
  obtain ⟨entries, read, all⟩ := AuditedRuns.allAudited_of_both hex kept.inv kept.trailing
  have passes : verifyLedgerSettlement m.hashing o decision entries = [] := by
    by_cases ended : o.state.Terminal
    · exact (all o mem ended).passes decision token
    · exact settlement_pending ended
  simp only [settlementFailures, read]
  split_ifs
  · exact congrArg Except.ok passes
  · rfl

theorem vouched_of_kept (same : r.toHashing = m.hashing) (hex : HexDigests m.hashing)
    (kept : Kept m tokens outcome w) : Vouched r ownSecret tokens w where
  audits := by
    intro a mem plain token events
    have evidence : evidenceFailures a.operation = [] :=
      evidenceFailures_nil.mpr ⟨(kept.agreed.evidence _ mem).reference, (kept.agreed.evidence _ mem).message⟩
    have settlement : settlementFailures a.operation r.toHashing a.decision (some w.engine.ledger) =
        .ok [] := by
      rw [same]
      exact settlement_passes hex kept mem token
    have conservation : conservationFailures (some w.engine.ledger) = [] := by
      obtain ⟨_, held⟩ := kept.inv
      simp [conservationFailures, noted_nil, conservation_holds held]
    rw [verifies_iff, auditFailures_nil]
    constructor
    · intro met
      exact met.1
    · intro authorized
      exact ⟨authorized, evidence, settlement, conservation, chainFailures_nil plain _ _⟩
  settled := by
    intro entries read o mem ended pos
    obtain ⟨entries', read', all⟩ := AuditedRuns.allAudited_of_both hex kept.inv kept.trailing
    obtain rfl := Except.ok.inj (read'.symm.trans read)
    obtain ⟨lock, exit, locks, exits, -, -, locked, -, -, paid⟩ := (all o mem ended).settled pos
    have settled := ProviderRuns.settled_of_both kept.inv kept.agreed
    obtain ⟨rec, found, own, -, routed⟩ :=
      settled.exits entries' read o mem exit (exits ▸ List.mem_cons_self)
    exact ⟨lock, exit, rec, locks, exits, locked, paid, found, own, routed⟩

/-- Wherever a run is cut, the audit of every stored operation answers as its authorization does. -/
theorem stored_operations_vouched (same : r.toHashing = m.hashing) (hex : HexDigests m.hashing)
    (opening : Opening w) (events : List Event) (accounts : RunAccounts m tokens events w) :
    Vouched r ownSecret tokens (run m w events) :=
  vouched_of_kept same hex (kept_of_opening hex opening events accounts)

end Audits

section Scenario
open AuditedRuns (secondDecision)
open ExactlyOnce (manager proposal org firstUuid secondUuid manager_hexDigests funded_opening digestTable)
open ProviderRuns (draws sampleOpening)
open TokenBinding

def signedDecision : PolicyDecision := ⟨"dec-1", .approved, none, some "AUTH-p1.c1.s1"⟩

def signedTokens (decisionId : String) : Option String :=
  if decisionId = "dec-1" then some "AUTH-p1.c1.s1" else some "tok-2"

/-- A payment that times out and is carried out, one that is refused, and a reconciliation. -/
def signedEvents : List Event :=
  [.timeoutRule "org-1:p1" true false none, .failureRule "org-1:p2" "declined",
    .call (.execute (proposal "p1") signedDecision org none)
      (List.replicate 13 (draws firstUuid "l1")),
    .call (.execute (proposal "p2") secondDecision org none)
      (List.replicate 10 (draws secondUuid "l2") ++ List.replicate 5 (draws secondUuid "x2")),
    .call (.reconcile "cop-111111111111" org) (List.replicate 10 (draws firstUuid "r1"))]

def signedClaims : AuthorizationTokenClaims :=
  ⟨"org-1", "p1", "0000000000000000", "dec-1", "v", .finite 0, .finite 60, "n"⟩

def signedRules : Rules String where
  toHashing := manager.hashing
  hmac _ _ := ""
  b64encode := id
  b64decode := .ok
  loads _ := .ok (.dict [("org_id", .str signedClaims.orgId), ("proposal_id", .str signedClaims.proposalId),
    ("proposal_content_hash", .str signedClaims.proposalContentHash),
    ("decision_id", .str signedClaims.decisionId), ("policy_version_hash", .str signedClaims.policyVersionHash),
    ("issued_at", .float signedClaims.issuedAt), ("expires_at", .float signedClaims.expiresAt),
    ("nonce", .str signedClaims.nonce)])
  round3 f := f
  add f _ := f
  floatOf
    | .float f => some f
    | _ => none
  invalid _ := ⟨.validationError, "1 validation error for AuthorizationTokenClaims"⟩
  nonceOf := .ok
  text := PythonConversions.asciiRules fun _ => "0.0"
  upper := id
  events := EventStores.sampleRules
  moment := DateTime.isoformat

def signedAudit (o : ConsequentialOperation) : AuditCall where
  operation := o
  proposal := proposal "p1"
  decision := signedDecision
  org := ⟨"org-1", .executing⟩
  policyEngine := none
  verificationSecret := none
  policyVersionHash := none
  rpcClient := none
  blockchainReceipt := none
  now := .finite 1
  uuid := "v1"
  clock := EventChain.newYear
  naive := ExecutionAudits.sample_clock_naive

theorem signed_digests (s : String) : manager.hashing.sha256 s ≠ "" := by
  have filled : ∀ d ∈ "0000000000000000" :: digestTable.map Prod.snd, d ≠ "" := by decide +kernel
  show (digestTable.lookup s).getD "0000000000000000" ≠ ""
  cases found : digestTable.lookup s with
  | none => exact filled _ List.mem_cons_self
  | some d =>
    obtain ⟨before, after, split, -⟩ := List.lookup_eq_some_iff.mp found
    refine filled d (List.mem_cons_of_mem _ ?_)
    rw [split]
    simp

theorem signed_content : getContentHash signedRules.toTokenRules (proposal "p1") = "0000000000000000" := by
  have empty : signedRules.ofJson (proposal "p1").parameters = "0000000000000000" := by
    have text : canonicalJson signedRules.reprFloat (.dict (proposal "p1").parameters) = "\x7b\x7d" := by
      simp [proposal, canonicalJson, canonicalItems]
      decide
    rw [Hashing.ofJson, text]
    decide +kernel
  rw [getContentHash, contentText, empty]
  decide +kernel

theorem signed_accepted : Accepts (verifyAuthorizationToken signedRules.toTokenRules none none
    signedDecision.authorizationToken (proposal "p1") ⟨"org-1", .executing⟩ (some signedDecision)
    (.finite 1)) := by
  have parts : splitText "AUTH-p1.c1.s1" '.' = ["AUTH-p1", "c1", "s1"] := by decide +kernel
  have read : fromB64 signedRules.toTokenRules "c1" = .ok signedClaims := rfl
  have starts : startsWith "AUTH-p1" "AUTH-" = true := by decide +kernel
  have token : signedDecision.authorizationToken = some "AUTH-p1.c1.s1" := rfl
  rw [verifyAuthorizationToken, token]
  simp only [reduceCtorEq, Option.some.injEq, String.reduceEq, or_self, if_false, Option.getD_some,
    parts, starts, if_true, Option.elim_none, read]
  refine (accepts_ok _).mpr ((auditClaims_iff ..).mpr ⟨⟨by decide, rfl, rfl, signed_content.symm, ?_⟩, ?_⟩)
  · rintro d ⟨⟩
    rfl
  · rintro v ⟨⟩

/-- The timed-out payment is found carried out, and its audit passes. -/
theorem sample_vouched : Vouched signedRules none signedTokens (run manager sampleOpening signedEvents) ∧
    ∃ o ∈ (run manager sampleOpening signedEvents).engine.operations, o.state = .reconciled ∧
      Verifies signedRules none (signedAudit o)
        (some (run manager sampleOpening signedEvents).engine.ledger) (some []) := by
  have vouched : Vouched signedRules none signedTokens (run manager sampleOpening signedEvents) :=
    stored_operations_vouched rfl manager_hexDigests ⟨funded_opening, rfl, fun _ => rfl⟩ _
      ⟨trivial, trivial, ⟨show AuditTrail.Presents _ _ _ _ _ _ by decide +kernel, by decide +kernel⟩,
        ⟨show AuditTrail.Presents _ _ _ _ _ _ by decide +kernel, by decide +kernel⟩,
        ⟨trivial, by decide +kernel⟩, trivial⟩
  refine ⟨vouched, ?_⟩
  have first : ∃ o ∈ (run manager sampleOpening signedEvents).engine.operations,
      o.state = .reconciled ∧ o.proposalId = "p1" ∧ o.decisionId = "dec-1" ∧
        o.organisationId = "org-1" ∧ o.amount = 50 ∧ ¬OnChain o := by
    decide +kernel
  obtain ⟨o, mem, state, proposalId, decisionId, organisationId, amount, plain⟩ := first
  refine ⟨o, mem, state, ?_⟩
  refine (vouched.audits (signedAudit o) mem plain ?_ _).mpr ?_
  · show signedDecision.authorizationToken = signedTokens o.decisionId
    rw [decisionId]
    rfl
  · have active : OrgState.executing ≠ .paused := by decide
    exact ⟨⟨proposalId, decisionId, organisationId, amount⟩, signed_accepted, signed_digests _,
      signed_digests _, active⟩

end Scenario

end SettlementAudits
