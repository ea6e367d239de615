import KalyxMao.PurchaseSettlement

/-!
# Runs of the purchase verifier

The verifier is asked about executions and about status answers, in any order,
and remembers the reference under which it verified an intent. A call that
raises leaves the memory as it was.
-/

namespace PurchaseVerifications
open PythonText PythonValues PythonConversions Domain PurchaseVerifier

section Calls
variable (h : Hashing) (t : TextRules)

/-- `OrbioPurchaseVerifier.verify_execution`. -/
def verifyExecution (verified : Verified) (i : OrbioPurchaseIntent) (result : ProviderExecutionResult)
    (operation : Option ConsequentialOperation) : Except PyError (PurchaseVerificationReport × Verified) := do
  let evidence ← extractEvidenceFromExecution t result operation
  verify h t verified i evidence (some result.outcome) result.providerReference

/-- What the verifier is asked about. -/
inductive Answer where
  | execution (result : ProviderExecutionResult)
  | status (answered : ProviderStatusResult)

def Answer.outcome : Answer → String
  | .execution result => result.outcome
  | .status answered => answered.outcome

def Answer.reference : Answer → Option String
  | .execution result => result.providerReference
  | .status answered => answered.providerReference

def Answer.evidence (a : Answer) (operation : Option ConsequentialOperation) :
    Except PyError (Option OrbioPurchaseEvidence) :=
  match a with
  | .execution result => extractEvidenceFromExecution t result operation
  | .status answered => extractEvidenceFromStatus t answered operation

structure Call where
  intent : OrbioPurchaseIntent
  answer : Answer
  operation : Option ConsequentialOperation

def Call.judge (c : Call) (verified : Verified) : Except PyError (PurchaseVerificationReport × Verified) :=
  match c.answer with
  | .execution result => verifyExecution h t verified c.intent result c.operation
  | .status answered => verifyStatus h t verified c.intent answered c.operation

/-- The memory after a call. -/
def Call.after (c : Call) (verified : Verified) : Verified :=
  match c.judge h t verified with
  | .ok answer => answer.2
  | .error _ => verified

def runAfter : List Call → Verified → Verified
  | [], verified => verified
  | c :: rest, verified => runAfter rest (c.after h t verified)

/-- The reports of a run, each with its call. -/
def reports : List Call → Verified → List (Call × PurchaseVerificationReport)
  | [], _ => []
  | c :: rest, verified =>
    match c.judge h t verified with
    | .ok answer => (c, answer.1) :: reports rest answer.2
    | .error _ => reports rest verified

/-- What a verified purchase rests on. -/
structure Proven (c : Call) (report : PurchaseVerificationReport) : Prop where
  success : c.answer.outcome = outcomeSuccess
  evidence : ∃ e, report.evidence = some e ∧ Matches h t c.intent e c.answer.reference
  owner : ∀ op, c.operation = some op →
    op.tenantId = c.intent.tenantId ∧ op.organisationId = c.intent.organisationId

end Calls

section Verdicts
variable {h : Hashing} {t : TextRules} {i : OrbioPurchaseIntent} {e : OrbioPurchaseEvidence}
  {verified verified' : Verified} {report : PurchaseVerificationReport}

/-- Evidence on which no check reports anything is that of the intent. -/
theorem checkEvidence_matches {expectedReference : Option String}
    (checked : checkEvidence h t i e expectedReference = .ok none) : Matches h t i e expectedReference := by
  have silent {p : Prop} [Decidable p] {code reason : String}
      {rest : Except PyError (Option PurchaseVerificationReport)}
      (checked : (if p then .ok (some (rejection (i.computePurchaseIntentHash h) e code reason)) else rest) =
        .ok none) : ¬p ∧ rest = .ok none := by
    rcases ite_eq_iff.mp checked with ⟨-, rejected⟩ | passed
    · cases rejected
    · exact passed
  rw [checkEvidence.eq_def] at checked
  split at checked
  · cases checked
  · cases checked
  · rename_i network named _
    obtain ⟨present, checked⟩ := silent checked
    obtain ⟨hash, checked⟩ := silent checked
    obtain ⟨tenant, checked⟩ := silent checked
    obtain ⟨organisation, checked⟩ := silent checked
    obtain ⟨exchange, checked⟩ := silent checked
    obtain ⟨chain, chainOk, checked⟩ := bind_ok.mp checked
    obtain ⟨sameChain, checked⟩ := silent checked
    obtain ⟨sameNetwork, checked⟩ := silent checked
    obtain ⟨spent, checked⟩ := silent checked
    obtain ⟨credit, checked⟩ := silent checked
    obtain ⟨beneficiary, checked⟩ := silent checked
    obtain ⟨activation, checked⟩ := silent checked
    obtain ⟨filled, networkFilled, beneficiaryFilled, referenceFilled, hashFilled⟩ := by
      simpa only [not_or] using present
    have beneficiary : t.lower e.beneficiary = t.lower i.beneficiaryAsBytes32 ∨
        t.lower e.beneficiary = t.lower i.beneficiary := by
      by_contra other
      exact beneficiary (not_or.mp other)
    have activation : e.activationId ≠ "" ∨ hasActivatedEvent e.events = true := by
      by_contra missing
      obtain ⟨unnamed, eventless⟩ := not_or.mp missing
      exact activation ⟨not_not.mp unnamed, Bool.eq_false_iff.mpr eventless⟩
    have reference (r : String) (expected : expectedReference = some r) : r = "" ∨ e.providerReference = r := by
      subst expected
      by_contra other
      exact (silent checked).1 (not_or.mp other)
    exact
      { chain := by rw [chainOk, not_not.mp sameChain]
        network := ⟨network, named, networkFilled, not_not.mp sameNetwork⟩
        exchange := ⟨filled, not_not.mp exchange⟩
        beneficiary := ⟨beneficiaryFilled, beneficiary⟩
        reference := ⟨referenceFilled, reference⟩
        intentHash := ⟨hashFilled, not_not.mp hash⟩
        tenant := Bool.of_not_eq_false tenant
        organisation := Bool.of_not_eq_false organisation
        spent := not_not.mp spent
        credit := Int.not_lt.mp credit
        activation := activation }

/-- A verdict other than `VERIFIED` leaves the memory; anything else has come through all checks. -/
theorem verify_cases {evidence : Option OrbioPurchaseEvidence} {outcome expectedReference : Option String}
    (judged : verify h t verified i evidence outcome expectedReference = .ok (report, verified')) :
    (report.result ≠ .verified ∧ verified' = verified) ∨
    ∃ e, evidence = some e ∧ (outcome = none ∨ outcome = some outcomeSuccess) ∧
      Matches h t i e expectedReference ∧
      concludeVerification verified (i.computePurchaseIntentHash h) e = (report, verified') := by
  have unverified {r : PurchaseVerificationReport} (other : r.result ≠ .verified)
      (judged : Except.ok (r, verified) = (Except.ok (report, verified') : Except PyError _)) :
      (report.result ≠ .verified ∧ verified' = verified) := by
    obtain ⟨rfl, rfl⟩ := Prod.mk.inj (Except.ok.inj judged)
    exact ⟨other, rfl⟩
  have rejected (r : PurchaseVerificationReport) (same : r.result = .rejected) : r.result ≠ .verified := by
    rw [same]
    decide
  cases evidence with
  | none =>
    rw [verify] at judged
    split at judged
    · exact .inl (unverified PurchaseVerificationResult.noConfusion judged)
    · exact .inl (unverified PurchaseVerificationResult.noConfusion judged)
  | some e =>
    rw [verify] at judged
    split at judged
    · split at judged
      · exact .inl (unverified PurchaseVerificationResult.noConfusion judged)
      · exact .inl (unverified (rejected _ rfl) judged)
    · rename_i settled
      obtain ⟨failed, checked, judged⟩ := bind_ok.mp judged
      cases failed with
      | some r =>
        obtain ⟨_, same, rejected'⟩ | ⟨none_, -⟩ := checkEvidence_cases checked
        · exact .inl (unverified (rejected r (Option.some.inj same ▸ rejected')) judged)
        · cases none_
      | none =>
        refine .inr ⟨e, rfl, ?_, checkEvidence_matches checked, Except.ok.inj judged⟩
        by_contra other
        obtain ⟨some_, unsuccessful⟩ := not_or.mp other
        exact settled ⟨some_, unsuccessful⟩

/-- A verified intent is bound to the reference it was verified under, and stays so. -/
theorem conclude_binds {hash : String}
    (concluded : concludeVerification verified hash e = (report, verified')) (confirmed : report.result = .verified) :
    report.evidence = some e ∧ report.providerReference = some e.providerReference ∧
      verified'.lookup hash = some e.providerReference := by
  unfold concludeVerification at concluded
  split at concluded
  · rename_i prior known
    split at concluded
    · rename_i same
      obtain ⟨rfl, rfl⟩ := Prod.mk.inj concluded
      exact ⟨rfl, rfl, same ▸ known⟩
    · obtain ⟨rfl, rfl⟩ := Prod.mk.inj concluded
      cases confirmed
  · obtain ⟨rfl, rfl⟩ := Prod.mk.inj concluded
    exact ⟨rfl, rfl, List.lookup_cons_self⟩

theorem conclude_keeps {hash key reference : String}
    (concluded : concludeVerification verified hash e = (report, verified'))
    (bound : verified.lookup key = some reference) : verified'.lookup key = some reference := by
  unfold concludeVerification at concluded
  split at concluded
  · split at concluded
    · rw [← (Prod.mk.inj concluded).2, bound]
    · rw [← (Prod.mk.inj concluded).2, bound]
  · rename_i unknown
    rw [← (Prod.mk.inj concluded).2, List.lookup_cons]
    split
    · rename_i same
      rw [beq_iff_eq.mp same, unknown] at bound
      cases bound
    · exact bound

end Verdicts

section Runs
variable {h : Hashing} {t : TextRules} {c : Call} {verified verified' : Verified}
  {report : PurchaseVerificationReport}

theorem judge_eq (c : Call) (verified : Verified) : c.judge h t verified = (do
    let evidence ← c.answer.evidence t c.operation
    verify h t verified c.intent evidence (some c.answer.outcome) c.answer.reference) := by
  unfold Call.judge Answer.evidence Answer.outcome Answer.reference
  cases c.answer with
  | execution result => rfl
  | status answered => rfl

/-- Evidence is of the tenant and the organisation of the operation, where one is given. -/
theorem evidence_owner {op : ConsequentialOperation} {a : Answer} {e : OrbioPurchaseEvidence}
    (extracted : a.evidence t (some op) = .ok (some e)) :
    e.tenantId = .str op.tenantId ∧ e.organisationId = .str op.organisationId := by
  have executed {result : ProviderExecutionResult}
      (extracted : extractEvidenceFromExecution t result (some op) = .ok (some e)) :
      e.tenantId = .str op.tenantId ∧ e.organisationId = .str op.organisationId := by
    unfold extractEvidenceFromExecution at extracted
    dsimp only at extracted
    rcases ite_eq_iff.mp extracted with ⟨-, silent⟩ | ⟨-, extracted⟩
    · cases silent
    · obtain ⟨chainId, -, extracted⟩ := bind_ok.mp extracted
      obtain ⟨minCreditOut, -, extracted⟩ := bind_ok.mp extracted
      obtain ⟨usdgSpent, -, extracted⟩ := bind_ok.mp extracted
      obtain ⟨creditOut, -, extracted⟩ := bind_ok.mp extracted
      obtain rfl := Option.some.inj (Except.ok.inj extracted)
      exact ⟨rfl, rfl⟩
  cases a with
  | execution result => exact executed extracted
  | status answered => exact executed extracted

/-- One call: a verified purchase is proven and bound, and what was bound stays. -/
theorem judge_step (judged : c.judge h t verified = .ok (report, verified')) :
    (∀ key reference, verified.lookup key = some reference → verified'.lookup key = some reference) ∧
      (report.result = .verified → Proven h t c report ∧ ∃ reference,
        report.providerReference = some reference ∧
        verified'.lookup (c.intent.computePurchaseIntentHash h) = some reference) := by
  rw [judge_eq] at judged
  obtain ⟨evidence, extracted, judged⟩ := bind_ok.mp judged
  rcases verify_cases judged with ⟨other, rfl⟩ | ⟨e, rfl, outcome, agrees, concluded⟩
  · exact ⟨fun _ _ bound => bound, fun confirmed => absurd confirmed other⟩
  · refine ⟨fun _ _ bound => conclude_keeps concluded bound, fun confirmed => ?_⟩
    obtain ⟨same, reference, bound⟩ := conclude_binds concluded confirmed
    refine ⟨⟨?_, ⟨e, same, agrees⟩, fun op given => ?_⟩, _, reference, bound⟩
    · rcases outcome with none_ | success
      · cases none_
      · exact Option.some.inj success
    · rw [given] at extracted
      obtain ⟨tenant, organisation⟩ := evidence_owner extracted
      have tenants := agrees.tenant
      have organisations := agrees.organisation
      rw [tenant] at tenants
      rw [organisation] at organisations
      exact ⟨of_decide_eq_true tenants, of_decide_eq_true organisations⟩

theorem after_keeps (c : Call) (verified : Verified) {key reference : String}
    (bound : verified.lookup key = some reference) :
    (c.after h t verified).lookup key = some reference := by
  unfold Call.after
  split
  · rename_i answer judged
    exact (judge_step judged).1 key reference bound
  · exact bound

theorem runAfter_keeps (calls : List Call) {key reference : String}
    (bound : verified.lookup key = some reference) :
    (runAfter h t calls verified).lookup key = some reference := by
  induction calls generalizing verified with
  | nil => exact bound
  | cons c rest ih => exact ih (after_keeps c verified bound)

/-- In a whole run: what is reported as verified is proven, and bound at the end of it. -/
theorem reports_bound (calls : List Call) (reported : (c, report) ∈ reports h t calls verified)
    (confirmed : report.result = .verified) : Proven h t c report ∧ ∃ reference,
      report.providerReference = some reference ∧
      (runAfter h t calls verified).lookup (c.intent.computePurchaseIntentHash h) = some reference := by
  induction calls generalizing verified with
  | nil => cases reported
  | cons c' rest ih =>
    unfold reports at reported
    rw [runAfter]
    unfold Call.after
    split at reported
    · rename_i answer judged
      rcases List.mem_cons.mp reported with same | later
      · obtain ⟨rfl, rfl⟩ := Prod.mk.inj same
        obtain ⟨proven, reference, said, bound⟩ := (judge_step judged).2 confirmed
        exact ⟨proven, reference, said, runAfter_keeps rest bound⟩
      · exact ih later
    · exact ih reported

/-- What holds over every run of the verifier. -/
structure VerdictsHold (h : Hashing) (t : TextRules) (calls : List Call) : Prop where
  proven : ∀ c report, (c, report) ∈ reports h t calls [] → report.result = .verified → Proven h t c report
  once : ∀ c c' report report', (c, report) ∈ reports h t calls [] → (c', report') ∈ reports h t calls [] →
    c.intent = c'.intent → report.result = .verified → report'.result = .verified →
    report.providerReference = report'.providerReference
  alike : ∀ (verified : Verified) i operation (result : ProviderExecutionResult) (answered : ProviderStatusResult),
    answered.outcome = result.outcome → answered.providerReference = result.providerReference →
    answered.rawStatus = result.rawResponse →
    (verifyStatus h t verified i answered operation).map (fun a => (a.1.result, a.1.codes, a.1.reasons, a.2)) =
      (verifyExecution h t verified i result operation).map fun a => (a.1.result, a.1.codes, a.1.reasons, a.2)

/-- For every sequence of calls with any raw answers: a purchase is verified on a successful outcome
and on evidence that is the intent's, in every field that is compared, and under one reference only;
and a status answer is judged as the execution with the same outcome, reference and raw fields. -/
theorem verdicts_hold (h : Hashing) (t : TextRules) (calls : List Call) : VerdictsHold h t calls := by
  constructor
  · intro c report reported confirmed
    exact (reports_bound calls reported confirmed).1
  · intro c c' report report' reported reported' same confirmed confirmed'
    obtain ⟨-, reference, said, bound⟩ := reports_bound calls reported confirmed
    obtain ⟨-, reference', said', bound'⟩ := reports_bound calls reported' confirmed'
    rw [same, bound'] at bound
    rw [said, said', Option.some.inj bound]
  · intro verified i operation result answered outcome reference raw
    have same : extractEvidenceFromStatus t answered operation =
        extractEvidenceFromExecution t result operation := by
      cases result
      cases answered
      cases outcome
      cases reference
      cases raw
      rfl
    rw [verifyStatus, verifyExecution, same, outcome, reference]

/-- The digest of the one intent asked about. -/
def sampleHashing : Hashing where
  sha256 _ := "6383e6f002a2a2ecde35067f332a9bafa6b88c79d3bc1f678f632acdaf7e4a23"
  reprFloat _ := "0.0"

/-- A success that names neither tenant nor organisation, asked about without its operation. -/
def unnamedCall : Call where
  intent := PurchaseSettlement.purchaseIntent
  answer := .status
    { providerName := "blockchain"
      operationId := "cop-111111111111"
      outcome := "SUCCESS"
      providerReference := some "0xfeed"
      rawStatus := [("chain_id", .int 4663), ("network", .str "robinhood"),
        ("exchange_contract", .str "0x6951ffd32630b05e06f50062aea801625a58ebc0"),
        ("usdg_spent", .int 1000000), ("credit_out", .int 950000),
        ("beneficiary", .str "0x1111111111111111111111111111111111111111"),
        ("activation_id", .str "act-1"),
        ("purchase_intent_hash",
          .str "6383e6f002a2a2ecde35067f332a9bafa6b88c79d3bc1f678f632acdaf7e4a23")]
      errorMessage := none
      evidenceHash := none }
  operation := none

theorem unnamed_matches : ∃ e,
    unnamedCall.answer.evidence PurchaseSettlement.textRules none = .ok (some e) ∧ e.tenantId = .none ∧
    Matches sampleHashing PurchaseSettlement.textRules unnamedCall.intent e unnamedCall.answer.reference := by
  refine ⟨_, rfl, rfl, ?_⟩
  exact {
    chain := rfl
    network := ⟨_, rfl, by decide, rfl⟩
    exchange := ⟨by decide, rfl⟩
    beneficiary := ⟨by decide, .inr rfl⟩
    reference := ⟨by decide, fun _ same => .inr (Option.some.inj same)⟩
    intentHash := ⟨by decide, rfl⟩
    tenant := rfl
    organisation := rfl
    spent := rfl
    credit := by decide
    activation := .inl (by decide) }

theorem unnamed_judged : ∃ e hash, unnamedCall.judge sampleHashing PurchaseSettlement.textRules [] =
    .ok (concludeVerification [] hash e) ∧ e.tenantId = .none := by
  obtain ⟨e, extracted, unnamed, agrees⟩ := unnamed_matches
  refine ⟨e, unnamedCall.intent.computePurchaseIntentHash sampleHashing, ?_, unnamed⟩
  rw [judge_eq, show unnamedCall.operation = none from rfl, extracted]
  show verify sampleHashing PurchaseSettlement.textRules [] unnamedCall.intent (some e) (some "SUCCESS")
    unnamedCall.answer.reference = _
  rw [verify, checkEvidence_passes agrees]
  rfl

theorem reports_first {answer : PurchaseVerificationReport × Verified}
    (judged : c.judge h t verified = .ok answer) : (c, answer.1) ∈ reports h t [c] verified := by
  simp only [reports, judged, List.mem_singleton]

theorem conclude_first (hash : String) (e : OrbioPurchaseEvidence) :
    (concludeVerification [] hash e).1.result = .verified ∧ (concludeVerification [] hash e).1.evidence = some e :=
  ⟨rfl, rfl⟩

/-- It is verified, on evidence of no tenant. -/
theorem unnamed_tenant_verified : ∃ report e,
    (unnamedCall, report) ∈ reports sampleHashing PurchaseSettlement.textRules [unnamedCall] [] ∧
    report.result = .verified ∧ report.evidence = some e ∧ e.tenantId = .none ∧
    e.tenantId ≠ .str unnamedCall.intent.tenantId := by
  obtain ⟨e, hash, judged, unnamed⟩ := unnamed_judged
  obtain ⟨confirmed, same⟩ := conclude_first hash e
  refine ⟨_, e, reports_first judged, confirmed, same, unnamed, ?_⟩
  rw [unnamed]
  exact PyValue.noConfusion

end Runs

end PurchaseVerifications
