import KalyxMao.Domain
import KalyxMao.PythonConversions

/-!
# Verifying purchase evidence against an intent

Evidence is read out of whatever the provider put into its response, under
several names and from nested receipts and events. The verifier compares it with
the authorised intent field by field and remembers the reference under which an
intent was verified first.
-/

namespace PurchaseVerifier
open PythonText PythonValues PythonConversions Domain

section Intent

/-- `^0x[0-9a-fA-F]{width}$` on text without a line break. -/
def isHexText (width : Nat) (s : String) : Bool :=
  s.toList.take 2 = ['0', 'x'] && s.toList.length = width + 2 &&
    (s.toList.drop 2).all fun c => c.isDigit || ('a' ≤ c && c ≤ 'f') || ('A' ≤ c && c ≤ 'F')

/-- A validated intent; addresses are stored stripped and in lower case. -/
structure OrbioPurchaseIntent where
  tenantId : String
  organisationId : String
  missionId : Option String
  operationId : String
  chainId : Int
  network : String
  exchangeContract : String
  paymentToken : String
  creditToken : String
  usdgIn : Nat
  minCreditOut : Nat
  beneficiary : String
  maxFills : Nat
  maxFeePerGas : Nat
  maxPriorityFeePerGas : Nat
  gasLimit : Nat
  amountCredits : Nat
  idempotencyKey : String
  policyDecisionId : String
  authorizationTokenHash : String
  deadline : Option Int
  some_amount : ¬(usdgIn = 0 ∧ minCreditOut = 0)
  beneficiary_shape : isHexText 40 beneficiary = true ∨ isHexText 64 beneficiary = true

def optionalStr (s : Option String) : PyValue := s.elim .none .str

/-- The bytes32 form; a validated beneficiary is an address or has it already. -/
def OrbioPurchaseIntent.beneficiaryAsBytes32 (i : OrbioPurchaseIntent) : String :=
  if isHexText 64 i.beneficiary then i.beneficiary
  else "0x" ++ String.ofList (List.replicate 24 '0' ++ i.beneficiary.toList.drop 2)

def OrbioPurchaseIntent.computePurchaseIntentHash (h : Hashing) (i : OrbioPurchaseIntent) : String :=
  h.ofJson
    [("tenant_id", .str i.tenantId), ("organisation_id", .str i.organisationId),
      ("mission_id", optionalStr i.missionId), ("operation_id", .str i.operationId),
      ("chain_id", .int i.chainId), ("network", .str i.network),
      ("exchange_contract", .str i.exchangeContract), ("payment_token", .str i.paymentToken),
      ("credit_token", .str i.creditToken), ("usdg_in", .int i.usdgIn),
      ("min_credit_out", .int i.minCreditOut), ("beneficiary", .str i.beneficiaryAsBytes32),
      ("max_fills", .int i.maxFills), ("max_fee_per_gas", .int i.maxFeePerGas),
      ("max_priority_fee_per_gas", .int i.maxPriorityFeePerGas), ("gas_limit", .int i.gasLimit),
      ("amount_credits", .int i.amountCredits), ("idempotency_key", .str i.idempotencyKey),
      ("policy_decision_id", .str i.policyDecisionId),
      ("authorization_token_hash", .str i.authorizationTokenHash),
      ("deadline", i.deadline.elim .none .int),
      ("function", .str "buyAndActivate(uint256,uint256,bytes32,uint256)")]

end Intent

section Evidence
variable (t : TextRules)

structure OrbioPurchaseEvidence where
  purchaseIntentHash : String
  providerReference : String
  chainId : PyValue
  network : Option String
  exchangeContract : String
  usdgSpent : Int
  creditOut : Int
  minCreditOut : Int
  beneficiary : String
  activationId : String
  tenantId : PyValue
  organisationId : PyValue
  events : List PyValue

/-- The first event that is a map and carries one of the keys. -/
def eventCredit : List PyValue → PyValue
  | [] => .none
  | .dict e :: rest =>
    if hasKey e "credit_out" then get e "credit_out"
    else if hasKey e "credit_amount" then get e "credit_amount"
    else if hasKey e "credits" then get e "credits"
    else eventCredit rest
  | _ :: rest => eventCredit rest

def eventActivation : List PyValue → Option PyValue
  | [] => none
  | .dict e :: rest =>
    if truthy (get e "activation_id") then some (get e "activation_id") else eventActivation rest
  | _ :: rest => eventActivation rest

def eventBeneficiary : List PyValue → Option PyValue
  | [] => none
  | .dict e :: rest =>
    if truthy (get e "beneficiary") || truthy (get e "beneficiary_bytes32") then
      some (firstTruthy [get e "beneficiary", get e "beneficiary_bytes32"])
    else eventBeneficiary rest
  | _ :: rest => eventBeneficiary rest

/-- A value, or where it is `None` another one. -/
def orIfNone (v w : PyValue) : PyValue :=
  match v with
  | .none => w
  | v => v

def activationOf (raw receipt : List (String × PyValue)) (events : List PyValue) : PyValue :=
  let direct := firstTruthy [get raw "activation_id", get receipt "activation_id", .str ""]
  if truthy direct then direct
  else
    match eventActivation events with
    | some v => .str (strOf t v)
    | none => direct

def beneficiaryOf (raw receipt : List (String × PyValue)) (events : List PyValue) : String :=
  let direct := strOf t (firstTruthy [get raw "beneficiary", get raw "beneficiary_bytes32",
    get receipt "beneficiary", get receipt "beneficiary_bytes32", .str ""])
  if direct ≠ "" then direct
  else
    match eventBeneficiary events with
    | some v => strOf t v
    | none => direct

/-- A chain id that is no number is kept as it came. -/
def chainIdOf (v : PyValue) : Except PyError PyValue :=
  match v with
  | .none => .ok .none
  | v =>
    match intOf t v with
    | .ok i => .ok (.int i)
    | .error e => if isConversionError e then .ok v else .error e

def minCreditOf (v : PyValue) : Except PyError Int :=
  match v with
  | .none => .ok 0
  | v =>
    match intOf t v with
    | .ok i => .ok i
    | .error e => if isConversionError e then .ok 0 else .error e

def optionalText (v : PyValue) : Option String :=
  match v with
  | .none => none
  | v => some (strOf t v)

def extractEvidenceFromExecution (result : ProviderExecutionResult)
    (operation : Option ConsequentialOperation) :
    Except PyError (Option OrbioPurchaseEvidence) := do
  let raw := result.rawResponse
  let receipt := asDict (get raw "raw_receipt")
  let events := asList (firstTruthy [get raw "events", get receipt "events", .list []])
  let activation := activationOf t raw receipt events
  let credit := orIfNone (orIfNone (get raw "credit_out") (get receipt "credit_out"))
    (eventCredit events)
  let usdg := orIfNone (orIfNone (get raw "usdg_spent") (get receipt "usdg_spent"))
    (get raw "amount_wei")
  let silent := match usdg, credit with
    | .none, .none => !truthy activation
    | _, _ => false
  if silent && (result.outcome = outcomeTimeout || result.outcome = outcomeUnknown) then return none
  else
    let chainId ← chainIdOf t (firstTruthy [get raw "chain_id", get receipt "chain_id"])
    let minCreditOut ← minCreditOf t (firstTruthy [get raw "min_credit_out", get receipt "min_credit_out"])
    let usdgSpent ← intOf t (firstTruthy [usdg, .int 0])
    let creditOut ← intOf t (firstTruthy [credit, .int 0])
    return some {
      purchaseIntentHash := strOf t (firstTruthy [get raw "purchase_intent_hash",
        get raw "intent_hash", get receipt "purchase_intent_hash", get receipt "intent_hash", .str ""])
      providerReference := strOf t (firstTruthy [optionalStr result.providerReference,
        get raw "transaction_hash", get raw "reference", get receipt "transaction_hash", .str ""])
      chainId
      network := optionalText t (firstTruthy [get raw "network", get receipt "network"])
      exchangeContract := strOf t (firstTruthy [get raw "exchange_contract", get raw "recipient",
        get receipt "exchange_contract", get receipt "recipient", .str ""])
      usdgSpent
      creditOut
      minCreditOut
      beneficiary := beneficiaryOf t raw receipt events
      activationId := strOf t (firstTruthy [activation, .str ""])
      tenantId := operation.elim (get raw "tenant_id") fun op => .str op.tenantId
      organisationId := operation.elim (get raw "organisation_id") fun op => .str op.organisationId
      events }

/-- The status answer read as if it were an execution result. -/
def extractEvidenceFromStatus (status : ProviderStatusResult)
    (operation : Option ConsequentialOperation) :
    Except PyError (Option OrbioPurchaseEvidence) :=
  extractEvidenceFromExecution t
    { providerName := status.providerName
      operationId := status.operationId
      outcome := status.outcome
      providerReference := status.providerReference
      rawResponse := status.rawStatus
      errorMessage := status.errorMessage
      evidenceHash := status.evidenceHash }
    operation

end Evidence

section Verification
variable (h : Hashing) (t : TextRules)

inductive PurchaseVerificationResult where
  | verified
  | rejected
  | pendingEvidence
  deriving DecidableEq

structure PurchaseVerificationReport where
  result : PurchaseVerificationResult
  codes : List String
  reasons : List String
  intentHash : String
  providerReference : Option String
  evidence : Option OrbioPurchaseEvidence

/-- Verified intents and the references they were verified under. -/
abbrev Verified := List (String × String)

def rejection (intentHash : String) (e : OrbioPurchaseEvidence) (code reason : String) :
    PurchaseVerificationReport :=
  ⟨.rejected, [code], [reason], intentHash, some e.providerReference, some e⟩

/-- A tenant or organisation the evidence names must be the intent's. -/
def names (v : PyValue) (expected : String) : Bool :=
  match v with
  | .none => true
  | .str s => s = expected
  | _ => false

def hasActivatedEvent (events : List PyValue) : Bool :=
  events.any fun
    | .dict e => (match get e "name" with
      | .str s => s = "Activated"
      | _ => false) && truthy (get e "activation_id")
    | _ => false

/-- The checks on present evidence, in order; nothing if all of them pass. -/
def checkEvidence (i : OrbioPurchaseIntent) (e : OrbioPurchaseEvidence)
    (expectedReference : Option String) : Except PyError (Option PurchaseVerificationReport) :=
  let hash := i.computePurchaseIntentHash h
  let fail (code reason : String) : Except PyError (Option PurchaseVerificationReport) :=
    .ok (some (rejection hash e code reason))
  match e.chainId, e.network with
  | .none, _ => fail "MISSING_EVIDENCE" missing
  | _, none => fail "MISSING_EVIDENCE" missing
  | chainId, some network =>
    if e.exchangeContract = "" ∨ network = "" ∨ e.beneficiary = "" ∨ e.providerReference = "" ∨
        e.purchaseIntentHash = "" then fail "MISSING_EVIDENCE" missing
    else if e.purchaseIntentHash ≠ hash then
      fail "WRONG_INTENT_HASH"
        s!"Evidence intent hash {reprStr t e.purchaseIntentHash} != authorized {reprStr t hash}"
    else if names e.tenantId i.tenantId = false then
      fail "CROSS_TENANT"
        s!"Evidence tenant '{strOf t e.tenantId}' != intent tenant '{i.tenantId}'"
    else if names e.organisationId i.organisationId = false then
      fail "CROSS_ORG"
        s!"Evidence org '{strOf t e.organisationId}' != intent org '{i.organisationId}'"
    else if t.lower e.exchangeContract ≠ t.lower i.exchangeContract then
      fail "WRONG_EXCHANGE"
        s!"Evidence exchange '{e.exchangeContract}' != authorized '{i.exchangeContract}'"
    else do
      let chain ← intOf t chainId
      if chain ≠ i.chainId then
        fail "WRONG_CHAIN" s!"Evidence chain_id {strOf t chainId} != authorized {i.chainId}"
      else if t.lower network ≠ t.lower i.network then
        fail "WRONG_NETWORK" s!"Evidence network '{network}' != authorized '{i.network}'"
      else if e.usdgSpent ≠ i.usdgIn then
        fail "WRONG_USDG_AMOUNT"
          s!"Evidence usdg_spent {e.usdgSpent} != authorized usdg_in {i.usdgIn}"
      else if e.creditOut < i.minCreditOut then
        fail "CREDIT_BELOW_MINIMUM"
          s!"Evidence credit_out {e.creditOut} < min_credit_out {i.minCreditOut}"
      else if t.lower e.beneficiary ≠ t.lower i.beneficiaryAsBytes32 ∧
          t.lower e.beneficiary ≠ t.lower i.beneficiary then
        fail "WRONG_BENEFICIARY"
          s!"Evidence beneficiary '{e.beneficiary}' does not match authorized beneficiary"
      else if e.activationId = "" ∧ hasActivatedEvent e.events = false then
        fail "MISSING_ACTIVATION" "Missing activation_id / Activated event in evidence"
      else
        match expectedReference with
        | some expected =>
          if expected ≠ "" ∧ e.providerReference ≠ expected then
            fail "WRONG_PROVIDER_REFERENCE"
              s!"Evidence provider_reference '{e.providerReference}' != expected '{expected}'"
          else .ok none
        | none => .ok none
where
  missing := "Critical receipt evidence missing: exchange_contract, chain_id, network, beneficiary, provider_reference, or purchase_intent_hash"

/-- Evidence that passes every check, against what was verified before. -/
def concludeVerification (verified : Verified) (hash : String) (e : OrbioPurchaseEvidence) :
    PurchaseVerificationReport × Verified :=
  match verified.lookup hash with
  | some prior =>
    if prior = e.providerReference then
      (⟨.verified, ["ALREADY_VERIFIED"],
        ["Evidence previously verified for this intent; no duplicate economic effect"], hash,
        some e.providerReference, some e⟩, verified)
    else (rejection hash e "WRONG_PROVIDER_REFERENCE"
      s!"Intent already verified under different reference '{prior}'", verified)
  | none =>
    (⟨.verified, ["OK"], ["Purchase evidence matches authorized OrbioPurchaseIntent"], hash,
      some e.providerReference, some e⟩, (hash, e.providerReference) :: verified)

def verify (verified : Verified) (i : OrbioPurchaseIntent) (evidence : Option OrbioPurchaseEvidence)
    (providerOutcome expectedReference : Option String) :
    Except PyError (PurchaseVerificationReport × Verified) :=
  let hash := i.computePurchaseIntentHash h
  match evidence with
  | none =>
    if providerOutcome = some outcomeTimeout ∨ providerOutcome = some outcomeUnknown ∨
        providerOutcome = none then
      .ok (⟨.pendingEvidence, ["MISSING_EVIDENCE"],
        ["No final purchase/activation evidence available yet"], hash, none, none⟩, verified)
    else
      .ok (⟨.rejected, ["MISSING_EVIDENCE"],
        ["Provider reported terminal outcome without extractable evidence"], hash, none, none⟩,
        verified)
  | some e =>
    if providerOutcome ≠ none ∧ providerOutcome ≠ some outcomeSuccess then
      if providerOutcome = some outcomeTimeout ∨ providerOutcome = some outcomeUnknown then
        .ok (⟨.pendingEvidence, ["PROVIDER_NOT_SUCCESS"],
          [s!"Provider outcome is {providerOutcome.getD default}; awaiting final evidence"], hash,
          if e.providerReference = "" then none else some e.providerReference, some e⟩, verified)
      else
        .ok (rejection hash e "PROVIDER_NOT_SUCCESS"
          s!"Provider outcome '{providerOutcome.getD default}' is not SUCCESS", verified)
    else do
      let failed ← checkEvidence h t i e expectedReference
      match failed with
      | some report => return (report, verified)
      | none => return concludeVerification verified hash e

def verifyStatus (verified : Verified) (i : OrbioPurchaseIntent) (status : ProviderStatusResult)
    (operation : Option ConsequentialOperation) :
    Except PyError (PurchaseVerificationReport × Verified) := do
  let evidence ← extractEvidenceFromStatus t status operation
  verify h t verified i evidence (some status.outcome) status.providerReference

/-- Every field of the evidence is there and is what the intent authorises. -/
structure Matches (i : OrbioPurchaseIntent) (e : OrbioPurchaseEvidence)
    (expectedReference : Option String) : Prop where
  chain : intOf t e.chainId = .ok i.chainId
  network : ∃ n, e.network = some n ∧ n ≠ "" ∧ t.lower n = t.lower i.network
  exchange : e.exchangeContract ≠ "" ∧ t.lower e.exchangeContract = t.lower i.exchangeContract
  beneficiary : e.beneficiary ≠ "" ∧ (t.lower e.beneficiary = t.lower i.beneficiaryAsBytes32 ∨
    t.lower e.beneficiary = t.lower i.beneficiary)
  reference : e.providerReference ≠ "" ∧
    ∀ r, expectedReference = some r → r = "" ∨ e.providerReference = r
  intentHash : e.purchaseIntentHash ≠ "" ∧ e.purchaseIntentHash = i.computePurchaseIntentHash h
  tenant : names e.tenantId i.tenantId = true
  organisation : names e.organisationId i.organisationId = true
  spent : e.usdgSpent = i.usdgIn
  credit : (i.minCreditOut : Int) ≤ e.creditOut
  activation : e.activationId ≠ "" ∨ hasActivatedEvent e.events = true

/-- Complete evidence on a successful answer, not bound to another reference before. -/
def Evidenced (verified : Verified) (i : OrbioPurchaseIntent) (status : ProviderStatusResult)
    (operation : ConsequentialOperation) : Prop :=
  ∃ e, extractEvidenceFromStatus t status (some operation) = .ok (some e) ∧
    Matches h t i e status.providerReference ∧
    ∀ prior, verified.lookup (i.computePurchaseIntentHash h) = some prior →
      prior = e.providerReference

section Verdicts
variable {h : Hashing} {t : TextRules} {i : OrbioPurchaseIntent} {e : OrbioPurchaseEvidence}

theorem checkEvidence_passes {expectedReference : Option String}
    (m : Matches h t i e expectedReference) :
    checkEvidence h t i e expectedReference = .ok none := by
  obtain ⟨n, network, filled, sameNetwork⟩ := m.network
  have present : ¬(e.exchangeContract = "" ∨ n = "" ∨ e.beneficiary = "" ∨
      e.providerReference = "" ∨ e.purchaseIntentHash = "") := by
    rintro (x | x | x | x | x)
    · exact m.exchange.1 x
    · exact filled x
    · exact m.beneficiary.1 x
    · exact m.reference.1 x
    · exact m.intentHash.1 x
  have beneficiary : ¬(t.lower e.beneficiary ≠ t.lower i.beneficiaryAsBytes32 ∧
      t.lower e.beneficiary ≠ t.lower i.beneficiary) := by
    rintro ⟨x, y⟩
    exact m.beneficiary.2.elim x y
  have activated : ¬(e.activationId = "" ∧ hasActivatedEvent e.events = false) := by
    rintro ⟨x, y⟩
    rcases m.activation with named | event
    · exact named x
    · rw [y] at event
      cases event
  have chain := m.chain
  rw [checkEvidence.eq_def, network]
  split
  · rename_i absent
    rw [absent] at chain
    cases chain
  · rename_i absent _
    cases absent
  · rename_i same _
    obtain rfl := Option.some.inj same
    rw [if_neg present, if_neg (not_not.mpr m.intentHash.2), m.tenant, m.organisation,
      if_neg Bool.noConfusion, if_neg Bool.noConfusion, if_neg (not_not.mpr m.exchange.2), chain]
    show (if i.chainId ≠ i.chainId then _ else _) = _
    rw [if_neg (not_not.mpr rfl), if_neg (not_not.mpr sameNetwork), if_neg (not_not.mpr m.spent),
      if_neg (Int.not_lt.mpr m.credit), if_neg beneficiary, if_neg activated]
    split
    · rename_i expected
      have agrees := m.reference.2 expected rfl
      rw [if_neg]
      rintro ⟨named, other⟩
      exact agrees.elim named other
    · rfl

/-- What the checks report is a rejection; passing them takes the authorised amount and
the credits asked for. -/
theorem checkEvidence_cases {expectedReference : Option String}
    {failed : Option PurchaseVerificationReport}
    (checked : checkEvidence h t i e expectedReference = .ok failed) :
    (∃ report, failed = some report ∧ report.result = .rejected) ∨
      (failed = none ∧ e.usdgSpent = i.usdgIn ∧ (i.minCreditOut : Int) ≤ e.creditOut) := by
  have reported (code reason : String) (same : Except.ok (some (rejection
      (i.computePurchaseIntentHash h) e code reason)) = (Except.ok failed : Except PyError _)) :
      (∃ report, failed = some report ∧ report.result = .rejected) ∨
        (failed = none ∧ e.usdgSpent = i.usdgIn ∧ (i.minCreditOut : Int) ≤ e.creditOut) :=
    .inl ⟨_, (Except.ok.inj same).symm, rfl⟩
  rw [checkEvidence.eq_def] at checked
  split at checked
  · exact reported _ _ checked
  · exact reported _ _ checked
  · -- the checks before the chain id, then those before and after the amount
    iterate 5
      rcases ite_eq_iff.mp checked with ⟨-, rejected⟩ | ⟨-, checked⟩
      exact reported _ _ rejected
    obtain ⟨chain, -, checked⟩ := bind_ok.mp checked
    iterate 2
      rcases ite_eq_iff.mp checked with ⟨-, rejected⟩ | ⟨-, checked⟩
      exact reported _ _ rejected
    rcases ite_eq_iff.mp checked with ⟨-, rejected⟩ | ⟨spent, checked⟩
    · exact reported _ _ rejected
    rcases ite_eq_iff.mp checked with ⟨-, rejected⟩ | ⟨credit, checked⟩
    · exact reported _ _ rejected
    have accepted (passed : failed = none) : (∃ report, failed = some report ∧
        report.result = .rejected) ∨
          (failed = none ∧ e.usdgSpent = i.usdgIn ∧ (i.minCreditOut : Int) ≤ e.creditOut) :=
      .inr ⟨passed, not_not.mp spent, Int.not_lt.mp credit⟩
    iterate 2
      rcases ite_eq_iff.mp checked with ⟨-, rejected⟩ | ⟨-, checked⟩
      exact reported _ _ rejected
    cases expectedReference with
    | none => exact accepted (Except.ok.inj checked).symm
    | some expected =>
      rcases ite_eq_iff.mp checked with ⟨-, rejected⟩ | ⟨-, checked⟩
      · exact reported _ _ rejected
      · exact accepted (Except.ok.inj checked).symm

theorem concludeVerification_evidence {verified : Verified} {hash : String}
    (e : OrbioPurchaseEvidence) :
    (concludeVerification verified hash e).1.evidence = some e := by
  unfold concludeVerification
  split
  · split
    · rfl
    · rfl
  · rfl

theorem verifyStatus_verified {verified : Verified} {status : ProviderStatusResult}
    {op : ConsequentialOperation} (success : status.outcome = outcomeSuccess)
    (evidenced : Evidenced h t verified i status op) :
    ∃ report verified', verifyStatus h t verified i status (some op) = .ok (report, verified') ∧
      report.result = .verified := by
  obtain ⟨e, extracted, m, prior⟩ := evidenced
  have judged : verifyStatus h t verified i status (some op) =
      .ok (concludeVerification verified (i.computePurchaseIntentHash h) e) := by
    rw [verifyStatus, extracted]
    show verify h t verified i (some e) (some status.outcome) status.providerReference = _
    rw [verify, success, checkEvidence_passes m]
    rfl
  rw [judged, concludeVerification]
  split
  · rename_i reference known
    rw [if_pos (prior reference known)]
    exact ⟨_, _, rfl, rfl⟩
  · exact ⟨_, _, rfl, rfl⟩

/-- Only evidence of exactly the authorised amount and of enough credits is verified. -/
theorem verify_spent {verified verified' : Verified} {evidence : Option OrbioPurchaseEvidence}
    {outcome reference : Option String} {report : PurchaseVerificationReport}
    (judged : verify h t verified i evidence outcome reference = .ok (report, verified'))
    (confirmed : report.result = .verified) :
    ∃ e, report.evidence = some e ∧ e.usdgSpent = i.usdgIn ∧ (i.minCreditOut : Int) ≤ e.creditOut := by
  cases evidence with
  | none =>
    rw [verify] at judged
    split at judged
    · obtain ⟨rfl, -⟩ := Prod.mk.inj (Except.ok.inj judged)
      cases confirmed
    · obtain ⟨rfl, -⟩ := Prod.mk.inj (Except.ok.inj judged)
      cases confirmed
  | some e =>
    rw [verify] at judged
    split at judged
    · split at judged
      · obtain ⟨rfl, -⟩ := Prod.mk.inj (Except.ok.inj judged)
        cases confirmed
      · obtain ⟨rfl, -⟩ := Prod.mk.inj (Except.ok.inj judged)
        cases confirmed
    · obtain ⟨failed, checked, judged⟩ := bind_ok.mp judged
      cases failed with
      | some other =>
        obtain ⟨rfl, -⟩ := Prod.mk.inj (Except.ok.inj judged)
        rcases checkEvidence_cases checked with ⟨_, same, rejected⟩ | ⟨none, -⟩
        · rw [← Option.some.inj same, confirmed] at rejected
          cases rejected
        · cases none
      | none =>
        have concluded := congrArg Prod.fst (Except.ok.inj judged)
        rcases checkEvidence_cases checked with ⟨_, some, -⟩ | ⟨-, spent⟩
        · cases some
        · refine ⟨e, ?_, spent⟩
          exact congrArg PurchaseVerificationReport.evidence concluded ▸
            concludeVerification_evidence e

/-- Of the operation the verifier reads the tenant and the organisation only. -/
theorem verifyStatus_sameTerms (verified : Verified) (status : ProviderStatusResult)
    {op op' : ConsequentialOperation} (same : ConsequentialOperation.SameTerms op' op) :
    verifyStatus h t verified i status (some op') = verifyStatus h t verified i status (some op) := by
  simp only [verifyStatus, extractEvidenceFromStatus, extractEvidenceFromExecution, Option.elim,
    same.tenantId, same.organisationId]

end Verdicts

end Verification

end PurchaseVerifier
