import KalyxMao.Consequential
import KalyxMao.PolicyEngine

/-!
# Approval by policy and admission by the executors

Policy rules, human gate and executors check a proposal with separate code. The
executors take active agents only, where the rules also pass agents on probation
and restricted ones; and they read every token as one of the policy engine, which
the tokens of the human gate are not.
-/

namespace ExecutionAdmission
open PythonText PythonValues CanonicalText Domain TokenBinding PolicyRules PolicyEngine
open Consequential (showOption)

section Components
variable (r : TokenRules)

/-- The proposals escalated to an operator, under their ids. -/
structure HumanGate where
  pending : List (String × ActionProposal)

def HumanGate.submitForHumanReview (gate : HumanGate) (p : ActionProposal) : HumanGate :=
  ⟨(p.id, p) :: gate.pending.filter fun entry => entry.1 ≠ p.id⟩

def humanToken (proposalId operatorId : String) : String :=
  let start := String.ofList (proposalId.toList.take 8)
  let digest := r.short s!"HUMAN-AUTH|{proposalId}|{operatorId}"
  s!"HUMAN-AUTH-{start}-{digest}"

def operatorApproval (proposalId operatorId uuid : String) : EngineDecision where
  id := uuid
  proposalId := proposalId
  result := .approved
  violatedRuleId := none
  violatedRuleDescription := some s!"Approved by operator {operatorId}"
  evaluatedRules := ["RULE-05-HUMAN-OVERRIDE"]
  authorizationToken := some (humanToken r proposalId operatorId)

def HumanGate.approveEscalation (gate : HumanGate) (proposalId operatorId uuid : String) :
    Except PyError (EngineDecision × HumanGate) :=
  match gate.pending.lookup proposalId with
  | none => .error ⟨.otherException, s!"No pending escalation found for proposal {proposalId}"⟩
  | some _ => .ok (operatorApproval r proposalId operatorId uuid,
      ⟨gate.pending.filter fun entry => entry.1 ≠ proposalId⟩)

/-- The process-local part of a `BaseExecutor`. -/
structure Executor where
  engine : Engine
  consumedTokens : List String

def verifyPreconditions (x : Executor) (p : ActionProposal) (decision : PolicyDecision)
    (org : PolicyOrganisation) (now : PyFloat) : Except PyError String :=
  let token := orElse decision.authorizationToken ""
  if decision.result ≠ .approved then .error ⟨.policyViolationError,
    s!"Execution rejected: Decision is '{decision.result.value}' (Rule: {showOption decision.violatedRuleId})"⟩
  else if token = "" then
    .error ⟨.unauthorizedActionError, "Execution rejected: Missing authorization token"⟩
  else if token ∈ x.consumedTokens then .error ⟨.unauthorizedActionError,
    "Execution rejected: Token has already been consumed (replay attack detected)"⟩
  else
    match verifyToken r x.engine.signingSecret (getPolicyVersionHash r x.engine) token p org.toToken
        (some decision) now with
    | .error err => .error err
    | .ok (false, reason) =>
      .error ⟨.unauthorizedActionError, s!"Execution rejected: {showOption reason}"⟩
    | .ok (true, _) => do
      enforceAgentCapability p org.toOrganisation
      return token

def Admitted (x : Executor) (p : ActionProposal) (decision : PolicyDecision)
    (org : PolicyOrganisation) (now : PyFloat) : Prop :=
  ∃ token, verifyPreconditions r x p decision org now = .ok token

variable {r}

theorem enforceAgentCapability_ok {p : ActionProposal} {org : PolicyOrganisation} :
    enforceAgentCapability p org.toOrganisation = .ok () ↔
      ∃ agent, org.agents.lookup p.proposingAgentId = some agent ∧ agent.status = .active ∧
        p.actionType ∈ agent.allowedActionTypes ∧ (p.requestedCredits : Int) ≤ agent.authorityCeiling := by
  rw [enforceAgentCapability, lookup_toOrganisation]
  cases org.agents.lookup p.proposingAgentId with
  | none => simp
  | some agent =>
    have known : (∃ a, some agent = some a ∧ a.status = .active ∧
        p.actionType ∈ a.allowedActionTypes ∧ (p.requestedCredits : Int) ≤ a.authorityCeiling) ↔
        agent.status = .active ∧ p.actionType ∈ agent.allowedActionTypes ∧
          (p.requestedCredits : Int) ≤ agent.authorityCeiling := by
      simp
    rw [known, Option.map_some]
    dsimp only
    by_cases status : agent.status = .active
    · by_cases action : p.actionType ∈ agent.allowedActionTypes
      · by_cases ceiling : agent.authorityCeiling < p.requestedCredits
        · simp [status, action, ceiling]
        · simp [status, action, ceiling, not_lt.mp ceiling]
      · simp [status, action]
    · simp [status]

/-- All that an executor looks at before it takes the token. -/
theorem admitted_iff {x : Executor} {p : ActionProposal} {decision : PolicyDecision}
    {org : PolicyOrganisation} {now : PyFloat} :
    Admitted r x p decision org now ↔
      decision.result = .approved ∧ orElse decision.authorizationToken "" ≠ "" ∧
        orElse decision.authorizationToken "" ∉ x.consumedTokens ∧
        Accepts (verifyToken r x.engine.signingSecret (getPolicyVersionHash r x.engine)
          (orElse decision.authorizationToken "") p org.toToken (some decision) now) ∧
        enforceAgentCapability p org.toOrganisation = .ok () := by
  rw [Admitted, verifyPreconditions]
  split_ifs with result empty consumed
  · simp [result]
  · simp [empty]
  · simp [consumed]
  · rw [not_not] at result
    cases verdict : verifyToken r x.engine.signingSecret (getPolicyVersionHash r x.engine)
        (orElse decision.authorizationToken "") p org.toToken (some decision) now with
    | error err => simp [Accepts]
    | ok answer =>
      obtain ⟨accepted, reason⟩ := answer
      cases accepted with
      | false => simp [Accepts]
      | true =>
        cases enforced : enforceAgentCapability p org.toOrganisation with
        | error err =>
          refine iff_of_false ?_ fun all => ?_
          · rintro ⟨token, same⟩
            cases same
          · cases all.2.2.2.2
        | ok u => exact iff_of_true ⟨_, rfl⟩ ⟨result, empty, consumed, ⟨reason, rfl⟩, rfl⟩

end Components

section Gate
variable {r : TokenRules}

theorem humanToken_toList (proposalId operatorId : String) :
    ∃ rest, (humanToken r proposalId operatorId).toList = 'H' :: rest := by
  have start : "HUMAN-AUTH-".toList = 'H' :: "UMAN-AUTH-".toList := rfl
  have named : (String.ofList (proposalId.toList.take 8)).toList = proposalId.toList.take 8 :=
    String.toList_ofList
  refine ⟨"UMAN-AUTH-".toList ++ (proposalId.toList.take 8 ++ ("-".toList ++
    (r.short ("HUMAN-AUTH|" ++ proposalId ++ "|" ++ operatorId)).toList)), ?_⟩
  show ("HUMAN-AUTH-" ++ String.ofList (proposalId.toList.take 8) ++ "-" ++
    r.short ("HUMAN-AUTH|" ++ proposalId ++ "|" ++ operatorId)).toList = _
  rw [String.toList_append, String.toList_append, String.toList_append, named, start,
    List.cons_append, List.cons_append, List.cons_append, List.append_assoc, List.append_assoc]

theorem humanToken_ne_empty (proposalId operatorId : String) :
    humanToken r proposalId operatorId ≠ "" := by
  obtain ⟨rest, chars⟩ := humanToken_toList (r := r) proposalId operatorId
  intro empty
  rw [empty] at chars
  cases chars

/-- No engine accepts a token of the human gate. -/
theorem humanToken_refused (secret version proposalId operatorId : String) (p : ActionProposal)
    (org : TokenOrganisation) (decision : Option PolicyDecision) (now : PyFloat) :
    ¬Accepts (verifyToken r secret version (humanToken r proposalId operatorId) p org decision
      now) := by
  obtain ⟨rest, chars⟩ := humanToken_toList (r := r) proposalId operatorId
  have split : ∃ first others, splitText (humanToken r proposalId operatorId) '.' =
      String.ofList ('H' :: first) :: others := by
    rw [splitText, chars, List.splitOn_cons_eq_if_modifyHead, if_neg (by decide)]
    obtain ⟨first, others, pieces⟩ := List.exists_cons_of_ne_nil (List.splitOn_ne_nil '.' rest)
    exact ⟨first, others.map String.ofList, by rw [pieces]; rfl⟩
  obtain ⟨first, others, pieces⟩ := split
  have start : startsWith (String.ofList ('H' :: first)) "AUTH-" = false := by
    have chars' : (String.ofList ('H' :: first)).toList = 'H' :: first := String.toList_ofList
    rw [startsWith, chars']
    rfl
  rw [verifyToken, pieces]
  split_ifs
  · rw [accepts_ok]
    exact Bool.false_ne_true
  · rw [accepts_ok]
    exact Bool.false_ne_true
  · rcases others with _ | ⟨second, _ | ⟨third, _ | ⟨fourth, others⟩⟩⟩
    · exact fun accepted => absurd ((accepts_ok _).mp accepted) Bool.false_ne_true
    · exact fun accepted => absurd ((accepts_ok _).mp accepted) Bool.false_ne_true
    · dsimp only
      rw [start, if_neg Bool.false_ne_true, accepts_ok]
      exact Bool.false_ne_true
    · exact fun accepted => absurd ((accepts_ok _).mp accepted) Bool.false_ne_true

/-- What is submitted can be approved. -/
theorem approveEscalation_submitted (gate : HumanGate) (p : ActionProposal)
    (operatorId uuid : String) : ∃ gate',
      (gate.submitForHumanReview p).approveEscalation r p.id operatorId uuid =
        .ok (operatorApproval r p.id operatorId uuid, gate') := by
  have found : (gate.submitForHumanReview p).pending.lookup p.id = some p := by
    show ((p.id, p) :: _).lookup p.id = some p
    rw [List.lookup_cons, beq_self_eq_true]
  rw [HumanGate.approveEscalation, found]
  exact ⟨_, rfl⟩

/-- Executors admit nothing on the approval of the human gate. -/
theorem human_approval_refused {gate gate' : HumanGate} {proposalId operatorId uuid : String}
    {decision : EngineDecision}
    (approved : gate.approveEscalation r proposalId operatorId uuid = .ok (decision, gate'))
    (x : Executor) (p : ActionProposal) (org : PolicyOrganisation) (now : PyFloat) :
    ¬Admitted r x p decision.toPolicyDecision org now := by
  have token : decision.authorizationToken = some (humanToken r proposalId operatorId) := by
    rw [HumanGate.approveEscalation] at approved
    split at approved
    · cases approved
    · obtain ⟨rfl, _⟩ := Prod.mk.inj (Except.ok.inj approved)
      rfl
  intro admitted
  obtain ⟨_, _, _, accepted, _⟩ := admitted_iff.mp admitted
  rw [token, orElse_some (humanToken_ne_empty proposalId operatorId)] at accepted
  exact humanToken_refused _ _ _ _ _ _ _ _ accepted

end Gate

section Agreement
variable (r : TokenRules)

/-- Policy and executor at one state: what the policy or an operator approves is admitted, and
nothing is admitted whose agent or action the policy rules reject. -/
structure Agreement (x : Executor) (p : ActionProposal) (org : PolicyOrganisation)
    (ledger : Option Int) (d : Draw) (now : PyFloat) : Prop where
  approved : ∀ decision, evaluate r x.engine p org ledger d = .ok decision →
    decision.result = .approved → Admitted r x p decision.toPolicyDecision org now
  escalated : ∀ decision, evaluate r x.engine p org ledger d = .ok decision →
    decision.result = .escalateToHuman → ∀ (gate gate' : HumanGate) operatorId uuid approval,
      (gate.submitForHumanReview p).approveEscalation r p.id operatorId uuid =
        .ok (approval, gate') → Admitted r x p approval.toPolicyDecision org now
  admitted : ∀ decision, Admitted r x p decision org now →
    ∃ agent, org.agents.lookup p.proposingAgentId = some agent ∧
      Passes p agent org ledger (ruleIds x.engine) agentStatusRule ∧
      Passes p agent org ledger (ruleIds x.engine) rolePermissionRule

/-- A proposal the rules let through is below the threshold, of an active agent, named without a
dot and executed in time. -/
def Admissible (x : Executor) (p : ActionProposal) (org : PolicyOrganisation)
    (ledger : Option Int) (d : Draw) (now : PyFloat) : Prop :=
  ∀ agent, org.agents.lookup p.proposingAgentId = some agent →
    (∀ rule ∈ x.engine.rules, Passes p agent org ledger (ruleIds x.engine) rule) →
      (p.requestedCredits : Int) < x.engine.humanApprovalThreshold ∧ agent.status = .active ∧
        '.' ∉ p.id.toList.take 8 ∧
        (r.round3 (r.add d.now x.engine.tokenTtlSeconds)).lt now = false

variable {r} {x : Executor} {p : ActionProposal} {org : PolicyOrganisation} {ledger : Option Int}
  {d : Draw} {now : PyFloat}

theorem decided_of_evaluate {e : Engine} {decision : EngineDecision}
    (returned : evaluate r e p org ledger d = .ok decision) :
    decided r e p org ledger d = .ok decision.result := by
  rw [decided, returned]
  rfl

theorem evaluate_of_decided {e : Engine} {result : PolicyResult}
    (decides : decided r e p org ledger d = .ok result) :
    ∃ decision, evaluate r e p org ledger d = .ok decision ∧ decision.result = result := by
  rw [decided] at decides
  cases returned : evaluate r e p org ledger d with
  | error err =>
    rw [returned] at decides
    cases decides
  | ok decision =>
    rw [returned] at decides
    exact ⟨decision, rfl, Except.ok.inj decides⟩

/-- A proposal that is not rejected has passed every rule. -/
theorem passed_of_result {e : Engine} {result : PolicyResult} (unrejected : result ≠ .rejected)
    (decides : decided r e p org ledger d = .ok result) :
    ∃ agent, org.agents.lookup p.proposingAgentId = some agent ∧
      (∀ rule ∈ e.rules, Passes p agent org ledger (ruleIds e) rule) ∧ resultOf e p false = result := by
  cases found : org.agents.lookup p.proposingAgentId with
  | none =>
    rw [decided_none r e ledger d found] at decides
    exact absurd (Except.ok.inj decides).symm unrejected
  | some agent =>
    rw [decided_some r e ledger d found] at decides
    cases asked : objects p agent org ledger (ruleIds e) e.rules with
    | error err =>
      rw [asked] at decides
      cases decides
    | ok objection =>
      rw [asked] at decides
      have results : resultOf e p objection = result := Except.ok.inj decides
      cases objection with
      | true => exact absurd results.symm unrejected
      | false => exact ⟨agent, rfl, (objects_false ..).mp asked, results⟩

theorem decided_of_passed {e : Engine} {agent : PolicyAgent}
    (found : org.agents.lookup p.proposingAgentId = some agent)
    (passed : ∀ rule ∈ e.rules, Passes p agent org ledger (ruleIds e) rule) :
    decided r e p org ledger d = .ok (resultOf e p false) := by
  rw [decided_some r e ledger d found, (objects_false ..).mpr passed]
  rfl

/-- A rule that answers without looking at the keyword arguments is asked once. -/
theorem passes_of_answer {agent : PolicyAgent} {ids : List String} {rule : PolicyRule}
    {verdict : Option String}
    (answer : rule.evaluate p agent org ⟨ledger, some ids⟩ = .ok verdict) :
    Passes p agent org ledger ids rule ↔ verdict.getD "" = "" := by
  rw [Passes, ask, answer]
  simp

theorem orgPause_passes {agent : PolicyAgent} {ids : List String}
    (passes : Passes p agent org ledger ids orgPauseRule) : org.state ≠ .paused := by
  intro paused
  have answer : orgPauseRule.evaluate p agent org ⟨ledger, some ids⟩ =
      .ok (some "Organisation is PAUSED by emergency kill switch") := if_pos paused
  have empty := (passes_of_answer answer).mp passes
  exact absurd empty (by decide)

theorem spendLimit_passes {agent : PolicyAgent} {ids : List String}
    (passes : Passes p agent org ledger ids spendLimitRule) :
    (p.requestedCredits : Int) ≤ agent.authorityCeiling := by
  by_contra above
  have answer : spendLimitRule.evaluate p agent org ⟨ledger, some ids⟩ = .ok (some
      s!"Requested {p.requestedCredits} credits exceeds authority ceiling of {agent.authorityCeiling}") :=
    if_pos (not_le.mp above)
  have empty := (passes_of_answer answer).mp passes
  simp at empty

theorem rolePermission_passes {agent : PolicyAgent} {ids : List String} :
    Passes p agent org ledger ids rolePermissionRule ↔ p.actionType ∈ agent.allowedActionTypes := by
  constructor
  · intro passes
    by_contra unlisted
    have answer : rolePermissionRule.evaluate p agent org ⟨ledger, some ids⟩ = .ok (some
        s!"Action type '{p.actionType.value}' is not permitted for role '{agent.role.value}'") :=
      if_pos unlisted
    have empty := (passes_of_answer answer).mp passes
    rw [Option.getD_some, String.append_eq_empty_iff] at empty
    exact absurd empty.2 (by decide)
  · intro listed
    have answer : rolePermissionRule.evaluate p agent org ⟨ledger, some ids⟩ = .ok none :=
      if_neg (not_not.mpr listed)
    exact (passes_of_answer answer).mpr rfl

theorem agentStatus_passes {agent : PolicyAgent} {ids : List String}
    (active : agent.status = .active) : Passes p agent org ledger ids agentStatusRule := by
  have answer : agentStatusRule.evaluate p agent org ⟨ledger, some ids⟩ = .ok none := by
    show (if _ then _ else if _ then _ else _) = _
    rw [if_neg, if_neg]
    · simp [active]
    · simp [active]
  exact (passes_of_answer answer).mpr rfl

/-- A fresh token of the engine opens for its own proposal until it expires. -/
theorem approval_accepts {e : Engine} (mac : ∀ k s, ∀ c ∈ (r.hmac k s).toList, IsHexDigit c)
    (reads : ReadsBack r (approvalClaims r e p org d)) {decision : PolicyDecision}
    (named : decision.id = d.uuid) :
    Accepts (verifyToken r e.signingSecret (getPolicyVersionHash r e) (approvalToken r e p org d) p
        org.toToken (some decision) now) ↔
      '.' ∉ p.id.toList.take 8 ∧ org.state ≠ .paused ∧
        (r.round3 (r.add d.now e.tokenTtlSeconds)).lt now = false := by
  have decides : (approvalClaims r e p org d).decisionId = d.uuid := by
    show orElse (some d.uuid) d.uuid = d.uuid
    by_cases empty : d.uuid = ""
    · rw [empty]
      rfl
    · exact orElse_some empty _
  refine (verifyToken_iff reads mac ..).trans ⟨?_, ?_⟩
  · rintro ⟨undotted, running, _, fit, _⟩
    exact ⟨undotted, running, fit.1⟩
  · rintro ⟨undotted, running, unexpired⟩
    refine ⟨undotted, running, rfl, ⟨unexpired, rfl, rfl, rfl, ?_⟩, rfl⟩
    rintro _ ⟨⟩
    exact decides.trans named.symm

/-- Policy, human gate and executor agree at exactly the admissible states. -/
theorem approvals_admitted (t : RuleText)
    (mac : ∀ k s, ∀ c ∈ (r.hmac k s).toList, IsHexDigit c) (x : Executor)
    (defaults : x.engine.rules = defaultRules t) (p : ActionProposal) (org : PolicyOrganisation)
    (ledger : Option Int) (d : Draw) (now : PyFloat)
    (reads : ReadsBack r (approvalClaims r x.engine p org d))
    (fresh : approvalToken r x.engine p org d ∉ x.consumedTokens) :
    Agreement r x p org ledger d now ↔ Admissible r x p org ledger d now := by
  have filled : approvalToken r x.engine p org d ≠ "" := tokenOf_ne_empty _ _ _
  have token : orElse (some (approvalToken r x.engine p org d)) "" =
      approvalToken r x.engine p org d := orElse_some filled _
  constructor
  · intro agreement agent found passed
    have decides := decided_of_passed (r := r) (d := d) found passed
    obtain ⟨decision, returned, result⟩ := evaluate_of_decided decides
    obtain ⟨named, carried, _⟩ := evaluate_token r x.engine returned
    by_cases high : x.engine.humanApprovalThreshold ≤ p.requestedCredits
    · have escalates : decision.result = .escalateToHuman := by
        rw [result, resultOf, if_neg Bool.false_ne_true, if_pos high]
      obtain ⟨gate', approval⟩ := approveEscalation_submitted (r := r) ⟨[]⟩ p "OPERATOR" ""
      exact absurd (agreement.escalated decision returned escalates _ _ _ _ _ approval)
        (human_approval_refused approval x p org now)
    · have approves : decision.result = .approved := by
        rw [result, resultOf, if_neg Bool.false_ne_true, if_neg high]
      have admitted := agreement.approved decision returned approves
      obtain ⟨_, _, _, accepted, enforced⟩ := admitted_iff.mp admitted
      rw [carried approves, token] at accepted
      obtain ⟨undotted, _, unexpired⟩ := (approval_accepts mac reads named).mp accepted
      obtain ⟨agent', found', active, _⟩ := enforceAgentCapability_ok.mp enforced
      obtain rfl := Option.some.inj (found.symm.trans found')
      exact ⟨not_le.mp high, active, undotted, unexpired⟩
  · intro admissible
    refine ⟨?_, ?_, ?_⟩
    · intro decision returned approves
      have decides := decided_of_evaluate returned
      rw [approves] at decides
      obtain ⟨agent, found, passed, _⟩ := passed_of_result (by decide) decides
      obtain ⟨_, active, undotted, unexpired⟩ := admissible agent found passed
      obtain ⟨named, carried, _⟩ := evaluate_token r x.engine returned
      rw [defaults] at passed
      refine admitted_iff.mpr ⟨approves, ?_, ?_, ?_, enforceAgentCapability_ok.mpr
        ⟨agent, found, active, ?_, ?_⟩⟩
      · rw [carried approves, token]
        exact filled
      · rw [carried approves, token]
        exact fresh
      · rw [carried approves, token]
        exact (approval_accepts mac reads named).mpr
          ⟨undotted, orgPause_passes (passed _ (by simp [defaultRules])), unexpired⟩
      · exact rolePermission_passes.mp (passed _ (by simp [defaultRules]))
      · exact spendLimit_passes (passed _ (by simp [defaultRules]))
    · intro decision returned escalates
      have decides := decided_of_evaluate returned
      rw [escalates] at decides
      obtain ⟨agent, found, passed, result⟩ := passed_of_result (by decide) decides
      obtain ⟨low, _⟩ := admissible agent found passed
      rw [resultOf, if_neg Bool.false_ne_true, if_neg (not_le.mpr low)] at result
      cases result
    · intro decision admitted
      obtain ⟨_, _, _, _, enforced⟩ := admitted_iff.mp admitted
      obtain ⟨agent, found, active, listed, _⟩ := enforceAgentCapability_ok.mp enforced
      exact ⟨agent, found, agentStatus_passes active, rolePermission_passes.mpr listed⟩

end Agreement

section Samples

def sampleExecutor : Executor where
  engine := ⟨defaultRules plainText, 40, .finite 60, "s"⟩
  consumedTokens := []

def sampleDraw : Draw := ⟨.finite 0, "d", "n"⟩

/-- The hashes of the engine's version and of the proposal of twenty credits. -/
def hashRules : TokenRules :=
  { sampleRules "" zeros "" zeros with
    sha256 := fun s =>
      if s = "\x7b\x7d" then emptyHash
      else if s = canonicalJson printFloat (.dict (policyMeta sampleExecutor.engine)) then
        "4a268de01d2521b551170c9779c8e4fa05ebecb47501bc0c32f38e5997a0bf39"
      else if s = "p|t|a|INTERNAL_ANALYSIS|internal://research_synthesis|20|44136fa355b3678a1146ad16f7e8649e94fb4fc21fe77e8310c060f61caaff8a" then
        "0ad0290bbfd3cebe26de66d35d9cb6b51225436afc8329b573c7511b1f80c91f"
      else zeros }

/-- The functions of one token: what base64, JSON and HMAC under the secret `s` give for it. -/
def tokenRules (hashes : TokenRules) (text b64 signature : String) (claims : PyValue) : TokenRules :=
  { hashes with
    hmac := fun k s => if k = "s" ∧ s = b64 then signature else zeros
    b64encode := fun s => if s = text then b64 else ""
    b64decode := fun s =>
      if s = b64 then .ok text else .error ⟨.valueError, "Incorrect padding"⟩
    loads := fun s =>
      if s = text then .ok (sortKeys claims) else .error ⟨.valueError, "Expecting value"⟩ }

theorem tokenRules_reads {hashes : TokenRules} {b64 signature : String}
    {c : AuthorizationTokenClaims} (floats : ∀ f, hashes.floatOf (.float f) = some f)
    (alphabet : '.' ∉ b64.toList) :
    ReadsBack (tokenRules hashes (canonicalJson hashes.reprFloat (claimsDict hashes c)) b64 signature
      (claimsDict hashes c)) c := by
  have encoded : toB64 (tokenRules hashes (canonicalJson hashes.reprFloat (claimsDict hashes c)) b64
      signature (claimsDict hashes c)) c = b64 := if_pos rfl
  refine ⟨?_, if_pos rfl, floats, ?_⟩
  · rw [encoded]
    exact if_pos rfl
  · rwa [encoded]

theorem tokenRules_claims (hashes : TokenRules) (text b64 signature : String) (claims : PyValue)
    (e : Engine) (p : ActionProposal) (org : PolicyOrganisation) (d : Draw) :
    approvalClaims (tokenRules hashes text b64 signature claims) e p org d =
      approvalClaims hashes e p org d := rfl

theorem tokenRules_mac (hashes : TokenRules) (text b64 : String) (claims : PyValue)
    {signature : String} (mac : ∀ c ∈ signature.toList, IsHexDigit c) (k s : String) :
    ∀ c ∈ ((tokenRules hashes text b64 signature claims).hmac k s).toList, IsHexDigit c := by
  show ∀ c ∈ (if k = "s" ∧ s = b64 then signature else zeros).toList, IsHexDigit c
  split_ifs
  · exact mac
  · decide

def approvedClaims : AuthorizationTokenClaims :=
  approvalClaims hashRules sampleExecutor.engine twentyCredits sampleOrganisation sampleDraw

/-- The claims in base64. -/
def approvedB64 : String :=
  "eyJkZWNpc2lvbl9pZCI6ImQiLCJleHBpcmVzX2F0Ijo2MC4wLCJpc3N1ZWRfYXQiOjAuMCwibm" ++
    "9uY2UiOiJuIiwib3JnX2lkIjoibyIsInBvbGljeV92ZXJzaW9uX2hhc2giOiI0YTI2OGRlMDFk" ++
    "MjUyMWI1NTExNzBjOTc3OWM4ZTRmYTA1ZWJlY2I0NzUwMWJjMGMzMmYzOGU1OTk3YTBiZjM5Ii" ++
    "wicHJvcG9zYWxfY29udGVudF9oYXNoIjoiMGFkMDI5MGJiZmQzY2ViZTI2ZGU2NmQzNWQ5Y2I2" ++
    "YjUxMjI1NDM2YWZjODMyOWI1NzNjNzUxMWIxZjgwYzkxZiIsInByb3Bvc2FsX2lkIjoicCJ9"

theorem approved_alphabet : '.' ∉ approvedB64.toList := by
  refine dot_append (dot_append (dot_append (dot_append ?_ ?_) ?_) ?_) ?_
  all_goals decide +kernel

def approvalRules : TokenRules :=
  tokenRules hashRules (canonicalJson hashRules.reprFloat (claimsDict hashRules approvedClaims))
    approvedB64 "dac966f2e58afbbcc26ee192aeb29bf464f1d8f281a9ca4c80d759e5bd3e6950"
    (claimsDict hashRules approvedClaims)

theorem approved_reads : ReadsBack approvalRules
    (approvalClaims approvalRules sampleExecutor.engine twentyCredits sampleOrganisation
      sampleDraw) := by
  rw [approvalRules, tokenRules_claims]
  apply tokenRules_reads
  · intro f
    rfl
  · exact approved_alphabet

/-- An active agent below the threshold. -/
theorem twenty_credits_agree : Agreement approvalRules sampleExecutor twentyCredits
    sampleOrganisation none sampleDraw (.finite 5) := by
  refine (approvals_admitted plainText
    (tokenRules_mac _ _ _ _ (by decide +kernel)) sampleExecutor rfl twentyCredits sampleOrganisation
    none sampleDraw (.finite 5) approved_reads (by simp [sampleExecutor])).mpr ?_
  intro agent found _
  obtain rfl : sampleAgent = agent := Option.some.inj found
  exact ⟨by decide, rfl, by decide, by decide +kernel⟩

/-- The organisation with its agent on probation. -/
def probationOrganisation : PolicyOrganisation :=
  { sampleOrganisation with agents := [("a", { sampleAgent with status := .probation })] }

/-- The organisation with an agent that may ask for a hundred credits. -/
def spendingOrganisation : PolicyOrganisation :=
  { sampleOrganisation with agents := [("a", { sampleAgent with authorityCeiling := 100 })] }

def fortyCredits : ActionProposal := { twentyCredits with requestedCredits := 40 }

/-- The policy approves an agent on probation, and an operator an escalated proposal; the executor
refuses both. -/
theorem approvals_disagree (r : TokenRules) :
    ¬Agreement r sampleExecutor twentyCredits probationOrganisation none sampleDraw (.finite 5) ∧
      ¬Agreement r sampleExecutor fortyCredits spendingOrganisation none sampleDraw (.finite 5) := by
  constructor
  · intro agreement
    have asked : objects twentyCredits { sampleAgent with status := .probation } probationOrganisation
        none (ruleIds sampleExecutor.engine) sampleExecutor.engine.rules = .ok false := by
      decide +kernel
    have decides : decided r sampleExecutor.engine twentyCredits probationOrganisation none
        sampleDraw = _ := decided_of_passed rfl ((objects_false ..).mp asked)
    obtain ⟨decision, returned, result⟩ := evaluate_of_decided decides
    have admitted := agreement.approved decision returned result
    obtain ⟨_, _, _, _, enforced⟩ := admitted_iff.mp admitted
    obtain ⟨agent, found, active, _⟩ := enforceAgentCapability_ok.mp enforced
    rw [← Option.some.inj found] at active
    cases active
  · intro agreement
    have asked : objects fortyCredits { sampleAgent with authorityCeiling := 100 }
        spendingOrganisation none (ruleIds sampleExecutor.engine) sampleExecutor.engine.rules =
          .ok false := by
      decide +kernel
    have decides : decided r sampleExecutor.engine fortyCredits spendingOrganisation none
        sampleDraw = _ := decided_of_passed rfl ((objects_false ..).mp asked)
    obtain ⟨decision, returned, result⟩ := evaluate_of_decided decides
    obtain ⟨gate', approval⟩ := approveEscalation_submitted (r := r) ⟨[]⟩ fortyCredits "OPERATOR" "u"
    exact human_approval_refused approval _ _ _ _
      (agreement.escalated decision returned result _ _ _ _ _ approval)

theorem approvals_refused :
    ¬Agreement approvalRules sampleExecutor twentyCredits probationOrganisation none sampleDraw
        (.finite 5) ∧
      ¬Agreement approvalRules sampleExecutor fortyCredits spendingOrganisation none sampleDraw
        (.finite 5) := approvals_disagree approvalRules

end Samples

end ExecutionAdmission
