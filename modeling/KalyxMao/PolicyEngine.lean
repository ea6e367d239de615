import KalyxMao.PolicyRules

/-!
# The policy engine and what its version hash covers

The engine asks its rules in order and stops at the first objection. Approved
proposals get a token that names the hash of the policy version; the hash is
taken of the rules' ids and descriptions and of the threshold for human approval,
and of nothing the rules are configured with.
-/

namespace PolicyEngine
open PythonText PythonValues CanonicalText Domain TokenBinding PolicyRules

structure Engine where
  rules : List PolicyRule
  humanApprovalThreshold : Int
  tokenTtlSeconds : PyFloat
  signingSecret : String

structure EngineDecision extends PolicyDecision where
  proposalId : String
  violatedRuleDescription : Option String
  evaluatedRules : List String

/-- What one call of `evaluate` draws from the clock and the generators. -/
structure Draw where
  now : PyFloat
  uuid : String
  nonce : String

section Asking
variable (p : ActionProposal) (agent : PolicyAgent) (org : PolicyOrganisation)
  (ledger : Option Int) (ids : List String)

/-- A rule that raises a `TypeError` is asked again with fewer keyword arguments. -/
def ask (rule : PolicyRule) : Verdict :=
  match rule.evaluate p agent org ⟨ledger, some ids⟩ with
  | .ok verdict => .ok verdict
  | .error e =>
    if e.kind ≠ .typeError then .error e
    else
      match rule.evaluate p agent org ⟨ledger, none⟩ with
      | .ok verdict => .ok verdict
      | .error e =>
        if e.kind ≠ .typeError then .error e
        else rule.evaluate p agent org ⟨none, none⟩

/-- The loop over the rules, with the ids asked so far. An empty reason is no objection. -/
def askEach (evaluated : List String) :
    List PolicyRule → Except PyError (List String × Option (String × String))
  | [] => .ok (evaluated, none)
  | rule :: rest =>
    match ask p agent org ledger ids rule with
    | .error e => .error e
    | .ok verdict =>
      let violation := verdict.getD ""
      if violation ≠ "" then .ok (evaluated ++ [rule.ruleId], some (rule.ruleId, violation))
      else askEach (evaluated ++ [rule.ruleId]) rest

/-- A rule lets the proposal through. -/
def Passes (rule : PolicyRule) : Prop :=
  ∃ verdict, ask p agent org ledger ids rule = .ok verdict ∧ verdict.getD "" = ""

/-- Whether some rule objects, or the error of the first that raises before. -/
def objects : List PolicyRule → Except PyError Bool
  | [] => .ok false
  | rule :: rest =>
    match ask p agent org ledger ids rule with
    | .error e => .error e
    | .ok verdict => if verdict.getD "" ≠ "" then .ok true else objects rest

theorem askEach_objects (evaluated : List String) (rules : List PolicyRule) :
    (askEach p agent org ledger ids evaluated rules).map (fun found => found.2.isSome) =
      objects p agent org ledger ids rules := by
  induction rules generalizing evaluated with
  | nil => rfl
  | cons rule rest ih =>
    rw [askEach, objects]
    cases ask p agent org ledger ids rule with
    | error e => rfl
    | ok verdict =>
      dsimp only
      split_ifs with objection
      · rfl
      · exact ih _

theorem objects_false (rules : List PolicyRule) :
    objects p agent org ledger ids rules = .ok false ↔
      ∀ rule ∈ rules, Passes p agent org ledger ids rule := by
  induction rules with
  | nil => simp [objects]
  | cons rule rest ih =>
    rw [List.forall_mem_cons, ← ih, objects]
    cases asked : ask p agent org ledger ids rule with
    | error e => simp [Passes, asked]
    | ok verdict =>
      have passes : Passes p agent org ledger ids rule ↔ verdict.getD "" = "" := by
        rw [Passes, asked]
        simp
      dsimp only
      rw [passes]
      split_ifs with objection
      · simp [objection]
      · simp [not_not.mp objection]

end Asking

section Evaluation
variable (r : TokenRules) (e : Engine)

/-- What the version hash is taken of; the rules are listed by their ids. -/
def policyMeta : List (String × PyValue) :=
  let listed := e.rules.mergeSort fun a b => a.ruleId ≤ b.ruleId
  [("rules", .list (listed.map fun rule =>
      .dict [("rule_id", .str rule.ruleId), ("description", .str rule.description)])),
    ("human_approval_threshold", .int e.humanApprovalThreshold)]

def policyMetaText : String := canonicalJson r.reprFloat (.dict (policyMeta e))

def getPolicyVersionHash : String := r.sha256 (policyMetaText r e)

def ruleIds : List String := e.rules.map PolicyRule.ruleId

def Draw.issue (d : Draw) : Issue := ⟨d.now, e.tokenTtlSeconds, d.uuid, d.nonce⟩

/-- The claims of the token that approves a proposal. -/
def approvalClaims (p : ActionProposal) (org : PolicyOrganisation) (d : Draw) :
    AuthorizationTokenClaims :=
  issuedClaims r (getPolicyVersionHash r e) p org.id (some d.uuid) (d.issue e)

def approvalToken (p : ActionProposal) (org : PolicyOrganisation) (d : Draw) : String :=
  generateToken r e.signingSecret (getPolicyVersionHash r e) p org.id (some d.uuid) (d.issue e)

def evaluate (p : ActionProposal) (org : PolicyOrganisation) (ledger : Option Int) (d : Draw) :
    Except PyError EngineDecision :=
  match org.agents.lookup p.proposingAgentId with
  | none => .ok {
      id := d.uuid
      proposalId := p.id
      result := .rejected
      violatedRuleId := some "RULE-AUTH"
      violatedRuleDescription :=
        some s!"Agent '{p.proposingAgentId}' does not exist in organisation"
      evaluatedRules := ["RULE-AUTH"]
      authorizationToken := none }
  | some agent =>
    match askEach p agent org ledger (ruleIds e) [] e.rules with
    | .error err => .error err
    | .ok (evaluated, some (ruleId, violation)) => .ok {
        id := d.uuid
        proposalId := p.id
        result := .rejected
        violatedRuleId := some ruleId
        violatedRuleDescription := some violation
        evaluatedRules := evaluated
        authorizationToken := none }
    | .ok (evaluated, none) =>
      if e.humanApprovalThreshold ≤ p.requestedCredits then .ok {
        id := d.uuid
        proposalId := p.id
        result := .escalateToHuman
        violatedRuleId := some "RULE-05"
        violatedRuleDescription :=
          some s!"Requested {p.requestedCredits} credits requires explicit human approval"
        evaluatedRules := evaluated ++ ["RULE-05"]
        authorizationToken := none }
      else .ok {
        id := d.uuid
        proposalId := p.id
        result := .approved
        violatedRuleId := none
        violatedRuleDescription := none
        evaluatedRules := evaluated
        authorizationToken := some (approvalToken r e p org d) }

def decided (p : ActionProposal) (org : PolicyOrganisation) (ledger : Option Int) (d : Draw) :
    Except PyError PolicyResult :=
  (evaluate r e p org ledger d).map fun decision => decision.result

/-- The result once it is known whether a rule objects. -/
def resultOf (p : ActionProposal) (objection : Bool) : PolicyResult :=
  if objection then .rejected
  else if e.humanApprovalThreshold ≤ p.requestedCredits then .escalateToHuman
  else .approved

theorem decided_none {p : ActionProposal} {org : PolicyOrganisation} (ledger : Option Int) (d : Draw)
    (missing : org.agents.lookup p.proposingAgentId = none) :
    decided r e p org ledger d = .ok .rejected := by
  rw [decided, evaluate, missing]
  rfl

theorem decided_some {p : ActionProposal} {org : PolicyOrganisation} {agent : PolicyAgent}
    (ledger : Option Int) (d : Draw) (found : org.agents.lookup p.proposingAgentId = some agent) :
    decided r e p org ledger d =
      (objects p agent org ledger (ruleIds e) e.rules).map (resultOf e p) := by
  rw [decided, evaluate, found, ← askEach_objects p agent org ledger (ruleIds e) []]
  dsimp only
  cases askEach p agent org ledger (ruleIds e) [] e.rules with
  | error err => rfl
  | ok found =>
    obtain ⟨evaluated, objection⟩ := found
    cases objection with
    | some named => rfl
    | none =>
      show Except.map _ (if _ then _ else _) = Except.ok (resultOf e p false)
      rw [resultOf, if_neg Bool.false_ne_true]
      split_ifs with high
      · rfl
      · rfl

/-- Only an approval carries a token, and its id is the one the token names. -/
theorem evaluate_token {p : ActionProposal} {org : PolicyOrganisation} {ledger : Option Int}
    {d : Draw} {decision : EngineDecision} (returned : evaluate r e p org ledger d = .ok decision) :
    decision.id = d.uuid ∧
      (decision.result = .approved → decision.authorizationToken = some (approvalToken r e p org d)) ∧
      ∀ token ∈ decision.authorizationToken, token = approvalToken r e p org d := by
  rw [evaluate] at returned
  split at returned
  · obtain rfl := Except.ok.inj returned
    exact ⟨rfl, nofun, nofun⟩
  · split at returned
    · cases returned
    · obtain rfl := Except.ok.inj returned
      exact ⟨rfl, nofun, nofun⟩
    · split_ifs at returned
      · obtain rfl := Except.ok.inj returned
        exact ⟨rfl, nofun, nofun⟩
      · obtain rfl := Except.ok.inj returned
        refine ⟨rfl, fun _ => rfl, ?_⟩
        rintro token ⟨⟩
        rfl

end Evaluation

section Coverage
variable (r : TokenRules)

/-- Two engines decide alike, whatever is proposed. -/
def SameDecisions (e e' : Engine) : Prop :=
  ∀ p org ledger d d', decided r e p org ledger d = decided r e' p org ledger d'

/-- What the version hash is taken of the rules is their names. -/
theorem policyMeta_of_names {e e' : Engine}
    (names : e.rules.map (fun rule => (rule.ruleId, rule.description)) =
      e'.rules.map fun rule => (rule.ruleId, rule.description))
    (thresholds : e.humanApprovalThreshold = e'.humanApprovalThreshold) :
    policyMeta e = policyMeta e' := by
  have listed (rules : List PolicyRule) :
      (rules.mergeSort fun a b => a.ruleId ≤ b.ruleId).map (fun rule =>
          PyValue.dict [("rule_id", .str rule.ruleId), ("description", .str rule.description)]) =
        ((rules.map fun rule => (rule.ruleId, rule.description)).mergeSort
          fun a b => a.1 ≤ b.1).map fun name =>
            PyValue.dict [("rule_id", .str name.1), ("description", .str name.2)] := by
    rw [← List.map_mergeSort (r := fun a b : PolicyRule => decide (a.ruleId ≤ b.ruleId))
      fun a _ b _ => rfl, List.map_map]
    rfl
  rw [policyMeta, policyMeta, listed, listed, names, thresholds]

/-- What the version hash is to ensure of two engines. -/
structure Covered (e e' : Engine) : Prop where
  decisions : getPolicyVersionHash r e = getPolicyVersionHash r e' → SameDecisions r e e'
  honoured : ∀ p org ledger d decision, evaluate r e p org ledger d = .ok decision →
    ReadsBack r (approvalClaims r e p org d) →
    ∀ token ∈ decision.authorizationToken, ∀ p' org' decision' now,
      Accepts (verifyToken r e'.signingSecret (getPolicyVersionHash r e') token p' org' decision'
        now) → SameDecisions r e e'

/-- The rules of two engines object to the same proposals of the same agents, and raise alike. -/
def ObjectAlike (e e' : Engine) : Prop :=
  ∀ (p : ActionProposal) (agent : PolicyAgent) (org : PolicyOrganisation) (ledger : Option Int),
    org.agents.lookup p.proposingAgentId = some agent →
      objects p agent org ledger (ruleIds e) e.rules =
        objects p agent org ledger (ruleIds e') e'.rules

variable {r}

theorem sorted_pair (listed : PyValue) (threshold : Int) :
    sortKeys (.dict [("rules", listed), ("human_approval_threshold", .int threshold)]) =
      .dict [("human_approval_threshold", .int threshold), ("rules", sortKeys listed)] := by
  simp [sortKeys, sortKeysItems, List.mergeSort]

/-- The threshold is part of what is hashed. -/
theorem threshold_of_hash (laws : FloatText r.reprFloat) {e e' : Engine}
    (injective : Set.InjOn r.sha256 {policyMetaText r e, policyMetaText r e'})
    (hashes : getPolicyVersionHash r e = getPolicyVersionHash r e') :
    e.humanApprovalThreshold = e'.humanApprovalThreshold := by
  have texts : policyMetaText r e = policyMetaText r e' := injective (.inl rfl) (.inr rfl) hashes
  have sorted := canonicalJson_inj laws texts
  rw [policyMeta, policyMeta, sorted_pair, sorted_pair] at sorted
  simp only [PyValue.dict.injEq, List.cons.injEq, Prod.mk.injEq, PyValue.int.injEq] at sorted
  exact sorted.1.2

theorem resultOf_inj (e e' : Engine) (p : ActionProposal) {a b : Bool}
    (same : resultOf e p a = resultOf e' p b) : a = b := by
  cases a <;> cases b
  · rfl
  · rw [resultOf, resultOf, if_neg Bool.false_ne_true, if_pos rfl] at same
    split_ifs at same
  · rw [resultOf, resultOf, if_pos rfl, if_neg Bool.false_ne_true] at same
    split_ifs at same
  · rfl

theorem objectAlike_of_decisions {e e' : Engine} (same : SameDecisions r e e') :
    ObjectAlike e e' := by
  intro p agent org ledger found
  have decisions := same p org ledger ⟨.nan, "", ""⟩ ⟨.nan, "", ""⟩
  rw [decided_some r e ledger _ found, decided_some r e' ledger _ found] at decisions
  cases here : objects p agent org ledger (ruleIds e) e.rules with
  | error err =>
    cases there : objects p agent org ledger (ruleIds e') e'.rules with
    | error err' =>
      rw [here, there] at decisions
      rw [Except.error.inj decisions]
    | ok objection =>
      rw [here, there] at decisions
      cases decisions
  | ok objection =>
    cases there : objects p agent org ledger (ruleIds e') e'.rules with
    | error err =>
      rw [here, there] at decisions
      cases decisions
    | ok objection' =>
      rw [here, there] at decisions
      rw [resultOf_inj e e' p (Except.ok.inj decisions)]

theorem decisions_of_objectAlike {e e' : Engine} (alike : ObjectAlike e e')
    (thresholds : e.humanApprovalThreshold = e'.humanApprovalThreshold) :
    SameDecisions r e e' := by
  intro p org ledger d d'
  cases found : org.agents.lookup p.proposingAgentId with
  | none => rw [decided_none r e ledger d found, decided_none r e' ledger d' found]
  | some agent =>
    have results : resultOf e p = resultOf e' p := by
      funext objection
      rw [resultOf, resultOf, thresholds]
    rw [decided_some r e ledger d found, decided_some r e' ledger d' found,
      alike p agent org ledger found, results]

/-- A token is honoured only under the version hash it was issued with. -/
theorem hash_of_honoured (mac : ∀ k s, ∀ x ∈ (r.hmac k s).toList, IsHexDigit x) {e e' : Engine}
    {p : ActionProposal} {org : PolicyOrganisation} {d : Draw}
    (reads : ReadsBack r (approvalClaims r e p org d)) {p' : ActionProposal}
    {org' : TokenOrganisation} {decision : Option PolicyDecision} {now : PyFloat}
    (accepted : Accepts (verifyToken r e'.signingSecret (getPolicyVersionHash r e')
      (approvalToken r e p org d) p' org' decision now)) :
    getPolicyVersionHash r e = getPolicyVersionHash r e' :=
  ((verifyToken_iff reads mac ..).mp accepted).2.2.2.2

end Coverage

section Samples

/-- An engine without rules. -/
def bareEngine (threshold : Int) : Engine := ⟨[], threshold, .finite 60, "s"⟩

def hashOfForty : String := "8e7bf962f66b01ce15c0c553c246fcbc2057bd3f58cb5f633bcb9f75625be9ce"
def hashOfFifty : String := "e4f7e3135152c54859ffb88db9f9919dc20144339285854282e748e78a426f97"

/-- What SHA-256 gives for the versions of the engines with thresholds 40 and 50. -/
def versionRules : TokenRules :=
  { sampleRules "" zeros "" zeros with
    sha256 := fun s =>
      if s = canonicalJson printFloat (.dict (policyMeta (bareEngine 40))) then hashOfForty
      else if s = canonicalJson printFloat (.dict (policyMeta (bareEngine 50))) then hashOfFifty
      else zeros }

theorem versions_mac : ∀ k s, ∀ x ∈ (versionRules.hmac k s).toList, IsHexDigit x := by
  intro k s
  show ∀ x ∈ (if k = "s" ∧ s = "" then zeros else zeros).toList, IsHexDigit x
  rw [ite_self]
  decide

theorem versions_injective : Set.InjOn versionRules.sha256
    {policyMetaText versionRules (bareEngine 40), policyMetaText versionRules (bareEngine 50)} := by
  have forty : versionRules.sha256 (policyMetaText versionRules (bareEngine 40)) = hashOfForty :=
    if_pos rfl
  by_cases texts : policyMetaText versionRules (bareEngine 50) =
      policyMetaText versionRules (bareEngine 40)
  · rw [texts, Set.pair_eq_singleton]
    exact Set.injOn_singleton _ _
  · have fifty : versionRules.sha256 (policyMetaText versionRules (bareEngine 50)) = hashOfFifty :=
      (if_neg texts).trans (if_pos rfl)
    have apart : hashOfForty ≠ hashOfFifty := by decide +kernel
    rintro s (rfl | rfl) s' (rfl | rfl) same
    · rfl
    · rw [forty, fifty] at same
      exact absurd same apart
    · rw [forty, fifty] at same
      exact absurd same.symm apart
    · rfl

def plainText : RuleText where
  toTextRules := PythonConversions.asciiRules printFloat
  floatOf v := match v with
    | .float f => .ok f
    | .int i => .ok (.finite i)
    | _ => .error ⟨.typeError, "float() argument must be a string or a real number"⟩
  divHundred f := match f with
    | .finite q => .finite (q / 100)
    | f => f
  fixedTwo := printFloat

/-- An engine with the profile of an organisation in front of the default rules. -/
def profiledEngine (ceiling : Int) : Engine where
  rules := configuredGovernanceRule plainText
    [("spending_ceiling", .int ceiling), ("per_agent_ceiling", .int ceiling)] ::
      defaultRules plainText
  humanApprovalThreshold := 40
  tokenTtlSeconds := .finite 60
  signingSecret := "s"

def sampleAgent : PolicyAgent where
  id := "a"
  status := .active
  allowedActionTypes := [.internalAnalysis]
  authorityCeiling := 25
  role := .researcher
  performanceScore := .finite 100

def sampleOrganisation : PolicyOrganisation where
  id := "o"
  tenantId := "tenant-demo"
  treasuryBalance := 100
  state := .executing
  agents := [("a", sampleAgent)]

def twentyCredits : ActionProposal where
  id := "p"
  taskId := "t"
  proposingAgentId := "a"
  actionType := .internalAnalysis
  target := "internal://research_synthesis"
  parameters := []
  requestedCredits := 20

theorem objects_profiled :
    objects twentyCredits sampleAgent sampleOrganisation none (ruleIds (profiledEngine 10))
        (profiledEngine 10).rules = .ok true ∧
      objects twentyCredits sampleAgent sampleOrganisation none (ruleIds (profiledEngine 1000))
        (profiledEngine 1000).rules = .ok false := by
  constructor
  · decide +kernel
  · decide +kernel

/-- Two profiles of one organisation share their version hash, whatever the hash function. -/
theorem profiles_uncovered (r : TokenRules) :
    Set.InjOn r.sha256
        {policyMetaText r (profiledEngine 10), policyMetaText r (profiledEngine 1000)} ∧
      ¬Covered r (profiledEngine 10) (profiledEngine 1000) := by
  have texts : policyMetaText r (profiledEngine 10) = policyMetaText r (profiledEngine 1000) := by
    have named : policyMeta (profiledEngine 10) = policyMeta (profiledEngine 1000) :=
      policyMeta_of_names rfl rfl
    rw [policyMetaText, policyMetaText, named]
  constructor
  · rw [texts, Set.pair_eq_singleton]
    exact Set.injOn_singleton _ _
  · intro covered
    have hashes : getPolicyVersionHash r (profiledEngine 10) =
        getPolicyVersionHash r (profiledEngine 1000) := by
      rw [getPolicyVersionHash, getPolicyVersionHash, texts]
    have alike := objectAlike_of_decisions (covered.decisions hashes) twentyCredits sampleAgent
      sampleOrganisation none rfl
    rw [objects_profiled.1, objects_profiled.2] at alike
    exact absurd (Except.ok.inj alike) (by decide)

end Samples

end PolicyEngine
