import KalyxMao.ExecutionAdmission
import KalyxMao.KeyedLists
import KalyxMao.PythonDates

/-!
# Capability grants

A grant is proposed in the caller's name, but the ids of the proposer and of the
target, and the tenant and the organisation that the grant is saved for, are
those that the proposal carries. The policy looks the target up and compares the
two ids; nothing looks the proposer up, and nothing reads the target's status.
-/

namespace CapabilityGrants
open PythonText PythonValues PythonConversions PythonDates Domain KeyedLists TokenBinding PolicyRules
open PolicyEngine ExecutionAdmission

section Model

structure CapabilityProposal where
  tenantId : String
  organisationId : String
  targetAgentId : String
  proposerAgentId : String
  requestedCapability : String
  requestedPermission : String
  currentPerformanceScore : PyFloat

inductive CapabilityGrantStatus where
  | active
  | expired
  | revoked
  deriving DecidableEq

structure CapabilityGrant where
  tenantId : String
  organisationId : String
  grantId : String
  agentId : String
  capabilityName : String
  permissionLevel : String
  triggerPerformanceScore : PyFloat
  grantedByPolicyId : String
  status : CapabilityGrantStatus
  grantedAt : String
  expiresAt : String

def CapabilityGrant.key (grant : CapabilityGrant) : String × String × String :=
  (grant.tenantId, grant.organisationId, grant.grantId)

structure Database where
  tenants : List String
  organisations : List String
  grants : List CapabilityGrant

/-- The organisation in memory, and the stored grants. -/
structure World where
  organisation : PolicyOrganisation
  db : Database

section Repository
variable (db : Database)

/-- `save_capability_grant`: a stored grant keeps all but its status and its expiry. -/
def saveCapabilityGrant (grant : CapabilityGrant) : Except PyError Database :=
  match lookupBy CapabilityGrant.key db.grants grant.key with
  | some row => .ok { db with
      grants := replaceBy CapabilityGrant.key db.grants
        { row with status := grant.status, expiresAt := grant.expiresAt } }
  | none =>
    if grant.tenantId ∈ db.tenants ∧ grant.organisationId ∈ db.organisations then
      .ok { db with grants := db.grants ++ [grant] }
    else .error ⟨.integrityError, "FOREIGN KEY constraint failed"⟩

/-- `list_agent_grants`, the active ones. -/
def listAgentGrants (tenantId organisationId agentId : String) : List CapabilityGrant :=
  db.grants.filter fun row => row.tenantId = tenantId ∧ row.organisationId = organisationId ∧
    row.agentId = agentId ∧ row.status = .active

end Repository

structure CapabilityManager where
  policyEngine : Engine
  defaultGrantDurationDays : Int

/-- What a call draws: the digits of its ids, and the time of the grant. -/
structure GrantDraw extends Draw where
  proposal : String
  task : String
  grant : String
  granted : DateTime

/-- The arguments of `evaluate_and_grant`; the record of the target that callers pass is not
read. -/
structure Call where
  proposal : CapabilityProposal
  supervisor : PolicyAgent
  ledger : Option Int
  draw : GrantDraw

def capabilityPolicyId : String := "RULE-CAPABILITY-01"

/-- The action that the policy is asked about. -/
def Call.actionProposal (c : Call) : ActionProposal where
  id := s!"prop-{c.draw.proposal}"
  taskId := s!"task-cap-{c.draw.task}"
  proposingAgentId := c.supervisor.id
  actionType := .proposeCapabilityExpansion
  target := s!"capability://{c.proposal.requestedCapability}"
  parameters := [
    ("target_agent_id", .str c.proposal.targetAgentId),
    ("proposer_agent_id", .str c.proposal.proposerAgentId),
    ("requested_capability", .str c.proposal.requestedCapability),
    ("requested_permission", .str c.proposal.requestedPermission),
    ("performance_score", .float c.proposal.currentPerformanceScore),
    ("supervisor_approved", .bool (c.supervisor.id ≠ c.proposal.targetAgentId))]
  requestedCredits := 0

def Call.grant (c : Call) (expires : DateTime) : CapabilityGrant where
  tenantId := c.proposal.tenantId
  organisationId := c.proposal.organisationId
  grantId := s!"grant-{c.draw.grant}"
  agentId := c.proposal.targetAgentId
  capabilityName := c.proposal.requestedCapability
  permissionLevel := c.proposal.requestedPermission
  triggerPerformanceScore := c.proposal.currentPerformanceScore
  grantedByPolicyId := capabilityPolicyId
  status := .active
  grantedAt := c.draw.granted.isoformat
  expiresAt := expires.isoformat

/-- A supervisor that the organisation does not have yet becomes one of its agents. -/
def enrol (org : PolicyOrganisation) (supervisor : PolicyAgent) : PolicyOrganisation :=
  if (org.agents.lookup supervisor.id).isSome then org
  else { org with agents := org.agents ++ [(supervisor.id, supervisor)] }

/-- `plusDays` adds a `timedelta` of days; the addition raises past the last year. -/
def evaluateAndGrant (r : TokenRules) (plusDays : DateTime → Int → Except PyError DateTime)
    (m : CapabilityManager) (c : Call) (w : World) :
    World × Except PyError (Option CapabilityGrant) :=
  let w := { w with organisation := enrol w.organisation c.supervisor }
  match evaluate r m.policyEngine c.actionProposal w.organisation c.ledger c.draw.toDraw with
  | .error e => (w, .error e)
  | .ok decision =>
    if decision.result ≠ .approved then (w, .ok none)
    else
      match plusDays c.draw.granted m.defaultGrantDurationDays with
      | .error e => (w, .error e)
      | .ok expires =>
        match saveCapabilityGrant w.db (c.grant expires) with
        | .error e => (w, .error e)
        | .ok db => ({ w with db }, .ok (some (c.grant expires)))

end Model

section Property
variable (r : TokenRules) (plusDays : DateTime → Int → Except PyError DateTime)
  (m : CapabilityManager) (c : Call) (w : World)

/-- A proposal asks for exactly what a grant gives. -/
structure AsksFor (p : ActionProposal) (row : CapabilityGrant) : Prop where
  action : p.actionType = .proposeCapabilityExpansion
  agent : get p.parameters "target_agent_id" = .str row.agentId
  capability : get p.parameters "requested_capability" = .str row.capabilityName
  permission : get p.parameters "requested_permission" = .str row.permissionLevel
  score : get p.parameters "performance_score" = .float row.triggerPerformanceScore
  policy : row.grantedByPolicyId = capabilityPolicyId

/-- The proposal's result of the policy, on the organisation with the supervisor enrolled. -/
def verdict : Except PyError PolicyResult :=
  decided r m.policyEngine c.actionProposal (enrol w.organisation c.supervisor) c.ledger
    c.draw.toDraw

/-- What justifies a grant: its proposer, as named and as calling, is an agent that the
organisation had and not the target, the target is one of its active agents, and the policy
approved this grant. -/
structure Justified (row : CapabilityGrant) : Prop where
  proposer : (w.organisation.agents.lookup c.proposal.proposerAgentId).isSome
  caller : (w.organisation.agents.lookup c.supervisor.id).isSome
  independent : c.proposal.proposerAgentId ≠ row.agentId ∧ c.supervisor.id ≠ row.agentId
  target : ∃ agent, w.organisation.agents.lookup row.agentId = some agent ∧ agent.status = .active
  approval : verdict r m c w = .ok .approved ∧ AsksFor c.actionProposal row
  scope : row.tenantId = w.organisation.tenantId ∧ row.organisationId = w.organisation.id

/-- What an agent may do: the actions its record allows, and its active grants. -/
def permissions (agentId : String) : Option (List ActionType) × List CapabilityGrant :=
  ((w.organisation.agents.lookup agentId).map fun agent => agent.allowedActionTypes,
    listAgentGrants w.db c.proposal.tenantId c.proposal.organisationId agentId)

/-- A grant that is saved is justified, and a call that saves none changes no grant and nothing
that the target may do. -/
structure Governed : Prop where
  granted : ∀ grant, (evaluateAndGrant r plusDays m c w).2 = .ok (some grant) →
    ∃ row, lookupBy CapabilityGrant.key (evaluateAndGrant r plusDays m c w).1.db.grants grant.key =
      some row ∧ row.status = .active ∧ Justified r m c w row
  refused : (∀ grant, (evaluateAndGrant r plusDays m c w).2 ≠ .ok (some grant)) →
    (evaluateAndGrant r plusDays m c w).1.db = w.db ∧
      permissions c (evaluateAndGrant r plusDays m c w).1 c.proposal.targetAgentId =
        permissions c w c.proposal.targetAgentId

def Call.key (c : Call) : String × String × String :=
  (c.proposal.tenantId, c.proposal.organisationId, s!"grant-{c.draw.grant}")

/-- The policy approves, the expiry is a date, and the table takes the grant. -/
structure Saves : Prop where
  approved : verdict r m c w = .ok .approved
  dated : ∃ expires, plusDays c.draw.granted m.defaultGrantDurationDays = .ok expires
  stored : (lookupBy CapabilityGrant.key w.db.grants c.key).isSome ∨
    (c.proposal.tenantId ∈ w.db.tenants ∧ c.proposal.organisationId ∈ w.db.organisations)

/-- A stored grant is for the same agent, capability and score as a call asks for. -/
structure SameTerms (row : CapabilityGrant) : Prop where
  agent : row.agentId = c.proposal.targetAgentId
  capability : row.capabilityName = c.proposal.requestedCapability
  permission : row.permissionLevel = c.proposal.requestedPermission
  score : row.triggerPerformanceScore = c.proposal.currentPerformanceScore
  policy : row.grantedByPolicyId = capabilityPolicyId

/-- What the code takes from its caller unchecked: who proposes and who calls, the status of the
target, the tenant and the organisation, and that the digits drawn for the grant's id are new.
An empty target stands for the supervisor when the policy looks the target up. -/
structure Trustworthy : Prop where
  proposer : (w.organisation.agents.lookup c.proposal.proposerAgentId).isSome
  caller : (w.organisation.agents.lookup c.supervisor.id).isSome
  separate : c.supervisor.id ≠ c.proposal.targetAgentId
  active : ∀ agent, w.organisation.agents.lookup c.proposal.targetAgentId = some agent →
    agent.status = .active
  named : c.proposal.targetAgentId = "" → (w.organisation.agents.lookup "").isSome
  scope : c.proposal.tenantId = w.organisation.tenantId ∧
    c.proposal.organisationId = w.organisation.id
  fresh : ∀ row, lookupBy CapabilityGrant.key w.db.grants c.key = some row → SameTerms c row

end Property

section Rule
variable {t : RuleText} {threshold : PyFloat} {p : ActionProposal} {agent : PolicyAgent}
  {org : PolicyOrganisation} {ledger : Option Int} {ids : List String}

/-- The agent that an id in the parameters stands for. -/
def named (p : ActionProposal) (agentId : String) : String :=
  if agentId = "" then p.proposingAgentId else agentId

theorem firstTruthy_text (p : ActionProposal) (agentId : String) :
    firstTruthy [.str agentId, .str p.proposingAgentId] = .str (named p agentId) := by
  by_cases empty : agentId = ""
  · simp [firstTruthy, truthy, named, empty]
  · simp [firstTruthy, truthy, named, empty]

/-- The capability rule lets nothing through in which the proposer is the target, or the target
is not in the organisation. -/
theorem capability_passes {target proposer : String}
    (action : p.actionType = .proposeCapabilityExpansion)
    (targets : get p.parameters "target_agent_id" = .str target)
    (proposes : get p.parameters "proposer_agent_id" = .str proposer)
    (passes : Passes p agent org ledger ids (capabilityEvolutionRule t threshold)) :
    named p target ≠ named p proposer ∧ (org.agents.lookup (named p target)).isSome := by
  have independent : named p target ≠ named p proposer := by
    intro same
    have answer : (capabilityEvolutionRule t threshold).evaluate p agent org ⟨ledger, some ids⟩ =
        .ok (some
          s!"Agent '{shown t (.str (named p target))}' cannot self-grant capabilities. Expansion proposals must originate from an independent supervisor.") := by
      simp only [capabilityEvolutionRule, targets, proposes, firstTruthy_text]
      simp [action, same, valuesEqual]
    have empty := (passes_of_answer answer).mp passes
    rw [Option.getD_some, String.append_eq_empty_iff] at empty
    exact absurd empty.2 (by decide)
  refine ⟨independent, ?_⟩
  cases found : org.agents.lookup (named p target) with
  | some _ => rfl
  | none =>
    have answer : (capabilityEvolutionRule t threshold).evaluate p agent org ⟨ledger, some ids⟩ =
        .ok (some
          s!"Target agent '{shown t (.str (named p target))}' does not belong to organisation '{org.id}'.") := by
      simp only [capabilityEvolutionRule, targets, proposes, firstTruthy_text]
      simp [action, independent, valuesEqual, hashable, found, bind, Except.bind]
    have empty := (passes_of_answer answer).mp passes
    rw [Option.getD_some, String.append_eq_empty_iff] at empty
    exact absurd empty.2 (by decide)

theorem lookup_enrol (org : PolicyOrganisation) {supervisor : PolicyAgent} {agentId : String}
    (apart : supervisor.id ≠ agentId ∨ (org.agents.lookup supervisor.id).isSome) :
    (enrol org supervisor).agents.lookup agentId = org.agents.lookup agentId := by
  unfold enrol
  split_ifs with known
  · rfl
  · have other : (agentId == supervisor.id) = false :=
      beq_eq_false_iff_ne.mpr (apart.resolve_right known).symm
    simp [List.lookup_append, List.lookup_cons, other]

/-- A supervisor that was not there becomes an agent of the organisation. -/
theorem lookup_enrolled {org : PolicyOrganisation} {supervisor : PolicyAgent}
    (missing : org.agents.lookup supervisor.id = none) :
    (enrol org supervisor).agents.lookup supervisor.id = some supervisor := by
  simp [enrol, missing, List.lookup_append]

end Rule

section Calls
variable {r : TokenRules} {plusDays : DateTime → Int → Except PyError DateTime}
  {m : CapabilityManager} {c : Call} {w : World}

/-- The organisation once its supervisor is enrolled. -/
def enrolled (c : Call) (w : World) : World :=
  { w with organisation := enrol w.organisation c.supervisor }

/-- The table takes a grant that it has, or of a tenant and an organisation that are there. -/
theorem saveCapabilityGrant_ok (db : Database) (grant : CapabilityGrant) :
    (∃ db', saveCapabilityGrant db grant = .ok db') ↔
      (lookupBy CapabilityGrant.key db.grants grant.key).isSome ∨
        (grant.tenantId ∈ db.tenants ∧ grant.organisationId ∈ db.organisations) := by
  unfold saveCapabilityGrant
  cases lookupBy CapabilityGrant.key db.grants grant.key with
  | some row => exact iff_of_true ⟨_, rfl⟩ (.inl rfl)
  | none =>
    dsimp only
    split_ifs with known
    · exact iff_of_true ⟨_, rfl⟩ (.inr known)
    · simp [known]

/-- A call saves its grant, or it does nothing but enrol the supervisor. -/
theorem evaluateAndGrant_cases :
    (∃ expires db, Saves r plusDays m c w ∧ saveCapabilityGrant w.db (c.grant expires) = .ok db ∧
      evaluateAndGrant r plusDays m c w =
        ({ enrolled c w with db }, .ok (some (c.grant expires)))) ∨
    (¬Saves r plusDays m c w ∧ (evaluateAndGrant r plusDays m c w).1 = enrolled c w ∧
      ∀ grant, (evaluateAndGrant r plusDays m c w).2 ≠ .ok (some grant)) := by
  have decides : verdict r m c w =
      (evaluate r m.policyEngine c.actionProposal (enrol w.organisation c.supervisor) c.ledger
        c.draw.toDraw).map fun decision => decision.result := rfl
  unfold evaluateAndGrant
  dsimp only
  cases asked : evaluate r m.policyEngine c.actionProposal (enrol w.organisation c.supervisor)
      c.ledger c.draw.toDraw with
  | error e =>
    rw [asked] at decides
    refine .inr ⟨?_, rfl, fun _ saved => by cases saved⟩
    intro saves
    cases decides.symm.trans saves.approved
  | ok decision =>
    rw [asked] at decides
    dsimp only
    split_ifs with refused
    · refine .inr ⟨?_, rfl, fun _ saved => by cases saved⟩
      intro saves
      exact refused (Except.ok.inj (decides.symm.trans saves.approved))
    · cases dated : plusDays c.draw.granted m.defaultGrantDurationDays with
      | error e =>
        refine .inr ⟨?_, rfl, fun _ saved => by cases saved⟩
        rintro ⟨-, ⟨expires, given⟩, -⟩
        cases dated.symm.trans given
      | ok expires =>
        dsimp only
        have approved : verdict r m c w = .ok .approved :=
          decides.trans (congrArg Except.ok (not_not.mp refused))
        cases saved : saveCapabilityGrant w.db (c.grant expires) with
        | error e =>
          refine .inr ⟨?_, rfl, fun _ saved => by cases saved⟩
          rintro ⟨-, -, takes⟩
          obtain ⟨db, stored⟩ := (saveCapabilityGrant_ok w.db (c.grant expires)).mpr takes
          cases saved.symm.trans stored
        | ok db =>
          exact .inl ⟨expires, db, ⟨approved, ⟨expires, dated⟩,
            (saveCapabilityGrant_ok w.db (c.grant expires)).mp ⟨db, saved⟩⟩, saved, rfl⟩

/-- What is found under a grant's key once it is saved. -/
theorem saveCapabilityGrant_row {db db' : Database} {grant : CapabilityGrant}
    (saved : saveCapabilityGrant db grant = .ok db') :
    (lookupBy CapabilityGrant.key db.grants grant.key = none ∧
      lookupBy CapabilityGrant.key db'.grants grant.key = some grant) ∨
    ∃ row, lookupBy CapabilityGrant.key db.grants grant.key = some row ∧
      lookupBy CapabilityGrant.key db'.grants grant.key =
        some { row with status := grant.status, expiresAt := grant.expiresAt } := by
  unfold saveCapabilityGrant at saved
  split at saved
  · rename_i row found
    obtain rfl := Except.ok.inj saved
    have key : CapabilityGrant.key { row with status := grant.status, expiresAt := grant.expiresAt } =
        grant.key := (lookupBy_some found).2
    refine .inr ⟨row, found, ?_⟩
    rw [← key]
    exact lookupBy_replaceBy_some (key.symm ▸ found)
  · rename_i missing
    split_ifs at saved
    obtain rfl := Except.ok.inj saved
    exact .inl ⟨missing, lookupBy_concat_self (lookupBy_none.mp missing)⟩

theorem asksFor_iff {row : CapabilityGrant} : AsksFor c.actionProposal row ↔ SameTerms c row := by
  constructor
  · intro asks
    exact ⟨(PyValue.str.inj asks.agent).symm, (PyValue.str.inj asks.capability).symm,
      (PyValue.str.inj asks.permission).symm, (PyValue.float.inj asks.score).symm, asks.policy⟩
  · intro terms
    exact ⟨rfl, congrArg PyValue.str terms.agent.symm, congrArg PyValue.str terms.capability.symm,
      congrArg PyValue.str terms.permission.symm, congrArg PyValue.float terms.score.symm,
      terms.policy⟩

theorem grant_terms (c : Call) (expires : DateTime) : SameTerms c (c.grant expires) :=
  ⟨rfl, rfl, rfl, rfl, rfl⟩

/-- An approved expansion has passed the capability rule. -/
theorem approved_named {t : RuleText} {threshold : PyFloat}
    (asked : capabilityEvolutionRule t threshold ∈ m.policyEngine.rules)
    (approved : verdict r m c w = .ok .approved) :
    named c.actionProposal c.proposal.targetAgentId ≠
        named c.actionProposal c.proposal.proposerAgentId ∧
      ((enrol w.organisation c.supervisor).agents.lookup
        (named c.actionProposal c.proposal.targetAgentId)).isSome := by
  obtain ⟨_, _, passed, _⟩ := passed_of_result (by decide) approved
  exact capability_passes rfl rfl rfl (passed _ asked)

/-- A row on the terms of a trustworthy call is justified by the policy's approval. -/
theorem justified_of_trustworthy {t : RuleText} {threshold : PyFloat}
    (asked : capabilityEvolutionRule t threshold ∈ m.policyEngine.rules)
    (approved : verdict r m c w = .ok .approved) (trusted : Trustworthy c w)
    {row : CapabilityGrant} (terms : SameTerms c row)
    (scope : row.tenantId = c.proposal.tenantId ∧ row.organisationId = c.proposal.organisationId) :
    Justified r m c w row := by
  obtain ⟨apart, there⟩ := approved_named asked approved
  have independent : c.proposal.proposerAgentId ≠ c.proposal.targetAgentId := by
    intro same
    exact apart (congrArg _ same.symm)
  refine ⟨trusted.proposer, trusted.caller, ?_, ?_, ⟨approved, asksFor_iff.mpr terms⟩,
    scope.1.trans trusted.scope.1, scope.2.trans trusted.scope.2⟩
  · rw [terms.agent]
    exact ⟨independent, trusted.separate⟩
  · have known : (w.organisation.agents.lookup c.proposal.targetAgentId).isSome := by
      by_cases empty : c.proposal.targetAgentId = ""
      · rw [empty]
        exact trusted.named empty
      · rw [named, if_neg empty, lookup_enrol _ (.inl trusted.separate)] at there
        exact there
    obtain ⟨agent, found⟩ := Option.isSome_iff_exists.mp known
    rw [terms.agent]
    exact ⟨agent, found, trusted.active agent found⟩

theorem trustworthy_of_justified {row : CapabilityGrant} (justified : Justified r m c w row)
    (scope : row.tenantId = c.proposal.tenantId ∧ row.organisationId = c.proposal.organisationId)
    (fresh : ∀ row, lookupBy CapabilityGrant.key w.db.grants c.key = some row → SameTerms c row) :
    Trustworthy c w := by
  have agent := (asksFor_iff.mp justified.approval.2).agent
  obtain ⟨target, found, active⟩ := justified.target
  rw [agent] at found
  refine ⟨justified.proposer, justified.caller, ?_, ?_, ?_, ?_, fresh⟩
  · rw [← agent]
    exact justified.independent.2
  · intro other there
    obtain rfl := Option.some.inj (found.symm.trans there)
    exact active
  · intro empty
    rw [← empty, found]
    rfl
  · exact ⟨scope.1.symm.trans justified.scope.1, scope.2.symm.trans justified.scope.2⟩

/-- Enrolling a supervisor gives rights to no one but itself. -/
theorem permissions_enrolled :
    permissions c (enrolled c w) c.proposal.targetAgentId =
        permissions c w c.proposal.targetAgentId ↔
      c.supervisor.id ≠ c.proposal.targetAgentId ∨
        (w.organisation.agents.lookup c.supervisor.id).isSome := by
  constructor
  · intro same
    by_contra outsider
    obtain ⟨own, unknown⟩ := not_or.mp outsider
    have missing : w.organisation.agents.lookup c.supervisor.id = none :=
      Option.not_isSome_iff_eq_none.mp unknown
    have records := congrArg Prod.fst same
    simp [permissions, enrolled, ← not_not.mp own, missing, lookup_enrolled] at records
  · intro apart
    unfold permissions enrolled
    rw [lookup_enrol _ apart]

/-- The rows that a governed call saves show that it could be trusted. -/
theorem trustworthy_of_governed (governed : Governed r plusDays m c w)
    (saves : Saves r plusDays m c w) : Trustworthy c w := by
  rcases evaluateAndGrant_cases with ⟨expires, db, -, saved, result⟩ | ⟨unsaved, -, -⟩
  · obtain ⟨row, found, -, justified⟩ := governed.granted _ (congrArg Prod.snd result)
    rw [result] at found
    rcases saveCapabilityGrant_row saved with ⟨missing, stored⟩ | ⟨old, before, stored⟩
    · obtain rfl := Option.some.inj (stored.symm.trans found)
      refine trustworthy_of_justified justified ⟨rfl, rfl⟩ ?_
      intro row there
      cases missing.symm.trans there
    · obtain rfl := Option.some.inj (stored.symm.trans found)
      have key := (lookupBy_some before).2
      refine trustworthy_of_justified justified
        ⟨congrArg Prod.fst key, congrArg (fun key => key.2.1) key⟩ ?_
      intro row there
      obtain rfl := Option.some.inj (before.symm.trans there)
      obtain ⟨agent, capability, permission, score, policy⟩ := asksFor_iff.mp justified.approval.2
      exact ⟨agent, capability, permission, score, policy⟩
  · exact absurd saves unsaved

end Calls

section Samples

theorem newYear_valid : Clock.Valid ⟨2024, 1, 1, 0, 0, 0, 0⟩ := by decide

def newYear : DateTime := ⟨⟨2024, 1, 1, 0, 0, 0, 0⟩, some 0, newYear_valid, utc_bounded⟩

def weekLater : DateTime := ⟨⟨2024, 1, 8, 0, 0, 0, 0⟩, some 0, by decide, utc_bounded⟩

/-- A week from the first of January 2024. -/
def fromNewYear : DateTime → Int → Except PyError DateTime := fun _ _ => .ok weekLater

def sampleManager : CapabilityManager where
  policyEngine := ⟨defaultRules plainText, 40, .finite 60, "s"⟩
  defaultGrantDurationDays := 7

def ceo : PolicyAgent where
  id := "ceo"
  status := .active
  allowedActionTypes := [.proposeCapabilityExpansion]
  authorityCeiling := 25
  role := .ceo
  performanceScore := .finite 100

def worker (status : AgentStatus) : PolicyAgent where
  id := "worker"
  status := status
  allowedActionTypes := [.internalAnalysis]
  authorityCeiling := 25
  role := .researcher
  performanceScore := .finite 90

/-- An organisation with a supervisor and a worker. -/
def sampleWorld (status : AgentStatus) : World where
  organisation := ⟨"o", "tenant-demo", 100, .planning, [("ceo", ceo), ("worker", worker status)]⟩
  db := ⟨["tenant-demo"], ["o"], []⟩

def sampleCall : Call where
  proposal := ⟨"tenant-demo", "o", "worker", "ceo", "ADVANCED_ANALYTICS", "EXECUTE_ADVANCED",
    .finite 90⟩
  supervisor := ceo
  ledger := none
  draw := ⟨⟨.finite 0, "d", "n"⟩, "1a2b3c4d", "1a2b3c", "5e6f7a8b", newYear⟩

theorem sample_rule : capabilityEvolutionRule plainText
    (.finite (3602879701896397 / 4503599627370496)) ∈ sampleManager.policyEngine.rules := by
  simp [sampleManager, defaultRules]

end Samples

end CapabilityGrants
