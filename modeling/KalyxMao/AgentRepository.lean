import KalyxMao.KeyedLists
import KalyxMao.Reputation
import KalyxMao.StepRuns

/-!
# Saving and loading organisations with their agents

The table of agents is keyed by the agent's id alone, across organisations. An
insert writes every column; the update that a conflict turns it into leaves the
organisation, the role, the model and the allowed actions as they were.
-/

namespace AgentRepository
open PythonText Domain KeyedLists Reputation StepRuns
open TokenBinding (OrgState)

section Model

structure OrganisationRow where
  id : String
  tenantId : String
  mission : String
  treasuryBalance : Int
  state : OrgState
  createdAt : String
  deriving DecidableEq

structure StoredOrganisation extends OrganisationRow where
  agents : List (String × Agent)

structure AgentRow where
  orgId : String
  agent : Agent
  deriving DecidableEq

def AgentRow.id (row : AgentRow) : String := row.agent.id

/-- The tables that are read and written, in the order of their rows. -/
structure Database where
  tenants : List String
  organisations : List OrganisationRow
  agents : List AgentRow

def Database.empty (tenants : List String) : Database := ⟨tenants, [], []⟩

def foreignKeyFailed : PyError := ⟨.integrityError, "FOREIGN KEY constraint failed"⟩

section Statements
variable (db : Database)

/-- `save_organisation`. -/
def saveOrganisation (org : OrganisationRow) : Except PyError Database :=
  match lookupBy OrganisationRow.id db.organisations org.id with
  | some row =>
    let row := { row with
      mission := org.mission, treasuryBalance := org.treasuryBalance, state := org.state }
    .ok { db with organisations := replaceBy OrganisationRow.id db.organisations row }
  | none =>
    if org.tenantId ∉ db.tenants then .error foreignKeyFailed
    else .ok { db with organisations := db.organisations ++ [org] }

/-- What `DO UPDATE` makes of a stored agent. -/
def updated (stored agent : Agent) : Agent :=
  { agent with
    id := stored.id
    role := stored.role
    modelName := stored.modelName
    allowedActionTypes := stored.allowedActionTypes }

/-- `save_agent`. -/
def saveAgent (agent : Agent) (orgId : String) : Except PyError Database :=
  match lookupBy AgentRow.id db.agents agent.id with
  | some row =>
    .ok { db with
      agents := replaceBy AgentRow.id db.agents { row with agent := updated row.agent agent } }
  | none =>
    if orgId ∉ db.organisations.map OrganisationRow.id then .error foreignKeyFailed
    else .ok { db with agents := db.agents ++ [⟨orgId, agent⟩] }

/-- The agents of an organisation, under their ids. -/
def agentsOf (orgId : String) : List (String × Agent) :=
  (db.agents.filter fun row => row.orgId = orgId).map fun row => (row.id, row.agent)

/-- `load_organisation`; `ledger` is the treasury's balance in a ledger that is given. -/
def loadOrganisation (orgId : String) (ledger : Option Int) : Option StoredOrganisation :=
  (lookupBy OrganisationRow.id db.organisations orgId).map fun row =>
    { row with treasuryBalance := ledger.getD row.treasuryBalance, agents := agentsOf db orgId }

/-- An agent as loading its organisation answers it. -/
def loadedAgent (orgId agentId : String) : Option Agent :=
  (loadOrganisation db orgId none).bind fun org => org.agents.lookup agentId

end Statements

/-- The database, the agents in memory, and what was last saved for an organisation under an
agent's id. -/
structure World where
  db : Database
  memory : ℕ → Agent
  saved : String → String → Option Agent

inductive Op where
  | saveOrganisation (org : OrganisationRow)
  | saveAgent (n : ℕ) (orgId : String)
  | reputation (n : ℕ) (call : Call) (record : Option AgentPerformanceRecord)
  | create (n : ℕ) (agent : Agent)
  | reload (n : ℕ) (orgId agentId : String)

def put {β : Type} (f : ℕ → β) (n : ℕ) (value : β) : ℕ → β := fun m => if m = n then value else f m

def note (saved : String → String → Option Agent) (orgId : String) (agent : Agent) :
    String → String → Option Agent :=
  fun o id => if o = orgId ∧ id = agent.id then some agent else saved o id

/-- One operation; an exception leaves everything as it was. -/
def step (w : World) : Op → World
  | .saveOrganisation org =>
    match saveOrganisation w.db org with
    | .error _ => w
    | .ok db => { w with db }
  | .saveAgent n orgId =>
    match saveAgent w.db (w.memory n) orgId with
    | .error _ => w
    | .ok db => { w with db, saved := note w.saved orgId (w.memory n) }
  | .reputation n call record =>
    { w with memory := put w.memory n (call.run ⟨w.memory n, record⟩).agent }
  | .create n agent => { w with memory := put w.memory n agent }
  | .reload n orgId agentId =>
    match loadedAgent w.db orgId agentId with
    | none => w
    | some agent => { w with memory := put w.memory n agent }

end Model

section Property

/-- Loading answers exactly what was last saved. -/
def Faithful (w : World) : Prop :=
  ∀ orgId agentId, loadedAgent w.db orgId agentId = w.saved orgId agentId

/-- Loading is faithful after an operation, and a save has changed no other agent. -/
structure RoundTrips (w : World) (op : Op) : Prop where
  faithful : Faithful (step w op)
  others : ∀ n orgId, op = .saveAgent n orgId → ∀ o id, ¬(o = orgId ∧ id = (w.memory n).id) →
    loadedAgent (step w op).db o id = loadedAgent w.db o id

/-- An agent that is saved is new, or stored for the same organisation with the role, the model
and the allowed actions that it has. -/
def Stable (w : World) : Op → Prop
  | .saveAgent n orgId => ∀ row, lookupBy AgentRow.id w.db.agents (w.memory n).id = some row →
      row.orgId = orgId ∧ row.agent.role = (w.memory n).role ∧
        row.agent.modelName = (w.memory n).modelName ∧
        row.agent.allowedActionTypes = (w.memory n).allowedActionTypes
  | _ => True

/-- Keys are unique, and every agent's organisation is there. -/
structure Consistent (db : Database) : Prop where
  agents : (db.agents.map AgentRow.id).Nodup
  references : ∀ row ∈ db.agents, row.orgId ∈ db.organisations.map OrganisationRow.id

end Property

section Tables
variable {db db' : Database} {agent : Agent} {orgId : String}

/-- The row of an agent, if it is stored for an organisation. -/
def stored (db : Database) (orgId agentId : String) : Option Agent :=
  match lookupBy AgentRow.id db.agents agentId with
  | some row => if row.orgId = orgId then some row.agent else none
  | none => none

theorem lookup_agentsOf (rows : List AgentRow) (nodup : (rows.map AgentRow.id).Nodup)
    (orgId agentId : String) :
    ((rows.filter fun row => row.orgId = orgId).map fun row => (row.id, row.agent)).lookup agentId =
      match lookupBy AgentRow.id rows agentId with
      | some row => if row.orgId = orgId then some row.agent else none
      | none => none := by
  induction rows with
  | nil => rfl
  | cons row rows ih =>
    obtain ⟨fresh, rest⟩ := List.nodup_cons.mp nodup
    have later := ih rest
    rw [lookupBy_cons]
    by_cases own : row.orgId = orgId
    · rw [List.filter_cons_of_pos (by simp [own]), List.map_cons, List.lookup_cons]
      by_cases here : row.id = agentId
      · simp [here, own]
      · have other : (agentId == row.id) = false := by simpa using fun same : agentId = row.id => here same.symm
        rw [other, if_neg here]
        exact later
    · rw [List.filter_cons_of_neg (by simp [own]), later]
      by_cases here : row.id = agentId
      · have absent : lookupBy AgentRow.id rows agentId = none := by
          rw [lookupBy_none]
          intro other mem same
          exact fresh (List.mem_map.mpr ⟨other, mem, same.trans here.symm⟩)
        rw [absent, if_pos here]
        simp [own]
      · rw [if_neg here]

/-- With consistent tables, loading finds an agent by its row. -/
theorem loadedAgent_eq (consistent : Consistent db) (orgId agentId : String) :
    loadedAgent db orgId agentId = stored db orgId agentId := by
  have rows := lookup_agentsOf db.agents consistent.agents orgId agentId
  unfold loadedAgent loadOrganisation
  cases found : lookupBy OrganisationRow.id db.organisations orgId with
  | some org => exact rows
  | none =>
    unfold stored
    rw [Option.map_none, Option.bind_none]
    split
    · rename_i row some_
      split
      · rename_i own
        obtain ⟨mem, -⟩ := lookupBy_some some_
        obtain ⟨org, there, same⟩ := List.mem_map.mp (consistent.references row mem)
        exact absurd (same.trans own) (lookupBy_none.mp found org there)
      · rfl
    · rfl

theorem saveOrganisation_agents {org : OrganisationRow} (done : saveOrganisation db org = .ok db') :
    db'.agents = db.agents := by
  unfold saveOrganisation at done
  split at done
  · exact Except.ok.inj done ▸ rfl
  · split at done
    · cases done
    · exact Except.ok.inj done ▸ rfl

theorem saveOrganisation_ids {org : OrganisationRow} (done : saveOrganisation db org = .ok db')
    (id : String) (there : id ∈ db.organisations.map OrganisationRow.id) :
    id ∈ db'.organisations.map OrganisationRow.id := by
  unfold saveOrganisation at done
  split at done
  · obtain rfl := Except.ok.inj done
    dsimp only
    rwa [map_key_replaceBy]
  · split at done
    · cases done
    · obtain rfl := Except.ok.inj done
      rw [List.map_append]
      exact List.mem_append_left _ there

theorem saveOrganisation_consistent {org : OrganisationRow} (consistent : Consistent db)
    (done : saveOrganisation db org = .ok db') : Consistent db' := by
  have same := saveOrganisation_agents done
  constructor
  · rw [same]
    exact consistent.agents
  · intro row mem
    rw [same] at mem
    exact saveOrganisation_ids done _ (consistent.references row mem)

/-- A save updates the row under the agent's id, or appends one. -/
theorem saveAgent_cases (done : saveAgent db agent orgId = .ok db') :
    (∃ row, lookupBy AgentRow.id db.agents agent.id = some row ∧ db' = { db with
        agents := replaceBy AgentRow.id db.agents { row with agent := updated row.agent agent } }) ∨
    (lookupBy AgentRow.id db.agents agent.id = none ∧
      orgId ∈ db.organisations.map OrganisationRow.id ∧
      db' = { db with agents := db.agents ++ [⟨orgId, agent⟩] }) := by
  unfold saveAgent at done
  split at done
  · rename_i row found
    exact .inl ⟨row, found, (Except.ok.inj done).symm⟩
  · rename_i absent
    split at done
    · cases done
    · rename_i there
      exact .inr ⟨absent, not_not.mp there, (Except.ok.inj done).symm⟩

theorem saveAgent_consistent (consistent : Consistent db) (done : saveAgent db agent orgId = .ok db') :
    Consistent db' := by
  rcases saveAgent_cases done with ⟨row, found, rfl⟩ | ⟨absent, there, rfl⟩
  · obtain ⟨mem, -⟩ := lookupBy_some found
    constructor
    · dsimp only
      rw [map_key_replaceBy]
      exact consistent.agents
    · intro other present
      rcases mem_replaceBy present with rfl | ⟨old, -⟩
      · exact consistent.references row mem
      · exact consistent.references other old
  · constructor
    · dsimp only
      rw [List.map_append]
      refine List.Nodup.append consistent.agents (List.nodup_singleton _) ?_
      intro id old new
      obtain ⟨row, mem, rfl⟩ := List.mem_map.mp old
      exact lookupBy_none.mp absent row mem (List.mem_singleton.mp new)
    · intro other present
      rcases List.mem_append.mp present with old | new
      · exact consistent.references other old
      · obtain rfl := List.mem_singleton.mp new
        exact there

/-- What is stored after a save: under the agent's id what the row makes of it, and everything
else as before. -/
theorem stored_saveAgent (consistent : Consistent db) (done : saveAgent db agent orgId = .ok db')
    (o id : String) : stored db' o id =
      if id = agent.id then
        match lookupBy AgentRow.id db.agents agent.id with
        | some row => if row.orgId = o then some (updated row.agent agent) else none
        | none => if orgId = o then some agent else none
      else stored db o id := by
  unfold stored
  rcases saveAgent_cases done with ⟨row, found, rfl⟩ | ⟨absent, -, rfl⟩
  · obtain ⟨mem, same⟩ := lookupBy_some found
    let row' : AgentRow := { row with agent := updated row.agent agent }
    have key : AgentRow.id row' = agent.id := same
    dsimp only
    by_cases here : id = agent.id
    · have replaced := lookupBy_replaceBy_self (a := row') consistent.agents mem rfl
      rw [key] at replaced
      rw [here, replaced, found, if_pos rfl]
    · rw [lookupBy_replaceBy_ne (a := row') (key.trans_ne fun back => here back.symm), if_neg here]
  · dsimp only
    by_cases here : id = agent.id
    · have appended : lookupBy AgentRow.id (db.agents ++ [⟨orgId, agent⟩]) (AgentRow.id ⟨orgId, agent⟩) =
          some ⟨orgId, agent⟩ := lookupBy_concat_self (lookupBy_none.mp absent)
      have key : AgentRow.id ⟨orgId, agent⟩ = agent.id := rfl
      rw [key] at appended
      rw [here, appended, absent, if_pos rfl]
    · have kept : lookupBy AgentRow.id (db.agents ++ [⟨orgId, agent⟩]) id =
          lookupBy AgentRow.id db.agents id := lookupBy_concat_ne fun back => here back.symm
      rw [kept, if_neg here]

end Tables

section Histories
variable {w : World}

theorem updated_eq_iff {before agent : Agent} (same : before.id = agent.id) :
    updated before agent = agent ↔ before.role = agent.role ∧ before.modelName = agent.modelName ∧
      before.allowedActionTypes = agent.allowedActionTypes := by
  constructor
  · intro equal
    rw [← equal]
    exact ⟨rfl, rfl, rfl⟩
  · rintro ⟨role, model, actions⟩
    unfold updated
    rw [same, role, model, actions]

/-- After a save that is not refused, loading is faithful exactly if the save was stable. -/
theorem saveAgent_faithful_iff {db : Database} {n : ℕ} {orgId : String} (consistent : Consistent w.db)
    (faithful : Faithful w) (done : saveAgent w.db (w.memory n) orgId = .ok db) :
    (∀ o id, loadedAgent db o id = note w.saved orgId (w.memory n) o id) ↔
      Stable w (.saveAgent n orgId) := by
  have after := saveAgent_consistent consistent done
  have loaded (o id : String) : loadedAgent db o id = _ :=
    (loadedAgent_eq after o id).trans (stored_saveAgent consistent done o id)
  constructor
  · intro kept row found
    obtain ⟨-, same⟩ := lookupBy_some found
    have here := kept orgId (w.memory n).id
    have noted : note w.saved orgId (w.memory n) orgId (w.memory n).id = some (w.memory n) :=
      if_pos ⟨rfl, rfl⟩
    rw [loaded, if_pos rfl, found, noted] at here
    dsimp only at here
    by_cases own : row.orgId = orgId
    · rw [if_pos own] at here
      exact ⟨own, (updated_eq_iff same).mp (Option.some.inj here)⟩
    · rw [if_neg own] at here
      cases here
  · intro stable o id
    rw [loaded]
    unfold note
    by_cases here : id = (w.memory n).id
    · rw [if_pos here]
      have before := faithful o id
      rw [loadedAgent_eq consistent, here] at before
      unfold stored at before
      split
      · rename_i row found
        obtain ⟨-, same⟩ := lookupBy_some found
        obtain ⟨own, equal⟩ := stable row found
        rw [found] at before
        dsimp only at before
        rw [(updated_eq_iff same).mpr equal]
        by_cases target : o = orgId
        · rw [if_pos (own.trans target.symm), if_pos ⟨target, here⟩]
        · have apart : row.orgId ≠ o := fun same => target (same.symm.trans own)
          rw [if_neg apart, if_neg fun both => target both.1, here]
          rw [if_neg apart] at before
          exact before
      · rename_i absent
        rw [absent] at before
        by_cases target : o = orgId
        · rw [if_pos target.symm, if_pos ⟨target, here⟩]
        · rw [if_neg fun same => target same.symm, if_neg fun both => target both.1, here]
          exact before
    · rw [if_neg here, if_neg fun both => here both.2, ← loadedAgent_eq consistent]
      exact faithful o id

/-- The tables are consistent, and loading is faithful. -/
structure Settled (w : World) : Prop where
  consistent : Consistent w.db
  faithful : Faithful w

theorem step_consistent (consistent : Consistent w.db) (op : Op) : Consistent (step w op).db := by
  cases op with
  | saveOrganisation org =>
    simp only [step]
    split
    · exact consistent
    · exact saveOrganisation_consistent consistent ‹_›
  | saveAgent n orgId =>
    simp only [step]
    split
    · exact consistent
    · exact saveAgent_consistent consistent ‹_›
  | reputation n call record => exact consistent
  | create n agent => exact consistent
  | reload n orgId agentId =>
    simp only [step]
    split
    · exact consistent
    · exact consistent

theorem stored_of_agents {db db' : Database} (same : db'.agents = db.agents) (o id : String) :
    stored db' o id = stored db o id := by
  unfold stored
  rw [same]

/-- An operation round-trips exactly if it is stable. -/
theorem roundTrips_iff (settled : Settled w) (op : Op) : RoundTrips w op ↔ Stable w op := by
  have quiet (same : (step w op).db.agents = w.db.agents) (unsaved : (step w op).saved = w.saved) :
      Faithful (step w op) := by
    intro o id
    rw [loadedAgent_eq (step_consistent settled.consistent op), stored_of_agents same, unsaved,
      ← loadedAgent_eq settled.consistent]
    exact settled.faithful o id
  cases op with
  | saveAgent n orgId =>
    cases outcome : saveAgent w.db (w.memory n) orgId with
    | error e =>
      have still : step w (.saveAgent n orgId) = w := by simp only [step, outcome]
      have absent : lookupBy AgentRow.id w.db.agents (w.memory n).id = none := by
        unfold saveAgent at outcome
        split at outcome
        · cases outcome
        · assumption
      refine iff_of_true ⟨?_, ?_⟩ fun row found => ?_
      · rw [still]
        exact settled.faithful
      · intro _ _ _ o id _
        rw [still]
      · rw [absent] at found
        cases found
    | ok db =>
      have moved : step w (.saveAgent n orgId) =
          { w with db, saved := note w.saved orgId (w.memory n) } := by simp only [step, outcome]
      have decides := saveAgent_faithful_iff settled.consistent settled.faithful outcome
      constructor
      · intro trips
        have faithful := trips.faithful
        rw [moved] at faithful
        exact decides.mp faithful
      · intro stable
        have kept := decides.mpr stable
        refine ⟨?_, ?_⟩
        · rw [moved]
          exact kept
        · rintro n' orgId' ⟨⟩ o id other
          rw [moved]
          dsimp only
          rw [kept o id, note, if_neg other]
          exact (settled.faithful o id).symm
  | saveOrganisation org =>
    refine iff_of_true ⟨quiet ?_ ?_, fun _ _ save => by cases save⟩ trivial
    · simp only [step]
      split
      · rfl
      · exact saveOrganisation_agents ‹_›
    · simp only [step]
      split
      · rfl
      · rfl
  | reputation n call record => exact iff_of_true ⟨quiet rfl rfl, fun _ _ save => by cases save⟩ trivial
  | create n agent => exact iff_of_true ⟨quiet rfl rfl, fun _ _ save => by cases save⟩ trivial
  | reload n orgId agentId =>
    refine iff_of_true ⟨quiet ?_ ?_, fun _ _ save => by cases save⟩ trivial
    · simp only [step]
      split
      · rfl
      · rfl
    · simp only [step]
      split
      · rfl
      · rfl

def start (tenants : List String) (memory : ℕ → Agent) : World :=
  ⟨.empty tenants, memory, fun _ _ => none⟩

theorem start_settled (tenants : List String) (memory : ℕ → Agent) : Settled (start tenants memory) :=
  ⟨⟨List.nodup_nil, fun _ mem => absurd mem List.not_mem_nil⟩, fun _ _ => rfl⟩

/-- For every history of saves and updates: loading answers exactly what was last saved, and a
save changes no other agent, if and only if every save is stable. -/
theorem histories_round_trip_iff (tenants : List String) (memory : ℕ → Agent) (operations : List Op) :
    Along step RoundTrips (start tenants memory) operations ↔
      Along step Stable (start tenants memory) operations :=
  along_iff (fun _ op settled => roundTrips_iff settled op)
    (fun _ op settled trips => ⟨step_consistent settled.consistent op, trips.faithful⟩) operations
    (start_settled tenants memory)

end Histories

section Sample

def sampleOrg : OrganisationRow := ⟨"org-1", "tenant-1", "", 100, .executing, ""⟩

/-- An agent is saved, suspended by the reputation engine, saved again, and loaded. -/
def suspension : List Op :=
  [.saveOrganisation sampleOrg, .saveAgent 0 "org-1", .reputation 0 failure (some freshRecord),
    .saveAgent 0 "org-1"]

def suspended : World := run step (start ["tenant-1"] fun _ => freshAgent) suspension

/-- The actions that the suspension took from the agent come back with the reload. -/
theorem suspended_agent_regains_actions :
    (suspended.saved "org-1" "agent-1").map (fun a => a.allowedActionTypes) = some [] ∧
    (loadedAgent suspended.db "org-1" "agent-1").map (fun a => a.allowedActionTypes) =
      some [.internalAnalysis, .externalApiCall] ∧
    ¬Along step RoundTrips (start ["tenant-1"] fun _ => freshAgent) suspension := by
  have saved : (suspended.saved "org-1" "agent-1").map (fun a => a.allowedActionTypes) = some [] := by
    decide +kernel
  have loaded : (loadedAgent suspended.db "org-1" "agent-1").map (fun a => a.allowedActionTypes) =
      some [.internalAnalysis, .externalApiCall] := by
    decide +kernel
  refine ⟨saved, loaded, fun trips => ?_⟩
  have faithful : Faithful suspended := trips.2.2.2.1.faithful
  rw [faithful, saved] at loaded
  cases loaded

end Sample

end AgentRepository
