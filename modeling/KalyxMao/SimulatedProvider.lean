import KalyxMao.Consequential
import KalyxMao.ExchangeProvider

/-!
# The simulated settlement provider

A provider outside the engine, with one record for each idempotency key. A timeout
hides what became of a submission: it may be carried out or refused in the
background, or be lost. The first submission that leaves a record decides its key;
whatever is submitted or asked about the key from then on is answered from it.
-/

namespace SimulatedProvider
open PythonText PythonValues Domain KeyedLists
open ExchangeProvider (ProviderOutcome put)

structure ExternalProviderRecord where
  operationId : String
  idempotencyKey : String
  target : String
  amount : Nat
  outcome : ProviderOutcome
  providerReference : String
  evidenceHash : String
  submissionCount : Nat

/-- What the provider holds. A key that was never submitted counts as zero attempts. -/
structure Provider where
  providerRecords : List ExternalProviderRecord
  timeoutKeys : List String
  timeoutWithProviderSuccess : List String
  timeoutWithProviderFailure : List String
  failureRules : List (String × String)
  submissionAttempts : String → Nat

namespace Provider

/-- A provider without external state. -/
def init : Provider := ⟨[], [], [], [], [], fun _ => 0⟩

def recordOf (p : Provider) (key : String) : Option ExternalProviderRecord :=
  lookupBy ExternalProviderRecord.idempotencyKey p.providerRecords key

def setFailureRule (p : Provider) (key reason : String) : Provider :=
  { p with failureRules := (key, reason) :: p.failureRules }

def setTimeoutRule (p : Provider) (key : String) (executes fails : Bool)
    (failureReason : Option String) : Provider :=
  let p := { p with
    timeoutKeys := key :: p.timeoutKeys
    timeoutWithProviderSuccess :=
      if executes then key :: p.timeoutWithProviderSuccess else p.timeoutWithProviderSuccess
    timeoutWithProviderFailure :=
      if fails then key :: p.timeoutWithProviderFailure else p.timeoutWithProviderFailure }
  let reason := orElse failureReason ""
  if fails ∧ reason ≠ "" then p.setFailureRule key reason else p

/-- `rules.get(key) or rules.get(op_id)`, where an empty reason fails nothing. -/
def failureReason (p : Provider) (op : ConsequentialOperation) : String :=
  orElse (p.failureRules.lookup op.idempotencyKey) ((p.failureRules.lookup op.id).getD "")

def attempted (p : Provider) (key : String) : Provider :=
  { p with submissionAttempts := put p.submissionAttempts key (p.submissionAttempts key + 1) }

/-- `self._provider_records[key] = rec`, for a key that is not there. -/
def enter (p : Provider) (rec : ExternalProviderRecord) : Provider :=
  { p with providerRecords := p.providerRecords ++ [rec] }

end Provider

def providerName : String := "simulated"

/-- A rule names a key or an operation. -/
def Names (rules : List String) (op : ConsequentialOperation) : Prop :=
  op.idempotencyKey ∈ rules ∨ op.id ∈ rules

instance (rules : List String) (op : ConsequentialOperation) : Decidable (Names rules op) :=
  inferInstanceAs (Decidable (_ ∨ _))

section Answers
variable (h : Hashing) (op : ConsequentialOperation)

def computeReference : String :=
  "ext-ref-" ++ String.ofList ((h.sha256
    s!"{op.organisationId}|{op.id}|{op.idempotencyKey}|{op.amount}").toList.take 20)

def computeEvidence (ref : String) : String :=
  h.ofJson [("ref", .str ref), ("op_id", .str op.id), ("idem_key", .str op.idempotencyKey),
    ("amount", .int op.amount), ("target", .str op.target)]

def recordFor (outcome : ProviderOutcome) : ExternalProviderRecord where
  operationId := op.id
  idempotencyKey := op.idempotencyKey
  target := op.target
  amount := op.amount
  outcome := outcome
  providerReference := computeReference h op
  evidenceHash := computeEvidence h op (computeReference h op)
  submissionCount := 1

def duplicateResult (existing : ExternalProviderRecord) : ProviderExecutionResult where
  providerName := providerName
  operationId := op.id
  outcome := existing.outcome.value
  providerReference := some existing.providerReference
  rawResponse := [("status", .str existing.outcome.value),
    ("reference", .str existing.providerReference), ("duplicate_submission", .bool true),
    ("submission_count", .int existing.submissionCount)]
  errorMessage := none
  evidenceHash := some existing.evidenceHash

def timeoutMessage : String := "Simulated upstream transport timeout"

def timeoutResult : ProviderExecutionResult where
  providerName := providerName
  operationId := op.id
  outcome := ProviderOutcome.timeout.value
  providerReference := none
  rawResponse := [("error", .str timeoutMessage)]
  errorMessage := some timeoutMessage
  evidenceHash := none

def failureResult (reason : String) : ProviderExecutionResult where
  providerName := providerName
  operationId := op.id
  outcome := ProviderOutcome.failure.value
  providerReference := some (computeReference h op)
  rawResponse := [("error", .str reason), ("status", .str "REJECTED")]
  errorMessage := some reason
  evidenceHash := some (computeEvidence h op (computeReference h op))

def acceptedResult : ProviderExecutionResult where
  providerName := providerName
  operationId := op.id
  outcome := ProviderOutcome.success.value
  providerReference := some (computeReference h op)
  rawResponse := [("status", .str "ACCEPTED"), ("reference", .str (computeReference h op)),
    ("target", .str op.target), ("amount", .int op.amount)]
  errorMessage := none
  evidenceHash := some (computeEvidence h op (computeReference h op))

end Answers

/-- A submission of a key that has no record. -/
def executeNew (h : Hashing) (p : Provider) (op : ConsequentialOperation) :
    ProviderExecutionResult × Provider :=
  if Names p.timeoutKeys op then
    (timeoutResult op,
      if Names p.timeoutWithProviderSuccess op then p.enter (recordFor h op .success)
      else if Names p.timeoutWithProviderFailure op then p.enter (recordFor h op .failure)
      else p)
  else if p.failureReason op ≠ "" then
    (failureResult h op (p.failureReason op), p.enter (recordFor h op .failure))
  else (acceptedResult h op, p.enter (recordFor h op .success))

def execute (h : Hashing) (p : Provider) (op : ConsequentialOperation) :
    ProviderExecutionResult × Provider :=
  let p := p.attempted op.idempotencyKey
  match p.recordOf op.idempotencyKey with
  | some existing =>
    let existing := { existing with submissionCount := existing.submissionCount + 1 }
    (duplicateResult op existing, { p with
      providerRecords := replaceBy ExternalProviderRecord.idempotencyKey p.providerRecords existing })
  | none => executeNew h p op

/-- The record of the key, else the first one of the operation. -/
def foundRecord (p : Provider) (operationId idempotencyKey : String) :
    Option ExternalProviderRecord :=
  if idempotencyKey ≠ "" ∧ (p.recordOf idempotencyKey).isSome then p.recordOf idempotencyKey
  else lookupBy ExternalProviderRecord.operationId p.providerRecords operationId

def status (p : Provider) (operationId idempotencyKey : String) : ProviderStatusResult :=
  match foundRecord p operationId idempotencyKey with
  | none =>
    { providerName := providerName
      operationId := operationId
      outcome := ProviderOutcome.unknown.value
      providerReference := none
      rawStatus := [("error", .str "Operation unknown to external provider")]
      errorMessage := some "Operation not found in external provider records"
      evidenceHash := none }
  | some record =>
    { providerName := providerName
      operationId := operationId
      outcome := record.outcome.value
      providerReference := some record.providerReference
      rawStatus := [("status", .str record.outcome.value),
        ("reference", .str record.providerReference),
        ("submission_count", .int record.submissionCount)]
      errorMessage := none
      evidenceHash := some record.evidenceHash }

section Submissions
variable {h : Hashing} {p : Provider} {op : ConsequentialOperation}

@[simp] theorem attempted_records (p : Provider) (key : String) :
    (p.attempted key).providerRecords = p.providerRecords := rfl

@[simp] theorem attempted_recordOf (p : Provider) (key key' : String) :
    (p.attempted key).recordOf key' = p.recordOf key' := rfl

@[simp] theorem attempted_attempts (p : Provider) (key : String) :
    (p.attempted key).submissionAttempts =
      put p.submissionAttempts key (p.submissionAttempts key + 1) := rfl

@[simp] theorem enter_records (p : Provider) (rec : ExternalProviderRecord) :
    (p.enter rec).providerRecords = p.providerRecords ++ [rec] := rfl

@[simp] theorem enter_attempts (p : Provider) (rec : ExternalProviderRecord) :
    (p.enter rec).submissionAttempts = p.submissionAttempts := rfl

/-- A new key is lost in a timeout, or decided: the answer then tells the outcome or hides it. -/
theorem executeNew_cases (h : Hashing) (p : Provider) (op : ConsequentialOperation) :
    executeNew h p op = (timeoutResult op, p) ∨
      ∃ outcome answer, (outcome = .success ∨ outcome = .failure) ∧
        executeNew h p op = (answer, p.enter (recordFor h op outcome)) ∧
        (answer = timeoutResult op ∨ answer.outcome = outcome.value ∧
          answer.providerReference = some (computeReference h op) ∧
          answer.evidenceHash = some (computeEvidence h op (computeReference h op))) := by
  unfold executeNew
  split_ifs
  · exact .inr ⟨.success, _, .inl rfl, rfl, .inl rfl⟩
  · exact .inr ⟨.failure, _, .inr rfl, rfl, .inl rfl⟩
  · exact .inl rfl
  · exact .inr ⟨.failure, _, .inr rfl, rfl, .inr ⟨rfl, rfl, rfl⟩⟩
  · exact .inr ⟨.success, _, .inl rfl, rfl, .inr ⟨rfl, rfl, rfl⟩⟩

theorem execute_duplicate {existing : ExternalProviderRecord}
    (found : p.recordOf op.idempotencyKey = some existing) :
    execute h p op = (duplicateResult op { existing with submissionCount := existing.submissionCount + 1 },
      { p.attempted op.idempotencyKey with
        providerRecords := replaceBy ExternalProviderRecord.idempotencyKey p.providerRecords
          { existing with submissionCount := existing.submissionCount + 1 } }) := by
  simp [execute, found]

theorem execute_new (absent : p.recordOf op.idempotencyKey = none) :
    execute h p op = executeNew h (p.attempted op.idempotencyKey) op := by
  simp [execute, absent]

theorem execute_attempts (h : Hashing) (p : Provider) (op : ConsequentialOperation) :
    (execute h p op).2.submissionAttempts =
      put p.submissionAttempts op.idempotencyKey (p.submissionAttempts op.idempotencyKey + 1) := by
  cases found : p.recordOf op.idempotencyKey with
  | some existing => simp [execute_duplicate found]
  | none =>
    rw [execute_new found]
    rcases executeNew_cases h (p.attempted op.idempotencyKey) op with lost | ⟨outcome, answer, -, decided, -⟩
    · simp [lost]
    · simp [decided]

/-- Setting a rule leaves the books alone. -/
theorem setTimeoutRule_books (p : Provider) (key : String) (executes fails : Bool)
    (failureReason : Option String) :
    (p.setTimeoutRule key executes fails failureReason).providerRecords = p.providerRecords ∧
      (p.setTimeoutRule key executes fails failureReason).submissionAttempts = p.submissionAttempts := by
  simp only [Provider.setTimeoutRule, Provider.setFailureRule]
  split_ifs <;> exact ⟨rfl, rfl⟩

end Submissions

section Decisions
variable (h : Hashing)

inductive Request where
  | submit (op : ConsequentialOperation)
  | query (operationId idempotencyKey : String)
  | timeoutRule (key : String) (executes fails : Bool) (failureReason : Option String)
  | failureRule (key reason : String)

/-- A definite answer about a key, with its reference and evidence. -/
structure Verdict where
  key : String
  outcome : String
  providerReference : Option String
  evidenceHash : Option String

def verdictOf (key outcome : String) (reference evidence : Option String) : Option Verdict :=
  if outcome = outcomeSuccess ∨ outcome = outcomeFailure then some ⟨key, outcome, reference, evidence⟩
  else none

def handle (p : Provider) : Request → Option Verdict × Provider
  | .submit op =>
    let answer := execute h p op
    (verdictOf op.idempotencyKey answer.1.outcome answer.1.providerReference answer.1.evidenceHash,
      answer.2)
  | .query id key =>
    let answer := status p id key
    (verdictOf key answer.outcome answer.providerReference answer.evidenceHash, p)
  | .timeoutRule key executes fails reason => (none, p.setTimeoutRule key executes fails reason)
  | .failureRule key reason => (none, p.setFailureRule key reason)

/-- The definite answers to the requests, in their order. -/
def verdicts : List Request → Provider → List Verdict
  | [], _ => []
  | request :: rest, p => (handle h p request).1.toList ++ verdicts rest (handle h p request).2

/-- Operations are submitted and asked about under their own keys. -/
def Matches (keyOf : String → String) : Request → Prop
  | .submit op => op.idempotencyKey = keyOf op.id
  | .query id key => key = keyOf id
  | _ => True

/-- What the record of a key answers from now on. -/
def decided (p : Provider) (key : String) : Option Verdict :=
  (p.recordOf key).map fun rec =>
    ⟨key, rec.outcome.value, some rec.providerReference, some rec.evidenceHash⟩

variable {h} {keyOf : String → String} {p : Provider} {key : String} {v : Verdict}

theorem verdictOf_some {outcome : String} {reference evidence : Option String}
    (told : verdictOf key outcome reference evidence = some v) :
    v = ⟨key, outcome, reference, evidence⟩ ∧ (outcome = outcomeSuccess ∨ outcome = outcomeFailure) := by
  unfold verdictOf at told
  split_ifs at told with definite
  exact ⟨(Option.some.inj told).symm, definite⟩

/-- One record for each key, which is the key of its operation. -/
structure Keyed (keyOf : String → String) (p : Provider) : Prop where
  keys : (p.providerRecords.map ExternalProviderRecord.idempotencyKey).Nodup
  own : ∀ rec ∈ p.providerRecords, rec.idempotencyKey = keyOf rec.operationId

theorem decided_same {p' : Provider} (same : p'.providerRecords = p.providerRecords) :
    decided p' key = decided p key := by
  simp [decided, Provider.recordOf, same]

theorem decided_enter {rec : ExternalProviderRecord} (held : decided p key = some v) :
    decided (p.enter rec) key = some v := by
  obtain ⟨found, here, rfl⟩ := Option.map_eq_some_iff.mp held
  have later : (p.enter rec).recordOf key = some found := by
    simp only [Provider.recordOf, lookupBy, enter_records, List.find?_append] at here ⊢
    simp [here]
  simp [decided, later]

/-- A record that is replaced by one that answers the same. -/
theorem decided_replace {p' : Provider} {existing rec : ExternalProviderRecord}
    (records : p'.providerRecords =
      replaceBy ExternalProviderRecord.idempotencyKey p.providerRecords rec)
    (found : p.recordOf rec.idempotencyKey = some existing) (outcome : rec.outcome = existing.outcome)
    (reference : rec.providerReference = existing.providerReference)
    (evidence : rec.evidenceHash = existing.evidenceHash) (key : String) :
    decided p' key = decided p key := by
  by_cases own : rec.idempotencyKey = key
  · subst own
    have later : p'.recordOf rec.idempotencyKey = some rec := by
      rw [Provider.recordOf, records]
      exact lookupBy_replaceBy_some found
    simp [decided, found, later, outcome, reference, evidence]
  · have later : p'.recordOf key = p.recordOf key := by
      rw [Provider.recordOf, records]
      exact lookupBy_replaceBy_ne own
    simp [decided, later]

theorem decided_duplicate {op : ConsequentialOperation} {existing : ExternalProviderRecord}
    (found : p.recordOf op.idempotencyKey = some existing) (key : String) :
    decided (execute h p op).2 key = decided p key := by
  have same := (lookupBy_some found).2
  rw [execute_duplicate found]
  refine @decided_replace p _ existing { existing with submissionCount := existing.submissionCount + 1 }
    rfl ?_ rfl rfl rfl key
  rw [← same] at found
  exact found

/-- A decision is never revised. -/
theorem handle_decided (request : Request) (held : decided p key = some v) :
    decided (handle h p request).2 key = some v := by
  cases request with
  | submit op =>
    simp only [handle]
    cases found : p.recordOf op.idempotencyKey with
    | some existing => exact (decided_duplicate found key).trans held
    | none =>
      rw [execute_new found]
      have attempted : decided (p.attempted op.idempotencyKey) key = some v := held
      rcases executeNew_cases h (p.attempted op.idempotencyKey) op with lost | ⟨outcome, answer, -, entered, -⟩
      · rw [lost]
        exact attempted
      · rw [entered]
        exact decided_enter attempted
  | query id key => exact held
  | timeoutRule key executes fails reason =>
    have books := (setTimeoutRule_books p key executes fails reason).1
    exact (decided_same books).trans held
  | failureRule key reason => exact held

theorem timeout_indefinite (op : ConsequentialOperation) :
    ¬((timeoutResult op).outcome = outcomeSuccess ∨ (timeoutResult op).outcome = outcomeFailure) := by
  have told : (timeoutResult op).outcome = outcomeTimeout := rfl
  rw [told]
  decide

/-- Every definite answer is the decision that then stands. -/
theorem handle_told (keyed : Keyed keyOf p) (request : Request) (matched : Matches keyOf request)
    (told : (handle h p request).1 = some v) : decided (handle h p request).2 v.key = some v := by
  cases request with
  | submit op =>
    obtain ⟨rfl, definite⟩ := verdictOf_some told
    simp only [handle]
    cases found : p.recordOf op.idempotencyKey with
    | some existing =>
      rw [decided_duplicate found, execute_duplicate found]
      simp [decided, found, duplicateResult]
    | none =>
      rw [execute_new found] at definite ⊢
      rcases executeNew_cases h (p.attempted op.idempotencyKey) op with
        lost | ⟨outcome, answer, -, entered, hidden | ⟨said, reference, evidence⟩⟩
      · rw [lost] at definite
        exact absurd definite (timeout_indefinite op)
      · rw [entered, hidden] at definite
        exact absurd definite (timeout_indefinite op)
      · have new := lookupBy_none.mp found
        have here : ((p.attempted op.idempotencyKey).enter (recordFor h op outcome)).recordOf
            op.idempotencyKey = some (recordFor h op outcome) :=
          lookupBy_concat_self (a := recordFor h op outcome) new
        rw [entered]
        simp only [decided, here, Option.map_some, said, reference, evidence]
        rfl
  | query id key =>
    obtain ⟨rfl, definite⟩ := verdictOf_some told
    simp only [handle, status] at definite ⊢
    cases found : foundRecord p id key with
    | none =>
      simp only [found] at definite
      exact absurd definite (by decide)
    | some rec =>
      have here : p.recordOf key = some rec := by
        unfold foundRecord at found
        split_ifs at found with held
        · exact found
        · obtain ⟨mem, same⟩ := lookupBy_some found
          have its := keyed.own rec mem
          rw [same, ← matched] at its
          rw [← its]
          exact lookupBy_of_mem keyed.keys mem
      simp [decided, here]
  | timeoutRule key executes fails reason => cases told
  | failureRule key reason => cases told

theorem Keyed.books {p' : Provider} (keyed : Keyed keyOf p)
    (records : p'.providerRecords = p.providerRecords) : Keyed keyOf p' := by
  constructor
  · rw [records]
    exact keyed.keys
  · rw [records]
    exact keyed.own

theorem Keyed.enter (keyed : Keyed keyOf p) {rec : ExternalProviderRecord}
    (absent : p.recordOf rec.idempotencyKey = none) (own : rec.idempotencyKey = keyOf rec.operationId) :
    Keyed keyOf (p.enter rec) := by
  have new := lookupBy_none.mp absent
  constructor
  · rw [enter_records, List.map_append, List.nodup_append]
    refine ⟨keyed.keys, by simp, ?_⟩
    intro a ha b hb same
    obtain ⟨r, hr, rfl⟩ := List.mem_map.mp ha
    simp only [List.map_cons, List.map_nil, List.mem_singleton] at hb
    exact new r hr (same.trans hb)
  · intro r hr
    rcases List.mem_append.mp hr with old | added
    · exact keyed.own r old
    · simp only [List.mem_singleton] at added
      rw [added]
      exact own

theorem handle_keyed (keyed : Keyed keyOf p) (request : Request) (matched : Matches keyOf request) :
    Keyed keyOf (handle h p request).2 := by
  cases request with
  | submit op =>
    simp only [handle]
    cases found : p.recordOf op.idempotencyKey with
    | some existing =>
      obtain ⟨mem, same⟩ := lookupBy_some found
      rw [execute_duplicate found]
      constructor
      · dsimp only
        rw [map_key_replaceBy]
        exact keyed.keys
      · intro r hr
        rcases mem_replaceBy hr with rfl | ⟨old, -⟩
        · exact keyed.own existing mem
        · exact keyed.own r old
    | none =>
      rw [execute_new found]
      have attempted : Keyed keyOf (p.attempted op.idempotencyKey) := keyed.books rfl
      rcases executeNew_cases h (p.attempted op.idempotencyKey) op with lost | ⟨outcome, answer, -, entered, -⟩
      · rw [lost]
        exact attempted
      · rw [entered]
        exact attempted.enter found matched
  | query id key => exact keyed
  | timeoutRule key executes fails reason =>
    exact keyed.books (setTimeoutRule_books p key executes fails reason).1
  | failureRule key reason => exact keyed.books rfl

/-- Once a key is decided, every definite answer about it repeats the decision. -/
theorem verdicts_decided (requests : List Request) (keyed : Keyed keyOf p)
    (matched : ∀ request ∈ requests, Matches keyOf request) {key : String} {v : Verdict}
    (held : decided p key = some v) {v' : Verdict} (told : v' ∈ verdicts h requests p)
    (same : v'.key = key) : v' = v := by
  induction requests generalizing p with
  | nil => cases told
  | cons request rest ih =>
    have own := matched request List.mem_cons_self
    have later := handle_decided (h := h) request held
    rcases List.mem_append.mp told with first | after
    · have here := handle_told keyed request own (Option.mem_toList.mp first)
      rw [same, later] at here
      exact (Option.some.inj here).symm
    · exact ih (handle_keyed keyed request own)
        (fun r hr => matched r (List.mem_cons_of_mem request hr)) later after

/-- Over any submissions, queries and rules, any two definite answers about a key are the same:
outcome, reference and evidence. -/
theorem definite_answers_agree (h : Hashing) (keyOf : String → String) (requests : List Request)
    (matched : ∀ request ∈ requests, Matches keyOf request) :
    (verdicts h requests .init).Pairwise fun v v' => v.key = v'.key → v = v' := by
  have start : Keyed keyOf .init := ⟨List.nodup_nil, by simp [Provider.init]⟩
  generalize Provider.init = p at start
  induction requests generalizing p with
  | nil => exact List.Pairwise.nil
  | cons request rest ih =>
    have own := matched request List.mem_cons_self
    have others : ∀ r ∈ rest, Matches keyOf r := fun r hr => matched r (List.mem_cons_of_mem request hr)
    have keyed := handle_keyed (h := h) start request own
    rw [verdicts, List.pairwise_append]
    refine ⟨?_, ih others _ keyed, ?_⟩
    · cases (handle h p request).1 <;> simp
    · intro v first v' after same
      have here := handle_told start request own (Option.mem_toList.mp first)
      exact (verdicts_decided rest keyed others here after same.symm).symm

def sampleOperation : ConsequentialOperation where
  id := "cop-1"
  tenantId := "tenant-1"
  organisationId := "org-1"
  proposalId := "p1"
  decisionId := "d1"
  idempotencyKey := "org-1:p1"
  actionType := .externalApiCall
  target := "https://example.org"
  parameters := []
  amount := 50
  providerName := providerName
  providerReference := none
  state := .submitted
  errorMessage := none

/-- Carried out behind a timeout; a rule that comes later does not undo it. -/
def sampleRequests : List Request :=
  [.timeoutRule "org-1:p1" true false none, .submit sampleOperation, .query "cop-1" "org-1:p1",
    .failureRule "org-1:p1" "declined", .submit sampleOperation]

theorem sample_verdicts :
    ((verdicts ⟨id, fun _ => ""⟩ sampleRequests .init).Pairwise fun v v' => v.key = v'.key → v = v') ∧
      (verdicts ⟨id, fun _ => ""⟩ sampleRequests .init).map Verdict.outcome = ["SUCCESS", "SUCCESS"] := by
  constructor
  · refine definite_answers_agree _ (fun _ => "org-1:p1") _ ?_
    simp [sampleRequests, Matches, sampleOperation]
  · decide +kernel

end Decisions

end SimulatedProvider
