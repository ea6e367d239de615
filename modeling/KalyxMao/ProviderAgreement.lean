import KalyxMao.ExactlyOnce
import KalyxMao.ProgramViews
import KalyxMao.SimulatedProvider

/-!
# The engine and its provider

The manager and the reconciler run against the simulated provider, whose records stand
apart from the ledger and the stored operations. Between any two commands each record has
one stored operation behind it, what left escrow went where the record of its operation
says, and an operation that has succeeded was carried out.
-/

namespace ProviderAgreement
open Bookkeeping PythonText Ledger SqlLedgers LedgerEquivalence Domain EffectPrograms
open EffectPrograms.Prog Consequential KeyedLists EscrowNames EscrowInvariant Reconciliation
open ManagerSpecs ProgramViews SimulatedProvider
open ConsequentialOperation (SameTerms transitionTo_ok)
open ExchangeProvider (ProviderOutcome put)

structure Joint where
  engine : World
  provider : Provider

/-- What a command takes from outside both: identifiers and the check of the token. -/
structure Draws where
  draw : Draw
  uuid : Uuid
  verdict : Bool × String

/-- The provider's `status` takes no reference. -/
def unexpectedReference : PyError :=
  ⟨.typeError, "SimulatedConsequentialProvider.status() got an unexpected keyword argument 'provider_reference'"⟩

/-- What a command hears that asks the provider nothing. -/
def silence : PyError := ⟨.runtimeError, ""⟩

section System
variable (h : Hashing)

def executionOf (p : Provider) : Cmd → Except PyError ProviderExecutionResult
  | .execute op => .ok (SimulatedProvider.execute h p op).1
  | _ => .error silence

def statusOf (p : Provider) : Cmd → Except PyError ProviderStatusResult
  | .status id key none => .ok (SimulatedProvider.status p id key)
  | .status _ _ (some _) => .error unexpectedReference
  | _ => .error silence

def providerAfter (p : Provider) : Cmd → Provider
  | .execute op => (SimulatedProvider.execute h p op).2
  | _ => p

def heard (c : Cmd) (w : Joint) (i : Draws) : Env :=
  ⟨i.draw, i.uuid, i.verdict, executionOf h w.provider c, statusOf w.provider c⟩

/-- The engine's commands on both: the provider answers, and keeps its own books. -/
def respond : Handler Cmd Resp Joint Draws := fun c w i =>
  let answer := Consequential.respond c w.engine (heard h c w i)
  (answer.1, ⟨answer.2, providerAfter h w.provider c⟩)

theorem views : Views (respond h) Consequential.respond Joint.engine (heard h) :=
  ⟨fun _ _ _ => rfl, fun _ _ _ => rfl⟩

/-- What is asked of the outside: identifiers whose digests are new. -/
def Fresh : Cmd → Joint → Draws → Prop
  | .uuid4, w, i => ∀ o ∈ w.engine.operations, h.short o.id ≠ h.short (operationId i.uuid)
  | .transfer _ _ _ _ _, w, i => ∀ r ∈ w.engine.ledger.rows, r.id ≠ i.draw.entryId
  | _, _, _ => True

instance : ∀ (c : Cmd) (w : Joint) (i : Draws), Decidable (Fresh h c w i)
  | .uuid4, w, _ => inferInstanceAs (Decidable (∀ o ∈ w.engine.operations, _ ≠ _))
  | .transfer _ _ _ _ _, w, _ => inferInstanceAs (Decidable (∀ r ∈ w.engine.ledger.rows, _ ≠ _))
  | .getByIdempotencyKey _, _, _ => isTrue trivial
  | .get _, _, _ => isTrue trivial
  | .save _, _, _ => isTrue trivial
  | .consume _, _, _ => isTrue trivial
  | .verifyToken _ _ _ _, _, _ => isTrue trivial
  | .getEntries, _, _ => isTrue trivial
  | .getBalance _, _, _ => isTrue trivial
  | .execute _, _, _ => isTrue trivial
  | .status _ _ _, _, _ => isTrue trivial

end System

/-- The states before a submission is saved. -/
def Unsent (s : OperationState) : Prop := s = .created ∨ s = .authorized ∨ s = .escrowed

instance (s : OperationState) : Decidable (Unsent s) := inferInstanceAs (Decidable (_ ∨ _))

structure IsOf (rec : ExternalProviderRecord) (o : ConsequentialOperation) : Prop where
  id : rec.operationId = o.id
  key : rec.idempotencyKey = o.idempotencyKey
  amount : rec.amount = o.amount

/-- An operation carried out is paid for, a refused one is given back. -/
def Routed (rec : ExternalProviderRecord) (target : String) : Prop :=
  rec.outcome = .success ∧ target = externalSink ∨ rec.outcome = .failure ∧ target = treasury

/-- A success carries its reference, a failure its message. -/
structure Evidenced (s : OperationState) (errorMessage providerReference : Option String) : Prop where
  reference : s = .succeeded → orElse providerReference "" ≠ ""
  message : s = .failed → orElse errorMessage "" ≠ ""

/-- A definite answer to a submission comes with what the operation's record needs. -/
structure Backed (result : ProviderExecutionResult) : Prop where
  reference : result.outcome = outcomeSuccess → orElse result.providerReference "" ≠ ""
  message : result.outcome = outcomeFailure → orElse result.errorMessage "" ≠ ""

/-- The provider's books agree with these operations and this ledger. -/
structure Agree (ops : List ConsequentialOperation) (rows : Table) (p : Provider) : Prop where
  keys : (p.providerRecords.map ExternalProviderRecord.idempotencyKey).Nodup
  behind : ∀ rec ∈ p.providerRecords, ∃ o ∈ ops, IsOf rec o
  submitted : ∀ rec ∈ p.providerRecords, 0 < p.submissionAttempts rec.idempotencyKey
  once : ∀ key, p.submissionAttempts key ≤ 1
  sent : ∀ key, 0 < p.submissionAttempts key → ∃ o ∈ ops, o.idempotencyKey = key ∧ ¬Unsent o.state
  exits : ∀ r ∈ rows, r.fromAccount = escrow →
    ∃ rec ∈ p.providerRecords, NamedFor rec.operationId r.memo ∧ Routed rec r.toAccount
  succeeded : ∀ o ∈ ops, o.state = .succeeded →
    ∃ rec ∈ p.providerRecords, IsOf rec o ∧ rec.outcome = .success
  evidence : ∀ o ∈ ops, Evidenced o.state o.errorMessage o.providerReference

def Agreed (w : Joint) : Prop := Agree w.engine.operations w.engine.ledger.rows w.provider

/-- Where an answer is definite, the provider has it in its records. -/
structure Answered (p : Provider) (op : ConsequentialOperation) (said : String) : Prop where
  success : said = outcomeSuccess → ∃ rec ∈ p.providerRecords, IsOf rec op ∧ rec.outcome = .success
  failure : said = outcomeFailure → ∃ rec ∈ p.providerRecords, IsOf rec op ∧ rec.outcome = .failure

section Books
variable {h : Hashing} {ops : List ConsequentialOperation} {rows : Table} {p : Provider}
  {op op' : ConsequentialOperation} {rec : ExternalProviderRecord}

theorem IsOf.same (own : IsOf rec op) (same : SameTerms op' op) : IsOf rec op' :=
  ⟨own.id.trans same.id.symm, own.key.trans same.idempotencyKey.symm, own.amount.trans same.amount.symm⟩

theorem unsent_before {s s' : OperationState} (legal : s' ∈ validTransitions s) (unsent : Unsent s') :
    Unsent s := by
  revert unsent legal
  cases s <;> cases s' <;> decide

theorem value_success {outcome : ProviderOutcome} (said : outcome.value = outcomeSuccess) :
    outcome = .success := by
  revert said
  cases outcome <;> decide

theorem value_failure {outcome : ProviderOutcome} (said : outcome.value = outcomeFailure) :
    outcome = .failure := by
  revert said
  cases outcome <;> decide

theorem answered_record (mem : rec ∈ p.providerRecords) (own : IsOf rec op) :
    Answered p op rec.outcome.value :=
  ⟨fun said => ⟨rec, mem, own, value_success said⟩, fun said => ⟨rec, mem, own, value_failure said⟩⟩

theorem answered_timeout (p : Provider) (op : ConsequentialOperation) :
    Answered p op ProviderOutcome.timeout.value := by
  constructor
  · intro said
    exact absurd (value_success said) (by decide)
  · intro said
    exact absurd (value_failure said) (by decide)

theorem answered_unknown (p : Provider) (op : ConsequentialOperation) :
    Answered p op ProviderOutcome.unknown.value := by
  constructor
  · intro said
    exact absurd (value_success said) (by decide)
  · intro said
    exact absurd (value_failure said) (by decide)

/-- A new submission is refused for a reason, and carried out under a reference. -/
theorem backed_new (h : Hashing) (p : Provider) (op : ConsequentialOperation) :
    Backed (executeNew h p op).1 := by
  have filled : computeReference h op ≠ "" := by
    intro empty
    have length := congrArg (fun t => t.toList.length) empty
    simp [computeReference] at length
  have named : orElse (some (computeReference h op)) "" ≠ "" := by
    rw [orElse_some filled]
    exact filled
  have apart : ProviderOutcome.timeout.value ≠ outcomeSuccess ∧
      ProviderOutcome.timeout.value ≠ outcomeFailure := by decide
  have neither : Backed (timeoutResult op) :=
    ⟨fun said => absurd said apart.1, fun said => absurd said apart.2⟩
  unfold executeNew
  split_ifs with _ _ _ reason
  · exact neither
  · exact neither
  · exact neither
  · refine ⟨fun _ => named, fun _ => ?_⟩
    dsimp only [failureResult]
    rw [orElse_some reason]
    exact reason
  · have carried : ProviderOutcome.success.value ≠ outcomeFailure := by decide
    exact ⟨fun _ => named, fun said => absurd said carried⟩

theorem evidenced_of_transition {s : OperationState} {errorMessage providerReference : Option String}
    (done : op.transitionTo s errorMessage providerReference = .ok op')
    (evidence : Evidenced s errorMessage providerReference) :
    Evidenced op'.state op'.errorMessage op'.providerReference := by
  have kept {new old : Option String} (filled : orElse new "" ≠ "") : orElse (new <|> old) "" ≠ "" := by
    cases new with
    | none => exact absurd rfl filled
    | some text => exact filled
  unfold ConsequentialOperation.transitionTo at done
  split at done
  · obtain rfl := Except.ok.inj done
    exact ⟨fun state => kept (evidence.reference state), fun state => kept (evidence.message state)⟩
  · cases done

/-- A record written over its old version, in a state that was reached from it. -/
theorem Agree.replace (agree : Agree ops rows p) (ids : (ops.map ConsequentialOperation.id).Nodup)
    (mem : op ∈ ops) (same : SameTerms op' op) (unsent : Unsent op'.state → Unsent op.state)
    (done : op'.state = .succeeded →
      ∃ rec ∈ p.providerRecords, IsOf rec op ∧ rec.outcome = .success)
    (evidence : Evidenced op'.state op'.errorMessage op'.providerReference) :
    Agree (replaceBy ConsequentialOperation.id ops op') rows p where
  keys := agree.keys
  behind := by
    intro rec hrec
    obtain ⟨o, ho, own⟩ := agree.behind rec hrec
    by_cases this : o.id = op'.id
    · obtain rfl := eq_of_key ids ho mem (this.trans same.id)
      exact ⟨op', mem_replaceBy_self mem this, own.same same⟩
    · exact ⟨o, mem_replaceBy_ne ho this, own⟩
  submitted := agree.submitted
  once := agree.once
  sent := by
    intro key asked
    obtain ⟨o, ho, own, sent⟩ := agree.sent key asked
    by_cases this : o.id = op'.id
    · obtain rfl := eq_of_key ids ho mem (this.trans same.id)
      exact ⟨op', mem_replaceBy_self mem this, same.idempotencyKey.trans own, fun still => sent (unsent still)⟩
    · exact ⟨o, mem_replaceBy_ne ho this, own, sent⟩
  exits := agree.exits
  succeeded := by
    intro o ho state
    rcases mem_replaceBy ho with rfl | ⟨old, -⟩
    · obtain ⟨rec, hrec, own, outcome⟩ := done state
      exact ⟨rec, hrec, own.same same, outcome⟩
    · exact agree.succeeded o old state
  evidence := by
    intro o ho
    rcases mem_replaceBy ho with rfl | ⟨old, -⟩
    · exact evidence
    · exact agree.evidence o old

theorem Agree.add (agree : Agree ops rows p) (created : op.state = .created) :
    Agree (ops ++ [op]) rows p where
  keys := agree.keys
  behind := by
    intro rec hrec
    obtain ⟨o, ho, own⟩ := agree.behind rec hrec
    exact ⟨o, List.mem_append_left _ ho, own⟩
  submitted := agree.submitted
  once := agree.once
  sent := by
    intro key asked
    obtain ⟨o, ho, sent⟩ := agree.sent key asked
    exact ⟨o, List.mem_append_left _ ho, sent⟩
  exits := agree.exits
  succeeded := by
    intro o ho state
    rcases List.mem_append.mp ho with old | new
    · exact agree.succeeded o old state
    · simp only [List.mem_singleton] at new
      simp [new, created] at state
  evidence := by
    intro o ho
    rcases List.mem_append.mp ho with old | new
    · exact agree.evidence o old
    · rw [List.mem_singleton.mp new, created]
      constructor
      · intro state
        cases state
      · intro state
        cases state

theorem Agree.append (agree : Agree ops rows p) {row : LedgerRow} (exit : row.fromAccount = escrow →
      ∃ rec ∈ p.providerRecords, NamedFor rec.operationId row.memo ∧ Routed rec row.toAccount) :
    Agree ops (rows ++ [row]) p where
  keys := agree.keys
  behind := agree.behind
  submitted := agree.submitted
  once := agree.once
  sent := agree.sent
  exits := by
    intro r hr source
    rcases List.mem_append.mp hr with old | new
    · exact agree.exits r old source
    · simp only [List.mem_singleton] at new
      subst new
      exact exit source
  succeeded := agree.succeeded
  evidence := agree.evidence

theorem Agree.books {p' : Provider} (agree : Agree ops rows p)
    (records : p'.providerRecords = p.providerRecords)
    (attempts : p'.submissionAttempts = p.submissionAttempts) : Agree ops rows p' := by
  constructor
  · rw [records]
    exact agree.keys
  · rw [records]
    exact agree.behind
  · rw [records, attempts]
    exact agree.submitted
  · rw [attempts]
    exact agree.once
  · rw [attempts]
    exact agree.sent
  · rw [records]
    exact agree.exits
  · rw [records]
    exact agree.succeeded
  · exact agree.evidence

/-- One more record, for an operation that was submitted and had none. -/
theorem Agree.enter (agree : Agree ops rows p) (mem : op ∈ ops) (own : IsOf rec op)
    (asked : 0 < p.submissionAttempts op.idempotencyKey)
    (absent : p.recordOf op.idempotencyKey = none) : Agree ops rows (p.enter rec) where
  keys := by
    have new := lookupBy_none.mp absent
    rw [enter_records, List.map_append, List.nodup_append]
    refine ⟨agree.keys, by simp, ?_⟩
    intro a ha b hb same
    obtain ⟨r, hr, rfl⟩ := List.mem_map.mp ha
    simp only [List.map_cons, List.map_nil, List.mem_singleton] at hb
    apply new r hr
    rw [same, hb, own.key]
  behind := by
    intro r hr
    rcases List.mem_append.mp hr with old | new
    · exact agree.behind r old
    · rw [List.mem_singleton.mp new]
      exact ⟨op, mem, own⟩
  submitted := by
    intro r hr
    rcases List.mem_append.mp hr with old | new
    · exact agree.submitted r old
    · rw [List.mem_singleton.mp new, own.key]
      exact asked
  once := agree.once
  sent := agree.sent
  exits := by
    intro r hr source
    obtain ⟨earlier, he, exit⟩ := agree.exits r hr source
    exact ⟨earlier, List.mem_append_left _ he, exit⟩
  succeeded := by
    intro o ho state
    obtain ⟨earlier, he, done⟩ := agree.succeeded o ho state
    exact ⟨earlier, List.mem_append_left _ he, done⟩
  evidence := agree.evidence

theorem Agree.attempted (agree : Agree ops rows p) (mem : op ∈ ops) (sent : ¬Unsent op.state)
    (first : p.submissionAttempts op.idempotencyKey = 0) :
    Agree ops rows (p.attempted op.idempotencyKey) where
  keys := agree.keys
  behind := agree.behind
  submitted := by
    intro rec hrec
    have before := agree.submitted rec hrec
    simp only [attempted_attempts, put]
    split_ifs <;> omega
  once := by
    intro key
    have before := agree.once key
    simp only [attempted_attempts, put]
    split_ifs <;> omega
  sent := by
    intro key asked
    by_cases own : key = op.idempotencyKey
    · exact ⟨op, mem, own.symm, sent⟩
    · simp only [attempted_attempts, put, if_neg own] at asked
      exact agree.sent key asked
  exits := agree.exits
  succeeded := agree.succeeded
  evidence := agree.evidence

/-- The one submission of an operation is answered as the provider records it. -/
theorem Agree.executed (agree : Agree ops rows p) (mem : op ∈ ops) (sent : ¬Unsent op.state)
    (first : p.submissionAttempts op.idempotencyKey = 0) :
    Agree ops rows (SimulatedProvider.execute h p op).2 ∧
      Answered (SimulatedProvider.execute h p op).2 op (SimulatedProvider.execute h p op).1.outcome ∧
      Backed (SimulatedProvider.execute h p op).1 := by
  have absent : p.recordOf op.idempotencyKey = none := by
    refine lookupBy_none.mpr fun rec hrec same => ?_
    have asked := agree.submitted rec hrec
    rw [same] at asked
    omega
  have attempted := agree.attempted mem sent first
  have asked : 0 < (p.attempted op.idempotencyKey).submissionAttempts op.idempotencyKey := by
    simp [put]
  rw [execute_new absent]
  have backed := backed_new h (p.attempted op.idempotencyKey) op
  rcases executeNew_cases h (p.attempted op.idempotencyKey) op with
    lost | ⟨outcome, answer, -, decided, told⟩
  · rw [lost] at backed ⊢
    exact ⟨attempted, answered_timeout _ op, backed⟩
  · rw [decided] at backed ⊢
    have own : IsOf (recordFor h op outcome) op := ⟨rfl, rfl, rfl⟩
    refine ⟨attempted.enter mem own asked absent, ?_, backed⟩
    rcases told with hidden | ⟨said, -⟩
    · rw [hidden]
      exact answered_timeout _ op
    · rw [said]
      have entered : recordFor h op outcome ∈
          ((p.attempted op.idempotencyKey).enter (recordFor h op outcome)).providerRecords := by
        simp
      exact answered_record entered own

/-- A record found by key or by operation is the one of the stored operation. -/
theorem Agree.status (agree : Agree ops rows p) (ids : (ops.map ConsequentialOperation.id).Nodup)
    (keys : (ops.map ConsequentialOperation.idempotencyKey).Nodup) (mem : op ∈ ops) :
    Answered p op (SimulatedProvider.status p op.id op.idempotencyKey).outcome := by
  have own {rec : ExternalProviderRecord} (found : foundRecord p op.id op.idempotencyKey = some rec) :
      rec ∈ p.providerRecords ∧ IsOf rec op := by
    unfold foundRecord at found
    split_ifs at found
    · obtain ⟨hrec, same⟩ := lookupBy_some found
      obtain ⟨o, ho, own⟩ := agree.behind rec hrec
      obtain rfl := eq_of_key keys ho mem (own.key.symm.trans same)
      exact ⟨hrec, own⟩
    · obtain ⟨hrec, same⟩ := lookupBy_some found
      obtain ⟨o, ho, own⟩ := agree.behind rec hrec
      obtain rfl := eq_of_key ids ho mem (own.id.symm.trans same)
      exact ⟨hrec, own⟩
  unfold SimulatedProvider.status
  cases found : foundRecord p op.id op.idempotencyKey with
  | none => exact answered_unknown p op
  | some rec => exact answered_record (own found).1 (own found).2

/-- The exits of an operation went where its record says. -/
theorem Agree.routed {entries : List LedgerEntry} (agree : Agree ops rows p)
    (good : Good h entries ops) (mem : op ∈ ops) (hrec : rec ∈ p.providerRecords) (own : IsOf rec op)
    {r : LedgerRow} (hr : r ∈ rows) (source : r.fromAccount = escrow)
    (named : isIn op.id r.memo = true) : Routed rec r.toAccount := by
  obtain ⟨rec', hrec', for_, routed⟩ := agree.exits r hr source
  obtain ⟨o, ho, own'⟩ := agree.behind rec' hrec'
  rw [own'.id] at for_
  have same := (isIn_named (good.shapes op mem) (good.shapes o ho) for_).mp named
  obtain rfl := good.same_of_id mem ho same
  rwa [eq_of_key agree.keys hrec hrec' (own.key.trans own'.key.symm)]

end Books

end ProviderAgreement
