import KalyxMao.ExchangeProvider
import KalyxMao.PurchaseLoop
import KalyxMao.StepRuns

/-!
# Runs of the simulated exchange

A run is a list of calls by any operations, between which rules for timeouts and
failures may be set. Balances move at most once under a key, and what is granted
is the floor of what is taken. A status answer belongs to the operation that asks
for it exactly when neither its key nor its identifier is another operation's.
-/

namespace ExchangeRuns
open PythonText PythonValues PythonConversions Domain KeyedLists StepRuns ExchangeProvider

inductive Call where
  | execute (op : ConsequentialOperation)
  | status (op : ConsequentialOperation) (providerReference : Option String)
  | setTimeoutRule (key : String) (executes fails : Bool)
  | setFailureRule (key reason : String)

section Steps
variable (x : ExchangeSettings) (h : Hashing) (t : TextRules)

def step (s : Exchange) : Call → Exchange
  | .execute op => (execute x h t s op).1
  | .status _ _ => s
  | .setTimeoutRule key executes fails => s.setTimeoutRule key executes fails
  | .setFailureRule key reason => s.setFailureRule key reason

/-- A call moves balances under a key. -/
def Moves (s : Exchange) (c : Call) (key : String) : Prop :=
  ∃ op, c = .execute op ∧ op.idempotencyKey = key ∧
    ((step x h t s c).usdg ≠ s.usdg ∨ (step x h t s c).credit ≠ s.credit)

/-- Behind a call that moves balances under a key, no later call does. -/
def AtMostOnce (key : String) : Exchange → List Call → Prop
  | _, [] => True
  | s, c :: calls =>
    (Moves x h t s c key → Along (step x h t) (fun s c => ¬Moves x h t s c key) (step x h t s c) calls)
      ∧ AtMostOnce key (step x h t s c) calls

/-- A record is an operation's own if it was written under its key and for its fingerprint. -/
def Own (rec : SimulatedExchangeRecord) (op : ConsequentialOperation) : Prop :=
  rec.idempotencyKey = op.idempotencyKey ∧ computeOperationFingerprint h t op = .ok rec.fingerprint

/-- What a status answer is read from is the operation's own record, if it is read from any. -/
def ReportsOwn (s : Exchange) (op : ConsequentialOperation) (reference : Option String) : Prop :=
  ∀ rec, s.reported op.id (some op.idempotencyKey) reference = some rec → Own h t rec op

/-- What the provider promises of one call. -/
structure Lawful (s : Exchange) (c : Call) : Prop where
  replay : ∀ op rec fingerprint, c = .execute op → s.recordOf op.idempotencyKey = some rec →
    computeOperationFingerprint h t op = .ok fingerprint → rec.fingerprint ≠ fingerprint →
    (step x h t s c).usdg = s.usdg ∧ (step x h t s c).credit = s.credit ∧
      (step x h t s c).records = s.records
  covered : ∀ org, 0 ≤ (step x h t s c).usdg org
  floor : ∀ org, (step x h t s c).credit org - s.credit org =
    (s.usdg org - (step x h t s c).usdg org) * x.fillRateBps / 10000
  own : ∀ op reference, c = .status op reference → ReportsOwn h t s op reference

/-- What the provider promises of a run. -/
structure LawfulRun (s : Exchange) (calls : List Call) : Prop where
  once : ∀ key, AtMostOnce x h t key s calls
  each : Along (step x h t) (Lawful x h t) s calls

/-- The key of the operation that asks is not recorded for another fingerprint, and while it
is not recorded, no record has the reference or the identifier that is asked for. -/
structure Unshared (s : Exchange) (op : ConsequentialOperation) (reference : Option String) :
    Prop where
  recorded : ∀ rec, op.idempotencyKey ≠ "" → s.recordOf op.idempotencyKey = some rec →
    computeOperationFingerprint h t op = .ok rec.fingerprint
  unrecorded : op.idempotencyKey ≠ "" → s.recordOf op.idempotencyKey = none →
    ∀ rec ∈ s.records, rec.operationId ≠ op.id ∧
      (reference.getD "" ≠ "" → rec.providerReference ≠ reference.getD "")
  unnamed : ∀ rec, op.idempotencyKey = "" → s.named op.id reference = some rec → Own h t rec op

/-- The condition on a call: only what a status call asks for can be another operation's. -/
def Fits (s : Exchange) (c : Call) : Prop :=
  ∀ op reference, c = .status op reference → Unshared h t s op reference

/-- A provider as it is built: balances that are there, and nothing submitted. -/
def Opening (s : Exchange) : Prop := (∀ org, 0 ≤ s.usdg org) ∧ s.records = []

/-- Balances are covered, and every record has a fingerprint. -/
structure Inv (s : Exchange) : Prop where
  covered : ∀ org, 0 ≤ s.usdg org
  printed : ∀ rec ∈ s.records, rec.fingerprint ≠ ""

end Steps

section Records
variable {s : Exchange} {rec : SimulatedExchangeRecord} {key : String}

theorem recordOf_putRecord : (s.putRecord rec).recordOf rec.idempotencyKey = some rec := by
  unfold Exchange.putRecord Exchange.recordOf
  cases found : lookupBy SimulatedExchangeRecord.idempotencyKey s.records rec.idempotencyKey with
  | some old => exact lookupBy_replaceBy_some found
  | none => exact lookupBy_concat_self (lookupBy_none.mp found)

theorem recordOf_putRecord_ne (ne : rec.idempotencyKey ≠ key) :
    (s.putRecord rec).recordOf key = s.recordOf key := by
  unfold Exchange.putRecord Exchange.recordOf
  cases lookupBy SimulatedExchangeRecord.idempotencyKey s.records rec.idempotencyKey with
  | some old => exact lookupBy_replaceBy_ne ne
  | none => exact lookupBy_concat_ne ne

/-- A key that is recorded stays recorded. -/
theorem recordOf_putRecord_isSome (there : (s.recordOf key).isSome = true) :
    ((s.putRecord rec).recordOf key).isSome = true := by
  by_cases same : rec.idempotencyKey = key
  · rw [← same, recordOf_putRecord]
    rfl
  · rw [recordOf_putRecord_ne same]
    exact there

theorem mem_putRecord {r : SimulatedExchangeRecord} (mem : r ∈ (s.putRecord rec).records) :
    r = rec ∨ r ∈ s.records := by
  unfold Exchange.putRecord at mem
  cases found : s.recordOf rec.idempotencyKey with
  | some old =>
    rw [found] at mem
    exact (mem_replaceBy mem).imp_right fun kept => kept.1
  | none =>
    rw [found] at mem
    rcases List.mem_append.mp mem with old | new
    · exact .inr old
    · exact .inl (List.mem_singleton.mp new)

theorem recordOf_some (found : s.recordOf key = some rec) : rec ∈ s.records ∧ rec.idempotencyKey = key :=
  lookupBy_some found

end Records

section Execution
variable {x : ExchangeSettings} {h : Hashing} {t : TextRules} {s : Exchange}
  {op : ConsequentialOperation} {fingerprint : String}

/-- Nothing moved and nothing is recorded. -/
structure Still (s s' : Exchange) : Prop where
  usdg : s'.usdg = s.usdg
  credit : s'.credit = s.credit
  records : s'.records = s.records

/-- One record was written, and nothing moved. -/
structure Noted (s : Exchange) (rec : SimulatedExchangeRecord) (s' : Exchange) : Prop where
  usdg : s'.usdg = s.usdg
  credit : s'.credit = s.credit
  records : s'.records = (s.putRecord rec).records

/-- The organisation paid what it has, was granted the floor, and the record was written. -/
structure Bought (x : ExchangeSettings) (s : Exchange) (op : ConsequentialOperation)
    (rec : SimulatedExchangeRecord) (s' : Exchange) : Prop where
  spent : ∃ usdgIn, 0 < usdgIn ∧ usdgIn ≤ s.usdg op.organisationId ∧
    s'.usdg = put s.usdg op.organisationId (s.usdg op.organisationId - usdgIn) ∧
    s'.credit =
      put s.credit op.organisationId (s.credit op.organisationId + computeCreditOut x usdgIn)
  records : s'.records = (s.putRecord rec).records

/-- A record that a submission writes for an operation. -/
def WrittenFor (op : ConsequentialOperation) (fingerprint : String) (rec : SimulatedExchangeRecord) :
    Prop :=
  rec.idempotencyKey = op.idempotencyKey ∧ rec.fingerprint = fingerprint

/-- A settlement writes one record; the balances move or they do not. -/
def Settles (x : ExchangeSettings) (s : Exchange) (op : ConsequentialOperation)
    (fingerprint : String) (s' : Exchange) : Prop :=
  ∃ rec, WrittenFor op fingerprint rec ∧ (Noted s rec s' ∨ Bought x s op rec s')

theorem settles_settleFailure (reason : String) :
    Settles x s op fingerprint (settleFailure h t s op reason fingerprint).1 :=
  ⟨failureRecord h t op reason fingerprint, ⟨rfl, rfl⟩, .inl ⟨rfl, rfl, rfl⟩⟩

theorem settles_settleSuccess {usdgIn minCreditOut : Int} (pos : 0 < usdgIn)
    (least : intOf t (getD op.parameters "min_credit_out" (.int 0)) = .ok minCreditOut)
    (enough : usdgIn ≤ s.usdg op.organisationId) :
    Settles x s op fingerprint
      (settleSuccess h t s op (computeCreditOut x usdgIn) usdgIn fingerprint).1 := by
  unfold settleSuccess
  rw [least]
  exact ⟨_, ⟨rfl, rfl⟩, .inr ⟨⟨usdgIn, pos, enough, rfl, rfl⟩, rfl⟩⟩

/-- Once the fingerprint is there, both numbers of the parameters are. -/
theorem numbers_of_fingerprint (printed : computeOperationFingerprint h t op = .ok fingerprint) :
    (∃ usdgIn, intOf t (getD op.parameters "usdg_in" (.int 0)) = .ok usdgIn) ∧
      ∃ minCreditOut, intOf t (getD op.parameters "min_credit_out" (.int 0)) = .ok minCreditOut := by
  unfold computeOperationFingerprint at printed
  obtain ⟨network, -, printed⟩ := bind_ok.mp printed
  obtain ⟨exchange, -, printed⟩ := bind_ok.mp printed
  obtain ⟨payment, -, printed⟩ := bind_ok.mp printed
  obtain ⟨credit, -, printed⟩ := bind_ok.mp printed
  obtain ⟨beneficiary, -, printed⟩ := bind_ok.mp printed
  obtain ⟨usdgIn, spend, printed⟩ := bind_ok.mp printed
  obtain ⟨minCreditOut, least, -⟩ := bind_ok.mp printed
  refine ⟨?_, minCreditOut, least⟩
  -- a missing amount is read as the operation's amount there and as zero here
  unfold getD at spend ⊢
  cases there : op.parameters.lookup "usdg_in" with
  | none => exact ⟨0, rfl⟩
  | some v =>
    rw [there] at spend
    exact ⟨usdgIn, spend⟩

theorem fingerprint_ne_empty (digest : ∀ text, h.sha256 text ≠ "")
    (printed : computeOperationFingerprint h t op = .ok fingerprint) : fingerprint ≠ "" := by
  unfold computeOperationFingerprint at printed
  obtain ⟨network, -, printed⟩ := bind_ok.mp printed
  obtain ⟨exchange, -, printed⟩ := bind_ok.mp printed
  obtain ⟨payment, -, printed⟩ := bind_ok.mp printed
  obtain ⟨credit, -, printed⟩ := bind_ok.mp printed
  obtain ⟨beneficiary, -, printed⟩ := bind_ok.mp printed
  obtain ⟨usdgIn, -, printed⟩ := bind_ok.mp printed
  obtain ⟨minCreditOut, -, printed⟩ := bind_ok.mp printed
  rw [← Except.ok.inj printed]
  exact digest _

theorem settles_settleChecked (printed : computeOperationFingerprint h t op = .ok fingerprint) :
    Settles x s op fingerprint (settleChecked x h t s op fingerprint).1 := by
  obtain ⟨⟨usdgIn, spend⟩, minCreditOut, least⟩ := numbers_of_fingerprint printed
  unfold settleChecked
  rw [spend, least]
  dsimp only
  split
  · exact settles_settleFailure _
  · rename_i pos
    split
    · exact settles_settleFailure _
    · rename_i enough
      split
      · exact settles_settleFailure _
      · exact settles_settleSuccess (by omega) least (by omega)

theorem settleInBackground_cases (printed : computeOperationFingerprint h t op = .ok fingerprint) :
    Still s (settleInBackground x h t s op fingerprint).1 ∨
      Settles x s op fingerprint (settleInBackground x h t s op fingerprint).1 := by
  unfold settleInBackground
  split
  · exact .inr (settles_settleChecked printed)
  · split
    · exact .inr (settles_settleFailure _)
    · exact .inl ⟨rfl, rfl, rfl⟩

theorem executeNew_cases (printed : computeOperationFingerprint h t op = .ok fingerprint) :
    Still s (executeNew x h t s op fingerprint).1 ∨
      Settles x s op fingerprint (executeNew x h t s op fingerprint).1 := by
  unfold executeNew
  split
  · exact .inl ⟨rfl, rfl, rfl⟩
  · split
    · exact settleInBackground_cases printed
    · dsimp only
      split
      · exact .inr (settles_settleFailure _)
      · exact .inr (settles_settleChecked printed)

theorem Still.of_attempted {key : String} {s' : Exchange} (still : Still (s.attempted key) s') :
    Still s s' :=
  ⟨still.usdg, still.credit, still.records⟩

theorem Settles.of_attempted {key : String} {s' : Exchange}
    (settles : Settles x (s.attempted key) op fingerprint s') : Settles x s op fingerprint s' := by
  obtain ⟨rec, written, noted | bought⟩ := settles
  · exact ⟨rec, written, .inl ⟨noted.usdg, noted.credit, noted.records⟩⟩
  · exact ⟨rec, written, .inr ⟨bought.spent, bought.records⟩⟩

/-- What a submission does: nothing, a count on the record of its own fingerprint, or a
settlement under a key that has no record. -/
theorem execute_cases (op : ConsequentialOperation) :
    Still s (execute x h t s op).1 ∨
      (∃ rec, s.recordOf op.idempotencyKey = some rec ∧
        (rec.fingerprint ≠ "" → computeOperationFingerprint h t op = .ok rec.fingerprint) ∧
        Noted s { rec with submissionCount := rec.submissionCount + 1 } (execute x h t s op).1) ∨
      (s.recordOf op.idempotencyKey = none ∧ ∃ fingerprint,
        computeOperationFingerprint h t op = .ok fingerprint ∧
          Settles x s op fingerprint (execute x h t s op).1) := by
  have same : (s.attempted op.idempotencyKey).recordOf op.idempotencyKey =
      s.recordOf op.idempotencyKey := rfl
  unfold execute
  dsimp only
  cases printed : computeOperationFingerprint h t op with
  | error e => exact .inl ⟨rfl, rfl, rfl⟩
  | ok fingerprint =>
    rw [same]
    cases found : s.recordOf op.idempotencyKey with
    | none =>
      rcases executeNew_cases (s := s.attempted op.idempotencyKey) printed with still | settles
      · exact .inl still.of_attempted
      · exact .inr (.inr ⟨rfl, fingerprint, rfl, settles.of_attempted⟩)
    | some rec =>
      dsimp only
      unfold replay
      split
      · exact .inl ⟨rfl, rfl, rfl⟩
      · rename_i matching
        refine .inr (.inl ⟨rec, rfl, ?_, ⟨rfl, rfl, rfl⟩⟩)
        intro some_
        have agreed : rec.fingerprint = fingerprint := by
          by_contra ne
          exact matching ⟨some_, ne⟩
        rw [agreed]

end Execution

section Balances
variable {x : ExchangeSettings} {h : Hashing} {t : TextRules} {s s' : Exchange}
  {op : ConsequentialOperation} {rec : SimulatedExchangeRecord} {fingerprint key : String}

theorem recordOf_congr (same : s'.records = s.records) : s'.recordOf key = s.recordOf key := by
  unfold Exchange.recordOf
  rw [same]

theorem put_self {β : Type} (f : String → β) (k : String) (value : β) : put f k value k = value :=
  if_pos rfl

theorem put_ne {β : Type} (f : String → β) {k k' : String} (ne : k' ≠ k) (value : β) :
    put f k value k' = f k' :=
  if_neg ne

theorem Bought.covered (bought : Bought x s op rec s') (before : ∀ org, 0 ≤ s.usdg org) (org : String) :
    0 ≤ s'.usdg org := by
  obtain ⟨usdgIn, pos, enough, usdg, -⟩ := bought.spent
  rw [usdg]
  by_cases same : org = op.organisationId
  · rw [same, put_self]
    omega
  · rw [put_ne _ same]
    exact before org

theorem Bought.floor (bought : Bought x s op rec s') (org : String) :
    s'.credit org - s.credit org = (s.usdg org - s'.usdg org) * x.fillRateBps / 10000 := by
  obtain ⟨usdgIn, -, -, usdg, credit⟩ := bought.spent
  rw [usdg, credit]
  by_cases same : org = op.organisationId
  · rw [same, put_self, put_self]
    have taken : s.usdg op.organisationId - (s.usdg op.organisationId - usdgIn) = usdgIn := by omega
    rw [taken]
    unfold computeCreditOut
    omega
  · rw [put_ne _ same, put_ne _ same, sub_self, sub_self, zero_mul, Int.zero_ediv]

/-- Where nothing moved, nothing was granted. -/
theorem floor_of_same (usdg : s'.usdg = s.usdg) (credit : s'.credit = s.credit) (org : String) :
    s'.credit org - s.credit org = (s.usdg org - s'.usdg org) * x.fillRateBps / 10000 := by
  rw [usdg, credit, sub_self, sub_self, zero_mul, Int.zero_ediv]

theorem Settles.covered (settles : Settles x s op fingerprint s') (before : ∀ org, 0 ≤ s.usdg org)
    (org : String) : 0 ≤ s'.usdg org := by
  obtain ⟨rec, -, noted | bought⟩ := settles
  · rw [noted.usdg]
    exact before org
  · exact bought.covered before org

theorem Settles.floor (settles : Settles x s op fingerprint s') (org : String) :
    s'.credit org - s.credit org = (s.usdg org - s'.usdg org) * x.fillRateBps / 10000 := by
  obtain ⟨rec, -, noted | bought⟩ := settles
  · exact floor_of_same noted.usdg noted.credit org
  · exact bought.floor org

theorem Settles.records (settles : Settles x s op fingerprint s') :
    ∃ rec, WrittenFor op fingerprint rec ∧ s'.records = (s.putRecord rec).records := by
  obtain ⟨rec, written, noted | bought⟩ := settles
  · exact ⟨rec, written, noted.records⟩
  · exact ⟨rec, written, bought.records⟩

end Balances

section Runs
variable {x : ExchangeSettings} {h : Hashing} {t : TextRules} {s : Exchange} {key : String}

/-- The records after a call are those before it, or one more was written. -/
theorem step_records (c : Call) : (step x h t s c).records = s.records ∨
    ∃ rec, (step x h t s c).records = (s.putRecord rec).records := by
  cases c with
  | execute op =>
    rcases execute_cases (x := x) (h := h) (t := t) (s := s) op with
      still | ⟨rec, -, -, noted⟩ | ⟨-, fingerprint, -, settles⟩
    · exact .inl still.records
    · exact .inr ⟨_, noted.records⟩
    · obtain ⟨rec, -, records⟩ := settles.records
      exact .inr ⟨rec, records⟩
  | status op reference => exact .inl rfl
  | setTimeoutRule key executes fails => exact .inl rfl
  | setFailureRule key reason => exact .inl rfl

theorem recorded_step (c : Call) (there : (s.recordOf key).isSome = true) :
    ((step x h t s c).recordOf key).isSome = true := by
  rcases step_records (x := x) (h := h) (t := t) (s := s) c with same | ⟨rec, written⟩
  · rw [recordOf_congr same]
    exact there
  · rw [recordOf_congr written]
    exact recordOf_putRecord_isSome there

/-- Balances move under a key that has no record, which has one afterwards. -/
theorem moves_fresh {c : Call} (moves : Moves x h t s c key) :
    s.recordOf key = none ∧ ((step x h t s c).recordOf key).isSome = true := by
  obtain ⟨op, rfl, rfl, moved⟩ := moves
  rcases execute_cases (x := x) (h := h) (t := t) (s := s) op with
    still | ⟨rec, -, -, noted⟩ | ⟨fresh, fingerprint, -, settles⟩
  · rcases moved with usdg | credit
    · exact absurd still.usdg usdg
    · exact absurd still.credit credit
  · rcases moved with usdg | credit
    · exact absurd noted.usdg usdg
    · exact absurd noted.credit credit
  · obtain ⟨rec, written, records⟩ := settles.records
    refine ⟨fresh, ?_⟩
    show ((execute x h t s op).1.recordOf op.idempotencyKey).isSome = true
    rw [recordOf_congr records, ← written.1, recordOf_putRecord]
    rfl

theorem recorded_still (calls : List Call) (there : (s.recordOf key).isSome = true) :
    Along (step x h t) (fun s c => ¬Moves x h t s c key) s calls := by
  induction calls generalizing s with
  | nil => exact trivial
  | cons c calls ih =>
    refine ⟨?_, ih (recorded_step c there)⟩
    intro moves
    rw [(moves_fresh moves).1] at there
    cases there

theorem moves_atMostOnce (key : String) (calls : List Call) : AtMostOnce x h t key s calls := by
  induction calls generalizing s with
  | nil => exact trivial
  | cons c calls ih => exact ⟨fun moves => recorded_still calls (moves_fresh moves).2, ih⟩

theorem step_keeps (digest : ∀ text, h.sha256 text ≠ "") (inv : Inv s) (c : Call) :
    Inv (step x h t s c) := by
  cases c with
  | execute op =>
    rcases execute_cases (x := x) (h := h) (t := t) (s := s) op with
      still | ⟨rec, found, -, noted⟩ | ⟨-, fingerprint, printed, settles⟩
    · refine ⟨fun org => ?_, fun rec mem => inv.printed rec ?_⟩
      · rw [show (step x h t s (.execute op)).usdg = s.usdg from still.usdg]
        exact inv.covered org
      · rw [← still.records]
        exact mem
    · refine ⟨fun org => ?_, fun r mem => ?_⟩
      · rw [show (step x h t s (.execute op)).usdg = s.usdg from noted.usdg]
        exact inv.covered org
      · rw [show (step x h t s (.execute op)).records = _ from noted.records] at mem
        rcases mem_putRecord mem with rfl | old
        · exact inv.printed rec (recordOf_some found).1
        · exact inv.printed r old
    · refine ⟨settles.covered inv.covered, fun r mem => ?_⟩
      obtain ⟨rec, written, records⟩ := settles.records
      rw [show (step x h t s (.execute op)).records = _ from records] at mem
      rcases mem_putRecord mem with rfl | old
      · rw [written.2]
        exact fingerprint_ne_empty digest printed
      · exact inv.printed r old
  | status op reference => exact inv
  | setTimeoutRule key executes fails => exact ⟨inv.covered, inv.printed⟩
  | setFailureRule key reason => exact ⟨inv.covered, inv.printed⟩

/-- A submission with another fingerprint than the recorded one changes nothing. -/
theorem replay_still {op : ConsequentialOperation} {rec : SimulatedExchangeRecord}
    {fingerprint : String} (found : s.recordOf op.idempotencyKey = some rec)
    (printed : computeOperationFingerprint h t op = .ok fingerprint)
    (some_ : rec.fingerprint ≠ "") (other : rec.fingerprint ≠ fingerprint) :
    Still s (execute x h t s op).1 := by
  rcases execute_cases (x := x) (h := h) (t := t) (s := s) op with
    still | ⟨rec', found', own, -⟩ | ⟨fresh, -⟩
  · exact still
  · obtain rfl := Option.some.inj (found.symm.trans found')
    exact absurd (Except.ok.inj ((own some_).symm.trans printed)) other
  · rw [fresh] at found
    cases found

theorem reported_some {op : ConsequentialOperation} {reference : Option String}
    (some_ : op.idempotencyKey ≠ "") {rec : SimulatedExchangeRecord}
    (found : s.recordOf op.idempotencyKey = some rec) :
    s.reported op.id (some op.idempotencyKey) reference = some rec := by
  unfold Exchange.reported
  rw [Option.getD_some, if_pos ⟨some_, by rw [found]; rfl⟩, found]

theorem reported_named {op : ConsequentialOperation} {reference : Option String}
    (missing : op.idempotencyKey = "" ∨ s.recordOf op.idempotencyKey = none) :
    s.reported op.id (some op.idempotencyKey) reference = s.named op.id reference := by
  unfold Exchange.reported
  rw [Option.getD_some, if_neg]
  rintro ⟨some_, there⟩
  rcases missing with empty | none_
  · exact some_ empty
  · rw [none_] at there
    cases there

/-- No record is named exactly when none has the identifier or the reference. -/
theorem named_none {id : String} {reference : Option String} : s.named id reference = none ↔
    ∀ rec ∈ s.records, rec.operationId ≠ id ∧
      (reference.getD "" ≠ "" → rec.providerReference ≠ reference.getD "") := by
  unfold Exchange.named
  dsimp only
  constructor
  · intro none_ rec mem
    split at none_
    · cases none_
    · rename_i unreferenced
      refine ⟨fun same => ?_, fun given same => ?_⟩
      · exact absurd same (by simpa using List.find?_eq_none.mp none_ rec mem)
      · rw [if_pos given] at unreferenced
        exact absurd same (by simpa using List.find?_eq_none.mp unreferenced rec mem)
  · intro unshared
    have unreferenced : (if reference.getD "" ≠ "" then
        s.records.find? fun r => r.providerReference = reference.getD "" else none) = none := by
      split
      · rename_i given
        rw [List.find?_eq_none]
        intro rec mem
        simpa using (unshared rec mem).2 given
      · rfl
    rw [unreferenced]
    dsimp only
    rw [List.find?_eq_none]
    intro rec mem
    simpa using (unshared rec mem).1

theorem named_mem {id : String} {reference : Option String} {rec : SimulatedExchangeRecord}
    (found : s.named id reference = some rec) : rec ∈ s.records := by
  unfold Exchange.named at found
  dsimp only at found
  split at found
  · rename_i first referenced
    obtain rfl := Option.some.inj found
    split at referenced
    · exact List.mem_of_find?_eq_some referenced
    · cases referenced
  · exact List.mem_of_find?_eq_some found

/-- A status answer is the operation's own exactly when nothing it asks for is shared. -/
theorem reportsOwn_iff {op : ConsequentialOperation} {reference : Option String} :
    ReportsOwn h t s op reference ↔ Unshared h t s op reference := by
  constructor
  · intro own
    refine ⟨fun rec some_ found => (own rec (reported_some some_ found)).2,
      fun some_ missing => ?_, fun rec empty named => ?_⟩
    · -- a record that is named without its key is another key's
      apply named_none.mp
      by_contra named
      obtain ⟨rec, found⟩ := Option.ne_none_iff_exists'.mp named
      have key := (own rec ((reported_named (.inr missing)).trans found)).1
      exact lookupBy_none.mp missing rec (named_mem found) key
    · exact own rec ((reported_named (.inl empty)).trans named)
  · intro unshared rec found
    by_cases empty : op.idempotencyKey = ""
    · exact unshared.unnamed rec empty ((reported_named (.inl empty)).symm.trans found)
    · cases recorded : s.recordOf op.idempotencyKey with
      | some r =>
        rw [reported_some empty recorded] at found
        obtain rfl := Option.some.inj found
        exact ⟨(recordOf_some recorded).2, unshared.recorded r empty recorded⟩
      | none =>
        rw [reported_named (.inr recorded),
          named_none.mpr (unshared.unrecorded empty recorded)] at found
        cases found

theorem step_floor (c : Call) (org : String) : (step x h t s c).credit org - s.credit org =
    (s.usdg org - (step x h t s c).usdg org) * x.fillRateBps / 10000 := by
  cases c with
  | execute op =>
    rcases execute_cases (x := x) (h := h) (t := t) (s := s) op with
      still | ⟨rec, -, -, noted⟩ | ⟨-, fingerprint, -, settles⟩
    · exact floor_of_same still.usdg still.credit org
    · exact floor_of_same noted.usdg noted.credit org
    · exact settles.floor org
  | status op reference => exact floor_of_same rfl rfl org
  | setTimeoutRule key executes fails => exact floor_of_same rfl rfl org
  | setFailureRule key reason => exact floor_of_same rfl rfl org

theorem lawful_iff (digest : ∀ text, h.sha256 text ≠ "") (inv : Inv s) (c : Call) :
    Lawful x h t s c ↔ Fits h t s c := by
  constructor
  · intro lawful op reference asked
    exact reportsOwn_iff.mp (lawful.own op reference asked)
  · intro fits
    refine ⟨?_, (step_keeps digest inv c).covered, step_floor c, fun op reference asked =>
      reportsOwn_iff.mpr (fits op reference asked)⟩
    rintro op rec fingerprint rfl found printed other
    have still := replay_still (x := x) found printed (inv.printed rec (recordOf_some found).1) other
    exact ⟨still.usdg, still.credit, still.records⟩

/-- In every run of a new provider, by any operations and under any rules, what the provider
promises holds exactly when every status call asks for a key that is not recorded for another
fingerprint and, while the key is not recorded, for an identifier that no record has. -/
theorem exchange_lawful_iff (digest : ∀ text, h.sha256 text ≠ "") (opening : Opening s)
    (calls : List Call) : LawfulRun x h t s calls ↔ Along (step x h t) (Fits h t) s calls := by
  have now : Inv s := by
    refine ⟨opening.1, ?_⟩
    rw [opening.2]
    intro rec mem
    cases mem
  have agree : Along (step x h t) (Lawful x h t) s calls ↔ Along (step x h t) (Fits h t) s calls :=
    along_iff (fun s c inv => lawful_iff digest inv c) (fun s c inv _ => step_keeps digest inv c)
      calls now
  constructor
  · intro lawful
    exact agree.mp lawful.each
  · intro fits
    exact ⟨fun key => moves_atMostOnce key calls, agree.mpr fits⟩

end Runs

section Sizing
variable {x : ExchangeSettings} {cfg : PurchaseLoop.LoopSettings} {need : Int}

/-- The sizes that fill a need are the ones from the chosen size up. -/
theorem usdgForCreditNeed_le_iff (open_ : 0 < need) (filling : 1 ≤ cfg.expectedFillRateBps)
    (rate : x.fillRateBps = cfg.expectedFillRateBps) (usdgIn : Int) :
    PurchaseLoop.usdgForCreditNeed cfg need ≤ usdgIn ↔ need ≤ computeCreditOut x usdgIn := by
  have pos : 0 < cfg.expectedFillRateBps := by omega
  have same : max 1 cfg.expectedFillRateBps = cfg.expectedFillRateBps := max_eq_right filling
  unfold PurchaseLoop.usdgForCreditNeed computeCreditOut
  rw [if_neg (Int.not_le.mpr open_), same, rate, Int.le_ediv_iff_mul_le (by decide)]
  -- the quotient is rounded up, so that it is at most what fills the need
  show (need * 10000 + cfg.expectedFillRateBps - 1) / cfg.expectedFillRateBps ≤ usdgIn ↔ _
  rw [← Int.lt_add_one_iff, Int.ediv_lt_iff_lt_mul pos, add_mul, one_mul]
  omega

/-- For every credit need and every fill ratio, the chosen amount fills the need at that ratio,
and one unit less would not. -/
theorem sized_purchase_minimal (open_ : 0 < need) (filling : 1 ≤ cfg.expectedFillRateBps)
    (rate : x.fillRateBps = cfg.expectedFillRateBps) :
    need ≤ computeCreditOut x (PurchaseLoop.usdgForCreditNeed cfg need) ∧
      computeCreditOut x (PurchaseLoop.usdgForCreditNeed cfg need - 1) < need := by
  constructor
  · exact (usdgForCreditNeed_le_iff open_ filling rate _).mp le_rfl
  · by_contra covered
    have le := (usdgForCreditNeed_le_iff open_ filling rate _).mpr (Int.not_lt.mp covered)
    omega

def defaultLoop : PurchaseLoop.LoopSettings where
  org := ⟨"org-alpha", "tenant-demo", []⟩
  hasReconciler := true
  hasLedger := true
  defaultBeneficiary := "0x1111111111111111111111111111111111111111"
  providerName := "orbio-exchange-simulated"

theorem sized_for_one_credit :
    1000000 ≤ computeCreditOut {} (PurchaseLoop.usdgForCreditNeed defaultLoop 1000000) ∧
      computeCreditOut {} (PurchaseLoop.usdgForCreditNeed defaultLoop 1000000 - 1) < 1000000 :=
  sized_purchase_minimal (by decide) (by decide) rfl

end Sizing

section Samples

def sampleHashing : Hashing := ⟨fun _ => "00", fun _ => "0.0"⟩

def sampleText : TextRules := asciiRules fun _ => "0.0"

def funded : Exchange where
  usdg := fun org => if org = "org-alpha" then 10000000 else 0
  credit := fun _ => 0
  records := []
  timeoutKeys := []
  backgroundSuccess := []
  backgroundFailure := []
  failureRules := []
  submissionAttempts := fun _ => 0

def purchaseOf (organisationId key : String) : ConsequentialOperation where
  id := "cop-loop-agent-1"
  tenantId := "tenant-demo"
  organisationId := organisationId
  proposalId := "prop-1"
  decisionId := "dec-1"
  idempotencyKey := key
  actionType := .orbioCreditPurchase
  target := "orbio://exchange/0x00"
  parameters := [("usdg_in", .int 3000000), ("min_credit_out", .int 1000000)]
  amount := 3
  providerName := "orbio-exchange-simulated"
  providerReference := none
  state := .submitted
  errorMessage := none

def alphaPurchase : ConsequentialOperation := purchaseOf "org-alpha" "org-alpha:mission:1"

def betaPurchase : ConsequentialOperation := purchaseOf "org-beta" "org-beta:mission:1"

theorem sample_digest (text : String) : sampleHashing.sha256 text ≠ "" := by
  show "00" ≠ ""
  decide

theorem funded_opening : Opening funded := by
  refine ⟨fun org => ?_, rfl⟩
  show 0 ≤ if org = "org-alpha" then (10000000 : Int) else 0
  split <;> decide

def bought : Exchange := (execute {} sampleHashing sampleText funded alphaPurchase).1

theorem bought_record : (bought.recordOf alphaPurchase.idempotencyKey).map
      (fun rec => (rec.fingerprint, rec.outcome)) = some ("00", .success) ∧
    computeOperationFingerprint sampleHashing sampleText alphaPurchase = .ok "00" ∧
    (bought.reported betaPurchase.id (some betaPurchase.idempotencyKey) none).map
      (fun rec => rec.idempotencyKey) = some alphaPurchase.idempotencyKey := by
  decide +kernel

/-- An operation that was never submitted is told that it succeeded, because another
organisation's operation has its identifier. -/
theorem status_of_another :
    ¬LawfulRun {} sampleHashing sampleText funded [.execute alphaPurchase, .status betaPurchase none] := by
  intro lawful
  have own : ReportsOwn sampleHashing sampleText bought betaPurchase none :=
    lawful.each.2.1.own betaPurchase none rfl
  obtain ⟨rec, reported, key⟩ := Option.map_eq_some_iff.mp bought_record.2.2
  have same : betaPurchase.idempotencyKey = alphaPurchase.idempotencyKey :=
    (own rec reported).1.symm.trans key
  exact absurd same (by decide)

theorem status_of_own :
    LawfulRun {} sampleHashing sampleText funded [.execute alphaPurchase, .status alphaPurchase none] := by
  apply (exchange_lawful_iff sample_digest funded_opening _).mpr
  obtain ⟨r, recorded, printed⟩ := Option.map_eq_some_iff.mp bought_record.1
  have own : computeOperationFingerprint sampleHashing sampleText alphaPurchase = .ok r.fingerprint := by
    rw [(Prod.mk.inj printed).1]
    exact bought_record.2.1
  refine ⟨?_, ?_, trivial⟩
  · rintro op reference ⟨⟩
  · rintro op reference ⟨⟩
    refine ⟨fun rec some_ found => ?_, fun some_ missing => ?_, fun rec empty => ?_⟩
    · rw [← Option.some.inj (recorded.symm.trans found)]
      exact own
    · cases recorded.symm.trans missing
    · exact absurd empty (by decide)

end Samples

end ExchangeRuns
