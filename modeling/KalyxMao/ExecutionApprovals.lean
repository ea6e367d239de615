import KalyxMao.Connections
import KalyxMao.QuorumApprovals

/-!
# Approvals of a single execution

An approval is signed over its fields joined by colons and stored unconsumed.
Whoever presents it has its fields compared with the execution at hand, and then
takes it by an update that succeeds on an unconsumed row only. Callers may share
a connection to the database or have their own.
-/

namespace ExecutionApprovals
open PythonText PythonValues EffectPrograms EffectPrograms.Prog ProgramPools Connections
open QuorumApprovals (QuorumRules fixedFour fixedFour_colon)
open TokenBinding (compareDigest compareDigest_true)

section JoinedTexts
variable {α : Type} [DecidableEq α] {x : α}

theorem count_intercalate (y : List α) (ys : List (List α)) :
    ([x].intercalate (y :: ys)).count x = ys.length + ((y :: ys).map (List.count x)).sum := by
  induction ys generalizing y with
  | nil => simp
  | cons z ys ih =>
    rw [List.intercalate_cons_cons, List.append_assoc, List.count_append, List.count_append, ih,
      List.count_singleton_self]
    simp only [List.length_cons, List.map_cons, List.sum_cons]
    omega

/-- As many fields, of which those on one side hold no separator, are joined to one text in one way. -/
theorem intercalate_inj {ys zs : List (List α)} (lengths : ys.length = zs.length)
    (plain : ∀ y ∈ ys, x ∉ y) (same : [x].intercalate ys = [x].intercalate zs) : ys = zs := by
  have plain' : ∀ z ∈ zs, x ∉ z := by
    cases ys with
    | nil =>
      rw [List.length_eq_zero_iff.mp lengths.symm]
      exact fun z mem => nomatch mem
    | cons y ys =>
      cases zs with
      | nil => cases lengths
      | cons z zs =>
        have counts := congrArg (List.count x) same
        have none : ((y :: ys).map (List.count x)).sum = 0 := by
          refine List.sum_eq_zero_iff_forall_eq_nat.mpr fun n mem => ?_
          obtain ⟨f, field, rfl⟩ := List.mem_map.mp mem
          exact List.count_eq_zero.mpr (plain f field)
        rw [count_intercalate, count_intercalate, none] at counts
        have none' : ((z :: zs).map (List.count x)).sum = 0 := by
          simp only [List.length_cons] at lengths
          omega
        intro f field
        refine List.count_eq_zero.mp ?_
        exact List.sum_eq_zero_iff_forall_eq_nat.mp none' _ (List.mem_map_of_mem field)
  induction ys generalizing zs with
  | nil => exact (List.length_eq_zero_iff.mp lengths.symm).symm
  | cons y ys ih =>
    cases zs with
    | nil => cases lengths
    | cons z zs =>
      have rest : ys.length = zs.length := Nat.succ.inj lengths
      cases ys with
      | nil =>
        obtain rfl := List.length_eq_zero_iff.mp rest.symm
        rw [List.intercalate_singleton, List.intercalate_singleton] at same
        rw [same]
      | cons y' ys =>
        cases zs with
        | nil => cases rest
        | cons z' zs =>
          rw [List.intercalate_cons_cons, List.intercalate_cons_cons, List.append_assoc,
            List.append_assoc] at same
          obtain ⟨rfl, tail⟩ := append_cons_inj_first (plain y List.mem_cons_self)
            (plain' z List.mem_cons_self) same
          rw [ih rest (fun f field => plain f (List.mem_cons_of_mem _ field)) tail
            (fun f field => plain' f (List.mem_cons_of_mem _ field))]

end JoinedTexts

section Approvals
variable (r : QuorumRules) (secretKey : String)

structure ExecutionApproval where
  approvalId : String
  tenantId : String
  organisationId : String
  principalId : String
  authorityId : String
  intentHash : String
  policyDecisionId : String
  policyDecisionHash : String
  issuedAt : PyFloat
  expiresAt : PyFloat
  signature : String

namespace ExecutionApproval

/-- The fields the signature covers, in their order. -/
def fields (a : ExecutionApproval) : List String :=
  [a.approvalId, a.tenantId, a.organisationId, a.principalId, a.authorityId, a.intentHash,
    a.policyDecisionId, a.policyDecisionHash, fixedFour a.issuedAt, fixedFour a.expiresAt]

def canonicalString (a : ExecutionApproval) : String := ":".intercalate a.fields

end ExecutionApproval

/-- A policy decision as a text, or as the JSON value it is dumped to. -/
inductive DecisionSource where
  | text (s : String)
  | document (v : PyValue)

def decisionHash : DecisionSource → String
  | .text s => r.sha256 s
  | .document v => r.sha256 (canonicalJson r.reprFloat v)

/-- A call of `issue`, with the clock it reads and the `uuid4().hex` it draws. -/
structure IssueCall where
  tenantId : String
  organisationId : String
  principalId : String
  authorityId : String
  intentHash : String
  policyDecisionId : String
  policyDecision : DecisionSource
  ttlSeconds : PyFloat
  now : PyFloat
  uuidHex : String

def IssueCall.unsigned (c : IssueCall) : ExecutionApproval where
  approvalId := "exec-appr-" ++ String.ofList (c.uuidHex.toList.take 16)
  tenantId := c.tenantId
  organisationId := c.organisationId
  principalId := c.principalId
  authorityId := c.authorityId
  intentHash := c.intentHash
  policyDecisionId := c.policyDecisionId
  policyDecisionHash := decisionHash r c.policyDecision
  issuedAt := c.now
  expiresAt := r.add c.now c.ttlSeconds
  signature := ""

def IssueCall.approval (c : IssueCall) : ExecutionApproval :=
  { c.unsigned r with signature := r.hmac secretKey (c.unsigned r).canonicalString }

/-- A call of `verify_and_consume`. -/
structure VerifyCall where
  approval : ExecutionApproval
  tenantId : String
  organisationId : String
  principalId : String
  authorityId : String
  intentHash : String
  policyDecisionId : String
  policyDecision : DecisionSource
  now : PyFloat

/-- What speaks against an approval before the table is asked. -/
def objection (v : VerifyCall) : Except PyError (Option String) := do
  let a := v.approval
  if a.tenantId ≠ v.tenantId ∨ a.organisationId ≠ v.organisationId then
    return some "approval scope mismatch"
  if a.principalId ≠ v.principalId then
    return some "approval principal mismatch"
  if a.authorityId ≠ v.authorityId then
    return some "approval execution authority mismatch"
  if a.intentHash ≠ v.intentHash then
    return some "approval intent hash mismatch"
  if a.policyDecisionId ≠ v.policyDecisionId then
    return some "approval policy decision mismatch"
  if a.expiresAt.lt v.now then
    return some "approval expired"
  if a.policyDecisionHash ≠ decisionHash r v.policyDecision then
    return some "approval policy decision hash mismatch"
  if !(← compareDigest a.signature (r.hmac secretKey a.canonicalString)) then
    return some "approval signature invalid"
  return none

end Approvals

section Statements

structure Row where
  approval : ExecutionApproval
  consumed : Bool

abbrev Table := AList fun _ : String => Row

inductive Cmd where
  | insertApproval (conn : Nat) (a : ExecutionApproval)
  | selectConsumed (conn : Nat) (approvalId : String)
  | markConsumed (conn : Nat) (approvalId : String)
  | commit (conn : Nat)
  | rollback (conn : Nat)

abbrev Resp : Cmd → Type
  | .insertApproval _ _ => Except PyError Unit
  | .selectConsumed _ _ => Except PyError (Option Bool)
  | .markConsumed _ _ => Except PyError Nat
  | .commit _ => Except PyError Unit
  | .rollback _ => Unit

abbrev Action (α : Type) := Prog Cmd Resp PyError α

def insertRow (a : ExecutionApproval) (t : Table) : Except PyError (Unit × Table) :=
  if a.issuedAt = .nan ∨ a.expiresAt = .nan then
    .error ⟨.integrityError, "NOT NULL constraint failed"⟩
  else if (t.lookup a.approvalId).isSome then
    .error ⟨.integrityError, "UNIQUE constraint failed: execution_approvals.approval_id"⟩
  else .ok ((), t.insert a.approvalId ⟨a, false⟩)

/-- `UPDATE … SET consumed = 1 WHERE approval_id = ? AND consumed = 0`, and its `rowcount`. -/
def consumeRow (approvalId : String) (t : Table) : Except PyError (Nat × Table) :=
  match t.lookup approvalId with
  | some ⟨a, false⟩ => .ok (1, t.insert approvalId ⟨a, true⟩)
  | _ => .ok (0, t)

def databaseLocked : PyError := ⟨.otherException, "database is locked"⟩

/-- A statement may fail by itself, for instance on a foreign key; a commit that fails rolls
the transaction back. -/
def respond : Handler Cmd Resp (Store Table) (Option PyError)
  | .insertApproval conn a, s, failure =>
    match failure with
    | some e => (.error e, s)
    | none => s.write conn databaseLocked (insertRow a)
  | .selectConsumed conn approvalId, s, failure =>
    match failure with
    | some e => (.error e, s)
    | none => (.ok (((s.view conn).lookup approvalId).map (·.consumed)), s)
  | .markConsumed conn approvalId, s, failure =>
    match failure with
    | some e => (.error e, s)
    | none => s.write conn databaseLocked (consumeRow approvalId)
  | .commit conn, s, failure =>
    match failure with
    | some e => (.error e, s.rollback conn)
    | none => (.ok (), s.commit conn)
  | .rollback conn, s, _ => ((), s.rollback conn)

end Statements

section Programs
variable (r : QuorumRules) (secretKey : String) (conn : Nat)

inductive Answer where
  | issued (a : ExecutionApproval)
  | verified (ok : Bool) (reason : Option String)

/-- The end of a `with` block on the connection. -/
def leave (conn : Nat) : Action Unit := do
  ofExcept (← perform (Cmd.commit conn))

/-- The end of a `with` block left by an exception. -/
def leaveRaising (conn : Nat) {α : Type} (e : PyError) : Action α := do
  let _ ← perform (Cmd.rollback conn)
  .raise e

abbrev insertApproval (a : ExecutionApproval) : Action (Except PyError Unit) :=
  perform (Cmd.insertApproval conn a)

abbrev markConsumed (approvalId : String) : Action (Except PyError Nat) :=
  perform (Cmd.markConsumed conn approvalId)

def issue (c : IssueCall) : Action Answer := do
  if c.ttlSeconds.lt (.finite 0) ∨ c.ttlSeconds = .finite 0 then
    .raise ⟨.valueError, "ttl_seconds must be positive"⟩
  else
    match ← insertApproval conn (c.approval r secretKey) with
    | .error e => leaveRaising conn e
    | .ok () =>
      leave conn
      return .issued (c.approval r secretKey)

def verifyAndConsume (v : VerifyCall) : Action Answer := do
  match ← ofExcept (objection r secretKey v) with
  | some reason => return .verified false (some reason)
  | none =>
    match ← ofExcept (← perform (Cmd.selectConsumed conn v.approval.approvalId)) with
    | none => return .verified false (some "approval is not durable")
    | some true => return .verified false (some "approval already consumed")
    | some false =>
      match ← markConsumed conn v.approval.approvalId with
      | .error e => leaveRaising conn e
      | .ok rowcount =>
        leave conn
        if rowcount ≠ 1 then return .verified false (some "approval replay detected")
        return .verified true none

inductive Call where
  | issue (c : IssueCall)
  | verify (v : VerifyCall)

def Call.program : Call → Action Answer
  | .issue c => ExecutionApprovals.issue r secretKey conn c
  | .verify v => verifyAndConsume r secretKey conn v

end Programs

section Holding

/-- What a caller has of a row: nothing, an update not yet committed by it, or the row for good. -/
inductive Hold where
  | nothing
  | taken (approvalId : String)
  | kept (approvalId : String)

structure Mark where
  conn : Nat
  call : Call
  hold : Hold

def Mark.holds (g : Mark) (hold : Hold) : Mark := { g with hold }

variable (r : QuorumRules) (secretKey : String)

def consuming : Protocol Cmd Resp Mark where
  allowed g c :=
    match c with
    | .insertApproval conn _ => conn = g.conn
    | .selectConsumed conn _ => conn = g.conn
    | .markConsumed conn approvalId => conn = g.conn ∧ g.hold = .nothing ∧
        ∃ v, g.call = .verify v ∧ approvalId = v.approval.approvalId ∧
          objection r secretKey v = .ok none
    | .commit conn => conn = g.conn
    | .rollback conn => conn = g.conn ∧ g.hold = .nothing
  after g c answer :=
    match c, answer with
    | .markConsumed _ approvalId, .ok rowcount =>
      if rowcount = 1 then g.holds (.taken approvalId) else g
    | .commit _, .ok _ =>
      match g.hold with
      | .taken approvalId => g.holds (.kept approvalId)
      | _ => g
    | .commit _, .error _ =>
      match g.hold with
      | .taken _ => g.holds .nothing
      | _ => g
    | _, _ => g

abbrev Callers := Pool Cmd Resp PyError Mark Answer

/-- Calls, each on a connection. -/
def callers (calls : List (Nat × Call)) : Callers :=
  calls.map fun c => ⟨⟨c.1, c.2, .nothing⟩, c.2.program r secretKey c.1⟩

end Holding

section Property
variable (r : QuorumRules) (secretKey : String)

def Succeeds (pool : Callers) (n : Nat) (v : VerifyCall) : Prop :=
  ∃ g reason, pool[n]? = some ⟨g, .ret (.verified true reason)⟩ ∧ g.call = .verify v

def Issued (pool : Callers) (c : IssueCall) : Prop :=
  ∃ (n : Nat) (g : Mark), pool[n]? = some ⟨g, .ret (.issued (c.approval r secretKey))⟩ ∧
    g.call = .issue c

/-- An approval issued for exactly what it is presented for, and not expired. -/
structure IssuedFor (c : IssueCall) (v : VerifyCall) : Prop where
  tenantId : c.tenantId = v.tenantId
  organisationId : c.organisationId = v.organisationId
  principalId : c.principalId = v.principalId
  authorityId : c.authorityId = v.authorityId
  intentHash : c.intentHash = v.intentHash
  policyDecisionId : c.policyDecisionId = v.policyDecisionId
  policyDecision : c.policyDecision = v.policyDecision
  unexpired : (c.approval r secretKey).expiresAt.lt v.now = false

structure ApprovalsSound (pool : Callers) : Prop where
  once : ∀ m n v v', Succeeds pool m v → Succeeds pool n v' →
    v.approval.approvalId = v'.approval.approvalId → m = n
  bound : ∀ n v, Succeeds pool n v → ∃ c, Issued r secretKey pool c ∧ IssuedFor r secretKey c v

def isConsumed (approvalId : String) (t : Table) : Prop :=
  ((t.lookup approvalId).map (·.consumed)) = some true

/-- The approval presented is one issued under the same signed text: its fields stand for the
same fields, its expiry for the same expiry, its digest for the same decision. -/
structure Faithful (c : IssueCall) (v : VerifyCall) : Prop where
  terms : (c.unsigned r).canonicalString = v.approval.canonicalString →
    c.tenantId = v.approval.tenantId ∧ c.organisationId = v.approval.organisationId ∧
    c.principalId = v.approval.principalId ∧ c.authorityId = v.approval.authorityId ∧
    c.intentHash = v.approval.intentHash ∧ c.policyDecisionId = v.approval.policyDecisionId ∧
    decisionHash r c.policyDecision = v.approval.policyDecisionHash
  expiry : (c.unsigned r).canonicalString = v.approval.canonicalString →
    v.approval.expiresAt.lt v.now = false → (c.unsigned r).expiresAt.lt v.now = false
  decision : (c.unsigned r).canonicalString = v.approval.canonicalString →
    decisionHash r c.policyDecision = decisionHash r v.policyDecision →
    c.policyDecision = v.policyDecision

/-- No other caller on the connection has taken an approval without having it committed. -/
def KeepsTaken (gs : List Mark) (s : Store Table) (n conn : Nat) : Prop :=
  ∀ m h approvalId, m ≠ n → gs[m]? = some h → h.conn = conn → h.hold = .taken approvalId →
    isConsumed approvalId s.committed

/-- The condition on a command. An approval that is taken is presented as it was issued, and no
rollback undoes what another caller on the connection has taken. -/
def Meets (gs : List Mark) (s : Store Table) (n : Nat) (g : Mark) (failure : Option PyError) :
    Cmd → Prop
  | .markConsumed conn approvalId =>
    failure = none → ∀ a, (s.view conn).lookup approvalId = some ⟨a, false⟩ →
      ∀ v, g.call = .verify v → ∀ h ∈ gs, ∀ c, h.call = .issue c → Faithful r c v
  | .rollback conn => KeepsTaken gs s n conn
  | .commit conn => failure ≠ none → KeepsTaken gs s n conn
  | _ => True

def MeetsTurn (n : Nat) (failure : Option PyError) (pool : Callers) (s : Store Table) : Prop :=
  match pool[n]? with
  | some ⟨g, .call c _⟩ => Meets r (marks pool) s n g failure c
  | _ => True

def MeetsRun : List (Nat × Option PyError) → Callers → Store Table → Prop
  | [], _, _ => True
  | (n, failure) :: rest, pool, s => MeetsTurn r n failure pool s ∧
      MeetsRun rest (turn respond (consuming r secretKey) n failure pool s).1
        (turn respond (consuming r secretKey) n failure pool s).2

def Store.empty : Store Table := ⟨∅, none⟩

end Property

section Binding
variable {r : QuorumRules}

/-- Where no field issued holds a colon, the fields presented are the fields issued. -/
theorem fields_of_plain {c : IssueCall} {v : VerifyCall}
    (plain : ∀ field ∈ (c.unsigned r).fields, ':' ∉ field.toList)
    (same : (c.unsigned r).canonicalString = v.approval.canonicalString) :
    (c.unsigned r).fields = v.approval.fields := by
  have texts := congrArg String.toList same
  rw [ExecutionApproval.canonicalString, ExecutionApproval.canonicalString,
    String.toList_intercalate, String.toList_intercalate] at texts
  refine List.map_injective_iff.mpr (fun _ _ => String.toList_inj.mp) (intercalate_inj ?_ ?_ texts)
  · rfl
  · intro f mem
    obtain ⟨field, here, rfl⟩ := List.mem_map.mp mem
    exact plain field here

end Binding

section Discipline
variable {r : QuorumRules} {secretKey : String} {conn : Nat}

/-- What a caller has that returns an approval or a success. -/
def Earned (r : QuorumRules) (secretKey : String) (answer : Answer) (g : Mark) : Prop :=
  match answer with
  | .issued a => ∃ c, g.call = .issue c ∧ a = c.approval r secretKey
  | .verified true _ => ∃ v, g.call = .verify v ∧ g.hold = .kept v.approval.approvalId ∧
      objection r secretKey v = .ok none
  | .verified false _ => True

theorem follows_leaveRaising {g : Mark} {Q : Answer → Mark → Prop} {e : PyError} (here : g.conn = conn)
    (idle : g.hold = .nothing) :
    Follows (consuming r secretKey) Q (leaveRaising conn e) g :=
  Follows.perform ⟨here.symm, idle⟩ fun _ => trivial

theorem follows_issue (c : IssueCall) :
    Follows (consuming r secretKey) (Earned r secretKey) (issue r secretKey conn c)
      ⟨conn, .issue c, .nothing⟩ := by
  rw [issue]
  split
  · trivial
  · refine Follows.perform rfl ?_
    rintro (e | ⟨⟨⟩⟩)
    · exact follows_leaveRaising rfl rfl
    · refine Follows.bind (Q := fun _ g => g = ⟨conn, .issue c, .nothing⟩) (Follows.perform rfl ?_) ?_
      · rintro (e | ⟨⟨⟩⟩)
        · trivial
        · exact rfl
      · rintro _ _ rfl
        exact ⟨c, rfl, rfl⟩

theorem follows_verifyAndConsume (v : VerifyCall) :
    Follows (consuming r secretKey) (Earned r secretKey) (verifyAndConsume r secretKey conn v)
      ⟨conn, .verify v, .nothing⟩ := by
  rw [verifyAndConsume]
  refine Follows.bind (Q := fun reason g => g = ⟨conn, .verify v, .nothing⟩ ∧
    objection r secretKey v = .ok reason) (Follows.ofExcept fun reason found => ⟨rfl, found⟩) ?_
  rintro reason _ ⟨rfl, passed⟩
  cases reason with
  | some reason => trivial
  | none =>
    refine Follows.perform rfl fun selected => ?_
    refine Follows.bind (Q := fun _ g => g = ⟨conn, .verify v, .nothing⟩)
      (Follows.ofExcept fun _ _ => rfl) ?_
    rintro (_ | _ | _) _ rfl
    · trivial
    · refine Follows.perform ⟨rfl, rfl, v, rfl, rfl, passed⟩ ?_
      rintro (e | rowcount)
      · exact follows_leaveRaising rfl rfl
      · dsimp only
        by_cases taken : rowcount = 1
        · subst taken
          refine Follows.bind (Q := fun _ g => g = ⟨conn, .verify v, .kept v.approval.approvalId⟩)
            (Follows.perform rfl ?_) ?_
          · rintro (e | ⟨⟨⟩⟩)
            · trivial
            · exact rfl
          · rintro _ _ rfl
            exact ⟨v, rfl, rfl, passed⟩
        · have still : (consuming r secretKey).after ⟨conn, .verify v, .nothing⟩
              (.markConsumed conn v.approval.approvalId) (.ok rowcount) =
                ⟨conn, .verify v, .nothing⟩ := if_neg taken
          refine Follows.bind (Q := fun _ _ => True) (Follows.perform ?_ ?_) ?_
          · exact congrArg Mark.conn still.symm
          · rintro (e | ⟨⟨⟩⟩)
            · trivial
            · trivial
          · rintro _ g -
            rw [if_pos taken]
            trivial
    · trivial

variable (r secretKey) in
theorem callers_promise (calls : List (Nat × Call)) :
    Promises (consuming r secretKey) (Earned r secretKey) (callers r secretKey calls) := by
  intro t mem
  obtain ⟨⟨conn, call⟩, -, rfl⟩ := List.mem_map.mp mem
  cases call with
  | issue c => exact follows_issue c
  | verify v => exact follows_verifyAndConsume v

end Discipline

section Invariant
variable {r : QuorumRules} {secretKey : String} {gs : List Mark} {g g' : Mark} {s s' : Store Table}
  {n : Nat} {failure : Option PyError}

theorem isConsumed_insertRow {a : ExecutionApproval} {approvalId : String} (t : Table) (x : Unit)
    (t' : Table) (done : insertRow a t = .ok (x, t')) (consumed : isConsumed approvalId t) :
    isConsumed approvalId t' := by
  unfold insertRow at done
  split_ifs at done with absent known
  obtain ⟨-, rfl⟩ := Prod.mk.inj (Except.ok.inj done)
  unfold isConsumed at consumed ⊢
  rw [AList.lookup_insert_ne]
  · exact consumed
  · rintro rfl
    rw [Option.not_isSome_iff_eq_none.mp known] at consumed
    cases consumed

theorem isConsumed_consumeRow {id approvalId : String} (t : Table) (rowcount : Nat) (t' : Table)
    (done : consumeRow id t = .ok (rowcount, t')) (consumed : isConsumed approvalId t) :
    isConsumed approvalId t' := by
  unfold consumeRow at done
  split at done
  · obtain ⟨-, rfl⟩ := Prod.mk.inj (Except.ok.inj done)
    unfold isConsumed at consumed ⊢
    by_cases same : approvalId = id
    · rw [same, AList.lookup_insert]
      rfl
    · rw [AList.lookup_insert_ne same]
      exact consumed
  · obtain ⟨-, rfl⟩ := Prod.mk.inj (Except.ok.inj done)
    exact consumed

/-- A row count of one: the row was there unconsumed, and is consumed now. -/
theorem consumeRow_one {approvalId : String} {t t' : Table}
    (done : consumeRow approvalId t = .ok (1, t')) :
    (∃ a, t.lookup approvalId = some ⟨a, false⟩) ∧ isConsumed approvalId t' := by
  unfold consumeRow at done
  split at done
  · rename_i a found
    obtain ⟨-, rfl⟩ := Prod.mk.inj (Except.ok.inj done)
    refine ⟨⟨a, found⟩, ?_⟩
    unfold isConsumed
    rw [AList.lookup_insert]
    rfl
  · cases done

def Has (g : Mark) (approvalId : String) : Prop :=
  g.hold = .taken approvalId ∨ g.hold = .kept approvalId

/-- What is taken is consumed where its caller sees it, what is kept is so for good, and
neither is held twice. -/
structure Exclusive (r : QuorumRules) (gs : List Mark) (s : Store Table) : Prop where
  inherits : ∀ approvalId, s.Inherits (isConsumed approvalId)
  taken : ∀ (n : Nat) (g : Mark) (approvalId : String), gs[n]? = some g → g.hold = .taken approvalId →
    isConsumed approvalId (s.view g.conn)
  kept : ∀ (n : Nat) (g : Mark) (approvalId : String), gs[n]? = some g → g.hold = .kept approvalId →
    isConsumed approvalId s.committed
  once : ∀ (m n : Nat) (g h : Mark) (approvalId : String), gs[m]? = some g → gs[n]? = some h → Has g approvalId →
    Has h approvalId → m = n
  faithful : ∀ (n : Nat) (g : Mark), gs[n]? = some g → g.hold ≠ .nothing → ∀ v, g.call = .verify v →
    ∀ h ∈ gs, ∀ c, h.call = .issue c → Faithful r c v

/-- Marks that stay, over a store in which nothing is unconsumed. -/
theorem Exclusive.frame (held : Exclusive r gs s)
    (inherits : ∀ approvalId, s'.Inherits (isConsumed approvalId))
    (view : ∀ (approvalId : String) (n : Nat) (g : Mark), gs[n]? = some g → g.hold = .taken approvalId →
      isConsumed approvalId (s.view g.conn) → isConsumed approvalId (s'.view g.conn))
    (committed : ∀ approvalId, isConsumed approvalId s.committed → isConsumed approvalId s'.committed) :
    Exclusive r gs s' where
  inherits := inherits
  taken n g approvalId at_ hold := view approvalId n g at_ hold (held.taken n g approvalId at_ hold)
  kept n g approvalId at_ hold := committed approvalId (held.kept n g approvalId at_ hold)
  once := held.once
  faithful := held.faithful

theorem Exclusive.seen (held : Exclusive r gs s) {m : Nat} {h : Mark} {approvalId : String}
    (at_ : gs[m]? = some h) (has : Has h approvalId) : isConsumed approvalId (s.view h.conn) := by
  rcases has with taken | kept
  · exact held.taken m h approvalId at_ taken
  · exact (held.inherits approvalId).view (held.kept m h approvalId at_ kept) h.conn

/-- One mark changes what it holds. -/
theorem Exclusive.set (held : Exclusive r gs s) (at_ : gs[n]? = some g) {hold : Hold}
    (taken : ∀ approvalId, hold = .taken approvalId → isConsumed approvalId (s.view g.conn))
    (kept : ∀ approvalId, hold = .kept approvalId → isConsumed approvalId s.committed)
    (once : ∀ approvalId, Has (g.holds hold) approvalId → ∀ m h, gs[m]? = some h →
      Has h approvalId → m = n)
    (faithful : hold ≠ .nothing → ∀ v, g.call = .verify v → ∀ h ∈ gs, ∀ c, h.call = .issue c →
      Faithful r c v) :
    Exclusive r (gs.set n (g.holds hold)) s := by
  have cases {m : Nat} {h : Mark} (found : (gs.set n (g.holds hold))[m]? = some h) :
      (m = n ∧ h = g.holds hold) ∨ (m ≠ n ∧ gs[m]? = some h) := set_cases at_ found
  have calls {h : Mark} (mem : h ∈ gs.set n (g.holds hold)) : ∃ h' ∈ gs, h'.call = h.call := by
    rcases List.mem_or_eq_of_mem_set mem with old | rfl
    · exact ⟨h, old, rfl⟩
    · exact ⟨g, List.mem_of_getElem? at_, rfl⟩
  refine ⟨held.inherits, ?_, ?_, ?_, ?_⟩
  · intro m h approvalId found holds
    rcases cases found with ⟨rfl, rfl⟩ | ⟨-, found⟩
    · exact taken approvalId holds
    · exact held.taken m h approvalId found holds
  · intro m h approvalId found holds
    rcases cases found with ⟨rfl, rfl⟩ | ⟨-, found⟩
    · exact kept approvalId holds
    · exact held.kept m h approvalId found holds
  · intro m m' h h' approvalId at₁ at₂ has has'
    rcases cases at₁ with ⟨rfl, rfl⟩ | ⟨-, found⟩
    · rcases cases at₂ with ⟨rfl, -⟩ | ⟨-, found'⟩
      · rfl
      · exact (once approvalId has m' h' found' has').symm
    · rcases cases at₂ with ⟨rfl, rfl⟩ | ⟨-, found'⟩
      · exact once approvalId has' m h found has
      · exact held.once m m' h h' approvalId found found' has has'
  · intro m h found holds v called h' mem c issue
    obtain ⟨h₁, mem₁, same⟩ := calls mem
    rcases cases found with ⟨rfl, rfl⟩ | ⟨-, found⟩
    · exact faithful holds v called h₁ mem₁ c (same.trans issue)
    · exact held.faithful m h found holds v called h₁ mem₁ c (same.trans issue)

/-- A rollback that undoes nothing another caller has taken. -/
theorem Exclusive.rollback (held : Exclusive r gs s) (at_ : gs[n]? = some g) {hold : Hold}
    (released : ∀ approvalId, hold ≠ .taken approvalId)
    (same : hold = g.hold ∨ hold = .nothing)
    (keeps : KeepsTaken gs s n g.conn) :
    Exclusive r (gs.set n (g.holds hold)) (s.rollback g.conn) := by
  have marked : Exclusive r (gs.set n (g.holds hold)) s := by
    refine held.set at_ ?_ ?_ ?_ ?_
    · intro approvalId taken
      exact absurd taken (released approvalId)
    · intro approvalId kept
      rcases same with same | same
      · exact held.kept n g approvalId at_ (same ▸ kept)
      · cases same.symm.trans kept
    · intro approvalId has m h found has'
      rcases same with rfl | rfl
      · exact held.once m n h g approvalId found at_ has' has
      · rcases has with has | has
        · cases has
        · cases has
    · intro holds
      rcases same with same | same
      · exact held.faithful n g at_ (same ▸ holds)
      · exact absurd same holds
  refine marked.frame (fun _ => Store.inherits_rollback (marked.inherits _)) ?_ ?_
  · intro approvalId m h found hold' seen
    rcases eq_or_ne h.conn g.conn with shared | own
    · have committed : isConsumed approvalId s.committed := by
        rcases eq_or_ne n m with rfl | other
        · have inside : n < gs.length := (List.getElem?_eq_some_iff.mp at_).1
          rw [List.getElem?_set_self inside] at found
          obtain rfl := Option.some.inj found
          exact absurd hold' (released approvalId)
        · rw [List.getElem?_set_ne other] at found
          exact keeps m h approvalId (Ne.symm other) found shared hold'
      exact (Store.inherits_rollback (held.inherits approvalId)).view
        (by rwa [Store.committed_rollback]) h.conn
    · rwa [Store.view_rollback own]
  · intro approvalId committed
    rwa [Store.committed_rollback]

theorem Exclusive.commit (held : Exclusive r gs s) (at_ : gs[n]? = some g) :
    Exclusive r (gs.set n ((consuming r secretKey).after g (.commit g.conn) (.ok ())))
      (s.commit g.conn) := by
  have through : Exclusive r gs (s.commit g.conn) := by
    refine held.frame (fun _ => Store.inherits_commit (held.inherits _)) ?_ ?_
    · exact fun approvalId _ _ _ _ seen => Store.view_commit (held.inherits approvalId) seen
    · exact fun approvalId committed => Store.committed_commit (held.inherits approvalId) committed
  cases hold : g.hold with
  | taken approvalId =>
    have kept : (consuming r secretKey).after g (.commit g.conn) (.ok ()) =
        g.holds (.kept approvalId) := by
      simp only [consuming, hold]
    rw [kept]
    refine through.set at_ (fun _ other => nomatch other) ?_ ?_ ?_
    · rintro id ⟨⟩
      exact Store.committed_of_commit (held.taken n g approvalId at_ hold)
    · rintro id (other | same) m h found has
      · cases other
      · obtain rfl : approvalId = id := Hold.kept.inj same
        exact held.once m n h g approvalId found at_ has (.inl hold)
    · intro _
      refine held.faithful n g at_ ?_
      rw [hold]
      exact fun none => nomatch none
  | nothing =>
    have still : (consuming r secretKey).after g (.commit g.conn) (.ok ()) = g := by
      simp only [consuming, hold]
    rw [still, set_same at_]
    exact through
  | kept approvalId =>
    have still : (consuming r secretKey).after g (.commit g.conn) (.ok ()) = g := by
      simp only [consuming, hold]
    rw [still, set_same at_]
    exact through

theorem Exclusive.write (held : Exclusive r gs s) {α : Type} {conn : Nat}
    {f : Table → Except PyError (α × Table)}
    (stays : ∀ approvalId t x t', f t = .ok (x, t') → isConsumed approvalId t →
      isConsumed approvalId t') : Exclusive r gs (s.write conn databaseLocked f).2 := by
  refine held.frame (fun approvalId => Store.inherits_write (stays approvalId) (held.inherits _)) ?_ ?_
  · exact fun approvalId _ _ _ _ seen =>
      Store.view_write (stays approvalId) (held.inherits approvalId) seen
  · intro approvalId committed
    rwa [Store.committed_write]

/-- Whoever takes a row is the only one that has it. -/
theorem Exclusive.take (held : Exclusive r gs s) (at_ : gs[n]? = some g) {approvalId : String}
    (meets : Meets r gs s n g none (.markConsumed g.conn approvalId)) :
    let answered := s.write g.conn databaseLocked (consumeRow approvalId)
    Exclusive r (gs.set n ((consuming r secretKey).after g (.markConsumed g.conn approvalId)
      answered.1)) answered.2 := by
  intro answered
  have written : Exclusive r gs answered.2 := held.write fun id => isConsumed_consumeRow
  rcases Store.write_cases s g.conn databaseLocked (consumeRow approvalId) with
    same | ⟨-, e, -, same⟩ | ⟨free, rowcount, t, done, same⟩
  · have raised : answered.1 = .error databaseLocked := congrArg Prod.fst same
    rw [raised]
    show Exclusive r (gs.set n g) answered.2
    rw [set_same at_]
    exact written
  · have raised : answered.1 = .error e := congrArg Prod.fst same
    rw [raised]
    show Exclusive r (gs.set n g) answered.2
    rw [set_same at_]
    exact written
  · have counted : answered.1 = .ok rowcount := congrArg Prod.fst same
    have store : answered.2 = ⟨s.committed, some (g.conn, t)⟩ := congrArg Prod.snd same
    rw [counted]
    show Exclusive r (gs.set n (if rowcount = 1 then g.holds (.taken approvalId) else g)) answered.2
    split_ifs with one
    · subst one
      obtain ⟨⟨a, found⟩, consumed⟩ := consumeRow_one done
      refine written.set at_ ?_ (fun _ other => nomatch other) ?_ ?_
      · rintro id ⟨⟩
        rw [store]
        unfold Store.view
        dsimp only
        rwa [if_pos rfl]
      · rintro id (⟨⟨⟩⟩ | other) m h at_' has
        · have seen := (held.inherits approvalId).seen free (held.seen at_' has)
          unfold isConsumed at seen
          rw [found] at seen
          cases seen
        · cases other
      · exact fun _ => meets rfl a found
    · rw [set_same at_]
      exact written

theorem exclusive_step (held : Exclusive r gs s) (at_ : gs[n]? = some g) {c : Cmd}
    (allowed : (consuming r secretKey).allowed g c) (meets : Meets r gs s n g failure c) :
    Exclusive r (gs.set n ((consuming r secretKey).after g c (respond c s failure).1))
      (respond c s failure).2 := by
  cases c with
  | insertApproval conn a =>
    show Exclusive r (gs.set n g) _
    rw [set_same at_]
    cases failure with
    | some e => exact held
    | none => exact held.write fun id => isConsumed_insertRow
  | selectConsumed conn approvalId =>
    show Exclusive r (gs.set n g) _
    rw [set_same at_]
    cases failure with
    | some e => exact held
    | none => exact held
  | markConsumed conn approvalId =>
    obtain ⟨rfl, -⟩ := allowed
    cases failure with
    | some e =>
      show Exclusive r (gs.set n g) s
      rw [set_same at_]
      exact held
    | none => exact held.take at_ meets
  | commit conn =>
    obtain rfl : conn = g.conn := allowed
    cases failure with
    | none => exact held.commit at_
    | some e =>
      have keeps := meets (fun none => nomatch none)
      cases hold : g.hold with
      | taken approvalId =>
        have released : (consuming r secretKey).after g (.commit g.conn) (.error e) =
            g.holds .nothing := by
          simp only [consuming, hold]
        refine (congrArg (fun g' => Exclusive r (gs.set n g') (s.rollback g.conn)) released).mpr ?_
        exact held.rollback at_ (fun _ same => nomatch same) (.inr rfl) keeps
      | nothing =>
        have still : (consuming r secretKey).after g (.commit g.conn) (.error e) =
            g.holds g.hold := by
          simp only [consuming, hold]
          rw [← hold]
          rfl
        refine (congrArg (fun g' => Exclusive r (gs.set n g') (s.rollback g.conn)) still).mpr ?_
        refine held.rollback at_ (fun id taken => ?_) (.inl rfl) keeps
        cases hold.symm.trans taken
      | kept approvalId =>
        have still : (consuming r secretKey).after g (.commit g.conn) (.error e) =
            g.holds g.hold := by
          simp only [consuming, hold]
          rw [← hold]
          rfl
        refine (congrArg (fun g' => Exclusive r (gs.set n g') (s.rollback g.conn)) still).mpr ?_
        refine held.rollback at_ (fun id taken => ?_) (.inl rfl) keeps
        cases hold.symm.trans taken
  | rollback conn =>
    obtain ⟨rfl, idle⟩ := allowed
    show Exclusive r (gs.set n (g.holds g.hold)) (s.rollback g.conn)
    refine held.rollback at_ (fun id taken => ?_) (.inl rfl) meets
    cases idle.symm.trans taken

end Invariant

section Runs
variable {r : QuorumRules} {secretKey : String} {pool : Callers} {s : Store Table}

def callersAfter (r : QuorumRules) (secretKey : String) (calls : List (Nat × Call))
    (schedule : List (Nat × Option PyError)) : Callers :=
  (interleave respond (consuming r secretKey) schedule (callers r secretKey calls) Store.empty).1

theorem exclusive_turn (disciplined : Disciplined (consuming r secretKey) pool)
    (held : Exclusive r (marks pool) s) {n : Nat} {failure : Option PyError}
    (meets : MeetsTurn r n failure pool s) :
    Exclusive r (marks (turn respond (consuming r secretKey) n failure pool s).1)
      (turn respond (consuming r secretKey) n failure pool s).2 := by
  rcases turn_cases (h := respond) (P := consuming r secretKey) n failure pool s with
    still | ⟨g, c, next, at_, moved⟩
  · rw [still]
    exact held
  · rw [moved, marks_set]
    rw [MeetsTurn, at_] at meets
    refine exclusive_step held ?_ (disciplined _ (List.mem_of_getElem? at_)).1 meets
    rw [marks, List.getElem?_map, at_]
    rfl

theorem exclusive_run {schedule : List (Nat × Option PyError)}
    (disciplined : Disciplined (consuming r secretKey) pool) (held : Exclusive r (marks pool) s)
    (meets : MeetsRun r secretKey schedule pool s) :
    Exclusive r (marks (interleave respond (consuming r secretKey) schedule pool s).1)
      (interleave respond (consuming r secretKey) schedule pool s).2 := by
  induction schedule generalizing pool s with
  | nil => exact held
  | cons step rest ih =>
    obtain ⟨n, failure⟩ := step
    exact ih (disciplined_turn disciplined) (exclusive_turn disciplined held meets.1) meets.2

theorem exclusive_start (calls : List (Nat × Call)) :
    Exclusive r (marks (callers r secretKey calls)) Store.empty := by
  have idle {n : Nat} {g : Mark} (found : (marks (callers r secretKey calls))[n]? = some g) :
      g.hold = .nothing := by
    obtain ⟨t, mem, rfl⟩ := List.mem_map.mp (List.mem_of_getElem? found)
    obtain ⟨c, -, rfl⟩ := List.mem_map.mp mem
    rfl
  refine ⟨?_, ?_, ?_, ?_, ?_⟩
  · intro approvalId now
    cases now
  · intro n g approvalId at_ hold
    cases (idle at_).symm.trans hold
  · intro n g approvalId at_ hold
    cases (idle at_).symm.trans hold
  · rintro m n g h approvalId at_ - (hold | hold)
    · cases (idle at_).symm.trans hold
    · cases (idle at_).symm.trans hold
  · intro n g at_ holds
    exact absurd (idle at_) holds

def Mark.terms (g : Mark) : Nat × Call := (g.conn, g.call)

theorem after_terms (g : Mark) (c : Cmd) (answer : Resp c) :
    ((consuming r secretKey).after g c answer).terms = g.terms := by
  cases c with
  | insertApproval conn a => rfl
  | selectConsumed conn approvalId => rfl
  | markConsumed conn approvalId =>
    cases answer with
    | error e => rfl
    | ok rowcount =>
      show (if rowcount = 1 then g.holds (.taken approvalId) else g).terms = g.terms
      split_ifs
      · rfl
      · rfl
  | commit conn =>
    obtain ⟨conn', call, hold⟩ := g
    cases answer with
    | error e =>
      cases hold with
      | nothing => rfl
      | taken approvalId => rfl
      | kept approvalId => rfl
    | ok done =>
      cases hold with
      | nothing => rfl
      | taken approvalId => rfl
      | kept approvalId => rfl
  | rollback conn => rfl

theorem terms_interleave (schedule : List (Nat × Option PyError)) :
    (marks (interleave respond (consuming r secretKey) schedule pool s).1).map Mark.terms =
      (marks pool).map Mark.terms := by
  induction schedule generalizing pool s with
  | nil => rfl
  | cons step rest ih =>
    obtain ⟨n, failure⟩ := step
    refine ih.trans ?_
    rcases turn_cases (h := respond) (P := consuming r secretKey) n failure pool s with
      still | ⟨g, c, next, at_, moved⟩
    · rw [still]
    · have mark : ((marks pool).map Mark.terms)[n]? = some g.terms := by
        rw [marks, List.map_map, List.getElem?_map, at_]
        rfl
      rw [moved, marks_set, List.map_set, after_terms]
      exact set_same mark

theorem listed_of_mark {calls : List (Nat × Call)} {schedule : List (Nat × Option PyError)}
    {n : Nat} {g : Mark} (at_ : (marks (callersAfter r secretKey calls schedule))[n]? = some g) :
    g.terms ∈ calls := by
  have mem := List.mem_map_of_mem (f := Mark.terms) (List.mem_of_getElem? at_)
  rw [callersAfter, terms_interleave, callers, marks, List.map_map, List.map_map] at mem
  obtain ⟨c, listed, same⟩ := List.mem_map.mp mem
  exact same ▸ listed

/-- What a passed check compares. -/
structure Passed (r : QuorumRules) (secretKey : String) (v : VerifyCall) : Prop where
  tenantId : v.approval.tenantId = v.tenantId
  organisationId : v.approval.organisationId = v.organisationId
  principalId : v.approval.principalId = v.principalId
  authorityId : v.approval.authorityId = v.authorityId
  intentHash : v.approval.intentHash = v.intentHash
  policyDecisionId : v.approval.policyDecisionId = v.policyDecisionId
  unexpired : v.approval.expiresAt.lt v.now = false
  decision : v.approval.policyDecisionHash = decisionHash r v.policyDecision
  signed : v.approval.signature = r.hmac secretKey v.approval.canonicalString

theorem objection_none {v : VerifyCall} (passed : objection r secretKey v = .ok none) :
    Passed r secretKey v := by
  unfold objection at passed
  dsimp only at passed
  split at passed
  · cases passed
  rename_i scope
  obtain ⟨tenantId, organisationId⟩ := not_or.mp scope
  repeat (split at passed; cases passed)
  rename_i principalId authorityId intentHash policyDecisionId unexpired decision
  obtain ⟨same, compared, passed⟩ := bind_ok.mp passed
  cases same with
  | false => cases passed
  | true =>
    exact ⟨not_not.mp tenantId, not_not.mp organisationId, not_not.mp principalId,
      not_not.mp authorityId, not_not.mp intentHash, not_not.mp policyDecisionId,
      Bool.eq_false_iff.mpr unexpired, not_not.mp decision, compareDigest_true compared⟩

theorem issuedFor_of_faithful {c : IssueCall} {v : VerifyCall} (faithful : Faithful r c v)
    (same : (c.unsigned r).canonicalString = v.approval.canonicalString)
    (passed : Passed r secretKey v) : IssuedFor r secretKey c v := by
  obtain ⟨tenantId, organisationId, principalId, authorityId, intentHash, policyDecisionId,
    decision⟩ := faithful.terms same
  exact ⟨tenantId.trans passed.tenantId, organisationId.trans passed.organisationId,
    principalId.trans passed.principalId, authorityId.trans passed.authorityId,
    intentHash.trans passed.intentHash, policyDecisionId.trans passed.policyDecisionId,
    faithful.decision same (decision.trans passed.decision),
    faithful.expiry same passed.unexpired⟩

/-- Callers with connections of their own, to whom approvals are presented as they were issued. -/
theorem meetsRun_of_own {calls : List (Nat × Call)} {schedule : List (Nat × Option PyError)}
    (own : (calls.map Prod.fst).Nodup)
    (faithful : ∀ conn v, (conn, Call.verify v) ∈ calls → ∀ conn' c, (conn', Call.issue c) ∈ calls →
      Faithful r c v) (disciplined : Disciplined (consuming r secretKey) pool)
    (terms : (marks pool).map Mark.terms = calls) : MeetsRun r secretKey schedule pool s := by
  induction schedule generalizing pool s with
  | nil => trivial
  | cons step rest ih =>
    obtain ⟨n, failure⟩ := step
    refine ⟨?_, ih (disciplined_turn disciplined) ((terms_interleave [(n, failure)]).trans terms)⟩
    have listed {h : Mark} (mem : h ∈ marks pool) : h.terms ∈ calls :=
      terms ▸ List.mem_map_of_mem mem
    unfold MeetsTurn
    split
    · rename_i g c next at_
      have allowed := (disciplined _ (List.mem_of_getElem? at_)).1
      have mark : (marks pool)[n]? = some g := by
        rw [marks, List.getElem?_map, at_]
        rfl
      have alone {m : Nat} {h : Mark} (at_' : (marks pool)[m]? = some h) (shared : h.conn = g.conn) :
          m = n := by
        have first : (calls.map Prod.fst)[m]? = some g.conn := by
          rw [← terms, List.map_map, List.getElem?_map, at_', ← shared]
          rfl
        have second : (calls.map Prod.fst)[n]? = some g.conn := by
          rw [← terms, List.map_map, List.getElem?_map, mark]
          rfl
        exact (List.getElem?_inj (List.getElem?_eq_some_iff.mp first).1 own).mp
          (first.trans second.symm)
      have keeps : KeepsTaken (marks pool) s n g.conn := by
        intro m h approvalId other at_' shared
        exact absurd (alone at_' shared) other
      cases c with
      | markConsumed conn approvalId =>
        intro _ a _ v called h mem c issue
        refine faithful g.conn v ?_ h.conn c ?_
        · exact called ▸ listed (List.mem_of_getElem? mark)
        · exact issue ▸ listed mem
      | rollback conn =>
        obtain rfl : conn = g.conn := allowed.1
        exact keeps
      | commit conn =>
        obtain rfl : conn = g.conn := allowed
        exact fun _ => keeps
      | insertApproval conn a => trivial
      | selectConsumed conn approvalId => trivial
    · trivial

theorem terms_callers (calls : List (Nat × Call)) :
    (marks (callers r secretKey calls)).map Mark.terms = calls := by
  rw [callers, marks, List.map_map, List.map_map]
  exact List.map_id calls

/-- In a run that meets the condition, a verified approval is taken by one caller, and was issued
for exactly what it is presented for, as long as signatures come from issued approvals. -/
theorem approvals_sound (injective : Function.Injective (r.hmac secretKey))
    (calls : List (Nat × Call)) (schedule : List (Nat × Option PyError))
    (unforged : ∀ conn v, (conn, Call.verify v) ∈ calls →
      v.approval.signature = r.hmac secretKey v.approval.canonicalString →
      ∃ c, Issued r secretKey (callersAfter r secretKey calls schedule) c ∧
        (c.approval r secretKey).signature = v.approval.signature)
    (meets : MeetsRun r secretKey schedule (callers r secretKey calls) Store.empty) :
    ApprovalsSound r secretKey (callersAfter r secretKey calls schedule) := by
  have promised := promises_interleave (h := respond) (w := Store.empty) schedule
    (callers_promise r secretKey calls)
  have held := exclusive_run (callers_promise r secretKey calls).disciplined (exclusive_start calls) meets
  have earned {n : Nat} {v : VerifyCall}
      (succeeds : Succeeds (callersAfter r secretKey calls schedule) n v) :
      ∃ g, (marks (callersAfter r secretKey calls schedule))[n]? = some g ∧ g.call = .verify v ∧
        g.hold = .kept v.approval.approvalId ∧ objection r secretKey v = .ok none := by
    obtain ⟨g, reason, found, called⟩ := succeeds
    obtain ⟨v', called', hold, passed⟩ := promised _ (List.mem_of_getElem? found)
    obtain rfl := Call.verify.inj (called.symm.trans called')
    refine ⟨g, ?_, called, hold, passed⟩
    rw [marks, List.getElem?_map, found]
    rfl
  constructor
  · intro m n v v' first second same
    obtain ⟨g, at_, -, hold, -⟩ := earned first
    obtain ⟨g', at_', -, hold', -⟩ := earned second
    exact held.once m n g g' _ at_ at_' (.inr hold) (.inr (same ▸ hold'))
  · intro n v succeeds
    obtain ⟨g, at_, called, hold, passed⟩ := earned succeeds
    have checked := objection_none passed
    have listed : (g.conn, Call.verify v) ∈ calls := called ▸ listed_of_mark at_
    obtain ⟨c, issued, signature⟩ := unforged g.conn v listed checked.signed
    have same : (c.unsigned r).canonicalString = v.approval.canonicalString :=
      injective (signature.trans checked.signed)
    obtain ⟨m, h, found, issuing⟩ := issued
    have mem : h ∈ marks (callersAfter r secretKey calls schedule) :=
      List.mem_map.mpr ⟨_, List.mem_of_getElem? found, rfl⟩
    have faithful := held.faithful n g at_ (by rw [hold]; exact Hold.noConfusion) v called
      h mem c issuing
    exact ⟨c, ⟨m, h, found, issuing⟩, issuedFor_of_faithful faithful same checked⟩

end Runs

section Sample

/-- Digests that are the texts themselves. -/
def sampleRules : QuorumRules where
  sha256 s := s
  reprFloat := TokenBinding.printFloat
  hmac key s := key ++ s
  add
    | .finite a, .finite b => .finite (a + b)
    | _, _ => .nan
  strFloat := TokenBinding.printFloat
  reprStr s := s

def sampleIssue (principalId authorityId : String) : IssueCall where
  tenantId := "t"
  organisationId := "o"
  principalId := principalId
  authorityId := authorityId
  intentHash := "i"
  policyDecisionId := "d"
  policyDecision := .text "ok"
  ttlSeconds := .finite 900
  now := .finite 0
  uuidHex := "aaaaaaaaaaaaaaaaaaaaaaaaaaaaaaaa"

/-- The approval issued for one principal and authority, presented for others. -/
def samplePresented (c : IssueCall) (principalId authorityId : String) : VerifyCall where
  approval := { c.approval sampleRules "k" with principalId, authorityId }
  tenantId := "t"
  organisationId := "o"
  principalId := principalId
  authorityId := authorityId
  intentHash := "i"
  policyDecisionId := "d"
  policyDecision := .text "ok"
  now := .finite 60

def turns (callers : List Nat) : List (Nat × Option PyError) := callers.map fun n => (n, none)

def sampleCalls : List (Nat × Call) :=
  [(0, .issue (sampleIssue "ops" "run")),
    (1, .verify (samplePresented (sampleIssue "ops" "run") "ops" "run"))]

theorem sample_faithful : ∀ conn v, (conn, Call.verify v) ∈ sampleCalls →
    ∀ conn' c, (conn', Call.issue c) ∈ sampleCalls → Faithful sampleRules c v := by
  intro conn v verify conn' c issue
  rcases List.mem_cons.mp verify with same | rest
  · cases same
  · cases List.mem_singleton.mp rest
    rcases List.mem_cons.mp issue with same | rest
    · cases same
      exact ⟨fun _ => ⟨rfl, rfl, rfl, rfl, rfl, rfl, rfl⟩, fun _ => id, fun _ _ => rfl⟩
    · cases List.mem_singleton.mp rest

/-- What a caller has returned, if it has. -/
def outcome : Option (Thread Cmd Resp PyError Mark Answer) → Option Answer
  | some ⟨_, .ret answer⟩ => some answer
  | _ => none

def isIssued (answer : Option Answer) : Bool :=
  match answer with
  | some (.issued _) => true
  | _ => false

def isVerified (answer : Option Answer) : Bool :=
  match answer with
  | some (.verified ok _) => ok
  | _ => false

theorem returned {calls : List (Nat × Call)} {schedule : List (Nat × Option PyError)} {n : Nat}
    {answer : Answer}
    (found : outcome (callersAfter sampleRules "k" calls schedule)[n]? = some answer) :
    ∃ g, (callersAfter sampleRules "k" calls schedule)[n]? = some ⟨g, .ret answer⟩ ∧
      calls[n]? = some g.terms ∧ Earned sampleRules "k" answer g := by
  rcases at_ : (callersAfter sampleRules "k" calls schedule)[n]? with _ | ⟨g, answer' | e | ⟨c, next⟩⟩
  · rw [at_] at found
    cases found
  · rw [at_] at found
    obtain rfl := Option.some.inj found
    have promised := promises_interleave (h := respond) (w := Store.empty) schedule
      (callers_promise sampleRules "k" calls)
    have mark : ((marks (callersAfter sampleRules "k" calls schedule)).map Mark.terms)[n]? =
        some g.terms := by
      rw [marks, List.map_map, List.getElem?_map, at_]
      rfl
    rw [callersAfter, terms_interleave, terms_callers] at mark
    exact ⟨g, rfl, mark, promised _ (List.mem_of_getElem? at_)⟩
  · rw [at_] at found
    cases found
  · rw [at_] at found
    cases found

theorem issued_of_outcome (calls : List (Nat × Call)) (schedule : List (Nat × Option PyError))
    (n : Nat) {conn : Nat} {c : IssueCall} (called : calls[n]? = some (conn, .issue c))
    (done : isIssued (outcome (callersAfter sampleRules "k" calls schedule)[n]?) = true) :
    Issued sampleRules "k" (callersAfter sampleRules "k" calls schedule) c := by
  cases answered : outcome (callersAfter sampleRules "k" calls schedule)[n]? with
  | none =>
    rw [answered] at done
    cases done
  | some answer =>
    rw [answered] at done
    cases answer with
    | verified ok reason => cases done
    | issued a =>
      obtain ⟨g, found, terms, c', issuing, rfl⟩ := returned answered
      have same : (g.conn, g.call) = (conn, .issue c) := Option.some.inj (terms.symm.trans called)
      obtain rfl := Call.issue.inj (issuing.symm.trans (congrArg Prod.snd same))
      exact ⟨n, g, found, issuing⟩

theorem succeeds_of_outcome (calls : List (Nat × Call)) (schedule : List (Nat × Option PyError))
    (n : Nat) {conn : Nat} {v : VerifyCall} (called : calls[n]? = some (conn, .verify v))
    (done : isVerified (outcome (callersAfter sampleRules "k" calls schedule)[n]?) = true) :
    Succeeds (callersAfter sampleRules "k" calls schedule) n v := by
  cases answered : outcome (callersAfter sampleRules "k" calls schedule)[n]? with
  | none =>
    rw [answered] at done
    cases done
  | some answer =>
    rw [answered] at done
    cases answer with
    | issued a => cases done
    | verified ok reason =>
      obtain rfl : ok = true := done
      obtain ⟨g, found, terms, -⟩ := returned answered
      have same : (g.conn, g.call) = (conn, .verify v) := Option.some.inj (terms.symm.trans called)
      exact ⟨g, reason, found, congrArg Prod.snd same⟩

/-- Issued, committed, presented, taken, committed. -/
theorem sample_sound :
    ApprovalsSound sampleRules "k" (callersAfter sampleRules "k" sampleCalls (turns [0, 0, 1, 1, 1])) := by
  have injective : Function.Injective (sampleRules.hmac "k") := by
    intro s s' same
    exact (String.append_right_inj "k").mp same
  refine approvals_sound injective sampleCalls (turns [0, 0, 1, 1, 1]) ?_
    (meetsRun_of_own (by decide) sample_faithful (callers_promise sampleRules "k" _).disciplined (terms_callers _))
  intro conn v listed _
  rcases List.mem_cons.mp listed with first | rest
  · cases first
  · cases List.mem_singleton.mp rest
    exact ⟨sampleIssue "ops" "run", issued_of_outcome _ _ 0 rfl (by decide +kernel), rfl⟩

/-- An approval presented for a principal and an authority it was not issued for. -/
def sampleShifted : List (Nat × Call) :=
  [(0, .issue (sampleIssue "ops:alice" "run")),
    (1, .verify (samplePresented (sampleIssue "ops:alice" "run") "ops" "alice:run"))]

/-- An approval presented twice, on a connection on which another insertion fails. -/
def sampleShared : List (Nat × Call) :=
  [(0, .issue (sampleIssue "ops" "run")),
    (0, .verify (samplePresented (sampleIssue "ops" "run") "ops" "run")),
    (0, .issue (sampleIssue "ops" "stop")),
    (0, .verify (samplePresented (sampleIssue "ops" "run") "ops" "run"))]

def sampleRollback : List (Nat × Option PyError) :=
  turns [0, 0, 1, 1] ++ [(2, some ⟨.integrityError, "FOREIGN KEY constraint failed"⟩)] ++
    turns [2, 1, 3, 3, 3]

/-- Both go through. -/
theorem sample_unsound :
    ¬ApprovalsSound sampleRules "k" (callersAfter sampleRules "k" sampleShifted (turns [0, 0, 1, 1, 1])) ∧
      ¬ApprovalsSound sampleRules "k" (callersAfter sampleRules "k" sampleShared sampleRollback) := by
  constructor
  · intro sound
    have succeeds := succeeds_of_outcome sampleShifted (turns [0, 0, 1, 1, 1]) 1 rfl
      (by decide +kernel)
    obtain ⟨c, ⟨m, g, found, called⟩, bound⟩ := sound.bound 1 _ succeeds
    have mark : (marks (callersAfter sampleRules "k" sampleShifted (turns [0, 0, 1, 1, 1])))[m]? =
        some g := by
      rw [marks, List.getElem?_map, found]
      rfl
    have listed : (g.conn, Call.issue c) ∈ sampleShifted := called ▸ listed_of_mark mark
    rcases List.mem_cons.mp listed with first | rest
    · obtain ⟨-, same⟩ := Prod.mk.inj first
      have principal := bound.principalId
      rw [Call.issue.inj same] at principal
      exact absurd principal (by decide)
    · cases (Prod.mk.inj (List.mem_singleton.mp rest)).2
  · intro sound
    have first := succeeds_of_outcome sampleShared sampleRollback 1 rfl (by decide +kernel)
    have second := succeeds_of_outcome sampleShared sampleRollback 3 rfl (by decide +kernel)
    exact absurd (sound.once 1 3 _ _ first second rfl) (by decide)

end Sample

end ExecutionApprovals
