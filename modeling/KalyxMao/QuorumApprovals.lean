import KalyxMao.ProgramPools
import KalyxMao.PythonDates
import KalyxMao.TokenBinding
import Mathlib.Data.List.AList
import Mathlib.Data.List.Dedup

/-!
# Administrative approvals and their quorum

An approval is signed over its fields joined by colons. A quorum is checked one
approval after the other, each check ending with a look at the table of
consumed approvals; then all of them are written to the table. Several callers
may do this at once, each statement of theirs being one step.
-/

namespace QuorumApprovals
open PythonText PythonValues PythonDates Domain EffectPrograms EffectPrograms.Prog ProgramPools
open TokenBinding (compareDigest compareDigest_true)

section Texts

def spacedBraced (start : Char) (items : List String) (stop : Char) : String :=
  String.ofList [start] ++ ", ".intercalate items ++ String.ofList [stop]

mutual

/-- `json.dumps(value, sort_keys=True)`. -/
def dumps (reprFloat : PyFloat → String) : PyValue → String
  | .none => "null"
  | .bool b => if b then "true" else "false"
  | .int i => toString i
  | .float f => reprFloat f
  | .str s => quoteJson s
  | .list xs => spacedBraced '[' (dumpsList reprFloat xs) ']'
  | .dict items => spacedBraced (Char.ofNat 123) (((dumpsItems reprFloat items).mergeSort
      fun a b => a.1 ≤ b.1).map Prod.snd) (Char.ofNat 125)

def dumpsList (reprFloat : PyFloat → String) : List PyValue → List String
  | [] => []
  | x :: xs => dumps reprFloat x :: dumpsList reprFloat xs

def dumpsItems (reprFloat : PyFloat → String) :
    List (String × PyValue) → List (String × String)
  | [] => []
  | (key, x) :: items =>
    (key, quoteJson key ++ ": " ++ dumps reprFloat x) :: dumpsItems reprFloat items

end

def roundHalfEven (q : Rat) : Nat :=
  let n := q.floor.toNat
  let rest := q - n
  if rest < 1 / 2 then n else if 1 / 2 < rest then n + 1 else if n % 2 = 0 then n else n + 1

/-- `f"{value:.4f}"`. -/
def fixedFour : PyFloat → String
  | .finite q =>
    let scaled := roundHalfEven (|q| * 10000)
    (if q < 0 then "-" else "") ++ toString (scaled / 10000) ++ "." ++
      String.ofList (pad 4 (scaled % 10000))
  | .inf negative => if negative then "-inf" else "inf"
  | .nan => "nan"

end Texts

/-- The digests and number texts approvals are made with. -/
structure QuorumRules extends Hashing where
  hmac : String → String → String
  add : PyFloat → PyFloat → PyFloat
  strFloat : PyFloat → String
  reprStr : String → String

section Approvals
variable (r : QuorumRules)

structure AdminApproval where
  approvalId : String
  tenantId : String
  actionType : String
  targetId : String
  payloadHash : String
  approverId : String
  expiresAt : PyFloat
  signature : String
  deriving DecidableEq

def AdminApproval.canonicalString (a : AdminApproval) : String :=
  s!"{a.approvalId}:{a.tenantId}:{a.actionType}:{a.targetId}:{a.payloadHash}:{a.approverId}:{fixedFour a.expiresAt}"

def computePayloadHash : PyValue → String
  | .str s => r.sha256 s
  | payload => r.sha256 (dumps r.reprFloat payload)

/-- One call of `create_approval`, with the clock it reads and the `uuid4().hex` it draws. -/
structure Creation where
  tenantId : String
  actionType : String
  targetId : String
  payload : PyValue
  approverId : String
  ttlSeconds : PyFloat
  now : PyFloat
  uuidHex : String

def createApproval (secretKey : String) (c : Creation) : AdminApproval :=
  let unsigned : AdminApproval :=
    { approvalId := "appr-" ++ String.ofList (c.uuidHex.toList.take 12)
      tenantId := c.tenantId
      actionType := c.actionType
      targetId := c.targetId
      payloadHash := computePayloadHash r c.payload
      approverId := c.approverId
      expiresAt := r.add c.now c.ttlSeconds
      signature := "" }
  { unsigned with signature := r.hmac secretKey unsigned.canonicalString }

/-- One call of `verify_and_consume_quorum`. -/
structure QuorumCall where
  approvals : List AdminApproval
  requiredApprovals : Int
  expectedTenantId : String
  expectedActionType : String
  expectedTargetId : String
  actualPayload : PyValue
  now : PyFloat

/-- The checks of one approval that need no table: nothing, or the reason. -/
def checkFields (secretKey : String) (q : QuorumCall) (a : AdminApproval) :
    Except PyError (Option String) := do
  if a.tenantId ≠ q.expectedTenantId then
    return some s!"Approval tenant_id '{a.tenantId}' does not match expected '{q.expectedTenantId}'"
  if a.actionType ≠ q.expectedActionType then
    return some s!"Approval action_type '{a.actionType}' does not match expected '{q.expectedActionType}'"
  if a.targetId ≠ q.expectedTargetId then
    return some s!"Approval target_id '{a.targetId}' does not match expected '{q.expectedTargetId}'"
  if a.expiresAt.lt q.now then
    return some s!"Approval '{a.approvalId}' has expired (expired at {r.strFloat a.expiresAt}, now {r.strFloat q.now})"
  let expectedHash := computePayloadHash r q.actualPayload
  if a.payloadHash ≠ expectedHash then
    return some s!"Payload hash mismatch: approval bound to {a.payloadHash} vs actual {expectedHash}"
  if !(← compareDigest a.signature (r.hmac secretKey a.canonicalString)) then
    return some "Cryptographic signature verification failed (forged or tampered approval)"
  return none

end Approvals

section Programs

/-- The statements a caller sends; `commit` ends the transaction of the rows it names. -/
inductive Cmd where
  | selectConsumed (approvalId : String)
  | insertConsumed (a : AdminApproval)
  | commit (rows : List AdminApproval)

abbrev Resp : Cmd → Type
  | .selectConsumed _ => Bool
  | .insertConsumed _ => Except PyError Unit
  | .commit _ => Unit

abbrev Action (α : Type) := Prog Cmd Resp PyError α

variable (r : QuorumRules) (secretKey : String) (q : QuorumCall)

def verifySingleApproval (a : AdminApproval) : Action (Option String) := do
  match ← ofExcept (checkFields r secretKey q a) with
  | some reason => return some reason
  | none =>
    if ← perform (.selectConsumed a.approvalId) then
      return some s!"Approval '{a.approvalId}' has already been consumed (replay attempt)"
    return none

def verifyEach : List AdminApproval → Action (Option String)
  | [] => return none
  | a :: rest => do
    match ← verifySingleApproval r secretKey q a with
    | some reason => return some reason
    | none => verifyEach rest

/-- A statement that fails leaves the `with` block, which rolls the transaction back. -/
def insertEach : List AdminApproval → Action Unit
  | [] => return ()
  | a :: rest => do
    ofExcept (← perform (.insertConsumed a))
    insertEach rest

def reprTexts (texts : List String) : String :=
  let items := ", ".intercalate (texts.map r.reprStr)
  s!"[{items}]"

def verifyAndConsumeQuorum : Action (Bool × Option String) := do
  if (q.approvals.length : Int) < q.requiredApprovals then
    return (false,
      some s!"Insufficient approvals: required {q.requiredApprovals}, provided {q.approvals.length}")
  let approvers := q.approvals.map (·.approverId)
  if approvers.dedup.length < q.approvals.length then
    return (false, some s!"Duplicate approver detected: approvers must be unique distinct identities ({reprTexts r approvers})")
  match ← verifyEach r secretKey q q.approvals with
  | some reason => return (false, some reason)
  | none =>
    insertEach q.approvals
    let _ ← perform (.commit q.approvals)
    return (true, none)

end Programs

section Table

structure Row where
  approval : AdminApproval
  consumed : Bool

abbrev Table := AList fun _ : String => Row

def isConsumed (w : Table) (approvalId : String) : Bool := (w.lookup approvalId).any (·.consumed)

/-- `INSERT … ON CONFLICT (approval_id) DO UPDATE SET consumed = 1`. -/
def upsert (w : Table) (a : AdminApproval) : Table :=
  w.insert a.approvalId
    ⟨((w.lookup a.approvalId).map (·.approval)).getD a, true⟩

/-- Callers on one connection see a row once it is inserted; callers on connections of
their own see it with the commit, and their statements may find the table locked. -/
def respond (shared : Bool) : Handler Cmd Resp Table (Option PyError)
  | .selectConsumed id, w, _ => (isConsumed w id, w)
  | .insertConsumed a, w, failure =>
    if shared then (.ok (), upsert w a)
    else match failure with
      | some e => (.error e, w)
      | none => (.ok (), w)
  | .commit rows, w, _ => ((), if shared then w else rows.foldl upsert w)

end Table

section Checks
variable {r : QuorumRules} {secretKey : String} {q : QuorumCall} {a : AdminApproval}

/-- What an approval has passed before the table is asked. -/
structure Checked (r : QuorumRules) (secretKey : String) (q : QuorumCall) (a : AdminApproval) :
    Prop where
  tenant : a.tenantId = q.expectedTenantId
  action : a.actionType = q.expectedActionType
  target : a.targetId = q.expectedTargetId
  unexpired : a.expiresAt.lt q.now = false
  payload : a.payloadHash = computePayloadHash r q.actualPayload
  signed : a.signature = r.hmac secretKey a.canonicalString

theorem checkFields_none (passed : checkFields r secretKey q a = .ok none) :
    Checked r secretKey q a := by
  unfold checkFields at passed
  split at passed
  · cases passed
  · rename_i tenant
    dsimp only at passed
    repeat (split at passed; cases passed)
    rename_i action target unexpired payload
    obtain ⟨same, compared, passed⟩ := bind_ok.mp passed
    cases same with
    | false => cases passed
    | true =>
      exact ⟨not_not.mp tenant, not_not.mp action, not_not.mp target, by simpa using unexpired,
        not_not.mp payload, compareDigest_true compared⟩

end Checks

section Binding
variable {r : QuorumRules} {secretKey : String}

theorem natText_colon (n : Nat) : ':' ∉ (toString n).toList := fun colon =>
  absurd (CanonicalText.int_shape (Int.ofNat n) ':' colon) (by decide)

theorem fixedFour_colon (f : PyFloat) : ':' ∉ (fixedFour f).toList := by
  cases f with
  | finite q =>
    rw [fixedFour]
    simp only [String.toList_append, List.mem_append, not_or, String.toList_ofList]
    refine ⟨⟨⟨?_, natText_colon _⟩, by decide⟩, fun colon => ?_⟩
    · split <;> decide
    · exact absurd (pad_digits colon) (by decide)
  | inf negative => cases negative <;> decide
  | nan => decide

theorem canonicalString_toList (a : AdminApproval) : a.canonicalString.toList =
    a.approvalId.toList ++ ':' :: (a.tenantId.toList ++ ':' :: (a.actionType.toList ++ ':' ::
      (a.targetId.toList ++ ':' :: (a.payloadHash.toList ++ ':' :: (a.approverId.toList ++ ':' ::
        (fixedFour a.expiresAt).toList))))) := by
  unfold AdminApproval.canonicalString
  simp only [String.toList_append, List.append_assoc]
  rfl

/-- No field of an approval but the expiry holds a colon. -/
structure Plain (a : AdminApproval) : Prop where
  approvalId : ':' ∉ a.approvalId.toList
  tenantId : ':' ∉ a.tenantId.toList
  actionType : ':' ∉ a.actionType.toList
  targetId : ':' ∉ a.targetId.toList
  payloadHash : ':' ∉ a.payloadHash.toList
  approverId : ':' ∉ a.approverId.toList

/-- Six colons make seven fields, so a text with plain fields has no other fields. -/
theorem plain_of_same {a b : AdminApproval} (plain : Plain a)
    (same : a.canonicalString = b.canonicalString) : Plain b := by
  have counts := congrArg (List.count ':' ·.toList) same
  have none {s : String} (absent : ':' ∉ s.toList) : s.toList.count ':' = 0 :=
    List.count_eq_zero.mpr absent
  simp only [canonicalString_toList, List.count_append, List.count_cons_self, none plain.approvalId,
    none plain.tenantId, none plain.actionType, none plain.targetId, none plain.payloadHash,
    none plain.approverId, none (fixedFour_colon _)] at counts
  constructor <;> exact List.count_eq_zero.mp (by omega)

structure SameTerms (a b : AdminApproval) : Prop where
  approvalId : a.approvalId = b.approvalId
  tenantId : a.tenantId = b.tenantId
  actionType : a.actionType = b.actionType
  targetId : a.targetId = b.targetId
  payloadHash : a.payloadHash = b.payloadHash
  approverId : a.approverId = b.approverId

theorem sameTerms_of_same {a b : AdminApproval} (plain : Plain a)
    (same : a.canonicalString = b.canonicalString) : SameTerms a b := by
  have plain' := plain_of_same plain same
  have texts := congrArg String.toList same
  rw [canonicalString_toList, canonicalString_toList] at texts
  obtain ⟨approvalId, texts⟩ := append_cons_inj_first plain.approvalId plain'.approvalId texts
  obtain ⟨tenantId, texts⟩ := append_cons_inj_first plain.tenantId plain'.tenantId texts
  obtain ⟨actionType, texts⟩ := append_cons_inj_first plain.actionType plain'.actionType texts
  obtain ⟨targetId, texts⟩ := append_cons_inj_first plain.targetId plain'.targetId texts
  obtain ⟨payloadHash, texts⟩ := append_cons_inj_first plain.payloadHash plain'.payloadHash texts
  obtain ⟨approverId, -⟩ := append_cons_inj_first plain.approverId plain'.approverId texts
  exact ⟨String.toList_inj.mp approvalId, String.toList_inj.mp tenantId,
    String.toList_inj.mp actionType, String.toList_inj.mp targetId,
    String.toList_inj.mp payloadHash, String.toList_inj.mp approverId⟩

/-- No colon in the fields a creation is asked for. -/
structure Unambiguous (c : Creation) : Prop where
  tenantId : ':' ∉ c.tenantId.toList
  actionType : ':' ∉ c.actionType.toList
  targetId : ':' ∉ c.targetId.toList
  approverId : ':' ∉ c.approverId.toList
  uuid : ∀ x ∈ c.uuidHex.toList, IsHexDigit x

theorem plain_createApproval (hex : ∀ s, ∀ x ∈ (r.sha256 s).toList, IsHexDigit x) {c : Creation}
    (unambiguous : Unambiguous c) : Plain (createApproval r secretKey c) where
  approvalId := by
    rw [createApproval]
    simp only [String.toList_append, List.mem_append, String.toList_ofList]
    rintro (start | rest)
    · exact absurd start (by decide)
    · exact absurd (unambiguous.uuid ':' (List.mem_of_mem_take rest)) (by decide)
  tenantId := unambiguous.tenantId
  actionType := unambiguous.actionType
  targetId := unambiguous.targetId
  payloadHash := by
    have hashed : ∃ s, computePayloadHash r c.payload = r.sha256 s := by
      cases c.payload <;> exact ⟨_, rfl⟩
    obtain ⟨s, hs⟩ := hashed
    show ':' ∉ (computePayloadHash r c.payload).toList
    rw [hs]
    exact fun colon => absurd (hex s ':' colon) (by decide)
  approverId := unambiguous.approverId

end Binding

section Protocol

structure Mark where
  call : QuorumCall
  taken : List String

/-- The identifiers a caller has made visible as consumed. -/
def consuming (shared : Bool) : Protocol Cmd Resp Mark where
  allowed g
    | .commit rows => rows = g.call.approvals
    | _ => True
  after g
    | .selectConsumed _, _ => g
    | .insertConsumed a, .ok _ => if shared then ⟨g.call, a.approvalId :: g.taken⟩ else g
    | .insertConsumed _, .error _ => g
    | .commit rows, _ => if shared then g else ⟨g.call, rows.map (·.approvalId) ++ g.taken⟩

variable {r : QuorumRules} {secretKey : String} {q : QuorumCall} {shared : Bool} {g : Mark}

theorem follows_verifySingleApproval (a : AdminApproval) :
    Follows (consuming shared) (fun reason g' => g' = g ∧ (reason = none → Checked r secretKey q a))
      (verifySingleApproval r secretKey q a) g := by
  refine Follows.bind (Q := fun reason g' => g' = g ∧ checkFields r secretKey q a = .ok reason)
    (Follows.ofExcept fun reason found => ⟨rfl, found⟩) ?_
  rintro reason g' ⟨rfl, found⟩
  cases reason with
  | some reason => exact ⟨rfl, fun none => nomatch none⟩
  | none =>
    refine ⟨trivial, fun consumed => ?_⟩
    cases consumed with
    | true => exact ⟨rfl, fun none => nomatch none⟩
    | false => exact ⟨rfl, fun _ => checkFields_none found⟩

theorem follows_verifyEach (approvals : List AdminApproval) :
    Follows (consuming shared)
      (fun reason g' => g' = g ∧ (reason = none → ∀ a ∈ approvals, Checked r secretKey q a))
      (verifyEach r secretKey q approvals) g := by
  induction approvals with
  | nil => exact ⟨rfl, fun _ a ha => nomatch ha⟩
  | cons a rest ih =>
    refine Follows.bind (follows_verifySingleApproval a) ?_
    rintro reason g' ⟨rfl, passed⟩
    cases reason with
    | some reason => exact ⟨rfl, fun none => nomatch none⟩
    | none =>
      refine ih.mono ?_
      rintro reason g' ⟨rfl, others⟩
      exact ⟨rfl, fun none => List.forall_mem_cons.mpr ⟨passed rfl, others none⟩⟩

theorem follows_insertEach (approvals : List AdminApproval) :
    Follows (consuming shared)
      (fun _ g' => g'.call = g.call ∧ g.taken ⊆ g'.taken ∧
        (shared = true → ∀ a ∈ approvals, a.approvalId ∈ g'.taken))
      (insertEach approvals) g := by
  induction approvals generalizing g with
  | nil => exact ⟨rfl, fun _ => id, fun _ a ha => nomatch ha⟩
  | cons a rest ih =>
    refine ⟨trivial, fun answer => ?_⟩
    cases answer with
    | error e => trivial
    | ok done =>
      refine ih.mono ?_
      rintro _ g' ⟨call, more, others⟩
      cases shared with
      | false => exact ⟨call, more, fun h => nomatch h⟩
      | true =>
        refine ⟨call, fun id old => more (List.mem_cons_of_mem _ old), fun _ => ?_⟩
        exact List.forall_mem_cons.mpr ⟨more List.mem_cons_self, others rfl⟩

/-- What a successful call has made sure of. -/
structure Quorate (r : QuorumRules) (secretKey : String) (g : Mark) : Prop where
  enough : g.call.requiredApprovals ≤ g.call.approvals.length
  distinct : (g.call.approvals.map (·.approverId)).Nodup
  checked : ∀ a ∈ g.call.approvals, Checked r secretKey g.call a
  taken : ∀ a ∈ g.call.approvals, a.approvalId ∈ g.taken

theorem nodup_of_dedup {texts : List String} (distinct : ¬texts.dedup.length < texts.length) :
    texts.Nodup := by
  rw [← List.dedup_eq_self]
  exact (List.dedup_sublist _).eq_of_length_le (not_lt.mp distinct)

theorem follows_verifyAndConsumeQuorum (shared : Bool) :
    Follows (consuming shared) (fun answer g => answer.1 = true → Quorate r secretKey g)
      (verifyAndConsumeQuorum r secretKey q) ⟨q, []⟩ := by
  rw [verifyAndConsumeQuorum]
  split
  · exact fun h => nomatch h
  · rename_i enough
    dsimp only
    split
    · exact fun h => nomatch h
    · rename_i distinct
      have nodup : (q.approvals.map (·.approverId)).Nodup :=
        nodup_of_dedup (by rwa [List.length_map])
      refine Follows.bind (follows_verifyEach q.approvals) ?_
      rintro reason g ⟨rfl, checked⟩
      cases reason with
      | some reason => exact fun h => nomatch h
      | none =>
        refine Follows.bind (follows_insertEach q.approvals) ?_
        rintro _ ⟨call, taken⟩ ⟨rfl, -, inserted⟩
        refine ⟨rfl, fun _ _ => ?_⟩
        cases shared with
        | true => exact ⟨not_lt.mp enough, nodup, checked rfl, inserted rfl⟩
        | false =>
          exact ⟨not_lt.mp enough, nodup, checked rfl, fun a ha =>
            List.mem_append_left _ (List.mem_map_of_mem ha)⟩

end Protocol

section Runs
variable {r : QuorumRules} {secretKey : String} {shared : Bool} {w : Table}

theorem isConsumed_upsert (a : AdminApproval) (id : String) :
    isConsumed (upsert w a) id = (decide (id = a.approvalId) || isConsumed w id) := by
  by_cases same : id = a.approvalId
  · rw [same, isConsumed, upsert, AList.lookup_insert, decide_eq_true rfl]
    rfl
  · rw [isConsumed, upsert, AList.lookup_insert_ne same, decide_eq_false same, Bool.false_or]
    rfl

theorem isConsumed_upserts (rows : List AdminApproval) (id : String) :
    isConsumed (rows.foldl upsert w) id =
      (decide (id ∈ rows.map (·.approvalId)) || isConsumed w id) := by
  induction rows generalizing w with
  | nil => rfl
  | cons a rows ih =>
    rw [List.foldl_cons, ih, isConsumed_upsert, List.map_cons, ← Bool.or_assoc]
    congr 1
    rw [Bool.eq_iff_iff]
    simp only [Bool.or_eq_true, decide_eq_true_eq, List.mem_cons]
    exact or_comm

/-- The condition on a step: what becomes visible as consumed was not consumed before. -/
def Unconsumed (shared : Bool) (_ : Mark) : Cmd → Table → Prop
  | .selectConsumed _, _ => True
  | .insertConsumed a, w => shared = true → isConsumed w a.approvalId = false
  | .commit rows, w => shared = false → ∀ a ∈ rows, isConsumed w a.approvalId = false

instance (shared : Bool) (g : Mark) : ∀ (c : Cmd) (w : Table), Decidable (Unconsumed shared g c w)
  | .selectConsumed _, _ => isTrue trivial
  | .insertConsumed a, w =>
    inferInstanceAs (Decidable (shared = true → isConsumed w a.approvalId = false))
  | .commit rows, w =>
    inferInstanceAs (Decidable (shared = false → ∀ a ∈ rows, isConsumed w a.approvalId = false))

/-- Nothing is taken by two callers, and whatever is taken is consumed. -/
structure Exclusive (calls : List QuorumCall) (gs : List Mark) (w : Table) : Prop where
  unchanged : gs.map Mark.call = calls
  consumed : ∀ (n : Nat) (g : Mark), gs[n]? = some g → ∀ id ∈ g.taken, isConsumed w id = true
  once : ∀ (m n : Nat) (g g' : Mark), gs[m]? = some g → gs[n]? = some g' → ∀ id ∈ g.taken, id ∈ g'.taken → m = n

variable {calls : List QuorumCall} {gs : List Mark} {n : Nat} {g : Mark}

/-- Taking what nobody has consumed keeps it so. -/
theorem exclusive_takes (held : Exclusive calls gs w) (at_ : gs[n]? = some g) {w' : Table}
    {ids : List String} (free : ∀ id ∈ ids, isConsumed w id = false)
    (visible : ∀ id, isConsumed w' id = (decide (id ∈ ids) || isConsumed w id)) :
    Exclusive calls (gs.set n ⟨g.call, ids ++ g.taken⟩) w' := by
  have bound : n < gs.length := (List.getElem?_eq_some_iff.mp at_).1
  have here : (gs.set n ⟨g.call, ids ++ g.taken⟩)[n]? = some ⟨g.call, ids ++ g.taken⟩ :=
    List.getElem?_set_self bound
  have elsewhere {m : Nat} (apart : n ≠ m) : (gs.set n ⟨g.call, ids ++ g.taken⟩)[m]? = gs[m]? :=
    List.getElem?_set_ne apart
  -- A caller elsewhere holds consumed identifiers only, so none of the new ones.
  have strange {m : Nat} {g' : Mark} (found : gs[m]? = some g') (apart : n ≠ m) :
      ∀ id ∈ ids ++ g.taken, id ∉ g'.taken := by
    intro id taken taken'
    rcases List.mem_append.mp taken with new | old
    · have consumed := held.consumed m g' found id taken'
      rw [free id new] at consumed
      cases consumed
    · exact apart (held.once n m g g' at_ found id old taken')
  constructor
  · have mapped : n < (gs.map Mark.call).length := by rwa [List.length_map]
    have same : (gs.map Mark.call)[n] = g.call := by
      rw [List.getElem_map]
      exact congrArg Mark.call (List.getElem?_eq_some_iff.mp at_).2
    rw [List.map_set, ← held.unchanged]
    show (gs.map Mark.call).set n g.call = gs.map Mark.call
    rw [← same, List.set_getElem_self]
  · intro m g' found id taken
    rw [visible, Bool.or_eq_true, decide_eq_true_eq]
    by_cases same : n = m
    · rw [← same, here] at found
      rw [← Option.some.inj found] at taken
      exact (List.mem_append.mp taken).imp_right (held.consumed n g at_ id)
    · exact .inr (held.consumed m g' ((elsewhere same).symm.trans found) id taken)
  · intro l m g' g'' found found' id taken taken'
    by_cases hl : n = l <;> by_cases hm : n = m
    · exact hl.symm.trans hm
    · rw [← hl, here] at found
      rw [← Option.some.inj found] at taken
      exact absurd taken' (strange ((elsewhere hm).symm.trans found') hm id taken)
    · rw [← hm, here] at found'
      rw [← Option.some.inj found'] at taken'
      exact absurd taken (strange ((elsewhere hl).symm.trans found) hl id taken')
    · exact held.once l m g' g'' ((elsewhere hl).symm.trans found)
        ((elsewhere hm).symm.trans found') id taken taken'

theorem exclusive_step (held : Exclusive calls gs w) (at_ : gs[n]? = some g) {c : Cmd}
    {failure : Option PyError} (free : Unconsumed shared g c w) :
    Exclusive calls (gs.set n ((consuming shared).after g c (respond shared c w failure).1))
      (respond shared c w failure).2 := by
  have still {w' : Table} (same : ∀ id, isConsumed w' id = isConsumed w id) :
      Exclusive calls (gs.set n g) w' := by
    have free : ∀ id ∈ ([] : List String), isConsumed w id = false := fun id none => nomatch none
    refine exclusive_takes held at_ free fun id => ?_
    rw [same, decide_eq_false List.not_mem_nil, Bool.false_or]
  cases c with
  | selectConsumed id => exact still fun _ => rfl
  | insertConsumed a =>
    cases shared with
    | true =>
      have unused : ∀ id ∈ [a.approvalId], isConsumed w id = false := by
        intro id here
        rw [List.mem_singleton.mp here]
        exact free rfl
      refine exclusive_takes held at_ unused fun id => ?_
      · rw [← decide_eq_decide.mpr List.mem_singleton.symm]
        exact isConsumed_upsert a id
    | false =>
      cases failure with
      | none => exact still fun _ => rfl
      | some e => exact still fun _ => rfl
  | commit rows =>
    cases shared with
    | true => exact still fun _ => rfl
    | false =>
      refine exclusive_takes held at_ ?_ fun id => isConsumed_upserts rows id
      intro id here
      obtain ⟨a, ha, rfl⟩ := List.mem_map.mp here
      exact free rfl a ha

def callers (r : QuorumRules) (secretKey : String) (calls : List QuorumCall) :
    Pool Cmd Resp PyError Mark (Bool × Option String) :=
  calls.map fun q => ⟨⟨q, []⟩, verifyAndConsumeQuorum r secretKey q⟩

def callersAfter (r : QuorumRules) (secretKey : String) (shared : Bool) (calls : List QuorumCall)
    (w : Table) (schedule : List (Nat × Option PyError)) :
    Pool Cmd Resp PyError Mark (Bool × Option String) :=
  (interleave (respond shared) (consuming shared) schedule (callers r secretKey calls) w).1

/-- What a caller has returned, if it has. -/
def outcome : Option (Thread Cmd Resp PyError Mark (Bool × Option String)) → Option Bool
  | some ⟨_, .ret answer⟩ => some answer.1
  | _ => none

def Succeeds (pool : Pool Cmd Resp PyError Mark (Bool × Option String)) (n : Nat) : Prop :=
  outcome pool[n]? = some true

instance (pool : Pool Cmd Resp PyError Mark (Bool × Option String)) (n : Nat) :
    Decidable (Succeeds pool n) :=
  inferInstanceAs (Decidable (outcome pool[n]? = some true))

theorem outcome_true {t : Option (Thread Cmd Resp PyError Mark (Bool × Option String))}
    (succeeds : outcome t = some true) : ∃ g reason, t = some ⟨g, .ret (true, reason)⟩ := by
  rcases t with _ | ⟨g, ⟨answer, reason⟩ | e | ⟨c, next⟩⟩
  · cases succeeds
  · cases Option.some.inj succeeds
    exact ⟨g, reason, rfl⟩
  · cases succeeds
  · cases succeeds

variable (r secretKey shared) in
theorem callers_promise (calls : List QuorumCall) :
    Promises (consuming shared) (fun answer g => answer.1 = true → Quorate r secretKey g)
      (callers r secretKey calls) := by
  intro t ht
  obtain ⟨q, -, rfl⟩ := List.mem_map.mp ht
  exact follows_verifyAndConsumeQuorum shared

theorem exclusive_start (calls : List QuorumCall) :
    Exclusive calls (marks (callers r secretKey calls)) w := by
  have bare (n : Nat) (g : Mark) (found : (marks (callers r secretKey calls))[n]? = some g) :
      g.taken = [] := by
    rw [marks, callers, List.map_map, List.getElem?_map, Option.map_eq_some_iff] at found
    obtain ⟨q, -, rfl⟩ := found
    rfl
  constructor
  · rw [marks, callers, List.map_map, List.map_map]
    exact List.map_id calls
  · intro n g found id taken
    rw [bare n g found] at taken
    cases taken
  · intro m n g g' found _ id taken
    rw [bare m g found] at taken
    cases taken

/-- After every schedule that meets the condition, what a successful caller has presented is
checked, and consumed by that caller alone. -/
theorem succeeded_quorate (calls : List QuorumCall) (w : Table)
    (schedule : List (Nat × Option PyError))
    (free : Respects (respond shared) (consuming shared) (Unconsumed shared) schedule
      (callers r secretKey calls) w) :
    (∀ n q, calls[n]? = some q → Succeeds (callersAfter r secretKey shared calls w schedule) n →
      ∃ taken, Quorate r secretKey ⟨q, taken⟩) ∧
    ∀ m n q q', calls[m]? = some q → calls[n]? = some q' →
      Succeeds (callersAfter r secretKey shared calls w schedule) m →
      Succeeds (callersAfter r secretKey shared calls w schedule) n →
      ∀ a ∈ q.approvals, ∀ b ∈ q'.approvals, a.approvalId = b.approvalId → m = n := by
  have promised := promises_interleave (h := respond shared) (w := w) schedule
    (callers_promise r secretKey shared calls)
  have held := interleave_keeps (J := Exclusive calls)
    (fun gs w n g c i at_ _ free held => exclusive_step held at_ free) schedule
    (callers_promise r secretKey shared calls).disciplined (exclusive_start calls) free
  have ended (n : Nat) (q : QuorumCall) (called : calls[n]? = some q)
      (succeeds : Succeeds (callersAfter r secretKey shared calls w schedule) n) :
      ∃ taken, Quorate r secretKey ⟨q, taken⟩ ∧
        (marks (callersAfter r secretKey shared calls w schedule))[n]? = some ⟨q, taken⟩ := by
    obtain ⟨⟨call, taken⟩, reason, found⟩ := outcome_true succeeds
    have mark : (marks (callersAfter r secretKey shared calls w schedule))[n]? = some ⟨call, taken⟩ := by
      rw [marks, List.getElem?_map, found]
      rfl
    have same : call = q := by
      have calls_eq := held.unchanged
      rw [← calls_eq, List.getElem?_map] at called
      rw [callersAfter] at mark
      rw [mark] at called
      exact Option.some.inj called
    rw [same] at mark found
    exact ⟨taken, promised _ (List.mem_of_getElem? found) rfl, mark⟩
  constructor
  · intro n q called succeeds
    obtain ⟨taken, quorate, -⟩ := ended n q called succeeds
    exact ⟨taken, quorate⟩
  · intro m n q q' called called' succeeds succeeds' a ha b hb same
    obtain ⟨taken, quorate, mark⟩ := ended m q called succeeds
    obtain ⟨taken', quorate', mark'⟩ := ended n q' called' succeeds'
    exact held.once m n _ _ mark mark' _ (quorate.taken a ha) (same ▸ quorate'.taken b hb)

end Runs

section Quorums
variable {r : QuorumRules} {secretKey : String} {shared : Bool} {created : List Creation}
  {calls : List QuorumCall} {w : Table}

/-- The approval presented carries the signed text of one that was created. -/
def StandsFor (r : QuorumRules) (secretKey : String) (a : AdminApproval) (c : Creation) : Prop :=
  (createApproval r secretKey c).canonicalString = a.canonicalString

/-- An unexpired approval created for exactly what the call is about, by this approver. -/
structure MadeFor (r : QuorumRules) (secretKey : String) (q : QuorumCall) (approver : String)
    (c : Creation) : Prop where
  tenant : c.tenantId = q.expectedTenantId
  action : c.actionType = q.expectedActionType
  target : c.targetId = q.expectedTargetId
  payload : c.payload = q.actualPayload
  approver : c.approverId = approver
  unexpired : (createApproval r secretKey c).expiresAt.lt q.now = false

def Backed (r : QuorumRules) (secretKey : String) (created : List Creation) (q : QuorumCall) : Prop :=
  ∃ approvers : List String, approvers.Nodup ∧ q.requiredApprovals ≤ approvers.length ∧
    ∀ x ∈ approvers, ∃ c ∈ created, MadeFor r secretKey q x c

/-- Successful quorums are backed by created approvals, and none is counted twice. -/
structure QuorumsSound (r : QuorumRules) (secretKey : String) (created : List Creation)
    (calls : List QuorumCall) (pool : Pool Cmd Resp PyError Mark (Bool × Option String)) : Prop where
  backed : ∀ (n : Nat) (q : QuorumCall), calls[n]? = some q → Succeeds pool n →
    Backed r secretKey created q
  once : ∀ (m n : Nat) (q q' : QuorumCall), calls[m]? = some q → calls[n]? = some q' →
    Succeeds pool m → Succeeds pool n → ∀ a ∈ q.approvals, ∀ b ∈ q'.approvals, ∀ c ∈ created,
    StandsFor r secretKey a c → StandsFor r secretKey b c → m = n

/-- The condition on one call: an approval presented for a created one has its fields and
its expiry, and no approval was created for another payload of the same hash. -/
structure Faithful (r : QuorumRules) (secretKey : String) (created : List Creation)
    (q : QuorumCall) : Prop where
  terms : ∀ a ∈ q.approvals, ∀ c ∈ created, StandsFor r secretKey a c →
    SameTerms (createApproval r secretKey c) a
  expiry : ∀ a ∈ q.approvals, ∀ c ∈ created, StandsFor r secretKey a c →
    (createApproval r secretKey c).expiresAt = a.expiresAt
  payload : ∀ c ∈ created, computePayloadHash r c.payload = computePayloadHash r q.actualPayload →
    c.payload = q.actualPayload

theorem backed_of_quorate {q : QuorumCall} {taken : List String}
    (faithful : Faithful r secretKey created q)
    (unforgeable : ∀ a ∈ q.approvals, a.signature = r.hmac secretKey a.canonicalString →
      ∃ c ∈ created, StandsFor r secretKey a c)
    (quorate : Quorate r secretKey ⟨q, taken⟩) : Backed r secretKey created q := by
  refine ⟨q.approvals.map (·.approverId), quorate.distinct, ?_, fun x hx => ?_⟩
  · rw [List.length_map]
    exact quorate.enough
  · obtain ⟨a, ha, rfl⟩ := List.mem_map.mp hx
    have checked := quorate.checked a ha
    obtain ⟨c, hc, stands⟩ := unforgeable a ha checked.signed
    have terms := faithful.terms a ha c hc stands
    refine ⟨c, hc, terms.tenantId.trans checked.tenant, terms.actionType.trans checked.action,
      terms.targetId.trans checked.target, ?_, terms.approverId, ?_⟩
    · exact faithful.payload c hc (terms.payloadHash.trans checked.payload)
    · rw [faithful.expiry a ha c hc stands]
      exact checked.unexpired

def sampleHash : String := "6f2a44d175a62bdb46bd65b016c35c94afe66802134f4eab47fd34b5c7dd68be"

def sampleSignature : String := "931a8f5702b9c196f165417c305466e3d0d76efd5551da12356d735cb46d6cd9"

/-- The digest of the sample payload and the signature of the sample approval. -/
def sampleRules : QuorumRules where
  sha256 _ := sampleHash
  reprFloat := TokenBinding.printFloat
  hmac _ _ := sampleSignature
  add
    | .finite a, .finite b => .finite (a + b)
    | _, _ => .nan
  strFloat := TokenBinding.printFloat
  reprStr s := "'" ++ s ++ "'"

def sampleCreation : Creation where
  tenantId := "t"
  actionType := "CIRCUIT_BREAKER_RESUME"
  targetId := "org-1"
  payload := .dict [("organisation_id", .str "org-1")]
  approverId := "alice"
  ttlSeconds := .finite 900
  now := .finite 0
  uuidHex := "aaaaaaaaaaaaaaaaaaaaaaaaaaaaaaaa"

def sampleCall : QuorumCall where
  approvals := [createApproval sampleRules "k" sampleCreation]
  requiredApprovals := 1
  expectedTenantId := "t"
  expectedActionType := "CIRCUIT_BREAKER_RESUME"
  expectedTargetId := "org-1"
  actualPayload := .dict [("organisation_id", .str "org-1")]
  now := .finite 60

/-- Turns of callers, none of their statements failing. -/
def turns (callers : List Nat) : List (Nat × Option PyError) := callers.map fun n => (n, none)

theorem sampleCall_faithful : ∀ q ∈ [sampleCall, sampleCall],
    Faithful sampleRules "k" [sampleCreation] q := by
  intro q hq
  have same : q = sampleCall := by simpa using hq
  rw [same]
  constructor
  · intro a ha c hc stands
    rw [List.mem_singleton.mp hc] at stands ⊢
    refine sameTerms_of_same (plain_createApproval (fun _ => ?_) ?_) stands
    · show ∀ x ∈ sampleHash.toList, IsHexDigit x
      decide +kernel
    · constructor <;> decide +kernel
  · intro a ha c hc _
    rw [List.mem_singleton.mp ha, List.mem_singleton.mp hc]
  · intro c hc _
    rw [List.mem_singleton.mp hc]
    rfl

end Quorums

end QuorumApprovals
