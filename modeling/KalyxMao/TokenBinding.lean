import KalyxMao.CanonicalText
import KalyxMao.Domain

/-!
# What an authorization token binds

A token carries a hash of its proposal. The hashed text joins the fields with
bars. Identifier, credits and parameters can be read back from it; task, agent,
action and target only if none of the first two holds a bar and the target names
no action between bars of its own.
-/

namespace TokenBinding
open PythonText PythonValues CanonicalText Domain

inductive OrgState where
  | initializing
  | planning
  | executing
  | paused
  | failed
  | completed
  deriving DecidableEq

/-- What a token is checked against of an organisation. -/
structure TokenOrganisation where
  id : String
  state : OrgState

structure AuthorizationTokenClaims where
  orgId : String
  proposalId : String
  proposalContentHash : String
  decisionId : String
  policyVersionHash : String
  issuedAt : PyFloat
  expiresAt : PyFloat
  nonce : String

/-- The digests, codings and float operations tokens are made with. -/
structure TokenRules extends Hashing where
  hmac : String → String → String
  b64encode : String → String
  b64decode : String → Except PyError String
  loads : String → Except PyError PyValue
  round3 : PyFloat → PyFloat
  add : PyFloat → PyFloat → PyFloat
  floatOf : PyValue → Option PyFloat
  invalid : PyValue → PyError

section Tokens
variable (r : TokenRules)

/-- The text `get_content_hash` hashes. -/
def contentText (p : ActionProposal) : String :=
  s!"{p.id}|{p.taskId}|{p.proposingAgentId}|{p.actionType.value}|{p.target}|{p.requestedCredits}|{r.ofJson p.parameters}"

def getContentHash (p : ActionProposal) : String := r.sha256 (contentText r p)

def claimsDict (c : AuthorizationTokenClaims) : PyValue :=
  .dict [("org_id", .str c.orgId), ("proposal_id", .str c.proposalId),
    ("proposal_content_hash", .str c.proposalContentHash), ("decision_id", .str c.decisionId),
    ("policy_version_hash", .str c.policyVersionHash), ("issued_at", .float (r.round3 c.issuedAt)),
    ("expires_at", .float (r.round3 c.expiresAt)), ("nonce", .str c.nonce)]

def toB64 (c : AuthorizationTokenClaims) : String :=
  r.b64encode (canonicalJson r.reprFloat (claimsDict r c))

def strField (items : List (String × PyValue)) (key : String) : Option String :=
  match items.lookup key with
  | some (.str s) => some s
  | _ => none

def floatField (items : List (String × PyValue)) (key : String) : Option PyFloat :=
  (items.lookup key).bind r.floatOf

/-- `cls(**data)`. -/
def claimsOf (data : PyValue) : Except PyError AuthorizationTokenClaims :=
  let items := match data with
    | .dict items => items
    | _ => []
  let claims := do
    let orgId ← strField items "org_id"
    let proposalId ← strField items "proposal_id"
    let proposalContentHash ← strField items "proposal_content_hash"
    let decisionId ← strField items "decision_id"
    let policyVersionHash ← strField items "policy_version_hash"
    let issuedAt ← floatField r items "issued_at"
    let expiresAt ← floatField r items "expires_at"
    let nonce ← strField items "nonce"
    return AuthorizationTokenClaims.mk orgId proposalId proposalContentHash decisionId
      policyVersionHash issuedAt expiresAt nonce
  match claims with
  | some claims => .ok claims
  | none => .error (r.invalid data)

def fromB64 (b64 : String) : Except PyError AuthorizationTokenClaims := do
  let raw ← r.b64decode b64
  let data ← r.loads raw
  claimsOf r data

/-- What `generate_token` draws from the clock and the generators. -/
structure Issue where
  now : PyFloat
  ttl : PyFloat
  decisionUuid : String
  nonce : String

def issuedClaims (policyVersion : String) (p : ActionProposal) (orgId : String)
    (decisionId : Option String) (i : Issue) : AuthorizationTokenClaims where
  orgId := orgId
  proposalId := p.id
  proposalContentHash := getContentHash r p
  decisionId := orElse decisionId i.decisionUuid
  policyVersionHash := policyVersion
  issuedAt := i.now
  expiresAt := r.add i.now i.ttl
  nonce := i.nonce

/-- `AUTH-<proposal_id[:8]>.<claims>.<signature>`. -/
def tokenOf (secret proposalId : String) (c : AuthorizationTokenClaims) : String :=
  s!"AUTH-{String.ofList (proposalId.toList.take 8)}.{toB64 r c}.{r.hmac secret (toB64 r c)}"

def generateToken (secret policyVersion : String) (p : ActionProposal) (orgId : String)
    (decisionId : Option String) (i : Issue) : String :=
  tokenOf r secret p.id (issuedClaims r policyVersion p orgId decisionId i)

def isAscii (s : String) : Bool := s.toList.all fun c => c.toNat < 128

/-- `hmac.compare_digest` on texts. -/
def compareDigest (a b : String) : Except PyError Bool :=
  if isAscii a && isAscii b then .ok (a = b)
  else .error ⟨.typeError, "comparing strings with non-ASCII characters is not supported"⟩

theorem compareDigest_true {a b : String} : compareDigest a b = .ok true → a = b := by
  intro same
  rw [compareDigest] at same
  split at same
  · simpa using Except.ok.inj same
  · cases same

theorem isAscii_hex {s : String} (hex : ∀ c ∈ s.toList, IsHexDigit c) : isAscii s = true := by
  have small : ∀ c ∈ "0123456789abcdef".toList, decide (c.toNat < 128) = true := by decide
  exact List.all_eq_true.mpr fun c member => small c (hex c member)

/-- `HmacSha256TokenVerifier.verify`. -/
def verifierVerify (secret data signature : String) : Except PyError Bool :=
  compareDigest signature (r.hmac secret data)

def splitText (s : String) (sep : Char) : List String := (s.toList.splitOn sep).map String.ofList

/-- The checks of `PolicyEngine.verify_token` on the claims. -/
def checkClaims (policyVersion : String) (p : ActionProposal) (org : TokenOrganisation)
    (decision : Option PolicyDecision) (now : PyFloat) (c : AuthorizationTokenClaims) :
    Bool × Option String :=
  if c.expiresAt.lt now then (false, some
    s!"Authorization token expired (expired at {r.reprFloat c.expiresAt}, current time {r.reprFloat now})")
  else if c.orgId ≠ org.id then (false, some
    s!"Token organisation mismatch: issued for '{c.orgId}', presented for '{org.id}'")
  else if c.proposalId ≠ p.id then (false, some
    s!"Token proposal ID mismatch: issued for '{c.proposalId}', presented for '{p.id}'")
  else if c.proposalContentHash ≠ getContentHash r p then (false, some
    "Token proposal content hash mismatch: signature does not match proposal content (proposal was modified after approval)")
  else if ∃ d ∈ decision, c.decisionId ≠ d.id then (false, some
    s!"Token decision ID mismatch: issued for '{c.decisionId}', presented for '{(decision.map PolicyDecision.id).getD default}'")
  else if c.policyVersionHash ≠ policyVersion then (false, some
    s!"Policy version mismatch: token was issued under '{c.policyVersionHash}', current policy version is '{policyVersion}'")
  else (true, none)

def verifyToken (secret policyVersion token : String) (p : ActionProposal)
    (org : TokenOrganisation) (decision : Option PolicyDecision) (now : PyFloat) :
    Except PyError (Bool × Option String) :=
  if token = "" then .ok (false, some "Empty or missing authorization token")
  else if org.state = .paused then
    .ok (false, some "Organisation is PAUSED by emergency kill switch")
  else
    match splitText token '.' with
    | [start, b64, signature] =>
      if startsWith start "AUTH-" then
        match verifierVerify r secret b64 signature with
        | .error err => .error err
        | .ok false => .ok (false, some
            "Invalid token: signature does not match proposal content or was forged/modified")
        | .ok true =>
          match fromB64 r b64 with
          | .error err => .ok (false, some s!"Invalid token: failed to parse claims ({err.message})")
          | .ok c => .ok (checkClaims r policyVersion p org decision now c)
      else .ok (false, some "Invalid token: format does not match authorization schema")
    | _ => .ok (false, some "Invalid token: format does not match authorization schema")

/-- The checks of the auditor. It compares the policy version only if one is expected. -/
def auditClaims (expectedPolicyVersion : Option String) (p : ActionProposal)
    (org : TokenOrganisation) (decision : Option PolicyDecision) (now : PyFloat)
    (c : AuthorizationTokenClaims) : Bool × Option String :=
  if c.expiresAt.lt now then (false, some
    s!"Authorization token expired (expired at {r.reprFloat c.expiresAt}, current time {r.reprFloat now})")
  else if c.orgId ≠ org.id then (false, some
    s!"Token organisation mismatch: issued for '{c.orgId}', presented for '{org.id}'")
  else if c.proposalId ≠ p.id then (false, some
    s!"Token proposal ID mismatch: issued for '{c.proposalId}', presented for '{p.id}'")
  else if c.proposalContentHash ≠ getContentHash r p then (false, some
    "Token proposal content hash mismatch: proposal was modified after policy authorization")
  else if ∃ d ∈ decision, c.decisionId ≠ d.id then (false, some
    s!"Token decision ID mismatch: issued for decision '{c.decisionId}', presented with '{(decision.map PolicyDecision.id).getD default}'")
  else if ∃ v ∈ expectedPolicyVersion, v ≠ "" ∧ c.policyVersionHash ≠ v then (false, some
    s!"Policy version mismatch: token was issued under '{c.policyVersionHash}', expected '{expectedPolicyVersion.getD default}'")
  else (true, none)

/-- The auditor without a verification secret takes the claims unsigned. -/
def verifyAuthorizationToken (secret : Option String) (expectedPolicyVersion : Option String)
    (token : Option String) (p : ActionProposal) (org : TokenOrganisation)
    (decision : Option PolicyDecision) (now : PyFloat) : Except PyError (Bool × Option String) :=
  if token = none ∨ token = some "" then
    .ok (false, some "Empty or missing authorization token")
  else if org.state = .paused then
    .ok (false, some "Organisation is PAUSED by emergency kill switch")
  else
    match splitText (token.getD "") '.' with
    | [start, b64, signature] =>
      if startsWith start "AUTH-" then
        match secret.elim (.ok true) fun s => verifierVerify r s b64 signature with
        | .error err => .error err
        | .ok false => .ok (false, some
            "Invalid token signature: forged, modified, or signed with unrecognized key")
        | .ok true =>
          match fromB64 r b64 with
          | .error err => .ok (false, some s!"Failed to parse token claims: {err.message}")
          | .ok c => .ok (auditClaims r expectedPolicyVersion p org decision now c)
      else .ok (false, some "Invalid authorization token format")
    | _ => .ok (false, some "Invalid authorization token format")

end Tokens

section Content
variable {r : TokenRules}

theorem action_bar (a : ActionType) : '|' ∉ a.value.toList := by
  cases a <;> decide

theorem action_inj {a b : ActionType} (same : a.value = b.value) : a = b := by
  cases a <;> cases b <;> first | rfl | exact absurd same (by decide)

/-- The fields between the identifier and the credits, as they are joined. -/
def front (p : ActionProposal) : List Char :=
  p.taskId.toList ++ '|' :: (p.proposingAgentId.toList ++ '|' :: (p.actionType.value.toList ++
    '|' :: p.target.toList))

/-- Neither task nor agent holds a bar, and no action stands between bars in the target. -/
def Unmixed (p : ActionProposal) : Prop :=
  '|' ∉ p.taskId.toList ∧ '|' ∉ p.proposingAgentId.toList ∧
    ∀ a : ActionType, isIn s!"|{a.value}|" s!"|{p.target}" = false

theorem contentText_toList (r : TokenRules) (p : ActionProposal) :
    (contentText r p).toList = p.id.toList ++ '|' :: ((front p ++ '|' ::
      p.requestedCredits.repr.toList) ++ '|' :: (r.ofJson p.parameters).toList) := by
  show (p.id ++ "|" ++ p.taskId ++ "|" ++ p.proposingAgentId ++ "|" ++ p.actionType.value ++ "|" ++
    p.target ++ "|" ++ p.requestedCredits.repr ++ "|" ++ r.ofJson p.parameters).toList = _
  simp only [String.toList_append, front, List.append_assoc, List.cons_append]
  rfl

theorem infix_iff (v target : String) :
    isIn s!"|{v}|" s!"|{target}" = true ↔
      ∃ k y, '|' :: target.toList = k ++ '|' :: (v.toList ++ '|' :: y) := by
  have needle : (("|" ++ v ++ "|" : String)).toList = '|' :: (v.toList ++ ['|']) := by
    simp only [String.toList_append]
    rfl
  have hay : (("|" ++ target : String)).toList = '|' :: target.toList := by
    rw [String.toList_append]
    rfl
  rw [isIn_iff]
  show ("|" ++ v ++ "|" : String).toList <:+: ("|" ++ target : String).toList ↔ _
  rw [needle, hay]
  constructor
  · rintro ⟨k, y, same⟩
    exact ⟨k, y, by rw [← same]; simp⟩
  · rintro ⟨k, y, same⟩
    exact ⟨k, y, by rw [same]; simp⟩

/-- Four pieces are read back from their join. The join can be parted later only where the
third piece of the other reading stands between bars in the fourth. -/
theorem front_inj {t g v x t' g' v' x' : List Char} (ht : '|' ∉ t) (hg : '|' ∉ g) (hv : '|' ∉ v)
    (hv' : '|' ∉ v') (unnamed : ∀ k y, '|' :: x ≠ k ++ '|' :: (v' ++ '|' :: y))
    (same : t ++ '|' :: (g ++ '|' :: (v ++ '|' :: x)) =
      t' ++ '|' :: (g' ++ '|' :: (v' ++ '|' :: x'))) :
    t = t' ∧ g = g' ∧ v = v' ∧ x = x' := by
  by_cases plain : '|' ∉ t' ∧ '|' ∉ g'
  · obtain ⟨tasks, same⟩ := append_cons_inj_first ht plain.1 same
    obtain ⟨agents, same⟩ := append_cons_inj_first hg plain.2 same
    obtain ⟨actions, targets⟩ := append_cons_inj_first hv hv' same
    exact ⟨tasks, agents, actions, targets⟩
  have one : (t ++ '|' :: g).count '|' = 1 := by
    rw [List.count_append, List.count_cons_self, List.count_eq_zero.mpr ht,
      List.count_eq_zero.mpr hg]
  have two : 2 ≤ (t' ++ '|' :: g').count '|' := by
    rw [not_and_or, not_not, not_not] at plain
    rw [List.count_append, List.count_cons_self]
    rcases plain with task | agent
    · have := List.count_pos_iff.mpr task
      omega
    · have := List.count_pos_iff.mpr agent
      omega
  have joined : (t ++ '|' :: g) ++ '|' :: (v ++ '|' :: x) =
      (t' ++ '|' :: g') ++ '|' :: (v' ++ '|' :: x') := by
    simpa using same
  rcases List.append_eq_append_iff.mp joined with ⟨m, long, rest⟩ | ⟨m, short, _⟩
  · cases m with
    | nil =>
      rw [List.append_nil] at long
      rw [long, one] at two
      omega
    | cons c m =>
      have tail : v ++ '|' :: x = m ++ '|' :: (v' ++ '|' :: x') := (List.cons.inj rest).2
      rcases List.append_eq_append_iff.mp tail with ⟨k, _, found⟩ | ⟨k, cut, found⟩
      · exact absurd found (unnamed k x')
      · cases k with
        | nil => exact absurd found.symm (unnamed [] x')
        | cons d k =>
          rw [← (List.cons.inj found).1] at cut
          exact absurd (by rw [cut]; simp) hv
  · rw [short, List.count_append] at one
    omega

theorem unmixed_inj {p p' : ActionProposal} (unmixed : Unmixed p) (same : front p = front p') :
    p.taskId = p'.taskId ∧ p.proposingAgentId = p'.proposingAgentId ∧
      p.actionType = p'.actionType ∧ p.target = p'.target := by
  obtain ⟨task, agent, target⟩ := unmixed
  have unnamed (k y : List Char) :
      '|' :: p.target.toList ≠ k ++ '|' :: (p'.actionType.value.toList ++ '|' :: y) := by
    intro found
    have named := (infix_iff p'.actionType.value p.target).mpr ⟨k, y, found⟩
    rw [target p'.actionType] at named
    cases named
  obtain ⟨tasks, agents, actions, targets⟩ :=
    front_inj task agent (action_bar _) (action_bar _) unnamed same
  exact ⟨String.toList_inj.mp tasks, String.toList_inj.mp agents,
    action_inj (String.toList_inj.mp actions), String.toList_inj.mp targets⟩

/-- Fields that are mixed have a second reading. -/
theorem mixed_resplits {p : ActionProposal} (mixed : ¬Unmixed p) :
    ∃ taskId agent action target,
      front { p with taskId := taskId, proposingAgentId := agent, actionType := action,
                     target := target } = front p ∧
      ¬(p.taskId = taskId ∧ p.proposingAgentId = agent) := by
  have longer (s extra : String) : s ≠ s ++ "|" ++ extra := by
    intro same
    have lengths := congrArg String.length same
    simp only [String.length_append] at lengths
    have : ("|" : String).length = 1 := by decide
    omega
  rw [Unmixed, not_and_or, not_and_or, not_not, not_not] at mixed
  rcases mixed with task | agent | target
  · obtain ⟨a, b, split⟩ := List.append_of_mem task
    refine ⟨String.ofList a, String.ofList b ++ "|" ++ p.proposingAgentId, p.actionType, p.target,
      ?_, fun same => ofList_ne_of_split split same.1⟩
    simp [front, split]
  · obtain ⟨a, b, split⟩ := List.append_of_mem agent
    refine ⟨p.taskId ++ "|" ++ String.ofList a, String.ofList b, p.actionType, p.target, ?_,
      fun same => longer _ _ same.1⟩
    simp [front, split]
  · rw [not_forall] at target
    obtain ⟨action, named⟩ := target
    obtain ⟨k, y, split⟩ := (infix_iff action.value p.target).mp (by simpa using named)
    cases k with
    | nil =>
      have target := (List.cons.inj split).2
      refine ⟨p.taskId, p.proposingAgentId ++ "|" ++ p.actionType.value, action, String.ofList y, ?_,
        fun same => longer _ _ same.2⟩
      simp [front, target]
    | cons c k =>
      have target := (List.cons.inj split).2
      refine ⟨p.taskId, p.proposingAgentId ++ "|" ++ (p.actionType.value ++ "|" ++ String.ofList k),
        action, String.ofList y, ?_, fun same => longer _ _ same.2⟩
      simp [front, target]

end Content

section Acceptance
variable {r : TokenRules}

/-- The fields a token is to fix, parameters up to the order of their keys. -/
structure SameAction (p p' : ActionProposal) : Prop where
  id : p.id = p'.id
  taskId : p.taskId = p'.taskId
  agent : p.proposingAgentId = p'.proposingAgentId
  actionType : p.actionType = p'.actionType
  target : p.target = p'.target
  parameters : sortKeys (.dict p.parameters) = sortKeys (.dict p'.parameters)
  credits : p.requestedCredits = p'.requestedCredits

/-- The strings that are hashed for a proposal. -/
def hashedFor (r : TokenRules) (p : ActionProposal) : Set String :=
  {contentText r p, canonicalJson r.reprFloat (.dict p.parameters)}

/-- Base64 and JSON give back the claims they were given. -/
structure ReadsBack (r : TokenRules) (c : AuthorizationTokenClaims) : Prop where
  decode : r.b64decode (toB64 r c) = .ok (canonicalJson r.reprFloat (claimsDict r c))
  loads : r.loads (canonicalJson r.reprFloat (claimsDict r c)) = .ok (sortKeys (claimsDict r c))
  floats : ∀ f, r.floatOf (.float f) = some f
  alphabet : '.' ∉ (toB64 r c).toList

def rounded (r : TokenRules) (c : AuthorizationTokenClaims) : AuthorizationTokenClaims :=
  { c with issuedAt := r.round3 c.issuedAt, expiresAt := r.round3 c.expiresAt }

def sortedClaims (r : TokenRules) (c : AuthorizationTokenClaims) : List (String × PyValue) :=
  [("decision_id", .str c.decisionId), ("expires_at", .float (r.round3 c.expiresAt)),
    ("issued_at", .float (r.round3 c.issuedAt)), ("nonce", .str c.nonce), ("org_id", .str c.orgId),
    ("policy_version_hash", .str c.policyVersionHash),
    ("proposal_content_hash", .str c.proposalContentHash), ("proposal_id", .str c.proposalId)]

theorem claimsDict_sorted (r : TokenRules) (c : AuthorizationTokenClaims) :
    sortKeys (claimsDict r c) = .dict (sortedClaims r c) := by
  simp [claimsDict, sortedClaims, sortKeys, sortKeysItems, List.mergeSort]

theorem claimsOf_sorted (c : AuthorizationTokenClaims) (floats : ∀ f, r.floatOf (.float f) = some f) :
    claimsOf r (.dict (sortedClaims r c)) = .ok (rounded r c) := by
  have issued : floatField r (sortedClaims r c) "issued_at" = some (r.round3 c.issuedAt) :=
    floats (r.round3 c.issuedAt)
  have expires : floatField r (sortedClaims r c) "expires_at" = some (r.round3 c.expiresAt) :=
    floats (r.round3 c.expiresAt)
  have org : strField (sortedClaims r c) "org_id" = some c.orgId := rfl
  have proposal : strField (sortedClaims r c) "proposal_id" = some c.proposalId := rfl
  have content : strField (sortedClaims r c) "proposal_content_hash" =
    some c.proposalContentHash := rfl
  have decision : strField (sortedClaims r c) "decision_id" = some c.decisionId := rfl
  have version : strField (sortedClaims r c) "policy_version_hash" = some c.policyVersionHash := rfl
  have nonce : strField (sortedClaims r c) "nonce" = some c.nonce := rfl
  rw [claimsOf]
  rw [org, proposal, content, decision, version, issued, expires, nonce]
  rfl

theorem fromB64_toB64 {c : AuthorizationTokenClaims} (reads : ReadsBack r c) :
    fromB64 r (toB64 r c) = .ok (rounded r c) := by
  rw [fromB64, reads.decode]
  show (r.loads _ >>= claimsOf r) = _
  rw [reads.loads, claimsDict_sorted]
  exact claimsOf_sorted c reads.floats

theorem splitText_three {a b c : String} (ha : '.' ∉ a.toList) (hb : '.' ∉ b.toList)
    (hc : '.' ∉ c.toList) : splitText (a ++ "." ++ b ++ "." ++ c) '.' = [a, b, c] := by
  have shape : (a ++ "." ++ b ++ "." ++ c).toList = a.toList ++ '.' :: (b.toList ++ '.' :: c.toList) := by
    simp
  rw [splitText, shape, List.splitOn_append_cons_self_of_not_mem ha,
    List.splitOn_append_cons_self_of_not_mem hb, List.splitOn_eq_singleton hc]
  simp

theorem splitText_more {a b c : String} (ha : '.' ∈ a.toList) (parts : List String)
    (three : parts.length = 3) : splitText (a ++ "." ++ b ++ "." ++ c) '.' ≠ parts := by
  obtain ⟨x, y, split⟩ := List.append_of_mem ha
  have shape : (a ++ "." ++ b ++ "." ++ c).toList =
      x ++ '.' :: (y ++ '.' :: (b.toList ++ '.' :: c.toList)) := by
    simp [split]
  intro same
  have lengths := congrArg List.length same
  rw [splitText, shape, List.splitOn_append_cons_self, List.splitOn_append_cons_self,
    List.splitOn_append_cons_self, three, List.length_map, List.length_append, List.length_append,
    List.length_append] at lengths
  have some_ (l : List Char) : 0 < (l.splitOn '.').length :=
    List.length_pos_iff.mpr (List.splitOn_ne_nil '.' l)
  have h1 := some_ x
  have h2 := some_ y
  have h3 := some_ b.toList
  have h4 := some_ c.toList
  omega

/-- The claims a token of theirs must carry to be accepted with a proposal. -/
def ClaimsFit (r : TokenRules) (p : ActionProposal) (org : TokenOrganisation)
    (decision : Option PolicyDecision) (now : PyFloat) (c : AuthorizationTokenClaims) : Prop :=
  c.expiresAt.lt now = false ∧ c.orgId = org.id ∧ c.proposalId = p.id ∧
    c.proposalContentHash = getContentHash r p ∧ ∀ d ∈ decision, c.decisionId = d.id

theorem checkClaims_iff (policyVersion : String) (p : ActionProposal) (org : TokenOrganisation)
    (decision : Option PolicyDecision) (now : PyFloat) (c : AuthorizationTokenClaims) :
    (checkClaims r policyVersion p org decision now c).1 = true ↔
      ClaimsFit r p org decision now c ∧ c.policyVersionHash = policyVersion := by
  rw [checkClaims, ClaimsFit]
  split_ifs with expired organisation proposal content decided version
  · simp [expired]
  · simp [organisation]
  · simp [proposal]
  · simp [content]
  · refine iff_of_false id fun fit => ?_
    obtain ⟨d, hd, differ⟩ := decided
    exact differ (fit.1.2.2.2.2 d hd)
  · simp [version]
  · refine iff_of_true rfl ⟨⟨by simpa using expired, not_not.mp organisation, not_not.mp proposal,
      not_not.mp content, fun d hd => ?_⟩, not_not.mp version⟩
    by_contra differ
    exact decided ⟨d, hd, differ⟩

theorem auditClaims_iff (expected : Option String) (p : ActionProposal) (org : TokenOrganisation)
    (decision : Option PolicyDecision) (now : PyFloat) (c : AuthorizationTokenClaims) :
    (auditClaims r expected p org decision now c).1 = true ↔
      ClaimsFit r p org decision now c ∧ ∀ v ∈ expected, v ≠ "" → c.policyVersionHash = v := by
  rw [auditClaims, ClaimsFit]
  split_ifs with expired organisation proposal content decided version
  · simp [expired]
  · simp [organisation]
  · simp [proposal]
  · simp [content]
  · refine iff_of_false id fun fit => ?_
    obtain ⟨d, hd, differ⟩ := decided
    exact differ (fit.1.2.2.2.2 d hd)
  · refine iff_of_false id fun fit => ?_
    obtain ⟨v, hv, given, differ⟩ := version
    exact differ (fit.2 v hv given)
  · refine iff_of_true rfl ⟨⟨by simpa using expired, not_not.mp organisation, not_not.mp proposal,
      not_not.mp content, fun d hd => ?_⟩, fun v hv given => ?_⟩
    · by_contra differ
      exact decided ⟨d, hd, differ⟩
    · by_contra differ
      exact version ⟨v, hv, given, differ⟩

/-- A call that returns with a positive answer. -/
def Accepts (answer : Except PyError (Bool × Option String)) : Prop :=
  ∃ message, answer = .ok (true, message)

theorem accepts_ok (answer : Bool × Option String) : Accepts (.ok answer) ↔ answer.1 = true := by
  obtain ⟨verdict, message⟩ := answer
  constructor
  · rintro ⟨_, same⟩
    exact (Prod.mk.inj (Except.ok.inj same)).1
  · rintro rfl
    exact ⟨message, rfl⟩

theorem tokenOf_parts {c : AuthorizationTokenClaims} (alphabet : '.' ∉ (toB64 r c).toList)
    (mac : ∀ k s, ∀ x ∈ (r.hmac k s).toList, IsHexDigit x) {id : String} (secret : String)
    (undotted : '.' ∉ id.toList.take 8) :
    splitText (tokenOf r secret id c) '.' =
      ["AUTH-" ++ String.ofList (id.toList.take 8), toB64 r c, r.hmac secret (toB64 r c)] := by
  refine splitText_three ?_ alphabet fun dot => absurd (mac secret _ _ dot) (by decide)
  show '.' ∉ ("AUTH-" ++ String.ofList (id.toList.take 8)).toList
  simp [undotted]

theorem tokenOf_dotted {c : AuthorizationTokenClaims} {id : String} (secret : String)
    (dotted : '.' ∈ id.toList.take 8) {parts : List String} (three : parts.length = 3) :
    splitText (tokenOf r secret id c) '.' ≠ parts := by
  refine splitText_more ?_ parts three
  show '.' ∈ ("AUTH-" ++ String.ofList (id.toList.take 8)).toList
  simp [dotted]

theorem tokenOf_ne_empty (secret id : String) (c : AuthorizationTokenClaims) :
    tokenOf r secret id c ≠ "" := by
  intro empty
  have lengths := congrArg String.length empty
  change ("AUTH-" ++ String.ofList (id.toList.take 8) ++ "." ++ toB64 r c ++ "." ++
    r.hmac secret (toB64 r c)).length = ("" : String).length at lengths
  simp only [String.length_append] at lengths
  have : ("." : String).length = 1 := by decide
  have : ("" : String).length = 0 := by decide
  omega

theorem verifierVerify_mac (mac : ∀ k s, ∀ x ∈ (r.hmac k s).toList, IsHexDigit x)
    (secret secret' data : String) :
    verifierVerify r secret' data (r.hmac secret data) =
      .ok (decide (r.hmac secret data = r.hmac secret' data)) := by
  have ascii (k : String) : isAscii (r.hmac k data) = true := isAscii_hex (mac k data)
  rw [verifierVerify, compareDigest, ascii, ascii]
  rfl

/-- A token whose name for the proposal holds a dot has too many parts. -/
theorem dotted_refused {c : AuthorizationTokenClaims} {secret id secret' version : String}
    {p : ActionProposal} {org : TokenOrganisation} {decision : Option PolicyDecision} {now : PyFloat}
    (dotted : '.' ∈ id.toList.take 8) :
    ¬Accepts (verifyToken r secret' version (tokenOf r secret id c) p org decision now) := by
  rw [verifyToken, if_neg (tokenOf_ne_empty secret id c)]
  split_ifs with paused
  · rw [accepts_ok]
    exact Bool.false_ne_true
  · split
    · rename_i found
      exact absurd found (tokenOf_dotted secret dotted rfl)
    · rw [accepts_ok]
      exact Bool.false_ne_true

/-- A token opens for its own claims, unless its name for the proposal holds a dot. -/
theorem verifyToken_iff {c : AuthorizationTokenClaims} (reads : ReadsBack r c)
    (mac : ∀ k s, ∀ x ∈ (r.hmac k s).toList, IsHexDigit x) (secret id secret' version : String)
    (p : ActionProposal) (org : TokenOrganisation) (decision : Option PolicyDecision)
    (now : PyFloat) :
    Accepts (verifyToken r secret' version (tokenOf r secret id c) p org decision now) ↔
      '.' ∉ id.toList.take 8 ∧ org.state ≠ .paused ∧
        r.hmac secret (toB64 r c) = r.hmac secret' (toB64 r c) ∧
        ClaimsFit r p org decision now (rounded r c) ∧ c.policyVersionHash = version := by
  by_cases dotted : '.' ∈ id.toList.take 8
  · exact iff_of_false (dotted_refused dotted) fun fit => fit.1 dotted
  · rw [verifyToken, if_neg (tokenOf_ne_empty secret id c)]
    split_ifs with paused
    · refine iff_of_false ?_ fun fit => fit.2.1 paused
      rw [accepts_ok]
      exact Bool.false_ne_true
    · rw [tokenOf_parts reads.alphabet mac secret dotted]
      dsimp only
      rw [if_pos (startsWith_append _ _), verifierVerify_mac mac]
      by_cases signed : r.hmac secret (toB64 r c) = r.hmac secret' (toB64 r c)
      · simp only [signed, decide_true, fromB64_toB64 reads]
        rw [accepts_ok, checkClaims_iff]
        exact ⟨fun fit => ⟨dotted, paused, trivial, fit⟩, fun fit => fit.2.2.2⟩
      · simp only [signed, decide_false]
        rw [accepts_ok]
        exact iff_of_false Bool.false_ne_true fun fit => fit.2.2.1

theorem verifyAuthorizationToken_iff {c : AuthorizationTokenClaims} (reads : ReadsBack r c)
    (mac : ∀ k s, ∀ x ∈ (r.hmac k s).toList, IsHexDigit x) (secret id : String)
    (secret' expected : Option String) (p : ActionProposal) (org : TokenOrganisation)
    (decision : Option PolicyDecision) (now : PyFloat) :
    Accepts (verifyAuthorizationToken r secret' expected (some (tokenOf r secret id c)) p org decision
        now) ↔
      '.' ∉ id.toList.take 8 ∧ org.state ≠ .paused ∧
        (∀ k ∈ secret', r.hmac secret (toB64 r c) = r.hmac k (toB64 r c)) ∧
        ClaimsFit r p org decision now (rounded r c) ∧
        ∀ v ∈ expected, v ≠ "" → c.policyVersionHash = v := by
  have present : ¬(some (tokenOf r secret id c) = none ∨ some (tokenOf r secret id c) = some "") := by
    simp [tokenOf_ne_empty]
  rw [verifyAuthorizationToken, if_neg present]
  split_ifs with paused
  · refine iff_of_false ?_ fun fit => fit.2.1 paused
    rw [accepts_ok]
    exact Bool.false_ne_true
  · rw [Option.getD_some]
    by_cases dotted : '.' ∈ id.toList.take 8
    · refine iff_of_false ?_ fun fit => fit.1 dotted
      split
      · rename_i found
        exact absurd found (tokenOf_dotted secret dotted rfl)
      · rw [accepts_ok]
        exact Bool.false_ne_true
    · rw [tokenOf_parts reads.alphabet mac secret dotted]
      dsimp only
      rw [if_pos (startsWith_append _ _)]
      cases secret' with
      | none =>
        simp only [Option.elim_none, fromB64_toB64 reads]
        rw [accepts_ok, auditClaims_iff]
        exact ⟨fun fit => ⟨dotted, paused, by simp, fit⟩, fun fit => fit.2.2.2⟩
      | some k =>
        simp only [Option.elim_some, verifierVerify_mac mac]
        by_cases signed : r.hmac secret (toB64 r c) = r.hmac k (toB64 r c)
        · simp only [signed, decide_true, fromB64_toB64 reads]
          rw [accepts_ok, auditClaims_iff]
          exact ⟨fun fit => ⟨dotted, paused, by simp, fit⟩, fun fit => fit.2.2.2⟩
        · simp only [signed, decide_false]
          rw [accepts_ok]
          exact iff_of_false Bool.false_ne_true fun fit => signed (fit.2.2.1 k rfl)

/-- What holds of a proposal that fits the claims of a token for `p`. -/
theorem sameAction_of_fit (laws : FloatText r.reprFloat)
    (digest : ∀ s, ∀ x ∈ (r.sha256 s).toList, IsHexDigit x) {p p' : ActionProposal}
    (unmixed : Unmixed p) (ids : p.id = p'.id)
    (injective : Set.InjOn r.sha256 (hashedFor r p ∪ hashedFor r p'))
    (hashes : getContentHash r p = getContentHash r p') : SameAction p p' := by
  have noBar (items : List (String × PyValue)) : '|' ∉ (r.ofJson items).toList :=
    fun bar => absurd (digest _ _ bar) (by decide)
  have noDigit (n : Nat) : '|' ∉ n.repr.toList := by
    intro bar
    rw [Nat.toList_repr] at bar
    exact absurd (Nat.isDigit_of_mem_toDigits (by decide) (by decide) bar) (by decide)
  have texts : contentText r p = contentText r p' :=
    injective (.inl (.inl rfl)) (.inr (.inl rfl)) hashes
  have lists := congrArg String.toList texts
  rw [contentText_toList, contentText_toList, ids] at lists
  have tails := (List.cons.inj (List.append_cancel_left lists)).2
  obtain ⟨fronts, payloads⟩ := append_cons_inj_last (noBar _) (noBar _) tails
  obtain ⟨fronts, credits⟩ := append_cons_inj_last (noDigit _) (noDigit _) fronts
  obtain ⟨task, agent, action, target⟩ := unmixed_inj unmixed fronts
  have canonical : canonicalJson r.reprFloat (.dict p.parameters) =
      canonicalJson r.reprFloat (.dict p'.parameters) :=
    injective (.inl (.inr rfl)) (.inr (.inr rfl)) (String.toList_inj.mp payloads)
  exact ⟨ids, task, agent, action, target, canonicalJson_inj laws canonical, digits_inj credits⟩

/-- A token that opens for `p` and no other action. -/
def Fixes (r : TokenRules) (p : ActionProposal) (accepts : ActionProposal → Prop) : Prop :=
  ∀ p', accepts p' → Set.InjOn r.sha256 (hashedFor r p ∪ hashedFor r p') → SameAction p p'

/-- The condition under which a token fixes its action: it opens for nothing, or the joined
fields have one reading. -/
def Bound (p : ActionProposal) : Prop := '.' ∈ p.id.toList.take 8 ∨ Unmixed p

/-- The two readers accept a second reading of mixed fields as they accept the first. -/
theorem fixes_iff (laws : FloatText r.reprFloat)
    (digest : ∀ s, ∀ x ∈ (r.sha256 s).toList, IsHexDigit x) {p : ActionProposal}
    (injective : Set.InjOn r.sha256 (hashedFor r p)) {accepts : ActionProposal → Prop}
    (opens : ∀ p', accepts p' ↔
      '.' ∉ p.id.toList.take 8 ∧ p.id = p'.id ∧ getContentHash r p = getContentHash r p') :
    Fixes r p accepts ↔ Bound p := by
  constructor
  · intro fixes
    by_contra loose
    obtain ⟨undotted, mixed⟩ := not_or.mp loose
    obtain ⟨taskId, agent, action, target, fronts, differ⟩ := mixed_resplits mixed
    let p' : ActionProposal :=
      { p with taskId := taskId, proposingAgentId := agent, actionType := action, target := target }
    have texts : contentText r p' = contentText r p := by
      apply String.toList_inj.mp
      rw [contentText_toList, contentText_toList, fronts]
    have hashed : hashedFor r p' = hashedFor r p := by
      rw [hashedFor, hashedFor, texts]
    have accepted : accepts p' :=
      (opens p').mpr ⟨undotted, rfl, by rw [getContentHash, getContentHash, texts]⟩
    have same := fixes p' accepted (by rwa [hashed, Set.union_self])
    exact differ ⟨same.taskId, same.agent⟩
  · rintro bound p' accepted injective'
    obtain ⟨undotted, ids, hashes⟩ := (opens p').mp accepted
    exact sameAction_of_fit laws digest (bound.resolve_left undotted) ids injective' hashes

end Acceptance

section Samples

/-- Integral floats as Python prints them. -/
def printFloat : PyFloat → String
  | .finite q => toString q.num ++ "." ++ (if q.den = 1 then 0 else q.den).repr
  | .inf negative => if negative then "-Infinity" else "Infinity"
  | .nan => "NaN"

theorem finite_toList (q : Rat) : (printFloat (.finite q)).toList =
    (toString q.num).toList ++ '.' :: (if q.den = 1 then 0 else q.den).repr.toList := by
  rw [printFloat, String.toList_append, String.toList_append, List.append_assoc]
  rfl

theorem dot_notInt (i : Int) : '.' ∉ (toString i).toList := fun dot =>
  absurd (int_shape i '.' dot) (by decide)

theorem finite_dot (q : Rat) : '.' ∈ (printFloat (.finite q)).toList := by
  rw [finite_toList]
  simp

theorem finite_inj {p q : Rat} (same : printFloat (.finite p) = printFloat (.finite q)) : p = q := by
  have texts := congrArg String.toList same
  rw [finite_toList, finite_toList] at texts
  obtain ⟨nums, dens⟩ := append_cons_inj_first (dot_notInt _) (dot_notInt _) texts
  have den := digits_inj dens
  refine Rat.ext (int_inj (String.toList_inj.mp nums)) ?_
  have hp := p.den_nz
  have hq := q.den_nz
  split_ifs at den with one one' one'
  · rw [one, one']
  · exact absurd den.symm hq
  · exact absurd den hp
  · exact den

theorem finite_ne {q : Rat} {s : String} (plain : '.' ∉ s.toList) : printFloat (.finite q) ≠ s := by
  intro same
  rw [← same] at plain
  exact plain (finite_dot q)

theorem infinite_dot (f : PyFloat) (infinite : ∀ q, f ≠ .finite q) : '.' ∉ (printFloat f).toList := by
  cases f with
  | finite q => exact absurd rfl (infinite q)
  | inf negative => cases negative <;> decide
  | nan => decide

theorem printFloat_inj : ∀ f g, printFloat f = printFloat g → f = g := by
  intro f g same
  cases f with
  | finite p =>
    cases g with
    | finite q => rw [finite_inj same]
    | inf negative => exact absurd same (finite_ne (infinite_dot _ (by simp)))
    | nan => exact absurd same (finite_ne (infinite_dot _ (by simp)))
  | inf negative =>
    cases g with
    | finite q => exact absurd same.symm (finite_ne (infinite_dot _ (by simp)))
    | inf negative' =>
      cases negative <;> cases negative' <;> first | rfl | exact absurd same (by decide)
    | nan => cases negative <;> exact absurd same (by decide)
  | nan =>
    cases g with
    | finite q => exact absurd same.symm (finite_ne (infinite_dot _ (by simp)))
    | inf negative => cases negative <;> exact absurd same (by decide)
    | nan => rfl

theorem printFloat_laws : FloatText printFloat where
  injective := printFloat_inj
  word f := by
    cases f with
    | finite q =>
      rw [finite_toList]
      refine ⟨by simp, fun c hc => ?_⟩
      rcases List.mem_append.mp hc with num | rest
      · exact (int_chars q.num).2 c num
      · rcases List.mem_cons.mp rest with rfl | den
        · decide
        · rw [Nat.toList_repr] at den
          exact digit_notStructural (Nat.isDigit_of_mem_toDigits (by decide) (by decide) den)
    | inf negative => cases negative <;> exact ⟨by decide, by decide⟩
    | nan => exact ⟨by decide, by decide⟩
  notInt f i := by
    cases f with
    | finite q => exact finite_ne (dot_notInt i)
    | inf negative =>
      intro same
      have letter : 'I' ∈ (toString i).toList := by
        rw [← same]
        cases negative <;> decide
      exact absurd (int_shape i 'I' letter) (by decide)
    | nan =>
      intro same
      have letter : 'N' ∈ (toString i).toList := by
        rw [← same]
        decide
      exact absurd (int_shape i 'N' letter) (by decide)
  notName f := by
    cases f with
    | finite q =>
      have dots : ∀ s ∈ ["null", "true", "false"], '.' ∉ s.toList := by decide
      exact fun name => dots _ name (finite_dot q)
    | inf negative => cases negative <;> decide
    | nan => decide

def zeros : String := String.ofList (List.replicate 64 '0')

def emptyHash : String := "44136fa355b3678a1146ad16f7e8649e94fb4fc21fe77e8310c060f61caaff8a"

/-- The claims of a sample's token, and the text they are written as. -/
def sampleClaims (contentHash : String) : AuthorizationTokenClaims :=
  ⟨"o", "p", contentHash, "d", "v", .finite 0, .finite 60, "n"⟩

def sampleText (contentHash : String) : String :=
  canonicalJson printFloat (.dict [("org_id", .str "o"), ("proposal_id", .str "p"),
    ("proposal_content_hash", .str contentHash), ("decision_id", .str "d"),
    ("policy_version_hash", .str "v"), ("issued_at", .float (.finite 0)),
    ("expires_at", .float (.finite 60)), ("nonce", .str "n")])

/-- The functions of one token: what SHA-256, HMAC under the secret `s` and base64 give for
its texts. -/
def sampleRules (content contentHash b64 signature : String) : TokenRules where
  sha256 s := if s = "\x7b\x7d" then emptyHash else if s = content then contentHash else zeros
  reprFloat := printFloat
  hmac k s := if k = "s" ∧ s = b64 then signature else zeros
  b64encode s := if s = sampleText contentHash then b64 else ""
  b64decode s := if s = b64 then .ok (sampleText contentHash) else .error ⟨.valueError, "Incorrect padding"⟩
  loads s := if s = sampleText contentHash then .ok (.dict [("decision_id", .str "d"), ("expires_at", .float (.finite 60)),
      ("issued_at", .float (.finite 0)), ("nonce", .str "n"), ("org_id", .str "o"),
      ("policy_version_hash", .str "v"), ("proposal_content_hash", .str contentHash),
      ("proposal_id", .str "p")])
    else .error ⟨.valueError, "Expecting value"⟩
  round3 f := f
  add a b := match a, b with
    | .finite p, .finite q => .finite (p + q)
    | _, _ => .nan
  floatOf v := match v with
    | .float f => some f
    | .int i => some (.finite i)
    | _ => none
  invalid _ := ⟨.validationError, "1 validation error for AuthorizationTokenClaims"⟩

def sampleIssue : Issue := ⟨.finite 0, .finite 60, "", "n"⟩

def sampleProposal (agent : String) (action : ActionType) (target : String) : ActionProposal where
  id := "p"
  taskId := "t"
  proposingAgentId := agent
  actionType := action
  target := target
  parameters := []
  requestedCredits := 1

section Rules
variable {content contentHash b64 signature : String} {p : ActionProposal}

theorem sample_digest (hash : ∀ x ∈ contentHash.toList, IsHexDigit x) (s : String) :
    ∀ x ∈ ((sampleRules content contentHash b64 signature).sha256 s).toList, IsHexDigit x := by
  show ∀ x ∈ (if s = "\x7b\x7d" then emptyHash else if s = content then contentHash else zeros).toList,
    IsHexDigit x
  split_ifs
  · decide +kernel
  · exact hash
  · decide

theorem sample_mac (mac : ∀ x ∈ signature.toList, IsHexDigit x) (k s : String) :
    ∀ x ∈ ((sampleRules content contentHash b64 signature).hmac k s).toList, IsHexDigit x := by
  show ∀ x ∈ (if k = "s" ∧ s = b64 then signature else zeros).toList, IsHexDigit x
  split_ifs
  · exact mac
  · decide

theorem sample_empty (empty : p.parameters = []) :
    canonicalJson printFloat (.dict p.parameters) = "\x7b\x7d" := by
  rw [empty]
  simp [canonicalJson, canonicalItems]
  decide

theorem sample_claims (id : p.id = "p")
    (text : contentText (sampleRules content contentHash b64 signature) p = content)
    (known : content ≠ "\x7b\x7d") :
    issuedClaims (sampleRules content contentHash b64 signature) "v" p "o" (some "d")
      sampleIssue = sampleClaims contentHash := by
  have hash : getContentHash (sampleRules content contentHash b64 signature) p = contentHash := by
    rw [getContentHash, text]
    show (if content = "\x7b\x7d" then _ else if content = content then _ else _) = _
    rw [if_neg known, if_pos rfl]
  have sum : PyFloat.finite (0 + 60) = PyFloat.finite 60 := by
    rw [zero_add]
  rw [issuedClaims, hash, id]
  show AuthorizationTokenClaims.mk _ _ _ _ _ _ (PyFloat.finite (0 + 60)) _ = _
  rw [sum]
  rfl

theorem sample_reads (id : p.id = "p")
    (text : contentText (sampleRules content contentHash b64 signature) p = content)
    (known : content ≠ "\x7b\x7d") (alphabet : '.' ∉ b64.toList) :
    ReadsBack (sampleRules content contentHash b64 signature)
      (issuedClaims (sampleRules content contentHash b64 signature) "v" p "o" (some "d")
        sampleIssue) := by
  rw [sample_claims id text known]
  have encoded : toB64 (sampleRules content contentHash b64 signature) (sampleClaims contentHash) =
      b64 := if_pos rfl
  refine ⟨?_, ?_, fun f => rfl, by rwa [encoded]⟩
  · rw [encoded]
    exact if_pos rfl
  · rw [claimsDict_sorted]
    exact if_pos rfl

theorem sample_injective (empty : p.parameters = [])
    (text : contentText (sampleRules content contentHash b64 signature) p = content)
    (known : content ≠ "\x7b\x7d") (apart : contentHash ≠ emptyHash) :
    Set.InjOn (sampleRules content contentHash b64 signature).sha256
      (hashedFor (sampleRules content contentHash b64 signature) p) := by
  have values : ∀ s ∈ hashedFor (sampleRules content contentHash b64 signature) p,
      s = content ∨ s = "\x7b\x7d" := by
    rintro s (rfl | rfl)
    · exact .inl text
    · exact .inr (sample_empty empty)
  have hashC : (sampleRules content contentHash b64 signature).sha256 content = contentHash := by
    show (if content = "\x7b\x7d" then _ else if content = content then _ else _) = _
    rw [if_neg known, if_pos rfl]
  have hashE : (sampleRules content contentHash b64 signature).sha256 "\x7b\x7d" = emptyHash :=
    rfl
  intro s hs s' hs' same
  rcases values s hs with rfl | rfl
  · rcases values s' hs' with rfl | rfl
    · rfl
    · rw [hashC, hashE] at same
      exact absurd same apart
  · rcases values s' hs' with rfl | rfl
    · rw [hashC, hashE] at same
      exact absurd same.symm apart
    · rfl

end Rules

theorem dot_append {a b : String} (ha : '.' ∉ a.toList) (hb : '.' ∉ b.toList) :
    '.' ∉ (a ++ b).toList := by
  rw [String.toList_append, List.mem_append, not_or]
  exact ⟨ha, hb⟩

/-- The claims in base64. -/
def plainClaims : String :=
  "eyJkZWNpc2lvbl9pZCI6ImQiLCJleHBpcmVzX2F0Ijo2MC4wLC" ++
    "Jpc3N1ZWRfYXQiOjAuMCwibm9uY2UiOiJuIiwib3JnX2lkIjoi" ++
    "byIsInBvbGljeV92ZXJzaW9uX2hhc2giOiJ2IiwicHJvcG9zYW" ++
    "xfY29udGVudF9oYXNoIjoiOGFjOWE1N2JlNjAxYmM3Y2NhNjZm" ++
    "OTIxYjY1NzFlOGJmNWE5Y2VmMDY0YTgwNzNhMWQ0MmJiMGJjNG" ++
    "I3MmY4MCIsInByb3Bvc2FsX2lkIjoicCJ9"

theorem plain_alphabet : '.' ∉ plainClaims.toList := by
  refine dot_append (dot_append (dot_append (dot_append (dot_append ?_ ?_) ?_) ?_) ?_) ?_
  all_goals decide +kernel

def plainRules : TokenRules := sampleRules
  "p|t|a|DATA_FETCH|x|1|44136fa355b3678a1146ad16f7e8649e94fb4fc21fe77e8310c060f61caaff8a"
  "8ac9a57be601bc7cca66f921b6571e8bf5a9cef064a8073a1d42bb0bc4b72f80"
  plainClaims
  "301ea69b51118dbf219eb2aaac05e8f25939c95e9d85e883591df35f0bc0e976"

def barredClaims : String :=
  "eyJkZWNpc2lvbl9pZCI6ImQiLCJleHBpcmVzX2F0Ijo2MC4wLC" ++
    "Jpc3N1ZWRfYXQiOjAuMCwibm9uY2UiOiJuIiwib3JnX2lkIjoi" ++
    "byIsInBvbGljeV92ZXJzaW9uX2hhc2giOiJ2IiwicHJvcG9zYW" ++
    "xfY29udGVudF9oYXNoIjoiNzJhOTcwZDNhY2IyMWE5YmRhZWVk" ++
    "OGE3ZTgyMDE2NjBiN2JjZGU0ZjFmNzBiMjY0ODVhZjI0NjhlMz" ++
    "BjNDcyOCIsInByb3Bvc2FsX2lkIjoicCJ9"

theorem barred_alphabet : '.' ∉ barredClaims.toList := by
  refine dot_append (dot_append (dot_append (dot_append (dot_append ?_ ?_) ?_) ?_) ?_) ?_
  all_goals decide +kernel

def barredRules : TokenRules := sampleRules
  "p|t|a|DATA_FETCH|EXTERNAL_API_CALL|x|1|44136fa355b3678a1146ad16f7e8649e94fb4fc21fe77e8310c060f61caaff8a"
  "72a970d3acb21a9bdaeed8a7e8201660b7bcde4f1f70b26485af2468e30c4728"
  barredClaims
  "d6c9b9442027c6a7f54bd560150a9a7153f534e802fbc068aacb37fadaf8c1b8"

end Samples

end TokenBinding
