import KalyxMao.TokenBinding

/-!
# The two readers of an authorization token

The policy engine and the auditor take a token apart on their own. They agree on
every token; but a token carries the first characters of its proposal's
identifier before its first dot, and a signature outside ASCII is compared by a
function that takes ASCII only.
-/

namespace TokenAgreement
open PythonText PythonValues Domain TokenBinding

section Property
variable (r : TokenRules) (secret version : String)

/-- A verifier's answer up to its message. -/
def verdict (answer : Except PyError (Bool × Option String)) : Except PyError Bool :=
  answer.map Prod.fst

/-- `decision` is none, or the one the token was generated with. -/
def Issued (c : AuthorizationTokenClaims) (decision : Option PolicyDecision) : Prop :=
  ∀ d ∈ decision, c.decisionId = d.id

/-- Both readers accept a proposal's own token at every moment up to its expiry. -/
def OpensForOwn (p : ActionProposal) (org : TokenOrganisation) (decisionId : Option String)
    (i : Issue) : Prop :=
  ∀ decision now, Issued (issuedClaims r version p org.id decisionId i) decision →
    (r.round3 (r.add i.now i.ttl)).lt now = false →
    Accepts (verifyToken r secret version (generateToken r secret version p org.id decisionId i) p org
      decision now) ∧
    Accepts (verifyAuthorizationToken r (some secret) (some version)
      (some (generateToken r secret version p org.id decisionId i)) p org decision now)

/-- Neither reader raises. -/
def Returns (token : String) (p : ActionProposal) (org : TokenOrganisation)
    (decision : Option PolicyDecision) (now : PyFloat) : Prop :=
  (∃ answer, verifyToken r secret version token p org decision now = .ok answer) ∧
    ∃ answer, verifyAuthorizationToken r (some secret) (some version) (some token) p org decision now =
      .ok answer

/-- Where the signature of a token is looked at, it is ASCII. -/
def PlainSignature (token : String) (org : TokenOrganisation) : Prop :=
  org.state ≠ .paused → ∀ start b64 signature, splitText token '.' = [start, b64, signature] →
    startsWith start "AUTH-" = true → isAscii signature = true

end Property

section Agreement
variable {r : TokenRules} {secret version token : String} {p : ActionProposal}
  {org : TokenOrganisation} {decision : Option PolicyDecision} {now : PyFloat}

/-- With a version to expect, the auditor's checks come out as the engine's. -/
theorem auditClaims_same (named : version ≠ "") (c : AuthorizationTokenClaims) :
    (auditClaims r (some version) p org decision now c).1 =
      (checkClaims r version p org decision now c).1 := by
  rw [Bool.eq_iff_iff, auditClaims_iff, checkClaims_iff]
  simp [named]

/-- The two readers answer alike, and raise alike. -/
theorem verdicts_agree (named : version ≠ "") (token : String) :
    verdict (verifyToken r secret version token p org decision now) =
      verdict (verifyAuthorizationToken r (some secret) (some version) (some token) p org decision
        now) := by
  unfold verifyToken verifyAuthorizationToken
  by_cases empty : token = ""
  · rw [if_pos empty, if_pos (.inr (congrArg some empty))]
  · have present : ¬(some token = none ∨ some token = some "") := by simp [empty]
    rw [if_neg empty, if_neg present]
    by_cases paused : org.state = .paused
    · rw [if_pos paused, if_pos paused]
    · rw [if_neg paused, if_neg paused, Option.getD_some]
      split
      · rename_i start b64 signature parts
        split
        · rw [Option.elim_some]
          cases verifierVerify r secret b64 signature with
          | error err => rfl
          | ok signed =>
            cases signed with
            | false => rfl
            | true =>
              dsimp only
              cases fromB64 r b64 with
              | error err => rfl
              | ok c => exact congrArg Except.ok (auditClaims_same named c).symm
        · rfl
      · rfl

theorem isAscii_hmac (mac : ∀ k s, ∀ x ∈ (r.hmac k s).toList, IsHexDigit x) (data : String) :
    isAscii (r.hmac secret data) = true :=
  isAscii_hex (mac secret data)

/-- A signature is compared with a digest if and only if it is ASCII. -/
theorem verifierVerify_returns (mac : ∀ k s, ∀ x ∈ (r.hmac k s).toList, IsHexDigit x)
    (data signature : String) :
    (∃ answer, verifierVerify r secret data signature = .ok answer) ↔ isAscii signature = true := by
  rw [verifierVerify, compareDigest, isAscii_hmac mac, Bool.and_true]
  cases isAscii signature with
  | true => simp
  | false => simp

theorem verifyToken_returns (mac : ∀ k s, ∀ x ∈ (r.hmac k s).toList, IsHexDigit x) :
    (∃ answer, verifyToken r secret version token p org decision now = .ok answer) ↔
      PlainSignature token org := by
  unfold verifyToken PlainSignature
  by_cases empty : token = ""
  · rw [if_pos empty]
    refine iff_of_true ⟨_, rfl⟩ ?_
    intro _ start b64 signature parts
    rw [empty] at parts
    cases parts
  · rw [if_neg empty]
    by_cases paused : org.state = .paused
    · rw [if_pos paused]
      exact iff_of_true ⟨_, rfl⟩ fun active => absurd paused active
    · rw [if_neg paused]
      split
      · rename_i start b64 signature parts
        split
        · rename_i starts
          have judged : (∃ answer, verifierVerify r secret b64 signature = .ok answer) ↔ _ :=
            verifierVerify_returns mac b64 signature
          have plain : (org.state ≠ .paused → ∀ start' b64' signature',
              splitText token '.' = [start', b64', signature'] →
                startsWith start' "AUTH-" = true → isAscii signature' = true) ↔
              isAscii signature = true := by
            constructor
            · intro all
              exact all paused start b64 signature parts starts
            · intro ascii _ start' b64' signature' parts' _
              have same := parts.symm.trans parts'
              simp only [List.cons.injEq, and_true] at same
              rw [← same.2.2]
              exact ascii
          rw [plain, ← judged]
          cases verifierVerify r secret b64 signature with
          | error err => simp
          | ok signed =>
            refine iff_of_true ?_ ⟨signed, rfl⟩
            cases signed with
            | false => exact ⟨_, rfl⟩
            | true =>
              dsimp only
              cases fromB64 r b64 with
              | error err => exact ⟨_, rfl⟩
              | ok c => exact ⟨_, rfl⟩
        · rename_i other
          refine iff_of_true ⟨_, rfl⟩ ?_
          intro _ start' b64' signature' parts' starts
          have same := parts.symm.trans parts'
          simp only [List.cons.injEq, and_true] at same
          exact absurd (same.1 ▸ starts) other
      · rename_i other
        refine iff_of_true ⟨_, rfl⟩ ?_
        intro _ start b64 signature parts
        exact absurd parts (other start b64 signature)

theorem verdict_returns {answer : Except PyError (Bool × Option String)} :
    (∃ b, verdict answer = .ok b) ↔ ∃ pair, answer = .ok pair := by
  cases answer with
  | error err => simp [verdict, Except.map]
  | ok pair => simp [verdict, Except.map]

theorem returns_iff (named : version ≠ "") (mac : ∀ k s, ∀ x ∈ (r.hmac k s).toList, IsHexDigit x) :
    Returns r secret version token p org decision now ↔ PlainSignature token org := by
  have both : (∃ answer, verifyToken r secret version token p org decision now = .ok answer) ↔
      ∃ answer, verifyAuthorizationToken r (some secret) (some version) (some token) p org decision now =
        .ok answer := by
    rw [← verdict_returns, ← verdict_returns, verdicts_agree named]
  rw [Returns, ← both, and_self, verifyToken_returns mac]

/-- A proposal's own token opens for it unless there is a dot in the name it starts with. -/
theorem opensForOwn_iff (mac : ∀ k s, ∀ x ∈ (r.hmac k s).toList, IsHexDigit x) (active : org.state ≠ .paused)
    {decisionId : Option String} {i : Issue}
    (reads : ReadsBack r (issuedClaims r version p org.id decisionId i)) :
    OpensForOwn r secret version p org decisionId i ↔ '.' ∉ p.id.toList.take 8 := by
  constructor
  · intro opens
    have opened := (opens none (r.round3 (r.add i.now i.ttl)) nofun (PyFloat.lt_irrefl _)).1
    exact ((verifyToken_iff reads mac ..).mp opened).1
  · intro undotted decision now issued unexpired
    have fit : ClaimsFit r p org decision now (rounded r (issuedClaims r version p org.id decisionId i)) :=
      ⟨unexpired, rfl, rfl, rfl, issued⟩
    constructor
    · exact (verifyToken_iff reads mac ..).mpr ⟨undotted, active, rfl, fit, rfl⟩
    · refine (verifyAuthorizationToken_iff reads mac ..).mpr ⟨undotted, active, ?_, fit, ?_⟩
      · rintro k ⟨⟩
        rfl
      · rintro v ⟨⟩ _
        rfl

end Agreement

/-- With one secret and policy version: a proposal's token opens for it up to its expiry if and only
if the first eight characters of the identifier hold no dot; the readers never differ; and both
return if and only if the signature that they look at is ASCII. -/
theorem readers_agree_iff {r : TokenRules} {secret version : String} (named : version ≠ "")
    (mac : ∀ k s, ∀ x ∈ (r.hmac k s).toList, IsHexDigit x) :
    (∀ (p : ActionProposal) (org : TokenOrganisation) (decisionId : Option String) (i : Issue),
      org.state ≠ .paused → ReadsBack r (issuedClaims r version p org.id decisionId i) →
      (OpensForOwn r secret version p org decisionId i ↔ '.' ∉ p.id.toList.take 8)) ∧
    ∀ (token : String) (p : ActionProposal) (org : TokenOrganisation) (decision : Option PolicyDecision)
      (now : PyFloat),
      verdict (verifyToken r secret version token p org decision now) =
          verdict (verifyAuthorizationToken r (some secret) (some version) (some token) p org decision now) ∧
        (Returns r secret version token p org decision now ↔ PlainSignature token org) := by
  constructor
  · intro p org decisionId i active reads
    exact opensForOwn_iff mac active reads
  · intro token p org decision now
    exact ⟨verdicts_agree named token, returns_iff named mac⟩

section Samples

/-- The token of a plain proposal opens for it, and one without a signature is refused. -/
theorem plain_token_opens :
    OpensForOwn plainRules "s" "v" (sampleProposal "a" .dataFetch "x") ⟨"o", .executing⟩ (some "d")
      sampleIssue ∧
    Returns plainRules "s" "v" "AUTH-p.." (sampleProposal "a" .dataFetch "x") ⟨"o", .executing⟩ none
      (.finite 0) := by
  have text : contentText plainRules (sampleProposal "a" .dataFetch "x") =
      "p|t|a|DATA_FETCH|x|1|44136fa355b3678a1146ad16f7e8649e94fb4fc21fe77e8310c060f61caaff8a" := by
    rw [contentText, Hashing.ofJson, show plainRules.reprFloat = printFloat from rfl,
      sample_empty rfl]
    decide +kernel
  have agree := @readers_agree_iff plainRules "s" "v" (by decide) (sample_mac (by decide +kernel))
  constructor
  · refine (agree.1 (sampleProposal "a" .dataFetch "x") ⟨"o", .executing⟩ (some "d") sampleIssue
      (by decide) (sample_reads rfl text (by decide +kernel) plain_alphabet)).mpr ?_
    decide
  · refine (agree.2 _ _ _ _ _).2.mpr ?_
    intro _ start b64 signature parts _
    have unsigned : splitText "AUTH-p.." '.' = ["AUTH-p", "", ""] := by decide +kernel
    have same := unsigned.symm.trans parts
    simp only [List.cons.injEq, and_true] at same
    rw [← same.2.2]
    decide

/-- Whatever the digests and codings are, a proposal named `a.b` is refused with its own token, and
a signature that is an accented letter raises. -/
theorem dotted_and_accented :
    (¬∃ r secret version orgId decisionId i org decision now, Accepts (verifyToken r secret version
      (generateToken r secret version { sampleProposal "a" .dataFetch "x" with id := "a.b" } orgId
        decisionId i) { sampleProposal "a" .dataFetch "x" with id := "a.b" } org decision now)) ∧
    ¬∃ r secret version answer, verifyToken r secret version "AUTH-p.e30=.é"
      (sampleProposal "a" .dataFetch "x") ⟨"o", .executing⟩ none (.finite 0) = .ok answer := by
  constructor
  · rintro ⟨r, secret, version, orgId, decisionId, i, org, decision, now, accepted⟩
    exact dotted_refused (by decide) accepted
  · rintro ⟨r, secret, version, answer, returned⟩
    have parts : splitText "AUTH-p.e30=.é" '.' = ["AUTH-p", "e30=", "é"] := by decide +kernel
    have accented : verifierVerify r secret "e30=" "é" =
      .error ⟨.typeError, "comparing strings with non-ASCII characters is not supported"⟩ := rfl
    rw [verifyToken, if_neg (by decide), if_neg (by decide), parts] at returned
    dsimp only at returned
    rw [if_pos (by decide +kernel), accented] at returned
    cases returned

end Samples

end TokenAgreement
