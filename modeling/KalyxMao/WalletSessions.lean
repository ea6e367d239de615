import KalyxMao.Connections
import KalyxMao.KeyedLists
import KalyxMao.ProgramPools
import KalyxMao.PythonConversions

/-!
# Wallet challenges and the sessions they open

A request reads a challenge that is not consumed, checks its expiry and the
signature, marks it as consumed, and opens a session. Every request has its own
connection, and the read is a statement apart from the update, which does not
look at the mark again.
-/

namespace WalletSessions
open PythonText PythonValues PythonConversions EffectPrograms EffectPrograms.Prog ProgramPools
open Connections KeyedLists

section Tables

structure Challenge where
  id : String
  address : String
  message : String
  expiresAt : PyFloat
  consumed : Bool
  deriving DecidableEq

structure User where
  id : String
  principalId : String
  displayName : String
  deriving DecidableEq

/-- An identity of the kind `wallet`. -/
structure Identity where
  id : String
  userId : String
  subject : String
  chainId : Int
  deriving DecidableEq

structure Membership where
  principalId : String
  tenantId : String
  active : Bool
  deriving DecidableEq

/-- A session; the last two fields are no columns: the challenge it was opened with, as it was
read, and the time at which its expiry was checked. -/
structure Session where
  id : String
  userId : String
  principalId : String
  tokenHash : String
  expiresAt : PyFloat
  challenge : Challenge
  checkedAt : PyFloat
  deriving DecidableEq

structure Tables where
  challenges : List Challenge
  users : List User
  identities : List Identity
  tenants : List (String × String)
  principals : List (String × String)
  memberships : List Membership
  sessions : List Session

/-- The statements that write. -/
inductive Statement where
  | consumeChallenge (challengeId : String)
  | insertUser (user : User)
  | insertIdentity (identity : Identity)
  | insertTenant (id name : String)
  | savePrincipal (id name : String)
  | saveMembership (membership : Membership)
  | insertSession (session : Session)

def uniqueFailed (columns : String) : PyError :=
  ⟨.integrityError, s!"UNIQUE constraint failed: {columns}"⟩

/-- `UPDATE wallet_challenges SET consumed = TRUE WHERE id = ?`. -/
def markConsumed (challengeId : String) (challenges : List Challenge) : List Challenge :=
  challenges.map fun c => if c.id = challengeId then { c with consumed := true } else c

def Statement.apply (t : Tables) : Statement → Except PyError (Unit × Tables)
  | .consumeChallenge challengeId =>
    .ok ((), { t with challenges := markConsumed challengeId t.challenges })
  | .insertUser user =>
    if t.users.any fun u => u.id = user.id || u.principalId = user.principalId then
      .error (uniqueFailed "product_users.id")
    else .ok ((), { t with users := t.users ++ [user] })
  | .insertIdentity identity =>
    if t.identities.any fun i => i.id = identity.id || i.subject = identity.subject then
      .error (uniqueFailed "product_identities.kind, product_identities.subject")
    else .ok ((), { t with identities := t.identities ++ [identity] })
  | .insertTenant id name =>
    if t.tenants.any fun entry => entry.1 = id then .error (uniqueFailed "tenants.id")
    else .ok ((), { t with tenants := t.tenants ++ [(id, name)] })
  | .savePrincipal id name =>
    .ok ((), { t with principals := (id, name) :: t.principals.filter fun entry => entry.1 ≠ id })
  | .saveMembership m =>
    .ok ((), { t with memberships := t.memberships.filter (fun other =>
      ¬(other.principalId = m.principalId ∧ other.tenantId = m.tenantId)) ++ [m] })
  | .insertSession session =>
    if t.sessions.any fun s => s.id = session.id || s.tokenHash = session.tokenHash then
      .error (uniqueFailed "product_sessions.token_hash")
    else .ok ((), { t with sessions := t.sessions ++ [session] })

end Tables

section Commands

inductive Cmd where
  | selectChallenge (conn : Nat) (challengeId : String)
  | selectIdentity (conn : Nat) (subject : String)
  | selectUser (conn : Nat) (userId : String)
  | selectTenant (conn : Nat) (principalId : String)
  | execute (conn : Nat) (statement : Statement)
  | commit (conn : Nat)
  | rollback (conn : Nat)
  | now
  | uuid

/-- A row of `SELECT * FROM wallet_challenges WHERE id = ? AND consumed = FALSE`. -/
abbrev Selected (challengeId : String) : Type :=
  {c : Challenge // c.id = challengeId ∧ c.consumed = false}

abbrev Resp : Cmd → Type
  | .selectChallenge _ challengeId => Except PyError (Option (Selected challengeId))
  | .selectIdentity _ _ => Except PyError (Option String)
  | .selectUser _ _ => Except PyError (Option String)
  | .selectTenant _ _ => Except PyError (Option String)
  | .execute _ _ => Except PyError Unit
  | .commit _ => Except PyError Unit
  | .rollback _ => Unit
  | .now => PyFloat
  | .uuid => String

def selectUnconsumed (challengeId : String) (challenges : List Challenge) : Option (Selected challengeId) :=
  match found : challenges.find? fun c => c.id = challengeId && !c.consumed with
  | none => none
  | some c => some ⟨c, by simpa using List.find?_some found⟩

/-- What comes from outside at a command: a failure of the database, the clock, a fresh id. -/
structure Input where
  failure : Option PyError
  now : PyFloat
  uuid : String

def databaseLocked : PyError := ⟨.otherException, "database is locked"⟩

/-- A statement may fail by itself; a commit that fails rolls the transaction back. -/
def respond (lower : String → String) : Handler Cmd Resp (Store Tables) Input
  | .selectChallenge conn challengeId, s, i =>
    match i.failure with
    | some e => (.error e, s)
    | none => (.ok (selectUnconsumed challengeId (s.view conn).challenges), s)
  | .selectIdentity conn subject, s, i =>
    match i.failure with
    | some e => (.error e, s)
    | none => (.ok (((s.view conn).identities.find? fun identity =>
        lower identity.subject = lower subject).map Identity.userId), s)
  | .selectUser conn userId, s, i =>
    match i.failure with
    | some e => (.error e, s)
    | none => (.ok ((lookupBy User.id (s.view conn).users userId).map User.principalId), s)
  | .selectTenant conn principalId, s, i =>
    match i.failure with
    | some e => (.error e, s)
    | none => (.ok (((s.view conn).memberships.find? fun m =>
        m.principalId = principalId && m.active).map Membership.tenantId), s)
  | .execute conn statement, s, i =>
    match i.failure with
    | some e => (.error e, s)
    | none => s.write conn databaseLocked fun t => statement.apply t
  | .commit conn, s, i =>
    match i.failure with
    | some e => (.error e, s.rollback conn)
    | none => (.ok (), s.commit conn)
  | .rollback conn, s, _ => ((), s.rollback conn)
  | .now, s, i => (i.now, s)
  | .uuid, s, i => (i.uuid, s)

end Commands

section Programs

inductive Failure where
  | http (status : Nat) (detail : String)
  | other (e : PyError)

abbrev Action := Prog Cmd Resp Failure

/-- The wallet library, the token maker, the digest, and the text operations. -/
structure WalletRules where
  text : TextRules
  recoverMessage : String → String → Except PyError String
  toChecksumAddress : String → Except PyError String
  identityToken : String → PyFloat → String → String
  sha256 : String → String
  addSeconds : PyFloat → Nat → PyFloat

structure WalletVerifyRequest where
  challengeId : String
  signature : String

structure SessionAnswer where
  token : String
  userId : String
  principalId : String
  tenantId : String
  wallet : String
  chainId : Int

variable (r : WalletRules) (conn : Nat)

/-- An exception of the database. -/
def demand {α : Type} : Except PyError α → Action α
  | .ok a => pure a
  | .error e => raise (.other e)

def selectChallenge (challengeId : String) : Action (Option (Selected challengeId)) := do
  demand (← perform (Cmd.selectChallenge conn challengeId))

def selectIdentity (subject : String) : Action (Option String) := do
  demand (← perform (Cmd.selectIdentity conn subject))

def selectUser (userId : String) : Action (Option String) := do
  demand (← perform (Cmd.selectUser conn userId))

def selectTenant (principalId : String) : Action (Option String) := do
  demand (← perform (Cmd.selectTenant conn principalId))

def execute (statement : Statement) : Action Unit := do
  demand (← perform (Cmd.execute conn statement))

def commit : Action Unit := do demand (← perform (Cmd.commit conn))

abbrev rollback : Action Unit := perform (Cmd.rollback conn)

abbrev now : Action PyFloat := perform Cmd.now

abbrev uuid : Action String := perform Cmd.uuid

/-- A `with` block on the connection: it commits at its end, and rolls back at an exception. -/
def withConnection {α : Type} (conn : Nat) : Action α → Action α
  | .ret a => do
    commit conn
    return a
  | .raise e => do
    rollback conn
    raise e
  | .call c next => .call c fun answer => withConnection conn (next answer)

/-- The characters at which `splitlines` splits. -/
def isLineBreak (c : Char) : Bool :=
  c.toNat ∈ [10, 11, 12, 13, 28, 29, 30, 133, 8232, 8233]

/-- `_challenge_chain_id`. -/
def challengeChainId (message : String) : Except Failure Int :=
  let invalid : Failure := .http 400 "Challenge has invalid chain metadata"
  match (message.toList.splitOnP isLineBreak).find? fun line =>
      startsWith (String.ofList line) "Chain ID: " with
  | none => .error invalid
  | some line =>
    match intOfStr r.text (String.ofList (line.drop 9)) with
    | .ok chainId => .ok chainId
    | .error _ => .error invalid

/-- The wallet that has signed the challenge. -/
def recoverWallet (challenge : Challenge) (signature : String) : Except Failure String :=
  match r.recoverMessage challenge.message signature >>= r.toChecksumAddress with
  | .error _ => .error (.http 401 "Wallet signature verification failed")
  | .ok recovered =>
    if r.text.lower recovered ≠ r.text.lower challenge.address then
      .error (.http 401 "Signature does not match challenged wallet")
    else .ok recovered

def displayName (recovered : String) : String :=
  let letters := recovered.toList
  String.ofList (letters.take 6) ++ "…" ++ String.ofList (letters.drop (letters.length - 4))

structure Account where
  userId : String
  principalId : String
  tenantId : String

def existingAccount (userId : String) : Action Account := do
  match ← selectUser conn userId with
  | none => raise (.http 500 "Wallet identity is missing its product account")
  | some principalId =>
    match ← selectTenant conn principalId with
    | none => raise (.http 409 "Account has no active workspace")
    | some tenantId => return ⟨userId, principalId, tenantId⟩

/-- A first sign-in. Saving the principal and the membership commits what stands before. -/
def newAccount (challenge : Challenge) (recovered : String) : Action Account := do
  let user ← uuid
  let principal ← uuid
  let workspace ← uuid
  let account : Account := ⟨s!"usr_{user}", s!"prn_{principal}", s!"ws_{workspace}"⟩
  let name := displayName recovered
  execute conn (.insertUser ⟨account.userId, account.principalId, name⟩)
  let identityId ← uuid
  let chainId ← ofExcept (challengeChainId r challenge.message)
  execute conn (.insertIdentity ⟨s!"ident_{identityId}", account.userId, recovered, chainId⟩)
  execute conn (.insertTenant account.tenantId s!"{name}'s Workspace")
  withConnection conn (execute conn (.savePrincipal account.principalId name))
  withConnection conn (execute conn (.saveMembership ⟨account.principalId, account.tenantId, true⟩))
  return account

def openSession (challenge : Challenge) (checkedAt : PyFloat) (recovered : String) (account : Account) :
    Action SessionAnswer := do
  let token := r.identityToken account.principalId (← now) (← uuid)
  let id ← uuid
  let session : Session :=
    { id := s!"sess_{id}"
      userId := account.userId
      principalId := account.principalId
      tokenHash := r.sha256 token
      expiresAt := r.addSeconds (← now) 86400
      challenge := challenge
      checkedAt := checkedAt }
  execute conn (.insertSession session)
  let chainId ← ofExcept (challengeChainId r challenge.message)
  return ⟨token, account.userId, account.principalId, account.tenantId, recovered, chainId⟩

/-- What follows the checks. -/
def admitted (challengeId : String) (challenge : Challenge) (checkedAt : PyFloat) (recovered : String) :
    Action SessionAnswer := do
  execute conn (.consumeChallenge challengeId)
  match ← selectIdentity conn recovered with
  | some userId => do
    let account ← existingAccount conn userId
    openSession r conn challenge checkedAt recovered account
  | none => do
    let account ← newAccount r conn challenge recovered
    openSession r conn challenge checkedAt recovered account

def checked (request : WalletVerifyRequest) : Action SessionAnswer := do
  match ← selectChallenge conn request.challengeId with
  | none => raise (.http 400 "Challenge is invalid or expired")
  | some ⟨challenge, _⟩ =>
    let checkedAt ← now
    if challenge.expiresAt.lt checkedAt then raise (.http 400 "Challenge is invalid or expired")
    else do
      let recovered ← ofExcept (recoverWallet r challenge request.signature)
      admitted r conn request.challengeId challenge checkedAt recovered

/-- `except` and `finally`: an exception of the program's own is passed on, another one rolls
back first; the connection is closed, and with it what is still open. -/
def concluded {α : Type} (conn : Nat) : Action α → Action α
  | .ret a => do
    rollback conn
    return a
  | .raise (.http status detail) => do
    rollback conn
    raise (.http status detail)
  | .raise (.other _) => do
    rollback conn
    rollback conn
    raise (.http 500 "Wallet authentication could not be completed")
  | .call c next => .call c fun answer => concluded conn (next answer)

def walletVerify (request : WalletVerifyRequest) : Action SessionAnswer :=
  concluded conn (withConnection conn (checked r conn request))

end Programs

section Custody

/-- What a request has of something: nothing, or not yet committed, or for good. -/
inductive Stage where
  | none
  | pending
  | done
  deriving DecidableEq

def Stage.commit : Stage → Stage
  | .pending => .done
  | stage => stage

def Stage.rollback : Stage → Stage
  | .pending => .none
  | stage => stage

/-- A request's connection, and how far it is with the challenge and with its session. -/
structure Mark where
  conn : Nat
  taken : Stage
  issued : Stage

variable (challengeId : String)

/-- The session was opened with the challenge, unconsumed and not expired as it was read. -/
structure Earned (session : Session) : Prop where
  challenge : session.challenge.id = challengeId
  unconsumed : session.challenge.consumed = false
  unexpired : session.challenge.expiresAt.lt session.checkedAt = false

def presenting : Protocol Cmd Resp Mark where
  allowed g c :=
    match c with
    | .execute conn (.consumeChallenge id) => conn = g.conn ∧ id = challengeId ∧ g.taken = .none
    | .execute conn (.insertSession session) => conn = g.conn ∧ g.taken ≠ .none ∧ g.issued = .none ∧
        Earned challengeId session
    | .execute conn _ => conn = g.conn
    | .commit conn => conn = g.conn
    | .rollback conn => conn = g.conn
    | _ => True
  after g c answer :=
    match c, answer with
    | .execute _ (.consumeChallenge _), .ok _ => { g with taken := .pending }
    | .execute _ (.insertSession _), .ok _ => { g with issued := .pending }
    | .commit _, .ok _ => ⟨g.conn, g.taken.commit, g.issued.commit⟩
    | .commit _, .error _ => ⟨g.conn, g.taken.rollback, g.issued.rollback⟩
    | .rollback _, _ => ⟨g.conn, g.taken.rollback, g.issued.rollback⟩
    | _, _ => g

abbrev Requests := Pool Cmd Resp Failure Mark SessionAnswer

/-- Requests with one challenge, each with a signature and a connection of its own. -/
def requests (r : WalletRules) (signatures : List String) : Requests :=
  signatures.mapIdx fun conn signature => ⟨⟨conn, .none, .none⟩, walletVerify r conn ⟨challengeId, signature⟩⟩

def IsConsumed (t : Tables) : Prop :=
  (lookupBy Challenge.id t.challenges challengeId).map Challenge.consumed = some true

def IsUnconsumed (t : Tables) : Prop :=
  (lookupBy Challenge.id t.challenges challengeId).map Challenge.consumed = some false

instance (t : Tables) : Decidable (IsUnconsumed challengeId t) := inferInstanceAs (Decidable (_ = _))

/-- An update that consumes the challenge finds it as it was read: unconsumed. -/
def FindsUnconsumed (_ : Mark) (c : Cmd) (s : Store Tables) : Prop :=
  match c with
  | .execute conn (.consumeChallenge _) => ¬s.Locked conn → IsUnconsumed challengeId (s.view conn)
  | _ => True

instance (g : Mark) (c : Cmd) (s : Store Tables) : Decidable (FindsUnconsumed challengeId g c s) := by
  unfold FindsUnconsumed
  split <;> infer_instance

/-- A request has been answered with a session. -/
def Answered (pool : Requests) (n : Nat) : Prop := ∃ g answer, pool[n]? = some ⟨g, .ret answer⟩

/-- At most one request is answered and at most one session stored, opened with the challenge
unconsumed and not expired; and none if it was consumed before. -/
structure SingleUse (t₀ : Tables) (pool : Requests) (s : Store Tables) : Prop where
  answers : ∀ m n, Answered pool m → Answered pool n → m = n
  sessions : ∃ added, s.committed.sessions = t₀.sessions ++ added ∧ added.length ≤ 1 ∧
    ∀ session ∈ added, Earned challengeId session
  spent : IsConsumed challengeId t₀ →
    s.committed.sessions = t₀.sessions ∧ ∀ n, ¬Answered pool n

/-- What a request's open transaction holds, compared with what is committed. -/
structure Carries (g : Mark) (committed t : Tables) : Prop where
  keeps : IsConsumed challengeId committed → IsConsumed challengeId t
  took : g.taken = .pending → IsConsumed challengeId t
  sessions : g.issued ≠ .pending ∧ t.sessions = committed.sessions ∨
    g.issued = .pending ∧ ∃ session, Earned challengeId session ∧
      t.sessions = committed.sessions ++ [session]

/-- The invariant of the requests and the database: one request at most has the challenge. -/
structure Custody (t₀ : Tables) (gs : List Mark) (s : Store Tables) : Prop where
  own : ∀ (m : Nat) (g : Mark), gs[m]? = some g → g.conn = m
  opened : ∀ c t, s.pending = some (c, t) →
    ∃ g, gs[c]? = some g ∧ Carries challengeId g s.committed t
  closed : ∀ (m : Nat) (g : Mark), gs[m]? = some g → (∀ t, s.pending ≠ some (m, t)) →
    g.taken ≠ .pending ∧ g.issued ≠ .pending
  taken : ∀ (m : Nat) (g : Mark), gs[m]? = some g → g.taken = .done →
    IsConsumed challengeId s.committed
  single : ∀ (m n : Nat) (g k : Mark), gs[m]? = some g → gs[n]? = some k → g.taken ≠ .none →
    k.taken ≠ .none → m = n
  entitled : ∀ (m : Nat) (g : Mark), gs[m]? = some g → g.issued ≠ .none → g.taken ≠ .none
  settled : ∀ (m : Nat) (g : Mark), gs[m]? = some g → g.issued = .done → g.taken = .done
  sessions : s.committed.sessions = t₀.sessions ∧
      (∀ (m : Nat) (g : Mark), gs[m]? = some g → g.issued ≠ .done) ∨
    ∃ (session : Session) (m : Nat) (g : Mark), gs[m]? = some g ∧ g.issued = .done ∧
      Earned challengeId session ∧ s.committed.sessions = t₀.sessions ++ [session]
  spent : IsConsumed challengeId t₀ → IsConsumed challengeId s.committed ∧
    ∀ (m : Nat) (g : Mark), gs[m]? = some g → g.taken = .none

end Custody

section Statements
variable {challengeId : String} {t t' : Tables}

theorem lookup_markConsumed (challenges : List Challenge) (id : String) :
    lookupBy Challenge.id (markConsumed challengeId challenges) id =
      (lookupBy Challenge.id challenges id).map fun c =>
        if c.id = challengeId then { c with consumed := true } else c := by
  induction challenges with
  | nil => rfl
  | cons c challenges ih =>
    rw [markConsumed] at ih
    rw [markConsumed, List.map_cons, lookupBy_cons, lookupBy_cons, ih]
    by_cases own : c.id = challengeId
    · rw [if_pos own]
      by_cases here : c.id = id
      · rw [if_pos here, if_pos here, Option.map_some, if_pos own]
      · rw [if_neg here, if_neg here]
    · rw [if_neg own]
      by_cases here : c.id = id
      · rw [if_pos here, if_pos here, Option.map_some, if_neg own]
      · rw [if_neg here, if_neg here]

/-- An unconsumed challenge is consumed by the update. -/
theorem consumes (unconsumed : IsUnconsumed challengeId t)
    (done : (Statement.consumeChallenge challengeId).apply t = .ok ((), t')) :
    IsConsumed challengeId t' ∧ t'.sessions = t.sessions := by
  obtain ⟨-, rfl⟩ := Prod.mk.inj (Except.ok.inj done)
  refine ⟨?_, rfl⟩
  obtain ⟨c, found, -⟩ := Option.map_eq_some_iff.mp unconsumed
  obtain ⟨-, same⟩ := lookupBy_some found
  unfold IsConsumed
  rw [lookup_markConsumed, found, Option.map_some, if_pos same]
  rfl

theorem inserts {session : Session} (done : (Statement.insertSession session).apply t = .ok ((), t')) :
    t'.challenges = t.challenges ∧ t'.sessions = t.sessions ++ [session] := by
  unfold Statement.apply at done
  dsimp only at done
  split at done
  · cases done
  · obtain ⟨-, rfl⟩ := Prod.mk.inj (Except.ok.inj done)
    exact ⟨rfl, rfl⟩

/-- A statement on one of the other tables. -/
def Statement.Elsewhere : Statement → Prop
  | .consumeChallenge _ => False
  | .insertSession _ => False
  | _ => True

/-- The other statements touch neither challenges nor sessions. -/
theorem leaves {statement : Statement} (elsewhere : statement.Elsewhere)
    (done : statement.apply t = .ok ((), t')) :
    t'.challenges = t.challenges ∧ t'.sessions = t.sessions := by
  cases statement with
  | consumeChallenge id => exact elsewhere.elim
  | insertSession session => exact elsewhere.elim
  | savePrincipal id name =>
    obtain ⟨-, rfl⟩ := Prod.mk.inj (Except.ok.inj done)
    exact ⟨rfl, rfl⟩
  | saveMembership m =>
    obtain ⟨-, rfl⟩ := Prod.mk.inj (Except.ok.inj done)
    exact ⟨rfl, rfl⟩
  | _ =>
    unfold Statement.apply at done
    dsimp only at done
    split at done
    · cases done
    · obtain ⟨-, rfl⟩ := Prod.mk.inj (Except.ok.inj done)
      exact ⟨rfl, rfl⟩

end Statements

section Invariance
variable {challengeId : String} {t₀ t' : Tables} {gs : List Mark} {s : Store Tables} {g g' : Mark}
  {n : Nat}

theorem pending_ne_none : Stage.pending ≠ .none := by decide

theorem Stage.commit_none {stage : Stage} : stage.commit ≠ .none ↔ stage ≠ .none := by
  cases stage <;> decide

theorem Stage.commit_done {stage : Stage} : stage.commit = .done ↔ stage ≠ .none := by
  cases stage <;> decide

theorem Stage.commit_pending (stage : Stage) : stage.commit ≠ .pending := by
  cases stage <;> decide

theorem Stage.rollback_none {stage : Stage} : stage.rollback ≠ .none ↔ stage = .done := by
  cases stage <;> decide

theorem Stage.rollback_done {stage : Stage} : stage.rollback = .done ↔ stage = .done := by
  cases stage <;> decide

theorem Stage.rollback_pending (stage : Stage) : stage.rollback ≠ .pending := by
  cases stage <;> decide

theorem Stage.same {stage : Stage} (open_ : stage ≠ .pending) :
    stage.commit = stage ∧ stage.rollback = stage := by
  cases stage with
  | pending => exact absurd rfl open_
  | _ => exact ⟨rfl, rfl⟩

/-- What a request sees that may write. -/
theorem Custody.view_carries (custody : Custody challengeId t₀ gs s) (at_ : gs[n]? = some g)
    (free : ¬s.Locked g.conn) : Carries challengeId g s.committed (s.view g.conn) := by
  have own := custody.own n g at_
  unfold Store.view
  split
  · rename_i c t held
    have same : c = g.conn := by
      by_contra other
      exact free ⟨c, t, held, other⟩
    obtain ⟨g₁, at₁, carries⟩ := custody.opened c t held
    rw [same, own, at_] at at₁
    obtain rfl := Option.some.inj at₁
    rw [if_pos same]
    exact carries
  · rename_i none_
    obtain ⟨taken, issued⟩ := custody.closed n g at_ fun t held => by
      rw [none_] at held
      cases held
    exact ⟨id, fun open_ => absurd open_ taken, .inl ⟨issued, rfl⟩⟩

/-- A write of a request: what it carries from then on, and what its mark may become. -/
theorem Custody.written (custody : Custody challengeId t₀ gs s) (at_ : gs[n]? = some g)
    (free : ¬s.Locked g.conn) (conn : g'.conn = g.conn) (carries : Carries challengeId g' s.committed t')
    (takenDone : g'.taken = .done ↔ g.taken = .done) (issuedDone : g'.issued = .done ↔ g.issued = .done)
    (entitled : g'.issued ≠ .none → g'.taken ≠ .none)
    (started : g'.taken ≠ .none → g.taken ≠ .none ∨
      ¬IsConsumed challengeId t₀ ∧ ∀ (m : Nat) (k : Mark), gs[m]? = some k → k.taken = .none) :
    Custody challengeId t₀ (gs.set n g') ⟨s.committed, some (g.conn, t')⟩ := by
  have own := custody.own n g at_
  have alone (m : Nat) (k : Mark) (found : gs[m]? = some k) (holds : k.taken ≠ .none)
      (holds' : g'.taken ≠ .none) : m = n := by
    rcases started holds' with before | ⟨-, nobody⟩
    · exact custody.single m n k g found at_ holds before
    · exact absurd (nobody m k found) holds
  constructor
  · intro m k found
    rcases set_cases at_ found with ⟨rfl, rfl⟩ | ⟨-, found⟩
    · exact conn.trans own
    · exact custody.own m k found
  · rintro c t ⟨⟩
    rw [own]
    exact ⟨g', set_self at_, carries⟩
  · intro m k found shut
    rcases set_cases at_ found with ⟨rfl, -⟩ | ⟨other, found⟩
    · exact absurd (congrArg (fun c => some (c, t')) own) (shut t')
    · refine custody.closed m k found fun t held => free ⟨m, t, held, ?_⟩
      rw [own]
      exact other
  · intro m k found done
    rcases set_cases at_ found with ⟨rfl, rfl⟩ | ⟨-, found⟩
    · exact custody.taken m g at_ (takenDone.mp done)
    · exact custody.taken m k found done
  · intro m m' k k' found found' holds holds'
    rcases set_cases at_ found with ⟨rfl, rfl⟩ | ⟨-, before⟩
    · rcases set_cases at_ found' with ⟨rfl, -⟩ | ⟨-, found'⟩
      · rfl
      · exact (alone m' k' found' holds' holds).symm
    · rcases set_cases at_ found' with ⟨rfl, rfl⟩ | ⟨-, found'⟩
      · exact alone m k before holds holds'
      · exact custody.single m m' k k' before found' holds holds'
  · intro m k found issued
    rcases set_cases at_ found with ⟨rfl, rfl⟩ | ⟨-, found⟩
    · exact entitled issued
    · exact custody.entitled m k found issued
  · intro m k found issued
    rcases set_cases at_ found with ⟨rfl, rfl⟩ | ⟨-, found⟩
    · exact takenDone.mpr (custody.settled m g at_ (issuedDone.mp issued))
    · exact custody.settled m k found issued
  · rcases custody.sessions with ⟨same, open_⟩ | ⟨session, m, k, found, issued, earned, added⟩
    · refine .inl ⟨same, fun m k found issued => ?_⟩
      rcases set_cases at_ found with ⟨rfl, rfl⟩ | ⟨-, found⟩
      · exact open_ m g at_ (issuedDone.mp issued)
      · exact open_ m k found issued
    · by_cases here : m = n
      · subst here
        obtain rfl := Option.some.inj (at_.symm.trans found)
        exact .inr ⟨session, m, g', set_self at_, issuedDone.mpr issued, earned, added⟩
      · exact .inr ⟨session, m, k, set_other here found, issued, earned, added⟩
  · intro consumed
    obtain ⟨now, nobody⟩ := custody.spent consumed
    refine ⟨now, fun m k found => ?_⟩
    rcases set_cases at_ found with ⟨rfl, rfl⟩ | ⟨-, found⟩
    · by_contra holds
      rcases started holds with before | ⟨fresh, -⟩
      · exact before (nobody m g at_)
      · exact fresh consumed
    · exact nobody m k found

theorem Custody.still (custody : Custody challengeId t₀ gs s) (at_ : gs[n]? = some g)
    (shut : ∀ t, s.pending ≠ some (n, t)) :
    (⟨g.conn, g.taken.commit, g.issued.commit⟩ : Mark) = g ∧
      (⟨g.conn, g.taken.rollback, g.issued.rollback⟩ : Mark) = g ∧ s.commit g.conn = s ∧
      s.rollback g.conn = s := by
  have own := custody.own n g at_
  obtain ⟨taken, issued⟩ := custody.closed n g at_ shut
  have nowhere (t : Tables) : s.pending ≠ some (g.conn, t) := own ▸ shut t
  refine ⟨?_, ?_, ?_, ?_⟩
  · rw [(Stage.same taken).1, (Stage.same issued).1]
  · rw [(Stage.same taken).2, (Stage.same issued).2]
  · unfold Store.commit
    split
    · rename_i c t held
      refine if_neg ?_
      rintro rfl
      exact nowhere t held
    · rfl
  · unfold Store.rollback
    split
    · rename_i c t held
      refine if_neg ?_
      rintro rfl
      exact nowhere t held
    · rfl

/-- A commit of a request. -/
theorem Custody.commit (custody : Custody challengeId t₀ gs s) (at_ : gs[n]? = some g) :
    Custody challengeId t₀ (gs.set n ⟨g.conn, g.taken.commit, g.issued.commit⟩) (s.commit g.conn) := by
  have own := custody.own n g at_
  by_cases held : ∃ t, s.pending = some (n, t)
  · obtain ⟨t, held⟩ := held
    obtain ⟨g₁, at₁, carries⟩ := custody.opened n t held
    obtain rfl := Option.some.inj (at_.symm.trans at₁)
    have written : s.commit g.conn = ⟨t, none⟩ := by
      unfold Store.commit
      rw [held]
      exact if_pos own.symm
    rw [written]
    constructor
    · intro m k found
      rcases set_cases at_ found with ⟨rfl, rfl⟩ | ⟨-, found⟩
      · exact own
      · exact custody.own m k found
    · rintro c t' ⟨⟩
    · intro m k found _
      rcases set_cases at_ found with ⟨rfl, rfl⟩ | ⟨other, found⟩
      · exact ⟨Stage.commit_pending _, Stage.commit_pending _⟩
      · refine custody.closed m k found fun t' held' => other ?_
        rw [held] at held'
        exact (Prod.mk.inj (Option.some.inj held')).1.symm
    · intro m k found done
      rcases set_cases at_ found with ⟨rfl, rfl⟩ | ⟨-, found⟩
      · by_cases pending : g.taken = .pending
        · exact carries.took pending
        · dsimp only at done
          rw [(Stage.same pending).1] at done
          exact carries.keeps (custody.taken m g at_ done)
      · exact carries.keeps (custody.taken m k found done)
    · intro m m' k k' found found' holds holds'
      rcases set_cases at_ found with ⟨rfl, rfl⟩ | ⟨-, before⟩
      · rcases set_cases at_ found' with ⟨rfl, -⟩ | ⟨-, found'⟩
        · rfl
        · exact custody.single m m' g k' at_ found' (Stage.commit_none.mp holds) holds'
      · rcases set_cases at_ found' with ⟨rfl, rfl⟩ | ⟨-, found'⟩
        · exact custody.single m m' k g before at_ holds (Stage.commit_none.mp holds')
        · exact custody.single m m' k k' before found' holds holds'
    · intro m k found issued
      rcases set_cases at_ found with ⟨rfl, rfl⟩ | ⟨-, found⟩
      · exact Stage.commit_none.mpr (custody.entitled m g at_ (Stage.commit_none.mp issued))
      · exact custody.entitled m k found issued
    · intro m k found issued
      rcases set_cases at_ found with ⟨rfl, rfl⟩ | ⟨-, found⟩
      · exact Stage.commit_done.mpr (custody.entitled m g at_ (Stage.commit_done.mp issued))
      · exact custody.settled m k found issued
    · rcases carries.sessions with ⟨closed, same⟩ | ⟨pending, session, earned, added⟩
      · dsimp only
        rw [same]
        rcases custody.sessions with ⟨before, open_⟩ | ⟨session, m, k, found, issued, earned, added⟩
        · refine .inl ⟨before, fun m k found issued => ?_⟩
          rcases set_cases at_ found with ⟨rfl, rfl⟩ | ⟨-, found⟩
          · dsimp only at issued
            rw [(Stage.same closed).1] at issued
            exact open_ m g at_ issued
          · exact open_ m k found issued
        · by_cases here : m = n
          · subst here
            obtain rfl := Option.some.inj (at_.symm.trans found)
            refine .inr ⟨session, m, _, set_self at_, ?_, earned, added⟩
            exact Stage.commit_done.mpr (by rw [issued]; decide)
          · exact .inr ⟨session, m, k, set_other here found, issued, earned, added⟩
      · have holds : g.taken ≠ .none := custody.entitled n g at_ (by rw [pending]; decide)
        rcases custody.sessions with ⟨before, -⟩ | ⟨session', m, k, found, issued, -, -⟩
        · refine .inr ⟨session, n, _, set_self at_, ?_, earned, ?_⟩
          · exact Stage.commit_done.mpr (by rw [pending]; decide)
          · rw [added, before]
        · -- the one whose session is stored is the only one that may store one
          have same := custody.single m n k g found at_
            (custody.entitled m k found (by rw [issued]; decide)) holds
          subst same
          obtain rfl := Option.some.inj (at_.symm.trans found)
          rw [issued] at pending
          cases pending
    · intro consumed
      obtain ⟨now, nobody⟩ := custody.spent consumed
      refine ⟨carries.keeps now, fun m k found => ?_⟩
      rcases set_cases at_ found with ⟨rfl, rfl⟩ | ⟨-, found⟩
      · dsimp only
        rw [nobody m g at_]
        rfl
      · exact nobody m k found
  · obtain ⟨mark, -, store, -⟩ := custody.still at_ fun t there => held ⟨t, there⟩
    rw [mark, store, set_same at_]
    exact custody

/-- A rollback of a request. -/
theorem Custody.rollback (custody : Custody challengeId t₀ gs s) (at_ : gs[n]? = some g) :
    Custody challengeId t₀ (gs.set n ⟨g.conn, g.taken.rollback, g.issued.rollback⟩)
      (s.rollback g.conn) := by
  have own := custody.own n g at_
  by_cases held : ∃ t, s.pending = some (n, t)
  · obtain ⟨t, held⟩ := held
    have undone : s.rollback g.conn = ⟨s.committed, none⟩ := by
      unfold Store.rollback
      rw [held]
      exact if_pos own.symm
    have kept {stage : Stage} (holds : stage.rollback ≠ .none) : stage ≠ .none := by
      rw [Stage.rollback_none.mp holds]
      decide
    rw [undone]
    constructor
    · intro m k found
      rcases set_cases at_ found with ⟨rfl, rfl⟩ | ⟨-, found⟩
      · exact own
      · exact custody.own m k found
    · rintro c t' ⟨⟩
    · intro m k found _
      rcases set_cases at_ found with ⟨rfl, rfl⟩ | ⟨other, found⟩
      · exact ⟨Stage.rollback_pending _, Stage.rollback_pending _⟩
      · refine custody.closed m k found fun t' held' => other ?_
        rw [held] at held'
        exact (Prod.mk.inj (Option.some.inj held')).1.symm
    · intro m k found done
      rcases set_cases at_ found with ⟨rfl, rfl⟩ | ⟨-, found⟩
      · exact custody.taken m g at_ (Stage.rollback_done.mp done)
      · exact custody.taken m k found done
    · intro m m' k k' found found' holds holds'
      rcases set_cases at_ found with ⟨rfl, rfl⟩ | ⟨-, before⟩
      · rcases set_cases at_ found' with ⟨rfl, -⟩ | ⟨-, found'⟩
        · rfl
        · exact custody.single m m' g k' at_ found' (kept holds) holds'
      · rcases set_cases at_ found' with ⟨rfl, rfl⟩ | ⟨-, found'⟩
        · exact custody.single m m' k g before at_ holds (kept holds')
        · exact custody.single m m' k k' before found' holds holds'
    · intro m k found issued
      rcases set_cases at_ found with ⟨rfl, rfl⟩ | ⟨-, found⟩
      · exact Stage.rollback_none.mpr (custody.settled m g at_ (Stage.rollback_none.mp issued))
      · exact custody.entitled m k found issued
    · intro m k found issued
      rcases set_cases at_ found with ⟨rfl, rfl⟩ | ⟨-, found⟩
      · exact Stage.rollback_done.mpr (custody.settled m g at_ (Stage.rollback_done.mp issued))
      · exact custody.settled m k found issued
    · rcases custody.sessions with ⟨before, open_⟩ | ⟨session, m, k, found, issued, earned, added⟩
      · refine .inl ⟨before, fun m k found issued => ?_⟩
        rcases set_cases at_ found with ⟨rfl, rfl⟩ | ⟨-, found⟩
        · exact open_ m g at_ (Stage.rollback_done.mp issued)
        · exact open_ m k found issued
      · by_cases here : m = n
        · subst here
          obtain rfl := Option.some.inj (at_.symm.trans found)
          exact .inr ⟨session, m, _, set_self at_, Stage.rollback_done.mpr issued, earned, added⟩
        · exact .inr ⟨session, m, k, set_other here found, issued, earned, added⟩
    · intro consumed
      obtain ⟨now, nobody⟩ := custody.spent consumed
      refine ⟨now, fun m k found => ?_⟩
      rcases set_cases at_ found with ⟨rfl, rfl⟩ | ⟨-, found⟩
      · dsimp only
        rw [nobody m g at_]
        rfl
      · exact nobody m k found
  · obtain ⟨-, mark, -, store⟩ := custody.still at_ fun t there => held ⟨t, there⟩
    rw [mark, store, set_same at_]
    exact custody

end Invariance

section Steps
variable {r : WalletRules} {challengeId : String} {t₀ t t' : Tables} {gs : List Mark} {s : Store Tables}
  {g : Mark} {n : Nat}

/-- A statement that an earlier mark stays right about. -/
theorem Carries.frame {committed : Tables} (carries : Carries challengeId g committed t)
    (challenges : t'.challenges = t.challenges) (sessions : t'.sessions = t.sessions) :
    Carries challengeId g committed t' := by
  have same : IsConsumed challengeId t' ↔ IsConsumed challengeId t := by
    unfold IsConsumed
    rw [challenges]
  refine ⟨fun before => same.mpr (carries.keeps before), fun open_ => same.mpr (carries.took open_), ?_⟩
  rw [sessions]
  exact carries.sessions

theorem not_consumed (unconsumed : IsUnconsumed challengeId t) : ¬IsConsumed challengeId t := by
  unfold IsUnconsumed at unconsumed
  unfold IsConsumed
  rw [unconsumed]
  exact nofun

/-- Nobody has the challenge as long as the request that may write sees it unconsumed. -/
theorem Custody.nobody (custody : Custody challengeId t₀ gs s) (at_ : gs[n]? = some g)
    (free : ¬s.Locked g.conn) (untaken : g.taken = .none)
    (unconsumed : IsUnconsumed challengeId (s.view g.conn)) :
    ¬IsConsumed challengeId t₀ ∧ ∀ (m : Nat) (k : Mark), gs[m]? = some k → k.taken = .none := by
  have carries := custody.view_carries at_ free
  have open_ : ¬IsConsumed challengeId s.committed := fun before =>
    not_consumed unconsumed (carries.keeps before)
  refine ⟨fun before => open_ (custody.spent before).1, fun m k found => ?_⟩
  cases stage : k.taken with
  | none => rfl
  | done => exact absurd (custody.taken m k found stage) open_
  | pending =>
    by_contra
    have held : ∃ t, s.pending = some (m, t) := by
      by_contra shut
      exact (custody.closed m k found fun t held => shut ⟨t, held⟩).1 stage
    obtain ⟨t, held⟩ := held
    refine free ⟨m, t, held, fun same => ?_⟩
    rw [same, custody.own n g at_] at found
    obtain rfl := Option.some.inj (at_.symm.trans found)
    rw [untaken] at stage
    cases stage

theorem after_error (statement : Statement) (conn : Nat) (e : PyError) :
    (presenting challengeId).after g (.execute conn statement) (.error e) = g := by
  cases statement <;> rfl

/-- A statement that writes and is allowed. -/
theorem custody_execute (custody : Custody challengeId t₀ gs s) (at_ : gs[n]? = some g)
    {conn : Nat} {statement : Statement} (i : Input)
    (allowed : (presenting challengeId).allowed g (.execute conn statement))
    (finds : FindsUnconsumed challengeId g (.execute conn statement) s) :
    Custody challengeId t₀
      (gs.set n ((presenting challengeId).after g (.execute conn statement)
        (respond r.text.lower (.execute conn statement) s i).1))
      (respond r.text.lower (.execute conn statement) s i).2 := by
  have here : conn = g.conn := by
    cases statement with
    | consumeChallenge id => exact allowed.1
    | insertSession session => exact allowed.1
    | _ => exact allowed
  subst here
  simp only [respond]
  cases i.failure with
  | some e =>
    dsimp only
    rw [after_error, set_same at_]
    exact custody
  | none =>
    dsimp only
    rcases Store.write_cases s g.conn databaseLocked fun t => statement.apply t with
      locked | ⟨free, e, -, failed⟩ | ⟨free, ⟨⟩, t', done, written⟩
    · rw [locked, after_error, set_same at_]
      exact custody
    · rw [failed, after_error]
      exact custody.written at_ free rfl (custody.view_carries at_ free) Iff.rfl Iff.rfl
        (custody.entitled n g at_) .inl
    · rw [written]
      have carries := custody.view_carries at_ free
      cases statement with
      | consumeChallenge id =>
        obtain ⟨-, rfl, untaken⟩ := allowed
        have unconsumed := finds free
        obtain ⟨consumed, same⟩ := consumes unconsumed done
        have nobody := custody.nobody at_ free untaken unconsumed
        refine custody.written at_ free rfl ?_ ?_ Iff.rfl ?_ fun _ => .inr nobody
        · refine ⟨fun _ => consumed, fun _ => consumed, ?_⟩
          rw [same]
          exact carries.sessions
        · rw [untaken]
          show Stage.pending = .done ↔ Stage.none = .done
          decide
        · exact fun _ => pending_ne_none
      | insertSession session =>
        obtain ⟨-, taken, unissued, earned⟩ := allowed
        obtain ⟨challenges, added⟩ := inserts done
        have same : IsConsumed challengeId t' ↔ IsConsumed challengeId (s.view g.conn) := by
          unfold IsConsumed
          rw [challenges]
        refine custody.written at_ free rfl ?_ Iff.rfl ?_ (fun _ => taken) fun _ => .inl taken
        · refine ⟨fun before => same.mpr (carries.keeps before),
            fun open_ => same.mpr (carries.took open_), .inr ⟨rfl, session, earned, ?_⟩⟩
          rcases carries.sessions with ⟨-, before⟩ | ⟨pending, -⟩
          · rw [added, before]
          · rw [unissued] at pending
            cases pending
        · rw [unissued]
          show Stage.pending = .done ↔ Stage.none = .done
          decide
      | _ =>
        obtain ⟨challenges, sessions⟩ := leaves (by trivial) done
        exact custody.written at_ free rfl (carries.frame challenges sessions) Iff.rfl Iff.rfl
          (custody.entitled n g at_) .inl

/-- Every command that is allowed keeps the invariant. -/
theorem custody_step (gs : List Mark) (s : Store Tables) (n : Nat) (g : Mark) (c : Cmd) (i : Input)
    (at_ : gs[n]? = some g) (allowed : (presenting challengeId).allowed g c)
    (finds : FindsUnconsumed challengeId g c s) (custody : Custody challengeId t₀ gs s) :
    Custody challengeId t₀ (gs.set n ((presenting challengeId).after g c (respond r.text.lower c s i).1))
      (respond r.text.lower c s i).2 := by
  have quiet (same : (presenting challengeId).after g c (respond r.text.lower c s i).1 = g)
      (still : (respond r.text.lower c s i).2 = s) : Custody challengeId t₀
        (gs.set n ((presenting challengeId).after g c (respond r.text.lower c s i).1))
        (respond r.text.lower c s i).2 := by
    rw [same, still, set_same at_]
    exact custody
  cases c with
  | execute conn statement => exact custody_execute custody at_ i allowed finds
  | commit conn =>
    obtain rfl : conn = g.conn := allowed
    simp only [respond]
    cases i.failure with
    | some e => exact custody.rollback at_
    | none => exact custody.commit at_
  | rollback conn =>
    obtain rfl : conn = g.conn := allowed
    exact custody.rollback at_
  | now => exact quiet rfl rfl
  | uuid => exact quiet rfl rfl
  | _ =>
    refine quiet rfl ?_
    simp only [respond]
    split <;> rfl

end Steps

section Discipline
variable {r : WalletRules} {challengeId : String} {conn : Nat} {g : Mark} {α : Type}
  {Q Q' : α → Mark → Prop}

theorem after_conn (c : Cmd) (answer : Resp c) :
    ((presenting challengeId).after g c answer).conn = g.conn := by
  cases c with
  | execute conn statement =>
    cases statement <;> cases answer <;> rfl
  | commit conn =>
    cases answer <;> rfl
  | _ => rfl

theorem follows_demand {x : Except PyError α} (good : ∀ a, x = .ok a → Q a g) :
    Follows (presenting challengeId) Q (demand x) g := by
  cases x with
  | ok a => exact good a rfl
  | error e => trivial

/-- A `with` block of a request: what is said at its end is said of the mark after the commit. -/
theorem follows_withConnection {p : Action α} (here : g.conn = conn)
    (follows : Follows (presenting challengeId) Q p g)
    (committed : ∀ a (g : Mark), g.conn = conn → Q a g → Q' a ⟨g.conn, g.taken.commit, g.issued.commit⟩) :
    Follows (presenting challengeId) Q' (withConnection conn p) g := by
  induction p generalizing g with
  | ret a =>
    refine Follows.bind (Q := fun _ k => k = ⟨g.conn, g.taken.commit, g.issued.commit⟩) ?_ ?_
    · refine Follows.perform here.symm ?_
      rintro (e | ⟨⟨⟩⟩)
      · trivial
      · exact rfl
    · rintro _ _ rfl
      exact committed a g here follows
  | raise e => exact Follows.perform here.symm fun _ => trivial
  | call c next ih => exact ⟨follows.1, fun answer => ih answer ((after_conn c answer).trans here)
      (follows.2 answer)⟩

theorem follows_concluded {p : Action α} (here : g.conn = conn)
    (follows : Follows (presenting challengeId) Q p g)
    (closed : ∀ a (g : Mark), g.conn = conn → Q a g → Q' a ⟨g.conn, g.taken.rollback, g.issued.rollback⟩) :
    Follows (presenting challengeId) Q' (concluded conn p) g := by
  induction p generalizing g with
  | ret a => exact Follows.perform here.symm fun _ => closed a g here follows
  | raise e =>
    cases e with
    | http status detail => exact Follows.perform here.symm fun _ => trivial
    | other e => exact Follows.perform here.symm fun _ => Follows.perform here.symm fun _ => trivial
  | call c next ih => exact ⟨follows.1, fun answer => ih answer ((after_conn c answer).trans here)
      (follows.2 answer)⟩

/-- The request has the challenge, and no session yet. -/
structure Ready (conn : Nat) (g : Mark) : Prop where
  here : g.conn = conn
  taken : g.taken ≠ .none
  unissued : g.issued = .none

theorem follows_execute {statement : Statement} (here : g.conn = conn)
    (elsewhere : statement.Elsewhere) :
    Follows (presenting challengeId) (fun _ k => k = g) (execute conn statement) g := by
  cases statement with
  | consumeChallenge id => exact elsewhere.elim
  | insertSession session => exact elsewhere.elim
  | _ => exact Follows.perform here.symm fun answer => follows_demand fun _ _ => rfl

theorem follows_saved {statement : Statement} (ready : Ready conn g) (elsewhere : statement.Elsewhere) :
    Follows (presenting challengeId) (fun _ => Ready conn)
      (withConnection conn (execute conn statement)) g := by
  refine follows_withConnection ready.here (follows_execute ready.here elsewhere) ?_
  rintro _ k here rfl
  refine ⟨here, Stage.commit_none.mpr ready.taken, ?_⟩
  dsimp only
  rw [ready.unissued]
  rfl

theorem follows_existingAccount (userId : String) (ready : Ready conn g) :
    Follows (presenting challengeId) (fun _ => Ready conn) (existingAccount conn userId) g := by
  refine Follows.bind (Q := fun _ k => k = g)
    (Follows.perform trivial fun answer => follows_demand fun _ _ => rfl) ?_
  rintro user g rfl
  cases user with
  | none => trivial
  | some principalId =>
    refine Follows.bind (Q := fun _ k => k = g)
      (Follows.perform trivial fun answer => follows_demand fun _ _ => rfl) ?_
    rintro tenant g rfl
    cases tenant with
    | none => trivial
    | some tenantId => exact ready

theorem follows_newAccount (challenge : Challenge) (recovered : String) (ready : Ready conn g) :
    Follows (presenting challengeId) (fun _ => Ready conn) (newAccount r conn challenge recovered) g := by
  refine Follows.perform trivial fun user => Follows.perform trivial fun principal =>
    Follows.perform trivial fun tenant => ?_
  refine Follows.bind (follows_execute ready.here trivial) ?_
  rintro _ g rfl
  refine Follows.perform trivial fun identity => ?_
  refine Follows.bind (Q := fun _ k => k = g) (Follows.ofExcept fun _ _ => rfl) ?_
  rintro chainId g rfl
  refine Follows.bind (follows_execute ready.here trivial) ?_
  rintro _ g rfl
  refine Follows.bind (follows_execute ready.here trivial) ?_
  rintro _ g rfl
  refine Follows.bind (follows_saved ready trivial) ?_
  rintro _ k ready
  refine Follows.bind (follows_saved ready trivial) ?_
  rintro _ k ready
  exact ready

/-- A session is inserted by a request that has the challenge, as it was read. -/
theorem follows_openSession {challenge : Challenge} {checkedAt : PyFloat} (recovered : String)
    (account : Account) (ready : Ready conn g) (own : challenge.id = challengeId)
    (unconsumed : challenge.consumed = false) (unexpired : challenge.expiresAt.lt checkedAt = false) :
    Follows (presenting challengeId) (fun _ k => k.conn = conn ∧ k.issued ≠ .none)
      (openSession r conn challenge checkedAt recovered account) g := by
  refine Follows.perform trivial fun time => Follows.perform trivial fun nonce =>
    Follows.perform trivial fun id => Follows.perform trivial fun time' => ?_
  refine Follows.bind (Q := fun _ k => k = { g with issued := .pending }) ?_ ?_
  · refine Follows.perform ⟨ready.here.symm, ready.taken, ready.unissued, ⟨own, unconsumed, unexpired⟩⟩ ?_
    rintro (e | ⟨⟨⟩⟩)
    · trivial
    · exact rfl
  · rintro _ _ rfl
    refine Follows.bind (Q := fun _ k => k = { g with issued := .pending })
      (Follows.ofExcept fun _ _ => rfl) ?_
    rintro chainId _ rfl
    exact ⟨ready.here, pending_ne_none⟩

theorem follows_admitted {challenge : Challenge} {checkedAt : PyFloat} (recovered : String)
    (own : challenge.id = challengeId) (unconsumed : challenge.consumed = false)
    (unexpired : challenge.expiresAt.lt checkedAt = false) :
    Follows (presenting challengeId) (fun _ k => k.conn = conn ∧ k.issued ≠ .none)
      (admitted r conn challengeId challenge checkedAt recovered) ⟨conn, .none, .none⟩ := by
  refine Follows.bind (Q := fun _ => Ready conn) ?_ ?_
  · refine Follows.perform ⟨rfl, rfl, rfl⟩ ?_
    rintro (e | ⟨⟨⟩⟩)
    · trivial
    · exact ⟨rfl, pending_ne_none, rfl⟩
  · rintro _ g ready
    refine Follows.bind (Q := fun _ => Ready conn)
      (Follows.perform trivial fun answer => follows_demand fun _ _ => ready) ?_
    rintro identity g ready
    cases identity with
    | some userId =>
      refine Follows.bind (follows_existingAccount userId ready) fun account g ready => ?_
      exact follows_openSession recovered account ready own unconsumed unexpired
    | none =>
      refine Follows.bind (follows_newAccount challenge recovered ready) fun account g ready => ?_
      exact follows_openSession recovered account ready own unconsumed unexpired

/-- A request follows the protocol, and has stored a session by the time it is answered. -/
theorem follows_walletVerify (signature : String) :
    Follows (presenting challengeId) (fun _ g => g.issued = .done)
      (walletVerify r conn ⟨challengeId, signature⟩) ⟨conn, .none, .none⟩ := by
  have body : Follows (presenting challengeId) (fun _ k => k.conn = conn ∧ k.issued ≠ .none)
      (checked r conn ⟨challengeId, signature⟩) ⟨conn, .none, .none⟩ := by
    refine Follows.bind (Q := fun _ k => k = ⟨conn, .none, .none⟩)
      (Follows.perform trivial fun answer => follows_demand fun _ _ => rfl) ?_
    rintro selected _ rfl
    cases selected with
    | none => trivial
    | some row =>
      obtain ⟨challenge, own, unconsumed⟩ := row
      refine Follows.perform trivial fun checkedAt => ?_
      dsimp only
      split
      · trivial
      · rename_i unexpired
        refine Follows.bind (Q := fun _ k => k = ⟨conn, .none, .none⟩)
          (Follows.ofExcept fun _ _ => rfl) ?_
        rintro recovered _ rfl
        exact follows_admitted recovered own unconsumed (by simpa using unexpired)
  refine follows_concluded (Q := fun _ k => k.issued = .done) rfl
    (follows_withConnection rfl body fun _ g _ stored => Stage.commit_done.mpr stored.2) ?_
  intro _ g _ stored
  exact Stage.rollback_done.mpr stored

theorem requests_promise (r : WalletRules) (challengeId : String) (signatures : List String) :
    Promises (presenting challengeId) (fun _ g => g.issued = .done) (requests challengeId r signatures) := by
  intro t mem
  obtain ⟨conn, inside, rfl⟩ := List.mem_mapIdx.mp mem
  exact follows_walletVerify _

theorem requests_custody (r : WalletRules) (challengeId : String) (signatures : List String) (t : Tables) :
    Custody challengeId t (marks (requests challengeId r signatures)) ⟨t, none⟩ := by
  have fresh (m : Nat) (g : Mark) (found : (marks (requests challengeId r signatures))[m]? = some g) :
      g = ⟨m, .none, .none⟩ := by
    rw [marks, requests, List.getElem?_map, List.getElem?_mapIdx] at found
    obtain ⟨thread, made, rfl⟩ := Option.map_eq_some_iff.mp found
    obtain ⟨signature, -, rfl⟩ := Option.map_eq_some_iff.mp made
    rfl
  constructor
  · intro m g found
    rw [fresh m g found]
  · rintro c t' ⟨⟩
  · intro m g found _
    rw [fresh m g found]
    exact ⟨pending_ne_none.symm, pending_ne_none.symm⟩
  · intro m g found done
    rw [fresh m g found] at done
    cases done
  · intro m n g k found _ holds _
    rw [fresh m g found] at holds
    exact absurd rfl holds
  · intro m g found issued
    rw [fresh m g found] at issued
    exact absurd rfl issued
  · intro m g found issued
    rw [fresh m g found] at issued
    cases issued
  · refine .inl ⟨rfl, fun m g found issued => ?_⟩
    rw [fresh m g found] at issued
    cases issued
  · intro consumed
    refine ⟨consumed, fun m g found => ?_⟩
    rw [fresh m g found]

/-- For any requests with one challenge, tables and order of their statements in which every
update finds the challenge unconsumed: the challenge opens one session at most. -/
theorem wallet_challenge_single_use (r : WalletRules) (challengeId : String) (signatures : List String)
    (t : Tables) (schedule : List (Nat × Input))
    (finds : Respects (respond r.text.lower) (presenting challengeId) (FindsUnconsumed challengeId)
      schedule (requests challengeId r signatures) ⟨t, none⟩) :
    let left_ := interleave (respond r.text.lower) (presenting challengeId) schedule
      (requests challengeId r signatures) ⟨t, none⟩
    SingleUse challengeId t left_.1 left_.2 := by
  intro left_
  have promise := requests_promise r challengeId signatures
  have custody : Custody challengeId t (marks left_.1) left_.2 :=
    interleave_keeps (fun gs s n g c i at_ allowed finds custody =>
      custody_step gs s n g c i at_ allowed finds custody) schedule promise.disciplined
      (requests_custody r challengeId signatures t) finds
  have stored (n : Nat) (answered : Answered left_.1 n) :
      ∃ g, (marks left_.1)[n]? = some g ∧ g.issued = .done := by
    obtain ⟨g, answer, found⟩ := answered
    refine ⟨g, ?_, promises_interleave schedule promise _ (List.mem_of_getElem? found)⟩
    rw [marks, List.getElem?_map, found]
    rfl
  constructor
  · intro m n answered answered'
    obtain ⟨g, found, issued⟩ := stored m answered
    obtain ⟨k, found', issued'⟩ := stored n answered'
    refine custody.single m n g k found found' ?_ ?_
    · exact custody.entitled m g found (by rw [issued]; decide)
    · exact custody.entitled n k found' (by rw [issued']; decide)
  · rcases custody.sessions with ⟨same, -⟩ | ⟨session, m, g, -, -, earned, added⟩
    · exact ⟨[], by rw [same, List.append_nil], by decide, List.forall_mem_nil _⟩
    · refine ⟨[session], added, le_refl _, fun other mem => ?_⟩
      rw [List.mem_singleton.mp mem]
      exact earned
  · intro consumed
    obtain ⟨-, nobody⟩ := custody.spent consumed
    constructor
    · rcases custody.sessions with ⟨same, -⟩ | ⟨session, m, g, found, issued, -⟩
      · exact same
      · exact absurd (nobody m g found) (custody.entitled m g found (by rw [issued]; decide))
    · intro n answered
      obtain ⟨g, found, issued⟩ := stored n answered
      exact custody.entitled n g found (by rw [issued]; decide) (nobody n g found)

end Discipline

section Sample

def sampleRules : WalletRules where
  text := asciiRules fun _ => "0.0"
  recoverMessage _ signature := .ok signature
  toChecksumAddress := .ok
  identityToken principalId _ nonce := s!"{principalId}:{nonce}"
  sha256 := id
  addSeconds time _ := time

/-- A challenge for a wallet that is known. -/
def sampleTables : Tables where
  challenges := [⟨"wch_1", "0xabc", "Kalyx sign-in\nChain ID: 4663", .finite 300, false⟩]
  users := [⟨"usr_1", "prn_1", "0xabc"⟩]
  identities := [⟨"ident_1", "usr_1", "0xabc", 4663⟩]
  tenants := [("ws_1", "Workspace")]
  principals := [("prn_1", "0xabc")]
  memberships := [⟨"prn_1", "ws_1", true⟩]
  sessions := []

def sampleInput (uuid : String) : Input := ⟨none, .finite 10, uuid⟩

/-- Both requests read the challenge before either of them consumes it. -/
def race : List (Nat × Input) :=
  List.replicate 2 (0, sampleInput "a") ++ List.replicate 2 (1, sampleInput "b") ++
    List.replicate 12 (0, sampleInput "a") ++ List.replicate 12 (1, sampleInput "b")

def raceRun : Requests × Store Tables :=
  interleave (respond sampleRules.text.lower) (presenting "wch_1") race
    (requests "wch_1" sampleRules ["0xabc", "0xabc"]) ⟨sampleTables, none⟩

/-- One challenge opens two sessions. -/
theorem challenge_opens_two_sessions :
    raceRun.2.committed.sessions.map Session.id = ["sess_a", "sess_b"] ∧
      ¬SingleUse "wch_1" sampleTables raceRun.1 raceRun.2 := by
  have stored : raceRun.2.committed.sessions.map Session.id = ["sess_a", "sess_b"] := by
    decide +kernel
  refine ⟨stored, fun single => ?_⟩
  obtain ⟨added, sessions, one, -⟩ := single.sessions
  have two : added.length = 2 := by
    have none_ : sampleTables.sessions = [] := rfl
    rw [sessions, none_, List.nil_append] at stored
    rw [← List.length_map Session.id, stored]
    rfl
  omega

def alone : List (Nat × Input) := List.replicate 14 (0, sampleInput "a")

theorem single_request_single_use :
    let left_ := interleave (respond sampleRules.text.lower) (presenting "wch_1") alone
      (requests "wch_1" sampleRules ["0xabc"]) ⟨sampleTables, none⟩
    SingleUse "wch_1" sampleTables left_.1 left_.2 :=
  wallet_challenge_single_use sampleRules "wch_1" ["0xabc"] sampleTables alone (by decide +kernel)

end Sample

end WalletSessions
