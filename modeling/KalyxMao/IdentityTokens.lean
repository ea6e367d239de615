import KalyxMao.CanonicalText
import KalyxMao.DelimitedText
import KalyxMao.PythonConversions
import KalyxMao.TokenBinding
import Mathlib.Data.Rat.Floor

/-!
# Identity tokens

A bearer token names its principal, its expiry and an identifier, and is signed
over the three. Tokens of an earlier format have no identifier. One reader takes
both, by the number of pieces between colons; a signature outside ASCII is
compared by a function that takes ASCII only.
-/

namespace IdentityTokens
open PythonText PythonValues PythonConversions TokenBinding DelimitedText

section Model

structure IdentityRules where
  hmac : String → String → String
  text : TextRules

variable (r : IdentityRules) (secret : String)

/-- `str(i)`, which has the same limit as reading back. -/
def formatInt (i : Int) : Except PyError String :=
  if maxStrDigits < (Nat.toDigits 10 i.natAbs).length then .error ⟨.valueError,
    "Exceeds the limit (4300 digits) for integer string conversion; use sys.set_int_max_str_digits() to increase the limit"⟩
  else .ok (toString i)

/-- `int(now)` of a reading of the clock. -/
def truncate (now : ℚ) : Int := if 0 ≤ now then now.floor else now.ceil

def currentMessage (principalId expiry tokenId : String) : String :=
  s!"{principalId}:{expiry}:{tokenId}"

def legacyMessage (principalId expiry : String) : String := s!"{principalId}:{expiry}"

/-- A message with its signature behind it. -/
def sealed (msg : String) : String := s!"{msg}:{r.hmac secret msg}"

/-- `create_identity_token`, with the identifier that `token_urlsafe` draws. -/
def createIdentityToken (principalId : String) (ttlSeconds : Int) (now : ℚ) (tokenId : String) :
    Except PyError String := do
  let expiry ← formatInt (truncate now + ttlSeconds)
  return sealed r secret (currentMessage principalId expiry tokenId)

/-- What the reader takes a token for. Only the current format has an identifier. -/
structure Pieces where
  principalId : String
  expiry : String
  tokenId : Option String
  sig : String

def Pieces.message (q : Pieces) : String :=
  match q.tokenId with
  | some tokenId => currentMessage q.principalId q.expiry tokenId
  | none => legacyMessage q.principalId q.expiry

def piecesOf (token : String) : Option Pieces :=
  match splitText token ':' with
  | [principalId, expiry, tokenId, sig] => some ⟨principalId, expiry, some tokenId, sig⟩
  | [principalId, expiry, sig] => some ⟨principalId, expiry, none, sig⟩
  | _ => none

def checkPieces (q : Pieces) (now : ℚ) : Except PyError (Option String) :=
  match intOfStr r.text q.expiry with
  | .error e => if e.kind = .valueError then .ok none else .error e
  | .ok expiry =>
    if (expiry : ℚ) < now then .ok none
    else
      match compareDigest q.sig (r.hmac secret q.message) with
      | .error e => .error e
      | .ok matching => .ok (if matching then some q.principalId else none)

def verifyIdentityToken (token : String) (now : ℚ) : Except PyError (Option String) :=
  match piecesOf token with
  | none => .ok none
  | some q => checkPieces r secret q now

end Model

section Property
variable (r : IdentityRules) (secret : String)

/-- A token that was signed: with an identifier in the current format, without in the legacy one. -/
structure Issue where
  principalId : String
  expiry : Int
  tokenId : Option String

def Issue.message (i : Issue) : String :=
  match i.tokenId with
  | some tokenId => currentMessage i.principalId (toString i.expiry) tokenId
  | none => legacyMessage i.principalId (toString i.expiry)

/-- Token identifiers are URL-safe text. -/
def Issue.UrlSafe (i : Issue) : Prop := ∀ tokenId ∈ i.tokenId, ':' ∉ tokenId.toList

/-- A signature that fits its message is one that was made. -/
def Unforged (issued : List Issue) (token : String) : Prop :=
  ∀ msg, token = sealed r secret msg → ∃ i ∈ issued, i.message = msg

/-- The token was signed for the principal, in the format it is read in, and has not expired. -/
def SignedFor (issued : List Issue) (token : String) (now : ℚ) (principalId : String) : Prop :=
  ∃ i ∈ issued, i.principalId = principalId ∧ token = sealed r secret i.message ∧
    (∀ q, piecesOf token = some q → q.tokenId = i.tokenId) ∧ now ≤ i.expiry

/-- The reader returns, and a principal it returns is one the token was signed for. -/
structure ReadsRight (issued : List Issue) (token : String) (now : ℚ) : Prop where
  returns : ∃ answer, verifyIdentityToken r secret token now = .ok answer
  signed : ∀ principalId, verifyIdentityToken r secret token now = .ok (some principalId) →
    SignedFor r secret issued token now principalId

/-- The reader comes to the signature of a token. -/
def Reaches (token : String) (now : ℚ) (q : Pieces) : Prop :=
  piecesOf token = some q ∧ ∃ expiry : Int, intOfStr r.text q.expiry = .ok expiry ∧ now ≤ expiry

/-- The signature is ASCII, and four pieces are not just a legacy token whose principal has a
colon. -/
structure Readable (issued : List Issue) (token : String) (now : ℚ) : Prop where
  ascii : ∀ q, Reaches r token now q → isAscii q.sig = true
  format : ∀ q, Reaches r token now q → ∀ i ∈ issued, i.tokenId = none → ':' ∈ i.principalId.toList →
    token = sealed r secret i.message →
      ∃ j ∈ issued, j.tokenId ≠ none ∧ j.message = i.message

/-- What `int()` does on the text of an `int`. -/
structure ReadsDigits (t : TextRules) : Prop where
  digit : ∀ c : Char, c.isDigit = true → t.digit c = some (c.toNat - 48)
  space : ∀ c : Char, c.isDigit = true ∨ c = '-' → t.space c = false

end Property

section Integers
variable {t : TextRules}

theorem dropWhile_none {p : Char → Bool} {l : List Char} (none_ : ∀ c ∈ l, p c = false) :
    l.dropWhile p = l := by
  cases l with
  | nil => rfl
  | cons c l =>
    apply List.dropWhile_cons_of_neg
    rw [none_ c List.mem_cons_self]
    decide

theorem strip_none {l : List Char} (none_ : ∀ c ∈ l, t.space c = false) : strip t l = l := by
  have reversed : ∀ c ∈ l.reverse, t.space c = false := fun c mem => none_ c (List.mem_reverse.mp mem)
  rw [strip, dropWhile_none none_, dropWhile_none reversed, List.reverse_reverse]

theorem digitsOf_digits (reads : ReadsDigits t) {l : List Char} (some_ : l ≠ [])
    (digits : ∀ c ∈ l, c.isDigit = true) : digitsOf t l = some (l.map fun c => c.toNat - 48) := by
  induction l using digitsOf.induct with
  | case1 => exact absurd rfl some_
  | case2 c =>
    rw [digitsOf, reads.digit c (digits c List.mem_cons_self)]
    rfl
  | case3 c rest ih =>
    have under := digits '_' (List.mem_cons_of_mem _ List.mem_cons_self)
    exact absurd under (by decide)
  | case4 c rest none_ other ih =>
    rw [digitsOf, reads.digit c (digits c List.mem_cons_self),
      ih none_ fun d mem => digits d (List.mem_cons_of_mem _ mem)]
    · rfl
    · exact none_
    · exact other

theorem ofDigits_digits {l : List Char} :
    ofDigits (l.map fun c => c.toNat - 48) = Nat.ofDigitChars 10 l 0 := by
  rw [ofDigits, List.foldl_map]
  rfl

theorem digits_toDigits (n : ℕ) : ∀ c ∈ Nat.toDigits 10 n, c.isDigit = true :=
  fun _ mem => Nat.isDigit_of_mem_toDigits (by decide) (by decide) mem

theorem magnitude_toDigits (reads : ReadsDigits t) (s : String) {n : ℕ}
    (short : (Nat.toDigits 10 n).length ≤ maxStrDigits) :
    magnitude t s (Nat.toDigits 10 n) = .ok n := by
  rw [magnitude, digitsOf_digits reads Nat.toDigits_ne_nil (digits_toDigits n)]
  dsimp only
  rw [List.length_map, if_neg (Nat.not_lt.mpr short), ofDigits_digits, Nat.ofDigitChars_ten_toDigits]

/-- The text of an integer reads back as the integer. -/
theorem intOfStr_toString (reads : ReadsDigits t) {i : Int}
    (short : (Nat.toDigits 10 i.natAbs).length ≤ maxStrDigits) :
    intOfStr t (toString i) = .ok i := by
  have plain : ∀ c ∈ (toString i).toList, t.space c = false := fun c mem =>
    reads.space c ((CanonicalText.int_shape i c mem).symm)
  rw [intOfStr, strip_none plain, Int.toString_eq_repr, Int.repr_eq_if]
  by_cases nonneg : 0 ≤ i
  · rw [if_pos nonneg, Nat.toList_repr]
    have same : i.toNat = i.natAbs := by omega
    have digits := digits_toDigits i.natAbs
    rw [same]
    have value : (i.natAbs : Int) = i := by omega
    split
    · rename_i body shape
      exact absurd (digits '-' (shape ▸ List.mem_cons_self)) (by decide)
    · rename_i body shape
      exact absurd (digits '+' (shape ▸ List.mem_cons_self)) (by decide)
    · rw [magnitude_toDigits reads _ short]
      exact congrArg Except.ok value
  · rw [if_neg nonneg, String.toList_append, Nat.toList_repr]
    have same : (-i).toNat = i.natAbs := by omega
    have value : -(i.natAbs : Int) = i := by omega
    rw [same]
    show Except.map (fun n : Int => -n)
      (magnitude t _ (Nat.toDigits 10 i.natAbs) >>= fun n => pure (n : Int)) = _
    rw [magnitude_toDigits reads _ short]
    exact congrArg Except.ok value

theorem colon_toString (i : Int) : ':' ∉ (toString i).toList := by
  intro mem
  rcases CanonicalText.int_shape i ':' mem with sign | digit
  · exact absurd sign (by decide)
  · exact absurd digit (by decide)

end Integers

section Shapes
variable {r : IdentityRules} {secret token : String} {q : Pieces} {i : Issue}

theorem currentMessage_toList (p e tokenId : String) : (currentMessage p e tokenId).toList =
    p.toList ++ ':' :: (e.toList ++ ':' :: tokenId.toList) := by
  show (p ++ ":" ++ e ++ ":" ++ tokenId).toList = _
  simp

theorem legacyMessage_toList (p e : String) :
    (legacyMessage p e).toList = p.toList ++ ':' :: e.toList := by
  show (p ++ ":" ++ e).toList = _
  simp

theorem sealed_toList (msg : String) :
    (sealed r secret msg).toList = msg.toList ++ ':' :: (r.hmac secret msg).toList := by
  show (msg ++ ":" ++ r.hmac secret msg).toList = _
  simp

/-- Signatures are written in hexadecimal digits. -/
def HexMac (r : IdentityRules) : Prop := ∀ k s, ∀ c ∈ (r.hmac k s).toList, IsHexDigit c

theorem HexMac.colon (mac : HexMac r) (msg : String) : ':' ∉ (r.hmac secret msg).toList :=
  fun mem => absurd (mac secret msg ':' mem) (by decide)

theorem sealed_inj (mac : HexMac r) {msg msg' : String}
    (same : sealed r secret msg = sealed r secret msg') : msg = msg' := by
  have lists := congrArg String.toList same
  rw [sealed_toList, sealed_toList] at lists
  exact String.toList_inj.mp (append_cons_inj_last (mac.colon msg) (mac.colon msg') lists).1

/-- No piece holds a colon. -/
structure Pieces.Plain (q : Pieces) : Prop where
  principalId : ':' ∉ q.principalId.toList
  expiry : ':' ∉ q.expiry.toList
  tokenId : ∀ tokenId ∈ q.tokenId, ':' ∉ tokenId.toList
  sig : ':' ∉ q.sig.toList

theorem splitText_eq_iff {s : String} {pieces : List String} (some_ : pieces ≠ []) :
    splitText s ':' = pieces ↔
      s.toList = [':'].intercalate (pieces.map String.toList) ∧ ∀ piece ∈ pieces, ':' ∉ piece.toList := by
  have lists : splitText s ':' = pieces ↔ s.toList.splitOn ':' = pieces.map String.toList := by
    rw [splitText]
    constructor
    · rintro rfl
      rw [List.map_map]
      exact (List.map_id'' (fun l => String.toList_ofList) _).symm
    · intro same
      rw [same, List.map_map]
      exact List.map_id'' (fun s => String.ofList_toList) pieces
  rw [lists, splitOn_eq_iff (by simpa using some_)]
  simp

theorem splitText_four {p e tokenId sig : String} :
    splitText token ':' = [p, e, tokenId, sig] ↔ (⟨p, e, some tokenId, sig⟩ : Pieces).Plain ∧
      token.toList = (currentMessage p e tokenId).toList ++ ':' :: sig.toList := by
  rw [splitText_eq_iff (List.cons_ne_nil _ _), currentMessage_toList]
  constructor
  · rintro ⟨shape, plain⟩
    simp only [List.forall_mem_cons] at plain
    obtain ⟨hp, he, ht, hs, -⟩ := plain
    exact ⟨⟨hp, he, fun _ mem => Option.some.inj mem ▸ ht, hs⟩, by simpa using shape⟩
  · rintro ⟨plain, shape⟩
    refine ⟨by simpa using shape, ?_⟩
    simp only [List.forall_mem_cons]
    exact ⟨plain.principalId, plain.expiry, plain.tokenId tokenId rfl, plain.sig, by simp⟩

theorem splitText_three {p e sig : String} :
    splitText token ':' = [p, e, sig] ↔ (⟨p, e, none, sig⟩ : Pieces).Plain ∧
      token.toList = (legacyMessage p e).toList ++ ':' :: sig.toList := by
  rw [splitText_eq_iff (List.cons_ne_nil _ _), legacyMessage_toList]
  constructor
  · rintro ⟨shape, plain⟩
    simp only [List.forall_mem_cons] at plain
    obtain ⟨hp, he, hs, -⟩ := plain
    exact ⟨⟨hp, he, (by rintro _ ⟨⟩), hs⟩, by simpa using shape⟩
  · rintro ⟨plain, shape⟩
    refine ⟨by simpa using shape, ?_⟩
    simp only [List.forall_mem_cons]
    exact ⟨plain.principalId, plain.expiry, plain.sig, by simp⟩

/-- A token has its pieces exactly when it was written from them. -/
theorem piecesOf_eq_some : piecesOf token = some q ↔
    q.Plain ∧ token.toList = q.message.toList ++ ':' :: q.sig.toList := by
  obtain ⟨p, e, tokenId, sig⟩ := q
  constructor
  · intro pieces
    unfold piecesOf at pieces
    split at pieces
    · rename_i shape
      obtain ⟨rfl, rfl, rfl, rfl⟩ := Pieces.mk.inj (Option.some.inj pieces)
      exact splitText_four.mp shape
    · rename_i shape
      obtain ⟨rfl, rfl, rfl, rfl⟩ := Pieces.mk.inj (Option.some.inj pieces)
      exact splitText_three.mp shape
    · cases pieces
  · intro written
    unfold piecesOf
    cases tokenId with
    | some tokenId => rw [splitText_four.mpr written]
    | none => rw [splitText_three.mpr written]

end Shapes

section Reading
variable {r : IdentityRules} {secret token : String} {q : Pieces} {i : Issue} {issued : List Issue}
  {now : ℚ}

/-- A message of pieces without colons is an issue's in the same format, or the issue is a legacy
one whose principal has a colon. -/
theorem message_cases (plain : q.Plain) (safe : i.UrlSafe) (same : i.message = q.message) :
    (i.principalId = q.principalId ∧ toString i.expiry = q.expiry ∧ i.tokenId = q.tokenId) ∨
      (i.tokenId = none ∧ ':' ∈ i.principalId.toList ∧ q.tokenId ≠ none) := by
  obtain ⟨p, e, tokenId, sig⟩ := q
  obtain ⟨P, E, identifier⟩ := i
  have lists := congrArg String.toList same
  have hp : ':' ∉ p.toList := plain.principalId
  have he : ':' ∉ e.toList := plain.expiry
  have hE := colon_toString E
  cases identifier with
  | some T =>
    have hT : ':' ∉ T.toList := safe T rfl
    cases tokenId with
    | some tid =>
      have ht : ':' ∉ tid.toList := plain.tokenId tid rfl
      simp only [Issue.message, Pieces.message, currentMessage_toList] at lists
      -- the identifier is cut off at the last colon, the expiry at the one before
      have shape : (P.toList ++ ':' :: (toString E).toList) ++ ':' :: T.toList =
          (p.toList ++ ':' :: e.toList) ++ ':' :: tid.toList := by simpa using lists
      obtain ⟨front, last⟩ := append_cons_inj_last hT ht shape
      obtain ⟨first, middle⟩ := append_cons_inj_last hE he front
      exact .inl ⟨String.toList_inj.mp first, String.toList_inj.mp middle,
        congrArg some (String.toList_inj.mp last)⟩
    | none =>
      simp only [Issue.message, Pieces.message, currentMessage_toList, legacyMessage_toList] at lists
      have counts := congrArg (List.count ':') lists
      simp only [List.count_append, List.count_cons_self, List.count_eq_zero.mpr hp,
        List.count_eq_zero.mpr he] at counts
      omega
  | none =>
    cases tokenId with
    | some tid =>
      have ht : ':' ∉ tid.toList := plain.tokenId tid rfl
      simp only [Issue.message, Pieces.message, currentMessage_toList, legacyMessage_toList] at lists
      have counts := congrArg (List.count ':') lists
      refine .inr ⟨rfl, ?_, Option.some_ne_none tid⟩
      by_contra colon
      simp only [List.count_append, List.count_cons_self, List.count_eq_zero.mpr colon,
        List.count_eq_zero.mpr hE, List.count_eq_zero.mpr hp, List.count_eq_zero.mpr he,
        List.count_eq_zero.mpr ht] at counts
      omega
    | none =>
      simp only [Issue.message, Pieces.message, legacyMessage_toList] at lists
      obtain ⟨first, last⟩ := append_cons_inj_last hE he lists
      exact .inl ⟨String.toList_inj.mp first, String.toList_inj.mp last, rfl⟩

/-- What the reader answers once it comes to the signature. -/
theorem verify_reaches (reaches : Reaches r token now q) : verifyIdentityToken r secret token now =
    match compareDigest q.sig (r.hmac secret q.message) with
    | .error e => .error e
    | .ok matching => .ok (if matching then some q.principalId else none) := by
  obtain ⟨pieces, expiry, read, open_⟩ := reaches
  rw [verifyIdentityToken, pieces]
  dsimp only
  rw [checkPieces, read]
  dsimp only
  rw [if_neg (not_lt.mpr open_)]

theorem magnitude_error {t : TextRules} {s : String} {body : List Char} {e : PyError}
    (raised : magnitude t s body = .error e) : e.kind = .valueError := by
  unfold magnitude at raised
  split at raised
  · rw [← Except.error.inj raised]
    rfl
  · split at raised
    · rw [← Except.error.inj raised]
    · cases raised

theorem intOfStr_error {t : TextRules} {s : String} {e : PyError}
    (raised : intOfStr t s = .error e) : e.kind = .valueError := by
  have lifted (f : Int → Int) (body : List Char) :
      Except.map f (magnitude t s body >>= fun n => pure (n : Int)) = .error e → e.kind = .valueError := by
    cases answered : magnitude t s body with
    | error e' =>
      intro same
      rw [← Except.error.inj same]
      exact magnitude_error answered
    | ok n => rintro ⟨⟩
  unfold intOfStr at raised
  split at raised
  · exact lifted _ _ raised
  · exact lifted _ _ raised
  · exact lifted _ _ raised

/-- What it answers before. -/
theorem verify_none (before : ∀ q, ¬Reaches r token now q) :
    verifyIdentityToken r secret token now = .ok none := by
  unfold verifyIdentityToken
  cases pieces : piecesOf token with
  | none => rfl
  | some q =>
    dsimp only
    unfold checkPieces
    cases read : intOfStr r.text q.expiry with
    | error e =>
      dsimp only
      rw [if_pos (intOfStr_error read)]
    | ok expiry =>
      dsimp only
      rw [if_pos]
      by_contra open_
      exact before q ⟨pieces, expiry, read, not_lt.mp open_⟩

theorem compareDigest_ok {a b : String} {matching : Bool} :
    compareDigest a b = .ok matching → matching = decide (a = b) := by
  unfold compareDigest
  split
  · intro same
    exact (Except.ok.inj same).symm
  · rintro ⟨⟩

theorem compareDigest_ascii {a b : String} (ha : isAscii a = true) (hb : isAscii b = true) :
    compareDigest a b = .ok (decide (a = b)) := by
  rw [compareDigest, ha, hb]
  rfl

theorem HexMac.ascii (mac : HexMac r) (msg : String) : isAscii (r.hmac secret msg) = true :=
  isAscii_hex (mac secret msg)

/-- A principal is returned exactly where the signature fits the message. -/
theorem verify_some (mac : HexMac r) {principalId : String} :
    verifyIdentityToken r secret token now = .ok (some principalId) ↔
      ∃ q, Reaches r token now q ∧ q.principalId = principalId ∧ q.sig = r.hmac secret q.message := by
  constructor
  · intro accepted
    by_cases before : ∀ q, ¬Reaches r token now q
    · rw [verify_none before] at accepted
      cases Except.ok.inj accepted
    · obtain ⟨q, reaches⟩ := not_forall_not.mp before
      rw [verify_reaches reaches] at accepted
      cases compared : compareDigest q.sig (r.hmac secret q.message) with
      | error e =>
        rw [compared] at accepted
        cases accepted
      | ok matching =>
        rw [compared] at accepted
        have same := compareDigest_ok compared
        cases matching with
        | false => cases Except.ok.inj accepted
        | true =>
          exact ⟨q, reaches, Option.some.inj (Except.ok.inj accepted), of_decide_eq_true same.symm⟩
  · rintro ⟨q, reaches, rfl, signed⟩
    have ascii : isAscii q.sig = true := by
      rw [signed]
      exact mac.ascii q.message
    rw [verify_reaches reaches, compareDigest_ascii ascii (mac.ascii q.message), decide_eq_true signed]
    rfl

/-- The reader returns exactly where a signature it comes to is ASCII. -/
theorem verify_returns (mac : HexMac r) :
    (∃ answer, verifyIdentityToken r secret token now = .ok answer) ↔
      ∀ q, Reaches r token now q → isAscii q.sig = true := by
  constructor
  · rintro ⟨answer, returned⟩ q reaches
    rw [verify_reaches reaches] at returned
    by_contra foreign
    have raises : compareDigest q.sig (r.hmac secret q.message) = .error ⟨.typeError,
        "comparing strings with non-ASCII characters is not supported"⟩ := by
      rw [compareDigest, eq_false_of_ne_true foreign]
      rfl
    rw [raises] at returned
    cases returned
  · intro ascii
    by_cases before : ∀ q, ¬Reaches r token now q
    · exact ⟨none, verify_none before⟩
    · obtain ⟨q, reaches⟩ := not_forall_not.mp before
      rw [verify_reaches reaches, compareDigest_ascii (ascii q reaches) (mac.ascii q.message)]
      exact ⟨_, rfl⟩

/-- A created token is sealed over its principal, its expiry and its identifier. -/
theorem create_ok {principalId tokenId : String} {ttl : Int}
    (created : createIdentityToken r secret principalId ttl now tokenId = .ok token) :
    (Nat.toDigits 10 (truncate now + ttl).natAbs).length ≤ maxStrDigits ∧
      token = sealed r secret (currentMessage principalId (toString (truncate now + ttl)) tokenId) := by
  unfold createIdentityToken at created
  obtain ⟨expiry, written, same⟩ := bind_ok.mp created
  unfold formatInt at written
  split at written
  · cases written
  · rename_i short
    rw [← Except.ok.inj written] at same
    exact ⟨Nat.not_lt.mp short, (Except.ok.inj same).symm⟩

/-- A created token opens for its principal up to its expiry, and for nobody afterwards. -/
theorem create_verifies (mac : HexMac r) (reads : ReadsDigits r.text) {principalId tokenId : String}
    {ttl : Int} {issuedAt : ℚ} (hp : ':' ∉ principalId.toList) (ht : ':' ∉ tokenId.toList)
    (created : createIdentityToken r secret principalId ttl issuedAt tokenId = .ok token) (now : ℚ) :
    verifyIdentityToken r secret token now =
      .ok (if now ≤ (truncate issuedAt + ttl : Int) then some principalId else none) := by
  obtain ⟨short, rfl⟩ := create_ok created
  have pieces : piecesOf (sealed r secret
      (currentMessage principalId (toString (truncate issuedAt + ttl)) tokenId)) =
        some ⟨principalId, toString (truncate issuedAt + ttl), some tokenId, r.hmac secret
          (currentMessage principalId (toString (truncate issuedAt + ttl)) tokenId)⟩ := by
    rw [piecesOf_eq_some]
    exact ⟨⟨hp, colon_toString _, fun _ same => Option.some.inj same ▸ ht, mac.colon _⟩, sealed_toList _⟩
  have read := intOfStr_toString reads short
  split
  · rename_i open_
    exact (verify_some mac).mpr ⟨_, ⟨pieces, _, read, open_⟩, rfl, rfl⟩
  · rename_i expired
    apply verify_none
    rintro q ⟨pieces', expiry, read', open_⟩
    obtain rfl := Option.some.inj (pieces.symm.trans pieces')
    rw [← Except.ok.inj (read.symm.trans read')] at open_
    exact expired open_

/-- The pieces of a sealed message are its own, with the signature behind them. -/
theorem piecesOf_sealed (mac : HexMac r) {msg : String} (pieces : piecesOf (sealed r secret msg) = some q) :
    q.message = msg ∧ q.sig = r.hmac secret msg := by
  obtain ⟨plain, shape⟩ := piecesOf_eq_some.mp pieces
  rw [sealed_toList] at shape
  obtain ⟨message, sig⟩ := append_cons_inj_last (mac.colon msg) plain.sig shape
  exact ⟨(String.toList_inj.mp message).symm, (String.toList_inj.mp sig).symm⟩

theorem sealed_of_sig (pieces : piecesOf token = some q) (signed : q.sig = r.hmac secret q.message) :
    token = sealed r secret q.message := by
  apply String.toList_inj.mp
  rw [(piecesOf_eq_some.mp pieces).2, sealed_toList, signed]

theorem readsRight_of_readable (mac : HexMac r) (reads : ReadsDigits r.text)
    (safe : ∀ i ∈ issued, i.UrlSafe ∧ (Nat.toDigits 10 i.expiry.natAbs).length ≤ maxStrDigits)
    (unforged : Unforged r secret issued token) (readable : Readable r secret issued token now) :
    ReadsRight r secret issued token now := by
  refine ⟨(verify_returns mac).mpr readable.ascii, ?_⟩
  intro principalId accepted
  obtain ⟨q, reaches, rfl, signed⟩ := (verify_some mac).mp accepted
  have plain := (piecesOf_eq_some.mp reaches.1).1
  have written := sealed_of_sig reaches.1 signed
  -- an issue with the message that is in the reader's format has the reader's pieces
  have own : ∀ i ∈ issued, i.message = q.message → (i.tokenId = none → q.tokenId = none) →
      SignedFor r secret issued token now q.principalId := by
    intro i mem same format
    rcases message_cases plain (safe i mem).1 same with ⟨first, middle, last⟩ | ⟨legacy, -, current⟩
    · refine ⟨i, mem, first, by rw [same, written], fun q' pieces => ?_, ?_⟩
      · rw [← Option.some.inj (reaches.1.symm.trans pieces), last]
      · obtain ⟨-, expiry, read, open_⟩ := reaches
        rw [← middle, intOfStr_toString reads (safe i mem).2] at read
        rw [Except.ok.inj read]
        exact open_
    · exact absurd (format legacy) current
  obtain ⟨i, mem, same⟩ := unforged q.message written
  by_cases format : i.tokenId = none → q.tokenId = none
  · exact own i mem same format
  · obtain ⟨legacy, current⟩ := Classical.not_imp.mp format
    rcases message_cases plain (safe i mem).1 same with ⟨-, -, last⟩ | ⟨-, colon, -⟩
    · exact absurd (last.symm.trans legacy) current
    · have token_ : token = sealed r secret i.message := by rw [same, written]
      obtain ⟨j, mem', current', same'⟩ := readable.format q reaches i mem legacy colon token_
      exact own j mem' (same'.trans same) fun none_ => absurd none_ current'

theorem readable_of_readsRight (mac : HexMac r) (right : ReadsRight r secret issued token now) :
    Readable r secret issued token now := by
  refine ⟨(verify_returns mac).mp right.returns, ?_⟩
  rintro q reaches i mem legacy colon rfl
  obtain ⟨message, sig⟩ := piecesOf_sealed mac reaches.1
  have signed : q.sig = r.hmac secret q.message := by rw [message, sig]
  obtain ⟨j, mem', -, same, format, -⟩ :=
    right.signed q.principalId ((verify_some mac).mpr ⟨q, reaches, rfl, signed⟩)
  refine ⟨j, mem', ?_, (sealed_inj mac same).symm⟩
  rw [← format q reaches.1]
  -- three pieces hold one colon before the signature, a principal with a colon makes two
  intro none_
  have plain := (piecesOf_eq_some.mp reaches.1).1
  obtain ⟨p, e, tokenId, s⟩ := q
  obtain ⟨P, E, identifier⟩ := i
  obtain rfl : tokenId = none := none_
  obtain rfl : identifier = none := legacy
  have lists := congrArg String.toList message
  simp only [Issue.message, Pieces.message, legacyMessage_toList] at lists
  obtain ⟨first, -⟩ := append_cons_inj_last plain.expiry (colon_toString E) lists
  exact plain.principalId (first ▸ colon)

/-- For every created token, and for every string: a token opens for its principal up to its
expiry and for nobody later; and a string is read as it was signed, without an exception, if and
only if its signature is ASCII and it is not a legacy token whose principal has a colon. -/
theorem identity_tokens_iff (r : IdentityRules) (secret : String) (mac : HexMac r)
    (reads : ReadsDigits r.text) :
    (∀ principalId tokenId ttl issuedAt token, ':' ∉ principalId.toList → ':' ∉ tokenId.toList →
      createIdentityToken r secret principalId ttl issuedAt tokenId = .ok token → ∀ now,
        verifyIdentityToken r secret token now =
          .ok (if now ≤ (truncate issuedAt + ttl : Int) then some principalId else none)) ∧
    ∀ issued token now,
      (∀ i ∈ issued, i.UrlSafe ∧ (Nat.toDigits 10 i.expiry.natAbs).length ≤ maxStrDigits) →
      Unforged r secret issued token →
        (ReadsRight r secret issued token now ↔ Readable r secret issued token now) := by
  constructor
  · intro principalId tokenId ttl issuedAt token hp ht created now
    exact create_verifies mac reads hp ht created now
  · intro issued token now safe unforged
    constructor
    · exact readable_of_readsRight mac
    · exact readsRight_of_readable mac reads safe unforged

end Reading

section Samples

def sampleRules : IdentityRules := ⟨fun _ _ => "00ff", asciiRules fun _ => "0.0"⟩

theorem sample_mac : HexMac sampleRules := by
  intro k s
  show ∀ c ∈ "00ff".toList, IsHexDigit c
  decide

theorem ascii_reads (reprFloat : PyFloat → String) : ReadsDigits (asciiRules reprFloat) := by
  refine ⟨fun c digit => if_pos digit, ?_⟩
  rintro c (digit | rfl)
  · obtain ⟨low, high⟩ := Char.isDigit_iff_toNat.mp digit
    have low : 48 ≤ c.toNat := low
    have high : c.toNat ≤ 57 := high
    have blank : c ≠ ' ' := by
      rintro rfl
      exact absurd low (by decide)
    simp only [asciiRules, decide_eq_false blank, Bool.false_or, Bool.or_eq_false_iff,
      Bool.and_eq_false_iff, decide_eq_false_iff_not]
    omega
  · rfl

theorem sample_token_opens : verifyIdentityToken sampleRules "secret"
    "user-owner-a:1700000300:dG9rZW4tMQ:00ff" 1700000100 = .ok (some "user-owner-a") :=
  (identity_tokens_iff sampleRules "secret" sample_mac (ascii_reads _)).1 "user-owner-a" "dG9rZW4tMQ"
    300 1700000000 _ (by decide) (by decide) (by decide +kernel) 1700000100

/-- A signature outside ASCII is not refused: the comparison raises. -/
theorem foreign_signature_raises : verifyIdentityToken sampleRules "secret"
    "user-owner-a:1700000300:é" 1700000100 =
      .error ⟨.typeError, "comparing strings with non-ASCII characters is not supported"⟩ := by
  decide +kernel

end Samples

end IdentityTokens
