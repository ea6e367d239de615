import KalyxMao.PythonConversions
import Mathlib.Data.List.TakeWhile

/-!
# Scheme and host of a URL

`urlparse` cuts a text at fixed characters: the scheme ends at the first colon,
the authority at the first slash, question mark or hash behind its two slashes,
and the host is what follows the last `@` in it, up to a port. A text in which
the authority has ended has its scheme and host for every text that it begins.
-/

namespace UrlText
open PythonConversions List

section Model

/-- Control characters and blanks in front, and line breaks and tabs anywhere, are taken out. -/
def cleaned (url : List Char) : List Char :=
  (url.dropWhile fun c => c.toNat ≤ 32).filter fun c => c ∉ ['\t', '\r', '\n']

def isSchemeChar (c : Char) : Bool := c.isAlphanum || c ∈ ['+', '-', '.']

def splitScheme (url : List Char) : List Char × List Char :=
  let front := url.takeWhile (· ≠ ':')
  if ':' ∈ url ∧ front.head?.any Char.isAlpha ∧ front.all isSchemeChar then
    (front.map Char.toLower, url.drop (front.length + 1))
  else ([], url)

def isDelimiter (c : Char) : Bool := c ∈ ['/', '?', '#']

def netloc : List Char → List Char
  | '/' :: '/' :: rest => rest.takeWhile fun c => !isDelimiter c
  | _ => []

/-- The host in an authority: behind the user information, before the port, without brackets. -/
def hostOf (netloc : List Char) : List Char :=
  let hostinfo := (netloc.reverse.takeWhile (· ≠ '@')).reverse
  if '[' ∈ hostinfo then ((hostinfo.dropWhile (· ≠ '[')).drop 1).takeWhile (· ≠ ']')
  else hostinfo.takeWhile (· ≠ ':')

/-- `SplitResult.hostname`; a zone keeps its case. -/
def hostname (t : TextRules) (netloc : List Char) : Option String :=
  let host := hostOf netloc
  if host = [] then none
  else some (t.lower (String.ofList (host.takeWhile (· ≠ '%'))) ++
    String.ofList (host.dropWhile (· ≠ '%')))

def urlparse (t : TextRules) (url : String) : String × Option String :=
  let (scheme, rest) := splitScheme (cleaned url.toList)
  (String.ofList scheme, hostname t (netloc rest))

example : urlparse (asciiRules fun _ => "") "HTTPS://User@Example.org:80/x" =
    ("https", some "example.org") := by decide +kernel

/-- What a text begins with decides whether it has a scheme. -/
def schemeKnown (url : List Char) : Bool :=
  ':' ∈ url || url.any (fun c => !isSchemeChar c) || url.head?.any fun c => !c.isAlpha

def authorityEnded : List Char → Bool
  | [] => false
  | ['/'] => false
  | '/' :: '/' :: rest => rest.any isDelimiter
  | _ => true

/-- The authority ends inside the text, or none can begin behind it. -/
def isEnded (url : String) : Bool :=
  schemeKnown (cleaned url.toList) && authorityEnded (splitScheme (cleaned url.toList)).2

end Model

section Ended
variable {t : TextRules} {u v : List Char}

theorem cleaned_append (some_ : cleaned u ≠ []) (v : List Char) :
    cleaned (u ++ v) = cleaned u ++ v.filter fun c => c ∉ ['\t', '\r', '\n'] := by
  unfold cleaned at some_ ⊢
  rw [dropWhile_append, if_neg, filter_append]
  intro empty
  rw [isEmpty_iff.mp empty] at some_
  exact some_ rfl

/-- A cut that a text holds stays where it is behind further text. -/
theorem takeWhile_append_cut {p : Char → Bool} {c : Char} (mem : c ∈ u) (cut : p c = false) (v : List Char) :
    (u ++ v).takeWhile p = u.takeWhile p := by
  rw [takeWhile_append, if_neg]
  intro whole
  have front : u.takeWhile p <+: u := takeWhile_prefix p
  have same : u.takeWhile p = u := front.eq_of_length whole
  have kept := mem_takeWhile_imp (same ▸ mem)
  rw [cut] at kept
  cases kept

theorem splitScheme_append (known : schemeKnown u = true) (v : List Char) :
    splitScheme (u ++ v) = ((splitScheme u).1, (splitScheme u).2 ++ v) := by
  unfold splitScheme
  dsimp only
  by_cases colon : ':' ∈ u
  · have front := takeWhile_append_cut (p := (· ≠ ':')) colon rfl v
    have inside : (u.takeWhile (· ≠ ':')).length + 1 ≤ u.length := by
      have start : u.takeWhile (· ≠ ':') <+: u := takeWhile_prefix _
      apply Nat.lt_of_le_of_ne start.length_le
      intro whole
      have same : u.takeWhile (· ≠ ':') = u := start.eq_of_length whole
      have kept := mem_takeWhile_imp (same ▸ colon)
      exact of_decide_eq_true (p := ':' ≠ ':') kept rfl
    rw [front]
    by_cases scheme : (u.takeWhile (· ≠ ':')).head?.any Char.isAlpha = true ∧
        (u.takeWhile (· ≠ ':')).all isSchemeChar = true
    · rw [if_pos ⟨mem_append_left v colon, scheme⟩, if_pos ⟨colon, scheme⟩,
        drop_append_of_le_length inside]
    · rw [if_neg fun h => scheme h.2, if_neg fun h => scheme h.2]
  · rw [if_neg ?_, if_neg fun h => colon h.1]
    rintro ⟨-, first, rest⟩
    have whole : u.takeWhile (· ≠ ':') = u := by
      rw [takeWhile_eq_self_iff]
      intro c mem
      apply decide_eq_true
      rintro rfl
      exact colon mem
    rw [takeWhile_append, if_pos (congrArg length whole)] at first rest
    unfold schemeKnown at known
    rw [Bool.or_eq_true, Bool.or_eq_true, decide_eq_true_eq] at known
    rcases known with (there | other) | other
    · exact colon there
    · obtain ⟨c, mem, bad⟩ := any_eq_true.mp other
      have good := all_eq_true.mp rest c (mem_append_left _ mem)
      rw [good] at bad
      cases bad
    · cases u with
      | nil => cases other
      | cons c u =>
        have good : c.isAlpha = true := first
        have bad : (!c.isAlpha) = true := other
        rw [good] at bad
        cases bad

theorem netloc_append (ended : authorityEnded u = true) (v : List Char) : netloc (u ++ v) = netloc u := by
  unfold authorityEnded at ended
  split at ended
  · cases ended
  · cases ended
  · rename_i rest
    obtain ⟨c, mem, delimiter⟩ := any_eq_true.mp ended
    exact takeWhile_append_cut mem (congrArg (!·) delimiter) v
  · rename_i none_ slash slashes
    have plain (w : List Char) (other : ∀ rest, w ≠ '/' :: '/' :: rest) : netloc w = [] := by
      unfold netloc
      split
      · exact absurd rfl (other _)
      · rfl
    rw [plain u slashes, plain]
    intro rest same
    cases u with
    | nil => exact none_ rfl
    | cons c u =>
      cases u with
      | nil =>
        exact slash (congrArg (fun c => [c]) (cons.inj same).1)
      | cons d u =>
        obtain ⟨first, rest'⟩ := cons.inj same
        have second := (cons.inj rest').1
        rw [first, second] at slashes
        exact slashes u rfl

/-- Scheme and host of a text that is ended are those of every text that it begins. -/
theorem urlparse_append {url : String} (ended : isEnded url = true) (rest : String) :
    urlparse t (url ++ rest) = urlparse t url := by
  obtain ⟨known, authority⟩ := Bool.and_eq_true_iff.mp ended
  have some_ : cleaned url.toList ≠ [] := by
    intro empty
    rw [empty] at known
    cases known
  unfold urlparse
  rw [String.toList_append, cleaned_append some_, splitScheme_append known]
  dsimp only
  rw [netloc_append authority]

end Ended

section Open
variable {t : TextRules}

/-- A host of any length. -/
def longHost (n : Nat) : List Char := replicate (n + 1) 'a'

theorem longHost_mem {n : Nat} {c : Char} (mem : c ∈ longHost n) : c = 'a' := eq_of_mem_replicate mem

theorem takeWhile_longHost {p : Char → Bool} (pass : p 'a' = true) (n : Nat) :
    (longHost n).takeWhile p = longHost n := by
  rw [takeWhile_eq_self_iff]
  intro c mem
  rw [longHost_mem mem]
  exact pass

/-- Behind an `@`, or alone, a plain text is the host. -/
theorem hostOf_longHost {front : List Char} (cut : front = [] ∨ front.getLast? = some '@') (n : Nat) :
    hostOf (front ++ longHost n) = longHost n := by
  have info : (((front ++ longHost n).reverse.takeWhile (· ≠ '@')).reverse) = longHost n := by
    have reversed : (longHost n).reverse = longHost n := reverse_replicate
    rw [reverse_append, reversed, takeWhile_append,
      if_pos (congrArg length (takeWhile_longHost (by decide) n))]
    rcases cut with rfl | last
    · rw [reverse_nil, takeWhile_nil, append_nil, reversed]
    · obtain ⟨user, rfl⟩ := getLast?_eq_some_iff.mp last
      have back : (user ++ ['@']).reverse = '@' :: user.reverse := reverse_concat
      rw [back, takeWhile_cons_of_neg (by decide), append_nil, reversed]
  unfold hostOf
  dsimp only
  rw [info, if_neg, takeWhile_longHost (by decide)]
  intro bracket
  exact absurd (longHost_mem bracket) (by decide)

theorem hostname_longHost {front : List Char} (cut : front = [] ∨ front.getLast? = some '@') (n : Nat) :
    hostname t (front ++ longHost n) = some (t.lower (String.ofList (longHost n))) := by
  unfold hostname
  dsimp only
  have some_ : longHost n ≠ [] := cons_ne_nil 'a' (replicate n 'a')
  rw [hostOf_longHost cut, if_neg some_, takeWhile_longHost (by decide)]
  have none_ : (longHost n).dropWhile (· ≠ '%') = [] := by
    rw [dropWhile_eq_nil_iff]
    intro c mem
    rw [longHost_mem mem]
    decide
  rw [none_]
  exact congrArg some (String.append_empty)

/-- The text that goes on from what has not ended to a host. -/
def bridge (url : List Char) : List Char :=
  if url = [] then "x://".toList
  else if schemeKnown url then
    match (splitScheme url).2 with
    | [] => ['/', '/']
    | ['/'] => ['/']
    | _ => ['@']
  else "://".toList

theorem bridge_solid (u : List Char) (n : Nat) : ∀ c ∈ bridge u ++ longHost n, 32 < c.toNat := by
  intro c mem
  rcases mem_append.mp mem with inside | long
  · unfold bridge at inside
    have known : ∀ c ∈ "x://@".toList, 32 < c.toNat := by decide
    split at inside
    · exact known c ((by decide : "x://".toList ⊆ "x://@".toList) inside)
    · split at inside
      · split at inside
        · exact known c ((by decide : ['/', '/'] ⊆ "x://@".toList) inside)
        · exact known c ((by decide : ['/'] ⊆ "x://@".toList) inside)
        · exact known c ((by decide : ['@'] ⊆ "x://@".toList) inside)
      · exact known c ((by decide : "://".toList ⊆ "x://@".toList) inside)
  · rw [longHost_mem long]
    decide

/-- A text without control characters and blanks is kept as it is. -/
theorem cleaned_solid (u : List Char) {w : List Char} (solid : ∀ c ∈ w, 32 < c.toNat) :
    cleaned (u ++ w) = cleaned u ++ w := by
  have kept : (w.filter fun c => c ∉ ['\t', '\r', '\n']) = w := by
    rw [filter_eq_self]
    intro c mem
    apply decide_eq_true
    intro control
    have small : ∀ c ∈ ['\t', '\r', '\n'], ¬32 < c.toNat := by decide
    exact small c control (solid c mem)
  by_cases empty : cleaned u = []
  · have blank : (u.dropWhile fun c => c.toNat ≤ 32) = [] := by
      by_contra some_
      obtain ⟨c, rest, shape⟩ := exists_cons_of_ne_nil some_
      have first : ¬c.toNat ≤ 32 := by
        have head := head?_dropWhile_not (fun c : Char => decide (c.toNat ≤ 32)) u
        rw [shape] at head
        exact of_decide_eq_false head
      unfold cleaned at empty
      rw [shape, filter_cons_of_pos] at empty
      · cases empty
      · apply decide_eq_true
        intro control
        have small : ∀ c ∈ ['\t', '\r', '\n'], c.toNat ≤ 32 := by decide
        exact first (small c control)
    have whole : (w.dropWhile fun c => c.toNat ≤ 32) = w := by
      rw [dropWhile_eq_self_iff]
      intro nonempty small
      exact absurd (of_decide_eq_true small) (Nat.not_le.mpr (solid _ (getElem_mem nonempty)))
    rw [empty, nil_append]
    unfold cleaned
    rw [dropWhile_append, blank, isEmpty_nil, if_pos rfl, whole, kept]
  · rw [cleaned_append empty, kept]

theorem splitScheme_colon {u : List Char} (first : u.head?.any Char.isAlpha = true)
    (all : u.all isSchemeChar = true) (rest : List Char) :
    splitScheme (u ++ ':' :: rest) = (u.map Char.toLower, rest) := by
  have plain : ∀ c ∈ u, c ≠ ':' := by
    rintro c mem rfl
    exact absurd (all_eq_true.mp all _ mem) (by decide)
  have cut : (u ++ ':' :: rest).takeWhile (· ≠ ':') = u := by
    rw [takeWhile_append, if_pos, takeWhile_cons_of_neg (by decide), append_nil]
    rw [takeWhile_eq_self_iff.mpr fun c mem => decide_eq_true (plain c mem)]
  unfold splitScheme
  dsimp only
  have dropped : (u ++ ':' :: rest).drop (u.length + 1) = rest := by
    rw [← drop_drop, drop_left]
    rfl
  rw [cut, if_pos ⟨mem_append_right _ mem_cons_self, first, all⟩, dropped]

theorem netloc_plain {authority : List Char} (plain : ∀ c ∈ authority, isDelimiter c = false) :
    netloc ('/' :: '/' :: authority) = authority := by
  rw [netloc, takeWhile_eq_self_iff]
  intro c mem
  rw [plain c mem]
  rfl

theorem longHost_plain (n : Nat) : ∀ c ∈ longHost n, isDelimiter c = false := by
  intro c mem
  rw [longHost_mem mem]
  decide

/-- Behind the bridge stands an authority that ends in the host. -/
theorem bridge_netloc {u : List Char} (open_ : (schemeKnown u && authorityEnded (splitScheme u).2) = false)
    (n : Nat) : ∃ front, (front = [] ∨ front.getLast? = some '@') ∧
      netloc (splitScheme (u ++ (bridge u ++ longHost n))).2 = front ++ longHost n := by
  unfold bridge
  by_cases empty : u = []
  · rw [if_pos empty, empty, nil_append]
    have cut := splitScheme_colon (u := ['x']) rfl (by decide) ('/' :: '/' :: longHost n)
    exact ⟨[], .inl rfl, (congrArg (fun s => netloc s.2) cut).trans (netloc_plain (longHost_plain n))⟩
  · rw [if_neg empty]
    by_cases known : schemeKnown u = true
    · rw [if_pos known, splitScheme_append known]
      have undecided : authorityEnded (splitScheme u).2 = false := by
        rw [known, Bool.true_and] at open_
        exact open_
      unfold authorityEnded at undecided
      dsimp only
      split at undecided
      · rename_i rest
        rw [rest]
        exact ⟨[], .inl rfl, netloc_plain (longHost_plain n)⟩
      · rename_i rest
        rw [rest]
        exact ⟨[], .inl rfl, netloc_plain (longHost_plain n)⟩
      · rename_i rest shape
        rw [shape]
        refine ⟨rest ++ ['@'], .inr getLast?_concat, ?_⟩
        have whole : netloc ('/' :: '/' :: (rest ++ ['@'] ++ longHost n)) = rest ++ ['@'] ++ longHost n := by
          apply netloc_plain
          intro c mem
          rcases mem_append.mp mem with user | long
          · rcases mem_append.mp user with inside | last
            · exact Bool.eq_false_iff.mpr fun delimiter =>
                ne_true_of_eq_false undecided (any_eq_true.mpr ⟨c, inside, delimiter⟩)
            · rw [mem_singleton.mp last]
              decide
          · exact longHost_plain n c long
        rw [append_assoc] at whole ⊢
        exact whole
      · cases undecided
    · rw [if_neg known]
      have parts := Bool.eq_false_iff.mpr known
      unfold schemeKnown at parts
      rw [Bool.or_eq_false_iff, Bool.or_eq_false_iff] at parts
      obtain ⟨⟨-, all⟩, first⟩ := parts
      have scheme : u.all isSchemeChar = true := by
        rw [all_eq_true]
        intro c mem
        have good := any_eq_false.mp all c mem
        rwa [Bool.not_eq_true', Bool.not_eq_false] at good
      have letter : u.head?.any Char.isAlpha = true := by
        cases u with
        | nil => exact absurd rfl empty
        | cons c u =>
          have good : (!c.isAlpha) = false := first
          rwa [Bool.not_eq_false'] at good
      have cut := splitScheme_colon letter scheme ('/' :: '/' :: longHost n)
      exact ⟨[], .inl rfl, (congrArg (fun s => netloc s.2) cut).trans (netloc_plain (longHost_plain n))⟩

/-- A text that has not ended begins URLs of any long host. -/
theorem open_host {url : String} (open_ : isEnded url = false) (n : Nat) :
    (urlparse t (url ++ String.ofList (bridge (cleaned url.toList) ++ longHost n))).2 =
      some (t.lower (String.ofList (longHost n))) := by
  obtain ⟨front, cut, authority⟩ := bridge_netloc open_ n
  unfold urlparse
  rw [String.toList_append, String.toList_ofList, cleaned_solid _ (bridge_solid _ n)]
  dsimp only
  rw [authority, hostname_longHost cut]

end Open

end UrlText
