import Mathlib.Tactic.Ring
import KalyxMao.PythonDates
import KalyxMao.PythonValues

/-!
# Reading canonical text back

The canonical text of a value determines it up to the order of its keys. A
string is read character by character, an escape being told by what follows the
backslash. A number or a word ends at the first comma or closing bracket.
-/

namespace CanonicalText
open PythonText PythonValues

section Escapes

def hexValue (c : Char) : Nat := if c.isDigit then c.toNat - 48 else c.toNat - 87

theorem hexValue_digit : ∀ n < 16, hexValue (Nat.digitChar n) = n := by decide

def hexNumber (a b c d : Char) : Nat :=
  hexValue a * 4096 + hexValue b * 256 + hexValue c * 16 + hexValue d

theorem hexNumber_four {n : Nat} (small : n < 65536) :
    hexNumber (hexDigit (n / 4096)) (hexDigit (n / 256)) (hexDigit (n / 16)) (hexDigit n) = n := by
  have digit (m : Nat) : hexValue (hexDigit m) = m % 16 :=
    hexValue_digit (m % 16) (Nat.mod_lt m (by decide))
  rw [hexNumber, digit, digit, digit, digit]
  omega

def shortEscape (c : Char) : Option Char :=
  if c = '"' then some '"'
  else if c = '\\' then some '\\'
  else if c = 'n' then some '\n'
  else if c = 'r' then some '\r'
  else if c = 't' then some '\t'
  else if c = 'b' then some (Char.ofNat 8)
  else if c = 'f' then some (Char.ofNat 12)
  else none

/-- Reads four digits, and the low surrogate where they are a high one. -/
def readHex : List Char → Option (Char × List Char)
  | a :: b :: c :: d :: rest =>
    let n := hexNumber a b c d
    if 55296 ≤ n ∧ n < 56320 then
      match rest with
      | '\\' :: 'u' :: e :: f :: g :: h :: rest =>
        some (Char.ofNat (65536 + (n - 55296) * 1024 + (hexNumber e f g h - 56320)), rest)
      | _ => none
    else some (Char.ofNat n, rest)
  | _ => none

/-- Reads one character of a quoted string; the closing quote is none. -/
def readChar : List Char → Option (Char × List Char)
  | [] => none
  | c :: rest =>
    if c = '"' then none
    else if c = '\\' then
      match rest with
      | [] => none
      | e :: rest => if e = 'u' then readHex rest else (shortEscape e).map fun c => (c, rest)
    else some (c, rest)

theorem char_range (c : Char) : c.toNat < 55296 ∨ 57343 < c.toNat ∧ c.toNat < 1114112 := c.valid

theorem ofNat_eq {c : Char} {n : Nat} (same : c.toNat = n) : Char.ofNat n = c := by
  rw [← same, Char.ofNat_toNat]

theorem hexFour_toList (n : Nat) : (hexFour n).toList =
    [hexDigit (n / 4096), hexDigit (n / 256), hexDigit (n / 16), hexDigit n] := by
  rw [hexFour, String.toList_ofList]

theorem readHex_basic {c : Char} (basic : c.toNat < 65536) (rest : List Char) :
    readHex ((hexFour c.toNat).toList ++ rest) = some (c, rest) := by
  have range := char_range c
  rw [hexFour_toList]
  show (if 55296 ≤ hexNumber _ _ _ _ ∧ _ then _ else _) = _
  rw [hexNumber_four basic, if_neg (by omega), Char.ofNat_toNat]
  rfl

theorem readHex_pair {c : Char} (beyond : 65536 ≤ c.toNat) (rest : List Char) :
    readHex ((hexFour (55296 + (c.toNat - 65536) / 1024)).toList ++ ('\\' :: 'u' ::
      ((hexFour (56320 + (c.toNat - 65536) % 1024)).toList ++ rest))) = some (c, rest) := by
  have range := char_range c
  rw [hexFour_toList, hexFour_toList]
  show (if 55296 ≤ hexNumber _ _ _ _ ∧ _ then
    some (Char.ofNat (65536 + (hexNumber _ _ _ _ - 55296) * 1024 + (hexNumber _ _ _ _ - 56320)), rest)
    else _) = _
  rw [hexNumber_four (by omega), hexNumber_four (by omega), if_pos (by omega)]
  rw [ofNat_eq (c := c) (by omega)]

theorem readChar_unicode (rest : List Char) : readChar ('\\' :: 'u' :: rest) = readHex rest := rfl

theorem unicode_toList : ("\\u" : String).toList = ['\\', 'u'] := by decide

theorem readChar_pair {c : Char} {high low : String} {rest : List Char}
    (read : readHex (high.toList ++ ('\\' :: 'u' :: (low.toList ++ rest))) = some (c, rest)) :
    readChar (("\\u" ++ high ++ "\\u" ++ low).toList ++ rest) = some (c, rest) := by
  simp only [String.toList_append, unicode_toList, List.append_assoc, List.cons_append,
    List.nil_append]
  rw [readChar_unicode, read]

theorem readChar_ite {p : Prop} [Decidable p] {s t : String} {found : Option (Char × List Char)}
    {rest : List Char} (yes : p → readChar (s.toList ++ rest) = found)
    (no : ¬p → readChar (t.toList ++ rest) = found) :
    readChar ((if p then s else t).toList ++ rest) = found := by
  by_cases here : p
  · rw [if_pos here]
    exact yes here
  · rw [if_neg here]
    exact no here

theorem readChar_escape (c : Char) (rest : List Char) :
    readChar ((escapeChar c).toList ++ rest) = some (c, rest) := by
  unfold escapeChar
  refine readChar_ite (fun quote => ?_) fun quote => ?_
  · rw [quote]; rfl
  refine readChar_ite (fun back => ?_) fun back => ?_
  · rw [back]; rfl
  refine readChar_ite (fun newline => ?_) fun _ => ?_
  · rw [newline]; rfl
  refine readChar_ite (fun carriage => ?_) fun _ => ?_
  · rw [carriage]; rfl
  refine readChar_ite (fun tab => ?_) fun _ => ?_
  · rw [tab]; rfl
  refine readChar_ite (fun bell => ?_) fun _ => ?_
  · rw [← ofNat_eq bell]; rfl
  refine readChar_ite (fun feed => ?_) fun _ => ?_
  · rw [← ofNat_eq feed]; rfl
  refine readChar_ite (fun _ => ?_) fun _ => readChar_ite (fun basic => ?_) fun beyond => ?_
  · rw [String.toList_ofList]
    show (if c = '"' then _ else if c = '\\' then _ else _) = _
    rw [if_neg quote, if_neg back]
    rfl
  · rw [String.toList_append, unicode_toList, List.append_assoc, List.cons_append, List.cons_append,
      List.nil_append, readChar_unicode, readHex_basic basic]
  · exact readChar_pair (readHex_pair (by omega) rest)

theorem escape_inj {c d : Char} {r s : List Char}
    (same : (escapeChar c).toList ++ r = (escapeChar d).toList ++ s) : c = d ∧ r = s := by
  have read := congrArg readChar same
  rw [readChar_escape, readChar_escape] at read
  exact Prod.mk.inj (Option.some.inj read)

theorem escape_ne_quote (c : Char) (r s : List Char) : (escapeChar c).toList ++ r ≠ '"' :: s := by
  intro same
  have read := congrArg readChar same
  rw [readChar_escape] at read
  cases read

def escaped (cs : List Char) : List Char := cs.flatMap fun c => (escapeChar c).toList

theorem escaped_inj {cs ds r s : List Char}
    (same : escaped cs ++ '"' :: r = escaped ds ++ '"' :: s) : cs = ds ∧ r = s := by
  induction cs generalizing ds with
  | nil =>
    cases ds with
    | nil => exact ⟨rfl, (List.cons.inj same).2⟩
    | cons d ds =>
      rw [escaped, escaped, List.flatMap_cons, List.append_assoc] at same
      exact absurd same.symm (escape_ne_quote d _ _)
  | cons c cs ih =>
    cases ds with
    | nil =>
      rw [escaped, escaped, List.flatMap_cons, List.append_assoc] at same
      exact absurd same (escape_ne_quote c _ _)
    | cons d ds =>
      rw [escaped, escaped, List.flatMap_cons, List.flatMap_cons, List.append_assoc,
        List.append_assoc] at same
      obtain ⟨rfl, rest⟩ := escape_inj same
      obtain ⟨rfl, tail⟩ := ih rest
      exact ⟨rfl, tail⟩

/-- A quoted string, as characters. -/
def quoted (s : String) : List Char := '"' :: (escaped s.toList ++ ['"'])

theorem quoteJson_toList (s : String) : (quoteJson s).toList = quoted s := by
  have joined : (String.join (s.toList.map escapeChar)).toList = escaped s.toList := by
    rw [String.toList_join, List.flatMap_map]
    rfl
  rw [quoteJson, String.toList_append, String.toList_append, joined]
  rfl

theorem quoted_inj {a b : String} {r s : List Char} (same : quoted a ++ r = quoted b ++ s) :
    a = b ∧ r = s := by
  rw [quoted, quoted, List.cons_append, List.cons_append, List.append_assoc, List.append_assoc] at same
  obtain ⟨chars, rests⟩ := escaped_inj (List.cons.inj same).2
  exact ⟨String.toList_inj.mp chars, rests⟩

end Escapes

section Values

mutual

/-- The value with the keys of every dictionary in order. -/
def sortKeys : PyValue → PyValue
  | .none => .none
  | .bool b => .bool b
  | .int i => .int i
  | .float f => .float f
  | .str s => .str s
  | .list xs => .list (sortKeysList xs)
  | .dict items => .dict ((sortKeysItems items).mergeSort fun a b => a.1 ≤ b.1)

def sortKeysList : List PyValue → List PyValue
  | [] => []
  | x :: xs => sortKeys x :: sortKeysList xs

def sortKeysItems : List (String × PyValue) → List (String × PyValue)
  | [] => []
  | (key, x) :: items => (key, sortKeys x) :: sortKeysItems items

end

def openBrace : Char := Char.ofNat 123
def closeBrace : Char := Char.ofNat 125

variable (reprFloat : PyFloat → String)

/-- The text of a value without parts. -/
def word : PyValue → Option String
  | .none => some "null"
  | .bool b => some (if b then "true" else "false")
  | .int i => some (toString i)
  | .float f => some (reprFloat f)
  | _ => none

mutual

/-- The text of a value whose keys are taken in the order they have. -/
def chars : PyValue → List Char
  | .none => "null".toList
  | .bool b => (if b then "true" else "false" : String).toList
  | .int i => (toString i).toList
  | .float f => (reprFloat f).toList
  | .str s => quoted s
  | .list xs => '[' :: (charsList xs ++ [']'])
  | .dict items => openBrace :: (charsItems items ++ [closeBrace])

def charsList : List PyValue → List Char
  | [] => []
  | x :: xs => chars x ++ charsListTail xs

def charsListTail : List PyValue → List Char
  | [] => []
  | x :: xs => ',' :: (chars x ++ charsListTail xs)

def charsItems : List (String × PyValue) → List Char
  | [] => []
  | (key, x) :: items => quoted key ++ ':' :: (chars x ++ charsItemsTail items)

def charsItemsTail : List (String × PyValue) → List Char
  | [] => []
  | (key, x) :: items => ',' :: (quoted key ++ ':' :: (chars x ++ charsItemsTail items))

end

theorem chars_word {v : PyValue} {a : String} (text : word reprFloat v = some a) :
    chars reprFloat v = a.toList := by
  cases v with
  | none => cases text; rfl
  | bool b => cases text; rfl
  | int i => cases text; rfl
  | float f => cases text; rfl
  | str s => cases text
  | list xs => cases text
  | dict items => cases text

def isStop (c : Char) : Bool := c = ',' || c = ']' || c = closeBrace

def isStructural (c : Char) : Bool := isStop c || c = '"' || c = '[' || c = openBrace

/-- What may follow a value: nothing, a comma or a closing bracket. -/
def Ends (r : List Char) : Prop := ∀ c ∈ r.head?, isStop c = true

def Word (a : List Char) : Prop := a ≠ [] ∧ ∀ c ∈ a, isStructural c = false

/-- How Python prints floats: told apart, and apart from the other words. -/
structure FloatText (reprFloat : PyFloat → String) : Prop where
  injective : ∀ f g, reprFloat f = reprFloat g → f = g
  word : ∀ f, Word (reprFloat f).toList
  notInt : ∀ f (i : Int), reprFloat f ≠ toString i
  notName : ∀ f, reprFloat f ∉ ["null", "true", "false"]

theorem word_ends {a b r s : List Char} (ha : Word a) (hb : Word b) (hr : Ends r) (hs : Ends s)
    (same : a ++ r = b ++ s) : a = b ∧ r = s := by
  have stop (c : Char) (h : isStructural c = false) : isStop c = false := by
    rw [isStructural] at h
    simp only [Bool.or_eq_false_iff] at h
    exact h.1.1.1
  rcases List.append_eq_append_iff.mp same with ⟨m, rfl, hm⟩ | ⟨m, rfl, hm⟩
  · cases m with
    | nil => exact ⟨by simp, by simpa using hm⟩
    | cons c m =>
      have ended := hr c (by rw [hm]; rfl)
      rw [stop c (hb.2 c (by simp))] at ended
      cases ended
  · cases m with
    | nil => exact ⟨by simp, by simpa using hm.symm⟩
    | cons c m =>
      have ended := hs c (by rw [hm]; rfl)
      rw [stop c (ha.2 c (by simp))] at ended
      cases ended

theorem int_shape (i : Int) : ∀ c ∈ (toString i).toList, c = '-' ∨ c.isDigit = true := by
  rw [Int.toString_eq_repr, Int.repr_eq_if]
  intro c hc
  split_ifs at hc
  · rw [Nat.toList_repr] at hc
    exact .inr (Nat.isDigit_of_mem_toDigits (by decide) (by decide) hc)
  · rw [String.toList_append, Nat.toList_repr] at hc
    rcases List.mem_append.mp hc with sign | digit
    · exact .inl (List.mem_singleton.mp sign)
    · exact .inr (Nat.isDigit_of_mem_toDigits (by decide) (by decide) digit)

theorem digit_notStructural {c : Char} (digit : c.isDigit = true) : isStructural c = false := by
  by_contra structural
  rw [Bool.not_eq_false] at structural
  simp only [isStructural, isStop, Bool.or_eq_true, decide_eq_true_eq] at structural
  rcases structural with ((((rfl | rfl) | rfl) | rfl) | rfl) | rfl
  · cases digit
  · cases digit
  · cases digit
  · cases digit
  · cases digit
  · cases digit

theorem int_chars (i : Int) : Word (toString i).toList := by
  refine ⟨?_, fun c hc => ?_⟩
  · rw [Int.toString_eq_repr, Int.repr_eq_if]
    split_ifs
    · rw [Nat.toList_repr]
      exact Nat.toDigits_ne_nil
    · rw [String.toList_append]
      simp
  · rcases int_shape i c hc with rfl | digit
    · decide
    · exact digit_notStructural digit

variable {reprFloat}

theorem word_word (laws : FloatText reprFloat) {v : PyValue} {a : String}
    (text : word reprFloat v = some a) : Word a.toList := by
  cases v with
  | none =>
    cases text
    exact ⟨by decide, by decide⟩
  | bool b =>
    cases text
    cases b
    · exact ⟨by decide, by decide⟩
    · exact ⟨by decide, by decide⟩
  | int i =>
    cases text
    exact int_chars i
  | float f =>
    cases text
    exact laws.word f
  | str s => cases text
  | list xs => cases text
  | dict items => cases text

theorem int_notName (i : Int) : toString i ∉ ["null", "true", "false"] := by
  intro name
  have vowel : 'u' ∈ (toString i).toList ∨ 'a' ∈ (toString i).toList := by
    simp only [List.mem_cons, List.not_mem_nil, or_false] at name
    rcases name with same | same | same
    · exact .inl (by rw [same]; decide)
    · exact .inl (by rw [same]; decide)
    · exact .inr (by rw [same]; decide)
  rcases vowel with u | a
  · exact absurd (int_shape i 'u' u) (by decide)
  · exact absurd (int_shape i 'a' a) (by decide)

theorem digits_inj {m n : Nat} (same : m.repr.toList = n.repr.toList) : m = n := by
  rw [Nat.toList_repr, Nat.toList_repr] at same
  have values := congrArg (fun ds => Nat.ofDigitChars 10 ds 0) same
  rwa [Nat.ofDigitChars_toDigits (by decide) (by decide),
    Nat.ofDigitChars_toDigits (by decide) (by decide)] at values

theorem minus_ne_digits (n : Nat) (rest : List Char) : '-' :: rest ≠ n.repr.toList := by
  intro same
  have minus : '-' ∈ Nat.toDigits 10 n := by
    rw [← Nat.toList_repr, ← same]
    exact List.mem_cons_self
  exact absurd (Nat.isDigit_of_mem_toDigits (by decide) (by decide) minus) (by decide)

theorem int_inj {i j : Int} (same : toString i = toString j) : i = j := by
  have texts := congrArg String.toList same
  rw [Int.toString_eq_repr, Int.toString_eq_repr, Int.repr_eq_if, Int.repr_eq_if] at texts
  split_ifs at texts
  · have values := digits_inj texts
    omega
  · rw [String.toList_append] at texts
    exact absurd texts.symm (minus_ne_digits _ _)
  · rw [String.toList_append] at texts
    exact absurd texts (minus_ne_digits _ _)
  · rw [String.toList_append, String.toList_append] at texts
    have values := digits_inj (List.append_cancel_left texts)
    omega

/-- The text of a value without parts determines it. -/
theorem word_inj (laws : FloatText reprFloat) {v w : PyValue} {a : String}
    (hv : word reprFloat v = some a) (hw : word reprFloat w = some a) : v = w := by
  have texts := hv.trans hw.symm
  cases v with
  | none =>
    cases w with
    | none => rfl
    | bool b => cases b <;> exact absurd (Option.some.inj texts) (by decide)
    | int i => exact absurd (by rw [← Option.some.inj texts]; decide) (int_notName i)
    | float f => exact absurd (by rw [← Option.some.inj texts]; decide) (laws.notName f)
    | str s => cases hw
    | list xs => cases hw
    | dict items => cases hw
  | bool b =>
    cases w with
    | none => cases b <;> exact absurd (Option.some.inj texts) (by decide)
    | bool c => cases b <;> cases c <;> first | rfl | exact absurd (Option.some.inj texts) (by decide)
    | int i => exact absurd (by rw [← Option.some.inj texts]; cases b <;> decide) (int_notName i)
    | float f => exact absurd (by rw [← Option.some.inj texts]; cases b <;> decide) (laws.notName f)
    | str s => cases hw
    | list xs => cases hw
    | dict items => cases hw
  | int i =>
    cases w with
    | none => exact absurd (by rw [Option.some.inj texts]; decide) (int_notName i)
    | bool c => exact absurd (by rw [Option.some.inj texts]; cases c <;> decide) (int_notName i)
    | int j => rw [int_inj (Option.some.inj texts)]
    | float f => exact absurd (Option.some.inj texts).symm (laws.notInt f i)
    | str s => cases hw
    | list xs => cases hw
    | dict items => cases hw
  | float f =>
    cases w with
    | none => exact absurd (by rw [Option.some.inj texts]; decide) (laws.notName f)
    | bool c => exact absurd (by rw [Option.some.inj texts]; cases c <;> decide) (laws.notName f)
    | int j => exact absurd (Option.some.inj texts) (laws.notInt f j)
    | float g => rw [laws.injective f g (Option.some.inj texts)]
    | str s => cases hw
    | list xs => cases hw
    | dict items => cases hw
  | str s => cases hv
  | list xs => cases hv
  | dict items => cases hv

/-- A value is read off the front of any text that goes on with the end of a value. -/
def Reads (reprFloat : PyFloat → String) (v : PyValue) : Prop :=
  ∀ w r s, Ends r → Ends s → chars reprFloat v ++ r = chars reprFloat w ++ s → v = w ∧ r = s

/-- How the text of a value begins: with a word, a quote or a bracket. -/
theorem chars_cases (laws : FloatText reprFloat) (v : PyValue) :
    (∃ a, word reprFloat v = some a ∧ Word a.toList) ∨ (∃ t, v = .str t) ∨ (∃ xs, v = .list xs) ∨
      ∃ items, v = .dict items := by
  cases parts : word reprFloat v with
  | some a => exact .inl ⟨a, rfl, word_word laws parts⟩
  | none =>
    cases v with
    | none => cases parts
    | bool b => cases parts
    | int i => cases parts
    | float f => cases parts
    | str t => exact .inr (.inl ⟨t, rfl⟩)
    | list xs => exact .inr (.inr (.inl ⟨xs, rfl⟩))
    | dict items => exact .inr (.inr (.inr ⟨items, rfl⟩))

theorem word_ne_structural {a : List Char} (ha : Word a) {c : Char} (hc : isStructural c = true)
    (r s : List Char) : a ++ r ≠ c :: s := by
  obtain ⟨filled, plain⟩ := ha
  cases a with
  | nil => exact absurd rfl filled
  | cons d a =>
    intro same
    rw [← (List.cons.inj same).1, plain d List.mem_cons_self] at hc
    cases hc

theorem reads_word (laws : FloatText reprFloat) {v : PyValue} {a : String}
    (text : word reprFloat v = some a) : Reads reprFloat v := by
  intro w r s hr hs same
  have ha := word_word laws text
  rw [chars_word reprFloat text] at same
  rcases chars_cases laws w with ⟨b, text', hb⟩ | ⟨t, rfl⟩ | ⟨xs, rfl⟩ | ⟨items, rfl⟩
  · rw [chars_word reprFloat text'] at same
    obtain ⟨texts, rests⟩ := word_ends ha hb hr hs same
    rw [← String.toList_inj.mp texts] at text'
    exact ⟨word_inj laws text text', rests⟩
  · exact absurd same (word_ne_structural ha (by decide) _ _)
  · exact absurd same (word_ne_structural ha (by decide) _ _)
  · exact absurd same (word_ne_structural ha (by decide) _ _)

theorem reads_str (laws : FloatText reprFloat) (t : String) : Reads reprFloat (.str t) := by
  intro w r s _ _ same
  rcases chars_cases laws w with ⟨b, text, hb⟩ | ⟨u, rfl⟩ | ⟨xs, rfl⟩ | ⟨items, rfl⟩
  · rw [chars_word reprFloat text] at same
    exact absurd same.symm (word_ne_structural hb (by decide) _ _)
  · rw [chars, chars] at same
    obtain ⟨rfl, rests⟩ := quoted_inj same
    exact ⟨rfl, rests⟩
  · exact absurd (List.cons.inj same).1 (by decide)
  · exact absurd (List.cons.inj same).1 (by decide)

theorem ends_listTail (xs : List PyValue) (r : List Char) :
    Ends (charsListTail reprFloat xs ++ ']' :: r) := by
  cases xs with
  | nil =>
    rintro c ⟨⟩
    decide
  | cons x xs =>
    rw [charsListTail]
    rintro c ⟨⟩
    decide

theorem listTail_inj {xs : List PyValue} (reads : ∀ x ∈ xs, Reads reprFloat x) {ys : List PyValue}
    {r s : List Char}
    (same : charsListTail reprFloat xs ++ ']' :: r = charsListTail reprFloat ys ++ ']' :: s) :
    xs = ys ∧ r = s := by
  induction xs generalizing ys with
  | nil =>
    cases ys with
    | nil => exact ⟨rfl, (List.cons.inj same).2⟩
    | cons y ys =>
      rw [charsListTail, charsListTail] at same
      exact absurd (List.cons.inj same).1 (by decide)
  | cons x xs ih =>
    cases ys with
    | nil =>
      rw [charsListTail, charsListTail] at same
      exact absurd (List.cons.inj same).1 (by decide)
    | cons y ys =>
      rw [charsListTail, charsListTail, List.cons_append, List.cons_append, List.append_assoc,
        List.append_assoc] at same
      obtain ⟨rfl, rests⟩ := reads x List.mem_cons_self y _ _ (ends_listTail _ _)
        (ends_listTail _ _) (List.cons.inj same).2
      obtain ⟨rfl, tails⟩ := ih (fun z hz => reads z (List.mem_cons_of_mem x hz)) rests
      exact ⟨rfl, tails⟩

theorem chars_ne_stop (laws : FloatText reprFloat) (v : PyValue) {c : Char} (hc : isStop c = true)
    (r s : List Char) : chars reprFloat v ++ r ≠ c :: s := by
  rcases chars_cases laws v with ⟨a, text, ha⟩ | ⟨t, rfl⟩ | ⟨xs, rfl⟩ | ⟨items, rfl⟩
  · rw [chars_word reprFloat text]
    refine word_ne_structural ha ?_ r s
    rw [isStructural, hc]
    rfl
  · intro same
    rw [← (List.cons.inj same).1] at hc
    exact absurd hc (by decide)
  · intro same
    rw [← (List.cons.inj same).1] at hc
    exact absurd hc (by decide)
  · intro same
    rw [← (List.cons.inj same).1] at hc
    exact absurd hc (by decide)

theorem reads_list (laws : FloatText reprFloat) {xs : List PyValue}
    (reads : ∀ x ∈ xs, Reads reprFloat x) : Reads reprFloat (.list xs) := by
  intro w r s _ _ same
  rcases chars_cases laws w with ⟨b, text, hb⟩ | ⟨u, rfl⟩ | ⟨ys, rfl⟩ | ⟨items, rfl⟩
  · rw [chars_word reprFloat text] at same
    exact absurd same.symm (word_ne_structural hb (by decide) _ _)
  · exact absurd (List.cons.inj same).1 (by decide)
  · rw [chars, chars, List.cons_append, List.cons_append, List.append_assoc, List.append_assoc]
      at same
    have bodies := (List.cons.inj same).2
    cases xs with
    | nil =>
      cases ys with
      | nil => exact ⟨rfl, (List.cons.inj bodies).2⟩
      | cons y ys =>
        rw [charsList, charsList, List.append_assoc] at bodies
        exact absurd bodies.symm (chars_ne_stop laws y (by decide) _ _)
    | cons x xs =>
      cases ys with
      | nil =>
        rw [charsList, charsList, List.append_assoc] at bodies
        exact absurd bodies (chars_ne_stop laws x (by decide) _ _)
      | cons y ys =>
        rw [charsList, charsList, List.append_assoc, List.append_assoc] at bodies
        obtain ⟨rfl, rests⟩ := reads x List.mem_cons_self y _ _ (ends_listTail _ _)
          (ends_listTail _ _) bodies
        obtain ⟨rfl, tails⟩ := listTail_inj (fun z hz => reads z (List.mem_cons_of_mem x hz)) rests
        exact ⟨rfl, tails⟩
  · exact absurd (List.cons.inj same).1 (by decide)

theorem ends_itemsTail (items : List (String × PyValue)) (r : List Char) :
    Ends (charsItemsTail reprFloat items ++ closeBrace :: r) := by
  cases items with
  | nil =>
    rintro c ⟨⟩
    decide
  | cons item items =>
    rw [charsItemsTail]
    rintro c ⟨⟩
    decide

theorem item_inj {key key' : String} {x y : PyValue} (reads : Reads reprFloat x) {r s : List Char}
    (hr : Ends r) (hs : Ends s)
    (same : quoted key ++ ':' :: (chars reprFloat x ++ r) =
      quoted key' ++ ':' :: (chars reprFloat y ++ s)) : (key, x) = (key', y) ∧ r = s := by
  obtain ⟨rfl, values⟩ := quoted_inj same
  obtain ⟨rfl, rests⟩ := reads y r s hr hs (List.cons.inj values).2
  exact ⟨rfl, rests⟩

theorem itemsTail_inj {items : List (String × PyValue)}
    (reads : ∀ item ∈ items, Reads reprFloat item.2) {items' : List (String × PyValue)}
    {r s : List Char} (same : charsItemsTail reprFloat items ++ closeBrace :: r =
      charsItemsTail reprFloat items' ++ closeBrace :: s) : items = items' ∧ r = s := by
  induction items generalizing items' with
  | nil =>
    cases items' with
    | nil => exact ⟨rfl, (List.cons.inj same).2⟩
    | cons y ys =>
      rw [charsItemsTail, charsItemsTail] at same
      exact absurd (List.cons.inj same).1 (by decide)
  | cons x xs ih =>
    cases items' with
    | nil =>
      rw [charsItemsTail, charsItemsTail] at same
      exact absurd (List.cons.inj same).1 (by decide)
    | cons y ys =>
      rw [charsItemsTail, charsItemsTail] at same
      simp only [List.cons_append, List.append_assoc] at same
      obtain ⟨heads, rests⟩ := item_inj (reads x List.mem_cons_self) (ends_itemsTail _ _)
        (ends_itemsTail _ _) (List.cons.inj same).2
      obtain ⟨rfl, tails⟩ := ih (fun z hz => reads z (List.mem_cons_of_mem x hz)) rests
      exact ⟨congrArg (· :: xs) heads, tails⟩

theorem reads_dict (laws : FloatText reprFloat) {items : List (String × PyValue)}
    (reads : ∀ item ∈ items, Reads reprFloat item.2) : Reads reprFloat (.dict items) := by
  intro w r s _ _ same
  rcases chars_cases laws w with ⟨b, text, hb⟩ | ⟨u, rfl⟩ | ⟨ys, rfl⟩ | ⟨items', rfl⟩
  · rw [chars_word reprFloat text] at same
    exact absurd same.symm (word_ne_structural hb (by decide) _ _)
  · exact absurd (List.cons.inj same).1 (by decide)
  · exact absurd (List.cons.inj same).1 (by decide)
  · rw [chars, chars, List.cons_append, List.cons_append, List.append_assoc, List.append_assoc]
      at same
    have bodies := (List.cons.inj same).2
    cases items with
    | nil =>
      cases items' with
      | nil => exact ⟨rfl, (List.cons.inj bodies).2⟩
      | cons y ys => exact absurd (List.cons.inj bodies).1 (by decide)
    | cons x xs =>
      cases items' with
      | nil => exact absurd (List.cons.inj bodies).1 (by decide)
      | cons y ys =>
        rw [charsItems, charsItems] at bodies
        simp only [List.append_assoc, List.cons_append] at bodies
        obtain ⟨heads, rests⟩ := item_inj (reads x List.mem_cons_self) (ends_itemsTail _ _)
          (ends_itemsTail _ _) bodies
        obtain ⟨rfl, tails⟩ := itemsTail_inj (fun z hz => reads z (List.mem_cons_of_mem x hz)) rests
        exact ⟨congrArg (fun item => PyValue.dict (item :: xs)) heads, tails⟩

mutual

theorem reads (laws : FloatText reprFloat) : ∀ v, Reads reprFloat v
  | .none => reads_word laws rfl
  | .bool _ => reads_word laws rfl
  | .int _ => reads_word laws rfl
  | .float _ => reads_word laws rfl
  | .str t => reads_str laws t
  | .list xs => reads_list laws (readsList laws xs)
  | .dict items => reads_dict laws (readsItems laws items)

theorem readsList (laws : FloatText reprFloat) : ∀ xs : List PyValue, ∀ x ∈ xs, Reads reprFloat x
  | [] => by simp
  | x :: xs => List.forall_mem_cons.mpr ⟨reads laws x, readsList laws xs⟩

theorem readsItems (laws : FloatText reprFloat) :
    ∀ items : List (String × PyValue), ∀ item ∈ items, Reads reprFloat item.2
  | [] => by simp
  | (_, x) :: items => List.forall_mem_cons.mpr ⟨reads laws x, readsItems laws items⟩

end

theorem chars_inj (laws : FloatText reprFloat) {v w : PyValue}
    (same : chars reprFloat v = chars reprFloat w) : v = w := by
  have ends : Ends [] := by
    rintro c ⟨⟩
  exact (reads laws v w [] [] ends ends (by rw [same])).1

end Values

section Sorting
variable {reprFloat : PyFloat → String}

theorem intercalate_comma (x : List Char) (xs : List (List Char)) :
    [','].intercalate (x :: xs) = x ++ xs.flatMap fun y => ',' :: y := by
  induction xs generalizing x with
  | nil => simp
  | cons y ys ih =>
    rw [List.intercalate_cons_cons, ih]
    simp

theorem charsListTail_eq (xs : List PyValue) :
    charsListTail reprFloat xs = xs.flatMap fun x => ',' :: chars reprFloat x := by
  induction xs with
  | nil => rfl
  | cons x xs ih => rw [charsListTail, ih, List.flatMap_cons, List.cons_append]

theorem charsList_eq (xs : List PyValue) :
    charsList reprFloat xs = [','].intercalate (xs.map (chars reprFloat)) := by
  cases xs with
  | nil => rfl
  | cons x xs => rw [charsList, charsListTail_eq, List.map_cons, intercalate_comma, List.flatMap_map]

def charsItem (reprFloat : PyFloat → String) (item : String × PyValue) : List Char :=
  quoted item.1 ++ ':' :: chars reprFloat item.2

theorem charsItemsTail_eq (items : List (String × PyValue)) :
    charsItemsTail reprFloat items = items.flatMap fun item => ',' :: charsItem reprFloat item := by
  induction items with
  | nil => rfl
  | cons item items ih =>
    rw [charsItemsTail, ih, List.flatMap_cons, charsItem]
    simp

theorem charsItems_eq (items : List (String × PyValue)) :
    charsItems reprFloat items = [','].intercalate (items.map (charsItem reprFloat)) := by
  cases items with
  | nil => rfl
  | cons item items =>
    rw [charsItems, charsItemsTail_eq, List.map_cons, intercalate_comma, List.flatMap_map, charsItem]
    simp

/-- A dictionary item under its key, with its text. -/
def keyed (reprFloat : PyFloat → String) (item : String × PyValue) : String × String :=
  (item.1, String.ofList (charsItem reprFloat item))

theorem braced_toList (start : Char) (items : List String) (stop : Char) :
    (braced start items stop).toList =
      start :: ([','].intercalate (items.map String.toList) ++ [stop]) := by
  rw [braced, String.toList_append, String.toList_append, String.toList_intercalate,
    String.toList_ofList, String.toList_ofList, String.toList_ofList, List.append_assoc]
  rfl

mutual

theorem canonical_toList : ∀ v, (canonicalJson reprFloat v).toList = chars reprFloat (sortKeys v)
  | .none => rfl
  | .bool _ => rfl
  | .int _ => rfl
  | .float _ => rfl
  | .str s => quoteJson_toList s
  | .list xs => by
    rw [canonicalJson, braced_toList, canonicalList_toList xs, sortKeys, chars, charsList_eq]
  | .dict items => by
    have sorted : ((sortKeysItems items).mergeSort fun a b => a.1 ≤ b.1).map (keyed reprFloat) =
        (canonicalItems reprFloat items).mergeSort fun a b => a.1 ≤ b.1 := by
      rw [canonicalItems_keyed items]
      exact List.map_mergeSort fun _ _ _ _ => rfl
    rw [canonicalJson, braced_toList, ← sorted, sortKeys, chars, charsItems_eq, List.map_map,
      List.map_map]
    refine congrArg (fun texts => openBrace :: ([','].intercalate texts ++ [closeBrace]))
      (List.map_congr_left fun item _ => ?_)
    exact String.toList_ofList

theorem canonicalList_toList : ∀ xs, (canonicalList reprFloat xs).map String.toList =
    (sortKeysList xs).map (chars reprFloat)
  | [] => rfl
  | x :: xs => by
    rw [canonicalList, sortKeysList, List.map_cons, List.map_cons, canonical_toList x,
      canonicalList_toList xs]

theorem canonicalItems_keyed : ∀ items,
    canonicalItems reprFloat items = (sortKeysItems items).map (keyed reprFloat)
  | [] => rfl
  | (key, x) :: items => by
    rw [canonicalItems, sortKeysItems, List.map_cons, canonicalItems_keyed items, keyed, charsItem]
    refine congrArg (fun text => (key, text) :: _) (String.toList_inj.mp ?_)
    rw [String.toList_append, String.toList_append, String.toList_ofList, quoteJson_toList,
      canonical_toList x]
    simp

end

/-- The canonical text fixes a value up to the order of its keys. -/
theorem canonicalJson_inj (laws : FloatText reprFloat) {v w : PyValue}
    (same : canonicalJson reprFloat v = canonicalJson reprFloat w) : sortKeys v = sortKeys w := by
  have texts := congrArg String.toList same
  rw [canonical_toList, canonical_toList] at texts
  exact chars_inj laws texts

end Sorting

end CanonicalText
