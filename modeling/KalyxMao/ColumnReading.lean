import KalyxMao.CanonicalText
import KalyxMao.KeyedLists

/-!
# Reading text columns back

A timestamp and a payload are stored as text. The readers are `fromisoformat`
and `json.loads` on the texts their writers give: a naive time, and a value
without optional blanks. A written time is read back as it was, and so is a
value in which no dictionary holds a key twice.
-/

namespace ColumnReading
open PythonDates PythonValues CanonicalText KeyedLists

section Times

/-- Takes a field of `width` decimal digits. -/
def readField (width : Nat) (cs : List Char) : Option (Nat × List Char) :=
  if width ≤ cs.length ∧ (cs.take width).all Char.isDigit then
    some (Nat.ofDigitChars 10 (cs.take width) 0, cs.drop width)
  else none

def expect (c : Char) : List Char → Option (List Char)
  | [] => none
  | d :: rest => if d = c then some rest else none

def readFraction : List Char → Option Nat
  | [] => some 0
  | cs => do
    let (microsecond, rest) ← expect '.' cs >>= readField 6
    if rest = [] then some microsecond else none

/-- The naive time with a clock, if there is one. -/
def ofClock (clock : Clock) : Option DateTime :=
  if valid : clock.Valid then some ⟨clock, none, valid, naive_bounded⟩ else none

/-- `datetime.fromisoformat`, on the text of a naive time. -/
def fromIsoformat (s : String) : Option DateTime := do
  let (year, rest) ← readField 4 s.toList
  let (month, rest) ← expect '-' rest >>= readField 2
  let (day, rest) ← expect '-' rest >>= readField 2
  let (hour, rest) ← expect 'T' rest >>= readField 2
  let (minute, rest) ← expect ':' rest >>= readField 2
  let (second, rest) ← expect ':' rest >>= readField 2
  let microsecond ← readFraction rest
  ofClock ⟨year, month, day, hour, minute, second, microsecond⟩

@[simp] theorem expect_self (c : Char) (rest : List Char) : expect c (c :: rest) = some rest :=
  if_pos rfl

theorem ofDigitChars_pad {width n : Nat} (small : n < 10 ^ width) :
    Nat.ofDigitChars 10 (pad width n) 0 = n := by
  induction width generalizing n with
  | zero =>
    rw [pad, Nat.ofDigitChars_nil]
    rw [Nat.pow_zero] at small
    omega
  | succ width ih =>
    rw [Nat.pow_succ] at small
    rw [pad, Nat.ofDigitChars_append, ih (by omega),
      Nat.ofDigitChars_cons_digitChar_of_lt_ten (Nat.mod_lt _ (by decide)), Nat.ofDigitChars_nil]
    omega

theorem readField_pad {width n : Nat} (small : n < 10 ^ width) (rest : List Char) :
    readField width (pad width n ++ rest) = some (n, rest) := by
  have taken : (pad width n ++ rest).take width = pad width n := by
    rw [List.take_append_of_le_length (by simp), List.take_of_length_le (by simp)]
  have dropped : (pad width n ++ rest).drop width = rest := by
    rw [List.drop_append_of_le_length (by simp), List.drop_of_length_le (by simp), List.nil_append]
  rw [readField, taken, dropped, if_pos, ofDigitChars_pad small]
  refine ⟨by simp, List.all_eq_true.mpr fun c hc => pad_digits hc⟩

theorem readFraction_fraction {microsecond : Nat} (small : microsecond < 1000000) :
    readFraction (fraction microsecond) = some microsecond := by
  rw [fraction]
  split_ifs with zero
  · rw [zero]
    rfl
  · have read := readField_pad (show microsecond < 10 ^ 6 from small) []
    rw [List.append_nil] at read
    show ((expect '.' ('.' :: pad 6 microsecond) >>= readField 6) >>= _) = _
    rw [expect_self]
    show (readField 6 (pad 6 microsecond) >>= _) = _
    rw [read]
    rfl

/-- A naive time is read back as it was written. -/
theorem fromIsoformat_isoformat {d : DateTime} (naive : d.offset = none) :
    fromIsoformat d.isoformat = some d := by
  obtain ⟨⟨-, year⟩, ⟨-, month⟩, ⟨-, day⟩, hour, minute, second, micro⟩ := d.valid
  have short := day.trans (daysInMonth_le _ _)
  have offset : offsetText d.offset = [] := by rw [naive]; rfl
  rw [fromIsoformat, DateTime.isoformat, String.toList_ofList, offset, List.append_nil, dateText]
  simp only [List.append_assoc, List.cons_append, Option.bind_eq_bind, Option.bind_some, expect_self,
    readField_pad (show d.clock.year < 10 ^ 4 by omega),
    readField_pad (show d.clock.month < 10 ^ 2 by omega),
    readField_pad (show d.clock.day < 10 ^ 2 by omega),
    readField_pad (show d.clock.hour < 10 ^ 2 by omega),
    readField_pad (show d.clock.minute < 10 ^ 2 by omega),
    readField_pad (show d.clock.second < 10 ^ 2 by omega),
    readFraction_fraction micro]
  rw [ofClock, dif_pos d.valid]
  exact congrArg some (DateTime.ext_fields rfl naive.symm)

end Times

section Values

/-- Reads up to the closing quote, which is where no character is read. -/
def readString : Nat → List Char → Option (List Char × List Char)
  | 0, _ => none
  | fuel + 1, cs =>
    match readChar cs with
    | some (c, rest) => (readString fuel rest).map fun (text, rest) => (c :: text, rest)
    | none => (expect '"' cs).map fun rest => ([], rest)

def readQuoted (cs : List Char) : Option (String × List Char) := do
  let rest ← expect '"' cs
  let (text, rest) ← readString cs.length rest
  some (String.ofList text, rest)

def intValue : List Char → Int
  | '-' :: digits => -(Nat.ofDigitChars 10 digits 0)
  | digits => Nat.ofDigitChars 10 digits 0

/-- A JSON integer: the text of an `int`. -/
def readInt (w : String) : Option Int :=
  if toString (intValue w.toList) = w then some (intValue w.toList) else none

/-- Sets a key as a `dict` does: a key that is there keeps its place. -/
def setItem (items : List (String × PyValue)) (item : String × PyValue) : List (String × PyValue) :=
  match lookupBy Prod.fst items item.1 with
  | some _ => replaceBy Prod.fst items item
  | none => items ++ [item]

variable (parseFloat : String → Option PyFloat)

def readWord (w : String) : Option PyValue :=
  if w = "null" then some .none
  else if w = "true" then some (.bool true)
  else if w = "false" then some (.bool false)
  else match readInt w with
    | some i => some (.int i)
    | none => (parseFloat w).map .float

mutual

def readValue : Nat → List Char → Option (PyValue × List Char)
  | 0, _ => none
  | fuel + 1, cs =>
    match cs.head? with
    | some '"' => (readQuoted cs).map fun (s, rest) => (.str s, rest)
    | some '[' => (readElements fuel cs.tail).map fun (xs, rest) => (.list xs, rest)
    | some c =>
      if c = openBrace then
        (readItems fuel cs.tail).map fun (items, rest) => (.dict (items.foldl setItem []), rest)
      else (readWord parseFloat (String.ofList (cs.takeWhile (!isStructural ·)))).map
        fun v => (v, cs.dropWhile (!isStructural ·))
    | none => none

def readElements : Nat → List Char → Option (List PyValue × List Char)
  | 0, _ => none
  | fuel + 1, cs =>
    if cs.head? = some ']' then some ([], cs.tail)
    else do
      let (x, rest) ← readValue fuel cs
      let (xs, rest) ← readElementsTail fuel rest
      some (x :: xs, rest)

def readElementsTail : Nat → List Char → Option (List PyValue × List Char)
  | 0, _ => none
  | fuel + 1, cs =>
    if cs.head? = some ']' then some ([], cs.tail)
    else do
      let rest ← expect ',' cs
      let (x, rest) ← readValue fuel rest
      let (xs, rest) ← readElementsTail fuel rest
      some (x :: xs, rest)

def readItems : Nat → List Char → Option (List (String × PyValue) × List Char)
  | 0, _ => none
  | fuel + 1, cs =>
    if cs.head? = some closeBrace then some ([], cs.tail)
    else do
      let (key, rest) ← readQuoted cs
      let rest ← expect ':' rest
      let (x, rest) ← readValue fuel rest
      let (items, rest) ← readItemsTail fuel rest
      some ((key, x) :: items, rest)

def readItemsTail : Nat → List Char → Option (List (String × PyValue) × List Char)
  | 0, _ => none
  | fuel + 1, cs =>
    if cs.head? = some closeBrace then some ([], cs.tail)
    else do
      let rest ← expect ',' cs
      let (key, rest) ← readQuoted rest
      let rest ← expect ':' rest
      let (x, rest) ← readValue fuel rest
      let (items, rest) ← readItemsTail fuel rest
      some ((key, x) :: items, rest)

end

/-- `json.loads`, on a text without optional blanks. Each step into a value uses up a
character, so that the length of the text is fuel enough. -/
def loads (s : String) : Option PyValue := do
  let (v, rest) ← readValue parseFloat s.length s.toList
  if rest = [] then some v else none

mutual

/-- Any two keys of a dictionary inside the value stand as the relation says. -/
def KeysBy (R : String → String → Prop) : PyValue → Prop
  | .none => True
  | .bool _ => True
  | .int _ => True
  | .float _ => True
  | .str _ => True
  | .list xs => KeysByList R xs
  | .dict items => (items.map Prod.fst).Pairwise R ∧ KeysByItems R items

def KeysByList (R : String → String → Prop) : List PyValue → Prop
  | [] => True
  | x :: xs => KeysBy R x ∧ KeysByList R xs

def KeysByItems (R : String → String → Prop) : List (String × PyValue) → Prop
  | [] => True
  | (_, x) :: items => KeysBy R x ∧ KeysByItems R items

end

mutual

theorem KeysBy.mono {R S : String → String → Prop} (weaker : ∀ a b, R a b → S a b) :
    ∀ v, KeysBy R v → KeysBy S v
  | .none, _ => trivial
  | .bool _, _ => trivial
  | .int _, _ => trivial
  | .float _, _ => trivial
  | .str _, _ => trivial
  | .list xs, each => KeysByList.mono weaker xs each
  | .dict items, ⟨keys, each⟩ => ⟨keys.imp (weaker _ _), KeysByItems.mono weaker items each⟩

theorem KeysByList.mono {R S : String → String → Prop} (weaker : ∀ a b, R a b → S a b) :
    ∀ xs, KeysByList R xs → KeysByList S xs
  | [], _ => trivial
  | x :: xs, ⟨head, tail⟩ => ⟨KeysBy.mono weaker x head, KeysByList.mono weaker xs tail⟩

theorem KeysByItems.mono {R S : String → String → Prop} (weaker : ∀ a b, R a b → S a b) :
    ∀ items, KeysByItems R items → KeysByItems S items
  | [], _ => trivial
  | (_, x) :: items, ⟨head, tail⟩ => ⟨KeysBy.mono weaker x head, KeysByItems.mono weaker items tail⟩

end

end Values

section RoundTrip

theorem readString_escaped {text : List Char} {fuel : Nat} (enough : text.length < fuel)
    (rest : List Char) : readString fuel (escaped text ++ '"' :: rest) = some (text, rest) := by
  induction text generalizing fuel with
  | nil =>
    obtain ⟨fuel, rfl⟩ := Nat.exists_eq_succ_of_ne_zero (Nat.ne_of_gt enough)
    rfl
  | cons c text ih =>
    obtain ⟨fuel, rfl⟩ := Nat.exists_eq_succ_of_ne_zero (Nat.ne_of_gt (Nat.zero_lt_of_lt enough))
    have read : readChar (escaped (c :: text) ++ '"' :: rest) =
        some (c, escaped text ++ '"' :: rest) := by
      rw [escaped, List.flatMap_cons, List.append_assoc, readChar_escape]
      rfl
    rw [readString, read]
    show (readString fuel _).map _ = _
    rw [ih (Nat.lt_of_succ_lt_succ enough)]
    rfl

theorem length_le_escaped (text : List Char) : text.length ≤ (escaped text).length := by
  induction text with
  | nil => exact Nat.le_refl 0
  | cons c text ih =>
    have filled : (escapeChar c).toList ≠ [] := by
      intro empty
      have read := readChar_escape c []
      rw [empty] at read
      cases read
    have one := List.length_pos_of_ne_nil filled
    rw [escaped, List.flatMap_cons, List.length_append, List.length_cons]
    rw [escaped] at ih
    omega

theorem readQuoted_quoted (s : String) (rest : List Char) :
    readQuoted (quoted s ++ rest) = some (s, rest) := by
  have enough : s.toList.length < (quoted s ++ rest).length := by
    have escape := length_le_escaped s.toList
    rw [quoted, List.cons_append, List.length_cons, List.length_append, List.length_append]
    omega
  have read := readString_escaped enough rest
  rw [readQuoted]
  conv =>
    enter [1, 1, 2]
    rw [quoted]
  rw [List.cons_append, expect_self]
  show (readString _ (escaped s.toList ++ ['"'] ++ rest) >>= _) = _
  rw [List.append_assoc]
  show (readString _ (escaped s.toList ++ '"' :: rest) >>= _) = _
  rw [read]
  show some (String.ofList s.toList, rest) = _
  rw [String.ofList_toList]

theorem intValue_digits {digits : List Char} (plain : ∀ rest, '-' :: rest ≠ digits) :
    intValue digits = Nat.ofDigitChars 10 digits 0 := by
  rw [intValue.eq_def]
  split
  · exact absurd rfl (plain _)
  · rfl

theorem readInt_toString (i : Int) : readInt (toString i) = some i := by
  have value : intValue (toString i).toList = i := by
    rw [Int.toString_eq_repr, Int.repr_eq_if]
    split_ifs with nonneg
    · rw [intValue_digits (minus_ne_digits _), Nat.toList_repr, Nat.ofDigitChars_ten_toDigits]
      omega
    · rw [String.toList_append, Nat.toList_repr]
      show -(Nat.ofDigitChars 10 (Nat.toDigits 10 _) 0 : Int) = i
      rw [Nat.ofDigitChars_ten_toDigits]
      omega
  rw [readInt, value, if_pos rfl]

theorem readInt_some {w : String} {i : Int} (read : readInt w = some i) : toString i = w := by
  rw [readInt] at read
  split_ifs at read with text
  rwa [Option.some.inj read] at text

/-- Python reads a float it has printed as that float. -/
structure FloatReading (reprFloat : PyFloat → String) (parseFloat : String → Option PyFloat) : Prop
    extends FloatText reprFloat where
  reads : ∀ f, parseFloat (reprFloat f) = some f

variable {reprFloat : PyFloat → String} {parseFloat : String → Option PyFloat}

theorem readWord_word (laws : FloatReading reprFloat parseFloat) {v : PyValue} {a : String} (text : word reprFloat v = some a) : readWord parseFloat a = some v := by
  cases v with
  | none => cases text; rfl
  | bool b => cases text; cases b <;> rfl
  | int i =>
    obtain rfl := Option.some.inj text
    have name := int_notName i
    simp only [List.mem_cons, List.not_mem_nil, or_false, not_or] at name
    rw [readWord, if_neg name.1, if_neg name.2.1, if_neg name.2.2, readInt_toString]
  | float f =>
    obtain rfl := Option.some.inj text
    have name := laws.notName f
    simp only [List.mem_cons, List.not_mem_nil, or_false, not_or] at name
    have noInt : readInt (reprFloat f) = none := by
      rw [Option.eq_none_iff_forall_not_mem]
      exact fun i read => laws.notInt f i (readInt_some read).symm
    rw [readWord, if_neg name.1, if_neg name.2.1, if_neg name.2.2, noInt, laws.reads]
    rfl
  | str s => cases text
  | list xs => cases text
  | dict items => cases text

theorem takeWhile_word {a rest : List Char} (ha : Word a) (ends : Ends rest) :
    (a ++ rest).takeWhile (!isStructural ·) = a ∧ (a ++ rest).dropWhile (!isStructural ·) = rest := by
  have plain : ∀ c ∈ a, (!isStructural c) = true := fun c hc => by rw [ha.2 c hc]; rfl
  rw [List.takeWhile_append_of_pos plain, List.dropWhile_append_of_pos plain]
  cases rest with
  | nil => simp
  | cons c rest =>
    have stop : isStructural c = true := by
      rw [isStructural, ends c rfl]
      rfl
    simp [stop]

theorem readValue_word (laws : FloatReading reprFloat parseFloat) {v : PyValue} {a : String}
    (text : word reprFloat v = some a) (fuel : Nat) {rest : List Char} (ends : Ends rest) : readValue parseFloat (fuel + 1) (a.toList ++ rest) = some (v, rest) := by
  have ha := word_word laws.toFloatText text
  obtain ⟨taken, left⟩ := takeWhile_word ha ends
  obtain ⟨c, cs, shape⟩ := List.exists_cons_of_ne_nil ha.1
  have plain : isStructural c = false := ha.2 c (by rw [shape]; exact List.mem_cons_self)
  have head : (a.toList ++ rest).head? = some c := by rw [shape]; rfl
  have quote : c ≠ '"' := by
    rintro rfl
    exact absurd plain (by decide)
  have bracket : c ≠ '[' := by
    rintro rfl
    exact absurd plain (by decide)
  have brace : c ≠ openBrace := by
    rintro rfl
    exact absurd plain (by decide)
  rw [readValue, head]
  split
  · rename_i found
    exact absurd (Option.some.inj found) quote
  · rename_i found
    exact absurd (Option.some.inj found) bracket
  · rename_i found
    obtain rfl := Option.some.inj found
    rw [if_neg brace, taken, left, String.ofList_toList, readWord_word laws text]
    rfl
  · rename_i found
    cases found

theorem chars_head (laws : FloatText reprFloat) (v : PyValue) {c : Char} (stop : isStop c = true)
    (rest : List Char) : (chars reprFloat v ++ rest).head? ≠ some c := by
  intro head
  obtain ⟨tail, shape⟩ := List.head?_eq_some_iff.mp head
  exact chars_ne_stop laws v stop rest tail shape

theorem chars_pos (laws : FloatText reprFloat) (v : PyValue) : 0 < (chars reprFloat v).length := by
  rcases chars_cases laws v with ⟨a, text, ha⟩ | ⟨t, rfl⟩ | ⟨xs, rfl⟩ | ⟨items, rfl⟩
  · rw [chars_word reprFloat text]
    exact List.length_pos_of_ne_nil ha.1
  · exact Nat.succ_pos _
  · exact Nat.succ_pos _
  · exact Nat.succ_pos _

theorem setItem_new {items : List (String × PyValue)} {item : String × PyValue}
    (new : item.1 ∉ items.map Prod.fst) : setItem items item = items ++ [item] := by
  have absent : lookupBy Prod.fst items item.1 = none := by
    refine lookupBy_none.mpr fun other member same => new ?_
    rw [← same]
    exact List.mem_map_of_mem member
  rw [setItem, absent]

theorem foldl_setItem {items held : List (String × PyValue)}
    (distinct : ((held ++ items).map Prod.fst).Nodup) : items.foldl setItem held = held ++ items := by
  induction items generalizing held with
  | nil => simp
  | cons item items ih =>
    have new : item.1 ∉ held.map Prod.fst := by
      rw [List.map_append, List.map_cons] at distinct
      have apart := (List.nodup_append.mp distinct).2.2
      exact fun found => apart _ found _ List.mem_cons_self rfl
    rw [List.foldl_cons, setItem_new new, ih (by simpa using distinct)]
    simp

mutual

/-- A value with distinct keys is read off the front of a text, with its length as fuel. -/
theorem readValue_chars (laws : FloatReading reprFloat parseFloat) :
    ∀ v, KeysBy (· ≠ ·) v → ∀ fuel rest, (chars reprFloat v).length ≤ fuel → Ends rest →
      readValue parseFloat fuel (chars reprFloat v ++ rest) = some (v, rest)
  | v, _, 0, _, enough, _ => absurd (chars_pos laws.toFloatText v) (by omega)
  | .none, _, fuel + 1, _, _, ends => readValue_word laws rfl fuel ends
  | .bool _, _, fuel + 1, _, _, ends => readValue_word laws rfl fuel ends
  | .int _, _, fuel + 1, _, _, ends => readValue_word laws rfl fuel ends
  | .float _, _, fuel + 1, _, _, ends => readValue_word laws rfl fuel ends
  | .str s, _, fuel + 1, rest, _, _ => by
    show (readQuoted (quoted s ++ rest)).map _ = _
    rw [readQuoted_quoted]
    rfl
  | .list xs, distinct, fuel + 1, rest, enough, _ => by
    rw [chars, List.length_cons, List.length_append, List.length_singleton] at enough
    show (readElements parseFloat fuel (charsList reprFloat xs ++ [']'] ++ rest)).map _ = _
    rw [List.append_assoc]
    show (readElements parseFloat fuel (charsList reprFloat xs ++ ']' :: rest)).map _ = _
    rw [readElements_chars laws xs distinct fuel rest (by omega)]
    rfl
  | .dict items, ⟨keys, distinct⟩, fuel + 1, rest, enough, _ => by
    rw [chars, List.length_cons, List.length_append, List.length_singleton] at enough
    show (readItems parseFloat fuel (charsItems reprFloat items ++ [closeBrace] ++ rest)).map _ = _
    rw [List.append_assoc]
    show (readItems parseFloat fuel (charsItems reprFloat items ++ closeBrace :: rest)).map _ = _
    rw [readItems_chars laws items distinct fuel rest (by omega)]
    have fold : items.foldl setItem [] = [] ++ items := foldl_setItem keys
    show some (PyValue.dict (items.foldl setItem []), rest) = _
    rw [fold, List.nil_append]

theorem readElements_chars (laws : FloatReading reprFloat parseFloat) :
    ∀ xs, KeysByList (· ≠ ·) xs → ∀ fuel rest, (charsList reprFloat xs).length < fuel →
      readElements parseFloat fuel (charsList reprFloat xs ++ ']' :: rest) = some (xs, rest)
  | [], _, fuel + 1, _, _ => rfl
  | x :: xs, ⟨head, tail⟩, fuel + 1, rest, enough => by
    rw [charsList, List.length_append] at enough
    have filled := chars_pos laws.toFloatText x
    rw [charsList, List.append_assoc, readElements,
      if_neg (chars_head laws.toFloatText x (by decide) _),
      readValue_chars laws x head fuel _ (by omega) (ends_listTail xs rest)]
    show (readElementsTail parseFloat fuel (charsListTail reprFloat xs ++ ']' :: rest) >>= _) = _
    rw [readElementsTail_chars laws xs tail fuel rest (by omega)]
    rfl

theorem readElementsTail_chars (laws : FloatReading reprFloat parseFloat) :
    ∀ xs, KeysByList (· ≠ ·) xs → ∀ fuel rest, (charsListTail reprFloat xs).length < fuel →
      readElementsTail parseFloat fuel (charsListTail reprFloat xs ++ ']' :: rest) = some (xs, rest)
  | [], _, fuel + 1, _, _ => rfl
  | x :: xs, ⟨head, tail⟩, fuel + 1, rest, enough => by
    rw [charsListTail, List.length_cons, List.length_append] at enough
    show (readValue parseFloat fuel (chars reprFloat x ++ charsListTail reprFloat xs ++ ']' :: rest)
      >>= _) = _
    rw [List.append_assoc, readValue_chars laws x head fuel _ (by omega) (ends_listTail xs rest)]
    show (readElementsTail parseFloat fuel (charsListTail reprFloat xs ++ ']' :: rest) >>= _) = _
    rw [readElementsTail_chars laws xs tail fuel rest (by omega)]
    rfl

theorem readItems_chars (laws : FloatReading reprFloat parseFloat) :
    ∀ items, KeysByItems (· ≠ ·) items → ∀ fuel rest, (charsItems reprFloat items).length < fuel →
      readItems parseFloat fuel (charsItems reprFloat items ++ closeBrace :: rest) = some (items, rest)
  | [], _, fuel + 1, _, _ => rfl
  | (key, x) :: items, ⟨head, tail⟩, fuel + 1, rest, enough => by
    rw [charsItems, List.length_append, List.length_cons, List.length_append] at enough
    have quote : (quoted key ++ ':' :: (chars reprFloat x ++ charsItemsTail reprFloat items) ++
        closeBrace :: rest).head? ≠ some closeBrace := fun same =>
      absurd (Option.some.inj same) (by decide)
    rw [charsItems, readItems, if_neg quote, List.append_assoc, readQuoted_quoted]
    show (readValue parseFloat fuel (chars reprFloat x ++ charsItemsTail reprFloat items ++
      closeBrace :: rest) >>= _) = _
    rw [List.append_assoc, readValue_chars laws x head fuel _ (by omega) (ends_itemsTail items rest)]
    show (readItemsTail parseFloat fuel (charsItemsTail reprFloat items ++ closeBrace :: rest)
      >>= _) = _
    rw [readItemsTail_chars laws items tail fuel rest (by omega)]
    rfl

theorem readItemsTail_chars (laws : FloatReading reprFloat parseFloat) :
    ∀ items, KeysByItems (· ≠ ·) items → ∀ fuel rest, (charsItemsTail reprFloat items).length < fuel →
      readItemsTail parseFloat fuel (charsItemsTail reprFloat items ++ closeBrace :: rest) =
        some (items, rest)
  | [], _, fuel + 1, _, _ => rfl
  | (key, x) :: items, ⟨head, tail⟩, fuel + 1, rest, enough => by
    rw [charsItemsTail, List.length_cons, List.length_append, List.length_cons,
      List.length_append] at enough
    show (readQuoted (quoted key ++ ':' :: (chars reprFloat x ++ charsItemsTail reprFloat items) ++
      closeBrace :: rest) >>= _) = _
    rw [List.append_assoc, readQuoted_quoted]
    show (readValue parseFloat fuel (chars reprFloat x ++ charsItemsTail reprFloat items ++
      closeBrace :: rest) >>= _) = _
    rw [List.append_assoc, readValue_chars laws x head fuel _ (by omega) (ends_itemsTail items rest)]
    show (readItemsTail parseFloat fuel (charsItemsTail reprFloat items ++ closeBrace :: rest)
      >>= _) = _
    rw [readItemsTail_chars laws items tail fuel rest (by omega)]
    rfl

end

/-- A value in which no dictionary holds a key twice is read back as it was written. -/
theorem loads_chars (laws : FloatReading reprFloat parseFloat) {v : PyValue}
    (distinct : KeysBy (· ≠ ·) v) : loads parseFloat (String.ofList (chars reprFloat v)) = some v := by
  have ends : Ends [] := by
    rintro c ⟨⟩
  have read := readValue_chars laws v distinct _ [] (Nat.le_refl _) ends
  rw [List.append_nil] at read
  rw [loads, String.length_ofList, String.toList_ofList, read]
  rfl

end RoundTrip

end ColumnReading
