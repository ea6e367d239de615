import KalyxMao.PayloadText

/-!
# Columns that hold JSON or a timestamp as text

`json.dumps` with its defaults puts a blank behind commas and colons and takes
the keys as they stand, each as its text. The reader skips blanks outside of
strings. What it reads has strings for keys, so that a value comes back as it was
exactly if its keys were strings. A timestamp comes back with its offset.
-/

namespace TextColumns
open PythonDates PythonText CanonicalText ColumnReading PayloadText KeyedLists
open PythonValues (PyFloat PyValue escapeChar hexDigit hexFour)

section Blanks

/-- Where a reader stands in a JSON text. -/
inductive Place where
  | outside
  | inside
  | escaped
  deriving DecidableEq

def Place.next : Place → Char → Place
  | .outside, c => if c = '"' then .inside else .outside
  | .inside, c => if c = '\\' then .escaped else if c = '"' then .outside else .inside
  | .escaped, _ => .inside

def isBlank (c : Char) : Bool := c = ' ' || c = '\t' || c = '\n' || c = '\r'

/-- The text without the blanks outside of its strings. -/
def compact : Place → List Char → List Char
  | _, [] => []
  | place, c :: rest =>
    if place = .outside ∧ isBlank c = true then compact place rest
    else c :: compact (place.next c) rest

variable (reprFloat : PyFloat → String)

mutual

/-- The text of a value with a blank behind every comma and colon. -/
def spaced : PyValue → List Char
  | .none => "null".toList
  | .bool b => (if b then "true" else "false" : String).toList
  | .int i => (toString i).toList
  | .float f => (reprFloat f).toList
  | .str s => quoted s
  | .list xs => '[' :: (spacedList xs ++ [']'])
  | .dict items => openBrace :: (spacedItems items ++ [closeBrace])

def spacedList : List PyValue → List Char
  | [] => []
  | x :: xs => spaced x ++ spacedListTail xs

def spacedListTail : List PyValue → List Char
  | [] => []
  | x :: xs => ',' :: ' ' :: (spaced x ++ spacedListTail xs)

def spacedItems : List (String × PyValue) → List Char
  | [] => []
  | (key, x) :: items => quoted key ++ ':' :: ' ' :: (spaced x ++ spacedItemsTail items)

def spacedItemsTail : List (String × PyValue) → List Char
  | [] => []
  | (key, x) :: items =>
    ',' :: ' ' :: (quoted key ++ ':' :: ' ' :: (spaced x ++ spacedItemsTail items))

end

/-- Python reads a float it has printed as that float, and prints it without a blank. -/
structure FloatColumns (reprFloat : PyFloat → String) (parseFloat : String → Option PyFloat) : Prop
    extends FloatReading reprFloat parseFloat where
  solid : ∀ f, ∀ c ∈ (reprFloat f).toList, isBlank c = false

/-- Neither a blank nor the start of a string. -/
def Solid (c : Char) : Prop := isBlank c = false ∧ c ≠ '"'

instance (c : Char) : Decidable (Solid c) := inferInstanceAs (Decidable (_ ∧ _))

theorem compact_solid {c : Char} (solid : Solid c) (rest : List Char) :
    compact .outside (c :: rest) = c :: compact .outside rest := by
  rw [compact, if_neg (by simp [solid.1]), Place.next, if_neg solid.2]

theorem compact_solids {cs : List Char} (solid : ∀ c ∈ cs, Solid c) (rest : List Char) :
    compact .outside (cs ++ rest) = cs ++ compact .outside rest := by
  induction cs with
  | nil => rfl
  | cons c cs ih =>
    obtain ⟨head, tail⟩ := List.forall_mem_cons.mp solid
    rw [List.cons_append, compact_solid head, ih tail, List.cons_append]

theorem compact_blank (rest : List Char) : compact .outside (' ' :: rest) = compact .outside rest :=
  if_pos ⟨rfl, rfl⟩

/-- Inside a string, neither its end nor an escape. -/
def Plain (c : Char) : Prop := c ≠ '"' ∧ c ≠ '\\'

instance (c : Char) : Decidable (Plain c) := inferInstanceAs (Decidable (_ ∧ _))

/-- Inside a string, the text is kept and the string goes on behind it. -/
def Stays (cs : List Char) : Prop := ∀ rest, compact .inside (cs ++ rest) = cs ++ compact .inside rest

theorem Stays.append {cs ds : List Char} (first : Stays cs) (second : Stays ds) : Stays (cs ++ ds) := by
  intro rest
  rw [List.append_assoc, first, second, List.append_assoc]

theorem stays_plain {cs : List Char} (plain : ∀ c ∈ cs, Plain c) : Stays cs := by
  intro rest
  induction cs with
  | nil => rfl
  | cons c cs ih =>
    obtain ⟨⟨quote, back⟩, tail⟩ := List.forall_mem_cons.mp plain
    rw [List.cons_append, compact, if_neg (by simp), Place.next, if_neg back, if_neg quote, ih tail,
      List.cons_append]

theorem stays_escape (c : Char) : Stays ['\\', c] := by
  intro rest
  rw [List.cons_append, List.cons_append, compact, if_neg (by simp), Place.next, if_pos rfl, compact,
    if_neg (by simp), Place.next, List.nil_append]
  rfl

theorem plain_digitChar : ∀ n < 16, Plain (Nat.digitChar n) := by decide

theorem plain_hexFour (n : Nat) : ∀ c ∈ (hexFour n).toList, Plain c := by
  have digit (m : Nat) : Plain (hexDigit m) := plain_digitChar _ (Nat.mod_lt _ (by decide))
  rw [hexFour_toList]
  simp [digit]

theorem stays_unicode (n : Nat) : Stays ("\\u" ++ hexFour n).toList := by
  rw [String.toList_append, unicode_toList]
  exact (stays_escape 'u').append (stays_plain (plain_hexFour n))

theorem stays_ite {p : Prop} [Decidable p] {s t : String} (yes : p → Stays s.toList)
    (no : ¬p → Stays t.toList) : Stays (if p then s else t).toList := by
  by_cases here : p
  · rw [if_pos here]
    exact yes here
  · rw [if_neg here]
    exact no here

theorem stays_escapeChar (c : Char) : Stays (escapeChar c).toList := by
  unfold escapeChar
  refine stays_ite (fun _ => stays_escape '"') fun quote => ?_
  refine stays_ite (fun _ => stays_escape '\\') fun back => ?_
  refine stays_ite (fun _ => stays_escape 'n') fun _ => ?_
  refine stays_ite (fun _ => stays_escape 'r') fun _ => ?_
  refine stays_ite (fun _ => stays_escape 't') fun _ => ?_
  refine stays_ite (fun _ => stays_escape 'b') fun _ => ?_
  refine stays_ite (fun _ => stays_escape 'f') fun _ => ?_
  refine stays_ite (fun _ => ?_) fun _ => stays_ite (fun _ => stays_unicode _) fun _ => ?_
  · rw [String.toList_ofList]
    exact stays_plain (List.forall_mem_singleton.mpr ⟨quote, back⟩)
  · dsimp only
    rw [String.append_assoc, String.toList_append]
    exact (stays_unicode _).append (stays_unicode _)

theorem stays_escaped (text : List Char) : Stays (escaped text) := by
  induction text with
  | nil => exact fun _ => rfl
  | cons c text ih =>
    rw [escaped, List.flatMap_cons]
    exact (stays_escapeChar c).append ih

theorem compact_quoted (s : String) (rest : List Char) :
    compact .outside (quoted s ++ rest) = quoted s ++ compact .outside rest := by
  have close : compact .inside ('"' :: rest) = '"' :: compact .outside rest := by
    rw [compact, if_neg (by simp), Place.next, if_neg (by decide), if_pos rfl]
  rw [quoted, List.cons_append, compact, if_neg (by decide), Place.next, if_pos rfl,
    List.append_assoc, stays_escaped s.toList]
  rw [List.singleton_append, close]
  simp

theorem solid_word {cs : List Char} (plain : ∀ c ∈ cs, isStructural c = false)
    (unblanked : ∀ c ∈ cs, isBlank c = false) : ∀ c ∈ cs, Solid c := by
  intro c member
  refine ⟨unblanked c member, ?_⟩
  rintro rfl
  exact absurd (plain _ member) (by decide)

theorem solid_int (i : Int) : ∀ c ∈ (toString i).toList, Solid c := by
  intro c member
  rcases int_shape i c member with rfl | digit
  · decide
  · refine ⟨?_, ?_⟩
    · by_contra blank
      rw [Bool.not_eq_false] at blank
      simp only [isBlank, Bool.or_eq_true, decide_eq_true_eq] at blank
      rcases blank with ((rfl | rfl) | rfl) | rfl
      · cases digit
      · cases digit
      · cases digit
      · cases digit
    · rintro rfl
      cases digit

variable {reprFloat} {parseFloat : String → Option PyFloat}

mutual

/-- Without its blanks a text is the one without optional blanks. -/
theorem compact_spaced (laws : FloatColumns reprFloat parseFloat) (rest : List Char) :
    ∀ v, compact .outside (spaced reprFloat v ++ rest) = chars reprFloat v ++ compact .outside rest
  | .none => @compact_solids "null".toList (by decide) rest
  | .bool true => @compact_solids "true".toList (by decide) rest
  | .bool false => @compact_solids "false".toList (by decide) rest
  | .int i => compact_solids (solid_int i) rest
  | .float f => compact_solids (solid_word (laws.word f).2 (laws.solid f)) rest
  | .str s => compact_quoted s rest
  | .list xs => by
    rw [spaced, chars, List.cons_append, compact_solid (by decide), List.append_assoc,
      List.singleton_append, compact_spacedList laws _ xs, compact_solid (by decide)]
    simp
  | .dict items => by
    rw [spaced, chars, List.cons_append, compact_solid (by decide), List.append_assoc,
      List.singleton_append, compact_spacedItems laws _ items, compact_solid (by decide)]
    simp

theorem compact_spacedList (laws : FloatColumns reprFloat parseFloat) (rest : List Char) :
    ∀ xs, compact .outside (spacedList reprFloat xs ++ rest) =
      charsList reprFloat xs ++ compact .outside rest
  | [] => rfl
  | x :: xs => by
    rw [spacedList, charsList, List.append_assoc, compact_spaced laws _ x,
      compact_spacedListTail laws rest xs, List.append_assoc]

theorem compact_spacedListTail (laws : FloatColumns reprFloat parseFloat) (rest : List Char) :
    ∀ xs, compact .outside (spacedListTail reprFloat xs ++ rest) =
      charsListTail reprFloat xs ++ compact .outside rest
  | [] => rfl
  | x :: xs => by
    rw [spacedListTail, charsListTail, List.cons_append, List.cons_append, compact_solid (by decide),
      compact_blank, List.append_assoc, compact_spaced laws _ x, compact_spacedListTail laws rest xs,
      List.cons_append, List.append_assoc]

theorem compact_spacedItems (laws : FloatColumns reprFloat parseFloat) (rest : List Char) :
    ∀ items, compact .outside (spacedItems reprFloat items ++ rest) =
      charsItems reprFloat items ++ compact .outside rest
  | [] => rfl
  | (key, x) :: items => by
    rw [spacedItems, charsItems, List.append_assoc, compact_quoted, List.cons_append, List.cons_append,
      compact_solid (by decide), compact_blank, List.append_assoc, compact_spaced laws _ x,
      compact_spacedItemsTail laws rest items]
    simp

theorem compact_spacedItemsTail (laws : FloatColumns reprFloat parseFloat) (rest : List Char) :
    ∀ items, compact .outside (spacedItemsTail reprFloat items ++ rest) =
      charsItemsTail reprFloat items ++ compact .outside rest
  | [] => rfl
  | (key, x) :: items => by
    rw [spacedItemsTail, charsItemsTail, List.cons_append, List.cons_append, compact_solid (by decide),
      compact_blank, List.append_assoc, compact_quoted, List.cons_append, List.cons_append,
      compact_solid (by decide), compact_blank, List.append_assoc, compact_spaced laws _ x,
      compact_spacedItemsTail laws rest items]
    simp

end

end Blanks

section Keys
variable {Other : Type} (reprFloat : PyFloat → String) (parseFloat : String → Option PyFloat)

mutual

/-- The value that is written: keys turned into texts where they stand. Nothing is written where
the encoder does not know an object or a key. -/
def plain : Value Other → Option PyValue
  | .none => some .none
  | .bool b => some (.bool b)
  | .int i => some (.int i)
  | .float f => some (.float f)
  | .str s => some (.str s)
  | .other _ => none
  | .list xs => (plainList xs).map .list
  | .dict items => (plainItems items).map .dict

def plainList : List (Value Other) → Option (List PyValue)
  | [] => some []
  | x :: xs => do
    let w ← plain x
    let ws ← plainList xs
    some (w :: ws)

def plainItems : List (PyKey × Value Other) → Option (List (String × PyValue))
  | [] => some []
  | (key, x) :: items => do
    let text ← key.text reprFloat
    let w ← plain x
    let rest ← plainItems items
    some ((text, w) :: rest)

end

/-- `json.dumps(data)`. -/
def dumps (v : Value Other) : Option String :=
  (plain reprFloat v).map fun w => String.ofList (spaced reprFloat w)

/-- `json.loads`, on a text that `dumps` gives. -/
def loads (s : String) : Option (Value Other) :=
  (ColumnReading.loads parseFloat (String.ofList (compact .outside s.toList))).map ofJson

mutual

/-- All keys inside the value are strings, and none stands twice in a dictionary. -/
def Textual : Value Other → Prop
  | .none => True
  | .bool _ => True
  | .int _ => True
  | .float _ => True
  | .str _ => True
  | .other _ => False
  | .list xs => TextualList xs
  | .dict items => (items.map Prod.fst).Pairwise (· ≠ ·) ∧ TextualItems items

def TextualList : List (Value Other) → Prop
  | [] => True
  | x :: xs => Textual x ∧ TextualList xs

def TextualItems : List (PyKey × Value Other) → Prop
  | [] => True
  | (key, x) :: items => key.isStr = true ∧ Textual x ∧ TextualItems items

end

mutual

theorem textual_ofJson : ∀ w, KeysBy (· ≠ ·) w → Textual (ofJson w : Value Other)
  | .none, _ => trivial
  | .bool _, _ => trivial
  | .int _, _ => trivial
  | .float _, _ => trivial
  | .str _, _ => trivial
  | .list xs, distinct => textualList_ofJson xs distinct
  | .dict items, ⟨keys, distinct⟩ => by
    refine ⟨?_, textualItems_ofJson items distinct⟩
    rw [ofJsonItems_keys]
    refine List.pairwise_map.mpr ((List.pairwise_map.mp keys).imp fun differ same => ?_)
    exact differ (PyKey.str.inj same)

theorem textualList_ofJson : ∀ xs, KeysByList (· ≠ ·) xs →
    TextualList (ofJsonList xs : List (Value Other))
  | [], _ => trivial
  | x :: xs, ⟨head, tail⟩ => ⟨textual_ofJson x head, textualList_ofJson xs tail⟩

theorem textualItems_ofJson : ∀ items, KeysByItems (· ≠ ·) items →
    TextualItems (ofJsonItems items : List (PyKey × Value Other))
  | [], _ => trivial
  | (_, x) :: items, ⟨head, tail⟩ => ⟨rfl, textual_ofJson x head, textualItems_ofJson items tail⟩

end

variable {reprFloat}

mutual

/-- A textual value is written as the JSON value it is read from. -/
theorem plain_textual : ∀ v : Value Other, Textual v →
    ∃ w, plain reprFloat v = some w ∧ KeysBy (· ≠ ·) w ∧ ofJson w = v
  | .none, _ => ⟨.none, rfl, trivial, rfl⟩
  | .bool b, _ => ⟨.bool b, rfl, trivial, rfl⟩
  | .int i, _ => ⟨.int i, rfl, trivial, rfl⟩
  | .float f, _ => ⟨.float f, rfl, trivial, rfl⟩
  | .str s, _ => ⟨.str s, rfl, trivial, rfl⟩
  | .list xs, textual => by
    obtain ⟨ws, write, distinct, same⟩ := plainList_textual xs textual
    exact ⟨.list ws, by rw [plain, write]; rfl, distinct, by rw [ofJson, same]⟩
  | .dict items, ⟨keys, textual⟩ => by
    obtain ⟨ws, write, distinct, same⟩ := plainItems_textual items textual
    refine ⟨.dict ws, by rw [plain, write]; rfl, ⟨?_, distinct⟩, by rw [ofJson, same]⟩
    rw [← same, ofJsonItems_keys] at keys
    refine List.pairwise_map.mpr ((List.pairwise_map.mp keys).imp fun differ same => ?_)
    exact differ (congrArg PyKey.str same)

theorem plainList_textual : ∀ xs : List (Value Other), TextualList xs →
    ∃ ws, plainList reprFloat xs = some ws ∧ KeysByList (· ≠ ·) ws ∧ ofJsonList ws = xs
  | [], _ => ⟨[], rfl, trivial, rfl⟩
  | x :: xs, ⟨head, tail⟩ => by
    obtain ⟨w, write, distinct, same⟩ := plain_textual x head
    obtain ⟨ws, writes, distincts, sames⟩ := plainList_textual xs tail
    exact ⟨w :: ws, by rw [plainList, write, writes]; rfl, ⟨distinct, distincts⟩,
      by rw [ofJsonList, same, sames]⟩

theorem plainItems_textual : ∀ items : List (PyKey × Value Other), TextualItems items →
    ∃ ws, plainItems reprFloat items = some ws ∧ KeysByItems (· ≠ ·) ws ∧ ofJsonItems ws = items
  | [], _ => ⟨[], rfl, trivial, rfl⟩
  | (.str key, x) :: items, ⟨_, head, tail⟩ => by
    obtain ⟨w, write, distinct, same⟩ := plain_textual x head
    obtain ⟨ws, writes, distincts, sames⟩ := plainItems_textual items tail
    exact ⟨(key, w) :: ws, by rw [plainItems, write, writes]; rfl, ⟨distinct, distincts⟩,
      by rw [ofJsonItems, same, sames]⟩

end

end Keys

section Reading
variable {parseFloat : String → Option PyFloat}

theorem setItem_cases (items : List (String × PyValue)) (item : String × PyValue) :
    (setItem items item).map Prod.fst = items.map Prod.fst ∨
      item.1 ∉ items.map Prod.fst ∧ setItem items item = items ++ [item] := by
  rw [setItem]
  split
  · exact .inl (map_key_replaceBy items item)
  · rename_i absent
    refine .inr ⟨?_, rfl⟩
    intro member
    obtain ⟨other, there, same⟩ := List.mem_map.mp member
    exact lookupBy_none.mp absent other there same

theorem setItem_mem {items : List (String × PyValue)} {item other : String × PyValue}
    (member : other ∈ setItem items item) : other ∈ items ∨ other = item := by
  rw [setItem] at member
  split at member
  · rcases mem_replaceBy member with rfl | ⟨there, -⟩
    · exact .inr rfl
    · exact .inl there
  · simpa using member

/-- Setting keys one after the other gives a dictionary. -/
theorem foldl_setItem_distinct {items held : List (String × PyValue)}
    (keys : (held.map Prod.fst).Pairwise (· ≠ ·)) (old : KeysByItems (· ≠ ·) held)
    (new : KeysByItems (· ≠ ·) items) : KeysBy (· ≠ ·) (.dict (items.foldl setItem held)) := by
  induction items generalizing held with
  | nil => exact ⟨keys, old⟩
  | cons item items ih =>
    rw [List.foldl_cons]
    rw [keysByItems_iff] at old new
    obtain ⟨head, tail⟩ := List.forall_mem_cons.mp new
    refine ih ?_ ?_ (keysByItems_iff.mpr tail)
    · rcases setItem_cases held item with same | ⟨absent, appended⟩
      · rwa [same]
      · rw [appended, List.map_append]
        refine List.pairwise_append.mpr ⟨keys, List.pairwise_singleton _ _, ?_⟩
        rintro key member other single rfl
        exact absent (List.mem_singleton.mp single ▸ member)
    · refine keysByItems_iff.mpr fun other member => ?_
      rcases setItem_mem member with there | rfl
      · exact old other there
      · exact head

variable (parseFloat) in
/-- What is read with the fuel has distinct keys. -/
structure ReadsDistinct (fuel : Nat) : Prop where
  value : ∀ {cs v rest}, readValue parseFloat fuel cs = some (v, rest) → KeysBy (· ≠ ·) v
  elements : ∀ {cs xs rest}, readElements parseFloat fuel cs = some (xs, rest) →
    KeysByList (· ≠ ·) xs
  elementsTail : ∀ {cs xs rest}, readElementsTail parseFloat fuel cs = some (xs, rest) →
    KeysByList (· ≠ ·) xs
  items : ∀ {cs xs rest}, readItems parseFloat fuel cs = some (xs, rest) → KeysByItems (· ≠ ·) xs
  itemsTail : ∀ {cs xs rest}, readItemsTail parseFloat fuel cs = some (xs, rest) →
    KeysByItems (· ≠ ·) xs

theorem readWord_distinct {s : String} {v : PyValue} (read : readWord parseFloat s = some v) :
    KeysBy (· ≠ ·) v := by
  rw [readWord] at read
  split_ifs at read
  · cases read; trivial
  · cases read; trivial
  · cases read; trivial
  · split at read
    · cases read; trivial
    · obtain ⟨f, -, rfl⟩ := Option.map_eq_some_iff.mp read
      trivial

variable {fuel : Nat} {cs rest : List Char}

theorem readValue_distinct (less : ReadsDistinct parseFloat fuel) {v : PyValue}
    (read : readValue parseFloat (fuel + 1) cs = some (v, rest)) : KeysBy (· ≠ ·) v := by
  rw [readValue] at read
  split at read
  · obtain ⟨p, -, same⟩ := Option.map_eq_some_iff.mp read
    cases same
    trivial
  · obtain ⟨p, inner, same⟩ := Option.map_eq_some_iff.mp read
    cases same
    exact less.elements inner
  · split_ifs at read
    · obtain ⟨p, inner, same⟩ := Option.map_eq_some_iff.mp read
      cases same
      exact foldl_setItem_distinct List.Pairwise.nil trivial (less.items inner)
    · obtain ⟨w, inner, same⟩ := Option.map_eq_some_iff.mp read
      cases same
      exact readWord_distinct inner
  · cases read

theorem readElements_distinct (less : ReadsDistinct parseFloat fuel) {xs : List PyValue}
    (read : readElements parseFloat (fuel + 1) cs = some (xs, rest)) : KeysByList (· ≠ ·) xs := by
  rw [readElements] at read
  split_ifs at read
  · cases read; trivial
  · obtain ⟨⟨x, middle⟩, head, read⟩ := Option.bind_eq_some_iff.mp read
    obtain ⟨⟨xs, last⟩, tail, read⟩ := Option.bind_eq_some_iff.mp read
    cases read
    exact ⟨less.value head, less.elementsTail tail⟩

theorem readElementsTail_distinct (less : ReadsDistinct parseFloat fuel) {xs : List PyValue}
    (read : readElementsTail parseFloat (fuel + 1) cs = some (xs, rest)) :
    KeysByList (· ≠ ·) xs := by
  rw [readElementsTail] at read
  split_ifs at read
  · cases read; trivial
  · obtain ⟨start, -, read⟩ := Option.bind_eq_some_iff.mp read
    obtain ⟨⟨x, middle⟩, head, read⟩ := Option.bind_eq_some_iff.mp read
    obtain ⟨⟨xs, last⟩, tail, read⟩ := Option.bind_eq_some_iff.mp read
    cases read
    exact ⟨less.value head, less.elementsTail tail⟩

theorem readItems_distinct (less : ReadsDistinct parseFloat fuel) {xs : List (String × PyValue)}
    (read : readItems parseFloat (fuel + 1) cs = some (xs, rest)) : KeysByItems (· ≠ ·) xs := by
  rw [readItems] at read
  split_ifs at read
  · cases read; trivial
  · obtain ⟨⟨key, behind⟩, -, read⟩ := Option.bind_eq_some_iff.mp read
    obtain ⟨start, -, read⟩ := Option.bind_eq_some_iff.mp read
    obtain ⟨⟨x, middle⟩, head, read⟩ := Option.bind_eq_some_iff.mp read
    obtain ⟨⟨xs, last⟩, tail, read⟩ := Option.bind_eq_some_iff.mp read
    cases read
    exact ⟨less.value head, less.itemsTail tail⟩

theorem readItemsTail_distinct (less : ReadsDistinct parseFloat fuel) {xs : List (String × PyValue)}
    (read : readItemsTail parseFloat (fuel + 1) cs = some (xs, rest)) : KeysByItems (· ≠ ·) xs := by
  rw [readItemsTail] at read
  split_ifs at read
  · cases read; trivial
  · obtain ⟨front, -, read⟩ := Option.bind_eq_some_iff.mp read
    obtain ⟨⟨key, behind⟩, -, read⟩ := Option.bind_eq_some_iff.mp read
    obtain ⟨start, -, read⟩ := Option.bind_eq_some_iff.mp read
    obtain ⟨⟨x, middle⟩, head, read⟩ := Option.bind_eq_some_iff.mp read
    obtain ⟨⟨xs, last⟩, tail, read⟩ := Option.bind_eq_some_iff.mp read
    cases read
    exact ⟨less.value head, less.itemsTail tail⟩

theorem reads_distinct (fuel : Nat) : ReadsDistinct parseFloat fuel := by
  induction fuel with
  | zero => exact ⟨by intro; simp [readValue], by intro; simp [readElements],
      by intro; simp [readElementsTail], by intro; simp [readItems], by intro; simp [readItemsTail]⟩
  | succ fuel less =>
    exact ⟨readValue_distinct less, readElements_distinct less, readElementsTail_distinct less,
      readItems_distinct less, readItemsTail_distinct less⟩

theorem loads_distinct {s : String} {w : PyValue} (read : ColumnReading.loads parseFloat s = some w) :
    KeysBy (· ≠ ·) w := by
  obtain ⟨⟨v, rest⟩, inner, read⟩ := Option.bind_eq_some_iff.mp read
  dsimp only at read
  split_ifs at read
  cases read
  exact (reads_distinct _).value inner

variable {Other : Type} {reprFloat : PyFloat → String} {v : Value Other} {s : String}

/-- Whatever is read has strings for keys. -/
theorem loads_textual (read : loads parseFloat s = some v) : Textual v := by
  obtain ⟨w, inner, rfl⟩ := Option.map_eq_some_iff.mp read
  exact textual_ofJson w (loads_distinct inner)

theorem dumps_textual (textual : Textual v) (laws : FloatColumns reprFloat parseFloat) :
    ∃ s, dumps reprFloat v = some s ∧ loads parseFloat s = some v := by
  obtain ⟨w, write, distinct, same⟩ := @plain_textual Other reprFloat v textual
  refine ⟨String.ofList (spaced reprFloat w), by rw [dumps, write]; rfl, ?_⟩
  have unblanked := compact_spaced laws [] w
  rw [List.append_nil, compact, List.append_nil] at unblanked
  rw [loads, String.toList_ofList, unblanked, loads_chars laws.toFloatReading distinct, Option.map_some,
    same]

/-- A value that is written comes back as it was exactly if its keys are strings. -/
theorem loads_dumps_iff (laws : FloatColumns reprFloat parseFloat) (wrote : dumps reprFloat v = some s) :
    loads parseFloat s = some v ↔ Textual v := by
  constructor
  · exact loads_textual
  · intro textual
    obtain ⟨t, write, read⟩ := dumps_textual textual laws
    obtain rfl := Option.some.inj (wrote.symm.trans write)
    exact read

end Reading

section Times

def readMicrosecond : List Char → Option (Nat × List Char)
  | [] => some (0, [])
  | c :: rest => if c = '.' then readField 6 rest else some (0, c :: rest)

/-- The seconds of an offset, which stand there if they are not zero. -/
def readOffsetSeconds : List Char → Option (Nat × Nat)
  | [] => some (0, 0)
  | c :: rest => do
    let (second, rest) ← expect ':' (c :: rest) >>= readField 2
    let microsecond ← readFraction rest
    some (second, microsecond)

def readOffset : List Char → Option (Option Int)
  | [] => some none
  | sign :: rest => do
    let (hour, rest) ← readField 2 rest
    let (minute, rest) ← expect ':' rest >>= readField 2
    let (second, microsecond) ← readOffsetSeconds rest
    let size : Int := ((hour * 60 + minute) * 60 + second) * 1000000 + microsecond
    if sign = '-' then some (some (-size)) else if sign = '+' then some (some size) else none

def ofParts (clock : Clock) (offset : Option Int) : Option DateTime :=
  if fits : clock.Valid ∧ ∀ o ∈ offset, o.natAbs < dayLength then
    some ⟨clock, offset, fits.1, fits.2⟩
  else none

/-- `datetime.fromisoformat`, on a text that `isoformat` gives. -/
def fromIsoformat (s : String) : Option DateTime := do
  let (year, rest) ← readField 4 s.toList
  let (month, rest) ← expect '-' rest >>= readField 2
  let (day, rest) ← expect '-' rest >>= readField 2
  let (hour, rest) ← expect 'T' rest >>= readField 2
  let (minute, rest) ← expect ':' rest >>= readField 2
  let (second, rest) ← expect ':' rest >>= readField 2
  let (microsecond, rest) ← readMicrosecond rest
  let offset ← readOffset rest
  ofParts ⟨year, month, day, hour, minute, second, microsecond⟩ offset

/-- An offset starts with its sign, so that no fraction is read off it. -/
theorem readMicrosecond_offset (o : Option Int) :
    readMicrosecond (offsetText o) = some (0, offsetText o) := by
  cases o with
  | none => rfl
  | some o =>
    by_cases negative : o < 0
    · rw [offsetText, if_pos negative]
      rfl
    · rw [offsetText, if_neg negative]
      rfl

theorem readMicrosecond_fraction {microsecond : Nat} (small : microsecond < 1000000) (o : Option Int) :
    readMicrosecond (fraction microsecond ++ offsetText o) = some (microsecond, offsetText o) := by
  rw [fraction]
  split_ifs with zero
  · rw [zero]
    exact readMicrosecond_offset o
  · rw [List.cons_append, readMicrosecond, if_pos rfl]
    exact readField_pad (show microsecond < 10 ^ 6 from small) (offsetText o)

theorem readOffsetSeconds_written {second microsecond : Nat} (seconds : second < 60)
    (small : microsecond < 1000000) :
    readOffsetSeconds (offsetSeconds second microsecond) = some (second, microsecond) := by
  rw [offsetSeconds]
  split_ifs with zero
  · rw [zero.1, zero.2]
    rfl
  · rw [readOffsetSeconds]
    simp only [Option.bind_eq_bind, expect_self, Option.bind_some,
      readField_pad (show second < 10 ^ 2 by omega), readFraction_fraction small]

theorem readOffset_offsetText {o : Option Int} (bounded : ∀ x ∈ o, x.natAbs < dayLength) :
    readOffset (offsetText o) = some o := by
  cases o with
  | none => rfl
  | some o =>
    have bound := bounded o rfl
    rw [dayLength] at bound
    have hours : o.natAbs / 3600000000 < 10 ^ 2 := by omega
    have minutes : o.natAbs / 60000000 % 60 < 10 ^ 2 := by omega
    rw [offsetText, readOffset]
    simp only [Option.bind_eq_bind, readField_pad hours, expect_self, Option.bind_some,
      readField_pad minutes, readOffsetSeconds_written (Nat.mod_lt (o.natAbs / 1000000) (by decide))
        (Nat.mod_lt o.natAbs (by decide))]
    by_cases negative : o < 0
    · rw [if_pos negative, if_pos rfl]
      congr 2
      omega
    · rw [if_neg negative, if_neg (by decide), if_pos rfl]
      congr 2
      omega

/-- A timestamp is read back as it was written, with its offset. -/
theorem fromIsoformat_isoformat (d : DateTime) : fromIsoformat d.isoformat = some d := by
  obtain ⟨⟨-, year⟩, ⟨-, month⟩, ⟨-, day⟩, hour, minute, second, micro⟩ := d.valid
  have short := day.trans (daysInMonth_le _ _)
  rw [fromIsoformat, DateTime.isoformat, String.toList_ofList, dateText]
  simp only [List.append_assoc, List.cons_append, Option.bind_eq_bind, Option.bind_some, expect_self,
    readField_pad (show d.clock.year < 10 ^ 4 by omega),
    readField_pad (show d.clock.month < 10 ^ 2 by omega),
    readField_pad (show d.clock.day < 10 ^ 2 by omega),
    readField_pad (show d.clock.hour < 10 ^ 2 by omega),
    readField_pad (show d.clock.minute < 10 ^ 2 by omega),
    readField_pad (show d.clock.second < 10 ^ 2 by omega),
    readMicrosecond_fraction micro, readOffset_offsetText d.bounded]
  rw [ofParts, dif_pos ⟨d.valid, d.bounded⟩]

end Times

end TextColumns
