import Mathlib.Data.List.Sort
import Mathlib.Data.String.Basic
import KalyxMao.ColumnReading

/-!
# Payloads and their canonical text

A payload is any Python value. Its keys need not be strings, and an object the
encoder does not know is written as its `str`. The encoder sorts the keys before
it turns them into texts, while a payload that was read back has texts for keys.
The text of the read value is therefore the written one where the order of the
keys is the order of their texts.
-/

namespace PayloadText
open PythonValues (PyFloat PyValue)
open CanonicalText ColumnReading

inductive PyKey where
  | none
  | bool (b : Bool)
  | int (i : Int)
  | float (f : PyFloat)
  | str (s : String)
  | other
  deriving DecidableEq

namespace PyKey

/-- The number a key compares as. -/
def number : PyKey → Option PyFloat
  | .bool b => some (.finite (if b then 1 else 0))
  | .int i => some (.finite i)
  | .float f => some f
  | _ => Option.none

def isStr : PyKey → Bool
  | .str _ => true
  | _ => false

/-- `a < b`, false where Python does not compare the two. -/
def lt (a b : PyKey) : Bool :=
  match a, b with
  | .str s, .str t => s < t
  | _, _ =>
    match a.number, b.number with
    | some x, some y => x.lt y
    | _, _ => false

/-- A key as the encoder writes it; other keys are refused. -/
def text (reprFloat : PyFloat → String) : PyKey → Option String
  | .none => some "null"
  | .bool b => some (if b then "true" else "false")
  | .int i => some (toString i)
  | .float f => some (reprFloat f)
  | .str s => some s
  | .other => Option.none

end PyKey

/-- Sorting compares strings, or numbers, but neither with the other nor `None`. -/
def sortable (keys : List PyKey) : Bool :=
  keys.length ≤ 1 || keys.all PyKey.isStr || keys.all fun key => key.number.isSome

/-- A value under construction, `Other` being the types the encoder does not know. -/
inductive Value (Other : Type) where
  | none
  | bool (b : Bool)
  | int (i : Int)
  | float (f : PyFloat)
  | str (s : String)
  | other (o : Other)
  | list (xs : List (Value Other))
  | dict (items : List (PyKey × Value Other))

/-- An item with its key, its key's text and its value as it is written. -/
abbrev Item := PyKey × String × PyValue

/-- The second item's key is not before the first one's, so that a sort keeps their order. -/
def InOrder (a b : Item) : Prop := b.1.lt a.1 = false

instance : DecidableRel InOrder := fun a b => inferInstanceAs (Decidable (b.1.lt a.1 = false))

section Writing
variable {Other : Type} (reprFloat : PyFloat → String) (str : Other → String)

mutual

/-- The value that is written: keys sorted and then turned into texts, unknown objects as
their `str`. Nothing is written where sorting or a key raises. -/
def written : Value Other → Option PyValue
  | .none => some .none
  | .bool b => some (.bool b)
  | .int i => some (.int i)
  | .float f => some (.float f)
  | .str s => some (.str s)
  | .other o => some (.str (str o))
  | .list xs => (writtenList xs).map .list
  | .dict items =>
    if sortable (items.map Prod.fst) then
      (writtenItems items).map fun items => .dict ((items.insertionSort InOrder).map Prod.snd)
    else none

def writtenList : List (Value Other) → Option (List PyValue)
  | [] => some []
  | x :: xs => do
    let w ← written x
    let ws ← writtenList xs
    some (w :: ws)

def writtenItems : List (PyKey × Value Other) → Option (List Item)
  | [] => some []
  | (key, x) :: items => do
    let text ← key.text reprFloat
    let w ← written x
    let rest ← writtenItems items
    some ((key, text, w) :: rest)

end

/-- `json.dumps(data, sort_keys=True, separators=(",", ":"), default=str)`. -/
def canonicalJson (v : Value Other) : Option String :=
  (written reprFloat str v).map fun w => String.ofList (chars reprFloat w)

end Writing

section Reading
variable {Other : Type}

mutual

/-- A value that was read from JSON. -/
def ofJson : PyValue → Value Other
  | .none => .none
  | .bool b => .bool b
  | .int i => .int i
  | .float f => .float f
  | .str s => .str s
  | .list xs => .list (ofJsonList xs)
  | .dict items => .dict (ofJsonItems items)

def ofJsonList : List PyValue → List (Value Other)
  | [] => []
  | x :: xs => ofJson x :: ofJsonList xs

def ofJsonItems : List (String × PyValue) → List (PyKey × Value Other)
  | [] => []
  | (key, x) :: items => (.str key, ofJson x) :: ofJsonItems items

end

theorem ofJsonItems_keys (items : List (String × PyValue)) :
    (ofJsonItems items : List (PyKey × Value Other)).map Prod.fst =
      items.map fun item => .str item.1 := by
  induction items with
  | nil => rfl
  | cons item items ih => rw [ofJsonItems, List.map_cons, List.map_cons, ih]

theorem ofJsonItems_strings (items : List (String × PyValue)) :
    ((ofJsonItems items : List (PyKey × Value Other)).map Prod.fst).all PyKey.isStr = true := by
  rw [ofJsonItems_keys, List.all_map]
  exact List.all_eq_true.mpr fun _ _ => rfl

theorem sortable_ofJson (items : List (String × PyValue)) :
    sortable ((ofJsonItems items : List (PyKey × Value Other)).map Prod.fst) = true := by
  rw [sortable, ofJsonItems_strings, Bool.or_true, Bool.true_or]

/-- The item of a string key. -/
def strItem (item : String × PyValue) : Item := (.str item.1, item)

theorem inOrder_strItem (a b : String × PyValue) : InOrder (strItem a) (strItem b) ↔ a.1 ≤ b.1 := by
  rw [InOrder, ← String.not_lt]
  show decide (b.1 < a.1) = false ↔ _
  rw [decide_eq_false_iff_not]

end Reading

section Sorting

instance : IsTrans (String × PyValue) (fun a b => a.1 ≤ b.1) := ⟨fun _ _ _ => le_trans⟩
instance : Std.Total (fun a b : String × PyValue => a.1 ≤ b.1) := ⟨fun _ _ => le_total _ _⟩

/-- Sorting items by a key that none shares leaves one possible list. -/
theorem insertionSort_eq_mergeSort {items : List (String × PyValue)}
    (distinct : (items.map Prod.fst).Nodup) :
    (items.insertionSort fun a b => a.1 ≤ b.1) = items.mergeSort fun a b => a.1 ≤ b.1 := by
  have inserted := List.pairwise_insertionSort (fun a b : String × PyValue => a.1 ≤ b.1) items
  have merged := List.pairwise_mergeSort' (fun a b : String × PyValue => a.1 ≤ b.1) items
  refine List.Perm.eq_of_pairwise (fun a b ha hb below above => ?_) inserted merged
    ((List.perm_insertionSort _ _).trans (List.mergeSort_perm _ _).symm)
  exact List.inj_on_of_nodup_map distinct ((List.mem_insertionSort _).mp ha)
    (List.mem_mergeSort.mp hb) (le_antisymm below above)

theorem insertionSort_strItem (items : List (String × PyValue)) :
    ((items.map strItem).insertionSort InOrder).map Prod.snd =
      items.insertionSort fun a b => a.1 ≤ b.1 := by
  rw [← List.map_insertionSort (fun a b => a.1 ≤ b.1) InOrder strItem items
    fun a _ b _ => (inOrder_strItem a b).symm, List.map_map]
  exact List.map_id _

theorem sortKeysItems_keys (items : List (String × PyValue)) :
    (sortKeysItems items).map Prod.fst = items.map Prod.fst := by
  induction items with
  | nil => rfl
  | cons item items ih => rw [sortKeysItems, List.map_cons, List.map_cons, ih]

variable {Other : Type} {reprFloat : PyFloat → String} {str : Other → String}

mutual

/-- On a value read from JSON the two encoders agree. -/
theorem written_ofJson : ∀ w, KeysBy (· ≠ ·) w →
    written reprFloat str (ofJson w) = some (sortKeys w)
  | .none, _ => rfl
  | .bool _, _ => rfl
  | .int _, _ => rfl
  | .float _, _ => rfl
  | .str _, _ => rfl
  | .list xs, distinct => by
    rw [ofJson, written, writtenList_ofJson xs distinct, sortKeys]
    rfl
  | .dict items, ⟨keys, distinct⟩ => by
    have nodup : ((sortKeysItems items).map Prod.fst).Nodup := by
      rw [sortKeysItems_keys]
      exact keys
    rw [ofJson, written, if_pos (sortable_ofJson items), writtenItems_ofJson items distinct,
      Option.map_some, insertionSort_strItem, insertionSort_eq_mergeSort nodup, sortKeys]

theorem writtenList_ofJson : ∀ xs, KeysByList (· ≠ ·) xs →
    writtenList reprFloat str (ofJsonList xs) = some (sortKeysList xs)
  | [], _ => rfl
  | x :: xs, ⟨head, tail⟩ => by
    rw [ofJsonList, writtenList, written_ofJson x head, writtenList_ofJson xs tail]
    rfl

theorem writtenItems_ofJson : ∀ items, KeysByItems (· ≠ ·) items →
    writtenItems reprFloat str (ofJsonItems items) = some ((sortKeysItems items).map strItem)
  | [], _ => rfl
  | (key, x) :: items, ⟨head, tail⟩ => by
    rw [ofJsonItems, writtenItems, written_ofJson x head, writtenItems_ofJson items tail]
    rfl

end

mutual

theorem sortKeys_sorted : ∀ w, KeysBy (· < ·) w → sortKeys w = w
  | .none, _ => rfl
  | .bool _, _ => rfl
  | .int _, _ => rfl
  | .float _, _ => rfl
  | .str _, _ => rfl
  | .list xs, sorted => by rw [sortKeys, sortKeysList_sorted xs sorted]
  | .dict items, ⟨keys, sorted⟩ => by
    have pairs : items.Pairwise fun a b => a.1 ≤ b.1 :=
      (List.pairwise_map.mp keys).imp le_of_lt
    rw [sortKeys, sortKeysItems_sorted items sorted, List.mergeSort_of_pairwise]
    exact pairs.imp decide_eq_true

theorem sortKeysList_sorted : ∀ xs, KeysByList (· < ·) xs → sortKeysList xs = xs
  | [], _ => rfl
  | x :: xs, ⟨head, tail⟩ => by
    rw [sortKeysList, sortKeys_sorted x head, sortKeysList_sorted xs tail]

theorem sortKeysItems_sorted : ∀ items, KeysByItems (· < ·) items → sortKeysItems items = items
  | [], _ => rfl
  | (key, x) :: items, ⟨head, tail⟩ => by
    rw [sortKeysItems, sortKeys_sorted x head, sortKeysItems_sorted items tail]

end

end Sorting

section Order
variable {Other : Type} (reprFloat : PyFloat → String)

/-- One key is before another, and so is its text. -/
def Before (a b : PyKey) : Prop :=
  a.lt b = true ∧ ∀ s ∈ a.text reprFloat, ∀ t ∈ b.text reprFloat, s < t

/-- Two keys compare, and as their texts do. -/
def SameOrder (a b : PyKey) : Prop := Before reprFloat a b ∨ Before reprFloat b a

instance (a b : PyKey) : Decidable (Before reprFloat a b) := inferInstanceAs (Decidable (_ ∧ _))

instance (a b : PyKey) : Decidable (SameOrder reprFloat a b) := inferInstanceAs (Decidable (_ ∨ _))

mutual

/-- In every dictionary inside the value, the order of the keys is the order of their texts. -/
def Ordered : Value Other → Prop
  | .none => True
  | .bool _ => True
  | .int _ => True
  | .float _ => True
  | .str _ => True
  | .other _ => True
  | .list xs => OrderedList xs
  | .dict items => (items.map Prod.fst).Pairwise (SameOrder reprFloat) ∧ OrderedItems items

def OrderedList : List (Value Other) → Prop
  | [] => True
  | x :: xs => Ordered x ∧ OrderedList xs

def OrderedItems : List (PyKey × Value Other) → Prop
  | [] => True
  | (_, x) :: items => Ordered x ∧ OrderedItems items

end

variable {reprFloat} {str : Other → String}

theorem floatLt_asymm {f g : PyFloat} (before : f.lt g = true) : g.lt f = false := by
  cases f with
  | finite p =>
    cases g with
    | finite q =>
      simp only [PyFloat.lt, decide_eq_true_eq] at before
      simp [PyFloat.lt, before.le]
    | inf negative => cases negative <;> first | rfl | cases before
    | nan => rfl
  | inf negative =>
    cases g with
    | finite q => cases negative <;> first | rfl | cases before
    | inf negative' => cases negative <;> cases negative' <;> first | rfl | cases before
    | nan => rfl
  | nan => cases before

theorem PyKey.lt_asymm {a b : PyKey} (before : a.lt b = true) : b.lt a = false := by
  rw [PyKey.lt.eq_def] at before
  split at before
  · exact decide_eq_false (not_lt_of_gt (of_decide_eq_true before))
  · split at before
    · rename_i x y hx hy
      rw [PyKey.lt.eq_def]
      split
      · cases hx
      · rw [hx, hy]
        exact floatLt_asymm before
    · cases before

theorem PyKey.lt_irrefl (a : PyKey) : a.lt a = false := by
  by_contra before
  rw [Bool.not_eq_false] at before
  exact absurd (before.symm.trans (PyKey.lt_asymm before)) (by decide)

theorem SameOrder.symm {a b : PyKey} (same : SameOrder reprFloat a b) : SameOrder reprFloat b a :=
  Or.symm same

/-- An item carries its key's text. -/
def Carries (reprFloat : PyFloat → String) (a : Item) : Prop := a.1.text reprFloat = some a.2.1

theorem inOrder_iff {a b : Item} (ha : Carries reprFloat a) (hb : Carries reprFloat b)
    (same : SameOrder reprFloat a.1 b.1) : InOrder a b ↔ a.2.1 ≤ b.2.1 := by
  rcases same with ⟨before, texts⟩ | ⟨before, texts⟩
  · exact iff_of_true (PyKey.lt_asymm before) (le_of_lt (texts _ ha _ hb))
  · refine iff_of_false (fun order => ?_) (not_le_of_gt (texts _ hb _ ha))
    rw [InOrder, before] at order
    cases order

/-- The items of a dictionary as they are written: each with its key's text, in the same order. -/
theorem writtenItems_keys : ∀ {items : List (PyKey × Value Other)} {texts : List Item},
    writtenItems reprFloat str items = some texts →
      texts.map Prod.fst = items.map Prod.fst ∧ ∀ a ∈ texts, Carries reprFloat a
  | [], _, write => by
    cases write
    exact ⟨rfl, by simp⟩
  | (key, x) :: items, texts, write => by
    rw [writtenItems] at write
    obtain ⟨text, named, write⟩ := Option.bind_eq_some_iff.mp write
    obtain ⟨w, -, write⟩ := Option.bind_eq_some_iff.mp write
    obtain ⟨rest, tail, write⟩ := Option.bind_eq_some_iff.mp write
    cases write
    obtain ⟨keys, carries⟩ := writtenItems_keys tail
    exact ⟨congrArg (key :: ·) keys, List.forall_mem_cons.mpr ⟨named, carries⟩⟩

theorem keysByItems_iff {R : String → String → Prop} {items : List (String × PyValue)} :
    KeysByItems R items ↔ ∀ item ∈ items, KeysBy R item.2 := by
  induction items with
  | nil => simp [KeysByItems]
  | cons item items ih => rw [KeysByItems, ih, List.forall_mem_cons]

/-- Sorted items whose keys agree with their texts have their texts in order. -/
theorem texts_sorted {texts : List Item} (carries : ∀ a ∈ texts, Carries reprFloat a)
    (same : (texts.map Prod.fst).Pairwise (SameOrder reprFloat)) :
    (((texts.insertionSort InOrder).map Prod.snd).map Prod.fst).Pairwise (· < ·) := by
  have pairs : texts.Pairwise fun a b => SameOrder reprFloat a.1 b.1 := List.pairwise_map.mp same
  have orders : ∀ a ∈ texts, ∀ b ∈ texts, InOrder a b ↔ a.2.1 ≤ b.2.1 := by
    refine List.Pairwise.forall_of_forall_of_flip (fun a _ => iff_of_true a.1.lt_irrefl le_rfl) ?_ ?_
    · exact pairs.imp_of_mem fun ha hb both => inOrder_iff (carries _ ha) (carries _ hb) both
    · exact pairs.imp_of_mem fun ha hb both => inOrder_iff (carries _ hb) (carries _ ha) both.symm
  have distinct : (texts.map Prod.snd).Pairwise fun a b => a.1 ≠ b.1 := by
    refine List.pairwise_map.mpr (pairs.imp_of_mem fun ha hb both same => ?_)
    rcases both with ⟨-, before⟩ | ⟨-, before⟩
    · exact absurd same (ne_of_lt (before _ (carries _ ha) _ (carries _ hb)))
    · exact absurd same.symm (ne_of_lt (before _ (carries _ hb) _ (carries _ ha)))
  rw [List.map_insertionSort InOrder (fun a b => a.1 ≤ b.1) Prod.snd texts orders]
  have sorted := List.pairwise_insertionSort (fun a b : String × PyValue => a.1 ≤ b.1)
    (texts.map Prod.snd)
  have apart := (List.perm_insertionSort (fun a b : String × PyValue => a.1 ≤ b.1)
    (texts.map Prod.snd)).symm.pairwise distinct fun differ => differ.symm
  exact List.pairwise_map.mpr ((sorted.and apart).imp fun both => lt_of_le_of_ne both.1 both.2)

mutual

theorem written_sorted : ∀ {v : Value Other} {w : PyValue}, Ordered reprFloat v →
    written reprFloat str v = some w → KeysBy (· < ·) w
  | .none, _, _, write => by cases write; trivial
  | .bool _, _, _, write => by cases write; trivial
  | .int _, _, _, write => by cases write; trivial
  | .float _, _, _, write => by cases write; trivial
  | .str _, _, _, write => by cases write; trivial
  | .other _, _, _, write => by cases write; trivial
  | .list xs, _, ordered, write => by
    rw [written] at write
    obtain ⟨ws, each, rfl⟩ := Option.map_eq_some_iff.mp write
    exact writtenList_sorted ordered each
  | .dict items, _, ⟨keys, ordered⟩, write => by
    rw [written] at write
    split_ifs at write with sorts
    obtain ⟨texts, each, rfl⟩ := Option.map_eq_some_iff.mp write
    obtain ⟨same, carries⟩ := writtenItems_keys each
    refine ⟨texts_sorted carries (by rwa [same]), keysByItems_iff.mpr fun item member => ?_⟩
    obtain ⟨a, ha, rfl⟩ := List.mem_map.mp member
    exact writtenItems_sorted ordered each a ((List.mem_insertionSort _).mp ha)

theorem writtenList_sorted : ∀ {xs : List (Value Other)} {ws : List PyValue},
    OrderedList reprFloat xs → writtenList reprFloat str xs = some ws → KeysByList (· < ·) ws
  | [], _, _, write => by cases write; trivial
  | x :: xs, _, ⟨head, tail⟩, write => by
    rw [writtenList] at write
    obtain ⟨w, first, write⟩ := Option.bind_eq_some_iff.mp write
    obtain ⟨ws, rest, write⟩ := Option.bind_eq_some_iff.mp write
    cases write
    exact ⟨written_sorted head first, writtenList_sorted tail rest⟩

theorem writtenItems_sorted : ∀ {items : List (PyKey × Value Other)} {texts : List Item},
    OrderedItems reprFloat items → writtenItems reprFloat str items = some texts →
      ∀ a ∈ texts, KeysBy (· < ·) a.2.2
  | [], _, _, write => by cases write; simp
  | (key, x) :: items, _, ⟨head, tail⟩, write => by
    rw [writtenItems] at write
    obtain ⟨text, -, write⟩ := Option.bind_eq_some_iff.mp write
    obtain ⟨w, first, write⟩ := Option.bind_eq_some_iff.mp write
    obtain ⟨rest, more, write⟩ := Option.bind_eq_some_iff.mp write
    cases write
    exact List.forall_mem_cons.mpr ⟨written_sorted head first, writtenItems_sorted tail more⟩

end

mutual

/-- A value that JSON can hold is ordered, its keys being texts. -/
theorem ordered_ofJson : ∀ w, KeysBy (· ≠ ·) w → Ordered reprFloat (ofJson w : Value Other)
  | .none, _ => trivial
  | .bool _, _ => trivial
  | .int _, _ => trivial
  | .float _, _ => trivial
  | .str _, _ => trivial
  | .list xs, distinct => orderedList_ofJson xs distinct
  | .dict items, ⟨keys, distinct⟩ => by
    refine ⟨?_, orderedItems_ofJson items distinct⟩
    rw [ofJsonItems_keys]
    refine List.pairwise_map.mpr ((List.pairwise_map.mp keys).imp fun {a b} differ => ?_)
    have before {s t : String} (below : s < t) : Before reprFloat (.str s) (.str t) :=
      ⟨decide_eq_true below, by rintro _ ⟨⟩ _ ⟨⟩; exact below⟩
    exact (lt_or_gt_of_ne differ).imp before before

theorem orderedList_ofJson : ∀ xs, KeysByList (· ≠ ·) xs →
    OrderedList reprFloat (ofJsonList xs : List (Value Other))
  | [], _ => trivial
  | x :: xs, ⟨head, tail⟩ => ⟨ordered_ofJson x head, orderedList_ofJson xs tail⟩

theorem orderedItems_ofJson : ∀ items, KeysByItems (· ≠ ·) items →
    OrderedItems reprFloat (ofJsonItems items : List (PyKey × Value Other))
  | [], _ => trivial
  | (_, x) :: items, ⟨head, tail⟩ => ⟨ordered_ofJson x head, orderedItems_ofJson items tail⟩

end

theorem written_dict {items : List (PyKey × Value Other)} {w : PyValue}
    (write : written reprFloat str (.dict items) = some w) : ∃ texts, w = .dict texts := by
  rw [written] at write
  split_ifs at write
  obtain ⟨texts, -, rfl⟩ := Option.map_eq_some_iff.mp write
  exact ⟨_, rfl⟩

/-- The text of an ordered value reads back as a value with the same text. -/
theorem canonicalJson_reread {parseFloat : String → Option PyFloat}
    (laws : FloatReading reprFloat parseFloat) {v : Value Other} {text : String}
    (ordered : Ordered reprFloat v) (wrote : canonicalJson reprFloat str v = some text) :
    ∃ w, written reprFloat str v = some w ∧ loads parseFloat text = some w ∧
      canonicalJson reprFloat str (ofJson w : Value Other) = some text := by
  obtain ⟨w, write, rfl⟩ := Option.map_eq_some_iff.mp wrote
  have sorted := written_sorted ordered write
  have distinct : KeysBy (· ≠ ·) w := KeysBy.mono (fun _ _ => ne_of_lt) w sorted
  refine ⟨w, write, loads_chars laws distinct, ?_⟩
  rw [canonicalJson, written_ofJson w distinct, sortKeys_sorted w sorted]
  rfl

end Order

end PayloadText
