import Mathlib.Algebra.Group.Nat.Defs
import KalyxMao.PythonValues

/-!
# Truth values, texts and integers of untyped values

`bool(v)`, `str(v)` and `int(v)` for the values a JSON document can hold. What
Python looks up in the Unicode database, and the printing of floats, are fields
of `TextRules`.
-/

namespace PythonConversions
open PythonText PythonValues

structure TextRules where
  reprFloat : PyFloat → String
  printable : Char → Bool
  space : Char → Bool
  digit : Char → Option Nat
  lower : String → String

def truthy : PyValue → Bool
  | .none => false
  | .bool b => b
  | .int i => i ≠ 0
  | .float f => f ≠ .finite 0
  | .str s => s ≠ ""
  | .list xs => !xs.isEmpty
  | .dict items => !items.isEmpty

/-- `a or b or …`: the first truthy value, else the last one. -/
def firstTruthy : List PyValue → PyValue
  | [] => .none
  | [v] => v
  | v :: rest => if truthy v then v else firstTruthy rest

def asDict : PyValue → List (String × PyValue)
  | .dict items => items
  | _ => []

def asList : PyValue → List PyValue
  | .list xs => xs
  | _ => []

section Texts
variable (t : TextRules)

def hexWidth (width n : Nat) : String :=
  String.ofList ((List.range width).reverse.map fun i => hexDigit (n / 16 ^ i))

def reprChar (quote c : Char) : String :=
  if c = quote ∨ c = '\\' then String.ofList ['\\', c]
  else if c = '\t' then "\\t"
  else if c = '\n' then "\\n"
  else if c = '\r' then "\\r"
  else if c.toNat < 32 ∨ c.toNat = 127 then "\\x" ++ hexWidth 2 c.toNat
  else if c.toNat < 127 ∨ t.printable c then String.ofList [c]
  else if c.toNat < 256 then "\\x" ++ hexWidth 2 c.toNat
  else if c.toNat < 65536 then "\\u" ++ hexWidth 4 c.toNat
  else "\\U" ++ hexWidth 8 c.toNat

/-- `repr(s)`: single quotes unless only double quotes avoid an escape. -/
def reprStr (s : String) : String :=
  let quote := if s.contains '\'' && !s.contains '"' then '"' else '\''
  String.ofList [quote] ++ String.join (s.toList.map (reprChar t quote)) ++ String.ofList [quote]

mutual

def reprValue : PyValue → String
  | .none => "None"
  | .bool b => if b then "True" else "False"
  | .int i => toString i
  | .float f => t.reprFloat f
  | .str s => reprStr t s
  | .list xs => "[" ++ ", ".intercalate (reprList xs) ++ "]"
  | .dict items => "\x7b" ++ ", ".intercalate (reprItems items) ++ "\x7d"

def reprList : List PyValue → List String
  | [] => []
  | x :: xs => reprValue x :: reprList xs

def reprItems : List (String × PyValue) → List String
  | [] => []
  | (key, x) :: items => (reprStr t key ++ ": " ++ reprValue x) :: reprItems items

end

/-- `str(v)`. -/
def strOf : PyValue → String
  | .str s => s
  | v => reprValue t v

end Texts

/-- `type(v).__name__`. -/
def typeName : PyValue → String
  | .none => "NoneType"
  | .bool _ => "bool"
  | .int _ => "int"
  | .float _ => "float"
  | .str _ => "str"
  | .list _ => "list"
  | .dict _ => "dict"

section Integers
variable (t : TextRules)

def strip (s : List Char) : List Char :=
  ((s.dropWhile t.space).reverse.dropWhile t.space).reverse

/-- Decimal digits, single underscores between them. -/
def digitsOf : List Char → Option (List Nat)
  | [] => none
  | [c] => (t.digit c).map fun d => [d]
  | c :: '_' :: rest => do
    let d ← t.digit c
    let ds ← digitsOf rest
    return d :: ds
  | c :: rest => do
    let d ← t.digit c
    let ds ← digitsOf rest
    return d :: ds

def ofDigits (ds : List Nat) : Nat := ds.foldl (fun n d => 10 * n + d) 0

/-- `sys.get_int_max_str_digits()`. -/
def maxStrDigits : Nat := 4300

def badLiteral (s : String) : PyError :=
  ⟨.valueError, s!"invalid literal for int() with base 10: {reprStr t s}"⟩

def magnitude (s : String) (body : List Char) : Except PyError Nat :=
  match digitsOf t body with
  | none => .error (badLiteral t s)
  | some ds =>
    if maxStrDigits < ds.length then .error ⟨.valueError,
      s!"Exceeds the limit ({maxStrDigits} digits) for integer string conversion: value has {ds.length} digits; use sys.set_int_max_str_digits() to increase the limit"⟩
    else .ok (ofDigits ds)

def intOfStr (s : String) : Except PyError Int :=
  match strip t s.toList with
  | '-' :: body => (magnitude t s body).map fun n => -(n : Int)
  | '+' :: body => (magnitude t s body).map fun n => (n : Int)
  | body => (magnitude t s body).map fun n => (n : Int)

def notANumber (typeName : String) : PyError :=
  ⟨.typeError,
    s!"int() argument must be a string, a bytes-like object or a real number, not '{typeName}'"⟩

/-- `int(v)`. -/
def intOf : PyValue → Except PyError Int
  | .int i => .ok i
  | .bool b => .ok (if b then 1 else 0)
  | .float (.finite q) => .ok (if 0 ≤ q then q.floor else q.ceil)
  | .float (.inf _) => .error ⟨.overflowError, "cannot convert float infinity to integer"⟩
  | .float .nan => .error ⟨.valueError, "cannot convert float NaN to integer"⟩
  | .str s => intOfStr t s
  | .none => .error (notANumber "NoneType")
  | .list _ => .error (notANumber "list")
  | .dict _ => .error (notANumber "dict")

/-- A digit of base 16. -/
def hexDigitOf (c : Char) : Option Nat :=
  match t.digit c with
  | some d => some d
  | none =>
    if 'a' ≤ c ∧ c ≤ 'f' then some (c.toNat - 87)
    else if 'A' ≤ c ∧ c ≤ 'F' then some (c.toNat - 55)
    else none

/-- The digits behind `0x` and at most one underscore, where they are there. -/
def afterHexPrefix : List Char → List Char
  | zero :: 'x' :: rest => if t.digit zero = some 0 then afterMark rest else zero :: 'x' :: rest
  | zero :: 'X' :: rest => if t.digit zero = some 0 then afterMark rest else zero :: 'X' :: rest
  | body => body
where
  afterMark : List Char → List Char
    | '_' :: rest => rest
    | rest => rest

def hexMagnitude (s : String) (body : List Char) : Except PyError Nat :=
  match digitsOf { t with digit := hexDigitOf t } (afterHexPrefix t body) with
  | none => .error ⟨.valueError, s!"invalid literal for int() with base 16: {reprStr t s}"⟩
  | some ds => .ok (ds.foldl (fun n d => 16 * n + d) 0)

/-- `int(s, 16)`, for which there is no limit on the digits. -/
def intOfHex (s : String) : Except PyError Int :=
  match strip t s.toList with
  | '-' :: body => (hexMagnitude t s body).map fun n => -(n : Int)
  | '+' :: body => (hexMagnitude t s body).map fun n => (n : Int)
  | body => (hexMagnitude t s body).map fun n => (n : Int)

/-- An exception that `except (ValueError, TypeError)` takes. -/
def isConversionError (e : PyError) : Bool := e.kind = .valueError || e.kind = .typeError

end Integers

section Comparisons

/-- The number a value is compared as. -/
def numberOf : PyValue → Option PyFloat
  | .int i => some (.finite i)
  | .bool b => some (.finite (if b then 1 else 0))
  | .float f => some f
  | _ => none

mutual

/-- `a == b`, with numbers of all types compared by value. -/
def valuesEqual : PyValue → PyValue → Bool
  | .none, .none => true
  | .str s, .str s' => s = s'
  | .list xs, .list ys => listsEqual xs ys
  | .dict items, .dict items' => items.length = items'.length && itemsEqual items items'
  | a, b =>
    match numberOf a, numberOf b with
    | some f, some g => f = g && f ≠ .nan
    | _, _ => false

def listsEqual : List PyValue → List PyValue → Bool
  | [], [] => true
  | x :: xs, y :: ys => valuesEqual x y && listsEqual xs ys
  | _, _ => false

def itemsEqual : List (String × PyValue) → List (String × PyValue) → Bool
  | [], _ => true
  | (key, x) :: items, items' =>
    (match items'.lookup key with
      | some y => valuesEqual x y
      | none => false) && itemsEqual items items'

end

/-- `hash(v)` of a value that is put into a set or looked up in one. -/
def hashable : PyValue → Except PyError Unit
  | .list _ => .error ⟨.typeError, "unhashable type: 'list'"⟩
  | .dict _ => .error ⟨.typeError, "unhashable type: 'dict'"⟩
  | _ => .ok ()

def notIterable (typeName : String) : PyError :=
  ⟨.typeError, s!"'{typeName}' object is not iterable"⟩

/-- `set(v or [])`, its elements in the order they came. -/
def setOfValue (v : PyValue) : Except PyError (List PyValue) :=
  if truthy v then
    match v with
    | .list xs => do
      for x in xs do hashable x
      return xs
    | .str s => .ok (s.toList.map fun c => .str (String.singleton c))
    | .dict items => .ok (items.map fun item => .str item.1)
    | .none => .error (notIterable "NoneType")
    | .bool _ => .error (notIterable "bool")
    | .int _ => .error (notIterable "int")
    | .float _ => .error (notIterable "float")
  else .ok []

/-- `v in set`. -/
def inSet (v : PyValue) (set : List PyValue) : Except PyError Bool := do
  hashable v
  return set.any (valuesEqual v)

end Comparisons

/-- The rules on ASCII text, which is all that most inputs hold. -/
def asciiRules (reprFloat : PyFloat → String) : TextRules where
  reprFloat := reprFloat
  printable _ := false
  space c := c = ' ' || (9 ≤ c.toNat && c.toNat ≤ 13) || (28 ≤ c.toNat && c.toNat ≤ 31)
  digit c := if c.isDigit then some (c.toNat - 48) else none
  lower s := s.map Char.toLower

example : intOf (asciiRules fun _ => "") (.str " -1_000\n") = .ok (-1000) := by decide

example : intOfHex (asciiRules fun _ => "") "0x5208" = .ok 21000 := by decide

end PythonConversions
