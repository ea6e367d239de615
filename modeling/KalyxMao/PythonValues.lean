import KalyxMao.PythonText
import Mathlib.Data.Rat.Defs

/-!
# Untyped parameter values and their canonical text

Parameters and provider responses are JSON values. Their canonical text sorts
the keys, drops optional blanks and escapes everything outside printable ASCII.
How a float is printed is left to an argument, the only part of the text that
depends on the number format.
-/

namespace PythonValues

inductive PyFloat where
  | finite (q : Rat)
  | inf (negative : Bool)
  | nan
  deriving DecidableEq

/-- `f < g`, false wherever a NaN takes part. -/
def PyFloat.lt : PyFloat → PyFloat → Bool
  | .finite p, .finite q => p < q
  | .finite _, .inf negative => !negative
  | .inf negative, .finite _ => negative
  | .inf negative, .inf negative' => negative && !negative'
  | _, _ => false

theorem PyFloat.lt_irrefl (f : PyFloat) : f.lt f = false := by
  cases f with
  | finite q => simp [PyFloat.lt]
  | inf negative => cases negative <;> rfl
  | nan => rfl

inductive PyValue where
  | none
  | bool (b : Bool)
  | int (i : Int)
  | float (f : PyFloat)
  | str (s : String)
  | list (xs : List PyValue)
  | dict (items : List (String × PyValue))

/-- `params.get(key)`, a missing key and a stored `None` both giving `none`. -/
def get (items : List (String × PyValue)) (key : String) : PyValue :=
  (items.lookup key).getD .none

def getD (items : List (String × PyValue)) (key : String) (fallback : PyValue) : PyValue :=
  (items.lookup key).getD fallback

def hasKey (items : List (String × PyValue)) (key : String) : Bool :=
  (items.lookup key).isSome

def hexDigit (n : Nat) : Char := Nat.digitChar (n % 16)

def hexFour (n : Nat) : String :=
  String.ofList [hexDigit (n / 4096), hexDigit (n / 256), hexDigit (n / 16), hexDigit n]

/-- One character of a JSON string with `ensure_ascii`. Code points beyond the
basic plane are written as two surrogates. -/
def escapeChar (c : Char) : String :=
  if c = '"' then "\\\""
  else if c = '\\' then "\\\\"
  else if c = '\n' then "\\n"
  else if c = '\r' then "\\r"
  else if c = '\t' then "\\t"
  else if c.toNat = 8 then "\\b"
  else if c.toNat = 12 then "\\f"
  else if 32 ≤ c.toNat ∧ c.toNat ≤ 126 then String.ofList [c]
  else if c.toNat < 65536 then "\\u" ++ hexFour c.toNat
  else
    let rest := c.toNat - 65536
    "\\u" ++ hexFour (55296 + rest / 1024) ++ "\\u" ++ hexFour (56320 + rest % 1024)

def quoteJson (s : String) : String :=
  "\"" ++ String.join (s.toList.map escapeChar) ++ "\""

def braced (start : Char) (items : List String) (stop : Char) : String :=
  String.ofList [start] ++ ",".intercalate items ++ String.ofList [stop]

mutual

/-- `json.dumps(data, sort_keys=True, separators=(",", ":"))`. -/
def canonicalJson (reprFloat : PyFloat → String) : PyValue → String
  | .none => "null"
  | .bool b => if b then "true" else "false"
  | .int i => toString i
  | .float f => reprFloat f
  | .str s => quoteJson s
  | .list xs => braced '[' (canonicalList reprFloat xs) ']'
  | .dict items => braced (Char.ofNat 123) (((canonicalItems reprFloat items).mergeSort
      fun a b => a.1 ≤ b.1).map Prod.snd) (Char.ofNat 125)

def canonicalList (reprFloat : PyFloat → String) : List PyValue → List String
  | [] => []
  | x :: xs => canonicalJson reprFloat x :: canonicalList reprFloat xs

/-- Each item as its key and its text. -/
def canonicalItems (reprFloat : PyFloat → String) :
    List (String × PyValue) → List (String × String)
  | [] => []
  | (key, x) :: items =>
    (key, quoteJson key ++ ":" ++ canonicalJson reprFloat x) :: canonicalItems reprFloat items

end

example : canonicalJson (fun _ => "") (.dict [("b", .list [.int 2, .none]), ("a", .str "x\"y")]) =
    "\x7b\"a\":\"x\\\"y\",\"b\":[2,null]\x7d" := by
  simp [canonicalJson, canonicalItems, canonicalList, List.mergeSort]
  decide

end PythonValues
