import Mathlib.Data.List.Infix

/-!
# Exceptions and the string operations the engine relies on

Strings are compared and searched as sequences of code points, as Python does.
An exception keeps its class and its message, since some callers decide by the
text of the message.
-/

namespace PythonText

inductive ErrorKind where
  | valueError
  | typeError
  | overflowError
  | indexError
  | permissionError
  | runtimeError
  | validationError
  | integrityError
  | insufficientCreditsError
  | invalidStateTransitionError
  | policyViolationError
  | unauthorizedActionError
  | externalExecutionError
  | reconciliationError
  | idempotencyConflict
  | tokenAlreadyConsumed
  | otherException
  deriving DecidableEq, Repr

structure PyError where
  kind : ErrorKind
  message : String
  deriving DecidableEq, Repr

theorem bind_ok {ε α β : Type} {x : Except ε α} {f : α → Except ε β} {b : β} :
    (x >>= f) = .ok b ↔ ∃ a, x = .ok a ∧ f a = .ok b := by
  cases x with
  | ok a =>
    constructor
    · intro h
      exact ⟨a, rfl, h⟩
    · rintro ⟨c, same, h⟩
      rw [Except.ok.inj same]
      exact h
  | error e =>
    constructor
    · intro h
      cases h
    · rintro ⟨_, h, _⟩
      cases h

/-- `needle in haystack` for strings. -/
def isIn (needle haystack : String) : Bool :=
  decide (needle.toList <:+: haystack.toList)

theorem isIn_iff {needle haystack : String} :
    isIn needle haystack = true ↔ needle.toList <:+: haystack.toList := by
  simp [isIn]

theorem isIn_append_right (start needle : String) : isIn needle (start ++ needle) = true := by
  rw [isIn_iff, String.toList_append]
  exact (List.suffix_append _ _).isInfix

def startsWith (s start : String) : Bool := start.toList.isPrefixOf s.toList

theorem startsWith_iff {s start : String} :
    startsWith s start = true ↔ start.toList <+: s.toList := by
  rw [startsWith, List.isPrefixOf_iff_prefix]

theorem startsWith_append (start rest : String) : startsWith (start ++ rest) start = true := by
  rw [startsWith_iff, String.toList_append]
  exact List.prefix_append _ _

/-- A single character is searched for like an element. -/
theorem isIn_singleton (c : Char) (s : String) : isIn (String.singleton c) s = true ↔ c ∈ s.toList := by
  rw [isIn_iff, String.toList_singleton, List.singleton_infix_iff]

def removePrefix (s start : String) : String :=
  if startsWith s start then String.ofList (s.toList.drop start.toList.length) else s

/-- `value or fallback` where the value is an optional string: both `None` and
the empty string give way. -/
def orElse (value : Option String) (fallback : String) : String :=
  match value with
  | none => fallback
  | some s => if s = "" then fallback else s

@[simp] theorem orElse_none (fallback : String) : orElse none fallback = fallback := rfl

theorem orElse_some {s : String} (h : s ≠ "") (fallback : String) :
    orElse (some s) fallback = s :=
  if_neg h

-- a quantifier over the characters of a text is decided along the text, not over all characters
instance (priority := 1100) forallChars (P : Char → Prop) [DecidablePred P] (l : List Char) :
    Decidable (∀ c, c ∈ l → P c) := List.decidableBAll P l

instance (priority := 1100) existsChars (P : Char → Prop) [DecidablePred P] (l : List Char) :
    Decidable (∃ c, c ∈ l ∧ P c) := List.decidableBEx P l

/-- The characters of `hexdigest()`. -/
def IsHexDigit (c : Char) : Prop := c ∈ "0123456789abcdef".toList

instance (c : Char) : Decidable (IsHexDigit c) := inferInstanceAs (Decidable (_ ∈ _))

/-- A separator that occurs in neither of two pieces fixes where they meet. -/
theorem append_cons_inj {α : Type*} {x : α} {a b c d : List α} (ha : x ∉ a) (hb : x ∉ b)
    (h : a ++ x :: b = c ++ x :: d) : a = c ∧ b = d := by
  rcases List.append_eq_append_iff.mp h with ⟨m, rfl, hm⟩ | ⟨m, rfl, hm⟩
  · cases m with
    | nil => exact ⟨by simp, by simpa using hm⟩
    | cons y m =>
      have hx : x ∈ b := by
        have : b = m ++ x :: d := by simpa using (List.cons.inj hm).2
        simp [this]
      exact absurd hx hb
  · cases m with
    | nil => exact ⟨by simp, by simpa using hm.symm⟩
    | cons y m =>
      have hy : x = y := (List.cons.inj hm).1
      exact absurd (by simp [hy]) ha

/-- The first separator of a list fixes what stands around it. -/
theorem append_cons_inj_first {α : Type*} {x : α} {a b c d : List α} (ha : x ∉ a) (hc : x ∉ c)
    (h : a ++ x :: b = c ++ x :: d) : a = c ∧ b = d := by
  rcases List.append_eq_append_iff.mp h with ⟨m, rfl, hm⟩ | ⟨m, rfl, hm⟩
  · cases m with
    | nil => exact ⟨by simp, by simpa using hm⟩
    | cons y m =>
      have hx : x = y := (List.cons.inj hm).1
      exact absurd (by simp [hx]) hc
  · cases m with
    | nil => exact ⟨by simp, by simpa using hm.symm⟩
    | cons y m =>
      have hx : x = y := (List.cons.inj hm).1
      exact absurd (by simp [hx]) ha

/-- A text is longer than what stands before a separator in it. -/
theorem ofList_ne_of_split {s : String} {x : Char} {a b : List Char} (split : s.toList = a ++ x :: b) :
    s ≠ String.ofList a := by
  intro same
  have lengths := congrArg List.length ((congrArg String.toList same).symm.trans split)
  rw [String.toList_ofList] at lengths
  simp at lengths

/-- The last separator of a list fixes what stands before it. -/
theorem append_cons_inj_last {α : Type*} {x : α} {a b c d : List α} (hb : x ∉ b) (hd : x ∉ d)
    (h : a ++ x :: b = c ++ x :: d) : a = c ∧ b = d := by
  have reversed : b.reverse ++ x :: a.reverse = d.reverse ++ x :: c.reverse := by
    simpa using congrArg List.reverse h
  rcases List.append_eq_append_iff.mp reversed with ⟨m, hm, tail⟩ | ⟨m, hm, tail⟩
  · cases m with
    | nil => exact ⟨by simpa using tail, by simpa using hm.symm⟩
    | cons y m =>
      have hx : x = y := (List.cons.inj tail).1
      exact absurd (List.mem_reverse.mp (by simp [hm, hx])) hd
  · cases m with
    | nil => exact ⟨by simpa using tail.symm, by simpa using hm⟩
    | cons y m =>
      have hx : x = y := (List.cons.inj tail).1
      exact absurd (List.mem_reverse.mp (by simp [hm, hx])) hb

/-- Two texts that differ within their fixed beginnings are different. -/
theorem ne_of_starts {s t : String} (u v : String) (n : Nat) (hs : n ≤ s.toList.length)
    (ht : n ≤ t.toList.length) (differ : s.toList.take n ≠ t.toList.take n) :
    s ++ u ≠ t ++ v := by
  intro e
  apply differ
  have := congrArg (fun x : String => x.toList.take n) e
  simpa only [String.toList_append, List.take_append_of_le_length hs,
    List.take_append_of_le_length ht] using this

theorem append_ne_empty {s : String} (u : String) (hs : s.toList ≠ []) : s ++ u ≠ "" := by
  intro e
  have lists := congrArg String.toList e
  rw [String.toList_append] at lists
  exact hs (List.append_eq_nil_iff.mp lists).1

end PythonText
