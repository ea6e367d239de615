import Mathlib.Data.List.Basic

/-!
# Reading a script of statements

A scanner goes over a text character by character and finishes tokens on the
way. Statements are what stands between terminators. The rules are those of SQL
outside literals and comments: blanks end a token, two dashes start a comment
that ends with its line, and a semicolon is a token by itself.
-/

namespace StatementScanning
open List

universe u v

/-- A reader of texts: a state for what has been begun, and the tokens that are finished. -/
structure Scanner (σ : Type u) (T : Type v) where
  start : σ
  read : σ → Char → σ × List T
  close : σ → List T

namespace Scanner
variable {σ : Type u} {T : Type v} (g : Scanner σ T)

def run : σ → List Char → σ × List T
  | s, [] => (s, [])
  | s, c :: cs => ((run (g.read s c).1 cs).1, (g.read s c).2 ++ (run (g.read s c).1 cs).2)

def tokens (text : List Char) : List T :=
  (g.run g.start text).2 ++ g.close (g.run g.start text).1

theorem run_append (s : σ) (a b : List Char) : g.run s (a ++ b) =
    ((g.run (g.run s a).1 b).1, (g.run s a).2 ++ (g.run (g.run s a).1 b).2) := by
  induction a generalizing s with
  | nil => rfl
  | cons c a ih => rw [cons_append, run, ih, run, append_assoc]

theorem run_single (s : σ) (c : Char) : g.run s [c] = g.read s c := by
  rw [run, run, append_nil]

end Scanner

/-- What separates tokens. -/
def blanks : List Char := [' ', '\t', '\n', '\r', '\x0c']

/-- A scanner with the lexical rules of SQL. A state is outside where no literal and no comment
has been begun; what happens inside them is left to the scanner. -/
structure SqlScanner (σ : Type u) (T : Type v) extends Scanner σ T where
  outside : σ → Prop
  terminator : T
  start_outside : outside start
  close_start : close start = []
  read_blank : ∀ s c, outside s → c ∈ blanks → read s c = (start, close s)
  read_semicolon : ∀ s, outside s → read s ';' = (start, close s ++ [terminator])
  run_comment : ∀ body, '\n' ∉ body → ∃ s, toScanner.run start ('-' :: '-' :: body) = (s, []) ∧
    read s '\n' = (start, [])
  /-- Blanks behind which a text is outside again end what was begun before them. -/
  run_blanks : ∀ s w, w ≠ [] → (∀ c ∈ w, c ∈ blanks) → outside (toScanner.run s w).1 →
    toScanner.run s w = (start, close s)

namespace SqlScanner
variable {σ : Type u} {T : Type v} (g : SqlScanner σ T)

/-- Blanks in front of a text are not read. -/
theorem run_margin {w : List Char} (blank : ∀ c ∈ w, c ∈ blanks) : g.run g.start w = (g.start, []) := by
  induction w with
  | nil => rfl
  | cons c w ih =>
    rw [Scanner.run, g.read_blank _ c g.start_outside (blank c mem_cons_self), g.close_start,
      ih fun d mem => blank d (mem_cons_of_mem c mem)]
    rfl

/-- A line that is a comment leaves nothing behind. -/
theorem run_comment_line {w body : List Char} (blank : ∀ c ∈ w, c ∈ blanks) (line : '\n' ∉ body) :
    g.run g.start (w ++ '-' :: '-' :: body ++ ['\n']) = (g.start, []) := by
  obtain ⟨s, read, back⟩ := g.run_comment body line
  rw [append_assoc, g.run_append, g.run_margin blank, g.run_append, read, g.run_single, back]
  rfl

/-- A text up to a terminator, with blanks around it. -/
theorem run_ended {w text z : List Char} (front : ∀ c ∈ w, c ∈ blanks)
    (outside : g.outside (g.run g.start text).1) (back : ∀ c ∈ z, c ∈ blanks) :
    g.run g.start (w ++ (text ++ [';']) ++ z) = (g.start, g.tokens text ++ [g.terminator]) := by
  rw [append_assoc, g.run_append, g.run_margin front, g.run_append, g.run_append, g.run_single,
    g.read_semicolon _ outside]
  dsimp only
  rw [g.run_margin back, append_nil, nil_append, Scanner.tokens, append_assoc]

/-- A text with blanks around it that ends outside. -/
theorem run_closed {w text z : List Char} (front : ∀ c ∈ w, c ∈ blanks) (some_ : z ≠ [])
    (back : ∀ c ∈ z, c ∈ blanks) (outside : g.outside (g.run g.start (w ++ text ++ z)).1) :
    g.run g.start (w ++ text ++ z) = (g.start, g.tokens text) := by
  rw [append_assoc, g.run_append, g.run_margin front, g.run_append] at outside ⊢
  rw [g.run_blanks _ z some_ back outside, nil_append]
  rfl

/-- A line break at the end of a text adds nothing. -/
theorem tokens_line {text : List Char} (outside : g.outside (g.run g.start (text ++ ['\n'])).1) :
    g.run g.start (text ++ ['\n']) = (g.start, g.tokens text) := by
  refine g.run_closed (w := []) (fun c mem => ?_) (cons_ne_nil _ _) (fun c mem => ?_) outside
  · cases mem
  · rw [mem_singleton.mp mem]
    decide

section Statements
variable [DecidableEq T]

/-- The statements of a sequence of tokens. Nothing between two terminators is no statement. -/
def cut (tokens : List T) : List (List T) := (tokens.splitOn g.terminator).filter (· ≠ [])

def statements (text : List Char) : List (List T) := g.cut (g.tokens text)

@[simp] theorem cut_nil : g.cut [] = [] := by
  rw [cut, splitOn_nil]
  rfl

/-- A terminator separates what is before it from what is behind it. -/
theorem cut_append (before behind : List T) :
    g.cut (before ++ [g.terminator] ++ behind) = g.cut before ++ g.cut behind := by
  rw [cut, append_assoc, singleton_append, splitOn_append_cons_self, filter_append]
  rfl

theorem cut_ended (before : List T) : g.cut (before ++ [g.terminator]) = g.cut before := by
  have ended := g.cut_append before []
  rwa [append_nil, cut_nil, append_nil] at ended

end Statements

end SqlScanner

end StatementScanning
