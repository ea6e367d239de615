import KalyxMao.PythonConversions
import KalyxMao.StatementScanning
import Mathlib.Data.List.TakeWhile

/-!
# Scripts of SQL statements, run line by line

`_execute_script` cuts a script at lines that end in a semicolon and drops lines
that begin with two dashes. It does not read the SQL, so that a line is cut or
dropped also inside a literal.
-/

namespace SqlScripts
open PythonConversions StatementScanning List

universe u v

/-- The line boundaries of `str.splitlines`. -/
def lineBreaks : List Char :=
  ['\n', '\x0b', '\x0c', '\r', '\x1c', '\x1d', '\x1e', '\u0085', '\u2028', '\u2029']

def splitlines : List Char → List (List Char)
  | [] => []
  | '\r' :: '\n' :: rest => [] :: splitlines rest
  | c :: rest =>
    if c ∈ lineBreaks then [] :: splitlines rest
    else
      match splitlines rest with
      | [] => [[c]]
      | line :: lines => (c :: line) :: lines

def joinLines (lines : List (List Char)) : List Char := ['\n'].intercalate lines

section Splitter
variable (t : TextRules)

def isComment (line : List Char) : Bool := ['-', '-'].isPrefixOf (strip t line)

def isEnded (line : List Char) : Bool := (strip t line).getLast? = some ';'

/-- The loop over the lines, with those since the last cut in `buf`. -/
def pieces : List (List Char) → List (List Char) → List (List Char)
  | buf, [] =>
    if buf = [] then []
    else if strip t (joinLines buf) = [] then []
    else [strip t (joinLines buf)]
  | buf, line :: lines =>
    if isComment t line then pieces buf lines
    else if isEnded t line then strip t (joinLines (buf ++ [line])) :: pieces [] lines
    else pieces (buf ++ [line]) lines

/-- The statements that `_execute_script` executes. -/
def executed (sql : List Char) : List (List Char) :=
  (pieces t [] (splitlines sql)).filter fun stmt => stmt ≠ [] ∧ stmt ≠ [';']

end Splitter

section Condition
variable {σ : Type u} {T : Type v} (g : SqlScanner σ T) (t : TextRules)

/-- What `str.strip` takes away. -/
def margin (text : List Char) : List Char :=
  text.takeWhile t.space ++ (text.dropWhile t.space).reverse.takeWhile t.space

/-- Line boundaries other than a line feed are blanks between tokens. -/
def Breaks : σ → List Char → Prop
  | _, [] => True
  | s, c :: cs => (c ∈ lineBreaks → c = '\n' ∨ c ∈ blanks ∧ g.outside s) ∧ Breaks (g.read s c).1 cs

/-- Where a line is dropped no literal and no comment is open, where a piece is cut none is open
before the semicolon, and none is open at the end; what is stripped is blank. -/
def Readable : List (List Char) → List (List Char) → Prop
  | buf, [] => g.outside (g.run g.start (buf.flatMap (· ++ ['\n']))).1 ∧
      ∀ c ∈ margin t (joinLines buf), c ∈ blanks
  | buf, line :: lines =>
    if isComment t line then
      g.outside (g.run g.start (buf.flatMap (· ++ ['\n']))).1 ∧
        (∀ c ∈ line.takeWhile t.space, c ∈ blanks) ∧ Readable buf lines
    else if isEnded t line then
      g.outside (g.run g.start (strip t (joinLines (buf ++ [line]))).dropLast).1 ∧
        (∀ c ∈ margin t (joinLines (buf ++ [line])), c ∈ blanks) ∧ Readable [] lines
    else Readable (buf ++ [line]) lines

/-- A script that can be cut by its lines. -/
structure LineCut (sql : List Char) : Prop where
  breaks : Breaks g g.start sql
  readable : Readable g t [] (splitlines sql)

end Condition

section Lines
variable {t : TextRules}

theorem joinLines_append (buf : List (List Char)) (line : List Char) :
    joinLines (buf ++ [line]) = buf.flatMap (· ++ ['\n']) ++ line := by
  induction buf with
  | nil => exact intercalate_singleton
  | cons first buf ih =>
    unfold joinLines at ih ⊢
    rw [cons_append, intercalate_cons_of_ne_nil (append_ne_nil_of_right_ne_nil buf (cons_ne_nil line [])), ih,
      flatMap_cons, append_assoc, append_assoc, append_assoc]

/-- Lines that are ended, and lines that are joined. -/
theorem flatMap_lines {buf : List (List Char)} (some_ : buf ≠ []) :
    buf.flatMap (· ++ ['\n']) = joinLines buf ++ ['\n'] := by
  rw [← dropLast_append_getLast some_, joinLines_append, flatMap_append, flatMap_singleton, append_assoc]

theorem strip_margin (text : List Char) :
    text = text.takeWhile t.space ++ strip t text ++
      ((text.dropWhile t.space).reverse.takeWhile t.space).reverse := by
  unfold strip
  rw [append_assoc, ← reverse_append, takeWhile_append_dropWhile, reverse_reverse,
    takeWhile_append_dropWhile]

theorem comment_line {line : List Char} (comment : isComment t line = true) :
    ∃ body, line = line.takeWhile t.space ++ '-' :: '-' :: body ∧ ∀ c ∈ body, c ∈ line := by
  obtain ⟨rest, dashes⟩ := isPrefixOf_iff_prefix.mp comment
  have whole := strip_margin (t := t) line
  rw [← dashes, append_assoc, append_assoc] at whole
  refine ⟨_, whole, fun c mem => ?_⟩
  rw [whole]
  exact mem_append_right _ (mem_append_right _ mem)

/-- A text that ends in a line with a semicolon at its end has one at its own. -/
theorem strip_ended {line : List Char} (front : List Char) (ended : isEnded t line = true) :
    strip t (front ++ line) = (strip t (front ++ line)).dropLast ++ [';'] := by
  have last : (strip t line).getLast? = some ';' := of_decide_eq_true ended
  have solid : t.space ';' = false := by
    unfold strip at last
    rw [getLast?_reverse] at last
    have head := head?_dropWhile_not t.space (line.dropWhile t.space).reverse
    rw [last] at head
    exact head
  obtain ⟨core, core_eq⟩ := getLast?_eq_some_iff.mp last
  -- the semicolon stops what is dropped from either side
  have stopped (x w : List Char) (blank : ∀ c ∈ w, t.space c = true) :
      ∃ y, strip t (x ++ ';' :: w) = y ++ [';'] := by
    obtain ⟨y, kept⟩ : ∃ y, (x ++ ';' :: w).dropWhile t.space = y ++ ';' :: w := by
      rw [dropWhile_append]
      split
      · exact ⟨[], dropWhile_cons_of_neg (ne_true_of_eq_false solid)⟩
      · exact ⟨_, rfl⟩
    refine ⟨y, ?_⟩
    unfold strip
    rw [kept, reverse_append, reverse_cons, append_assoc, dropWhile_append_of_pos, singleton_append,
      dropWhile_cons_of_neg (ne_true_of_eq_false solid), reverse_cons, reverse_reverse]
    intro c mem
    exact blank c (mem_reverse.mp mem)
  have whole := strip_margin (t := t) line
  rw [core_eq, ← append_assoc, append_assoc, singleton_append] at whole
  obtain ⟨y, stripped⟩ := stopped (front ++ (line.takeWhile t.space ++ core)) _ fun c mem =>
    mem_takeWhile_imp (mem_reverse.mp mem)
  rw [append_assoc, ← whole] at stripped
  rw [stripped, dropLast_concat]

theorem splitlines_eq_nil {text : List Char} (none_ : splitlines text = []) : text = [] := by
  cases text with
  | nil => rfl
  | cons c rest =>
    unfold splitlines at none_
    split at none_
    · assumption
    · cases none_
    · split at none_
      · cases none_
      · split at none_
        · cases none_
        · cases none_

theorem splitlines_line (text : List Char) : ∀ line ∈ splitlines text, '\n' ∉ line := by
  induction text using splitlines.induct with
  | case1 => exact fun line mem => absurd mem not_mem_nil
  | case2 rest ih =>
    rw [splitlines]
    intro line mem
    rcases mem_cons.mp mem with rfl | later
    · exact not_mem_nil
    · exact ih line later
  | case3 c rest single boundary ih =>
    rw [splitlines.eq_3 _ _ single, if_pos boundary]
    intro line mem
    rcases mem_cons.mp mem with rfl | later
    · exact not_mem_nil
    · exact ih line later
  | case4 c rest single inner none_ ih =>
    rw [splitlines.eq_3 _ _ single, if_neg inner, none_]
    intro line mem
    rw [mem_singleton.mp mem]
    rintro (_ | ⟨_, ⟨⟩⟩)
    exact inner (by decide)
  | case5 c rest single inner line lines cut ih =>
    rw [splitlines.eq_3 _ _ single, if_neg inner, cut]
    rw [cut] at ih
    intro line' mem
    rcases mem_cons.mp mem with rfl | later
    · rintro (_ | ⟨_, inside⟩)
      · exact inner (by decide)
      · exact ih line mem_cons_self inside
    · exact ih line' (mem_cons_of_mem line later)

end Lines

section Statements
variable {σ : Type u} {T : Type v} {g : SqlScanner σ T} {t : TextRules}

/-- The lines of a script with a line feed behind each read as the script, up to a line feed at
the end. -/
theorem run_splitlines {s : σ} {text : List Char} (breaks : Breaks g s text) :
    g.run s ((splitlines text).flatMap (· ++ ['\n'])) = g.run s text ∨
    g.run s ((splitlines text).flatMap (· ++ ['\n'])) = g.run s (text ++ ['\n']) := by
  induction text using splitlines.induct generalizing s with
  | case1 => exact .inl rfl
  | case2 rest ih =>
    obtain ⟨return_, -, later⟩ := breaks
    obtain ⟨-, outside⟩ := (return_ (by decide)).resolve_left (by decide)
    have returned : g.read s '\r' = (g.start, g.close s) := g.read_blank s _ outside (by decide)
    have fed : g.read s '\n' = (g.start, g.close s) := g.read_blank s _ outside (by decide)
    have blank : g.read g.start '\n' = (g.start, []) := by
      rw [g.read_blank _ _ g.start_outside (by decide), g.close_start]
    rw [returned, blank] at later
    have both (cs : List Char) : g.run s ('\r' :: '\n' :: cs) = g.run s ('\n' :: cs) := by
      rw [Scanner.run, Scanner.run, Scanner.run, returned, fed, blank, nil_append]
    rw [splitlines, flatMap_cons, nil_append, singleton_append, cons_append, cons_append, both, both]
    rcases ih later with same | same
    · left
      rw [Scanner.run, Scanner.run, fed, same]
    · right
      rw [Scanner.run, Scanner.run, fed, same]
  | case3 c rest single boundary ih =>
    obtain ⟨here, later⟩ := breaks
    have fed : g.read s '\n' = g.read s c := by
      rcases here boundary with rfl | ⟨blank, outside⟩
      · rfl
      · rw [g.read_blank s c outside blank, g.read_blank s '\n' outside (by decide)]
    rw [splitlines.eq_3 _ _ single, if_pos boundary, flatMap_cons, nil_append, singleton_append,
      cons_append]
    rcases ih later with same | same
    · left
      rw [Scanner.run, Scanner.run, fed, same]
    · right
      rw [Scanner.run, Scanner.run, fed, same]
  | case4 c rest single inner none_ ih =>
    rw [splitlines.eq_3 _ _ single, if_neg inner, none_, splitlines_eq_nil none_]
    exact .inr rfl
  | case5 c rest single inner line lines cut ih =>
    obtain ⟨-, later⟩ := breaks
    rw [splitlines.eq_3 _ _ single, if_neg inner, cut, flatMap_cons, cons_append, cons_append,
      cons_append]
    have split : (splitlines rest).flatMap (· ++ ['\n']) = line ++ ['\n'] ++ lines.flatMap (· ++ ['\n']) := by
      rw [cut, flatMap_cons]
    rw [split] at ih
    rcases ih later with same | same
    · left
      rw [Scanner.run, Scanner.run, same]
    · right
      rw [Scanner.run, Scanner.run, same]

theorem breaks_of_plain {text : List Char} (plain : ∀ c ∈ text, c ∈ lineBreaks → c = '\n') (s : σ) :
    Breaks g s text := by
  induction text generalizing s with
  | nil => trivial
  | cons c text ih =>
    exact ⟨fun boundary => .inl (plain c mem_cons_self boundary),
      ih (fun d mem => plain d (mem_cons_of_mem c mem)) _⟩

theorem margin_front {text : List Char} (blank : ∀ c ∈ margin t text, c ∈ blanks) :
    ∀ c ∈ text.takeWhile t.space, c ∈ blanks :=
  fun c mem => blank c (mem_append_left _ mem)

/-- What is behind the stripped text, with the line feed. -/
theorem margin_back {text : List Char} (blank : ∀ c ∈ margin t text, c ∈ blanks) :
    ∀ c ∈ ((text.dropWhile t.space).reverse.takeWhile t.space).reverse ++ ['\n'], c ∈ blanks := by
  intro c mem
  rcases mem_append.mp mem with inside | last
  · exact blank c (mem_append_right _ (mem_reverse.mp inside))
  · rw [mem_singleton.mp last]
    decide

/-- Lines that end outside leave nothing begun. -/
theorem lines_start {buf : List (List Char)}
    (outside : g.outside (g.run g.start (buf.flatMap (· ++ ['\n']))).1) :
    (g.run g.start (buf.flatMap (· ++ ['\n']))).1 = g.start := by
  by_cases empty : buf = []
  · rw [empty]
    rfl
  · rw [flatMap_lines empty] at outside ⊢
    rw [g.tokens_line outside]

/-- The last piece, stripped, is read as its lines are. -/
theorem run_tail {buf : List (List Char)} (some_ : buf ≠ [])
    (outside : g.outside (g.run g.start (buf.flatMap (· ++ ['\n']))).1)
    (blank : ∀ c ∈ margin t (joinLines buf), c ∈ blanks) :
    g.run g.start (buf.flatMap (· ++ ['\n'])) = (g.start, g.tokens (strip t (joinLines buf))) := by
  have whole : buf.flatMap (· ++ ['\n']) = (joinLines buf).takeWhile t.space ++ strip t (joinLines buf) ++
      ((((joinLines buf).dropWhile t.space).reverse.takeWhile t.space).reverse ++ ['\n']) := by
    rw [flatMap_lines some_, ← append_assoc, ← strip_margin]
  rw [whole] at outside ⊢
  exact g.run_closed (margin_front blank) (append_ne_nil_of_right_ne_nil _ (cons_ne_nil _ _))
    (margin_back blank) outside

/-- A piece that is cut, stripped, is read as its lines are. -/
theorem run_piece {buf : List (List Char)} {line : List Char} (ended : isEnded t line = true)
    (outside : g.outside (g.run g.start (strip t (joinLines (buf ++ [line]))).dropLast).1)
    (blank : ∀ c ∈ margin t (joinLines (buf ++ [line])), c ∈ blanks) :
    g.run g.start ((buf ++ [line]).flatMap (· ++ ['\n'])) =
      (g.start, g.tokens (strip t (joinLines (buf ++ [line]))).dropLast ++ [g.terminator]) ∧
    g.tokens (strip t (joinLines (buf ++ [line]))) =
      g.tokens (strip t (joinLines (buf ++ [line]))).dropLast ++ [g.terminator] := by
  have some_ : buf ++ [line] ≠ [] := append_ne_nil_of_right_ne_nil buf (cons_ne_nil line [])
  have semicolon : strip t (joinLines (buf ++ [line])) =
      (strip t (joinLines (buf ++ [line]))).dropLast ++ [';'] := by
    rw [joinLines_append]
    exact strip_ended _ ended
  constructor
  · have whole : (buf ++ [line]).flatMap (· ++ ['\n']) =
        (joinLines (buf ++ [line])).takeWhile t.space ++
          ((strip t (joinLines (buf ++ [line]))).dropLast ++ [';']) ++
            ((((joinLines (buf ++ [line])).dropWhile t.space).reverse.takeWhile t.space).reverse ++
              ['\n']) := by
      rw [← semicolon, flatMap_lines some_, ← append_assoc, ← strip_margin]
    rw [whole]
    exact g.run_ended (margin_front blank) outside (margin_back blank)
  · have alone := g.run_ended (w := []) (z := []) (fun c mem => absurd mem not_mem_nil) outside
      fun c mem => absurd mem not_mem_nil
    rw [nil_append, append_nil, ← semicolon] at alone
    rw [Scanner.tokens, alone]
    dsimp only
    rw [g.close_start, append_nil]

variable [DecidableEq T]

/-- From a buffer on, the pieces hold the statements that the scanner reads. -/
theorem pieces_statements {buf lines : List (List Char)} (plain : ∀ line ∈ lines, '\n' ∉ line)
    (readable : Readable g t buf lines) :
    (g.run (g.run g.start (buf.flatMap (· ++ ['\n']))).1 (lines.flatMap (· ++ ['\n']))).1 = g.start ∧
      (pieces t buf lines).flatMap g.statements = g.cut
        ((g.run g.start (buf.flatMap (· ++ ['\n']))).2 ++
          (g.run (g.run g.start (buf.flatMap (· ++ ['\n']))).1 (lines.flatMap (· ++ ['\n']))).2) := by
  induction lines generalizing buf with
  | nil =>
    obtain ⟨outside, blank⟩ := readable
    refine ⟨lines_start outside, ?_⟩
    rw [flatMap_nil, Scanner.run, append_nil, pieces]
    split
    · rename_i empty
      rw [empty]
      exact g.cut_nil.symm
    · rename_i some_
      rw [run_tail some_ outside blank]
      dsimp only
      split
      · rename_i stripped
        rw [stripped, Scanner.tokens, Scanner.run, g.close_start]
        exact g.cut_nil.symm
      · rw [flatMap_singleton]
        rfl
  | cons line lines ih =>
    have later : ∀ line ∈ lines, '\n' ∉ line := fun line mem => plain line (mem_cons_of_mem _ mem)
    rw [Readable] at readable
    rw [pieces, flatMap_cons, g.run_append]
    split
    · -- the line that is dropped is a comment
      rename_i comment
      rw [if_pos comment] at readable
      obtain ⟨outside, blank, readable⟩ := readable
      obtain ⟨body, shape, inside⟩ := comment_line comment
      have read : g.run g.start (line ++ ['\n']) = (g.start, []) := by
        rw [shape]
        exact g.run_comment_line blank fun mem => plain line mem_cons_self (inside _ mem)
      have here := ih later readable
      rw [lines_start outside] at here ⊢
      rw [read]
      exact here
    · rename_i statement
      rw [if_neg statement] at readable
      have through : g.run g.start ((buf ++ [line]).flatMap (· ++ ['\n'])) =
          ((g.run (g.run g.start (buf.flatMap (· ++ ['\n']))).1 (line ++ ['\n'])).1,
            (g.run g.start (buf.flatMap (· ++ ['\n']))).2 ++
              (g.run (g.run g.start (buf.flatMap (· ++ ['\n']))).1 (line ++ ['\n'])).2) := by
        rw [flatMap_append, flatMap_singleton, g.run_append]
      split
      · -- the piece is one, or several, whole statements
        rename_i ended
        rw [if_pos ended] at readable
        obtain ⟨outside, blank, readable⟩ := readable
        obtain ⟨read, own⟩ := run_piece ended outside blank
        obtain ⟨last, rest⟩ := ih later readable
        rw [flatMap_nil, Scanner.run] at last rest
        rw [through] at read
        have state := congrArg Prod.fst read
        have tokens := congrArg Prod.snd read
        dsimp only at state tokens
        rw [state]
        refine ⟨last, ?_⟩
        rw [flatMap_cons, rest, nil_append, ← append_assoc, tokens, g.cut_append, SqlScanner.statements,
          own, g.cut_ended]
      · rename_i open_
        rw [if_neg open_] at readable
        have here := ih later readable
        rw [through] at here
        dsimp only at here ⊢
        rw [← append_assoc]
        exact here

/-- The statements that are run are those of the script, for every script that can be cut by its
lines. -/
theorem executed_statements {sql : List Char} (cut : LineCut g t sql) :
    (executed t sql).flatMap g.statements = g.statements sql := by
  obtain ⟨state, pieces_⟩ := pieces_statements (splitlines_line sql) cut.readable
  rw [flatMap_nil, Scanner.run, nil_append] at pieces_
  rw [flatMap_nil, Scanner.run] at state
  dsimp only at pieces_ state
  have empty : g.statements [] = [] := by
    rw [SqlScanner.statements, Scanner.tokens, Scanner.run, g.close_start]
    exact g.cut_nil
  have lone : g.statements [';'] = [] := by
    have ended := g.cut_ended []
    rw [nil_append, g.cut_nil] at ended
    rw [SqlScanner.statements, Scanner.tokens, g.run_single, g.read_semicolon _ g.start_outside,
      g.close_start, append_nil]
    exact ended
  have skipped : (executed t sql).flatMap g.statements =
      (pieces t [] (splitlines sql)).flatMap g.statements := by
    unfold executed
    induction pieces t [] (splitlines sql) with
    | nil => rfl
    | cons piece rest ih =>
      rw [filter_cons]
      split
      · rw [flatMap_cons, flatMap_cons, ih]
      · rename_i dropped
        rw [flatMap_cons, ih]
        by_cases nothing : piece = []
        · rw [nothing, empty, nil_append]
        · by_cases semicolon : piece = [';']
          · rw [semicolon, lone, nil_append]
          · exact absurd (decide_eq_true ⟨nothing, semicolon⟩) dropped
  rw [skipped, pieces_, SqlScanner.statements]
  congr 1
  rcases run_splitlines cut.breaks with same | same
  · rw [same] at state ⊢
    rw [Scanner.tokens, state, g.close_start, append_nil]
  · rw [same] at state ⊢
    have outside : g.outside (g.run g.start (sql ++ ['\n'])).1 := by
      rw [state]
      exact g.start_outside
    rw [g.tokens_line outside]

end Statements

section Words

/-- What has been begun by a scanner of words, literals in single quotes and line comments. -/
inductive Begun where
  | word (w : List Char)
  | dash (w : List Char)
  | comment
  | literal (w : List Char)
  deriving DecidableEq

namespace Begun

def closeWord (w : List Char) : List (List Char) := if w = [] then [] else [w]

def close : Begun → List (List Char)
  | .word w => closeWord w
  | .dash w => closeWord (w ++ ['-'])
  | .comment => []
  | .literal w => [w]

def readWord (w : List Char) (c : Char) : Begun × List (List Char) :=
  if c ∈ blanks then (.word [], closeWord w)
  else if c = ';' then (.word [], closeWord w ++ [[';']])
  else if c = '-' then (.dash w, [])
  else if c = '\'' then (.literal (w ++ [c]), [])
  else (.word (w ++ [c]), [])

def read : Begun → Char → Begun × List (List Char)
  | .word w, c => readWord w c
  | .dash w, c => if c = '-' then (.comment, closeWord w) else readWord (w ++ ['-']) c
  | .comment, c => if c = '\n' then (.word [], []) else (.comment, [])
  | .literal w, c => if c = '\'' then (.word (w ++ [c]), []) else (.literal (w ++ [c]), [])

def isOutside : Begun → Bool
  | .word _ | .dash _ => true
  | .comment | .literal _ => false

def Outside (s : Begun) : Prop := s.isOutside = true

theorem readWord_blank {w : List Char} {c : Char} (blank : c ∈ blanks) :
    readWord w c = (.word [], closeWord w) := if_pos blank

theorem read_blank (s : Begun) (c : Char) (outside : s.Outside) (blank : c ∈ blanks) :
    s.read c = (.word [], s.close) := by
  cases s with
  | word w => exact readWord_blank blank
  | dash w =>
    have other : c ≠ '-' := by
      rintro rfl
      exact absurd blank (by decide)
    exact (if_neg other).trans (readWord_blank blank)
  | comment => cases outside
  | literal w => cases outside

def scanner : Scanner Begun (List Char) := ⟨.word [], read, close⟩

theorem run_comment (body : List Char) (line : '\n' ∉ body) :
    scanner.run .comment body = (.comment, []) := by
  induction body with
  | nil => rfl
  | cons c body ih =>
    have other : c ≠ '\n' := by
      rintro rfl
      exact line mem_cons_self
    have read : scanner.read .comment c = (.comment, []) := if_neg other
    rw [Scanner.run, read, ih fun mem => line (mem_cons_of_mem c mem)]
    rfl

theorem run_margin (w : List Char) (blank : ∀ c ∈ w, c ∈ blanks) :
    scanner.run (.word []) w = (.word [], []) := by
  induction w with
  | nil => rfl
  | cons c w ih =>
    have read : scanner.read (.word []) c = (.word [], []) := readWord_blank (blank c mem_cons_self)
    rw [Scanner.run, read, ih fun d mem => blank d (mem_cons_of_mem c mem)]
    rfl

theorem run_literal (l w : List Char) (blank : ∀ c ∈ w, c ∈ blanks) :
    (scanner.run (.literal l) w).1 = .literal (l ++ w) := by
  induction w generalizing l with
  | nil => exact congrArg Begun.literal (append_nil l).symm
  | cons c w ih =>
    have other : c ≠ '\'' := by
      rintro rfl
      exact absurd (blank _ mem_cons_self) (by decide)
    have read : scanner.read (.literal l) c = (.literal (l ++ [c]), []) := if_neg other
    rw [Scanner.run, read]
    dsimp only
    rw [ih _ fun d mem => blank d (mem_cons_of_mem c mem), append_assoc, singleton_append]

theorem run_blanks (s : Begun) (w : List Char) (some_ : w ≠ []) (blank : ∀ c ∈ w, c ∈ blanks)
    (outside : (scanner.run s w).1.Outside) : scanner.run s w = (.word [], s.close) := by
  have ended (s : Begun) (now : s.Outside) : scanner.run s w = (.word [], s.close) := by
    cases w with
    | nil => exact absurd rfl some_
    | cons c w =>
      have read : scanner.read s c = (.word [], s.close) := read_blank s c now (blank c mem_cons_self)
      rw [Scanner.run, read, run_margin w fun d mem => blank d (mem_cons_of_mem c mem)]
      exact Prod.ext rfl (append_nil _)
  cases s with
  | word l => exact ended _ rfl
  | dash l => exact ended _ rfl
  | comment =>
    by_cases line : '\n' ∈ w
    · obtain ⟨front, behind, rfl, before⟩ := eq_append_cons_of_mem line
      have fed : scanner.read .comment '\n' = (.word [], []) := rfl
      have rest := run_margin behind fun c mem => blank c (mem_append_right _ (mem_cons_of_mem _ mem))
      rw [scanner.run_append, run_comment front before, Scanner.run, fed, rest]
      rfl
    · rw [run_comment w line] at outside
      cases outside
  | literal l =>
    rw [run_literal l w blank] at outside
    cases outside

end Begun

def wordScanner : SqlScanner Begun (List Char) where
  toScanner := Begun.scanner
  outside := Begun.Outside
  terminator := [';']
  start_outside := rfl
  close_start := rfl
  read_blank := Begun.read_blank
  read_semicolon := by
    intro s outside
    cases s with
    | word w => rfl
    | dash w => rfl
    | comment => cases outside
    | literal w => cases outside
  run_comment := by
    intro body line
    refine ⟨.comment, ?_, rfl⟩
    have read := Begun.run_comment body line
    have first : Begun.scanner.read (.word []) '-' = (.dash [], []) := rfl
    have second : Begun.scanner.read (.dash []) '-' = (.comment, []) := rfl
    rw [Scanner.run, Scanner.run, show Begun.scanner.start = .word [] from rfl, first, second, read]
    rfl
  run_blanks := Begun.run_blanks

end Words

end SqlScripts
