import KalyxMao.Migrations
import Mathlib.Data.List.Nodup
import Mathlib.Data.String.Basic

/-!
# Migrations over whole histories

A migration is done where all its statements took effect and its version is
recorded. Body and version row are committed apart, so that a call that is cut
off between them, or passes over a commit that failed, leaves one without the
other, unless the script commits its own row with its work.
-/

namespace MigrationRuns
open PythonConversions StatementScanning SqlScripts StepRuns Migrations List

universe u v

section Effects
variable {T : Type v}

def tokensOf : Statement T → Option (List T)
  | .work tokens => some tokens
  | .begin_ | .commit | .rollback | .record _ | .query => none

def versionOf : Statement T → Option String
  | .record version => some version
  | .begin_ | .commit | .rollback | .query | .work _ => none

def works (l : List (Statement T)) : List (List T) := l.filterMap tokensOf

def records (l : List (Statement T)) : List String := l.filterMap versionOf

/-- What is committed of a sequence of statements: those up to the last `COMMIT`. -/
def saved : List (Statement T) → List (Statement T)
  | [] => []
  | st :: l => if l.any Statement.isCommit then st :: saved l else if st.isCommit then [st] else []

def Nothing (l : List (Statement T)) : Prop := works l = [] ∧ records l = []

def Everything (version : String) (whole part : List (Statement T)) : Prop :=
  works part = works whole ∧ version ∈ records part

end Effects

section Property
variable {σ : Type u} {T : Type v} [DecidableEq T] (t : TextRules) (db : Server σ T)
  (d : MigrationsDir)

/-- The SQL statements of a script. -/
def statementsOf (f : MigrationFile) : List (Statement T) :=
  (db.scanner.statements f.sql.toList).map db.kind

/-- Migrations are done: all their statements took effect, once and in order, and their versions
are recorded. -/
structure After (before after : Store T) (done : List MigrationFile) : Prop where
  log : after.log = before.log ++ done.flatMap fun f => works (statementsOf db f)
  versions : ∀ v, v ∈ after.versions ↔ v ∈ before.versions ∨ v ∈ done.map MigrationFile.version

def pending (s : Store T) : List MigrationFile :=
  (listMigrationFiles d).filter fun f => f.version ∉ s.versions

/-- The first of the pending migrations are done, in the order of their names, and of the others
nothing. -/
def Migrated (before after : Store T) : Prop :=
  ∃ done, done <+: pending d before ∧ After db before after done

/-- A call, or a new connection for the old one. -/
inductive Event where
  | migrate (o : Outcomes)
  | reconnect

def step (c : Connection T) : Event → Connection T
  | .migrate o => (runMigrations t db d o c).2
  | .reconnect => c.reset

/-- A call that returns has done what was pending, and reports it. -/
def Reports (c : Connection T) : Event → Prop
  | .migrate o => ∀ applied, (runMigrations t db d o c).1 = .returned applied →
      applied = (pending d c.durable).map MigrationFile.version ∧
        After db c.durable (runMigrations t db d o c).2.durable (pending d c.durable)
  | .reconnect => True

end Property

section Condition
variable {σ : Type u} {T : Type v} [DecidableEq T] (t : TextRules) (db : Server σ T)
  (d : MigrationsDir)

/-- The version row is committed, at the first try or at the second. -/
def Inserted (o : FileOutcomes) : Prop :=
  o.insert = .ok ∧
    (o.insertCommit = .ok ∨ o.insertCommit = .fails ∧ o.retry = .ok ∧ o.retryCommit = .ok)

/-- How the version row leaves the connection: ready, aborted, or the process stopped. -/
def ending (o : FileOutcomes) : Outcome :=
  match o.insert, o.insertCommit, o.retry, o.retryCommit with
  | .stops, _, _, _ => .stops
  | .ok, .ok, _, _ => .ok
  | .ok, .stops, _, _ => .stops
  | _, _, .stops, _ => .stops
  | .fails, _, _, _ => .fails
  | .ok, .fails, .fails, _ => .fails
  | .ok, .fails, .ok, .stops => .stops
  | .ok, .fails, .ok, _ => .ok

def Through (f : MigrationFile) (o : FileOutcomes) : Prop :=
  ∀ j < (script t db f).length, o.statement j = .ok

/-- A script that is cut by its lines and runs as it is written, and whose run is not cut off
between the first and the last of its commits: it commits its version row with its work, or
nothing fails or stops until the row that is inserted for it is committed. -/
structure FileKept (f : MigrationFile) (o : FileOutcomes) : Prop where
  cut : LineCut db.scanner t f.sql.toList
  placeholders : db.proxied = true → ∀ stmt ∈ executed t f.sql.toList, '?' ∉ stmt
  rollback : .rollback ∉ script t db f
  own : ∀ v ∈ records (script t db f), v = f.version
  interrupted : ∀ i < (script t db f).length, (∀ j < i, o.statement j = .ok) → o.statement i ≠ .ok →
    Nothing (saved ((script t db f).take i)) ∨
      Everything f.version (script t db f) (saved ((script t db f).take i))
  stopped : Through t db f o → o.commit = .stops →
    Nothing (saved (script t db f)) ∨ Everything f.version (script t db f) (saved (script t db f))
  failed : Through t db f o → o.commit = .fails →
    works (saved (script t db f)) = works (script t db f) ∧
      (f.version ∈ records (saved (script t db f)) ∨ Inserted o)
  passed : Through t db f o → o.commit = .ok → f.version ∈ records (script t db f) ∨ Inserted o

/-- An aborted transaction refuses the first of the scripts. -/
def Refused : List MigrationFile → Prop
  | [] => False
  | f :: _ => ∃ st l, script t db f = st :: l ∧ st.ends = false

def FilesKept (o : Outcomes) : List MigrationFile → Prop
  | [] => True
  | f :: fs => FileKept t db f (o.file f.version) ∧
      (Through t db f (o.file f.version) → (o.file f.version).commit ≠ .stops →
        ending (o.file f.version) = .ok ∨ ending (o.file f.version) = .fails ∧ ¬Refused t db fs →
          FilesKept o fs)

/-- The migrations of a call that are reached are run as above. A call that cannot read the
recorded versions takes none as applied, and is stopped by its aborted transaction. -/
def Kept (c : Connection T) : Event → Prop
  | .migrate o => c.txn.isAborted = false → o.create = .ok → o.createCommit = .ok →
      (o.select = .ok → FilesKept t db o (pending d c.durable)) ∧
        (o.select = .fails → listMigrationFiles d = [] ∨ Refused t db (listMigrationFiles d))
  | .reconnect => True

end Condition

section Order
variable {T : Type v}

/-- The order is that of the names. -/
theorem pending_sorted (d : MigrationsDir) (s : Store T) :
    (pending d s).Pairwise fun f g => f.name ≤ g.name := by
  have sorted : (listMigrationFiles d).Pairwise fun f g => decide (f.name ≤ g.name) = true := by
    apply pairwise_mergeSort
    · intro f g h first second
      exact decide_eq_true (le_trans (of_decide_eq_true first) (of_decide_eq_true second))
    · intro f g
      rw [Bool.or_eq_true, decide_eq_true_eq, decide_eq_true_eq]
      exact le_total _ _
  exact (sorted.imp fun le => of_decide_eq_true le).sublist filter_sublist

end Order

section Statements
variable {T : Type v} {l l' : List (Statement T)} {s : Store T}

theorem works_append : works (l ++ l') = works l ++ works l' := filterMap_append

theorem apply_log (s : Store T) (st : Statement T) : (s.apply st).log = s.log ++ works [st] := by
  cases st with
  | work tokens => rfl
  | record version =>
    unfold Store.apply
    dsimp only
    split
    · exact (append_nil _).symm
    · exact (append_nil _).symm
  | begin_ => exact (append_nil _).symm
  | commit => exact (append_nil _).symm
  | rollback => exact (append_nil _).symm
  | query => exact (append_nil _).symm

theorem apply_versions (s : Store T) (st : Statement T) (v : String) :
    v ∈ (s.apply st).versions ↔ v ∈ s.versions ∨ v ∈ records [st] := by
  have same (st : Statement T) (none_ : versionOf st = none) (v : String) :
      v ∈ s.versions ↔ v ∈ s.versions ∨ v ∈ records [st] := by
    have empty : records [st] = [] := filterMap_cons_none none_
    rw [empty]
    exact ⟨.inl, fun mem => mem.resolve_right not_mem_nil⟩
  cases st with
  | work tokens => exact same (.work tokens) rfl v
  | record version =>
    have single : records [(.record version : Statement T)] = [version] := rfl
    rw [single, mem_singleton]
    unfold Store.apply
    dsimp only
    split
    · rename_i there
      refine ⟨.inl, fun mem => mem.elim id ?_⟩
      rintro rfl
      exact there
    · exact mem_append.trans (or_congr Iff.rfl mem_singleton)
  | begin_ => exact same .begin_ rfl v
  | commit => exact same .commit rfl v
  | rollback => exact same .rollback rfl v
  | query => exact same .query rfl v

theorem applied_log (l : List (Statement T)) (s : Store T) :
    (l.foldl Store.apply s).log = s.log ++ works l := by
  induction l generalizing s with
  | nil => exact (append_nil _).symm
  | cons st l ih => rw [foldl_cons, ih, apply_log, append_assoc, ← works_append, singleton_append]

theorem applied_versions (l : List (Statement T)) (s : Store T) (v : String) :
    v ∈ (l.foldl Store.apply s).versions ↔ v ∈ s.versions ∨ v ∈ records l := by
  induction l generalizing s with
  | nil => exact ⟨.inl, fun mem => mem.resolve_right not_mem_nil⟩
  | cons st l ih =>
    have split : records (st :: l) = records [st] ++ records l := by
      rw [← singleton_append]
      exact filterMap_append
    rw [foldl_cons, ih, apply_versions, split, mem_append, or_assoc]

/-- What is durable behind a sequence of statements over a view. -/
def durableAfter : Store T → Store T → List (Statement T) → Store T
  | durable, _, [] => durable
  | durable, view, st :: l =>
    if st.isCommit then durableAfter view view l else durableAfter durable (view.apply st) l

theorem apply_commit {st : Statement T} (commit : st.isCommit = true) (s : Store T) : s.apply st = s := by
  cases st with
  | commit => rfl
  | begin_ => cases commit
  | rollback => cases commit
  | record version => cases commit
  | query => cases commit
  | work tokens => cases commit

theorem durableAfter_eq (durable view : Store T) (l : List (Statement T)) :
    durableAfter durable view l =
      if l.any Statement.isCommit then (saved l).foldl Store.apply view else durable := by
  induction l generalizing durable view with
  | nil => rfl
  | cons st l ih =>
    rw [durableAfter, any_cons, saved]
    by_cases commit : st.isCommit = true
    · rw [if_pos commit, ih, commit, Bool.true_or, if_pos rfl, if_pos rfl]
      split
      · rw [foldl_cons, apply_commit commit]
      · rw [foldl_cons, apply_commit commit, foldl_nil]
    · rw [if_neg commit, ih, Bool.eq_false_iff.mpr commit, Bool.false_or]
      split
      · rw [foldl_cons]
      · rfl

/-- From a clean connection on, what is saved is durable. -/
theorem durableAfter_saved (s : Store T) (l : List (Statement T)) :
    durableAfter s s l = (saved l).foldl Store.apply s := by
  have uncommitted (l : List (Statement T)) (none_ : ¬l.any Statement.isCommit = true) : saved l = [] := by
    cases l with
    | nil => rfl
    | cons st l =>
      rw [any_cons, Bool.or_eq_true] at none_
      rw [saved, if_neg fun later => none_ (.inr later), if_neg fun now => none_ (.inl now)]
  rw [durableAfter_eq]
  split
  · rfl
  · rename_i none_
    rw [uncommitted l none_, foldl_nil]

theorem works_batch (l : List (Statement T)) : works (batch l) = works l := by
  unfold batch
  split
  · rfl
  · split
    · rw [works_append]
      exact append_nil _
    · rfl

theorem saved_start (l : List (Statement T)) : saved l <+: l := by
  induction l with
  | nil => exact nil_prefix
  | cons st l ih =>
    rw [saved]
    split
    · exact (prefix_cons_inj st).mpr ih
    · split
      · exact (prefix_cons_inj st).mpr nil_prefix
      · exact nil_prefix

end Statements

section Steps
variable {T : Type v} {c : Connection T} {view : Store T}

/-- A statement that goes through. -/
theorem execute_ok {st : Statement T} (ready : c.txn.isAborted = false) (seen : c.view = view)
    (other : st ≠ .rollback) :
    ∃ c', c.execute .ok st = .next c' ∧ c'.txn.isAborted = false ∧ c'.view = view.apply st ∧
      c'.durable = if st.isCommit then view else c.durable := by
  obtain rfl := seen
  cases st with
  | rollback => exact absurd rfl other
  | commit => exact ⟨_, if_neg (ne_true_of_eq_false ready), rfl, rfl, rfl⟩
  | begin_ => exact ⟨_, if_neg (ne_true_of_eq_false ready), rfl, rfl, rfl⟩
  | record version => exact ⟨_, if_neg (ne_true_of_eq_false ready), rfl, rfl, rfl⟩
  | query => exact ⟨_, if_neg (ne_true_of_eq_false ready), rfl, rfl, rfl⟩
  | work tokens => exact ⟨_, if_neg (ne_true_of_eq_false ready), rfl, rfl, rfl⟩

/-- A statement that fails, or at which the process stops, takes back what is not committed. -/
theorem execute_cut {o : Outcome} (st : Statement T) (cut : o ≠ .ok) :
    ∃ c', (c.execute o st = .raised c' ∨ c.execute o st = .stopped c') ∧ c'.Clean ∧
      c'.durable = c.durable := by
  cases o with
  | ok => exact absurd rfl cut
  | stops => exact ⟨c.reset, .inr rfl, rfl, rfl⟩
  | fails =>
    refine ⟨_, .inl rfl, ?_, rfl⟩
    unfold Connection.Clean Connection.view
    dsimp only
    cases st.isCommit with
    | true => rfl
    | false => rfl

/-- A script goes through, or is cut off at a statement; what is durable then are the commits of
the statements before it. -/
theorem executeScript_cases {o : Nat → Outcome} {l : List (Statement T)}
    (ready : c.txn.isAborted = false) (seen : c.view = view) (other : .rollback ∉ l) :
    ((∀ j < l.length, o j = .ok) ∧ ∃ c', executeScript o l c = .next c' ∧
      c'.txn.isAborted = false ∧ c'.view = l.foldl Store.apply view ∧
        c'.durable = durableAfter c.durable view l) ∨
    ∃ i < l.length, (∀ j < i, o j = .ok) ∧ o i ≠ .ok ∧ ∃ c',
      (executeScript o l c = .raised c' ∨ executeScript o l c = .stopped c') ∧ c'.Clean ∧
        c'.durable = durableAfter c.durable view (l.take i) := by
  induction l generalizing o c view with
  | nil => exact .inl ⟨fun j small => absurd small (Nat.not_lt_zero j), c, rfl, ready, seen, rfl⟩
  | cons st l ih =>
    by_cases first : o 0 = .ok
    · obtain ⟨c', went, ready', seen', durable⟩ :=
        execute_ok ready seen fun same => other (same ▸ mem_cons_self)
      have on : executeScript o (st :: l) c = executeScript (fun n => o (n + 1)) l c' := by
        rw [executeScript, first, went]
      have later (k : Nat) : durableAfter c'.durable (view.apply st) (l.take k) =
          durableAfter c.durable view ((st :: l).take (k + 1)) := by
        rw [durable, take_succ_cons, durableAfter]
        split
        · rename_i commit
          rw [apply_commit commit]
        · rfl
      have shift {k : Nat} (before : ∀ j < k, o (j + 1) = .ok) : ∀ j < k + 1, o j = .ok := by
        intro j small
        cases j with
        | zero => exact first
        | succ j => exact before j (Nat.lt_of_succ_lt_succ small)
      rcases ih (o := fun n => o (n + 1)) ready' seen' fun mem => other (mem_cons_of_mem st mem) with
        ⟨through, c'', went', ready'', seen'', durable'⟩ | ⟨i, small, before, cut, c'', out, clean, durable'⟩
      · refine .inl ⟨shift through, c'', on.trans went', ready'', seen'', ?_⟩
        have whole := later l.length
        rw [take_length, take_succ_cons, take_length] at whole
        exact durable'.trans whole
      · refine .inr ⟨i + 1, Nat.succ_lt_succ small, shift before, cut, c'', ?_, clean, durable'.trans (later i)⟩
        rw [on]
        exact out
    · obtain ⟨c', out, clean, durable⟩ := execute_cut (c := c) st first
      refine .inr ⟨0, Nat.succ_pos _, fun j small => absurd small (Nat.not_lt_zero j), first, c', ?_,
        clean, durable⟩
      rcases out with raised | stopped
      · left
        rw [executeScript, raised]
      · right
        rw [executeScript, stopped]

theorem insertVersion_reset {insert commit : Outcome} (version : String) (usable : c.Usable) :
    insertVersion insert commit version c = insertVersion insert commit version c.reset := by
  obtain ⟨durable, txn⟩ := c
  obtain ⟨clean, ready⟩ := usable
  cases txn with
  | idle => rfl
  | aborted => cases ready
  | opened view =>
    obtain rfl : view = durable := clean
    cases insert with
    | ok => rfl
    | fails => rfl
    | stops => rfl

/-- How the version row leaves the connection. -/
inductive Recorded (o : FileOutcomes) (version : String) (s : Store T) : Progress T → Prop where
  | inserted (last : ending o = .ok) (now : Inserted o) :
      Recorded o version s (.next ⟨s.apply (.record version), .idle⟩)
  | missed (last : ending o = .ok) (never : ¬Inserted o) : Recorded o version s (.next ⟨s, .idle⟩)
  | aborted (last : ending o = .fails) (never : ¬Inserted o) :
      Recorded o version s (.next ⟨s, .aborted⟩)
  | stopped (last : ending o = .stops) (never : ¬Inserted o) :
      Recorded o version s (.stopped ⟨s, .idle⟩)

theorem recordVersion_cases {o : FileOutcomes} (version : String) (usable : c.Usable) :
    Recorded o version c.durable (recordVersion o version c) := by
  unfold recordVersion
  rw [insertVersion_reset version usable]
  unfold Connection.reset
  obtain ⟨durable, txn⟩ := c
  obtain ⟨statement, commit, insert, insertCommit, retry, retryCommit⟩ := o
  cases insert with
  | stops =>
    refine .stopped rfl ?_
    rintro ⟨⟨⟩, -⟩
  | fails =>
    have never : ¬Inserted ⟨statement, commit, .fails, insertCommit, retry, retryCommit⟩ := by
      rintro ⟨⟨⟩, -⟩
    cases retry with
    | ok => exact .aborted (by cases insertCommit <;> rfl) never
    | fails => exact .aborted (by cases insertCommit <;> rfl) never
    | stops => exact .stopped (by cases insertCommit <;> rfl) never
  | ok =>
    cases insertCommit with
    | ok => exact .inserted rfl ⟨rfl, .inl rfl⟩
    | stops =>
      refine .stopped rfl ?_
      rintro ⟨-, other | ⟨other, -⟩⟩
      · cases other
      · cases other
    | fails =>
      cases retry with
      | stops =>
        refine .stopped rfl ?_
        rintro ⟨-, other | ⟨-, other, -⟩⟩
        · cases other
        · cases other
      | fails =>
        refine .aborted rfl ?_
        rintro ⟨-, other | ⟨-, other, -⟩⟩
        · cases other
        · cases other
      | ok =>
        cases retryCommit with
        | ok => exact .inserted rfl ⟨rfl, .inr ⟨rfl, rfl, rfl⟩⟩
        | fails =>
          refine .missed rfl ?_
          rintro ⟨-, other | ⟨-, -, other⟩⟩
          · cases other
          · cases other
        | stops =>
          refine .stopped rfl ?_
          rintro ⟨-, other | ⟨-, -, other⟩⟩
          · cases other
          · cases other

end Steps

section Files
variable {σ : Type u} {T : Type v} [DecidableEq T] {t : TextRules} {db : Server σ T}
  {f : MigrationFile} {o : FileOutcomes} {s s' s'' : Store T} {done later : List MigrationFile}

theorem After.refl (s : Store T) : After db s s [] :=
  ⟨(append_nil _).symm, fun _ => ⟨.inl, fun mem => mem.resolve_right not_mem_nil⟩⟩

theorem After.append (first : After db s s' done) (second : After db s' s'' later) :
    After db s s'' (done ++ later) := by
  constructor
  · rw [second.log, first.log, flatMap_append, append_assoc]
  · intro v
    rw [second.versions, first.versions, map_append, mem_append, or_assoc]

theorem convert_plain {stmt : List Char} (plain : '?' ∉ stmt) : convert stmt = stmt := by
  induction stmt with
  | nil => rfl
  | cons c stmt ih =>
    have other : c ≠ '?' := by
      rintro rfl
      exact plain mem_cons_self
    have rest := ih fun mem => plain (mem_cons_of_mem c mem)
    unfold convert at rest ⊢
    rw [flatMap_cons, if_neg other, rest, singleton_append]

/-- What is run of a script has the effects of its statements. -/
theorem works_script (kept : FileKept t db f o) : works (script t db f) = works (statementsOf db f) := by
  have text : ∀ stmt ∈ executed t f.sql.toList, sent db stmt = stmt := by
    intro stmt mem
    unfold sent
    split
    · rename_i proxied
      exact convert_plain (kept.placeholders proxied stmt mem)
    · rfl
  have single : ∀ stmt ∈ executed t f.sql.toList,
      works (batch ((db.scanner.statements (sent db stmt)).map db.kind)) =
        works ((db.scanner.statements stmt).map db.kind) := by
    intro stmt mem
    rw [works_batch, text stmt mem]
  calc works (script t db f)
      = (executed t f.sql.toList).flatMap fun stmt =>
          works (batch ((db.scanner.statements (sent db stmt)).map db.kind)) := filterMap_flatMap
    _ = (executed t f.sql.toList).flatMap fun stmt =>
          works ((db.scanner.statements stmt).map db.kind) := flatMap_congr single
    _ = works (((executed t f.sql.toList).flatMap db.scanner.statements).map db.kind) := by
        rw [map_flatMap]
        exact filterMap_flatMap.symm
    _ = works (statementsOf db f) := by
        rw [executed_statements kept.cut]
        rfl

theorem after_nothing {part : List (Statement T)} (nothing : Nothing part) (s : Store T) :
    After db s (part.foldl Store.apply s) [] := by
  constructor
  · rw [applied_log, nothing.1]
    rfl
  · intro v
    rw [applied_versions, nothing.2]
    exact Iff.rfl

/-- All work of a script, and its row. -/
theorem after_everything (kept : FileKept t db f o) {part : List (Statement T)}
    (inside : part <+: script t db f) (everything : Everything f.version (script t db f) part)
    (s : Store T) : After db s (part.foldl Store.apply s) [f] := by
  obtain ⟨whole, row⟩ := everything
  constructor
  · rw [applied_log, whole, works_script kept, flatMap_singleton]
  · intro v
    rw [applied_versions, map_singleton, mem_singleton]
    refine or_congr Iff.rfl ⟨fun mem => kept.own v ((inside.sublist.filterMap versionOf).subset mem), ?_⟩
    rintro rfl
    exact row

/-- What is durable where a script is cut off. -/
theorem after_cut (kept : FileKept t db f o) {part : List (Statement T)} (inside : part <+: script t db f)
    (cut : Nothing part ∨ Everything f.version (script t db f) part) (s : Store T) :
    After db s (part.foldl Store.apply s) [] ∨ After db s (part.foldl Store.apply s) [f] := by
  rcases cut with nothing | everything
  · exact .inl (after_nothing nothing s)
  · exact .inr (after_everything kept inside everything s)

/-- How a migration ends: cut off with all or nothing of it done, or done. -/
inductive MigrationEnds (t : TextRules) (db : Server σ T) (f : MigrationFile) (o : FileOutcomes)
    (s : Store T) : Progress T → Prop where
  | raised (c : Connection T) (clean : c.Clean)
      (all : After db s c.durable [] ∨ After db s c.durable [f]) : MigrationEnds t db f o s (.raised c)
  | stopped (c : Connection T) (clean : c.Clean)
      (all : After db s c.durable [] ∨ After db s c.durable [f]) : MigrationEnds t db f o s (.stopped c)
  | next (c : Connection T) (clean : c.Clean) (all : After db s c.durable [f])
      (through : Through t db f o) (committed : o.commit ≠ .stops)
      (last : ending o = .ok ∧ c.txn.isAborted = false ∨ ending o = .fails ∧ c.txn.isAborted = true) :
      MigrationEnds t db f o s (.next c)

/-- The version row behind what is durable of a script. -/
theorem recorded_ends (kept : FileKept t db f o) {part : List (Statement T)}
    (inside : part <+: script t db f) (whole : works part = works (script t db f))
    (row : f.version ∈ records part ∨ Inserted o) (through : Through t db f o)
    (committed : o.commit ≠ .stops) {p : Progress T}
    (recorded : Recorded o f.version (part.foldl Store.apply s) p) : MigrationEnds t db f o s p := by
  have own (never : ¬Inserted o) : After db s (part.foldl Store.apply s) [f] :=
    after_everything kept inside ⟨whole, row.resolve_right never⟩ s
  cases recorded with
  | inserted last now =>
    refine .next _ rfl ⟨?_, fun v => ?_⟩ through committed (.inl ⟨last, rfl⟩)
    · rw [apply_log, applied_log, whole, works_script kept, flatMap_singleton]
      exact append_nil _
    · have single : records [(.record f.version : Statement T)] = [f.version] := rfl
      rw [apply_versions, applied_versions, single, map_singleton, or_assoc]
      refine or_congr Iff.rfl ⟨fun mem => mem.elim (fun mem => ?_) id, .inr⟩
      rw [kept.own v ((inside.sublist.filterMap versionOf).subset mem)]
      exact mem_singleton_self f.version
  | missed last never => exact .next _ rfl (own never) through committed (.inl ⟨last, rfl⟩)
  | aborted last never => exact .next _ rfl (own never) through committed (.inr ⟨last, rfl⟩)
  | stopped last never => exact .stopped _ rfl (.inr (own never))

theorem migrate_ends (kept : FileKept t db f o) {c : Connection T} (usable : c.Usable) :
    MigrationEnds t db f o c.durable (migrate t db o f c) := by
  unfold migrate
  rcases executeScript_cases usable.2 usable.1 kept.rollback with
    ⟨through, c', went, ready, seen, durable⟩ | ⟨i, small, before, cut, c', out, clean, durable⟩
  · rw [went]
    dsimp only
    rw [durableAfter_saved] at durable
    cases commit : o.commit with
    | ok =>
      have committed : o.commit ≠ .stops := by
        rw [commit]
        exact Outcome.noConfusion
      have recorded := recordVersion_cases (c := ⟨c'.view, .idle⟩) (o := o) f.version ⟨rfl, rfl⟩
      exact recorded_ends kept prefix_rfl rfl (kept.passed through commit) through committed
        (seen ▸ recorded)
    | stops =>
      refine .stopped c'.reset rfl ?_
      have all := after_cut kept (saved_start _) (kept.stopped through commit) c.durable
      rw [← durable] at all
      exact all
    | fails =>
      obtain ⟨whole, row⟩ := kept.failed through commit
      have committed : o.commit ≠ .stops := by
        rw [commit]
        exact Outcome.noConfusion
      have recorded := recordVersion_cases (c := c'.reset) (o := o) f.version ⟨rfl, rfl⟩
      have ends := recorded_ends kept (saved_start _) whole row through committed
        (durable ▸ recorded)
      obtain ⟨durable', txn⟩ := c'
      cases txn with
      | idle => exact ends
      | opened view => exact ends
      | aborted => cases ready
  · rw [durableAfter_saved] at durable
    have front := take_prefix i (script t db f)
    have all := after_cut kept ((saved_start _).trans front)
      (kept.interrupted i small before cut) c.durable
    rw [← durable] at all
    rcases out with raised | stopped
    · rw [raised]
      exact .raised c' clean all
    · rw [stopped]
      exact .stopped c' clean all

end Files

section Calls
variable {σ : Type u} {T : Type v} [DecidableEq T] {t : TextRules} {db : Server σ T}
  {o : Outcomes} {already : List String} {fs : List MigrationFile} {c : Connection T}

/-- An aborted transaction refuses a statement that does not end it. -/
theorem migrate_refused {f : MigrationFile} (fo : FileOutcomes) {st : Statement T}
    {l : List (Statement T)} (first : script t db f = st :: l) (other : st.ends = false)
    (aborted : c.txn.isAborted = true) :
    ∃ c', (migrate t db fo f c = .raised c' ∨ migrate t db fo f c = .stopped c') ∧ c'.Clean ∧
      c'.durable = c.durable := by
  obtain ⟨c', out, clean, durable⟩ : ∃ c', (c.execute (fo.statement 0) st = .raised c' ∨
      c.execute (fo.statement 0) st = .stopped c') ∧ c'.Clean ∧ c'.durable = c.durable := by
    by_cases goes : fo.statement 0 = .ok
    · refine ⟨c, .inl ?_, ?_, rfl⟩
      · rw [goes]
        unfold Connection.execute
        dsimp only
        rw [if_pos aborted, if_neg (ne_true_of_eq_false other)]
      · obtain ⟨durable, txn⟩ := c
        cases txn with
        | aborted => rfl
        | idle => cases aborted
        | opened view => cases aborted
    · exact execute_cut st goes
  refine ⟨c', ?_, clean, durable⟩
  unfold migrate
  rw [first, executeScript]
  rcases out with raised | stopped
  · rw [raised]
    exact .inl rfl
  · rw [stopped]
    exact .inr rfl

/-- Any other script finds an aborted transaction as a new one. -/
theorem migrate_reset {f : MigrationFile} {fo : FileOutcomes}
    (taken : ¬∃ st l, script t db f = st :: l ∧ st.ends = false) (aborted : c.txn.isAborted = true) :
    migrate t db fo f c = migrate t db fo f c.reset := by
  obtain ⟨durable, txn⟩ := c
  cases txn with
  | idle => cases aborted
  | opened view => cases aborted
  | aborted =>
    unfold migrate
    cases body : script t db f with
    | nil =>
      rw [executeScript, executeScript]
      dsimp only
      cases fo.commit with
      | ok => rfl
      | fails => rfl
      | stops => rfl
    | cons st l =>
      rw [executeScript, executeScript]
      have same : (⟨durable, .aborted⟩ : Connection T).execute (fo.statement 0) st =
          (⟨durable, .idle⟩ : Connection T).execute (fo.statement 0) st := by
        cases st with
        | commit => cases fo.statement 0 with | ok => rfl | fails => rfl | stops => rfl
        | rollback => cases fo.statement 0 with | ok => rfl | fails => rfl | stops => rfl
        | begin_ => exact absurd ⟨_, l, body, rfl⟩ taken
        | record version => exact absurd ⟨_, l, body, rfl⟩ taken
        | query => exact absurd ⟨_, l, body, rfl⟩ taken
        | work tokens => exact absurd ⟨_, l, body, rfl⟩ taken
      rw [same]
      rfl

/-- The loop passes over what is recorded. -/
theorem migrateAll_pending (applied : List String) : migrateAll t db o already fs applied c =
    migrateAll t db o already (fs.filter fun f => f.version ∉ already) applied c := by
  induction fs generalizing applied c with
  | nil => rfl
  | cons f fs ih =>
    rw [migrateAll, filter_cons]
    by_cases there : f.version ∈ already
    · rw [if_pos there, if_neg fun left => of_decide_eq_true (p := f.version ∉ already) left there, ih]
    · rw [if_neg there, if_pos (decide_eq_true there), migrateAll, if_neg there]
      cases migrate t db (o.file f.version) f c with
      | next c' => exact ih _
      | raised c' => rfl
      | stopped c' => rfl

/-- A connection that can go on, or whose aborted transaction refuses what is next. -/
def Onward (t : TextRules) (db : Server σ T) (o : Outcomes) (fs : List MigrationFile)
    (c : Connection T) : Prop :=
  c.txn.isAborted = false ∧ FilesKept t db o fs ∨
    c.txn.isAborted = true ∧ (Refused t db fs ∨ FilesKept t db o fs)

/-- The loop does the first of the migrations, and all of them where it returns. -/
theorem migrateAll_after (new : ∀ f ∈ fs, f.version ∉ already) (applied : List String)
    (clean : c.Clean) (onward : Onward t db o fs c) :
    ∃ done, done <+: fs ∧ After db c.durable (migrateAll t db o already fs applied c).2.durable done ∧
      (migrateAll t db o already fs applied c).2.Clean ∧
      ∀ r, (migrateAll t db o already fs applied c).1 = .returned r →
        r = applied ++ fs.map MigrationFile.version ∧ done = fs := by
  induction fs generalizing applied c with
  | nil =>
    refine ⟨[], prefix_rfl, After.refl _, clean, ?_⟩
    rintro r ⟨⟩
    exact ⟨(append_nil applied).symm, rfl⟩
  | cons f fs ih =>
    have later : ∀ f ∈ fs, f.version ∉ already := fun f mem => new f (mem_cons_of_mem _ mem)
    rw [migrateAll, if_neg (new f mem_cons_self)]
    -- an aborted transaction that refuses nothing is as good as none
    obtain ⟨c', out, clean, durable⟩ | ⟨c', same, durable, usable, kept⟩ :
        (∃ c', (migrate t db (o.file f.version) f c = .raised c' ∨
          migrate t db (o.file f.version) f c = .stopped c') ∧ c'.Clean ∧ c'.durable = c.durable) ∨
        ∃ c', migrate t db (o.file f.version) f c = migrate t db (o.file f.version) f c' ∧
          c'.durable = c.durable ∧ c'.Usable ∧ FilesKept t db o (f :: fs) := by
      rcases onward with ⟨ready, kept⟩ | ⟨aborted, rest⟩
      · exact .inr ⟨c, rfl, rfl, ⟨clean, ready⟩, kept⟩
      · by_cases refused : Refused t db (f :: fs)
        · obtain ⟨st, l, first, other⟩ := refused
          exact .inl (migrate_refused _ first other aborted)
        · exact .inr ⟨c.reset, migrate_reset refused aborted, rfl, ⟨rfl, rfl⟩, rest.resolve_left refused⟩
    · rcases out with raised | stopped
      · rw [raised]
        refine ⟨[], nil_prefix, ?_, clean, fun r returned => by cases returned⟩
        rw [durable]
        exact After.refl _
      · rw [stopped]
        refine ⟨[], nil_prefix, ?_, clean, fun r returned => by cases returned⟩
        rw [durable]
        exact After.refl _
    · rw [same, ← durable]
      have first : [f] <+: f :: fs := ⟨fs, rfl⟩
      cases ended : migrate t db (o.file f.version) f c' with
      | raised c'' =>
        have ends := migrate_ends kept.1 usable
        rw [ended] at ends
        cases ends with
        | raised _ clean all =>
          rcases all with none_ | all
          · exact ⟨[], nil_prefix, none_, clean, fun r returned => by cases returned⟩
          · exact ⟨[f], first, all, clean, fun r returned => by cases returned⟩
      | stopped c'' =>
        have ends := migrate_ends kept.1 usable
        rw [ended] at ends
        cases ends with
        | stopped _ clean all =>
          rcases all with none_ | all
          · exact ⟨[], nil_prefix, none_, clean, fun r returned => by cases returned⟩
          · exact ⟨[f], first, all, clean, fun r returned => by cases returned⟩
      | next c'' =>
        have ends := migrate_ends kept.1 usable
        rw [ended] at ends
        cases ends with
        | next _ clean all through committed last =>
          have onward' : Onward t db o fs c'' := by
            rcases last with ⟨goes, ready⟩ | ⟨fails, aborted⟩
            · exact .inl ⟨ready, kept.2 through committed (.inl goes)⟩
            · by_cases refused : Refused t db fs
              · exact .inr ⟨aborted, .inl refused⟩
              · exact .inr ⟨aborted, .inr (kept.2 through committed (.inr ⟨fails, refused⟩))⟩
          obtain ⟨done, front, rest, clean', returns⟩ := ih later (applied ++ [f.version]) clean onward'
          refine ⟨f :: done, (prefix_cons_inj f).mpr front, all.append rest, clean', fun r returned => ?_⟩
          obtain ⟨reported, whole⟩ := returns r returned
          refine ⟨?_, congrArg (f :: ·) whole⟩
          rw [reported, map_cons, append_assoc, singleton_append]

end Calls

section Runs
variable {σ : Type u} {T : Type v} [DecidableEq T] {t : TextRules} {db : Server σ T}
  {d : MigrationsDir} {s s' s'' : Store T} {done : List MigrationFile} {c : Connection T}

/-- What is pending where the first of the pending migrations are done. -/
theorem pending_after (front : done <+: pending d s) (after : After db s s' done) :
    pending d s = done ++ pending d s' := by
  obtain ⟨rest, split⟩ := front
  have versions : ((pending d s).map MigrationFile.version).Nodup := by
    have sorted : ((listMigrationFiles d).map MigrationFile.version).Nodup :=
      (((mergeSort_perm _ _).map _).nodup_iff).mpr d.distinct
    exact sorted.sublist (filter_sublist.map _)
  rw [← split, map_append, nodup_append] at versions
  have again : pending d s' = (pending d s).filter fun f => f.version ∉ done.map MigrationFile.version := by
    unfold pending
    rw [filter_filter]
    apply filter_congr
    intro f _
    rw [← Bool.decide_and]
    apply decide_eq_decide.mpr
    rw [after.versions, not_or]
    exact and_comm
  have gone : done.filter (fun f => decide (f.version ∉ done.map MigrationFile.version)) = [] := by
    rw [filter_eq_nil_iff]
    intro f mem left
    exact of_decide_eq_true (p := f.version ∉ done.map MigrationFile.version) left (mem_map_of_mem mem)
  have left : rest.filter (fun f => decide (f.version ∉ done.map MigrationFile.version)) = rest := by
    rw [filter_eq_self]
    intro f mem
    apply decide_eq_true
    intro there
    exact versions.2.2 _ there _ (mem_map_of_mem mem) rfl
  rw [again, ← split, filter_append, gone, left, nil_append]

theorem Migrated.refl (s : Store T) : Migrated db d s s := ⟨[], nil_prefix, After.refl s⟩

theorem Migrated.trans (first : Migrated db d s s') (second : Migrated db d s' s'') :
    Migrated db d s s'' := by
  obtain ⟨done, front, after⟩ := first
  obtain ⟨later, front', after'⟩ := second
  refine ⟨done ++ later, ?_, after.append after'⟩
  rw [pending_after front after]
  exact (prefix_append_right_inj done).mpr front'

/-- What a call that does not return does to a connection that it leaves as it was. -/
theorem unchanged_after {o : Outcomes} {x : Answer × Connection T}
    (same : runMigrations t db d o c = x) (never : ∀ applied, x.1 ≠ .returned applied) (clean : x.2.Clean)
    (durable : x.2.durable = c.durable) :
    (runMigrations t db d o c).2.Clean ∧
      Migrated db d c.durable (runMigrations t db d o c).2.durable ∧ Reports t db d c (.migrate o) := by
  subst same
  refine ⟨clean, ?_, fun applied returned => absurd returned (never applied)⟩
  rw [durable]
  exact Migrated.refl _

/-- A call from a clean connection on. -/
theorem runMigrations_after {o : Outcomes} (clean : c.Clean) (kept : Kept t db d c (.migrate o)) :
    (runMigrations t db d o c).2.Clean ∧
      Migrated db d c.durable (runMigrations t db d o c).2.durable ∧ Reports t db d c (.migrate o) := by
  by_cases created : o.create = .ok ∧ c.txn.isAborted = false
  · obtain ⟨create, ready⟩ := created
    have opened : c.execute o.create .query = .next ⟨c.durable, .opened c.durable⟩ := by
      rw [create]
      have went : c.execute .ok .query = .next ⟨c.durable, .opened c.view⟩ :=
        if_neg (ne_true_of_eq_false ready)
      rwa [show c.view = c.durable from clean] at went
    cases createCommit : o.createCommit with
    | fails =>
      refine unchanged_after (x := (.raised, c.reset)) ?_ (fun _ => Answer.noConfusion) rfl rfl
      rw [runMigrations, opened, createCommit]
      rfl
    | stops =>
      refine unchanged_after (x := (.stopped, c.reset)) ?_ (fun _ => Answer.noConfusion) rfl rfl
      rw [runMigrations, opened, createCommit]
      rfl
    | ok =>
      obtain ⟨read, unread⟩ := kept ready create createCommit
      cases select : o.select with
      | stops =>
        refine unchanged_after (x := (.stopped, c.reset)) ?_ (fun _ => Answer.noConfusion) rfl rfl
        rw [runMigrations, opened, createCommit, select]
        rfl
      | ok =>
        have whole : runMigrations t db d o c = migrateAll t db o c.durable.versions (pending d c.durable)
            [] ⟨c.durable, .opened c.durable⟩ := by
          rw [pending, ← migrateAll_pending, runMigrations, opened, createCommit, select]
          rfl
        have new : ∀ f ∈ pending d c.durable, f.version ∉ c.durable.versions := fun f mem =>
          of_decide_eq_true (p := f.version ∉ c.durable.versions) (mem_filter.mp mem).2
        have onward : Onward t db o (pending d c.durable) ⟨c.durable, .opened c.durable⟩ :=
          .inl ⟨rfl, read select⟩
        obtain ⟨done, front, after, clean', returns⟩ := migrateAll_after
          (c := ⟨c.durable, .opened c.durable⟩) new [] rfl onward
        rw [← whole] at after clean' returns
        refine ⟨clean', ⟨done, front, after⟩, fun applied returned => ?_⟩
        obtain ⟨reported, all⟩ := returns applied returned
        rw [all] at after
        exact ⟨reported, after⟩
      | fails =>
        have whole : runMigrations t db d o c = migrateAll t db o [] (listMigrationFiles d) []
            ⟨c.durable, .aborted⟩ := by
          rw [runMigrations, opened, createCommit, select]
          rfl
        cases files : listMigrationFiles d with
        | nil =>
          rw [files] at whole
          have none_ : pending d c.durable = [] := by
            rw [pending, files]
            rfl
          refine ⟨?_, ?_, fun applied returned => ?_⟩
          · rw [whole]
            rfl
          · rw [whole]
            exact Migrated.refl _
          · rw [whole] at returned ⊢
            rw [none_]
            exact ⟨(Answer.returned.inj returned).symm, After.refl _⟩
        | cons f fs =>
          -- the answer of the lookup is the empty set, and the first script is refused
          rw [files] at whole unread
          obtain ⟨st, l, first, other⟩ := (unread select).resolve_left (cons_ne_nil f fs)
          obtain ⟨c', out, clean', durable⟩ := migrate_refused (o.file f.version)
            (c := ⟨c.durable, .aborted⟩) first other rfl
          rw [migrateAll, if_neg not_mem_nil] at whole
          rcases out with raised | stopped
          · rw [raised] at whole
            exact unchanged_after whole (fun _ => Answer.noConfusion) clean' durable
          · rw [stopped] at whole
            exact unchanged_after whole (fun _ => Answer.noConfusion) clean' durable
  · obtain ⟨c', out, clean', durable⟩ : ∃ c', (c.execute o.create .query = .raised c' ∨
        c.execute o.create .query = .stopped c') ∧ c'.Clean ∧ c'.durable = c.durable := by
      by_cases create : o.create = .ok
      · have aborted : c.txn.isAborted = true := by
          rw [← Bool.not_eq_false]
          exact fun ready => created ⟨create, ready⟩
        refine ⟨c, .inl ?_, clean, rfl⟩
        rw [create]
        exact if_pos aborted
      · exact execute_cut .query create
    rcases out with raised | stopped
    · refine unchanged_after (x := (.raised, c')) ?_ (fun _ => Answer.noConfusion) clean' durable
      rw [runMigrations, raised]
    · refine unchanged_after (x := (.stopped, c')) ?_ (fun _ => Answer.noConfusion) clean' durable
      rw [runMigrations, stopped]

/-- In every history of calls that are run as above, with failures and stops at any other place,
the first of the pending migrations are done and the others not begun, and what a call reports
is done. -/
theorem history_migrated (store : Store T) (events : List Event)
    (kept : Along (step t db d) (Kept t db d) ⟨store, .idle⟩ events) :
    Migrated db d store (run (step t db d) ⟨store, .idle⟩ events).durable ∧
      Along (step t db d) (Reports t db d) ⟨store, .idle⟩ events := by
  suffices from_clean : ∀ c : Connection T, c.Clean → Along (step t db d) (Kept t db d) c events →
      Migrated db d c.durable (run (step t db d) c events).durable ∧
        Along (step t db d) (Reports t db d) c events by
    exact from_clean ⟨store, .idle⟩ rfl kept
  clear kept
  induction events with
  | nil => exact fun c _ _ => ⟨Migrated.refl _, trivial⟩
  | cons e events ih =>
    rintro c clean ⟨first, later⟩
    have one : (step t db d c e).Clean ∧ Migrated db d c.durable (step t db d c e).durable ∧
        Reports t db d c e := by
      cases e with
      | migrate o => exact runMigrations_after clean first
      | reconnect => exact ⟨rfl, Migrated.refl _, trivial⟩
    obtain ⟨clean', migrated, reports⟩ := one
    obtain ⟨rest, reported⟩ := ih _ clean' later
    exact ⟨migrated.trans rest, reports, reported⟩

end Runs

section Samples

def sampleText : TextRules := asciiRules fun _ => "0.0"

/-- A server that reads words, literals and line comments. -/
def sampleServer : Server Begun (List Char) where
  scanner := wordScanner
  kind tokens :=
    if tokens = ["BEGIN".toList] then .begin_
    else if tokens = ["COMMIT".toList] then .commit
    else if tokens = ["ROLLBACK".toList] then .rollback
    else .work tokens
  proxied := true

def tableFile : MigrationFile := ⟨"001_t", "-- tables\nCREATE TABLE t (\n  a int\n);\n"⟩

def tableDir : MigrationsDir := ⟨[tableFile], List.nodup_singleton _⟩

def emptyStore : Store (List Char) := ⟨[], []⟩

theorem table_script : script sampleText sampleServer tableFile =
    [.work (["CREATE", "TABLE", "t", "(", "a", "int", ")"].map String.toList)] := by decide +kernel

theorem table_readable : Readable sampleServer.scanner sampleText []
    (["-- tables", "CREATE TABLE t (", "  a int", ");"].map String.toList) := by
  have comment : isComment sampleText "-- tables".toList = true := by decide +kernel
  have outside : (sampleServer.scanner.run sampleServer.scanner.start
      (strip sampleText (joinLines ["CREATE TABLE t (".toList, "  a int".toList, ");".toList])).dropLast).1
        = .word [')'] := by decide +kernel
  rw [List.map_cons, Readable, if_pos comment]
  refine ⟨rfl, by decide +kernel, ?_⟩
  rw [List.map_cons, Readable, if_neg (by decide +kernel), if_neg (by decide +kernel)]
  rw [List.map_cons, Readable, if_neg (by decide +kernel), if_neg (by decide +kernel)]
  rw [List.map_cons, Readable, if_neg (by decide +kernel), if_pos (by decide +kernel)]
  refine ⟨?_, by decide +kernel, rfl, by decide +kernel⟩
  exact (congrArg sampleServer.scanner.outside outside).mpr rfl

theorem table_kept {o : FileOutcomes} (commit : o.commit ≠ .fails) (inserted : Inserted o) :
    FileKept sampleText sampleServer tableFile o := by
  have cut : LineCut sampleServer.scanner sampleText tableFile.sql.toList := by
    constructor
    · exact breaks_of_plain (by decide +kernel) _
    · have lines : splitlines tableFile.sql.toList =
          ["-- tables", "CREATE TABLE t (", "  a int", ");"].map String.toList := by decide +kernel
      rw [lines]
      exact table_readable
  constructor
  · exact cut
  · intro _
    decide +kernel
  · rw [table_script]
    decide +kernel
  · rw [table_script]
    exact fun v mem => absurd mem List.not_mem_nil
  · rw [table_script]
    intro i small _ _
    have first : i = 0 := Nat.lt_one_iff.mp small
    rw [first]
    exact .inl ⟨rfl, rfl⟩
  · intro _ _
    rw [table_script]
    exact .inl ⟨rfl, rfl⟩
  · exact fun _ fails => absurd fails commit
  · exact fun _ _ => .inr inserted

theorem table_files : listMigrationFiles tableDir = [tableFile] := List.mergeSort_singleton tableFile

theorem table_pending : pending tableDir emptyStore = [tableFile] := by
  rw [pending, table_files]
  decide +kernel

/-- The process stops in the script, and the next call runs it whole. -/
theorem stopped_then_migrated :
    Migrated sampleServer tableDir emptyStore
      (run (step sampleText sampleServer tableDir) ⟨emptyStore, .idle⟩
        [.migrate { file := fun _ => { statement := fun _ => .stops } }, .migrate {}]).durable ∧
    Along (step sampleText sampleServer tableDir) (Reports sampleText sampleServer tableDir)
      ⟨emptyStore, .idle⟩ [.migrate { file := fun _ => { statement := fun _ => .stops } }, .migrate {}] := by
  apply history_migrated
  have stopped : step sampleText sampleServer tableDir ⟨emptyStore, .idle⟩
      (.migrate { file := fun _ => { statement := fun _ => .stops } }) = ⟨emptyStore, .idle⟩ := by
    rw [step, runMigrations]
    rw [table_files]
    decide +kernel
  have inserted (o : Nat → Outcome) : Inserted { statement := o } := ⟨rfl, .inl rfl⟩
  refine ⟨fun _ _ _ => ⟨fun _ => ?_, fun fails => by cases fails⟩, ?_, trivial⟩
  · rw [table_pending]
    exact ⟨table_kept Outcome.noConfusion (inserted _), fun _ _ _ => trivial⟩
  · rw [stopped]
    refine fun _ _ _ => ⟨fun _ => ?_, fun fails => by cases fails⟩
    rw [table_pending]
    exact ⟨table_kept Outcome.noConfusion (inserted _), fun _ _ _ => trivial⟩

/-- The commit of the script fails: nothing took effect, and the version is recorded and reported.
And a line of a literal that looks like a comment is not run. -/
theorem failed_commit_recorded :
    runMigrations sampleText sampleServer tableDir { file := fun _ => { commit := .fails } }
        ⟨emptyStore, .idle⟩ = (.returned ["001_t"], ⟨⟨[], ["001_t"]⟩, .idle⟩) ∧
    ¬Migrated sampleServer tableDir emptyStore ⟨[], ["001_t"]⟩ ∧
    (executed sampleText "INSERT INTO t VALUES ('a\n-- b\n');\n".toList).flatMap
        wordScanner.statements ≠
      wordScanner.statements "INSERT INTO t VALUES ('a\n-- b\n');\n".toList := by
  refine ⟨?_, ?_, by decide +kernel⟩
  · rw [runMigrations]
    rw [table_files]
    decide +kernel
  · rintro ⟨done, front, after⟩
    rw [table_pending] at front
    have recorded : "001_t" ∈ done.map MigrationFile.version :=
      ((after.versions "001_t").mp (List.mem_singleton.mpr rfl)).resolve_left List.not_mem_nil
    have whole : done = [tableFile] := by
      rcases prefix_cons_iff.mp front with none_ | ⟨rest, same, short⟩
      · rw [none_] at recorded
        cases recorded
      · rw [same, prefix_nil.mp short]
    have log := after.log
    rw [whole] at log
    exact absurd log (by decide +kernel)

end Samples

end MigrationRuns
