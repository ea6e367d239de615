import KalyxMao.SqlScripts
import KalyxMao.StepRuns
import Mathlib.Data.List.Basic

/-!
# Running migrations

`run_migrations` runs the scripts whose version is not recorded, in the order of
their names. Body, commit and version row are separate steps. A statement or a
commit may fail, and the process may stop, at each of them; a connection that is
lost takes its open transaction with it.
-/

namespace Migrations
open PythonConversions StatementScanning SqlScripts StepRuns

universe u v

/-- A statement as the server takes it. -/
inductive Statement (T : Type v) where
  | begin_
  | commit
  | rollback
  /-- `INSERT INTO schema_migrations (version) … ON CONFLICT (version) DO NOTHING`. -/
  | record (version : String)
  | query
  | work (tokens : List T)
  deriving DecidableEq

/-- The statements that took effect, in order, and the rows of `schema_migrations`. -/
structure Store (T : Type v) where
  log : List (List T)
  versions : List String
  deriving DecidableEq

inductive Txn (T : Type v) where
  | idle
  | opened (view : Store T)
  | aborted
  deriving DecidableEq

structure Connection (T : Type v) where
  durable : Store T
  txn : Txn T
  deriving DecidableEq

inductive Outcome where
  | ok
  | fails
  | stops
  deriving DecidableEq

/-- The control flow behind a step: on, out by an exception, or the process stops. -/
inductive Progress (T : Type v) where
  | next (c : Connection T)
  | raised (c : Connection T)
  | stopped (c : Connection T)
  deriving DecidableEq

section Driver
variable {T : Type v}

namespace Txn

def isIdle : Txn T → Bool
  | .idle => true
  | .opened _ | .aborted => false

def isAborted : Txn T → Bool
  | .aborted => true
  | .idle | .opened _ => false

end Txn

namespace Statement

/-- `COMMIT` and `ROLLBACK`, which also an aborted transaction takes. -/
def ends : Statement T → Bool
  | .commit | .rollback => true
  | .begin_ | .record _ | .query | .work _ => false

def isCommit : Statement T → Bool
  | .commit => true
  | .begin_ | .rollback | .record _ | .query | .work _ => false

def isBegin : Statement T → Bool
  | .begin_ => true
  | .commit | .rollback | .record _ | .query | .work _ => false

end Statement

def Store.apply (s : Store T) : Statement T → Store T
  | .record version =>
    if version ∈ s.versions then s else { s with versions := s.versions ++ [version] }
  | .work tokens => { s with log := s.log ++ [tokens] }
  | .begin_ | .commit | .rollback | .query => s

namespace Connection
variable (c : Connection T)

def view : Store T :=
  match c.txn with
  | .opened view => view
  | .idle | .aborted => c.durable

def reset : Connection T := ⟨c.durable, .idle⟩

/-- A statement: the driver opens a transaction, and a failure aborts it. A `COMMIT` that fails
has ended it. -/
def execute (o : Outcome) (st : Statement T) : Progress T :=
  match o with
  | .stops => .stopped c.reset
  | .fails => .raised ⟨c.durable, if st.isCommit then .idle else .aborted⟩
  | .ok =>
    if c.txn.isAborted then
      if st.ends then .next c.reset else .raised c
    else
      match st with
      | .commit => .next ⟨c.view, .idle⟩
      | .rollback => .next c.reset
      | st => .next ⟨c.durable, .opened (c.view.apply st)⟩

/-- `conn.commit()`: nothing is sent without a transaction. -/
def commit (o : Outcome) : Progress T :=
  match o with
  | .stops => .stopped c.reset
  | .fails => if c.txn.isIdle then .next c else .raised c.reset
  | .ok => .next ⟨c.view, .idle⟩

/-- Nothing is written that is not committed. -/
def Clean : Prop := c.view = c.durable

def Usable : Prop := c.Clean ∧ c.txn.isAborted = false

end Connection

end Driver

structure MigrationFile where
  stem : String
  sql : String
  deriving DecidableEq

namespace MigrationFile

def name (f : MigrationFile) : String := f.stem ++ ".sql"

def version (f : MigrationFile) : String := f.stem

end MigrationFile

/-- A directory: no two files of one name. -/
structure MigrationsDir where
  files : List MigrationFile
  distinct : (files.map MigrationFile.stem).Nodup

def listMigrationFiles (d : MigrationsDir) : List MigrationFile :=
  d.files.mergeSort fun f g => f.name ≤ g.name

/-- What happens at the statements and commits of one file, where they are reached. -/
structure FileOutcomes where
  statement : Nat → Outcome := fun _ => .ok
  commit : Outcome := .ok
  insert : Outcome := .ok
  insertCommit : Outcome := .ok
  retry : Outcome := .ok
  retryCommit : Outcome := .ok

/-- What happens in one call. -/
structure Outcomes where
  create : Outcome := .ok
  createCommit : Outcome := .ok
  select : Outcome := .ok
  file : String → FileOutcomes := fun _ => {}

inductive Answer where
  | returned (applied : List String)
  | raised
  | stopped
  deriving DecidableEq

/-- The database behind a connection: how it reads a text, and what its statements are. The
connection of the application puts `%s` for a question mark. -/
structure Server (σ : Type u) (T : Type v) where
  scanner : SqlScanner σ T
  kind : List T → Statement T
  proxied : Bool

section Runner
variable {σ : Type u} {T : Type v} [DecidableEq T] (t : TextRules) (db : Server σ T)

/-- `sql.replace("?", "%s")`. -/
def convert (sql : List Char) : List Char := sql.flatMap fun c => if c = '?' then ['%', 's'] else [c]

def sent (stmt : List Char) : List Char := if db.proxied then convert stmt else stmt

/-- Behind a `COMMIT` in the same text, what follows is committed at the text's end. -/
def batch (l : List (Statement T)) : List (Statement T) :=
  match l.reverse.find? fun st => st.ends || st.isBegin with
  | none => l
  | some control =>
    if control.ends = true ∧ l.getLast?.any Statement.ends = false then l ++ [.commit] else l

/-- The statements that the texts of `_execute_script` come to. -/
def script (f : MigrationFile) : List (Statement T) :=
  (executed t f.sql.toList).flatMap fun stmt =>
    batch ((db.scanner.statements (sent db stmt)).map db.kind)

/-- `_execute_script`. -/
def executeScript (o : Nat → Outcome) : List (Statement T) → Connection T → Progress T
  | [], c => .next c
  | st :: l, c =>
    match c.execute (o 0) st with
    | .next c => executeScript (fun n => o (n + 1)) l c
    | .raised c => .raised c
    | .stopped c => .stopped c

def insertVersion (insert commit : Outcome) (version : String) (c : Connection T) : Progress T :=
  match c.execute insert (.record version) with
  | .next c => c.commit commit
  | .raised c => .raised c
  | .stopped c => .stopped c

/-- The version row, tried twice. -/
def recordVersion (o : FileOutcomes) (version : String) (c : Connection T) : Progress T :=
  match insertVersion o.insert o.insertCommit version c with
  | .raised c =>
    match insertVersion o.retry o.retryCommit version c with
    | .raised c => .next c
    | .next c => .next c
    | .stopped c => .stopped c
  | .next c => .next c
  | .stopped c => .stopped c

def migrate (o : FileOutcomes) (f : MigrationFile) (c : Connection T) : Progress T :=
  match executeScript o.statement (script t db f) c with
  | .next c =>
    match c.commit o.commit with
    | .next c => recordVersion o f.version c
    -- the exception of the commit is passed over
    | .raised c => recordVersion o f.version c
    | .stopped c => .stopped c
  | .raised c => .raised c
  | .stopped c => .stopped c

def migrateAll (o : Outcomes) (already : List String) : List MigrationFile → List String →
    Connection T → Answer × Connection T
  | [], applied, c => (.returned applied, c)
  | f :: fs, applied, c =>
    if f.version ∈ already then migrateAll o already fs applied c
    else
      match migrate t db (o.file f.version) f c with
      | .next c => migrateAll o already fs (applied ++ [f.version]) c
      | .raised c => (.raised, c)
      | .stopped c => (.stopped, c)

def runMigrations (d : MigrationsDir) (o : Outcomes) (c : Connection T) : Answer × Connection T :=
  match c.execute o.create .query with
  | .next c =>
    match c.commit o.createCommit with
    | .next c =>
      match c.execute o.select .query with
      | .next c => migrateAll t db o c.view.versions (listMigrationFiles d) [] c
      -- `applied_versions` answers with the empty set
      | .raised c => migrateAll t db o [] (listMigrationFiles d) [] c
      | .stopped c => (.stopped, c)
    | .raised c => (.raised, c)
    | .stopped c => (.stopped, c)
  | .raised c => (.raised, c)
  | .stopped c => (.stopped, c)

end Runner

end Migrations
