import KalyxMao.ProgramPools
import KalyxMao.PythonText
import Mathlib.Data.List.AList

/-!
# The journal of idempotent operations

An executor begins an operation in the journal, does the work, and marks the
operation succeeded or failed. The insertion of a new row decides between
callers that begin at once; a row left behind by a failure is not written again
before the work is retried.
-/

namespace IdempotencyJournal
open PythonText EffectPrograms EffectPrograms.Prog ProgramPools

section Journal

inductive State where
  | started
  | succeeded
  | failed
  deriving DecidableEq

/-- A row of `idempotency_operations`, beside its key. -/
structure Row where
  fingerprint : String
  state : State
  receiptId : Option String

abbrev Table := AList fun _ : String => Row

/-- The statements of the journal, each committed as it ends, and what the executor does in
between: the work itself, and the reading of a stored receipt. -/
inductive Cmd where
  | insertStarted (key fingerprint : String)
  | selectOperation (key : String)
  | selectFingerprint (key : String)
  | updateSucceeded (key receiptId : String)
  | selectState (key : String)
  | updateFailed (key : String)
  | dispatch
  | readReceipt (receiptId : String)

abbrev Resp : Cmd → Type
  | .insertStarted _ _ => Except PyError Unit
  | .selectOperation _ => Except PyError (Option Row)
  | .selectFingerprint _ => Except PyError (Option Row)
  | .updateSucceeded _ _ => Except PyError Unit
  | .selectState _ => Except PyError (Option Row)
  | .updateFailed _ => Except PyError Unit
  | .dispatch => Except PyError String
  | .readReceipt _ => Except PyError Unit

abbrev Action (α : Type) := Prog Cmd Resp PyError α

def setState (w : Table) (key : String) (f : Row → Row) : Table :=
  match w.lookup key with
  | none => w
  | some row => w.insert key (f row)

/-- The input of a command: the exception it raises, or the receipt the work produces. -/
def respond : Handler Cmd Resp Table (Except PyError String)
  | .insertStarted key fingerprint, w, i =>
    match i with
    | .error e => (.error e, w)
    | .ok _ =>
      match w.lookup key with
      | some _ => (.error ⟨.integrityError,
          "UNIQUE constraint failed: idempotency_operations.operation_key"⟩, w)
      | none => (.ok (), w.insert key ⟨fingerprint, .started, none⟩)
  | .selectOperation key, w, i => (i.map fun _ => w.lookup key, w)
  | .selectFingerprint key, w, i => (i.map fun _ => w.lookup key, w)
  | .updateSucceeded key receiptId, w, i =>
    match i with
    | .error e => (.error e, w)
    | .ok _ => (.ok (), setState w key fun row =>
        { row with state := .succeeded, receiptId := some receiptId })
  | .selectState key, w, i => (i.map fun _ => w.lookup key, w)
  | .updateFailed key, w, i =>
    match i with
    | .error e => (.error e, w)
    | .ok _ => (.ok (), setState w key fun row => { row with state := .failed })
  | .dispatch, w, i => (i, w)
  | .readReceipt _, w, i => (i.map fun _ => (), w)

end Journal

section Programs
variable (key fingerprint : String)

abbrev insertStarted : Action (Except PyError Unit) := perform (Cmd.insertStarted key fingerprint)

abbrev selectOperation : Action (Except PyError (Option Row)) :=
  perform (Cmd.selectOperation key)

abbrev selectFingerprint : Action (Except PyError (Option Row)) :=
  perform (Cmd.selectFingerprint key)

abbrev dispatch : Action (Except PyError String) := perform Cmd.dispatch

def conflict : PyError := ⟨.idempotencyConflict, "Unknown or mismatched idempotency operation"⟩

/-- `begin`. Its exceptions, and those of `succeed`, are values since `execute` catches them;
`IdempotencyInProgress` is the only `RuntimeError` here. -/
def begin : Action (Except PyError (Option String)) := do
  if key = "" ∨ fingerprint = "" then
    return .error ⟨.valueError, "operation_key and fingerprint are required"⟩
  match ← insertStarted key fingerprint with
  | .ok () => return .ok none
  | .error e =>
    if e.kind ≠ .integrityError then
      return .error e
    match ← selectOperation key with
    | .error e => return .error e
    | .ok none => return .error e
    | .ok (some row) =>
      if row.fingerprint ≠ fingerprint then
        return .error ⟨.idempotencyConflict,
          s!"Operation key '{key}' was already bound to different content"⟩
      match row.state with
      | .succeeded => return .ok row.receiptId
      | .started => return .error ⟨.runtimeError, s!"Operation key '{key}' is already in progress"⟩
      | .failed => return .ok none

def succeed (receiptId : String) : Action (Except PyError Unit) := do
  if receiptId = "" then
    return .error ⟨.valueError, "receipt_id is required"⟩
  match ← selectFingerprint key with
  | .error e => return .error e
  | .ok none => return .error conflict
  | .ok (some row) =>
    if row.fingerprint ≠ fingerprint then
      return .error conflict
    perform (Cmd.updateSucceeded key receiptId)

def fail : Action Unit := do
  match ← ofExcept (← perform (.selectState key)) with
  | none => .raise conflict
  | some row =>
    if row.fingerprint ≠ fingerprint then
      .raise conflict
    else if row.state ≠ .succeeded then
      ofExcept (← perform (.updateFailed key))

def unresolved (e : PyError) : PyError :=
  if e.kind = .runtimeError then ⟨.externalExecutionError,
    "Operation is unresolved (STARTED); reconcile the external provider before retrying"⟩
  else e

/-- `DurableControlledExternalExecutor.execute`: the identifier of the receipt. -/
def execute : Action String := do
  let prior ← ofExcept ((← begin key fingerprint).mapError unresolved)
  if prior.getD "" ≠ "" then
    ofExcept (← perform (.readReceipt (prior.getD "")))
    return prior.getD ""
  match ← dispatch with
  | .error e =>
    fail key fingerprint
    .raise e
  | .ok receiptId =>
    match ← succeed key fingerprint receiptId with
    | .ok () => return receiptId
    | .error e =>
      fail key fingerprint
      .raise e

end Programs

section Ownership

/-- How far a caller is: what `begin` has permitted is owned until `succeed` or `fail` is through,
which may have recorded a receipt. -/
inductive Phase where
  | begins
  | owns
  | finished (recorded : Option String)

structure Mark where
  key : String
  fingerprint : String
  phase : Phase

/-- A row of the same work on which `begin` permits to run. -/
def Row.permits (row : Row) (fingerprint : String) : Bool :=
  row.fingerprint = fingerprint &&
    match row.state with
    | .started => false
    | .succeeded => row.receiptId.getD "" = ""
    | .failed => true

def Mark.enter (g : Mark) (phase : Phase) : Mark := { g with phase }

def ownership : Protocol Cmd Resp Mark where
  allowed g c :=
    match c with
    | .insertStarted key fingerprint =>
      key = g.key ∧ fingerprint = g.fingerprint ∧ g.phase = .begins
    | .selectOperation key => key = g.key ∧ g.phase = .begins
    | .selectFingerprint key => key = g.key ∧ g.phase = .owns
    | .updateSucceeded key receiptId => key = g.key ∧ g.phase = .owns ∧ receiptId ≠ ""
    | .selectState key => key = g.key ∧ g.phase = .owns
    | .updateFailed key => key = g.key ∧ g.phase = .owns
    | .dispatch => g.phase = .owns
    | .readReceipt _ => True
  after g c answer :=
    match c, answer with
    | .insertStarted _ _, .ok _ => g.enter .owns
    | .selectOperation _, .ok (some row) => if row.permits g.fingerprint then g.enter .owns else g
    | .updateSucceeded _ receiptId, .ok _ => g.enter (.finished (some receiptId))
    | .selectState _, .ok (some row) =>
      if row.fingerprint = g.fingerprint ∧ row.state ≠ .succeeded then g
      else g.enter (.finished none)
    | .selectState _, _ => g.enter (.finished none)
    | .updateFailed _, _ => g.enter (.finished none)
    | _, _ => g

abbrev Callers := Pool Cmd Resp PyError Mark String

/-- Executions of operations, given by their keys and fingerprints. -/
def callers (operations : List (String × String)) : Callers :=
  operations.map fun o => ⟨⟨o.1, o.2, .begins⟩, execute o.1 o.2⟩

end Ownership

section Property

def Owns (gs : List Mark) (n : Nat) (key : String) : Prop :=
  ∃ g, gs[n]? = some g ∧ g.key = key ∧ g.phase = .owns

def Recorded (gs : List Mark) (n : Nat) (key : String) : Prop :=
  ∃ g receiptId, gs[n]? = some g ∧ g.key = key ∧ g.phase = .finished (some receiptId)

/-- One owner of a key at most, and one success recorded for it. -/
structure Exclusive (gs : List Mark) : Prop where
  owner : ∀ key m n, Owns gs m key → Owns gs n key → m = n
  success : ∀ key m n, Recorded gs m key → Recorded gs n key → m = n

/-- A key marked succeeded stays so, with its receipt. -/
def KeepsSuccess (w w' : Table) : Prop :=
  ∀ key row, w.lookup key = some row → row.state = .succeeded → w'.lookup key = some row

/-- Every state and every step of a run. -/
def RunSound : List (Nat × Except PyError String) → Callers → Table → Prop
  | [], pool, _ => Exclusive (marks pool)
  | (n, i) :: rest, pool, w => Exclusive (marks pool) ∧
      KeepsSuccess w (turn respond ownership n i pool w).2 ∧
      RunSound rest (turn respond ownership n i pool w).1 (turn respond ownership n i pool w).2

/-- A caller that finds its operation failed finds it owned by nobody. -/
def MeetsTurn (n : Nat) (i : Except PyError String) (pool : Callers) (w : Table) : Prop :=
  ∀ g key next row receiptId, pool[n]? = some ⟨g, .call (.selectOperation key) next⟩ →
    i = .ok receiptId → w.lookup key = some row → row.fingerprint = g.fingerprint →
    row.state = .failed → ∀ m, ¬Owns (marks pool) m key

def MeetsRun : List (Nat × Except PyError String) → Callers → Table → Prop
  | [], _, _ => True
  | (n, i) :: rest, pool, w => MeetsTurn n i pool w ∧
      MeetsRun rest (turn respond ownership n i pool w).1 (turn respond ownership n i pool w).2

end Property

section Discipline
variable {key fingerprint : String}

/-- Where `begin` permits to run, the caller owns the key. -/
theorem follows_begin :
    Follows ownership (fun answer g => ∃ phase, g = ⟨key, fingerprint, phase⟩ ∧
        ∀ prior, answer = .ok prior → prior.getD "" = "" → phase = .owns)
      (begin key fingerprint) ⟨key, fingerprint, .begins⟩ := by
  rw [begin]
  split
  · exact ⟨.begins, rfl, fun prior same => nomatch same⟩
  · refine Follows.perform ⟨rfl, rfl, rfl⟩ ?_
    rintro (e | ⟨⟨⟩⟩)
    · dsimp only
      split
      · exact ⟨.begins, rfl, fun prior same => nomatch same⟩
      · refine Follows.perform ⟨rfl, rfl⟩ ?_
        rintro (e' | row | row)
        · exact ⟨.begins, rfl, fun prior same => nomatch same⟩
        · exact ⟨.begins, rfl, fun prior same => nomatch same⟩
        · have entered : ownership.after ⟨key, fingerprint, .begins⟩ (.selectOperation key)
              (.ok (some row)) = ⟨key, fingerprint,
                if row.permits fingerprint then .owns else .begins⟩ := by
            show (if _ then _ else _) = _
            split_ifs
            · rfl
            · rfl
          change Follows ownership _ _ (ownership.after ⟨key, fingerprint, .begins⟩
            (.selectOperation key) (.ok (some row)))
          rw [entered]
          dsimp only
          split
          · exact ⟨_, rfl, fun prior same => nomatch same⟩
          · rename_i same
            have bound : row.fingerprint = fingerprint := not_not.mp same
            cases state : row.state with
            | succeeded =>
              refine ⟨_, rfl, fun prior same empty => if_pos ?_⟩
              obtain rfl := Except.ok.inj same
              simp [Row.permits, bound, state, empty]
            | started => exact ⟨_, rfl, fun prior same => nomatch same⟩
            | failed =>
              refine ⟨_, rfl, fun prior same empty => if_pos ?_⟩
              simp [Row.permits, bound, state]
    · exact ⟨.owns, rfl, fun _ _ _ => rfl⟩

theorem follows_fail :
    Follows ownership (fun _ _ => True) (fail key fingerprint) ⟨key, fingerprint, .owns⟩ := by
  refine Follows.perform ⟨rfl, rfl⟩ ?_
  rintro (e | row | row)
  · trivial
  · trivial
  · show Follows ownership _ (if row.fingerprint ≠ fingerprint then .raise conflict
      else if row.state ≠ .succeeded then _ else _) (if _ then _ else _)
    split
    · trivial
    · rename_i same
      split
      · rename_i unfinished
        rw [if_pos ⟨not_not.mp same, unfinished⟩]
        refine Follows.perform ⟨rfl, rfl⟩ fun answer => ?_
        exact Follows.ofExcept fun _ _ => trivial
      · trivial

/-- Where `succeed` raises, the caller still owns the key. -/
theorem follows_succeed {receiptId : String} :
    Follows ownership (fun answer g => ∀ e, answer = .error e → g = ⟨key, fingerprint, .owns⟩)
      (succeed key fingerprint receiptId) ⟨key, fingerprint, .owns⟩ := by
  rw [succeed]
  split
  · exact fun e _ => rfl
  · rename_i given
    refine Follows.perform ⟨rfl, rfl⟩ ?_
    rintro (e | row | row)
    · exact fun e _ => rfl
    · exact fun e _ => rfl
    · dsimp only
      split
      · exact fun e _ => rfl
      · refine Follows.perform (f := .ret) ⟨rfl, rfl, given⟩ ?_
        rintro (e | ⟨⟨⟩⟩)
        · exact fun e _ => rfl
        · exact fun e same => nomatch same

theorem follows_execute :
    Follows ownership (fun _ _ => True) (execute key fingerprint) ⟨key, fingerprint, .begins⟩ := by
  rw [execute]
  refine Follows.bind follows_begin ?_
  rintro answer _ ⟨phase, rfl, permitted⟩
  refine Follows.bind (Q := fun prior g => g = ⟨key, fingerprint, phase⟩ ∧ answer = .ok prior)
    (Follows.ofExcept fun prior ok => ⟨rfl, ?_⟩) ?_
  · cases answer with
    | ok prior' => rw [Except.ok.inj ok]
    | error e => cases ok
  · rintro prior _ ⟨rfl, begun⟩
    split
    · refine Follows.perform trivial fun read => ?_
      exact Follows.bind (Q := fun _ _ => True) (Follows.ofExcept fun _ _ => trivial)
        fun _ _ _ => trivial
    · rename_i absent
      obtain rfl := permitted prior begun (not_not.mp absent)
      refine Follows.perform rfl ?_
      rintro (e | receiptId)
      · exact Follows.bind follows_fail fun _ _ _ => trivial
      · refine Follows.bind follows_succeed ?_
        rintro (e | ⟨⟨⟩⟩) g still
        · obtain rfl := still e rfl
          exact Follows.bind follows_fail fun _ _ _ => trivial
        · trivial

theorem disciplined_callers (operations : List (String × String)) :
    Disciplined ownership (callers operations) := by
  intro t mem
  obtain ⟨o, -, rfl⟩ := List.mem_map.mp mem
  exact follows_execute

end Discipline

section Effects
variable {gs : List Mark} {g g' : Mark} {w w' : Table} {n m : Nat} {key : String}
  {c : Cmd} {i : Except PyError String}

theorem lookup_insert (w : Table) (key other : String) (row : Row) :
    (w.insert key row).lookup other = if other = key then some row else w.lookup other := by
  split_ifs with same
  · rw [same, AList.lookup_insert]
  · rw [AList.lookup_insert_ne same]

theorem owns_set (at_ : gs[n]? = some g) :
    Owns (gs.set n g') m key ↔ if m = n then g'.key = key ∧ g'.phase = .owns else Owns gs m key := by
  have inside : n < gs.length := (List.getElem?_eq_some_iff.mp at_).1
  unfold Owns
  split_ifs with same
  · rw [same, List.getElem?_set_self inside]
    constructor
    · rintro ⟨h, found, owned⟩
      exact Option.some.inj found ▸ owned
    · intro owned
      exact ⟨g', rfl, owned⟩
  · rw [List.getElem?_set_ne (Ne.symm same)]

theorem recorded_set (at_ : gs[n]? = some g) :
    Recorded (gs.set n g') m key ↔ if m = n then
      g'.key = key ∧ ∃ receiptId, g'.phase = .finished (some receiptId) else Recorded gs m key := by
  have inside : n < gs.length := (List.getElem?_eq_some_iff.mp at_).1
  unfold Recorded
  split_ifs with same
  · rw [same, List.getElem?_set_self inside]
    constructor
    · rintro ⟨h, receiptId, found, named, done⟩
      obtain rfl := Option.some.inj found
      exact ⟨named, receiptId, done⟩
    · rintro ⟨named, receiptId, done⟩
      exact ⟨g', receiptId, rfl, named, done⟩
  · rw [List.getElem?_set_ne (Ne.symm same)]

/-- What a command allowed to a caller does to its mark and to the table. -/
inductive Effect (c : Cmd) (i : Except PyError String) (g : Mark) (w : Table) : Mark → Table → Prop
  | quiet : Effect c i g w g w
  | giveUp (owned : g.phase = .owns) : Effect c i g w (g.enter (.finished none)) w
  | insert (begins : g.phase = .begins) (new : w.lookup g.key = none) :
    Effect c i g w (g.enter .owns) (w.insert g.key ⟨g.fingerprint, .started, none⟩)
  | permit (row : Row) (begins : g.phase = .begins) (asked : c = .selectOperation g.key)
    (answered : ∃ receiptId, i = .ok receiptId) (found : w.lookup g.key = some row)
    (permits : row.permits g.fingerprint = true) : Effect c i g w (g.enter .owns) w
  | succeed (receiptId : String) (owned : g.phase = .owns) (given : receiptId ≠ "") :
    Effect c i g w (g.enter (.finished (some receiptId))) (setState w g.key fun row =>
      { row with state := .succeeded, receiptId := some receiptId })
  | fail (owned : g.phase = .owns) : Effect c i g w (g.enter (.finished none))
      (setState w g.key fun row => { row with state := .failed })

theorem effect_of_allowed (allowed : ownership.allowed g c) :
    Effect c i g w (ownership.after g c (respond c w i).1) (respond c w i).2 := by
  cases c with
  | insertStarted key fingerprint =>
    obtain ⟨rfl, rfl, begins⟩ := allowed
    unfold respond
    cases i with
    | error e => exact .quiet
    | ok receiptId =>
      dsimp only
      split
      · exact .quiet
      · rename_i new
        exact .insert begins new
  | selectOperation key =>
    obtain ⟨rfl, begins⟩ := allowed
    cases i with
    | error e => exact .quiet
    | ok receiptId =>
      show Effect _ _ g w (ownership.after g (.selectOperation g.key) (.ok (w.lookup g.key))) w
      cases found : w.lookup g.key with
      | none => exact .quiet
      | some row =>
        show Effect _ _ g w (if row.permits g.fingerprint then g.enter .owns else g) w
        split_ifs with permits
        · exact .permit row begins rfl ⟨receiptId, rfl⟩ found permits
        · exact .quiet
  | selectFingerprint key =>
    cases i with
    | error e => exact .quiet
    | ok receiptId => exact .quiet
  | updateSucceeded key receiptId =>
    obtain ⟨rfl, owned, given⟩ := allowed
    cases i with
    | error e => exact .quiet
    | ok _ => exact .succeed receiptId owned given
  | selectState key =>
    obtain ⟨rfl, owned⟩ := allowed
    cases i with
    | error e => exact .giveUp owned
    | ok receiptId =>
      show Effect _ _ g w (ownership.after g (.selectState g.key) (.ok (w.lookup g.key))) w
      cases found : w.lookup g.key with
      | none => exact .giveUp owned
      | some row =>
        show Effect _ _ g w (if row.fingerprint = g.fingerprint ∧ row.state ≠ .succeeded then g
          else g.enter (.finished none)) w
        split_ifs
        · exact .quiet
        · exact .giveUp owned
  | updateFailed key =>
    obtain ⟨rfl, owned⟩ := allowed
    cases i with
    | error e => exact .giveUp owned
    | ok receiptId => exact .fail owned
  | dispatch => exact .quiet
  | readReceipt receiptId => exact .quiet

end Effects

section Invariant
variable {gs : List Mark} {g g' : Mark} {w w' : Table} {n : Nat} {key : String}
  {c : Cmd} {i : Except PyError String}

/-- Owners hold keys that have not succeeded, and what is recorded is stored. -/
structure Consistent (gs : List Mark) (w : Table) : Prop where
  exclusive : Exclusive gs
  held : ∀ n key, Owns gs n key → ∃ row, w.lookup key = some row ∧ row.state ≠ .succeeded
  stored : ∀ n key, Recorded gs n key → ∃ row, w.lookup key = some row ∧ row.state = .succeeded
  receipts : ∀ key row, w.lookup key = some row → row.state = .succeeded →
    row.receiptId.getD "" ≠ ""

theorem KeepsSuccess.refl (w : Table) : KeepsSuccess w w := fun _ _ found _ => found

/-- An owner finishes, whatever becomes of its row. -/
theorem consistent_finish (consistent : Consistent gs w) (at_ : gs[n]? = some g)
    (owned : g.phase = .owns) {recorded : Option String} {row row' : Row}
    (found : w.lookup g.key = some row)
    (written : ∀ key, w'.lookup key = if key = g.key then some row' else w.lookup key)
    (kept : ∀ receiptId, recorded = some receiptId → row'.state = .succeeded)
    (receipts : row'.state = .succeeded → row'.receiptId.getD "" ≠ "") :
    Consistent (gs.set n (g.enter (.finished recorded))) w' ∧ KeepsSuccess w w' := by
  have owner : Owns gs n g.key := ⟨g, at_, rfl, owned⟩
  have open_ : row.state ≠ .succeeded := by
    obtain ⟨row₁, found₁, open_⟩ := consistent.held n g.key owner
    rw [found] at found₁
    rwa [Option.some.inj found₁]
  have owners {m : Nat} {key : String}
      (owns : Owns (gs.set n (g.enter (.finished recorded))) m key) :
      Owns gs m key ∧ key ≠ g.key := by
    rw [owns_set at_] at owns
    split_ifs at owns with same
    · cases owns.2
    · refine ⟨owns, ?_⟩
      rintro rfl
      exact same (consistent.exclusive.owner g.key m n owns owner)
  have others {m : Nat} {key : String} (recorded_ : Recorded gs m key) : key ≠ g.key := by
    rintro rfl
    obtain ⟨row₁, found₁, done⟩ := consistent.stored m g.key recorded_
    rw [found] at found₁
    exact open_ (Option.some.inj found₁ ▸ done)
  refine ⟨⟨⟨?_, ?_⟩, ?_, ?_, ?_⟩, ?_⟩
  · intro key m m' first second
    exact consistent.exclusive.owner key m m' (owners first).1 (owners second).1
  · intro key m m' first second
    rw [recorded_set at_] at first second
    split_ifs at first second with here there there
    · rw [here, there]
    · exact absurd first.1.symm (others second)
    · exact absurd second.1.symm (others first)
    · exact consistent.exclusive.success key m m' first second
  · intro m key owns
    obtain ⟨before, other⟩ := owners owns
    rw [written, if_neg other]
    exact consistent.held m key before
  · intro m key done
    rw [recorded_set at_] at done
    rw [written]
    split_ifs at done with here
    · obtain ⟨named, receiptId, phase⟩ := done
      rw [if_pos (show key = g.key from named.symm)]
      exact ⟨row', rfl, kept receiptId (Phase.finished.inj phase)⟩
    · rw [if_neg (others done)]
      exact consistent.stored m key done
  · intro key row₁ found₁ done
    rw [written] at found₁
    split_ifs at found₁ with same
    · obtain rfl := Option.some.inj found₁
      exact receipts done
    · exact consistent.receipts key row₁ found₁ done
  · intro key row₁ found₁ done
    rw [written, if_neg]
    · exact found₁
    · rintro rfl
      rw [found] at found₁
      exact open_ (Option.some.inj found₁ ▸ done)

/-- A caller becomes the owner of a key that nobody owns and that has not succeeded. -/
theorem consistent_own (consistent : Consistent gs w) (at_ : gs[n]? = some g)
    (free : ∀ m, ¬Owns gs m g.key) {row : Row} (found : w'.lookup g.key = some row)
    (open_ : row.state ≠ .succeeded)
    (same : ∀ key, (w.lookup key).isSome → w'.lookup key = w.lookup key)
    (new : ∀ key row, w'.lookup key = some row → row.state = .succeeded →
      w.lookup key = some row) :
    Consistent (gs.set n (g.enter .owns)) w' := by
  have known {key : String} {P : Row → Prop} (here : ∃ row, w.lookup key = some row ∧ P row) :
      ∃ row, w'.lookup key = some row ∧ P row := by
    obtain ⟨row₁, found₁, holds⟩ := here
    refine ⟨row₁, ?_, holds⟩
    rw [same key (by rw [found₁]; rfl), found₁]
  have before {m : Nat} {key : String} (done : Recorded (gs.set n (g.enter .owns)) m key) :
      Recorded gs m key := by
    rw [recorded_set at_] at done
    split_ifs at done
    · obtain ⟨-, receiptId, phase⟩ := done
      cases phase
    · exact done
  refine ⟨⟨?_, ?_⟩, ?_, ?_, ?_⟩
  · intro key m m' first second
    rw [owns_set at_] at first second
    split_ifs at first second with here there there
    · rw [here, there]
    · obtain rfl : g.key = key := first.1
      exact absurd second (free m')
    · obtain rfl : g.key = key := second.1
      exact absurd first (free m)
    · exact consistent.exclusive.owner key m m' first second
  · intro key m m' first second
    exact consistent.exclusive.success key m m' (before first) (before second)
  · intro m key owns
    rw [owns_set at_] at owns
    split_ifs at owns
    · obtain rfl : g.key = key := owns.1
      exact ⟨row, found, open_⟩
    · exact known (consistent.held m key owns)
  · intro m key done
    exact known (consistent.stored m key (before done))
  · intro key row₁ found₁ done
    exact consistent.receipts key row₁ (new key row₁ found₁ done) done

theorem setState_lookup {row : Row} {f : Row → Row} (found : w.lookup key = some row) (other : String) :
    (setState w key f).lookup other = if other = key then some (f row) else w.lookup other := by
  unfold setState
  rw [found]
  exact lookup_insert w key other (f row)

/-- One command keeps the marks and the table consistent, if no retry is permitted beside an owner. -/
theorem consistent_step (consistent : Consistent gs w) (at_ : gs[n]? = some g)
    (effect : Effect c i g w g' w')
    (meets : ∀ row receiptId, c = .selectOperation g.key → i = .ok receiptId →
      w.lookup g.key = some row → row.fingerprint = g.fingerprint → row.state = .failed →
      ∀ m, ¬Owns gs m g.key) :
    Consistent (gs.set n g') w' ∧ KeepsSuccess w w' := by
  have held (owned : g.phase = .owns) := consistent.held n g.key ⟨g, at_, rfl, owned⟩
  cases effect with
  | quiet =>
    obtain ⟨inside, rfl⟩ := List.getElem?_eq_some_iff.mp at_
    rw [List.set_getElem_self]
    exact ⟨consistent, .refl w⟩
  | giveUp owned =>
    obtain ⟨row, found, -⟩ := held owned
    refine consistent_finish consistent at_ owned found (fun key => ?_) (fun _ none => nomatch none)
      (consistent.receipts g.key row found)
    split_ifs with same
    · rw [same, found]
    · rfl
  | insert begins new =>
    refine ⟨consistent_own consistent at_ (fun m owns => ?_) (AList.lookup_insert w)
      (fun same => nomatch same) (fun key known => ?_) (fun key row found done => ?_),
      fun key row found done => ?_⟩
    · obtain ⟨row, found, -⟩ := consistent.held m g.key owns
      cases new.symm.trans found
    · rw [lookup_insert, if_neg]
      rintro rfl
      rw [new] at known
      cases known
    · rw [lookup_insert] at found
      split_ifs at found
      · obtain rfl := Option.some.inj found
        cases done
      · exact found
    · rw [lookup_insert, if_neg]
      · exact found
      · rintro rfl
        cases new.symm.trans found
  | permit row begins asked answered found permits =>
    obtain ⟨receiptId, answered⟩ := answered
    unfold Row.permits at permits
    rw [Bool.and_eq_true, decide_eq_true_iff] at permits
    have failed : row.state = .failed := by
      cases state : row.state with
      | started =>
        rw [state] at permits
        cases permits.2
      | succeeded =>
        rw [state] at permits
        exact absurd (of_decide_eq_true permits.2) (consistent.receipts g.key row found state)
      | failed => rfl
    have free := meets row receiptId asked answered found permits.1 failed
    refine ⟨consistent_own consistent at_ free found ?_ (fun _ _ => rfl)
      (fun _ _ found _ => found), .refl w⟩
    rw [failed]
    exact fun same => nomatch same
  | succeed receiptId owned given =>
    obtain ⟨row, found, -⟩ := held owned
    exact consistent_finish consistent at_ owned found (setState_lookup found) (fun _ _ => rfl)
      fun _ => given
  | fail owned =>
    obtain ⟨row, found, -⟩ := held owned
    exact consistent_finish consistent at_ owned found (setState_lookup found)
      (fun _ none => nomatch none) fun same => nomatch same

end Invariant

section Runs
variable {pool : Callers} {w : Table} {n : Nat} {i : Except PyError String}

theorem marks_at {g : Mark} {program : Prog Cmd Resp PyError String}
    (at_ : pool[n]? = some ⟨g, program⟩) : (marks pool)[n]? = some g := by
  rw [marks, List.getElem?_map, at_]
  rfl

theorem consistent_turn (disciplined : Disciplined ownership pool)
    (consistent : Consistent (marks pool) w) (meets : MeetsTurn n i pool w) :
    Consistent (marks (turn respond ownership n i pool w).1) (turn respond ownership n i pool w).2 ∧
      KeepsSuccess w (turn respond ownership n i pool w).2 := by
  rcases turn_cases (h := respond) (P := ownership) n i pool w with
    still | ⟨g, c, next, at_, moved⟩
  · rw [still]
    exact ⟨consistent, .refl w⟩
  · have allowed := (disciplined _ (List.mem_of_getElem? at_)).1
    rw [moved, marks_set]
    refine consistent_step consistent (marks_at at_) (effect_of_allowed allowed) ?_
    rintro row receiptId rfl
    exact meets g g.key next row receiptId at_

/-- A retry permitted beside an owner makes two owners. -/
theorem meets_of_exclusive (disciplined : Disciplined ownership pool)
    (after : Exclusive (marks (turn respond ownership n i pool w).1)) : MeetsTurn n i pool w := by
  rintro g key next row receiptId at_ rfl found bound failed m owns
  have allowed : key = g.key ∧ g.phase = .begins := (disciplined _ (List.mem_of_getElem? at_)).1
  obtain ⟨rfl, begins⟩ := allowed
  have mark := marks_at at_
  have apart : m ≠ n := by
    rintro rfl
    obtain ⟨g', at_', -, owned⟩ := owns
    rw [mark] at at_'
    obtain rfl := Option.some.inj at_'
    cases begins.symm.trans owned
  have permitted : ownership.after g (.selectOperation g.key) (.ok (w.lookup g.key)) =
      g.enter .owns := by
    rw [found]
    refine if_pos ?_
    rw [Row.permits, failed, bound, decide_eq_true rfl]
    rfl
  have moved : marks (turn respond ownership n (.ok receiptId) pool w).1 =
      (marks pool).set n (g.enter .owns) := by
    unfold turn
    rw [at_]
    dsimp only
    rw [marks_set]
    exact congrArg _ permitted
  rw [moved] at after
  refine apart (after.owner g.key m n ?_ ?_)
  · rw [owns_set mark, if_neg apart]
    exact owns
  · rw [owns_set mark, if_pos rfl]
    exact ⟨rfl, rfl⟩

theorem runSound_of_meets {schedule : List (Nat × Except PyError String)}
    (disciplined : Disciplined ownership pool) (consistent : Consistent (marks pool) w)
    (meets : MeetsRun schedule pool w) : RunSound schedule pool w := by
  induction schedule generalizing pool w with
  | nil => exact consistent.exclusive
  | cons step rest ih =>
    obtain ⟨n, i⟩ := step
    obtain ⟨next, kept⟩ := consistent_turn disciplined consistent meets.1
    exact ⟨consistent.exclusive, kept, ih (disciplined_turn disciplined) next meets.2⟩

theorem meets_of_runSound {schedule : List (Nat × Except PyError String)}
    (disciplined : Disciplined ownership pool) (sound : RunSound schedule pool w) :
    MeetsRun schedule pool w := by
  induction schedule generalizing pool w with
  | nil => trivial
  | cons step rest ih =>
    obtain ⟨n, i⟩ := step
    obtain ⟨-, -, later⟩ := sound
    refine ⟨meets_of_exclusive disciplined ?_, ih (disciplined_turn disciplined) later⟩
    cases rest with
    | nil => exact later
    | cons => exact later.1

theorem consistent_start (operations : List (String × String)) :
    Consistent (marks (callers operations)) ∅ := by
  have begins {n : Nat} {g : Mark} (found : (marks (callers operations))[n]? = some g) :
      g.phase = .begins := by
    obtain ⟨t, mem, rfl⟩ := List.mem_map.mp (List.mem_of_getElem? found)
    obtain ⟨o, -, rfl⟩ := List.mem_map.mp mem
    rfl
  have unowned (n : Nat) (key : String) : ¬Owns (marks (callers operations)) n key := by
    rintro ⟨g, found, -, owned⟩
    cases (begins found).symm.trans owned
  have unrecorded (n : Nat) (key : String) : ¬Recorded (marks (callers operations)) n key := by
    rintro ⟨g, receiptId, found, -, done⟩
    cases (begins found).symm.trans done
  refine ⟨⟨?_, ?_⟩, ?_, ?_, ?_⟩
  · intro key m n owns
    exact absurd owns (unowned m key)
  · intro key m n done
    exact absurd done (unrecorded m key)
  · intro n key owns
    exact absurd owns (unowned n key)
  · intro n key done
    exact absurd done (unrecorded n key)
  · intro key row found
    cases found

/-- A key has one owner and one recorded success at a time, and a success stays, in exactly the
runs in which no caller finds its operation failed while another owns it. -/
theorem journal_exclusive (operations : List (String × String))
    (schedule : List (Nat × Except PyError String)) :
    RunSound schedule (callers operations) ∅ ↔ MeetsRun schedule (callers operations) ∅ :=
  ⟨meets_of_runSound (disciplined_callers operations),
    runSound_of_meets (disciplined_callers operations) (consistent_start operations)⟩

end Runs

section Sample

/-- One caller fails, then two others find the operation failed. -/
def sampleSchedule : List (Nat × Except PyError String) :=
  [(0, .ok ""), (0, .error ⟨.externalExecutionError, "External call timed out after 10.0s"⟩),
    (0, .ok ""), (0, .ok ""), (1, .ok ""), (1, .ok ""), (2, .ok ""), (2, .ok "")]

/-- Both of them are permitted to run. -/
theorem retried_twice :
    ¬RunSound sampleSchedule (callers [("k", "f"), ("k", "f"), ("k", "f")]) ∅ := by
  intro sound
  have meets := meets_of_runSound (disciplined_callers _) sound
  obtain ⟨-, -, -, -, -, -, -, last, -⟩ := meets
  exact last _ _ _ _ _ rfl rfl rfl rfl rfl 1 ⟨_, rfl, rfl, rfl⟩

end Sample

end IdempotencyJournal
