import Mathlib.Tactic.ByContra
import Mathlib.Tactic.SplitIfs

/-!
# A database file and its connections

One connection at a time may hold an open write transaction, which it sees and
the others do not. Callers that share a connection share its transaction, so
one of them may commit or roll back what another has written.
-/

namespace Connections

universe u
variable {T : Type u} {E α : Type}

structure Store (T : Type u) where
  committed : T
  pending : Option (Nat × T)

namespace Store

def view (s : Store T) (conn : Nat) : T :=
  match s.pending with
  | some (c, t) => if c = conn then t else s.committed
  | none => s.committed

/-- Another connection holds the write transaction. -/
def Locked (s : Store T) (conn : Nat) : Prop := ∃ c t, s.pending = some (c, t) ∧ c ≠ conn

instance (s : Store T) (conn : Nat) : Decidable (s.Locked conn) :=
  match h : s.pending with
  | none => isFalse (by rintro ⟨c, t, held, -⟩; cases h.symm.trans held)
  | some (c, t) =>
    if same : c = conn then
      isFalse (by
        rintro ⟨c', t', held, other⟩
        cases h.symm.trans held
        exact other same)
    else isTrue ⟨c, t, h, same⟩

/-- A statement that writes opens a transaction, also where it fails. -/
def write (s : Store T) (conn : Nat) (locked : E) (f : T → Except E (α × T)) :
    Except E α × Store T :=
  if s.Locked conn then (.error locked, s)
  else match f (s.view conn) with
    | .error e => (.error e, ⟨s.committed, some (conn, s.view conn)⟩)
    | .ok (x, t) => (.ok x, ⟨s.committed, some (conn, t)⟩)

def commit (s : Store T) (conn : Nat) : Store T :=
  match s.pending with
  | some (c, t) => if c = conn then ⟨t, none⟩ else s
  | none => s

def rollback (s : Store T) (conn : Nat) : Store T :=
  match s.pending with
  | some (c, _) => if c = conn then ⟨s.committed, none⟩ else s
  | none => s

/-- What holds of the committed table holds of the open transaction. -/
def Inherits (P : T → Prop) (s : Store T) : Prop :=
  P s.committed → ∀ c t, s.pending = some (c, t) → P t

variable {P : T → Prop} {s : Store T} {conn other : Nat} {locked : E}
  {f : T → Except E (α × T)}

theorem Inherits.view (inherits : Inherits P s) (now : P s.committed) (conn : Nat) :
    P (s.view conn) := by
  unfold Store.view
  split
  · rename_i c t held
    split
    · exact inherits now c t held
    · exact now
  · exact now

/-- The connection that may write sees whatever any connection sees. -/
theorem Inherits.seen (inherits : Inherits P s) (free : ¬s.Locked conn)
    (seen : P (s.view other)) : P (s.view conn) := by
  unfold Store.view at seen ⊢
  split
  · rename_i c t held
    rw [held] at seen
    have own : c = conn := by
      by_contra strange
      exact free ⟨c, t, held, strange⟩
    rw [if_pos own]
    dsimp only at seen
    split at seen
    · exact seen
    · exact inherits seen c t held
  · rename_i none
    rw [none] at seen
    exact seen

/-- Beside the one that may write, the connections see what is committed. -/
theorem view_of_unlocked (free : ¬s.Locked conn) (strange : conn ≠ other) :
    s.view other = s.committed := by
  unfold Store.view
  split
  · rename_i c t held
    refine if_neg ?_
    rintro rfl
    exact free ⟨c, t, held, Ne.symm strange⟩
  · rfl

theorem write_cases (s : Store T) (conn : Nat) (locked : E) (f : T → Except E (α × T)) :
    s.write conn locked f = (.error locked, s) ∨
      (¬s.Locked conn ∧ ∃ e, f (s.view conn) = .error e ∧
        s.write conn locked f = (.error e, ⟨s.committed, some (conn, s.view conn)⟩)) ∨
      (¬s.Locked conn ∧ ∃ x t, f (s.view conn) = .ok (x, t) ∧
        s.write conn locked f = (.ok x, ⟨s.committed, some (conn, t)⟩)) := by
  unfold write
  split
  · exact .inl rfl
  · rename_i free
    cases done : f (s.view conn) with
    | error e => exact .inr (.inl ⟨free, e, rfl, rfl⟩)
    | ok found => exact .inr (.inr ⟨free, found.1, found.2, rfl, rfl⟩)

theorem committed_write : (s.write conn locked f).2.committed = s.committed := by
  rcases write_cases s conn locked f with same | ⟨-, e, -, same⟩ | ⟨-, x, t, -, same⟩
  · rw [same]
  · rw [same]
  · rw [same]

section Writing
variable (stays : ∀ t x t', f t = .ok (x, t') → P t → P t')
include stays

theorem inherits_write (inherits : Inherits P s) : Inherits P (s.write conn locked f).2 := by
  rcases write_cases s conn locked f with same | ⟨-, e, -, same⟩ | ⟨-, x, t, done, same⟩
  · rw [same]
    exact inherits
  · rw [same]
    rintro now c t ⟨⟩
    exact inherits.view now conn
  · rw [same]
    rintro now c t ⟨⟩
    exact stays _ x t done (inherits.view now conn)

theorem view_write (inherits : Inherits P s) (seen : P (s.view other)) :
    P ((s.write conn locked f).2.view other) := by
  rcases write_cases s conn locked f with same | ⟨free, e, -, same⟩ | ⟨free, x, t, done, same⟩
  · rw [same]
    exact seen
  · rw [same]
    unfold Store.view
    dsimp only
    split_ifs with own
    · exact inherits.seen free seen
    · rwa [view_of_unlocked free own] at seen
  · rw [same]
    unfold Store.view
    dsimp only
    split_ifs with own
    · exact stays _ x t done (inherits.seen free seen)
    · rwa [view_of_unlocked free own] at seen

end Writing

theorem commit_cases (s : Store T) (conn : Nat) :
    s.commit conn = s ∧ s.view conn = s.committed ∨
      ∃ t, s.pending = some (conn, t) ∧ s.commit conn = ⟨t, none⟩ := by
  unfold commit Store.view
  split
  · rename_i c t held
    by_cases own : c = conn
    · subst own
      exact .inr ⟨t, held, if_pos rfl⟩
    · exact .inl ⟨if_neg own, if_neg own⟩
  · exact .inl ⟨rfl, rfl⟩

theorem inherits_commit (inherits : Inherits P s) : Inherits P (s.commit conn) := by
  rcases commit_cases s conn with ⟨same, -⟩ | ⟨t, -, done⟩
  · rw [same]
    exact inherits
  · rw [done]
    rintro - c t ⟨⟩

theorem view_commit (inherits : Inherits P s) (seen : P (s.view other)) :
    P ((s.commit conn).view other) := by
  rcases commit_cases s conn with ⟨same, -⟩ | ⟨t, held, done⟩
  · rw [same]
    exact seen
  · rw [done]
    show P t
    unfold Store.view at seen
    rw [held] at seen
    dsimp only at seen
    split_ifs at seen
    · exact seen
    · exact inherits seen conn t held

theorem committed_commit (inherits : Inherits P s) (now : P s.committed) :
    P (s.commit conn).committed := by
  rcases commit_cases s conn with ⟨same, -⟩ | ⟨t, held, done⟩
  · rw [same]
    exact now
  · rw [done]
    exact inherits now conn t held

/-- What the connection sees is committed by its commit. -/
theorem committed_of_commit (seen : P (s.view conn)) : P (s.commit conn).committed := by
  rcases commit_cases s conn with ⟨same, clean⟩ | ⟨t, held, done⟩
  · rw [same, ← clean]
    exact seen
  · rw [done]
    unfold Store.view at seen
    rw [held] at seen
    dsimp only at seen
    rwa [if_pos rfl] at seen

theorem rollback_cases (s : Store T) (conn : Nat) :
    s.rollback conn = s ∨ s.rollback conn = ⟨s.committed, none⟩ ∧ ∃ t, s.pending = some (conn, t) := by
  unfold rollback
  split
  · rename_i c t held
    by_cases own : c = conn
    · subst own
      exact .inr ⟨if_pos rfl, t, held⟩
    · exact .inl (if_neg own)
  · exact .inl rfl

theorem committed_rollback (s : Store T) (conn : Nat) : (s.rollback conn).committed = s.committed := by
  rcases rollback_cases s conn with same | ⟨done, -⟩
  · rw [same]
  · rw [done]

theorem inherits_rollback (inherits : Inherits P s) : Inherits P (s.rollback conn) := by
  rcases rollback_cases s conn with same | ⟨done, -⟩
  · rw [same]
    exact inherits
  · rw [done]
    rintro - c t ⟨⟩

/-- A rollback takes from the other connections nothing they see. -/
theorem view_rollback (strange : other ≠ conn) : (s.rollback conn).view other = s.view other := by
  rcases rollback_cases s conn with same | ⟨done, t, held⟩
  · rw [same]
  · rw [done]
    unfold Store.view
    rw [held]
    exact (if_neg (Ne.symm strange)).symm

end Store

end Connections
