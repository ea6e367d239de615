import Mathlib.Logic.Basic

/-!
# Properties of every step of a run

A step function is run over a list of operations. What holds of every step is
compared with what another property says of every step, under an invariant that
the steps in question keep.
-/

namespace StepRuns

universe u v
variable {S : Type u} {O : Type v} (step : S → O → S)

def run (s : S) (operations : List O) : S := operations.foldl step s

/-- Every operation of a run, in the state that it finds, has a property. -/
def Along (P : S → O → Prop) : S → List O → Prop
  | _, [] => True
  | s, o :: operations => P s o ∧ Along P (step s o) operations

variable {step} {P Q : S → O → Prop} {Inv : S → Prop}

/-- Two properties that agree wherever an invariant holds, which the steps with the first of
them keep, hold along the same runs. -/
theorem along_iff (agree : ∀ s o, Inv s → (P s o ↔ Q s o))
    (kept : ∀ s o, Inv s → P s o → Inv (step s o)) (operations : List O) {s : S} (now : Inv s) :
    Along step P s operations ↔ Along step Q s operations := by
  induction operations generalizing s with
  | nil => exact Iff.rfl
  | cons o operations ih =>
    constructor
    · rintro ⟨first, later⟩
      exact ⟨(agree s o now).mp first, (ih (kept s o now first)).mp later⟩
    · rintro ⟨first, later⟩
      have back := (agree s o now).mpr first
      exact ⟨back, (ih (kept s o now back)).mpr later⟩

/-- An invariant that the steps with a property keep holds at the end of a run of them. -/
theorem Along.run (kept : ∀ s o, Inv s → P s o → Inv (step s o)) {operations : List O} {s : S}
    (along : Along step P s operations) (now : Inv s) : Inv (run step s operations) := by
  induction operations generalizing s with
  | nil => exact now
  | cons o operations ih => exact ih along.2 (kept s o now along.1)

end StepRuns
