import Mathlib.Logic.Basic

/-!
# Programs that act on a shared world by single commands

A program is a tree: it returns, raises, or issues one command and continues
with the answer. A handler says what a command does to the world, given an
input from outside. Cutting the list of inputs short stops a program between
two commands, which is what a crash does to it.

`Keeps` is a weakest precondition that also demands an invariant before every
command, so that it holds at every point where a run can be cut.
-/

namespace EffectPrograms

inductive Prog (C : Type) (R : C → Type) (E α : Type) where
  | ret (a : α)
  | raise (e : E)
  | call (c : C) (next : R c → Prog C R E α)

abbrev Handler (C : Type) (R : C → Type) (W I : Type) := (c : C) → W → I → R c × W

variable {C : Type} {R : C → Type} {E α β W I : Type}

namespace Prog

def bind : Prog C R E α → (α → Prog C R E β) → Prog C R E β
  | .ret a, f => f a
  | .raise e, _ => .raise e
  | .call c next, f => .call c fun r => (next r).bind f

instance : Monad (Prog C R E) where
  pure := .ret
  bind := bind

def perform (c : C) : Prog C R E (R c) := .call c .ret

def ofExcept : Except E α → Prog C R E α
  | .ok a => .ret a
  | .error e => .raise e

def raised : Prog C R E α → Option E
  | .raise e => some e
  | _ => none

def returned : Prog C R E α → Option α
  | .ret a => some a
  | _ => none

/-- No command is left to issue. -/
def Ended : Prog C R E α → Prop
  | .call _ _ => False
  | _ => True

instance : ∀ p : Prog C R E α, Decidable p.Ended
  | .ret _ => isTrue trivial
  | .raise _ => isTrue trivial
  | .call _ _ => isFalse id

def ignore (p : Prog C R E α) : Prog C R E Unit := bind p fun _ => .ret ()

@[simp] theorem ofExcept_ok (a : α) : (ofExcept (.ok a) : Prog C R E α) = .ret a := rfl

@[simp] theorem ofExcept_error (e : E) : (ofExcept (.error e) : Prog C R E α) = .raise e := rfl

@[simp] theorem pure_eq (a : α) : (pure a : Prog C R E α) = .ret a := rfl

@[simp] theorem ret_bind (a : α) (f : α → Prog C R E β) : (ret a >>= f) = f a := rfl

@[simp] theorem raise_bind (e : E) (f : α → Prog C R E β) : (raise e >>= f) = .raise e := rfl

@[simp] theorem call_bind (c : C) (next : R c → Prog C R E α) (f : α → Prog C R E β) :
    (call c next >>= f) = .call c fun r => next r >>= f := rfl

@[simp] theorem perform_bind (c : C) (f : R c → Prog C R E β) :
    (perform c >>= f) = .call c f := rfl

theorem bind_assoc {γ : Type} (p : Prog C R E α) (f : α → Prog C R E β)
    (g : β → Prog C R E γ) : ((p >>= f) >>= g) = (p >>= fun a => f a >>= g) := by
  induction p with
  | ret a => rfl
  | raise e => rfl
  | call c next ih => exact congrArg (call c) (funext ih)

end Prog

/-- A program run to its end, every command given the same input. -/
def exec (h : Handler C R W I) (i : I) : Prog C R E α → W → Except E α × W
  | .ret a, w => (.ok a, w)
  | .raise e, w => (.error e, w)
  | .call c next, w => exec h i (next (h c w i).1) (h c w i).2

/-- As many commands as there are inputs, stopping early where the program ends. -/
def advance (h : Handler C R W I) : List I → Prog C R E α → W → Prog C R E α × W
  | i :: is, .call c next, w => advance h is (next (h c w i).1) (h c w i).2
  | _, p, w => (p, w)

/-- Every input consumed on the way satisfies a condition on command and world. -/
def Legal (h : Handler C R W I) (ok : C → W → I → Prop) : List I → Prog C R E α → W → Prop
  | i :: is, .call c next, w => ok c w i ∧ Legal h ok is (next (h c w i).1) (h c w i).2
  | _, _, _ => True

instance Legal.decidable (h : Handler C R W I) (ok : C → W → I → Prop)
    [∀ c w i, Decidable (ok c w i)] :
    ∀ (is : List I) (p : Prog C R E α) (w : W), Decidable (Legal h ok is p w)
  | [], _, _ => isTrue trivial
  | _ :: _, .ret _, _ => isTrue trivial
  | _ :: _, .raise _, _ => isTrue trivial
  | i :: is, .call c next, w =>
    have := Legal.decidable h ok is (next (h c w i).1) (h c w i).2
    inferInstanceAs (Decidable (ok c w i ∧ _))

theorem Legal.always (h : Handler C R W I) {ok : C → W → I → Prop} (met : ∀ c w i, ok c w i)
    (is : List I) (p : Prog C R E α) (w : W) : Legal h ok is p w := by
  induction is generalizing p w with
  | nil => trivial
  | cons i is ih =>
    cases p with
    | ret a => trivial
    | raise e => trivial
    | call c next => exact ⟨met c w i, ih _ _⟩

section Returning

/-- Whatever the commands answer, a returned value satisfies `Q`. -/
def Returns (Q : α → Prop) : Prog C R E α → Prop
  | .ret a => Q a
  | .raise _ => True
  | .call _ next => ∀ r, Returns Q (next r)

variable {Q Q' : α → Prop}

theorem Returns.mono {p : Prog C R E α} (returns : Returns Q p) (weaker : ∀ a, Q a → Q' a) :
    Returns Q' p := by
  induction p with
  | ret a => exact weaker a returns
  | raise e => trivial
  | call c next ih => exact fun r => ih r (returns r)

theorem Returns.any (p : Prog C R E α) : Returns (fun _ => True) p := by
  induction p with
  | ret a => trivial
  | raise e => trivial
  | call c next ih => exact ih

theorem Returns.bind {P : β → Prop} {p : Prog C R E α} {f : α → Prog C R E β}
    (first : Returns Q p) (rest : ∀ a, Q a → Returns P (f a)) : Returns P (p >>= f) := by
  induction p with
  | ret a => exact rest a first
  | raise e => trivial
  | call c next ih => exact fun r => ih r (first r)

theorem Returns.ofExcept {x : Except E α} (good : ∀ a, x = .ok a → Q a) :
    Returns Q (Prog.ofExcept x : Prog C R E α) := by
  cases x with
  | ok a => exact good a rfl
  | error e => trivial

theorem Returns.exec {p : Prog C R E α} {h : Handler C R W I} {i : I} {w : W} {a : α}
    (returns : Returns Q p) (done : (EffectPrograms.exec h i p w).1 = .ok a) : Q a := by
  induction p generalizing w with
  | ret b => exact Except.ok.inj done ▸ returns
  | raise e => cases done
  | call c next ih => exact ih _ (returns _) done

end Returning

section Issuing

/-- Whatever the commands answer, only commands that satisfy `P` are issued. -/
def Issues (P : C → Prop) : Prog C R E α → Prop
  | .ret _ => True
  | .raise _ => True
  | .call c next => P c ∧ ∀ r, Issues P (next r)

variable {P : C → Prop}

theorem Issues.mono {P' : C → Prop} {p : Prog C R E α} (issues : Issues P p)
    (weaker : ∀ c, P c → P' c) : Issues P' p := by
  induction p with
  | ret a => trivial
  | raise e => trivial
  | call c next ih => exact ⟨weaker c issues.1, fun r => ih r (issues.2 r)⟩

theorem Issues.bind {p : Prog C R E α} {f : α → Prog C R E β} (first : Issues P p)
    (rest : ∀ a, Issues P (f a)) : Issues P (p >>= f) := by
  induction p with
  | ret a => exact rest a
  | raise e => trivial
  | call c next ih => exact ⟨first.1, fun r => ih r (first.2 r)⟩

theorem Issues.perform {c : C} (allowed : P c) : Issues P (Prog.perform c : Prog C R E (R c)) :=
  ⟨allowed, fun _ => trivial⟩

theorem Issues.ofExcept (x : Except E α) : Issues P (Prog.ofExcept x : Prog C R E α) := by
  cases x with
  | ok a => trivial
  | error e => trivial

/-- What every command that may be issued keeps, a whole run keeps. -/
theorem Issues.exec {p : Prog C R E α} {h : Handler C R W I} {i : I} {w : W} (Inv : W → Prop)
    (issues : Issues P p) (kept : ∀ c w, P c → Inv w → Inv (h c w i).2) (now : Inv w) :
    Inv (EffectPrograms.exec h i p w).2 := by
  induction p generalizing w with
  | ret a => exact now
  | raise e => exact now
  | call c next ih => exact ih _ (issues.2 _) (kept c w issues.1 now)

end Issuing

section Keeping
variable (h : Handler C R W I) (ok : C → W → I → Prop) (Inv : W → Prop)

def Keeps (Q : α → W → Prop) (X : E → W → Prop) : Prog C R E α → W → Prop
  | .ret a, w => Q a w
  | .raise e, w => X e w
  | .call c next, w => Inv w ∧ ∀ i, ok c w i → Keeps Q X (next (h c w i).1) (h c w i).2

variable {h ok Inv}
variable {Q Q' : α → W → Prop} {X : E → W → Prop}

theorem Keeps.mono {p : Prog C R E α} {w : W} (kept : Keeps h ok Inv Q X p w)
    (weaker : ∀ a w, Q a w → Q' a w) : Keeps h ok Inv Q' X p w := by
  induction p generalizing w with
  | ret a => exact weaker a w kept
  | raise e => exact kept
  | call c next ih => exact ⟨kept.1, fun i allowed => ih _ (kept.2 i allowed)⟩

theorem Keeps.weaken {p : Prog C R E α} {w : W} {X' : E → W → Prop}
    (kept : Keeps h ok Inv Q X p w) (weaker : ∀ e w, X e w → X' e w) : Keeps h ok Inv Q X' p w := by
  induction p generalizing w with
  | ret a => exact kept
  | raise e => exact weaker e w kept
  | call c next ih => exact ⟨kept.1, fun i allowed => ih _ (kept.2 i allowed)⟩

/-- A weaker invariant between the commands. -/
theorem Keeps.relax {Inv' : W → Prop} {p : Prog C R E α} {w : W} (kept : Keeps h ok Inv Q X p w)
    (weaker : ∀ w, Inv w → Inv' w) : Keeps h ok Inv' Q X p w := by
  induction p generalizing w with
  | ret a => exact kept
  | raise e => exact kept
  | call c next ih => exact ⟨weaker w kept.1, fun i allowed => ih _ (kept.2 i allowed)⟩

theorem Keeps.bind {p : Prog C R E α} {f : α → Prog C R E β} {w : W} {P : β → W → Prop}
    (first : Keeps h ok Inv Q X p w)
    (rest : ∀ a w, Q a w → Keeps h ok Inv P X (f a) w) : Keeps h ok Inv P X (p >>= f) w := by
  induction p generalizing w with
  | ret a => exact rest a w first
  | raise e => exact first
  | call c next ih => exact ⟨first.1, fun i allowed => ih _ (first.2 i allowed)⟩

/-- The first command of a program: the invariant before it, the rest after it. -/
theorem Keeps.perform {c : C} {f : R c → Prog C R E β} {w : W} {P : β → W → Prop} (now : Inv w)
    (rest : ∀ i r w', ok c w i → h c w i = (r, w') → Keeps h ok Inv P X (f r) w') :
    Keeps h ok Inv P X (Prog.perform c >>= f) w :=
  ⟨now, fun i allowed => rest i _ _ allowed rfl⟩

theorem Keeps.ofExcept {x : Except E α} {w : W} (good : ∀ a, x = .ok a → Q a w)
    (bad : ∀ e, x = .error e → X e w) : Keeps h ok Inv Q X (Prog.ofExcept x) w := by
  cases x with
  | ok a => exact good a rfl
  | error e => exact bad e rfl

/-- A kept invariant holds wherever a legal run is cut. -/
theorem Keeps.advance {p : Prog C R E α} {w : W} (kept : Keeps h ok Inv Q X p w)
    (returned : ∀ a w, Q a w → Inv w) (raised : ∀ e w, X e w → Inv w) (is : List I)
    (legal : Legal h ok is p w) : Inv (advance h is p w).2 := by
  have here : ∀ {p : Prog C R E α} {w}, Keeps h ok Inv Q X p w → Inv w := by
    intro p w kept
    cases p with
    | ret a => exact returned a w kept
    | raise e => exact raised e w kept
    | call c next => exact kept.1
  induction is generalizing p w with
  | nil => exact here kept
  | cons i is ih =>
    cases p with
    | ret a => exact here kept
    | raise e => exact here kept
    | call c next => exact ih (kept.2 i legal.1) legal.2

theorem Keeps.exec {p : Prog C R E α} {w : W} (kept : Keeps h ok Inv Q X p w) (i : I)
    (allowed : ∀ c w, ok c w i) :
    match EffectPrograms.exec h i p w with
    | (.ok a, w') => Q a w'
    | (.error e, w') => X e w' := by
  induction p generalizing w with
  | ret a => exact kept
  | raise e => exact kept
  | call c next ih => exact ih _ (kept.2 i (allowed c w))

/-- What every command that may be issued keeps, such a program keeps. -/
theorem Issues.keeps {P : C → Prop} {J : W → Prop} {p : Prog C R E α} {w : W} (issues : Issues P p)
    (kept : ∀ c w i, P c → ok c w i → J w → J (h c w i).2) (here : ∀ w, J w → Inv w) (now : J w) :
    Keeps h ok Inv (fun _ => J) (fun _ => J) p w := by
  induction p generalizing w with
  | ret a => exact now
  | raise e => exact now
  | call c next ih =>
    refine ⟨here w now, fun i allowed => ih _ (issues.2 _) ?_⟩
    exact kept c w i issues.1 allowed now

/-- Where such a run is complete, its postcondition holds. -/
theorem Keeps.outcome {p : Prog C R E α} {w : W} (kept : Keeps h ok Inv Q X p w) (is : List I)
    (legal : Legal h ok is p w) :
    match EffectPrograms.advance h is p w with
    | (.ret a, w') => Q a w'
    | (.raise e, w') => X e w'
    | (.call _ _, w') => Inv w' := by
  induction is generalizing p w with
  | nil =>
    cases p with
    | ret a => exact kept
    | raise e => exact kept
    | call c next => exact kept.1
  | cons i is ih =>
    cases p with
    | ret a => exact kept
    | raise e => exact kept
    | call c next => exact ih (kept.2 i legal.1) legal.2

/-- Two invariants kept side by side: the proof of the second may rely on the first, and the
first one's inputs may be admitted because of the second. -/
theorem Keeps.beside {ok' : C → W → I → Prop} {J : W → Prop} {P : α → W → Prop} {Y : E → W → Prop}
    {p : Prog C R E α} {w : W} (first : Keeps h ok Inv Q X p w)
    (second : Keeps h (fun c w i => ok' c w i ∧ Inv w) J P Y p w)
    (admitted : ∀ c w i, ok' c w i → Inv w → J w → ok c w i) :
    Keeps h ok' (fun w => Inv w ∧ J w) (fun a w => Q a w ∧ P a w) (fun e w => X e w ∧ Y e w) p w := by
  induction p generalizing w with
  | ret a => exact ⟨first, second⟩
  | raise e => exact ⟨first, second⟩
  | call c next ih =>
    refine ⟨⟨first.1, second.1⟩, fun i allowed => ih _ (first.2 i ?_) (second.2 i ⟨allowed, first.1⟩)⟩
    exact admitted c w i allowed first.1 second.1

end Keeping

section Likeness
variable {h : Handler C R W I} {Alike : W → W → Prop}

/-- Where every command answers the same in worlds that look alike, and leaves them so, a program
comes to the same point in both. -/
theorem advance_alike (respects : ∀ c w w' i, Alike w w' →
      (h c w i).1 = (h c w' i).1 ∧ Alike (h c w i).2 (h c w' i).2)
    (is : List I) (p : Prog C R E α) {w w' : W} (alike : Alike w w') :
    (advance h is p w).1 = (advance h is p w').1 ∧ Alike (advance h is p w).2 (advance h is p w').2 := by
  induction is generalizing p w w' with
  | nil => exact ⟨rfl, alike⟩
  | cons i is ih =>
    cases p with
    | ret a => exact ⟨rfl, alike⟩
    | raise e => exact ⟨rfl, alike⟩
    | call c next =>
      obtain ⟨answer, after⟩ := respects c w w' i alike
      rw [advance, advance, answer]
      exact ih _ after

end Likeness

end EffectPrograms
