import KalyxMao.EffectPrograms

/-!
# How programs end, and how often a command was answered

An answer may be a failure. A program is strict if a failure ends it at once, and
firm if nothing else does: between two commands of a strict program nothing is
caught, so a run that was not legal ended where the first condition was broken.
What a run has answered is counted beside its world.
-/

namespace ProgramExits
open EffectPrograms EffectPrograms.Prog

variable {C : Type} {R : C → Type} {E α β W I : Type}

section Failing
variable (failure : (c : C) → R c → Option E)

/-- A failed answer is raised at once. -/
def Strict : Prog C R E α → Prop
  | .ret _ => True
  | .raise _ => True
  | .call c next => (∀ r, (failure c r).isSome → ∃ e, next r = .raise e) ∧ ∀ r, Strict (next r)

/-- Without a failed answer nothing is raised. -/
def Firm : Prog C R E α → Prop
  | .ret _ => True
  | .raise _ => False
  | .call c next => ∀ r, failure c r = none → Firm (next r)

variable {failure}

theorem Strict.bind {p : Prog C R E α} {f : α → Prog C R E β} (first : Strict failure p)
    (rest : ∀ a, Strict failure (f a)) : Strict failure (p >>= f) := by
  induction p with
  | ret a => exact rest a
  | raise e => trivial
  | call c next ih =>
    refine ⟨fun r failed => ?_, fun r => ih r (first.2 r)⟩
    obtain ⟨e, ended⟩ := first.1 r failed
    exact ⟨e, congrArg (· >>= f) ended⟩

theorem Strict.ofExcept (x : Except E α) : Strict failure (Prog.ofExcept x : Prog C R E α) := by
  cases x with
  | ok a => trivial
  | error e => trivial

/-- A command that never fails. -/
theorem Strict.perform {c : C} (sure : ∀ r, failure c r = none) :
    Strict failure (Prog.perform c : Prog C R E (R c)) := by
  refine ⟨fun r failed => ?_, fun _ => trivial⟩
  rw [sure r] at failed
  cases failed

/-- A command whose answer is read as a result or an exception. -/
theorem Strict.attempt {c : C} {f : R c → Prog C R E α}
    (raises : ∀ r, (failure c r).isSome → ∃ e, f r = .raise e) (rest : ∀ r, Strict failure (f r)) :
    Strict failure (Prog.perform c >>= f) := ⟨raises, rest⟩

theorem Firm.bind {p : Prog C R E α} {f : α → Prog C R E β} (first : Firm failure p)
    (rest : ∀ a, Firm failure (f a)) : Firm failure (p >>= f) := by
  induction p with
  | ret a => exact rest a
  | raise e => exact first.elim
  | call c next ih => exact fun r fine => ih r (first r fine)

variable {h : Handler C R W I} {ok : C → W → I → Prop}

/-- A strict run that has ended was legal, or it ended where the condition was broken. -/
theorem Strict.exit (broken : ∀ c w i, ¬ok c w i → (failure c (h c w i).1).isSome)
    {p : Prog C R E α} {w : W} (strict : Strict failure p) (is : List I)
    (ended : (advance h is p w).1.Ended) :
    Legal h ok is p w ∨ ∃ c w' i, ¬ok c w' i ∧ (advance h is p w).2 = (h c w' i).2 := by
  induction is generalizing p w with
  | nil => exact .inl (by cases p <;> trivial)
  | cons i is ih =>
    cases p with
    | ret a => exact .inl trivial
    | raise e => exact .inl trivial
    | call c next =>
      by_cases met : ok c w i
      · rcases ih (strict.2 _) ended with legal | ⟨c', w', i', bad, there⟩
        · exact .inl ⟨met, legal⟩
        · exact .inr ⟨c', w', i', bad, there⟩
      · obtain ⟨e, raised⟩ := strict.1 _ (broken c w i met)
        refine .inr ⟨c, w, i, met, ?_⟩
        rw [advance, raised]
        cases is <;> rfl

/-- While no answer fails, commands of a firm program that keep a fact bring it to its return. -/
theorem Firm.keeps {P : C → Prop} {J Inv : W → Prop} {p : Prog C R E α} {w : W}
    (firm : Firm failure p) (issues : Issues P p)
    (fine : ∀ c w i, J w → ok c w i → failure c (h c w i).1 = none)
    (kept : ∀ c w i, P c → J w → J (h c w i).2) (here : ∀ w, J w → Inv w) (now : J w) :
    Keeps h ok Inv (fun _ => J) (fun _ _ => False) p w := by
  induction p generalizing w with
  | ret a => exact now
  | raise e => exact firm.elim
  | call c next ih =>
    refine ⟨here w now, fun i met => ?_⟩
    exact ih _ (firm _ (fine c w i now met)) (issues.2 _) (kept c w i issues.1 now)

/-- What is returned whatever the answers are holds of what is returned here. -/
theorem keeps_returns {Inv : W → Prop} {Q : α → W → Prop} {X : E → W → Prop} {T : α → Prop}
    {p : Prog C R E α} {w : W} (kept : Keeps h ok Inv Q X p w) (returns : Returns T p) :
    Keeps h ok Inv (fun a w => T a ∧ Q a w) X p w := by
  induction p generalizing w with
  | ret a => exact ⟨returns, kept⟩
  | raise e => exact kept
  | call c next ih => exact ⟨kept.1, fun i met => ih _ (kept.2 i met) (returns _)⟩

end Failing

section Counting
variable (h : Handler C R W I) (counts : C → W → I → Bool)

/-- How many of the commands that a run has answered are counted. -/
def tally : List I → Prog C R E α → W → Nat
  | i :: is, .call c next, w => (counts c w i).toNat + tally is (next (h c w i).1) (h c w i).2
  | _, _, _ => 0

/-- The handler with the count beside the world. -/
def counted : Handler C R (W × Nat) I := fun c s i =>
  ((h c s.1 i).1, (h c s.1 i).2, s.2 + (counts c s.1 i).toNat)

variable {h counts}

theorem advance_counted (is : List I) (p : Prog C R E α) (w : W) (n : Nat) :
    advance (counted h counts) is p (w, n) =
      ((advance h is p w).1, (advance h is p w).2, n + tally h counts is p w) := by
  induction is generalizing p w n with
  | nil => cases p <;> rfl
  | cons i is ih =>
    cases p with
    | ret a => rfl
    | raise e => rfl
    | call c next =>
      have rest := ih (next (h c w i).1) (h c w i).2 (n + (counts c w i).toNat)
      rw [Nat.add_assoc] at rest
      exact rest

theorem legal_counted {ok : C → W → I → Prop} {is : List I} {p : Prog C R E α} {w : W} (n : Nat)
    (legal : Legal h ok is p w) :
    Legal (counted h counts) (fun c s i => ok c s.1 i) is p (w, n) := by
  induction is generalizing p w n with
  | nil => trivial
  | cons i is ih =>
    cases p with
    | ret a => trivial
    | raise e => trivial
    | call c next => exact ⟨legal.1, ih _ legal.2⟩

/-- Where such a run is complete, its postcondition holds of the world and the count. -/
theorem tally_outcome (ok : C → W → I → Prop) {Inv : W × Nat → Prop} {Q : α → W × Nat → Prop}
    {X : E → W × Nat → Prop} {is : List I} {p : Prog C R E α} {w : W} {n : Nat}
    (kept : Keeps (counted h counts) (fun c s i => ok c s.1 i) Inv Q X p (w, n))
    (legal : Legal h ok is p w) :
    match (advance h is p w).1 with
    | .ret a => Q a ((advance h is p w).2, n + tally h counts is p w)
    | .raise e => X e ((advance h is p w).2, n + tally h counts is p w)
    | .call _ _ => Inv ((advance h is p w).2, n + tally h counts is p w) := by
  have outcome := kept.outcome is (legal_counted n legal)
  rw [advance_counted] at outcome
  revert outcome
  cases (advance h is p w).1 with
  | ret a => exact id
  | raise e => exact id
  | call c next => exact id

end Counting

end ProgramExits
