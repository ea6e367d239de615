import KalyxMao.EffectPrograms

/-!
# Programs against a larger world

A program may run against a world of which its handler's world is a view: what the
commands take from outside is then answered by the rest of the larger world. What is
kept in the view is kept in the whole, for the inputs the view would hear.

That those inputs are legal can depend on what the program asks for. `Meets` demands a
condition of every command that is issued, and so supplies it. What a run ends with may
be needed at the commands before, where it has to hold already if it is to hold at last.
-/

namespace ProgramViews
open EffectPrograms EffectPrograms.Prog

variable {C : Type} {R : C → Type} {E α β W I : Type}
variable {h : Handler C R W I} {ok : C → W → I → Prop}

section Meeting
variable (h ok) (G : C → W → Prop)

def Meets (Q : α → W → Prop) (X : E → W → Prop) : Prog C R E α → W → Prop
  | .ret a, w => Q a w
  | .raise e, w => X e w
  | .call c next, w => G c w ∧ ∀ i, ok c w i → Meets Q X (next (h c w i).1) (h c w i).2

variable {h ok G}
variable {Q Q' : α → W → Prop} {X : E → W → Prop} {p : Prog C R E α} {w : W}

theorem Meets.mono (meets : Meets h ok G Q X p w) (weaker : ∀ a w, Q a w → Q' a w) :
    Meets h ok G Q' X p w := by
  induction p generalizing w with
  | ret a => exact weaker a w meets
  | raise e => exact meets
  | call c next ih => exact ⟨meets.1, fun i allowed => ih _ (meets.2 i allowed)⟩

/-- Fewer inputs to answer for. -/
theorem Meets.restrict {ok' : C → W → I → Prop} (meets : Meets h ok G Q X p w)
    (stronger : ∀ c w i, ok' c w i → ok c w i) : Meets h ok' G Q X p w := by
  induction p generalizing w with
  | ret a => exact meets
  | raise e => exact meets
  | call c next ih => exact ⟨meets.1, fun i allowed => ih _ (meets.2 i (stronger c w i allowed))⟩

theorem Meets.bind {f : α → Prog C R E β} {P : β → W → Prop} (first : Meets h ok G Q X p w)
    (rest : ∀ a w, Q a w → Meets h ok G P X (f a) w) : Meets h ok G P X (p >>= f) w := by
  induction p generalizing w with
  | ret a => exact rest a w first
  | raise e => exact first
  | call c next ih => exact ⟨first.1, fun i allowed => ih _ (first.2 i allowed)⟩

theorem Meets.perform {c : C} {f : R c → Prog C R E β} {P : β → W → Prop} (now : G c w)
    (rest : ∀ i r w', ok c w i → h c w i = (r, w') → Meets h ok G P X (f r) w') :
    Meets h ok G P X (Prog.perform c >>= f) w :=
  ⟨now, fun i allowed => rest i _ _ allowed rfl⟩

theorem Meets.ofExcept {x : Except E α} (good : ∀ a, x = .ok a → Q a w)
    (bad : ∀ e, x = .error e → X e w) : Meets h ok G Q X (Prog.ofExcept x) w := by
  cases x with
  | ok a => exact good a rfl
  | error e => exact bad e rfl

/-- The second proof may rely on the first one's invariant, and what it finds about the
commands admits the inputs that the first one asks for. -/
theorem Meets.beside {ok' : C → W → I → Prop} {Inv J : W → Prop} {P : α → W → Prop}
    {Y : E → W → Prop} (first : Keeps h ok Inv Q X p w)
    (second : Meets h (fun c w i => ok' c w i ∧ Inv w) G P Y p w)
    (admitted : ∀ c w i, ok' c w i → Inv w → G c w → ok c w i) (asserted : ∀ c w, G c w → J w) :
    Keeps h ok' (fun w => Inv w ∧ J w) (fun a w => Q a w ∧ P a w) (fun e w => X e w ∧ Y e w) p w := by
  induction p generalizing w with
  | ret a => exact ⟨first, second⟩
  | raise e => exact ⟨first, second⟩
  | call c next ih =>
    refine ⟨⟨first.1, asserted c w second.1⟩, fun i allowed => ?_⟩
    exact ih _ (first.2 i (admitted c w i allowed first.1 second.1)) (second.2 i ⟨allowed, first.1⟩)

end Meeting

section Hindsight
variable {P : W → Prop}

/-- What no command can make true was true from the start. -/
theorem back_of_advance (back : ∀ c w i, P (h c w i).2 → P w) (is : List I) (p : Prog C R E α) (w : W)
    (last : P (advance h is p w).2) : P w := by
  induction is generalizing p w with
  | nil => exact last
  | cons i is ih =>
    cases p with
    | ret a => exact last
    | raise e => exact last
    | call c next => exact back c w i (ih _ _ last)

/-- What is seen at the end of a run may be used at every command before. -/
theorem legal_of_advance (back : ∀ c w i, P (h c w i).2 → P w) (is : List I) (p : Prog C R E α) (w : W)
    (legal : Legal h ok is p w) (last : P (advance h is p w).2) :
    Legal h (fun c w i => ok c w i ∧ P (h c w i).2) is p w := by
  induction is generalizing p w with
  | nil => trivial
  | cons i is ih =>
    cases p with
    | ret a => trivial
    | raise e => trivial
    | call c next =>
      exact ⟨⟨legal.1, back_of_advance back is _ _ last⟩, ih _ _ legal.2 last⟩

end Hindsight

section Viewing
variable {V J : Type} {g : Handler C R V J}

/-- The handler of the larger world answers as the one of the view would, given what is heard. -/
structure Views (g : Handler C R V J) (h : Handler C R W I) (view : V → W)
    (heard : C → V → J → I) : Prop where
  answers : ∀ c v j, (g c v j).1 = (h c (view v) (heard c v j)).1
  moves : ∀ c v j, view (g c v j).2 = (h c (view v) (heard c v j)).2

variable {view : V → W} {heard : C → V → J → I}

theorem Views.keeps (views : Views g h view heard) {Inv : W → Prop} {Q : α → W → Prop}
    {X : E → W → Prop} {p : Prog C R E α} {v : V} (kept : Keeps h ok Inv Q X p (view v)) :
    Keeps g (fun c v j => ok c (view v) (heard c v j)) (fun v => Inv (view v))
      (fun a v => Q a (view v)) (fun e v => X e (view v)) p v := by
  induction p generalizing v with
  | ret a => exact kept
  | raise e => exact kept
  | call c next ih =>
    refine ⟨kept.1, fun j allowed => ?_⟩
    have later := kept.2 (heard c v j) allowed
    rw [← views.answers, ← views.moves] at later
    exact ih _ later

end Viewing

end ProgramViews
