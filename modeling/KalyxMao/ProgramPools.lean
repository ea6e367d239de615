import KalyxMao.EffectPrograms

/-!
# Pools of programs that follow a protocol

Several programs share a world, and a schedule says whose command runs next. A
protocol is an automaton that reads the commands of one program: it says which
commands are allowed and keeps a mark of what the program has seen and done. An
invariant of the marks and the world that allowed commands preserve holds after
every schedule.
-/

namespace ProgramPools
open EffectPrograms EffectPrograms.Prog

structure Protocol (C : Type) (R : C → Type) (G : Type) where
  allowed : G → C → Prop
  after : G → (c : C) → R c → G

/-- The protocol that allows every command and remembers nothing. -/
def Protocol.free (C : Type) (R : C → Type) : Protocol C R Unit where
  allowed _ _ := True
  after _ _ _ := ()

/-- The protocol that allows some commands and remembers nothing. -/
def Protocol.only {C : Type} (A : C → Prop) (R : C → Type) : Protocol C R Unit where
  allowed _ := A
  after _ _ _ := ()

variable {C : Type} {R : C → Type} {E G W I α β : Type}

section Following
variable {P : Protocol C R G} {Q Q' : α → G → Prop}

/-- Whatever the answers are, the program issues allowed commands only. -/
def Follows (P : Protocol C R G) (Q : α → G → Prop) : Prog C R E α → G → Prop
  | .ret a, g => Q a g
  | .raise _, _ => True
  | .call c next, g => P.allowed g c ∧ ∀ r, Follows P Q (next r) (P.after g c r)

theorem Follows.mono {p : Prog C R E α} {g : G} (follows : Follows P Q p g)
    (weaker : ∀ a g, Q a g → Q' a g) : Follows P Q' p g := by
  induction p generalizing g with
  | ret a => exact weaker a g follows
  | raise e => trivial
  | call c next ih => exact ⟨follows.1, fun r => ih r (follows.2 r)⟩

theorem Follows.bind {p : Prog C R E α} {f : α → Prog C R E β} {g : G} {S : β → G → Prop}
    (first : Follows P Q p g) (rest : ∀ a g, Q a g → Follows P S (f a) g) :
    Follows P S (p >>= f) g := by
  induction p generalizing g with
  | ret a => exact rest a g first
  | raise e => trivial
  | call c next ih => exact ⟨first.1, fun r => ih r (first.2 r)⟩

theorem Follows.perform {c : C} {f : R c → Prog C R E β} {g : G} {S : β → G → Prop}
    (allowed : P.allowed g c) (rest : ∀ r, Follows P S (f r) (P.after g c r)) :
    Follows P S (Prog.perform c >>= f) g :=
  ⟨allowed, rest⟩

theorem Follows.ofExcept {x : Except E α} {g : G} (good : ∀ a, x = .ok a → Q a g) :
    Follows P Q (Prog.ofExcept x) g := by
  cases x with
  | ok a => exact good a rfl
  | error e => trivial

theorem Follows.of_issues {A : C → Prop} {p : Prog C R E α} (issues : Issues A p) :
    Follows (.only A R) (fun _ _ => True) p () := by
  induction p with
  | ret a => trivial
  | raise e => trivial
  | call c next ih => exact ⟨issues.1, fun r => ih r (issues.2 r)⟩

end Following

structure Thread (C : Type) (R : C → Type) (E G α : Type) where
  mark : G
  program : Prog C R E α

abbrev Pool (C : Type) (R : C → Type) (E G α : Type) := List (Thread C R E G α)

section Schedules
variable (h : Handler C R W I) (P : Protocol C R G)

/-- One command of the thread at a position; nothing where it has ended. -/
def turn (n : Nat) (i : I) (pool : Pool C R E G α) (w : W) : Pool C R E G α × W :=
  match pool[n]? with
  | some ⟨g, .call c next⟩ =>
    (pool.set n ⟨P.after g c (h c w i).1, next (h c w i).1⟩, (h c w i).2)
  | _ => (pool, w)

def interleave : List (Nat × I) → Pool C R E G α → W → Pool C R E G α × W
  | [], pool, w => (pool, w)
  | (n, i) :: rest, pool, w => interleave rest (turn h P n i pool w).1 (turn h P n i pool w).2

/-- The next command of a thread, if it has one, meets a condition. -/
def Admits (ok : G → C → W → Prop) (t : Option (Thread C R E G α)) (w : W) : Prop :=
  match t with
  | some ⟨g, .call c _⟩ => ok g c w
  | _ => True

instance (ok : G → C → W → Prop) [∀ g c w, Decidable (ok g c w)] (w : W) :
    ∀ t : Option (Thread C R E G α), Decidable (Admits ok t w)
  | some ⟨g, .call c _⟩ => inferInstanceAs (Decidable (ok g c w))
  | some ⟨_, .ret _⟩ => isTrue trivial
  | some ⟨_, .raise _⟩ => isTrue trivial
  | none => isTrue trivial

/-- Every command of a schedule meets a condition on the mark and the world before it. -/
def Respects (ok : G → C → W → Prop) : List (Nat × I) → Pool C R E G α → W → Prop
  | [], _, _ => True
  | (n, i) :: rest, pool, w => Admits ok pool[n]? w ∧
      Respects ok rest (turn h P n i pool w).1 (turn h P n i pool w).2

instance Respects.decidable (ok : G → C → W → Prop) [∀ g c w, Decidable (ok g c w)] :
    ∀ (schedule : List (Nat × I)) (pool : Pool C R E G α) (w : W),
      Decidable (Respects h P ok schedule pool w)
  | [], _, _ => isTrue trivial
  | (n, i) :: rest, pool, w =>
    have := Respects.decidable ok rest (turn h P n i pool w).1 (turn h P n i pool w).2
    inferInstanceAs (Decidable (Admits ok pool[n]? w ∧ _))

variable {h P}

theorem interleave_append (first rest : List (Nat × I)) (pool : Pool C R E G α) (w : W) :
    interleave h P (first ++ rest) pool w =
      interleave h P rest (interleave h P first pool w).1 (interleave h P first pool w).2 := by
  induction first generalizing pool w with
  | nil => rfl
  | cons t first ih => exact ih _ _

theorem respects_append {ok : G → C → W → Prop} {first rest : List (Nat × I)}
    {pool : Pool C R E G α} {w : W} (respects : Respects h P ok (first ++ rest) pool w) :
    Respects h P ok first pool w ∧ Respects h P ok rest (interleave h P first pool w).1
      (interleave h P first pool w).2 := by
  induction first generalizing pool w with
  | nil => exact ⟨trivial, respects⟩
  | cons t first ih =>
    obtain ⟨now, later⟩ := respects
    obtain ⟨begun, left⟩ := ih later
    exact ⟨⟨now, begun⟩, left⟩

def marks (pool : Pool C R E G α) : List G := pool.map Thread.mark

theorem marks_set (pool : Pool C R E G α) (n : Nat) (t : Thread C R E G α) :
    marks (pool.set n t) = (marks pool).set n t.mark := List.map_set

def Disciplined (P : Protocol C R G) (pool : Pool C R E G α) : Prop :=
  ∀ t ∈ pool, Follows P (fun _ _ => True) t.program t.mark

/-- A turn either changes nothing or is one allowed command of one thread. -/
theorem turn_cases (n : Nat) (i : I) (pool : Pool C R E G α) (w : W) :
    turn h P n i pool w = (pool, w) ∨ ∃ g c next, pool[n]? = some ⟨g, .call c next⟩ ∧
      turn h P n i pool w =
        (pool.set n ⟨P.after g c (h c w i).1, next (h c w i).1⟩, (h c w i).2) := by
  unfold turn
  split
  · rename_i g c next at_
    exact .inr ⟨g, c, next, at_, rfl⟩
  · exact .inl rfl

/-- Every thread will return with a mark that meets a condition. -/
def Promises (P : Protocol C R G) (Q : α → G → Prop) (pool : Pool C R E G α) : Prop :=
  ∀ t ∈ pool, Follows P Q t.program t.mark

theorem promises_turn {Q : α → G → Prop} {n : Nat} {i : I} {pool : Pool C R E G α} {w : W}
    (promises : Promises P Q pool) : Promises P Q (turn h P n i pool w).1 := by
  rcases turn_cases n i pool w with still | ⟨g, c, next, at_, moved⟩
  · rw [still]
    exact promises
  · rw [moved]
    intro t ht
    rcases List.mem_or_eq_of_mem_set ht with old | rfl
    · exact promises t old
    · exact (promises _ (List.mem_of_getElem? at_)).2 _

theorem promises_interleave {Q : α → G → Prop} (schedule : List (Nat × I)) {pool : Pool C R E G α}
    {w : W} (promises : Promises P Q pool) : Promises P Q (interleave h P schedule pool w).1 := by
  induction schedule generalizing pool w with
  | nil => exact promises
  | cons t schedule ih => exact ih (promises_turn promises)

theorem disciplined_turn {n : Nat} {i : I} {pool : Pool C R E G α} {w : W}
    (disciplined : Disciplined P pool) : Disciplined P (turn h P n i pool w).1 :=
  promises_turn disciplined

theorem Promises.disciplined {Q : α → G → Prop} {pool : Pool C R E G α}
    (promises : Promises P Q pool) : Disciplined P pool :=
  fun t ht => (promises t ht).mono fun _ _ _ => trivial

/-- Respecting a condition is meeting it at every point of the schedule. -/
theorem respects_iff {ok : G → C → W → Prop} (schedule : List (Nat × I)) {pool : Pool C R E G α} {w : W} :
    Respects h P ok schedule pool w ↔ ∀ first t rest, schedule = first ++ t :: rest →
      Admits ok (interleave h P first pool w).1[t.1]? (interleave h P first pool w).2 := by
  constructor
  · rintro respects first t rest rfl
    exact (respects_append respects).2.1
  · intro met
    induction schedule generalizing pool w with
    | nil => trivial
    | cons t schedule ih =>
      refine ⟨met [] t schedule rfl, ih ?_⟩
      intro first t' rest split
      exact met (t :: first) t' rest (congrArg (t :: ·) split)

/-- The command of a thread's next turn, with its answer. -/
def issued (h : Handler C R W I) (n : Nat) (i : I) (pool : Pool C R E G α) (w : W) :
    Option ((c : C) × R c) :=
  match pool[n]? with
  | some ⟨_, .call c _⟩ => some ⟨c, (h c w i).1⟩
  | _ => none

/-- The commands of a run in their order, each with its answer. -/
def trace (h : Handler C R W I) (P : Protocol C R G) :
    List (Nat × I) → Pool C R E G α → W → List ((c : C) × R c)
  | [], _, _ => []
  | (n, i) :: rest, pool, w =>
    (issued h n i pool w).toList ++ trace h P rest (turn h P n i pool w).1 (turn h P n i pool w).2

/-- A turn issues nothing and changes nothing, or issues the command of its thread. -/
theorem issued_cases (n : Nat) (i : I) (pool : Pool C R E G α) (w : W) :
    (issued h n i pool w = none ∧ turn h P n i pool w = (pool, w)) ∨
    ∃ g c next, pool[n]? = some ⟨g, .call c next⟩ ∧ issued h n i pool w = some ⟨c, (h c w i).1⟩ ∧
      turn h P n i pool w =
        (pool.set n ⟨P.after g c (h c w i).1, next (h c w i).1⟩, (h c w i).2) := by
  unfold issued turn
  split
  · rename_i g c next at_
    exact .inr ⟨g, c, next, at_, rfl, rfl⟩
  · exact .inl ⟨rfl, rfl⟩

section Turns
variable {rel : C → W → W → Prop} {A : W → Prop}

/-- Every command of a schedule relates the worlds around it. -/
def EachTurn (h : Handler C R W I) (P : Protocol C R G) (rel : C → W → W → Prop) :
    List (Nat × I) → Pool C R E G α → W → Prop
  | [], _, _ => True
  | (n, i) :: rest, pool, w => Admits (fun _ c w => rel c w (h c w i).2) pool[n]? w ∧
      EachTurn h P rel rest (turn h P n i pool w).1 (turn h P n i pool w).2

/-- A relation that a condition before the command decides is kept by the schedules that
respect the condition, and by no others. -/
theorem eachTurn_iff {met : C → W → Prop} (decides : ∀ c w i, rel c w (h c w i).2 ↔ met c w)
    (schedule : List (Nat × I)) (pool : Pool C R E G α) (w : W) :
    EachTurn h P rel schedule pool w ↔ Respects h P (fun _ => met) schedule pool w := by
  induction schedule generalizing pool w with
  | nil => exact Iff.rfl
  | cons t schedule ih =>
    obtain ⟨n, i⟩ := t
    refine and_congr ?_ (ih _ _)
    unfold Admits
    split
    · exact decides _ w i
    · exact Iff.rfl

theorem eachTurn_append {first rest : List (Nat × I)} {pool : Pool C R E G α} {w : W}
    (each : EachTurn h P rel (first ++ rest) pool w) :
    EachTurn h P rel rest (interleave h P first pool w).1 (interleave h P first pool w).2 := by
  induction first generalizing pool w with
  | nil => exact each
  | cons t first ih => exact ih each.2

/-- What every related step keeps, a schedule keeps. -/
theorem EachTurn.preserves (keeps : ∀ c w w', rel c w w' → A w → A w') {schedule : List (Nat × I)}
    {pool : Pool C R E G α} {w : W} (each : EachTurn h P rel schedule pool w) (now : A w) :
    A (interleave h P schedule pool w).2 := by
  induction schedule generalizing pool w with
  | nil => exact now
  | cons t schedule ih =>
    obtain ⟨n, i⟩ := t
    obtain ⟨step, later⟩ := each
    refine ih later ?_
    rcases turn_cases n i pool w with still | ⟨g, c, next, at_, moved⟩
    · rw [still]
      exact now
    · rw [at_] at step
      rw [moved]
      exact keeps c w _ step now

end Turns

section Marks
variable {gs : List G} {g g' k : G} {m n : Nat}

/-- A mark found after one has been replaced is the new one, or stands where it stood. -/
theorem set_cases (at_ : gs[n]? = some g) (found : (gs.set n g')[m]? = some k) :
    m = n ∧ k = g' ∨ m ≠ n ∧ gs[m]? = some k := by
  obtain ⟨inside, -⟩ := List.getElem?_eq_some_iff.mp at_
  by_cases here : m = n
  · subst here
    rw [List.getElem?_set_self inside] at found
    exact .inl ⟨rfl, (Option.some.inj found).symm⟩
  · rw [List.getElem?_set_ne fun back => here back.symm] at found
    exact .inr ⟨here, found⟩

theorem set_self (at_ : gs[n]? = some g) : (gs.set n g')[n]? = some g' := by
  obtain ⟨inside, -⟩ := List.getElem?_eq_some_iff.mp at_
  exact List.getElem?_set_self inside

theorem set_other (other : m ≠ n) (found : gs[m]? = some k) : (gs.set n g')[m]? = some k := by
  rwa [List.getElem?_set_ne fun back => other back.symm]

theorem set_same (at_ : gs[n]? = some g) : gs.set n g = gs := by
  obtain ⟨inside, rfl⟩ := List.getElem?_eq_some_iff.mp at_
  exact List.set_getElem_self inside

end Marks

variable {ok : G → C → W → Prop} {J : List G → W → Prop}

/-- What allowed commands preserve holds after every schedule that respects the condition. -/
theorem interleave_keeps
    (step : ∀ gs w n g c i, gs[n]? = some g → P.allowed g c → ok g c w → J gs w →
      J (gs.set n (P.after g c (h c w i).1)) (h c w i).2)
    (schedule : List (Nat × I)) {pool : Pool C R E G α} {w : W}
    (disciplined : Disciplined P pool) (holds : J (marks pool) w)
    (respects : Respects h P ok schedule pool w) :
    J (marks (interleave h P schedule pool w).1) (interleave h P schedule pool w).2 := by
  induction schedule generalizing pool w with
  | nil => exact holds
  | cons t schedule ih =>
    obtain ⟨n, i⟩ := t
    obtain ⟨now, later⟩ := respects
    refine ih (disciplined_turn disciplined) ?_ later
    rcases turn_cases n i pool w with still | ⟨g, c, next, at_, moved⟩
    · rw [still]
      exact holds
    · rw [moved, marks_set]
      rw [at_] at now
      refine step _ w n g c i ?_ ?_ now holds
      · rw [marks, List.getElem?_map, at_]
        rfl
      · exact (disciplined _ (List.mem_of_getElem? at_)).1

/-- A reflexive and transitive relation that holds around allowed commands holds around runs. -/
theorem interleave_relates {A : W → Prop} {rel : W → W → Prop} (refl : ∀ w, rel w w)
    (trans : ∀ w w' w'', rel w w' → rel w' w'' → rel w w'')
    (step : ∀ w g c i, P.allowed g c → ok g c w → A w → A (h c w i).2 ∧ rel w (h c w i).2)
    (schedule : List (Nat × I)) {pool : Pool C R E G α} {w : W} (disciplined : Disciplined P pool)
    (now : A w) (respects : Respects h P ok schedule pool w) :
    A (interleave h P schedule pool w).2 ∧ rel w (interleave h P schedule pool w).2 := by
  refine interleave_keeps (J := fun _ w' => A w' ∧ rel w w') ?_ schedule disciplined ⟨now, refl w⟩
    respects
  intro gs w' n g c i _ allowed met held
  obtain ⟨kept, related⟩ := step w' g c i allowed met held.1
  exact ⟨kept, trans _ _ _ held.2 related⟩

theorem disciplined_interleave (schedule : List (Nat × I)) {pool : Pool C R E G α} {w : W}
    (disciplined : Disciplined P pool) : Disciplined P (interleave h P schedule pool w).1 :=
  promises_interleave schedule disciplined

end Schedules

end ProgramPools
