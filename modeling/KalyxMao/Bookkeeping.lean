import Mathlib.Algebra.BigOperators.Group.List.Basic
import Mathlib.Algebra.BigOperators.Group.Finset.Basic
import Mathlib.Algebra.BigOperators.Group.Finset.Piecewise
import Mathlib.Algebra.Order.BigOperators.Group.List
import Mathlib.Data.List.AList
import Mathlib.Tactic.Abel

/-!
# Postings between accounts, and running tallies

A posting moves an amount from one account to another. The balance of an
account is what was posted to it less what was posted from it; no sign
condition on amounts and no distinctness of the two accounts is assumed.

A tally is a dictionary of running values. `bump` adds to one key, treating a
missing key as zero, and `total` sums the values whose key passes a test.
-/

namespace Bookkeeping

universe u v

structure Posting (A : Type u) (M : Type v) where
  source : A
  target : A
  amount : M

section Postings
variable {A : Type u} {M : Type v} [DecidableEq A] [AddCommGroup M]

def credits (ps : List (Posting A M)) (a : A) : M :=
  (ps.map fun p => if p.target = a then p.amount else 0).sum

def debits (ps : List (Posting A M)) (a : A) : M :=
  (ps.map fun p => if p.source = a then p.amount else 0).sum

def balance (ps : List (Posting A M)) (a : A) : M := credits ps a - debits ps a

@[simp] theorem credits_nil (a : A) : credits ([] : List (Posting A M)) a = 0 := rfl

@[simp] theorem debits_nil (a : A) : debits ([] : List (Posting A M)) a = 0 := rfl

@[simp] theorem balance_nil (a : A) : balance ([] : List (Posting A M)) a = 0 := by
  simp [balance]

@[simp] theorem credits_append (ps qs : List (Posting A M)) (a : A) :
    credits (ps ++ qs) a = credits ps a + credits qs a := by
  simp [credits]

@[simp] theorem debits_append (ps qs : List (Posting A M)) (a : A) :
    debits (ps ++ qs) a = debits ps a + debits qs a := by
  simp [debits]

theorem balance_append (ps qs : List (Posting A M)) (a : A) :
    balance (ps ++ qs) a = balance ps a + balance qs a := by
  simp only [balance, credits_append, debits_append]
  abel

/-- The effect of one more posting on every balance. -/
theorem balance_concat (ps : List (Posting A M)) (p : Posting A M) (a : A) :
    balance (ps ++ [p]) a = balance ps a + ((if p.target = a then p.amount else 0) -
      (if p.source = a then p.amount else 0)) := by
  rw [balance_append]
  simp [balance, credits, debits]

theorem balance_concat_of_ne (ps : List (Posting A M)) (p : Posting A M) {a : A}
    (ht : p.target ≠ a) (hs : p.source ≠ a) : balance (ps ++ [p]) a = balance ps a := by
  simp [balance_concat, ht, hs]

theorem sum_credits (ps : List (Posting A M)) (accounts : Finset A) :
    ∑ a ∈ accounts, credits ps a =
      (ps.map fun p => if p.target ∈ accounts then p.amount else 0).sum := by
  induction ps with
  | nil => simp
  | cons p ps ih =>
    have head : ∀ a, credits (p :: ps) a =
        (if p.target = a then p.amount else 0) + credits ps a := fun a => rfl
    simp only [head, Finset.sum_add_distrib, ih, List.map_cons, List.sum_cons,
      Finset.sum_ite_eq]

theorem sum_debits (ps : List (Posting A M)) (accounts : Finset A) :
    ∑ a ∈ accounts, debits ps a =
      (ps.map fun p => if p.source ∈ accounts then p.amount else 0).sum := by
  induction ps with
  | nil => simp
  | cons p ps ih =>
    have head : ∀ a, debits (p :: ps) a =
        (if p.source = a then p.amount else 0) + debits ps a := fun a => rfl
    simp only [head, Finset.sum_add_distrib, ih, List.map_cons, List.sum_cons,
      Finset.sum_ite_eq]

/-- What all accounts but `m` hold together is what `m` paid out less what was
posted back to it. The set must contain every other account the postings name. -/
theorem sum_balance_without (ps : List (Posting A M)) (m : A) (accounts : Finset A)
    (fresh : m ∉ accounts)
    (covers : ∀ p ∈ ps, (p.source = m ∨ p.source ∈ accounts) ∧
      (p.target = m ∨ p.target ∈ accounts)) :
    ∑ a ∈ accounts, balance ps a = debits ps m - credits ps m := by
  have split : ∀ (x : M) (b : A), (b = m ∨ b ∈ accounts) →
      (if b ∈ accounts then x else 0) = x - (if b = m then x else 0) := by
    intro x b hb
    by_cases hm : b = m
    · simp [hm, fresh]
    · simp [hm, hb.resolve_left hm]
  simp only [balance, Finset.sum_sub_distrib, sum_credits, sum_debits]
  induction ps with
  | nil => simp
  | cons p ps ih =>
    have hp := covers p List.mem_cons_self
    have tail := ih fun q hq => covers q (List.mem_cons_of_mem p hq)
    simp only [debits, credits, List.map_cons, List.sum_cons, split _ _ hp.1,
      split _ _ hp.2] at tail ⊢
    rw [sub_eq_iff_eq_add] at tail
    rw [tail]
    abel

section Ordered
variable [LinearOrder M] [IsOrderedAddMonoid M]

theorem credits_nonneg {ps : List (Posting A M)} (pos : ∀ p ∈ ps, 0 < p.amount) (a : A) :
    0 ≤ credits ps a := by
  refine List.sum_nonneg fun x hx => ?_
  obtain ⟨p, hp, rfl⟩ := List.mem_map.mp hx
  by_cases h : p.target = a
  · simpa [h] using (pos p hp).le
  · simp [h]

theorem debits_nonneg {ps : List (Posting A M)} (pos : ∀ p ∈ ps, 0 < p.amount) (a : A) :
    0 ≤ debits ps a := by
  refine List.sum_nonneg fun x hx => ?_
  obtain ⟨p, hp, rfl⟩ := List.mem_map.mp hx
  by_cases h : p.source = a
  · simpa [h] using (pos p hp).le
  · simp [h]

/-- Positive postings cannot cancel, so an account with no credit got none. -/
theorem credits_eq_zero_iff {ps : List (Posting A M)} (pos : ∀ p ∈ ps, 0 < p.amount) (a : A) :
    credits ps a = 0 ↔ ∀ p ∈ ps, p.target ≠ a := by
  induction ps with
  | nil => simp
  | cons p ps ih =>
    have tail : ∀ q ∈ ps, 0 < q.amount := fun q hq => pos q (List.mem_cons_of_mem p hq)
    have head : credits (p :: ps) a = (if p.target = a then p.amount else 0) + credits ps a := rfl
    rw [head, List.forall_mem_cons, ← ih tail]
    by_cases h : p.target = a
    · have := add_pos_of_pos_of_nonneg (pos p List.mem_cons_self) (credits_nonneg tail a)
      simp [h, this.ne']
    · simp [h]

end Ordered

end Postings

section Tallies
variable {K : Type u} {M : Type v} [DecidableEq K] [AddCommGroup M]

abbrev Tally (K : Type u) (M : Type v) := AList (fun _ : K => M)

def value (d : Tally K M) (k : K) : M := (d.lookup k).getD 0

def bump (d : Tally K M) (k : K) (x : M) : Tally K M := d.insert k (value d k + x)

def total (keep : K → Bool) (d : Tally K M) : M :=
  (d.entries.map fun kv => if keep kv.1 then kv.2 else 0).sum

@[simp] theorem value_empty (k : K) : value (∅ : Tally K M) k = 0 := rfl

omit [DecidableEq K] in
@[simp] theorem total_empty (keep : K → Bool) : total keep (∅ : Tally K M) = 0 := rfl

theorem value_insert (d : Tally K M) (k a : K) (x : M) :
    value (d.insert k x) a = if k = a then x else value d a := by
  by_cases h : k = a
  · subst h
    simp [value]
  · simp [value, h, AList.lookup_insert_ne (fun e : a = k => h e.symm)]

theorem value_bump (d : Tally K M) (k a : K) (x : M) :
    value (bump d k x) a = value d a + if k = a then x else 0 := by
  rw [bump, value_insert]
  by_cases h : k = a
  · simp [h]
  · simp [h]

/-- Erasing one key takes its value out of the sum. -/
lemma sum_kerase (keep : K → Bool) (k : K) (l : List (Sigma fun _ : K => M)) :
    (l.map fun kv => if keep kv.1 then kv.2 else 0).sum =
      (if keep k then (l.dlookup k).getD 0 else 0) +
        ((l.kerase k).map fun kv => if keep kv.1 then kv.2 else 0).sum := by
  induction l with
  | nil => simp
  | cons s l ih =>
    obtain ⟨a, x⟩ := s
    by_cases h : k = a
    · subst h
      simp
    · rw [List.kerase_cons_ne h, List.dlookup_cons_ne _ _ h]
      simp only [List.map_cons, List.sum_cons, ih]
      abel

theorem total_insert (keep : K → Bool) (d : Tally K M) (k : K) (x : M) :
    total keep (d.insert k x) = total keep d + if keep k then x - value d k else 0 := by
  simp only [total, value, AList.lookup, AList.entries_insert, List.map_cons,
    List.sum_cons, sum_kerase keep k d.entries]
  by_cases h : keep k
  · simp only [h, if_true]
    abel
  · simp only [h]
    simp

theorem total_bump (keep : K → Bool) (d : Tally K M) (k : K) (x : M) :
    total keep (bump d k x) = total keep d + if keep k then x else 0 := by
  rw [bump, total_insert]
  simp

end Tallies

end Bookkeeping
