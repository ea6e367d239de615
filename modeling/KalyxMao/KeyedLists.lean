import Mathlib.Algebra.BigOperators.Group.List.Basic
import Mathlib.Data.List.Nodup

/-!
# Lists of records with a key

A table with a unique key, as the list of its records. Replacing the record
under a key keeps the order, the keys, and every other record.
-/

namespace KeyedLists

universe u v w
variable {α : Type u} {κ : Type v} {M : Type w} [DecidableEq κ]

def lookupBy (key : α → κ) (l : List α) (k : κ) : Option α := l.find? fun a => key a = k

def replaceBy (key : α → κ) (l : List α) (a : α) : List α :=
  l.map fun b => if key b = key a then a else b

variable {key : α → κ} {l : List α} {a b : α} {k : κ}

theorem lookupBy_cons (b : α) (l : List α) (k : κ) :
    lookupBy key (b :: l) k = if key b = k then some b else lookupBy key l k := by
  by_cases h : key b = k
  · simp [lookupBy, h]
  · simp [lookupBy, h]

theorem lookupBy_some (h : lookupBy key l k = some a) : a ∈ l ∧ key a = k := by
  have found : l.find? (fun a => key a = k) = some a := h
  exact ⟨List.mem_of_find?_eq_some found, by simpa using List.find?_some found⟩

theorem lookupBy_none : lookupBy key l k = none ↔ ∀ a ∈ l, key a ≠ k := by
  simp [lookupBy]

omit [DecidableEq κ] in
theorem eq_of_key (nodup : (l.map key).Nodup) (ha : a ∈ l) (hb : b ∈ l) (same : key a = key b) :
    a = b :=
  List.inj_on_of_nodup_map nodup ha hb same

/-- What keeps the keys changes what is found as it changes the records. -/
theorem lookupBy_map {f : α → α} (keeps : ∀ a, key (f a) = key a) :
    lookupBy key (l.map f) k = (lookupBy key l k).map f := by
  induction l with
  | nil => rfl
  | cons b l ih =>
    rw [List.map_cons, lookupBy_cons, lookupBy_cons, keeps, ih]
    split_ifs
    · rfl
    · rfl

theorem lookupBy_of_mem (nodup : (l.map key).Nodup) (ha : a ∈ l) :
    lookupBy key l (key a) = some a := by
  cases h : lookupBy key l (key a) with
  | none => exact absurd rfl (lookupBy_none.mp h a ha)
  | some b =>
    obtain ⟨hb, same⟩ := lookupBy_some h
    rw [eq_of_key nodup hb ha same]

theorem lookupBy_concat_self (new : ∀ b ∈ l, key b ≠ key a) :
    lookupBy key (l ++ [a]) (key a) = some a := by
  have none : lookupBy key l (key a) = none := lookupBy_none.mpr new
  rw [lookupBy, List.find?_append]
  rw [lookupBy] at none
  simp [none]

theorem lookupBy_concat_ne (ne : key a ≠ k) : lookupBy key (l ++ [a]) k = lookupBy key l k := by
  rw [lookupBy, List.find?_append]
  simp [lookupBy, ne]

theorem map_key_replaceBy (l : List α) (a : α) : (replaceBy key l a).map key = l.map key := by
  rw [replaceBy, List.map_map]
  refine List.map_congr_left fun b _ => ?_
  by_cases h : key b = key a
  · simp [h]
  · simp [h]

theorem mem_replaceBy (h : b ∈ replaceBy key l a) : b = a ∨ (b ∈ l ∧ key b ≠ key a) := by
  obtain ⟨c, hc, rfl⟩ := List.mem_map.mp h
  by_cases same : key c = key a
  · exact .inl (if_pos same)
  · rw [if_neg same]
    exact .inr ⟨hc, same⟩

theorem mem_replaceBy_self (hb : b ∈ l) (same : key b = key a) : a ∈ replaceBy key l a :=
  List.mem_map.mpr ⟨b, hb, if_pos same⟩

theorem mem_replaceBy_ne (hb : b ∈ l) (ne : key b ≠ key a) : b ∈ replaceBy key l a :=
  List.mem_map.mpr ⟨b, hb, if_neg ne⟩

theorem lookupBy_replaceBy_self (nodup : (l.map key).Nodup) (hb : b ∈ l) (same : key b = key a) :
    lookupBy key (replaceBy key l a) (key a) = some a :=
  lookupBy_of_mem (by rwa [map_key_replaceBy]) (mem_replaceBy_self hb same)

/-- A replaced record is the one that is found, also where a key stands twice. -/
theorem lookupBy_replaceBy_some (found : lookupBy key l (key a) = some b) :
    lookupBy key (replaceBy key l a) (key a) = some a := by
  induction l with
  | nil => cases found
  | cons c l ih =>
    rw [replaceBy] at ih
    rw [replaceBy, List.map_cons, lookupBy_cons]
    by_cases same : key c = key a
    · rw [if_pos same, if_pos rfl]
    · rw [lookupBy_cons, if_neg same] at found
      rw [if_neg same, if_neg same]
      exact ih found

theorem lookupBy_replaceBy_ne (ne : key a ≠ k) :
    lookupBy key (replaceBy key l a) k = lookupBy key l k := by
  induction l with
  | nil => rfl
  | cons b l ih =>
    rw [replaceBy] at ih
    rw [replaceBy, List.map_cons, lookupBy_cons, lookupBy_cons, ih]
    by_cases h : key b = key a
    · simp [h, ne]
    · simp [h]

theorem replaceBy_of_mem (nodup : (l.map key).Nodup) (ha : a ∈ l) : replaceBy key l a = l := by
  rw [replaceBy]
  refine (List.map_congr_left fun b hb => ?_).trans (List.map_id l)
  by_cases same : key b = key a
  · rw [if_pos same, eq_of_key nodup hb ha same]
    rfl
  · exact if_neg same

/-- Of two replacements under one key the later one counts. -/
theorem replaceBy_replaceBy {c : α} (same : key c = key a) :
    replaceBy key (replaceBy key l c) a = replaceBy key l a := by
  rw [replaceBy, replaceBy, replaceBy, List.map_map]
  refine List.map_congr_left fun b _ => ?_
  by_cases h : key b = key a
  · simp [h, same]
  · simp [h, same]

section Sums
variable [AddCommMonoid M]

/-- A sum with one term under the key of a member. -/
theorem sum_map_ite_key (key : α → κ) (f : α → M) (nodup : (l.map key).Nodup) (ha : a ∈ l) :
    (l.map fun b => if key b = key a then f b else 0).sum = f a := by
  induction l with
  | nil => cases ha
  | cons c l ih =>
    rw [List.map_cons, List.nodup_cons] at nodup
    rcases List.mem_cons.mp ha with rfl | mem
    · have rest : (l.map fun b => if key b = key a then f b else 0).sum = 0 := by
        refine List.sum_eq_zero fun x hx => ?_
        obtain ⟨b, hb, rfl⟩ := List.mem_map.mp hx
        have ne : key b ≠ key a := fun same => nodup.1 (same ▸ List.mem_map_of_mem hb)
        exact if_neg ne
      simp [rest]
    · have ne : key c ≠ key a := fun e => nodup.1 (e ▸ List.mem_map_of_mem mem)
      simp [ne, ih nodup.2 mem]

theorem sum_map_replaceBy (f : α → M) (same : ∀ b ∈ l, key b = key a → f b = f a) :
    ((replaceBy key l a).map f).sum = (l.map f).sum := by
  rw [replaceBy, List.map_map]
  refine congrArg List.sum (List.map_congr_left fun b hb => ?_)
  by_cases h : key b = key a
  · simp [h, same b hb h]
  · simp [h]

end Sums

end KeyedLists
