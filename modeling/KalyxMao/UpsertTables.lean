import KalyxMao.KeyedLists
import KalyxMao.StepRuns

/-!
# Inserts that turn into updates

A table keeps records as rows under a key. Saving a record under a new key inserts
its row; under a key that is there it updates some of the columns and leaves the
others as they are. What is read back is the record last saved exactly if its row
reads back as the record, and the record agrees with the one before in the columns
that are left.
-/

namespace UpsertTables
open KeyedLists

universe u v w x

/-- How a call's record is kept in a table. `update` and `keep` say of rows and of records what a
conflict makes of the stored one and the one that is saved. -/
structure Layout (α : Type u) (β : Type v) (ρ : Type w) (κ : Type x) where
  key : α → κ
  record : α → β
  write : α → Option ρ
  admits : ρ → Bool
  update : ρ → ρ → ρ
  rowKey : ρ → κ
  read : ρ → Option β
  keep : β → β → β
  write_key : ∀ {a row}, write a = some row → rowKey row = key a
  update_key : ∀ stored row, rowKey (update stored row) = rowKey stored
  read_update : ∀ {b stored a row}, read stored = some b → write a = some row →
    read (update stored row) = (read row).map (keep b)

/-- The rows of a table, and what was last saved under each key. -/
structure Store (β : Type v) (ρ : Type w) (κ : Type x) where
  rows : List ρ
  saved : κ → Option β

def Store.empty {β : Type v} {ρ : Type w} {κ : Type x} : Store β ρ κ := ⟨[], fun _ => none⟩

variable {α : Type u} {β : Type v} {ρ : Type w} {κ : Type x} [DecidableEq κ]

namespace Layout
variable (L : Layout α β ρ κ)

/-- The insert with its conflict clause; a record or a new row may be refused. -/
def save (rows : List ρ) (a : α) : Option (List ρ) := do
  let row ← L.write a
  match lookupBy L.rowKey rows (L.rowKey row) with
  | some stored => some (replaceBy L.rowKey rows (L.update stored row))
  | none => if L.admits row then some (rows ++ [row]) else none

/-- The record under a key, if there is a row; inside, `none` where reading the row raises. -/
def get (rows : List ρ) (k : κ) : Option (Option β) := (lookupBy L.rowKey rows k).map L.read

/-- A save that is refused leaves everything as it was. -/
def step (s : Store β ρ κ) (a : α) : Store β ρ κ :=
  match L.save s.rows a with
  | none => s
  | some rows => ⟨rows, fun k => if k = L.key a then some (L.record a) else s.saved k⟩

/-- Reading answers what was last saved. -/
def Faithful (s : Store β ρ κ) : Prop := ∀ k, L.get s.rows k = (s.saved k).map some

/-- What becomes of a record where another one is stored. -/
def settle (before : Option β) (b : β) : β :=
  match before with
  | some stored => L.keep stored b
  | none => b

/-- The record that is saved, unless it is refused, comes back from its row, and is left as it is
by the columns that stay. -/
def Sound (s : Store β ρ κ) (a : α) : Prop :=
  ∀ row, L.write a = some row → (L.save s.rows a).isSome = true →
    (L.read row).map (L.settle (s.saved (L.key a))) = some (L.record a)

variable {L} {s : Store β ρ κ} {rows rows' : List ρ} {a : α}

/-- A save changes what is found under its key and nothing else. -/
theorem lookup_save (saved : L.save rows a = some rows') : ∃ row, L.write a = some row ∧
    lookupBy L.rowKey rows' (L.key a) =
      some ((lookupBy L.rowKey rows (L.key a)).elim row fun stored => L.update stored row) ∧
    ∀ k, k ≠ L.key a → lookupBy L.rowKey rows' k = lookupBy L.rowKey rows k := by
  obtain ⟨row, wrote, saved⟩ := Option.bind_eq_some_iff.mp saved
  have own := L.write_key wrote
  refine ⟨row, wrote, ?_⟩
  rw [own] at saved
  cases found : lookupBy L.rowKey rows (L.key a) with
  | some stored =>
    rw [found] at saved
    obtain rfl := Option.some.inj saved
    have place : L.rowKey (L.update stored row) = L.key a :=
      (L.update_key stored row).trans (lookupBy_some found).2
    constructor
    · rw [← place] at found ⊢
      exact lookupBy_replaceBy_some found
    · intro k other
      exact lookupBy_replaceBy_ne fun same => other (same.symm.trans place)
  | none =>
    rw [found] at saved
    dsimp only at saved
    split_ifs at saved
    obtain rfl := Option.some.inj saved
    constructor
    · rw [← own] at found ⊢
      exact lookupBy_concat_self (lookupBy_none.mp found)
    · intro k other
      exact lookupBy_concat_ne fun same => other (same.symm.trans own)

/-- The row that a save leaves under its key, new or updated; the rows of other keys stay. -/
structure Stored (L : Layout α β ρ κ) (rows rows' : List ρ) (k : κ) (written new : ρ) : Prop where
  rowKey : L.rowKey new = k
  made : new = written ∨ ∃ stored ∈ rows, new = L.update stored written
  members : ∀ row ∈ rows', row = new ∨ row ∈ rows ∧ L.rowKey row ≠ k
  there : new ∈ rows'
  kept : ∀ row ∈ rows, L.rowKey row ≠ k → row ∈ rows'

theorem mem_save (saved : L.save rows a = some rows') :
    ∃ written new, L.write a = some written ∧ Stored L rows rows' (L.key a) written new := by
  obtain ⟨written, wrote, saved⟩ := Option.bind_eq_some_iff.mp saved
  have own := L.write_key wrote
  split at saved
  · rename_i stored found
    obtain rfl := Option.some.inj saved
    obtain ⟨mem, place⟩ := lookupBy_some found
    have updated := L.update_key stored written
    refine ⟨written, L.update stored written, wrote, updated.trans (place.trans own),
      .inr ⟨stored, mem, rfl⟩, ?_, mem_replaceBy_self mem updated.symm, ?_⟩
    · intro row there
      rcases mem_replaceBy there with rfl | ⟨old, other⟩
      · exact .inl rfl
      · exact .inr ⟨old, fun same => other (same.trans (updated.trans (place.trans own)).symm)⟩
    · intro row old other
      exact mem_replaceBy_ne old fun same => other (same.trans (updated.trans (place.trans own)))
  · rename_i absent
    split_ifs at saved
    obtain rfl := Option.some.inj saved
    refine ⟨written, written, wrote, own, .inl rfl, ?_, List.mem_append_right _ (List.mem_singleton_self _),
      fun row old _ => List.mem_append_left _ old⟩
    intro row there
    rcases List.mem_append.mp there with old | new
    · exact .inr ⟨old, own ▸ lookupBy_none.mp absent row old⟩
    · exact .inl (List.mem_singleton.mp new)

/-- Where reading was faithful, it answers what the stored columns make of the row. -/
theorem get_save (faithful : L.Faithful s) (saved : L.save s.rows a = some rows') :
    ∃ row, L.write a = some row ∧
      L.get rows' (L.key a) = some ((L.read row).map (L.settle (s.saved (L.key a)))) ∧
      ∀ k, k ≠ L.key a → L.get rows' k = L.get s.rows k := by
  obtain ⟨row, wrote, here, there⟩ := lookup_save saved
  refine ⟨row, wrote, ?_, fun k other => congrArg (Option.map L.read) (there k other)⟩
  have before := faithful (L.key a)
  rw [get] at before
  rw [get, here]
  cases found : lookupBy L.rowKey s.rows (L.key a) with
  | some stored =>
    rw [found] at before
    cases last : s.saved (L.key a) with
    | some b =>
      rw [last] at before
      have read : L.read stored = some b := Option.some.inj before
      exact congrArg some (L.read_update read wrote)
    | none =>
      rw [last] at before
      cases before
  | none =>
    rw [found] at before
    cases last : s.saved (L.key a) with
    | some b =>
      rw [last] at before
      cases before
    | none =>
      have same : L.settle none = id := rfl
      rw [same, Option.map_id]
      rfl

/-- After a save reading is faithful exactly if the save was sound. -/
theorem faithful_step_iff (faithful : L.Faithful s) : L.Faithful (L.step s a) ↔ L.Sound s a := by
  cases outcome : L.save s.rows a with
  | none =>
    have still : L.step s a = s := by rw [step, outcome]
    rw [still]
    refine iff_of_true faithful fun row _ taken => ?_
    rw [outcome] at taken
    cases taken
  | some rows =>
    have moved : L.step s a =
        ⟨rows, fun k => if k = L.key a then some (L.record a) else s.saved k⟩ := by
      rw [step, outcome]
    obtain ⟨row, wrote, here, there⟩ := get_save faithful outcome
    rw [moved]
    constructor
    · intro after row' wrote' _
      obtain rfl := Option.some.inj (wrote.symm.trans wrote')
      have answer := after (L.key a)
      dsimp only at answer
      rw [here, if_pos rfl] at answer
      exact Option.some.inj answer
    · intro sound k
      have settled := sound row wrote (by rw [outcome]; rfl)
      dsimp only
      by_cases own : k = L.key a
      · rw [own, here, settled, if_pos rfl]
        rfl
      · rw [there k own, if_neg own]
        exact faithful k

/-- What was last saved is read from a row under its key. -/
theorem Faithful.row (faithful : L.Faithful s) {k : κ} {b : β} (last : s.saved k = some b) :
    ∃ row, L.rowKey row = k ∧ L.read row = some b := by
  have answer := faithful k
  rw [last, get] at answer
  obtain ⟨row, found, read⟩ := Option.map_eq_some_iff.mp answer
  exact ⟨row, (lookupBy_some found).2, read⟩

/-- A save that is taken has a row. -/
theorem row_of_save (taken : (L.save s.rows a).isSome = true) : ∃ row, L.write a = some row := by
  obtain ⟨rows, saved⟩ := Option.isSome_iff_exists.mp taken
  obtain ⟨row, wrote, -⟩ := lookup_save saved
  exact ⟨row, wrote⟩

/-- A save is sound if it is refused, or the row it writes settles to its record. -/
theorem sound_iff_of_row {P : Prop}
    (settles : ∀ row, L.write a = some row →
      ((L.read row).map (L.settle (s.saved (L.key a))) = some (L.record a) ↔ P)) :
    L.Sound s a ↔ ((L.save s.rows a).isSome = true → P) := by
  constructor
  · intro sound taken
    obtain ⟨row, wrote⟩ := row_of_save taken
    exact (settles row wrote).mp (sound row wrote taken)
  · intro holds row wrote taken
    exact (settles row wrote).mpr (holds taken)

/-- A save notes its own record and no other. -/
theorem saved_step {k : κ} {b : β} (last : (L.step s a).saved k = some b) :
    b = L.record a ∨ s.saved k = some b := by
  rw [step] at last
  split at last
  · exact .inr last
  · dsimp only at last
    split_ifs at last
    · exact .inl (Option.some.inj last).symm
    · exact .inr last

theorem faithful_empty : L.Faithful .empty := fun _ => rfl

end Layout

end UpsertTables
