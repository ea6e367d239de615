import Mathlib.Tactic.Ring
import KalyxMao.PythonText

/-!
# Datetimes and their ISO text

A datetime carries its wall clock and, if it is aware, its offset from UTC. Its
text has fixed-width fields, so that it can be read back field by field: the
microseconds and the offset are each marked by a character of their own.
-/

namespace PythonDates
open PythonText

/-- The lowest `width` decimal digits of a number. -/
def pad : Nat → Nat → List Char
  | 0, _ => []
  | width + 1, n => pad width (n / 10) ++ [Nat.digitChar (n % 10)]

@[simp] theorem pad_length (width n : Nat) : (pad width n).length = width := by
  induction width generalizing n with
  | zero => rfl
  | succ width ih => simp [pad, ih]

theorem digitChar_inj : ∀ a < 10, ∀ b < 10, Nat.digitChar a = Nat.digitChar b → a = b := by decide

theorem pad_inj {width a b : Nat} (ha : a < 10 ^ width) (hb : b < 10 ^ width)
    (same : pad width a = pad width b) : a = b := by
  induction width generalizing a b with
  | zero =>
    rw [Nat.pow_zero, Nat.lt_one_iff] at ha hb
    rw [ha, hb]
  | succ width ih =>
    obtain ⟨high, low⟩ := List.append_inj' same rfl
    have highs : a / 10 = b / 10 := by
      refine ih ?_ ?_ high
      · rw [Nat.div_lt_iff_lt_mul (by decide), ← Nat.pow_succ]
        exact ha
      · rw [Nat.div_lt_iff_lt_mul (by decide), ← Nat.pow_succ]
        exact hb
    have lows : a % 10 = b % 10 :=
      digitChar_inj _ (Nat.mod_lt _ (by decide)) _ (Nat.mod_lt _ (by decide)) (List.cons.inj low).1
    omega

theorem digitChar_isDigit : ∀ d < 10, (Nat.digitChar d).isDigit = true := by decide

theorem pad_digits {width n : Nat} {c : Char} (hc : c ∈ pad width n) : c.isDigit = true := by
  induction width generalizing n with
  | zero => simp [pad] at hc
  | succ width ih =>
    rw [pad, List.mem_append, List.mem_singleton] at hc
    rcases hc with high | low
    · exact ih high
    · rw [low]
      exact digitChar_isDigit _ (Nat.mod_lt _ (by decide))

def isLeap (year : Nat) : Bool := year % 4 = 0 && (year % 100 ≠ 0 || year % 400 = 0)

def daysInMonth (year month : Nat) : Nat :=
  if month = 2 then (if isLeap year then 29 else 28)
  else if month = 4 ∨ month = 6 ∨ month = 9 ∨ month = 11 then 30
  else 31

structure Clock where
  year : Nat
  month : Nat
  day : Nat
  hour : Nat
  minute : Nat
  second : Nat
  microsecond : Nat
  deriving DecidableEq

def Clock.Valid (c : Clock) : Prop :=
  (1 ≤ c.year ∧ c.year ≤ 9999) ∧ (1 ≤ c.month ∧ c.month ≤ 12) ∧
    (1 ≤ c.day ∧ c.day ≤ daysInMonth c.year c.month) ∧
    c.hour < 24 ∧ c.minute < 60 ∧ c.second < 60 ∧ c.microsecond < 1000000

instance (c : Clock) : Decidable c.Valid := inferInstanceAs (Decidable (_ ∧ _))

/-- Microseconds in a day, the bound of a UTC offset in either direction. -/
def dayLength : Nat := 86400000000

structure DateTime where
  clock : Clock
  offset : Option Int
  valid : clock.Valid
  bounded : ∀ o ∈ offset, o.natAbs < dayLength

theorem DateTime.ext_fields {d e : DateTime} (clock : d.clock = e.clock)
    (offset : d.offset = e.offset) : d = e := by
  cases d
  cases e
  obtain rfl := clock
  obtain rfl := offset
  rfl

theorem naive_bounded : ∀ o ∈ (none : Option Int), o.natAbs < dayLength := by simp

theorem utc_bounded : ∀ o ∈ some (0 : Int), o.natAbs < dayLength := by decide

/-- `value.replace(tzinfo=None)`. -/
def DateTime.naive (d : DateTime) : DateTime := ⟨d.clock, none, d.valid, naive_bounded⟩

def dateText (c : Clock) : List Char :=
  pad 4 c.year ++ '-' :: (pad 2 c.month ++ '-' :: (pad 2 c.day ++ 'T' ::
    (pad 2 c.hour ++ ':' :: (pad 2 c.minute ++ ':' :: pad 2 c.second))))

def fraction (microsecond : Nat) : List Char :=
  if microsecond = 0 then [] else '.' :: pad 6 microsecond

def offsetSeconds (second microsecond : Nat) : List Char :=
  if second = 0 ∧ microsecond = 0 then [] else ':' :: (pad 2 second ++ fraction microsecond)

def offsetText : Option Int → List Char
  | none => []
  | some o =>
    let n := o.natAbs
    (if o < 0 then '-' else '+') :: (pad 2 (n / 3600000000) ++ ':' ::
      (pad 2 (n / 60000000 % 60) ++ offsetSeconds (n / 1000000 % 60) (n % 1000000)))

def DateTime.isoformat (d : DateTime) : String :=
  String.ofList (dateText d.clock ++ (fraction d.clock.microsecond ++ offsetText d.offset))

section Reading

theorem fraction_inj {a b : Nat} (ha : a < 1000000) (hb : b < 1000000)
    (same : fraction a = fraction b) : a = b := by
  rw [fraction, fraction] at same
  split_ifs at same with za zb zb
  · rw [za, zb]
  · exact pad_inj ha hb (List.cons.inj same).2

theorem offsetSeconds_inj {s u s' u' : Nat} (hs : s < 60) (hs' : s' < 60) (hu : u < 1000000)
    (hu' : u' < 1000000) (same : offsetSeconds s u = offsetSeconds s' u') : s = s' ∧ u = u' := by
  rw [offsetSeconds, offsetSeconds] at same
  split_ifs at same with z z' z'
  · omega
  · obtain ⟨seconds, micros⟩ := List.append_inj (List.cons.inj same).2 (by simp)
    exact ⟨pad_inj (by omega) (by omega) seconds, fraction_inj hu hu' micros⟩

theorem offsetText_inj {o p : Option Int} (ho : ∀ x ∈ o, x.natAbs < dayLength)
    (hp : ∀ x ∈ p, x.natAbs < dayLength) (same : offsetText o = offsetText p) : o = p := by
  cases o with
  | none =>
    cases p with
    | none => rfl
    | some p => cases same
  | some o =>
    cases p with
    | none => cases same
    | some p =>
      have boundO := ho o rfl
      have boundP := hp p rfl
      rw [dayLength] at boundO boundP
      obtain ⟨sign, rest⟩ := List.cons.inj same
      obtain ⟨hours, rest⟩ := List.append_inj rest (by simp)
      obtain ⟨minutes, rest⟩ := List.append_inj (List.cons.inj rest).2 (by simp)
      have hour := pad_inj (by omega) (by omega) hours
      have minute := pad_inj (by omega) (by omega) minutes
      obtain ⟨second, micro⟩ := offsetSeconds_inj (Nat.mod_lt _ (by decide))
        (Nat.mod_lt _ (by decide)) (Nat.mod_lt _ (by decide)) (Nat.mod_lt _ (by decide)) rest
      have size : o.natAbs = p.natAbs := by omega
      have direction : o < 0 ↔ p < 0 := by
        split_ifs at sign with no np np
        · exact iff_of_true no np
        · exact absurd sign (by decide)
        · exact absurd sign (by decide)
        · exact iff_of_false no np
      congr 1
      omega

/-- The two parts after the seconds start with different characters. -/
theorem tail_inj {a b : Nat} {o p : Option Int} (ha : a < 1000000) (hb : b < 1000000)
    (same : fraction a ++ offsetText o = fraction b ++ offsetText p) :
    a = b ∧ offsetText o = offsetText p := by
  have start (q : Option Int) (rest : List Char) : offsetText q ≠ '.' :: rest := by
    cases q with
    | none =>
      intro found
      cases found
    | some q =>
      intro found
      have head := (List.cons.inj found).1
      split_ifs at head
      · exact absurd head (by decide)
      · exact absurd head (by decide)
  by_cases za : a = 0
  · by_cases zb : b = 0
    · rw [fraction, fraction, if_pos za, if_pos zb] at same
      exact ⟨za.trans zb.symm, same⟩
    · rw [fraction, fraction, if_pos za, if_neg zb] at same
      exact absurd same (start o _)
  · by_cases zb : b = 0
    · rw [fraction, fraction, if_neg za, if_pos zb] at same
      exact absurd same.symm (start p _)
    · rw [fraction, fraction, if_neg za, if_neg zb] at same
      obtain ⟨digits, rest⟩ := List.append_inj (List.cons.inj same).2 (by simp)
      exact ⟨pad_inj ha hb digits, rest⟩

theorem daysInMonth_le (year month : Nat) : daysInMonth year month ≤ 31 := by
  rw [daysInMonth]
  split_ifs
  · decide
  · decide
  · decide
  · decide

theorem dateText_inj {c e : Clock} (hc : c.Valid) (he : e.Valid) (micro : c.microsecond = e.microsecond)
    (same : dateText c = dateText e) : c = e := by
  obtain ⟨⟨-, cy⟩, ⟨-, cm⟩, ⟨-, cd⟩, ch, cmin, cs, -⟩ := hc
  obtain ⟨⟨-, ey⟩, ⟨-, em⟩, ⟨-, ed⟩, eh, emin, es, -⟩ := he
  have cDay := cd.trans (daysInMonth_le _ _)
  have eDay := ed.trans (daysInMonth_le _ _)
  obtain ⟨year, rest⟩ := List.append_inj same (by simp)
  obtain ⟨month, rest⟩ := List.append_inj (List.cons.inj rest).2 (by simp)
  obtain ⟨day, rest⟩ := List.append_inj (List.cons.inj rest).2 (by simp)
  obtain ⟨hour, rest⟩ := List.append_inj (List.cons.inj rest).2 (by simp)
  obtain ⟨minute, rest⟩ := List.append_inj (List.cons.inj rest).2 (by simp)
  have second := (List.cons.inj rest).2
  cases c
  cases e
  dsimp only at *
  obtain rfl := micro
  obtain rfl := pad_inj (by omega) (by omega) year
  obtain rfl := pad_inj (by omega) (by omega) month
  obtain rfl := pad_inj (by omega) (by omega) day
  obtain rfl := pad_inj (by omega) (by omega) hour
  obtain rfl := pad_inj (by omega) (by omega) minute
  obtain rfl := pad_inj (by omega) (by omega) second
  rfl

theorem isoformat_inj {d e : DateTime} (same : d.isoformat = e.isoformat) : d = e := by
  have texts := String.ofList_injective same
  obtain ⟨date, tails⟩ := List.append_inj texts (by simp [dateText])
  have micros : d.clock.microsecond < 1000000 := d.valid.2.2.2.2.2.2
  have micros' : e.clock.microsecond < 1000000 := e.valid.2.2.2.2.2.2
  obtain ⟨micro, offsets⟩ := tail_inj micros micros' tails
  exact DateTime.ext_fields (dateText_inj d.valid e.valid micro date)
    (offsetText_inj d.bounded e.bounded offsets)

/-- The characters of an ISO text. -/
def IsoChar (c : Char) : Prop := c.isDigit = true ∨ c ∈ ['-', 'T', ':', '.', '+']

theorem isoChar_pad {width n : Nat} : ∀ c ∈ pad width n, IsoChar c := fun _ hc => .inl (pad_digits hc)

theorem isoChar_fraction (n : Nat) : ∀ c ∈ fraction n, IsoChar c := by
  rw [fraction]
  split_ifs
  · simp
  · exact List.forall_mem_cons.mpr ⟨.inr (by decide), isoChar_pad⟩

theorem isoChar_date (c : Clock) : ∀ x ∈ dateText c, IsoChar x := by
  simp only [dateText, List.forall_mem_append, List.forall_mem_cons]
  exact ⟨isoChar_pad, .inr (by decide), isoChar_pad, .inr (by decide), isoChar_pad, .inr (by decide),
    isoChar_pad, .inr (by decide), isoChar_pad, .inr (by decide), isoChar_pad⟩

theorem isoChar_seconds (s u : Nat) : ∀ c ∈ offsetSeconds s u, IsoChar c := by
  rw [offsetSeconds]
  split_ifs
  · simp
  · simp only [List.forall_mem_append, List.forall_mem_cons]
    exact ⟨.inr (by decide), isoChar_pad, isoChar_fraction u⟩

theorem isoChar_offset (o : Option Int) : ∀ c ∈ offsetText o, IsoChar c := by
  cases o with
  | none => simp [offsetText]
  | some o =>
    simp only [offsetText, List.forall_mem_append, List.forall_mem_cons]
    refine ⟨?_, isoChar_pad, .inr (by decide), isoChar_pad, isoChar_seconds _ _⟩
    split_ifs
    · exact .inr (by decide)
    · exact .inr (by decide)

theorem isoformat_chars (d : DateTime) : ∀ c ∈ d.isoformat.toList, IsoChar c := by
  rw [DateTime.isoformat, String.toList_ofList]
  simp only [List.forall_mem_append]
  exact ⟨isoChar_date _, isoChar_fraction _, isoChar_offset _⟩

end Reading

example : DateTime.isoformat ⟨⟨2024, 2, 29, 7, 5, 0, 42⟩, some (-5400000000), by decide, by
    intro o ho
    rw [← Option.mem_some.mp ho]
    decide⟩ = "2024-02-29T07:05:00.000042-01:30" := by decide

end PythonDates
