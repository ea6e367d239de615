import KalyxMao.BlockchainIntents
import Mathlib.Data.List.TakeWhile

/-!
# Addresses as text

An address is stripped and put in lower case before it is stored, and again
wherever it is read. On hex text the second time changes nothing: `UnicodeRules`
says what `str.lower` and `str.strip` do there.
-/

namespace AddressText
open PythonText PythonConversions PurchaseVerifier PurchasePolicy BlockchainIntents

/-- The characters of a `0x` text, and the line break that `$` lets through. -/
def IsHexLine (c : Char) : Prop :=
  c.isDigit ∨ ('a' ≤ c ∧ c ≤ 'f') ∨ ('A' ≤ c ∧ c ≤ 'F') ∨ c = 'x' ∨ c = '\n'

instance (c : Char) : Decidable (IsHexLine c) := inferInstanceAs (Decidable (_ ∨ _))

/-- Case mapping and white space around hex text. -/
structure UnicodeRules (t : TextRules) : Prop where
  line_space : t.space '\n' = true
  solid : ∀ c : Char, c.isAlphanum → t.space c = false
  lower_ascii : ∀ s : String, (∀ c ∈ s.toList, c.toNat < 128) →
    t.lower s = String.ofList (s.toList.map Char.toLower)
  from_ascii : ∀ s : String, (∀ c ∈ (t.lower s).toList, IsHexLine c) → ∀ c ∈ s.toList, c.toNat < 128

section Characters
variable {c : Char}

theorem ascii_forall {P : Char → Prop} (all : ∀ n : Fin 128, P (Char.ofNat n)) (small : c.toNat < 128) :
    P c := by
  have at_c := all ⟨c.toNat, small⟩
  rwa [Char.ofNat_toNat] at at_c

theorem small_of_hexLine (hex : IsHexLine c) : c.toNat < 128 := by
  rcases hex with digit | ⟨-, high⟩ | ⟨-, high⟩ | rfl | rfl
  · have high : c.toNat ≤ 57 := (Char.isDigit_iff_toNat.mp digit).2
    omega
  · have high : c.toNat ≤ 102 := high
    omega
  · have high : c.toNat ≤ 70 := high
    omega
  · decide
  · decide

theorem small_of_alphanum (alphanum : c.isAlphanum = true) : c.toNat < 128 := by
  delta Char.isAlphanum Char.isAlpha Char.isUpper Char.isLower Char.isDigit at alphanum
  simp only [Bool.or_eq_true, Bool.and_eq_true, decide_eq_true_eq] at alphanum
  rcases alphanum with (⟨-, high⟩ | ⟨-, high⟩) | ⟨-, high⟩
  · have high : c.toNat ≤ 90 := high
    omega
  · have high : c.toNat ≤ 122 := high
    omega
  · have high : c.toNat ≤ 57 := high
    omega

theorem toLower_large (large : 128 ≤ c.toNat) : c.toLower = c := by
  unfold Char.toLower
  rw [dif_neg]
  rintro ⟨-, high⟩
  have : c.toNat ≤ 90 := high
  omega

/-- A property of characters and their lower case, checked on ASCII and for what has no other case. -/
theorem lower_forall {P : Char → Char → Prop} (all : ∀ n : Fin 128, P (Char.ofNat n) (Char.ofNat n).toLower)
    (same : ∀ c, 128 ≤ c.toNat → P c c) (c : Char) : P c c.toLower := by
  by_cases small : c.toNat < 128
  · exact ascii_forall (P := fun c => P c c.toLower) all small
  · have large := not_lt.mp small
    rw [toLower_large large]
    exact same c large

theorem toLower_toLower (c : Char) : c.toLower.toLower = c.toLower :=
  lower_forall (P := fun _ d => d.toLower = d) (by decide +kernel) (fun _ => toLower_large) c

theorem alphanum_of_toLower (c : Char) : c.toLower.isAlphanum → c.isAlphanum :=
  lower_forall (P := fun c d => d.isAlphanum → c.isAlphanum) (by decide +kernel) (fun _ _ => id) c

theorem line_of_toLower (c : Char) : c.toLower = '\n' → c = '\n' :=
  lower_forall (P := fun c d => d = '\n' → c = '\n') (by decide +kernel) (fun _ _ => id) c

theorem toLower_small (c : Char) : c.toNat < 128 → c.toLower.toNat < 128 :=
  lower_forall (P := fun c d => c.toNat < 128 → d.toNat < 128) (by decide +kernel) (fun _ _ => id) c

end Characters

section Stripping
variable {t : TextRules} {s : List Char}

theorem strip_solid (solid : ∀ c ∈ s, t.space c = false) : strip t s = s := by
  have kept (l : List Char) (solid : ∀ c ∈ l, t.space c = false) : l.dropWhile t.space = l := by
    rw [List.dropWhile_eq_self_iff]
    intro nonempty
    rw [solid _ (List.getElem_mem _)]
    exact Bool.false_ne_true
  unfold strip
  rw [kept s solid, kept s.reverse fun c mem => solid c (List.mem_reverse.mp mem), List.reverse_reverse]

theorem strip_last {c : Char} (last : (strip t s).getLast? = some c) : t.space c = false := by
  unfold strip at last
  rw [List.getLast?_reverse] at last
  have head := List.head?_dropWhile_not t.space (s.dropWhile t.space).reverse
  rw [last] at head
  exact head

end Stripping

section Addresses
variable {t : TextRules} {s e v : String}

theorem isHexText_shape {width : ℕ} (shaped : isHexText width s = true) :
    s.toList.length = width + 2 ∧ ∀ c ∈ s.toList, c.isAlphanum ∧ IsHexLine c := by
  unfold isHexText at shaped
  obtain ⟨⟨start, length⟩, digits⟩ := by simpa only [Bool.and_eq_true, decide_eq_true_eq] using shaped
  refine ⟨length, fun c mem => ?_⟩
  rw [← List.take_append_drop 2 s.toList, start, List.mem_append] at mem
  rcases mem with mem | mem
  · have two : ∀ c ∈ ['0', 'x'], c.isAlphanum ∧ IsHexLine c := by decide
    exact two c mem
  · have digit := List.all_eq_true.mp digits c mem
    have hex : IsHexLine c := by
      simp only [Bool.or_eq_true, Bool.and_eq_true, decide_eq_true_eq] at digit
      rcases digit with (digit | small) | capital
      · exact .inl digit
      · exact .inr (.inl small)
      · exact .inr (.inr (.inl capital))
    exact ⟨ascii_forall (P := fun c => (c.isDigit || ('a' ≤ c && c ≤ 'f') || ('A' ≤ c && c ≤ 'F')) = true →
      c.isAlphanum) (by decide +kernel) (small_of_hexLine hex) digit, hex⟩

theorem matchesAddress_hexLine (shaped : matchesAddress s = true) : ∀ c ∈ s.toList, IsHexLine c := by
  unfold matchesAddress at shaped
  rcases Bool.or_eq_true _ _ ▸ shaped with shaped | shaped
  · exact fun c mem => ((isHexText_shape shaped).2 c mem).2
  · obtain ⟨last, rest⟩ := by simpa only [Bool.and_eq_true, decide_eq_true_eq] using shaped
    intro c mem
    rw [← List.dropLast_append_getLast? '\n' last, List.mem_append] at mem
    rcases mem with mem | mem
    · rw [← String.toList_ofList (l := s.toList.dropLast)] at mem
      exact ((isHexText_shape rest).2 c mem).2
    · rw [List.mem_singleton.mp mem]
      decide

theorem lower_eq (u : UnicodeRules t) (hex : ∀ c ∈ (t.lower s).toList, IsHexLine c) :
    t.lower s = String.ofList (s.toList.map Char.toLower) :=
  u.lower_ascii s (u.from_ascii s hex)

/-- An address as the validators leave it: it is read again as it is. -/
structure LowerAddress (t : TextRules) (e : String) : Prop where
  address : isHexText 40 e = true
  lowered : t.lower e = e
  stripped : String.ofList (strip t e.toList) = e

/-- What is stripped and put in lower case and then matches, matches to its end. -/
theorem lowerAddress_of_match (u : UnicodeRules t)
    (shaped : matchesAddress (t.lower (String.ofList (strip t v.toList))) = true) :
    LowerAddress t (t.lower (String.ofList (strip t v.toList))) := by
  have small := u.from_ascii _ (matchesAddress_hexLine shaped)
  have same := u.lower_ascii _ small
  rw [String.toList_ofList] at same small
  have address : isHexText 40 (t.lower (String.ofList (strip t v.toList))) = true := by
    unfold matchesAddress at shaped
    refine (Bool.or_eq_true _ _ ▸ shaped).resolve_right fun shaped => ?_
    obtain ⟨last, -⟩ := by simpa only [Bool.and_eq_true, decide_eq_true_eq] using shaped
    rw [same, String.toList_ofList, List.getLast?_map] at last
    obtain ⟨c, ends, line⟩ := Option.map_eq_some_iff.mp last
    have solid := strip_last ends
    rw [line_of_toLower c line, u.line_space] at solid
    cases solid
  have hex := (isHexText_shape address).2
  refine ⟨address, ?_, ?_⟩
  · have lowered : ∀ c ∈ ((strip t v.toList).map Char.toLower), c.toNat < 128 := by
      intro c mem
      obtain ⟨d, there, rfl⟩ := List.mem_map.mp mem
      exact toLower_small d (small d there)
    rw [same, u.lower_ascii _ (by rwa [String.toList_ofList]), String.toList_ofList, List.map_map]
    exact congrArg String.ofList (List.map_congr_left fun c _ => toLower_toLower c)
  · rw [strip_solid fun c mem => u.solid c (hex c mem).1, String.ofList_toList]

/-- An address in lower case is one that is read again as it is. -/
theorem lowerAddress_of_text (u : UnicodeRules t) (address : isHexText 40 e = true)
    (lowered : e.toList.map Char.toLower = e.toList) : LowerAddress t e := by
  have hex := (isHexText_shape address).2
  refine ⟨address, ?_, ?_⟩
  · rw [u.lower_ascii e fun c mem => small_of_hexLine (hex c mem).2, lowered, String.ofList_toList]
  · rw [strip_solid fun c mem => u.solid c (hex c mem).1, String.ofList_toList]

theorem LowerAddress.matches (e_ : LowerAddress t e) : matchesAddress e = true := by
  unfold matchesAddress
  rw [e_.address, Bool.true_or]

/-- A stored address passes the validator of a transaction unchanged. -/
theorem LowerAddress.validated (e_ : LowerAddress t e) (what : String) : validateAddress t what e = .ok e := by
  unfold validateAddress
  dsimp only
  rw [e_.stripped, if_pos e_.matches, e_.lowered]

theorem LowerAddress.token (e_ : LowerAddress t e) : validateTokenContract t (some e) = .ok (some e) := by
  unfold validateTokenContract
  dsimp only
  rw [e_.validated]
  rfl

/-- A text whose lower case is a stored address has no white space around it. -/
theorem LowerAddress.recipient (e_ : LowerAddress t e) (u : UnicodeRules t) (same : t.lower s = e) :
    String.ofList (strip t s.toList) = s := by
  have hex := (isHexText_shape (same ▸ e_.address)).2
  have lowered := lower_eq u fun c mem => (hex c mem).2
  rw [lowered, String.toList_ofList] at hex
  have solid (c : Char) (mem : c ∈ s.toList) : t.space c = false :=
    u.solid c (alphanum_of_toLower c (hex _ (List.mem_map_of_mem mem)).1)
  rw [strip_solid solid, String.ofList_toList]

end Addresses

/-- The rules on ASCII text are such rules. -/
theorem unicodeRules_ascii (reprFloat : PythonValues.PyFloat → String) :
    UnicodeRules (asciiRules reprFloat) where
  line_space := rfl
  solid c alphanum :=
    ascii_forall (P := fun c => c.isAlphanum → (c = ' ' || (9 ≤ c.toNat && c.toNat ≤ 13) ||
      (28 ≤ c.toNat && c.toNat ≤ 31)) = false) (by decide +kernel) (small_of_alphanum alphanum) alphanum
  lower_ascii s _ := by
    rw [← String.toList_map, String.ofList_toList]
    rfl
  from_ascii s hex c mem := by
    have lowered := small_of_hexLine (hex c.toLower (by
      show c.toLower ∈ (s.map Char.toLower).toList
      rw [String.toList_map]
      exact List.mem_map_of_mem mem))
    by_contra large
    rw [toLower_large (not_lt.mp large)] at lowered
    exact large lowered

end AddressText
