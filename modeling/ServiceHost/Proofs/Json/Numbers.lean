import Mathlib.Data.List.TakeDrop
import Mathlib.Data.List.TakeWhile
import ServiceHost.Json.Reader
import ServiceHost.Proofs.Decimal.Integers

/-!
# Numbers read back from their texts

A number that is read off its own text is read off the front of every longer text that does not go on
as a number (`takeScalar_append`).  The integers of 64 bits are read off theirs (`readsBack_int`),
and every integer that is read is one of them (`fits_of_takeNumber`).  A double need not be: its
digits may take more than 64 bits, and reading rounds twice.
-/

namespace ServiceHost

/-- The number that the text of a number is read as. -/
def Number.reread? (n : Number) : Option Number :=
  match Json.takeScalar n.text with
  | some (.number m, []) => some m
  | _ => none

/-- Whether a number is the one that its own text is read as. -/
def Number.ReadsBack (n : Number) : Prop :=
  n.reread? = some n

instance (n : Number) : Decidable n.ReadsBack :=
  inferInstanceAs (Decidable (_ = _))

theorem Number.readsBack_iff {n : Number} :
    n.ReadsBack ↔ Json.takeScalar n.text = some (.number n, []) := by
  unfold ReadsBack reread?
  split
  · rename_i m hread
    simp [hread]
  · rename_i hother
    constructor
    · intro h
      cases h
    · intro h
      exact absurd h (hother n)

/-- Whether a number, if it is an integer, fits 64 bits with or without a sign. -/
def Number.Fits : Number → Prop
  | .int n => -0x8000000000000000 ≤ n ∧ n < 0x10000000000000000
  | .double _ => True

namespace Json

/-- Whether no number goes on with a text. -/
def EndsNumber (rest : Rest) : Prop :=
  ∀ c tail, rest = c :: tail → c.isDigit = false ∧ c ≠ '.' ∧ c ≠ 'e' ∧ c ≠ 'E'

theorem endsNumber_nil : EndsNumber [] := by
  intro c tail h
  cases h

theorem endsNumber_cons {c : Char} {tail : Rest}
    (h : c.isDigit = false ∧ c ≠ '.' ∧ c ≠ 'e' ∧ c ≠ 'E') : EndsNumber (c :: tail) := by
  intro d other heq
  cases heq
  exact h

/-! ## What stands behind a number -/

section Append

variable {text rest : Rest} (hend : EndsNumber rest)

include hend

theorem takeWhile_append_end (text : List Char) :
    (text ++ rest).takeWhile Char.isDigit = text.takeWhile Char.isDigit := by
  induction text with
  | nil =>
      cases rest with
      | nil => rfl
      | cons c tail => simp [(hend c tail rfl).1]
  | cons c text ih => simp only [List.cons_append, List.takeWhile_cons, ih]

theorem dropWhile_append_end (text : List Char) :
    (text ++ rest).dropWhile Char.isDigit = text.dropWhile Char.isDigit ++ rest := by
  induction text with
  | nil =>
      cases rest with
      | nil => rfl
      | cons c tail => simp [(hend c tail rfl).1]
  | cons c text ih =>
      simp only [List.cons_append, List.dropWhile_cons, ih]
      split <;> rfl

omit hend in
theorem takeSign_append (hne : text ≠ []) (rest : Rest) :
    takeSign (text ++ rest) = ((takeSign text).1, (takeSign text).2 ++ rest) := by
  obtain ⟨c, text, rfl⟩ := List.exists_cons_of_ne_nil hne
  by_cases hplus : c = '+'
  · subst hplus
    rfl
  by_cases hminus : c = '-'
  · subst hminus
    rfl
  have hplain : ∀ tail, takeSign (c :: tail) = (false, c :: tail) := by
    intro tail
    unfold takeSign
    split <;> simp_all
  rw [List.cons_append, hplain, hplain]
  rfl

theorem takeExponent_append {n : Int} (h : takeExponent text = some (n, [])) :
    takeExponent (text ++ rest) = some (n, rest) := by
  have hne : text ≠ [] := by
    rintro rfl
    simp [takeExponent, takeSign] at h
  simp only [takeExponent, takeSign_append hne, List.span_eq_takeWhile_dropWhile,
    takeWhile_append_end hend, dropWhile_append_end hend] at h ⊢
  split at h
  · cases h
  · rename_i hdigits
    obtain ⟨rfl, hleft⟩ := Prod.mk.inj (Option.some.inj h)
    rw [if_neg hdigits, hleft, List.nil_append]

theorem finish_end (negative : Bool) (digits : Nat) (power : Int) :
    finish negative digits power rest = (double? negative digits power).map (·, rest) := by
  unfold finish
  split
  · exact absurd rfl (hend _ _ rfl).2.2.1
  · exact absurd rfl (hend _ _ rfl).2.2.2
  · rfl

theorem finish_append {negative : Bool} {digits : Nat} {power : Int} {n : Number}
    (h : finish negative digits power text = some (n, [])) :
    finish negative digits power (text ++ rest) = some (n, rest) := by
  have hexponent : ∀ tail, ((takeExponent tail).bind fun read =>
      (double? negative digits (power + read.1)).map (·, read.2)) = some (n, []) →
      ((takeExponent (tail ++ rest)).bind fun read =>
      (double? negative digits (power + read.1)).map (·, read.2)) = some (n, rest) := by
    intro tail h
    obtain ⟨⟨exponent, left⟩, hread, hdouble⟩ := Option.bind_eq_some_iff.mp h
    obtain ⟨d, hd, heq⟩ := Option.map_eq_some_iff.mp hdouble
    obtain ⟨rfl, rfl⟩ := Prod.mk.inj heq
    simp [takeExponent_append hend hread, hd]
  unfold finish at h
  split at h
  · exact hexponent _ h
  · exact hexponent _ h
  · obtain ⟨d, hd, heq⟩ := Option.map_eq_some_iff.mp h
    obtain ⟨rfl, rfl⟩ := Prod.mk.inj heq
    rw [List.nil_append, finish_end hend, hd]
    rfl

theorem takeNumber_append {negative : Bool} {n : Number}
    (h : takeNumber negative text = some (n, [])) :
    takeNumber negative (text ++ rest) = some (n, rest) := by
  simp only [takeNumber, List.span_eq_takeWhile_dropWhile, takeWhile_append_end hend,
    dropWhile_append_end hend] at h ⊢
  split at h
  · cases h
  rename_i hwhole
  rw [if_neg hwhole]
  generalize text.dropWhile Char.isDigit = behind at h ⊢
  split at h
  · rename_i fraction
    simp only [List.cons_append, takeWhile_append_end hend, dropWhile_append_end hend]
    split at h
    · cases h
    · rename_i hfraction
      rw [if_neg hfraction]
      exact finish_append hend h
  · exact finish_append hend h
  · exact finish_append hend h
  -- the whole text was digits, so what stands behind it must not start a fraction or an exponent
  · obtain ⟨d, hd, heq⟩ := Option.map_eq_some_iff.mp h
    obtain ⟨rfl, rfl⟩ := Prod.mk.inj heq
    rw [List.nil_append]
    split
    · exact absurd rfl (hend _ _ rfl).2.1
    · exact absurd rfl (hend _ _ rfl).2.2.1
    · exact absurd rfl (hend _ _ rfl).2.2.2
    · rw [hd]
      rfl

end Append

/-! ## Reading a number off its text -/

theorem takeScalar_of_digit {d : Char} (hd : d.isDigit = true) (text : Rest) :
    takeScalar (d :: text) =
      (takeNumber false (d :: text)).map fun read => (number read.1, read.2) := by
  unfold takeScalar
  split
  all_goals first
    | rfl
    | (rename_i heq
       obtain ⟨rfl, -⟩ := List.cons.inj heq
       simp at hd)

theorem takeScalar_minus (text : Rest) :
    takeScalar ('-' :: text) = (takeNumber true text).map fun read => (number read.1, read.2) := rfl

theorem takeScalar_quote (text : Rest) :
    takeScalar ('"' :: text) = (takeString [] text).map fun read => (string read.1, read.2) := rfl

/-- What a value without parts can be, and how a number was read. -/
theorem takeScalar_cases {text left : Rest} {value : Json}
    (h : takeScalar text = some (value, left)) :
    value = null ∨ (∃ b, value = bool b) ∨ (∃ s, value = string s) ∨
      ∃ n, value = number n ∧ (takeNumber false text = some (n, left) ∨
        ∃ digits, text = '-' :: digits ∧ takeNumber true digits = some (n, left)) := by
  have hnumber : ∀ {negative input},
      ((takeNumber negative input).map fun read => (number read.1, read.2)) = some (value, left) →
        ∃ n, value = number n ∧ takeNumber negative input = some (n, left) := by
    intro negative input h
    obtain ⟨⟨n, rest⟩, hread, heq⟩ := Option.map_eq_some_iff.mp h
    obtain ⟨rfl, rfl⟩ := Prod.mk.inj heq
    exact ⟨n, rfl, hread⟩
  unfold takeScalar at h
  split at h
  · cases h
    exact .inl rfl
  · cases h
    exact .inr (.inl ⟨true, rfl⟩)
  · cases h
    exact .inr (.inl ⟨false, rfl⟩)
  · obtain ⟨⟨text, rest⟩, -, heq⟩ := Option.map_eq_some_iff.mp h
    cases heq
    exact .inr (.inr (.inl ⟨text, rfl⟩))
  · obtain ⟨n, rfl, hread⟩ := hnumber h
    exact .inr (.inr (.inr ⟨n, rfl, .inr ⟨_, rfl, hread⟩⟩))
  · obtain ⟨n, rfl, hread⟩ := hnumber h
    exact .inr (.inr (.inr ⟨n, rfl, .inl hread⟩))

/-- What is read as a number starts with a digit, or with a minus sign. -/
theorem takeScalar_number {text left : Rest} {n : Number}
    (h : takeScalar text = some (number n, left)) :
    (∃ d digits, text = d :: digits ∧ d.isDigit = true ∧ takeNumber false text = some (n, left)) ∨
      ∃ digits, text = '-' :: digits ∧ takeNumber true digits = some (n, left) := by
  rcases takeScalar_cases h with hnull | ⟨b, hbool⟩ | ⟨s, hstring⟩ | ⟨m, hm, hread⟩
  · cases hnull
  · cases hbool
  · cases hstring
  cases hm
  refine hread.imp_left fun hread => ?_
  cases text with
  | nil => simp [takeNumber] at hread
  | cons d digits =>
      refine ⟨d, digits, rfl, ?_, hread⟩
      cases hd : d.isDigit with
      | true => rfl
      | false => simp [takeNumber, hd] at hread

/-- **A number is taken off the front.** -/
theorem takeScalar_append {text rest : Rest} {n : Number} (hend : EndsNumber rest)
    (h : takeScalar text = some (number n, [])) :
    takeScalar (text ++ rest) = some (number n, rest) := by
  rcases takeScalar_number h with ⟨d, digits, rfl, hd, hread⟩ | ⟨digits, rfl, hread⟩
  · rw [List.cons_append, takeScalar_of_digit hd, ← List.cons_append, takeNumber_append hend hread]
    rfl
  · simp [takeScalar_minus, takeNumber_append hend hread]

/-! ## Integers -/

theorem absorb_of_fits {digits : List Char} {n : Nat}
    (h : digits.foldl (fun n c => n * 10 + digitValue c) n ≤ maxDigits) :
    absorb n digits = (digits.foldl (fun n c => n * 10 + digitValue c) n, []) := by
  induction digits generalizing n with
  | nil => rfl
  | cons c digits ih =>
      have hgrows : ∀ (m : Nat) (digits : List Char),
          m ≤ digits.foldl (fun n c => n * 10 + digitValue c) m := by
        intro m digits
        induction digits generalizing m with
        | nil => exact Nat.le_refl m
        | cons c digits ih =>
            have := ih (m * 10 + digitValue c)
            rw [List.foldl_cons]
            omega
      have hstep := hgrows (n * 10 + digitValue c) digits
      rw [List.foldl_cons] at h ⊢
      rw [absorb, if_pos (by omega), ih h]

theorem absorb_le {digits : List Char} {n : Nat} (h : n ≤ maxDigits) :
    (absorb n digits).1 ≤ maxDigits := by
  induction digits generalizing n with
  | nil => exact h
  | cons c digits ih =>
      rw [absorb]
      split
      · rename_i hfits
        exact ih hfits
      · exact h

theorem takeNumber_natText (negative : Bool) {n : Nat} (h : n ≤ maxDigits) :
    takeNumber negative (natText n) = (wholeNumber? negative n 0).map (·, []) := by
  have hdigits : ∀ c ∈ natText n, c.isDigit = true := fun c hc => isDigit_of_mem_natText hc
  have hwhole : ¬ ((natText n).isEmpty = true ∨
      1 < (natText n).length ∧ (natText n).head? = some '0') := by
    rintro (hempty | ⟨hlong, hzero⟩)
    · simp [natText_ne_nil] at hempty
    · have hpos : 0 < n := by
        refine Nat.pos_of_ne_zero fun hn => ?_
        subst hn
        simp [natText] at hlong
      exact head_natText_ne_zero hpos hzero
  have hfold := foldl_natText n
  have habsorb : absorb 0 (natText n) = (n, []) := by
    rw [absorb_of_fits] <;> unfold digitValue <;> rw [hfold]
    exact h
  simp only [takeNumber, List.span_eq_takeWhile_dropWhile, List.takeWhile_eq_self_iff.mpr hdigits,
    List.dropWhile_eq_nil_iff.mpr hdigits]
  rw [if_neg hwhole, habsorb]
  rfl

/-- **The integers of 64 bits are read back.** -/
theorem readsBack_int {n : Int} (h : (Number.int n).Fits) : (Number.int n).ReadsBack := by
  rw [Number.readsBack_iff]
  cases n with
  | ofNat n =>
      have hhigh : n ≤ maxDigits := by
        have hn : (n : Int) < 0x10000000000000000 := h.2
        unfold maxDigits
        omega
      obtain ⟨d, digits, htext, hd⟩ := natText_eq_cons n
      have hread := takeNumber_natText false hhigh
      rw [Number.text, intText, htext, takeScalar_of_digit hd, ← htext, hread]
      rfl
  | negSucc n =>
      have hlow : n + 1 ≤ 0x8000000000000000 := by
        have := h.1
        omega
      have hread := takeNumber_natText true (show n + 1 ≤ maxDigits by unfold maxDigits; omega)
      have hnumber : wholeNumber? true (n + 1) 0 = some (.int (Int.negSucc n)) := by
        rw [wholeNumber?, if_pos rfl, if_neg (by decide), if_pos ⟨by omega, hlow⟩]
        rfl
      rw [Number.text, intText, takeScalar_minus, hread, hnumber]
      rfl

/-! ## What is read fits -/

theorem fits_of_double? {negative : Bool} {digits : Nat} {power : Int} {n : Number}
    (h : double? negative digits power = some n) : n.Fits := by
  obtain ⟨f, -, h⟩ := Option.bind_eq_some_iff.mp h
  obtain ⟨magnitude, -, rfl⟩ := Option.map_eq_some_iff.mp h
  trivial

theorem fits_of_finish {negative : Bool} {digits : Nat} {power : Int} {text left : Rest}
    {n : Number} (h : finish negative digits power text = some (n, left)) : n.Fits := by
  have hplain : ∀ {power rest}, (double? negative digits power).map (·, rest) = some (n, left) →
      n.Fits := by
    intro power rest h
    obtain ⟨d, hd, heq⟩ := Option.map_eq_some_iff.mp h
    cases heq
    exact fits_of_double? hd
  unfold finish at h
  split at h
  · obtain ⟨exponent, -, h⟩ := Option.bind_eq_some_iff.mp h
    exact hplain h
  · obtain ⟨exponent, -, h⟩ := Option.bind_eq_some_iff.mp h
    exact hplain h
  · exact hplain h

theorem fits_of_wholeNumber? {negative : Bool} {digits excess : Nat} {n : Number}
    (hdigits : digits ≤ maxDigits) (h : wholeNumber? negative digits excess = some n) : n.Fits := by
  unfold maxDigits at hdigits
  unfold wholeNumber? at h
  split at h
  · split at h
    · cases h
      exact ⟨by omega, by omega⟩
    · split at h
      · rename_i hlow
        cases h
        exact ⟨by omega, by omega⟩
      · exact fits_of_double? h
  · exact fits_of_double? h

/-- **A number that is read fits.** -/
theorem fits_of_takeNumber {negative : Bool} {text left : Rest} {n : Number}
    (h : takeNumber negative text = some (n, left)) : n.Fits := by
  simp only [takeNumber, List.span_eq_takeWhile_dropWhile] at h
  split at h
  · cases h
  split at h
  · split at h
    · cases h
    · exact fits_of_finish h
  · exact fits_of_finish h
  · exact fits_of_finish h
  · obtain ⟨d, hd, heq⟩ := Option.map_eq_some_iff.mp h
    cases heq
    exact fits_of_wholeNumber? (absorb_le (Nat.zero_le _)) hd

end Json

end ServiceHost
