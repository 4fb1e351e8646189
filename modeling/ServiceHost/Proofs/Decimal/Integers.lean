import ServiceHost.Decimal.Integer
import ServiceHost.Json.Writer

/-!
# Integers read back from their digits

The digits of a number are decimal digits without a leading zero, and every reader of integers gives
the number back.
-/

namespace ServiceHost

theorem isDigit_of_mem_natText {n : Nat} {c : Char} (h : c ∈ natText n) : c.isDigit = true :=
  Nat.isDigit_of_mem_toDigits (by decide) (by decide) h

theorem natText_ne_nil (n : Nat) : natText n ≠ [] := Nat.toDigits_ne_nil

/-- The first digit and the others. -/
theorem natText_eq_cons (n : Nat) : ∃ d digits, natText n = d :: digits ∧ d.isDigit = true := by
  obtain ⟨d, digits, hdigits⟩ := List.exists_cons_of_ne_nil (natText_ne_nil n)
  have hmem : d ∈ natText n := hdigits ▸ List.mem_cons_self
  exact ⟨d, digits, hdigits, isDigit_of_mem_natText hmem⟩

/-- Only zero starts with the digit zero. -/
theorem head_natText_ne_zero {n : Nat} (h : 0 < n) : (natText n).head? ≠ some '0' := by
  induction n using Nat.strongRecOn with
  | ind n ih =>
      unfold natText
      by_cases hsmall : n < 10
      · rw [Nat.toDigits_of_lt_base hsmall]
        simp
        omega
      · have hfront := ih (n / 10) (by omega) (by omega)
        rw [Nat.toDigits_of_base_le (by decide) (by omega)]
        obtain ⟨d, digits, hdigits, -⟩ := natText_eq_cons (n / 10)
        rw [natText] at hdigits hfront
        rw [hdigits] at hfront ⊢
        exact hfront

theorem foldl_natText (n : Nat) :
    (natText n).foldl (fun n c => n * 10 + (c.toNat - 0x30)) 0 = n := by
  have h := @Nat.ofDigitChars_ten_toDigits n
  rw [Nat.ofDigitChars_eq_foldl] at h
  simpa [natText, Nat.mul_comm] using h

theorem parseNat?_natText (n : Nat) : parseNat? (natText n) = some n := by
  have hdigits : (natText n).all Char.isDigit = true :=
    List.all_eq_true.mpr fun c hc => isDigit_of_mem_natText hc
  have hfull : (natText n).isEmpty = false := by simp [natText_ne_nil]
  simp [parseNat?, hdigits, hfull, foldl_natText]

theorem parseInt?_natText (n : Nat) : parseInt? (natText n) = some (n : Int) := by
  obtain ⟨d, digits, htext, hdigit⟩ := natText_eq_cons n
  have hread := parseNat?_natText n
  rw [htext] at hread ⊢
  have hminus : d ≠ '-' := by
    rintro rfl
    simp at hdigit
  have hplus : d ≠ '+' := by
    rintro rfl
    simp at hdigit
  unfold parseInt?
  split
  · rename_i heq
    exact absurd (List.cons.inj heq).1 hminus
  · rename_i heq
    exact absurd (List.cons.inj heq).1 hplus
  · simp [hread]

theorem parseInt?_intText (n : Int) : parseInt? (intText n) = some n := by
  cases n with
  | ofNat n => exact parseInt?_natText n
  | negSucc n =>
      rw [intText, parseInt?, parseNat?_natText]
      rfl

/-- Digits and the minus sign are visible ASCII. -/
theorem visible_of_mem_intText {n : Int} {c : Char} (h : c ∈ intText n) :
    0x20 ≤ c.toNat ∧ c.toNat < 0x7F := by
  have hdigit : c.isDigit = true ∨ c = '-' := by
    cases n with
    | ofNat n => exact .inl (isDigit_of_mem_natText h)
    | negSucc n =>
        rcases List.mem_cons.mp h with rfl | h
        · exact .inr rfl
        · exact .inl (isDigit_of_mem_natText h)
  rcases hdigit with hdigit | rfl
  · have hbounds : 0x30 ≤ c.toNat ∧ c.toNat ≤ 0x39 := by
      simpa [Char.isDigit, UInt32.le_iff_toNat_le] using hdigit
    omega
  · decide

/-- **A number of 32 bits is read back from its digits.** -/
theorem parseInt32?_intText (n : Int32) : parseInt32? (intText n.toInt) = some n := by
  have hlow := Int32.le_toInt n
  have hhigh := Int32.toInt_lt n
  simp only [parseInt32?, parseInt?_intText, Option.bind_some]
  rw [if_pos (by omega), Int32.ofInt_toInt]

end ServiceHost
