import Mathlib.Data.List.TakeWhile
import ServiceHost.Proofs.Decimal.Integers
import ServiceHost.Proofs.Decimal.Shortest

/-!
# Different numbers have different texts

The text of a decimal, with or without an exponent, has the decimal's value (`textValue_text`), and a
positive double is told by the value of its shortest decimal.  A double always has a point or an exponent,
an integer never.  So a number is told by its text (`Number.text_injective`), which is made of a few
characters only (`Number.isNumberChar_of_mem_text`).
-/

namespace ServiceHost

/-! ## The value of a text -/

/-- The number that digits stand for. -/
def digitsValue (digits : List Char) : Nat :=
  digits.foldl (fun n c => n * 10 + (c.toNat - 0x30)) 0

/-- The value of a decimal text: its digits around the point, and its exponent. -/
def textValue (text : List Char) : ℚ :=
  let mantissa := text.takeWhile (· != 'e')
  let whole := mantissa.takeWhile (· != '.')
  let fraction := (mantissa.dropWhile (· != '.')).drop 1
  let exponent := (parseInt? ((text.dropWhile (· != 'e')).drop 1)).getD 0
  digitsValue (whole ++ fraction) * 10 ^ (exponent - fraction.length)

theorem digitsValue_natText (n : Nat) : digitsValue (natText n) = n := foldl_natText n

theorem digitsValue_zeros_append (k : Nat) (digits : List Char) :
    digitsValue (List.replicate k '0' ++ digits) = digitsValue digits := by
  induction k with
  | zero => rfl
  | succ k ih => exact ih

theorem digitsValue_append_zeros (digits : List Char) (k : Nat) :
    digitsValue (digits ++ List.replicate k '0') = digitsValue digits * 10 ^ k := by
  induction k with
  | zero => simp
  | succ k ih =>
      rw [List.replicate_succ', ← List.append_assoc, digitsValue, List.foldl_append,
        ← digitsValue, ih, pow_succ, ← Nat.mul_assoc]
      rfl

theorem isDigit_zero_of_mem {k : Nat} {c : Char} (h : c ∈ List.replicate k '0') :
    c.isDigit = true := by
  rw [List.eq_of_mem_replicate h]
  rfl

theorem ne_of_isDigit {c other : Char} (hother : other.isDigit = false) (h : c.isDigit = true) :
    c ≠ other := by
  intro heq
  rw [heq, hother] at h
  cases h

/-- The parts of a text are read off it. -/
theorem textValue_eq {whole fraction point tail : List Char} {n : Int}
    (hwhole : ∀ c ∈ whole, c.isDigit = true) (hfraction : ∀ c ∈ fraction, c.isDigit = true)
    (hpoint : point = '.' :: fraction ∨ point = [] ∧ fraction = [])
    (htail : tail = [] ∧ n = 0 ∨ ∃ text, tail = 'e' :: text ∧ parseInt? text = some n) :
    textValue (whole ++ point ++ tail) =
      digitsValue (whole ++ fraction) * 10 ^ (n - fraction.length) := by
  have hplain : ∀ c ∈ whole ++ point, (c != 'e') = true := by
    intro c hc
    rw [bne_iff_ne]
    rcases List.mem_append.mp hc with hc | hc
    · exact ne_of_isDigit rfl (hwhole c hc)
    · rcases hpoint with rfl | ⟨rfl, -⟩
      · rcases List.mem_cons.mp hc with rfl | hc
        · decide
        · exact ne_of_isDigit rfl (hfraction c hc)
      · cases hc
  have hfront : ∀ c ∈ whole, (c != '.') = true := by
    intro c hc
    rw [bne_iff_ne]
    exact ne_of_isDigit rfl (hwhole c hc)
  have hmantissa : (whole ++ point ++ tail).takeWhile (· != 'e') = whole ++ point := by
    rw [List.takeWhile_append_of_pos hplain]
    rcases htail with ⟨rfl, -⟩ | ⟨text, rfl, -⟩ <;> simp
  have hexponent : (parseInt? (((whole ++ point ++ tail).dropWhile (· != 'e')).drop 1)).getD 0 =
      n := by
    rw [List.dropWhile_append_of_pos hplain]
    rcases htail with ⟨rfl, rfl⟩ | ⟨text, rfl, hread⟩
    · rfl
    · simp [hread]
  have hsplit : (whole ++ point).takeWhile (· != '.') = whole ∧
      ((whole ++ point).dropWhile (· != '.')).drop 1 = fraction := by
    rw [List.takeWhile_append_of_pos hfront, List.dropWhile_append_of_pos hfront]
    rcases hpoint with rfl | ⟨rfl, rfl⟩ <;> simp
  simp only [textValue, hmantissa, hexponent, hsplit.1, hsplit.2]

theorem parseInt?_signed (n : Int) :
    parseInt? ((if n < 0 then '-' else '+') :: natText n.natAbs) = some n := by
  split
  · rw [parseInt?, parseNat?_natText]
    have hminus : -(n.natAbs : Int) = n := by omega
    exact congrArg some hminus
  · rw [parseInt?, parseNat?_natText]
    have hplus : (n.natAbs : Int) = n := by omega
    exact congrArg some hplus

/-- Whether a character may stand in the text of a number. -/
def Number.isNumberChar (c : Char) : Bool :=
  c.isDigit || c == '.' || c == 'e' || c == '-' || c == '+'

namespace Decimal

/-- How a decimal is written: digits, a point and more digits, and an exponent, where one of the latter
two may be missing. -/
theorem text_cases (d : Decimal) :
    ∃ whole fraction point tail n, d.text = whole ++ point ++ tail ∧ whole ≠ [] ∧
      (∀ c ∈ whole, c.isDigit = true) ∧ (∀ c ∈ fraction, c.isDigit = true) ∧
      (point = '.' :: fraction ∨ point = [] ∧ fraction = []) ∧
      (tail = [] ∧ n = 0 ∨
        ∃ sign k, tail = 'e' :: sign :: natText k ∧ (sign = '-' ∨ sign = '+') ∧
          parseInt? (sign :: natText k) = some n) ∧
      (point ≠ [] ∨ tail ≠ []) ∧
      (digitsValue (whole ++ fraction) : ℚ) * 10 ^ (n - fraction.length) = d.value := by
  have hdigits : ∀ c ∈ natText d.digits, c.isDigit = true := fun c => isDigit_of_mem_natText
  have hpos : 0 < (natText d.digits).length := List.length_pos_iff.mpr (natText_ne_nil _)
  have hten : (10 : ℚ) ≠ 0 := by norm_num
  unfold text
  simp only []
  split
  · rename_i hwhole
    obtain ⟨k, hk⟩ := Int.eq_ofNat_of_zero_le hwhole.1
    refine ⟨natText d.digits ++ List.replicate d.power.toNat '0', ['0'], ['.', '0'], [], 0, by simp,
      by simp [natText_ne_nil], ?_, by simp, Or.inl rfl, Or.inl ⟨rfl, rfl⟩, by simp, ?_⟩
    · intro c hc
      exact (List.mem_append.mp hc).elim (hdigits c) isDigit_zero_of_mem
    · have hlast : natText d.digits ++ List.replicate d.power.toNat '0' ++ ['0'] =
          natText d.digits ++ List.replicate (d.power.toNat + 1) '0' := by
        rw [List.replicate_succ', List.append_assoc]
      rw [hlast, digitsValue_append_zeros, digitsValue_natText, value, hk]
      push_cast
      rw [Int.toNat_natCast, pow_succ, zpow_natCast]
      norm_num
      ring
  split
  · rename_i hnot hinside
    have hpoint : (natText d.digits).length + d.power =
        (((natText d.digits).length + d.power).toNat : ℕ) := by omega
    generalize ((natText d.digits).length + d.power).toNat = k at hpoint
    have hk : k ≤ (natText d.digits).length := by omega
    refine ⟨(natText d.digits).take k, (natText d.digits).drop k,
      '.' :: (natText d.digits).drop k, [], 0, by simp, ?_, ?_, ?_, Or.inl rfl, Or.inl ⟨rfl, rfl⟩,
      by simp, ?_⟩
    · rw [← List.length_pos_iff, List.length_take]
      omega
    · exact fun c hc => hdigits c (List.mem_of_mem_take hc)
    · exact fun c hc => hdigits c (List.mem_of_mem_drop hc)
    · rw [List.take_append_drop, digitsValue_natText, value, List.length_drop]
      congr 2
      omega
  split
  · rename_i _ _ hbelow
    have hpoint : -((natText d.digits).length + d.power) =
        ((-((natText d.digits).length + d.power)).toNat : ℕ) := by omega
    generalize (-((natText d.digits).length + d.power)).toNat = k at hpoint
    refine ⟨['0'], List.replicate k '0' ++ natText d.digits,
      '.' :: (List.replicate k '0' ++ natText d.digits), [], 0, by simp, by simp, by simp, ?_,
      Or.inl rfl, Or.inl ⟨rfl, rfl⟩, by simp, ?_⟩
    · intro c hc
      exact (List.mem_append.mp hc).elim isDigit_zero_of_mem (hdigits c)
    · have hzeros : ['0'] ++ (List.replicate k '0' ++ natText d.digits) =
          List.replicate (k + 1) '0' ++ natText d.digits := rfl
      rw [hzeros, digitsValue_zeros_append, digitsValue_natText, value, List.length_append,
        List.length_replicate]
      congr 2
      omega
  · have hexponent := parseInt?_signed ((natText d.digits).length + d.power - 1)
    refine ⟨(natText d.digits).take 1, (natText d.digits).drop 1,
      if (natText d.digits).length = 1 then [] else '.' :: (natText d.digits).drop 1,
      _, _, rfl, ?_, ?_, ?_, ?_, Or.inr ⟨_, _, rfl, ?_, hexponent⟩, by simp, ?_⟩
    · rw [← List.length_pos_iff, List.length_take]
      omega
    · exact fun c hc => hdigits c (List.mem_of_mem_take hc)
    · exact fun c hc => hdigits c (List.mem_of_mem_drop hc)
    · split
      · rename_i hone
        exact Or.inr ⟨rfl, List.drop_eq_nil_of_le (by omega)⟩
      · exact Or.inl rfl
    · split
      · exact Or.inl rfl
      · exact Or.inr rfl
    · rw [List.take_append_drop, digitsValue_natText, value, List.length_drop]
      congr 2
      omega

/-- **The text of a decimal has its value.** -/
theorem textValue_text (d : Decimal) : textValue d.text = d.value := by
  obtain ⟨whole, fraction, point, tail, n, htext, -, hwhole, hfraction, hpoint, htail, -, hvalue⟩ :=
    d.text_cases
  rw [htext, ← hvalue]
  apply textValue_eq hwhole hfraction hpoint
  rcases htail with hnone | ⟨sign, k, rfl, -, hread⟩
  · exact Or.inl hnone
  · exact Or.inr ⟨_, rfl, hread⟩

/-- Digits, a point, a minus or plus sign and the exponent's letter. -/
theorem isNumberChar_of_mem_text {d : Decimal} {c : Char} (h : c ∈ d.text) :
    Number.isNumberChar c = true := by
  obtain ⟨whole, fraction, point, tail, n, htext, -, hwhole, hfraction, hpoint, htail, -, -⟩ :=
    d.text_cases
  have hdigit : c.isDigit = true → Number.isNumberChar c = true := by
    intro hc
    simp [Number.isNumberChar, hc]
  rw [htext, List.mem_append, List.mem_append] at h
  obtain (hc | hc) | hc := h
  · exact hdigit (hwhole c hc)
  · obtain rfl | ⟨rfl, -⟩ := hpoint
    · obtain rfl | hc := List.mem_cons.mp hc
      · rfl
      · exact hdigit (hfraction c hc)
    · cases hc
  · obtain ⟨rfl, -⟩ | ⟨sign, k, rfl, hsign, -⟩ := htail
    · cases hc
    · obtain rfl | hc := List.mem_cons.mp hc
      · rfl
      · obtain rfl | hc := List.mem_cons.mp hc
        · obtain rfl | rfl := hsign <;> rfl
        · exact hdigit (isDigit_of_mem_natText hc)

/-- The text of a decimal starts with a digit. -/
theorem text_eq_cons (d : Decimal) : ∃ c rest, d.text = c :: rest ∧ c.isDigit = true := by
  obtain ⟨whole, fraction, point, tail, n, htext, hne, hwhole, -⟩ := d.text_cases
  obtain ⟨c, rest, rfl⟩ := List.exists_cons_of_ne_nil hne
  exact ⟨c, rest ++ point ++ tail, by simp [htext], hwhole c List.mem_cons_self⟩

/-- The text of a decimal has a point or an exponent. -/
theorem exists_mark (d : Decimal) : ∃ c ∈ d.text, c = '.' ∨ c = 'e' := by
  obtain ⟨whole, fraction, point, tail, n, htext, -, -, -, hpoint, htail, hmark, -⟩ := d.text_cases
  rw [htext]
  cases hmark with
  | inl hne =>
      refine ⟨'.', ?_, Or.inl rfl⟩
      obtain rfl | ⟨rfl, -⟩ := hpoint
      · simp
      · exact absurd rfl hne
  | inr hne =>
      refine ⟨'e', ?_, Or.inr rfl⟩
      obtain ⟨rfl, -⟩ | ⟨sign, k, rfl, -, -⟩ := htail
      · exact absurd rfl hne
      · simp

end Decimal

/-! ## Numbers -/

/-- The text of a magnitude. -/
def Magnitude.text (m : Magnitude) : List Char :=
  if m.isZero then ['0', '.', '0'] else m.shortest.text

theorem Double.text_eq (d : Double) :
    d.text = if d.negative then '-' :: d.magnitude.text else d.magnitude.text := rfl

namespace Magnitude

/-- The text of a magnitude is that of a decimal. -/
theorem exists_text_eq (m : Magnitude) : ∃ d : Decimal, m.text = d.text := by
  unfold text
  split
  · exact ⟨⟨0, 0⟩, rfl⟩
  · exact ⟨_, rfl⟩

/-- **Different magnitudes have different texts.** -/
theorem text_injective {m n : Magnitude} (hm : m.IsProper) (hn : n.IsProper)
    (h : m.text = n.text) : m = n := by
  have hvalue := congrArg textValue h
  have hzero : ∀ m : Magnitude, m.isZero = true → textValue m.text = 0 := by
    intro m hm
    rw [text, if_pos hm, show ['0', '.', '0'] = Decimal.text ⟨0, 0⟩ from rfl,
      Decimal.textValue_text]
    simp [Decimal.value]
  have hnonzero : ∀ m : Magnitude, m.isZero = false → textValue m.text = m.shortest.value := by
    intro m hm
    rw [text, if_neg (by simp [hm]), Decimal.textValue_text]
  have hpos : ∀ m : Magnitude, m.isZero = false → 0 < m.significand := by
    intro m hm
    exact Nat.pos_of_ne_zero (by simpa [isZero] using hm)
  cases hmz : m.isZero with
  | true =>
      cases hnz : n.isZero with
      | true => exact hm.eq_of_isZero hn hmz hnz
      | false =>
          rw [hzero m hmz, hnonzero n hnz] at hvalue
          exact absurd hvalue (Holds.pos (hpos n hnz) (holds_shortest hn (hpos n hnz))).ne
  | false =>
      cases hnz : n.isZero with
      | true =>
          rw [hnonzero m hmz, hzero n hnz] at hvalue
          exact absurd hvalue (Holds.pos (hpos m hmz) (holds_shortest hm (hpos m hmz))).ne'
      | false =>
          rw [hnonzero m hmz, hnonzero n hnz] at hvalue
          exact eq_of_shortest_value hm hn (hpos m hmz) (hpos n hnz) hvalue

end Magnitude

/-- **Different doubles have different texts.**  The sign is read off the first character. -/
theorem Double.text_injective {a b : Double} (ha : a.magnitude.IsProper)
    (hb : b.magnitude.IsProper) (h : a.text = b.text) : a = b := by
  have hdigit : ∀ m : Magnitude, m.text.head? ≠ some '-' := by
    intro m hminus
    obtain ⟨decimal, htext⟩ := m.exists_text_eq
    obtain ⟨c, rest, hcons, hc⟩ := decimal.text_eq_cons
    rw [htext, hcons, List.head?_cons] at hminus
    obtain rfl := Option.some.inj hminus
    cases hc
  rw [text_eq, text_eq] at h
  obtain ⟨anegative, m⟩ := a
  obtain ⟨bnegative, n⟩ := b
  cases anegative with
  | true =>
      cases bnegative with
      | true => exact congrArg _ (Magnitude.text_injective ha hb (List.cons.inj h).2)
      | false => exact absurd (congrArg List.head? h).symm (hdigit n)
  | false =>
      cases bnegative with
      | true => exact absurd (congrArg List.head? h) (hdigit m)
      | false => exact congrArg _ (Magnitude.text_injective ha hb h)

namespace Number

/-- Whether a number is one of the two kinds there are: an integer, or a finite double. -/
def IsProper : Number → Prop
  | .int _ => True
  | .double d => d.magnitude.IsProper

theorem isNumberChar_of_mem_text {n : Number} {c : Char} (h : c ∈ n.text) :
    isNumberChar c = true := by
  cases n with
  | int n =>
      cases n with
      | ofNat n => simp [isNumberChar, isDigit_of_mem_natText h]
      | negSucc n =>
          obtain rfl | h := List.mem_cons.mp h
          · rfl
          · simp [isNumberChar, isDigit_of_mem_natText h]
  | double d =>
      obtain ⟨decimal, htext⟩ := d.magnitude.exists_text_eq
      rw [text, Double.text_eq, htext] at h
      split at h
      · obtain rfl | h := List.mem_cons.mp h
        · rfl
        · exact Decimal.isNumberChar_of_mem_text h
      · exact Decimal.isNumberChar_of_mem_text h

/-- The text of a number starts with a digit or a minus sign. -/
theorem text_eq_cons (n : Number) :
    ∃ c rest, n.text = c :: rest ∧ (c.isDigit = true ∨ c = '-') := by
  cases n with
  | int n =>
      cases n with
      | ofNat n =>
          obtain ⟨c, rest, htext, hc⟩ := natText_eq_cons n
          exact ⟨c, rest, htext, Or.inl hc⟩
      | negSucc n => exact ⟨_, _, rfl, Or.inr rfl⟩
  | double d =>
      obtain ⟨decimal, htext⟩ := d.magnitude.exists_text_eq
      rw [text, Double.text_eq, htext]
      split
      · exact ⟨_, _, rfl, Or.inr rfl⟩
      · obtain ⟨c, rest, htext, hc⟩ := decimal.text_eq_cons
        exact ⟨c, rest, htext, Or.inl hc⟩

/-- An integer has neither a point nor an exponent, a double has one of them. -/
theorem intText_ne_text (n : Int) (d : Double) : intText n ≠ d.text := by
  intro h
  obtain ⟨decimal, htext⟩ := d.magnitude.exists_text_eq
  obtain ⟨c, hmem, hmark⟩ := decimal.exists_mark
  have hin : c ∈ d.text := by
    rw [Double.text_eq, htext]
    split
    · exact List.mem_cons_of_mem _ hmem
    · exact hmem
  rw [← h] at hin
  have hplain : c.isDigit = true ∨ c = '-' := by
    cases n with
    | ofNat n => exact Or.inl (isDigit_of_mem_natText hin)
    | negSucc n =>
        obtain rfl | hin := List.mem_cons.mp hin
        · exact Or.inr rfl
        · exact Or.inl (isDigit_of_mem_natText hin)
  obtain rfl | rfl := hmark <;> simp at hplain

/-- **Different numbers have different texts.** -/
theorem text_injective {a b : Number} (ha : a.IsProper) (hb : b.IsProper)
    (h : a.text = b.text) : a = b := by
  cases a with
  | int m =>
      cases b with
      | int n =>
          have hread : some m = some n := by
            rw [← parseInt?_intText m, ← parseInt?_intText n]
            exact congrArg parseInt? h
          rw [Option.some.inj hread]
      | double d => exact absurd h (intText_ne_text m d)
  | double c =>
      cases b with
      | int n => exact absurd h.symm (intText_ne_text n c)
      | double d => rw [Double.text_injective ha hb h]

end Number

end ServiceHost
