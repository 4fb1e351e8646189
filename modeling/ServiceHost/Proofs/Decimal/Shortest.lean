import Mathlib.Algebra.Order.Field.Basic
import Mathlib.Algebra.Order.Field.Power
import Mathlib.Data.Rat.Cast.Order
import Mathlib.Tactic.Linarith
import Mathlib.Tactic.NormNum
import Mathlib.Tactic.Positivity
import Mathlib.Tactic.Ring
import ServiceHost.Decimal.Shortest

/-!
# A double is told by its shortest decimal

The numbers that round to a double lie around it, and those of two doubles have nothing in common
(`eq_of_holds`): where the end of one is the beginning of the next, only one of the two significands
is even, and only an even one has its ends.  The shortest decimal of a positive double is a number
that rounds to it (`holds_shortest`), because one of the 24 grids that are tried is finer than a quarter
of its last bit.  So two positive doubles have different shortest decimals.
-/

namespace ServiceHost

/-- The number that a decimal stands for. -/
def Decimal.value (d : Decimal) : ℚ := d.digits * 10 ^ d.power

namespace Magnitude

/-- Whether a magnitude is that of a double: the significand has 53 bits, or fewer with the least
exponent. -/
structure IsProper (m : Magnitude) : Prop where
  significand_lt : m.significand < 2 * leastFull
  full_or_least : leastFull ≤ m.significand ∨ m.exponent = leastExponent
  least_le : leastExponent ≤ m.exponent
  le_greatest : m.exponent ≤ greatestExponent

/-- There is one zero. -/
theorem IsProper.eq_of_isZero {m n : Magnitude} (hm : m.IsProper) (hn : n.IsProper)
    (hmz : m.isZero = true) (hnz : n.isZero = true) : m = n := by
  have hleast : ∀ m : Magnitude, m.IsProper → m.isZero = true →
      m.significand = 0 ∧ m.exponent = leastExponent := by
    intro m hm hzero
    have hsignificand : m.significand = 0 := by simpa [isZero] using hzero
    refine ⟨hsignificand, hm.full_or_least.resolve_left ?_⟩
    rw [hsignificand]
    decide
  obtain ⟨hms, hme⟩ := hleast m hm hmz
  obtain ⟨hns, hne⟩ := hleast n hn hnz
  cases m
  cases n
  simp_all

/-- A quarter of the last bit. -/
def quarter (m : Magnitude) : ℚ := 2 ^ (m.exponent - 2)

theorem quarter_pos (m : Magnitude) : 0 < m.quarter := by
  unfold quarter
  positivity

/-- Whether a number rounds to a double. -/
def Holds (m : Magnitude) (x : ℚ) : Prop :=
  if m.neighbourhood.closed = true then
    m.neighbourhood.low * m.quarter ≤ x ∧ x ≤ m.neighbourhood.high * m.quarter
  else m.neighbourhood.low * m.quarter < x ∧ x < m.neighbourhood.high * m.quarter

variable {m n : Magnitude} {x : ℚ}

theorem Holds.bounds (h : m.Holds x) :
    m.neighbourhood.low * m.quarter ≤ x ∧ x ≤ m.neighbourhood.high * m.quarter := by
  unfold Holds at h
  split at h
  · exact h
  · exact ⟨h.1.le, h.2.le⟩

/-- Only a double with an even significand has its upper end. -/
theorem Holds.even_of_eq_high (h : m.Holds x) (hx : x = m.neighbourhood.high * m.quarter) :
    m.significand % 2 = 0 := by
  unfold Holds at h
  split at h
  · rename_i hclosed
    simpa [neighbourhood] using hclosed
  · exact absurd hx h.2.ne

/-- Only a double with an even significand has its lower end. -/
theorem Holds.even_of_eq_low (h : m.Holds x) (hx : x = m.neighbourhood.low * m.quarter) :
    m.significand % 2 = 0 := by
  unfold Holds at h
  split at h
  · rename_i hclosed
    simpa [neighbourhood] using hclosed
  · exact absurd hx h.1.ne'

/-! ## No number rounds to two doubles -/

/-- Of two doubles with one exponent that hold a number, neither has the lesser significand. -/
theorem significand_le_of_holds (hexponent : m.exponent = n.exponent) (hm : m.Holds x)
    (hn : n.Holds x) : n.significand ≤ m.significand := by
  by_contra hlt
  have hquarter : n.quarter = m.quarter := by rw [quarter, quarter, hexponent]
  have hlow : 4 * n.significand - 2 ≤ n.neighbourhood.low := by
    simp only [neighbourhood]
    split <;> omega
  have hhigh : m.neighbourhood.high = 4 * m.significand + 2 := rfl
  have hlower : (n.neighbourhood.low : ℚ) * m.quarter ≤ x := hquarter ▸ hn.bounds.1
  have hle : (n.neighbourhood.low : ℚ) * m.quarter ≤ m.neighbourhood.high * m.quarter :=
    hlower.trans hm.bounds.2
  have hends : n.neighbourhood.low ≤ m.neighbourhood.high := by
    exact_mod_cast le_of_mul_le_mul_right hle m.quarter_pos
  -- the upper end of the one is the lower end of the other, and both are even
  have hsame : (n.neighbourhood.low : ℚ) = m.neighbourhood.high := by
    have hnat : n.neighbourhood.low = m.neighbourhood.high := by omega
    exact_mod_cast hnat
  have hx : x = m.neighbourhood.high * m.quarter := le_antisymm hm.bounds.2 (hsame ▸ hlower)
  have heven := hm.even_of_eq_high hx
  have hother := hn.even_of_eq_low (by rw [hx, hsame, hquarter])
  omega

/-- Of two doubles that hold a number, neither has the lesser exponent. -/
theorem exponent_le_of_holds (hm : m.IsProper) (hn : n.IsProper) (hmx : m.Holds x)
    (hnx : n.Holds x) : n.exponent ≤ m.exponent := by
  by_contra hlt
  obtain ⟨k, hk⟩ : ∃ k : ℕ, n.exponent - 2 = (m.exponent - 2) + (k + 1 : ℕ) :=
    ⟨(n.exponent - m.exponent - 1).toNat, by omega⟩
  have hquarter : n.quarter = m.quarter * (2 ^ (k + 1) : ℕ) := by
    rw [quarter, quarter, hk, zpow_add₀ (by norm_num), zpow_natCast]
    push_cast
    ring
  have hfull : leastFull ≤ n.significand := by
    have hleast := hm.least_le
    cases hn.full_or_least with
    | inl hfull => exact hfull
    | inr heq => omega
  have hsmall := hm.significand_lt
  have hhigh : m.neighbourhood.high = 4 * m.significand + 2 := rfl
  have hlow : n.neighbourhood.low =
      if n.significand = leastFull then 4 * n.significand - 1 else 4 * n.significand - 2 := by
    have hleast := hm.least_le
    have hgreater : leastExponent < n.exponent := by omega
    simp [neighbourhood, hgreater]
  have hle : (n.neighbourhood.low * 2 ^ (k + 1) : ℕ) * m.quarter ≤
      m.neighbourhood.high * m.quarter := by
    have hchain := hnx.bounds.1.trans hmx.bounds.2
    rw [hquarter] at hchain
    push_cast at hchain ⊢
    linarith
  have hends : n.neighbourhood.low * 2 ^ (k + 1) ≤ m.neighbourhood.high := by
    exact_mod_cast le_of_mul_le_mul_right hle m.quarter_pos
  have hdouble : n.neighbourhood.low * 2 ≤ n.neighbourhood.low * 2 ^ (k + 1) :=
    Nat.mul_le_mul_left _ (Nat.le_self_pow (by omega) 2)
  -- the lower double is the last one of its exponent, whose significand is odd
  have hlast : m.significand = 2 * leastFull - 1 ∧
      n.neighbourhood.low * 2 ^ (k + 1) = m.neighbourhood.high := by
    unfold leastFull at *
    split at hlow <;> omega
  have hx : x = m.neighbourhood.high * m.quarter := by
    refine le_antisymm hmx.bounds.2 ?_
    have hlower := hnx.bounds.1
    rw [hquarter] at hlower
    rw [← hlast.2]
    push_cast at hlower ⊢
    linarith
  have heven := hmx.even_of_eq_high hx
  have hodd := hlast.1
  unfold leastFull at hodd
  omega

/-- **No number rounds to two doubles.** -/
theorem eq_of_holds (hm : m.IsProper) (hn : n.IsProper) (hmx : m.Holds x) (hnx : n.Holds x) :
    m = n := by
  have hexponent : m.exponent = n.exponent :=
    le_antisymm (exponent_le_of_holds hn hm hnx hmx) (exponent_le_of_holds hm hn hmx hnx)
  have hsignificand : m.significand = n.significand :=
    le_antisymm (significand_le_of_holds hexponent.symm hnx hmx)
      (significand_le_of_holds hexponent hmx hnx)
  cases m
  cases n
  simp_all

/-! ## The shortest decimal rounds to its double -/

theorem scaled_pos (n : Nat) {base : Nat} (hbase : 0 < base) (e : Int) :
    0 < (scaled n base e).2 := by
  unfold scaled
  split
  · exact Nat.one_pos
  · exact Nat.pow_pos hbase

theorem scaled_value (n : Nat) {base : Nat} (hbase : 0 < base) (e : Int) :
    ((scaled n base e).1 : ℚ) = n * base ^ e * (scaled n base e).2 := by
  have hne : (base : ℚ) ≠ 0 := by exact_mod_cast hbase.ne'
  unfold scaled
  split
  · rename_i he
    obtain ⟨k, rfl⟩ := Int.eq_ofNat_of_zero_le he
    simp
  · rename_i he
    obtain ⟨k, hk⟩ := Int.eq_ofNat_of_zero_le (show 0 ≤ -e by omega)
    have hneg : e = -(k : ℤ) := by omega
    subst hneg
    simp [hne]

/-- The quarters of a double and the steps of a grid in a common unit. -/
def perUnit (m : Magnitude) (power : Int) : Nat :=
  (scaled 1 2 (m.exponent - 2)).1 * (scaled 1 10 power).2

/-- The steps of a grid in that unit. -/
def perStep (m : Magnitude) (power : Int) : Nat :=
  (scaled 1 10 power).1 * (scaled 1 2 (m.exponent - 2)).2

/-- Whether a point of a grid rounds to a double. -/
def fitsOn (m : Magnitude) (power : Int) (c : Nat) : Bool :=
  if m.neighbourhood.closed then
    m.neighbourhood.low * m.perUnit power ≤ c * m.perStep power &&
      c * m.perStep power ≤ m.neighbourhood.high * m.perUnit power
  else
    m.neighbourhood.low * m.perUnit power < c * m.perStep power &&
      c * m.perStep power < m.neighbourhood.high * m.perUnit power

/-- Of the two points next to a place on a grid, the nearest one that fits. -/
def nearestFit (fits : Nat → Bool) (exact step : Nat) (power : Int) : Option Decimal :=
  let below := exact / step
  let above := below + 1
  let down := exact - below * step
  let up := above * step - exact
  if fits below && fits above then
    if down < up ∨ (down = up ∧ below % 2 = 0) then some ⟨below, power⟩ else some ⟨above, power⟩
  else if fits below then some ⟨below, power⟩
  else if fits above then some ⟨above, power⟩
  else none

theorem onGrid?_eq (m : Magnitude) (power : Int) :
    m.onGrid? power = nearestFit (m.fitsOn power) (m.neighbourhood.mid * m.perUnit power)
      (m.perStep power) power := rfl

theorem nearestFit_eq_some {fits : Nat → Bool} {exact step : Nat} {power : Int} {d : Decimal}
    (h : nearestFit fits exact step power = some d) : fits d.digits = true ∧ d.power = power := by
  unfold nearestFit at h
  simp only [Bool.and_eq_true] at h
  split at h
  · rename_i hboth
    split at h
    · obtain rfl := Option.some.inj h
      exact ⟨hboth.1, rfl⟩
    · obtain rfl := Option.some.inj h
      exact ⟨hboth.2, rfl⟩
  split at h
  · rename_i hbelow
    obtain rfl := Option.some.inj h
    exact ⟨hbelow, rfl⟩
  split at h
  · rename_i habove
    obtain rfl := Option.some.inj h
    exact ⟨habove, rfl⟩
  · cases h

theorem nearestFit_isSome {fits : Nat → Bool} {exact step : Nat} (power : Int)
    (h : fits (exact / step) = true) : (nearestFit fits exact step power).isSome = true := by
  unfold nearestFit
  simp only [h, Bool.true_and, if_true]
  split
  · split <;> rfl
  · rfl

/-- What the common unit is. -/
theorem exists_unit (m : Magnitude) (power : Int) :
    ∃ unit : ℚ, 0 < unit ∧ m.quarter = m.perUnit power * unit ∧
      (10 : ℚ) ^ power = m.perStep power * unit := by
  have htwo := scaled_value 1 (show 0 < 2 by decide) (m.exponent - 2)
  have hten := scaled_value 1 (show 0 < 10 by decide) power
  have hunit : (0 : ℚ) < (scaled 1 2 (m.exponent - 2)).2 := by
    exact_mod_cast scaled_pos 1 (by decide) _
  have hstep : (0 : ℚ) < (scaled 1 10 power).2 := by
    exact_mod_cast scaled_pos 1 (by decide) _
  refine ⟨((scaled 1 2 (m.exponent - 2)).2 * (scaled 1 10 power).2 : ℚ)⁻¹, by positivity, ?_, ?_⟩
  · rw [quarter, perUnit, eq_mul_inv_iff_mul_eq₀ (by positivity)]
    push_cast at htwo ⊢
    rw [htwo]
    ring
  · rw [perStep, eq_mul_inv_iff_mul_eq₀ (by positivity)]
    push_cast at hten ⊢
    rw [hten]
    ring

/-- A point of a grid fits exactly if it rounds to the double. -/
theorem fitsOn_iff (m : Magnitude) (power : Int) (c : Nat) :
    m.fitsOn power c = true ↔ m.Holds (Decimal.value ⟨c, power⟩) := by
  obtain ⟨unit, hunit, hquarter, hstep⟩ := exists_unit m power
  unfold fitsOn Holds Decimal.value
  simp only [hquarter, hstep, ← mul_assoc, mul_le_mul_iff_left₀ hunit, mul_lt_mul_iff_left₀ hunit]
  split <;> simp only [Bool.and_eq_true, decide_eq_true_eq] <;> norm_cast

/-- **A grid finer than a quarter of the last bit has a point that fits**, next below the double. -/
theorem onGrid?_isSome (hpos : 0 < m.significand) {power : Int} (h : (10 : ℚ) ^ power ≤ m.quarter) :
    (m.onGrid? power).isSome = true := by
  obtain ⟨unit, hunit, hquarter, hstep⟩ := exists_unit m power
  have hfine : m.perStep power ≤ m.perUnit power := by
    rw [hquarter, hstep, mul_le_mul_iff_left₀ hunit] at h
    exact_mod_cast h
  have hstepPos : 0 < m.perStep power := by
    have hpower : (0 : ℚ) < 10 ^ power := by positivity
    rw [hstep, mul_pos_iff_of_pos_right hunit] at hpower
    exact_mod_cast hpower
  rw [onGrid?_eq]
  apply nearestFit_isSome
  have hsplit := Nat.div_add_mod (m.neighbourhood.mid * m.perUnit power) (m.perStep power)
  have hmod := Nat.mod_lt (m.neighbourhood.mid * m.perUnit power) hstepPos
  rw [Nat.mul_comm] at hsplit
  generalize m.neighbourhood.mid * m.perUnit power / m.perStep power = below at hsplit ⊢
  have hlow : (m.neighbourhood.low + 1) * m.perUnit power ≤
      m.neighbourhood.mid * m.perUnit power := by
    refine Nat.mul_le_mul_right _ ?_
    simp only [neighbourhood]
    split <;> omega
  have hhigh : m.neighbourhood.high * m.perUnit power =
      m.neighbourhood.mid * m.perUnit power + 2 * m.perUnit power := Nat.add_mul _ _ _
  rw [Nat.add_mul, Nat.one_mul] at hlow
  have hleft : m.neighbourhood.low * m.perUnit power < below * m.perStep power := by omega
  have hright : below * m.perStep power < m.neighbourhood.high * m.perUnit power := by omega
  unfold fitsOn
  split
  · simp [hleft.le, hright.le]
  · simp [hleft, hright]

/-- A hit on one of the grids is one that fits. -/
theorem holds_firstOnGrids {tries : Nat} {power : Int}
    (h : ∃ k < tries, (m.onGrid? (power - k)).isSome = true) :
    m.Holds (m.firstOnGrids tries power).value := by
  induction tries generalizing power with
  | zero =>
      obtain ⟨k, hk, -⟩ := h
      exact absurd hk (Nat.not_lt_zero k)
  | succ tries ih =>
      rw [firstOnGrids]
      cases hgrid : m.onGrid? power with
      | some d =>
          rw [onGrid?_eq] at hgrid
          obtain ⟨hfits, hpower⟩ := nearestFit_eq_some hgrid
          have hd : d = ⟨d.digits, power⟩ := by rw [← hpower]
          rw [Option.getD_some, hd]
          exact (fitsOn_iff m power d.digits).mp hfits
      | none =>
          apply ih
          obtain ⟨k, hk, hsome⟩ := h
          cases k with
          | zero => simp [hgrid] at hsome
          | succ k =>
              refine ⟨k, by omega, ?_⟩
              have hsame : power - 1 - (k : ℤ) = power - ((k + 1 : ℕ) : ℤ) := by omega
              rw [hsame]
              exact hsome

/-- Powers of ten and of two: `10 ^ 3` lies below `2 ^ 10`, and `2 ^ 93` below `10 ^ 28`. -/
theorem ten_zpow_le_two_zpow {p e : ℤ} (h : 0 ≤ e ∧ 10 * p ≤ 3 * e ∨ e ≤ 0 ∧ 93 * p ≤ 28 * e) :
    (10 : ℚ) ^ p ≤ 2 ^ e := by
  have hpow : ∀ (base : ℚ) (k : ℕ) (q : ℤ), (base ^ q) ^ k = base ^ (q * k) := by
    intro base k q
    rw [← zpow_natCast, ← zpow_mul]
  cases h with
  | inl h =>
      have htenth : ((10 : ℚ) ^ p) ^ 10 ≤ ((2 : ℚ) ^ e) ^ 10 := by
        calc ((10 : ℚ) ^ p) ^ 10 = 10 ^ (p * 10) := hpow 10 10 p
          _ ≤ 10 ^ (3 * e) := zpow_le_zpow_right₀ (by norm_num) (by omega)
          _ = (10 ^ 3) ^ e := by rw [zpow_mul]; norm_num
          _ ≤ (2 ^ 10) ^ e := zpow_le_zpow_left₀ h.1 (by norm_num) (by norm_num)
          _ = 2 ^ (10 * e) := by rw [zpow_mul]; norm_num
          _ = ((2 : ℚ) ^ e) ^ 10 := by rw [hpow, mul_comm]; rfl
      exact le_of_pow_le_pow_left₀ (by norm_num) (by positivity) htenth
  | inr h =>
      obtain ⟨k, rfl⟩ : ∃ k : ℕ, e = -k := ⟨(-e).toNat, by omega⟩
      have hpart : ((10 : ℚ) ^ p) ^ 93 ≤ ((2 : ℚ) ^ (-(k : ℤ))) ^ 93 := by
        calc ((10 : ℚ) ^ p) ^ 93 = 10 ^ (p * 93) := hpow 10 93 p
          _ ≤ 10 ^ (-((28 * k : ℕ) : ℤ)) := zpow_le_zpow_right₀ (by norm_num) (by push_cast; omega)
          _ = ((10 ^ 28) ^ k)⁻¹ := by rw [zpow_neg, zpow_natCast, pow_mul]
          _ ≤ ((2 ^ 93) ^ k)⁻¹ :=
            inv_anti₀ (by positivity) (pow_le_pow_left₀ (by positivity) (by norm_num) k)
          _ = ((2 : ℚ) ^ (-(k : ℤ))) ^ 93 := by
            rw [zpow_neg, zpow_natCast, ← pow_mul, mul_comm, pow_mul, inv_pow]
      exact le_of_pow_le_pow_left₀ (by norm_num) (by positivity) hpart

/-- The last of the grids that are tried is fine enough. -/
theorem last_grid_le_quarter (hm : m.IsProper) :
    (10 : ℚ) ^ (m.powerAbove - (23 : ℕ)) ≤ m.quarter := by
  have hbits : Nat.log2 m.significand ≤ 52 := by
    by_cases hzero : m.significand = 0
    · simp [hzero]
    · have hlt := (Nat.log2_lt hzero).mpr (show m.significand < 2 ^ 53 from hm.significand_lt)
      omega
  have hleast := hm.least_le
  have hgreatest := hm.le_greatest
  unfold leastExponent at hleast
  unfold greatestExponent at hgreatest
  apply ten_zpow_le_two_zpow
  unfold powerAbove
  by_cases hexponent : 0 ≤ m.exponent - 2
  · exact Or.inl ⟨hexponent, by omega⟩
  · exact Or.inr ⟨by omega, by omega⟩

/-- **The shortest decimal of a positive double rounds to it.** -/
theorem holds_shortest (hm : m.IsProper) (hpos : 0 < m.significand) : m.Holds m.shortest.value :=
  holds_firstOnGrids ⟨23, by decide, onGrid?_isSome hpos (last_grid_le_quarter hm)⟩

/-- **A positive double is told by the value of its shortest decimal.** -/
theorem eq_of_shortest_value (hm : m.IsProper) (hn : n.IsProper) (hmpos : 0 < m.significand)
    (hnpos : 0 < n.significand) (h : m.shortest.value = n.shortest.value) : m = n :=
  eq_of_holds hm hn (holds_shortest hm hmpos) (h ▸ holds_shortest hn hnpos)

/-- A number that rounds to a positive double is positive. -/
theorem Holds.pos (hpos : 0 < m.significand) (h : m.Holds x) : 0 < x := by
  have hlow : 0 < m.neighbourhood.low := by
    simp only [neighbourhood]
    split <;> omega
  have hlowRat : (0 : ℚ) < m.neighbourhood.low := by exact_mod_cast hlow
  have hquarter := m.quarter_pos
  exact lt_of_lt_of_le (by positivity) h.bounds.1

end Magnitude

end ServiceHost
