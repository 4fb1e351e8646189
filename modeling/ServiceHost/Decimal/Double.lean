/-!
# Double precision numbers

A finite double is a sign and `significand · 2 ^ exponent`, with at most 53 bits of significand.
This file rounds an exact quotient of natural numbers to the nearest double, a half to the even
neighbour; product and quotient of two doubles are that rounding of the exact result.
-/

namespace ServiceHost

/-- The magnitude of a finite double: `significand · 2 ^ exponent`.  The significand has exactly
53 bits, or fewer with the least exponent. -/
structure Magnitude where
  significand : Nat
  exponent : Int
  deriving DecidableEq, Repr

/-- A finite double. -/
structure Double where
  /-- Whether the sign is a minus; zero has a sign too. -/
  negative : Bool
  magnitude : Magnitude
  deriving DecidableEq, Repr

namespace Magnitude

/-- The least exponent. -/
def leastExponent : Int := -1074

/-- The greatest exponent. -/
def greatestExponent : Int := 971

/-- The least significand of 53 bits. -/
def leastFull : Nat := 0x10000000000000

/-- Zero. -/
def zero : Magnitude := ⟨0, leastExponent⟩

/-- Whether a magnitude is zero. -/
def isZero (m : Magnitude) : Bool := m.significand == 0

/-- `n · base ^ e` as a numerator and a denominator. -/
def scaled (n base : Nat) (e : Int) : Nat × Nat :=
  if 0 ≤ e then (n * base.pow e.toNat, 1) else (n, base.pow (-e).toNat)

/-- The nearest natural number to a quotient; a half goes to the even neighbour. -/
def roundQuotient (num den : Nat) : Nat :=
  let q := num / den
  let twice := 2 * (num % den)
  if den < twice ∨ (twice = den ∧ q % 2 = 1) then q + 1 else q

/-- The exponent with which a quotient has 53 bits before the point, or the least one. -/
def exponentOf (num den : Nat) : Int :=
  let low : Int := Nat.log2 num - Nat.log2 den - 53
  let (n, d) := scaled num 2 (-low)
  max leastExponent (if 2 * leastFull * (den * d) ≤ n then low + 1 else low)

/-- The double nearest to `num / den`, or none if that is out of range. -/
def nearest? (num den : Nat) : Option Magnitude :=
  if num = 0 then some zero
  else
    let e := exponentOf num den
    let (n, d) := scaled num 2 (-e)
    let significand := roundQuotient n (den * d)
    let m : Magnitude :=
      if significand = 2 * leastFull then ⟨leastFull, e + 1⟩ else ⟨significand, e⟩
    if m.exponent ≤ greatestExponent then some m else none

/-- A magnitude as a quotient. -/
def toQuotient (m : Magnitude) : Nat × Nat :=
  scaled m.significand 2 m.exponent

/-- The product, rounded, or none if it is out of range. -/
def mul? (a b : Magnitude) : Option Magnitude :=
  let (n, d) := a.toQuotient
  let (n', d') := b.toQuotient
  nearest? (n * n') (d * d')

/-- The quotient, rounded, or none if it is out of range. -/
def div? (a b : Magnitude) : Option Magnitude :=
  let (n, d) := a.toQuotient
  let (n', d') := b.toQuotient
  nearest? (n * d') (d * n')

end Magnitude

end ServiceHost
