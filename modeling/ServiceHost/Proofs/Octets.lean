import Mathlib.Algebra.Group.Nat.Defs
import Mathlib.Data.List.Induction
import ServiceHost.Octets

/-!
# Numbers in network order

Writing a number into a fixed count of octets and reading it back are inverse to each other: a
number that fits is kept (`toNat_ofNat`), and octets are the only way to write the number that they
stand for (`ofNat_toNat`).  Cutting off a known count of octets undoes an append.
-/

namespace ServiceHost.Octets

/-- A written number has the width that was asked for. -/
@[simp] theorem length_ofNat (width n : Nat) : (ofNat width n).length = width := by
  induction width generalizing n with
  | zero => rfl
  | succ width ih => simp [ofNat, ih]

/-- The last octet counts once, and everything before it 256 times. -/
theorem toNat_concat (octets : Octets) (b : UInt8) :
    toNat (octets ++ [b]) = toNat octets * 256 + b.toNat := by
  simp [toNat]

/-- A number that fits is read back as it was written. -/
theorem toNat_ofNat {width n : Nat} (hn : n < 256 ^ width) : toNat (ofNat width n) = n := by
  induction width generalizing n with
  | zero =>
      have hzero : n = 0 := by simpa using hn
      subst hzero
      rfl
  | succ width ih =>
      have hdiv : n / 256 < 256 ^ width := by
        rw [Nat.pow_succ] at hn
        omega
      have hlast : ((n % 256).toUInt8).toNat = n % 256 := by simp
      rw [ofNat, toNat_concat, ih hdiv, hlast]
      omega

/-- Octets are what is written for the number they stand for. -/
theorem ofNat_toNat (octets : Octets) : ofNat octets.length (toNat octets) = octets := by
  induction octets using List.reverseRecOn with
  | nil => rfl
  | append_singleton octets b ih =>
      have hb : b.toNat < 256 := b.toNat_lt
      have hdiv : (toNat octets * 256 + b.toNat) / 256 = toNat octets := by omega
      have hmod : (toNat octets * 256 + b.toNat) % 256 = b.toNat := by omega
      simp [toNat_concat, ofNat, hdiv, hmod, ih]

/-- The number that octets stand for fits into as many octets. -/
theorem toNat_lt (octets : Octets) : toNat octets < 256 ^ octets.length := by
  induction octets using List.reverseRecOn with
  | nil => decide
  | append_singleton octets b ih =>
      have hb : b.toNat < 256 := b.toNat_lt
      rw [toNat_concat, List.length_append, List.length_singleton, Nat.pow_succ]
      omega

/-- Cutting off the length of the front undoes an append. -/
theorem splitExactly_append {front back : Octets} {n : Nat} (hn : front.length = n) :
    splitExactly n (front ++ back) = some (front, back) := by
  subst hn
  simp [splitExactly]

end ServiceHost.Octets
