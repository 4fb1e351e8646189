import ServiceHost.Proofs.Text.Utf8
import ServiceHost.Text.Base64
import ServiceHost.Text.Percent

/-!
# Escapes are read back

Octets written with percent escapes and octets written in base 64 are read back as they were.  Which
octets stand for themselves is free as long as the percent sign does not.
-/

namespace ServiceHost

/-! ## Percent escapes -/

namespace Percent

theorem hexValue?_upperDigit :
    ∀ n : Fin 16, Octets.hexValue? (upperDigit n.val.toUInt8) = some n.val.toUInt8 := by
  decide

theorem decodeOctets_cons_of_ne {b : UInt8} (hb : b ≠ 0x25) (rest : Octets) :
    decodeOctets (b :: rest) = b :: decodeOctets rest := by
  cases rest with
  | nil => simp [decodeOctets]
  | cons next rest => cases rest <;> simp [decodeOctets, hb]

/-- The upper half of an octet, as a number and as an octet. -/
theorem toUInt8_upper (b : UInt8) : (b.toNat / 16).toUInt8 = b / 16 := by
  have hb := b.toNat_lt
  apply UInt8.toNat_inj.mp
  rw [Utf8.toNat_toUInt8 (by omega), UInt8.toNat_div, show (16 : UInt8).toNat = 16 from rfl]

theorem toUInt8_lower (b : UInt8) : (b.toNat % 16).toUInt8 = b % 16 := by
  have hb := b.toNat_lt
  apply UInt8.toNat_inj.mp
  rw [Utf8.toNat_toUInt8 (by omega), UInt8.toNat_mod, show (16 : UInt8).toNat = 16 from rfl]

/-- Two digits that stand for the halves of an octet are read as the octet. -/
theorem decodeOctets_digits {b high low : UInt8}
    (hhigh : Octets.hexValue? high = some (b / 16)) (hlow : Octets.hexValue? low = some (b % 16))
    (rest : Octets) : decodeOctets (0x25 :: high :: low :: rest) = b :: decodeOctets rest := by
  have hb := b.toNat_lt
  have hsum : b / 16 * 16 + b % 16 = b := UInt8.toNat_inj.mp (by
    simp only [UInt8.toNat_add, UInt8.toNat_mul, UInt8.toNat_div, UInt8.toNat_mod,
      show (16 : UInt8).toNat = 16 from rfl]
    omega)
  simp [decodeOctets, hhigh, hlow, hsum]

/-- One escape is read back. -/
theorem decodeOctets_escape (b : UInt8) (rest : Octets) :
    decodeOctets (escape b ++ rest) = b :: decodeOctets rest := by
  have hb := b.toNat_lt
  apply decodeOctets_digits
  · simpa [toUInt8_upper] using hexValue?_upperDigit ⟨b.toNat / 16, by omega⟩
  · simpa [toUInt8_lower] using hexValue?_upperDigit ⟨b.toNat % 16, by omega⟩

/-- **What is written with escapes is read back.** -/
theorem decodeOctets_encodeOctets {raw : UInt8 → Bool} (hraw : raw 0x25 = false)
    (octets : Octets) : decodeOctets (encodeOctets raw octets) = octets := by
  induction octets with
  | nil => rfl
  | cons b rest ih =>
      rw [encodeOctets, List.flatMap_cons, ← encodeOctets]
      by_cases hb : raw b = true
      · have hne : b ≠ 0x25 := fun h => by simp [h, hraw] at hb
        rw [if_pos hb, List.singleton_append, decodeOctets_cons_of_ne hne, ih]
      · rw [if_neg hb, decodeOctets_escape, ih]

end Percent

/-! ## Base 64 -/

namespace Base64

theorem value?_digit : ∀ n : Fin 64, value? (digit n.val) = some n.val := by decide

/-- The padding sign has no value, and so is no digit. -/
theorem digit_ne_padding (n : Fin 64) : digit n.val ≠ 0x3D := by
  intro h
  have hnone : value? 0x3D = none := by decide
  have hsome := value?_digit n
  rw [h, hnone] at hsome
  exact absurd hsome (by simp)

/-- The values of the digits of octets. -/
def values : Octets → List Nat
  | a :: b :: c :: rest =>
    let n := (a.toNat * 256 + b.toNat) * 256 + c.toNat
    n / 0x40000 :: n / 0x1000 % 64 :: n / 64 % 64 :: n % 64 :: values rest
  | [a, b] =>
    let n := a.toNat * 256 + b.toNat
    [n / 1024, n / 16 % 64, n % 16 * 4]
  | [a] => [a.toNat / 4, a.toNat % 4 * 16]
  | [] => []

theorem encode_eq_map (octets : Octets) : encode octets = (values octets).map digit := by
  induction octets using encode.induct with
  | case1 a b c rest ih => simp [encode, values, ih]
  | case2 a b => rfl
  | case3 a => rfl
  | case4 => rfl

theorem lt_of_mem_values {octets : Octets} {n : Nat} (h : n ∈ values octets) : n < 64 := by
  induction octets using encode.induct with
  | case1 a b c rest ih =>
      have ha := a.toNat_lt
      have hb := b.toNat_lt
      have hc := c.toNat_lt
      simp only [values, List.mem_cons] at h
      rcases h with rfl | rfl | rfl | rfl | h
      · omega
      · omega
      · omega
      · omega
      · exact ih h
  | case2 a b =>
      have ha := a.toNat_lt
      have hb := b.toNat_lt
      simp only [values, List.mem_cons, List.not_mem_nil, or_false] at h
      omega
  | case3 a =>
      have ha := a.toNat_lt
      simp only [values, List.mem_cons, List.not_mem_nil, or_false] at h
      omega
  | case4 => simp [values] at h

/-- An octet is known by its value. -/
theorem toUInt8_eq {n : Nat} {b : UInt8} (h : n = b.toNat) : n.toUInt8 = b := by
  rw [h]
  exact UInt8.toNat_inj.mp (Utf8.toNat_toUInt8 b.toNat_lt)

theorem decodeValues?_values (octets : Octets) : decodeValues? (values octets) = some octets := by
  induction octets using encode.induct with
  | case1 a b c rest ih =>
      have ha := a.toNat_lt
      have hb := b.toNat_lt
      have hc := c.toNat_lt
      simp only [values, decodeValues?, ih, Option.map_some, Option.some.injEq]
      congr 1
      · exact toUInt8_eq (by omega)
      congr 1
      · exact toUInt8_eq (by omega)
      congr 1
      exact toUInt8_eq (by omega)
  | case2 a b =>
      have ha := a.toNat_lt
      have hb := b.toNat_lt
      simp only [values, decodeValues?]
      rw [if_pos (by omega), toUInt8_eq (b := a) (by omega), toUInt8_eq (b := b) (by omega)]
  | case3 a =>
      have ha := a.toNat_lt
      simp only [values, decodeValues?]
      rw [if_pos (by omega), toUInt8_eq (b := a) (by omega)]
  | case4 => rfl

theorem mapM_value?_digit {numbers : List Nat} (h : ∀ n ∈ numbers, n < 64) :
    (numbers.map digit).mapM value? = some numbers := by
  induction numbers with
  | nil => rfl
  | cons n rest ih =>
      have hn : value? (digit n) = some n := value?_digit ⟨n, h n List.mem_cons_self⟩
      have hrest := ih fun m hm => h m (List.mem_cons_of_mem n hm)
      simp [List.mapM_cons, hn, hrest]

/-- **What is written in base 64 is read back.** -/
theorem decode?_encode (octets : Octets) : decode? (encode octets) = some octets := by
  -- no digit is the padding sign, so nothing is cut off
  have hplain : ∀ b ∈ encode octets, (b != 0x3D) = true := by
    intro b hb
    rw [encode_eq_map] at hb
    obtain ⟨n, hn, rfl⟩ := List.mem_map.mp hb
    simpa using digit_ne_padding ⟨n, lt_of_mem_values hn⟩
  have hdigits : (encode octets).takeWhile (· != 0x3D) = encode octets := by
    simpa using @List.takeWhile_append_of_pos _ (· != 0x3D) (encode octets) [] hplain
  have hvalues : (encode octets).mapM value? = some (values octets) := by
    rw [encode_eq_map]
    exact mapM_value?_digit fun n => lt_of_mem_values
  rw [decode?, hdigits, hvalues, Option.bind_some, decodeValues?_values]

end Base64

end ServiceHost
