import Mathlib.Data.List.Forall2
import ServiceHost.Proofs.Text.Escapes

/-!
# Spellings of a text

A text can be written with percent escapes in many ways: each character stands for itself where that
is allowed, or all its octets are escaped, with digits in either case.  Which characters may stand
for which is a parameter, so that one relation serves paths and queries.  Decoding gives the text back
from all its spellings, provided no percent sign stands for itself (`decode_of_spells`).
-/

namespace ServiceHost.Percent

/-- The hexadecimal digits of a number below 16. -/
def hexDigits (n : Nat) : List Char :=
  [n.digitChar, n.digitChar.toUpper]

/-- All ways to write octets as escapes. -/
def escapesOf : Octets → List (List Char)
  | [] => [[]]
  | b :: rest =>
    (hexDigits (b.toNat / 16)).flatMap fun high =>
    (hexDigits (b.toNat % 16)).flatMap fun low =>
    (escapesOf rest).map fun tail => '%' :: high :: low :: tail

/-- The characters of which escapes are made. -/
def escapeMarks : List Char :=
  '%' :: (List.range 16).flatMap hexDigits

/-- How a text can be written: character by character, as one that `plain` allows in its place or as
the escapes of its octets. -/
inductive Spells (plain : Char → Char → Prop) : List Char → List Char → Prop
  | nil : Spells plain [] []
  | plain {c d : Char} {text written : List Char} (hplain : plain c d)
      (htail : Spells plain text written) : Spells plain (c :: text) (d :: written)
  | escaped {c : Char} {text written : List Char} (escape : List Char)
      (hescape : escape ∈ escapesOf (Utf8.encodeChar c))
      (htail : Spells plain text written) : Spells plain (c :: text) (escape ++ written)

/-! ## Escapes -/

theorem hexValue?_of_mem_hexDigits (n : Fin 16) : ∀ digit ∈ hexDigits n.val,
    digit.toNat < 0x80 ∧ Octets.hexValue? digit.toNat.toUInt8 = some n.val.toUInt8 := by
  have hall : ∀ n : Fin 16, (hexDigits n.val).all fun digit =>
      digit.toNat < 0x80 ∧ Octets.hexValue? digit.toNat.toUInt8 = some n.val.toUInt8 := by
    decide
  simpa only [List.all_eq_true, decide_eq_true_eq] using hall n

theorem mem_escapesOf_cons {b : UInt8} {rest : Octets} {escape : List Char} :
    escape ∈ escapesOf (b :: rest) ↔
      ∃ high ∈ hexDigits (b.toNat / 16), ∃ low ∈ hexDigits (b.toNat % 16),
        ∃ tail ∈ escapesOf rest, escape = '%' :: high :: low :: tail := by
  simp only [escapesOf, List.mem_flatMap, List.mem_map, eq_comm]

theorem ne_nil_of_mem_escapesOf {c : Char} {escape : List Char}
    (h : escape ∈ escapesOf (Utf8.encodeChar c)) : escape ≠ [] := by
  obtain ⟨b, behind, hchar, -⟩ := Utf8.next_encodeChar c []
  rw [hchar] at h
  obtain ⟨high, -, low, -, tail, -, rfl⟩ := mem_escapesOf_cons.mp h
  simp

theorem mem_escapeMarks {octets : Octets} {escape : List Char} (h : escape ∈ escapesOf octets) :
    ∀ d ∈ escape, d ∈ escapeMarks := by
  have hdigit : ∀ n < 16, ∀ d ∈ hexDigits n, d ∈ escapeMarks := by
    intro n hn d hd
    exact List.mem_cons_of_mem _ (List.mem_flatMap.mpr ⟨n, List.mem_range.mpr hn, hd⟩)
  induction octets generalizing escape with
  | nil =>
      intro d hd
      rw [List.mem_singleton.mp h] at hd
      cases hd
  | cons b rest ih =>
      have hb := b.toNat_lt
      obtain ⟨high, hhigh, low, hlow, tail, htail, rfl⟩ := mem_escapesOf_cons.mp h
      intro d hd
      simp only [List.mem_cons] at hd
      rcases hd with rfl | rfl | rfl | hd
      · exact List.mem_cons_self
      · exact hdigit _ (by omega) _ hhigh
      · exact hdigit _ (by omega) _ hlow
      · exact ih htail d hd

/-- Escapes are decoded to the octets that they stand for. -/
theorem decodeOctets_of_mem_escapesOf {octets : Octets} {escape : List Char}
    (h : escape ∈ escapesOf octets) (rest : Octets) :
    decodeOctets (Utf8.encode escape ++ rest) = octets ++ decodeOctets rest := by
  induction octets generalizing escape with
  | nil => rw [List.mem_singleton.mp h]; rfl
  | cons b behind ih =>
      have hb := b.toNat_lt
      obtain ⟨high, hhigh, low, hlow, tail, htail, rfl⟩ := mem_escapesOf_cons.mp h
      obtain ⟨hhighAscii, hhighValue⟩ :=
        hexValue?_of_mem_hexDigits ⟨b.toNat / 16, by omega⟩ high hhigh
      obtain ⟨hlowAscii, hlowValue⟩ :=
        hexValue?_of_mem_hexDigits ⟨b.toNat % 16, by omega⟩ low hlow
      have hencode : Utf8.encode ('%' :: high :: low :: tail) =
          0x25 :: high.toNat.toUInt8 :: low.toNat.toUInt8 :: Utf8.encode tail := by
        simp [Utf8.encode, Utf8.encodeChar, hhighAscii, hlowAscii]
      rw [hencode, List.cons_append, List.cons_append, List.cons_append,
        decodeOctets_digits (by rw [hhighValue, toUInt8_upper])
          (by rw [hlowValue, toUInt8_lower]), ih htail, List.cons_append]

/-- Octets other than the percent sign stand for themselves. -/
theorem decodeOctets_append_of_plain {front : Octets} (h : 0x25 ∉ front) (rest : Octets) :
    decodeOctets (front ++ rest) = front ++ decodeOctets rest := by
  induction front with
  | nil => rfl
  | cons b front ih =>
      obtain ⟨hb, hfront⟩ : 0x25 ≠ b ∧ 0x25 ∉ front := by simpa using h
      rw [List.cons_append, decodeOctets_cons_of_ne hb.symm, ih hfront, List.cons_append]

/-! ## Spellings -/

namespace Spells

variable {plain : Char → Char → Prop} {text written : List Char}

/-- A spelling consists of the marks of escapes and of what may stand for a character. -/
theorem mem_marks_or_plain (h : Spells plain text written) {d : Char} (hd : d ∈ written) :
    d ∈ escapeMarks ∨ ∃ c, plain c d := by
  induction h with
  | nil => cases hd
  | plain hplain _ ih =>
      rcases List.mem_cons.mp hd with rfl | hd
      · exact .inr ⟨_, hplain⟩
      · exact ih hd
  | escaped escape hescape _ ih =>
      rcases List.mem_append.mp hd with hd | hd
      · exact .inl (mem_escapeMarks hescape d hd)
      · exact ih hd

theorem written_ne_nil (h : Spells plain text written) (hne : text ≠ []) : written ≠ [] := by
  cases h with
  | nil => exact absurd rfl hne
  | plain => exact List.cons_ne_nil _ _
  | escaped escape hescape =>
      exact List.append_ne_nil_of_left_ne_nil (ne_nil_of_mem_escapesOf hescape) _

/-- A text of characters that may stand for themselves is a spelling of itself. -/
theorem refl (h : ∀ c ∈ text, plain c c) : Spells plain text text := by
  induction text with
  | nil => exact .nil
  | cons c text ih =>
      exact .plain (h c List.mem_cons_self) (ih fun d hd => h d (List.mem_cons_of_mem _ hd))

/-- Replacing characters that occur in no escape replaces them among those that stand for a
character. -/
theorem map {f : Char → Char} (hf : ∀ d ∈ escapeMarks, f d = d) (h : Spells plain text written) :
    Spells (fun c d => ∃ e, plain c e ∧ f e = d) text (written.map f) := by
  induction h with
  | nil => exact .nil
  | plain hplain _ ih => exact .plain ⟨_, hplain, rfl⟩ ih
  | escaped escape hescape _ ih =>
      have hsame : escape.map f = escape :=
        (List.map_congr_left fun d hd => hf d (mem_escapeMarks hescape d hd)).trans (List.map_id _)
      rw [List.map_append, hsame]
      exact .escaped escape hescape ih

end Spells

/-- What is in one of two lists that go together has something in the other that it goes with. -/
theorem exists_of_mem_right {α β : Type} {R : α → β → Prop} {items : List α} {others : List β}
    (h : List.Forall₂ R items others) {other : β} (hother : other ∈ others) :
    ∃ item ∈ items, R item other := by
  induction h with
  | nil => cases hother
  | cons hfirst _ ih =>
      rcases List.mem_cons.mp hother with rfl | hother
      · exact ⟨_, List.mem_cons_self, hfirst⟩
      · obtain ⟨item, hitem, hrel⟩ := ih hother
        exact ⟨item, List.mem_cons_of_mem _ hitem, hrel⟩

/-- **Every spelling is decoded.** -/
theorem decode_of_spells {plain : Char → Char → Prop} {text written : List Char}
    (hplain : ∀ c d, plain c d → d = c ∧ c ≠ '%') (h : Spells plain text written) :
    decode (String.ofList written) = String.ofList text := by
  have hoctets : decodeOctets (Utf8.encode written) = Utf8.encode text := by
    induction h with
    | nil => rfl
    | @plain c d text written hcd _ ih =>
        obtain ⟨rfl, hpercent⟩ := hplain c d hcd
        have hfree : 0x25 ∉ Utf8.encodeChar d := fun hmem =>
          hpercent (Utf8.eq_of_mem_encodeChar (d := '%') (by decide) hmem)
        rw [Utf8.encode, List.flatMap_cons, ← Utf8.encode, decodeOctets_append_of_plain hfree, ih]
        rfl
    | @escaped c text written escape hescape _ ih =>
        rw [Utf8.encode, List.flatMap_append, ← Utf8.encode, ← Utf8.encode,
          decodeOctets_of_mem_escapesOf hescape, ih]
        rfl
  rw [decode, Utf8.ofString, String.toList_ofList, hoctets, Utf8.toText_encode]

end ServiceHost.Percent
