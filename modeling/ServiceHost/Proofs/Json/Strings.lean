import ServiceHost.Json.Reader
import ServiceHost.Json.Writer

/-!
# Strings read back from their texts

A character stands inside a string behind a backslash, as the number of a control character, or as
itself (`escapeChar_cases`), and is read back from each of these (`takeString_escapeChar`).  So a
string is read back from between its quotes, whatever stands behind it (`takeString_stringText`).
-/

namespace ServiceHost.Json

/-- How a character stands inside a string. -/
theorem escapeChar_cases (c : Char) :
    (∃ e, escapeChar c = ['\\', e] ∧ shortEscape? e = some c ∧ e ≠ 'u') ∨
    (c.toNat < 0x20 ∧ escapeChar c =
      ['\\', 'u', '0', '0', hexDigit (c.toNat / 16), hexDigit (c.toNat % 16)]) ∨
    (c ≠ '"' ∧ c ≠ '\\' ∧ 0x20 ≤ c.toNat ∧ escapeChar c = [c]) := by
  have hchar : ∀ {n : Nat}, c.toNat = n → Char.ofNat n = c := by
    rintro n rfl
    exact Char.ofNat_toNat c
  unfold escapeChar
  split
  · next h => exact .inl ⟨_, rfl, by rw [h]; rfl, by decide⟩
  next hquote =>
  split
  · next h => exact .inl ⟨_, rfl, by rw [h]; rfl, by decide⟩
  next hslash =>
  split
  · next h => exact .inl ⟨_, rfl, by rw [h]; rfl, by decide⟩
  split
  · next h => exact .inl ⟨_, rfl, by rw [h]; rfl, by decide⟩
  split
  · next h => exact .inl ⟨_, rfl, by rw [h]; rfl, by decide⟩
  split
  · next h => exact .inl ⟨_, rfl, by rw [← hchar h]; rfl, by decide⟩
  split
  · next h => exact .inl ⟨_, rfl, by rw [← hchar h]; rfl, by decide⟩
  split
  · next h => exact .inr (.inl ⟨h, rfl⟩)
  · next h => exact .inr (.inr ⟨hquote, hslash, Nat.le_of_not_lt h, rfl⟩)

theorem hexDigit?_hexDigit : ∀ n < 16, hexDigit? (hexDigit n) = some n := by decide

theorem fourHex?_control {n : Nat} (h : n < 0x20) :
    fourHex? '0' '0' (hexDigit (n / 16)) (hexDigit (n % 16)) = some n := by
  have hzero : hexDigit? '0' = some 0 := rfl
  have hhigh := hexDigit?_hexDigit (n / 16) (by omega)
  have hlow := hexDigit?_hexDigit (n % 16) (by omega)
  simp only [fourHex?, hzero, hhigh, hlow, Option.bind_eq_bind, Option.bind_some]
  congr 1
  omega

theorem takeString_quote (done : List Char) (rest : Rest) :
    takeString done ('"' :: rest) = some (String.ofList done.reverse, rest) := rfl

theorem takeString_plain {c : Char} (hquote : c ≠ '"') (hslash : c ≠ '\\') (h : 0x20 ≤ c.toNat)
    (done : List Char) (rest : Rest) :
    takeString done (c :: rest) = takeString (c :: done) rest := by
  rw [takeString.eq_def]
  split
  · rename_i heq
    cases heq
  · rename_i heq
    exact absurd (List.cons.inj heq).1 hquote
  · rename_i heq
    exact absurd (List.cons.inj heq).1 hslash
  · rename_i heq
    exact absurd (List.cons.inj heq).1 hslash
  · rename_i heq
    obtain ⟨rfl, rfl⟩ := List.cons.inj heq
    rw [if_neg (not_or.mpr ⟨Nat.not_lt.mpr h, hslash⟩)]

/-- **One character of a string is read back.** -/
theorem takeString_escapeChar (done : List Char) (c : Char) (rest : Rest) :
    takeString done (escapeChar c ++ rest) = takeString (c :: done) rest := by
  rcases escapeChar_cases c with ⟨e, htext, he, hu⟩ | ⟨hcontrol, htext⟩ |
    ⟨hquote, hslash, hvisible, htext⟩
  · rw [htext, List.cons_append, List.cons_append, List.nil_append, takeString.eq_def]
    simp [he, hu]
  · simp only [htext, List.cons_append, List.nil_append]
    rw [takeString, fourHex?_control hcontrol]
    simp only
    rw [if_pos (by omega), Char.ofNat_toNat]
  · rw [htext]
    exact takeString_plain hquote hslash hvisible done rest

theorem takeString_escaped (done text : List Char) (rest : Rest) :
    takeString done (text.flatMap escapeChar ++ '"' :: rest) =
      some (String.ofList (done.reverse ++ text), rest) := by
  induction text generalizing done with
  | nil => simp [takeString_quote]
  | cons c text ih =>
      rw [List.flatMap_cons, List.append_assoc, takeString_escapeChar, ih]
      simp

/-- **A string is read back from behind its first quote.** -/
theorem takeString_stringText (text : String) (rest : Rest) :
    ∃ inner, stringText text ++ rest = '"' :: inner ∧ takeString [] inner = some (text, rest) := by
  refine ⟨text.toList.flatMap escapeChar ++ '"' :: rest, by simp [stringText], ?_⟩
  rw [takeString_escaped]
  simp

/-- A key is read back with the colon behind it. -/
theorem takeKey_stringText (key : String) (rest : Rest) :
    takeKey (stringText key ++ ':' :: rest) = some (key, rest) := by
  obtain ⟨inner, htext, hread⟩ := takeString_stringText key (':' :: rest)
  have hquote : skipBlanks ('"' :: inner) = '"' :: inner := rfl
  have hcolon : skipBlanks (':' :: rest) = ':' :: rest := rfl
  simp [takeKey, htext, hquote, hread, hcolon]

end ServiceHost.Json
