import Mathlib.Data.List.TakeDrop
import Mathlib.Data.List.TakeWhile
import ServiceHost.Call.Service
import ServiceHost.Http.Target
import ServiceHost.Proofs.Text.Utf8

/-!
# Paths of methods

A method is called by a path that holds two names.  Names of letters, digits, underscores and dots
leave nothing in it that would end a path or stand for something else, so the path is a request
target as it stands (`Target.ofPath?_pathOf`).
-/

namespace ServiceHost

/-- A character of a plain name: a letter, a digit, an underscore, a dot, or anything beyond
ASCII. -/
def isPlainNameChar (c : Char) : Bool :=
  c.isAlphanum || c == '_' || c == '.' || 0x80 ≤ c.toNat

/-- Whether a name is plain. -/
def isPlainName (name : String) : Bool :=
  name.toList.all isPlainNameChar

/-- Whether the names of a service are plain, and its methods have the paths that their names make. -/
def Service.IsPlain (service : Service) : Prop :=
  isPlainName service.name = true ∧ ∀ method ∈ service.methods,
    isPlainName method.name = true ∧ method.path = Service.pathOf service.name method.name

namespace Target

theorem isPathOctet_ascii : ∀ n : Fin 0x80,
    Char.ofNat n.val = '/' ∨ isPlainNameChar (Char.ofNat n.val) = true →
      isPathOctet n.val.toUInt8 = true := by
  decide

/-- A slash and the characters of plain names have octets that a path may have. -/
theorem isPathOctet_of_mem_encodeChar {c : Char} (hc : c = '/' ∨ isPlainNameChar c = true)
    {b : UInt8} (hb : b ∈ Utf8.encodeChar c) : isPathOctet b = true := by
  by_cases hascii : c.toNat < 0x80
  · have hchar : Utf8.encodeChar c = [c.toNat.toUInt8] := by simp [Utf8.encodeChar, hascii]
    rw [hchar, List.mem_singleton] at hb
    rw [hb]
    exact isPathOctet_ascii ⟨c.toNat, hascii⟩ (by rwa [Char.ofNat_toNat])
  · have hhigh : (0x80 : UInt8) ≤ b :=
      UInt8.le_iff_toNat_le.mpr (Utf8.le_of_mem_encodeChar (by omega) hb)
    simp [isPathOctet, hhigh]

/-- Octets of a path alone are a target. -/
theorem ofPath?_of_all {path : String} (hpath : path ≠ "")
    (hall : ∀ b ∈ Utf8.ofString path, isPathOctet b = true) :
    ofPath? none none (Utf8.ofString path) = some { path } := by
  have hspan : (Utf8.ofString path).span isPathOctet = (Utf8.ofString path, []) := by
    rw [List.span_eq_takeWhile_dropWhile, List.takeWhile_eq_self_iff.mpr hall,
      List.dropWhile_eq_nil_iff.mpr hall]
  have htext : text? (Utf8.ofString path) = some path := by
    rw [text?, Utf8.ofString, Utf8.decode?_encode, Option.map_some, String.ofList_toList]
  have hquery : takeQuery (Utf8.ofString path) = some (Utf8.ofString path, none) := by
    rw [takeQuery, hspan]
    rfl
  simp [ofPath?, hquery, optionalText?, htext, hpath]

/-- **The path of a method with plain names is a target.** -/
theorem ofPath?_pathOf {service method : String} (hservice : isPlainName service = true)
    (hmethod : isPlainName method = true) :
    ofPath? none none (Utf8.ofString (Service.pathOf service method)) =
      some { path := Service.pathOf service method } := by
  have hchars : ∀ c ∈ (Service.pathOf service method).toList,
      c = '/' ∨ isPlainNameChar c = true := by
    intro c hc
    have hparts : (Service.pathOf service method).toList =
        '/' :: (service.toList ++ '/' :: method.toList) := by
      simp [Service.pathOf]
    rw [hparts, List.mem_cons, List.mem_append, List.mem_cons] at hc
    rcases hc with hslash | hname | hslash | hname
    · exact Or.inl hslash
    · exact Or.inr (List.all_eq_true.mp hservice c hname)
    · exact Or.inl hslash
    · exact Or.inr (List.all_eq_true.mp hmethod c hname)
  refine ofPath?_of_all ?_ fun b hb => ?_
  · intro hempty
    have := congrArg String.toList hempty
    simp [Service.pathOf] at this
  · obtain ⟨c, hc, hbc⟩ := List.mem_flatMap.mp hb
    exact isPathOctet_of_mem_encodeChar (hchars c hc) hbc

end Target

end ServiceHost
