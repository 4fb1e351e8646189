import ServiceHost.Octets

/-!
# Cutting texts

Paths, queries and dotted names are cut at every occurrence of one character.  A text with `n`
separators has `n + 1` parts, empty ones included.
-/

namespace ServiceHost

/-- The parts of a text between the occurrences of a character. -/
def splitText (separator : Char) (text : String) : List String :=
  (text.toList.splitOn separator).map String.ofList

/-- The text before the first occurrence of a character and the text behind it. -/
def cutAt? (separator : Char) (text : List Char) : Option (List Char × List Char) :=
  match text.span (· != separator) with
  | (_, []) => none
  | (front, _ :: back) => some (front, back)

/-- The text behind a leading part, if it starts with it. -/
def dropLeading? (lead text : String) : Option String :=
  if lead.toList.isPrefixOf text.toList then some (String.ofList (text.toList.drop lead.length))
  else none

/-- What is behind a leading part makes the text up with it. -/
theorem dropLeading?_eq_some_iff {lead text rest : String} :
    dropLeading? lead text = some rest ↔ text = lead ++ rest := by
  unfold dropLeading?
  constructor
  · intro h
    split at h
    · rename_i hlead
      obtain ⟨behind, hbehind⟩ := List.isPrefixOf_iff_prefix.mp hlead
      cases h
      rw [← String.toList_inj, String.toList_append, String.toList_ofList, ← hbehind,
        ← String.length_toList, List.drop_left]
    · cases h
  · rintro rfl
    simp [← String.length_toList]

end ServiceHost
