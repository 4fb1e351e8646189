import Mathlib.Data.List.Basic

/-!
# Counting while one member changes

Machines with many parts of one kind keep the parts in a list, and a step changes one of them.  What
is counted then changes by that part alone.
-/

namespace ServiceHost

variable {α : Type} {l : List α} {i j : Nat} {a b c : α}

/-- The balance of a count when one member takes the place of another. -/
theorem countP_set_add (p : α → Bool) (h : l[i]? = some a) :
    (l.set i b).countP p + (if p a then 1 else 0) = l.countP p + (if p b then 1 else 0) := by
  obtain ⟨hi, rfl⟩ := List.getElem?_eq_some_iff.mp h
  have hold : (if p l[i] then 1 else 0) ≤ l.countP p := by
    split
    · exact List.countP_pos_iff.mpr ⟨l[i], List.getElem_mem hi, by assumption⟩
    · exact Nat.zero_le _
  rw [List.countP_set hi]
  omega

/-- A member of the changed list is the new one, or it was there before. -/
theorem getElem?_set_cases (h : (l.set i b)[j]? = some c) : (j = i ∧ c = b) ∨ l[j]? = some c := by
  by_cases hij : i = j
  · subst hij
    rw [List.getElem?_set_self'] at h
    obtain ⟨_, -, hc⟩ := Option.map_eq_some_iff.mp h
    exact Or.inl ⟨rfl, hc.symm⟩
  · rw [List.getElem?_set_ne hij] at h
    exact Or.inr h

theorem getElem?_set_of_some (h : l[i]? = some a) : (l.set i b)[i]? = some b :=
  List.getElem?_set_self (List.getElem?_eq_some_iff.mp h).1

end ServiceHost
