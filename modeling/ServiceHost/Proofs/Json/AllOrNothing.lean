import ServiceHost.Proofs.Json.WellFormed

/-!
# Assignments land whole or not at all

An assignment may make objects on its way before it meets something else than an object.  It leaves
none of them behind: what is in the way stands in the object already, so nothing was missing before
it (`update_of_blocked`).  Together with what an assignment does when nothing is in its way, and what
it leaves alone, this is all that setting a field and adding to one can do
(`assignment_all_or_nothing`).
-/

namespace ServiceHost.Json.Members

variable {P : Number → Prop} {path : List String} {members : Members}

/-- Setting a key to the value that it has changes nothing. -/
theorem insert_of_get? {key : String} {value : Json} (hsorted : members.Sorted)
    (h : members.get? key = some value) : members.insert key value = members := by
  induction members with
  | nil => simp [get?] at h
  | cons member rest ih =>
      obtain ⟨first, found⟩ := member
      obtain ⟨hfirst, hrest⟩ := List.pairwise_cons.mp hsorted
      by_cases hkey : first = key
      · subst hkey
        have hfound : found = value := by simpa [get?] using h
        rw [insert, if_neg (String.lt_irrefl _), if_pos rfl, hfound]
      · have hbehind : get? key rest = some value := by simpa [get?, hkey] using h
        have hlt : first < key := hfirst _ (mem_of_get? hbehind)
        have hnot : ¬ key < first := fun hback =>
          String.lt_irrefl _ (String.lt_trans hlt hback)
        rw [insert, if_neg hnot, if_neg (Ne.symm hkey), ih hrest hbehind]

/-- What blocks a path stands behind its first key: the object itself blocks nothing. -/
theorem Blocked.behind_key {key : String} {rest : List String} (h : Blocked (key :: rest) members) :
    ∃ front value, front <+: rest ∧ front ≠ rest ∧ members.at? (key :: front) = some value ∧
      value.isObject = false := by
  obtain ⟨front, value, hfront, hne, hvalue, hother⟩ := h
  cases front with
  | nil =>
      rw [at?, Json.at?, Option.some.injEq] at hvalue
      simp [← hvalue, isObject] at hother
  | cons first front =>
      obtain ⟨rfl, hbelow⟩ := List.cons_prefix_cons.mp hfront
      exact ⟨front, value, hbelow, by simpa using hne, hvalue, hother⟩

/-- Nothing blocks a path of one key. -/
theorem not_blocked_singleton (key : String) : ¬ Blocked [key] members := by
  intro h
  obtain ⟨front, -, hfront, hne, -⟩ := h.behind_key
  exact hne (List.prefix_nil.mp hfront)

/-- What blocks a path that goes on below an object blocks the rest of it there. -/
theorem Blocked.of_cons {key : String} {rest : List String} {inner : Members}
    (hinner : members.get? key = some (object inner)) (h : Blocked (key :: rest) members) :
    Blocked rest inner := by
  obtain ⟨front, value, hfront, hne, hvalue, hother⟩ := h.behind_key
  rw [at?, at?_object_cons, hinner] at hvalue
  exact ⟨front, value, hfront, hne, hvalue, hother⟩

/-- Where a key is missing, nothing blocks a path that goes on from it. -/
theorem not_blocked_of_missing {key : String} {rest : List String}
    (hmissing : members.get? key = none) : ¬ Blocked (key :: rest) members := by
  intro h
  obtain ⟨front, value, -, -, hvalue, -⟩ := h.behind_key
  rw [at?, at?_object_cons, hmissing] at hvalue
  simp at hvalue

/-- **A blocked assignment changes nothing.** -/
theorem update_of_blocked (make : Option Json → Json) (hwell : WellFormed P (object members))
    (h : Blocked path members) : members.update make path = members := by
  fun_induction update make path members with
  | case1 members => rfl
  | case2 key members => exact absurd h (not_blocked_singleton key)
  | case3 key next rest members inner hinner ih =>
      rw [ih (hwell.get? hinner) (h.of_cons hinner)]
      cases hwell with
      | object hsorted _ => exact insert_of_get? hsorted hinner
  | case4 key next rest members value hother hvalue => rfl
  | case5 key next rest members hmissing ih => exact absurd h (not_blocked_of_missing hmissing)

/-- **Assignments land whole or not at all.**  If something else than an object stands at a strict
beginning of a dotted path, setting the value there and adding it there leave the object as it is.
Otherwise the value stands at the end of the path when it was set; and when it was added, it stands
there alone if nothing did, behind the items of an array, and behind anything else in an array of
two.  Either way every path that neither goes on from this one nor lies on the way to it leads where
it led. -/
theorem assignment_all_or_nothing (dotted : String) (value : Json)
    (hwell : WellFormed P (object members)) :
    (Blocked (pathOf dotted) members →
      members.assign (pathOf dotted) value = members ∧
      members.append (pathOf dotted) value = members) ∧
    (¬ Blocked (pathOf dotted) members →
      (members.assign (pathOf dotted) value).at? (pathOf dotted) = some value ∧
      (members.at? (pathOf dotted) = none →
        (members.append (pathOf dotted) value).at? (pathOf dotted) = some value) ∧
      (∀ items, members.at? (pathOf dotted) = some (array items) →
        (members.append (pathOf dotted) value).at? (pathOf dotted) =
          some (array (items ++ [value]))) ∧
      ∀ old, members.at? (pathOf dotted) = some old → (∀ items, old ≠ array items) →
        (members.append (pathOf dotted) value).at? (pathOf dotted) =
          some (array [old, value])) ∧
    ∀ other, ¬ pathOf dotted <+: other → ¬ other <+: pathOf dotted →
      (members.assign (pathOf dotted) value).at? other = members.at? other ∧
      (members.append (pathOf dotted) value).at? other = members.at? other := by
  have hne : pathOf dotted ≠ [] := by simp [pathOf, splitText]
  refine ⟨?_, ?_, ?_⟩
  · intro hblocked
    exact ⟨update_of_blocked _ hwell hblocked, update_of_blocked _ hwell hblocked⟩
  · intro hfree
    have happended := at?_update (joined value) hne hfree
    refine ⟨at?_update _ hne hfree, ?_, ?_, ?_⟩
    · intro hnothing
      rwa [hnothing] at happended
    · intro items hitems
      rwa [hitems] at happended
    · intro old hold hnot
      rw [hold] at happended
      cases old with
      | array items => exact absurd rfl (hnot items)
      | _ => exact happended
  · intro other hon hway
    exact ⟨at?_update_of_unrelated _ hon hway members, at?_update_of_unrelated _ hon hway members⟩

/-- A book with a title and a list of tags. -/
def sampleBook : Members :=
  [("book", object [("tags", array [string "old"]), ("title", string "Dune")])]

/-- The title has no part that could be set, and another tag is added behind the first, with the
title left alone. -/
theorem assignment_all_or_nothing_book :
    WellFormed (fun _ => True) (object sampleBook) ∧
    Blocked (pathOf "book.title.short.first") sampleBook ∧
    sampleBook.assign (pathOf "book.title.short.first") (string "D") = sampleBook ∧
    ¬ Blocked (pathOf "book.tags") sampleBook ∧
    (sampleBook.append (pathOf "book.tags") (string "new")).at? (pathOf "book.tags") =
      some (array [string "old", string "new"]) ∧
    (sampleBook.append (pathOf "book.tags") (string "new")).at? ["book", "title"] =
      some (string "Dune") := by
  have hwell : WellFormed (fun _ => True) (object sampleBook) := by
    refine .object (by simp [Sorted, sampleBook]) fun member hmem => ?_
    obtain rfl := List.mem_singleton.mp hmem
    refine .object (List.pairwise_pair.mpr (by decide)) fun part hpart => ?_
    rcases List.mem_cons.mp hpart with rfl | hpart
    · exact .array fun item hitem => List.mem_singleton.mp hitem ▸ .string _
    · obtain rfl := List.mem_singleton.mp hpart
      exact .string _
  have hlong : pathOf "book.title.short.first" = ["book", "title", "short", "first"] := by cbv
  have htags : pathOf "book.tags" = ["book", "tags"] := by cbv
  have hblocked : Blocked (pathOf "book.title.short.first") sampleBook := by
    rw [hlong]
    exact ⟨["book", "title"], string "Dune", by decide, by decide, by cbv, rfl⟩
  have hold : sampleBook.at? (pathOf "book.tags") = some (array [string "old"]) := by
    rw [htags]
    cbv
  have hfree : ¬ Blocked (pathOf "book.tags") sampleBook := by
    intro hblocked
    rw [at?_of_blocked hblocked] at hold
    simp at hold
  obtain ⟨hnothing, -, -⟩ := assignment_all_or_nothing "book.title.short.first" (string "D") hwell
  obtain ⟨-, hlands, hframe⟩ := assignment_all_or_nothing "book.tags" (string "new") hwell
  obtain ⟨-, -, hbehind, -⟩ := hlands hfree
  have htitle := (hframe ["book", "title"] (by rw [htags]; decide) (by rw [htags]; decide)).2
  exact ⟨hwell, hblocked, (hnothing hblocked).1, hfree, hbehind _ hold, htitle⟩

end ServiceHost.Json.Members
