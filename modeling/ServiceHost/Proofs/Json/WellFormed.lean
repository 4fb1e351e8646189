import ServiceHost.Proofs.Json.Assignment
import ServiceHost.Proofs.Json.Numbers

/-!
# Well-formed values

A value is well formed for a property of numbers if the members of its objects are sorted and its
numbers have the property.  What is read is well formed for the integers of 64 bits
(`wellFormed_read?`), and putting a well-formed value at the end of a path keeps an object so
(`WellFormed.update`).
-/

namespace ServiceHost.Json

mutual

/-- How deeply arrays and objects nest in a value. -/
def depth : Json → Nat
  | array items => depthOfItems items + 1
  | object members => depthOfMembers members + 1
  | _ => 0

/-- The depth of the deepest item. -/
def depthOfItems : List Json → Nat
  | [] => 0
  | item :: rest => max (depth item) (depthOfItems rest)

/-- The depth of the deepest member. -/
def depthOfMembers : List (String × Json) → Nat
  | [] => 0
  | (_, value) :: rest => max (depth value) (depthOfMembers rest)

end

mutual

/-- The numbers in a value, in the order of its text. -/
def numbers : Json → List Number
  | number n => [n]
  | array items => numbersOfItems items
  | object members => numbersOfMembers members
  | _ => []

/-- The numbers in the items of an array. -/
def numbersOfItems : List Json → List Number
  | [] => []
  | item :: rest => numbers item ++ numbersOfItems rest

/-- The numbers in the members of an object. -/
def numbersOfMembers : List (String × Json) → List Number
  | [] => []
  | (_, value) :: rest => numbers value ++ numbersOfMembers rest

end

/-- The keys of members stand in increasing order. -/
def Members.Sorted (members : Members) : Prop :=
  members.Pairwise fun member other => member.1 < other.1

/-- A value with sorted members in all its objects, and only numbers with a property. -/
inductive WellFormed (P : Number → Prop) : Json → Prop
  | null : WellFormed P null
  | bool (value : Bool) : WellFormed P (bool value)
  | number {n : Number} (h : P n) : WellFormed P (number n)
  | string (text : String) : WellFormed P (string text)
  | array {items : List Json} (h : ∀ item ∈ items, WellFormed P item) : WellFormed P (array items)
  | object {members : Members} (hsorted : members.Sorted)
      (h : ∀ member ∈ members, WellFormed P member.2) : WellFormed P (object members)

variable {P Q : Number → Prop}

theorem mem_numbersOfItems {n : Number} {items : List Json} :
    n ∈ numbersOfItems items ↔ ∃ item ∈ items, n ∈ item.numbers := by
  induction items with
  | nil => simp [numbersOfItems]
  | cons item items ih => simp [numbersOfItems, ih]

theorem mem_numbersOfMembers {n : Number} {members : Members} :
    n ∈ numbersOfMembers members ↔ ∃ member ∈ members, n ∈ member.2.numbers := by
  induction members with
  | nil => simp [numbersOfMembers]
  | cons member members ih =>
      obtain ⟨key, value⟩ := member
      simp [numbersOfMembers, ih]

/-- The numbers of a value have the property. -/
theorem WellFormed.of_mem_numbers {value : Json} (h : WellFormed P value) {n : Number}
    (hn : n ∈ value.numbers) : P n := by
  induction h with
  | null => cases hn
  | bool value => cases hn
  | string text => cases hn
  | number h => exact List.mem_singleton.mp hn ▸ h
  | array h ih =>
      obtain ⟨item, hmem, hn⟩ := mem_numbersOfItems.mp hn
      exact ih item hmem hn
  | object hsorted h ih =>
      obtain ⟨member, hmem, hn⟩ := mem_numbersOfMembers.mp hn
      exact ih member hmem hn

/-- The property may change to any other that the numbers of the value have. -/
theorem WellFormed.imp {value : Json} (h : WellFormed P value)
    (himp : ∀ n ∈ value.numbers, P n → Q n) : WellFormed Q value := by
  induction h with
  | null => exact .null
  | bool value => exact .bool value
  | string text => exact .string text
  | number hn => exact .number (himp _ (by simp [numbers]) hn)
  | array h ih =>
      refine .array fun item hmem => ih item hmem fun n hn => himp n ?_
      exact mem_numbersOfItems.mpr ⟨item, hmem, hn⟩
  | object hsorted h ih =>
      refine .object hsorted fun member hmem => ih member hmem fun n hn => himp n ?_
      exact mem_numbersOfMembers.mpr ⟨member, hmem, hn⟩

/-! ## Members -/

theorem Members.mem_insert {key : String} {value : Json} {members : Members}
    {member : String × Json} (h : member ∈ members.insert key value) :
    member = (key, value) ∨ member ∈ members := by
  fun_induction Members.insert key value members <;> grind

theorem Members.sorted_insert {key : String} {value : Json} {members : Members}
    (h : members.Sorted) : (members.insert key value).Sorted := by
  unfold Members.Sorted at h ⊢
  fun_induction Members.insert key value members with
  | case1 => exact List.pairwise_singleton _ _
  | case2 k v rest hlt =>
      refine List.pairwise_cons.mpr ⟨?_, h⟩
      intro member hmem
      rcases List.mem_cons.mp hmem with rfl | hmem
      · exact hlt
      · exact String.lt_trans hlt ((List.pairwise_cons.mp h).1 member hmem)
  | case3 v rest hnot => exact List.pairwise_cons.mpr (List.pairwise_cons.mp h)
  | case4 k v rest hnot hne ih =>
      obtain ⟨hfirst, hrest⟩ := List.pairwise_cons.mp h
      refine List.pairwise_cons.mpr ⟨?_, ih hrest⟩
      intro member hmem
      rcases mem_insert hmem with rfl | hmem
      · exact Std.lt_of_le_of_ne (String.not_lt.mp hnot) (Ne.symm hne)
      · exact hfirst member hmem

theorem Members.mem_of_get? {key : String} {value : Json} {members : Members}
    (h : members.get? key = some value) : (key, value) ∈ members := by
  fun_induction Members.get? key members <;> grind

theorem wellFormed_empty : WellFormed P (.object []) :=
  .object List.Pairwise.nil (by simp)

theorem WellFormed.insert {key : String} {value : Json} {members : Members}
    (h : WellFormed P (.object members)) (hvalue : WellFormed P value) :
    WellFormed P (.object (members.insert key value)) := by
  cases h with
  | object hsorted hmembers =>
      refine .object (Members.sorted_insert hsorted) fun member hmem => ?_
      rcases Members.mem_insert hmem with rfl | hmem
      · exact hvalue
      · exact hmembers member hmem

theorem WellFormed.get? {key : String} {value : Json} {members : Members}
    (h : WellFormed P (.object members)) (hvalue : members.get? key = some value) :
    WellFormed P value := by
  cases h with
  | object _ hmembers => exact hmembers _ (Members.mem_of_get? hvalue)

/-- **Putting a value at the end of a path keeps an object well formed.** -/
theorem WellFormed.update {make : Option Json → Json} {path : List String} {members : Members}
    (h : WellFormed P (.object members))
    (hmake : ∀ found : Option Json, (∀ value, found = some value → WellFormed P value) →
      WellFormed P (make found)) :
    WellFormed P (.object (members.update make path)) := by
  fun_induction Members.update make path members with
  | case1 members => exact h
  | case2 key members => exact h.insert (hmake _ fun value hvalue => h.get? hvalue)
  | case3 key next rest members inner hinner ih => exact h.insert (ih (h.get? hinner))
  | case4 key next rest members value hother hvalue => exact h
  | case5 key next rest members hmissing ih => exact h.insert (ih wellFormed_empty)

theorem WellFormed.assign {path : List String} {value : Json} {members : Members}
    (h : WellFormed P (.object members)) (hvalue : WellFormed P value) :
    WellFormed P (.object (members.assign path value)) :=
  h.update fun _ _ => hvalue

theorem WellFormed.append {path : List String} {value : Json} {members : Members}
    (h : WellFormed P (.object members)) (hvalue : WellFormed P value) :
    WellFormed P (.object (members.append path value)) := by
  refine h.update fun found hfound => ?_
  cases found with
  | none => exact hvalue
  | some first =>
      have hfirst := hfound first rfl
      unfold Members.joined
      split
      · exact hvalue
      · rename_i items heq
        obtain rfl := Option.some.inj heq
        cases hfirst with
        | array hitems =>
            refine .array fun item hmem => ?_
            rcases List.mem_append.mp hmem with hmem | hmem
            · exact hitems item hmem
            · exact List.mem_singleton.mp hmem ▸ hvalue
      · rename_i other heq
        obtain rfl := Option.some.inj heq
        refine .array fun item hmem => ?_
        rcases List.mem_cons.mp hmem with rfl | hmem
        · exact hfirst
        · exact List.mem_singleton.mp hmem ▸ hvalue

/-! ## Reading -/

theorem wellFormed_takeScalar {text left : Rest} {value : Json}
    (h : takeScalar text = some (value, left)) : WellFormed Number.Fits value := by
  rcases takeScalar_cases h with rfl | ⟨b, rfl⟩ | ⟨text, rfl⟩ | ⟨n, rfl, hread⟩
  · exact .null
  · exact .bool b
  · exact .string text
  · rcases hread with hread | ⟨digits, -, hread⟩
    · exact .number (fits_of_takeNumber hread)
    · exact .number (fits_of_takeNumber hread)

/-- With some fuel, what the three functions of the reader give is well formed. -/
structure ReadsWellFormed (fuel : Nat) : Prop where
  value : ∀ {room input value rest}, takeValue fuel room input = some (value, rest) →
    WellFormed Number.Fits value
  items : ∀ {room done input value rest}, (∀ item ∈ done, WellFormed Number.Fits item) →
    takeItems fuel room done input = some (value, rest) → WellFormed Number.Fits value
  members : ∀ {room done input value rest}, WellFormed Number.Fits (object done) →
    takeMembers fuel room done input = some (value, rest) → WellFormed Number.Fits value

namespace ReadsWellFormed

variable {fuel room : Nat} {input rest : Rest} {value : Json} (hreads : ReadsWellFormed fuel)

include hreads

theorem value_succ (h : takeValue (fuel + 1) room input = some (value, rest)) :
    WellFormed Number.Fits value := by
  rw [takeValue] at h
  split at h
  · split at h
    · cases h
    · split at h
      · cases h
        exact .array (by simp)
      · exact hreads.items (by simp) h
  · split at h
    · cases h
    · split at h
      · cases h
        exact wellFormed_empty
      · exact hreads.members wellFormed_empty h
  · exact wellFormed_takeScalar h

theorem items_succ {done : List Json} (hdone : ∀ item ∈ done, WellFormed Number.Fits item)
    (h : takeItems (fuel + 1) room done input = some (value, rest)) :
    WellFormed Number.Fits value := by
  rw [takeItems] at h
  split at h
  · cases h
  · rename_i item behind hitem
    have hall : ∀ other ∈ item :: done, WellFormed Number.Fits other := by
      intro other hmem
      rcases List.mem_cons.mp hmem with rfl | hmem
      · exact hreads.value hitem
      · exact hdone other hmem
    split at h
    · exact hreads.items hall h
    · cases h
      exact .array fun other hmem => hall other (List.mem_reverse.mp hmem)
    · cases h

theorem members_succ {done : Members} (hdone : WellFormed Number.Fits (object done))
    (h : takeMembers (fuel + 1) room done input = some (value, rest)) :
    WellFormed Number.Fits value := by
  rw [takeMembers] at h
  split at h
  · cases h
  rename_i key behindKey hkey
  split at h
  · cases h
  · rename_i member behind hmember
    have hall : WellFormed Number.Fits (object (Members.insert key member done)) :=
      hdone.insert (hreads.value hmember)
    split at h
    · exact hreads.members hall h
    · cases h
      exact hall
    · cases h

end ReadsWellFormed

theorem readsWellFormed (fuel : Nat) : ReadsWellFormed fuel := by
  induction fuel with
  | zero => constructor <;> simp [takeValue, takeItems, takeMembers]
  | succ fuel ih => exact ⟨ih.value_succ, ih.items_succ, ih.members_succ⟩

/-- **What is read is well formed.** -/
theorem wellFormed_read? {octets : Octets} {value : Json} (h : read? octets = some value) :
    WellFormed Number.Fits value := by
  obtain ⟨input, -, hread⟩ := Option.bind_eq_some_iff.mp h
  unfold readChars? at hread
  split at hread
  · rename_i found rest htake
    split at hread
    · cases hread
      exact (readsWellFormed _).value htake
    · cases hread
  · cases hread

end ServiceHost.Json
