import ServiceHost.Json.Path

/-!
# What an assignment changes

A path into an object ends at a leaf, at an object or nowhere, and `leaf?` sees only the first.
Assigning along one path leaves the leaves of every path alone that does not go on from it
(`leaf?_update`), and everything that stands off the path (`at?_update_of_unrelated`).  The value lands
unless a strict beginning of its path holds something else than an object (`at?_update`), and then the
path still leads nowhere (`at?_of_blocked`).
-/

namespace ServiceHost.Json

/-- Whether a value is an object. -/
def isObject : Json → Bool
  | object _ => true
  | _ => false

/-- The value at the end of a path, unless it is an object. -/
def leaf? (path : List String) (value : Json) : Option Json :=
  (value.at? path).filter fun found => !found.isObject

namespace Members

/-- Whether something else than an object stands at a strict beginning of a path. -/
def Blocked (path : List String) (members : Members) : Prop :=
  ∃ front value, front <+: path ∧ front ≠ path ∧ members.at? front = some value ∧
    value.isObject = false

/-! ## One level -/

@[simp] theorem get?_insert_self (key : String) (value : Json) (members : Members) :
    (members.insert key value).get? key = some value := by
  fun_induction insert key value members <;> grind [get?]

theorem get?_insert_of_ne {key other : String} (hne : other ≠ key) (value : Json)
    (members : Members) : (members.insert key value).get? other = members.get? other := by
  fun_induction insert key value members <;> grind [get?]

end Members

/-! ## Walking down -/

@[simp] theorem at?_object_cons (key : String) (rest : List String) (members : Members) :
    (object members).at? (key :: rest) = (members.get? key).bind (at? rest) := rfl

/-- A path goes on where its beginning leads to. -/
theorem at?_append (front behind : List String) (value : Json) :
    value.at? (front ++ behind) = (value.at? front).bind (at? behind) := by
  induction front generalizing value with
  | nil => rfl
  | cons key rest ih =>
      simp only [List.cons_append, at?]
      cases value.get? key with
      | none => rfl
      | some found => exact ih found

/-- No path goes on from anything else than an object. -/
theorem at?_cons_of_not_object {value : Json} (h : value.isObject = false) (key : String)
    (rest : List String) : value.at? (key :: rest) = none := by
  cases value with
  | object members => simp [isObject] at h
  | _ => rfl

theorem leaf?_object_cons (key : String) (rest : List String) (members : Members) :
    (object members).leaf? (key :: rest) = (members.get? key).bind (leaf? rest) := by
  unfold leaf?
  rw [at?_object_cons]
  cases members.get? key <;> rfl

theorem leaf?_empty (path : List String) : (object []).leaf? path = none := by
  cases path <;> rfl

theorem leaf?_eq_some_iff {path : List String} {value found : Json} :
    value.leaf? path = some found ↔ value.at? path = some found ∧ found.isObject = false := by
  simp [leaf?, Option.filter_eq_some_iff]

namespace Members

theorem blocked_iff_leaf {path : List String} {members : Members} :
    Blocked path members ↔
      ∃ front value, front <+: path ∧ front ≠ path ∧ (object members).leaf? front = some value := by
  simp only [Blocked, leaf?_eq_some_iff, at?]

/-- **The frame of an assignment**: the leaf of a path that does not go on from the assigned one is
what it was. -/
theorem leaf?_update (make : Option Json → Json) {path other : List String}
    (h : ¬ path <+: other) (members : Members) :
    (object (members.update make path)).leaf? other = (object members).leaf? other := by
  fun_induction update make path members generalizing other with
  | case1 members => simp at h
  | case2 key members =>
      cases other with
      | nil => rfl
      | cons first others =>
          have hne : first ≠ key := by
            rintro rfl
            simp at h
          rw [leaf?_object_cons, leaf?_object_cons, get?_insert_of_ne hne]
  | case3 key next rest members inner hinner ih =>
      cases other with
      | nil => rfl
      | cons first others =>
          rw [leaf?_object_cons, leaf?_object_cons]
          by_cases hfirst : first = key
          · subst hfirst
            rw [get?_insert_self, hinner]
            exact ih (by simpa using h)
          · rw [get?_insert_of_ne hfirst]
  | case4 key next rest members value hother hvalue => rfl
  | case5 key next rest members hmissing ih =>
      cases other with
      | nil => rfl
      | cons first others =>
          rw [leaf?_object_cons, leaf?_object_cons]
          by_cases hfirst : first = key
          · subst hfirst
            rw [get?_insert_self, hmissing, Option.bind_some, ih (by simpa using h)]
            exact leaf?_empty others
          · rw [get?_insert_of_ne hfirst]

/-- **The frame for whole values**: a path that neither goes on from the assigned one nor lies on the way
to it leads where it led. -/
theorem at?_update_of_unrelated (make : Option Json → Json) {path other : List String}
    (hon : ¬ path <+: other) (hway : ¬ other <+: path) (members : Members) :
    (members.update make path).at? other = members.at? other := by
  simp only [at?]
  fun_induction update make path members generalizing other with
  | case1 members => simp at hon
  | case2 key members =>
      cases other with
      | nil => simp at hway
      | cons first others =>
          have hne : first ≠ key := by
            rintro rfl
            simp at hon
          rw [at?_object_cons, at?_object_cons, get?_insert_of_ne hne]
  | case3 key next rest members inner hinner ih =>
      cases other with
      | nil => simp at hway
      | cons first others =>
          rw [at?_object_cons, at?_object_cons]
          by_cases hfirst : first = key
          · subst hfirst
            rw [get?_insert_self, hinner]
            exact ih (by simpa using hon) (by simpa using hway)
          · rw [get?_insert_of_ne hfirst]
  | case4 key next rest members value hother hvalue => rfl
  | case5 key next rest members hmissing ih =>
      cases other with
      | nil => simp at hway
      | cons first others =>
          rw [at?_object_cons, at?_object_cons]
          by_cases hfirst : first = key
          · subst hfirst
            cases others with
            | nil => simp at hway
            | cons second others =>
                rw [get?_insert_self, hmissing, Option.bind_some,
                  ih (by simpa using hon) (by simpa using hway)]
                rfl
          · rw [get?_insert_of_ne hfirst]

/-- Whether a path is blocked does not depend on what is assigned along a path that it does not go
on from, or along itself. -/
theorem blocked_update (make : Option Json → Json) {path other : List String}
    (h : path <+: other → path = other) (members : Members) :
    Blocked other (members.update make path) ↔ Blocked other members := by
  have hfront : ∀ front, front <+: other → front ≠ other →
      (object (members.update make path)).leaf? front = (object members).leaf? front := by
    intro front hfront hne
    apply leaf?_update
    intro hpath
    have hother := h (hpath.trans hfront)
    subst hother
    exact hne (hfront.eq_of_length (Nat.le_antisymm hfront.length_le hpath.length_le))
  simp only [blocked_iff_leaf]
  constructor
  · rintro ⟨front, value, hprefix, hne, hleaf⟩
    exact ⟨front, value, hprefix, hne, by rw [← hfront front hprefix hne, hleaf]⟩
  · rintro ⟨front, value, hprefix, hne, hleaf⟩
    exact ⟨front, value, hprefix, hne, by rw [hfront front hprefix hne, hleaf]⟩

/-- A blocked path leads nowhere. -/
theorem at?_of_blocked {path : List String} {members : Members} (h : Blocked path members) :
    members.at? path = none := by
  obtain ⟨front, value, ⟨behind, rfl⟩, hne, hvalue, hother⟩ := h
  rw [at?] at hvalue ⊢
  rw [at?_append, hvalue, Option.bind_some]
  cases behind with
  | nil => simp at hne
  | cons key rest => exact at?_cons_of_not_object hother key rest

/-- Nothing stands in the way in an empty object. -/
theorem not_blocked_nil (path : List String) : ¬ Blocked path [] := by
  rw [blocked_iff_leaf]
  rintro ⟨front, value, -, -, hleaf⟩
  simp [leaf?_empty] at hleaf

/-- What blocks the rest of a path blocks the whole of it. -/
theorem Blocked.cons {key : String} {rest : List String} {members inner : Members}
    (hinner : members.get? key = some (object inner)) (h : Blocked rest inner) :
    Blocked (key :: rest) members := by
  obtain ⟨front, value, hfront, hne, hvalue, hother⟩ := h
  refine ⟨key :: front, value, by simpa using hfront, by simpa using hne, ?_, hother⟩
  rw [at?, at?_object_cons, hinner]
  exact hvalue

/-- Something else than an object blocks every path that goes on from its key. -/
theorem Blocked.head {key next : String} {rest : List String} {members : Members} {value : Json}
    (hvalue : members.get? key = some value) (hother : value.isObject = false) :
    Blocked (key :: next :: rest) members := by
  refine ⟨[key], value, ⟨next :: rest, rfl⟩, by simp, ?_, hother⟩
  rw [at?, at?_object_cons, hvalue]
  rfl

/-- **An assignment that is not blocked lands.** -/
theorem at?_update (make : Option Json → Json) {path : List String} (hne : path ≠ [])
    {members : Members} (h : ¬ Blocked path members) :
    (members.update make path).at? path = some (make (members.at? path)) := by
  simp only [at?]
  fun_induction update make path members with
  | case1 members => exact absurd rfl hne
  | case2 key members =>
      rw [at?_object_cons, get?_insert_self, at?_object_cons]
      cases members.get? key <;> rfl
  | case3 key next rest members inner hinner ih =>
      rw [at?_object_cons, get?_insert_self, at?_object_cons, hinner]
      exact ih (by simp) fun hblocked => h (hblocked.cons hinner)
  | case4 key next rest members value hother hvalue =>
      have hobject : value.isObject = false := by
        cases value with
        | object inner => exact (hother inner rfl).elim
        | _ => rfl
      exact absurd (Blocked.head hvalue hobject) h
  | case5 key next rest members hmissing ih =>
      rw [at?_object_cons, get?_insert_self, at?_object_cons, hmissing]
      exact ih (by simp) (not_blocked_nil _)

end Members

end ServiceHost.Json
