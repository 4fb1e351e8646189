import ServiceHost.Http.Headers

/-!
# The values of a name

Header fields are told apart by the values of their names, in order: gathering the values of a name,
selecting fields by name and replacing fields are each what they do to these (`valuesOf_ofList`,
`valuesOf_filter`, `valuesOf_replace`).
-/

namespace ServiceHost.Headers

variable (name : String) (headers more : Headers)

@[simp] theorem valuesOf_nil : valuesOf name [] = [] := rfl

theorem valuesOf_cons (header : Header) :
    valuesOf name (header :: headers) =
      if header.name = name then header.value :: valuesOf name headers
      else valuesOf name headers := by
  by_cases h : header.name = name <;> simp [valuesOf, h]

theorem valuesOf_concat : valuesOf name (headers ++ more) =
    valuesOf name headers ++ valuesOf name more := by
  simp [valuesOf]

theorem first?_eq_head? : first? name headers = (valuesOf name headers).head? := by
  rw [first?, valuesOf, List.head?_map, List.head?_filter]

theorem valuesOf_eq_nil_of_all (h : headers.all (·.name != name) = true) :
    valuesOf name headers = [] := by
  simp_all [valuesOf]

/-- A value is put behind the other values of its name. -/
theorem valuesOf_append (header : Header) :
    valuesOf name (append header headers) = valuesOf name (headers ++ [header]) := by
  induction headers with
  | nil => rfl
  | cons first rest ih =>
      rw [append]
      split
      · rename_i hlast
        obtain ⟨hfirst, hrest⟩ : first.name = header.name ∧
            rest.all (·.name != header.name) = true := by simpa using hlast
        rw [List.cons_append, valuesOf_cons, valuesOf_cons, valuesOf_cons, valuesOf_concat,
          valuesOf_cons, valuesOf_nil]
        by_cases hname : header.name = name
        · rw [hname] at hrest
          simp [hname, hfirst, valuesOf_eq_nil_of_all name rest hrest]
        · simp [hname]
      · rw [List.cons_append, valuesOf_cons, valuesOf_cons, ih]

/-- **Gathering keeps the values of every name, in order.** -/
@[simp] theorem valuesOf_ofList : valuesOf name (ofList headers) = valuesOf name headers := by
  have hfold : ∀ known : Headers,
      valuesOf name (headers.foldl (fun known header => append header known) known) =
        valuesOf name (known ++ headers) := by
    induction headers with
    | nil => simp
    | cons header rest ih =>
        intro known
        rw [List.foldl_cons, ih, valuesOf_concat, valuesOf_append, ← valuesOf_concat,
          List.append_assoc, List.singleton_append]
  exact hfold []

/-- **Selecting fields by name** keeps all values of a name or none. -/
theorem valuesOf_filter (p : String → Bool) :
    valuesOf name (headers.filter fun h => p h.name) =
      if p name then valuesOf name headers else [] := by
  induction headers with
  | nil => simp
  | cons header rest ih =>
      by_cases hname : header.name = name
      · cases hp : p name <;> simp_all [valuesOf_cons]
      · cases hp : p header.name <;> simp_all [valuesOf_cons]

theorem valuesOf_without (names : List String) :
    valuesOf name (headers.without names) =
      if names.contains name then [] else valuesOf name headers := by
  rw [without, valuesOf_filter name headers (fun n => !names.contains n)]
  cases names.contains name <;> rfl

/-- **Replacing**: a name has the new values where there are any, and its own otherwise. -/
theorem valuesOf_replace :
    valuesOf name (headers.replace more) =
      if valuesOf name more = [] then valuesOf name headers else valuesOf name more := by
  rw [replace, valuesOf_ofList, valuesOf_concat,
    valuesOf_filter name headers (fun n => more.all (·.name != n))]
  by_cases hnone : valuesOf name more = []
  · have hall : more.all (·.name != name) = true := by simpa [valuesOf] using hnone
    rw [hall, if_pos rfl, if_pos hnone, hnone, List.append_nil]
  · have hall : more.all (·.name != name) = false := by
      rw [← Bool.not_eq_true]
      exact fun h => hnone (valuesOf_eq_nil_of_all name more h)
    rw [hall, if_neg (by simp), if_neg hnone, List.nil_append]

end ServiceHost.Headers
