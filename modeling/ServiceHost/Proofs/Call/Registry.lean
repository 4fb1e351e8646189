import Mathlib.Data.Finset.Card
import ServiceHost.Call.Registry

/-!
# What the registry knows

A path has a handler from the first method that was registered under it on, and of several methods
with one path the last answers.  What a service adds is the paths of its methods.

A registry that was filled by registering services one after the other is the list of their methods:
it finds the last method of a path (`Registry.find?_ofServices`), and it holds as many handlers as
there are paths (`Registry.size_ofServices`).
-/

namespace ServiceHost

/-- Whether a service has a method of this path. -/
def Service.HasPath (service : Service) (path : String) : Prop :=
  ∃ method ∈ service.methods, method.path = path

namespace Registry

variable (registry : Registry) (path : String) (handler : Handler)

@[simp] theorem find?_insert_self :
    (registry.insert path handler).find? path = some handler := by
  have hgone : (registry.handlers.filter (·.1 != path)).find? (·.1 == path) = none := by
    simp [List.find?_eq_none]
  simp only [find?, insert, List.find?_append, hgone]
  simp

/-- The frame of an insertion. -/
theorem find?_insert_of_ne {path other : String} (h : path ≠ other) :
    (registry.insert path handler).find? other = registry.find? other := by
  have hkept : (registry.handlers.filter (·.1 != path)).find? (·.1 == other) =
      registry.handlers.find? (·.1 == other) := by
    rw [List.find?_filter]
    congr 1
    funext entry
    by_cases hentry : entry.1 = other
    · simp [hentry, Ne.symm h]
    · simp [hentry]
  simp [find?, insert, List.find?_append, hkept, h]

theorem has_insert (other : String) :
    (registry.insert path handler).has other = true ↔
      path = other ∨ registry.has other = true := by
  by_cases h : path = other
  · subst h
    simp [has]
  · simp [has, find?_insert_of_ne registry handler h, h]

/-- Registering a service is registering its methods in order; the rest is reports. -/
theorem add_fst (service : Service) :
    (registry.add service).1 =
      service.methods.foldl (fun registry method => registry.insert method.path method.handler)
        registry :=
  (List.foldl_hom Prod.fst fun _ _ => rfl).symm

/-- **What a service adds**: the paths of its methods, and nothing else. -/
theorem has_add (service : Service) :
    (registry.add service).1.has path = true ↔
      registry.has path = true ∨ service.HasPath path := by
  rw [add_fst, Service.HasPath]
  induction service.methods generalizing registry with
  | nil => simp
  | cons method rest ih =>
      rw [List.foldl_cons, ih, has_insert]
      simp only [List.mem_cons, exists_eq_or_imp, or_left_comm, or_assoc]

/-! ## Histories -/

/-- The registry to which these methods were added, one after the other. -/
def insertAll (registry : Registry) (methods : List Method) : Registry :=
  methods.foldl (fun registry method => registry.insert method.path method.handler) registry

/-- The registry of these services, registered one after the other. -/
def ofServices (services : List Service) : Registry :=
  services.foldl (fun registry service => (registry.add service).1) {}

/-- The method that was registered last under a path. -/
def lastMethod? (services : List Service) (path : String) : Option Method :=
  (services.flatMap (·.methods)).reverse.find? (·.path == path)

theorem ofServices_eq (services : List Service) :
    ofServices services = insertAll {} (services.flatMap (·.methods)) := by
  rw [ofServices, insertAll, List.foldl_flatMap]
  congr 1
  funext registry service
  exact add_fst registry service

theorem find?_insertAll (methods : List Method) :
    (registry.insertAll methods).find? path =
      ((methods.reverse.find? (·.path == path)).map (·.handler)).or (registry.find? path) := by
  induction methods generalizing registry with
  | nil => rfl
  | cons method rest ih =>
      rw [insertAll, List.foldl_cons, ← insertAll, ih, List.reverse_cons, List.find?_append]
      by_cases hpath : method.path = path
      · subst hpath
        rw [find?_insert_self]
        cases rest.reverse.find? (·.path == method.path) <;> simp
      · rw [find?_insert_of_ne registry _ hpath]
        cases rest.reverse.find? (·.path == path) <;> simp [hpath]

/-- **Of several methods with one path the last answers.** -/
theorem find?_ofServices (services : List Service) :
    (ofServices services).find? path = (lastMethod? services path).map (·.handler) := by
  rw [ofServices_eq, find?_insertAll, lastMethod?]
  exact Option.or_none

theorem lastMethod?_isSome_iff (services : List Service) :
    (lastMethod? services path).isSome ↔ ∃ service ∈ services, service.HasPath path := by
  simp only [lastMethod?, List.find?_isSome, List.mem_reverse, List.mem_flatMap, beq_iff_eq,
    Service.HasPath]
  constructor
  · rintro ⟨method, ⟨service, hservice, hmethod⟩, hpath⟩
    exact ⟨service, hservice, method, hmethod, hpath⟩
  · rintro ⟨service, hservice, method, hmethod, hpath⟩
    exact ⟨method, ⟨service, hservice, hmethod⟩, hpath⟩

/-- **A registry knows the paths that were registered.** -/
theorem has_ofServices (services : List Service) :
    (ofServices services).has path = true ↔ ∃ service ∈ services, service.HasPath path := by
  rw [has, find?_ofServices, Option.isSome_map, lastMethod?_isSome_iff]

theorem paths_insert : (registry.insert path handler).paths =
    registry.paths.filter (· != path) ++ [path] := by
  simp [paths, insert, List.filter_map, Function.comp_def]

theorem nodup_paths_insertAll (methods : List Method) (hnodup : registry.paths.Nodup) :
    (registry.insertAll methods).paths.Nodup := by
  induction methods generalizing registry with
  | nil => exact hnodup
  | cons method rest ih =>
      refine ih (registry.insert method.path method.handler) ?_
      rw [paths_insert, ← List.concat_eq_append]
      exact (hnodup.filter _).concat (by simp)

theorem toFinset_paths_insertAll (methods : List Method) :
    (registry.insertAll methods).paths.toFinset =
      registry.paths.toFinset ∪ (methods.map (·.path)).toFinset := by
  induction methods generalizing registry with
  | nil => simp [insertAll]
  | cons method rest ih =>
      rw [insertAll, List.foldl_cons, ← insertAll, ih, paths_insert]
      ext path
      by_cases hpath : path = method.path <;> simp [hpath]

/-- **A registry holds one handler for every path.** -/
theorem size_ofServices (services : List Service) :
    (ofServices services).size =
      ((services.flatMap (·.methods)).map (·.path)).toFinset.card := by
  have hnodup : (ofServices services).paths.Nodup := by
    rw [ofServices_eq]
    exact nodup_paths_insertAll {} _ List.nodup_nil
  have hsize : (ofServices services).size = (ofServices services).paths.length :=
    (List.length_map _).symm
  rw [hsize, ← List.toFinset_card_of_nodup hnodup, ofServices_eq, toFinset_paths_insertAll]
  simp [paths]

/-! ## Calls -/

/-- What a handler's outcome is to its caller. -/
def resultOf : Outcome → Except Status (Json × Headers)
  | .reply message metadata => .ok (message, metadata)
  | .failed status => .error status
  | .broken _ => .error internalError

theorem dispatch_fst (request : Request) :
    (registry.dispatch path request).1 =
      match registry.find? path with
      | none => .error (unknownMethod path)
      | some handler => resultOf (handler request) := by
  rw [dispatch]
  cases registry.find? path with
  | none => rfl
  | some handler =>
      simp only
      cases handler request <;> rfl

end Registry

end ServiceHost
