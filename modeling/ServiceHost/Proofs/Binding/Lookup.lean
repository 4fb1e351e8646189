import Mathlib.Data.List.Induction
import ServiceHost.Binding.Table

/-!
# What a lookup finds

A lookup looks at the routes whose template matches the path, and of those with the right method takes
the first that no other surpasses in literal segments (`RoutingTable.lookup_eq_found_iff`).  A table is
filled by adding rules, of which those with a malformed template leave no route.  So the answer is
told by the rules whose template matches the path, and by their order (`RoutingTable.lookup_finds_best`).
-/

namespace ServiceHost

/-- The route of a rule, if its template is well formed. -/
def Rule.route? (rule : Rule) (target : String) : Except TemplateError Route :=
  (Template.parse rule.template).map fun template =>
    { method := rule.method, template, target, body := rule.body }

/-- Whether the template of a rule is well formed and matches a path. -/
def Rule.reaches (path : String) (rule : Rule) : Bool :=
  match Template.parse rule.template with
  | .ok template => (template.match? path).isSome
  | .error _ => false

namespace Route

/-- Whether the template of a route matches a path. -/
def Matches (route : Route) (path : String) : Prop :=
  (route.template.match? path).isSome

/-- Whether a route is one of a method and a path. -/
def Answers (route : Route) (method path : String) : Prop :=
  route.method = method ∧ route.Matches path

end Route

namespace RoutingTable

/-! ## The first of the best -/

theorem mostLiteral?_concat (candidates : List Candidate) (last : Candidate) :
    mostLiteral? (candidates ++ [last]) =
      match mostLiteral? candidates with
      | none => some last
      | some best =>
        if best.1.template.literalCount < last.1.template.literalCount then some last
        else some best := by
  cases candidates with
  | nil => rfl
  | cons first rest =>
      simp only [mostLiteral?, List.cons_append, List.foldl_append, List.foldl_cons, List.foldl_nil]
      split <;> rfl

theorem mostLiteral?_eq_none_iff {candidates : List Candidate} :
    mostLiteral? candidates = none ↔ candidates = [] := by
  cases candidates <;> simp [mostLiteral?]

/-- How many literal segments the template of a candidate has. -/
def Candidate.literals (candidate : Candidate) : Nat :=
  candidate.1.template.literalCount

/-- Whether a list is cut at the first of its best candidates: everything in front of it has fewer
literal segments, and nothing behind it has more. -/
def CutAtBest (before : List Candidate) (best : Candidate) (behind : List Candidate) : Prop :=
  (∀ other ∈ before, other.literals < best.literals) ∧
    ∀ other ∈ behind, other.literals ≤ best.literals

theorem exists_cut_of_mostLiteral? {candidates : List Candidate} {best : Candidate}
    (h : mostLiteral? candidates = some best) :
    ∃ before behind, candidates = before ++ best :: behind ∧ CutAtBest before best behind := by
  -- the scan goes from the front, so the induction takes candidates off the end
  induction candidates using List.reverseRecOn generalizing best with
  | nil => cases h
  | append_singleton candidates last ih =>
      rw [mostLiteral?_concat] at h
      split at h
      · rename_i hnone
        obtain rfl := mostLiteral?_eq_none_iff.mp hnone
        obtain rfl := Option.some.inj h
        exact ⟨[], [], rfl, by simp [CutAtBest]⟩
      · rename_i first hfirst
        obtain ⟨before, behind, rfl, hbefore, hbehind⟩ := ih hfirst
        split at h
        · rename_i hlast
          obtain rfl := Option.some.inj h
          refine ⟨before ++ first :: behind, [], rfl, ?_, by simp⟩
          intro other hmem
          rcases List.mem_append.mp hmem with hmem | hmem
          · exact Nat.lt_trans (hbefore other hmem) hlast
          · rcases List.mem_cons.mp hmem with rfl | hmem
            · exact hlast
            · exact Nat.lt_of_le_of_lt (hbehind other hmem) hlast
        · rename_i hlast
          obtain rfl := Option.some.inj h
          refine ⟨before, behind ++ [last], by simp, hbefore, ?_⟩
          intro other hmem
          rcases List.mem_append.mp hmem with hmem | hmem
          · exact hbehind other hmem
          · rw [List.mem_singleton.mp hmem]
            exact Nat.le_of_not_lt hlast

theorem mostLiteral?_of_cut {before behind : List Candidate} {best : Candidate}
    (h : CutAtBest before best behind) : mostLiteral? (before ++ best :: behind) = some best := by
  obtain ⟨hbefore, hbehind⟩ := h
  induction behind using List.reverseRecOn with
  | nil =>
      rw [mostLiteral?_concat]
      cases hfirst : mostLiteral? before with
      | none => rfl
      | some first =>
          obtain ⟨_, _, rfl, -⟩ := exists_cut_of_mostLiteral? hfirst
          have hless := hbefore first (by simp)
          exact if_pos hless
  | append_singleton behind last ih =>
      have hlast := hbehind last (by simp)
      have hrest := ih fun other hmem => hbehind other (List.mem_append_left _ hmem)
      rw [← List.cons_append, ← List.append_assoc, mostLiteral?_concat, hrest]
      exact if_neg (Nat.not_lt.mpr hlast)

/-! ## Candidates -/

/-- The candidate that a route is for a method and a path, if it is one. -/
def answer? (method path : String) (route : Route) : Option Candidate :=
  ((route.template.match? path).map (route, ·)).filter fun c => c.1.method == method

theorem answer?_eq_some_iff {method path : String} {route : Route} {candidate : Candidate} :
    answer? method path route = some candidate ↔
      candidate.1 = route ∧ route.method = method ∧
        route.template.match? path = some candidate.2 := by
  obtain ⟨first, params⟩ := candidate
  rw [answer?, Option.filter_eq_some_iff, Option.map_eq_some_iff]
  constructor
  · rintro ⟨⟨_, hmatch, heq⟩, hmethod⟩
    cases heq
    exact ⟨rfl, by simpa using hmethod, hmatch⟩
  · rintro ⟨rfl, hmethod, hmatch⟩
    exact ⟨⟨params, hmatch, rfl⟩, by simpa using hmethod⟩

theorem answers_iff {method path : String} {route : Route} :
    route.Answers method path ↔ ∃ candidate, answer? method path route = some candidate := by
  simp only [answer?_eq_some_iff, Route.Answers, Route.Matches, Option.isSome_iff_exists]
  constructor
  · rintro ⟨hmethod, params, hmatch⟩
    exact ⟨(route, params), rfl, hmethod, hmatch⟩
  · rintro ⟨⟨_, params⟩, rfl, hmethod, hmatch⟩
    exact ⟨hmethod, params, hmatch⟩

/-- The candidates of a lookup, in order. -/
def served (table : RoutingTable) (method path : String) : List Candidate :=
  table.routes.filterMap (answer? method path)

theorem filter_candidates (table : RoutingTable) (method path : String) :
    (table.candidates path).filter (fun c => c.1.method == method) = table.served method path :=
  List.filter_filterMap

/-! ## Lookups -/

variable {table : RoutingTable} {method path : String}

theorem lookup_eq (table : RoutingTable) (method path : String) :
    table.lookup method path =
      match mostLiteral? (table.served method path) with
      | some (route, params) => .found route params
      | none => if table.candidates path = [] then .notFound else .methodNotAllowed := by
  simp only [lookup, filter_candidates]
  cases mostLiteral? (table.served method path) with
  | none => simp only [List.isEmpty_iff]
  | some best => rfl

theorem lookup_eq_found_iff_mostLiteral? {route : Route} {params : List (String × String)} :
    table.lookup method path = .found route params ↔
      mostLiteral? (table.served method path) = some (route, params) := by
  rw [lookup_eq]
  cases mostLiteral? (table.served method path) with
  | none => simp only [reduceCtorEq, iff_false]; split <;> simp
  | some best => simp [Prod.ext_iff]

/-- **The route that is found** is the first of those with most literal segments. -/
theorem lookup_eq_found_iff {route : Route} {params : List (String × String)} :
    table.lookup method path = .found route params ↔
      route.method = method ∧ route.template.match? path = some params ∧
      ∃ before behind, table.routes = before ++ route :: behind ∧
        (∀ other ∈ before, other.Answers method path →
          other.template.literalCount < route.template.literalCount) ∧
        ∀ other ∈ behind, other.Answers method path →
          other.template.literalCount ≤ route.template.literalCount := by
  rw [lookup_eq_found_iff_mostLiteral?]
  constructor
  · intro h
    obtain ⟨before, behind, hserved, hbefore, hbehind⟩ := exists_cut_of_mostLiteral? h
    obtain ⟨front, back, hroutes, hfront, hback⟩ := List.filterMap_eq_append_iff.mp hserved
    obtain ⟨skipped, found, rest, rfl, hskipped, hfound, hrest⟩ :=
      List.filterMap_eq_cons_iff.mp hback
    obtain ⟨rfl, hmethod, hmatch⟩ := answer?_eq_some_iff.mp hfound
    refine ⟨hmethod, hmatch, front ++ skipped, rest, by simp [hroutes], ?_, ?_⟩
    · intro other hmem hanswers
      obtain ⟨candidate, hcandidate⟩ := answers_iff.mp hanswers
      rcases List.mem_append.mp hmem with hmem | hmem
      · have hless := hbefore candidate (hfront ▸ List.mem_filterMap.mpr ⟨other, hmem, hcandidate⟩)
        rwa [Candidate.literals, (answer?_eq_some_iff.mp hcandidate).1] at hless
      · rw [hskipped other hmem] at hcandidate
        cases hcandidate
    · intro other hmem hanswers
      obtain ⟨candidate, hcandidate⟩ := answers_iff.mp hanswers
      have hless := hbehind candidate (hrest ▸ List.mem_filterMap.mpr ⟨other, hmem, hcandidate⟩)
      rwa [Candidate.literals, (answer?_eq_some_iff.mp hcandidate).1] at hless
  · rintro ⟨hmethod, hmatch, before, behind, hroutes, hbefore, hbehind⟩
    have hroute : answer? method path route = some (route, params) :=
      answer?_eq_some_iff.mpr ⟨rfl, hmethod, hmatch⟩
    rw [served, hroutes, List.filterMap_append, List.filterMap_cons_some hroute]
    refine mostLiteral?_of_cut ⟨?_, ?_⟩
    · intro candidate hmem
      obtain ⟨other, hother, hcandidate⟩ := List.mem_filterMap.mp hmem
      rw [Candidate.literals, (answer?_eq_some_iff.mp hcandidate).1]
      exact hbefore other hother (answers_iff.mpr ⟨candidate, hcandidate⟩)
    · intro candidate hmem
      obtain ⟨other, hother, hcandidate⟩ := List.mem_filterMap.mp hmem
      rw [Candidate.literals, (answer?_eq_some_iff.mp hcandidate).1]
      exact hbehind other hother (answers_iff.mpr ⟨candidate, hcandidate⟩)

/-- **A route that is found is a route of the table.** -/
theorem mem_of_lookup {route : Route} {params : List (String × String)}
    (h : table.lookup method path = .found route params) : route ∈ table.routes := by
  obtain ⟨-, -, before, behind, hroutes, -⟩ := lookup_eq_found_iff.mp h
  rw [hroutes]
  exact List.mem_append_right _ List.mem_cons_self

theorem candidates_eq_nil_iff :
    table.candidates path = [] ↔ ∀ route ∈ table.routes, ¬ route.Matches path := by
  simp [candidates, List.filterMap_eq_nil_iff, Route.Matches]

theorem served_eq_nil_iff :
    table.served method path = [] ↔ ∀ route ∈ table.routes, ¬ route.Answers method path := by
  simp only [served, List.filterMap_eq_nil_iff, answers_iff, ← Option.isSome_iff_exists,
    Bool.not_eq_true, Option.isSome_eq_false_iff, Option.isNone_iff_eq_none]

/-- Without a route for the method it counts whether there is one for the path. -/
theorem lookup_of_served_eq_nil (h : table.served method path = []) :
    table.lookup method path =
      if table.candidates path = [] then .notFound else .methodNotAllowed := by
  rw [lookup_eq, h]
  rfl

theorem exists_found_of_served_ne_nil (h : table.served method path ≠ []) :
    ∃ route params, table.lookup method path = .found route params := by
  obtain ⟨best, hbest⟩ := Option.ne_none_iff_exists'.mp (mt mostLiteral?_eq_none_iff.mp h)
  exact ⟨best.1, best.2, lookup_eq_found_iff_mostLiteral?.mpr hbest⟩

theorem exists_found_iff :
    (∃ route params, table.lookup method path = .found route params) ↔
      ∃ route ∈ table.routes, route.Answers method path := by
  constructor
  · rintro ⟨route, params, h⟩
    obtain ⟨hmethod, hmatch, -⟩ := lookup_eq_found_iff.mp h
    exact ⟨route, mem_of_lookup h, hmethod, by simp [Route.Matches, hmatch]⟩
  · rintro ⟨route, hmem, hanswers⟩
    exact exists_found_of_served_ne_nil fun hnil => served_eq_nil_iff.mp hnil route hmem hanswers

theorem lookup_eq_notFound_iff :
    table.lookup method path = .notFound ↔ ∀ route ∈ table.routes, ¬ route.Matches path := by
  by_cases hserved : table.served method path = []
  · rw [lookup_of_served_eq_nil hserved, ← candidates_eq_nil_iff]
    split <;> simp_all
  · obtain ⟨route, params, hfound⟩ := exists_found_of_served_ne_nil hserved
    obtain ⟨other, hmem, hanswers⟩ := exists_found_iff.mp ⟨route, params, hfound⟩
    rw [hfound]
    exact iff_of_false (by simp) fun hnone => hnone other hmem hanswers.2

theorem lookup_eq_methodNotAllowed_iff :
    table.lookup method path = .methodNotAllowed ↔
      (∃ route ∈ table.routes, route.Matches path) ∧
        ∀ route ∈ table.routes, route.Matches path → route.method ≠ method := by
  have hmatches : (∃ route ∈ table.routes, route.Matches path) ↔ table.candidates path ≠ [] := by
    rw [ne_eq, candidates_eq_nil_iff]
    simp
  have hmethods : (∀ route ∈ table.routes, route.Matches path → route.method ≠ method) ↔
      table.served method path = [] := by
    rw [served_eq_nil_iff]
    simp only [Route.Answers, not_and', ne_eq]
  rw [hmatches, hmethods]
  by_cases hserved : table.served method path = []
  · rw [lookup_of_served_eq_nil hserved]
    split <;> simp_all
  · obtain ⟨route, params, hfound⟩ := exists_found_of_served_ne_nil hserved
    rw [hfound]
    exact iff_of_false (by simp) fun h => hserved h.2

theorem lookup_congr {other : RoutingTable} (h : other.candidates path = table.candidates path) :
    other.lookup method path = table.lookup method path := by
  simp only [lookup, h]

/-! ## Filling a table -/

/-- **Adding a rule** appends its route. -/
theorem add_eq (table : RoutingTable) (target : String) (rule : Rule) :
    table.add target rule =
      (rule.route? target).map fun route => { routes := table.routes ++ [route] } := by
  unfold RoutingTable.add Rule.route?
  cases Template.parse rule.template <;> rfl

/-- The route that a rule leaves for the method that it binds. -/
def boundRoute? (binding : String × Rule) : Option Route :=
  (binding.2.route? binding.1).toOption

/-- Add rules one after another, each with the method that it binds.  One with a malformed template
leaves the table as it is. -/
def addAll (bindings : List (String × Rule)) (table : RoutingTable) : RoutingTable :=
  bindings.foldl (fun table binding => (table.add binding.1 binding.2).toOption.getD table) table

theorem routes_addAll (bindings : List (String × Rule)) (table : RoutingTable) :
    (addAll bindings table).routes = table.routes ++ bindings.filterMap boundRoute? := by
  induction bindings generalizing table with
  | nil => simp [addAll]
  | cons binding rest ih =>
      rw [addAll, List.foldl_cons, ← addAll, ih, add_eq, List.filterMap_cons, boundRoute?]
      cases binding.2.route? binding.1 <;> simp [Except.map, Except.toOption]

/-- Rules whose template does not match the path leave no candidates. -/
theorem candidates_addAll (bindings : List (String × Rule)) (path : String) :
    (addAll bindings {}).candidates path =
      (addAll (bindings.filter fun binding => binding.2.reaches path) {}).candidates path := by
  rw [candidates, candidates, routes_addAll, routes_addAll, List.nil_append, List.nil_append,
    List.filterMap_filterMap, List.filterMap_filterMap, List.filterMap_filter]
  congr 1
  funext binding
  split
  · rfl
  · rename_i hreaches
    unfold Rule.reaches at hreaches
    unfold boundRoute? Rule.route?
    cases hparse : Template.parse binding.2.template with
    | error fault => rfl
    | ok template =>
        simpa [hparse, Except.map, Except.toOption] using hreaches

/-- **What a lookup finds**, in a table that is filled by any rules, some of them perhaps malformed.  It
finds a route exactly if there is one with the method and a template that matches the path; that route
then has most literal segments of these, it is the first of them that has, and the parameters are what
its own template takes from the path.  The method is not allowed exactly if templates match the path,
but none of a route with the method, and nothing is found exactly if no template matches.  Rules whose
template does not match the path count for nothing, wherever they stand. -/
theorem lookup_finds_best (bindings : List (String × Rule)) (method path : String) :
    let table := addAll bindings {}
    table.routes = bindings.filterMap boundRoute? ∧
    ((∃ route params, table.lookup method path = .found route params) ↔
      ∃ route ∈ table.routes, route.Answers method path) ∧
    (∀ route params, table.lookup method path = .found route params ↔
      route.method = method ∧ route.template.match? path = some params ∧
      ∃ before behind, table.routes = before ++ route :: behind ∧
        (∀ other ∈ before, other.Answers method path →
          other.template.literalCount < route.template.literalCount) ∧
        ∀ other ∈ behind, other.Answers method path →
          other.template.literalCount ≤ route.template.literalCount) ∧
    (table.lookup method path = .methodNotAllowed ↔
      (∃ route ∈ table.routes, route.Matches path) ∧
        ∀ route ∈ table.routes, route.Matches path → route.method ≠ method) ∧
    (table.lookup method path = .notFound ↔ ∀ route ∈ table.routes, ¬ route.Matches path) ∧
    ∀ more, more.filter (fun binding => binding.2.reaches path) =
        bindings.filter (fun binding => binding.2.reaches path) →
      (addAll more {}).lookup method path = table.lookup method path := by
  refine ⟨routes_addAll bindings {}, exists_found_iff, fun _ _ => lookup_eq_found_iff,
    lookup_eq_methodNotAllowed_iff, lookup_eq_notFound_iff, ?_⟩
  intro more hsame
  apply lookup_congr
  rw [candidates_addAll more, candidates_addAll bindings, hsame]

/-- Books by number and the latest of them, which is bound twice.  The rule without a slash and the one
for shelves in between change nothing. -/
theorem lookup_finds_best_latest :
    let byNumber : String × Rule := ("/books/Get", ⟨"GET", "/v1/books/\x7bid\x7d", .none⟩)
    let drop : String × Rule := ("/books/Drop", ⟨"DELETE", "/v1/books/latest", .none⟩)
    let latest : String × Rule := ("/books/Latest", ⟨"GET", "/v1/books/latest", .none⟩)
    let again : String × Rule := ("/books/Again", ⟨"GET", "/v1/books/latest", .none⟩)
    let malformed : String × Rule := ("/books/List", ⟨"GET", "v1/books", .none⟩)
    let shelves : String × Rule := ("/books/Shelf", ⟨"GET", "/v1/shelves/\x7bid\x7d", .none⟩)
    let more := [byNumber, malformed, drop, shelves, latest, again]
    more.filter (fun binding => binding.2.reaches "/v1/books/latest") =
        [byNumber, drop, latest, again].filter
          (fun binding => binding.2.reaches "/v1/books/latest") ∧
      ∃ route, (addAll more {}).lookup "GET" "/v1/books/latest" = .found route [] ∧
        route.target = "/books/Latest" := by
  intro byNumber drop latest again malformed shelves more
  have hsame : more.filter (fun binding => binding.2.reaches "/v1/books/latest") =
      [byNumber, drop, latest, again].filter
        (fun binding => binding.2.reaches "/v1/books/latest") := by
    decide
  have hmore := (lookup_finds_best [byNumber, drop, latest, again] "GET" "/v1/books/latest").2.2.2.2.2
    more hsame
  refine ⟨hsame, ⟨"GET", ⟨"/v1/books/latest", [.literal "v1", .literal "books", .literal "latest"]⟩,
    "/books/Latest", .none⟩, ?_, rfl⟩
  rw [hmore]
  decide

end RoutingTable

end ServiceHost
