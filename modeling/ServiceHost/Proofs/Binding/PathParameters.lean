import Mathlib
import ServiceHost.Binding.Message
import ServiceHost.Proofs.Json.Assignment

/-!
# Whether a path parameter arrives

Path parameters are assigned last, so nothing replaces them (`at?_setParams_iff`).  But an
assignment gives way to whatever blocks its path: a parameter of a dotted name arrives exactly if
the body and the query have left no value but objects at the beginnings of that name
(`path_parameter_arrives_iff`), and a body that puts a number there keeps it out.
-/

namespace ServiceHost.Message

open Json

/-- The names of two parameters do not go on from each other. -/
def Unrelated (param other : String × String) : Prop :=
  ¬ pathOf param.1 <+: pathOf other.1 ∧ ¬ pathOf other.1 <+: pathOf param.1

instance (param other : String × String) : Decidable (Unrelated param other) :=
  inferInstanceAs (Decidable (_ ∧ _))

theorem pathOf_ne_nil (dotted : String) : pathOf dotted ≠ [] := by
  simp [pathOf, splitText]

/-- Parameters leave the leaves of a path alone that does not go on from one of their names. -/
theorem leaf?_setParams {params : List (String × String)} {path : List String}
    (h : ∀ param ∈ params, ¬ pathOf param.1 <+: path) (members : Members) :
    (object (setParams params members)).leaf? path = (object members).leaf? path := by
  induction params generalizing members with
  | nil => rfl
  | cons param params ih =>
      rw [setParams, List.foldl_cons]
      rw [← setParams, ih (fun other hmem => h other (List.mem_cons_of_mem _ hmem))]
      exact Members.leaf?_update _ (h param List.mem_cons_self) members

/-- An assigned text stands at the end of its path exactly if nothing blocks the path. -/
theorem leaf?_assign_iff {path : List String} (hne : path ≠ []) (text : String)
    (members : Members) :
    (object (members.assign path (.string text))).leaf? path = some (.string text) ↔
      ¬ Members.Blocked path members := by
  rw [leaf?_eq_some_iff]
  constructor
  · rintro ⟨hat, -⟩ hblocked
    have hstill := (Members.blocked_update (fun _ => .string text) (fun _ => rfl) members).mpr
      hblocked
    have hnone := Members.at?_of_blocked hstill
    rw [Members.at?, ← Members.assign, hat] at hnone
    simp at hnone
  · intro hblocked
    exact ⟨Members.at?_update _ hne hblocked, rfl⟩

/-- **Unrelated parameters do not disturb each other**: each arrives exactly if its path was not
blocked before all of them. -/
theorem at?_setParams_iff {params : List (String × String)} (hunrelated : params.Pairwise Unrelated)
    (members : Members) :
    ∀ param ∈ params, (object (setParams params members)).at? (pathOf param.1) =
        some (.string param.2) ↔ ¬ Members.Blocked (pathOf param.1) members := by
  induction params generalizing members with
  | nil => simp
  | cons first params ih =>
      obtain ⟨hfirst, hothers⟩ := List.pairwise_cons.mp hunrelated
      intro param hmem
      rcases List.mem_cons.mp hmem with rfl | hmem
      · have hframe := leaf?_setParams (fun other hother => (hfirst other hother).2)
          (members.assign (pathOf param.1) (.string param.2))
        rw [← leaf?_assign_iff (pathOf_ne_nil _) param.2, ← hframe, leaf?_eq_some_iff]
        exact ⟨fun hat => ⟨hat, rfl⟩, And.left⟩
      · have hrest := ih hothers (members.assign (pathOf first.1) (.string first.2)) param hmem
        refine hrest.trans (not_congr (Members.blocked_update _ ?_ members))
        exact fun hpath => ((hfirst param hmem).1 hpath).elim

/-- **When a path parameter arrives.**  Whatever the rule, the body and the query are, each of a
list of unrelated path parameters stands as a text at the end of its name in the message exactly if
the message of the same request without path parameters holds nothing but objects at the
strict beginnings of that name. -/
theorem path_parameter_arrives_iff (rule : BodyRule) (body : Octets) (query : Option String)
    {params : List (String × String)} (hunrelated : params.Pairwise Unrelated) {message : Json}
    (h : build rule body params query = .ok message) :
    ∃ gathered, build rule body [] query = .ok (.object gathered) ∧
      ∀ param ∈ params, message.at? (pathOf param.1) = some (.string param.2) ↔
        ¬ Members.Blocked (pathOf param.1) gathered := by
  unfold build at h ⊢
  cases hbody : ofBody rule body with
  | error refusal =>
      rw [hbody] at h
      simp [Except.map] at h
  | ok members =>
      rw [hbody] at h
      simp only [Except.map, Except.ok.injEq] at h ⊢
      subst h
      exact ⟨_, rfl, at?_setParams_iff hunrelated _⟩

/-- A book whose number and shelf stand in the path; the body gives the number too. -/
theorem path_parameter_arrives_beside_body :
    [("book.id", "42"), ("book.shelf", "s1")].Pairwise Unrelated ∧
    ∃ message gathered,
      build (.field "book") (Octets.ascii "\x7b\"id\":7\x7d")
        [("book.id", "42"), ("book.shelf", "s1")] none = .ok message ∧
      build (.field "book") (Octets.ascii "\x7b\"id\":7\x7d") [] none =
        .ok (.object gathered) ∧
      (message.at? (pathOf "book.id") = some (.string "42") ↔
        ¬ Members.Blocked (pathOf "book.id") gathered) := by
  have hunrelated : [("book.id", "42"), ("book.shelf", "s1")].Pairwise Unrelated := by
    decide
  have hbuild : build (.field "book") (Octets.ascii "\x7b\"id\":7\x7d")
      [("book.id", "42"), ("book.shelf", "s1")] none =
        .ok (object [("book", object [("id", string "42"), ("shelf", string "s1")])]) := by
    cbv
  obtain ⟨gathered, hgathered, harrives⟩ := path_parameter_arrives_iff _ _ _ hunrelated hbuild
  exact ⟨hunrelated, _, gathered, hbuild, hgathered, harrives ("book.id", "42") (by simp)⟩

/-- **A body can keep a path parameter out.**  It is not so that the parameters of a path always
arrive: where the body puts a number at the first part of a dotted name, the parameter of that
name is lost. -/
theorem body_keeps_parameter_out :
    ¬ ∀ (rule : BodyRule) (body : Octets) (params : List (String × String))
      (query : Option String) (message : Json), params.Pairwise Unrelated →
      build rule body params query = .ok message →
      ∀ param ∈ params, message.at? (pathOf param.1) = some (.string param.2) := by
  intro harrives
  have hbuild : build .all (Octets.ascii "\x7b\"user\":7\x7d") [("user.id", "42")] none =
      .ok (object [("user", .int 7)]) := by
    cbv
  have hat := harrives _ _ _ _ _ (by simp) hbuild ("user.id", "42") (by simp)
  have hpath : pathOf "user.id" = ["user", "id"] := by cbv
  rw [hpath] at hat
  simp [Members.get?, int, at?, get?] at hat

end ServiceHost.Message
