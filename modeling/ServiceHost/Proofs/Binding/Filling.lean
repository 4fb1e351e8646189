import ServiceHost.Binding.Template
import ServiceHost.Proofs.Text.Spellings

/-!
# Filling a template and matching it

A template is the path of its segments (`Template.parse_eq_ok`), and a path that matches it has a
segment for each of them: the same one for a literal, and one that is not empty for a parameter
(`Template.match?_eq_some_iff`).  So if spellings of texts take the places of the parameters, the path
that comes out matches, and the texts are what matching gives (`Template.filled_path_matches`).
-/

namespace ServiceHost

/-! ## Paths -/

/-- The path of some segments. -/
def pathText (segments : List String) : String :=
  "/" ++ "/".intercalate segments

theorem toList_pathText (segments : List String) :
    (pathText segments).toList = '/' :: ['/'].intercalate (segments.map String.toList) := by
  simp [pathText, String.toList_intercalate]

/-- No part of a text that is cut at a character holds it. -/
theorem not_mem_of_mem_splitOn {separator : Char} {text part : List Char}
    (h : part ∈ text.splitOn separator) : separator ∉ part := by
  induction text generalizing part with
  | nil => simp_all
  | cons c text ih =>
      obtain ⟨first, others, hsplit⟩ :=
        List.exists_cons_of_ne_nil (List.splitOn_ne_nil separator text)
      rw [hsplit] at ih
      rw [List.splitOn_cons_eq_if_modifyHead, hsplit] at h
      by_cases hc : c = separator
      · rw [if_pos (by simpa using hc)] at h
        rcases List.mem_cons.mp h with rfl | h
        · exact List.not_mem_nil
        · exact ih h
      · rw [if_neg (by simpa using hc), List.modifyHead_cons] at h
        rcases List.mem_cons.mp h with rfl | h
        · simpa [Ne.symm hc] using ih List.mem_cons_self
        · exact ih (List.mem_cons_of_mem _ h)

/-- **The segments of a path** are what stands between its slashes.  The root has none, so there is no
path with one empty segment. -/
theorem pathSegments?_eq_some_iff {path : String} {segments : List String} :
    pathSegments? path = some segments ↔
      path = pathText segments ∧ (∀ segment ∈ segments, '/' ∉ segment.toList) ∧
        segments ≠ [""] := by
  have hpath : path = pathText segments ↔
      path.toList = '/' :: ['/'].intercalate (segments.map String.toList) := by
    rw [← toList_pathText, String.toList_inj]
  rw [hpath]
  constructor
  · intro h
    unfold pathSegments? at h
    split at h
    · rename_i hroot
      obtain rfl := Option.some.inj h
      simp [hroot]
    · rename_i rest hrest hlist
      obtain rfl := Option.some.inj h
      refine ⟨?_, ?_, ?_⟩
      · simp [hlist, List.intercalate_splitOn]
      · intro segment hmem
        obtain ⟨part, hpart, rfl⟩ := List.mem_map.mp hmem
        simpa using not_mem_of_mem_splitOn hpart
      · intro hempty
        obtain ⟨part, hsplit, hpart⟩ := List.map_eq_singleton_iff.mp hempty
        obtain rfl : part = [] := by simpa using congrArg String.toList hpart
        have hnil : ['/'].intercalate (rest.splitOn '/') = rest := List.intercalate_splitOn '/'
        rw [hsplit] at hnil
        exact hrest (by simpa using hnil.symm)
    · cases h
  · rintro ⟨hlist, hfree, hroot⟩
    unfold pathSegments?
    rw [hlist]
    cases segments with
    | nil => rfl
    | cons segment others =>
        have hsplit : (['/'].intercalate ((segment :: others).map String.toList)).splitOn '/' =
            (segment :: others).map String.toList :=
          List.splitOn_intercalate '/' (by simpa using hfree) (by simp)
        generalize ['/'].intercalate ((segment :: others).map String.toList) = rest at hsplit
        cases rest with
        | nil =>
            -- nothing behind the slash is one empty segment
            rw [List.splitOn_nil, List.map_cons, List.cons.injEq] at hsplit
            obtain ⟨hsegment, hothers⟩ := hsplit
            obtain rfl : segment = "" := String.toList_eq_nil_iff.mp hsegment.symm
            obtain rfl : others = [] := List.map_eq_nil_iff.mp hothers.symm
            exact absurd rfl hroot
        | cons c rest =>
            show some (((c :: rest).splitOn '/').map String.ofList) = _
            rw [hsplit]
            simp

/-! ## Segments -/

namespace Segment

/-- How a segment is written in a template. -/
def text : Segment → String
  | literal text => text
  | param name => "\x7b" ++ name ++ "\x7d"

/-- The name of a parameter. -/
def name? : Segment → Option String
  | literal _ => none
  | param name => some name

/-- Whether a segment of a path can take the place of one of a template. -/
def Takes : Segment → String → Prop
  | literal text, part => part = text
  | param _, part => part ≠ ""

theorem text_of_parse? {part : String} {segment : Segment} (h : parse? part = some segment) :
    segment.text = part := by
  unfold parse? at h
  split at h
  · rename_i inner hlist
    simp only at h
    split at h
    · rename_i hname
      obtain rfl := Option.some.inj h
      rw [← String.toList_inj, hlist]
      simp [text, List.dropLast_append_getLast? _ hname.1]
    · cases h
  · split at h
    · cases h
    · obtain rfl := Option.some.inj h
      rfl

end Segment

namespace Template

/-! ## Templates -/

theorem parseSegments_eq_ok {template : String} {parts : List String} {segments : List Segment}
    (h : parseSegments template parts = .ok segments) :
    segments.map Segment.text = parts ∧ "" ∉ parts := by
  induction parts generalizing segments with
  | nil =>
      cases h
      simp
  | cons part rest ih =>
      rw [parseSegments] at h
      split at h
      · cases h
      · rename_i hempty
        split at h
        · cases h
        · rename_i segment hsegment
          cases hrest : parseSegments template rest with
          | error fault => simp [hrest, Except.map] at h
          | ok others =>
              obtain rfl : segment :: others = segments := by simpa [hrest, Except.map] using h
              obtain ⟨htexts, hfull⟩ := ih hrest
              have hpart : "" ≠ part := by
                rintro rfl
                simp at hempty
              simp [Segment.text_of_parse? hsegment, htexts, hpart, hfull]

/-- **A template is the path of its segments**, none of which is empty. -/
theorem parse_eq_ok {text : String} {template : Template} (h : parse text = .ok template) :
    text = pathText (template.segments.map Segment.text) ∧
      ∀ segment ∈ template.segments, segment.text ≠ "" ∧ '/' ∉ segment.text.toList := by
  unfold parse at h
  split at h
  · cases h
  · rename_i parts hparts
    obtain ⟨hpath, hfree, -⟩ := pathSegments?_eq_some_iff.mp hparts
    cases hsegments : parseSegments text parts with
    | error fault => simp [hsegments, Except.map] at h
    | ok segments =>
        obtain rfl : ⟨text, segments⟩ = template := by simpa [hsegments, Except.map] using h
        obtain ⟨rfl, hfull⟩ := parseSegments_eq_ok hsegments
        refine ⟨hpath, fun segment hmem => ⟨?_, hfree _ (List.mem_map_of_mem hmem)⟩⟩
        intro hempty
        exact hfull (hempty ▸ List.mem_map_of_mem hmem)

/-- The names of the parameters, in order. -/
def names (template : Template) : List String :=
  template.segments.filterMap Segment.name?

/-! ## Matching -/

/-- The parameters that segments of a path give to those of a template: each has the decoded text of
its segment. -/
def parameters (segments : List Segment) (parts : List String) : List (String × String) :=
  (segments.zip parts).filterMap fun (segment, part) =>
    segment.name?.map fun name => (name, Percent.decode part)

theorem parameters_param (name : String) (segments : List Segment) (part : String)
    (parts : List String) :
    parameters (.param name :: segments) (part :: parts) =
      (name, Percent.decode part) :: parameters segments parts := rfl

theorem capture?_eq_some_iff {segments : List Segment} {parts : List String}
    {params : List (String × String)} :
    capture? segments parts = some params ↔
      List.Forall₂ Segment.Takes segments parts ∧ params = parameters segments parts := by
  fun_induction capture? segments parts generalizing params with
  | case1 => simp [parameters, eq_comm]
  | case2 segments part parts ih =>
      rw [ih, List.forall₂_cons]
      exact ⟨fun h => ⟨⟨rfl, h.1⟩, h.2⟩, fun h => ⟨h.1.2, h.2⟩⟩
  | case3 text segments part parts hne => simp [Segment.Takes, Ne.symm hne]
  | case4 name segments part parts hempty =>
      simp [Segment.Takes, String.isEmpty_iff.mp hempty]
  | case5 name segments part parts hfull ih =>
      have hpart : part ≠ "" := fun h => hfull (String.isEmpty_iff.mpr h)
      rw [Option.map_eq_some_iff, List.forall₂_cons]
      constructor
      · rintro ⟨others, hothers, rfl⟩
        obtain ⟨htakes, rfl⟩ := ih.mp hothers
        exact ⟨⟨hpart, htakes⟩, (parameters_param ..).symm⟩
      · rintro ⟨⟨-, htakes⟩, rfl⟩
        exact ⟨_, ih.mpr ⟨htakes, rfl⟩, (parameters_param ..).symm⟩
  | case6 segments parts hnil hliteral hparam =>
      refine iff_of_false (by simp) ?_
      rintro ⟨htakes, -⟩
      cases htakes with
      | nil => exact hnil rfl rfl
      | @cons segment part segments parts =>
          cases segment with
          | literal text => exact hliteral _ _ _ _ rfl rfl
          | param name => exact hparam _ _ _ _ rfl rfl

/-- **Which paths match a template**: those with a segment for each of its own. -/
theorem match?_eq_some_iff {text : String} {template : Template} (h : parse text = .ok template)
    {path : String} {params : List (String × String)} :
    template.match? path = some params ↔
      ∃ parts, path = pathText parts ∧ (∀ part ∈ parts, '/' ∉ part.toList) ∧
        List.Forall₂ Segment.Takes template.segments parts ∧
        params = parameters template.segments parts := by
  unfold match?
  rw [Option.bind_eq_some_iff]
  constructor
  · rintro ⟨parts, hpath, hcapture⟩
    obtain ⟨hpath, hfree, -⟩ := pathSegments?_eq_some_iff.mp hpath
    exact ⟨parts, hpath, hfree, capture?_eq_some_iff.mp hcapture⟩
  · rintro ⟨parts, hpath, hfree, htakes, hparams⟩
    refine ⟨parts, pathSegments?_eq_some_iff.mpr ⟨hpath, hfree, ?_⟩,
      capture?_eq_some_iff.mpr ⟨htakes, hparams⟩⟩
    -- no segment of a template takes an empty one
    rintro rfl
    obtain ⟨segment, others, htake, -, hsegments⟩ := List.forall₂_cons_right_iff.mp htakes
    have hfull := ((parse_eq_ok h).2 segment (by simp [hsegments])).1
    cases segment with
    | literal text => exact hfull htake.symm
    | param name => exact htake rfl

/-! ## Filling -/

/-- The segments of a path in which texts take the places of the parameters, in order. -/
def fill : List Segment → List String → List String
  | .literal text :: segments, written => text :: fill segments written
  | .param _ :: segments, part :: written => part :: fill segments written
  | _, _ => []

/-- The path in which texts take the places of the parameters. -/
def filled (template : Template) (written : List String) : String :=
  pathText (fill template.segments written)

/-- Which character stands for which in a segment of a path: any for itself but the slash and the
percent sign. -/
def PlainInPath (c d : Char) : Prop :=
  d = c ∧ c ≠ '/' ∧ c ≠ '%'

/-- Whether a segment of a path is a spelling of a text. -/
def SpelledInPath (text part : String) : Prop :=
  Percent.Spells PlainInPath text.toList part.toList

theorem SpelledInPath.decode {text part : String} (h : SpelledInPath text part) :
    Percent.decode part = text := by
  have hread := Percent.decode_of_spells (fun c d hplain => ⟨hplain.1, hplain.2.2⟩) h
  rwa [String.ofList_toList, String.ofList_toList] at hread

theorem SpelledInPath.slash_not_mem {text part : String} (h : SpelledInPath text part) :
    '/' ∉ part.toList := by
  intro hmem
  rcases h.mem_marks_or_plain hmem with hmark | ⟨c, rfl, hslash, -⟩
  · exact absurd hmark (by decide)
  · exact hslash rfl

theorem SpelledInPath.ne_empty {text part : String} (h : SpelledInPath text part)
    (hne : text ≠ "") : part ≠ "" := by
  rintro rfl
  exact h.written_ne_nil (by simpa using hne) rfl

/-- Spelled texts take the places of the parameters and become their values. -/
theorem takes_fill {segments : List Segment} {values written : List String}
    (hlength : values.length = (segments.filterMap Segment.name?).length)
    (hvalues : ∀ value ∈ values, value ≠ "")
    (hwritten : List.Forall₂ SpelledInPath values written) :
    List.Forall₂ Segment.Takes segments (fill segments written) ∧
      parameters segments (fill segments written) =
        (segments.filterMap Segment.name?).zip values := by
  induction segments generalizing values written with
  | nil => simp [fill, parameters]
  | cons segment segments ih =>
      cases segment with
      | literal text =>
          obtain ⟨htakes, hparams⟩ := ih hlength hvalues hwritten
          rw [fill]
          exact ⟨.cons rfl htakes, hparams⟩
      | param name =>
          cases hwritten with
          | nil => simp [Segment.name?] at hlength
          | @cons value part values written hspelled hothers =>
              obtain ⟨htakes, hparams⟩ := ih (by simpa [Segment.name?] using hlength)
                (fun other hmem => hvalues other (List.mem_cons_of_mem _ hmem)) hothers
              rw [fill]
              refine ⟨.cons (hspelled.ne_empty (hvalues value List.mem_cons_self)) htakes, ?_⟩
              rw [parameters_param, hspelled.decode, hparams]
              rfl

theorem slash_not_mem_fill {segments : List Segment} {written : List String}
    (hsegments : ∀ segment ∈ segments, '/' ∉ segment.text.toList)
    (hwritten : ∀ part ∈ written, '/' ∉ part.toList) :
    ∀ part ∈ fill segments written, '/' ∉ part.toList := by
  fun_induction fill segments written with
  | case1 text segments written ih =>
      obtain ⟨htext, hsegments⟩ := List.forall_mem_cons.mp hsegments
      exact List.forall_mem_cons.mpr ⟨htext, ih hsegments hwritten⟩
  | case2 name segments part written ih =>
      obtain ⟨hpart, hwritten⟩ := List.forall_mem_cons.mp hwritten
      exact List.forall_mem_cons.mpr
        ⟨hpart, ih (List.forall_mem_cons.mp hsegments).2 hwritten⟩
  | case3 => simp

/-- **Filling and matching are inverse.**  A template that is read from a text is the path of its
segments.  Whatever texts the parameters have, none of them empty, and however these are spelled, the
path with the spellings in place of the parameters matches, and gives each parameter its text.  And
only paths with a segment for each of the template match: they have the literals in their places and
no empty segment in place of a parameter, and each parameter gets the decoded text of its segment. -/
theorem filled_path_matches {text : String} {template : Template} (h : parse text = .ok template) :
    text = pathText (template.segments.map Segment.text) ∧
    (∀ values written : List String, values.length = template.names.length →
      (∀ value ∈ values, value ≠ "") → List.Forall₂ SpelledInPath values written →
      template.match? (template.filled written) = some (template.names.zip values)) ∧
    ∀ path params, template.match? path = some params ↔
      ∃ parts, path = pathText parts ∧ (∀ part ∈ parts, '/' ∉ part.toList) ∧
        List.Forall₂ Segment.Takes template.segments parts ∧
        params = parameters template.segments parts := by
  obtain ⟨htext, hsegments⟩ := parse_eq_ok h
  refine ⟨htext, ?_, fun path params => match?_eq_some_iff h⟩
  intro values written hlength hvalues hwritten
  obtain ⟨htakes, hparams⟩ := takes_fill hlength hvalues hwritten
  refine (match?_eq_some_iff h).mpr ⟨_, rfl, ?_, htakes, hparams.symm⟩
  refine slash_not_mem_fill (fun segment hmem => (hsegments segment hmem).2) ?_
  intro part hmem
  obtain ⟨value, -, hspelled⟩ := Percent.exists_of_mem_right hwritten hmem
  exact hspelled.slash_not_mem

/-- A shelf whose name holds a slash, a blank, a letter of two octets and what looks like an escape,
some of it escaped in either case and some of it as it is. -/
theorem filled_path_matches_shelf :
    ∃ template, parse "/v1/shelves/\x7bshelf\x7d/books/\x7bbook.id\x7d" = .ok template ∧
      template.names = ["shelf", "book.id"] ∧
      template.filled ["a%2fé %C3%A9%2541", "7"] = "/v1/shelves/a%2fé %C3%A9%2541/books/7" ∧
      template.match? "/v1/shelves/a%2fé %C3%A9%2541/books/7" =
        some [("shelf", "a/é é%41"), ("book.id", "7")] := by
  let template : Template :=
    { text := "/v1/shelves/\x7bshelf\x7d/books/\x7bbook.id\x7d"
      segments := [.literal "v1", .literal "shelves", .param "shelf", .literal "books",
        .param "book.id"] }
  have hparse : parse "/v1/shelves/\x7bshelf\x7d/books/\x7bbook.id\x7d" = .ok template := by
    decide
  have hplain : ∀ c ∈ ("aé 417".toList), PlainInPath c c := by
    simp [PlainInPath]
  have hshelf : SpelledInPath "a/é é%41" "a%2fé %C3%A9%2541" := by
    show Percent.Spells PlainInPath ['a', '/', 'é', ' ', 'é', '%', '4', '1']
      ['a', '%', '2', 'f', 'é', ' ', '%', 'C', '3', '%', 'A', '9', '%', '2', '5', '4', '1']
    refine .plain (hplain _ (by decide)) ?_
    refine .escaped ['%', '2', 'f'] (by decide) ?_
    refine .plain (hplain _ (by decide)) (.plain (hplain _ (by decide)) ?_)
    refine .escaped ['%', 'C', '3', '%', 'A', '9'] (by decide) ?_
    refine .escaped ['%', '2', '5'] (by decide) ?_
    exact .plain (hplain _ (by decide)) (.plain (hplain _ (by decide)) .nil)
  have hbook : SpelledInPath "7" "7" := .plain (hplain '7' (by decide)) .nil
  have hmatch := (filled_path_matches hparse).2.1 ["a/é é%41", "7"] ["a%2fé %C3%A9%2541", "7"]
    (by decide) (by decide) (.cons hshelf (.cons hbook .nil))
  exact ⟨template, hparse, by decide, by decide, hmatch⟩

end Template

end ServiceHost
