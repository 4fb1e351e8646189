import Mathlib.Data.List.Induction
import ServiceHost.Proofs.Binding.PathParameters
import ServiceHost.Proofs.Binding.ReadableMessage
import ServiceHost.Proofs.Text.Spellings

/-!
# The parameters of a query

A query gives its pairs back however they are spelled (`queryPairs_queryText`), and each pair is put
behind those of the same key.  So the message of a query holds at every key what was given for it, in
order, and nothing else (`Gathers`), as long as no key goes on from another.
-/

namespace ServiceHost

/-- A text is cut at the first separator. -/
theorem cutAt?_append {separator : Char} {front : List Char} (h : separator ∉ front)
    (back : List Char) : cutAt? separator (front ++ separator :: back) = some (front, back) := by
  have hfront : ∀ c ∈ front, (c != separator) = true := by
    intro c hc
    exact bne_iff_ne.mpr fun heq => h (heq ▸ hc)
  rw [cutAt?, List.span_eq_takeWhile_dropWhile, List.takeWhile_append_of_pos hfront,
    List.dropWhile_append_of_pos hfront]
  simp

namespace Message

open Json

/-! ## Spelled queries -/

/-- Which character stands for which in a query: a plus sign for a blank, and any for itself but the
blank and the marks of a query. -/
def PlainInQuery (c d : Char) : Prop :=
  (c = ' ' ∧ d = '+') ∨ (d = c ∧ c ∉ [' ', '%', '&', '=', '+', '#'])

/-- Whether a part of a query is a spelling of a text. -/
def SpelledInQuery (text written : String) : Prop :=
  Percent.Spells PlainInQuery text.toList written.toList

/-- The query of pairs that are written out. -/
def queryText (written : List (String × String)) : String :=
  "&".intercalate (written.map fun part => part.1 ++ "=" ++ part.2)

namespace SpelledInQuery

variable {text written : String} (h : SpelledInQuery text written)

include h

theorem decode : decodeComponent written.toList = text := by
  have hblank : ∀ d ∈ Percent.escapeMarks, (if d = '+' then ' ' else d) = d := by
    intro d hd
    refine if_neg ?_
    rintro rfl
    exact absurd hd (by decide)
  have hread := Percent.decode_of_spells (fun c d => ?_) (h.map hblank)
  · rwa [String.ofList_toList] at hread
  · rintro ⟨e, ⟨rfl, rfl⟩ | ⟨rfl, hmark⟩, rfl⟩
    · decide
    · simp only [List.mem_cons, List.not_mem_nil, or_false, not_or] at hmark
      exact ⟨if_neg hmark.2.2.2.2.1, hmark.2.1⟩

theorem mark_not_mem {d : Char} (hd : d = '&' ∨ d = '=') : d ∉ written.toList := by
  intro hmem
  rcases h.mem_marks_or_plain hmem with hmark | ⟨c, ⟨-, rfl⟩ | ⟨rfl, hplain⟩⟩
  · rcases hd with rfl | rfl <;> exact absurd hmark (by decide)
  · rcases hd with hd | hd <;> exact absurd hd (by decide)
  · rcases hd with rfl | rfl <;> simp at hplain

end SpelledInQuery

/-- Whether two texts are spellings of a key and a value. -/
def SpelledPair (pair part : String × String) : Prop :=
  SpelledInQuery pair.1 part.1 ∧ SpelledInQuery pair.2 part.2

theorem queryPair_part {pair part : String × String} (h : SpelledPair pair part) :
    queryPair (part.1 ++ "=" ++ part.2).toList = pair := by
  have hcut : cutAt? '=' (part.1 ++ "=" ++ part.2).toList = some (part.1.toList, part.2.toList) := by
    rw [← cutAt?_append (h.1.mark_not_mem (.inr rfl))]
    simp
  rw [queryPair, hcut]
  simp only [h.1.decode, h.2.decode]

/-- **A query gives its pairs back**, however they are spelled. -/
theorem queryPairs_queryText {pairs written : List (String × String)}
    (hkeys : ∀ pair ∈ pairs, pair.1 ≠ "") (hwritten : List.Forall₂ SpelledPair pairs written) :
    queryPairs (queryText written) = pairs := by
  let parts := written.map fun part => (part.1 ++ "=" ++ part.2).toList
  have hsplit : ((queryText written).toList.splitOn '&').filter (!·.isEmpty) = parts := by
    have htext : (queryText written).toList = ['&'].intercalate parts := by
      simp [queryText, parts, String.toList_intercalate, Function.comp_def]
    rw [htext]
    by_cases hne : parts = []
    · rw [hne]
      rfl
    · have hfree : ∀ part ∈ parts, '&' ∉ part := by
        intro part hpart
        obtain ⟨spelled, hmem, rfl⟩ := List.mem_map.mp hpart
        obtain ⟨pair, -, hkey, hvalue⟩ := Percent.exists_of_mem_right hwritten hmem
        simp [hkey.mark_not_mem (.inl rfl), hvalue.mark_not_mem (.inl rfl)]
      rw [List.splitOn_intercalate '&' hfree hne, List.filter_eq_self]
      intro part hpart
      obtain ⟨spelled, -, rfl⟩ := List.mem_map.mp hpart
      simp
  have hread : parts.map queryPair = pairs := by
    show (written.map _).map queryPair = pairs
    clear hsplit hkeys
    induction hwritten with
    | nil => rfl
    | cons hpair _ ih => rw [List.map_cons, List.map_cons, queryPair_part hpair, ih]
  rw [queryPairs, hsplit, hread, List.filter_eq_self]
  intro pair hpair
  simpa [String.isEmpty_iff] using hkeys pair hpair

/-! ## Gathered pairs -/

/-- The values of a key, in order. -/
def valuesOf (key : String) (pairs : List (String × String)) : List String :=
  (pairs.filter fun pair => pair.1 == key).map (·.2)

/-- What a message holds for values of one key: a text for one of them, an array for several. -/
def gathered : List String → Json
  | [value] => .string value
  | values => .array (values.map .string)

/-- Whether no key goes on, part by part, from another. -/
def KeysApart (pairs : List (String × String)) : Prop :=
  ∀ pair ∈ pairs, ∀ other ∈ pairs, pathOf pair.1 <+: pathOf other.1 → pair.1 = other.1

instance (pairs : List (String × String)) : Decidable (KeysApart pairs) :=
  inferInstanceAs (Decidable (∀ pair ∈ pairs, ∀ other ∈ pairs, _ → _))

/-- **The invariant of the pairs added so far**: each key holds its values, and whatever the members
hold lies on the way to a key. -/
structure Gathers (pairs : List (String × String)) (members : Members) : Prop where
  held : ∀ pair ∈ pairs,
    members.at? (pathOf pair.1) = some (gathered (valuesOf pair.1 pairs))
  spanned : ∀ path, path ≠ [] → members.at? path ≠ none →
    ∃ pair ∈ pairs, path <+: pathOf pair.1

theorem isObject_gathered (values : List String) : (gathered values).isObject = false := by
  unfold gathered
  split <;> rfl

theorem joined_gathered {values : List String} (hne : values ≠ []) (value : String) :
    Members.joined (.string value) (some (gathered values)) = gathered (values ++ [value]) := by
  match values, hne with
  | [first], _ => rfl
  | first :: second :: rest, _ => simp [gathered, Members.joined]

variable {pairs : List (String × String)} {members : Members} {pair : String × String}

theorem valuesOf_concat_self : valuesOf pair.1 (pairs ++ [pair]) =
    valuesOf pair.1 pairs ++ [pair.2] := by
  simp [valuesOf]

theorem valuesOf_concat_of_ne {key : String} (hne : pair.1 ≠ key) :
    valuesOf key (pairs ++ [pair]) = valuesOf key pairs := by
  simp [valuesOf, hne]

theorem valuesOf_ne_nil (h : ∃ other ∈ pairs, other.1 = pair.1) : valuesOf pair.1 pairs ≠ [] := by
  simpa [valuesOf, List.filter_eq_nil_iff] using h

theorem KeysApart.of_concat (h : KeysApart (pairs ++ [pair])) :
    ∀ other ∈ pairs, other.1 = pair.1 ∨ Unrelated other pair := by
  intro other hmem
  have hold := List.mem_append_left [pair] hmem
  have hlast : pair ∈ pairs ++ [pair] := by simp
  by_cases hkey : other.1 = pair.1
  · exact .inl hkey
  · exact .inr ⟨fun hway => hkey (h other hold pair hlast hway),
      fun hway => hkey (h pair hlast other hold hway).symm⟩

namespace Gathers

variable (h : Gathers pairs members)

include h

/-- Every leaf stands at a key: whatever lies on the way to one is an object. -/
theorem key_of_leaf {path : List String} {leaf : Json}
    (hleaf : (object members).leaf? path = some leaf) : ∃ pair ∈ pairs, path = pathOf pair.1 := by
  obtain ⟨hat, hother⟩ := leaf?_eq_some_iff.mp hleaf
  have hne : path ≠ [] := by
    rintro rfl
    obtain rfl := Option.some.inj hat
    cases hother
  obtain ⟨pair, hmem, behind, hpath⟩ := h.spanned path hne (by simp [Members.at?, hat])
  cases behind with
  | nil => exact ⟨pair, hmem, by rw [← hpath, List.append_nil]⟩
  | cons key rest =>
      have hheld := h.held pair hmem
      rw [← hpath, Members.at?, at?_append, hat, Option.bind_some,
        at?_cons_of_not_object hother] at hheld
      cases hheld

variable (hapart : ∀ other ∈ pairs, other.1 = pair.1 ∨ Unrelated other pair)

include hapart

/-- A key that has not occurred leads nowhere yet. -/
theorem at?_of_new (hnew : ¬ ∃ other ∈ pairs, other.1 = pair.1) :
    members.at? (pathOf pair.1) = none := by
  by_contra hsome
  obtain ⟨other, hmem, hpath⟩ := h.spanned _ (pathOf_ne_nil _) hsome
  rcases hapart other hmem with hkey | hunrelated
  · exact hnew ⟨other, hmem, hkey⟩
  · exact hunrelated.2 hpath

/-- No value stands in the way of a key. -/
theorem not_blocked : ¬ Members.Blocked (pathOf pair.1) members := by
  rw [Members.blocked_iff_leaf]
  rintro ⟨front, value, hfront, hne, hleaf⟩
  obtain ⟨other, hmem, rfl⟩ := h.key_of_leaf hleaf
  rcases hapart other hmem with hkey | hunrelated
  · exact hne (by rw [hkey])
  · exact hunrelated.1 hfront

/-- **Adding a pair** puts its value behind those of its key. -/
theorem concat : Gathers (pairs ++ [pair])
    (members.append (pathOf pair.1) (.string pair.2)) := by
  have hlands : (members.append (pathOf pair.1) (.string pair.2)).at? (pathOf pair.1) =
      some (gathered (valuesOf pair.1 (pairs ++ [pair]))) := by
    rw [Members.append, Members.at?_update _ (pathOf_ne_nil _) (h.not_blocked hapart),
      valuesOf_concat_self]
    congr 1
    by_cases hold : ∃ other ∈ pairs, other.1 = pair.1
    · rw [← joined_gathered (valuesOf_ne_nil hold)]
      obtain ⟨other, hmem, hkey⟩ := hold
      rw [← hkey, h.held other hmem]
    · rw [h.at?_of_new hapart hold]
      have hnone : valuesOf pair.1 pairs = [] := by
        by_contra hsome
        exact hold (by simpa [valuesOf, List.filter_eq_nil_iff] using hsome)
      rw [hnone]
      rfl
  constructor
  · intro other hmem
    by_cases hkey : other.1 = pair.1
    · rw [hkey, hlands]
    · have hmem : other ∈ pairs := by
        rcases List.mem_append.mp hmem with hmem | hmem
        · exact hmem
        · exact absurd (congrArg Prod.fst (List.mem_singleton.mp hmem)) hkey
      have hunrelated := (hapart other hmem).resolve_left hkey
      rw [Members.append, Members.at?_update_of_unrelated _ hunrelated.2 hunrelated.1,
        h.held other hmem, valuesOf_concat_of_ne (Ne.symm hkey)]
  · intro path hne hsome
    by_cases hway : path <+: pathOf pair.1
    · exact ⟨pair, by simp, hway⟩
    · by_cases hon : pathOf pair.1 <+: path
      · -- nothing lies behind the value of a key
        obtain ⟨behind, rfl⟩ := hon
        cases behind with
        | nil => exact absurd (by rw [List.append_nil]) hway
        | cons key rest =>
            rw [Members.at?, at?_append, ← Members.at?, hlands, Option.bind_some,
              at?_cons_of_not_object (isObject_gathered _)] at hsome
            exact absurd rfl hsome
      · rw [Members.append, Members.at?_update_of_unrelated _ hon hway] at hsome
        obtain ⟨other, hmem, hpath⟩ := h.spanned path hne hsome
        exact ⟨other, List.mem_append_left _ hmem, hpath⟩

end Gathers

theorem gathers_addQuery (hapart : KeysApart pairs) : Gathers pairs (addQuery pairs []) := by
  induction pairs using List.reverseRecOn with
  | nil =>
      refine ⟨by simp, ?_⟩
      intro path hne hsome
      cases path with
      | nil => exact absurd rfl hne
      | cons key rest => exact absurd rfl hsome
  | append_singleton pairs pair ih =>
      have hrest := ih fun first hfirst other hother =>
        hapart first (List.mem_append_left _ hfirst) other (List.mem_append_left _ hother)
      rw [addQuery, List.foldl_append, ← addQuery]
      exact hrest.concat hapart.of_concat

/-- **No parameter of a query is lost, doubled or moved.**  Whatever the body is, the message that a
rule without a body makes of a query, however its pairs are spelled, is an object that holds at every
key its value, or the array of its values in order if there are several; every leaf stands at a key,
and nothing stands off the way to one. -/
theorem query_parameters_gathered (body : Octets) {pairs written : List (String × String)}
    (hkeys : ∀ pair ∈ pairs, pair.1 ≠ "") (hapart : KeysApart pairs)
    (hwritten : List.Forall₂ SpelledPair pairs written) :
    ∃ members : Members, build .none body [] (some (queryText written)) = .ok (.object members) ∧
      WellFormed Number.Fits (.object members) ∧
      (∀ pair ∈ pairs, members.at? (pathOf pair.1) = some (gathered (valuesOf pair.1 pairs))) ∧
      (∀ path leaf, (object members).leaf? path = some leaf →
        ∃ pair ∈ pairs, path = pathOf pair.1) ∧
      ∀ path, path ≠ [] → members.at? path ≠ none → ∃ pair ∈ pairs, path <+: pathOf pair.1 := by
  have hgathers := gathers_addQuery hapart
  refine ⟨addQuery pairs [], ?_, wellFormed_addQuery pairs wellFormed_empty, hgathers.held,
    fun path leaf => hgathers.key_of_leaf, hgathers.spanned⟩
  have hbody : ofBody .none body = .ok [] := by
    simp [ofBody]
  rw [build, hbody, Option.getD_some, queryPairs_queryText hkeys hwritten]
  rfl

/-- A key given twice, one given once with a blank and an escaped letter of two octets, and two of
dotted names that share their beginning. -/
theorem query_parameters_gathered_page :
    ∃ members : Members,
      build .none [] [] (some "tag=a%26b&page.size=10&tag=&q=x+%c3%BC&page.token=1") =
        .ok (.object members) ∧
      members.at? (pathOf "tag") = some (.array [.string "a&b", .string ""]) ∧
      members.at? (pathOf "page.size") = some (.string "10") ∧
      members.at? (pathOf "q") = some (.string "x ü") := by
  let pairs := [("tag", "a&b"), ("page.size", "10"), ("tag", ""), ("q", "x ü"), ("page.token", "1")]
  let written :=
    [("tag", "a%26b"), ("page.size", "10"), ("tag", ""), ("q", "x+%c3%BC"), ("page.token", "1")]
  have hraw : ∀ text ∈ ["tag", "page.size", "10", "", "q", "page.token", "1"],
      SpelledInQuery text text := by
    have hplain : ∀ text ∈ ["tag", "page.size", "10", "", "q", "page.token", "1"],
        ∀ c ∈ text.toList, c ∉ [' ', '%', '&', '=', '+', '#'] := by
      simp
    intro text htext
    exact .refl fun c hc => .inr ⟨rfl, hplain text htext c hc⟩
  have hset : SpelledInQuery "a&b" "a%26b" :=
    .plain (.inr ⟨rfl, by decide⟩) <| .escaped ['%', '2', '6'] (by decide) <|
      .plain (.inr ⟨rfl, by decide⟩) .nil
  have hwords : SpelledInQuery "x ü" "x+%c3%BC" :=
    .plain (.inr ⟨rfl, by decide⟩) <| .plain (.inl ⟨rfl, rfl⟩) <|
      .escaped ['%', 'c', '3', '%', 'B', 'C'] (by decide) .nil
  have hwritten : List.Forall₂ SpelledPair pairs written :=
    .cons ⟨hraw "tag" (by decide), hset⟩ <|
      .cons ⟨hraw "page.size" (by decide), hraw "10" (by decide)⟩ <|
      .cons ⟨hraw "tag" (by decide), hraw "" (by decide)⟩ <|
      .cons ⟨hraw "q" (by decide), hwords⟩ <|
      .cons ⟨hraw "page.token" (by decide), hraw "1" (by decide)⟩ .nil
  have hquery : queryText written = "tag=a%26b&page.size=10&tag=&q=x+%c3%BC&page.token=1" := by
    decide
  obtain ⟨members, hbuild, -, hheld, -⟩ :=
    @query_parameters_gathered [] pairs written (by decide) (by decide) hwritten
  rw [hquery] at hbuild
  exact ⟨members, hbuild, hheld ("tag", "a&b") (by decide), hheld ("page.size", "10") (by decide),
    hheld ("q", "x ü") (by decide)⟩

end Message

end ServiceHost
