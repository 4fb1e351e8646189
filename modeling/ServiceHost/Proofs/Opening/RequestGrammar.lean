import ServiceHost.Proofs.Opening.Finality

/-!
# What is read as HTTP/1

A connection is read as HTTP/1 if it starts with a known method and a space, or with a whole request
line, and in no other case (`http_iff_request`).  `RequestLine.IsLine` states the grammar of the line;
splitting at spaces accepts exactly its lines (`isRequestLine_iff`), and the first line feed of an
opening ends the line, since no part of one holds a line feed (`startsWithLine_iff`).  The first line
of the HTTP/2 preface names another version, so the two protocols do not overlap
(`disagrees_of_classify_http`).
-/

namespace ServiceHost

namespace RequestLine

/-- The parts of a request line. -/
structure IsLine (method target version : Octets) : Prop where
  method_length : 1 ≤ method.length ∧ method.length ≤ 32
  method_octets : ∀ b ∈ method, Octets.isTokenOctet b = true
  target_ne_nil : target ≠ []
  target_octets : ∀ b ∈ target, 0x20 < b ∧ b ≠ 0x7F
  version : version = Octets.ascii "HTTP/1.0" ∨ version = Octets.ascii "HTTP/1.1"

/-- Whether octets start with a whole request line: its parts with one space between them, and the
end of the line with or without a carriage return. -/
def StartsWithLine (octets : Octets) : Prop :=
  ∃ method target version ending rest, IsLine method target version ∧
    (ending = [lineFeed] ∨ ending = [carriageReturn, lineFeed]) ∧
    octets = method ++ [space] ++ target ++ [space] ++ version ++ ending ++ rest

/-- Whether octets start with a known method and a space. -/
def StartsWithKnown (octets : Octets) : Prop :=
  ∃ method ∈ knownMethods, method ++ [space] <+: octets

variable {method target version : Octets}

/-! ## The line -/

namespace IsLine

theorem isMethodText (h : IsLine method target version) : isMethodText method = true := by
  simp only [RequestLine.isMethodText, Bool.and_eq_true, decide_eq_true_eq, List.all_eq_true]
  exact ⟨h.method_length.2, h.method_octets⟩

/-- Neither a space nor anything below it stands in a target. -/
theorem not_mem_target (h : IsLine method target version) {b : UInt8} (hb : b ≤ 0x20) :
    b ∉ target := by
  intro hmem
  have hlt := (h.target_octets b hmem).1
  exact absurd hb (UInt8.not_le.mpr hlt)

theorem not_mem_version (h : IsLine method target version) {b : UInt8}
    (hold : b ∉ Octets.ascii "HTTP/1.0") (hnew : b ∉ Octets.ascii "HTTP/1.1") : b ∉ version := by
  cases h.version with
  | inl heq => exact heq ▸ hold
  | inr heq => exact heq ▸ hnew

/-- The line holds no line feed. -/
theorem lineFeed_not_mem (h : IsLine method target version) :
    lineFeed ∉ method ++ [space] ++ target ++ [space] ++ version := by
  have hmethod := RequestLine.lineFeed_not_mem h.isMethodText
  have htarget := h.not_mem_target (b := lineFeed) (by decide)
  have hversion := h.not_mem_version (b := lineFeed) (by decide) (by decide)
  simp only [List.mem_append, List.mem_singleton, not_or]
  exact ⟨⟨⟨⟨hmethod, by decide⟩, htarget⟩, by decide⟩, hversion⟩

/-- The line does not end in a carriage return. -/
theorem dropReturn_eq (h : IsLine method target version) :
    dropReturn (method ++ [space] ++ target ++ [space] ++ version) =
      method ++ [space] ++ target ++ [space] ++ version := by
  have hend : version.getLast? = some 0x30 ∨ version.getLast? = some 0x31 := by
    cases h.version with
    | inl heq => exact Or.inl (by rw [heq]; decide)
    | inr heq => exact Or.inr (by rw [heq]; decide)
  have hlast : (method ++ [space] ++ target ++ [space] ++ version).getLast? ≠
      some carriageReturn := by
    rw [List.getLast?_append]
    cases hend with
    | inl heq => rw [heq, Option.some_or]; decide
    | inr heq => rw [heq, Option.some_or]; decide
  rw [dropReturn, if_neg hlast]

end IsLine

/-- **Splitting at spaces accepts exactly the lines of the grammar.** -/
theorem isRequestLine_iff (line : Octets) :
    isRequestLine line = true ↔ ∃ method target version, IsLine method target version ∧
      line = method ++ [space] ++ target ++ [space] ++ version := by
  constructor
  · intro h
    have hjoin : [space].intercalate (line.splitOn space) = line := List.intercalate_splitOn space
    unfold isRequestLine at h
    split at h
    · rename_i method target version hparts
      rw [hparts] at hjoin
      simp only [isMethodText, isTargetOctet, versions, Bool.and_eq_true, Bool.not_eq_true',
        List.isEmpty_eq_false_iff, decide_eq_true_eq, List.all_eq_true, bne_iff_ne,
        List.contains_iff_mem, List.map_cons, List.map_nil, List.mem_cons, List.not_mem_nil,
        or_false] at h
      obtain ⟨⟨⟨⟨hne, hlength, htoken⟩, htarget⟩, hoctets⟩, hversion⟩ := h
      have hline : IsLine method target version :=
        ⟨⟨List.length_pos_iff.mpr hne, hlength⟩, htoken, htarget, hoctets, hversion.symm⟩
      exact ⟨method, target, version, hline, by simpa [List.intercalate] using hjoin.symm⟩
    · cases h
  · intro h
    obtain ⟨method, target, version, hline, rfl⟩ := h
    have hmethod := space_not_mem hline.isMethodText
    have htarget := hline.not_mem_target (b := space) (by decide)
    have hversion := hline.not_mem_version (b := space) (by decide) (by decide)
    have hparts : (method ++ [space] ++ target ++ [space] ++ version).splitOn space =
        [method, target, version] := by
      rw [List.append_assoc, List.append_assoc, List.append_assoc, List.singleton_append,
        List.splitOn_append_cons_self_of_not_mem hmethod, List.singleton_append,
        List.splitOn_append_cons_self_of_not_mem htarget, List.splitOn_eq_singleton hversion]
    have hne : method ≠ [] := List.length_pos_iff.mp hline.method_length.1
    have hmem : version ∈ versions := by
      cases hline.version with
      | inl heq => rw [heq]; decide
      | inr heq => rw [heq]; decide
    have htargetOctets : target.all isTargetOctet = true := by
      rw [List.all_eq_true]
      intro b hb
      simpa [isTargetOctet] using hline.target_octets b hb
    rw [isRequestLine, hparts]
    simp [hne, hline.isMethodText, hline.target_ne_nil, htargetOctets, hmem]

/-! ## The opening -/

/-- **The first line feed ends the line.** -/
theorem startsWithLine_iff (octets : Octets) :
    StartsWithLine octets ↔ lineFeed ∈ octets ∧
      isRequestLine (dropReturn (octets.takeWhile (· != lineFeed))) = true := by
  constructor
  · intro h
    obtain ⟨method, target, version, ending, rest, hline, hending, rfl⟩ := h
    generalize hwhole : method ++ [space] ++ target ++ [space] ++ version = line
    have hfeed : lineFeed ∉ line := hwhole ▸ hline.lineFeed_not_mem
    have hrequest : isRequestLine line = true :=
      (isRequestLine_iff line).mpr ⟨method, target, version, hline, hwhole.symm⟩
    cases hending with
    | inl heq =>
        subst heq
        refine ⟨by simp, ?_⟩
        rw [List.append_assoc, List.singleton_append, takeWhile_front hfeed, ← hwhole,
          hline.dropReturn_eq, hwhole]
        exact hrequest
    | inr heq =>
        subst heq
        have hreturn : lineFeed ∉ line ++ [carriageReturn] := by
          simp only [List.mem_append, List.mem_singleton, not_or]
          exact ⟨hfeed, by decide⟩
        have hsplit : line ++ [carriageReturn, lineFeed] ++ rest =
            line ++ [carriageReturn] ++ lineFeed :: rest := by simp
        refine ⟨by simp, ?_⟩
        rw [hsplit, takeWhile_front hreturn, dropReturn, if_pos (by simp), List.dropLast_concat]
        exact hrequest
  · intro h
    obtain ⟨hmem, hrequest⟩ := h
    obtain ⟨line, rest, rfl, hfeed⟩ := List.eq_append_cons_of_mem hmem
    rw [takeWhile_front hfeed] at hrequest
    obtain ⟨method, target, version, hline, hwhole⟩ := (isRequestLine_iff _).mp hrequest
    by_cases hreturn : line.getLast? = some carriageReturn
    · refine ⟨method, target, version, [carriageReturn, lineFeed], rest, hline, Or.inr rfl, ?_⟩
      rw [← hwhole, dropReturn, if_pos hreturn]
      obtain ⟨front, rfl⟩ := List.getLast?_eq_some_iff.mp hreturn
      simp
    · refine ⟨method, target, version, [lineFeed], rest, hline, Or.inl rfl, ?_⟩
      rw [← hwhole, dropReturn, if_neg hreturn]
      simp

/-- What is matched starts with a known method or with a request line. -/
theorem classify_http_iff (octets : Octets) :
    classify octets = .matched .http ↔ StartsWithKnown octets ∨ StartsWithLine octets := by
  rw [startsWithLine_iff, StartsWithKnown, ← startsWithKnownMethod_iff]
  cases hknown : startsWithKnownMethod octets with
  | true => simp [classify, hknown]
  | false =>
      by_cases hline : lineFeed ∈ octets
      · cases hrequest : isRequestLine (dropReturn (octets.takeWhile (· != lineFeed))) <;>
          simp [classify, hknown, hline, hrequest]
      · cases hmay : mayBecomeRequestLine octets <;> simp [classify, hknown, hline, hmay]

/-- No known method agrees with the preface. -/
theorem knownMethod_disagrees :
    ∀ method ∈ knownMethods, Preface.Disagrees (method ++ [space]) := by
  unfold Preface.Disagrees
  decide

/-- **The preface is no request**, and no beginning of one. -/
theorem disagrees_of_classify_http {octets : Octets} (h : classify octets = .matched .http) :
    Preface.Disagrees octets := by
  cases (classify_http_iff octets).mp h with
  | inl hknown =>
      obtain ⟨method, hmem, rest, rfl⟩ := hknown
      exact (knownMethod_disagrees method hmem).append rest
  | inr hline =>
      obtain ⟨hfeed, hrequest⟩ := (startsWithLine_iff octets).mp hline
      -- an opening with a line feed that agrees with the preface has its first line
      have hother : octets.takeWhile (· != lineFeed) ≠
          Preface.octets.takeWhile (· != lineFeed) := by
        intro hsame
        rw [hsame] at hrequest
        revert hrequest
        decide
      refine ⟨?_, ?_⟩
      · intro hbeginning
        obtain ⟨rest, hrest⟩ := hbeginning
        exact hother (by rw [← hrest, firstLine_append hfeed])
      · intro hstart
        obtain ⟨rest, rfl⟩ := hstart
        exact hother (firstLine_append (by decide) rest)

end RequestLine

open RequestLine in
/-- **What is read as HTTP/1.**  An opening is matched as HTTP/1 exactly if it starts with a known
method and a space, or with a whole request line; and none that is a beginning of the HTTP/2 preface
or starts with it ever is. -/
theorem http_iff_request (decompress : Preface.Decompress) (octets : Octets) :
    (classifyWith decompress octets = .matched .http ↔
      StartsWithKnown octets ∨ StartsWithLine octets) ∧
    ¬ (classifyWith decompress octets = .matched .http ∧
      (octets <+: Preface.octets ∨ Preface.octets <+: octets)) := by
  have hiff : classifyWith decompress octets = .matched .http ↔
      RequestLine.classify octets = .matched .http := by
    constructor
    · intro h
      rcases opening_cases octets with ⟨hbeginning, hne⟩ | ⟨frames, rfl⟩ | hdisagrees
      · simp [classifyWith_of_beginning hbeginning hne] at h
      · rw [classifyWith_of_preface] at h
        exact absurd h (Preface.classifyFrames_ne_http frames (by simp))
      · rwa [classifyWith_of_disagrees hdisagrees] at h
    · intro h
      rw [classifyWith_of_disagrees (disagrees_of_classify_http h), h]
  refine ⟨hiff.trans (classify_http_iff octets), ?_⟩
  intro h
  obtain ⟨hbeginning, hstart⟩ := disagrees_of_classify_http (hiff.mp h.1)
  exact h.2.elim hbeginning hstart

end ServiceHost
