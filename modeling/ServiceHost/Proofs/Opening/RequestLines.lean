import Mathlib.Data.List.TakeWhile
import ServiceHost.Opening.RequestLine

/-!
# Openings of HTTP/1 requests

Every opening that is or can become a request agrees with a method and a space as far as both go
(`mayBecomeRequestLine_iff`).  Agreement only gets lost when octets arrive, never won
(`mayBecomeRequestLine_of_append`), so an opening that is refused before its first line ends is
refused whatever follows (`classify_reject_append`); and behind the end of its first line nothing is
looked at any more (`firstLine_append`).
-/

namespace ServiceHost.RequestLine

/-- Whether octets are a whole method. -/
def IsMethod (method : Octets) : Prop :=
  method ≠ [] ∧ isMethodText method = true

/-- An octet that no token has is in no method. -/
theorem not_mem_methodText {b : UInt8} (hb : Octets.isTokenOctet b = false) {method : Octets}
    (h : isMethodText method = true) : b ∉ method := by
  intro hmem
  simp only [isMethodText, Bool.and_eq_true, List.all_eq_true] at h
  exact absurd (h.2 b hmem) (by simp [hb])

theorem space_not_mem {method : Octets} (h : isMethodText method = true) : space ∉ method :=
  not_mem_methodText (by decide) h

theorem lineFeed_not_mem {method : Octets} (h : isMethodText method = true) :
    lineFeed ∉ method :=
  not_mem_methodText (by decide) h

/-- A beginning of a method is made of the octets of methods. -/
theorem isMethodText_of_isPrefix {front method : Octets} (hfront : front <+: method)
    (h : isMethodText method = true) : isMethodText front = true := by
  simp only [isMethodText, Bool.and_eq_true, decide_eq_true_eq, List.all_eq_true] at h ⊢
  exact ⟨Nat.le_trans hfront.length_le h.1, fun b hb => h.2 b (hfront.subset hb)⟩

/-- The octets in front of the first separator. -/
theorem takeWhile_front {separator : UInt8} {front : Octets} (hfront : separator ∉ front)
    (rest : Octets) : (front ++ separator :: rest).takeWhile (· != separator) = front := by
  have hall : ∀ b ∈ front, (b != separator) = true := by
    intro b hb
    simp only [bne_iff_ne, ne_eq]
    rintro rfl
    exact hfront hb
  rw [List.takeWhile_append_of_pos hall]
  simp

/-- Without a separator everything stands in front of it. -/
theorem takeWhile_all {separator : UInt8} {octets : Octets} (h : separator ∉ octets) :
    octets.takeWhile (· != separator) = octets := by
  rw [List.takeWhile_eq_self_iff]
  intro b hb
  simp only [bne_iff_ne, ne_eq]
  rintro rfl
  exact h hb

/-- **Octets can become a request line** when they are the beginning of a method, or start with a
whole one and a space. -/
theorem mayBecomeRequestLine_iff (octets : Octets) :
    mayBecomeRequestLine octets = true ↔
      ∃ method, IsMethod method ∧ (octets <+: method ∨ method ++ [space] <+: octets) := by
  constructor
  · intro h
    by_cases hspace : space ∈ octets
    · obtain ⟨word, rest, rfl, hword⟩ := List.eq_append_cons_of_mem hspace
      rw [mayBecomeRequestLine, takeWhile_front hword] at h
      simp only [Bool.and_eq_true, Bool.not_eq_true', Bool.and_eq_false_iff] at h
      refine ⟨word, ⟨?_, h.1⟩, Or.inr ⟨rest, by simp⟩⟩
      rintro rfl
      simp at h
    · rw [mayBecomeRequestLine, takeWhile_all hspace] at h
      by_cases hnil : octets = []
      · exact ⟨Octets.ascii "GET", ⟨by decide, by decide⟩, Or.inl (by simp [hnil])⟩
      · simp only [Bool.and_eq_true] at h
        exact ⟨octets, ⟨hnil, h.1⟩, Or.inl (List.prefix_refl _)⟩
  · rintro ⟨method, ⟨hne, hmethod⟩, hfront | ⟨rest, rfl⟩⟩
    · have htext := isMethodText_of_isPrefix hfront hmethod
      rw [mayBecomeRequestLine, takeWhile_all (space_not_mem htext)]
      simp [htext]
    · rw [mayBecomeRequestLine, List.append_assoc, List.singleton_append,
        takeWhile_front (space_not_mem hmethod)]
      simp [hmethod, hne]

/-- What starts with a word and a space still does so without its last octets, or is then the
beginning of that word. -/
theorem beginning_or_start_of_append {method octets extra : Octets}
    (h : method ++ [space] <+: octets ++ extra) :
    octets <+: method ∨ method ++ [space] <+: octets := by
  rcases Nat.lt_or_ge octets.length (method ++ [space]).length with hshort | hlong
  · have hle : octets.length ≤ method.length := by simpa [Nat.lt_succ_iff] using hshort
    exact Or.inl (List.prefix_of_prefix_length_le (List.prefix_append _ _)
      ((List.prefix_append _ _).trans h) hle)
  · exact Or.inr (List.prefix_of_prefix_length_le h (List.prefix_append _ _) hlong)

/-- Agreement with a method does not come back. -/
theorem mayBecomeRequestLine_of_append {octets extra : Octets}
    (h : mayBecomeRequestLine (octets ++ extra) = true) : mayBecomeRequestLine octets = true := by
  rw [mayBecomeRequestLine_iff] at h ⊢
  obtain ⟨method, hmethod, hfront | hstart⟩ := h
  · exact ⟨method, hmethod, Or.inl ((List.prefix_append _ _).trans hfront)⟩
  · exact ⟨method, hmethod, beginning_or_start_of_append hstart⟩

theorem isMethod_of_known {method : Octets} (h : method ∈ knownMethods) : IsMethod method := by
  revert method
  unfold IsMethod
  decide

/-- A known method at the start is one of the methods. -/
theorem startsWithKnownMethod_iff (octets : Octets) :
    startsWithKnownMethod octets = true ↔
      ∃ method ∈ knownMethods, method ++ [space] <+: octets := by
  simp [startsWithKnownMethod]

/-- A request line starts with a method and a space. -/
theorem exists_method_of_isRequestLine {line : Octets} (h : isRequestLine line = true) :
    ∃ method, IsMethod method ∧ method ++ [space] <+: line := by
  unfold isRequestLine at h
  split at h
  · rename_i method target version hparts
    simp only [Bool.and_eq_true, Bool.not_eq_true', List.isEmpty_eq_false_iff] at h
    refine ⟨method, ⟨h.1.1.1.1, h.1.1.1.2⟩, ?_⟩
    by_cases hspace : space ∈ line
    · obtain ⟨word, rest, rfl, hword⟩ := List.eq_append_cons_of_mem hspace
      rw [List.splitOn_append_cons_self_of_not_mem hword] at hparts
      simp only [List.cons.injEq] at hparts
      exact ⟨rest, by simp [hparts.1]⟩
    · rw [List.splitOn_eq_singleton hspace] at hparts
      simp at hparts
  · simp at h

theorem dropReturn_isPrefix (line : Octets) : dropReturn line <+: line := by
  unfold dropReturn
  split
  · exact List.dropLast_prefix line
  · exact List.prefix_refl line

/-- Behind the end of the first line nothing is looked at. -/
theorem firstLine_append {octets : Octets} (h : lineFeed ∈ octets) (extra : Octets) :
    (octets ++ extra).takeWhile (· != lineFeed) = octets.takeWhile (· != lineFeed) := by
  obtain ⟨line, rest, rfl, hline⟩ := List.eq_append_cons_of_mem h
  rw [List.append_assoc, List.cons_append, takeWhile_front hline, takeWhile_front hline]

theorem startsWithKnownMethod_append {octets : Octets} (h : startsWithKnownMethod octets = true)
    (extra : Octets) : startsWithKnownMethod (octets ++ extra) = true := by
  rw [startsWithKnownMethod_iff] at h ⊢
  obtain ⟨method, hmem, hstart⟩ := h
  exact ⟨method, hmem, hstart.trans (List.prefix_append _ _)⟩

/-- Octets that start with a known method later on could become a request line before. -/
theorem mayBecomeRequestLine_of_known {octets : Octets}
    (h : startsWithKnownMethod octets = true) : mayBecomeRequestLine octets = true := by
  obtain ⟨method, hmem, hstart⟩ := (startsWithKnownMethod_iff octets).mp h
  exact (mayBecomeRequestLine_iff octets).mpr ⟨method, isMethod_of_known hmem, Or.inr hstart⟩

/-- Octets with a request line could become one before. -/
theorem mayBecomeRequestLine_of_line {octets : Octets}
    (h : isRequestLine (dropReturn (octets.takeWhile (· != lineFeed))) = true) :
    mayBecomeRequestLine octets = true := by
  obtain ⟨method, hmethod, hstart⟩ := exists_method_of_isRequestLine h
  refine (mayBecomeRequestLine_iff octets).mpr ⟨method, hmethod, Or.inr ?_⟩
  exact (hstart.trans (dropReturn_isPrefix _)).trans (List.takeWhile_prefix _)

/-- A known method does not appear once the first line has ended. -/
theorem startsWithKnownMethod_of_append {octets extra : Octets} (hline : lineFeed ∈ octets)
    (h : startsWithKnownMethod (octets ++ extra) = true) : startsWithKnownMethod octets = true := by
  rw [startsWithKnownMethod_iff] at h ⊢
  obtain ⟨method, hmem, hstart⟩ := h
  refine ⟨method, hmem, (beginning_or_start_of_append hstart).resolve_left ?_⟩
  intro hfront
  exact lineFeed_not_mem (isMethod_of_known hmem).2 (hfront.subset hline)

/-- **A match stays** when more octets arrive. -/
theorem classify_matched_append {octets : Octets} {protocol : Protocol}
    (h : classify octets = .matched protocol) (extra : Octets) :
    classify (octets ++ extra) = .matched protocol := by
  unfold classify at h
  split at h
  · rename_i hknown
    simpa [classify, startsWithKnownMethod_append hknown extra] using h
  split at h
  · rename_i hknown hline
    have hmem : lineFeed ∈ octets := by simpa using hline
    split at h
    · rename_i hrequest
      rw [← firstLine_append hmem extra] at hrequest
      have hmem' : lineFeed ∈ octets ++ extra := List.mem_append_left _ hmem
      simpa [classify, hmem', hrequest] using h
    · simp at h
  · split at h <;> simp at h

/-- What is refused: octets without a known method, whose first line is no request line, or cannot
become one where it has not ended. -/
theorem exists_reject_iff (octets : Octets) :
    (∃ reason, classify octets = .reject reason) ↔ startsWithKnownMethod octets = false ∧
      if lineFeed ∈ octets then
        isRequestLine (dropReturn (octets.takeWhile (· != lineFeed))) = false
      else mayBecomeRequestLine octets = false := by
  cases hknown : startsWithKnownMethod octets with
  | true => simp [classify, hknown]
  | false =>
      by_cases hline : lineFeed ∈ octets
      · cases hrequest : isRequestLine (dropReturn (octets.takeWhile (· != lineFeed))) <;>
          simp [classify, hknown, hline, hrequest]
      · cases hmay : mayBecomeRequestLine octets <;> simp [classify, hknown, hline, hmay]

/-- What cannot become a request line is refused, whether its first line has ended or not. -/
theorem exists_reject_of_hopeless {octets : Octets} (h : mayBecomeRequestLine octets = false) :
    ∃ reason, classify octets = .reject reason := by
  rw [exists_reject_iff]
  constructor
  · rw [Bool.eq_false_iff]
    intro hknown
    simp [mayBecomeRequestLine_of_known hknown] at h
  split
  · rw [Bool.eq_false_iff]
    intro hrequest
    simp [mayBecomeRequestLine_of_line hrequest] at h
  · exact h

/-- **A refusal stays**: what is no request is none with more octets behind it. -/
theorem classify_reject_append {octets : Octets} {reason : Rejection}
    (h : classify octets = .reject reason) (extra : Octets) :
    ∃ other, classify (octets ++ extra) = .reject other := by
  obtain ⟨hknown, hrest⟩ := (exists_reject_iff octets).mp ⟨reason, h⟩
  by_cases hline : lineFeed ∈ octets
  · rw [if_pos hline, ← firstLine_append hline extra] at hrest
    rw [exists_reject_iff, if_pos (List.mem_append_left _ hline), Bool.eq_false_iff]
    refine ⟨fun hlater => ?_, hrest⟩
    simp [startsWithKnownMethod_of_append hline hlater] at hknown
  · rw [if_neg hline] at hrest
    apply exists_reject_of_hopeless
    rw [Bool.eq_false_iff]
    intro hlater
    simp [mayBecomeRequestLine_of_append hlater] at hrest

end ServiceHost.RequestLine
