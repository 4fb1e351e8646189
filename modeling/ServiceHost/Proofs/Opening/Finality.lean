import ServiceHost.Proofs.Opening.FrameWalk
import ServiceHost.Proofs.Opening.RequestLines

/-!
# A decision is final

An opening agrees with the HTTP/2 preface up to its own end, has all of it in front, or disagrees
with it for good (`opening_cases`); which of the three it is only changes from the first to one of
the others.  Within each of the latter two the verdict stays once it is there, so asking again
after every chunk finds the same decision as asking once about everything (`firstDecision_alike`).
-/

namespace ServiceHost

/-- Verdicts that decide alike: the same protocol, a rejection each, or no decision. -/
def Verdict.Alike : Verdict → Verdict → Prop
  | .matched protocol, .matched other => protocol = other
  | .reject _, .reject _ => True
  | .needMore, .needMore => True
  | _, _ => False

theorem Verdict.alike_of_eq {verdict other : Verdict} (h : verdict = other) :
    verdict.Alike other := by
  subst h
  cases verdict <;> simp [Verdict.Alike]

/-- Whether no connection with this opening has the preface. -/
def Preface.Disagrees (octets : Octets) : Prop :=
  ¬ octets <+: Preface.octets ∧ ¬ Preface.octets <+: octets

/-- An opening is a strict beginning of the preface, starts with it, or disagrees with it. -/
theorem opening_cases (octets : Octets) :
    (octets <+: Preface.octets ∧ octets ≠ Preface.octets) ∨ Preface.octets <+: octets ∨
      Preface.Disagrees octets := by
  by_cases hstart : Preface.octets <+: octets
  · exact Or.inr (Or.inl hstart)
  by_cases hbeginning : octets <+: Preface.octets
  · refine Or.inl ⟨hbeginning, ?_⟩
    rintro rfl
    exact hstart (List.prefix_refl _)
  · exact Or.inr (Or.inr ⟨hbeginning, hstart⟩)

theorem Preface.Disagrees.append {octets : Octets} (h : Disagrees octets) (extra : Octets) :
    Disagrees (octets ++ extra) := by
  constructor
  · exact fun hbeginning => h.1 ((List.prefix_append _ _).trans hbeginning)
  · intro hstart
    rcases List.prefix_or_prefix_of_prefix hstart (List.prefix_append octets extra) with hs | hb
    · exact h.2 hs
    · exact h.1 hb

variable {decompress : Preface.Decompress}

theorem classifyWith_of_beginning {octets : Octets} (hbeginning : octets <+: Preface.octets)
    (hne : octets ≠ Preface.octets) : classifyWith decompress octets = .needMore := by
  have hlt : octets.length < Preface.octets.length := by
    refine Nat.lt_of_le_of_ne hbeginning.length_le ?_
    exact fun hlen => hne (hbeginning.eq_of_length hlen)
  simp [classifyWith, hbeginning, hlt]

theorem classifyWith_of_preface (frames : Octets) :
    classifyWith decompress (Preface.octets ++ frames) =
      Preface.classifyFrames decompress .beforeHeaders frames := by
  have hlong : ¬ (Preface.octets ++ frames).length < Preface.octets.length := by
    rw [List.length_append]
    omega
  rw [classifyWith, if_neg (fun h => hlong h.2), if_pos (by simp), List.drop_left]

theorem classifyWith_of_disagrees {octets : Octets} (h : Preface.Disagrees octets) :
    classifyWith decompress octets = RequestLine.classify octets := by
  simp [classifyWith, h.1, h.2]

@[simp] theorem classifyWith_nil : classifyWith decompress [] = .needMore :=
  classifyWith_of_beginning (List.nil_prefix) (by decide)

/-- **A match is final.** -/
theorem classifyWith_matched_append {octets : Octets} {protocol : Protocol}
    (h : classifyWith decompress octets = .matched protocol) (extra : Octets) :
    classifyWith decompress (octets ++ extra) = .matched protocol := by
  rcases opening_cases octets with ⟨hbeginning, hne⟩ | ⟨frames, rfl⟩ | hdisagrees
  · simp [classifyWith_of_beginning hbeginning hne] at h
  · rw [classifyWith_of_preface] at h
    rw [List.append_assoc, classifyWith_of_preface,
      Preface.classifyFrames_append (by simp [h]), h]
  · rw [classifyWith_of_disagrees hdisagrees] at h
    rw [classifyWith_of_disagrees (hdisagrees.append extra)]
    exact RequestLine.classify_matched_append h extra

/-- **A rejection is final**, though its reason may change. -/
theorem classifyWith_reject_append {octets : Octets} {reason : Rejection}
    (h : classifyWith decompress octets = .reject reason) (extra : Octets) :
    ∃ other, classifyWith decompress (octets ++ extra) = .reject other := by
  rcases opening_cases octets with ⟨hbeginning, hne⟩ | ⟨frames, rfl⟩ | hdisagrees
  · simp [classifyWith_of_beginning hbeginning hne] at h
  · rw [classifyWith_of_preface] at h
    refine ⟨reason, ?_⟩
    rw [List.append_assoc, classifyWith_of_preface,
      Preface.classifyFrames_append (by simp [h]), h]
  · rw [classifyWith_of_disagrees hdisagrees] at h
    rw [classifyWith_of_disagrees (hdisagrees.append extra)]
    exact RequestLine.classify_reject_append h extra

/-- The first decision about a connection of which `seen` has arrived, asked for again after each
chunk. -/
def firstDecision (decompress : Preface.Decompress) (seen : Octets) : List Octets → Verdict
  | [] => .needMore
  | chunk :: chunks =>
    match classifyWith decompress (seen ++ chunk) with
    | .needMore => firstDecision decompress (seen ++ chunk) chunks
    | verdict => verdict

/-- The first decision is the one about everything that arrives. -/
theorem firstDecision_alike {seen : Octets} (hseen : classifyWith decompress seen = .needMore)
    (chunks : List Octets) :
    (firstDecision decompress seen chunks).Alike
      (classifyWith decompress (seen ++ chunks.flatten)) := by
  induction chunks generalizing seen with
  | nil => simp [firstDecision, hseen, Verdict.Alike]
  | cons chunk chunks ih =>
      rw [List.flatten_cons, ← List.append_assoc, firstDecision]
      cases hverdict : classifyWith decompress (seen ++ chunk) with
      | needMore => exact ih hverdict
      | matched protocol =>
          exact Verdict.alike_of_eq (classifyWith_matched_append hverdict _).symm
      | reject reason =>
          obtain ⟨other, hother⟩ := classifyWith_reject_append hverdict chunks.flatten
          rw [hother]
          trivial

/-- **Decisions are final.**  Once an opening matches a protocol or is rejected, more octets leave
it at that, and so it does not matter into which chunks a connection is cut: the first decision that
is reached by asking after each chunk is the decision about all chunks at once. -/
theorem decision_final (decompress : Preface.Decompress) :
    (∀ octets extra protocol, classifyWith decompress octets = .matched protocol →
      classifyWith decompress (octets ++ extra) = .matched protocol) ∧
    (∀ octets extra reason, classifyWith decompress octets = .reject reason →
      ∃ other, classifyWith decompress (octets ++ extra) = .reject other) ∧
    ∀ chunks : List Octets,
      (firstDecision decompress [] chunks).Alike (classifyWith decompress chunks.flatten) :=
  ⟨fun _ extra _ h => classifyWith_matched_append h extra,
    fun _ extra _ h => classifyWith_reject_append h extra,
    fun chunks => firstDecision_alike classifyWith_nil chunks⟩

/-- A known method and a first word that is none decide before their line ends. -/
theorem decision_final_first_word :
    classifyWith HeaderBlock.decode? (Octets.ascii "PUT /x") = .matched .http ∧
    classifyWith HeaderBlock.decode? (Octets.ascii "PUT /x" ++ Octets.ascii " SPDY/3\r\n") =
      .matched .http ∧
    classifyWith HeaderBlock.decode? (Octets.ascii "BR(W") = .reject .notRequest ∧
    ∃ other, classifyWith HeaderBlock.decode? (Octets.ascii "BR(W" ++ Octets.ascii " /x\r\n") =
      .reject other := by
  have hput : classifyWith HeaderBlock.decode? (Octets.ascii "PUT /x") = .matched .http := by
    decide
  have hbrew : classifyWith HeaderBlock.decode? (Octets.ascii "BR(W") = .reject .notRequest := by
    decide
  obtain ⟨hmatched, hrejected, -⟩ := decision_final HeaderBlock.decode?
  exact ⟨hput, hmatched _ _ _ hput, hbrew, hrejected _ _ _ hbrew⟩

end ServiceHost
