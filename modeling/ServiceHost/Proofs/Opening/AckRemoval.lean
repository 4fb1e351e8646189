import ServiceHost.Proofs.Opening.Finality
import ServiceHost.Proofs.Opening.SettingsAck

/-!
# Taking the acknowledgement out is exact and harmless

An acknowledgement of settings is found exactly if the walk over the frames comes by one
(`withoutSettingsAck?_isSome_iff`), and what arrives later changes nothing about it
(`AckRemoved.append`).  In front of the first headers an acknowledgement leaves the walk of the verdict
where it is, behind the decision it is not looked at, and inside a header block the connection is
rejected; so a connection that is not rejected has the same verdict without it
(`AckRemoved.classifyWith_eq`).
-/

namespace ServiceHost.Preface

/-- Whether the walk over the frames behind the preface, from one length field to the next, comes by
an acknowledgement of settings. -/
def HoldsAck (connection : Octets) : Prop :=
  ∃ (before : List Frame) (ack : Frame) (behind : Octets),
    (∀ frame ∈ before, frame.Fits) ∧ ack.isSettingsAck = true ∧
    connection = octets ++ before.flatMap Frame.encode ++ ack.encode ++ behind

/-- Frames with an acknowledgement among them have a first one. -/
theorem framesWithoutAck?_isSome {before : List Frame} {ack : Frame}
    (hfits : ∀ frame ∈ before, frame.Fits) (hack : ack.isSettingsAck = true) (behind : Octets) :
    (framesWithoutAck? (before.flatMap Frame.encode ++ ack.encode ++ behind)).isSome = true := by
  induction before with
  | nil =>
      have hread := Frame.read?_encode (fits_of_isSettingsAck hack) behind
      rw [List.flatMap_nil, List.nil_append, framesWithoutAck?_of_ack hread hack]
      rfl
  | cons frame before ih =>
      have hrest := ih fun other hmem => hfits other (List.mem_cons_of_mem _ hmem)
      have hread := Frame.read?_encode (hfits frame List.mem_cons_self)
        (before.flatMap Frame.encode ++ ack.encode ++ behind)
      have hsplit : (frame :: before).flatMap Frame.encode ++ ack.encode ++ behind =
          frame.encode ++ (before.flatMap Frame.encode ++ ack.encode ++ behind) := by simp
      rw [hsplit]
      cases hother : frame.isSettingsAck with
      | true => rw [framesWithoutAck?_of_ack hread hother]; rfl
      | false => rw [framesWithoutAck?_of_other hread hother, Option.isSome_map]; exact hrest

/-- **An acknowledgement is found exactly if there is one** where the walk comes by. -/
theorem withoutSettingsAck?_isSome_iff (connection : Octets) :
    (withoutSettingsAck? connection).isSome = true ↔ HoldsAck connection := by
  constructor
  · intro h
    obtain ⟨left, hleft⟩ := Option.isSome_iff_exists.mp h
    obtain ⟨frames, others, rfl, -, before, ack, behind, rfl, -, hack, hbefore⟩ :=
      (withoutSettingsAck?_eq_some_iff connection left).mp hleft
    exact ⟨before, ack, behind, fun frame hmem => (hbefore frame hmem).1, hack, by simp⟩
  · intro h
    obtain ⟨before, ack, behind, hfits, hack, rfl⟩ := h
    have hfound := framesWithoutAck?_isSome hfits hack behind
    rw [List.append_assoc, List.append_assoc, ← List.append_assoc _ ack.encode, withoutSettingsAck?,
      if_pos (by simp), List.drop_left, Option.isSome_map]
    exact hfound

/-- What arrives later changes nothing about the acknowledgement. -/
theorem AckRemoved.append {connection left : Octets} (h : AckRemoved connection left)
    (extra : Octets) : AckRemoved (connection ++ extra) (left ++ extra) := by
  obtain ⟨_, _, rfl, rfl, before, ack, behind, rfl, rfl, hack, hbefore⟩ := h
  exact ⟨_, _, List.append_assoc _ _ _, List.append_assoc _ _ _, before, ack, behind ++ extra,
    by simp, by simp, hack, hbefore⟩

variable {decompress : Decompress}

/-- An acknowledgement decides nothing, unless it stands inside a header block. -/
theorem advance_ack {ack : Frame} (hack : ack.isSettingsAck = true) (progress : Progress) :
    advance decompress progress ack = progress ∨
      advance decompress progress ack = .decided (.reject .interleaved) := by
  have hkind : ack.kind = Frame.settings := by
    simp only [Frame.isSettingsAck, Bool.and_eq_true, beq_iff_eq] at hack
    exact hack.1.1
  cases progress with
  | decided verdict => exact Or.inl rfl
  | beforeHeaders =>
      have hplain : ack.kind ≠ Frame.headers := by
        rw [hkind]
        decide
      have hconnection : isConnectionFrame ack = true := by
        rw [isConnectionFrame, hkind]
        decide
      exact Or.inl (by rw [advance, if_neg hplain, if_pos hconnection])
  | inBlock block =>
      have hother : ack.kind ≠ Frame.continuation := by
        rw [hkind]
        decide
      exact Or.inr (by rw [advance, if_neg hother])

/-- **A connection that is not rejected has the same verdict** without its acknowledgement. -/
theorem AckRemoved.classifyWith_eq {connection left : Octets} (h : AckRemoved connection left)
    (hnot : ∀ reason, classifyWith decompress connection ≠ .reject reason) :
    classifyWith decompress left = classifyWith decompress connection := by
  obtain ⟨_, _, rfl, rfl, before, ack, behind, rfl, rfl, hack, hbefore⟩ := h
  have hfits : ∀ frame ∈ before, frame.Fits := fun frame hmem => (hbefore frame hmem).1
  have hread := Frame.read?_encode (fits_of_isSettingsAck hack) behind
  have hwhole : classifyWith decompress
      (octets ++ (before.flatMap Frame.encode ++ ack.encode ++ behind)) =
        classifyFrames decompress
          (advance decompress (before.foldl (advance decompress) .beforeHeaders) ack) behind := by
    rw [classifyWith_of_preface, List.append_assoc, classifyFrames_encode hfits,
      classifyFrames_of_read?_some hread]
  rw [hwhole] at hnot ⊢
  rw [classifyWith_of_preface, classifyFrames_encode hfits]
  cases advance_ack hack (before.foldl (advance decompress) .beforeHeaders) with
  | inl hsame => rw [hsame]
  | inr hreject =>
      rw [hreject, classifyFrames_decided] at hnot
      exact absurd rfl (hnot _)

end ServiceHost.Preface

namespace ServiceHost

open Preface in
/-- **Taking the acknowledgement out is exact and harmless.**
- It is possible exactly if the walk over the frames behind the preface comes by an acknowledgement
  of settings, all of which has arrived; without one the connection stays as it is.
- What is left is the connection without the first such frame, and all else in its place.
- A connection that matches a protocol or needs more has the same verdict afterwards.
- What arrives later makes no difference to what is taken out. -/
theorem ack_removal_exact (decompress : Decompress) :
    (∀ connection, (withoutSettingsAck? connection).isSome = true ↔ HoldsAck connection) ∧
    (∀ connection left,
      withoutSettingsAck? connection = some left ↔ AckRemoved connection left) ∧
    (∀ connection, (∀ reason, classifyWith decompress connection ≠ .reject reason) →
      classifyWith decompress ((withoutSettingsAck? connection).getD connection) =
        classifyWith decompress connection) ∧
    ∀ connection left extra, withoutSettingsAck? connection = some left →
      withoutSettingsAck? (connection ++ extra) = some (left ++ extra) := by
  refine ⟨withoutSettingsAck?_isSome_iff, withoutSettingsAck?_eq_some_iff, ?_, ?_⟩
  · intro connection hnot
    cases hleft : withoutSettingsAck? connection with
    | none => rfl
    | some left =>
        have hremoved := (withoutSettingsAck?_eq_some_iff connection left).mp hleft
        exact hremoved.classifyWith_eq hnot
  · intro connection left extra hleft
    have hremoved := (withoutSettingsAck?_eq_some_iff connection left).mp hleft
    exact (withoutSettingsAck?_eq_some_iff _ _).mpr (hremoved.append extra)

/-- The acknowledgement of the server's settings. -/
def clientAck : Frame :=
  { kind := Frame.settings, flags := Frame.ackFlag, stream := 0, payload := [] }

/-- A probe whose payload has the octets of an acknowledgement, cut behind the eighth. -/
def ackLookalike : Frame :=
  { kind := Frame.ping, flags := 0, stream := 0, payload := clientAck.encode.take 8 }

open Preface in
/-- The acknowledgement behind a probe that looks like one goes, and the probe stays. -/
theorem ack_removal_exact_behind_lookalike :
    let connection := Preface.octets ++ (ackLookalike.encode ++ clientAck.encode ++ [0, 0])
    let left := Preface.octets ++ (ackLookalike.encode ++ [0, 0])
    withoutSettingsAck? connection = some left ∧
    classifyWith HeaderBlock.decode? connection = .needMore ∧
    classifyWith HeaderBlock.decode? left = .needMore ∧
    withoutSettingsAck? (connection ++ [4]) = some (left ++ [4]) := by
  intro connection left
  obtain ⟨-, hexact, hharmless, hlater⟩ := ack_removal_exact HeaderBlock.decode?
  have hremoved : AckRemoved connection left :=
    ⟨_, _, rfl, rfl, [ackLookalike], clientAck, [0, 0], by simp, by simp, by decide, by decide⟩
  have hleft : withoutSettingsAck? connection = some left :=
    (hexact connection left).mpr hremoved
  have hneeds : classifyWith HeaderBlock.decode? connection = .needMore := by
    have hframes : ackLookalike.encode ++ clientAck.encode ++ [0, 0] =
        [ackLookalike, clientAck].flatMap Frame.encode ++ [0, 0] := by simp
    have hopen : [ackLookalike, clientAck].foldl (advance HeaderBlock.decode?) .beforeHeaders =
        .beforeHeaders := by decide
    rw [classifyWith_of_preface, hframes, classifyFrames_encode (by decide), hopen]
    exact classifyFrames_of_read?_none (by simp [Progress.IsOpen]) rfl
  have hsame := hharmless connection (by simp [hneeds])
  rw [hleft, Option.getD_some, hneeds] at hsame
  exact ⟨hleft, hneeds, hsame, hlater connection left [4] hleft⟩

end ServiceHost
