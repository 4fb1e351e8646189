import ServiceHost.Opening.Preface
import ServiceHost.Proofs.Http2.Frames

/-!
# The acknowledgement that is taken out

`AckRemoved` says what it means to take the first acknowledgement of settings out of a connection:
the frames in front of it are none, it goes with its nine octets, and nothing else changes.
Exactly then `withoutSettingsAck?` finds one (`withoutSettingsAck?_eq_some_iff`).
-/

namespace ServiceHost.Preface

/-- One sequence of frames is another without its first acknowledgement of settings. -/
def FrameAckRemoved (frames left : Octets) : Prop :=
  ∃ (before : List Frame) (ack : Frame) (behind : Octets),
    frames = before.flatMap Frame.encode ++ ack.encode ++ behind ∧
    left = before.flatMap Frame.encode ++ behind ∧
    ack.isSettingsAck = true ∧
    ∀ frame ∈ before, frame.Fits ∧ frame.isSettingsAck = false

/-- One connection is another without the first acknowledgement of settings behind its preface. -/
def AckRemoved (connection left : Octets) : Prop :=
  ∃ frames others, connection = octets ++ frames ∧ left = octets ++ others ∧
    FrameAckRemoved frames others

/-- An acknowledgement takes up a header and nothing else. -/
theorem length_encode_of_isSettingsAck {ack : Frame} (h : ack.isSettingsAck = true) :
    ack.encode.length = Frame.headerLength := by
  simp only [Frame.isSettingsAck, Bool.and_eq_true, List.isEmpty_iff] at h
  simp [h.2]

theorem fits_of_isSettingsAck {ack : Frame} (h : ack.isSettingsAck = true) : ack.Fits := by
  simp only [Frame.isSettingsAck, Bool.and_eq_true, List.isEmpty_iff] at h
  simp [Frame.Fits, h.2]

theorem framesWithoutAck?_of_ack {frames rest : Octets} {frame : Frame}
    (hread : Frame.read? frames = some (frame, rest)) (hack : frame.isSettingsAck = true) :
    framesWithoutAck? frames = some rest := by
  rw [framesWithoutAck?]
  split <;> simp_all

theorem framesWithoutAck?_of_other {frames rest : Octets} {frame : Frame}
    (hread : Frame.read? frames = some (frame, rest)) (hother : frame.isSettingsAck = false) :
    framesWithoutAck? frames = (framesWithoutAck? rest).map (frame.encode ++ ·) := by
  obtain ⟨rfl, -⟩ := Frame.encode_of_read? hread
  rw [framesWithoutAck?]
  split <;> simp_all

/-- **The first acknowledgement is found exactly** where the frames in front of it are none. -/
theorem framesWithoutAck?_eq_some_iff (frames left : Octets) :
    framesWithoutAck? frames = some left ↔ FrameAckRemoved frames left := by
  constructor
  · intro h
    fun_induction framesWithoutAck? frames generalizing left with
    | case1 frames hread => simp at h
    | case2 frames frame rest hread hack =>
        obtain ⟨rfl, -⟩ := Frame.encode_of_read? hread
        exact ⟨[], frame, rest, by simp, by simpa using h.symm, hack, by simp⟩
    | case3 frames frame rest hread hack ih =>
        obtain ⟨rfl, hfits⟩ := Frame.encode_of_read? hread
        obtain ⟨others, hothers, rfl⟩ := Option.map_eq_some_iff.mp h
        obtain ⟨before, ack, behind, rfl, rfl, hisAck, hbefore⟩ := ih others hothers
        refine ⟨frame :: before, ack, behind, by simp, by simp, hisAck, ?_⟩
        intro other hmem
        rcases List.mem_cons.mp hmem with rfl | hmem
        · exact ⟨hfits, by simpa using hack⟩
        · exact hbefore other hmem
  · rintro ⟨before, ack, behind, rfl, rfl, hack, hbefore⟩
    induction before with
    | nil =>
        exact framesWithoutAck?_of_ack (Frame.read?_encode (fits_of_isSettingsAck hack) behind) hack
    | cons frame before ih =>
        obtain ⟨hfits, hother⟩ := hbefore frame List.mem_cons_self
        have hread := Frame.read?_encode hfits
          (before.flatMap Frame.encode ++ ack.encode ++ behind)
        have hrest := ih fun other hmem => hbefore other (List.mem_cons_of_mem _ hmem)
        rw [List.flatMap_cons, List.append_assoc, List.append_assoc, ← List.append_assoc _ _ behind,
          framesWithoutAck?_of_other hread hother, hrest]
        simp

/-- **Taking the acknowledgement out** is possible exactly when there is one, and changes nothing
else. -/
theorem withoutSettingsAck?_eq_some_iff (connection left : Octets) :
    withoutSettingsAck? connection = some left ↔ AckRemoved connection left := by
  unfold withoutSettingsAck? AckRemoved
  constructor
  · intro h
    split at h
    · rename_i hstart
      obtain ⟨frames, rfl⟩ := List.isPrefixOf_iff_prefix.mp hstart
      obtain ⟨others, hothers, rfl⟩ := Option.map_eq_some_iff.mp h
      rw [List.drop_left, framesWithoutAck?_eq_some_iff] at hothers
      exact ⟨frames, others, rfl, rfl, hothers⟩
    · simp at h
  · rintro ⟨frames, others, rfl, rfl, hothers⟩
    rw [← framesWithoutAck?_eq_some_iff] at hothers
    simp [hothers]

/-- What goes is as long as a frame header. -/
theorem AckRemoved.length_eq {connection left : Octets} (h : AckRemoved connection left) :
    connection.length = left.length + Frame.headerLength := by
  obtain ⟨_, _, rfl, rfl, before, ack, behind, rfl, rfl, hack, -⟩ := h
  simp only [List.length_append, length_encode_of_isSettingsAck hack]
  omega

end ServiceHost.Preface
