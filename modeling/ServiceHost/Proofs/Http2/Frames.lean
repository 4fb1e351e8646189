import ServiceHost.Http2.Frame
import ServiceHost.Proofs.Octets

/-!
# Frames on the wire

A frame whose length fits into 24 bits is read back as it was written, whatever stands behind it
(`read?_encode`), and whatever is read was written like that (`encode_of_read?`), so a sequence of
octets has one walk over its frames.  A frame that was read stays the same when more octets arrive
(`read?_append`), and no frame is read before its last octet has arrived (`read?_cut`).
-/

namespace ServiceHost.Frame

/-- Whether the payload of a frame is no longer than its length field can say. -/
def Fits (frame : Frame) : Prop := frame.payload.length < 2 ^ 24

instance (frame : Frame) : Decidable frame.Fits :=
  inferInstanceAs (Decidable (_ < _))

/-- A frame takes up its header and its payload. -/
@[simp] theorem length_encode (frame : Frame) :
    frame.encode.length = headerLength + frame.payload.length := by
  simp [encode, headerLength]
  omega

/-- What is read behind nine octets in front depends on their length field alone. -/
theorem read?_header {length stream : Octets} (hlength : length.length = 3)
    (hstream : stream.length = 4) (kind flags : UInt8) (rest : Octets) :
    read? (length ++ [kind, flags] ++ stream ++ rest) =
      (Octets.splitExactly (Octets.toNat length) rest).map fun (payload, rest) =>
        ({ kind, flags, stream := (Octets.toNat stream).toUInt32, payload }, rest) := by
  match length, stream, hlength, hstream with
  | [_, _, _], [_, _, _, _], _, _ => rfl

/-- **A written frame is read back**, and what stands behind it is left. -/
theorem read?_encode {frame : Frame} (hfits : frame.Fits) (rest : Octets) :
    read? (frame.encode ++ rest) = some (frame, rest) := by
  have hpayload : Octets.toNat (Octets.ofNat 3 frame.payload.length) = frame.payload.length :=
    Octets.toNat_ofNat hfits
  have hstream : Octets.toNat (Octets.ofNat 4 frame.stream.toNat) = frame.stream.toNat :=
    Octets.toNat_ofNat frame.stream.toNat_lt
  rw [encode, List.append_assoc _ frame.payload, read?_header (Octets.length_ofNat 3 _)
    (Octets.length_ofNat 4 _), hpayload, Octets.splitExactly_append rfl, hstream]
  simp

/-- Octets of which a frame is read begin with a header. -/
theorem exists_header_of_read? {octets rest : Octets} {frame : Frame}
    (h : read? octets = some (frame, rest)) :
    ∃ length stream behind, octets = length ++ [frame.kind, frame.flags] ++ stream ++ behind ∧
      length.length = 3 ∧ stream.length = 4 ∧
      frame.stream = (Octets.toNat stream).toUInt32 ∧
      Octets.splitExactly (Octets.toNat length) behind = some (frame.payload, rest) := by
  unfold read? at h
  split at h
  · rename_i l₂ l₁ l₀ kind flags s₃ s₂ s₁ s₀ behind
    obtain ⟨⟨payload, left⟩, hsplit, heq⟩ := Option.map_eq_some_iff.mp h
    simp only [Prod.mk.injEq] at heq
    obtain ⟨rfl, rfl⟩ := heq
    exact ⟨[l₂, l₁, l₀], [s₃, s₂, s₁, s₀], behind, rfl, rfl, rfl, rfl, hsplit⟩
  · simp at h

/-- **Whatever is read was written**, and its length fits. -/
theorem encode_of_read? {octets rest : Octets} {frame : Frame}
    (h : read? octets = some (frame, rest)) :
    octets = frame.encode ++ rest ∧ frame.Fits := by
  obtain ⟨length, stream, behind, rfl, hlength, hstream, hnumber, hsplit⟩ :=
    exists_header_of_read? h
  obtain ⟨rfl, hpayload⟩ := Octets.length_splitExactly hsplit
  have hlengthField : Octets.ofNat 3 frame.payload.length = length := by
    rw [hpayload, ← hlength, Octets.ofNat_toNat]
  have hlt : Octets.toNat stream < 2 ^ 32 := by
    simpa [hstream] using Octets.toNat_lt stream
  have hstreamField : Octets.ofNat 4 frame.stream.toNat = stream := by
    have hback : frame.stream.toNat = Octets.toNat stream := by
      rw [hnumber]
      simpa using hlt
    rw [hback, ← hstream, Octets.ofNat_toNat]
  constructor
  · simp [encode, hlengthField, hstreamField]
  · rw [Fits, hpayload]
    simpa [hlength] using Octets.toNat_lt length

/-- A frame that was read stays the same when more octets arrive. -/
theorem read?_append {octets rest : Octets} {frame : Frame}
    (h : read? octets = some (frame, rest)) (extra : Octets) :
    read? (octets ++ extra) = some (frame, rest ++ extra) := by
  obtain ⟨rfl, hfits⟩ := encode_of_read? h
  rw [List.append_assoc, read?_encode hfits]

/-- No frame is read before its last octet has arrived. -/
theorem read?_cut {frame : Frame} (hfits : frame.Fits) {octets missing : Octets}
    (hcut : frame.encode = octets ++ missing) (hmissing : missing ≠ []) :
    read? octets = none := by
  cases hread : read? octets with
  | none => rfl
  | some taken =>
      obtain ⟨other, rest⟩ := taken
      have hwhole := read?_append hread missing
      rw [← hcut, ← List.append_nil frame.encode, read?_encode hfits] at hwhole
      have hnil : rest = [] ∧ missing = [] := by
        simpa using congrArg Prod.snd (Option.some.inj hwhole)
      exact absurd hnil.2 hmissing

end ServiceHost.Frame
