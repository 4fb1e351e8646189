import ServiceHost.Proofs.Opening.Finality

/-!
# The first header block decides, however it is framed

A header block travels in a headers frame, with or without padding and a priority field, and in any
number of continuation frames.  `CarriesBlock` says which frames carry a block; the walk over them
puts the fragments together again (`foldl_carriesBlock`).  So the verdict on an HTTP/2 opening
depends on its first header block alone, and it comes with the last octet of that block's
last frame, not before (`first_header_block_decides`).
-/

namespace ServiceHost

/-- What stands around a fragment in a headers frame. -/
structure HeadersLayout where
  /-- The padding behind the fragment, if the frame says that there is some. -/
  padding : Option Octets
  /-- The priority field in front of the fragment. -/
  priority : Option Octets
  padding_le : ∀ octets ∈ padding, octets.length ≤ 255
  priority_length : ∀ octets ∈ priority, octets.length = 5

namespace HeadersLayout

/-- The length of the padding, in an octet of its own. -/
def paddingLength (layout : HeadersLayout) : Octets :=
  layout.padding.elim [] fun octets => [octets.length.toUInt8]

/-- The payload of a headers frame with a fragment. -/
def payload (layout : HeadersLayout) (fragment : Octets) : Octets :=
  layout.paddingLength ++ layout.priority.getD [] ++ fragment ++ layout.padding.getD []

/-- A headers frame that carries a fragment in a layout.  Its stream and its other flags are
free. -/
structure Carries (layout : HeadersLayout) (fragment : Octets) (frame : Frame) : Prop where
  kind : frame.kind = Frame.headers
  padded : frame.has Frame.paddedFlag = layout.padding.isSome
  prioritised : frame.has Frame.priorityFlag = layout.priority.isSome
  payload : frame.payload = layout.payload fragment

/-- **Padding and priority come off**: what is left of a headers frame is its fragment. -/
theorem Carries.fragment? {layout : HeadersLayout} {fragment : Octets} {frame : Frame}
    (h : layout.Carries fragment frame) : frame.fragment? = some fragment := by
  obtain ⟨padding, priority, hpadding, hpriority⟩ := layout
  obtain ⟨-, hpadded, hprioritised, hpayload⟩ := h
  have hfield : (priority.getD []).length = if priority.isSome then 5 else 0 := by
    cases priority with
    | none => rfl
    | some octets => simpa using hpriority octets rfl
  simp only [HeadersLayout.payload, paddingLength] at hpayload
  unfold Frame.fragment?
  rw [hpadded, hprioritised, hpayload]
  cases padding with
  | none =>
      simp [← hfield]
  | some octets =>
      have hle : octets.length ≤ 255 := hpadding octets rfl
      have hcount : octets.length.toUInt8.toNat = octets.length := by
        simp
        omega
      have hfront : (priority.getD []).length + (fragment.length + octets.length) - octets.length =
          (priority.getD [] ++ fragment).length := by
        rw [List.length_append]
        omega
      simp only [Option.elim_some, Option.getD_some, Option.isSome_some, List.append_assoc,
        List.cons_append, List.nil_append, if_true, List.length_append, ← hfield, hcount]
      rw [hfront, ← List.append_assoc, List.take_left, List.drop_left, if_pos (by omega)]

end HeadersLayout

/-- Frames that carry the rest of a header block behind its headers frame. -/
inductive Continues : Octets → List Frame → Prop
  | last {frame : Frame} (hkind : frame.kind = Frame.continuation)
      (hend : frame.has Frame.endHeadersFlag = true) : Continues frame.payload [frame]
  | more {frame : Frame} {rest : Octets} {frames : List Frame}
      (hkind : frame.kind = Frame.continuation) (hend : frame.has Frame.endHeadersFlag = false)
      (tail : Continues rest frames) : Continues (frame.payload ++ rest) (frame :: frames)

/-- Frames that carry a header block, cut anywhere into one or more fragments. -/
inductive CarriesBlock : Octets → List Frame → Prop
  | whole {layout : HeadersLayout} {frame : Frame} {fragment : Octets}
      (hframe : layout.Carries fragment frame)
      (hend : frame.has Frame.endHeadersFlag = true) : CarriesBlock fragment [frame]
  | split {layout : HeadersLayout} {frame : Frame} {fragment rest : Octets} {frames : List Frame}
      (hframe : layout.Carries fragment frame)
      (hend : frame.has Frame.endHeadersFlag = false)
      (tail : Continues rest frames) : CarriesBlock (fragment ++ rest) (frame :: frames)

namespace Preface

variable {decompress : Decompress}

/-- Connection frames leave the walk in front of the headers. -/
theorem foldl_connectionFrames {frames : List Frame}
    (h : ∀ frame ∈ frames, isConnectionFrame frame = true) :
    frames.foldl (advance decompress) .beforeHeaders = .beforeHeaders := by
  induction frames with
  | nil => rfl
  | cons frame frames ih =>
      have hframe := h frame List.mem_cons_self
      have hkind : frame.kind ≠ Frame.headers := by
        intro hheaders
        simp [isConnectionFrame, hheaders] at hframe
        revert hframe
        decide
      rw [List.foldl_cons, advance, if_neg hkind, if_pos hframe]
      exact ih fun other hmem => h other (List.mem_cons_of_mem _ hmem)

/-- Continuation frames complete the block with the last of them. -/
theorem foldl_continues {rest : Octets} {frames : List Frame} (h : Continues rest frames)
    (block : Octets) :
    frames.foldl (advance decompress) (.inBlock block) =
        .decided (ofBlock decompress (block ++ rest)) ∧
      (frames.dropLast.foldl (advance decompress) (.inBlock block)).IsOpen := by
  induction h generalizing block with
  | last hkind hend => simp [advance, grow, hkind, hend, Progress.IsOpen]
  | @more frame rest frames hkind hend tail ih =>
      have hframes : frames ≠ [] := by cases tail <;> simp
      rw [List.dropLast_cons_of_ne_nil hframes]
      simpa [advance, grow, hkind, hend] using ih (block ++ frame.payload)

/-- **The walk puts a header block together again**, and decides with its last frame. -/
theorem foldl_carriesBlock {block : Octets} {frames : List Frame} (h : CarriesBlock block frames) :
    frames.foldl (advance decompress) .beforeHeaders = .decided (ofBlock decompress block) ∧
      (frames.dropLast.foldl (advance decompress) .beforeHeaders).IsOpen := by
  cases h with
  | whole hframe hend =>
      simp [advance, grow, hframe.kind, hframe.fragment?, hend, Progress.IsOpen]
  | split hframe hend tail =>
      rename_i layout frame fragment rest frames
      have hframes : frames ≠ [] := by cases tail <;> simp
      rw [List.dropLast_cons_of_ne_nil hframes]
      simpa [advance, grow, hframe.kind, hframe.fragment?, hend] using
        foldl_continues tail fragment

/-- Whether a header block can be decompressed and announces a framed call. -/
def AnnouncesCall (decompress : Decompress) (block : Octets) : Prop :=
  ∃ fields, decompress block = some fields ∧
    ∃ field ∈ fields, field.name.lower = contentType ∧ callContent <+: field.value

theorem ofBlock_of_announcesCall {block : Octets} (h : AnnouncesCall decompress block) :
    ofBlock decompress block = .matched .rpc := by
  obtain ⟨fields, hfields, field, hmem, hname, hvalue⟩ := h
  have hany : fields.any announcesCall = true :=
    List.any_eq_true.mpr ⟨field, hmem, by simp [announcesCall, hname, hvalue]⟩
  simp [ofBlock, hfields, hany]

theorem ofBlock_of_not_announcesCall {block : Octets} (h : ¬ AnnouncesCall decompress block) :
    ∃ reason, ofBlock decompress block = .reject reason := by
  unfold ofBlock
  cases hfields : decompress block with
  | none => exact ⟨.undecodable, rfl⟩
  | some fields =>
      have hany : fields.any announcesCall = false := by
        rw [Bool.eq_false_iff]
        intro htrue
        obtain ⟨field, hmem, hfield⟩ := List.any_eq_true.mp htrue
        simp only [announcesCall, Bool.and_eq_true, beq_iff_eq,
          List.isPrefixOf_iff_prefix] at hfield
        exact h ⟨fields, hfields, field, hmem, hfield⟩
      exact ⟨.otherContent, by simp [hany]⟩

end Preface

open Preface in
/-- **The first header block decides, however it is framed.**  Behind the preface stand connection
frames with any flags, streams and payloads, then the frames of a header block, cut, padded and
prioritised in any way, then anything.  The connection is a framed call if the block announces one
and is rejected otherwise; and before the last octet of the block's last frame more is needed. -/
theorem first_header_block_decides (decompress : Decompress) {before carrying : List Frame}
    {block : Octets} (hbefore : ∀ frame ∈ before,
      frame.kind ∈ [Frame.settings, Frame.windowUpdate, Frame.ping, Frame.priority])
    (hcarrying : CarriesBlock block carrying)
    (hfits : ∀ frame ∈ before ++ carrying, frame.Fits) :
    (AnnouncesCall decompress block → ∀ trailing,
      classifyWith decompress
        (Preface.octets ++ (before ++ carrying).flatMap Frame.encode ++ trailing) =
          .matched .rpc) ∧
    (¬ AnnouncesCall decompress block → ∀ trailing, ∃ reason,
      classifyWith decompress
        (Preface.octets ++ (before ++ carrying).flatMap Frame.encode ++ trailing) =
          .reject reason) ∧
    ∀ seen missing, missing ≠ [] →
      seen ++ missing = Preface.octets ++ (before ++ carrying).flatMap Frame.encode →
      classifyWith decompress seen = .needMore := by
  have hconnection : ∀ frame ∈ before, isConnectionFrame frame = true := by
    intro frame hmem
    simpa [isConnectionFrame] using hbefore frame hmem
  obtain ⟨hdecided, hopen⟩ := @foldl_carriesBlock decompress _ _ hcarrying
  have hverdict : ∀ trailing, classifyWith decompress
      (Preface.octets ++ (before ++ carrying).flatMap Frame.encode ++ trailing) =
        ofBlock decompress block := by
    intro trailing
    rw [List.append_assoc, classifyWith_of_preface, classifyFrames_encode hfits, List.foldl_append,
      foldl_connectionFrames hconnection, hdecided, classifyFrames_decided]
  refine ⟨?_, ?_, ?_⟩
  · intro hcall trailing
    rw [hverdict, ofBlock_of_announcesCall hcall]
  · intro hother trailing
    obtain ⟨reason, hreason⟩ := ofBlock_of_not_announcesCall hother
    exact ⟨reason, by rw [hverdict, hreason]⟩
  · intro seen missing hmissing hcut
    have hcarrying' : carrying ≠ [] := by
      cases hcarrying <;> simp
    have hopen' :
        ((before ++ carrying).dropLast.foldl (advance decompress) .beforeHeaders).IsOpen := by
      rwa [List.dropLast_append_of_ne_nil hcarrying', List.foldl_append,
        foldl_connectionFrames hconnection]
    rcases opening_cases seen with ⟨hbeginning, hne⟩ | ⟨frames, rfl⟩ | hdisagrees
    · exact classifyWith_of_beginning hbeginning hne
    · rw [List.append_assoc, List.append_cancel_left_eq] at hcut
      rw [classifyWith_of_preface]
      exact classifyFrames_cut hfits (by simp [Progress.IsOpen]) hopen' hcut.symm hmissing
    · rcases List.prefix_or_prefix_of_prefix (⟨missing, hcut⟩ : seen <+: _)
        (List.prefix_append _ _) with hbeginning | hstart
      · exact (hdisagrees.1 hbeginning).elim
      · exact (hdisagrees.2 hstart).elim

/-- A header block with the content type of a call alone. -/
def callBlock : Octets := [0x5F, 0x10] ++ Octets.ascii "application/grpc"

/-- Two octets of padding and a priority field. -/
def paddedLayout : HeadersLayout where
  padding := some [0, 0]
  priority := some [0, 0, 0, 0, 15]
  padding_le := by simp
  priority_length := by simp

/-- A probe in front of the headers. -/
def earlyPing : Frame :=
  { kind := Frame.ping, flags := 0xFF, stream := 7, payload := [1, 2, 3] }

/-- The first two octets of that block. -/
def callHeaders : Frame :=
  { kind := Frame.headers, flags := 0x29, stream := 1,
    payload := paddedLayout.payload [0x5F, 0x10] }

/-- Its other octets. -/
def callContinuation : Frame :=
  { kind := Frame.continuation, flags := 0x4, stream := 1,
    payload := Octets.ascii "application/grpc" }

theorem carriesBlock_callFrames : CarriesBlock callBlock [callHeaders, callContinuation] := by
  have hheaders : paddedLayout.Carries [0x5F, 0x10] callHeaders :=
    ⟨rfl, by decide, by decide, rfl⟩
  have hcontinuation : Continues callContinuation.payload [callContinuation] :=
    Continues.last rfl (by decide)
  exact CarriesBlock.split hheaders (by decide) hcontinuation

theorem announcesCall_callBlock : Preface.AnnouncesCall HeaderBlock.decode? callBlock := by
  have hdecoded : HeaderBlock.decode? callBlock =
      some [⟨Preface.contentType, Preface.callContent⟩] := by decide +kernel
  exact ⟨_, hdecoded, _, List.mem_singleton_self _, by decide, List.prefix_refl _⟩

/-- A call whose headers are padded, prioritised and cut behind their second octet. -/
theorem first_header_block_decides_padded :
    (∀ frame ∈ [earlyPing],
      frame.kind ∈ [Frame.settings, Frame.windowUpdate, Frame.ping, Frame.priority]) ∧
    CarriesBlock callBlock [callHeaders, callContinuation] ∧
    (∀ frame ∈ [earlyPing] ++ [callHeaders, callContinuation], frame.Fits) ∧
    classifyWith HeaderBlock.decode? (Preface.octets ++
      ([earlyPing] ++ [callHeaders, callContinuation]).flatMap Frame.encode ++ [0xFF]) =
        .matched .rpc := by
  have hbefore : ∀ frame ∈ [earlyPing],
      frame.kind ∈ [Frame.settings, Frame.windowUpdate, Frame.ping, Frame.priority] := by decide
  have hfits : ∀ frame ∈ [earlyPing] ++ [callHeaders, callContinuation], frame.Fits := by decide
  have hframed :=
    first_header_block_decides HeaderBlock.decode? hbefore carriesBlock_callFrames hfits
  exact ⟨hbefore, carriesBlock_callFrames, hfits, hframed.1 announcesCall_callBlock _⟩

end ServiceHost
