import ServiceHost.Opening.Classify
import ServiceHost.Proofs.Http2.Frames

/-!
# The walk over the frames behind the preface

The verdict on written frames is the verdict of folding `advance` over them
(`classifyFrames_encode`), and while this fold has not decided, no beginning of the frames is
decided either (`classifyFrames_cut`).  A decision of the walk stays when more octets arrive
(`classifyFrames_append`), and it never is that the connection speaks HTTP/1.
-/

namespace ServiceHost.Preface

variable {decompress : Decompress}

/-- Whether the walk needs more frames. -/
def Progress.IsOpen (progress : Progress) : Prop :=
  ∀ verdict, progress ≠ .decided verdict

@[simp] theorem classifyFrames_decided (verdict : Verdict) (frames : Octets) :
    classifyFrames decompress (.decided verdict) frames = verdict := by
  unfold classifyFrames
  rfl

/-- An open walk needs more until a whole frame is there, and goes on behind it. -/
theorem classifyFrames_open {progress : Progress} (hopen : progress.IsOpen) (frames : Octets) :
    classifyFrames decompress progress frames =
      match Frame.read? frames with
      | none => .needMore
      | some (frame, rest) =>
        classifyFrames decompress (advance decompress progress frame) rest := by
  rw [classifyFrames]
  · split <;> simp_all
  · exact hopen

/-- Without a whole frame an open walk needs more. -/
theorem classifyFrames_of_read?_none {progress : Progress} {frames : Octets}
    (hopen : progress.IsOpen) (h : Frame.read? frames = none) :
    classifyFrames decompress progress frames = .needMore := by
  rw [classifyFrames_open hopen, h]

/-- A whole frame advances the walk. -/
theorem classifyFrames_of_read?_some {frames rest : Octets} {frame : Frame}
    (h : Frame.read? frames = some (frame, rest)) (progress : Progress) :
    classifyFrames decompress progress frames =
      classifyFrames decompress (advance decompress progress frame) rest := by
  cases progress with
  | decided verdict => simp [advance]
  | beforeHeaders => rw [classifyFrames_open (by simp [Progress.IsOpen]), h]
  | inBlock block => rw [classifyFrames_open (by simp [Progress.IsOpen]), h]

/-- A walk that was decided stays decided. -/
theorem foldl_advance_decided (verdict : Verdict) (frames : List Frame) :
    frames.foldl (advance decompress) (.decided verdict) = .decided verdict := by
  induction frames with
  | nil => rfl
  | cons frame frames ih => simpa [advance] using ih

/-- **The verdict on written frames** is the one of folding over them. -/
theorem classifyFrames_encode {frames : List Frame} (hfits : ∀ frame ∈ frames, frame.Fits)
    (progress : Progress) (rest : Octets) :
    classifyFrames decompress progress (frames.flatMap Frame.encode ++ rest) =
      classifyFrames decompress (frames.foldl (advance decompress) progress) rest := by
  induction frames generalizing progress with
  | nil => rfl
  | cons frame frames ih =>
      have hread := Frame.read?_encode (hfits frame List.mem_cons_self)
        (frames.flatMap Frame.encode ++ rest)
      rw [List.flatMap_cons, List.append_assoc, classifyFrames_of_read?_some hread]
      exact ih (fun other h => hfits other (List.mem_cons_of_mem _ h)) _

/-- **While the fold has not decided, nothing is decided**: if the walk over all frames but the last
is open, every strict beginning of the frames needs more. -/
theorem classifyFrames_cut {frames : List Frame} (hfits : ∀ frame ∈ frames, frame.Fits)
    {progress : Progress} (hprogress : progress.IsOpen)
    (hopen : (frames.dropLast.foldl (advance decompress) progress).IsOpen)
    {octets missing : Octets} (hcut : frames.flatMap Frame.encode = octets ++ missing)
    (hmissing : missing ≠ []) :
    classifyFrames decompress progress octets = .needMore := by
  induction frames generalizing progress octets with
  | nil =>
      have hnil : octets = [] ∧ missing = [] := by simpa using hcut
      exact absurd hnil.2 hmissing
  | cons frame frames ih =>
      have hframe := hfits frame List.mem_cons_self
      rw [List.flatMap_cons] at hcut
      have hfirst : frame.encode <+: octets ++ missing := ⟨_, hcut⟩
      rcases Nat.lt_or_ge octets.length frame.encode.length with hshort | hlong
      · -- the cut is inside the first frame
        obtain ⟨lost, hlost⟩ :=
          List.prefix_of_prefix_length_le ⟨missing, rfl⟩ hfirst (Nat.le_of_lt hshort)
        have hne : lost ≠ [] := by
          rintro rfl
          simp [← hlost] at hshort
        exact classifyFrames_of_read?_none hprogress (Frame.read?_cut hframe hlost.symm hne)
      · -- the cut is behind the first frame, which is not the last one
        obtain ⟨behind, rfl⟩ := List.prefix_of_prefix_length_le hfirst ⟨missing, rfl⟩ hlong
        rw [List.append_assoc, List.append_cancel_left_eq] at hcut
        have hframes : frames ≠ [] := by
          rintro rfl
          have hnil : behind = [] ∧ missing = [] := by simpa using hcut
          exact hmissing hnil.2
        rw [List.dropLast_cons_of_ne_nil hframes, List.foldl_cons] at hopen
        rw [classifyFrames_of_read?_some (Frame.read?_encode hframe behind)]
        refine ih (fun other h => hfits other (List.mem_cons_of_mem _ h)) ?_ hopen hcut
        intro verdict hnext
        rw [hnext, foldl_advance_decided] at hopen
        exact hopen verdict rfl

/-- **A decision of the walk stays** when more octets arrive. -/
theorem classifyFrames_append {progress : Progress} {frames : Octets}
    (h : classifyFrames decompress progress frames ≠ .needMore) (extra : Octets) :
    classifyFrames decompress progress (frames ++ extra) =
      classifyFrames decompress progress frames := by
  fun_induction classifyFrames decompress progress frames with
  | case1 frames verdict => exact classifyFrames_decided verdict _
  | case2 progress frames hopen hread => exact absurd rfl h
  | case3 progress frames hopen frame rest hread ih =>
      rw [classifyFrames_of_read?_some (Frame.read?_append hread extra)]
      exact ih h

/-- The walk never ends in HTTP/1. -/
theorem classifyFrames_ne_http {progress : Progress} (frames : Octets)
    (hprogress : progress ≠ .decided (.matched .http)) :
    classifyFrames decompress progress frames ≠ .matched .http := by
  fun_induction classifyFrames decompress progress frames with
  | case1 frames verdict => simpa using hprogress
  | case2 progress frames hopen hread => simp
  | case3 progress frames hopen frame rest hread ih =>
      apply ih
      unfold advance grow ofBlock
      grind

end ServiceHost.Preface
