import Mathlib.Data.List.Infix
import ServiceHost.Proofs.Session.Output

/-!
# What the end of a session says

An end is true of a run (`End.IsTrue`) if the run did what the end reports: one that was drained or
timed out has sent its closing frames, each flushed before the next was written, a cancelled one was
cancelled, and a peer that is gone went away or took no more.  The last two are true of every run.
The first two are also reported when the closing frames were cut short (`End.IsCutShort`), because
nothing looks at whether they went out: they are true exactly where that did not happen
(`session_end_true_iff`), and it does happen (`drained_without_closing_frames`).
-/

namespace ServiceHost.Session

/-- What a writer does to send frames, each flushed before the next is written. -/
def sendAll (frames : List Frame) : List Action :=
  frames.flatMap fun frame => [.wrote frame, .beganFlush, .flushed]

@[simp] theorem sendAll_nil : sendAll [] = [] := rfl

@[simp] theorem sendAll_append (frames more : List Frame) :
    sendAll (frames ++ more) = sendAll frames ++ sendAll more :=
  List.flatMap_append

variable {situations : List Situation} {actions past toDo cause : List Action} {w w' : Writer}
  {s : Situation} {next : Next} {how : End} {late : Bool}

/-- Why a writer stops before its frames are sent: a cancellation, which leaves no trace among its
actions, or a failure of the sink, which is the last of them. -/
def IsCause (situations : List Situation) (cause : List Action) : Prop :=
  cause = [] ∧ (∃ s ∈ situations, s.cancelled = true) ∨
    ∃ failure, failure.isFailure = true ∧ cause = [failure]

/-- Whether a session that was under way sent the notice of its deadline, if it was that, and then
not all of its closing frames, as it was cancelled or the sink failed. -/
def CutShort (situations : List Situation) (late : Bool) (actions : List Action) : Prop :=
  ∃ before sent missed cause, IsUnderWay (written before) ∧
    sent ++ missed = sendAll [.eof, .closed] ∧ missed ≠ [] ∧ IsCause situations cause ∧
    actions = before ++ sendAll (notice late) ++ sent ++ cause

namespace End

/-- Whether the end of a session is true of its run. -/
def IsTrue (situations : List Situation) (actions : List Action) : End → Prop
  | .drained => sendAll [.eof, .closed] <:+ actions
  | .timedOut => sendAll [.timeout, .eof, .closed] <:+ actions
  | .cancelled => ∃ s ∈ situations, s.cancelled = true
  | .peerGone =>
    (∃ s ∈ situations, s.peerGone = true) ∨ ∃ action ∈ actions, action.isFailure = true

/-- Whether a session came to the closing of its stream and was cut short there. -/
def IsCutShort (situations : List Situation) (actions : List Action) : End → Prop
  | .drained => CutShort situations false actions
  | .timedOut => CutShort situations true actions
  | _ => False

end End

/-- The end that a writer reports behind its closing frames. -/
def closingEnd (late : Bool) : End :=
  if late then .timedOut else .drained

theorem CutShort.isCutShort (h : CutShort situations late actions) :
    (closingEnd late).IsCutShort situations actions := by
  cases late <;> exact h

/-! ## A writer on the way to its end -/

/-- The frames that were sent, each on its own, before a writer came to this point. -/
def Next.sentBefore : Next → List Frame
  | .closed late => notice late ++ [.eof]
  | .eof late => notice late
  | _ => []

/-- The frame that is sent at this point of the end of a session. -/
def Next.closingFrame : Next → Frame
  | .timedOut => .timeout
  | .eof _ => .eof
  | _ => .closed

/-- Whether a writer that closes its stream has sent all that comes before this point, and has done
everything for the frame of this point but what is still to do. -/
def Next.HasSent (next : Next) (toDo actions : List Action) : Prop :=
  next.isClosing = true → ∃ before sent, IsUnderWay (written before) ∧
    sent ++ toDo = sendAll [next.closingFrame] ∧
    actions = before ++ sendAll next.sentBefore ++ sent

/-- What a writer has done on the way to its end.  A writer whose frames are no longer taken has
ended or is about to try its last frame. -/
def Writer.HasDone (situations : List Situation) (w : Writer) (actions : List Action) : Prop :=
  match w.phase with
  | .writing coming next =>
    w.closed = false ∧ next.HasSent (coming.map .wrote ++ [.beganFlush, .flushed]) actions ∨
      w.closed = true ∧ ∃ late, next = .closed late ∧ CutShort situations late actions
  | .flushing next => w.closed = false ∧ next.HasSent [.flushed] actions
  | .waiting => w.closed = false
  | .done (.ended how) => how.IsTrue situations actions ∨ how.IsCutShort situations actions
  | .done (.broken _) => True

/-- What was still to do is done. -/
theorem Next.HasSent.did {action : Action} (h : next.HasSent (action :: toDo) past) :
    next.HasSent toDo (past ++ [action]) := by
  intro hclosing
  obtain ⟨before, sent, hbefore, hsent, rfl⟩ := h hclosing
  exact ⟨before, sent ++ [action], hbefore, by simpa using hsent, by simp⟩

/-- A frame begins when all that comes before it was sent. -/
theorem Next.hasSent_start {before : List Action} {frame : Frame}
    (hbefore : IsUnderWay (written before)) (hframe : next.closingFrame = frame)
    (hpast : past = before ++ sendAll next.sentBefore) :
    next.HasSent ([frame].map .wrote ++ [.beganFlush, .flushed]) past := by
  intro _
  refine ⟨before, [], hbefore, ?_, by simpa using hpast⟩
  rw [hframe]
  rfl

/-- A writer that stops while it closes its stream leaves it cut short. -/
theorem Next.HasSent.cutShort (h : next.HasSent toDo past)
    (hnext : next = .eof late ∨ next = .closed late) (htoDo : toDo ≠ [])
    (hcause : IsCause situations cause) : CutShort situations late (past ++ cause) := by
  rcases hnext with rfl | rfl
  · obtain ⟨before, sent, hbefore, hsent, rfl⟩ := h rfl
    refine ⟨before, sent, toDo ++ sendAll [.closed], cause, hbefore, ?_, by simp [htoDo], hcause, rfl⟩
    rw [← List.append_assoc, hsent]
    rfl
  · obtain ⟨before, sent, hbefore, hsent, rfl⟩ := h rfl
    refine ⟨before, sendAll [.eof] ++ sent, toDo, cause, hbefore, ?_, htoDo, hcause, ?_⟩
    · rw [List.append_assoc, hsent]
      rfl
    · simp [Next.sentBefore]

/-- A writer that stops has done what its end says, or its closing frames are cut short. -/
theorem Next.HasSent.givenUp (h : next.HasSent toDo past) (htoDo : toDo ≠ [])
    (hs : s ∈ situations) (hcause : IsCause situations cause)
    (hcancelled : cause = [] → s.cancelled = true) :
    (w.givenUp s next).HasDone situations (past ++ cause) := by
  have hearly : ∀ how, Writer.endEarly s = .ended how → how.IsTrue situations (past ++ cause) := by
    intro how hend
    unfold Writer.endEarly at hend
    split at hend
    · rename_i hcancel
      obtain rfl := by simpa using hend.symm
      exact ⟨s, hs, hcancel⟩
    · rename_i hfree
      obtain rfl := by simpa using hend.symm
      rcases hcause with ⟨hnone, -⟩ | ⟨failure, hfailure, rfl⟩
      · exact (hfree (hcancelled hnone)).elim
      · exact Or.inr ⟨failure, by simp, hfailure⟩
  -- up to the notice of the deadline the end is decided anew; behind it, it no longer changes
  cases next with
  | opened | resumed | timedOut => exact Or.inl (hearly _ rfl)
  | eof late => exact Or.inr ⟨rfl, late, rfl, h.cutShort (Or.inl rfl) htoDo hcause⟩
  | closed late =>
      have hcut : CutShort situations late (past ++ cause) := h.cutShort (Or.inr rfl) htoDo hcause
      exact Or.inr hcut.isCutShort

/-- A frame with nothing left to do was sent. -/
theorem Next.HasSent.all (h : next.HasSent [] actions) (hclosing : next.isClosing = true) :
    ∃ before, IsUnderWay (written before) ∧
      actions = before ++ sendAll (next.sentBefore ++ [next.closingFrame]) := by
  obtain ⟨before, sent, hbefore, hsent, rfl⟩ := h hclosing
  refine ⟨before, hbefore, ?_⟩
  rw [sendAll_append, ← hsent, List.append_nil, List.append_assoc]

/-- A flush ends the sending of a frame, and the next one begins or the session has ended. -/
theorem Next.HasSent.flushed (h : next.HasSent [.flushed] past) (hopen : w.closed = false) :
    ({ w with phase := next.afterFlush } : Writer).HasDone situations (past ++ [.flushed]) := by
  have hdone := h.did
  cases next with
  | opened | resumed => exact hopen
  | timedOut | eof =>
      obtain ⟨before, hbefore, hall⟩ := hdone.all rfl
      exact Or.inl ⟨hopen, Next.hasSent_start hbefore rfl hall⟩
  | closed late =>
      obtain ⟨before, -, hall⟩ := hdone.all rfl
      cases late <;> exact Or.inl ⟨before, hall.symm⟩

/-- An open writer that writes has sent what comes before. -/
theorem Writer.HasDone.hasSent {coming : List Frame} (h : w.HasDone situations past)
    (hphase : w.phase = .writing coming next) (hopen : w.closed = false) :
    next.HasSent (coming.map .wrote ++ [.beganFlush, .flushed]) past := by
  rw [Writer.HasDone, hphase] at h
  rcases h with ⟨-, hsent⟩ | ⟨hclosed, -⟩
  · exact hsent
  · simp [hopen] at hclosed

/-- **A step does what the end of its session will say**, or leaves the closing frames cut short. -/
theorem Writer.HasDone.step (h : w.HasDone situations past) (hcourse : OnCourse w (written past))
    (hs : s ∈ situations) (hmove : w.Move s w' actions) :
    w'.HasDone situations (past ++ actions) := by
  cases hmove with
  | @gaveUp frames next hphase hclosed =>
      -- an open writer gives up as it was cancelled, a closed one because an earlier frame failed
      rw [Writer.HasDone, hphase] at h
      rcases h with ⟨hopen, hsent⟩ | ⟨-, late, rfl, hcut⟩
      · have hcancelled : s.cancelled = true := hclosed.resolve_left (by simp [hopen])
        exact hsent.givenUp (by simp) hs (Or.inl ⟨rfl, s, hs, hcancelled⟩) fun _ => hcancelled
      · rw [List.append_nil]
        exact Or.inr hcut.isCutShort
  | wrote hphase hopen => exact Or.inl ⟨hopen, (h.hasSent hphase hopen).did⟩
  | refused hphase hopen =>
      exact (h.hasSent hphase hopen).givenUp (by simp) hs (Or.inr ⟨_, rfl, rfl⟩) (by simp)
  | beganFlush hphase hopen => exact ⟨hopen, (h.hasSent hphase hopen).did⟩
  | opened hphase =>
      rw [Writer.HasDone, hphase] at h
      exact h.1
  | stopped | brokeDown => trivial
  | flushed hphase =>
      rw [Writer.HasDone, hphase] at h
      exact h.2.flushed h.1
  | flushFailed hphase =>
      rw [Writer.HasDone, hphase] at h
      exact h.2.givenUp (by simp) hs (Or.inr ⟨_, rfl, rfl⟩) (by simp)
  | left hphase hhow =>
      rcases hhow with ⟨rfl, hcancelled⟩ | ⟨rfl, hgone⟩
      · exact Or.inl ⟨s, hs, hcancelled⟩
      · exact Or.inl (Or.inl ⟨s, hs, hgone⟩)
  | timedOut hphase | drained hphase =>
      -- the first of the last frames begins, and all before it was under way
      rw [Writer.HasDone, hphase] at h
      have hbefore : IsUnderWay (written past) := by simpa [hphase] using hcourse.fits h
      rw [List.append_nil]
      exact Or.inl ⟨h, Next.hasSent_start hbefore rfl (List.append_nil _).symm⟩
  | took hphase | pinged hphase =>
      rw [Writer.HasDone, hphase] at h
      exact Or.inl ⟨h, fun hclosing => Bool.noConfusion hclosing⟩
  | skipped hphase =>
      rw [Writer.HasDone, hphase] at h ⊢
      exact h

/-! ## Cut short, or sent -/

/-- A session that is under way has not written the last frame. -/
theorem IsUnderWay.closed_not_mem {frames : List Frame} (h : IsUnderWay frames) :
    Frame.closed ∉ frames := by
  obtain ⟨middle, hmiddle, rfl⟩ := h
  intro hmem
  have hlast : Frame.closed ∈ middle := by simpa using hmem
  simpa [Frame.isRunning] using hmiddle _ hlast

/-- What was sent ends with a flush. -/
theorem getLast?_of_sendAll {frames : List Frame} {frame : Frame}
    (h : sendAll (frames ++ [frame]) <:+ actions) : actions.getLast? = some .flushed := by
  obtain ⟨before, rfl⟩ := h
  simp [sendAll]

/-- Where the last frame was written and not everything was done, a flush is still missing. -/
theorem getLast?_of_missed {sent missed : List Action} (h : sent ++ missed = sendAll [.eof, .closed])
    (hmissed : missed ≠ []) (hclosed : Frame.closed ∈ written sent) :
    sent.getLast? = some (.wrote .closed) ∨ sent.getLast? = some .beganFlush := by
  have hfront : sent ∈ (sendAll [.eof, .closed]).inits := (List.mem_inits _ _).mpr ⟨missed, h⟩
  simp only [sendAll, List.flatMap_cons, List.flatMap_nil, List.append_nil, List.cons_append,
    List.nil_append, List.inits, List.map_cons, List.map_nil, List.mem_cons, List.not_mem_nil,
    or_false] at hfront
  rcases hfront with rfl | rfl | rfl | rfl | rfl | rfl | rfl
  · simp at hclosed
  · simp at hclosed
  · simp at hclosed
  · simp at hclosed
  · exact Or.inl rfl
  · exact Or.inr rfl
  · exact (hmissed (by simpa [sendAll] using h)).elim

/-- Closing frames that were cut short were not sent. -/
theorem CutShort.not_sent (h : CutShort situations late actions) :
    ¬ sendAll [.eof, .closed] <:+ actions := by
  intro hall
  have hlast : actions.getLast? = some .flushed := @getLast?_of_sendAll actions [.eof] .closed hall
  obtain ⟨before, sent, missed, cause, hbefore, hsent, hmissed, hcause, rfl⟩ := h
  -- a failure is the last action, where a flush would be; a cancellation leaves no trace, but then
  -- the last frame was written in the middle of the closing frames
  rcases hcause with ⟨rfl, -⟩ | ⟨failure, hfailure, rfl⟩
  · have hclosed : Frame.closed ∈ written (before ++ sendAll (notice late) ++ sent) := by
      obtain ⟨front, hfront⟩ := hall
      rw [List.append_nil] at hfront
      rw [← hfront]
      simp [sendAll]
    have hnotice : Frame.closed ∉ written (sendAll (notice late)) := by cases late <;> decide
    have hmem : Frame.closed ∈ written sent := by
      simpa [hbefore.closed_not_mem, hnotice] using hclosed
    rcases getLast?_of_missed hsent hmissed hmem with hwrote | hbegan
    · simp [hwrote] at hlast
    · simp [hbegan] at hlast
  · obtain rfl : failure = .flushed := by simpa using hlast
    simp at hfailure

/-- An end whose closing frames were cut short is not true. -/
theorem End.IsCutShort.not_isTrue (h : how.IsCutShort situations actions) :
    ¬ how.IsTrue situations actions := by
  cases how with
  | drained => exact CutShort.not_sent h
  | timedOut =>
      intro hall
      have hclosing : sendAll [.eof, .closed] <:+ sendAll [.timeout, .eof, .closed] :=
        ⟨sendAll [.timeout], rfl⟩
      exact CutShort.not_sent h (hclosing.trans hall)
  | cancelled | peerGone => exact h.elim

/-! ## The session -/

/-- **When the end of a session is true.**  Whatever a writer meets until it has ended, its end says
what it did, unless its closing frames were cut short by a cancellation or by a failure of the sink.
This befalls no session that reports a cancellation or a peer that is gone, so these reports are
always true; one that was cut short reports all the same that it was drained or has timed out, and
of the latter the notice of the deadline was sent. -/
theorem session_end_true_iff (options : Options) (situations : List Situation) {how : End}
    (hend : (Writer.run { options } situations).1.phase = .done (.ended how)) :
    how.IsTrue situations (Writer.run { options } situations).2 ↔
      ¬ how.IsCutShort situations (Writer.run { options } situations).2 := by
  let P (w : Writer) (actions : List Action) : Prop :=
    OnCourse w (written actions) ∧ w.HasDone situations actions
  have hstart : P { options } [] :=
    ⟨onCourse_start options, Or.inl ⟨rfl, fun hclosing => Bool.noConfusion hclosing⟩⟩
  have hdone : P _ _ := Writer.run_keeps P situations
    (fun _ hs _ _ _ _ h hmove => ⟨h.1.step hmove, h.2.step h.1 hs hmove⟩) { options } [] hstart
  have htold := hdone.2
  rw [Writer.HasDone, hend] at htold
  exact ⟨fun htrue hcut => hcut.not_isTrue htrue, htold.resolve_right⟩

/-- A session that lasts until its deadline. -/
def lateSession : List Situation :=
  List.replicate 4 { now := 0 } ++ List.replicate 10 { now := 100 }

/-- That session reports its deadline, and has sent the notice of it and the closing frames. -/
theorem session_end_true_iff_late :
    (Writer.run { options := ⟨1000, 100⟩ } lateSession).1.phase = .done (.ended .timedOut) ∧
    ¬ End.timedOut.IsCutShort lateSession
      (Writer.run { options := ⟨1000, 100⟩ } lateSession).2 := by
  have hend : (Writer.run { options := ⟨1000, 100⟩ } lateSession).1.phase =
      .done (.ended .timedOut) := by decide
  have hsent : End.timedOut.IsTrue lateSession
      (Writer.run { options := ⟨1000, 100⟩ } lateSession).2 :=
    ⟨[.wrote .ping, .wrote .opened, .beganFlush, .flushed], rfl⟩
  exact ⟨hend, (session_end_true_iff ⟨1000, 100⟩ lateSession hend).mp hsent⟩

/-- A session without values whose peer does not take the first closing frame. -/
def refusedSession : List Situation :=
  List.replicate 4 { now := 0 } ++
  [{ now := 1, offer := .finished }, { now := 1, takesFrame := false }, { now := 1 }]

/-- **The end of a session is not always true.**  It is not so that a session which reports that it
was drained has sent its closing frames: this one has written neither of them. -/
theorem drained_without_closing_frames :
    ¬ ∀ (options : Options) (situations : List Situation) (how : End),
      (Writer.run { options } situations).1.phase = .done (.ended how) →
      how.IsTrue situations (Writer.run { options } situations).2 := by
  intro htrue
  have hend : (Writer.run { options := ⟨10, 100⟩ } refusedSession).1.phase =
      .done (.ended .drained) := by decide
  have hframes : written (Writer.run { options := ⟨10, 100⟩ } refusedSession).2 =
      [.ping, .opened] := by decide
  obtain ⟨before, hactions⟩ := htrue _ _ _ hend
  have hclosed : Frame.closed ∈ written (Writer.run { options := ⟨10, 100⟩ } refusedSession).2 := by
    rw [← hactions]
    simp [sendAll]
  rw [hframes] at hclosed
  simp at hclosed

end ServiceHost.Session
