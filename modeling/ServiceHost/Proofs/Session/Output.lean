import ServiceHost.Proofs.Session.Steps

/-!
# What a session writes

A session opens its stream, goes on with values and signs of life, announces that it has lasted too
long if that is why it ends, and closes the stream; what has been written at any moment is a
beginning of that (`OnCourse`).  The data frames are those of the values that were taken, and at most
the last one is missing (`Delivers`).  A writer whose frames were refused does nothing more
(`run_of_silent`), and one that has left its loop takes no value again (`run_of_closing`).
`session_output` puts the four together.
-/

namespace ServiceHost.Session

/-! ## What is seen of a run -/

/-- Whether a frame carries a value. -/
def Frame.isData : Frame → Bool
  | .data _ => true
  | _ => false

/-- Whether a frame belongs between the opening and the end of a session. -/
def Frame.isRunning : Frame → Bool
  | .data _ | .ping => true
  | _ => false

/-- The frame of a value, if it can be written. -/
def Handover.frame? (handover : Handover) : Option Frame :=
  match handover.payload with
  | .value value => some (.data value.render)
  | _ => none

namespace Action

/-- The frame that the peer took. -/
@[simp] def frame? : Action → Option Frame
  | .wrote frame => some frame
  | _ => none

/-- The value that was taken. -/
@[simp] def handover? : Action → Option Handover
  | .took handover => some handover
  | _ => none

/-- Whether the sink was asked to take a frame or to flush. -/
@[simp] def isCall : Action → Bool
  | .wrote _ | .refused _ | .beganFlush => true
  | _ => false

/-- Whether the sink failed. -/
@[simp] def isFailure : Action → Bool
  | .refused _ | .flushFailed => true
  | _ => false

end Action

/-- The frames that the peer took, in order. -/
def written (actions : List Action) : List Frame :=
  actions.filterMap Action.frame?

/-- The values that were taken, in order. -/
def taken (actions : List Action) : List Handover :=
  actions.filterMap Action.handover?

theorem filterMap_cons_toList {α β : Type} (f : α → Option β) (a : α) (rest : List α) :
    (a :: rest).filterMap f = (f a).toList ++ rest.filterMap f := by
  rw [List.filterMap_cons]
  cases f a <;> rfl

@[simp] theorem written_nil : written [] = [] := rfl

@[simp] theorem taken_nil : taken [] = [] := rfl

@[simp] theorem written_cons (action : Action) (rest : List Action) :
    written (action :: rest) = action.frame?.toList ++ written rest :=
  filterMap_cons_toList _ action rest

@[simp] theorem taken_cons (action : Action) (rest : List Action) :
    taken (action :: rest) = action.handover?.toList ++ taken rest :=
  filterMap_cons_toList _ action rest

@[simp] theorem written_append (actions more : List Action) :
    written (actions ++ more) = written actions ++ written more :=
  List.filterMap_append

@[simp] theorem taken_append (actions more : List Action) :
    taken (actions ++ more) = taken actions ++ taken more :=
  List.filterMap_append

/-! ## The frames of a session -/

/-- The frames of a session that has not begun to end: the opening, and then values and signs of
life. -/
def IsUnderWay (frames : List Frame) : Prop :=
  ∃ middle, (∀ frame ∈ middle, frame.isRunning = true) ∧ frames = [.ping, .opened] ++ middle

/-- The announcement of a session that has lasted too long. -/
def notice (late : Bool) : List Frame :=
  if late then [.timeout] else []

/-- The frames of a whole session. -/
def IsWhole (late : Bool) (frames : List Frame) : Prop :=
  ∃ before, IsUnderWay before ∧ frames = before ++ notice late ++ [.eof, .closed]

/-- Whether frames are those of a session that may still go on. -/
def IsBeginning (frames : List Frame) : Prop :=
  ∃ late whole, IsWhole late whole ∧ frames <+: whole

/-- The frames of a session that has come as far as this. -/
def Next.Reached : Next → List Frame → Prop
  | .opened, frames => frames = [.ping, .opened]
  | .resumed, frames => IsUnderWay frames
  | .timedOut, frames => ∃ before, IsUnderWay before ∧ frames = before ++ notice true
  | .eof late, frames => ∃ before, IsUnderWay before ∧ frames = before ++ notice late ++ [.eof]
  | .closed late, frames => IsWhole late frames

theorem isUnderWay_opening : IsUnderWay [.ping, .opened] :=
  ⟨[], by simp, rfl⟩

theorem IsUnderWay.concat {frames : List Frame} (h : IsUnderWay frames) {frame : Frame}
    (hframe : frame.isRunning = true) : IsUnderWay (frames ++ [frame]) := by
  obtain ⟨middle, hmiddle, rfl⟩ := h
  refine ⟨middle ++ [frame], ?_, by simp⟩
  intro other hother
  rcases List.mem_append.mp hother with hmem | hmem
  · exact hmiddle other hmem
  · rw [List.mem_singleton.mp hmem, hframe]

/-- Every point of a session can be completed to a whole one. -/
theorem Next.Reached.isBeginning {next : Next} {frames : List Frame} (h : next.Reached frames) :
    IsBeginning frames := by
  cases next with
  | opened =>
      obtain rfl : frames = [.ping, .opened] := h
      exact ⟨false, _, ⟨_, isUnderWay_opening, rfl⟩, [.eof, .closed], rfl⟩
  | resumed => exact ⟨false, _, ⟨frames, h, rfl⟩, [.eof, .closed], by simp [notice]⟩
  | timedOut =>
      obtain ⟨before, hbefore, rfl⟩ := h
      exact ⟨true, _, ⟨before, hbefore, rfl⟩, [.eof, .closed], rfl⟩
  | eof late =>
      obtain ⟨before, hbefore, rfl⟩ := h
      exact ⟨late, _, ⟨before, hbefore, rfl⟩, [.closed], by simp⟩
  | closed late => exact ⟨late, frames, h, List.prefix_refl _⟩

theorem IsBeginning.of_prefix {frames more : List Frame} (h : IsBeginning more)
    (hfront : frames <+: more) : IsBeginning frames := by
  obtain ⟨late, whole, hwhole, hmore⟩ := h
  exact ⟨late, whole, hwhole, hfront.trans hmore⟩

/-! ## Every writer is on the course of a session -/

/-- Whether a writer at this point, with its frames still to come, is on the course of a session. -/
def Phase.Fits : Phase → List Frame → Prop
  | .writing coming next, frames => next.Reached (frames ++ coming)
  | .flushing next, frames => next.Reached frames
  | .waiting, frames => IsUnderWay frames
  | .done (.ended .drained), frames => IsWhole false frames
  | .done (.ended .timedOut), frames => IsWhole true frames
  | .done _, _ => True

@[simp] theorem fits_writing {coming frames : List Frame} {next : Next} :
    (Phase.writing coming next).Fits frames ↔ next.Reached (frames ++ coming) := Iff.rfl

@[simp] theorem fits_flushing {frames : List Frame} {next : Next} :
    (Phase.flushing next).Fits frames ↔ next.Reached frames := Iff.rfl

@[simp] theorem fits_waiting {frames : List Frame} :
    Phase.waiting.Fits frames ↔ IsUnderWay frames := Iff.rfl

/-- The frames of a writer are a beginning of a session, and unless its frames were refused it
goes on with what comes next in one. -/
structure OnCourse (w : Writer) (frames : List Frame) : Prop where
  beginning : IsBeginning frames
  fits : w.closed = false → w.phase.Fits frames

variable {w w' : Writer} {s : Situation} {actions past : List Action}

theorem onCourse_start (options : Options) : OnCourse { options } [] := by
  have hfits : Next.opened.Reached [.ping, .opened] := rfl
  exact ⟨hfits.isBeginning.of_prefix List.nil_prefix, fun _ => hfits⟩

/-- What comes next fits behind a flush. -/
theorem Next.Reached.afterFlush {next : Next} {frames : List Frame} (h : next.Reached frames) :
    next.afterFlush.Fits frames := by
  cases next with
  | opened =>
      obtain rfl : frames = [.ping, .opened] := h
      exact isUnderWay_opening
  | resumed => exact h
  | timedOut =>
      obtain ⟨before, hbefore, rfl⟩ := h
      exact ⟨before, hbefore, rfl⟩
  | eof late =>
      obtain ⟨before, hbefore, rfl⟩ := h
      exact ⟨before, hbefore, by simp⟩
  | closed late => cases late <;> exact h

/-- **A step stays on course.** -/
theorem OnCourse.step (h : OnCourse w (written past)) (hmove : w.Move s w' actions) :
    OnCourse w' (written (past ++ actions)) := by
  obtain ⟨hbeginning, hfits⟩ := h
  cases hmove with
  | gaveUp | refused | flushFailed =>
      exact ⟨by simpa using hbeginning, fun hopen => Bool.noConfusion hopen⟩
  | @wrote frame rest next hphase hopen =>
      have hreached : next.Reached (written past ++ [frame] ++ rest) := by
        simpa [hphase] using hfits hopen
      have hwritten : written (past ++ [.wrote frame]) = written past ++ [frame] := by simp
      rw [hwritten]
      exact ⟨hreached.isBeginning.of_prefix (List.prefix_append _ _), fun _ => hreached⟩
  | @beganFlush next hphase hopen =>
      have hreached : next.Reached (written past) := by
        simpa [hphase] using hfits hopen
      exact ⟨by simpa using hbeginning, fun _ => by simpa using hreached⟩
  | opened hphase =>
      refine ⟨by simpa using hbeginning, fun hopen => ?_⟩
      have hreached : Next.opened.Reached (written past) := by
        simpa [hphase] using hfits hopen
      have hunderWay : IsUnderWay (written past) := hreached.afterFlush
      simpa using hunderWay
  | stopped => exact ⟨by simpa using hbeginning, fun _ => trivial⟩
  | @flushed next hphase =>
      refine ⟨by simpa using hbeginning, fun hopen => ?_⟩
      have hreached : next.Reached (written past) := by
        simpa [hphase] using hfits hopen
      simpa using hreached.afterFlush
  | left hphase hhow =>
      refine ⟨by simpa using hbeginning, fun _ => ?_⟩
      rcases hhow with ⟨rfl, -⟩ | ⟨rfl, -⟩ <;> trivial
  | timedOut hphase | drained hphase =>
      refine ⟨by simpa using hbeginning, fun hopen => ?_⟩
      have hunderWay : IsUnderWay (written past) := by
        simpa [hphase] using hfits hopen
      exact ⟨_, hunderWay, by simp [notice]⟩
  | took hphase | pinged hphase =>
      refine ⟨by simpa using hbeginning, fun hopen => ?_⟩
      have hunderWay : IsUnderWay (written past) := by
        simpa [hphase] using hfits hopen
      simpa [Next.Reached] using hunderWay.concat rfl
  | skipped => exact ⟨by simpa using hbeginning, fun hopen => by simpa using hfits hopen⟩
  | brokeDown => exact ⟨by simpa using hbeginning, fun _ => trivial⟩

/-! ## Values become data frames -/

/-- The data frames among some frames. -/
def dataFrames (frames : List Frame) : List Frame :=
  frames.filter Frame.isData

@[simp] theorem dataFrames_nil : dataFrames [] = [] := rfl

@[simp] theorem dataFrames_append (frames more : List Frame) :
    dataFrames (frames ++ more) = dataFrames frames ++ dataFrames more :=
  List.filter_append _ _

/-- The frames of those values that can be written. -/
def valueFrames (values : List Handover) : List Frame :=
  values.filterMap Handover.frame?

@[simp] theorem valueFrames_append (values more : List Handover) :
    valueFrames (values ++ more) = valueFrames values ++ valueFrames more :=
  List.filterMap_append

/-- Whether every value that was taken has become a data frame, in the order of taking. -/
def AllDelivered (actions : List Action) : Prop :=
  dataFrames (written actions) = valueFrames (taken actions)

/-- Whether a run ends on a value: every value before it has become a data frame, and behind it the
sink has at most failed. -/
def EndsOnValue (actions : List Action) : Prop :=
  ∃ earlier last rest, actions = earlier ++ .took last :: rest ∧ AllDelivered earlier ∧
    ∀ action ∈ rest, action.isFailure = true

/-- Whether the values that were taken have become data frames.  While the frame of a value is still
to come it is missing, and it stays missing when the session ends on that value. -/
def Phase.Delivers : Phase → List Action → Prop
  | .writing coming next, actions =>
    (dataFrames coming = [] ∧ AllDelivered actions) ∨
      (next = .resumed ∧ ∃ frame earlier last, coming = [frame] ∧ last.frame? = some frame ∧
        actions = earlier ++ [.took last] ∧ AllDelivered earlier)
  | .done result, actions =>
    AllDelivered actions ∨
      ((result = .ended .cancelled ∨ result = .ended .peerGone) ∧ EndsOnValue actions)
  | _, actions => AllDelivered actions

@[simp] theorem delivers_flushing {next : Next} {actions : List Action} :
    (Phase.flushing next).Delivers actions ↔ AllDelivered actions := Iff.rfl

@[simp] theorem delivers_waiting {actions : List Action} :
    Phase.waiting.Delivers actions ↔ AllDelivered actions := Iff.rfl

/-- Actions that neither write nor take leave it at that. -/
theorem AllDelivered.append (h : AllDelivered past) (hwritten : written actions = [])
    (htaken : taken actions = []) : AllDelivered (past ++ actions) := by
  simpa [AllDelivered, hwritten, htaken] using h

theorem Handover.isData_of_frame? {handover : Handover} {frame : Frame}
    (h : handover.frame? = some frame) : frame.isData = true := by
  unfold Handover.frame? at h
  split at h
  · obtain rfl := by simpa using h
    rfl
  · simp at h

/-- At most the value is lost whose frame was still to come. -/
theorem Phase.Delivers.givenUp {coming : List Frame} {next : Next}
    (h : (Phase.writing coming next).Delivers past)
    (hfailed : ∀ action ∈ actions, action.isFailure = true) :
    (next.afterFailure s).Delivers (past ++ actions) := by
  have hsilent : written actions = [] ∧ taken actions = [] := by
    simp only [written, taken, List.filterMap_eq_nil_iff]
    exact ⟨fun action hmem => by have := hfailed action hmem; cases action <;> simp_all,
      fun action hmem => by have := hfailed action hmem; cases action <;> simp_all⟩
  rcases h with ⟨-, hall⟩ | ⟨rfl, frame, earlier, last, -, -, rfl, hearlier⟩
  · have hnow := hall.append hsilent.1 hsilent.2
    cases next with
    | eof late => exact Or.inl ⟨rfl, hnow⟩
    | _ => exact Or.inl hnow
  · refine Or.inr ⟨?_, earlier, last, actions, by simp, hearlier, hfailed⟩
    unfold Writer.endEarly
    split
    · exact Or.inl rfl
    · exact Or.inr rfl

theorem Next.delivers_afterFailure (next : Next) (h : AllDelivered actions) :
    (next.afterFailure s).Delivers actions := by
  cases next with
  | eof late => exact Or.inl ⟨rfl, h⟩
  | _ => exact Or.inl h

theorem Next.delivers_afterFlush (next : Next) (h : AllDelivered actions) :
    next.afterFlush.Delivers actions := by
  cases next with
  | opened | resumed => exact h
  | timedOut | eof => exact Or.inl ⟨rfl, h⟩
  | closed => exact Or.inl h

/-- **A step delivers what was taken.** -/
theorem delivers_step (h : w.phase.Delivers past) (hmove : w.Move s w' actions) :
    w'.phase.Delivers (past ++ actions) := by
  cases hmove with
  | gaveUp hphase | refused hphase =>
      rw [hphase] at h
      exact h.givenUp (by simp)
  | @flushFailed next hphase =>
      rw [hphase, delivers_flushing] at h
      exact next.delivers_afterFailure (h.append rfl rfl)
  | @wrote frame rest next hphase =>
      rw [hphase] at h
      rcases h with ⟨hcoming, hall⟩ | ⟨rfl, last, earlier, value, hcoming, hlast, rfl, hearlier⟩
      · obtain ⟨hframe, hrest⟩ : dataFrames [frame] = [] ∧ dataFrames rest = [] := by
          rw [← List.append_eq_nil_iff, ← dataFrames_append]
          exact hcoming
        refine Or.inl ⟨hrest, ?_⟩
        have hnow : dataFrames (written past) ++ dataFrames [frame] = valueFrames (taken past) := by
          rw [hframe, List.append_nil]
          exact hall
        simpa [AllDelivered] using hnow
      · obtain ⟨rfl, rfl⟩ := List.cons.inj hcoming
        refine Or.inl ⟨rfl, ?_⟩
        have hdata : dataFrames [frame] = [frame] := by
          simp [dataFrames, Handover.isData_of_frame? hlast]
        have hvalue : valueFrames [value] = [frame] := by simp [valueFrames, hlast]
        have hnow : dataFrames (written earlier) ++ dataFrames [frame] =
            valueFrames (taken earlier) ++ valueFrames [value] := by
          rw [hdata, hvalue, hearlier]
        simpa [AllDelivered] using hnow
  | beganFlush hphase =>
      rw [hphase] at h
      rcases h with ⟨-, hall⟩ | ⟨-, frame, -, -, hcoming, -⟩
      · exact hall.append rfl rfl
      · simp at hcoming
  | opened hphase =>
      rw [hphase, delivers_flushing] at h
      exact h.append rfl rfl
  | stopped hphase =>
      rw [hphase, delivers_flushing] at h
      exact Or.inl (h.append rfl rfl)
  | @flushed next hphase =>
      rw [hphase, delivers_flushing] at h
      exact next.delivers_afterFlush (h.append rfl rfl)
  | left hphase =>
      rw [hphase, delivers_waiting] at h
      exact Or.inl (h.append rfl rfl)
  | timedOut hphase | drained hphase | pinged hphase =>
      rw [hphase, delivers_waiting] at h
      exact Or.inl ⟨rfl, h.append rfl rfl⟩
  | @took handover value hphase _ _ hpayload =>
      rw [hphase, delivers_waiting] at h
      have hframe : handover.frame? = some (.data value.render) := by
        simp [Handover.frame?, hpayload]
      exact Or.inr ⟨rfl, _, past, handover, rfl, hframe, rfl, h⟩
  | @skipped handover reason event hphase _ _ hpayload =>
      rw [hphase, delivers_waiting] at h ⊢
      have hframe : handover.frame? = none := by simp [Handover.frame?, hpayload]
      have hall : dataFrames (written past) = valueFrames (taken past) := h
      simp [AllDelivered, hall, valueFrames, hframe]
  | @brokeDown handover message event hphase _ _ hpayload =>
      rw [hphase, delivers_waiting] at h
      have hframe : handover.frame? = none := by simp [Handover.frame?, hpayload]
      have hall : dataFrames (written past) = valueFrames (taken past) := h
      exact Or.inl (by simp [AllDelivered, hall, valueFrames, hframe])

/-- What was taken has become data frames, unless the run ends on a value. -/
theorem Phase.Delivers.cases {phase : Phase} (h : phase.Delivers actions) :
    AllDelivered actions ∨ (EndsOnValue actions ∧
      ((∃ frame, phase = .writing [frame] .resumed) ∨
        phase = .done (.ended .cancelled) ∨ phase = .done (.ended .peerGone))) := by
  cases phase with
  | writing coming next =>
      rcases h with ⟨-, hall⟩ | ⟨rfl, frame, earlier, last, rfl, -, rfl, hearlier⟩
      · exact Or.inl hall
      · exact Or.inr ⟨⟨earlier, last, [], rfl, hearlier, by simp⟩, Or.inl ⟨frame, rfl⟩⟩
  | flushing | waiting => exact Or.inl h
  | done result =>
      rcases h with hall | ⟨rfl | rfl, hends⟩
      · exact Or.inl hall
      · exact Or.inr ⟨hends, Or.inr (Or.inl rfl)⟩
      · exact Or.inr ⟨hends, Or.inr (Or.inr rfl)⟩

/-! ## Nothing behind a failure, and no value behind the loop -/

/-- Whether a writer asks nothing more of its sink: it is done, or its frames were refused. -/
def Writer.IsSilent (w : Writer) : Prop :=
  (∃ result, w.phase = .done result) ∨ (w.closed = true ∧ ∃ frames next, w.phase = .writing frames next)

theorem Writer.isSilent_givenUp (w : Writer) (s : Situation) (next : Next) :
    (w.givenUp s next).IsSilent := by
  cases next with
  | eof late => exact Or.inr ⟨rfl, _, _, rfl⟩
  | _ => exact Or.inl ⟨_, rfl⟩

theorem Writer.IsSilent.step (h : w.IsSilent) (hmove : w.Move s w' actions) :
    w'.IsSilent ∧ actions = [] := by
  rcases h with ⟨result, hdone⟩ | ⟨hclosed, frames, next, hwriting⟩
  · cases hmove <;> simp_all
  · cases hmove with
    | gaveUp => exact ⟨w.isSilent_givenUp s _, rfl⟩
    | _ => simp_all

/-- A silent writer does nothing any more. -/
theorem run_of_silent (h : w.IsSilent) (situations : List Situation) :
    (w.run situations).2 = [] := by
  refine (Writer.run_keeps (fun w actions => w.IsSilent ∧ actions = []) situations ?_ w []
    ⟨h, rfl⟩).2
  rintro s - w past w' actions ⟨hsilent, rfl⟩ hmove
  obtain ⟨hsilent', rfl⟩ := hsilent.step hmove
  exact ⟨hsilent', rfl⟩

/-- No call of the sink stands behind one of its failures, and behind a failure the writer is
silent. -/
structure QuietBehindFailure (w : Writer) (actions : List Action) : Prop where
  quiet : actions.Pairwise fun earlier later => earlier.isFailure = true → later.isCall = false
  silent : ∀ action ∈ actions, action.isFailure = true → w.IsSilent

/-- A step that fails silences the writer, and the failure is all it does. -/
theorem Writer.Move.failure (hmove : w.Move s w' actions) {action : Action}
    (hmem : action ∈ actions) (hfailure : action.isFailure = true) :
    w'.IsSilent ∧ actions = [action] := by
  cases hmove with
  | refused | flushFailed =>
      rw [List.mem_singleton] at hmem
      exact ⟨w.isSilent_givenUp s _, by rw [hmem]⟩
  | _ => grind [Action.isFailure]

/-- **A step keeps quiet behind a failure.** -/
theorem QuietBehindFailure.step (h : QuietBehindFailure w past) (hmove : w.Move s w' actions) :
    QuietBehindFailure w' (past ++ actions) := by
  by_cases hfailed : ∃ action ∈ past, action.isFailure = true
  · obtain ⟨action, hmem, hfailure⟩ := hfailed
    obtain ⟨hsilent, rfl⟩ := (h.silent action hmem hfailure).step hmove
    exact ⟨by simpa using h.quiet, fun _ _ _ => hsilent⟩
  · have hsound : ∀ action ∈ past, ¬ action.isFailure = true :=
      fun action hmem hfailure => hfailed ⟨action, hmem, hfailure⟩
    refine ⟨List.pairwise_append.mpr ⟨h.quiet, ?_, ?_⟩, ?_⟩
    · by_cases hnow : ∃ action ∈ actions, action.isFailure = true
      · obtain ⟨action, hmem, hfailure⟩ := hnow
        rw [(hmove.failure hmem hfailure).2]
        exact List.pairwise_singleton _ _
      · rw [List.pairwise_iff_forall_sublist]
        exact fun hsub hfailure => (hnow ⟨_, hsub.subset List.mem_cons_self, hfailure⟩).elim
    · exact fun earlier hmem _ _ hfailure => (hsound earlier hmem hfailure).elim
    · intro action hmem hfailure
      rcases List.mem_append.mp hmem with hpast | hnew
      · exact (hsound action hpast hfailure).elim
      · exact (hmove.failure hnew hfailure).1

/-- A cancelled writer calls its sink no more. -/
theorem Writer.Move.quiet_of_cancelled (hmove : w.Move s w' actions)
    (hcancelled : s.cancelled = true) : ∀ action ∈ actions, action.isCall = false := by
  cases hmove <;> simp_all

/-- Behind a cancellation a run calls the sink no more. -/
theorem run_of_cancelled {situations : List Situation}
    (h : ∀ s ∈ situations, s.cancelled = true) (w : Writer) :
    ∀ action ∈ (w.run situations).2, action.isCall = false := by
  refine Writer.run_keeps (fun _ actions => ∀ action ∈ actions, action.isCall = false) situations
    ?_ w [] (by simp)
  intro s hs w past w' actions hpast hmove action hmem
  rcases List.mem_append.mp hmem with hold | hnew
  · exact hpast action hold
  · exact hmove.quiet_of_cancelled (h s hs) action hnew

/-- Whether frames are written for the end of a session. -/
def Next.isClosing : Next → Bool
  | .timedOut | .eof _ | .closed _ => true
  | _ => false

/-- Whether a writer has left its loop. -/
def Phase.HasLeft : Phase → Prop
  | .writing coming next => next.isClosing = true ∧ ∀ frame ∈ coming, frame.isRunning = false
  | .flushing next => next.isClosing = true
  | .waiting => False
  | .done _ => True

/-- Whether an action takes a value or writes a value or a sign of life. -/
def Action.isRunning : Action → Bool
  | .took _ => true
  | .wrote frame => frame.isRunning
  | _ => false

theorem Phase.hasLeft_afterFailure {next : Next} (h : next.isClosing = true) :
    (next.afterFailure s).HasLeft := by
  cases next with
  | eof late => exact ⟨rfl, by simp [Frame.isRunning]⟩
  | _ => trivial

theorem Phase.hasLeft_afterFlush {next : Next} (h : next.isClosing = true) :
    next.afterFlush.HasLeft := by
  cases next with
  | opened | resumed => simp [Next.isClosing] at h
  | timedOut | eof => exact ⟨rfl, by simp [Frame.isRunning]⟩
  | closed => trivial

/-- **A writer that has left its loop does not return to it.** -/
theorem Writer.Move.of_hasLeft (hmove : w.Move s w' actions) (h : w.phase.HasLeft) :
    w'.phase.HasLeft ∧ ∀ action ∈ actions, action.isRunning = false := by
  cases hmove with
  | gaveUp hphase | refused hphase =>
      rw [hphase] at h
      exact ⟨Phase.hasLeft_afterFailure h.1, by simp [Action.isRunning]⟩
  | flushFailed hphase =>
      rw [hphase] at h
      exact ⟨Phase.hasLeft_afterFailure h, by simp [Action.isRunning]⟩
  | wrote hphase =>
      rw [hphase] at h
      obtain ⟨hnext, hcoming⟩ := h
      obtain ⟨hframe, hrest⟩ := List.forall_mem_cons.mp hcoming
      exact ⟨⟨hnext, hrest⟩, by simpa [Action.isRunning] using hframe⟩
  | beganFlush hphase =>
      rw [hphase] at h
      exact ⟨h.1, by simp [Action.isRunning]⟩
  | opened hphase | stopped hphase =>
      rw [hphase] at h
      simp [Phase.HasLeft, Next.isClosing] at h
  | flushed hphase =>
      rw [hphase] at h
      exact ⟨Phase.hasLeft_afterFlush h, by simp [Action.isRunning]⟩
  | left hphase | timedOut hphase | drained hphase | took hphase | skipped hphase
  | brokeDown hphase | pinged hphase =>
      rw [hphase] at h
      exact h.elim

/-- A run that has left the loop takes no value and writes neither value nor sign of life. -/
theorem run_of_hasLeft (h : w.phase.HasLeft) (situations : List Situation) :
    ∀ action ∈ (w.run situations).2, action.isRunning = false := by
  refine (Writer.run_keeps
    (fun w actions => w.phase.HasLeft ∧ ∀ action ∈ actions, action.isRunning = false) situations ?_
    w [] ⟨h, by simp⟩).2
  rintro s - w past w' actions ⟨hleft, hpast⟩ hmove
  obtain ⟨hleft', hnew⟩ := hmove.of_hasLeft hleft
  refine ⟨hleft', fun action hmem => ?_⟩
  rcases List.mem_append.mp hmem with hold | hnow
  · exact hpast action hold
  · exact hnew action hnow

/-- A run from the head of the loop, with a reason to leave there, leaves at once. -/
theorem run_of_mustLeave (hphase : w.phase = .waiting) (h : w.MustLeave s)
    (after : List Situation) :
    ∀ action ∈ (w.run (s :: after)).2, action.isRunning = false := by
  have hleaves : ∀ w' : Writer, w'.phase.HasLeft → w.step? s = some (w', []) →
      ∀ action ∈ (w.run (s :: after)).2, action.isRunning = false := by
    intro w' hleft hstep
    simpa [Writer.run, hstep] using run_of_hasLeft hleft after
  rcases Writer.step?_of_mustLeave hphase h with hstep | hstep | hstep
  · exact hleaves (w.finish (.ended .cancelled)) trivial hstep
  · exact hleaves (w.finish (.ended .peerGone)) trivial hstep
  · exact hleaves (w.emit [.timeout] .timedOut) ⟨rfl, by simp [Frame.isRunning]⟩ hstep

/-! ## The session -/

/-- **What a session writes.**  Whatever a writer meets, at any moment of its run
- the frames that the peer took are a beginning of a session: the opening, values and signs of
  life, the announcement of the deadline if it was that, the end;
- its data frames are those of the values that were taken, in that order, unless the run ends on a
  value whose frame is still to come, or that was cancelled or refused;
- once a write or a flush has failed the sink is not called again;
- once the session is cancelled the sink is not called again;
- once there is a reason to leave where the writer waits for the next thing, no value is taken and
  no sign of life is written. -/
theorem session_output (options : Options) {situations : List Situation}
    (hfinal : situations.Pairwise fun earlier later =>
      earlier.cancelled = true → later.cancelled = true) :
    let writer := (Writer.run { options } situations).1
    let actions := (Writer.run { options } situations).2
    IsBeginning (written actions) ∧
    (AllDelivered actions ∨ (EndsOnValue actions ∧
      ((∃ frame, writer.phase = .writing [frame] .resumed) ∨
        writer.phase = .done (.ended .cancelled) ∨ writer.phase = .done (.ended .peerGone)))) ∧
    (actions.Pairwise fun earlier later => earlier.isFailure = true → later.isCall = false) ∧
    ∀ before s after, situations = before ++ s :: after →
      let reached := (Writer.run { options } before).1
      (s.cancelled = true → ∀ action ∈ (reached.run (s :: after)).2, action.isCall = false) ∧
      (reached.phase = .waiting → reached.MustLeave s →
        ∀ action ∈ (reached.run (s :: after)).2, action.isRunning = false) := by
  have hcourse := Writer.run_keeps (fun w actions => OnCourse w (written actions)) situations
    (fun _ _ _ _ _ _ h hmove => h.step hmove) { options } [] (onCourse_start options)
  have hdelivers := Writer.run_keeps (fun w actions => w.phase.Delivers actions) situations
    (fun _ _ _ _ _ _ h hmove => delivers_step h hmove) { options } [] (Or.inl ⟨rfl, rfl⟩)
  have hquiet := Writer.run_keeps QuietBehindFailure situations
    (fun _ _ _ _ _ _ h hmove => h.step hmove) { options } [] ⟨List.Pairwise.nil, by simp⟩
  refine ⟨hcourse.beginning, hdelivers.cases, hquiet.quiet, ?_⟩
  intro before s after hsplit reached
  refine ⟨fun hcancelled => ?_, fun hphase hleave => run_of_mustLeave hphase hleave after⟩
  rw [hsplit, List.pairwise_append, List.pairwise_cons] at hfinal
  refine run_of_cancelled (fun other hmem => ?_) reached
  rcases List.mem_cons.mp hmem with rfl | hlater
  · exact hcancelled
  · exact hfinal.2.1.1 other hlater hcancelled

/-- A session of two values and a sign of life that is cancelled while the second value is on its
way. -/
def cancelledSession : List Situation :=
  List.replicate 4 { now := 0 } ++
  [{ now := 1, offer := .value ⟨0, .value (.int 1)⟩ }, { now := 1 }, { now := 1 }, { now := 1 },
   { now := 10 }, { now := 10 }, { now := 10 }, { now := 10 },
   { now := 12, offer := .value ⟨1, .value (.int 2)⟩ }, { now := 12, cancelled := true }]

/-- The second value of that session is missing, and its loop was left at once. -/
theorem session_output_cancelled :
    (cancelledSession.Pairwise fun earlier later =>
      earlier.cancelled = true → later.cancelled = true) ∧
    written (Writer.run { options := ⟨10, 100⟩ } cancelledSession).2 =
      [.ping, .opened, .data "1", .ping] ∧
    IsBeginning [.ping, .opened, .data "1", .ping] := by
  have hfinal : cancelledSession.Pairwise fun earlier later =>
      earlier.cancelled = true → later.cancelled = true := by decide
  have hwritten : written (Writer.run { options := ⟨10, 100⟩ } cancelledSession).2 =
      [.ping, .opened, .data "1", .ping] := by decide
  obtain ⟨hbeginning, -⟩ := session_output ⟨10, 100⟩ hfinal
  rw [hwritten] at hbeginning
  exact ⟨hfinal, hwritten, hbeginning⟩

end ServiceHost.Session
