import ServiceHost.Proofs.Session.EventStream
import ServiceHost.Session.Timeline

/-!
# Sessions whose sink takes everything at once

With a recorder that never fails and takes no time, all that a writer has to say goes out before
time passes (`runWriter_record`).  So a session comes to rest at every moment: nothing is on its way,
and the writer waits or is done (`settle_of_run`).  From there it is moved by the next sign of life
(`settle_ping`), the deadline (`settle_deadline`), a value (`settle_send`) or the end of its publisher
(`settle_drop`), and by nothing else.
-/

namespace ServiceHost.Session

/-! ## A perfect sink -/

namespace Recorder

/-- Whether a recorder never fails, takes no time, and has flushed all it was given. -/
structure IsPerfect (r : Recorder) : Prop where
  writes_all : r.goodWrites = none
  flushes_all : r.goodFlushes = none
  at_once : r.flushTime = 0
  there : r.peerGone = false
  flushed : r.buffer = ""

/-- A recorder behind some frames that were written and flushed. -/
def record (r : Recorder) (now : Nat) (frames : List Frame) : Recorder :=
  { r with
    writes := r.writes + frames.length, flushes := r.flushes + 1, flushEnd := now
    output := r.output ++ textOf frames }

@[simp] theorem record_output (r : Recorder) (now : Nat) (frames : List Frame) :
    (r.record now frames).output = r.output ++ textOf frames := rfl

theorem IsPerfect.record {r : Recorder} (h : r.IsPerfect) (now : Nat) (frames : List Frame) :
    (r.record now frames).IsPerfect :=
  ⟨h.writes_all, h.flushes_all, h.at_once, h.there, h.flushed⟩

end Recorder

namespace Timeline

variable {t t' : Timeline} {r : Recorder} {frames : List Frame} {next : Next}

/-! ## The writer goes on -/

theorem runWriter_of_rest (h : t.stepWriter? = none) (steps : Nat) : runWriter steps t = t := by
  cases steps with
  | zero => rfl
  | succ steps => rw [runWriter, h]

theorem runWriter_succ (h : t.stepWriter? = some t') (steps : Nat) :
    runWriter (steps + 1) t = runWriter steps t' := by
  rw [runWriter, h]

theorem runWriter_add (first second : Nat) (t : Timeline) :
    runWriter (first + second) t = runWriter second (runWriter first t) := by
  induction first generalizing t with
  | zero => rw [Nat.zero_add, runWriter]
  | succ first ih =>
      rw [Nat.add_right_comm]
      cases hstep : t.stepWriter? with
      | none => rw [runWriter_of_rest hstep, runWriter_of_rest hstep, runWriter_of_rest hstep]
      | some t' => rw [runWriter_succ hstep, runWriter_succ hstep, ih]

/-- A session whose writer has some frames to write. -/
def writing (t : Timeline) (frames : List Frame) (next : Next) : Timeline :=
  { t with writer := t.writer.emit frames next }

/-- A session with a recorder. -/
def recording (t : Timeline) (r : Recorder) : Timeline :=
  { t with sink := .recorder r }

theorem runWriter_write (hfree : t.cancelled = false) (hopen : t.writer.closed = false)
    (hwrites : r.goodWrites = none) :
    runWriter frames.length ((t.writing frames next).recording r) =
      (t.writing [] next).recording
        { r with writes := r.writes + frames.length, buffer := r.buffer ++ textOf frames } := by
  induction frames generalizing r with
  | nil =>
      rw [List.length_nil, runWriter]
      simp
  | cons frame frames ih =>
      have hstep : ((t.writing (frame :: frames) next).recording r).stepWriter? =
          some ((t.writing frames next).recording
            { r with writes := r.writes + 1, buffer := r.buffer ++ frame.text }) := by
        simp [stepWriter?, Writer.step?, writing, recording, Writer.emit, situation, apply,
          Sink.takesFrame, Sink.write, Sink.isWithin, hfree, hopen, hwrites]
      have hrest := ih (r := { r with writes := r.writes + 1, buffer := r.buffer ++ frame.text }) hwrites
      rw [List.length_cons, runWriter_succ hstep, hrest]
      have hcount : r.writes + 1 + frames.length = r.writes + (frames.length + 1) := by omega
      have htext : r.buffer ++ frame.text ++ textOf frames = r.buffer ++ textOf (frame :: frames) := by
        rw [textOf, textOf, List.map_cons, String.join_cons, String.append_assoc]
      rw [hcount, htext]

/-- **Frames go out before time passes**, and the writer goes on. -/
theorem runWriter_record (hr : r.IsPerfect) (hfree : t.cancelled = false)
    (hopen : t.writer.closed = false) {writer : Writer}
    (hproceed : ∀ s : Situation, s.now = t.now →
      ({ t.writer with phase := .flushing next } : Writer).proceed s true next = (writer, [])) :
    runWriter (frames.length + 2) ((t.writing frames next).recording r) =
      { t with writer }.recording (r.record t.now frames) := by
  rw [runWriter_add, runWriter_write hfree hopen hr.writes_all, hr.flushed, String.empty_append]
  generalize hlater : { r with
    writes := r.writes + frames.length, buffer := textOf frames : Recorder } = later
  have hbegin : ((t.writing [] next).recording later).stepWriter? =
      some ({ t with writer := { t.writer with phase := .flushing next } }.recording
        { later with flushEnd := t.now }) := by
    subst hlater
    simp [stepWriter?, Writer.step?, writing, recording, Writer.emit, situation, apply,
      Sink.beginFlush, hfree, hopen, hr.at_once]
  have hend : ({ t with writer := { t.writer with phase := .flushing next } }.recording
      { later with flushEnd := t.now }).stepWriter? =
      some ({ t with writer }.recording (r.record t.now frames)) := by
    subst hlater
    simp [stepWriter?, Writer.step?, recording, situation, apply, Writer.preceded, hproceed,
      Sink.flushed, Sink.isWithin, Sink.endFlush, hr.flushes_all, Recorder.record, hr.flushed]
  rw [runWriter_succ hbegin, runWriter_succ hend, runWriter]

/-! ## Coming to rest -/

theorem runWriter_turn {steps : Nat} (h : runWriter steps t = t') (hrest : t'.stepWriter? = none)
    (hle : steps ≤ turnLength) : runWriter turnLength t = t' := by
  have hsplit : turnLength = steps + (turnLength - steps) := by omega
  rw [hsplit, runWriter_add, h, runWriter_of_rest hrest]

theorem takeTurns_of_rest (hrest : t.stepWriter? = none) (hproducers : t.runProducers = t)
    (turns : Nat) : takeTurns turns t = t := by
  induction turns with
  | zero => rfl
  | succ turns ih => rw [takeTurns, hproducers, runWriter_of_rest hrest, ih]

/-- **A session settles where its writer comes to rest**, if its producers have nothing to do there. -/
theorem settle_of_run {steps : Nat} (h : runWriter steps t = t') (hrest : t'.stepWriter? = none)
    (hproducers : t'.runProducers = t') (hle : steps ≤ turnLength) : t.settle = t' := by
  rw [settle, runWriter_turn h hrest hle, takeTurns_of_rest hrest hproducers, hproducers]

/-- A session in which nothing is on its way. -/
def calm (writer : Writer) (now : Nat) (r : Recorder) (publishers : List Bool)
    (settled : List (Nat × Bool)) (nextId : Nat) : Timeline :=
  { now, writer, sink := .recorder r, publishers, settled, nextId }

variable {w writer : Writer} {now nextId : Nat} {publishers : List Bool} {settled : List (Nat × Bool)}

theorem runProducers_calm : (calm w now r publishers settled nextId).runProducers =
    calm w now r publishers settled nextId := by
  simp [runProducers, calm]

/-- The frames of a calm session go out. -/
theorem runWriter_calm (hr : r.IsPerfect) (hopen : w.closed = false)
    (hproceed : ∀ s : Situation, s.now = now →
      ({ w with phase := .flushing next } : Writer).proceed s true next = (writer, [])) :
    runWriter (frames.length + 2) ((calm w now r publishers settled nextId).writing frames next) =
      calm writer now (r.record now frames) publishers settled nextId :=
  runWriter_record (t := calm w now r publishers settled nextId) hr rfl hopen hproceed

theorem proceed_resumed (hphase : w.phase = .waiting) (s : Situation) :
    ({ w with phase := .flushing .resumed } : Writer).proceed s true .resumed = (w, []) := by
  rw [Writer.proceed, if_pos rfl, ← hphase]

/-- The closing frames go out, and the writer is done. -/
theorem runWriter_closing (hr : r.IsPerfect) (hopen : w.closed = false) (late : Bool) :
    runWriter 6 ((calm w now r publishers settled nextId).writing [.eof] (.eof late)) =
      calm (w.finish (.ended (if late then .timedOut else .drained))) now
        ((r.record now [.eof]).record now [.closed]) publishers settled nextId := by
  have heof : runWriter 3 ((calm w now r publishers settled nextId).writing [.eof] (.eof late)) =
      (calm w now (r.record now [.eof]) publishers settled nextId).writing [.closed]
        (.closed late) :=
    runWriter_calm hr hopen fun _ _ => rfl
  rw [show 6 = 3 + 3 from rfl, runWriter_add, heof]
  exact runWriter_calm (hr.record now [.eof]) hopen fun _ _ => rfl

/-! ## What moves a waiting writer -/

/-- Whether a writer waits, and nothing keeps it from going on. -/
structure Waits (t : Timeline) (r : Recorder) : Prop where
  phase : t.writer.phase = .waiting
  open_ : t.writer.closed = false
  sink : t.sink = .recorder r
  free : t.cancelled = false
  perfect : r.IsPerfect

section Steps

variable (h : t.Waits r)

include h

theorem step_deadline (hlate : t.writer.deadline ≤ t.now) :
    t.stepWriter? = some (t.writing [.timeout] .timedOut) := by
  simp [stepWriter?, Writer.step?, Writer.wait?, situation, Sink.peerGone, writing, h.phase, h.sink,
    h.free, h.perfect.there, hlate]

variable (hearly : t.now < t.writer.deadline)

include hearly

theorem step_value {id : Nat} {value : Json} (hoffered : t.offered = some ⟨id, .value value⟩) :
    t.stepWriter? = some { t.writing [.data value.render] .resumed with
      offered := none, taken := t.taken ++ [id] } := by
  simp [stepWriter?, Writer.step?, Writer.wait?, situation, offer, Sink.peerGone, writing, Writer.take,
    apply, h.phase, h.sink, h.free, h.perfect.there, Nat.not_le.mpr hearly, hoffered]

theorem step_finished (hoffer : t.offer = .finished) :
    t.stepWriter? = some (t.writing [.eof] (.eof false)) := by
  simp [stepWriter?, Writer.step?, Writer.wait?, situation, Sink.peerGone, writing, h.phase, h.sink,
    h.free, h.perfect.there, Nat.not_le.mpr hearly, hoffer]

theorem step_ping (hoffer : t.offer = .nothing) (hdue : t.writer.pingDue ≤ t.now) :
    t.stepWriter? = some
      ({ t with writer := { t.writer with pingDue := t.writer.nextPing t.now } }.writing [.ping]
        .resumed) := by
  simp [stepWriter?, Writer.step?, Writer.wait?, situation, Sink.peerGone, writing, h.phase, h.sink,
    h.free, h.perfect.there, Nat.not_le.mpr hearly, hoffer, hdue]

theorem step_none (hoffer : t.offer = .nothing) (hwaits : t.now < t.writer.pingDue) :
    t.stepWriter? = none := by
  simp [stepWriter?, Writer.step?, Writer.wait?, situation, Sink.peerGone, h.phase, h.sink,
    h.free, h.perfect.there, Nat.not_le.mpr hearly, hoffer, Nat.not_le.mpr hwaits]

end Steps

/-- A writer that is done takes no step. -/
theorem step_of_done {result : Result} (h : t.writer.phase = .done result) :
    t.stepWriter? = none := by
  rw [stepWriter?, Writer.step?, h]
  rfl

/-! ## From rest to rest -/

section Calm

variable (hphase : w.phase = .waiting) (hopen : w.closed = false) (hr : r.IsPerfect)

include hphase hopen hr

theorem waits_calm (publishers : List Bool) (settled : List (Nat × Bool)) (now nextId : Nat) :
    (calm w now r publishers settled nextId).Waits r :=
  ⟨hphase, hopen, rfl, rfl, hr⟩

/-- **At the deadline** a session is closed. -/
theorem settle_deadline (hlate : w.deadline ≤ now) :
    (calm w now r publishers settled nextId).settle =
      calm (w.finish (.ended .timedOut)) now
        (((r.record now [.timeout]).record now [.eof]).record now [.closed]) publishers settled
        nextId := by
  have hstep := step_deadline (waits_calm hphase hopen hr publishers settled now nextId) hlate
  have htimeout : runWriter 3 ((calm w now r publishers settled nextId).writing [.timeout]
      .timedOut) =
      (calm w now (r.record now [.timeout]) publishers settled nextId).writing [.eof]
        (.eof true) :=
    runWriter_calm hr hopen fun _ _ => rfl
  have hrun : runWriter 10 (calm w now r publishers settled nextId) =
      calm (w.finish (.ended .timedOut)) now
        (((r.record now [.timeout]).record now [.eof]).record now [.closed]) publishers settled
        nextId := by
    rw [runWriter_succ hstep, show 9 = 3 + 6 from rfl, runWriter_add, htimeout]
    exact runWriter_closing (hr.record now [.timeout]) hopen true
  exact settle_of_run hrun (step_of_done rfl) runProducers_calm (by decide)

/-- **Without a publisher** a session is closed. -/
theorem settle_drop (hearly : now < w.deadline) (hnone : publishers.contains true = false) :
    (calm w now r publishers settled nextId).settle =
      calm (w.finish (.ended .drained)) now ((r.record now [.eof]).record now [.closed])
        publishers settled nextId := by
  have hoffer : (calm w now r publishers settled nextId).offer = .finished := by
    simp [offer, calm] at hnone ⊢
    exact hnone
  have hstep := step_finished (waits_calm hphase hopen hr publishers settled now nextId) hearly hoffer
  have hrun : runWriter 7 (calm w now r publishers settled nextId) =
      calm (w.finish (.ended .drained)) now ((r.record now [.eof]).record now [.closed])
        publishers settled nextId :=
    (runWriter_succ hstep 6).trans (runWriter_closing hr hopen false)
  exact settle_of_run hrun (step_of_done rfl) runProducers_calm (by decide)

variable (hthere : publishers.contains true = true)

include hthere

omit hphase hopen hr in
theorem offer_calm : (calm w now r publishers settled nextId).offer = .nothing := by
  simp [offer, calm] at hthere ⊢
  exact hthere

/-- **Until something is due** nothing happens. -/
theorem settle_calm (hearly : now < w.deadline) (hwaits : now < w.pingDue) :
    (calm w now r publishers settled nextId).settle = calm w now r publishers settled nextId :=
  settle_of_run (show runWriter 0 _ = _ from rfl)
    (step_none (waits_calm hphase hopen hr publishers settled now nextId) hearly
      (offer_calm hthere) hwaits) runProducers_calm (by decide)

/-- **When it is due** a sign of life goes out, and the next one is due a period later. -/
theorem settle_ping (hearly : now < w.deadline) (hdue : w.pingDue = now)
    (hperiod : 0 < w.options.keepAlive) (hreaches : Clock.reaches (now + w.options.keepAlive) = true) :
    (calm w now r publishers settled nextId).settle =
      calm { w with pingDue := now + w.options.keepAlive } now (r.record now [.ping]) publishers
        settled nextId := by
  have hnext : w.nextPing now = now + w.options.keepAlive := by
    rw [Writer.nextPing, hdue, if_neg (by omega), Clock.timer, if_pos hreaches]
  have hstep := step_ping (waits_calm hphase hopen hr publishers settled now nextId) hearly
    (offer_calm hthere) hdue.le
  have hrun : runWriter 4 (calm w now r publishers settled nextId) =
      calm { w with pingDue := now + w.options.keepAlive } now (r.record now [.ping]) publishers
        settled nextId := by
    have hping : runWriter 3
        ((calm { w with pingDue := w.nextPing now } now r publishers settled nextId).writing [.ping]
          .resumed) =
        calm { w with pingDue := w.nextPing now } now (r.record now [.ping]) publishers settled
          nextId :=
      runWriter_calm hr hopen
        fun s _ => proceed_resumed (w := { w with pingDue := w.nextPing now }) hphase s
    rw [← hnext, ← hping]
    exact runWriter_succ hstep 3
  have hrest := step_none (waits_calm (w := { w with pingDue := now + w.options.keepAlive }) hphase
    hopen (hr.record now [.ping]) publishers settled now nextId) hearly (offer_calm hthere)
    (Nat.lt_add_of_pos_right hperiod)
  exact settle_of_run hrun hrest runProducers_calm (by decide)

/-- A calm session in which a publisher has begun to hand a value over. -/
def sending (t : Timeline) (value : Json) : Timeline :=
  { t with waiting := [⟨t.nextId, .value value⟩], nextId := t.nextId + 1 }

/-- **A value that is handed over** before the deadline goes out, and its publisher learns it. -/
theorem settle_send (hearly : now < w.deadline) (hwaits : now < w.pingDue) (value : Json) :
    ((calm w now r publishers settled nextId).sending value).settle =
      calm w now (r.record now [.data value.render]) publishers (settled ++ [(nextId, true)])
        (nextId + 1) := by
  have hoffer : ∀ t : Timeline, t.offered = none → t.publishers = publishers → t.offer = .nothing := by
    intro t hoffered hpublishers
    simp only [offer, hoffered, hpublishers, hthere, Bool.true_or, if_true]
  have hwaits' := hr.record now [.data value.render]
  -- the value enters the channel
  have hfirst : ((calm w now r publishers settled nextId).sending value).stepWriter? = none :=
    step_none ⟨hphase, hopen, rfl, rfl, hr⟩ hearly (hoffer _ rfl rfl) hwaits
  have henter : ((calm w now r publishers settled nextId).sending value).runProducers =
      { calm w now r publishers settled (nextId + 1) with
        offered := some ⟨nextId, .value value⟩ } := by
    simp [runProducers, sending, calm, isClosed, Writer.result?, hphase]
  -- the writer takes it, and its frame goes out
  have htake : runWriter turnLength
      { calm w now r publishers settled (nextId + 1) with offered := some ⟨nextId, .value value⟩ } =
      { calm w now (r.record now [.data value.render]) publishers settled (nextId + 1) with
        taken := [nextId] } := by
    have hstep := step_value (t := { calm w now r publishers settled (nextId + 1) with
      offered := some ⟨nextId, .value value⟩ }) ⟨hphase, hopen, rfl, rfl, hr⟩ hearly rfl
    have hgo : runWriter ([Frame.data value.render].length + 2)
        (({ calm w now r publishers settled (nextId + 1) with taken := [nextId] } : Timeline).writing
          [.data value.render] .resumed) =
        { calm w now (r.record now [.data value.render]) publishers settled (nextId + 1) with
          taken := [nextId] } :=
      runWriter_record (t := { calm w now r publishers settled (nextId + 1) with
        taken := [nextId] }) hr rfl hopen fun s _ => proceed_resumed hphase s
    exact runWriter_turn ((runWriter_succ hstep 3).trans hgo)
      (step_none ⟨hphase, hopen, rfl, rfl, hwaits'⟩ hearly (hoffer _ rfl rfl) hwaits) (by decide)
  -- its publisher learns it
  have hlearn : ({ calm w now (r.record now [.data value.render]) publishers settled (nextId + 1) with
      taken := [nextId] } : Timeline).runProducers =
      calm w now (r.record now [.data value.render]) publishers (settled ++ [(nextId, true)])
        (nextId + 1) := by
    simp [runProducers, calm]
  have hlast := step_none (waits_calm hphase hopen hwaits' publishers (settled ++ [(nextId, true)])
    now (nextId + 1)) hearly (offer_calm hthere) hwaits
  rw [settle, runWriter_of_rest hfirst, show ((calm w now r publishers settled nextId).sending
    value).waiting.length + 6 = 7 from rfl, takeTurns, henter, htake, takeTurns, hlearn,
    runWriter_of_rest hlast, takeTurns_of_rest hlast runProducers_calm, runProducers_calm]

end Calm

/-- A value that is handed over when a session is over is turned away. -/
theorem settle_send_of_done {result : Result} (hdone : w.phase = .done result) (value : Json) :
    ((calm w now r publishers settled nextId).sending value).settle =
      calm w now r publishers (settled ++ [(nextId, false)]) (nextId + 1) := by
  have hturn : ((calm w now r publishers settled nextId).sending value).runProducers =
      calm w now r publishers (settled ++ [(nextId, false)]) (nextId + 1) := by
    simp [runProducers, sending, calm, isClosed, Writer.result?, hdone]
  have hfirst : ((calm w now r publishers settled nextId).sending value).stepWriter? = none :=
    step_of_done hdone
  have hlast : (calm w now r publishers (settled ++ [(nextId, false)]) (nextId + 1)).stepWriter? =
      none := step_of_done hdone
  rw [settle, runWriter_of_rest hfirst, show ((calm w now r publishers settled nextId).sending
    value).waiting.length + 6 = 7 from rfl, takeTurns, hturn, runWriter_of_rest hlast,
    takeTurns_of_rest hlast runProducers_calm, runProducers_calm]

/-- A session that is over stays as it is. -/
theorem settle_of_done {result : Result} (hdone : w.phase = .done result) :
    (calm w now r publishers settled nextId).settle = calm w now r publishers settled nextId :=
  settle_of_run (show runWriter 0 _ = _ from rfl) (step_of_done hdone) runProducers_calm (by decide)

end Timeline

end ServiceHost.Session
