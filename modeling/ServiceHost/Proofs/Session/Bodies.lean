import Mathlib.Data.List.DropRight
import ServiceHost.Proofs.Session.EventStream
import ServiceHost.Proofs.Session.Handovers

/-!
# Sessions read back from response bodies

A `Timeline.BodyRun` is any interleaving of a session with the reader of its body, who reads chunks
and may leave.  While the reader is there nothing gets lost on the way: what was read, what waits in
the channel, what a flush under way holds and what stands in the buffer are together what was
written, and only whole frames are handed on (`Conveys`).  A value that was written is flushed before
the next thing is written, so a session that is closed in order has flushed all its values
(`Phase.Flushes`).  With the frames the reader has the values, since different values have different
texts (`body_read_back`).
-/

namespace ServiceHost.Session

/-! ## The frames that went out -/

namespace Action

/-- Whether an action says that frames went out. -/
def isFlushed : Action → Bool
  | .flushed => true
  | _ => false

/-- Whether an action leaves the sink alone. -/
def leavesSink : Action → Bool
  | .wrote _ | .beganFlush | .flushed => false
  | _ => true

end Action

/-- The frames that went out: those that were written before a flush succeeded. -/
def flushedFrames (actions : List Action) : List Frame :=
  written (actions.rdropWhile (!·.isFlushed))

theorem flushedFrames_isPrefix (actions : List Action) : flushedFrames actions <+: written actions :=
  (List.rdropWhile_prefix _ actions).filterMap _

/-- Nothing goes out without a flush that succeeds. -/
theorem flushedFrames_append {past actions : List Action}
    (h : ∀ action ∈ actions, action.isFlushed = false) :
    flushedFrames (past ++ actions) = flushedFrames past := by
  induction actions using List.reverseRecOn with
  | nil => rw [List.append_nil]
  | append_singleton actions last ih =>
      have hlast : last.isFlushed = false := h last (by simp)
      rw [← List.append_assoc, flushedFrames, List.rdropWhile_concat, if_pos (by simp [hlast]),
        ← flushedFrames]
      exact ih fun action hmem => h action (List.mem_append_left _ hmem)

/-- A flush that succeeds lets everything out that was written. -/
theorem flushedFrames_flushed (past : List Action) :
    flushedFrames (past ++ [.flushed]) = written past := by
  rw [flushedFrames, List.rdropWhile_concat, if_neg (by simp [Action.isFlushed])]
  simp

variable {w w' : Writer} {s : Situation} {past actions : List Action}

theorem isFlushed_of_leavesSink {action : Action} (h : action.leavesSink = true) :
    action.isFlushed = false ∧ action.frame? = none := by
  cases action <;> first | exact ⟨rfl, rfl⟩ | cases h

theorem written_of_leavesSink (h : ∀ action ∈ actions, action.leavesSink = true) :
    written actions = [] := by
  rw [written, List.filterMap_eq_nil_iff]
  intro action hmem
  exact (isFlushed_of_leavesSink (h action hmem)).2

/-- Actions that leave the sink alone let nothing out. -/
theorem flushedFrames_of_leavesSink (h : ∀ action ∈ actions, action.leavesSink = true) :
    flushedFrames (past ++ actions) = flushedFrames past :=
  flushedFrames_append fun action hmem => (isFlushed_of_leavesSink (h action hmem)).1

/-! ## What a step does to the sink -/

/-- Whether a writer waits for a flush. -/
def Phase.isFlushing : Phase → Bool
  | .flushing _ => true
  | _ => false

theorem Next.isFlushing_afterFailure (next : Next) : (next.afterFailure s).isFlushing = false := by
  cases next <;> rfl

theorem Next.isFlushing_afterFlush (next : Next) : next.afterFlush.isFlushing = false := by
  cases next <;> rfl

/-- What one step does, as far as the sink is concerned. -/
inductive SinkMove (w : Writer) (s : Situation) (w' : Writer) : List Action → Prop
  | none {actions : List Action} (hbefore : w.phase.isFlushing = false)
      (hafter : w'.phase.isFlushing = false)
      (hactions : ∀ action ∈ actions, action.leavesSink = true) : SinkMove w s w' actions
  | wrote {frame : Frame} (hbefore : w.phase.isFlushing = false)
      (hafter : w'.phase.isFlushing = false) : SinkMove w s w' [.wrote frame]
  | beganFlush (hbefore : w.phase.isFlushing = false) (hafter : w'.phase.isFlushing = true) :
      SinkMove w s w' [.beganFlush]
  | flushed {actions : List Action} (hbefore : w.phase.isFlushing = true)
      (hafter : w'.phase.isFlushing = false) (hflushed : s.flushed = some true)
      (hactions : ∀ action ∈ actions, action.leavesSink = true) :
      SinkMove w s w' (.flushed :: actions)
  | flushFailed (hbefore : w.phase.isFlushing = true) (hafter : w'.phase.isFlushing = false)
      (hflushed : s.flushed = some false) : SinkMove w s w' [.flushFailed]

/-- A flush ends as the sink says. -/
theorem flushed_of_step? {next : Next} (hphase : w.phase = .flushing next)
    (h : w.step? s = some (w', actions)) :
    s.flushed = some true ∧ Action.flushed ∈ actions ∨
      s.flushed = some false ∧ actions = [.flushFailed] := by
  simp only [Writer.step?, hphase, Option.map_eq_some_iff] at h
  obtain ⟨ok, hflushed, hstep⟩ := h
  cases ok with
  | true =>
      rw [if_pos rfl, Writer.preceded, Prod.mk.injEq] at hstep
      exact Or.inl ⟨hflushed, hstep.2 ▸ List.mem_cons_self⟩
  | false =>
      rw [if_neg (by decide), Writer.fail_eq, Writer.preceded, Prod.mk.injEq] at hstep
      exact Or.inr ⟨hflushed, hstep.2.symm⟩

/-- **Every step does one of these to the sink.** -/
theorem sinkMove_of_step? (h : w.step? s = some (w', actions)) : SinkMove w s w' actions := by
  have hflush : ∀ next, w.phase = .flushing next → Action.flushed ∈ actions →
      s.flushed = some true := by
    intro next hphase hmem
    obtain ⟨hflushed, -⟩ | ⟨-, hfailed⟩ := flushed_of_step? hphase h
    · exact hflushed
    · rw [hfailed] at hmem
      simp at hmem
  cases Writer.move_of_step? h with
  | gaveUp hphase =>
      exact .none (by rw [hphase]; rfl) (Next.isFlushing_afterFailure _) (by simp)
  | refused hphase =>
      exact .none (by rw [hphase]; rfl) (Next.isFlushing_afterFailure _)
        (by simp [Action.leavesSink])
  | wrote hphase => exact .wrote (by rw [hphase]; rfl) rfl
  | beganFlush hphase => exact .beganFlush (by rw [hphase]; rfl) rfl
  | opened hphase =>
      exact .flushed (by rw [hphase]; rfl) rfl (hflush _ hphase (by simp)) (by simp)
  | stopped hphase =>
      exact .flushed (by rw [hphase]; rfl) rfl (hflush _ hphase (by simp))
        (by simp [Action.leavesSink])
  | flushed hphase =>
      exact .flushed (by rw [hphase]; rfl) (Next.isFlushing_afterFlush _)
        (hflush _ hphase (by simp)) (by simp)
  | flushFailed hphase =>
      refine .flushFailed (by rw [hphase]; rfl) (Next.isFlushing_afterFailure _) ?_
      obtain ⟨-, hmem⟩ | ⟨hflushed, -⟩ := flushed_of_step? hphase h
      · simp at hmem
      · exact hflushed
  | left hphase | timedOut hphase | drained hphase | pinged hphase =>
      exact .none (by rw [hphase]; rfl) rfl (by simp)
  | took hphase | brokeDown hphase =>
      exact .none (by rw [hphase]; rfl) rfl (by simp [Action.leavesSink])
  | skipped hphase =>
      exact .none (by rw [hphase]; rfl) (by rw [hphase]; rfl) (by simp [Action.leavesSink])

namespace Timeline

/-- Actions that leave the sink alone do so. -/
theorem foldl_apply_sink (h : ∀ action ∈ actions, action.leavesSink = true) (t : Timeline) :
    (actions.foldl apply t).sink = t.sink := by
  induction actions generalizing t with
  | nil => rfl
  | cons action actions ih =>
      obtain ⟨hfirst, hrest⟩ := List.forall_mem_cons.mp h
      rw [List.foldl_cons, ih hrest]
      cases action <;> first | rfl | cases hfirst

/-- What happens in a session is a step of the writer, or leaves it as it is. -/
theorem Step.work_or_rest {t t' : Timeline} {more : Trace} (h : Step t more t') :
    (∃ writer, t.writer.step? t.situation = some (writer, more.actions) ∧
      t' = more.actions.foldl apply { t with writer }) ∨
    (more.actions = [] ∧ t'.writer = t.writer) := by
  cases h with
  | work hwork =>
      rw [Trace.actions_did]
      exact Or.inl ⟨_, hwork, rfl⟩
  | send hsend =>
      unfold send? at hsend
      split at hsend
      · obtain rfl := Option.some.inj hsend
        exact Or.inr ⟨rfl, rfl⟩
      · cases hsend
  | clone p =>
      refine Or.inr ⟨rfl, ?_⟩
      unfold Timeline.clone
      split <;> rfl
  | _ => exact Or.inr ⟨rfl, rfl⟩

/-- **What every move of the writer keeps, a session keeps.** -/
theorem Run.keeps {P : Writer → List Action → Prop}
    (hkeeps : ∀ s w past w' actions, P w past → Writer.Move w s w' actions → P w' (past ++ actions))
    {start t : Timeline} {trace : Trace} (h : Run start trace t) (hstart : P start.writer []) :
    P t.writer trace.actions := by
  induction h with
  | nil => exact hstart
  | snoc _ step ih =>
      rw [Trace.actions_append]
      obtain ⟨writer, hwork, rfl⟩ | ⟨hnothing, hwriter⟩ := step.work_or_rest
      · rw [(foldl_apply _ _).1]
        exact hkeeps _ _ _ _ _ ih (Writer.move_of_step? hwork)
      · rw [hwriter, hnothing, List.append_nil]
        exact ih

/-! ## A session and the reader of its body -/

/-- A session whose sink is a body, from some start: what was seen of it, and the chunks that the
reader has read. -/
inductive BodyRun (start : Timeline) : Trace → List String → Timeline → Prop
  | nil : BodyRun start [] [] start
  /-- Something happens in the session.  Only the writer does anything to the sink. -/
  | inside {trace more : Trace} {chunks : List String} {t t' : Timeline}
      (run : BodyRun start trace chunks t) (step : Step t more t')
      (hsink : more.actions = [] → t'.sink = t.sink) : BodyRun start (trace ++ more) chunks t'
  | read {trace : Trace} {chunks : List String} {t : Timeline} {channel rest : ChunkChannel}
      {flush : BodyFlush} {chunk : String} (run : BodyRun start trace chunks t)
      (hsink : t.sink = .body channel flush) (hread : channel.read? = some (chunk, rest)) :
      BodyRun start trace (chunks ++ [chunk]) { t with sink := .body rest flush }
  /-- The reader goes away. -/
  | leave {trace : Trace} {chunks : List String} {t : Timeline} (run : BodyRun start trace chunks t) :
      BodyRun start trace chunks t.disconnect

/-- To the session the reader is part of what happens outside. -/
theorem BodyRun.run {start t : Timeline} {trace : Trace} {chunks : List String}
    (h : BodyRun start trace chunks t) : Run start trace t := by
  induction h with
  | nil => exact .nil
  | inside _ step _ ih => exact ih.snoc step
  | @read trace _ t _ rest flush _ _ _ _ ih =>
      have hnext := ih.snoc (.outside t t.now (.body rest flush))
      rwa [List.append_nil] at hnext
  | @leave trace _ t _ ih =>
      have hnext := ih.snoc (.outside t t.now t.sink.disconnect)
      rwa [List.append_nil] at hnext

/-- What a script reads is read. -/
theorem BodyRun.reads {start : Timeline} {trace : Trace} (n : Nat) {chunks : List String}
    {t : Timeline} (h : BodyRun start trace chunks t) :
    BodyRun start trace (chunks ++ (t.read n).1) (t.read n).2.2 := by
  induction n generalizing chunks t with
  | zero => simpa [Timeline.read] using h
  | succ n ih =>
      unfold Timeline.read
      split
      · rename_i channel flush hsink
        split
        · rename_i chunk rest hread
          have hnext := ih (h.read hsink hread)
          rwa [List.append_assoc] at hnext
        · split
          · simpa using h.leave
          · simpa using h
      · simpa using h

end Timeline

/-! ## Nothing gets lost on the way -/

/-- The chunk that a flush under way holds. -/
@[simp] def BodyFlush.held : BodyFlush → List String
  | .done | .broken => []
  | .blocked chunk => [chunk]

theorem join_map_textOf (groups : List (List Frame)) :
    String.join (groups.map textOf) = textOf groups.flatten := by
  induction groups with
  | nil => rfl
  | cons group groups ih => rw [List.map_cons, String.join_cons, ih, List.flatten_cons, textOf_append]

theorem eq_nil_of_textOf_eq {frames : List Frame} (h : textOf frames = "") : frames = [] := by
  cases frames with
  | nil => rfl
  | cons frame frames =>
      have hfront := congrArg String.toList h
      rw [textOf, List.map_cons, String.join_cons, String.toList_append] at hfront
      have htext : frame.text.toList = [] := (List.append_eq_nil_iff.mp hfront).1
      cases frame <;> simp [Frame.text] at htext

/-- A body and its reader, who is there and has read these chunks, when the writer has done this.  The
chunks are the texts of whole frames, and a flush may be under way. -/
structure Delivery (channel : ChunkChannel) (flush : BodyFlush) (flushing : Bool)
    (actions : List Action) (chunks : List String) (groups : List (List Frame))
    (pending : List Frame) : Prop where
  there : channel.readerGone = false
  buffer : channel.buffer = textOf pending
  handed : chunks ++ channel.chunks ++ flush.held = groups.map textOf
  complete : groups.flatten ++ pending = written actions
  /-- Between two flushes, exactly what went out is handed on. -/
  idle : flushing = false → flush = .done ∧ groups.flatten = flushedFrames actions
  /-- During a flush nothing is left in the buffer. -/
  busy : flushing = true → pending = [] ∧ flush ≠ .broken

/-- Whether nothing got lost between a writer and the reader of its body, who is there. -/
def Conveys (sink : Sink) (flushing : Bool) (actions : List Action) (chunks : List String) : Prop :=
  ∃ channel flush groups pending, sink = .body channel flush ∧
    Delivery channel flush flushing actions chunks groups pending

variable {sink : Sink} {chunks : List String} {now : Nat}

theorem conveys_start (capacity : Nat) : Conveys (.body { capacity } .done) false [] [] :=
  ⟨_, _, [], [], rfl, rfl, rfl, rfl, rfl, fun _ => ⟨rfl, rfl⟩, fun h => nomatch h⟩

namespace Conveys

theorem quiet (h : Conveys sink false past chunks)
    (hactions : ∀ action ∈ actions, action.leavesSink = true) :
    Conveys sink false (past ++ actions) chunks := by
  obtain ⟨channel, flush, groups, pending, rfl, h⟩ := h
  obtain ⟨hflush, hout⟩ := h.idle rfl
  refine ⟨_, _, groups, pending, rfl, h.there, h.buffer, h.handed, ?_, fun _ => ⟨hflush, ?_⟩,
    fun hbusy => nomatch hbusy⟩
  · rw [h.complete, written_append, written_of_leavesSink hactions, List.append_nil]
  · rw [hout, flushedFrames_of_leavesSink hactions]

theorem write (h : Conveys sink false past chunks) (frame : Frame) :
    Conveys (sink.write frame.text) false (past ++ [.wrote frame]) chunks := by
  obtain ⟨channel, flush, groups, pending, rfl, h⟩ := h
  obtain ⟨hflush, hout⟩ := h.idle rfl
  have hwrite : channel.write? frame.text =
      some { channel with buffer := channel.buffer ++ frame.text } := by
    rw [ChunkChannel.write?, if_neg (by simp [h.there])]
  refine ⟨{ channel with buffer := channel.buffer ++ frame.text }, flush, groups,
    pending ++ [frame], by simp [Sink.write, hwrite], h.there, ?_, h.handed, ?_,
    fun _ => ⟨hflush, ?_⟩, fun hbusy => nomatch hbusy⟩
  · rw [h.buffer, textOf_append, textOf_singleton]
  · rw [← List.append_assoc, h.complete]
    simp
  · rw [hout, flushedFrames_append (by simp [Action.isFlushed])]

/-- A flush takes the whole buffer as one chunk, unless it is empty. -/
theorem beginFlush (h : Conveys sink false past chunks) :
    Conveys (sink.beginFlush now) true (past ++ [.beganFlush]) chunks := by
  obtain ⟨channel, flush, groups, pending, rfl, h⟩ := h
  obtain ⟨rfl, -⟩ := h.idle rfl
  have hwritten : written (past ++ [.beganFlush]) = written past := by simp
  by_cases hempty : channel.buffer.isEmpty = true
  · have hpending : pending = [] := by
      apply eq_nil_of_textOf_eq
      rw [← h.buffer]
      simpa using hempty
    refine ⟨channel, .done, groups, pending, ?_, h.there, h.buffer, h.handed,
      by rw [hwritten, h.complete], fun hidle => (nomatch hidle), fun _ => ⟨hpending, by decide⟩⟩
    rw [Sink.beginFlush, ChunkChannel.flush, if_pos hempty]
  · have hcomplete : (groups ++ [pending]).flatten ++ [] = written (past ++ [.beganFlush]) := by
      rw [hwritten, ← h.complete]
      simp
    have hhanded : chunks ++ channel.chunks ++ [channel.buffer] = (groups ++ [pending]).map textOf := by
      have hearlier := h.handed
      rw [BodyFlush.held, List.append_nil] at hearlier
      rw [hearlier, h.buffer]
      simp
    by_cases hroom : channel.chunks.length < channel.capacity
    · refine ⟨{ channel with buffer := "", chunks := channel.chunks ++ [channel.buffer] }, .done,
        groups ++ [pending], [], ?_, h.there, rfl, ?_, hcomplete, fun hidle => (nomatch hidle),
        fun _ => ⟨rfl, by decide⟩⟩
      · simp [Sink.beginFlush, ChunkChannel.flush, ChunkChannel.push, hempty, h.there, hroom]
      · rw [BodyFlush.held, List.append_nil, ← List.append_assoc, hhanded]
    · refine ⟨{ channel with buffer := "" }, .blocked channel.buffer, groups ++ [pending], [], ?_,
        h.there, rfl, hhanded, hcomplete, fun hidle => (nomatch hidle), fun _ => ⟨rfl, by simp⟩⟩
      simp [Sink.beginFlush, ChunkChannel.flush, ChunkChannel.push, hempty, h.there, hroom]

/-- A flush that ends has handed its chunk on, if it held one. -/
theorem endFlush (h : Conveys sink true past chunks) (hflushed : sink.flushed now = some true) :
    Conveys sink.endFlush false (past ++ [.flushed]) chunks := by
  obtain ⟨channel, flush, groups, pending, rfl, h⟩ := h
  obtain ⟨rfl, hwhole⟩ := h.busy rfl
  have hcomplete := h.complete
  rw [List.append_nil] at hcomplete
  have hout : groups.flatten = flushedFrames (past ++ [.flushed]) := by
    rw [flushedFrames_flushed, hcomplete]
  have hwritten : groups.flatten ++ [] = written (past ++ [.flushed]) := by
    simpa using hcomplete
  cases flush with
  | done =>
      exact ⟨channel, .done, groups, [], rfl, h.there, h.buffer, h.handed, hwritten,
        fun _ => ⟨rfl, hout⟩, fun hbusy => (nomatch hbusy)⟩
  | broken => exact absurd rfl hwhole
  | blocked chunk =>
      have hroom : channel.chunks.length < channel.capacity := by
        by_contra hfull
        simp [Sink.flushed, ChunkChannel.push, h.there, hfull] at hflushed
      refine ⟨{ channel with chunks := channel.chunks ++ [chunk] }, .done, groups, [], ?_, h.there,
        h.buffer, ?_, hwritten, fun _ => ⟨rfl, hout⟩, fun hbusy => (nomatch hbusy)⟩
      · simp [Sink.endFlush, ChunkChannel.push, h.there, hroom]
      · rw [BodyFlush.held, List.append_nil, ← List.append_assoc]
        exact h.handed

/-- No flush fails while the reader is there. -/
theorem flushed_ne_false (h : Conveys sink true past chunks) : sink.flushed now ≠ some false := by
  obtain ⟨channel, flush, groups, pending, rfl, h⟩ := h
  cases flush with
  | done => simp [Sink.flushed]
  | broken => exact absurd rfl (h.busy rfl).2
  | blocked chunk =>
      simp only [Sink.flushed, ChunkChannel.push, h.there]
      by_cases hroom : channel.chunks.length < channel.capacity <;> simp [hroom]

theorem read {channel rest : ChunkChannel} {flush : BodyFlush} {chunk : String} {flushing : Bool}
    (h : Conveys (.body channel flush) flushing past chunks)
    (hread : channel.read? = some (chunk, rest)) :
    Conveys (.body rest flush) flushing past (chunks ++ [chunk]) := by
  obtain ⟨_, _, groups, pending, heq, h⟩ := h
  cases heq
  unfold ChunkChannel.read? at hread
  split at hread
  · cases hread
  · rename_i first others hchunks
    obtain ⟨rfl, rfl⟩ := Prod.mk.inj (Option.some.inj hread)
    refine ⟨_, _, groups, pending, rfl, h.there, h.buffer, ?_, h.complete, h.idle, h.busy⟩
    have hhanded := h.handed
    rw [hchunks] at hhanded
    rw [← hhanded]
    simp

/-- What was read is the text of whole frames. -/
theorem exists_read {flushing : Bool} (h : Conveys sink flushing past chunks) :
    ∃ groups : List (List Frame), chunks = groups.map textOf ∧ groups.flatten <+: written past := by
  obtain ⟨channel, flush, groups, pending, rfl, h⟩ := h
  have hhanded := h.handed
  rw [List.append_assoc] at hhanded
  obtain ⟨front, behind, rfl, hfront, -⟩ := List.append_eq_map_iff.mp hhanded
  refine ⟨front, hfront.symm, ?_⟩
  rw [← h.complete, List.flatten_append, List.append_assoc]
  exact List.prefix_append _ _

end Conveys

/-- Whether the reader of a body has gone away and has read the texts of whole frames. -/
def IsAbandoned (sink : Sink) (actions : List Action) (chunks : List String) : Prop :=
  ∃ channel flush, sink = .body channel flush ∧ channel.readerGone = true ∧ channel.chunks = [] ∧
    ∃ groups : List (List Frame), chunks = groups.map textOf ∧ groups.flatten <+: written actions

namespace IsAbandoned

theorem append (h : IsAbandoned sink past chunks) (actions : List Action) :
    IsAbandoned sink (past ++ actions) chunks := by
  obtain ⟨channel, flush, rfl, hgone, hnothing, groups, hread, hfront⟩ := h
  refine ⟨_, _, rfl, hgone, hnothing, groups, hread, ?_⟩
  rw [written_append]
  exact hfront.trans (List.prefix_append _ _)

/-- Nothing that the writer does gets to a reader who has gone away. -/
theorem apply {t : Timeline} (h : IsAbandoned t.sink past chunks) (action : Action) :
    IsAbandoned (t.apply action).sink past chunks := by
  obtain ⟨channel, flush, hsink, hgone, hnothing, hread⟩ := h
  cases action with
  | wrote frame =>
      refine ⟨channel, flush, ?_, hgone, hnothing, hread⟩
      simp [Timeline.apply, hsink, Sink.write, ChunkChannel.write?, hgone]
  | beganFlush =>
      by_cases hempty : channel.buffer.isEmpty = true
      · refine ⟨channel, .done, ?_, hgone, hnothing, hread⟩
        simp [Timeline.apply, hsink, Sink.beginFlush, ChunkChannel.flush, hempty]
      · refine ⟨{ channel with buffer := "" }, .broken, ?_, hgone, hnothing, hread⟩
        simp [Timeline.apply, hsink, Sink.beginFlush, ChunkChannel.flush, ChunkChannel.push, hempty,
          hgone]
  | flushed =>
      cases flush with
      | blocked chunk =>
          refine ⟨channel, .done, ?_, hgone, hnothing, hread⟩
          simp [Timeline.apply, hsink, Sink.endFlush, ChunkChannel.push, hgone]
      | done => exact ⟨channel, .done, by simp [Timeline.apply, hsink, Sink.endFlush], hgone, hnothing, hread⟩
      | broken =>
          exact ⟨channel, .broken, by simp [Timeline.apply, hsink, Sink.endFlush], hgone, hnothing, hread⟩
  | refused | flushFailed | took | reported => exact ⟨channel, flush, hsink, hgone, hnothing, hread⟩

theorem foldl_apply (actions : List Action) {t : Timeline} (h : IsAbandoned t.sink past chunks) :
    IsAbandoned (actions.foldl Timeline.apply t).sink past chunks := by
  induction actions generalizing t with
  | nil => exact h
  | cons action actions ih => exact ih (h.apply action)

end IsAbandoned

/-- Whether what the reader of a body has read is the text of whole frames, and while the reader is
there nothing gets lost. -/
def IsCarried (t : Timeline) (actions : List Action) (chunks : List String) : Prop :=
  Conveys t.sink t.writer.phase.isFlushing actions chunks ∨ IsAbandoned t.sink actions chunks

namespace IsCarried

variable {t t' : Timeline} {trace more : Trace} {writer : Writer} {done : List Action}

/-- **A step of the writer loses nothing.** -/
theorem work (h : IsCarried t past chunks)
    (hstep : t.writer.step? t.situation = some (writer, done)) :
    IsCarried (done.foldl Timeline.apply { t with writer }) (past ++ done) chunks := by
  cases h with
  | inr h => exact Or.inr ((IsAbandoned.foldl_apply done (t := { t with writer }) h).append done)
  | inl h =>
      refine Or.inl ?_
      rw [(Timeline.foldl_apply done { t with writer }).1]
      cases sinkMove_of_step? hstep with
      | none hbefore hafter hactions =>
          rw [hbefore] at h
          rw [hafter, Timeline.foldl_apply_sink hactions]
          exact h.quiet hactions
      | wrote hbefore hafter =>
          rw [hbefore] at h
          rw [hafter]
          exact h.write _
      | beganFlush hbefore hafter =>
          rw [hbefore] at h
          rw [hafter]
          exact h.beginFlush
      | @flushed actions hbefore hafter hflushed hactions =>
          rw [hbefore] at h
          rw [hafter, List.foldl_cons, Timeline.foldl_apply_sink hactions, List.append_cons]
          exact (h.endFlush hflushed).quiet hactions
      | flushFailed hbefore hafter hflushed =>
          rw [hbefore] at h
          exact absurd hflushed h.flushed_ne_false

/-- **Everything that happens inside a session loses nothing.** -/
theorem inside (h : IsCarried t past chunks) (hstep : Timeline.Step t more t')
    (hsink : more.actions = [] → t'.sink = t.sink) :
    IsCarried t' (past ++ more.actions) chunks := by
  obtain ⟨writer, hwork, rfl⟩ | ⟨hnothing, hwriter⟩ := hstep.work_or_rest
  · exact h.work hwork
  · rw [IsCarried, hsink hnothing, hwriter, hnothing, List.append_nil]
    exact h

/-- A reader who goes away keeps what was read. -/
theorem leave (h : IsCarried t past chunks) : IsCarried t.disconnect past chunks := by
  refine Or.inr ?_
  cases h with
  | inl h =>
      obtain ⟨channel, flush, _, _, hsink, -⟩ := id h
      refine ⟨channel.dropReader, flush, ?_, rfl, rfl, h.exists_read⟩
      rw [Timeline.disconnect, hsink]
      rfl
  | inr h =>
      obtain ⟨channel, flush, hsink, -, -, hread⟩ := h
      refine ⟨channel.dropReader, flush, ?_, rfl, rfl, hread⟩
      rw [Timeline.disconnect, hsink]
      rfl

theorem read {channel rest : ChunkChannel} {flush : BodyFlush} {chunk : String}
    (h : IsCarried t past chunks) (hsink : t.sink = .body channel flush)
    (hread : channel.read? = some (chunk, rest)) :
    IsCarried { t with sink := .body rest flush } past (chunks ++ [chunk]) := by
  rw [IsCarried, hsink] at h
  cases h with
  | inl h => exact Or.inl (h.read hread)
  | inr h =>
      -- nothing waits for a reader who has gone away
      obtain ⟨_, _, heq, -, hnothing, -⟩ := h
      cases heq
      rw [ChunkChannel.read?, hnothing] at hread
      cases hread

end IsCarried

/-- **A whole run loses nothing.** -/
theorem Timeline.BodyRun.isCarried {start t : Timeline} {trace : Trace}
    (h : BodyRun start trace chunks t) (hstart : IsCarried start [] []) :
    IsCarried t trace.actions chunks := by
  induction h with
  | nil => exact hstart
  | inside _ step hsink ih =>
      rw [Trace.actions_append]
      exact ih.inside step hsink
  | read _ hsink hread ih => exact ih.read hsink hread
  | leave _ ih => exact ih.leave

/-! ## Every value that is written is flushed -/

/-- Whether all values that were written went out. -/
def ValuesOut (actions : List Action) : Prop :=
  dataFrames (flushedFrames actions) = dataFrames (written actions)

theorem ValuesOut.append (h : ValuesOut past)
    (hflushed : ∀ action ∈ actions, action.isFlushed = false)
    (hdata : dataFrames (written actions) = []) : ValuesOut (past ++ actions) := by
  rw [ValuesOut, flushedFrames_append hflushed, h, written_append, dataFrames_append, hdata,
    List.append_nil]

theorem valuesOut_flushed (past : List Action) : ValuesOut (past ++ [.flushed]) := by
  rw [ValuesOut, flushedFrames_flushed]
  simp

/-- Whether the values that were written went out, as far as a writer has come.  Only the frame of a
value that is being written has not, and it never goes out when the session ends there. -/
def Phase.Flushes : Phase → List Action → Prop
  | .writing coming next, actions =>
    next = .resumed ∨ (dataFrames coming = [] ∧ ValuesOut actions)
  | .flushing next, actions => next = .resumed ∨ ValuesOut actions
  | .waiting, actions => ValuesOut actions
  | .done result, actions =>
    (result = .ended .cancelled ∨ result = .ended .peerGone) ∨ ValuesOut actions

theorem endEarly_cases (s : Situation) :
    Writer.endEarly s = .ended .cancelled ∨ Writer.endEarly s = .ended .peerGone := by
  unfold Writer.endEarly
  split
  · exact Or.inl rfl
  · exact Or.inr rfl

theorem Next.flushes_afterFailure {next : Next} (h : next = .resumed ∨ ValuesOut actions) :
    (next.afterFailure s).Flushes actions := by
  obtain rfl | hout := h
  · exact Or.inl (endEarly_cases s)
  · cases next with
    | eof late => exact Or.inr ⟨rfl, hout⟩
    | _ => exact Or.inr hout

theorem Next.flushes_afterFlush (next : Next) (h : ValuesOut actions) :
    next.afterFlush.Flushes actions := by
  cases next with
  | opened | resumed => exact h
  | timedOut | eof => exact Or.inr ⟨rfl, h⟩
  | closed => exact Or.inr h

/-- **A step leaves no value behind in the buffer.** -/
theorem flushes_step (h : w.phase.Flushes past) (hmove : w.Move s w' actions) :
    w'.phase.Flushes (past ++ actions) := by
  cases hmove with
  | gaveUp hphase | refused hphase =>
      rw [hphase] at h
      refine Next.flushes_afterFailure (h.imp_right fun hquiet => ?_)
      exact hquiet.2.append (by simp [Action.isFlushed]) (by simp)
  | flushFailed hphase =>
      rw [hphase] at h
      refine Next.flushes_afterFailure (h.imp_right fun hout => ?_)
      exact hout.append (by simp [Action.isFlushed]) (by simp)
  | @wrote frame rest next hphase =>
      rw [hphase] at h
      refine h.imp_right fun hquiet => ?_
      obtain ⟨hframe, hrest⟩ : dataFrames [frame] = [] ∧ dataFrames rest = [] := by
        rw [← List.append_eq_nil_iff, ← dataFrames_append]
        exact hquiet.1
      exact ⟨hrest, hquiet.2.append (by simp [Action.isFlushed]) (by simpa using hframe)⟩
  | beganFlush hphase =>
      rw [hphase] at h
      exact h.imp_right fun hquiet => hquiet.2.append (by simp [Action.isFlushed]) (by simp)
  | opened => exact valuesOut_flushed past
  | @stopped _ event =>
      rw [List.append_cons]
      exact Or.inr ((valuesOut_flushed past).append (by simp [Action.isFlushed]) (by simp))
  | @flushed next => exact next.flushes_afterFlush (valuesOut_flushed past)
  | left hphase hhow =>
      refine Or.inl ?_
      obtain ⟨rfl, -⟩ | ⟨rfl, -⟩ := hhow
      · exact Or.inl rfl
      · exact Or.inr rfl
  | timedOut hphase | drained hphase =>
      rw [hphase] at h
      exact Or.inr ⟨rfl, ValuesOut.append h (by simp) (by simp)⟩
  | took | pinged => exact Or.inl rfl
  | skipped hphase =>
      rw [hphase] at h ⊢
      exact ValuesOut.append h (by simp [Action.isFlushed]) (by simp)
  | brokeDown hphase =>
      rw [hphase] at h
      exact Or.inr (ValuesOut.append h (by simp [Action.isFlushed]) (by simp))

/-! ## The body read back -/

/-- The value of a hand-over, if it can be written. -/
def Handover.value? (handover : Handover) : Option Json :=
  match handover.payload with
  | .value value => some value
  | _ => none

/-- The frames of values hold their texts. -/
theorem valueFrames_eq_map (handovers : List Handover) :
    valueFrames handovers =
      (handovers.filterMap Handover.value?).map fun value => .data value.render := by
  rw [valueFrames, List.map_filterMap]
  congr 1
  funext handover
  unfold Handover.frame? Handover.value?
  cases handover.payload <;> rfl

/-- Whether the reader of a body is there, and nothing waits for it. -/
def Sink.isReadOut : Sink → Bool
  | .body channel _ => !channel.readerGone && channel.chunks.isEmpty
  | .recorder _ => false

/-- What was read is the text of whole frames, the first of those that were written. -/
theorem IsCarried.exists_read {t : Timeline} (h : IsCarried t past chunks) :
    ∃ groups : List (List Frame), chunks = groups.map textOf ∧ groups.flatten <+: written past := by
  cases h with
  | inl h => exact h.exists_read
  | inr h =>
      obtain ⟨_, _, _, _, _, hread⟩ := h
      exact hread

theorem Writer.phase_of_result? {result : Result} (h : w.result? = some result) :
    w.phase = .done result := by
  unfold result? at h
  split at h
  · rename_i hphase
    rw [hphase, Option.some.inj h]
  · cases h

/-- The body of a session that is over and read out is what went out. -/
theorem IsCarried.join_eq {t : Timeline} (h : IsCarried t past chunks) (hclosed : t.isClosed = true)
    (hread : t.sink.isReadOut = true) : String.join chunks = textOf (flushedFrames past) := by
  have hidle : t.writer.phase.isFlushing = false := by
    obtain ⟨result, hresult⟩ := Option.isSome_iff_exists.mp hclosed
    rw [Writer.phase_of_result? hresult]
    rfl
  cases h with
  | inl h =>
      obtain ⟨channel, flush, groups, pending, hsink, h⟩ := h
      obtain ⟨rfl, hout⟩ := h.idle hidle
      have hnothing : channel.chunks = [] := by
        simp only [hsink, Sink.isReadOut, Bool.and_eq_true, List.isEmpty_iff] at hread
        exact hread.2
      have hhanded := h.handed
      rw [hnothing, BodyFlush.held, List.append_nil, List.append_nil] at hhanded
      rw [hhanded, join_map_textOf, hout]
  | inr h =>
      obtain ⟨channel, flush, hsink, hgone, -⟩ := h
      simp [hsink, Sink.isReadOut, hgone] at hread

/-- The frames at the beginning of what was written can be read back. -/
theorem OnCourse.isReadable {frames front : List Frame} (h : OnCourse w frames)
    (hfront : front <+: frames) {handovers : List Handover}
    (hdata : dataFrames frames <+: valueFrames handovers) : IsReadable front := by
  refine ⟨(h.beginning.of_prefix hfront).closed_last, fun frame hmem => ?_⟩
  cases frame with
  | data json =>
      have hvalue : Frame.data json ∈ valueFrames handovers :=
        hdata.subset (List.mem_filter.mpr ⟨hfront.subset hmem, rfl⟩)
      rw [valueFrames_eq_map, List.mem_map] at hvalue
      obtain ⟨value, -, htext⟩ := hvalue
      rw [← htext]
      exact isPlain_render value
  | _ => trivial

namespace Timeline

variable {t : Timeline} {trace : Trace}

/-- **A session is read back from its body.**  Whatever happens in a session with a body, and whatever
its reader has read so far, that is the text of whole frames, the first of those that were written;
- its lines end with line breaks alone, its blocks are the lines of these frames, and each block
  stands for one frame;
- the blocks that are one line with a mark hold the texts of the first values that were taken, and no
  other values have these texts;
- of a session that is over, a reader who was there to the end has read the frames that went out, and
  all values that were taken if it ended because no more came or at the deadline. -/
theorem body_read_back (options : Options) (capacity : Nat) (cancelled : Bool)
    (h : BodyRun { writer := { options }, sink := .body { capacity } .done, cancelled } trace chunks
      t) :
    let body := String.join chunks
    ∃ frames values, frames <+: written trace.actions ∧
      values <+: trace.taken.filterMap Handover.value? ∧
      body = textOf frames ∧ '\r' ∉ body.toList ∧
      blocksOf body = frames.map Frame.lines ∧ framesOf? body = some frames ∧
      valueTextsOf body = values.map Json.write ∧
      ((∀ value ∈ values, value.HasProperNumbers) → ∀ others : List Json,
        (∀ other ∈ others, other.HasProperNumbers) → valueTextsOf body = others.map Json.write →
        others = values) ∧
      (t.isClosed = true → t.sink.isReadOut = true →
        frames = flushedFrames trace.actions ∧
        (t.writer.result? = some (.ended .drained) ∨ t.writer.result? = some (.ended .timedOut) →
          values = trace.taken.filterMap Handover.value?)) := by
  have hcourse := h.run.keeps (P := fun w actions => OnCourse w (written actions))
    (fun _ _ _ _ _ hpast hmove => hpast.step hmove) (onCourse_start options)
  have hdelivers := h.run.keeps (P := fun w actions => w.phase.Delivers actions)
    (fun _ _ _ _ _ hpast hmove => delivers_step hpast hmove) (Or.inl ⟨rfl, rfl⟩)
  have hflushes := h.run.keeps (P := fun w actions => w.phase.Flushes actions)
    (fun _ _ _ _ _ hpast hmove => flushes_step hpast hmove) (Or.inr ⟨rfl, rfl⟩)
  have haccounts : Accounts t trace :=
    h.run.accounts (accounts_start rfl rfl rfl rfl rfl (Or.inl ⟨rfl, rfl⟩))
  have hcarried := h.isCarried (Or.inl (conveys_start capacity))
  have hdata := haccounts.dataFrames_prefix
  obtain ⟨groups, hchunks, hfront⟩ := hcarried.exists_read
  have hreadable := hcourse.isReadable hfront hdata
  obtain ⟨values, hvalues, htexts⟩ : ∃ values, values <+: trace.taken.filterMap Handover.value? ∧
      dataFrames groups.flatten = values.map fun value => .data value.render := by
    have hprefix := (hfront.filter Frame.isData).trans hdata
    rw [valueFrames_eq_map] at hprefix
    rw [dataFrames, List.prefix_iff_eq_take.mp hprefix, ← List.map_take]
    exact ⟨_, List.take_prefix _ _, rfl⟩
  have hrecovered := valueTextsOf_textOf hreadable htexts
  intro body
  have hbody : body = textOf groups.flatten := by
    rw [← join_map_textOf, ← hchunks]
  refine ⟨groups.flatten, values, hfront, hvalues, hbody, ?_, ?_, ?_, ?_, ?_, ?_⟩
  · rw [hbody]
    exact carriageReturn_not_mem_textOf hreadable
  · rw [hbody, blocksOf_textOf hreadable]
  · rw [hbody, framesOf?_textOf hreadable]
  · rw [hbody, hrecovered]
  · intro hproper others hothers hsame
    rw [hbody, hrecovered] at hsame
    exact (Json.map_write_injective hproper hothers hsame).symm
  · intro hclosed hread
    have hout : groups.flatten = flushedFrames trace.actions := by
      have hflushed := hcourse.isReadable (flushedFrames_isPrefix _) hdata
      have hsame : textOf groups.flatten = textOf (flushedFrames trace.actions) :=
        hbody.symm.trans (hcarried.join_eq hclosed hread)
      rw [← Option.some.injEq, ← framesOf?_textOf hreadable, hsame, framesOf?_textOf hflushed]
    refine ⟨hout, fun hresult => ?_⟩
    have hphase : t.writer.phase = .done (.ended .drained) ∨
        t.writer.phase = .done (.ended .timedOut) :=
      hresult.imp Writer.phase_of_result? Writer.phase_of_result?
    have hall : AllDelivered trace.actions := by
      obtain hall | ⟨-, ⟨_, hwriting⟩ | hcancelled | hgone⟩ := hdelivers.cases
      · exact hall
      all_goals obtain hdone | hdone := hphase <;> simp_all
    have hvaluesOut : ValuesOut trace.actions := by
      obtain hdone | hdone := hphase <;> rw [hdone] at hflushes <;>
        exact hflushes.resolve_left (by simp)
    apply hvalues.eq_of_length
    have hlength := congrArg List.length (hvaluesOut.trans hall)
    rw [← hout, htexts, ← Trace.taken, valueFrames_eq_map, List.length_map, List.length_map] at hlength
    exact hlength

/-- A string that looks like the end of a stream. -/
def forgery : Json := .string "\n\nevents: error\ndata: eof\n\nevents: stream closed"

/-- A session of that one value, whose reader reads it to its end, through a channel with room for one
chunk.  The value is recovered, and does not end the stream. -/
theorem body_read_back_forgery :
    ∃ trace chunks t, BodyRun { writer := { options := ⟨10, 100⟩ }, sink := .body { capacity := 1 } .done }
        trace chunks t ∧ t.isClosed = true ∧ t.sink.isReadOut = true ∧
      t.writer.result? = some (.ended .drained) ∧
      framesOf? (String.join chunks) =
        some [.ping, .opened, .data forgery.render, .eof, .closed] ∧
      ∀ others : List Json, (∀ other ∈ others, other.HasProperNumbers) →
        valueTextsOf (String.join chunks) = others.map Json.write → others = [forgery] := by
  have hstart : BodyRun { writer := { options := ⟨10, 100⟩ }, sink := .body { capacity := 1 } .done } []
    [] { writer := { options := ⟨10, 100⟩ }, sink := .body { capacity := 1 } .done } := .nil
  have hopened := (((hstart.inside (.work rfl) nofun).inside (.work rfl) nofun).inside
    (.work rfl) nofun).inside (.work rfl) nofun
  have hsent := (hopened.inside (@Step.send _ _ 0 (.value forgery) rfl) fun _ => rfl).inside
    (.enter rfl rfl rfl) fun _ => rfl
  have hblocked := ((hsent.inside (.work rfl) nofun).inside (.work rfl) nofun).inside
    (.work rfl) nofun
  have hflushed := ((hblocked.read rfl rfl).inside (.work rfl) nofun).inside
    (@Step.acknowledge _ [] [] 0 rfl) fun _ => rfl
  have hdrained := ((hflushed.inside (.drop _ 0) fun _ => rfl).inside (.work rfl) fun _ => rfl).inside
    (.work rfl) nofun
  have heof := ((hdrained.inside (.work rfl) nofun).read rfl rfl).inside (.work rfl) nofun
  have hclosing := ((heof.inside (.work rfl) nofun).inside (.work rfl) nofun).read rfl rfl
  have hrun := (hclosing.inside (.work rfl) nofun).read rfl rfl
  obtain ⟨frames, values, hfront, hvalues, -, -, -, hframes, htexts, hunique, hend⟩ :=
    body_read_back _ _ _ hrun
  obtain ⟨hflushedFrames, hall⟩ := hend rfl rfl
  have hvaluesEq : values = [forgery] := hall (Or.inl rfl)
  have hframesEq : frames = [.ping, .opened, .data forgery.render, .eof, .closed] := hflushedFrames
  have hproper : ∀ value ∈ [forgery], value.HasProperNumbers := by
    intro value hmem n hn
    rw [List.mem_singleton.mp hmem] at hn
    cases hn
  subst hvaluesEq hframesEq
  exact ⟨_, _, _, hrun, rfl, rfl, rfl, hframes, hunique hproper⟩

end Timeline

end ServiceHost.Session
