import ServiceHost.Session.Writer

/-!
# The steps of a writer

Everything that one step of a writer can be stands in `Writer.Move`, and every step is one of these
(`move_of_step?`).  A run lets the writer meet one situation after another, with nothing assumed
about them: the values, the clock, the peer and the cancellation come as they like.  What every step
keeps, a run keeps (`run_keeps`).
-/

namespace ServiceHost.Session

/-- Where a writer goes on when frames were not taken. -/
def Next.afterFailure (s : Situation) : Next → Phase
  | .opened | .resumed | .timedOut => .done (Writer.endEarly s)
  | .eof late => .writing [.closed] (.closed late)
  | .closed late => .done (.ended (if late then .timedOut else .drained))

/-- Where a writer goes on when frames went out; at the opening it has to set the clocks as well. -/
def Next.afterFlush : Next → Phase
  | .opened | .resumed => .waiting
  | .timedOut => .writing [.eof] (.eof true)
  | .eof late => .writing [.closed] (.closed late)
  | .closed late => .done (.ended (if late then .timedOut else .drained))

namespace Writer

/-- A writer whose frames are no longer taken. -/
def givenUp (w : Writer) (s : Situation) (next : Next) : Writer :=
  { w with closed := true, phase := next.afterFailure s }

@[simp] theorem givenUp_phase (w : Writer) (s : Situation) (next : Next) :
    (w.givenUp s next).phase = next.afterFailure s := rfl

@[simp] theorem emit_phase (w : Writer) (frames : List Frame) (next : Next) :
    (w.emit frames next).phase = .writing frames next := rfl

@[simp] theorem finish_phase (w : Writer) (result : Result) :
    (w.finish result).phase = .done result := rfl

theorem fail_eq (w : Writer) (s : Situation) (next : Next) :
    w.fail s next = (w.givenUp s next, []) := by
  cases next <;> rfl

theorem proceed_of_ne_opened (w : Writer) (s : Situation) {next : Next} (h : next ≠ .opened) :
    w.proceed s true next = ({ w with phase := next.afterFlush }, []) := by
  cases next with
  | opened => exact absurd rfl h
  | _ => rfl

/-- Whether a waiting writer has a reason to leave: it is cancelled, the peer is gone, or the
deadline has come. -/
def MustLeave (w : Writer) (s : Situation) : Prop :=
  s.cancelled = true ∨ s.peerGone = true ∨ w.deadline ≤ s.now

/-- What one step of a writer can be: the writer behind it, and its actions. -/
inductive Move (w : Writer) (s : Situation) : Writer → List Action → Prop
  /-- Nothing more is tried. -/
  | gaveUp {frames : List Frame} {next : Next} (hphase : w.phase = .writing frames next)
      (hclosed : w.closed = true ∨ s.cancelled = true) : Move w s (w.givenUp s next) []
  | wrote {frame : Frame} {rest : List Frame} {next : Next}
      (hphase : w.phase = .writing (frame :: rest) next) (hopen : w.closed = false)
      (hfree : s.cancelled = false) : Move w s (w.emit rest next) [.wrote frame]
  | refused {frame : Frame} {rest : List Frame} {next : Next}
      (hphase : w.phase = .writing (frame :: rest) next) (hopen : w.closed = false)
      (hfree : s.cancelled = false) : Move w s (w.givenUp s next) [.refused frame]
  | beganFlush {next : Next} (hphase : w.phase = .writing [] next) (hopen : w.closed = false)
      (hfree : s.cancelled = false) : Move w s { w with phase := .flushing next } [.beganFlush]
  | opened {deadline pingDue : Nat} (hphase : w.phase = .flushing .opened) :
      Move w s { w with phase := .waiting, deadline, pingDue } [.flushed]
  /-- The clocks could not be set. -/
  | stopped {message : String} {event : Event} (hphase : w.phase = .flushing .opened) :
      Move w s (w.finish (.broken message)) [.flushed, .reported event]
  | flushed {next : Next} (hphase : w.phase = .flushing next) (hnext : next ≠ .opened) :
      Move w s { w with phase := next.afterFlush } [.flushed]
  | flushFailed {next : Next} (hphase : w.phase = .flushing next) :
      Move w s (w.givenUp s next) [.flushFailed]
  | left {how : End} (hphase : w.phase = .waiting)
      (hhow : how = .cancelled ∧ s.cancelled = true ∨ how = .peerGone ∧ s.peerGone = true) :
      Move w s (w.finish (.ended how)) []
  | timedOut (hphase : w.phase = .waiting) : Move w s (w.emit [.timeout] .timedOut) []
  | drained (hphase : w.phase = .waiting) : Move w s (w.emit [.eof] (.eof false)) []
  | took {handover : Handover} {value : Json} (hphase : w.phase = .waiting)
      (hstays : ¬ w.MustLeave s) (hoffer : s.offer = .value handover)
      (hpayload : handover.payload = .value value) :
      Move w s (w.emit [.data value.render] .resumed) [.took handover]
  | skipped {handover : Handover} {reason : String} {event : Event} (hphase : w.phase = .waiting)
      (hstays : ¬ w.MustLeave s) (hoffer : s.offer = .value handover)
      (hpayload : handover.payload = .unwritable reason) :
      Move w s w [.took handover, .reported event]
  | brokeDown {handover : Handover} {message : String} {event : Event} (hphase : w.phase = .waiting)
      (hstays : ¬ w.MustLeave s) (hoffer : s.offer = .value handover)
      (hpayload : handover.payload = .fatal message) :
      Move w s (w.finish (.broken message)) [.took handover, .reported event]
  | pinged {pingDue : Nat} (hphase : w.phase = .waiting) (hstays : ¬ w.MustLeave s) :
      Move w s ({ w with pingDue }.emit [.ping] .resumed) []

variable {w w' : Writer} {s : Situation} {actions : List Action}

/-- Setting the clocks succeeds or breaks the writer down. -/
theorem setClocks_cases (w : Writer) (now : Nat) :
    (∃ deadline pingDue, w.setClocks now = ({ w with phase := .waiting, deadline, pingDue }, [])) ∨
      ∃ message, w.setClocks now = (w.finish (.broken message), [brokeDown message]) := by
  unfold setClocks
  split
  · exact Or.inr ⟨_, rfl⟩
  · split
    · exact Or.inr ⟨_, rfl⟩
    · exact Or.inl ⟨_, _, rfl⟩

theorem move_of_wait? (hphase : w.phase = .waiting) (h : w.wait? s = some (w', actions)) :
    w.Move s w' actions := by
  unfold wait? at h
  split at h
  · rename_i hcancelled
    obtain ⟨rfl, rfl⟩ := by simpa using h
    exact .left hphase (Or.inl ⟨rfl, hcancelled⟩)
  rename_i hfree
  split at h
  · rename_i hgone
    obtain ⟨rfl, rfl⟩ := by simpa using h
    exact .left hphase (Or.inr ⟨rfl, hgone⟩)
  rename_i hthere
  split at h
  · obtain ⟨rfl, rfl⟩ := by simpa using h
    exact .timedOut hphase
  rename_i hearly
  have hstays : ¬ w.MustLeave s := by
    rintro (hcancelled | hgone | hlate)
    · exact hfree hcancelled
    · exact hthere hgone
    · exact hearly hlate
  split at h
  · rename_i handover hoffer
    unfold take at h
    split at h
    · rename_i value hpayload
      obtain ⟨rfl, rfl⟩ := by simpa using h
      exact .took hphase hstays hoffer hpayload
    · rename_i reason hpayload
      obtain ⟨rfl, rfl⟩ := by simpa using h
      exact .skipped hphase hstays hoffer hpayload
    · rename_i message hpayload
      obtain ⟨rfl, rfl⟩ := by simpa using h
      exact .brokeDown hphase hstays hoffer hpayload
  · obtain ⟨rfl, rfl⟩ := by simpa using h
    exact .drained hphase
  · split at h
    · obtain ⟨rfl, rfl⟩ := by simpa using h
      exact .pinged hphase hstays
    · simp at h

/-- **Every step is one of the moves.** -/
theorem move_of_step? (h : w.step? s = some (w', actions)) : w.Move s w' actions := by
  unfold step? at h
  split at h
  · rename_i frames next hphase
    split at h
    · rename_i hclosed
      rw [fail_eq] at h
      obtain ⟨rfl, rfl⟩ := by simpa using h
      exact .gaveUp hphase (by simpa using hclosed)
    rename_i hgoes
    obtain ⟨hopen, hfree⟩ : w.closed = false ∧ s.cancelled = false := by simpa using hgoes
    split at h
    · obtain ⟨rfl, rfl⟩ := by simpa using h
      exact .beganFlush hphase hopen hfree
    · split at h
      · obtain ⟨rfl, rfl⟩ := by simpa using h
        exact .wrote hphase hopen hfree
      · rw [fail_eq, preceded] at h
        obtain ⟨rfl, rfl⟩ := by simpa using h
        exact .refused hphase hopen hfree
  · rename_i next hphase
    obtain ⟨ok, -, hok⟩ := Option.map_eq_some_iff.mp h
    split at hok
    · by_cases hnext : next = .opened
      · subst hnext
        rcases setClocks_cases w s.now with ⟨deadline, pingDue, hset⟩ | ⟨message, hset⟩
        · rw [proceed, if_pos rfl, hset, preceded] at hok
          obtain ⟨rfl, rfl⟩ := by simpa using hok
          exact .opened hphase
        · rw [proceed, if_pos rfl, hset, preceded] at hok
          obtain ⟨rfl, rfl⟩ := by simpa using hok
          exact .stopped hphase
      · rw [proceed_of_ne_opened w s hnext, preceded] at hok
        obtain ⟨rfl, rfl⟩ := by simpa using hok
        exact .flushed hphase hnext
    · rw [fail_eq, preceded] at hok
      obtain ⟨rfl, rfl⟩ := by simpa using hok
      exact .flushFailed hphase
  · rename_i hphase
    exact move_of_wait? hphase h
  · simp at h

/-- A waiting writer that has to leave does so, and does nothing else in this step. -/
theorem step?_of_mustLeave (hphase : w.phase = .waiting) (h : w.MustLeave s) :
    w.step? s = some (w.finish (.ended .cancelled), []) ∨
      w.step? s = some (w.finish (.ended .peerGone), []) ∨
      w.step? s = some (w.emit [.timeout] .timedOut, []) := by
  simp only [step?, wait?, hphase]
  by_cases hcancelled : s.cancelled = true
  · exact Or.inl (by simp [hcancelled])
  by_cases hgone : s.peerGone = true
  · exact Or.inr (Or.inl (by simp [hcancelled, hgone]))
  have hlate : w.deadline ≤ s.now := (h.resolve_left hcancelled).resolve_left hgone
  exact Or.inr (Or.inr (by simp [hcancelled, hgone, hlate]))

/-! ## Runs -/

/-- What becomes of a writer that meets one situation after another, and what it does.  Where it has
to wait it stays as it is. -/
def run (w : Writer) : List Situation → Writer × List Action
  | [] => (w, [])
  | s :: rest =>
    match w.step? s with
    | none => w.run rest
    | some (w, actions) => ((w.run rest).1, actions ++ (w.run rest).2)

/-- **What every step keeps, a run keeps.**  The property speaks of the writer and of all it has
done, before the run and in it. -/
theorem run_keeps (P : Writer → List Action → Prop) (situations : List Situation)
    (hkeeps : ∀ s ∈ situations, ∀ w past w' actions, P w past → w.Move s w' actions →
      P w' (past ++ actions))
    (w : Writer) (past : List Action) (h : P w past) :
    P (w.run situations).1 (past ++ (w.run situations).2) := by
  induction situations generalizing w past with
  | nil => simpa [run] using h
  | cons s rest ih =>
      have hrest : ∀ s ∈ rest, ∀ w past w' actions, P w past → w.Move s w' actions →
          P w' (past ++ actions) := fun s hs => hkeeps s (List.mem_cons_of_mem _ hs)
      simp only [run]
      cases hstep : w.step? s with
      | none => exact ih hrest w past h
      | some step =>
          obtain ⟨w', actions⟩ := step
          have hnext := hkeeps s List.mem_cons_self w past w' actions h (move_of_step? hstep)
          rw [← List.append_assoc]
          exact ih hrest _ _ hnext

end Writer

end ServiceHost.Session
