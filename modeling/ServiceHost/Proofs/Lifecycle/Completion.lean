import ServiceHost.Lifecycle.Shutdown

/-!
# Whether a shutdown comes to its end

A shutdown is cut off by a deadline that the clock cannot count to and by a module that breaks down,
and by nothing else.  Where it is cut off, what is still running is not cancelled.
-/

namespace ServiceHost

theorem StopRun.findSome?_callsFrom (now : Nat) (plans : List StopPlan) :
    (callsFrom now plans).findSome? (·.plan.breakdown?) = plans.findSome? (·.breakdown?) := by
  induction plans generalizing now with
  | nil => rfl
  | cons plan rest ih =>
      cases hbreak : plan.breakdown? with
      | none => simp [callsFrom, hbreak, ih]
      | some message => simp [callsFrom, hbreak]

/-- Stopping modules breaks down exactly if one of them does. -/
theorem StopRun.exists_broken_iff (context : StopContext) (plans : List StopPlan) :
    (∃ message, (run context plans).result = .broken message) ↔
      ∃ plan ∈ plans, plan.breakdown?.isSome := by
  unfold run
  simp only [findSome?_callsFrom]
  cases hbreak : plans.findSome? (·.breakdown?) with
  | none =>
      have hnone := List.findSome?_eq_none_iff.mp hbreak
      refine iff_of_false ?_ ?_
      · rintro ⟨message, hbroken⟩
        simp only at hbroken
        split at hbroken <;> exact absurd hbroken (by simp)
      · rintro ⟨plan, hmem, hsome⟩
        rw [hnone plan hmem] at hsome
        exact absurd hsome (by simp)
  | some message =>
      obtain ⟨plan, hmem, hplan⟩ := List.exists_of_findSome?_eq_some hbreak
      exact iff_of_true ⟨message, rfl⟩ ⟨plan, hmem, by rw [hplan]; rfl⟩

namespace ShutdownRun

theorem rootTriggered_not_mem_toldModules (trace : List (Nat × StopEvent)) :
    .rootTriggered ∉ toldModules trace := by
  intro hmem
  obtain ⟨⟨_, event⟩, -, hevent⟩ := List.mem_filterMap.mp hmem
  cases event <;> simp at hevent

theorem rootTriggered_not_mem_earlySteps (plan : ShutdownPlan) :
    .rootTriggered ∉ earlySteps plan := by
  unfold earlySteps
  cases plan.hasMetrics <;> cases plan.logShipper <;> simp

/-- With a deadline, a shutdown comes to its end unless a module breaks down. -/
theorem report_isSome_runUntil (plan : ShutdownPlan) (deadline : Nat) (cancelAt : Option Nat) :
    (runUntil plan deadline cancelAt).report.isSome ↔
      ∀ module ∈ plan.modules, module.breakdown? = none := by
  have hbroken := fun context => StopRun.exists_broken_iff context plan.modules
  unfold runUntil
  simp only
  split
  · rename_i message hmessage
    obtain ⟨module, hmem, hsome⟩ := (hbroken _).mp ⟨message, hmessage⟩
    refine iff_of_false (by simp) fun hnone => ?_
    rw [hnone module hmem] at hsome
    exact absurd hsome (by simp)
  · rename_i hwhole
    refine iff_of_true rfl fun module hmem => Option.not_isSome_iff_eq_none.mp fun hsome => ?_
    obtain ⟨message, hmessage⟩ := (hbroken _).mpr ⟨module, hmem, hsome⟩
    exact hwhole message hmessage

theorem rootTriggered_mem_runUntil (plan : ShutdownPlan) (deadline : Nat) (cancelAt : Option Nat) :
    .rootTriggered ∈ (runUntil plan deadline cancelAt).steps ↔
      (runUntil plan deadline cancelAt).report.isSome := by
  have hearly := rootTriggered_not_mem_earlySteps plan
  unfold runUntil
  simp only
  split <;> simp [hearly, rootTriggered_not_mem_toldModules]

/-- **When a shutdown comes to its end**: the clock counts to the deadline, and no module breaks
down.  Only then is everything else cancelled. -/
theorem report_isSome_iff (plan : ShutdownPlan) (timeout : Nat) (cancelAt : Option Nat) :
    ((run plan timeout cancelAt).report.isSome ↔
      Clock.reaches (plan.recordsSentAt + timeout) = true ∧
        ∀ module ∈ plan.modules, module.breakdown? = none) ∧
    (.rootTriggered ∈ (run plan timeout cancelAt).steps ↔
      (run plan timeout cancelAt).report.isSome) := by
  unfold run
  cases hreaches : Clock.reaches (plan.recordsSentAt + timeout) with
  | false => simp [hreaches, rootTriggered_not_mem_earlySteps]
  | true => simp [hreaches, report_isSome_runUntil, rootTriggered_mem_runUntil]

end ShutdownRun

end ServiceHost
