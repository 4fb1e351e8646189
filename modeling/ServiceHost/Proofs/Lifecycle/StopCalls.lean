import ServiceHost.Proofs.Lifecycle.Completion

/-!
# Who is told to stop

Modules are told to stop one after the other, and what they do with their guards is their own: one
that fails or keeps its guard takes nothing from the others.  Only a module that breaks down does:
the modules behind it are never told, and nobody learns whether all have stopped
(`StopRun.stop_calls`).  A guard counts as released in time if that happens before the deadline, or
before the last call has ended where this is later.
-/

namespace ServiceHost

/-- Whether the guard is released in the call, or later at a time that is in time. -/
def StopCall.IsReleased (context : StopContext) (inTime : Nat → Prop) (call : StopCall) : Prop :=
  call.plan.cleanup = .atOnce ∨ ∃ time, call.releaseTime? context = some time ∧ inTime time

theorem StopCall.isHeldAt_eq_false_iff (context : StopContext) (moment : Nat) (call : StopCall) :
    call.isHeldAt context moment = false ↔ call.IsReleased context (· < moment) := by
  unfold isHeldAt IsReleased releaseTime?
  cases call.plan.cleanup <;> simp

namespace StopRun

/-- The modules that were told to stop. -/
def toldNames (run : StopRun) : List String :=
  run.trace.filterMap fun
    | (_, .told module) => some module
    | _ => none

variable (context : StopContext) (now : Nat) {plans : List StopPlan}

/-! ## Calls -/

/-- If no module breaks down, all are told. -/
theorem callsFrom_plans (hwhole : ∀ plan ∈ plans, plan.breakdown? = none) :
    (callsFrom now plans).map (·.plan) = plans := by
  induction plans generalizing now with
  | nil => rfl
  | cons plan rest ih =>
      have hplan := hwhole plan List.mem_cons_self
      have hrest := ih (now + plan.callTime) fun other hmem =>
        hwhole other (List.mem_cons_of_mem plan hmem)
      simp [callsFrom, hplan, hrest]

/-- Behind a module that breaks down nobody is told. -/
theorem callsFrom_append_broken {before : List StopPlan} (after : List StopPlan) {plan : StopPlan}
    (hbefore : ∀ other ∈ before, other.breakdown? = none) (hbroken : plan.breakdown?.isSome) :
    (callsFrom now (before ++ plan :: after)).map (·.plan) = before ++ [plan] := by
  induction before generalizing now with
  | nil => simp [callsFrom, hbroken]
  | cons first rest ih =>
      have hfirst := hbefore first List.mem_cons_self
      have hrest := ih (now + first.callTime) fun other hmem =>
        hbefore other (List.mem_cons_of_mem first hmem)
      simp [callsFrom, hfirst, hrest]

/-! ## The trace -/

theorem toldNames_tellings (calls : List StopCall) :
    (tellings calls).filterMap (fun
      | (_, .told module) => some module
      | _ => none) = calls.map (·.plan.name) := by
  rw [tellings, List.filterMap_map]
  exact congrFun (@List.filterMap_eq_map _ _ fun call : StopCall => call.plan.name) calls

/-- No task tells a module to stop. -/
theorem toldNames_taskTrace (calls : List StopCall) (limit : Nat) :
    (taskTrace context calls limit).filterMap (fun
      | (_, .told module) => some module
      | _ => none) = [] := by
  refine List.filterMap_eq_nil_iff.mpr fun event hevent => ?_
  obtain ⟨task, htask, rfl⟩ := List.mem_map.mp hevent
  have hmem := List.mem_mergeSort.mp (List.mem_filter.mp htask).1
  obtain ⟨call, -, hcall⟩ := List.mem_filterMap.mp hmem
  unfold StopCall.taskEvent? at hcall
  split at hcall
  · obtain rfl := Option.some.inj hcall
    rfl
  · obtain rfl := Option.some.inj hcall
    rfl
  · exact absurd hcall (by simp)

/-- The trace shows the calls, and no others. -/
theorem toldNames_run (plans : List StopPlan) :
    (run context plans).toldNames = (callsFrom context.start plans).map (·.plan.name) := by
  unfold run toldNames
  simp only
  split
  · exact toldNames_tellings _
  · split
    · rw [List.filterMap_append, toldNames_tellings, toldNames_taskTrace, List.append_nil]
    · rw [List.filterMap_append, toldNames_tellings, toldNames_taskTrace, List.append_nil]

/-! ## The result -/

/-- By when guards have to be released: the deadline, or the end of the last call. -/
def limit (context : StopContext) (plans : List StopPlan) : Nat :=
  max (callsEnd context.start (callsFrom context.start plans)) context.deadline

/-- If no module breaks down, the result says whether all guards were released in time. -/
theorem result_eq_allStopped_iff (hwhole : ∀ plan ∈ plans, plan.breakdown? = none) :
    (run context plans).result = .allStopped ↔
      ∀ call ∈ callsFrom context.start plans,
        call.IsReleased context (· < limit context plans) := by
  have hnone : (callsFrom context.start plans).findSome? (·.plan.breakdown?) = none := by
    rw [findSome?_callsFrom]
    exact List.findSome?_eq_none_iff.mpr hwhole
  have hresult : (run context plans).result =
      if (callsFrom context.start plans).countP (·.isHeldAt context (limit context plans)) = 0 then
        .allStopped
      else
        .late ((callsFrom context.start plans).countP
          (·.isHeldAt context (limit context plans))) := by
    unfold run
    simp only [hnone]
    exact apply_ite StopRun.result _ _ _
  have hcount : (callsFrom context.start plans).countP (·.isHeldAt context (limit context plans)) = 0 ↔
      ∀ call ∈ callsFrom context.start plans,
        call.IsReleased context (· < limit context plans) := by
    rw [List.countP_eq_zero]
    simp only [Bool.not_eq_true, StopCall.isHeldAt_eq_false_iff]
  rw [hresult, ← hcount]
  split
  · simp_all
  · simp_all

/-- A module that breaks down is the result. -/
theorem result_of_broken {before after : List StopPlan} {plan : StopPlan} {message : String}
    (hbefore : ∀ other ∈ before, other.breakdown? = none)
    (hbroken : plan.breakdown? = some message) :
    (run context (before ++ plan :: after)).result = .broken message := by
  have hfirst : (before ++ plan :: after).findSome? (·.breakdown?) = some message := by
    rw [List.findSome?_append, List.findSome?_eq_none_iff.mpr hbefore]
    simp [hbroken]
  unfold run
  simp only [findSome?_callsFrom, hfirst]

/-- **Who is told to stop, and what is reported.**  Where no module breaks down, every module is told
once, in order, whatever the others do, and the result is that all have stopped exactly if every
guard is released in time.  The first module that breaks down is the last that is told, and the
breakdown is all that is reported. -/
theorem stop_calls (context : StopContext) (plans : List StopPlan) :
    ((∀ plan ∈ plans, plan.breakdown? = none) →
      (run context plans).toldNames = plans.map (·.name) ∧
      ((run context plans).result = .allStopped ↔
        ∀ call ∈ callsFrom context.start plans,
          call.IsReleased context (· < limit context plans))) ∧
    ∀ before plan after message, plans = before ++ plan :: after →
      (∀ other ∈ before, other.breakdown? = none) → plan.breakdown? = some message →
      (run context plans).toldNames = (before ++ [plan]).map (·.name) ∧
      (run context plans).result = .broken message := by
  refine ⟨fun hwhole => ⟨?_, result_eq_allStopped_iff context hwhole⟩, ?_⟩
  · have hplans := callsFrom_plans context.start hwhole
    rw [toldNames_run, ← Function.comp_def StopPlan.name, ← List.map_map, hplans]
  · rintro before plan after message rfl hbefore hbroken
    have hplans := callsFrom_append_broken context.start after hbefore
      (Option.isSome_iff_exists.mpr ⟨message, hbroken⟩)
    refine ⟨?_, result_of_broken context hbefore hbroken⟩
    rw [toldNames_run, ← Function.comp_def StopPlan.name, ← List.map_map, hplans]

/-- **A module can keep the stop call from another.**  Two modules, of which the first breaks down:
the second is never told, although it would release its guard at once.  And a guard that is released
at the deadline, as by a task that waits for it, is late. -/
theorem stop_call_withheld :
    (¬ ∀ (context : StopContext) (plans : List StopPlan),
      (run context plans).toldNames = plans.map (·.name)) ∧
    (¬ ∀ (context : StopContext) (plans : List StopPlan),
      (∀ call ∈ callsFrom context.start plans, call.plan.cleanup = .atOnce) →
      (run context plans).result = .allStopped) ∧
    ¬ ∀ (context : StopContext) (plans : List StopPlan),
      (∀ plan ∈ plans, plan.breakdown? = none) →
      (∀ call ∈ callsFrom context.start plans,
        call.IsReleased context (· ≤ limit context plans)) →
      (run context plans).result = .allStopped := by
  refine ⟨fun h => ?_, fun h => ?_, fun h => ?_⟩
  · have htold := h { deadline := 500 }
      [{ name := "first", outcome := .broken "out of order" }, { name := "second" }]
    exact absurd htold (by decide)
  · have hresult := h { deadline := 500 }
      [{ name := "first", outcome := .broken "out of order" }, { name := "second" }] (by decide)
    exact absurd hresult (by decide)
  · have hresult := h { deadline := 500 } [{ name := "first", cleanup := .untilDone }] (by decide)
      fun call hcall => by
        rw [List.mem_singleton.mp hcall]
        exact Or.inr ⟨500, rfl, by decide⟩
    exact absurd hresult (by decide)

end StopRun

end ServiceHost
