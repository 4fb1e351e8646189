import Mathlib.Data.List.Induction
import ServiceHost.Host.Reload

/-!
# What a reload makes live

Files are reloaded at any time, while settings that were loaded before are still on their way to the
modules.  Whatever the order of all this, only valid settings become live; each module is told once
about all of them, in their order, at a time when they are live; and when nothing is on its way any
more, the live settings are those of the last file that held any (`ReloadFeed.reloads_delivered`).
A module that cannot use new settings takes nothing from the others, nor from the settings.
-/

namespace ServiceHost

/-- Whether a file holds settings that a host runs with: a text that can be parsed into them, and
they pass all checks. -/
def FileState.Holds (parse : Settings.Parser) (file : FileState) (settings : Settings) : Prop :=
  ∃ contents text, file = .file contents ∧ Utf8.decode? contents = some text ∧
    parse (String.ofList text) = some settings ∧ settings.isValid = true

theorem Settings.parseWith_eq_ok_iff (parse : Parser) (text : String) (settings : Settings) :
    parseWith parse text = .ok settings ↔ parse text = some settings ∧ settings.isValid = true := by
  unfold parseWith
  split
  · rename_i hparse
    simp [hparse]
  · rename_i parsed hparse
    rw [hparse, Option.some_inj]
    split
    · rename_i hvalid
      rw [Except.ok.injEq]
      exact ⟨fun heq => ⟨heq, heq ▸ hvalid⟩, And.left⟩
    · rename_i hinvalid
      exact iff_of_false (by simp) fun h => hinvalid (h.1 ▸ h.2)

/-- A reload publishes what the file holds. -/
theorem Settings.reloadWith_eq_some_iff (parse : Parser) (file : FileState) (settings : Settings) :
    (reloadWith parse file).1 = some settings ↔ file.Holds parse settings := by
  have hreload : (reloadWith parse file).1 = some settings ↔ loadWith parse file = .ok settings := by
    unfold reloadWith
    cases loadWith parse file <;> simp
  rw [hreload]
  unfold FileState.Holds
  cases file with
  | missing => simp [loadWith]
  | directory => simp [loadWith]
  | file contents =>
      cases hdecode : Utf8.decode? contents with
      | none => simp [loadWith, hdecode]
      | some text => simp [loadWith, hdecode, parseWith_eq_ok_iff]

namespace ReloadFeed

/-! ## What should arrive -/

/-- The files that a run reloads. -/
def attempts (moves : List ReloadMove) : List FileState :=
  moves.filterMap fun
    | .attempt file => some file
    | _ => none

/-- The settings that some files hold. -/
def loaded (parse : Settings.Parser) (files : List FileState) : List Settings :=
  files.filterMap fun file => (Settings.reloadWith parse file).1

/-- All that there is to tell about settings. -/
def tellings (hooks : List ReloadHook) (published : List Settings) : List (Settings × ReloadHook) :=
  published.flatMap fun settings => hooks.map (settings, ·)

/-- What it comes to that modules are told about settings which are live then. -/
def callsOf (told : List (Settings × ReloadHook)) : List HookCall :=
  told.foldl (fun calls next => calls ++ [next.2.call calls next.1 next.1]) []

theorem attempts_append (moves rest : List ReloadMove) :
    attempts (moves ++ rest) = attempts moves ++ attempts rest :=
  List.filterMap_append

theorem attempts_tell {α : Type} (hooks : List α) :
    attempts (hooks.map fun _ => .tell) = [] := by
  simp [attempts]

theorem loaded_append (parse : Settings.Parser) (files rest : List FileState) :
    loaded parse (files ++ rest) = loaded parse files ++ loaded parse rest :=
  List.filterMap_append

theorem callsOf_append (told : List (Settings × ReloadHook)) (settings : Settings)
    (hook : ReloadHook) :
    callsOf (told ++ [(settings, hook)]) =
      callsOf told ++ [hook.call (callsOf told) settings settings] :=
  List.foldl_append

theorem live_eq_of_mem_callsOf {told : List (Settings × ReloadHook)} {call : HookCall}
    (hcall : call ∈ callsOf told) : call.live = call.settings := by
  induction told using List.reverseRecOn with
  | nil => exact absurd hcall List.not_mem_nil
  | append_singleton told next ih =>
      rw [callsOf_append] at hcall
      obtain hbefore | hlast := List.mem_append.mp hcall
      · exact ih hbefore
      · rw [List.mem_singleton.mp hlast]
        rfl

theorem isValid_of_mem_loaded {parse : Settings.Parser} {files : List FileState}
    {settings : Settings} (hmem : settings ∈ loaded parse files) : settings.isValid = true := by
  obtain ⟨file, -, hfile⟩ := List.mem_filterMap.mp hmem
  obtain ⟨_, _, -, -, -, hvalid⟩ := (Settings.reloadWith_eq_some_iff parse file settings).mp hfile
  exact hvalid

/-- Files without settings change nothing. -/
theorem loaded_eq_nil {parse : Settings.Parser} {files : List FileState}
    (hnone : ∀ file ∈ files, ∀ settings, ¬ file.Holds parse settings) : loaded parse files = [] :=
  List.filterMap_eq_nil_iff.mpr fun file hfile => Option.eq_none_iff_forall_ne_some.mpr
    fun settings hsome =>
      hnone file hfile settings ((Settings.reloadWith_eq_some_iff parse file settings).mp hsome)

/-- The last settings are those of the last file that holds any. -/
theorem getLast?_loaded {parse : Settings.Parser} {before after : List FileState} {file : FileState}
    {settings : Settings} (hholds : file.Holds parse settings)
    (hafter : ∀ later ∈ after, ∀ other, ¬ later.Holds parse other) :
    (loaded parse (before ++ file :: after)).getLast? = some settings := by
  have hlater : loaded parse after = [] := loaded_eq_nil hafter
  have hfile := (Settings.reloadWith_eq_some_iff parse file settings).mpr hholds
  have hcons : loaded parse (file :: after) = settings :: loaded parse after :=
    List.filterMap_cons_some hfile
  rw [loaded_append, hcons, hlater, List.getLast?_concat]

/-! ## What has arrived -/

/-- Where everything is that was loaded: `published` has become live, the last of it is live now, and
`told` is what modules were told about it.  The rest is on its way. -/
structure Delivers (hooks : List ReloadHook) (initial : Settings) (settings : List Settings)
    (feed : ReloadFeed) (published : List Settings) (told : List (Settings × ReloadHook)) : Prop where
  order : settings = published ++ feed.queue
  current : feed.live.current = published.getLast?.getD initial
  telling : told ++ feed.untold = tellings hooks published
  calls : feed.live.calls = callsOf told
  live : ∀ next ∈ feed.untold, next.1 = feed.live.current

section Delivers

variable (parse : Settings.Parser) {hooks : List ReloadHook} {initial : Settings}
  {settings published : List Settings} {feed : ReloadFeed} {told : List (Settings × ReloadHook)}

/-- A reload puts settings behind all others. -/
theorem Delivers.attempt (h : Delivers hooks initial settings feed published told)
    (file : FileState) :
    Delivers hooks initial (settings ++ loaded parse [file]) (feed.attempt parse file)
      published told where
  order := by
    have hfile : loaded parse [file] = (Settings.reloadWith parse file).1.toList := by
      unfold loaded
      cases hsettings : (Settings.reloadWith parse file).1 <;> simp [hsettings]
    rw [h.order, hfile, List.append_assoc]
    rfl
  current := h.current
  telling := h.telling
  calls := h.calls
  live := h.live

/-- The next settings become live when everybody knows those before. -/
theorem Delivers.publish (h : Delivers hooks initial settings feed published told) :
    ∃ published', Delivers hooks initial settings (feed.publish hooks) published' told := by
  unfold ReloadFeed.publish
  split
  · rename_i next queue hqueue huntold
    refine ⟨published ++ [next], ?_, ?_, ?_, h.calls, ?_⟩
    · rw [h.order, hqueue, List.append_assoc, List.singleton_append]
    · rw [List.getLast?_concat, Option.getD_some]
    · have htold : told = tellings hooks published := by
        rw [← h.telling, huntold, List.append_nil]
      rw [htold, tellings, tellings, List.flatMap_append, List.flatMap_singleton]
    · intro pending hpending
      obtain ⟨hook, -, rfl⟩ := List.mem_map.mp hpending
      rfl
  · exact ⟨published, h⟩

/-- The next module is told about settings that are live. -/
theorem Delivers.tell (h : Delivers hooks initial settings feed published told) :
    ∃ told', Delivers hooks initial settings feed.tell published told' := by
  unfold ReloadFeed.tell
  split
  · rename_i next hook untold huntold
    have hnext : next = feed.live.current := h.live (next, hook) (huntold ▸ List.mem_cons_self)
    refine ⟨told ++ [(next, hook)], h.order, h.current, ?_, ?_, ?_⟩
    · rw [← h.telling, huntold, List.append_assoc, List.singleton_append]
    · rw [callsOf_append, ← h.calls]
      simp only [LiveSettings.tell, ← hnext]
    · exact fun pending hpending => h.live pending (huntold ▸ List.mem_cons_of_mem _ hpending)
  · exact ⟨told, h⟩

/-- Each move keeps track of what was loaded. -/
theorem Delivers.step (h : Delivers hooks initial settings feed published told)
    (move : ReloadMove) :
    ∃ published' told', Delivers hooks initial (settings ++ loaded parse (attempts [move]))
      (feed.step parse hooks move) published' told' := by
  cases move with
  | attempt file => exact ⟨published, told, h.attempt parse file⟩
  | publish =>
      obtain ⟨published', h'⟩ := h.publish
      exact ⟨published', told, (List.append_nil settings).symm ▸ h'⟩
  | tell =>
      obtain ⟨told', h'⟩ := h.tell
      exact ⟨published, told', (List.append_nil settings).symm ▸ h'⟩

/-- And so does a whole run. -/
theorem Delivers.run (h : Delivers hooks initial settings feed published told)
    (moves : List ReloadMove) :
    ∃ published' told', Delivers hooks initial (settings ++ loaded parse (attempts moves))
      (feed.run parse hooks moves) published' told' := by
  induction moves generalizing settings feed published told with
  | nil => exact ⟨published, told, (List.append_nil settings).symm ▸ h⟩
  | cons move rest ih =>
      obtain ⟨published₁, told₁, h₁⟩ := h.step parse move
      obtain ⟨published₂, told₂, h₂⟩ := ih h₁
      refine ⟨published₂, told₂, ?_⟩
      rw [← List.singleton_append, attempts_append, loaded_append, ← List.append_assoc]
      exact h₂

theorem delivers_of_live (hooks : List ReloadHook) (initial : Settings) :
    Delivers hooks initial [] { live := { current := initial } } [] [] where
  order := rfl
  current := rfl
  telling := rfl
  calls := rfl
  live := fun _ hmem => absurd hmem List.not_mem_nil

end Delivers

/-! ## Coming to rest -/

/-- Nothing is on its way. -/
def IsAtRest (feed : ReloadFeed) : Prop :=
  feed.queue = [] ∧ feed.untold = []

section Rest

variable (parse : Settings.Parser) (hooks : List ReloadHook)

theorem run_append (feed : ReloadFeed) (moves rest : List ReloadMove) :
    feed.run parse hooks (moves ++ rest) = (feed.run parse hooks moves).run parse hooks rest :=
  List.foldl_append

/-- Telling everybody who does not know yet. -/
theorem run_tell (feed : ReloadFeed) :
    feed.run parse hooks (feed.untold.map fun _ => .tell) =
      { feed with
        live := feed.untold.foldl (fun live next => live.tell next.1 next.2) feed.live
        untold := [] } := by
  obtain ⟨queue, live, untold⟩ := feed
  induction untold generalizing live with
  | nil => rfl
  | cons next rest ih => exact ih (live.tell next.1 next.2)

/-- Settings become live and everybody is told, as if this was one move. -/
theorem run_publish {feed : ReloadFeed} {settings : Settings} {queue : List Settings}
    (hqueue : feed.queue = settings :: queue) (huntold : feed.untold = []) :
    feed.run parse hooks (.publish :: hooks.map fun _ => .tell) =
      { queue, live := LiveSettings.publish hooks feed.live settings } := by
  have hpublish : feed.publish hooks =
      { queue, live := { feed.live with current := settings },
        untold := hooks.map (settings, ·) } := by
    simp [publish, hqueue, huntold]
  have htell := run_tell parse hooks (feed.publish hooks)
  rw [hpublish, List.map_map, List.foldl_map] at htell
  change (feed.publish hooks).run parse hooks (hooks.map fun _ => .tell) = _
  rw [hpublish]
  exact htell

/-- When everybody knows what is live, the rest can arrive. -/
theorem exists_isAtRest_of_told (queue : List Settings) (live : LiveSettings) :
    ∃ rest, attempts rest = [] ∧
      (run parse hooks { queue, live } rest).IsAtRest := by
  induction queue generalizing live with
  | nil => exact ⟨[], rfl, rfl, rfl⟩
  | cons settings queue ih =>
      obtain ⟨rest, hrest, hatRest⟩ := ih (LiveSettings.publish hooks live settings)
      refine ⟨(.publish :: hooks.map fun _ => .tell) ++ rest, ?_, ?_⟩
      · rw [attempts_append, hrest, List.append_nil]
        exact attempts_tell hooks
      · rw [run_append, run_publish parse hooks rfl rfl]
        exact hatRest

/-- Whatever is on its way can arrive, without another reload. -/
theorem exists_isAtRest (feed : ReloadFeed) :
    ∃ rest, attempts rest = [] ∧ (feed.run parse hooks rest).IsAtRest := by
  obtain ⟨rest, hrest, hatRest⟩ := exists_isAtRest_of_told parse hooks feed.queue
    (feed.untold.foldl (fun live next => live.tell next.1 next.2) feed.live)
  refine ⟨(feed.untold.map fun _ => .tell) ++ rest, ?_, ?_⟩
  · rw [attempts_append, attempts_tell, hrest, List.append_nil]
  · rw [run_append, run_tell]
    exact hatRest

end Rest

/-- **What reloads make live, and who is told.**  Whatever files are reloaded, and whatever the order
of reloads, publications and tellings: the settings that files hold become live in their order, up to
those still waiting, and all of them are valid; each module is told once about each of them, in the
order of the settings and of the modules, when they are live, whether or not it or another one
refuses.  When nothing is on its way any more, the live settings are those of the last file that
holds any, or the first ones if none does, and everything is told; and from any moment on this can be
reached. -/
theorem reloads_delivered (parse : Settings.Parser) (hooks : List ReloadHook) (initial : Settings)
    (moves : List ReloadMove) :
    let files := attempts moves
    let feed := run parse hooks { live := { current := initial } } moves
    ∃ published told,
      (loaded parse files = published ++ feed.queue ∧
        (∀ settings ∈ published, settings.isValid = true) ∧
        feed.live.current = published.getLast?.getD initial) ∧
      (told ++ feed.untold = tellings hooks published ∧
        feed.live.calls = callsOf told ∧
        ∀ call ∈ feed.live.calls, call.live = call.settings) ∧
      (feed.IsAtRest →
        feed.live.calls = callsOf (tellings hooks (loaded parse files)) ∧
        (∀ before file after settings, files = before ++ file :: after →
          file.Holds parse settings → (∀ later ∈ after, ∀ other, ¬ later.Holds parse other) →
          feed.live.current = settings) ∧
        ((∀ file ∈ files, ∀ settings, ¬ file.Holds parse settings) →
          feed.live.current = initial)) ∧
      ∃ rest, attempts rest = [] ∧ (feed.run parse hooks rest).IsAtRest := by
  intro files feed
  obtain ⟨published, told, h⟩ := (delivers_of_live hooks initial).run parse moves
  have hvalid : ∀ settings ∈ published, settings.isValid = true := fun settings hmem =>
    isValid_of_mem_loaded (h.order ▸ List.mem_append_left feed.queue hmem)
  have hlive : ∀ call ∈ feed.live.calls, call.live = call.settings := by
    rw [h.calls]
    exact fun call => live_eq_of_mem_callsOf
  refine ⟨published, told, ⟨h.order, hvalid, h.current⟩, ⟨h.telling, h.calls, hlive⟩, ?_,
    exists_isAtRest parse hooks feed⟩
  rintro ⟨hqueue, huntold⟩
  have hpublished : loaded parse files = published := by
    have hloaded : loaded parse files = published ++ feed.queue := h.order
    rw [hloaded, hqueue, List.append_nil]
  have htold : told = tellings hooks published := by
    have htellings : told ++ feed.untold = tellings hooks published := h.telling
    rw [← htellings, huntold, List.append_nil]
  have hcurrent : feed.live.current = (loaded parse files).getLast?.getD initial := by
    rw [hpublished]
    exact h.current
  refine ⟨?_, ?_, ?_⟩
  · rw [hpublished, ← htold]
    exact h.calls
  · intro before file after settings hfiles hholds hafter
    rw [hcurrent, hfiles, getLast?_loaded hholds hafter]
    rfl
  · intro hnone
    rw [hcurrent, loaded_eq_nil hnone]
    rfl

/-- One file among many holds settings that a host runs with.  They are live in the end, and the
module behind one that refuses them was told. -/
theorem reloads_delivered_among_failures :
    let patient : Settings := { shutdown := { timeoutSecs := 42 } }
    let parse : Settings.Parser := fun text =>
      if text = "patient" then some patient
      else if text = "hasty" then some { shutdown := { timeoutSecs := 0 } }
      else none
    let hooks : List ReloadHook :=
      [{ module := "stock", refusal := fun _ _ => some "no thanks" },
        { module := "health", refusal := fun _ _ => none }]
    let good : FileState := .file (Utf8.encode "patient".toList)
    let bad : List FileState :=
      [.directory, .file [0xff], .file (Utf8.encode "hasty".toList), .file (Utf8.encode "?".toList)]
    let moves := [.attempt .missing, .attempt good, .publish, .tell] ++ bad.map .attempt ++ [.tell]
    let feed := run parse hooks { live := { current := {} } } moves
    good.Holds parse patient ∧ (∀ later ∈ bad, ∀ other, ¬ later.Holds parse other) ∧
      feed.IsAtRest ∧ feed.live.current = patient ∧
      feed.live.calls.map (fun call => (call.module, call.live == patient, call.refusal)) =
        [("stock", true, some "no thanks"), ("health", true, none)] := by
  intro patient parse hooks good bad moves feed
  have hholds : good.Holds parse patient :=
    (Settings.reloadWith_eq_some_iff parse good patient).mp (by decide +kernel)
  have hbad : ∀ later ∈ bad, ∀ other, ¬ later.Holds parse other := by
    have hnone : ∀ later ∈ bad, (Settings.reloadWith parse later).1 = none := by decide +kernel
    intro later hlater other hother
    have hsome := (Settings.reloadWith_eq_some_iff parse later other).mpr hother
    rw [hnone later hlater] at hsome
    exact absurd hsome (by simp)
  have hatRest : feed.IsAtRest := ⟨by decide +kernel, by decide +kernel⟩
  obtain ⟨published, told, -, -, hrest, -⟩ := reloads_delivered parse hooks {} moves
  exact ⟨hholds, hbad, hatRest,
    (hrest hatRest).2.1 [.missing] good bad patient rfl hholds hbad, by decide +kernel⟩

end ReloadFeed

end ServiceHost
