import Mathlib.Data.Nat.Basic
import Mathlib.Tactic.Ring
import ServiceHost.Proofs.Session.Settling

/-!
# A session keeps to its timetable

Against a clock that only moves when nothing more can happen, what a session writes is told by a
timetable: a sign of life at every multiple of the period, and the values at the moments at which they
are handed over (`timetable`).  A session that has kept to it so far (`KeepsTime`) does so while time
passes, through every sign of life and past the deadline (`KeepsTime.wait`), and when a value is handed
over (`KeepsTime.send`).  So a whole session does (`play_timetable`), as long as the clock lasts; with a
period that the clock cannot count it breaks down at once (`play_breaks_down`).
-/

namespace ServiceHost

/-- A clock that reaches a moment has reached all earlier ones. -/
theorem Clock.reaches_of_le {moment later : Nat} (hle : moment ≤ later)
    (h : Clock.reaches later = true) : Clock.reaches moment = true := by
  rw [Clock.reaches, decide_eq_true_iff] at h ⊢
  exact Nat.lt_of_le_of_lt (Nat.div_le_div_right hle) h

namespace Session

/-! ## The timetable -/

/-- What goes out at some moment behind the opening: a sign of life when one is due, and the values that
are handed over then. -/
def framesAt (period : Nat) (sends : List (Nat × Json)) (moment : Nat) : List Frame :=
  (if 0 < moment ∧ period ∣ moment then [.ping] else []) ++
    (sends.filter fun sent => sent.1 == moment).map fun sent => .data sent.2.render

/-- What goes out between the opening and some moment, without that moment. -/
def timetable (period : Nat) (sends : List (Nat × Json)) (stop : Nat) : List Frame :=
  (List.range stop).flatMap (framesAt period sends)

section

variable {period : Nat} {sends : List (Nat × Json)}

theorem timetable_succ (stop : Nat) :
    timetable period sends (stop + 1) = timetable period sends stop ++ framesAt period sends stop := by
  simp [timetable, List.range_succ]

/-- Without a value only a sign of life can be due. -/
theorem framesAt_of_no_value {moment : Nat} (h : ∀ sent ∈ sends, sent.1 ≠ moment) :
    framesAt period sends moment = if 0 < moment ∧ period ∣ moment then [.ping] else [] := by
  have hnone : sends.filter (fun sent => sent.1 == moment) = [] := by
    rw [List.filter_eq_nil_iff]
    intro sent hmem
    simpa using h sent hmem
  rw [framesAt, hnone, List.map_nil, List.append_nil]

/-- **Without values only signs of life go out**, one for each multiple of the period. -/
theorem timetable_pings {n m : Nat} (hle : n ≤ m) (h : ∀ sent ∈ sends, sent.1 ≤ n) :
    timetable period sends (m + 1) =
      timetable period sends (n + 1) ++ List.replicate (m / period - n / period) .ping := by
  induction m, hle using Nat.le_induction with
  | base => simp
  | succ m hle ih =>
      have hnone : ∀ sent ∈ sends, sent.1 ≠ m + 1 := by
        intro sent hmem
        have := h sent hmem
        omega
      have hframes := @framesAt_of_no_value period sends _ hnone
      have hmono : n / period ≤ m / period := Nat.div_le_div_right hle
      rw [timetable_succ, ih, hframes, Nat.succ_div, List.append_assoc]
      by_cases hdue : period ∣ m + 1
      · have hcount : m / period + 1 - n / period = m / period - n / period + 1 := by omega
        rw [if_pos ⟨Nat.succ_pos m, hdue⟩, if_pos hdue, hcount, List.replicate_succ']
      · rw [if_neg fun hboth => hdue hboth.2, if_neg hdue, List.append_nil]
        rfl

/-- Between two multiples of the period nothing goes out without a value. -/
theorem timetable_quiet {n m : Nat} (hle : n ≤ m) (hdiv : m / period = n / period)
    (h : ∀ sent ∈ sends, sent.1 ≤ n) :
    timetable period sends (m + 1) = timetable period sends (n + 1) := by
  rw [timetable_pings hle h, hdiv, Nat.sub_self, List.replicate_zero, List.append_nil]

/-- A value that is handed over goes out behind all that has gone out before. -/
theorem timetable_send (moment : Nat) (value : Json) :
    timetable period (sends ++ [(moment, value)]) (moment + 1) =
      timetable period sends (moment + 1) ++ [.data value.render] := by
  have hearlier : ∀ n ∈ List.range moment,
      framesAt period (sends ++ [(moment, value)]) n = framesAt period sends n := by
    intro n hmem
    have hne : moment ≠ n := by
      have := List.mem_range.mp hmem
      omega
    simp [framesAt, List.filter_append, hne]
  have hnow : framesAt period (sends ++ [(moment, value)]) moment =
      framesAt period sends moment ++ [.data value.render] := by
    simp [framesAt, List.filter_append]
  rw [timetable_succ, timetable_succ, hnow, timetable, timetable, List.flatMap_congr hearlier,
    List.append_assoc]

/-- A value that is handed over too late does not go out. -/
theorem timetable_late {stop moment : Nat} (hlate : stop ≤ moment) (value : Json) :
    timetable period (sends ++ [(moment, value)]) stop = timetable period sends stop := by
  rw [timetable, timetable]
  apply List.flatMap_congr
  intro n hmem
  have hne : moment ≠ n := by
    have := List.mem_range.mp hmem
    omega
  simp [framesAt, List.filter_append, hne]

end

/-! ## Time passes -/

namespace Timeline

variable {t : Timeline} {target wake : Nat}

/-- A session wakes at the next moment for which its writer waits. -/
theorem passTime_wake (hwake : t.wakeTime? = some wake) (hlater : t.now < wake) (hle : wake ≤ target)
    (fuel : Nat) : passTime target (fuel + 1) t = passTime target fuel { t with now := wake }.settle := by
  rw [passTime, hwake]
  exact if_pos ⟨hlater, hle⟩

/-- Without such a moment it just passes the time. -/
theorem passTime_sleep (hsleeps : ∀ wake, t.wakeTime? = some wake → target < wake) (fuel : Nat) :
    passTime target fuel t = { t with now := target }.settle := by
  cases fuel with
  | zero => rfl
  | succ fuel =>
      rw [passTime]
      cases hwake : t.wakeTime? with
      | none => rfl
      | some wake => exact if_neg fun hboth => absurd (hsleeps wake hwake) (Nat.not_lt.mpr hboth.2)

end Timeline

/-- The next multiple of the period behind a moment. -/
def nextMultiple (period n : Nat) : Nat := (n / period + 1) * period

section

variable {period : Nat} (hperiod : 0 < period)

include hperiod

theorem lt_nextMultiple (n : Nat) : n < nextMultiple period n := by
  have hsplit := Nat.div_add_mod n period
  have hmod := Nat.mod_lt n hperiod
  rw [nextMultiple, Nat.add_mul, Nat.mul_comm, Nat.one_mul]
  omega

theorem nextMultiple_div (n : Nat) : nextMultiple period n / period = n / period + 1 :=
  Nat.mul_div_cancel _ hperiod

/-- Between two multiples nothing is divided. -/
theorem div_eq_of_lt_nextMultiple {n m : Nat} (hle : n ≤ m) (hlt : m < nextMultiple period n) :
    m / period = n / period := by
  have hup : m / period < n / period + 1 := (Nat.div_lt_iff_lt_mul hperiod).mpr hlt
  have hdown : n / period ≤ m / period := Nat.div_le_div_right hle
  omega

omit hperiod in
theorem nextMultiple_eq_of_div {n m : Nat} (h : m / period = n / period) :
    nextMultiple period m = nextMultiple period n := by
  rw [nextMultiple, nextMultiple, h]

theorem nextMultiple_nextMultiple (n : Nat) :
    nextMultiple period (nextMultiple period n) = nextMultiple period n + period := by
  rw [nextMultiple, nextMultiple_div hperiod, Nat.add_mul, Nat.one_mul]
  rfl

omit hperiod in
theorem nextMultiple_mono {n m : Nat} (hle : n ≤ m) : nextMultiple period n ≤ nextMultiple period m :=
  Nat.mul_le_mul_right period (Nat.succ_le_succ (Nat.div_le_div_right hle))

omit hperiod in
theorem nextMultiple_zero : nextMultiple period 0 = period := by
  rw [nextMultiple, Nat.zero_div, Nat.zero_add, Nat.one_mul]

end

/-! ## Keeping to the timetable -/

/-- What publishers learn: a value is taken if it is handed over before the limit. -/
def receipts (limit : Nat) (sends : List (Nat × Json)) : List (Nat × Bool) :=
  sends.mapIdx fun id sent => (id, decide (sent.1 < limit))

theorem receipts_concat (limit : Nat) (sends : List (Nat × Json)) (sent : Nat × Json) :
    receipts limit (sends ++ [sent]) =
      receipts limit sends ++ [(sends.length, decide (sent.1 < limit))] :=
  List.mapIdx_concat

/-- Values that are all handed over before some moment are taken up to it as well. -/
theorem receipts_min {limit stop : Nat} {sends : List (Nat × Json)}
    (h : ∀ sent ∈ sends, sent.1 < stop) : receipts (min limit stop) sends = receipts limit sends := by
  apply List.mapIdx_eq_mapIdx_iff.mpr
  intro id hid
  have hsent := h sends[id] (List.getElem_mem hid)
  have hsame : sends[id].1 < min limit stop ↔ sends[id].1 < limit := by omega
  rw [decide_eq_decide.mpr hsame]

namespace Timeline

/-- A session that waits, `n` milliseconds behind the opening, with its publisher.  All signs of life
that were due have gone out. -/
def running (options : Options) (start limit n : Nat) (r : Recorder) (settled : List (Nat × Bool))
    (nextId : Nat) : Timeline :=
  calm { options, phase := .waiting, deadline := start + limit,
         pingDue := start + nextMultiple options.keepAlive n }
    (start + n) r [true] settled nextId

/-- A session with a limit that has kept to its timetable for `n` milliseconds.  At the limit it is
closed. -/
inductive KeepsTime (options : Options) (start limit : Nat) (sends : List (Nat × Json)) (n : Nat) :
    Timeline → Prop
  | waiting {r : Recorder} (hearly : n < limit) (hr : r.IsPerfect)
      (houtput : r.output =
        textOf ([.ping, .opened] ++ timetable options.keepAlive sends (n + 1))) :
      KeepsTime options start limit sends n
        (running options start limit n r (receipts limit sends) sends.length)
  | closed {r : Recorder} {w : Writer} (hlate : limit ≤ n) (hr : r.IsPerfect)
      (hdone : w.phase = .done (.ended .timedOut))
      (houtput : r.output = textOf ([.ping, .opened] ++ timetable options.keepAlive sends limit ++
        [.timeout, .eof, .closed])) :
      KeepsTime options start limit sends n
        (calm w (start + n) r [true] (receipts limit sends) sends.length)

/-- Whether the clock counts to the first sign of life behind a moment, or behind the limit. -/
def ClockLasts (options : Options) (start limit n : Nat) : Prop :=
  Clock.reaches (start + nextMultiple options.keepAlive (min limit n)) = true

theorem ClockLasts.of_le {options : Options} {start limit n m : Nat} (hle : n ≤ m)
    (h : ClockLasts options start limit m) : ClockLasts options start limit n :=
  Clock.reaches_of_le (Nat.add_le_add_left (nextMultiple_mono (by omega)) start) h

theorem wakeTime?_running {options : Options} {start limit n : Nat} {r : Recorder}
    {settled : List (Nat × Bool)} {nextId : Nat} :
    (running options start limit n r settled nextId).wakeTime? =
      some (min (start + limit) (start + nextMultiple options.keepAlive n)) := rfl

theorem wakeTime?_of_done {t : Timeline} {result : Result} (h : t.writer.phase = .done result) :
    t.wakeTime? = none := by
  rw [wakeTime?, h]

section

/-- At its limit a running session is closed, even if a sign of life is due as well. -/
theorem settle_running_limit {limit : Nat} {r : Recorder} (options : Options) (start n : Nat)
    (settled : List (Nat × Bool)) (nextId : Nat) (hr : r.IsPerfect) :
    ∃ w : Writer, w.phase = .done (.ended .timedOut) ∧
      ({ running options start limit n r settled nextId with now := start + limit } : Timeline).settle =
        calm w (start + limit)
          (((r.record (start + limit) [.timeout]).record (start + limit) [.eof]).record
            (start + limit) [.closed]) [true] settled nextId :=
  ⟨_, rfl, settle_deadline rfl rfl hr (Nat.le_refl _)⟩

/-- When its publisher goes away a running session is closed. -/
theorem settle_running_drop {limit n : Nat} {r : Recorder} (options : Options) (start : Nat)
    (settled : List (Nat × Bool)) (nextId : Nat) (hr : r.IsPerfect) (hearly : n < limit) :
    ∃ w : Writer, w.phase = .done (.ended .drained) ∧
      ((running options start limit n r settled nextId).drop 0).settle =
        calm w (start + n) ((r.record (start + n) [.eof]).record (start + n) [.closed]) [false]
          settled nextId :=
  ⟨_, rfl, settle_drop rfl rfl hr (Nat.add_lt_add_left hearly start) rfl⟩

variable {options : Options} {start limit : Nat} {r : Recorder} {settled : List (Nat × Bool)}
  {nextId : Nat} (hperiod : 0 < options.keepAlive)

include hperiod

/-- A running session waits until something is due. -/
theorem settle_running {n m : Nat} (hr : r.IsPerfect) (hle : n ≤ m) (hearly : m < limit)
    (hwaits : m < nextMultiple options.keepAlive n) :
    ({ running options start limit n r settled nextId with now := start + m } : Timeline).settle =
      running options start limit m r settled nextId := by
  have hdue := nextMultiple_eq_of_div (div_eq_of_lt_nextMultiple hperiod hle hwaits)
  rw [running, running, hdue]
  exact settle_calm rfl rfl hr rfl (Nat.add_lt_add_left hearly start)
    (Nat.add_lt_add_left hwaits start)

/-- A running session sends a sign of life when it is due. -/
theorem settle_running_ping {n : Nat} (hr : r.IsPerfect)
    (hearly : nextMultiple options.keepAlive n < limit)
    (hlasts : ClockLasts options start limit (nextMultiple options.keepAlive n)) :
    ({ running options start limit n r settled nextId with
      now := start + nextMultiple options.keepAlive n } : Timeline).settle =
      running options start limit (nextMultiple options.keepAlive n)
        (r.record (start + nextMultiple options.keepAlive n) [.ping]) settled nextId := by
  rw [ClockLasts, Nat.min_eq_right hearly.le, nextMultiple_nextMultiple hperiod,
    ← Nat.add_assoc] at hlasts
  rw [running, running, nextMultiple_nextMultiple hperiod, ← Nat.add_assoc]
  exact settle_ping rfl rfl hr rfl (Nat.add_lt_add_left hearly start) rfl hperiod hlasts

/-- A value that is handed over to a running session goes out. -/
theorem settle_running_send {n : Nat} (hr : r.IsPerfect) (hearly : n < limit) (value : Json) :
    ((running options start limit n r settled nextId).sending value).settle =
      running options start limit n (r.record (start + n) [.data value.render])
        (settled ++ [(nextId, true)]) (nextId + 1) :=
  settle_send rfl rfl hr rfl (Nat.add_lt_add_left hearly start)
    (Nat.add_lt_add_left (lt_nextMultiple hperiod n) start) value

end

namespace KeepsTime

variable {options : Options} {start limit n m : Nat} {sends : List (Nat × Json)} {t : Timeline}

theorem now_eq (h : KeepsTime options start limit sends n t) : t.now = start + n := by
  cases h <;> rfl

section

variable (hperiod : 0 < options.keepAlive)

include hperiod

theorem lt_wake (h : KeepsTime options start limit sends n t) {wake : Nat}
    (hwake : t.wakeTime? = some wake) : start + n < wake := by
  cases h with
  | waiting hearly hr houtput =>
      have hnext := lt_nextMultiple hperiod n
      rw [wakeTime?_running, Option.some.injEq] at hwake
      omega
  | closed hlate hr hdone houtput =>
      rw [wakeTime?_of_done hdone] at hwake
      cases hwake

/-- **From one moment to the next** a session keeps to its timetable. -/
theorem jump (h : KeepsTime options start limit sends n t) (hsends : ∀ sent ∈ sends, sent.1 ≤ n)
    (hle : n ≤ m) (hlasts : ClockLasts options start limit m)
    (hwakes : ∀ wake, t.wakeTime? = some wake → start + m ≤ wake) :
    KeepsTime options start limit sends m ({ t with now := start + m } : Timeline).settle := by
  cases h with
  | @waiting r hearly hr houtput =>
      have hwake := hwakes _ wakeTime?_running
      have hdue : m ≤ nextMultiple options.keepAlive n := by omega
      rcases Nat.lt_or_ge m limit with hearly' | hlate
      · rcases Nat.lt_or_ge m (nextMultiple options.keepAlive n) with hwaits | hping
        · have hdiv := div_eq_of_lt_nextMultiple hperiod hle hwaits
          rw [settle_running hperiod hr hle hearly' hwaits]
          apply KeepsTime.waiting hearly' hr
          rw [houtput, timetable_quiet hle hdiv hsends]
        · obtain rfl : m = nextMultiple options.keepAlive n := Nat.le_antisymm hdue hping
          have hcount : nextMultiple options.keepAlive n / options.keepAlive -
              n / options.keepAlive = 1 := by
            rw [nextMultiple_div hperiod]
            omega
          rw [settle_running_ping hperiod hr hearly' hlasts]
          apply KeepsTime.waiting hearly' (hr.record _ _)
          rw [Recorder.record_output, houtput, ← textOf_append, timetable_pings hle hsends, hcount,
            List.append_assoc]
          rfl
      · obtain rfl : m = limit := by omega
        -- the deadline comes first, even if a sign of life is due
        obtain ⟨last, rfl⟩ : ∃ last, m = last + 1 := ⟨m - 1, by omega⟩
        have hlast : n ≤ last := by omega
        have hdiv := div_eq_of_lt_nextMultiple hperiod hlast hdue
        obtain ⟨w, hdone, hsettle⟩ := settle_running_limit options start n
          (receipts (last + 1) sends) sends.length hr
        rw [hsettle]
        apply KeepsTime.closed (Nat.le_refl _) (((hr.record _ _).record _ _).record _ _) hdone
        rw [Recorder.record_output, Recorder.record_output, Recorder.record_output, houtput,
          timetable_quiet hlast hdiv hsends]
        simp only [← textOf_append, List.append_assoc, List.cons_append, List.nil_append]
  | @closed r w hlate hr hdone houtput =>
      show KeepsTime options start limit sends m
        (calm w (start + m) r [true] (receipts limit sends) sends.length).settle
      rw [settle_of_done hdone]
      exact .closed (Nat.le_trans hlate hle) hr hdone houtput

/-- **While time passes** a session keeps to its timetable. -/
theorem passTime (h : KeepsTime options start limit sends n t)
    (hsends : ∀ sent ∈ sends, sent.1 ≤ n) (hle : n ≤ m) (hlasts : ClockLasts options start limit m)
    {fuel : Nat} (hfuel : m - n ≤ fuel) :
    KeepsTime options start limit sends m (Timeline.passTime (start + m) fuel t) := by
  induction fuel generalizing n t with
  | zero =>
      obtain rfl : n = m := by omega
      exact h.jump hperiod hsends hle hlasts fun wake hwake => (h.lt_wake hperiod hwake).le
  | succ fuel ih =>
      by_cases hdue : ∃ wake, t.wakeTime? = some wake ∧ wake ≤ start + m
      · obtain ⟨wake, hwake, hwakeLe⟩ := hdue
        have hlater := h.lt_wake hperiod hwake
        obtain ⟨next, rfl⟩ : ∃ next, wake = start + next := ⟨wake - start, by omega⟩
        have hnext : KeepsTime options start limit sends next
            ({ t with now := start + next } : Timeline).settle := by
          apply h.jump hperiod hsends (by omega) (hlasts.of_le (by omega))
          intro other hother
          rw [hwake, Option.some.injEq] at hother
          exact hother.le
        rw [passTime_wake hwake (by rw [h.now_eq]; exact hlater) hwakeLe]
        apply ih hnext _ (by omega) (by omega)
        intro sent hmem
        have := hsends sent hmem
        omega
      · have hsleeps : ∀ wake, t.wakeTime? = some wake → start + m < wake := by
          intro wake hwake
          exact Nat.not_le.mp fun hwakeLe => hdue ⟨wake, hwake, hwakeLe⟩
        rw [passTime_sleep hsleeps]
        exact h.jump hperiod hsends hle hlasts fun wake hwake => (hsleeps wake hwake).le

/-- **Waiting** keeps to the timetable. -/
theorem wait (h : KeepsTime options start limit sends n t)
    (hsends : ∀ sent ∈ sends, sent.1 ≤ n) (hle : n ≤ m)
    (hlasts : ClockLasts options start limit m) :
    KeepsTime options start limit sends m (t.wait (start + m - t.now)) := by
  have hsettled : KeepsTime options start limit sends n t.settle := by
    have hsame : ({ t with now := start + n } : Timeline) = t := by
      rw [← h.now_eq]
    rw [← hsame]
    exact h.jump hperiod hsends (Nat.le_refl n) (hlasts.of_le hle)
      fun wake hwake => (h.lt_wake hperiod hwake).le
  have htarget : t.now + (start + m - t.now) = start + m := by
    rw [h.now_eq]
    omega
  have hfuel : m - n ≤ start + m - t.now := by
    rw [h.now_eq]
    omega
  rw [Timeline.wait, htarget]
  exact hsettled.passTime hperiod hsends hle hlasts hfuel

/-- **A value that is handed over** goes out at once, or is turned away when the session is over. -/
theorem send (h : KeepsTime options start limit sends n t) (value : Json) :
    KeepsTime options start limit (sends ++ [(n, value)]) n
      ((t.send? 0 (.value value)).getD t).settle := by
  have hlength : sends.length + 1 = (sends ++ [(n, value)]).length := by
    rw [List.length_append, List.length_singleton]
  cases h with
  | @waiting r hearly hr houtput =>
      have hreceipts := receipts_concat limit sends (n, value)
      rw [decide_eq_true hearly] at hreceipts
      show KeepsTime options start limit (sends ++ [(n, value)]) n
        ((running options start limit n r (receipts limit sends) sends.length).sending value).settle
      rw [settle_running_send hperiod hr hearly value, ← hreceipts, hlength]
      apply KeepsTime.waiting hearly (hr.record _ _)
      rw [Recorder.record_output, houtput, ← textOf_append, timetable_send, List.append_assoc]
  | @closed r w hlate hr hdone houtput =>
      have hreceipts := receipts_concat limit sends (n, value)
      rw [decide_eq_false (Nat.not_lt.mpr hlate)] at hreceipts
      show KeepsTime options start limit (sends ++ [(n, value)]) n
        ((calm w (start + n) r [true] (receipts limit sends) sends.length).sending value).settle
      rw [settle_send_of_done hdone value, ← hreceipts, hlength]
      apply KeepsTime.closed hlate hr hdone
      rw [houtput, timetable_late hlate]

end

end KeepsTime

/-! ## A whole session -/

/-- A session that begins. -/
def beginning (options : Options) (start : Nat) : Timeline where
  now := start
  writer := { options }
  sink := .recorder {}

/-- A session opens its stream, and waits. -/
theorem keepsTime_beginning {options : Options} {start limit : Nat} (hperiod : 0 < options.keepAlive)
    (hlimit : 0 < limit) (htimer : Clock.timer start start options.timeout = start + limit)
    (hlasts : ClockLasts options start limit 0) :
    KeepsTime options start limit [] 0 (beginning options start).settle := by
  have hnew : ({} : Recorder).IsPerfect := ⟨rfl, rfl, rfl, rfl, rfl⟩
  have hdue : nextMultiple options.keepAlive 0 = options.keepAlive := nextMultiple_zero
  rw [ClockLasts, Nat.min_zero, hdue] at hlasts
  have hproceed : ∀ s : Situation, s.now = start →
      ({ options, phase := .flushing .opened } : Writer).proceed s true .opened =
        ({ options, phase := .waiting, deadline := start + limit,
           pingDue := start + nextMultiple options.keepAlive 0 }, []) := by
    intro s hnow
    simp [Writer.proceed, Writer.setClocks, hnow, hlasts, hperiod.ne', htimer, hdue]
  have hrun : runWriter ([Frame.ping, .opened].length + 2)
      ((calm { options } start {} [true] [] 0).writing [.ping, .opened] .opened) =
      running options start limit 0 (({} : Recorder).record start [.ping, .opened]) [] 0 :=
    runWriter_calm (w := { options }) hnew rfl hproceed
  have hrest : (running options start limit 0 (({} : Recorder).record start [.ping, .opened])
      [] 0).stepWriter? = none := by
    apply step_none ⟨rfl, rfl, rfl, rfl, hnew.record _ _⟩ (Nat.add_lt_add_left hlimit start) rfl
    exact Nat.add_lt_add_left (lt_nextMultiple hperiod 0) start
  have hbegin : beginning options start =
      (calm { options } start {} [true] [] 0).writing [.ping, .opened] .opened := rfl
  rw [hbegin, settle_of_run hrun hrest runProducers_calm (by decide)]
  apply KeepsTime.waiting hlimit (hnew.record _ _)
  simp [timetable, framesAt]

/-- A publisher hands a value over at some moment. -/
def sendAt (start : Nat) (t : Timeline) (sent : Nat × Json) : Timeline :=
  let t := t.wait (start + sent.1 - t.now)
  ((t.send? 0 (.value sent.2)).getD t).settle

/-- A session whose publisher hands some values over, each at its moment, and then goes away.
Moments are counted from the opening. -/
def play (options : Options) (start : Nat) (sends : List (Nat × Json)) (stop : Nat) : Timeline :=
  let t := sends.foldl (sendAt start) (beginning options start).settle
  ((t.wait (start + stop - t.now)).drop 0).settle

section

variable {options : Options} {start limit : Nat} (hperiod : 0 < options.keepAlive)

include hperiod

/-- **With each value** a session keeps to its timetable. -/
theorem KeepsTime.sendAt {n : Nat} {sends : List (Nat × Json)} {t : Timeline} {sent : Nat × Json}
    (h : KeepsTime options start limit sends n t) (hsends : ∀ sent ∈ sends, sent.1 ≤ n)
    (hle : n ≤ sent.1) (hlasts : ClockLasts options start limit sent.1) :
    KeepsTime options start limit (sends ++ [sent]) sent.1 (Timeline.sendAt start t sent) :=
  (h.wait hperiod hsends hle hlasts).send hperiod sent.2

/-- **With all values** a session keeps to its timetable. -/
theorem KeepsTime.foldl_sendAt {last n : Nat} {earlier sends : List (Nat × Json)} {t : Timeline}
    (h : KeepsTime options start limit earlier n t) (hearlier : ∀ sent ∈ earlier, sent.1 ≤ n)
    (hsorted : sends.Pairwise fun sent later => sent.1 ≤ later.1)
    (hfrom : ∀ sent ∈ sends, n ≤ sent.1) (hto : ∀ sent ∈ sends, sent.1 ≤ last) (hle : n ≤ last)
    (hlasts : ClockLasts options start limit last) :
    ∃ m ≤ last, (∀ sent ∈ earlier ++ sends, sent.1 ≤ m) ∧
      KeepsTime options start limit (earlier ++ sends) m
        (sends.foldl (Timeline.sendAt start) t) := by
  induction sends generalizing earlier n t with
  | nil =>
      rw [List.append_nil]
      exact ⟨n, hle, hearlier, h⟩
  | cons sent sends ih =>
      rw [List.pairwise_cons] at hsorted
      rw [List.forall_mem_cons] at hfrom hto
      have hnext := h.sendAt hperiod hearlier hfrom.1 (hlasts.of_le hto.1)
      have hbefore : ∀ other ∈ earlier ++ [sent], other.1 ≤ sent.1 := by
        intro other hmem
        rcases List.mem_append.mp hmem with hmem | hmem
        · exact Nat.le_trans (hearlier other hmem) hfrom.1
        · rw [List.mem_singleton.mp hmem]
      have hrest := ih hnext hbefore hsorted.2 hsorted.1 hto.2 hto.1
      rwa [List.append_assoc] at hrest

end

/-- What a session puts out whose publisher goes away at some moment. -/
def transcript (period limit : Nat) (sends : List (Nat × Json)) (stop : Nat) : List Frame :=
  [.ping, .opened] ++ timetable period sends (min limit stop) ++
    (if limit < stop then [.timeout] else []) ++ [.eof, .closed]

/-- How a session ends whose publisher goes away at some moment. -/
def outcome (limit stop : Nat) : End :=
  if limit < stop then .timedOut else .drained

/-- **When its publisher goes away** between two signs of life, a session that has kept to its timetable
is closed, unless it is over by then. -/
theorem KeepsTime.drop {options : Options} {start limit stop : Nat} {sends : List (Nat × Json)}
    {t : Timeline} (h : KeepsTime options start limit sends stop t)
    (hbefore : ∀ sent ∈ sends, sent.1 < stop) (hquiet : ¬ options.keepAlive ∣ stop)
    (hne : limit ≠ stop) :
    (t.drop 0).settle.sink.takeOutput.1 =
        textOf (transcript options.keepAlive limit sends stop) ∧
      (t.drop 0).settle.writer.result? = some (.ended (outcome limit stop)) ∧
      (t.drop 0).settle.settled = receipts (min limit stop) sends := by
  rw [receipts_min hbefore, transcript, outcome]
  cases h with
  | @waiting r hearly hr houtput =>
      obtain ⟨w, hdone, hsettle⟩ := settle_running_drop options start (receipts limit sends)
        sends.length hr hearly
      have hframes : framesAt options.keepAlive sends stop = [] := by
        rw [framesAt_of_no_value fun sent hmem => (hbefore sent hmem).ne,
          if_neg fun hboth => hquiet hboth.2]
      rw [timetable_succ, hframes, List.append_nil] at houtput
      rw [hsettle, Nat.min_eq_right hearly.le, if_neg (Nat.not_lt.mpr hearly.le),
        if_neg (Nat.not_lt.mpr hearly.le)]
      refine ⟨?_, ?_, rfl⟩
      · show r.output ++ textOf [.eof] ++ textOf [.closed] = _
        rw [houtput, ← textOf_append, ← textOf_append]
        simp
      · rw [calm, Writer.result?, hdone]
  | @closed r w hlate hr hdone houtput =>
      have hover : limit < stop := by omega
      have hsettle : ((calm w (start + stop) r [true] (receipts limit sends) sends.length).drop
          0).settle = calm w (start + stop) r [false] (receipts limit sends) sends.length :=
        settle_of_done hdone
      rw [hsettle, Nat.min_eq_left hlate, if_pos hover, if_pos hover]
      refine ⟨?_, ?_, rfl⟩
      · show r.output = _
        rw [houtput]
        simp
      · rw [calm, Writer.result?, hdone]

/-- A timer for the deadline goes off at the deadline, or so late that it makes no difference. -/
theorem exists_limit {options : Options} {start stop : Nat} (hperiod : 0 < options.keepAlive)
    (htimeout : 0 < options.timeout) (hne : stop ≠ options.timeout)
    (hlasts : ClockLasts options start options.timeout stop)
    (hnear : Clock.reaches (start + options.timeout) = true ∨ stop < Clock.farFuture) :
    ∃ limit, 0 < limit ∧ Clock.timer start start options.timeout = start + limit ∧
      min limit stop = min options.timeout stop ∧ (limit < stop ↔ options.timeout < stop) ∧
      limit ≠ stop := by
  cases hreaches : Clock.reaches (start + options.timeout) with
  | true =>
      refine ⟨options.timeout, htimeout, ?_, rfl, Iff.rfl, hne.symm⟩
      rw [Clock.timer, if_pos hreaches]
  | false =>
      have hstop : stop < Clock.farFuture := hnear.resolve_left (by simp [hreaches])
      have hshort : stop < options.timeout := by
        by_contra hlong
        rw [ClockLasts, Nat.min_eq_left (Nat.le_of_not_lt hlong)] at hlasts
        have hnext := lt_nextMultiple hperiod options.timeout
        rw [Clock.reaches_of_le (Nat.add_le_add_left hnext.le start) hlasts] at hreaches
        cases hreaches
      refine ⟨Clock.farFuture, by decide, ?_, by omega, by omega, by omega⟩
      rw [Clock.timer, hreaches]
      rfl

/-- **A session writes exactly what its timetable says.** -/
theorem play_timetable {options : Options} {start stop : Nat} {sends : List (Nat × Json)}
    (hperiod : 0 < options.keepAlive) (htimeout : 0 < options.timeout)
    (hsorted : sends.Pairwise fun sent later => sent.1 ≤ later.1)
    (hbefore : ∀ sent ∈ sends, sent.1 < stop)
    (hquiet : ¬ options.keepAlive ∣ stop) (hne : stop ≠ options.timeout)
    (hlasts : ClockLasts options start options.timeout stop)
    (hnear : Clock.reaches (start + options.timeout) = true ∨ stop < Clock.farFuture) :
    (play options start sends stop).sink.takeOutput.1 =
        textOf (transcript options.keepAlive options.timeout sends stop) ∧
      (play options start sends stop).writer.result? =
        some (.ended (outcome options.timeout stop)) ∧
      (play options start sends stop).settled = receipts (min options.timeout stop) sends := by
  obtain ⟨limit, hlimit, htimer, hmin, hlater, hdiffer⟩ :=
    exists_limit hperiod htimeout hne hlasts hnear
  have hlasts' : ClockLasts options start limit stop := by
    rw [ClockLasts, hmin]
    exact hlasts
  have hopen := keepsTime_beginning hperiod hlimit htimer (hlasts'.of_le (Nat.zero_le stop))
  obtain ⟨n, hn, hsent, hkept⟩ := hopen.foldl_sendAt hperiod (by simp) hsorted (by simp)
    (fun sent hmem => (hbefore sent hmem).le) (Nat.zero_le stop) hlasts'
  have hend := (hkept.wait hperiod hsent hn hlasts').drop hbefore hquiet hdiffer
  have htranscript : transcript options.keepAlive limit sends stop =
      transcript options.keepAlive options.timeout sends stop := by
    simp only [transcript, hmin, hlater]
  have houtcome : outcome limit stop = outcome options.timeout stop := by
    simp only [outcome, hlater]
  rw [List.nil_append, htranscript, houtcome, hmin] at hend
  exact hend

/-- The last sign of life and the deadline are due together: only the deadline is announced. -/
theorem play_timetable_tick_at_deadline :
    transcript 10 30 [(3, .bool true), (25, .null), (35, .null)] 41 =
        [.ping, .opened, .data (Json.bool true).render, .ping, .ping, .data Json.null.render,
          .timeout, .eof, .closed] ∧
      (play ⟨10, 30⟩ 5 [(3, .bool true), (25, .null), (35, .null)] 41).sink.takeOutput.1 =
        textOf (transcript 10 30 [(3, .bool true), (25, .null), (35, .null)] 41) ∧
      (play ⟨10, 30⟩ 5 [(3, .bool true), (25, .null), (35, .null)] 41).writer.result? =
        some (.ended .timedOut) ∧
      (play ⟨10, 30⟩ 5 [(3, .bool true), (25, .null), (35, .null)] 41).settled =
        [(0, true), (1, true), (2, false)] :=
  ⟨by decide,
    play_timetable (by decide) (by decide) (by simp) (by simp) (by decide) (by decide) rfl (.inl rfl)⟩

/-- With a period that the clock cannot count, a session breaks down when it has opened its stream. -/
theorem play_breaks_down :
    ¬ 9223372036854775808000 ∣ 1 ∧ 1 ≠ 9223372036854775809000 ∧
      (play ⟨9223372036854775808000, 9223372036854775809000⟩ 0 [] 1).writer.result? =
        some (.broken "overflow when adding duration to instant") ∧
      (play ⟨9223372036854775808000, 9223372036854775809000⟩ 0 [] 1).writer.result? ≠
        some (.ended (outcome 9223372036854775809000 1)) ∧
      (play ⟨9223372036854775808000, 9223372036854775809000⟩ 0 [] 1).sink.takeOutput.1 ≠
        textOf (transcript 9223372036854775808000 9223372036854775809000 [] 1) :=
  ⟨by decide, by decide, by decide, by decide, by decide⟩

end Timeline

end Session

end ServiceHost
