import ServiceHost.Lifecycle.Wakeup
import ServiceHost.Proofs.Counting

/-!
# No wakeup is lost

Between the moment when a waiter reads that guards are held and the moment when it sleeps, the last
guard can count down and notify.  It is not missed, since the waiter registered before it read: a
waiter that needs a notification always has a guard that is held or about to notify
(`WakeupGroup.Sound`).  This is kept by every move, although the counter can reach zero several times
while a waiter sleeps.

The main statement is `WakeupGroup.no_wakeup_lost`, about all groups that moves lead to.
-/

namespace ServiceHost

/-- Whether a waiter goes on only when it is notified. -/
def WaiterState.needsNotice : WaiterState → Bool
  | .refused false | .asleep false => true
  | _ => false

theorem WaiterState.needsNotice_notified (waiter : WaiterState) :
    waiter.notified.needsNotice = false := by
  cases waiter <;> rfl

/-- The waiter whose move it is. -/
def WakeupMove.waiter? : WakeupMove → Option Nat
  | .register i | .read i | .park i | .wake i | .giveUp i => some i
  | _ => none

namespace WakeupGroup

variable {g h : WakeupGroup} {i : Nat}

/-! ## What a move does -/

/-- What its own moves make of a waiter. -/
inductive WaiterChange (pending i : Nat) : WakeupMove → WaiterState → WaiterState → Prop
  | register : WaiterChange pending i (.register i) .starting (.registered false)
  | returns {isNotified : Bool} (hzero : pending = 0) :
      WaiterChange pending i (.read i) (.registered isNotified) .returned
  | refused {isNotified : Bool} (hpos : 0 < pending) :
      WaiterChange pending i (.read i) (.registered isNotified) (.refused isNotified)
  | restarts : WaiterChange pending i (.park i) (.refused true) .starting
  | parks : WaiterChange pending i (.park i) (.refused false) (.asleep false)
  | wakes : WaiterChange pending i (.wake i) (.asleep true) .starting
  | givenUp {isNotified : Bool} : WaiterChange pending i (.giveUp i) (.asleep isNotified) .gone

/-- What a move makes of a group. -/
inductive Change (group : WakeupGroup) : WakeupMove → WakeupGroup → Prop
  | guard : Change group .guard
      { group with pending := group.pending + 1, guards := group.guards ++ [.held] }
  | countDown {i : Nat} (hheld : group.guards[i]? = some .held) : Change group (.countDown i)
      { group with
          pending := group.pending - 1
          guards := group.guards.set i (if group.pending = 1 then .notifying else .dropped) }
  | notify {i : Nat} (hnotifying : group.guards[i]? = some .notifying) : Change group (.notify i)
      { group with
          guards := group.guards.set i .dropped
          waiters := group.waiters.map (·.notified) }
  | wait : Change group .wait { group with waiters := group.waiters ++ [.starting] }
  | waiter {i : Nat} {move : WakeupMove} {before after : WaiterState}
      (hbefore : group.waiters[i]? = some before)
      (hchange : WaiterChange group.pending i move before after) :
      Change group move { group with waiters := group.waiters.set i after }

theorem change_of_move {move : WakeupMove} (hmove : g.move? move = some h) : g.Change move h := by
  cases move with
  | guard =>
      obtain rfl := Option.some.inj hmove
      exact .guard
  | countDown i =>
      obtain ⟨hheld, hmove⟩ := Option.ite_none_right_eq_some.mp hmove
      obtain rfl := Option.some.inj hmove
      exact .countDown hheld
  | notify i =>
      obtain ⟨hnotifying, hmove⟩ := Option.ite_none_right_eq_some.mp hmove
      obtain rfl := Option.some.inj hmove
      exact .notify hnotifying
  | wait =>
      obtain rfl := Option.some.inj hmove
      exact .wait
  | register i =>
      obtain ⟨hstarting, hmove⟩ := Option.ite_none_right_eq_some.mp hmove
      obtain rfl := Option.some.inj hmove
      exact .waiter hstarting .register
  | read i =>
      simp only [move?] at hmove
      split at hmove
      · rename_i isNotified hregistered
        obtain rfl := Option.some.inj hmove
        by_cases hzero : g.pending = 0
        · rw [if_pos hzero]
          exact .waiter hregistered (.returns hzero)
        · rw [if_neg hzero]
          exact .waiter hregistered (.refused (Nat.pos_of_ne_zero hzero))
      · exact absurd hmove (by simp)
  | park i =>
      simp only [move?] at hmove
      split at hmove
      · rename_i isNotified hrefused
        obtain rfl := Option.some.inj hmove
        cases isNotified with
        | true => exact .waiter hrefused .restarts
        | false => exact .waiter hrefused .parks
      · exact absurd hmove (by simp)
  | wake i =>
      obtain ⟨hasleep, hmove⟩ := Option.ite_none_right_eq_some.mp hmove
      obtain rfl := Option.some.inj hmove
      exact .waiter hasleep .wakes
  | giveUp i =>
      simp only [move?] at hmove
      split at hmove
      · rename_i isNotified hasleep
        obtain rfl := Option.some.inj hmove
        exact .waiter hasleep .givenUp
      · exact absurd hmove (by simp)

/-! ## What every move keeps -/

/-- What holds of a group at every moment. -/
structure Sound (group : WakeupGroup) : Prop where
  counts : group.pending = group.guards.count .held
  notice : ∀ waiter ∈ group.waiters, waiter.needsNotice = true →
    0 < group.pending ∨ .notifying ∈ group.guards

theorem Sound.start : ({} : WakeupGroup).Sound where
  counts := rfl
  notice := by simp

/-- Whoever counts down was counted. -/
theorem Sound.pending_pos (hsound : g.Sound) (hheld : g.guards[i]? = some .held) :
    0 < g.pending := by
  rw [hsound.counts]
  exact List.count_pos_iff.mpr (List.mem_of_getElem? hheld)

theorem Sound.countDown (hsound : g.Sound) (hheld : g.guards[i]? = some .held) :
    ({ g with
        pending := g.pending - 1
        guards := g.guards.set i (if g.pending = 1 then .notifying else .dropped) } :
      WakeupGroup).Sound where
  counts := by
    have hpos := hsound.pending_pos hheld
    have hcounts : g.pending = g.guards.countP (· == .held) := hsound.counts
    have hbalance := countP_set_add (b := if g.pending = 1 then .notifying else .dropped)
      (· == GuardState.held) hheld
    have hother : ((if g.pending = 1 then GuardState.notifying else .dropped) == .held) = false := by
      split <;> rfl
    rw [hother, beq_self_eq_true, if_pos rfl, if_neg Bool.false_ne_true] at hbalance
    show g.pending - 1 = List.countP (· == GuardState.held) (g.guards.set i _)
    omega
  notice _ _ _ := by
    have hpos := hsound.pending_pos hheld
    by_cases hlast : g.pending = 1
    · right
      simp only [if_pos hlast]
      exact List.mem_of_getElem? (getElem?_set_of_some hheld)
    · left
      show 0 < g.pending - 1
      omega

/-- Nobody needs a notification any more when one was given. -/
theorem Sound.notify (hsound : g.Sound) (hnotifying : g.guards[i]? = some .notifying) :
    ({ g with
        guards := g.guards.set i .dropped
        waiters := g.waiters.map (·.notified) } : WakeupGroup).Sound where
  counts := by
    have hbalance := countP_set_add (b := .dropped) (· == GuardState.held) hnotifying
    exact hsound.counts.trans hbalance.symm
  notice waiter hmem hneeds := by
    obtain ⟨before, -, rfl⟩ := List.mem_map.mp hmem
    rw [before.needsNotice_notified] at hneeds
    exact absurd hneeds Bool.false_ne_true

/-- A waiter that comes to need a notification has just read that guards are held, or needed one
before. -/
theorem WaiterChange.needsNotice {pending : Nat} {move : WakeupMove} {before after : WaiterState}
    (hchange : WaiterChange pending i move before after) (hneeds : after.needsNotice = true) :
    0 < pending ∨ before.needsNotice = true := by
  cases hchange with
  | refused hpos => exact Or.inl hpos
  | parks => exact Or.inr rfl
  | _ => exact absurd hneeds Bool.false_ne_true

/-- **Every move keeps what holds of a group.** -/
theorem Sound.change (hsound : g.Sound) {move : WakeupMove} (hchange : g.Change move h) :
    h.Sound := by
  cases hchange with
  | guard =>
      exact ⟨by simp [hsound.counts], fun _ _ _ => Or.inl (Nat.succ_pos g.pending)⟩
  | countDown hheld => exact hsound.countDown hheld
  | notify hnotifying => exact hsound.notify hnotifying
  | wait =>
      refine ⟨hsound.counts, fun waiter hmem hneeds => ?_⟩
      rcases List.mem_append.mp hmem with hbefore | hnew
      · exact hsound.notice waiter hbefore hneeds
      · rw [List.mem_singleton.mp hnew] at hneeds
        exact absurd hneeds Bool.false_ne_true
  | waiter hbefore hchange =>
      refine ⟨hsound.counts, fun waiter hmem hneeds => ?_⟩
      rcases List.mem_or_eq_of_mem_set hmem with hother | rfl
      · exact hsound.notice waiter hother hneeds
      · rcases hchange.needsNotice hneeds with hpos | hneeded
        · exact Or.inl hpos
        · exact hsound.notice _ (List.mem_of_getElem? hbefore) hneeded

theorem Reachable.sound (hreach : g.Reachable) : g.Sound := by
  induction hreach with
  | start => exact Sound.start
  | next move _ hmove ih => exact ih.change (change_of_move hmove)

theorem Reachable.moves {moves : List WakeupMove} (hreach : g.Reachable)
    (hmoves : g.moves? moves = some h) : h.Reachable := by
  induction moves generalizing g with
  | nil =>
      obtain rfl := Option.some.inj hmoves
      exact hreach
  | cons move rest ih =>
      obtain ⟨next, hnext, hrest⟩ := Option.bind_eq_some_iff.mp hmoves
      exact ih (.next move hreach hnext) hrest

/-! ## Who returns -/

/-- A waiter returns by reading that nobody holds a guard, and in no other way. -/
theorem returned_of_change {move : WakeupMove} (hchange : g.Change move h)
    (hreturned : h.waiters[i]? = some .returned) :
    g.waiters[i]? = some .returned ∨ (move = .read i ∧ g.pending = 0) := by
  cases hchange with
  | guard => exact Or.inl hreturned
  | countDown hheld => exact Or.inl hreturned
  | notify hnotifying =>
      rw [List.getElem?_map] at hreturned
      obtain ⟨before, hbefore, hnotified⟩ := Option.map_eq_some_iff.mp hreturned
      left
      cases before with
      | returned => exact hbefore
      | _ => exact absurd hnotified (by simp [WaiterState.notified])
  | wait =>
      left
      rw [List.getElem?_append] at hreturned
      split at hreturned
      · exact hreturned
      · exact absurd (List.mem_singleton.mp (List.mem_of_getElem? hreturned)) (by simp)
  | waiter hbefore hchange =>
      rcases getElem?_set_cases hreturned with ⟨rfl, hafter⟩ | hother
      · cases hchange with
        | returns hzero => exact Or.inr ⟨rfl, hzero⟩
        | _ => exact absurd hafter (by simp)
      · exact Or.inl hother

/-- Whether a waiter can return by moves of its own. -/
def CanReturn (group : WakeupGroup) (i : Nat) : Prop :=
  ∃ moves last, (∀ move ∈ moves, move.waiter? = some i) ∧ group.moves? moves = some last ∧
    last.waiters[i]? = some .returned

theorem canReturn_of_returned (hwaiter : g.waiters[i]? = some .returned) : g.CanReturn i :=
  ⟨[], g, by simp, rfl, hwaiter⟩

theorem CanReturn.cons {move : WakeupMove} (hown : move.waiter? = some i)
    (hmove : g.move? move = some h) (hrest : h.CanReturn i) : g.CanReturn i := by
  obtain ⟨moves, last, howns, hmoves, hreturned⟩ := hrest
  refine ⟨move :: moves, last, ?_, ?_, hreturned⟩
  · simpa [hown] using howns
  · rw [moves?, List.foldlM_cons, hmove]
    exact hmoves

/-- With nobody holding a guard, a waiter returns as soon as it has read the counter. -/
theorem canReturn_of_registered {isNotified : Bool} (hzero : g.pending = 0)
    (hwaiter : g.waiters[i]? = some (.registered isNotified)) : g.CanReturn i := by
  have hread : g.move? (.read i) = some { g with waiters := g.waiters.set i .returned } := by
    simp [move?, hwaiter, hzero]
  exact .cons rfl hread (canReturn_of_returned (getElem?_set_of_some hwaiter))

theorem canReturn_of_starting (hzero : g.pending = 0) (hwaiter : g.waiters[i]? = some .starting) :
    g.CanReturn i := by
  have hregister : g.move? (.register i) =
      some { g with waiters := g.waiters.set i (.registered false) } := by
    simp [move?, hwaiter]
  exact .cons rfl hregister (canReturn_of_registered hzero (getElem?_set_of_some hwaiter))

/-- **Nobody hangs**: where nobody holds a guard and nobody is about to notify, a waiter needs nobody
else to return. -/
theorem Sound.canReturn (hsound : g.Sound) (hquiet : ∀ guard ∈ g.guards, guard = .dropped)
    {waiter : WaiterState} (hwaiter : g.waiters[i]? = some waiter) (hstays : waiter ≠ .gone) :
    g.CanReturn i := by
  have hzero : g.pending = 0 := by
    rw [hsound.counts]
    exact List.count_eq_zero.mpr fun hmem => absurd (hquiet _ hmem) (by simp)
  have hserved : waiter.needsNotice = false := by
    rw [← Bool.not_eq_true]
    intro hneeds
    rcases hsound.notice waiter (List.mem_of_getElem? hwaiter) hneeds with hpos | hnotifying
    · omega
    · exact absurd (hquiet _ hnotifying) (by simp)
  cases waiter with
  | starting => exact canReturn_of_starting hzero hwaiter
  | registered isNotified => exact canReturn_of_registered hzero hwaiter
  | refused isNotified =>
      cases isNotified with
      | false => exact absurd hserved (by simp [WaiterState.needsNotice])
      | true =>
          have hpark : g.move? (.park i) = some { g with waiters := g.waiters.set i .starting } := by
            simp [move?, hwaiter]
          exact .cons rfl hpark (canReturn_of_starting hzero (getElem?_set_of_some hwaiter))
  | asleep isNotified =>
      cases isNotified with
      | false => exact absurd hserved (by simp [WaiterState.needsNotice])
      | true =>
          have hwake : g.move? (.wake i) = some { g with waiters := g.waiters.set i .starting } := by
            simp [move?, hwaiter]
          exact .cons rfl hwake (canReturn_of_starting hzero (getElem?_set_of_some hwaiter))
  | returned => exact canReturn_of_returned hwaiter
  | gone => exact absurd rfl hstays

/-- **No wakeup is lost.**  Whatever moves led to a group: its counter is the number of guards that
are held, and a guard that counts down takes one from it; a waiter returns only by reading zero; and
where nobody holds a guard and nobody is about to notify, no waiter sleeps without having been
notified, and every waiter can return by moves of its own. -/
theorem no_wakeup_lost (hreach : g.Reachable) :
    g.pending = g.guards.count .held ∧
    (∀ i h, g.move? (.countDown i) = some h → g.pending = h.pending + 1) ∧
    (∀ move h i, g.move? move = some h → h.waiters[i]? = some .returned →
      g.waiters[i]? = some .returned ∨ (move = .read i ∧ g.pending = 0)) ∧
    ((∀ guard ∈ g.guards, guard = .dropped) →
      .asleep false ∉ g.waiters ∧
      ∀ i waiter, g.waiters[i]? = some waiter → waiter ≠ .gone → g.CanReturn i) := by
  have hsound := hreach.sound
  refine ⟨hsound.counts, fun i h hmove => ?_, fun move h i hmove => ?_, fun hquiet =>
    ⟨fun hasleep => ?_, fun i waiter => hsound.canReturn hquiet⟩⟩
  · obtain ⟨hheld, hmove⟩ := Option.ite_none_right_eq_some.mp hmove
    have hpos := hsound.pending_pos hheld
    obtain rfl := Option.some.inj hmove
    show g.pending = g.pending - 1 + 1
    omega
  · exact returned_of_change (change_of_move hmove)
  · rcases hsound.notice _ hasleep rfl with hpos | hnotifying
    · rw [hsound.counts] at hpos
      exact absurd (hquiet _ (List.count_pos_iff.mp hpos)) (by simp)
    · exact absurd (hquiet _ hnotifying) (by simp)

/-- A guard is dropped between a waiter's reading and its sleeping, and another one while it sleeps:
the counter reaches zero twice, and the waiter wakes up. -/
def twiceAtZero : List WakeupMove :=
  [.guard, .wait, .register 0, .read 0, .countDown 0, .notify 0, .park 0, .guard, .register 0, .read 0,
   .park 0, .countDown 1, .notify 1]

theorem no_wakeup_lost_twice_at_zero :
    ∃ g, ({} : WakeupGroup).moves? twiceAtZero = some g ∧ (∀ guard ∈ g.guards, guard = .dropped) ∧
      g.waiters = [.asleep true] ∧ g.pending = 0 ∧ .asleep false ∉ g.waiters ∧ g.CanReturn 0 := by
  have hmoves : ({} : WakeupGroup).moves? twiceAtZero =
      some { pending := 0, guards := [.dropped, .dropped], waiters := [.asleep true] } := by
    decide
  have hquiet : ∀ guard ∈ [GuardState.dropped, .dropped], guard = .dropped := by decide
  obtain ⟨hcounts, -, -, hreturn⟩ := no_wakeup_lost (Reachable.start.moves hmoves)
  obtain ⟨hawake, hcan⟩ := hreturn hquiet
  exact ⟨_, hmoves, hquiet, rfl, hcounts, hawake, hcan 0 (.asleep true) rfl (by decide)⟩

end WakeupGroup

end ServiceHost
