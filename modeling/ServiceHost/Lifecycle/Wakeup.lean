/-!
# Waking up

A stop group is waited for without a lock: a guard counts down and then notifies whoever waits,
and a waiter registers for the next notification, reads the counter, and only then sleeps.  Each
of these is one move here, and the moves of all guards and waiters come in any order, whichever copy
of the group they were made through.

A notification reaches every waiter that was registered before it, asleep or not.
-/

namespace ServiceHost

/-- A guard of a group. -/
inductive GuardState where
  | held
  /-- It was the last to count down and has not notified anybody so far. -/
  | notifying
  | dropped
  deriving DecidableEq, Repr

/-- Somebody who waits for a group. -/
inductive WaiterState where
  | starting
  /-- It is registered and has not read the counter since. -/
  | registered (isNotified : Bool)
  /-- It has read that guards are held and is about to sleep. -/
  | refused (isNotified : Bool)
  /-- It sleeps until it is notified. -/
  | asleep (isNotified : Bool)
  | returned
  /-- It was given up while it slept. -/
  | gone
  deriving DecidableEq, Repr

/-- A group with all its guards and waiters. -/
structure WakeupGroup where
  /-- The shared counter. -/
  pending : Nat := 0
  guards : List GuardState := []
  waiters : List WaiterState := []
  deriving DecidableEq, Repr

/-- One move of a guard or a waiter. -/
inductive WakeupMove where
  /-- A new guard is given out. -/
  | guard
  /-- A guard counts down. -/
  | countDown (guard : Nat)
  /-- The guard that was last notifies. -/
  | notify (guard : Nat)
  /-- Somebody new waits. -/
  | wait
  /-- A waiter registers. -/
  | register (waiter : Nat)
  /-- A waiter reads the counter, and returns if nobody holds a guard. -/
  | read (waiter : Nat)
  /-- A waiter goes to sleep, or starts again if it was notified in the meantime. -/
  | park (waiter : Nat)
  /-- A waiter that was notified in its sleep starts again. -/
  | wake (waiter : Nat)
  /-- A sleeping waiter is given up. -/
  | giveUp (waiter : Nat)
  deriving DecidableEq, Repr

/-- A waiter receives a notification. -/
def WaiterState.notified : WaiterState → WaiterState
  | .registered _ => .registered true
  | .refused _ => .refused true
  | .asleep _ => .asleep true
  | waiter => waiter

namespace WakeupGroup

/-- What a move changes; none if it is not possible. -/
def move? (group : WakeupGroup) : WakeupMove → Option WakeupGroup
  | .guard => some { group with pending := group.pending + 1, guards := group.guards ++ [.held] }
  | .countDown i =>
    if group.guards[i]? = some .held then
      let guard : GuardState := if group.pending = 1 then .notifying else .dropped
      some { group with pending := group.pending - 1, guards := group.guards.set i guard }
    else none
  | .notify i =>
    if group.guards[i]? = some .notifying then
      some { group with guards := group.guards.set i .dropped
                        waiters := group.waiters.map (·.notified) }
    else none
  | .wait => some { group with waiters := group.waiters ++ [.starting] }
  | .register i =>
    if group.waiters[i]? = some .starting then
      some { group with waiters := group.waiters.set i (.registered false) }
    else none
  | .read i =>
    match group.waiters[i]? with
    | some (.registered isNotified) =>
      let waiter : WaiterState := if group.pending = 0 then .returned else .refused isNotified
      some { group with waiters := group.waiters.set i waiter }
    | _ => none
  | .park i =>
    match group.waiters[i]? with
    | some (.refused isNotified) =>
      let waiter : WaiterState := if isNotified then .starting else .asleep false
      some { group with waiters := group.waiters.set i waiter }
    | _ => none
  | .wake i =>
    if group.waiters[i]? = some (.asleep true) then
      some { group with waiters := group.waiters.set i .starting }
    else none
  | .giveUp i =>
    match group.waiters[i]? with
    | some (.asleep _) => some { group with waiters := group.waiters.set i .gone }
    | _ => none

/-- Moves one after the other; none if one of them is not possible. -/
def moves? (group : WakeupGroup) (moves : List WakeupMove) : Option WakeupGroup :=
  moves.foldlM move? group

/-- The states that moves lead to. -/
inductive Reachable : WakeupGroup → Prop where
  | start : Reachable {}
  | next {g h : WakeupGroup} (move : WakeupMove) : Reachable g → g.move? move = some h → Reachable h

end WakeupGroup

end ServiceHost
