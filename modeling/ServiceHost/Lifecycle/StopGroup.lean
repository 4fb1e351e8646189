/-!
# Stop groups

A stop group counts the guards that are held.  Whoever waits for the group is released when no
guard is held.
-/

namespace ServiceHost

/-- The guards that a group has given out, and whether each is still held. -/
structure StopGroup where
  guards : List Bool := []
  deriving DecidableEq, Repr

namespace StopGroup

/-- Give out one more guard. -/
def guard (group : StopGroup) : StopGroup :=
  { guards := group.guards ++ [true] }

/-- Release a guard; a guard that is not held is left alone. -/
def release (group : StopGroup) (i : Nat) : StopGroup :=
  { guards := group.guards.set i false }

/-- The number of guards that are held. -/
def pending (group : StopGroup) : Nat :=
  group.guards.count true

/-- Whether nobody has to wait. -/
def isReady (group : StopGroup) : Bool :=
  group.pending == 0

end StopGroup

end ServiceHost
