/-!
# The clock

Moments are milliseconds of a clock that runs since before the host started.  The clock counts its
seconds in 63 bits, and who computes a moment behind its last second breaks down.  Only timers are
more careful: one that is set to such a moment goes off in the far future.
-/

namespace ServiceHost.Clock

/-- The first second that the clock cannot count to. -/
def range : Nat := 0x8000000000000000

/-- Whether the clock counts to a moment. -/
def reaches (moment : Nat) : Bool := moment / 1000 < range

/-- What counts as far away: thirty years. -/
def farFuture : Nat := 30 * 365 * 24 * 3600 * 1000

/-- When a timer goes off that is set now, to some time behind a moment. -/
def timer (now moment span : Nat) : Nat :=
  if reaches (moment + span) then moment + span else now + farFuture

end ServiceHost.Clock
