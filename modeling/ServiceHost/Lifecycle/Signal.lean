/-!
# The shutdown signal

A root can be triggered once and for all, and every subscriber sees it.  The root has clones, and
subscriptions have clones as well.  A subscriber waits for ever when all roots are gone and none
was triggered.
-/

namespace ServiceHost

/-- A root with its clones and subscriptions. -/
structure ShutdownRoot where
  triggered : Bool := false
  /-- How many clones of the root there are. -/
  roots : Nat := 1
  /-- The subscriptions, and whether each is still there; nothing for one that had no root. -/
  signals : List (Option Bool) := []
  deriving DecidableEq, Repr

namespace ShutdownRoot

/-- Whether a root is left. -/
def hasRoot (root : ShutdownRoot) : Bool :=
  root.roots != 0

/-- Whether there is a subscription of this number. -/
def hasSignal (root : ShutdownRoot) (i : Nat) : Bool :=
  root.signals[i]? == some (some true)

/-- Subscribe; without a root there is nothing to subscribe to. -/
def subscribe (root : ShutdownRoot) : ShutdownRoot :=
  { root with signals := root.signals ++ [if root.hasRoot then some true else none] }

/-- One more subscription like one that is there. -/
def cloneSignal (root : ShutdownRoot) (i : Nat) : ShutdownRoot :=
  if root.hasSignal i then { root with signals := root.signals ++ [some true] } else root

/-- One more root. -/
def cloneRoot (root : ShutdownRoot) : ShutdownRoot :=
  if root.hasRoot then { root with roots := root.roots + 1 } else root

/-- Trigger the root, if there is one. -/
def trigger (root : ShutdownRoot) : ShutdownRoot :=
  { root with triggered := root.triggered || root.hasRoot }

/-- A subscription goes away. -/
def dropSignal (root : ShutdownRoot) (i : Nat) : ShutdownRoot :=
  { root with signals := root.signals.set i (some false) }

/-- A root goes away. -/
def dropRoot (root : ShutdownRoot) : ShutdownRoot :=
  { root with roots := root.roots - 1 }

/-- The number of subscriptions. -/
def receivers (root : ShutdownRoot) : Nat :=
  root.signals.count (some true)

end ShutdownRoot

end ServiceHost
