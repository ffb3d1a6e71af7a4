-- Who hears of which events: sets of hooks, each for some kinds of events,
-- and a producer for each kind and set.
import Checkout.Events

namespace Checkout.Events

/-- The kinds of events that a set of hooks listens to. -/
abbrev Hooks := List EventKind

/-- All sets of hooks together. -/
structure Wiring where
  sets : List Hooks
deriving DecidableEq, Repr

namespace Wiring

/-- How many producers there are for a kind of events: one for each set that listens to it. -/
def producers (w : Wiring) (kind : EventKind) : Nat := w.sets.countP (·.contains kind)

/-- What the hooks hear of an event: each producer publishes it once. -/
def heard (w : Wiring) (event : Event) : List Event :=
  List.replicate (w.producers event.kind) event

/-- What the hooks hear of some events. -/
def heardAll (w : Wiring) (events : List Event) : List Event := events.flatMap w.heard

end Wiring

end Checkout.Events
