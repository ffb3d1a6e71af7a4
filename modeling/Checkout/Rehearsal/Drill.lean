-- Drills of a breaker: steps that follow one another a moment apart, and
-- outages that make every permitted call fail.
import Checkout.Gateway.Breaker.Holding
import Checkout.Gateway.Breaker.Registry

namespace Checkout.Rehearsal

open Gateway (Breaker Instant)

namespace Drill

/-- The time from one step to the next. -/
def pace : Duration := .ofMicroseconds 1

/-- A wait that a pause outlasts, and that no number of plain steps does in a drill. -/
def shortWait : Duration := .ofMilliseconds 20

def pause : Duration := .ofMilliseconds 30

/-- How long a step takes. -/
def length : Breaker.Step → Duration
  | .elapse => pause
  | _ => pace

/-- Steps with their points in time, the first at the time given. -/
def timed (now : Instant) : List Breaker.Step → List (Instant × Breaker.Step)
  | [] => []
  | step :: steps => (now, step) :: timed (now + length step) steps

/-- Takes steps with a breaker. Gives what came of each, and how the breaker stood after it. -/
def run (b : Breaker) (steps : List Breaker.Step) : List (Breaker.Report × Breaker) :=
  (Breaker.Holding.of b).run (timed pace steps)

/-- So many calls that fail, or fewer if one is kept back. -/
def outage (now : Instant) : Nat → Breaker → Breaker
  | 0, b => b
  | calls + 1, b =>
    match b.acquire now with
    | (.ok _, b) => outage now calls (b.record now false)
    | (.error _, b) => b

/-- A visit to a registry: asks for a breaker, and has calls through it fail. -/
structure Visit where
  name : String
  config : Breaker.Config
  failures : Nat
deriving DecidableEq, Repr

/-- Visits a registry. Gives the place of each breaker, and how it stood after its outage. -/
def visits (r : Breaker.Registry) (now : Instant) : List Visit → List (Nat × Breaker)
  | [] => []
  | v :: rest =>
    let (place, r) := r.obtain v.name v.config
    let r := r.modify place (outage now v.failures)
    let later := visits r (now + pace) rest
    match r.breakers[place]? with
    | some b => (place, b) :: later
    | none => later

end Drill

end Checkout.Rehearsal
