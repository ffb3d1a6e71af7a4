-- The circuit breaker. While closed it watches the outcomes of the last
-- calls, and opens once too many of them failed. After a wait it lets a few
-- trial calls through, and their outcomes decide how it goes on.
import Checkout.Gateway.Fault
import Checkout.Number.Binary64

namespace Checkout.Gateway

/-- A reading of a clock that never runs back. -/
abbrev Instant := Duration

namespace Breaker

/-- When a breaker opens, how long it waits, and how many trials it makes. -/
structure Config where
  /-- How many of the last outcomes count. -/
  window : Nat
  /-- How many outcomes there must be before the breaker can open. -/
  minimumCalls : Nat
  /-- The percentage of failures that opens the breaker. -/
  threshold : Binary64
  openWait : Duration
  halfOpenCalls : Nat
deriving DecidableEq, Repr

namespace Config

def default : Config :=
  { window := 10
    minimumCalls := 5
    threshold := .ofNat 50
    openWait := .ofSeconds 60
    halfOpenCalls := 3 }

/-- No count is zero, and the window is large enough for the minimum. -/
def clamped (c : Config) : Config :=
  let window := max c.window 1
  { c with
    window
    minimumCalls := max 1 (min c.minimumCalls window)
    halfOpenCalls := max c.halfOpenCalls 1 }

end Config

inductive State where
  /-- Calls pass. Says of each of the last calls whether it failed, oldest first. -/
  | closed (failures : List Bool)
  /-- Calls are kept back. -/
  | opened (since : Instant)
  /-- A few calls pass on trial. The time at which the trial began tells it from others. -/
  | halfOpen (since : Instant) (permitted succeeded : Nat)
deriving DecidableEq, Repr

def State.fresh : State := .closed []

def State.word : State → String
  | .closed _ => "CLOSED"
  | .opened _ => "OPEN"
  | .halfOpen .. => "HALF_OPEN"

/-- The percentage of failures; none if there are no outcomes. It is rounded once. To round the
product first, and then its quotient, makes no difference below `2 ^ 53 / 100` outcomes
(`rateOf_eq_rateInSteps`). -/
def rateOf (failures : List Bool) : Binary64 :=
  if failures.isEmpty then .zero false
  else .ofRatio false (100 * failures.countP (· = true)) failures.length

/-- Permission for one call. It names the trial in which it was given, if it was one. -/
structure Permit where
  trial : Option Instant
deriving DecidableEq, Repr

end Breaker

/-- A breaker that guards the calls to one place. -/
structure Breaker where
  name : String
  config : Breaker.Config
  state : Breaker.State
deriving DecidableEq, Repr

namespace Breaker

/-- A closed breaker without outcomes. -/
def new (name : String) (config : Config) : Breaker := ⟨name, config.clamped, .fresh⟩

/-- The failures of a closed breaker as a percentage. -/
def failureRate (b : Breaker) : Option Binary64 :=
  match b.state with
  | .closed failures => some (rateOf failures)
  | _ => none

/-- An open breaker whose wait is over begins a trial. -/
def awakened (b : Breaker) (now : Instant) : State :=
  match b.state with
  | .opened since =>
    if now.nanoseconds - since.nanoseconds < b.config.openWait.nanoseconds then .opened since
    else .halfOpen now 0 0
  | state => state

/-- Asks for permission to make a call. -/
def acquire (b : Breaker) (now : Instant) : Except Fault Permit × Breaker :=
  match b.awakened now with
  | .closed failures => (.ok ⟨none⟩, { b with state := .closed failures })
  | .halfOpen since permitted succeeded =>
    if permitted < b.config.halfOpenCalls then
      (.ok ⟨some since⟩, { b with state := .halfOpen since (permitted + 1) succeeded })
    else (.error (.notPermitted b.name), { b with state := .halfOpen since permitted succeeded })
  | .opened since => (.error (.notPermitted b.name), { b with state := .opened since })

/-- The last outcomes with one more. -/
def observed (c : Config) (failures : List Bool) (failed : Bool) : List Bool :=
  let all := failures ++ [failed]
  all.drop (all.length - c.window)

/-- There are outcomes enough, and enough of them failed. -/
def trips (c : Config) (failures : List Bool) : Bool :=
  c.minimumCalls ≤ failures.length && c.threshold.le (rateOf failures)

/-- The state after the outcome of a call. -/
def recorded (c : Config) (now : Instant) (success : Bool) : State → State
  | .closed failures =>
    let failures := observed c failures (!success)
    if trips c failures then .opened now else .closed failures
  | .halfOpen since permitted succeeded =>
    if !success then .opened now
    else if c.halfOpenCalls ≤ succeeded + 1 then .fresh
    else .halfOpen since permitted (succeeded + 1)
  | .opened since => .opened since

/-- Reports the outcome of a permitted call. -/
def record (b : Breaker) (now : Instant) (success : Bool) : Breaker :=
  { b with state := recorded b.config now success b.state }

/-- Takes back the permission of a call that never ended. A trial call gives its place back,
as long as its trial lasts. -/
def release (b : Breaker) (permit : Permit) : Breaker :=
  match b.state, permit.trial with
  | .halfOpen since permitted succeeded, some trial =>
    if since = trial then { b with state := .halfOpen since (permitted - 1) succeeded } else b
  | _, _ => b

end Breaker

end Checkout.Gateway
