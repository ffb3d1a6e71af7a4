-- A breaker together with the permits that are out. Permits have names, and
-- their holders record or drop them in any order, at any later time.
import Checkout.Gateway.Breaker

namespace Checkout.Gateway.Breaker

/-- A breaker and the permits that it gave and that are neither recorded nor dropped. -/
structure Holding where
  breaker : Breaker
  held : List (String × Permit)
deriving DecidableEq, Repr

/-- How a call through a breaker ends. -/
inductive Ending where
  | success
  | failure
  /-- The call is given up before it ends. -/
  | abandoned
deriving DecidableEq, Repr

/-- What is done with a breaker and its permits. -/
inductive Step where
  | acquire (name : String)
  | record (name : String) (success : Bool)
  | drop (name : String)
  /-- One call, from its permit to its end. -/
  | call (ending : Ending)
  /-- Only time passes. -/
  | elapse
deriving DecidableEq, Repr

/-- What comes of a step. -/
inductive Report where
  | permitted
  | recorded
  | dropped
  /-- No permit of that name is out. -/
  | noPermit
  | ended (ending : Ending)
  | elapsed
  /-- The breaker kept the call back. -/
  | rejected (fault : Fault)
deriving DecidableEq, Repr

/-- One call through a breaker, from its permit to its end. -/
def call (b : Breaker) (now : Instant) (ending : Ending) : Report × Breaker :=
  match b.acquire now with
  | (.error fault, b) => (.rejected fault, b)
  | (.ok permit, b) =>
    match ending with
    | .success => (.ended .success, b.record now true)
    | .failure => (.ended .failure, b.record now false)
    | .abandoned => (.ended .abandoned, b.release permit)

namespace Holding

def of (b : Breaker) : Holding := ⟨b, []⟩

def permit? (h : Holding) (name : String) : Option Permit :=
  (h.held.find? (·.1 == name)).map (·.2)

def without (h : Holding) (name : String) : List (String × Permit) :=
  h.held.filter (·.1 != name)

/-- Drops the permit of a name, if there is one. -/
def drop (h : Holding) (name : String) : Report × Holding :=
  match h.permit? name with
  | some permit => (.dropped, ⟨h.breaker.release permit, h.without name⟩)
  | none => (.noPermit, h)

/-- Keeps a new permit under a name. One that was kept there before is dropped. -/
def keep (h : Holding) (name : String) (permit : Permit) : Holding :=
  let h := (h.drop name).2
  { h with held := (name, permit) :: h.held }

/-- Asks for a permit under a name. -/
def acquire (h : Holding) (now : Instant) (name : String) : Report × Holding :=
  match h.breaker.acquire now with
  | (.ok permit, breaker) => (.permitted, ({ h with breaker } : Holding).keep name permit)
  | (.error fault, breaker) => (.rejected fault, { h with breaker })

/-- Records an outcome with the permit of a name, if there is one. -/
def record (h : Holding) (now : Instant) (name : String) (success : Bool) : Report × Holding :=
  match h.permit? name with
  | some _ => (.recorded, ⟨h.breaker.record now success, h.without name⟩)
  | none => (.noPermit, h)

/-- Takes a step at a point in time. -/
def step (h : Holding) (now : Instant) : Step → Report × Holding
  | .acquire name => h.acquire now name
  | .record name success => h.record now name success
  | .drop name => h.drop name
  | .call ending =>
    let (report, breaker) := h.breaker.call now ending
    (report, { h with breaker })
  | .elapse => (.elapsed, h)

/-- Takes steps at their points in time. Gives what came of each, and how the breaker stood
after it. -/
def run (h : Holding) : List (Instant × Step) → List (Report × Breaker)
  | [] => []
  | (now, step) :: steps =>
    let (report, h) := h.step now step
    (report, h.breaker) :: h.run steps

end Holding

end Checkout.Gateway.Breaker
