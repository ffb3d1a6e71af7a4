-- Drills and exchanges as they are written: an object for each breaker, step,
-- visit and call. What an object leaves out has a usual value.
import Checkout.Rehearsal.CueReader
import Checkout.Rehearsal.Exchange

namespace Checkout.Rehearsal

open Gateway (Breaker)

namespace Drill

variable (j : Json)

def text? (name : String) : Option String := (j.get? name).bind Json.string?

def int? (name : String) : Option Int := (j.get? name).bind Json.int64?

/-- A count, or a usual one if it is left out. -/
def count (name : String) (usual : Nat) : Nat := ((int? j name).map Int.toNat).getD usual

/-- A percentage, written as a whole number or with decimals. -/
def threshold : Binary64 :=
  match j.get? "threshold" with
  | some (.integer n) => .ofInt n
  | some (.double d) => d
  | _ => Breaker.Config.default.threshold

/-- How long an open breaker waits: not at all, a short while, or past the end of any drill. -/
def openWait : Duration :=
  match text? j "openWait" with
  | some "none" => .zero
  | some "short" => shortWait
  | _ => .ofSeconds 3600

/-- How a breaker is set up: as the member of that name tells, or as usual without one. -/
def config (name : String) : Breaker.Config :=
  match j.get? name with
  | none => .default
  | some c =>
    { window := count c "window" 10
      minimumCalls := count c "minCalls" 5
      threshold := threshold c
      openWait := openWait c
      halfOpenCalls := count c "halfOpen" 3 }

def ending? : String → Option Breaker.Ending
  | "ok" => some .success
  | "fail" => some .failure
  | "abandon" => some .abandoned
  | _ => none

def step? : Option Breaker.Step := do
  match ← text? j "do" with
  | "acquire" => return .acquire (← text? j "id")
  | "record" =>
    match ← j.get? "ok" with
    | .bool success => return .record (← text? j "id") success
    | _ => none
  | "drop" => return .drop (← text? j "id")
  | "call" => return .call (← (text? j "outcome").bind ending?)
  | "elapse" => return .elapse
  | _ => none

def visit? : Option Visit := do
  return { name := ← text? j "name", config := config j "config", failures := count j "fail" 0 }

/-- A guard: its breaker, and its times in milliseconds. -/
def guard (name : String) (wait limit : Nat) : Gateway.Guard :=
  { breaker := .new name (config j "breaker")
    retry := ⟨count j "attempts" 3, .ofMilliseconds (count j "waitMs" wait)⟩
    limit := .ofMilliseconds (count j "timeoutMs" limit) }

def retry? : Option Gateway.Retry := do
  let attempts := count j "maxAttempts" 3
  let wait := Duration.ofMilliseconds (count j "waitMs" 100)
  match ← text? j "policy" with
  | "new" => return .new attempts wait
  | "raw" => return ⟨attempts, wait⟩
  | "default" => return .default
  | "none" => return .once
  | _ => none

def cues? {α : Type} (read : Json → Option (Cue α)) : Option (List (Cue α)) :=
  match j.get? "outcomes" with
  | some (.array items) => items.mapM read
  | _ => some []

def exchange? : Option Exchange := do
  match ← text? j "call" with
  | "request" =>
    return .request ((int? j "userId").getD 1) ((int? j "orderId").getD 7)
      (← cues? j Cue.receipt?)
  | "fetch" => return .fetch (← text? j "key") (← cues? j Cue.transaction?)
  | _ => none

end Drill

end Checkout.Rehearsal
