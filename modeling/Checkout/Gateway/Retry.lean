-- Attempts at a call, each within a time limit, and their repetition. Time
-- is exact: an attempt takes what it took or the limit, and every further
-- attempt costs one wait.
import Checkout.Gateway.Fault

namespace Checkout.Gateway

/-- One attempt at a call. It changes the state of the one called, in one way if its answer is
waited for and in another if it is cut short. -/
structure Attempt (σ α : Type) where
  /-- How long the answer takes; none if it never comes. -/
  delay : Option Duration
  answer : Except Fault α
  answered : σ
  cut : σ

/-- How an attempt or a call ended, how long it took, and the state it left. -/
structure Ended (σ α : Type) where
  result : Except Fault α
  elapsed : Duration
  state : σ

namespace Attempt

variable {σ α : Type}

/-- The attempt cut short at a limit. -/
def within (a : Attempt σ α) (limit : Duration) : Ended σ α :=
  match a.delay with
  | some delay =>
    if delay ≤ limit then ⟨a.answer, delay, a.answered⟩ else ⟨.error (.timeout limit), limit, a.cut⟩
  | none => ⟨.error (.timeout limit), limit, a.cut⟩

end Attempt

/-- How often a call is attempted, and the wait between two attempts. -/
structure Retry where
  maxAttempts : Nat
  wait : Duration
deriving DecidableEq, Repr

namespace Retry

variable {σ α : Type}

/-- At least one attempt. -/
def new (maxAttempts : Nat) (wait : Duration) : Retry := ⟨max maxAttempts 1, wait⟩

def default : Retry := ⟨3, .ofMilliseconds 100⟩

def once : Retry := ⟨1, .zero⟩

/-- Makes up to `more` attempts after a first one, until one succeeds. -/
def runMore (wait : Duration) (attempt : σ → Ended σ α) : Nat → σ → Ended σ α
  | 0, s => attempt s
  | more + 1, s =>
    let first := attempt s
    match first.result with
    | .ok a => ⟨.ok a, first.elapsed, first.state⟩
    | .error _ =>
      let rest := runMore wait attempt more first.state
      { rest with elapsed := first.elapsed + wait + rest.elapsed }

/-- Attempts a call until it succeeds or the attempts run out. The last error counts. -/
def run (policy : Retry) (attempt : σ → Ended σ α) (s : σ) : Ended σ α :=
  runMore policy.wait attempt (max policy.maxAttempts 1 - 1) s

end Retry

end Checkout.Gateway
