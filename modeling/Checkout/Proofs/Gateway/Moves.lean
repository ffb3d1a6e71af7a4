-- A breaker and the permits that it gave, move by move. Every step that is
-- taken with them comes to moves of the breaker, which follow one another
-- without a gap, so what holds of each move holds of a whole run.
import Checkout.Gateway.Breaker.Holding
import Mathlib.Data.List.Induction

namespace Checkout.Gateway.Breaker

/-! ## Moves -/

/-- The trial that a breaker is in, named by its beginning. -/
def State.trial? : State → Option Instant
  | .halfOpen since _ _ => some since
  | _ => none

def State.isClosed : State → Bool
  | .closed _ => true
  | _ => false

def State.isOpened : State → Bool
  | .opened _ => true
  | _ => false

/-- Something done with a breaker. -/
inductive Use where
  | given (permit : Permit)
  | refused
  /-- The outcome of a call was reported through its permit. -/
  | reported (permit : Permit) (success : Bool)
  | dropped (permit : Permit)
deriving DecidableEq

/-- The permit that is spent by it, if one is. -/
def Use.spent? : Use → Option Permit
  | .reported permit _ => some permit
  | .dropped permit => some permit
  | _ => none

/-- Something done with a breaker, and the states before and after it. -/
structure Move where
  before : State
  use : Use
  after : State
deriving DecidableEq

/-- The state after some moves of a breaker that was new. -/
def stateAfter (log : List Move) : State := (log.getLast?.map (·.after)).getD .fresh

theorem stateAfter_concat (log : List Move) (m : Move) : stateAfter (log ++ [m]) = m.after := by
  simp [stateAfter]

section Moves

variable (b : Breaker) (now : Instant)

def giving (permit : Permit) : Move := ⟨b.state, .given permit, (b.acquire now).2.state⟩

def refusing : Move := ⟨b.state, .refused, (b.acquire now).2.state⟩

def reporting (success : Bool) (permit : Permit) : Move :=
  ⟨b.state, .reported permit success, (b.record now success).state⟩

def dropping (permit : Permit) : Move := ⟨b.state, .dropped permit, (b.release permit).state⟩

/-- How a call that was permitted ends. -/
def ending (permit : Permit) : Ending → Move
  | .success => b.reporting now true permit
  | .failure => b.reporting now false permit
  | .abandoned => b.dropping permit

/-- The breaker after a call that was permitted has ended. -/
def ended (permit : Permit) : Ending → Breaker
  | .success => b.record now true
  | .failure => b.record now false
  | .abandoned => b.release permit

/-- A call is the giving of its permit and then its end. -/
theorem call_eq (ending : Ending) : b.call now ending =
    match b.acquire now with
    | (.error fault, b) => (.rejected fault, b)
    | (.ok permit, b) => (.ended ending, b.ended now permit ending) := by
  unfold call
  cases b.acquire now with
  | mk answer b =>
    cases answer with
    | error fault => rfl
    | ok permit => cases ending <;> rfl

end Moves

/-- The moves that a step comes to. A permit under a name that is taken pushes out the old one. -/
def Holding.moves (h : Holding) (now : Instant) : Step → List Move
  | .acquire name =>
    match h.breaker.acquire now with
    | (.ok permit, b) => h.breaker.giving now permit :: (h.permit? name).toList.map b.dropping
    | (.error _, _) => [h.breaker.refusing now]
  | .record name success => (h.permit? name).toList.map (h.breaker.reporting now success)
  | .drop name => (h.permit? name).toList.map h.breaker.dropping
  | .call ending =>
    match h.breaker.acquire now with
    | (.ok permit, b) => [h.breaker.giving now permit, b.ending now permit ending]
    | (.error _, _) => [h.breaker.refusing now]
  | .elapse => []

/-- A breaker with its permits, and all moves so far. -/
structure Watched where
  holding : Holding
  log : List Move

namespace Watched

def step (w : Watched) (timed : Instant × Step) : Watched :=
  ⟨(w.holding.step timed.1 timed.2).2, w.log ++ w.holding.moves timed.1 timed.2⟩

/-- A new breaker after some steps. -/
def after (name : String) (c : Config) (steps : List (Instant × Step)) : Watched :=
  steps.foldl step ⟨.of (new name c), []⟩

theorem after_concat (name : String) (c : Config) (steps : List (Instant × Step))
    (timed : Instant × Step) :
    after name c (steps ++ [timed]) = (after name c steps).step timed := by
  simp [after]

end Watched

/-! ## What a move can be -/

/-- A breaker that is asked for a permit gives one without a trial if it is closed, and one of its
trial while that has places. It begins a trial if it is open and its wait is over. -/
inductive Acquired (b : Breaker) (now : Instant) : Except Fault Permit × Breaker → Prop where
  | closed {failures : List Bool} (h : b.state = .closed failures) : Acquired b now (.ok ⟨none⟩, b)
  | waiting {since : Instant} (h : b.state = .opened since)
      (hwait : now.nanoseconds - since.nanoseconds < b.config.openWait.nanoseconds) :
      Acquired b now (.error (.notPermitted b.name), b)
  | began {since : Instant} (h : b.state = .opened since)
      (hover : ¬ now.nanoseconds - since.nanoseconds < b.config.openWait.nanoseconds) :
      Acquired b now (.ok ⟨some now⟩, { b with state := .halfOpen now 1 0 })
  | trial {since : Instant} {permitted succeeded : Nat}
      (h : b.state = .halfOpen since permitted succeeded)
      (hplace : permitted < b.config.halfOpenCalls) :
      Acquired b now
        (.ok ⟨some since⟩, { b with state := .halfOpen since (permitted + 1) succeeded })
  | full {since : Instant} {permitted succeeded : Nat}
      (h : b.state = .halfOpen since permitted succeeded)
      (hfull : ¬ permitted < b.config.halfOpenCalls) :
      Acquired b now (.error (.notPermitted b.name), b)

theorem acquired (b : Breaker) (now : Instant) (hcalls : 0 < b.config.halfOpenCalls) :
    Acquired b now (b.acquire now) := by
  obtain ⟨name, config, state⟩ := b
  cases state with
  | closed failures => exact .closed rfl
  | opened since =>
    by_cases hwait : now.nanoseconds - since.nanoseconds < config.openWait.nanoseconds
    · simp only [acquire, awakened, if_pos hwait]
      exact .waiting rfl hwait
    · simp only [acquire, awakened, if_neg hwait, if_pos hcalls]
      exact .began rfl hwait
  | halfOpen since permitted succeeded =>
    by_cases hplace : permitted < config.halfOpenCalls
    · simp only [acquire, awakened, if_pos hplace]
      exact .trial rfl hplace
    · simp only [acquire, awakened, if_neg hplace]
      exact .full rfl hplace

/-- Giving a permit back changes nothing unless it is of the present trial. -/
theorem release_of_ne {b : Breaker} {permit : Permit} (h : permit.trial ≠ b.state.trial?) :
    b.release permit = b := by
  unfold release
  split
  · next since permitted succeeded trial hstate hpermit =>
    rw [hstate, hpermit] at h
    rw [if_neg fun hsame => h (congrArg some hsame.symm)]
  · rfl

theorem release_halfOpen {b : Breaker} {permit : Permit} {since : Instant}
    {permitted succeeded : Nat}
    (h : (b.release permit).state = .halfOpen since permitted succeeded) :
    ∃ before, b.state = .halfOpen since before succeeded := by
  unfold release at h
  split at h
  · next hstate hpermit =>
    split at h
    · cases h
      exact ⟨_, hstate⟩
    · exact ⟨_, h⟩
  · exact ⟨_, h⟩

/-- A trial that goes on after an outcome took it for a success. -/
theorem record_halfOpen {b : Breaker} {now since : Instant} {success : Bool}
    {permitted succeeded : Nat}
    (h : (b.record now success).state = .halfOpen since permitted succeeded) :
    success = true ∧ ∃ before, b.state = .halfOpen since permitted before := by
  unfold record at h
  cases hs : b.state with
  | closed failures =>
    simp only [hs, recorded] at h
    split at h <;> cases h
  | opened since =>
    simp [hs, recorded] at h
  | halfOpen since permitted before =>
    cases success with
    | false => simp [hs, recorded] at h
    | true =>
      simp only [hs, recorded, Bool.not_true, Bool.false_eq_true, if_false] at h
      split at h
      · cases h
      · cases h
        exact ⟨rfl, before, rfl⟩

theorem release_trial (b : Breaker) (permit : Permit) :
    (b.release permit).state.trial? = b.state.trial? := by
  unfold release
  split
  · next hstate hpermit =>
    split
    · rw [hstate]
      rfl
    · rfl
  · rfl

theorem release_config (b : Breaker) (permit : Permit) : (b.release permit).config = b.config := by
  unfold release
  split
  · split <;> rfl
  · rfl

theorem clamped_calls_pos (c : Config) : 0 < c.clamped.halfOpenCalls :=
  Nat.lt_of_lt_of_le Nat.one_pos (Nat.le_max_right _ _)

end Checkout.Gateway.Breaker
