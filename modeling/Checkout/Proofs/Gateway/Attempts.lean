-- One call to the payment processor, through its three layers: an attempt that
-- outlasts the limit counts as a failure of its own, the attempts go on until
-- one succeeds or there are no more, and the breaker hears of the call once.
import Checkout.Gateway.Guard
import Mathlib.Algebra.BigOperators.Group.Finset.Basic

namespace Checkout.Gateway

variable {σ α : Type}

/-! ## One attempt -/

namespace Attempt

/-- What an attempt counts for: its answer, if that came in time. -/
def outcome (a : Attempt σ α) (limit : Duration) : Except Fault α :=
  if ∃ delay ∈ a.delay, delay ≤ limit then a.answer else .error (.timeout limit)

/-- The nanoseconds that an attempt takes. Nobody waits longer than the limit. -/
def spent (a : Attempt σ α) (limit : Duration) : Nat :=
  (a.delay.map fun delay => min delay.nanoseconds limit.nanoseconds).getD limit.nanoseconds

variable (a : Attempt σ α) (limit : Duration)

theorem within_result : (a.within limit).result = a.outcome limit := by
  unfold within outcome
  cases a.delay with
  | none => simp
  | some delay => by_cases h : delay ≤ limit <;> simp [h]

theorem within_elapsed : (a.within limit).elapsed.nanoseconds = a.spent limit := by
  unfold within spent
  cases a.delay with
  | none => rfl
  | some delay =>
    by_cases h : delay ≤ limit
    · have hle : delay.nanoseconds ≤ limit.nanoseconds := h
      simp [h, hle]
    · have hlt : limit.nanoseconds < delay.nanoseconds := Nat.lt_of_not_le h
      simp [h, hlt.le]

end Attempt

/-- A tally of the calls to a processor: every attempt raises it by one, be it answered or cut
short. -/
def Tallies (attempt : σ → Attempt σ α) (calls : σ → Nat) : Prop :=
  ∀ s, calls (attempt s).answered = calls s + 1 ∧ calls (attempt s).cut = calls s + 1

theorem Tallies.within {attempt : σ → Attempt σ α} {calls : σ → Nat} (h : Tallies attempt calls)
    (limit : Duration) (s : σ) : calls ((attempt s).within limit).state = calls s + 1 := by
  unfold Attempt.within
  split
  · split
    · exact (h s).1
    · exact (h s).2
  · exact (h s).2

/-! ## Attempts in a row -/

namespace Retry

/-- The state that so many attempts leave. -/
def standing (attempt : σ → Ended σ α) (n : Nat) (s : σ) : σ := (fun s => (attempt s).state)^[n] s

/-- How the attempt ends that is made after so many others. -/
def nth (attempt : σ → Ended σ α) (s : σ) (n : Nat) : Ended σ α := attempt (standing attempt n s)

/-- Of at most `most` attempts with these results, the last one comes after `retried` others:
they all failed, and it succeeds or there are no more. -/
structure StopsAt (result : Nat → Except Fault α) (most retried : Nat) : Prop where
  room : retried < most
  failed : ∀ i < retried, ∃ fault, result i = .error fault
  settled : retried + 1 < most → ∃ a, result retried = .ok a

/-- The way in which attempts in a row end. -/
structure Concludes (wait : Duration) (attempt : σ → Ended σ α) (s : σ) (most : Nat)
    (e : Ended σ α) (retried : Nat) : Prop where
  stops : StopsAt (fun i => (nth attempt s i).result) most retried
  result : e.result = (nth attempt s retried).result
  elapsed : e.elapsed.nanoseconds =
    (∑ i ∈ Finset.range (retried + 1), (nth attempt s i).elapsed.nanoseconds) +
      retried * wait.nanoseconds
  state : e.state = standing attempt (retried + 1) s

variable {attempt : σ → Ended σ α} {wait : Duration} {s : σ} {e : Ended σ α} {most retried : Nat}

theorem nth_succ (attempt : σ → Ended σ α) (s : σ) (n : Nat) :
    nth attempt s (n + 1) = nth attempt (attempt s).state n := by
  unfold nth standing
  rw [Function.iterate_succ_apply]

theorem standing_succ (attempt : σ → Ended σ α) (n : Nat) (s : σ) :
    standing attempt (n + 1) s = (nth attempt s n).state := by
  unfold nth standing
  rw [Function.iterate_succ_apply']

/-- There is one place where the attempts stop. -/
theorem StopsAt.unique {result : Nat → Except Fault α} {other : Nat}
    (h : StopsAt result most retried) (h' : StopsAt result most other) : retried = other := by
  have hle {n m : Nat} (hn : StopsAt result most n) (hm : StopsAt result most m) : ¬ n < m := by
    intro hlt
    obtain ⟨fault, hfault⟩ := hm.failed n hlt
    obtain ⟨a, ha⟩ := hn.settled (by have := hm.room; omega)
    simp [hfault] at ha
  have := hle h h'
  have := hle h' h
  omega

/-- A success is the end of it. -/
theorem Concludes.of_ok {a : α} (h : (attempt s).result = .ok a) (hmost : 0 < most) :
    Concludes wait attempt s most (attempt s) 0 where
  stops := ⟨hmost, by simp, fun _ => ⟨a, h⟩⟩
  result := by simp [nth, standing]
  elapsed := by simp [nth, standing]
  state := by simp [standing]

/-- A failure leaves one attempt less, and costs its time and a wait. -/
theorem Concludes.of_error {fault : Fault} (h : (attempt s).result = .error fault)
    (hrest : Concludes wait attempt (attempt s).state most e retried) :
    Concludes wait attempt s (most + 1)
      { e with elapsed := (attempt s).elapsed + wait + e.elapsed } (retried + 1) where
  stops := by
    have hroom := hrest.stops.room
    refine ⟨by omega, ?_, ?_⟩
    · intro i hi
      cases i with
      | zero => exact ⟨fault, h⟩
      | succ i =>
        rw [nth_succ]
        exact hrest.stops.failed i (by omega)
    · intro hmore
      rw [nth_succ]
      exact hrest.stops.settled (by omega)
  result := by
    rw [nth_succ]
    exact hrest.result
  elapsed := by
    have hfirst : nth attempt s 0 = attempt s := rfl
    have htime : ((attempt s).elapsed + wait + e.elapsed).nanoseconds =
        (attempt s).elapsed.nanoseconds + wait.nanoseconds + e.elapsed.nanoseconds := rfl
    rw [Finset.sum_range_succ']
    simp only [nth_succ, hfirst, htime, hrest.elapsed, Nat.add_mul, Nat.one_mul]
    omega
  state := by
    rw [standing_succ, nth_succ, ← standing_succ]
    exact hrest.state

/-- The induction is on the attempts that are left. The first one ends it, or the rest begins in
the state that it leaves. -/
theorem runMore_concludes (wait : Duration) (attempt : σ → Ended σ α) (more : Nat) (s : σ) :
    ∃ retried, Concludes wait attempt s (more + 1) (runMore wait attempt more s) retried := by
  induction more generalizing s with
  | zero =>
    refine ⟨0, ⟨by omega, by simp, by omega⟩, ?_, ?_, ?_⟩
    · simp [runMore, nth, standing]
    · simp [runMore, nth, standing]
    · simp [runMore, standing]
  | succ more ih =>
    unfold runMore
    cases h : (attempt s).result with
    | ok a =>
      have hsame : (⟨.ok a, (attempt s).elapsed, (attempt s).state⟩ : Ended σ α) = attempt s := by
        rw [← h]
      simp only [h, hsame]
      exact ⟨0, .of_ok h (by omega)⟩
    | error fault =>
      obtain ⟨retried, hrest⟩ := ih (attempt s).state
      simp only [h]
      exact ⟨retried + 1, hrest.of_error h⟩

theorem run_concludes (policy : Retry) (attempt : σ → Ended σ α) (s : σ) :
    ∃ retried, Concludes policy.wait attempt s (max policy.maxAttempts 1)
      (policy.run attempt s) retried := by
  have hmost : max policy.maxAttempts 1 - 1 + 1 = max policy.maxAttempts 1 := by omega
  have h := runMore_concludes policy.wait attempt (max policy.maxAttempts 1 - 1) s
  rw [hmost] at h
  exact h

/-- What each attempt raises by one has risen by the number of attempts. -/
theorem calls_standing {calls : σ → Nat} (h : ∀ s, calls (attempt s).state = calls s + 1) (n : Nat)
    (s : σ) : calls (standing attempt n s) = calls s + n := by
  induction n with
  | zero => rfl
  | succ n ih =>
    rw [standing_succ, nth, h, ih]
    omega

end Retry

/-! ## The call -/

/-- A breaker that keeps a call back says so in its own name. -/
theorem Breaker.acquire_error {b b' : Breaker} {now : Instant} {fault : Fault}
    (h : b.acquire now = (.error fault, b')) : fault = .notPermitted b.name := by
  unfold acquire at h
  split at h
  · simp at h
  · split at h
    · simp at h
    · simp at h
      exact h.1.symm
  · simp at h
    exact h.1.symm

namespace Guard

variable {g : Guard} {began ended : Instant} {attempt : σ → Attempt σ α} {s : σ}

/-- The state of the processor after so many attempts of a guarded call. -/
def standing (g : Guard) (attempt : σ → Attempt σ α) (s : σ) (n : Nat) : σ :=
  Retry.standing (fun s => (attempt s).within g.limit) n s

/-- The attempts of a guarded call in a row, the processor in the state that the ones before
left. -/
def attempted (g : Guard) (attempt : σ → Attempt σ α) (s : σ) (i : Nat) : Attempt σ α :=
  attempt (g.standing attempt s i)

/-- A call that the breaker keeps back: it fails at once, nothing reaches the processor, and only
the breaker may have changed. -/
def KeptBack (g : Guard) (breaker : Breaker) (s : σ) (done : Ended σ α × Guard) : Prop :=
  done = (⟨.error (.notPermitted g.breaker.name), .zero, s⟩, { g with breaker })

/-- A call that the breaker lets through, with its last attempt after `retried` others. -/
structure Made (g : Guard) (breaker : Breaker) (ended : Instant) (attempt : σ → Attempt σ α)
    (s : σ) (done : Ended σ α × Guard) (retried : Nat) : Prop where
  stops : Retry.StopsAt (fun i => (g.attempted attempt s i).outcome g.limit)
    (max g.retry.maxAttempts 1) retried
  result : done.1.result = (g.attempted attempt s retried).outcome g.limit
  elapsed : done.1.elapsed.nanoseconds =
    (∑ i ∈ Finset.range (retried + 1), (g.attempted attempt s i).spent g.limit) +
      retried * g.retry.wait.nanoseconds
  state : done.1.state = g.standing attempt s (retried + 1)
  calls : ∀ calls : σ → Nat, Tallies attempt calls → calls done.1.state = calls s + (retried + 1)
  /-- The breaker hears of the call once. -/
  recorded : ∃ success : Bool, done.2 = { g with breaker := breaker.record ended success } ∧
    (success = true ↔ ∃ a, done.1.result = .ok a)

/-- What a guarded call does. -/
structure Conducts (g : Guard) (began ended : Instant) (attempt : σ → Attempt σ α) (s : σ) :
    Prop where
  keptBack : ∀ fault breaker, g.breaker.acquire began = (.error fault, breaker) →
    KeptBack g breaker s (g.call began ended attempt s)
  made : ∀ permit breaker, g.breaker.acquire began = (.ok permit, breaker) →
    ∃! retried, Made g breaker ended attempt s (g.call began ended attempt s) retried

theorem attempted_within (g : Guard) (attempt : σ → Attempt σ α) (s : σ) (i : Nat) :
    Retry.nth (fun s => (attempt s).within g.limit) s i =
      (g.attempted attempt s i).within g.limit := by
  unfold Retry.nth attempted standing
  rfl

theorem Made.of_concludes {breaker : Breaker} {e : Ended σ α} {retried : Nat}
    (h : Retry.Concludes g.retry.wait (fun s => (attempt s).within g.limit) s
      (max g.retry.maxAttempts 1) e retried) :
    Made g breaker ended attempt s
      (e, { g with breaker := breaker.record ended e.result.toBool }) retried where
  stops := by
    have hstops := h.stops
    simp only [attempted_within, Attempt.within_result] at hstops
    exact hstops
  result := by
    rw [h.result, attempted_within, Attempt.within_result]
  elapsed := by
    rw [h.elapsed]
    simp only [attempted_within, Attempt.within_elapsed]
  state := h.state
  calls := by
    intro calls htally
    rw [h.state]
    exact Retry.calls_standing (htally.within g.limit) _ s
  recorded := by
    refine ⟨e.result.toBool, rfl, ?_⟩
    cases e.result with
    | ok a => simp [Except.toBool]
    | error fault => simp [Except.toBool]

theorem conducts (g : Guard) (began ended : Instant) (attempt : σ → Attempt σ α) (s : σ) :
    g.Conducts began ended attempt s where
  keptBack := by
    intro fault breaker h
    unfold KeptBack call
    rw [h, Breaker.acquire_error h]
  made := by
    intro permit breaker h
    obtain ⟨retried, hrun⟩ := g.retry.run_concludes (fun s => (attempt s).within g.limit) s
    have hmade : Made g breaker ended attempt s _ retried := .of_concludes hrun
    unfold call
    rw [h]
    refine ⟨retried, hmade, ?_⟩
    intro other hother
    exact hother.stops.unique hmade.stops

/-- Whatever the processor does, each of the two calls to it is attempted until it succeeds or the
attempts run out, unless the breaker keeps it back. -/
theorem a_call_is_attempted_until_it_succeeds (g : Guard) (p : Processor σ)
    (began ended : Instant) (user : Id) (request : PaymentRequest) (key : String) (s : σ) :
    g.Conducts began ended (p.requestPayment user request) s ∧
      g.Conducts began ended (p.fetchTransaction user key) s := by
  constructor
  · apply conducts
  · apply conducts

end Guard

end Checkout.Gateway
