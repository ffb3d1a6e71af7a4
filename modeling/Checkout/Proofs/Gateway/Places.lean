-- The places of a trial. Each place that is taken is held by a permit that is
-- out, or was used up by a success. A trial that is still going on has had
-- fewer successes than it has places, so a call that finds no place is kept
-- back by another one that will give its place back or end the trial.
import Checkout.Proofs.Gateway.Trial

namespace Checkout.Gateway.Breaker

/-! ## Places and who takes them -/

/-- How many of some permits are of a trial. -/
def heldIn (since : Instant) (out : List Permit) : Nat := out.countP (·.trial == some since)

/-- A permit that is dropped in its own trial takes just one place away. -/
def Move.GivesBack (m : Move) : Prop :=
  ∀ permit since permitted succeeded, m.use = .dropped permit → permit.trial = some since →
    m.before = .halfOpen since permitted succeeded →
    0 < permitted ∧ m.after = .halfOpen since (permitted - 1) succeeded

/-- No permit comes back by another use. -/
theorem givesBack_concat {log : List Move} {m : Move} (h : ∀ m ∈ log, m.GivesBack)
    (hm : ∀ permit, m.use ≠ .dropped permit) : ∀ other ∈ log ++ [m], other.GivesBack := by
  refine List.forall_mem_append.mpr ⟨h, List.forall_mem_singleton.mpr ?_⟩
  intro permit since permitted succeeded hu
  exact absurd hu (hm permit)

/-- What a run keeps up about the places of a trial. -/
structure Placed (c : Config) (past : List Instant) (b : Breaker) (out : List Permit)
    (log : List Move) : Prop where
  good : Good c past b out log
  taken : ∀ since permitted succeeded, b.state = .halfOpen since permitted succeeded →
    permitted = heldIn since out + ownSuccessesIn since log ∧ permitted ≤ c.halfOpenCalls
  givesBack : ∀ m ∈ log, m.GivesBack

variable {c : Config} {past : List Instant} {b b' : Breaker} {out out' : List Permit}
  {log : List Move} {now since : Instant} {permit : Permit}

theorem heldIn_cons_self (h : permit.trial = some since) (out : List Permit) :
    heldIn since (permit :: out) = heldIn since out + 1 := by
  unfold heldIn
  rw [List.countP_cons_of_pos]
  simp [h]

theorem heldIn_cons_ne (h : permit.trial ≠ some since) (out : List Permit) :
    heldIn since (permit :: out) = heldIn since out := by
  unfold heldIn
  rw [List.countP_cons_of_neg]
  simp [h]

theorem heldIn_pos_iff : 0 < heldIn since out ↔ ∃ permit ∈ out, permit.trial = some since := by
  unfold heldIn
  simp [List.countP_pos_iff]

theorem ownSuccessesIn_concat (since : Instant) (log : List Move) (m : Move) :
    ownSuccessesIn since (log ++ [m]) =
      ownSuccessesIn since log + if m.ownSucceededIn since = true then 1 else 0 := by
  simp [ownSuccessesIn, List.countP_append, List.countP_singleton]

/-- A move that reports nothing uses up no place. -/
theorem ownSuccessesIn_unreported (since : Instant) (log : List Move) {m : Move}
    (h : m.report? = none) : ownSuccessesIn since (log ++ [m]) = ownSuccessesIn since log := by
  rw [ownSuccessesIn_concat]
  simp [Move.ownSucceededIn, h]

theorem ownSuccessesIn_le (since : Instant) (log : List Move) :
    ownSuccessesIn since log ≤ successesIn since log := by
  unfold ownSuccessesIn successesIn
  apply List.countP_mono_left
  intro m _ hown
  simp only [Move.ownSucceededIn, Move.succeededIn, Bool.and_eq_true, Option.any_eq_true,
    beq_iff_eq] at hown ⊢
  obtain ⟨htrial, report, hreport, hsuccess, -⟩ := hown
  exact ⟨htrial, report, hreport, hsuccess⟩

/-- A permit that is out was given in a trial that began at the time of a step. -/
theorem Good.permit_trial_mem (h : Good c past b out log) (hp : permit ∈ out)
    (ht : permit.trial = some since) : since ∈ past := by
  obtain ⟨m, hm, hu⟩ := h.given permit hp
  obtain ⟨earlier, later, hsplit⟩ := List.append_of_mem hm
  apply h.times m hm since
  right
  rw [← (h.lawful earlier m later hsplit).marked permit hu, ht]

/-- No permit that is out is of a trial that begins at a new time. -/
theorem Good.heldIn_new (h : Good c past b out log) (hnow : now ∉ past) : heldIn now out = 0 := by
  by_contra hne
  obtain ⟨permit, hp, ht⟩ := heldIn_pos_iff.mp (Nat.pos_of_ne_zero hne)
  exact hnow (h.permit_trial_mem hp ht)

namespace Placed

theorem opening (name : String) (c : Config) : Placed c.clamped [] (new name c) [] [] where
  good := .opening name c
  taken := fun _ _ _ h => nomatch h
  givesBack := fun _ h => nomatch h

theorem reorder (h : Placed c past b out log) (hperm : out.Perm out') :
    Placed c past b out' log := by
  refine ⟨h.good.forget (List.Subset.refl _) hperm.symm.subset, ?_, h.givesBack⟩
  intro since permitted succeeded hs
  have hsame : heldIn since out' = heldIn since out := (hperm.countP_eq _).symm
  rw [hsame]
  exact h.taken since permitted succeeded hs

/-! ## One lemma for each use -/

theorem gives (h : Placed c past b out log) (hnow : now ∉ past)
    (ha : b.acquire now = (.ok permit, b')) :
    Placed c (past ++ [now]) b' (permit :: out) (log ++ [b.giving now permit]) := by
  refine ⟨h.good.gives hnow ha, ?_, ?_⟩
  · have hacquired := acquired b now (h.good.config ▸ h.good.calls)
    rw [ha] at hacquired
    intro since permitted succeeded hs
    rw [ownSuccessesIn_unreported _ _ rfl]
    cases hacquired with
    | closed hb =>
      rw [hb] at hs
      cases hs
    | began hb hover =>
      cases hs
      have hnone := ownSuccessesIn_le now log
      rw [h.good.successesIn_new hnow] at hnone
      rw [heldIn_cons_self rfl, h.good.heldIn_new hnow]
      have := h.good.calls
      omega
    | trial hb hplace =>
      cases hs
      obtain ⟨htaken, -⟩ := h.taken _ _ _ hb
      rw [h.good.config] at hplace
      rw [heldIn_cons_self rfl]
      omega
  · apply givesBack_concat h.givesBack
    intro other hu
    cases hu

theorem refuses (h : Placed c past b out log) {fault : Fault}
    (ha : b.acquire now = (.error fault, b')) :
    Placed c past b' out (log ++ [b.refusing now]) := by
  refine ⟨h.good.refuses ha, ?_, ?_⟩
  · have hacquired := acquired b now (h.good.config ▸ h.good.calls)
    rw [ha] at hacquired
    have hsame : b' = b := by cases hacquired <;> rfl
    subst hsame
    intro since permitted succeeded hs
    rw [ownSuccessesIn_unreported _ _ rfl]
    exact h.taken since permitted succeeded hs
  · apply givesBack_concat h.givesBack
    intro other hu
    cases hu

/-- A success of a call of the trial uses its place up. One of another call takes no place. -/
theorem reports (h : Placed c past b (permit :: out) log) (now : Instant) (success : Bool) :
    Placed c past (b.record now success) out (log ++ [b.reporting now success permit]) := by
  refine ⟨?_, ?_, ?_⟩
  · exact (h.good.reports List.mem_cons_self now success).forget (List.Subset.refl _)
      (List.subset_cons_self _ _)
  · intro since permitted succeeded hs
    obtain ⟨rfl, before, hb⟩ := record_halfOpen hs
    obtain ⟨htaken, hroom⟩ := h.taken since permitted before hb
    have htrial : b.state.trial? = some since := by rw [hb]; rfl
    rw [ownSuccessesIn_concat]
    by_cases hown : permit.trial = some since
    · rw [heldIn_cons_self hown] at htaken
      simp only [Move.ownSucceededIn, Move.report?, reporting, htrial, hown, beq_self_eq_true,
        Option.any_some, Bool.and_self, if_true]
      omega
    · rw [heldIn_cons_ne hown] at htaken
      simp only [Move.ownSucceededIn, Move.report?, reporting, htrial, beq_eq_false_iff_ne.mpr hown,
        Option.any_some, Bool.and_false, Bool.false_eq_true, if_false]
      omega
  · apply givesBack_concat h.givesBack
    intro other hu
    cases hu

/-- A permit of the present trial takes its place with it. There is one to take, since the permit
holds it. -/
theorem drops (h : Placed c past b (permit :: out) log) :
    Placed c past (b.release permit) out (log ++ [b.dropping permit]) := by
  have hback : ∀ since permitted succeeded, permit.trial = some since →
      b.state = .halfOpen since permitted succeeded → 0 < permitted ∧
        (b.release permit).state = .halfOpen since (permitted - 1) succeeded := by
    intro since permitted succeeded ht hb
    obtain ⟨htaken, -⟩ := h.taken since permitted succeeded hb
    rw [heldIn_cons_self ht] at htaken
    refine ⟨by omega, ?_⟩
    unfold release
    rw [hb, ht]
    simp
  refine ⟨?_, ?_, ?_⟩
  · exact (h.good.drops List.mem_cons_self).forget (List.Subset.refl _)
      (List.subset_cons_self _ _)
  · intro since permitted succeeded hs
    rw [ownSuccessesIn_unreported _ _ rfl]
    obtain ⟨before, hb⟩ := release_halfOpen hs
    obtain ⟨htaken, hroom⟩ := h.taken since before succeeded hb
    by_cases hown : permit.trial = some since
    · obtain ⟨hpos, hafter⟩ := hback since before succeeded hown hb
      rw [heldIn_cons_self hown] at htaken
      rw [hafter] at hs
      cases hs
      omega
    · rw [heldIn_cons_ne hown] at htaken
      rw [release_of_ne (by rw [hb]; exact hown), hb] at hs
      cases hs
      omega
  · refine List.forall_mem_append.mpr ⟨h.givesBack, List.forall_mem_singleton.mpr ?_⟩
    intro other since permitted succeeded hu ht hb
    cases hu
    exact hback since permitted succeeded ht hb

theorem upheld (c : Config) : Upheld (fun past now => now ∉ past) (Placed c) where
  reorder hperm h := h.reorder hperm
  pass _ h :=
    ⟨h.good.forget (List.subset_append_left _ _) (List.Subset.refl _), h.taken, h.givesBack⟩
  gives hnow h ha := h.gives hnow ha
  refuses h ha := h.refuses ha
  reports now success h := h.reports now success
  drops h := h.drops

theorem after (name : String) (c : Config) (steps : List (Instant × Step))
    (hclock : steps.Pairwise fun a b => a.1.nanoseconds < b.1.nanoseconds) :
    Placed c.clamped (steps.map (·.1)) (Watched.after name c steps).holding.breaker
      (Watched.after name c steps).holding.permits (Watched.after name c steps).log :=
  ((upheld c.clamped).after name c (.opening name c) steps
    (fresh_of_nodup (times_nodup hclock))).2

end Placed

/-! ## The law -/

/-- How a trial stands that goes on: how many of its places are taken, and whom it lets through. -/
structure Tended (h : Holding) (since : Instant) (permitted succeeded : Nat) : Prop where
  held : heldIn since h.permits ≤ permitted
  room : permitted ≤ h.breaker.config.halfOpenCalls
  undecided : succeeded < h.breaker.config.halfOpenCalls
  busy : ∀ now fault b, h.breaker.acquire now = (.error fault, b) → 0 < heldIn since h.permits
  free : heldIn since h.permits = 0 → ∀ now, ∃ b, h.breaker.acquire now = (.ok ⟨some since⟩, b)

/-- There are fewer successes than places, so not all places are used up for good. -/
theorem Placed.tended {h : Holding} (hp : Placed c past h.breaker h.permits log)
    {permitted succeeded : Nat} (hs : h.breaker.state = .halfOpen since permitted succeeded) :
    Tended h since permitted succeeded := by
  obtain ⟨htaken, hroom⟩ := hp.taken since permitted succeeded hs
  obtain ⟨hcount, hfew⟩ := hp.good.counted since permitted succeeded hs
  have hown := ownSuccessesIn_le since log
  have hcalls : h.breaker.config.halfOpenCalls = c.halfOpenCalls := by rw [hp.good.config]
  refine ⟨by omega, by omega, by omega, ?_, ?_⟩
  · intro now fault b ha
    have hacquired := acquired h.breaker now (by omega)
    rw [ha] at hacquired
    cases hacquired with
    | waiting hb =>
      rw [hs] at hb
      cases hb
    | full hb hfull =>
      rw [hs] at hb
      cases hb
      omega
  · intro hnone now
    refine ⟨{ h.breaker with state := .halfOpen since (permitted + 1) succeeded }, ?_⟩
    have hplace : permitted < h.breaker.config.halfOpenCalls := by omega
    unfold acquire awakened
    rw [hs]
    simp only
    rw [if_pos hplace]

/-- Whatever steps are taken with a breaker and its permits, one after another: while a trial goes
on, each place of it that is taken is held by a permit that is out or was used up by a success of
one of its calls. There are never more than it has, and a permit that is dropped gives its own
back. So a call is kept back only if another one of the trial is under way, and one is let through
if there is none. -/
theorem a_trial_always_has_a_place_or_a_call_under_way (name : String) (c : Config)
    (steps : List (Instant × Step))
    (hclock : steps.Pairwise fun a b => a.1.nanoseconds < b.1.nanoseconds) :
    (Watched.after name c steps).holding.breaker.config = c.clamped ∧
      (∀ m ∈ (Watched.after name c steps).log, m.GivesBack) ∧
      ∀ since permitted succeeded,
        (Watched.after name c steps).holding.breaker.state = .halfOpen since permitted succeeded →
          permitted = heldIn since (Watched.after name c steps).holding.permits +
              ownSuccessesIn since (Watched.after name c steps).log ∧
            Tended (Watched.after name c steps).holding since permitted succeeded := by
  have hplaced := Placed.after name c steps hclock
  refine ⟨hplaced.good.config, hplaced.givesBack, ?_⟩
  intro since permitted succeeded hs
  exact ⟨(hplaced.taken since permitted succeeded hs).1, hplaced.tended hs⟩

/-- A breaker that opens at the first failure, and makes a trial of two calls. -/
def paired : Config := ⟨1, 1, .ofNat 50, ⟨10⟩, 2⟩

/-- The breaker opens. Of the two calls of its trial one succeeds, and the other is given up. -/
def givenUp : List (Instant × Step) :=
  [(⟨1⟩, .acquire "first"), (⟨2⟩, .record "first" false), (⟨13⟩, .acquire "left"),
    (⟨14⟩, .acquire "right"), (⟨15⟩, .record "left" true), (⟨16⟩, .drop "right")]

theorem a_call_that_is_given_up_leaves_its_place :
    (givenUp.Pairwise fun a b => a.1.nanoseconds < b.1.nanoseconds) ∧
      (Watched.after "processor" paired givenUp).holding.breaker.state = .halfOpen ⟨13⟩ 1 1 ∧
      ∃ b, (Watched.after "processor" paired givenUp).holding.breaker.acquire ⟨17⟩ =
        (.ok ⟨some ⟨13⟩⟩, b) := by
  have hclock : givenUp.Pairwise fun a b => a.1.nanoseconds < b.1.nanoseconds := by decide
  have hstate : (Watched.after "processor" paired givenUp).holding.breaker.state =
      .halfOpen ⟨13⟩ 1 1 := by
    decide +kernel
  have hlaw := a_trial_always_has_a_place_or_a_call_under_way "processor" paired givenUp hclock
  have hnone : heldIn ⟨13⟩ (Watched.after "processor" paired givenUp).holding.permits = 0 := by
    decide +kernel
  exact ⟨hclock, hstate, (hlaw.2.2 ⟨13⟩ 1 1 hstate).2.free hnone ⟨17⟩⟩

end Checkout.Gateway.Breaker
