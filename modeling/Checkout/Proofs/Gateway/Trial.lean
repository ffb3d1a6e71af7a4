-- A trial of the breaker is decided by the outcomes that are reported while
-- it lasts: the first failure opens the breaker again, and as many successes
-- as there are trial calls close it. The breaker does not ask through which
-- permits they are reported, so the trial is its own only as long as no call
-- from before it reports.
import Checkout.Proofs.Gateway.Runs

namespace Checkout.Gateway.Breaker

/-! ## Trials and what is reported in them -/

namespace Move

/-- The outcome that was reported, and the permit that it was reported through. -/
def report? (m : Move) : Option (Permit × Bool) :=
  match m.use with
  | .reported permit success => some (permit, success)
  | _ => none

/-- A success was reported while a trial lasted. -/
def succeededIn (since : Instant) (m : Move) : Bool :=
  m.before.trial? == some since && m.report?.any (·.2)

/-- A success of a call of a trial was reported while it lasted. -/
def ownSucceededIn (since : Instant) (m : Move) : Bool :=
  m.before.trial? == some since && m.report?.any fun r => r.2 && r.1.trial == some since

/-- An outcome that is reported while a trial lasts is that of a call of the trial. -/
def isOwn (m : Move) : Bool :=
  m.report?.all fun r => m.before.trial?.all fun since => r.1.trial == some since

end Move

/-- How many successes were reported while a trial lasted. -/
def successesIn (since : Instant) (log : List Move) : Nat := log.countP (·.succeededIn since)

/-- How many successes of calls of a trial were reported while it lasted. -/
def ownSuccessesIn (since : Instant) (log : List Move) : Nat := log.countP (·.ownSucceededIn since)

/-- What a move is, given those before it. A permit names the trial in which it was given, and each
trial has a beginning of its own. It ends with a failure, or with the last success that it takes.
Whatever is reported in it counts. A permit that is dropped counts only in its own trial. -/
structure Lawful (c : Config) (earlier : List Move) (m : Move) : Prop where
  joins : m.before = stateAfter earlier
  marked : ∀ permit, m.use = .given permit → permit.trial = m.after.trial?
  known : ∀ permit, m.use.spent? = some permit → ∃ first ∈ earlier, first.use = .given permit
  begins : ∀ since, m.after.trial? = some since → m.before.trial? = some since ∨
    ∀ other ∈ earlier, other.after.trial? ≠ some since
  decides : ∀ since, m.before.trial? = some since → m.after.trial? = some since ∨
    (m.after.isOpened = true ∧ ∃ permit, m.use = .reported permit false) ∨
    (m.after.isClosed = true ∧ (∃ permit, m.use = .reported permit true) ∧
      successesIn since (earlier ++ [m]) = c.halfOpenCalls)
  counts : ∀ permit success, m.use = .reported permit success →
    m.before.trial? ≠ none → m.after ≠ m.before
  frees : ∀ permit, m.use = .dropped permit → permit.trial ≠ m.before.trial? → m.after = m.before

/-- A trial is decided by its own calls alone. -/
structure Isolated (c : Config) (earlier : List Move) (m : Move) : Prop where
  closes : ∀ since, m.before.trial? = some since → m.after.isClosed = true →
    ownSuccessesIn since (earlier ++ [m]) = c.halfOpenCalls
  opens : ∀ since, m.before.trial? = some since → m.after.isOpened = true →
    ∃ permit, m.use = .reported permit false ∧ permit.trial = some since
  spares : ∀ since permit success, m.before.trial? = some since →
    m.use = .reported permit success → permit.trial ≠ some since → m.after = m.before

/-! ## What each move keeps up -/

/-- What holds of a breaker after some moves. The steps took place at the times `past`, and `out`
are the permits that are neither reported through nor dropped. -/
structure Good (c : Config) (past : List Instant) (b : Breaker) (out : List Permit)
    (log : List Move) : Prop where
  config : b.config = c
  calls : 0 < c.halfOpenCalls
  state : b.state = stateAfter log
  times : ∀ m ∈ log, ∀ since, m.before.trial? = some since ∨ m.after.trial? = some since →
    since ∈ past
  given : ∀ permit ∈ out, ∃ m ∈ log, m.use = .given permit
  counted : ∀ since permitted succeeded, b.state = .halfOpen since permitted succeeded →
    successesIn since log = succeeded ∧ succeeded < c.halfOpenCalls
  lawful : Throughout (Lawful c) log

variable {c : Config} {past past' : List Instant} {b b' : Breaker} {out out' : List Permit}
  {log : List Move} {now since : Instant} {permit : Permit}

theorem successesIn_concat (since : Instant) (log : List Move) (m : Move) :
    successesIn since (log ++ [m]) =
      successesIn since log + if m.succeededIn since = true then 1 else 0 := by
  simp [successesIn, List.countP_append, List.countP_singleton]

namespace Good

theorem opening (name : String) (c : Config) : Good c.clamped [] (new name c) [] [] where
  config := rfl
  calls := clamped_calls_pos c
  state := rfl
  times := fun _ h => nomatch h
  given := fun _ h => nomatch h
  counted := fun _ _ _ h => nomatch h
  lawful := .nil

theorem forget (h : Good c past b out log) (hpast : past ⊆ past') (hout : out' ⊆ out) :
    Good c past' b out' log :=
  { h with
    times := fun m hm since hs => hpast (h.times m hm since hs)
    given := fun permit hp => h.given permit (hout hp) }

theorem trial_mem (h : Good c past b out log) (ht : b.state.trial? = some since) :
    since ∈ past := by
  rw [h.state, stateAfter] at ht
  cases hl : log.getLast? with
  | none =>
    rw [hl] at ht
    cases ht
  | some last =>
    rw [hl] at ht
    exact h.times last (List.mem_of_getLast? hl) since (.inr ht)

/-- No move yet has to do with a trial that begins at a new time. -/
theorem successesIn_new (h : Good c past b out log) (hnow : now ∉ past) :
    successesIn now log = 0 := by
  apply List.countP_eq_zero.mpr
  intro m hm hsucceeded
  simp only [Move.succeededIn, Bool.and_eq_true, beq_iff_eq] at hsucceeded
  exact hnow (h.times m hm now (.inl hsucceeded.1))

/-- A move that keeps to the law is one more move of a good run. -/
theorem concat (h : Good c past b out log) {m : Move} (hbefore : m.before = b.state)
    (hafter : m.after = b'.state) (hconfig : b'.config = b.config) (hpast : past ⊆ past')
    (htime : ∀ since, b'.state.trial? = some since → since ∈ past')
    (hgiven : ∀ permit ∈ out', permit ∈ out ∨ m.use = .given permit)
    (hcounted : ∀ since permitted succeeded, b'.state = .halfOpen since permitted succeeded →
      successesIn since (log ++ [m]) = succeeded ∧ succeeded < c.halfOpenCalls)
    (hlawful : Lawful c log m) : Good c past' b' out' (log ++ [m]) where
  config := hconfig.trans h.config
  calls := h.calls
  state := by rw [stateAfter_concat, hafter]
  times := by
    intro other ho since hs
    rcases List.mem_append.mp ho with ho | ho
    · exact hpast (h.times other ho since hs)
    · obtain rfl := List.mem_singleton.mp ho
      rw [hbefore, hafter] at hs
      rcases hs with hs | hs
      · exact hpast (h.trial_mem hs)
      · exact htime since hs
  given := by
    intro permit hp
    rcases hgiven permit hp with hp | hp
    · obtain ⟨first, hf, hu⟩ := h.given permit hp
      exact ⟨first, List.mem_append_left _ hf, hu⟩
    · exact ⟨m, List.mem_append_right _ (List.mem_singleton.mpr rfl), hp⟩
  counted := hcounted
  lawful := h.lawful.concat hlawful

/-- A move that leaves the trial as it is keeps to the law if its permit does. -/
theorem concat_same (h : Good c past b out log) {m : Move} (hbefore : m.before = b.state)
    (hafter : m.after = b'.state) (hsame : b'.state.trial? = b.state.trial?)
    (hconfig : b'.config = b.config) (hpast : past ⊆ past')
    (hgiven : ∀ permit ∈ out', permit ∈ out ∨ m.use = .given permit)
    (hcounted : ∀ since permitted succeeded, b'.state = .halfOpen since permitted succeeded →
      successesIn since (log ++ [m]) = succeeded ∧ succeeded < c.halfOpenCalls)
    (hmarked : ∀ permit, m.use = .given permit → permit.trial = b'.state.trial?)
    (hknown : ∀ permit, m.use.spent? = some permit → permit ∈ out)
    (hcounts : ∀ permit success, m.use = .reported permit success →
      b.state.trial? ≠ none → b'.state ≠ b.state)
    (hfrees : ∀ permit, m.use = .dropped permit → permit.trial ≠ b.state.trial? →
      b'.state = b.state) : Good c past' b' out' (log ++ [m]) := by
  rw [← hafter, ← hbefore] at hsame hcounts hfrees
  refine h.concat hbefore hafter hconfig hpast ?_ hgiven hcounted ?_
  · intro since hs
    rw [← hafter, hsame, hbefore] at hs
    exact hpast (h.trial_mem hs)
  · exact {
      joins := hbefore.trans h.state
      marked := hafter ▸ hmarked
      known := fun permit hs => h.given permit (hknown permit hs)
      begins := fun since hs => .inl (hsame.symm.trans hs)
      decides := fun since hs => .inl (hsame.trans hs)
      counts := hcounts
      frees := hfrees }

/-- A move that reports nothing counts for nothing. -/
theorem counted_concat (h : Good c past b out log) {m : Move} (hreport : m.report? = none)
    {permitted succeeded : Nat} (hb : b.state = .halfOpen since permitted succeeded) :
    successesIn since (log ++ [m]) = succeeded ∧ succeeded < c.halfOpenCalls := by
  rw [successesIn_concat, Move.succeededIn, hreport]
  simpa using h.counted since permitted succeeded hb

/-! ## One lemma for each use -/

/-- A trial that begins is a new one, since nothing was done at its time before. -/
theorem begins (h : Good c past b out log) (hnow : now ∉ past) (hb : b.state = .opened since)
    {m : Move} (hm : m = ⟨b.state, .given ⟨some now⟩, .halfOpen now 1 0⟩) :
    Good c (past ++ [now]) { b with state := .halfOpen now 1 0 } (⟨some now⟩ :: out)
      (log ++ [m]) := by
  subst hm
  refine h.concat rfl rfl rfl (List.subset_append_left _ _) ?_ ?_ ?_ ?_
  · rintro since ⟨⟩
    exact List.mem_append_right _ (List.mem_singleton.mpr rfl)
  · intro permit hp
    rcases List.mem_cons.mp hp with rfl | hp
    · exact .inr rfl
    · exact .inl hp
  · rintro since permitted succeeded ⟨⟩
    rw [successesIn_concat, h.successesIn_new hnow]
    simpa [Move.succeededIn, Move.report?] using h.calls
  · exact {
      joins := h.state
      marked := by
        rintro permit ⟨⟩
        rfl
      known := fun permit hs => nomatch hs
      begins := by
        rintro since ⟨⟩
        exact .inr fun other ho hsame => hnow (h.times other ho now (.inr hsame))
      decides := by
        intro since hs
        rw [hb] at hs
        cases hs
      counts := fun permit success hu => nomatch hu
      frees := fun permit hu => nomatch hu }

theorem gives (h : Good c past b out log) (hnow : now ∉ past)
    (ha : b.acquire now = (.ok permit, b')) :
    Good c (past ++ [now]) b' (permit :: out) (log ++ [b.giving now permit]) := by
  have hgiven : ∀ other ∈ permit :: out,
      other ∈ out ∨ (b.giving now permit).use = .given other := by
    intro other ho
    rcases List.mem_cons.mp ho with rfl | ho
    · exact .inr rfl
    · exact .inl ho
  have hafter : (b.giving now permit).after = b'.state := congrArg (·.2.state) ha
  have hacquired := acquired b now (h.config ▸ h.calls)
  rw [ha] at hacquired
  cases hacquired with
  | closed hb =>
    refine h.concat_same rfl hafter rfl rfl (List.subset_append_left _ _) hgiven
      (fun since permitted succeeded hs => h.counted_concat rfl hs) ?_ (fun _ hs => nomatch hs)
      (fun _ _ hu => nomatch hu) fun _ hu => nomatch hu
    rintro other ⟨⟩
    rw [hb]
    rfl
  | began hb hover => exact h.begins hnow hb (congrArg (Move.mk b.state _) hafter)
  | trial hb hplace =>
    refine h.concat_same rfl hafter ?_ rfl (List.subset_append_left _ _) hgiven ?_ ?_
      (fun _ hs => nomatch hs) (fun _ _ hu => nomatch hu) fun _ hu => nomatch hu
    · rw [hb]
      rfl
    · rintro since permitted succeeded ⟨⟩
      exact h.counted_concat rfl hb
    · rintro other ⟨⟩
      rfl

theorem refuses (h : Good c past b out log) {fault : Fault}
    (ha : b.acquire now = (.error fault, b')) : Good c past b' out (log ++ [b.refusing now]) := by
  have hafter : (b.refusing now).after = b'.state := congrArg (·.2.state) ha
  have hsame : b' = b := by
    have hacquired := acquired b now (h.config ▸ h.calls)
    rw [ha] at hacquired
    cases hacquired <;> rfl
  subst hsame
  exact h.concat_same rfl hafter rfl rfl (List.Subset.refl past) (fun _ hp => .inl hp)
    (fun since permitted succeeded hs => h.counted_concat rfl hs) (fun _ hu => nomatch hu)
    (fun _ hs => nomatch hs) (fun _ _ hu => nomatch hu) fun _ hu => nomatch hu

theorem drops (h : Good c past b out log) (hp : permit ∈ out) :
    Good c past (b.release permit) out (log ++ [b.dropping permit]) := by
  refine h.concat_same rfl rfl (release_trial b permit) (release_config b permit)
    (List.Subset.refl past) (fun _ hp => .inl hp) ?_ (fun _ hu => nomatch hu) ?_
    (fun _ _ hu => nomatch hu) ?_
  · intro since permitted succeeded hs
    obtain ⟨before, hb⟩ := release_halfOpen hs
    exact h.counted_concat rfl hb
  · rintro other ⟨⟩
    exact hp
  · rintro other ⟨⟩ hne
    exact congrArg Breaker.state (release_of_ne hne)

/-- What is reported after a trial, or before the first one, has no part in any. -/
theorem reports_untried (h : Good c past b out log) (hp : permit ∈ out) (success : Bool)
    (hb : b.state.trial? = none) :
    Good c past (b.record now success) out (log ++ [b.reporting now success permit]) := by
  have hnone : (b.record now success).state.trial? = none := by
    cases hs : b.state with
    | closed failures =>
      simp only [record, recorded, hs]
      split <;> rfl
    | opened since => simp [record, recorded, hs, State.trial?]
    | halfOpen since permitted succeeded =>
      rw [hs] at hb
      cases hb
  refine h.concat_same rfl rfl (hnone.trans hb.symm) rfl (List.Subset.refl past)
    (fun _ hp => .inl hp) ?_ ?_ ?_ (fun _ _ _ htrial => absurd hb htrial) ?_
  · intro since permitted succeeded hs
    rw [hs] at hnone
    cases hnone
  · intro other hu
    cases hu
  · rintro other ⟨⟩
    exact hp
  · intro other hu
    cases hu

/-- A trial ends with a failure, or with a success if it was the last one that was missing. -/
theorem reports_end (h : Good c past b out log) (hp : permit ∈ out) {success : Bool}
    (hb : b.state.trial? = some since) (hends : (b.record now success).state.trial? = none)
    (hdecided : ((b.record now success).state.isOpened = true ∧ success = false) ∨
      ((b.record now success).state.isClosed = true ∧ success = true ∧
        successesIn since (log ++ [b.reporting now success permit]) = c.halfOpenCalls)) :
    Good c past (b.record now success) out (log ++ [b.reporting now success permit]) := by
  refine h.concat rfl rfl rfl (List.Subset.refl past) ?_ (fun _ hp => .inl hp) ?_ ?_
  · intro other hs
    rw [hends] at hs
    cases hs
  · intro other permitted succeeded hs
    rw [hs] at hends
    cases hends
  · exact {
      joins := h.state
      marked := fun other hu => nomatch hu
      known := by
        rintro other ⟨⟩
        exact h.given permit hp
      begins := by
        intro other hs
        rw [reporting, hends] at hs
        cases hs
      decides := by
        intro other hs
        obtain rfl : since = other := Option.some.inj (hb.symm.trans hs)
        rcases hdecided with ⟨hopened, rfl⟩ | ⟨hclosed, rfl, hcount⟩
        · exact .inr (.inl ⟨hopened, permit, rfl⟩)
        · exact .inr (.inr ⟨hclosed, ⟨permit, rfl⟩, hcount⟩)
      counts := by
        intro other success' _ _ hsame
        have hstate : (b.record now success).state = b.state := hsame
        rw [hstate, hb] at hends
        cases hends
      frees := fun other hu => nomatch hu }

theorem reports (h : Good c past b out log) (hp : permit ∈ out) (now : Instant) (success : Bool) :
    Good c past (b.record now success) out (log ++ [b.reporting now success permit]) := by
  cases hb : b.state with
  | closed failures => exact h.reports_untried hp success (by rw [hb]; rfl)
  | opened since => exact h.reports_untried hp success (by rw [hb]; rfl)
  | halfOpen since permitted succeeded =>
    have htrial : b.state.trial? = some since := by rw [hb]; rfl
    obtain ⟨hcount, hfew⟩ := h.counted since permitted succeeded hb
    have hmore : successesIn since (log ++ [b.reporting now success permit]) =
        succeeded + if success = true then 1 else 0 := by
      rw [successesIn_concat, hcount]
      simp [Move.succeededIn, Move.report?, reporting, htrial]
    cases success with
    | false =>
      have hafter : (b.record now false).state = .opened now := by simp [record, recorded, hb]
      refine h.reports_end hp htrial ?_ (.inl ⟨?_, rfl⟩)
      · rw [hafter]
        rfl
      · rw [hafter]
        rfl
    | true =>
      by_cases hlast : c.halfOpenCalls ≤ succeeded + 1
      · have hafter : (b.record now true).state = .fresh := by
          simp [record, recorded, hb, h.config, hlast]
        refine h.reports_end hp htrial ?_ (.inr ⟨?_, rfl, ?_⟩)
        · rw [hafter]
          rfl
        · rw [hafter]
          rfl
        · rw [hmore, if_pos rfl]
          omega
      · have hafter : (b.record now true).state = .halfOpen since permitted (succeeded + 1) := by
          simp [record, recorded, hb, h.config, hlast]
        refine h.concat_same rfl rfl ?_ rfl (List.Subset.refl past) (fun _ hp => .inl hp) ?_ ?_ ?_
          ?_ ?_
        · rw [hafter, hb]
          rfl
        · intro other permitted' succeeded' hs
          rw [hafter] at hs
          cases hs
          rw [hmore, if_pos rfl]
          exact ⟨rfl, by omega⟩
        · intro other hu
          cases hu
        · rintro other ⟨⟩
          exact hp
        · intro other success' _ _ hsame
          rw [hafter, hb] at hsame
          cases hsame
        · intro other hu
          cases hu

end Good

/-! ## What a run keeps up -/

/-- Each use keeps a good run good, if no two steps take place at the same time. -/
theorem Good.upheld (c : Config) : Upheld (fun past now => now ∉ past) (Good c) where
  reorder hperm h := h.forget (List.Subset.refl _) hperm.symm.subset
  pass _ h := h.forget (List.subset_append_left _ _) (List.Subset.refl _)
  gives hnow h ha := h.gives hnow ha
  refuses h ha := h.refuses ha
  reports now success h :=
    (h.reports List.mem_cons_self now success).forget (List.Subset.refl _)
      (List.subset_cons_self _ _)
  drops h :=
    (h.drops List.mem_cons_self).forget (List.Subset.refl _) (List.subset_cons_self _ _)

/-- The run of a breaker so far is a good one. -/
def Watched.IsGood (c : Config) (past : List Instant) (w : Watched) : Prop :=
  Good c past w.holding.breaker w.holding.permits w.log

theorem Watched.isGood_after (name : String) (c : Config) (steps : List (Instant × Step))
    (hclock : (steps.map (·.1)).Nodup) :
    (Watched.after name c steps).IsGood c.clamped (steps.map (·.1)) :=
  ((Good.upheld c.clamped).after name c (.opening name c) steps (fresh_of_nodup hclock)).2

/-! ## The law -/

/-- A success that is reported in a trial is that of a call of the trial, if the outcome is. -/
theorem Move.ownSucceededIn_eq {m : Move} (h : m.isOwn = true) (since : Instant) :
    m.ownSucceededIn since = m.succeededIn since := by
  unfold ownSucceededIn succeededIn
  cases hb : m.before.trial? == some since with
  | false => rfl
  | true =>
    rw [beq_iff_eq] at hb
    unfold isOwn at h
    cases hr : m.report? with
    | none => rfl
    | some report =>
      rw [hr, hb] at h
      simp only [Option.all_some, beq_iff_eq] at h
      simp [h]

/-- As long as no other outcomes are reported in a trial, it is decided by its own calls. -/
theorem Lawful.isolated {earlier : List Move} {m : Move} (h : Lawful c earlier m)
    (hown : ∀ other ∈ earlier ++ [m], other.isOwn = true) : Isolated c earlier m := by
  have hcount : ∀ since,
      ownSuccessesIn since (earlier ++ [m]) = successesIn since (earlier ++ [m]) := by
    intro since
    apply List.countP_congr
    intro other ho
    rw [Move.ownSucceededIn_eq (hown other ho)]
  have hmark : ∀ since permit success, m.before.trial? = some since →
      m.use = .reported permit success → permit.trial = some since := by
    intro since permit success hb hu
    have hlast := hown m (List.mem_append_right _ (List.mem_singleton.mpr rfl))
    simpa [Move.isOwn, Move.report?, hu, hb] using hlast
  refine ⟨fun since hb hclosed => ?_, fun since hb hopened => ?_,
    fun since permit success hb hu hne => absurd (hmark since permit success hb hu) hne⟩
  · rw [hcount]
    rcases h.decides since hb with hstays | ⟨hopened, -⟩ | ⟨-, -, hall⟩
    · cases hs : m.after <;> simp [hs, State.isClosed, State.trial?] at hclosed hstays
    · cases hs : m.after <;> simp [hs, State.isClosed, State.isOpened] at hclosed hopened
    · exact hall
  · rcases h.decides since hb with hstays | ⟨-, permit, hu⟩ | ⟨hclosed, -⟩
    · cases hs : m.after <;> simp [hs, State.isOpened, State.trial?] at hopened hstays
    · exact ⟨permit, hu, hmark since permit false hb hu⟩
    · cases hs : m.after <;> simp [hs, State.isClosed, State.isOpened] at hclosed hopened

/-- Whatever steps are taken with a breaker and its permits, one after another, each move of it
keeps to the law. If every outcome that is reported in a trial is that of a call of the trial, then
each trial is decided by its own calls alone. -/
theorem a_trial_is_decided_by_what_is_reported_in_it (name : String) (c : Config)
    (steps : List (Instant × Step))
    (hclock : steps.Pairwise fun a b => a.1.nanoseconds < b.1.nanoseconds) :
    (Watched.after name c steps).holding.breaker.state =
        stateAfter (Watched.after name c steps).log ∧
      Throughout (Lawful c.clamped) (Watched.after name c steps).log ∧
      ((∀ m ∈ (Watched.after name c steps).log, m.isOwn = true) →
        Throughout (Isolated c.clamped) (Watched.after name c steps).log) := by
  have htimes : (steps.map (·.1)).Nodup := by
    refine List.Pairwise.map _ (fun a b hlt heq => ?_) hclock
    rw [heq] at hlt
    exact Nat.lt_irrefl _ hlt
  have hgood := Watched.isGood_after name c steps htimes
  refine ⟨hgood.state, hgood.lawful, fun hown earlier m later hsplit => ?_⟩
  refine (hgood.lawful earlier m later hsplit).isolated fun other ho => hown other ?_
  rw [hsplit, List.append_cons]
  exact List.mem_append_left _ ho

/-- A breaker that opens at the first failure, and closes again after one trial call. -/
def strict : Config := ⟨1, 1, .ofNat 50, ⟨10⟩, 1⟩

/-- The breaker opens, and the one call of its trial succeeds. -/
def recovery : List (Instant × Step) :=
  [(⟨1⟩, .acquire "first"), (⟨2⟩, .record "first" false), (⟨13⟩, .acquire "trial"),
    (⟨14⟩, .record "trial" true)]

theorem a_trial_is_decided_by_its_own_call :
    (recovery.Pairwise fun a b => a.1.nanoseconds < b.1.nanoseconds) ∧
      (∀ m ∈ (Watched.after "processor" strict recovery).log, m.isOwn = true) ∧
      (Watched.after "processor" strict recovery).holding.breaker.state = .fresh ∧
      Throughout (Isolated strict) (Watched.after "processor" strict recovery).log := by
  have hclock : recovery.Pairwise fun a b => a.1.nanoseconds < b.1.nanoseconds := by decide
  have hown : ∀ m ∈ (Watched.after "processor" strict recovery).log, m.isOwn = true := by
    decide +kernel
  have hlaw := a_trial_is_decided_by_what_is_reported_in_it "processor" strict recovery hclock
  exact ⟨hclock, hown, by decide +kernel, hlaw.2.2 hown⟩

/-- The breaker opens while a call is still under way, and that call fails during the trial. -/
def lateFailure : List (Instant × Step) :=
  [(⟨1⟩, .acquire "slow"), (⟨2⟩, .acquire "first"), (⟨3⟩, .record "first" false),
    (⟨14⟩, .acquire "trial"), (⟨15⟩, .record "slow" false)]

/-- A call from before a trial can end it: its permit is of no trial, and still its failure opens
the breaker again. -/
theorem a_late_failure_ends_a_trial_of_others :
    ¬ Throughout (Isolated strict) (Watched.after "processor" strict lateFailure).log := by
  intro h
  have hlog : (Watched.after "processor" strict lateFailure).log =
      (Watched.after "processor" strict (lateFailure.take 4)).log ++
        [⟨.halfOpen ⟨14⟩ 1 0, .reported ⟨none⟩ false, .opened ⟨15⟩⟩] := by
    decide +kernel
  obtain ⟨permit, hused, hmark⟩ := (h _ _ [] hlog).opens ⟨14⟩ rfl rfl
  cases hused
  cases hmark

end Checkout.Gateway.Breaker
