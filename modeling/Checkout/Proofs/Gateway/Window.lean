-- A closed breaker keeps the last outcomes since it was closed and nothing
-- else. It opens at the outcome with which enough of them are failures, and
-- at no other time. An open breaker stays as it is until its wait is over.
import Checkout.Proofs.Gateway.Trial
import Checkout.Proofs.Number.Nearest
import Mathlib.Data.List.DropRight

namespace Checkout.Gateway.Breaker

/-! ## What a closed breaker looks back on -/

/-- The outcomes that were reported, oldest first. Says of each whether it was a failure. -/
def failuresIn (log : List Move) : List Bool :=
  log.filterMap fun m => m.report?.map fun report => !report.2

/-- The moves since the breaker was closed last. -/
def sinceClosed (log : List Move) : List Move := log.rtakeWhile (·.before.isClosed)

/-- The last outcomes since the breaker was closed, as many as its window has room for. -/
def lookBack (c : Config) (log : List Move) : List Bool :=
  (failuresIn (sinceClosed log)).rtake c.window

/-- There are outcomes enough, and their rate of failures is at the threshold or above it. -/
def Due (c : Config) (outcomes : List Bool) : Prop :=
  c.minimumCalls ≤ outcomes.length ∧ c.threshold.le (rateOf outcomes) = true

instance (c : Config) (outcomes : List Bool) : Decidable (Due c outcomes) :=
  inferInstanceAs (Decidable (_ ∧ _))

/-- There are too few outcomes, or their rate of failures is below the threshold. No rate comes up
to a threshold that is not a number. -/
def Calm (c : Config) (outcomes : List Bool) : Prop :=
  outcomes.length < c.minimumCalls ∨ c.threshold.le (rateOf outcomes) = false ∧
    (c.threshold ≠ .nan → (rateOf outcomes).lt c.threshold = true)

variable {c : Config} {b b' : Breaker} {out : List Permit} {log : List Move} {m : Move}
  {permit : Permit} {now since : Instant} {success : Bool}

theorem trips_iff (c : Config) (outcomes : List Bool) :
    trips c outcomes = true ↔ Due c outcomes := by
  unfold trips Due
  simp

theorem calm_of_not_due {outcomes : List Bool} (h : ¬ Due c outcomes) : Calm c outcomes := by
  unfold Due at h
  unfold Calm
  by_cases hmany : c.minimumCalls ≤ outcomes.length
  · right
    have hle : c.threshold.le (rateOf outcomes) = false := by
      rw [← Bool.not_eq_true]
      exact fun hle => h ⟨hmany, hle⟩
    refine ⟨hle, fun hnumber => Binary64.lt_of_not_le ?_ hnumber hle⟩
    unfold rateOf
    split
    · simp [Binary64.zero]
    · exact Binary64.ofRatio_ne_nan _ _ _
  · left
    omega

theorem rtake_rtake_concat {α : Type} (l : List α) (a : α) (n : Nat) :
    (l.rtake n ++ [a]).rtake n = (l ++ [a]).rtake n := by
  cases n with
  | zero => simp
  | succ n =>
    rw [List.rtake_concat_succ, List.rtake_concat_succ]
    simp [List.rtake_eq_reverse_take_reverse, List.take_take]

theorem sinceClosed_concat (log : List Move) (hb : m.before.isClosed = true) :
    sinceClosed (log ++ [m]) = sinceClosed log ++ [m] :=
  List.rtakeWhile_concat_pos (fun m : Move => m.before.isClosed) log m hb

/-- A move that reports nothing leaves a closed breaker what it looks back on. -/
theorem lookBack_unreported (c : Config) (log : List Move) (hb : m.before.isClosed = true)
    (hreport : m.report? = none) : lookBack c (log ++ [m]) = lookBack c log := by
  unfold lookBack failuresIn
  rw [sinceClosed_concat log hb, List.filterMap_append]
  simp [hreport]

theorem lookBack_reported (c : Config) (log : List Move) (hb : m.before.isClosed = true)
    (hu : m.use = .reported permit success) :
    lookBack c (log ++ [m]) = observed c (lookBack c log) (!success) := by
  have hreport : m.report? = some (permit, success) := by simp [Move.report?, hu]
  unfold lookBack failuresIn
  rw [sinceClosed_concat log hb, List.filterMap_append, List.filterMap_cons, hreport,
    Option.map_some, List.filterMap_nil, ← rtake_rtake_concat]
  rfl

/-- A breaker that has just been closed looks back on nothing. -/
theorem lookBack_fresh (c : Config) (log : List Move) (hb : m.before.isClosed = false) :
    lookBack c (log ++ [m]) = [] := by
  have hfresh : sinceClosed (log ++ [m]) = [] :=
    List.rtakeWhile_concat_neg (fun m : Move => m.before.isClosed) log m (by simp [hb])
  unfold lookBack failuresIn
  rw [hfresh]
  simp

/-! ## The rate of failures -/

/-- The rate of failures step by step: the counts become doubles, and the product is rounded before it
is divided. -/
def rateInSteps (failures : List Bool) : Binary64 :=
  ((Binary64.ofNat (failures.countP (· = true))).mul (.ofNat 100)).div (.ofNat failures.length)

/-- Up to some ninety trillion outcomes it does not matter how often the rate is rounded on the way. -/
theorem rateOf_eq_rateInSteps {failures : List Bool} (hne : failures ≠ [])
    (hfew : 100 * failures.length < 2 ^ 53) : rateOf failures = rateInSteps failures := by
  have hcount : failures.countP (· = true) ≤ failures.length := List.countP_le_length
  have hproduct : (Binary64.ofNat (failures.countP (· = true))).mul (.ofNat 100) =
      .ofNat (failures.countP (· = true) * 100) :=
    (Binary64.isNat_ofNat (by omega)).mul (Binary64.isNat_ofNat (by decide))
  have hrounded : (Binary64.ofNat (failures.countP (· = true) * 100)).IsNat _ :=
    Binary64.isNat_ofNat (by omega)
  have hlength : (Binary64.ofNat failures.length).IsNat failures.length :=
    Binary64.isNat_ofNat (by omega)
  unfold rateInSteps
  rw [hproduct, hrounded.div hlength (List.length_pos_iff.mpr hne), Nat.mul_comm, rateOf,
    if_neg (by simpa using hne)]

/-! ## A window full of failures -/

/-- If all of some outcomes are failures, their rate is a hundred percent exactly. -/
theorem rateOf_replicate {n : Nat} (hn : 0 < n) :
    rateOf (List.replicate n true) = .ofNat 100 := by
  unfold rateOf
  rw [if_neg (by simp [hn.ne']), List.countP_replicate, List.length_replicate]
  simp only [decide_true, if_true]
  rw [Nat.mul_comm 100 n]
  conv_lhs => arg 3; rw [← Nat.mul_one n]
  exact Binary64.ofRatio_mul hn Nat.one_pos false

theorem due_replicate {n : Nat} (hn : 0 < n) (hmany : c.minimumCalls ≤ n)
    (ht : c.threshold.le (.ofNat 100) = true) : Due c (List.replicate n true) := by
  unfold Due
  rw [List.length_replicate, rateOf_replicate hn]
  exact ⟨hmany, ht⟩

theorem clamped_minimum (c : Config) :
    0 < c.clamped.minimumCalls ∧ c.clamped.minimumCalls ≤ c.clamped.window := by
  unfold Config.clamped
  simp only
  omega

/-! ## What each move keeps up -/

/-- What a move is, given those before it. A closed breaker opens at an outcome if too many of the
last ones are failures then, and at nothing else. A permit that is dropped counts for nothing. -/
structure Judged (c : Config) (earlier : List Move) (m : Move) : Prop where
  joins : m.before = stateAfter earlier
  leaves : m.before.isClosed = true → m.after.isClosed = true ∨ m.after.isOpened = true
  opens : m.before.isClosed = true → (m.after.isOpened = true ↔
    (∃ permit success, m.use = .reported permit success) ∧ Due c (lookBack c (earlier ++ [m])))
  drops : ∀ permit, m.use = .dropped permit → m.before.trial? = none → m.after = m.before

/-- What holds of a breaker after some moves: while it is closed it looks back on the last
outcomes, and they do not call for it to open. -/
structure Alert (c : Config) (b : Breaker) (log : List Move) : Prop where
  config : b.config = c
  calls : 0 < c.halfOpenCalls
  minimum : 0 < c.minimumCalls
  state : b.state = stateAfter log
  looksBack : ∀ failures, b.state = .closed failures → failures = lookBack c log
  undue : ∀ failures, b.state = .closed failures → ¬ Due c failures
  judged : Throughout (Judged c) log

theorem not_due_nil (h : 0 < c.minimumCalls) : ¬ Due c [] := by
  rintro ⟨hmany, -⟩
  rw [List.length_nil] at hmany
  omega

namespace State

theorem isClosed_iff {s : State} : s.isClosed = true ↔ ∃ failures, s = .closed failures := by
  cases s <;> simp [isClosed]

end State

namespace Alert

theorem opening (name : String) (c : Config) : Alert c.clamped (new name c) [] where
  config := rfl
  calls := clamped_calls_pos c
  minimum := (clamped_minimum c).1
  state := rfl
  looksBack := by
    rintro failures ⟨⟩
    simp [lookBack, sinceClosed, failuresIn]
  undue := by
    rintro failures ⟨⟩
    exact not_due_nil (clamped_minimum c).1
  judged := .nil

/-- A move that reports nothing changes no closed breaker, and closes none. -/
theorem quiet (h : Alert c b log) (hbefore : m.before = b.state) (hafter : m.after = b'.state)
    (hconfig : b'.config = b.config) (hreport : m.report? = none)
    (hclosed : b.state.isClosed = true → b'.state = b.state)
    (hstays : b.state.isClosed = false → b'.state.isClosed = false)
    (hdrops : ∀ permit, m.use = .dropped permit → b.state.trial? = none → b'.state = b.state) :
    Alert c b' (log ++ [m]) := by
  have hunreported : ∀ permit success, m.use ≠ .reported permit success := by
    intro permit success hu
    simp [Move.report?, hu] at hreport
  have hwas : ∀ failures, b'.state = .closed failures → b.state = .closed failures := by
    intro failures hs
    cases hb : b.state.isClosed with
    | true => rw [← hs, hclosed hb]
    | false =>
      have := hstays hb
      simp [hs, State.isClosed] at this
  refine ⟨hconfig.trans h.config, h.calls, h.minimum, ?_, ?_, ?_, h.judged.concat ?_⟩
  · rw [stateAfter_concat, hafter]
  · intro failures hs
    have hb : m.before.isClosed = true := by
      rw [hbefore, hwas failures hs]
      rfl
    rw [lookBack_unreported c log hb hreport]
    exact h.looksBack failures (hwas failures hs)
  · intro failures hs
    exact h.undue failures (hwas failures hs)
  · rw [← hbefore, ← hafter] at hclosed hdrops
    refine ⟨hbefore.trans h.state, ?_, ?_, hdrops⟩
    · intro hb
      left
      rw [hclosed hb, hb]
    · intro hb
      rw [hclosed hb]
      constructor
      · intro hopened
        obtain ⟨failures, hs⟩ := State.isClosed_iff.mp hb
        simp [hs, State.isOpened] at hopened
      · rintro ⟨⟨permit, success, hu⟩, -⟩
        exact absurd hu (hunreported permit success)

theorem gives (h : Alert c b log) (ha : b.acquire now = (.ok permit, b')) :
    Alert c b' (log ++ [b.giving now permit]) := by
  have hafter : (b.giving now permit).after = b'.state := congrArg (·.2.state) ha
  have hacquired := acquired b now (h.config ▸ h.calls)
  rw [ha] at hacquired
  have hundropped : ∀ other, (b.giving now permit).use = .dropped other →
      b.state.trial? = none → b'.state = b.state := by
    intro other hu
    cases hu
  cases hacquired with
  | closed hb => exact h.quiet rfl hafter rfl rfl (fun _ => rfl) (fun hb => hb) hundropped
  | began hb hover =>
    exact h.quiet rfl hafter rfl rfl (by simp [hb, State.isClosed]) (fun _ => rfl) hundropped
  | trial hb hplace =>
    exact h.quiet rfl hafter rfl rfl (by simp [hb, State.isClosed]) (fun _ => rfl) hundropped

theorem refuses (h : Alert c b log) {fault : Fault} (ha : b.acquire now = (.error fault, b')) :
    Alert c b' (log ++ [b.refusing now]) := by
  have hafter : (b.refusing now).after = b'.state := congrArg (·.2.state) ha
  have hacquired := acquired b now (h.config ▸ h.calls)
  rw [ha] at hacquired
  have hsame : b' = b := by cases hacquired <;> rfl
  subst hsame
  exact h.quiet rfl hafter rfl rfl (fun _ => rfl) (fun hb => hb) fun _ hu => nomatch hu

theorem drops (h : Alert c b log) (permit : Permit) :
    Alert c (b.release permit) (log ++ [b.dropping permit]) := by
  have hstill : b.state.trial? = none → (b.release permit).state = b.state := by
    intro hb
    unfold release
    cases hs : b.state with
    | halfOpen since permitted succeeded =>
      rw [hs] at hb
      cases hb
    | closed failures => simp [hs]
    | opened since => simp [hs]
  refine h.quiet rfl rfl (release_config b permit) rfl ?_ ?_ ?_
  · intro hb
    obtain ⟨failures, hs⟩ := State.isClosed_iff.mp hb
    apply hstill
    rw [hs]
    rfl
  · intro hb
    cases hs : (b.release permit).state with
    | halfOpen since permitted succeeded => rfl
    | opened since => rfl
    | closed failures =>
      have htrial := release_trial b permit
      rw [hs] at htrial
      rw [← hstill htrial.symm, hs] at hb
      exact hb
  · intro other hu hb
    exact hstill hb

/-- A closed breaker looks back on one outcome more, and opens if it is due to. -/
theorem reports_closed (h : Alert c b log) {failures : List Bool} (hb : b.state = .closed failures)
    (now : Instant) (success : Bool) (permit : Permit) :
    Alert c (b.record now success) (log ++ [b.reporting now success permit]) := by
  have hbefore : (b.reporting now success permit).before.isClosed = true := by
    simp [reporting, hb, State.isClosed]
  have hwindow : lookBack c (log ++ [b.reporting now success permit]) =
      observed c failures (!success) := by
    rw [lookBack_reported c log hbefore rfl, ← h.looksBack failures hb]
  have hrecord : (b.record now success).state =
      if Due c (observed c failures (!success)) then .opened now
      else .closed (observed c failures (!success)) := by
    simp only [record, hb, recorded, h.config, trips_iff]
  refine ⟨h.config, h.calls, h.minimum, ?_, ?_, ?_, h.judged.concat ?_⟩
  · rw [stateAfter_concat]
    rfl
  · intro kept hs
    rw [hrecord] at hs
    split at hs
    · cases hs
    · cases hs
      exact hwindow.symm
  · intro kept hs
    rw [hrecord] at hs
    split at hs
    · cases hs
    · cases hs
      assumption
  · have hafter : (b.reporting now success permit).after = (b.record now success).state := rfl
    rw [hrecord] at hafter
    refine ⟨h.state, ?_, ?_, ?_⟩
    · intro _
      rw [hafter]
      split
      · exact .inr rfl
      · exact .inl rfl
    · intro _
      rw [hafter, hwindow]
      by_cases hdue : Due c (observed c failures (!success))
      · rw [if_pos hdue]
        exact ⟨fun _ => ⟨⟨permit, success, rfl⟩, hdue⟩, fun _ => rfl⟩
      · rw [if_neg hdue]
        constructor
        · intro hopened
          cases hopened
        · rintro ⟨-, hopens⟩
          exact absurd hopens hdue
    · intro other hu
      cases hu

/-- An outcome can close a breaker that is not closed, which starts it afresh. -/
theorem reports_unclosed (h : Alert c b log) (hb : b.state.isClosed = false) (now : Instant)
    (success : Bool) (permit : Permit) :
    Alert c (b.record now success) (log ++ [b.reporting now success permit]) := by
  have hfresh : ∀ failures, (b.record now success).state = .closed failures → failures = [] := by
    intro failures hs
    unfold record at hs
    cases hstate : b.state with
    | closed earlier =>
      rw [hstate] at hb
      cases hb
    | opened since => simp [hstate, recorded] at hs
    | halfOpen since permitted succeeded =>
      simp only [hstate, recorded] at hs
      split at hs
      · cases hs
      · split at hs
        · cases hs
          rfl
        · cases hs
  refine ⟨h.config, h.calls, h.minimum, ?_, ?_, ?_, h.judged.concat ?_⟩
  · rw [stateAfter_concat]
    rfl
  · intro failures hs
    rw [hfresh failures hs, lookBack_fresh c log hb]
  · intro failures hs
    rw [hfresh failures hs]
    exact not_due_nil h.minimum
  · refine ⟨h.state, ?_, ?_, ?_⟩
    · intro hclosed
      rw [reporting, hb] at hclosed
      cases hclosed
    · intro hclosed
      rw [reporting, hb] at hclosed
      cases hclosed
    · intro other hu
      cases hu

theorem reports (h : Alert c b log) (now : Instant) (success : Bool) (permit : Permit) :
    Alert c (b.record now success) (log ++ [b.reporting now success permit]) := by
  cases hb : b.state.isClosed with
  | false => exact h.reports_unclosed hb now success permit
  | true =>
    obtain ⟨failures, hs⟩ := State.isClosed_iff.mp hb
    exact h.reports_closed hs now success permit

/-- It does not matter when the steps take place, and which permits are out. -/
theorem upheld (c : Config) : Upheld (fun _ _ => True) fun _ b _ log => Alert c b log where
  reorder _ h := h
  pass _ h := h
  gives _ h ha := h.gives ha
  refuses h ha := h.refuses ha
  reports now success h := h.reports now success _
  drops h := h.drops _

theorem after (name : String) (c : Config) (steps : List (Instant × Step)) :
    Alert c.clamped (Watched.after name c steps).holding.breaker
      (Watched.after name c steps).log :=
  ((upheld c.clamped).after name c (.opening name c) steps fun _ _ _ _ => trivial).2

end Alert

/-! ## A run of failures -/

/-- A closed breaker that never opens is closed all along. -/
theorem closed_throughout {earlier later : List Move}
    (hj : Throughout (Judged c) (earlier ++ later)) (hclosed : (stateAfter earlier).isClosed = true)
    (hnever : ∀ m ∈ later, m.before.isClosed = true → m.after.isOpened = false) :
    (∀ m ∈ later, m.before.isClosed = true) ∧ (stateAfter (earlier ++ later)).isClosed = true := by
  induction later using List.reverseRecOn with
  | nil => simpa using hclosed
  | append_singleton later m ih =>
    rw [← List.append_assoc] at hj ⊢
    obtain ⟨hbefore, hm⟩ := hj.of_concat
    obtain ⟨hnever, hnot⟩ := List.forall_mem_append.mp hnever
    obtain ⟨hall, hlast⟩ := ih hbefore hnever
    have hb : m.before.isClosed = true := by
      rw [hm.joins]
      exact hlast
    refine ⟨List.forall_mem_append.mpr ⟨hall, List.forall_mem_singleton.mpr hb⟩, ?_⟩
    rw [stateAfter_concat]
    rcases hm.leaves hb with hstays | hopens
    · exact hstays
    · rw [List.forall_mem_singleton.mp hnot hb] at hopens
      cases hopens

theorem sinceClosed_append (earlier : List Move) {later : List Move}
    (h : ∀ m ∈ later, m.before.isClosed = true) :
    sinceClosed (earlier ++ later) = sinceClosed earlier ++ later := by
  induction later using List.reverseRecOn with
  | nil => simp
  | append_singleton later m ih =>
    obtain ⟨hall, hm⟩ := List.forall_mem_append.mp h
    rw [← List.append_assoc, sinceClosed_concat _ (hm m (List.mem_singleton_self m)), ih hall,
      List.append_assoc]

/-- The last of two lists' entries are the last of the second's, if it has so many. -/
theorem rtake_append_of_le {α : Type} (l : List α) {l' : List α} {n : Nat} (h : n ≤ l'.length) :
    (l ++ l').rtake n = l'.rtake n := by
  unfold List.rtake
  rw [List.length_append, List.drop_append, List.drop_eq_nil_of_le (by omega), List.nil_append]
  congr 1
  omega

theorem rtake_of_failures {failures : List Bool} (hall : ∀ failed ∈ failures, failed = true)
    {n : Nat} (hmany : n ≤ failures.length) : failures.rtake n = List.replicate n true := by
  unfold List.rtake
  refine List.eq_replicate_iff.mpr ⟨?_, ?_⟩
  · rw [List.length_drop]
    omega
  · intro failed hf
    exact hall failed (List.mem_of_mem_drop hf)

/-- So many failures in a row as the window has room for open a closed breaker, if its threshold
is a percentage. -/
theorem Alert.opens_of_failures (h : Alert c b log) (hsize : c.minimumCalls ≤ c.window)
    (ht : c.threshold.le (.ofNat 100) = true) {earlier later : List Move}
    (hsplit : log = earlier ++ later) (hclosed : (stateAfter earlier).isClosed = true)
    (hall : ∀ failed ∈ failuresIn later, failed = true)
    (hmany : c.window ≤ (failuresIn later).length) :
    ∃ m ∈ later, m.before.isClosed = true ∧ m.after.isOpened = true := by
  by_contra hnone
  have hnever : ∀ m ∈ later, m.before.isClosed = true → m.after.isOpened = false := by
    intro m hm hb
    rw [← Bool.not_eq_true]
    exact fun hopened => hnone ⟨m, hm, hb, hopened⟩
  obtain ⟨hbefore, hlast⟩ := closed_throughout (hsplit ▸ h.judged) hclosed hnever
  rw [← hsplit, ← h.state] at hlast
  obtain ⟨failures, hs⟩ := State.isClosed_iff.mp hlast
  have hwindow : failures = List.replicate c.window true := by
    rw [h.looksBack failures hs, lookBack, hsplit, sinceClosed_append earlier hbefore, failuresIn,
      List.filterMap_append]
    exact (rtake_append_of_le _ hmany).trans (rtake_of_failures hall hmany)
  have hpos : 0 < c.window := Nat.lt_of_lt_of_le h.minimum hsize
  exact h.undue failures hs (hwindow ▸ due_replicate hpos hsize ht)

/-! ## An open breaker -/

/-- An open breaker takes no notice of outcomes, and keeps every call back until its wait is over. -/
structure Rests (b : Breaker) (since : Instant) : Prop where
  records : ∀ now success, b.record now success = b
  rejects : ∀ now, now.nanoseconds - since.nanoseconds < b.config.openWait.nanoseconds →
    b.acquire now = (.error (.notPermitted b.name), b)

theorem rests_of_opened (hb : b.state = .opened since) : Rests b since := by
  obtain ⟨name, config, state⟩ := b
  simp only at hb
  subst hb
  constructor
  · intro now success
    simp [record, recorded]
  · intro now hwait
    simp only at hwait
    simp [acquire, awakened, hwait]

theorem acquire_opened (hcalls : 0 < b.config.halfOpenCalls) {answer : Except Fault Permit}
    (ha : b.acquire now = (answer, b')) (h : b'.state = .opened since) :
    b.state = .opened since := by
  have hacquired := acquired b now hcalls
  rw [ha] at hacquired
  cases hacquired with
  | closed hb => exact h
  | waiting hb hwait => exact h
  | began hb hover => cases h
  | trial hb hplace => cases h
  | full hb hfull => exact h

theorem record_opened (h : (b.record now success).state = .opened since) :
    b.state = .opened since ∨ since = now := by
  unfold record at h
  cases hs : b.state with
  | opened time =>
    simp only [hs, recorded] at h
    exact .inl h
  | closed failures =>
    simp only [hs, recorded] at h
    split at h
    · cases h
      exact .inr rfl
    · cases h
  | halfOpen time permitted succeeded =>
    simp only [hs, recorded] at h
    split at h
    · cases h
      exact .inr rfl
    · split at h <;> cases h

theorem release_opened (h : (b.release permit).state = .opened since) :
    b.state = .opened since := by
  unfold release at h
  split at h
  · next hs _ =>
    split at h
    · cases h
    · exact h
  · exact h

theorem ended_opened {ending : Ending} (h : (b.ended now permit ending).state = .opened since) :
    b.state = .opened since ∨ since = now := by
  cases ending with
  | success => exact record_opened h
  | failure => exact record_opened h
  | abandoned => exact .inl (release_opened h)

/-- A breaker that is open after a step was open before it, or opens at its time. -/
theorem step_opened {h : Holding} (hcalls : 0 < h.breaker.config.halfOpenCalls) {step : Step}
    (hs : (h.step now step).2.breaker.state = .opened since) :
    h.breaker.state = .opened since ∨ since = now := by
  cases step with
  | acquire name =>
    left
    simp only [Holding.step, Holding.acquire] at hs
    split at hs
    · next permit b ha =>
      apply acquire_opened hcalls ha
      cases hp : h.permit? name with
      | none =>
        rw [Holding.keep_of_none (h := ⟨b, h.held⟩) hp] at hs
        exact hs
      | some old =>
        rw [Holding.keep_of_some (h := ⟨b, h.held⟩) hp] at hs
        exact release_opened hs
    · next fault b ha => exact acquire_opened hcalls ha hs
  | record name success =>
    simp only [Holding.step, Holding.record] at hs
    split at hs
    · exact record_opened hs
    · exact .inl hs
  | drop name =>
    left
    simp only [Holding.step, Holding.drop] at hs
    split at hs
    · exact release_opened hs
    · exact hs
  | call ending =>
    simp only [Holding.step, call_eq] at hs
    split at hs
    · next fault b ha => exact .inl (acquire_opened hcalls ha hs)
    · next permit b ha =>
      rcases ended_opened hs with hb | hnow
      · exact .inl (acquire_opened hcalls ha hb)
      · exact .inr hnow
  | elapse => exact .inl hs

/-- The breaker opened at the time that it names, and has been open ever since. -/
def OpenedAt (name : String) (c : Config) (steps : List (Instant × Step)) (since : Instant) : Prop :=
  ∃ earlier step later, steps = earlier ++ (since, step) :: later ∧ ∀ more, more <+: later →
    (Watched.after name c (earlier ++ (since, step) :: more)).holding.breaker.state = .opened since

theorem openedAt (name : String) (c : Config) (steps : List (Instant × Step))
    (hs : (Watched.after name c steps).holding.breaker.state = .opened since) :
    OpenedAt name c steps since := by
  induction steps using List.reverseRecOn with
  | nil => cases hs
  | append_singleton steps timed ih =>
    have halert := Alert.after name c steps
    have hcalls : 0 < (Watched.after name c steps).holding.breaker.config.halfOpenCalls := by
      rw [halert.config]
      exact halert.calls
    have hstep := hs
    rw [Watched.after_concat] at hstep
    rcases step_opened hcalls hstep with hbefore | rfl
    · obtain ⟨earlier, step, later, rfl, hall⟩ := ih hbefore
      refine ⟨earlier, step, later ++ [timed], by simp, ?_⟩
      intro more hmore
      rcases List.prefix_concat_iff.mp hmore with rfl | hmore
      · simpa using hs
      · exact hall more hmore
    · refine ⟨steps, timed.2, [], rfl, ?_⟩
      intro more hmore
      rw [List.prefix_nil.mp hmore]
      exact hs

/-! ## The law -/

/-- How a breaker watches over the calls: what it looks back on while it is closed, when it opens,
and that it opens for certain after so many failures in a row as its window has room for. -/
structure Vigilant (c : Config) (w : Watched) : Prop where
  config : w.holding.breaker.config = c
  state : w.holding.breaker.state = stateAfter w.log
  judged : Throughout (Judged c) w.log
  closed : ∀ failures, w.holding.breaker.state = .closed failures →
    failures = lookBack c w.log ∧ Calm c failures
  outage : c.threshold.le (.ofNat 100) = true → ∀ earlier later, w.log = earlier ++ later →
    (stateAfter earlier).isClosed = true → (∀ failed ∈ failuresIn later, failed = true) →
    c.window ≤ (failuresIn later).length →
    ∃ m ∈ later, m.before.isClosed = true ∧ m.after.isOpened = true

/-- Whatever steps are taken with a breaker and its permits, at whatever times: while it is closed,
it looks back on just the last outcomes since it was closed, of which too few are failures. It
opens with the first outcome after which there are enough, which comes at the latest when all that
it looks back on are failures. While it is open, nothing happens until its wait is over, which
began when it opened. -/
theorem a_closed_breaker_opens_when_enough_calls_failed (name : String) (c : Config)
    (steps : List (Instant × Step)) :
    Vigilant c.clamped (Watched.after name c steps) ∧
      ∀ since, (Watched.after name c steps).holding.breaker.state = .opened since →
        Rests (Watched.after name c steps).holding.breaker since ∧ OpenedAt name c steps since := by
  have halert := Alert.after name c steps
  refine ⟨⟨halert.config, halert.state, halert.judged, ?_, ?_⟩, ?_⟩
  · intro failures hs
    exact ⟨halert.looksBack failures hs, calm_of_not_due (halert.undue failures hs)⟩
  · intro ht earlier later hsplit hclosed hall hmany
    exact halert.opens_of_failures (clamped_minimum c).2 ht hsplit hclosed hall hmany
  · intro since hs
    exact ⟨rests_of_opened hs, openedAt name c steps hs⟩

end Checkout.Gateway.Breaker
