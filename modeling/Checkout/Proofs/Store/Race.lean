-- Calls on one coupon that nothing keeps apart. Any number of them are under
-- way, and between the read and the write of each the others may do as they
-- like. What they do to the coupon is still one change after another, each
-- made on the coupon as the one before left it.
import Checkout.Proofs.History
import Checkout.Proofs.Store.Halves
import Mathlib.Data.List.Chain

namespace Checkout.Store.Coupons

/-! ## Logs of acts -/

/-- The acts lead from some tables to others without a gap. -/
def Seamless : Tables → List Act → Tables → Prop
  | t, [], t' => t' = t
  | t, a :: log, t' => a.before = t ∧ Seamless a.after log t'

/-- The statuses that were given, in the order in which they were. -/
def given (log : List Act) : List CouponStatus :=
  (log.filter Act.wrote).map (·.errand.target)

variable {id : Id} {t t' : Tables} {log : List Act} {c : Coupon}

theorem Seamless.concat {a : Act} (h : Seamless t log a.before) :
    Seamless t (log ++ [a]) a.after := by
  induction log generalizing t with
  | nil => exact ⟨h, rfl⟩
  | cons first log ih => exact ⟨h.1, ih h.2⟩

/-- A coupon that is not there is not written. -/
theorem given_absent (h : Seamless t log t') (hlawful : ∀ a ∈ log, a.Lawful id)
    (hc : (t.find? id : Option Coupon) = none) : given log = [] := by
  induction log generalizing t with
  | nil => rfl
  | cons a log ih =>
    obtain ⟨rfl, hrest⟩ := h
    have ha : a.Lawful id := hlawful a List.mem_cons_self
    have hwrote : a.wrote = false := by
      rw [Bool.eq_false_iff]
      intro hw
      obtain ⟨read, -, hread, -⟩ := ha.written hw
      rw [hc] at hread
      cases hread
    unfold given
    rw [List.filter_cons_of_neg (by simp [hwrote])]
    apply ih hrest
    · intro b hb
      exact hlawful b (List.mem_cons_of_mem a hb)
    · rw [ha.still hwrote]
      exact hc

/-- Each write gives the coupon a status that it does not have. -/
theorem given_alternates (h : Seamless t log t') (hlawful : ∀ a ∈ log, a.Lawful id)
    (hc : t.find? id = some c) : (c.status :: given log).IsChain (· ≠ ·) := by
  induction log generalizing t c with
  | nil => simp [given]
  | cons a log ih =>
    obtain ⟨rfl, hrest⟩ := h
    have ha : a.Lawful id := hlawful a List.mem_cons_self
    have hlog := ih hrest (fun b hb => hlawful b (List.mem_cons_of_mem a hb)) (ha.row_after hc)
    cases hw : a.wrote with
    | false =>
      simpa [given, hw] using hlog
    | true =>
      obtain ⟨read, -, hread, hstatus, -⟩ := ha.written hw
      obtain rfl : c = read := by
        rw [hc] at hread
        cases hread
        rfl
      simp only [hw, if_true] at hlog
      unfold given
      rw [List.filter_cons_of_pos hw, List.map_cons, List.isChain_cons_cons]
      exact ⟨hstatus, hlog⟩

/-- The version counts the writes. -/
theorem version_counts (h : Seamless t log t') (hlawful : ∀ a ∈ log, a.Lawful id)
    (hc : t.find? id = some c) :
    ∃ c' : Coupon, t'.find? id = some c' ∧ c'.version = c.version + log.countP Act.wrote := by
  induction log generalizing t c with
  | nil =>
    obtain rfl : t' = t := h
    exact ⟨c, hc, by simp⟩
  | cons a log ih =>
    obtain ⟨rfl, hrest⟩ := h
    have ha : a.Lawful id := hlawful a List.mem_cons_self
    obtain ⟨c', hc', hversion⟩ :=
      ih hrest (fun b hb => hlawful b (List.mem_cons_of_mem a hb)) (ha.row_after hc)
    refine ⟨c', hc', ?_⟩
    rw [hversion, List.countP_cons]
    cases a.wrote with
    | false => simp
    | true =>
      simp only [if_true, Coupon.switched]
      omega

/-- Where statuses alternate and none of them is unused, there is at most one. -/
theorem length_le_one_of_used {statuses : List CouponStatus} (h : statuses.IsChain (· ≠ ·))
    (hused : ∀ s ∈ statuses, s = .used) : statuses.length ≤ 1 := by
  match statuses with
  | [] => simp
  | [_] => simp
  | first :: second :: _ =>
    have hne := (List.isChain_cons_cons.mp h).1
    rw [hused first (by simp), hused second (by simp)] at hne
    exact absurd rfl hne

theorem spent_le_one {stretch : List Act} (h : (given log).IsChain (· ≠ ·))
    (hstretch : stretch <:+: log) (hnone : ∀ a ∈ stretch, a.restored = false) :
    stretch.countP Act.spent ≤ 1 := by
  have hpart : given stretch <:+: given log := (hstretch.filter _).map _
  have hchain : (given stretch).IsChain (· ≠ ·) := List.IsChain.infix h hpart
  have hused : ∀ s ∈ given stretch, s = .used := by
    intro s hs
    obtain ⟨a, ha, rfl⟩ := List.mem_map.mp hs
    obtain ⟨ha, hw⟩ := List.mem_filter.mp ha
    have hrestored := hnone a ha
    cases htarget : a.errand.target with
    | used => rfl
    | unused => simp [Act.restored, hw, htarget] at hrestored
  calc stretch.countP Act.spent
      ≤ stretch.countP Act.wrote := by
        apply List.countP_mono_left
        intro a _ hspent
        simp only [Act.spent, Bool.and_eq_true] at hspent
        exact hspent.1
    _ = (given stretch).length := by
        unfold given
        rw [List.length_map, List.countP_eq_length_filter]
    _ ≤ 1 := length_le_one_of_used hchain hused

/-! ## The race -/

/-- A call that has read the coupon and has yet to go on. -/
structure Pending where
  errand : Errand
  read : Coupon

/-- What happens next. -/
inductive Turn where
  /-- A call begins: it reads the coupon. -/
  | start (errand : Errand)
  /-- The call in this place of those that are pending goes on to its end. -/
  | goOn (place : Nat)

/-- Calls on a coupon that are under way, and all that they did so far. -/
structure Race where
  tables : Tables
  pending : List Pending
  log : List Act

namespace Race

def step (id : Id) (r : Race) (timed : Conditions × Turn) : Race :=
  match timed.2 with
  | .start errand =>
    let a := Act.of id errand none timed.1 r.tables
    { tables := a.after
      pending := r.pending ++ (a.answer.toOption.map (⟨errand, ·⟩)).toList
      log := r.log ++ [a] }
  | .goOn place =>
    match r.pending[place]? with
    | none => r
    | some p =>
      let a := Act.of id p.errand (some p.read) timed.1 r.tables
      { tables := a.after, pending := r.pending.eraseIdx place, log := r.log ++ [a] }

/-- A race after some turns, each under conditions of its own. -/
def after (id : Id) (t : Tables) (turns : List (Conditions × Turn)) : Race :=
  turns.foldl (step id) ⟨t, [], []⟩

theorem after_concat (id : Id) (t : Tables) (turns : List (Conditions × Turn))
    (timed : Conditions × Turn) :
    after id t (turns ++ [timed]) = (after id t turns).step id timed := by
  simp [after]

end Race

/-- The first half of a call, which has read the coupon. -/
def Act.Begins (errand : Errand) (read : Coupon) (a : Act) : Prop :=
  a.errand = errand ∧ a.read? = none ∧ a.answer = .ok read

/-- What a call goes on with was read by its own first half. -/
def Act.Founded (earlier : List Act) (a : Act) : Prop :=
  ∀ read, a.read? = some read → ∃ first ∈ earlier, first.Begins a.errand read

/-- What a race keeps up. -/
structure Race.Kept (id : Id) (start : Tables) (r : Race) : Prop where
  seamless : Seamless start r.log r.tables
  lawful : ∀ a ∈ r.log, a.Lawful id
  founded : Throughout Act.Founded r.log
  recent : ∀ p ∈ r.pending, Act.Recent id r.tables p.read
  begun : ∀ p ∈ r.pending, ∃ first ∈ r.log, first.Begins p.errand p.read

namespace Race

variable {start : Tables} {r : Race}

/-- One more act: those who have read wait on, and whoever joins them has just read. -/
theorem Kept.concat {a : Act} {pending : List Pending} (h : Kept id start r)
    (hbefore : a.before = r.tables) (hlawful : a.Lawful id) (hfounded : a.Founded r.log)
    (hpending : ∀ p ∈ pending, p ∈ r.pending ∨
      a.Begins p.errand p.read ∧ Act.Recent id a.after p.read) :
    Kept id start ⟨a.after, pending, r.log ++ [a]⟩ where
  seamless := by
    apply Seamless.concat
    rw [hbefore]
    exact h.seamless
  lawful := by
    intro b hb
    rcases List.mem_append.mp hb with hb | hb
    · exact h.lawful b hb
    · rw [List.mem_singleton.mp hb]
      exact hlawful
  founded := h.founded.concat hfounded
  recent := by
    intro p hp
    rcases hpending p hp with hold | ⟨-, hnew⟩
    · have hrecent := h.recent p hold
      rw [← hbefore] at hrecent
      exact hrecent.after hlawful
    · exact hnew
  begun := by
    intro p hp
    rcases hpending p hp with hold | ⟨hnew, -⟩
    · obtain ⟨first, hfirst, hbegins⟩ := h.begun p hold
      exact ⟨first, List.mem_append_left _ hfirst, hbegins⟩
    · exact ⟨a, by simp, hnew⟩

theorem Kept.step (h : Kept id start r) (timed : Conditions × Turn) :
    Kept id start (r.step id timed) := by
  obtain ⟨c, turn⟩ := timed
  cases turn with
  | start errand =>
    apply h.concat rfl (Act.reading_lawful id errand c r.tables)
    · intro read hread
      cases hread
    · intro p hp
      rcases List.mem_append.mp hp with hp | hp
      · exact .inl hp
      · right
        cases hanswer : (Act.of id errand none c r.tables).answer with
        | error f => simp [hanswer, Except.toOption] at hp
        | ok read =>
          simp [hanswer, Except.toOption] at hp
          subst hp
          exact ⟨⟨rfl, rfl, hanswer⟩, Act.recent_of_reading hanswer⟩
  | goOn place =>
    unfold Race.step
    cases hp : r.pending[place]? with
    | none => simpa [hp] using h
    | some p =>
      simp only [hp]
      have hmem : p ∈ r.pending := List.mem_of_getElem? hp
      apply h.concat rfl (Act.writing_lawful (h.recent p hmem) p.errand c)
      · intro read hread
        cases hread
        exact h.begun p hmem
      · intro q hq
        exact .inl (List.mem_of_mem_eraseIdx hq)

theorem kept (id : Id) (start : Tables) (turns : List (Conditions × Turn)) :
    Kept id start (after id start turns) := by
  induction turns using List.reverseRecOn with
  | nil => exact ⟨rfl, by simp [after], .nil, by simp [after], by simp [after]⟩
  | append_singleton turns timed ih =>
    rw [after_concat]
    exact ih.step timed

/-- What becomes of a coupon in a race that begins with the given tables. -/
structure Guarded (id : Id) (start : Tables) (r : Race) : Prop where
  seamless : Seamless start r.log r.tables
  founded : Throughout Act.Founded r.log
  lawful : ∀ a ∈ r.log, a.Lawful id
  /-- Uses and restorations take turns. -/
  alternate : (given r.log).IsChain (· ≠ ·)
  version : ∀ c : Coupon, start.find? id = some c → ∃ c' : Coupon, r.tables.find? id = some c' ∧
    c'.version = c.version + r.log.countP Act.wrote
  /-- As long as nobody makes the coupon good again, it is used up at most once. -/
  once : ∀ stretch, stretch <:+: r.log → (∀ a ∈ stretch, a.restored = false) →
    stretch.countP Act.spent ≤ 1

/-- However the halves of the calls are interleaved, the coupon is changed by one call at a time,
and used up once between two restorations. -/
theorem a_coupon_is_used_once_between_restorations (id : Id) (start : Tables)
    (turns : List (Conditions × Turn)) :
    Halved id ∧ Guarded id start (after id start turns) := by
  have h := kept id start turns
  have halternate : (given (after id start turns).log).IsChain (· ≠ ·) := by
    cases hc : (start.find? id : Option Coupon) with
    | none =>
      rw [given_absent h.seamless h.lawful hc]
      exact .nil
    | some c => exact (given_alternates h.seamless h.lawful hc).tail
  refine ⟨halved id, h.seamless, h.founded, h.lawful, halternate, ?_, ?_⟩
  · intro c hc
    exact version_counts h.seamless h.lawful hc
  · intro stretch hstretch hnone
    exact spent_le_one halternate hstretch hnone

/-- A coupon that was used and made good again since it was read is not taken for the same. -/
example :
    let coupon : Coupon :=
      { id := 1, ownerId := 7, kind := .fixedAmount, discount := 500, status := .unused,
        version := 0 }
    let turns : List Turn :=
      [.start (.order 7), .start (.consume 7), .goOn 1, .start .restore, .goOn 1, .goOn 0]
    let race := after 1 { Tables.empty with coupons := [coupon] }
      (turns.map fun turn => (.calm 0, turn))
    race.log.map (fun a => (a.wrote, a.answer.map (·.version))) =
      [(false, .ok 0), (false, .ok 0), (true, .ok 1), (false, .ok 1), (true, .ok 2),
        (false, .error (.alreadyUsed 1))] := by
  decide

end Race

end Checkout.Store.Coupons
