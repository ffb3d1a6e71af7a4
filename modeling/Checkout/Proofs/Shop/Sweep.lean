-- The sweep of the payments that were open for too long. It lists them once,
-- and then visits one after another, in the order of the list. Whatever other
-- calls do in between, a payment is failed if it is still pending when it is
-- visited, and otherwise left alone. A cutoff beyond the calendar of the store
-- makes no payment stale, although it is later than all others.
import Checkout.Proofs.Shop.Payments
import Checkout.Proofs.Shop.Strides
import Checkout.Proofs.Shop.Tidings

namespace Checkout

open Store Service
open Service.Payments (timeoutReason)

/-! ## Payments that are stale -/

/-- The payment has been pending since before the cutoff. -/
def Payment.Overdue (cutoff : Moment) (p : Payment) : Prop :=
  p.status = .pending ∧ p.createdAt < cutoff

instance (cutoff : Moment) (p : Payment) : Decidable (p.Overdue cutoff) :=
  inferInstanceAs (Decidable (_ ∧ _))

namespace Store.Payments

variable {cutoff earlier : Moment} {p : Payment}

/-- What is stale is overdue. The reverse holds if the calendar has both points in time. -/
theorem isStale_iff : isStale cutoff p = true ↔
    p.Overdue cutoff ∧ Moment.earliest ≤ p.createdAt ∧ cutoff ≤ Moment.latest := by
  unfold isStale Payment.Overdue
  rw [Bool.and_eq_true, beq_iff_eq, Moment.isBefore_iff, and_assoc]

/-- What is stale by one cutoff is stale by a later one, but not by one beyond the calendar. -/
theorem isStale_later (hle : earlier ≤ cutoff) (hcutoff : cutoff ≤ Moment.latest)
    (h : isStale earlier p = true) : isStale cutoff p = true := by
  obtain ⟨⟨hpending, hcreated⟩, hdated, -⟩ := isStale_iff.mp h
  exact isStale_iff.mpr ⟨⟨hpending, Int.lt_of_lt_of_le hcreated hle⟩, hdated, hcutoff⟩

theorem isStale_beyond (h : Moment.latest < cutoff) (p : Payment) : isStale cutoff p = false := by
  rw [← Bool.not_eq_true, isStale_iff]
  exact fun hstale => Int.not_le.mpr h hstale.2.2

end Store.Payments

/-! ## A payment that times out -/

namespace Store.Tables

/-- The payment as it is once it has timed out, if it is there and still pending. -/
def timedOut? (t : Tables) (id : Id) : Option Payment :=
  ((t.find? id : Option Payment).filter (·.status == .pending)).map fun p =>
    { p with status := .failed, failureReason := some timeoutReason, completedAt := none }

/-- The tables after a payment has timed out, which it only can if it is still pending. -/
def expire (t : Tables) (id : Id) : Tables :=
  if (t.timedOut? id).isSome then t.settle id .failed (some timeoutReason) none else t

variable {t : Tables} {id : Id} {p : Payment}

theorem timedOut?_eq_some (h : t.timedOut? id = some p) :
    ∃ row : Payment, t.find? id = some row ∧ row.status = .pending ∧
      p = { row with
        status := .failed, failureReason := some timeoutReason, completedAt := none } := by
  obtain ⟨row, hrow, rfl⟩ := Option.map_eq_some_iff.mp h
  obtain ⟨hfind, hs⟩ := Option.filter_eq_some_iff.mp hrow
  exact ⟨row, hfind, by simpa using hs, rfl⟩

theorem expire_of_none (h : t.timedOut? id = none) : t.expire id = t := by simp [expire, h]

theorem expire_of_some (h : t.timedOut? id = some p) :
    t.expire id = t.settle id .failed (some timeoutReason) none := by
  simp [expire, h]

/-- A payment that is failed for its age is there as that leaves it. -/
theorem mem_expire (h : t.timedOut? id = some p) : p ∈ (t.expire id).payments := by
  obtain ⟨row, hfind, -, rfl⟩ := timedOut?_eq_some h
  obtain ⟨hrow, rfl⟩ := find?_eq_some hfind
  rw [expire_of_some h]
  refine List.mem_map.mpr ⟨row, hrow, ?_⟩
  simp [Row.key]

/-- To settle a payment leaves all others as they are. -/
theorem filter_settle {ids : List Id} (hid : id ∈ ids) {status : PaymentStatus}
    {reason : Option String} {completedAt : Option Moment} :
    (t.settle id status reason completedAt).payments.filter (·.id ∉ ids) =
      t.payments.filter (·.id ∉ ids) := by
  unfold settle
  induction t.payments with
  | nil => rfl
  | cons row rows ih =>
    rw [List.map_cons]
    by_cases hrow : row.id = id
    · rw [if_pos hrow, List.filter_cons_of_neg (by simpa [hrow] using hid),
        List.filter_cons_of_neg (by simpa [hrow] using hid), ih]
    · rw [if_neg hrow, List.filter_cons, List.filter_cons, ih]

end Store.Tables

/-- To fail a payment for its age lets it time out, unless the store says that it could not. -/
theorem timeout_answer (id : Id) (around : Surroundings) {t : Tables} (hk : t.Kept) :
    (Query.failPayment id timeoutReason).answer around.conditions t =
        (.ok (t.timedOut? id), t.expire id) ∨
      around.medium ≠ .sound ∧ ∃ cause,
        (Query.failPayment id timeoutReason).answer around.conditions t =
          (.error (.storage cause), t) := by
  have hcalm : (Query.failPayment id timeoutReason).work (.calm around.now) t =
      .ok (t.timedOut? id, t.expire id) := by
    change Store.Payments.settle id .failed (some timeoutReason) none (.calm around.now) t = _
    rw [Store.Payments.settle_calm id _ _ _ _ hk.numbered.payments.nodup]
    unfold Tables.expire Tables.timedOut?
    split <;> simp [*]
  exact around.answer_cases (q := .failPayment id timeoutReason)
    (Store.Payments.settle_faithful id .failed (some timeoutReason) none) hcalm

/-! ## The visits of a sweep -/

/-- A visit to a payment: the payment as it was listed, the step that fails it if it is still
pending, and the step that tells of it then. -/
structure Visit where
  payment : Payment
  update : Stride
  news : Option Stride

namespace Visit

def strides (visit : Visit) : List Stride := visit.update :: visit.news.toList

/-- The payment as it was failed by the visit, if it was still pending. -/
def expired (visit : Visit) : Option Payment := visit.update.before.timedOut? visit.payment.id

/-- The payment is failed if it is still pending when it is visited, and this alone is told.
Nothing else happens. -/
structure Fair (visit : Visit) : Prop where
  asked : visit.update.act =
    .asked (.failPayment visit.payment.id timeoutReason) (.ok visit.expired)
  left : visit.update.after = visit.update.before.expire visit.payment.id
  told : visit.news.map (·.act) =
    visit.expired.map fun p => .published (.paymentFailed p timeoutReason)
  quiet : ∀ stride ∈ visit.news, stride.after = stride.before

/-- The visit that is paid to a payment in these surroundings. -/
def paid (payment : Payment) (around : Surroundings) (before : Tables) (news : Option Stride) :
    Visit where
  payment
  update := ⟨around, before,
    .asked (.failPayment payment.id timeoutReason) (.ok (before.timedOut? payment.id)),
    before.expire payment.id⟩
  news

variable {payment : Payment} {before : Tables}

theorem paid_missed (around : Surroundings) (h : before.timedOut? payment.id = none) :
    (paid payment around before none).Fair where
  asked := rfl
  left := rfl
  told := by simp [paid, expired, h]
  quiet := by simp [paid]

theorem paid_hit (around publisher : Surroundings) (between : Tables) {failed : Payment}
    (h : before.timedOut? payment.id = some failed) :
    (paid payment around before
      (some ⟨publisher, between, .published (.paymentFailed failed timeoutReason), between⟩)).Fair
    where
  asked := rfl
  left := rfl
  told := by simp [paid, expired, h]
  quiet := by simp [paid]

end Visit

/-- Where a sweep breaks off: at a payment that the store fails to update. -/
structure Halt where
  payment : Payment
  update : Stride
  fault : Fault

/-- The store says that it failed, and has done nothing. On a medium that does what it is told this
does not happen. -/
structure Halt.Fair (halt : Halt) : Prop where
  asked : halt.update.act = .asked (.failPayment halt.payment.id timeoutReason) (.error halt.fault)
  left : halt.update.after = halt.update.before
  cause : halt.update.around.medium ≠ .sound ∧ ∃ cause, halt.fault = .storage cause

/-- Visits to payments, one after another, and where they break off if they do. -/
structure Round where
  visits : List Visit
  halt : Option Halt

namespace Round

def strides (round : Round) : List Stride :=
  round.visits.flatMap Visit.strides ++ round.halt.toList.map (·.update)

/-- The payments that were failed, as the visits left them. -/
def expired (round : Round) : List Payment := round.visits.filterMap Visit.expired

/-- What is answered in the end. -/
def answer (round : Round) : Except Fault (List Payment) :=
  match round.halt with
  | none => .ok round.expired
  | some halt => .error halt.fault

/-- Payments are visited in their order, all of them if the visits do not break off. -/
structure Fair (payments : List Payment) (round : Round) : Prop where
  visits : ∀ visit ∈ round.visits, visit.Fair
  halt : ∀ halt ∈ round.halt, halt.Fair
  inOrder : round.visits.map (·.payment) ++ round.halt.toList.map (·.payment) <+: payments
  complete : round.halt = none → round.visits.map (·.payment) = payments

/-- One more visit, before the others. -/
def cons (visit : Visit) (round : Round) : Round := { round with visits := visit :: round.visits }

variable {payments : List Payment}

@[simp] theorem strides_cons (visit : Visit) (round : Round) :
    (round.cons visit).strides = visit.strides ++ round.strides := by
  simp [cons, strides]

@[simp] theorem expired_cons (visit : Visit) (round : Round) :
    (round.cons visit).expired = visit.expired.toList ++ round.expired := by
  cases h : visit.expired <;> simp [cons, expired, h]

theorem answer_cons_none {visit : Visit} (round : Round) (h : visit.expired = none) :
    (round.cons visit).answer = round.answer := by
  unfold answer
  rw [expired_cons, h]
  rfl

theorem answer_cons_some {visit : Visit} {p : Payment} (round : Round)
    (h : visit.expired = some p) : (round.cons visit).answer = round.answer.map (p :: ·) := by
  unfold answer
  rw [expired_cons, h]
  change (match round.halt with | none => _ | some halt => _) = _
  cases round.halt <;> rfl

theorem Fair.cons {visit : Visit} {round : Round} (hvisit : visit.Fair) (h : round.Fair payments) :
    (round.cons visit).Fair (visit.payment :: payments) where
  visits := List.forall_mem_cons.mpr ⟨hvisit, h.visits⟩
  halt := h.halt
  inOrder := List.cons_prefix_cons.mpr ⟨rfl, h.inOrder⟩
  complete hnone := congrArg (visit.payment :: ·) (h.complete hnone)

end Round

namespace Service.Payments

/-- A sweep fails a payment and tells of it, or leaves it alone, and goes on to the next. -/
theorem expireAll_cons (payment : Payment) (payments : List Payment) :
    (expireAll (payment :: payments)).run =
      .ask (.failPayment payment.id timeoutReason) fun
        | .ok (some failed) => .publish (.paymentFailed failed timeoutReason) <| do
          let r ← (expireAll payments).run
          return r.map (failed :: ·)
        | .ok none => (expireAll payments).run
        | .error f => .done (.error f) := by
  refine congrArg (Flow.ask _) (funext fun r => ?_)
  match r with
  | .ok (some failed) =>
    refine congrArg (Flow.publish _) (congrArg ((expireAll payments).run >>= ·) ?_)
    funext r
    cases r <;> rfl
  | .ok none => rfl
  | .error f => rfl

/-- The stale payments are listed once, before the first visit. -/
theorem expireStale_run (cutoff : Moment) :
    (expireStale cutoff).run = .ask (.stalePayments cutoff) fun
      | .ok payments => (expireAll payments).run
      | .error f => .done (.error f) := by
  refine congrArg (Flow.ask _) (funext fun r => ?_)
  cases r <;> rfl

/-- A sweep that has come to its end has visited the payments. -/
theorem expireAll_round {payments : List Payment} {strides : List Stride}
    {r : Except Fault (List Payment)}
    (hwalk : (expireAll payments).run.Walks strides (.done r))
    (hkept : ∀ stride ∈ strides, stride.before.Kept) :
    ∃ round : Round, round.Fair payments ∧ strides = round.strides ∧ r = round.answer := by
  induction payments generalizing strides r with
  | nil =>
    obtain ⟨rfl, hdone⟩ := hwalk.done_inv
    cases hdone
    exact ⟨⟨[], none⟩, ⟨by simp, by simp, by simp, fun _ => rfl⟩, rfl, rfl⟩
  | cons payment payments ih =>
    rw [expireAll_cons] at hwalk
    obtain ⟨around, before, rest, rfl, hrest⟩ := hwalk.ask_inv
    have hk : before.Kept := hkept _ List.mem_cons_self
    have hkept := fun stride h => hkept stride (List.mem_cons_of_mem _ h)
    rcases timeout_answer payment.id around hk with hanswer | ⟨hsound, cause, hanswer⟩
    · rw [hanswer] at hrest ⊢
      cases hexpired : before.timedOut? payment.id with
      | none =>
        rw [hexpired] at hrest
        obtain ⟨round, hfair, rfl, rfl⟩ := ih hrest hkept
        refine ⟨_, hfair.cons (Visit.paid_missed around hexpired), ?_, ?_⟩
        · simp [Visit.strides, Visit.paid, hexpired]
        · exact Eq.symm (Round.answer_cons_none round hexpired)
      | some failed =>
        rw [hexpired] at hrest
        obtain ⟨publisher, between, _, rfl, hlater⟩ := hrest.publish_inv
        obtain ⟨_, first, _, rfl, hfirst, hsecond⟩ := hlater.bind_inv
        obtain ⟨rfl, hdone⟩ := hsecond.done_inv
        cases hdone
        obtain ⟨round, hfair, rfl, rfl⟩ := ih hfirst fun stride h => hkept stride (by simp [h])
        refine ⟨_, hfair.cons (Visit.paid_hit around publisher between hexpired), ?_, ?_⟩
        · simp [Visit.strides, Visit.paid, hexpired]
        · exact Eq.symm (Round.answer_cons_some round hexpired)
    · rw [hanswer] at hrest ⊢
      obtain ⟨rfl, hdone⟩ := hrest.done_inv
      cases hdone
      refine ⟨⟨[], some ⟨payment, _, .storage cause⟩⟩, ⟨by simp, ?_, by simp, by simp⟩, rfl, rfl⟩
      rintro _ ⟨⟩
      exact ⟨rfl, rfl, hsound, cause, rfl⟩

end Service.Payments

/-! ## What the visits come to -/

theorem Visit.id_of_expired {visit : Visit} {p : Payment} (h : visit.expired = some p) :
    p.id = visit.payment.id := by
  obtain ⟨row, hfind, -, rfl⟩ := Tables.timedOut?_eq_some h
  exact (Tables.find?_eq_some hfind).2

/-- What is told at a visit is that the payment was failed, if it was. -/
theorem Visit.Fair.announced {visit : Visit} (h : visit.Fair) :
    (visit.strides.map (·.act)).filterMap Act.announced? =
      visit.expired.toList.map fun p => .paymentFailed p timeoutReason := by
  have hnews := h.told
  rw [strides, List.map_cons, h.asked]
  cases hexpired : visit.expired with
  | none =>
    rw [hexpired, Option.map_none, Option.map_eq_none_iff] at hnews
    simp [hnews, Act.announced?]
  | some p =>
    rw [hexpired, Option.map_some] at hnews
    obtain ⟨stride, hstride, hact⟩ := Option.map_eq_some_iff.mp hnews
    rw [hstride, Option.toList_some, List.map_singleton, hact]
    rfl

/-- The step changes nothing but the payments, and none of these but some. -/
structure Stride.Spares (stride : Stride) (ids : List Id) : Prop where
  rest : { stride.after with payments := stride.before.payments } = stride.before
  payments : stride.after.payments.filter (·.id ∉ ids) =
    stride.before.payments.filter (·.id ∉ ids)

theorem Stride.Spares.of_eq {stride : Stride} (h : stride.after = stride.before) (ids : List Id) :
    stride.Spares ids where
  rest := by rw [h]
  payments := by rw [h]

namespace Round

variable {payments : List Payment} {round : Round}

theorem update_mem {visit : Visit} (h : visit ∈ round.visits) : visit.update ∈ round.strides :=
  List.mem_append_left _ (List.mem_flatMap.mpr ⟨visit, h, List.mem_cons_self⟩)

/-- What is told is that payments were failed, one event for each, in their order. -/
theorem Fair.announced (h : round.Fair payments) :
    (round.strides.map (·.act)).filterMap Act.announced? =
      round.expired.map fun p => .paymentFailed p timeoutReason := by
  obtain ⟨visits, halt⟩ := round
  have hhalt : ((halt.toList.map (·.update)).map (·.act)).filterMap Act.announced? = [] := by
    cases halt with
    | none => rfl
    | some halt => simp [(h.halt halt rfl).asked, Act.announced?]
  have hvisits := h.visits
  rw [strides, List.map_append, List.filterMap_append, hhalt, List.append_nil]
  clear h hhalt
  induction visits with
  | nil => rfl
  | cons visit visits ih =>
    obtain ⟨hvisit, hvisits⟩ := List.forall_mem_cons.mp hvisits
    rw [List.flatMap_cons, List.map_append, List.filterMap_append, hvisit.announced, ih hvisits]
    cases hexpired : visit.expired <;> simp [expired, hexpired]

/-- The payments that were failed are some of those that were visited, in the same order. -/
theorem ids_of_expired (round : Round) :
    (round.expired.map (·.id)).Sublist (round.visits.map (·.payment.id)) := by
  obtain ⟨visits, halt⟩ := round
  induction visits with
  | nil => exact .refl _
  | cons visit visits ih =>
    cases hexpired : visit.expired with
    | none =>
      rw [expired, List.filterMap_cons_none hexpired]
      exact ih.cons _
    | some p =>
      rw [expired, List.filterMap_cons_some hexpired, List.map_cons, Visit.id_of_expired hexpired]
      exact ih.cons_cons _

/-- The steps change nothing but the payments that are failed. -/
theorem Fair.spares (h : round.Fair payments) :
    ∀ stride ∈ round.strides, stride.Spares (round.expired.map (·.id)) := by
  intro stride hstride
  rcases List.mem_append.mp hstride with hstride | hstride
  · obtain ⟨visit, hvisit, hstride⟩ := List.mem_flatMap.mp hstride
    have hfair := h.visits visit hvisit
    rcases List.mem_cons.mp hstride with rfl | hnews
    · cases hexpired : visit.expired with
      | none => exact .of_eq (hfair.left.trans (Tables.expire_of_none hexpired)) _
      | some p =>
        have hmem : visit.payment.id ∈ round.expired.map (·.id) := by
          rw [← Visit.id_of_expired hexpired]
          exact List.mem_map_of_mem (List.mem_filterMap.mpr ⟨visit, hvisit, hexpired⟩)
        constructor
        · rw [hfair.left, Tables.expire_of_some hexpired]
          rfl
        · rw [hfair.left, Tables.expire_of_some hexpired]
          exact Tables.filter_settle hmem
    · exact .of_eq (hfair.quiet stride (Option.mem_toList.mp hnews)) _
  · obtain ⟨halt, hhalt, rfl⟩ := List.mem_map.mp hstride
    exact .of_eq (h.halt halt (Option.mem_toList.mp hhalt)).left _

end Round

/-! ## Payments over the steps of a call -/

namespace Shop

variable {call : Nat} {deeds : List Deed} {first second : List Stride} {stride other : Stride}

theorem kept_before (h : stride ∈ stridesOf call deeds) : stride.before.Kept := by
  obtain ⟨first, second, hsplit⟩ := List.append_of_mem h
  obtain ⟨earlier, later, -, -, hbefore, -⟩ := stride_split hsplit
  rw [hbefore]
  exact kept_after earlier

/-- What a step left of a payment becomes what there is at the end. -/
theorem becomes_at_end (h : stride ∈ stridesOf call deeds) {p : Payment}
    (hp : p ∈ stride.after.payments) : ∃ p' ∈ (after deeds).tables.payments, p.Becomes p' := by
  obtain ⟨first, second, hsplit⟩ := List.append_of_mem h
  obtain ⟨earlier, later, hdeeds, -, -, hafter⟩ := stride_split hsplit
  rw [hafter] at hp
  have hbecomes := becomes_after (earlier ++ [.proceed call stride.around]) later p hp
  rwa [List.append_assoc, List.singleton_append, ← hdeeds] at hbecomes

/-- What a step left of a payment becomes what a later one finds. -/
theorem becomes_later (h : stridesOf call deeds = first ++ stride :: second)
    (hother : other ∈ second) {p : Payment} (hp : p ∈ stride.after.payments) :
    ∃ p' ∈ other.before.payments, p.Becomes p' := by
  obtain ⟨between, rest, rfl⟩ := List.append_of_mem hother
  obtain ⟨earlier, middle, -, hafter, hbefore⟩ := stride_split_two h
  rw [hafter] at hp
  rw [hbefore]
  exact becomes_after (earlier ++ [.proceed call stride.around]) middle p hp

end Shop

/-! ## A sweep from its start to its end -/

/-- The payments that are listed as stale, without the damaged rows. -/
def Stride.stale (listing : Stride) (cutoff : Moment) : List Payment :=
  listing.before.payments.filter fun p =>
    Store.Payments.isStale cutoff p && !listing.around.medium.isDamaged .payments p.id

/-- A sweep that is started now finds nothing to do, and does nothing. -/
def Shop.FindsNothingStale (s : Shop) (cutoff : Moment) (around : Surroundings) : Prop :=
  (s.step (.start (.expireStale cutoff))).step (.proceed s.calls.length around) =
    { tables := s.tables
      calls := s.calls ++ [⟨.expireStale cutoff, .done (.ok [])⟩]
      record := s.record ++ [(s.calls.length, .asked (.stalePayments cutoff) (.ok []))] }

namespace Stride

variable {listing : Stride} {cutoff : Moment}

/-- By a cutoff that the calendar has, the overdue payments are listed, if it has the times at which
the payments were created. -/
theorem stale_eq (hcutoff : cutoff ≤ Moment.latest)
    (hdated : ∀ p ∈ listing.before.payments, Moment.earliest ≤ p.createdAt) :
    listing.stale cutoff = listing.before.payments.filter fun p =>
      p.Overdue cutoff && !listing.around.medium.isDamaged .payments p.id := by
  refine List.filter_congr fun p hp => ?_
  have hsame : Store.Payments.isStale cutoff p = decide (p.Overdue cutoff) := by
    rw [Bool.eq_iff_iff, decide_eq_true_iff, Store.Payments.isStale_iff]
    exact and_iff_left ⟨hdated p hp, hcutoff⟩
  rw [hsame]

theorem stale_beyond (h : Moment.latest < cutoff) (listing : Stride) : listing.stale cutoff = [] :=
  List.filter_eq_nil_iff.mpr fun p _ => by simp [Store.Payments.isStale_beyond h p]

end Stride

/-- There is nothing to visit where nothing is listed. -/
theorem Round.Fair.eq_of_nil {round : Round} (h : round.Fair []) : round = ⟨[], none⟩ := by
  obtain ⟨visits, halt⟩ := round
  obtain ⟨hvisits, hhalt⟩ := List.append_eq_nil_iff.mp (List.prefix_nil.mp h.inOrder)
  obtain rfl : visits = [] := List.map_eq_nil_iff.mp hvisits
  obtain rfl : halt = none := by simpa using hhalt
  rfl

theorem Shop.findsNothingStale {s : Shop} {cutoff : Moment}
    (h : ∀ p ∈ s.tables.payments, Store.Payments.isStale cutoff p = false) (around : Surroundings) :
    s.FindsNothingStale cutoff around := by
  have hnone : (Query.stalePayments cutoff).answer around.conditions s.tables =
      (.ok [], s.tables) := by
    refine congrArg (fun listed => (Except.ok listed, s.tables)) (List.filter_eq_nil_iff.mpr ?_)
    intro p hp hstale
    simp [h p hp] at hstale
  have hstep : (Operation.expireStale cutoff).flow.step around s.tables =
      some (.asked (.stalePayments cutoff) (.ok []), .done (.ok []), s.tables) := by
    rw [show (Operation.expireStale cutoff).flow = _ from Service.Payments.expireStale_run cutoff]
    simp only [Flow.step, hnone]
    rfl
  simp [FindsNothingStale, step, proceed, hstep]

/-- The cutoff and the answer of a sweep that has come to its end. -/
def Running.swept? : Running → Option (Moment × Except Fault (List Payment))
  | ⟨.expireStale cutoff, .done answer⟩ => some (cutoff, answer)
  | _ => none

theorem Running.eq_of_swept? {running : Running} {cutoff : Moment}
    {answer : Except Fault (List Payment)} (h : running.swept? = some (cutoff, answer)) :
    running = ⟨.expireStale cutoff, .done answer⟩ := by
  unfold swept? at h
  split at h <;> cases h
  rfl

/-- A sweep that has come to its end is among the calls if its cutoff and its answer are. -/
theorem Shop.exists_swept {s : Shop} {call : Nat} {cutoff : Moment}
    (check : Except Fault (List Payment) → Bool)
    (h : (s.calls[call]?.bind Running.swept?).any
      (fun swept => swept.1 == cutoff && check swept.2) = true) :
    ∃ answer, s.calls[call]? = some ⟨.expireStale cutoff, .done answer⟩ ∧ check answer = true := by
  obtain ⟨⟨cutoff', answer⟩, hswept, hanswer⟩ := (Option.any_eq_true _ _).mp h
  obtain ⟨running, hcall, hrunning⟩ := Option.bind_eq_some_iff.mp hswept
  rw [Running.eq_of_swept? hrunning] at hcall
  simp only [Bool.and_eq_true, beq_iff_eq] at hanswer
  obtain ⟨rfl, hcheck⟩ := hanswer
  exact ⟨answer, hcall, hcheck⟩

/-- What has happened when a sweep has come to its end. -/
structure Swept (cutoff : Moment) (deeds : List Deed) (call : Nat) (listing : Stride)
    (round : Round) : Prop where
  /-- It lists the stale payments, visits them, and does nothing else. -/
  steps : Shop.stridesOf call deeds = listing :: round.strides
  listed : listing.act = .asked (.stalePayments cutoff) (.ok (listing.stale cutoff))
  fair : round.Fair (listing.stale cutoff)
  /-- The payments that it failed come in the order of their ids, and stay failed. -/
  increasing : (round.expired.map (·.id)).Pairwise (· < ·)
  failed : ∀ p ∈ round.expired, p ∈ (Shop.after deeds).tables.payments ∧ p.status = .failed ∧
    p.failureReason = some timeoutReason
  /-- A payment that was settled before it was visited stays as it was settled. -/
  settled : ∀ visit ∈ round.visits, visit.expired = none →
    ∃ p ∈ (Shop.after deeds).tables.payments, visit.payment.Becomes p ∧ p.status ≠ .pending ∧
      visit.update.before.find? visit.payment.id = some p
  told : (actsOf call (Shop.after deeds).record).filterMap Act.announced? =
    round.expired.map fun p => .paymentFailed p timeoutReason
  /-- No step changes anything but the payments that are failed. -/
  spares : ∀ stride ∈ Shop.stridesOf call deeds, stride.Spares (round.expired.map (·.id))
  /-- What it lists are the overdue payments, unless the cutoff lies beyond the calendar. -/
  overdue : cutoff ≤ Moment.latest →
    (∀ p ∈ listing.before.payments, Moment.earliest ≤ p.createdAt) →
    listing.stale cutoff = listing.before.payments.filter fun p =>
      p.Overdue cutoff && !listing.around.medium.isDamaged .payments p.id
  /-- By a cutoff beyond the calendar it visits nothing. -/
  beyond : Moment.latest < cutoff → round = ⟨[], none⟩
  /-- On a medium that does what it is told it lists all stale payments, and does not break off. -/
  unbroken : (∀ stride ∈ Shop.stridesOf call deeds, stride.around.medium = .sound) →
    listing.stale cutoff = listing.before.payments.filter (Store.Payments.isStale cutoff) ∧
      round.halt = none
  /-- Another sweep right after it finds nothing, if this one saw all payments that were created
  before the cutoff. It has, if none were added in between, or none that are that old. The cutoff may
  be an earlier one, unless that of this sweep alone lies beyond the calendar. -/
  again : round.halt = none →
    (∀ p ∈ listing.before.payments, listing.around.medium.isDamaged .payments p.id = false) →
    (∀ p ∈ (Shop.after deeds).tables.payments, p.createdAt < cutoff →
      p.id ∈ listing.before.keys Payment) →
    ∀ cutoff' ≤ cutoff, (Moment.latest < cutoff → Moment.latest < cutoff') →
      ∀ around, (Shop.after deeds).FindsNothingStale cutoff' around

namespace Shop

variable {call : Nat} {deeds : List Deed} {cutoff : Moment} {answer : Except Fault (List Payment)}
  {listing : Stride} {round : Round}

/-- A sweep lists the stale payments, and visits them. -/
theorem sweep_steps (deeds : List Deed)
    (h : (after deeds).calls[call]? = some ⟨.expireStale cutoff, .done answer⟩) :
    ∃ (listing : Stride) (round : Round), stridesOf call deeds = listing :: round.strides ∧
      listing.act = .asked (.stalePayments cutoff) (.ok (listing.stale cutoff)) ∧
      listing.after = listing.before ∧ round.Fair (listing.stale cutoff) ∧
      answer = round.answer := by
  have hwalk : (Service.Payments.expireStale cutoff).run.Walks _ (.done answer) :=
    walks_after deeds h
  rw [Service.Payments.expireStale_run] at hwalk
  obtain ⟨around, before, rest, hsteps, hrest⟩ := hwalk.ask_inv
  obtain ⟨round, hfair, rfl, rfl⟩ := Service.Payments.expireAll_round hrest fun stride hstride =>
    kept_before (hsteps ▸ List.mem_cons_of_mem _ hstride)
  exact ⟨_, round, hsteps, rfl, rfl, hfair, rfl⟩

/-- A payment that is stale at the end, and was there at the beginning, was listed, unless its row
was damaged then. -/
theorem listed_if_stale (hsteps : stridesOf call deeds = listing :: round.strides)
    (hlisting : listing.after = listing.before) {p : Payment}
    (hp : p ∈ (after deeds).tables.payments) (hstale : Store.Payments.isStale cutoff p = true)
    (hold : p.id ∈ listing.before.keys Payment)
    (hseen : ∀ p ∈ listing.before.payments,
      listing.around.medium.isDamaged .payments p.id = false) :
    ∃ q ∈ listing.stale cutoff, q.id = p.id := by
  obtain ⟨q, hq, hid⟩ := List.mem_map.mp hold
  have hmem : listing ∈ stridesOf call deeds := hsteps ▸ List.mem_cons_self
  obtain ⟨p', hp', hbecomes⟩ := becomes_at_end hmem (hlisting ▸ hq)
  obtain rfl : p' = p := payment_eq_of_id (kept_after deeds) hp hp' (hbecomes.id_eq.trans hid)
  obtain ⟨⟨hs, hcreated⟩, hdated⟩ := Store.Payments.isStale_iff.mp hstale
  have hqs : q.status = .pending := by
    by_contra hne
    exact hne (hbecomes.final hne ▸ hs)
  rw [hbecomes.createdAt_eq] at hcreated hdated
  have hqstale : Store.Payments.isStale cutoff q = true :=
    Store.Payments.isStale_iff.mpr ⟨⟨hqs, hcreated⟩, hdated⟩
  exact ⟨q, List.mem_filter.mpr ⟨hq, by simp [hqstale, hseen q hq]⟩, hid⟩

section Steps

variable (hsteps : stridesOf call deeds = listing :: round.strides)
  (hlisting : listing.after = listing.before) (hfair : round.Fair (listing.stale cutoff))

include hsteps hfair

theorem sweep_increasing : (round.expired.map (·.id)).Pairwise (· < ·) := by
  have hkept : listing.before.Kept := kept_before (hsteps ▸ List.mem_cons_self)
  have hids : (round.visits.map (·.payment.id)).Sublist (listing.before.keys Payment) := by
    have hlisted := (List.sublist_append_left _ _).trans hfair.inOrder.sublist
    have hthere := (hlisted.trans List.filter_sublist).map (·.id)
    rwa [List.map_map] at hthere
  exact hkept.numbered.payments.increasing.sublist (round.ids_of_expired.trans hids)

theorem sweep_failed : ∀ p ∈ round.expired, p ∈ (after deeds).tables.payments ∧
    p.status = .failed ∧ p.failureReason = some timeoutReason := by
  intro p hp
  obtain ⟨visit, hvisit, hexpired⟩ := List.mem_filterMap.mp hp
  have hupdate : visit.update ∈ stridesOf call deeds :=
    hsteps ▸ List.mem_cons_of_mem _ (Round.update_mem hvisit)
  have hthere := Tables.mem_expire hexpired
  rw [← (hfair.visits visit hvisit).left] at hthere
  obtain ⟨p', hp', hbecomes⟩ := becomes_at_end hupdate hthere
  obtain ⟨row, -, -, rfl⟩ := Tables.timedOut?_eq_some hexpired
  rw [hbecomes.final nofun] at hp'
  exact ⟨hp', rfl, rfl⟩

include hlisting

/-- A listed payment is found when it is visited, as what has become of it. -/
theorem found_at_visit {visit : Visit} (hvisit : visit ∈ round.visits) :
    ∃ row ∈ visit.update.before.payments, visit.payment.Becomes row ∧
      visit.update.before.find? visit.payment.id = some row := by
  have hlisted : visit.payment ∈ listing.after.payments := by
    have hmem : visit.payment ∈ round.visits.map (·.payment) := List.mem_map_of_mem hvisit
    rw [hlisting]
    exact (List.mem_filter.mp (hfair.inOrder.subset (List.mem_append_left _ hmem))).1
  have hfirst : stridesOf call deeds = [] ++ listing :: round.strides := hsteps
  obtain ⟨row, hrow, hbecomes⟩ := becomes_later hfirst (Round.update_mem hvisit) hlisted
  have hkept : visit.update.before.Kept :=
    kept_before (hsteps ▸ List.mem_cons_of_mem _ (Round.update_mem hvisit))
  refine ⟨row, hrow, hbecomes, ?_⟩
  rw [← hbecomes.id_eq]
  exact Tables.find?_of_mem hkept.numbered.payments.nodup hrow

theorem sweep_settled : ∀ visit ∈ round.visits, visit.expired = none →
    ∃ p ∈ (after deeds).tables.payments, visit.payment.Becomes p ∧ p.status ≠ .pending ∧
      visit.update.before.find? visit.payment.id = some p := by
  intro visit hvisit hexpired
  obtain ⟨row, hrow, hbecomes, hfind⟩ := found_at_visit hsteps hlisting hfair hvisit
  have hs : row.status ≠ .pending := by
    intro hs
    simp [Visit.expired, Tables.timedOut?, hfind, hs] at hexpired
  rw [← Tables.expire_of_none hexpired, ← (hfair.visits visit hvisit).left] at hrow
  obtain ⟨p, hp, hlater⟩ := becomes_at_end
    (hsteps ▸ List.mem_cons_of_mem _ (Round.update_mem hvisit)) hrow
  rw [hlater.final hs] at hp
  exact ⟨row, hp, hbecomes, hs, hfind⟩

/-- A payment that was visited is settled at the end: by the visit, or because it had been settled
before. -/
theorem settled_once_visited {visit : Visit} (hvisit : visit ∈ round.visits) :
    ∃ p ∈ (after deeds).tables.payments, p.id = visit.payment.id ∧ p.status ≠ .pending := by
  cases hexpired : visit.expired with
  | some p =>
    have hmem : p ∈ round.expired := List.mem_filterMap.mpr ⟨visit, hvisit, hexpired⟩
    obtain ⟨hp, hs, -⟩ := sweep_failed hsteps hfair p hmem
    exact ⟨p, hp, Visit.id_of_expired hexpired, by simp [hs]⟩
  | none =>
    obtain ⟨p, hp, hbecomes, hs, -⟩ := sweep_settled hsteps hlisting hfair visit hvisit hexpired
    exact ⟨p, hp, hbecomes.id_eq, hs⟩

/-- No payment is stale any more by the cutoff of a sweep that saw all that were older, and was not
broken off. -/
theorem none_stale (hhalt : round.halt = none)
    (hseen : ∀ p ∈ listing.before.payments,
      listing.around.medium.isDamaged .payments p.id = false)
    (hold : ∀ p ∈ (after deeds).tables.payments, p.createdAt < cutoff →
      p.id ∈ listing.before.keys Payment) :
    ∀ p ∈ (after deeds).tables.payments, Store.Payments.isStale cutoff p = false := by
  intro p hp
  by_contra hstale
  rw [Bool.not_eq_false] at hstale
  obtain ⟨⟨hpending, hcreated⟩, -⟩ := Store.Payments.isStale_iff.mp hstale
  obtain ⟨q, hq, hid⟩ := listed_if_stale hsteps hlisting hp hstale (hold p hp hcreated) hseen
  rw [← hfair.complete hhalt] at hq
  obtain ⟨visit, hvisit, rfl⟩ := List.mem_map.mp hq
  obtain ⟨p', hp', hsame, hs⟩ := settled_once_visited hsteps hlisting hfair hvisit
  obtain rfl : p' = p := payment_eq_of_id (kept_after deeds) hp hp' (hsame.trans hid)
  exact hs hpending

end Steps

/-- A sweep that has come to its end has swept. -/
theorem swept_after (hsteps : stridesOf call deeds = listing :: round.strides)
    (hlisted : listing.act = .asked (.stalePayments cutoff) (.ok (listing.stale cutoff)))
    (hlisting : listing.after = listing.before) (hfair : round.Fair (listing.stale cutoff)) :
    Swept cutoff deeds call listing round where
  steps := hsteps
  listed := hlisted
  fair := hfair
  increasing := sweep_increasing hsteps hfair
  failed := sweep_failed hsteps hfair
  settled := sweep_settled hsteps hlisting hfair
  told := by
    rw [← acts_of_strides, hsteps, List.map_cons, hlisted]
    exact hfair.announced
  spares := by
    rw [hsteps]
    exact List.forall_mem_cons.mpr ⟨.of_eq hlisting _, hfair.spares⟩
  overdue := Stride.stale_eq
  beyond h := Round.Fair.eq_of_nil (Stride.stale_beyond h listing ▸ hfair)
  unbroken := by
    rw [hsteps]
    intro hsound
    obtain ⟨hlisting, hround⟩ := List.forall_mem_cons.mp hsound
    constructor
    · simp [Stride.stale, hlisting, Medium.isDamaged, Medium.sound]
    · refine Option.eq_none_iff_forall_not_mem.mpr fun halt hhalt => ?_
      refine (hfair.halt halt hhalt).cause.1 (hround _ ?_)
      exact List.mem_append_right _ (List.mem_map_of_mem (Option.mem_toList.mpr hhalt))
  again hhalt hseen hold cutoff' hle hboth around := by
    refine findsNothingStale (fun p hp => ?_) around
    by_cases hcutoff : cutoff ≤ Moment.latest
    · have hfresh := none_stale hsteps hlisting hfair hhalt hseen hold p hp
      rw [← Bool.not_eq_true] at hfresh ⊢
      exact mt (Store.Payments.isStale_later hle hcutoff) hfresh
    · exact Store.Payments.isStale_beyond (hboth (Int.not_le.mp hcutoff)) p

end Shop

/-- However the steps of other calls come in between, a sweep that keeps getting its turn comes to
an end. Then it has failed exactly those of the stale payments that were still pending when it
visited them, and has told and answered just that. Stale are the payments that are overdue, but by a
cutoff beyond the calendar none is. -/
theorem a_sweep_fails_exactly_the_stale_payments (deeds : List Deed) (call : Nat) (cutoff : Moment)
    (rest : Flow (Except Fault (List Payment)))
    (hcall : (Shop.after deeds).calls[call]? = some ⟨.expireStale cutoff, rest⟩) :
    (∀ later, Shop.Recurs call later → ∃ n answer,
      (Shop.after (Shop.course deeds later n)).calls[call]? =
        some ⟨.expireStale cutoff, .done answer⟩) ∧
    ∀ answer, rest = .done answer → ∃ listing round,
      answer = round.answer ∧ Swept cutoff deeds call listing round := by
  constructor
  · intro later hrecurs
    exact Shop.comes_to_an_end hrecurs 0 (by simpa [Shop.course] using hcall)
  · rintro answer rfl
    obtain ⟨listing, round, hsteps, hlisted, hlisting, hfair, rfl⟩ := Shop.sweep_steps deeds hcall
    exact ⟨listing, round, rfl, Shop.swept_after hsteps hlisted hlisting hfair⟩

/-- Three payments are stale. The second one completes after the sweep has listed it, and before
the sweep visits it. -/
theorem a_payment_completes_during_the_sweep :
    let price : Money := .saturated 100
    let told (key : String) : Surroundings := { Surroundings.quiet with
      receipt := .ok ⟨key, .pending, none⟩
      transaction := .ok ⟨key, 2, "VISA", "1234", price, .success, none⟩ }
    let order : NewOrder := ⟨1, [⟨1, 1, none⟩], some ⟨"VISA", "1234", "http://shop"⟩⟩
    let report : PaymentCallback := ⟨"second", 2, "VISA", "1234", price, .success, none⟩
    let deeds : List Deed :=
      [.start (.createUser "ann"), .proceed 0 .quiet, .start (.charge 1 (.saturated 300)),
        .proceed 1 .quiet, .start (.createProduct ⟨"tea", price, 3⟩ (by decide)),
        .proceed 2 .quiet, .start (.placeOrder order), .start (.placeOrder order),
        .start (.placeOrder order)] ++
      List.replicate 3 (.proceed 3 (told "first")) ++
      List.replicate 3 (.proceed 4 (told "second")) ++
      List.replicate 3 (.proceed 5 (told "third")) ++
      [.start (.expireStale 1), .proceed 6 .quiet, .start (.handleCallback report)] ++
      List.replicate 4 (.proceed 7 (told "second")) ++ List.replicate 5 (.proceed 6 .quiet)
    ∃ listing round, Swept 1 deeds 6 listing round ∧ round.expired.map (·.id) = [1, 3] ∧
      (Shop.after deeds).tables.payments.map (·.status) = [.failed, .completed, .failed] ∧
      (Shop.after deeds).FindsNothingStale 1 .quiet := by
  intro price told order report deeds
  have hended : ((Shop.after deeds).calls[6]?.bind Running.swept?).any (fun swept =>
      swept.1 == 1 && swept.2.toOption.map (·.map (·.id)) == some [1, 3]) = true := by
    decide +kernel
  have hsteps : ∀ stride ∈ Shop.stridesOf 6 deeds, stride.around.medium = .sound ∧
      ∀ p ∈ (Shop.after deeds).tables.payments, p.id ∈ stride.before.keys Payment := by
    decide +kernel
  obtain ⟨answer, hcall, hids⟩ := Shop.exists_swept
    (fun answer => answer.toOption.map (·.map (·.id)) == some [1, 3]) hended
  rw [beq_iff_eq] at hids
  obtain ⟨listing, round, rfl, hlaw⟩ :=
    (a_sweep_fails_exactly_the_stale_payments deeds 6 1 _ hcall).2 answer rfl
  have hhalt := (hlaw.unbroken fun stride hstride => (hsteps stride hstride).1).2
  have hlisting := hsteps listing (hlaw.steps ▸ List.mem_cons_self)
  refine ⟨listing, round, hlaw, ?_, by decide +kernel, ?_⟩
  · rw [Round.answer, hhalt] at hids
    simpa [Except.toOption] using hids
  · refine hlaw.again hhalt (fun p _ => ?_) (fun p hp _ => hlisting.2 p hp) 1 (le_refl 1) id .quiet
    rw [hlisting.1]
    rfl

/-- A payment is pending, and the cutoff is later than the time at which it was created. The cutoff is
the first moment beyond the calendar, so the sweep finds nothing to do. -/
theorem a_cutoff_beyond_the_calendar_spares_an_overdue_payment :
    let cutoff : Moment := Moment.latest + 1
    let price : Money := .saturated 100
    let accepted : Surroundings := { Surroundings.quiet with
      receipt := .ok ⟨"first", .pending, none⟩ }
    let order : NewOrder := ⟨1, [⟨1, 1, none⟩], some ⟨"VISA", "1234", "http://shop"⟩⟩
    let deeds : List Deed :=
      [.start (.createUser "ann"), .proceed 0 .quiet, .start (.charge 1 price), .proceed 1 .quiet,
        .start (.createProduct ⟨"tea", price, 3⟩ (by decide)), .proceed 2 .quiet,
        .start (.placeOrder order)] ++
      List.replicate 3 (.proceed 3 accepted) ++ [.start (.expireStale cutoff), .proceed 4 .quiet]
    (Shop.after deeds).calls[4]? = some ⟨.expireStale cutoff, .done (.ok [])⟩ ∧
      (Shop.after deeds).tables.keys Payment = [1] ∧
      ∀ p ∈ (Shop.after deeds).tables.payments, p.Overdue cutoff := by
  intro cutoff price accepted order deeds
  have hended : ((Shop.after deeds).calls[4]?.bind Running.swept?).any (fun swept =>
      swept.1 == cutoff && swept.2.toOption == some []) = true := by
    decide +kernel
  obtain ⟨answer, hcall, hnone⟩ := Shop.exists_swept (·.toOption == some []) hended
  cases answer with
  | error fault => cases hnone
  | ok payments =>
    obtain rfl : payments = [] := by simpa [Except.toOption] using hnone
    exact ⟨hcall, by decide +kernel, by decide +kernel⟩

end Checkout
