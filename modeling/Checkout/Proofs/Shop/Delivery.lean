-- No settlement is lost. All that links a settled payment to its order is an
-- event that is delivered at some later time, when the order may have been
-- confirmed, cancelled or archived by others, and what settles it takes any
-- rejection for an answer. Still, as long as the store does not give up, what
-- an event calls for has been done once its settlement has ended.
import Checkout.Proofs.Shop.Announcements

namespace Checkout

open Store Service

/-! ## What an event calls for -/

/-- The act failed because the store did. -/
def Act.storeFails : Act → Bool
  | .asked _ (.error f) => f.isTransient
  | _ => false

/-- The order is out of sight, or as far as it was to move. -/
def Store.Tables.Reached (t : Tables) (id : Id) (status : OrderStatus) : Prop :=
  ∃ o ∈ t.orders, o.id = id ∧ (o.archived = true ∨ status.rank ≤ o.status.rank)

variable {t t' : Tables}

/-- What was reached stays reached. -/
theorem reached_onward {deeds : List Deed} (later : List Deed) {id : Id} {status : OrderStatus}
    (h : (Shop.after deeds).tables.Reached id status) :
    (Shop.after (deeds ++ later)).tables.Reached id status := by
  obtain ⟨o, ho, rfl, hreached⟩ := h
  obtain ⟨o', ho', hbecame⟩ := (ordersLasting_after deeds later).became o ho
  refine ⟨o', ho', hbecame.id_eq, ?_⟩
  rcases hreached with hhidden | hrank
  · exact .inl (hbecame.hidden hhidden)
  · exact .inr (hrank.trans hbecame.rank_le)

/-! ## A step that moves an order -/

/-- Unless the store fails, a query is answered as on a medium that does what it is told. -/
theorem Store.Query.answer_calm {α : Type} {q : Query α} (hq : q.work.Faithful) {c : Conditions}
    (hc : c.medium.Honest) {answer : Except Fault α} (h : q.answer c t = (answer, t'))
    (hstore : (Act.asked q answer).storeFails = false) :
    q.answer (.calm c.now) t = (answer, t') := by
  rcases hq.outcome (t := t) hc with hsame | ⟨cause, hfailed⟩
  · unfold Query.answer at h ⊢
    rw [← hsame]
    exact h
  · unfold Query.answer at h
    rw [hfailed] at h
    cases h
    cases hstore

/-- An order that is there is moved as far as it was to move, or it is out of sight, unless the
store fails or a balance has no room. -/
theorem reached_by_step {α : Type} {b : Business} {flow rest : Flow α} {around : Surroundings}
    {act : Act} (hk : t.Kept) (hp : flow.Proper b)
    (h : flow.step around t = some (act, rest, t')) {id : Id} {status : OrderStatus}
    (hmove : act.move? = some (id, status)) (hid : id ∈ t.keys Order)
    (hstore : act.storeFails = false) (hroom : act.overflows = false) :
    t'.Reached id status := by
  obtain ⟨o, ho⟩ := Tables.exists_of_mem_keys hid
  obtain ⟨hm, rfl⟩ : o ∈ t.orders ∧ o.id = id := Tables.find?_eq_some ho
  by_cases harchived : o.archived = true
  · -- an order that is out of sight stays so, whatever is done
    obtain ⟨-, ⟨β, q, a, -, hchange⟩ | ⟨-, rfl⟩⟩ := Shop.flow_step_cases hk hp h
    · obtain ⟨o', ho', hmoves⟩ := (OrdersMoved.of_change hk hchange).moves o hm
      exact ⟨o', ho', hmoves.id_eq, .inl (hmoves.hidden harchived)⟩
    · exact ⟨o, hm, rfl, .inl harchived⟩
  have hvisible : t.visible? o.id = some o :=
    visible?_eq_some.mpr ⟨ho, by simpa using harchived⟩
  rcases asked_of_move h hmove with ⟨answer, rfl, rfl, hasked⟩ | ⟨answer, rfl, rfl, hasked⟩
  · have hcalm := Query.answer_calm (q := .confirmOrder o.id) (Orders.confirm_faithful o.id)
      around.honest hasked hstore
    obtain ⟨o', ho', hid', hrank⟩ := confirm_moves hk hvisible around.now hcalm
    exact ⟨o', ho', hid', .inr hrank⟩
  · have hcalm := Query.answer_calm (q := .cancelOrder o.id) (Orders.cancel_faithful o.id)
      around.honest hasked hstore
    rcases cancel_moves hk hvisible around.now hcalm with hfull | ⟨o', ho', hid', hrank⟩
    · rw [hroom] at hfull
      cases hfull
    · exact ⟨o', ho', hid', .inr hrank⟩

/-! ## Settlements -/

/-- The move was tried, and it is only for a failure of the store that nothing came of it. -/
def Tried (move : Id × OrderStatus) (acts : List Act) : Prop :=
  ∃ act ∈ acts, act.move? = some move ∧ (act.storeFails = false ∨ acts.getLast? = some act)

/-- A settlement has tried what its event calls for. -/
def Pursued (op : Operation) (acts : List Act) (_answer : op.Answer) : Prop :=
  ∀ event ∈ op.event?, ∀ move, event.verdict? = some move → Tried move acts

section Orders

variable (id : Id) {past : List Act}

omit id in
/-- Whether it is stored and announced or not, the move was tried. -/
theorem announced_pursued {q : Query Order} {tells : Order → Event} {move : Id × OrderStatus}
    (hmove : ∀ r, (Act.asked q r).move? = some move) :
    Call.Obeys (fun _ _ => True) (fun acts _ => Tried move acts) past (do
      let order ← Call.query q
      Call.publish (tells order)
      return order) := by
  refine .query_bind (fun _ => trivial) (fun order => .publish_bind trivial (.pure ?_)) fun f => ?_
  · exact ⟨.asked q (.ok order), by simp, hmove _, .inl rfl⟩
  · exact ⟨.asked q (.error f), by simp, hmove _, .inr List.getLast?_concat⟩

theorem confirm_pursued :
    Call.Obeys (fun _ _ => True) (fun acts _ => Tried (id, .confirmed) acts) past
      (Service.Orders.confirm id) :=
  announced_pursued fun _ => rfl

theorem cancel_pursued :
    Call.Obeys (fun _ _ => True) (fun acts _ => Tried (id, .cancelled) acts) past
      (Service.Orders.cancel id) :=
  announced_pursued fun _ => rfl

end Orders

theorem settle_pursued (event : Event) :
    (Operation.settle event).flow.Obeys (fun _ _ => True) (Pursued (.settle event)) [] := by
  have hpursued : ∀ {move : Id × OrderStatus}, event.verdict? = some move →
      ∀ (acts : List Act) (answer : Option Order), Tried move acts →
        Pursued (.settle event) acts answer := by
    intro move hverdict acts answer htried other hother found hfound
    cases hother
    cases hverdict.symm.trans hfound
    exact htried
  have hattempts : 0 < Settlement.attempts := by decide
  cases event with
  | paymentCompleted p =>
    exact (persist_obeys (fun _ _ => trivial) (fun _ _ => confirm_pursued p.orderId) _
      (.inr ⟨trivial, hattempts⟩)).imp (hpursued rfl)
  | paymentFailed p reason =>
    exact (persist_obeys (fun _ _ => trivial) (fun _ _ => cancel_pursued p.orderId) _
      (.inr ⟨trivial, hattempts⟩)).imp (hpursued rfl)
  | orderConfirmed order => exact fun other hother move hmove => by cases hother; cases hmove
  | orderCancelled order => exact fun other hother move hmove => by cases hother; cases hmove

theorem pursued_all (op : Operation) : op.flow.Obeys (fun _ _ => True) (Pursued op) [] := by
  have hother : op.event? = none → op.flow.Obeys (fun _ _ => True) (Pursued op) [] := by
    intro hop
    refine op.flow_proper.obeys_anything.imp fun acts answer _ event hevent => ?_
    simp [hop] at hevent
  cases op
  case settle event => exact settle_pursued event
  all_goals exact hother rfl

/-! ## Runs in which events are delivered -/

namespace Shop

/-- Settlements are only started for events that were announced before. -/
def delivers (s : Shop) : Deed → Bool
  | .start op => op.event?.all s.announced
  | _ => true

/-- So it is in a run where settlements are only what comes of the announcements. -/
def Delivering (deeds : List Deed) : Prop :=
  Throughout (fun earlier deed => (after earlier).delivers deed = true) deeds

instance (deeds : List Deed) : Decidable (Delivering deeds) :=
  inferInstanceAs (Decidable (Throughout _ deeds))

/-- A settlement of the event has ended. -/
def handled (s : Shop) (event : Event) : Bool :=
  s.calls.any fun running => running.op.event? == some event && running.ended

/-- The event is still to be settled. It is on its way, or the call that it comes from announces it
next. -/
structure Awaits (s : Shop) (event : Event) : Prop where
  told : ∃ call, (call, event) ∈ s.announcements
  unhandled : s.handled event = false

/-- A settlement has ended with a failure of the store. -/
def gaveUp (s : Shop) (call : Nat) : Bool :=
  s.calls[call]?.any fun running => running.op.event?.isSome && running.ended &&
    (actsOf call s.record).getLast?.any (·.storeFails)

variable {deeds : List Deed}

/-- The events of all settlements were announced. -/
theorem announced_of_calls (hdelivers : Delivering deeds) :
    ∀ running ∈ (after deeds).calls, ∀ event ∈ running.op.event?,
      (after deeds).announced event = true := by
  induction deeds using List.reverseRecOn with
  | nil => exact fun _ h => nomatch h
  | append_singleton deeds deed ih =>
    obtain ⟨hearlier, hlast⟩ := Throughout.of_concat hdelivers
    have hold := ih hearlier
    rw [after_concat]
    intro running hr event hevent
    cases deed with
    | start op =>
      rcases List.mem_append.mp hr with hr | hr
      · exact hold running hr event hevent
      · rw [List.mem_singleton.mp hr] at hevent
        have hannounced : (after deeds).announced event = true := by
          simpa [delivers, Option.mem_def.mp hevent] using hlast
        exact hannounced
    | proceed call around =>
      rw [step] at hr ⊢
      rcases (after deeds).proceed_cases call around with
        hsame | ⟨going, act, rest, tables, hc, -, hnext⟩
      · rw [hsame] at hr ⊢
        exact hold running hr event hevent
      · rw [hnext] at hr ⊢
        refine announced_of_prefix ?_
        rcases List.mem_or_eq_of_mem_set hr with hr | rfl
        · exact hold running hr event hevent
        · exact hold going (List.mem_of_getElem? hc) event hevent
    | withdraw product around =>
      rcases withdraw_cases (kept_after deeds) product around with hsame | hsame
      · rw [hsame] at hr ⊢
        exact hold running hr event hevent
      · rw [hsame] at hr ⊢
        exact hold running hr event hevent

/-! ## What settlements come to -/

section Settled

variable (hdelivers : Delivering deeds)
include hdelivers

/-- What a settlement tried to do has been done, whoever did it, unless the store failed or a
balance had no room. -/
theorem reached_of_tried {call : Nat} {op : Operation} {event : Event} {act : Act}
    (hop : (after deeds).opOf? call = some op) (hevent : op.event? = some event)
    (hact : (call, act) ∈ (after deeds).record) {id : Id} {status : OrderStatus}
    (hmove : act.move? = some (id, status)) (hverdict : event.verdict? = some (id, status))
    (hstore : act.storeFails = false) (hroom : act.overflows = false) :
    (after deeds).tables.Reached id status := by
  obtain ⟨earlier, around, later, running, rest, rfl, hcall, hstep⟩ := step_of_mem_record hact
  have hr : running ∈ (after earlier).calls := List.mem_of_getElem? hcall
  have hsame : running.op = op := by
    have hlater := opOf?_onward (.proceed call around :: later) (opOf?_of_call hcall)
    exact Option.some.inj (hlater.symm.trans hop)
  have htold : (after earlier).announced event = true :=
    announced_of_calls (Throughout.of_append hdelivers) running hr event (by rw [hsame]; exact hevent)
  have hs := inOrder_after earlier
  have hreached := reached_by_step hs.kept (hs.proper running hr) hstep hmove
    (OrdersKept.order_mem_keys htold hverdict) hstore hroom
  rw [List.append_cons]
  exact reached_onward later hreached

/-- Once a settlement has ended, what its event calls for has been done. -/
theorem reached_of_handled (hstore : ∀ call < (after deeds).calls.length,
      (after deeds).gaveUp call = false)
    (hroom : ∀ entry ∈ (after deeds).record, entry.2.overflows = false) {event : Event}
    (hhandled : (after deeds).handled event = true) {id : Id} {status : OrderStatus}
    (hverdict : event.verdict? = some (id, status)) : (after deeds).tables.Reached id status := by
  unfold handled at hhandled
  obtain ⟨running, hr, hended⟩ := List.any_eq_true.mp hhandled
  obtain ⟨hevent, hended⟩ := Bool.and_eq_true_iff.mp hended
  have hevent : running.op.event? = some event := beq_iff_eq.mp hevent
  obtain ⟨call, hcall⟩ := List.getElem?_of_mem hr
  have hlt : call < (after deeds).calls.length := (List.getElem?_eq_some_iff.mp hcall).1
  have hpursued := (following_after pursued_all deeds).rest call running hcall
  have hgave := hstore call hlt
  unfold gaveUp at hgave
  rw [hcall, Option.any_some, hevent, hended] at hgave
  unfold Running.ended at hended
  split at hended
  · next answer hdone =>
    rw [hdone] at hpursued
    obtain ⟨act, hact, hmove, hfine⟩ := hpursued event hevent _ hverdict
    refine reached_of_tried hdelivers (opOf?_of_call hcall) hevent (mem_actsOf.mp hact) hmove hverdict ?_
      (hroom _ (mem_actsOf.mp hact))
    rcases hfine with hfine | hlast
    · exact hfine
    · simpa [hlast] using hgave
  · cases hended

end Settled

/-! ## The events of payments -/

/-- What came about of a payment, and is to be told, is announced with the payment as it is. -/
theorem event_of_brought {p : Payment} (hp : p ∈ (after deeds).tables.payments) {op : Operation}
    {status : PaymentStatus} (hstatus : status ≠ .pending)
    (hbrought : Brought deeds op (.payment p.id status))
    (htells : op.tells (.payment p.id status) = true) :
    ∃ call event, (call, event) ∈ (after deeds).announcements ∧
      ((status = .completed ∧ event = .paymentCompleted p) ∨
        (status = .failed ∧ ∃ reason, p.failureReason = some reason ∧
          event = .paymentFailed p reason)) := by
  have hk := kept_after deeds
  have hnews : Standing.isNews (.payment p.id status) = true := by
    simpa [Standing.isNews] using hstatus
  have hone : (after deeds).timesTold (.payment p.id status) = 1 := by
    cases mirrors_after deeds hnews with
    | never _ hnobody => exact absurd hbrought (hnobody op)
    | once other _ _ honly hcount => rw [hcount, ← honly op hbrought, if_pos htells]
  obtain ⟨⟨call, event⟩, hmem, hstanding⟩ : ∃ entry ∈ (after deeds).announcements,
      (entry.2.standing == .payment p.id status) = true := by
    apply List.countP_pos_iff.mp
    unfold timesTold at hone
    omega
  obtain ⟨earlier, around, later, hsplit, -, hstands⟩ :=
    rooted_after deeds _ ((announcements_perm deeds).mem_iff.mp hmem)
  -- the row that was stored then is the payment as it is now
  have hrow : ∀ q ∈ (after (earlier ++ [.proceed call around])).tables.payments,
      q.status ≠ .pending → q.id = p.id → q = p := by
    intro q hq hs hid
    obtain ⟨q', hq', hbecomes⟩ := becomes_after (earlier ++ [.proceed call around]) later q hq
    rw [hbecomes.final hs, ← List.append_cons, ← hsplit] at hq'
    exact payment_eq_of_id hk hp hq' hid
  refine ⟨call, event, hmem, ?_⟩
  cases event with
  | paymentCompleted q =>
    obtain ⟨hid, rfl⟩ : q.id = p.id ∧ .completed = status := by
      simpa [Event.standing] using hstanding
    obtain rfl := hrow q hstands.1 (by simp [hstands.2]) hid
    exact .inl ⟨rfl, rfl⟩
  | paymentFailed q reason =>
    obtain ⟨hid, rfl⟩ : q.id = p.id ∧ .failed = status := by
      simpa [Event.standing] using hstanding
    obtain rfl := hrow q hstands.1 (by simp [hstands.2.1]) hid
    exact .inr ⟨rfl, reason, hstands.2.2, rfl⟩
  | orderConfirmed order => simp [Event.standing] at hstanding
  | orderCancelled order => simp [Event.standing] at hstanding

/-! ## The law -/

/-- What settles an order is still to come, or it has done its work. -/
structure NothingLost (deeds : List Deed) : Prop where
  /-- The order of a completed payment is still to be confirmed, or it is no longer pending. -/
  completed : ∀ p ∈ (after deeds).tables.payments, p.status = .completed →
    (after deeds).Awaits (.paymentCompleted p) ∨
      ∃ o ∈ (after deeds).tables.orders, o.id = p.orderId ∧ o.status ≠ .pending
  /-- The order of a payment that a report or a sweep failed is still to be cancelled, or it is
  cancelled or archived. -/
  failed : ∀ p ∈ (after deeds).tables.payments, ∀ op : Operation, op.announces = true →
    Brought deeds op (.payment p.id .failed) →
    (∃ reason, p.failureReason = some reason ∧ (after deeds).Awaits (.paymentFailed p reason)) ∨
      ∃ o ∈ (after deeds).tables.orders,
        o.id = p.orderId ∧ (o.status = .cancelled ∨ o.archived = true)

end Shop

/-- However calls, sweeps and settlements interleave, and whoever else moves the orders, no settled
payment is forgotten, as long as no settlement ends with a failure of the store and no refund
outgrows a balance. -/
theorem no_settlement_is_lost (deeds : List Deed) (hdelivers : Shop.Delivering deeds)
    (hstore : ∀ call < (Shop.after deeds).calls.length, (Shop.after deeds).gaveUp call = false)
    (hroom : ∀ entry ∈ (Shop.after deeds).record, entry.2.overflows = false) :
    Shop.NothingLost deeds where
  completed p hp hs := by
    have hshows : (Shop.after deeds).tables.Shows (.payment p.id .completed) := ⟨p, hp, rfl, hs⟩
    obtain ⟨op, hbrought⟩ := Shop.brought_after deeds hshows
    obtain ⟨call, event, hmem, ⟨-, rfl⟩ | ⟨hfailed, -⟩⟩ :=
      Shop.event_of_brought hp (by simp) hbrought rfl
    · by_cases hhandled : (Shop.after deeds).handled (.paymentCompleted p) = true
      · right
        obtain ⟨o, ho, hid, hreached⟩ :=
          Shop.reached_of_handled hdelivers hstore hroom hhandled rfl
        refine ⟨o, ho, hid, fun hpending => ?_⟩
        rcases hreached with hhidden | hrank
        · have hterminal := (ordersAccounted_after deeds o ho).hidden hhidden
          rw [hpending] at hterminal
          cases hterminal
        · rw [hpending] at hrank
          simp [OrderStatus.rank] at hrank
      · exact .inl ⟨⟨call, hmem⟩, by simpa using hhandled⟩
    · cases hfailed
  failed p hp op hop hbrought := by
    obtain ⟨call, event, hmem, ⟨hcompleted, -⟩ | ⟨-, reason, hreason, rfl⟩⟩ :=
      Shop.event_of_brought hp (by simp) hbrought hop
    · cases hcompleted
    · by_cases hhandled : (Shop.after deeds).handled (.paymentFailed p reason) = true
      · right
        obtain ⟨o, ho, hid, hreached⟩ :=
          Shop.reached_of_handled hdelivers hstore hroom hhandled rfl
        refine ⟨o, ho, hid, ?_⟩
        rcases hreached with hhidden | hrank
        · exact .inr hhidden
        · left
          cases hs : o.status <;> simp [hs, OrderStatus.rank] at hrank ⊢
      · exact .inl ⟨reason, hreason, ⟨call, hmem⟩, by simpa using hhandled⟩

open TwoPayments in
/-- The settlements of an order with a failed and a completed payment have both done their work. -/
theorem two_settlements_have_done_their_work :
    let s := Shop.after paidAfterFailure
    Shop.Delivering paidAfterFailure ∧ (∀ call < s.calls.length, s.gaveUp call = false) ∧
      (∀ entry ∈ s.record, entry.2.overflows = false) ∧
      s.tables.payments.map (·.status) = [.failed, .completed] ∧
      Shop.NothingLost paidAfterFailure := by
  have hdelivers : Shop.Delivering paidAfterFailure := by decide +kernel
  have hstore : ∀ call < (Shop.after paidAfterFailure).calls.length,
      (Shop.after paidAfterFailure).gaveUp call = false := by
    decide +kernel
  have hroom : ∀ entry ∈ (Shop.after paidAfterFailure).record, entry.2.overflows = false := by
    decide +kernel
  exact ⟨hdelivers, hstore, hroom, by decide +kernel,
    no_settlement_is_lost paidAfterFailure hdelivers hstore hroom⟩

end Checkout
