-- In whatever order and however often events are delivered, their settlements
-- come to the same. An event moves its order up to a status, and not back, so
-- where an order ends depends only on which events there are. What is in stock,
-- on the balances and on the coupons follows from where the orders end.
import Checkout.Proofs.Shop.Agreement
import Checkout.Proofs.Shop.Cancellation
import Checkout.Proofs.Shop.Coupons
import Checkout.Proofs.Shop.Stock

namespace Checkout

open Store Service

/-! ## One event alone -/

namespace Service

/-- A flow that goes on after another one finds the tables as that one leaves them. -/
theorem Flow.finish_bind {α β : Type} (f : Flow α) (next : α → Flow β) (around : Surroundings)
    (t : Tables) :
    (f >>= next).finish around t =
      (next (f.finish around t).1).finish around (f.finish around t).2 := by
  induction f generalizing t with
  | done a => rfl
  | ask query rest ih => exact ih _ _
  | requestPayment user request rest ih => exact ih _ _
  | fetchTransaction user key rest ih => exact ih _ _
  | publish event rest ih => exact ih _

/-- A call that the store does not let down is not made again. -/
theorem Settlement.persist_finish {call : Call Order} {around : Surroundings} {t : Tables}
    (hdecided : ∀ f, (call.run.finish around t).1 = .error f → f.isTransient = false) (left : Nat) :
    ((Settlement.persist call (left + 1)).finish around t).2 = (call.run.finish around t).2 := by
  unfold Settlement.persist
  rw [Flow.finish_bind]
  generalize call.run.finish around t = ended at hdecided
  obtain ⟨answer, after⟩ := ended
  cases answer with
  | ok order => rfl
  | error f =>
    have hfinal : f.isTransient = false := hdecided f rfl
    simp only [hfinal, Bool.false_eq_true, if_false]
    rfl

/-- Confirming an order needs it to be seen and pending. -/
theorem Orders.confirm_finish {t : Tables} (hk : t.Kept) (id : Id) (around : Surroundings) :
    (Service.Orders.confirm id).run.finish around.mended t =
      match t.visible? id with
      | none => (.error (.notFound (.order id)), t)
      | some o =>
        if o.status = .pending then (.ok { o with status := .confirmed }, t.setStatus id .confirmed)
        else (.error (.invalidStatus id o.status), t) := by
  have hflow : (Service.Orders.confirm id).run.finish around.mended t =
      (Query.confirmOrder id).answer (.calm around.now) t :=
    announced_finish (.confirmOrder id) .orderConfirmed around.mended t
  rw [hflow, Query.answer, Query.work,
    Store.Orders.confirm_calm id around.now hk.numbered.orders.nodup]
  cases t.visible? id with
  | none => rfl
  | some o =>
    by_cases hs : o.status = .pending
    · simp only [if_pos hs]
    · simp only [if_neg hs]

end Service

namespace Store.Tables

/-- The tables after an event has been handled, with nothing else in between and nothing in the way
but the tables themselves. -/
def handle (t : Tables) (event : Event) (around : Surroundings) : Tables :=
  ((Settlement.handle event).finish around.mended t).2

/-- All that can come of an event. -/
inductive Handled (t : Tables) (event : Event) : Tables → Prop where
  | left (h : ∀ o ∈ t.orders, ∀ status, event.verdict? = some (o.id, status) →
      o.archived = true ∨ status.rank ≤ o.status.rank) : Handled t event t
  | confirmed {o : Order} (hverdict : event.verdict? = some (o.id, .confirmed))
      (ho : t.visible? o.id = some o) (hs : o.status = .pending) :
    Handled t event (t.setStatus o.id .confirmed)
  | cancelled {o : Order} (hverdict : event.verdict? = some (o.id, .cancelled))
      (ho : t.visible? o.id = some o) (hs : o.status ≠ .cancelled)
      (hroom : (t.pointsOf o.userId).cents + o.finalTotal.cents ≤ 9223372036854775807) :
    Handled t event (t.cancel o)
  | full {o : Order} (hverdict : event.verdict? = some (o.id, .cancelled))
      (ho : t.visible? o.id = some o) (hs : o.status ≠ .cancelled)
      (hfull : ¬ (t.pointsOf o.userId).cents + o.finalTotal.cents ≤ 9223372036854775807) :
    Handled t event t

variable {t t' : Tables} {event : Event}

/-- An order that cannot be seen is not there or archived. -/
theorem archived_of_visible?_none (hn : (t.keys Order).Nodup) {id : Id}
    (h : t.visible? id = none) : ∀ o ∈ t.orders, o.id = id → o.archived = true := by
  intro o ho hid
  by_contra hshown
  have hseen : t.visible? id = some o :=
    visible?_eq_some.mpr ⟨hid ▸ find?_of_mem hn ho, by simpa using hshown⟩
  rw [h] at hseen
  cases hseen

/-- An event is left alone if its order cannot be seen, or is as far as it calls for. -/
theorem Handled.of_idle (hn : (t.keys Order).Nodup) {id : Id} {status : OrderStatus}
    (hverdict : event.verdict? = some (id, status))
    (h : ∀ o, t.visible? id = some o → status.rank ≤ o.status.rank) : t.Handled event t := by
  refine .left fun o ho status' hsame => ?_
  cases hverdict.symm.trans hsame
  cases hseen : t.visible? o.id with
  | none => exact .inl (archived_of_visible?_none hn hseen o ho rfl)
  | some other =>
    obtain ⟨hfind, -⟩ := visible?_eq_some.mp hseen
    obtain ⟨hm, hid⟩ : other ∈ t.orders ∧ other.id = o.id := find?_eq_some hfind
    obtain rfl := List.inj_on_of_nodup_map hn hm ho hid
    exact .inr (h other hseen)

theorem handle_completed (hk : t.Kept) (p : Payment) (around : Surroundings) :
    t.Handled (.paymentCompleted p) (t.handle (.paymentCompleted p) around) := by
  have hn := hk.numbered.orders.nodup
  have hfinish := Orders.confirm_finish hk p.orderId around
  have hhandle : t.handle (.paymentCompleted p) around =
      ((Service.Orders.confirm p.orderId).run.finish around.mended t).2 := by
    refine Settlement.persist_finish (fun f hf => ?_) 2
    rw [hfinish] at hf
    split at hf
    · cases hf
      rfl
    · split at hf <;> cases hf
      rfl
  rw [hhandle, hfinish]
  cases hseen : t.visible? p.orderId with
  | none => exact .of_idle hn rfl fun o ho => by rw [hseen] at ho; cases ho
  | some o =>
    have hid : o.id = p.orderId := (find?_eq_some (visible?_eq_some.mp hseen).1).2
    by_cases hs : o.status = .pending
    · simp only [if_pos hs]
      rw [← hid] at hseen ⊢
      exact .confirmed (congrArg (fun id => some (id, OrderStatus.confirmed)) hid.symm) hseen hs
    · simp only [if_neg hs]
      refine .of_idle hn rfl fun other hother => ?_
      cases hseen.symm.trans hother
      revert hs
      cases o.status <;> simp [OrderStatus.rank]

theorem handle_failed (hk : t.Kept) (p : Payment) (reason : String) (around : Surroundings) :
    t.Handled (.paymentFailed p reason) (t.handle (.paymentFailed p reason) around) := by
  have hn := hk.numbered.orders.nodup
  have hfinish := cancel_finish hk p.orderId around
  have hhandle : t.handle (.paymentFailed p reason) around =
      ((Service.Orders.cancel p.orderId).run.finish around.mended t).2 := by
    refine Settlement.persist_finish (fun f hf => ?_) 2
    rw [hfinish] at hf
    split at hf
    · cases hf
      rfl
    · split at hf
      · cases hf
        rfl
      · split at hf <;> cases hf
        rfl
  rw [hhandle, hfinish]
  cases hseen : t.visible? p.orderId with
  | none => exact .of_idle hn rfl fun o ho => by rw [hseen] at ho; cases ho
  | some o =>
    have hid : o.id = p.orderId := (find?_eq_some (visible?_eq_some.mp hseen).1).2
    have hverdict : Event.verdict? (.paymentFailed p reason) = some (o.id, .cancelled) :=
      congrArg (fun id => some (id, OrderStatus.cancelled)) hid.symm
    by_cases hs : o.status = .cancelled
    · simp only [if_pos hs]
      refine .of_idle hn rfl fun other hother => ?_
      cases hseen.symm.trans hother
      rw [hs]
    rw [← hid] at hseen
    by_cases hroom : (t.pointsOf o.userId).cents + o.finalTotal.cents ≤ 9223372036854775807
    · simp only [if_neg hs, if_pos hroom]
      exact .cancelled hverdict hseen hs hroom
    · simp only [if_neg hs, if_neg hroom]
      exact .full hverdict hseen hs hroom

/-- Whatever the event, one of these comes of it. -/
theorem handled (hk : t.Kept) (event : Event) (around : Surroundings) :
    t.Handled event (t.handle event around) := by
  cases event with
  | paymentCompleted p => exact handle_completed hk p around
  | paymentFailed p reason => exact handle_failed hk p reason around
  | orderConfirmed order => exact .left fun o ho status h => nomatch h
  | orderCancelled order => exact .left fun o ho status h => nomatch h

end Store.Tables

/-! ## Where orders end -/

namespace Order

/-- The order after an event, which moves it up or leaves it alone. -/
def settledBy (o : Order) (event : Event) : Order :=
  match event.verdict? with
  | some (id, status) =>
    if id = o.id ∧ o.archived = false ∧ o.status.rank < status.rank then { o with status } else o
  | none => o

/-- The order after some events. -/
def settled (o : Order) (events : List Event) : Order := events.foldl settledBy o

theorem settledBy_with (o : Order) (event : Event) (status : OrderStatus) :
    { o.settledBy event with status } = { o with status } := by
  unfold settledBy
  split
  · split <;> rfl
  · rfl

theorem settled_with (o : Order) (events : List Event) (status : OrderStatus) :
    { o.settled events with status } = { o with status } := by
  induction events generalizing o with
  | nil => rfl
  | cons event events ih => exact (ih (o.settledBy event)).trans (settledBy_with o event status)

theorem settledBy_eq (o : Order) (event : Event) :
    o.settledBy event = { o with status := (o.settledBy event).status } :=
  settledBy_with o event (o.settledBy event).status

/-- Nothing but the status of an order changes. -/
theorem settled_eq (o : Order) (events : List Event) :
    o.settled events = { o with status := (o.settled events).status } :=
  settled_with o events (o.settled events).status

theorem settled_archived {o : Order} (ha : o.archived = true) (events : List Event) :
    o.settled events = o := by
  induction events with
  | nil => rfl
  | cons event events ih =>
    have hleft : o.settledBy event = o := by
      unfold settledBy
      split
      · simp [ha]
      · rfl
    change (o.settledBy event).settled events = o
    rw [hleft, ih]

/-- An event moves an order that is seen as far as it calls for, if that is farther. -/
theorem le_rank_settledBy {o : Order} (ha : o.archived = false) (event : Event) (n : Nat) :
    n ≤ (o.settledBy event).status.rank ↔
      n ≤ o.status.rank ∨ ∃ status, event.verdict? = some (o.id, status) ∧ n ≤ status.rank := by
  unfold settledBy
  cases hverdict : event.verdict? with
  | none => simp
  | some move =>
    obtain ⟨id, status⟩ := move
    by_cases hid : id = o.id
    · subst hid
      by_cases hrank : o.status.rank < status.rank
      · simp only [ha, hrank, and_self, if_true, Option.some.injEq, Prod.mk.injEq, true_and,
          exists_eq_left']
        omega
      · simp only [hrank, and_false, if_false, Option.some.injEq, Prod.mk.injEq, true_and,
          exists_eq_left']
        omega
    · simp [hid]

/-- How far an order gets depends on which events there are, and on nothing else. -/
theorem le_rank_settled {o : Order} (ha : o.archived = false) (events : List Event) (n : Nat) :
    n ≤ (o.settled events).status.rank ↔ n ≤ o.status.rank ∨
      ∃ event ∈ events, ∃ status, event.verdict? = some (o.id, status) ∧ n ≤ status.rank := by
  induction events generalizing o with
  | nil => simp [settled]
  | cons event events ih =>
    have hsame := o.settledBy_eq event
    have hid : (o.settledBy event).id = o.id := by rw [hsame]
    have hshown : (o.settledBy event).archived = false := by
      rw [hsame]
      exact ha
    change n ≤ ((o.settledBy event).settled events).status.rank ↔ _
    rw [ih hshown, le_rank_settledBy ha, hid, or_assoc]
    simp only [List.mem_cons, exists_eq_or_imp]

end Order

theorem OrderStatus.eq_of_rank {status status' : OrderStatus} (h : status.rank = status'.rank) :
    status = status' := by
  cases status <;> cases status' <;> first | rfl | cases h

/-- The same events, in any order and any number, take an order to the same end. -/
theorem Order.settled_congr {events events' : List Event}
    (h : ∀ event, event ∈ events ↔ event ∈ events') (o : Order) :
    o.settled events = o.settled events' := by
  by_cases ha : o.archived = true
  · rw [settled_archived ha, settled_archived ha]
  have ha : o.archived = false := by simpa using ha
  have hrank : ∀ n, n ≤ (o.settled events).status.rank ↔
      n ≤ (o.settled events').status.rank := by
    intro n
    rw [le_rank_settled ha, le_rank_settled ha]
    simp only [h]
  have hstatus : (o.settled events).status = (o.settled events').status := by
    apply OrderStatus.eq_of_rank
    apply Nat.le_antisymm
    · exact (hrank _).mp (Nat.le_refl _)
    · exact (hrank _).mpr (Nat.le_refl _)
  rw [settled_eq o events, settled_eq o events', hstatus]

/-! ## What settlements leave alone -/

namespace Store.Tables

variable {t t' t'' : Tables}

/-- Nothing is ordered, charged or issued by settlements, and what is given back goes to where it
was taken from. -/
structure Spared (t t' : Tables) : Prop where
  lines : t'.lines = t.lines
  stock : t'.stockAccount = t.stockAccount
  owners : t'.balances.map (·.userId) = t.balances.map (·.userId)
  charges : ∀ userId, t'.chargesOf userId = t.chargesOf userId
  terms : t'.coupons.map Coupon.terms = t.coupons.map Coupon.terms

namespace Spared

theorem refl (t : Tables) : Spared t t := ⟨rfl, rfl, rfl, fun _ => rfl, rfl⟩

theorem trans (h : Spared t t') (h' : Spared t' t'') : Spared t t'' where
  lines := h'.lines.trans h.lines
  stock := h'.stock.trans h.stock
  owners := h'.owners.trans h.owners
  charges userId := (h'.charges userId).trans (h.charges userId)
  terms := h'.terms.trans h.terms

theorem confirm {o : Order} (hk : t.Kept) (ho : t.find? o.id = some o) (hs : o.status = .pending) :
    Spared t (t.setStatus o.id .confirmed) where
  lines := rfl
  stock := stockAccount_map_orders (.setStatus _ _)
    (.setStatus hk.numbered.orders.nodup ho (by simp [hs]) (by simp))
  owners := rfl
  charges _ := rfl
  terms := rfl

theorem cancel {o : Order} (ho : t.find? o.id = some o) (hs : o.status ≠ .cancelled) :
    Spared t (t.cancel o) where
  lines := rfl
  stock := stockAccount_cancel (isLive_of_find? ho hs)
  owners := map_keys (booked_userId o.userId o.finalTotal) t.balances
  charges userId := by
    have hbooked := chargesOf_book (t := t) o.userId .refund o.finalTotal (some o.id) userId
    rw [if_neg (by simp), Int.add_zero] at hbooked
    exact hbooked
  terms := terms_switchCoupons (t := t) _ _

end Spared

/-! ## Room for the refunds -/

/-- What a user would get back if all events were handled: the totals of the orders of the user that
the events cancel. -/
def refundsDue (t : Tables) (events : List Event) (userId : Id) : Int :=
  t.costOf fun o => o.userId == userId && !o.archived &&
    events.any (·.verdict? == some (o.id, .cancelled))

/-- The refunds together overflow no balance. -/
def Roomy (t : Tables) (events : List Event) : Prop :=
  ∀ b ∈ t.balances, b.amount.cents + t.refundsDue events b.userId ≤ 9223372036854775807

variable {events : List Event} {event : Event}

instance (t : Tables) (events : List Event) : Decidable (t.Roomy events) :=
  inferInstanceAs (Decidable (∀ b ∈ t.balances,
    b.amount.cents + t.refundsDue events b.userId ≤ 9223372036854775807))

/-- Each refund alone has room. -/
theorem Roomy.refund (h : t.Roomy events) (hk : t.Kept) (hevent : event ∈ events) {o : Order}
    (hverdict : event.verdict? = some (o.id, .cancelled)) (ho : t.visible? o.id = some o)
    (hs : o.status ≠ .cancelled) :
    (t.pointsOf o.userId).cents + o.finalTotal.cents ≤ 9223372036854775807 := by
  obtain ⟨hfind, hshown⟩ := visible?_eq_some.mp ho
  have hm : o ∈ t.orders := (find?_eq_some hfind).1
  obtain ⟨b, hb⟩ := hk.numbered.exists_balance (hk.linked.order_user o hm)
  obtain ⟨hmb, hid⟩ : b ∈ t.balances ∧ b.userId = o.userId := find?_eq_some hb
  have hroom := h b hmb
  have hnamed : events.any (·.verdict? == some (o.id, .cancelled)) = true :=
    List.any_eq_true.mpr ⟨event, hevent, by simp [hverdict]⟩
  -- the refund is one of those that are due
  have hone := tally_single (l := t.orders) Order.id (fun other => (other.userId == o.userId &&
      !other.archived && events.any (·.verdict? == some (other.id, .cancelled))) &&
    other.status != .cancelled) (·.finalTotal.cents) hk.numbered.orders.nodup hm
  simp only [beq_self_eq_true, hshown, Bool.not_false, hnamed, bne_iff_ne.mpr hs,
    Bool.and_self, if_true] at hone
  have hdue : o.finalTotal.cents ≤ t.refundsDue events o.userId := by
    rw [← hone]
    refine tally_le_of_imp (fun other _ hother => ?_) hk.linked.order_total
    exact (Bool.and_eq_true_iff.mp hother).1
  rw [hid] at hroom
  rw [pointsOf_eq hb]
  omega

/-- Room is kept as long as what is given back is no longer due. -/
theorem Roomy.of_spared (h : t.Roomy events) (hk : t.Kept) (hk' : t'.Kept) (hspared : Spared t t')
    (hmoved : ∀ userId, t'.refundsDue events userId + t.spentBy userId ≤
      t.refundsDue events userId + t'.spentBy userId) : t'.Roomy events := by
  intro b' hb'
  have howner : b'.userId ∈ t.balances.map (·.userId) := by
    rw [← hspared.owners]
    exact List.mem_map_of_mem hb'
  obtain ⟨b, hb, hid⟩ := List.mem_map.mp howner
  have hroom := h b hb
  have hsum := hk.accounted.sum b hb
  have hsum' := hk'.accounted.sum b' hb'
  have hdue := hmoved b.userId
  rw [← hid, hspared.charges] at hsum'
  rw [← hid]
  omega

/-! ## One event after another -/

/-- What some events make of the tables. -/
structure Settled (t : Tables) (events : List Event) (t' : Tables) : Prop where
  kept : t'.Kept
  counted : t'.CouponsCounted
  orders : t'.orders = t.orders.map (·.settled events)
  spared : Spared t t'

/-- One order that is seen is moved up as the event calls for, and no other. -/
theorem setStatus_orders (hn : (t.keys Order).Nodup) {o : Order} {status : OrderStatus}
    (hverdict : event.verdict? = some (o.id, status)) (ho : t.visible? o.id = some o)
    (hrank : o.status.rank < status.rank) :
    (t.setStatus o.id status).orders = t.orders.map (·.settled [event]) := by
  obtain ⟨hfind, hshown⟩ := visible?_eq_some.mp ho
  have hm : o ∈ t.orders := (find?_eq_some hfind).1
  apply List.map_congr_left
  intro other hother
  change _ = other.settledBy event
  unfold Order.settledBy
  simp only [hverdict]
  by_cases hid : other.id = o.id
  · obtain rfl := List.inj_on_of_nodup_map hn hother hm hid
    rw [if_pos rfl, if_pos ⟨rfl, hshown, hrank⟩]
  · rw [if_neg hid, if_neg fun h => hid h.1.symm]

/-- Whatever comes of an event that has room is what it calls for, and there is still room for the
other ones. -/
theorem Handled.settled (h : t.Handled event t') (hk : t.Kept) (hc : t.CouponsCounted)
    (hevent : event ∈ events) (hroom : t.Roomy events) :
    Settled t [event] t' ∧ t'.Roomy events := by
  have hn := hk.numbered.orders.nodup
  cases h with
  | left hidle =>
    refine ⟨⟨hk, hc, ?_, .refl t⟩, hroom⟩
    rw [List.map_congr_left (g := id), List.map_id]
    intro o ho
    change o.settledBy event = o
    unfold Order.settledBy
    cases hverdict : event.verdict? with
    | none => rfl
    | some move =>
      obtain ⟨id, status⟩ := move
      simp only
      rw [if_neg]
      rintro ⟨rfl, hshown, hrank⟩
      rcases hidle o ho status hverdict with hhidden | hle
      · rw [hshown] at hhidden
        cases hhidden
      · omega
  | @confirmed o hverdict ho hs =>
    have hfind := (visible?_eq_some.mp ho).1
    have hchange : Change 0 t (.confirmOrder o.id) { o with status := .confirmed }
      (t.setStatus o.id .confirmed) := .confirmed ho hs
    have hspared : Spared t (t.setStatus o.id .confirmed) := .confirm hk hfind hs
    have hsame : SameLife t fun other =>
        if other.id = o.id then { other with status := .confirmed } else other :=
      .setStatus hn hfind (by simp [hs]) (by simp)
    refine ⟨⟨hchange.kept hk, hc.change hk hchange, ?_, hspared⟩, ?_⟩
    · exact setStatus_orders hn hverdict ho (by simp [hs, OrderStatus.rank])
    · refine hroom.of_spared hk (hchange.kept hk) hspared fun userId => ?_
      have hspent := spentBy_map_orders (.setStatus o.id .confirmed) hsame userId
      have hdue : (t.setStatus o.id .confirmed).refundsDue events userId =
          t.refundsDue events userId := by
        refine costOf_map_orders (.setStatus o.id .confirmed) hsame fun other _ => ?_
        split <;> rfl
      change _ + _ ≤ _ + Tables.spentBy _ userId
      rw [hdue]
      exact (congrArg _ hspent.symm).le
  | @cancelled o hverdict ho hs hfits =>
    obtain ⟨hfind, hshown⟩ := visible?_eq_some.mp ho
    have hm : o ∈ t.orders := (find?_eq_some hfind).1
    have hchange : Change 0 t (.cancelOrder o.id) { o with status := .cancelled }
      (t.cancel o) := .cancelled ho hs hfits
    refine ⟨⟨hchange.kept hk, hc.change hk hchange, ?_, .cancel hfind hs⟩, ?_⟩
    · refine setStatus_orders hn hverdict ho ?_
      revert hs
      cases o.status <;> simp [OrderStatus.rank]
    · refine hroom.of_spared hk (hchange.kept hk) (.cancel hfind hs) fun userId => ?_
      have hspent := spentBy_cancel hn hm hs userId
      have hdue := costOf_cancel hn hm hs fun other => other.userId == userId &&
        !other.archived && events.any (·.verdict? == some (other.id, .cancelled))
      have hnamed : events.any (·.verdict? == some (o.id, .cancelled)) = true :=
        List.any_eq_true.mpr ⟨event, hevent, by simp [hverdict]⟩
      simp only [hshown, Bool.not_false, hnamed, Bool.and_true, beq_iff_eq] at hdue
      change (t.cancel o).costOf _ + _ ≤ t.costOf _ + _
      rw [hdue, hspent]
      omega
  | full hverdict ho hs hfull => exact absurd (hroom.refund hk hevent hverdict ho hs) hfull

/-- The tables after events have been handled one after another, each in its own surroundings. -/
def handleAll (t : Tables) (deliveries : List (Event × Surroundings)) : Tables :=
  deliveries.foldl (fun t delivery => t.handle delivery.1 delivery.2) t

/-- Events with room are settled, whatever their order. -/
theorem settled_handleAll (hk : t.Kept) (hc : t.CouponsCounted) (hroom : t.Roomy events)
    (deliveries : List (Event × Surroundings)) (h : ∀ d ∈ deliveries, d.1 ∈ events) :
    Settled t (deliveries.map (·.1)) (t.handleAll deliveries) := by
  induction deliveries generalizing t with
  | nil => exact ⟨hk, hc, (List.map_id t.orders).symm, .refl t⟩
  | cons d deliveries ih =>
    obtain ⟨hfirst, hroom'⟩ :=
      (handled hk d.1 d.2).settled hk hc (h d List.mem_cons_self) hroom
    have hrest := ih hfirst.kept hfirst.counted hroom' fun e he => h e (List.mem_cons_of_mem d he)
    refine ⟨hrest.kept, hrest.counted, ?_, hfirst.spared.trans hrest.spared⟩
    have horders := hrest.orders
    rw [hfirst.orders, List.map_map] at horders
    exact horders

/-! ## What follows from where the orders end -/

/-- The tables agree on all that settlements have to do with. -/
structure SameOutcome (t t' : Tables) : Prop where
  orders : t'.orders = t.orders
  stock : t'.products.map (fun p => (p.id, p.stock)) = t.products.map fun p => (p.id, p.stock)
  balances : t'.balances = t.balances
  coupons : t'.coupons = t.coupons

/-- Rows are the same if they have the same keys, and no two of one key differ. -/
theorem eq_of_map_eq {α β : Type} {key : α → β} {rows rows' : List α}
    (h : rows'.map key = rows.map key)
    (hsame : ∀ r' ∈ rows', ∀ r ∈ rows, key r' = key r → r' = r) : rows' = rows := by
  induction rows generalizing rows' with
  | nil => exact List.map_eq_nil_iff.mp h
  | cons r rows ih =>
    cases rows' with
    | nil => cases h
    | cons r' rows' =>
      rw [List.map_cons, List.map_cons, List.cons.injEq] at h
      rw [hsame r' List.mem_cons_self r List.mem_cons_self h.1, ih h.2]
      intro s' hs' s hs
      exact hsame s' (List.mem_cons_of_mem r' hs') s (List.mem_cons_of_mem r hs)

section Outcome

variable {first second : Tables} (horders : second.orders = first.orders)
  (hlines : second.lines = first.lines)
include horders hlines

theorem liveTally_of_orders (meets : OrderLine → Bool) (figure : OrderLine → Int) :
    second.liveTally meets figure = first.liveTally meets figure := by
  refine liveTally_congr meets figure hlines fun id => ?_
  rw [isLive, isLive, horders]

/-- What is in stock is what the live orders have left of it. -/
theorem stock_of_orders (hstock : second.stockAccount = first.stockAccount) :
    second.products.map (fun p => (p.id, p.stock)) =
      first.products.map fun p => (p.id, p.stock) := by
  have hcommitted : second.committed = first.committed :=
    funext fun id => liveTally_of_orders horders hlines _ _
  have hleft : ∀ t : Tables, t.products.map (fun p => (p.id, p.stock)) =
      t.stockAccount.map fun entry => (entry.1, entry.2 - t.committed entry.1) := by
    intro t
    unfold stockAccount
    rw [List.map_map]
    apply List.map_congr_left
    intro p _
    simp
  rw [hleft, hleft, hstock, hcommitted]

omit hlines in
/-- What is on a balance is what was charged and not spent. -/
theorem balances_of_orders (hfirst : first.Accounted) (hsecond : second.Accounted)
    (howners : second.balances.map (·.userId) = first.balances.map (·.userId))
    (hcharges : ∀ userId, second.chargesOf userId = first.chargesOf userId) :
    second.balances = first.balances := by
  refine eq_of_map_eq howners fun b' hb' b hb hid => ?_
  have hsum := hfirst.sum b hb
  have hsum' := hsecond.sum b' hb'
  rw [hid, hcharges, spentBy, horders] at hsum'
  have hamount : b'.amount = b.amount := Money.ext (hsum'.trans hsum.symm)
  cases b'
  cases b
  simp_all

/-- A coupon is in use by a live order or not, and its version tells how often it was. -/
theorem coupons_of_orders (hfirst : first.Kept) (hsecond : second.Kept)
    (hcounted : first.CouponsCounted) (hcounted' : second.CouponsCounted)
    (hterms : second.coupons.map Coupon.terms = first.coupons.map Coupon.terms) :
    second.coupons = first.coupons := by
  refine eq_of_map_eq hterms fun c' hc' c hc hsame => ?_
  have haccount := hcounted.account hfirst hc
  have haccount' := hcounted'.account hsecond hc'
  have hid : c'.id = c.id := congrArg Prod.fst hsame
  have huses : second.liveUses c'.id = first.liveUses c.id := by
    rw [hid]
    exact liveTally_of_orders horders hlines _ _
  have hused : c'.status = .used ↔ c.status = .used := by
    rw [haccount'.used, haccount.used, huses]
  have hstatus : c'.status = c.status := by
    revert hused
    cases c'.status <;> cases c.status <;> simp
  have hversion := hcounted.version c hc
  have hversion' := hcounted'.version c' hc'
  rw [huses, hid, namings, hlines, ← namings] at hversion'
  have hversions : c'.version = c.version := by omega
  cases c'
  cases c
  simp_all [Coupon.terms]

end Outcome

theorem Settled.sameOutcome {t first second : Tables} {events events' : List Event}
    (h : Settled t events first) (h' : Settled t events' second)
    (hsame : ∀ event, event ∈ events ↔ event ∈ events') : SameOutcome first second := by
  have horders : second.orders = first.orders := by
    rw [h'.orders, h.orders]
    apply List.map_congr_left
    intro o _
    exact (o.settled_congr hsame).symm
  have hlines : second.lines = first.lines := h'.spared.lines.trans h.spared.lines.symm
  refine ⟨horders, ?_, ?_, ?_⟩
  · exact stock_of_orders horders hlines (h'.spared.stock.trans h.spared.stock.symm)
  · exact balances_of_orders horders h.kept.accounted h'.kept.accounted
      (h'.spared.owners.trans h.spared.owners.symm)
      fun userId => (h'.spared.charges userId).trans (h.spared.charges userId).symm
  · exact coupons_of_orders horders hlines h.kept h'.kept h.counted h'.counted
      (h'.spared.terms.trans h.spared.terms.symm)

end Store.Tables

/-! ## The law -/

/-- After any run, settlement events whose refunds together overflow no balance come to the same in
any order and any number: the status of every order, the stock of every product, the balance of
every user, and the status and the version of every coupon. -/
theorem settlements_come_to_the_same_in_any_order (deeds : List Deed)
    (deliveries again : List (Event × Surroundings))
    (hsame : ∀ event, event ∈ deliveries.map (·.1) ↔ event ∈ again.map (·.1))
    (hroom : (Shop.after deeds).tables.Roomy (deliveries.map (·.1))) :
    Tables.SameOutcome ((Shop.after deeds).tables.handleAll deliveries)
      ((Shop.after deeds).tables.handleAll again) := by
  have hk := Shop.kept_after deeds
  have hc := couponsCounted_after deeds
  refine Tables.Settled.sameOutcome (Tables.settled_handleAll hk hc hroom deliveries ?_)
    (Tables.settled_handleAll hk hc hroom again ?_) hsame
  · exact fun d hd => List.mem_map_of_mem hd
  · exact fun d hd => (hsame d.1).mpr (List.mem_map_of_mem hd)

open TwoPayments in
/-- An order that one payment has paid and another one has failed for is cancelled in the end, and
its goods and points are back, whichever event comes first and however often. -/
theorem a_failure_cancels_in_any_order :
    let t := (Shop.after ordered).tables
    let paid : Event × Surroundings := (.paymentCompleted (completed 2 "second"), around "")
    let lost : Event × Surroundings :=
      (.paymentFailed (failed 1 "first" Payments.declinedReason) Payments.declinedReason, around "")
    t.Roomy ([paid, lost].map (·.1)) ∧
      Tables.SameOutcome (t.handleAll [paid, lost]) (t.handleAll [lost, paid, lost]) ∧
      (t.handleAll [paid, lost]).orders.map (·.status) = [.cancelled] ∧
      (t.handleAll [paid, lost]).products.map (·.stock) = [1] ∧
      (t.handleAll [paid, lost]).balances.map (·.amount) = [price] := by
  intro t paid lost
  have hsame : ∀ event, event ∈ [paid, lost].map (·.1) ↔ event ∈ [lost, paid, lost].map (·.1) := by
    intro event
    simp only [List.map_cons, List.map_nil, List.mem_cons, List.not_mem_nil, or_false]
    tauto
  have hroom : t.Roomy ([paid, lost].map (·.1)) := by decide +kernel
  exact ⟨hroom, settlements_come_to_the_same_in_any_order ordered _ _ hsame hroom,
    by decide +kernel, by decide +kernel, by decide +kernel⟩

end Checkout
