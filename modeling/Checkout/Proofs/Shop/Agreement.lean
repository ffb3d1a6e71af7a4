-- What an order is once all is delivered. A payment and its order are settled
-- in two units of work, with any steps of other calls in between. When no
-- announcement is left to be carried out, each order stands as its payments
-- say: one that a failure was announced of is cancelled, whatever other payment
-- of it is completed, and any other one is confirmed exactly if it is paid.
import Checkout.Proofs.Shop.Moves
import Checkout.Proofs.Shop.News

namespace Checkout

open Store Service

/-! ## Orderly runs -/

/-- The call has nothing left to do. -/
def Running.ended (running : Running) : Bool :=
  match running.rest with
  | .done _ => true
  | _ => false

namespace Shop

/-- The event was announced. -/
def announced (s : Shop) (event : Event) : Bool :=
  s.record.any fun entry => entry.2.tells? == some event

/-- In an orderly run nobody moves an order but the settlements. Each is for an event that was
announced before, and finds a sound medium whenever it goes on. -/
def orderly (s : Shop) : Deed → Bool
  | .start op =>
    match op.event? with
    | some event => s.announced event
    | none => op.business != .moving
  | .proceed call around =>
    around.medium == .sound || s.calls[call]?.all fun running => running.op.event? == none
  | .withdraw _ _ => true

def orderlyFrom (s : Shop) : List Deed → Bool
  | [] => true
  | deed :: deeds => s.orderly deed && (s.step deed).orderlyFrom deeds

/-- Every announcement has been carried out, and no call has one left to make. -/
structure Delivered (s : Shop) : Prop where
  carried : ∀ entry ∈ s.record, ∀ event ∈ entry.2.tells?,
    ∃ running ∈ s.calls, running.op.event? = some event ∧ running.ended = true
  told : ∀ call : Fin s.calls.length, s.calls[call].op.announces = true →
    newsIn (actsOf call s.record) = none

/-- A failed payment of the order was announced. -/
def failureTold (s : Shop) (id : Id) : Bool :=
  s.record.any fun entry => entry.2.tells?.any fun event => event.verdict? == some (id, .cancelled)

/-- A payment of the order is completed. -/
def paid (s : Shop) (id : Id) : Bool :=
  s.tables.payments.any fun p => p.orderId == id && p.status == .completed

/-- What the payments of an order say that it is to be. -/
def statusDue (s : Shop) (id : Id) : OrderStatus :=
  if s.failureTold id then .cancelled else if s.paid id then .confirmed else .pending

theorem orderlyFrom_concat (s : Shop) (deeds : List Deed) (deed : Deed) :
    s.orderlyFrom (deeds ++ [deed]) =
      (s.orderlyFrom deeds && (deeds.foldl step s).orderly deed) := by
  induction deeds generalizing s with
  | nil => simp [orderlyFrom]
  | cons first deeds ih => simp [orderlyFrom, ih, Bool.and_assoc]

variable {s : Shop}

theorem announced_iff {event : Event} :
    s.announced event = true ↔ ∃ entry ∈ s.record, entry.2.tells? = some event := by
  simp [announced]

theorem announced_of_prefix {event : Event} {later : List (Nat × Act)} {tables : Tables}
    {calls : List Running} (h : s.announced event = true) :
    Shop.announced ⟨tables, calls, s.record ++ later⟩ event = true := by
  obtain ⟨entry, he, htells⟩ := announced_iff.mp h
  exact announced_iff.mpr ⟨entry, List.mem_append_left _ he, htells⟩

theorem failureTold_iff {id : Id} : s.failureTold id = true ↔
    ∃ event, s.announced event = true ∧ event.verdict? = some (id, .cancelled) := by
  unfold failureTold
  simp only [List.any_eq_true, Option.any_eq_true, beq_iff_eq, announced_iff]
  constructor
  · rintro ⟨entry, he, event, htells, hverdict⟩
    exact ⟨event, ⟨entry, he, htells⟩, hverdict⟩
  · rintro ⟨event, ⟨entry, he, htells⟩, hverdict⟩
    exact ⟨entry, he, event, htells, hverdict⟩

theorem paid_iff {id : Id} : s.paid id = true ↔
    ∃ p ∈ s.tables.payments, p.orderId = id ∧ p.status = .completed := by
  simp [paid]

end Shop

/-! ## The orders of payments -/

variable {t t' : Tables}

/-- The order of every payment is there. -/
def PaymentsLinked (t : Tables) : Prop := ∀ p ∈ t.payments, p.orderId ∈ t.keys Order

theorem PaymentsLinked.change {α : Type} {q : Query α} {a : α} {now : Moment}
    (h : PaymentsLinked t) (hk : t.Kept) (hchange : Change now t q a t') : PaymentsLinked t' := by
  have hkeys : ∀ id ∈ t.keys Order, id ∈ t'.keys Order := by
    intro id hid
    obtain ⟨o, ho, rfl⟩ := List.mem_map.mp hid
    obtain ⟨o', ho', hsame, -⟩ := (change_orders hchange).onward hk o ho
    exact List.mem_map.mpr ⟨o', ho', hsame⟩
  intro p hp
  cases hchange with
  | placed order =>
    rcases List.mem_append.mp hp with hp | hp
    · exact hkeys _ (h p hp)
    · obtain ⟨details, -, rfl⟩ := Option.map_eq_some_iff.mp (Option.mem_toList.mp hp)
      exact List.mem_map_of_mem (List.mem_append_right _ (List.mem_singleton.mpr rfl))
  | opened new ho =>
    rcases List.mem_append.mp hp with hp | hp
    · exact h p hp
    · rw [List.mem_singleton.mp hp]
      exact Tables.mem_keys_of_find? (visible?_eq_some.mp ho).1
  | keyed | completed | failed =>
    obtain ⟨other, ho, rfl⟩ := List.mem_map.mp hp
    split <;> exact h other ho
  | _ => exact hkeys _ (h p hp)

theorem paymentsLinked_after (deeds : List Deed) : PaymentsLinked (Shop.after deeds).tables := by
  apply Shop.holds_after (P := fun t _ => PaymentsLinked t) fun _ h => nomatch h
  intro t t' record record' hk h hadvance
  cases hadvance with
  | answered call hchange => exact h.change hk hchange
  | waited | noted | withdrew => exact h

/-! ## What an orderly run keeps up -/

/-- The orders are as far as they were moved, and not farther, and only settlements move any. -/
structure OrdersKept (s : Shop) : Prop where
  calls : ∀ running ∈ s.calls, running.op.business = .moving →
    ∃ event ∈ running.op.event?, s.announced event = true
  shown : ∀ o ∈ s.tables.orders, o.archived = false
  arrived : ∀ entry ∈ s.record, ∀ id status, entry.2.move? = some (id, status) →
    entry.2.overflows = true ∨ ∃ o ∈ s.tables.orders, o.id = id ∧ status.rank ≤ o.status.rank
  origin : ∀ o ∈ s.tables.orders, o.status ≠ .pending →
    ∃ entry ∈ s.record, entry.2.move? = some (o.id, o.status)

namespace OrdersKept

variable {deeds : List Deed}

theorem opening : OrdersKept .opening where
  calls := fun _ h => nomatch h
  shown := fun _ h => nomatch h
  arrived := fun _ h => nomatch h
  origin := fun _ h => nomatch h

/-- What moves an order was called for, and nothing puts one out of sight. -/
theorem guided {s : Shop} (h : OrdersKept s) {running : Running} (hr : running ∈ s.calls)
    {past : List Act} {act : Act} (hrule : Guided running.op past act) :
    act.archives = false ∧ ∀ move, act.move? = some move →
      ∃ event ∈ running.op.event?, s.announced event = true ∧ event.verdict? = some move := by
  constructor
  · by_contra harchives
    obtain ⟨hmoving, hnone⟩ := hrule.archives (by simpa using harchives)
    obtain ⟨event, hevent, -⟩ := h.calls running hr hmoving
    rw [hnone] at hevent
    cases hevent
  · intro move hmove
    obtain ⟨hmoving, hverdict⟩ := hrule.moves move hmove
    obtain ⟨event, hevent, htold⟩ := h.calls running hr hmoving
    exact ⟨event, hevent, htold, hverdict event hevent⟩

/-- The order of an announced event is there. -/
theorem order_mem_keys {event : Event} (htold : (Shop.after deeds).announced event = true)
    {id : Id} {status : OrderStatus} (hverdict : event.verdict? = some (id, status)) :
    id ∈ (Shop.after deeds).tables.keys Order := by
  obtain ⟨entry, he, htells⟩ := Shop.announced_iff.mp htold
  have hholds := told_holds deeds he htells
  cases event with
  | paymentCompleted p | paymentFailed p reason =>
    cases hverdict
    exact paymentsLinked_after deeds p hholds.1
  | orderConfirmed order | orderCancelled order => cases hverdict

theorem start (h : OrdersKept (Shop.after deeds)) (op : Operation)
    (horderly : (Shop.after deeds).orderly (.start op) = true) :
    OrdersKept ((Shop.after deeds).step (.start op)) := by
  refine ⟨fun running hr hmoving => ?_, h.shown, h.arrived, h.origin⟩
  rcases List.mem_append.mp hr with hr | hr
  · exact h.calls running hr hmoving
  · rw [List.mem_singleton.mp hr] at hmoving ⊢
    change ∃ event ∈ op.event?, _
    change op.business = .moving at hmoving
    unfold Shop.orderly at horderly
    simp only at horderly
    cases hevent : op.event? with
    | some event =>
      rw [hevent] at horderly
      exact ⟨event, rfl, horderly⟩
    | none => simp [hevent, hmoving] at horderly

theorem proceed (h : OrdersKept (Shop.after deeds)) (call : Nat) (around : Surroundings)
    (horderly : (Shop.after deeds).orderly (.proceed call around) = true) :
    OrdersKept ((Shop.after deeds).proceed call around) := by
  have hs := Shop.inOrder_after deeds
  rcases (Shop.after deeds).proceed_cases call around with
    hsame | ⟨running, act, rest, tables, hc, hf, hnext⟩
  · rw [hsame]
    exact h
  rw [hnext]
  have hr : running ∈ (Shop.after deeds).calls := List.mem_of_getElem? hc
  obtain ⟨harchives, hmoves⟩ :=
    h.guided hr (((guided_after deeds).rest call running hc).step hf).1
  have hchange : OrderChange (Shop.after deeds).tables act tables.orders := by
    obtain ⟨-, ⟨β, q, a, rfl, hchange⟩ | ⟨-, rfl⟩⟩ :=
      Shop.flow_step_cases hs.kept (hs.proper running hr) hf
    · exact change_orders hchange
    · exact .same
  constructor
  · -- the call that goes on keeps its operation
    intro other ho hmoving
    have hold : ∃ old ∈ (Shop.after deeds).calls, old.op = other.op := by
      rcases List.mem_or_eq_of_mem_set ho with ho | rfl
      · exact ⟨other, ho, rfl⟩
      · exact ⟨running, hr, rfl⟩
    obtain ⟨old, hold, hop⟩ := hold
    rw [← hop] at hmoving ⊢
    obtain ⟨event, hevent, htold⟩ := h.calls old hold hmoving
    exact ⟨event, hevent, Shop.announced_of_prefix htold⟩
  · exact hchange.shown harchives h.shown
  · intro entry he id status hmove
    rcases List.mem_append.mp he with he | he
    · refine (h.arrived entry he id status hmove).imp_right fun ⟨o, ho, hid, hrank⟩ => ?_
      obtain ⟨o', ho', hid', hrank'⟩ := hchange.onward hs.kept o ho
      exact ⟨o', ho', hid'.trans hid, hrank.trans hrank'⟩
    · rw [List.mem_singleton.mp he] at hmove ⊢
      obtain ⟨event, hevent, htold, hverdict⟩ := hmoves _ hmove
      -- only a settlement moves an order, and it finds a sound medium
      have hsound : around.medium = .sound := by
        simpa [Shop.orderly, hc, Option.mem_def.mp hevent] using horderly
      exact moved_by_step hs.kept h.shown hsound hf hmove (order_mem_keys htold hverdict)
  · intro o ho hs
    rcases hchange.origin o ho hs with ⟨before, hb, hid, hstatus⟩ | hmove
    · obtain ⟨entry, he, hmove⟩ := h.origin before hb (hstatus ▸ hs)
      rw [hid, hstatus] at hmove
      exact ⟨entry, List.mem_append_left _ he, hmove⟩
    · exact ⟨(call, act), List.mem_append_right _ (List.mem_singleton.mpr rfl), hmove⟩

end OrdersKept

theorem ordersKept_after (deeds : List Deed) (horderly : Shop.opening.orderlyFrom deeds = true) :
    OrdersKept (Shop.after deeds) := by
  induction deeds using List.reverseRecOn with
  | nil => exact .opening
  | append_singleton deeds deed ih =>
    rw [Shop.orderlyFrom_concat, Bool.and_eq_true] at horderly
    obtain ⟨hearlier, hlast⟩ := horderly
    have h := ih hearlier
    rw [Shop.after_concat]
    cases deed with
    | start op => exact h.start op hlast
    | proceed call around => exact h.proceed call around hlast
    | withdraw product around =>
      rcases Shop.withdraw_cases (Shop.kept_after deeds) product around with hsame | hsame
      · rw [hsame]
        exact h
      · rw [hsame]
        exact ⟨h.calls, h.shown, h.arrived, h.origin⟩

/-! ## The law -/

section Law

variable {deeds : List Deed} (horderly : Shop.opening.orderlyFrom deeds = true)
  (hroom : ∀ entry ∈ (Shop.after deeds).record, entry.2.overflows = false)
  (hdelivered : (Shop.after deeds).Delivered)
include horderly

/-- An order that is no longer pending was moved by the settlement of an announced event. -/
theorem called_for_of_moved {o : Order} (ho : o ∈ (Shop.after deeds).tables.orders)
    (hs : o.status ≠ .pending) :
    ∃ event, (Shop.after deeds).announced event = true ∧
      event.verdict? = some (o.id, o.status) := by
  have hkept := ordersKept_after deeds horderly
  obtain ⟨entry, he, hmove⟩ := hkept.origin o ho hs
  obtain ⟨earlier, later, hsplit⟩ := List.append_of_mem he
  obtain ⟨running, hcall, hrule⟩ := (guided_after deeds).acts earlier entry later hsplit
  obtain ⟨event, -, htold, hverdict⟩ :=
    (hkept.guided (List.mem_of_getElem? hcall) hrule).2 _ hmove
  exact ⟨event, htold, hverdict⟩

theorem failureTold_of_cancelled {o : Order} (ho : o ∈ (Shop.after deeds).tables.orders)
    (hs : o.status = .cancelled) : (Shop.after deeds).failureTold o.id = true := by
  obtain ⟨event, htold, hverdict⟩ := called_for_of_moved horderly ho (by simp [hs])
  exact Shop.failureTold_iff.mpr ⟨event, htold, hs ▸ hverdict⟩

theorem paid_of_confirmed {o : Order} (ho : o ∈ (Shop.after deeds).tables.orders)
    (hs : o.status = .confirmed) : (Shop.after deeds).paid o.id = true := by
  obtain ⟨event, htold, hverdict⟩ := called_for_of_moved horderly ho (by simp [hs])
  obtain ⟨entry, he, htells⟩ := Shop.announced_iff.mp htold
  have hholds := told_holds deeds he htells
  cases event with
  | paymentCompleted p =>
    simp only [Event.verdict?, Option.some.injEq, Prod.mk.injEq] at hverdict
    exact Shop.paid_iff.mpr ⟨p, hholds.1, hverdict.1, hholds.2⟩
  | paymentFailed p reason => simp [Event.verdict?, hs] at hverdict
  | orderConfirmed order | orderCancelled order => cases hverdict

include hroom hdelivered

/-- What an announced event calls for has been done. -/
theorem arrived_of_announced {event : Event} (htold : (Shop.after deeds).announced event = true)
    {o : Order} (ho : o ∈ (Shop.after deeds).tables.orders) {status : OrderStatus}
    (hverdict : event.verdict? = some (o.id, status)) : status.rank ≤ o.status.rank := by
  obtain ⟨entry, he, htells⟩ := Shop.announced_iff.mp htold
  obtain ⟨running, hr, hevent, hended⟩ := hdelivered.carried entry he event htells
  obtain ⟨call, hcall⟩ := List.getElem?_of_mem hr
  have hrest := (guided_after deeds).rest call running hcall
  unfold Running.ended at hended
  split at hended
  · next answer hdone =>
    rw [hdone] at hrest
    obtain ⟨act, hact, hmove⟩ := hrest event hevent _ hverdict
    have hentry := mem_actsOf.mp hact
    rcases (ordersKept_after deeds horderly).arrived _ hentry _ _ hmove with hfull | harrived
    · rw [hroom _ hentry] at hfull
      cases hfull
    · obtain ⟨o', ho', hid, hrank⟩ := harrived
      have hids := (Shop.kept_after deeds).numbered.orders.nodup
      obtain rfl := List.inj_on_of_nodup_map hids ho' ho hid
      exact hrank
  · cases hended

theorem cancelled_of_failureTold {o : Order} (ho : o ∈ (Shop.after deeds).tables.orders)
    (hfailure : (Shop.after deeds).failureTold o.id = true) : o.status = .cancelled := by
  obtain ⟨event, htold, hverdict⟩ := Shop.failureTold_iff.mp hfailure
  have hrank := arrived_of_announced horderly hroom hdelivered htold ho hverdict
  cases hs : o.status <;> simp [hs, OrderStatus.rank] at hrank ⊢

theorem moved_of_paid {o : Order} (ho : o ∈ (Shop.after deeds).tables.orders)
    (hpaid : (Shop.after deeds).paid o.id = true) : o.status ≠ .pending := by
  intro hs
  obtain ⟨p, hp, hid, hcompleted⟩ := Shop.paid_iff.mp hpaid
  -- with nothing left to announce, the completion was announced
  obtain ⟨call, running, hcall, hop, htold | hnext⟩ := completed_told deeds hp hcompleted
  · have hannounced : (Shop.after deeds).announced (.paymentCompleted p) = true :=
      Shop.announced_iff.mpr ⟨_, htold, rfl⟩
    have hrank := arrived_of_announced horderly hroom hdelivered hannounced ho
      (congrArg (fun id => some (id, OrderStatus.confirmed)) hid)
    simp [hs, OrderStatus.rank] at hrank
  · obtain ⟨hlt, hget⟩ := List.getElem?_eq_some_iff.mp hcall
    have hnone := hdelivered.told ⟨call, hlt⟩
    simp only [Fin.getElem_fin, hget] at hnone
    rw [hnone hop] at hnext
    cases hnext

end Law

/-- Once all that was announced in an orderly run is carried out, the order of every payment is
there, and each order is what its payments say. -/
theorem orders_stand_as_their_payments_say (deeds : List Deed)
    (horderly : Shop.opening.orderlyFrom deeds = true)
    (hroom : ∀ entry ∈ (Shop.after deeds).record, entry.2.overflows = false)
    (hdelivered : (Shop.after deeds).Delivered) :
    (∀ p ∈ (Shop.after deeds).tables.payments, ∃ o ∈ (Shop.after deeds).tables.orders,
      o.id = p.orderId) ∧
    ∀ o ∈ (Shop.after deeds).tables.orders, o.status = (Shop.after deeds).statusDue o.id := by
  constructor
  · intro p hp
    exact List.mem_map.mp (paymentsLinked_after deeds p hp)
  intro o ho
  unfold Shop.statusDue
  by_cases hfailure : (Shop.after deeds).failureTold o.id = true
  · rw [if_pos hfailure]
    exact cancelled_of_failureTold horderly hroom hdelivered ho hfailure
  rw [if_neg hfailure]
  by_cases hpaid : (Shop.after deeds).paid o.id = true
  · rw [if_pos hpaid]
    cases hs : o.status with
    | pending => exact absurd hs (moved_of_paid horderly hroom hdelivered ho hpaid)
    | confirmed => rfl
    | cancelled => exact absurd (failureTold_of_cancelled horderly ho hs) hfailure
  · rw [if_neg hpaid]
    cases hs : o.status with
    | pending => rfl
    | confirmed => exact absurd (paid_of_confirmed horderly ho hs) hpaid
    | cancelled => exact absurd (failureTold_of_cancelled horderly ho hs) hfailure

/-! ## Two payments of one order -/

namespace TwoPayments

def price : Money := .saturated 100

def card : PaymentDetails := ⟨"VISA", "1234", "http://shop"⟩

/-- The processor begins a transaction under this key, and vouches for it when asked. -/
def around (key : String) : Surroundings where
  now := 0
  medium := .sound
  honest := .sound
  receipt := .ok ⟨key, .pending, none⟩
  transaction := .ok ⟨key, 1, card.cardType, card.cardNo, price, .success, none⟩

/-- A call from its start to its end, in so many steps. -/
def made (op : Operation) (call steps : Nat) (key : String) : List Deed :=
  .start op :: List.replicate steps (.proceed call (around key))

def report (key : String) (status : TransactionStatus) : PaymentCallback :=
  ⟨key, 1, card.cardType, card.cardNo, price, status, none⟩

/-- A user has ordered something, and begun to pay for it. -/
def ordered : List Deed :=
  made (.createUser "ann") 0 1 "" ++ made (.charge 1 price) 1 1 "" ++
  made (.createProduct ⟨"tea", price, 1⟩ (by decide)) 2 1 "" ++
  made (.placeOrder ⟨1, [⟨1, 1, none⟩], some card⟩) 3 3 "first"

def completed (id : Id) (key : String) : Payment :=
  ⟨id, 1, 1, price, card.cardType, card.maskedCardNo, card.callbackUrl, .completed, some key, none,
    some 0, 0⟩

def failed (id : Id) (key reason : String) : Payment :=
  ⟨id, 1, 1, price, card.cardType, card.maskedCardNo, card.callbackUrl, .failed, some key,
    some reason, none, 0⟩

/-- The first payment succeeds, and its order is settled. -/
def paidAtOnce : List Deed :=
  ordered ++ made (.handleCallback (report "first" .success)) 4 4 "first" ++
  made (.settle (.paymentCompleted (completed 1 "first"))) 5 2 ""

/-- The first payment fails. Before its order is settled, a second one succeeds. Then the order is
settled for the second one, and last for the first one. -/
def paidAfterFailure : List Deed :=
  ordered ++ made (.handleCallback (report "first" .failed)) 4 3 "first" ++
  made (.payOrder 1 ⟨1, price, card⟩) 5 4 "second" ++
  made (.handleCallback (report "second" .success)) 6 4 "second" ++
  made (.settle (.paymentCompleted (completed 2 "second"))) 7 2 "" ++
  made (.settle (.paymentFailed (failed 1 "first" Payments.declinedReason)
    Payments.declinedReason)) 8 2 ""

end TwoPayments

open TwoPayments in
/-- An order that is paid at once is confirmed. -/
theorem a_paid_order_is_confirmed :
    let s := Shop.after paidAtOnce
    Shop.opening.orderlyFrom paidAtOnce = true ∧
      (∀ entry ∈ s.record, entry.2.overflows = false) ∧ s.Delivered ∧
      s.tables.orders.map (·.id) = [1] ∧ s.statusDue 1 = .confirmed ∧
      ∀ o ∈ s.tables.orders, o.status = s.statusDue o.id := by
  have horderly : Shop.opening.orderlyFrom paidAtOnce = true := by decide +kernel
  have hroom : ∀ entry ∈ (Shop.after paidAtOnce).record, entry.2.overflows = false := by
    decide +kernel
  have hdelivered : (Shop.after paidAtOnce).Delivered := ⟨by decide +kernel, by decide +kernel⟩
  refine ⟨horderly, hroom, hdelivered, by decide +kernel, by decide +kernel, ?_⟩
  exact (orders_stand_as_their_payments_say paidAtOnce horderly hroom hdelivered).2

open TwoPayments in
/-- The failure of an earlier payment cancels an order that a later payment has paid and confirmed,
if it is carried out last. -/
theorem an_earlier_failure_cancels_a_paid_order :
    let s := Shop.after paidAfterFailure
    Shop.opening.orderlyFrom paidAfterFailure = true ∧
      (∀ entry ∈ s.record, entry.2.overflows = false) ∧ s.Delivered ∧
      ∃ p ∈ s.tables.payments, p.status = .completed ∧
        ∃ o ∈ s.tables.orders, o.id = p.orderId ∧ o.status = .cancelled := by
  refine ⟨by decide +kernel, by decide +kernel, ⟨by decide +kernel, by decide +kernel⟩, ?_⟩
  decide +kernel

end Checkout
