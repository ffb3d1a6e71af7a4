-- An archived order is frozen and gone. Whatever comes after it was archived,
-- late reports and settlements included, its row and its lines stay as they
-- are, nothing that it took is given back, and nobody finds it any more.
import Checkout.Proofs.Shop.Lifecycle
import Checkout.Proofs.Shop.Turn
import Checkout.Proofs.Store.Hiding
import Checkout.Proofs.Store.Returns

namespace Checkout

open Store Service

variable {t t' : Tables}

/-! ## The row -/

/-- An archived order makes no move. -/
theorem OrdersMoved.frozen (h : OrdersMoved t t') {o : Order} (ho : o ∈ t.orders)
    (harchived : o.archived = true) : o ∈ t'.orders := by
  obtain ⟨o', ho', hmoves⟩ := h.moves o ho
  cases hmoves with
  | stays => exact ho'
  | moved hshown =>
    rw [harchived] at hshown
    cases hshown
  | archived hshown =>
    rw [harchived] at hshown
    cases hshown

/-- The order that was archived, with the id that it was named by. -/
def Act.archived? : Act → Option (Id × Order)
  | .asked (.archiveOrder id) (.ok o) => some (id, o)
  | _ => none

theorem Act.archived?_eq_none {act : Act} (h : act.succeeded = false) : act.archived? = none := by
  unfold archived?
  split
  · cases h
  · rfl

theorem change_archived {α : Type} {q : Query α} {a : α} {now : Moment}
    (h : Change now t q a t') {id : Id} {o : Order}
    (hact : (Act.asked q (.ok a)).archived? = some (id, o)) :
    o ∈ t'.orders ∧ o.id = id ∧ o.archived = true := by
  cases h with
  | still hstill =>
    cases q
    case archiveOrder id => cases hstill
    all_goals cases hact
  | archived ho =>
    cases hact
    obtain ⟨hm, hid⟩ := Tables.find?_eq_some (visible?_eq_some.mp ho).1
    refine ⟨List.mem_map.mpr ⟨_, hm, if_pos hid⟩, hid, rfl⟩
  | _ => cases hact

namespace Shop

variable {deeds : List Deed}

theorem frozen_after (deeds later : List Deed) : ∀ o ∈ (after deeds).tables.orders,
    o.archived = true → o ∈ (after (deeds ++ later)).tables.orders :=
  related_after (R := fun t t' => ∀ o ∈ t.orders, o.archived = true → o ∈ t'.orders)
    (fun _ _ ho _ => ho) (fun h h' o ho ha => h' o (h o ho ha) ha)
    (fun hk hchange _ ho ha => (OrdersMoved.of_change hk hchange).frozen ho ha)
    (fun _ _ _ ho _ => ho) deeds later

/-- All orders that were archived, each with the id that it was named by. -/
def archived (s : Shop) : List (Id × Order) := s.record.filterMap (·.2.archived?)

/-- An order that was archived is there as it was when that succeeded. -/
theorem archived_row {id : Id} {o : Order} (h : (id, o) ∈ (after deeds).archived) :
    o ∈ (after deeds).tables.orders ∧ o.id = id ∧ o.archived = true := by
  obtain ⟨⟨call, act⟩, hentry, hact⟩ := List.mem_filterMap.mp h
  obtain ⟨earlier, around, later, running, rest, hsplit, hcall, hstep⟩ := step_of_mem_record hentry
  have hs := inOrder_after earlier
  obtain ⟨-, ⟨β, q, a, rfl, hchange⟩ | ⟨hfailed, -⟩⟩ :=
    flow_step_cases hs.kept (hs.proper running (List.mem_of_getElem? hcall)) hstep
  · obtain ⟨hm, hid, harchived⟩ := change_archived hchange hact
    refine ⟨?_, hid, harchived⟩
    rw [hsplit, List.append_cons]
    exact frozen_after _ later o hm harchived
  · rw [Act.archived?_eq_none hfailed] at hact
    cases hact

/-- An order out of sight is there, but cannot be seen. -/
theorem unseen {o : Order} (ho : o ∈ (after deeds).tables.orders) (harchived : o.archived = true) :
    (after deeds).tables.visible? o.id = none := by
  have hfind : (after deeds).tables.find? o.id = some o :=
    Tables.find?_of_mem (kept_after deeds).numbered.orders.nodup ho
  rw [Tables.visible?, hfind]
  simp [harchived]

end Shop

/-! ## What is given back -/

/-- A deed gives nothing back, or it cancels an order that can be seen. -/
theorem Advance.returns {record record' : List (Nat × Act)} (hk : t.Kept)
    (h : Advance t record t' record') :
    t.ReturnsNothing t' ∨ ∃ o ∈ t.orders, o.archived = false ∧ t' = t.cancel o := by
  cases h with
  | waited => exact .inl (.refl t)
  | answered call hchange => exact hchange.returns hk
  | noted call => exact .inl (.refl t)
  | withdrew id => exact .inl (.withdraw t id)

/-- What a step gives back, if anything, some other order took. -/
def ReturnsOnlyOthers (t t' : Tables) (id : Id) : Prop :=
  t.ReturnsNothing t' ∨ ∃ other ∈ t.orders, other.id ≠ id ∧ t' = t.cancel other

theorem Shop.returnsOnlyOthers_step {deeds : List Deed} {o : Order}
    (ho : o ∈ (after deeds).tables.orders) (harchived : o.archived = true) (deed : Deed) :
    ReturnsOnlyOthers (after deeds).tables (after (deeds ++ [deed])).tables o.id := by
  rw [after_concat]
  have hs := inOrder_after deeds
  rcases (step_advance hs deed).1.returns hs.kept with hnothing | ⟨other, hother, hshown, hcancel⟩
  · exact .inl hnothing
  · refine .inr ⟨other, hother, fun hid => ?_, hcancel⟩
    have hn : (after deeds).tables.orders.map (·.id) |>.Nodup := hs.kept.numbered.orders.nodup
    obtain rfl := List.inj_on_of_nodup_map hn hother ho hid
    rw [harchived] at hshown
    cases hshown

/-! ## Calls that name the order -/

/-- The fault that an answer tells of. -/
def faultOf? {α : Type} : Except Fault α → Option Fault
  | .ok _ => none
  | .error f => some f

namespace Service.Operation

/-- The order that is named. Incomplete payment details are turned down before it is looked at. -/
def names? : Operation → Option Id
  | .order id | .orderForUser _ id | .orderDetails _ id | .confirmOrder id | .confirmForUser _ id
  | .cancelOrder id | .cancelForUser _ id | .archiveOrder id => some id
  | .payOrder _ request => if request.payment.missing.isEmpty then some request.orderId else none
  | _ => none

/-- Why what was asked for was not done. -/
def fault? : (op : Operation) → op.Answer → Option Fault
  | .createUser _, answer | .user _, answer | .balance _, answer | .charge _ _, answer
  | .history _, answer | .points _, answer | .createProduct _ _, answer | .product _, answer
  | .issueCoupon _, answer | .coupon _, answer | .createOrder _, answer | .order _, answer
  | .orderForUser _ _, answer | .ordersOfUser _, answer | .orderDetails _ _, answer
  | .confirmOrder _, answer | .confirmForUser _ _, answer | .cancelOrder _, answer
  | .cancelForUser _ _, answer | .archiveOrder _, answer | .placeOrder _, answer
  | .payOrder _ _, answer | .handleCallback _, answer | .expireStale _, answer => faultOf? answer
  | .settle _, _ => none

/-- The answer says that the order is not there. -/
def Misses (op : Operation) (id : Id) (answer : op.Answer) : Prop :=
  op.fault? answer = some (.notFound (.order id))

end Service.Operation

namespace Service.Flow

variable {α β : Type}

theorem step_ask {query : Query β} {next : Except Fault β → Flow α} {around : Surroundings}
    {r : Except Fault β} (h : query.answer around.conditions t = (r, t')) :
    (Flow.ask query next).step around t = some (.asked query r, next r, t') := by
  simp only [step, h]

/-- A flow that ends with its next step comes to what that step gives. -/
theorem finish_of_step {f : Flow α} {around : Surroundings} {act : Act} {a : α}
    (h : f.step around t = some (act, .done a, t')) : f.finish around t = (a, t') := by
  cases f with
  | done a => cases h
  | ask | requestPayment | fetchTransaction =>
    simp only [step, Option.some.injEq, Prod.mk.injEq] at h
    obtain ⟨-, hnext, rfl⟩ := h
    simp only [finish, hnext]
  | publish event next =>
    simp only [step, Option.some.injEq, Prod.mk.injEq] at h
    obtain ⟨-, rfl, rfl⟩ := h
    rfl

end Service.Flow

section Unseen

variable {op : Operation} {id : Id} (hunseen : t.visible? id = none) (around : Surroundings)
include hunseen

/-- A call that names an order out of sight ends with its first step, and misses the order. -/
theorem Service.Operation.step_unseen (h : op.names? = some id) :
    ∃ act a, op.flow.step around t = some (act, .done a, t) ∧ op.Misses id a := by
  have hlook : (Query.order id).answer around.conditions t = (.ok none, t) := by
    rw [Query.answer, Query.work, Store.Orders.fetch_unseen hunseen]
  have hneed {α : Type} {q : Query α} (hq : q.needs? = some id) :
      q.answer around.conditions t = (.error (.notFound (.order id)), t) := by
    rw [Query.answer, Query.work_unseen hunseen _ hq]
  cases op
  case order | orderForUser | orderDetails | confirmForUser | cancelForUser =>
    cases h
    exact ⟨_, _, Flow.step_ask hlook, rfl⟩
  case confirmOrder | cancelOrder | archiveOrder =>
    cases h
    exact ⟨_, _, Flow.step_ask (hneed rfl), rfl⟩
  case payOrder userId request =>
    simp only [names?] at h
    split at h
    · next hcomplete =>
      cases h
      have hflow : (Operation.payOrder userId request).flow =
          (Payments.payOrder userId request).run := rfl
      rw [hflow, Payments.payOrder, PaymentDetails.validate, if_pos hcomplete]
      exact ⟨_, _, Flow.step_ask hlook, rfl⟩
    · cases h
  all_goals cases h

theorem Service.Operation.finish_unseen (h : op.names? = some id) :
    ∃ a, op.flow.finish around t = (a, t) ∧ op.Misses id a := by
  obtain ⟨act, a, hstep, hmisses⟩ := op.step_unseen hunseen around h
  exact ⟨a, Flow.finish_of_step hstep, hmisses⟩

end Unseen

theorem visible_of_listed {userId : Id} {around : Surroundings} {orders : List Order}
    (h : ((Service.Orders.ofUser userId).run.finish around t).1 = .ok orders) :
    ∀ o ∈ orders, o ∈ t.orders ∧ o.archived = false := by
  change ((Query.ordersOfUser userId).answer around.conditions t).1 = .ok orders at h
  unfold Query.answer at h
  cases hw : (Query.ordersOfUser userId).work around.conditions t with
  | error f =>
    rw [hw] at h
    cases h
  | ok result =>
    rw [hw] at h
    cases h
    exact Store.Orders.ofUser_visible hw

/-- The call has not gone on since it was made, or has ended and missed the order. -/
def Running.Misses (running : Running) (id : Id) : Prop :=
  running.rest = running.op.flow ∨ ∃ a, running.rest = .done a ∧ running.op.Misses id a

/-- Its first step is the last one of a call that names an order out of sight, so nothing can come
in between. -/
theorem Running.Misses.step {running : Running} {id : Id} {around : Surroundings} {act : Act}
    {rest : Flow running.op.Answer} (h : running.Misses id) (hnames : running.op.names? = some id)
    (hunseen : t.visible? id = none) (hstep : running.rest.step around t = some (act, rest, t')) :
    Running.Misses { running with rest } id := by
  rcases h with hflow | ⟨a, hdone, -⟩
  · obtain ⟨act', a, hlast, hmisses⟩ := running.op.step_unseen hunseen around hnames
    rw [hflow, hlast] at hstep
    cases hstep
    exact .inr ⟨a, rfl, hmisses⟩
  · rw [hdone] at hstep
    cases hstep

theorem Shop.misses_after {deeds : List Deed} {o : Order} (ho : o ∈ (after deeds).tables.orders)
    (harchived : o.archived = true) (later : List Deed) {call : Nat} {running : Running}
    (hcall : (after (deeds ++ later)).calls[call]? = some running)
    (hnew : (after deeds).calls.length ≤ call) (hnames : running.op.names? = some o.id) :
    running.Misses o.id := by
  induction later using List.reverseRecOn generalizing running with
  | nil =>
    rw [List.append_nil, List.getElem?_eq_none hnew] at hcall
    cases hcall
  | append_singleton later deed ih =>
    rw [← List.append_assoc] at hcall
    have hturn := turn_after (deeds ++ later) deed
    generalize after (deeds ++ later ++ [deed]) = s' at hturn hcall
    cases hturn with
    | @step number around moving act rest tables hmoving hstep =>
      by_cases hsame : number = call
      · subst hsame
        rw [List.getElem?_set_self (List.getElem?_eq_some_iff.mp hmoving).1] at hcall
        cases hcall
        exact (ih hmoving hnames).step hnames
          (unseen (frozen_after deeds later o ho harchived) harchived) hstep
      · rw [List.getElem?_set_ne hsame] at hcall
        exact ih hcall hnames
    | aside _ _ _ more hcalls hfresh =>
      rw [hcalls] at hcall
      rcases Nat.lt_or_ge call (after (deeds ++ later)).calls.length with hlt | hge
      · rw [List.getElem?_append_left hlt] at hcall
        exact ih hcall hnames
      · rw [List.getElem?_append_right hge] at hcall
        exact .inl (hfresh running (List.mem_of_getElem? hcall))

/-! ## The law -/

namespace Shop

/-- Since it was archived, an order has not changed, and nothing that it took was given back. -/
structure Frozen (deeds later : List Deed) (o : Order) : Prop where
  row : o ∈ (after (deeds ++ later)).tables.orders
  lines : (after (deeds ++ later)).tables.linesOf o.id = (after deeds).tables.linesOf o.id
  /-- Whatever is given back at any time, another order took. -/
  others : ∀ earlier deed rest, later = earlier ++ deed :: rest →
    ReturnsOnlyOthers (after (deeds ++ earlier)).tables
      (after (deeds ++ earlier ++ [deed])).tables o.id
  points : (after (deeds ++ later)).tables.entriesFor .debit o.id =
      (after deeds).tables.entriesFor .debit o.id ∧
    (after (deeds ++ later)).tables.entriesFor .refund o.id =
      (after deeds).tables.entriesFor .refund o.id
  coupons : o.status ≠ .cancelled → ∀ line ∈ (after (deeds ++ later)).tables.linesOf o.id,
    ∀ id ∈ line.couponId, ∃ coupon : Coupon,
      (after (deeds ++ later)).tables.find? id = some coupon ∧ coupon.isUsed = true

/-- Since it was archived, nobody finds an order any more. -/
structure Gone (deeds later : List Deed) (o : Order) : Prop where
  /-- A call that names it misses it, whatever the medium and the processor do. -/
  missed : ∀ op : Operation, op.names? = some o.id → ∀ around,
    ∃ a, op.flow.finish around (after (deeds ++ later)).tables =
      (a, (after (deeds ++ later)).tables) ∧ op.Misses o.id a
  /-- So does one that was made since then, however its steps and those of others interleave. -/
  interleaved : ∀ call running, (after (deeds ++ later)).calls[call]? = some running →
    (after deeds).calls.length ≤ call → running.op.names? = some o.id → running.Misses o.id
  unlisted : ∀ userId around orders,
    ((Service.Orders.ofUser userId).run.finish around (after (deeds ++ later)).tables).1 =
      .ok orders → ∀ other ∈ orders, other.id ≠ o.id

variable {deeds : List Deed} {o : Order}

theorem frozen_of_archived (ho : o ∈ (after deeds).tables.orders) (harchived : o.archived = true)
    (later : List Deed) : Frozen deeds later o where
  row := frozen_after deeds later o ho harchived
  lines := (ordersLasting_after deeds later).lines o.id (List.mem_map_of_mem ho)
  others earlier deed rest _ :=
    returnsOnlyOthers_step (frozen_after deeds earlier o ho harchived) harchived deed
  points := by
    have hbefore := (kept_after deeds).accounted
    have hafter := (kept_after (deeds ++ later)).accounted
    have hnow := frozen_after deeds later o ho harchived
    rw [hafter.debit o hnow, hafter.refund o hnow, hbefore.debit o ho, hbefore.refund o ho]
    exact ⟨rfl, rfl⟩
  coupons hs line hline id hid := by
    have hk := kept_after (deeds ++ later)
    have hfind := Tables.find?_of_mem hk.numbered.orders.nodup
      (frozen_after deeds later o ho harchived)
    have hreturn := returnable_linesOf hk (isLive_of_find? hfind hs)
    exact hreturn.coupon id (List.mem_filterMap.mpr ⟨line, hline, hid⟩)

theorem gone_of_archived (ho : o ∈ (after deeds).tables.orders) (harchived : o.archived = true)
    (later : List Deed) : Gone deeds later o where
  missed op hnames around :=
    op.finish_unseen (unseen (frozen_after deeds later o ho harchived) harchived) around hnames
  interleaved call running hcall hnew hnames :=
    misses_after ho harchived later hcall hnew hnames
  unlisted userId around orders hlist other hother hid := by
    have hvisible := visible_of_listed hlist other hother
    have hn : (after (deeds ++ later)).tables.orders.map (·.id) |>.Nodup :=
      (kept_after (deeds ++ later)).numbered.orders.nodup
    have hnow := frozen_after deeds later o ho harchived
    obtain rfl := List.inj_on_of_nodup_map hn hvisible.1 hnow hid
    rw [harchived] at hvisible
    cases hvisible.2

end Shop

/-- From the moment when an order is archived, and whatever follows, its row and its lines never
change again, nothing that it took is given back, and nobody finds it any more. -/
theorem an_archived_order_is_frozen_and_gone (deeds later : List Deed) {id : Id} {o : Order}
    (h : (id, o) ∈ (Shop.after deeds).archived) :
    o.id = id ∧ o.archived = true ∧ Shop.Frozen deeds later o ∧ Shop.Gone deeds later o := by
  obtain ⟨ho, hid, harchived⟩ := Shop.archived_row h
  exact ⟨hid, harchived, Shop.frozen_of_archived ho harchived later,
    Shop.gone_of_archived ho harchived later⟩

namespace LateReport

def price : Money := .saturated 100

def goOn (call steps : Nat) : List Deed := List.replicate steps (.proceed call .quiet)

/-- An order is confirmed and archived while its payment is still open. -/
def archiving : List Deed :=
  .start (.createUser "ann") :: goOn 0 1 ++ .start (.charge 1 price) :: goOn 1 1 ++
    .start (.createProduct ⟨"tea", price, 1⟩ (by decide)) :: goOn 2 1 ++
    .start (.placeOrder ⟨1, [⟨1, 1, none⟩], some ⟨"VISA", "1234", "http://shop"⟩⟩) :: goOn 3 3 ++
    .start (.confirmOrder 1) :: goOn 4 2 ++ .start (.archiveOrder 1) :: goOn 5 1

/-- Then the payment fails, its event is settled, and the user looks for the order. -/
def report : List Deed :=
  .start (.handleCallback ⟨"key", 1, "VISA", "1234", price, .failed, none⟩) :: goOn 6 3 ++
    .start (.settle (.paymentFailed
      ⟨1, 1, 1, price, "VISA", "1234", "http://shop", .failed, some "key", none, none, 0⟩ "")) ::
    goOn 7 1 ++ .start (.cancelForUser 1 1) :: goOn 8 2

def order : Order := ⟨1, 1, price, .zero, price, .confirmed, true⟩

end LateReport

open LateReport in
/-- A payment that fails late does not give back what an archived order took. -/
theorem a_late_report_finds_the_order_gone :
    (1, order) ∈ (Shop.after archiving).archived ∧ order.id = 1 ∧ order.archived = true ∧
      Shop.Frozen archiving report order ∧ Shop.Gone archiving report order ∧
      (Shop.after (archiving ++ report)).tables.payments.map (·.status) = [.failed] ∧
      (Shop.after (archiving ++ report)).tables.products.map (·.stock) = [0] := by
  have harchived : (1, order) ∈ (Shop.after archiving).archived := by decide +kernel
  obtain ⟨hid, hhidden, hfrozen, hgone⟩ :=
    an_archived_order_is_frozen_and_gone archiving report harchived
  exact ⟨harchived, hid, hhidden, hfrozen, hgone, by decide +kernel, by decide +kernel⟩

end Checkout
