-- What creating an order does. It succeeds exactly if the order is admissible,
-- and then takes exactly what the order asks for. Otherwise it says what the
-- first objection is and changes nothing.
import Checkout.Proofs.Shop.Run

namespace Checkout

open Store Service

/-! ## The effect in figures -/

/-- How the tables differ once an order has been placed. All figures are exact, and each price is
that of the product before the order. -/
structure Placed (t : Tables) (order : NewOrder) (now : Moment) (placed : PlacedOrder)
    (t' : Tables) : Prop where
  users : t'.users = t.users
  products : t'.products = t.products.map fun p =>
    { p with stock := p.stock - askedOf order.lines p.id }
  coupons : t'.coupons = t.coupons.map fun c =>
    if c.id ∈ order.lines.filterMap (·.couponId) then
      { c with status := .used, version := c.version + 1 }
    else c
  balances : t'.balances.map (fun b => (b.userId, b.amount.cents)) = t.balances.map fun b =>
    (b.userId, if b.userId = order.userId then b.amount.cents - t.dueTotal order.lines
      else b.amount.cents)
  history : ∃ e : LedgerEntry, t'.history = t.history ++ [e] ∧ e.userId = order.userId ∧
    e.kind = .debit ∧ e.amount.cents = -t.dueTotal order.lines ∧
    e.balanceAfter.cents = (t.pointsOf order.userId).cents - t.dueTotal order.lines ∧
    e.orderId = some placed.order.id
  orders : t'.orders = t.orders ++ [placed.order]
  order_new : placed.order.id ∉ t.keys Order
  order_user : placed.order.userId = order.userId
  order_status : placed.order.status = .pending ∧ placed.order.archived = false
  order_totals : placed.order.fullTotal.cents = t.fullTotal order.lines ∧
    placed.order.discountTotal.cents = t.discountTotal order.lines ∧
    placed.order.finalTotal.cents = t.dueTotal order.lines
  lines : t'.lines = t.lines ++ placed.lines
  line_numbers : placed.lines.map (·.lineNo) =
    (List.range order.lines.length).map fun n : Nat => (n : Int) + 1
  line_goods : placed.lines.map (fun l => (l.orderId, l.productId, l.quantity, l.couponId)) =
    order.lines.map fun l => (placed.order.id, l.productId, l.quantity, l.couponId)
  line_amounts : placed.lines.map (fun l => (l.unitPrice, l.discount.cents, l.lineTotal.cents)) =
    order.lines.map fun l => (t.priceOf l, t.discountOf l, t.dueOf l)
  payments : t'.payments = t.payments ++ placed.payment.toList
  payment : placed.payment.map (fun p => (p.orderId, p.userId, p.amount, p.status, p.createdAt)) =
    order.payment.map fun _ =>
      (placed.order.id, order.userId, placed.order.finalTotal, .pending, now)

variable {t : Tables}

section Amounts

variable {order : NewOrder} (hstock : t.Stocked) (hfine : order.Admissible t)
include hstock hfine

theorem line_amounts_placedLines :
    (t.placedLines order).map (fun l => (l.unitPrice, l.discount.cents, l.lineTotal.cents)) =
      order.lines.map fun l => (t.priceOf l, t.discountOf l, t.dueOf l) := by
  apply List.ext_getElem
  · simp [Tables.placedLines]
  · intro i h1 h2
    have hi : i < order.lines.length := by simpa using h2
    obtain ⟨-, hdiscount, hdue⟩ := pricedLine_proper
      (hfine.subtotal_nonneg hstock _ (List.getElem_mem hi))
      (hfine.subtotal_fits hstock _ (List.getElem_mem hi))
    simp only [Tables.pricedLine] at hdiscount hdue
    simp [Tables.placedLines, hdiscount, hdue]

/-- Placing an admissible order has the effect in figures. -/
theorem placed_place (hnum : t.Numbered) (now : Moment) :
    Placed t order now (t.placement order now) (t.place order now) where
  users := rfl
  products := by
    simp only [Int.sub_eq_add_neg]
    rfl
  coupons := rfl
  balances := by
    change (t.balances.map _).map _ = _
    rw [List.map_map]
    apply List.map_congr_left
    intro b hb
    by_cases hid : b.userId = order.userId
    · have hfind : t.find? order.userId = some b := hid ▸ Tables.find?_of_mem hnum.balances_nodup hb
      have hleft := hfine.points_left hstock
      rw [pointsOf_eq hfind] at hleft
      simp [hid, hleft]
    · simp [hid]
  history := ⟨_, rfl, rfl, rfl, hfine.debit_cents hstock, hfine.points_left hstock, rfl⟩
  orders := rfl
  order_new := Tables.nextId_notMem hnum.orders
  order_user := rfl
  order_status := ⟨rfl, rfl⟩
  order_totals := ⟨(hfine.totals_cents hstock).1, (hfine.totals_cents hstock).2,
    hfine.due_cents hstock⟩
  lines := rfl
  line_numbers := by
    apply List.ext_getElem
    · simp [Tables.placement, Tables.placedLines]
    · intro i _ _
      simp [Tables.placement, Tables.placedLines, Int.add_comm]
  line_goods := by
    apply List.ext_getElem
    · simp [Tables.placement, Tables.placedLines]
    · intro i _ _
      simp [Tables.placement, Tables.placedLines, Tables.placedOrder]
  line_amounts := line_amounts_placedLines hstock hfine
  payments := rfl
  payment := by
    cases hd : order.payment <;>
      simp [Tables.placement, Tables.placedPayment, Tables.placedOrder, hd]

end Amounts

/-! ## The call -/

/-- Creating an order comes to the first objection, or to placing it. -/
theorem create_finish (hk : t.Kept) (order : NewOrder) (around : Surroundings) :
    (Orders.create order).run.finish around.mended t =
      match order.objection t with
      | some f => (.error f, t)
      | none => (.ok (t.placement order around.now), t.place order around.now) := by
  unfold Orders.create
  rw [NewOrder.validate_eq, NewOrder.objection]
  cases hs : order.shapeObjection with
  | some f => rfl
  | none =>
    have hw := order.shapeObjection_eq_none_iff.mp hs
    have hplace := place_calm order around.now hk.numbered hk.linked hk.stocked hw
    change Flow.finish around.mended (Call.query (.placeOrder order)) t = _
    simp only [Call.query, ExceptT.mk, Flow.finish, Query.answer, Query.work]
    rw [show around.mended.conditions = .calm around.now from rfl, hplace, Option.none_or]
    cases order.placingObjection t <;> rfl

/-! ## The law -/

/-- After any run, creating an order succeeds exactly if the order is admissible, and then it takes
exactly what the order asks for. Otherwise it fails with the first objection, and nothing has
changed. -/
theorem an_order_is_created_exactly_if_it_is_admissible (deeds : List Deed) (order : NewOrder)
    (around : Surroundings) :
    let t := (Shop.after deeds).tables
    let (answer, t') := (Orders.create order).run.finish around.mended t
    (answer.isOk = true ↔ order.Admissible t) ∧
      match answer with
      | .ok placed => Placed t order around.now placed t'
      | .error f => order.objection t = some f ∧ t' = t := by
  have hk := Shop.kept_after deeds
  have hfine := objection_eq_none_iff order hk.numbered hk.stocked
  simp only [create_finish hk]
  cases ho : order.objection (Shop.after deeds).tables with
  | some f =>
    refine ⟨?_, rfl, rfl⟩
    rw [← hfine, ho]
    simp [Except.isOk, Except.toBool]
  | none =>
    refine ⟨?_, placed_place hk.stocked (hfine.mp ho) hk.numbered around.now⟩
    rw [← hfine, ho]
    simp [Except.isOk, Except.toBool]

end Checkout
