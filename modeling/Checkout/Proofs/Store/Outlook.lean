-- How the tables look to one user. Whether an order can be placed, and what it
-- comes to, depends on the user, the products that it names and the coupons of
-- that user. A coupon of somebody else is objected to before its price is
-- looked at, so what became of it plays no part.
import Checkout.Proofs.Store.Placing

namespace Checkout

/-- The objections to lines are the same if those to each line are. -/
theorem objectionToLines_congr {check check' : List NewOrderLine → NewOrderLine → Option Fault}
    {lines : List NewOrderLine} (h : ∀ earlier, ∀ l ∈ lines, check' earlier l = check earlier l)
    (earlier : List NewOrderLine) :
    objectionToLines check' earlier lines = objectionToLines check earlier lines := by
  induction lines generalizing earlier with
  | nil => rfl
  | cons line lines ih =>
    rw [objectionToLines, objectionToLines, h earlier line List.mem_cons_self,
      ih fun before l hl => h before l (List.mem_cons_of_mem line hl)]

/-- An order as it was placed, without the ids that it was given and without the time. -/
def PlacedOrder.anonymous (p : PlacedOrder) : PlacedOrder :=
  { order := { p.order with id := 0 }
    lines := p.lines.map fun l => { l with id := 0, orderId := 0 }
    payment := p.payment.map fun payment => { payment with id := 0, orderId := 0, createdAt := 0 } }

namespace Store

/-- Other tables look the same to a user who has to do with some products. -/
structure Tables.SameTo (userId : Id) (goods : List Id) (t t' : Tables) : Prop where
  users : t'.users = t.users
  product : ∀ id ∈ goods, (t'.find? id : Option Product) = t.find? id
  coupon : ∀ id, (t'.find? id : Option Coupon).filter (·.ownerId == userId) =
    (t.find? id : Option Coupon).filter (·.ownerId == userId)
  balance : (t'.find? userId : Option Balance) = t.find? userId
  order : ∀ (id : Id) (o : Order), t.find? id = some o → o.userId = userId →
    t'.find? id = some o ∧ t'.linesOf id = t.linesOf id

/-- Lines have the same prices and coupons in other tables. -/
structure Tables.SamePrices (lines : List NewOrderLine) (t t' : Tables) : Prop where
  price : ∀ l ∈ lines, t'.priceOf l = t.priceOf l
  coupon : ∀ l ∈ lines, t'.couponOf l = t.couponOf l

variable {t t' : Tables}

/-! ## What lines cost -/

namespace Tables.SamePrices

variable {lines : List NewOrderLine} (h : t.SamePrices lines t')
include h

theorem subtotalOf {l : NewOrderLine} (hl : l ∈ lines) : t'.subtotalOf l = t.subtotalOf l := by
  rw [Tables.subtotalOf, Tables.subtotalOf, h.price l hl]

theorem discountOf {l : NewOrderLine} (hl : l ∈ lines) : t'.discountOf l = t.discountOf l := by
  rw [Tables.discountOf, Tables.discountOf, h.coupon l hl, h.subtotalOf hl]

theorem dueOf {l : NewOrderLine} (hl : l ∈ lines) : t'.dueOf l = t.dueOf l := by
  rw [Tables.dueOf, Tables.dueOf, h.subtotalOf hl, h.discountOf hl]

theorem fullTotal : t'.fullTotal lines = t.fullTotal lines :=
  congrArg List.sum (List.map_congr_left fun _ hl => h.subtotalOf hl)

theorem discountTotal : t'.discountTotal lines = t.discountTotal lines :=
  congrArg List.sum (List.map_congr_left fun _ hl => h.discountOf hl)

theorem dueTotal : t'.dueTotal lines = t.dueTotal lines :=
  congrArg List.sum (List.map_congr_left fun _ hl => h.dueOf hl)

theorem priceObjection {l : NewOrderLine} (hl : l ∈ lines) :
    l.priceObjection t' = l.priceObjection t := by
  rw [NewOrderLine.priceObjection, NewOrderLine.priceObjection, h.coupon l hl, h.subtotalOf hl,
    h.price l hl]

end Tables.SamePrices

/-- But for the ids and the time, an order that has the same prices is stored in the same way. -/
theorem placement_same {order : NewOrder} (h : t.SamePrices order.lines t') (now later : Moment) :
    (t'.placement order later).anonymous = (t.placement order now).anonymous := by
  simp only [PlacedOrder.anonymous, Tables.placement, PlacedOrder.mk.injEq]
  refine ⟨?_, ?_, ?_⟩
  · simp only [Tables.placedOrder, h.fullTotal, h.discountTotal, h.dueTotal]
  · apply List.ext_getElem
    · simp [Tables.placedLines]
    · intro i h1 h2
      have hi : i < order.lines.length := by simpa [Tables.placedLines] using h2
      have hl := List.getElem_mem hi
      simp [Tables.placedLines, h.price _ hl, h.discountOf hl, h.dueOf hl]
  · simp only [Tables.placedPayment, Option.map_map, Function.comp_def, h.dueTotal]

/-! ## What can be said against an order -/

namespace Tables.SameTo

section

variable {userId : Id} {goods : List Id} (h : t.SameTo userId goods t')
include h

theorem pointsOf : t'.pointsOf userId = t.pointsOf userId := by
  rw [Tables.pointsOf, Tables.pointsOf, h.balance]

theorem couponObjection (line : NewOrderLine) :
    line.couponObjection t' userId = line.couponObjection t userId := by
  simp only [NewOrderLine.couponObjection, ← Option.isSome_filter, h.coupon]

theorem stockObjection {line : NewOrderLine} (hl : line.productId ∈ goods)
    (earlier : List NewOrderLine) :
    line.stockObjection t' earlier = line.stockObjection t earlier := by
  rw [NewOrderLine.stockObjection, NewOrderLine.stockObjection, h.product _ hl]

/-- A coupon of the user is the same one. -/
theorem couponOf {line : NewOrderLine} (howned : line.couponObjection t userId = none) :
    t'.couponOf line = t.couponOf line := by
  cases hid : line.couponId with
  | none => simp only [Tables.couponOf, hid, Option.bind_none]
  | some id =>
    obtain ⟨c, hc, rfl⟩ := couponObjection_eq_none howned id hid
    have hsame := h.coupon id
    rw [hc, Option.filter_some, beq_self_eq_true, if_pos rfl, Option.filter_eq_some_iff] at hsame
    simp only [Tables.couponOf, hid, Option.bind_some, hsame.1, hc]

end

variable {order : NewOrder} (h : t.SameTo order.userId (order.lines.map (·.productId)) t')
include h

theorem samePrices (howned : ∀ l ∈ order.lines, l.couponObjection t order.userId = none) :
    t.SamePrices order.lines t' where
  price l hl := by
    rw [Tables.priceOf, Tables.priceOf, h.product _ (List.mem_map_of_mem hl)]
  coupon l hl := h.couponOf (howned l hl)

theorem placingObjection : order.placingObjection t' = order.placingObjection t := by
  have huser : t'.has User order.userId = t.has User order.userId := by
    simp only [Tables.has, Tables.find?, Row.rows, h.users]
  have hcoupons : objectionToLines (fun _ => NewOrderLine.couponObjection t' order.userId) []
      order.lines = objectionToLines (fun _ => NewOrderLine.couponObjection t order.userId) []
      order.lines :=
    objectionToLines_congr (fun _ l _ => h.couponObjection l) []
  have hstock : objectionToLines (NewOrderLine.stockObjection t') [] order.lines =
      objectionToLines (NewOrderLine.stockObjection t) [] order.lines :=
    objectionToLines_congr (fun before l hl => h.stockObjection (List.mem_map_of_mem hl) before) []
  rw [NewOrder.placingObjection, NewOrder.placingObjection, huser, hcoupons, hstock]
  cases hforeign : objectionToLines (fun _ => NewOrderLine.couponObjection t order.userId) []
    order.lines with
  -- the coupon of somebody else is as far as the check gets
  | some f => simp only [Option.some_or]
  | none =>
    have hprices := h.samePrices ((objectionToLines_const _ _ _).mp hforeign)
    rw [objectionToLines_congr (fun _ l hl => hprices.priceObjection hl), hprices.fullTotal,
      hprices.dueTotal, h.pointsOf]

theorem objection : order.objection t' = order.objection t := by
  rw [NewOrder.objection, NewOrder.objection, h.placingObjection]

/-- An order that there is no objection to has the same prices. -/
theorem samePrices_of_fine (hfine : order.objection t = none) : t.SamePrices order.lines t' := by
  rw [NewOrder.objection, Option.or_eq_none_iff, NewOrder.placingObjection, Option.or_eq_none_iff,
    Option.or_eq_none_iff] at hfine
  exact h.samePrices ((objectionToLines_const _ _ _).mp hfine.2.2.1)

end Tables.SameTo

end Store

end Checkout
