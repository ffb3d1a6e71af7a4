-- What can be said against a new order, in the order in which it is said.
-- Nothing here depends on the order in which stock and coupons are taken:
-- each objection looks at the tables as they stand before the order.
import Checkout.Order.Validation
import Checkout.Proofs.Pricing
import Checkout.Proofs.Store.Effects

namespace Checkout

/-! ## Prices at the tables as they stand -/

namespace Store.Tables

variable (t : Tables)

/-- The price of the product that a line names. -/
def priceOf (line : NewOrderLine) : Money :=
  ((t.find? line.productId : Option Product).map (·.price)).getD .zero

/-- The coupon that a line names, if it is there. -/
def couponOf (line : NewOrderLine) : Option Coupon := line.couponId.bind fun id => t.find? id

/-- What a line costs before its coupon. -/
def subtotalOf (line : NewOrderLine) : Int := (t.priceOf line).cents * line.quantity

/-- What its coupon takes off a line. -/
def discountOf (line : NewOrderLine) : Int :=
  (PricedLine.discountBy (t.couponOf line) (.saturated (t.subtotalOf line))).cents

/-- What is left to pay for a line. -/
def dueOf (line : NewOrderLine) : Int := t.subtotalOf line - t.discountOf line

def fullTotal (lines : List NewOrderLine) : Int := (lines.map t.subtotalOf).sum

def discountTotal (lines : List NewOrderLine) : Int := (lines.map t.discountOf).sum

/-- What is left to pay for all lines. -/
def dueTotal (lines : List NewOrderLine) : Int := (lines.map t.dueOf).sum

/-- A line with its price and discount. -/
def pricedLine (line : NewOrderLine) : PricedLine :=
  { productId := line.productId
    quantity := line.quantity
    unitPrice := t.priceOf line
    couponId := line.couponId
    discount := .saturated (t.discountOf line)
    lineTotal := .saturated (t.dueOf line) }

/-! ## The tables after an order has been placed -/

variable (order : NewOrder)

/-- The tables without the stock that lines ask for. -/
def takeStock (lines : List NewOrderLine) : Tables := t.moveStock fun id => -askedOf lines id

/-- The order as it is stored. -/
def placedOrder : Order :=
  { id := t.nextId Order
    userId := order.userId
    fullTotal := .saturated (t.fullTotal order.lines)
    discountTotal := .saturated (t.discountTotal order.lines)
    finalTotal := .saturated (t.dueTotal order.lines)
    status := .pending
    archived := false }

/-- The lines of the order as they are stored, numbered from one in the order they were given. -/
def placedLines : List OrderLine :=
  order.lines.mapIdx fun i line =>
    { id := t.nextId OrderLine + i
      orderId := t.nextId Order
      lineNo := 1 + i
      productId := line.productId
      quantity := line.quantity
      unitPrice := t.priceOf line
      couponId := line.couponId
      discount := .saturated (t.discountOf line)
      lineTotal := .saturated (t.dueOf line) }

/-- The payment that comes with the order as it is stored. -/
def placedPayment (now : Moment) : Option Payment :=
  order.payment.map fun details =>
    { id := t.nextId Payment
      orderId := t.nextId Order
      userId := order.userId
      amount := .saturated (t.dueTotal order.lines)
      cardType := details.cardType
      cardNo := details.maskedCardNo
      callbackUrl := details.callbackUrl
      status := .pending
      transactionKey := none
      failureReason := none
      completedAt := none
      createdAt := now }

/-- The tables after the order has been placed at a point in time. -/
def place (now : Moment) : Tables :=
  let taken := (t.takeStock order.lines).switchCoupons (order.lines.filterMap (·.couponId)) .used
  let paid := taken.book order.userId .debit (Money.saturated (t.dueTotal order.lines)).opposite
    (some (t.nextId Order))
  { paid with
    orders := t.orders ++ [t.placedOrder order]
    lines := t.lines ++ t.placedLines order
    payments := t.payments ++ (t.placedPayment order now).toList }

end Store.Tables

/-! ## Objections -/

/-- The outcome of something, unless there is an objection to it. -/
def judged {α : Type} (objection : Option Fault) (outcome : α) : Except Fault α :=
  match objection with
  | some f => .error f
  | none => .ok outcome

@[simp] theorem judged_none {α : Type} (outcome : α) : judged none outcome = .ok outcome := rfl

@[simp] theorem judged_some {α : Type} (f : Fault) (outcome : α) :
    judged (some f) outcome = .error f := rfl

/-- The first objection to a line. Each line is looked at together with those before it. -/
def objectionToLines (check : List NewOrderLine → NewOrderLine → Option Fault)
    (earlier : List NewOrderLine) : List NewOrderLine → Option Fault
  | [] => none
  | line :: lines => (check earlier line).or (objectionToLines check (earlier ++ [line]) lines)

namespace NewOrderLine

/-- The quantity is out of range, or a line before this one names the same coupon. -/
def shapeObjection (earlier : List NewOrderLine) (line : NewOrderLine) : Option Fault :=
  if ¬ (1 ≤ line.quantity ∧ line.quantity ≤ largestQuantity) then
    some (.invalid (.quantityOutOfRange (earlier.length + 1) line.quantity))
  else
    (line.couponId.filter (earlier.filterMap (·.couponId)).contains).map fun id =>
      .invalid (.couponOnTwoLines id)

/-- The coupon is not there, or belongs to somebody else. -/
def couponObjection (t : Store.Tables) (userId : Id) (line : NewOrderLine) : Option Fault :=
  (line.couponId.filter fun id => !(t.find? id : Option Coupon).any (·.ownerId == userId)).map
    fun id => .notFound (.coupon id)

/-- The product is not for sale, or the lines before this one do not leave enough of it. -/
def stockObjection (t : Store.Tables) (earlier : List NewOrderLine) (line : NewOrderLine) :
    Option Fault :=
  match (t.find? line.productId : Option Product).filter (!·.deleted) with
  | none => some (.notFound (.product line.productId))
  | some p =>
    let left := p.stock - askedOf earlier line.productId
    if line.quantity ≤ left then none
    else some (.insufficientStock line.productId line.quantity left)

/-- The coupon is in use, or 64 bits do not hold the subtotal. -/
def priceObjection (t : Store.Tables) (line : NewOrderLine) : Option Fault :=
  match (t.couponOf line).filter (·.isUsed) with
  | some c => some (.alreadyUsed c.id)
  | none =>
    if Fits (t.subtotalOf line) then none
    else some (.invalid (.lineTooLarge line.quantity (t.priceOf line)))

end NewOrderLine

namespace NewOrder

variable (order : NewOrder)

/-- The first objection to the order by itself: to having no lines, to one of them, or to its
payment details. -/
def shapeObjection : Option Fault :=
  (if order.lines.isEmpty then some (.invalid .noLines) else none).or <|
  (objectionToLines NewOrderLine.shapeObjection [] order.lines).or <|
  (order.payment.filter (!·.missing.isEmpty)).map fun details =>
    .invalid (.missingDetails details.missing)

/-- The first objection to what the order would take from the tables. -/
def placingObjection (t : Store.Tables) : Option Fault :=
  (if t.has User order.userId then none else some (.notFound (.user order.userId))).or <|
  (objectionToLines (fun _ => NewOrderLine.couponObjection t order.userId) [] order.lines).or <|
  (objectionToLines (NewOrderLine.stockObjection t) [] order.lines).or <|
  (objectionToLines (fun _ => NewOrderLine.priceObjection t) [] order.lines).or <|
  (if t.fullTotal order.lines ≤ 9223372036854775807 then none
    else some (.invalid .totalTooLarge)).or <|
  if t.dueTotal order.lines ≤ (t.pointsOf order.userId).cents then none
  else some (.insufficientBalance order.userId (.saturated (t.dueTotal order.lines))
    (t.pointsOf order.userId))

/-- The first objection to the order, if there is any. -/
def objection (t : Store.Tables) : Option Fault :=
  order.shapeObjection.or (order.placingObjection t)

end NewOrder

end Checkout
