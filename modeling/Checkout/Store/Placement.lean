-- The units of work on orders: placing, confirming, cancelling and archiving
-- one, and opening a payment for it. Each either does all of its parts or
-- none.
import Checkout.Store.Accounts
import Checkout.Store.Catalog
import Checkout.Store.Orders
import Checkout.Store.Payments

namespace Checkout.Store

namespace Orders

/-- Makes sure that all coupons are there and belong to a user. -/
def checkCoupons (userId : Id) : List Id → Work Unit
  | [] => return ()
  | coupon :: coupons => do
    let _ ← Coupons.fetchOwned coupon userId
    checkCoupons userId coupons

/-- Takes the stock of each line in turn, and gives the price of each. -/
def reserveAll : List NewOrderLine → Work (List Money)
  | [] => return []
  | line :: lines => do
    let product ← Products.reserve line.productId line.quantity
    return product.price :: (← reserveAll lines)

/-- Uses up the coupon of a line, if it has one. A coupon that was changed in between has been
used by somebody else. -/
def consumeFor (userId : Id) : Option Id → Work (Option Coupon)
  | none => return none
  | some id => do
    let coupon ← (Coupons.consume id userId).mapFault fun
      | .versionConflict id => .alreadyUsed id
      | f => f
    return some coupon

/-- Prices each line in turn, and uses up its coupon. -/
def priceAll (userId : Id) : List (NewOrderLine × Money) → Work (List PricedLine)
  | [] => return []
  | (line, price) :: lines => do
    let coupon ← consumeFor userId line.couponId
    let priced ← Work.ofExcept (PricedLine.price line price coupon)
    return priced :: (← priceAll userId lines)

/-- Stores lines under an order, numbered from the given number on. -/
def insertLines (orderId : Id) : Int → List PricedLine → Work (List OrderLine)
  | _, [] => return []
  | lineNo, line :: lines => do
    let stored ← insertLine orderId lineNo line
    return stored :: (← insertLines orderId (lineNo + 1) lines)

/-- Opens the payment that comes with an order, if there is one. -/
def payWith (order : Order) : Option PaymentDetails → Work (Option Payment)
  | none => return none
  | some details => do return some (← Payments.insert (.forOrder order details))

/-- Places an order: takes the stock, the coupons and the points that it needs. The coupons of
others are turned down before anything is taken. -/
def place (order : NewOrder) : Work PlacedOrder := do
  let _ ← Work.orFail (.notFound (.user order.userId)) (← Users.fetch order.userId)
  checkCoupons order.userId (order.lines.filterMap (·.couponId))
  let prices ← reserveAll order.lines
  let priced ← priceAll order.userId (order.lines.zip prices)
  let totals ← Work.ofExcept (OrderTotals.ofLines priced)
  let stored ← insert order.userId totals
  let _ ← Balances.debit order.userId totals.final (some stored.id)
  let lines ← insertLines stored.id 1 priced
  let payment ← payWith stored order.payment
  return { order := stored, lines, payment }

/-- Fails with the reason for which an order could not be moved on. -/
def rejectTransition (id : Id) : Work Order := do
  Work.fail (.invalidStatus id (← fetchVisible id).status)

/-- Confirms a pending order. -/
def confirm (id : Id) : Work Order := do
  match ← transition id .pending .confirmed with
  | some order => return order
  | none => rejectTransition id

/-- Makes the coupon of a line good again, if it has one. -/
def restoreFor : Option Id → Work Unit
  | none => return ()
  | some id => do let _ ← Coupons.restore id

/-- Gives back the stock and the coupon of each line. -/
def giveBack : List OrderLine → Work Unit
  | [] => return ()
  | line :: lines => do
    let _ ← Products.restore line.productId line.quantity
    restoreFor line.couponId
    giveBack lines

/-- Cancels an order: gives back all that it took. -/
def cancel (id : Id) : Work Order := do
  let order ← fetchVisible id
  if order.status = .cancelled then Work.fail (.invalidStatus id order.status)
  giveBack (← fetchLines id)
  let _ ← Balances.refund order.userId order.finalTotal id
  match ← transition id order.status .cancelled with
  | some order => return order
  | none => rejectTransition id

/-- Archives an order that is confirmed or cancelled. -/
def archive (id : Id) : Work Order := do
  let order ← fetchVisible id
  if !order.status.isTerminal then Work.fail (.invalidStatus id order.status)
  Work.orFail (.notFound (.order id)) (← hide id)

end Orders

/-- Opens a payment for a pending order that has no open one. -/
def Payments.openFor (p : NewPayment) : Work Payment := do
  let order ← Orders.fetchVisible p.orderId
  if order.status ≠ .pending then Work.fail (.invalidStatus p.orderId order.status)
  if ← Payments.hasOpen p.orderId then Work.fail (.invalid (.paymentOpen p.orderId))
  Payments.insert p

end Checkout.Store
