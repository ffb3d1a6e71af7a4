-- Prices of lines and totals of orders. Amounts are exact; a product or a
-- total that 64 bits cannot hold makes the request invalid.
import Checkout.Fault

namespace Checkout

/-- A line with its price and discount, ready to be stored. -/
structure PricedLine where
  productId : Id
  quantity : Int
  unitPrice : Money
  couponId : Option Id
  discount : Money
  lineTotal : Money
deriving DecidableEq, Repr

namespace PricedLine

/-- Prices a line at a unit price, with a coupon if there is one. -/
def price (line : NewOrderLine) (unitPrice : Money) (coupon : Option Coupon) :
    Except Fault PricedLine := do
  let subtotal ← match unitPrice.checkedMul line.quantity with
    | some m => .ok m
    | none => .error (.invalid (.lineTooLarge line.quantity unitPrice))
  let discount := match coupon with
    | some c => c.discountFor subtotal
    | none => .zero
  let lineTotal ← Fault.ofOverflow (subtotal.sub discount)
  return { productId := line.productId
           quantity := line.quantity
           unitPrice
           couponId := coupon.map (·.id)
           discount
           lineTotal }

/-- What the line would cost without its coupon. -/
def subtotal (l : PricedLine) : Except Overflow Money := l.lineTotal.add l.discount

end PricedLine

/-- What an order costs before its coupons, what they take off, and what is left. -/
structure OrderTotals where
  full : Money
  discount : Money
  final : Money
deriving DecidableEq, Repr

namespace OrderTotals

/-- A sum that must stay within 64 bits for the request to be valid. -/
def addWithin (a b : Money) : Except Fault Money :=
  match a.checkedAdd b with
  | some m => .ok m
  | none => .error (.invalid .totalTooLarge)

/-- Adds one line to the running totals before and of the discounts. -/
def addLine (sums : Money × Money) (line : PricedLine) : Except Fault (Money × Money) := do
  let subtotal ← Fault.ofOverflow line.subtotal
  let full ← addWithin sums.1 subtotal
  let discount ← addWithin sums.2 line.discount
  return (full, discount)

/-- The totals of an order from its lines, added up in order. -/
def ofLines (lines : List PricedLine) : Except Fault OrderTotals := do
  let (full, discount) ← lines.foldlM addLine (.zero, .zero)
  let final ← Fault.ofOverflow (full.sub discount)
  return { full, discount, final }

end OrderTotals

end Checkout
