-- Orders, their lines, and what a user asks for when placing one.
import Checkout.Account
import Checkout.Card

namespace Checkout

inductive OrderStatus where
  /-- Stock, coupons and points are committed to the order. -/
  | pending
  /-- The order is paid. It may still be cancelled. -/
  | confirmed
  /-- Everything the order took has been given back. -/
  | cancelled
deriving DecidableEq, Repr

instance : Enumeration OrderStatus where
  kind := "order status"
  all := [.pending, .confirmed, .cancelled]
  word
    | .pending => "PENDING"
    | .confirmed => "CONFIRMED"
    | .cancelled => "CANCELLED"

def OrderStatus.isTerminal (s : OrderStatus) : Bool := s != .pending

/-- An order. An archived one is kept, but every reader passes over it. -/
structure Order where
  id : Id
  userId : Id
  fullTotal : Money
  discountTotal : Money
  finalTotal : Money
  status : OrderStatus
  archived : Bool
deriving DecidableEq, Repr

/-- One line of an order, at the price of the day it was placed. -/
structure OrderLine where
  id : Id
  orderId : Id
  lineNo : Int
  productId : Id
  quantity : Int
  unitPrice : Money
  couponId : Option Id
  discount : Money
  lineTotal : Money
deriving DecidableEq, Repr

/-- What the line would have cost without its coupon. -/
def OrderLine.subtotal (l : OrderLine) : Except Overflow Money := l.lineTotal.add l.discount

/-- A line that a user asks for. -/
structure NewOrderLine where
  productId : Id
  quantity : Int
  couponId : Option Id
deriving DecidableEq, Repr

/-- An order that a user asks for, and how it is to be paid. -/
structure NewOrder where
  userId : Id
  lines : List NewOrderLine
  payment : Option PaymentDetails
deriving DecidableEq, Repr

/-- An order request as it comes in; who sent it is known apart from it. -/
structure OrderRequest where
  lines : List NewOrderLine
  payment : Option PaymentDetails
deriving DecidableEq, Repr

def OrderRequest.toNewOrder (r : OrderRequest) (userId : Id) : NewOrder :=
  ⟨userId, r.lines, r.payment⟩

/-- The most of a product that one line may ask for. -/
def largestQuantity : Int := 999

end Checkout
