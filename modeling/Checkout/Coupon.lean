-- Coupons and the discount that each grants on a line.
import Checkout.Account

namespace Checkout

inductive CouponKind where
  /-- Takes a number of cents off. -/
  | fixedAmount
  /-- Takes a whole percentage off. -/
  | percentage
deriving DecidableEq, Repr

instance : Enumeration CouponKind where
  kind := "coupon kind"
  all := [.fixedAmount, .percentage]
  word
    | .fixedAmount => "FIXED_AMOUNT"
    | .percentage => "PERCENTAGE"

inductive CouponStatus where
  | unused
  | used
deriving DecidableEq, Repr

instance : Enumeration CouponStatus where
  kind := "coupon status"
  all := [.unused, .used]
  word
    | .unused => "UNUSED"
    | .used => "USED"

/-- The discount that a kind of coupon and its number grant on a subtotal: none below zero, and
never more than the subtotal. -/
def CouponKind.discountFor (kind : CouponKind) (number : Int) (subtotal : Money) : Money :=
  let full := match kind with
    | .fixedAmount => Money.saturated number
    | .percentage => subtotal.percentage number
  full.clamp .zero (if subtotal.isNegative then .zero else subtotal)

/-- A coupon of one user. Its version counts the changes of its status. -/
structure Coupon where
  id : Id
  ownerId : Id
  kind : CouponKind
  discount : Int
  status : CouponStatus
  version : Int
deriving DecidableEq, Repr

namespace Coupon

def isUsed (c : Coupon) : Bool := c.status == .used

def discountFor (c : Coupon) (subtotal : Money) : Money := c.kind.discountFor c.discount subtotal

end Coupon

structure NewCoupon where
  ownerId : Id
  kind : CouponKind
  discount : Int
deriving DecidableEq, Repr

/-- A fixed discount is positive; a percentage lies between one and a hundred. -/
def NewCoupon.isValid (c : NewCoupon) : Bool :=
  match c.kind with
  | .fixedAmount => 0 < c.discount
  | .percentage => 1 ≤ c.discount && c.discount ≤ 100

end Checkout
