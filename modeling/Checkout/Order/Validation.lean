-- What a new order must look like before it is placed. The first rule that
-- is broken decides the answer.
import Checkout.Fault

namespace Checkout

/-- Checks that all payment details are given. -/
def PaymentDetails.validate (d : PaymentDetails) : Except Fault Unit :=
  if d.missing.isEmpty then .ok () else .error (.invalid (.missingDetails d.missing))

namespace NewOrder

/-- Checks the lines from the given one on, with the coupons that earlier lines name. -/
def validateLines (number : Nat) (seen : List Id) : List NewOrderLine → Except Fault Unit
  | [] => .ok ()
  | line :: lines =>
    if ¬ (1 ≤ line.quantity ∧ line.quantity ≤ largestQuantity) then
      .error (.invalid (.quantityOutOfRange number line.quantity))
    else
      match line.couponId with
      | none => validateLines (number + 1) seen lines
      | some coupon =>
        if seen.contains coupon then .error (.invalid (.couponOnTwoLines coupon))
        else validateLines (number + 1) (coupon :: seen) lines

/-- Checks that there are lines, each with a quantity in range and no coupon twice, and that
the payment details are complete if there are any. -/
def validate (order : NewOrder) : Except Fault Unit := do
  if order.lines.isEmpty then .error (.invalid .noLines)
  validateLines 1 [] order.lines
  match order.payment with
  | some details => details.validate
  | none => return ()

end NewOrder

end Checkout
