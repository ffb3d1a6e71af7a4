-- What follows from a settled payment: its order is confirmed or cancelled.
-- A failure of the store is not the last word, so it is tried again.
import Checkout.Service.Orders

namespace Checkout.Service.Settlement

/-- How often the settlement of an order is tried. -/
def attempts : Nat := 3

/-- Tries a call again as long as the store fails and attempts are left. -/
def persist (call : Call Order) : Nat → Flow (Option Order)
  | 0 => .done none
  | left + 1 => do
    match ← call.run with
    | .ok order => return some order
    | .error fault => if fault.isTransient then persist call left else return none

/-- Settles the order of an event, if the event calls for it. An order that was moved on by
someone else is left alone. -/
def handle : Event → Flow (Option Order)
  | .paymentCompleted payment => persist (Orders.confirm payment.orderId) attempts
  | .paymentFailed payment _ => persist (Orders.cancel payment.orderId) attempts
  | .orderConfirmed _ => .done none
  | .orderCancelled _ => .done none

end Checkout.Service.Settlement
