-- The events of the shop: a payment or an order has changed, and the change
-- is stored.
import Checkout.Payment

namespace Checkout

inductive EventKind where
  | paymentCompleted
  | paymentFailed
  | orderConfirmed
  | orderCancelled
deriving DecidableEq, Repr

instance : Enumeration EventKind where
  kind := "event"
  all := [.paymentCompleted, .paymentFailed, .orderConfirmed, .orderCancelled]
  word
    | .paymentCompleted => "paymentCompleted"
    | .paymentFailed => "paymentFailed"
    | .orderConfirmed => "orderConfirmed"
    | .orderCancelled => "orderCancelled"

/-- Something that happened, with the row as it was stored. -/
inductive Event where
  /-- The processor confirmed that it was paid. -/
  | paymentCompleted (payment : Payment)
  /-- The processor said that it failed, or it timed out. -/
  | paymentFailed (payment : Payment) (reason : String)
  | orderConfirmed (order : Order)
  /-- What the order took has been given back. -/
  | orderCancelled (order : Order)
deriving DecidableEq, Repr

namespace Event

def kind : Event → EventKind
  | .paymentCompleted _ => .paymentCompleted
  | .paymentFailed .. => .paymentFailed
  | .orderConfirmed _ => .orderConfirmed
  | .orderCancelled _ => .orderCancelled

/-- An event in one line: the row's id and status, and the reason of a failure. -/
def text : Event → String
  | .paymentCompleted p => Text.intText p.id ++ " " ++ Enumeration.word p.status
  | .paymentFailed p reason =>
    Text.intText p.id ++ " " ++ Enumeration.word p.status ++ " " ++ reason
  | .orderConfirmed o => Text.intText o.id ++ " " ++ Enumeration.word o.status
  | .orderCancelled o => Text.intText o.id ++ " " ++ Enumeration.word o.status

end Event

end Checkout
