-- Single steps of a unit of work as they are written: an object with the
-- name of the step, the id that it is about, and what else it needs.
import Checkout.Account.Json
import Checkout.Catalog.Json
import Checkout.Payment.Json
import Checkout.Store.Placement

namespace Checkout.Rehearsal

open Store

/-- The same work with its value written as JSON. -/
def written {α : Type} (write : α → Json) (w : Work α) : Work Json := do return write (← w)

namespace WorkStep

variable (j : Json)

def int? (name : String) : Option Int := (j.get? name).bind Json.int64?

def cents? (name : String) : Option Money := (int? j name).bind Money.ofCents?

def word? {α : Type} [Enumeration α] (name : String) : Option α :=
  (j.get? name).bind Json.word?

/-- An order whose final total is what its discount leaves. -/
def insertOrder (userId : Id) (full discount : Money) : Work Order := do
  let final ← Work.ofExcept (Fault.ofOverflow (full.sub discount))
  Orders.insert userId { full, discount, final }

/-- A line without a coupon. -/
def insertLine (orderId : Id) (lineNo : Int) (line : NewOrderLine) (unitPrice : Money) :
    Work OrderLine := do
  Orders.insertLine orderId lineNo (← Work.ofExcept (PricedLine.price line unitPrice none))

/-- Settles a payment, and stamps the time on it if it is to be. -/
def settle (id : Id) (status : PaymentStatus) (reason : Option String) (stamped : Bool) :
    Work (Option Payment) := do
  let now ← Work.now
  Payments.settle id status reason (if stamped then some now else none)

/-- The work of a step about stock, coupons and points. -/
def ofGoods? (name : String) (id : Id) : Option (Work Json) := do
  match name with
  | "reserve" => return written Product.toJson (Products.reserve id (← int? j "quantity"))
  | "restore" => return written Product.toJson (Products.restore id (← int? j "quantity"))
  | "fetchProduct" => return written (Json.ofOption Product.toJson) (Products.fetchActive id)
  | "consume" => return written Coupon.toJson (Coupons.consume id (← int? j "ownerId"))
  | "restoreCoupon" => return written Coupon.toJson (Coupons.restore id)
  | "debit" =>
    return written Balance.toJson (Balances.debit id (← cents? j "amount") (int? j "orderId"))
  | "refund" =>
    return written Balance.toJson (Balances.refund id (← cents? j "amount") (← int? j "orderId"))
  | "charge" => return written Balance.toJson (Balances.charge id (← cents? j "amount"))
  | _ => none

/-- The work of a step about orders and payments. -/
def ofOrders? (name : String) (id : Id) : Option (Work Json) := do
  match name with
  | "insertOrder" =>
    return written Order.toJson (insertOrder id (← cents? j "full") (← cents? j "discount"))
  | "insertLine" =>
    let line : NewOrderLine := ⟨← int? j "productId", ← int? j "quantity", none⟩
    return written OrderLine.toJson
      (insertLine id (← int? j "lineNo") line (← cents? j "unitPrice"))
  | "transition" =>
    return written (Json.ofOption Order.toJson)
      (Orders.transition id (← word? j "from") (← word? j "to"))
  | "archive" => return written (Json.ofOption Order.toJson) (Orders.hide id)
  | "hasOpenPayment" => return written Json.bool (Payments.hasOpen id)
  | "settle" =>
    let reason := (j.get? "reason").bind Json.string?
    return written (Json.ofOption Payment.toJson)
      (settle id (← word? j "status") reason (j.get? "completed" matches some (.bool true)))
  | _ => none

end WorkStep

/-- The work of a step. -/
def workOfJson? (j : Json) : Option (Work Json) := do
  let name ← (j.get? "do").bind Json.string?
  let id ← WorkStep.int? j "id"
  WorkStep.ofGoods? j name id <|> WorkStep.ofOrders? j name id

end Checkout.Rehearsal
