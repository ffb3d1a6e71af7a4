-- Payments as JSON. The time of completion shows only as whether there is
-- one.
import Checkout.Order.Json
import Checkout.Payment

namespace Checkout

/-! ## Answers -/

def Payment.toJson (p : Payment) : Json :=
  .object
    [("id", .integer p.id), ("orderId", .integer p.orderId), ("userId", .integer p.userId),
      ("amount", p.amount.toJson), ("cardType", .string p.cardType), ("cardNo", .string p.cardNo),
      ("callbackUrl", .string p.callbackUrl), ("status", Json.word p.status),
      ("transactionKey", Json.optionString p.transactionKey),
      ("failureReason", Json.optionString p.failureReason),
      ("completedAt", .bool p.completedAt.isSome)]

/-- A placed order is written as its order, with the lines and the payment added. -/
def PlacedOrder.toJson (p : PlacedOrder) : Json :=
  .object
    (p.order.jsonMembers ++
      [("lines", Json.list OrderLine.toJson p.lines),
        ("payment", Json.ofOption Payment.toJson p.payment)])

def OrderDetails.toJson (d : OrderDetails) : Json :=
  .object
    (d.order.jsonMembers ++
      [("lines", Json.list OrderLine.toJson d.lines),
        ("payments", Json.list Payment.toJson d.payments)])

/-! ## Requests and reports -/

namespace PayOrderRequest

/-- The payment details stand among the other members. -/
def toJson (r : PayOrderRequest) : Json :=
  .object
    ([("orderId", .integer r.orderId), ("amount", r.amount.toJson)] ++ r.payment.jsonMembers)

/-- Reads an object only, and one that is sound in all its parts: the members that it does not
name are read along with the payment details. -/
def ofJson? (j : Json) : Option PayOrderRequest := do
  if !j.sound Json.deepest then none
  let r ← j.record? ["orderId", "amount", "cardType", "cardNo", "callbackUrl"]
  if r.listed then none
  return { orderId := ← r.required "orderId" Json.int64?
           amount := ← r.required "amount" Money.ofJson?
           payment := ← PaymentDetails.ofRecord? r }

end PayOrderRequest

namespace PaymentCallback

def toJson (c : PaymentCallback) : Json :=
  .object
    [("transactionKey", .string c.transactionKey), ("orderId", .integer c.orderId),
      ("cardType", .string c.cardType), ("cardNo", .string c.cardNo),
      ("amount", c.amount.toJson), ("status", Json.word c.status),
      ("reason", Json.optionString c.reason)]

def ofJson? (j : Json) : Option PaymentCallback := do
  let r ← j.record?
    ["transactionKey", "orderId", "cardType", "cardNo", "amount", "status", "reason"]
  return { transactionKey := ← r.required "transactionKey" Json.string?
           orderId := ← r.required "orderId" Json.int64?
           cardType := ← r.defaulted "cardType" Json.string? ""
           cardNo := ← r.defaulted "cardNo" Json.string? ""
           amount := ← r.required "amount" Money.ofJson?
           status := ← r.required "status" Json.word?
           reason := ← r.nullable "reason" Json.string? }

end PaymentCallback

namespace CallbackResponse

def toJson (r : CallbackResponse) : Json := .object [("result", Json.word r.result)]

def ofJson? (j : Json) : Option CallbackResponse := do
  let r ← j.record? ["result"]
  return { result := ← r.required "result" Json.word? }

end CallbackResponse

end Checkout
