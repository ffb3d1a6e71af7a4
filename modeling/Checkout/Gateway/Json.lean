-- The messages of the payment processor as JSON.
import Checkout.Gateway.Message
import Checkout.Json.Word
import Checkout.Money.Json

namespace Checkout.Gateway

namespace PaymentRequest

def toJson (r : PaymentRequest) : Json :=
  .object
    [("orderId", .integer r.orderId), ("cardType", .string r.cardType),
      ("cardNo", .string r.cardNo), ("amount", r.amount.toJson),
      ("callbackUrl", .string r.callbackUrl)]

def ofJson? (j : Json) : Option PaymentRequest := do
  let r ← j.record? ["orderId", "cardType", "cardNo", "amount", "callbackUrl"]
  return { orderId := ← r.required "orderId" Json.int64?
           cardType := ← r.required "cardType" Json.string?
           cardNo := ← r.required "cardNo" Json.string?
           amount := ← r.required "amount" Money.ofJson?
           callbackUrl := ← r.required "callbackUrl" Json.string? }

end PaymentRequest

namespace Receipt

def toJson (r : Receipt) : Json :=
  .object
    [("transactionKey", .string r.transactionKey), ("status", Json.word r.status),
      ("reason", Json.optionString r.reason)]

def ofJson? (j : Json) : Option Receipt := do
  let r ← j.record? ["transactionKey", "status", "reason"]
  return { transactionKey := ← r.required "transactionKey" Json.string?
           status := ← r.required "status" Json.word?
           reason := ← r.nullable "reason" Json.string? }

end Receipt

namespace Transaction

def toJson (t : Transaction) : Json :=
  .object
    [("transactionKey", .string t.transactionKey), ("orderId", .integer t.orderId),
      ("cardType", .string t.cardType), ("cardNo", .string t.cardNo),
      ("amount", t.amount.toJson), ("status", Json.word t.status),
      ("reason", Json.optionString t.reason)]

def ofJson? (j : Json) : Option Transaction := do
  let r ← j.record?
    ["transactionKey", "orderId", "cardType", "cardNo", "amount", "status", "reason"]
  return { transactionKey := ← r.required "transactionKey" Json.string?
           orderId := ← r.required "orderId" Json.int64?
           cardType := ← r.required "cardType" Json.string?
           cardNo := ← r.required "cardNo" Json.string?
           amount := ← r.required "amount" Money.ofJson?
           status := ← r.required "status" Json.word?
           reason := ← r.nullable "reason" Json.string? }

end Transaction

namespace Meta

def toJson (m : Meta) : Json :=
  .object
    [("result", Json.word m.result), ("errorCode", Json.optionString m.errorCode),
      ("message", Json.optionString m.message)]

def ofJson? (j : Json) : Option Meta := do
  let r ← j.record? ["result", "errorCode", "message"]
  return { result := ← r.required "result" Json.word?
           errorCode := ← r.nullable "errorCode" Json.string?
           message := ← r.nullable "message" Json.string? }

end Meta

namespace Envelope

def toJson {α : Type} (write : α → Json) (e : Envelope α) : Json :=
  .object [("meta", e.header.toJson), ("data", Json.ofOption write e.data)]

def ofJson? {α : Type} (read : Json → Option α) (j : Json) : Option (Envelope α) := do
  let r ← j.record? ["meta", "data"]
  return { header := ← r.required "meta" Meta.ofJson?
           data := ← r.optional "data" read }

end Envelope

end Checkout.Gateway
