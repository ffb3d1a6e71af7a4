-- Orders as JSON. A request is read by the same names that it is written
-- with.
import Checkout.Json.Word
import Checkout.Money.Json
import Checkout.Pricing

namespace Checkout

/-! ## Answers -/

def Order.jsonMembers (o : Order) : List (String × Json) :=
  [("id", .integer o.id), ("userId", .integer o.userId),
    ("originalTotal", o.fullTotal.toJson), ("discountTotal", o.discountTotal.toJson),
    ("finalTotal", o.finalTotal.toJson), ("status", Json.word o.status)]

def Order.toJson (o : Order) : Json := .object o.jsonMembers

def OrderLine.toJson (l : OrderLine) : Json :=
  .object
    [("id", .integer l.id), ("orderId", .integer l.orderId), ("lineNo", .integer l.lineNo),
      ("productId", .integer l.productId), ("quantity", .integer l.quantity),
      ("unitPrice", l.unitPrice.toJson), ("couponId", Json.optionInt l.couponId),
      ("discount", l.discount.toJson), ("lineTotal", l.lineTotal.toJson)]

/-- A priced line is the one record whose names are joined by underscores. -/
def PricedLine.toJson (l : PricedLine) : Json :=
  .object
    [("product_id", .integer l.productId), ("quantity", .integer l.quantity),
      ("unit_price", l.unitPrice.toJson), ("coupon_id", Json.optionInt l.couponId),
      ("discount", l.discount.toJson), ("line_total", l.lineTotal.toJson)]

def OrderTotals.toJson (t : OrderTotals) : Json :=
  .object
    [("originalTotal", t.full.toJson), ("discountTotal", t.discount.toJson),
      ("finalTotal", t.final.toJson)]

/-! ## Requests -/

namespace NewOrderLine

def toJson (l : NewOrderLine) : Json :=
  .object
    [("productId", .integer l.productId), ("quantity", .integer l.quantity),
      ("couponId", Json.optionInt l.couponId)]

def ofJson? (j : Json) : Option NewOrderLine := do
  let r ← j.record? ["productId", "quantity", "couponId"]
  return { productId := ← r.required "productId" Json.int64?
           quantity := ← r.required "quantity" Json.int64?
           couponId := ← r.nullable "couponId" Json.int64? }

end NewOrderLine

namespace PaymentDetails

def jsonMembers (d : PaymentDetails) : List (String × Json) :=
  [("cardType", .string d.cardType), ("cardNo", .string d.cardNo),
    ("callbackUrl", .string d.callbackUrl)]

def toJson (d : PaymentDetails) : Json := .object d.jsonMembers

def ofRecord? (r : Json.Record) : Option PaymentDetails := do
  return { cardType := ← r.required "cardType" Json.string?
           cardNo := ← r.required "cardNo" Json.string?
           callbackUrl := ← r.required "callbackUrl" Json.string? }

def ofJson? (j : Json) : Option PaymentDetails := do
  ofRecord? (← j.record? ["cardType", "cardNo", "callbackUrl"])

end PaymentDetails

namespace OrderRequest

def toJson (r : OrderRequest) : Json :=
  .object
    [("lines", Json.list NewOrderLine.toJson r.lines),
      ("payment", Json.ofOption PaymentDetails.toJson r.payment)]

def ofJson? (j : Json) : Option OrderRequest := do
  let r ← j.record? ["lines", "payment"]
  return { lines := ← r.required "lines" (Json.list? NewOrderLine.ofJson?)
           payment := ← r.nullable "payment" PaymentDetails.ofJson? }

end OrderRequest

end Checkout
