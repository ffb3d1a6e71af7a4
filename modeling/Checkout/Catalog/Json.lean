-- Products and coupons as JSON.
import Checkout.Coupon
import Checkout.Json.Word
import Checkout.Money.Json
import Checkout.Product

namespace Checkout

def Product.toJson (p : Product) : Json :=
  .object
    [("id", .integer p.id), ("name", .string p.name), ("price", p.price.toJson),
      ("stock", .integer p.stock)]

def Coupon.toJson (c : Coupon) : Json :=
  .object
    [("id", .integer c.id), ("ownerId", .integer c.ownerId), ("kind", Json.word c.kind),
      ("discount", .integer c.discount), ("status", Json.word c.status),
      ("version", .integer c.version)]

end Checkout
