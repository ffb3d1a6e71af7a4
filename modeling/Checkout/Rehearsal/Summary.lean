-- A short account of all that is stored.
import Checkout.Json
import Checkout.Rehearsal.World

namespace Checkout.Rehearsal

open Store (Tables)

namespace Summary

def ofEntry (e : LedgerEntry) : Json :=
  .string (Enumeration.word e.kind ++ " " ++ e.amount.text ++ " " ++ e.balanceAfter.text ++ " " ++
    (e.orderId.map Text.intText).getD "-")

def ofUser (t : Tables) (u : User) : Json :=
  .object
    [("id", .integer u.id), ("name", .string u.name),
      ("balance", Json.ofOption (fun b : Balance => .string b.amount.text) (t.find? u.id)),
      ("history", Json.list ofEntry (t.history.filter (·.userId == u.id)))]

def ofProduct (p : Product) : Json :=
  if p.deleted then .null
  else .object [("price", .string p.price.text), ("stock", .integer p.stock)]

def ofCoupon (c : Coupon) : Json :=
  .string (Enumeration.word c.kind ++ " " ++ Text.intText c.discount ++ " " ++
    Enumeration.word c.status ++ " v" ++ Text.intText c.version)

def ofPayment (p : Payment) : Json :=
  .string (Text.intText p.id ++ " " ++ Enumeration.word p.status ++ " " ++
    p.transactionKey.getD "-")

def ofOrder (t : Tables) (o : Order) : Json :=
  .object
    [("order",
        if o.archived then .null
        else .string (Text.intText o.userId ++ " " ++ Enumeration.word o.status ++ " " ++
          o.finalTotal.text)),
      ("lines", .integer (t.lines.countP (·.orderId == o.id))),
      ("payments", Json.list ofPayment (t.payments.filter (·.orderId == o.id)))]

def ofTables (t : Tables) : Json :=
  .object
    [("users", Json.list (ofUser t) t.users), ("products", Json.list ofProduct t.products),
      ("coupons", Json.list ofCoupon t.coupons), ("orders", Json.list (ofOrder t) t.orders)]

end Summary

/-- An account of a world, if all rows can be read. -/
def World.summary? (w : World) : Option Json :=
  if w.medium.damaged.isEmpty then some (Summary.ofTables w.tables) else none

end Checkout.Rehearsal
