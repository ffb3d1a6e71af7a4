-- Users and points as JSON.
import Checkout.Account
import Checkout.Json.Word
import Checkout.Money.Json

namespace Checkout

def User.toJson (u : User) : Json := .object [("id", .integer u.id), ("name", .string u.name)]

def Balance.toJson (b : Balance) : Json :=
  .object [("userId", .integer b.userId), ("amount", b.amount.toJson)]

def LedgerEntry.toJson (e : LedgerEntry) : Json :=
  .object
    [("id", .integer e.id), ("userId", .integer e.userId), ("kind", Json.word e.kind),
      ("amount", e.amount.toJson), ("balanceAfter", e.balanceAfter.toJson),
      ("orderId", Json.optionInt e.orderId)]

def PointsSummary.toJson (s : PointsSummary) : Json :=
  .object [("balance", s.balance.toJson), ("history", Json.list LedgerEntry.toJson s.history)]

namespace ChargeRequest

def toJson (r : ChargeRequest) : Json := .object [("amount", r.amount.toJson)]

def ofJson? (j : Json) : Option ChargeRequest := do
  let r ← j.record? ["amount"]
  return { amount := ← r.required "amount" Money.ofJson? }

end ChargeRequest

end Checkout
