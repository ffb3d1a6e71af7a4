-- Users and their prepaid points. The running balance of a user is kept
-- beside a history that only grows, and every change appends one entry.
import Checkout.Enumeration
import Checkout.Money

namespace Checkout

/-- Names a user, a product, an order or any other row of a table, counting from one. -/
abbrev Id := Int

structure User where
  id : Id
  name : String
deriving DecidableEq, Repr

/-- The points that a user can spend. -/
structure Balance where
  userId : Id
  amount : Money
deriving DecidableEq, Repr

/-- What a change of a balance was for. -/
inductive LedgerKind where
  | charge
  | debit
  | refund
deriving DecidableEq, Repr

instance : Enumeration LedgerKind where
  kind := "balance transaction kind"
  all := [.charge, .debit, .refund]
  word
    | .charge => "CHARGE"
    | .debit => "DEBIT"
    | .refund => "REFUND"

/-- One change of a balance. Its amount is signed: a debit is negative. -/
structure LedgerEntry where
  id : Id
  userId : Id
  kind : LedgerKind
  amount : Money
  balanceAfter : Money
  orderId : Option Id
deriving DecidableEq, Repr

/-- The balance of a user with all that led to it. -/
structure PointsSummary where
  balance : Balance
  history : List LedgerEntry
deriving DecidableEq, Repr

/-- A user's request to top up their balance. -/
structure ChargeRequest where
  amount : Money
deriving DecidableEq, Repr

end Checkout
