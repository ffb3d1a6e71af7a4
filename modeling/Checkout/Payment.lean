-- Payments of orders, and the messages that open and settle them.
import Checkout.Moment
import Checkout.Order

namespace Checkout

inductive PaymentStatus where
  | pending
  | completed
  | failed
deriving DecidableEq, Repr

instance : Enumeration PaymentStatus where
  kind := "payment status"
  all := [.pending, .completed, .failed]
  word
    | .pending => "PENDING"
    | .completed => "COMPLETED"
    | .failed => "FAILED"

def PaymentStatus.isTerminal (s : PaymentStatus) : Bool := s != .pending

/-- A payment of an order. The card number is masked. The processor assigns the transaction key
once it accepts the payment. -/
structure Payment where
  id : Id
  orderId : Id
  userId : Id
  amount : Money
  cardType : String
  cardNo : String
  callbackUrl : String
  status : PaymentStatus
  transactionKey : Option String
  failureReason : Option String
  completedAt : Option Moment
  createdAt : Moment
deriving DecidableEq, Repr

/-- The payment may still complete, or has: no other one may be opened for its order. -/
def Payment.isOpen (p : Payment) : Bool := p.status == .pending || p.status == .completed

structure NewPayment where
  orderId : Id
  userId : Id
  amount : Money
  cardType : String
  cardNo : String
  callbackUrl : String
deriving DecidableEq, Repr

/-- The payment of an order in full, with its card number masked. -/
def NewPayment.forOrder (o : Order) (d : PaymentDetails) : NewPayment :=
  { orderId := o.id
    userId := o.userId
    amount := o.finalTotal
    cardType := d.cardType
    cardNo := d.maskedCardNo
    callbackUrl := d.callbackUrl }

/-- An order just placed, with its lines and the payment opened for it. -/
structure PlacedOrder where
  order : Order
  lines : List OrderLine
  payment : Option Payment
deriving DecidableEq, Repr

/-- An order with its lines and all its payments. -/
structure OrderDetails where
  order : Order
  lines : List OrderLine
  payments : List Payment
deriving DecidableEq, Repr

/-- A user's request to pay for an order. -/
structure PayOrderRequest where
  orderId : Id
  amount : Money
  payment : PaymentDetails
deriving DecidableEq, Repr

/-! ## Reports of the processor -/

/-- How far a transaction has come at the processor. -/
inductive TransactionStatus where
  | pending
  | success
  | failed
deriving DecidableEq, Repr

instance : Enumeration TransactionStatus where
  kind := "transaction status"
  all := [.pending, .success, .failed]
  word
    | .pending => "PENDING"
    | .success => "SUCCESS"
    | .failed => "FAILED"

/-- A report of the processor about a transaction. Nobody vouches for it. -/
structure PaymentCallback where
  transactionKey : String
  orderId : Id
  cardType : String
  cardNo : String
  amount : Money
  status : TransactionStatus
  reason : Option String
deriving DecidableEq, Repr

/-- What became of a report. -/
inductive CallbackOutcome where
  | completed
  | failed
  | pending
  | duplicate
deriving DecidableEq, Repr

instance : Enumeration CallbackOutcome where
  kind := "callback outcome"
  all := [.completed, .failed, .pending, .duplicate]
  word
    | .completed => "COMPLETED"
    | .failed => "FAILED"
    | .pending => "PENDING"
    | .duplicate => "DUPLICATE"

/-- The answer to a report. -/
structure CallbackResponse where
  result : CallbackOutcome
deriving DecidableEq, Repr

end Checkout
