-- The messages between the shop and the payment processor.
import Checkout.Payment

namespace Checkout.Gateway

/-- Asks the processor to charge a card. The only message with a full card number. -/
structure PaymentRequest where
  orderId : Id
  cardType : String
  cardNo : String
  amount : Money
  callbackUrl : String
deriving DecidableEq, Repr

/-- The processor's answer to a payment request. -/
structure Receipt where
  transactionKey : String
  status : TransactionStatus
  reason : Option String
deriving DecidableEq, Repr

/-- A transaction as the processor sees it. -/
structure Transaction where
  transactionKey : String
  orderId : Id
  cardType : String
  cardNo : String
  amount : Money
  status : TransactionStatus
  reason : Option String
deriving DecidableEq, Repr

/-- Whether the processor took a request. -/
inductive Result where
  | success
  | fail
deriving DecidableEq, Repr

instance : Enumeration Result where
  kind := "result"
  all := [.success, .fail]
  word
    | .success => "SUCCESS"
    | .fail => "FAIL"

/-- What the processor says about a request beside its data. -/
structure Meta where
  result : Result
  errorCode : Option String
  message : Option String
deriving DecidableEq, Repr

/-- The form in which the processor sends every answer. -/
structure Envelope (α : Type) where
  header : Meta
  data : Option α
deriving DecidableEq, Repr

end Checkout.Gateway
