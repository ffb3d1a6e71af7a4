-- Payment details and requests as they appear in logs: never with a full
-- card number.
import Checkout.Gateway.Message
import Checkout.Money.Text
import Checkout.Text.Quoted

namespace Checkout

/-- A record in a log: its name and its fields, and whether it has more than are shown. -/
def logRecord (name : String) (fields : List (String × String)) (more : Bool) : String :=
  name ++ " \x7b " ++ ", ".intercalate (fields.map fun (k, v) => k ++ ": " ++ v) ++
    (if more then ", .. \x7d" else " \x7d")

/-- Payment details with the card number masked. -/
def PaymentDetails.logText (d : PaymentDetails) : String :=
  logRecord "PaymentDetails"
    [("card_type", Text.quoted d.cardType), ("card_no", Text.quoted d.maskedCardNo),
      ("callback_url", Text.quoted d.callbackUrl)] false

/-- A payment request without its card number. -/
def Gateway.PaymentRequest.logText (r : Gateway.PaymentRequest) : String :=
  logRecord "GatewayRequest"
    [("order_id", Text.intText r.orderId), ("card_type", Text.quoted r.cardType),
      ("amount", "Money(" ++ Text.intText r.amount.cents ++ ")"),
      ("callback_url", Text.quoted r.callbackUrl)] true

end Checkout
