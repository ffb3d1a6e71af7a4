-- Card details, and card numbers masked for storage and for logs. The full
-- number goes to the payment processor and nowhere else.
import Checkout.Text.Blank

namespace Checkout

/-- How a payment is to be made, and where the processor reports its outcome. -/
structure PaymentDetails where
  cardType : String
  cardNo : String
  callbackUrl : String
deriving DecidableEq, Repr

namespace Card

/-- How many digits a card number has. -/
def digitCount (cs : List Char) : Nat := cs.countP Char.isDigit

/-- A card number with a star for every digit that has at least four more after it. -/
def maskedChars : List Char → List Char
  | [] => []
  | c :: cs => (if c.isDigit && 4 ≤ digitCount cs then '*' else c) :: maskedChars cs

/-- A card number that shows its last four digits only. Separators stay where they are. -/
def masked (cardNo : String) : String := String.ofList (maskedChars cardNo.toList)

end Card

namespace PaymentDetails

def maskedCardNo (d : PaymentDetails) : String := Card.masked d.cardNo

/-- The names of the details that are blank. -/
def missing (d : PaymentDetails) : List String :=
  ([("cardType", d.cardType), ("cardNo", d.cardNo), ("callbackUrl", d.callbackUrl)].filter
    fun detail => Text.isAllBlank detail.2).map (·.1)

end PaymentDetails

end Checkout
