-- Why a request of the shop failed. Each fault is a cause; its wording is in
-- one place.
import Checkout.Coupon
import Checkout.Gateway.Fault
import Checkout.Money.Text
import Checkout.Order

namespace Checkout

/-- Something that a request names and that is not there. -/
inductive Missing where
  | user (id : Id)
  | coupon (id : Id)
  | product (id : Id)
  | order (id : Id)
  | balanceOf (owner : Id)
  | paymentWithKey (key : String)
  | named (what : String)
deriving DecidableEq, Repr

def Missing.text : Missing → String
  | .user id => "User " ++ Text.intText id
  | .coupon id => "Coupon " ++ Text.intText id
  | .product id => "Product " ++ Text.intText id
  | .order id => "Order " ++ Text.intText id
  | .balanceOf owner => "Balance for user " ++ Text.intText owner
  | .paymentWithKey key => "Payment with transaction key " ++ key
  | .named what => what

/-- What makes a request invalid. -/
inductive Invalid where
  | noLines
  | quantityOutOfRange (line : Nat) (quantity : Int)
  | couponOnTwoLines (coupon : Id)
  | missingDetails (names : List String)
  | lineTooLarge (quantity : Int) (price : Money)
  | totalTooLarge
  | noUserName
  | userNameTaken (name : String)
  | chargeMustBePositive (amount : Money)
  | chargeNotPositive (amount : Money)
  | negativeDebit (amount : Money)
  | negativeCredit (amount : Money)
  | balanceTooLarge (kind : LedgerKind) (amount : Money)
  | negativePriceOrStock
  | couponDiscount (kind : CouponKind) (discount : Int)
  | keyTaken (key : String)
  | paymentOpen (order : Id)
  | amountDiffers (amount total : Money)
  | foreignTransaction (key : String)
  | unverified (key : String)
  | stated (reason : String)
deriving DecidableEq, Repr

def Invalid.text : Invalid → String
  | .noLines => "An order must have at least one line"
  | .quantityOutOfRange line quantity =>
    "Line " ++ Text.natText line ++ ": quantity must be between 1 and " ++
      Text.intText largestQuantity ++ ", got " ++ Text.intText quantity
  | .couponOnTwoLines coupon =>
    "Coupon " ++ Text.intText coupon ++ " is applied to more than one line"
  | .missingDetails names => "Missing payment details: " ++ ", ".intercalate names
  | .lineTooLarge quantity price =>
    Text.intText quantity ++ " × " ++ price.text ++ " is too large"
  | .totalTooLarge => "The order total is too large"
  | .noUserName => "A user name is required"
  | .userNameTaken name => "A user named " ++ name ++ " already exists"
  | .chargeMustBePositive amount => "Charge amount must be positive, got " ++ amount.text
  | .chargeNotPositive amount => "A charge must be positive, but was " ++ amount.text
  | .negativeDebit amount => "Cannot debit a negative amount (" ++ amount.text ++ ")"
  | .negativeCredit amount => "Cannot credit a negative amount (" ++ amount.text ++ ")"
  | .balanceTooLarge kind amount =>
    "A " ++ Enumeration.word kind ++ " of " ++ amount.text ++
      " would take the balance beyond the largest supported amount"
  | .negativePriceOrStock => "Price and stock may not be negative"
  | .couponDiscount kind discount =>
    Text.intText discount ++ " is not a valid discount for a " ++ Enumeration.word kind ++
      " coupon"
  | .keyTaken key => "Transaction key " ++ key ++ " is already assigned"
  | .paymentOpen order =>
    "Order " ++ Text.intText order ++ " already has an open or settled payment"
  | .amountDiffers amount total =>
    "Payment amount " ++ amount.text ++ " does not match the order total of " ++ total.text
  | .foreignTransaction key => "Transaction " ++ key ++ " does not belong to the given order"
  | .unverified key => "Transaction " ++ key ++ " could not be verified"
  | .stated reason => reason

/-- What went wrong in the storage. -/
inductive StorageFault where
  /-- The storage refused to write a row of the table. -/
  | refused (table : String)
  /-- A row of the table cannot be read. -/
  | damaged (table : String)
  /-- A write to the table breaks one of its rules. -/
  | constraint (table : String)
  /-- A statement that must give a row of the table gave none. -/
  | noRow (table : String)
  | stated (reason : String)
deriving DecidableEq, Repr

def StorageFault.text : StorageFault → String
  | .refused table => "the write to " ++ table ++ " was refused"
  | .damaged table => "a row of " ++ table ++ " cannot be read"
  | .constraint table => "a rule of " ++ table ++ " is broken"
  | .noRow table => "no row of " ++ table ++ " was returned"
  | .stated reason => reason

/-- Why a request of the shop failed. -/
inductive Fault where
  | storage (cause : StorageFault)
  | notFound (what : Missing)
  | insufficientStock (product : Id) (requested available : Int)
  | insufficientBalance (user : Id) (required available : Money)
  | alreadyUsed (coupon : Id)
  | versionConflict (coupon : Id)
  | invalidStatus (order : Id) (status : OrderStatus)
  | invalid (cause : Invalid)
  | gatewayUnavailable (reason : String)
  /-- An amount left its 64 bits in a calculation that takes that for impossible. -/
  | overflow (op : Overflow)
deriving DecidableEq, Repr

namespace Fault

def message : Fault → String
  | .storage cause => "Database error: " ++ cause.text
  | .notFound what => what.text ++ " does not exist"
  | .insufficientStock product requested available =>
    "Insufficient stock for product " ++ Text.intText product ++ ". Requested " ++
      Text.intText requested ++ ", but only " ++ Text.intText available ++ " available"
  | .insufficientBalance user required available =>
    "Insufficient balance for user " ++ Text.intText user ++ ". Required " ++ required.text ++
      ", but the balance is " ++ available.text
  | .alreadyUsed coupon => "Coupon " ++ Text.intText coupon ++ " has already been used"
  | .versionConflict coupon =>
    "Coupon " ++ Text.intText coupon ++ " was modified by another transaction"
  | .invalidStatus order status =>
    "Order " ++ Text.intText order ++ " is " ++ Enumeration.word status ++
      ". The requested transition is not allowed"
  | .invalid cause => "Invalid request. " ++ cause.text
  | .gatewayUnavailable reason => "The payment gateway is unavailable. " ++ reason
  | .overflow op => op.message

/-- The same request may succeed at another time. -/
def isTransient : Fault → Bool
  | .storage _ => true
  | _ => false

def ofGateway (f : Gateway.Fault) : Fault := .gatewayUnavailable f.message

def ofOverflow {α : Type} : Except Overflow α → Except Fault α := Except.mapError .overflow

end Fault

end Checkout
