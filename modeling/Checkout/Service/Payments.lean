-- The calls on payments. The processor is asked only after the order or the
-- payment is stored, and whatever it does, the call that asked it succeeds.
-- What the processor reports is believed only after it was asked itself.
import Checkout.Service.Orders

namespace Checkout.Service.Payments

/-- Why a payment failed that the processor could not be asked about. -/
def fallbackReason : String := "payment system did not respond in time; please retry"

/-- Why a payment failed that the processor declined without a reason. -/
def declinedReason : String := "payment was declined by the processor"

/-- Why a payment failed that was open for too long. -/
def timeoutReason : String := "payment timed out"

/-! ## Asking for a payment -/

/-- A payment as it is stored now, or as it was known if that cannot be found out. -/
def latest (payment : Payment) : Call Payment := do
  match ← Call.attempt (.payment payment.id) with
  | .ok (some stored) => return stored
  | _ => return payment

/-- Marks a payment as failed, unless it is settled by now. -/
def markFailed (payment : Payment) (reason : String) : Call Payment := do
  match ← Call.attempt (.failPayment payment.id reason) with
  | .ok (some failed) => return failed
  | .ok none => latest payment
  | .error _ => return payment

/-- Notes the transaction that the processor began for a payment. -/
def noteKey (payment : Payment) (key : String) : Call Payment := do
  match ← Call.attempt (.assignKey payment.id key) with
  | .ok (some updated) => return updated
  | .ok none => latest payment
  | .error _ => return payment

/-- The request for a payment, with the full card number. -/
def requestFor (payment : Payment) (details : PaymentDetails) : Gateway.PaymentRequest :=
  { orderId := payment.orderId
    cardType := details.cardType
    cardNo := details.cardNo
    amount := payment.amount
    callbackUrl := details.callbackUrl }

/-- Asks the processor for a payment, and gives the payment as it is known then. -/
def initiate (payment : Payment) (details : PaymentDetails) : Call Payment := do
  match ← Call.requestPayment payment.userId (requestFor payment details) with
  | .error _ => markFailed payment fallbackReason
  | .ok receipt =>
    if receipt.status = .failed then markFailed payment (receipt.reason.getD declinedReason)
    else noteKey payment receipt.transactionKey

/-- Places an order, and asks for its payment if it comes with payment details. -/
def placeOrder (order : NewOrder) : Call PlacedOrder := do
  let placed ← Orders.create order
  match placed.payment, order.payment with
  | some payment, some details =>
    return { placed with payment := some (← initiate payment details) }
  | _, _ => return placed

/-- Pays for a pending order of a user, in full, and if no other payment is open. -/
def payOrder (userId : Id) (request : PayOrderRequest) : Call Payment := do
  Call.ofExcept request.payment.validate
  let order ← Orders.fetchForUser userId request.orderId
  if order.status ≠ .pending then Call.fail (.invalidStatus request.orderId order.status)
  if request.amount ≠ order.finalTotal then
    Call.fail (.invalid (.amountDiffers request.amount order.finalTotal))
  let payment ← Call.query (.openPayment (.forOrder order request.payment))
  initiate payment request.payment

/-! ## Reports of the processor -/

/-- A transaction is a success and stands for the payment. -/
def vouchesFor (transaction : Gateway.Transaction) (payment : Payment) : Bool :=
  transaction.status == .success && transaction.orderId == payment.orderId &&
    transaction.amount == payment.amount

/-- Completes a payment that the processor reported as paid, if it says so when asked. -/
def complete (payment : Payment) : Call CallbackOutcome := do
  let key := payment.transactionKey.getD ""
  let transaction ← Call.fetchTransaction payment.userId key
  if !vouchesFor transaction payment then Call.fail (.invalid (.unverified key))
  match ← Call.query (.completePayment payment.id) with
  | some completed =>
    Call.publish (.paymentCompleted completed)
    return .completed
  | none => return .duplicate

/-- Fails a payment that the processor reported as failed. -/
def fail (payment : Payment) (reason : String) : Call CallbackOutcome := do
  match ← Call.query (.failPayment payment.id reason) with
  | some failed =>
    Call.publish (.paymentFailed failed reason)
    return .failed
  | none => return .duplicate

/-- Takes a report of the processor. The payment is found by its key, and the report must name
its order. One for a settled payment changes nothing. -/
def handleCallback (callback : PaymentCallback) : Call CallbackOutcome := do
  let key := callback.transactionKey
  let payment ← Call.orFail (.notFound (.paymentWithKey key)) (← Call.query (.paymentWithKey key))
  if payment.status.isTerminal then return .duplicate
  if callback.orderId ≠ payment.orderId then Call.fail (.invalid (.foreignTransaction key))
  match callback.status with
  | .pending => return .pending
  | .success => complete payment
  | .failed => fail payment (callback.reason.getD declinedReason)

/-! ## Payments that were open for too long -/

/-- Fails those of some payments that are still pending, in order, and gives them. -/
def expireAll : List Payment → Call (List Payment)
  | [] => return []
  | payment :: payments => do
    match ← Call.query (.failPayment payment.id timeoutReason) with
    | some failed =>
      Call.publish (.paymentFailed failed timeoutReason)
      return failed :: (← expireAll payments)
    | none => expireAll payments

/-- Fails all payments that are pending and older than a point in time. -/
def expireStale (cutoff : Moment) : Call (List Payment) := do
  expireAll (← Call.query (.stalePayments cutoff))

end Checkout.Service.Payments
