-- Why a call to the payment processor came to nothing.
import Checkout.Duration

namespace Checkout.Gateway

/-- The outcome of a call that brought no answer. -/
inductive Fault where
  /-- The client could not be set up. -/
  | initialization (reason : String)
  /-- The processor could not be reached. -/
  | transport (reason : String)
  /-- The processor did not answer in time. -/
  | timeout (limit : Duration)
  /-- The processor refused the request. -/
  | rejected (reason : String)
  /-- The processor's answer made no sense. -/
  | invalidResponse (reason : String)
  /-- The circuit breaker of this name kept the call back. -/
  | notPermitted (breaker : String)
deriving DecidableEq, Repr

def Fault.message : Fault → String
  | .initialization reason => "Could not initialize the payment processor client. " ++ reason
  | .transport reason => "Could not reach the payment processor. " ++ reason
  | .timeout limit => "The payment processor did not respond within " ++ limit.text
  | .rejected reason => "The payment processor rejected the request. " ++ reason
  | .invalidResponse reason => "The payment processor sent an invalid response. " ++ reason
  | .notPermitted breaker =>
    "Circuit breaker '" ++ breaker ++ "' is open. The call was not attempted"

end Checkout.Gateway
