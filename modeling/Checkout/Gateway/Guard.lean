-- Guarded calls to the payment processor: each attempt has a time limit, the
-- attempts are repeated, and a circuit breaker sees one outcome for all of
-- them.
import Checkout.Gateway.Breaker
import Checkout.Gateway.Message
import Checkout.Gateway.Retry

namespace Checkout.Gateway

/-- A payment processor in a state: what an attempt at each call does. -/
structure Processor (σ : Type) where
  requestPayment : (user : Id) → PaymentRequest → σ → Attempt σ Receipt
  fetchTransaction : (user : Id) → (key : String) → σ → Attempt σ Transaction

/-- How calls are guarded. -/
structure Guard where
  breaker : Breaker
  retry : Retry
  /-- The time limit of one attempt. -/
  limit : Duration
deriving DecidableEq, Repr

/-- The name of the breaker that all calls to the payment processor share. -/
def breakerName : String := "payment-gateway"

namespace Guard

variable {σ α : Type}

/-- Makes a call, unless the breaker keeps it back. The breaker reads its clock before and
after. -/
def call (g : Guard) (began ended : Instant) (attempt : σ → Attempt σ α) (s : σ) :
    Ended σ α × Guard :=
  match g.breaker.acquire began with
  | (.error fault, breaker) => (⟨.error fault, .zero, s⟩, { g with breaker })
  | (.ok _, breaker) =>
    let e := g.retry.run (fun s => (attempt s).within g.limit) s
    (e, { g with breaker := breaker.record ended e.result.toBool })

end Guard

end Checkout.Gateway
