-- Guarded calls to a processor whose answers to each call are set down
-- beforehand.
import Checkout.Rehearsal.Cue
import Checkout.Rehearsal.Drill
import Checkout.Text.Digits

namespace Checkout.Rehearsal

open Gateway (Guard Instant PaymentRequest Receipt Transaction)

/-- A call, with what happens at each of its attempts. -/
inductive Exchange where
  | request (user : Id) (order : Id) (cues : List (Cue Receipt))
  | fetch (key : String) (cues : List (Cue Transaction))
deriving DecidableEq, Repr

/-- What a call was answered. -/
inductive Exchange.Answer where
  | receipt (r : Receipt)
  | transaction (t : Transaction)
deriving DecidableEq, Repr

namespace Exchange

/-- The receipt for a request if nothing else is set down. -/
def usualReceipt (user order : Id) : Receipt :=
  { transactionKey := "tx-" ++ Text.intText user ++ "-" ++ Text.intText order
    status := .pending
    reason := none }

/-- The transaction of a key if nothing else is set down. -/
def usualTransaction (key : String) : Transaction :=
  { transactionKey := key
    orderId := 7
    cardType := "KB"
    cardNo := "1"
    amount := ⟨100, by decide⟩
    status := .success
    reason := none }

/-- Makes the call. The state of its end is the number of attempts. -/
def run (g : Guard) (now : Instant) : Exchange → Gateway.Ended Nat Answer × Guard
  | .request user order cues =>
    let (e, g) := g.call now now (Cue.counted cues fun _ => usualReceipt user order) 0
    (⟨e.result.map .receipt, e.elapsed, e.state⟩, g)
  | .fetch key cues =>
    let (e, g) := g.call now now (Cue.counted cues fun _ => usualTransaction key) 0
    (⟨e.result.map .transaction, e.elapsed, e.state⟩, g)

/-- Makes calls one after another. Gives how each ended, and how the breaker stood then. -/
def runAll (g : Guard) (now : Instant) :
    List Exchange → List (Gateway.Ended Nat Answer × Gateway.Breaker)
  | [] => []
  | exchange :: exchanges =>
    let (ended, g) := exchange.run g now
    (ended, g.breaker) :: runAll g (now + Drill.pace) exchanges

end Exchange

end Checkout.Rehearsal
