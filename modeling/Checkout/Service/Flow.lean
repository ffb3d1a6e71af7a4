-- What a call of the service does, step by step: queries to the store, calls
-- to the payment processor, and events. Between two steps of one call, steps
-- of other calls may come.
import Checkout.Events
import Checkout.Gateway.Message
import Checkout.Store.Query

namespace Checkout.Service

/-- A call that goes on with the reply to each of its steps, and ends with a value. -/
inductive Flow (α : Type) : Type 1 where
  | done (a : α)
  | ask {β : Type} (query : Store.Query β) (next : Except Fault β → Flow α)
  | requestPayment (user : Id) (request : Gateway.PaymentRequest)
      (next : Except Gateway.Fault Gateway.Receipt → Flow α)
  | fetchTransaction (user : Id) (key : String)
      (next : Except Gateway.Fault Gateway.Transaction → Flow α)
  | publish (event : Event) (next : Flow α)

namespace Flow

variable {α β : Type}

/-- Goes on with another call. -/
def andThen (f : Flow α) (next : α → Flow β) : Flow β :=
  match f with
  | .done a => next a
  | .ask query rest => .ask query fun r => (rest r).andThen next
  | .requestPayment user request rest =>
    .requestPayment user request fun r => (rest r).andThen next
  | .fetchTransaction user key rest => .fetchTransaction user key fun r => (rest r).andThen next
  | .publish event rest => .publish event (rest.andThen next)

instance : Monad Flow where
  pure := .done
  bind := andThen

end Flow

/-- A call that may fail. -/
abbrev Call (α : Type) : Type 1 := ExceptT Fault Flow α

namespace Call

variable {α : Type}

/-- Asks the store. A failure there is one of the call. -/
def query (q : Store.Query α) : Call α := ExceptT.mk (.ask q .done)

/-- Asks the store, and goes on whatever the answer is. -/
def attempt (q : Store.Query α) : Call (Except Fault α) :=
  ExceptT.mk (.ask q fun r => .done (.ok r))

def fail (f : Fault) : Call α := ExceptT.mk (.done (.error f))

def ofExcept (r : Except Fault α) : Call α := ExceptT.mk (.done r)

/-- The value if there is one. -/
def orFail (f : Fault) : Option α → Call α
  | some a => pure a
  | none => fail f

def publish (event : Event) : Call Unit := ExceptT.mk (.publish event (.done (.ok ())))

/-- Asks the processor for a payment, and goes on whatever the answer is. -/
def requestPayment (user : Id) (request : Gateway.PaymentRequest) :
    Call (Except Gateway.Fault Gateway.Receipt) :=
  ExceptT.mk (.requestPayment user request fun r => .done (.ok r))

/-- Asks the processor for a transaction. Without an answer the call fails. -/
def fetchTransaction (user : Id) (key : String) : Call Gateway.Transaction :=
  ExceptT.mk (.fetchTransaction user key fun r => .done (r.mapError Fault.ofGateway))

end Call

end Checkout.Service
