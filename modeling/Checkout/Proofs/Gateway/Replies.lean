-- What the client makes of a reply. Only an answer with a status of success,
-- whose envelope says success and carries data, is an answer to the call, and
-- a guarded call succeeds only by such a reply to one of its attempts.
import Checkout.Gateway.Client
import Checkout.Proofs.Gateway.Attempts

namespace Checkout.Gateway

variable {σ α : Type}

/-! ## One reply -/

/-- The status of an answer, if the head of one came. -/
def Reply.status? : Reply → Option Nat
  | .answer status _ | .broken status _ => some status
  | .closed | .silence => none

/-- The envelope that the body of an answer stands for. -/
def decode? (read : Json → Option α) (status : Nat) (sent : String) : Option (Envelope α) :=
  (Json.ofText? (if Client.isBodiless status then "" else sent)).bind (Envelope.ofJson? read)

/-- The status is one of success. -/
def Succeeds (status : Nat) : Prop := 200 ≤ status ∧ status < 300

/-- The reply is an answer of success, and its envelope says success and carries the value. -/
inductive Reply.Brings (read : Json → Option α) : Reply → α → Prop where
  | answer {status : Nat} {sent : String} {e : Envelope α} {v : α} (hstatus : Succeeds status)
      (hdecodes : decode? read status sent = some e) (hresult : e.header.result = .success)
      (hdata : e.data = some v) : Brings read (.answer status sent) v

/-- What a reply comes to for a call whose answer is read with `read`. -/
structure Judged (c : Client) (read : Json → Option α) (reply : Reply)
    (outcome : Except Fault α) : Prop where
  accepted : ∀ v, outcome = .ok v ↔ reply.Brings read v
  /-- Another status is a refusal, whatever comes with it. -/
  refused : ∀ status ∈ reply.status?, ¬ Succeeds status →
    ∃ text, outcome = .error (.rejected ("HTTP " ++ Text.natText status ++ ": " ++ text))
  /-- A failure is a refusal, also if it carries data. -/
  failed : ∀ status sent e, reply = .answer status sent → Succeeds status →
    decode? read status sent = some e → e.header.result = .fail →
    outcome = .error
      (.rejected (e.header.errorCode.getD "UNKNOWN" ++ ": " ++ e.header.message.getD ""))
  /-- A success without data makes no sense. -/
  empty : ∀ status sent e, reply = .answer status sent → Succeeds status →
    decode? read status sent = some e → e.header.result = .success → e.data = none →
    outcome = .error (.invalidResponse "Response envelope carried no data")
  undecoded : ∀ status sent, reply = .answer status sent → Succeeds status →
    decode? read status sent = none → ∃ reason, outcome = .error (.invalidResponse reason)
  broken : ∀ status reason, reply = .broken status reason → Succeeds status →
    outcome = .error (.invalidResponse reason)
  closed : reply = .closed → ∃ reason, outcome = .error (.transport reason)
  silence : reply = .silence → outcome = .error (.timeout c.callTimeout)

variable {c : Client} {read : Json → Option α} {status : Nat} {sent : String} {e : Envelope α}

/-- A guarded call for a payment: who makes it, when, over which network, and in what state. -/
structure Errand (σ : Type) where
  client : Client
  guard : Guard
  began : Instant
  ended : Instant
  network : Network σ
  state : σ

namespace Errand

variable {x : Errand σ} {user : Id} {request : PaymentRequest} {receipt : Receipt}

/-- What an attempt does. -/
def attempt (x : Errand σ) (user : Id) (request : PaymentRequest) : σ → Attempt σ Receipt :=
  (x.client.processor x.network).requestPayment user request

/-- What the call comes to. -/
def outcome (x : Errand σ) (user : Id) (request : PaymentRequest) : Except Fault Receipt :=
  (x.guard.call x.began x.ended (x.attempt user request) x.state).1.result

/-- What the network does in the attempt that is made after so many others. -/
def exchange (x : Errand σ) (user : Id) (request : PaymentRequest) (i : Nat) : Exchange σ :=
  x.network (x.client.paymentMessage user request)
    (x.guard.standing (x.attempt user request) x.state i)

/-- The reply to one of the attempts came in time and brought the receipt. -/
structure Brought (x : Errand σ) (user : Id) (request : PaymentRequest) (receipt : Receipt)
    (i : Nat) : Prop where
  attempted : i < max x.guard.retry.maxAttempts 1
  inTime : ∃ delay ∈ (x.exchange user request i).delay, delay ≤ x.guard.limit
  accepted : (x.exchange user request i).reply.Brings Receipt.ofJson? receipt

end Errand

end Checkout.Gateway
