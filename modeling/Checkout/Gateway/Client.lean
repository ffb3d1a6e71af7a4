-- The client of the payment processor: what it sends for each call, and what
-- it makes of the replies. Only a success with its data in the expected form
-- counts as an answer.
import Checkout.Gateway.Address
import Checkout.Gateway.Guard
import Checkout.Gateway.Json
import Checkout.Secret

namespace Checkout.Gateway

/-- Where the processor is and how it is called. -/
structure Settings where
  baseUrl : String
  apiKey : Secret
  /-- The time limit of one attempt. -/
  callTimeout : Duration
  retry : Retry
  breaker : Breaker.Config
deriving DecidableEq

namespace Settings

def default : Settings :=
  { baseUrl := "http://localhost:8082"
    apiKey := ⟨""⟩
    callTimeout := .ofMilliseconds 3000
    retry := .default
    breaker := .default }

end Settings

/-- A request as it is sent. -/
structure Message where
  method : String
  target : String
  userId : Id
  authorization : Option String
  contentType : String
  body : Option Json

/-- A request as it arrives. The blanks at the ends of a header get lost on the way. -/
def Message.toJson (m : Message) : Json :=
  .object
    [("method", .string m.method), ("path", .string m.target),
      ("userId", .string (Text.intText m.userId)),
      ("authorization", Json.ofOption (fun s => .string (Text.trim s)) m.authorization),
      ("contentType", .string m.contentType), ("body", Json.ofOption id m.body)]

/-- What comes back for a request. -/
inductive Reply where
  | answer (status : Nat) (body : String)
  /-- The head of an answer came, but its body did not come whole. -/
  | broken (status : Nat) (reason : String)
  /-- The connection was closed before an answer came. -/
  | closed
  | silence
deriving DecidableEq, Repr

/-- A client that is set up. -/
structure Client where
  baseUrl : String
  apiKey : Secret
  callTimeout : Duration
deriving DecidableEq

namespace Client

/-- A character that a header may hold. -/
def isHeaderChar (c : Char) : Bool := c == '\t' || (32 ≤ c.toNat && c.toNat != 127)

/-- Sets a client up. The key must be fit for a header. -/
def ofSettings (s : Settings) : Except Fault Client :=
  if s.apiKey.reveal.toList.all isHeaderChar then
    .ok { baseUrl := String.ofList (s.baseUrl.toList.reverse.dropWhile (· == '/')).reverse
          apiKey := s.apiKey
          callTimeout := s.callTimeout }
  else .error (.initialization "failed to parse header value")

def url (c : Client) (path : String) : String := c.baseUrl ++ "/api/v1" ++ path

/-- The value of the header that says who calls, if there is a key. -/
def authorization (c : Client) : Option String :=
  if c.apiKey.isEmpty then none else some ("Bearer " ++ c.apiKey.reveal)

/-- The part of an address that follows the host. -/
def afterHost (url : String) : String :=
  match url.splitOn "://" with
  | _ :: rest@(_ :: _) =>
    String.ofList (("://".intercalate rest).toList.dropWhile (· != '/'))
  | _ => url

def message (c : Client) (method path : String) (user : Id) (body : Option Json) : Message :=
  { method
    target := Address.target (afterHost (c.url path))
    userId := user
    authorization := c.authorization
    contentType := "application/json"
    body }

/-- Asks for a payment. -/
def paymentMessage (c : Client) (user : Id) (request : PaymentRequest) : Message :=
  c.message "POST" "/payments" user (some request.toJson)

/-- Asks for a transaction. -/
def transactionMessage (c : Client) (user : Id) (key : String) : Message :=
  c.message "GET" ("/payments/" ++ key) user none

/-! ## Replies -/

def isSuccess (status : Nat) : Bool := 200 ≤ status && status < 300

/-- An answer of this status comes without a body. -/
def isBodiless (status : Nat) : Bool := status == 204 || status == 304

/-- Text without the mark that may stand at its very front. -/
def withoutMark (s : String) : String :=
  match s.toList with
  | '\ufeff' :: cs => String.ofList cs
  | _ => s

/-- The data of an envelope, if the processor took the request. -/
def ofEnvelope {α : Type} (e : Envelope α) : Except Fault α :=
  match e.header.result with
  | .success =>
    match e.data with
    | some a => .ok a
    | none => .error (.invalidResponse "Response envelope carried no data")
  | .fail =>
    .error (.rejected (e.header.errorCode.getD "UNKNOWN" ++ ": " ++ e.header.message.getD ""))

/-- What a reply says about a call whose answer is read with `read`. -/
def ofReply {α : Type} (c : Client) (read : Json → Option α) : Reply → Except Fault α
  | .silence => .error (.timeout c.callTimeout)
  | .closed => .error (.transport "error sending request")
  | .broken status reason =>
    if !isSuccess status then .error (.rejected ("HTTP " ++ Text.natText status ++ ": "))
    else .error (.invalidResponse reason)
  | .answer status sent =>
    let body := if isBodiless status then "" else sent
    if !isSuccess status then
      .error (.rejected ("HTTP " ++ Text.natText status ++ ": " ++ withoutMark body))
    else
      match (Json.ofText? body).bind (Envelope.ofJson? read) with
      | some e => ofEnvelope e
      | none => .error (.invalidResponse "error decoding response body")

def receiptOf (c : Client) (reply : Reply) : Except Fault Receipt := c.ofReply Receipt.ofJson? reply

def transactionOf (c : Client) (reply : Reply) : Except Fault Transaction :=
  c.ofReply Transaction.ofJson? reply

end Client

/-! ## The processor behind the network -/

/-- What the network does with a message: what comes back and when. Whether anybody waits for the
reply may make a difference to the one who sends it. -/
structure Exchange (σ : Type) where
  /-- How long the reply takes; none if it never comes. -/
  delay : Option Duration
  reply : Reply
  answered : σ
  cut : σ

/-- All that is behind a client, in a state. -/
abbrev Network (σ : Type) := Message → σ → Exchange σ

namespace Client

variable {σ α : Type}

/-- One attempt at a call: the message is sent, and the reply is read. -/
def attempt (c : Client) (read : Json → Option α) (network : Network σ) (message : Message)
    (s : σ) : Attempt σ α :=
  let exchange := network message s
  { delay := exchange.delay
    answer := c.ofReply read exchange.reply
    answered := exchange.answered
    cut := exchange.cut }

/-- The processor as the client reaches it. -/
def processor (c : Client) (network : Network σ) : Processor σ where
  requestPayment user request := c.attempt Receipt.ofJson? network (c.paymentMessage user request)
  fetchTransaction user key := c.attempt Transaction.ofJson? network (c.transactionMessage user key)

end Client

end Checkout.Gateway
