-- The routes of the service: which request means which call, and how its
-- value or its failure is answered. The user is looked at before the path,
-- and the path before the body.
import Checkout.Account.Json
import Checkout.Http.Fault
import Checkout.Http.MediaType
import Checkout.Payment.Json
import Checkout.Service.Accounts
import Checkout.Service.Payments
import Checkout.Text.Percent

namespace Checkout.Http

open Service (Flow Call)

/-- A request as it comes in. -/
structure Request where
  method : String
  /-- The path with its query. -/
  target : String
  /-- The header that names the acting user. -/
  user : Option String
  contentType : Option String
  body : String
deriving DecidableEq, Repr

/-! ## Routes -/

/-- What a request is about. Ids are as they stand in the path. -/
inductive Route where
  | health
  | placeOrder
  | myOrders
  | orderById (id : String)
  | confirmOrder (id : String)
  | cancelOrder (id : String)
  | payOrder
  | paymentCallback
  | chargePoints
  | myPoints
deriving DecidableEq, Repr

/-- A percent sign, a slash and a plus sign: in a path these stay as they are written. -/
def keptInPath : List Nat := [0x25, 0x2f, 0x2b]

/-- The segments of a path, without the query. -/
def segments (target : String) : List String :=
  let path := String.ofList (target.toList.takeWhile fun c => c != '?' && c != '#')
  (Text.Percent.decode keptInPath path).splitOn "/"

/-- The route of a request, if it has one. -/
def Route.of? (method target : String) : Option Route :=
  match method, segments target with
  | "GET", ["", "health"] => some .health
  | "POST", ["", "api", "v1", "orders"] => some .placeOrder
  | "GET", ["", "api", "v1", "orders"] => some .myOrders
  | "GET", ["", "api", "v1", "orders", id] => if id.isEmpty then none else some (.orderById id)
  | "POST", ["", "api", "v1", "orders", id, "confirm"] =>
    if id.isEmpty then none else some (.confirmOrder id)
  | "POST", ["", "api", "v1", "orders", id, "cancel"] =>
    if id.isEmpty then none else some (.cancelOrder id)
  | "POST", ["", "api", "v1", "payments"] => some .payOrder
  | "POST", ["", "api", "v1", "payments", "callback"] => some .paymentCallback
  | "POST", ["", "api", "v1", "points", "charge"] => some .chargePoints
  | "GET", ["", "api", "v1", "points"] => some .myPoints
  | _, _ => none

/-! ## What a request must bring -/

def userHeader : String := "X-USER-ID"

/-- A character that a header can hold as text. -/
def isHeaderText (c : Char) : Bool := c == '\t' || (32 ≤ c.toNat && c.toNat < 127)

/-- The acting user. -/
def actingUser (r : Request) : Except Fault Id :=
  match r.user with
  | none => .error (.invalidUser ("The " ++ userHeader ++ " header is required"))
  | some value =>
    let required := userHeader ++ " must be a numeric user id"
    if !value.toList.all isHeaderText then .error (.invalidUser required)
    else
      match Width.signed64.read (Text.trimmed value.toList) with
      | .ok id => .ok id
      | .error _ => .error (.invalidUser (required ++ ", got '" ++ value ++ "'"))

/-- The id that a segment of the path stands for. -/
def pathId (segment : String) : Except Fault Id :=
  let text := Text.Percent.decode [] segment
  (Width.signed64.read text.toList).mapError fun fault => .invalidPath fault.message

/-- What the body of a request stands for. -/
def bodyOf {α : Type} (read : Json → Option α) (r : Request) : Except Fault α :=
  if !((r.contentType.bind MediaType.ofText?).any MediaType.isJson) then .error (.invalidBody "Content type error")
  else
    match (Json.ofText? r.body).bind read with
    | some a => .ok a
    | none => .error (.invalidBody "Json deserialize error")

/-! ## Answers -/

def replyWith (value : Json) : Reply := ⟨200, "application/json", value.text⟩

def missing : Reply := ⟨404, "text/plain", ""⟩

def healthy : Reply := ⟨200, "text/plain; charset=utf-8", "👍️\n"⟩

/-- Makes a call and answers with its value or its failure. -/
def answer {α : Type} (write : α → Json) (call : Call α) : Flow Reply := do
  match ← call.run with
  | .ok a => return replyWith (write a)
  | .error fault => return (Fault.ofShop fault).reply

/-- Goes on with what a request brings, or answers that it does not. -/
def given {α : Type} (brought : Except Fault α) (next : α → Flow Reply) : Flow Reply :=
  match brought with
  | .ok a => next a
  | .error fault => return fault.reply

/-- Serves a route. -/
def serve (r : Request) : Route → Flow Reply
  | .health => return healthy
  | .placeOrder =>
    given (actingUser r) fun user => given (bodyOf OrderRequest.ofJson? r) fun order =>
      answer PlacedOrder.toJson (Service.Payments.placeOrder (order.toNewOrder user))
  | .myOrders =>
    given (actingUser r) fun user =>
      answer (Json.list Order.toJson) (Service.Orders.ofUser user)
  | .orderById id =>
    given (actingUser r) fun user => given (pathId id) fun id =>
      answer OrderDetails.toJson (Service.Orders.detailsForUser user id)
  | .confirmOrder id =>
    given (actingUser r) fun user => given (pathId id) fun id =>
      answer Order.toJson (Service.Orders.confirmForUser user id)
  | .cancelOrder id =>
    given (actingUser r) fun user => given (pathId id) fun id =>
      answer Order.toJson (Service.Orders.cancelForUser user id)
  | .payOrder =>
    given (actingUser r) fun user => given (bodyOf PayOrderRequest.ofJson? r) fun request =>
      answer Payment.toJson (Service.Payments.payOrder user request)
  | .paymentCallback =>
    given (bodyOf PaymentCallback.ofJson? r) fun callback =>
      answer (fun result => (CallbackResponse.mk result).toJson)
        (Service.Payments.handleCallback callback)
  | .chargePoints =>
    given (actingUser r) fun user => given (bodyOf ChargeRequest.ofJson? r) fun request =>
      answer Balance.toJson (Service.Accounts.charge user request.amount)
  | .myPoints =>
    given (actingUser r) fun user =>
      answer PointsSummary.toJson (Service.Accounts.points user)

/-- Serves a request. One without a route finds nothing. -/
def handle (r : Request) : Flow Reply :=
  match Route.of? r.method r.target with
  | some route => serve r route
  | none => return missing

end Checkout.Http
