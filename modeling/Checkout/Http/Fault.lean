-- The errors that the service answers with: their status, their wording and
-- the body that carries it.
import Checkout.Fault
import Checkout.Json

namespace Checkout.Http

/-- An answer to a request: its status and its text. -/
structure Reply where
  status : Nat
  contentType : String
  body : String
deriving DecidableEq, Repr

/-- Why the service could not do what it was asked. -/
inductive Fault where
  /-- The service could not start. -/
  | startup (reason : String)
  | backend (reason : String)
  | invalidBody (reason : String)
  | invalidPath (reason : String)
  | invalidUser (reason : String)
  | inputOutput (reason : String)
  | configuration (reason : String)
  | notFound (reason : String)
  | invalid (reason : String)
  | conflict (reason : String)
  | unavailable (reason : String)
deriving DecidableEq, Repr

namespace Fault

def message : Fault → String
  | .startup reason => "Could not initialize server. " ++ reason
  | .backend reason => "An error occurred on the backend of the server. " ++ reason
  | .invalidBody reason => "Could not read request body: " ++ reason
  | .invalidPath reason => "Could not read request path: " ++ reason
  | .invalidUser reason => "Missing or invalid user header. " ++ reason
  | .inputOutput reason => "An I/O error happened in the server. " ++ reason
  | .configuration reason => "Invalid server configuration. " ++ reason
  | .notFound reason => reason
  | .invalid reason => reason
  | .conflict reason => reason
  | .unavailable reason => reason

def status : Fault → Nat
  | .invalidBody _ => 400
  | .invalidPath _ => 400
  | .invalidUser _ => 400
  | .invalid _ => 400
  | .notFound _ => 404
  | .conflict _ => 409
  | .unavailable _ => 503
  | .startup _ => 500
  | .backend _ => 500
  | .inputOutput _ => 500
  | .configuration _ => 500

/-- The answer that reports a fault. -/
def reply (f : Fault) : Reply :=
  { status := f.status
    contentType := "application/json"
    body := (Json.object [("error", .string f.message)]).text }

/-- A fault of the shop as a fault of the service. What went wrong in the storage is not told. -/
def ofShop (f : Checkout.Fault) : Fault :=
  match f with
  | .notFound _ => .notFound f.message
  | .invalid _ => .invalid f.message
  | .insufficientStock .. => .conflict f.message
  | .insufficientBalance .. => .conflict f.message
  | .alreadyUsed _ => .conflict f.message
  | .versionConflict _ => .conflict f.message
  | .invalidStatus .. => .conflict f.message
  | .gatewayUnavailable _ => .unavailable f.message
  | .storage _ => .backend "The request could not be completed. Please try again later."
  | .overflow _ => .backend "The request could not be completed. Please try again later."

end Fault

end Checkout.Http
