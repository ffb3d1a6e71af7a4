-- The start of the service: its store is opened, and its client for the
-- payment processor is set up. Whichever fails first ends it.
import Checkout.Help
import Checkout.Http.Fault
import Checkout.Settings
import Checkout.Store.Location

namespace Checkout.Startup

/-- Opens the store of an address. -/
def openStore (address : String) : Except Fault String :=
  if Store.Location.isMemory address then .ok address
  else .error (.storage (.stated "unable to open database file"))

/-- What a store that cannot be opened means for the service. -/
def storeFault : Fault → Http.Fault
  | .storage cause => .startup cause.text
  | fault => .startup fault.message

/-- Sets up all that the service needs. -/
def start (s : Settings) : Except Http.Fault Gateway.Client := do
  let _ ← (openStore s.databaseUrl).mapError storeFault
  (Gateway.Client.ofSettings s.gateway).mapError fun fault =>
    .startup ("Could not create the payment processor client. " ++ fault.message)

/-- What the program prints on each of its two outputs. -/
structure Printed where
  output : List String
  errors : List String
deriving DecidableEq, Repr

/-- What the program prints from its start to its end. -/
def run (arguments : List String) (e : Environment) : Except Settings.RangeFault Printed := do
  match Help.answer? arguments e with
  | some lines => return ⟨lines, []⟩
  | none =>
    let settings ← Settings.ofEnvironment e
    match start settings with
    | .ok _ => return ⟨["Bye!"], []⟩
    | .error fault => return ⟨[], [fault.message]⟩

end Checkout.Startup
