-- The settings of the service. Each comes from one variable; one that is not
-- set or cannot be read keeps its default.
import Checkout.Gateway.Client
import Checkout.Settings.Environment
import Checkout.Settings.Value

namespace Checkout

/-- How the service is set up. -/
structure Settings where
  host : String
  portNumber : Nat
  databaseUrl : String
  maxDatabaseConnections : Nat
  gateway : Gateway.Settings
  /-- A payment that is open for longer than so many minutes is failed by the sweep. -/
  paymentTimeoutMinutes : Int
  /-- How often the sweep runs. -/
  paymentSweepInterval : Duration
  eventBuffer : Nat
deriving DecidableEq

namespace Settings

def defaultDatabaseUrl : String := "sqlite://data/orders.db"

/-- All defaults. -/
def default : Settings :=
  { host := "127.0.0.1"
    portNumber := 8370
    databaseUrl := defaultDatabaseUrl
    maxDatabaseConnections := 25
    gateway := .default
    paymentTimeoutMinutes := 10
    paymentSweepInterval := .ofSeconds 300
    eventBuffer := 25 }

/-- The defaults at a given address. -/
def listeningAt (host : String) (portNumber : Nat) : Settings :=
  { default with host, portNumber }

/-- The reason that settings cannot be made at all. -/
inductive RangeFault where
  /-- A length of time in minutes that milliseconds of 64 bits cannot hold. -/
  | minutes
deriving DecidableEq, Repr

def RangeFault.message : RangeFault → String
  | .minutes => "TimeDelta::minutes out of bounds"

/-- The most minutes that a length of time may have, either way. -/
def mostMinutes : Int := 153722867280912

def checkMinutes (n : Int) : Except RangeFault Int :=
  if -mostMinutes ≤ n ∧ n ≤ mostMinutes then .ok n else .error .minutes

/-! ## From the environment -/

variable (e : Environment)

/-- A setting, or its default if the variable is not set or cannot be read. -/
def valueOr {α : Type} (read : String → Except String α) (name : String) (default : α) : α :=
  match readOr read (e.get? name) default with
  | .ok a => a
  | .error _ => default

def countOr (bits : Nat) (name : String) (default : Nat) : Nat :=
  valueOr e (readCount bits) name default

/-- A percentage, or the default if it is none. -/
def percentageOr (name : String) (default : Binary64) : Binary64 :=
  let d := valueOr e readDouble name default
  if (Binary64.zero false).le d && d.le (.ofNat 100) then d else default

def gatewayOf : Gateway.Settings :=
  { baseUrl := (e.get? "ORDERS_GATEWAY_URL").getD "http://localhost:8082"
    apiKey := ⟨(e.get? "ORDERS_GATEWAY_API_KEY").getD ""⟩
    callTimeout := .ofMilliseconds (countOr e 64 "ORDERS_GATEWAY_TIMEOUT_MS" 3000)
    retry := .new (countOr e 32 "ORDERS_GATEWAY_RETRY_ATTEMPTS" 3)
      (.ofMilliseconds (countOr e 64 "ORDERS_GATEWAY_RETRY_WAIT_MS" 100))
    breaker :=
      { window := max (countOr e 64 "ORDERS_BREAKER_WINDOW" 10) 1
        minimumCalls := max (countOr e 64 "ORDERS_BREAKER_MIN_CALLS" 5) 1
        threshold := percentageOr e "ORDERS_BREAKER_FAILURE_RATE" (.ofNat 50)
        openWait := .ofSeconds (countOr e 64 "ORDERS_BREAKER_OPEN_SECS" 60)
        halfOpenCalls := max (countOr e 64 "ORDERS_BREAKER_HALF_OPEN_CALLS" 3) 1 } }

/-- The settings that an environment makes. -/
def ofEnvironment : Except RangeFault Settings := do
  let minutes ← checkMinutes
    (valueOr e (readWhole .signed64) "ORDERS_PAYMENT_TIMEOUT_MINS" 10)
  return { host := (e.get? "ORDERS_HOST").getD "127.0.0.1"
           portNumber := countOr e 16 "ORDERS_PORT" 8370
           databaseUrl := (e.get? "ORDERS_DATABASE_URL").getD defaultDatabaseUrl
           maxDatabaseConnections := countOr e 32 "ORDERS_MAX_DB_CONNECTIONS" 25
           gateway := gatewayOf e
           paymentTimeoutMinutes := minutes
           paymentSweepInterval := .ofSeconds (countOr e 64 "ORDERS_PAYMENT_SWEEP_SECS" 300)
           eventBuffer := countOr e 64 "ORDERS_EVENT_BUFFER" 25 }

end Settings

end Checkout
