-- The text that the program prints when it is started with arguments: what
-- it is, and the variables that set it up with their present values.
import Checkout.Settings.Environment

namespace Checkout.Help

/-- What the program is and how it is set up. -/
def about : List String :=
  ["Order Server",
    "============",
    "",
    "Accepts purchase orders against prepaid point balances and settles their payment with an external payment processor.",
    "",
    "The server takes no command line arguments. It is configured entirely from environment variables, which may also be",
    "placed in a \x60.env\x60 file in the working directory.",
    "",
    "  ORDERS_HOST                      Bind address (default 127.0.0.1)",
    "  ORDERS_PORT                      Bind port (default 8370)",
    "  ORDERS_DATABASE_URL              SQLite database url (default sqlite://data/orders.db)",
    "  ORDERS_MAX_DB_CONNECTIONS        Database pool size (default 25)",
    "  ORDERS_GATEWAY_URL               Payment processor base url (default http://localhost:8082)",
    "  ORDERS_GATEWAY_API_KEY           Bearer token for the payment processor (optional)",
    "  ORDERS_GATEWAY_TIMEOUT_MS        Timeout for each call to the processor (default 3000)",
    "  ORDERS_GATEWAY_RETRY_ATTEMPTS    Attempts per processor call (default 3)",
    "  ORDERS_GATEWAY_RETRY_WAIT_MS     Wait between attempts (default 100)",
    "  ORDERS_BREAKER_WINDOW            Circuit breaker window, in calls (default 10)",
    "  ORDERS_BREAKER_MIN_CALLS         Calls needed before the breaker can open (default 5)",
    "  ORDERS_BREAKER_FAILURE_RATE      Failure percentage that opens the breaker (default 50)",
    "  ORDERS_BREAKER_OPEN_SECS         Time the breaker stays open (default 60)",
    "  ORDERS_BREAKER_HALF_OPEN_CALLS   Trial calls while half-open (default 3)",
    "  ORDERS_PAYMENT_TIMEOUT_MINS      Age at which a pending payment times out (default 10)",
    "  ORDERS_PAYMENT_SWEEP_SECS        Interval of the payment timeout sweep (default 300)",
    "  ORDERS_EVENT_BUFFER              Event channel buffer size (default 25)",
    "",
    "Logging is controlled with RUST_LOG, e.g. RUST_LOG=info,orders::access_log=debug"]

/-- The variables whose values are shown. The key of the payment processor is not among them. -/
def shownNames : List String :=
  ["RUST_LOG", "ORDERS_HOST", "ORDERS_PORT", "ORDERS_DATABASE_URL", "ORDERS_MAX_DB_CONNECTIONS",
    "ORDERS_GATEWAY_URL", "ORDERS_GATEWAY_TIMEOUT_MS", "ORDERS_GATEWAY_RETRY_ATTEMPTS",
    "ORDERS_GATEWAY_RETRY_WAIT_MS", "ORDERS_BREAKER_WINDOW", "ORDERS_BREAKER_MIN_CALLS",
    "ORDERS_BREAKER_FAILURE_RATE", "ORDERS_BREAKER_OPEN_SECS", "ORDERS_BREAKER_HALF_OPEN_CALLS",
    "ORDERS_PAYMENT_TIMEOUT_MINS", "ORDERS_PAYMENT_SWEEP_SECS", "ORDERS_EVENT_BUFFER"]

/-- Text filled up with blanks to a width. -/
def padded (width : Nat) (s : String) : String := s.pushn ' ' (width - s.length)

/-- One variable with its value, in columns. -/
def variableLine (e : Environment) (name : String) : String :=
  "  " ++ padded 35 name ++ " " ++ padded 15 (e.shown name)

/-- All lines of the help text. -/
def lines (e : Environment) : List String :=
  [""] ++ about ++
    ["", "", "Current environment values (EXCLUDING variables that contain secrets):"] ++
    shownNames.map (variableLine e)

/-- The lines to print for some arguments, if there are any: then the program does nothing
else. -/
def answer? (arguments : List String) (e : Environment) : Option (List String) :=
  if arguments.isEmpty then none else some (lines e)

end Checkout.Help
