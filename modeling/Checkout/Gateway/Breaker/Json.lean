-- Breakers as JSON: how one is set up, and how it stands.
import Checkout.Gateway.Breaker
import Checkout.Json

namespace Checkout.Gateway.Breaker

/-- A percentage with four decimals. -/
def rateJson (d : Binary64) : Json := .string (d.fixedText 4)

def configJson (b : Breaker) : Json :=
  .object
    [("name", .string b.name), ("window", .integer b.config.window),
      ("minCalls", .integer b.config.minimumCalls), ("halfOpen", .integer b.config.halfOpenCalls),
      ("threshold", rateJson b.config.threshold), ("openSecs", .integer b.config.openWait.seconds)]

/-- The state and the rate of failures, as members of an object. -/
def stateMembers (b : Breaker) : List (String × Json) :=
  [("state", .string b.state.word), ("failureRate", Json.ofOption rateJson b.failureRate)]

end Checkout.Gateway.Breaker
