-- Settings as JSON, with times in the unit of their variables.
import Checkout.Gateway.Breaker.Json
import Checkout.Settings

namespace Checkout

/-- All settings. The key of the payment processor is there both as it is and as it is shown. -/
def Settings.toJson (s : Settings) : Json :=
  .object
    [("host", .string s.host), ("port", .integer s.portNumber), ("databaseUrl", .string s.databaseUrl),
      ("maxDbConnections", .integer s.maxDatabaseConnections),
      ("gatewayUrl", .string s.gateway.baseUrl), ("apiKey", .string s.gateway.apiKey.reveal),
      ("apiKeyShown", .string s.gateway.apiKey.shown),
      ("callTimeoutMs", .integer s.gateway.callTimeout.milliseconds),
      ("retryAttempts", .integer s.gateway.retry.maxAttempts),
      ("retryWaitMs", .integer s.gateway.retry.wait.milliseconds),
      ("window", .integer s.gateway.breaker.window),
      ("minCalls", .integer s.gateway.breaker.minimumCalls),
      ("failureRate", Gateway.Breaker.rateJson s.gateway.breaker.threshold),
      ("openSecs", .integer s.gateway.breaker.openWait.seconds),
      ("halfOpenCalls", .integer s.gateway.breaker.halfOpenCalls),
      ("paymentTimeoutSecs", .integer (s.paymentTimeoutMinutes * 60)),
      ("sweepSecs", .integer s.paymentSweepInterval.seconds),
      ("eventBuffer", .integer s.eventBuffer)]

end Checkout
