-- The command line.
import Checkout.Startup

namespace Checkout.CommandLine

/-- The variables that are read. -/
def variableNames : List String :=
  Help.shownNames ++ ["ORDERS_GATEWAY_API_KEY"]

/-- Reads the variables that are set. -/
def readEnvironment : IO Environment := do
  let mut entries := []
  for name in variableNames do
    if let some value ← IO.getEnv name then
      entries := entries ++ [(name, value)]
  return .ofTexts entries

end Checkout.CommandLine

def main (arguments : List String) : IO UInt32 := do
  match Checkout.Startup.run arguments (← Checkout.CommandLine.readEnvironment) with
  | .ok printed =>
    for line in printed.output do IO.println line
    for line in printed.errors do IO.eprintln line
    return 0
  | .error fault =>
    IO.eprintln fault.message
    return 101
