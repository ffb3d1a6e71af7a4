-- Breakers by name. The first to ask for a name decides how its breaker is
-- set up; all others share it.
import Checkout.Gateway.Breaker

namespace Checkout.Gateway.Breaker

/-- Breakers in the order in which their names were first asked for. -/
structure Registry where
  breakers : List Breaker
deriving DecidableEq, Repr

namespace Registry

def empty : Registry := ⟨[]⟩

/-- The place of the breaker of a name, and the registry with it. -/
def obtain (r : Registry) (name : String) (config : Config) : Nat × Registry :=
  match r.breakers.findIdx? (·.name == name) with
  | some place => (place, r)
  | none => (r.breakers.length, ⟨r.breakers ++ [.new name config]⟩)

/-- The registry after a change of the breaker at a place. -/
def modify (r : Registry) (place : Nat) (change : Breaker → Breaker) : Registry :=
  ⟨r.breakers.modify place change⟩

end Registry

end Checkout.Gateway.Breaker
