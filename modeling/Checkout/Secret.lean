-- Values that must not show.

namespace Checkout

/-- Text that is shown as stars. Only `reveal` gives it away. -/
structure Secret where
  reveal : String
deriving DecidableEq

namespace Secret

def shown (_ : Secret) : String := "****"

def isEmpty (s : Secret) : Bool := s.reveal.isEmpty

end Secret

end Checkout
