-- The variables that a program is started with.
import Checkout.Text.Utf8

namespace Checkout

/-- Variables and their values as bytes. -/
structure Environment where
  entries : List (String × List Nat)
deriving Repr

namespace Environment

def ofTexts (vs : List (String × String)) : Environment :=
  ⟨vs.map fun (name, value) => (name, Text.Utf8.bytes value)⟩

def bytes? (e : Environment) (name : String) : Option (List Nat) :=
  (e.entries.find? (·.1 == name)).map (·.2)

/-- The value of a variable. One that is no text counts as not set. -/
def get? (e : Environment) (name : String) : Option String :=
  (e.bytes? name).bind Text.Utf8.ofBytes?

/-- A variable as it is shown to the operator. -/
def shown (e : Environment) (name : String) : String :=
  match e.bytes? name with
  | none => "Not set"
  | some bytes =>
    match Text.Utf8.ofBytes? bytes with
    | some value => value
    | none => "Invalid value: " ++ Text.Utf8.ofBytes bytes

end Environment

end Checkout
