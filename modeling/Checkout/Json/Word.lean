-- Choices and optional values as JSON.
import Checkout.Enumeration
import Checkout.Json.Record

namespace Checkout.Json

/-- A choice, written as its word. -/
def word {α : Type} [Enumeration α] (a : α) : Json := .string (Enumeration.word a)

def word? {α : Type} [Enumeration α] (j : Json) : Option α := j.choice?.bind Enumeration.ofWord?

def optionString (s : Option String) : Json := ofOption .string s

def optionInt (n : Option Int) : Json := ofOption .integer n

end Checkout.Json
