-- Choices that are written as fixed words. Reading takes exactly the words
-- that writing gives.

namespace Checkout

/-- A choice among a few values, each with a word of its own. -/
class Enumeration (α : Type) where
  /-- What the choice is called in an error. -/
  kind : String
  all : List α
  word : α → String

/-- Text that is no word of a choice. -/
structure ConversionFault where
  kind : String
  value : String
deriving DecidableEq, Repr

def ConversionFault.message (f : ConversionFault) : String := "Invalid " ++ f.kind ++ ": " ++ f.value

namespace Enumeration

variable {α : Type} [Enumeration α]

def ofWord? (s : String) : Option α := (all : List α).find? fun a => word a == s

/-- Reads a word, or says which choice it is no word of. -/
def ofWord (s : String) : Except ConversionFault α :=
  match ofWord? s with
  | some a => .ok a
  | none => .error ⟨kind α, s⟩

end Enumeration

end Checkout
