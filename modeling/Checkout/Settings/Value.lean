-- Single settings as text. A value that is not there leaves the default;
-- one that cannot be read is an error that quotes it as it was given.
import Checkout.Money.Text
import Checkout.Number.Decimal

namespace Checkout.Settings

/-- A setting that cannot be read. -/
structure ValueFault where
  value : String
  reason : String
deriving DecidableEq, Repr

def ValueFault.message (f : ValueFault) : String :=
  "'" ++ f.value ++ "' is not a valid value. " ++ f.reason

/-- Reads a setting, without the blanks around it, or takes the default. -/
def readOr {α : Type} (read : String → Except String α) (value : Option String) (default : α) :
    Except ValueFault α :=
  match value with
  | none => .ok default
  | some v => (read (Text.trim v)).mapError fun reason => ⟨v, reason⟩

def readWhole (width : Width) (s : String) : Except String Int :=
  (width.read s.toList).mapError IntegerFault.message

/-- A number that has no sign. -/
def readCount (bits : Nat) (s : String) : Except String Nat :=
  (readWhole ⟨false, bits⟩ s).map Int.toNat

def readBool (s : String) : Except String Bool :=
  if s == "true" then .ok true
  else if s == "false" then .ok false
  else .error "provided string was not \x60true\x60 or \x60false\x60"

def readMoney (s : String) : Except String Money := (Money.ofText? s).mapError Money.ParseFault.message

def readDouble (s : String) : Except String Binary64 :=
  match Binary64.ofText? s with
  | some d => .ok d
  | none => .error "invalid float literal"

/-! ## Flags -/

/-- A letter in lower case, if it is one of the twenty-six plain ones. -/
def lowered (s : String) : String := String.ofList (s.toList.map Char.toLower)

/-- A flag that is written as one of several words, whatever its case. Any other text leaves
the default. -/
def flag (value : Option String) (default : Bool) : Bool :=
  match value with
  | none => default
  | some v =>
    let word := lowered (Text.trim v)
    if ["1", "true", "yes", "on"].contains word then true
    else if ["0", "false", "no", "off"].contains word then false
    else default

end Checkout.Settings
