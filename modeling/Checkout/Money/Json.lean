-- Money as JSON: written as text, read from text, from a whole number of
-- units, or from a number with decimals, which is rounded to the cent.
import Checkout.Money.Text
import Checkout.Json.Record

namespace Checkout.Money

def toJson (m : Money) : Json := .string m.text

/-- Why a JSON text is no amount of money. -/
inductive DecodeFault where
  /-- The text is no JSON value. -/
  | notJson
  /-- The value is neither text nor a number. -/
  | wrongKind
  | unreadable (fault : ParseFault)
  | outOfRange (number : String)
  | notFinite (number : String)
deriving DecidableEq, Repr

def DecodeFault.message? : DecodeFault → Option String
  | .notJson => none
  | .wrongKind => some "data did not match any variant of untagged enum MoneyRepr"
  | .unreadable fault => some fault.message
  | .outOfRange number => some (number ++ " is out of range")
  | .notFinite number => some (number ++ " is not a valid amount")

/-- A whole number of units. -/
def ofWhole (units : Int) : Except DecodeFault Money :=
  match ofUnits? units with
  | some m => .ok m
  | none => .error (.outOfRange (Text.intText units))

/-- A number of units with decimals: the cents are rounded, halves away from zero. -/
def ofDouble (d : Binary64) : Except DecodeFault Money :=
  if !d.isFinite then .error (.notFinite d.text)
  else
    match d.mul (Binary64.ofNat 100) with
    | .finite s m e =>
      match ofCents? (Binary64.roundedWhole s m e) with
      | some money => .ok money
      | none => .error (.outOfRange d.text)
    | _ => .error (.outOfRange d.text)

/-- Reads an amount from a value. A whole number too large for 64 signed bits counts as one
with decimals. -/
def ofJson (j : Json) : Except DecodeFault Money :=
  match j with
  | .string s => (ofText? s).mapError .unreadable
  | .integer n => if Fits n then ofWhole n else ofDouble (Binary64.ofInt n)
  | .double d => ofDouble d
  | j => .error (if j.sound Json.deepest then .wrongKind else .notJson)

def ofJson? (j : Json) : Option Money := (ofJson j).toOption

/-- Reads an amount from JSON text. A fault of the value counts before one of the text after
it. -/
def ofJsonText (s : String) : Except DecodeFault Money :=
  match Json.ofChars? s.toList with
  | none => .error .notJson
  | some (j, rest) => do
    let m ← ofJson j
    if (Json.skipSpace rest).isEmpty then return m else .error .notJson

end Checkout.Money
