-- Money as text. Writing always has two decimals; reading takes any number
-- of them and rounds the third one half up, away from zero.
import Checkout.Money
import Checkout.Text.Blank

namespace Checkout.Money

/-- An amount as text: sign, whole units, a point and two decimals. -/
def chars (m : Money) : List Char :=
  let size := m.cents.natAbs
  (if m.cents < 0 then ['-'] else []) ++ Text.digits (size / 100) ++
    '.' :: Text.twoDigits (size % 100)

def text (m : Money) : String := String.ofList m.chars

instance : ToString Money := ⟨text⟩

/-! ## Reading -/

/-- Why text is no amount of money. The text is quoted without the blanks around it. -/
inductive ParseFault where
  | malformed (text : String)
  | wholeTooLarge (text : String)
  | outOfRange (text : String)
deriving DecidableEq, Repr

def ParseFault.reason : ParseFault → String
  | .malformed text => text
  | .wholeTooLarge text => text ++ ": " ++ IntegerFault.tooLarge.message
  | .outOfRange text => text ++ " is out of range"

def ParseFault.message (fault : ParseFault) : String :=
  "Value cannot be represented as money: " ++ fault.reason

/-- The parts of an amount as it is written. -/
structure Parts where
  negative : Bool
  whole : List Char
  fraction : List Char

/-- Takes a sign and the first point off an amount. -/
def Parts.ofChars (cs : List Char) : Parts :=
  let (negative, rest) := match cs with
    | '-' :: rest => (true, rest)
    | '+' :: rest => (false, rest)
    | rest => (false, rest)
  { negative
    whole := rest.takeWhile (· != '.')
    fraction := (rest.dropWhile (· != '.')).drop 1 }

/-- Some digits before the point, and nothing but digits on both sides. -/
def Parts.wellFormed (p : Parts) : Bool :=
  !p.whole.isEmpty && p.whole.all Char.isDigit && p.fraction.all Char.isDigit

/-- The cents that a fraction stands for, its third digit rounded half up. -/
def centsOfFraction (ds : List Char) : Nat :=
  let digitAt (i : Nat) : Nat := (ds[i]?.map Text.digitValue).getD 0
  10 * digitAt 0 + digitAt 1 + (if 5 ≤ digitAt 2 then 1 else 0)

/-- Reads an amount: blanks around it, a sign, digits, and a point with more digits. -/
def ofText? (s : String) : Except ParseFault Money :=
  let cs := Text.trimmed s.toList
  let shown := String.ofList cs
  let p := Parts.ofChars cs
  if !p.wellFormed then .error (.malformed shown)
  else if 9223372036854775807 < Text.valueOf p.whole then .error (.wholeTooLarge shown)
  else
    let size : Int := ↑(100 * Text.valueOf p.whole + centsOfFraction p.fraction)
    if h : size ≤ 9223372036854775807 then
      .ok ⟨if p.negative then -size else size, by
        have : (0 : Int) ≤ size := Int.natCast_nonneg _
        constructor <;> split <;> omega⟩
    else .error (.outOfRange shown)

end Checkout.Money
