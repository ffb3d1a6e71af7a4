-- Doubles as decimal text: the fewest digits that read back, a fixed number
-- of places, and reading a decimal. Text is positional, never with an
-- exponent; reading takes one.
import Checkout.Number.Binary64
import Checkout.Text.Digits

namespace Checkout.Binary64

/-! ## The fewest digits that read back -/

/-- A decimal number: a coefficient times ten to an exponent. -/
structure Decimal where
  coefficient : Nat
  exponent : Int
deriving DecidableEq, Repr

/-- The reals that round to a positive double, as three whole numbers times two to a common
exponent: its lower end, the double itself and its upper end. -/
structure Neighbourhood where
  low : Nat
  middle : Nat
  high : Nat
  exponent : Int
  /-- The ends themselves round to the double. -/
  closed : Bool

/-- Half way to the doubles on both sides. Below a power of two the next double is nearer. -/
def Neighbourhood.of (mantissa : Nat) (exponent : Int) : Neighbourhood :=
  { low := if mantissa = Nat.pow 2 52 ∧ lowestExponent < exponent then 4 * mantissa - 1
           else 4 * mantissa - 2
    middle := 4 * mantissa
    high := 4 * mantissa + 2
    exponent := exponent - 2
    closed := mantissa % 2 == 0 }

/-- The place before the first digit of a positive ratio: the ratio is below ten to it. -/
def leadingPlace (num den : Nat) : Int :=
  if den ≤ num then (Text.digits (num / den)).length
  else 1 - ((Text.digits (den / num)).length : Int)

/-- The point nearest to the middle among the two beside it on the grid of ten to `place`, if
it lies in the neighbourhood. -/
def Neighbourhood.gridPoint? (r : Neighbourhood) (place : Int) : Option Decimal :=
  let scale := Nat.pow 2 r.exponent.toNat * Nat.pow 10 (-place).toNat
  let step := Nat.pow 2 (-r.exponent).toNat * Nat.pow 10 place.toNat
  let inside (c : Nat) : Bool :=
    if r.closed then r.low * scale ≤ c * step && c * step ≤ r.high * scale
    else r.low * scale < c * step && c * step < r.high * scale
  let below := r.middle * scale / step
  let left := r.middle * scale % step
  match inside below, inside (below + 1) with
  | true, true => some ⟨if 2 * left ≤ step then below else below + 1, place⟩
  | true, false => some ⟨below, place⟩
  | false, true => some ⟨below + 1, place⟩
  | false, false => none

/-- Tries grids from coarse to fine, so many at most. -/
def Neighbourhood.coarsest (r : Neighbourhood) : Nat → Int → Decimal
  | 0, place => ⟨r.middle, place⟩
  | tries + 1, place =>
    match r.gridPoint? place with
    | some d => d
    | none => r.coarsest tries (place - 1)

/-- A coefficient without the zeros at its end, so many at most. -/
def Decimal.normal (d : Decimal) : Nat → Decimal
  | 0 => d
  | tries + 1 =>
    if d.coefficient ≠ 0 ∧ d.coefficient % 10 = 0 then
      Decimal.normal ⟨d.coefficient / 10, d.exponent + 1⟩ tries
    else d

/-- The shortest decimal that reads back as a double; of those, the nearest to it. Seventeen
digits always suffice. -/
def shortest (mantissa : Nat) (exponent : Int) : Decimal :=
  if mantissa = 0 then ⟨0, 0⟩
  else
    let (num, den) := ratio mantissa exponent
    let first := leadingPlace num den - 1
    ((Neighbourhood.of mantissa exponent).coarsest 18 first).normal 18

/-- A decimal written out in full. -/
def Decimal.chars (d : Decimal) : List Char :=
  let ds := Text.digits d.coefficient
  if 0 ≤ d.exponent then
    if d.coefficient = 0 then ds else ds ++ List.replicate d.exponent.toNat '0'
  else
    let places := (-d.exponent).toNat
    let padded := List.replicate (places + 1 - ds.length) '0' ++ ds
    padded.take (padded.length - places) ++ '.' :: padded.drop (padded.length - places)

/-- A double as text, by the fewest digits that read back. -/
def text : Binary64 → String
  | .nan => "NaN"
  | .infinite false => "inf"
  | .infinite true => "-inf"
  | .finite s m e =>
    String.ofList ((if s then ['-'] else []) ++ (shortest m e).chars)

/-! ## A fixed number of places -/

/-- A double with exactly so many decimals; a half goes to the even neighbour. The sign of
zero is kept. -/
def fixedText (places : Nat) : Binary64 → String
  | .nan => "NaN"
  | .infinite false => "inf"
  | .infinite true => "-inf"
  | .finite s m e =>
    let (a, b) := ratio m e
    let d : Decimal := ⟨roundRatio (a * Nat.pow 10 places) b, -(places : Int)⟩
    String.ofList ((if s then ['-'] else []) ++ d.chars)

/-! ## Reading -/

/-- The double nearest to a run of digits with a decimal exponent. Exponents far out of range
are decided without the power. -/
def ofDigits (negative : Bool) (ds : List Char) (exponent : Int) : Binary64 :=
  let coefficient := Text.valueOf ds
  let size : Int := exponent + ds.length
  if coefficient = 0 then zero negative
  else if 400 < exponent then .infinite negative
  else if size < -400 then zero negative
  else ofDecimal negative coefficient exponent

/-- An exponent: a sign and at least one digit. -/
def exponentOfChars? (cs : List Char) : Option Int :=
  let (negative, ds) := match cs with
    | '-' :: ds => (true, ds)
    | '+' :: ds => (false, ds)
    | ds => (false, ds)
  if ds.isEmpty || !ds.all Char.isDigit then none
  else some (if negative then -(Text.valueOf ds : Int) else Text.valueOf ds)

/-- An unsigned decimal: digits with an optional point among or beside them, and an optional
exponent. -/
def unsignedOfChars? (negative : Bool) (cs : List Char) : Option Binary64 :=
  let whole := cs.takeWhile Char.isDigit
  let rest := cs.dropWhile Char.isDigit
  let (fraction, rest) := match rest with
    | '.' :: rest => (rest.takeWhile Char.isDigit, rest.dropWhile Char.isDigit)
    | rest => ([], rest)
  if whole.isEmpty && fraction.isEmpty then none
  else
    let value (power : Int) := ofDigits negative (whole ++ fraction) (power - fraction.length)
    match rest with
    | [] => some (value 0)
    | c :: cs => if c == 'e' || c == 'E' then (exponentOfChars? cs).map value else none

/-- Reads a double: an optional sign, then a decimal or one of the words for infinity and for
what is not a number, in any case. -/
def ofText? (s : String) : Option Binary64 :=
  let (negative, cs) := match s.toList with
    | '-' :: cs => (true, cs)
    | '+' :: cs => (false, cs)
    | cs => (false, cs)
  let word := String.ofList (cs.map Char.toLower)
  if word == "inf" || word == "infinity" then some (.infinite negative)
  else if word == "nan" then some .nan
  else unsignedOfChars? negative cs

end Checkout.Binary64
