-- Reading JSON text. Every rule takes the characters and gives back what it
-- read and the characters after it.
import Checkout.Json

namespace Checkout.Json

/-- The four characters that JSON counts as blank. -/
def isSpace (c : Char) : Bool := c == ' ' || c == '\t' || c == '\n' || c == '\r'

def skipSpace (cs : List Char) : List Char := cs.dropWhile isSpace

/-! ## Text -/

def hexValue? (c : Char) : Option Nat :=
  if c.isDigit then some (c.toNat - 48)
  else if 'a' ≤ c ∧ c ≤ 'f' then some (c.toNat - 87)
  else if 'A' ≤ c ∧ c ≤ 'F' then some (c.toNat - 55)
  else none

/-- The number that four digits of base sixteen stand for. -/
def hexFour? (a b c d : Char) : Option Nat := do
  return 4096 * (← hexValue? a) + 256 * (← hexValue? b) + 16 * (← hexValue? c) + (← hexValue? d)

/-- The character that one letter after a backslash stands for. -/
def shortEscape? (c : Char) : Option Char :=
  if c = '"' then some '"'
  else if c = '\\' then some '\\'
  else if c = '/' then some '/'
  else if c = 'b' then some '\x08'
  else if c = 'f' then some '\x0c'
  else if c = 'n' then some '\n'
  else if c = 'r' then some '\r'
  else if c = 't' then some '\t'
  else none

def isHighSurrogate (n : Nat) : Bool := 0xd800 ≤ n && n < 0xdc00
def isLowSurrogate (n : Nat) : Bool := 0xdc00 ≤ n && n < 0xe000

/-- The character that a surrogate pair stands for. -/
def pairedChar (high low : Nat) : Char :=
  Char.ofNat (0x10000 + 0x400 * (high - 0xd800) + (low - 0xdc00))

/-- What is read so far, unless the first half of a pair waits for its second. -/
def unlessHalf (half : Option Nat) (read : Option (List Char)) : Option (List Char) :=
  if half.isSome then none else read

/-- The rest of a quoted text up to its closing quote, after the first half of a surrogate pair
and what is already read. Half of a pair alone spoils the text, which is then `none`, but not
the reading. -/
def quotedRest :
    List Char → Option Nat → Option (List Char) → Option (Option String × List Char)
  | [], _, _ => none
  | '"' :: rest, half, read =>
    some ((unlessHalf half read).map fun cs => String.ofList cs.reverse, rest)
  | '\\' :: 'u' :: a :: b :: c :: d :: rest, half, read => do
    let n ← hexFour? a b c d
    if isHighSurrogate n then quotedRest rest (some n) (unlessHalf half read)
    else if isLowSurrogate n then
      match half with
      | some m => quotedRest rest none (read.map (pairedChar m n :: ·))
      | none => quotedRest rest none none
    else quotedRest rest none ((unlessHalf half read).map (Char.ofNat n :: ·))
  | '\\' :: c :: rest, half, read => do
    let e ← shortEscape? c
    quotedRest rest none ((unlessHalf half read).map (e :: ·))
  | c :: rest, half, read =>
    if c.toNat < 32 || c == '\\' then none
    else quotedRest rest none ((unlessHalf half read).map (c :: ·))

/-- Text after its opening quote. -/
def quoted? (cs : List Char) : Option (Option String × List Char) := quotedRest cs none (some [])

/-! ## Numbers -/

/-- A number taken apart: its digits before and after the point, and its exponent. -/
structure Numeral where
  negative : Bool
  whole : List Char
  fraction : Option (List Char)
  exponent : Option Int

/-- The exponent after its letter: a sign and at least one digit. -/
def exponentPart? (cs : List Char) : Option (Int × List Char) :=
  let (negative, cs) := match cs with
    | '-' :: cs => (true, cs)
    | '+' :: cs => (false, cs)
    | cs => (false, cs)
  let ds := cs.takeWhile Char.isDigit
  if ds.isEmpty then none
  else
    let n : Int := Text.valueOf ds
    some (if negative then -n else n, cs.dropWhile Char.isDigit)

/-- Takes a number off the front: no leading zeros, and digits on both sides of a point. -/
def numeral? (cs : List Char) : Option (Numeral × List Char) := do
  let (negative, cs) := match cs with
    | '-' :: cs => (true, cs)
    | cs => (false, cs)
  let whole := cs.takeWhile Char.isDigit
  let cs := cs.dropWhile Char.isDigit
  if whole.isEmpty || (whole.head? == some '0' && whole.length != 1) then none
  let (fraction, cs) ← match cs with
    | '.' :: cs =>
      let ds := cs.takeWhile Char.isDigit
      if ds.isEmpty then none else some (some ds, cs.dropWhile Char.isDigit)
    | cs => some (none, cs)
  let (exponent, cs) ← match cs with
    | 'e' :: cs => (exponentPart? cs).map fun (n, cs) => (some n, cs)
    | 'E' :: cs => (exponentPart? cs).map fun (n, cs) => (some n, cs)
    | cs => some (none, cs)
  return (⟨negative, whole, fraction, exponent⟩, cs)

/-- The largest unsigned number of 64 bits. -/
def largestSignificand : Nat := 18446744073709551615

/-- Digits taken into a significand while 64 bits hold it. Gives the significand and how many
digits are left over. -/
def significandOf : List Char → Nat → Nat × Nat
  | [], n => (n, 0)
  | c :: cs, n =>
    let m := 10 * n + Text.digitValue c
    if m ≤ largestSignificand then significandOf cs m else (n, cs.length + 1)

/-- A significand scaled by a power of ten, one rounded step of at most 308 places at a time.
It is `none` beyond every double. -/
def scaled? (x : Binary64) (exponent : Int) : Nat → Option Binary64
  | 0 => some x
  | steps + 1 =>
    if x.isZero then some x
    else if 308 < exponent then none
    else if 0 ≤ exponent then
      let y := x.mul (Binary64.ofDecimal false 1 exponent)
      if y.isFinite then some y else none
    else if -308 ≤ exponent then some (x.div (Binary64.ofDecimal false 1 (-exponent)))
    else scaled? (x.div (Binary64.ofDecimal false 1 308)) (exponent + 308) steps

/-- The double that a numeral stands for: its digits as far as 64 bits hold them, rounded, then
scaled. Digits past those only count as places. -/
def Numeral.double? (n : Numeral) : Option Binary64 :=
  let (significand, spareWhole) := significandOf n.whole 0
  let fraction := n.fraction.getD []
  let (significand, spareFraction) := significandOf fraction significand
  let places : Int := spareWhole - (fraction.length - spareFraction : Nat)
  let scaled := scaled? (Binary64.ofNat significand) (places + n.exponent.getD 0) 5
  if n.negative then scaled.map Binary64.neg else scaled

/-- The value of a numeral. One without point and exponent is whole if 64 bits hold it; a
negative zero is a double. -/
def Numeral.value (n : Numeral) : Json :=
  let size := Text.valueOf n.whole
  if n.fraction.isNone && n.exponent.isNone && !n.negative && size ≤ largestSignificand then
    .integer size
  else if n.fraction.isNone && n.exponent.isNone && n.negative && size != 0 &&
      size ≤ 9223372036854775808 then
    .integer (-(size : Int))
  else
    match n.double? with
    | some d => .double d
    | none => .invalid

/-! ## Values -/

/-- An object of the members read, unless a name among them is spoiled. -/
def ofMembers (ms : List (Option String × Json)) : Json :=
  if ms.all (·.1.isSome) then .object (ms.map fun (k, j) => (k.getD "", j)) else .invalid

mutual
/-- A value with blanks before it. -/
def value? : Nat → List Char → Option (Json × List Char)
  | 0, _ => none
  | fuel + 1, cs =>
    match skipSpace cs with
    | 'n' :: 'u' :: 'l' :: 'l' :: rest => some (.null, rest)
    | 't' :: 'r' :: 'u' :: 'e' :: rest => some (.bool true, rest)
    | 'f' :: 'a' :: 'l' :: 's' :: 'e' :: rest => some (.bool false, rest)
    | '"' :: rest => do
      let (s, rest) ← quoted? rest
      return (match s with | some s => .string s | none => .invalid, rest)
    | '[' :: rest =>
      match skipSpace rest with
      | ']' :: rest => some (.array [], rest)
      | rest => do
        let (js, rest) ← items? fuel rest
        return (.array js, rest)
    | '\x7b' :: rest =>
      match skipSpace rest with
      | '\x7d' :: rest => some (.object [], rest)
      | rest => do
        let (ms, rest) ← members? fuel rest
        return (ofMembers ms, rest)
    | rest => do
      let (n, rest) ← numeral? rest
      return (n.value, rest)

/-- At least one item, and the closing bracket. -/
def items? : Nat → List Char → Option (List Json × List Char)
  | 0, _ => none
  | fuel + 1, cs => do
    let (j, rest) ← value? fuel cs
    match skipSpace rest with
    | ']' :: rest => return ([j], rest)
    | ',' :: rest =>
      let (js, rest) ← items? fuel rest
      return (j :: js, rest)
    | _ => none

/-- At least one member, and the closing brace. -/
def members? : Nat → List Char → Option (List (Option String × Json) × List Char)
  | 0, _ => none
  | fuel + 1, cs =>
    match skipSpace cs with
    | '"' :: rest => do
      let (k, rest) ← quoted? rest
      match skipSpace rest with
      | ':' :: rest =>
        let (j, rest) ← value? fuel rest
        match skipSpace rest with
        | '\x7d' :: rest => return ([(k, j)], rest)
        | ',' :: rest =>
          let (ms, rest) ← members? fuel rest
          return ((k, j) :: ms, rest)
        | _ => none
      | _ => none
    | _ => none
end

/-- A value at the front of a text, and the characters after it. -/
def ofChars? (cs : List Char) : Option (Json × List Char) := value? (2 * cs.length + 2) cs

/-- Reads a text that is one value and blanks around it. -/
def ofText? (s : String) : Option Json := do
  let (j, rest) ← ofChars? s.toList
  if (skipSpace rest).isEmpty then some j else none

end Checkout.Json
