-- Percent signs in addresses: a byte written as a percent sign and two
-- digits of base sixteen.
import Checkout.Text.Utf8

namespace Checkout.Text.Percent

/-- The number that a digit of base sixteen stands for. -/
def digit? (c : Char) : Option Nat :=
  if c.isDigit then some (c.toNat - 48)
  else if 'a' ≤ c ∧ c ≤ 'f' then some (c.toNat - 87)
  else if 'A' ≤ c ∧ c ≤ 'F' then some (c.toNat - 55)
  else none

/-- The byte that two digits stand for. -/
def byte? (a b : Char) : Option Nat := do return 16 * (← digit? a) + (← digit? b)

/-- The bytes of a text, with those read that stand behind percent signs, unless they are to be
kept as they are written. -/
def decodeBytes (kept : List Nat) : List Char → List Nat
  | '%' :: a :: b :: cs =>
    match byte? a b with
    | some n =>
      if kept.contains n then
        Utf8.bytesOf '%' ++ Utf8.bytesOf a ++ Utf8.bytesOf b ++ decodeBytes kept cs
      else n :: decodeBytes kept cs
    | none => Utf8.bytesOf '%' ++ decodeBytes kept (a :: b :: cs)
  | c :: cs => Utf8.bytesOf c ++ decodeBytes kept cs
  | [] => []

def decode (kept : List Nat) (s : String) : String := Utf8.ofBytes (decodeBytes kept s.toList)

/-- A digit of base sixteen, in upper case. -/
def upperHexChar (d : Nat) : Char := if d < 10 then digitChar d else Char.ofNat (55 + d)

/-- A character behind percent signs, if it is one that must be. -/
def encodeChar (must : Char → Bool) (c : Char) : List Char :=
  if must c then
    (Utf8.bytesOf c).flatMap fun b => ['%', upperHexChar (b / 16), upperHexChar (b % 16)]
  else [c]

end Checkout.Text.Percent
