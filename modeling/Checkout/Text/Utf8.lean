-- Text as bytes: each character takes one to four of them. Bytes that are no
-- text are read with a mark in place of each broken run.
import Checkout.Text.Digits

namespace Checkout.Text.Utf8

/-- The bytes of a character. -/
def bytesOf (c : Char) : List Nat :=
  let n := c.toNat
  if n < 0x80 then [n]
  else if n < 0x800 then [0xc0 + n / 0x40, 0x80 + n % 0x40]
  else if n < 0x10000 then [0xe0 + n / 0x1000, 0x80 + n / 0x40 % 0x40, 0x80 + n % 0x40]
  else [0xf0 + n / 0x40000, 0x80 + n / 0x1000 % 0x40, 0x80 + n / 0x40 % 0x40, 0x80 + n % 0x40]

def bytes (s : String) : List Nat := s.toList.flatMap bytesOf

/-- What a first byte calls for: how many bytes follow, which range the next one lies in, and
the part of the character that it carries itself. -/
def lead? (b : Nat) : Option (Nat × Nat × Nat × Nat) :=
  if b < 0x80 then some (0, 0x80, 0xbf, b)
  else if b < 0xc2 then none
  else if b < 0xe0 then some (1, 0x80, 0xbf, b - 0xc0)
  else if b = 0xe0 then some (2, 0xa0, 0xbf, 0)
  else if b = 0xed then some (2, 0x80, 0x9f, 0xd)
  else if b < 0xf0 then some (2, 0x80, 0xbf, b - 0xe0)
  else if b = 0xf0 then some (3, 0x90, 0xbf, 0)
  else if b < 0xf4 then some (3, 0x80, 0xbf, b - 0xf0)
  else if b = 0xf4 then some (3, 0x80, 0x8f, 4)
  else none

/-- A character begun and not ended: how many bytes are still to come, the range of the next
one, and the value so far. -/
structure Begun where
  more : Nat
  low : Nat
  high : Nat
  value : Nat

/-- Stands for bytes that are no text. -/
def broken : Option Char := none

/-- Characters from bytes, with `none` for each broken run. -/
def decode : Option Begun → List Nat → List (Option Char)
  | none, [] => []
  | some _, [] => [broken]
  | none, b :: bs =>
    match lead? b with
    | none => broken :: decode none bs
    | some (0, _, _, value) => some (Char.ofNat value) :: decode none bs
    | some (more, low, high, value) => decode (some ⟨more, low, high, value⟩) bs
  | some c, b :: bs =>
    if c.low ≤ b ∧ b ≤ c.high then
      let value := 0x40 * c.value + (b - 0x80)
      if c.more ≤ 1 then some (Char.ofNat value) :: decode none bs
      else decode (some ⟨c.more - 1, 0x80, 0xbf, value⟩) bs
    else
      match lead? b with
      | none => broken :: broken :: decode none bs
      | some (0, _, _, value) => broken :: some (Char.ofNat value) :: decode none bs
      | some (more, low, high, value) => broken :: decode (some ⟨more, low, high, value⟩) bs

/-- Text from bytes, if all of them are text. -/
def ofBytes? (bs : List Nat) : Option String :=
  ((decode none bs).mapM id).map String.ofList

/-- Text from bytes, with a replacement character for each broken run. -/
def ofBytes (bs : List Nat) : String :=
  String.ofList ((decode none bs).map fun c => c.getD '\ufffd')

end Checkout.Text.Utf8
