-- Whole numbers of a fixed width: which numbers a width holds, and how one
-- is read from text. The first character at fault decides the error.
import Checkout.Text.Digits

namespace Checkout

/-- A signed or unsigned whole number of some bits. -/
structure Width where
  signed : Bool
  bits : Nat
deriving DecidableEq, Repr

namespace Width

def unsigned16 : Width := ⟨false, 16⟩
def unsigned32 : Width := ⟨false, 32⟩
def unsigned64 : Width := ⟨false, 64⟩
def signed64 : Width := ⟨true, 64⟩

/-- The largest number of the width. -/
def largest (w : Width) : Nat :=
  if w.signed then Nat.pow 2 (w.bits - 1) - 1 else Nat.pow 2 w.bits - 1

/-- How far below zero the width goes. -/
def depth (w : Width) : Nat := if w.signed then Nat.pow 2 (w.bits - 1) else 0

/-- The width holds the number. -/
def Holds (w : Width) (n : Int) : Prop := -(w.depth : Int) ≤ n ∧ n ≤ (w.largest : Int)

instance (w : Width) (n : Int) : Decidable (w.Holds n) := by unfold Holds; infer_instance

end Width

/-- A 64-bit signed whole number. -/
abbrev Fits (n : Int) : Prop := -9223372036854775808 ≤ n ∧ n ≤ 9223372036854775807

/-! ## Reading -/

/-- Why text is no whole number of a width. -/
inductive IntegerFault where
  | empty
  | invalidDigit
  | tooLarge
  | tooSmall
deriving DecidableEq, Repr

def IntegerFault.message : IntegerFault → String
  | .empty => "cannot parse integer from empty string"
  | .invalidDigit => "invalid digit found in string"
  | .tooLarge => "number too large to fit in target type"
  | .tooSmall => "number too small to fit in target type"

/-- Reads digits after those already read, up to a limit. A character that is no digit is
at fault at its place, and so is a digit that takes the number over the limit. -/
def readDigitsUpTo (limit : Nat) (beyond : IntegerFault) :
    List Char → Nat → Except IntegerFault Nat
  | [], n => .ok n
  | c :: cs, n =>
    if c.isDigit then
      let m := 10 * n + Text.digitValue c
      if m ≤ limit then readDigitsUpTo limit beyond cs m else .error beyond
    else .error .invalidDigit

/-- Reads a whole number: an optional plus sign, or a minus sign if the width is signed,
then digits only. -/
def Width.read (w : Width) (text : List Char) : Except IntegerFault Int :=
  match text with
  | [] => .error .empty
  | ['+'] => .error .invalidDigit
  | ['-'] => .error .invalidDigit
  | '+' :: cs => (readDigitsUpTo w.largest .tooLarge cs 0).map Int.ofNat
  | '-' :: cs =>
    if w.signed then (readDigitsUpTo w.depth .tooSmall cs 0).map (fun n => -(n : Int))
    else .error .invalidDigit
  | cs => (readDigitsUpTo w.largest .tooLarge cs 0).map Int.ofNat

end Checkout
