-- Lengths of time, and their text in the largest unit that fits.
import Checkout.Text.Digits

namespace Checkout

/-- A length of time in nanoseconds. -/
structure Duration where
  nanoseconds : Nat
deriving DecidableEq, Repr

namespace Duration

def zero : Duration := ⟨0⟩
def ofMicroseconds (n : Nat) : Duration := ⟨1000 * n⟩
def ofMilliseconds (n : Nat) : Duration := ⟨1000000 * n⟩
def ofSeconds (n : Nat) : Duration := ⟨1000000000 * n⟩

def milliseconds (d : Duration) : Nat := d.nanoseconds / 1000000
def seconds (d : Duration) : Nat := d.nanoseconds / 1000000000

instance : Add Duration := ⟨fun a b => ⟨a.nanoseconds + b.nanoseconds⟩⟩
instance : LE Duration := ⟨fun a b => a.nanoseconds ≤ b.nanoseconds⟩
instance : LT Duration := ⟨fun a b => a.nanoseconds < b.nanoseconds⟩
instance (a b : Duration) : Decidable (a ≤ b) :=
  inferInstanceAs (Decidable (a.nanoseconds ≤ b.nanoseconds))
instance (a b : Duration) : Decidable (a < b) :=
  inferInstanceAs (Decidable (a.nanoseconds < b.nanoseconds))

/-- The decimals of a part below ten to `places`, without zeros at the end. -/
def decimals (part places : Nat) : List Char :=
  let ds := Text.digits part
  let padded := List.replicate (places - ds.length) '0' ++ ds
  (padded.reverse.dropWhile (· == '0')).reverse

/-- A number of units, ten to `places` nanoseconds each, with the decimals it needs. -/
def inUnit (n places : Nat) (unit : String) : String :=
  let part := n % Nat.pow 10 places
  Text.natText (n / Nat.pow 10 places) ++
    (if part = 0 then "" else "." ++ String.ofList (decimals part places)) ++ unit

/-- A length of time in seconds, milliseconds, microseconds or nanoseconds. -/
def text (d : Duration) : String :=
  let n := d.nanoseconds
  if Nat.pow 10 9 ≤ n then inUnit n 9 "s"
  else if Nat.pow 10 6 ≤ n then inUnit n 6 "ms"
  else if Nat.pow 10 3 ≤ n then inUnit n 3 "µs"
  else inUnit n 0 "ns"

end Duration

end Checkout
