-- Decimal digits: numbers as text, and digit runs as numbers. Writing a
-- number and reading its digits gives the number back.

namespace Checkout.Text

/-! ## One digit -/

/-- The digit that stands for a number below ten. -/
def digitChar (d : Nat) : Char := Char.ofNat (48 + d)

/-- The number that a digit stands for. -/
def digitValue (c : Char) : Nat := c.toNat - 48

theorem digitValue_digitChar : ∀ d < 10, digitValue (digitChar d) = d := by decide

theorem isDigit_digitChar : ∀ d < 10, (digitChar d).isDigit = true := by decide

/-! ## Runs of digits -/

/-- The number that a run of digits stands for, leading zeros and all. -/
def valueOf (ds : List Char) : Nat := ds.foldl (fun n c => 10 * n + digitValue c) 0

/-- The digits of a number, with no leading zero. -/
def digits (n : Nat) : List Char :=
  if n < 10 then [digitChar n] else digits (n / 10) ++ [digitChar (n % 10)]

theorem valueOf_append_singleton (ds : List Char) (c : Char) :
    valueOf (ds ++ [c]) = 10 * valueOf ds + digitValue c := by
  simp [valueOf, List.foldl_append]

theorem valueOf_digits (n : Nat) : valueOf (digits n) = n := by
  induction n using Nat.strongRecOn with
  | ind n ih =>
    unfold digits
    split
    · rename_i h
      simp [valueOf, digitValue_digitChar n h]
    · rename_i h
      rw [valueOf_append_singleton, ih (n / 10) (by omega),
        digitValue_digitChar (n % 10) (by omega)]
      omega

theorem all_isDigit_digits (n : Nat) : (digits n).all Char.isDigit = true := by
  induction n using Nat.strongRecOn with
  | ind n ih =>
    unfold digits
    split
    · rename_i h
      simp [isDigit_digitChar n h]
    · rename_i h
      rw [List.all_append, ih (n / 10) (by omega)]
      simp [isDigit_digitChar (n % 10) (by omega)]

theorem digits_ne_nil (n : Nat) : digits n ≠ [] := by
  unfold digits
  split <;> simp

/-! ## Numbers as text -/

/-- A whole number as text: a minus sign if it is negative, then its digits. -/
def intChars (n : Int) : List Char :=
  if n < 0 then '-' :: digits n.natAbs else digits n.natAbs

def natText (n : Nat) : String := String.ofList (digits n)

def intText (n : Int) : String := String.ofList (intChars n)

/-- A number below a hundred as exactly two digits. -/
def twoDigits (n : Nat) : List Char := [digitChar (n / 10), digitChar (n % 10)]

/-! ## Base sixteen -/

/-- A digit of base sixteen, in lower case. -/
def hexChar (d : Nat) : Char := if d < 10 then digitChar d else Char.ofNat (87 + d)

/-- A number in base sixteen. -/
def hexDigits (n : Nat) : List Char :=
  if n < 16 then [hexChar n] else hexDigits (n / 16) ++ [hexChar (n % 16)]

end Checkout.Text
