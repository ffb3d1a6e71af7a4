-- Money as a whole number of cents in 64 bits. Sums and products are exact:
-- one that leaves the 64 bits is `none` in the checked operations, and a
-- named overflow in the others. No operation wraps.
import Checkout.Number.Width

namespace Checkout

/-- An amount of money in cents, positive or negative. -/
structure Money where
  cents : Int
  fits : Fits cents
deriving DecidableEq, Repr

/-- The operation of an unchecked calculation that left the 64 bits. -/
inductive Overflow where
  | add
  | subtract
  | negate
  | multiply
deriving DecidableEq, Repr

def Overflow.message : Overflow → String
  | .add => "attempt to add with overflow"
  | .subtract => "attempt to subtract with overflow"
  | .negate => "attempt to negate with overflow"
  | .multiply => "attempt to multiply with overflow"

namespace Money

@[ext] theorem ext {a b : Money} (h : a.cents = b.cents) : a = b := by
  cases a; cases b; cases h; rfl

def zero : Money := ⟨0, by decide⟩

instance : Inhabited Money := ⟨zero⟩

/-- The amount of so many cents, if 64 bits hold it. -/
def ofCents? (n : Int) : Option Money := if h : Fits n then some ⟨n, h⟩ else none

theorem ofCents?_eq_some_iff {n : Int} {m : Money} : ofCents? n = some m ↔ m.cents = n := by
  unfold ofCents?
  constructor
  · intro h
    split at h
    · cases h; rfl
    · cases h
  · intro h
    subst h
    exact dif_pos m.fits

/-- The amount nearest to so many cents that 64 bits hold. -/
def saturated (n : Int) : Money :=
  if h : Fits n then ⟨n, h⟩
  else if n < 0 then ⟨-9223372036854775808, by decide⟩ else ⟨9223372036854775807, by decide⟩

/-- A whole number of currency units. -/
def ofUnits? (units : Int) : Option Money := ofCents? (units * 100)

def isZero (m : Money) : Bool := m.cents == 0
def isNegative (m : Money) : Bool := m.cents < 0
def isPositive (m : Money) : Bool := 0 < m.cents

instance : LE Money := ⟨fun a b => a.cents ≤ b.cents⟩
instance : LT Money := ⟨fun a b => a.cents < b.cents⟩
instance (a b : Money) : Decidable (a ≤ b) := inferInstanceAs (Decidable (a.cents ≤ b.cents))
instance (a b : Money) : Decidable (a < b) := inferInstanceAs (Decidable (a.cents < b.cents))

/-! ## Checked operations -/

def checkedAdd (a b : Money) : Option Money := ofCents? (a.cents + b.cents)
def checkedSub (a b : Money) : Option Money := ofCents? (a.cents - b.cents)
def checkedMul (a : Money) (factor : Int) : Option Money := ofCents? (a.cents * factor)

/-! ## Operations that must not overflow -/

def orOverflow (op : Overflow) : Option Money → Except Overflow Money
  | some m => .ok m
  | none => .error op

def add (a b : Money) : Except Overflow Money := orOverflow .add (checkedAdd a b)
def sub (a b : Money) : Except Overflow Money := orOverflow .subtract (checkedSub a b)
def neg (a : Money) : Except Overflow Money := orOverflow .negate (ofCents? (-a.cents))
def ofUnits (units : Int) : Except Overflow Money := orOverflow .multiply (ofUnits? units)

/-- The sum of a list, from the left. -/
def sum (ms : List Money) : Except Overflow Money := ms.foldlM add zero

/-! ## Percentages -/

/-- A number of hundredths as whole ones, halves away from zero. -/
def roundHundredths (n : Int) : Int :=
  let whole : Int := ((n.natAbs + 50) / 100 : Nat)
  if n < 0 then -whole else whole

/-- A percentage of an amount, rounded to the cent with halves away from zero, and held
within what 64 bits can say. -/
def percentage (m : Money) (percent : Int) : Money :=
  saturated (roundHundredths (m.cents * percent))

/-- The amount held between two others. -/
def clamp (m low high : Money) : Money := if m < low then low else if high < m then high else m

end Money

end Checkout
