-- Double-precision numbers as exact values: a whole number of 53 bits times
-- a power of two. Every operation rounds the exact result to the nearest
-- double, ties to the even one, so nothing here depends on a machine.
namespace Checkout

/-- A double-precision number. A finite one is its mantissa times two to its exponent; the
mantissa has 53 bits, or fewer at the lowest exponent. -/
inductive Binary64 where
  | nan
  | infinite (negative : Bool)
  | finite (negative : Bool) (mantissa : Nat) (exponent : Int)
deriving DecidableEq, Repr

namespace Binary64

/-- The exponent of the smallest positive double. -/
def lowestExponent : Int := -1074

/-- The exponent of the largest double. -/
def highestExponent : Int := 971

def zero (negative : Bool) : Binary64 := .finite negative 0 lowestExponent

def isFinite : Binary64 → Bool
  | .finite .. => true
  | _ => false

def isZero : Binary64 → Bool
  | .finite _ m _ => m == 0
  | _ => false

/-! ## Ratios of whole numbers -/

/-- A ratio `num / den` divided by two to a power, as another ratio. -/
def scaleDown (num den : Nat) (power : Int) : Nat × Nat :=
  if 0 ≤ power then (num, den * Nat.pow 2 power.toNat) else (num * Nat.pow 2 (-power).toNat, den)

/-- A ratio rounded to a whole number, ties to the even one. -/
def roundRatio (num den : Nat) : Nat :=
  let q := num / den
  let r := num % den
  if den < 2 * r ∨ (2 * r = den ∧ q % 2 = 1) then q + 1 else q

/-- The exponent at which a positive ratio has a mantissa of 53 bits, or the lowest one. -/
def exponentOf (num den : Nat) : Int :=
  let guess : Int := (num.log2 : Int) - (den.log2 : Int) - 53
  let (n, d) := scaleDown num den guess
  max lowestExponent (if Nat.pow 2 53 * d ≤ n then guess + 1 else guess)

/-- The double nearest to a ratio with a sign. One too large for any double is infinite. -/
def ofRatio (negative : Bool) (num den : Nat) : Binary64 :=
  if num = 0 then zero negative
  else
    let e := exponentOf num den
    let (n, d) := scaleDown num den e
    let m := roundRatio n d
    let (m, e) := if m = Nat.pow 2 53 then (Nat.pow 2 52, e + 1) else (m, e)
    if highestExponent < e then .infinite negative else .finite negative m e

def ofNat (n : Nat) : Binary64 := ofRatio false n 1

def ofInt (n : Int) : Binary64 := ofRatio (n < 0) n.natAbs 1

/-- The double nearest to a number with a decimal exponent. -/
def ofDecimal (negative : Bool) (coefficient : Nat) (exponent : Int) : Binary64 :=
  if 0 ≤ exponent then ofRatio negative (coefficient * Nat.pow 10 exponent.toNat) 1
  else ofRatio negative coefficient (Nat.pow 10 (-exponent).toNat)

/-- A finite double's size as a ratio. -/
def ratio (mantissa : Nat) (exponent : Int) : Nat × Nat :=
  if 0 ≤ exponent then (mantissa * Nat.pow 2 exponent.toNat, 1)
  else (mantissa, Nat.pow 2 (-exponent).toNat)

/-! ## Arithmetic -/

def neg : Binary64 → Binary64
  | .nan => .nan
  | .infinite s => .infinite (!s)
  | .finite s m e => .finite (!s) m e

def mul : Binary64 → Binary64 → Binary64
  | .finite s m e, .finite t n f =>
    let (a, b) := ratio m e
    let (c, d) := ratio n f
    ofRatio (s != t) (a * c) (b * d)
  | .infinite s, .infinite t => .infinite (s != t)
  | .infinite s, .finite t n _ => if n = 0 then .nan else .infinite (s != t)
  | .finite s m _, .infinite t => if m = 0 then .nan else .infinite (s != t)
  | .nan, _ => .nan
  | _, .nan => .nan

def div : Binary64 → Binary64 → Binary64
  | .finite s m e, .finite t n f =>
    if n = 0 then (if m = 0 then .nan else .infinite (s != t))
    else
      let (a, b) := ratio m e
      let (c, d) := ratio n f
      ofRatio (s != t) (a * d) (b * c)
  | .infinite _, .infinite _ => .nan
  | .infinite s, .finite t _ _ => .infinite (s != t)
  | .finite s _ _, .infinite t => zero (s != t)
  | .nan, _ => .nan
  | _, .nan => .nan

/-- A finite double as an exact fraction of a signed whole number. -/
def signedRatio (negative : Bool) (mantissa : Nat) (exponent : Int) : Int × Nat :=
  let (a, b) := ratio mantissa exponent
  (if negative then -(a : Int) else a, b)

/-- One double is at most another. Nothing compares with a value that is not a number. -/
def le : Binary64 → Binary64 → Bool
  | .nan, _ => false
  | _, .nan => false
  | .infinite true, _ => true
  | _, .infinite false => true
  | .infinite false, _ => false
  | _, .infinite true => false
  | .finite s m e, .finite t n f =>
    let (a, b) := signedRatio s m e
    let (c, d) := signedRatio t n f
    a * (d : Int) ≤ c * (b : Int)

/-! ## Whole numbers -/

/-- A finite double rounded to a whole number, halves away from zero. -/
def roundedWhole (negative : Bool) (mantissa : Nat) (exponent : Int) : Int :=
  let (a, b) := ratio mantissa exponent
  let whole : Int := ((2 * a + b) / (2 * b) : Nat)
  if negative then -whole else whole

end Binary64

end Checkout
