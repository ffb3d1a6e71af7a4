-- White space as Unicode defines it, and text without it at either end.

namespace Checkout.Text

/-- The characters that Unicode counts as white space. -/
def isBlank (c : Char) : Bool :=
  let n := c.toNat
  (0x09 ≤ n && n ≤ 0x0d) || n == 0x20 || n == 0x85 || n == 0xa0 || n == 0x1680 ||
    (0x2000 ≤ n && n ≤ 0x200a) || n == 0x2028 || n == 0x2029 || n == 0x202f || n == 0x205f ||
    n == 0x3000

/-- The characters left once the blanks at both ends are gone. -/
def trimmed (cs : List Char) : List Char :=
  ((cs.dropWhile isBlank).reverse.dropWhile isBlank).reverse

/-- Text without the blanks at both ends. -/
def trim (s : String) : String := String.ofList (trimmed s.toList)

/-- Text that holds blanks only, or nothing. -/
def isAllBlank (s : String) : Bool := s.toList.all isBlank

end Checkout.Text
