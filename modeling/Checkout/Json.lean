-- JSON values and their compact text. A value keeps whole numbers apart from
-- doubles, and its members in the order they came in.
import Checkout.Number.Decimal

namespace Checkout

/-- A JSON value. -/
inductive Json where
  | null
  | bool (b : Bool)
  /-- A number with neither point nor exponent, small enough for 64 bits. -/
  | integer (n : Int)
  | double (d : Binary64)
  | string (s : String)
  | array (items : List Json)
  | object (members : List (String × Json))
  /-- Well-formed text that stands for no value: a number beyond every double, or text with
  half of a surrogate pair. It may stand where nobody reads it, and nowhere else. -/
  | invalid
deriving Repr, Inhabited

namespace Json

def ofOption {α : Type} (f : α → Json) : Option α → Json
  | none => .null
  | some a => f a

def list {α : Type} (f : α → Json) (as : List α) : Json := .array (as.map f)

/-- The members of an object; a value of any other kind has none. -/
def members : Json → List (String × Json)
  | .object ms => ms
  | _ => []

/-- The first member of a name. -/
def get? (j : Json) (name : String) : Option Json := (j.members.find? (·.1 == name)).map (·.2)

/-! ## How deep a value goes, and whether all of it is valid -/

mutual
/-- No part is invalid, and arrays and objects stand inside each other `depth` times at most. -/
def sound : Nat → Json → Bool
  | _, .invalid => false
  | depth, .array items => depth != 0 && soundItems (depth - 1) items
  | depth, .object ms => depth != 0 && soundMembers (depth - 1) ms
  | _, _ => true

def soundItems : Nat → List Json → Bool
  | _, [] => true
  | depth, j :: js => sound depth j && soundItems depth js

def soundMembers : Nat → List (String × Json) → Bool
  | _, [] => true
  | depth, (_, j) :: ms => sound depth j && soundMembers depth ms
end

/-- The deepest nesting that a value may have where it is read. -/
def deepest : Nat := 127

/-! ## Compact text -/

/-- A character inside quotes: quotes, backslashes and control characters are escaped. -/
def escape (c : Char) : List Char :=
  if c = '"' then ['\\', '"']
  else if c = '\\' then ['\\', '\\']
  else if c = '\n' then ['\\', 'n']
  else if c = '\r' then ['\\', 'r']
  else if c = '\t' then ['\\', 't']
  else if c = '\x08' then ['\\', 'b']
  else if c = '\x0c' then ['\\', 'f']
  else if c.toNat < 32 then
    ['\\', 'u', '0', '0', Text.hexChar (c.toNat / 16), Text.hexChar (c.toNat % 16)]
  else [c]

/-- Text in quotes. -/
def quoted (s : String) : List Char := '"' :: (s.toList.flatMap escape ++ ['"'])

mutual
/-- The compact text of a value: no blanks, members in their order. -/
def chars : Json → List Char
  | .null => ['n', 'u', 'l', 'l']
  | .bool true => ['t', 'r', 'u', 'e']
  | .bool false => ['f', 'a', 'l', 's', 'e']
  | .integer n => Text.intChars n
  | .double d => if d.isFinite then d.text.toList else ['n', 'u', 'l', 'l']
  | .string s => quoted s
  | .array [] => ['[', ']']
  | .array (j :: js) => '[' :: (chars j ++ charsOfItems js)
  | .object [] => ['\x7b', '\x7d']
  | .object ((k, j) :: ms) => '\x7b' :: (quoted k ++ ':' :: (chars j ++ charsOfMembers ms))
  | .invalid => ['n', 'u', 'l', 'l']

/-- The items after the first one, and the closing bracket. -/
def charsOfItems : List Json → List Char
  | [] => [']']
  | j :: js => ',' :: (chars j ++ charsOfItems js)

/-- The members after the first one, and the closing brace. -/
def charsOfMembers : List (String × Json) → List Char
  | [] => ['\x7d']
  | (k, j) :: ms => ',' :: (quoted k ++ ':' :: (chars j ++ charsOfMembers ms))
end

def text (j : Json) : String := String.ofList j.chars

end Json

end Checkout
