-- The target of a request as it is sent: steps up and in place are taken, and
-- what may not stand in an address is written with percent signs.
import Checkout.Text.Percent

namespace Checkout.Gateway.Address

/-- A control character, or one that is not ASCII. -/
def isForeign (c : Char) : Bool := c.toNat < 0x20 || 0x7f ≤ c.toNat

/-- The characters that may not stand in a path. -/
def mustHideInPath (c : Char) : Bool := isForeign c || " \"#<>?`\x7b\x7d".toList.contains c

/-- The characters that may not stand in a query. -/
def mustHideInQuery (c : Char) : Bool := isForeign c || " \"#<>'".toList.contains c

/-- The text without tabs and line ends, and without blanks and control characters at its
end. -/
def cleaned (cs : List Char) : List Char :=
  let cs := cs.filter fun c => !(c == '\t' || c == '\n' || c == '\r')
  (cs.reverse.dropWhile fun c => c.toNat ≤ 0x20).reverse

/-- Text cut at slashes of either kind. -/
def segments : List Char → List (List Char)
  | [] => [[]]
  | c :: cs =>
    if c = '/' ∨ c = '\\' then [] :: segments cs
    else
      match segments cs with
      | s :: rest => (c :: s) :: rest
      | [] => [[c]]

/-- A segment with its points written plainly. -/
def plainPoints : List Char → List Char
  | '%' :: '2' :: 'e' :: cs => '.' :: plainPoints cs
  | '%' :: '2' :: 'E' :: cs => '.' :: plainPoints cs
  | c :: cs => c :: plainPoints cs
  | [] => []

/-- Walks along segments. One point stays in place, and two points go one step back; the last
segment leaves an empty one then. The segments walked are held in reverse. -/
def walk : List (List Char) → List (List Char) → List (List Char)
  | back, [] => back.reverse
  | back, s :: rest =>
    if plainPoints s = ['.', '.'] then
      walk (if rest.isEmpty then [] :: back.drop 1 else back.drop 1) rest
    else if plainPoints s = ['.'] then walk (if rest.isEmpty then [] :: back else back) rest
    else walk (s :: back) rest

/-- The path and the query that are sent for the part of an address after its host. -/
def target (address : String) : String :=
  let cs := (cleaned address.toList).takeWhile (· != '#')
  let path := cs.takeWhile (· != '?')
  let query := cs.dropWhile (· != '?')
  let steps := walk [] (segments (path.drop 1))
  String.ofList
    (steps.flatMap (fun s => '/' :: s.flatMap (Text.Percent.encodeChar mustHideInPath)) ++
      query.take 1 ++ (query.drop 1).flatMap (Text.Percent.encodeChar mustHideInQuery))

end Checkout.Gateway.Address
