-- Media types: what a header says about the form of a body. Two names with a
-- slash between them, and parameters that only have to be well formed.

namespace Checkout.Http

/-- A media type in lower case, without its parameters. -/
structure MediaType where
  kind : List Char
  /-- All that follows the slash. -/
  subtype : List Char
deriving DecidableEq, Repr

namespace MediaType

/-- A character that names and plain values are made of. -/
def isToken (c : Char) : Bool := c.isAlphanum || "!#$%&'+-.^_`|~".toList.contains c

/-- A character that may stand in quotes. -/
def isQuotable (c : Char) : Bool := 32 ≤ c.toNat && c.toNat < 127

/-- A place in a list of parameters. -/
inductive Place where
  /-- Before a parameter. -/
  | start
  | name
  | valueStart
  | value
  | quoteStart
  | quoted
  /-- Behind a closing quote. -/
  | closed
deriving DecidableEq, Repr

/-- The characters go on from a place to a well-formed end. Quotes hold at least one
character, which may be a quote itself. -/
def goesOn : Place → List Char → Bool
  | .start, [] => true
  | .start, ' ' :: cs => goesOn .start cs
  | .start, c :: cs => isToken c && goesOn .name cs
  | .name, [] => false
  | .name, '=' :: cs => goesOn .valueStart cs
  | .name, c :: cs => isToken c && goesOn .name cs
  | .valueStart, [] => true
  | .valueStart, '"' :: cs => goesOn .quoteStart cs
  | .valueStart, c :: cs => isToken c && goesOn .value cs
  | .value, [] => true
  | .value, ';' :: cs => goesOn .start cs
  | .value, c :: cs => isToken c && goesOn .value cs
  | .quoteStart, [] => false
  | .quoteStart, c :: cs => isQuotable c && goesOn .quoted cs
  | .quoted, [] => false
  | .quoted, '"' :: cs => goesOn .closed cs
  | .quoted, c :: cs => isQuotable c && goesOn .quoted cs
  | .closed, [] => true
  | .closed, ';' :: cs => goesOn .start cs
  | .closed, ' ' :: cs => goesOn .closed cs
  | .closed, _ :: _ => false

/-- Reads a media type. -/
def ofText? (s : String) : Option MediaType :=
  let cs := s.toList.map Char.toLower
  let kind := cs.takeWhile isToken
  match cs.dropWhile isToken with
  | '/' :: rest =>
    let subtype := rest.takeWhile isToken
    let wellFormed := match rest.dropWhile isToken with
      | [] => true
      | ';' :: parameters => !subtype.isEmpty && goesOn .start parameters
      | _ => false
    if !kind.isEmpty && wellFormed then some ⟨kind, subtype⟩ else none
  | _ => none

/-- The parts of a subtype before and after its last plus sign. One that has no such sign after
its front is a single part. -/
def parts (m : MediaType) : List (List Char) :=
  let back := m.subtype.reverse
  let front := (back.dropWhile (· != '+')).drop 1
  if front.isEmpty then [m.subtype] else [front.reverse, (back.takeWhile (· != '+')).reverse]

/-- A body of this form is read as JSON. -/
def isJson (m : MediaType) : Bool := m.parts.contains ['j', 's', 'o', 'n']

end MediaType

end Checkout.Http
