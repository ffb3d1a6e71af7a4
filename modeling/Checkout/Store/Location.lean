-- Where a store is kept, as an address names it. A store in memory is made
-- anew; any other one would have to be there.
import Checkout.Text.Digits

namespace Checkout.Store.Location

/-- Text without another one at its front, as often as it stands there. -/
def without (front : List Char) : Nat → List Char → List Char
  | 0, cs => cs
  | times + 1, cs =>
    if !front.isEmpty && front.isPrefixOf cs then without front times (cs.drop front.length) else cs

/-- An address without its scheme. -/
def bare (address : String) : String :=
  let cs := address.toList
  String.ofList
    (without "sqlite:".toList cs.length (without "sqlite://".toList cs.length cs))

/-- The options behind an address. -/
def options (address : String) : List String :=
  match (bare address).splitOn "?" with
  | _ :: rest@(_ :: _) => (("?".intercalate rest).splitOn "&").filter (!·.isEmpty)
  | _ => []

/-- The options that an address may have. -/
def knownOptions : List String :=
  ["mode=ro", "mode=rw", "mode=rwc", "mode=memory", "cache=private", "cache=shared",
    "immutable=true", "immutable=1", "immutable=false", "immutable=0"]

/-- The address names a store in memory, and all of its options are known. -/
def isMemory (address : String) : Bool :=
  let options := options address
  options.all knownOptions.contains &&
    (((bare address).splitOn "?").head? == some ":memory:" || options.contains "mode=memory")

end Checkout.Store.Location
