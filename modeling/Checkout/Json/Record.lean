-- Records as JSON values: an object with named members, or an array of the
-- members in their order. Members that a record does not name are passed
-- over, and a named one may come once only.
import Checkout.Json.Reader
import Checkout.Number.Width

namespace Checkout.Json

/-! ## Single values -/

def string? : Json → Option String
  | .string s => some s
  | _ => none

/-- A whole number of 64 bits. -/
def int64? : Json → Option Int
  | .integer n => if Fits n then some n else none
  | _ => none

/-- A value, or null for none. -/
def nullable? {α : Type} (read : Json → Option α) : Json → Option (Option α)
  | .null => some none
  | j => (read j).map some

/-- A list whose items are all of one kind. -/
def list? {α : Type} (read : Json → Option α) : Json → Option (List α)
  | .array items => items.mapM read
  | _ => none

/-- The name of a choice: as text, or as an object of that name alone with null. -/
def choice? : Json → Option String
  | .string s => some s
  | .object [(name, .null)] => some name
  | _ => none

/-! ## Records -/

/-- The named members of a record. -/
structure Record where
  members : List (String × Json)
  /-- The record came as an array, where only members with a default may be left out. -/
  listed : Bool

/-- No name comes twice. -/
def distinctNames : List (String × Json) → Bool
  | [] => true
  | (k, _) :: ms => ms.all (·.1 != k) && distinctNames ms

/-- The members of a record with the given names. -/
def record? (j : Json) (names : List String) : Option Record :=
  match j with
  | .object ms =>
    let known := ms.filter fun m => names.contains m.1
    if distinctNames known then some ⟨known, false⟩ else none
  | .array items => if items.length ≤ names.length then some ⟨names.zip items, true⟩ else none
  | _ => none

namespace Record

def get? (r : Record) (name : String) : Option Json :=
  (r.members.find? (·.1 == name)).map (·.2)

/-- A member that must be there. -/
def required {α : Type} (r : Record) (name : String) (read : Json → Option α) : Option α :=
  (r.get? name).bind read

/-- A member that an object may leave out, and that may be null. -/
def optional {α : Type} (r : Record) (name : String) (read : Json → Option α) :
    Option (Option α) :=
  match r.get? name with
  | some j => nullable? read j
  | none => if r.listed then none else some none

/-- A member that may be left out for a default. -/
def defaulted {α : Type} (r : Record) (name : String) (read : Json → Option α) (default : α) :
    Option α :=
  match r.get? name with
  | some j => read j
  | none => some default

/-- A member that may be left out or null. -/
def nullable {α : Type} (r : Record) (name : String) (read : Json → Option α) :
    Option (Option α) :=
  r.defaulted name (nullable? read) none

end Record

end Checkout.Json
