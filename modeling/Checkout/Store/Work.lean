-- Units of work on the tables. A unit of work takes effect as a whole or not
-- at all, so a failed one simply has no tables to show.
import Checkout.Fault
import Checkout.Store.Tables

namespace Checkout.Store

/-! ## The medium -/

inductive Write where
  | insert
  | update
deriving DecidableEq, Repr

instance : Enumeration Write where
  kind := "write"
  all := [.insert, .update]
  word
    | .insert => "insert"
    | .update => "update"

/-- What a disturbed medium does to a write. -/
inductive Disturbance where
  /-- The write fails, and its unit of work with it. -/
  | refused
  /-- Nothing is written, and nobody is told. -/
  | ignored
deriving DecidableEq, Repr

/-- What the tables are stored on: which writes it disturbs, and which rows nobody can read. -/
structure Medium where
  disturbances : List ((TableName × Write) × Disturbance)
  damaged : List (TableName × Id)
deriving DecidableEq, Repr

namespace Medium

/-- A medium that does what it is told. -/
def sound : Medium := ⟨[], []⟩

def disturbance? (m : Medium) (table : TableName) (write : Write) : Option Disturbance :=
  (m.disturbances.find? (·.1 == (table, write))).map (·.2)

def isDamaged (m : Medium) (table : TableName) (id : Id) : Bool := m.damaged.contains (table, id)

/-- Sets how a kind of write is disturbed from now on, if it is. -/
def disturb (m : Medium) (table : TableName) (write : Write) (d : Option Disturbance) : Medium :=
  let others := m.disturbances.filter (·.1 != (table, write))
  { m with disturbances := (d.map fun d => ((table, write), d)).toList ++ others }

def damage (m : Medium) (table : TableName) (id : Id) : Medium :=
  { m with damaged := (table, id) :: m.damaged }

def repair (m : Medium) (table : TableName) (id : Id) : Medium :=
  { m with damaged := m.damaged.filter (· != (table, id)) }

end Medium

/-- What a unit of work finds beside the tables: the time, and the state of the medium. -/
structure Conditions where
  now : Moment
  medium : Medium
deriving DecidableEq, Repr

/-! ## Units of work -/

/-- Something done to the tables that gives a value. -/
def Work (α : Type) : Type := Conditions → Tables → Except Fault (α × Tables)

namespace Work

variable {α β : Type}

/-- Gives a value and leaves the tables alone. -/
def value (a : α) : Work α := fun _ t => .ok (a, t)

def fail (f : Fault) : Work α := fun _ _ => .error f

/-- Does one thing after another. The first failure is the last thing done. -/
def andThen (w : Work α) (next : α → Work β) : Work β := fun c t =>
  match w c t with
  | .ok (a, t) => next a c t
  | .error f => .error f

instance : Monad Work where
  pure := value
  bind := andThen

/-- The same work with another word for its failures. -/
def mapFault (w : Work α) (f : Fault → Fault) : Work α := fun c t => (w c t).mapError f

def ofExcept : Except Fault α → Work α
  | .ok a => value a
  | .error f => fail f

/-- The value if there is one. -/
def orFail (f : Fault) : Option α → Work α
  | some a => value a
  | none => fail f

/-- Looks at the tables. -/
def view (look : Tables → α) : Work α := fun _ t => .ok (look t, t)

/-- Changes the tables. -/
def modify (change : Tables → Tables) : Work Unit := fun _ t => .ok ((), change t)

def now : Work Moment := fun c t => .ok (c.now, t)

def disturbance (table : TableName) (write : Write) : Work (Option Disturbance) := fun c t =>
  .ok (c.medium.disturbance? table write, t)

/-- Does some work step by step. Gives the values up to the first failure, and the tables if
there was none. -/
def trace : List (Work α) → Conditions → Tables → List α × Except Fault Tables
  | [], _, t => ([], .ok t)
  | w :: ws, c, t =>
    match w c t with
    | .ok (a, t) =>
      let (values, ending) := trace ws c t
      (a :: values, ending)
    | .error f => ([], .error f)

/-! ## Rows -/

variable [Row α]

/-- Gives rows as they are read, which fails if one of them is damaged. -/
def reading (rows : List α) : Work (List α) := fun c t =>
  if rows.any fun r => c.medium.isDamaged (Row.table α) (Row.key r) then
    .error (.storage (.damaged (Enumeration.word (Row.table α))))
  else .ok (rows, t)

/-- The rows that meet a condition, in the order of their keys. -/
def select (meets : α → Bool) : Work (List α) := do
  reading ((← view Row.rows).filter meets)

/-- The row of a key, if it is there and can be seen. -/
def fetch (id : Id) (visible : α → Bool) : Work (Option α) := do
  let found := (← view fun t => t.find? id).filter visible
  return (← reading found.toList).head?

/-- Makes a write to the table of a kind of rows, as far as the medium lets it. A write that is
ignored gives nothing. -/
def writing (α : Type) [Row α] (write : Write) (act : Work (Option β)) : Work (Option β) := do
  match ← disturbance (Row.table α) write with
  | some .refused => fail (.storage (.refused (Enumeration.word (Row.table α))))
  | some .ignored => return none
  | none => act

/-- Changes the row of a key, if it is there and meets a condition. Gives it as it was written,
read back or not. -/
def change (id : Id) (meets : α → Bool) (make : α → Work α) : Work (Option α) := do
  match (← view fun t => t.find? id).filter meets with
  | none => return none
  | some row =>
    writing α .update do
      let changed ← make row
      modify fun t => t.replace id changed
      return some changed

/-- Changes the row of a key, if it is there and meets a condition, and reads it back. -/
def update (id : Id) (meets : α → Bool) (make : α → Work α) : Work (Option α) := do
  return (← reading (← change id meets make).toList).head?

/-- Adds a row, which `make` gives for the next free id. Gives the row, unless the medium
ignored it. -/
def insert (make : Id → Work α) : Work (Option α) :=
  writing α .insert do
    let row ← make (← view (Tables.nextId α))
    modify fun t => t.append row
    return some row

/-- Adds a row and gives it. -/
def insertAndGet (make : Id → Work α) : Work α := do
  orFail (.storage (.noRow (Enumeration.word (Row.table α)))) (← insert make)

/-- Makes sure that a rule of the table of rows is kept. -/
def constrain (α : Type) [Row α] (kept : Bool) : Work Unit :=
  if kept then value () else fail (.storage (.constraint (Enumeration.word (Row.table α))))

end Work

end Checkout.Store
