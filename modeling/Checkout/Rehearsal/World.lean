-- The service played through with a scripted processor: the tables, the
-- processor, the guard of the calls to it, two clocks, and the events that
-- nobody has handled yet.
import Checkout.Http.Service
import Checkout.Rehearsal.Script
import Checkout.Service.Settlement

namespace Checkout.Rehearsal

open Service (Flow Call)

structure World where
  tables : Store.Tables
  medium : Store.Medium
  /-- Payments that are stored from now on are spoiled: they end up failed and unreadable. -/
  spoilsPayments : Bool
  script : Script
  guard : Gateway.Guard
  /-- The time of day. -/
  clock : Moment
  /-- What the breaker reads. -/
  ticks : Gateway.Instant
  /-- Events are kept until they are handled. Without this they go nowhere. -/
  listens : Bool
  events : List Event

namespace World

/-- The time of day at which every rehearsal begins: the first moment of the year 2026. -/
def daybreak : Moment := 1767225600000

/-- A shop without any rows. -/
def new (guard : Gateway.Guard) (listens : Bool) : World :=
  { tables := .empty
    medium := .sound
    spoilsPayments := false
    script := .blank
    guard
    clock := daybreak
    ticks := .zero
    listens
    events := [] }

/-- Lets a moment pass, by either clock. -/
def tick (w : World) : World :=
  { w with clock := w.clock + 1, ticks := w.ticks + .ofMicroseconds 1 }

def conditions (w : World) : Store.Conditions := ⟨w.clock, w.medium⟩

/-- Spoils the payments from the given place on. -/
def spoilFrom (w : World) (place : Nat) : World :=
  let (before, after) := w.tables.payments.splitAt place
  { w with
    tables := { w.tables with
      payments := before ++ after.map fun p => { p with status := .failed } }
    medium := after.foldl (fun m p => m.damage .payments p.id) w.medium }

/-- Asks the store. -/
def ask {α : Type} (w : World) (query : Store.Query α) : Except Fault α × World :=
  let (answer, tables) := query.answer w.conditions w.tables
  let after := { w.tick with tables }
  (answer, if w.spoilsPayments then after.spoilFrom w.tables.payments.length else after)

/-- Makes a guarded call to the processor. -/
def callProcessor {α : Type} (w : World) (attempt : Script → Gateway.Attempt Script α) :
    Except Gateway.Fault α × World :=
  let later := w.tick
  let (ended, guard) := w.guard.call w.ticks later.ticks attempt w.script
  (ended.result, { later.tick with guard, script := ended.state })

def publish (w : World) (event : Event) : World :=
  if w.listens then { w with events := w.events ++ [event] } else w

/-- Plays a call through from its first step to its last. -/
def play {α : Type} (w : World) : Flow α → α × World
  | .done a => (a, w)
  | .ask query next =>
    let (answer, w) := w.ask query
    w.play (next answer)
  | .requestPayment user request next =>
    let (answer, w) := w.callProcessor (Script.processor.requestPayment user request)
    w.play (next answer)
  | .fetchTransaction user key next =>
    let (answer, w) := w.callProcessor (Script.processor.fetchTransaction user key)
    w.play (next answer)
  | .publish event next => (w.publish event).play next

/-- Settles the events from the given place on, one after another. Settling one may add others,
which need no settling themselves. Gives all events, oldest first. -/
def settle (w : World) : List Event → World
  | [] => w
  | event :: events => (w.play (Service.Settlement.handle event)).2.settle events

/-- Handles all events that wait, and gives all that there were. -/
def handleEvents (w : World) : List Event × World :=
  let w := w.settle w.events
  (w.events, { w with events := [] })

/-- Serves a request with its settlement, whether or not the world listens otherwise. -/
def serve (w : World) (r : Http.Request) : Http.Reply × World :=
  let (reply, after) := { w with listens := true }.play (Http.handle r)
  (reply, { after.handleEvents.2 with listens := w.listens })

/-! ## Interventions -/

/-- Carries out a unit of work that no query stands for. -/
def carryOut {α : Type} (w : World) (work : Store.Work α) : Except Fault α × World :=
  match work w.conditions w.tables with
  | .ok (a, tables) => (.ok a, { w.tick with tables })
  | .error f => (.error f, w.tick)

/-- Carries out steps of one unit of work, and keeps what they did if all succeed and it is to
be kept. Gives the values of the steps up to the first failure. -/
def carryOutAll {α : Type} (w : World) (steps : List (Store.Work α)) (keep : Bool) :
    List α × Except Fault Unit × World :=
  match Store.Work.trace steps w.conditions w.tables with
  | (values, .ok tables) => (values, .ok (), if keep then { w.tick with tables } else w.tick)
  | (values, .error f) => (values, .error f, w.tick)

/-- Sets how a kind of write is disturbed. -/
def disturb (w : World) (table : Store.TableName) (write : Store.Write)
    (d : Option Store.Disturbance) (spoils : Bool) : World :=
  { w with
    medium := w.medium.disturb table write d
    spoilsPayments :=
      if table = .payments ∧ write = .insert then spoils else w.spoilsPayments }

/-- Makes the row of a key unreadable, or readable again. Says how many rows there were. -/
def damage (w : World) (table : Store.TableName) (id : Id) (repair : Bool) : Nat × World :=
  if w.tables.hasIn id table then
    let medium := w.medium.repair table id
    (1, { w with medium := if repair then medium else medium.damage table id })
  else (0, w)

/-- The moment that lies so many minutes back. -/
def minutesAgo (w : World) (minutes : Int) : Moment := w.clock - 60000 * minutes

end World

end Checkout.Rehearsal
