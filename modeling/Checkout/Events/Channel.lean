-- A channel for events: producers publish into a queue of bounded length, and
-- a listener gives each event in turn to a task of its own. It stops listening
-- once no producer is left and nothing waits, and it is over once it has
-- reaped every task.

namespace Checkout.Events

/-- How the task of an event ends: it runs to its end, or it fails. -/
inductive Outcome where
  | handled
  | failed
deriving DecidableEq, Repr

/-- How far a task is. The listener reaps it some time after it ended. -/
inductive Standing where
  | running
  | ended (outcome : Outcome)
  | reaped (outcome : Outcome)
deriving DecidableEq, Repr

namespace Standing

def outcome? : Standing → Option Outcome
  | .running => none
  | .ended outcome | .reaped outcome => some outcome

def isReaped : Standing → Bool
  | .reaped _ => true
  | .running | .ended _ => false

def stepsLeft : Standing → Nat
  | .running => 2
  | .ended _ => 1
  | .reaped _ => 0

end Standing

/-- The task of one event. -/
structure Task (α : Type) where
  event : α
  standing : Standing
deriving DecidableEq, Repr

/-- A handle to publish with. -/
structure Producer (α : Type) where
  /-- What it has still to publish. -/
  unsent : List α
  /-- It has not been dropped. -/
  present : Bool
deriving DecidableEq, Repr

/-- An event that is not yet published takes four steps: it is published and received, and
its task ends and is reaped. -/
def Producer.stepsLeft {α : Type} (p : Producer α) : Nat :=
  4 * p.unsent.length + p.present.toNat

inductive Phase where
  /-- Nobody listens yet, and more producers may subscribe. -/
  | idle
  | listening
  /-- No event will come any more, but some tasks may be left. -/
  | draining
  /-- The listener has returned. -/
  | over
  /-- The listener was dropped before it listened. -/
  | dropped
deriving DecidableEq, Repr

def Phase.stepsLeft : Phase → Nat
  | .idle => 3
  | .listening => 2
  | .draining => 1
  | .over | .dropped => 0

/-- A channel at some point of its life. -/
structure Channel (α : Type) where
  /-- The most events that may wait. -/
  capacity : Nat
  phase : Phase
  /-- All producers there ever were. -/
  producers : List (Producer α)
  /-- The events that wait, oldest first. -/
  queue : List α
  /-- All tasks that were started, oldest first. -/
  tasks : List (Task α)
deriving DecidableEq, Repr

namespace Channel

variable {α : Type}

/-- A channel with a producer for each plan of what to publish. There is room for at least
one event. -/
def new (buffer : Nat) (plans : List (List α)) : Channel α :=
  ⟨max buffer 1, .idle, plans.map fun plan => ⟨plan, true⟩, [], []⟩

/-- What may happen next. -/
inductive Step (α : Type) where
  /-- The channel gives out one more producer. -/
  | subscribe (plan : List α)
  /-- A producer is cloned. -/
  | clone (producer : Nat) (plan : List α)
  /-- A producer publishes its next event. -/
  | publish (producer : Nat)
  /-- A producer goes, with whatever it has not published. -/
  | leave (producer : Nat)
  /-- The listener starts, without a sender of its own. -/
  | start
  /-- The listener goes before it has started. -/
  | drop
  /-- The listener takes the oldest event and starts its task. -/
  | receive
  /-- A running task ends. -/
  | finish (task : Nat) (outcome : Outcome)
  /-- The listener hears that a task has ended. -/
  | reap (task : Nat)
  /-- The listener is told that no event will come any more. -/
  | close
  /-- The listener returns. -/
  | stop
deriving DecidableEq, Repr

def hasProducer (c : Channel α) (producer : Nat) : Bool :=
  (c.producers[producer]?).any (·.present)

/-- With one more producer. -/
def join (c : Channel α) (plan : List α) : Channel α :=
  { c with producers := c.producers ++ [⟨plan, true⟩] }

/-- With a producer as it is now. -/
def setProducer (c : Channel α) (producer : Nat) (now : Producer α) : Channel α :=
  { c with producers := c.producers.set producer now }

/-- With a task as it is now. -/
def setTask (c : Channel α) (task : Nat) (now : Task α) : Channel α :=
  { c with tasks := c.tasks.set task now }

/-- An event is given to the channel. It has to wait for a place in the queue. Once the
listener was dropped, it is discarded. -/
def send? (c : Channel α) (event : α) : Option (Channel α) :=
  if c.phase = .dropped then some c
  else if c.queue.length < c.capacity then some { c with queue := c.queue ++ [event] }
  else none

/-- The listener hears of the tasks as long as it is there. -/
def reaps (c : Channel α) : Bool := c.phase == .listening || c.phase == .draining

/-- The channel after a step, if the step is possible. -/
def step? (c : Channel α) : Step α → Option (Channel α)
  | .subscribe plan => if c.phase = .idle then some (c.join plan) else none
  | .clone producer plan => if c.hasProducer producer then some (c.join plan) else none
  | .publish producer =>
    match c.producers[producer]? with
    | some ⟨event :: rest, true⟩ => (c.setProducer producer ⟨rest, true⟩).send? event
    | _ => none
  | .leave producer =>
    match c.producers[producer]? with
    | some ⟨unsent, true⟩ => some (c.setProducer producer ⟨unsent, false⟩)
    | _ => none
  | .start => if c.phase = .idle then some { c with phase := .listening } else none
  | .drop => if c.phase = .idle then some { c with phase := .dropped, queue := [] } else none
  | .receive =>
    match c.phase, c.queue with
    | .listening, event :: rest =>
      some { c with queue := rest, tasks := c.tasks ++ [⟨event, .running⟩] }
    | _, _ => none
  | .finish task outcome =>
    match c.tasks[task]? with
    | some ⟨event, .running⟩ => some (c.setTask task ⟨event, .ended outcome⟩)
    | _ => none
  | .reap task =>
    match c.tasks[task]? with
    | some ⟨event, .ended outcome⟩ =>
      if c.reaps then some (c.setTask task ⟨event, .reaped outcome⟩) else none
    | _ => none
  | .close =>
    if c.phase = .listening ∧ c.queue = [] ∧ c.producers.all (!·.present) then
      some { c with phase := .draining }
    else none
  | .stop =>
    if c.phase = .draining ∧ c.tasks.all (·.standing.isReaped) then
      some { c with phase := .over }
    else none

/-- The events that were handled, in the order in which their tasks were started. -/
def handled (c : Channel α) : List α :=
  (c.tasks.filter (·.standing.outcome? = some .handled)).map (·.event)

/-! ## A run to the end -/

/-- A step that is possible and leads on, as long as the listener may still return. A task
fails on the events that `fails` names. -/
def nextStep? (fails : α → Bool) (c : Channel α) : Option (Step α) :=
  match c.phase with
  | .idle => some .start
  | .listening =>
    if !c.queue.isEmpty then some .receive
    else
      match c.producers.findIdx? fun p => p.present && !p.unsent.isEmpty with
      | some producer => some (.publish producer)
      | none =>
        match c.producers.findIdx? (·.present) with
        | some producer => some (.leave producer)
        | none => some .close
  | .draining =>
    match c.tasks.findIdx? (!·.standing.isReaped) with
    | some task =>
      (c.tasks[task]?).map fun
        | ⟨event, .running⟩ => .finish task (if fails event then .failed else .handled)
        | _ => .reap task
    | none => some .stop
  | .over | .dropped => none

/-- What all items count for together. -/
def total {β : Type} (count : β → Nat) (items : List β) : Nat :=
  items.foldr (fun item rest => count item + rest) 0

/-- How many steps there are at most to the end, if no producer joins. -/
def stepsLeft (c : Channel α) : Nat :=
  total Producer.stepsLeft c.producers + 3 * c.queue.length +
    total (·.standing.stepsLeft) c.tasks + c.phase.stepsLeft

/-- The channel after at most so many steps. -/
def runFor (fails : α → Bool) : Nat → Channel α → Channel α
  | 0, c => c
  | steps + 1, c =>
    match (c.nextStep? fails).bind c.step? with
    | some c => runFor fails steps c
    | none => c

/-- Runs a channel to its end. -/
def run (fails : α → Bool) (c : Channel α) : Channel α := runFor fails c.stepsLeft c

end Channel

end Checkout.Events
