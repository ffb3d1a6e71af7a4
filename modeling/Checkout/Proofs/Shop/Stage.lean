-- A call played through alone, from its first step to its last. Behind the
-- guard stands a processor of any kind, and the guard may be in any state. If
-- the processor is the scripted one, this is what the rehearsals play.
import Checkout.Proofs.Shop.Absence
import Checkout.Rehearsal.World

namespace Checkout

open Store Service

/-! ## Flows as a monad -/

namespace Service.Flow

variable {α β γ : Type}

theorem bind_done (f : Flow α) : f >>= Flow.done = f := by
  induction f with
  | done a => rfl
  | ask query next ih => exact congrArg (ask query) (funext ih)
  | requestPayment user request next ih => exact congrArg (requestPayment user request) (funext ih)
  | fetchTransaction user key next ih => exact congrArg (fetchTransaction user key) (funext ih)
  | publish event next ih => exact congrArg (publish event) ih

theorem bind_assoc (f : Flow α) (g : α → Flow β) (h : β → Flow γ) :
    f >>= g >>= h = f >>= fun a => g a >>= h := by
  induction f with
  | done a => rfl
  | ask query next ih => exact congrArg (ask query) (funext ih)
  | requestPayment user request next ih => exact congrArg (requestPayment user request) (funext ih)
  | fetchTransaction user key next ih => exact congrArg (fetchTransaction user key) (funext ih)
  | publish event next ih => exact congrArg (publish event) ih

instance : LawfulMonad Flow := .mk' Flow bind_done (fun _ _ => rfl) bind_assoc

end Service.Flow

/-! ## The stage -/

/-- A processor in a state, and the guard of the calls to it with its clock. -/
structure Counterparty (σ : Type) where
  processor : Gateway.Processor σ
  state : σ
  guard : Gateway.Guard
  ticks : Gateway.Instant

/-- All that a call that is played alone can meet. -/
structure Stage (σ : Type) where
  tables : Tables
  medium : Medium
  clock : Moment
  events : List Event
  other : Counterparty σ

namespace Stage

variable {σ α β : Type}

/-- Lets a moment pass, by either clock. -/
def tick (s : Stage σ) : Stage σ :=
  { s with
    clock := s.clock + 1
    other := { s.other with ticks := s.other.ticks + .ofMicroseconds 1 } }

/-- Asks the store. -/
def ask (s : Stage σ) (query : Query α) : Except Fault α × Stage σ :=
  let (answer, tables) := query.answer ⟨s.clock, s.medium⟩ s.tables
  (answer, { s.tick with tables })

/-- Makes a guarded call to the processor. -/
def callProcessor (s : Stage σ) (attempt : Gateway.Processor σ → σ → Gateway.Attempt σ α) :
    Except Gateway.Fault α × Stage σ :=
  let later := s.tick
  let (ended, guard) := s.other.guard.call s.other.ticks later.other.ticks
    (attempt s.other.processor) s.other.state
  (ended.result, { later.tick with other := { later.tick.other with guard, state := ended.state } })

def publish (s : Stage σ) (event : Event) : Stage σ := { s with events := s.events ++ [event] }

/-- Plays a flow through from its first step to its last. -/
def play (s : Stage σ) : Flow α → α × Stage σ
  | .done a => (a, s)
  | .ask query next =>
    let (answer, s) := s.ask query
    s.play (next answer)
  | .requestPayment user request next =>
    let (answer, s) := s.callProcessor (·.requestPayment user request)
    s.play (next answer)
  | .fetchTransaction user key next =>
    let (answer, s) := s.callProcessor (·.fetchTransaction user key)
    s.play (next answer)
  | .publish event next => (s.publish event).play next

/-- Plays a call through. -/
def run (s : Stage σ) (c : Call α) : Except Fault α × Stage σ := s.play c.run

theorem play_ask (s : Stage σ) (query : Query β) (next : Except Fault β → Flow α) :
    s.play (.ask query next) = (s.ask query).2.play (next (s.ask query).1) := rfl

theorem play_bind (s : Stage σ) (f : Flow α) (next : α → Flow β) :
    s.play (f >>= next) = (s.play f).2.play (next (s.play f).1) := by
  induction f generalizing s with
  | done a => rfl
  | ask query rest ih => exact ih _ _
  | requestPayment user request rest ih => exact ih _ _
  | fetchTransaction user key rest ih => exact ih _ _
  | publish event rest ih => exact ih _

theorem run_bind (s : Stage σ) (c : Call α) (next : α → Call β) :
    s.run (c >>= next) =
      match s.run c with
      | (.ok a, s) => s.run (next a)
      | (.error f, s) => (.error f, s) := by
  have hplay : s.run (c >>= next) = _ := s.play_bind c.run (ExceptT.bindCont next)
  rw [hplay]
  change (s.run c).2.play (ExceptT.bindCont next (s.run c).1) = _
  obtain ⟨answer, after⟩ := s.run c
  cases answer <;> rfl

theorem run_attempt_bind (s : Stage σ) (query : Query α) (next : Except Fault α → Call β) :
    s.run (Call.attempt query >>= next) = (s.ask query).2.run (next (s.ask query).1) := rfl

theorem run_requestPayment_bind (s : Stage σ) (user : Id) (request : Gateway.PaymentRequest)
    (next : Except Gateway.Fault Gateway.Receipt → Call β) :
    s.run (Call.requestPayment user request >>= next) =
      (s.callProcessor (·.requestPayment user request)).2.run
        (next (s.callProcessor (·.requestPayment user request)).1) := rfl

/-! ## The stage of a rehearsal -/

/-- The stage that a world is. -/
def ofWorld (w : Rehearsal.World) : Stage Rehearsal.Script :=
  { tables := w.tables
    medium := w.medium
    clock := w.clock
    events := w.events
    other := ⟨Rehearsal.Script.processor, w.script, w.guard, w.ticks⟩ }

/-- Nobody spoils payments, and events are kept until they are handled. -/
structure IsPlain (w : Rehearsal.World) : Prop where
  listens : w.listens = true
  spoils : w.spoilsPayments = false

variable {w : Rehearsal.World}

theorem ask_ofWorld (hw : IsPlain w) (query : Query α) :
    (ofWorld w).ask query = ((w.ask query).1, ofWorld (w.ask query).2) ∧
      IsPlain (w.ask query).2 := by
  have hask : (w.ask query).2 =
      { w.tick with tables := (query.answer w.conditions w.tables).2 } := by
    simp [Rehearsal.World.ask, hw.spoils]
  rw [hask]
  exact ⟨rfl, hw.listens, hw.spoils⟩

theorem publish_ofWorld (hw : IsPlain w) (event : Event) :
    (ofWorld w).publish event = ofWorld (w.publish event) ∧ IsPlain (w.publish event) := by
  have hpublish : w.publish event = { w with events := w.events ++ [event] } := if_pos hw.listens
  rw [hpublish]
  exact ⟨rfl, hw.listens, hw.spoils⟩

/-- A rehearsal plays a flow as the stage does. -/
theorem play_ofWorld (hw : IsPlain w) (f : Flow α) :
    (ofWorld w).play f = ((w.play f).1, ofWorld (w.play f).2) := by
  induction f generalizing w with
  | done a => rfl
  | ask query next ih =>
    obtain ⟨hask, hplain⟩ := ask_ofWorld hw query
    rw [play, hask]
    exact ih _ hplain
  | requestPayment user request next ih =>
    exact ih _ (w := (w.callProcessor (Rehearsal.Script.processor.requestPayment user request)).2)
      ⟨hw.listens, hw.spoils⟩
  | fetchTransaction user key next ih =>
    exact ih _ (w := (w.callProcessor (Rehearsal.Script.processor.fetchTransaction user key)).2)
      ⟨hw.listens, hw.spoils⟩
  | publish event next ih =>
    obtain ⟨hpublish, hplain⟩ := publish_ofWorld hw event
    rw [play, hpublish]
    exact ih hplain

end Stage

/-! ## What a call alone does -/

/-- The processor was asked. -/
def Act.contacts : Act → Bool
  | .requested _ _ _ => true
  | .lookedUp _ _ _ => true
  | _ => false

namespace Stage

variable {σ α : Type} {s s' s'' : Stage σ} {acts acts' : List Act}

/-- What some acts have left of a stage. -/
structure Leaves (s : Stage σ) (acts : List Act) (s' : Stage σ) : Prop where
  kept : s'.tables.Kept
  medium : s'.medium = s.medium
  idle : (∀ act ∈ acts, act.isIdle = true) → s'.tables = s.tables ∧ s'.events = s.events
  apart : (∀ act ∈ acts, act.contacts = false) →
    s'.other.state = s.other.state ∧ s'.other.guard = s.other.guard

theorem Leaves.trans (h : s.Leaves acts s') (h' : s'.Leaves acts' s'') :
    s.Leaves (acts ++ acts') s'' where
  kept := h'.kept
  medium := h'.medium.trans h.medium
  idle hidle := by
    obtain ⟨hfirst, hsecond⟩ := List.forall_mem_append.mp hidle
    obtain ⟨htables, hevents⟩ := h.idle hfirst
    obtain ⟨htables', hevents'⟩ := h'.idle hsecond
    exact ⟨htables'.trans htables, hevents'.trans hevents⟩
  apart hapart := by
    obtain ⟨hfirst, hsecond⟩ := List.forall_mem_append.mp hapart
    obtain ⟨hstate, hguard⟩ := h.apart hfirst
    obtain ⟨hstate', hguard'⟩ := h'.apart hsecond
    exact ⟨hstate'.trans hstate, hguard'.trans hguard⟩

theorem ask_leaves (hk : s.tables.Kept) (hm : s.medium.Honest) {query : Query α}
    (hq : query.Proper) : s.Leaves [.asked query (s.ask query).1] (s.ask query).2 := by
  unfold ask Query.answer
  cases hw : query.work ⟨s.clock, s.medium⟩ s.tables with
  | error f => exact ⟨hk, rfl, fun _ => ⟨rfl, rfl⟩, fun _ => ⟨rfl, rfl⟩⟩
  | ok result =>
    have hchange := Query.change (c := ⟨s.clock, s.medium⟩) hm hq hk hw
    refine ⟨hchange.kept hk, rfl, fun hidle => ⟨?_, rfl⟩, fun _ => ⟨rfl, rfl⟩⟩
    exact hchange.eq_of_changesNothing (hidle _ (List.mem_singleton_self _))

/-- A call to the processor changes neither the tables nor the events. -/
theorem callProcessor_leaves {act : Act} (hk : s.tables.Kept)
    (attempt : Gateway.Processor σ → σ → Gateway.Attempt σ α) (hact : act.contacts = true) :
    s.Leaves [act] (s.callProcessor attempt).2 := by
  refine ⟨hk, rfl, fun _ => ⟨rfl, rfl⟩, fun hapart => ?_⟩
  rw [hapart act (List.mem_singleton_self act)] at hact
  cases hact

/-- A flow that is played alone does some acts, and its value and the stage are as they say. -/
theorem play_obeys {b : Business} {rule : List Act → Act → Prop} {outcome : List Act → α → Prop}
    {past : List Act} {f : Flow α} (hk : s.tables.Kept) (hm : s.medium.Honest) (hp : f.Proper b)
    (hf : f.Obeys rule outcome past) :
    ∃ acts, outcome (past ++ acts) (s.play f).1 ∧ s.Leaves acts (s.play f).2 := by
  induction f generalizing s past with
  | done a =>
    refine ⟨[], ?_, hk, rfl, fun _ => ⟨rfl, rfl⟩, fun _ => ⟨rfl, rfl⟩⟩
    rw [List.append_nil]
    exact hf
  | ask query next ih =>
    have hfirst := ask_leaves hk hm hp.1.2
    obtain ⟨acts, houtcome, hleaves⟩ := ih _ hfirst.kept (hfirst.medium ▸ hm) (hp.2 _) (hf _).2
    exact ⟨_, List.append_assoc past _ acts ▸ houtcome, hfirst.trans hleaves⟩
  | requestPayment user request next ih =>
    let reply := s.callProcessor (·.requestPayment user request)
    have hfirst : s.Leaves [.requested user request reply.1] reply.2 :=
      callProcessor_leaves hk _ rfl
    obtain ⟨acts, houtcome, hleaves⟩ := ih _ hfirst.kept (hfirst.medium ▸ hm) (hp.2 _) (hf _).2
    exact ⟨_, List.append_assoc past _ acts ▸ houtcome, hfirst.trans hleaves⟩
  | fetchTransaction user key next ih =>
    let reply := s.callProcessor (·.fetchTransaction user key)
    have hfirst : s.Leaves [.lookedUp user key reply.1] reply.2 :=
      callProcessor_leaves hk _ rfl
    obtain ⟨acts, houtcome, hleaves⟩ := ih _ hfirst.kept (hfirst.medium ▸ hm) (hp.2 _) (hf _).2
    exact ⟨_, List.append_assoc past _ acts ▸ houtcome, hfirst.trans hleaves⟩
  | publish event next ih =>
    have hfirst : s.Leaves [.published event] (s.publish event) :=
      ⟨hk, rfl, fun hidle => (nomatch hidle _ (List.mem_singleton_self _)), fun _ => ⟨rfl, rfl⟩⟩
    obtain ⟨acts, houtcome, hleaves⟩ := ih hfirst.kept (hfirst.medium ▸ hm) hp.2 hf.2
    exact ⟨_, List.append_assoc past _ acts ▸ houtcome, hfirst.trans hleaves⟩

end Stage

end Checkout
