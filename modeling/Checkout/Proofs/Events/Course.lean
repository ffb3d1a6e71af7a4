-- The steps of a channel for events: what each needs, what is published with
-- it and what it changes, and the courses that are made of them.
import Mathlib.Data.List.Induction
import Checkout.Events.Channel

namespace Checkout.Events

variable {α : Type}

/-! ## A course of steps -/

/-- What has been published so far, and the channel. -/
structure Scene (α : Type) where
  /-- The events whose publishing is complete, oldest first, each with its producer. -/
  published : List (Nat × α)
  channel : Channel α
deriving DecidableEq, Repr

namespace Channel

variable {c c' : Channel α} {step : Step α} {sent : List (Nat × α)}

/-- The event that is published once a step is done, with its producer. -/
def sent? (c : Channel α) : Step α → Option (Nat × α)
  | .publish producer =>
    (c.producers[producer]?).bind fun p => p.unsent.head?.map fun event => (producer, event)
  | _ => none

/-- What a producer that joins in this step is going to publish. -/
def Step.plan? : Step α → Option (List α)
  | .subscribe plan | .clone _ plan => some plan
  | _ => none

/-- How a task ends in this step. -/
def Step.ending? (task : Nat) : Step α → Option Outcome
  | .finish ended outcome => if ended = task then some outcome else none
  | _ => none

/-- Each step by what it needs, what is published with it, and what it changes. -/
inductive Goes (c : Channel α) : Step α → List (Nat × α) → Channel α → Prop
  | subscribe (plan : List α) (hidle : c.phase = .idle) : Goes c (.subscribe plan) [] (c.join plan)
  | clone {i : Nat} (plan : List α) (hpresent : c.hasProducer i) :
      Goes c (.clone i plan) [] (c.join plan)
  | publish {i : Nat} {event : α} {rest : List α}
      (hp : c.producers[i]? = some ⟨event :: rest, true⟩) (hphase : c.phase ≠ .dropped)
      (hroom : c.queue.length < c.capacity) :
      Goes c (.publish i) [(i, event)]
        { c.setProducer i ⟨rest, true⟩ with queue := c.queue ++ [event] }
  | discard {i : Nat} {event : α} {rest : List α}
      (hp : c.producers[i]? = some ⟨event :: rest, true⟩)
      (hphase : c.phase = .dropped) :
      Goes c (.publish i) [(i, event)] (c.setProducer i ⟨rest, true⟩)
  | leave {i : Nat} {unsent : List α} (hp : c.producers[i]? = some ⟨unsent, true⟩) :
      Goes c (.leave i) [] (c.setProducer i ⟨unsent, false⟩)
  | start (hidle : c.phase = .idle) : Goes c .start [] { c with phase := .listening }
  | drop (hidle : c.phase = .idle) : Goes c .drop [] { c with phase := .dropped, queue := [] }
  | receive {event : α} {rest : List α} (hphase : c.phase = .listening)
      (hqueue : c.queue = event :: rest) :
      Goes c .receive [] { c with queue := rest, tasks := c.tasks ++ [⟨event, .running⟩] }
  | finish {k : Nat} {event : α} (outcome : Outcome)
      (ht : c.tasks[k]? = some ⟨event, .running⟩) :
      Goes c (.finish k outcome) [] (c.setTask k ⟨event, .ended outcome⟩)
  | reap {k : Nat} {event : α} {outcome : Outcome} (hreaps : c.reaps)
      (ht : c.tasks[k]? = some ⟨event, .ended outcome⟩) :
      Goes c (.reap k) [] (c.setTask k ⟨event, .reaped outcome⟩)
  | close (hphase : c.phase = .listening) (hqueue : c.queue = [])
      (hgone : ∀ p ∈ c.producers, p.present = false) :
      Goes c .close [] { c with phase := .draining }
  | stop (hphase : c.phase = .draining)
      (hreaped : ∀ t ∈ c.tasks, ∃ outcome, t.standing = .reaped outcome) :
      Goes c .stop [] { c with phase := .over }

theorem isReaped_iff {standing : Standing} :
    standing.isReaped ↔ ∃ outcome, standing = .reaped outcome := by
  cases standing <;> simp [Standing.isReaped]

/-- What goes is what the channel does in that step. -/
theorem step?_of_goes (h : c.Goes step sent c') :
    c.step? step = some c' ∧ (c.sent? step).toList = sent := by
  cases h with
  | subscribe plan hidle => simp [step?, sent?, hidle]
  | clone plan hpresent => simp [step?, sent?, hpresent]
  | publish hp hphase hroom => simp [step?, sent?, hp, send?, setProducer, hphase, hroom]
  | discard hp hphase => simp [step?, sent?, hp, send?, setProducer, hphase]
  | leave hp => simp [step?, sent?, hp]
  | start hidle => simp [step?, sent?, hidle]
  | drop hidle => simp [step?, sent?, hidle]
  | receive hphase hqueue => simp [step?, sent?, hphase, hqueue]
  | finish outcome ht => simp [step?, sent?, ht]
  | reap hreaps ht => simp [step?, sent?, ht, hreaps]
  | close hphase hqueue hgone => simp [step?, sent?, hphase, hqueue]; exact hgone
  | stop hphase hreaped =>
    have hall : c.tasks.all (·.standing.isReaped) :=
      List.all_eq_true.mpr fun t ht => isReaped_iff.mpr (hreaped t ht)
    simp [step?, sent?, hphase, hall]

/-- Each step that the channel can take goes. -/
theorem goes_of_step? (h : c.step? step = some c') : c.Goes step (c.sent? step).toList c' := by
  cases step with
  | subscribe plan =>
    obtain ⟨hidle, rfl⟩ : c.phase = .idle ∧ _ := by simpa [step?] using h
    exact .subscribe plan hidle
  | clone i plan =>
    obtain ⟨hpresent, rfl⟩ : c.hasProducer i ∧ _ := by simpa [step?] using h
    exact .clone plan hpresent
  | publish i =>
    simp only [step?] at h
    split at h
    · next event rest hp =>
      simp only [sent?, hp, Option.bind_some, List.head?_cons, Option.map_some,
        Option.toList_some]
      unfold send? at h
      split at h
      · next hphase =>
        obtain rfl := Option.some.inj h
        exact .discard hp hphase
      · next hphase =>
        split at h
        · next hroom =>
          obtain rfl := Option.some.inj h
          exact .publish hp hphase hroom
        · cases h
    · cases h
  | leave i =>
    simp only [step?] at h
    split at h
    · next hp =>
      obtain rfl := Option.some.inj h
      exact .leave hp
    · cases h
  | start =>
    obtain ⟨hidle, rfl⟩ : c.phase = .idle ∧ _ := by simpa [step?] using h
    exact .start hidle
  | drop =>
    obtain ⟨hidle, rfl⟩ : c.phase = .idle ∧ _ := by simpa [step?] using h
    exact .drop hidle
  | receive =>
    simp only [step?] at h
    split at h
    · next hphase hqueue =>
      obtain rfl := Option.some.inj h
      exact .receive hphase hqueue
    · cases h
  | finish k outcome =>
    simp only [step?] at h
    split at h
    · next ht =>
      obtain rfl := Option.some.inj h
      exact .finish outcome ht
    · cases h
  | reap k =>
    simp only [step?] at h
    split at h
    · next ht =>
      obtain ⟨hreaps, rfl⟩ : c.reaps ∧ _ := by simpa using h
      exact .reap hreaps ht
    · cases h
  | close =>
    simp only [step?] at h
    split at h
    · next hready =>
      obtain rfl := Option.some.inj h
      exact .close hready.1 hready.2.1 (by simpa using hready.2.2)
    · cases h
  | stop =>
    simp only [step?] at h
    split at h
    · next hready =>
      obtain rfl := Option.some.inj h
      exact .stop hready.1 fun t ht => isReaped_iff.mp (List.all_eq_true.mp hready.2 t ht)
    · cases h

theorem goes_iff : c.Goes step sent c' ↔ c.step? step = some c' ∧ (c.sent? step).toList = sent := by
  constructor
  · exact step?_of_goes
  · rintro ⟨h, rfl⟩
    exact goes_of_step? h

end Channel

namespace Scene

variable {s s' : Scene α} {step : Channel.Step α} {steps more : List (Channel.Step α)}

/-- The scene after a step, if the step is possible. -/
def step? (s : Scene α) (step : Channel.Step α) : Option (Scene α) :=
  (s.channel.step? step).map fun c => ⟨s.published ++ (s.channel.sent? step).toList, c⟩

/-- The scene after some steps, if each is possible when it is taken. -/
def after? (s : Scene α) (steps : List (Channel.Step α)) : Option (Scene α) :=
  steps.foldlM step? s

theorem step?_eq_some_iff :
    s.step? step = some s' ↔
      ∃ sent, s.channel.Goes step sent s'.channel ∧ s'.published = s.published ++ sent := by
  unfold step?
  constructor
  · intro h
    obtain ⟨c, hc, rfl⟩ := Option.map_eq_some_iff.mp h
    exact ⟨_, Channel.goes_iff.mpr ⟨hc, rfl⟩, rfl⟩
  · rintro ⟨sent, hgoes, hpublished⟩
    obtain ⟨hc, rfl⟩ := Channel.goes_iff.mp hgoes
    simp [hc, ← hpublished]

theorem after?_append : s.after? (steps ++ more) = (s.after? steps).bind (·.after? more) := by
  unfold after?
  rw [List.foldlM_append]
  rfl

theorem after?_singleton : s.after? [step] = s.step? step := by
  simp [after?]

theorem after?_cons (h : s.after? (step :: steps) = some s') :
    ∃ between, s.step? step = some between ∧ between.after? steps = some s' := by
  unfold after? at h
  rw [List.foldlM_cons] at h
  exact Option.bind_eq_some_iff.mp h

theorem after?_cons_of_goes {log sent : List (Nat × α)} {c c' : Channel α}
    (h : c.Goes step sent c') :
    Scene.after? ⟨log, c⟩ (step :: steps) = Scene.after? ⟨log ++ sent, c'⟩ steps := by
  have hstep : Scene.step? ⟨log, c⟩ step = some ⟨log ++ sent, c'⟩ :=
    step?_eq_some_iff.mpr ⟨sent, h, rfl⟩
  unfold after?
  rw [List.foldlM_cons, hstep]
  rfl

end Scene

/-- What a channel comes to by some steps, with what was published. -/
def course (buffer : Nat) (plans : List (List α)) (steps : List (Channel.Step α)) :
    Option (Scene α) :=
  Scene.after? ⟨[], .new buffer plans⟩ steps

/-- What holds of a new channel and is kept by each step holds after every course. -/
theorem course_induction {buffer : Nat} {plans : List (List α)}
    {P : List (Channel.Step α) → Scene α → Prop} (hnew : P [] ⟨[], .new buffer plans⟩)
    (hstep : ∀ {steps log c step sent c'}, P steps ⟨log, c⟩ → Channel.Goes c step sent c' →
      P (steps ++ [step]) ⟨log ++ sent, c'⟩)
    {steps : List (Channel.Step α)} {s : Scene α} (h : course buffer plans steps = some s) :
    P steps s := by
  induction steps using List.reverseRecOn generalizing s with
  | nil =>
    obtain rfl := Option.some.inj h
    exact hnew
  | append_singleton steps step ih =>
    unfold course at h
    rw [Scene.after?_append] at h
    obtain ⟨before, hbefore, hlast⟩ := Option.bind_eq_some_iff.mp h
    rw [Scene.after?_singleton] at hlast
    obtain ⟨sent, hgoes, hpublished⟩ := Scene.step?_eq_some_iff.mp hlast
    obtain ⟨published, c'⟩ := s
    obtain rfl : published = _ := hpublished
    exact hstep (ih hbefore) hgoes

end Checkout.Events
