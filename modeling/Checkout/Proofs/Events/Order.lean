-- What a channel for events keeps up with each step: every producer publishes
-- its plan in order, what was published first is received first, no task ends
-- twice, and each phase has behind it what came before.
import Checkout.Proofs.Events.Course

namespace Checkout.Events

variable {α : Type}

/-! ## Each producer in its own order -/

/-- What one producer has published, oldest first. -/
def sentBy (i : Nat) (published : List (Nat × α)) : List α :=
  (published.filter (·.1 = i)).map (·.2)

theorem sentBy_append (i : Nat) (earlier later : List (Nat × α)) :
    sentBy i (earlier ++ later) = sentBy i earlier ++ sentBy i later := by
  simp [sentBy]

theorem sentBy_prefix {earlier later : List (Nat × α)} (h : earlier <+: later) (i : Nat) :
    sentBy i earlier <+: sentBy i later := by
  obtain ⟨rest, rfl⟩ := h
  rw [sentBy_append]
  exact List.prefix_append _ _

/-- Each producer has published the first events of its plan, and has the others left. -/
structure Planned (plans : List (List α)) (s : Scene α) : Prop where
  known : ∀ entry ∈ s.published, entry.1 < s.channel.producers.length
  split : plans = s.channel.producers.mapIdx fun i p => sentBy i s.published ++ p.unsent

namespace Planned

variable {plans : List (List α)} {log sent : List (Nat × α)} {c c' : Channel α}
  {act : Channel.Step α} {i : Nat}

theorem new (buffer : Nat) (plans : List (List α)) : Planned plans ⟨[], .new buffer plans⟩ where
  known := by simp
  split := by
    apply List.ext_getElem?
    intro i
    cases hplan : plans[i]? <;> simp [Channel.new, sentBy, hplan]

theorem join (h : Planned plans ⟨log, c⟩) (plan : List α) :
    Planned (plans ++ [plan]) ⟨log ++ [], c.join plan⟩ where
  known := by
    intro entry he
    have hknown : entry.1 < c.producers.length := h.known entry (by simpa using he)
    simp [Channel.join]
    omega
  split := by
    have hfresh : sentBy c.producers.length log = [] := by
      simp only [sentBy, List.map_eq_nil_iff, List.filter_eq_nil_iff, decide_eq_true_eq]
      intro entry he hi
      have hknown : entry.1 < c.producers.length := h.known entry he
      omega
    rw [h.split]
    simp [Channel.join, List.mapIdx_concat, hfresh]

/-- A producer publishes an event, or goes; what it published and what it has left still make
up its plan. -/
theorem setProducer {p now : Producer α} (h : Planned plans ⟨log, c⟩)
    (hp : c.producers[i]? = some p) (hsent : ∀ entry ∈ sent, entry.1 = i)
    (hnow : sentBy i sent ++ now.unsent = p.unsent) :
    Planned (plans ++ []) ⟨log ++ sent, c.setProducer i now⟩ where
  known := by
    obtain ⟨hi, -⟩ := List.getElem?_eq_some_iff.mp hp
    intro entry he
    rcases List.mem_append.mp he with he | he
    · simpa [Channel.setProducer] using h.known entry he
    · simpa [Channel.setProducer, hsent entry he] using hi
  split := by
    rw [List.append_nil, h.split]
    apply List.ext_getElem?
    intro j
    simp only [Channel.setProducer, List.getElem?_mapIdx, List.getElem?_set]
    by_cases hj : i = j
    · obtain rfl := hj
      obtain ⟨hi, hp⟩ := List.getElem?_eq_some_iff.mp hp
      simp [hi, hp, sentBy_append, hnow]
    · have hother : sentBy j sent = [] := by
        simp only [sentBy, List.map_eq_nil_iff, List.filter_eq_nil_iff, decide_eq_true_eq]
        intro entry he hji
        exact hj ((hsent entry he).symm.trans hji)
      simp [hj, sentBy_append, hother]

theorem publish {event : α} {rest : List α} (h : Planned plans ⟨log, c⟩)
    (hp : c.producers[i]? = some ⟨event :: rest, true⟩) :
    Planned (plans ++ []) ⟨log ++ [(i, event)], c.setProducer i ⟨rest, true⟩⟩ :=
  h.setProducer hp (by simp) (by simp [sentBy])

theorem of_producers (h : Planned plans ⟨log, c⟩) (hproducers : c'.producers = c.producers) :
    Planned (plans ++ []) ⟨log ++ [], c'⟩ :=
  ⟨by simpa [hproducers] using h.known, by simpa [hproducers] using h.split⟩

theorem step (h : Planned plans ⟨log, c⟩) (hgoes : c.Goes act sent c') :
    Planned (plans ++ act.plan?.toList) ⟨log ++ sent, c'⟩ := by
  cases hgoes with
  | subscribe plan => exact h.join plan
  | clone plan => exact h.join plan
  | publish hp => exact ⟨(h.publish hp).known, (h.publish hp).split⟩
  | discard hp => exact h.publish hp
  | leave hp => exact h.setProducer hp (by simp) (by simp [sentBy])
  | start => exact h.of_producers rfl
  | drop => exact h.of_producers rfl
  | receive => exact h.of_producers rfl
  | finish => exact h.of_producers rfl
  | reap => exact h.of_producers rfl
  | close => exact h.of_producers rfl
  | stop => exact h.of_producers rfl

end Planned

/-! ## First in, first out -/

/-- What was published was received or waits, in order, and no more wait than there is
room for. -/
structure Lined (buffer : Nat) (s : Scene α) : Prop where
  capacity : s.channel.capacity = max buffer 1
  bounded : s.channel.queue.length ≤ s.channel.capacity
  fifo : s.channel.phase ≠ .dropped →
    s.published.map (·.2) = s.channel.tasks.map (·.event) ++ s.channel.queue

namespace Lined

variable {buffer : Nat} {plans : List (List α)} {log sent : List (Nat × α)} {c c' : Channel α}
  {act : Channel.Step α} {k : Nat}

theorem new (buffer : Nat) (plans : List (List α)) : Lined buffer ⟨[], .new buffer plans⟩ where
  capacity := by simp [Channel.new]
  bounded := by simp [Channel.new]
  fifo := by simp [Channel.new]

/-- What a task comes to leaves its event as it was. -/
theorem setTask {t now : Task α} (h : Lined buffer ⟨log, c⟩) (ht : c.tasks[k]? = some t)
    (hnow : now.event = t.event) : Lined buffer ⟨log ++ [], c.setTask k now⟩ where
  capacity := h.capacity
  bounded := h.bounded
  fifo hphase := by
    have hevents : (c.tasks.set k now).map (·.event) = c.tasks.map (·.event) := by
      obtain ⟨hk, rfl⟩ := List.getElem?_eq_some_iff.mp ht
      rw [List.map_set, hnow, ← List.getElem_map Task.event (h := by simpa using hk)]
      exact List.set_getElem_self _
    simpa [Channel.setTask, hevents] using h.fifo hphase

theorem step (h : Lined buffer ⟨log, c⟩) (hgoes : c.Goes act sent c') :
    Lined buffer ⟨log ++ sent, c'⟩ := by
  obtain ⟨hcapacity, hbounded, hfifo⟩ := h
  simp only at hcapacity hbounded hfifo
  cases hgoes with
  | subscribe => exact ⟨hcapacity, hbounded, by simpa [Channel.join] using hfifo⟩
  | clone => exact ⟨hcapacity, hbounded, by simpa [Channel.join] using hfifo⟩
  | publish hp hphase hroom =>
    refine ⟨hcapacity, ?_, ?_⟩
    · simpa [Channel.setProducer, Nat.succ_le_iff] using hroom
    · simp [Channel.setProducer, hfifo hphase]
  | discard hp hphase => exact ⟨hcapacity, hbounded, fun h => absurd hphase h⟩
  | leave => exact ⟨hcapacity, hbounded, by simpa [Channel.setProducer] using hfifo⟩
  | start hidle => exact ⟨hcapacity, hbounded, fun _ => by simpa using hfifo (by simp [hidle])⟩
  | drop => exact ⟨hcapacity, by simp, by simp⟩
  | receive hphase hqueue =>
    refine ⟨hcapacity, ?_, ?_⟩
    · simp only [hqueue, List.length_cons] at hbounded ⊢
      omega
    · simpa [hqueue] using hfifo
  | finish outcome ht => exact setTask ⟨hcapacity, hbounded, hfifo⟩ ht rfl
  | reap hreaps ht => exact setTask ⟨hcapacity, hbounded, hfifo⟩ ht rfl
  | close hphase => exact ⟨hcapacity, hbounded, fun _ => by simpa using hfifo (by simp [hphase])⟩
  | stop hphase => exact ⟨hcapacity, hbounded, fun _ => by simpa using hfifo (by simp [hphase])⟩

end Lined

/-! ## What each phase has behind it -/

structure Phased (c : Channel α) : Prop where
  unstarted : c.phase = .idle ∨ c.phase = .dropped → c.tasks = []
  silent : c.phase = .draining ∨ c.phase = .over →
    c.queue = [] ∧ ∀ p ∈ c.producers, p.present = false
  reaped : c.phase = .over → ∀ t ∈ c.tasks, ∃ outcome, t.standing = .reaped outcome

namespace Phased

variable {sent : List (Nat × α)} {c c' : Channel α} {act : Channel.Step α} {i k : Nat}

theorem new (buffer : Nat) (plans : List (List α)) : Phased (.new buffer plans) where
  unstarted := by simp [Channel.new]
  silent := by simp [Channel.new]
  reaped := by simp [Channel.new]

/-- While a producer is there, the channel is not at its end. -/
theorem not_silent {p : Producer α} (h : Phased c) (hp : p ∈ c.producers)
    (hpresent : p.present = true) : ¬(c.phase = .draining ∨ c.phase = .over) := by
  intro hend
  have := (h.silent hend).2 p hp
  simp [hpresent] at this

/-- While a task is not reaped, it was started and the channel is not over. -/
theorem of_unreaped {t : Task α} (h : Phased c) (ht : t ∈ c.tasks)
    (hnot : t.standing.isReaped = false) :
    ¬(c.phase = .idle ∨ c.phase = .dropped) ∧ c.phase ≠ .over := by
  constructor
  · intro hphase
    simp [h.unstarted hphase] at ht
  · intro hover
    have := Channel.isReaped_iff.mpr (h.reaped hover t ht)
    simp [hnot] at this

theorem step (h : Phased c) (hgoes : c.Goes act sent c') : Phased c' := by
  cases hgoes with
  | subscribe plan hidle =>
    exact ⟨h.unstarted, by simp [Channel.join, hidle], by simp [Channel.join, hidle]⟩
  | clone plan hpresent =>
    obtain ⟨p, hp, hpresent⟩ := Option.any_eq_true _ _ |>.mp hpresent
    have hnot := h.not_silent (List.mem_of_getElem? hp) hpresent
    exact ⟨h.unstarted, fun hend => absurd hend hnot, h.reaped⟩
  | publish hp =>
    have hnot := h.not_silent (List.mem_of_getElem? hp) rfl
    exact ⟨h.unstarted, fun hend => absurd hend hnot, h.reaped⟩
  | discard hp =>
    have hnot := h.not_silent (List.mem_of_getElem? hp) rfl
    exact ⟨h.unstarted, fun hend => absurd hend hnot, h.reaped⟩
  | leave hp =>
    have hnot := h.not_silent (List.mem_of_getElem? hp) rfl
    exact ⟨h.unstarted, fun hend => absurd hend hnot, h.reaped⟩
  | start hidle => exact ⟨by simp, by simp, by simp⟩
  | drop hidle => exact ⟨fun _ => h.unstarted (.inl hidle), by simp, by simp⟩
  | receive hphase => exact ⟨by simp [hphase], by simp [hphase], by simp [hphase]⟩
  | finish outcome ht =>
    obtain ⟨hnot, hover⟩ := h.of_unreaped (List.mem_of_getElem? ht) rfl
    exact ⟨fun hphase => absurd hphase hnot, h.silent, fun hphase => absurd hphase hover⟩
  | reap hreaps ht =>
    obtain ⟨hnot, hover⟩ := h.of_unreaped (List.mem_of_getElem? ht) rfl
    exact ⟨fun hphase => absurd hphase hnot, h.silent, fun hphase => absurd hphase hover⟩
  | close hphase hqueue hgone => exact ⟨by simp, fun _ => ⟨hqueue, hgone⟩, by simp⟩
  | stop hphase hreaped =>
    exact ⟨by simp, fun _ => h.silent (.inl hphase), fun _ => hreaped⟩

end Phased

/-! ## Each task ends once -/

/-- How a task ended in some steps, each time it did. -/
def endings (task : Nat) (steps : List (Channel.Step α)) : List Outcome :=
  steps.filterMap (Channel.Step.ending? task)

/-- What a task has come to. -/
def Channel.outcome? (c : Channel α) (task : Nat) : Option Outcome :=
  (c.tasks[task]?).bind (·.standing.outcome?)

/-- What each task has come to is how it ended, and it ended no more than once. -/
def EndedOnce (steps : List (Channel.Step α)) (c : Channel α) : Prop :=
  ∀ k, endings k steps = (c.outcome? k).toList

namespace EndedOnce

variable {steps : List (Channel.Step α)} {sent : List (Nat × α)} {c c' : Channel α}
  {act : Channel.Step α} {k : Nat}

theorem endings_concat (k : Nat) (steps : List (Channel.Step α)) (act : Channel.Step α) :
    endings k (steps ++ [act]) = endings k steps ++ (act.ending? k).toList := by
  cases h : act.ending? k <;> simp [endings, h]

theorem outcome?_setTask {t : Task α} (ht : c.tasks[k]? = some t) (now : Task α) (j : Nat) :
    (c.setTask k now).outcome? j = if k = j then now.standing.outcome? else c.outcome? j := by
  obtain ⟨hk, -⟩ := List.getElem?_eq_some_iff.mp ht
  unfold Channel.outcome? Channel.setTask
  simp only [List.getElem?_set, hk, ↓reduceIte]
  split
  · rfl
  · rfl

theorem outcome?_receive (c : Channel α) (rest : List α) (event : α) (k : Nat) :
    Channel.outcome? { c with queue := rest, tasks := c.tasks ++ [⟨event, .running⟩] } k =
      c.outcome? k := by
  unfold Channel.outcome?
  rw [List.getElem?_append]
  split
  · simp
  · next hk =>
    have hnone : c.tasks[k]? = none := List.getElem?_eq_none (Nat.le_of_not_lt hk)
    cases hrest : k - c.tasks.length <;> simp [hnone, Standing.outcome?]

theorem new (buffer : Nat) (plans : List (List α)) : EndedOnce [] (.new buffer plans) := by
  intro k
  simp [endings, Channel.new, Channel.outcome?]

/-- A step in which no task ends leaves each with the outcome it had. -/
theorem of_outcomes (h : EndedOnce steps c) (hact : ∀ k, act.ending? k = none)
    (hsame : ∀ k, c'.outcome? k = c.outcome? k) : EndedOnce (steps ++ [act]) c' := by
  intro k
  rw [endings_concat, hact k, hsame k, ← h k]
  simp

theorem step (h : EndedOnce steps c) (hgoes : c.Goes act sent c') :
    EndedOnce (steps ++ [act]) c' := by
  cases hgoes with
  | subscribe => exact h.of_outcomes (fun _ => rfl) fun _ => rfl
  | clone => exact h.of_outcomes (fun _ => rfl) fun _ => rfl
  | publish => exact h.of_outcomes (fun _ => rfl) fun _ => rfl
  | discard => exact h.of_outcomes (fun _ => rfl) fun _ => rfl
  | leave => exact h.of_outcomes (fun _ => rfl) fun _ => rfl
  | start => exact h.of_outcomes (fun _ => rfl) fun _ => rfl
  | drop => exact h.of_outcomes (fun _ => rfl) fun _ => rfl
  | receive => exact h.of_outcomes (fun _ => rfl) (outcome?_receive c _ _)
  | @finish k event outcome ht =>
    intro j
    rw [endings_concat, h j, outcome?_setTask ht]
    by_cases hj : k = j
    · subst hj
      simp [Channel.outcome?, ht, Channel.Step.ending?, Standing.outcome?]
    · simp [hj, Channel.Step.ending?]
  | @reap k event outcome _ ht =>
    refine h.of_outcomes (fun _ => rfl) fun j => ?_
    rw [outcome?_setTask ht]
    split
    · next hj => simp [← hj, Channel.outcome?, ht, Standing.outcome?]
    · rfl
  | close => exact h.of_outcomes (fun _ => rfl) fun _ => rfl
  | stop => exact h.of_outcomes (fun _ => rfl) fun _ => rfl

end EndedOnce

end Checkout.Events
