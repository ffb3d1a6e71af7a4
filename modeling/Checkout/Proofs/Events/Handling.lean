-- The laws of a channel for events, in whatever order producers publish and
-- go, the listener receives, and tasks end or fail: each event that was
-- published gets one task, in the order of publishing, and the listener does
-- not return before every one of them has ended.
import Checkout.Proofs.Events.Order

namespace Checkout.Events

variable {α : Type}

/-! ## Other outcomes -/

/-- A step as it would be if the tasks ended in other ways. -/
def Channel.Step.judge (verdict : Nat → Outcome) : Channel.Step α → Channel.Step α
  | .finish task _ => .finish task (verdict task)
  | act => act

def Standing.judge (verdict : Outcome) : Standing → Standing
  | .running => .running
  | .ended _ => .ended verdict
  | .reaped _ => .reaped verdict

/-- A channel as it would be if its tasks had ended in other ways. -/
def Channel.judge (verdict : Nat → Outcome) (c : Channel α) : Channel α :=
  { c with tasks := c.tasks.mapIdx fun k t => ⟨t.event, t.standing.judge (verdict k)⟩ }

def Scene.judge (verdict : Nat → Outcome) (s : Scene α) : Scene α :=
  ⟨s.published, s.channel.judge verdict⟩

section Judge

variable {verdict : Nat → Outcome} {log sent : List (Nat × α)} {c c' : Channel α}
  {act : Channel.Step α} {steps : List (Channel.Step α)} {s s' : Scene α}

theorem judge_getElem? (verdict : Nat → Outcome) (c : Channel α) (k : Nat) :
    (c.judge verdict).tasks[k]? =
      (c.tasks[k]?).map fun t => ⟨t.event, t.standing.judge (verdict k)⟩ := by
  simp [Channel.judge]

theorem judge_setTask (verdict : Nat → Outcome) (c : Channel α) (k : Nat) (t : Task α) :
    (c.setTask k t).judge verdict =
      (c.judge verdict).setTask k ⟨t.event, t.standing.judge (verdict k)⟩ := by
  simp [Channel.judge, Channel.setTask, List.mapIdx_set]

/-- What a step needs is not about how other tasks ended. -/
theorem goes_judge (verdict : Nat → Outcome) (h : c.Goes act sent c') :
    (c.judge verdict).Goes (act.judge verdict) sent (c'.judge verdict) := by
  cases h with
  | subscribe plan hidle => exact .subscribe plan hidle
  | clone plan hpresent => exact .clone plan hpresent
  | publish hp hphase hroom => exact .publish hp hphase hroom
  | discard hp hphase => exact .discard hp hphase
  | leave hp => exact .leave hp
  | start hidle => exact .start hidle
  | drop hidle => exact .drop hidle
  | receive hphase hqueue =>
    have hreceive := Channel.Goes.receive (c := c.judge verdict) hphase hqueue
    simpa [Channel.judge, List.mapIdx_concat, Standing.judge, Channel.Step.judge] using hreceive
  | finish outcome ht =>
    rw [judge_setTask]
    exact .finish _ (by rw [judge_getElem?, ht]; rfl)
  | reap hreaps ht =>
    rw [judge_setTask]
    exact .reap hreaps (by rw [judge_getElem?, ht]; rfl)
  | close hphase hqueue hgone => exact .close hphase hqueue hgone
  | stop hphase hreaped =>
    refine .stop hphase fun t ht => ?_
    obtain ⟨k, hk, rfl⟩ := List.mem_mapIdx.mp ht
    obtain ⟨outcome, ho⟩ := hreaped _ (List.getElem_mem hk)
    exact ⟨verdict k, by simp [ho, Standing.judge]⟩

theorem after?_judge (verdict : Nat → Outcome) (h : s.after? steps = some s') :
    (s.judge verdict).after? (steps.map (·.judge verdict)) = some (s'.judge verdict) := by
  induction steps generalizing s with
  | nil =>
    obtain rfl := Option.some.inj h
    rfl
  | cons act steps ih =>
    obtain ⟨⟨published, c'⟩, hfirst, hrest⟩ := Scene.after?_cons h
    obtain ⟨sent, hgoes, hpublished⟩ := Scene.step?_eq_some_iff.mp hfirst
    obtain rfl : published = s.published ++ sent := hpublished
    rw [List.map_cons]
    unfold Scene.judge
    rw [Scene.after?_cons_of_goes (goes_judge verdict hgoes)]
    exact ih hrest

end Judge

/-! ## The way to the end -/

section End

variable {fails : α → Bool} {log sent : List (Nat × α)} {c c' : Channel α}
  {act : Channel.Step α} {steps : List (Channel.Step α)} {s s' : Scene α} {i : Nat}

/-- A total in which one item is exchanged. -/
theorem total_set {β : Type} {items : List β} {old : β} (count : β → Nat)
    (h : items[i]? = some old) (now : β) :
    Channel.total count (items.set i now) + count old =
      Channel.total count items + count now := by
  unfold Channel.total
  induction items generalizing i with
  | nil => simp at h
  | cons item items ih =>
    cases i with
    | zero =>
      obtain rfl : item = old := by simpa using h
      simp only [List.set_cons_zero, List.foldr_cons]
      omega
    | succ i =>
      have hrest := ih (by simpa using h)
      simp only [List.set_cons_succ, List.foldr_cons]
      omega

theorem total_concat {β : Type} (count : β → Nat) (items : List β) (item : β) :
    Channel.total count (items ++ [item]) = Channel.total count items + count item := by
  unfold Channel.total
  induction items with
  | nil => simp
  | cons first items ih =>
    simp only [List.cons_append, List.foldr_cons, ih]
    omega

/-- Each step other than a producer's joining leads on to the end. -/
theorem stepsLeft_lt (h : c.Goes act sent c') (hact : act.plan? = none) :
    c'.stepsLeft < c.stepsLeft := by
  unfold Channel.stepsLeft
  cases h with
  | subscribe => simp [Channel.Step.plan?] at hact
  | clone => simp [Channel.Step.plan?] at hact
  | @publish i event rest hp =>
    have htotal := total_set Producer.stepsLeft hp ⟨rest, true⟩
    simp [Channel.setProducer, Producer.stepsLeft] at htotal ⊢
    omega
  | @discard i event rest hp =>
    have htotal := total_set Producer.stepsLeft hp ⟨rest, true⟩
    simp [Channel.setProducer, Producer.stepsLeft] at htotal ⊢
    omega
  | @leave i unsent hp =>
    have htotal := total_set Producer.stepsLeft hp ⟨unsent, false⟩
    simp [Channel.setProducer, Producer.stepsLeft] at htotal ⊢
    omega
  | start hidle => simp [hidle, Phase.stepsLeft]
  | drop hidle =>
    simp only [hidle, Phase.stepsLeft, List.length_nil]
    omega
  | receive hphase hqueue =>
    simp [hqueue, total_concat, Standing.stepsLeft]
    omega
  | @finish k event outcome ht =>
    have htotal := total_set (·.standing.stepsLeft) ht ⟨event, .ended outcome⟩
    simp [Channel.setTask, Standing.stepsLeft] at htotal ⊢
    omega
  | @reap k event outcome _ ht =>
    have htotal := total_set (·.standing.stepsLeft) ht ⟨event, .reaped outcome⟩
    simp [Channel.setTask, Standing.stepsLeft] at htotal ⊢
    omega
  | close hphase => simp [hphase, Phase.stepsLeft]
  | stop hphase => simp [hphase, Phase.stepsLeft]

theorem capacity_of_goes (h : c.Goes act sent c') : c'.capacity = c.capacity := by
  cases h <;> rfl

/-- The listener is dropped only by being dropped. -/
theorem phase_ne_dropped (h : c.Goes act sent c') (hact : act ≠ .drop) (hc : c.phase ≠ .dropped) :
    c'.phase ≠ .dropped := by
  cases h with
  | drop => exact absurd rfl hact
  | start => simp
  | close => simp
  | stop => simp
  | subscribe => exact hc
  | clone => exact hc
  | publish => exact hc
  | discard => exact hc
  | leave => exact hc
  | receive => exact hc
  | finish => exact hc
  | reap => exact hc

theorem exists_of_findIdx? {β : Type} {items : List β} {meets : β → Bool}
    (h : items.findIdx? meets = some i) : ∃ item, items[i]? = some item ∧ meets item = true := by
  obtain ⟨hlt, hmeets, -⟩ := List.findIdx?_eq_some_iff_getElem.mp h
  exact ⟨items[i], List.getElem?_eq_getElem hlt, hmeets⟩

/-- The step is the next one, and it leads on: nobody joins, and the listener is not dropped. -/
structure LeadsOn (fails : α → Bool) (c : Channel α) (act : Channel.Step α)
    (sent : List (Nat × α)) (c' : Channel α) : Prop where
  next : c.nextStep? fails = some act
  goes : c.Goes act sent c'
  joinless : act.plan? = none
  stays : act ≠ .drop

/-- A listener takes what waits, lets the producers publish, waits for them to go, and then
hears that no event will come. -/
theorem leadsOn_of_listening (fails : α → Bool) (hcapacity : 0 < c.capacity)
    (hphase : c.phase = .listening) : ∃ act sent c', LeadsOn fails c act sent c' := by
  cases hqueue : c.queue with
  | cons event rest =>
    have hnext : c.nextStep? fails = some .receive := by
      simp [Channel.nextStep?, hphase, hqueue]
    exact ⟨_, _, _, hnext, .receive hphase hqueue, rfl, by simp⟩
  | nil =>
    cases hi : c.producers.findIdx? fun p => p.present && !p.unsent.isEmpty with
    | some i =>
      have hnext : c.nextStep? fails = some (.publish i) := by
        simp [Channel.nextStep?, hphase, hqueue, hi]
      obtain ⟨⟨unsent, present⟩, hfound, hp⟩ := exists_of_findIdx? hi
      cases unsent with
      | nil => simp at hp
      | cons event rest =>
        obtain rfl : present = true := by simpa using hp
        exact ⟨_, _, _, hnext, .publish hfound (by simp [hphase]) (by simpa [hqueue]), rfl, by simp⟩
    | none =>
      cases hj : c.producers.findIdx? (·.present) with
      | some j =>
        have hnext : c.nextStep? fails = some (.leave j) := by
          simp [Channel.nextStep?, hphase, hqueue, hi, hj]
        obtain ⟨⟨unsent, present⟩, hfound, hp⟩ := exists_of_findIdx? hj
        obtain rfl : present = true := hp
        exact ⟨_, _, _, hnext, .leave hfound, rfl, by simp⟩
      | none =>
        have hnext : c.nextStep? fails = some .close := by
          simp [Channel.nextStep?, hphase, hqueue, hi, hj]
        have hgone : ∀ p ∈ c.producers, p.present = false := by
          simpa using List.findIdx?_eq_none_iff.mp hj
        exact ⟨_, _, _, hnext, .close hphase hqueue hgone, rfl, by simp⟩

/-- A listener that drains lets each task end and reaps it, and then returns. -/
theorem leadsOn_of_draining (fails : α → Bool) (hphase : c.phase = .draining) :
    ∃ act sent c', LeadsOn fails c act sent c' := by
  cases hk : c.tasks.findIdx? (!·.standing.isReaped) with
  | some k =>
    obtain ⟨⟨event, standing⟩, hfound, hnot⟩ := exists_of_findIdx? hk
    cases standing with
    | running =>
      let outcome : Outcome := if fails event then .failed else .handled
      have hnext : c.nextStep? fails = some (.finish k outcome) := by
        simp [Channel.nextStep?, hphase, hk, hfound, outcome]
      exact ⟨_, _, _, hnext, .finish outcome hfound, rfl, by simp⟩
    | ended outcome =>
      have hnext : c.nextStep? fails = some (.reap k) := by
        simp [Channel.nextStep?, hphase, hk, hfound]
      have hreaps : c.reaps := by simp [Channel.reaps, hphase]
      exact ⟨_, _, _, hnext, .reap hreaps hfound, rfl, by simp⟩
    | reaped outcome => simp [Standing.isReaped] at hnot
  | none =>
    have hnext : c.nextStep? fails = some .stop := by simp [Channel.nextStep?, hphase, hk]
    have hreaped : ∀ t ∈ c.tasks, ∃ outcome, t.standing = .reaped outcome := by
      intro t ht
      apply Channel.isReaped_iff.mp
      simpa using List.findIdx?_eq_none_iff.mp hk t ht
    exact ⟨_, _, _, hnext, .stop hphase hreaped, rfl, by simp⟩

/-- As long as the listener has not returned, there is a step that leads on. -/
theorem exists_leadsOn (fails : α → Bool) (hcapacity : 0 < c.capacity) (hover : c.phase ≠ .over)
    (hdropped : c.phase ≠ .dropped) : ∃ act sent c', LeadsOn fails c act sent c' := by
  match hphase : c.phase with
  | .idle =>
    have hnext : c.nextStep? fails = some .start := by simp [Channel.nextStep?, hphase]
    exact ⟨_, _, _, hnext, .start hphase, rfl, by simp⟩
  | .listening => exact leadsOn_of_listening fails hcapacity hphase
  | .draining => exact leadsOn_of_draining fails hphase
  | .over => exact absurd hphase hover
  | .dropped => exact absurd hphase hdropped

/-- A run is made of steps, and at its end the listener has returned. -/
theorem runFor_over (fails : α → Bool) (n : Nat) (log : List (Nat × α)) (c : Channel α)
    (hleft : c.stepsLeft ≤ n) (hcapacity : 0 < c.capacity) (hdropped : c.phase ≠ .dropped) :
    ∃ more published, Scene.after? ⟨log, c⟩ more = some ⟨published, c.runFor fails n⟩ ∧
      (c.runFor fails n).phase = .over := by
  induction n generalizing log c with
  | zero =>
    have hover : c.phase = .over := by
      by_contra hover
      obtain ⟨act, sent, c', hleads⟩ := exists_leadsOn fails hcapacity hover hdropped
      have := stepsLeft_lt hleads.goes hleads.joinless
      omega
    exact ⟨[], log, rfl, hover⟩
  | succ n ih =>
    by_cases hover : c.phase = .over
    · have hstays : c.runFor fails (n + 1) = c := by
        simp [Channel.runFor, Channel.nextStep?, hover]
      exact ⟨[], log, by rw [hstays]; rfl, by rw [hstays, hover]⟩
    · obtain ⟨act, sent, c', hnext, hgoes, hjoinless, hstays⟩ :=
        exists_leadsOn fails hcapacity hover hdropped
      have hless := stepsLeft_lt hgoes hjoinless
      have hruns : c.runFor fails (n + 1) = c'.runFor fails n := by
        simp [Channel.runFor, hnext, (Channel.goes_iff.mp hgoes).1]
      obtain ⟨more, published, hmore, hend⟩ := ih (log ++ sent) c' (by omega)
        (by rwa [capacity_of_goes hgoes]) (phase_ne_dropped hgoes hstays hdropped)
      refine ⟨act :: more, published, ?_, by rwa [hruns]⟩
      rw [hruns, Scene.after?_cons_of_goes hgoes, hmore]

/-- Without further producers, any course is at its end after so many steps. -/
theorem after?_length_le (hplan : ∀ act ∈ steps, act.plan? = none)
    (h : s.after? steps = some s') : steps.length + s'.channel.stepsLeft ≤ s.channel.stepsLeft := by
  induction steps generalizing s with
  | nil =>
    obtain rfl := Option.some.inj h
    simp
  | cons act steps ih =>
    obtain ⟨between, hfirst, hrest⟩ := Scene.after?_cons h
    obtain ⟨sent, hgoes, -⟩ := Scene.step?_eq_some_iff.mp hfirst
    have hless := stepsLeft_lt hgoes (hplan act List.mem_cons_self)
    have hlater := ih (fun act hact => hplan act (List.mem_cons_of_mem _ hact)) hrest
    rw [List.length_cons]
    omega

/-- Once the listener has returned, nothing can happen any more. -/
theorem step?_of_over (h : Phased c) (hover : c.phase = .over) (act : Channel.Step α) :
    c.step? act = none := by
  by_contra hstep
  obtain ⟨c', hc'⟩ := Option.ne_none_iff_exists'.mp hstep
  obtain ⟨sent, hgoes⟩ : ∃ sent, c.Goes act sent c' := ⟨_, Channel.goes_iff.mpr ⟨hc', rfl⟩⟩
  have hpresent {p : Producer α} {i : Nat} (hp : c.producers[i]? = some p)
      (hpresent : p.present = true) : False :=
    h.not_silent (List.mem_of_getElem? hp) hpresent (.inr hover)
  have hreaped {t : Task α} {k : Nat} (ht : c.tasks[k]? = some t)
      (hnot : t.standing.isReaped = false) : False :=
    (h.of_unreaped (List.mem_of_getElem? ht) hnot).2 hover
  cases hgoes with
  | subscribe plan hidle => simp [hover] at hidle
  | clone plan hhas =>
    obtain ⟨p, hp, htrue⟩ := (Option.any_eq_true _ _).mp hhas
    exact hpresent hp htrue
  | publish hp => exact hpresent hp rfl
  | discard hp => exact hpresent hp rfl
  | leave hp => exact hpresent hp rfl
  | start hidle => simp [hover] at hidle
  | drop hidle => simp [hover] at hidle
  | receive hphase => simp [hover] at hphase
  | finish outcome ht => exact hreaped ht rfl
  | reap _ ht => exact hreaped ht rfl
  | close hphase => simp [hover] at hphase
  | stop hphase => simp [hover] at hphase

end End

/-! ## The laws -/

/-- What holds of a channel after any steps. -/
structure Handling (buffer : Nat) (plans : List (List α)) (steps : List (Channel.Step α))
    (s : Scene α) : Prop where
  /-- Each producer, one that joined later too, has published the first events of its plan. -/
  planned : plans ++ steps.filterMap Channel.Step.plan? =
    s.channel.producers.mapIdx fun i p => sentBy i s.published ++ p.unsent
  /-- No more events wait than there is room for. -/
  bounded : s.channel.queue.length ≤ max buffer 1
  /-- What was published was received or waits. -/
  fifo : s.channel.phase ≠ .dropped →
    s.published.map (·.2) = s.channel.tasks.map (·.event) ++ s.channel.queue
  /-- The tasks are for the events that were published first, in the order of each producer. -/
  inOrder : ∃ received, received <+: s.published ∧
    s.channel.tasks.map (·.event) = received.map (·.2) ∧
    ∀ i, sentBy i received <+: sentBy i s.published
  /-- No task ends twice. -/
  once : ∀ k, endings k steps = (s.channel.outcome? k).toList
  /-- When the listener returns, every event that was published has had its task end once. -/
  complete : s.channel.phase = .over → s.channel.tasks.length = s.published.length ∧
    ∀ k (hk : k < s.published.length), ∃ outcome,
      s.channel.tasks[k]? = some ⟨s.published[k].2, .reaped outcome⟩ ∧
      endings k steps = [outcome]
  /-- Nothing comes after that. -/
  last : s.channel.phase = .over → ∀ act, s.channel.step? act = none
  /-- Had tasks failed that did not, or the other way round, all else would have gone the same
  way. -/
  unswayed : ∀ verdict, course buffer plans (steps.map (·.judge verdict)) = some (s.judge verdict)
  /-- Without further producers it does not go on for ever. -/
  runsOut : ∀ more s', (∀ act ∈ more, act.plan? = none) → s.after? more = some s' →
    more.length ≤ s.channel.stepsLeft
  /-- Whichever tasks fail, the listener can still return. -/
  ends : s.channel.phase ≠ .dropped → ∀ fails, ∃ more published,
    course buffer plans (steps ++ more) = some ⟨published, s.channel.run fails⟩ ∧
    (s.channel.run fails).phase = .over

section Laws

variable {buffer : Nat} {plans : List (List α)} {steps : List (Channel.Step α)} {s : Scene α}

theorem planned_after (h : course buffer plans steps = some s) :
    Planned (plans ++ steps.filterMap Channel.Step.plan?) s := by
  refine course_induction (P := fun steps s =>
    Planned (plans ++ steps.filterMap Channel.Step.plan?) s) ?_ ?_ h
  · simpa using Planned.new buffer plans
  · intro steps log c act sent c' hplanned hgoes
    have hstep := hplanned.step hgoes
    cases hplan : act.plan? <;> simpa [hplan] using hstep

theorem lined_after (h : course buffer plans steps = some s) : Lined buffer s :=
  course_induction (P := fun _ s => Lined buffer s) (Lined.new buffer plans) Lined.step h

theorem phased_after (h : course buffer plans steps = some s) : Phased s.channel :=
  course_induction (P := fun _ s => Phased s.channel) (Phased.new buffer plans) Phased.step h

theorem endedOnce_after (h : course buffer plans steps = some s) : EndedOnce steps s.channel :=
  course_induction (P := fun steps s => EndedOnce steps s.channel) (EndedOnce.new buffer plans)
    EndedOnce.step h

/-- What has been received is the beginning of what was published. -/
theorem received_first (hlined : Lined buffer s) (hphased : Phased s.channel) :
    ∃ received, received <+: s.published ∧
      s.channel.tasks.map (·.event) = received.map (·.2) := by
  by_cases hdropped : s.channel.phase = .dropped
  · exact ⟨[], List.nil_prefix, by simp [hphased.unstarted (.inr hdropped)]⟩
  · refine ⟨s.published.take s.channel.tasks.length, List.take_prefix _ _, ?_⟩
    rw [List.map_take, hlined.fifo hdropped]
    exact (List.take_left' (by simp)).symm

/-- Once the listener has returned, each event that was published has a task that has ended. -/
theorem complete_of_over (hlined : Lined buffer s) (hphased : Phased s.channel)
    (honce : EndedOnce steps s.channel) (hover : s.channel.phase = .over) :
    s.channel.tasks.length = s.published.length ∧
      ∀ k (hk : k < s.published.length), ∃ outcome,
        s.channel.tasks[k]? = some ⟨s.published[k].2, .reaped outcome⟩ ∧
        endings k steps = [outcome] := by
  have hall : s.published.map (·.2) = s.channel.tasks.map (·.event) := by
    have hfifo := hlined.fifo (by simp [hover])
    simpa [(hphased.silent (.inr hover)).1] using hfifo
  have hlength : s.channel.tasks.length = s.published.length := by
    simpa using (congrArg List.length hall).symm
  refine ⟨hlength, fun k hk => ?_⟩
  have hlt : k < s.channel.tasks.length := by omega
  obtain ⟨outcome, hreaped⟩ := hphased.reaped hover _ (List.getElem_mem hlt)
  have hevent : s.published[k].2 = s.channel.tasks[k].event := by
    simpa [hk, hlt] using congrArg (·[k]?) hall
  refine ⟨outcome, ?_, ?_⟩
  · rw [List.getElem?_eq_getElem hlt, hevent, ← hreaped]
  · rw [honce k]
    simp [Channel.outcome?, hlt, hreaped, Standing.outcome?]

/-- Each event that is published is handled once, those of one producer in order, and the
listener returns only after that, whatever happens in between. -/
theorem every_event_is_handled_once_before_shutdown (buffer : Nat) (plans : List (List α))
    (steps : List (Channel.Step α)) (s : Scene α) (h : course buffer plans steps = some s) :
    Handling buffer plans steps s := by
  have hlined := lined_after h
  have hphased := phased_after h
  have honce := endedOnce_after h
  obtain ⟨received, hfirst, htasks⟩ := received_first hlined hphased
  exact {
    planned := (planned_after h).split
    bounded := hlined.capacity ▸ hlined.bounded
    fifo := hlined.fifo
    inOrder := ⟨received, hfirst, htasks, sentBy_prefix hfirst⟩
    once := honce
    complete := complete_of_over hlined hphased honce
    last := step?_of_over hphased
    unswayed := fun verdict => after?_judge verdict h
    runsOut := fun more s' hplan hmore => by
      have := after?_length_le hplan hmore
      omega
    ends := fun hdropped fails => by
      have hcapacity : 0 < s.channel.capacity := by
        rw [hlined.capacity]
        omega
      obtain ⟨more, published, hmore, hover⟩ :=
        runFor_over fails _ s.published s.channel (Nat.le_refl _) hcapacity hdropped
      refine ⟨more, published, ?_, hover⟩
      unfold course at h ⊢
      rw [Scene.after?_append, h]
      exact hmore }

/-- Two producers share a buffer without room of its own. The first task fails, one producer
goes with an event unpublished, and the two other events are handled all the same. -/
theorem a_failed_task_holds_nothing_up :
    let steps : List (Channel.Step Nat) :=
      [.publish 0, .start, .receive, .publish 1, .finish 0 .failed, .leave 1, .receive, .reap 0,
        .publish 0, .leave 0, .receive, .finish 2 .handled, .close, .reap 2, .finish 1 .handled,
        .reap 1, .stop]
    let s : Scene Nat :=
      ⟨[(0, 10), (1, 20), (0, 11)],
        ⟨1, .over, [⟨[], false⟩, ⟨[21], false⟩], [],
          [⟨10, .reaped .failed⟩, ⟨20, .reaped .handled⟩, ⟨11, .reaped .handled⟩]⟩⟩
    s.channel.handled = [20, 11] ∧ Handling 0 [[10, 11], [20, 21]] steps s :=
  ⟨by decide, every_event_is_handled_once_before_shutdown _ _ _ _ (by decide)⟩

end Laws

end Checkout.Events
