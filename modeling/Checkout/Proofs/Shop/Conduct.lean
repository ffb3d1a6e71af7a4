-- How a call goes on depends on what it was told. A call obeys a rule if each
-- thing that it does keeps to it, given all that it did before, and its
-- answer fits all that it did. However the steps of the calls interleave, each
-- call still obeys.
import Checkout.Proofs.History
import Checkout.Proofs.Shop.Run

namespace Checkout

open Store Service

/-! ## Rules of conduct -/

namespace Service

variable {α β : Type} {rule : List Act → Act → Prop} {past : List Act}

/-- Whatever the flow is told, each thing that it does keeps to the rule, given what was done
before, and its value fits all that was done. -/
def Flow.Obeys (rule : List Act → Act → Prop) (outcome : List Act → α → Prop) (past : List Act) :
    Flow α → Prop
  | .done a => outcome past a
  | .ask query next => ∀ r, rule past (.asked query r) ∧
    (next r).Obeys rule outcome (past ++ [.asked query r])
  | .requestPayment user request next => ∀ r, rule past (.requested user request r) ∧
    (next r).Obeys rule outcome (past ++ [.requested user request r])
  | .fetchTransaction user key next => ∀ r, rule past (.lookedUp user key r) ∧
    (next r).Obeys rule outcome (past ++ [.lookedUp user key r])
  | .publish event next => rule past (.published event) ∧
    next.Obeys rule outcome (past ++ [.published event])

theorem Flow.Obeys.bind {middle : List Act → α → Prop} {outcome : List Act → β → Prop}
    {f : Flow α} {next : α → Flow β} (hf : f.Obeys rule middle past)
    (hnext : ∀ past a, middle past a → (next a).Obeys rule outcome past) :
    (f >>= next).Obeys rule outcome past := by
  induction f generalizing past with
  | done a => exact hnext past a hf
  | ask query rest ih => exact fun r => ⟨(hf r).1, ih r (hf r).2⟩
  | requestPayment user request rest ih => exact fun r => ⟨(hf r).1, ih r (hf r).2⟩
  | fetchTransaction user key rest ih => exact fun r => ⟨(hf r).1, ih r (hf r).2⟩
  | publish event rest ih => exact ⟨hf.1, ih hf.2⟩

theorem Flow.Obeys.imp {outcome outcome' : List Act → α → Prop} {f : Flow α}
    (hf : f.Obeys rule outcome past) (himp : ∀ past a, outcome past a → outcome' past a) :
    f.Obeys rule outcome' past := by
  induction f generalizing past with
  | done a => exact himp past a hf
  | ask query rest ih => exact fun r => ⟨(hf r).1, ih r (hf r).2⟩
  | requestPayment user request rest ih => exact fun r => ⟨(hf r).1, ih r (hf r).2⟩
  | fetchTransaction user key rest ih => exact fun r => ⟨(hf r).1, ih r (hf r).2⟩
  | publish event rest ih => exact ⟨hf.1, ih hf.2⟩

/-- What a flow does next keeps to the rule, and the rest of it still obeys. -/
theorem Flow.Obeys.step {outcome : List Act → α → Prop} {f rest : Flow α} {around : Surroundings}
    {t t' : Tables} {act : Act} (hf : f.Obeys rule outcome past)
    (h : f.step around t = some (act, rest, t')) :
    rule past act ∧ rest.Obeys rule outcome (past ++ [act]) := by
  cases f with
  | done a => cases h
  | ask query next =>
    cases h
    exact hf _
  | requestPayment user request next =>
    cases h
    exact hf _
  | fetchTransaction user key next =>
    cases h
    exact hf _
  | publish event next =>
    cases h
    exact hf

/-- The business allows it. -/
def Business.allows (b : Business) : Act → Bool
  | .asked query _ => b.mayAsk query
  | .requested _ _ _ => b == .paying
  | .lookedUp _ _ _ => b == .paying
  | .published event => b.mayPublish event

/-- What all that a business allows keeps to, and keeps up, is kept to and kept up by a flow. -/
theorem Flow.Proper.obeys {b : Business} {f : Flow α} (hf : f.Proper b)
    (keeps : List Act → Prop)
    (hallows : ∀ past act, keeps past → b.allows act = true → rule past act ∧ keeps (past ++ [act]))
    (hpast : keeps past) : f.Obeys rule (fun past _ => keeps past) past := by
  induction f generalizing past with
  | done a => exact hpast
  | ask query rest ih =>
    intro r
    obtain ⟨hrule, hkeeps⟩ := hallows past (.asked query r) hpast hf.1.1
    exact ⟨hrule, ih r (hf.2 r) hkeeps⟩
  | requestPayment user request rest ih =>
    intro r
    obtain ⟨hrule, hkeeps⟩ :=
      hallows past (.requested user request r) hpast (by simp [hf.1, Business.allows])
    exact ⟨hrule, ih r (hf.2 r) hkeeps⟩
  | fetchTransaction user key rest ih =>
    intro r
    obtain ⟨hrule, hkeeps⟩ :=
      hallows past (.lookedUp user key r) hpast (by simp [hf.1, Business.allows])
    exact ⟨hrule, ih r (hf.2 r) hkeeps⟩
  | publish event rest ih =>
    obtain ⟨hrule, hkeeps⟩ := hallows past (.published event) hpast hf.1
    exact ⟨hrule, ih hf.2 hkeeps⟩

theorem Flow.Proper.obeys_anything {b : Business} {f : Flow α} (hf : f.Proper b) :
    f.Obeys (fun _ _ => True) (fun _ _ => True) past :=
  hf.obeys (fun _ => True) (fun _ _ _ _ => ⟨trivial, trivial⟩) trivial

/-- A call obeys if its flow does. -/
structure Call.Obeys (rule : List Act → Act → Prop) (outcome : List Act → Except Fault α → Prop)
    (past : List Act) (c : Call α) : Prop where
  flow : Flow.Obeys rule outcome past c.run

namespace Call.Obeys

variable {outcome : List Act → Except Fault β → Prop} {next : α → Call β}

theorem pure {b : β} (h : outcome past (.ok b)) : Call.Obeys rule outcome past (pure b) := ⟨h⟩

theorem imp {outcome' : List Act → Except Fault β → Prop} {c : Call β}
    (hc : Call.Obeys rule outcome past c) (himp : ∀ past r, outcome past r → outcome' past r) :
    Call.Obeys rule outcome' past c :=
  ⟨hc.flow.imp himp⟩

theorem bind {c : Call α} (middle : List Act → Except Fault α → Prop)
    (hc : Call.Obeys rule middle past c)
    (hok : ∀ past a, middle past (.ok a) → Call.Obeys rule outcome past (next a))
    (herror : ∀ past f, middle past (.error f) → outcome past (.error f)) :
    Call.Obeys rule outcome past (c >>= next) := by
  refine ⟨Flow.Obeys.bind hc.flow fun past r hr => ?_⟩
  cases r with
  | ok a => exact (hok past a hr).flow
  | error f => exact herror past f hr

theorem guard {broken : Prop} [Decidable broken] {f : Fault} {c : Call β}
    (hbroken : broken → outcome past (.error f))
    (hfine : ¬ broken → Call.Obeys rule outcome past c) :
    Call.Obeys rule outcome past (if broken then (do let _ : Unit ← Call.fail f; c) else c) := by
  split
  · exact ⟨hbroken ‹_›⟩
  · exact hfine ‹_›

theorem ofExcept_bind {r : Except Fault α}
    (hok : ∀ a, r = .ok a → Call.Obeys rule outcome past (next a))
    (herror : ∀ f, r = .error f → outcome past (.error f)) :
    Call.Obeys rule outcome past (Call.ofExcept r >>= next) := by
  cases r with
  | ok a => exact ⟨(hok a rfl).flow⟩
  | error f => exact ⟨herror f rfl⟩

theorem orFail_bind {f : Fault} {a? : Option α}
    (hsome : ∀ a, a? = some a → Call.Obeys rule outcome past (next a))
    (hnone : a? = none → outcome past (.error f)) :
    Call.Obeys rule outcome past (Call.orFail f a? >>= next) := by
  cases a? with
  | some a => exact ⟨(hsome a rfl).flow⟩
  | none => exact ⟨hnone rfl⟩

theorem query {q : Query β} (hrule : ∀ r, rule past (.asked q r))
    (houtcome : ∀ r, outcome (past ++ [.asked q r]) r) :
    Call.Obeys rule outcome past (Call.query q) :=
  ⟨fun r => ⟨hrule r, houtcome r⟩⟩

theorem query_bind {q : Query α} (hrule : ∀ r, rule past (.asked q r))
    (hok : ∀ a, Call.Obeys rule outcome (past ++ [.asked q (.ok a)]) (next a))
    (herror : ∀ f, outcome (past ++ [.asked q (.error f)]) (.error f)) :
    Call.Obeys rule outcome past (Call.query q >>= next) := by
  refine ⟨fun r => ⟨hrule r, ?_⟩⟩
  cases r with
  | ok a => exact (hok a).flow
  | error f => exact herror f

theorem attempt_bind {q : Query α} {next : Except Fault α → Call β}
    (hrule : ∀ r, rule past (.asked q r))
    (hnext : ∀ r, Call.Obeys rule outcome (past ++ [.asked q r]) (next r)) :
    Call.Obeys rule outcome past (Call.attempt q >>= next) :=
  ⟨fun r => ⟨hrule r, (hnext r).flow⟩⟩

theorem publish_bind {event : Event} {next : Unit → Call β} (hrule : rule past (.published event))
    (hnext : Call.Obeys rule outcome (past ++ [.published event]) (next ())) :
    Call.Obeys rule outcome past (Call.publish event >>= next) :=
  ⟨hrule, hnext.flow⟩

theorem requestPayment_bind {user : Id} {request : Gateway.PaymentRequest}
    {next : Except Gateway.Fault Gateway.Receipt → Call β}
    (hrule : ∀ r, rule past (.requested user request r))
    (hnext : ∀ r, Call.Obeys rule outcome (past ++ [.requested user request r]) (next r)) :
    Call.Obeys rule outcome past (Call.requestPayment user request >>= next) :=
  ⟨fun r => ⟨hrule r, (hnext r).flow⟩⟩

theorem fetchTransaction_bind {user : Id} {key : String} {next : Gateway.Transaction → Call β}
    (hrule : ∀ r, rule past (.lookedUp user key r))
    (hok : ∀ transaction,
      Call.Obeys rule outcome (past ++ [.lookedUp user key (.ok transaction)]) (next transaction))
    (herror : ∀ f, outcome (past ++ [.lookedUp user key (.error f)]) (.error (.ofGateway f))) :
    Call.Obeys rule outcome past (Call.fetchTransaction user key >>= next) := by
  refine ⟨fun r => ⟨hrule r, ?_⟩⟩
  cases r with
  | ok transaction => exact (hok transaction).flow
  | error f => exact herror f

end Call.Obeys

end Service

/-! ## Calls of a shop -/

/-- All that one call did. -/
def actsOf (call : Nat) (record : List (Nat × Act)) : List Act :=
  (record.filter (·.1 == call)).map (·.2)

theorem actsOf_concat (call other : Nat) (record : List (Nat × Act)) (act : Act) :
    actsOf call (record ++ [(other, act)]) =
      actsOf call record ++ if other = call then [act] else [] := by
  by_cases h : other = call <;> simp [actsOf, List.filter_append, h]

theorem mem_actsOf {call : Nat} {record : List (Nat × Act)} {act : Act} :
    act ∈ actsOf call record ↔ (call, act) ∈ record := by
  simp [actsOf]

theorem actsOf_subset (call : Nat) (record : List (Nat × Act)) :
    actsOf call record ⊆ record.map (·.2) :=
  (List.filter_sublist.map _).subset

theorem actsOf_subset_append (call : Nat) (earlier later : List (Nat × Act)) :
    actsOf call earlier ⊆ actsOf call (earlier ++ later) := by
  simp [actsOf]

/-- Where the last thing that a call did stands in the record. -/
theorem actsOf_eq_concat {call : Nat} {record : List (Nat × Act)} {earlier : List Act} {act : Act}
    (h : actsOf call record = earlier ++ [act]) :
    ∃ before later, record = before ++ (call, act) :: later ∧ actsOf call before = earlier := by
  induction record using List.reverseRecOn with
  | nil => simp [actsOf] at h
  | append_singleton record entry ih =>
    obtain ⟨other, last⟩ := entry
    rw [actsOf_concat] at h
    by_cases hcall : other = call
    · subst hcall
      rw [if_pos rfl] at h
      obtain ⟨rfl, hlast⟩ := List.append_inj' h rfl
      cases hlast
      exact ⟨record, [], rfl, rfl⟩
    · rw [if_neg hcall, List.append_nil] at h
      obtain ⟨before, later, rfl, hbefore⟩ := ih h
      exact ⟨before, later ++ [(other, last)], by simp, hbefore⟩

namespace Shop

/-- Every call obeys its rule, in what it did and in what it has still to do. -/
structure Following (rule : Operation → List Act → Act → Prop)
    (outcome : (op : Operation) → List Act → op.Answer → Prop) (s : Shop) : Prop where
  rest : ∀ (call : Nat) (running : Running), s.calls[call]? = some running →
    running.rest.Obeys (rule running.op) (outcome running.op) (actsOf call s.record)
  acts : Throughout (fun earlier entry => ∃ running : Running, s.calls[entry.1]? = some running ∧
    rule running.op (actsOf entry.1 earlier) entry.2) s.record

variable {rule : Operation → List Act → Act → Prop}
  {outcome : (op : Operation) → List Act → op.Answer → Prop}

/-- A call that has not been started has done nothing. -/
theorem Following.actsOf_new {s : Shop} (h : s.Following rule outcome) :
    actsOf s.calls.length s.record = [] := by
  rw [actsOf, List.map_eq_nil_iff, List.filter_eq_nil_iff]
  intro entry he hcall
  obtain ⟨earlier, later, hsplit⟩ := List.append_of_mem he
  obtain ⟨running, hr, -⟩ := h.acts earlier entry later hsplit
  rw [beq_iff_eq.mp hcall, List.getElem?_eq_none (Nat.le_refl _)] at hr
  cases hr

theorem Following.start {s : Shop} (h : s.Following rule outcome) (op : Operation)
    (hflow : op.flow.Obeys (rule op) (outcome op) []) :
    (s.step (.start op)).Following rule outcome := by
  constructor
  · intro call running hr
    rcases Nat.lt_or_ge call s.calls.length with hlt | hge
    · rw [step, List.getElem?_append_left hlt] at hr
      exact h.rest call running hr
    · rw [step, List.getElem?_append_right hge] at hr
      obtain ⟨hzero, hr⟩ := List.getElem?_eq_some_iff.mp hr
      have hcall : call = s.calls.length := by
        rw [List.length_singleton] at hzero
        omega
      subst hcall
      rw [List.getElem_singleton] at hr
      subst hr
      change op.flow.Obeys _ _ (actsOf s.calls.length s.record)
      rw [h.actsOf_new]
      exact hflow
  · refine h.acts.mono fun earlier entry hentry => ?_
    obtain ⟨running, hr, hrule⟩ := hentry
    refine ⟨running, ?_, hrule⟩
    rw [step, List.getElem?_append_left (List.getElem?_eq_some_iff.mp hr).1]
    exact hr

theorem Following.proceed {s : Shop} (h : s.Following rule outcome) (call : Nat)
    (around : Surroundings) : (s.proceed call around).Following rule outcome := by
  rcases s.proceed_cases call around with hsame | ⟨running, act, rest, tables, hc, hf, hnext⟩
  · rw [hsame]
    exact h
  rw [hnext]
  obtain ⟨hrule, hrest⟩ := (h.rest call running hc).step hf
  have hlt : call < s.calls.length := (List.getElem?_eq_some_iff.mp hc).1
  -- the call keeps its operation, so what is said of its earlier acts still stands
  have hops : ∀ (other : Nat) (found : Running), s.calls[other]? = some found →
      ∃ now, (s.calls.set call { running with rest })[other]? = some now ∧ now.op = found.op := by
    intro other found ho
    by_cases hsame : call = other
    · subst hsame
      obtain rfl : running = found := Option.some.inj (hc.symm.trans ho)
      exact ⟨_, List.getElem?_set_self hlt, rfl⟩
    · exact ⟨found, (List.getElem?_set_ne hsame).trans ho, rfl⟩
  constructor
  · intro other found ho
    simp only [actsOf_concat]
    by_cases hsame : call = other
    · subst hsame
      rw [List.getElem?_set_self hlt] at ho
      cases ho
      rw [if_pos rfl]
      exact hrest
    · rw [List.getElem?_set_ne hsame] at ho
      rw [if_neg hsame, List.append_nil]
      exact h.rest other found ho
  · refine Throughout.concat (h.acts.mono fun earlier entry hentry => ?_) ?_
    · obtain ⟨found, ho, hkept⟩ := hentry
      obtain ⟨now, hnow, hop⟩ := hops entry.1 found ho
      exact ⟨now, hnow, hop ▸ hkept⟩
    · obtain ⟨now, hnow, hop⟩ := hops call running hc
      exact ⟨now, hnow, hop ▸ hrule⟩

/-- After any run every call obeys, if each operation does on its own. -/
theorem following_after (hflows : ∀ op : Operation, op.flow.Obeys (rule op) (outcome op) [])
    (deeds : List Deed) : (after deeds).Following rule outcome := by
  induction deeds using List.reverseRecOn with
  | nil => exact ⟨(fun _ _ h => nomatch h), .nil⟩
  | append_singleton deeds deed ih =>
    rw [after_concat]
    cases deed with
    | start op => exact ih.start op (hflows op)
    | proceed call around => exact ih.proceed call around
    | withdraw product around =>
      simp only [step]
      split <;> exact ⟨ih.rest, ih.acts⟩

end Shop

end Checkout
