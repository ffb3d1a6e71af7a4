-- What a deed comes to. It is a step of one call, or it leaves all orders and
-- payments alone and at most starts new calls. So whatever is in the record was
-- done at one point of the run, with the tables as they were there.
import Checkout.Proofs.Shop.Run

namespace Checkout

open Store Service

namespace Shop

/-! ## The operation of a call -/

/-- The operation of the call of a number. -/
def opOf? (s : Shop) (call : Nat) : Option Operation := s.calls[call]?.map (·.op)

theorem opOf?_of_call {s : Shop} {call : Nat} {running : Running}
    (hcall : s.calls[call]? = some running) : s.opOf? call = some running.op := by
  rw [opOf?, hcall, Option.map_some]

/-- A call keeps its operation when it goes on. -/
theorem opOf?_step {s : Shop} {call : Nat} {running : Running} {rest : Flow running.op.Answer}
    (hcall : s.calls[call]? = some running) (tables : Tables) (record : List (Nat × Act))
    (other : Nat) :
    Shop.opOf? ⟨tables, s.calls.set call { running with rest }, record⟩ other = s.opOf? other := by
  unfold opOf?
  by_cases hother : call = other
  · subst hother
    rw [List.getElem?_set_self (List.getElem?_eq_some_iff.mp hcall).1, hcall]
    rfl
  · rw [List.getElem?_set_ne hother]

/-! ## Turns -/

/-- What a deed is: a step of a call, or one by which no order and no payment changes. -/
inductive Turn (s : Shop) : Deed → Shop → Prop where
  | step {call : Nat} {around : Surroundings} {running : Running} {act : Act}
      {rest : Flow running.op.Answer} {tables : Tables} (hcall : s.calls[call]? = some running)
      (hstep : running.rest.step around s.tables = some (act, rest, tables)) :
    Turn s (.proceed call around)
      ⟨tables, s.calls.set call { running with rest }, s.record ++ [(call, act)]⟩
  | aside {deed : Deed} {s' : Shop} (hrecord : s'.record = s.record)
      (horders : s'.tables.orders = s.tables.orders)
      (hpayments : s'.tables.payments = s.tables.payments) (more : List Running)
      (hcalls : s'.calls = s.calls ++ more)
      (hfresh : ∀ running ∈ more, running.rest = running.op.flow) : Turn s deed s'

theorem turn {s : Shop} (hs : s.InOrder) (deed : Deed) : s.Turn deed (s.step deed) := by
  cases deed with
  | start op =>
    refine .aside rfl rfl rfl [⟨op, op.flow⟩] rfl fun running hr => ?_
    rw [List.mem_singleton.mp hr]
  | proceed call around =>
    rw [step]
    rcases s.proceed_cases call around with hsame | ⟨running, act, rest, tables, hc, hf, hnext⟩
    · rw [hsame]
      exact .aside rfl rfl rfl [] (List.append_nil _).symm (List.forall_mem_nil _)
    · rw [hnext]
      exact .step hc hf
  | withdraw product around =>
    rcases withdraw_cases hs.kept product around with hsame | hsame
    · rw [hsame]
      exact .aside rfl rfl rfl [] (List.append_nil _).symm (List.forall_mem_nil _)
    · rw [hsame]
      exact .aside rfl rfl rfl [] (List.append_nil _).symm (List.forall_mem_nil _)

theorem turn_after (deeds : List Deed) (deed : Deed) :
    (after deeds).Turn deed (after (deeds ++ [deed])) := by
  rw [after_concat]
  exact turn (inOrder_after deeds) deed

/-- A call keeps its operation, whatever comes later. -/
theorem opOf?_onward {deeds : List Deed} (later : List Deed) {call : Nat} {op : Operation}
    (h : (after deeds).opOf? call = some op) : (after (deeds ++ later)).opOf? call = some op := by
  induction later using List.reverseRecOn with
  | nil => rwa [List.append_nil]
  | append_singleton later deed ih =>
    rw [← List.append_assoc]
    have hturn := turn_after (deeds ++ later) deed
    generalize after (deeds ++ later ++ [deed]) = s' at hturn
    cases hturn with
    | step hcall =>
      rw [opOf?_step hcall]
      exact ih
    | aside _ _ _ more hcalls =>
      unfold opOf? at ih ⊢
      obtain ⟨running, hrunning, hop⟩ := Option.map_eq_some_iff.mp ih
      rw [hcalls, List.getElem?_append_left (List.getElem?_eq_some_iff.mp hrunning).1, hrunning,
        Option.map_some, hop]

/-- What is in the record was done at some point of the run, by a step that a call made there. -/
theorem step_of_mem_record {deeds : List Deed} {call : Nat} {act : Act}
    (h : (call, act) ∈ (after deeds).record) :
    ∃ (earlier : List Deed) (around : Surroundings) (later : List Deed) (running : Running)
      (rest : Flow running.op.Answer), deeds = earlier ++ .proceed call around :: later ∧
        (after earlier).calls[call]? = some running ∧
        running.rest.step around (after earlier).tables =
          some (act, rest, (after (earlier ++ [.proceed call around])).tables) := by
  induction deeds using List.reverseRecOn with
  | nil => cases h
  | append_singleton deeds deed ih =>
    by_cases hearlier : (call, act) ∈ (after deeds).record
    · obtain ⟨earlier, around, later, running, rest, hsplit, hstep⟩ := ih hearlier
      refine ⟨earlier, around, later ++ [deed], running, rest, ?_, hstep⟩
      rw [hsplit, List.append_assoc, List.cons_append]
    have hturn := turn_after deeds deed
    generalize hs' : after (deeds ++ [deed]) = s' at hturn h
    cases hturn with
    | aside hrecord =>
      rw [hrecord] at h
      exact absurd h hearlier
    | @step _ around running _ rest tables hcall hstep =>
      have hlast := (List.mem_append.mp h).resolve_left hearlier
      cases List.mem_singleton.mp hlast
      refine ⟨deeds, around, [], running, rest, rfl, hcall, ?_⟩
      rw [hs']
      exact hstep

/-- A query that failed in a run failed in the store. -/
theorem failed_after (deeds : List Deed) {entry : Nat × Act} (he : entry ∈ (after deeds).record)
    {α : Type} {q : Query α} {f : Fault} (hact : entry.2 = .asked q (.error f)) :
    ∃ c t, q.work c t = .error f := by
  obtain ⟨call, act⟩ := entry
  obtain rfl : act = .asked q (.error f) := hact
  obtain ⟨earlier, around, later, running, rest, -, -, hstep⟩ := step_of_mem_record he
  exact ⟨around.conditions, (after earlier).tables, flow_step_failed hstep⟩

end Shop

end Checkout
