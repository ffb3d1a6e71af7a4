-- The steps of one call in a run, each with the tables that it found and left.
-- The call makes them one after another, as its code has it, and other calls
-- come in between, so each step begins in tables of its own.
import Checkout.Proofs.Shop.Conduct
import Checkout.Proofs.Shop.Turn

namespace Checkout

open Store Service

/-- A step that a call made: what it found, what it did, and the tables that it left. -/
structure Stride where
  around : Surroundings
  before : Tables
  act : Act
  after : Tables

/-- What a query comes to on a calm medium it comes to here as well, unless the store says that it
failed. On a medium that does what it is told it does not. -/
theorem Surroundings.answer_cases {α : Type} {q : Query α} (hq : q.work.Faithful)
    (around : Surroundings) {a : α} {t t' : Tables}
    (hcalm : q.work (.calm around.now) t = .ok (a, t')) :
    q.answer around.conditions t = (.ok a, t') ∨
      around.medium ≠ .sound ∧ ∃ cause,
        q.answer around.conditions t = (.error (.storage cause), t) := by
  rcases hq.outcome (t := t) (c := around.conditions) around.honest with
    hsame | ⟨cause, hfailed⟩
  · have hwork : q.work around.conditions t = .ok (a, t') := hsame.trans hcalm
    exact .inl (by rw [Query.answer, hwork])
  · refine .inr ⟨fun hsound => ?_, cause, by rw [Query.answer, hfailed]⟩
    rw [Surroundings.conditions, hsound] at hfailed
    cases hfailed.symm.trans hcalm

/-! ## Walks through a flow -/

namespace Service.Flow

variable {α β : Type}

/-- The flow goes on by these steps, and something is left of it. -/
inductive Walks : Flow α → List Stride → Flow α → Prop where
  | nil (f : Flow α) : Walks f [] f
  | cons {f g h : Flow α} {around : Surroundings} {before after : Tables} {act : Act}
      {strides : List Stride} (hstep : f.step around before = some (act, g, after))
      (hrest : Walks g strides h) : Walks f (⟨around, before, act, after⟩ :: strides) h

namespace Walks

variable {f g h : Flow α} {next : α → Flow β} {a : α} {b : β} {strides : List Stride}

theorem concat {stride : Stride} (hwalk : f.Walks strides g)
    (hstep : g.step stride.around stride.before = some (stride.act, h, stride.after)) :
    f.Walks (strides ++ [stride]) h := by
  induction hwalk with
  | nil f => exact .cons hstep (.nil h)
  | cons hfirst _ ih => exact .cons hfirst (ih hstep)

theorem done_inv (h : (Flow.done a).Walks strides g) : strides = [] ∧ g = .done a := by
  cases h with
  | nil => exact ⟨rfl, rfl⟩
  | cons hstep => cases hstep

/-- A flow that asks the store ends only after it has been answered. -/
theorem ask_inv {query : Query β} {next : Except Fault β → Flow α}
    (h : (Flow.ask query next).Walks strides (.done a)) :
    ∃ around before rest, strides =
        ⟨around, before, .asked query (query.answer around.conditions before).1,
          (query.answer around.conditions before).2⟩ :: rest ∧
      (next (query.answer around.conditions before).1).Walks rest (.done a) := by
  cases h with
  | cons hstep hrest =>
    cases hstep
    exact ⟨_, _, _, rfl, hrest⟩

theorem publish_inv {event : Event} {next : Flow α}
    (h : (Flow.publish event next).Walks strides (.done a)) :
    ∃ around before rest, strides = ⟨around, before, .published event, before⟩ :: rest ∧
      next.Walks rest (.done a) := by
  cases h with
  | cons hstep hrest =>
    cases hstep
    exact ⟨_, _, _, rfl, hrest⟩

/-- One flow after another ends if the first one ends, and then the second. -/
theorem bind_inv (h : (f >>= next).Walks strides (.done b)) :
    ∃ a first second, strides = first ++ second ∧ f.Walks first (.done a) ∧
      (next a).Walks second (.done b) := by
  induction f generalizing strides with
  | done a => exact ⟨a, [], strides, rfl, .nil _, h⟩
  | ask query rest ih =>
    obtain ⟨around, before, later, rfl, hlater⟩ := ask_inv h
    obtain ⟨a, first, second, rfl, hfirst, hsecond⟩ := ih _ hlater
    exact ⟨a, _ :: first, second, rfl, .cons rfl hfirst, hsecond⟩
  | publish event rest ih =>
    obtain ⟨around, before, later, rfl, hlater⟩ := publish_inv h
    obtain ⟨a, first, second, rfl, hfirst, hsecond⟩ := ih hlater
    exact ⟨a, _ :: first, second, rfl, .cons rfl hfirst, hsecond⟩
  | requestPayment user request rest ih =>
    cases h with
    | cons hstep hlater =>
      cases hstep
      obtain ⟨a, first, second, rfl, hfirst, hsecond⟩ := ih _ hlater
      exact ⟨a, _ :: first, second, rfl, .cons rfl hfirst, hsecond⟩
  | fetchTransaction user key rest ih =>
    cases h with
    | cons hstep hlater =>
      cases hstep
      obtain ⟨a, first, second, rfl, hfirst, hsecond⟩ := ih _ hlater
      exact ⟨a, _ :: first, second, rfl, .cons rfl hfirst, hsecond⟩

end Walks

end Service.Flow

/-! ## The steps of a call in a run -/

namespace Shop

/-- The step that a deed is for a call. -/
def stride? (call : Nat) (s : Shop) : Deed → Option Stride
  | .proceed other around =>
    if other = call then
      s.calls[call]?.bind fun running =>
        (running.rest.step around s.tables).map fun (act, _, tables) =>
          ⟨around, s.tables, act, tables⟩
    else none
  | _ => none

/-- The steps that a call makes from now on. -/
def stridesFrom (call : Nat) : Shop → List Deed → List Stride
  | _, [] => []
  | s, deed :: deeds => (s.stride? call deed).toList ++ stridesFrom call (s.step deed) deeds

/-- All steps of a call in a run. -/
def stridesOf (call : Nat) (deeds : List Deed) : List Stride := stridesFrom call opening deeds

variable {call : Nat} {deeds : List Deed} {first second : List Stride} {stride : Stride}

theorem stridesFrom_concat (call : Nat) (s : Shop) (deeds : List Deed) (deed : Deed) :
    stridesFrom call s (deeds ++ [deed]) =
      stridesFrom call s deeds ++ ((deeds.foldl step s).stride? call deed).toList := by
  induction deeds generalizing s with
  | nil => simp [stridesFrom]
  | cons first deeds ih => simp [stridesFrom, ih]

theorem stridesOf_concat (call : Nat) (deeds : List Deed) (deed : Deed) :
    stridesOf call (deeds ++ [deed]) =
      stridesOf call deeds ++ ((after deeds).stride? call deed).toList :=
  stridesFrom_concat call opening deeds deed

/-- A deed is a step of the call, or it leaves the call where it is. -/
theorem stride?_cases (s : Shop) (call : Nat) (deed : Deed) :
    (s.stride? call deed = none ∧ actsOf call (s.step deed).record = actsOf call s.record ∧
        ∀ running, s.calls[call]? = some running → (s.step deed).calls[call]? = some running) ∨
      ∃ around running act rest tables, deed = .proceed call around ∧
        s.calls[call]? = some running ∧
        running.rest.step around s.tables = some (act, rest, tables) ∧
        s.stride? call deed = some ⟨around, s.tables, act, tables⟩ ∧
        s.step deed =
          ⟨tables, s.calls.set call { running with rest }, s.record ++ [(call, act)]⟩ := by
  cases deed with
  | start op =>
    refine .inl ⟨rfl, rfl, fun running h => ?_⟩
    rw [step, List.getElem?_append_left (List.getElem?_eq_some_iff.mp h).1]
    exact h
  | withdraw product around =>
    simp only [step]
    split <;> exact .inl ⟨rfl, rfl, fun _ h => h⟩
  | proceed other around =>
    by_cases hother : other = call
    · subst hother
      unfold stride? step proceed
      cases hc : s.calls[other]? with
      | none =>
        refine .inl ⟨by simp, by simp [hc], fun _ h => ?_⟩
        cases h
      | some running =>
        cases hf : running.rest.step around s.tables with
        | none =>
          exact .inl ⟨by simp [hf], by simp [hc, hf], fun found h => by simpa [hf, hc] using h⟩
        | some result =>
          obtain ⟨act, rest, tables⟩ := result
          exact .inr
            ⟨around, running, act, rest, tables, rfl, rfl, hf, by simp [hf], by simp [hc, hf]⟩
    · have hnone : s.stride? call (.proceed other around) = none := by simp [stride?, hother]
      rcases s.proceed_cases other around with hsame | ⟨found, act, rest, tables, -, -, hnext⟩
      · rw [step, hsame]
        exact .inl ⟨hnone, rfl, fun _ h => h⟩
      · rw [step, hnext]
        refine .inl ⟨hnone, by simp [actsOf_concat, hother], fun running h => ?_⟩
        rw [List.getElem?_set_ne hother]
        exact h

/-- A call that has not been started has made no step. -/
theorem stridesOf_eq_nil (h : (after deeds).calls[call]? = none) : stridesOf call deeds = [] := by
  induction deeds using List.reverseRecOn with
  | nil => rfl
  | append_singleton deeds deed ih =>
    have hbefore : (after deeds).calls[call]? = none := by
      by_contra hsome
      obtain ⟨running, hrunning⟩ := Option.ne_none_iff_exists'.mp hsome
      obtain ⟨op, hop⟩ : ∃ op, (after deeds).opOf? call = some op := ⟨_, opOf?_of_call hrunning⟩
      have hlater := opOf?_onward [deed] hop
      simp [opOf?, h] at hlater
    rw [stridesOf_concat, ih hbefore]
    rcases stride?_cases (after deeds) call deed with ⟨hnone, -⟩ | ⟨_, running, _, _, _, _, hc, -⟩
    · rw [hnone]
      rfl
    · rw [hbefore] at hc
      cases hc

/-- A call has come to where it is by its steps. -/
theorem walks_after (deeds : List Deed) {running : Running}
    (h : (after deeds).calls[call]? = some running) :
    running.op.flow.Walks (stridesOf call deeds) running.rest := by
  induction deeds using List.reverseRecOn generalizing running with
  | nil => simp [after, opening] at h
  | append_singleton deeds deed ih =>
    rw [stridesOf_concat]
    rw [after_concat] at h
    rcases stride?_cases (after deeds) call deed with
      ⟨hnone, -, hstays⟩ | ⟨around, found, act, rest, tables, -, hc, hf, hstride, hnext⟩
    · rw [hnone, Option.toList_none, List.append_nil]
      cases hc : (after deeds).calls[call]? with
      | some found =>
        obtain rfl : found = running := Option.some.inj ((hstays found hc).symm.trans h)
        exact ih hc
      | none =>
        rw [stridesOf_eq_nil hc]
        have hturn := turn (inOrder_after deeds) deed
        generalize (after deeds).step deed = s' at hturn h
        cases hturn with
        | step hcall =>
          rw [List.getElem?_set] at h
          split at h
          · next hsame =>
            subst hsame
            rw [hc] at hcall
            cases hcall
          · rw [hc] at h
            cases h
        | aside _ _ _ more hcalls hfresh =>
          have hmem : running ∈ more := by
            rw [hcalls, List.getElem?_append_right (List.getElem?_eq_none_iff.mp hc)] at h
            exact List.mem_of_getElem? h
          rw [hfresh running hmem]
          exact .nil _
    · rw [hstride, Option.toList_some]
      rw [hnext, List.getElem?_set_self (List.getElem?_eq_some_iff.mp hc).1] at h
      obtain rfl := Option.some.inj h
      exact (ih hc).concat hf

/-- Where a step of a call stands in the run. -/
theorem stride_split (h : stridesOf call deeds = first ++ stride :: second) :
    ∃ earlier later, deeds = earlier ++ .proceed call stride.around :: later ∧
      stridesOf call earlier = first ∧ stride.before = (after earlier).tables ∧
      stride.after = (after (earlier ++ [.proceed call stride.around])).tables := by
  induction deeds using List.reverseRecOn generalizing second with
  | nil => simp [stridesOf, stridesFrom] at h
  | append_singleton deeds deed ih =>
    rw [stridesOf_concat] at h
    rcases stride?_cases (after deeds) call deed with
      ⟨hnone, -⟩ | ⟨around, found, act, rest, tables, rfl, hc, hf, hstride, hnext⟩
    · rw [hnone, Option.toList_none, List.append_nil] at h
      obtain ⟨earlier, later, rfl, hsplit⟩ := ih h
      exact ⟨earlier, later ++ [deed], by simp, hsplit⟩
    · rw [hstride, Option.toList_some] at h
      rcases List.eq_nil_or_concat second with rfl | ⟨second, last, rfl⟩
      · obtain ⟨hfirst, hlast⟩ := List.append_inj' h rfl
        cases hlast
        refine ⟨deeds, [], rfl, hfirst, rfl, ?_⟩
        rw [after_concat, hnext]
      · rw [List.concat_eq_append, ← List.cons_append, ← List.append_assoc] at h
        obtain ⟨hearlier, -⟩ := List.append_inj' h rfl
        obtain ⟨earlier, later, rfl, hsplit⟩ := ih hearlier
        exact ⟨earlier, later ++ [.proceed call around], by simp, hsplit⟩

/-- Where two steps of a call stand in the run, and what came between them. -/
theorem stride_split_two {between : List Stride} {other : Stride}
    (h : stridesOf call deeds = first ++ stride :: (between ++ other :: second)) :
    ∃ earlier middle, stride.before = (after earlier).tables ∧
      stride.after = (after (earlier ++ [.proceed call stride.around])).tables ∧
      other.before = (after (earlier ++ [.proceed call stride.around] ++ middle)).tables := by
  have hsplit : stridesOf call deeds = (first ++ stride :: between) ++ other :: second := by
    rw [h, List.append_assoc, List.cons_append]
  obtain ⟨reached, later, -, hreached, hother, -⟩ := stride_split hsplit
  obtain ⟨earlier, middle, rfl, -, hbefore, hafter⟩ := stride_split hreached
  refine ⟨earlier, middle, hbefore, hafter, ?_⟩
  rw [hother, List.append_assoc, List.singleton_append]

/-- The steps of a call are what it did. -/
theorem acts_of_strides (call : Nat) (deeds : List Deed) :
    (stridesOf call deeds).map (·.act) = actsOf call (after deeds).record := by
  induction deeds using List.reverseRecOn with
  | nil => rfl
  | append_singleton deeds deed ih =>
    rw [stridesOf_concat, List.map_append, ih, after_concat]
    rcases stride?_cases (after deeds) call deed with
      ⟨hnone, hrecord, -⟩ | ⟨around, found, act, rest, tables, rfl, hc, hf, hstride, hnext⟩
    · rw [hnone, hrecord, Option.toList_none, List.map_nil, List.append_nil]
    · rw [hstride, hnext, actsOf_concat]
      simp

/-! ## A call that gets its turn again and again -/

/-- A deed leaves the call where it is, or is its next step. -/
theorem stays_or_moves {s : Shop} {running : Running} (h : s.calls[call]? = some running)
    (deed : Deed) :
    (s.stride? call deed = none ∧ (s.step deed).calls[call]? = some running) ∨
      ∃ around act rest tables, running.rest.step around s.tables = some (act, rest, tables) ∧
        (s.step deed).calls[call]? = some { running with rest } := by
  rcases stride?_cases s call deed with
    ⟨hnone, -, hstays⟩ | ⟨around, found, act, rest, tables, -, hc, hf, -, hnext⟩
  · exact .inl ⟨hnone, hstays running h⟩
  · obtain rfl : found = running := Option.some.inj (hc.symm.trans h)
    refine .inr ⟨around, act, rest, tables, hf, ?_⟩
    rw [hnext]
    exact List.getElem?_set_self (List.getElem?_eq_some_iff.mp hc).1

/-- The first deeds of an endless run that goes on from some deeds. -/
def course (deeds : List Deed) (later : Nat → Deed) (n : Nat) : List Deed :=
  deeds ++ (List.range n).map later

theorem after_course_succ (deeds : List Deed) (later : Nat → Deed) (n : Nat) :
    after (course deeds later (n + 1)) = (after (course deeds later n)).step (later n) := by
  simp [course, List.range_succ, ← List.append_assoc, after_concat]

/-- In an endless run the call gets its turn again and again. -/
def Recurs (call : Nat) (later : Nat → Deed) : Prop :=
  ∀ n, ∃ wait around, later (n + wait) = .proceed call around

variable {later : Nat → Deed}

/-- A call with something left to do makes its next step at some time, whatever comes before. -/
theorem moves_on (hrecurs : Recurs call later) {running : Running}
    (hleft : ∀ around t, (running.rest.step around t).isSome = true) (n : Nat)
    (h : (after (course deeds later n)).calls[call]? = some running) :
    ∃ m around t act rest tables, running.rest.step around t = some (act, rest, tables) ∧
      (after (course deeds later m)).calls[call]? = some { running with rest } := by
  obtain ⟨wait, turn, hturn⟩ := hrecurs n
  induction wait generalizing n with
  | zero =>
    rcases stays_or_moves h (later n) with ⟨hnone, -⟩ | ⟨around, act, rest, tables, hf, hnext⟩
    · have hstep := hleft turn (after (course deeds later n)).tables
      obtain ⟨result, hf⟩ := Option.isSome_iff_exists.mp hstep
      rw [Nat.add_zero] at hturn
      simp [hturn, stride?, h, hf] at hnone
    · exact ⟨n + 1, around, _, act, rest, tables, hf, by rw [after_course_succ, hnext]⟩
  | succ wait ih =>
    rcases stays_or_moves h (later n) with ⟨-, hstays⟩ | ⟨around, act, rest, tables, hf, hnext⟩
    · refine ih (n + 1) (by rw [after_course_succ, hstays]) ?_
      rw [← hturn, Nat.add_right_comm, Nat.add_assoc]
    · exact ⟨n + 1, around, _, act, rest, tables, hf, by rw [after_course_succ, hnext]⟩

/-- However the steps of other calls come in between, a call that gets its turn again and again
comes to an end. -/
theorem comes_to_an_end (hrecurs : Recurs call later) {running : Running} (n : Nat)
    (h : (after (course deeds later n)).calls[call]? = some running) :
    ∃ m answer, (after (course deeds later m)).calls[call]? = some ⟨running.op, .done answer⟩ := by
  obtain ⟨op, flow⟩ := running
  induction flow generalizing n with
  | done answer => exact ⟨n, answer, h⟩
  | ask query next ih =>
    obtain ⟨m, around, t, act, rest, tables, hf, hnext⟩ := moves_on hrecurs (fun _ _ => rfl) n h
    cases hf
    exact ih _ m hnext
  | requestPayment user request next ih =>
    obtain ⟨m, around, t, act, rest, tables, hf, hnext⟩ := moves_on hrecurs (fun _ _ => rfl) n h
    cases hf
    exact ih _ m hnext
  | fetchTransaction user key next ih =>
    obtain ⟨m, around, t, act, rest, tables, hf, hnext⟩ := moves_on hrecurs (fun _ _ => rfl) n h
    cases hf
    exact ih _ m hnext
  | publish event next ih =>
    obtain ⟨m, around, t, act, rest, tables, hf, hnext⟩ := moves_on hrecurs (fun _ _ => rfl) n h
    cases hf
    exact ih m hnext

end Shop

end Checkout
