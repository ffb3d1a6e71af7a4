-- The shop at work. Any number of calls are under way at once, and each goes
-- on step by step, in any order, whatever the medium and the processor do in
-- between. What holds at the start and is kept by every change of the tables
-- holds after any run.
import Checkout.Proofs.Shop.Operation
import Checkout.Proofs.Store.Keeping
import Mathlib.Data.List.Induction

namespace Checkout

open Store Service

/-! ## Steps of calls -/

/-- What a step of a call finds around it. The medium may refuse writes and spoil rows, but it
never loses a write in silence. The processor may answer anything. -/
structure Surroundings where
  now : Moment
  medium : Medium
  honest : medium.Honest
  receipt : Except Gateway.Fault Gateway.Receipt
  transaction : Except Gateway.Fault Gateway.Transaction

namespace Surroundings

def conditions (around : Surroundings) : Conditions := ⟨around.now, around.medium⟩

/-- The same surroundings, with a medium that does what it is told. -/
def mended (around : Surroundings) : Surroundings :=
  { around with medium := .sound, honest := .sound }

/-- Nothing goes wrong: the medium is sound, and the processor takes every payment. -/
def quiet : Surroundings :=
  ⟨0, .sound, .sound, .ok ⟨"key", .pending, none⟩, .error (.rejected "unknown")⟩

end Surroundings

/-- What a call did in one step, and what came of it. -/
inductive Act : Type 1 where
  | asked {α : Type} (query : Query α) (answer : Except Fault α)
  | requested (user : Id) (request : Gateway.PaymentRequest)
      (answer : Except Gateway.Fault Gateway.Receipt)
  | lookedUp (user : Id) (key : String) (answer : Except Gateway.Fault Gateway.Transaction)
  | published (event : Event)

/-- The store was asked, and did not fail. -/
def Act.succeeded : Act → Bool
  | .asked _ (.ok _) => true
  | _ => false

namespace Service.Flow

variable {α : Type}

/-- Makes the first step of a flow. Gives what was done, what is left to do, and the tables. -/
def step (around : Surroundings) (t : Tables) : Flow α → Option (Act × Flow α × Tables)
  | .done _ => none
  | .ask query next =>
    let (answer, after) := query.answer around.conditions t
    some (.asked query answer, next answer, after)
  | .requestPayment user request next =>
    some (.requested user request around.receipt, next around.receipt, t)
  | .fetchTransaction user key next =>
    some (.lookedUp user key around.transaction, next around.transaction, t)
  | .publish event next => some (.published event, next, t)

/-- Makes all steps of a flow, with nothing else in between. -/
def finish (around : Surroundings) : Flow α → Tables → α × Tables
  | .done a, t => (a, t)
  | .ask query next, t =>
    let (answer, after) := query.answer around.conditions t
    (next answer).finish around after
  | .requestPayment _ _ next, t => (next around.receipt).finish around t
  | .fetchTransaction _ _ next, t => (next around.transaction).finish around t
  | .publish _ next, t => next.finish around t

end Service.Flow

/-! ## The shop -/

/-- An operation that is under way. -/
structure Running where
  op : Operation
  rest : Flow op.Answer

/-- The tables, the calls in the order in which they were started, and all that each did. -/
structure Shop where
  tables : Tables
  calls : List Running
  record : List (Nat × Act)

/-- Something that happens at the shop. -/
inductive Deed where
  | start (op : Operation)
  /-- The call of a number makes its next step, if it has one. -/
  | proceed (call : Nat) (around : Surroundings)
  /-- A product is taken off sale. -/
  | withdraw (product : Id) (around : Surroundings)

namespace Shop

/-- A new shop, where nothing has happened. -/
def opening : Shop := ⟨.empty, [], []⟩

def proceed (s : Shop) (call : Nat) (around : Surroundings) : Shop :=
  match s.calls[call]? with
  | none => s
  | some running =>
    match running.rest.step around s.tables with
    | none => s
    | some (act, rest, tables) =>
      { tables
        calls := s.calls.set call { running with rest }
        record := s.record ++ [(call, act)] }

def step (s : Shop) : Deed → Shop
  | .start op => { s with calls := s.calls ++ [⟨op, op.flow⟩] }
  | .proceed call around => s.proceed call around
  | .withdraw product around =>
    match Products.delete product around.conditions s.tables with
    | .ok (_, tables) => { s with tables }
    | .error _ => s

/-- The shop after some deeds, from the opening on. -/
def after (deeds : List Deed) : Shop := deeds.foldl step opening

theorem after_concat (deeds : List Deed) (deed : Deed) :
    after (deeds ++ [deed]) = (after deeds).step deed := by
  simp [after]

end Shop

/-! ## What a run keeps up -/

/-- What a deed can do to the tables and to the record of what was done. -/
inductive Advance (t : Tables) (record : List (Nat × Act)) :
    Tables → List (Nat × Act) → Prop where
  | waited : Advance t record t record
  | answered {α : Type} {q : Query α} {a : α} {t' : Tables} {now : Moment} (call : Nat)
      (h : Change now t q a t') : Advance t record t' (record ++ [(call, .asked q (.ok a))])
  | noted (call : Nat) {act : Act} (h : act.succeeded = false) :
    Advance t record t (record ++ [(call, act)])
  | withdrew (id : Id) : Advance t record (t.withdraw id) record

theorem Advance.kept {t t' : Tables} {record record' : List (Nat × Act)}
    (h : Advance t record t' record') (hk : t.Kept) : t'.Kept := by
  cases h with
  | waited => exact hk
  | answered call h => exact h.kept hk
  | noted call h => exact hk
  | withdrew id => exact hk.withdraw id

namespace Shop

/-- The tables are in order, and no call will ask anything improper. -/
structure InOrder (s : Shop) : Prop where
  kept : s.tables.Kept
  proper : ∀ running ∈ s.calls, running.rest.Proper running.op.business

/-- A step of a proper flow changes the tables by an answer to a query, or not at all. -/
theorem flow_step_cases {α : Type} {b : Business} {flow rest : Flow α} {around : Surroundings}
    {t t' : Tables} {act : Act} (hk : t.Kept) (hp : flow.Proper b)
    (h : flow.step around t = some (act, rest, t')) :
    rest.Proper b ∧ ((∃ (β : Type) (q : Query β) (a : β), act = .asked q (.ok a) ∧
      Change around.now t q a t') ∨ act.succeeded = false ∧ t' = t) := by
  cases flow with
  | done a => cases h
  | ask query next =>
    simp only [Flow.step, Query.answer] at h
    cases hw : query.work around.conditions t with
    | error f =>
      rw [hw] at h
      cases h
      exact ⟨hp.2 _, .inr ⟨rfl, rfl⟩⟩
    | ok result =>
      rw [hw] at h
      cases h
      exact ⟨hp.2 _, .inl ⟨_, query, _, rfl, Query.change around.honest hp.1.2 hk hw⟩⟩
  | requestPayment user request next =>
    cases h
    exact ⟨hp.2 _, .inr ⟨rfl, rfl⟩⟩
  | fetchTransaction user key next =>
    cases h
    exact ⟨hp.2 _, .inr ⟨rfl, rfl⟩⟩
  | publish event next =>
    cases h
    exact ⟨hp.2, .inr ⟨rfl, rfl⟩⟩

theorem flow_step_failed {α β : Type} {flow rest : Flow α} {around : Surroundings} {t t' : Tables}
    {q : Query β} {f : Fault} (h : flow.step around t = some (.asked q (.error f), rest, t')) :
    q.work around.conditions t = .error f := by
  cases flow with
  | ask query next =>
    simp only [Flow.step, Query.answer] at h
    cases hw : query.work around.conditions t with
    | ok result =>
      rw [hw] at h
      cases h
    | error fault =>
      rw [hw] at h
      cases h
      exact hw
  | done a | requestPayment user request next | fetchTransaction user key next
  | publish event next => cases h

/-- A call that goes on makes a step, or has none left to make. -/
theorem proceed_cases (s : Shop) (call : Nat) (around : Surroundings) :
    s.proceed call around = s ∨ ∃ running act rest tables, s.calls[call]? = some running ∧
      running.rest.step around s.tables = some (act, rest, tables) ∧
      s.proceed call around =
        ⟨tables, s.calls.set call { running with rest }, s.record ++ [(call, act)]⟩ := by
  unfold proceed
  cases hc : s.calls[call]? with
  | none => exact .inl rfl
  | some running =>
    simp only
    cases hf : running.rest.step around s.tables with
    | none => exact .inl rfl
    | some result =>
      obtain ⟨act, rest, tables⟩ := result
      exact .inr ⟨running, act, rest, tables, rfl, hf, rfl⟩

/-- Taking a product off sale does that alone, if it can be done. -/
theorem withdraw_cases {s : Shop} (hk : s.tables.Kept) (product : Id) (around : Surroundings) :
    s.step (.withdraw product around) = s ∨
      s.step (.withdraw product around) = { s with tables := s.tables.withdraw product } := by
  simp only [step]
  cases hd : Products.delete product around.conditions s.tables with
  | error f => exact .inl rfl
  | ok result =>
    have hcalm := (Products.delete_faithful product).calm around.honest hd
    obtain ⟨count, hdelete⟩ := Products.delete_calm product around.now s.tables
      hk.numbered.products.nodup
    have hsame := hcalm.symm.trans hdelete
    cases hsame
    exact .inr rfl

theorem step_advance {s : Shop} (hs : s.InOrder) (deed : Deed) :
    Advance s.tables s.record (s.step deed).tables (s.step deed).record ∧
      ∀ running ∈ (s.step deed).calls, running.rest.Proper running.op.business := by
  cases deed with
  | start op =>
    refine ⟨.waited, fun running hr => ?_⟩
    rcases List.mem_append.mp hr with hr | hr
    · exact hs.proper running hr
    · rw [List.mem_singleton.mp hr]
      exact op.flow_proper
  | proceed call around =>
    rcases s.proceed_cases call around with hsame | ⟨running, act, rest, tables, hc, hf, hnext⟩
    · rw [step, hsame]
      exact ⟨.waited, hs.proper⟩
    · rw [step, hnext]
      obtain ⟨hrest, hcases⟩ :=
        flow_step_cases hs.kept (hs.proper running (List.mem_of_getElem? hc)) hf
      constructor
      · rcases hcases with ⟨β, q, a, rfl, hchange⟩ | ⟨hfailed, rfl⟩
        · exact .answered call hchange
        · exact .noted call hfailed
      · intro other ho
        rcases List.mem_or_eq_of_mem_set ho with ho | ho
        · exact hs.proper other ho
        · rw [ho]
          exact hrest
  | withdraw product around =>
    rcases withdraw_cases hs.kept product around with hsame | hsame
    · rw [hsame]
      exact ⟨.waited, hs.proper⟩
    · rw [hsame]
      exact ⟨.withdrew product, hs.proper⟩

theorem InOrder.step {s : Shop} (hs : s.InOrder) (deed : Deed) : (s.step deed).InOrder :=
  ⟨(step_advance hs deed).1.kept hs.kept, (step_advance hs deed).2⟩

theorem inOrder_after (deeds : List Deed) : (after deeds).InOrder := by
  induction deeds using List.reverseRecOn with
  | nil => exact ⟨.empty, fun _ h => nomatch h⟩
  | append_singleton deeds deed ih =>
    rw [after_concat]
    exact ih.step deed

/-- After any run the tables are in order. -/
theorem kept_after (deeds : List Deed) : (after deeds).tables.Kept := (inOrder_after deeds).kept

/-- What holds of an empty shop and is kept by each deed holds after all. -/
theorem holds_after {P : Tables → List (Nat × Act) → Prop} (opening : P .empty [])
    (advance : ∀ {t t' : Tables} {record record' : List (Nat × Act)}, t.Kept → P t record →
      Advance t record t' record' → P t' record') (deeds : List Deed) :
    P (after deeds).tables (after deeds).record := by
  induction deeds using List.reverseRecOn with
  | nil => exact opening
  | append_singleton deeds deed ih =>
    rw [after_concat]
    exact advance (inOrder_after deeds).kept ih (step_advance (inOrder_after deeds) deed).1

/-- What can be said of each change and of nothing done, and of one thing done after another if of
both, can be said of any further run. -/
theorem related_after {R : Tables → Tables → Prop} (refl : ∀ t, R t t)
    (trans : ∀ {t t' t'' : Tables}, R t t' → R t' t'' → R t t'')
    (change : ∀ {α : Type} {q : Query α} {a : α} {t t' : Tables} {now : Moment},
      t.Kept → Change now t q a t' → R t t')
    (withdraw : ∀ (t : Tables) (id : Id), R t (t.withdraw id)) (deeds later : List Deed) :
    R (after deeds).tables (after (deeds ++ later)).tables := by
  have advance : ∀ {t t' : Tables} {record record' : List (Nat × Act)}, t.Kept →
      Advance t record t' record' → R t t' := by
    intro t t' record record' hk h
    cases h with
    | waited => exact refl t
    | answered call h => exact change hk h
    | noted call h => exact refl t
    | withdrew id => exact withdraw t id
  induction later using List.reverseRecOn with
  | nil =>
    rw [List.append_nil]
    exact refl _
  | append_singleton later deed ih =>
    rw [← List.append_assoc, after_concat]
    have hs := inOrder_after (deeds ++ later)
    exact trans ih (advance hs.kept (step_advance hs deed).1)

/-- Some acts that succeed are worth a note. What holds of empty tables without notes, and is kept
by each change with the note that it is worth, holds after any run with all notes of the record. -/
theorem noted_after {β : Type} {note? : Act → Option β} {P : Tables → List β → Prop}
    (opening : P .empty [])
    (silent : ∀ {act : Act}, act.succeeded = false → note? act = none)
    (change : ∀ {α : Type} {q : Query α} {a : α} {t t' : Tables} {now : Moment} {notes : List β},
      t.Kept → P t notes → Change now t q a t' →
        P t' ((note? (.asked q (.ok a))).elim notes fun note => notes ++ [note]))
    (withdraw : ∀ {t : Tables} {notes : List β} (id : Id), P t notes → P (t.withdraw id) notes)
    (deeds : List Deed) :
    P (after deeds).tables ((after deeds).record.filterMap (note? ·.2)) := by
  apply holds_after (P := fun t record => P t (record.filterMap (note? ·.2))) opening
  intro t t' record record' hk h hadvance
  cases hadvance with
  | waited => exact h
  | @answered α q a _ now call hchange =>
    have hnext := change hk h hchange
    rw [List.filterMap_append]
    cases hn : note? (.asked q (.ok a)) with
    | none => simpa [hn] using hnext
    | some note => simpa [hn] using hnext
  | noted call hact =>
    rw [List.filterMap_append]
    simpa [silent hact] using h
  | withdrew id => exact withdraw id h

end Shop

end Checkout
