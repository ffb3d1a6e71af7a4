-- What is announced of payments. Every announcement is true, and who is to
-- announce that a payment was settled has done so or does it next.
import Checkout.Proofs.Shop.Payments

namespace Checkout

open Store Service

/-- Each thing in the record was done by a call that was diligent in it. -/
def DiligentRecord (calls : List Running) (record : List (Nat × Act)) : Prop :=
  Throughout (fun earlier entry => ∃ running : Running, calls[entry.1]? = some running ∧
    Diligent running.op (actsOf entry.1 earlier) entry.2) record

/-- What an event says of a payment. -/
def Event.Holds (payments : List Payment) : Event → Prop
  | .paymentCompleted p => p ∈ payments ∧ p.status = .completed
  | .paymentFailed p _ => p ∈ payments ∧ p.status = .failed
  | _ => True

variable {calls : List Running} {record : List (Nat × Act)}

/-! ## What the calls do -/

/-- What a call is to announce is announced, unless the call has yet to do so. -/
theorem DiligentRecord.announced (h : DiligentRecord calls record) {call : Nat} {running : Running}
    (hcall : calls[call]? = some running) (hop : running.op.announces = true) {act : Act}
    {event : Event} (hact : (call, act) ∈ record) (hnews : act.news? = some event) :
    (call, .published event) ∈ record ∨ newsIn (actsOf call record) = some event := by
  induction record using List.reverseRecOn with
  | nil => cases hact
  | append_singleton record entry ih =>
    obtain ⟨other, last⟩ := entry
    obtain ⟨hearlier, found, hfound, hrule⟩ := Throughout.of_concat h
    rw [actsOf_concat]
    by_cases hother : other = call
    · subst hother
      obtain rfl : found = running := Option.some.inj (hfound.symm.trans hcall)
      rw [if_pos rfl, newsIn_concat]
      rcases List.mem_append.mp hact with hold | hlast
      · left
        rcases ih hearlier hold with htold | hnext
        · exact List.mem_append_left _ htold
        · have hlast : last = .published event := hrule.announces hop event hnext
          rw [hlast]
          exact List.mem_append_right _ (List.mem_singleton.mpr rfl)
      · right
        cases List.mem_singleton.mp hlast
        exact hnews
    · rw [if_neg hother, List.append_nil]
      have hold : (call, act) ∈ record := by
        rcases List.mem_append.mp hact with hold | hlast
        · exact hold
        · cases List.mem_singleton.mp hlast
          exact absurd rfl hother
      exact (ih hearlier hold).imp_left (List.mem_append_left _)

/-- What is announced has come about. -/
theorem DiligentRecord.genuine (h : DiligentRecord calls record) {entry : Nat × Act} {event : Event}
    (hentry : entry ∈ record) (htells : entry.2.tells? = some event) :
    ∃ act, (entry.1, act) ∈ record ∧ act.news? = some event := by
  obtain ⟨earlier, later, rfl⟩ := List.append_of_mem hentry
  obtain ⟨running, -, hrule⟩ := h earlier entry later rfl
  have hnews := hrule.genuine event htells
  unfold newsIn at hnews
  obtain ⟨act, hlast, hact⟩ := Option.bind_eq_some_iff.mp hnews
  refine ⟨act, List.mem_append_left _ ?_, hact⟩
  exact mem_actsOf.mp (List.mem_of_getLast? hlast)

/-! ## What the payments say -/

/-- News come of a settling update that matched. -/
theorem Act.settling?_of_news? {act : Act} {event : Event} (h : act.news? = some event) :
    ∃ id p, (act.settling? = some ⟨id, .completed, some p⟩ ∧ event = .paymentCompleted p) ∨
      (act.settling? = some ⟨id, .failed, some p⟩ ∧ ∃ reason, event = .paymentFailed p reason) := by
  unfold news? at h
  split at h
  · cases h
    exact ⟨_, _, .inl ⟨rfl, rfl⟩⟩
  · cases h
    exact ⟨_, _, .inr ⟨rfl, _, rfl⟩⟩
  · cases h

/-- A payment is completed by an update that asks for just that. -/
theorem Act.news?_of_completed {act : Act} {id : Id} {p : Payment}
    (h : act.settling? = some ⟨id, .completed, some p⟩) :
    act.news? = some (.paymentCompleted p) ∧ act.completes = true := by
  unfold settling? at h
  split at h <;> cases h
  exact ⟨rfl, rfl⟩

theorem PaymentsKept.settling_holds {t : Tables} (h : PaymentsKept t record) {call : Nat}
    {act : Act} {id : Id} {status : PaymentStatus} {p : Payment} (hact : (call, act) ∈ record)
    (hsettling : act.settling? = some ⟨id, status, some p⟩) :
    p ∈ t.payments ∧ p.status = status := by
  have hs : (⟨id, status, some p⟩ : Settlement) ∈ settlings (record.map (·.2)) :=
    List.mem_filterMap.mpr ⟨act, List.mem_map_of_mem hact, hsettling⟩
  exact ⟨(h.outcome_eq (outcome_mem hs)).1, h.verdicts _ hs p rfl⟩

theorem diligentRecord_after (deeds : List Deed) :
    DiligentRecord (Shop.after deeds).calls (Shop.after deeds).record :=
  (diligent_after deeds).acts

/-- After any run, what was announced is so. -/
theorem told_holds (deeds : List Deed) {entry : Nat × Act} {event : Event}
    (hentry : entry ∈ (Shop.after deeds).record) (htells : entry.2.tells? = some event) :
    event.Holds (Shop.after deeds).tables.payments := by
  have hkept := paymentsKept_after deeds
  obtain ⟨act, hact, hnews⟩ := (diligentRecord_after deeds).genuine hentry htells
  obtain ⟨id, p, ⟨hsettling, rfl⟩ | ⟨hsettling, reason, rfl⟩⟩ := Act.settling?_of_news? hnews
  · exact hkept.settling_holds hact hsettling
  · exact hkept.settling_holds hact hsettling

/-- After any run, that a payment is completed was announced, or some call does it next. -/
theorem completed_told (deeds : List Deed) {p : Payment}
    (hp : p ∈ (Shop.after deeds).tables.payments) (hs : p.status = .completed) :
    ∃ call running, (Shop.after deeds).calls[call]? = some running ∧
      running.op.announces = true ∧
      ((call, .published (.paymentCompleted p)) ∈ (Shop.after deeds).record ∨
        newsIn (actsOf call (Shop.after deeds).record) = some (.paymentCompleted p)) := by
  have hkept := paymentsKept_after deeds
  have hdiligent := diligentRecord_after deeds
  have hsettled := (hkept.life p hp).settled
  rw [if_neg (by simp [hs])] at hsettled
  obtain ⟨missed, hout⟩ := hsettled
  have hmem : some p ∈ outcomesOf p.id (Shop.after deeds).record := by simp [hout]
  obtain ⟨s, hmatch, hgot⟩ := List.mem_map.mp hmem
  obtain ⟨hsettling, hid⟩ := List.mem_filter.mp hmatch
  have hstatus : s.status = .completed := (hkept.verdicts s hsettling p hgot).symm.trans hs
  obtain ⟨act, hact, hsame⟩ := List.mem_filterMap.mp hsettling
  obtain ⟨⟨call, act⟩, hentry, rfl⟩ := List.mem_map.mp hact
  obtain ⟨id, status, outcome⟩ := s
  subst hstatus hgot
  obtain ⟨hnews, hcompletes⟩ := Act.news?_of_completed hsame
  obtain ⟨earlier, later, hsplit⟩ := List.append_of_mem hentry
  obtain ⟨running, hcall, hrule⟩ := hdiligent earlier _ later hsplit
  have hop := hrule.completes hcompletes
  exact ⟨call, running, hcall, hop, hdiligent.announced hcall hop hentry hnews⟩

end Checkout
