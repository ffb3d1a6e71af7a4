-- The runs of a breaker whose permits go by names. What holds of a new breaker
-- and is kept up by each use of it holds after every run, whatever the steps
-- are and in whatever order the permits come back.
import Checkout.Proofs.Gateway.Moves
import Checkout.Proofs.History
import Checkout.Proofs.Store.Rows

namespace Checkout.Gateway.Breaker

/-! ## Permits by their names -/

namespace Holding

variable {h : Holding} {now : Instant} {name : String} {permit old : Permit}

/-- The permits that are out. -/
def permits (h : Holding) : List Permit := h.held.map (·.2)

/-- No two permits have the same name. -/
def Named (h : Holding) : Prop := (h.held.map (·.1)).Nodup

theorem mem_held_of_permit? (hp : h.permit? name = some permit) : (name, permit) ∈ h.held := by
  unfold permit? at hp
  obtain ⟨⟨found, other⟩, he, rfl⟩ := Option.map_eq_some_iff.mp hp
  obtain rfl : found = name := by simpa using List.find?_some he
  exact List.mem_of_find?_eq_some he

theorem notMem_without (h : Holding) (name : String) : name ∉ (h.without name).map (·.1) := by
  unfold without
  simp

theorem Named.without (hn : h.Named) (name : String) : ((h.without name).map (·.1)).Nodup := by
  unfold Holding.without
  exact hn.sublist (List.filter_sublist.map _)

/-- Taking the permit of a name away takes away just that one. -/
theorem permits_perm (hn : h.Named) (hp : h.permit? name = some permit) :
    h.permits.Perm (permit :: (h.without name).map (·.2)) := by
  have hone : h.held.filter (·.1 == name) = [(name, permit)] :=
    Store.filter_key_eq Prod.fst hn (mem_held_of_permit? hp)
  have hsplit := (List.filter_append_perm (·.1 == name) h.held).map (·.2)
  rw [hone] at hsplit
  exact hsplit.symm

theorem keep_of_none (hp : h.permit? name = none) (permit : Permit) :
    h.keep name permit = ⟨h.breaker, (name, permit) :: h.held⟩ := by
  simp [keep, drop, hp]

theorem keep_of_some (hp : h.permit? name = some old) (permit : Permit) :
    h.keep name permit = ⟨h.breaker.release old, (name, permit) :: h.without name⟩ := by
  simp [keep, drop, hp]

theorem notMem_of_permit? (hp : h.permit? name = none) : name ∉ h.held.map (·.1) := by
  unfold permit? at hp
  simp only [Option.map_eq_none_iff, List.find?_eq_none, beq_iff_eq] at hp
  intro hmem
  obtain ⟨entry, he, hname⟩ := List.mem_map.mp hmem
  exact hp entry he hname

theorem Named.keep (hn : h.Named) (name : String) (permit : Permit) :
    (h.keep name permit).Named := by
  unfold Named
  cases hp : h.permit? name with
  | none =>
    rw [keep_of_none hp, List.map_cons, List.nodup_cons]
    exact ⟨notMem_of_permit? hp, hn⟩
  | some old =>
    rw [keep_of_some hp, List.map_cons, List.nodup_cons]
    exact ⟨h.notMem_without name, hn.without name⟩

theorem Named.step (hn : h.Named) (now : Instant) (step : Step) : (h.step now step).2.Named := by
  cases step with
  | acquire name =>
    simp only [Holding.step, Holding.acquire]
    split
    · next permit b _ => exact Named.keep (h := ⟨b, h.held⟩) hn name permit
    · exact hn
  | record name success =>
    simp only [Holding.step, Holding.record]
    split
    · exact hn.without name
    · exact hn
  | drop name =>
    simp only [Holding.step, Holding.drop]
    split
    · exact hn.without name
    · exact hn
  | call ending => exact hn
  | elapse => exact hn

end Holding

/-! ## What is kept up -/

/-- Each use of a breaker keeps something up about the times of the steps so far, the breaker, its
permits that are out, and its moves. A step has to fit the times of those before it. -/
structure Upheld (fits : List Instant → Instant → Prop)
    (P : List Instant → Breaker → List Permit → List Move → Prop) : Prop where
  reorder : ∀ {past b out out' log}, out.Perm out' → P past b out log → P past b out' log
  pass : ∀ {past b out log} now, P past b out log → P (past ++ [now]) b out log
  gives : ∀ {past b b' out log now permit}, fits past now → P past b out log →
    b.acquire now = (.ok permit, b') →
    P (past ++ [now]) b' (permit :: out) (log ++ [b.giving now permit])
  refuses : ∀ {past b b' out log now fault}, P past b out log →
    b.acquire now = (.error fault, b') → P past b' out (log ++ [b.refusing now])
  reports : ∀ {past b out log permit} now success, P past b (permit :: out) log →
    P past (b.record now success) out (log ++ [b.reporting now success permit])
  drops : ∀ {past b out log permit}, P past b (permit :: out) log →
    P past (b.release permit) out (log ++ [b.dropping permit])

namespace Upheld

variable {fits : List Instant → Instant → Prop}
  {P : List Instant → Breaker → List Permit → List Move → Prop} {past : List Instant}
  {b : Breaker} {out : List Permit} {log : List Move} {permit : Permit} {now : Instant}

/-- A permit that is kept under a name takes the place of the one that was there. -/
theorem keeps (hP : Upheld fits P) {h : Holding} (hn : h.Named)
    (hout : P past b (permit :: h.permits) log) (name : String) :
    P past (Holding.keep ⟨b, h.held⟩ name permit).breaker
      (Holding.keep ⟨b, h.held⟩ name permit).permits
      (log ++ (h.permit? name).toList.map b.dropping) := by
  cases hp : h.permit? name with
  | none =>
    rw [Holding.keep_of_none (h := ⟨b, h.held⟩) hp, Option.toList_none, List.map_nil,
      List.append_nil]
    exact hout
  | some old =>
    rw [Holding.keep_of_some (h := ⟨b, h.held⟩) hp]
    apply hP.drops
    apply hP.reorder _ hout
    exact ((Holding.permits_perm hn hp).cons permit).trans (.swap old permit _)

theorem ends (hP : Upheld fits P) (hout : P past b (permit :: out) log) (now : Instant)
    (ending : Ending) :
    P past (b.ended now permit ending) out (log ++ [b.ending now permit ending]) := by
  cases ending with
  | success => exact hP.reports now true hout
  | failure => exact hP.reports now false hout
  | abandoned => exact hP.drops hout

theorem step (hP : Upheld fits P) {w : Watched} (hn : w.holding.Named)
    (hw : P past w.holding.breaker w.holding.permits w.log) (hfits : fits past now)
    (step : Step) :
    P (past ++ [now]) (w.step (now, step)).holding.breaker (w.step (now, step)).holding.permits
      (w.step (now, step)).log := by
  obtain ⟨h, log⟩ := w
  have hstill : P (past ++ [now]) h.breaker h.permits (log ++ []) := by
    rw [List.append_nil]
    exact hP.pass now hw
  cases step with
  | acquire name =>
    simp only [Watched.step, Holding.step, Holding.acquire, Holding.moves]
    cases ha : h.breaker.acquire now with
    | mk answer b =>
      cases answer with
      | error fault => exact hP.refuses (hP.pass now hw) ha
      | ok permit =>
        have hkept := hP.keeps hn (hP.gives hfits hw ha) name
        rwa [List.append_assoc] at hkept
  | record name success =>
    simp only [Watched.step, Holding.step, Holding.record, Holding.moves]
    cases hp : h.permit? name with
    | none => exact hstill
    | some permit =>
      exact hP.reports now success (hP.reorder (Holding.permits_perm hn hp) (hP.pass now hw))
  | drop name =>
    simp only [Watched.step, Holding.step, Holding.drop, Holding.moves]
    cases hp : h.permit? name with
    | none => exact hstill
    | some permit => exact hP.drops (hP.reorder (Holding.permits_perm hn hp) (hP.pass now hw))
  | call ending =>
    simp only [Watched.step, Holding.step, call_eq, Holding.moves]
    cases ha : h.breaker.acquire now with
    | mk answer b =>
      cases answer with
      | error fault => exact hP.refuses (hP.pass now hw) ha
      | ok permit =>
        have hended := hP.ends (hP.gives hfits hw ha) now ending
        rwa [List.append_assoc] at hended
  | elapse => exact hstill

theorem after (hP : Upheld fits P) (name : String) (c : Config)
    (hnew : P [] (new name c) [] []) (steps : List (Instant × Step))
    (hfits : Throughout fits (steps.map (·.1))) :
    (Watched.after name c steps).holding.Named ∧
      P (steps.map (·.1)) (Watched.after name c steps).holding.breaker
        (Watched.after name c steps).holding.permits (Watched.after name c steps).log := by
  induction steps using List.reverseRecOn with
  | nil => exact ⟨List.nodup_nil, hnew⟩
  | append_singleton steps timed ih =>
    rw [List.map_append, List.map_singleton] at hfits ⊢
    obtain ⟨hbefore, htime⟩ := hfits.of_concat
    obtain ⟨hn, hw⟩ := ih hbefore
    rw [Watched.after_concat]
    exact ⟨hn.step timed.1 timed.2, hP.step hn hw htime timed.2⟩

end Upheld

/-! ## Times -/

/-- On a clock that runs on between the steps, no two of them have the same time. -/
theorem times_nodup {steps : List (Instant × Step)}
    (hclock : steps.Pairwise fun a b => a.1.nanoseconds < b.1.nanoseconds) :
    (steps.map (·.1)).Nodup := by
  refine List.Pairwise.map _ ?_ hclock
  intro a b hlt heq
  rw [heq] at hlt
  exact Nat.lt_irrefl _ hlt

theorem fresh_of_nodup {times : List Instant} (h : times.Nodup) :
    Throughout (fun past now => now ∉ past) times := by
  intro earlier now later hsplit hmem
  rw [hsplit, List.nodup_append] at h
  exact h.2.2 now hmem now List.mem_cons_self rfl

end Checkout.Gateway.Breaker
