-- Calls that use a coupon up or make it good again, in two halves. The first
-- reads the coupon; the second writes it, and goes through only if the version
-- is still the one that was read. What each half can do to a coupon that was
-- read some time ago is said here once.
import Checkout.Proofs.Store.Calm
import Checkout.Proofs.Store.Effects
import Checkout.Store.Placement

namespace Checkout.Store

/-! ## Work that changes one row -/

namespace Work

/-- What some work comes to. If it fails, the tables stay as they are. -/
def outcome {α : Type} (w : Work α) (c : Conditions) (t : Tables) : Except Fault α × Tables :=
  match w c t with
  | .ok (a, t) => (.ok a, t)
  | .error f => (.error f, t)

/-- Work that succeeds has done its first part and then the rest. -/
theorem bind_ok {α β : Type} {w : Work α} {next : α → Work β} {c : Conditions} {t : Tables}
    {r : β × Tables} (h : (w >>= next) c t = .ok r) :
    ∃ a t', w c t = .ok (a, t') ∧ next a c t' = .ok r := by
  rw [bind_run] at h
  split at h
  · next a t' hw => exact ⟨a, t', hw, h⟩
  · cases h

section Rows

variable {α : Type} [Row α]

/-- Whatever the medium is like, an update changes a row that meets its condition, or gives
nothing, or tells of a failure of the store. -/
theorem update_cases (id : Id) (meets : α → Bool) (f : α → α) (c : Conditions) (t : Tables) :
    (∃ row, t.find? id = some row ∧ meets row = true ∧
      update id meets (fun row => return f row) c t =
        .ok (some (f row), t.replace id (f row))) ∨
    update id meets (fun row => return f row) c t = .ok (none, t) ∨
    ∃ cause, update id meets (fun row => return f row) c t = .error (.storage cause) := by
  cases hfound : (t.find? id).filter meets with
  | none =>
    right; left
    simp [update, change, hfound, reading]
  | some row =>
    obtain ⟨hrow, hmeets⟩ := Option.filter_eq_some_iff.mp hfound
    cases hd : c.medium.disturbance? (Row.table α) .update with
    | none =>
      by_cases hdamaged : c.medium.isDamaged (Row.table α) (Row.key (f row)) = true
      · right; right
        simp [update, change, hfound, writing, disturbance, hd, reading, hdamaged]
      · left
        refine ⟨row, hrow, hmeets, ?_⟩
        simp [update, change, hfound, writing, disturbance, hd, reading, hdamaged]
    | some d =>
      cases d with
      | refused =>
        right; right
        simp [update, change, hfound, writing, disturbance, hd]
      | ignored =>
        right; left
        simp [update, change, hfound, writing, disturbance, hd, reading]

theorem reading_ok {rows found : List α} {c : Conditions} {t t' : Tables}
    (h : reading rows c t = .ok (found, t')) : t' = t ∧ found = rows := by
  unfold reading at h
  split at h
  · cases h
  · cases h
    exact ⟨rfl, rfl⟩

theorem fetch_ok {id : Id} {visible : α → Bool} {c : Conditions} {t t' : Tables} {found : Option α}
    (h : fetch id visible c t = .ok (found, t')) :
    t' = t ∧ found = (t.find? id).filter visible := by
  obtain ⟨row, t₁, hview, hrest⟩ := bind_ok h
  cases hview
  obtain ⟨rows, t₂, hread, hhead⟩ := bind_ok hrest
  obtain ⟨rfl, rfl⟩ := reading_ok hread
  cases hhead
  cases (t'.find? id).filter visible <;> simp

end Rows

theorem orFail_ok {α : Type} {f : Fault} {found : Option α} {a : α} {c : Conditions}
    {t t' : Tables} (h : orFail f found c t = .ok (a, t')) : t' = t ∧ found = some a := by
  cases found with
  | none => cases h
  | some b =>
    cases h
    exact ⟨rfl, rfl⟩

theorem mapFault_ok {α : Type} {w : Work α} {f : Fault → Fault} {c : Conditions} {t : Tables}
    {r : α × Tables} (h : mapFault w f c t = .ok r) : w c t = .ok r := by
  rw [mapFault_run] at h
  split at h
  · next hw =>
    cases h
    exact hw
  · cases h

theorem mapFault_bind {α β : Type} (w : Work α) (next : α → Work β) (f : Fault → Fault) :
    mapFault (w >>= next) f = mapFault w f >>= fun a => mapFault (next a) f := by
  funext c t
  simp only [mapFault_run, bind_run]
  cases w c t <;> rfl

end Work

theorem Tables.find?_replace {t : Tables} {id : Id} {c new : Coupon} (hc : t.find? id = some c)
    (hnew : new.id = id) : (t.replace id new).find? id = some new := by
  have hkey : ((fun c : Coupon => c.id == id) ∘ fun c => if c.id == id then new else c) =
      fun c => c.id == id := by
    funext c
    by_cases h : c.id = id <;> simp [h, hnew]
  change (t.coupons.map fun c => if c.id == id then new else c).find? (·.id == id) = some new
  have hfound : t.coupons.find? (·.id == id) = some c := hc
  have hid : c.id = id := (find?_eq_some hc).2
  rw [List.find?_map, hkey, hfound]
  simp [hid]

/-! ## Calls in two halves -/

namespace Coupons

/-- A call that may change a coupon. -/
inductive Errand where
  | consume (ownerId : Id)
  /-- Uses the coupon up for a line of an order. -/
  | order (userId : Id)
  | restore

/-- What an order says of a coupon that was changed in between. -/
def toldByOrder : Fault → Fault
  | .versionConflict id => .alreadyUsed id
  | f => f

namespace Errand

/-- The status that a call gives the coupon. -/
def target : Errand → CouponStatus
  | .consume _ => .used
  | .order _ => .used
  | .restore => .unused

/-- How a call words its failures. -/
def told : Errand → Fault → Fault
  | .order _ => toldByOrder
  | _ => id

/-- The first half of a call, which reads the coupon. -/
def reading (id : Id) : Errand → Work Coupon
  | .consume ownerId => fetchOwned id ownerId
  | .order userId => (fetchOwned id userId).mapFault toldByOrder
  | .restore => do Work.orFail (.notFound (.coupon id)) (← fetch id)

/-- Uses up a coupon as it was read. -/
def spending (id : Id) (read : Coupon) : Work Coupon := do
  if read.isUsed then Work.fail (.alreadyUsed id)
  swap read .used

/-- The second half of a call, which writes the coupon as it was read, if its status has to
change. -/
def writing (id : Id) (read : Coupon) : Errand → Work Coupon
  | .consume _ => spending id read
  | .order _ => (spending id read).mapFault toldByOrder
  | .restore => if read.isUsed then swap read .unused else return read

/-- The half of a call that is next, given what it has read. -/
def half (id : Id) (errand : Errand) : Option Coupon → Work Coupon
  | none => errand.reading id
  | some read => errand.writing id read

end Errand

/-- The calls are made up of their halves. -/
structure Halved (id : Id) : Prop where
  consume : ∀ ownerId, consume id ownerId =
    (Errand.consume ownerId).reading id >>= fun read => (Errand.consume ownerId).writing id read
  order : ∀ userId, Orders.consumeFor userId (some id) = do
    let read ← (Errand.order userId).reading id
    return some (← (Errand.order userId).writing id read)
  restore : restore id =
    Errand.restore.reading id >>= fun read => Errand.restore.writing id read

theorem halved (id : Id) : Halved id where
  consume := by
    intro ownerId
    rfl
  order := by
    intro userId
    have hwhole : Orders.consumeFor userId (some id) = do
        return some (← (consume id userId).mapFault toldByOrder) := rfl
    have hcall : consume id userId = fetchOwned id userId >>= Errand.spending id := rfl
    rw [hwhole, hcall, Work.mapFault_bind]
    funext c t
    simp only [Errand.reading, Errand.writing, Work.bind_run]
    cases (fetchOwned id userId).mapFault toldByOrder c t <;> rfl
  restore := by
    funext c t
    simp only [restore, Errand.reading, Errand.writing, Work.bind_run]
    cases fetch id c t with
    | error f => rfl
    | ok found => rfl

/-! ## One half at a time -/

section Halves

variable {id : Id} {c : Conditions} {t t' : Tables} {read row : Coupon} {errand : Errand}

theorem swap_eq (read : Coupon) (status : CouponStatus) :
    swap read status =
      Work.update read.id (fun row : Coupon => row.version == read.version)
          (fun row => return row.switched status) >>=
        Work.orFail (.versionConflict read.id) := rfl

/-- A write goes through only on the version that was read. -/
theorem swap_cases (read : Coupon) (status : CouponStatus) (c : Conditions) (t : Tables) :
    (∃ row : Coupon, t.find? read.id = some row ∧ row.version = read.version ∧
      swap read status c t =
        .ok (row.switched status, t.replace read.id (row.switched status))) ∨
    swap read status c t = .error (.versionConflict read.id) ∨
    ∃ cause, swap read status c t = .error (.storage cause) := by
  rw [swap_eq, Work.bind_run]
  rcases Work.update_cases read.id (fun row : Coupon => row.version == read.version)
    (·.switched status) c t with ⟨row, hrow, hsame, hdone⟩ | hnone | ⟨cause, hfailed⟩
  · rw [hdone]
    exact .inl ⟨row, hrow, by simpa using hsame, rfl⟩
  · rw [hnone]
    exact .inr (.inl rfl)
  · rw [hfailed]
    exact .inr (.inr ⟨cause, rfl⟩)

/-- On a medium that does what it is told, nothing else decides. -/
theorem swap_sound (read : Coupon) (status : CouponStatus) (t : Tables)
    (hsound : c.medium = .sound) :
    swap read status c t =
      match (t.find? read.id).filter fun row : Coupon => row.version == read.version with
      | some row => .ok (row.switched status, t.replace read.id (row.switched status))
      | none => .error (.versionConflict read.id) := by
  have hcalm : c = .calm c.now := by
    unfold Conditions.calm
    rw [← hsound]
  rw [hcalm, swap_eq, Work.bind_run, Work.update_calm]
  cases (t.find? read.id).filter fun row : Coupon => row.version == read.version <;> rfl

/-- Whoever is given the coupon, or a part of what is found, is given it as it stands. -/
theorem fetched_ok {f : Fault} {keep : Option Coupon → Option Coupon}
    (hkeep : ∀ found, keep found = some read → found = some read)
    (h : (fetch id >>= fun found => Work.orFail f (keep found)) c t = .ok (read, t')) :
    t' = t ∧ t.find? id = some read := by
  obtain ⟨found, t₁, hfetch, hgiven⟩ := Work.bind_ok h
  obtain ⟨rfl, rfl⟩ := Work.fetch_ok hfetch
  obtain ⟨rfl, hfound⟩ := Work.orFail_ok hgiven
  exact ⟨rfl, (Option.filter_eq_some_iff.mp (hkeep _ hfound)).1⟩

theorem fetchOwned_ok {ownerId : Id} (h : fetchOwned id ownerId c t = .ok (read, t')) :
    t' = t ∧ t.find? id = some read :=
  fetched_ok (fun _ hfound => (Option.filter_eq_some_iff.mp hfound).1) h

namespace Errand

theorem told_storage (errand : Errand) (cause : StorageFault) :
    errand.told (.storage cause) = .storage cause := by
  cases errand <;> rfl

/-- A call reads the coupon as it stands. -/
theorem reading_ok (h : errand.reading id c t = .ok (read, t')) :
    t' = t ∧ t.find? id = some read := by
  cases errand with
  | consume ownerId => exact fetchOwned_ok h
  | order userId => exact fetchOwned_ok (Work.mapFault_ok h)
  | restore => exact fetched_ok (fun found (hfound : found = some read) => hfound) h

/-- A call whose coupon has the wanted status already writes nothing. -/
theorem writing_still (h : read.status = errand.target) (id : Id) (c : Conditions) (t : Tables) :
    ((errand.writing id read).outcome c t).2 = t := by
  cases errand <;> simp_all [writing, spending, target, Coupon.isUsed, Work.outcome]

/-- Any other call tries to write, and words a failure in its own way. -/
theorem writing_swap (h : read.status ≠ errand.target) (id : Id) :
    errand.writing id read = (swap read errand.target).mapFault errand.told := by
  have hkept (w : Work Coupon) : w.mapFault (fun f => f) = w := by
    funext c t
    rw [Work.mapFault_run]
    cases w c t <;> rfl
  cases hs : read.status with
  | unused =>
    have hspending : spending id read = swap read .used := by
      unfold spending
      rw [if_neg (by simp [Coupon.isUsed, hs])]
    cases errand with
    | consume ownerId => exact hspending.trans (hkept _).symm
    | order userId => exact congrArg (Work.mapFault · toldByOrder) hspending
    | restore => exact absurd hs h
  | used =>
    cases errand with
    | consume ownerId => exact absurd hs h
    | order userId => exact absurd hs h
    | restore =>
      unfold writing
      rw [if_pos (by simp [Coupon.isUsed, hs])]
      exact (hkept _).symm

end Errand

end Halves

/-! ## Acts -/

/-- One half of a call as it was carried out. -/
structure Act where
  errand : Errand
  /-- What the call had read, if this is its second half. -/
  read? : Option Coupon
  conditions : Conditions
  before : Tables
  answer : Except Fault Coupon
  after : Tables

namespace Act

def of (id : Id) (errand : Errand) (read? : Option Coupon) (c : Conditions) (t : Tables) : Act :=
  let (answer, after) := (errand.half id read?).outcome c t
  ⟨errand, read?, c, t, answer, after⟩

/-- The call came so far as to write. -/
def reached (a : Act) : Bool := a.read?.any (·.status != a.errand.target)

/-- A write that was successful. -/
def wrote (a : Act) : Bool := a.reached && a.answer.toBool

/-- The coupon was used up. -/
def spent (a : Act) : Bool := a.wrote && a.errand.target == .used

/-- The coupon was made good again. -/
def restored (a : Act) : Bool := a.wrote && a.errand.target == .unused

/-- What one half of a call can have done. -/
structure Lawful (id : Id) (a : Act) : Prop where
  /-- A write starts from the coupon as its own call had read it, and moves the version on by
  one. -/
  written : a.wrote = true → ∃ read, a.read? = some read ∧ a.before.find? id = some read ∧
    read.status ≠ a.errand.target ∧ a.answer = .ok (read.switched a.errand.target) ∧
    a.after.find? id = some (read.switched a.errand.target)
  still : a.wrote = false → a.after = a.before
  /-- A write that fails says that the version has moved on, or the store failed. -/
  refused : a.reached = true → a.wrote = false →
    a.answer = .error (a.errand.told (.versionConflict id)) ∨
      ∃ cause, a.answer = .error (.storage cause)
  /-- On a medium that does what it is told, the version has moved on. -/
  stale : a.reached = true → a.wrote = false → a.conditions.medium = .sound →
    a.answer = .error (a.errand.told (.versionConflict id)) ∧
      ∃ read row : Coupon, a.read? = some read ∧ a.before.find? id = some row ∧
        read.version < row.version

/-- What a call has read is the coupon as it stands, or an older version of it. -/
def Recent (id : Id) (t : Tables) (read : Coupon) : Prop :=
  read.id = id ∧ ∃ row : Coupon, t.find? id = some row ∧ (read.version < row.version ∨ read = row)

variable {id : Id} {errand : Errand} {c : Conditions} {t : Tables} {read row : Coupon} {a : Act}

theorem reading_lawful (id : Id) (errand : Errand) (c : Conditions) (t : Tables) :
    (of id errand none c t).Lawful id := by
  have hreached : (of id errand none c t).reached = false := rfl
  have hafter : (of id errand none c t).after = t := by
    change ((errand.reading id).outcome c t).2 = t
    unfold Work.outcome
    split
    · next read t' hread => exact (Errand.reading_ok hread).1
    · rfl
  constructor
  · simp [wrote, hreached]
  · intro _
    exact hafter
  · simp [hreached]
  · simp [hreached]

theorem recent_of_reading (h : (of id errand none c t).answer = .ok read) :
    Recent id (of id errand none c t).after read := by
  rw [(reading_lawful id errand c t).still rfl]
  change ((errand.reading id).outcome c t).1 = .ok read at h
  unfold Work.outcome at h
  split at h
  · next found t' hread =>
    cases h
    have hrow : t.find? id = some read := (Errand.reading_ok hread).2
    exact ⟨(Tables.find?_eq_some hrow).2, read, hrow, .inr rfl⟩
  · cases h

/-- What a second half comes to where the coupon does not have the wanted status yet. -/
theorem of_swap (h : read.status ≠ errand.target) (id : Id) (c : Conditions) (t : Tables) :
    of id errand (some read) c t =
      match swap read errand.target c t with
      | .ok (new, t') => ⟨errand, some read, c, t, .ok new, t'⟩
      | .error f => ⟨errand, some read, c, t, .error (errand.told f), t⟩ := by
  unfold of Errand.half Work.outcome
  simp only [Errand.writing_swap h, Work.mapFault_run]
  cases swap read errand.target c t <;> rfl

/-- The write of the coupon as it stands. -/
theorem landing_lawful (h : read.status ≠ errand.target) (hrow : t.find? read.id = some read) :
    Lawful read.id ⟨errand, some read, c, t, .ok (read.switched errand.target),
      t.replace read.id (read.switched errand.target)⟩ := by
  have hwrote (t' : Tables) : wrote ⟨errand, some read, c, t, .ok (read.switched errand.target),
      t'⟩ = true := by
    simp [wrote, reached, h, Except.toBool]
  constructor
  · intro _
    exact ⟨read, rfl, hrow, h, rfl, Tables.find?_replace hrow rfl⟩
  · simp [hwrote]
  · simp [hwrote]
  · simp [hwrote]

/-- A write that fails. -/
theorem failing_lawful {f : Fault} (h : Recent id t read)
    (hfailed : swap read errand.target c t = .error f) :
    Lawful id ⟨errand, some read, c, t, .error (errand.told f), t⟩ := by
  obtain ⟨rfl, row, hrow, hage⟩ := h
  constructor
  · simp [wrote, Except.toBool]
  · intro _
    rfl
  · intro _ _
    rcases swap_cases read errand.target c t with ⟨row, -, -, hdone⟩ | hconflict | ⟨cause, hstore⟩
    · rw [hfailed] at hdone
      cases hdone
    · rw [hfailed] at hconflict
      cases hconflict
      exact .inl rfl
    · rw [hfailed] at hstore
      cases hstore
      exact .inr ⟨cause, congrArg Except.error (errand.told_storage cause)⟩
  · intro _ _ hsound
    rw [swap_sound read errand.target t hsound, hrow] at hfailed
    by_cases hsame : row.version = read.version
    · simp [hsame, Option.filter_some] at hfailed
    · simp [hsame, Option.filter_some] at hfailed
      subst hfailed
      refine ⟨rfl, read, row, rfl, hrow, ?_⟩
      rcases hage with hless | rfl
      · exact hless
      · exact absurd rfl hsame

theorem writing_lawful (h : Recent id t read) (errand : Errand) (c : Conditions) :
    (of id errand (some read) c t).Lawful id := by
  by_cases hs : read.status = errand.target
  · have hreached : (of id errand (some read) c t).reached = false := by
      simp [reached, of, hs]
    constructor
    · simp [wrote, hreached]
    · intro _
      exact Errand.writing_still hs id c t
    · simp [hreached]
    · simp [hreached]
  · rw [of_swap hs]
    cases hswap : swap read errand.target c t with
    | error f => exact failing_lawful h hswap
    | ok r =>
      obtain ⟨rfl, row, hrow, hage⟩ := h
      rcases swap_cases read errand.target c t with
        ⟨found, hfound, hsame, hdone⟩ | hconflict | ⟨cause, hstore⟩
      · obtain rfl : found = row := by
          rw [hrow] at hfound
          cases hfound
          rfl
        obtain rfl : read = found := by
          rcases hage with hless | rfl
          · omega
          · rfl
        rw [hdone] at hswap
        cases hswap
        exact landing_lawful hs hrow
      · rw [hswap] at hconflict
        cases hconflict
      · rw [hswap] at hstore
        cases hstore

/-- A lawful act leaves the coupon as it was, or switched to the status that its call wanted. -/
theorem Lawful.row_after (h : a.Lawful id) (hrow : a.before.find? id = some row) :
    a.after.find? id = some (if a.wrote then row.switched a.errand.target else row) := by
  cases hw : a.wrote with
  | false =>
    rw [h.still hw]
    exact hrow
  | true =>
    obtain ⟨read, -, hread, -, -, hafter⟩ := h.written hw
    rw [hrow] at hread
    cases hread
    exact hafter

/-- What was read goes out of date, and no worse. -/
theorem Recent.after (h : Recent id a.before read) (ha : a.Lawful id) :
    Recent id a.after read := by
  obtain ⟨hid, row, hrow, hage⟩ := h
  refine ⟨hid, _, ha.row_after hrow, ?_⟩
  cases a.wrote with
  | false => exact hage
  | true =>
    left
    change read.version < row.version + 1
    rcases hage with hless | rfl
    · omega
    · omega

end Act

end Coupons

end Checkout.Store
