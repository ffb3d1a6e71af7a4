-- What the steps of a unit of work come to on a medium that does what it is
-- told. A unit of work is taken apart by these laws, and never unfolded
-- further down than its steps.
import Checkout.Store.Query

namespace Checkout.Store

/-- A time, and a medium that does what it is told. -/
def Conditions.calm (now : Moment) : Conditions := ⟨now, .sound⟩

namespace Work

variable {α β : Type}

/-! ## Work without rows -/

@[simp] theorem pure_run (a : α) (c : Conditions) (t : Tables) :
    (pure a : Work α) c t = .ok (a, t) := rfl

@[simp] theorem bind_run (w : Work α) (next : α → Work β) (c : Conditions) (t : Tables) :
    (w >>= next) c t = match w c t with
      | .ok (a, t) => next a c t
      | .error f => .error f := rfl

@[simp] theorem fail_run (f : Fault) (c : Conditions) (t : Tables) :
    (fail f : Work α) c t = .error f := rfl

@[simp] theorem view_run (look : Tables → α) (c : Conditions) (t : Tables) :
    view look c t = .ok (look t, t) := rfl

@[simp] theorem modify_run (change : Tables → Tables) (c : Conditions) (t : Tables) :
    modify change c t = .ok ((), change t) := rfl

@[simp] theorem now_run (c : Conditions) (t : Tables) : now c t = .ok (c.now, t) := rfl

@[simp] theorem orFail_some (f : Fault) (a : α) (c : Conditions) (t : Tables) :
    orFail f (some a) c t = .ok (a, t) := rfl

@[simp] theorem orFail_none (f : Fault) (c : Conditions) (t : Tables) :
    (orFail f none : Work α) c t = .error f := rfl

@[simp] theorem ofExcept_ok (a : α) (c : Conditions) (t : Tables) :
    ofExcept (.ok a) c t = .ok (a, t) := rfl

@[simp] theorem ofExcept_error (f : Fault) (c : Conditions) (t : Tables) :
    (ofExcept (.error f) : Work α) c t = .error f := rfl

@[simp] theorem mapFault_run (w : Work α) (f : Fault → Fault) (c : Conditions) (t : Tables) :
    mapFault w f c t = match w c t with
      | .ok at' => .ok at'
      | .error fault => .error (f fault) := by
  unfold mapFault
  cases w c t <;> rfl

/-! ## Rows -/

variable [Row α]

theorem constrain_run (kept : Bool) (c : Conditions) (t : Tables) :
    constrain α kept c t = if kept then .ok ((), t)
      else .error (.storage (.constraint (Enumeration.word (Row.table α)))) := by
  cases kept <;> rfl

theorem reading_calm (rows : List α) (now : Moment) (t : Tables) :
    reading rows (.calm now) t = .ok (rows, t) := by
  simp [reading, Conditions.calm, Medium.sound, Medium.isDamaged]

theorem fetch_calm (id : Id) (visible : α → Bool) (now : Moment) (t : Tables) :
    fetch id visible (.calm now) t = .ok ((t.find? id).filter visible, t) := by
  cases h : (t.find? id).filter visible <;> simp [fetch, reading_calm, h]

theorem select_calm (meets : α → Bool) (now : Moment) (t : Tables) :
    select meets (.calm now) t = .ok ((Row.rows t).filter meets, t) := by
  simp [select, reading_calm]

theorem disturbance_calm (table : TableName) (write : Write) (now : Moment) (t : Tables) :
    disturbance table write (.calm now) t = .ok (none, t) := rfl

theorem change_calm (id : Id) (meets : α → Bool) (make : α → Work α) (now : Moment)
    (t : Tables) :
    change id meets make (.calm now) t =
      match (t.find? id).filter meets with
      | none => .ok (none, t)
      | some row => match make row (.calm now) t with
        | .ok (changed, t) => .ok (some changed, t.replace id changed)
        | .error f => .error f := by
  cases h : (t.find? id).filter meets with
  | none => simp [change, h]
  | some row =>
    simp only [change, bind_run, view_run, h, writing, disturbance_calm]
    cases make row (.calm now) t <;> rfl

theorem update_calm (id : Id) (meets : α → Bool) (make : α → Work α) (now : Moment)
    (t : Tables) :
    update id meets make (.calm now) t =
      match (t.find? id).filter meets with
      | none => .ok (none, t)
      | some row => match make row (.calm now) t with
        | .ok (changed, t) => .ok (some changed, t.replace id changed)
        | .error f => .error f := by
  simp only [update, bind_run, change_calm]
  cases h : (t.find? id).filter meets with
  | none => simp [reading_calm]
  | some row =>
    simp only
    cases make row (.calm now) t <;> simp [reading_calm]

theorem insert_calm (make : Id → Work α) (now : Moment) (t : Tables) :
    insert make (.calm now) t =
      match make (t.nextId α) (.calm now) t with
      | .ok (row, t) => .ok (some row, t.append row)
      | .error f => .error f := by
  simp only [insert, writing, bind_run, disturbance_calm, view_run]
  cases make (t.nextId α) (.calm now) t <;> rfl

theorem insertAndGet_calm (make : Id → Work α) (now : Moment) (t : Tables) :
    insertAndGet make (.calm now) t =
      match make (t.nextId α) (.calm now) t with
      | .ok (row, t) => .ok (row, t.append row)
      | .error f => .error f := by
  simp only [insertAndGet, bind_run, insert_calm]
  cases make (t.nextId α) (.calm now) t <;> simp

end Work

end Checkout.Store
