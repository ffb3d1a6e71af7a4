-- Sums over the members of a list that meet a condition. Stock, balances and
-- coupons are all accounted for by such sums over the rows of a table.
import Mathlib.Algebra.BigOperators.Group.List.Basic
import Mathlib.Algebra.Ring.Int.Defs
import Mathlib.Data.List.Nodup

namespace Checkout

variable {α β : Type}

/-- The sum of a figure over the members of a list that meet a condition. -/
def tally (meets : α → Bool) (figure : α → Int) (l : List α) : Int :=
  ((l.filter meets).map figure).sum

@[simp] theorem tally_nil (meets : α → Bool) (figure : α → Int) : tally meets figure [] = 0 := rfl

theorem tally_cons (meets : α → Bool) (figure : α → Int) (x : α) (l : List α) :
    tally meets figure (x :: l) = (if meets x then figure x else 0) + tally meets figure l := by
  unfold tally
  cases h : meets x <;> simp [h]

theorem tally_append (meets : α → Bool) (figure : α → Int) (l more : List α) :
    tally meets figure (l ++ more) = tally meets figure l + tally meets figure more := by
  simp [tally]

theorem tally_map (meets : β → Bool) (figure : β → Int) (f : α → β) (l : List α) :
    tally meets figure (l.map f) = tally (fun x => meets (f x)) (fun x => figure (f x)) l := by
  induction l with
  | nil => rfl
  | cons x l ih => rw [List.map_cons, tally_cons, tally_cons, ih]

theorem tally_mapIdx {meets : β → Bool} {figure : β → Int} {meets' : α → Bool}
    {figure' : α → Int} {f : Nat → α → β} (hm : ∀ i x, meets (f i x) = meets' x)
    (hf : ∀ i x, figure (f i x) = figure' x) (l : List α) :
    tally meets figure (l.mapIdx f) = tally meets' figure' l := by
  induction l generalizing f with
  | nil => rfl
  | cons x l ih =>
    rw [List.mapIdx_cons, tally_cons, tally_cons, hm, hf,
      ih (fun i x => hm (i + 1) x) (fun i x => hf (i + 1) x)]

/-- Only what the members themselves say about the condition and the figure counts. -/
theorem tally_congr {meets meets' : α → Bool} {figure figure' : α → Int} {l : List α}
    (hm : ∀ x ∈ l, meets x = meets' x) (hf : ∀ x ∈ l, figure x = figure' x) :
    tally meets figure l = tally meets' figure' l := by
  induction l with
  | nil => rfl
  | cons x l ih =>
    rw [tally_cons, tally_cons, hm x List.mem_cons_self, hf x List.mem_cons_self,
      ih (fun y hy => hm y (List.mem_cons_of_mem x hy))
        (fun y hy => hf y (List.mem_cons_of_mem x hy))]

theorem tally_eq_zero {meets : α → Bool} {l : List α} (figure : α → Int)
    (h : ∀ x ∈ l, meets x = false) : tally meets figure l = 0 := by
  unfold tally
  rw [List.filter_eq_nil_iff.mpr (fun x hx => by simp [h x hx])]
  rfl

theorem tally_nonneg {figure : α → Int} {l : List α} (meets : α → Bool)
    (h : ∀ x ∈ l, 0 ≤ figure x) : 0 ≤ tally meets figure l := by
  induction l with
  | nil => simp
  | cons x l ih =>
    have hx := h x List.mem_cons_self
    have hl := ih fun y hy => h y (List.mem_cons_of_mem x hy)
    rw [tally_cons]
    split <;> omega

/-- The members that meet a condition are those that meet another one as well, and those that
do not. -/
theorem tally_split (meets also : α → Bool) (figure : α → Int) (l : List α) :
    tally meets figure l = tally (fun x => meets x && also x) figure l +
      tally (fun x => meets x && !also x) figure l := by
  induction l with
  | nil => simp
  | cons x l ih =>
    rw [tally_cons, tally_cons, tally_cons, ih]
    cases meets x <;> cases also x <;> simp <;> omega

/-- What is tallied among some of the members is at most what is tallied among all of them. -/
theorem tally_le_of_imp {meets meets' : α → Bool} {figure : α → Int} {l : List α}
    (hm : ∀ x ∈ l, meets x → meets' x) (h : ∀ x ∈ l, 0 ≤ figure x) :
    tally meets figure l ≤ tally meets' figure l := by
  have hboth : tally (fun x => meets' x && meets x) figure l = tally meets figure l :=
    tally_congr (fun x hx => by
      cases hx' : meets x
      · simp
      · simp [hm x hx hx']) fun _ _ => rfl
  have hrest := tally_nonneg (fun x => meets' x && !meets x) h
  rw [tally_split meets' meets, hboth]
  omega

/-- Where no two members have the same key, the members of a key are just one. -/
theorem tally_single [BEq β] [LawfulBEq β] (key : α → β) (meets : α → Bool) (figure : α → Int)
    {l : List α} {x : α} (hn : (l.map key).Nodup) (hx : x ∈ l) :
    tally (fun y => meets y && key y == key x) figure l = if meets x then figure x else 0 := by
  induction l with
  | nil => cases hx
  | cons y l ih =>
    rw [List.map_cons, List.nodup_cons] at hn
    rw [tally_cons]
    rcases List.mem_cons.mp hx with rfl | hx
    · rw [tally_eq_zero figure (l := l) fun z hz => ?_]
      · simp
      · have hne : key z ≠ key x := fun h => hn.1 (h ▸ List.mem_map_of_mem hz)
        simp [hne]
    · have hne : key y ≠ key x := fun h => hn.1 (h ▸ List.mem_map_of_mem hx)
      rw [ih hn.2 hx]
      simp [hne]

theorem tally_filter (meets also : α → Bool) (figure : α → Int) (l : List α) :
    tally meets figure (l.filter also) = tally (fun x => meets x && also x) figure l := by
  rw [tally, List.filter_filter]
  rfl

theorem tally_perm {l l' : List α} (meets : α → Bool) (figure : α → Int) (h : l.Perm l') :
    tally meets figure l = tally meets figure l' :=
  ((h.filter meets).map figure).sum_eq

/-- How often something is named by the members of a list. -/
theorem count_filterMap [DecidableEq β] (name : α → Option β) (b : β) (l : List α) :
    ((l.filterMap name).count b : Int) = tally (name · == some b) (fun _ => 1) l := by
  induction l with
  | nil => rfl
  | cons x l ih =>
    rw [tally_cons, ← ih]
    cases hx : name x with
    | none => simp [List.filterMap_cons_none hx]
    | some c =>
      rw [List.filterMap_cons_some hx, List.count_cons]
      by_cases hc : c = b
      · simp [hc]
        omega
      · simp [hc]

end Checkout
