-- The rows of a table by their keys. Where the keys of a table are all
-- different, a row is found by its key, and replacing it is changing every
-- row of that key.
import Checkout.Store.Tables
import Mathlib.Data.List.Nodup

namespace Checkout.Store

/-! ## Ids that count up from one -/

/-- The ids are 1, 2, 3 and so on. -/
def Counted (ids : List Int) : Prop :=
  ids = (List.range ids.length).map fun n : Nat => (n : Int) + 1

namespace Counted

variable {ids : List Int}

theorem mem_iff (h : Counted ids) (id : Int) : id ∈ ids ↔ 1 ≤ id ∧ id ≤ ids.length := by
  constructor
  · intro hid
    rw [h, List.mem_map] at hid
    obtain ⟨n, hn, rfl⟩ := hid
    rw [List.mem_range] at hn
    omega
  · rintro ⟨h1, h2⟩
    rw [h, List.mem_map]
    exact ⟨(id - 1).toNat, List.mem_range.mpr (by omega), by omega⟩

theorem nodup (h : Counted ids) : ids.Nodup := by
  rw [h]
  exact List.nodup_range.map fun a b hab => by omega

theorem increasing (h : Counted ids) : ids.Pairwise (· < ·) := by
  rw [h, List.pairwise_map]
  exact List.pairwise_lt_range.imp fun hlt => by omega

/-- The next id is none of those that there are. -/
theorem next_notMem (h : Counted ids) : (ids.length : Int) + 1 ∉ ids := by
  rw [h.mem_iff]
  omega

theorem concat (h : Counted ids) : Counted (ids ++ [(ids.length : Int) + 1]) := by
  unfold Counted at *
  rw [List.length_append, List.length_singleton, List.range_succ, List.map_append, ← h]
  rfl

theorem append (h : Counted ids) (n : Nat) :
    Counted (ids ++ (List.range n).map fun i : Nat => (ids.length : Int) + 1 + i) := by
  unfold Counted at *
  rw [List.length_append, List.length_map, List.length_range, List.range_add, List.map_append,
    ← h, List.map_map]
  congr 1
  apply List.map_congr_left
  intro i _
  simp only [Function.comp_apply]
  omega

end Counted

/-- Where no two rows have the same key, the rows of a key are just one. -/
theorem filter_key_eq {α β : Type} [BEq β] [LawfulBEq β] (key : α → β) {rows : List α} {row : α}
    (hn : (rows.map key).Nodup) (hm : row ∈ rows) : rows.filter (key · == key row) = [row] := by
  induction rows with
  | nil => cases hm
  | cons other rows ih =>
    rw [List.map_cons, List.nodup_cons] at hn
    rcases List.mem_cons.mp hm with rfl | hm
    · rw [List.filter_cons_of_pos (by simp), List.filter_eq_nil_iff.mpr]
      intro x hx hsame
      exact hn.1 (beq_iff_eq.mp hsame ▸ List.mem_map_of_mem hx)
    · have hne : key other ≠ key row := fun h => hn.1 (h ▸ List.mem_map_of_mem hm)
      rw [List.filter_cons_of_neg (by simpa using hne), ih hn.2 hm]

namespace Tables

variable {α : Type} [Row α]

/-- The keys of all rows of a kind. -/
def keys (α : Type) [Row α] (t : Tables) : List Id := (Row.rows t : List α).map Row.key

/-! ## Finding a row -/

theorem find?_eq_some {t : Tables} {id : Id} {row : α} (h : t.find? id = some row) :
    row ∈ (Row.rows t : List α) ∧ Row.key row = id :=
  ⟨List.mem_of_find?_eq_some h, by simpa using List.find?_some h⟩

theorem find?_eq_none_iff {t : Tables} {id : Id} :
    (t.find? id : Option α) = none ↔ id ∉ t.keys α := by
  simp [find?, keys]

theorem find?_of_mem {t : Tables} {row : α} (h : (t.keys α).Nodup)
    (hr : row ∈ (Row.rows t : List α)) : t.find? (Row.key row) = some row := by
  cases hf : (t.find? (Row.key row) : Option α) with
  | none => exact absurd (List.mem_map_of_mem hr) (find?_eq_none_iff.mp hf)
  | some found =>
    obtain ⟨hm, hk⟩ := find?_eq_some hf
    rw [List.inj_on_of_nodup_map h hm hr hk]

theorem exists_of_mem_keys {t : Tables} {id : Id} (h : id ∈ t.keys α) :
    ∃ row : α, t.find? id = some row := by
  cases hf : (t.find? id : Option α) with
  | none => exact absurd h (find?_eq_none_iff.mp hf)
  | some row => exact ⟨row, rfl⟩

theorem mem_keys_of_find? {t : Tables} {id : Id} {row : α} (h : t.find? id = some row) :
    id ∈ t.keys α := by
  obtain ⟨hm, rfl⟩ := find?_eq_some h
  exact List.mem_map_of_mem hm

theorem has_iff {t : Tables} {id : Id} : t.has α id = true ↔ id ∈ t.keys α := by
  rw [has, Option.isSome_iff_ne_none, Ne, find?_eq_none_iff, not_not]

/-- The next id of a table is none of those in it. -/
theorem nextId_notMem {t : Tables} (h : Counted (t.keys α)) : t.nextId α ∉ t.keys α := by
  have := h.next_notMem
  rwa [keys, List.length_map] at this

/-! ## Changing a row -/

/-- The tables with every row of a key changed. -/
def amend (t : Tables) (id : Id) (change : α → α) : Tables :=
  Row.withRows ((Row.rows t).map fun row => if Row.key row = id then change row else row) t

theorem replace_eq_amend {t : Tables} {id : Id} {row : α} (change : α → α)
    (h : (t.keys α).Nodup) (hr : t.find? id = some row) :
    t.replace id (change row) = t.amend id change := by
  unfold replace amend
  congr 1
  apply List.map_congr_left
  intro other ho
  obtain ⟨hm, hk⟩ := find?_eq_some hr
  by_cases hid : Row.key other = id
  · rw [List.inj_on_of_nodup_map h ho hm (hid.trans hk.symm)]
    simp [hk]
  · simp [hid]

end Tables

end Checkout.Store
