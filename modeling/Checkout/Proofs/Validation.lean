-- The check of a new order before it is placed says what the first objection
-- to its shape says, and lets exactly the well-formed orders pass.
import Checkout.Proofs.Objections

namespace Checkout

theorem objectionToLines_eq_none_iff (check : List NewOrderLine → NewOrderLine → Option Fault)
    (lines earlier : List NewOrderLine) :
    objectionToLines check earlier lines = none ↔
      ∀ before line after, lines = before ++ line :: after →
        check (earlier ++ before) line = none := by
  induction lines generalizing earlier with
  | nil => simp [objectionToLines]
  | cons first lines ih =>
    rw [objectionToLines, Option.or_eq_none_iff, ih]
    constructor
    · rintro ⟨hfirst, hrest⟩ before line after h
      cases before with
      | nil =>
        obtain ⟨rfl, rfl⟩ := List.cons.inj h
        simpa using hfirst
      | cons x before =>
        obtain ⟨rfl, rfl⟩ := List.cons.inj h
        simpa using hrest before line after rfl
    · intro h
      refine ⟨by simpa using h [] first lines rfl, fun before line after hl => ?_⟩
      simpa using h (first :: before) line after (by rw [hl]; rfl)

/-- An objection that does not look at the lines before is one to any single line. -/
theorem objectionToLines_const (check : NewOrderLine → Option Fault)
    (lines earlier : List NewOrderLine) :
    objectionToLines (fun _ => check) earlier lines = none ↔ ∀ l ∈ lines, check l = none := by
  induction lines generalizing earlier with
  | nil => simp [objectionToLines]
  | cons line lines ih => simp [objectionToLines, ih]

namespace NewOrder

/-- An order that can be placed as far as the order itself tells. -/
structure WellFormed (order : NewOrder) : Prop where
  lines_ne_nil : order.lines ≠ []
  quantity_in_range : ∀ l ∈ order.lines, 1 ≤ l.quantity ∧ l.quantity ≤ largestQuantity
  coupons_nodup : (order.lines.filterMap (·.couponId)).Nodup
  details_complete : ∀ d ∈ order.payment, d.missing = []

/-! ## The check and the objection -/

theorem validateLines_eq (lines earlier : List NewOrderLine) (seen : List Id)
    (hseen : ∀ id, id ∈ seen ↔ id ∈ earlier.filterMap (·.couponId)) :
    validateLines (earlier.length + 1) seen lines =
      judged (objectionToLines NewOrderLine.shapeObjection earlier lines) () := by
  induction lines generalizing earlier seen with
  | nil => rfl
  | cons line lines ih =>
    have hlength : earlier.length + 1 + 1 = (earlier ++ [line]).length + 1 := by simp
    rw [validateLines, objectionToLines, NewOrderLine.shapeObjection]
    by_cases hq : 1 ≤ line.quantity ∧ line.quantity ≤ largestQuantity
    · simp only [hq, not_true, if_false, and_self]
      cases hid : line.couponId with
      | none =>
        rw [hlength, ih (earlier ++ [line]) seen (by simpa [hid] using hseen)]
        simp
      | some id =>
        by_cases hs : id ∈ seen
        · have he := (hseen id).mp hs
          simp only [List.contains_iff_mem.mpr hs, if_true, Option.filter_some,
            List.contains_iff_mem.mpr he, Option.map_some, Option.some_or, judged_some]
        · have he := mt (hseen id).mpr hs
          have hseen' : ∀ other, other ∈ id :: seen ↔
              other ∈ (earlier ++ [line]).filterMap (·.couponId) := by
            intro other
            simp only [List.filterMap_append, List.mem_append, List.mem_cons, hseen other,
              List.filterMap_cons_some hid, List.filterMap_nil,
              List.not_mem_nil, or_false]
            exact or_comm
          have hc : seen.contains id = false := by simpa using hs
          have hc' : (earlier.filterMap (·.couponId)).contains id = false := by
            simpa [List.mem_filterMap] using he
          simp only [hc, hc', Bool.false_eq_true, if_false, Option.filter_some, Option.map_none,
            Option.none_or]
          rw [hlength, ih (earlier ++ [line]) (id :: seen) hseen']
    · simp only [hq, not_false_eq_true, if_true, Option.some_or, judged_some]

theorem validate_eq (order : NewOrder) : order.validate = judged order.shapeObjection () := by
  rw [validate, shapeObjection]
  cases hl : order.lines.isEmpty
  · have hlines := validateLines_eq order.lines [] [] (by simp)
    simp only [List.length_nil, Nat.zero_add] at hlines
    simp only [Bool.false_eq_true, if_false, Option.none_or, bind, Except.bind, pure, Except.pure,
      hlines]
    cases objectionToLines NewOrderLine.shapeObjection [] order.lines with
    | some f => rfl
    | none =>
      cases order.payment with
      | none => rfl
      | some details =>
        simp only [judged_none, PaymentDetails.validate, Option.none_or, Option.filter_some]
        cases details.missing.isEmpty <;> rfl
  · rfl

theorem shapeObjection_lines_iff (lines earlier : List NewOrderLine) :
    objectionToLines NewOrderLine.shapeObjection earlier lines = none ↔
      (∀ l ∈ lines, 1 ≤ l.quantity ∧ l.quantity ≤ largestQuantity) ∧
        (lines.filterMap (·.couponId)).Nodup ∧
        ∀ id ∈ lines.filterMap (·.couponId), id ∉ earlier.filterMap (·.couponId) := by
  induction lines generalizing earlier with
  | nil => simp [objectionToLines]
  | cons line lines ih =>
    rw [objectionToLines, Option.or_eq_none_iff, ih, NewOrderLine.shapeObjection,
      List.filterMap_append, List.forall_mem_cons]
    by_cases hq : 1 ≤ line.quantity ∧ line.quantity ≤ largestQuantity
    · cases hid : line.couponId with
      | none => simp [hq, hid]
      | some id =>
        rw [List.filterMap_cons_some hid, List.filterMap_cons_some hid, List.nodup_cons,
          List.forall_mem_cons]
        generalize lines.filterMap (·.couponId) = named
        generalize earlier.filterMap (·.couponId) = before
        simp only [hq, not_true, if_false, true_and, Option.filter_some, List.contains_iff_mem,
          List.filterMap_nil, List.mem_append, List.mem_singleton, not_or]
        by_cases he : id ∈ before
        · simp [he]
        · simp only [he, if_false, Option.map_none, true_and, not_false_eq_true]
          constructor
          · rintro ⟨hall, hnodup, hnew⟩
            exact ⟨hall, ⟨fun hmem => (hnew id hmem).2 rfl, hnodup⟩, fun x hx => (hnew x hx).1⟩
          · rintro ⟨hall, ⟨hnot, hnodup⟩, hnew⟩
            exact ⟨hall, hnodup, fun x hx => ⟨hnew x hx, fun hxid => hnot (hxid ▸ hx)⟩⟩
    · simp [hq]

theorem shapeObjection_eq_none_iff (order : NewOrder) :
    order.shapeObjection = none ↔ order.WellFormed := by
  have hlines := shapeObjection_lines_iff order.lines []
  simp only [List.filterMap_nil, List.not_mem_nil, not_false_eq_true, implies_true,
    and_true] at hlines
  have hempty : (if order.lines.isEmpty then some (Fault.invalid .noLines) else none) = none ↔
      order.lines ≠ [] := by
    cases order.lines <;> simp
  have hdetails : ((order.payment.filter (!·.missing.isEmpty)).map fun details =>
      Fault.invalid (.missingDetails details.missing)) = none ↔
      ∀ d ∈ order.payment, d.missing = [] := by
    cases order.payment with
    | none => simp
    | some details => simp [Option.filter_some]
  rw [shapeObjection, Option.or_eq_none_iff, Option.or_eq_none_iff, hempty, hlines, hdetails]
  constructor
  · rintro ⟨h1, ⟨h2, h3⟩, h4⟩
    exact ⟨h1, h2, h3, h4⟩
  · rintro ⟨h1, h2, h3, h4⟩
    exact ⟨h1, ⟨h2, h3⟩, h4⟩

end NewOrder

end Checkout
