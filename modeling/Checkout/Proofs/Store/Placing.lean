-- Placing an order, step by step. Each loop of it comes to the first
-- objection that its step has against a line, and otherwise to one change of
-- the tables for all lines together.
import Checkout.Proofs.Store.Accounts
import Checkout.Proofs.Store.Catalog
import Checkout.Proofs.Store.Kept
import Checkout.Proofs.Validation

namespace Checkout.Store

variable {t : Tables}

/-! ## Coupons are there -/

theorem checkCoupons_calm (userId : Id) (lines earlier : List NewOrderLine) (now : Moment) :
    Orders.checkCoupons userId (lines.filterMap (·.couponId)) (.calm now) t =
      judged (objectionToLines (fun _ => NewOrderLine.couponObjection t userId) earlier lines)
        ((), t) := by
  induction lines generalizing earlier with
  | nil => rfl
  | cons line lines ih =>
    rw [objectionToLines]
    cases hid : line.couponId with
    | none =>
      rw [List.filterMap_cons_none hid, ih (earlier ++ [line])]
      simp [NewOrderLine.couponObjection, hid]
    | some id =>
      rw [List.filterMap_cons_some hid]
      simp only [Orders.checkCoupons, Coupons.fetchOwned, Coupons.fetch, Work.bind_run,
        Work.fetch_calm]
      cases hc : (t.find? id : Option Coupon) with
      | none => simp [NewOrderLine.couponObjection, hid, hc, Option.filter_some]
      | some c =>
        by_cases ho : c.ownerId = userId
        · simp [NewOrderLine.couponObjection, hid, hc, ho, Option.filter_some,
            ih (earlier ++ [line])]
        · simp [NewOrderLine.couponObjection, hid, hc, ho, Option.filter_some]

/-! ## Stock is taken -/

theorem askedOf_nonneg {lines : List NewOrderLine} (h : ∀ l ∈ lines, 0 ≤ l.quantity)
    (id : Id) : 0 ≤ askedOf lines id :=
  tally_nonneg _ h

theorem askedOf_concat (lines : List NewOrderLine) (line : NewOrderLine) (id : Id) :
    askedOf (lines ++ [line]) id =
      askedOf lines id + if id = line.productId then line.quantity else 0 := by
  rw [askedOf, askedOf, tally_append, tally_cons, tally_nil, Int.add_zero]
  by_cases hid : id = line.productId
  · simp [hid]
  · simp [hid, Ne.symm hid]

theorem takeStock_nil : t.takeStock [] = t := by
  simp [Tables.takeStock, askedOf, Tables.moveStock_zero]

theorem takeStock_concat (lines : List NewOrderLine) (line : NewOrderLine) :
    ((t.takeStock lines).moveStock fun id => if id = line.productId then -line.quantity else 0) =
      t.takeStock (lines ++ [line]) := by
  rw [Tables.takeStock, Tables.moveStock_moveStock, Tables.takeStock]
  congr 1
  funext id
  rw [askedOf_concat]
  split <;> omega

theorem keys_takeStock (lines : List NewOrderLine) :
    (t.takeStock lines).keys Product = t.keys Product := by
  simp [Tables.keys, Tables.takeStock, Tables.moveStock, Row.rows, Row.key, Function.comp_def]

theorem find?_takeStock (lines : List NewOrderLine) (id : Id) :
    (t.takeStock lines).find? id =
      (t.find? id).map fun p : Product => { p with stock := p.stock - askedOf lines p.id } := by
  simp only [Tables.find?, Tables.takeStock, Tables.moveStock, Row.rows, Row.key, List.find?_map,
    Function.comp_def, Int.sub_eq_add_neg]

theorem reserveAll_calm (lines earlier : List NewOrderLine) (now : Moment)
    (hn : (t.keys Product).Nodup) (hs : ∀ p ∈ t.products, p.stock ≤ 9223372036854775807)
    (hkept : ∀ p ∈ t.products, 0 ≤ p.stock - askedOf earlier p.id)
    (hearlier : ∀ l ∈ earlier, 0 ≤ l.quantity) (hlines : ∀ l ∈ lines, 0 ≤ l.quantity) :
    Orders.reserveAll lines (.calm now) (t.takeStock earlier) =
      judged (objectionToLines (NewOrderLine.stockObjection t) earlier lines)
        (lines.map t.priceOf, t.takeStock (earlier ++ lines)) := by
  induction lines generalizing earlier with
  | nil => simp [Orders.reserveAll, objectionToLines]
  | cons line lines ih =>
    have hfits : ∀ p ∈ (t.takeStock earlier).products, Fits p.stock := by
      intro p hp
      obtain ⟨q, hq, rfl⟩ := List.mem_map.mp hp
      have h1 := hs q hq
      have h2 := hkept q hq
      have h3 := askedOf_nonneg hearlier q.id
      simp only
      omega
    have hq : 0 ≤ line.quantity := hlines line List.mem_cons_self
    have hn' : ((t.takeStock earlier).keys Product).Nodup := by
      rw [keys_takeStock]
      exact hn
    simp only [Orders.reserveAll, Work.bind_run,
      Products.reserve_calm line.quantity now hn' hfits hq, objectionToLines,
      NewOrderLine.stockObjection, find?_takeStock]
    cases hp : (t.find? line.productId : Option Product) with
    | none => simp
    | some p =>
      obtain ⟨hm, hid⟩ : p ∈ t.products ∧ p.id = line.productId := Tables.find?_eq_some hp
      simp only [Option.map_some, Option.filter_some, hid]
      by_cases hd : p.deleted = true
      · simp [hd]
      · by_cases hle : line.quantity ≤ p.stock - askedOf earlier line.productId
        · have hkept' : ∀ p ∈ t.products, 0 ≤ p.stock - askedOf (earlier ++ [line]) p.id := by
            intro other ho
            rw [askedOf_concat]
            by_cases hsame : other.id = line.productId
            · have hother : other = p :=
                List.inj_on_of_nodup_map hn ho hm (hsame.trans hid.symm)
              rw [if_pos hsame, hsame, hother]
              omega
            · rw [if_neg hsame, Int.add_zero]
              exact hkept other ho
          have hprice : t.priceOf line = p.price := by simp [Tables.priceOf, hp]
          rw [takeStock_concat]
          simp only [hd, Bool.not_false, if_true, hle]
          rw [ih (earlier ++ [line]) hkept' (by
              intro l hl
              rcases List.mem_append.mp hl with hl | hl
              · exact hearlier l hl
              · rw [List.mem_singleton.mp hl]
                exact hq)
            fun l hl => hlines l (List.mem_cons_of_mem line hl)]
          simp only [Option.none_or, List.append_assoc, List.cons_append, List.nil_append,
            List.map_cons, hprice]
          cases objectionToLines (NewOrderLine.stockObjection t) (earlier ++ [line]) lines <;> rfl
        · simp [hd, hle]

/-! ## Coupons are used up, and lines are priced -/

theorem switchCoupons_switchCoupons_ne (t : Tables) {first second : List Id}
    (status : CouponStatus) (h : ∀ id ∈ second, id ∉ first) :
    (t.switchCoupons first status).switchCoupons second status =
      t.switchCoupons (first ++ second) status := by
  simp only [Tables.switchCoupons, List.map_map, Function.comp_def]
  congr 1
  apply List.map_congr_left
  intro c _
  by_cases h1 : c.id ∈ first
  · have h2 : c.id ∉ second := fun h2 => h c.id h2 h1
    simp [h1, h2, Coupon.switched]
  · simp [h1]

theorem keys_switchCoupons (ids : List Id) (status : CouponStatus) :
    (t.switchCoupons ids status).keys Coupon = t.keys Coupon := by
  simp only [Tables.keys, Tables.switchCoupons, Row.rows, Row.key, List.map_map,
    Function.comp_def]
  apply List.map_congr_left
  intro c _
  split <;> rfl

theorem find?_switchCoupons (ids : List Id) (status : CouponStatus) (id : Id) :
    (t.switchCoupons ids status).find? id =
      (t.find? id).map fun c : Coupon => if c.id ∈ ids then c.switched status else c := by
  simp only [Tables.find?, Tables.switchCoupons, Row.rows, Row.key, List.find?_map,
    Function.comp_def]
  congr 2
  funext c
  split <;> rfl

/-- Other tables, with the coupons of these after some of them have been used up. -/
def withUsed (t : Tables) (used : List Id) (s : Tables) : Tables :=
  { s with coupons := (t.switchCoupons used .used).coupons }

theorem withUsed_switchCoupons {used : List Id} {id : Id} (s : Tables) (h : id ∉ used) :
    (withUsed t used s).switchCoupons [id] .used = withUsed t (used ++ [id]) s := by
  have hnew : ∀ other ∈ [id], other ∉ used := by simpa using h
  have htwice := switchCoupons_switchCoupons_ne t .used hnew
  rw [withUsed, withUsed, ← htwice]
  rfl

theorem priceObjection_eq {line : NewOrderLine} (h : 0 ≤ t.subtotalOf line)
    (coupon : Option Coupon) (hid : coupon.map (·.id) = line.couponId)
    (hsame : PricedLine.discountBy coupon = PricedLine.discountBy (t.couponOf line)) :
    PricedLine.price line (t.priceOf line) coupon =
      if Fits (t.subtotalOf line) then .ok (t.pricedLine line)
      else .error (.invalid (.lineTooLarge line.quantity (t.priceOf line))) := by
  by_cases hfits : Fits (t.subtotalOf line)
  · rw [if_pos hfits, PricedLine.price_ok coupon h hfits]
    simp only [Tables.pricedLine, hid, hsame, Tables.dueOf, Tables.discountOf,
      Money.saturated_of_cents]
    rfl
  · rw [if_neg hfits]
    exact PricedLine.price_too_large coupon hfits

theorem priceAll_calm (userId : Id) (lines earlier : List NewOrderLine) (used : List Id)
    (s : Tables) (now : Moment) (hn : (t.keys Coupon).Nodup)
    (howned : ∀ l ∈ lines, ∀ id ∈ l.couponId,
      ∃ c : Coupon, t.find? id = some c ∧ c.ownerId = userId)
    (hdistinct : (used ++ lines.filterMap (·.couponId)).Nodup)
    (hprice : ∀ l ∈ lines, 0 ≤ t.subtotalOf l) :
    Orders.priceAll userId (lines.zip (lines.map t.priceOf)) (.calm now) (withUsed t used s) =
      judged (objectionToLines (fun _ => NewOrderLine.priceObjection t) earlier lines)
        (lines.map t.pricedLine, withUsed t (used ++ lines.filterMap (·.couponId)) s) := by
  induction lines generalizing earlier used with
  | nil => simp [Orders.priceAll, objectionToLines]
  | cons line lines ih =>
    have hrest := ih (earlier ++ [line])
    have howned' : ∀ l ∈ lines, ∀ id ∈ l.couponId,
        ∃ c : Coupon, t.find? id = some c ∧ c.ownerId = userId :=
      fun l hl => howned l (List.mem_cons_of_mem line hl)
    have hprice' : ∀ l ∈ lines, 0 ≤ t.subtotalOf l :=
      fun l hl => hprice l (List.mem_cons_of_mem line hl)
    have hp := hprice line List.mem_cons_self
    simp only [List.map_cons, List.zip_cons_cons, Orders.priceAll, Work.bind_run, objectionToLines,
      NewOrderLine.priceObjection]
    cases hid : line.couponId with
    | none =>
      have hc : t.couponOf line = none := by simp [Tables.couponOf, hid]
      rw [List.filterMap_cons_none hid] at hdistinct ⊢
      have hprice := priceObjection_eq hp none hid.symm (by rw [hc])
      simp only [Orders.consumeFor, Work.pure_run, hprice, hc, Option.filter_none]
      by_cases hfits : Fits (t.subtotalOf line)
      · simp only [if_pos hfits, Work.ofExcept_ok, hrest used howned' hdistinct hprice',
          Option.none_or]
        cases objectionToLines (fun _ => NewOrderLine.priceObjection t)
          (earlier ++ [line]) lines <;> rfl
      · simp only [if_neg hfits, Work.ofExcept_error, Option.some_or, judged_some]
    | some id =>
      obtain ⟨c, hfind, rfl⟩ := howned line List.mem_cons_self id hid
      have hc : t.couponOf line = some c := by simp [Tables.couponOf, hid, hfind]
      obtain rfl : c.id = id := (Tables.find?_eq_some hfind).2
      rw [List.filterMap_cons_some hid] at hdistinct ⊢
      have hfresh : c.id ∉ used := by
        intro hu
        exact (List.nodup_append.mp hdistinct).2.2 c.id hu c.id List.mem_cons_self rfl
      have hfound : ((withUsed t used s).find? c.id : Option Coupon) = some c := by
        change (t.switchCoupons used .used).find? c.id = some c
        rw [find?_switchCoupons, hfind]
        simp [hfresh]
      have hn' : ((withUsed t used s).keys Coupon).Nodup := by
        change ((t.switchCoupons used .used).keys Coupon).Nodup
        rw [keys_switchCoupons]
        exact hn
      have hprice := priceObjection_eq hp (some (c.switched .used)) hid.symm (by rw [hc]; rfl)
      simp only [Orders.consumeFor, Work.bind_run, Work.mapFault_run,
        Coupons.consume_calm now hn' hfound, hc, Option.filter_some]
      cases hu : c.isUsed
      · simp only [Bool.false_eq_true, if_false, Work.pure_run, hprice,
          withUsed_switchCoupons s hfresh]
        by_cases hfits : Fits (t.subtotalOf line)
        · simp only [if_pos hfits, Work.ofExcept_ok, Option.none_or,
            hrest (used ++ [c.id]) howned' (by simpa using hdistinct) hprice', List.append_assoc,
            List.cons_append, List.nil_append]
          cases objectionToLines (fun _ => NewOrderLine.priceObjection t)
            (earlier ++ [line]) lines <;> rfl
        · simp only [if_neg hfits, Work.ofExcept_error, Option.some_or, judged_some]
      · simp

/-! ## Amounts of the lines together -/

theorem pricedLine_proper {line : NewOrderLine} (h : 0 ≤ t.subtotalOf line)
    (hfits : Fits (t.subtotalOf line)) :
    OrderTotals.Proper (t.pricedLine line) ∧
      (t.pricedLine line).discount.cents = t.discountOf line ∧
      (t.pricedLine line).lineTotal.cents = t.dueOf line := by
  have hsub : (Money.saturated (t.subtotalOf line)).cents = t.subtotalOf line :=
    Money.saturated_cents hfits
  obtain ⟨h0, hle⟩ := PricedLine.discountBy_bounds (t.couponOf line) (hsub ▸ h)
  rw [hsub] at hle
  have hd : (t.pricedLine line).discount.cents = t.discountOf line := by
    simp [Tables.pricedLine, Tables.discountOf]
  have hdue : (t.pricedLine line).lineTotal.cents = t.dueOf line := by
    apply Money.saturated_cents
    simp only [Tables.dueOf, Tables.discountOf]
    omega
  refine ⟨⟨?_, ?_, ?_⟩, hd, hdue⟩
  · rw [hd]
    exact h0
  · rw [hdue]
    exact Int.sub_nonneg_of_le hle
  · rw [hd, hdue, Tables.dueOf, Int.sub_add_cancel]
    exact hfits

theorem dueTotal_eq (lines : List NewOrderLine) :
    t.dueTotal lines = t.fullTotal lines - t.discountTotal lines := by
  induction lines with
  | nil => rfl
  | cons line lines ih =>
    simp only [Tables.dueTotal, Tables.fullTotal, Tables.discountTotal, List.map_cons,
      List.sum_cons] at ih ⊢
    rw [ih, Tables.dueOf]
    omega

theorem totals_pricedLine {lines : List NewOrderLine} (h : ∀ l ∈ lines, 0 ≤ t.subtotalOf l)
    (hfits : ∀ l ∈ lines, Fits (t.subtotalOf l)) :
    OrderTotals.fullOf (lines.map t.pricedLine) = t.fullTotal lines ∧
      OrderTotals.discountOf (lines.map t.pricedLine) = t.discountTotal lines := by
  induction lines with
  | nil => exact ⟨rfl, rfl⟩
  | cons line lines ih =>
    obtain ⟨ih1, ih2⟩ := ih (fun l hl => h l (List.mem_cons_of_mem line hl))
      (fun l hl => hfits l (List.mem_cons_of_mem line hl))
    obtain ⟨-, hd, hdue⟩ := pricedLine_proper (h line List.mem_cons_self)
      (hfits line List.mem_cons_self)
    simp only [OrderTotals.fullOf, OrderTotals.discountOf, Tables.fullTotal, Tables.discountTotal,
      List.map_cons, List.sum_cons] at ih1 ih2 ⊢
    rw [ih1, ih2, hd, hdue, Tables.dueOf]
    omega

/-- The totals of the priced lines, unless 64 bits do not hold them. -/
theorem ofLines_pricedLine {lines : List NewOrderLine} (h : ∀ l ∈ lines, 0 ≤ t.subtotalOf l)
    (hfits : ∀ l ∈ lines, Fits (t.subtotalOf l)) :
    OrderTotals.ofLines (lines.map t.pricedLine) =
      judged (if t.fullTotal lines ≤ 9223372036854775807 then none
        else some (.invalid .totalTooLarge))
        { full := .saturated (t.fullTotal lines)
          discount := .saturated (t.discountTotal lines)
          final := .saturated (t.dueTotal lines) } := by
  have hproper : ∀ l ∈ lines.map t.pricedLine, OrderTotals.Proper l := by
    intro l hl
    obtain ⟨line, hline, rfl⟩ := List.mem_map.mp hl
    exact (pricedLine_proper (h line hline) (hfits line hline)).1
  obtain ⟨hfull, hdiscount⟩ := totals_pricedLine h hfits
  rw [OrderTotals.ofLines_eq hproper, hfull, hdiscount, dueTotal_eq]
  split <;> rfl

theorem dueTotal_bounds {lines : List NewOrderLine} (h : ∀ l ∈ lines, 0 ≤ t.subtotalOf l)
    (hfits : ∀ l ∈ lines, Fits (t.subtotalOf l)) :
    0 ≤ t.dueTotal lines ∧ t.dueTotal lines ≤ t.fullTotal lines := by
  have hproper : ∀ l ∈ lines.map t.pricedLine, OrderTotals.Proper l := by
    intro l hl
    obtain ⟨line, hline, rfl⟩ := List.mem_map.mp hl
    exact (pricedLine_proper (h line hline) (hfits line hline)).1
  obtain ⟨hfull, hdiscount⟩ := totals_pricedLine h hfits
  obtain ⟨h0, hle⟩ := OrderTotals.totals_bounds hproper
  rw [hdiscount] at h0
  rw [hfull, hdiscount] at hle
  rw [dueTotal_eq]
  omega

/-! ## The order and its lines are stored -/

/-- Lines as they are stored under an order, with ids and line numbers from the given ones on. -/
def storedLines (orderId firstId firstNo : Id) (lines : List PricedLine) : List OrderLine :=
  lines.mapIdx fun i line =>
    { id := firstId + i
      orderId
      lineNo := firstNo + i
      productId := line.productId
      quantity := line.quantity
      unitPrice := line.unitPrice
      couponId := line.couponId
      discount := line.discount
      lineTotal := line.lineTotal }

theorem storedLines_cons (orderId firstId firstNo : Id) (line : PricedLine)
    (lines : List PricedLine) :
    storedLines orderId firstId firstNo (line :: lines) =
      { id := firstId, orderId, lineNo := firstNo, productId := line.productId,
        quantity := line.quantity, unitPrice := line.unitPrice, couponId := line.couponId,
        discount := line.discount, lineTotal := line.lineTotal } ::
        storedLines orderId (firstId + 1) (firstNo + 1) lines := by
  have hshift (start : Int) (i : Nat) : start + ((i : Int) + 1) = start + 1 + i := by omega
  simp [storedLines, List.mapIdx_cons, hshift]

theorem insertLines_calm (orderId lineNo : Id) (lines : List PricedLine) (now : Moment)
    (horder : orderId ∈ t.keys Order)
    (hquantity : ∀ l ∈ lines, 1 ≤ l.quantity ∧ l.quantity ≤ largestQuantity)
    (htotal : ∀ l ∈ lines, 0 ≤ l.lineTotal.cents)
    (hproduct : ∀ l ∈ lines, l.productId ∈ t.keys Product)
    (hcoupon : ∀ l ∈ lines, ∀ id ∈ l.couponId, id ∈ t.keys Coupon)
    (hfree : ∀ l ∈ t.lines, l.orderId = orderId → l.lineNo < lineNo) :
    Orders.insertLines orderId lineNo lines (.calm now) t =
      .ok (storedLines orderId (t.nextId OrderLine) lineNo lines,
        { t with lines := t.lines ++ storedLines orderId (t.nextId OrderLine) lineNo lines }) := by
  induction lines generalizing t lineNo with
  | nil => simp [Orders.insertLines, storedLines]
  | cons line lines ih =>
    have hkeeps : Orders.lineKeepsRules t orderId lineNo line = true := by
      have h1 := hquantity line List.mem_cons_self
      have h2 := Money.isNegative_eq_false (htotal line List.mem_cons_self)
      have h3 := Tables.has_iff.mpr (hproduct line List.mem_cons_self)
      have h4 := Tables.has_iff.mpr horder
      have h5 : line.couponId.all (t.has Coupon ·) = true := by
        cases hid : line.couponId with
        | none => rfl
        | some id => exact Tables.has_iff.mpr (hcoupon line List.mem_cons_self id hid)
      have h6 : (t.lines.any fun l => l.orderId == orderId && l.lineNo == lineNo) = false := by
        rw [List.any_eq_false]
        intro l hl hsame
        simp only [Bool.and_eq_true, beq_iff_eq] at hsame
        have := hfree l hl hsame.1
        omega
      simp [Orders.lineKeepsRules, h1, h2, h3, h4, h5, h6]
    simp only [Orders.insertLines, Orders.insertLine, Work.bind_run, Work.insertAndGet_calm,
      Work.view_run, Work.constrain_run, hkeeps, if_true, Work.pure_run, storedLines_cons]
    generalize hrow : OrderLine.mk _ _ _ _ _ _ _ _ _ = row
    have hnext : (t.append row).nextId OrderLine = t.nextId OrderLine + 1 := by
      change (((t.lines ++ [row]).length : Nat) : Int) + 1 = ((t.lines.length : Nat) : Int) + 1 + 1
      simp
    have hrest := ih (t := t.append row) (lineNo + 1) horder
      (fun l hl => hquantity l (List.mem_cons_of_mem line hl))
      (fun l hl => htotal l (List.mem_cons_of_mem line hl))
      (fun l hl => hproduct l (List.mem_cons_of_mem line hl))
      (fun l hl => hcoupon l (List.mem_cons_of_mem line hl))
      (by
        intro l hl hsame
        rcases List.mem_append.mp hl with hl | hl
        · have := hfree l hl hsame
          omega
        · rw [List.mem_singleton.mp hl, ← hrow]
          exact Int.lt_add_one_of_le (Int.le_refl lineNo))
    rw [hrest, hnext, ← hrow]
    change Except.ok (_, { t with lines := (t.lines ++ [_]) ++ _ }) = _
    rw [List.append_assoc]
    rfl

theorem storedLines_pricedLine (order : NewOrder) :
    storedLines (t.nextId Order) (t.nextId OrderLine) 1 (order.lines.map t.pricedLine) =
      t.placedLines order := by
  apply List.ext_getElem
  · simp [storedLines, Tables.placedLines]
  · intro i h1 h2
    simp [storedLines, Tables.placedLines, Tables.pricedLine]

/-! ## What the absence of objections means for single lines -/

theorem couponObjection_eq_none {userId : Id} {line : NewOrderLine}
    (h : line.couponObjection t userId = none) :
    ∀ id ∈ line.couponId, ∃ c : Coupon, t.find? id = some c ∧ c.ownerId = userId := by
  intro id hid
  rw [Option.mem_def] at hid
  cases hc : (t.find? id : Option Coupon) with
  | none => simp [NewOrderLine.couponObjection, hid, hc, Option.filter_some] at h
  | some c =>
    refine ⟨c, rfl, ?_⟩
    simpa [NewOrderLine.couponObjection, hid, hc, Option.filter_some] using h

theorem stockObjection_eq_none {earlier : List NewOrderLine} {line : NewOrderLine}
    (h : line.stockObjection t earlier = none) :
    ∃ p : Product, t.find? line.productId = some p ∧ p.deleted = false ∧
      askedOf earlier line.productId + line.quantity ≤ p.stock := by
  cases hp : (t.find? line.productId : Option Product) with
  | none => simp [NewOrderLine.stockObjection, hp] at h
  | some p =>
    refine ⟨p, rfl, ?_⟩
    cases hd : p.deleted
    · simp only [NewOrderLine.stockObjection, hp, Option.filter_some, hd, Bool.not_false,
        if_true] at h
      refine ⟨rfl, ?_⟩
      by_contra hlt
      rw [if_neg (by omega)] at h
      cases h
    · simp [NewOrderLine.stockObjection, hp, Option.filter_some, hd] at h

theorem priceObjection_eq_none {line : NewOrderLine} (h : line.priceObjection t = none) :
    (∀ c ∈ t.couponOf line, c.isUsed = false) ∧ Fits (t.subtotalOf line) := by
  have hfits : (t.couponOf line).filter (·.isUsed) = none ∧ Fits (t.subtotalOf line) := by
    unfold NewOrderLine.priceObjection at h
    split at h
    · cases h
    · refine ⟨‹_›, ?_⟩
      by_contra hbig
      rw [if_neg hbig] at h
      cases h
  refine ⟨fun c hc => ?_, hfits.2⟩
  have := hfits.1
  rw [Option.mem_def] at hc
  simpa [hc, Option.filter_some] using this

/-! ## The whole order -/

/-- The order, its lines and its payment as they are stored. -/
def Tables.placement (t : Tables) (order : NewOrder) (now : Moment) : PlacedOrder :=
  { order := t.placedOrder order
    lines := t.placedLines order
    payment := t.placedPayment order now }

theorem subtotalOf_nonneg (hs : t.Stocked) {line : NewOrderLine} (hq : 0 ≤ line.quantity) :
    0 ≤ t.subtotalOf line := by
  apply Int.mul_nonneg _ hq
  cases hp : (t.find? line.productId : Option Product) with
  | none => simp [Tables.priceOf, hp]
  | some p => simpa [Tables.priceOf, hp] using hs.price_nonneg p (Tables.find?_eq_some hp).1

theorem payWith_calm (order : NewOrder) (now : Moment) (s : Tables)
    (horder : t.nextId Order ∈ s.keys Order) (huser : order.userId ∈ s.keys User)
    (hpayments : s.payments = t.payments) :
    Orders.payWith (t.placedOrder order) order.payment (.calm now) s =
      .ok (t.placedPayment order now,
        { s with payments := t.payments ++ (t.placedPayment order now).toList }) := by
  cases hd : order.payment with
  | none => simp [Orders.payWith, Tables.placedPayment, hd, ← hpayments]
  | some details =>
    have h1 : s.has Order (t.nextId Order) = true := Tables.has_iff.mpr horder
    have h2 : s.has User order.userId = true := Tables.has_iff.mpr huser
    have h3 : s.nextId Payment = t.nextId Payment := by
      change ((s.payments.length : Nat) : Int) + 1 = ((t.payments.length : Nat) : Int) + 1
      rw [hpayments]
    simp only [Orders.payWith, Payments.insert, Work.bind_run, Work.insertAndGet_calm,
      Work.view_run, Work.constrain_run, NewPayment.forOrder, Tables.placedOrder, h1, h2,
      Bool.and_self, if_true, Work.now_run, Work.pure_run, Tables.placedPayment, hd, h3]
    rw [← hpayments]
    rfl

/-- The tables with the stock and the coupons of an order taken. -/
def Tables.taken (t : Tables) (order : NewOrder) : Tables :=
  withUsed t (order.lines.filterMap (·.couponId)) (t.takeStock order.lines)

/-- An order for a user who is there can be stored, since it costs nothing negative. -/
theorem insertOrder_calm (order : NewOrder) (now : Moment) (huser : order.userId ∈ t.keys User)
    (hdue : 0 ≤ (Money.saturated (t.dueTotal order.lines)).cents) :
    Orders.insert order.userId
        { full := .saturated (t.fullTotal order.lines)
          discount := .saturated (t.discountTotal order.lines)
          final := .saturated (t.dueTotal order.lines) } (.calm now) (t.taken order) =
      .ok (t.placedOrder order, (t.taken order).append (t.placedOrder order)) := by
  have hhas : (t.taken order).has User order.userId = true := Tables.has_iff.mpr huser
  simp only [Orders.insert, Work.insertAndGet_calm, Work.bind_run, Work.view_run,
    Work.constrain_run, Money.isNegative_eq_false hdue, hhas, Bool.not_false, Bool.and_self,
    if_true, Work.pure_run]
  rfl

section Lines

variable {order : NewOrder} (hw : order.WellFormed)
  (hproduct : ∀ l ∈ order.lines, l.productId ∈ t.keys Product)
  (hcoupon : ∀ l ∈ order.lines, ∀ id ∈ l.couponId, id ∈ t.keys Coupon)
  (hprice : ∀ l ∈ order.lines, 0 ≤ t.subtotalOf l)
  (hfits : ∀ l ∈ order.lines, Fits (t.subtotalOf l))
include hw hproduct hcoupon hprice hfits

/-- The lines of an order go into any tables that have the same goods and lines as those that it
was priced with, and the order itself. -/
theorem insertPlacedLines_calm (now : Moment) (s : Tables) (hnum : t.Numbered) (hlink : t.Linked)
    (horder : t.nextId Order ∈ s.keys Order) (hlines : s.lines = t.lines)
    (hproducts : s.keys Product = t.keys Product) (hcoupons : s.keys Coupon = t.keys Coupon) :
    Orders.insertLines (t.nextId Order) 1 (order.lines.map t.pricedLine) (.calm now) s =
      .ok (t.placedLines order, { s with lines := t.lines ++ t.placedLines order }) := by
  -- No line has had the id of this order yet.
  have hfree : ∀ l ∈ t.lines, l.orderId ≠ t.nextId Order := by
    intro l hl hid
    have hmem := hlink.line_order l hl
    rw [hid] at hmem
    exact Tables.nextId_notMem hnum.orders hmem
  have hstored := insertLines_calm (t := s) (t.nextId Order) 1 (order.lines.map t.pricedLine) now
    horder
    (List.forall_mem_map.mpr hw.quantity_in_range)
    (List.forall_mem_map.mpr fun l hl =>
      (pricedLine_proper (hprice l hl) (hfits l hl)).1.lineTotal_nonneg)
    (List.forall_mem_map.mpr fun l hl => hproducts ▸ hproduct l hl)
    (List.forall_mem_map.mpr fun l hl => hcoupons ▸ hcoupon l hl)
    (fun l hl hid => absurd hid (hfree l (hlines ▸ hl)))
  have hnext : s.nextId OrderLine = t.nextId OrderLine := by
    change ((s.lines.length : Nat) : Int) + 1 = ((t.lines.length : Nat) : Int) + 1
    rw [hlines]
  rw [hstored, hnext, hlines, storedLines_pricedLine]

/-- What has been taken and priced is paid for and stored, unless the points do not cover it. -/
theorem storePlaced_calm (now : Moment) (hnum : t.Numbered) (hlink : t.Linked)
    (huser : order.userId ∈ t.keys User) (htotal : t.fullTotal order.lines ≤ 9223372036854775807) :
    (do
      let stored ← Orders.insert order.userId
        { full := .saturated (t.fullTotal order.lines)
          discount := .saturated (t.discountTotal order.lines)
          final := .saturated (t.dueTotal order.lines) }
      let _ ← Balances.debit order.userId (.saturated (t.dueTotal order.lines)) (some stored.id)
      let lines ← Orders.insertLines stored.id 1 (order.lines.map t.pricedLine)
      let payment ← Orders.payWith stored order.payment
      return ({ order := stored, lines, payment } : PlacedOrder) : Work PlacedOrder)
        (.calm now) (t.taken order) =
      judged (if t.dueTotal order.lines ≤ (t.pointsOf order.userId).cents then none
        else some (.insufficientBalance order.userId (.saturated (t.dueTotal order.lines))
          (t.pointsOf order.userId)))
        (t.placement order now, t.place order now) := by
  obtain ⟨hdue0, hdue⟩ := dueTotal_bounds hprice hfits
  have hcents : (Money.saturated (t.dueTotal order.lines)).cents = t.dueTotal order.lines :=
    Money.saturated_cents (by omega)
  rw [← hcents] at hdue0
  obtain ⟨b, hb⟩ := hnum.exists_balance huser
  -- The debit looks at the balance as it was before the order was stored.
  have hdebit := Balances.debit_calm (t := (t.taken order).append (t.placedOrder order))
    (some (t.nextId Order)) now hnum.balances_nodup hb hdue0
  rw [hcents, ← pointsOf_eq hb] at hdebit
  simp only [Work.bind_run, insertOrder_calm order now huser hdue0]
  rw [show (t.placedOrder order).id = t.nextId Order from rfl, hdebit]
  by_cases hcovered : t.dueTotal order.lines ≤ (t.pointsOf order.userId).cents
  · rw [if_pos hcovered, if_pos hcovered]
    simp only [judged_none]
    have horder : t.nextId Order ∈ (t.orders ++ [t.placedOrder order]).map Order.id := by
      simp [Tables.placedOrder]
    have hlines := insertPlacedLines_calm hw hproduct hcoupon hprice hfits now
      (((t.taken order).append (t.placedOrder order)).book order.userId .debit
        (Money.saturated (t.dueTotal order.lines)).opposite (some (t.nextId Order)))
      hnum hlink horder rfl (keys_takeStock order.lines) (keys_switchCoupons _ .used)
    have hpayment := payWith_calm (t := t) order now
      { ((t.taken order).append (t.placedOrder order)).book order.userId .debit
          (Money.saturated (t.dueTotal order.lines)).opposite (some (t.nextId Order)) with
        lines := t.lines ++ t.placedLines order }
      horder huser rfl
    simp only [hlines, hpayment, Work.pure_run, Tables.placement]
    rfl
  · rw [if_neg hcovered, if_neg hcovered]
    rfl

end Lines

/-- An order is placed as a whole, unless there is an objection to it. -/
theorem place_calm (order : NewOrder) (now : Moment) (hnum : t.Numbered) (hlink : t.Linked)
    (hstock : t.Stocked) (hw : order.WellFormed) :
    Orders.place order (.calm now) t =
      judged (order.placingObjection t) (t.placement order now, t.place order now) := by
  have hquantity : ∀ l ∈ order.lines, 0 ≤ l.quantity := fun l hl => by
    have := (hw.quantity_in_range l hl).1
    omega
  have hprice : ∀ l ∈ order.lines, 0 ≤ t.subtotalOf l :=
    fun l hl => subtotalOf_nonneg hstock (hquantity l hl)
  have hfits : ∀ p ∈ t.products, p.stock ≤ 9223372036854775807 := fun p hp => by
    have := hstock.stock_fits p hp
    have := hlink.committed_nonneg p.id
    omega
  have hreserve := reserveAll_calm order.lines [] now hnum.products.nodup hfits
    (fun p hp => by simpa [askedOf] using hstock.stock_nonneg p hp) (by simp) hquantity
  rw [takeStock_nil, List.nil_append] at hreserve
  simp only [Orders.place, Users.fetch, Work.bind_run, Work.fetch_calm, NewOrder.placingObjection]
  -- The user is there.
  cases huser : (t.find? order.userId : Option User) with
  | none => simp [Tables.has, huser]
  | some user =>
  have hmember : order.userId ∈ t.keys User := Tables.mem_keys_of_find? huser
  simp only [Option.filter_some, if_true, Work.orFail_some, Tables.has_iff.mpr hmember,
    Option.none_or, checkCoupons_calm order.userId order.lines [] now]
  -- The coupons are there.
  cases hcoupons : objectionToLines (fun _ => NewOrderLine.couponObjection t order.userId) []
      order.lines with
  | some f => rfl
  | none =>
  have howned := fun l hl =>
    couponObjection_eq_none ((objectionToLines_const _ _ _).mp hcoupons l hl)
  simp only [judged_none, Option.none_or, hreserve]
  -- There is enough stock.
  cases hstocked : objectionToLines (NewOrderLine.stockObjection t) [] order.lines with
  | some f => rfl
  | none =>
  have hproduct : ∀ l ∈ order.lines, l.productId ∈ t.keys Product := by
    intro l hl
    obtain ⟨before, after, hsplit⟩ := List.append_of_mem hl
    obtain ⟨p, hp, -⟩ := stockObjection_eq_none
      ((objectionToLines_eq_none_iff _ _ _).mp hstocked before l after hsplit)
    exact Tables.mem_keys_of_find? hp
  have hprices := priceAll_calm order.userId order.lines [] [] (t.takeStock order.lines) now
    hnum.coupons.nodup howned hw.coupons_nodup hprice
  have hnone : withUsed t [] (t.takeStock order.lines) = t.takeStock order.lines := by
    rw [withUsed, Tables.switchCoupons_nil]
    rfl
  rw [hnone, List.nil_append] at hprices
  simp only [judged_none, Option.none_or, hprices]
  -- The coupons are good, and every line has a price.
  cases hpriced : objectionToLines (fun _ => NewOrderLine.priceObjection t) [] order.lines with
  | some f => rfl
  | none =>
  have hsubtotals : ∀ l ∈ order.lines, Fits (t.subtotalOf l) := fun l hl =>
    (priceObjection_eq_none ((objectionToLines_const _ _ _).mp hpriced l hl)).2
  simp only [judged_none, Option.none_or, ofLines_pricedLine hprice hsubtotals]
  by_cases htotal : t.fullTotal order.lines ≤ 9223372036854775807
  · have hcoupon : ∀ l ∈ order.lines, ∀ id ∈ l.couponId, id ∈ t.keys Coupon := by
      intro l hl id hid
      obtain ⟨c, hc, -⟩ := howned l hl id hid
      exact Tables.mem_keys_of_find? hc
    simp only [if_pos htotal, judged_none, Work.ofExcept_ok, Option.none_or]
    exact storePlaced_calm hw hproduct hcoupon hprice hsubtotals now hnum hlink hmember htotal
  · simp only [if_neg htotal, judged_some, Work.ofExcept_error, Option.some_or]

end Checkout.Store
