-- The life of an order. It is pending when it is placed, moves on from there
-- and never back, and is put out of sight only once it is no longer pending.
-- Its user, its totals and its lines are settled for good when it is placed,
-- and the totals are those of the lines.
import Checkout.Proofs.Shop.Coupons
import Checkout.Proofs.Shop.Creation
import Mathlib.Logic.Relation

namespace Checkout

open Store

/-! ## How an order moves -/

/-- The status that an order may have after another one. -/
inductive OrderStatus.Next : OrderStatus → OrderStatus → Prop where
  | paid : Next .pending .confirmed
  | dropped : Next .pending .cancelled
  | returned : Next .confirmed .cancelled

/-- What a single change can make of an order: nothing else, another status, or one out of
sight. -/
inductive Order.Moves (o : Order) : Order → Prop where
  | stays : o.Moves o
  | moved {status : OrderStatus} (hshown : o.archived = false) (hnext : o.status.Next status) :
    o.Moves { o with status }
  | archived (hshown : o.archived = false) (hs : o.status.isTerminal = true) :
    o.Moves { o with archived := true }

/-- What is settled of an order when it is placed. -/
def Order.terms (o : Order) : Id × Id × Money × Money × Money :=
  (o.id, o.userId, o.fullTotal, o.discountTotal, o.finalTotal)

/-- What has become of an order after any number of moves. -/
structure Order.Became (o o' : Order) : Prop where
  moves : Relation.ReflTransGen Order.Moves o o'
  terms : o'.terms = o.terms
  hidden : o.archived = true → o'.archived = true

namespace Order

variable {o o' o'' : Order}

theorem Moves.terms_eq (h : o.Moves o') : o'.terms = o.terms := by
  cases h <;> rfl

theorem Moves.id_eq (h : o.Moves o') : o'.id = o.id := congrArg Prod.fst h.terms_eq

theorem Moves.hidden (h : o.Moves o') (ha : o.archived = true) : o'.archived = true := by
  cases h with
  | stays => exact ha
  | moved => exact ha
  | archived => rfl

theorem Became.refl (o : Order) : o.Became o := ⟨.refl, rfl, fun h => h⟩

theorem Became.id_eq (h : o.Became o') : o'.id = o.id := congrArg Prod.fst h.terms

theorem Became.trans (h : o.Became o') (h' : o'.Became o'') : o.Became o'' :=
  ⟨h.moves.trans h'.moves, h'.terms.trans h.terms, fun ha => h'.hidden (h.hidden ha)⟩

theorem Moves.became (h : o.Moves o') : o.Became o' := ⟨.single h, h.terms_eq, h.hidden⟩

end Order

/-! ## The account of an order -/

namespace Store.Tables

/-- What a line takes off is what its coupon grants on its subtotal, and nothing without one. -/
def Granted (t : Tables) (l : OrderLine) : Prop :=
  match l.couponId with
  | none => l.discount = .zero
  | some id => ∃ c ∈ t.coupons, c.id = id ∧ ∃ subtotal : Money,
    subtotal.cents = l.unitPrice.cents * l.quantity ∧ l.discount = c.discountFor subtotal

/-- The totals of an order are those of its lines, and its lines are as they have to be. -/
structure OrderAccount (t : Tables) (o : Order) : Prop where
  full : o.fullTotal.cents =
    ((t.linesOf o.id).map fun l => l.unitPrice.cents * l.quantity).sum
  discount : o.discountTotal.cents = ((t.linesOf o.id).map (·.discount.cents)).sum
  final : o.finalTotal.cents = ((t.linesOf o.id).map (·.lineTotal.cents)).sum
  left : 0 ≤ o.finalTotal.cents ∧
    o.finalTotal.cents = o.fullTotal.cents - o.discountTotal.cents
  numbers : (t.linesOf o.id).map (·.lineNo) =
    (List.range (t.linesOf o.id).length).map fun n : Nat => (n : Int) + 1
  quantity : ∀ l ∈ t.linesOf o.id, 1 ≤ l.quantity ∧ l.quantity ≤ 999
  granted : ∀ l ∈ t.linesOf o.id, t.Granted l
  hidden : o.archived = true → o.status.isTerminal = true

variable {t t' : Tables}

theorem Granted.of_terms {l : OrderLine} (h : t.Granted l)
    (hcoupons : t.coupons.map Coupon.terms ⊆ t'.coupons.map Coupon.terms) : t'.Granted l := by
  unfold Granted at h ⊢
  cases hid : l.couponId with
  | none => simpa [hid] using h
  | some id =>
    simp only [hid] at h
    obtain ⟨c, hc, rfl, subtotal, hsubtotal, hdiscount⟩ := h
    obtain ⟨c', hc', hterms⟩ := List.mem_map.mp (hcoupons (List.mem_map_of_mem hc))
    simp only [Coupon.terms, Prod.mk.injEq] at hterms
    refine ⟨c', hc', hterms.1, subtotal, hsubtotal, ?_⟩
    rw [hdiscount, Coupon.discountFor, Coupon.discountFor, hterms.2.2.1, hterms.2.2.2]

namespace OrderAccount

variable {o o' : Order}

/-- An order that makes a move keeps its account, as long as its lines and coupons stay. -/
theorem moves (h : t.OrderAccount o) (hmoves : o.Moves o')
    (hlines : t'.linesOf o.id = t.linesOf o.id)
    (hcoupons : t.coupons.map Coupon.terms ⊆ t'.coupons.map Coupon.terms) :
    t'.OrderAccount o' := by
  have hterms := hmoves.terms_eq
  simp only [Order.terms, Prod.mk.injEq] at hterms
  obtain ⟨hid, -, hfull, hdiscount, hfinal⟩ := hterms
  rw [← hid] at hlines
  refine ⟨?_, ?_, ?_, ?_, ?_, ?_, ?_, ?_⟩
  · rw [hfull, hlines, hid, h.full]
  · rw [hdiscount, hlines, hid, h.discount]
  · rw [hfinal, hlines, hid, h.final]
  · rw [hfinal, hfull, hdiscount]
    exact h.left
  · rw [hlines, hid]
    exact h.numbers
  · rw [hlines, hid]
    exact h.quantity
  · rw [hlines, hid]
    exact fun l hl => (h.granted l hl).of_terms hcoupons
  · intro ha
    cases hmoves with
    | stays => exact h.hidden ha
    | moved hshown =>
      rw [hshown] at ha
      cases ha
    | archived hshown hs => exact hs

end OrderAccount

/-! ## A new order -/

section Placing

variable {order : NewOrder} (hk : t.Kept) (now : Moment) (hfine : order.Admissible t)
include hk

theorem linesOf_placed : (t.place order now).linesOf (t.nextId Order) = t.placedLines order := by
  have hold : t.lines.filter (·.orderId == t.nextId Order) = [] := by
    rw [List.filter_eq_nil_iff]
    intro l hl hsame
    have hid := hk.linked.line_order l hl
    rw [beq_iff_eq.mp hsame] at hid
    exact nextId_notMem hk.numbered.orders hid
  have hnew : (t.placedLines order).filter (·.orderId == t.nextId Order) = t.placedLines order := by
    rw [List.filter_eq_self]
    intro l hl
    obtain ⟨i, hi, rfl⟩ := List.mem_mapIdx.mp hl
    exact beq_self_eq_true _
  change (t.lines ++ t.placedLines order).filter (·.orderId == t.nextId Order) = _
  rw [List.filter_append, hold, hnew, List.nil_append]

include hfine

/-- A line of a new order takes off what its coupon grants. -/
theorem granted_placed {l : OrderLine} (hl : l ∈ t.placedLines order) :
    (t.place order now).Granted l := by
  obtain ⟨i, hi, rfl⟩ := List.mem_mapIdx.mp hl
  have hline := List.getElem_mem hi
  generalize order.lines[i] = line at hline
  unfold Granted
  cases hid : line.couponId with
  | none => simpa [discountOf, couponOf, hid, PricedLine.discountBy] using
      Money.saturated_of_cents .zero
  | some id =>
    obtain ⟨c, hc, rfl, -⟩ := hfine.coupon line hline id hid
    have hfind : t.couponOf line = some c := by
      rw [couponOf, hid, Option.bind_some]
      exact find?_of_mem hk.numbered.coupons.nodup hc
    refine ⟨_, List.mem_map_of_mem hc, switched_id _ _ c, .saturated (t.subtotalOf line),
      Money.saturated_cents (hfine.subtotal_fits hk.stocked line hline), ?_⟩
    simp only [discountOf, hfind, PricedLine.discountBy, Option.map_some, Option.getD_some,
      Money.saturated_of_cents]
    split <;> rfl

theorem account_placed : (t.place order now).OrderAccount (t.placedOrder order) := by
  have hplaced := placed_place hk.stocked hfine hk.numbered now
  have hfull : (t.placedLines order).map (fun l => l.unitPrice.cents * l.quantity) =
      order.lines.map t.subtotalOf := by
    apply List.ext_getElem <;> simp [placedLines, subtotalOf]
  have hamounts : (t.placedLines order).map _ = _ := hplaced.line_amounts
  have hnumbers : (t.placedLines order).map _ = _ := hplaced.line_numbers
  have hdiscount : (t.placedLines order).map (·.discount.cents) = order.lines.map t.discountOf := by
    simpa [Function.comp_def] using congrArg (List.map (·.2.1)) hamounts
  have hfinal : (t.placedLines order).map (·.lineTotal.cents) = order.lines.map t.dueOf := by
    simpa [Function.comp_def] using congrArg (List.map (·.2.2)) hamounts
  have hdue := hfine.due_bounds hk.stocked
  obtain ⟨htotal, htaken, hleft⟩ := hplaced.order_totals
  have hlines : (t.place order now).linesOf (t.placedOrder order).id = t.placedLines order :=
    linesOf_placed hk now
  refine ⟨?_, ?_, ?_, ?_, ?_, ?_, ?_, ?_⟩
  · rw [hlines, hfull]
    exact htotal
  · rw [hlines, hdiscount]
    exact htaken
  · rw [hlines, hfinal]
    exact hleft
  · change (t.placedOrder order).finalTotal.cents = _ at hleft
    change (t.placedOrder order).fullTotal.cents = _ at htotal
    change (t.placedOrder order).discountTotal.cents = _ at htaken
    rw [htotal, htaken, hleft, ← dueTotal_eq]
    exact ⟨hdue.1, rfl⟩
  · rw [hlines, hnumbers, placedLines, List.length_mapIdx]
  · rw [hlines]
    intro l hl
    obtain ⟨i, hi, rfl⟩ := List.mem_mapIdx.mp hl
    exact hfine.well_formed.quantity_in_range _ (List.getElem_mem hi)
  · rw [hlines]
    exact fun l hl => granted_placed hk now hfine hl
  · intro h
    cases h

end Placing

end Store.Tables

/-! ## What a change leaves of the orders -/

/-- What becomes of the orders and their lines in a single change: each order makes a move, a new
one is pending and has its account, and no line is added to an order that is there. -/
structure OrdersMoved (t t' : Tables) : Prop where
  moves : ∀ o ∈ t.orders, ∃ o' ∈ t'.orders, o.Moves o'
  origin : ∀ o' ∈ t'.orders, (∃ o ∈ t.orders, o.Moves o') ∨
    o'.id ∉ t.keys Order ∧ o'.status = .pending ∧ o'.archived = false ∧ t'.OrderAccount o'
  lines : ∀ id ∈ t.keys Order, t'.linesOf id = t.linesOf id

namespace OrdersMoved

variable {t t' : Tables}

/-- Neither orders nor lines have changed. -/
theorem of_same (ho : t'.orders = t.orders) (hl : t'.lines = t.lines) : OrdersMoved t t' where
  moves o hm := ⟨o, ho ▸ hm, .stays⟩
  origin o hm := .inl ⟨o, ho ▸ hm, .stays⟩
  lines id _ := by rw [Tables.linesOf, Tables.linesOf, hl]

/-- Orders are changed in place. -/
theorem of_map {f : Order → Order} (ho : t'.orders = t.orders.map f) (hl : t'.lines = t.lines)
    (hf : ∀ o ∈ t.orders, o.Moves (f o)) : OrdersMoved t t' where
  moves o hm := ⟨f o, ho ▸ List.mem_map_of_mem hm, hf o hm⟩
  origin o' hm := by
    obtain ⟨o, ho, rfl⟩ := List.mem_map.mp (ho ▸ hm)
    exact .inl ⟨o, ho, hf o ho⟩
  lines id _ := by rw [Tables.linesOf, Tables.linesOf, hl]

/-- One order, which is seen, is changed. -/
theorem of_map_visible (hn : (t.keys Order).Nodup) {id : Id} {o : Order}
    (hvisible : t.visible? id = some o) (change : Order → Order) (hchange : o.Moves (change o))
    (ho : t'.orders = t.orders.map fun other => if other.id = id then change other else other)
    (hl : t'.lines = t.lines) : OrdersMoved t t' := by
  obtain ⟨hfind, -⟩ := visible?_eq_some.mp hvisible
  obtain ⟨hm, rfl⟩ : o ∈ t.orders ∧ o.id = id := Tables.find?_eq_some hfind
  refine of_map ho hl fun other hother => ?_
  split
  · next hid =>
    obtain rfl := List.inj_on_of_nodup_map hn hother hm hid
    exact hchange
  · exact .stays

theorem place (hk : t.Kept) {order : NewOrder} (now : Moment) (hfine : order.Admissible t) :
    OrdersMoved t (t.place order now) where
  moves o hm := ⟨o, List.mem_append_left _ hm, .stays⟩
  origin o hm := by
    rcases List.mem_append.mp hm with hm | hm
    · exact .inl ⟨o, hm, .stays⟩
    · rw [List.mem_singleton.mp hm]
      exact .inr ⟨Tables.nextId_notMem hk.numbered.orders, rfl, rfl,
        Tables.account_placed hk now hfine⟩
  lines id hid := by
    have hnone : (t.placedLines order).filter (·.orderId == id) = [] := by
      rw [List.filter_eq_nil_iff]
      intro l hl hsame
      obtain ⟨i, hi, rfl⟩ := List.mem_mapIdx.mp hl
      obtain rfl : t.nextId Order = id := beq_iff_eq.mp hsame
      exact Tables.nextId_notMem hk.numbered.orders hid
    change (t.lines ++ t.placedLines order).filter (·.orderId == id) = _
    rw [List.filter_append, hnone, List.append_nil]
    rfl

theorem of_change {α : Type} {q : Query α} {a : α} {now : Moment} (hk : t.Kept)
    (h : Change now t q a t') : OrdersMoved t t' := by
  have hn := hk.numbered.orders.nodup
  cases h with
  | placed order hfine => exact place hk now hfine
  | @confirmed id o ho hs =>
    exact of_map_visible hn ho (fun o => { o with status := .confirmed })
      (.moved (visible?_eq_some.mp ho).2 (hs ▸ .paid)) rfl rfl
  | @cancelled id o ho hs =>
    obtain ⟨hfind, hshown⟩ := visible?_eq_some.mp ho
    obtain ⟨-, rfl⟩ : o ∈ t.orders ∧ o.id = id := Tables.find?_eq_some hfind
    have hnext : o.status.Next .cancelled := by
      cases hstatus : o.status with
      | pending => exact .dropped
      | confirmed => exact .returned
      | cancelled => exact absurd hstatus hs
    exact of_map_visible hn ho (fun o => { o with status := .cancelled }) (.moved hshown hnext)
      rfl rfl
  | archived ho hs =>
    exact of_map_visible hn ho (fun o => { o with archived := true })
      (.archived (visible?_eq_some.mp ho).2 hs) rfl rfl
  | still | joined | charged | stocked | issued | opened | keyed | completed | failed =>
    exact .of_same rfl rfl

end OrdersMoved

/-! ## Any run -/

variable {t t' : Tables}

/-- Every order has its account. -/
def OrdersAccounted (t : Tables) : Prop := ∀ o ∈ t.orders, t.OrderAccount o

theorem OrdersAccounted.change {α : Type} {q : Query α} {a : α} {now : Moment}
    (h : OrdersAccounted t) (hk : t.Kept) (hchange : Change now t q a t') : OrdersAccounted t' := by
  have hmoved := OrdersMoved.of_change hk hchange
  intro o' ho'
  rcases hmoved.origin o' ho' with ⟨o, ho, hmoves⟩ | ⟨-, -, -, hnew⟩
  · exact (h o ho).moves hmoves (hmoved.lines o.id (List.mem_map_of_mem ho))
      (Tables.terms_change hchange).subset
  · exact hnew

theorem ordersAccounted_after (deeds : List Deed) :
    OrdersAccounted (Shop.after deeds).tables := by
  apply Shop.holds_after (P := fun t _ => OrdersAccounted t) fun _ h => nomatch h
  intro t t' record record' hk h hadvance
  cases hadvance with
  | answered call hchange => exact h.change hk hchange
  | waited | noted => exact h
  | withdrew id =>
    exact fun o ho => (h o ho).moves .stays rfl (List.Subset.refl _)

/-- A deed makes at most one change. -/
theorem ordersMoved_step (deeds : List Deed) (deed : Deed) :
    OrdersMoved (Shop.after deeds).tables (Shop.after (deeds ++ [deed])).tables := by
  rw [Shop.after_concat]
  have hs := Shop.inOrder_after deeds
  have hadvance := (Shop.step_advance hs deed).1
  generalize ((Shop.after deeds).step deed).tables = t' at hadvance ⊢
  generalize ((Shop.after deeds).step deed).record = record' at hadvance
  cases hadvance with
  | answered call hchange => exact .of_change hs.kept hchange
  | waited | noted | withdrew => exact .of_same rfl rfl

/-- What was settled when orders were placed stays, whatever comes later. -/
structure OrdersLasting (t t' : Tables) : Prop where
  became : ∀ o ∈ t.orders, ∃ o' ∈ t'.orders, o.Became o'
  lines : ∀ id ∈ t.keys Order, t'.linesOf id = t.linesOf id

namespace OrdersLasting

theorem keys (h : OrdersLasting t t') : ∀ id ∈ t.keys Order, id ∈ t'.keys Order := by
  intro id hid
  obtain ⟨o, ho, rfl⟩ := List.mem_map.mp hid
  obtain ⟨o', ho', hbecame⟩ := h.became o ho
  exact List.mem_map.mpr ⟨o', ho', hbecame.id_eq⟩

theorem trans {t'' : Tables} (h : OrdersLasting t t') (h' : OrdersLasting t' t'') :
    OrdersLasting t t'' where
  became o ho := by
    obtain ⟨o', ho', hfirst⟩ := h.became o ho
    obtain ⟨o'', ho'', hsecond⟩ := h'.became o' ho'
    exact ⟨o'', ho'', hfirst.trans hsecond⟩
  lines id hid := (h'.lines id (h.keys id hid)).trans (h.lines id hid)

theorem of_moved (h : OrdersMoved t t') : OrdersLasting t t' where
  became o ho := by
    obtain ⟨o', ho', hmoves⟩ := h.moves o ho
    exact ⟨o', ho', hmoves.became⟩
  lines := h.lines

end OrdersLasting

theorem ordersLasting_after (deeds later : List Deed) :
    OrdersLasting (Shop.after deeds).tables (Shop.after (deeds ++ later)).tables :=
  Shop.related_after (fun _ => .of_moved (.of_same rfl rfl)) (fun h h' => h.trans h')
    (fun hk hchange => .of_moved (.of_change hk hchange))
    (fun _ _ => .of_moved (.of_same rfl rfl)) deeds later

/-! ## The law -/

/-- After any run, there is one order of each id, its totals are those of its lines, and each line
takes off what its coupon grants. Whatever is done next moves an order only from one status to the
next, or puts it out of sight once it is no longer pending. However much is done later, it is still
there, with the user, the totals and the lines that it was placed with. -/
theorem an_order_moves_on_and_keeps_its_terms (deeds : List Deed) (deed : Deed)
    (later : List Deed) :
    ((Shop.after deeds).tables.keys Order).Nodup ∧
      (∀ o ∈ (Shop.after deeds).tables.orders, (Shop.after deeds).tables.OrderAccount o) ∧
      OrdersMoved (Shop.after deeds).tables (Shop.after (deeds ++ [deed])).tables ∧
      OrdersLasting (Shop.after deeds).tables (Shop.after (deeds ++ later)).tables :=
  ⟨(Shop.kept_after deeds).numbered.orders.nodup, ordersAccounted_after deeds,
    ordersMoved_step deeds deed, ordersLasting_after deeds later⟩

end Checkout
