-- Where the orders come from. Each order was placed once, and its lines name
-- for good what was asked for then.
import Checkout.Proofs.Shop.Run

namespace Checkout

open Store

/-- The order that was asked for and then placed. -/
def Act.placed? : Act → Option (NewOrder × PlacedOrder)
  | .asked (.placeOrder new) (.ok placed) => some (new, placed)
  | _ => none

theorem placed?_still {α : Type} {q : Query α} {a : α} (h : q.changesNothing a = true) :
    (Act.asked q (.ok a)).placed? = none := by
  cases q <;> first | rfl | cases h

theorem placed?_not_succeeded {act : Act} (h : act.succeeded = false) : act.placed? = none := by
  cases act with
  | asked q answer =>
    cases answer with
    | ok a => cases h
    | error f => cases q <;> rfl
  | requested user request answer => rfl
  | lookedUp user key answer => rfl
  | published event => rfl

/-- What a line names: its order, its product, how much of it, and its coupon. -/
def OrderLine.goods (l : OrderLine) : Id × Id × Int × Option Id :=
  (l.orderId, l.productId, l.quantity, l.couponId)

/-- What the lines of an order name that was asked for and then placed. -/
def goodsOf (origin : NewOrder × PlacedOrder) : List (Id × Id × Int × Option Id) :=
  origin.1.lines.map fun l => (origin.2.order.id, l.productId, l.quantity, l.couponId)

/-- All orders that were placed, in the order in which they were. -/
def originsIn (record : List (Nat × Act)) : List (NewOrder × PlacedOrder) :=
  record.filterMap (·.2.placed?)

/-- The orders and their lines are those that were placed, one after another. -/
structure Traced (t : Tables) (origins : List (NewOrder × PlacedOrder)) : Prop where
  orders : t.orders.map (·.id) = origins.map (·.2.order.id)
  goods : t.lines.map OrderLine.goods = origins.flatMap goodsOf

variable {t t' : Tables} {origins : List (NewOrder × PlacedOrder)}

namespace Traced

theorem of_same (h : Traced t origins) (ho : t'.orders.map (·.id) = t.orders.map (·.id))
    (hl : t'.lines = t.lines) : Traced t' origins :=
  ⟨ho.trans h.orders, hl ▸ h.goods⟩

theorem map_orders (h : Traced t origins) {f : Order → Order} (hf : ∀ o, (f o).id = o.id) :
    Traced { t with orders := t.orders.map f } origins :=
  h.of_same (map_keys hf t.orders) rfl

theorem place (h : Traced t origins) (order : NewOrder) (now : Moment) :
    Traced (t.place order now) (origins ++ [(order, t.placement order now)]) := by
  have hgoods : (t.placedLines order).map OrderLine.goods =
      goodsOf (order, t.placement order now) := by
    apply List.ext_getElem
    · simp [Tables.placedLines, goodsOf]
    · intro i _ _
      simp [Tables.placedLines, goodsOf, OrderLine.goods, Tables.placement, Tables.placedOrder]
  constructor
  · change (t.orders ++ [t.placedOrder order]).map _ = _
    rw [List.map_append, List.map_append, h.orders]
    rfl
  · change (t.lines ++ t.placedLines order).map _ = _
    rw [List.map_append, List.flatMap_append, h.goods, hgoods]
    simp

theorem change {α : Type} {q : Query α} {a : α} {now : Moment} (h : Traced t origins)
    (hc : Change now t q a t') :
    Traced t' (((Act.asked q (.ok a)).placed?).elim origins fun origin => origins ++ [origin]) := by
  cases hc with
  | placed order => exact h.place order now
  | still hstill => rwa [placed?_still hstill, Option.elim_none]
  | confirmed ho => exact h.map_orders (SameAccount.setStatus _ _).id
  | cancelled ho => exact h.of_same (map_keys (SameAccount.setStatus _ .cancelled).id t.orders) rfl
  | archived ho => exact h.map_orders (SameAccount.archive _).id
  | joined name => exact h.of_same rfl rfl
  | charged amount => exact h.of_same rfl rfl
  | stocked new => exact h.of_same rfl rfl
  | issued c => exact h.of_same rfl rfl
  | opened p => exact h.of_same rfl rfl
  | keyed key => exact h.of_same rfl rfl
  | completed => exact h.of_same rfl rfl
  | failed reason => exact h.of_same rfl rfl

theorem flatMap_ite {α β : Type} (meets : α → Bool) (f : α → List β) (l : List α) :
    (l.flatMap fun x => if meets x then f x else []) = (l.filter meets).flatMap f := by
  induction l with
  | nil => rfl
  | cons x l ih =>
    rw [List.flatMap_cons, ih]
    cases hx : meets x <;> simp [hx]

/-- The lines of an order name what was asked for when it was placed. -/
theorem goods_linesOf (h : Traced t origins) (hn : (t.keys Order).Nodup)
    {origin : NewOrder × PlacedOrder} (ho : origin ∈ origins) :
    (t.linesOf origin.2.order.id).map OrderLine.goods = goodsOf origin := by
  have hids : (origins.map (·.2.order.id)).Nodup := h.orders ▸ hn
  have hfilter : (t.linesOf origin.2.order.id).map OrderLine.goods =
      (t.lines.map OrderLine.goods).filter (·.1 == origin.2.order.id) := by
    rw [List.filter_map]
    rfl
  have hown : ∀ other : NewOrder × PlacedOrder,
      (goodsOf other).filter (·.1 == origin.2.order.id) =
        if other.2.order.id == origin.2.order.id then goodsOf other else [] := by
    intro other
    cases hid : other.2.order.id == origin.2.order.id <;>
      simp [goodsOf, List.filter_map, hid, Function.comp_def]
  rw [hfilter, h.goods, List.filter_flatMap]
  simp only [hown]
  rw [flatMap_ite, filter_key_eq (·.2.order.id) hids ho, List.flatMap_singleton]

end Traced

/-- After any run, the orders and their lines are those that were placed. -/
theorem traced_after (deeds : List Deed) :
    Traced (Shop.after deeds).tables (originsIn (Shop.after deeds).record) :=
  Shop.noted_after ⟨rfl, rfl⟩ placed?_not_succeeded (fun _ h hchange => h.change hchange)
    (fun _ h => h.of_same rfl rfl) deeds

end Checkout
