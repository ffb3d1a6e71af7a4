-- Nothing is sold twice, and nothing is lost. What is in stock and what the
-- live orders hold comes to what was put in, product by product, after any
-- run.
import Checkout.Proofs.Shop.Run

namespace Checkout

open Store

/-! ## What was put in -/

/-- The product that was added, with the stock that it came with. -/
def Act.stocked? : Act → Option (Id × Int)
  | .asked (.createProduct new) (.ok product) => some (product.id, new.stock)
  | _ => none

theorem stocked?_still {α : Type} {q : Query α} {a : α} (h : q.changesNothing a = true) :
    (Act.asked q (.ok a)).stocked? = none := by
  cases q <;> first | rfl | cases h

theorem stocked?_not_succeeded {act : Act} (h : act.succeeded = false) : act.stocked? = none := by
  cases act with
  | asked q answer =>
    cases answer with
    | ok a => cases h
    | error f => cases q <;> rfl
  | requested user request answer => rfl
  | lookedUp user key answer => rfl
  | published event => rfl

/-! ## What there is of it -/

namespace Store.Tables

/-- Each product with what is in stock and what the live orders hold of it. -/
def stockAccount (t : Tables) : List (Id × Int) :=
  t.products.map fun p => (p.id, p.stock + t.committed p.id)

variable {t t' : Tables}

theorem stockAccount_of_same (hp : t'.products = t.products)
    (hc : ∀ id, t'.committed id = t.committed id) : t'.stockAccount = t.stockAccount := by
  simp only [stockAccount, hp, hc]

theorem stockAccount_append (hk : t.Kept) (new : NewProduct) :
    (t.append (t.newProduct new)).stockAccount =
      t.stockAccount ++ [((t.newProduct new).id, new.stock)] := by
  have hnone : (t.append (t.newProduct new)).committed (t.newProduct new).id = 0 :=
    committed_next hk.numbered hk.linked
  change (t.products ++ [t.newProduct new]).map _ = _
  rw [List.map_append, List.map_singleton, hnone, Int.add_zero]
  rfl

theorem stockAccount_place (hk : t.Kept) (order : NewOrder) (now : Moment) :
    (t.place order now).stockAccount = t.stockAccount := by
  change (t.products.map _).map _ = t.products.map _
  rw [List.map_map]
  apply List.map_congr_left
  intro p _
  simp only [Function.comp_apply, committed_place hk.numbered hk.linked, Prod.mk.injEq, true_and]
  omega

theorem stockAccount_cancel {order : Order} (hlive : t.isLive order.id = true) :
    (t.cancel order).stockAccount = t.stockAccount := by
  change (t.products.map _).map _ = t.products.map _
  rw [List.map_map]
  apply List.map_congr_left
  intro p _
  simp only [Function.comp_apply, committed_cancel hlive, Prod.mk.injEq, true_and]
  omega

theorem stockAccount_map_orders {f : Order → Order} (hf : SameAccount f) (hl : SameLife t f) :
    stockAccount { t with orders := t.orders.map f } = t.stockAccount :=
  stockAccount_of_same rfl fun _ =>
    liveTally_congr _ _ rfl (isLive_map_orders (fun o _ => hf.id o) hl)

theorem stockAccount_withdraw (id : Id) : (t.withdraw id).stockAccount = t.stockAccount := by
  change (t.products.map _).map _ = t.products.map _
  rw [List.map_map]
  apply List.map_congr_left
  intro p _
  by_cases hid : p.id = id
  · simp only [Function.comp_apply, if_pos hid]
    rfl
  · simp only [Function.comp_apply, if_neg hid]
    rfl

/-- Only a product that is added changes the account, by what it comes with. -/
theorem stockAccount_change {α : Type} {q : Query α} {a : α} {now : Moment} (hk : t.Kept)
    (h : Change now t q a t') :
    t'.stockAccount = ((Act.asked q (.ok a)).stocked?).elim t.stockAccount
      fun added => t.stockAccount ++ [added] := by
  cases h with
  | still h => rw [stocked?_still h, Option.elim_none]
  | stocked new hvalid => exact stockAccount_append hk new
  | placed order => exact stockAccount_place hk order now
  | confirmed ho hs =>
    have hfind := (visible?_eq_some.mp ho).1
    exact stockAccount_map_orders (.setStatus _ _)
      (.setStatus hk.numbered.orders.nodup hfind (by simp [hs]) (by simp))
  | cancelled ho hs =>
    obtain ⟨hfind, -⟩ := visible?_eq_some.mp ho
    obtain ⟨-, rfl⟩ := Tables.find?_eq_some hfind
    exact stockAccount_cancel (isLive_of_find? hfind hs)
  | archived ho => exact stockAccount_map_orders (.archive _) (.archive t _)
  | joined name => rfl
  | charged amount => rfl
  | issued c => rfl
  | opened p => rfl
  | keyed key => rfl
  | completed => rfl
  | failed reason => rfl

end Store.Tables

/-! ## The law -/

/-- After any run, no stock is negative, and the products are those that were added, each with as
much in stock and in orders that are not cancelled, archived or not, as it came with. -/
theorem what_is_in_stock_and_sold_is_what_was_put_in (deeds : List Deed) :
    (∀ p ∈ (Shop.after deeds).tables.products, 0 ≤ p.stock) ∧
      (Shop.after deeds).tables.products.map
          (fun p => (p.id, p.stock + (Shop.after deeds).tables.committed p.id)) =
        (Shop.after deeds).record.filterMap (·.2.stocked?) := by
  refine ⟨(Shop.kept_after deeds).stocked.stock_nonneg, ?_⟩
  exact Shop.noted_after (P := fun t added => t.stockAccount = added) rfl stocked?_not_succeeded
    (fun hk h hchange => h ▸ Tables.stockAccount_change hk hchange)
    (fun id h => (Tables.stockAccount_withdraw id).trans h) deeds

/-- Of ten pieces, an order that names the product on two lines takes three. -/
example :
    let quiet : Surroundings :=
      ⟨0, .sound, .sound, .error (.transport ""), .error (.transport "")⟩
    let s := Shop.after
      [.start (.createUser "ann"), .proceed 0 quiet,
        .start (.charge 1 ⟨1000, by decide⟩), .proceed 1 quiet,
        .start (.createProduct ⟨"tea", ⟨100, by decide⟩, 10⟩ (by decide)), .proceed 2 quiet,
        .start (.createOrder ⟨1, [⟨1, 2, none⟩, ⟨1, 1, none⟩], none⟩), .proceed 3 quiet]
    s.tables.products.map (·.stock) = [7] ∧ s.tables.committed 1 = 3 := by
  decide +kernel

end Checkout
