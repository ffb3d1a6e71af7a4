-- What is done for one user leaves alone what others have. An effect says how
-- the rows change that were there before. If it keeps to the products, the
-- coupons and the balance of one user, other users see no difference, and
-- effects for two users come to the same in either order.
import Checkout.Proofs.Store.Outlook

namespace Checkout

open Store

/-- An entry of a history without its ids. -/
structure Posting where
  userId : Id
  kind : LedgerKind
  amount : Money
  balanceAfter : Money
deriving DecidableEq, Repr

def LedgerEntry.posting (e : LedgerEntry) : Posting := ⟨e.userId, e.kind, e.amount, e.balanceAfter⟩

/-- How much the stock of each product moves, which coupons change their status, what is booked,
and which order has another status afterwards. -/
structure Effect where
  stock : Id → Int
  coupons : List Id
  status : CouponStatus
  posting : Option Posting
  move : Option (Id × OrderStatus)

namespace Effect

/-- Nothing is changed. -/
def nothing : Effect := ⟨fun _ => 0, [], .unused, none, none⟩

variable (e : Effect)

def onProduct (p : Product) : Product := { p with stock := p.stock + e.stock p.id }

def onCoupon (c : Coupon) : Coupon := if c.id ∈ e.coupons then c.switched e.status else c

def onBalance (b : Balance) : Balance :=
  match e.posting with
  | some p => if b.userId = p.userId then { b with amount := b.amount.plus p.amount } else b
  | none => b

def onOrder (o : Order) : Order :=
  match e.move with
  | some (id, status) => if o.id = id then { o with status } else o
  | none => o

/-- The tables afterwards. Rows may have been added to them, but only for orders that are new. -/
structure Makes (t t' : Tables) : Prop where
  users : t'.users = t.users
  products : t'.products = t.products.map e.onProduct
  coupons : t'.coupons = t.coupons.map e.onCoupon
  balances : t'.balances = t.balances.map e.onBalance
  history : ∃ new, t'.history = t.history ++ new ∧ new.map LedgerEntry.posting = e.posting.toList
  orders : ∃ new, t'.orders = t.orders.map e.onOrder ++ new ∧ ∀ o ∈ new, o.id ∉ t.keys Order
  lines : ∃ new, t'.lines = t.lines ++ new ∧ ∀ l ∈ new, l.orderId ∉ t.keys Order

/-- The effect keeps to some products, and to what belongs to one user. -/
structure Within (t : Tables) (userId : Id) (goods : List Id) : Prop where
  stock : ∀ id, id ∉ goods → e.stock id = 0
  coupon : ∀ c ∈ t.coupons, c.id ∈ e.coupons → c.ownerId = userId
  posting : ∀ p ∈ e.posting, p.userId = userId
  order : ∀ move ∈ e.move, ∃ o : Order, t.find? move.1 = some o ∧ o.userId = userId

variable {e} {t t' : Tables} {userId : Id} {goods : List Id}

@[simp] theorem onCoupon_id (c : Coupon) : (e.onCoupon c).id = c.id := by
  rw [onCoupon]
  split <;> rfl

@[simp] theorem onCoupon_ownerId (c : Coupon) : (e.onCoupon c).ownerId = c.ownerId := by
  rw [onCoupon]
  split <;> rfl

@[simp] theorem onBalance_userId (b : Balance) : (e.onBalance b).userId = b.userId := by
  rw [onBalance]
  split
  · split <;> rfl
  · rfl

@[simp] theorem onOrder_id (o : Order) : (e.onOrder o).id = o.id := by
  rw [onOrder]
  split
  · split <;> rfl
  · rfl

/-! ## Nothing -/

theorem nothing_makes (t : Tables) : nothing.Makes t t where
  users := rfl
  products := (List.map_id'' (fun p => by rw [onProduct, nothing, Int.add_zero]) t.products).symm
  coupons := (List.map_id'' (fun c => if_neg List.not_mem_nil) t.coupons).symm
  balances := (List.map_id' t.balances).symm
  history := ⟨[], (List.append_nil t.history).symm, rfl⟩
  orders := by
    refine ⟨[], ?_, by simp⟩
    rw [List.append_nil]
    exact (List.map_id' t.orders).symm
  lines := ⟨[], (List.append_nil t.lines).symm, by simp⟩

theorem nothing_within (t : Tables) (userId : Id) (goods : List Id) :
    nothing.Within t userId goods where
  stock _ _ := rfl
  coupon _ _ h := nomatch h
  posting _ h := nomatch h
  order _ h := nomatch h

/-! ## What is changed -/

section Changed

variable (h : e.Within t userId goods)
include h

theorem Within.onProduct {p : Product} (hp : p.id ∉ goods) : e.onProduct p = p := by
  rw [Effect.onProduct, h.stock p.id hp, Int.add_zero]

/-- A coupon of somebody else stays as it is, whatever else became of it. -/
theorem Within.onCoupon {c changed : Coupon} (hc : c ∈ t.coupons) (howner : c.ownerId ≠ userId)
    (hid : changed.id = c.id) : e.onCoupon changed = changed :=
  if_neg fun hmem => howner (h.coupon c hc (hid ▸ hmem))

theorem Within.onBalance {b : Balance} (hb : b.userId ≠ userId) : e.onBalance b = b := by
  rw [Effect.onBalance]
  cases hposting : e.posting with
  | none => rfl
  | some p => exact if_neg fun hsame => hb (hsame.trans (h.posting p hposting))

theorem Within.posting_of_ne {other : Id} (hne : userId ≠ other) :
    e.posting.toList.filter (·.userId == other) = [] := by
  rw [List.filter_eq_nil_iff]
  intro p hp hsame
  exact hne ((h.posting p (Option.mem_toList.mp hp)).symm.trans (beq_iff_eq.mp hsame))

/-- An order of somebody else stays as it is, whatever else became of it. -/
theorem Within.onOrder {o changed : Order} (ho : t.find? o.id = some o) (howner : o.userId ≠ userId)
    (hid : changed.id = o.id) : e.onOrder changed = changed := by
  rw [Effect.onOrder]
  cases hmove : e.move with
  | none => rfl
  | some move =>
    obtain ⟨other, hother, hown⟩ := h.order move hmove
    refine if_neg fun hsame => howner ?_
    rw [← hsame, hid, ho] at hother
    exact Option.some.inj hother ▸ hown

end Changed

namespace Makes

variable (h : e.Makes t t')
include h

theorem find?_product (id : Id) :
    (t'.find? id : Option Product) = (t.find? id).map e.onProduct := by
  simp only [Tables.find?, Row.rows, Row.key, h.products, List.find?_map]
  rfl

theorem find?_coupon (id : Id) : (t'.find? id : Option Coupon) = (t.find? id).map e.onCoupon := by
  simp only [Tables.find?, Row.rows, Row.key, h.coupons, List.find?_map, Function.comp_def,
    onCoupon_id]

theorem find?_balance (id : Id) :
    (t'.find? id : Option Balance) = (t.find? id).map e.onBalance := by
  simp only [Tables.find?, Row.rows, Row.key, h.balances, List.find?_map, Function.comp_def,
    onBalance_userId]

/-- Orders that were there are found as they were changed. -/
theorem find?_order {id : Id} {o : Order} (ho : t.find? id = some o) :
    t'.find? id = some (e.onOrder o) := by
  obtain ⟨new, horders, -⟩ := h.orders
  change t.orders.find? (·.id == id) = some o at ho
  simp only [Tables.find?, Row.rows, Row.key, horders, List.find?_append, List.find?_map,
    Function.comp_def, onOrder_id, ho, Option.map_some, Option.some_or]

theorem linesOf {id : Id} (hid : id ∈ t.keys Order) : t'.linesOf id = t.linesOf id := by
  obtain ⟨new, hlines, hnew⟩ := h.lines
  have hother : new.filter (·.orderId == id) = [] := by
    rw [List.filter_eq_nil_iff]
    intro l hl hsame
    exact hnew l hl (beq_iff_eq.mp hsame ▸ hid)
  rw [Tables.linesOf, hlines, List.filter_append, hother, List.append_nil]
  rfl

theorem entriesOf (userId : Id) :
    (t'.entriesOf userId).map LedgerEntry.posting =
      (t.entriesOf userId).map LedgerEntry.posting ++
        e.posting.toList.filter (·.userId == userId) := by
  obtain ⟨new, hhistory, hnew⟩ := h.history
  rw [Tables.entriesOf, hhistory, List.filter_append, List.map_append, ← hnew, List.filter_map]
  rfl

end Makes

/-! ## What others see -/

/-- To another user and to those with other products, nothing has happened. -/
theorem Makes.sameTo {other : Id} {theirs : List Id} (h : e.Makes t t')
    (hwithin : e.Within t userId goods) (huser : other ≠ userId)
    (hgoods : ∀ id ∈ theirs, id ∉ goods) : t.SameTo other theirs t' where
  users := h.users
  product id hid := by
    rw [h.find?_product]
    cases hp : (t.find? id : Option Product) with
    | none => rfl
    | some p =>
      obtain rfl : p.id = id := (Tables.find?_eq_some hp).2
      rw [Option.map_some, hwithin.onProduct (hgoods p.id hid)]
  coupon id := by
    rw [h.find?_coupon]
    cases hc : (t.find? id : Option Coupon) with
    | none => rfl
    | some c =>
      simp only [Option.map_some, Option.filter_some, onCoupon_ownerId, beq_iff_eq]
      by_cases howner : c.ownerId = other
      · rw [hwithin.onCoupon (Tables.find?_eq_some hc).1 (howner ▸ huser) rfl]
      · rw [if_neg howner, if_neg howner]
  balance := by
    rw [h.find?_balance]
    cases hb : (t.find? other : Option Balance) with
    | none => rfl
    | some b =>
      obtain rfl : b.userId = other := (Tables.find?_eq_some hb).2
      rw [Option.map_some, hwithin.onBalance huser]
  order id o ho howner := by
    obtain rfl : o.id = id := (Tables.find?_eq_some ho).2
    refine ⟨?_, h.linesOf (Tables.mem_keys_of_find? ho)⟩
    rw [h.find?_order ho, hwithin.onOrder ho (howner ▸ huser) rfl]

end Effect

/-! ## Either order -/

/-- Other tables say the same about stock, coupons and balances, about the history of each balance
without its ids, and about orders that are known. -/
structure Store.Tables.SameBooks (known : List Id) (t t' : Tables) : Prop where
  products : t'.products = t.products
  coupons : t'.coupons = t.coupons
  balances : t'.balances = t.balances
  history : ∀ userId, (t'.entriesOf userId).map LedgerEntry.posting =
    (t.entriesOf userId).map LedgerEntry.posting
  orders : ∀ id ∈ known, (t'.find? id : Option Order) = t.find? id

namespace Effect

/-- Changing all rows in one way and then in another comes to the same as the other way round. -/
theorem map_swap {α : Type} {rows : List α} {f g : α → α}
    (h : ∀ row ∈ rows, g (f row) = f (g row)) :
    (rows.map f).map g = (rows.map g).map f := by
  rw [List.map_map, List.map_map]
  exact List.map_congr_left h

variable {first second : Effect} {t : Tables} {u v : Id} {mine theirs : List Id}

theorem onProduct_swap (p : Product) :
    second.onProduct (first.onProduct p) = first.onProduct (second.onProduct p) := by
  simp only [onProduct, Int.add_right_comm]

section Swap

variable (hfirst : first.Within t u mine) (hsecond : second.Within t v theirs) (huv : u ≠ v)
include hfirst hsecond huv

theorem onCoupon_swap {c : Coupon} (hc : c ∈ t.coupons) :
    second.onCoupon (first.onCoupon c) = first.onCoupon (second.onCoupon c) := by
  by_cases howner : c.ownerId = u
  · have hother : c.ownerId ≠ v := howner ▸ huv
    rw [hsecond.onCoupon hc hother rfl, hsecond.onCoupon hc hother (onCoupon_id c)]
  · rw [hfirst.onCoupon hc howner rfl, hfirst.onCoupon hc howner (onCoupon_id c)]

theorem onBalance_swap (b : Balance) :
    second.onBalance (first.onBalance b) = first.onBalance (second.onBalance b) := by
  by_cases howner : b.userId = u
  · have hother : b.userId ≠ v := howner ▸ huv
    rw [hsecond.onBalance hother, hsecond.onBalance ((onBalance_userId b).trans_ne hother)]
  · rw [hfirst.onBalance howner, hfirst.onBalance ((onBalance_userId b).trans_ne howner)]

theorem onOrder_swap {o : Order} (ho : t.find? o.id = some o) :
    second.onOrder (first.onOrder o) = first.onOrder (second.onOrder o) := by
  by_cases howner : o.userId = u
  · have hother : o.userId ≠ v := howner ▸ huv
    rw [hsecond.onOrder ho hother rfl, hsecond.onOrder ho hother (onOrder_id o)]
  · rw [hfirst.onOrder ho howner rfl, hfirst.onOrder ho howner (onOrder_id o)]

/-- At most one of the two is about the balance of a user. -/
theorem posting_swap (userId : Id) :
    first.posting.toList.filter (·.userId == userId) ++
        second.posting.toList.filter (·.userId == userId) =
      second.posting.toList.filter (·.userId == userId) ++
        first.posting.toList.filter (·.userId == userId) := by
  by_cases hid : u = userId
  · rw [hsecond.posting_of_ne (hid ▸ huv.symm), List.append_nil, List.nil_append]
  · rw [hfirst.posting_of_ne hid, List.append_nil, List.nil_append]

/-- Effects for two users, made one after the other, leave the same books in either order. -/
theorem sameBooks {t₁ t₂ t₁₂ t₂₁ : Tables} (h₁ : first.Makes t t₁) (h₁₂ : second.Makes t₁ t₁₂)
    (h₂ : second.Makes t t₂) (h₂₁ : first.Makes t₂ t₂₁) :
    t₁₂.SameBooks (t.keys Order) t₂₁ where
  products := by
    rw [h₁₂.products, h₁.products, h₂₁.products, h₂.products]
    exact map_swap fun p _ => (onProduct_swap p).symm
  coupons := by
    rw [h₁₂.coupons, h₁.coupons, h₂₁.coupons, h₂.coupons]
    exact map_swap fun c hc => (onCoupon_swap hfirst hsecond huv hc).symm
  balances := by
    rw [h₁₂.balances, h₁.balances, h₂₁.balances, h₂.balances]
    exact map_swap fun b _ => (onBalance_swap hfirst hsecond huv b).symm
  history userId := by
    rw [h₁₂.entriesOf, h₁.entriesOf, h₂₁.entriesOf, h₂.entriesOf, List.append_assoc,
      List.append_assoc, posting_swap hfirst hsecond huv]
  orders id hid := by
    obtain ⟨o, ho⟩ := Tables.exists_of_mem_keys hid
    obtain rfl : o.id = id := (Tables.find?_eq_some ho).2
    rw [h₁₂.find?_order (h₁.find?_order ho), h₂₁.find?_order (h₂.find?_order ho),
      onOrder_swap hfirst hsecond huv ho]

end Swap

end Effect

end Checkout
