-- A coupon is spent on one line at a time. It is in use while that line's
-- order stands, and free again once the order is cancelled, so its version
-- tells how often it went either way.
import Checkout.Proofs.Shop.Run

namespace Checkout

open Store

/-- What a coupon grants, and to whom. -/
def Coupon.terms (c : Coupon) : Id × Id × CouponKind × Int := (c.id, c.ownerId, c.kind, c.discount)

namespace Store.Tables

/-! ## Lines that name a coupon -/

/-- The order is there, and it is cancelled. -/
def isCancelled (t : Tables) (orderId : Id) : Bool :=
  t.orders.any fun o => o.id == orderId && o.status == .cancelled

/-- How many lines of cancelled orders name a coupon. -/
def returnedUses (t : Tables) (coupon : Id) : Int :=
  tally (fun l => l.couponId == some coupon && t.isCancelled l.orderId) (fun _ => 1) t.lines

/-- How many lines name a coupon, whatever became of their orders. -/
def namings (t : Tables) (coupon : Id) : Int :=
  tally (·.couponId == some coupon) (fun _ => 1) t.lines

/-- What a coupon says of itself is what the lines say that name it. -/
structure CouponAccount (t : Tables) (c : Coupon) : Prop where
  used : c.status = .used ↔ t.liveUses c.id = 1
  unused : c.status = .unused ↔ t.liveUses c.id = 0
  owner : ∀ l ∈ t.lines, l.couponId = some c.id →
    ∃ o : Order, t.find? l.orderId = some o ∧ o.userId = c.ownerId
  version : c.version = 2 * t.returnedUses c.id + if c.status = .used then 1 else 0
  odd : c.status = .used ↔ c.version % 2 = 1

variable {t t' : Tables}

/-- An order that is there is either live or cancelled. -/
theorem isCancelled_eq (hn : (t.keys Order).Nodup) {id : Id} (hid : id ∈ t.keys Order) :
    t.isCancelled id = !t.isLive id := by
  obtain ⟨o, ho⟩ := exists_of_mem_keys hid
  obtain ⟨hm, rfl⟩ : o ∈ t.orders ∧ o.id = id := find?_eq_some ho
  have honly : ∀ other ∈ t.orders, other.id = o.id → other.status = o.status :=
    fun other hother hsame => congrArg Order.status (List.inj_on_of_nodup_map hn hother hm hsame)
  rw [isCancelled, isLive, Bool.eq_iff_iff, Bool.not_eq_true', List.any_eq_true,
    List.any_eq_false]
  constructor
  · rintro ⟨other, hother, hover⟩ third hthird
    simp only [Bool.and_eq_true, beq_iff_eq] at hover
    by_cases hsame : third.id = o.id
    · simp [honly third hthird hsame, ← honly other hother hover.1, hover.2]
    · simp [hsame]
  · intro hdead
    refine ⟨o, hm, ?_⟩
    simpa using hdead o hm

/-- The lines that name a coupon are those of live orders and those of cancelled ones. -/
theorem namings_eq (hk : t.Kept) (coupon : Id) :
    t.namings coupon = t.liveUses coupon + t.returnedUses coupon := by
  rw [namings, tally_split _ fun l : OrderLine => t.isLive l.orderId]
  congr 1
  apply tally_congr _ fun _ _ => rfl
  intro l hl
  rw [isCancelled_eq hk.numbered.orders.nodup (hk.linked.line_order l hl)]

theorem namings_place (order : NewOrder) (now : Moment) (id : Id) :
    (t.place order now).namings id =
      t.namings id + ((order.lines.filterMap (·.couponId)).count id : Int) := by
  rw [← namings_placedLines (t := t)]
  exact tally_append _ _ t.lines (t.placedLines order)

/-- No line can name a coupon that is not there yet. -/
theorem namings_next (hnum : t.Numbered) (hlink : t.Linked) : t.namings (t.nextId Coupon) = 0 := by
  apply tally_eq_zero
  intro l hl
  by_contra hnamed
  have hid : l.couponId = some (t.nextId Coupon) := by simpa using hnamed
  exact nextId_notMem hnum.coupons (hlink.line_coupon l hl _ hid)

/-! ## What a version counts -/

/-- Each line that names a coupon counts once in its version, and once more when it is given
back. All of them belong to its owner. -/
structure CouponsCounted (t : Tables) : Prop where
  version : ∀ c ∈ t.coupons, c.version + t.liveUses c.id = 2 * t.namings c.id
  owner : ∀ c ∈ t.coupons, ∀ l ∈ t.lines, l.couponId = some c.id →
    ∃ o ∈ t.orders, o.id = l.orderId ∧ o.userId = c.ownerId

theorem switched_ownerId (ids : List Id) (status : CouponStatus) (c : Coupon) :
    (if c.id ∈ ids then c.switched status else c).ownerId = c.ownerId := by
  split <;> rfl

/-- Coupons with different ids each count one more if they are among those that change. -/
theorem switched_version {ids : List Id} (hn : ids.Nodup) (status : CouponStatus) (c : Coupon) :
    (if c.id ∈ ids then c.switched status else c).version = c.version + (ids.count c.id : Int) := by
  by_cases hmem : c.id ∈ ids
  · rw [if_pos hmem, List.count_eq_one_of_mem hn hmem]
    rfl
  · rw [if_neg hmem, List.count_eq_zero_of_not_mem hmem]
    simp

namespace CouponsCounted

theorem of_same (h : t.CouponsCounted) (hc : t'.coupons = t.coupons) (hl : t'.lines = t.lines)
    (hu : ∀ id, t'.liveUses id = t.liveUses id)
    (ho : ∀ o ∈ t.orders, ∃ o' ∈ t'.orders, o'.id = o.id ∧ o'.userId = o.userId) :
    t'.CouponsCounted := by
  constructor
  · intro c hm
    rw [hu, namings, hl]
    exact h.version c (hc ▸ hm)
  · intro c hm l hline hid
    obtain ⟨o, hmo, hoid, hown⟩ := h.owner c (hc ▸ hm) l (hl ▸ hline) hid
    obtain ⟨o', hmo', hid', hown'⟩ := ho o hmo
    exact ⟨o', hmo', hid'.trans hoid, hown'.trans hown⟩

/-- Nothing that coupons, lines or orders have to do with has changed. -/
theorem untouched (h : t.CouponsCounted) (hc : t'.coupons = t.coupons) (hl : t'.lines = t.lines)
    (ho : t'.orders = t.orders) : t'.CouponsCounted := by
  refine h.of_same hc hl (fun id => liveTally_congr _ _ hl fun o => ?_) fun o hm => ?_
  · rw [isLive, isLive, ho]
  · exact ⟨o, ho ▸ hm, rfl, rfl⟩

theorem map_orders (h : t.CouponsCounted) {f : Order → Order} (hf : SameAccount f)
    (hl : SameLife t f) : CouponsCounted { t with orders := t.orders.map f } := by
  refine h.of_same rfl rfl (fun _ => ?_) fun o ho => ?_
  · exact liveTally_congr _ _ rfl (isLive_map_orders (fun o _ => hf.id o) hl)
  · exact ⟨f o, List.mem_map_of_mem ho, hf.id o, hf.user o⟩

theorem issue (h : t.CouponsCounted) (hnum : t.Numbered) (hlink : t.Linked) (c : NewCoupon) :
    (t.append (t.newCoupon c)).CouponsCounted := by
  constructor
  · refine forall_mem_concat h.version ?_
    have hlive : (t.append (t.newCoupon c)).liveUses (t.newCoupon c).id = 0 :=
      liveUses_next hnum hlink
    have hnone : (t.append (t.newCoupon c)).namings (t.newCoupon c).id = 0 :=
      namings_next hnum hlink
    rw [hlive, hnone]
    rfl
  · refine forall_mem_concat h.owner ?_
    intro l hl hid
    exact absurd (hlink.line_coupon l hl _ hid) (nextId_notMem hnum.coupons)

/-- An order names only coupons of its own user, each at most once. -/
theorem place (h : t.CouponsCounted) (hk : t.Kept) {order : NewOrder} (now : Moment)
    (hfine : order.Admissible t) : (t.place order now).CouponsCounted := by
  constructor
  · intro d hd
    obtain ⟨c, hc, rfl⟩ := List.mem_map.mp hd
    rw [switched_id, switched_version hfine.well_formed.coupons_nodup, namings_place,
      liveUses_place hk.numbered hk.linked]
    have := h.version c hc
    omega
  · intro d hd l hl hid
    obtain ⟨c, hc, rfl⟩ := List.mem_map.mp hd
    rw [switched_id] at hid
    rw [switched_ownerId]
    rcases List.mem_append.mp hl with hl | hl
    · obtain ⟨o, ho, hown⟩ := h.owner c hc l hl hid
      exact ⟨o, List.mem_append_left _ ho, hown⟩
    · obtain ⟨i, hi, rfl⟩ := List.mem_mapIdx.mp hl
      obtain ⟨other, hm, hsame, hown, -⟩ := hfine.coupon _ (List.getElem_mem hi) c.id hid
      obtain rfl : other = c := List.inj_on_of_nodup_map hk.numbered.coupons.nodup hm hc hsame
      exact ⟨t.placedOrder order, List.mem_append_right _ (List.mem_singleton.mpr rfl), rfl,
        hown.symm⟩

theorem cancel (h : t.CouponsCounted) (hk : t.Kept) {order : Order}
    (hlive : t.isLive order.id = true) : (t.cancel order).CouponsCounted := by
  have hreturn := returnable_linesOf hk hlive
  constructor
  · intro d hd
    obtain ⟨c, hc, rfl⟩ := List.mem_map.mp hd
    change _ + (t.cancel order).liveUses (if c.id ∈ (t.linesOf order.id).filterMap (·.couponId)
      then c.switched .unused else c).id = _
    rw [switched_id, switched_version hreturn.coupons_nodup, liveUses_cancel hlive]
    have := h.version c hc
    change _ = 2 * t.namings c.id
    omega
  · intro d hd l hl hid
    obtain ⟨c, hc, rfl⟩ := List.mem_map.mp hd
    rw [switched_id] at hid
    rw [switched_ownerId]
    obtain ⟨o, ho, hown⟩ := h.owner c hc l hl hid
    have hsame := SameAccount.setStatus order.id .cancelled
    exact ⟨_, List.mem_map_of_mem ho, (hsame.id o).trans hown.1, (hsame.user o).trans hown.2⟩

theorem change {α : Type} {q : Query α} {a : α} {now : Moment} (h : t.CouponsCounted)
    (hk : t.Kept) (hc : Change now t q a t') : t'.CouponsCounted := by
  cases hc with
  | still => exact h
  | issued c => exact h.issue hk.numbered hk.linked c
  | placed order hfine => exact h.place hk _ hfine
  | confirmed ho hs =>
    have hfind := (visible?_eq_some.mp ho).1
    exact h.map_orders (.setStatus _ _)
      (.setStatus hk.numbered.orders.nodup hfind (by simp [hs]) (by simp))
  | cancelled ho hs =>
    obtain ⟨hfind, -⟩ := visible?_eq_some.mp ho
    obtain ⟨-, rfl⟩ := Tables.find?_eq_some hfind
    exact h.cancel hk (isLive_of_find? hfind hs)
  | archived ho => exact h.map_orders (.archive _) (.archive t _)
  | joined name => exact h.untouched rfl rfl rfl
  | charged amount => exact h.untouched rfl rfl rfl
  | stocked new => exact h.untouched rfl rfl rfl
  | opened p => exact h.untouched rfl rfl rfl
  | keyed key => exact h.untouched rfl rfl rfl
  | completed => exact h.untouched rfl rfl rfl
  | failed reason => exact h.untouched rfl rfl rfl

/-- The account of a coupon follows from what its version counts. -/
theorem account (h : t.CouponsCounted) (hk : t.Kept) {c : Coupon} (hc : c ∈ t.coupons) :
    t.CouponAccount c := by
  have hlive := hk.coupons c hc
  have hversion := h.version c hc
  have hnamings := namings_eq hk c.id
  have howner : ∀ l ∈ t.lines, l.couponId = some c.id →
      ∃ o : Order, t.find? l.orderId = some o ∧ o.userId = c.ownerId := by
    intro l hl hid
    obtain ⟨o, ho, horder, hown⟩ := h.owner c hc l hl hid
    exact ⟨o, horder ▸ find?_of_mem hk.numbered.orders.nodup ho, hown⟩
  cases hs : c.status with
  | used =>
    rw [Coupon.isUsed, hs, beq_self_eq_true, if_pos rfl] at hlive
    refine ⟨by simp [hs, hlive], by simp [hs, hlive], howner, ?_, ?_⟩
    · rw [if_pos hs]
      omega
    · simp only [hs, true_iff]
      omega
  | unused =>
    rw [(isUsed_eq_false_iff c).mpr hs, if_neg Bool.false_ne_true] at hlive
    refine ⟨by simp [hs, hlive], by simp [hs, hlive], howner, ?_, ?_⟩
    · rw [if_neg (by simp [hs])]
      omega
    · simp only [hs, reduceCtorEq, false_iff]
      omega

end CouponsCounted

/-! ## What a coupon grants -/

theorem terms_switchCoupons (ids : List Id) (status : CouponStatus) :
    (t.switchCoupons ids status).coupons.map Coupon.terms = t.coupons.map Coupon.terms := by
  apply map_keys
  intro c
  split <;> rfl

/-- No change touches what a coupon grants. One that is issued comes last. -/
theorem terms_change {α : Type} {q : Query α} {a : α} {now : Moment} (h : Change now t q a t') :
    t.coupons.map Coupon.terms <+: t'.coupons.map Coupon.terms := by
  cases h with
  | issued c => exact (List.prefix_append t.coupons [t.newCoupon c]).map _
  | placed order => exact terms_switchCoupons (t := t) _ _ ▸ List.prefix_rfl
  | cancelled ho => exact terms_switchCoupons (t := t) _ _ ▸ List.prefix_rfl
  | still => exact List.prefix_rfl
  | joined name => exact List.prefix_rfl
  | charged amount => exact List.prefix_rfl
  | stocked new => exact List.prefix_rfl
  | confirmed ho => exact List.prefix_rfl
  | archived ho => exact List.prefix_rfl
  | opened p => exact List.prefix_rfl
  | keyed key => exact List.prefix_rfl
  | completed => exact List.prefix_rfl
  | failed reason => exact List.prefix_rfl

end Store.Tables

/-! ## The law -/

theorem couponsCounted_after (deeds : List Deed) : (Shop.after deeds).tables.CouponsCounted := by
  apply Shop.holds_after (P := fun t _ => t.CouponsCounted)
  · constructor <;> exact fun _ h => nomatch h
  · intro t t' record record' hk h hadvance
    cases hadvance with
    | waited => exact h
    | answered call hchange => exact h.change hk hchange
    | noted call hact => exact h
    | withdrew id => exact h.untouched rfl rfl rfl

/-- After any run, every coupon is in use by exactly one line of an order that is not cancelled, or
by none and free. All lines that ever named it are its owner's, and its version counts them. What
it grants, and to whom, stays the same whatever else is done. -/
theorem a_coupon_is_in_use_by_one_line_at_most (deeds later : List Deed) :
    (∀ c ∈ (Shop.after deeds).tables.coupons, (Shop.after deeds).tables.CouponAccount c) ∧
      (Shop.after deeds).tables.coupons.map Coupon.terms <+:
        (Shop.after (deeds ++ later)).tables.coupons.map Coupon.terms := by
  refine ⟨fun c hc => (couponsCounted_after deeds).account (Shop.kept_after deeds) hc, ?_⟩
  exact Shop.related_after (R := fun t t' =>
      t.coupons.map Coupon.terms <+: t'.coupons.map Coupon.terms)
    (fun _ => List.prefix_rfl) (fun h h' => h.trans h') (fun _ h => Tables.terms_change h)
    (fun _ _ => List.prefix_rfl) deeds later

end Checkout
