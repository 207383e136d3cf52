/-
PetParadise.App.ShopRefinement — the application is the abstract shop.

`Db.shop` reads the four tables of the shop as an abstract one: offers are
products, the bag of a user are the active cart rows and the past the
inactive ones, and an order is a bill with the units on its lines.

Each change the application makes to these tables is one event
(`Db.shop_…`), and each request makes at most one such change. The
checkouts take the most work: they run over several statements, and may
stop between two of them. `checkout_eval` says what they leave in every
case.

  §1 The view      — `Db.shop`.
  §2 The events    — what the changes of the tables look like.
  §3 The checkouts — `checkout_eval`, and why one breaks off.
  §4 The requests  — `step_matched`: one request is one event.
  §5 The results   — whole runs.
-/
import Mathlib.Data.List.TakeWhile
import PetParadise.App.QuantityTheorems
import PetParadise.App.RepeatedCheckoutTheorems
import PetParadise.App.PaymentTheorems
import PetParadise.Shop.AbstractShop

namespace PetParadise

open Store PetParadise.Action

instance (db : Db) : Decidable db.LinesKnown :=
  inferInstanceAs (Decidable (∀ l ∈ db.billProducts.rows, _))

/-! ## §1 The view -/

def BillStatus.payment : BillStatus → Payment
  | .unpaid => .awaited
  | .paid => .received
  | .cash => .onDelivery

def Product.offer (p : Product) : Offer := ⟨p.price, p.quantity⟩

/-- The products of the rows of a user with a status, one per row. -/
def Db.unitsOf (db : Db) (status : CartStatus) (u : Id) : Multiset Id :=
  (db.carts.rows.filter fun c => c.userId == u && c.status == status).map (·.productId)

/-- The units a line stands for. -/
def BillProduct.units (l : BillProduct) : Multiset Id := .replicate l.quantity.toNat l.productId

/-- The units on the lines of a bill. -/
def Db.itemsOn (db : Db) (billId : Id) : Multiset Id :=
  sumWhere BillProduct.units (·.billId == billId) db.billProducts.rows

/-- A bill over these units. -/
def Bill.order (b : Bill) (items : Multiset Id) : Order Id Id Id where
  number := b.id
  customer := b.userId
  amount := b.amount
  items := items
  payment := b.status.payment
  shipped := b.isShipped

def Db.orderOf (db : Db) (b : Bill) : Order Id Id Id := b.order (db.itemsOn b.id)

/-- The database as a shop. -/
def Db.shop (db : Db) : Shop Id Id Id where
  offer p := (db.products.find? p).map Product.offer
  bag := db.unitsOf .active
  past := db.unitsOf .inactive
  orders := db.bills.rows.map db.orderOf

/-- A row of the user, the product and the status. -/
def Cart.isOf (u p : Id) (status : CartStatus) (c : Cart) : Bool :=
  c.productId == p && (c.userId == u && c.status == status)

theorem Db.count_unitsOf (db : Db) (status : CartStatus) (u p : Id) :
    (db.unitsOf status u).count p = db.carts.rows.countP (Cart.isOf u p status) := by
  rw [Db.unitsOf, Multiset.coe_count, List.count, List.countP_map, List.countP_filter]
  rfl

/-! ## §2 The events -/

/-- The view looks at four tables. -/
theorem Db.shop_congr {db db' : Db} (hproducts : db'.products = db.products)
    (hcarts : db'.carts = db.carts) (hbills : db'.bills = db.bills)
    (hlines : db'.billProducts = db.billProducts) : db'.shop = db.shop := by
  have horder : db'.orderOf = db.orderOf := by
    funext b
    simp only [Db.orderOf, Db.itemsOn, hlines]
  apply Shop.ext
  · simp only [Db.shop, hproducts]
  · funext u
    simp only [Db.shop, Db.unitsOf, hcarts]
  · funext u
    simp only [Db.shop, Db.unitsOf, hcarts]
  · simp only [Db.shop, hbills, horder]

theorem SetsRows.countP_eq {u p : Id} {n : Nat} {db db' : Db} (h : SetsRows u p n db db')
    {q : Cart → Bool} (hq : ∀ c, q c = true → c.counts u p = false) :
    db'.carts.rows.countP q = db.carts.rows.countP q := by
  have hcount : ∀ x : Db, x.carts.rows.countP q =
      (x.carts.rows.filter fun c => !c.counts u p).countP q := by
    intro x
    rw [List.countP_filter]
    refine List.countP_congr fun c _ => ?_
    simp only [Bool.and_eq_true, Bool.not_eq_true', iff_self_and]
    exact hq c
  rw [hcount, h.others, ← hcount]

/-- `create` and `update_quantity`. -/
theorem Db.shop_setsRows {u p : Id} {n : Nat} {db db' : Db} (h : SetsRows u p n db db') :
    db'.shop = db.shop.apply (.hold u p n) := by
  have hframe := h.frame
  have horder : db'.orderOf = db.orderOf := by rw [hframe]; rfl
  apply Shop.ext
  · rw [hframe]
    rfl
  · funext v
    ext i
    change (db'.unitsOf .active v).count i = _
    rw [Db.count_unitsOf]
    by_cases hvi : v = u ∧ i = p
    · obtain ⟨rfl, rfl⟩ := hvi
      have hheld : db'.carts.rows.countP (Cart.isOf v i .active) = n :=
        (db'.held_eq_countP v i).symm.trans h.held
      simpa [Shop.apply] using hheld
    · rw [h.countP_eq]
      · rw [← Db.count_unitsOf]
        change _ = (Function.update (db.unitsOf .active) u _ v).count i
        by_cases hv : v = u
        · have hi : i ≠ p := fun hi => hvi ⟨hv, hi⟩
          subst hv
          simp [Db.shop, hi, Multiset.count_replicate, Ne.symm hi]
        · rw [Function.update_of_ne hv]
      · intro c hc
        simp only [Cart.isOf, Bool.and_eq_true, beq_iff_eq] at hc
        rw [← Bool.not_eq_true]
        intro hcounts
        simp only [Cart.counts, Bool.and_eq_true, beq_iff_eq] at hcounts
        exact hvi ⟨hc.2.1.symm.trans hcounts.2.1, hc.1.symm.trans hcounts.1⟩
  · funext v
    ext i
    change (db'.unitsOf .inactive v).count i = (db.unitsOf .inactive v).count i
    rw [Db.count_unitsOf, Db.count_unitsOf, h.countP_eq]
    intro c hc
    simp only [Cart.isOf, Bool.and_eq_true, beq_iff_eq] at hc
    simp [Cart.counts, hc.2.2]
  · change db'.bills.rows.map _ = _
    rw [horder, hframe]
    rfl

/-- The products an `update_all` is about. -/
def picks (productId : Option Id) (p : Id) : Bool :=
  match productId with
  | none => true
  | some q => p == q

/-- What a row counts as once the picked ones are deactivated. -/
theorem Cart.isOf_deactivate (u v p : Id) (productId : Option Id) (c : Cart) :
    (if c.picked u productId then c.deactivate else c).isOf v p .active =
      (c.isOf v p .active && !(v == u && picks productId p)) ∧
    (if c.picked u productId then c.deactivate else c).isOf v p .inactive =
      (c.isOf v p .inactive || (c.isOf v p .active && (v == u && picks productId p))) := by
  by_cases hrow : c.productId = p ∧ c.userId = v
  · obtain ⟨rfl, rfl⟩ := hrow
    by_cases hpicked : c.picked u productId = true
    · rw [if_pos hpicked]
      have hpicks : (c.userId == u && picks productId c.productId) = true := by
        cases productId with
        | none => simpa [Cart.picked, picks] using hpicked
        | some q =>
          simp only [Cart.picked, Bool.and_eq_true] at hpicked
          simp only [picks, Bool.and_eq_true]
          exact ⟨hpicked.1.1, hpicked.2⟩
      rw [hpicks]
      cases hs : c.status <;> simp [Cart.isOf, Cart.deactivate, hs]
    · rw [if_neg hpicked]
      cases hs : c.status with
      | inactive => simp [Cart.isOf, hs]
      | active =>
        have hpicks : (c.userId == u && picks productId c.productId) = false := by
          rw [← Bool.not_eq_true]
          intro h
          apply hpicked
          cases productId with
          | none => simpa [Cart.picked, picks] using h
          | some q => simpa [Cart.picked, picks, hs] using h
        rw [hpicks]
        simp [Cart.isOf, hs]
  · -- another row stays another row
    have hother : ∀ status, ∀ x : Cart, x.productId = c.productId → x.userId = c.userId →
        x.isOf v p status = false := by
      intro status x hproduct huser
      rw [← Bool.not_eq_true]
      intro h
      simp only [Cart.isOf, Bool.and_eq_true, beq_iff_eq] at h
      exact hrow ⟨hproduct ▸ h.1, huser ▸ h.2.1⟩
    rw [hother .active c rfl rfl, hother .inactive c rfl rfl]
    split
    · simp [hother _ c.deactivate rfl rfl]
    · simp [hother _ c rfl rfl]

/-- Deactivated rows go from the bag to the past. -/
theorem Db.count_deactivated (db : Db) (u : Id) (productId : Option Id) (v p : Id) :
    let db' := { db with
      carts := db.carts.modify (·.picked u productId) Cart.deactivate Cart.deactivate_id }
    (db'.unitsOf .active v).count p =
      (if (v == u && picks productId p) = true then 0 else (db.unitsOf .active v).count p) ∧
    (db'.unitsOf .inactive v).count p = (db.unitsOf .inactive v).count p +
      (if (v == u && picks productId p) = true then (db.unitsOf .active v).count p else 0) := by
  intro db'
  have hactive : ∀ c, _ := fun c => (Cart.isOf_deactivate u v p productId c).1
  have hinactive : ∀ c, _ := fun c => (Cart.isOf_deactivate u v p productId c).2
  simp only [Db.count_unitsOf, db', Table.rows_modify, List.countP_map, Function.comp_def, hactive,
    hinactive]
  cases v == u && picks productId p with
  | false => simp
  | true =>
    refine ⟨by simp, ?_⟩
    rw [if_pos rfl, List.countP_eq_countP_filter_add _ _ (fun c : Cart => c.status == .inactive),
      List.countP_filter, List.countP_filter]
    congr 1
    · refine List.countP_congr fun c _ => ?_
      cases hs : c.status <;> simp [Cart.isOf, hs]
    · refine List.countP_congr fun c _ => ?_
      cases hs : c.status <;> simp [Cart.isOf, hs]

/-- `CartsController#destroy`. -/
theorem Db.shop_putAside (db : Db) (u p : Id) :
    ({ db with carts := db.carts.modify (·.picked u (some p)) Cart.deactivate
                          Cart.deactivate_id } : Db).shop = db.shop.apply (.putAside u p) := by
  apply Shop.ext
  · rfl
  · funext v
    ext i
    refine (db.count_deactivated u (some p) v i).1.trans ?_
    by_cases hv : v = u
    · subst hv
      by_cases hi : i = p <;> simp [Shop.apply, Db.shop, picks, hi]
    · simp [Shop.apply, Db.shop, hv]
  · funext v
    ext i
    refine (db.count_deactivated u (some p) v i).2.trans ?_
    by_cases hv : v = u
    · subst hv
      by_cases hi : i = p <;> simp [Shop.apply, Db.shop, picks, hi]
    · simp [Shop.apply, Db.shop, hv]
  · rfl

/-- A new bill with its lines is a new order; the lines of the others are
none of its own. -/
theorem Db.orders_insertBill {db db' : Db} (hknown : db.LinesKnown) {b : Bill}
    {ls : List BillProduct} (hbills : db'.bills = db.bills.insert b)
    (hlines : db'.billProducts = db.billProducts.insertAll ls)
    (hls : ∀ l ∈ ls, l.billId = db.bills.next) :
    db'.shop.orders = db.shop.orders ++
      [(Row.withId db.bills.next b).order (ls.map BillProduct.units).sum] := by
  have hitems : ∀ i, db'.itemsOn i = db.itemsOn i +
      sumWhere BillProduct.units (·.billId == i) ls := by
    intro i
    rw [Db.itemsOn, hlines, sumWhere_insertAll _ (fun _ _ => rfl) (fun _ _ => rfl)]
    rfl
  have hold : ∀ b₀ ∈ db.bills.rows, db'.orderOf b₀ = db.orderOf b₀ := by
    intro b₀ hb₀
    have hne : ∀ l ∈ ls, (l.billId == b₀.id) = false := by
      intro l hl
      rw [hls l hl, beq_eq_false_iff_ne]
      exact Nat.ne_of_gt (db.bills.fresh b₀ hb₀)
    simp only [Db.orderOf, hitems, sumWhere_eq_zero _ hne, add_zero]
  have hnew : db'.itemsOn db.bills.next = (ls.map BillProduct.units).sum := by
    have hnone : ∀ l ∈ db.billProducts.rows, (l.billId == db.bills.next) = false := by
      intro l hl
      rw [beq_eq_false_iff_ne]
      exact Nat.ne_of_lt (hknown l hl)
    have hall : ls.filter (·.billId == db.bills.next) = ls := by
      rw [List.filter_eq_self]
      intro l hl
      rw [hls l hl, beq_self_eq_true]
    rw [hitems, Db.itemsOn, sumWhere_eq_zero _ hnone, zero_add, sumWhere, hall]
  change db'.bills.rows.map db'.orderOf = _
  rw [hbills, Table.rows_insert, List.map_append, List.map_congr_left hold, List.map_singleton,
    ← hnew]
  rfl

/-- The gateway's callback. -/
theorem Db.shop_settle (db : Db) (i : Id) (data : BillNotice) :
    ({ db with
      bills := db.bills.modify (·.id == i) (·.settle data) (·.settle_id data) } : Db).shop =
      db.shop.apply (.pay i) := by
  apply Shop.ext
  · rfl
  · rfl
  · rfl
  · simp only [Db.shop, Shop.apply, Table.rows_modify, List.map_map]
    refine List.map_congr_left fun b _ => ?_
    by_cases hb : b.id = i
    · simp [Db.orderOf, Bill.order, Db.itemsOn, Bill.settle, BillStatus.payment, hb]
    · simp [Db.orderOf, Bill.order, Db.itemsOn, hb]

/-- `BillsController#update`. -/
theorem Db.shop_ship (db : Db) (i : Id) :
    ({ db with bills := db.bills.modify (·.id == i) Bill.ship Bill.ship_id } : Db).shop =
      db.shop.apply (.ship i) := by
  apply Shop.ext
  · rfl
  · rfl
  · rfl
  · simp only [Db.shop, Shop.apply, Table.rows_modify, List.map_map]
    refine List.map_congr_left fun b _ => ?_
    by_cases hb : b.id = i
    · simp [Db.orderOf, Bill.order, Db.itemsOn, Bill.ship, hb]
    · simp [Db.orderOf, Bill.order, Db.itemsOn, hb]

/-- A product is stored under a key: a new one, or one that had another
product. -/
theorem Db.shop_setOffer {db : Db} {t : Table Product} {i : Id} {p : Product}
    (hfind : ∀ j, t.find? j = if j = i then some p else db.products.find? j) :
    ({ db with products := t } : Db).shop = db.shop.apply (.setOffer i p.offer) := by
  apply Shop.ext
  · funext j
    change (t.find? j).map Product.offer = _
    rw [hfind]
    by_cases hj : j = i
    · simp [Shop.apply, hj]
    · simp [Shop.apply, Db.shop, hj]
  · rfl
  · rfl
  · rfl

theorem count_filter_unitsOf (rows : List Cart) (status : CartStatus) (u p i : Id) :
    (rows.filter fun c => !(c.productId == i)).countP (Cart.isOf u p status) =
      if p ≠ i then rows.countP (Cart.isOf u p status) else 0 := by
  rw [List.countP_filter]
  by_cases hp : p = i
  · rw [if_neg (not_not.mpr hp), List.countP_eq_zero]
    intro c _ hc
    simp only [Cart.isOf, Bool.and_eq_true, beq_iff_eq, Bool.not_eq_true', beq_eq_false_iff_ne]
      at hc
    exact hc.2 (hc.1.1.trans hp)
  · rw [if_pos hp]
    refine List.countP_congr fun c _ => ?_
    simp only [Cart.isOf, Bool.and_eq_true, beq_iff_eq, Bool.not_eq_true', beq_eq_false_iff_ne,
      and_iff_left_iff_imp]
    rintro ⟨rfl, -⟩
    exact hp

/-- The lines of a product are struck off the orders. -/
theorem filter_sumWhere_units (p : BillProduct → Bool) (i : Id) (ls : List BillProduct) :
    sumWhere BillProduct.units p (ls.filter fun l => !(l.productId == i)) =
      (sumWhere BillProduct.units p ls).filter (· ≠ i) := by
  induction ls with
  | nil => simp
  | cons l ls ih =>
    have hunits : (l.units).filter (· ≠ i) = if l.productId = i then 0 else l.units := by
      split
      · next h => simp [BillProduct.units, Multiset.filter_eq_nil, Multiset.mem_replicate, h]
      · next h =>
        rw [Multiset.filter_eq_self]
        intro a ha
        rw [Multiset.eq_of_mem_replicate ha]
        exact h
    rw [sumWhere_cons, Multiset.filter_add, ← ih]
    by_cases hl : l.productId = i
    · rw [List.filter_cons_of_neg (by simp [hl])]
      split
      · rw [hunits, if_pos hl, zero_add]
      · simp
    · rw [List.filter_cons_of_pos (by simp [hl]), sumWhere_cons]
      split
      · rw [hunits, if_neg hl]
      · simp

/-- `ProductsController#destroy`. -/
theorem Db.shop_destroyProduct (db : Db) (i : Id) :
    (db.destroyProduct i).shop = db.shop.apply (.discontinue i) := by
  have hunits : ∀ status u, (db.destroyProduct i).unitsOf status u =
      (db.unitsOf status u).filter (· ≠ i) := by
    intro status u
    ext p
    rw [Multiset.count_filter, Db.count_unitsOf, Db.count_unitsOf]
    exact count_filter_unitsOf _ status u p i
  apply Shop.ext
  · funext j
    have hfind := db.products.find?_delete_id i j
    change ((db.products.delete (·.id == i)).find? j).map Product.offer = _
    rw [show (db.products.delete (·.id == i)).find? j = _ from hfind]
    by_cases hj : j = i
    · simp [Shop.apply, hj]
    · simp [Shop.apply, Db.shop, hj]
  · funext u
    exact hunits .active u
  · funext u
    exact hunits .inactive u
  · simp only [Db.shop, Shop.apply, List.map_map]
    refine List.map_congr_left fun b _ => ?_
    have hitems : (db.destroyProduct i).itemsOn b.id = (db.itemsOn b.id).filter (· ≠ i) :=
      filter_sumWhere_units _ i _
    simp only [Db.orderOf, Bill.order, hitems, Function.comp_apply]

/-- An account that is deleted takes bag, past and orders along. -/
theorem Db.shop_destroyUser {db db' : Db} {i : Id} (h : db.destroyUser i = .ok db') :
    db'.shop = db.shop.apply (.leave i) := by
  obtain ⟨chat, -, rfl⟩ := Db.destroyUser_ok h
  have hunits : ∀ status u, (db.carts.delete (·.userId == i)).rows.filter
      (fun c => c.userId == u && c.status == status) = if u = i then []
        else db.carts.rows.filter (fun c => c.userId == u && c.status == status) := by
    intro status u
    rw [Table.rows_delete, List.filter_filter]
    split
    · next hu =>
      rw [List.filter_eq_nil_iff]
      intro c _
      simp +contextual [hu]
    · next hu =>
      refine List.filter_congr fun c _ => ?_
      by_cases hc : c.userId = u
      · simp [hc, hu]
      · simp [hc]
  have hbag : ∀ status u, (((db.carts.delete (·.userId == i)).rows.filter
      (fun c => c.userId == u && c.status == status)).map (·.productId) : Multiset Id) =
      Function.update (db.unitsOf status) i 0 u := by
    intro status u
    rw [hunits]
    by_cases hu : u = i
    · simp [hu]
    · rw [if_neg hu, Function.update_of_ne hu]
      rfl
  -- the lines that go are those of the bills that go
  have hlines : ∀ b ∈ db.bills.rows, b.userId ≠ i →
      sumWhere BillProduct.units (·.billId == b.id)
        (db.billProducts.delete (db.lineOfUser i)).rows = db.itemsOn b.id := by
    intro b hb hi
    rw [Table.rows_delete, sumWhere_filter]
    refine sumWhere_congr _ fun l _ => ?_
    by_cases hl : l.billId = b.id
    · have hfind : db.bills.find? b.id = some b := db.bills.find?_of_mem hb
      simp [Db.lineOfUser, hl, hfind, hi]
    · simp [hl]
  apply Shop.ext
  · rfl
  · funext u
    exact hbag .active u
  · funext u
    exact hbag .inactive u
  · simp only [Db.shop, Shop.apply, Table.rows_delete, List.filter_map]
    have hfilter : db.bills.rows.filter ((fun o => decide (o.customer ≠ i)) ∘ db.orderOf) =
        db.bills.rows.filter (fun b => !(b.userId == i)) := by
      refine List.filter_congr fun b _ => ?_
      by_cases hb : b.userId = i <;> simp [Db.orderOf, Bill.order, hb]
    rw [hfilter]
    refine List.map_congr_left fun b hb => ?_
    obtain ⟨hmem, hi⟩ := List.mem_filter.mp hb
    have hitems := hlines b hmem (by simpa using hi)
    simp only [Db.orderOf, Db.itemsOn] at hitems ⊢
    rw [hitems]

/-! ## §3 The checkouts -/

/-- The database takes every line of the cart. -/
def Db.linesFit (db : Db) (u : Id) : Bool :=
  (db.cartLines u db.bills.next).all fun l => fitsDecimal l.totalAmount

/-- What a checkout leaves that has stored its bill: the lines up to the
first out of range, and an empty cart if there is none. -/
def Db.checkedOut (db : Db) (u : Id) (b : Bill) : Db :=
  { db with
    bills := db.bills.insert b
    billProducts := db.billProducts.insertAll (db.takenLines u)
    carts := if db.linesFit u then (db.deactivated u).carts else db.carts }

theorem finishCheckout_eval [Env] {α : Type} {u : Id} {ls : List BillProduct} {db : Db} (a : α)
    (h : ∀ l ∈ ls, (db.bills.find? l.billId).isSome = true ∧
      (db.products.find? l.productId).isSome = true) :
    (eval (finishCheckout u ls a) db).2 = { db with
      billProducts := db.billProducts.insertAll (ls.takeWhile fun l => fitsDecimal l.totalAmount)
      carts := if ls.all (fun l => fitsDecimal l.totalAmount) then (db.deactivated u).carts
        else db.carts } := by
  induction ls generalizing db with
  | nil => rfl
  | cons l ls ih =>
    obtain ⟨hbill, hprod⟩ := h l List.mem_cons_self
    have hexec := exec_insertBillProduct hbill hprod
    rw [finishCheckout_cons, List.takeWhile_cons, List.all_cons]
    cases hfit : fitsDecimal l.totalAmount with
    | true =>
      rw [if_pos hfit] at hexec
      rw [eval, Prog.run_stmt_ok exec hexec]
      exact ih fun l' hl' => h l' (List.mem_cons_of_mem _ hl')
    | false =>
      rw [if_neg (Bool.eq_false_iff.mp hfit)] at hexec
      rw [eval, Prog.run_stmt_error exec hexec]
      rfl

/-- What is left of either checkout after its bill. -/
theorem Db.finish_checkedOut [Env] {α : Type} (db : Db) (u : Id) (b : Bill) (a : α) :
    (eval (finishCheckout u (db.cartLines u db.bills.next) a)
      { db with bills := db.bills.insert b }).2 = db.checkedOut u b :=
  finishCheckout_eval a (db.cartLines_stored u b)

section Checkouts

open Momo.GetPaymentUrlService (accept momoBill)

theorem accept_checkedOut [Env] {db : Db} {u : User} (huser : (db.users.find? u.id).isSome = true)
    (hpriced : db.CartPriced u.id) (hfit : fitsDecimal (db.cartValue u.id) = true)
    (c : MomoCheckout) (htexts : (momoBill u (db.cartValue u.id) c).fits = true) :
    (eval (accept u (db.cartValue u.id) c (db.groupedCount u.id) (db.cartProducts u.id)) db).2 =
      db.checkedOut u.id (momoBill u (db.cartValue u.id) c) := by
  unfold accept
  rw [eval_createBill_bind huser hfit htexts, hpriced.each_addLine]
  exact db.finish_checkedOut u.id _ ()

theorem cash_checkedOut [Env] {db : Db} {u : User} (huser : (db.users.find? u.id).isSome = true)
    (hpriced : db.CartPriced u.id) (hfit : fitsDecimal (db.cartValue u.id) = true)
    (randomToken : String) :
    (eval (CartsController.cash u randomToken) db).2 =
      db.checkedOut u.id (CartsController.cashBill u randomToken (db.cartValue u.id)) := by
  unfold CartsController.cash
  have heach := hpriced.each_addLine db.bills.next
  have htexts := cashBill_fits u randomToken (db.cartValue u.id)
  unfold Db.cartProducts at heach
  rw [eval_bind_ok (eval_total hpriced), eval_select_bind,
    eval_createBill_bind huser hfit htexts, eval_select_bind,
    show ({ db with bills := db.bills.insert _ } : Db).productsIn = db.productsIn from rfl, heach]
  exact db.finish_checkedOut u.id _ _

variable [Env]

theorem checkoutMomo_checkedOut {db : Db} {u : User} (huser : (db.users.find? u.id).isSome = true)
    (hpriced : db.CartPriced u.id) (hfit : fitsDecimal (db.cartValue u.id) = true)
    {c : MomoCheckout} {b : Bill} (hnew : (CartsRoute.checkoutMomo c).newBill db u = some b)
    (htexts : b.fits = true) : (eval (CartsController.checkoutMomo u c) db).2 = db.checkedOut u.id b
    := by
  rw [checkoutMomo_eval hpriced]
  simp only [CartsRoute.newBill] at hnew
  split at hnew
  · cases hnew
  · next resultCode payUrl hanswer =>
    split at hnew
    · next hcode =>
      cases hnew
      rw [hanswer, Db.afterGateway, if_pos hcode, ← accept_checkedOut huser hpriced hfit c htexts]
      -- the redirect writes nothing, whether there is a `payUrl` or not
      cases haccept : eval (accept u (db.cartValue u.id) c (db.groupedCount u.id)
          (db.cartProducts u.id)) db with
      | mk result db' =>
        cases result with
        | error e => rw [eval_bind_error haccept]
        | ok _ => rw [eval_bind_ok haccept]; cases payUrl <;> rfl
    · cases hnew

/-- A checkout changes nothing, or stores the bill of a priced cart whose
amount fits and does what `Db.checkedOut` says. -/
theorem checkout_eval {db : Db} {u : User} (huser : (db.users.find? u.id).isSome = true)
    {c : CartsRoute} (hc : c.isCheckout = true) :
    (eval (c.action u) db).2 = db ∨ ∃ b, c.newBill db u = some b ∧ db.CartPriced u.id ∧
      fitsDecimal (db.cartValue u.id) = true ∧
      (eval (c.action u) db).2 = db.checkedOut u.id b := by
  rcases checkout_cases huser hc with ⟨-, hsame⟩ | ⟨b, hstored, hpriced, hnew, -⟩
  · exact .inl hsame
  · obtain ⟨-, hfit, htexts⟩ := Db.storable_iff.mp (Option.filter_eq_some_iff.mp hstored).2
    refine .inr ⟨b, hnew, hpriced, hfit, ?_⟩
    cases c with
    | cash randomToken =>
      cases hnew
      exact cash_checkedOut huser hpriced hfit randomToken
    | checkoutMomo m => exact checkoutMomo_checkedOut huser hpriced hfit hnew htexts
    | _ => cases hc

end Checkouts

/-- The lines of a priced cart hold the bag. -/
theorem Db.CartPriced.units_bag {db : Db} {u : Id} (h : db.CartPriced u) (billId : Id) :
    ((db.cartLines u billId).map BillProduct.units).sum = db.unitsOf .active u := by
  have hunits : (db.cartLines u billId).map BillProduct.units =
      ((db.cartProducts u).map Product.id).map
        (fun i => Multiset.replicate ((db.cartIds u).count i) i) := by
    rw [Db.cartLines, List.map_map, List.map_map]
    rfl
  rw [hunits, (h.perm.map _).sum_eq, sum_group_replicate]
  rfl

theorem Db.takenLines_of_linesFit {db : Db} {u : Id} (h : db.linesFit u = true) :
    db.takenLines u = db.cartLines u db.bills.next :=
  List.takeWhile_eq_self_iff.mpr (List.all_eq_true.mp h)

/-- What is taken of the bag. -/
theorem Db.CartPriced.units_taken_le {db : Db} {u : Id} (h : db.CartPriced u) :
    ((db.takenLines u).map BillProduct.units).sum ≤ db.unitsOf .active u := by
  rw [← h.units_bag db.bills.next, ← List.takeWhile_append_dropWhile
    (p := fun l => fitsDecimal l.totalAmount) (l := db.cartLines u db.bills.next), List.map_append,
    List.sum_append]
  exact Multiset.le_add_right _ _

/-- Of amounts that are not negative none is larger than their sum, so a
line can be out of range in a bill that is not only with a negative
price. -/
theorem Db.CartPriced.negative_of_not_linesFit {db : Db} {u : Id} (h : db.CartPriced u)
    (hfit : fitsDecimal (db.cartValue u) = true) (hlines : db.linesFit u = false) :
    ∃ i ∈ db.cartIds u, db.priceOf i < 0 := by
  by_contra hnone
  have hprice : ∀ i ∈ db.cartIds u, 0 ≤ db.priceOf i := by
    intro i hi
    by_contra hneg
    exact hnone ⟨i, hi, Int.not_le.mp hneg⟩
  have hnonneg : ∀ l ∈ db.cartLines u db.bills.next, 0 ≤ l.totalAmount := by
    intro l hl
    obtain ⟨p, hp, rfl⟩ := List.mem_map.mp hl
    exact Int.mul_nonneg (hprice p.id (Db.mem_cartProducts.mp hp).2) (Int.natCast_nonneg _)
  rw [← Bool.not_eq_true] at hlines
  apply hlines
  rw [Db.linesFit, List.all_eq_true]
  intro l hl
  have hle : l.totalAmount ≤ db.cartValue u := by
    rw [← h.sum_cartLines db.bills.next]
    refine List.single_le_sum ?_ _ (List.mem_map_of_mem hl)
    intro x hx
    obtain ⟨l', hl', rfl⟩ := List.mem_map.mp hx
    exact hnonneg l' hl'
  have hzero := hnonneg l hl
  simp only [fitsDecimal, Bool.and_eq_true, decide_eq_true_eq] at hfit ⊢
  omega

/-- A checkout that went through is an order of the bag; one that broke
off is on the books, over a negative price. -/
theorem Db.shop_checkedOut {db : Db} (hknown : db.LinesKnown) {u : Id} (hpriced : db.CartPriced u)
    (hfit : fitsDecimal (db.cartValue u) = true) {b : Bill} (huser : b.userId = u)
    (hamount : b.amount = db.cartValue u) (hstatus : b.status ≠ .paid) (hship : b.isShipped = false)
    {c : Caller Id} (hc : c.user = some u) :
    ∃ e, Shop.may c db.shop e ∧ (db.checkedOut u b).shop = db.shop.apply e := by
  have hprice : ∀ i, db.shop.price i = (db.products.find? i).bind (·.price) := by
    intro i
    simp only [Shop.price, Db.shop, Option.bind_map]
    rfl
  have hvalue : db.shop.value u = db.cartValue u := by
    simp only [Shop.value, hprice]
    rfl
  have hmay : db.shop.MayOrder u db.bills.next b.status.payment := by
    refine ⟨?_, ?_, ?_⟩
    · intro o ho
      obtain ⟨b₀, hb₀, rfl⟩ := List.mem_map.mp ho
      exact Nat.ne_of_lt (db.bills.fresh b₀ hb₀)
    · intro i hi
      rw [hprice]
      exact Db.cartPriced_iff.mp hpriced i hi
    · cases hs : b.status <;> simp_all [BillStatus.payment]
  have horders : (db.checkedOut u b).shop.orders = _ := Db.orders_insertBill hknown rfl rfl
    (fun l hl => Db.billId_of_mem_takenLines hl)
  have horder : ∀ items, (Row.withId db.bills.next b).order items =
      db.shop.newOrder u db.bills.next b.status.payment items := by
    intro items
    rw [Shop.newOrder, hvalue, ← hamount, ← huser, ← hship]
    rfl
  rw [horder] at horders
  cases hlines : db.linesFit u with
  | true =>
    refine ⟨.order u db.bills.next b.status.payment, ⟨hc, hmay⟩, ?_⟩
    have hcarts : (db.checkedOut u b).carts = (db.deactivated u).carts := by
      rw [Db.checkedOut, if_pos hlines]
    have hunits : ∀ status v, (db.checkedOut u b).unitsOf status v =
        (db.deactivated u).unitsOf status v := by
      intro status v
      rw [Db.unitsOf, hcarts]
      rfl
    rw [Db.takenLines_of_linesFit hlines, hpriced.units_bag] at horders
    apply Shop.ext
    · rfl
    · funext v
      ext i
      refine (congrArg (Multiset.count i) (hunits .active v)).trans
        ((db.count_deactivated u none v i).1.trans ?_)
      by_cases hv : v = u
      · simp [Shop.apply, picks, hv]
      · simp [Shop.apply, Db.shop, hv]
    · funext v
      ext i
      refine (congrArg (Multiset.count i) (hunits .inactive v)).trans
        ((db.count_deactivated u none v i).2.trans ?_)
      by_cases hv : v = u
      · simp [Shop.apply, Db.shop, picks, hv]
      · simp [Shop.apply, Db.shop, hv]
    · exact horders
  | false =>
    obtain ⟨i, hi, hneg⟩ := hpriced.negative_of_not_linesFit hfit hlines
    obtain ⟨p, n, hp, hn⟩ := hpriced i hi
    have hi' : n < 0 := by
      simpa [Db.priceOf, hp, hn] using hneg
    refine ⟨.breakOff u db.bills.next b.status.payment _,
      ⟨hc, hmay, hpriced.units_taken_le, i, hi, n, ?_, hi'⟩, ?_⟩
    · rw [hprice, hp, Option.mem_def, Option.bind_some, hn]
    · have hcarts : (db.checkedOut u b).carts = db.carts := by
        rw [Db.checkedOut, if_neg (Bool.eq_false_iff.mp hlines)]
      apply Shop.ext
      · rfl
      · funext v
        simp only [Db.shop, Db.unitsOf, hcarts, Shop.apply]
      · funext v
        simp only [Db.shop, Db.unitsOf, hcarts, Shop.apply]
      · exact horders

/-! ## §4 The requests -/

def User.caller (u : User) : Caller Id :=
  if u.isAdmin then .manager u.id else if u.isStaff then .clerk u.id else .customer u.id

theorem User.caller_user (u : User) : u.caller.user = some u.id := by
  unfold User.caller
  split
  · rfl
  · split <;> rfl

/-- Who may manage bills or products works in the shop. -/
theorem User.caller_isStaff {u : User} (h : u.isCustomer = false) : u.caller.isStaff = true := by
  unfold User.caller
  split
  · rfl
  · split
    · rfl
    · simp_all [User.isCustomer]

theorem User.caller_isManager {u : User} (h : u.isAdmin = true) : u.caller.isManager = true := by
  rw [User.caller, if_pos h]
  rfl

theorem User.caller_isStaff_of_can {u : User} {s : Subject} (hs : s = .bill ∨ s = .product)
    (h : Ability.can u s = true) : u.caller.isStaff = true := by
  apply User.caller_isStaff
  by_contra hcustomer
  obtain ⟨hbill, hproduct⟩ := Ability.can_bill_or_product (Bool.eq_true_of_not_eq_false hcustomer)
  rcases hs with rfl | rfl
  · rw [hbill] at h; cases h
  · rw [hproduct] at h; cases h

theorem User.caller_isManager_of_can {u : User} (h : Ability.can u .user = true) :
    u.caller.isManager = true := by
  apply User.caller_isManager
  by_contra hadmin
  rw [(Ability.can_room_or_user (Bool.eq_false_of_not_eq_true hadmin)).2] at h
  cases h

/-- Who sends a request. -/
def Request.caller (db : Db) : Request → Caller Id
  | user session _ =>
      match session.bind db.users.find? with
      | some u => u.caller
      | none => .visitor
  | «open» _ => .visitor

/-- What one request does to the shop: an event its sender may cause. -/
def Matched (c : Caller Id) (db db' : Db) : Prop :=
  ∃ e, Shop.may c db.shop e ∧ db'.shop = db.shop.apply e

theorem Matched.refl (c : Caller Id) (db : Db) : Matched c db db := ⟨.idle, trivial, rfl⟩

theorem Matched.of_shop_eq {c : Caller Id} {db db' : Db} (h : db'.shop = db.shop) :
    Matched c db db' := ⟨.idle, trivial, h⟩

/-! One rule for each way a controller goes on. -/

section Rules

variable {α β : Type} {c : Caller Id} {db : Db}

theorem Matched.authorize [Env] {u : User} {s : Subject} {f : Unit → Action α}
    (h : Ability.can u s = true → Matched c db (eval (f ()) db).2) :
    Matched c db (eval (Action.authorize u s >>= f) db).2 := by
  cases hcan : Ability.can u s with
  | true => simpa [Action.authorize, hcan] using h hcan
  | false => simpa [Action.authorize, hcan] using Matched.refl c db

theorem Matched.orRaise [Env] {x : Option β} {e : Failure} {f : β → Action α}
    (h : ∀ b, x = some b → Matched c db (eval (f b) db).2) :
    Matched c db (eval (Prog.orRaise x e >>= f) db).2 := by
  cases x with
  | none => exact .refl c db
  | some b => exact h b rfl

theorem Matched.ofExcept [Env] {x : Except Failure β} {f : β → Action α}
    (h : ∀ b, x = .ok b → Matched c db (eval (f b) db).2) :
    Matched c db (eval (Prog.ofExcept x >>= f) db).2 := by
  cases x with
  | error e => exact .refl c db
  | ok b => exact h b rfl

/-- The last statement of an action, whatever is answered after it. -/
theorem Matched.perform [Env] {w : Stmt} {f : Unit → Action α}
    (hf : ∀ db', (eval (f ()) db').2 = db') (h : ∀ db', exec w db = .ok db' → Matched c db db') :
    Matched c db (eval (Prog.perform w >>= f) db).2 := by
  cases hexec : exec w db with
  | ok db' =>
    rw [eval_perform_ok hexec, hf]
    exact h db' hexec
  | error e =>
    rw [eval_perform_error hexec]
    exact .refl c db

end Rules

/-- A statement about none of the shop's tables. -/
def Stmt.SparesBooks (w : Stmt) : Prop :=
  w.writes .products = false ∧ w.writes .carts = false ∧ w.writes .bills = false ∧
    w.writes .billProducts = false

theorem Stmt.Reads.sparesBooks {w : Stmt} (hw : w.Reads) : w.SparesBooks := by
  have hnone : ∀ table, w.writes table = false := by
    intro table
    rw [Stmt.writes, hw]
    rfl
  exact ⟨hnone _, hnone _, hnone _, hnone _⟩

theorem exec_shop_eq [Env] {w : Stmt} (hw : w.SparesBooks) {db db' : Db} (h : exec w db = .ok db') :
    db'.shop = db.shop :=
  Db.shop_congr (exec_frame h hw.1) (exec_frame h hw.2.1) (exec_frame h hw.2.2.1)
    (exec_frame h hw.2.2.2)

theorem eval_shop_eq [Env] {α : Type} {p : Action α} (hp : p.Only Stmt.SparesBooks) (db : Db) :
    (p.eval db).2.shop = db.shop :=
  Action.eval_inv (fun x => x.shop = db.shop)
    (fun _ _ _ hw hexec hx => (exec_shop_eq hw hexec).trans hx) hp rfl

open CartsController in
theorem CartsController.create_matched [Env] {db : Db} {u : User}
    (hu : db.users.find? u.id = some u)
    (p : Option CartParams) : Matched u.caller db ((create u p).eval db).2 := by
  unfold create
  obtain ⟨e, herr | ⟨product, hfind, hok⟩⟩ := setProduct_eval db p
  · rw [eval_bind_error herr]
    exact .refl _ db
  · rw [eval_bind_ok hok, eval_select_bind]
    cases hq : product.quantity with
    | none => exact .refl _ db
    | some q =>
      simp only [Prog.orRaise_some, Prog.ret_bind]
      split
      · exact .refl _ db
      · next hlt =>
        obtain ⟨db', hexec, hsets⟩ := insertCart_sets (Option.isSome_of_eq_some hu)
          (Option.isSome_of_eq_some hfind)
        rw [eval_perform_ok hexec]
        refine ⟨.hold u.id product.id (db.held u.id product.id + 1), ⟨u.caller_user, ?_⟩,
          Db.shop_setsRows hsets⟩
        intro _
        refine ⟨product.offer, ?_, q, hq, ?_⟩
        · simp [Db.shop, hfind]
        · unfold Db.held
          omega

open CartsController in
theorem CartsController.updateQuantity_matched [Env] {db : Db} {u : User}
    (hu : db.users.find? u.id = some u) (p : Option CartParams) (quantity : Option String) :
    Matched u.caller db ((updateQuantity u p quantity).eval db).2 := by
  by_cases hallows : ∃ product q, db.AllowsQuantity p quantity product q
  · obtain ⟨product, q, hallows⟩ := hallows
    obtain ⟨db', hsets, -, heval⟩ := updateQuantity_sets (Option.isSome_of_eq_some hu) hallows
    have hlast : ((updateQuantity u p quantity).eval db).2 = db' := by
      rw [heval]
      split
      · rw [reportQuantity_eval]
      · rfl
    rw [hlast]
    refine ⟨.hold u.id product.id q.toNat, ⟨u.caller_user, ?_⟩, Db.shop_setsRows hsets⟩
    intro hpos
    obtain ⟨stock, hstock, hle⟩ := hallows.inStock
    refine ⟨product.offer, ?_, stock, hstock, by omega⟩
    simp [Db.shop, hallows.find?_self]
  · rw [updateQuantity_refused fun product q h => hallows ⟨product, q, h⟩]
    exact .refl _ db

section Deployment

variable [Env]

/-- A new bill is the sender's, not paid yet and not shipped. -/
theorem CartsRoute.newBill_spec {db : Db} {u : User} {r : CartsRoute} {b : Bill}
    (h : r.newBill db u = some b) :
    b.userId = u.id ∧ b.status ≠ .paid ∧ b.isShipped = false := by
  cases r with
  | cash randomToken => cases h; exact ⟨rfl, (fun h => by cases h), rfl⟩
  | checkoutMomo c =>
    simp only [newBill] at h
    split at h
    · cases h
    · split at h
      · cases h; exact ⟨rfl, (fun h => by cases h), rfl⟩
      · cases h
  | _ => cases h

theorem CartsRoute.matched {db : Db} (hknown : db.LinesKnown) {u : User}
    (hu : db.users.find? u.id = some u) (c : CartsRoute) :
    Matched u.caller db (eval (c.action u) db).2 := by
  have hcheckout : c.isCheckout = true → Matched u.caller db (eval (c.action u) db).2 := by
    intro hc
    rcases checkout_eval (Option.isSome_of_eq_some hu) hc with
      hsame | ⟨b, hnew, hpriced, hfit, hleft⟩
    · rw [hsame]
      exact .refl _ db
    · obtain ⟨huser, hstatus, hship⟩ := CartsRoute.newBill_spec hnew
      rw [hleft]
      exact Db.shop_checkedOut hknown hpriced hfit huser (CartsRoute.amount_of_newBill hnew)
        hstatus hship u.caller_user
  cases c with
  | index => exact .of_shop_eq (eval_shop_eq (CartsController.index_only
      (fun _ => Stmt.Reads.sparesBooks rfl) u) db)
  | checkout => exact .of_shop_eq (eval_shop_eq (CartsController.checkout_only
      (fun _ => Stmt.Reads.sparesBooks rfl) u) db)
  | create p => exact CartsController.create_matched hu p
  | updateQuantity p quantity => exact CartsController.updateQuantity_matched hu p quantity
  | destroy p => exact ⟨.putAside u.id p, u.caller_user, db.shop_putAside u.id p⟩
  | cash randomToken => exact hcheckout rfl
  | checkoutMomo m => exact hcheckout rfl

end Deployment

theorem ProductsRoute.matched [Env] (db : Db) (u : User) (r : ProductsRoute) :
    Matched u.caller db (eval (r.action u) db).2 := by
  have hstaff : Ability.can u .product = true → u.caller.isStaff = true :=
    User.caller_isStaff_of_can (.inr rfl)
  cases r with
  | index => exact .authorize fun _ => .refl _ db
  | new => exact .authorize fun _ => .refl _ db
  | «show» id => exact .authorize fun _ => .orRaise fun _ _ => .refl _ db
  | edit id => exact .authorize fun _ => .orRaise fun _ _ => .refl _ db
  | create p =>
    refine .authorize fun hcan => .ofExcept fun category _ =>
      .perform (fun _ => rfl) fun db' hexec => ?_
    obtain rfl := exec_insertProduct_ok hexec
    exact ⟨.setOffer db.products.next _, hstaff hcan, Db.shop_setOffer (db.products.find?_insert _)⟩
  | update id p =>
    refine .authorize fun hcan => .orRaise fun product hfind => .ofExcept fun category _ =>
      .perform (fun _ => rfl) fun db' hexec => ?_
    obtain rfl := exec_updateProduct_ok hexec
    refine ⟨.setOffer product.id (product.assign p category).offer, hstaff hcan,
      Db.shop_setOffer fun j => ?_⟩
    have hreplaced : (db.products.replace (product.assign p category)).find? j =
        if j = product.id then (db.products.find? j).map fun _ =>
          Row.withId j (product.assign p category)
        else db.products.find? j := db.products.find?_replace _ j
    by_cases hj : j = product.id
    · have hfound : db.products.find? product.id = some product := db.products.find?_self hfind
      rw [hreplaced, if_pos hj, if_pos hj, hj, hfound]
      rfl
    · rw [hreplaced, if_neg hj, if_neg hj]
  | destroy id format =>
    refine .authorize fun hcan => .orRaise fun product _ =>
      .perform (respondJs_eval_snd _ _) fun db' hexec => ?_
    cases hexec
    exact ⟨.discontinue product.id, hstaff hcan, db.shop_destroyProduct product.id⟩

theorem BillsRoute.matched [Env] (db : Db) (u : User) (r : BillsRoute) :
    Matched u.caller db (eval (r.action u) db).2 := by
  cases r with
  | index => exact .authorize fun _ => .refl _ db
  | «show» id => exact .authorize fun _ => .refl _ db
  | update id format =>
    refine .authorize fun hcan => .orRaise fun bill hfind => .orRaise fun _ _ =>
      .perform (respondJs_eval_snd _ _) fun db' hexec => ?_
    cases hexec
    refine ⟨.ship bill.id, ⟨User.caller_isStaff_of_can (.inl rfl) hcan, db.orderOf bill, ?_, rfl⟩,
      db.shop_ship bill.id⟩
    exact List.mem_map_of_mem (db.bills.mem_of_find? hfind)

/-- Deleting an account. -/
theorem Matched.destroyUser [Env] {c : Caller Id} {db db' : Db} {i : Id}
    (hc : c.user = some i ∨ c.isManager = true) (h : exec (.destroyUser i) db = .ok db') :
    Matched c db db' := ⟨.leave i, hc, Db.shop_destroyUser h⟩

/-- The routes that have nothing to do with the shop. -/
theorem Route.Issues.sparesBooks {u : User} {r : Route} {w : Stmt} (hw : r.Issues u w)
    (hcarts : ∀ c, r ≠ .carts c) (hproducts : ∀ p, r ≠ .products p) (hbills : ∀ b, r ≠ .bills b)
    (husers : ∀ x, r ≠ .users x) (hcancel : r ≠ .cancelAccount) : w.SparesBooks := by
  cases r with
  | carts c => exact absurd rfl (hcarts c)
  | products p => exact absurd rfl (hproducts p)
  | bills b => exact absurd rfl (hbills b)
  | users x => exact absurd rfl (husers x)
  | cancelAccount => exact absurd rfl hcancel
  | manageBookings mdate now => exact (Stmt.Asks.reads hw).sparesBooks
  | histories r => exact (Stmt.Asks.reads hw).sparesBooks
  | _ =>
    cases w <;> first
      | exact ⟨rfl, rfl, rfl, rfl⟩
      | exact (Stmt.Asks.reads hw).sparesBooks

theorem OpenRoute.Issues.sparesBooks {r : OpenRoute} {w : Stmt} (hw : r.Issues w)
    (hr : ∀ p, r ≠ .callback p) : w.SparesBooks := by
  cases r with
  | callback p => exact absurd rfl (hr p)
  | _ =>
    cases w <;> first
      | exact ⟨rfl, rfl, rfl, rfl⟩
      | exact (Stmt.Asks.reads hw).sparesBooks

section Deployment

variable [Env]

theorem UsersRoute.matched (db : Db) (u : User) (r : UsersRoute) :
    Matched u.caller db (eval (r.action u) db).2 := by
  have hreads : ∀ q, (Stmt.select q).SparesBooks := fun _ => Stmt.Reads.sparesBooks rfl
  cases r with
  | index => exact .authorize fun _ => .refl _ db
  | new => exact .authorize fun _ => .refl _ db
  | create emails role password =>
    exact .of_shop_eq (eval_shop_eq (UsersController.create_only u emails role password (hreads _)
      fun _ => ⟨fun _ => ⟨rfl, rfl, rfl, rfl⟩, fun _ _ => ⟨rfl, rfl, rfl, rfl⟩,
        fun _ => ⟨rfl, rfl, rfl, rfl⟩⟩) db)
  | «import» sheet password =>
    exact .of_shop_eq (eval_shop_eq (UsersController.import_only u sheet password (hreads _)
      fun _ => ⟨fun _ => ⟨rfl, rfl, rfl, rfl⟩, fun _ _ => ⟨rfl, rfl, rfl, rfl⟩⟩) db)
  | destroy id format =>
    refine .authorize fun hcan => .orRaise fun user _ =>
      .perform (respondJs_eval_snd _ _) fun db' hexec => ?_
    exact .destroyUser (.inr (User.caller_isManager_of_can hcan)) hexec

theorem Route.matched {db : Db} (hknown : db.LinesKnown) {u : User}
    (hu : db.users.find? u.id = some u) (r : Route) :
    Matched u.caller db ((r.action u).eval db).2 := by
  cases r with
  | carts c => exact c.matched hknown hu
  | products p => exact p.matched db u
  | bills b => exact b.matched db u
  | users x => exact x.matched db u
  | cancelAccount =>
    refine .perform (fun _ => rfl) fun db' hexec => ?_
    exact .destroyUser (.inl u.caller_user) hexec
  | _ =>
    refine .of_shop_eq (eval_shop_eq ((Route.action_only u _).mono fun w hw => ?_) db)
    exact hw.sparesBooks (by simp) (by simp) (by simp) (by simp) (by simp)

theorem OpenRoute.matched (db : Db) (r : OpenRoute) :
    Matched .visitor db (step db (.open r)) := by
  have hspares : (∀ p, r ≠ .callback p) → Matched .visitor db (step db (.open r)) := fun hr =>
    .of_shop_eq (eval_shop_eq (r.action_only.mono fun _ hw => hw.sparesBooks hr) db)
  cases r with
  | callback p =>
    cases hb : db.settledBill p with
    | none =>
      rw [step_callback_none hb]
      exact .refl _ db
    | some b =>
      rw [step_callback_some hb]
      refine ⟨.pay b.id, ⟨rfl, db.orderOf b, ?_, rfl⟩, db.shop_settle b.id p.data⟩
      have hfound : db.billOf p = some b := (Option.filter_eq_some_iff.mp hb).1
      exact List.mem_map_of_mem (List.mem_of_find?_eq_some hfound)
  | signUp email password confirmation => exact hspares (by simp)
  | confirm id email => exact hspares (by simp)
  | resetPassword id password confirmation => exact hspares (by simp)

/-- One request is one event, caused by who sends it. -/
theorem step_matched {db : Db} (hknown : db.LinesKnown) (r : Request) :
    Matched (r.caller db) db (step db r) := by
  cases r with
  | «open» route => exact route.matched db
  | user session route =>
    cases hs : session.bind db.users.find? with
    | none =>
      rw [step_unauthenticated hs]
      exact .refl _ db
    | some u =>
      obtain ⟨i, rfl, hu⟩ := Option.bind_eq_some_iff.mp hs
      rw [step_user hu, Request.caller, hs]
      exact route.matched hknown (db.users.find?_self hu)

/-! ## §5 The results -/

/-- The application implements the shop. -/
def shopSimulation : Simulation step (Shop.machine (U := Id) (P := Id) (K := Id)) where
  inv := Db.LinesKnown
  view := Db.shop
  actor db r := r.caller db
  keeps _ r h := step_linesKnown h r
  matched _ r h := step_matched h r

/-- **The application is the shop.** Whatever requests come, one at a time:
what they do to products, carts, bills and lines is a history of the
abstract shop, one event per request, each caused by who sent the request
and allowed to them at that moment. -/
theorem shop_refined (db : Db) (hknown : db.LinesKnown) (rs : List Request) :
    ∃ es, es.map Prod.fst = actors step (fun db r => r.caller db) db rs ∧
      Shop.machine.History db.shop es ∧
      (runFrom db rs).shop = Shop.machine.after db.shop es :=
  shopSimulation.history hknown rs

end Deployment

theorem shop_refined_discontinuedLeash :
    staffedShop.LinesKnown ∧
    ∃ es : List (Caller Id × Shop.Event Id Id Id),
      es.map Prod.fst = [.customer 2, .clerk 1] ∧ Shop.machine.History staffedShop.shop es ∧
      (@runFrom .caseInsensitive staffedShop discontinuedLeash).shop =
        Shop.machine.after staffedShop.shop es := by
  have hknown : staffedShop.LinesKnown := by decide
  have hactors : @actors _ _ _ (@step .caseInsensitive) (fun db r => r.caller db) staffedShop
      discontinuedLeash = [.customer 2, .clerk 1] := by decide
  obtain ⟨es, hfst, hhistory, hafter⟩ :=
    @shop_refined .caseInsensitive staffedShop hknown discontinuedLeash
  exact ⟨hknown, es, hfst.trans hactors, hhistory, hafter⟩

/-- No product has a negative price. -/
def Db.NoNegativePrice (db : Db) : Prop := ∀ p ∈ db.products.rows, ∀ n ∈ p.price, 0 ≤ n

instance (db : Db) : Decidable db.NoNegativePrice :=
  inferInstanceAs (Decidable (∀ p ∈ db.products.rows, _))

/-- The units of a product on the bills of a user. -/
def Db.unitsOrdered (db : Db) (u p : Id) : Nat :=
  (db.bills.rows.map fun b => if b.userId = u then (db.itemsOn b.id).count p else 0).sum

theorem Db.shop_fair_iff {db : Db} :
    db.shop.Fair ↔ ∀ u p, db.unitsOrdered u p ≤ db.inactiveRows u p := by
  have hordered : ∀ u p, db.shop.ordered u p = db.unitsOrdered u p := by
    intro u p
    simp only [Shop.ordered, Db.shop, List.map_map]
    rfl
  have hpast : ∀ u p, (db.shop.past u).count p = db.inactiveRows u p := by
    intro u p
    refine (db.count_unitsOf .inactive u p).trans (List.countP_congr fun c _ => ?_)
    simp only [Cart.isOf, Bool.and_eq_true]
    tauto
  simp only [Shop.Fair, hordered, hpast]

theorem Db.NoNegativePrice.shop {db : Db} (h : db.NoNegativePrice) : db.shop.NoNegativePrice := by
  intro i n hn
  simp only [Shop.price, Db.shop, Option.bind_map, Option.mem_def, Option.bind_eq_some_iff] at hn
  obtain ⟨p, hp, hn⟩ := hn
  exact h p (db.products.mem_of_find? hp) n hn

section Deployment

variable [Env]

/-- **Nobody is billed for more than left their cart.** Along every run in
which no product ever has a negative price, the units of a product on a
user's bills are at most the rows of it that left the user's cart without
being deleted. -/
theorem ordered_units_left_cart (db : Db) (hknown : db.LinesKnown)
    (hstart : ∀ u p, db.unitsOrdered u p ≤ db.inactiveRows u p) (rs : List Request)
    (hprices : Along step (fun db _ => db.NoNegativePrice) db rs) (u p : Id) :
    (runFrom db rs).unitsOrdered u p ≤ (runFrom db rs).inactiveRows u p := by
  have hinv : (runFrom db rs).LinesKnown ∧ (runFrom db rs).shop.Fair := by
    refine Along.foldl_inv (fun x => x.LinesKnown ∧ x.shop.Fair) ?_
      ⟨hknown, Db.shop_fair_iff.mpr hstart⟩ hprices
    intro x r hx hprice
    obtain ⟨e, hmay, hshop⟩ := step_matched hx.1 r
    refine ⟨step_linesKnown hx.1 r, ?_⟩
    rw [hshop]
    exact hx.2.apply hprice.shop hmay
  exact Db.shop_fair_iff.mp hinv.2 u p

end Deployment

theorem ordered_units_left_cart_discontinuedLeash :
    (∀ u p, staffedShop.unitsOrdered u p ≤ staffedShop.inactiveRows u p) ∧
    (@runFrom .caseInsensitive staffedShop discontinuedLeash).unitsOrdered 2 2 = 1 ∧
    (@runFrom .caseInsensitive staffedShop discontinuedLeash).unitsOrdered 2 2 ≤
      (@runFrom .caseInsensitive staffedShop discontinuedLeash).inactiveRows 2 2 := by
  have hstart : ∀ u p, staffedShop.unitsOrdered u p ≤ staffedShop.inactiveRows u p :=
    fun u p => Nat.zero_le _
  exact ⟨hstart, by decide, @ordered_units_left_cart .caseInsensitive staffedShop (by decide)
    hstart discontinuedLeash (by decide) 2 2⟩

/-- A voucher that makes up for one of two sacks of food: the total is in
range, the line of the sacks is not. -/
def voucherShop : Db where
  users := Table.empty.insertAll [{ email := "ann@pet.vn" }]
  products := Table.empty.insertAll
    [{ name := some "Voucher", price := some (-9999999999), quantity := some 1 },
     { name := some "Sack", price := some 9999999999, quantity := some 2 }]
  carts := Table.empty.insertAll
    [{ userId := 1, productId := 1 }, { userId := 1, productId := 2 },
     { userId := 1, productId := 2 }]

-- With a negative price the checkout breaks off: the voucher is on a bill and still in the cart.
example :
    let db := @step .caseInsensitive voucherShop (.user (some 1) (.carts (.cash "7f")))
    db.unitsOrdered 1 1 = 1 ∧ db.inactiveRows 1 1 = 0 :=
  ⟨by decide, by decide⟩

end PetParadise
