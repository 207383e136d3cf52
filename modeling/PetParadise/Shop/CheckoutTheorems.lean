/-
PetParadise.Shop.CheckoutTheorems — one number for a cart, however it is
computed.

`Db.cartValue` is the value of a user's cart: the price of every active
row, added up. The application computes it row by row (`total`), by
grouped count times price (subtotals, bill lines, gateway items), and
stores it as the amount of a bill. The bridge is `sum_cartProducts`: the
products a checkout loads are, up to order, the distinct products of the
cart, so adding price times count over them is adding the price over rows.

Both checkouts write the same three things. `Db.billed` is the database
they leave; `cash_eval` and `accept_eval` say that they leave it, and
everything about the outcome is read off `Db.billed` once.
-/
import PetParadise.Store.Sums
import PetParadise.Db.StatementsTheorems
import PetParadise.Shop.Momo

namespace PetParadise

open Store PetParadise.Action

/-! ## The value of a cart -/

/-- The products of the active rows, with repetitions. -/
def Db.cartIds (db : Db) (u : Id) : List Id := (db.activeCarts u).map (·.productId)

/-- A product's price. -/
def Db.priceOf (db : Db) (i : Id) : Int := ((db.products.find? i).bind (·.price)).getD 0

def Db.cartValue (db : Db) (u : Id) : Int := ((db.cartIds u).map db.priceOf).sum

/-- The active rows refer to existing products with a price. -/
def Db.CartPriced (db : Db) (u : Id) : Prop :=
  ∀ i ∈ db.cartIds u, ∃ p n, db.products.find? i = some p ∧ p.price = some n

theorem Db.cartPriced_iff {db : Db} {u : Id} :
    db.CartPriced u ↔
      ∀ i ∈ db.cartIds u, ((db.products.find? i).bind (·.price)).isSome = true := by
  refine forall₂_congr fun i _ => ?_
  cases db.products.find? i with
  | none => simp
  | some p => simp [Option.isSome_iff_exists]

instance (db : Db) (u : Id) : Decidable (db.CartPriced u) :=
  decidable_of_iff _ Db.cartPriced_iff.symm

theorem Db.rowPrice_eq_ok {db : Db} {c : Cart} {n : Int} :
    db.rowPrice c = .ok n ↔ ∃ p, db.products.find? c.productId = some p ∧ p.price = some n := by
  unfold Db.rowPrice
  cases db.products.find? c.productId with
  | none => simp
  | some p => cases hp : p.price <;> simp [hp]

/-- The loop of `total` returns exactly when every row has a price, and
then the sum. -/
theorem Db.addPrices_eq_ok {db : Db} {cs : List Cart} {t n : Int} :
    db.addPrices t cs = .ok n ↔
      (∀ c ∈ cs, ∃ p m, db.products.find? c.productId = some p ∧ p.price = some m) ∧
      n = t + (cs.map fun c => db.priceOf c.productId).sum := by
  induction cs generalizing t with
  | nil => simp [Db.addPrices, eq_comm]
  | cons c cs ih =>
    unfold Db.addPrices
    cases hc : db.rowPrice c with
    | error e =>
      simp only [reduceCtorEq, false_iff, not_and]
      intro h
      obtain ⟨p, m, hp, hm⟩ := h c List.mem_cons_self
      rw [Db.rowPrice_eq_ok.mpr ⟨p, hp, hm⟩] at hc
      cases hc
    | ok m =>
      obtain ⟨p, hp, hm⟩ := Db.rowPrice_eq_ok.mp hc
      have hprice : db.priceOf c.productId = m := by simp [Db.priceOf, hp, hm]
      simp only [ih, List.forall_mem_cons, List.map_cons, List.sum_cons, hprice, ← add_assoc]
      exact ⟨fun h => ⟨⟨⟨p, m, hp, hm⟩, h.1⟩, h.2⟩, fun h => ⟨h.1.2, h.2⟩⟩

theorem total_eq_ok {db : Db} {u : User} {n : Int} :
    db.addPrices 0 (db.activeCarts u.id) = .ok n ↔
      db.CartPriced u.id ∧ n = db.cartValue u.id := by
  rw [Db.addPrices_eq_ok, zero_add, Db.CartPriced, Db.cartValue, Db.cartIds, List.map_map,
    List.forall_mem_map]
  rfl

theorem eval_total [Env] {db : Db} {u : User} (h : db.CartPriced u.id) :
    eval (CartsController.total u) db = (.ok (db.cartValue u.id), db) := by
  simp [CartsController.total, total_eq_ok.mpr ⟨h, rfl⟩]

/-- A total that was returned is the value of a priced cart. -/
theorem eval_total_inv [Env] {db db' : Db} {u : User} {n : Int}
    (h : eval (CartsController.total u) db = (.ok n, db')) :
    db.CartPriced u.id ∧ n = db.cartValue u.id ∧ db' = db := by
  simp only [CartsController.total, eval_select_bind] at h
  cases ht : db.addPrices 0 (db.activeCarts u.id) with
  | error e => rw [ht] at h; cases h
  | ok m =>
    rw [ht] at h
    cases h
    exact ⟨(total_eq_ok.mp ht).1, (total_eq_ok.mp ht).2, rfl⟩

/-! ## Rows and groups -/

/-- The products a checkout loads. -/
def Db.cartProducts (db : Db) (u : Id) : List Product :=
  db.productsIn ((db.groupedCount u).map Prod.fst)

theorem Db.groupedCount_fst (db : Db) (u : Id) :
    (db.groupedCount u).map Prod.fst = (db.cartIds u).dedup := by
  simp [Db.groupedCount, Db.cartIds, Function.comp_def]

theorem Db.lookup_groupedCount {db : Db} {u i : Id} (h : i ∈ db.cartIds u) :
    (db.groupedCount u).lookup i = some ((db.cartIds u).count i) :=
  lookup_groups h

theorem Db.mem_cartProducts {db : Db} {u : Id} {p : Product} :
    p ∈ db.cartProducts u ↔ p ∈ db.products.rows ∧ p.id ∈ db.cartIds u := by
  rw [Db.cartProducts, Db.groupedCount_fst, Db.productsIn, List.mem_filter,
    List.contains_iff_mem, List.mem_dedup]

/-- A loaded product has the price the rows were added up with. -/
theorem Db.CartPriced.price {db : Db} {u : Id} (h : db.CartPriced u) {p : Product}
    (hp : p ∈ db.cartProducts u) : p.price = some (db.priceOf p.id) := by
  obtain ⟨hmem, hid⟩ := Db.mem_cartProducts.mp hp
  obtain ⟨q, n, hq, hn⟩ := h p.id hid
  have hfind : db.products.find? p.id = some p := db.products.find?_of_mem hmem
  rw [hfind] at hq
  cases hq
  rw [Db.priceOf, hfind, Option.bind_some, hn, Option.getD_some]

/-- The keys of the loaded products are the distinct products of the
cart. -/
theorem Db.CartPriced.perm {db : Db} {u : Id} (h : db.CartPriced u) :
    ((db.cartProducts u).map Product.id).Perm (db.cartIds u).dedup := by
  have hnodup : ((db.cartProducts u).map Product.id).Nodup := by
    have hsorted : (db.cartProducts u).Pairwise (fun a b => a.id < b.id) :=
      db.products.sorted.filter _
    rw [List.Nodup, List.pairwise_map]
    exact hsorted.imp fun hlt => Nat.ne_of_lt hlt
  refine (List.perm_ext_iff_of_nodup hnodup (List.nodup_dedup _)).mpr fun i => ?_
  rw [List.mem_dedup, List.mem_map]
  constructor
  · rintro ⟨p, hp, rfl⟩
    exact (Db.mem_cartProducts.mp hp).2
  · intro hi
    obtain ⟨p, n, hp, -⟩ := h i hi
    have hid : p.id = i := db.products.id_of_find? hp
    exact ⟨p, Db.mem_cartProducts.mpr ⟨db.products.mem_of_find? hp, hid ▸ hi⟩, hid⟩

/-- Price times count, added over the loaded products, is the value of the
cart. -/
theorem Db.CartPriced.sum_cartProducts {db : Db} {u : Id} (h : db.CartPriced u) :
    ((db.cartProducts u).map fun p => db.priceOf p.id * (db.cartIds u).count p.id).sum =
      db.cartValue u := by
  have hcomp : ((db.cartProducts u).map fun p => db.priceOf p.id * (db.cartIds u).count p.id) =
      ((db.cartProducts u).map Product.id).map
        (fun i => db.priceOf i * (db.cartIds u).count i) := by
    rw [List.map_map]
    rfl
  rw [hcomp, (h.perm.map _).sum_eq, sum_groups]
  rfl

/-- The number of active rows of a product. -/
theorem Db.length_activeCartsOf (db : Db) (u i : Id) :
    (db.activeCartsOf u i).length = (db.cartIds u).count i := by
  rw [Db.activeCartsOf, Db.cartIds, ← List.countP_eq_length_filter, List.count, List.countP_map]
  rfl

/-! ## The lines of a checkout -/

/-- The lines both checkouts write. -/
def Db.cartLines (db : Db) (u billId : Id) : List BillProduct :=
  (db.cartProducts u).map fun p =>
    lineOf billId p (db.priceOf p.id) ((db.cartIds u).count p.id)

/-- Storing lines one after the other. -/
def writeLines (ls : List BillProduct) : Action Unit :=
  Prog.each ls fun l => Prog.perform (.insertBillProduct l)

/-- With a priced cart, the body of `products.each` does nothing but store
its line. -/
theorem Db.CartPriced.addLine_eq {db : Db} {u : Id} (h : db.CartPriced u) {p : Product}
    (hp : p ∈ db.cartProducts u) (billId : Id) :
    addLine (some billId) (db.groupedCount u) p =
      Prog.perform (.insertBillProduct
        (lineOf billId p (db.priceOf p.id) ((db.cartIds u).count p.id))) := by
  simp only [addLine, h.price hp, Db.lookup_groupedCount (Db.mem_cartProducts.mp hp).2,
    Prog.orRaise_some, Prog.ret_bind]

theorem Db.CartPriced.each_addLine {db : Db} {u : Id} (h : db.CartPriced u) (billId : Id) :
    Prog.each (db.cartProducts u) (addLine (some billId) (db.groupedCount u)) =
      writeLines (db.cartLines u billId) := by
  have hgen : ∀ ps : List Product, (∀ p ∈ ps, p ∈ db.cartProducts u) →
      Prog.each ps (addLine (some billId) (db.groupedCount u)) =
        writeLines (ps.map fun p =>
          lineOf billId p (db.priceOf p.id) ((db.cartIds u).count p.id)) := by
    intro ps
    induction ps with
    | nil => exact fun _ => rfl
    | cons p ps ih =>
      intro hps
      rw [Prog.each_cons, h.addLine_eq (hps p List.mem_cons_self),
        ih fun q hq => hps q (List.mem_cons_of_mem _ hq)]
      rfl
  exact hgen _ fun _ hp => hp

section Inserts

variable {db : Db}

theorem exec_insertBill [Env] {b : Bill} (huser : (db.users.find? b.userId).isSome = true) :
    exec (.insertBill b) db =
      if fitsDecimal b.amount then
        if b.fits then .ok { db with bills := db.bills.insert b } else .error .valueTooLong
      else .error .rangeError := by
  have hno : (db.users.find? b.userId).isNone = false := by
    rw [Option.isNone_eq_false_iff]
    exact huser
  simp only [exec, hno, Bool.false_eq_true, if_false]

theorem exec_insertBillProduct [Env] {l : BillProduct}
    (hbill : (db.bills.find? l.billId).isSome = true)
    (hprod : (db.products.find? l.productId).isSome = true) :
    exec (.insertBillProduct l) db =
      if fitsDecimal l.totalAmount then .ok { db with billProducts := db.billProducts.insert l }
      else .error .rangeError := by
  have hno : ((db.bills.find? l.billId).isNone || (db.products.find? l.productId).isNone) =
      false := by
    rw [Bool.or_eq_false_iff, Option.isNone_eq_false_iff, Option.isNone_eq_false_iff]
    exact ⟨hbill, hprod⟩
  simp only [exec, hno, Bool.false_eq_true, if_false]

end Inserts

/-- Lines of a stored bill and of stored products, within range, are all
stored. -/
theorem eval_writeLines [Env] {ls : List BillProduct} {db : Db}
    (h : ∀ l ∈ ls, (db.bills.find? l.billId).isSome ∧ (db.products.find? l.productId).isSome ∧
      fitsDecimal l.totalAmount = true) :
    eval (writeLines ls) db =
      (.ok (), { db with billProducts := db.billProducts.insertAll ls }) := by
  induction ls generalizing db with
  | nil => rfl
  | cons l ls ih =>
    obtain ⟨hbill, hprod, hfit⟩ := h l List.mem_cons_self
    have hexec := exec_insertBillProduct hbill hprod
    rw [if_pos hfit] at hexec
    rw [writeLines, Prog.each_cons, eval_perform_ok hexec]
    exact ih fun l' hl' => h l' (List.mem_cons_of_mem _ hl')

/-- The lines of the bill stored next refer to it and to stored
products. -/
theorem Db.cartLines_stored (db : Db) (u : Id) (b : Bill) :
    ∀ l ∈ db.cartLines u db.bills.next,
      ((db.bills.insert b).find? l.billId).isSome = true ∧
        (db.products.find? l.productId).isSome = true := by
  intro l hl
  obtain ⟨p, hp, rfl⟩ := List.mem_map.mp hl
  have hmem := (Db.mem_cartProducts.mp hp).1
  exact ⟨Option.isSome_of_eq_some (db.bills.find?_insert_next b),
    Option.isSome_of_eq_some (db.products.find?_of_mem hmem)⟩

/-- The lines add up to the value of the cart. -/
theorem Db.CartPriced.sum_cartLines {db : Db} {u : Id} (h : db.CartPriced u) (billId : Id) :
    ((db.cartLines u billId).map BillProduct.totalAmount).sum = db.cartValue u := by
  rw [← h.sum_cartProducts, Db.cartLines, List.map_map]
  rfl

/-! ## The database a checkout leaves -/

/-- Bill and lines stored, every row of the user inactive. -/
def Db.billed (db : Db) (u : Id) (b : Bill) : Db :=
  { db with
    bills := db.bills.insert b
    billProducts := db.billProducts.insertAll (db.cartLines u db.bills.next)
    carts := db.carts.modify (·.picked u none) Cart.deactivate Cart.deactivate_id }

/-- The user exists, the cart is priced, and the amounts fit
`decimal(10,0)`. -/
structure Db.Billable (db : Db) (u : Id) : Prop where
  user : (db.users.find? u).isSome = true
  priced : db.CartPriced u
  amount_fits : fitsDecimal (db.cartValue u) = true
  lines_fit : ∀ i ∈ db.cartIds u, fitsDecimal (db.priceOf i * (db.cartIds u).count i) = true

instance (db : Db) (u : Id) : Decidable (db.Billable u) :=
  decidable_of_iff ((db.users.find? u).isSome = true ∧ db.CartPriced u ∧
      fitsDecimal (db.cartValue u) = true ∧
      ∀ i ∈ db.cartIds u, fitsDecimal (db.priceOf i * (db.cartIds u).count i) = true)
    ⟨fun h => ⟨h.1, h.2.1, h.2.2.1, h.2.2.2⟩,
      fun h => ⟨h.user, h.priced, h.amount_fits, h.lines_fit⟩⟩

theorem eval_createBill_bind [Env] {α : Type} {db : Db} {b : Bill}
    (huser : (db.users.find? b.userId).isSome = true) (hfit : fitsDecimal b.amount = true)
    (htexts : b.fits = true) (f : Option Id → Action α) :
    eval (createBill b >>= f) db =
      eval (f (some db.bills.next)) { db with bills := db.bills.insert b } := by
  have hexec := exec_insertBill huser
  rw [if_pos hfit, if_pos htexts] at hexec
  have hrun := Prog.run_stmt_ok exec hexec
    (fun db => f (if (db.users.find? b.userId).isSome then some db.bills.next else none))
  rw [if_pos huser] at hrun
  exact hrun

/-- Lines and cart update, once the bill is stored. -/
theorem Db.Billable.eval_rest [Env] {α : Type} {db : Db} {u : Id} (h : db.Billable u) (b : Bill)
    (k : Action α) :
    eval (Prog.each (db.cartProducts u) (addLine (some db.bills.next) (db.groupedCount u)) >>=
        fun _ => Prog.perform (.deactivateCarts u none) >>= fun _ => k)
      { db with bills := db.bills.insert b } = eval k (db.billed u b) := by
  rw [h.priced.each_addLine]
  have hlines : eval (writeLines (db.cartLines u db.bills.next))
      { db with bills := db.bills.insert b } = (.ok (), { db with
        bills := db.bills.insert b
        billProducts := db.billProducts.insertAll (db.cartLines u db.bills.next) }) := by
    refine eval_writeLines fun l hl => ?_
    obtain ⟨hbill, hprod⟩ := db.cartLines_stored u b l hl
    obtain ⟨p, hp, rfl⟩ := List.mem_map.mp hl
    exact ⟨hbill, hprod, h.lines_fit p.id (Db.mem_cartProducts.mp hp).2⟩
  rw [eval_bind_ok hlines, eval_perform_ok rfl]
  rfl

/-- The texts of a cash bill come from the user's own row. -/
theorem cashBill_fits (u : User) (randomToken : String) (total : Int) :
    (CartsController.cashBill u randomToken total).fits = true := u.fits

/-- Those of a MoMo bill come from the form. -/
theorem momoBill_fits (u : User) (amount : Int) (c : MomoCheckout) :
    (Momo.GetPaymentUrlService.momoBill u amount c).fits = c.params.fits := rfl

theorem cash_eval [Env] {db : Db} {u : User} (h : db.Billable u.id) (randomToken : String) :
    eval (CartsController.cash u randomToken) db =
      (.ok (redirectNotice "/shop" "Payment in cash successfully!"),
        db.billed u.id (CartsController.cashBill u randomToken (db.cartValue u.id))) := by
  unfold CartsController.cash
  rw [eval_bind_ok (eval_total h.priced), eval_select_bind,
    eval_createBill_bind h.user h.amount_fits (cashBill_fits u randomToken (db.cartValue u.id)),
    eval_select_bind]
  exact h.eval_rest _ _

theorem accept_eval [Env] {db : Db} {u : User} (h : db.Billable u.id) {c : MomoCheckout}
    (hc : c.params.fits = true) :
    eval (Momo.GetPaymentUrlService.accept u (db.cartValue u.id) c (db.groupedCount u.id)
        (db.cartProducts u.id)) db =
      (.ok (), db.billed u.id
        (Momo.GetPaymentUrlService.momoBill u (db.cartValue u.id) c)) := by
  unfold Momo.GetPaymentUrlService.accept
  rw [← momoBill_fits u (db.cartValue u.id) c] at hc
  rw [eval_createBill_bind h.user h.amount_fits hc]
  exact h.eval_rest _ (.ret ())

/-- An amount out of range or a text that is too long is refused, and
nothing is written. -/
theorem eval_createBill_refused [Env] {α : Type} {db : Db} {b : Bill}
    (huser : (db.users.find? b.userId).isSome = true)
    (hfit : (fitsDecimal b.amount && b.fits) = false) (f : Option Id → Action α) :
    eval (createBill b >>= f) db =
      (.error (if fitsDecimal b.amount then .valueTooLong else .rangeError), db) := by
  have hexec := exec_insertBill huser
  cases hamount : fitsDecimal b.amount with
  | false =>
    rw [if_neg (by simp [hamount])] at hexec
    exact Prog.run_stmt_error exec hexec _
  | true =>
    rw [hamount, Bool.true_and] at hfit
    rw [if_pos hamount, if_neg (by simp [hfit])] at hexec
    exact Prog.run_stmt_error exec hexec _

/-- Without a price for every row there is no total. -/
theorem eval_total_error [Env] {db : Db} {u : User} (h : ¬ db.CartPriced u.id) :
    ∃ e, eval (CartsController.total u) db = (.error e, db) := by
  cases ht : db.addPrices 0 (db.activeCarts u.id) with
  | ok n => exact absurd (total_eq_ok.mp ht).1 h
  | error e => exact ⟨e, by simp [CartsController.total, ht]⟩

/-! ## What can be said about it -/

/-- A checkout of amount `n` was faithful to the cart: one new bill of that
amount, whose lines add up to it and name each distinct product of the
cart once with its number of rows; the cart is empty afterwards and nobody
else's data has changed. -/
structure CheckoutFaithful (db : Db) (u : Id) (n : Int) (db' : Db) : Prop where
  bill : ∃ b, db'.bills = db.bills.insert b ∧ b.amount = n ∧ b.userId = u
  lines : ∃ ls : List BillProduct, db'.billProducts = db.billProducts.insertAll ls ∧
    (∀ l ∈ ls, l.billId = db.bills.next ∧
      l.quantity = (db.activeCartsOf u l.productId).length) ∧
    (ls.map BillProduct.totalAmount).sum = n ∧
    (ls.map BillProduct.productId).Nodup ∧
    ∀ i, i ∈ ls.map BillProduct.productId ↔ ∃ c ∈ db.activeCarts u, c.productId = i
  emptied : db'.activeCarts u = []
  others : ∀ v, v ≠ u →
    db'.carts.rows.filter (·.userId == v) = db.carts.rows.filter (·.userId == v)
  frame : ∀ t, t ≠ .bills → t ≠ .billProducts → t ≠ .carts → db.SameOn t db'

/-- After `current_user.carts.update_all(status: :inactive)`. -/
def Db.deactivated (db : Db) (u : Id) : Db :=
  { db with carts := db.carts.modify (·.picked u none) Cart.deactivate Cart.deactivate_id }

/-- No row of the user is active any more. -/
theorem Db.activeCarts_deactivated (db : Db) (u : Id) : (db.deactivated u).activeCarts u = [] := by
  rw [Db.activeCarts, List.filter_eq_nil_iff]
  intro c hc
  obtain ⟨c₀, -, rfl⟩ := List.mem_map.mp hc
  by_cases hu : c₀.userId = u
  · simp [Cart.picked, hu, Cart.deactivate]
  · simp [Cart.picked, hu]

/-- Rows of other users are not touched. -/
theorem Db.carts_billed_of_ne (db : Db) {u v : Id} (hv : v ≠ u) (b : Bill) :
    (db.billed u b).carts.rows.filter (·.userId == v) =
      db.carts.rows.filter (·.userId == v) := by
  refine db.carts.filter_rows_modify Cart.deactivate_id fun c hc => ?_
  have hu : c.userId = u := by simpa [Cart.picked] using hc
  simp [Cart.deactivate, hu, Ne.symm hv]

theorem Db.Billable.checkoutFaithful {db : Db} {u : Id} (h : db.Billable u) {b : Bill}
    (hamount : b.amount = db.cartValue u) (huser : b.userId = u) :
    CheckoutFaithful db u (db.cartValue u) (db.billed u b) where
  bill := ⟨b, rfl, hamount, huser⟩
  lines := by
    have hids : (db.cartLines u db.bills.next).map BillProduct.productId =
        (db.cartProducts u).map Product.id := by
      rw [Db.cartLines, List.map_map]
      rfl
    refine ⟨db.cartLines u db.bills.next, rfl, fun l hl => ?_, h.priced.sum_cartLines _, ?_,
      fun i => ?_⟩
    · obtain ⟨p, -, rfl⟩ := List.mem_map.mp hl
      refine ⟨rfl, ?_⟩
      rw [Db.length_activeCartsOf]
      rfl
    · rw [hids]
      exact h.priced.perm.nodup_iff.mpr (List.nodup_dedup _)
    · rw [hids, h.priced.perm.mem_iff, List.mem_dedup, Db.cartIds, List.mem_map]
  emptied := db.activeCarts_deactivated u
  others := fun v hv => db.carts_billed_of_ne hv b
  frame := by
    intro t h₁ h₂ h₃
    cases t <;> first | rfl | contradiction

/-! ## The pages -/

/-- `carts/_subtotal` of a product on the page. -/
theorem Db.CartPriced.subtotal {db : Db} {u : User} (h : db.CartPriced u.id) {p : Product}
    (hp : p ∈ db.cartProducts u.id) :
    db.subtotal u p = some (db.priceOf p.id * (db.cartIds u.id).count p.id) := by
  rw [Db.subtotal, h.price hp, Option.map_some, Db.length_activeCartsOf]

/-- The subtotals shown add up to the value of the cart. -/
theorem Db.CartPriced.sum_subtotals {db : Db} {u : User} (h : db.CartPriced u.id) :
    ((db.cartProducts u.id).filterMap (db.subtotal u)).sum = db.cartValue u.id := by
  rw [← h.sum_cartProducts]
  congr 1
  refine List.filterMap_eq_map_iff_forall_eq_some.mpr fun p hp => ?_
  exact h.subtotal hp

/-- Both pages show the loaded products and the total. -/
theorem eval_pages [Env] {db : Db} {u : User} (h : db.CartPriced u.id) :
    eval (CartsController.index u) db =
      (.ok (.cartsIndex (db.cartProducts u.id) (db.cartValue u.id)), db) ∧
    eval (CartsController.checkout u) db =
      (.ok (.cartsCheckout (db.cartProducts u.id) (db.cartValue u.id)), db) := by
  constructor
  · unfold CartsController.index
    rw [eval_bind_ok (eval_total h)]
    rfl
  · unfold CartsController.checkout
    rw [eval_bind_ok (eval_total h)]
    rfl

/-! ## The gateway -/

section Gateway

open Momo.GetPaymentUrlService

/-- The request a statement sends to the gateway. -/
def Stmt.posted : Stmt → Option MomoRequest
  | .post body => some body
  | _ => none

/-- `items` of a priced cart. -/
def Db.momoItems (db : Db) (u : Id) (itemId : Id → String) : List MomoItem :=
  (db.cartProducts u).map fun p =>
    { id := itemId p.id
      name := p.name
      currency := "VND"
      quantity := (db.cartIds u).count p.id
      totalAmount := db.priceOf p.id * (db.cartIds u).count p.id
      purchaseAmount := db.priceOf p.id * (db.cartIds u).count p.id }

theorem Db.CartPriced.items_eq {db : Db} {u : Id} (h : db.CartPriced u) (itemId : Id → String) :
    items itemId (db.groupedCount u) (db.cartProducts u) = .ok (db.momoItems u itemId) := by
  have hgen : ∀ ps : List Product, (∀ p ∈ ps, p ∈ db.cartProducts u) →
      items itemId (db.groupedCount u) ps = .ok (ps.map fun p =>
        { id := itemId p.id
          name := p.name
          currency := "VND"
          quantity := (db.cartIds u).count p.id
          totalAmount := db.priceOf p.id * (db.cartIds u).count p.id
          purchaseAmount := db.priceOf p.id * (db.cartIds u).count p.id }) := by
    intro ps
    induction ps with
    | nil => exact fun _ => rfl
    | cons p ps ih =>
      intro hps
      have hp := hps p List.mem_cons_self
      rw [items, ih fun q hq => hps q (List.mem_cons_of_mem _ hq)]
      simp only [itemOf, h.price hp, Db.lookup_groupedCount (Db.mem_cartProducts.mp hp).2,
        List.map_cons]
  exact hgen _ fun _ hp => hp

theorem Db.CartPriced.sum_momoItems {db : Db} {u : Id} (h : db.CartPriced u)
    (itemId : Id → String) :
    ((db.momoItems u itemId).map MomoItem.totalAmount).sum = db.cartValue u := by
  rw [← h.sum_cartProducts, Db.momoItems, List.map_map]
  rfl

/-- What `checkout_momo` does with the gateway's answer. -/
def Db.afterGateway (db : Db) (u : User) (c : MomoCheckout) : GatewayAnswer → Action Response
  | .unreadable => .raise .gatewayError
  | .object resultCode payUrl =>
      if resultCode = .int 0 then do
        accept u (db.cartValue u.id) c (db.groupedCount u.id) (db.cartProducts u.id)
        let url ← Prog.orRaise payUrl .redirectError
        return .external url
      else return redirectNotice "/carts" "Checkout momo fail!"

/-- The tail of the service and of the action, as one program. -/
theorem Db.afterGateway_eq (db : Db) (u : User) (c : MomoCheckout) (answer : GatewayAnswer) :
    db.afterGateway u c answer =
      (match answer with
        | .unreadable => (.raise .gatewayError : Action (Scalar × Option String))
        | .object resultCode payUrl =>
            if resultCode = .int 0 then do
              accept u (db.cartValue u.id) c (db.groupedCount u.id) (db.cartProducts u.id)
              return (resultCode, payUrl)
            else return (resultCode, payUrl)) >>= fun x =>
          if x.1 = .int 0 then do
            let url ← Prog.orRaise x.2 .redirectError
            return .external url
          else return redirectNotice "/carts" "Checkout momo fail!" := by
  cases answer with
  | unreadable => rfl
  | object resultCode payUrl =>
    by_cases hcode : resultCode = .int 0 <;> simp [Db.afterGateway, hcode]

theorem Db.afterGateway_not_posts (db : Db) (u : User) (c : MomoCheckout)
    (answer : GatewayAnswer) :
    (db.afterGateway u c answer).Only (fun w => w.posted = none) := by
  cases answer with
  | unreadable => trivial
  | object resultCode payUrl =>
    rw [Db.afterGateway, only_ite]
    refine ⟨fun _ => Prog.only_bind ?_ fun _ => ?_, fun _ => trivial⟩
    · refine Prog.only_bind ⟨rfl, fun _ => trivial⟩ fun bill => ?_
      refine Prog.only_bind (Prog.only_each (fun p => ?_) _) fun _ => ?_
      · simp [addLine, Stmt.posted]
      · simp [Stmt.posted]
    · simp

variable [Env]

/-- The request sent to the gateway for a priced cart. -/
def Db.momoBody (db : Db) (u : User) (c : MomoCheckout) : MomoRequest :=
  dataBody u (db.cartValue u.id) c.randomToken (db.momoItems u.id c.itemId)

theorem checkoutMomo_eval {db : Db} {u : User} (h : db.CartPriced u.id) (c : MomoCheckout) :
    eval (CartsController.checkoutMomo u c) db =
      eval (db.afterGateway u c (c.gateway (db.momoBody u c))) db := by
  have hitems := h.items_eq c.itemId
  unfold Db.cartProducts at hitems
  unfold CartsController.checkoutMomo CartsController.total call
  simp only [bind_assoc, eval_select_bind, total_eq_ok.mpr ⟨h, rfl⟩, Prog.ofExcept_ok,
    Prog.ret_bind, hitems]
  rw [eval_perform_ok (exec_post _ _), Db.afterGateway_eq]
  rfl

/-- What the checkout executes: its queries, one request to the gateway,
and what the answer leads to. -/
theorem checkoutMomo_log {db : Db} {u : User} (h : db.CartPriced u.id) (c : MomoCheckout) :
    (CartsController.checkoutMomo u c).log exec db =
      [.select .cartTotal, .select .groupedCount, .select .products, .post (db.momoBody u c)] ++
        (db.afterGateway u c (c.gateway (db.momoBody u c))).log exec db := by
  have hitems := h.items_eq c.itemId
  unfold Db.cartProducts at hitems
  unfold CartsController.checkoutMomo CartsController.total call
  simp only [bind_assoc, log_select_bind, total_eq_ok.mpr ⟨h, rfl⟩, Prog.ofExcept_ok,
    Prog.ret_bind, hitems]
  rw [Db.afterGateway_eq]
  rfl

/-- Exactly one request is sent, and it is the cart's. -/
theorem checkoutMomo_posted {db : Db} {u : User} (h : db.CartPriced u.id) (c : MomoCheckout) :
    ((CartsController.checkoutMomo u c).log exec db).filterMap Stmt.posted =
      [db.momoBody u c] := by
  have hrest : ((db.afterGateway u c (c.gateway (db.momoBody u c))).log exec db).filterMap
      Stmt.posted = [] := by
    rw [List.filterMap_eq_nil_iff]
    intro w hw
    exact Prog.mem_log_of_only (db.afterGateway_not_posts u c _) hw
  rw [checkoutMomo_log h, List.filterMap_append, hrest]
  rfl

theorem checkoutMomo_accepted {db : Db} {u : User} (h : db.Billable u.id) {c : MomoCheckout}
    (hc : c.params.fits = true) {payUrl : Option String}
    (hg : c.gateway (db.momoBody u c) = .object (.int 0) payUrl) :
    (eval (CartsController.checkoutMomo u c) db).2 =
      db.billed u.id (momoBill u (db.cartValue u.id) c) := by
  rw [checkoutMomo_eval h.priced, hg, Db.afterGateway, if_pos rfl, eval_bind_ok (accept_eval h hc)]
  cases payUrl <;> rfl

/-- The gateway has accepted, and then the bill is refused for one of its
texts. -/
theorem checkoutMomo_too_long {db : Db} {u : User} (h : db.Billable u.id) {c : MomoCheckout}
    (hc : c.params.fits = false) {payUrl : Option String}
    (hg : c.gateway (db.momoBody u c) = .object (.int 0) payUrl) :
    eval (CartsController.checkoutMomo u c) db = (.error .valueTooLong, db) := by
  have hrefused : (fitsDecimal (db.cartValue u.id) &&
      (momoBill u (db.cartValue u.id) c).fits) = false := by
    rw [h.amount_fits, momoBill_fits, hc]
    rfl
  have haccept : eval (accept u (db.cartValue u.id) c (db.groupedCount u.id)
      (db.cartProducts u.id)) db = (.error .valueTooLong, db) := by
    unfold accept
    rw [eval_createBill_refused (b := momoBill u (db.cartValue u.id) c) h.user hrefused]
    simp [momoBill, h.amount_fits]
  rw [checkoutMomo_eval h.priced, hg, Db.afterGateway, if_pos rfl, eval_bind_error haccept]

theorem checkoutMomo_declined {db : Db} {u : User} (h : db.CartPriced u.id) {c : MomoCheckout}
    (hg : ∀ payUrl, c.gateway (db.momoBody u c) ≠ .object (.int 0) payUrl) :
    (eval (CartsController.checkoutMomo u c) db).2 = db := by
  rw [checkoutMomo_eval h]
  cases hanswer : c.gateway (db.momoBody u c) with
  | unreadable => rfl
  | object resultCode payUrl =>
    have hcode : resultCode ≠ .int 0 := by
      rintro rfl
      exact hg payUrl hanswer
    rw [Db.afterGateway, if_neg hcode]
    rfl

end Gateway

/-- Two leashes and a bowl in the cart of user 1, a bowl in that of
user 2. -/
def twoCarts : Db where
  users := Table.empty.insertAll [{ email := "ann@pet.vn" }, { email := "bob@pet.vn" }]
  products := Table.empty.insertAll
    [{ name := some "Leash", price := some 120, quantity := some 3 },
     { name := some "Bowl", price := some 50, quantity := some 9 }]
  carts := Table.empty.insertAll
    [{ userId := 1, productId := 1 }, { userId := 2, productId := 2 },
     { userId := 1, productId := 2 }, { userId := 1, productId := 1 }]

end PetParadise
