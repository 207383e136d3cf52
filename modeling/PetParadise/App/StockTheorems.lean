/-
PetParadise.App.StockTheorems — what the stock limit of the carts bounds.

`CartsController#create` and `#update_quantity` compare the active rows of
one user with `products.quantity`; no action ever lowers that quantity. So
each user can hold at most the stock at a time, and buy it again after
every checkout: what is bounded is one bill, not all bills together.

A request adds rows for one user and one product only (`FillsCart`), up to
the quantity; a checkout turns the rows of one user into the lines of one
new bill. Both keep `Db.WithinStock`.
-/
import PetParadise.App.LedgerTheorems
import PetParadise.Shop.ConcurrentCheckout

namespace PetParadise

open Store PetParadise.Action

/-! ## What is bounded -/

/-- The active rows of a user and a product. -/
def Db.held (db : Db) (u p : Id) : Nat := (db.activeCartsOf u p).length

/-- The units of a product on one bill. -/
def Db.unitsOnBill (db : Db) (billId p : Id) : Int :=
  sumWhere BillProduct.quantity (fun l => l.billId == billId && l.productId == p)
    db.billProducts.rows

/-- There is none, or there are at most as many as the product's
quantity. -/
def Product.Covers (p : Product) (n : Int) : Prop := n = 0 ∨ ∃ q ∈ p.quantity, n ≤ q

instance (p : Product) (n : Int) : Decidable (p.Covers n) :=
  match h : p.quantity with
  | none => decidable_of_iff (n = 0) (by simp [Product.Covers, h])
  | some q => decidable_of_iff (n = 0 ∨ n ≤ q) (by simp [Product.Covers, h])

theorem Product.Covers.le {p : Product} {m n : Int} (h : p.Covers n) (hm : 0 ≤ m) (hmn : m ≤ n) :
    p.Covers m := by
  rcases h with hn | ⟨q, hq, hn⟩
  · left
    omega
  · right
    exact ⟨q, hq, by omega⟩

/-- Carts and bills are within stock, and a bill to come has no lines
yet. -/
structure Db.WithinStock (db : Db) : Prop where
  carts : ∀ p ∈ db.products.rows, ∀ u, p.Covers (db.held u p.id)
  bills : ∀ p ∈ db.products.rows, ∀ b, p.Covers (db.unitsOnBill b p.id)
  lines : ∀ l ∈ db.billProducts.rows, l.billId < db.bills.next

/-! ## Rows of the carts -/

/-- An active row of the user and the product. -/
def Cart.counts (u p : Id) (c : Cart) : Bool :=
  c.productId == p && (c.userId == u && c.status == .active)

theorem Db.activeCartsOf_eq (db : Db) (u p : Id) :
    db.activeCartsOf u p = db.carts.rows.filter (Cart.counts u p) := by
  rw [Db.activeCartsOf, Db.activeCarts, List.filter_filter]
  rfl

theorem Db.held_eq_countP (db : Db) (u p : Id) :
    db.held u p = db.carts.rows.countP (Cart.counts u p) := by
  rw [Db.held, Db.activeCartsOf_eq, List.countP_eq_length_filter]

/-- Only the carts changed, and nobody has more than before, except that
`u` may have `n` more of `p`. -/
structure HeldUpTo (u p : Id) (n : Nat) (db db' : Db) : Prop where
  frame : db' = { db with carts := db'.carts }
  held : ∀ v i, db'.held v i ≤ db.held v i + if v = u ∧ i = p then n else 0

theorem HeldUpTo.refl (u p : Id) (db : Db) : HeldUpTo u p 0 db db := ⟨rfl, by simp⟩

theorem HeldUpTo.trans {u p : Id} {m n : Nat} {db₁ db₂ db₃ : Db} (h₁ : HeldUpTo u p m db₁ db₂)
    (h₂ : HeldUpTo u p n db₂ db₃) : HeldUpTo u p (m + n) db₁ db₃ := by
  constructor
  · rw [h₂.frame, h₁.frame]
  · intro v i
    have hm := h₁.held v i
    have hn := h₂.held v i
    split at hm
    · rename_i hvi
      rw [if_pos hvi] at hn ⊢
      omega
    · rename_i hvi
      rw [if_neg hvi] at hn ⊢
      omega

theorem HeldUpTo.mono {u p : Id} {m n : Nat} {db db' : Db} (h : HeldUpTo u p m db db')
    (hmn : m ≤ n) : HeldUpTo u p n db db' := by
  refine ⟨h.frame, ?_⟩
  intro v i
  have hm := h.held v i
  split at hm
  · rename_i hvi
    rw [if_pos hvi]
    omega
  · rename_i hvi
    rw [if_neg hvi]
    exact hm

/-- One statement that adds at most a row of `u` and `p`. -/
theorem exec_insertCart_held [Env] {u p : Id} {db db' : Db}
    (h : exec (.insertCart u p) db = .ok db') :
    HeldUpTo u p 1 db db' := by
  obtain ⟨-, -, rfl⟩ := exec_insertCart_ok h
  refine ⟨rfl, ?_⟩
  intro v i
  rw [Db.held_eq_countP, Db.held_eq_countP, Table.rows_insert, List.countP_append,
    List.countP_singleton]
  simp only [Row.withId, Cart.counts, Bool.and_eq_true, beq_iff_eq]
  by_cases hvi : v = u ∧ i = p
  · rw [if_pos hvi]
    split <;> omega
  · rw [if_neg hvi, if_neg (fun hnew => hvi ⟨hnew.2.1.symm, hnew.1.symm⟩)]

/-- Nobody gets rows by any other statement. -/
theorem exec_held_mono [Env] {w : Stmt} {db db' : Db} (h : exec w db = .ok db')
    (hw : ∀ u p, w ≠ .insertCart u p) (u p : Id) : db'.held u p ≤ db.held u p := by
  rw [Db.held_eq_countP, Db.held_eq_countP]
  cases hwrites : w.writes .carts with
  | false =>
    have hsame : db'.carts = db.carts := exec_frame h hwrites
    rw [hsame]
  | true =>
    cases w with
    | insertCart v i => exact absurd rfl (hw v i)
    | deleteCart i => cases h; exact List.filter_sublist.countP_le
    | deactivateCarts v i =>
      cases h
      rw [Table.rows_modify, List.countP_map]
      apply List.countP_mono_left
      intro c _ hc
      simp only [Function.comp_apply] at hc
      split at hc
      · simp [Cart.counts, Cart.deactivate] at hc
      · exact hc
    | destroyProduct i => cases h; exact List.filter_sublist.countP_le
    | destroyUser i =>
      obtain ⟨chat, -, rfl⟩ := Db.destroyUser_ok h
      exact List.filter_sublist.countP_le
    | _ => simp [Stmt.writes, Stmt.tables] at hwrites

/-- Deleting and deactivating rows. -/
theorem exec_held_le [Env] {w : Stmt} {db db' : Db} (h : exec w db = .ok db')
    (hw : (∃ q, w = .select q) ∨ (∃ i, w = .deleteCart i) ∨ ∃ u p, w = .deactivateCarts u p)
    (u p : Id) : HeldUpTo u p 0 db db' := by
  constructor
  · rcases hw with ⟨q, rfl⟩ | ⟨i, rfl⟩ | ⟨v, i, rfl⟩ <;> cases h <;> rfl
  · intro v i
    rw [ite_self]
    apply exec_held_mono h
    rintro v i rfl
    simp at hw

/-- What is covered stays covered as long as only covered rows come. -/
theorem Db.WithinStock.heldUpTo {db db' : Db} (h : db.WithinStock) {u p : Id} {n : Nat}
    (hheld : HeldUpTo u p n db db')
    (hn : 0 < n → ∃ product, db.products.find? p = some product ∧
      ∃ q ∈ product.quantity, ((db.held u p + n : Nat) : Int) ≤ q) : db'.WithinStock := by
  have hproducts : db'.products = db.products := by rw [hheld.frame]
  have hlines : db'.billProducts = db.billProducts := by rw [hheld.frame]
  have hbills : db'.bills = db.bills := by rw [hheld.frame]
  constructor
  · intro product hproduct v
    rw [hproducts] at hproduct
    have hle := hheld.held v product.id
    have hold := h.carts product hproduct v
    by_cases hvi : v = u ∧ product.id = p
    · rw [if_pos hvi] at hle
      by_cases hpos : 0 < n
      · obtain ⟨product', hfind, q, hq, hfits⟩ := hn hpos
        obtain ⟨rfl, rfl⟩ := hvi
        have hsame : db.products.find? product.id = some product :=
          db.products.find?_of_mem hproduct
        rw [hsame] at hfind
        cases hfind
        exact .inr ⟨q, hq, by omega⟩
      · exact hold.le (by omega) (by omega)
    · rw [if_neg hvi] at hle
      exact hold.le (by omega) (by omega)
  · intro product hproduct b
    rw [hproducts] at hproduct
    rw [Db.unitsOnBill, hlines]
    exact h.bills product hproduct b
  · rw [hlines, hbills]
    exact h.lines

/-! ## The actions on the cart -/

namespace CartsController

/-- What `create` and `update_quantity` may do. -/
def FillsCart (db : Db) (u : Id) (db' : Db) : Prop :=
  ∃ p n, HeldUpTo u p n db db' ∧ (0 < n → ∃ product, db.products.find? p = some product ∧
    ∃ q ∈ product.quantity, ((db.held u p + n : Nat) : Int) ≤ q)

theorem FillsCart.refl (db : Db) (u : Id) : FillsCart db u db :=
  ⟨0, 0, .refl u 0 db, by simp⟩

theorem find?_named {db : Db} {params : CartParams} {product : Product}
    (h : params.productId.bind db.products.find? = some product) :
    db.products.find? product.id = some product := by
  obtain ⟨i, -, hi⟩ := Option.bind_eq_some_iff.mp h
  exact db.products.find?_self hi

theorem setProduct_eval_ok [Env] {db : Db} {params : CartParams} {product : Product}
    (h : params.productId.bind db.products.find? = some product) :
    (setProduct (some params)).eval db = (.ok product, db) := by
  simp [setProduct, h]

theorem setProduct_eval_error [Env] {db : Db} {params : CartParams}
    (h : params.productId.bind db.products.find? = none) :
    (setProduct (some params)).eval db = (.error .recordNotFound, db) := by
  simp [setProduct, h]

/-- `set_product` does not change anything. -/
theorem setProduct_eval [Env] (db : Db) (p : Option CartParams) :
    ∃ e, (setProduct p).eval db = (.error e, db) ∨
      ∃ product, db.products.find? product.id = some product ∧
        (setProduct p).eval db = (.ok product, db) := by
  cases p with
  | none => exact ⟨_, .inl rfl⟩
  | some params =>
    cases hfind : params.productId.bind db.products.find? with
    | none => exact ⟨_, .inl (setProduct_eval_error hfind)⟩
    | some product =>
      exact ⟨.recordNotFound, .inr ⟨product, find?_named hfind, setProduct_eval_ok hfind⟩⟩

theorem create_fills [Env] (db : Db) (u : User) (p : Option CartParams) :
    FillsCart db u.id ((create u p).eval db).2 := by
  unfold create
  obtain ⟨e, herr | ⟨product, hfind, hok⟩⟩ := setProduct_eval db p
  · rw [eval_bind_error herr]
    exact .refl db u.id
  · rw [eval_bind_ok hok, eval_select_bind]
    cases hq : product.quantity with
    | none => exact .refl db u.id
    | some q =>
      simp only [Prog.orRaise_some, Prog.ret_bind]
      split
      · exact .refl db u.id
      · rename_i hlt
        cases hexec : exec (.insertCart u.id product.id) db with
        | error e =>
          rw [eval_perform_error hexec]
          exact .refl db u.id
        | ok db' =>
          rw [eval_perform_ok hexec]
          refine ⟨product.id, 1, exec_insertCart_held hexec, ?_⟩
          intro _
          refine ⟨product, hfind, q, by simp [hq], ?_⟩
          unfold Db.held
          omega

/-- The rows that are added before one is refused, if one is. -/
theorem times_insertCart_held [Env] (u p : Id) (n : Nat) (db : Db) :
    HeldUpTo u p n db (Action.eval (Prog.times n (Prog.perform (.insertCart u p))) db).2 := by
  induction n generalizing db with
  | zero => exact .refl u p db
  | succ n ih =>
    rw [Prog.times]
    cases hexec : exec (.insertCart u p) db with
    | error e =>
      rw [eval_perform_error hexec]
      exact (HeldUpTo.refl u p db).mono (Nat.zero_le _)
    | ok db' =>
      rw [eval_perform_ok hexec, Nat.add_comm]
      exact (exec_insertCart_held hexec).trans (ih db')

theorem removeCarts_held [Env] (u : User) (product : Product) (n : Nat)
    (loaded : Option (Option Cart))
    (db : Db) : HeldUpTo u.id 0 0 db ((removeCarts u product n loaded).eval db).2 := by
  refine Action.eval_inv (HeldUpTo u.id 0 0 db) ?_ (removeCarts_only (P := fun w =>
    (∃ q, w = .select q) ∨ (∃ i, w = .deleteCart i) ∨ ∃ u p, w = .deactivateCarts u p)
    (fun q => .inl ⟨q, rfl⟩) (fun i => .inr (.inl ⟨i, rfl⟩)) u product n loaded) (.refl u.id 0 db)
  intro w x x' hw hexec hx
  exact hx.trans (exec_held_le hexec hw u.id 0)

theorem updateQuantity_fills [Env] (db : Db) (u : User) (p : Option CartParams)
    (quantity : Option String) :
    FillsCart db u.id ((updateQuantity u p quantity).eval db).2 := by
  unfold updateQuantity
  have hreport := fun product => reportQuantity_only (P := Stmt.Reads) (fun _ => rfl) u product
  obtain ⟨e, herr | ⟨product, hfind, hok⟩⟩ := setProduct_eval db p
  · rw [eval_bind_error herr]
    exact .refl db u.id
  · rw [eval_bind_ok hok]
    cases quantity with
    | none => exact .refl db u.id
    | some text =>
      cases hq : product.quantity with
      | none => exact .refl db u.id
      | some stock =>
        simp only [Prog.orRaise_some, Prog.ret_bind]
        split
        · exact .refl db u.id
        · rename_i hstock
          rw [eval_select_bind]
          split
          · rename_i hmore
            rw [eval_select_bind, eval_bind_reads (fun _ => hreport product)]
            refine ⟨product.id, _, times_insertCart_held u.id product.id _ db, ?_⟩
            intro _
            refine ⟨product, hfind, stock, by simp [hq], ?_⟩
            unfold Db.held
            omega
          · rw [eval_select_bind, eval_bind_reads (fun _ => hreport product)]
            exact ⟨_, 0, removeCarts_held u product _ none db, by simp⟩

end CartsController

/-! ## Checkouts -/

/-- The statements of a checkout: nobody gets more rows. -/
def Stmt.closesCarts : Stmt → Bool
  | .select _ => true
  | .post _ => true
  | .insertBill _ => true
  | .insertBillProduct _ => true
  | .deactivateCarts .. => true
  | _ => false

/-- Products are the same and nobody has more in the cart. -/
def Db.NoMoreHeld (db db' : Db) : Prop :=
  db'.products = db.products ∧ ∀ u p, db'.held u p ≤ db.held u p

theorem exec_noMoreHeld [Env] {w : Stmt} {db db' : Db} (hw : w.closesCarts = true)
    (h : exec w db = .ok db') : db.NoMoreHeld db' := by
  have hproducts : w.writes .products = false := by
    cases w <;> first | rfl | cases hw
  refine ⟨exec_frame h hproducts, exec_held_mono h ?_⟩
  rintro u p rfl
  cases hw

/-- The units on the new bill are rows of the cart. -/
theorem Db.CartPriced.units_takenLines {db : Db} {u : Id} (h : db.CartPriced u) (p : Id) :
    0 ≤ sumWhere BillProduct.quantity (·.productId == p) (db.takenLines u) ∧
    sumWhere BillProduct.quantity (·.productId == p) (db.takenLines u) ≤ db.held u p := by
  have hquantity : ∀ l ∈ db.cartLines u db.bills.next, 0 ≤ l.quantity := by
    intro l hl
    obtain ⟨product, -, rfl⟩ := List.mem_map.mp hl
    exact Int.natCast_nonneg _
  have htaken : (db.takenLines u).Sublist (db.cartLines u db.bills.next) :=
    List.takeWhile_sublist _
  constructor
  · exact sumWhere_nonneg fun l hl _ => hquantity l (htaken.subset hl)
  · rw [Db.held, Db.length_activeCartsOf, ← h.units_cartLines db.bills.next p]
    exact sumWhere_le_of_sublist hquantity htaken

/-- The lines of earlier bills stay, and the new bill has the new ones. -/
theorem Db.unitsOnBill_stored {db db' : Db} {u : Id} (hlines : ∀ l ∈ db.billProducts.rows,
      l.billId < db.bills.next)
    (hstored : db'.billProducts = db.billProducts.insertAll (db.takenLines u)) (b p : Id) :
    db'.unitsOnBill b p = if b = db.bills.next then
        sumWhere BillProduct.quantity (·.productId == p) (db.takenLines u)
      else db.unitsOnBill b p :=
  Db.sumOnBill_stored (fun _ _ => rfl) (fun _ _ => rfl) hlines hstored b

theorem Db.WithinStock.checkout {db db' : Db} (h : db.WithinStock) {u : Id}
    (hpriced : db.CartPriced u) (hheld : db.NoMoreHeld db') {b : Bill}
    (hbills : db'.bills = db.bills.insert b)
    (hlines : db'.billProducts = db.billProducts.insertAll (db.takenLines u)) :
    db'.WithinStock := by
  constructor
  · intro p hp v
    rw [hheld.1] at hp
    exact (h.carts p hp v).le (Int.natCast_nonneg _) (by exact_mod_cast hheld.2 v p.id)
  · intro p hp billId
    rw [hheld.1] at hp
    rw [Db.unitsOnBill_stored h.lines hlines]
    split
    · obtain ⟨hnonneg, hle⟩ := hpriced.units_takenLines p.id
      exact (h.carts p hp u).le hnonneg hle
    · exact h.bills p hp billId
  · exact Db.lines_known_stored h.lines hbills hlines

section Requests

variable [Env]

/-! ## Requests and runs -/

theorem checkout_noMoreHeld (db : Db) (u : User) {c : CartsRoute} (hc : c.isCheckout = true) :
    db.NoMoreHeld (eval (c.action u) db).2 := by
  have honly : (c.action u).Only (fun w => w.closesCarts = true) := by
    cases c with
    | cash randomToken =>
      exact CartsController.cash_only (fun _ => rfl) u randomToken (fun _ => rfl) (fun _ => rfl) rfl
    | checkoutMomo m =>
      exact CartsController.checkoutMomo_only (fun _ => rfl) (fun _ => rfl) u m (fun _ => rfl)
        (fun _ => rfl) rfl
    | _ => cases hc
  refine Action.eval_inv (fun x => db.NoMoreHeld x) ?_ honly ⟨rfl, fun _ _ => Nat.le_refl _⟩
  intro w x x' hw hexec hx
  have hnext := exec_noMoreHeld hw hexec
  exact ⟨hnext.1.trans hx.1, fun v i => (hnext.2 v i).trans (hx.2 v i)⟩

theorem CartsRoute.withinStock {db : Db} (h : db.WithinStock) {u : User}
    (huser : (db.users.find? u.id).isSome = true) (c : CartsRoute) :
    (eval (c.action u) db).2.WithinStock := by
  cases hc : c.isCheckout with
  | true =>
    rcases checkout_cases huser hc with ⟨-, hsame⟩ | ⟨b, -, hpriced, -, hbills, hlines⟩
    · rw [hsame]
      exact h
    · exact h.checkout hpriced (checkout_noMoreHeld db u hc) hbills hlines
  | false =>
    cases c with
    | create p =>
      obtain ⟨i, n, hheld, hn⟩ := CartsController.create_fills db u p
      exact h.heldUpTo hheld hn
    | updateQuantity p quantity =>
      obtain ⟨i, n, hheld, hn⟩ := CartsController.updateQuantity_fills db u p quantity
      exact h.heldUpTo hheld hn
    | destroy i =>
      have hexec : exec (.deactivateCarts u.id (some i)) db =
          .ok (eval (CartsController.destroy u i) db).2 := rfl
      have hheld := exec_held_le hexec (.inr (.inr ⟨u.id, some i, rfl⟩)) u.id i
      exact h.heldUpTo hheld (by simp)
    | index =>
      have hreads : (CartsController.index u).Only Stmt.Reads :=
        CartsController.index_only (fun _ => rfl) u
      exact (eval_reads hreads db).symm ▸ h
    | checkout =>
      have hreads : (CartsController.checkout u).Only Stmt.Reads :=
        CartsController.checkout_only (fun _ => rfl) u
      exact (eval_reads hreads db).symm ▸ h
    | _ => cases hc

/-- A request to `CartsController`. -/
def Request.isCartRequest : Request → Bool
  | .user _ (.carts _) => true
  | _ => false

theorem step_withinStock {db : Db} (h : db.WithinStock) {r : Request}
    (hr : r.isCartRequest = true) : (step db r).WithinStock := by
  cases r with
  | «open» route => cases hr
  | user session route =>
    cases route with
    | carts c =>
      cases hsession : session.bind db.users.find? with
      | none =>
        rw [step_unauthenticated hsession]
        exact h
      | some u =>
        obtain ⟨i, rfl, hu⟩ := Option.bind_eq_some_iff.mp hsession
        rw [step_user hu]
        exact c.withinStock h (db.users.isSome_find?_self hu)
    | _ => cases hr

/-- **One bill never exceeds the stock.** After any run of cart requests of
any users, the units of a product on any one bill are at most the product's
quantity. -/
theorem one_bill_within_stock (db : Db) (rs : List Request) (h : db.WithinStock)
    (hrs : ∀ r ∈ rs, r.isCartRequest = true) :
    ∀ p ∈ (runFrom db rs).products.rows, ∀ billId,
      p.Covers ((runFrom db rs).unitsOnBill billId p.id) := by
  have hinv : (runFrom db rs).WithinStock := by
    unfold runFrom
    induction rs generalizing db with
    | nil => exact h
    | cons r rs ih =>
      apply ih (step db r) (step_withinStock h (hrs r List.mem_cons_self))
      intro r' hr'
      exact hrs r' (List.mem_cons_of_mem _ hr')
  exact hinv.bills

end Requests

/-- Two customers and a shop with one leash. -/
def lastLeash : Db where
  users := Table.empty.insertAll
    [{ email := "ann@pet.vn", roles := ["user"] }, { email := "bob@pet.vn", roles := ["user"] }]
  products := Table.empty.insertAll
    [{ name := some "Leash", price := some 120, quantity := some 1 }]

theorem lastLeash_withinStock : lastLeash.WithinStock := by
  constructor
  · intro p hp u
    exact .inl rfl
  · intro p hp b
    exact .inl rfl
  · intro l hl
    cases hl

/-- Each of them buys it. -/
def bothBuyTheLeash : List Request :=
  [.user (some 1) (.carts (.create (some { productId := some 1 }))),
    .user (some 2) (.carts (.create (some { productId := some 1 }))),
    .user (some 1) (.carts (.cash "7f")), .user (some 2) (.carts (.cash "8a"))]

theorem one_bill_within_stock_lastLeash :
    lastLeash.WithinStock ∧
    (@runFrom .caseInsensitive lastLeash bothBuyTheLeash).unitsOnBill 1 1 = 1 ∧
    ∀ p ∈ (@runFrom .caseInsensitive lastLeash bothBuyTheLeash).products.rows, ∀ billId,
      p.Covers ((@runFrom .caseInsensitive lastLeash bothBuyTheLeash).unitsOnBill billId p.id) :=
  ⟨lastLeash_withinStock, by decide,
    @one_bill_within_stock .caseInsensitive lastLeash bothBuyTheLeash lastLeash_withinStock
      (by decide)⟩

/-- One leash, sold twice. -/
theorem last_leash_sold_twice :
    (@runFrom .caseInsensitive lastLeash bothBuyTheLeash).products.rows.map Product.quantity =
      [some 1] ∧
    (@runFrom .caseInsensitive lastLeash bothBuyTheLeash).unitsBilled 1 = 2 := by
  refine ⟨by decide, by decide⟩

end PetParadise
