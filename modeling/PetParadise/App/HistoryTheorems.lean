/-
PetParadise.App.HistoryTheorems — the price on the order history.

A checkout freezes name, quantity and subtotal of a line, and the order
history shows them as they were; the price beside them is the product's
price of today. So a row multiplies out as long as nobody changes the price
of a product that has been sold, and no longer.

  §1 The page     — `Db.HistoryConsistent`, on the rows of the template.
  §2 Statements   — `exec_pricesKept`: all but two kinds of statement leave
                    the lines and the prices they are compared with alone.
  §3 Checkouts    — a new line is consistent (`takenLines_consistent`).
  §4 Updates      — `ProductsController.updated`: the row an update writes.
  §5 Whole runs   — `history_consistent_iff`, over every run.
-/
import PetParadise.App.LedgerTheorems
import PetParadise.App.Pages
import PetParadise.App.ReferenceTheorems

namespace PetParadise

open Store PetParadise.Action

/-! ## §1 The page -/

/-- Price shown times quantity shown is the subtotal shown; a missing price
is shown as nothing. -/
def HistoryLine.consistent (row : HistoryLine) : Bool :=
  row.product.price.map (· * row.line.quantity) == some row.line.totalAmount

/-- Every row of every order history is consistent. -/
def Db.HistoryConsistent (db : Db) : Prop :=
  ∀ l ∈ db.billProducts.rows, ∀ row, db.historyLine l = .ok row → row.consistent = true

/-- Every line is what the price of its product makes of its quantity. -/
def Db.LinesPriced (db : Db) : Prop :=
  ∀ l ∈ db.billProducts.rows, ∀ p ∈ db.products.rows, p.id = l.productId →
    p.price.map (· * l.quantity) = some l.totalAmount

/-- With the references intact every line has a row, with the line's own
product on it. -/
theorem Db.RefsIntact.historyLine {db : Db} (h : db.RefsIntact) {l : BillProduct}
    (hl : l ∈ db.billProducts.rows) {p : Product} (hp : p ∈ db.products.rows)
    (hid : p.id = l.productId) :
    ∃ bill : Bill, db.historyLine l = .ok ⟨l, p, bill.status, bill.isShipped⟩ := by
  obtain ⟨bill, hbill, hbillId⟩ := h.line_bill l hl
  have hproduct : db.products.find? l.productId = some p := hid ▸ db.products.find?_of_mem hp
  have hfound : db.bills.find? l.billId = some bill := hbillId ▸ db.bills.find?_of_mem hbill
  exact ⟨bill, by rw [Db.historyLine, hproduct, hfound]⟩

theorem Db.RefsIntact.historyConsistent_iff {db : Db} (h : db.RefsIntact) :
    db.HistoryConsistent ↔ db.LinesPriced := by
  constructor
  · intro hrows l hl p hp hid
    obtain ⟨bill, hrow⟩ := h.historyLine hl hp hid
    exact beq_iff_eq.mp (hrows l hl _ hrow)
  · intro hlines l hl row hrow
    unfold Db.historyLine at hrow
    split at hrow
    · next p bill hp hbill =>
      cases hrow
      exact beq_iff_eq.mpr
        (hlines l hl p (db.products.mem_of_find? hp) (db.products.id_of_find? hp))
    · cases hrow

/-! ## §2 Statements -/

/-- No line is new, and no product with a line has another price. -/
structure Db.PricesKept (db db' : Db) : Prop where
  lines : db'.billProducts.rows ⊆ db.billProducts.rows
  prices : ∀ l ∈ db'.billProducts.rows, ∀ p ∈ db'.products.rows, p.id = l.productId →
    ∃ q ∈ db.products.rows, q.id = p.id ∧ q.price = p.price

theorem Db.PricesKept.refl (db : Db) : db.PricesKept db :=
  ⟨List.Subset.refl _, fun _ _ p hp _ => ⟨p, hp, rfl, rfl⟩⟩

theorem Db.PricesKept.trans {a b c : Db} (hab : a.PricesKept b) (hbc : b.PricesKept c) :
    a.PricesKept c := by
  refine ⟨List.Subset.trans hbc.lines hab.lines, fun l hl p hp hid => ?_⟩
  obtain ⟨q, hq, hqid, hqprice⟩ := hbc.prices l hl p hp hid
  obtain ⟨q', hq', hqid', hqprice'⟩ := hab.prices l (hbc.lines hl) q hq (hqid.trans hid)
  exact ⟨q', hq', hqid'.trans hqid, hqprice'.trans hqprice⟩

theorem Db.LinesPriced.kept {db db' : Db} (h : db.LinesPriced) (hk : db.PricesKept db') :
    db'.LinesPriced := by
  intro l hl p hp hid
  obtain ⟨q, hq, hqid, hqprice⟩ := hk.prices l hl p hp hid
  rw [← hqprice]
  exact h l (hk.lines hl) q hq (hqid.trans hid)

/-- The statements that store a line or rewrite a product. -/
def Stmt.keepsHistory : Stmt → Bool
  | .insertBillProduct _ => false
  | .updateProduct _ => false
  | _ => true

theorem exec_pricesKept [Env] {w : Stmt} {db db' : Db} (hw : w.keepsHistory = true)
    (hrefs : db.RefsIntact) (h : exec w db = .ok db') : db.PricesKept db' := by
  cases hproducts : w.writes .products with
  | true =>
    cases w with
    | insertProduct p =>
      obtain rfl := exec_insertProduct_ok h
      refine ⟨List.Subset.refl _, fun l hl q hq hid => ?_⟩
      rcases List.mem_append.mp hq with hq | hq
      · exact ⟨q, hq, rfl, rfl⟩
      · -- the new product has a key that no line can have
        rw [List.mem_singleton] at hq
        obtain ⟨q', hq', hid'⟩ := hrefs.line_product l hl
        have hlt := db.products.fresh q' hq'
        rw [hid', ← hid, hq] at hlt
        exact absurd hlt (Nat.lt_irrefl _)
    | destroyProduct i =>
      cases h
      exact ⟨List.filter_subset_self _,
        fun l _ q hq _ => ⟨q, List.mem_of_mem_filter hq, rfl, rfl⟩⟩
    | updateProduct p => cases hw
    | _ => simp [Stmt.writes, Stmt.tables] at hproducts
  | false =>
    have hp : db'.products = db.products := exec_frame h hproducts
    refine ⟨?_, fun l _ q hq _ => ⟨q, hp ▸ hq, rfl, rfl⟩⟩
    cases hlines : w.writes .billProducts with
    | false =>
      have hl : db'.billProducts = db.billProducts := exec_frame h hlines
      rw [hl]
      exact List.Subset.refl _
    | true =>
      cases w with
      | destroyUser i =>
        obtain ⟨chat, -, rfl⟩ := Db.destroyUser_ok h
        exact List.filter_subset_self _
      | insertBillProduct l => cases hw
      | destroyProduct i => simp [Stmt.writes, Stmt.tables] at hproducts
      | _ => simp [Stmt.writes, Stmt.tables] at hlines

/-! ## §3 Checkouts -/

/-- The lines of a checkout are priced by the products it has loaded, and
each is of at least one item. -/
theorem takenLines_consistent {db : Db} {u : Id} (hpriced : db.CartPriced u) {l : BillProduct}
    (hl : l ∈ db.takenLines u) :
    0 < l.quantity ∧ ∀ p ∈ db.products.rows, p.id = l.productId →
      p.price.map (· * l.quantity) = some l.totalAmount := by
  obtain ⟨q, hq, rfl⟩ := List.mem_map.mp ((List.takeWhile_prefix _).subset hl)
  obtain ⟨hmem, hcart⟩ := Db.mem_cartProducts.mp hq
  refine ⟨Int.natCast_pos.mpr (List.count_pos_iff.mpr hcart), fun p hp hid => ?_⟩
  have hsame : p = q := db.products.eq_of_id_eq hp hmem hid
  rw [hsame, hpriced.price hq]
  rfl

/-- The lines of a database are of at least one item each. -/
def Db.LinesPositive (db : Db) : Prop := ∀ l ∈ db.billProducts.rows, 0 < l.quantity

theorem Db.LinesPositive.kept {db db' : Db} (h : db.LinesPositive) (hk : db.PricesKept db') :
    db'.LinesPositive := fun l hl => h l (hk.lines hl)

theorem Db.Stored.linesPositive {db db' : Db} {u : Id} {b : Bill} (hpriced : db.CartPriced u)
    (h : db.Stored u (some b) db') (hpos : db.LinesPositive) : db'.LinesPositive := by
  intro l hl
  rw [h.2] at hl
  rcases Table.mem_rows_insertAll hl with hl | ⟨i, l', hl', rfl⟩
  · exact hpos l hl
  · exact (takenLines_consistent hpriced hl').1

theorem Db.Stored.linesPriced {db db' : Db} {u : Id} {b : Bill} (hpriced : db.CartPriced u)
    (h : db.Stored u (some b) db') (hproducts : db'.products = db.products)
    (hlines : db.LinesPriced) : db'.LinesPriced := by
  intro l hl p hp hid
  rw [h.2] at hl
  rw [hproducts] at hp
  rcases Table.mem_rows_insertAll hl with hl | ⟨i, l', hl', rfl⟩
  · exact hlines l hl p hp hid
  · exact (takenLines_consistent hpriced hl').2 p hp hid

/-! ## §4 Updates -/

/-- The row a product update writes: staff only, the product is stored, its
category exists, and its numbers and its name fit their columns. -/
def ProductsController.updated (db : Db) (u : User) (i : Id) (p : ProductParams) :
    Option Product :=
  if Ability.can u .product then
    match db.products.find? i with
    | none => none
    | some product =>
        match p.category.assign product.category with
        | .error _ => none
        | .ok category =>
            let product := product.assign p category
            if (inRange fitsDecimal product.price && inRange fitsInteger product.quantity) &&
                fitsString product.name then
              some product
            else none
  else none

theorem productsUpdate_eval [Env] (db : Db) (u : User) (i : Id) (p : ProductParams) :
    (eval (ProductsController.update u i p) db).2 =
      match ProductsController.updated db u i p with
      | none => db
      | some product => { db with products := db.products.replace product } := by
  unfold ProductsController.update ProductsController.updated authorize
    ProductsController.setProduct
  cases Ability.can u .product with
  | false => rfl
  | true =>
    cases hfound : db.products.find? i with
    | none => simp [hfound]
    | some product =>
      simp only [if_true, pure_bind, bind_assoc, eval_select_bind, hfound, Prog.orRaise_some,
        Prog.ret_bind]
      cases p.category.assign product.category with
      | error e => rfl
      | ok category =>
        simp only [Prog.ofExcept_ok, Prog.ret_bind]
        cases hfits : inRange fitsDecimal (product.assign p category).price &&
            inRange fitsInteger (product.assign p category).quantity with
        | false =>
          rw [eval_perform_error (w := .updateProduct _) (if_neg (Bool.eq_false_iff.mp hfits))]
          rfl
        | true =>
          cases hname : fitsString (product.assign p category).name with
          | false =>
            rw [eval_perform_error (w := .updateProduct _)
              ((if_pos hfits).trans (if_neg (Bool.eq_false_iff.mp hname)))]
            rfl
          | true =>
            rw [eval_perform_ok (w := .updateProduct _) ((if_pos hfits).trans (if_pos hname))]
            rfl

/-- It is a row that is stored. -/
theorem ProductsController.find?_of_updated {db : Db} {u : User} {i : Id} {p : ProductParams}
    {product : Product} (h : updated db u i p = some product) :
    ∃ old, db.products.find? product.id = some old := by
  unfold updated at h
  split at h
  · split at h
    · cases h
    · next old hold =>
      split at h
      · cases h
      · dsimp only at h
        split at h
        · cases h
          exact ⟨old, db.products.find?_self hold⟩
        · cases h
  · cases h

theorem eq_of_map_mul_eq {x y : Option Int} {q n : Int} (hq : 0 < q)
    (hx : x.map (· * q) = some n) (hy : y.map (· * q) = some n) : x = y := by
  obtain ⟨a, rfl, ha⟩ := Option.map_eq_some_iff.mp hx
  obtain ⟨b, rfl, hb⟩ := Option.map_eq_some_iff.mp hy
  rw [Int.eq_of_mul_eq_mul_right (Int.ne_of_gt hq) (ha.trans hb.symm)]

/-- After an update the lines are priced exactly if no line is of the
product or the price is the old one. -/
theorem Db.LinesPriced.replace_iff {db : Db} (h : db.LinesPriced) (hpos : db.LinesPositive)
    {product : Product} (hstored : ∃ old, db.products.find? product.id = some old) :
    { db with products := db.products.replace product }.LinesPriced ↔
      ∀ l ∈ db.billProducts.rows, l.productId = product.id →
        (db.products.find? product.id).map Product.price = some product.price := by
  obtain ⟨old, hold⟩ := hstored
  have hmem := db.products.mem_of_find? hold
  have hid : old.id = product.id := db.products.id_of_find? hold
  constructor
  · intro hnew l hl hproduct
    have hrow : product ∈ (db.products.replace product).rows :=
      Table.mem_rows_replace.mpr (.inr ⟨rfl, old, hmem, hid⟩)
    rw [hold, Option.map_some, Option.some.injEq]
    exact eq_of_map_mul_eq (hpos l hl) (h l hl old hmem (hid.trans hproduct.symm))
      (hnew l hl product hrow hproduct.symm)
  · intro hsame l hl p hp hlp
    rcases Table.mem_rows_replace.mp hp with ⟨hp, -⟩ | ⟨rfl, -⟩
    · exact h l hl p hp hlp
    · have hlp' : l.productId = product.id := hlp.symm
      have hprice := hsame l hl hlp'
      rw [hold, Option.map_some, Option.some.injEq] at hprice
      change product.price.map (· * l.quantity) = some l.totalAmount
      rw [← hprice]
      exact h l hl old hmem (hid.trans hlp'.symm)

/-! ## §5 Whole runs -/

theorem ProductsRoute.only_keepsHistory (u : User) {r : ProductsRoute}
    (h : ∀ i p, r ≠ .update i p) : (r.action u).Only (fun w => w.keepsHistory = true) := by
  cases r with
  | update i p => exact absurd rfl (h i p)
  | _ =>
    cases hcan : Ability.can u .product <;>
      simp [action, ProductsController.index, ProductsController.show, ProductsController.new,
        ProductsController.create, ProductsController.destroy, ProductsController.setProduct,
        authorize, hcan, Stmt.keepsHistory]

theorem Route.keepsHistory_of_issues {u : User} {route : Route} {w : Stmt}
    (h : route.Issues u w) (hcarts : ∀ c, route = .carts c → c.isCheckout = false)
    (hproducts : ∀ p, route ≠ .products p) : w.keepsHistory = true := by
  cases w <;> first
    | rfl
    | (cases route <;> first
        | cases h
        | exact absurd rfl (hproducts _)
        | (have hno := hcarts _ rfl; rw [show _ = true from h] at hno; cases hno))

theorem eval_pricesKept [Env] {α : Type} {db : Db} (hrefs : db.RefsIntact) {p : Action α}
    (hp : p.Only (fun w => w.keepsHistory = true)) : db.PricesKept (p.eval db).2 := by
  have hinv := Action.eval_inv (fun x => x.RefsIntact ∧ db.PricesKept x)
    (fun w x x' hw hx hi => ⟨exec_refsIntact hx hi.1, hi.2.trans (exec_pricesKept hw hi.1 hx)⟩)
    hp ⟨hrefs, .refl db⟩
  exact hinv.2

section Runs

variable [Env]

/-- The product row a request rewrites. -/
def Request.updatedProduct (db : Db) : Request → Option Product
  | .user session (.products (.update i p)) =>
      (session.bind db.users.find?).bind fun u => ProductsController.updated db u i p
  | _ => none

/-- The request does not change the price of a product that is on a bill. -/
def Request.KeepsSoldPrices (db : Db) (r : Request) : Prop :=
  ∀ product ∈ r.updatedProduct db, ∀ l ∈ db.billProducts.rows, l.productId = product.id →
    (db.products.find? product.id).map Product.price = some product.price

instance (db : Db) (r : Request) : Decidable (r.KeepsSoldPrices db) :=
  inferInstanceAs (Decidable (∀ product ∈ r.updatedProduct db, ∀ l ∈ db.billProducts.rows,
    l.productId = product.id →
      (db.products.find? product.id).map Product.price = some product.price))

theorem step_pricesKept {db : Db} (hrefs : db.RefsIntact) {r : Request}
    (hr : ∀ w, r.Issues db w → w.keepsHistory = true) : db.PricesKept (step db r) := by
  have hinv := step_inv (fun x => x.RefsIntact ∧ db.PricesKept x)
    (fun w x x' hw hx hi => ⟨exec_refsIntact hx hi.1,
      hi.2.trans (exec_pricesKept (hr w hw) hi.1 hx)⟩) ⟨hrefs, .refl db⟩
  exact hinv.2

/-- The statements of a cart page leave users and products alone. -/
theorem CartsRoute.eval_frame {db : Db} {u : User} (c : CartsRoute) :
    (eval (c.action u) db).2.users = db.users ∧
      (eval (c.action u) db).2.products = db.products := by
  refine Action.eval_inv (fun x => x.users = db.users ∧ x.products = db.products)
    (fun w x x' hw hx h => ?_) (c.action_only u) ⟨rfl, rfl⟩
  have hwrites : w.writes .users = false ∧ w.writes .products = false := by
    cases w <;> first | exact ⟨rfl, rfl⟩ | cases hw
  have husers : x'.users = x.users := exec_frame hx hwrites.1
  have hproducts : x'.products = x.products := exec_frame hx hwrites.2
  exact ⟨husers.trans h.1, hproducts.trans h.2⟩

/-- A cart page keeps lines and prices, or is a checkout that stores a bill. -/
theorem step_history_carts {db : Db} (hrefs : db.RefsIntact) {i : Id} {u : User}
    (hu : db.users.find? i = some u) (c : CartsRoute) :
    db.PricesKept (step db (.user (some i) (.carts c))) ∨
    ∃ b, db.CartPriced u.id ∧ db.Stored u.id (some b) (step db (.user (some i) (.carts c))) ∧
      (step db (.user (some i) (.carts c))).products = db.products := by
  cases hc : c.isCheckout with
  | false =>
    refine .inl (step_pricesKept hrefs ?_)
    rintro w ⟨v, -, hw⟩
    exact Route.keepsHistory_of_issues hw (by rintro _ ⟨⟩; exact hc) (by simp)
  | true =>
    have hstep : step db (.user (some i) (.carts c)) = (eval (c.action u) db).2 := step_user hu _
    rw [hstep]
    rcases checkout_cases (db.users.isSome_find?_self hu) hc with
      ⟨-, hsame⟩ | ⟨b, -, hpriced, -, hstored⟩
    · rw [hsame]
      exact .inl (.refl db)
    · exact .inr ⟨b, hpriced, hstored, c.eval_frame.2⟩

/-- A product page keeps lines and prices, or rewrites one product. -/
theorem step_history_products {db : Db} (hrefs : db.RefsIntact) {i : Id} {u : User}
    (hu : db.users.find? i = some u) (route : ProductsRoute) :
    (Request.updatedProduct db (.user (some i) (.products route)) = none ∧
      db.PricesKept (step db (.user (some i) (.products route)))) ∨
    ∃ product, Request.updatedProduct db (.user (some i) (.products route)) = some product ∧
      (∃ old, db.products.find? product.id = some old) ∧
      step db (.user (some i) (.products route)) =
        { db with products := db.products.replace product } := by
  have hstep : step db (.user (some i) (.products route)) = (eval (route.action u) db).2 :=
    step_user hu _
  rw [hstep]
  cases route with
  | update j p =>
    have hrow : Request.updatedProduct db (.user (some i) (.products (.update j p))) =
        ProductsController.updated db u j p := by
      simp [Request.updatedProduct, hu]
    have heval := productsUpdate_eval db u j p
    rw [hrow]
    cases hupdated : ProductsController.updated db u j p with
    | none =>
      rw [hupdated] at heval
      exact .inl ⟨rfl, by rw [ProductsRoute.action, heval]; exact .refl db⟩
    | some product =>
      rw [hupdated] at heval
      exact .inr ⟨product, rfl, ProductsController.find?_of_updated hupdated, heval⟩
  | _ =>
    exact .inl ⟨rfl, eval_pricesKept hrefs (ProductsRoute.only_keepsHistory u (by simp))⟩

/-- A request keeps lines and prices, or is a checkout that stores a bill,
or rewrites one product. -/
theorem step_history (db : Db) (hrefs : db.RefsIntact) (r : Request) :
    (r.updatedProduct db = none ∧ db.PricesKept (step db r)) ∨
    (r.updatedProduct db = none ∧ ∃ u b, db.CartPriced u ∧ db.Stored u (some b) (step db r) ∧
      (step db r).products = db.products) ∨
    ∃ product, r.updatedProduct db = some product ∧
      (∃ old, db.products.find? product.id = some old) ∧
      step db r = { db with products := db.products.replace product } := by
  cases r with
  | «open» route =>
    refine .inl ⟨rfl, step_pricesKept hrefs fun w hw => ?_⟩
    cases w <;> first | rfl | (cases route <;> cases hw)
  | user session route =>
    cases hs : session.bind db.users.find? with
    | none =>
      refine .inl ⟨?_, by rw [step_unauthenticated hs]; exact .refl db⟩
      cases route with
      | products p => cases p <;> simp [Request.updatedProduct, hs]
      | _ => rfl
    | some u =>
      obtain ⟨i, rfl, hu⟩ := Option.bind_eq_some_iff.mp hs
      cases route with
      | carts c =>
        rcases step_history_carts hrefs hu c with hkept | ⟨b, hbill⟩
        · exact .inl ⟨rfl, hkept⟩
        · exact .inr (.inl ⟨rfl, u.id, b, hbill⟩)
      | products route =>
        rcases step_history_products hrefs hu route with hkept | hproduct
        · exact .inl hkept
        · exact .inr (.inr hproduct)
      | _ =>
        refine .inl ⟨rfl, step_pricesKept hrefs ?_⟩
        rintro w ⟨v, -, hw⟩
        exact Route.keepsHistory_of_issues hw (by simp) (by simp)

theorem step_linesPositive {db : Db} (hrefs : db.RefsIntact) (hpos : db.LinesPositive)
    (r : Request) : (step db r).LinesPositive := by
  rcases step_history db hrefs r with ⟨-, hkept⟩ | ⟨-, u, b, hpriced, hstored, -⟩ |
    ⟨product, -, -, hstep⟩
  · exact hpos.kept hkept
  · exact hstored.linesPositive hpriced hpos
  · rw [hstep]
    exact hpos

theorem step_linesPriced_iff {db : Db} (hrefs : db.RefsIntact) (hpos : db.LinesPositive)
    (hlines : db.LinesPriced) (r : Request) :
    (step db r).LinesPriced ↔ r.KeepsSoldPrices db := by
  rcases step_history db hrefs r with ⟨hnone, hkept⟩ |
    ⟨hnone, u, b, hpriced, hstored, hproducts⟩ | ⟨product, hsome, hold, hstep⟩
  · exact iff_of_true (hlines.kept hkept) (by simp [Request.KeepsSoldPrices, hnone])
  · exact iff_of_true (hstored.linesPriced hpriced hproducts hlines)
      (by simp [Request.KeepsSoldPrices, hnone])
  · rw [hstep, hlines.replace_iff hpos hold]
    simp [Request.KeepsSoldPrices, hsome]

end Runs

theorem staffedShop_history :
    staffedShop.RefsIntact ∧ staffedShop.LinesPositive ∧ staffedShop.HistoryConsistent :=
  ⟨by constructor <;> decide, fun _ hl => absurd hl List.not_mem_nil,
    fun _ hl => absurd hl List.not_mem_nil⟩

/-- The customer pays cash, more leashes come in, and the bowl, which is on
the bill too, keeps its price in a change of its name. -/
def restockedLeash : List Request :=
  [.user (some 2) (.carts (.cash "7f")),
    .user (some 1) (.products (.update 1 { quantity := some (some 30) })),
    .user (some 1) (.products (.update 2
      { name := some (some "Blue bowl"), price := some (some 50) }))]

/-- The customer pays cash, and then the leash becomes dearer. -/
def dearerLeash : List Request :=
  [.user (some 2) (.carts (.cash "7f")),
    .user (some 1) (.products (.update 1 { price := some (some 150) }))]

end PetParadise
