/-
PetParadise.App.CartLimitTheorems — nobody has more of a product in the
cart than there is.

`create` refuses at `>=` before it adds one row, `update_quantity` at `>`
before it adds several, and both leave at most the product's quantity
(`CartsRoute.held_le`). Every other statement of the application can only
take active rows away. So along a run of requests of any kind, one at a
time, the limit holds in every state if it holds in the first, as long as
no product's quantity is lowered under what is in the carts.

Requests that end in an error are steps like all others: what they have
written stays.
-/
import PetParadise.App.ReferenceTheorems
import PetParadise.App.StockTheorems

namespace PetParadise

open Store PetParadise.Action

/-! ## The limit -/

/-- The number of active rows a user may have of a product: none where the
quantity is negative or NULL. -/
def Product.limit (p : Product) : Int := max 0 (p.quantity.getD 0)

/-- What every state of such a run satisfies; that carts name stored
products is what keeps a new product out of all carts. -/
structure Db.WithinLimit (db : Db) : Prop where
  refs : db.RefsIntact
  held : ∀ p ∈ db.products.rows, ∀ u, (db.held u p.id : Int) ≤ p.limit

/-- No product's quantity is lowered, as far as carts can tell. -/
def ProductsNotLowered (db db' : Db) : Prop :=
  ∀ p' ∈ db'.products.rows, ∀ p ∈ db.products.rows, p.id = p'.id → p.limit ≤ p'.limit

instance (db db' : Db) : Decidable (ProductsNotLowered db db') :=
  inferInstanceAs (Decidable (∀ p' ∈ db'.products.rows, _))

/-! ## One request -/

theorem Db.held_eq_zero {db : Db} {i : Id} (h : ∀ c ∈ db.carts.rows, c.productId ≠ i) (u : Id) :
    db.held u i = 0 := by
  rw [Db.held_eq_countP, List.countP_eq_zero]
  intro c hc
  simp [Cart.counts, h c hc]

/-- A product key is never handed out twice. -/
theorem exec_products_kept [Env] {w : Stmt} {db db' : Db} (h : exec w db = .ok db') :
    Table.Kept (fun _ => ()) db.products db'.products := by
  cases hwrites : w.writes .products with
  | false =>
    have hsame : db'.products = db.products := exec_frame h hwrites
    rw [hsame]
    exact .refl _ _
  | true =>
    cases w with
    | insertProduct p =>
      obtain rfl := exec_insertProduct_ok h
      exact .insert _ _ _
    | updateProduct p =>
      obtain rfl := exec_updateProduct_ok h
      exact .replace _ _
    | destroyProduct i => cases h; exact .delete _ _ _
    | _ => simp [Stmt.writes, Stmt.tables] at hwrites

/-- Rows come by a cart request only. -/
theorem Request.isCartRequest_of_insertCart {db : Db} {r : Request} {u i : Id}
    (h : r.Issues db (.insertCart u i)) : r.isCartRequest = true := by
  cases r with
  | user session route =>
    obtain ⟨v, -, h⟩ := h
    cases route with
    | carts c => rfl
    | bookings b => cases b <;> cases h
    | _ => cases h
  | «open» route => cases route <;> cases h

/-- What `create` and `update_quantity` leave somebody of a product: no more
than before, or no more than there is. -/
theorem CartsController.FillsCart.held_le {db db' : Db} {u : Id} (h : FillsCart db u db')
    (v i : Id) : db'.held v i ≤ db.held v i ∨
      ∃ p ∈ db.products.rows, p.id = i ∧ (db'.held v i : Int) ≤ p.limit := by
  obtain ⟨j, n, hheld, hn⟩ := h
  have hle := hheld.held v i
  by_cases hnew : (v = u ∧ i = j) ∧ 0 < n
  · obtain ⟨⟨rfl, rfl⟩, hpos⟩ := hnew
    obtain ⟨product, hfind, q, hq, hfits⟩ := hn hpos
    refine .inr ⟨product, db.products.mem_of_find? hfind, db.products.id_of_find? hfind, ?_⟩
    rw [if_pos ⟨rfl, rfl⟩] at hle
    rw [Product.limit, Option.mem_def.mp hq, Option.getD_some]
    omega
  · left
    split at hle
    · rename_i hvi
      have hzero : ¬ 0 < n := fun hpos => hnew ⟨hvi, hpos⟩
      omega
    · omega

section Requests

variable [Env]

/-- The same for every action of `CartsController`. -/
theorem CartsRoute.held_le (db : Db) (u : User) (c : CartsRoute) (v i : Id) :
    (eval (c.action u) db).2.held v i ≤ db.held v i ∨
    ∃ p ∈ db.products.rows, p.id = i ∧ ((eval (c.action u) db).2.held v i : Int) ≤ p.limit := by
  have hreads : (c.action u).Only Stmt.Reads → (eval (c.action u) db).2.held v i ≤ db.held v i := by
    intro h
    rw [eval_reads h]
  cases c with
  | create p => exact (CartsController.create_fills db u p).held_le v i
  | updateQuantity p quantity =>
    exact (CartsController.updateQuantity_fills db u p quantity).held_le v i
  | cash randomToken => exact .inl ((checkout_noMoreHeld db u (c := .cash randomToken) rfl).2 v i)
  | checkoutMomo m => exact .inl ((checkout_noMoreHeld db u (c := .checkoutMomo m) rfl).2 v i)
  | destroy p =>
    left
    have hexec : exec (.deactivateCarts u.id (some p)) db =
        .ok (eval (CartsController.destroy u p) db).2 := rfl
    exact exec_held_mono hexec (by simp) v i
  | index => exact .inl (hreads (CartsController.index_only (fun _ => rfl) u))
  | checkout => exact .inl (hreads (CartsController.checkout_only (fun _ => rfl) u))

/-- And for every request of the application. -/
theorem step_held_le (db : Db) (r : Request) (v i : Id) :
    (step db r).held v i ≤ db.held v i ∨
    ∃ p ∈ db.products.rows, p.id = i ∧ ((step db r).held v i : Int) ≤ p.limit := by
  by_cases hr : r.isCartRequest = true
  · rcases step_cases db r with ⟨j, u, route, rfl, -, hs⟩ | hs | ⟨route, rfl, -⟩
    · rw [hs]
      cases route with
      | carts c => exact c.held_le db u v i
      | _ => cases hr
    · rw [hs]
      exact .inl (Nat.le_refl _)
    · cases hr
  · left
    refine step_inv (fun x => x.held v i ≤ db.held v i) ?_ (Nat.le_refl _)
    intro w x x' hw hexec hx
    refine (exec_held_mono hexec ?_ v i).trans hx
    rintro u p rfl
    exact hr (Request.isCartRequest_of_insertCart hw)

theorem step_withinLimit {db : Db} {r : Request} (h : db.WithinLimit)
    (hr : ProductsNotLowered db (step db r)) : (step db r).WithinLimit := by
  refine ⟨step_refsIntact h.refs r, ?_⟩
  intro p' hp' u
  have hkept : Table.Kept (fun _ => ()) db.products (step db r).products :=
    step_inv (fun x => Table.Kept (fun _ => ()) db.products x.products)
      (fun w x x' _ hexec hx => hx.trans (exec_products_kept hexec)) (.refl _ _)
  by_cases hold : p'.id < db.products.next
  · -- a product that was there before
    obtain ⟨p, hp, hid, -⟩ := hkept.kept p' hp' hold
    have hid' : p.id = p'.id := hid
    have hlimit := hr p' hp' p hp hid'
    have hbefore := h.held p hp u
    rcases step_held_le db r u p'.id with hle | ⟨q, hq, hqid, hle⟩
    · rw [hid'] at hbefore
      omega
    · have hsame : q = p := db.products.eq_of_id_eq hq hp (hqid.trans hid'.symm)
      rw [hsame] at hle
      omega
  · -- a new product, which no cart can name yet
    have hnone : db.held u p'.id = 0 := by
      refine db.held_eq_zero (fun c hc hid => ?_) u
      obtain ⟨p, hp, hpid⟩ := h.refs.cart_product c hc
      exact hold (hid ▸ hpid ▸ db.products.fresh p hp)
    have hlimit : 0 ≤ p'.limit := le_max_left _ _
    rcases step_held_le db r u p'.id with hle | ⟨q, hq, hqid, -⟩
    · omega
    · exact absurd (hqid ▸ db.products.fresh q hq) hold

/-- **Cart limit.** From any state with intact references and carts within
the limit (an empty shop, say), along every run of requests of any users in
which no product's quantity is lowered, requests that end in an error
included: each user has at most the product's quantity of active rows of
each product, and none where that is negative. -/
theorem cart_limit_over_runs (db : Db) (rs : List Request) (hstart : db.WithinLimit)
    (h : Along step (fun db r => ProductsNotLowered db (step db r)) db rs) :
    ∀ p ∈ (runFrom db rs).products.rows, ∀ u,
      ((runFrom db rs).held u p.id : Int) ≤ max 0 (p.quantity.getD 0) :=
  (Along.foldl_inv Db.WithinLimit (fun _ _ => step_withinLimit) hstart h).held

end Requests

/-- A shop with two leashes, an administrator and a customer. -/
def leashShop : Db where
  users := Table.empty.insertAll
    [{ email := "boss@pet.vn", roles := ["admin"] }, { email := "ann@pet.vn" }]
  products := Table.empty.insertAll
    [{ name := some "Leash", price := some 120, quantity := some 2 }]

/-- Three leashes asked for one by one, more leashes in stock, five asked
for at once, a negative number, and a checkout. -/
def leashShopRun : List Request :=
  [.user (some 2) (.carts (.create (some { productId := some 1 }))),
    .user (some 2) (.carts (.create (some { productId := some 1 }))),
    .user (some 2) (.carts (.create (some { productId := some 1 }))),
    .user (some 1) (.products (.update 1 { quantity := some (some 5) })),
    .user (some 2) (.carts (.updateQuantity (some { productId := some 1 }) (some "5"))),
    .user (some 2) (.carts (.updateQuantity (some { productId := some 1 }) (some "-1"))),
    .user (some 2) (.carts (.cash "7f"))]

theorem cart_limit_over_leashShopRun :
    (@runFrom .caseInsensitive leashShop (leashShopRun.take 5)).held 2 1 = 5 ∧
    ∀ p ∈ (@runFrom .caseInsensitive leashShop leashShopRun).products.rows, ∀ u,
      ((@runFrom .caseInsensitive leashShop leashShopRun).held u p.id : Int) ≤
        max 0 (p.quantity.getD 0) := by
  have hstart : leashShop.WithinLimit := by
    refine ⟨⟨by decide, by decide, by decide, by decide, by decide, by decide, by decide,
      by decide⟩, ?_⟩
    intro p _ u
    exact le_max_left 0 _
  exact ⟨by decide, @cart_limit_over_runs .caseInsensitive leashShop leashShopRun hstart
    (by decide)⟩

end PetParadise
