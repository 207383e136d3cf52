/-
PetParadise.App.OwnRows — the rows of one user, and two databases that
agree on them.

A page of a customer should depend on the catalogue and on the customer's
own rows only. `SameShop` says that two databases agree on what the shop
may use of user `u`: the products, `u`'s account, carts, bills and lines;
`SameView` adds the rooms and `u`'s bookings and chats. Anything else may
differ. Each query of an action or a template that keeps to those rows has
a lemma here which says that it gives the same in both.
-/
import PetParadise.Store.Lists
import PetParadise.App.Pages
import PetParadise.Shop.CheckoutTheorems

namespace PetParadise

open Store PetParadise.Action

/-! ## Rows of a user -/

def Db.cartsOf (db : Db) (i : Id) : List Cart := db.carts.rows.filter (·.userId == i)

def Db.billsOf (db : Db) (i : Id) : List Bill := db.bills.rows.filter (·.userId == i)

/-- The lines of the user's bills. -/
def Db.linesOf (db : Db) (i : Id) : List BillProduct :=
  db.billProducts.rows.filter (db.lineOfUser i)

def Db.bookingsOf (db : Db) (i : Id) : List Booking := db.bookings.rows.filter (·.userId == i)

/-- The message is in a chat of the user. -/
def Db.messageToUser (db : Db) (i : Id) (m : ChatMessage) : Bool :=
  (db.chats.find? m.chatId).any (·.senderId == some i)

/-- The messages in the user's chats, whoever wrote them. -/
def Db.messagesOfUser (db : Db) (i : Id) : List ChatMessage :=
  db.chatMessages.rows.filter (db.messageToUser i)

/-- The two databases agree on the products and on what user `u` has in the
shop. -/
structure SameShop (u : User) (db₁ db₂ : Db) : Prop where
  user₁ : db₁.users.find? u.id = some u
  user₂ : db₂.users.find? u.id = some u
  products : db₁.products.rows = db₂.products.rows
  carts : db₁.cartsOf u.id = db₂.cartsOf u.id
  bills : db₁.billsOf u.id = db₂.billsOf u.id
  lines : db₁.linesOf u.id = db₂.linesOf u.id

/-- They also agree on the rooms and on `u`'s bookings and chats. -/
structure SameView (u : User) (db₁ db₂ : Db) : Prop extends SameShop u db₁ db₂ where
  rooms : db₁.rooms.rows = db₂.rooms.rows
  bookings : db₁.bookingsOf u.id = db₂.bookingsOf u.id
  chats : db₁.chatsOf (some u.id) = db₂.chatsOf (some u.id)
  messages : db₁.messagesOfUser u.id = db₂.messagesOfUser u.id

/-! ## The shop -/

section Shop

variable {u : User} {db₁ db₂ : Db}

theorem Db.activeCarts_eq (db : Db) (i : Id) :
    db.activeCarts i = (db.cartsOf i).filter (·.status == .active) := by
  rw [Db.activeCarts, Db.cartsOf, List.filter_filter]
  apply List.filter_congr
  intro c _
  exact Bool.and_comm _ _

namespace SameShop

theorem find_product (h : SameShop u db₁ db₂) (i : Id) :
    db₁.products.find? i = db₂.products.find? i := by
  rw [Table.find?, Table.find?, h.products]

theorem activeCarts (h : SameShop u db₁ db₂) : db₁.activeCarts u.id = db₂.activeCarts u.id := by
  rw [Db.activeCarts_eq, Db.activeCarts_eq, h.carts]

theorem activeCartsOf (h : SameShop u db₁ db₂) (i : Id) :
    db₁.activeCartsOf u.id i = db₂.activeCartsOf u.id i := by
  rw [Db.activeCartsOf, Db.activeCartsOf, h.activeCarts]

theorem groupedCount (h : SameShop u db₁ db₂) :
    db₁.groupedCount u.id = db₂.groupedCount u.id := by
  rw [Db.groupedCount, Db.groupedCount, h.activeCarts]

theorem productsIn (h : SameShop u db₁ db₂) (ids : List Id) :
    db₁.productsIn ids = db₂.productsIn ids := by
  rw [Db.productsIn, Db.productsIn, h.products]

theorem rowPrice (h : SameShop u db₁ db₂) (c : Cart) : db₁.rowPrice c = db₂.rowPrice c := by
  rw [Db.rowPrice, Db.rowPrice, h.find_product]

theorem addPrices (h : SameShop u db₁ db₂) (n : Int) (cs : List Cart) :
    db₁.addPrices n cs = db₂.addPrices n cs := by
  induction cs generalizing n with
  | nil => rfl
  | cons c cs ih =>
    rw [Db.addPrices, Db.addPrices, h.rowPrice]
    cases db₂.rowPrice c with
    | error e => rfl
    | ok m => exact ih (n + m)

theorem subtotalOf (h : SameShop u db₁ db₂) (p : Product) :
    db₁.subtotalOf u p = db₂.subtotalOf u p := by
  rw [Db.subtotalOf, Db.subtotalOf, Db.subtotal, Db.subtotal, h.activeCartsOf]

theorem cartRow (h : SameShop u db₁ db₂) (p : Product) : db₁.cartRow u p = db₂.cartRow u p := by
  rw [Db.cartRow, Db.cartRow, h.subtotalOf, h.activeCartsOf]

theorem summaryRow (h : SameShop u db₁ db₂) (p : Product) :
    db₁.summaryRow u p = db₂.summaryRow u p := by
  rw [Db.summaryRow, Db.summaryRow, h.activeCartsOf]

end SameShop

/-- The lines of one of the user's bills are lines of the user. -/
theorem Db.billLines_eq {db : Db} {i : Id} {b : Bill} (hb : b ∈ db.billsOf i) :
    db.billLines b.id = (db.linesOf i).filter (·.billId == b.id) := by
  obtain ⟨hrow, hown⟩ := List.mem_filter.mp hb
  rw [Db.billLines, Db.linesOf, List.filter_filter]
  apply List.filter_congr
  intro l _
  by_cases hl : l.billId = b.id
  · have hfind : db.bills.find? l.billId = some b := by
      rw [hl]
      exact db.bills.find?_of_mem hrow
    simp [Db.lineOfUser, hfind, hown]
  · simp [hl]

namespace SameShop

theorem billLines (h : SameShop u db₁ db₂) {b : Bill} (hb : b ∈ db₁.billsOf u.id) :
    db₁.billLines b.id = db₂.billLines b.id := by
  rw [Db.billLines_eq hb, Db.billLines_eq (h.bills ▸ hb), h.lines]

theorem historyRow (h : SameShop u db₁ db₂) {b : Bill} (hb : b ∈ db₁.billsOf u.id) :
    db₁.historyRow b = db₂.historyRow b := by
  rw [Db.historyRow, Db.historyRow, h.billLines hb]

theorem historyLine (h : SameShop u db₁ db₂) {b : Bill} (hb : b ∈ db₁.billsOf u.id)
    {l : BillProduct} (hl : l.billId = b.id) : db₁.historyLine l = db₂.historyLine l := by
  have hfind : ∀ db : Db, b ∈ db.billsOf u.id → db.bills.find? l.billId = some b := by
    intro db hb
    rw [hl]
    exact db.bills.find?_of_mem (List.mem_of_mem_filter hb)
  rw [Db.historyLine, Db.historyLine, h.find_product, hfind db₁ hb, hfind db₂ (h.bills ▸ hb)]

end SameShop

end Shop

/-! ## The pages of the shop -/

namespace CartsController

theorem total_eval [Env] (db : Db) (u : User) :
    (total u).eval db = (db.addPrices 0 (db.activeCarts u.id), db) := by
  unfold total
  rw [eval_select_bind]
  cases db.addPrices 0 (db.activeCarts u.id) <;> rfl

/-- What follows `total` runs on the sum, in the same database. -/
theorem total_bind_eval [Env] {α : Type} (db : Db) (u : User) (f : Int → Action α) :
    (total u >>= f).eval db =
      match db.addPrices 0 (db.activeCarts u.id) with
      | .ok n => (f n).eval db
      | .error e => (.error e, db) := by
  have htotal := total_eval db u
  cases hsum : db.addPrices 0 (db.activeCarts u.id) with
  | error e =>
    rw [hsum] at htotal
    exact eval_bind_error htotal f
  | ok n =>
    rw [hsum] at htotal
    exact eval_bind_ok htotal f

theorem index_eval [Env] (db : Db) (u : User) :
    (index u).eval db = ((db.addPrices 0 (db.activeCarts u.id)).map
      (.cartsIndex (db.productsIn ((db.groupedCount u.id).map Prod.fst))), db) := by
  unfold index
  rw [total_bind_eval]
  cases db.addPrices 0 (db.activeCarts u.id) <;> rfl

theorem checkout_eval [Env] (db : Db) (u : User) :
    (checkout u).eval db = ((db.addPrices 0 (db.activeCarts u.id)).map
      (.cartsCheckout (db.productsIn ((db.groupedCount u.id).map Prod.fst))), db) := by
  unfold checkout
  rw [total_bind_eval]
  cases db.addPrices 0 (db.activeCarts u.id) <;> rfl

end CartsController

theorem HistoriesController.show_eval [Env] (db : Db) (u : User) (i : Id) :
    (HistoriesController.show u i).eval db =
      (match (db.billsOf u.id).find? (·.id == i) with
        | none => .error .noMethodError
        | some b => .ok (.historiesShow (db.billLines b.id)), db) := by
  have hfind : (db.billsOf u.id).find? (·.id == i) =
      db.bills.rows.find? (fun b => b.userId == u.id && b.id == i) := by
    rw [Db.billsOf, List.find?_filter]
    congr 1
    funext b
    cases b.userId == u.id <;> cases b.id == i <;> rfl
  unfold HistoriesController.show
  rw [eval_select_bind, hfind]
  cases db.bills.rows.find? (fun b => b.userId == u.id && b.id == i) <;> rfl

section Rendered

variable [Env]

/-- A page that only reads. -/
theorem Route.rendered_eval (r : Route) {u : User} {db : Db} {x : Except Failure Response}
    (h : (r.action u).eval db = (x, db)) : r.rendered u db = x.bind (r.body db u) := by
  rw [Route.rendered, h]
  cases x <;> rfl

/-- A request to `CartsController`, whose templates look at the database it
leaves. -/
theorem CartsRoute.rendered_eq (r : CartsRoute) (u : User) (db : Db) :
    Route.rendered (.carts r) u db =
      ((r.action u).eval db).1.bind (((r.action u).eval db).2.template u) := by
  have haction : (Route.carts r).action u = r.action u := rfl
  rw [Route.rendered, haction]
  cases (r.action u).eval db with
  | mk x db' => cases x <;> rfl

variable {u : User} {db₁ db₂ : Db}

namespace SameShop

theorem rendered_carts (h : SameShop u db₁ db₂) :
    Route.rendered (.carts .index) u db₁ = Route.rendered (.carts .index) u db₂ := by
  rw [Route.rendered_eval (.carts .index) (CartsController.index_eval db₁ u),
    Route.rendered_eval (.carts .index) (CartsController.index_eval db₂ u), h.activeCarts,
    h.addPrices, h.groupedCount, h.productsIn]
  cases db₂.addPrices 0 (db₂.activeCarts u.id) with
  | error e => rfl
  | ok n =>
    simp only [Except.map, Except.bind, Route.body, Db.template, h.activeCarts]
    rw [mapM_congr_mem (fun p _ => h.cartRow p)]

theorem rendered_checkout (h : SameShop u db₁ db₂) :
    Route.rendered (.carts .checkout) u db₁ = Route.rendered (.carts .checkout) u db₂ := by
  rw [Route.rendered_eval (.carts .checkout) (CartsController.checkout_eval db₁ u),
    Route.rendered_eval (.carts .checkout) (CartsController.checkout_eval db₂ u), h.activeCarts,
    h.addPrices, h.groupedCount, h.productsIn]
  cases db₂.addPrices 0 (db₂.activeCarts u.id) with
  | error e => rfl
  | ok n =>
    simp only [Except.map, Except.bind, Route.body, Db.template]
    rw [List.map_congr_left (fun p _ => h.summaryRow p)]

theorem rendered_histories (h : SameShop u db₁ db₂) :
    Route.rendered (.histories .index) u db₁ = Route.rendered (.histories .index) u db₂ := by
  have heval : ∀ db : Db, Route.rendered (.histories .index) u db =
      .ok (.histories ((db.billsOf u.id).map db.historyRow)) := fun _ => rfl
  rw [heval, heval, ← h.bills, List.map_congr_left (fun b hb => h.historyRow hb)]

theorem rendered_history (h : SameShop u db₁ db₂) (i : Id) :
    Route.rendered (.histories (.show i)) u db₁ = Route.rendered (.histories (.show i)) u db₂ := by
  rw [Route.rendered_eval (.histories (.show i)) (HistoriesController.show_eval db₁ u i),
    Route.rendered_eval (.histories (.show i)) (HistoriesController.show_eval db₂ u i), ← h.bills]
  cases hfind : (db₁.billsOf u.id).find? (·.id == i) with
  | none => rfl
  | some b =>
    have hb : b ∈ db₁.billsOf u.id := List.mem_of_find?_eq_some hfind
    have hlines : ∀ l ∈ db₁.billLines b.id, db₁.historyLine l = db₂.historyLine l := by
      intro l hl
      exact h.historyLine hb (by simpa using (List.mem_filter.mp hl).2)
    simp only [Except.bind, Route.body, Db.template, ← h.billLines hb]
    rw [mapM_congr_mem hlines]

end SameShop

end Rendered

end PetParadise
