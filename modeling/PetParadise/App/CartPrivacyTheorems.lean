/-
PetParadise.App.CartPrivacyTheorems — carts and bills of different users
do not meet.

A request of a user to `CartsController` or `HistoriesController` leaves the
carts, bills and lines of everybody else alone. And it depends on nothing of
theirs: from two databases that agree on the products and on the user's rows
(`SameShop`) it shows the same and leaves the user with the same rows, up to
the keys it gave out.

The second is about two runs of one action. Each action is walked through
once with the rules of `PetParadise.Store.TwoRuns`, keeping `Running`
between them; the first statement is part of that relation.
-/
import PetParadise.App.TwoVisits

namespace PetParadise

open Store PetParadise.Action

/-! ## The actions -/

/-- The same answer, and the same template behind it. -/
def SameShown (u : User) (db₁ db₂ : Db) (x y : Response) : Prop :=
  x = y ∧ ∀ s t, Running u db₁ db₂ s t → s.template u x = t.template u y

theorem SameShown.redirect (u : User) (db₁ db₂ : Db) (path : String) (notice : Option String) :
    SameShown u db₁ db₂ (.redirect path notice) (.redirect path notice) :=
  ⟨rfl, fun _ _ _ => rfl⟩

section Actions

variable {u : User} {db₁ db₂ : Db}

theorem Running.select [Env] {α β : Type} {V : α → β → Prop} {f : Db → α} {g : Db → β} (q : Query)
    (hfg : ∀ s t, Running u db₁ db₂ s t → V (f s) (g t)) :
    Prog.Alike exec (Running u db₁ db₂) V (Action.select q f) (Action.select q g) :=
  Prog.alike_query (Running.reads (exec_select q)) hfg

theorem addLine_alike [Env] {bill bill' : Option Id}
    (hbill : Option.Rel (SameNewBill db₁ db₂) bill bill')
    (dataCart : List (Id × Nat)) (product : Product) :
    Prog.Alike exec (Running u db₁ db₂) (fun _ _ => True) (addLine bill dataCart product)
      (addLine bill' dataCart product) := by
  apply Prog.alike_bind_eq (Prog.alike_orRaise_self product.price _)
  intro price
  apply Prog.alike_bind_eq (Prog.alike_orRaise_self (dataCart.lookup product.id) _)
  intro count
  apply Prog.alike_bind (Prog.alike_orRaise hbill _)
  intro i j hij
  exact Prog.alike_perform (Running.insertLine hij product price count)

namespace CartsController

theorem total_alike [Env] : Prog.Alike exec (Running u db₁ db₂) Eq (total u) (total u) := by
  apply Prog.alike_bind_eq (Running.select .cartTotal (fun s t h => h.addPrices))
  intro a
  exact Prog.alike_ofExcept a

theorem setProduct_alike [Env] (p : Option CartParams) :
    Prog.Alike exec (Running u db₁ db₂) Eq (setProduct p) (setProduct p) := by
  apply Prog.alike_bind_eq (Prog.alike_orRaise_self p _)
  intro params
  have hfind : ∀ s t, Running u db₁ db₂ s t →
      params.productId.bind s.products.find? = params.productId.bind t.products.find? := by
    intro s t h
    cases params.productId with
    | none => rfl
    | some i => exact h.find_product i
  apply Prog.alike_bind_eq (Running.select .product hfind)
  intro found
  exact Prog.alike_orRaise_self found _

theorem create_alike [Env] (p : Option CartParams) :
    Prog.Alike exec (Running u db₁ db₂) (SameShown u db₁ db₂) (create u p) (create u p) := by
  apply Prog.alike_bind_eq (setProduct_alike p)
  intro product
  apply Prog.alike_bind_eq (Running.select .activeCount (fun s t h => h.countOf product.id))
  intro n
  apply Prog.alike_bind_eq (Prog.alike_orRaise_self product.quantity _)
  intro quantity
  apply Prog.alike_ite
  · intro _
    exact Prog.alike_ret (.redirect u db₁ db₂ _ _)
  · intro _
    apply Prog.alike_then (Prog.alike_perform (Running.insertCart product.id))
    apply Prog.alike_bind_eq (Running.select .activeCount (fun s t h => h.count))
    intro cart
    exact Prog.alike_ret ⟨rfl, fun _ _ _ => rfl⟩

theorem firstActive_alike [Env] (product : Product) {l l' : Option (Option Cart)}
    (hl : Option.Rel (Option.Rel (SameCart u db₁ db₂)) l l') :
    Prog.Alike exec (Running u db₁ db₂) (Option.Rel (SameCart u db₁ db₂))
      (firstActive u product l) (firstActive u product l') := by
  cases hl with
  | none => exact Running.select .activeCarts (fun s t h => h.head product.id)
  | some hfirst => exact Prog.alike_ret hfirst

/-- Both runs delete the same rows, one after the other. -/
theorem removeCarts_alike [Env] (product : Product) (n : Nat) {l l' : Option (Option Cart)}
    (hl : Option.Rel (Option.Rel (SameCart u db₁ db₂)) l l') :
    Prog.Alike exec (Running u db₁ db₂) (fun _ _ => True)
      (removeCarts u product n l) (removeCarts u product n l') := by
  induction n generalizing l l' with
  | zero => exact Prog.alike_ret trivial
  | succ n ih =>
    apply Prog.alike_bind (firstActive_alike product hl)
    intro first first' hfirst
    apply Prog.alike_bind (Prog.alike_orRaise hfirst _)
    intro c d hcd
    apply Prog.alike_then (Prog.alike_perform (Running.deleteCart hcd))
    apply Prog.alike_bind (firstActive_alike product .none)
    intro reloaded reloaded' hreloaded
    exact ih (.some hreloaded)

theorem reportQuantity_alike [Env] (product : Product) :
    Prog.Alike exec (Running u db₁ db₂) (SameShown u db₁ db₂)
      (reportQuantity u product) (reportQuantity u product) := by
  apply Prog.alike_bind_eq total_alike
  intro total
  apply Prog.alike_bind_eq (Running.select .activeCount (fun s t h => h.count))
  intro cart
  have hsubtotal : ∀ s t, Running u db₁ db₂ s t →
      s.subtotalOf u product = t.subtotalOf u product := by
    intro s t h
    rw [Db.subtotalOf, Db.subtotalOf, Db.subtotal, Db.subtotal, h.countOf]
  exact Prog.alike_ret ⟨rfl, fun s t h => by simp only [Db.template, hsubtotal s t h]⟩

theorem updateQuantity_alike [Env] (p : Option CartParams) (quantity : Option String) :
    Prog.Alike exec (Running u db₁ db₂) (SameShown u db₁ db₂)
      (updateQuantity u p quantity)
      (updateQuantity u p quantity) := by
  have hcount : ∀ product : Product, Prog.Alike exec (Running u db₁ db₂) Eq
      (Action.select .activeCount (fun db => (db.activeCartsOf u.id product.id).length))
      (Action.select .activeCount (fun db => (db.activeCartsOf u.id product.id).length)) :=
    fun product => Running.select .activeCount (fun s t h => h.countOf product.id)
  apply Prog.alike_bind_eq (setProduct_alike p)
  intro product
  apply Prog.alike_bind_eq (Prog.alike_orRaise_self quantity _)
  intro q
  apply Prog.alike_bind_eq (Prog.alike_orRaise_self product.quantity _)
  intro stock
  apply Prog.alike_ite
  · intro _
    exact Prog.alike_ret (.redirect u db₁ db₂ _ _)
  · intro _
    apply Prog.alike_bind_eq (hcount product)
    intro before
    apply Prog.alike_ite
    · intro _
      apply Prog.alike_bind_eq (hcount product)
      intro now
      apply Prog.alike_then
        (Prog.alike_times (Prog.alike_perform (Running.insertCart product.id)) _)
      exact reportQuantity_alike product
    · intro _
      apply Prog.alike_bind_eq (hcount product)
      intro now
      apply Prog.alike_then (removeCarts_alike product _ .none)
      exact reportQuantity_alike product

theorem destroy_alike [Env] (productId : Id) :
    Prog.Alike exec (Running u db₁ db₂) (SameShown u db₁ db₂)
      (destroy u productId) (destroy u productId) := by
  apply Prog.alike_then (Prog.alike_perform (Running.deactivateCarts (some productId)))
  exact Prog.alike_ret (.redirect u db₁ db₂ _ _)

theorem cash_alike [Env] (randomToken : String) :
    Prog.Alike exec (Running u db₁ db₂) (SameShown u db₁ db₂)
      (cash u randomToken) (cash u randomToken) := by
  apply Prog.alike_bind_eq total_alike
  intro total
  apply Prog.alike_bind_eq (Running.select .groupedCount (fun s t h => h.groupedCount))
  intro dataCart
  apply Prog.alike_bind (Running.createBill rfl)
  intro bill bill' hbill
  apply Prog.alike_bind_eq
    (Running.select .products (fun s t h => h.productsIn (dataCart.map Prod.fst)))
  intro products
  apply Prog.alike_then (Prog.alike_each (fun product _ => addLine_alike hbill dataCart product))
  apply Prog.alike_then (Prog.alike_perform (Running.deactivateCarts none))
  exact Prog.alike_ret (.redirect u db₁ db₂ _ _)

end CartsController

namespace Momo.GetPaymentUrlService

theorem accept_alike [Env] (amount : Int) (c : MomoCheckout) (dataCart : List (Id × Nat))
    (products : List Product) :
    Prog.Alike exec (Running u db₁ db₂) (fun _ _ => True)
      (accept u amount c dataCart products)
      (accept u amount c dataCart products) := by
  apply Prog.alike_bind (Running.createBill rfl)
  intro bill bill' hbill
  apply Prog.alike_then (Prog.alike_each (fun product _ => addLine_alike hbill dataCart product))
  exact Prog.alike_perform (Running.deactivateCarts none)

theorem call_alike [Env] (amount : Int) (c : MomoCheckout) :
    Prog.Alike exec (Running u db₁ db₂) Eq (call u amount c)
      (call u amount c) := by
  apply Prog.alike_bind_eq (Running.select .groupedCount (fun s t h => h.groupedCount))
  intro dataCart
  apply Prog.alike_bind_eq
    (Running.select .products (fun s t h => h.productsIn (dataCart.map Prod.fst)))
  intro products
  apply Prog.alike_bind_eq (Prog.alike_ofExcept _)
  intro items
  apply Prog.alike_then (Prog.alike_perform (Running.reads (exec_post _)))
  -- the same request has been sent, so the gateway gives one answer
  cases c.gateway (dataBody u amount c.randomToken items) with
  | unreadable => exact Prog.alike_raise _
  | object resultCode payUrl =>
    apply Prog.alike_ite
    · intro _
      apply Prog.alike_then (accept_alike amount c dataCart products)
      exact Prog.alike_ret rfl
    · intro _
      exact Prog.alike_ret rfl

end Momo.GetPaymentUrlService

theorem CartsController.checkoutMomo_alike [Env] (c : MomoCheckout) :
    Prog.Alike exec (Running u db₁ db₂) (SameShown u db₁ db₂)
      (checkoutMomo u c) (checkoutMomo u c) := by
  apply Prog.alike_bind_eq total_alike
  intro total
  apply Prog.alike_bind_eq (Momo.GetPaymentUrlService.call_alike total c)
  intro answer
  apply Prog.alike_ite
  · intro _
    apply Prog.alike_bind_eq (Prog.alike_orRaise_self answer.2 _)
    intro url
    exact Prog.alike_ret ⟨rfl, fun _ _ _ => rfl⟩
  · intro _
    exact Prog.alike_ret (.redirect u db₁ db₂ _ _)

end Actions

/-! ## Requests -/

/-- The routes of `CartsController` and `HistoriesController`. -/
def Route.isShop : Route → Bool
  | .carts _ => true
  | .histories _ => true
  | _ => false

section Requests

variable {u : User} {db₁ db₂ : Db}

/-- The template of an action is given the same in both runs. -/
theorem Running.template {s t : Db} (h : Running u db₁ db₂ s t) {x y : Except Failure Response}
    (hxy : Outcome (SameShown u db₁ db₂) x y) : x.bind (s.template u) = y.bind (t.template u) := by
  cases hxy with
  | ok hshown => exact hshown.2 s t h
  | error e => rfl

/-- A request that only reads leaves both databases as they are. -/
theorem Running.reading [Env] (h : Running u db₁ db₂ db₁ db₂) {p : Action Response}
    {x : Db → Except Failure Response} (hp : ∀ db, p.eval db = (x db, db)) :
    Running u db₁ db₂ (p.eval db₁).2 (p.eval db₂).2 := by
  rw [hp, hp]
  exact h

variable [Env]

/-- An action that keeps the relation. -/
theorem Running.request (h : Running u db₁ db₂ db₁ db₂) {r : CartsRoute}
    (hr : Prog.Alike exec (Running u db₁ db₂) (SameShown u db₁ db₂) (r.action u) (r.action u)) :
    Route.rendered (.carts r) u db₁ = Route.rendered (.carts r) u db₂ ∧
      Running u db₁ db₂ ((r.action u).eval db₁).2 ((r.action u).eval db₂).2 := by
  obtain ⟨hout, hafter⟩ := hr db₁ db₂ h
  rw [CartsRoute.rendered_eq, CartsRoute.rendered_eq]
  exact ⟨hafter.template hout, hafter⟩

theorem SameShop.request (h : SameShop u db₁ db₂) (h₁ : db₁.LinesBilled) (h₂ : db₂.LinesBilled)
    {r : Route} (hr : r.isShop = true) :
    r.rendered u db₁ = r.rendered u db₂ ∧
      Running u db₁ db₂ ((r.action u).eval db₁).2 ((r.action u).eval db₂).2 := by
  have hrun := h.running h₁ h₂
  cases r with
  | carts r =>
    cases r with
    | index => exact ⟨h.rendered_carts, hrun.reading (CartsController.index_eval · u)⟩
    | create p => exact hrun.request (CartsController.create_alike p)
    | updateQuantity p quantity =>
      exact hrun.request (CartsController.updateQuantity_alike p quantity)
    | checkoutMomo c => exact hrun.request (CartsController.checkoutMomo_alike c)
    | checkout => exact ⟨h.rendered_checkout, hrun.reading (CartsController.checkout_eval · u)⟩
    | destroy productId => exact hrun.request (CartsController.destroy_alike productId)
    | cash randomToken => exact hrun.request (CartsController.cash_alike randomToken)
  | histories r =>
    cases r with
    | index => exact ⟨h.rendered_histories, hrun.reading (fun _ => rfl)⟩
    | «show» i =>
      exact ⟨h.rendered_history i, hrun.reading (HistoriesController.show_eval · u i)⟩
  | _ => cases hr

/-- **Carts and bills are isolated.** A request of a user to the carts or
the histories leaves every other user's carts, bills and lines as they
were. In two databases that agree on the products and on the user's own
account and rows it shows the same, and the rows the user has afterwards
are the same up to the keys it gave out. -/
theorem carts_and_bills_isolated (u : User) (r : Route) (hr : r.isShop = true) :
    (∀ db : Db, db.users.find? u.id = some u → db.LinesBilled →
      OthersKept u db (step db (.user (some u.id) r))) ∧
    (∀ db₁ db₂ : Db, SameShop u db₁ db₂ → db₁.LinesBilled → db₂.LinesBilled →
      r.rendered u db₁ = r.rendered u db₂ ∧
      (db₁.activeCarts u.id).length = (db₂.activeCarts u.id).length ∧
      OwnAlike u db₁ db₂ (step db₁ (.user (some u.id) r)) (step db₂ (.user (some u.id) r))) := by
  constructor
  · intro db huser hbilled
    have hsame : SameShop u db db := ⟨huser, huser, rfl, rfl, rfl, rfl⟩
    rw [step_user huser]
    exact (hsame.request hbilled hbilled hr).2.left.toOthersKept
  · intro db₁ db₂ h h₁ h₂
    obtain ⟨hrendered, hafter⟩ := h.request h₁ h₂ hr
    rw [step_user h.user₁, step_user h.user₂]
    exact ⟨hrendered, congrArg List.length h.activeCarts, hafter.toOwnAlike⟩

end Requests

def shopper : User where
  id := 1
  email := "ann@pet.vn"

/-- The shopper has a leash in the cart, and nobody else is there. -/
def quietShop : Db where
  users := Table.empty.insertAll [shopper]
  products := Table.empty.insertAll
    [{ name := some "Leash", price := some 120, quantity := some 3 }]
  carts := Table.empty.insertAll [{ userId := 1, productId := 1 }]

def strangersBill : Bill where
  orderId := some "Cash_1a"
  amount := 120
  status := .cash
  orderInfo := some "bob@pet.vn"
  userId := 2
  firstName := none
  lastName := none
  address := none
  phoneNumber := none

/-- The same, with another customer who has a cart and a bill. -/
def busyShop : Db where
  users := Table.empty.insertAll [shopper, { email := "bob@pet.vn" }]
  products := quietShop.products
  carts := Table.empty.insertAll [{ userId := 1, productId := 1 }, { userId := 2, productId := 1 }]
  bills := Table.empty.insertAll [strangersBill]
  billProducts := Table.empty.insertAll
    [{ billId := 1, productId := 1, name := some "Leash", quantity := 1, totalAmount := 120 }]

theorem busyShop_sameShop : SameShop shopper busyShop quietShop :=
  ⟨rfl, rfl, rfl, by decide, by decide, by decide⟩

/-- A cash checkout in both: the new bill has different keys. -/
theorem carts_and_bills_isolated_cashCheckout :
    SameShop shopper busyShop quietShop ∧ busyShop.LinesBilled ∧ quietShop.LinesBilled ∧
    OthersKept shopper busyShop
      (@step .caseInsensitive busyShop (.user (some 1) (.carts (.cash "7f")))) ∧
    OwnAlike shopper busyShop quietShop
      (@step .caseInsensitive busyShop (.user (some 1) (.carts (.cash "7f"))))
      (@step .caseInsensitive quietShop (.user (some 1) (.carts (.cash "7f")))) ∧
    ((@step .caseInsensitive busyShop (.user (some 1) (.carts (.cash "7f")))).billsOf 1).map
      Bill.id = [2] ∧
    ((@step .caseInsensitive quietShop (.user (some 1) (.carts (.cash "7f")))).billsOf 1).map
      Bill.id = [1] := by
  have hisolated := @carts_and_bills_isolated .caseInsensitive shopper (.carts (.cash "7f")) rfl
  have hbusy : busyShop.LinesBilled := by decide
  have hquiet : quietShop.LinesBilled := by decide
  exact ⟨busyShop_sameShop, hbusy, hquiet, hisolated.1 busyShop rfl hbusy,
    (hisolated.2 _ _ busyShop_sameShop hbusy hquiet).2.2, by decide, by decide⟩

end PetParadise
