/-
PetParadise.App.RoutesTheorems — what each route can do, said once.

`Route.Issues u r w` lists the statements `w` that the action behind `r`
may send for the signed-in user `u`: the kinds of statement, whose rows
they are about where the source fixes that, and the permission that
stands in front of them. `Route.action_only` proves the list complete.
Every run-level result about the application reads its cases off this
table and never looks into a controller again.
-/
import PetParadise.App.Routes
import PetParadise.Hotel.BookingsTheorems

namespace PetParadise

open Store PetParadise.Action

/-! ## Building blocks -/

@[simp] theorem only_authorize_bind {α : Type} {P : Stmt → Prop} (u : User) (s : Subject)
    (f : Unit → Action α) :
    (authorize u s >>= f).Only P ↔ (Ability.can u s = true → (f ()).Only P) := by
  unfold authorize
  cases Ability.can u s <;> simp

@[simp] theorem only_respondJs {P : Stmt → Prop} (format : Format) (js : String) :
    (respondJs format js).Only P := by
  unfold respondJs
  split <;> trivial

/-! ## The table -/

def BookingsRoute.Issues (u : User) (r : BookingsRoute) (w : Stmt) : Prop :=
  match w, r with
  | .insertBooking b, create p => ∃ roomId dates, b = BookingsController.newBooking u p roomId dates
  | .destroyBooking _, destroy _ => True
  | w, _ => w.Asks

def ChatsRoute.Issues (w : Stmt) : Prop :=
  match w with
  | .insertChat _ => True
  | .updateChat .. => True
  | .destroyChat _ => True
  | w => w.Asks

def ChatMessagesRoute.Issues (u : User) (w : Stmt) : Prop :=
  match w with
  | .insertChatMessage m => m.userId = u.id
  | w => w.Asks

def ProfileRoute.Issues (w : Stmt) : Prop :=
  match w with
  | .updateProfile .. => True
  | w => w.Asks

/-- The two ways to check out. -/
def CartsRoute.isCheckout : CartsRoute → Bool
  | checkoutMomo _ => true
  | cash _ => true
  | _ => false

def CartsRoute.Issues (u : User) (r : CartsRoute) (w : Stmt) : Prop :=
  match w with
  | .post _ => ∃ c, r = checkoutMomo c
  | .insertCart i _ => i = u.id
  | .deleteCart _ => True
  | .deactivateCarts i _ => i = u.id
  | .insertBill b => r.isCheckout = true ∧ b.userId = u.id
  | .insertBillProduct _ => r.isCheckout = true
  | w => w.Asks

def ProductsRoute.Issues (u : User) (r : ProductsRoute) (w : Stmt) : Prop :=
  match w with
  | .insertProduct _ => Ability.can u .product
  | .updateProduct _ => Ability.can u .product
  | .destroyProduct i => Ability.can u .product ∧ ∃ format, r = destroy i format
  | w => w.Asks

def RoomsRoute.Issues (u : User) (w : Stmt) : Prop :=
  match w with
  | .insertRoom _ => Ability.can u .room
  | .updateRoom _ => Ability.can u .room
  | .destroyRoom _ => Ability.can u .room
  | w => w.Asks

def UsersRoute.Issues (u : User) (w : Stmt) : Prop :=
  match w with
  | .insertUser .. => Ability.can u .user
  | .addRole .. => Ability.can u .user
  | .insertChat _ => Ability.can u .user
  | .destroyUser _ => Ability.can u .user
  | w => w.Asks

def BillsRoute.Issues (u : User) (w : Stmt) : Prop :=
  match w with
  | .shipBill _ => Ability.can u .bill
  | w => w.Asks

/-- Pages on which a user changes their own password. -/
def passwordIssues (u : User) (w : Stmt) : Prop :=
  match w with
  | .updatePassword i _ => i = u.id
  | w => w.Asks

def cancelIssues (u : User) (w : Stmt) : Prop :=
  match w with
  | .destroyUser i => i = u.id
  | w => w.Asks

/-- The statements the action behind a route may send. -/
def Route.Issues (u : User) : Route → Stmt → Prop
  | bookings r => r.Issues u
  | manageBookings .. => Stmt.Asks
  | profile _ => ProfileRoute.Issues
  | chats _ => ChatsRoute.Issues
  | chatMessages _ => ChatMessagesRoute.Issues u
  | carts r => r.Issues u
  | histories _ => Stmt.Asks
  | products r => r.Issues u
  | rooms _ => RoomsRoute.Issues u
  | users _ => UsersRoute.Issues u
  | bills _ => BillsRoute.Issues u
  | welcome _ => passwordIssues u
  | updateAccount .. => passwordIssues u
  | cancelAccount => cancelIssues u

/-- The statements an open route may send. -/
def OpenRoute.Issues (r : OpenRoute) (w : Stmt) : Prop :=
  match r, w with
  | callback _, .settleBill .. => True
  | signUp .., .insertUser .. => True
  | confirm .., .updateEmail .. => True
  | resetPassword .., .updatePassword .. => True
  | _, w => w.Asks

/-! ## The table is complete -/

theorem BookingsRoute.action_only (u : User) (r : BookingsRoute) :
    (r.action u).Only (r.Issues u) := by
  cases r with
  | index => simp [action, BookingsController.index, Issues]
  | create p =>
    exact BookingsController.create_only (fun _ => rfl) u p
      (fun roomId dates => ⟨roomId, dates, rfl⟩)
  | destroy id => simp [action, BookingsController.destroy, Issues]

theorem ProfileRoute.action_only (r : ProfileRoute) : r.action.Only ProfileRoute.Issues := by
  cases r with
  | index => trivial
  | edit id => trivial
  | update id p => simp [action, ProfileController.update, Issues]

@[simp] theorem ChatsController.only_assignChatParams_bind {α : Type} {P : Stmt → Prop}
    (p : ChatParams) (f : Unit → Action α) :
    (assignChatParams p >>= f).Only P ↔ (p.status = false → (f ()).Only P) := by
  unfold assignChatParams
  cases p.status <;> simp

theorem ChatsRoute.action_only (r : ChatsRoute) : r.action.Only ChatsRoute.Issues := by
  cases r <;>
    simp [action, ChatsController.index, ChatsController.show, ChatsController.new,
      ChatsController.create, ChatsController.update, ChatsController.destroy,
      ChatsController.setChat, Issues]

theorem ChatMessagesRoute.action_only (u : User) (r : ChatMessagesRoute) :
    (r.action u).Only (ChatMessagesRoute.Issues u) := by
  cases r with
  | create message senderId now => simp [action, ChatMessagesController.create, Issues]

theorem CartsController.total_only {P : Stmt → Prop} (hP : ∀ q, P (.select q)) (u : User) :
    (total u).Only P := by
  simp [total, hP]

theorem CartsController.index_only {P : Stmt → Prop} (hP : ∀ q, P (.select q)) (u : User) :
    (index u).Only P :=
  Prog.only_bind (total_only hP u) (fun _ => by simp [hP])

theorem CartsController.checkout_only {P : Stmt → Prop} (hP : ∀ q, P (.select q)) (u : User) :
    (checkout u).Only P :=
  Prog.only_bind (total_only hP u) (fun _ => by simp [hP])

theorem CartsController.reportQuantity_only {P : Stmt → Prop} (hP : ∀ q, P (.select q))
    (u : User) (product : Product) : (reportQuantity u product).Only P :=
  Prog.only_bind (total_only hP u) (fun _ => by simp [hP])

theorem CartsController.removeCarts_only {P : Stmt → Prop} (hsel : ∀ q, P (.select q))
    (hdel : ∀ i, P (.deleteCart i)) (u : User) (product : Product) (n : Nat)
    (loaded : Option (Option Cart)) : (removeCarts u product n loaded).Only P := by
  induction n generalizing loaded with
  | zero => trivial
  | succ n ih =>
    refine Prog.only_bind ?_ fun first => ?_
    · cases loaded <;> simp [firstActive, hsel]
    · simp only [only_orRaise_bind, only_perform_bind]
      intro cart _
      refine ⟨hdel _, Prog.only_bind ?_ fun reloaded => ih _⟩
      simp [firstActive, hsel]

theorem CartsController.updateQuantity_only (u : User) (p : Option CartParams)
    (quantity : Option String) :
    (updateQuantity u p quantity).Only ((CartsRoute.updateQuantity p quantity).Issues u) := by
  have hsel : ∀ q, (CartsRoute.updateQuantity p quantity).Issues u (.select q) := fun _ => rfl
  have hrep := reportQuantity_only hsel u
  refine Prog.only_bind (by simp [setProduct, hsel]) fun product => ?_
  simp only [only_orRaise_bind, only_ite, only_select_bind]
  refine fun _ _ stock _ => ⟨fun _ => trivial, fun _ => ⟨rfl, fun before => ?_⟩⟩
  refine ⟨fun _ => ⟨rfl, fun now => ?_⟩, fun _ => ⟨rfl, fun now => ?_⟩⟩
  · exact Prog.only_bind (Prog.only_times (by simp [CartsRoute.Issues]) _) (fun _ => hrep product)
  · exact Prog.only_bind (removeCarts_only hsel (fun _ => trivial) u product _ none)
      (fun _ => hrep product)

theorem only_createBill_bind {α : Type} {P : Stmt → Prop} {b : Bill} {f : Option Id → Action α}
    (hb : P (.insertBill b)) (hf : ∀ bill, (f bill).Only P) : (createBill b >>= f).Only P :=
  ⟨hb, fun _ => hf _⟩

/-- What both checkouts end with. -/
theorem only_billed_bind {α : Type} {P : Stmt → Prop} (hline : ∀ l, P (.insertBillProduct l))
    {u : Id} (hcart : P (.deactivateCarts u none)) (bill : Option Id) (dataCart : List (Id × Nat))
    (products : List Product) (a : α) :
    (Prog.each products (addLine bill dataCart) >>= fun _ =>
      Prog.perform (.deactivateCarts u none) >>= fun _ => pure a).Only P := by
  refine Prog.only_bind (Prog.only_each (fun product => ?_) _) (fun _ => ?_)
  · simp [addLine, hline]
  · simp [hcart]

/-- A cash checkout asks, stores its bill and lines, and deactivates the
user's carts. -/
theorem CartsController.cash_only {P : Stmt → Prop} (hsel : ∀ q, P (.select q)) (u : User)
    (randomToken : String) (hbill : ∀ total, P (.insertBill (cashBill u randomToken total)))
    (hline : ∀ l, P (.insertBillProduct l)) (hcart : P (.deactivateCarts u.id none)) :
    (cash u randomToken).Only P := by
  refine Prog.only_bind (total_only hsel u) fun total => ?_
  rw [only_select_bind]
  refine ⟨hsel _, fun db => only_createBill_bind (hbill total) fun bill => ?_⟩
  rw [only_select_bind]
  exact ⟨hsel _, fun db' => only_billed_bind hline hcart bill _ _ _⟩

theorem ProductsRoute.action_only (u : User) (r : ProductsRoute) :
    (r.action u).Only (r.Issues u) := by
  cases r with
  | destroy i format =>
    simp only [action, ProductsController.destroy, ProductsController.setProduct,
      only_authorize_bind, bind_assoc, only_select_bind, only_orRaise_bind, only_perform_bind]
    intro hcan
    refine ⟨rfl, fun db product hfound => ⟨⟨hcan, format, ?_⟩, only_respondJs _ _⟩⟩
    have hid : product.id = i := db.products.id_of_find? hfound
    rw [hid]
  | _ =>
    simp +contextual [action, ProductsController.index, ProductsController.show,
      ProductsController.new, ProductsController.create, ProductsController.update,
      ProductsController.setProduct, Issues]

theorem RoomsRoute.action_only (u : User) (r : RoomsRoute) :
    (r.action u).Only (RoomsRoute.Issues u) := by
  cases r with
  | «import» sheet =>
    simp only [action, RoomsController.import, only_authorize_bind, only_orRaise_bind]
    intro hcan rows _
    refine Prog.only_bind (Prog.only_each (fun row => ?_) _) (fun _ => trivial)
    simp [RoomsController.importRow, Issues, hcan]
  | _ =>
    simp +contextual [action, RoomsController.index, RoomsController.new, RoomsController.edit,
      RoomsController.create, RoomsController.update, RoomsController.destroy, Issues]

theorem BillsRoute.action_only (u : User) (r : BillsRoute) :
    (r.action u).Only (BillsRoute.Issues u) := by
  cases r <;>
    simp +contextual [action, BillsController.index, BillsController.show, BillsController.update,
      Issues]

theorem WelcomeRoute.action_only (u : User) (r : WelcomeRoute) :
    (r.action u).Only (passwordIssues u) := by
  cases r with
  | page => trivial
  | editPassword password confirmation =>
    simp only [action, WelcomeController.editPassword]
    split <;> simp [passwordIssues]

theorem HistoriesRoute.action_only (u : User) (r : HistoriesRoute) :
    (r.action u).Only Stmt.Asks := by
  cases r <;> simp [action, HistoriesController.index, HistoriesController.show]

theorem ManageBookingsController.index_only (u : User) (mdate : DateParam) (now : DateTime) :
    (index u mdate now).Only Stmt.Asks := by
  simp [index]

theorem Devise.updateAccount_only (u : User) (current password : String)
    (confirmation : Option String) :
    (updateAccount u current password confirmation).Only (passwordIssues u) := by
  simp [updateAccount, passwordIssues]

theorem Devise.cancelAccount_only (u : User) : (cancelAccount u).Only (cancelIssues u) := by
  simp [cancelAccount, cancelIssues]

section Deployment

variable [Env]

/-- A MoMo checkout does the same, after it has asked the gateway. -/
theorem CartsController.checkoutMomo_only {P : Stmt → Prop} (hsel : ∀ q, P (.select q))
    (hpost : ∀ body, P (.post body)) (u : User) (c : MomoCheckout)
    (hbill : ∀ total, P (.insertBill (Momo.GetPaymentUrlService.momoBill u total c)))
    (hline : ∀ l, P (.insertBillProduct l)) (hcart : P (.deactivateCarts u.id none)) :
    (checkoutMomo u c).Only P := by
  refine Prog.only_bind (total_only hsel u) fun total => ?_
  refine Prog.only_bind ?_ fun answer => by simp
  simp only [Momo.GetPaymentUrlService.call, only_select_bind, only_ofExcept_bind,
    only_perform_bind]
  refine ⟨hsel _, fun _ => ⟨hsel _, fun _ its _ => ⟨hpost _, ?_⟩⟩⟩
  split
  · trivial
  · split
    · refine Prog.only_bind (only_createBill_bind (hbill total) fun bill => ?_) (fun _ => trivial)
      exact only_billed_bind hline hcart bill _ _ ()
    · trivial

theorem CartsRoute.action_only (u : User) (r : CartsRoute) :
    (r.action u).Only (r.Issues u) := by
  have hsel : ∀ q, r.Issues u (.select q) := fun _ => rfl
  cases r with
  | index => exact CartsController.index_only hsel u
  | checkout => exact CartsController.checkout_only hsel u
  | destroy productId => simp [action, CartsController.destroy, Issues]
  | create p => simp [action, CartsController.create, CartsController.setProduct, Issues]
  | updateQuantity p quantity => exact CartsController.updateQuantity_only u p quantity
  | checkoutMomo c =>
    exact CartsController.checkoutMomo_only hsel (fun _ => ⟨c, rfl⟩) u c (fun _ => ⟨rfl, rfl⟩)
      (fun _ => rfl) rfl
  | cash randomToken =>
    exact CartsController.cash_only hsel u randomToken (fun _ => ⟨rfl, rfl⟩) (fun _ => rfl) rfl

omit [Env] in
theorem UsersController.save_bind_only {α : Type} {P : Stmt → Prop} {email password : String}
    {f : Option Id → Action α} (hsel : P (.select .account))
    (hins : P (.insertUser (normalizeEmail email) password)) (hf : ∀ saved, (f saved).Only P) :
    (save email password >>= f).Only P := by
  refine Prog.only_bind ?_ hf
  simp only [save, only_select_bind, only_ite]
  exact ⟨hsel, fun db => ⟨fun _ => ⟨hins, fun _ => trivial⟩, fun _ => trivial⟩⟩

/-- Bulk creation asks, and with the permission stores accounts, roles and
chats. -/
theorem UsersController.create_only {P : Stmt → Prop} (u : User)
    (emails : Option (List (Option String))) (role : Option String) (password : String)
    (hsel : P (.select .account))
    (hwrite : Ability.can u .user = true →
      (∀ email, P (.insertUser email password)) ∧ (∀ i role, P (.addRole i role)) ∧
      ∀ c, P (.insertChat c)) : (create u emails role password).Only P := by
  simp only [create, only_authorize_bind, only_orRaise_bind]
  intro hcan emails _
  obtain ⟨hins, hrole, hchat⟩ := hwrite hcan
  refine Prog.only_bind (Prog.only_each (fun email => ?_) _) (fun _ => trivial)
  cases email with
  | none => trivial
  | some email =>
    simp only [createOne, only_select_bind, only_ite]
    refine ⟨hsel, fun db => ⟨fun _ => trivial, fun _ => ?_⟩⟩
    refine save_bind_only hsel (hins _) fun saved => ?_
    cases saved <;> simp [hrole, hchat]

/-- An import does the same without chats. -/
theorem UsersController.import_only {P : Stmt → Prop} (u : User)
    (sheet : Option (List (List Cell))) (password : String) (hsel : P (.select .account))
    (hwrite : Ability.can u .user = true →
      (∀ email, P (.insertUser email password)) ∧ ∀ i role, P (.addRole i role)) :
    (UsersController.import u sheet password).Only P := by
  simp only [UsersController.import, only_authorize_bind, only_orRaise_bind]
  intro hcan rows _
  obtain ⟨hins, hrole⟩ := hwrite hcan
  refine Prog.only_bind (Prog.only_each (fun row => ?_) _) (fun _ => trivial)
  unfold UsersController.importRow
  split
  · trivial
  · simp only [only_select_bind, only_ite]
    refine ⟨hsel, fun db => ⟨fun _ => trivial, fun _ => ?_⟩⟩
    refine save_bind_only hsel (hins _) fun saved => ?_
    cases saved <;> simp [hrole]

theorem UsersRoute.action_only (u : User) (r : UsersRoute) :
    (r.action u).Only (UsersRoute.Issues u) := by
  cases r with
  | create emails role password =>
    exact UsersController.create_only u emails role password rfl
      (fun hcan => ⟨fun _ => hcan, fun _ _ => hcan, fun _ => hcan⟩)
  | «import» sheet password =>
    exact UsersController.import_only u sheet password rfl
      (fun hcan => ⟨fun _ => hcan, fun _ _ => hcan⟩)
  | _ =>
    simp +contextual [action, UsersController.index, UsersController.new,
      UsersController.destroy, Issues]

/-- The action behind a route sends only what the table lists. -/
theorem Route.action_only (u : User) (r : Route) : (r.action u).Only (r.Issues u) := by
  cases r with
  | bookings r => exact r.action_only u
  | manageBookings mdate now => exact ManageBookingsController.index_only u mdate now
  | profile r => exact r.action_only
  | chats r => exact r.action_only
  | chatMessages r => exact r.action_only u
  | carts r => exact r.action_only u
  | histories r => exact r.action_only u
  | products r => exact r.action_only u
  | rooms r => exact r.action_only u
  | users r => exact r.action_only u
  | bills r => exact r.action_only u
  | welcome r => exact r.action_only u
  | updateAccount current password confirmation =>
    exact Devise.updateAccount_only u current password confirmation
  | cancelAccount => exact Devise.cancelAccount_only u

/-- The same for the routes outside `authenticate_user!`. -/
theorem OpenRoute.action_only (r : OpenRoute) : r.action.Only r.Issues := by
  cases r with
  | callback p =>
    simp only [action, Api.V1.BillsController.create, only_select_bind]
    refine ⟨rfl, fun db => ?_⟩
    split
    · trivial
    · simp [Issues]
  | signUp email password confirmation =>
    simp only [action, Devise.signUp, only_ite]
    refine ⟨fun _ => ?_, fun _ => trivial⟩
    exact UsersController.save_bind_only rfl trivial (fun _ => trivial)
  | confirm id email =>
    simp only [action, Devise.confirm, only_select_bind]
    refine ⟨rfl, fun db => ?_⟩
    split <;> simp [Issues]
  | resetPassword id password confirmation =>
    simp only [action, Devise.resetPassword, only_select_bind]
    refine ⟨rfl, fun db => ?_⟩
    split <;> simp [Issues]

/-! ## One request

The rule every run-level result starts from: what the listed statements
keep, the request keeps. -/

/-- The statements a request may send in a database. -/
def Request.Issues (db : Db) (w : Stmt) : Request → Prop
  | user session route => ∃ u, session.bind db.users.find? = some u ∧ route.Issues u w
  | «open» route => route.Issues w

/-- An invariant that every statement of the request keeps is kept by the
request. -/
theorem step_inv (I : Db → Prop) {db : Db} {r : Request}
    (hexec : ∀ w x x', r.Issues db w → exec w x = .ok x' → I x → I x') (h : I db) :
    I (step db r) := by
  rcases step_cases db r with ⟨i, u, route, rfl, hu, hs⟩ | hs | ⟨route, rfl, hs⟩
  · rw [hs]
    exact Action.eval_inv I (fun w x x' hw => hexec w x x' ⟨u, hu, hw⟩) (route.action_only u) h
  · rw [hs]; exact h
  · rw [hs]
    exact Action.eval_inv I hexec route.action_only h

end Deployment

end PetParadise
