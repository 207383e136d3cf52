/-
PetParadise.App.Routes — `config/routes.rb`: every request a client can
send, and what the application does with it.

A request is a session (the id of the signed-in user, if any) and a route
with its parameters. `ApplicationController` puts `authenticate_user!` in
front of all its actions; Devise's own pages and the gateway callback are
the only routes outside it. Routes that `resources` declares without an
action behind them answer with an error and are left out.

`step` runs one request alone. Its database is kept whether the action
returns or raises: no action opens a transaction. `respond` is what the
client sees, with the two `rescue` clauses of the source.
-/
import PetParadise.Accounts.Users
import PetParadise.Chat.Chats
import PetParadise.Hotel.Bookings
import PetParadise.Shop.Momo

namespace PetParadise

open Store

/-! ## Routes -/

inductive BookingsRoute where
  | index
  | create (p : BookingParams)
  | destroy (id : Id)

inductive ProfileRoute where
  | index
  | edit (id : Id)
  | update (id : Id) (p : ProfileParams)

inductive ChatsRoute where
  | index
  | «show» (id : Id)
  | new
  | edit (id : Id)
  | create (p : ChatParams)
  | update (id : Id) (p : ChatParams)
  | destroy (id : Id)

inductive ChatMessagesRoute where
  | create (message : Option String) (senderId : Option Id) (now : DateTime)

inductive CartsRoute where
  | index
  | create (p : Option CartsController.CartParams)
  | updateQuantity (p : Option CartsController.CartParams) (quantity : Option String)
  | checkoutMomo (c : MomoCheckout)
  | checkout
  | destroy (productId : Id)
  | cash (randomToken : String)

inductive HistoriesRoute where
  | index
  | «show» (id : Id)

inductive ProductsRoute where
  | index
  | «show» (id : Id)
  | new
  | edit (id : Id)
  | create (p : ProductParams)
  | update (id : Id) (p : ProductParams)
  | destroy (id : Id) (format : Format)

inductive RoomsRoute where
  | index
  | new
  | edit (id : Id)
  | create (p : RoomParams)
  | «import» (sheet : Option (List (List Cell)))
  | update (id : Id) (p : RoomParams)
  | destroy (id : Id) (format : Format)

inductive UsersRoute where
  | index
  | new
  | create (emails : Option (List (Option String))) (role : Option String) (password : String)
  | «import» (sheet : Option (List (List Cell))) (password : String)
  | destroy (id : Id) (format : Format)

inductive BillsRoute where
  | index
  | «show» (id : Id)
  | update (id : Id) (format : Format)

/-- `welcome#index`, `shop`, `shop_detail`, `spa` and `update_password`
write nothing. -/
inductive WelcomeRoute where
  | page
  | editPassword (password : String) (confirmation : Option String)

/-- The routes of `ApplicationController`'s descendants. -/
inductive Route where
  | bookings (r : BookingsRoute)
  | manageBookings (mdate : DateParam) (now : DateTime)
  | profile (r : ProfileRoute)
  | chats (r : ChatsRoute)
  | chatMessages (r : ChatMessagesRoute)
  | carts (r : CartsRoute)
  | histories (r : HistoriesRoute)
  | products (r : ProductsRoute)
  | rooms (r : RoomsRoute)
  | users (r : UsersRoute)
  | bills (r : BillsRoute)
  | welcome (r : WelcomeRoute)
  | updateAccount (current password : String) (confirmation : Option String)
  | cancelAccount

/-- The routes nobody has to sign in for. -/
inductive OpenRoute where
  | callback (p : CallbackParams)
  | signUp (email password : String) (confirmation : Option String)
  | confirm (id : Id) (email : String)
  | resetPassword (id : Id) (password : String) (confirmation : Option String)

/-- A request. -/
inductive Request where
  | user (session : Option Id) (route : Route)
  | «open» (route : OpenRoute)

/-! ## Dispatch -/

variable [Env]

def BookingsRoute.action (u : User) : BookingsRoute → Action Response
  | index => BookingsController.index u
  | create p => BookingsController.create u p
  | destroy id => BookingsController.destroy id

def ProfileRoute.action : ProfileRoute → Action Response
  | index => pure .page
  -- the action is empty and there is no template behind it
  | edit _ => .raise .missingTemplate
  | update id p => ProfileController.update id p

def ChatsRoute.action : ChatsRoute → Action Response
  | index => ChatsController.index
  | «show» id => ChatsController.show id
  | new => ChatsController.new
  | edit id => ChatsController.show id
  | create p => ChatsController.create p
  | update id p => ChatsController.update id p
  | destroy id => ChatsController.destroy id

def ChatMessagesRoute.action (u : User) : ChatMessagesRoute → Action Response
  | create message senderId now => ChatMessagesController.create u message senderId now

def CartsRoute.action (u : User) : CartsRoute → Action Response
  | index => CartsController.index u
  | create p => CartsController.create u p
  | updateQuantity p quantity => CartsController.updateQuantity u p quantity
  | checkoutMomo c => CartsController.checkoutMomo u c
  | checkout => CartsController.checkout u
  | destroy productId => CartsController.destroy u productId
  | cash randomToken => CartsController.cash u randomToken

def HistoriesRoute.action (u : User) : HistoriesRoute → Action Response
  | index => HistoriesController.index u
  | «show» id => HistoriesController.show u id

def ProductsRoute.action (u : User) : ProductsRoute → Action Response
  | index => ProductsController.index u
  | «show» id => ProductsController.show u id
  | new => ProductsController.new u
  | edit id => ProductsController.show u id
  | create p => ProductsController.create u p
  | update id p => ProductsController.update u id p
  | destroy id format => ProductsController.destroy u id format

def RoomsRoute.action (u : User) : RoomsRoute → Action Response
  | index => RoomsController.index u
  | new => RoomsController.new u
  | edit id => RoomsController.edit u id
  | create p => RoomsController.create u p
  | «import» sheet => RoomsController.import u sheet
  | update id p => RoomsController.update u id p
  | destroy id format => RoomsController.destroy u id format

def UsersRoute.action (u : User) : UsersRoute → Action Response
  | index => UsersController.index u
  | new => UsersController.new u
  | create emails role password => UsersController.create u emails role password
  | «import» sheet password => UsersController.import u sheet password
  | destroy id format => UsersController.destroy u id format

def BillsRoute.action (u : User) : BillsRoute → Action Response
  | index => BillsController.index u
  | «show» id => BillsController.show u id
  | update id format => BillsController.update u id format

def WelcomeRoute.action (u : User) : WelcomeRoute → Action Response
  | page => pure .page
  | editPassword password confirmation =>
      WelcomeController.editPassword u password confirmation

/-- The action behind a route, for the signed-in user. -/
def Route.action (u : User) : Route → Action Response
  | bookings r => r.action u
  | manageBookings mdate now => ManageBookingsController.index u mdate now
  | profile r => r.action
  | chats r => r.action
  | chatMessages r => r.action u
  | carts r => r.action u
  | histories r => r.action u
  | products r => r.action u
  | rooms r => r.action u
  | users r => r.action u
  | bills r => r.action u
  | welcome r => r.action u
  | updateAccount current password confirmation =>
      Devise.updateAccount u current password confirmation
  | cancelAccount => Devise.cancelAccount u

def OpenRoute.action : OpenRoute → Action Response
  | callback p => Api.V1.BillsController.create p
  | signUp email password confirmation => Devise.signUp email password confirmation
  | confirm id email => Devise.confirm id email
  | resetPassword id password confirmation => Devise.resetPassword id password confirmation

/-- What the application runs for a request. -/
def Request.action : Request → Action Response
  | user session route => do
      let u ← Action.authenticateUser session
      route.action u
  | «open» route => route.action

/-- The methods with `rescue StandardError`. -/
def Request.rescuePath : Request → Option String
  | user _ (.rooms (.import _)) => some "/rooms"
  | user _ (.users (.import ..)) => some "/users"
  | _ => none

/-- What the client sees: `rescue_from CanCan::AccessDenied`, Devise's
redirect to the login page, and the `rescue` of the imports. -/
def Request.respond (r : Request) (db : Db) : Except Failure Response :=
  match (r.action.eval db).1 with
  | .ok response => .ok response
  | .error .accessDenied =>
      .ok (redirectNotice "/" "You are not authorized to access this page!")
  | .error .unauthenticated => .ok (.redirect "/auth/login" none)
  | .error e =>
      match r.rescuePath with
      | some path => .ok (rescueImport path (.error e))
      | none => .error e

/-- The database after one request, run alone. -/
def step (db : Db) (r : Request) : Db := (r.action.eval db).2

/-- The database after a sequence of requests. -/
def runFrom (db : Db) (rs : List Request) : Db := rs.foldl step db

/-- Requests that leave a database alone leave it alone together. -/
theorem runFrom_eq_self {db : Db} {rs : List Request} (h : ∀ r ∈ rs, step db r = db) :
    runFrom db rs = db := by
  induction rs with
  | nil => rfl
  | cons r rs ih =>
    rw [runFrom, List.foldl_cons, h r List.mem_cons_self]
    exact ih (fun r' hr' => h r' (List.mem_cons_of_mem _ hr'))

/-! ## One request -/

/-- A request of a signed-in user is its route's action. -/
theorem step_user {db : Db} {i : Id} {u : User} (h : db.users.find? i = some u)
    (route : Route) : step db (.user (some i) route) = ((route.action u).eval db).2 := by
  simp [step, Request.action, Action.authenticateUser, h]

/-- A request of a session without a user changes nothing. -/
theorem step_unauthenticated {db : Db} {session : Option Id}
    (h : session.bind db.users.find? = none) (route : Route) :
    step db (.user session route) = db := by
  simp [step, Request.action, Action.authenticateUser, h]

/-- Every request is one of a signed-in user, one that changes nothing, or
one to an open route. -/
theorem step_cases (db : Db) (r : Request) :
    (∃ i u route, r = .user (some i) route ∧ db.users.find? i = some u ∧
      step db r = ((route.action u).eval db).2) ∨
    step db r = db ∨
    (∃ route, r = .open route ∧ step db r = (route.action.eval db).2) := by
  cases r with
  | «open» route => exact .inr (.inr ⟨route, rfl, rfl⟩)
  | user session route =>
    cases h : session.bind db.users.find? with
    | none => exact .inr (.inl (step_unauthenticated h route))
    | some u =>
      obtain ⟨i, rfl, hu⟩ := Option.bind_eq_some_iff.mp h
      exact .inl ⟨i, u, route, rfl, hu, step_user hu route⟩

end PetParadise
