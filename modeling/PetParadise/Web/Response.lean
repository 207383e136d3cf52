/-
PetParadise.Web.Response — what an action answers.

A response carries what the action hands on: the path and flash text of a
redirect, the data a template is given, the JSON of the gateway endpoint.
Markup is left out. Paths are the ones `config/routes.rb` produces.

Four actions answer JavaScript only: they write first and then ask what the
client accepts, so what they were asked to do is done when they refuse the
format.
-/
import PetParadise.Db.Statements

namespace PetParadise

inductive Response where
  /-- `redirect_to path`, with the `flash[:notice]` set before it. -/
  | redirect (path : String) (notice : Option String)
  /-- `redirect_to path, alert: …` of the two import actions. -/
  | alert (path : String) (message : String)
  /-- `redirect_to url, allow_other_host: true`. -/
  | external (url : String)
  /-- `render js: …`. -/
  | script (js : String)
  /-- A template that is given nothing the model keeps. -/
  | page
  /-- `render :new` / `render :edit` after a refused save. -/
  | invalid
  | billJson (status : Nat) (bill : Bill)
  | errorJson (status : Nat) (errors : String)
  /-- `carts/create.turbo_stream`: the number of items in the cart. -/
  | cartStream (cart : Nat)
  /-- `carts/update_quantity.turbo_stream`. -/
  | quantityStream (product : Product) (cart : Nat) (total : Int)
  /-- `carts/index`: the products shown and the total. -/
  | cartsIndex (carts : List Product) (total : Int)
  /-- `carts/checkout`. -/
  | cartsCheckout (products : List Product) (total : Int)
  | historiesIndex (histories : List Bill)
  | historiesShow (billProducts : List BillProduct)
  | bookingsIndex (bookings : List Booking)
  | manageBookings (apartment vip penthouse : List Room) (bookings : List Booking)
  | productsIndex (products : List Product)
  | productPage (product : Product)
  | roomsIndex (rooms : List Room)
  | roomPage (room : Option Room)
  | usersIndex (users : List User)
  | billsIndex (bills : List Bill)
  | billPage (bill : Option Bill)
  | chatsIndex (chats : List Chat)
  | chatPage (chat : Chat) (messages : List ChatMessage)
  deriving DecidableEq, Repr

/-- What a client accepts. The links and forms of the application's own
pages go through Turbo, which asks for a stream or HTML. -/
inductive Format where
  | turboStream
  | html
  | json
  | js
  deriving DecidableEq, Repr

/-- `respond_to` with a single `format.js { render js: … }`. -/
def respondJs (format : Format) (js : String) : Action Response :=
  if format = .js then pure (.script js) else .raise .unknownFormat

/-- Either way the database is left alone. -/
@[simp] theorem respondJs_eval_snd [Env] (format : Format) (js : String) (db : Db) :
    ((respondJs format js).eval db).2 = db := by
  unfold respondJs
  split <;> rfl

/-- `redirect_to path, notice: text`, or a flash notice set beforehand. -/
def redirectNotice (path text : String) : Response := .redirect path (some text)

end PetParadise
