/-
PetParadise.App.Pages — what the templates of the shop and the hotel show.

An action hands a few records on; its template asks for the rest itself:
the count and subtotal of a product in the cart, the products and the bill
of a history line, the room of a booking, the guests of a room. `Route.body`
is that second part, `Route.rendered` an action followed by its template,
and `Route.view` adds what the layout draws on every page: the number on
the cart and the chat windows.

Values stand for the text they are printed as. A template raises where it
sends a message to a missing value; links, forms and images are left out.
-/
import PetParadise.App.Routes
import PetParadise.Calendar.DateText
import PetParadise.Chat.LiveChat

namespace PetParadise

open Store

/-! ## What is shown -/

/-- `carts/_cart` with `carts/_subtotal`. -/
structure CartRow where
  product : Product
  count : Nat
  subtotal : Int
  deriving DecidableEq, Repr

/-- `carts/_order_summary`. -/
structure SummaryRow where
  product : Product
  count : Nat
  deriving DecidableEq, Repr

/-- `histories/_history`. -/
structure HistoryRow where
  bill : Bill
  quantity : Int
  deriving DecidableEq, Repr

/-- `histories/_cart`. -/
structure HistoryLine where
  line : BillProduct
  product : Product
  status : BillStatus
  isShipped : Bool
  deriving DecidableEq, Repr

/-- One of the user's bookings on `bookings/index`. Whether it can still be
cancelled is read off `startedAt` and the clock (`BookingRow.showsCancel`). -/
structure BookingRow where
  booking : Booking
  price : Option Int
  rType : RType
  weight : Option Weight
  startedAt : DateTime
  finishedAt : DateTime
  deriving DecidableEq, Repr

/-- `strftime("%d/%m/%Y")` on an instant. -/
def strftime (t : DateTime) : String := Calendar.dmy (Calendar.civil (toDate t))

/-- The condition in front of the Cancel link, as text against text. -/
def BookingRow.showsCancel (row : BookingRow) (now : DateTime) : Bool :=
  strftime row.startedAt ≥ strftime now

/-- A line of "List users booking". -/
structure Guest where
  firstName : Option String
  lastName : Option String
  email : String
  phoneNumber : Option String
  deriving DecidableEq, Repr

/-- `manage_bookings/_booking`. -/
structure RoomBox where
  room : Room
  count : Nat
  full : Bool
  guests : List Guest
  deriving DecidableEq, Repr

/-- The body of an answer: what a template shows, or the answer itself when
there is no template. -/
inductive Body where
  | carts (rows : List CartRow) (total : Int) (checkout : Bool)
  | checkout (user : User) (rows : List SummaryRow) (total : Int)
  | cartBadge (cart : Nat)
  | quantity (subtotal total : Int) (cart : Nat)
  | histories (rows : List HistoryRow)
  | history (rows : List HistoryLine)
  | bookings (rows : List BookingRow)
  | manageBookings (apartment vip penthouse : List RoomBox)
  | profile (user : User)
  | answer (r : Response)
  deriving DecidableEq, Repr

/-! ## Templates -/

/-- `product.price * …count`: a missing price has no `*`. -/
def Db.subtotalOf (db : Db) (u : User) (product : Product) : Except Failure Int :=
  match db.subtotal u product with
  | none => .error .noMethodError
  | some n => .ok n

def Db.cartRow (db : Db) (u : User) (product : Product) : Except Failure CartRow :=
  match db.subtotalOf u product with
  | .error e => .error e
  | .ok n => .ok ⟨product, (db.activeCartsOf u.id product.id).length, n⟩

def Db.summaryRow (db : Db) (u : User) (product : Product) : SummaryRow :=
  ⟨product, (db.activeCartsOf u.id product.id).length⟩

/-- `history.bill_products.pluck(:quantity).sum`. -/
def Db.historyRow (db : Db) (bill : Bill) : HistoryRow :=
  ⟨bill, ((db.billLines bill.id).map (·.quantity)).sum⟩

def Db.historyLine (db : Db) (line : BillProduct) : Except Failure HistoryLine :=
  match db.products.find? line.productId, db.bills.find? line.billId with
  | some product, some bill => .ok ⟨line, product, bill.status, bill.isShipped⟩
  | _, _ => .error .noMethodError

def Db.bookingRow (db : Db) (b : Booking) : Except Failure BookingRow :=
  match db.rooms.find? b.roomId, b.startedAt, b.finishedAt with
  | some room, some startedAt, some finishedAt =>
      match room.rType with
      | some rType => .ok ⟨b, room.price, rType, room.weight, startedAt, finishedAt⟩
      | none => .error .noMethodError
  | _, _, _ => .error .noMethodError

def Db.guest (db : Db) (b : Booking) : Except Failure Guest :=
  match db.users.find? b.userId with
  | none => .error .noMethodError
  | some v => .ok ⟨v.firstName, v.lastName, v.email, v.phoneNumber⟩

/-- `manage_bookings/_booking`, for the bookings of the day. -/
def Db.roomBox (db : Db) (bookings : List Booking) (room : Room) : Except Failure RoomBox :=
  let here := bookings.filter (·.roomId == room.id)
  match room.quantity with
  | none => .error .argumentError
  | some quantity =>
      match here.mapM db.guest with
      | .error e => .error e
      | .ok guests => .ok ⟨room, here.length, decide ((here.length : Int) ≥ quantity), guests⟩

/-- The template behind the answer of an action. -/
def Db.template (db : Db) (u : User) : Response → Except Failure Body
  | .cartsIndex products total => do
      let rows ← products.mapM (db.cartRow u)
      return .carts rows total (decide ((db.activeCarts u.id).length > 0))
  | .cartsCheckout products total =>
      .ok (.checkout u (products.map (db.summaryRow u)) total)
  | .cartStream cart => .ok (.cartBadge cart)
  | .quantityStream product cart total => do
      let subtotal ← db.subtotalOf u product
      return .quantity subtotal total cart
  | .historiesIndex bills => .ok (.histories (bills.map db.historyRow))
  | .historiesShow lines => do
      let rows ← lines.mapM db.historyLine
      return .history rows
  | .bookingsIndex bookings => do
      let rows ← bookings.mapM db.bookingRow
      return .bookings rows
  | .manageBookings apartment vip penthouse bookings => do
      let apartment ← apartment.mapM (db.roomBox bookings)
      let vip ← vip.mapM (db.roomBox bookings)
      let penthouse ← penthouse.mapM (db.roomBox bookings)
      return .manageBookings apartment vip penthouse
  | r => .ok (.answer r)

/-- Which template it is: the one of `profile/index` is given nothing and
asks for `current_user`. -/
def Route.body (db : Db) (u : User) : Route → Response → Except Failure Body
  | .profile .index, _ => .ok (.profile u)
  | _, r => db.template u r

/-! ## Whole pages -/

/-- What the layout draws for a signed-in user: `@cart`, the chat the
header opens, and the windows of `@chat`. -/
structure Layout where
  cart : Nat
  chatId : Option Id
  windows : List ChatWindow
  deriving DecidableEq, Repr

def Db.layout (db : Db) (u : User) (adminUrl : Bool) : Except Failure Layout :=
  match db.renderLayout u adminUrl with
  | .error e => .error e
  | .ok windows =>
      .ok ⟨(db.activeCarts u.id).length, (db.chatsOf (some u.id)).head?.map Chat.id, windows⟩

variable [Env]

/-- An action and its template. -/
def Route.rendered (r : Route) (u : User) (db : Db) : Except Failure Body :=
  match (r.action u).eval db with
  | (.error e, _) => .error e
  | (.ok response, db') => r.body db' u response

/-- A page with its layout; `@cart` and `@chat` are set before the action
runs. -/
def Route.view (r : Route) (u : User) (adminUrl : Bool) (db : Db) :
    Except Failure (Body × Layout) := do
  let body ← r.rendered u db
  let layout ← db.layout u adminUrl
  return (body, layout)

end PetParadise
