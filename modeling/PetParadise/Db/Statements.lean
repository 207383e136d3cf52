/-
PetParadise.Db.Statements — the statements the application sends to its
database, and what each does.

`Stmt` lists every kind of statement some modelled action issues: the
queries (only named, since a query leaves the database alone and its
answer is computed where it is asked), the request to the payment gateway
(an effect outside the database), and the writes. `exec` is the database
together with the model layer in front of it: required `belongs_to`
associations, the ranges of the numeric columns, the 255 characters of the
`string` columns, the unique index on `users.email`, and the cascades that
`dependent: :destroy` and `after_destroy` declare. A cascade runs in one
transaction, so it is one statement here: either all of it happens or,
when a callback raises, nothing.

The two ways a model refuses a record differ. `create!` raises; `create`
returns the unsaved record and the caller goes on, which is why
`insertBill` and `insertBillProduct` succeed without effect on a missing
association.
-/
import PetParadise.Store.Pool
import PetParadise.Db.Params

namespace PetParadise

open Store

/-! ## What the statements carry -/

/-- The hash `data` of `Api::V1::BillsController#create`; its `status: 1`
is fixed. -/
structure BillNotice where
  orderInfo : Option String
  transId : Option String
  payType : Option String
  responseTime : Option Int
  message : Option String
  resultCode : Option String
  deriving DecidableEq, Repr

/-- `product_params`: an outer `none` is a key the form does not send. -/
structure ProductParams where
  name : Option (Option String) := none
  description : Option (Option String) := none
  price : Option (Option Int) := none
  quantity : Option (Option Int) := none
  category : EnumParam Category := .absent
  deriving DecidableEq, Repr

/-- `room_params`. -/
structure RoomParams where
  rType : EnumParam RType := .absent
  weight : EnumParam Weight := .absent
  price : Option (Option Int) := none
  quantity : Option (Option Int) := none
  deriving DecidableEq, Repr

/-- `user_param` of `ProfileController`, its `id` apart. -/
structure ProfileParams where
  firstName : Option (Option String) := none
  lastName : Option (Option String) := none
  address : Option (Option String) := none
  phoneNumber : Option (Option String) := none
  deriving DecidableEq, Repr

/-- `chat_params`. The table has no `status` column, so sending that key
is an unknown attribute. -/
structure ChatParams where
  senderId : Option (Option Id) := none
  receiverId : Option (Option Id) := none
  status : Bool := false
  deriving DecidableEq, Repr

/-- One entry of `items` in the gateway request. -/
structure MomoItem where
  id : String
  name : Option String
  currency : String
  quantity : Int
  totalAmount : Int
  purchaseAmount : Int
  deriving DecidableEq, Repr

/-- `data_body` of `Momo::GetPaymentUrlService#call`. -/
structure MomoRequest where
  partnerCode : String
  storeName : String
  storeId : String
  requestType : String
  ipnUrl : String
  redirectUrl : String
  orderId : String
  amount : Int
  lang : String
  orderInfo : String
  requestId : String
  extraData : String
  signature : String
  items : List MomoItem
  deriving DecidableEq, Repr

/-! ## Attribute assignment -/

/-- The texts that are sent fit their columns. -/
def ProfileParams.fits (p : ProfileParams) : Bool :=
  [p.firstName, p.lastName, p.address, p.phoneNumber].all (·.all fitsString)

theorem fitsString_getD {new : Option (Option String)} {old : Option String}
    (hnew : new.all fitsString = true) (hold : fitsString old = true) :
    fitsString (new.getD old) = true := by
  cases new with
  | none => exact hold
  | some s => exact hnew

theorem ProfileParams.fits_getD {p : ProfileParams} (hp : p.fits = true) (u : User) :
    [p.firstName.getD u.firstName, p.lastName.getD u.lastName, p.address.getD u.address,
      p.phoneNumber.getD u.phoneNumber].all fitsString = true := by
  have hu := u.fits
  simp only [ProfileParams.fits, List.all_cons, List.all_nil, Bool.and_true,
    Bool.and_eq_true] at hp hu ⊢
  exact ⟨fitsString_getD hp.1 hu.1, fitsString_getD hp.2.1 hu.2.1,
    fitsString_getD hp.2.2.1 hu.2.2.1, fitsString_getD hp.2.2.2 hu.2.2.2⟩

/-- `user.update user_param`. What does not fit is refused before it is
stored. -/
def User.assign (u : User) (p : ProfileParams) : User :=
  if h : p.fits = true then
    { u with
      firstName := p.firstName.getD u.firstName
      lastName := p.lastName.getD u.lastName
      address := p.address.getD u.address
      phoneNumber := p.phoneNumber.getD u.phoneNumber
      fits := p.fits_getD h u }
  else u

def Product.assign (r : Product) (p : ProductParams) (category : Option Category) : Product :=
  { r with
    name := p.name.getD r.name
    description := p.description.getD r.description
    price := p.price.getD r.price
    quantity := p.quantity.getD r.quantity
    category := category }

def Room.assign (r : Room) (p : RoomParams) (rType : Option RType) (weight : Option Weight) :
    Room :=
  { r with
    rType := rType
    weight := weight
    price := p.price.getD r.price
    quantity := p.quantity.getD r.quantity }

def Chat.assign (c : Chat) (p : ChatParams) : Chat :=
  { c with
    senderId := p.senderId.getD c.senderId
    receiverId := p.receiverId.getD c.receiverId }

/-- `bill.update data`. -/
def Bill.settle (b : Bill) (n : BillNotice) : Bill :=
  { b with
    status := .paid
    orderInfo := n.orderInfo
    transId := n.transId
    payType := n.payType
    responseTime := n.responseTime
    message := n.message
    resultCode := n.resultCode }

/-- The rows an `update_all` reaches: all rows of the user, or their
active rows of one product. -/
def Cart.picked (c : Cart) (userId : Id) (productId : Option Id) : Bool :=
  match productId with
  | none => c.userId == userId
  | some p => c.userId == userId && c.status == .active && c.productId == p

/-- `status: :inactive`. -/
def Cart.deactivate (c : Cart) : Cart := { c with status := .inactive }

/-- `is_shipped: true`. -/
def Bill.ship (b : Bill) : Bill := { b with isShipped := true }

/-- The two columns Devise's account pages write. -/
def User.withPassword (u : User) (password : String) : User := { u with password := password }

def User.withEmail (u : User) (email : String) : User := { u with email := email }

/-- rolify's `add_role` for a global role. -/
def User.addRole (u : User) (role : String) : User :=
  if u.hasRole role then u else { u with roles := u.roles ++ [role] }

theorem User.addRole_id (u : User) (role : String) : Row.id (u.addRole role) = Row.id u := by
  unfold User.addRole
  split <;> rfl

theorem User.assign_id (u : User) (p : ProfileParams) : Row.id (u.assign p) = Row.id u := by
  unfold User.assign
  split <;> rfl

theorem User.withPassword_id (u : User) (password : String) :
    Row.id (u.withPassword password) = Row.id u := rfl

theorem User.withEmail_id (u : User) (email : String) :
    Row.id (u.withEmail email) = Row.id u := rfl

theorem Bill.settle_id (b : Bill) (n : BillNotice) : Row.id (b.settle n) = Row.id b := rfl

theorem Bill.ship_id (b : Bill) : Row.id b.ship = Row.id b := rfl

theorem Cart.deactivate_id (c : Cart) : Row.id c.deactivate = Row.id c := rfl

theorem Chat.assign_id (c : Chat) (p : ChatParams) : Row.id (c.assign p) = Row.id c := rfl

/-! ## Statements -/

/-- Queries, by what they ask for. -/
inductive Query where
  | currentUser
  | account
  | product
  | products
  | cartTotal
  | groupedCount
  | activeCount
  | activeCarts
  | rooms
  | bookedQuantity (room : Id)
  | bookings
  | bill
  | billProducts
  | chat
  | chatMessages
  deriving DecidableEq, Repr

inductive Stmt where
  | select (q : Query)
  | post (body : MomoRequest)
  | insertCart (userId productId : Id)
  | deleteCart (id : Id)
  | deactivateCarts (userId : Id) (productId : Option Id)
  | insertBill (b : Bill)
  | insertBillProduct (l : BillProduct)
  | settleBill (id : Id) (data : BillNotice)
  | shipBill (id : Id)
  | insertProduct (p : Product)
  | updateProduct (p : Product)
  | destroyProduct (id : Id)
  | insertRoom (r : Room)
  | updateRoom (r : Room)
  | destroyRoom (id : Id)
  | insertBooking (b : Booking)
  | destroyBooking (id : Id)
  | insertUser (email password : String)
  | updateProfile (id : Id) (p : ProfileParams)
  | updatePassword (id : Id) (password : String)
  | updateEmail (id : Id) (email : String)
  | addRole (id : Id) (role : String)
  | destroyUser (id : Id)
  | insertChat (c : Chat)
  | updateChat (id : Id) (p : ChatParams)
  | destroyChat (id : Id)
  | insertChatMessage (m : ChatMessage)
  deriving DecidableEq, Repr

/-- The statements that write to the database. -/
def Stmt.isWrite : Stmt → Bool
  | .select _ => false
  | .post _ => false
  | _ => true

/-! ## The models' cascades -/

/-- `has_many :carts` and `has_many :bill_products`, `dependent: :destroy`. -/
def Db.destroyProduct (db : Db) (i : Id) : Db :=
  { db with
    carts := db.carts.delete (·.productId == i)
    billProducts := db.billProducts.delete (·.productId == i)
    products := db.products.delete (·.id == i) }

/-- `has_many :bookings, dependent: :destroy`. -/
def Db.destroyRoom (db : Db) (i : Id) : Db :=
  { db with
    bookings := db.bookings.delete (·.roomId == i)
    rooms := db.rooms.delete (·.id == i) }

/-- `has_many :chat_messages, dependent: :destroy`. -/
def Db.destroyChat (db : Db) (i : Id) : Db :=
  { db with
    chatMessages := db.chatMessages.delete (·.chatId == i)
    chats := db.chats.delete (·.id == i) }

/-- The bill a line belongs to is one of this user's. -/
def Db.lineOfUser (db : Db) (i : Id) (l : BillProduct) : Bool :=
  (db.bills.find? l.billId).any (·.userId == i)

/-- `has_many :carts`, `:bills` (each with its lines) and `:bookings`, then
the `after_destroy` block, which raises when the user has no chat. -/
def Db.destroyUser (db : Db) (i : Id) : Except Failure Db :=
  match db.chats.rows.find? (·.senderId == some i) with
  | none => .error .noMethodError
  | some chat =>
      .ok { db.destroyChat chat.id with
        carts := db.carts.delete (·.userId == i)
        billProducts := db.billProducts.delete (db.lineOfUser i)
        bills := db.bills.delete (·.userId == i)
        bookings := db.bookings.delete (·.userId == i)
        users := db.users.delete (·.id == i) }

/-! ## What a statement does -/

/-- A NULL number is in range. -/
def inRange (fits : Int → Bool) : Option Int → Bool
  | none => true
  | some n => fits n

/-- The contact texts of a bill. Its order id is a generated token and its
order info the user's email; both always fit. -/
def Bill.fits (b : Bill) : Bool :=
  [b.firstName, b.lastName, b.address, b.phoneNumber].all fitsString

def BillNotice.fits (data : BillNotice) : Bool :=
  [data.orderInfo, data.transId, data.payType, data.message, data.resultCode].all fitsString

/-- Another row of the unique index has this email. -/
def Db.emailTaken [Env] (db : Db) (i : Id) (email : String) : Bool :=
  db.users.rows.any (fun u => u.id != i && sqlEq u.email email)

def exec [Env] : Stmt → Db → Except Failure Db
  | .select _, db => .ok db
  | .post _, db => .ok db
  | .insertCart u p, db =>
      if (db.users.find? u).isSome && (db.products.find? p).isSome then
        .ok { db with carts := db.carts.insert { userId := u, productId := p } }
      else .error .recordInvalid
  | .deleteCart i, db => .ok { db with carts := db.carts.delete (·.id == i) }
  | .deactivateCarts u p, db =>
      .ok { db with carts := db.carts.modify (·.picked u p) Cart.deactivate Cart.deactivate_id }
  | .insertBill b, db =>
      if (db.users.find? b.userId).isNone then .ok db
      else if fitsDecimal b.amount then
        if b.fits then .ok { db with bills := db.bills.insert b } else .error .valueTooLong
      else .error .rangeError
  | .insertBillProduct l, db =>
      if (db.bills.find? l.billId).isNone || (db.products.find? l.productId).isNone then .ok db
      -- the name is copied from a product's, a column of the same width
      else if fitsDecimal l.totalAmount then
        .ok { db with billProducts := db.billProducts.insert l }
      else .error .rangeError
  | .settleBill i data, db =>
      if inRange fitsBigint data.responseTime then
        if data.fits then
          .ok { db with bills := db.bills.modify (·.id == i) (·.settle data) (·.settle_id data) }
        else .error .valueTooLong
      else .error .rangeError
  | .shipBill i, db =>
      .ok { db with bills := db.bills.modify (·.id == i) Bill.ship Bill.ship_id }
  | .insertProduct p, db =>
      if inRange fitsDecimal p.price && inRange fitsInteger p.quantity then
        if fitsString p.name then .ok { db with products := db.products.insert p }
        else .error .valueTooLong
      else .error .rangeError
  | .updateProduct p, db =>
      if inRange fitsDecimal p.price && inRange fitsInteger p.quantity then
        if fitsString p.name then .ok { db with products := db.products.replace p }
        else .error .valueTooLong
      else .error .rangeError
  | .destroyProduct i, db => .ok (db.destroyProduct i)
  | .insertRoom r, db =>
      if inRange fitsDecimal r.price && inRange fitsInteger r.quantity then
        .ok { db with rooms := db.rooms.insert r }
      else .error .rangeError
  | .updateRoom r, db =>
      if inRange fitsDecimal r.price && inRange fitsInteger r.quantity then
        .ok { db with rooms := db.rooms.replace r }
      else .error .rangeError
  | .destroyRoom i, db => .ok (db.destroyRoom i)
  | .insertBooking b, db =>
      if (db.users.find? b.userId).isNone || (db.rooms.find? b.roomId).isNone then
        .error .recordInvalid
      else if inRange fitsInteger b.quantity then
        .ok { db with bookings := db.bookings.insert b }
      else .error .rangeError
  | .destroyBooking i, db => .ok { db with bookings := db.bookings.delete (·.id == i) }
  | .insertUser email password, db =>
      if fitsString (some email) then
        if db.emailTaken db.users.next email then .error .recordNotUnique
        else .ok { db with users := db.users.insert { email := email, password := password } }
      else .error .valueTooLong
  | .updateProfile i p, db =>
      if p.fits then
        .ok { db with users := db.users.modify (·.id == i) (·.assign p) (·.assign_id p) }
      else .error .valueTooLong
  | .updatePassword i password, db =>
      .ok { db with users := db.users.modify (·.id == i) (·.withPassword password)
                      (·.withPassword_id password) }
  | .updateEmail i email, db =>
      if fitsString (some email) then
        if db.emailTaken i email then .error .recordNotUnique
        else .ok { db with users := db.users.modify (·.id == i) (·.withEmail email)
                             (·.withEmail_id email) }
      else .error .valueTooLong
  | .addRole i role, db =>
      if fitsString (some role) then
        .ok { db with users := db.users.modify (·.id == i) (·.addRole role) (·.addRole_id role) }
      else .error .valueTooLong
  | .destroyUser i, db => db.destroyUser i
  | .insertChat c, db => .ok { db with chats := db.chats.insert c }
  | .updateChat i p, db =>
      .ok { db with chats := db.chats.modify (·.id == i) (·.assign p) (·.assign_id p) }
  | .destroyChat i, db => .ok (db.destroyChat i)
  | .insertChatMessage m, db =>
      if (db.chats.find? m.chatId).isNone then .error .recordInvalid
      else .ok { db with chatMessages := db.chatMessages.insert m }

/-- What an action of the application is: a program over these
statements. -/
abbrev Action (α : Type) : Type := Prog Db Stmt Failure α

namespace Action

/-- A query's answer. -/
def select {α : Type} (q : Query) (f : Db → α) : Action α := Prog.query (.select q) f

@[simp] theorem only_select {α : Type} {P : Stmt → Prop} (q : Query) (f : Db → α) :
    (select q f).Only P ↔ P (.select q) := Prog.only_query _ _

/-- The action run with no other request at the database. -/
def eval [Env] {α : Type} (p : Action α) (db : Db) : Except Failure α × Db := p.run exec db

end Action

section Deployment

variable [Env]

@[simp] theorem exec_select (q : Query) (db : Db) : exec (.select q) db = .ok db := rfl

@[simp] theorem exec_post (b : MomoRequest) (db : Db) : exec (.post b) db = .ok db := rfl

namespace Action

variable {α β : Type}

@[simp] theorem eval_ret (a : α) (db : Db) : eval (.ret a) db = (.ok a, db) := rfl

@[simp] theorem eval_raise (e : Failure) (db : Db) :
    eval (.raise e : Action α) db = (.error e, db) := rfl

@[simp] theorem eval_select_bind (q : Query) (g : Db → α) (f : α → Action β) (db : Db) :
    eval (select q g >>= f) db = eval (f (g db)) db := rfl

@[simp] theorem eval_select (q : Query) (g : Db → α) (db : Db) :
    eval (select q g) db = (.ok (g db), db) := rfl

@[simp] theorem log_select_bind (q : Query) (g : Db → α) (f : α → Action β) (db : Db) :
    (select q g >>= f).log exec db = .select q :: (f (g db)).log exec db := rfl

theorem eval_bind_ok {p : Action α} {db db' : Db} {a : α} (h : eval p db = (.ok a, db'))
    (f : α → Action β) : eval (p >>= f) db = eval (f a) db' := Prog.run_bind_ok exec h f

theorem eval_bind_error {p : Action α} {db db' : Db} {e : Failure}
    (h : eval p db = (.error e, db')) (f : α → Action β) :
    eval (p >>= f) db = (.error e, db') := Prog.run_bind_error exec h f

theorem eval_bind_inv {p : Action α} {f : α → Action β} {db db'' : Db} {b : β}
    (h : eval (p >>= f) db = (.ok b, db'')) :
    ∃ a db', eval p db = (.ok a, db') ∧ eval (f a) db' = (.ok b, db'') :=
  Prog.run_bind_inv exec h

/-- A loop whose body always returns is a fold. -/
theorem eval_each {f : β → Action Unit} {g : Db → β → Db} {bs : List β}
    (hf : ∀ b ∈ bs, ∀ db, eval (f b) db = (.ok (), g db b)) (db : Db) :
    eval (Prog.each bs f) db = (.ok (), bs.foldl g db) := Prog.run_each exec hf db

/-- What the body of a loop keeps the loop keeps, also where it raises. -/
theorem eval_each_inv {I : Db → Prop} {f : β → Action Unit} {bs : List β}
    (hf : ∀ b ∈ bs, ∀ db, I db → I (eval (f b) db).2) {db : Db} (h : I db) :
    I (eval (Prog.each bs f) db).2 := Prog.run_each_inv exec hf h

theorem eval_perform_ok {w : Stmt} {db db' : Db} (h : exec w db = .ok db')
    (f : Unit → Action β) : eval (Prog.perform w >>= f) db = eval (f ()) db' :=
  Prog.run_stmt_ok exec h _

theorem eval_perform_error {w : Stmt} {db : Db} {e : Failure} (h : exec w db = .error e)
    (f : Unit → Action β) : eval (Prog.perform w >>= f) db = (.error e, db) :=
  Prog.run_stmt_error exec h _

end Action

end Deployment

end PetParadise
