/-
PetParadise.Db.Records — the tables of `db/schema.rb`.

One record type per table, with the columns the application reads or
writes, under the schema's own words. The two bookkeeping columns
`created_at` / `updated_at` are kept only where a modelled query orders by
them (`chat_messages`). A column is an `Option` where the application can
leave it NULL; a foreign key that a required `belongs_to` guards is not.

`users_roles` and `roles` appear as the list of role names of a user: the
application only ever adds and tests global roles.

Instants are microseconds since the epoch (`datetime` columns have six
fractional digits and the application runs in UTC), dates are day
numbers, and money is an integer (`decimal(10,0)`).

A `string` column holds at most 255 characters. For the four texts of a
profile the record carries that as a field, because a cash checkout copies
them into a bill, whose columns are as wide.
-/
import PetParadise.Store.Table

namespace PetParadise

open Store

/-- Primary keys. -/
abbrev Id := Nat

/-! ## Dates and instants -/

/-- Microseconds since the epoch. -/
abbrev DateTime := Int

/-- Days since the epoch. -/
abbrev Date := Int

/-- Microseconds in a day. -/
def dayLength : Int := 86400000000

/-- Ruby's `to_date` on an instant. -/
def toDate (t : DateTime) : Date := t / dayLength

/-- The instant a bare date stands for when it is compared with a
`datetime` column. -/
def midnight (d : Date) : DateTime := d * dayLength

theorem toDate_midnight (d : Date) : toDate (midnight d) = d :=
  Int.mul_ediv_cancel d (by decide)

theorem midnight_le_midnight {d e : Date} : midnight d ≤ midnight e ↔ d ≤ e :=
  Int.mul_le_mul_right (by decide)

/-! ## Enumerations -/

/-- `enum :category` of `Product`. -/
inductive Category where
  | dog | cat | bird | smallAnimal | fish
  deriving DecidableEq, Repr

/-- `enum status` of `Cart`. -/
inductive CartStatus where
  | active | inactive
  deriving DecidableEq, Repr

/-- `enum status` of `Bill`. -/
inductive BillStatus where
  | unpaid | paid | cash
  deriving DecidableEq, Repr

/-- `enum r_type` of `Room`. -/
inductive RType where
  | apartment | vip | penthouse
  deriving DecidableEq, Repr

/-- `enum weight` of `Room`. -/
inductive Weight where
  | lessThan5 | fiveToTen | tenToFifteen | fifteenToTwenty | greaterThan20
  deriving DecidableEq, Repr

/-- `enum status` of `ChatMessage`. -/
inductive MessageStatus where
  | unread | read
  deriving DecidableEq, Repr

/-- The integer an `r_type` is stored as. -/
def RType.code : RType → Int
  | .apartment => 0
  | .vip => 1
  | .penthouse => 2

/-- The integer a `weight` is stored as. -/
def Weight.code : Weight → Int
  | .lessThan5 => 0
  | .fiveToTen => 1
  | .tenToFifteen => 2
  | .fifteenToTwenty => 3
  | .greaterThan20 => 4

/-! ## Records -/

/-- What a `string` column can hold, NULL included. -/
def fitsString : Option String → Bool
  | none => true
  | some s => s.length ≤ 255

structure User where
  id : Id := 0
  email : String
  password : String := ""
  firstName : Option String := none
  lastName : Option String := none
  address : Option String := none
  phoneNumber : Option String := none
  roles : List String := []
  fits : [firstName, lastName, address, phoneNumber].all fitsString = true := by exact Eq.refl true
  deriving DecidableEq, Repr

structure Product where
  id : Id := 0
  name : Option String
  description : Option String := none
  price : Option Int
  quantity : Option Int
  category : Option Category := none
  deriving DecidableEq, Repr

structure Cart where
  id : Id := 0
  userId : Id
  productId : Id
  status : CartStatus := .active
  deriving DecidableEq, Repr

structure Bill where
  id : Id := 0
  orderId : Option String
  amount : Int
  status : BillStatus
  orderInfo : Option String
  message : Option String := none
  resultCode : Option String := none
  transId : Option String := none
  payType : Option String := none
  responseTime : Option Int := none
  userId : Id
  firstName : Option String
  lastName : Option String
  address : Option String
  phoneNumber : Option String
  isShipped : Bool := false
  deriving DecidableEq, Repr

structure BillProduct where
  id : Id := 0
  billId : Id
  productId : Id
  name : Option String
  quantity : Int
  totalAmount : Int
  deriving DecidableEq, Repr

structure Room where
  id : Id := 0
  rType : Option RType
  weight : Option Weight
  price : Option Int
  quantity : Option Int
  deriving DecidableEq, Repr

structure Booking where
  id : Id := 0
  roomId : Id
  userId : Id
  startedAt : Option DateTime
  finishedAt : Option DateTime
  quantity : Option Int
  deriving DecidableEq, Repr

structure Chat where
  id : Id := 0
  senderId : Option Id
  receiverId : Option Id := none
  deriving DecidableEq, Repr

structure ChatMessage where
  id : Id := 0
  chatId : Id
  userId : Id
  message : Option String
  status : MessageStatus := .unread
  createdAt : DateTime
  deriving DecidableEq, Repr

instance : Row User := ⟨User.id, fun i r => { r with id := i }, fun _ _ => rfl⟩
instance : Row Product := ⟨Product.id, fun i r => { r with id := i }, fun _ _ => rfl⟩
instance : Row Cart := ⟨Cart.id, fun i r => { r with id := i }, fun _ _ => rfl⟩
instance : Row Bill := ⟨Bill.id, fun i r => { r with id := i }, fun _ _ => rfl⟩
instance : Row BillProduct := ⟨BillProduct.id, fun i r => { r with id := i }, fun _ _ => rfl⟩
instance : Row Room := ⟨Room.id, fun i r => { r with id := i }, fun _ _ => rfl⟩
instance : Row Booking := ⟨Booking.id, fun i r => { r with id := i }, fun _ _ => rfl⟩
instance : Row Chat := ⟨Chat.id, fun i r => { r with id := i }, fun _ _ => rfl⟩
instance : Row ChatMessage := ⟨ChatMessage.id, fun i r => { r with id := i }, fun _ _ => rfl⟩

/-! ## The database -/

structure Db where
  users : Table User := Table.empty
  products : Table Product := Table.empty
  carts : Table Cart := Table.empty
  bills : Table Bill := Table.empty
  billProducts : Table BillProduct := Table.empty
  rooms : Table Room := Table.empty
  bookings : Table Booking := Table.empty
  chats : Table Chat := Table.empty
  chatMessages : Table ChatMessage := Table.empty
  deriving DecidableEq

/-- rolify's `has_role?` for a global role. -/
def User.hasRole (u : User) (role : String) : Bool := u.roles.contains role

end PetParadise
