/-
PetParadise.Hotel.Bookings — `app/models/booking.rb`,
`BookingsController` and `ManageBookingsController`.

The two scopes are written over relations, with the meaning ActiveRecord
7.0 gives them inside a scope body: a bare `where` (and a scope called by
its bare name) extends the relation the scope was called on, while
`Booking.where` starts again from all bookings. `or` is union. So in
`bookedR` the room filter of the caller reaches the first and the third
disjunct only.

A comparison with NULL selects nothing, which `between` says by returning
`false` as soon as one of its three values is missing.
-/
import Mathlib.Algebra.Ring.Int.Defs
import PetParadise.Accounts.Ability

namespace PetParadise

open Store

/-! ## Relations and scopes -/

/-- A query under construction: the rows its WHERE clause selects. -/
abbrev BookingRelation := Booking → Bool

namespace BookingRelation

/-- `Booking.all`. -/
def all : BookingRelation := fun _ => true

def filter (rel : BookingRelation) (p : Booking → Bool) : BookingRelation :=
  fun b => rel b && p b

def or (rel other : BookingRelation) : BookingRelation := fun b => rel b || other b

end BookingRelation

/-- SQL's `x BETWEEN lo AND hi`. -/
def between (x lo hi : Option DateTime) : Bool :=
  match x, lo, hi with
  | some x, some lo, some hi => lo ≤ x && x ≤ hi
  | _, _, _ => false

/-- A bound date, as the `datetime` it is compared as. -/
def bound (d : Option Date) : Option DateTime := d.map midnight

/-- `Booking.booked`. -/
def booked (rel : BookingRelation) (s f : Option Date) : BookingRelation :=
  (rel.filter (fun b => between b.startedAt (bound s) (bound f))).or
    (BookingRelation.all.filter (fun b => between b.finishedAt (bound s) (bound f)))

/-- `Booking.booked_r`. -/
def bookedR (rel : BookingRelation) (s f : Option Date) : BookingRelation :=
  ((rel.filter (fun b => between (bound s) b.startedAt b.finishedAt)).or
    (BookingRelation.all.filter (fun b => between (bound f) b.startedAt b.finishedAt))).or
    (booked rel s f)

/-- `sum(:quantity)`: NULLs are skipped. -/
def sumQuantity (bs : List Booking) : Int := (bs.map (·.quantity.getD 0)).sum

/-- `Booking.where(room_id: room.id).booked_r(s, f).sum(:quantity)`. -/
def Db.bookedQuantity (db : Db) (roomId : Id) (s f : Option Date) : Int :=
  sumQuantity (db.bookings.rows.filter (bookedR (fun b => b.roomId == roomId) s f))

/-! ## `BookingsController` -/

/-- The parameters of a booking. An enum value reaches the query as its
code; a name outside the enum, like an absent one, as NULL. -/
structure BookingParams where
  rType : Option Int
  weight : Option Int
  quantity : Option String
  booking : Option (DateParam × DateParam)
  deriving DecidableEq, Repr

/-- `Room.where(r_type: …, weight: …)`. -/
def Room.asked (r : Room) (p : BookingParams) : Bool :=
  r.rType.map RType.code == p.rType && r.weight.map Weight.code == p.weight

def Db.askedRooms (db : Db) (p : BookingParams) : List Room :=
  db.rooms.rows.filter (·.asked p)

namespace BookingsController

open PetParadise.Action

/-- `index`: the template lists the bookings of `current_user`. -/
def index (u : User) : Action Response := do
  let bookings ← select .bookings (fun db => db.bookings.rows.filter (·.userId == u.id))
  return .bookingsIndex bookings

/-- `booking_param`. -/
def bookingParam (p : BookingParams) : Action (DateParam × DateParam) :=
  Prog.orRaise p.booking .parameterMissing

/-- The quantity already booked of a candidate room. The dates are
converted while the scope is evaluated, before the query is sent. -/
def bookingsQuantity (p : BookingParams) (room : Room) : Action Int := do
  let dates ← bookingParam p
  let s ← Prog.ofExcept dates.1.toDate?
  let f ← Prog.ofExcept dates.2.toDate?
  select (.bookedQuantity room.id) (fun db => db.bookedQuantity room.id s f)

/-- The loop that fills `empty_room_ids`. Comparing with a NULL capacity
raises. -/
def emptyRoomIds (p : BookingParams) : List Room → Action (List Id)
  | [] => pure []
  | room :: rooms => do
      let booked ← bookingsQuantity p room
      let capacity ← Prog.orRaise room.quantity .argumentError
      let rest ← emptyRoomIds p rooms
      if booked + paramToI p.quantity > capacity then pure rest
      else pure (room.id :: rest)

/-- The record `Booking.create!` stores. -/
def newBooking (u : User) (p : BookingParams) (roomId : Id) (dates : DateParam × DateParam) :
    Booking where
  roomId := roomId
  userId := u.id
  startedAt := dates.1.toColumn
  finishedAt := dates.2.toColumn
  quantity := castInteger p.quantity

def create (u : User) (p : BookingParams) : Action Response := do
  let rooms ← select .rooms (fun db => db.askedRooms p)
  let empty ← emptyRoomIds p rooms
  match empty with
  | roomId :: _ =>
      let dates ← bookingParam p
      Prog.perform (.insertBooking (newBooking u p roomId dates))
      return redirectNotice "/bookings" "Successfully!"
  | [] =>
      return redirectNotice "/bookings"
        "The room you selected is sold out, please choose another room"

/-- The row is looked up by its bare id. -/
def destroy (id : Id) : Action Response := do
  let found ← select .bookings (fun db => db.bookings.find? id)
  let booking ← Prog.orRaise found .noMethodError
  Prog.perform (.destroyBooking booking.id)
  return redirectNotice "/bookings" "Cancel booking successfully!"

end BookingsController

namespace ManageBookingsController

open PetParadise.Action

/-- `params[:mdate]&.to_date || Time.now`, as the instant it is compared
as. A blank `mdate` has no date. -/
def shownInstant (mdate : DateParam) (now : DateTime) : Except Failure DateTime :=
  match mdate with
  | .absent => .ok now
  | .blank => .ok now
  | .unreadable => .error .dateError
  | .at t => .ok (midnight (toDate t))

def index (u : User) (mdate : DateParam) (now : DateTime) : Action Response := do
  authorize u .booking
  let at' ← Prog.ofExcept (shownInstant mdate now)
  let db ← select .bookings id
  return .manageBookings
    (db.rooms.rows.filter (·.rType == some .apartment))
    (db.rooms.rows.filter (·.rType == some .vip))
    (db.rooms.rows.filter (·.rType == some .penthouse))
    (db.bookings.rows.filter (fun b => between (some at') b.startedAt b.finishedAt))

end ManageBookingsController

end PetParadise
