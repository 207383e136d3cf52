/-
PetParadise.Hotel.BookingsTheorems — what the availability check of
`BookingsController#create` counts, and what follows from it.

The check adds up one SUM per candidate room. Seen from the room, the sum
has two parts (`bookedQuantity_eq`): the room's own bookings that share a
day with the requested period, and STRAYS, which are bookings of other
rooms that reach the sum through the two `Booking.where` disjuncts, or own
bookings that only a period out of order brings in. The first part is why
the check is safe (`counts_common_day`, used for capacity); the second is
why a booking's outcome is not a matter of the requested rooms alone.

Running alone, the action is a function of the sums: `create_eval` writes
it without statements.
-/
import Mathlib.Algebra.Order.Group.Int
import PetParadise.Calendar.Occupancy
import PetParadise.Db.StatementsTheorems
import PetParadise.Hotel.Bookings

namespace PetParadise

open Store Calendar

/-! ## Days -/

theorem toDate_le_of_le_midnight {t : DateTime} {d : Date} (h : t ≤ midnight d) :
    toDate t ≤ d := by
  have hpos : 0 < dayLength := by decide
  calc toDate t ≤ toDate (midnight d) := Int.ediv_le_ediv hpos h
    _ = d := toDate_midnight d

theorem le_toDate_of_midnight_le {t : DateTime} {d : Date} (h : midnight d ≤ t) :
    d ≤ toDate t :=
  Int.le_ediv_of_mul_le (by decide) h

theorem midnight_toDate_le (t : DateTime) : midnight (toDate t) ≤ t :=
  Int.ediv_mul_le t (by decide)

theorem lt_midnight_of_toDate_lt {t : DateTime} {d : Date} (h : toDate t < d) : t < midnight d :=
  Int.lt_mul_of_ediv_lt (by decide) h

/-- The first midnight at or after an instant. -/
def firstDay (t : DateTime) : Date := -toDate (-t)

theorem firstDay_le_iff {t : DateTime} {d : Date} : firstDay t ≤ d ↔ t ≤ midnight d :=
  calc firstDay t ≤ d ↔ -d ≤ toDate (-t) := ⟨Int.neg_le_of_neg_le, Int.neg_le_of_neg_le⟩
    _ ↔ -d * dayLength ≤ -t := Int.le_ediv_iff_mul_le (by decide)
    _ ↔ t ≤ midnight d := by rw [Int.neg_mul, Int.neg_le_neg_iff]; rfl

/-! ## Bookings, rooms and days -/

/-- The quantity of a booking as a sum counts it. -/
def Booking.units (b : Booking) : Int := b.quantity.getD 0

/-- `started_at <= d <= finished_at`. -/
def Booking.coversDay (b : Booking) (d : Date) : Bool :=
  between (some (midnight d)) b.startedAt b.finishedAt

def Booking.occupies (roomId : Id) (b : Booking) (d : Date) : Bool :=
  b.roomId == roomId && b.coversDay d

/-- The number of units a room can hold. -/
def Room.capacity (r : Room) : Int := r.quantity.getD 0

/-- The units of a room in use on a day. -/
def Db.dayLoad (db : Db) (roomId : Id) (d : Date) : Int :=
  sumWhere Booking.units (Booking.occupies roomId · d) db.bookings.rows

/-- Some day of the period `s … f` is covered. -/
def Booking.sharesDay (b : Booking) (s f : Date) : Bool :=
  match b.startedAt, b.finishedAt with
  | some x, some y =>
      let d := max s (firstDay x)
      d ≤ f && midnight d ≤ y
  | _, _ => false

theorem Booking.coversDay_iff {b : Booking} {d : Date} :
    b.coversDay d = true ↔ ∃ x y, b.startedAt = some x ∧ b.finishedAt = some y ∧
      x ≤ midnight d ∧ midnight d ≤ y := by
  unfold Booking.coversDay between
  cases b.startedAt with
  | none => simp
  | some x => cases b.finishedAt <;> simp

theorem Booking.sharesDay_iff {b : Booking} {s f : Date} :
    b.sharesDay s f = true ↔ ∃ d, s ≤ d ∧ d ≤ f ∧ b.coversDay d = true := by
  constructor
  · intro h
    unfold Booking.sharesDay at h
    split at h
    · next x y hx hy =>
      simp only [Bool.and_eq_true, decide_eq_true_eq] at h
      refine ⟨max s (firstDay x), le_max_left _ _, h.1, coversDay_iff.mpr ⟨x, y, hx, hy, ?_, h.2⟩⟩
      exact firstDay_le_iff.mp (le_max_right _ _)
    · cases h
  · rintro ⟨d, hs, hf, hc⟩
    obtain ⟨x, y, hx, hy, hxd, hdy⟩ := coversDay_iff.mp hc
    have hmax : max s (firstDay x) ≤ d := max_le hs (firstDay_le_iff.mpr hxd)
    simp only [Booking.sharesDay, hx, hy, Bool.and_eq_true, decide_eq_true_eq]
    exact ⟨hmax.trans hf, (midnight_le_midnight.mpr hmax).trans hdy⟩

/-! ## What the check counts -/

theorem bookedR_apply (rel : BookingRelation) (s f : Date) (b : Booking) :
    bookedR rel (some s) (some f) b =
      ((rel b && between (some (midnight s)) b.startedAt b.finishedAt ||
        between (some (midnight f)) b.startedAt b.finishedAt) ||
      (rel b && between b.startedAt (some (midnight s)) (some (midnight f)) ||
        between b.finishedAt (some (midnight s)) (some (midnight f)))) := by
  simp [bookedR, booked, BookingRelation.or, BookingRelation.filter, BookingRelation.all, bound]

/-- Where the room filter is met, the four disjuncts are the touching test
of two periods of instants. -/
theorem bookedR_iff_touches {rel : BookingRelation} {s f : Date} {b : Booking} {x y : DateTime}
    (hrel : rel b = true) (hx : b.startedAt = some x) (hy : b.finishedAt = some y) :
    bookedR rel (some s) (some f) b = true ↔
      (Period.mk (midnight s) (midnight f)).Touches ⟨x, y⟩ := by
  simp only [bookedR_apply, hrel, hx, hy, between, Bool.true_and, Bool.or_eq_true,
    Bool.and_eq_true, decide_eq_true_eq, Period.Touches, Period.Covers]
  tauto

/-- Elsewhere the two disjuncts without a room filter are left, and both
ask for a last day. -/
theorem bookedR_iff_touchesEnd {rel : BookingRelation} {s f : Date} {b : Booking} {x y : DateTime}
    (hrel : rel b = false) (hx : b.startedAt = some x) (hy : b.finishedAt = some y) :
    bookedR rel (some s) (some f) b = true ↔
      (Period.mk (midnight s) (midnight f)).TouchesEnd ⟨x, y⟩ := by
  simp only [bookedR_apply, hrel, hx, hy, between, Bool.false_and, Bool.false_or, Bool.or_eq_true,
    Bool.and_eq_true, decide_eq_true_eq, Period.TouchesEnd, Period.Covers]

/-- The check misses no booking of the room that shares a day with the
period, in whatever order the days of either are. -/
theorem counts_common_day {roomId : Id} {s f d : Date} {b : Booking} (hroom : b.roomId = roomId)
    (hs : s ≤ d) (hf : d ≤ f) (hc : b.coversDay d = true) :
    bookedR (fun b => b.roomId == roomId) (some s) (some f) b = true := by
  obtain ⟨x, y, hx, hy, hxd, hdy⟩ := Booking.coversDay_iff.mp hc
  rw [bookedR_iff_touches (by simpa using hroom) hx hy]
  refine Period.touches_of_meets ⟨midnight d, ⟨?_, ?_⟩, hxd, hdy⟩
  · exact midnight_le_midnight.mpr hs
  · exact midnight_le_midnight.mpr hf

/-- The sum over the room's own bookings that share a day with the
period. -/
def Db.ownOverlap (db : Db) (roomId : Id) (s f : Date) : Int :=
  sumWhere Booking.units (fun b => b.roomId == roomId && b.sharesDay s f) db.bookings.rows

/-- A booking the check counts for a room without it being a booking of
that room that shares a day with the period. Another room's booking gets
in when it covers the period's last day or ends within the period. -/
def Booking.strays (roomId : Id) (s f : Date) (b : Booking) : Bool :=
  if b.roomId == roomId then
    !b.sharesDay s f && bookedR BookingRelation.all (some s) (some f) b
  else
    between (some (midnight f)) b.startedAt b.finishedAt ||
      between b.finishedAt (some (midnight s)) (some (midnight f))

def Db.straySum (db : Db) (roomId : Id) (s f : Date) : Int :=
  sumWhere Booking.units (Booking.strays roomId s f) db.bookings.rows

/-- An own booking whose days are in order never strays into a request
whose days are in order. -/
theorem not_strays_own {b : Booking} {roomId : Id} {s f a c : Date} (hroom : b.roomId = roomId)
    (ha : b.startedAt = some (midnight a)) (hc : b.finishedAt = some (midnight c))
    (hac : a ≤ c) (hsf : s ≤ f) : b.strays roomId s f = false := by
  have hday : ∀ x : Date, (s ≤ x ∧ x ≤ f) → (a ≤ x ∧ x ≤ c) → b.sharesDay s f = true := by
    intro x hx hx'
    refine Booking.sharesDay_iff.mpr ⟨x, hx.1, hx.2, Booking.coversDay_iff.mpr ?_⟩
    exact ⟨_, _, ha, hc, midnight_le_midnight.mpr hx'.1, midnight_le_midnight.mpr hx'.2⟩
  simp only [Booking.strays, hroom, beq_self_eq_true, if_true, Bool.and_eq_false_iff,
    Bool.not_eq_false']
  by_contra hno
  rw [not_or] at hno
  have hall : BookingRelation.all b = true := rfl
  have ht := (bookedR_iff_touches (s := s) (f := f) hall ha hc).mp (by simpa using hno.2)
  have hdays : (Period.mk s f).Touches ⟨a, c⟩ := by
    simpa only [Period.Touches, Period.Covers, midnight_le_midnight] using ht
  obtain ⟨x, hx, hx'⟩ := (Period.touches_iff_meets hsf hac).mp hdays
  exact hno.1 (hday x hx hx')

/-- The sum of the check, taken apart. -/
theorem bookedQuantity_eq (db : Db) (roomId : Id) (s f : Date) :
    db.bookedQuantity roomId (some s) (some f) =
      db.ownOverlap roomId s f + db.straySum roomId s f := by
  refine sumWhere_split Booking.units (fun b _ => ?_) (fun b _ hown => ?_)
  · cases hroom : b.roomId == roomId with
    | false =>
      simp only [bookedR_apply, Booking.strays, hroom, Bool.false_and, Bool.false_or,
        Bool.false_eq_true, if_false]
    | true =>
      have hall : bookedR (fun b => b.roomId == roomId) (some s) (some f) b =
          bookedR BookingRelation.all (some s) (some f) b := by
        rw [bookedR_apply, bookedR_apply]
        simp only [hroom, BookingRelation.all]
      have hsh : b.sharesDay s f = true →
          bookedR BookingRelation.all (some s) (some f) b = true := by
        intro hsh
        obtain ⟨d, hs, hf, hc⟩ := Booking.sharesDay_iff.mp hsh
        rw [← hall]
        exact counts_common_day (by simpa using hroom) hs hf hc
      rw [hall]
      simp only [Booking.strays, hroom, if_true, Bool.true_and]
      cases hb : b.sharesDay s f with
      | false => simp
      | true => simp [hsh hb]
  · rw [Bool.and_eq_true] at hown
    simp [Booking.strays, hown.1, hown.2]

/-! ## Capacity -/

/-- No room is overbooked on any day. -/
def Db.NotOverbooked (db : Db) : Prop :=
  ∀ room ∈ db.rooms.rows, ∀ d, db.dayLoad room.id d ≤ room.capacity

theorem Db.notOverbooked_of_no_bookings {db : Db} (hempty : db.bookings.rows = [])
    (hrooms : ∀ room ∈ db.rooms.rows, 0 ≤ room.capacity) : db.NotOverbooked := by
  intro room hroom d
  rw [Db.dayLoad, hempty, sumWhere_nil]
  exact hrooms room hroom

/-- The check of `create` in a database, for a booking about to be
stored. -/
def Db.Admits (db : Db) (b : Booking) : Prop :=
  ∀ room ∈ db.rooms.rows, room.id = b.roomId →
    db.bookedQuantity b.roomId (b.startedAt.map toDate) (b.finishedAt.map toDate) + b.units ≤
      room.capacity

/-- A booking that passes the check in the database it is stored in
overbooks no room. Neither instant has to be a whole day. -/
theorem Db.NotOverbooked.insert {db : Db} (h : db.NotOverbooked)
    (hunits : ∀ b ∈ db.bookings.rows, 0 ≤ b.units) {b : Booking} (hfit : db.Admits b) :
    { db with bookings := db.bookings.insert b }.NotOverbooked := by
  intro room hroom
  by_cases hid : room.id = b.roomId
  · have hle := hfit room hroom hid
    rw [← hid] at hle
    refine capacity_admit (h room hroom) hunits ?_ hle
    intro i _ d ha hi
    rw [Booking.occupies, Bool.and_eq_true] at ha hi
    obtain ⟨x, y, hx, hy, hxd, hdy⟩ := Booking.coversDay_iff.mp ha.2
    have hx' : b.startedAt = some x := hx
    have hy' : b.finishedAt = some y := hy
    rw [hx', hy']
    exact counts_common_day (beq_iff_eq.mp hi.1) (toDate_le_of_le_midnight hxd)
      (le_toDate_of_midnight_le hdy) hi.2
  · intro d
    have hidle : Booking.occupies room.id (Row.withId db.bookings.next b) d = false := by
      have hne : (b.roomId == room.id) = false := by simpa using Ne.symm hid
      simp only [Booking.occupies, Bool.and_eq_false_iff]
      exact .inl hne
    have hload : sumWhere Booking.units (Booking.occupies room.id · d) (db.bookings.insert b).rows =
        db.dayLoad room.id d := by
      rw [Table.rows_insert, sumWhere_append, sumWhere_singleton, hidle]
      simp [Db.dayLoad]
    exact hload.trans_le (h room hroom d)

theorem DateParam.toDate?_eq_ok {p : DateParam} {s : Option Date} (h : p.toDate? = .ok s) :
    s = p.toColumn.map toDate := by
  cases p <;> cases h <;> rfl

/-! ## The action without its statements -/

namespace BookingsController

open PetParadise.Action

/-- The sum asked for one candidate room, or the error its dates raise. -/
def quantityFor (p : BookingParams) (db : Db) (room : Room) : Except Failure Int :=
  match p.booking with
  | none => .error .parameterMissing
  | some dates =>
      match dates.1.toDate?, dates.2.toDate? with
      | .error e, _ => .error e
      | .ok _, .error e => .error e
      | .ok s, .ok f => .ok (db.bookedQuantity room.id s f)

/-- The candidates with room for `q` more units, given the sums. -/
def emptyRooms (sum : Room → Except Failure Int) (q : Int) : List Room → Except Failure (List Id)
  | [] => .ok []
  | room :: rooms =>
      match sum room, room.quantity, emptyRooms sum q rooms with
      | .error e, _, _ => .error e
      | .ok _, none, _ => .error .argumentError
      | .ok _, some _, .error e => .error e
      | .ok booked, some capacity, .ok rest =>
          if booked + q > capacity then .ok rest else .ok (room.id :: rest)

theorem eval_bookingsQuantity [Env] (p : BookingParams) (room : Room) (db : Db) :
    eval (bookingsQuantity p room) db = (quantityFor p db room, db) := by
  unfold bookingsQuantity bookingParam quantityFor
  cases p.booking with
  | none => rfl
  | some dates =>
    cases h₁ : dates.1.toDate? with
    | error e => simp [h₁]
    | ok s => cases h₂ : dates.2.toDate? <;> simp [h₁, h₂]

theorem eval_emptyRoomIds [Env] (p : BookingParams) (rooms : List Room) (db : Db) :
    eval (emptyRoomIds p rooms) db =
      (emptyRooms (quantityFor p db) (paramToI p.quantity) rooms, db) := by
  induction rooms with
  | nil => rfl
  | cons room rooms ih =>
    unfold emptyRoomIds emptyRooms
    have hq := eval_bookingsQuantity p room db
    cases hsum : quantityFor p db room with
    | error e => rw [hsum] at hq; rw [eval_bind_error hq]
    | ok booked =>
      rw [hsum] at hq
      rw [eval_bind_ok hq]
      cases hcap : room.quantity with
      | none => simp
      | some capacity =>
        simp only [Prog.orRaise_some, Prog.ret_bind]
        cases hrest : emptyRooms (quantityFor p db) (paramToI p.quantity) rooms with
        | error e => rw [hrest] at ih; rw [eval_bind_error ih]
        | ok rest =>
          rw [hrest] at ih
          rw [eval_bind_ok ih]
          by_cases hfull : booked + paramToI p.quantity > capacity <;> simp [hfull]

/-- Every room in the list has been compared and found large enough. -/
theorem emptyRooms_spec {sum : Room → Except Failure Int} {q : Int} {rooms : List Room}
    {ids : List Id} (h : emptyRooms sum q rooms = .ok ids) :
    ∀ i ∈ ids, ∃ room ∈ rooms, ∃ booked capacity, room.id = i ∧ sum room = .ok booked ∧
      room.quantity = some capacity ∧ booked + q ≤ capacity := by
  induction rooms generalizing ids with
  | nil => cases h; simp
  | cons room rooms ih =>
    intro i hi
    unfold emptyRooms at h
    split at h
    · cases h
    · cases h
    · cases h
    · next booked capacity rest hsum hcap hrest =>
      have htail : ∀ i ∈ rest, ∃ r ∈ room :: rooms, ∃ booked capacity, r.id = i ∧
          sum r = .ok booked ∧ r.quantity = some capacity ∧ booked + q ≤ capacity := by
        intro i hi
        obtain ⟨r, hr, hspec⟩ := ih hrest i hi
        exact ⟨r, List.mem_cons_of_mem _ hr, hspec⟩
      split at h
      · cases h
        exact htail i hi
      · next hfit =>
        cases h
        rcases List.mem_cons.mp hi with rfl | hi
        · exact ⟨room, List.mem_cons_self, booked, capacity, rfl, hsum, hcap, by omega⟩
        · exact htail i hi

theorem emptyRooms_congr {sum sum' : Room → Except Failure Int} {q : Int} {rooms : List Room}
    (h : ∀ room ∈ rooms, sum room = sum' room) :
    emptyRooms sum q rooms = emptyRooms sum' q rooms := by
  induction rooms with
  | nil => rfl
  | cons room rooms ih =>
    unfold emptyRooms
    rw [h room List.mem_cons_self, ih (fun r hr => h r (List.mem_cons_of_mem _ hr))]

theorem emptyRoomIds_only {P : Stmt → Prop} (hP : ∀ q, P (.select q))
    (p : BookingParams) (rooms : List Room) : (emptyRoomIds p rooms).Only P := by
  induction rooms with
  | nil => trivial
  | cons room rooms ih =>
    refine Prog.only_bind ?_ fun booked => ?_
    · simp [bookingsQuantity, bookingParam, hP]
    · simp only [only_orRaise_bind]
      intro capacity _
      refine Prog.only_bind ih fun rest => ?_
      split <;> trivial

theorem create_only {P : Stmt → Prop} (hsel : ∀ q, P (.select q)) (u : User)
    (p : BookingParams) (hins : ∀ roomId dates, P (.insertBooking (newBooking u p roomId dates))) :
    (create u p).Only P := by
  simp only [create, only_select_bind]
  refine ⟨hsel _, fun db => Prog.only_bind (emptyRoomIds_only hsel _ _) fun empty => ?_⟩
  cases empty with
  | nil => trivial
  | cons roomId _ => simp [bookingParam, hins]

/-- What `create` does once the candidates have been compared. -/
def book (u : User) (p : BookingParams) : Except Failure (List Id) → Action Response
  | .error e => .raise e
  | .ok [] => pure (redirectNotice "/bookings"
      "The room you selected is sold out, please choose another room")
  | .ok (roomId :: _) => do
      let dates ← bookingParam p
      Prog.perform (.insertBooking (newBooking u p roomId dates))
      return redirectNotice "/bookings" "Successfully!"

/-- Alone at the database, `create` compares the sums it finds and books
the first room that is large enough. -/
theorem create_eval [Env] (u : User) (p : BookingParams) (db : Db) :
    eval (create u p) db =
      eval (book u p
        (emptyRooms (quantityFor p db) (paramToI p.quantity) (db.askedRooms p))) db := by
  have he := eval_emptyRoomIds p (db.askedRooms p) db
  unfold create
  rw [eval_select_bind]
  cases hids : emptyRooms (quantityFor p db) (paramToI p.quantity) (db.askedRooms p) with
  | error e => rw [hids] at he; rw [eval_bind_error he]; rfl
  | ok ids =>
    rw [hids] at he
    rw [eval_bind_ok he]
    cases ids <;> rfl

end BookingsController

/-- Why `Booking.create!` refuses a record, if it does. -/
def Db.refusal (db : Db) (b : Booking) : Option Failure :=
  if (db.users.find? b.userId).isNone || (db.rooms.find? b.roomId).isNone then
    some .recordInvalid
  else if inRange fitsInteger b.quantity then none
  else some .rangeError

theorem exec_insertBooking [Env] (db : Db) (b : Booking) :
    exec (.insertBooking b) db =
      match db.refusal b with
      | some e => .error e
      | none => .ok { db with bookings := db.bookings.insert b } := by
  simp only [exec, Db.refusal]
  split
  · rfl
  · split <;> rfl

theorem Db.refusal_congr {db db' : Db} (husers : db'.users = db.users)
    (hrooms : db'.rooms = db.rooms) (b : Booking) : db'.refusal b = db.refusal b := by
  unfold Db.refusal
  rw [husers, hrooms]

namespace BookingsController

open PetParadise.Action

/-- The branch that books, once a room is found. -/
theorem book_eval [Env] (u : User) {p : BookingParams} {dates : DateParam × DateParam}
    (hp : p.booking = some dates) (i : Id) (rest : List Id) (db : Db) :
    eval (book u p (.ok (i :: rest))) db =
      match db.refusal (newBooking u p i dates) with
      | some e => (.error e, db)
      | none => (.ok (redirectNotice "/bookings" "Successfully!"),
          { db with bookings := db.bookings.insert (newBooking u p i dates) }) := by
  simp only [book, bookingParam, hp, Prog.orRaise_some, Prog.ret_bind]
  cases href : db.refusal (newBooking u p i dates) with
  | some e => rw [eval_perform_error (by rw [exec_insertBooking, href])]
  | none =>
    rw [eval_perform_ok (by rw [exec_insertBooking, href])]
    rfl

/-- The action's effect: nothing, or one booking of a room that had been
compared and found large enough. -/
theorem create_cases [Env] (u : User) (p : BookingParams) (db : Db) :
    (eval (create u p) db).2 = db ∨
    ∃ room ∈ db.askedRooms p, ∃ dates s f capacity,
      p.booking = some dates ∧ dates.1.toDate? = .ok s ∧ dates.2.toDate? = .ok f ∧
      room.quantity = some capacity ∧
      db.bookedQuantity room.id s f + paramToI p.quantity ≤ capacity ∧
      db.refusal (newBooking u p room.id dates) = none ∧
      (eval (create u p) db).2 =
        { db with bookings := db.bookings.insert (newBooking u p room.id dates) } := by
  rw [create_eval]
  cases hids : emptyRooms (quantityFor p db) (paramToI p.quantity) (db.askedRooms p) with
  | error e => exact .inl rfl
  | ok ids =>
    cases ids with
    | nil => exact .inl rfl
    | cons i rest =>
      obtain ⟨room, hroom, booked, capacity, rfl, hsum, hcap, hfit⟩ :=
        emptyRooms_spec hids i List.mem_cons_self
      unfold quantityFor at hsum
      cases hp : p.booking with
      | none => simp [hp] at hsum
      | some dates =>
        simp only [hp] at hsum
        split at hsum
        · cases hsum
        · cases hsum
        · next s f hs hf =>
          cases hsum
          rw [book_eval u hp]
          cases href : db.refusal (newBooking u p room.id dates) with
          | some e => exact .inl rfl
          | none =>
            exact .inr ⟨room, hroom, dates, s, f, capacity, rfl, hs, hf, hcap, hfit, href, rfl⟩

/-- A request for whole days. -/
def dayRequest (rType weight : Option Int) (quantity : Option String) (s f : Date) :
    BookingParams where
  rType := rType
  weight := weight
  quantity := quantity
  booking := some (.at (midnight s), .at (midnight f))

theorem quantityFor_dayRequest (rType weight : Option Int) (quantity : Option String)
    (s f : Date) (db : Db) (room : Room) :
    quantityFor (dayRequest rType weight quantity s f) db room =
      .ok (db.bookedQuantity room.id (some s) (some f)) := by
  simp [quantityFor, dayRequest, DateParam.toDate?, toDate_midnight]

end BookingsController

/-! ## Whether the outcome depends on the requested rooms alone -/

open BookingsController

/-- The rooms of the bookings that were added. -/
def roomsBooked (before after : Db) : List Id :=
  (after.bookings.rows.drop before.bookings.rows.length).map (·.roomId)

/-- The same rooms, and the same bookings of the rooms asked for. -/
structure AgreeOnAsked (p : BookingParams) (db db' : Db) : Prop where
  users : db'.users = db.users
  rooms : db'.rooms = db.rooms
  bookings : db'.bookings.rows.filter (fun b => (db.askedRooms p).any (·.id == b.roomId)) =
    db.bookings.rows.filter (fun b => (db.askedRooms p).any (·.id == b.roomId))

/-- Same answer, same room, and every sum is about the room's own
bookings. -/
structure OutcomeLocal [Env] (u : User) (p : BookingParams) (s f : Date) (db db' : Db) : Prop where
  answer : (Action.eval (create u p) db).1 = (Action.eval (create u p) db').1
  room : roomsBooked db (Action.eval (create u p) db).2 =
    roomsBooked db' (Action.eval (create u p) db').2
  sums : ∀ x ∈ [db, db'], ∀ room ∈ x.askedRooms p,
    x.bookedQuantity room.id (some s) (some f) = x.ownOverlap room.id s f

theorem AgreeOnAsked.askedRooms {p : BookingParams} {db db' : Db} (h : AgreeOnAsked p db db') :
    db'.askedRooms p = db.askedRooms p := by
  unfold Db.askedRooms
  rw [h.rooms]

/-- The own bookings of a room asked for are among those agreed on. -/
theorem AgreeOnAsked.ownOverlap {p : BookingParams} {db db' : Db} (h : AgreeOnAsked p db db')
    {room : Room} (hroom : room ∈ db.askedRooms p) (s f : Date) :
    db'.ownOverlap room.id s f = db.ownOverlap room.id s f := by
  have hasked : ∀ x : Db, x.ownOverlap room.id s f =
      sumWhere Booking.units (fun b => b.roomId == room.id && b.sharesDay s f)
        (x.bookings.rows.filter (fun b => (db.askedRooms p).any (·.id == b.roomId))) := by
    intro x
    rw [sumWhere_filter]
    refine sumWhere_congr Booking.units fun b _ => ?_
    cases hb : b.roomId == room.id with
    | false => rfl
    | true =>
      have hany : (db.askedRooms p).any (·.id == b.roomId) = true := by
        rw [List.any_eq_true]
        exact ⟨room, hroom, by simpa using (beq_iff_eq.mp hb).symm⟩
      rw [hany, Bool.and_true]
  rw [hasked db', hasked db, h.bookings]

/-- With the candidates compared alike, the rest of the action answers
alike. -/
theorem book_congr [Env] (u : User) (p : BookingParams) (ids : Except Failure (List Id))
    {db db' : Db} (husers : db'.users = db.users) (hrooms : db'.rooms = db.rooms) :
    (Action.eval (book u p ids) db).1 = (Action.eval (book u p ids) db').1 ∧
    roomsBooked db (Action.eval (book u p ids) db).2 =
      roomsBooked db' (Action.eval (book u p ids) db').2 := by
  have hnone : ∀ x : Db, roomsBooked x x = [] := fun x => by simp [roomsBooked]
  cases ids with
  | error e => exact ⟨rfl, (hnone db).trans (hnone db').symm⟩
  | ok ids =>
    cases ids with
    | nil => exact ⟨rfl, (hnone db).trans (hnone db').symm⟩
    | cons i rest =>
      cases hp : p.booking with
      | none =>
        simp only [book, bookingParam, hp]
        exact ⟨rfl, (hnone db).trans (hnone db').symm⟩
      | some dates =>
        rw [book_eval u hp, book_eval u hp, Db.refusal_congr husers hrooms]
        cases href : db.refusal (newBooking u p i dates) with
        | some e => exact ⟨rfl, (hnone db).trans (hnone db').symm⟩
        | none => exact ⟨rfl, by simp [roomsBooked]; rfl⟩

/-- **When an outcome is local.** For a request of whole days, in two
databases that agree on the rooms asked for: answer, room and sums are a
matter of those rooms exactly when the strays of every candidate add up to
nothing in both. -/
theorem outcome_local_iff [Env] (u : User) (rType weight : Option Int) (quantity : Option String)
    (s f : Date) (db db' : Db)
    (h : AgreeOnAsked (dayRequest rType weight quantity s f) db db') :
    OutcomeLocal u (dayRequest rType weight quantity s f) s f db db' ↔
      ∀ x ∈ [db, db'], ∀ room ∈ x.askedRooms (dayRequest rType weight quantity s f),
        x.straySum room.id s f = 0 := by
  constructor
  · intro hlocal x hx room hroom
    have hsum := hlocal.sums x hx room hroom
    rw [bookedQuantity_eq] at hsum
    omega
  · intro hstray
    have hsums : ∀ x ∈ [db, db'], ∀ room ∈ x.askedRooms (dayRequest rType weight quantity s f),
        x.bookedQuantity room.id (some s) (some f) = x.ownOverlap room.id s f := by
      intro x hx room hroom
      rw [bookedQuantity_eq, hstray x hx room hroom, add_zero]
    have hcompare :
        emptyRooms (quantityFor (dayRequest rType weight quantity s f) db') (paramToI quantity)
          (db'.askedRooms (dayRequest rType weight quantity s f)) =
        emptyRooms (quantityFor (dayRequest rType weight quantity s f) db) (paramToI quantity)
          (db.askedRooms (dayRequest rType weight quantity s f)) := by
      rw [h.askedRooms]
      refine emptyRooms_congr fun room hroom => ?_
      have h₁ := hsums db (by simp) room hroom
      have h₂ := hsums db' (by simp) room (h.askedRooms ▸ hroom)
      rw [quantityFor_dayRequest, quantityFor_dayRequest, h₁, h₂, h.ownOverlap hroom]
    have hbook := book_congr u (dayRequest rType weight quantity s f)
      (emptyRooms (quantityFor (dayRequest rType weight quantity s f) db) (paramToI quantity)
        (db.askedRooms (dayRequest rType weight quantity s f))) h.users h.rooms
    refine ⟨?_, ?_, hsums⟩
    · rw [create_eval, create_eval]
      exact hbook.1.trans (by rw [← hcompare]; rfl)
    · rw [create_eval, create_eval]
      exact hbook.2.trans (by rw [← hcompare]; rfl)

/-- One VIP room and one apartment, one unit each, and a customer. -/
def twoRooms (bookings : List Booking) : Db where
  users := Table.empty.insertAll [{ email := "ann@pet.vn" }]
  rooms := Table.empty.insertAll
    [{ rType := some .vip, weight := some .lessThan5, price := some 300, quantity := some 1 },
     { rType := some .apartment, weight := some .lessThan5, price := some 200,
       quantity := some 1 }]
  bookings := Table.empty.insertAll bookings

/-- One unit of the apartment for the days `s … f`. -/
def apartmentStay (s f : Date) : Booking where
  roomId := 2
  userId := 1
  startedAt := some (midnight s)
  finishedAt := some (midnight f)
  quantity := some 1

section Example

attribute [local instance] Env.caseInsensitive

/-- A stay in the apartment that is over before the requested days begin
does not disturb a request for the VIP room. -/
theorem outcome_local_earlierStay :
    AgreeOnAsked (dayRequest (some 1) (some 0) (some "1") 10 12)
      (twoRooms [apartmentStay 3 5]) (twoRooms []) ∧
    OutcomeLocal { id := 1, email := "ann@pet.vn" }
      (dayRequest (some 1) (some 0) (some "1") 10 12) 10 12
      (twoRooms [apartmentStay 3 5]) (twoRooms []) :=
  ⟨⟨rfl, rfl, by decide⟩,
    (outcome_local_iff { id := 1, email := "ann@pet.vn" } (some 1) (some 0) (some "1") 10 12
      (twoRooms [apartmentStay 3 5]) (twoRooms []) ⟨rfl, rfl, by decide⟩).mpr (by decide)⟩

/-- A stay in the apartment on the requested days makes the empty VIP room
sold out. -/
theorem apartmentStay_sells_out_vip :
    AgreeOnAsked (dayRequest (some 1) (some 0) (some "1") 10 12)
      (twoRooms [apartmentStay 10 12]) (twoRooms []) ∧
    (Action.eval (create { id := 1, email := "ann@pet.vn" }
        (dayRequest (some 1) (some 0) (some "1") 10 12)) (twoRooms [apartmentStay 10 12])).1 =
      .ok (redirectNotice "/bookings"
        "The room you selected is sold out, please choose another room") ∧
    (Action.eval (create { id := 1, email := "ann@pet.vn" }
        (dayRequest (some 1) (some 0) (some "1") 10 12)) (twoRooms [])).1 =
      .ok (redirectNotice "/bookings" "Successfully!") ∧
    ¬ OutcomeLocal { id := 1, email := "ann@pet.vn" }
      (dayRequest (some 1) (some 0) (some "1") 10 12) 10 12
      (twoRooms [apartmentStay 10 12]) (twoRooms []) := by
  refine ⟨⟨rfl, rfl, by decide⟩, rfl, rfl, fun h => ?_⟩
  have hanswer := h.answer
  revert hanswer
  decide

end Example

end PetParadise
