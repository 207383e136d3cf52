/-
PetParadise.Hotel.AvailabilityTheorems — which booking requests are
accepted and which are refused.

Both answers are read off the sums of the candidate rooms: `refuses_iff`
says that every candidate is full, `accepts_iff` that one is not and that
the record can be stored. Everything else in this module is about the
sums, and never looks at the action again:

* over a period the sum counts every booking that shares a day with it,
  not the fullest day (`refuses_iff_period_full`);
* the dates of a request are truncated, those of a stored booking are not,
  and the difference shows on one day (`overlap_exact_iff`);
* a stay that is stored adds its quantity to the sums of later requests,
  and nothing keeps that quantity from being negative
  (`stored_stay_frees_nothing_iff`);
* a shorter period is never fuller (`Db.bookedQuantity_mono`).
-/
import Mathlib.Data.Finset.Max
import PetParadise.Hotel.BookingsTheorems

namespace PetParadise

open Store Calendar

namespace BookingsController

open PetParadise.Action

/-! ## The two answers -/

/-- The answer of the branch that books. -/
def accepted : Response := redirectNotice "/bookings" "Successfully!"

/-- The answer of the other branch. -/
def soldOut : Response :=
  redirectNotice "/bookings" "The room you selected is sold out, please choose another room"

/-- The request is answered "Successfully!". -/
def Accepts [Env] (db : Db) (u : User) (p : BookingParams) : Prop :=
  (eval (create u p) db).1 = .ok accepted

/-- The request is answered "sold out". -/
def Refuses [Env] (db : Db) (u : User) (p : BookingParams) : Prop :=
  (eval (create u p) db).1 = .ok soldOut

instance [Env] (db : Db) (u : User) (p : BookingParams) : Decidable (Accepts db u p) :=
  inferInstanceAs (Decidable (_ = _))

instance [Env] (db : Db) (u : User) (p : BookingParams) : Decidable (Refuses db u p) :=
  inferInstanceAs (Decidable (_ = _))

/-- The comparison of one candidate does not raise. -/
def Comparable (sum : Room → Except Failure Int) (room : Room) : Prop :=
  ∃ booked capacity, sum room = .ok booked ∧ room.quantity = some capacity

/-- There is room for `q` more units. -/
def fits (sum : Room → Except Failure Int) (q : Int) (room : Room) : Bool :=
  match sum room, room.quantity with
  | .ok booked, some capacity => booked + q ≤ capacity
  | _, _ => false

theorem fits_iff {sum : Room → Except Failure Int} {q : Int} {room : Room} :
    fits sum q room = true ↔ ∃ booked capacity, sum room = .ok booked ∧
      room.quantity = some capacity ∧ booked + q ≤ capacity := by
  unfold fits
  cases sum room with
  | error e => simp
  | ok booked => cases room.quantity <;> simp

/-- The loop over the candidates is a filter, if no comparison raises. -/
theorem emptyRooms_eq_ok_iff {sum : Room → Except Failure Int} {q : Int} {rooms : List Room}
    {ids : List Id} :
    emptyRooms sum q rooms = .ok ids ↔
      (∀ room ∈ rooms, Comparable sum room) ∧ ids = (rooms.filter (fits sum q)).map Room.id := by
  induction rooms generalizing ids with
  | nil => simp [emptyRooms, eq_comm]
  | cons room rooms ih =>
    unfold emptyRooms
    cases hsum : sum room with
    | error e => simp [Comparable, hsum]
    | ok booked =>
      cases hcap : room.quantity with
      | none => simp [Comparable, hsum, hcap]
      | some capacity =>
        cases hrest : emptyRooms sum q rooms with
        | error e =>
          have hnone : ¬ ∀ r ∈ rooms, Comparable sum r := by
            intro hall
            have hok := ih.mpr ⟨hall, rfl⟩
            rw [hrest] at hok
            cases hok
          simp only [List.forall_mem_cons, hnone, and_false, false_and, reduceCtorEq]
        | ok rest =>
          obtain ⟨hall, rfl⟩ := ih.mp hrest
          have hcons : ∀ r ∈ room :: rooms, Comparable sum r :=
            List.forall_mem_cons.mpr ⟨⟨booked, capacity, hsum, hcap⟩, hall⟩
          rw [and_iff_right hcons]
          by_cases hfull : booked + q > capacity
          · have hfits : fits sum q room = false := by simp [fits, hsum, hcap, hfull]
            simp [hfull, hfits, eq_comm]
          · have hfits : fits sum q room = true := by simpa [fits, hsum, hcap] using hfull
            simp [hfull, hfits, eq_comm]

/-- Only the branch without a room answers "sold out". -/
theorem book_soldOut_iff [Env] (u : User) (p : BookingParams) (ids : Except Failure (List Id))
    (db : Db) : (eval (book u p ids) db).1 = .ok soldOut ↔ ids = .ok [] := by
  have hne : accepted ≠ soldOut := by decide
  cases ids with
  | error e => simp [book]
  | ok ids =>
    cases ids with
    | nil => simp [book, soldOut]
    | cons i rest =>
      cases hp : p.booking with
      | none => simp [book, bookingParam, hp]
      | some dates =>
        rw [book_eval u hp]
        cases db.refusal (newBooking u p i dates) with
        | some e => simp
        | none => simpa [accepted] using hne

/-- A request is refused exactly when every candidate can be compared and
is full. -/
theorem refuses_iff [Env] (db : Db) (u : User) (p : BookingParams) :
    Refuses db u p ↔ ∀ room ∈ db.askedRooms p, ∃ booked capacity,
      quantityFor p db room = .ok booked ∧ room.quantity = some capacity ∧
      capacity < booked + paramToI p.quantity := by
  unfold Refuses
  rw [create_eval, book_soldOut_iff, emptyRooms_eq_ok_iff, eq_comm (a := [])]
  simp only [List.map_eq_nil_iff, List.filter_eq_nil_iff]
  constructor
  · rintro ⟨hall, hnone⟩ room hroom
    obtain ⟨booked, capacity, hsum, hcap⟩ := hall room hroom
    refine ⟨booked, capacity, hsum, hcap, ?_⟩
    have hfull := hnone room hroom
    simp only [fits, hsum, hcap, decide_eq_true_eq] at hfull
    omega
  · intro h
    refine ⟨fun room hroom => ?_, fun room hroom => ?_⟩
    · obtain ⟨booked, capacity, hsum, hcap, -⟩ := h room hroom
      exact ⟨booked, capacity, hsum, hcap⟩
    · obtain ⟨booked, capacity, hsum, hcap, hlt⟩ := h room hroom
      simp only [fits, hsum, hcap, decide_eq_true_eq]
      omega

/-- The column can hold the number that was sent; NULL counts as 0. -/
theorem inRange_castInteger (quantity : Option String) :
    inRange fitsInteger (castInteger quantity) = fitsInteger (paramToI quantity) := by
  rw [← castInteger_getD]
  cases castInteger quantity <;> rfl

/-- A record for a stored room can be stored if its user is and its
quantity fits the column. -/
theorem refusal_newBooking {db : Db} {room : Room} (hroom : room ∈ db.rooms.rows) (u : User)
    (p : BookingParams) (dates : DateParam × DateParam) :
    db.refusal (newBooking u p room.id dates) = none ↔
      (db.users.find? u.id).isSome = true ∧ fitsInteger (paramToI p.quantity) = true := by
  have hfind : db.rooms.find? room.id = some room := db.rooms.find?_of_mem hroom
  simp only [Db.refusal, newBooking, hfind, inRange_castInteger]
  cases db.users.find? u.id with
  | none => simp
  | some v => by_cases hfits : fitsInteger (paramToI p.quantity) = true <;> simp [hfits]

/-- What an accepted request has found and done. -/
theorem Accepts.stored [Env] {db : Db} {u : User} {p : BookingParams} (h : Accepts db u p) :
    (∀ room ∈ db.askedRooms p, Comparable (quantityFor p db) room) ∧
    ∃ room ∈ db.askedRooms p, ∃ dates,
      fits (quantityFor p db) (paramToI p.quantity) room = true ∧ p.booking = some dates ∧
      db.refusal (newBooking u p room.id dates) = none ∧
      (eval (create u p) db).2 =
        { db with bookings := db.bookings.insert (newBooking u p room.id dates) } := by
  unfold Accepts at h
  rw [create_eval] at h ⊢
  cases hids : emptyRooms (quantityFor p db) (paramToI p.quantity) (db.askedRooms p) with
  | error e => rw [hids] at h; cases h
  | ok ids =>
    rw [hids] at h
    obtain ⟨hall, hfilter⟩ := emptyRooms_eq_ok_iff.mp hids
    refine ⟨hall, ?_⟩
    cases ids with
    | nil =>
      have hne : soldOut ≠ accepted := by decide
      exact absurd (Except.ok.inj h) hne
    | cons i rest =>
      have hi : i ∈ ((db.askedRooms p).filter
          (fits (quantityFor p db) (paramToI p.quantity))).map Room.id := by
        rw [← hfilter]
        exact List.mem_cons_self
      obtain ⟨room, hroom, rfl⟩ := List.mem_map.mp hi
      obtain ⟨hasked, hfits⟩ := List.mem_filter.mp hroom
      obtain ⟨booked, capacity, hsum, -⟩ := hall room hasked
      cases hp : p.booking with
      | none => simp [quantityFor, hp] at hsum
      | some dates =>
        rw [book_eval u hp] at h ⊢
        cases href : db.refusal (newBooking u p room.id dates) with
        | some e => rw [href] at h; cases h
        | none => exact ⟨room, hasked, dates, hfits, rfl, href, rfl⟩

/-- A request is accepted exactly when every candidate can be compared,
one has room, and the record can be stored. -/
theorem accepts_iff [Env] (db : Db) (u : User) (p : BookingParams) :
    Accepts db u p ↔ (∀ room ∈ db.askedRooms p, Comparable (quantityFor p db) room) ∧
      (∃ room ∈ db.askedRooms p, fits (quantityFor p db) (paramToI p.quantity) room = true) ∧
      (db.users.find? u.id).isSome = true ∧ fitsInteger (paramToI p.quantity) = true := by
  constructor
  · intro h
    obtain ⟨hall, room, hasked, dates, hfits, -, href, -⟩ := h.stored
    exact ⟨hall, ⟨room, hasked, hfits⟩,
      (refusal_newBooking (List.mem_of_mem_filter hasked) u p dates).mp href⟩
  · rintro ⟨hall, ⟨room, hasked, hfits⟩, hstorable⟩
    have hids := emptyRooms_eq_ok_iff (q := paramToI p.quantity) |>.mpr ⟨hall, rfl⟩
    obtain ⟨first, rest, hfirst⟩ := List.exists_cons_of_ne_nil
      (List.ne_nil_of_mem (List.mem_filter.mpr ⟨hasked, hfits⟩))
    have hmem : first ∈ db.askedRooms p := by
      refine List.mem_of_mem_filter (p := fits (quantityFor p db) (paramToI p.quantity)) ?_
      rw [hfirst]
      exact List.mem_cons_self
    obtain ⟨booked, capacity, hsum, -⟩ := hall first hmem
    unfold Accepts
    rw [create_eval, hids, hfirst]
    cases hp : p.booking with
    | none => simp [quantityFor, hp] at hsum
    | some dates =>
      rw [List.map_cons, book_eval u hp,
        (refusal_newBooking (List.mem_of_mem_filter hmem) u p dates).mpr hstorable]
      rfl

end BookingsController

open BookingsController

/-! ## Shorter periods -/

/-- Both dates are known, and the stay does not end before it begins. -/
def Booking.InOrder (b : Booking) : Prop :=
  ∃ x y, b.startedAt = some x ∧ b.finishedAt = some y ∧ x ≤ y

/-- A booking the check counts for a period is counted for every longer
one. Single disjuncts may turn false; what carries over is the touching
test they make up, with the room filter and without. -/
theorem bookedR_mono {rel : BookingRelation} {b : Booking} (hb : b.InOrder) {s f s' f' : Date}
    (hs : s ≤ s') (hsf : s' ≤ f') (hf : f' ≤ f)
    (h : bookedR rel (some s') (some f') b = true) :
    bookedR rel (some s) (some f) b = true := by
  obtain ⟨x, y, hx, hy, hxy⟩ := hb
  have hwithin : (Period.mk (midnight s') (midnight f')).Within ⟨midnight s, midnight f⟩ :=
    ⟨midnight_le_midnight.mpr hs, midnight_le_midnight.mpr hf⟩
  have hord : midnight s' ≤ midnight f' := midnight_le_midnight.mpr hsf
  cases hrel : rel b with
  | true =>
    rw [bookedR_iff_touches hrel hx hy] at h ⊢
    exact Period.touches_mono hwithin hord hxy h
  | false =>
    rw [bookedR_iff_touchesEnd hrel hx hy] at h ⊢
    exact Period.touchesEnd_mono hwithin hord h

/-- A shorter period is not fuller. -/
theorem Db.bookedQuantity_mono {db : Db} (hdays : ∀ b ∈ db.bookings.rows, b.InOrder)
    (hunits : ∀ b ∈ db.bookings.rows, 0 ≤ b.units) (roomId : Id) {s f s' f' : Date}
    (hs : s ≤ s') (hsf : s' ≤ f') (hf : f' ≤ f) :
    db.bookedQuantity roomId (some s') (some f') ≤ db.bookedQuantity roomId (some s) (some f) :=
  sumWhere_le_sumWhere hunits fun b hb => bookedR_mono (hdays b hb) hs hsf hf

/-- **A smaller stay is never harder to get.** Where bookings are whole
days in order and hold no negative quantity, a request that asks for no
more units on no other days than an accepted one is not refused, and is
accepted if its quantity can be stored. -/
theorem smaller_stay_accepted [Env] (db : Db) (u v : User) (rType weight : Option Int)
    (quantity quantity' : Option String) (s f s' f' : Date)
    (hdays : ∀ b ∈ db.bookings.rows, b.InOrder) (hunits : ∀ b ∈ db.bookings.rows, 0 ≤ b.units)
    (hv : (db.users.find? v.id).isSome = true)
    (hs : s ≤ s') (hsf : s' ≤ f') (hf : f' ≤ f) (hq : paramToI quantity' ≤ paramToI quantity)
    (h : Accepts db u (dayRequest rType weight quantity s f)) :
    ¬ Refuses db v (dayRequest rType weight quantity' s' f') ∧
    (-2147483648 ≤ paramToI quantity' →
      Accepts db v (dayRequest rType weight quantity' s' f')) := by
  obtain ⟨hall, ⟨room, hroom, hfits⟩, -, hrange⟩ := (accepts_iff _ _ _).mp h
  obtain ⟨booked, capacity, hsum, hcap, hle⟩ := fits_iff.mp hfits
  rw [quantityFor_dayRequest, Except.ok.injEq] at hsum
  have hroom' : room ∈ db.askedRooms (dayRequest rType weight quantity' s' f') := hroom
  have hsmaller :
      db.bookedQuantity room.id (some s') (some f') + paramToI quantity' ≤ capacity := by
    have hmono := db.bookedQuantity_mono hdays hunits room.id hs hsf hf
    have hle' : booked + paramToI quantity ≤ capacity := hle
    omega
  constructor
  · intro hno
    obtain ⟨booked', capacity', hsum', hcap', hlt⟩ := (refuses_iff _ _ _).mp hno room hroom'
    rw [quantityFor_dayRequest, Except.ok.injEq] at hsum'
    rw [hcap, Option.some.injEq] at hcap'
    have hlt' : capacity' < booked' + paramToI quantity' := hlt
    omega
  · intro hlow
    refine (accepts_iff _ _ _).mpr ⟨fun r hr => ?_, ⟨room, hroom', ?_⟩, hv, ?_⟩
    · obtain ⟨-, c, -, hc⟩ := hall r hr
      exact ⟨_, c, quantityFor_dayRequest .., hc⟩
    · exact fits_iff.mpr ⟨_, capacity, quantityFor_dayRequest .., hcap, hsmaller⟩
    · have hrange' : fitsInteger (paramToI quantity) = true := hrange
      change fitsInteger (paramToI quantity') = true
      simp only [fitsInteger, Bool.and_eq_true, decide_eq_true_eq] at hrange' ⊢
      omega

section Example

attribute [local instance] Env.caseInsensitive

/-- The apartment is taken for days 3 to 5; of the VIP room, days 10 to 12
are asked for, then day 11 alone. -/
theorem smaller_stay_accepted_oneDay :
    Accepts (twoRooms [apartmentStay 3 5]) { id := 1, email := "ann@pet.vn" }
      (dayRequest (some 1) (some 0) (some "1") 10 12) ∧
    Accepts (twoRooms [apartmentStay 3 5]) { id := 1, email := "ann@pet.vn" }
      (dayRequest (some 1) (some 0) (some "1") 11 11) := by
  have hdays : ∀ b ∈ (twoRooms [apartmentStay 3 5]).bookings.rows, b.InOrder := by
    intro b hb
    rw [List.mem_singleton.mp hb]
    exact ⟨midnight 3, midnight 5, rfl, rfl, by decide⟩
  have hlong : Accepts (twoRooms [apartmentStay 3 5]) { id := 1, email := "ann@pet.vn" }
      (dayRequest (some 1) (some 0) (some "1") 10 12) := by decide
  exact ⟨hlong, (smaller_stay_accepted (twoRooms [apartmentStay 3 5])
    { id := 1, email := "ann@pet.vn" } { id := 1, email := "ann@pet.vn" } (some 1) (some 0)
    (some "1") (some "1") 10 12 11 11 hdays (by decide) (by decide) (by decide) (by decide)
    (by decide) (by decide) hlong).2 (by decide)⟩

/-- A quantity below what the column holds raises instead of being
stored. -/
theorem smaller_quantity_out_of_range :
    Accepts (twoRooms []) { id := 1, email := "ann@pet.vn" }
      (dayRequest (some 1) (some 0) (some "1") 10 12) ∧
    paramToI (some "-2147483649") ≤ paramToI (some "1") ∧
    (Action.eval (create { id := 1, email := "ann@pet.vn" }
      (dayRequest (some 1) (some 0) (some "-2147483649") 10 12)) (twoRooms [])).1 =
        .error .rangeError ∧
    ¬ Accepts (twoRooms []) { id := 1, email := "ann@pet.vn" }
      (dayRequest (some 1) (some 0) (some "-2147483649") 10 12) := by
  refine ⟨by decide, by decide, by decide, by decide⟩

end Example

/-! ## Sums over a period -/

/-- From one whole day to another, not before it. -/
def Booking.OnWholeDays (b : Booking) : Prop :=
  ∃ a c, b.startedAt = some (midnight a) ∧ b.finishedAt = some (midnight c) ∧ a ≤ c

/-- With no other room's bookings in the way, the sum is over the bookings
that share a day with the period. -/
theorem Db.bookedQuantity_eq_ownOverlap {db : Db} {roomId : Id}
    (hown : ∀ b ∈ db.bookings.rows, b.roomId = roomId)
    (hdays : ∀ b ∈ db.bookings.rows, b.OnWholeDays) {s f : Date} (hsf : s ≤ f) :
    db.bookedQuantity roomId (some s) (some f) = db.ownOverlap roomId s f := by
  have hstray : db.straySum roomId s f = 0 := by
    apply sumWhere_eq_zero
    intro b hb
    obtain ⟨a, c, ha, hc, hac⟩ := hdays b hb
    exact not_strays_own (hown b hb) ha hc hac hsf
  rw [bookedQuantity_eq, hstray, add_zero]

/-- Bookings that share a day with the period and all cover one of its days
are what is booked on that day. -/
theorem Db.ownOverlap_eq_dayLoad {db : Db} (roomId : Id) {s f d : Date} (hs : s ≤ d) (hf : d ≤ f)
    (hd : ∀ b ∈ db.bookings.rows, b.sharesDay s f = true → b.coversDay d = true) :
    db.ownOverlap roomId s f = db.dayLoad roomId d := by
  refine sumWhere_congr Booking.units fun b hb => ?_
  have hiff : b.sharesDay s f = b.coversDay d := by
    rw [Bool.eq_iff_iff]
    exact ⟨hd b hb, fun hc => Booking.sharesDay_iff.mpr ⟨d, hs, hf, hc⟩⟩
  rw [Booking.occupies, hiff]

/-- **What "sold out" says.** In a hotel with one room, whose bookings are
whole days in order, a request for whole days is refused exactly when the
bookings that share a day with the period, all added up, leave no room for
it. If they all cover one day of the period, that day is too full; if they
do not, no day need be. -/
theorem refuses_iff_period_full [Env] (db : Db) (room : Room) (u : User) (quantity : Option String)
    (s f : Date) (hrooms : db.rooms.rows = [room])
    (hown : ∀ b ∈ db.bookings.rows, b.roomId = room.id)
    (hdays : ∀ b ∈ db.bookings.rows, b.OnWholeDays) (hsf : s ≤ f) :
    (Refuses db u (dayRequest (room.rType.map RType.code) (room.weight.map Weight.code)
        quantity s f) ↔
      ∃ capacity, room.quantity = some capacity ∧
        capacity < db.ownOverlap room.id s f + paramToI quantity) ∧
    ∀ d, s ≤ d → d ≤ f →
      (∀ b ∈ db.bookings.rows, b.sharesDay s f = true → b.coversDay d = true) →
      Refuses db u (dayRequest (room.rType.map RType.code) (room.weight.map Weight.code)
        quantity s f) →
      room.capacity < db.dayLoad room.id d + paramToI quantity := by
  have hasked : db.askedRooms (dayRequest (room.rType.map RType.code)
      (room.weight.map Weight.code) quantity s f) = [room] := by
    simp [Db.askedRooms, hrooms, Room.asked, dayRequest]
  have hiff : Refuses db u (dayRequest (room.rType.map RType.code) (room.weight.map Weight.code)
        quantity s f) ↔
      ∃ capacity, room.quantity = some capacity ∧
        capacity < db.ownOverlap room.id s f + paramToI quantity := by
    rw [refuses_iff, hasked]
    simp only [List.forall_mem_singleton, quantityFor_dayRequest, Except.ok.injEq,
      db.bookedQuantity_eq_ownOverlap hown hdays hsf]
    constructor
    · rintro ⟨booked, capacity, rfl, hcap, hlt⟩
      exact ⟨capacity, hcap, hlt⟩
    · rintro ⟨capacity, hcap, hlt⟩
      exact ⟨_, capacity, rfl, hcap, hlt⟩
  refine ⟨hiff, fun d hs hf hd h => ?_⟩
  obtain ⟨capacity, hcap, hlt⟩ := hiff.mp h
  rw [db.ownOverlap_eq_dayLoad room.id hs hf hd] at hlt
  rw [Room.capacity, hcap]
  exact hlt

/-- One VIP room with two units. -/
def twoUnits (bookings : List Booking) : Db where
  users := Table.empty.insertAll [{ email := "ann@pet.vn" }]
  rooms := Table.empty.insertAll
    [{ rType := some .vip, weight := some .lessThan5, price := some 300, quantity := some 2 }]
  bookings := Table.empty.insertAll bookings

/-- One unit of that room for the days `s … f`. -/
def vipStay (s f : Date) : Booking where
  roomId := 1
  userId := 1
  startedAt := some (midnight s)
  finishedAt := some (midnight f)
  quantity := some 1

theorem vipStay_onWholeDays {s f : Date} (h : s ≤ f) (i : Id) :
    Booking.OnWholeDays (Row.withId i (vipStay s f)) := ⟨s, f, rfl, rfl, h⟩

section Example

attribute [local instance] Env.caseInsensitive

/-- Two stays on one day leave nothing for that day. -/
theorem refuses_iff_period_full_oneDay :
    Refuses (twoUnits [vipStay 10 11, vipStay 11 12]) { id := 1, email := "ann@pet.vn" }
      (dayRequest (some 1) (some 0) (some "1") 11 11) ∧
    2 < (twoUnits [vipStay 10 11, vipStay 11 12]).dayLoad 1 11 + 1 := by
  have hrefused : Refuses (twoUnits [vipStay 10 11, vipStay 11 12])
      { id := 1, email := "ann@pet.vn" } (dayRequest (some 1) (some 0) (some "1") 11 11) := by
    decide
  have hdays : ∀ b ∈ (twoUnits [vipStay 10 11, vipStay 11 12]).bookings.rows, b.OnWholeDays := by
    intro b hb
    rcases List.mem_pair.mp hb with rfl | rfl
    · exact vipStay_onWholeDays (by decide) 1
    · exact vipStay_onWholeDays (by decide) 2
  exact ⟨hrefused, (refuses_iff_period_full (twoUnits [vipStay 10 11, vipStay 11 12])
    { id := 1, rType := some .vip, weight := some .lessThan5, price := some 300,
      quantity := some 2 } { id := 1, email := "ann@pet.vn" } (some "1") 11 11 rfl (by decide)
    hdays (by decide)).2 11 (by decide) (by decide) (by decide) hrefused⟩

/-- Two stays that have no day in common are added up: days 10 to 12 are
sold out though one unit is free on each of them. -/
theorem separate_stays_sold_out :
    Refuses (twoUnits [vipStay 10 10, vipStay 12 12]) { id := 1, email := "ann@pet.vn" }
      (dayRequest (some 1) (some 0) (some "1") 10 12) ∧
    ¬ ∃ d : Int, 10 ≤ d ∧ d ≤ 12 ∧
      2 < (twoUnits [vipStay 10 10, vipStay 12 12]).dayLoad 1 d + 1 := by
  refine ⟨by decide, ?_⟩
  rintro ⟨d, hlow, hhigh, hlt⟩
  have hd : d = 10 ∨ d = 11 ∨ d = 12 := by omega
  rcases hd with rfl | rfl | rfl <;> revert hlt <;> decide

end Example

/-! ## Times of day -/

/-- Whether a booking of the room is counted, for a request with any times
of day: its start is compared with the midnight that begins the last day
of the request. -/
theorem bookedR_own_iff {roomId : Id} {b : Booking} {x y s f : DateTime}
    (hroom : b.roomId = roomId) (hx : b.startedAt = some x) (hy : b.finishedAt = some y)
    (hxy : x ≤ y) (hsf : s ≤ f) :
    bookedR (fun b => b.roomId == roomId) (some (toDate s)) (some (toDate f)) b = true ↔
      x ≤ midnight (toDate f) ∧ toDate s ≤ toDate y := by
  have hdays : toDate s ≤ toDate f := Int.ediv_le_ediv (by decide) hsf
  rw [bookedR_iff_touches (by simpa using hroom) hx hy,
    Period.touches_iff_meets (midnight_le_midnight.mpr hdays) hxy,
    Period.meets_iff (midnight_le_midnight.mpr hdays) hxy]
  have hlast : midnight (toDate s) ≤ y ↔ toDate s ≤ toDate y :=
    ⟨le_toDate_of_midnight_le, fun h => (midnight_le_midnight.mpr h).trans (midnight_toDate_le y)⟩
  rw [hlast]

/-- **Where the overlap query is exact.** For a booking of the room and a
request, both in order and with any times of day: the query selects the
booking if and only if some calendar day lies in both, except when the
booking starts on the request's last day and not at its midnight. -/
theorem overlap_exact_iff (roomId : Id) (b : Booking) (x y s f : DateTime)
    (hroom : b.roomId = roomId) (hx : b.startedAt = some x) (hy : b.finishedAt = some y)
    (hxy : x ≤ y) (hsf : s ≤ f) :
    ((Period.mk (toDate s) (toDate f)).Meets ⟨toDate x, toDate y⟩ ↔
      toDate x ≤ toDate f ∧ toDate s ≤ toDate y) ∧
    ((bookedR (fun b => b.roomId == roomId) (some (toDate s)) (some (toDate f)) b = true ↔
        (Period.mk (toDate s) (toDate f)).Meets ⟨toDate x, toDate y⟩) ↔
      ¬ (toDate x = toDate f ∧ midnight (toDate x) < x)) := by
  have hmeets : (Period.mk (toDate s) (toDate f)).Meets ⟨toDate x, toDate y⟩ ↔
      toDate x ≤ toDate f ∧ toDate s ≤ toDate y :=
    Period.meets_iff (Int.ediv_le_ediv (by decide) hsf) (Int.ediv_le_ediv (by decide) hxy)
  refine ⟨hmeets, ?_⟩
  rw [hmeets, bookedR_own_iff hroom hx hy hxy hsf]
  constructor
  · rintro h ⟨hday, hlate⟩
    have hboth : toDate x ≤ toDate f ∧ toDate s ≤ toDate y :=
      ⟨hday.le, (Int.ediv_le_ediv (by decide) hsf).trans
        (hday.symm.le.trans (Int.ediv_le_ediv (by decide) hxy))⟩
    have hstart := (h.mpr hboth).1
    rw [← hday] at hstart
    exact absurd hstart (not_le.mpr hlate)
  · intro h
    refine and_congr_left fun hs => ⟨toDate_le_of_le_midnight, fun hle => ?_⟩
    rcases hle.lt_or_eq with hlt | heq
    · exact (lt_midnight_of_toDate_lt hlt).le
    · have hstart : x ≤ midnight (toDate x) := not_lt.mp fun hlate => h ⟨heq, hlate⟩
      rwa [heq] at hstart

/-- Two in the afternoon. -/
def afternoon (d : Date) : DateTime := midnight d + 50400000000

/-- A stay from the afternoon of one day to the afternoon of another. -/
def afternoonStay (s f : Date) : Booking where
  roomId := 1
  userId := 1
  startedAt := some (afternoon s)
  finishedAt := some (afternoon f)
  quantity := some 1

/-- A stay that begins before the last requested day is found. -/
theorem overlap_exact_afternoonStay :
    bookedR (fun b => b.roomId == 1) (some (toDate (afternoon 10))) (some (toDate (afternoon 12)))
      (afternoonStay 11 13) = true ∧
    (bookedR (fun b => b.roomId == 1) (some (toDate (afternoon 10))) (some (toDate (afternoon 12)))
        (afternoonStay 11 13) = true ↔
      (Period.mk (toDate (afternoon 10)) (toDate (afternoon 12))).Meets
        ⟨toDate (afternoon 11), toDate (afternoon 13)⟩) :=
  ⟨by decide, (overlap_exact_iff 1 (afternoonStay 11 13) (afternoon 11) (afternoon 13)
    (afternoon 10) (afternoon 12) rfl rfl rfl (by decide) (by decide)).2.mpr (by decide)⟩

/-- A stay that begins in the afternoon of day 12 is missed by a request
that ends on day 12. -/
theorem afternoonStay_missed :
    (afternoonStay 12 13).roomId = 1 ∧ afternoon 12 ≤ afternoon 13 ∧
    toDate (afternoon 12) ≤ toDate (midnight 12) ∧ toDate (midnight 10) ≤ toDate (afternoon 13) ∧
    bookedR (fun b => b.roomId == 1) (some (toDate (midnight 10))) (some (toDate (midnight 12)))
      (afternoonStay 12 13) = false := by
  refine ⟨by decide, by decide, by decide, by decide, by decide⟩

/-! ## Stays that free room -/

/-- Storing a booking adds its units to the sums that count it. -/
theorem Db.bookedQuantity_insert (db : Db) (b : Booking) (roomId : Id) (s f : Option Date) :
    { db with bookings := db.bookings.insert b }.bookedQuantity roomId s f =
      db.bookedQuantity roomId s f +
        if bookedR (fun b => b.roomId == roomId) s f b then b.units else 0 := by
  have hnew : bookedR (fun b => b.roomId == roomId) s f (Row.withId db.bookings.next b) =
      bookedR (fun b => b.roomId == roomId) s f b := rfl
  change sumWhere Booking.units _ (db.bookings.insert b).rows = sumWhere Booking.units _ _ + _
  rw [Table.rows_insert, sumWhere_append, sumWhere_singleton, hnew]
  rfl

/-- More is booked afterwards, if the stay's quantity is not negative. -/
theorem quantityFor_insert_le {p : BookingParams} {db : Db} {b : Booking} (hb : 0 ≤ b.units)
    {room : Room} {booked : Int} (h : quantityFor p db room = .ok booked) :
    ∃ booked', quantityFor p { db with bookings := db.bookings.insert b } room = .ok booked' ∧
      booked ≤ booked' := by
  unfold quantityFor at h ⊢
  cases hp : p.booking with
  | none => rw [hp] at h; cases h
  | some dates =>
    simp only [hp] at h ⊢
    cases hs : dates.1.toDate? with
    | error e => rw [hs] at h; cases h
    | ok s =>
      cases hf : dates.2.toDate? with
      | error e => rw [hs, hf] at h; cases h
      | ok f =>
        rw [hs, hf] at h
        cases h
        refine ⟨_, rfl, ?_⟩
        rw [Db.bookedQuantity_insert]
        split <;> omega

/-- The whole days from the earlier to the later of two, in which a stay
between the two is counted for every room. -/
theorem bookedR_spanning (rel : BookingRelation) {b : Booking} {s f : Date}
    (hf : b.finishedAt = some (midnight f)) :
    bookedR rel (some (min s f)) (some (max s f)) b = true := by
  have hlow : midnight (min s f) ≤ midnight f := midnight_le_midnight.mpr (min_le_right _ _)
  have hhigh : midnight f ≤ midnight (max s f) := midnight_le_midnight.mpr (le_max_right _ _)
  simp [bookedR_apply, hf, between, hlow, hhigh]

/-- A stored stay with a negative quantity lets a request through that was
refused: one unit more than the emptiest candidate had left. -/
theorem exists_freed [Env] {db : Db} {b : Booking} {s f : Date} (rType weight : Option Int)
    (v : User) (hf : b.finishedAt = some (midnight f)) (hneg : b.units < 0)
    (hcaps : ∀ r ∈ db.askedRooms (dayRequest rType weight none s f), ∃ c, r.quantity = some c)
    (hsome : ∃ r, r ∈ db.askedRooms (dayRequest rType weight none s f)) :
    ∃ p, Refuses db v p ∧ ¬ Refuses { db with bookings := db.bookings.insert b } v p := by
  obtain ⟨room, hroom⟩ := hsome
  obtain ⟨most, hmost, hmax⟩ := (db.askedRooms (dayRequest rType weight none s f)).toFinset
    |>.exists_max_image
      (fun r => r.capacity - db.bookedQuantity r.id (some (min s f)) (some (max s f)))
      ⟨room, List.mem_toFinset.mpr hroom⟩
  rw [List.mem_toFinset] at hmost
  obtain ⟨n, hn⟩ : ∃ n, n = most.capacity -
      db.bookedQuantity most.id (some (min s f)) (some (max s f)) + 1 := ⟨_, rfl⟩
  have htext : paramToI (some (toString n)) = n := toI_toString n
  refine ⟨dayRequest rType weight (some (toString n)) (min s f) (max s f),
    (refuses_iff _ _ _).mpr fun r hr => ?_, fun hafter => ?_⟩
  · obtain ⟨capacity, hcap⟩ := hcaps r hr
    refine ⟨_, capacity, quantityFor_dayRequest .., hcap, ?_⟩
    have hle := hmax r (List.mem_toFinset.mpr hr)
    simp only [Room.capacity, hcap, Option.getD_some] at hle hn
    simp only [dayRequest, htext]
    omega
  · obtain ⟨booked, capacity, hsum, hcap, hlt⟩ := (refuses_iff _ _ _).mp hafter most hmost
    rw [quantityFor_dayRequest, Except.ok.injEq, Db.bookedQuantity_insert,
      bookedR_spanning _ hf, if_pos rfl] at hsum
    simp only [Room.capacity, hcap, Option.getD_some] at hn
    simp only [dayRequest, htext] at hlt
    omega

/-- **When an accepted stay frees nothing.** Whatever was refused before an
accepted request for whole days is refused after it, by whomever and for
whatever it is asked, if and only if the quantity of that request is not
negative. -/
theorem stored_stay_frees_nothing_iff [Env] (db : Db) (u : User) (rType weight : Option Int)
    (quantity : Option String) (s f : Date)
    (h : Accepts db u (dayRequest rType weight quantity s f)) :
    (∀ v p, Refuses db v p → Refuses
        (Action.eval (create u (dayRequest rType weight quantity s f)) db).2 v p) ↔
      0 ≤ paramToI quantity := by
  obtain ⟨hall, room, hroom, dates, -, hdates, -, hstored⟩ := h.stored
  have hunits : (newBooking u (dayRequest rType weight quantity s f) room.id dates).units =
      paramToI quantity := castInteger_getD quantity
  rw [hstored]
  constructor
  · intro hkeep
    by_contra hneg
    have hcaps : ∀ r ∈ db.askedRooms (dayRequest rType weight none s f),
        ∃ c, r.quantity = some c := by
      intro r hr
      obtain ⟨-, capacity, -, hcap⟩ := hall r hr
      exact ⟨capacity, hcap⟩
    cases hdates
    obtain ⟨p, hbefore, hafter⟩ := exists_freed (f := f) rType weight u rfl
      (hunits.trans_lt (not_le.mp hneg)) hcaps ⟨room, hroom⟩
    exact hafter (hkeep u p hbefore)
  · intro hq v p hrefused
    refine (refuses_iff _ _ _).mpr fun r hr => ?_
    obtain ⟨booked, capacity, hsum, hcap, hlt⟩ := (refuses_iff _ _ _).mp hrefused r hr
    obtain ⟨booked', hsum', hle⟩ := quantityFor_insert_le (hunits.symm ▸ hq) hsum
    exact ⟨booked', capacity, hsum', hcap, by omega⟩

section Example

attribute [local instance] Env.caseInsensitive

/-- A stay of two units for days 10 to 12 fills the room. -/
theorem stored_stay_frees_nothing_twoUnits :
    Accepts (twoUnits []) { id := 1, email := "ann@pet.vn" }
      (dayRequest (some 1) (some 0) (some "2") 10 12) ∧
    ∀ v p, Refuses (twoUnits []) v p → Refuses (Action.eval (create
      { id := 1, email := "ann@pet.vn" } (dayRequest (some 1) (some 0) (some "2") 10 12))
      (twoUnits [])).2 v p := by
  have haccepted : Accepts (twoUnits []) { id := 1, email := "ann@pet.vn" }
      (dayRequest (some 1) (some 0) (some "2") 10 12) := by decide
  exact ⟨haccepted, (stored_stay_frees_nothing_iff (twoUnits [])
    { id := 1, email := "ann@pet.vn" } (some 1) (some 0) (some "2") 10 12 haccepted).mpr
      (by decide)⟩

/-- Both units are taken; a stay of minus one unit is accepted, and then
another unit can be had. -/
theorem negative_stay_frees_unit :
    Accepts (twoUnits [vipStay 10 12, vipStay 10 12]) { id := 1, email := "ann@pet.vn" }
      (dayRequest (some 1) (some 0) (some "-1") 10 12) ∧
    Refuses (twoUnits [vipStay 10 12, vipStay 10 12]) { id := 1, email := "ann@pet.vn" }
      (dayRequest (some 1) (some 0) (some "1") 10 12) ∧
    Accepts (Action.eval (create { id := 1, email := "ann@pet.vn" }
        (dayRequest (some 1) (some 0) (some "-1") 10 12))
        (twoUnits [vipStay 10 12, vipStay 10 12])).2 { id := 1, email := "ann@pet.vn" }
      (dayRequest (some 1) (some 0) (some "1") 10 12) := by
  refine ⟨by decide, by decide, by decide⟩

end Example

end PetParadise
