/-
PetParadise.App.BookingPagesTheorems — what the pages about bookings say,
against what the booking engine does.

Three tests are made on these pages, each by its own means:

* the dashboard marks a room as full by counting ROWS, where the engine
  adds up QUANTITIES (`dashboard_agrees_iff`; `renders_iff` says when there
  is a page at all);
* without a date the dashboard asks for the present INSTANT, with one for
  a midnight (`todays_dashboard_iff`);
* the history offers to cancel a stay by comparing TEXTS
  (`cancel_offered_iff`).

Each result says exactly where the test and what it stands for agree.
-/
import PetParadise.App.OwnRows
import PetParadise.Hotel.AvailabilityTheorems

namespace PetParadise

open Store PetParadise.Action Calendar BookingsController

/-! ## The dashboard -/

namespace ManageBookingsController

/-- The bookings of the page for an instant. -/
def listed (db : Db) (t : DateTime) : List Booking :=
  db.bookings.rows.filter (fun b => between (some t) b.startedAt b.finishedAt)

/-- Everybody may open the page, so only the date can be in the way. -/
theorem index_eval [Env] (u : User) (mdate : DateParam) (now : DateTime) (db : Db) :
    (index u mdate now).eval db =
      ((shownInstant mdate now).map fun t => .manageBookings
        (db.rooms.rows.filter (·.rType == some .apartment))
        (db.rooms.rows.filter (·.rType == some .vip))
        (db.rooms.rows.filter (·.rType == some .penthouse)) (listed db t), db) := by
  unfold index authorize
  rw [Ability.can_booking]
  cases shownInstant mdate now <;> rfl

theorem rendered_eq [Env] (u : User) (db : Db) (mdate : DateParam) (now : DateTime) :
    Route.rendered (.manageBookings mdate now) u db =
      (shownInstant mdate now).bind fun t => db.template u (.manageBookings
        (db.rooms.rows.filter (·.rType == some .apartment))
        (db.rooms.rows.filter (·.rType == some .vip))
        (db.rooms.rows.filter (·.rType == some .penthouse)) (listed db t)) := by
  rw [Route.rendered_eval (.manageBookings mdate now) (index_eval u mdate now db)]
  cases shownInstant mdate now <;> rfl

/-- A box of the page for a day, as the template has made it. -/
theorem roomBox_of_mem [Env] {u : User} {db : Db} {t now : DateTime}
    {apartment vip penthouse : List RoomBox}
    (hpage : Route.rendered (.manageBookings (.at t) now) u db =
      .ok (.manageBookings apartment vip penthouse)) {box : RoomBox}
    (hbox : box ∈ apartment ++ vip ++ penthouse) :
    ∃ room, db.roomBox (listed db (midnight (toDate t))) room = .ok box := by
  rw [rendered_eq] at hpage
  simp only [shownInstant, Except.bind, Db.template] at hpage
  obtain ⟨boxes₁, h₁, hpage⟩ := bind_eq_ok hpage
  obtain ⟨boxes₂, h₂, hpage⟩ := bind_eq_ok hpage
  obtain ⟨boxes₃, h₃, hpage⟩ := bind_eq_ok hpage
  cases hpage
  simp only [List.mem_append] at hbox
  rcases hbox with (hb | hb) | hb
  · obtain ⟨room, -, h⟩ := exists_of_mem_mapM h₁ hb
    exact ⟨room, h⟩
  · obtain ⟨room, -, h⟩ := exists_of_mem_mapM h₂ hb
    exact ⟨room, h⟩
  · obtain ⟨room, -, h⟩ := exists_of_mem_mapM h₃ hb
    exact ⟨room, h⟩

/-- A room has its box if its quantity is known, and the user of each
booking shown in it is there. -/
theorem exists_roomBox_iff {db : Db} {bookings : List Booking} {room : Room} :
    (∃ box, db.roomBox bookings room = .ok box) ↔ room.quantity.isSome = true ∧
      ∀ b ∈ bookings, b.roomId = room.id → (db.users.find? b.userId).isSome = true := by
  have hguest : ∀ b, (∃ guest, db.guest b = .ok guest) ↔
      (db.users.find? b.userId).isSome = true := by
    intro b
    unfold Db.guest
    cases db.users.find? b.userId <;> simp
  have hguests : (∃ guests, (bookings.filter (·.roomId == room.id)).mapM db.guest = .ok guests) ↔
      ∀ b ∈ bookings, b.roomId = room.id → (db.users.find? b.userId).isSome = true := by
    simp only [exists_mapM_iff, hguest, List.mem_filter, beq_iff_eq, and_imp]
  rw [← hguests, Db.roomBox]
  cases room.quantity with
  | none => simp
  | some quantity =>
    cases (bookings.filter (·.roomId == room.id)).mapM db.guest <;> simp

/-- The page has its three lists if each room of a type has its box. -/
theorem exists_rendered_iff [Env] (u : User) (db : Db) (t now : DateTime) :
    (∃ apartment vip penthouse, Route.rendered (.manageBookings (.at t) now) u db =
        .ok (.manageBookings apartment vip penthouse)) ↔
      ∀ rType, ∃ boxes, (db.rooms.rows.filter (·.rType == some rType)).mapM
        (db.roomBox (listed db (midnight (toDate t)))) = .ok boxes := by
  rw [rendered_eq]
  simp only [shownInstant, Except.bind, Db.template]
  constructor
  · rintro ⟨_, _, _, h⟩ rType
    obtain ⟨boxes₁, h₁, h⟩ := bind_eq_ok h
    obtain ⟨boxes₂, h₂, h⟩ := bind_eq_ok h
    obtain ⟨boxes₃, h₃, -⟩ := bind_eq_ok h
    cases rType with
    | apartment => exact ⟨boxes₁, h₁⟩
    | vip => exact ⟨boxes₂, h₂⟩
    | penthouse => exact ⟨boxes₃, h₃⟩
  · intro h
    obtain ⟨boxes₁, h₁⟩ := h .apartment
    obtain ⟨boxes₂, h₂⟩ := h .vip
    obtain ⟨boxes₃, h₃⟩ := h .penthouse
    exact ⟨boxes₁, boxes₂, boxes₃, by rw [h₁, h₂, h₃]; rfl⟩

/-- **When the dashboard renders.** Every room of one of the three types has
a quantity, and the user of every booking shown is there. -/
theorem renders_iff [Env] (u : User) (db : Db) (t now : DateTime) :
    (∃ apartment vip penthouse, Route.rendered (.manageBookings (.at t) now) u db =
        .ok (.manageBookings apartment vip penthouse)) ↔
      ∀ room ∈ db.rooms.rows, room.rType.isSome = true → room.quantity.isSome = true ∧
        ∀ b ∈ listed db (midnight (toDate t)), b.roomId = room.id →
          (db.users.find? b.userId).isSome = true := by
  rw [exists_rendered_iff]
  simp only [exists_mapM_iff, exists_roomBox_iff, List.mem_filter, beq_iff_eq, and_imp]
  constructor
  · intro h room hroom htype
    obtain ⟨rType, hrType⟩ := Option.isSome_iff_exists.mp htype
    exact h rType room hroom hrType
  · intro h rType room hroom hrType
    exact h room hroom (by rw [hrType]; rfl)

end ManageBookingsController

open ManageBookingsController

/-- The number of bookings of a room that cover a day. -/
def Db.rowsOn (db : Db) (roomId : Id) (d : Date) : Nat :=
  db.bookings.rows.countP (Booking.occupies roomId · d)

/-- The units of these bookings beyond one for each. -/
def Db.extraUnits (db : Db) (roomId : Id) (d : Date) : Int :=
  sumWhere (fun b => b.units - 1) (Booking.occupies roomId · d) db.bookings.rows

/-- The database without the bookings of other rooms. -/
def Db.ownBookings (db : Db) (roomId : Id) : Db :=
  { db with bookings := db.bookings.delete (fun b => !(b.roomId == roomId)) }

/-- What a box says: how many rows, and whether that is the room's
quantity. -/
theorem Db.roomBox_eq_ok {db : Db} {d : Date} {room : Room} {box : RoomBox}
    (h : db.roomBox (listed db (midnight d)) room = .ok box) :
    box.room = room ∧ ∃ quantity, room.quantity = some quantity ∧
      (box.full = true ↔ quantity ≤ db.rowsOn room.id d) := by
  have hrows : ((listed db (midnight d)).filter (·.roomId == room.id)).length =
      db.rowsOn room.id d := by
    rw [listed, List.filter_filter, ← List.countP_eq_length_filter]
    rfl
  unfold Db.roomBox at h
  cases hq : room.quantity with
  | none => simp [hq] at h
  | some quantity =>
    simp only [hq] at h
    split at h
    · cases h
    · cases h
      refine ⟨rfl, quantity, rfl, ?_⟩
      rw [decide_eq_true_eq, hrows]

/-- Units are rows and what is beyond them. -/
theorem Db.dayLoad_eq (db : Db) (roomId : Id) (d : Date) :
    db.dayLoad roomId d = db.rowsOn roomId d + db.extraUnits roomId d := by
  unfold Db.dayLoad Db.rowsOn Db.extraUnits
  induction db.bookings.rows with
  | nil => rfl
  | cons b bs ih =>
    rw [sumWhere_cons, sumWhere_cons, List.countP_cons, ih]
    split <;> push_cast <;> omega

/-- `create` passes the room over for one more unit on a day, if no other
room's bookings are in the way. -/
def Db.PassedOver [Env] (db : Db) (room : Room) (d : Date) : Prop :=
  ((emptyRoomIds (dayRequest none none (some "1") d d) [room]).eval
    (db.ownBookings room.id)).1 = .ok []

instance [Env] (db : Db) (room : Room) (d : Date) : Decidable (db.PassedOver room d) :=
  inferInstanceAs (Decidable (_ = _))

/-- The engine's sum for one day: what covers the day, and bookings with
their days out of order that begin or end on it. -/
theorem Db.passedOver_iff [Env] {db : Db} {room : Room} {quantity : Int}
    (hq : room.quantity = some quantity) (d : Date) :
    db.PassedOver room d ↔
      quantity ≤ db.dayLoad room.id d + (db.ownBookings room.id).straySum room.id d d := by
  have hone : paramToI (some "1") = 1 := by decide
  have hown : (db.ownBookings room.id).ownOverlap room.id d d = db.dayLoad room.id d := by
    have hload : (db.ownBookings room.id).dayLoad room.id d = db.dayLoad room.id d := by
      unfold Db.dayLoad Db.ownBookings
      rw [Table.rows_delete, sumWhere_filter]
      refine sumWhere_congr Booking.units fun b _ => ?_
      cases hb : b.roomId == room.id <;> simp [Booking.occupies, hb]
    rw [Db.ownOverlap_eq_dayLoad room.id le_rfl le_rfl, hload]
    intro b _ hb
    obtain ⟨e, hs, hf, hc⟩ := Booking.sharesDay_iff.mp hb
    rwa [le_antisymm hf hs] at hc
  unfold Db.PassedOver
  rw [eval_emptyRoomIds]
  simp only [emptyRooms, quantityFor_dayRequest, hq, bookedQuantity_eq, hown]
  have hquantity : (dayRequest none none (some "1") d d).quantity = some "1" := rfl
  rw [hquantity, hone]
  split
  · simp only [true_iff]
    omega
  · simp only [Except.ok.injEq, reduceCtorEq, false_iff]
    omega

/-- The mark on the dashboard says what the day's load says, and what the
engine says. -/
structure RoomBox.Agrees [Env] (box : RoomBox) (db : Db) (d : Date) : Prop where
  load : box.full = true ↔ box.room.capacity ≤ db.dayLoad box.room.id d
  engine : box.full = true ↔ db.PassedOver box.room d

/-- **When dashboard and engine agree.** For every box of the page for a
day, of a room whose bookings have positive quantities: they agree if and
only if there are as many rows as the room has units, or still fewer than
that when everything else the engine counts is added. -/
theorem dashboard_agrees_iff [Env] (db : Db) (u : User) (t now : DateTime)
    (apartment vip penthouse : List RoomBox) (box : RoomBox)
    (hpage : Route.rendered (.manageBookings (.at t) now) u db =
      .ok (.manageBookings apartment vip penthouse))
    (hbox : box ∈ apartment ++ vip ++ penthouse)
    (hunits : ∀ b ∈ db.bookings.rows, b.roomId = box.room.id → 1 ≤ b.units) :
    box.Agrees db (toDate t) ↔
      box.room.capacity ≤ db.rowsOn box.room.id (toDate t) ∨
      db.rowsOn box.room.id (toDate t) + db.extraUnits box.room.id (toDate t) +
          (db.ownBookings box.room.id).straySum box.room.id (toDate t) (toDate t) <
        box.room.capacity := by
  obtain ⟨room, hroom⟩ := roomBox_of_mem hpage hbox
  obtain ⟨rfl, quantity, hq, hfull⟩ := Db.roomBox_eq_ok hroom
  have hcap : box.room.capacity = quantity := by rw [Room.capacity, hq]; rfl
  have hown : ∀ b ∈ (db.ownBookings box.room.id).bookings.rows, 0 ≤ b.units := by
    intro b hb
    obtain ⟨hmem, hid⟩ := List.mem_filter.mp hb
    have hle := hunits b hmem (by simpa using hid)
    omega
  have hextra : 0 ≤ db.extraUnits box.room.id (toDate t) := by
    refine sumWhere_nonneg fun b hb hocc => ?_
    rw [Booking.occupies, Bool.and_eq_true] at hocc
    have hle := hunits b hb (beq_iff_eq.mp hocc.1)
    omega
  have hstray : 0 ≤ (db.ownBookings box.room.id).straySum box.room.id (toDate t) (toDate t) :=
    sumWhere_nonneg fun b hb _ => hown b hb
  have hload := db.dayLoad_eq box.room.id (toDate t)
  have hengine := db.passedOver_iff hq (toDate t)
  rw [hcap]
  constructor
  · rintro ⟨-, hagree⟩
    rw [hfull, hengine] at hagree
    omega
  · intro h
    constructor
    · rw [hfull, hcap]
      omega
    · rw [hfull, hengine]
      omega

/-- The VIP room of `twoUnits`, as it is stored. -/
def vipRoom : Room where
  id := 1
  rType := some .vip
  weight := some .lessThan5
  price := some 300
  quantity := some 2

def annsGuestLine : Guest where
  firstName := none
  lastName := none
  email := "ann@pet.vn"
  phoneNumber := none

section Example

attribute [local instance] Env.caseInsensitive

/-- Two stays of one unit fill the room for both. -/
theorem dashboard_agrees_twoStays :
    @Route.rendered .caseInsensitive (.manageBookings (.at (midnight 11)) 0)
      { id := 1, email := "ann@pet.vn" } (twoUnits [vipStay 10 12, vipStay 11 13]) =
        .ok (.manageBookings [] [⟨vipRoom, 2, true, [annsGuestLine, annsGuestLine]⟩] []) ∧
    RoomBox.Agrees ⟨vipRoom, 2, true, [annsGuestLine, annsGuestLine]⟩
      (twoUnits [vipStay 10 12, vipStay 11 13]) 11 := by
  have hpage : @Route.rendered .caseInsensitive (.manageBookings (.at (midnight 11)) 0)
      { id := 1, email := "ann@pet.vn" } (twoUnits [vipStay 10 12, vipStay 11 13]) =
        .ok (.manageBookings [] [⟨vipRoom, 2, true, [annsGuestLine, annsGuestLine]⟩] []) := by
    decide
  exact ⟨hpage, (@dashboard_agrees_iff .caseInsensitive (twoUnits [vipStay 10 12, vipStay 11 13])
    { id := 1, email := "ann@pet.vn" } (midnight 11) 0 [] _ []
    ⟨vipRoom, 2, true, [annsGuestLine, annsGuestLine]⟩ hpage (by simp) (by decide)).mpr
      (.inl (by decide))⟩

/-- One stay of two units fills the room, and the dashboard shows it as
free. -/
theorem stay_of_two_units_unmarked :
    @Route.rendered .caseInsensitive (.manageBookings (.at (midnight 11)) 0)
      { id := 1, email := "ann@pet.vn" } (twoUnits [{ vipStay 10 12 with quantity := some 2 }]) =
        .ok (.manageBookings [] [⟨vipRoom, 1, false, [annsGuestLine]⟩] []) ∧
    vipRoom.capacity ≤ (twoUnits [{ vipStay 10 12 with quantity := some 2 }]).dayLoad 1 11 ∧
    (twoUnits [{ vipStay 10 12 with quantity := some 2 }]).PassedOver vipRoom 11 := by
  refine ⟨by decide, by decide, by decide⟩

end Example

/-! ## Today -/

/-- Two instants list the same bookings if each booking is listed at both
or at neither. -/
theorem ManageBookingsController.listed_eq_iff (db : Db) (t t' : DateTime) :
    listed db t = listed db t' ↔ ∀ b ∈ db.bookings.rows,
      (between (some t) b.startedAt b.finishedAt = true ↔
        between (some t') b.startedAt b.finishedAt = true) := by
  constructor
  · intro h b hb
    have hmem : ∀ x, b ∈ listed db x ↔ between (some x) b.startedAt b.finishedAt = true := by
      intro x
      simp [listed, hb]
    rw [← hmem t, ← hmem t', h]
  · intro h
    refine List.filter_congr fun b hb => ?_
    rw [Bool.eq_iff_iff]
    exact h b hb

/-- After midnight a stay of whole days is listed up to the day before its
last. -/
theorem between_after_midnight {t : DateTime} (ht : midnight (toDate t) < t) {a c : Date} :
    between (some t) (some (midnight a)) (some (midnight c)) = true ↔
      a ≤ toDate t ∧ toDate t < c := by
  simp only [between, Bool.and_eq_true, decide_eq_true_eq]
  refine and_congr ⟨le_toDate_of_midnight_le, fun h => ?_⟩ ⟨fun h => ?_, fun h => ?_⟩
  · exact (midnight_le_midnight.mpr h).trans ht.le
  · by_contra hle
    exact absurd (midnight_le_midnight.mpr (not_lt.mp hle)) (not_le.mpr (ht.trans_le h))
  · exact (lt_midnight_of_toDate_lt h).le

/-- **When the dashboard without a date is that of the day.** For bookings
of whole days, in whatever order: opened at an instant without `mdate`, the
page is handed what it is handed for the date of that instant, if and only
if it is midnight or no stay that covers the day ends on it. -/
theorem todays_dashboard_iff [Env] (db : Db) (u : User) (t m : DateTime) (hm : toDate m = toDate t)
    (hdays : ∀ b ∈ db.bookings.rows, ∃ a c, b.startedAt = some (midnight a) ∧
      b.finishedAt = some (midnight c)) :
    ((ManageBookingsController.index u .absent t).eval db).1 =
        ((ManageBookingsController.index u (.at m) t).eval db).1 ↔
      t = midnight (toDate t) ∨ ∀ b ∈ db.bookings.rows, b.coversDay (toDate t) = true →
        b.finishedAt ≠ some (midnight (toDate t)) := by
  have hlists : ((ManageBookingsController.index u .absent t).eval db).1 =
        ((ManageBookingsController.index u (.at m) t).eval db).1 ↔
      listed db t = listed db (midnight (toDate t)) := by
    rw [index_eval, index_eval]
    simp [shownInstant, hm, Except.map]
  rw [hlists, listed_eq_iff]
  rcases (midnight_toDate_le t).lt_or_eq with hlate | hmidnight
  · rw [or_iff_right (ne_of_gt hlate)]
    refine forall₂_congr fun b hb => ?_
    obtain ⟨a, c, ha, hc⟩ := hdays b hb
    have hnow : between (some t) b.startedAt b.finishedAt = true ↔
        a ≤ toDate t ∧ toDate t < c := by
      rw [ha, hc, between_after_midnight hlate]
    have hcovers : b.coversDay (toDate t) = true ↔ a ≤ toDate t ∧ toDate t ≤ c := by
      simp only [Booking.coversDay, ha, hc, between, Bool.and_eq_true, decide_eq_true_eq,
        midnight_le_midnight]
    have hlast : b.finishedAt = some (midnight (toDate t)) ↔ toDate t = c := by
      rw [hc, Option.some.injEq]
      refine ⟨fun h => ?_, fun h => by rw [h]⟩
      rw [← toDate_midnight c, h, toDate_midnight]
    change (_ ↔ b.coversDay (toDate t) = true) ↔ _
    rw [hnow, hcovers, ne_eq, hlast, lt_iff_le_and_ne, ← and_assoc, and_iff_left_iff_imp]
  · exact iff_of_true (fun b _ => by rw [hmidnight]) (.inl hmidnight.symm)

section Example

attribute [local instance] Env.caseInsensitive

/-- In the middle of a stay. -/
theorem todays_dashboard_midStay :
    toDate (midnight 11) = toDate (afternoon 11) ∧
    ((ManageBookingsController.index { id := 1, email := "ann@pet.vn" } .absent (afternoon 11)).eval
        (twoUnits [vipStay 10 12])).1 =
      ((ManageBookingsController.index { id := 1, email := "ann@pet.vn" } (.at (midnight 11))
        (afternoon 11)).eval (twoUnits [vipStay 10 12])).1 := by
  have hdays : ∀ b ∈ (twoUnits [vipStay 10 12]).bookings.rows, ∃ a c,
      b.startedAt = some (midnight a) ∧ b.finishedAt = some (midnight c) := by
    intro b hb
    rw [List.mem_singleton.mp hb]
    exact ⟨10, 12, rfl, rfl⟩
  exact ⟨by decide, (todays_dashboard_iff (twoUnits [vipStay 10 12])
    { id := 1, email := "ann@pet.vn" } (afternoon 11) (midnight 11) (by decide) hdays).mpr
      (.inr (by decide))⟩

/-- In the afternoon of its last day a stay is on the page for that date
and not on the page without a date. -/
theorem last_day_missing_today :
    ((ManageBookingsController.index { id := 1, email := "ann@pet.vn" } (.at (midnight 12))
        (afternoon 12)).eval (twoUnits [vipStay 10 12])).1 =
      .ok (.manageBookings [] [vipRoom] [] [{ vipStay 10 12 with id := 1 }]) ∧
    ((ManageBookingsController.index { id := 1, email := "ann@pet.vn" } .absent (afternoon 12)).eval
        (twoUnits [vipStay 10 12])).1 = .ok (.manageBookings [] [vipRoom] [] []) := by
  refine ⟨by decide, by decide⟩

end Example

/-! ## The history -/

/-- **When Cancel is offered for stays that have not begun.** For every row
of the booking history and every clock: the link is shown exactly when the
stay's first day is today or later, if and only if neither order of the
texts is the wrong one. Up to the year 9999 the years cannot be the
cause. -/
theorem cancel_offered_iff (row : BookingRow) (now : DateTime) :
    ((row.showsCancel now = true ↔ toDate now ≤ toDate row.startedAt) ↔
      ¬ Misordered (civil (toDate row.startedAt)) (civil (toDate now)) ∧
      ¬ YearsMisordered (civil (toDate row.startedAt)) (civil (toDate now))) ∧
    (0 ≤ (civil (toDate row.startedAt)).year ∧ (civil (toDate row.startedAt)).year ≤ 9999 →
      0 ≤ (civil (toDate now)).year ∧ (civil (toDate now)).year ≤ 9999 →
      ¬ YearsMisordered (civil (toDate row.startedAt)) (civil (toDate now))) := by
  refine ⟨?_, fun h h' => not_yearsMisordered h h'⟩
  have hshown : row.showsCancel now = true ↔
      ¬ dmy (civil (toDate row.startedAt)) < dmy (civil (toDate now)) := decide_eq_true_iff
  rw [← dmy_lt_iff_before, civil_before_iff, hshown, ← not_lt, not_iff_not]

/-- The line of a stay of one day. -/
def oneDayRow (d : Date) : BookingRow where
  booking := vipStay d d
  price := some 300
  rType := .vip
  weight := some .lessThan5
  startedAt := midnight d
  finishedAt := midnight d

/-- On 10 September 2023, a stay on 30 September. -/
theorem cancel_offered_september :
    strftime (midnight 19630) = "30/09/2023" ∧ strftime (midnight 19610) = "10/09/2023" ∧
    ((oneDayRow 19630).showsCancel (midnight 19610) = true ↔
      toDate (midnight 19610) ≤ toDate (midnight 19630)) := by
  have hiff := cancel_offered_iff (oneDayRow 19630) (midnight 19610)
  refine ⟨by decide, by decide, hiff.1.mpr ⟨?_, hiff.2 ?_ ?_⟩⟩
  · unfold Misordered Civil.MonthBefore
    decide
  · exact ⟨by decide, by decide⟩
  · exact ⟨by decide, by decide⟩

/-- On 30 September 2023 a stay that begins the next day can no longer be
cancelled; on 1 October a stay that began the day before still can. -/
theorem october_before_september :
    strftime (midnight 19631) = "01/10/2023" ∧ strftime (midnight 19630) = "30/09/2023" ∧
    (oneDayRow 19631).showsCancel (midnight 19630) = false ∧
    (oneDayRow 19630).showsCancel (midnight 19631) = true := by
  refine ⟨by decide, by decide, by decide, by decide⟩

end PetParadise
