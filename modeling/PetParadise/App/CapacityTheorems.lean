/-
PetParadise.App.CapacityTheorems — no room is overbooked, requests one at
a time.

The invariant has three parts: bookings hold no negative quantity, a
booking's room key has been handed out, and no room is overbooked. Only
`BookingsController#create` stores bookings, and for it the hotel's own
lemma applies (`Db.NotOverbooked.insert`). Every other request can only
take bookings away; what it does to rooms is constrained by the
hypothesis that no quantity is lowered.

The requested days need not be whole days, nor in order.
-/
import PetParadise.App.RoutesTheorems

namespace PetParadise

open Store Calendar

/-! ## What statements do to bookings and rooms -/

/-- Only an INSERT adds a booking. -/
theorem exec_bookings_sublist [Env] {w : Stmt} {db db' : Db} (h : exec w db = .ok db')
    (hw : ∀ b, w ≠ .insertBooking b) : db'.bookings.rows.Sublist db.bookings.rows := by
  cases hwrites : w.writes .bookings with
  | false =>
    have hsame : db'.bookings = db.bookings := exec_frame h hwrites
    rw [hsame]
  | true =>
    cases w with
    | insertBooking b => exact absurd rfl (hw b)
    | destroyBooking i => cases h; exact List.filter_sublist
    | destroyRoom i => cases h; exact List.filter_sublist
    | destroyUser i =>
      obtain ⟨chat, -, rfl⟩ := Db.destroyUser_ok h
      exact List.filter_sublist
    | _ => simp [Stmt.writes, Stmt.tables] at hwrites

/-- A room key is never handed out twice. -/
theorem exec_rooms_kept [Env] {w : Stmt} {db db' : Db} (h : exec w db = .ok db') :
    Table.Kept (fun _ => ()) db.rooms db'.rooms := by
  cases hwrites : w.writes .rooms with
  | false =>
    have hsame : db'.rooms = db.rooms := exec_frame h hwrites
    rw [hsame]
    exact .refl _ _
  | true =>
    cases w with
    | insertRoom r =>
      obtain rfl := exec_insertRoom_ok h
      exact .insert _ _ _
    | updateRoom r =>
      obtain rfl := exec_updateRoom_ok h
      exact .replace _ _
    | destroyRoom i => cases h; exact .delete _ _ _
    | _ => simp [Stmt.writes, Stmt.tables] at hwrites

/-- Only a booking request stores a booking. -/
theorem Request.create_of_insertBooking {db : Db} {r : Request} {b : Booking}
    (h : r.Issues db (.insertBooking b)) :
    ∃ session p, r = .user session (.bookings (.create p)) := by
  cases r with
  | user session route =>
    obtain ⟨u, -, h⟩ := h
    cases route with
    | bookings r =>
      cases r with
      | create p => exact ⟨session, p, rfl⟩
      | _ => cases h
    | _ => cases h
  | «open» route => cases route <;> cases h

/-! ## The invariant -/

/-- What every state of such a run satisfies. -/
structure Db.BookedSoundly (db : Db) : Prop where
  units_nonneg : ∀ b ∈ db.bookings.rows, 0 ≤ b.units
  room_known : ∀ b ∈ db.bookings.rows, b.roomId < db.rooms.next
  not_overbooked : db.NotOverbooked

/-- New rooms have a non-negative quantity and no room's quantity is
lowered. -/
def RoomsNotLowered (db db' : Db) : Prop :=
  ∀ room' ∈ db'.rooms.rows, 0 ≤ room'.capacity ∧
    ∀ room ∈ db.rooms.rows, room.id = room'.id → room.capacity ≤ room'.capacity

instance (db db' : Db) : Decidable (RoomsNotLowered db db') :=
  inferInstanceAs (Decidable (∀ room' ∈ db'.rooms.rows, _))

/-- The quantity a booking request asks for. -/
def Request.askedQuantity : Request → Int
  | user _ (.bookings (.create p)) => paramToI p.quantity
  | _ => 0

/-- Taking bookings away, and rooms that are not lowered. -/
theorem Db.BookedSoundly.shrink {db db' : Db} (h : db.BookedSoundly)
    (hsub : db'.bookings.rows.Sublist db.bookings.rows)
    (hkept : Table.Kept (fun _ => ()) db.rooms db'.rooms) (hlow : RoomsNotLowered db db') :
    db'.BookedSoundly := by
  refine ⟨fun b hb => h.units_nonneg b (hsub.subset hb),
    fun b hb => Nat.lt_of_lt_of_le (h.room_known b (hsub.subset hb)) hkept.next_le,
    fun room' hroom' => ?_⟩
  obtain ⟨hnonneg, hmono⟩ := hlow room' hroom'
  by_cases hold : room'.id < db.rooms.next
  · -- a room that was there before
    obtain ⟨room, hroom, hid, -⟩ := hkept.kept room' hroom' hold
    have hid' : room.id = room'.id := hid
    rw [← hid']
    exact WithinCapacity.mono (h.not_overbooked room hroom) h.units_nonneg hsub
      (hmono room hroom hid')
  · -- a new room has no bookings yet
    refine withinCapacity_of_idle hnonneg fun b hb d => ?_
    have hlt := h.room_known b (hsub.subset hb)
    have hne : (b.roomId == room'.id) = false := by
      rw [beq_eq_false_iff_ne]
      rintro heq
      exact hold (heq ▸ hlt)
    simp only [Booking.occupies, hne, Bool.false_and]

/-- A booking request keeps the invariant. -/
theorem BookingsController.create_sound [Env] (u : User) (p : BookingParams) {db : Db}
    (h : db.BookedSoundly) (hq : 0 ≤ paramToI p.quantity) :
    (Action.eval (create u p) db).2.BookedSoundly := by
  rcases create_cases u p db with hsame | ⟨room, hroom, dates, s, f, capacity, -, hs, hf, hcap,
    hfit, -, hins⟩
  · rw [hsame]; exact h
  · rw [hins]
    have hmem : room ∈ db.rooms.rows := List.mem_of_mem_filter hroom
    have hunits : (newBooking u p room.id dates).units = paramToI p.quantity :=
      castInteger_getD p.quantity
    refine ⟨fun b hb => ?_, fun b hb => ?_, h.not_overbooked.insert h.units_nonneg ?_⟩
    · rcases List.mem_append.mp hb with hb | hb
      · exact h.units_nonneg b hb
      · rw [List.mem_singleton.mp hb]
        exact hunits.symm ▸ hq
    · rcases List.mem_append.mp hb with hb | hb
      · exact h.room_known b hb
      · rw [List.mem_singleton.mp hb]
        exact db.rooms.fresh room hmem
    · intro room' hroom' hid
      rw [db.rooms.eq_of_id_eq hroom' hmem hid, hunits, Room.capacity, hcap]
      rw [DateParam.toDate?_eq_ok hs, DateParam.toDate?_eq_ok hf] at hfit
      exact hfit

section Runs

variable [Env]

/-- What is asked of a request: a booking's quantity is not negative, no
room's quantity is lowered, no room is created with a negative one. -/
structure CapacitySound (db : Db) (r : Request) : Prop where
  quantity : 0 ≤ r.askedQuantity
  rooms : RoomsNotLowered db (step db r)

instance (db : Db) (r : Request) : Decidable (CapacitySound db r) :=
  decidable_of_iff (0 ≤ r.askedQuantity ∧ RoomsNotLowered db (step db r))
    ⟨fun h => ⟨h.1, h.2⟩, fun h => ⟨h.quantity, h.rooms⟩⟩

theorem step_booked_soundly {db : Db} {r : Request} (h : db.BookedSoundly)
    (hr : CapacitySound db r) : (step db r).BookedSoundly := by
  by_cases hcreate : ∃ session p, r = .user session (.bookings (.create p))
  · obtain ⟨session, p, rfl⟩ := hcreate
    rcases step_cases db (.user session (.bookings (.create p))) with
      ⟨i, u, route, hroute, -, hs⟩ | hs | ⟨route, hroute, -⟩
    · cases hroute
      rw [hs]
      exact BookingsController.create_sound u p h hr.quantity
    · rw [hs]; exact h
    · cases hroute
  · have hpair : (step db r).bookings.rows.Sublist db.bookings.rows ∧
        Table.Kept (fun _ => ()) db.rooms (step db r).rooms := by
      refine step_inv (fun x => x.bookings.rows.Sublist db.bookings.rows ∧
        Table.Kept (fun _ => ()) db.rooms x.rooms) (fun w x x' hw hx hI => ?_)
        ⟨List.Sublist.refl _, .refl _ _⟩
      refine ⟨(exec_bookings_sublist hx ?_).trans hI.1, hI.2.trans (exec_rooms_kept hx)⟩
      rintro b rfl
      exact hcreate (Request.create_of_insertBooking hw)
    exact h.shrink hpair.1 hpair.2 hr.rooms

/-- **Room capacity.** Starting without bookings from rooms of any
non-negative quantities, a run of requests of any kind in which bookings
ask for non-negative quantities and no room's quantity is lowered never
overbooks a room on any day. -/
theorem capacity_over_runs (db : Db) (rs : List Request) (hempty : db.bookings.rows = [])
    (hrooms : ∀ room ∈ db.rooms.rows, 0 ≤ room.capacity)
    (h : Along step CapacitySound db rs) :
    ∀ room ∈ (runFrom db rs).rooms.rows, ∀ d : Date,
      (runFrom db rs).dayLoad room.id d ≤ room.capacity := by
  have hstart : db.BookedSoundly :=
    ⟨by simp [hempty], by simp [hempty], Db.notOverbooked_of_no_bookings hempty hrooms⟩
  exact (Along.foldl_inv Db.BookedSoundly (fun _ _ => step_booked_soundly) hstart h).not_overbooked

end Runs

/-- One VIP room with two units; user 1 is the administrator, user 2 a
customer. -/
def smallHotel : Db where
  users := Table.empty.insertAll
    [{ email := "boss@pet.vn", roles := ["admin"] }, { email := "ann@pet.vn" }]
  rooms := Table.empty.insertAll
    [{ rType := some .vip, weight := some .lessThan5, price := some 300, quantity := some 2 }]

/-- Two overlapping bookings of one unit, one of them with its days out of
order, a third that is refused, a new room, and a cancellation. -/
def smallHotelRun : List Request :=
  [.user (some 2) (.bookings (.create
      (BookingsController.dayRequest (some 1) (some 0) (some "1") 10 12))),
    .user (some 2) (.bookings (.create
      (BookingsController.dayRequest (some 1) (some 0) (some "1") 12 11))),
    .user (some 2) (.bookings (.create
      (BookingsController.dayRequest (some 1) (some 0) (some "1") 11 14))),
    .user (some 1) (.rooms (.create { quantity := some (some 4) })),
    .user (some 2) (.bookings (.destroy 1))]

theorem capacity_over_smallHotelRun :
    Along (@step .caseInsensitive) (@CapacitySound .caseInsensitive) smallHotel smallHotelRun ∧
    ∀ room ∈ (@runFrom .caseInsensitive smallHotel smallHotelRun).rooms.rows, ∀ d : Date,
      (@runFrom .caseInsensitive smallHotel smallHotelRun).dayLoad room.id d ≤ room.capacity :=
  ⟨by decide,
    @capacity_over_runs .caseInsensitive smallHotel smallHotelRun rfl (by decide) (by decide)⟩

end PetParadise
