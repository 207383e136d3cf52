/-
PetParadise.Hotel.ConcurrentBookings — booking requests interleaved.

`BookingsController#create` reads its sums and writes its booking in
different statements with no lock between them, so a sum may be stale by
the time the booking is stored. What saves a run is that nothing stale is
acted upon: if every INSERT would still pass the check in the database it
is executed in, no room is ever overbooked, whatever the interleaving and
however many requests there are.
-/
import PetParadise.Hotel.BookingsTheorems

namespace PetParadise

open Store Calendar BookingsController

/-- The requests of some customers, none of which has started. -/
def bookingPool (db : Db) (requests : List (User × BookingParams)) :
    Pool Db Stmt Failure Response :=
  .start db (requests.map fun r => create r.1 r.2)

/-- If the scheduled thread is about to store a booking, the booking still
passes the check. -/
def InsertAdmitted (c : Pool Db Stmt Failure Response) (i : Nat) : Prop :=
  match c.next i with
  | some (.insertBooking b) => c.store.Admits b
  | _ => True

instance (c : Pool Db Stmt Failure Response) (i : Nat) : Decidable (InsertAdmitted c i) := by
  unfold InsertAdmitted
  split
  · exact inferInstanceAs (Decidable (∀ room ∈ c.store.rooms.rows, _))
  · exact .isTrue trivial

/-- What a booking request can send: queries, and bookings of a
non-negative quantity. -/
def BookingStmt (w : Stmt) : Prop :=
  match w with
  | .insertBooking b => 0 ≤ b.units
  | w => w.Reads

/-- The invariant of the pool. -/
structure PoolSound (c : Pool Db Stmt Failure Response) : Prop where
  not_overbooked : c.store.NotOverbooked
  units_nonneg : ∀ b ∈ c.store.bookings.rows, 0 ≤ b.units
  threads : ∀ p ∈ c.threads, p.Only BookingStmt

/-- One statement of one request. -/
theorem poolSound_step [Env] {c : Pool Db Stmt Failure Response} {i : Nat} (h : PoolSound c)
    (hi : InsertAdmitted c i) : PoolSound (c.step exec i) := by
  have hthreads := Pool.only_step exec h.threads i
  rcases Pool.step_cases exec c i with ⟨w, k, s', hw, hexec, hs⟩ | ⟨w, k, e, -, -, hs⟩ | hs
  · have hstmt : BookingStmt w := (h.threads _ (List.mem_of_getElem? hw)).1
    rw [hs] at hthreads ⊢
    by_cases hins : ∃ b, w = .insertBooking b
    · obtain ⟨b, rfl⟩ := hins
      have hadm : c.store.Admits b := by
        simpa [InsertAdmitted, Pool.next, hw] using hi
      obtain ⟨-, -, rfl⟩ := exec_insertBooking_ok hexec
      refine ⟨h.not_overbooked.insert h.units_nonneg hadm, fun b' hb' => ?_, hthreads⟩
      rcases List.mem_append.mp hb' with hb' | hb'
      · exact h.units_nonneg b' hb'
      · rw [List.mem_singleton.mp hb']
        exact hstmt
    · -- a query leaves the store as it is
      have hreads : w.Reads := by
        cases w <;> first | exact hstmt | exact absurd ⟨_, rfl⟩ hins
      rw [exec_reads hreads] at hexec
      cases hexec
      exact ⟨h.not_overbooked, h.units_nonneg, hthreads⟩
  · rw [hs] at hthreads ⊢
    exact ⟨h.not_overbooked, h.units_nonneg, hthreads⟩
  · rw [hs]; exact h

/-- **Capacity under interleaving.** From a database within capacity, any
number of booking requests for non-negative quantities, under any
schedule: if every booking is stored while it still passes the check, no
room is overbooked on any day. -/
theorem capacity_interleaved [Env] (db : Db) (requests : List (User × BookingParams))
    (schedule : List Nat) (hdb : db.NotOverbooked)
    (hunits : ∀ b ∈ db.bookings.rows, 0 ≤ b.units)
    (hq : ∀ r ∈ requests, 0 ≤ paramToI r.2.quantity)
    (h : Along (Pool.step exec) InsertAdmitted (bookingPool db requests) schedule) :
    ∀ room ∈ (Pool.run exec (bookingPool db requests) schedule).store.rooms.rows, ∀ d : Date,
      (Pool.run exec (bookingPool db requests) schedule).store.dayLoad room.id d ≤
        room.capacity := by
  have hstart : PoolSound (bookingPool db requests) := by
    refine ⟨hdb, hunits, fun p hp => ?_⟩
    obtain ⟨r, hr, rfl⟩ := List.mem_map.mp hp
    refine create_only (fun _ => rfl) r.1 r.2 (fun roomId dates => ?_)
    have hunits : (newBooking r.1 r.2 roomId dates).units = paramToI r.2.quantity :=
      castInteger_getD r.2.quantity
    exact (hq r hr).trans_eq hunits.symm
  exact (Along.foldl_inv PoolSound (fun _ _ => poolSound_step) hstart h).not_overbooked

/-- Two customers ask for the VIP room, which has one unit, on the same
days. -/
def rivals : List (User × BookingParams) :=
  [({ id := 1, email := "ann@pet.vn" }, dayRequest (some 1) (some 0) (some "1") 10 12),
   ({ id := 1, email := "ann@pet.vn" }, dayRequest (some 1) (some 0) (some "1") 11 13)]

section Example

attribute [local instance] Env.caseInsensitive

/-- One after the other: the second request finds the room taken. -/
theorem capacity_interleaved_serial :
    Along (Pool.step exec) InsertAdmitted (bookingPool (twoRooms []) rivals) [0, 0, 0, 1, 1, 1] ∧
    ∀ room ∈ (Pool.run exec (bookingPool (twoRooms []) rivals) [0, 0, 0, 1, 1, 1]).store.rooms.rows,
      ∀ d : Date,
        (Pool.run exec (bookingPool (twoRooms []) rivals) [0, 0, 0, 1, 1, 1]).store.dayLoad
          room.id d ≤ room.capacity :=
  ⟨by decide,
    capacity_interleaved (twoRooms []) rivals [0, 0, 0, 1, 1, 1]
      (Db.notOverbooked_of_no_bookings rfl (by decide)) (by decide) (by decide) (by decide)⟩

/-- Both sums before both INSERTs: the one unit is given away twice on the
days 11 and 12. -/
theorem two_requests_overbook :
    (∀ b ∈ (twoRooms []).bookings.rows, 0 ≤ b.units) ∧
    (∀ r ∈ rivals, 1 ≤ paramToI r.2.quantity) ∧
    (twoRooms []).NotOverbooked ∧
    ¬ (Pool.run exec (bookingPool (twoRooms []) rivals)
      [0, 0, 1, 1, 0, 1]).store.NotOverbooked := by
  refine ⟨by decide, by decide, Db.notOverbooked_of_no_bookings rfl (by decide), fun h => ?_⟩
  have hroom := h ⟨1, some .vip, some .lessThan5, some 300, some 1⟩ (by decide) 11
  revert hroom
  decide

end Example

end PetParadise
