/-
PetParadise.App.ConfidentialTheorems — what a customer's pages tell about
other people.

The pages of the shop and the hotel are functions of the catalogue and of
the customer's own rows, with one exception. `ManageBookingsController`
guards the list of all bookings, with the guests' names, emails and phone
numbers, by `authorize! :access, Booking`; but `Ability` gives every
customer `can :manage, Booking`, which covers `:access`.

So two databases that agree on what the customer may see (`SameView`) give
the same page exactly for the routes that are not that list, or whose
`mdate` is no date and raises before anything is shown.
-/
import PetParadise.App.BookingPagesTheorems

namespace PetParadise

open Store PetParadise.Action

/-! ## The layout of a customer's page -/

section Layout

variable {u : User} {db₁ db₂ : Db}

/-- The messages of one of the user's chats are messages of the user. -/
theorem Db.messagesOf_eq {db : Db} {i : Id} {c : Chat} (hc : c ∈ db.chatsOf (some i)) :
    db.messagesOf c.id = (db.messagesOfUser i).filter (·.chatId == c.id) := by
  obtain ⟨hrow, hown⟩ := List.mem_filter.mp hc
  rw [Db.messagesOf, Db.messagesOfUser, List.filter_filter]
  apply List.filter_congr
  intro m _
  by_cases hm : m.chatId = c.id
  · have hfind : db.chats.find? m.chatId = some c := by
      rw [hm]
      exact db.chats.find?_of_mem hrow
    simp [Db.messageToUser, hfind, hown]
  · simp [hm]

/-- The newest chats of the user can be found among the user's messages. -/
theorem Db.chatsByNewest_eq (db : Db) (i : Id) :
    db.chatsByNewest (·.senderId == some i) =
      (((db.messagesOfUser i).insertionSort (fun a b => b.createdAt ≤ a.createdAt)).filterMap
        (fun m => (db.chatsOf (some i)).find? (·.id == m.chatId))).eraseDups := by
  have htrans : IsTrans ChatMessage (fun a b => b.createdAt ≤ a.createdAt) :=
    ⟨fun _ _ _ hab hbc => le_trans hbc hab⟩
  have htotal : Std.Total (fun a b : ChatMessage => b.createdAt ≤ a.createdAt) :=
    ⟨fun a b => le_total b.createdAt a.createdAt⟩
  unfold Db.chatsByNewest
  rw [Db.messagesOfUser, ← filter_insertionSort]
  congr 1
  have hown : ∀ m : ChatMessage, (db.chats.find? m.chatId).filter (·.senderId == some i) =
      (db.chatsOf (some i)).find? (·.id == m.chatId) := by
    intro m
    exact db.chats.filter_find? m.chatId (·.senderId == some i)
  simp only [hown]
  symm
  apply filterMap_filter_of_none
  intro m _ hm
  rw [← hown m]
  cases hfind : db.chats.find? m.chatId with
  | none => rfl
  | some c =>
    have hno : ¬ c.senderId = some i := by
      simpa [Db.messageToUser, hfind] using hm
    simp [hno]

namespace SameView

theorem messagesOf (h : SameView u db₁ db₂) {c : Chat} (hc : c ∈ db₁.chatsOf (some u.id)) :
    db₁.messagesOf c.id = db₂.messagesOf c.id := by
  rw [Db.messagesOf_eq hc, Db.messagesOf_eq (h.chats ▸ hc), h.messages]

theorem bubbles (h : SameView u db₁ db₂) {c : Chat} (hc : c ∈ db₁.chatsOf (some u.id)) :
    db₁.bubbles u c = db₂.bubbles u c := by
  rw [Db.bubbles, Db.bubbles, h.messagesOf hc]

theorem setChat (h : SameView u db₁ db₂) (hu : (u.isAdmin || u.isStaff) = false) :
    ApplicationController.setChat db₁ u = ApplicationController.setChat db₂ u := by
  have hany : (db₁.chatsOf (some u.id)).head?.any (fun c => !(db₁.messagesOf c.id).isEmpty) =
      (db₂.chatsOf (some u.id)).head?.any (fun c => !(db₂.messagesOf c.id).isEmpty) := by
    rw [← h.chats]
    cases hhead : (db₁.chatsOf (some u.id)).head? with
    | none => rfl
    | some c =>
      have hc : c ∈ db₁.chatsOf (some u.id) := List.mem_of_head? hhead
      simp [h.messagesOf hc]
  simp only [ApplicationController.setChat, hu, Bool.false_eq_true, if_false]
  rw [hany, Db.chatsByNewest_eq, Db.chatsByNewest_eq, h.messages, h.chats]

end SameView

/-- All windows of a customer are of their own chats. -/
theorem ApplicationController.own_of_mem_setChat {db : Db}
    (hu : (u.isAdmin || u.isStaff) = false) {c : Chat} (hc : c ∈ setChat db u) :
    c ∈ db.chatsOf (some u.id) := by
  simp only [setChat, hu, Bool.false_eq_true, if_false] at hc
  split at hc
  · obtain ⟨hrow, hown, -⟩ := Db.mem_chatsByNewest.mp hc
    exact List.mem_filter.mpr ⟨hrow, hown⟩
  · exact hc

/-- A customer's windows are all headed "Staff". -/
theorem Db.chatWindows_customer {db : Db} (hu : u.isAdmin = false) (chats : List Chat) :
    db.chatWindows u chats =
      .ok (chats.map fun c => ⟨c.id, c.senderId, "Staff", db.bubbles u c⟩) := by
  induction chats with
  | nil => rfl
  | cons c chats ih => simp [Db.chatWindows, Db.windowName, hu, ih]

theorem Db.layout_customer {db : Db} (hu : u.isCustomer = true) (adminUrl : Bool) :
    db.layout u adminUrl = .ok ⟨(db.activeCarts u.id).length,
      (db.chatsOf (some u.id)).head?.map Chat.id,
      (ApplicationController.setChat db u).map
        fun c => ⟨c.id, c.senderId, "Staff", db.bubbles u c⟩⟩ := by
  have hadmin : u.isAdmin = false := by
    simp only [User.isCustomer, Bool.and_eq_true, Bool.not_eq_true'] at hu
    exact hu.1
  have hbill := (Ability.can_bill_or_product hu).1
  simp only [Db.layout, Db.renderLayout, hbill, Bool.false_and, Bool.false_eq_true, if_false,
    Db.chatWindows_customer hadmin]

theorem SameView.layout (h : SameView u db₁ db₂) (hu : u.isCustomer = true) (adminUrl : Bool) :
    db₁.layout u adminUrl = db₂.layout u adminUrl := by
  have hstaff : (u.isAdmin || u.isStaff) = false := by
    simp only [User.isCustomer, Bool.and_eq_true, Bool.not_eq_true'] at hu
    simp [hu]
  have hbubbles : ∀ c ∈ ApplicationController.setChat db₁ u,
      db₁.bubbles u c = db₂.bubbles u c := by
    intro c hc
    exact h.bubbles (ApplicationController.own_of_mem_setChat hstaff hc)
  rw [Db.layout_customer hu, Db.layout_customer hu, h.activeCarts, h.chats, ← h.setChat hstaff]
  congr 2
  apply List.map_congr_left
  intro c hc
  rw [hbubbles c hc]

end Layout

/-! ## Pages -/

/-- The pages of bookings, histories, carts, profile and the list of all
bookings. -/
def Route.isPage : Route → Bool
  | .bookings .index => true
  | .histories _ => true
  | .carts .index => true
  | .carts .checkout => true
  | .profile .index => true
  | .profile (.edit _) => true
  | .manageBookings .. => true
  | _ => false

/-- The list of all bookings, for a day that can be read or for today. -/
def Route.listsBookings : Route → Bool
  | .manageBookings mdate _ => mdate != .unreadable
  | _ => false

section Pages

variable [Env] {u : User} {db₁ db₂ : Db}

theorem SameView.rendered_bookings (h : SameView u db₁ db₂) :
    Route.rendered (.bookings .index) u db₁ = Route.rendered (.bookings .index) u db₂ := by
  have heval : ∀ db : Db, Route.rendered (.bookings .index) u db =
      db.template u (.bookingsIndex (db.bookingsOf u.id)) := fun _ => rfl
  have hrow : ∀ b, db₁.bookingRow b = db₂.bookingRow b := by
    intro b
    rw [Db.bookingRow, Db.bookingRow, Table.find?, Table.find?, h.rooms]
  rw [heval, heval, h.bookings]
  simp only [Db.template]
  rw [mapM_congr_mem (fun b _ => hrow b)]

/-- A page that does not list the bookings is the same for both. -/
theorem SameView.rendered (h : SameView u db₁ db₂) {r : Route} (hr : r.isPage = true)
    (hlist : r.listsBookings = false) :
    r.rendered u db₁ = r.rendered u db₂ := by
  cases r with
  | bookings r =>
    cases r with
    | index => exact h.rendered_bookings
    | _ => cases hr
  | histories r =>
    cases r with
    | index => exact h.rendered_histories
    | «show» i => exact h.rendered_history i
  | carts r =>
    cases r with
    | index => exact h.rendered_carts
    | checkout => exact h.rendered_checkout
    | _ => cases hr
  | profile r =>
    cases r with
    | index => rfl
    | edit i => rfl
    | _ => cases hr
  | manageBookings mdate now =>
    have hbad : mdate = .unreadable := by simpa [Route.listsBookings] using hlist
    rw [ManageBookingsController.rendered_eq, ManageBookingsController.rendered_eq, hbad]
    rfl
  | _ => cases hr

end Pages

/-! ## What the list tells -/

def soleRoom : Room where
  id := 1
  rType := some .apartment
  weight := none
  price := none
  quantity := some 1

/-- A stranger's booking, at an instant. -/
def strangersBooking (u : User) (t : DateTime) : Booking where
  id := 1
  roomId := 1
  userId := u.id + 1
  startedAt := some t
  finishedAt := some t
  quantity := some 1

/-- One room, booked at `t` by a stranger. -/
def bookedBy (u : User) (t : DateTime) (email : String) : Db where
  users :=
    { rows := [u, { id := u.id + 1, email := email }]
      next := u.id + 2
      sorted := by simp [Row.id]
      fresh := by simp [Row.id] }
  rooms := Table.empty.insertAll [soleRoom]
  bookings := Table.empty.insertAll [strangersBooking u t]

theorem bookedBy_sameView (u : User) (t : DateTime) (email email' : String) :
    SameView u (bookedBy u t email) (bookedBy u t email') := by
  have huser : ∀ e, (bookedBy u t e).users.find? u.id = some u := by
    intro e
    simp [bookedBy, Table.find?, Row.id]
  constructor
  · exact ⟨huser email, huser email', rfl, rfl, rfl, rfl⟩
  · rfl
  · rfl
  · rfl
  · rfl

section List

variable [Env]

/-- The stranger's email is on the customer's page. -/
theorem bookedBy_rendered {u : User} {mdate : DateParam}
    {now t : DateTime} (ht : ManageBookingsController.shownInstant mdate now = .ok t)
    (email : String) :
    Route.rendered (.manageBookings mdate now) u (bookedBy u t email) =
      .ok (.manageBookings [⟨soleRoom, 1, true, [⟨none, none, email, none⟩]⟩] [] []) := by
  have hguest : (bookedBy u t email).guest (strangersBooking u t) =
      .ok ⟨none, none, email, none⟩ := by
    have hfind : (bookedBy u t email).users.find? (u.id + 1) =
        some { id := u.id + 1, email := email } := by
      simp [bookedBy, Table.find?, Row.id]
    simp [Db.guest, strangersBooking, hfind]
  have hbookings : ManageBookingsController.listed (bookedBy u t email) t =
      [strangersBooking u t] := by
    have hrows : (bookedBy u t email).bookings.rows = [strangersBooking u t] := rfl
    rw [ManageBookingsController.listed, hrows]
    simp [strangersBooking, between]
  have hbox : (bookedBy u t email).roomBox [strangersBooking u t] soleRoom =
      .ok ⟨soleRoom, 1, true, [⟨none, none, email, none⟩]⟩ := by
    have hhere : [strangersBooking u t].filter (·.roomId == soleRoom.id) =
        [strangersBooking u t] := rfl
    have hall : [strangersBooking u t].mapM (bookedBy u t email).guest =
        .ok [⟨none, none, email, none⟩] := by
      rw [List.mapM_cons, hguest]
      rfl
    simp only [Db.roomBox, hhere, hall]
    rfl
  have hrooms : (bookedBy u t email).rooms.rows = [soleRoom] := rfl
  have hboxes : [soleRoom].mapM ((bookedBy u t email).roomBox [strangersBooking u t]) =
      .ok [⟨soleRoom, 1, true, [⟨none, none, email, none⟩]⟩] := by
    rw [List.mapM_cons, hbox]
    rfl
  have hkinds : [soleRoom].filter (·.rType == some .apartment) = [soleRoom] ∧
      [soleRoom].filter (·.rType == some .vip) = [] ∧
      [soleRoom].filter (·.rType == some .penthouse) = [] := ⟨rfl, rfl, rfl⟩
  rw [ManageBookingsController.rendered_eq, ht]
  simp only [Except.bind, hbookings, hrooms, hkinds, Db.template, hboxes]
  rfl

/-- **Which pages are confidential.** A page of a customer is the same in
any two databases that agree on the rooms, the products and the customer's
own rows exactly when it is not the list of all bookings. -/
theorem pages_confidential_iff (u : User) (hu : u.isCustomer = true) (adminUrl : Bool) (r : Route)
    (hr : r.isPage = true) :
    (∀ db₁ db₂, SameView u db₁ db₂ → r.view u adminUrl db₁ = r.view u adminUrl db₂) ↔
      r.listsBookings = false := by
  constructor
  · intro h
    cases hlist : r.listsBookings with
    | false => rfl
    | true =>
      cases r with
      | manageBookings mdate now =>
        have hread : ∃ t, ManageBookingsController.shownInstant mdate now = .ok t := by
          cases mdate with
          | unreadable => cases hlist
          | absent => exact ⟨_, rfl⟩
          | blank => exact ⟨_, rfl⟩
          | «at» d => exact ⟨_, rfl⟩
        obtain ⟨t, ht⟩ := hread
        have hsame := h _ _ (bookedBy_sameView u t "ann@pet.vn" "bob@pet.vn")
        rw [Route.view, Route.view, bookedBy_rendered ht, bookedBy_rendered ht,
          (bookedBy_sameView u t "ann@pet.vn" "bob@pet.vn").layout hu,
          Db.layout_customer hu] at hsame
        -- two pages with different emails on them
        simp [bind, Except.bind, pure, Except.pure] at hsame
      | _ => cases hlist
  · intro hlist db₁ db₂ h
    rw [Route.view, Route.view, h.rendered hr hlist, h.layout hu]

end List

/-- A customer. -/
def annTheCustomer : User where
  id := 2
  email := "ann@pet.vn"
  roles := ["user"]

theorem pages_confidential_annsBookings :
    annTheCustomer.isCustomer = true ∧
    ∀ db₁ db₂, SameView annTheCustomer db₁ db₂ →
      @Route.view .caseInsensitive (.bookings .index) annTheCustomer false db₁ =
        @Route.view .caseInsensitive (.bookings .index) annTheCustomer false db₂ :=
  ⟨by decide, (@pages_confidential_iff .caseInsensitive annTheCustomer (by decide) false
    (.bookings .index) rfl).mpr rfl⟩

/-- The customer reads who has booked the room today. -/
theorem ann_reads_strangers_email :
    SameView annTheCustomer (bookedBy annTheCustomer 5 "bob@pet.vn")
      (bookedBy annTheCustomer 5 "eve@pet.vn") ∧
    @Route.rendered .caseInsensitive (.manageBookings .absent 5) annTheCustomer
        (bookedBy annTheCustomer 5 "bob@pet.vn") =
      .ok (.manageBookings [⟨soleRoom, 1, true, [⟨none, none, "bob@pet.vn", none⟩]⟩] [] []) ∧
    @Route.view .caseInsensitive (.manageBookings .absent 5) annTheCustomer false
        (bookedBy annTheCustomer 5 "bob@pet.vn") ≠
      @Route.view .caseInsensitive (.manageBookings .absent 5) annTheCustomer false
        (bookedBy annTheCustomer 5 "eve@pet.vn") := by
  refine ⟨bookedBy_sameView _ _ _ _, rfl, ?_⟩
  decide

end PetParadise
