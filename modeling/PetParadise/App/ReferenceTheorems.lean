/-
PetParadise.App.ReferenceTheorems — no row of the application dangles.

The schema has foreign keys for bill lines only; everything else rests on
required `belongs_to` associations when a row is created and on the
cascades when one is destroyed. `Db.RefsIntact` lists the eight
references, `exec_refsIntact` keeps them under every statement, and runs
follow.

A user's cascade is the only one of depth two: its bills go together with
THEIR lines, which `Db.lineOfUser` selects through the bill.
-/
import PetParadise.Store.References
import PetParadise.App.RoutesTheorems

namespace PetParadise

open Store Store.Table

/-- Every row names rows that exist. -/
structure Db.RefsIntact (db : Db) : Prop where
  cart_user : Refers Cart.userId db.carts db.users
  cart_product : Refers Cart.productId db.carts db.products
  booking_user : Refers Booking.userId db.bookings db.users
  booking_room : Refers Booking.roomId db.bookings db.rooms
  bill_user : Refers Bill.userId db.bills db.users
  line_bill : Refers BillProduct.billId db.billProducts db.bills
  line_product : Refers BillProduct.productId db.billProducts db.products
  message_chat : Refers ChatMessage.chatId db.chatMessages db.chats

namespace Db.RefsIntact

variable {db : Db}

/-! ## One lemma per kind of change -/

theorem users (h : db.RefsIntact) {t : Table User} (hkeep : Refers.KeepsKeys db.users t) :
    { db with users := t }.RefsIntact :=
  { h with
    cart_user := h.cart_user.target hkeep
    booking_user := h.booking_user.target hkeep
    bill_user := h.bill_user.target hkeep }

theorem products (h : db.RefsIntact) {t : Table Product}
    (hkeep : Refers.KeepsKeys db.products t) : { db with products := t }.RefsIntact :=
  { h with
    cart_product := h.cart_product.target hkeep
    line_product := h.line_product.target hkeep }

theorem rooms (h : db.RefsIntact) {t : Table Room} (hkeep : Refers.KeepsKeys db.rooms t) :
    { db with rooms := t }.RefsIntact :=
  { h with booking_room := h.booking_room.target hkeep }

theorem chats (h : db.RefsIntact) {t : Table Chat} (hkeep : Refers.KeepsKeys db.chats t) :
    { db with chats := t }.RefsIntact :=
  { h with message_chat := h.message_chat.target hkeep }

/-- Bills are named by lines and name users themselves. -/
theorem modifyBills (h : db.RefsIntact) (p : Bill → Bool) {f : Bill → Bill}
    (hf : ∀ b, Row.id (f b) = Row.id b) (huser : ∀ b, (f b).userId = b.userId) :
    { db with bills := db.bills.modify p f hf }.RefsIntact :=
  { h with
    bill_user := h.bill_user.modify_source p hf huser
    line_bill := h.line_bill.target (Refers.keepsKeys_modify _ p hf) }

theorem insertCart (h : db.RefsIntact) {u p : Id} (huser : (db.users.find? u).isSome = true)
    (hproduct : (db.products.find? p).isSome = true) :
    { db with carts := db.carts.insert { userId := u, productId := p } }.RefsIntact :=
  { h with
    cart_user := h.cart_user.insert_source rfl huser
    cart_product := h.cart_product.insert_source rfl hproduct }

theorem insertBill (h : db.RefsIntact) {b : Bill}
    (huser : (db.users.find? b.userId).isSome = true) :
    { db with bills := db.bills.insert b }.RefsIntact :=
  { h with
    bill_user := h.bill_user.insert_source rfl huser
    line_bill := h.line_bill.target (Refers.keepsKeys_insert _ _) }

theorem insertLine (h : db.RefsIntact) {l : BillProduct}
    (hbill : (db.bills.find? l.billId).isSome = true)
    (hproduct : (db.products.find? l.productId).isSome = true) :
    { db with billProducts := db.billProducts.insert l }.RefsIntact :=
  { h with
    line_bill := h.line_bill.insert_source rfl hbill
    line_product := h.line_product.insert_source rfl hproduct }

theorem insertBooking (h : db.RefsIntact) {b : Booking}
    (huser : (db.users.find? b.userId).isSome = true)
    (hroom : (db.rooms.find? b.roomId).isSome = true) :
    { db with bookings := db.bookings.insert b }.RefsIntact :=
  { h with
    booking_user := h.booking_user.insert_source rfl huser
    booking_room := h.booking_room.insert_source rfl hroom }

theorem deactivateCarts (h : db.RefsIntact) (p : Cart → Bool) :
    { db with carts := db.carts.modify p Cart.deactivate Cart.deactivate_id }.RefsIntact :=
  { h with
    cart_user := h.cart_user.modify_source p Cart.deactivate_id (fun _ => rfl)
    cart_product := h.cart_product.modify_source p Cart.deactivate_id (fun _ => rfl) }

theorem deleteCarts (h : db.RefsIntact) (p : Cart → Bool) :
    { db with carts := db.carts.delete p }.RefsIntact :=
  { h with
    cart_user := h.cart_user.delete_source p
    cart_product := h.cart_product.delete_source p }

theorem deleteBookings (h : db.RefsIntact) (p : Booking → Bool) :
    { db with bookings := db.bookings.delete p }.RefsIntact :=
  { h with
    booking_user := h.booking_user.delete_source p
    booking_room := h.booking_room.delete_source p }

theorem destroyProduct (h : db.RefsIntact) (i : Id) : (db.destroyProduct i).RefsIntact :=
  { h with
    cart_user := h.cart_user.delete_source _
    cart_product := h.cart_product.cascade_key i
    line_bill := h.line_bill.delete_source _
    line_product := h.line_product.cascade_key i }

theorem destroyRoom (h : db.RefsIntact) (i : Id) : (db.destroyRoom i).RefsIntact :=
  { h with
    booking_user := h.booking_user.delete_source _
    booking_room := h.booking_room.cascade_key i }

theorem destroyChat (h : db.RefsIntact) (i : Id) : (db.destroyChat i).RefsIntact :=
  { h with message_chat := h.message_chat.cascade_key i }

theorem destroyUser (h : db.RefsIntact) {db' : Db} {i : Id} (hd : db.destroyUser i = .ok db') :
    db'.RefsIntact := by
  obtain ⟨chat, -, rfl⟩ := Db.destroyUser_ok hd
  -- a line whose bill goes is one that `lineOfUser` selects
  have hlines : Refers BillProduct.billId (db.billProducts.delete (db.lineOfUser i))
      (db.bills.delete (·.userId == i)) := by
    apply h.line_bill.cascade
    intro l _ b hb hid howner
    have hfound : db.bills.find? l.billId = some b := by
      rw [← hid]
      exact db.bills.find?_of_mem hb
    simpa [Db.lineOfUser, hfound] using howner
  exact
    { cart_user := h.cart_user.cascade_key i
      cart_product := h.cart_product.delete_source _
      booking_user := h.booking_user.cascade_key i
      booking_room := h.booking_room.delete_source _
      bill_user := h.bill_user.cascade_key i
      line_bill := hlines
      line_product := h.line_product.delete_source _
      message_chat := h.message_chat.cascade_key chat.id }

end Db.RefsIntact

/-! ## Every statement keeps the references -/

theorem exec_refsIntact [Env] {w : Stmt} {db db' : Db} (h : exec w db = .ok db')
    (hi : db.RefsIntact) : db'.RefsIntact := by
  cases w with
  | select q => cases h; exact hi
  | post b => cases h; exact hi
  | insertCart u p =>
    obtain ⟨huser, hproduct, rfl⟩ := exec_insertCart_ok h
    exact hi.insertCart huser hproduct
  | deleteCart i => cases h; exact hi.deleteCarts _
  | deactivateCarts u p => cases h; exact hi.deactivateCarts _
  | insertBill b =>
    obtain rfl | ⟨huser, rfl⟩ := exec_insertBill_cases h
    · exact hi
    · exact hi.insertBill huser
  | insertBillProduct l =>
    obtain rfl | ⟨hbill, hproduct, rfl⟩ := exec_insertBillProduct_cases h
    · exact hi
    · exact hi.insertLine hbill hproduct
  | settleBill i data =>
    obtain rfl := exec_settleBill_ok h
    exact hi.modifyBills _ _ (fun _ => rfl)
  | shipBill i => cases h; exact hi.modifyBills _ _ (fun _ => rfl)
  | insertProduct p =>
    obtain rfl := exec_insertProduct_ok h
    exact hi.products (Refers.keepsKeys_insert _ _)
  | updateProduct p =>
    obtain rfl := exec_updateProduct_ok h
    exact hi.products (Refers.keepsKeys_replace _ _)
  | destroyProduct i => cases h; exact hi.destroyProduct i
  | insertRoom r =>
    obtain rfl := exec_insertRoom_ok h
    exact hi.rooms (Refers.keepsKeys_insert _ _)
  | updateRoom r =>
    obtain rfl := exec_updateRoom_ok h
    exact hi.rooms (Refers.keepsKeys_replace _ _)
  | destroyRoom i => cases h; exact hi.destroyRoom i
  | insertBooking b =>
    obtain ⟨huser, hroom, rfl⟩ := exec_insertBooking_ok h
    exact hi.insertBooking huser hroom
  | destroyBooking i => cases h; exact hi.deleteBookings _
  | insertUser email password =>
    obtain ⟨-, -, rfl⟩ := exec_insertUser_ok h
    exact hi.users (Refers.keepsKeys_insert _ _)
  | updateProfile i p =>
    obtain ⟨-, rfl⟩ := exec_updateProfile_ok h
    exact hi.users (Refers.keepsKeys_modify _ _ _)
  | updatePassword i password => cases h; exact hi.users (Refers.keepsKeys_modify _ _ _)
  | updateEmail i email =>
    obtain ⟨-, -, rfl⟩ := exec_updateEmail_ok h
    exact hi.users (Refers.keepsKeys_modify _ _ _)
  | addRole i role =>
    obtain ⟨-, rfl⟩ := exec_addRole_ok h
    exact hi.users (Refers.keepsKeys_modify _ _ _)
  | destroyUser i => exact hi.destroyUser h
  | insertChat c => cases h; exact hi.chats (Refers.keepsKeys_insert _ _)
  | updateChat i p => cases h; exact hi.chats (Refers.keepsKeys_modify _ _ _)
  | destroyChat i => cases h; exact hi.destroyChat i
  | insertChatMessage m =>
    obtain ⟨hchat, rfl⟩ := exec_insertChatMessage_ok h
    exact { hi with message_chat := hi.message_chat.insert_source rfl hchat }

section Runs

variable [Env]

theorem step_refsIntact {db : Db} (h : db.RefsIntact) (r : Request) : (step db r).RefsIntact :=
  step_inv Db.RefsIntact (fun _ _ _ _ hexec hi => exec_refsIntact hexec hi) h

/-- **Referential integrity.** Along every run of requests, from a database
without dangling references, every cart, booking, bill, line and chat
message names rows that exist. -/
theorem references_intact (db : Db) (rs : List Request) (h : db.RefsIntact) :
    (runFrom db rs).RefsIntact := by
  induction rs generalizing db with
  | nil => exact h
  | cons r rs ih => exact ih (step db r) (step_refsIntact h r)

end Runs

/-- An administrator, a leash and a VIP room. -/
def openingDay : Db where
  users := Table.empty.insertAll [{ email := "admin@pet.vn", roles := ["admin"] }]
  products := Table.empty.insertAll
    [{ name := some "Leash", price := some 120, quantity := some 3 }]
  rooms := Table.empty.insertAll
    [{ rType := some .vip, weight := some .lessThan5, price := some 300, quantity := some 2 }]

/-- A new customer orders a leash, books the room and writes a message. -/
def openingDayRun : List Request :=
  [.user (some 1) (.users (.create (some [some "ann@pet.vn"]) (some "user") "secret1")),
    .user (some 2) (.carts (.create (some { productId := some 1 }))),
    .user (some 2) (.carts (.cash "7f")),
    .user (some 2) (.bookings (.create
      (BookingsController.dayRequest (some 1) (some 0) (some "1") 10 12))),
    .user (some 2) (.chatMessages (.create (some "Hello") none 0))]

/-- The administrator removes the customer. -/
def customerLeaves : List Request := [.user (some 1) (.users (.destroy 2 .turboStream))]

/-- The run leaves a row in every table, and removing the customer takes
them all away again. -/
theorem references_intact_openingDay :
    ((@runFrom .caseInsensitive openingDay openingDayRun).billProducts.rows.length = 1 ∧
      (@runFrom .caseInsensitive openingDay openingDayRun).bookings.rows.length = 1 ∧
      (@runFrom .caseInsensitive openingDay openingDayRun).chatMessages.rows.length = 1) ∧
    (@runFrom .caseInsensitive openingDay
      (openingDayRun ++ customerLeaves)).billProducts.rows = [] ∧
    (@runFrom .caseInsensitive openingDay openingDayRun).RefsIntact ∧
    (@runFrom .caseInsensitive openingDay
      (openingDayRun ++ customerLeaves)).RefsIntact := by
  have hstart : openingDay.RefsIntact := by constructor <;> decide
  exact ⟨by decide, by decide, @references_intact .caseInsensitive _ _ hstart,
    @references_intact .caseInsensitive _ _ hstart⟩

end PetParadise
