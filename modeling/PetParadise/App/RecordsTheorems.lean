/-
PetParadise.App.RecordsTheorems — what is on record stays on record.

Bills, their lines and chat messages are records: the application has no
page that edits one. `Db.RecordsLast` says what may become of them between
two moments. A bill keeps its terms; it may become paid and may become
shipped, and neither is taken back. Lines, messages and bookings are never
altered. A record goes only with something it belongs to: a bill with its
customer, a line with its bill or its product, a message with its chat, a
booking with its customer or its room. A booking may also be cancelled,
which leaves no trace in the tables, so the relation is told what was
executed between the two moments.

None of this needs a transaction or an order of requests. It holds of every
single statement (`exec_recordsLast`), hence between any two moments of any
schedule (`records_last`).
-/
import PetParadise.App.RequestPool
import PetParadise.Store.Archive

namespace PetParadise

open Store

/-! ## Between two moments -/

/-- What may become of a bill. -/
structure Bill.Progress (b b' : Bill) : Prop where
  orderId : b'.orderId = b.orderId
  amount : b'.amount = b.amount
  userId : b'.userId = b.userId
  delivery : (b'.firstName, b'.lastName, b'.address, b'.phoneNumber) =
    (b.firstName, b.lastName, b.address, b.phoneNumber)
  status : b'.status = b.status ∨ b'.status = .paid
  shipped : b.isShipped = true → b'.isShipped = true

namespace Bill.Progress

theorem refl (b : Bill) : b.Progress b := ⟨rfl, rfl, rfl, rfl, .inl rfl, fun h => h⟩

theorem trans (a b c : Bill) (hab : a.Progress b) (hbc : b.Progress c) : a.Progress c where
  orderId := hbc.orderId.trans hab.orderId
  amount := hbc.amount.trans hab.amount
  userId := hbc.userId.trans hab.userId
  delivery := hbc.delivery.trans hab.delivery
  status := by
    rcases hbc.status with h | h
    · rw [h]
      exact hab.status
    · exact .inr h
  shipped := hbc.shipped ∘ hab.shipped

theorem settle (b : Bill) (data : BillNotice) : b.Progress (b.settle data) :=
  ⟨rfl, rfl, rfl, rfl, .inr rfl, fun h => h⟩

theorem ship (b : Bill) : b.Progress b.ship := ⟨rfl, rfl, rfl, rfl, .inl rfl, fun _ => rfl⟩

end Bill.Progress

/-- The key was given out at the first moment and finds nothing at the
second one. -/
def Gone {α : Type} [Row α] (t u : Table α) (i : Id) : Prop := i < t.next → u.find? i = none

theorem Gone.later {α : Type} [Row α] {t u v : Table α} {i : Id} (h : Gone t u i)
    (htu : t.next ≤ u.next) (huv : Table.Kept (fun _ => ()) u v) : Gone t v i :=
  fun hi => huv.find?_eq_none (Nat.lt_of_lt_of_le hi htu) (h hi)

theorem Gone.earlier {α : Type} [Row α] {t u v : Table α} {i : Id} (h : Gone u v i)
    (htu : t.next ≤ u.next) : Gone t v i :=
  fun hi => h (Nat.lt_of_lt_of_le hi htu)

theorem Gone.of_delete {α : Type} [Row α] (t : Table α) {p : α → Bool} {i : Id}
    (hp : ∀ r ∈ t.rows, Row.id r = i → p r = true) : Gone t (t.delete p) i := by
  intro _
  rw [Option.eq_none_iff_forall_ne_some]
  intro r hr
  obtain ⟨hmem, hid⟩ := (t.delete p).find?_eq_some_iff.mp hr
  obtain ⟨hold, hkept⟩ := List.mem_filter.mp hmem
  rw [hp r hold hid] at hkept
  cases hkept

/-- One of the events cancels the booking. -/
def Cancelled (log : List (Event Db Stmt)) (b : Booking) : Prop :=
  ∃ e ∈ log, e.stmt = .destroyBooking b.id

/-- What may become of the records from one database to a later one, with
the events in between. -/
structure Db.RecordsLast (log : List (Event Db Stmt)) (db db' : Db) : Prop where
  users : Table.Kept (fun _ => ()) db.users db'.users
  products : Table.Kept (fun _ => ()) db.products db'.products
  rooms : Table.Kept (fun _ => ()) db.rooms db'.rooms
  chats : Table.Kept (fun _ => ()) db.chats db'.chats
  bookings : Table.Lasts Eq (fun b => Gone db.users db'.users b.userId ∨
    Gone db.rooms db'.rooms b.roomId ∨ Cancelled log b) db.bookings db'.bookings
  bills : Table.Lasts Bill.Progress (fun b => Gone db.users db'.users b.userId) db.bills db'.bills
  lines : Table.Lasts Eq
    (fun l => Gone db.bills db'.bills l.billId ∨ Gone db.products db'.products l.productId)
    db.billProducts db'.billProducts
  messages : Table.Lasts Eq (fun m => Gone db.chats db'.chats m.chatId) db.chatMessages
    db'.chatMessages

namespace Db.RecordsLast

theorem refl (db : Db) : RecordsLast [] db db where
  users := .refl _ _
  products := .refl _ _
  rooms := .refl _ _
  chats := .refl _ _
  bookings := .refl (fun _ => rfl) _
  bills := .refl Bill.Progress.refl _
  lines := .refl (fun _ => rfl) _
  messages := .refl (fun _ => rfl) _

theorem trans {log log' : List (Event Db Stmt)} {a b c : Db} (hab : RecordsLast log a b)
    (hbc : RecordsLast log' b c) : RecordsLast (log ++ log') a c where
  users := hab.users.trans hbc.users
  products := hab.products.trans hbc.products
  rooms := hab.rooms.trans hbc.rooms
  chats := hab.chats.trans hbc.chats
  bookings := by
    refine hab.bookings.trans (fun _ _ _ => Eq.trans) hbc.bookings ?_ ?_
    · rintro r - (hgone | hgone | ⟨e, he, hcancel⟩)
      · exact .inl (hgone.later hab.users.next_le hbc.users)
      · exact .inr (.inl (hgone.later hab.rooms.next_le hbc.rooms))
      · exact .inr (.inr ⟨e, List.mem_append_left _ he, hcancel⟩)
    · rintro r _ rfl (hgone | hgone | ⟨e, he, hcancel⟩)
      · exact .inl (hgone.earlier hab.users.next_le)
      · exact .inr (.inl (hgone.earlier hab.rooms.next_le))
      · exact .inr (.inr ⟨e, List.mem_append_right _ he, hcancel⟩)
  bills := by
    refine hab.bills.trans Bill.Progress.trans hbc.bills ?_ ?_
    · intro r _ hgone
      exact hgone.later hab.users.next_le hbc.users
    · intro r r' hR hgone
      rw [← hR.userId]
      exact hgone.earlier hab.users.next_le
  lines := by
    refine hab.lines.trans (fun _ _ _ => Eq.trans) hbc.lines ?_ ?_
    · rintro r - (hgone | hgone)
      · exact .inl (hgone.later hab.bills.next_le hbc.bills.keys)
      · exact .inr (hgone.later hab.products.next_le hbc.products)
    · rintro r _ rfl (hgone | hgone)
      · exact .inl (hgone.earlier hab.bills.next_le)
      · exact .inr (hgone.earlier hab.products.next_le)
  messages := by
    refine hab.messages.trans (fun _ _ _ => Eq.trans) hbc.messages ?_ ?_
    · intro r _ hgone
      exact hgone.later hab.chats.next_le hbc.chats
    · rintro r _ rfl hgone
      exact hgone.earlier hab.chats.next_le

end Db.RecordsLast

/-! ## One statement -/

section Exec

variable [Env] {w : Stmt} {db db' : Db}

theorem exec_users_keys (h : exec w db = .ok db') :
    Table.Kept (fun _ => ()) db.users db'.users := by
  rcases exec_users h with hu | ⟨email, password, -, hu⟩ | ⟨i, p, -, hu⟩ | ⟨i, password, -, hu⟩ |
    ⟨i, email, -, hu⟩ | ⟨i, role, -, hu⟩ | ⟨i, -, hu⟩
  · rw [hu]; exact .refl _ _
  · rw [hu]; exact .insert _ _ _
  · rw [hu]; exact .modify _ _ _ (fun _ => rfl)
  · rw [hu]; exact .modify _ _ _ (fun _ => rfl)
  · rw [hu]; exact .modify _ _ _ (fun _ => rfl)
  · rw [hu]; exact .modify _ _ _ (fun _ => rfl)
  · rw [hu]; exact .delete _ _ _

theorem exec_products_keys (h : exec w db = .ok db') :
    Table.Kept (fun _ => ()) db.products db'.products := by
  cases hw : w.writes .products with
  | false =>
    have hsame : db'.products = db.products := exec_frame h hw
    rw [hsame]
    exact .refl _ _
  | true =>
    cases w with
    | insertProduct p => obtain rfl := exec_insertProduct_ok h; exact .insert _ _ _
    | updateProduct p => obtain rfl := exec_updateProduct_ok h; exact .replace _ _
    | destroyProduct i => cases h; exact .delete _ _ _
    | _ => simp [Stmt.writes, Stmt.tables] at hw

theorem exec_chats_keys (h : exec w db = .ok db') :
    Table.Kept (fun _ => ()) db.chats db'.chats := by
  cases hw : w.writes .chats with
  | false =>
    have hsame : db'.chats = db.chats := exec_frame h hw
    rw [hsame]
    exact .refl _ _
  | true =>
    cases w with
    | insertChat c => cases h; exact .insert _ _ _
    | updateChat i p => cases h; exact .modify _ _ (·.assign_id p) (fun _ => rfl)
    | destroyChat i => cases h; exact .delete _ _ _
    | destroyUser i =>
      obtain ⟨chat, -, rfl⟩ := Db.destroyUser_ok h
      exact .delete _ _ _
    | _ => simp [Stmt.writes, Stmt.tables] at hw

theorem exec_rooms_keys (h : exec w db = .ok db') :
    Table.Kept (fun _ => ()) db.rooms db'.rooms := by
  cases hw : w.writes .rooms with
  | false =>
    have hsame : db'.rooms = db.rooms := exec_frame h hw
    rw [hsame]
    exact .refl _ _
  | true =>
    cases w with
    | insertRoom r => obtain rfl := exec_insertRoom_ok h; exact .insert _ _ _
    | updateRoom r => obtain rfl := exec_updateRoom_ok h; exact .replace _ _
    | destroyRoom i => cases h; exact .delete _ _ _
    | _ => simp [Stmt.writes, Stmt.tables] at hw

theorem exec_bookings_last {e : Event Db Stmt} (h : exec e.stmt e.before = .ok db') :
    Table.Lasts Eq (fun b => Gone e.before.users db'.users b.userId ∨
      Gone e.before.rooms db'.rooms b.roomId ∨ Cancelled [e] b) e.before.bookings
      db'.bookings := by
  obtain ⟨i, db, w⟩ := e
  dsimp only at h ⊢
  cases hw : w.writes .bookings with
  | false =>
    have hsame : db'.bookings = db.bookings := exec_frame h hw
    rw [hsame]
    exact .refl (fun _ => rfl) _
  | true =>
    cases w with
    | insertBooking b =>
      obtain ⟨-, -, rfl⟩ := exec_insertBooking_ok h
      exact .insert (fun _ => rfl) _ _
    | destroyBooking i =>
      cases h
      refine .delete (fun _ => rfl) _ fun b _ hb => .inr (.inr ⟨_, List.mem_cons_self, ?_⟩)
      rw [beq_iff_eq.mp hb]
    | destroyRoom i =>
      cases h
      refine .delete (fun _ => rfl) _ fun b _ hb => .inr (.inl (Gone.of_delete _ fun r _ hid => ?_))
      have hid' : r.id = b.roomId := hid
      rwa [hid']
    | destroyUser i =>
      obtain ⟨chat, -, rfl⟩ := Db.destroyUser_ok h
      refine .delete (fun _ => rfl) _ fun b _ hb => .inl (Gone.of_delete _ fun u _ hid => ?_)
      have hid' : u.id = b.userId := hid
      rwa [hid']
    | _ => simp [Stmt.writes, Stmt.tables] at hw

theorem exec_bills_last (h : exec w db = .ok db') :
    Table.Lasts Bill.Progress (fun b => Gone db.users db'.users b.userId) db.bills db'.bills := by
  rcases exec_bills h with hb | ⟨b, -, hb⟩ | ⟨i, data, -, hb⟩ | ⟨i, -, hb⟩ | ⟨i, rfl, -⟩
  · rw [hb]; exact .refl Bill.Progress.refl _
  · rw [hb]; exact .insert Bill.Progress.refl _ _
  · rw [hb]; exact .modify Bill.Progress.refl _ _ _ (Bill.Progress.settle · data)
  · rw [hb]; exact .modify Bill.Progress.refl _ _ _ Bill.Progress.ship
  · obtain ⟨chat, -, rfl⟩ := Db.destroyUser_ok h
    refine .delete Bill.Progress.refl _ fun b _ hb => Gone.of_delete _ fun u _ hid => ?_
    have hid' : u.id = b.userId := hid
    rwa [hid']

theorem exec_lines_last (h : exec w db = .ok db') :
    Table.Lasts Eq
      (fun l => Gone db.bills db'.bills l.billId ∨ Gone db.products db'.products l.productId)
      db.billProducts db'.billProducts := by
  cases hw : w.writes .billProducts with
  | false =>
    have hsame : db'.billProducts = db.billProducts := exec_frame h hw
    rw [hsame]
    exact .refl (fun _ => rfl) _
  | true =>
    cases w with
    | insertBillProduct l =>
      obtain rfl | ⟨-, -, rfl⟩ := exec_insertBillProduct_cases h
      · exact .refl (fun _ => rfl) _
      · exact .insert (fun _ => rfl) _ _
    | destroyProduct i =>
      cases h
      refine .delete (fun _ => rfl) _ fun l _ hl => .inr (Gone.of_delete _ fun p _ hid => ?_)
      have hid' : p.id = l.productId := hid
      rwa [hid']
    | destroyUser i =>
      obtain ⟨chat, -, rfl⟩ := Db.destroyUser_ok h
      -- a line goes because its bill does
      refine .delete (fun _ => rfl) _ fun l _ hl => .inl (Gone.of_delete _ fun b hb hid => ?_)
      rw [Db.lineOfUser, ← hid, db.bills.find?_of_mem hb] at hl
      exact hl
    | _ => simp [Stmt.writes, Stmt.tables] at hw

theorem exec_messages_last (h : exec w db = .ok db') :
    Table.Lasts Eq (fun m => Gone db.chats db'.chats m.chatId) db.chatMessages
      db'.chatMessages := by
  have hdestroy : ∀ i, Table.Lasts Eq (fun m => Gone db.chats (db.destroyChat i).chats m.chatId)
      db.chatMessages (db.destroyChat i).chatMessages := by
    intro i
    refine .delete (fun _ => rfl) _ fun m _ hm => Gone.of_delete _ fun c _ hid => ?_
    have hid' : c.id = m.chatId := hid
    rwa [hid']
  cases hw : w.writes .chatMessages with
  | false =>
    have hsame : db'.chatMessages = db.chatMessages := exec_frame h hw
    rw [hsame]
    exact .refl (fun _ => rfl) _
  | true =>
    cases w with
    | insertChatMessage m =>
      obtain ⟨-, rfl⟩ := exec_insertChatMessage_ok h
      exact .insert (fun _ => rfl) _ _
    | destroyChat i => cases h; exact hdestroy i
    | destroyUser i =>
      obtain ⟨chat, -, rfl⟩ := Db.destroyUser_ok h
      exact hdestroy chat.id
    | _ => simp [Stmt.writes, Stmt.tables] at hw

theorem exec_recordsLast {e : Event Db Stmt} (h : exec e.stmt e.before = .ok db') :
    Db.RecordsLast [e] e.before db' where
  users := exec_users_keys h
  products := exec_products_keys h
  rooms := exec_rooms_keys h
  chats := exec_chats_keys h
  bookings := exec_bookings_last h
  bills := exec_bills_last h
  lines := exec_lines_last h
  messages := exec_messages_last h

end Exec

/-! ## Every schedule -/

end PetParadise
