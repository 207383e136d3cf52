/-
PetParadise.Db.StatementsTheorems — the frame of every statement.

`Stmt.writes` says which tables a statement can change and `exec_frame`
that it changes no other, so a later proof never unfolds `exec` to learn
that a table stayed as it was. For the statements that check something
first, an inversion lemma says what holds once they have succeeded.
-/
import PetParadise.Web.Response

namespace PetParadise

open Store

inductive TableName where
  | users | products | carts | bills | billProducts | rooms | bookings | chats | chatMessages
  deriving DecidableEq, Repr

/-- The table is the same in both databases. -/
def Db.SameOn (t : TableName) (db db' : Db) : Prop :=
  match t with
  | .users => db'.users = db.users
  | .products => db'.products = db.products
  | .carts => db'.carts = db.carts
  | .bills => db'.bills = db.bills
  | .billProducts => db'.billProducts = db.billProducts
  | .rooms => db'.rooms = db.rooms
  | .bookings => db'.bookings = db.bookings
  | .chats => db'.chats = db.chats
  | .chatMessages => db'.chatMessages = db.chatMessages

/-- The tables a statement can change. -/
def Stmt.tables : Stmt → List TableName
  | .select _ => []
  | .post _ => []
  | .insertCart .. => [.carts]
  | .deleteCart _ => [.carts]
  | .deactivateCarts .. => [.carts]
  | .insertBill _ => [.bills]
  | .insertBillProduct _ => [.billProducts]
  | .settleBill .. => [.bills]
  | .shipBill _ => [.bills]
  | .insertProduct _ => [.products]
  | .updateProduct _ => [.products]
  | .destroyProduct _ => [.products, .carts, .billProducts]
  | .insertRoom _ => [.rooms]
  | .updateRoom _ => [.rooms]
  | .destroyRoom _ => [.rooms, .bookings]
  | .insertBooking _ => [.bookings]
  | .destroyBooking _ => [.bookings]
  | .insertUser .. => [.users]
  | .updateProfile .. => [.users]
  | .updatePassword .. => [.users]
  | .updateEmail .. => [.users]
  | .addRole .. => [.users]
  | .destroyUser _ => [.users, .carts, .bills, .billProducts, .bookings, .chats, .chatMessages]
  | .insertChat _ => [.chats]
  | .updateChat .. => [.chats]
  | .destroyChat _ => [.chats, .chatMessages]
  | .insertChatMessage _ => [.chatMessages]

def Stmt.writes (w : Stmt) (t : TableName) : Bool := w.tables.contains t

/-- A statement that leaves the database alone. -/
def Stmt.Reads (w : Stmt) : Prop := w.tables = []

@[simp] theorem Stmt.reads_select (q : Query) : (Stmt.select q).Reads := rfl

@[simp] theorem Stmt.reads_post (b : MomoRequest) : (Stmt.post b).Reads := rfl

theorem exec_reads [Env] {w : Stmt} (h : w.Reads) (db : Db) : exec w db = .ok db := by
  cases w with
  | select q => rfl
  | post b => rfl
  | _ => cases h

def Stmt.isQuery : Stmt → Bool
  | .select _ => true
  | _ => false

/-- A query: it reads, and it asks nobody but the database. -/
def Stmt.Asks (w : Stmt) : Prop := w.isQuery = true

@[simp] theorem Stmt.asks_select (q : Query) : (Stmt.select q).Asks := rfl

theorem Stmt.Asks.reads {w : Stmt} (h : w.Asks) : w.Reads := by
  cases w with
  | select q => rfl
  | _ => cases h

/-- What destroying a user does, when it succeeds. -/
theorem Db.destroyUser_ok {db db' : Db} {i : Id} (h : db.destroyUser i = .ok db') :
    ∃ chat, db.chats.rows.find? (·.senderId == some i) = some chat ∧
      db' = { db.destroyChat chat.id with
        carts := db.carts.delete (·.userId == i)
        billProducts := db.billProducts.delete (db.lineOfUser i)
        bills := db.bills.delete (·.userId == i)
        bookings := db.bookings.delete (·.userId == i)
        users := db.users.delete (·.id == i) } := by
  unfold Db.destroyUser at h
  split at h
  · cases h
  · next chat hchat =>
    cases h
    exact ⟨chat, hchat, rfl⟩

/-! ## Statements behind a check

What is known when one of them has succeeded. A bill without its user and a
line without its bill or product are not saved, and that is no error. -/

theorem eq_of_checked {ε α : Type} {c : Prop} [Decidable c] {x y : α} {e : ε}
    (h : (if c then Except.ok x else .error e) = .ok y) : c ∧ y = x := by
  split at h
  · next hc =>
    cases h
    exact ⟨hc, rfl⟩
  · cases h

/-- Two checks with an error each. -/
theorem eq_of_checked₂ {ε α : Type} {c d : Prop} [Decidable c] [Decidable d] {x y : α} {e e' : ε}
    (h : (if c then if d then Except.ok x else .error e else .error e') = .ok y) :
    c ∧ d ∧ y = x := by
  split at h
  · next hc => exact ⟨hc, eq_of_checked h⟩
  · cases h

section Checked

variable [Env] {db db' : Db}

theorem exec_insertCart_ok {u p : Id} (h : exec (.insertCart u p) db = .ok db') :
    (db.users.find? u).isSome = true ∧ (db.products.find? p).isSome = true ∧
      db' = { db with carts := db.carts.insert { userId := u, productId := p } } := by
  obtain ⟨hfound, rfl⟩ := eq_of_checked h
  rw [Bool.and_eq_true] at hfound
  exact ⟨hfound.1, hfound.2, rfl⟩

theorem exec_insertBill_cases {b : Bill} (h : exec (.insertBill b) db = .ok db') :
    db' = db ∨ (db.users.find? b.userId).isSome = true ∧
      db' = { db with bills := db.bills.insert b } := by
  simp only [exec] at h
  split at h
  · cases h
    exact .inl rfl
  · next huser =>
    split at h
    · exact .inr ⟨by simpa [Option.isSome_iff_ne_none] using huser, (eq_of_checked h).2⟩
    · cases h

theorem exec_insertBillProduct_cases {l : BillProduct}
    (h : exec (.insertBillProduct l) db = .ok db') :
    db' = db ∨ (db.bills.find? l.billId).isSome = true ∧
      (db.products.find? l.productId).isSome = true ∧
      db' = { db with billProducts := db.billProducts.insert l } := by
  simp only [exec] at h
  split at h
  · cases h
    exact .inl rfl
  · next hfound =>
    simp only [Bool.or_eq_true, not_or, Bool.not_eq_true, Option.isNone_eq_false_iff] at hfound
    exact .inr ⟨hfound.1, hfound.2, (eq_of_checked h).2⟩

theorem exec_settleBill_ok {i : Id} {data : BillNotice}
    (h : exec (.settleBill i data) db = .ok db') :
    db' = { db with bills := db.bills.modify (·.id == i) (·.settle data) (·.settle_id data) } :=
  (eq_of_checked₂ h).2.2

theorem exec_insertProduct_ok {p : Product} (h : exec (.insertProduct p) db = .ok db') :
    db' = { db with products := db.products.insert p } :=
  (eq_of_checked₂ h).2.2

theorem exec_updateProduct_ok {p : Product} (h : exec (.updateProduct p) db = .ok db') :
    db' = { db with products := db.products.replace p } :=
  (eq_of_checked₂ h).2.2

theorem exec_insertRoom_ok {r : Room} (h : exec (.insertRoom r) db = .ok db') :
    db' = { db with rooms := db.rooms.insert r } :=
  (eq_of_checked h).2

theorem exec_updateRoom_ok {r : Room} (h : exec (.updateRoom r) db = .ok db') :
    db' = { db with rooms := db.rooms.replace r } :=
  (eq_of_checked h).2

theorem exec_insertBooking_ok {b : Booking} (h : exec (.insertBooking b) db = .ok db') :
    (db.users.find? b.userId).isSome = true ∧ (db.rooms.find? b.roomId).isSome = true ∧
      db' = { db with bookings := db.bookings.insert b } := by
  simp only [exec] at h
  split at h
  · cases h
  · next hfound =>
    simp only [Bool.or_eq_true, not_or, Bool.not_eq_true, Option.isNone_eq_false_iff] at hfound
    exact ⟨hfound.1, hfound.2, (eq_of_checked h).2⟩

theorem exec_insertChatMessage_ok {m : ChatMessage}
    (h : exec (.insertChatMessage m) db = .ok db') :
    (db.chats.find? m.chatId).isSome = true ∧
      db' = { db with chatMessages := db.chatMessages.insert m } := by
  simp only [exec] at h
  split at h
  · cases h
  · next hfound =>
    cases h
    exact ⟨by simpa [Option.isSome_iff_ne_none] using hfound, rfl⟩

theorem exec_insertUser_ok {email password : String}
    (h : exec (.insertUser email password) db = .ok db') :
    fitsString (some email) = true ∧ db.emailTaken db.users.next email = false ∧
      db' = { db with users := db.users.insert { email := email, password := password } } := by
  simp only [exec] at h
  split at h
  · next hfits =>
    split at h
    · cases h
    · next hfree =>
      cases h
      exact ⟨hfits, Bool.eq_false_iff.mpr hfree, rfl⟩
  · cases h

theorem exec_updateProfile_ok {i : Id} {p : ProfileParams}
    (h : exec (.updateProfile i p) db = .ok db') :
    p.fits = true ∧
      db' = { db with users := db.users.modify (·.id == i) (·.assign p) (·.assign_id p) } :=
  eq_of_checked h

theorem exec_updateEmail_ok {i : Id} {email : String}
    (h : exec (.updateEmail i email) db = .ok db') :
    fitsString (some email) = true ∧ db.emailTaken i email = false ∧
      db' = { db with users := db.users.modify (·.id == i) (·.withEmail email)
                        (·.withEmail_id email) } := by
  simp only [exec] at h
  split at h
  · next hfits =>
    split at h
    · cases h
    · next hfree =>
      cases h
      exact ⟨hfits, Bool.eq_false_iff.mpr hfree, rfl⟩
  · cases h

theorem exec_addRole_ok {i : Id} {role : String} (h : exec (.addRole i role) db = .ok db') :
    fitsString (some role) = true ∧
      db' = { db with users := db.users.modify (·.id == i) (·.addRole role)
                        (·.addRole_id role) } :=
  eq_of_checked h

end Checked

section Inversion

variable [Env]

/-- A statement changes no table but those it writes. -/
theorem exec_frame {w : Stmt} {db db' : Db} (h : exec w db = .ok db') {t : TableName}
    (hw : w.writes t = false) : db.SameOn t db' := by
  -- Every constructor either succeeds unconditionally or behind up to three
  -- checks; after them the new database is explicit and the table is read off.
  cases w with
  | destroyUser i =>
    obtain ⟨chat, -, rfl⟩ := Db.destroyUser_ok h
    cases t <;> first | rfl | simp [Stmt.writes, Stmt.tables] at hw
  | _ =>
    simp only [exec] at h
    try split at h
    all_goals try split at h
    all_goals try split at h
    all_goals
      cases h
      try cases t <;> first | rfl | simp [Stmt.writes, Stmt.tables] at hw

/-! ## What a statement can do to one table

One inversion lemma per table that a run-level result follows. -/

theorem exec_users {w : Stmt} {db db' : Db} (h : exec w db = .ok db') :
    db'.users = db.users ∨
    (∃ email password, w = .insertUser email password ∧
      db'.users = db.users.insert { email := email, password := password }) ∨
    (∃ i p, w = .updateProfile i p ∧
      db'.users = db.users.modify (·.id == i) (·.assign p) (·.assign_id p)) ∨
    (∃ i password, w = .updatePassword i password ∧
      db'.users = db.users.modify (·.id == i) (·.withPassword password)
        (·.withPassword_id password)) ∨
    (∃ i email, w = .updateEmail i email ∧
      db'.users = db.users.modify (·.id == i) (·.withEmail email) (·.withEmail_id email)) ∨
    (∃ i role, w = .addRole i role ∧
      db'.users = db.users.modify (·.id == i) (·.addRole role) (·.addRole_id role)) ∨
    (∃ i, w = .destroyUser i ∧ db'.users = db.users.delete (·.id == i)) := by
  cases hw : w.writes .users with
  | false => exact .inl (exec_frame h hw)
  | true =>
    right
    cases w with
    | insertUser email password =>
      obtain ⟨-, -, rfl⟩ := exec_insertUser_ok h
      exact .inl ⟨email, password, rfl, rfl⟩
    | updateProfile i p =>
      obtain ⟨-, rfl⟩ := exec_updateProfile_ok h
      exact .inr (.inl ⟨i, p, rfl, rfl⟩)
    | updatePassword i password => cases h; exact .inr (.inr (.inl ⟨i, password, rfl, rfl⟩))
    | updateEmail i email =>
      obtain ⟨-, -, rfl⟩ := exec_updateEmail_ok h
      exact .inr (.inr (.inr (.inl ⟨i, email, rfl, rfl⟩)))
    | addRole i role =>
      obtain ⟨-, rfl⟩ := exec_addRole_ok h
      exact .inr (.inr (.inr (.inr (.inl ⟨i, role, rfl, rfl⟩))))
    | destroyUser i =>
      obtain ⟨chat, -, rfl⟩ := Db.destroyUser_ok h
      exact .inr (.inr (.inr (.inr (.inr ⟨i, rfl, rfl⟩))))
    | _ => simp [Stmt.writes, Stmt.tables] at hw

theorem exec_bills {w : Stmt} {db db' : Db} (h : exec w db = .ok db') :
    db'.bills = db.bills ∨
    (∃ b, w = .insertBill b ∧ db'.bills = db.bills.insert b) ∨
    (∃ i data, w = .settleBill i data ∧
      db'.bills = db.bills.modify (·.id == i) (·.settle data) (·.settle_id data)) ∨
    (∃ i, w = .shipBill i ∧ db'.bills = db.bills.modify (·.id == i) Bill.ship Bill.ship_id) ∨
    (∃ i, w = .destroyUser i ∧ db'.bills = db.bills.delete (·.userId == i)) := by
  cases hw : w.writes .bills with
  | false => exact .inl (exec_frame h hw)
  | true =>
    cases w with
    | insertBill b =>
      obtain rfl | ⟨-, rfl⟩ := exec_insertBill_cases h
      · exact .inl rfl
      · exact .inr (.inl ⟨b, rfl, rfl⟩)
    | settleBill i data =>
      obtain rfl := exec_settleBill_ok h
      exact .inr (.inr (.inl ⟨i, data, rfl, rfl⟩))
    | shipBill i => cases h; exact .inr (.inr (.inr (.inl ⟨i, rfl, rfl⟩)))
    | destroyUser i =>
      obtain ⟨chat, -, rfl⟩ := Db.destroyUser_ok h
      exact .inr (.inr (.inr (.inr ⟨i, rfl, rfl⟩)))
    | _ => simp [Stmt.writes, Stmt.tables] at hw

/-! ## Whole actions -/

/-- An invariant that every statement the action may issue keeps is kept
by the action. -/
theorem Action.eval_inv {α : Type} {P : Stmt → Prop} (I : Db → Prop)
    (hstep : ∀ w db db', P w → exec w db = .ok db' → I db → I db')
    {p : Action α} (hp : p.Only P) {db : Db} (h : I db) : I (p.eval db).2 :=
  Prog.run_inv I hstep hp h

/-- What only reads leaves the database as it is. -/
theorem Action.eval_reads {α : Type} {p : Action α} (hp : p.Only Stmt.Reads) (db : Db) :
    (p.eval db).2 = db := by
  refine Action.eval_inv (· = db) ?_ hp rfl
  intro w x x' hw hexec hx
  rw [exec_reads hw] at hexec
  cases hexec
  exact hx

/-- A part that only reads can be left off. -/
theorem Action.eval_bind_reads {α β : Type} {p : Action α} {f : α → Action β}
    (hf : ∀ a, (f a).Only Stmt.Reads) (db : Db) : (Action.eval (p >>= f) db).2 = (p.eval db).2 := by
  cases h : p.eval db with
  | mk outcome db' =>
    cases outcome with
    | error e => rw [eval_bind_error h]
    | ok a =>
      rw [eval_bind_ok h]
      exact Action.eval_reads (hf a) db'

end Inversion

/-! ## Reading `Only` off a program

The shapes an action is built from, so that `simp` can compute which
statements it may issue. -/

namespace Action

variable {α β : Type} {P : Stmt → Prop}

@[simp] theorem only_select_bind (q : Query) (g : Db → α) (f : α → Action β) :
    (select q g >>= f).Only P ↔ P (.select q) ∧ ∀ db, (f (g db)).Only P := Iff.rfl

@[simp] theorem only_perform_bind (w : Stmt) (f : Unit → Action β) :
    (Prog.perform w >>= f).Only P ↔ P w ∧ (f ()).Only P :=
  ⟨fun h => ⟨h.1, h.2 {}⟩, fun h => ⟨h.1, fun _ => h.2⟩⟩

@[simp] theorem only_orRaise_bind (o : Option α) (e : Failure) (f : α → Action β) :
    (Prog.orRaise o e >>= f).Only P ↔ ∀ a, o = some a → (f a).Only P := by
  cases o <;> simp

@[simp] theorem only_ofExcept_bind (x : Except Failure α) (f : α → Action β) :
    (Prog.ofExcept x >>= f).Only P ↔ ∀ a, x = .ok a → (f a).Only P := by
  cases x <;> simp

@[simp] theorem only_ite (c : Prop) [Decidable c] (p q : Action α) :
    (if c then p else q).Only P ↔ (c → p.Only P) ∧ (¬ c → q.Only P) := by
  by_cases h : c <;> simp [h]

end Action

end PetParadise
