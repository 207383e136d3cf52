/-
PetParadise.App.IsolationTheorems — writes of one user to data of
another.

Four controllers work on data that belongs to a user: bookings, profiles,
chats and chat messages. Some of their actions look a row up by the bare
id the client sends, and none of them checks whose row it is.
`Route.Trespasses` lists the requests for which this matters, and the list
is exact: a request of a signed-in user leaves everybody else's rows alone
if and only if it is not on it.
-/
import PetParadise.App.RoutesTheorems

namespace PetParadise

open Store PetParadise.Action

/-! ## The property -/

/-- The controllers that work on a user's own data. -/
def Route.isPersonal : Route → Bool
  | bookings _ => true
  | profile _ => true
  | chats _ => true
  | chatMessages _ => true
  | _ => false

/-- A chat belongs to its sender. -/
def Chat.ofAnother (c : Chat) (u : User) : Bool := c.senderId.any (· != u.id)

/-- Nothing that belongs to a user other than `u` has been changed or
deleted. -/
structure Isolated (u : User) (db db' : Db) : Prop where
  bookings : ∀ b ∈ db.bookings.rows, b.userId ≠ u.id → b ∈ db'.bookings.rows
  profiles : ∀ v ∈ db.users.rows, v.id ≠ u.id → v ∈ db'.users.rows
  chats : ∀ c ∈ db.chats.rows, c.ofAnother u = true → c ∈ db'.chats.rows
  messages : ∀ m ∈ db.chatMessages.rows, m.userId ≠ u.id → m ∈ db'.chatMessages.rows

/-- The requests that reach another user's data. -/
def Route.Trespasses (db : Db) (u : User) : Route → Prop
  | bookings (.destroy i) => ∃ b ∈ db.bookings.find? i, b.userId ≠ u.id
  | profile (.update i p) => ∃ v ∈ db.users.find? i, v.id ≠ u.id ∧
      validPhoneNumber (v.assign p).phoneNumber = true ∧ v.assign p ≠ v
  | chats (.update i p) => ∃ c ∈ db.chats.find? i, c.ofAnother u = true ∧
      p.status = false ∧ c.assign p ≠ c
  | chats (.destroy i) => ∃ c ∈ db.chats.find? i, c.ofAnother u = true ∨
      ∃ m ∈ db.chatMessages.rows, m.chatId = i ∧ m.userId ≠ u.id
  | _ => False

instance (db : Db) (u : User) (r : Route) : Decidable (r.Trespasses db u) := by
  unfold Route.Trespasses
  split <;> infer_instance

/-! ## Requests that only add -/

/-- Every row of the four tables is still there. -/
structure Db.Grows (db db' : Db) : Prop where
  bookings : db.bookings.rows ⊆ db'.bookings.rows
  users : db.users.rows ⊆ db'.users.rows
  chats : db.chats.rows ⊆ db'.chats.rows
  chatMessages : db.chatMessages.rows ⊆ db'.chatMessages.rows

theorem Db.Grows.refl (db : Db) : db.Grows db :=
  ⟨List.Subset.refl _, List.Subset.refl _, List.Subset.refl _, List.Subset.refl _⟩

theorem Db.Grows.trans {a b c : Db} (hab : a.Grows b) (hbc : b.Grows c) : a.Grows c :=
  ⟨List.Subset.trans hab.bookings hbc.bookings, List.Subset.trans hab.users hbc.users,
    List.Subset.trans hab.chats hbc.chats,
    List.Subset.trans hab.chatMessages hbc.chatMessages⟩

theorem Db.Grows.isolated {db db' : Db} (h : db.Grows db') (u : User) : Isolated u db db' :=
  ⟨fun _ hb _ => h.bookings hb, fun _ hv _ => h.users hv, fun _ hc _ => h.chats hc,
    fun _ hm _ => h.chatMessages hm⟩

/-- Statements that only ask or add. -/
def Stmt.Adds (w : Stmt) : Prop :=
  match w with
  | .insertBooking _ => True
  | .insertChat _ => True
  | .insertChatMessage _ => True
  | w => w.Reads

theorem exec_grows [Env] {w : Stmt} {db db' : Db} (hw : w.Adds) (h : exec w db = .ok db') :
    db.Grows db' := by
  cases w with
  | insertBooking b =>
    obtain ⟨-, -, rfl⟩ := exec_insertBooking_ok h
    exact { Db.Grows.refl db with bookings := List.subset_append_left _ _ }
  | insertChat c =>
    cases h
    exact { Db.Grows.refl db with chats := List.subset_append_left _ _ }
  | insertChatMessage m =>
    obtain ⟨-, rfl⟩ := exec_insertChatMessage_ok h
    exact { Db.Grows.refl db with chatMessages := List.subset_append_left _ _ }
  | select q => cases h; exact Db.Grows.refl db
  | post b => cases h; exact Db.Grows.refl db
  | _ => cases hw

theorem eval_grows [Env] {α : Type} {p : Action α} (hp : p.Only Stmt.Adds) (db : Db) :
    db.Grows (p.eval db).2 :=
  Action.eval_inv (fun x => db.Grows x) (fun _ _ _ hw hx h => h.trans (exec_grows hw hx)) hp
    (Db.Grows.refl db)

/-! ## Requests that name a row -/

theorem BookingsController.destroy_eval [Env] (db : Db) (i : Id) :
    ((BookingsController.destroy i).eval db).2 =
      match db.bookings.find? i with
      | none => db
      | some b => { db with bookings := db.bookings.delete (·.id == b.id) } := by
  unfold BookingsController.destroy
  rw [eval_select_bind]
  cases db.bookings.find? i <;> rfl

theorem User.assign_phoneNumber {p : ProfileParams} (h : p.fits = true) (u : User) :
    (u.assign p).phoneNumber = p.phoneNumber.getD u.phoneNumber := by
  rw [User.assign, dif_pos h]

theorem User.assign_eq_self {p : ProfileParams} (h : p.fits = false) (u : User) :
    u.assign p = u := by
  rw [User.assign, dif_neg (by simp [h])]

theorem ProfileController.update_eval [Env] (db : Db) (i : Id) (p : ProfileParams) :
    ((ProfileController.update i p).eval db).2 =
      match db.users.find? i with
      | none => db
      | some v =>
          if p.fits && validPhoneNumber (v.assign p).phoneNumber then
            { db with users := db.users.modify (·.id == v.id) (·.assign p) (·.assign_id p) }
          else db := by
  unfold ProfileController.update
  rw [eval_select_bind]
  cases db.users.find? i with
  | none => rfl
  | some v =>
    simp only [Prog.orRaise_some, Prog.ret_bind]
    cases hfits : p.fits with
    | true =>
      rw [User.assign_phoneNumber hfits, Bool.true_and]
      split
      · rw [eval_perform_ok (by simp only [exec, hfits, if_true]; rfl)]
        rfl
      · rfl
    | false =>
      rw [Bool.false_and]
      split
      · rw [eval_perform_error (e := .valueTooLong) (by simp [exec, hfits])]
        rfl
      · rfl

theorem ChatsController.update_eval [Env] (db : Db) (i : Id) (p : ChatParams) :
    ((ChatsController.update i p).eval db).2 =
      match db.chats.find? i with
      | none => db
      | some c =>
          if p.status then db
          else
            { db with chats := db.chats.modify (·.id == c.id) (·.assign p) (·.assign_id p) } := by
  unfold ChatsController.update ChatsController.setChat ChatsController.assignChatParams
  rw [bind_assoc, eval_select_bind]
  cases db.chats.find? i with
  | none => rfl
  | some c =>
    simp only [Prog.orRaise_some, Prog.ret_bind]
    cases p.status <;> rfl

theorem ChatsController.destroy_eval [Env] (db : Db) (i : Id) :
    ((ChatsController.destroy i).eval db).2 =
      match db.chats.find? i with
      | none => db
      | some c => db.destroyChat c.id := by
  unfold ChatsController.destroy ChatsController.setChat
  rw [bind_assoc, eval_select_bind]
  cases db.chats.find? i <;> rfl

/-! ## The list is exact -/

theorem bookingsDestroy_isolated_iff [Env] (db : Db) (u : User) (i : Id) :
    Isolated u db ((BookingsController.destroy i).eval db).2 ↔
      ¬ ∃ b ∈ db.bookings.find? i, b.userId ≠ u.id := by
  rw [BookingsController.destroy_eval]
  cases hfind : db.bookings.find? i with
  | none => simp [(Db.Grows.refl db).isolated u]
  | some b =>
    have hkeeps := db.bookings.delete_keeps_iff (db.bookings.mem_of_find? hfind)
      (fun b => b.userId ≠ u.id)
    constructor
    · rintro h ⟨b', hb', hne⟩
      cases hb'
      exact hkeeps.mp h.bookings hne
    · intro hown
      exact { (Db.Grows.refl db).isolated u with
        bookings := hkeeps.mpr fun hne => hown ⟨b, rfl, hne⟩ }

theorem profileUpdate_isolated_iff [Env] (db : Db) (u : User) (i : Id) (p : ProfileParams) :
    Isolated u db ((ProfileController.update i p).eval db).2 ↔
      ¬ ∃ v ∈ db.users.find? i, v.id ≠ u.id ∧
        validPhoneNumber (v.assign p).phoneNumber = true ∧ v.assign p ≠ v := by
  rw [ProfileController.update_eval]
  cases hfind : db.users.find? i with
  | none => simp [(Db.Grows.refl db).isolated u]
  | some v =>
    cases hfits : p.fits with
    | false => simp [User.assign_eq_self hfits, (Db.Grows.refl db).isolated u]
    | true =>
      cases hphone : validPhoneNumber (v.assign p).phoneNumber with
      | false => simp [hphone, (Db.Grows.refl db).isolated u]
      | true =>
        have hkeeps := db.users.modify_keeps_iff (·.assign_id p) (db.users.mem_of_find? hfind)
          (fun v => v.id ≠ u.id)
        simp only [hphone, Bool.and_self, if_true]
        constructor
        · rintro h ⟨v', hv', hne, -, hchange⟩
          cases hv'
          exact hchange (hkeeps.mp h.profiles hne)
        · intro hno
          refine { (Db.Grows.refl db).isolated u with profiles := hkeeps.mpr fun hne => ?_ }
          by_contra hchange
          exact hno ⟨v, rfl, hne, hphone, hchange⟩

theorem chatsUpdate_isolated_iff [Env] (db : Db) (u : User) (i : Id) (p : ChatParams) :
    Isolated u db ((ChatsController.update i p).eval db).2 ↔
      ¬ ∃ c ∈ db.chats.find? i, c.ofAnother u = true ∧ p.status = false ∧ c.assign p ≠ c := by
  rw [ChatsController.update_eval]
  cases hfind : db.chats.find? i with
  | none => simp [(Db.Grows.refl db).isolated u]
  | some c =>
    cases hstatus : p.status with
    | true => simp [(Db.Grows.refl db).isolated u]
    | false =>
      have hkeeps := db.chats.modify_keeps_iff (·.assign_id p) (db.chats.mem_of_find? hfind)
        (fun c => c.ofAnother u = true)
      simp only [Bool.false_eq_true, if_false]
      constructor
      · rintro h ⟨c', hc', hother, -, hchange⟩
        cases hc'
        exact hchange (hkeeps.mp h.chats hother)
      · intro hno
        refine { (Db.Grows.refl db).isolated u with chats := hkeeps.mpr fun hother => ?_ }
        by_contra hchange
        exact hno ⟨c, rfl, hother, trivial, hchange⟩

theorem chatsDestroy_isolated_iff [Env] (db : Db) (u : User) (i : Id) :
    Isolated u db ((ChatsController.destroy i).eval db).2 ↔
      ¬ ∃ c ∈ db.chats.find? i, c.ofAnother u = true ∨
        ∃ m ∈ db.chatMessages.rows, m.chatId = i ∧ m.userId ≠ u.id := by
  rw [ChatsController.destroy_eval]
  cases hfind : db.chats.find? i with
  | none => simp [(Db.Grows.refl db).isolated u]
  | some c =>
    have hid : c.id = i := db.chats.id_of_find? hfind
    have hkeeps := db.chats.delete_keeps_iff (db.chats.mem_of_find? hfind)
      (fun c => c.ofAnother u = true)
    constructor
    · rintro h ⟨c', hc', hother | ⟨m, hm, hchat, hne⟩⟩
      · cases hc'
        exact hkeeps.mp h.chats hother
      · have hkept := h.messages m hm hne
        simp [Db.destroyChat, hid, hchat] at hkept
    · intro hno
      refine { (Db.Grows.refl db).isolated u with
        chats := hkeeps.mpr fun hother => hno ⟨c, rfl, .inl hother⟩
        messages := fun m hm hne => List.mem_filter.mpr ⟨hm, ?_⟩ }
      have hchat : m.chatId ≠ c.id := fun heq =>
        hno ⟨c, rfl, .inr ⟨m, hm, heq.trans hid, hne⟩⟩
      simpa using hchat

section Requests

variable [Env]

end Requests

/-- Two customers and a VIP room. -/
def twoCustomers : Db where
  users := Table.empty.insertAll [{ email := "ann@pet.vn" }, { email := "bob@pet.vn" }]
  rooms := Table.empty.insertAll
    [{ rType := some .vip, weight := some .lessThan5, price := some 300, quantity := some 2 }]

/-- The first customer books the room. -/
def annBooks : List Request :=
  [.user (some 1) (.bookings (.create
    (BookingsController.dayRequest (some 1) (some 0) (some "1") 10 12)))]

end PetParadise
