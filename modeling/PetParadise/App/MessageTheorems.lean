/-
PetParadise.App.MessageTheorems — which chat a message is stored in.

`ChatMessagesController#create` takes the first row, by id, of the chats
whose sender is the author OR the `sender_id` parameter, for every author
alike. A customer means the first of the two selections and a member of
staff the second, so the message lands right exactly when the selection
that is not meant does not start with a smaller id.
-/
import PetParadise.Chat.Windows
import PetParadise.Accounts.UsersTheorems
import PetParadise.App.RoutesTheorems

namespace PetParadise

open Store PetParadise.Action

/-! ## The property -/

/-- The sender of the chat a message is meant for: a customer writes in
their own chat, staff and administrators answer in the one they name. -/
def User.meantSender (u : User) (senderId : Option Id) : Option Id :=
  if u.isCustomer then some u.id else senderId

/-- The message a request stores, apart from the key it is given. -/
def newMessage (u : User) (c : Chat) (message : Option String) (now : DateTime) : ChatMessage where
  chatId := c.id
  userId := u.id
  message := message
  createdAt := now

/-- From `db` to `db'` one message was stored, in a chat with the meant
sender, and no other chat got one; without such a chat, none was. -/
def LandsRight (u : User) (message : Option String) (senderId : Option Id) (now : DateTime)
    (db db' : Db) : Prop :=
  if ∃ c ∈ db.chats.rows, c.senderId = u.meantSender senderId then
    ∃ c ∈ db.chats.rows, c.senderId = u.meantSender senderId ∧
      db'.chatMessages = db.chatMessages.insert (newMessage u c message now)
  else db'.chatMessages = db.chatMessages

instance (u : User) (message : Option String) (senderId : Option Id) (now : DateTime)
    (db db' : Db) : Decidable (LandsRight u message senderId now db db') :=
  inferInstanceAs (Decidable (if ∃ c ∈ db.chats.rows, c.senderId = u.meantSender senderId then
    ∃ c ∈ db.chats.rows, c.senderId = u.meantSender senderId ∧
      db'.chatMessages = db.chatMessages.insert (newMessage u c message now)
    else db'.chatMessages = db.chatMessages))

/-- No chat of the other selection comes before all meant ones. -/
def Db.MeantFirst (db : Db) (u : User) (senderId : Option Id) : Prop :=
  ∀ c ∈ db.chats.rows, c.senderId = some u.id ∨ c.senderId = senderId →
    ∃ c' ∈ db.chats.rows, c'.senderId = u.meantSender senderId ∧ c'.id ≤ c.id

instance (db : Db) (u : User) (senderId : Option Id) : Decidable (db.MeantFirst u senderId) :=
  inferInstanceAs (Decidable (∀ c ∈ db.chats.rows, _ → ∃ c' ∈ db.chats.rows, _))

/-! ## What a request does -/

theorem User.meantSender_cases (u : User) (senderId : Option Id) :
    u.meantSender senderId = some u.id ∨ u.meantSender senderId = senderId := by
  unfold User.meantSender
  split
  · exact .inl rfl
  · exact .inr rfl

theorem exec_insertChatMessage [Env] {db : Db} {m : ChatMessage} {c : Chat} (hc : c ∈ db.chats.rows)
    (hm : m.chatId = c.id) :
    exec (.insertChatMessage m) db = .ok { db with chatMessages := db.chatMessages.insert m } := by
  have hfound : db.chats.find? m.chatId = some c := by
    rw [hm]
    exact db.chats.find?_of_mem hc
  simp [exec, hfound]

namespace ChatMessagesController

theorem create_eval [Env] (db : Db) (u : User) (message : Option String) (senderId : Option Id)
    (now : DateTime) :
    ((create u message senderId now).eval db).2 =
      match chatFor db u senderId with
      | none => db
      | some c =>
          { db with chatMessages := db.chatMessages.insert (newMessage u c message now) } := by
  unfold create
  rw [eval_select_bind]
  cases hfound : chatFor db u senderId with
  | none => rfl
  | some c =>
    have hc : c ∈ db.chats.rows := List.mem_of_find?_eq_some hfound
    have hexec := exec_insertChatMessage (m := newMessage u c message now) hc rfl
    exact congrArg Prod.snd (eval_perform_ok hexec _)

/-- The chat a message goes to is the first of the two selections. -/
theorem chatFor_spec {db : Db} {u : User} {senderId : Option Id} {c : Chat}
    (h : chatFor db u senderId = some c) :
    c ∈ db.chats.rows ∧ (c.senderId = some u.id ∨ c.senderId = senderId) ∧
      ∀ c' ∈ db.chats.rows, c'.senderId = some u.id ∨ c'.senderId = senderId → c.id ≤ c'.id := by
  refine ⟨List.mem_of_find?_eq_some h, ?_, ?_⟩
  · simpa using List.find?_some h
  · intro c' hc' hsel
    exact db.chats.id_le_of_rows_find? h hc' (by simpa using hsel)

theorem chatFor_none {db : Db} {u : User} {senderId : Option Id}
    (h : chatFor db u senderId = none) :
    ∀ c ∈ db.chats.rows, ¬ (c.senderId = some u.id ∨ c.senderId = senderId) := by
  intro c hc
  simpa using List.find?_eq_none.mp h c hc

/-- The chosen chat is a meant one exactly when the meant ones come
first. -/
theorem chatFor_meant_iff {db : Db} {u : User} {senderId : Option Id} {c : Chat}
    (h : chatFor db u senderId = some c) :
    c.senderId = u.meantSender senderId ↔ db.MeantFirst u senderId := by
  obtain ⟨hc, hsel, hleast⟩ := chatFor_spec h
  constructor
  · intro hmeant c' hc' hsel'
    exact ⟨c, hc, hmeant, hleast c' hc' hsel'⟩
  · intro hfirst
    obtain ⟨c', hc', hmeant, hle⟩ := hfirst c hc hsel
    have hsel' : c'.senderId = some u.id ∨ c'.senderId = senderId := by
      rw [hmeant]
      exact u.meantSender_cases senderId
    have hid : c'.id = c.id := Nat.le_antisymm hle (hleast c' hc' hsel')
    rw [← db.chats.eq_of_id_eq hc' hc hid]
    exact hmeant

end ChatMessagesController

section Requests

variable [Env]

end Requests

/-- Every customer has exactly one chat. -/
def Db.OneChatEach (db : Db) : Prop :=
  ∀ v ∈ db.users.rows, v.isCustomer = true → (db.chatsOf (some v.id)).length = 1

instance (db : Db) : Decidable db.OneChatEach :=
  inferInstanceAs (Decidable (∀ v ∈ db.users.rows, _ → _))

/-- The administrator creates two customers, each with their chat. -/
def twoChats : List Request :=
  [.user (some 1) (.users
    (.create (some [some "ann@pet.vn", some "bob@pet.vn"]) (some "user") "secret1"))]

end PetParadise
