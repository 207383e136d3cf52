/-
PetParadise.Chat.Windows — the chats every page shows.

`ApplicationController#set_chat` chooses the chats of the signed-in user's
page, `layouts/application` draws one window for each of them, and
`layouts/_header_admin` one entry in the message menu. An administrator's
window and every entry of the menu carry the name of the chat's OWNER,
looked up by `sender_id` without asking whether there is such a user.

`joins(:chat_messages)` yields a chat once per message, so a chat without
messages is not among them; `uniq` keeps its first occurrence. Messages of
the same instant come in key order here, the database may choose any.
-/
import PetParadise.Accounts.Ability
import Mathlib.Data.List.Sort

namespace PetParadise

open Store

/-- `chat.chat_messages`. -/
def Db.messagesOf (db : Db) (chatId : Id) : List ChatMessage :=
  db.chatMessages.rows.filter (·.chatId == chatId)

/-- `Chat.joins(:chat_messages).where(…).order("chat_messages.created_at desc").uniq`. -/
def Db.chatsByNewest (db : Db) (p : Chat → Bool) : List Chat :=
  ((db.chatMessages.rows.insertionSort (fun a b => b.createdAt ≤ a.createdAt)).filterMap
    (fun m => (db.chats.find? m.chatId).filter p)).eraseDups

/-- `Chat.where(sender_id: …)`. -/
def Db.chatsOf (db : Db) (senderId : Option Id) : List Chat :=
  db.chats.rows.filter (·.senderId == senderId)

/-- `ApplicationController#set_chat`. -/
def ApplicationController.setChat (db : Db) (u : User) : List Chat :=
  if u.isAdmin || u.isStaff then db.chatsByNewest (·.receiverId == none)
  else if (db.chatsOf (some u.id)).head?.any (fun c => !(db.messagesOf c.id).isEmpty) then
    db.chatsByNewest (·.senderId == some u.id)
  else db.chatsOf (some u.id)

/-! ## Names -/

/-- `email.split("@").first`. -/
def localPart (email : String) : String := String.ofList (email.toList.takeWhile (· != '@'))

/-- `User.find_by(id: chat.sender_id).email.split("@").first`. -/
def Db.ownerName (db : Db) (chat : Chat) : Except Failure String :=
  match chat.senderId.bind db.users.find? with
  | none => .error .noMethodError
  | some owner => .ok (localPart owner.email)

/-! ## The windows -/

/-- `chat_messages/_chat_message`: a message and the side it is drawn on. -/
structure Bubble where
  message : ChatMessage
  sender : Bool
  deriving DecidableEq, Repr

def bubble (u : User) (chat : Chat) (m : ChatMessage) : Bubble where
  message := m
  sender := m.userId == u.id || (chat.senderId != some m.userId && (u.isAdmin || u.isStaff))

structure ChatWindow where
  chatId : Id
  senderId : Option Id
  name : String
  bubbles : List Bubble
  deriving DecidableEq, Repr

/-- The name at the head of a window. -/
def Db.windowName (db : Db) (u : User) (chat : Chat) : Except Failure String :=
  if u.isAdmin then db.ownerName chat else .ok "Staff"

/-- `chat.chat_messages.order(created_at: :asc)`. -/
def Db.bubbles (db : Db) (u : User) (chat : Chat) : List Bubble :=
  ((db.messagesOf chat.id).insertionSort (fun a b => a.createdAt ≤ b.createdAt)).map
    (bubble u chat)

/-- The loop `@chat.each` of `layouts/application`. -/
def Db.chatWindows (db : Db) (u : User) : List Chat → Except Failure (List ChatWindow)
  | [] => .ok []
  | chat :: chats =>
      match db.windowName u chat, db.chatWindows u chats with
      | .ok name, .ok rest => .ok (⟨chat.id, chat.senderId, name, db.bubbles u chat⟩ :: rest)
      | .error e, _ => .error e
      | _, .error e => .error e

/-- One entry of the message menu: the owner and the last message. -/
structure MenuEntry where
  chatId : Id
  name : String
  message : Option String
  createdAt : DateTime
  deriving DecidableEq, Repr

/-- The loop `@chat.each` of `layouts/_header_admin`; chats without a
message are skipped. -/
def Db.menuEntries (db : Db) : List Chat → Except Failure (List MenuEntry)
  | [] => .ok []
  | chat :: chats =>
      match (db.messagesOf chat.id).getLast? with
      | none => db.menuEntries chats
      | some last =>
          match db.ownerName chat, db.menuEntries chats with
          | .ok name, .ok rest => .ok (⟨chat.id, name, last.message, last.createdAt⟩ :: rest)
          | .error e, _ => .error e
          | _, .error e => .error e

/-! ## Which chats are listed -/

/-- A chat is listed for administrators and staff when nobody is set as its
receiver and somebody has written in it. -/
def Db.Listed (db : Db) (c : Chat) : Prop :=
  c.receiverId = none ∧ ∃ m ∈ db.chatMessages.rows, m.chatId = c.id

instance (db : Db) (c : Chat) : Decidable (db.Listed c) :=
  inferInstanceAs (Decidable (c.receiverId = none ∧ ∃ m ∈ db.chatMessages.rows, m.chatId = c.id))

theorem Db.mem_chatsByNewest {db : Db} {p : Chat → Bool} {c : Chat} :
    c ∈ db.chatsByNewest p ↔
      c ∈ db.chats.rows ∧ p c = true ∧ ∃ m ∈ db.chatMessages.rows, m.chatId = c.id := by
  unfold Db.chatsByNewest
  simp only [List.mem_eraseDups, List.mem_filterMap, List.mem_insertionSort,
    Option.filter_eq_some_iff]
  constructor
  · rintro ⟨m, hm, hfind, hp⟩
    have hid : c.id = m.chatId := db.chats.id_of_find? hfind
    exact ⟨db.chats.mem_of_find? hfind, hp, m, hm, hid.symm⟩
  · rintro ⟨hc, hp, m, hm, hid⟩
    refine ⟨m, hm, ?_, hp⟩
    rw [hid]
    exact db.chats.find?_of_mem hc

theorem ApplicationController.mem_setChat_iff {db : Db} {u : User}
    (hu : (u.isAdmin || u.isStaff) = true) {c : Chat} :
    c ∈ setChat db u ↔ c ∈ db.chats.rows ∧ db.Listed c := by
  simp only [setChat, hu, if_true, Db.mem_chatsByNewest, beq_iff_eq, Db.Listed]

/-- The windows can be drawn when the owners of their chats exist. -/
theorem Db.chatWindows_ok {db : Db} {u : User} {chats : List Chat}
    (h : ∀ c ∈ chats, ∃ name, db.windowName u c = .ok name) :
    ∃ ws, db.chatWindows u chats = .ok ws := by
  induction chats with
  | nil => exact ⟨[], rfl⟩
  | cons c chats ih =>
    obtain ⟨name, hname⟩ := h c List.mem_cons_self
    obtain ⟨ws, hws⟩ := ih (fun c' hc' => h c' (List.mem_cons_of_mem _ hc'))
    exact ⟨_, by rw [Db.chatWindows, hname, hws]⟩

theorem Db.menuEntries_ok {db : Db} {chats : List Chat}
    (h : ∀ c ∈ chats, ∃ name, db.ownerName c = .ok name) :
    ∃ es, db.menuEntries chats = .ok es := by
  induction chats with
  | nil => exact ⟨[], rfl⟩
  | cons c chats ih =>
    obtain ⟨name, hname⟩ := h c List.mem_cons_self
    obtain ⟨es, hes⟩ := ih (fun c' hc' => h c' (List.mem_cons_of_mem _ hc'))
    cases hlast : (db.messagesOf c.id).getLast? with
    | none => exact ⟨es, by rw [Db.menuEntries, hlast]; exact hes⟩
    | some last => exact ⟨_, by rw [Db.menuEntries, hlast, hname, hes]⟩

end PetParadise
