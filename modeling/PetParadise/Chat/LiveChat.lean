/-
PetParadise.Chat.LiveChat — open pages, the message job and the cable.

A page is drawn from the database with the windows of
`PetParadise.Chat.Windows`, connects to the channel of its user some time
later, and from then on handles every broadcast with the `received` handler
of `chat_controller.js`. A committed message leaves a `MessageBroadcastJob`
behind, which runs at some later time and in any order with others.

Loading, connecting, committing and running a job are separate events;
`LiveChat.step` takes them one at a time. The cable delivers a broadcast
once, to the pages that are connected at that moment.
-/
import PetParadise.Chat.Windows
import PetParadise.Chat.Chats
import Mathlib.Algebra.GroupWithZero.Nat

namespace PetParadise

open Store

/-! ## `MessageBroadcastJob` -/

/-- `ActionCable.server.broadcast("chat_#{user.id}_channel", …)`. -/
structure Broadcast where
  channel : Id
  chatMessage : Bubble
  chatId : Id
  deriving DecidableEq, Repr

namespace MessageBroadcastJob

/-- `User.with_any_role(:staff, :admin)`, a union. -/
def withAnyRole (db : Db) : List User :=
  db.users.rows.filter (·.isStaff) ++ db.users.rows.filter (fun u => u.isAdmin && !u.isStaff)

def recipients (db : Db) (author : User) (chat : Chat) : List User :=
  if author.isAdmin || author.isStaff then
    db.users.rows.filter (fun u => some u.id == chat.senderId) ++
      (withAnyRole db).filter (·.id != author.id)
  else withAnyRole db

/-- `perform`: the author first, then the recipients. Without an author
there are no roles to ask for, without a chat nothing can be rendered. -/
def perform (db : Db) (m : ChatMessage) : Except Failure (List Broadcast) :=
  match db.users.find? m.userId, db.chats.find? m.chatId with
  | some author, some chat =>
      .ok ((author :: recipients db author chat).map fun u => ⟨u.id, bubble u chat m, m.chatId⟩)
  | _, _ => .error .noMethodError

end MessageBroadcastJob

/-! ## Pages -/

structure Page where
  user : User
  windows : List ChatWindow
  subscribed : Bool := false
  deriving DecidableEq, Repr

/-- What of `layouts/application` depends on the chats. The message menu is
part of the admin header, which is drawn at an admin URL for those who
manage bills. -/
def Db.renderLayout (db : Db) (u : User) (adminUrl : Bool) : Except Failure (List ChatWindow) :=
  let chats := ApplicationController.setChat db u
  if Ability.can u .bill && adminUrl then
    match db.menuEntries chats with
    | .ok _ => db.chatWindows u chats
    | .error e => .error e
  else db.chatWindows u chats

/-- `$("#user-chat<id> #chat_messages").append(msg)`. -/
def ChatWindow.append (data : Broadcast) (w : ChatWindow) : ChatWindow :=
  if w.chatId == data.chatId then { w with bubbles := w.bubbles ++ [data.chatMessage] } else w

/-- `received`. Without a window of the chat, `getElementById` finds
nothing and the handler ends with a `TypeError`: no window changes. -/
def Page.received (p : Page) (data : Broadcast) : Page :=
  { p with windows := p.windows.map (·.append data) }

/-- A broadcast reaches a page that is connected to its channel. -/
def Page.hear (p : Page) (data : Broadcast) : Page :=
  if p.subscribed && p.user.id == data.channel then p.received data else p

/-- How often a page shows a message. -/
def Page.shown (p : Page) (m : ChatMessage) : Nat :=
  (p.windows.map fun w => w.bubbles.countP (·.message == m)).sum

/-! ## Events -/

/-- The database, the jobs that are still to run, and the open pages. -/
structure LiveChat where
  db : Db
  jobs : List ChatMessage := []
  pages : List Page := []

inductive LiveChat.Event where
  | load (user : Id) (adminUrl : Bool)
  | subscribe (page : Nat)
  | post (author : Id) (message : Option String) (senderId : Option Id) (now : DateTime)
  | work (job : Nat)
  deriving DecidableEq, Repr

namespace LiveChat

/-- `after_create_commit` leaves a job for every message a request stored. -/
def commit (s : LiveChat) (db' : Db) : LiveChat :=
  { s with
    db := db'
    jobs := s.jobs ++ db'.chatMessages.rows.drop s.db.chatMessages.rows.length }

/-- A job that raises sends nothing. -/
def runJob (s : LiveChat) (m : ChatMessage) : List Page :=
  match MessageBroadcastJob.perform s.db m with
  | .ok broadcasts => s.pages.map (fun p => broadcasts.foldl Page.hear p)
  | .error _ => s.pages

def step [Env] (s : LiveChat) : Event → LiveChat
  | .load user adminUrl =>
      match s.db.users.find? user with
      | none => s
      | some u =>
          match s.db.renderLayout u adminUrl with
          | .ok windows => { s with pages := s.pages ++ [{ user := u, windows := windows }] }
          | .error _ => s
  | .subscribe page =>
      { s with pages := s.pages.modify page (fun p => { p with subscribed := true }) }
  | .post author message senderId now =>
      match s.db.users.find? author with
      | none => s
      | some u => s.commit ((ChatMessagesController.create u message senderId now).eval s.db).2
  | .work job =>
      match s.jobs[job]? with
      | none => s
      | some m => { s with jobs := s.jobs.eraseIdx job, pages := s.runJob m }

def run [Env] (s : LiveChat) (es : List Event) : LiveChat := es.foldl step s

end LiveChat

end PetParadise
