/-
PetParadise.Chat.Chats — `ChatsController` and `ChatMessagesController`.

Neither controller has a guard beyond `authenticate_user!`. The scaffolded
`ChatsController` looks a chat up by its bare id in `set_chat`, which
replaces the callback of the same name in `ApplicationController`.
-/
import PetParadise.Accounts.Ability

namespace PetParadise

open Store

namespace ChatsController

open PetParadise.Action

/-- `set_chat`: `Chat.find(params[:id])`. -/
def setChat (id : Id) : Action Chat := do
  let found ← select .chat (fun db => db.chats.find? id)
  Prog.orRaise found .recordNotFound

def index : Action Response := do
  let chats ← select .chat (fun db => db.chats.rows)
  return .chatsIndex chats

/-- `show` and `edit`. -/
def «show» (id : Id) : Action Response := do
  let chat ← setChat id
  let messages ← select .chatMessages (fun db => db.chatMessages.rows.filter (·.chatId == chat.id))
  return .chatPage chat messages

def new : Action Response := pure .page

/-- Assigning `chat_params`. -/
def assignChatParams (p : ChatParams) : Action Unit :=
  if p.status then .raise .unknownAttribute else pure ()

def create (p : ChatParams) : Action Response := do
  assignChatParams p
  let id ← .stmt (.insertChat (({ senderId := none } : Chat).assign p))
    (fun db => .ret db.chats.next)
  return redirectNotice ("/chats/" ++ toString id) "Chat was successfully created."

def update (id : Id) (p : ChatParams) : Action Response := do
  let chat ← setChat id
  assignChatParams p
  Prog.perform (.updateChat chat.id p)
  return redirectNotice ("/chats/" ++ toString chat.id) "Chat was successfully updated."

def destroy (id : Id) : Action Response := do
  let chat ← setChat id
  Prog.perform (.destroyChat chat.id)
  return redirectNotice "/chats" "Chat was successfully destroyed."

end ChatsController

namespace ChatMessagesController

open PetParadise.Action

/-- `Chat.where(sender_id: current_user.id).or(Chat.where(sender_id: …)).first`. -/
def chatFor (db : Db) (u : User) (senderId : Option Id) : Option Chat :=
  db.chats.rows.find? (fun c => c.senderId == some u.id || c.senderId == senderId)

def create (u : User) (message : Option String) (senderId : Option Id) (now : DateTime) :
    Action Response := do
  let found ← select .chat (fun db => chatFor db u senderId)
  let chat ← Prog.orRaise found .noMethodError
  Prog.perform (.insertChatMessage
    { chatId := chat.id, userId := u.id, message := message, createdAt := now })
  return .page

end ChatMessagesController

end PetParadise
