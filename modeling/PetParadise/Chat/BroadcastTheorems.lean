/-
PetParadise.Chat.BroadcastTheorems — who hears a message, and how often.

`MessageBroadcastJob#perform` sends to the author, and then to a list that
is put together differently for an author from the team (admin or staff)
and for any other: the chat's owner and the REST of the team, or the whole
team and NOT the owner. The first takes the owner to be outside the team,
the second takes the owner to be the author. `countP_recipients_eq` counts
for every user, and `heard_once_iff` is read off the count.
-/
import PetParadise.Chat.LiveChat

namespace PetParadise

open Store

/-! ## Participants -/

/-- The user exists and is an administrator or a member of staff. -/
def Db.inTeam (db : Db) (i : Id) : Bool :=
  (db.users.find? i).any (fun u => u.isAdmin || u.isStaff)

/-- The user exists and the chat is theirs. -/
def Db.owns (db : Db) (chat : Chat) (i : Id) : Bool :=
  (db.users.find? i).any (fun u => some u.id == chat.senderId)

/-- The author, the owner of the chat, and the team are each sent the
message once, and nobody else is. -/
def Db.HeardOnce (db : Db) (chat : Chat) (author : Id) (broadcasts : List Broadcast) : Prop :=
  ∀ i, broadcasts.countP (·.channel == i) =
    if i = author ∨ db.owns chat i = true ∨ db.inTeam i = true then 1 else 0

/-- The owner, if there is one, is outside the team when the author is in
it, and is the author or in the team when the author is not. -/
def Db.OwnerPlaced (db : Db) (chat : Chat) (author : Id) : Prop :=
  ∀ i, db.owns chat i = true →
    if db.inTeam author = true then db.inTeam i = false else i = author ∨ db.inTeam i = true

theorem Db.owns_iff {db : Db} {chat : Chat} {i : Id} :
    db.owns chat i = true ↔ chat.senderId = some i ∧ (db.users.find? i).isSome = true := by
  unfold Db.owns
  cases hfind : db.users.find? i with
  | none => simp
  | some u =>
    have hid : u.id = i := db.users.id_of_find? hfind
    rw [Option.any_some, hid, beq_iff_eq, Option.isSome_some, and_iff_left rfl]
    exact eq_comm

namespace MessageBroadcastJob

theorem countP_withAnyRole_eq (db : Db) (i : Id) :
    (withAnyRole db).countP (·.id == i) = if db.inTeam i then 1 else 0 := by
  have hstaff : (db.users.rows.filter (·.isStaff)).countP (·.id == i) =
      if (db.users.find? i).any (·.isStaff) then 1 else 0 := db.users.countP_filter_id _ i
  have hadmin : (db.users.rows.filter (fun u => u.isAdmin && !u.isStaff)).countP (·.id == i) =
      if (db.users.find? i).any (fun u => u.isAdmin && !u.isStaff) then 1 else 0 :=
    db.users.countP_filter_id _ i
  rw [withAnyRole, List.countP_append, hstaff, hadmin, Db.inTeam]
  cases db.users.find? i with
  | none => rfl
  | some u =>
    simp only [Option.any_some]
    by_cases hs : u.isStaff = true <;> by_cases ha : u.isAdmin = true <;> simp [hs, ha]

/-- How often the job sends to a user. -/
theorem countP_recipients_eq {db : Db} {author : User} (chat : Chat) (i : Id)
    (hauthor : db.users.find? author.id = some author) :
    (author :: recipients db author chat).countP (·.id == i) =
      if db.inTeam author.id then
        (if db.owns chat i then 1 else 0) + if i = author.id ∨ db.inTeam i = true then 1 else 0
      else if i = author.id ∨ db.inTeam i = true then 1 else 0 := by
  have hteam : db.inTeam author.id = (author.isAdmin || author.isStaff) := by
    rw [Db.inTeam, hauthor]
    rfl
  have howner : (db.users.rows.filter (fun u => some u.id == chat.senderId)).countP (·.id == i) =
      if db.owns chat i then 1 else 0 := db.users.countP_filter_id _ i
  have hothers : ((withAnyRole db).filter (·.id != author.id)).countP (·.id == i) =
      if i = author.id then 0 else (withAnyRole db).countP (·.id == i) := by
    rw [List.countP_filter]
    by_cases hi : i = author.id
    · rw [if_pos hi, List.countP_eq_zero]
      intro v _
      simp [hi]
    · rw [if_neg hi]
      refine List.countP_congr fun v _ => ?_
      simp only [Bool.and_eq_true, beq_iff_eq, bne_iff_ne, ne_eq, and_iff_left_iff_imp]
      exact fun hv => hv ▸ hi
  rw [List.countP_cons, recipients, ← hteam]
  by_cases hi : i = author.id
  · subst hi
    cases htm : db.inTeam author.id with
    | false => simp [countP_withAnyRole_eq, htm]
    | true => simp [List.countP_append, howner, hothers]
  · have hne : (author.id == i) = false := beq_eq_false_iff_ne.mpr (Ne.symm hi)
    cases db.inTeam author.id with
    | false => simp [countP_withAnyRole_eq, hi, hne]
    | true => simp [List.countP_append, howner, hothers, countP_withAnyRole_eq, hi, hne]

/-- **When each participant hears a message once.** For every assignment of
roles, every chat and every message in it whose author exists: the job
sends the message once to the author, to the chat's owner and to each
member of the team, and to nobody else, if and only if the owner is where
the job takes the owner to be. -/
theorem heard_once_iff (db : Db) (m : ChatMessage) (author : User) (chat : Chat)
    (hauthor : db.users.find? m.userId = some author)
    (hchat : db.chats.find? m.chatId = some chat) :
    (∃ broadcasts, perform db m = .ok broadcasts ∧ db.HeardOnce chat m.userId broadcasts) ↔
      db.OwnerPlaced chat m.userId := by
  have hid : author.id = m.userId := db.users.id_of_find? hauthor
  have hself : db.users.find? author.id = some author := db.users.find?_self hauthor
  have hperform : perform db m = .ok ((author :: recipients db author chat).map
      fun u => ⟨u.id, bubble u chat m, m.chatId⟩) := by
    rw [perform, hauthor, hchat]
  have hcount : ∀ i, ((author :: recipients db author chat).map
      fun u => (⟨u.id, bubble u chat m, m.chatId⟩ : Broadcast)).countP (·.channel == i) =
        (author :: recipients db author chat).countP (·.id == i) := by
    intro i
    rw [List.countP_map]
    rfl
  have hiff : (∃ broadcasts, perform db m = .ok broadcasts ∧
      db.HeardOnce chat m.userId broadcasts) ↔
        ∀ i, (author :: recipients db author chat).countP (·.id == i) =
          if i = m.userId ∨ db.owns chat i = true ∨ db.inTeam i = true then 1 else 0 := by
    rw [hperform]
    constructor
    · rintro ⟨broadcasts, hok, hheard⟩ i
      cases hok
      rw [← hcount, hheard]
    · intro h
      exact ⟨_, rfl, fun i => (hcount i).trans (h i)⟩
  rw [hiff, Db.OwnerPlaced]
  refine forall_congr' fun i => ?_
  rw [countP_recipients_eq chat i hself, hid]
  cases htm : db.inTeam m.userId with
  | true =>
    by_cases hi : i = m.userId
    · subst hi
      cases db.owns chat m.userId <;> simp [htm]
    · cases db.owns chat i <;> cases db.inTeam i <;> simp [hi]
  | false =>
    by_cases hi : i = m.userId
    · simp [hi]
    · cases db.owns chat i <;> cases db.inTeam i <;> simp [hi]

/-- An administrator, a member of staff with a chat of their own, and two
customers with theirs. -/
def teamChats : Db where
  users := Table.empty.insertAll
    [{ email := "boss@pet.vn", roles := ["admin"] }, { email := "sam@pet.vn", roles := ["staff"] },
      { email := "ann@pet.vn", roles := ["user"] }, { email := "bob@pet.vn", roles := ["user"] }]
  chats := Table.empty.insertAll
    [{ senderId := some 3 }, { senderId := some 2 }, { senderId := some 4 }]

/-- What `chat_messages#create` stores of a message. -/
def posted [Env] (author : User) (senderId : Id) : List ChatMessage :=
  ((ChatMessagesController.create author (some "Hello") (some senderId) 0).eval
    teamChats).2.chatMessages.rows

/-- The first message, by a user in a chat. -/
def hello (userId chatId : Id) : ChatMessage where
  id := 1
  chatId := chatId
  userId := userId
  message := some "Hello"
  createdAt := 0

section Example

attribute [local instance] Env.caseInsensitive

/-- Ann writes in her own chat. -/
theorem heard_once_ann :
    posted { id := 3, email := "ann@pet.vn", roles := ["user"] } 3 = [hello 3 1] ∧
    ∃ broadcasts, perform teamChats (hello 3 1) = .ok broadcasts ∧
      teamChats.HeardOnce { id := 1, senderId := some 3 } 3 broadcasts := by
  have hplaced : teamChats.OwnerPlaced { id := 1, senderId := some 3 } 3 := by
    intro i hi
    obtain ⟨hown, -⟩ := Db.owns_iff.mp hi
    cases hown
    decide
  exact ⟨by decide, (heard_once_iff teamChats (hello 3 1)
    { id := 3, email := "ann@pet.vn", roles := ["user"] } { id := 1, senderId := some 3 } rfl
    rfl).mpr hplaced⟩

/-- The administrator answers in the chat of a member of staff, who hears it
twice; one customer writes in the chat of another, who does not hear it. -/
theorem owner_hears_twice_or_never :
    (posted { id := 1, email := "boss@pet.vn", roles := ["admin"] } 2 = [hello 1 2] ∧
      (perform teamChats (hello 1 2)).map (·.countP (·.channel == 2)) = .ok 2) ∧
    posted { id := 4, email := "bob@pet.vn", roles := ["user"] } 3 = [hello 4 1] ∧
      (perform teamChats (hello 4 1)).map (·.countP (·.channel == 3)) = .ok 0 := by
  refine ⟨⟨by decide, by decide⟩, by decide, by decide⟩

end Example

end MessageBroadcastJob

end PetParadise
