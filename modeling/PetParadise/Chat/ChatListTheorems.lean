/-
PetParadise.Chat.ChatListTheorems — the order of the staff's chat list.

`set_chat` never asks for the latest message of a chat. It joins chats with
their messages, sorts the joined rows by the time of the message, newest
first, and drops all but the first row of each chat. The first row of a
chat is that of its latest message, so what is left is sorted by latest
messages (`pairwise_eraseDups_filterMap`).

Rows of the same instant may come in any order: the results hold for every
order `ms` the database may return (`Db.NewestFirst`), and the one of the
model is among them.
-/
import Mathlib.Data.Finset.Max
import PetParadise.Chat.Windows
import PetParadise.Store.Lists

namespace PetParadise

open Store

/-- An order in which the joined rows may come. -/
structure Db.NewestFirst (db : Db) (ms : List ChatMessage) : Prop where
  perm : ms.Perm db.chatMessages.rows
  sorted : ms.Pairwise fun m m' => m'.createdAt ≤ m.createdAt

/-- The chats of the joined rows in that order, after `uniq`. -/
def Db.chatsInOrder (db : Db) (p : Chat → Bool) (ms : List ChatMessage) : List Chat :=
  (ms.filterMap fun m => (db.chats.find? m.chatId).filter p).eraseDups

/-- The time of a chat's most recent message. -/
structure Db.LatestAt (db : Db) (c : Chat) (t : DateTime) : Prop where
  sent : ∃ m ∈ db.messagesOf c.id, m.createdAt = t
  last : ∀ m ∈ db.messagesOf c.id, m.createdAt ≤ t

variable {db : Db} {p : Chat → Bool} {ms : List ChatMessage}

theorem Db.newestFirst_insertionSort (db : Db) : db.NewestFirst
    (db.chatMessages.rows.insertionSort fun a b => b.createdAt ≤ a.createdAt) where
  perm := List.perm_insertionSort _ _
  sorted := by
    have : Std.Total fun a b : ChatMessage => b.createdAt ≤ a.createdAt :=
      ⟨fun a b => le_total b.createdAt a.createdAt⟩
    have : IsTrans ChatMessage fun a b => b.createdAt ≤ a.createdAt :=
      ⟨fun _ _ _ hab hbc => le_trans hbc hab⟩
    exact List.pairwise_insertionSort _ _

/-- A message's chat, if it is to be listed. -/
theorem Db.filter_find?_eq_some {m : ChatMessage} {c : Chat} :
    (db.chats.find? m.chatId).filter p = some c ↔
      c ∈ db.chats.rows ∧ m.chatId = c.id ∧ p c = true := by
  rw [Option.filter_eq_some_iff, db.chats.find?_eq_some_iff, and_assoc]
  exact and_congr_right fun _ => and_congr_left fun _ => eq_comm

theorem Db.mem_chatsInOrder (h : db.NewestFirst ms) {c : Chat} :
    c ∈ db.chatsInOrder p ms ↔
      c ∈ db.chats.rows ∧ p c = true ∧ ∃ m ∈ db.chatMessages.rows, m.chatId = c.id := by
  simp only [Db.chatsInOrder, List.mem_eraseDups, List.mem_filterMap, Db.filter_find?_eq_some,
    h.perm.mem_iff]
  constructor
  · rintro ⟨m, hm, hc, hid, hp⟩
    exact ⟨hc, hp, m, hm, hid⟩
  · rintro ⟨hc, hp, m, hm, hid⟩
    exact ⟨m, hm, hc, hid, hp⟩

theorem Db.exists_latestAt {c : Chat} (h : ∃ m ∈ db.chatMessages.rows, m.chatId = c.id) :
    ∃ t, db.LatestAt c t := by
  obtain ⟨m, hm, hid⟩ := h
  have hmem : m ∈ (db.messagesOf c.id).toFinset := by
    rw [List.mem_toFinset, Db.messagesOf, List.mem_filter]
    exact ⟨hm, beq_iff_eq.mpr hid⟩
  obtain ⟨latest, hlatest, hmax⟩ :=
    Finset.exists_max_image _ ChatMessage.createdAt ⟨m, hmem⟩
  rw [List.mem_toFinset] at hlatest
  exact ⟨latest.createdAt, ⟨latest, hlatest, rfl⟩, fun m' hm' =>
    hmax m' (List.mem_toFinset.mpr hm')⟩

theorem Db.pairwise_chatsInOrder (h : db.NewestFirst ms) :
    (db.chatsInOrder p ms).Pairwise fun c c' =>
      ∀ t t', db.LatestAt c t → db.LatestAt c' t' → t' ≤ t := by
  have hsources := pairwise_eraseDups_filterMap ChatMessage.createdAt h.sorted
    fun m => (db.chats.find? m.chatId).filter p
  refine hsources.imp_of_mem fun {c c'} _ hc' hsource t t' hlatest hlatest' => ?_
  obtain ⟨m', hm', rfl⟩ := hlatest'.sent
  obtain ⟨hrow', hid'⟩ := List.mem_filter.mp hm'
  obtain ⟨hchat', hp', -⟩ := (Db.mem_chatsInOrder h).mp hc'
  obtain ⟨m, hm, hfound, hle⟩ := hsource m' (h.perm.mem_iff.mpr hrow')
    (Db.filter_find?_eq_some.mpr ⟨hchat', beq_iff_eq.mp hid', hp'⟩)
  obtain ⟨-, hid, -⟩ := Db.filter_find?_eq_some.mp hfound
  have hmem : m ∈ db.messagesOf c.id :=
    List.mem_filter.mpr ⟨h.perm.mem_iff.mp hm, beq_iff_eq.mpr hid⟩
  exact le_trans hle (hlatest.last m hmem)

/-- **The staff's chat list is ordered by latest message.** In whatever
order rows of the same instant come, the list has each chat without a
receiver and with a message exactly once and no other chat, each of them
has a latest message, and they are sorted by it, the newest first. -/
theorem chat_list_by_latest (db : Db) (u : User) (hu : (u.isAdmin || u.isStaff) = true) :
    (∃ ms, db.NewestFirst ms ∧
      ApplicationController.setChat db u = db.chatsInOrder (·.receiverId == none) ms) ∧
    ∀ ms, db.NewestFirst ms →
      (db.chatsInOrder (·.receiverId == none) ms).Nodup ∧
      (∀ c, c ∈ db.chatsInOrder (·.receiverId == none) ms ↔
        c ∈ db.chats.rows ∧ c.receiverId = none ∧
          ∃ m ∈ db.chatMessages.rows, m.chatId = c.id) ∧
      (∀ c ∈ db.chatsInOrder (·.receiverId == none) ms, ∃ t, db.LatestAt c t) ∧
      (db.chatsInOrder (·.receiverId == none) ms).Pairwise fun c c' =>
        ∀ t t', db.LatestAt c t → db.LatestAt c' t' → t' ≤ t := by
  constructor
  · refine ⟨_, db.newestFirst_insertionSort, ?_⟩
    simp only [ApplicationController.setChat, hu, if_true]
    rfl
  · intro ms h
    refine ⟨nodup_eraseDups _, fun c => ?_, fun c hc => ?_, Db.pairwise_chatsInOrder h⟩
    · rw [Db.mem_chatsInOrder h, beq_iff_eq]
    · obtain ⟨-, -, hsent⟩ := (Db.mem_chatsInOrder h).mp hc
      exact Db.exists_latestAt hsent

/-- Two chats with messages, the newest in the second, and one without. -/
def threeChats : Db where
  chats := Table.empty.insertAll
    [{ senderId := some 3 }, { senderId := some 4 }, { senderId := some 5 }]
  chatMessages := Table.empty.insertAll
    [{ chatId := 1, userId := 3, message := some "Hello", createdAt := 10 },
      { chatId := 2, userId := 4, message := some "Hi", createdAt := 20 },
      { chatId := 1, userId := 3, message := some "Anyone?", createdAt := 15 }]

theorem chat_list_by_latest_threeChats :
    ApplicationController.setChat threeChats
        { id := 1, email := "boss@pet.vn", roles := ["admin"] } =
      [{ id := 2, senderId := some 4 }, { id := 1, senderId := some 3 }] ∧
    ∀ c, c ∈ threeChats.chatsInOrder (·.receiverId == none)
        (threeChats.chatMessages.rows.insertionSort fun a b => b.createdAt ≤ a.createdAt) ↔
      c ∈ threeChats.chats.rows ∧ c.receiverId = none ∧
        ∃ m ∈ threeChats.chatMessages.rows, m.chatId = c.id :=
  ⟨by decide, ((chat_list_by_latest threeChats
    { id := 1, email := "boss@pet.vn", roles := ["admin"] } (by decide)).2 _
      threeChats.newestFirst_insertionSort).2.1⟩

end PetParadise
