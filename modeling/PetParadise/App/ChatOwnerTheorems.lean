/-
PetParadise.App.ChatOwnerTheorems — the chats an administrator sees have
owners.

`chats.sender_id` is a bare column: no association, no foreign key. Four
kinds of request can leave a listed chat without an owner, and
`Route.KeepsOwners` says of each what it must find in the database in
order not to: renaming the sender of a chat, writing the first message in
a chat that has no owner, and removing an account (by an administrator or
by its holder) that has more chats than the one its callback destroys.
Creating a chat is harmless by itself, since a chat without messages is
not listed.

The invariant is carried together with the references of
`PetParadise.App.ReferenceTheorems`: a new chat is unlisted only because
no message can already name it.
-/
import PetParadise.Accounts.UsersTheorems
import PetParadise.App.ReferenceTheorems
import PetParadise.App.IsolationTheorems
import PetParadise.App.MessageTheorems

namespace PetParadise

open Store Store.Table PetParadise.Action

/-! ## The property -/

/-- The sender of the chat is the id of an existing user. -/
def Db.Owned (db : Db) (c : Chat) : Prop := ∃ v ∈ db.users.rows, c.senderId = some v.id

instance (db : Db) (c : Chat) : Decidable (db.Owned c) :=
  inferInstanceAs (Decidable (∃ v ∈ db.users.rows, c.senderId = some v.id))

/-- Every listed chat is owned. -/
def Db.OwnersExist (db : Db) : Prop := ∀ c ∈ db.chats.rows, db.Listed c → db.Owned c

instance (db : Db) : Decidable db.OwnersExist :=
  inferInstanceAs (Decidable (∀ c ∈ db.chats.rows, db.Listed c → db.Owned c))

/-- Removing user `i` destroys every listed chat of theirs: the first one
is the only one. -/
def Db.OneListedChat (db : Db) (i : Id) : Prop :=
  ∀ c ∈ db.chats.rows, c.senderId = some i → db.Listed c →
    db.chats.rows.find? (·.senderId == some i) = some c

instance (db : Db) (i : Id) : Decidable (db.OneListedChat i) :=
  inferInstanceAs (Decidable (∀ c ∈ db.chats.rows, _ → _ → _))

/-- What a request of user `u` must find. -/
def Route.KeepsOwners (db : Db) (u : User) : Route → Prop
  | chats (.update i p) => ∀ c ∈ db.chats.find? i, p.status = false →
      db.Listed (c.assign p) → db.Owned (c.assign p)
  | chatMessages (.create _ senderId _) =>
      ∀ c ∈ ChatMessagesController.chatFor db u senderId, c.receiverId = none → db.Owned c
  | users (.destroy i _) => u.isAdmin = true → db.OneListedChat i
  | cancelAccount => db.OneListedChat u.id
  | _ => True

instance (db : Db) (u : User) (r : Route) : Decidable (r.KeepsOwners db u) := by
  cases r with
  | chats r =>
    cases r with
    | update i p =>
      exact inferInstanceAs (Decidable (∀ c ∈ db.chats.find? i, p.status = false →
        db.Listed (c.assign p) → db.Owned (c.assign p)))
    | _ => exact .isTrue trivial
  | chatMessages r =>
    cases r with
    | create _ senderId _ =>
      exact inferInstanceAs (Decidable (∀ c ∈ ChatMessagesController.chatFor db u senderId,
        c.receiverId = none → db.Owned c))
  | users r =>
    cases r with
    | destroy i _ => exact inferInstanceAs (Decidable (u.isAdmin = true → db.OneListedChat i))
    | _ => exact .isTrue trivial
  | cancelAccount => exact inferInstanceAs (Decidable (db.OneListedChat u.id))
  | _ => exact .isTrue trivial

def Request.KeepsOwners (db : Db) : Request → Prop
  | user session route => ∀ u ∈ session.bind db.users.find?, route.KeepsOwners db u
  | «open» _ => True

instance (db : Db) (r : Request) : Decidable (r.KeepsOwners db) := by
  unfold Request.KeepsOwners
  split <;> infer_instance

/-! ## The windows of an administrator -/

theorem Db.ownerName_of_owned {db : Db} {c : Chat} (h : db.Owned c) :
    ∃ name, db.ownerName c = .ok name := by
  obtain ⟨v, hv, hid⟩ := h
  have hfind : c.senderId.bind db.users.find? = some v := by
    rw [hid]
    exact db.users.find?_of_mem hv
  exact ⟨localPart v.email, by rw [Db.ownerName, hfind]⟩

theorem Db.windowName_of_owned {db : Db} {u : User} {c : Chat} (h : db.Owned c) :
    ∃ name, db.windowName u c = .ok name := by
  unfold Db.windowName
  split
  · exact Db.ownerName_of_owned h
  · exact ⟨"Staff", rfl⟩

/-! ## Statements that cannot take an owner away -/

/-- Nothing new is listed and no user is gone. -/
theorem Db.OwnersExist.of {db db' : Db} (h : db.OwnersExist)
    (hchats : ∀ c ∈ db'.chats.rows, db'.Listed c → c ∈ db.chats.rows ∧ db.Listed c)
    (husers : Refers.KeepsKeys db.users db'.users) : db'.OwnersExist := by
  intro c hc hl
  obtain ⟨hc₀, hl₀⟩ := hchats c hc hl
  obtain ⟨v, hv, hid⟩ := h c hc₀ hl₀
  obtain ⟨v', hv', hid'⟩ := husers v hv
  refine ⟨v', hv', ?_⟩
  rw [hid]
  exact congrArg some hid'.symm

theorem Refers.KeepsKeys.refl {β : Type} [Row β] (u : Table β) : Refers.KeepsKeys u u :=
  fun b hb => ⟨b, hb, rfl⟩

/-- Only `destroyUser` takes a user away. -/
theorem exec_users_keepsKeys [Env] {w : Stmt} {db db' : Db} (h : exec w db = .ok db')
    (hw : ∀ i, w ≠ .destroyUser i) : Refers.KeepsKeys db.users db'.users := by
  rcases exec_users h with hu | ⟨email, password, -, hu⟩ | ⟨i, p, -, hu⟩ | ⟨i, password, -, hu⟩ |
    ⟨i, email, -, hu⟩ | ⟨i, role, -, hu⟩ | ⟨i, rfl, -⟩
  · rw [hu]; exact Refers.KeepsKeys.refl _
  · rw [hu]; exact Refers.keepsKeys_insert _ _
  · rw [hu]; exact Refers.keepsKeys_modify _ _ (·.assign_id p)
  · rw [hu]; exact Refers.keepsKeys_modify _ _ (·.withPassword_id password)
  · rw [hu]; exact Refers.keepsKeys_modify _ _ (·.withEmail_id email)
  · rw [hu]; exact Refers.keepsKeys_modify _ _ (·.addRole_id role)
  · exact absurd rfl (hw i)

/-- A new chat has no messages yet. -/
theorem Db.not_listed_next {db : Db} (h : db.RefsIntact) {c : Chat} (hid : c.id = db.chats.next) :
    ¬ ∃ m ∈ db.chatMessages.rows, m.chatId = c.id := by
  rintro ⟨m, hm, hchat⟩
  obtain ⟨c', hc', hid'⟩ := h.message_chat m hm
  have hlt := db.chats.fresh c' hc'
  rw [hid', hchat, hid] at hlt
  exact Nat.lt_irrefl _ hlt

/-- All statements but the three that the table of conditions is about. -/
def Stmt.LeavesOwners : Stmt → Prop
  | .updateChat .. => False
  | .insertChatMessage _ => False
  | .destroyUser _ => False
  | _ => True

theorem exec_ownersExist [Env] {w : Stmt} {db db' : Db} (hw : w.LeavesOwners)
    (h : exec w db = .ok db') (hrefs : db.RefsIntact) (ho : db.OwnersExist) :
    db'.OwnersExist := by
  have hframe : ∀ t, w.writes t = false → db.SameOn t db' := fun t => exec_frame h
  cases w with
  | updateChat i p => cases hw
  | insertChatMessage m => cases hw
  | destroyUser i => cases hw
  | insertChat c₀ =>
    cases h
    apply ho.of
    · intro c hc hl
      rw [Table.rows_insert, List.mem_append, List.mem_singleton] at hc
      rcases hc with hc | rfl
      · exact ⟨hc, hl⟩
      · exact absurd hl.2 (Db.not_listed_next hrefs rfl)
    · exact Refers.KeepsKeys.refl _
  | destroyChat i =>
    cases h
    apply ho.of
    · rintro c hc ⟨hrec, m, hm, hchat⟩
      exact ⟨List.mem_of_mem_filter hc, hrec, m, List.mem_of_mem_filter hm, hchat⟩
    · exact Refers.KeepsKeys.refl _
  | _ =>
    have hchats : db'.chats = db.chats := hframe .chats rfl
    have hmsgs : db'.chatMessages = db.chatMessages := hframe .chatMessages rfl
    refine ho.of (fun c hc hl => ?_) (exec_users_keepsKeys h (by simp))
    unfold Db.Listed at hl
    rw [hchats] at hc
    rw [hmsgs] at hl
    exact ⟨hc, hl⟩

/-- What such statements keep, an action made of them keeps. -/
theorem eval_ownersExist [Env] {α : Type} {p : Action α} (hp : p.Only Stmt.LeavesOwners) {db : Db}
    (hrefs : db.RefsIntact) (ho : db.OwnersExist) : (p.eval db).2.OwnersExist := by
  have hinv : ((p.eval db).2).RefsIntact ∧ ((p.eval db).2).OwnersExist := by
    apply Action.eval_inv (P := Stmt.LeavesOwners) (fun x => x.RefsIntact ∧ x.OwnersExist)
    · intro w x x' hw hx hI
      exact ⟨exec_refsIntact hx hI.1, exec_ownersExist hw hx hI.1 hI.2⟩
    · exact hp
    · exact ⟨hrefs, ho⟩
  exact hinv.2

/-! ## The three other statements -/

/-- Renaming the sender or receiver of a chat. -/
theorem Db.OwnersExist.updateChat {db : Db} (ho : db.OwnersExist) {i : Id} {c₀ : Chat}
    (hfind : db.chats.find? i = some c₀) {p : ChatParams}
    (hcond : db.Listed (c₀.assign p) → db.Owned (c₀.assign p)) :
    { db with
      chats := db.chats.modify (·.id == c₀.id) (·.assign p) (·.assign_id p) }.OwnersExist := by
  intro c hc hl
  rw [Table.rows_modify] at hc
  obtain ⟨c₁, hc₁, rfl⟩ := List.mem_map.mp hc
  by_cases hid : c₁.id = c₀.id
  · have heq : c₁ = c₀ := db.chats.eq_of_id_eq hc₁ (db.chats.mem_of_find? hfind) hid
    subst heq
    simp only [beq_self_eq_true, if_true] at hl ⊢
    exact hcond hl
  · have hno : (c₁.id == c₀.id) = false := by simpa using hid
    simp only [hno, Bool.false_eq_true, if_false] at hl ⊢
    exact ho c₁ hc₁ hl

/-- Writing in a chat. -/
theorem Db.OwnersExist.insertMessage {db : Db} (ho : db.OwnersExist) {c₀ : Chat}
    (hc₀ : c₀ ∈ db.chats.rows) {m : ChatMessage} (hm : m.chatId = c₀.id)
    (hcond : c₀.receiverId = none → db.Owned c₀) :
    { db with chatMessages := db.chatMessages.insert m }.OwnersExist := by
  rintro c hc ⟨hrec, m', hm', hchat⟩
  rw [Table.rows_insert, List.mem_append, List.mem_singleton] at hm'
  rcases hm' with hm' | rfl
  · exact ho c hc ⟨hrec, m', hm', hchat⟩
  · have hid : c.id = c₀.id := hchat.symm.trans hm
    have heq : c = c₀ := db.chats.eq_of_id_eq hc hc₀ hid
    subst heq
    exact hcond hrec

/-- Removing a user together with their first chat. -/
theorem Db.OwnersExist.destroyUser {db db' : Db} (ho : db.OwnersExist) {i : Id}
    (hd : db.destroyUser i = .ok db') (hcond : db.OneListedChat i) : db'.OwnersExist := by
  obtain ⟨chat, hchat, rfl⟩ := Db.destroyUser_ok hd
  rintro c hkept ⟨hrec, m, hm, hm'⟩
  obtain ⟨hc, hne⟩ := List.mem_filter.mp hkept
  have hlisted : db.Listed c := ⟨hrec, m, List.mem_of_mem_filter hm, hm'⟩
  obtain ⟨v, hv, hsender⟩ := ho c hc hlisted
  refine ⟨v, List.mem_filter.mpr ⟨hv, ?_⟩, hsender⟩
  -- the owner is another user: a listed chat of `i` is the destroyed one
  have hvi : v.id ≠ i := by
    rintro rfl
    have hfirst := hcond c hc hsender hlisted
    rw [hchat] at hfirst
    cases hfirst
    simp at hne
  simpa using hvi

/-! ## Requests and runs -/

theorem ChatsRoute.ownersExist [Env] {db : Db} (hrefs : db.RefsIntact) (ho : db.OwnersExist)
    (u : User) (r : ChatsRoute) (hr : (Route.chats r).KeepsOwners db u) :
    (r.action.eval db).2.OwnersExist := by
  cases r with
  | update i p =>
    change ((ChatsController.update i p).eval db).2.OwnersExist
    rw [ChatsController.update_eval]
    cases hfind : db.chats.find? i with
    | none => exact ho
    | some c =>
      cases hstatus : p.status with
      | true => simpa using ho
      | false =>
        simp only [Bool.false_eq_true, if_false]
        exact ho.updateChat hfind (hr c hfind hstatus)
  | _ =>
    apply eval_ownersExist _ hrefs ho
    simp [ChatsRoute.action, ChatsController.index, ChatsController.show, ChatsController.new,
      ChatsController.create, ChatsController.destroy, ChatsController.setChat, Stmt.LeavesOwners]

section Requests

variable [Env]

theorem UsersRoute.ownersExist {db : Db} (hrefs : db.RefsIntact) (ho : db.OwnersExist) (u : User)
    (r : UsersRoute) (hr : (Route.users r).KeepsOwners db u) :
    ((r.action u).eval db).2.OwnersExist := by
  cases r with
  | destroy i format =>
    change ((UsersController.destroy u i format).eval db).2.OwnersExist
    rw [UsersController.destroy_eval]
    cases hadmin : u.isAdmin with
    | false => exact ho
    | true =>
      simp only [if_true]
      cases hfind : db.users.find? i with
      | none => exact ho
      | some v =>
        have hid : v.id = i := db.users.id_of_find? hfind
        have hone : db.OneListedChat v.id := hid ▸ hr hadmin
        dsimp only
        cases hd : db.destroyUser v.id with
        | error e => exact ho
        | ok db' =>
          rw [respondJs_eval_snd]
          exact ho.destroyUser hd hone
  | create emails role password =>
    apply eval_ownersExist _ hrefs ho
    exact UsersController.create_only u emails role password trivial
      (fun _ => ⟨fun _ => trivial, fun _ _ => trivial, fun _ => trivial⟩)
  | «import» sheet password =>
    apply eval_ownersExist _ hrefs ho
    exact UsersController.import_only u sheet password trivial
      (fun _ => ⟨fun _ => trivial, fun _ _ => trivial⟩)
  | _ =>
    apply eval_ownersExist _ hrefs ho
    simp [UsersRoute.action, UsersController.index, UsersController.new, Stmt.LeavesOwners]

theorem Route.ownersExist {db : Db} (hrefs : db.RefsIntact) (ho : db.OwnersExist) (u : User)
    (r : Route) (hr : r.KeepsOwners db u) : ((r.action u).eval db).2.OwnersExist := by
  cases r with
  | chats r => exact r.ownersExist hrefs ho u hr
  | users r => exact r.ownersExist hrefs ho u hr
  | chatMessages r =>
    cases r with
    | create message senderId now =>
      change ((ChatMessagesController.create u message senderId now).eval db).2.OwnersExist
      rw [ChatMessagesController.create_eval]
      cases hfound : ChatMessagesController.chatFor db u senderId with
      | none => exact ho
      | some c =>
        obtain ⟨hc, -, -⟩ := ChatMessagesController.chatFor_spec hfound
        exact ho.insertMessage hc rfl (hr c hfound)
  | cancelAccount =>
    change ((Devise.cancelAccount u).eval db).2.OwnersExist
    rw [Devise.cancelAccount_eval]
    cases hd : db.destroyUser u.id with
    | error e => exact ho
    | ok db' => exact ho.destroyUser hd hr
  | _ =>
    apply eval_ownersExist _ hrefs ho
    refine Prog.Only.mono (Route.action_only u _) ?_
    intro w hw
    cases w <;> trivial

theorem step_ownersExist {db : Db} (hrefs : db.RefsIntact) (ho : db.OwnersExist) {r : Request}
    (hr : r.KeepsOwners db) : (step db r).OwnersExist := by
  rcases step_cases db r with ⟨i, u, route, rfl, hu, hs⟩ | hs | ⟨route, rfl, hs⟩
  · rw [hs]
    exact route.ownersExist hrefs ho u (hr u hu)
  · rw [hs]
    exact ho
  · rw [hs]
    apply eval_ownersExist _ hrefs ho
    refine Prog.Only.mono route.action_only ?_
    intro w hw
    cases w <;> first | trivial | (cases route <;> cases hw)

/-- **When chat owners exist.** Along a run whose requests all find what
they must, every chat that is listed for an administrator has an owner, so
the layout and the message menu can be drawn for them. -/
theorem chat_owners_exist (db : Db) (rs : List Request) (hrefs : db.RefsIntact)
    (howners : db.OwnersExist) (h : Along step Request.KeepsOwners db rs) (u : User)
    (hu : u.isAdmin = true) :
    (∀ c ∈ ApplicationController.setChat (runFrom db rs) u,
      ∃ v ∈ (runFrom db rs).users.rows, c.senderId = some v.id) ∧
    (∃ ws, (runFrom db rs).chatWindows u (ApplicationController.setChat (runFrom db rs) u) =
      .ok ws) ∧
    ∃ es, (runFrom db rs).menuEntries (ApplicationController.setChat (runFrom db rs) u) =
      .ok es := by
  have hinv : (runFrom db rs).RefsIntact ∧ (runFrom db rs).OwnersExist := by
    apply Along.foldl_inv (P := Request.KeepsOwners) (fun x => x.RefsIntact ∧ x.OwnersExist)
    · intro x r hx hr
      exact ⟨step_refsIntact hx.1 r, step_ownersExist hx.1 hx.2 hr⟩
    · exact ⟨hrefs, howners⟩
    · exact h
  have howned : ∀ c ∈ ApplicationController.setChat (runFrom db rs) u,
      (runFrom db rs).Owned c := by
    intro c hc
    have hlisted := (ApplicationController.mem_setChat_iff (by simp [hu])).mp hc
    exact hinv.2 c hlisted.1 hlisted.2
  refine ⟨howned, Db.chatWindows_ok ?_, Db.menuEntries_ok ?_⟩
  · intro c hc
    exact Db.windowName_of_owned (howned c hc)
  · intro c hc
    exact Db.ownerName_of_owned (howned c hc)

end Requests

/-- An administrator and a customer who signed up, so without a chat. -/
def adminAndEve : Db where
  users := Table.empty.insertAll
    [{ email := "admin@pet.vn", roles := ["admin"] }, { email := "eve@pet.vn" }]

/-- The customer opens a chat in their own name and writes in it. -/
def eveWrites : List Request :=
  [.user (some 2) (.chats (.create { senderId := some (some 2) })),
    .user (some 2) (.chatMessages (.create (some "Hello") none 5))]

theorem chat_owners_exist_eveWrites :
    (ApplicationController.setChat (@runFrom .caseInsensitive adminAndEve eveWrites)
      { id := 1, email := "admin@pet.vn", roles := ["admin"] }).length = 1 ∧
    ∃ ws, (@runFrom .caseInsensitive adminAndEve eveWrites).chatWindows
      { id := 1, email := "admin@pet.vn", roles := ["admin"] }
      (ApplicationController.setChat (@runFrom .caseInsensitive adminAndEve eveWrites)
        { id := 1, email := "admin@pet.vn", roles := ["admin"] }) = .ok ws :=
  ⟨by decide, (@chat_owners_exist .caseInsensitive adminAndEve eveWrites
    (by constructor <;> decide) (by decide) (by decide)
    { id := 1, email := "admin@pet.vn", roles := ["admin"] } (by decide)).2.1⟩

/-- The customer opens a chat in the name of nobody and writes in it: from
then on no page can be drawn for the administrator. -/
theorem chat_of_nobody_breaks_layout :
    ¬ (@runFrom .caseInsensitive adminAndEve
        [.user (some 2) (.chats (.create { senderId := some (some 99) })),
          .user (some 2) (.chatMessages (.create (some "Hello") (some 99) 5))]).OwnersExist ∧
    (@runFrom .caseInsensitive adminAndEve
        [.user (some 2) (.chats (.create { senderId := some (some 99) })),
          .user (some 2) (.chatMessages (.create (some "Hello") (some 99) 5))]).chatWindows
      { id := 1, email := "admin@pet.vn", roles := ["admin"] }
      (ApplicationController.setChat (@runFrom .caseInsensitive adminAndEve
        [.user (some 2) (.chats (.create { senderId := some (some 99) })),
          .user (some 2) (.chatMessages (.create (some "Hello") (some 99) 5))])
        { id := 1, email := "admin@pet.vn", roles := ["admin"] }) = .error .noMethodError := by
  refine ⟨by decide, by decide⟩

end PetParadise
