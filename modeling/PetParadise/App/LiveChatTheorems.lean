/-
PetParadise.App.LiveChatTheorems — how often an open page shows a message.

A page of staff shows what was rendered when it was loaded and what was
broadcast after it had subscribed. Nothing in the code ties the two
together: a message whose job runs late is shown twice, one whose job runs
between loading and subscribing is lost, and one in a chat that had no
window when the page was loaded is dropped by the handler.

The argument counts. The number of windows of a chat never changes after
loading, every job sends the message exactly once to each member of staff,
and once a page is subscribed, `shown` plus what is still to come is
constant (`step_shown_subscribed`).
-/
import PetParadise.Store.Lists
import PetParadise.Chat.BroadcastTheorems
import PetParadise.App.MessageTheorems

namespace PetParadise

open Store

/-! ## Counting on one page -/

namespace Page

/-- The windows of one chat. -/
def windowsOf (p : Page) (chatId : Id) : Nat := p.windows.countP (·.chatId == chatId)

theorem append_chatId (data : Broadcast) (w : ChatWindow) : (w.append data).chatId = w.chatId := by
  unfold ChatWindow.append
  split <;> rfl

theorem countP_append (data : Broadcast) (w : ChatWindow) (m : ChatMessage) :
    (w.append data).bubbles.countP (·.message == m) =
      w.bubbles.countP (·.message == m) +
        if w.chatId = data.chatId ∧ data.chatMessage.message = m then 1 else 0 := by
  unfold ChatWindow.append
  by_cases hchat : w.chatId = data.chatId
  · simp [hchat, List.countP_append, List.countP_singleton]
  · simp [hchat]

@[simp] theorem received_windowsOf (p : Page) (data : Broadcast) (chatId : Id) :
    (p.received data).windowsOf chatId = p.windowsOf chatId := by
  simp only [windowsOf, received, List.countP_map]
  apply List.countP_congr
  intro w _
  simp [append_chatId]

theorem received_shown (p : Page) (data : Broadcast) (m : ChatMessage) :
    (p.received data).shown m =
      p.shown m + if data.chatMessage.message = m then p.windowsOf data.chatId else 0 := by
  simp only [shown, received, windowsOf, List.map_map]
  induction p.windows with
  | nil => simp
  | cons w ws ih =>
    simp only [List.map_cons, List.sum_cons, Function.comp_apply, countP_append, ih,
      List.countP_cons, beq_iff_eq]
    by_cases hm : data.chatMessage.message = m
    · by_cases hw : w.chatId = data.chatId
      · simp only [hm, hw, and_self, if_true]
        omega
      · simp only [hm, hw, false_and, if_false, if_true]
        omega
    · simp only [hm, and_false, if_false]
      omega

@[simp] theorem hear_user (p : Page) (data : Broadcast) : (p.hear data).user = p.user := by
  unfold hear
  split <;> rfl

@[simp] theorem hear_subscribed (p : Page) (data : Broadcast) :
    (p.hear data).subscribed = p.subscribed := by
  unfold hear
  split <;> rfl

@[simp] theorem hear_windowsOf (p : Page) (data : Broadcast) (chatId : Id) :
    (p.hear data).windowsOf chatId = p.windowsOf chatId := by
  unfold hear
  split
  · exact received_windowsOf p data chatId
  · rfl

/-- Broadcasts of one message, as a page counts them. -/
theorem foldl_hear (broadcasts : List Broadcast) (p : Page) {m₀ : ChatMessage}
    (hm₀ : ∀ b ∈ broadcasts, b.chatMessage.message = m₀ ∧ b.chatId = m₀.chatId) :
    (broadcasts.foldl hear p).user = p.user ∧
    (broadcasts.foldl hear p).subscribed = p.subscribed ∧
    (∀ chatId, (broadcasts.foldl hear p).windowsOf chatId = p.windowsOf chatId) ∧
    ∀ m, (broadcasts.foldl hear p).shown m = p.shown m +
      if p.subscribed = true ∧ m₀ = m then
        broadcasts.countP (·.channel == p.user.id) * p.windowsOf m₀.chatId
      else 0 := by
  induction broadcasts generalizing p with
  | nil => simp
  | cons b broadcasts ih =>
    obtain ⟨hmsg, hchat⟩ := hm₀ b List.mem_cons_self
    obtain ⟨huser, hsub, hwin, hshown⟩ :=
      ih (p.hear b) (fun b' hb' => hm₀ b' (List.mem_cons_of_mem _ hb'))
    simp only [hear_user, hear_subscribed, hear_windowsOf] at huser hsub hwin hshown
    refine ⟨huser, hsub, hwin, ?_⟩
    intro m
    rw [List.foldl_cons, hshown m, List.countP_cons]
    unfold hear
    cases hp : p.subscribed with
    | false => simp
    | true =>
      by_cases hid : p.user.id = b.channel
      · simp only [hid, beq_self_eq_true, Bool.and_self, if_true, received_shown, hmsg, hchat,
          true_and]
        by_cases hm : m₀ = m
        · simp only [hm, if_true, Nat.add_mul]
          omega
        · simp [hm]
      · have hid' : ¬ b.channel = p.user.id := fun h => hid h.symm
        simp [hid, hid']

end Page

/-! ## What a job sends -/

/-- Message `m` is one of a customer's chat. -/
def Db.InCustomersChat (db : Db) (m : ChatMessage) : Prop :=
  ∃ c ∈ db.chats.rows, c.id = m.chatId ∧
    ∃ v ∈ db.users.rows, c.senderId = some v.id ∧ v.isCustomer = true

instance (db : Db) (m : ChatMessage) : Decidable (db.InCustomersChat m) :=
  inferInstanceAs (Decidable (∃ c ∈ db.chats.rows, _ ∧ ∃ v ∈ db.users.rows, _))

namespace MessageBroadcastJob

/-- A message of a customer's chat is sent once to each member of staff. -/
theorem countP_recipients {db : Db} {u author : User} {c : Chat} (hu : u ∈ db.users.rows)
    (hstaff : (u.isAdmin || u.isStaff) = true) (hauthor : author ∈ db.users.rows)
    (hsender : c.senderId ≠ some u.id) :
    (author :: recipients db author c).countP (·.id == u.id) = 1 := by
  have hteam : db.inTeam u.id = true := by
    have hself : db.users.find? u.id = some u := db.users.find?_of_mem hu
    rw [Db.inTeam, hself]
    exact hstaff
  have howns : db.owns c u.id = false := by
    rw [← Bool.not_eq_true, Db.owns_iff]
    exact fun h => hsender h.1
  rw [countP_recipients_eq c u.id (db.users.find?_of_mem hauthor)]
  simp [hteam, howns]

/-- All that a job sends is its message. -/
theorem perform_message {db : Db} {m : ChatMessage} {broadcasts : List Broadcast}
    (h : perform db m = .ok broadcasts) :
    ∀ b ∈ broadcasts, b.chatMessage.message = m ∧ b.chatId = m.chatId := by
  unfold perform at h
  split at h
  · cases h
    intro b hb
    obtain ⟨u, -, rfl⟩ := List.mem_map.mp hb
    exact ⟨rfl, rfl⟩
  · cases h

theorem perform_once {db : Db} {u : User} {m : ChatMessage} (hu : u ∈ db.users.rows)
    (hstaff : (u.isAdmin || u.isStaff) = true) (hm : db.InCustomersChat m)
    (hauthor : (db.users.find? m.userId).isSome = true) :
    ∃ broadcasts, perform db m = .ok broadcasts ∧
      broadcasts.countP (·.channel == u.id) = 1 := by
  obtain ⟨c, hc, hid, v, hv, hsender, hcustomer⟩ := hm
  obtain ⟨author, hfind⟩ := Option.isSome_iff_exists.mp hauthor
  have hchat : db.chats.find? m.chatId = some c := by
    rw [← hid]
    exact db.chats.find?_of_mem hc
  refine ⟨_, by rw [perform, hfind, hchat], ?_⟩
  rw [List.countP_map]
  apply countP_recipients hu hstaff (db.users.mem_of_find? hfind)
  intro hown
  rw [hsender, Option.some.injEq] at hown
  have hsame : v = u := db.users.eq_of_id_eq hv hu hown
  rw [hsame] at hcustomer
  simp [User.isCustomer] at hcustomer
  simp [hcustomer] at hstaff

end MessageBroadcastJob

/-! ## What a page starts with -/

theorem Db.nodup_chatsByNewest (db : Db) (p : Chat → Bool) : (db.chatsByNewest p).Nodup :=
  nodup_eraseDups _

/-- Windows and their messages are those of the chats. -/
theorem Db.chatWindows_map {db : Db} {u : User} {chats : List Chat} {ws : List ChatWindow}
    (h : db.chatWindows u chats = .ok ws) :
    ws.map (fun w => (w.chatId, w.bubbles)) = chats.map (fun c => (c.id, db.bubbles u c)) := by
  induction chats generalizing ws with
  | nil =>
    cases h
    rfl
  | cons c chats ih =>
    rw [Db.chatWindows] at h
    split at h
    · rename_i name rest hname hrest
      cases h
      simp [ih hrest]
    · cases h
    · cases h

/-- A message is drawn once in the window of its chat. -/
theorem Db.countP_bubbles (db : Db) (u : User) (c : Chat) (m : ChatMessage) :
    (db.bubbles u c).countP (·.message == m) =
      if c.id = m.chatId ∧ m ∈ db.chatMessages.rows then 1 else 0 := by
  have hnodup : db.chatMessages.rows.Nodup := by
    refine db.chatMessages.sorted.imp ?_
    intro a b hlt heq
    rw [heq] at hlt
    exact Nat.lt_irrefl _ hlt
  have hcount : (db.bubbles u c).countP (·.message == m) = (db.messagesOf c.id).count m := by
    rw [Db.bubbles, List.countP_map]
    exact (List.perm_insertionSort _ _).countP_eq _
  rw [hcount]
  by_cases hchat : c.id = m.chatId
  · rw [Db.messagesOf, List.count_filter (by simp [hchat])]
    by_cases hm : m ∈ db.chatMessages.rows
    · rw [List.count_eq_one_of_mem hnodup hm, if_pos ⟨hchat, hm⟩]
    · rw [List.count_eq_zero_of_not_mem hm, if_neg (fun h => hm h.2)]
  · rw [if_neg (fun h => hchat h.1)]
    apply List.count_eq_zero_of_not_mem
    intro hm
    have hof := (List.mem_filter.mp hm).2
    rw [beq_iff_eq] at hof
    exact hchat hof.symm

/-- The chat of a message is listed for staff. -/
def Db.ChatListed (db : Db) (m : ChatMessage) : Prop :=
  ∃ c ∈ db.chats.rows, c.id = m.chatId ∧ db.Listed c

instance (db : Db) (m : ChatMessage) : Decidable (db.ChatListed m) :=
  inferInstanceAs (Decidable (∃ c ∈ db.chats.rows, c.id = m.chatId ∧ db.Listed c))

/-- A chat is listed once or not at all. -/
theorem ApplicationController.countP_setChat (db : Db) {u : User}
    (hstaff : (u.isAdmin || u.isStaff) = true) (m : ChatMessage) :
    (setChat db u).countP (·.id == m.chatId) = if db.ChatListed m then 1 else 0 := by
  by_cases hlisted : db.ChatListed m
  · obtain ⟨c, hc, hid, hl⟩ := hlisted
    have hmem : c ∈ setChat db u := (mem_setChat_iff hstaff).mpr ⟨hc, hl⟩
    have hnodup : (setChat db u).Nodup := by
      rw [setChat, hstaff]
      exact db.nodup_chatsByNewest _
    have hcount : (setChat db u).countP (·.id == m.chatId) = (setChat db u).count c := by
      apply List.countP_congr
      intro c' hc'
      have hc'row := ((mem_setChat_iff hstaff).mp hc').1
      simp only [beq_iff_eq]
      constructor
      · intro h
        exact db.chats.eq_of_id_eq hc'row hc (h.trans hid.symm)
      · intro h
        rw [h, hid]
    rw [hcount, List.count_eq_one_of_mem hnodup hmem, if_pos ⟨c, hc, hid, hl⟩]
  · rw [if_neg hlisted]
    apply List.countP_eq_zero.mpr
    intro c hc hid
    obtain ⟨hrow, hl⟩ := (mem_setChat_iff hstaff).mp hc
    exact hlisted ⟨c, hrow, by simpa using hid, hl⟩

theorem Db.chatWindows_of_renderLayout {db : Db} {u : User} {adminUrl : Bool}
    {ws : List ChatWindow} (h : db.renderLayout u adminUrl = .ok ws) :
    db.chatWindows u (ApplicationController.setChat db u) = .ok ws := by
  unfold Db.renderLayout at h
  dsimp only at h
  split at h
  · split at h
    · exact h
    · cases h
  · exact h

/-- The windows of a freshly loaded page. -/
theorem Page.loaded {db : Db} {u : User} {adminUrl : Bool} {ws : List ChatWindow}
    (hstaff : (u.isAdmin || u.isStaff) = true) (h : db.renderLayout u adminUrl = .ok ws)
    (m : ChatMessage) :
    Page.windowsOf { user := u, windows := ws } m.chatId = (if db.ChatListed m then 1 else 0) ∧
    Page.shown { user := u, windows := ws } m =
      if m ∈ db.chatMessages.rows then (if db.ChatListed m then 1 else 0) else 0 := by
  have hmap := Db.chatWindows_map (Db.chatWindows_of_renderLayout h)
  have hcount := ApplicationController.countP_setChat db hstaff m
  constructor
  · have hids : ws.map ChatWindow.chatId = (ApplicationController.setChat db u).map Chat.id := by
      have := congrArg (List.map Prod.fst) hmap
      simpa [List.map_map, Function.comp_def] using this
    have hwindows : ws.countP (·.chatId == m.chatId) =
        (ws.map ChatWindow.chatId).countP (· == m.chatId) := by
      rw [List.countP_map]
      rfl
    rw [Page.windowsOf, hwindows, hids, List.countP_map]
    exact hcount
  · have hsum : (ws.map fun w => w.bubbles.countP (·.message == m)).sum =
        ((ApplicationController.setChat db u).map fun c =>
          (db.bubbles u c).countP (·.message == m)).sum := by
      have := congrArg (List.map fun pair => pair.2.countP (·.message == m)) hmap
      rw [List.map_map, List.map_map] at this
      exact congrArg List.sum this
    rw [Page.shown, hsum, ← hcount]
    simp only [Db.countP_bubbles]
    induction ApplicationController.setChat db u with
    | nil => simp
    | cons c chats ih =>
      rw [List.map_cons, List.sum_cons, ih, List.countP_cons]
      by_cases hm : m ∈ db.chatMessages.rows
      · by_cases hc : c.id = m.chatId
        · simp only [hm, hc, and_self, if_true, beq_self_eq_true]
          omega
        · simp [hm, hc]
      · simp [hm]

/-! ## One event -/

namespace LiveChat

/-- Every pending job is for a stored message, once, and its author
exists. -/
structure Sound (s : LiveChat) : Prop where
  nodup : s.jobs.Nodup
  stored : ∀ m ∈ s.jobs, m ∈ s.db.chatMessages.rows
  author : ∀ m ∈ s.jobs, (s.db.users.find? m.userId).isSome = true

/-- A message has left its job behind it. -/
def Done (s : LiveChat) (m : ChatMessage) : Prop :=
  m ∈ s.db.chatMessages.rows ∧ m ∉ s.jobs

instance (s : LiveChat) (m : ChatMessage) : Decidable (s.Done m) :=
  inferInstanceAs (Decidable (_ ∧ _))

/-- What an event does to the database and to the jobs: nothing, or it
stores a message and leaves its job, or it takes a job. -/
theorem step_cases [Env] (s : LiveChat) (e : Event) :
    ((step s e).db = s.db ∧ (step s e).jobs = s.jobs ∧ ∀ j, e ≠ .work j) ∨
    (∃ m, (step s e).db = { s.db with chatMessages := s.db.chatMessages.insert m } ∧
      (step s e).jobs = s.jobs ++ [Row.withId s.db.chatMessages.next m] ∧
      (s.db.users.find? m.userId).isSome = true ∧ (step s e).pages = s.pages) ∨
    ∃ j, e = .work j ∧ ((s.jobs[j]? = none ∧ step s e = s) ∨
      ∃ m, s.jobs[j]? = some m ∧
        step s e = { s with jobs := s.jobs.eraseIdx j, pages := s.runJob m }) := by
  cases e with
  | load user adminUrl =>
    left
    simp only [step]
    split
    · simp
    · split <;> simp
  | subscribe page => exact .inl ⟨rfl, rfl, by simp⟩
  | post author message senderId now =>
    simp only [step]
    cases hu : s.db.users.find? author with
    | none => exact .inl ⟨rfl, rfl, by simp⟩
    | some u =>
      dsimp only
      rw [ChatMessagesController.create_eval]
      cases hc : ChatMessagesController.chatFor s.db u senderId with
      | none =>
        left
        simp [commit]
      | some c =>
        right
        left
        refine ⟨newMessage u c message now, rfl, ?_, ?_, rfl⟩
        · simp [commit]
        · exact s.db.users.isSome_find?_self hu
  | work j =>
    right
    right
    refine ⟨j, rfl, ?_⟩
    simp only [step]
    cases hj : s.jobs[j]? with
    | none => exact .inl ⟨rfl, rfl⟩
    | some m => exact .inr ⟨m, rfl, rfl⟩

theorem step_tables [Env] (s : LiveChat) (e : Event) :
    (step s e).db.users = s.db.users ∧ (step s e).db.chats = s.db.chats := by
  rcases step_cases s e with ⟨hdb, -⟩ | ⟨m, hdb, -⟩ | ⟨j, -, ⟨-, hs⟩ | ⟨m, -, hs⟩⟩
  · rw [hdb]
    exact ⟨rfl, rfl⟩
  · rw [hdb]
    exact ⟨rfl, rfl⟩
  · rw [hs]
    exact ⟨rfl, rfl⟩
  · rw [hs]
    exact ⟨rfl, rfl⟩

/-- The message that is stored is a new one. -/
theorem next_not_mem (db : Db) (m : ChatMessage) :
    Row.withId db.chatMessages.next m ∉ db.chatMessages.rows := by
  intro h
  have hlt := db.chatMessages.fresh _ h
  rw [Row.id_withId] at hlt
  exact Nat.lt_irrefl _ hlt

theorem Sound.step [Env] {s : LiveChat} (h : s.Sound) (e : Event) : (s.step e).Sound := by
  rcases step_cases s e with ⟨hdb, hjobs, -⟩ | ⟨m, hdb, hjobs, hauthor, -⟩ |
    ⟨j, -, ⟨-, hs⟩ | ⟨m, -, hs⟩⟩
  · constructor
    · rw [hjobs]
      exact h.nodup
    · rw [hjobs, hdb]
      exact h.stored
    · rw [hjobs, hdb]
      exact h.author
  · constructor
    · rw [hjobs]
      apply List.Nodup.append h.nodup (List.nodup_singleton _)
      intro x hx hx'
      rw [List.mem_singleton] at hx'
      exact next_not_mem s.db m (hx' ▸ h.stored x hx)
    · rw [hjobs, hdb]
      intro x hx
      rcases List.mem_append.mp hx with hx | hx
      · exact List.mem_append_left _ (h.stored x hx)
      · exact List.mem_append_right _ hx
    · rw [hjobs, hdb]
      intro x hx
      rcases List.mem_append.mp hx with hx | hx
      · exact h.author x hx
      · rw [List.mem_singleton] at hx
        rw [hx]
        exact hauthor
  · rw [hs]
    exact h
  · rw [hs]
    constructor
    · exact h.nodup.sublist (List.eraseIdx_sublist ..)
    · intro x hx
      exact h.stored x (List.mem_of_mem_eraseIdx hx)
    · intro x hx
      exact h.author x (List.mem_of_mem_eraseIdx hx)

/-! ## One page -/

/-- A page changes by its subscription and by jobs only. -/
theorem step_page_kept [Env] {s : LiveChat} {k : Nat} {p : Page} (hp : s.pages[k]? = some p)
    {e : Event} (hsubscribe : e ≠ .subscribe k) (hwork : ∀ j, e ≠ .work j) :
    (s.step e).pages[k]? = some p := by
  obtain ⟨hlt, -⟩ := List.getElem?_eq_some_iff.mp hp
  cases e with
  | load user adminUrl =>
    simp only [step]
    split
    · exact hp
    · split
      · rw [List.getElem?_append_left hlt]
        exact hp
      · exact hp
  | subscribe page =>
    have hne : page ≠ k := fun h => hsubscribe (h ▸ rfl)
    simp [step, hne, hp]
  | post author message senderId now =>
    simp only [step]
    split <;> exact hp
  | work j => exact absurd rfl (hwork j)

/-- Before a page is subscribed, only its subscription changes it. -/
theorem step_page_unsubscribed [Env] {s : LiveChat} {k : Nat} {p : Page} (hp : s.pages[k]? = some p)
    (hsub : p.subscribed = false) {e : Event} (he : e ≠ .subscribe k) :
    (s.step e).pages[k]? = some p := by
  have hdeaf : ∀ bs : List Broadcast, bs.foldl Page.hear p = p := by
    intro bs
    induction bs with
    | nil => rfl
    | cons b bs ih =>
      have hone : p.hear b = p := by simp [Page.hear, hsub]
      rw [List.foldl_cons, hone, ih]
  cases e with
  | work j =>
    simp only [step]
    split
    · exact hp
    · simp only [runJob]
      split
      · simp [hp, hdeaf]
      · exact hp
  | _ => exact step_page_kept hp he (by simp)

/-- A subscribed page changes by jobs only. -/
theorem step_page_subscribed [Env] {s : LiveChat} {k : Nat} {p : Page} (hp : s.pages[k]? = some p)
    (hsub : p.subscribed = true) {e : Event} (he : ∀ j, e ≠ .work j) :
    (s.step e).pages[k]? = some p := by
  by_cases hsubscribe : e = .subscribe k
  · have hsame : { p with subscribed := true } = p := by rw [← hsub]
    subst hsubscribe
    simp [step, hp, hsame]
  · exact step_page_kept hp hsubscribe he

/-- Storing a message does not finish any. -/
theorem done_of_posted {s s' : LiveChat} {x : ChatMessage}
    (hdb : s'.db = { s.db with chatMessages := s.db.chatMessages.insert x })
    (hjobs : s'.jobs = s.jobs ++ [Row.withId s.db.chatMessages.next x]) (m : ChatMessage) :
    s'.Done m ↔ s.Done m := by
  rw [Done, Done, hdb, hjobs]
  simp only [Table.rows_insert, List.mem_append, List.mem_singleton, not_or]
  constructor
  · intro ⟨hm, hjob, hne⟩
    exact ⟨hm.resolve_right hne, hjob⟩
  · intro ⟨hm, hjob⟩
    refine ⟨.inl hm, hjob, ?_⟩
    intro heq
    exact next_not_mem s.db x (heq ▸ hm)

/-- Taking a job finishes its message and no other. -/
theorem done_of_taken {s s' : LiveChat} (h : s.Sound) {j : Nat} {x : ChatMessage}
    (hj : s.jobs[j]? = some x) (hdb : s'.db = s.db) (hjobs : s'.jobs = s.jobs.eraseIdx j)
    (m : ChatMessage) : s'.Done m ↔ s.Done m ∨ m = x := by
  obtain ⟨hlt, hx⟩ := List.getElem?_eq_some_iff.mp hj
  have hmem : x ∈ s.jobs := hx ▸ List.getElem_mem hlt
  have herase : s'.jobs = s.jobs.erase x := by rw [hjobs, ← hx, h.nodup.erase_getElem]
  rw [Done, Done, hdb, herase, h.nodup.mem_erase_iff]
  constructor
  · intro ⟨hm, hjob⟩
    by_cases heq : m = x
    · exact .inr heq
    · exact .inl ⟨hm, fun hin => hjob ⟨heq, hin⟩⟩
  · intro hdone
    rcases hdone with ⟨hm, hjob⟩ | rfl
    · exact ⟨hm, fun hin => hjob hin.2⟩
    · exact ⟨h.stored m hmem, fun hin => hin.1 rfl⟩

/-- A job reaches a subscribed page of staff once. -/
theorem runJob_page {s : LiveChat} {k : Nat} {p : Page} (hp : s.pages[k]? = some p)
    (hsub : p.subscribed = true) (hu : p.user ∈ s.db.users.rows)
    (hstaff : (p.user.isAdmin || p.user.isStaff) = true) {x : ChatMessage}
    (hauthor : (s.db.users.find? x.userId).isSome = true) :
    ∃ p', (s.runJob x)[k]? = some p' ∧ p'.subscribed = true ∧ p'.user = p.user ∧
      (∀ chatId, p'.windowsOf chatId = p.windowsOf chatId) ∧
      ∀ m, s.db.InCustomersChat m →
        p'.shown m = p.shown m + if x = m then p.windowsOf m.chatId else 0 := by
  cases hperform : MessageBroadcastJob.perform s.db x with
  | error e =>
    refine ⟨p, by simp [runJob, hperform, hp], hsub, rfl, fun _ => rfl, ?_⟩
    intro m hm
    have hne : ¬ x = m := by
      rintro rfl
      obtain ⟨bs, hok, -⟩ := MessageBroadcastJob.perform_once hu hstaff hm hauthor
      rw [hperform] at hok
      cases hok
    simp [hne]
  | ok bs =>
    obtain ⟨huser, hsub', hwindows, hshown⟩ :=
      Page.foldl_hear bs p (MessageBroadcastJob.perform_message hperform)
    refine ⟨bs.foldl Page.hear p, by simp [runJob, hperform, hp], hsub'.trans hsub, huser,
      hwindows, ?_⟩
    intro m hm
    rw [hshown m]
    by_cases heq : x = m
    · subst heq
      obtain ⟨bs', hok, hcount⟩ := MessageBroadcastJob.perform_once hu hstaff hm hauthor
      rw [hperform] at hok
      cases hok
      rw [if_pos ⟨hsub, rfl⟩, if_pos rfl, hcount, Nat.one_mul]
    · rw [if_neg (fun h => heq h.2), if_neg heq]

/-- What a subscribed page of staff shows of a message of a customer's chat,
and what is still to come, add up to the same after every event. -/
theorem step_shown_subscribed [Env] {s : LiveChat} (h : s.Sound) {k : Nat} {p : Page}
    (hp : s.pages[k]? = some p) (hsub : p.subscribed = true) (hu : p.user ∈ s.db.users.rows)
    (hstaff : (p.user.isAdmin || p.user.isStaff) = true) {m : ChatMessage}
    (hm : s.db.InCustomersChat m) (e : Event) :
    ∃ p', (s.step e).pages[k]? = some p' ∧ p'.subscribed = true ∧ p'.user = p.user ∧
      p'.windowsOf m.chatId = p.windowsOf m.chatId ∧
      p'.shown m + (if (s.step e).Done m then 0 else p.windowsOf m.chatId) =
        p.shown m + if s.Done m then 0 else p.windowsOf m.chatId := by
  rcases step_cases s e with ⟨hdb, hjobs, hwork⟩ | ⟨x, hdb, hjobs, -, hpages⟩ |
    ⟨j, rfl, ⟨-, hs⟩ | ⟨x, hj, hs⟩⟩
  · have hdone : (s.step e).Done m ↔ s.Done m := by rw [Done, Done, hdb, hjobs]
    exact ⟨p, step_page_subscribed hp hsub hwork, hsub, rfl, rfl, by simp [hdone]⟩
  · have hdone := done_of_posted hdb hjobs m
    exact ⟨p, by rw [hpages, hp], hsub, rfl, rfl, by simp [hdone]⟩
  · exact ⟨p, by rw [hs, hp], hsub, rfl, rfl, by rw [hs]⟩
  · obtain ⟨hlt, hx⟩ := List.getElem?_eq_some_iff.mp hj
    have hjob : x ∈ s.jobs := hx ▸ List.getElem_mem hlt
    have hdone : (s.step (.work j)).Done m ↔ s.Done m ∨ m = x :=
      done_of_taken h hj (by rw [hs]) (by rw [hs]) m
    obtain ⟨p', hp', hsub', huser, hwindows, hshown⟩ :=
      runJob_page hp hsub hu hstaff (h.author x hjob)
    refine ⟨p', by rw [hs]; exact hp', hsub', huser, hwindows m.chatId, ?_⟩
    rw [hshown m hm]
    by_cases heq : x = m
    · have hpending : ¬ s.Done m := fun hd => hd.2 (heq ▸ hjob)
      rw [if_pos heq, if_pos (hdone.mpr (.inr heq.symm)), if_neg hpending]
      omega
    · have hsame : (s.step (.work j)).Done m ↔ s.Done m := by
        rw [hdone]
        exact or_iff_left (fun h' => heq h'.symm)
      simp [heq, hsame]

/-! ## Runs -/

/-- Pages stay open. -/
theorem length_pages_le_run [Env] (s : LiveChat) (es : List Event) :
    s.pages.length ≤ (s.run es).pages.length := by
  induction es generalizing s with
  | nil => exact Nat.le_refl _
  | cons e es ih =>
    refine Nat.le_trans ?_ (ih (s.step e))
    cases e with
    | load user adminUrl =>
      simp only [step]
      split
      · exact Nat.le_refl _
      · split <;> simp
    | subscribe page => simp [step]
    | post author message senderId now =>
      simp only [step]
      split <;> exact Nat.le_refl _
    | work j =>
      simp only [step]
      split
      · exact Nat.le_refl _
      · simp only [runJob]
        split <;> simp

theorem run_tables [Env] (s : LiveChat) (es : List Event) :
    (s.run es).db.users = s.db.users ∧ (s.run es).db.chats = s.db.chats := by
  induction es generalizing s with
  | nil => exact ⟨rfl, rfl⟩
  | cons e es ih =>
    obtain ⟨husers, hchats⟩ := step_tables s e
    obtain ⟨husers', hchats'⟩ := ih (s.step e)
    exact ⟨husers'.trans husers, hchats'.trans hchats⟩

theorem inCustomersChat_run [Env] (s : LiveChat) (es : List Event) (m : ChatMessage) :
    (s.run es).db.InCustomersChat m ↔ s.db.InCustomersChat m := by
  obtain ⟨husers, hchats⟩ := run_tables s es
  rw [Db.InCustomersChat, Db.InCustomersChat, husers, hchats]

theorem Sound.run [Env] {s : LiveChat} (h : s.Sound) (es : List Event) : (s.run es).Sound := by
  induction es generalizing s with
  | nil => exact h
  | cons e es ih => exact ih (h.step e)

theorem run_page_unsubscribed [Env] {s : LiveChat} {k : Nat} {p : Page} (hp : s.pages[k]? = some p)
    (hsub : p.subscribed = false) {es : List Event} (hes : .subscribe k ∉ es) :
    (s.run es).pages[k]? = some p := by
  induction es generalizing s with
  | nil => exact hp
  | cons e es ih =>
    have he : e ≠ .subscribe k := fun h => hes (h ▸ List.mem_cons_self)
    apply ih (step_page_unsubscribed hp hsub he)
    intro h
    exact hes (List.mem_cons_of_mem _ h)

theorem run_shown_subscribed [Env] {s : LiveChat} (h : s.Sound) {k : Nat} {p : Page}
    (hp : s.pages[k]? = some p) (hsub : p.subscribed = true) (hu : p.user ∈ s.db.users.rows)
    (hstaff : (p.user.isAdmin || p.user.isStaff) = true) {m : ChatMessage}
    (hm : s.db.InCustomersChat m) (es : List Event) :
    ∃ p', (s.run es).pages[k]? = some p' ∧
      p'.shown m + (if (s.run es).Done m then 0 else p.windowsOf m.chatId) =
        p.shown m + if s.Done m then 0 else p.windowsOf m.chatId := by
  induction es generalizing s p with
  | nil => exact ⟨p, hp, rfl⟩
  | cons e es ih =>
    obtain ⟨p₁, hp₁, hsub₁, huser, hwindows, hshown⟩ :=
      step_shown_subscribed h hp hsub hu hstaff hm e
    have hu₁ : p₁.user ∈ (s.step e).db.users.rows := by
      rw [huser, (step_tables s e).1]
      exact hu
    have hm₁ : (s.step e).db.InCustomersChat m := (inCustomersChat_run s [e] m).mpr hm
    obtain ⟨p₂, hp₂, hshown₂⟩ := ih (h.step e) hp₁ hsub₁ hu₁ (huser ▸ hstaff) hm₁
    rw [hwindows] at hshown₂
    exact ⟨p₂, hp₂, hshown₂.trans hshown⟩

end LiveChat

/-! ## The life of a page -/

/-- An interleaving with one page in it: what happens before it is loaded,
between its loading and its subscription, and after that. -/
structure PageLife where
  before : List LiveChat.Event
  user : Id
  adminUrl : Bool
  loading : List LiveChat.Event
  after : List LiveChat.Event

namespace PageLife

open LiveChat (Event)

/-- The state in which the page is loaded. -/
def atLoad [Env] (l : PageLife) (db : Db) : LiveChat := LiveChat.run { db := db } l.before

def index [Env] (l : PageLife) (db : Db) : Nat := (l.atLoad db).pages.length

def atSubscription [Env] (l : PageLife) (db : Db) : LiveChat :=
  (l.atLoad db).run (.load l.user l.adminUrl :: l.loading)

def atEnd [Env] (l : PageLife) (db : Db) : LiveChat :=
  (l.atSubscription db).run (.subscribe (l.index db) :: l.after)

/-- In the end the page shows each message of every customer's chat exactly
once. -/
def ShowsEachOnce [Env] (l : PageLife) (db : Db) : Prop :=
  ∃ p, (l.atEnd db).pages[l.index db]? = some p ∧
    ∀ m ∈ (l.atEnd db).db.chatMessages.rows, (l.atEnd db).db.InCustomersChat m → p.shown m = 1

instance [Env] (l : PageLife) (db : Db) : Decidable (l.ShowsEachOnce db) :=
  match h : (l.atEnd db).pages[l.index db]? with
  | none => .isFalse (by simp [ShowsEachOnce, h])
  | some p => decidable_of_iff
      (∀ m ∈ (l.atEnd db).db.chatMessages.rows, (l.atEnd db).db.InCustomersChat m → p.shown m = 1)
      (by simp [ShowsEachOnce, h])

/-- Every message of a customer's chat has a chat that was listed when the
page was loaded, and it was stored by then exactly if its job had run when
the page subscribed. -/
def InStep [Env] (l : PageLife) (db : Db) : Prop :=
  ∀ m ∈ (l.atEnd db).db.chatMessages.rows, (l.atEnd db).db.InCustomersChat m →
    (l.atLoad db).db.ChatListed m ∧
    (m ∈ (l.atLoad db).db.chatMessages.rows ↔ (l.atSubscription db).Done m)

instance [Env] (l : PageLife) (db : Db) : Decidable (l.InStep db) :=
  inferInstanceAs (Decidable (∀ m ∈ (l.atEnd db).db.chatMessages.rows, _ → _))

theorem sound_atSubscription [Env] (l : PageLife) (db : Db) : (l.atSubscription db).Sound := by
  have hstart : LiveChat.Sound { db := db } := ⟨List.nodup_nil, by simp, by simp⟩
  exact (hstart.run l.before).run _

theorem users_atSubscription [Env] (l : PageLife) (db : Db) :
    (l.atSubscription db).db.users = db.users :=
  (LiveChat.run_tables _ _).1.trans (LiveChat.run_tables { db := db } l.before).1

section Opened

variable {l : PageLife} {db : Db} {u : User} {ws : List ChatWindow}

/-- The page as it was loaded is there when it subscribes. -/
theorem page_atSubscription [Env] (hu : db.users.find? l.user = some u)
    (hopen : (l.atLoad db).db.renderLayout u l.adminUrl = .ok ws)
    (honce : .subscribe (l.index db) ∉ l.loading) :
    (l.atSubscription db).pages[l.index db]? = some { user := u, windows := ws } := by
  have husers : (l.atLoad db).db.users = db.users := (LiveChat.run_tables { db := db } l.before).1
  have hload : ((l.atLoad db).step (.load l.user l.adminUrl)).pages =
      (l.atLoad db).pages ++ [{ user := u, windows := ws }] := by
    simp only [LiveChat.step, husers, hu, hopen]
  apply LiveChat.run_page_unsubscribed (s := (l.atLoad db).step (.load l.user l.adminUrl)) ?_ rfl
    honce
  rw [hload]
  exact List.getElem?_concat_length

/-- How often the page shows a message in the end. -/
theorem shown_atEnd [Env] (hu : db.users.find? l.user = some u)
    (hstaff : (u.isAdmin || u.isStaff) = true)
    (hopen : (l.atLoad db).db.renderLayout u l.adminUrl = .ok ws)
    (honce : .subscribe (l.index db) ∉ l.loading) (hdone : (l.atEnd db).jobs = []) :
    ∃ p, (l.atEnd db).pages[l.index db]? = some p ∧
      ∀ m ∈ (l.atEnd db).db.chatMessages.rows, (l.atEnd db).db.InCustomersChat m →
        p.shown m =
          if (l.atLoad db).db.ChatListed m then
            (if m ∈ (l.atLoad db).db.chatMessages.rows then 1 else 0) +
              if (l.atSubscription db).Done m then 0 else 1
          else 0 := by
  have hpage := page_atSubscription hu hopen honce
  have hlt : l.index db < (l.atEnd db).pages.length := by
    obtain ⟨hlt, -⟩ := List.getElem?_eq_some_iff.mp hpage
    exact Nat.lt_of_lt_of_le hlt (LiveChat.length_pages_le_run _ _)
  refine ⟨_, List.getElem?_eq_getElem hlt, ?_⟩
  intro m hm hcustomer
  obtain ⟨hwindows, hshown⟩ := Page.loaded hstaff hopen m
  have hsubscribed : ((l.atSubscription db).step (.subscribe (l.index db))).pages[l.index db]? =
      some { user := u, windows := ws, subscribed := true } := by
    simp [LiveChat.step, hpage]
  have hsound := (l.sound_atSubscription db).step (.subscribe (l.index db))
  have huser : u ∈ ((l.atSubscription db).step (.subscribe (l.index db))).db.users.rows := by
    change u ∈ (l.atSubscription db).db.users.rows
    rw [l.users_atSubscription db]
    exact db.users.mem_of_find? hu
  have hcustomer' : ((l.atSubscription db).step (.subscribe (l.index db))).db.InCustomersChat m :=
    (LiveChat.inCustomersChat_run _ l.after m).mp hcustomer
  obtain ⟨p, hp, hcount⟩ :=
    LiveChat.run_shown_subscribed hsound hsubscribed rfl huser hstaff hcustomer' l.after
  have hsame : (l.atEnd db).pages[l.index db] = p := by
    have hget : (l.atEnd db).pages[l.index db]? = some p := hp
    rw [List.getElem?_eq_getElem hlt] at hget
    exact Option.some.inj hget
  -- nothing is to come any more
  have hfinal : (l.atEnd db).Done m := ⟨hm, by simp [hdone]⟩
  have hcount' : p.shown m + (if (l.atEnd db).Done m then 0 else
      Page.windowsOf { user := u, windows := ws } m.chatId) =
      Page.shown { user := u, windows := ws } m +
        if (l.atSubscription db).Done m then 0 else
          Page.windowsOf { user := u, windows := ws } m.chatId := hcount
  rw [if_pos hfinal, hwindows, hshown, Nat.add_zero] at hcount'
  rw [hsame, hcount']
  by_cases hlisted : (l.atLoad db).db.ChatListed m
  · simp [hlisted]
  · simp [hlisted]

end Opened

end PageLife

/-- Of being rendered and being appended, exactly one happened. -/
theorem rendered_or_appended_iff {A B : Prop} [Decidable A] [Decidable B] :
    (if A then 1 else 0) + (if B then 0 else 1) = 1 ↔ (A ↔ B) := by
  by_cases hA : A
  · by_cases hB : B <;> simp [hA, hB]
  · by_cases hB : B <;> simp [hA, hB]

/-- **When a page shows every message once.** In any interleaving of page
loads, subscriptions, commits and jobs that leaves no job behind, a page of
an administrator or a member of staff shows each message of every
customer's chat exactly once if and only if every such message is of a chat
that was listed when the page was loaded, and was stored by then exactly if
its job had run when the page subscribed. -/
theorem shows_each_once_iff [Env] (db : Db) (l : PageLife) (u : User)
    (hu : db.users.find? l.user = some u) (hstaff : (u.isAdmin || u.isStaff) = true)
    (hopen : ∃ ws, (l.atLoad db).db.renderLayout u l.adminUrl = .ok ws)
    (honce : .subscribe (l.index db) ∉ l.loading) (hdone : (l.atEnd db).jobs = []) :
    l.ShowsEachOnce db ↔ l.InStep db := by
  obtain ⟨ws, hopen⟩ := hopen
  obtain ⟨p, hp, hcount⟩ := PageLife.shown_atEnd hu hstaff hopen honce hdone
  constructor
  · intro ⟨p', hp', hone⟩ m hm hcustomer
    rw [hp] at hp'
    cases hp'
    have hshown := hcount m hm hcustomer
    rw [hone m hm hcustomer] at hshown
    by_cases hlisted : (l.atLoad db).db.ChatListed m
    · rw [if_pos hlisted] at hshown
      exact ⟨hlisted, rendered_or_appended_iff.mp hshown.symm⟩
    · simp [hlisted] at hshown
  · intro hstep
    refine ⟨p, hp, ?_⟩
    intro m hm hcustomer
    obtain ⟨hlisted, hran⟩ := hstep m hm hcustomer
    rw [hcount m hm hcustomer, if_pos hlisted]
    exact rendered_or_appended_iff.mpr hran

/-- **How often a page shows a message.** In any interleaving of page loads,
subscriptions, commits and jobs that leaves no job behind, a page of an
administrator or a member of staff shows a message of a customer's chat that
had a window when the page was loaded once for its being stored by then, and
once for its job having run after the subscription. So it is shown exactly
once if its commit and its job are on the same side of the page's loading. -/
theorem listed_messages_shown [Env] (db : Db) (l : PageLife) (u : User)
    (hu : db.users.find? l.user = some u) (hstaff : (u.isAdmin || u.isStaff) = true)
    (hopen : ∃ ws, (l.atLoad db).db.renderLayout u l.adminUrl = .ok ws)
    (honce : .subscribe (l.index db) ∉ l.loading) (hdone : (l.atEnd db).jobs = []) :
    ∃ p, (l.atEnd db).pages[l.index db]? = some p ∧
      ∀ m ∈ (l.atEnd db).db.chatMessages.rows, (l.atEnd db).db.InCustomersChat m →
        (l.atLoad db).db.ChatListed m →
        p.shown m = (if m ∈ (l.atLoad db).db.chatMessages.rows then 1 else 0) +
          (if (l.atSubscription db).Done m then 0 else 1) ∧
        (p.shown m = 1 ↔
          (m ∈ (l.atLoad db).db.chatMessages.rows ↔ (l.atSubscription db).Done m)) := by
  obtain ⟨ws, hopen⟩ := hopen
  obtain ⟨p, hp, hcount⟩ := PageLife.shown_atEnd hu hstaff hopen honce hdone
  refine ⟨p, hp, ?_⟩
  intro m hm hcustomer hlisted
  have hshown := hcount m hm hcustomer
  rw [if_pos hlisted] at hshown
  refine ⟨hshown, ?_⟩
  rw [hshown]
  exact rendered_or_appended_iff

/-- An administrator, and a customer who has written before. -/
def annHasWritten : Db where
  users := Table.empty.insertAll
    [{ email := "admin@pet.vn", roles := ["admin"] }, { email := "ann@pet.vn", roles := ["user"] }]
  chats := Table.empty.insertAll [{ senderId := some 2 }]
  chatMessages := Table.empty.insertAll
    [{ chatId := 1, userId := 2, message := some "Hello", createdAt := 5 }]

/-- The administrator's page is up before the next message is sent. -/
def quietLoading : PageLife where
  before := []
  user := 1
  adminUrl := false
  loading := []
  after := [.post 2 (some "Anyone there?") none 6, .work 0]

section Example

attribute [local instance] Env.caseInsensitive

theorem listed_messages_shown_quietLoading :
    (quietLoading.atEnd annHasWritten).db.chatMessages.rows.length = 2 ∧
    ∃ p, (quietLoading.atEnd annHasWritten).pages[0]? = some p ∧
      ∀ m ∈ (quietLoading.atEnd annHasWritten).db.chatMessages.rows, p.shown m = 1 := by
  obtain ⟨p, hp, hshown⟩ := listed_messages_shown annHasWritten quietLoading
    { id := 1, email := "admin@pet.vn", roles := ["admin"] } (by decide) (by decide)
    ⟨_, rfl⟩ (by decide) (by decide)
  have hlisted : ∀ m ∈ (quietLoading.atEnd annHasWritten).db.chatMessages.rows,
      (quietLoading.atEnd annHasWritten).db.InCustomersChat m ∧
      (quietLoading.atLoad annHasWritten).db.ChatListed m ∧
      (m ∈ (quietLoading.atLoad annHasWritten).db.chatMessages.rows ↔
        (quietLoading.atSubscription annHasWritten).Done m) := by decide
  refine ⟨by decide, p, hp, ?_⟩
  intro m hm
  obtain ⟨hcustomer, hwindow, hside⟩ := hlisted m hm
  exact (hshown m hm hcustomer hwindow).2.mpr hside

end Example

/-- The page is up, but the customer's chat was empty when it was loaded. -/
def firstMessage : PageLife where
  before := []
  user := 1
  adminUrl := false
  loading := []
  after := [.post 2 (some "Hello") none 6, .work 0]

/-- A message is sent, the page is loaded and subscribed, and only then the
message's job runs. -/
def lateJob : PageLife where
  before := [.post 2 (some "Anyone there?") none 6]
  user := 1
  adminUrl := false
  loading := []
  after := [.work 0]

section Example

attribute [local instance] Env.caseInsensitive

/-- The first message of a chat has no window and is dropped; a message
whose job is late is shown twice. -/
theorem messages_dropped_and_doubled :
    ((firstMessage.atEnd { annHasWritten with chatMessages := Table.empty }).jobs = [] ∧
      ((firstMessage.atEnd { annHasWritten with chatMessages := Table.empty }).pages.map
        fun p => p.windows) = [[]] ∧
      ¬ firstMessage.ShowsEachOnce { annHasWritten with chatMessages := Table.empty }) ∧
    (lateJob.atEnd annHasWritten).jobs = [] ∧
    ((lateJob.atEnd annHasWritten).pages.map fun p =>
      p.windows.map fun w => w.bubbles.map (·.message.message)) =
      [[[some "Hello", some "Anyone there?", some "Anyone there?"]]] ∧
    ¬ lateJob.ShowsEachOnce annHasWritten := by
  refine ⟨⟨by decide, by decide, by decide⟩, by decide, by decide, by decide⟩

end Example

end PetParadise
