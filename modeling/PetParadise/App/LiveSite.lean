/-
PetParadise.App.LiveSite — open pages while the application goes on.

`PetParadise.Chat.LiveChat` lets users write messages. Here any request may
come between loading a page, connecting it and running a job: chats change
hands and are destroyed, roles are given, accounts go. A job is queued with
the KEY of its message, so by the time it runs the message may be gone; it
then fails before `perform` begins. Who is sent a message is decided by the
database the job finds, not by the one the message was written in.

`shown_only_to_readers` follows each bubble on each page back to the event
that put it there. There are two such events: the page was loaded with it, or
a job broadcast it and the page's handler took it in.
-/
import PetParadise.App.LiveChatTheorems
import PetParadise.App.Routes

namespace PetParadise

open Store

/-- The database, the keys of the messages whose jobs are still to run, and
the open pages. -/
structure LiveSite where
  db : Db
  jobs : List Id := []
  pages : List Page := []

inductive LiveSite.Event where
  | load (user : Id) (adminUrl : Bool)
  | subscribe (page : Nat)
  | request (r : Request)
  | work (job : Nat)

/-- The messages a request has stored. -/
def Db.newMessages (db db' : Db) : List Id :=
  (db'.chatMessages.rows.filter (fun m => db.chatMessages.next ≤ m.id)).map (·.id)

/-- What a job does to the pages. ActiveJob looks the message up. -/
def Db.runJob (db : Db) (message : Id) (pages : List Page) : List Page :=
  match db.chatMessages.find? message with
  | none => pages
  | some m =>
      match MessageBroadcastJob.perform db m with
      | .ok broadcasts => pages.map (fun p => broadcasts.foldl Page.hear p)
      | .error _ => pages

namespace LiveSite

section Deployment

variable [Env]

def step (s : LiveSite) : Event → LiveSite
  | .load user adminUrl =>
      match s.db.users.find? user with
      | none => s
      | some u =>
          match s.db.renderLayout u adminUrl with
          | .ok windows => { s with pages := s.pages ++ [{ user := u, windows := windows }] }
          | .error _ => s
  | .subscribe page =>
      { s with pages := s.pages.modify page (fun p => { p with subscribed := true }) }
  | .request r =>
      let db' := PetParadise.step s.db r
      { s with db := db', jobs := s.jobs ++ s.db.newMessages db' }
  | .work job =>
      match s.jobs[job]? with
      | none => s
      | some i => { s with jobs := s.jobs.eraseIdx job, pages := s.db.runJob i s.pages }

def run (s : LiveSite) (es : List Event) : LiveSite := es.foldl step s

end Deployment

end LiveSite

/-! ## Chats alone

`LiveChat` is the site when the only requests are messages. -/

theorem Db.newMessages_self (db : Db) : db.newMessages db = [] := by
  have hnone : db.chatMessages.rows.filter (fun m => db.chatMessages.next ≤ m.id) = [] := by
    rw [List.filter_eq_nil_iff]
    intro m hm hle
    exact Nat.not_lt_of_le (of_decide_eq_true hle) (db.chatMessages.fresh m hm)
  rw [Db.newMessages, hnone, List.map_nil]

theorem Db.newMessages_insert (db : Db) (m : ChatMessage) :
    db.newMessages { db with chatMessages := db.chatMessages.insert m } =
      [db.chatMessages.next] := by
  have hold := db.newMessages_self
  rw [Db.newMessages] at hold ⊢
  have hid : (Row.withId db.chatMessages.next m).id = db.chatMessages.next := rfl
  rw [Table.rows_insert, List.filter_append, List.map_append, hold]
  simp [hid]

namespace LiveChat

def site (s : LiveChat) : LiveSite := ⟨s.db, s.jobs.map (·.id), s.pages⟩

def Event.onSite : Event → LiveSite.Event
  | load user adminUrl => .load user adminUrl
  | subscribe page => .subscribe page
  | post author message senderId now =>
      .request (.user (some author) (.chatMessages (.create message senderId now)))
  | work job => .work job

theorem site_step [Env] {s : LiveChat} (h : s.Sound) (e : Event) :
    (s.step e).site = s.site.step e.onSite := by
  cases e with
  | load user adminUrl =>
    simp only [step, Event.onSite, LiveSite.step, site]
    cases s.db.users.find? user with
    | none => rfl
    | some u => cases hlayout : s.db.renderLayout u adminUrl <;> simp [hlayout]
  | subscribe page => rfl
  | post author message senderId now =>
    simp only [step, Event.onSite, LiveSite.step, site]
    cases hu : s.db.users.find? author with
    | none =>
      have hnobody : (some author).bind s.db.users.find? = none := hu
      have hstep := step_unauthenticated hnobody (.chatMessages (.create message senderId now))
      simp only [hstep, Db.newMessages_self, List.append_nil]
    | some u =>
      have hstep : PetParadise.step s.db
          (.user (some author) (.chatMessages (.create message senderId now))) =
            ((ChatMessagesController.create u message senderId now).eval s.db).2 := step_user hu _
      simp only [hstep, ChatMessagesController.create_eval]
      cases hc : ChatMessagesController.chatFor s.db u senderId with
      | none => simp [commit, Db.newMessages_self]
      | some c => simp [commit, Db.newMessages_insert]; rfl
  | work job =>
    simp only [step, Event.onSite, LiveSite.step, site, List.getElem?_map]
    cases hj : s.jobs[job]? with
    | none => rfl
    | some m =>
      have hfind : s.db.chatMessages.find? m.id = some m :=
        s.db.chatMessages.find?_of_mem (h.stored m (List.mem_of_getElem? hj))
      have hpages : s.db.runJob m.id s.pages = s.runJob m := by
        cases hperform : MessageBroadcastJob.perform s.db m with
        | ok broadcasts => simp only [Db.runJob, hfind, runJob, hperform]
        | error e => simp only [Db.runJob, hfind, runJob, hperform]
      simp only [Option.map_some, hpages, List.eraseIdx_map]

theorem site_run [Env] {s : LiveChat} (h : s.Sound) (es : List Event) :
    (s.run es).site = s.site.run (es.map Event.onSite) := by
  induction es generalizing s with
  | nil => rfl
  | cons e es ih =>
    show (run (s.step e) es).site = LiveSite.run (s.site.step e.onSite) (es.map Event.onSite)
    rw [ih (h.step e), site_step h e]

end LiveChat

/-! ## Who may read -/

/-- The author of a message, the owner of its chat, and the team. -/
def Db.MayRead (db : Db) (i : Id) (m : ChatMessage) : Prop :=
  i = m.userId ∨ (∃ chat, db.chats.find? m.chatId = some chat ∧ chat.senderId = some i) ∨
    db.inTeam i = true

/-- Message `m` may stand in a window of chat `chatId` on a page of user
`i`. -/
structure Db.Readable (db : Db) (i chatId : Id) (m : ChatMessage) : Prop where
  stored : m ∈ db.chatMessages.rows
  chat : m.chatId = chatId
  mayRead : db.MayRead i m

/-- A chat on the page of a user: theirs, unless they are of the team. -/
theorem ApplicationController.of_mem_setChat {db : Db} {u : User} {c : Chat}
    (h : c ∈ setChat db u) :
    c ∈ db.chats.rows ∧ ((u.isAdmin || u.isStaff) = true ∨ c.senderId = some u.id) := by
  unfold setChat at h
  split at h
  · next hteam => exact ⟨(Db.mem_chatsByNewest.mp h).1, .inl hteam⟩
  · split at h
    · obtain ⟨hrow, howner, -⟩ := Db.mem_chatsByNewest.mp h
      exact ⟨hrow, .inr (beq_iff_eq.mp howner)⟩
    · obtain ⟨hrow, howner⟩ := List.mem_filter.mp h
      exact ⟨hrow, .inr (beq_iff_eq.mp howner)⟩

/-- What a page is drawn with. -/
theorem Db.readable_of_renderLayout {db : Db} {i : Id} {u : User} {adminUrl : Bool}
    {ws : List ChatWindow} (hu : db.users.find? i = some u)
    (h : db.renderLayout u adminUrl = .ok ws) {w : ChatWindow} (hw : w ∈ ws) {b : Bubble}
    (hb : b ∈ w.bubbles) : db.Readable u.id w.chatId b.message := by
  have hmap := Db.chatWindows_map (Db.chatWindows_of_renderLayout h)
  have hmem : (w.chatId, w.bubbles) ∈ ws.map (fun w => (w.chatId, w.bubbles)) :=
    List.mem_map_of_mem hw
  rw [hmap] at hmem
  obtain ⟨c, hc, heq⟩ := List.mem_map.mp hmem
  obtain ⟨hid, hbubbles⟩ := Prod.mk.inj heq
  rw [← hbubbles, Db.bubbles] at hb
  obtain ⟨m, hm, rfl⟩ := List.mem_map.mp hb
  rw [List.mem_insertionSort, Db.messagesOf, List.mem_filter, beq_iff_eq] at hm
  refine ⟨hm.1, hm.2.trans hid, ?_⟩
  obtain ⟨hrow, hteam | howner⟩ := ApplicationController.of_mem_setChat hc
  · refine .inr (.inr ?_)
    have hself : db.users.find? u.id = some u := db.users.find?_self hu
    rw [Db.inTeam, hself]
    exact hteam
  · refine .inr (.inl ⟨c, ?_, howner⟩)
    show db.chats.find? m.chatId = some c
    rw [hm.2]
    exact db.chats.find?_of_mem hrow

/-- Whom a job sends its message. -/
theorem MessageBroadcastJob.mayRead_of_perform {db : Db} {m : ChatMessage}
    {broadcasts : List Broadcast} (h : perform db m = .ok broadcasts) {b : Broadcast}
    (hb : b ∈ broadcasts) : db.MayRead b.channel m := by
  unfold perform at h
  split at h
  · next author chat hauthor hchat =>
    cases h
    obtain ⟨u, hu, rfl⟩ := List.mem_map.mp hb
    have hid : author.id = m.userId := db.users.id_of_find? hauthor
    have hcount : 0 < (author :: recipients db author chat).countP (·.id == u.id) :=
      List.countP_pos_iff.mpr ⟨u, hu, beq_self_eq_true _⟩
    rw [countP_recipients_eq chat u.id (db.users.find?_self hauthor), hid] at hcount
    by_cases hreads : u.id = m.userId ∨ db.inTeam u.id = true
    · exact hreads.imp_right .inr
    · -- the one left is the owner, of a message by the team
      have howns : db.owns chat u.id = true := by
        by_contra howns
        simp [hreads, howns] at hcount
      exact .inr (.inl ⟨chat, hchat, (Db.owns_iff.mp howns).1⟩)
  · cases h

/-! ## Every run

A page keeps its user and its windows while it is open, and a window only
gets more bubbles. A PLACE is a page, a window of it and a position in the
window, each counted from 0. What stands at a place stays, so each bubble
was put at its place by one event. -/

/-- What stands at a place: whose page it is, the chat of the window, and
the bubble. -/
structure Sighting where
  reader : Id
  chatId : Id
  bubble : Bubble
  deriving DecidableEq

def Page.sighting (p : Page) (window position : Nat) : Option Sighting :=
  p.windows[window]?.bind fun w =>
    w.bubbles[position]?.map fun b => ⟨p.user.id, w.chatId, b⟩

def LiveSite.sighting (s : LiveSite) (page window position : Nat) : Option Sighting :=
  s.pages[page]?.bind (·.sighting window position)

/-- What may happen to a place: nothing, or a readable message is put at an
empty one. -/
inductive Db.Fills (db : Db) : Option Sighting → Option Sighting → Prop where
  | same (old : Option Sighting) : Fills db old old
  | put (x : Sighting) (h : db.Readable x.reader x.chatId x.bubble.message) :
      Fills db none (some x)

theorem Db.Fills.trans {db : Db} {a b c : Option Sighting} (h : db.Fills a b)
    (h' : db.Fills b c) : db.Fills a c := by
  cases h with
  | same => exact h'
  | put x hx => cases h' with | same => exact .put x hx

theorem getElem?_concat_cases {α : Type} (l : List α) (a : α) (i : Nat) :
    (l ++ [a])[i]? = l[i]? ∨ l[i]? = none ∧ (l ++ [a])[i]? = some a := by
  rcases Nat.lt_trichotomy i l.length with hlt | rfl | hgt
  · exact .inl (List.getElem?_append_left hlt)
  · exact .inr ⟨List.getElem?_eq_none (Nat.le_refl _), List.getElem?_concat_length⟩
  · have hlong : (l ++ [a]).length ≤ i := by
      rw [List.length_append]
      exact hgt
    exact .inl ((List.getElem?_eq_none hlong).trans (List.getElem?_eq_none (Nat.le_of_lt hgt)).symm)

namespace Page

variable {db : Db}

/-- The handler puts a message only in windows of its chat, below the
messages that are there. -/
theorem fills_received (p : Page) {data : Broadcast}
    (h : db.Readable p.user.id data.chatId data.chatMessage.message) (window position : Nat) :
    db.Fills (p.sighting window position) ((p.received data).sighting window position) := by
  simp only [sighting, received, List.getElem?_map]
  cases p.windows[window]? with
  | none => exact .same _
  | some w =>
    simp only [Option.map_some, Option.bind_some, ChatWindow.append]
    split
    · next hchat =>
      rw [← beq_iff_eq.mp hchat] at h
      rcases getElem?_concat_cases w.bubbles data.chatMessage position with hsame | ⟨hnone, hlast⟩
      · rw [hsame]
        exact .same _
      · rw [hnone, hlast]
        exact .put ⟨p.user.id, w.chatId, data.chatMessage⟩ h
    · exact .same _

theorem fills_hear (p : Page) {data : Broadcast}
    (h : db.Readable data.channel data.chatId data.chatMessage.message) (window position : Nat) :
    db.Fills (p.sighting window position) ((p.hear data).sighting window position) := by
  unfold Page.hear
  split
  · next hhears =>
    rw [Bool.and_eq_true, beq_iff_eq] at hhears
    rw [← hhears.2] at h
    exact fills_received p h window position
  · exact .same _

theorem fills_foldl_hear (p : Page) {broadcasts : List Broadcast}
    (h : ∀ b ∈ broadcasts, db.Readable b.channel b.chatId b.chatMessage.message)
    (window position : Nat) :
    db.Fills (p.sighting window position)
      ((broadcasts.foldl Page.hear p).sighting window position) := by
  induction broadcasts generalizing p with
  | nil => exact .same _
  | cons b broadcasts ih =>
    exact (fills_hear p (h b List.mem_cons_self) window position).trans
      (ih (p.hear b) (fun b' hb' => h b' (List.mem_cons_of_mem _ hb')))

end Page

/-- What the broadcasts of one job carry, and to whom. -/
theorem MessageBroadcastJob.readable_of_perform {db : Db} {m : ChatMessage}
    (hm : m ∈ db.chatMessages.rows) {broadcasts : List Broadcast}
    (h : perform db m = .ok broadcasts) :
    ∀ b ∈ broadcasts, db.Readable b.channel b.chatId b.chatMessage.message := by
  intro b hb
  obtain ⟨hmessage, hchat⟩ := perform_message h b hb
  rw [hmessage, hchat]
  exact ⟨hm, rfl, mayRead_of_perform h hb⟩

theorem Db.fills_runJob (db : Db) (message : Id) (pages : List Page) (page window position : Nat) :
    db.Fills (pages[page]?.bind (·.sighting window position))
      ((db.runJob message pages)[page]?.bind (·.sighting window position)) := by
  unfold Db.runJob
  split
  · exact .same _
  · next m hm =>
    split
    · next broadcasts hperform =>
      rw [List.getElem?_map]
      cases pages[page]? with
      | none => exact .same _
      | some p =>
        exact p.fills_foldl_hear (MessageBroadcastJob.readable_of_perform
          (db.chatMessages.mem_of_find? hm) hperform) window position
    · exact .same _

/-- Everything on a page that was just drawn is readable. -/
theorem Db.fills_renderLayout {db : Db} {i : Id} {u : User} {adminUrl : Bool}
    {ws : List ChatWindow} (hu : db.users.find? i = some u)
    (h : db.renderLayout u adminUrl = .ok ws) (window position : Nat) :
    db.Fills none (Page.sighting { user := u, windows := ws } window position) := by
  simp only [Page.sighting]
  cases hw : ws[window]? with
  | none => exact .same _
  | some w =>
    cases hb : w.bubbles[position]? with
    | none => simp only [Option.bind_some, hb, Option.map_none]; exact .same _
    | some b =>
      simp only [Option.bind_some, hb, Option.map_some]
      exact .put ⟨u.id, w.chatId, b⟩ (Db.readable_of_renderLayout hu h
        (List.mem_of_getElem? hw) (List.mem_of_getElem? hb))

namespace LiveSite

section Deployment

variable [Env]

theorem fills_step (s : LiveSite) (e : Event) (page window position : Nat) :
    s.db.Fills (s.sighting page window position) ((s.step e).sighting page window position) := by
  cases e with
  | load user adminUrl =>
    simp only [step]
    split
    · exact .same _
    · next u hu =>
      split
      · next ws hws =>
        simp only [sighting]
        rcases getElem?_concat_cases s.pages { user := u, windows := ws } page with
          hsame | ⟨hnone, hlast⟩
        · rw [hsame]
          exact .same _
        · rw [hnone, hlast]
          exact Db.fills_renderLayout hu hws window position
      · exact .same _
  | subscribe connected =>
    -- connecting changes neither the user nor the windows of a page
    simp only [step, sighting, List.getElem?_modify]
    cases s.pages[page]? with
    | none => exact .same _
    | some p =>
      simp only [Option.bind_some]
      split
      · exact .same _
      · exact .same _
  | request r => exact .same _
  | work job =>
    simp only [step]
    split
    · exact .same _
    · exact s.db.fills_runJob _ s.pages page window position

theorem run_concat (s : LiveSite) (es : List Event) (e : Event) :
    s.run (es ++ [e]) = (s.run es).step e := by
  simp only [run, List.foldl_append, List.foldl_cons, List.foldl_nil]

/-- **A page shows only what its user may read.** Start with no page open,
and let pages be loaded and connected, any requests be served and the
message jobs run, in any order. Every bubble on every page was put at its
place by one event. In the database that event found, the message was
stored in the chat of its window and the page's user was its author, the
owner of the chat, or in the team. -/
theorem shown_only_to_readers (db : Db) (jobs : List Id) (es : List Event)
    (page window position : Nat) (x : Sighting)
    (h : (run { db := db, jobs := jobs } es).sighting page window position = some x) :
    ∃ before e after, es = before ++ e :: after ∧
      (run { db := db, jobs := jobs } before).sighting page window position = none ∧
      (run { db := db, jobs := jobs } (before ++ [e])).sighting page window position = some x ∧
      (run { db := db, jobs := jobs } before).db.Readable x.reader x.chatId x.bubble.message := by
  induction es using List.reverseRecOn with
  | nil => cases h
  | append_singleton es e ih =>
    have hfills := fills_step (run { db := db, jobs := jobs } es) e page window position
    rw [← run_concat, h] at hfills
    cases hold : (run { db := db, jobs := jobs } es).sighting page window position with
    | none =>
      rw [hold] at hfills
      cases hfills with
      | put _ hreadable => exact ⟨es, e, [], rfl, hold, h, hreadable⟩
    | some y =>
      -- it stood there before the last event
      rw [hold] at hfills
      cases hfills with
      | same =>
        obtain ⟨before, e', after, rfl, hbefore, hafter, hreadable⟩ := ih hold
        exact ⟨before, e', after ++ [e], by simp, hbefore, hafter, hreadable⟩

end Deployment

/-- An administrator has the page open while a customer writes, and then
removes the customer's chat. -/
def chatRemoved : List Event :=
  [.load 1 false, .subscribe 0,
    .request (.user (some 2) (.chatMessages (.create (some "Anyone there?") none 6))), .work 0,
    .request (.user (some 1) (.chats (.destroy 1)))]

/-- The customer's question in the administrator's window. -/
def anyoneThere : Sighting where
  reader := 1
  chatId := 1
  bubble.message.id := 2
  bubble.message.chatId := 1
  bubble.message.userId := 2
  bubble.message.message := some "Anyone there?"
  bubble.message.status := .unread
  bubble.message.createdAt := 6
  bubble.sender := false

section Example

attribute [local instance] Env.caseInsensitive

/-- What was shown stays on the page, after the message is gone. -/
theorem shown_only_to_readers_chatRemoved :
    (run { db := annHasWritten } chatRemoved).db.chatMessages.rows = [] ∧
    (run { db := annHasWritten } chatRemoved).sighting 0 0 1 = some anyoneThere ∧
    ∃ before e after, chatRemoved = before ++ e :: after ∧
      (run { db := annHasWritten } before).sighting 0 0 1 = none ∧
      (run { db := annHasWritten } (before ++ [e])).sighting 0 0 1 = some anyoneThere ∧
      (run { db := annHasWritten } before).db.Readable 1 1 anyoneThere.bubble.message := by
  have hshown : (run { db := annHasWritten } chatRemoved).sighting 0 0 1 = some anyoneThere := by
    decide +kernel
  exact ⟨by decide +kernel, hshown,
    shown_only_to_readers annHasWritten [] chatRemoved 0 0 1 anyoneThere hshown⟩

end Example

end LiveSite

end PetParadise
