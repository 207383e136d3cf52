/-
PetParadise.App.RemovalTheorems — which accounts can be removed.

`User`'s `after_destroy` block looks up one chat of the user and destroys
it, without asking whether there is one. So an account can be removed
without a trace exactly when it has one chat (`deletable_iff`). Only
`UsersController#create` makes that chat, and only for roles other than
admin and staff that fit their column; sign-ups and imports make none.

Every request that adds accounts adds a list of them, all with a chat or
all without (`Db.Added`), so whether every account of a reached state can
be removed is a condition on the requests that led there.
-/
import PetParadise.App.AccountTheorems
import PetParadise.Chat.Windows

namespace PetParadise

open Store PetParadise.Action

/-! ## Accounts with one chat -/

def Db.OneChat (db : Db) (i : Id) : Prop := (db.chatsOf (some i)).length = 1

instance (db : Db) (i : Id) : Decidable (db.OneChat i) :=
  inferInstanceAs (Decidable (_ = 1))

/-- Every account has one chat. -/
def Db.AllOneChat (db : Db) : Prop := ∀ v ∈ db.users.rows, db.OneChat v.id

instance (db : Db) : Decidable db.AllOneChat :=
  inferInstanceAs (Decidable (∀ v ∈ db.users.rows, db.OneChat v.id))

/-- No chat waits for an account that is yet to come. -/
def Db.SendersKnown (db : Db) : Prop :=
  ∀ c ∈ db.chats.rows, ∀ i ∈ c.senderId, i < db.users.next

instance (db : Db) : Decidable db.SendersKnown :=
  inferInstanceAs (Decidable (∀ c ∈ db.chats.rows, ∀ i ∈ c.senderId, i < db.users.next))

theorem Db.SendersKnown.chatsOf_next {db : Db} (h : db.SendersKnown) :
    db.chatsOf (some db.users.next) = [] := by
  apply List.filter_eq_nil_iff.mpr
  intro c hc hsender
  have hlt := h c hc db.users.next (by simpa using hsender)
  exact Nat.lt_irrefl _ hlt

theorem Db.SendersKnown.created {db : Db} (h : db.SendersKnown) (user : User) (chat : Bool) :
    (db.created user chat).SendersKnown := by
  intro c hc i hi
  have hold : ∀ c ∈ db.chats.rows, ∀ i ∈ c.senderId, i < db.users.next + 1 := by
    intro c hc i hi
    exact Nat.lt_succ_of_lt (h c hc i hi)
  cases chat with
  | false => exact hold c hc i hi
  | true =>
    rcases List.mem_append.mp hc with hc | hc
    · exact hold c hc i hi
    · rw [List.mem_singleton] at hc
      rw [hc] at hi
      cases hi
      exact Nat.lt_succ_self _

theorem Db.chatsOf_created (db : Db) (user : User) (chat : Bool) (i : Id) :
    (db.created user chat).chatsOf (some i) =
      db.chatsOf (some i) ++
        if chat && i == db.users.next then
          [{ id := db.chats.next, senderId := some db.users.next }]
        else [] := by
  cases chat with
  | false => simp [Db.created, Db.chatsOf]
  | true =>
    by_cases hi : i = db.users.next
    · simp [Db.created, Db.chatsOf, hi, Row.withId]
    · have hne : ¬ db.users.next = i := fun h => hi h.symm
      simp [Db.created, Db.chatsOf, hi, hne, Row.withId]

/-- One more account leaves one chat for each exactly when it comes with
one. -/
theorem Db.allOneChat_created {db : Db} (h : db.SendersKnown) (user : User) (chat : Bool) :
    (db.created user chat).AllOneChat ↔ db.AllOneChat ∧ chat = true := by
  have hold : ∀ v ∈ db.users.rows,
      ((db.created user chat).OneChat v.id ↔ db.OneChat v.id) := by
    intro v hv
    have hne : v.id ≠ db.users.next := Nat.ne_of_lt (db.users.fresh v hv)
    rw [Db.OneChat, Db.OneChat, Db.chatsOf_created]
    simp [hne]
  have hnew : (db.created user chat).OneChat db.users.next ↔ chat = true := by
    rw [Db.OneChat, Db.chatsOf_created, h.chatsOf_next]
    cases chat <;> simp
  constructor
  · intro hall
    constructor
    · intro v hv
      exact (hold v hv).mp (hall v (List.mem_append_left _ hv))
    · exact hnew.mp (hall _ (List.mem_append_right _ List.mem_cons_self))
  · intro ⟨hall, hchat⟩ v hv
    rcases List.mem_append.mp hv with hv | hv
    · exact (hold v hv).mpr (hall v hv)
    · rw [List.mem_singleton] at hv
      rw [hv]
      exact hnew.mpr hchat

/-! ## Several new accounts -/

/-- `db'` is `db` with some more accounts, all with a chat or all without;
there are none exactly when `quiet` holds. -/
def Db.Added (db db' : Db) (chat : Bool) (quiet : Prop) : Prop :=
  ∃ users : List User,
    db' = users.foldl (fun x user => x.created user chat) db ∧ (users = [] ↔ quiet)

theorem Db.Added.none {db : Db} {chat : Bool} {quiet : Prop} (h : quiet) :
    db.Added db chat quiet := ⟨[], rfl, by simp [h]⟩

theorem Db.Added.cons {db db' : Db} {chat : Bool} {quiet quiet' : Prop} {user : User}
    (h : (db.created user chat).Added db' chat quiet) (hq : ¬ quiet') :
    db.Added db' chat quiet' := by
  obtain ⟨users, rfl, -⟩ := h
  exact ⟨user :: users, rfl, by simp [hq]⟩

theorem Db.Added.congr {db db' : Db} {chat : Bool} {quiet quiet' : Prop}
    (h : db.Added db' chat quiet) (hq : quiet ↔ quiet') : db.Added db' chat quiet' := by
  obtain ⟨users, heq, hnil⟩ := h
  exact ⟨users, heq, hnil.trans hq⟩

theorem Db.Added.sendersKnown {db db' : Db} {chat : Bool} {quiet : Prop}
    (h : db.Added db' chat quiet) (hs : db.SendersKnown) : db'.SendersKnown := by
  obtain ⟨users, rfl, -⟩ := h
  induction users generalizing db with
  | nil => exact hs
  | cons user users ih => exact ih (hs.created user chat)

theorem Db.Added.allOneChat_iff {db db' : Db} {chat : Bool} {quiet : Prop}
    (h : db.Added db' chat quiet) (hs : db.SendersKnown) :
    db'.AllOneChat ↔ db.AllOneChat ∧ (chat = true ∨ quiet) := by
  obtain ⟨users, rfl, hnil⟩ := h
  rw [← hnil]
  clear hnil
  induction users generalizing db with
  | nil => simp
  | cons user users ih =>
    rw [List.foldl_cons, ih (hs.created user chat), Db.allOneChat_created hs]
    simp only [reduceCtorEq, or_false]
    constructor
    · intro ⟨h, _⟩
      exact h
    · intro ⟨hall, hchat⟩
      exact ⟨⟨hall, hchat⟩, .inl hchat⟩

/-! ## Removing an account -/

/-- Nothing of user `i` is left. -/
structure Cleared (i : Id) (db db' : Db) : Prop where
  carts : ∀ c ∈ db'.carts.rows, c.userId ≠ i
  bills : ∀ b ∈ db'.bills.rows, b.userId ≠ i
  lines : ∀ l ∈ db'.billProducts.rows, db.lineOfUser i l = false
  bookings : ∀ b ∈ db'.bookings.rows, b.userId ≠ i
  chats : ∀ c ∈ db'.chats.rows, c.senderId ≠ some i

/-- All but the chats is taken care of by the dependents. -/
theorem Db.cleared_destroyUser_iff {db db' : Db} {i : Id} (h : db.destroyUser i = .ok db') :
    Cleared i db db' ↔ ∀ c ∈ db'.chats.rows, c.senderId ≠ some i := by
  refine ⟨Cleared.chats, fun hchats => ?_⟩
  unfold Db.destroyUser at h
  split at h
  · cases h
  · cases h
    exact ⟨by simp, by simp, by simp, by simp, hchats⟩

theorem Db.destroyUser_chats {db db' : Db} {i : Id} (h : db.destroyUser i = .ok db') :
    ∃ c, db.chats.rows.find? (·.senderId == some i) = some c ∧
      db'.chats = db.chats.delete (·.id == c.id) := by
  unfold Db.destroyUser at h
  split at h
  · cases h
  · rename_i c hfind
    cases h
    exact ⟨c, hfind, rfl⟩

theorem Db.destroyUser_error {db : Db} {i : Id} {e : Failure} (h : db.destroyUser i = .error e) :
    db.chatsOf (some i) = [] := by
  unfold Db.destroyUser at h
  split at h
  · rename_i hfind
    rw [Db.chatsOf, List.filter_eq_nil_iff]
    simpa using hfind
  · cases h

theorem Db.destroyUser_gone {db db' : Db} {i : Id} (h : db.destroyUser i = .ok db') :
    db'.users.find? i = none := by
  unfold Db.destroyUser at h
  split at h
  · cases h
  · cases h
    exact (db.users.find?_delete_id i i).trans (if_pos rfl)

/-- The chat that goes is the only one exactly when none stays. -/
theorem Db.oneChat_iff {db : Db} {i : Id} {c : Chat}
    (hfind : db.chats.rows.find? (·.senderId == some i) = some c) :
    db.OneChat i ↔ ∀ c' ∈ (db.chats.delete (·.id == c.id)).rows, c'.senderId ≠ some i := by
  have hhead : (db.chatsOf (some i)).head? = some c := by
    rw [Db.chatsOf, List.head?_filter]
    exact hfind
  constructor
  · intro hone c' hc' hsender
    obtain ⟨hmem, hne⟩ := List.mem_filter.mp hc'
    have hc'i : c' ∈ db.chatsOf (some i) := List.mem_filter.mpr ⟨hmem, by simp [hsender]⟩
    obtain ⟨d, hd⟩ := List.length_eq_one_iff.mp hone
    rw [hd] at hhead hc'i
    cases hhead
    rw [List.mem_singleton] at hc'i
    simp [hc'i] at hne
  · intro hnone
    cases hlist : db.chatsOf (some i) with
    | nil =>
      rw [hlist] at hhead
      cases hhead
    | cons d rest =>
      rw [hlist] at hhead
      cases hhead
      cases rest with
      | nil => simp [Db.OneChat, hlist]
      | cons d' rest =>
        -- a second chat of the user has another id and would stay
        have hsorted : (c :: d' :: rest).Pairwise (fun a b => a.id < b.id) := by
          rw [← hlist]
          exact db.chats.sorted.filter _
        have hlt : c.id < d'.id := (List.pairwise_cons.mp hsorted).1 d' List.mem_cons_self
        have hd' : d' ∈ db.chatsOf (some i) := by simp [hlist]
        obtain ⟨hmem, hsender⟩ := List.mem_filter.mp hd'
        have hstays : d' ∈ (db.chats.delete (·.id == c.id)).rows :=
          List.mem_filter.mpr ⟨hmem, by simpa using Nat.ne_of_gt hlt⟩
        exact absurd (by simpa using hsender) (hnone d' hstays)

section Requests

variable [Env]

/-- Whatever its format, the administrator's request removes account `i` and
leaves nothing of it. The page it then renders exists for JavaScript only. -/
def Db.Deletable (db : Db) (admin : User) (i : Id) : Prop :=
  ∀ format, ∃ db',
    (Request.action (.user (some admin.id) (.users (.destroy i format)))).eval db =
      (respondJs format "window.location.href = '/users';").eval db' ∧
    db'.users.find? i = none ∧ Cleared i db db'

theorem Db.deletable_iff {db : Db} {admin v : User}
    (ha : db.users.find? admin.id = some admin) (hadmin : admin.isAdmin = true)
    (hv : v ∈ db.users.rows) : db.Deletable admin v.id ↔ db.OneChat v.id := by
  have hfind : db.users.find? v.id = some v := db.users.find?_of_mem hv
  have haction : ∀ format,
      (Request.action (.user (some admin.id) (.users (.destroy v.id format)))).eval db =
        (UsersController.destroy admin v.id format).eval db := by
    intro format
    simp [Request.action, authenticateUser, ha, Route.action, UsersRoute.action]
  unfold Db.Deletable
  simp only [haction]
  cases h : db.destroyUser v.id with
  | error e =>
    -- the account has no chat, and the failed request left its row in place
    have hnone : ¬ db.OneChat v.id := by simp [Db.OneChat, Db.destroyUser_error h]
    refine iff_of_false (fun hdel => ?_) hnone
    obtain ⟨db', hsame, hgone, -⟩ := hdel .js
    have hdb : db = db' := by
      simpa [UsersController.destroy_eval, hadmin, hfind, h] using congrArg Prod.snd hsame
    rw [← hdb, hfind] at hgone
    cases hgone
  | ok db₁ =>
    obtain ⟨c, hchat, hchats⟩ := Db.destroyUser_chats h
    have hcleared : Cleared v.id db db₁ ↔ db.OneChat v.id := by
      rw [Db.cleared_destroyUser_iff h, hchats, ← Db.oneChat_iff hchat]
    have heval : ∀ format, (UsersController.destroy admin v.id format).eval db =
        (respondJs format "window.location.href = '/users';").eval db₁ := by
      intro format
      simp [UsersController.destroy_eval, hadmin, hfind, h]
    simp only [heval]
    rw [← hcleared]
    constructor
    · intro hdel
      obtain ⟨db', hsame, -, hclear⟩ := hdel .js
      have hdb : db₁ = db' := by
        simpa only [respondJs_eval_snd] using congrArg Prod.snd hsame
      rwa [hdb]
    · intro hclear format
      exact ⟨db₁, rfl, Db.destroyUser_gone h, hclear⟩

/-! ## Requests that add accounts -/

/-- `UsersController#create`, `UsersController#import` and sign-ups. -/
def Request.addsAccounts : Request → Bool
  | .user _ (.users (.create ..)) => true
  | .user _ (.users (.import ..)) => true
  | .open (.signUp ..) => true
  | _ => false

/-- Nothing of the list is stored: none of its emails is new and well
formed, or the first that is does not fit its column and ends the request. -/
def Db.AddsNone (db : Db) (emails : List String) : Prop :=
  ∀ e ∈ emails.find? db.accepts, db.adds e = false

instance (db : Db) (emails : List String) : Decidable (db.AddsNone emails) :=
  inferInstanceAs (Decidable (∀ e ∈ emails.find? db.accepts, db.adds e = false))

@[simp] theorem Db.addsNone_nil (db : Db) : db.AddsNone [] := nofun

theorem Db.addsNone_cons_of_known {db : Db} {e : String} (h : db.accepts e = false)
    (emails : List String) : db.AddsNone (e :: emails) ↔ db.AddsNone emails := by
  rw [Db.AddsNone, Db.AddsNone, List.find?_cons_of_neg (by simp [h])]

theorem Db.addsNone_cons_of_accepts {db : Db} {e : String} (h : db.accepts e = true)
    (emails : List String) : db.AddsNone (e :: emails) ↔ db.adds e = false := by
  rw [Db.AddsNone, List.find?_cons_of_pos h]
  simp

theorem Db.not_addsNone_cons {db : Db} {e : String} (h : db.adds e = true)
    (emails : List String) : ¬ db.AddsNone (e :: emails) := by
  have haccepts : db.accepts e = true := (Bool.and_eq_true_iff.mp h).1
  rw [Db.addsNone_cons_of_accepts haccepts, h]
  exact Bool.false_ne_true.symm

namespace UsersController

/-- An account created with this role gets a chat: the role is neither admin
nor staff and can be stored, as the chat is made after it. -/
def givesChat (role : Option String) : Bool :=
  roleHasChat role && fitsString (some (roleName role))

/-- The emails the rows of a sheet name. -/
def sheetEmails (sheet : Option (List (List Cell))) : List String :=
  ((sheet.getD []).drop 1).filterMap fun row => emailCell (row.head?.getD .null)

end UsersController

/-- Every account the request adds gets a chat: it is created with a role
that gives one, or there is none to add. -/
def Request.GivesChats (db : Db) : Request → Prop
  | .user session (.users (.create emails role _)) =>
      ∀ u ∈ session.bind db.users.find?, u.isAdmin = true →
        UsersController.givesChat role = true ∨ db.AddsNone ((emails.getD []).filterMap id)
  | .user session (.users (.import sheet _)) =>
      ∀ u ∈ session.bind db.users.find?, u.isAdmin = true →
        db.AddsNone (UsersController.sheetEmails sheet)
  | .open (.signUp email password confirmation) =>
      ¬ (passwordErrors password confirmation = [] ∧ db.adds email = true)
  | _ => True

instance (db : Db) (r : Request) : Decidable (r.GivesChats db) := by
  unfold Request.GivesChats
  split <;> infer_instance

/-- How a pass of one of the loops ends that names `email`: without one, or
with one that is known or malformed, nothing happens; one that is too long
ends the loop; any other gets its account, and the loop may end after it. -/
inductive Db.AddsOne (db : Db) (chat : Bool) :
    Option String → Except Failure Unit × Db → Prop where
  | blank : AddsOne db chat none (.ok (), db)
  | known {e : String} (h : db.accepts e = false) : AddsOne db chat (some e) (.ok (), db)
  | tooLong {e : String} {x : Failure} (haccepts : db.accepts e = true)
      (hadds : db.adds e = false) : AddsOne db chat (some e) (.error x, db)
  | added {e : String} (outcome : Except Failure Unit) (user : User) (h : db.adds e = true) :
      AddsOne db chat (some e) (outcome, db.created user chat)

/-- Both loops, whether they go through or end at a bad entry. -/
theorem Db.added_each {β : Type} {f : β → Action Unit} {email : β → Option String} {chat : Bool}
    (hone : ∀ b (db : Db), db.AddsOne chat (email b) ((f b).eval db)) (db : Db) (bs : List β) :
    db.Added (Action.eval (Prog.each bs f) db).2 chat (db.AddsNone (bs.filterMap email)) := by
  induction bs generalizing db with
  | nil => exact .none (by simp)
  | cons b bs ih =>
    rw [Prog.each_cons, List.filterMap_cons]
    have hb := hone b db
    generalize heval : (f b).eval db = x at hb
    generalize email b = e at hb ⊢
    cases hb with
    | blank =>
      rw [eval_bind_ok heval]
      exact ih db
    | known h =>
      rw [eval_bind_ok heval]
      exact (ih db).congr (Db.addsNone_cons_of_known h _).symm
    | tooLong haccepts hadds =>
      rw [eval_bind_error heval]
      exact .none ((Db.addsNone_cons_of_accepts haccepts _).mpr hadds)
    | added outcome user h =>
      cases outcome with
      | ok =>
        rw [eval_bind_ok heval]
        exact (ih _).cons (Db.not_addsNone_cons h _)
      | error =>
        rw [eval_bind_error heval]
        exact Db.Added.cons (.none trivial) (Db.not_addsNone_cons h _)

namespace UsersController

theorem createOne_addsOne (role : Option String) (password : String) (email : Option String)
    (db : Db) : db.AddsOne (givesChat role) email ((createOne role password email).eval db) := by
  cases email with
  | none => exact .blank
  | some e =>
    rw [createOne_eval]
    split
    · next hadds =>
      split
      · next hfits =>
        have hchat : givesChat role = roleHasChat role := by simp [givesChat, hfits]
        rw [← hchat]
        exact .added _ _ hadds
      · next hfits =>
        -- the account is stored, and the chat was to come after the role
        have hchat : givesChat role = false := by simp [givesChat, hfits]
        rw [← hchat]
        exact .added _ _ hadds
    · next hadds =>
      split
      · next haccepts => exact .tooLong haccepts (Bool.eq_false_of_not_eq_true hadds)
      · next haccepts => exact .known (Bool.eq_false_of_not_eq_true haccepts)

theorem importRow_addsOne (password : String) (row : List Cell) (db : Db) :
    db.AddsOne false (emailCell (row.head?.getD .null)) ((importRow password row).eval db) := by
  rw [importRow_eval]
  cases emailCell (row.head?.getD .null) with
  | none => exact .blank
  | some e =>
    dsimp only
    split
    · next hadds =>
      cases importRole (row.getLast?.getD .null) with
      | ok role => exact .added _ _ hadds
      | error err => exact .added _ _ hadds
    · next hadds =>
      split
      · next haccepts => exact .tooLong haccepts (Bool.eq_false_of_not_eq_true hadds)
      · next haccepts => exact .known (Bool.eq_false_of_not_eq_true haccepts)

theorem added_create (db : Db) (u : User) (emails : Option (List (Option String)))
    (role : Option String) (password : String) :
    db.Added ((UsersController.create u emails role password).eval db).2 (givesChat role)
      (u.isAdmin = true → db.AddsNone ((emails.getD []).filterMap id)) := by
  rw [eval_create]
  cases u.isAdmin with
  | false => exact .none (by simp)
  | true =>
    exact (Db.added_each (createOne_addsOne role password) db (emails.getD [])).congr (by simp)

theorem added_import (db : Db) (u : User) (sheet : Option (List (List Cell)))
    (password : String) :
    db.Added ((UsersController.import u sheet password).eval db).2 false
      (u.isAdmin = true → db.AddsNone (sheetEmails sheet)) := by
  rw [eval_import]
  cases u.isAdmin with
  | false => exact .none (by simp)
  | true =>
    exact (Db.added_each (importRow_addsOne password) db ((sheet.getD []).drop 1)).congr
      (by simp [sheetEmails])

end UsersController

theorem Devise.added_signUp (db : Db) (email password : String) (confirmation : Option String) :
    db.Added ((Devise.signUp email password confirmation).eval db).2 false
      (¬ (passwordErrors password confirmation = [] ∧ db.adds email = true)) := by
  rw [Devise.signUp_eval]
  by_cases h : passwordErrors password confirmation = [] ∧ db.adds email = true
  · rw [if_pos h]
    exact Db.Added.cons (.none trivial) (not_not_intro h)
  · rw [if_neg h]
    exact .none h

/-- What a request that adds accounts does to the database. -/
theorem step_added (db : Db) {r : Request} (hr : r.addsAccounts = true) :
    ∃ chat quiet, db.Added (step db r) chat quiet ∧ (r.GivesChats db ↔ chat = true ∨ quiet) := by
  cases r with
  | «open» route =>
    cases route with
    | signUp email password confirmation =>
      exact ⟨false, _, Devise.added_signUp db email password confirmation,
        by simp [Request.GivesChats]⟩
    | _ => cases hr
  | user session route =>
    cases route with
    | users route =>
      cases hsession : session.bind db.users.find? with
      | none =>
        refine ⟨true, True, ?_, ?_⟩
        · rw [step_unauthenticated hsession]
          exact .none trivial
        · cases route <;> simp [Request.GivesChats, hsession]
      | some u =>
        obtain ⟨i, rfl, hu⟩ := Option.bind_eq_some_iff.mp hsession
        rw [step_user hu]
        cases route with
        | create emails role password =>
          refine ⟨_, _, UsersController.added_create db u emails role password, ?_⟩
          simp only [Request.GivesChats, hsession, Option.mem_some_iff, forall_eq']
          constructor
          · intro h
            by_cases hchat : UsersController.givesChat role = true
            · exact .inl hchat
            · exact .inr fun hadmin => (h hadmin).resolve_left hchat
          · rintro (hchat | hquiet) hadmin
            · exact .inl hchat
            · exact .inr (hquiet hadmin)
        | «import» sheet password =>
          refine ⟨_, _, UsersController.added_import db u sheet password, ?_⟩
          simp [Request.GivesChats, hsession]
        | _ => cases hr
    | _ => cases hr

/-! ## Runs -/

theorem runFrom_allOneChat_iff {db : Db} {rs : List Request}
    (hrs : ∀ r ∈ rs, r.addsAccounts = true) (hs : db.SendersKnown) :
    (runFrom db rs).AllOneChat ↔ db.AllOneChat ∧ Along step Request.GivesChats db rs := by
  induction rs generalizing db with
  | nil => simp [runFrom]
  | cons r rs ih =>
    obtain ⟨chat, quiet, hadded, hgives⟩ := step_added db (hrs r List.mem_cons_self)
    have hrest := ih (fun r' hr' => hrs r' (List.mem_cons_of_mem _ hr')) (hadded.sendersKnown hs)
    change (runFrom (step db r) rs).AllOneChat ↔ _
    rw [hrest, hadded.allOneChat_iff hs, Along.along_cons, hgives, and_assoc]

/-- **When every account can be removed.** After any run of account
creations, imports and sign-ups, an administrator can remove each account
without a trace exactly when every account had one chat before the run and
every request of the run gave a chat to each account it added. -/
theorem accounts_deletable_iff (db : Db) (rs : List Request)
    (hrs : ∀ r ∈ rs, r.addsAccounts = true) (hs : db.SendersKnown) (admin : User)
    (ha : (runFrom db rs).users.find? admin.id = some admin) (hadmin : admin.isAdmin = true) :
    (∀ v ∈ (runFrom db rs).users.rows, (runFrom db rs).Deletable admin v.id) ↔
      (∀ v ∈ db.users.rows, db.OneChat v.id) ∧ Along step Request.GivesChats db rs := by
  have hdel : (∀ v ∈ (runFrom db rs).users.rows, (runFrom db rs).Deletable admin v.id) ↔
      (runFrom db rs).AllOneChat := by
    constructor
    · intro h v hv
      exact (Db.deletable_iff ha hadmin hv).mp (h v hv)
    · intro h v hv
      exact (Db.deletable_iff ha hadmin hv).mpr (h v hv)
  rw [hdel]
  exact runFrom_allOneChat_iff hrs hs

end Requests

/-- An administrator with a chat of their own. -/
def chattyAdmin : Db where
  users := Table.empty.insertAll [{ email := "admin@pet.vn", roles := ["admin"] }]
  chats := Table.empty.insertAll [{ senderId := some 1 }]

/-- A customer and an account without a role, both with a chat. -/
def newCustomers : List Request :=
  [.user (some 1) (.users (.create (some [some "ann@pet.vn"]) (some "User") "secret1")),
    .user (some 1) (.users (.create (some [some "bob@pet.vn"]) none "secret2"))]

/-- A member of staff. -/
def newStaff : List Request :=
  [.user (some 1) (.users (.create (some [some "sam@pet.vn"]) (some "Staff") "secret1"))]

section Example

attribute [local instance] Env.caseInsensitive

theorem accounts_deletable_newCustomers :
    (runFrom chattyAdmin newCustomers).users.rows.length = 3 ∧
    ∀ v ∈ (runFrom chattyAdmin newCustomers).users.rows,
      (runFrom chattyAdmin newCustomers).Deletable
        { id := 1, email := "admin@pet.vn", roles := ["admin"] } v.id :=
  ⟨by decide, (accounts_deletable_iff chattyAdmin newCustomers (by decide) (by decide)
    { id := 1, email := "admin@pet.vn", roles := ["admin"] } (by decide) (by decide)).mpr
      (by decide)⟩

/-- A member of staff is added and cannot be removed again: the request
fails and the account stays. -/
theorem staff_account_stays :
    (Action.eval (Request.action (.user (some 1) (.users (.destroy 2 .turboStream))))
      (runFrom chattyAdmin newStaff)).1 = .error .noMethodError ∧
    ((step (runFrom chattyAdmin newStaff)
      (.user (some 1) (.users (.destroy 2 .turboStream)))).users.find? 2).isSome = true ∧
    ¬ (runFrom chattyAdmin newStaff).Deletable
      { id := 1, email := "admin@pet.vn", roles := ["admin"] } 2 := by
  refine ⟨by decide, by decide, ?_⟩
  intro hdel
  have hone := (Db.deletable_iff (by decide) (by decide)
    (v := { id := 2, email := "sam@pet.vn", password := "secret1", roles := ["staff"] })
    (by decide)).mp hdel
  exact absurd hone (by decide)

end Example

end PetParadise
