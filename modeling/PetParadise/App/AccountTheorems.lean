/-
PetParadise.App.AccountTheorems — adding accounts in two ways.

`UsersController#create` gives a new account the role it was asked for and,
unless that is admin or staff, a chat. `UsersController#import` was meant
to do the same row by row, but asks a list of texts for a symbol and so
always finds "user", and never creates a chat: on a row that adds an
account the two cannot agree.

An import only ever leads to `PlainImport`, the other way to
`GainsChatOrRole`, and the two exclude each other.
-/
import PetParadise.Accounts.UsersTheorems
import PetParadise.App.RoutesTheorems

namespace PetParadise

open Store PetParadise.Action

/-! ## What is compared -/

/-- The sheet with a header and one row per account. -/
def sheetOf (header : List Cell) (rows : List (String × String)) : Option (List (List Cell)) :=
  some (header :: rows.map fun row => [.text row.1, .text row.2])

/-- The same accounts, submitted one by one. -/
def createRequests (admin : Id) (password : String → String) (rows : List (String × String)) :
    List Request :=
  rows.map fun row =>
    .user (some admin) (.users (.create (some [some row.1]) (some row.2) (password row.1)))

/-- The accounts, their roles and the chats are the same; the generated
passwords may differ. -/
def SameAccounts (db db' : Db) : Prop :=
  db.users.rows.map (fun u => { u with password := "" }) =
    db'.users.rows.map (fun u => { u with password := "" }) ∧
  db.chats.rows = db'.chats.rows

instance (db db' : Db) : Decidable (SameAccounts db db') :=
  inferInstanceAs (Decidable (_ ∧ _))

theorem SameAccounts.refl (db : Db) : SameAccounts db db := ⟨rfl, rfl⟩

/-- What an import can only lead to: old chats, and new accounts that are
plain users. -/
structure PlainImport (db db' : Db) : Prop where
  chats : db'.chats = db.chats
  roles : ∀ v ∈ db'.users.rows, db.users.next ≤ v.id → v.roles = ["user"]
  next : db.users.next ≤ db'.users.next

theorem PlainImport.refl (db : Db) : PlainImport db db := by
  refine ⟨rfl, ?_, Nat.le_refl _⟩
  intro v hv hle
  exact absurd hle (Nat.not_le_of_lt (db.users.fresh v hv))

/-- What sets the other way apart for good: a new chat, or a new account
that is not a plain user. -/
def GainsChatOrRole (db db' : Db) : Prop :=
  db.chats.rows.length < db'.chats.rows.length ∨
    ∃ v ∈ db'.users.rows, db.users.next ≤ v.id ∧ v.roles ≠ ["user"]

theorem GainsChatOrRole.created {db db' : Db} (h : GainsChatOrRole db db') (user : User)
    (chat : Bool) : GainsChatOrRole db (db'.created user chat) := by
  rcases h with h | ⟨v, hv, hle, hroles⟩
  · left
    cases chat with
    | false => exact h
    | true =>
      have hlen : ((db'.created user true).chats.rows).length = db'.chats.rows.length + 1 := by
        simp [Db.created]
      omega
  · exact .inr ⟨v, List.mem_append_left _ hv, hle, hroles⟩

/-- The first account that `create` adds makes the difference. -/
theorem gains_of_adds (db : Db) (email role password : String) :
    GainsChatOrRole db
      (db.created { email := email, password := password,
                    roles := [UsersController.roleName (some role)] }
        (UsersController.roleHasChat (some role))) := by
  cases hchat : UsersController.roleHasChat (some role) with
  | true =>
    left
    simp [Db.created]
  | false =>
    right
    refine ⟨_, List.mem_append_right _ List.mem_cons_self, Nat.le_refl _, ?_⟩
    -- no chat means that the role is one of the two privileged ones
    simp only [UsersController.roleHasChat, Option.map_some, Bool.and_eq_false_iff,
      bne_eq_false_iff_eq, Option.some.injEq] at hchat
    change [downcase role] ≠ ["user"]
    rcases hchat with hrole | hrole <;> rw [hrole] <;> decide

/-- So does one that was left without a role. -/
theorem gains_without_role (db : Db) (email password : String) (chat : Bool) :
    GainsChatOrRole db (db.created { email := email, password := password } chat) :=
  .inr ⟨_, List.mem_append_right _ List.mem_cons_self, Nat.le_refl _, by simp [Row.withId]⟩

/-- Plain users without chats are not what `create` leaves. -/
theorem PlainImport.not_same {db dbI dbC : Db} (hI : PlainImport db dbI)
    (hC : GainsChatOrRole db dbC) : ¬ SameAccounts dbI dbC := by
  rintro ⟨husers, hchats⟩
  rcases hC with hlen | ⟨v, hv, hle, hroles⟩
  · rw [← hchats, hI.chats] at hlen
    exact Nat.lt_irrefl _ hlen
  · have hmem : { v with password := "" } ∈
        dbI.users.rows.map (fun u => { u with password := "" }) := by
      rw [husers]
      exact List.mem_map_of_mem hv
    obtain ⟨v', hv', heq⟩ := List.mem_map.mp hmem
    simp only [User.mk.injEq] at heq
    have hid : v'.id = v.id := heq.1
    have hsame : v'.roles = v.roles := by simp [heq]
    exact hroles (hsame ▸ hI.roles v' hv' (hid ▸ hle))

/-- A user who is stored stays who they are when others are added. -/
theorem Db.find?_created {db : Db} {i : Id} {u : User} (hu : db.users.find? i = some u)
    (user : User) (chat : Bool) : (db.created user chat).users.find? i = some u :=
  db.users.find?_insert_of_find? user hu

section Requests

variable [Env]

/-! ## The two loops -/

theorem UsersController.eval_create (db : Db) (u : User) (emails : Option (List (Option String)))
    (role : Option String) (password : String) :
    ((UsersController.create u emails role password).eval db).2 =
      if u.isAdmin then
        (Action.eval (Prog.each (emails.getD []) (createOne role password)) db).2
      else db := by
  unfold UsersController.create authorize
  rw [Ability.can_user]
  cases u.isAdmin with
  | false => rfl
  | true =>
    simp only [if_true, Prog.pure_eq, Prog.ret_bind]
    cases emails with
    | none => rfl
    | some emails =>
      simp only [Prog.orRaise_some, Prog.ret_bind, Option.getD_some]
      cases h : Action.eval (Prog.each emails (createOne role password)) db with
      | mk outcome db' =>
        cases outcome with
        | ok a => rw [eval_bind_ok h]; rfl
        | error e => rw [eval_bind_error h]

theorem UsersController.eval_import (db : Db) (u : User) (sheet : Option (List (List Cell)))
    (password : String) :
    ((UsersController.import u sheet password).eval db).2 =
      if u.isAdmin then
        (Action.eval (Prog.each ((sheet.getD []).drop 1) (importRow password)) db).2
      else db := by
  unfold UsersController.import authorize
  rw [Ability.can_user]
  cases u.isAdmin with
  | false => rfl
  | true =>
    simp only [if_true, Prog.pure_eq, Prog.ret_bind]
    cases sheet with
    | none => rfl
    | some rows =>
      simp only [Prog.orRaise_some, Prog.ret_bind, Option.getD_some]
      cases h : Action.eval (Prog.each (rows.drop 1) (importRow password)) db with
      | mk outcome db' =>
        cases outcome with
        | ok a => rw [eval_bind_ok h]; rfl
        | error e => rw [eval_bind_error h]

/-! ## Two ways of adding accounts -/

/-- What one row of texts stores, whether the import goes on or stops
there. -/
theorem UsersController.importRow_texts (db : Db) (password email role : String) :
    ((importRow password [.text email, .text role]).eval db).2 =
      if db.adds email then
        db.created { email := normalizeEmail email, password := password, roles := ["user"] } false
      else db := by
  rw [importRow_eval]
  simp only [List.head?_cons, Option.getD_some, emailCell, List.getLast?_cons_cons,
    List.getLast?_singleton, importRole]
  split
  · rfl
  · split <;> rfl

theorem step_import {db : Db} {u : User} (hu : db.users.find? u.id = some u)
    (header : List Cell) (rows : List (String × String)) (password : String) :
    step db (.user (some u.id) (.users (.import (sheetOf header rows) password))) =
      if u.isAdmin then
        (Action.eval (Prog.each rows fun row =>
          UsersController.importRow password [.text row.1, .text row.2]) db).2
      else db := by
  have hstep : step db (.user (some u.id) (.users (.import (sheetOf header rows) password))) =
      ((UsersController.import u (sheetOf header rows) password).eval db).2 := step_user hu _
  rw [hstep, UsersController.eval_import]
  simp only [sheetOf, Option.getD_some, List.drop_succ_cons, List.drop_zero, Prog.each_map]

theorem step_create_one {db : Db} {u : User} (hu : db.users.find? u.id = some u)
    (email role password : String) :
    step db (.user (some u.id) (.users (.create (some [some email]) (some role) password))) =
      if u.isAdmin then
        ((UsersController.createOne (some role) password (some email)).eval db).2
      else db := by
  have hstep : step db
      (.user (some u.id) (.users (.create (some [some email]) (some role) password))) =
      ((UsersController.create u (some [some email]) (some role) password).eval db).2 :=
    step_user hu _
  rw [hstep, UsersController.eval_create, Option.getD_some, Prog.each_cons]
  congr 1
  cases h : (UsersController.createOne (some role) password (some email)).eval db with
  | mk outcome db' =>
    cases outcome with
    | ok a => rw [eval_bind_ok h]; rfl
    | error e => rw [eval_bind_error h]

/-- A single email that adds no account changes nothing; otherwise the new
account has the role and the chat it comes with, or neither. -/
theorem UsersController.createOne_cases (db : Db) (role password email : String) :
    (db.adds email = false ∧
      ((createOne (some role) password (some email)).eval db).2 = db) ∨
    db.adds email = true ∧ ∃ user chat,
      ((createOne (some role) password (some email)).eval db).2 = db.created user chat ∧
      GainsChatOrRole db (db.created user chat) := by
  rw [createOne_eval]
  cases hadds : db.adds email with
  | false =>
    left
    refine ⟨rfl, ?_⟩
    rw [if_neg Bool.false_ne_true]
    split <;> rfl
  | true =>
    right
    refine ⟨rfl, ?_⟩
    rw [if_pos rfl]
    split
    · exact ⟨_, _, rfl, gains_of_adds db (normalizeEmail email) role password⟩
    · exact ⟨_, _, rfl, gains_without_role db (normalizeEmail email) password false⟩

/-! ### Nothing to add -/

theorem eval_importRows_none {db : Db} {rows : List (String × String)} (password : String)
    (h : ∀ row ∈ rows, db.adds row.1 = false) :
    (Action.eval (Prog.each rows fun row =>
      UsersController.importRow password [.text row.1, .text row.2]) db).2 = db := by
  refine eval_each_inv (I := (· = db)) ?_ rfl
  rintro row hrow _ rfl
  rw [UsersController.importRow_texts, h row hrow]
  rfl

theorem runFrom_createRequests_none {db : Db} {u : User} (hu : db.users.find? u.id = some u)
    {rows : List (String × String)} (password : String → String)
    (h : u.isAdmin = false ∨ ∀ row ∈ rows, db.adds row.1 = false) :
    runFrom db (createRequests u.id password rows) = db := by
  apply runFrom_eq_self
  intro r hr
  obtain ⟨row, hrow, rfl⟩ := List.mem_map.mp hr
  rw [step_create_one hu]
  rcases h with hno | hnone
  · rw [hno]
    rfl
  · rcases UsersController.createOne_cases db row.2 (password row.1) row.1 with
      ⟨-, hsame⟩ | ⟨hadds, -⟩
    · rw [hsame, ite_self]
    · rw [hnone row hrow] at hadds
      cases hadds

/-! ### Something to add -/

omit [Env] in
theorem PlainImport.created {db db' : Db} (h : PlainImport db db') (email password : String) :
    PlainImport db
      (db'.created { email := email, password := password, roles := ["user"] } false) := by
  refine ⟨h.chats, ?_, Nat.le_succ_of_le h.next⟩
  intro v hv hle
  rcases List.mem_append.mp hv with hv | hv
  · exact h.roles v hv hle
  · rw [List.mem_singleton] at hv
    rw [hv]
    rfl

theorem plainImport_importRows (db : Db) (password : String) (rows : List (String × String)) :
    PlainImport db (Action.eval (Prog.each rows fun row =>
      UsersController.importRow password [.text row.1, .text row.2]) db).2 := by
  refine eval_each_inv (fun row _ x hx => ?_) (PlainImport.refl db)
  rw [UsersController.importRow_texts]
  split
  · exact hx.created _ _
  · exact hx

theorem runFrom_createRequests_gains {db₀ db : Db} {u : User} (hu : db.users.find? u.id = some u)
    (hadmin : u.isAdmin = true) (rows : List (String × String)) (password : String → String)
    (h : GainsChatOrRole db₀ db) :
    GainsChatOrRole db₀ (runFrom db (createRequests u.id password rows)) := by
  induction rows generalizing db with
  | nil => exact h
  | cons row rows ih =>
    have hstep := step_create_one hu row.1 row.2 (password row.1)
    rw [hadmin, if_pos rfl] at hstep
    unfold runFrom createRequests at ih ⊢
    rw [List.map_cons, List.foldl_cons, hstep]
    rcases UsersController.createOne_cases db row.2 (password row.1) row.1 with
      ⟨-, hsame⟩ | ⟨-, user, chat, hcreated, -⟩
    · rw [hsame]
      exact ih hu h
    · rw [hcreated]
      exact ih (Db.find?_created hu _ _) (h.created _ _)

theorem runFrom_createRequests_adds {db : Db} {u : User} (hu : db.users.find? u.id = some u)
    (hadmin : u.isAdmin = true) {rows : List (String × String)} (password : String → String)
    (h : ∃ row ∈ rows, db.adds row.1 = true) :
    GainsChatOrRole db (runFrom db (createRequests u.id password rows)) := by
  induction rows with
  | nil => simp at h
  | cons row rows ih =>
    have hstep := step_create_one hu row.1 row.2 (password row.1)
    rw [hadmin, if_pos rfl] at hstep
    rcases UsersController.createOne_cases db row.2 (password row.1) row.1 with
      ⟨hadds, hsame⟩ | ⟨-, user, chat, hcreated, hgains⟩
    · have hrest := ih (by
        obtain ⟨row', hrow', hadds'⟩ := h
        rcases List.mem_cons.mp hrow' with rfl | hrow'
        · rw [hadds] at hadds'
          cases hadds'
        · exact ⟨row', hrow', hadds'⟩)
      unfold runFrom createRequests at hrest ⊢
      rw [List.map_cons, List.foldl_cons, hstep, hsame]
      exact hrest
    · have hrest := runFrom_createRequests_gains (Db.find?_created hu user chat) hadmin rows
        password hgains
      unfold runFrom createRequests at hrest ⊢
      rw [List.map_cons, List.foldl_cons, hstep, hcreated]
      exact hrest

/-- **When the two ways agree.** Importing a sheet and submitting its rows
one by one leave the same accounts, roles and chats exactly when there is
nothing to add: the sender is no administrator, or every email is taken
already, malformed or too long. -/
theorem import_agrees_with_create_iff (db : Db) (u : User) (header : List Cell)
    (rows : List (String × String)) (password : String) (passwords : String → String)
    (hu : db.users.find? u.id = some u) :
    SameAccounts
        (step db (.user (some u.id) (.users (.import (sheetOf header rows) password))))
        (runFrom db (createRequests u.id passwords rows)) ↔
      u.isAdmin = false ∨ ∀ row ∈ rows, db.adds row.1 = false := by
  rw [step_import hu]
  by_cases hnone : u.isAdmin = false ∨ ∀ row ∈ rows, db.adds row.1 = false
  · rw [runFrom_createRequests_none hu passwords hnone]
    refine iff_of_true ?_ hnone
    rcases hnone with hno | hnone
    · rw [hno]
      exact SameAccounts.refl db
    · rw [eval_importRows_none password hnone, ite_self]
      exact SameAccounts.refl db
  · refine iff_of_false ?_ hnone
    simp only [not_or, Bool.not_eq_false, not_forall] at hnone
    obtain ⟨hadmin, row, hrow, hadds⟩ := hnone
    rw [hadmin, if_pos rfl]
    have himport := plainImport_importRows db password rows
    have hcreate := runFrom_createRequests_adds hu hadmin passwords ⟨row, hrow, hadds⟩
    exact himport.not_same hcreate

end Requests

/-- A sheet whose only row names the administrator again. -/
theorem import_agrees_with_create_sameAdmin :
    SameAccounts
      (@step .caseInsensitive firstAdmin
        (.user (some 1) (.users (.import (sheetOf [] [("admin@pet.vn", "Staff")]) "secret1"))))
      (@runFrom .caseInsensitive firstAdmin
        (createRequests 1 (fun _ => "secret2") [("admin@pet.vn", "Staff")])) :=
  (@import_agrees_with_create_iff .caseInsensitive firstAdmin
    { id := 1, email := "admin@pet.vn", roles := ["admin"] } [] [("admin@pet.vn", "Staff")]
    "secret1" (fun _ => "secret2") (by decide)).mpr (.inr (by decide))

/-- A customer and a member of staff: the import stores two plain users
without a chat. -/
theorem import_differs_from_create :
    ¬ SameAccounts
      (@step .caseInsensitive firstAdmin (.user (some 1) (.users (.import
        (sheetOf [] [("ann@pet.vn", "user"), ("sam@pet.vn", "Staff")]) "secret1"))))
      (@runFrom .caseInsensitive firstAdmin (createRequests 1 (fun _ => "secret2")
        [("ann@pet.vn", "user"), ("sam@pet.vn", "Staff")])) ∧
    (@step .caseInsensitive firstAdmin (.user (some 1) (.users (.import
        (sheetOf [] [("ann@pet.vn", "user"), ("sam@pet.vn", "Staff")]) "secret1")))).users.rows.map
      User.roles = [["admin"], ["user"], ["user"]] ∧
    (@runFrom .caseInsensitive firstAdmin (createRequests 1 (fun _ => "secret2")
        [("ann@pet.vn", "user"), ("sam@pet.vn", "Staff")])).users.rows.map
      User.roles = [["admin"], ["user"], ["staff"]] ∧
    (@step .caseInsensitive firstAdmin (.user (some 1) (.users (.import
        (sheetOf [] [("ann@pet.vn", "user"), ("sam@pet.vn", "Staff")]) "secret1")))).chats.rows =
      [] ∧
    (@runFrom .caseInsensitive firstAdmin (createRequests 1 (fun _ => "secret2")
        [("ann@pet.vn", "user"), ("sam@pet.vn", "Staff")])).chats.rows.map Chat.senderId =
      [some 2] := by
  refine ⟨by decide, by decide, by decide, by decide, by decide⟩

end PetParadise
