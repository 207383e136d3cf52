/-
PetParadise.Accounts.UsersTheorems — what the account pages do to the
database.

Every way to add an account comes down to one step, `Db.created`: a user
is stored and, on one of the paths, a chat of theirs. The lemmas of this
file say for each action when that step happens (`Db.adds`, the check the
source makes before it saves) and with which roles; removing an account is
`destroy_eval`. No later proof unfolds these actions again.
-/
import PetParadise.Accounts.Users
import PetParadise.Chat.Windows
import PetParadise.Db.StatementsTheorems

namespace PetParadise

open Store PetParadise.Action

/-- The administrator's permission. -/
theorem Ability.can_user (u : User) : Ability.can u .user = u.isAdmin := by
  cases h : u.isAdmin with
  | false => exact (Ability.can_room_or_user h).2
  | true =>
    have hrole : u.hasRole "admin" = true := h
    simp [Ability.can, Ability.rules, hrole, Rule.verdict]

/-! ## One new account -/

/-- The database after an account was stored, with or without a chat. -/
def Db.created (db : Db) (user : User) (chat : Bool) : Db :=
  { db with
    users := db.users.insert user
    chats := if chat then db.chats.insert { senderId := some db.users.next } else db.chats }

/-- Rewriting the row that was just stored. -/
theorem Store.Table.insert_modify_next {α : Type} [Row α] (t : Table α) (a b : α) {f : α → α}
    (hf : ∀ a, Row.id (f a) = Row.id a) (hb : f (Row.withId t.next a) = Row.withId t.next b) :
    (t.insert a).modify (fun r => Row.id r == t.next) f hf = t.insert b := by
  apply Table.ext
  · have hold : ∀ r ∈ t.rows, (if (Row.id r == t.next) = true then f r else r) = r := by
      intro r hr
      have hne : Row.id r ≠ t.next := Nat.ne_of_lt (t.fresh r hr)
      simp [hne]
    rw [Table.rows_modify, Table.rows_insert, Table.rows_insert, List.map_append,
      List.map_congr_left hold]
    simp [Row.id_withId, hb]
  · rfl

theorem UsersController.importRole_eq_user {cell : Cell} {role : String}
    (h : importRole cell = .ok role) : role = "user" := by
  cases cell <;> cases h <;> rfl

section Devise

variable [Env]

/-- Nobody has this email, to the database, and it has the form of one. -/
def Db.accepts (db : Db) (email : String) : Bool :=
  (db.findForAuthentication email).isNone && emailRegexp (normalizeEmail email)

/-- Whether saving a new user with this email succeeds: it has to fit its
column as well. -/
def Db.adds (db : Db) (email : String) : Bool :=
  db.accepts email && fitsString (some (normalizeEmail email))

/-- The unique index has no row of a new id, so it refuses what a lookup
finds. -/
theorem Db.emailTaken_next (db : Db) (email : String) :
    db.emailTaken db.users.next (normalizeEmail email) =
      (db.findForAuthentication email).isSome := by
  rw [Db.emailTaken, Db.findForAuthentication, List.isSome_find?, Bool.eq_iff_iff,
    List.any_eq_true, List.any_eq_true]
  refine exists_congr fun u => and_congr_right fun hu => ?_
  have hid : (u.id != db.users.next) = true := bne_iff_ne.mpr (Nat.ne_of_lt (db.users.fresh u hu))
  rw [hid, Bool.true_and]

/-- An email that somebody has byte for byte is found by a lookup. -/
theorem Db.isSome_findForAuthentication {db : Db} {email : String}
    (h : db.users.rows.any (·.email == normalizeEmail email) = true) :
    (db.findForAuthentication email).isSome = true := by
  rw [Db.findForAuthentication, List.isSome_find?, List.any_eq_true]
  obtain ⟨u, hu, heq⟩ := List.any_eq_true.mp h
  exact ⟨u, hu, beq_iff_eq.mp heq ▸ sqlEq_rfl _⟩

theorem exec_insertUser (db : Db) (email password : String) :
    exec (.insertUser (normalizeEmail email) password) db =
      if fitsString (some (normalizeEmail email)) then
        if (db.findForAuthentication email).isSome then .error .recordNotUnique
        else .ok (db.created { email := normalizeEmail email, password := password } false)
      else .error .valueTooLong := by
  rw [← db.emailTaken_next]
  rfl

/-- Giving the account that was just stored its first role. -/
theorem exec_addRole_created (db : Db) (email password role : String) :
    exec (.addRole db.users.next role)
        (db.created { email := email, password := password } false) =
      if fitsString (some role) then
        .ok (db.created { email := email, password := password, roles := [role] } false)
      else .error .valueTooLong := by
  have husers := db.users.insert_modify_next { email := email, password := password }
    { email := email, password := password, roles := [role] } (f := (·.addRole role))
    (·.addRole_id role) (by simp [User.addRole, User.hasRole, Row.withId])
  simp only [exec, Db.created]
  split
  · exact congrArg (fun t => Except.ok { db with users := t }) husers
  · rfl

namespace UsersController

/-- Saving an email that a lookup has not found: it is stored, or too
long, or malformed. -/
theorem save_eval_of_unknown {db : Db} {email : String}
    (h : (db.findForAuthentication email).isSome = false) (password : String) :
    (save email password).eval db =
      if db.adds email then
        (.ok (some db.users.next),
          db.created { email := normalizeEmail email, password := password } false)
      else if db.accepts email then (.error .valueTooLong, db)
      else (.ok none, db) := by
  have hnone : (db.findForAuthentication email).isNone = true := by simpa using h
  have hany : db.users.rows.any (·.email == normalizeEmail email) = false :=
    Bool.eq_false_iff.mpr fun hany => Bool.false_ne_true
      (h.symm.trans (Db.isSome_findForAuthentication hany))
  have hexec := exec_insertUser db email password
  rw [h] at hexec
  unfold save
  simp only [eval_select_bind, hany, Db.adds, Db.accepts, hnone, Bool.not_false, Bool.true_and]
  cases emailRegexp (normalizeEmail email) with
  | false => rfl
  | true =>
    cases hfits : fitsString (some (normalizeEmail email)) with
    | false => exact Prog.run_stmt_error exec (hexec.trans (by rw [hfits]; rfl)) _
    | true => exact Prog.run_stmt_ok exec (hexec.trans (by rw [hfits]; rfl)) _

/-- What `save` stores when there was no lookup before it: an email that
only the unique index knows raises as well. -/
theorem save_eval_snd (db : Db) (email password : String) :
    ((save email password).eval db).2 =
      if db.adds email then
        db.created { email := normalizeEmail email, password := password } false
      else db := by
  cases h : (db.findForAuthentication email).isSome with
  | false =>
    rw [save_eval_of_unknown h]
    split
    · rfl
    · split <;> rfl
  | true =>
    have hadds : db.adds email = false := by
      rw [Db.adds, Db.accepts, ← Option.not_isSome, h]
      rfl
    have hexec := exec_insertUser db email password
    rw [h, if_pos rfl] at hexec
    unfold save
    rw [eval_select_bind, hadds]
    split
    · split at hexec
      · exact congrArg Prod.snd (Prog.run_stmt_error exec hexec _)
      · exact congrArg Prod.snd (Prog.run_stmt_error exec hexec _)
    · rfl

/-- The part that `create` and `import` share: an email that is looked up
before it is saved. -/
theorem eval_saveUnknown (db : Db) (email password : String) (f : Id → Action Unit) :
    Action.eval (select .account (fun db => db.findForAuthentication email) >>= fun checkUser =>
      if checkUser.isSome then pure ()
      else save email password >>= fun saved =>
        match saved with
        | none => pure ()
        | some id => f id) db =
      if db.adds email then
        (f db.users.next).eval
          (db.created { email := normalizeEmail email, password := password } false)
      else if db.accepts email then (.error .valueTooLong, db)
      else (.ok (), db) := by
  rw [eval_select_bind]
  cases h : (db.findForAuthentication email).isSome with
  | true =>
    have haccepts : db.accepts email = false := by
      rw [Db.accepts, ← Option.not_isSome, h]
      rfl
    simp [Db.adds, haccepts]
  | false =>
    have hsave := save_eval_of_unknown h password
    rw [if_neg Bool.false_ne_true]
    split <;> rename_i hadds
    · rw [if_pos hadds] at hsave
      rw [eval_bind_ok hsave]
    · rw [if_neg hadds] at hsave
      split <;> rename_i haccepts
      · rw [if_pos haccepts] at hsave
        rw [eval_bind_error hsave]
      · rw [if_neg haccepts] at hsave
        rw [eval_bind_ok hsave]
        rfl

/-- The role that comes without a chat. -/
def roleHasChat (role : Option String) : Bool :=
  role.map downcase != some "admin" && role.map downcase != some "staff"

/-- One email of `create`. A role that is too long ends the loop after the
account was stored. -/
theorem createOne_eval (db : Db) (role : Option String) (password email : String) :
    (createOne role password (some email)).eval db =
      if db.adds email then
        if fitsString (some (roleName role)) then
          (.ok (), db.created
            { email := normalizeEmail email, password := password, roles := [roleName role] }
            (roleHasChat role))
        else
          (.error .valueTooLong,
            db.created { email := normalizeEmail email, password := password } false)
      else if db.accepts email then (.error .valueTooLong, db)
      else (.ok (), db) := by
  refine (eval_saveUnknown db email password _).trans ?_
  have hrole := exec_addRole_created db (normalizeEmail email) password (roleName role)
  by_cases hfits : fitsString (some (roleName role)) = true
  · rw [if_pos hfits] at hrole ⊢
    rw [eval_perform_ok hrole]
    congr 1
    cases hc : roleHasChat role with
    | false =>
      unfold roleHasChat at hc
      simp only [hc, Bool.false_eq_true, if_false]
      rfl
    | true =>
      unfold roleHasChat at hc
      simp only [hc, if_true]
      rfl
  · rw [if_neg hfits] at hrole ⊢
    rw [eval_perform_error hrole]

theorem createOne_eval_none (db : Db) (role : Option String) (password : String) :
    (createOne role password none).eval db = (.ok (), db) := rfl

/-- One row of `import`: a role that is a number ends the import after the
account was stored. -/
theorem importRow_eval (db : Db) (password : String) (row : List Cell) :
    (importRow password row).eval db =
      match emailCell (row.head?.getD .null) with
      | none => (.ok (), db)
      | some email =>
          if db.adds email then
            match importRole (row.getLast?.getD .null) with
            | .error e =>
                (.error e, db.created { email := normalizeEmail email, password := password } false)
            | .ok role =>
                (.ok (), db.created
                  { email := normalizeEmail email, password := password, roles := [role] } false)
          else if db.accepts email then (.error .valueTooLong, db)
          else (.ok (), db) := by
  unfold importRow
  cases emailCell (row.head?.getD .null) with
  | none => rfl
  | some email =>
    refine (eval_saveUnknown db email password _).trans ?_
    cases hrole : importRole (row.getLast?.getD .null) with
    | error e => rfl
    | ok role =>
      have hadd := exec_addRole_created db (normalizeEmail email) password role
      rw [importRole_eq_user hrole, if_pos (by decide)] at hadd
      dsimp only
      congr 1
      exact Prog.run_stmt_ok exec (importRole_eq_user hrole ▸ hadd) _

end UsersController

theorem Devise.signUp_eval (db : Db) (email password : String) (confirmation : Option String) :
    ((Devise.signUp email password confirmation).eval db).2 =
      if passwordErrors password confirmation = [] ∧ db.adds email = true then
        db.created { email := normalizeEmail email, password := password } false
      else db := by
  unfold Devise.signUp
  by_cases hpw : passwordErrors password confirmation = []
  · simp only [hpw, if_true, true_and]
    rw [← UsersController.save_eval_snd]
    cases h : (UsersController.save email password).eval db with
    | mk outcome db' =>
      cases outcome with
      | ok saved => rw [eval_bind_ok h]; rfl
      | error e => rw [eval_bind_error h]
  · simp [hpw]

end Devise

/-! ## Removing an account -/

theorem UsersController.destroy_eval [Env] (db : Db) (u : User) (i : Id) (format : Format) :
    (UsersController.destroy u i format).eval db =
      if u.isAdmin then
        match db.users.find? i with
        | none => (.error .noMethodError, db)
        | some v =>
            match db.destroyUser v.id with
            | .ok db' => (respondJs format "window.location.href = '/users';").eval db'
            | .error e => (.error e, db)
      else (.error .accessDenied, db) := by
  unfold UsersController.destroy authorize
  rw [Ability.can_user]
  cases u.isAdmin with
  | false => rfl
  | true =>
    simp only [if_true, Prog.pure_eq, Prog.ret_bind, eval_select_bind]
    cases db.users.find? i with
    | none => rfl
    | some v =>
      simp only [Prog.orRaise_some, Prog.ret_bind]
      cases h : db.destroyUser v.id with
      | ok db' => rw [eval_perform_ok (w := .destroyUser v.id) h]
      | error e => rw [eval_perform_error (w := .destroyUser v.id) h]

theorem Devise.cancelAccount_eval [Env] (db : Db) (u : User) :
    ((Devise.cancelAccount u).eval db).2 =
      match db.destroyUser u.id with
      | .ok db' => db'
      | .error _ => db := by
  unfold Devise.cancelAccount
  cases h : db.destroyUser u.id with
  | ok db' => rw [eval_perform_ok (w := .destroyUser u.id) h]; rfl
  | error e => rw [eval_perform_error (w := .destroyUser u.id) h]

/-- A shop with its first administrator. -/
def firstAdmin : Db where
  users := Table.empty.insertAll [{ email := "admin@pet.vn", roles := ["admin"] }]

end PetParadise
