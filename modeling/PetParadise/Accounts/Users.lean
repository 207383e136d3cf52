/-
PetParadise.Accounts.Users — `UsersController`, `ProfileController`,
`WelcomeController#edit_password` and Devise's account pages.

Devise normalises an email (lower case, surrounding blanks removed) both
when it looks a user up and before it saves one, requires `email_regexp`
and a password of 6 to 128 characters, and stores a new account without
any role. A lookup goes by the collation of the database. The uniqueness
that Devise validates does not: it compares byte for byte, and emails that
only the collation identifies are left to the unique index. The generated
passwords of the bulk actions and the mails they send are inputs and
outputs no later action reads.
-/
import PetParadise.Hotel.Rooms

namespace PetParadise

open Store

variable [Env]

/-! ## Devise -/

/-- `case_insensitive_keys` and `strip_whitespace_keys`. -/
def normalizeEmail (email : String) : String := strip (downcase email)

/-- `/\A[^@\s]+@[^@\s]+\z/`: one `@` with something on either side, and no
blank. -/
def emailRegexp (email : String) : Bool :=
  let cs := email.toList
  !cs.any isSpaceChar && cs.count '@' == 1 && cs.head? != some '@' && cs.getLast? != some '@'

/-- `/\A\d{10,12}\z/`, blank allowed. -/
def validPhoneNumber : Option String → Bool
  | none => true
  | some s => blank s || (s.toList.all Char.isDigit && 10 ≤ s.length && s.length ≤ 12)

/-- Devise's messages for a new password, in the order of its validations;
`password_length = 6..128`. -/
def passwordErrors (password : String) (confirmation : Option String) : List String :=
  (if blank password then ["Password can't be blank"] else []) ++
  (if confirmation.any (· != password) then ["Password confirmation doesn't match Password"]
    else []) ++
  (if blank password then []
    else if password.length < 6 then ["Password is too short (minimum is 6 characters)"]
    else if 128 < password.length then ["Password is too long (maximum is 128 characters)"]
    else [])

/-- `Array#to_sentence`. -/
def toSentence : List String → String
  | [] => ""
  | [a] => a
  | [a, b] => a ++ " and " ++ b
  | as => String.intercalate ", " as.dropLast ++ ", and " ++ (as.getLast?.getD "")

/-- `User.find_for_authentication(email: email)`. -/
def Db.findForAuthentication (db : Db) (email : String) : Option User :=
  db.users.rows.find? (fun u => sqlEq u.email (normalizeEmail email))

namespace UsersController

open PetParadise.Action

def index (u : User) : Action Response := do
  authorize u .user
  let users ← select .account (fun db => db.users.rows.filter (·.id != u.id))
  return .usersIndex users

def new (u : User) : Action Response := do
  authorize u .user
  return .page

/-- `User.new(email: …).save`: the id of the new account, or nothing when
the email is taken, byte for byte, or malformed. -/
def save (email password : String) : Action (Option Id) := do
  let taken ← select .account (fun db => db.users.rows.any (·.email == normalizeEmail email))
  if !taken && emailRegexp (normalizeEmail email) then
    .stmt (.insertUser (normalizeEmail email) password) (fun db => .ret (some db.users.next))
  else pure none

/-- `params[:role]&.downcase`; rolify names the role of `nil` with the
empty text. -/
def roleName (role : Option String) : String := (role.map downcase).getD ""

/-- One pass of the loop of `create`. -/
def createOne (role : Option String) (password : String) (email : Option String) :
    Action Unit :=
  match email with
  -- No row has a NULL email, and a user without one is not saved.
  | none => pure ()
  | some email => do
      let checkUser ← select .account (fun db => db.findForAuthentication email)
      if checkUser.isSome then pure ()
      else
        let saved ← save email password
        match saved with
        | none => pure ()
        | some id =>
            Prog.perform (.addRole id (roleName role))
            if role.map downcase != some "admin" && role.map downcase != some "staff" then
              Prog.perform (.insertChat { senderId := some id })

/-- `create`. Without a `repeater-group` the chain ends in `nil.each`. -/
def create (u : User) (emails : Option (List (Option String))) (role : Option String)
    (password : String) : Action Response := do
  authorize u .user
  let emails ← Prog.orRaise emails .noMethodError
  Prog.each emails (createOne role password)
  return redirectNotice "/users" "Create user successfully!"

/-- The email cell of a sheet row: only a text can have the form of an
email. -/
def emailCell : Cell → Option String
  | .text s => some s
  | _ => none

/-- The role argument of `import`: the list holds texts and is asked for a
symbol, so the answer is always "user"; only a text has a `downcase`. -/
def importRole : Cell → Except Failure String
  | .num _ => .error .noMethodError
  | .other .. => .error .noMethodError
  | _ => .ok "user"

/-- One data row of `import`. -/
def importRow (password : String) (row : List Cell) : Action Unit :=
  match emailCell (row.head?.getD .null) with
  | none => pure ()
  | some email => do
      let checkUser ← select .account (fun db => db.findForAuthentication email)
      if checkUser.isSome then pure ()
      else
        let saved ← save email password
        match saved with
        | none => pure ()
        | some id =>
            let role ← Prog.ofExcept (importRole (row.getLast?.getD .null))
            Prog.perform (.addRole id role)

/-- `import`, without its `rescue`. -/
def «import» (u : User) (sheet : Option (List (List Cell))) (password : String) :
    Action Response := do
  authorize u .user
  let rows ← Prog.orRaise sheet .noMethodError
  Prog.each (rows.drop 1) (importRow password)
  return redirectNotice "/users" "Excel file imported successfully."

def destroy (u : User) (id : Id) (format : Format) : Action Response := do
  authorize u .user
  let found ← select .account (fun db => db.users.find? id)
  let user ← Prog.orRaise found .noMethodError
  Prog.perform (.destroyUser user.id)
  respondJs format "window.location.href = '/users';"

end UsersController

namespace ProfileController

open PetParadise.Action

/-- `update`: the row is looked up by the `id` the client sends. -/
def update (id : Id) (p : ProfileParams) : Action Response := do
  let found ← select .account (fun db => db.users.find? id)
  let user ← Prog.orRaise found .noMethodError
  if validPhoneNumber (p.phoneNumber.getD user.phoneNumber) then
    Prog.perform (.updateProfile user.id p)
    return redirectNotice "/" "Update profile successfully!"
  else return redirectNotice "/profile" "Please enter a valid phone number"

end ProfileController

namespace WelcomeController

open PetParadise.Action

/-- `edit_password`. -/
def editPassword (u : User) (password : String) (confirmation : Option String) :
    Action Response :=
  match passwordErrors password confirmation with
  | [] => do
      Prog.perform (.updatePassword u.id password)
      return redirectNotice "/shop" "Change password successfully!"
  | errors => return redirectNotice "/shop" (toSentence errors)

end WelcomeController

namespace Devise

open PetParadise.Action

/-- `POST /auth/register`. -/
def signUp (email password : String) (confirmation : Option String) : Action Response := do
  if passwordErrors password confirmation = [] then
    let saved ← UsersController.save email password
    return if saved.isSome then .redirect "/" none else .invalid
  else return .invalid

/-- `PUT /auth/register`: a new email or password, against the current
password. A new email is pending until it is confirmed. -/
def updateAccount (u : User) (current password : String) (confirmation : Option String) :
    Action Response := do
  if current == u.password && passwordErrors password confirmation = [] then
    Prog.perform (.updatePassword u.id password)
    return .redirect "/" none
  else return .invalid

/-- `DELETE /auth/register`. -/
def cancelAccount (u : User) : Action Response := do
  Prog.perform (.destroyUser u.id)
  return .redirect "/" none

/-- `GET /auth/verification`: the holder of the mailed token confirms the
pending email of an account, which is validated again. -/
def confirm (id : Id) (email : String) : Action Response := do
  let found ← select .account (fun db => db.users.find? id)
  match found with
  | none => return .invalid
  | some user =>
      let taken ← select .account (fun db =>
        db.users.rows.any (fun v => v.id != user.id && v.email == normalizeEmail email))
      if taken then return .invalid
      else
        Prog.perform (.updateEmail user.id (normalizeEmail email))
        return .redirect "/" none

/-- `PUT /auth/secret`: the holder of the mailed token sets a password. -/
def resetPassword (id : Id) (password : String) (confirmation : Option String) :
    Action Response := do
  let found ← select .account (fun db => db.users.find? id)
  match found with
  | none => return .invalid
  | some user =>
      if passwordErrors password confirmation = [] then
        Prog.perform (.updatePassword user.id password)
        return .redirect "/" none
      else return .invalid

end Devise

end PetParadise
