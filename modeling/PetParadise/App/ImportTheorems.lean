/-
PetParadise.App.ImportTheorems — what an import that ends in the alert has
stored.

Both imports save the rows of a sheet one by one, and neither opens a
transaction: the `rescue` around the loop turns the first error into the
alert and undoes nothing. So the rows before the bad one stay, as an import
of only those rows would have stored them.

  §1 One row    — `roomOf` and `importOne`: what a row stores.
  §2 The alert  — `failed_of_alert`: which outcomes are shown as the alert.
  §3 The result — `failed_import_keeps_earlier_rows`, with a sheet of two
                  rooms that keeps the first.
-/
import PetParadise.App.AccountTheorems

namespace PetParadise

open Store PetParadise.Action

/-! ## §1 One row -/

namespace RoomsController

/-- `Room.new` on the cells of a row. -/
def newRoom (row : List Cell) : Except Failure Room := do
  let rType ← (cellAt row 0).toI
  let weight ← (cellAt row 1).toI
  let rType ← RType.ofCode rType
  let weight ← Weight.ofCode weight
  return { rType := some rType, weight := some weight, price := (cellAt row 2).toDecimal,
           quantity := (cellAt row 3).toInteger }

/-- The room a row stands for, or the error it raises: in `new`, or in
`save` when a number does not fit its column. -/
def roomOf (row : List Cell) : Except Failure Room := do
  let room ← newRoom row
  if inRange fitsDecimal room.price && inRange fitsInteger room.quantity then return room
  else throw .rangeError

theorem importRow_eq (row : List Cell) :
    importRow row =
      (Prog.ofExcept (newRoom row) >>= fun room => Prog.perform (.insertRoom room)) := by
  simp only [importRow, newRoom, Prog.ofExcept_bind, bind_assoc]
  rfl

theorem importRow_eval [Env] (db : Db) (row : List Cell) :
    (importRow row).eval db =
      match roomOf row with
      | .ok room => (.ok (), { db with rooms := db.rooms.insert room })
      | .error e => (.error e, db) := by
  rw [importRow_eq]
  cases hnew : newRoom row with
  | error e => rw [roomOf, hnew]; rfl
  | ok room =>
    have hroom : roomOf row =
        if inRange fitsDecimal room.price && inRange fitsInteger room.quantity then .ok room
        else .error .rangeError := by
      rw [roomOf, hnew]; rfl
    by_cases hfits : (inRange fitsDecimal room.price && inRange fitsInteger room.quantity) = true
    · rw [hroom, if_pos hfits]
      exact Prog.run_stmt_ok (w := Stmt.insertRoom room) exec (if_pos hfits) _
    · rw [hroom, if_neg hfits]
      exact Prog.run_stmt_error (w := Stmt.insertRoom room) exec (if_neg hfits) _

/-- Rows that are all imported are stored in their order. -/
theorem eval_rows_ok [Env] {rows : List (List Cell)} {db db' : Db}
    (h : Action.eval (Prog.each rows importRow) db = (.ok (), db')) :
    ∃ rooms, rows.map roomOf = rooms.map .ok ∧
      db' = { db with rooms := db.rooms.insertAll rooms } := by
  induction rows generalizing db with
  | nil => cases h; exact ⟨[], rfl, rfl⟩
  | cons row rows ih =>
    obtain ⟨_, db₁, hrow, hrows⟩ := eval_bind_inv h
    rw [importRow_eval] at hrow
    split at hrow
    · next room hroom =>
      cases hrow
      obtain ⟨rooms, hmap, rfl⟩ := ih hrows
      exact ⟨room :: rooms, by simp [hroom, hmap], rfl⟩
    · cases hrow

end RoomsController

section Devise

variable [Env]

namespace UsersController

/-- The error a row raises: its email is new and well formed and too long,
or its account is stored and its last cell has no `downcase`. -/
def rowError (db : Db) (row : List Cell) : Option Failure :=
  match emailCell (row.head?.getD .null) with
  | none => none
  | some email =>
      if db.adds email then
        match importRole (row.getLast?.getD .null) with
        | .error e => some e
        | .ok _ => none
      else if db.accepts email then some .valueTooLong
      else none

/-- What a row that raises nothing does. -/
def importOne (password : String) (db : Db) (row : List Cell) : Db :=
  match emailCell (row.head?.getD .null) with
  | none => db
  | some email =>
      if db.adds email then
        db.created { email := normalizeEmail email, password := password, roles := ["user"] } false
      else db

theorem importRow_ok {password : String} {row : List Cell} {db db' : Db}
    (h : (importRow password row).eval db = (.ok (), db')) :
    rowError db row = none ∧ db' = importOne password db row := by
  rw [importRow_eval] at h
  unfold rowError importOne
  cases hcell : emailCell (row.head?.getD .null) with
  | none => rw [hcell] at h; cases h; exact ⟨rfl, rfl⟩
  | some email =>
    rw [hcell] at h
    dsimp only at h ⊢
    cases hadds : db.adds email with
    | true =>
      rw [hadds, if_pos rfl] at h
      cases hrole : importRole (row.getLast?.getD .null) with
      | error e => rw [hrole] at h; cases h
      | ok role =>
        rw [hrole] at h
        cases h
        rw [importRole_eq_user hrole]
        exact ⟨rfl, rfl⟩
    | false =>
      rw [hadds, if_neg Bool.false_ne_true] at h
      cases haccepts : db.accepts email with
      | true => rw [haccepts, if_pos rfl] at h; cases h
      | false =>
        rw [haccepts, if_neg Bool.false_ne_true] at h
        cases h
        exact ⟨rfl, rfl⟩

/-- A row that raises has stored its account without a role, or, if its
email is too long, nothing. -/
theorem importRow_error {password : String} {row : List Cell} {db db' : Db} {e : Failure}
    (h : (importRow password row).eval db = (.error e, db')) :
    rowError db row = some e ∧ ∃ email, emailCell (row.head?.getD .null) = some email ∧
      (db.adds email = true ∧ importRole (row.getLast?.getD .null) = .error e ∧
          db' = db.created { email := normalizeEmail email, password := password } false ∨
        db.accepts email = true ∧ fitsString (some (normalizeEmail email)) = false ∧
          db' = db) := by
  rw [importRow_eval] at h
  unfold rowError
  cases hcell : emailCell (row.head?.getD .null) with
  | none => rw [hcell] at h; cases h
  | some email =>
    rw [hcell] at h
    dsimp only at h ⊢
    cases hadds : db.adds email with
    | true =>
      rw [hadds, if_pos rfl] at h
      cases hrole : importRole (row.getLast?.getD .null) with
      | ok role => rw [hrole] at h; cases h
      | error e' =>
        rw [hrole] at h
        cases h
        exact ⟨rfl, email, rfl, .inl ⟨hadds, rfl, rfl⟩⟩
    | false =>
      rw [hadds, if_neg Bool.false_ne_true] at h
      cases haccepts : db.accepts email with
      | false => rw [haccepts, if_neg Bool.false_ne_true] at h; cases h
      | true =>
        rw [haccepts, if_pos rfl] at h
        cases h
        rw [Db.adds, haccepts, Bool.true_and] at hadds
        exact ⟨rfl, email, rfl, .inr ⟨haccepts, hadds, rfl⟩⟩

/-- Rows that are all imported raise nothing, each in the database the rows
before it have left. -/
theorem eval_rows_ok {password : String} {rows : List (List Cell)} {db db' : Db}
    (h : Action.eval (Prog.each rows (importRow password)) db = (.ok (), db')) :
    Along (importOne password) (fun db row => rowError db row = none) db rows ∧
      db' = rows.foldl (importOne password) db := by
  induction rows generalizing db with
  | nil => cases h; exact ⟨trivial, rfl⟩
  | cons row rows ih =>
    obtain ⟨_, db₁, hrow, hrows⟩ := eval_bind_inv h
    obtain ⟨hnone, rfl⟩ := importRow_ok hrow
    obtain ⟨halong, rfl⟩ := ih hrows
    exact ⟨⟨hnone, halong⟩, rfl⟩

end UsersController

end Devise

/-! ## §2 The alert -/

/-- The frame the two imports share. -/
def importSheet (u : User) (s : Subject) (sheet : Option (List (List Cell)))
    (importRow : List Cell → Action Unit) (response : Response) : Action Response := do
  authorize u s
  let rows ← Prog.orRaise sheet .noMethodError
  Prog.each (rows.drop 1) importRow
  return response

/-- How such a frame ends: in front of the loop, in it, or with its
response. -/
theorem importSheet_cases [Env] (db : Db) (u : User) (s : Subject)
    (sheet : Option (List (List Cell)))
    (importRow : List Cell → Action Unit) (response : Response) :
    (importSheet u s sheet importRow response).eval db = (.error .accessDenied, db) ∨
    (sheet = none ∧
      (importSheet u s sheet importRow response).eval db = (.error .noMethodError, db)) ∨
    (∃ rows e db', sheet = some rows ∧
      Action.eval (Prog.each (rows.drop 1) importRow) db = (.error e, db') ∧
      (importSheet u s sheet importRow response).eval db = (.error e, db')) ∨
    ∃ db', (importSheet u s sheet importRow response).eval db = (.ok response, db') := by
  unfold importSheet authorize
  cases Ability.can u s with
  | false => exact .inl rfl
  | true =>
    simp only [if_true, Prog.pure_eq, Prog.ret_bind]
    cases sheet with
    | none => exact .inr (.inl ⟨rfl, rfl⟩)
    | some rows =>
      simp only [Prog.orRaise_some, Prog.ret_bind]
      cases h : Action.eval (Prog.each (rows.drop 1) importRow) db with
      | mk outcome db' =>
        cases outcome with
        | ok a => exact .inr (.inr (.inr ⟨db', by rw [eval_bind_ok h]; rfl⟩))
        | error e => exact .inr (.inr (.inl ⟨rows, e, db', rfl, h, by rw [eval_bind_error h]⟩))

/-- The text of the alert. -/
def importAlert : String := "Error importing Excel file"

section Alert

variable [Env]

/-- The alert comes from the `rescue` alone, which sees neither the sign-in
check nor the authorization in front of the action. -/
theorem failed_of_alert {r : Request} {db : Db} {path : String}
    (h : r.respond db = .ok (.alert path importAlert)) :
    (r.action.eval db).1 = .ok (.alert path importAlert) ∨
      ∃ e, (r.action.eval db).1 = .error e ∧ e ≠ .accessDenied ∧ e ≠ .unauthenticated := by
  unfold Request.respond at h
  split at h
  · next response hok => cases h; exact .inl hok
  · cases h
  · cases h
  · next e hdenied hunauthenticated herror => exact .inr ⟨e, herror, hdenied, hunauthenticated⟩

/-- An import that is shown as failed had no sheet, or a row of it raised
after the rows before it had been imported. -/
theorem alert_inv {db : Db} {session : Option Id} {route : Route} {s : Subject}
    {sheet : Option (List (List Cell))} {importRow : List Cell → Action Unit}
    {path text path' : String}
    (haction : ∀ u, route.action u = importSheet u s sheet importRow (redirectNotice path text))
    (h : (Request.user session route).respond db = .ok (.alert path' importAlert)) :
    (sheet = none ∧ step db (.user session route) = db) ∨
    ∃ header before bad after e db₁, sheet = some (header :: before ++ bad :: after) ∧
      Action.eval (Prog.each before importRow) db = (.ok (), db₁) ∧
      (importRow bad).eval db₁ = (.error e, step db (.user session route)) := by
  have heval : ∀ u, session.bind db.users.find? = some u →
      (Request.user session route).action.eval db =
        (importSheet u s sheet importRow (redirectNotice path text)).eval db := by
    intro u hu
    simp [Request.action, Action.authenticateUser, hu, haction]
  have halert := failed_of_alert h
  cases hsession : session.bind db.users.find? with
  | none =>
    have hnobody : ((Request.user session route).action.eval db).1 = .error .unauthenticated := by
      simp [Request.action, Action.authenticateUser, hsession]
    rw [hnobody] at halert
    rcases halert with hok | ⟨e, he, -, hne⟩
    · cases hok
    · cases he; exact absurd rfl hne
  | some u =>
    unfold step
    rw [heval u hsession] at halert ⊢
    rcases importSheet_cases db u s sheet importRow (redirectNotice path text) with
      hdenied | ⟨hnone, heq⟩ | ⟨rows, e, db', hrows, hloop, heq⟩ | ⟨db', heq⟩
    · rw [hdenied] at halert
      rcases halert with hok | ⟨e, he, hne, -⟩
      · cases hok
      · cases he; exact absurd rfl hne
    · exact .inl ⟨hnone, by rw [heq]⟩
    · obtain ⟨before, bad, after, db₁, hsplit, hbefore, hbad⟩ := Prog.run_each_error exec hloop
      rw [heq]
      cases rows with
      | nil => simp at hsplit
      | cons header rows =>
        rw [List.drop_one, List.tail_cons] at hsplit
        exact .inr ⟨header, before, bad, after, e, db₁, by rw [hrows, hsplit]; rfl, hbefore, hbad⟩
    · rw [heq] at halert
      rcases halert with hok | ⟨e, he, -⟩
      · cases hok
      · cases he

/-! ## §3 The result -/

/-- An import that ends in the alert had no readable sheet and stored
nothing, or has stored what the rows before the first bad one stand for and
nothing of the rows after it. The bad row itself stores no room; if it is a
row of users, its account is stored and left without a role, or the email is
too long and nothing is stored. -/
theorem failed_import_keeps_earlier_rows (db : Db) (session : Option Id)
    (sheet : Option (List (List Cell))) (password : String) :
    ((Request.user session (.rooms (.import sheet))).respond db =
        .ok (.alert "/rooms" importAlert) →
      (sheet = none ∧ step db (.user session (.rooms (.import sheet))) = db) ∨
      ∃ header before bad after rooms e, sheet = some (header :: before ++ bad :: after) ∧
        before.map RoomsController.roomOf = rooms.map .ok ∧
        RoomsController.roomOf bad = .error e ∧
        step db (.user session (.rooms (.import sheet))) =
          { db with rooms := db.rooms.insertAll rooms }) ∧
    ((Request.user session (.users (.import sheet password))).respond db =
        .ok (.alert "/users" importAlert) →
      (sheet = none ∧ step db (.user session (.users (.import sheet password))) = db) ∨
      ∃ header before bad after e db₁, sheet = some (header :: before ++ bad :: after) ∧
        Along (UsersController.importOne password)
          (fun db row => UsersController.rowError db row = none) db before ∧
        db₁ = before.foldl (UsersController.importOne password) db ∧
        UsersController.rowError db₁ bad = some e ∧
        ∃ email, UsersController.emailCell (bad.head?.getD .null) = some email ∧
          (db₁.adds email = true ∧
              UsersController.importRole (bad.getLast?.getD .null) = .error e ∧
              step db (.user session (.users (.import sheet password))) =
                db₁.created { email := normalizeEmail email, password := password } false ∨
            db₁.accepts email = true ∧ fitsString (some (normalizeEmail email)) = false ∧
              step db (.user session (.users (.import sheet password))) = db₁)) := by
  constructor
  · intro halert
    rcases alert_inv (fun _ => rfl) halert with hnone |
      ⟨header, before, bad, after, e, db₁, hsheet, hbefore, hbad⟩
    · exact .inl hnone
    · obtain ⟨rooms, hrooms, hstored⟩ := RoomsController.eval_rows_ok hbefore
      rw [RoomsController.importRow_eval] at hbad
      split at hbad
      · cases hbad
      · next e' he =>
        injection hbad with herror hstep
        exact .inr ⟨header, before, bad, after, rooms, e', hsheet, hrooms, he,
          hstep.symm.trans hstored⟩
  · intro halert
    rcases alert_inv (fun _ => rfl) halert with hnone |
      ⟨header, before, bad, after, e, db₁, hsheet, hbefore, hbad⟩
    · exact .inl hnone
    · obtain ⟨halong, hdb₁⟩ := UsersController.eval_rows_ok hbefore
      obtain ⟨herror, hstored⟩ := UsersController.importRow_error hbad
      exact .inr ⟨header, before, bad, after, e, db₁, hsheet, halong, hdb₁, herror, hstored⟩

end Alert

/-- A header and three rows, the second of which has a type that does not
exist. -/
def roomSheet : List (List Cell) :=
  [ [.text "type", .text "weight", .text "price", .text "quantity"],
    [.num 0, .num 1, .num 300, .num 2],
    [.num 7, .num 1, .num 300, .num 2],
    [.num 2, .num 1, .num 300, .num 2] ]

/-- A header and two rows, the second of which has a number for a role. -/
def userSheet : List (List Cell) :=
  [ [.text "email", .text "role"],
    [.text "ann@pet.vn", .text "staff"],
    [.text "bob@pet.vn", .num 1] ]

/-- Both imports end in the alert. The first room stays, and so do both
accounts, the second without a role. -/
theorem failed_import_stores :
    (@Request.respond .caseInsensitive (.user (some 1) (.rooms (.import (some roomSheet))))
        firstAdmin = .ok (.alert "/rooms" importAlert) ∧
      (@step .caseInsensitive firstAdmin
        (.user (some 1) (.rooms (.import (some roomSheet))))).rooms.rows.map (·.id) = [1]) ∧
    (@Request.respond .caseInsensitive
        (.user (some 1) (.users (.import (some userSheet) "secret"))) firstAdmin =
        .ok (.alert "/users" importAlert) ∧
      (@step .caseInsensitive firstAdmin
        (.user (some 1) (.users (.import (some userSheet) "secret")))).users.rows.map
          (fun u => (u.email, u.roles)) =
        [("admin@pet.vn", ["admin"]), ("ann@pet.vn", ["user"]), ("bob@pet.vn", [])]) := by
  decide

end PetParadise
