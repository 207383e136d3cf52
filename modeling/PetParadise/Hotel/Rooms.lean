/-
PetParadise.Hotel.Rooms — `RoomsController`.

Every action is behind `load_and_authorize_resource`. `import` saves the
rows of a sheet one after the other under a method-wide `rescue`, so a bad
row ends the import but keeps the rooms saved before it; `rescueImport`
turns the error into the alert the client sees.
-/
import PetParadise.Accounts.Ability

namespace PetParadise

open Store

/-! ## Sheets -/

/-- A cell as the sheet reader yields it. -/
inductive Cell where
  | null
  | num (n : Int)
  | text (s : String)
  /-- A value of another class (a number with a fraction, a Boolean, a
  date): what `to_i` gives, if the class has it, and what a decimal and an
  integer column make of the value. -/
  | other (toI decimal integer : Option Int)
  deriving DecidableEq, Repr

/-- `cell.to_i`. -/
def Cell.toI : Cell → Except Failure Int
  | .null => .ok 0
  | .num n => .ok n
  | .text s => .ok (PetParadise.toI s)
  | .other (some n) _ _ => .ok n
  | .other none _ _ => .error .noMethodError

/-- An integer column's value. -/
def Cell.toInteger : Cell → Option Int
  | .null => none
  | .num n => some n
  | .text s => castInteger (some s)
  | .other _ _ integer => integer

/-- A `decimal(10,0)` column's value. -/
def Cell.toDecimal : Cell → Option Int
  | .other _ decimal _ => decimal
  | cell => cell.toInteger

/-- `row_values[i]`: past the end of a short row there is `nil`. -/
def cellAt (row : List Cell) (i : Nat) : Cell := (row[i]?).getD .null

/-- The outcome a client sees of a method with `rescue StandardError`. -/
def rescueImport (path : String) : Except Failure Response → Response
  | .ok r => r
  | .error _ => .alert path "Error importing Excel file"

/-- Assigning an integer to an enum attribute: outside the codes it
raises. -/
def RType.ofCode (n : Int) : Except Failure RType :=
  if n = 0 then .ok .apartment
  else if n = 1 then .ok .vip
  else if n = 2 then .ok .penthouse
  else .error .argumentError

def Weight.ofCode (n : Int) : Except Failure Weight :=
  if n = 0 then .ok .lessThan5
  else if n = 1 then .ok .fiveToTen
  else if n = 2 then .ok .tenToFifteen
  else if n = 3 then .ok .fifteenToTwenty
  else if n = 4 then .ok .greaterThan20
  else .error .argumentError

namespace RoomsController

open PetParadise.Action

def index (u : User) : Action Response := do
  authorize u .room
  let rooms ← select .rooms (fun db => db.rooms.rows)
  return .roomsIndex rooms

def new (u : User) : Action Response := do
  authorize u .room
  return .page

def edit (u : User) (id : Id) : Action Response := do
  authorize u .room
  let room ← select .rooms (fun db => db.rooms.find? id)
  return .roomPage room

/-- `Room.new room_params`; no validation can refuse the room. -/
def create (u : User) (p : RoomParams) : Action Response := do
  authorize u .room
  let rType ← Prog.ofExcept (p.rType.assign none)
  let weight ← Prog.ofExcept (p.weight.assign none)
  let blank : Room := { rType := none, weight := none, price := none, quantity := none }
  Prog.perform (.insertRoom (blank.assign p rType weight))
  return redirectNotice "/rooms" "Create room successfully!"

def update (u : User) (id : Id) (p : RoomParams) : Action Response := do
  authorize u .room
  let found ← select .rooms (fun db => db.rooms.find? id)
  let room ← Prog.orRaise found .noMethodError
  let rType ← Prog.ofExcept (p.rType.assign room.rType)
  let weight ← Prog.ofExcept (p.weight.assign room.weight)
  Prog.perform (.updateRoom (room.assign p rType weight))
  return redirectNotice "/rooms" "Update room successfully!"

def destroy (u : User) (id : Id) (format : Format) : Action Response := do
  authorize u .room
  let found ← select .rooms (fun db => db.rooms.find? id)
  let room ← Prog.orRaise found .noMethodError
  Prog.perform (.destroyRoom room.id)
  respondJs format "window.location.href = '/rooms';"

/-- One data row of the sheet. -/
def importRow (row : List Cell) : Action Unit := do
  let rType ← Prog.ofExcept (cellAt row 0).toI
  let weight ← Prog.ofExcept (cellAt row 1).toI
  let rType ← Prog.ofExcept (RType.ofCode rType)
  let weight ← Prog.ofExcept (Weight.ofCode weight)
  Prog.perform (.insertRoom
    { rType := some rType, weight := some weight, price := (cellAt row 2).toDecimal,
      quantity := (cellAt row 3).toInteger })

/-- `import`, without its `rescue`. A file that is missing or unreadable is
no sheet; the first row is the header. -/
def «import» (u : User) (sheet : Option (List (List Cell))) : Action Response := do
  authorize u .room
  let rows ← Prog.orRaise sheet .noMethodError
  Prog.each (rows.drop 1) importRow
  return redirectNotice "/rooms" "Excel file imported successfully."

end RoomsController

end PetParadise
