/-
PetParadise.Shop.Bills — `BillsController`, `HistoriesController` and the
gateway's callback `Api::V1::BillsController#create`.

The callback controller inherits from `ActionController::Base`: nobody is
signed in and nothing is authorised. It sets `status: 1` (paid) whatever
`resultCode` it was sent.
-/
import PetParadise.Accounts.Ability

namespace PetParadise

open Store

/-- `bill.bill_products`. -/
def Db.billLines (db : Db) (billId : Id) : List BillProduct :=
  db.billProducts.rows.filter (·.billId == billId)

namespace BillsController

open PetParadise.Action

def index (u : User) : Action Response := do
  authorize u .bill
  let bills ← select .bill (fun db => db.bills.rows)
  return .billsIndex bills

def «show» (u : User) (id : Id) : Action Response := do
  authorize u .bill
  let bill ← select .bill (fun db => db.bills.find? id)
  return .billPage bill

/-- `update`: the bill is marked as shipped. `update!` validates the
bill's user again. -/
def update (u : User) (id : Id) (format : Format) : Action Response := do
  authorize u .bill
  let found ← select .bill (fun db => db.bills.find? id)
  let bill ← Prog.orRaise found .noMethodError
  let user ← select .account (fun db => db.users.find? bill.userId)
  let _ ← Prog.orRaise user .recordInvalid
  Prog.perform (.shipBill bill.id)
  respondJs format "window.location.href = '/bills';"

end BillsController

namespace HistoriesController

open PetParadise.Action

def index (u : User) : Action Response := do
  let histories ← select .bill (fun db => db.bills.rows.filter (·.userId == u.id))
  return .historiesIndex histories

/-- `show`: the bill is looked up among the user's own. -/
def «show» (u : User) (id : Id) : Action Response := do
  let found ← select .bill (fun db =>
    db.bills.rows.find? (fun b => b.userId == u.id && b.id == id))
  let bill ← Prog.orRaise found .noMethodError
  let lines ← select .billProducts (fun db => db.billLines bill.id)
  return .historiesShow lines

end HistoriesController

/-! ## The gateway callback -/

/-- `bill_params`. -/
structure CallbackParams where
  orderId : Scalar := .null
  orderInfo : Scalar := .null
  transId : Scalar := .null
  payType : Scalar := .null
  responseTime : Scalar := .null
  message : Scalar := .null
  resultCode : Scalar := .null
  deriving DecidableEq, Repr

namespace CallbackParams

/-- The hash `data`. -/
def data (p : CallbackParams) : BillNotice where
  orderInfo := p.orderInfo.toColumn
  transId := p.transId.toColumn
  payType := p.payType.toColumn
  responseTime := p.responseTime.toInteger
  message := p.message.toColumn
  resultCode := p.resultCode.toColumn

/-- `order_id = ?` for the callback's `orderId`, where an absent one asks
for NULL. -/
def carries [Env] (p : CallbackParams) (b : Bill) : Bool :=
  match p.orderId.toColumn, b.orderId with
  | some x, some y => sqlEq y x
  | none, none => true
  | _, _ => false

end CallbackParams

/-- `Bill.find_by(order_id: …)`. -/
def Db.billOf [Env] (db : Db) (p : CallbackParams) : Option Bill :=
  db.bills.rows.find? p.carries

namespace Api.V1.BillsController

open PetParadise.Action

def create [Env] (p : CallbackParams) : Action Response := do
  let found ← select .bill (fun db => db.billOf p)
  match found with
  | none => return .errorJson 404 "Bill ot found"
  | some bill =>
      let user ← select .account (fun db => db.users.find? bill.userId)
      if user.isNone then return .errorJson 400 "User must exist"
      else
        Prog.perform (.settleBill bill.id p.data)
        return .billJson 200 (bill.settle p.data)

end Api.V1.BillsController

end PetParadise
