/-
PetParadise.Shop.Carts — `CartsController`, the MoMo checkout apart.

A cart is not a record: it is the set of a user's `carts` rows with status
`active`, one row per unit. The helpers under `Db` are the queries the
actions make; each is used where the source makes that query.

`cash` has no transaction around it. It also loads its products lazily:
`Product.where(id: …)` is only evaluated by `products.each`, after the
bill has been written.
-/
import PetParadise.Shop.Products
import PetParadise.Shop.Bills
import Mathlib.Data.List.Dedup

namespace PetParadise

open Store

/-! ## Queries -/

/-- `current_user.carts.active`. -/
def Db.activeCarts (db : Db) (u : Id) : List Cart :=
  db.carts.rows.filter (fun c => c.userId == u && c.status == .active)

/-- `current_user.carts.active.where(product_id: …)`. -/
def Db.activeCartsOf (db : Db) (u p : Id) : List Cart :=
  (db.activeCarts u).filter (·.productId == p)

/-- `current_user.carts.active.group(:product_id).count`. -/
def Db.groupedCount (db : Db) (u : Id) : List (Id × Nat) :=
  let ids := (db.activeCarts u).map (·.productId)
  ids.dedup.map (fun p => (p, ids.count p))

/-- `Product.where(id: ids)`. -/
def Db.productsIn (db : Db) (ids : List Id) : List Product :=
  db.products.rows.filter (fun p => ids.contains p.id)

/-- `l_prod.product.price`, as it is added to `@total`: a missing product
has no `price`, and a missing price cannot be added. -/
def Db.rowPrice (db : Db) (c : Cart) : Except Failure Int :=
  match db.products.find? c.productId with
  | none => .error .noMethodError
  | some p =>
      match p.price with
      | none => .error .typeError
      | some n => .ok n

/-- The loop `@total += l_prod.product.price`. -/
def Db.addPrices (db : Db) : Int → List Cart → Except Failure Int
  | total, [] => .ok total
  | total, c :: cs =>
      match db.rowPrice c with
      | .ok n => db.addPrices (total + n) cs
      | .error e => .error e

/-- `carts/_subtotal`: price times the number of active rows. -/
def Db.subtotal (db : Db) (u : User) (product : Product) : Option Int :=
  product.price.map (· * (db.activeCartsOf u.id product.id).length)

/-! ## Shared by both checkouts -/

/-- `Bill.create`: the id of the stored bill, or nothing when its user is
missing and the bill stays unsaved. -/
def createBill (b : Bill) : Action (Option Id) :=
  .stmt (.insertBill b)
    (fun db => .ret (if (db.users.find? b.userId).isSome then some db.bills.next else none))

/-- The line of one product: `product.price * data_cart[product.id]`. -/
def lineOf (billId : Id) (product : Product) (price : Int) (count : Nat) : BillProduct where
  billId := billId
  productId := product.id
  name := product.name
  quantity := count
  totalAmount := price * count

/-- The body of `products.each`. A line cannot be created on an unsaved
bill. -/
def addLine (bill : Option Id) (dataCart : List (Id × Nat)) (product : Product) :
    Action Unit := do
  let price ← Prog.orRaise product.price .noMethodError
  let count ← Prog.orRaise (dataCart.lookup product.id) .typeError
  let billId ← Prog.orRaise bill .recordNotSaved
  Prog.perform (.insertBillProduct (lineOf billId product price count))

namespace CartsController

open PetParadise.Action

/-- The `before_action :total`. -/
def total (u : User) : Action Int := do
  let total ← select .cartTotal (fun db => db.addPrices 0 (db.activeCarts u.id))
  Prog.ofExcept total

/-- `cart_params`; `user_id` is permitted but the association overrides
it. -/
structure CartParams where
  productId : Option Id
  userId : Option Id := none
  deriving DecidableEq, Repr

/-- `set_product`: `Product.find(cart_params[:product_id])`. -/
def setProduct (p : Option CartParams) : Action Product := do
  let params ← Prog.orRaise p .parameterMissing
  let found ← select .product (fun db => params.productId.bind db.products.find?)
  Prog.orRaise found .recordNotFound

/-- The refusal of `create` and `update_quantity`. -/
def cannotAdd (path : String) (quantity : Int) : Response :=
  redirectNotice path
    ("You can't add more than " ++ toString quantity ++ " products to your cart.")

def index (u : User) : Action Response := do
  let total ← total u
  let products ← select .groupedCount (fun db => (db.groupedCount u.id).map Prod.fst)
  let carts ← select .products (fun db => db.productsIn products)
  return .cartsIndex carts total

def create (u : User) (p : Option CartParams) : Action Response := do
  let product ← setProduct p
  let cartsActive ← select .activeCount (fun db => (db.activeCartsOf u.id product.id).length)
  let quantity ← Prog.orRaise product.quantity .argumentError
  if (cartsActive : Int) ≥ quantity then return cannotAdd "/shop" quantity
  else
    Prog.perform (.insertCart u.id product.id)
    let cart ← select .activeCount (fun db => (db.activeCarts u.id).length)
    return .cartStream cart

/-- `carts_active.first`: asked of the database as long as the relation is
not loaded. -/
def firstActive (u : User) (product : Product) : Option (Option Cart) → Action (Option Cart)
  | some first => pure first
  | none => select .activeCarts (fun db => (db.activeCartsOf u.id product.id).head?)

/-- `remove_carts.times`. Each pass ends with `reload`, so from the second
one on the first row is that of the reloaded relation. -/
def removeCarts (u : User) (product : Product) : Nat → Option (Option Cart) → Action Unit
  | 0, _ => pure ()
  | n + 1, loaded => do
      let first ← firstActive u product loaded
      let cart ← Prog.orRaise first .noMethodError
      Prog.perform (.deleteCart cart.id)
      let reloaded ← firstActive u product none
      removeCarts u product n (some reloaded)

/-- What both branches of `update_quantity` end with. -/
def reportQuantity (u : User) (product : Product) : Action Response := do
  let total ← total u
  let cart ← select .activeCount (fun db => (db.activeCarts u.id).length)
  return .quantityStream product cart total

/-- `update_quantity`. The second count of the rows is the first one's query
again, which Rails may answer from the query cache of the request; here it is
asked again. -/
def updateQuantity (u : User) (p : Option CartParams) (quantity : Option String) :
    Action Response := do
  let product ← setProduct p
  -- `params[:quantity]&.to_i` is nil without the parameter, and nil has no `>`
  let q := toI (← Prog.orRaise quantity .noMethodError)
  let stock ← Prog.orRaise product.quantity .argumentError
  if q > stock then return cannotAdd "/carts" stock
  else
    let before ← select .activeCount (fun db => (db.activeCartsOf u.id product.id).length)
    if q > before then
      let now ← select .activeCount (fun db => (db.activeCartsOf u.id product.id).length)
      Prog.times (q - now).toNat (Prog.perform (.insertCart u.id product.id))
      reportQuantity u product
    else
      let now ← select .activeCount (fun db => (db.activeCartsOf u.id product.id).length)
      removeCarts u product (now - q).toNat none
      reportQuantity u product

def checkout (u : User) : Action Response := do
  let total ← total u
  let products ← select .groupedCount (fun db => (db.groupedCount u.id).map Prod.fst)
  let products ← select .products (fun db => db.productsIn products)
  return .cartsCheckout products total

def destroy (u : User) (productId : Id) : Action Response := do
  Prog.perform (.deactivateCarts u.id (some productId))
  return redirectNotice "/carts" "Remove cart successfully!"

/-- The bill of a cash checkout. -/
def cashBill (u : User) (randomToken : String) (total : Int) : Bill where
  orderId := some ("Cash_" ++ randomToken)
  amount := total
  status := .cash
  orderInfo := some u.email
  userId := u.id
  firstName := u.firstName
  lastName := u.lastName
  address := u.address
  phoneNumber := u.phoneNumber

def cash (u : User) (randomToken : String) : Action Response := do
  let total ← total u
  let dataCart ← select .groupedCount (fun db => db.groupedCount u.id)
  let bill ← createBill (cashBill u randomToken total)
  let products ← select .products (fun db => db.productsIn (dataCart.map Prod.fst))
  Prog.each products (addLine bill dataCart)
  Prog.perform (.deactivateCarts u.id none)
  return redirectNotice "/shop" "Payment in cash successfully!"

end CartsController

end PetParadise
