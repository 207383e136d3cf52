/-
PetParadise.Shop.Momo — `Momo::GetPaymentUrlService` and
`CartsController#checkout_momo`.

The service counts the cart in its constructor, loads the products while
it builds `items`, and asks the gateway. Only an answer with `resultCode`
0 makes it write: bill, lines, carts. The gateway is a function of the
request it is sent; random tokens are arguments.
-/
import PetParadise.Shop.Carts

namespace PetParadise

open Store

variable [Env]

/-- What comes back from the gateway: no readable JSON, or an object. -/
inductive GatewayAnswer where
  | unreadable
  | object (resultCode : Scalar) (payUrl : Option String)
  deriving DecidableEq, Repr

/-- The billing details of the checkout form. -/
structure BillingParams where
  firstName : Option String
  lastName : Option String
  address : Option String
  phoneNumber : Option String
  deriving DecidableEq, Repr

/-- The details fit the columns of a bill. -/
def BillingParams.fits (p : BillingParams) : Bool :=
  [p.firstName, p.lastName, p.address, p.phoneNumber].all fitsString

/-- Everything a MoMo checkout is given from outside the database. -/
structure MomoCheckout where
  params : BillingParams
  randomToken : String
  itemId : Id → String
  gateway : MomoRequest → GatewayAnswer

namespace Momo.GetPaymentUrlService

open PetParadise.Action

def orderId (u : User) (randomToken : String) : String :=
  "MM2023_" ++ toString u.id ++ "_" ++ randomToken

def requestId (u : User) (randomToken : String) : String :=
  "MM2023-" ++ toString u.id ++ "-" ++ randomToken

/-- `Base64.encode64(JSON.dump({orderId: …}))`. -/
def extraData (u : User) (randomToken : String) : String :=
  Env.encode64 ("\x7b\"orderId\":\"" ++ orderId u randomToken ++ "\"\x7d")

def ipnUrl : String := Env.assetsHost ++ "/api/v1/bills"

def redirectUrl : String := Env.assetsHost ++ "/shop"

def textToSha (u : User) (amount : Int) (randomToken : String) : String :=
  "accessKey=7tYPQ3NQMFtdtTdE&amount=" ++ toString amount ++
  "&extraData=" ++ extraData u randomToken ++
  "&ipnUrl=" ++ ipnUrl ++
  "&orderId=" ++ orderId u randomToken ++
  "&orderInfo=" ++ u.email ++
  "&partnerCode=MOMOVEIT20200928&redirectUrl=" ++ redirectUrl ++
  "&requestId=" ++ requestId u randomToken ++
  "&requestType=captureWallet"

/-- One entry of `items`. -/
def itemOf (itemId : Id → String) (dataCart : List (Id × Nat)) (product : Product) :
    Except Failure MomoItem :=
  match product.price, dataCart.lookup product.id with
  | none, _ => .error .noMethodError
  | some _, none => .error .typeError
  | some price, some count => .ok
      { id := itemId product.id
        name := product.name
        currency := "VND"
        quantity := count
        totalAmount := price * count
        purchaseAmount := price * count }

/-- `items`. -/
def items (itemId : Id → String) (dataCart : List (Id × Nat)) :
    List Product → Except Failure (List MomoItem)
  | [] => .ok []
  | product :: products =>
      match itemOf itemId dataCart product, items itemId dataCart products with
      | .ok item, .ok rest => .ok (item :: rest)
      | .error e, _ => .error e
      | _, .error e => .error e

/-- `data_body`. -/
def dataBody (u : User) (amount : Int) (randomToken : String) (items : List MomoItem) :
    MomoRequest where
  partnerCode := "MOMOVEIT20200928"
  storeName := "Pet Paradise"
  storeId := "MoMoTestStore"
  requestType := "captureWallet"
  ipnUrl := ipnUrl
  redirectUrl := redirectUrl
  orderId := orderId u randomToken
  amount := amount
  lang := "vi"
  orderInfo := u.email
  requestId := requestId u randomToken
  extraData := extraData u randomToken
  signature := Env.hexdigest "akzjoOpoNooEjYqahEveiV8n2iOIzlBr" (textToSha u amount randomToken)
  items := items

/-- The bill of an accepted MoMo checkout. -/
def momoBill (u : User) (amount : Int) (c : MomoCheckout) : Bill where
  orderId := some (orderId u c.randomToken)
  amount := amount
  status := .unpaid
  orderInfo := some u.email
  userId := u.id
  firstName := c.params.firstName
  lastName := c.params.lastName
  address := c.params.address
  phoneNumber := c.params.phoneNumber

/-- What `call` writes once the gateway has accepted. -/
def accept (u : User) (amount : Int) (c : MomoCheckout) (dataCart : List (Id × Nat))
    (products : List Product) : Action Unit := do
  let bill ← createBill (momoBill u amount c)
  Prog.each products (addLine bill dataCart)
  Prog.perform (.deactivateCarts u.id none)

/-- The constructor and `call`; the answer is the parsed response. -/
def call (u : User) (amount : Int) (c : MomoCheckout) : Action (Scalar × Option String) := do
  let dataCart ← select .groupedCount (fun db => db.groupedCount u.id)
  let products ← select .products (fun db => db.productsIn (dataCart.map Prod.fst))
  let items ← Prog.ofExcept (items c.itemId dataCart products)
  let body := dataBody u amount c.randomToken items
  Prog.perform (.post body)
  match c.gateway body with
  | .unreadable => .raise .gatewayError
  | .object resultCode payUrl =>
      if resultCode = .int 0 then
        accept u amount c dataCart products
        return (resultCode, payUrl)
      else return (resultCode, payUrl)

end Momo.GetPaymentUrlService

namespace CartsController

open PetParadise.Action

def checkoutMomo (u : User) (c : MomoCheckout) : Action Response := do
  let total ← total u
  let (resultCode, payUrl) ← Momo.GetPaymentUrlService.call u total c
  if resultCode = .int 0 then
    let url ← Prog.orRaise payUrl .redirectError
    return .external url
  else return redirectNotice "/carts" "Checkout momo fail!"

end CartsController

end PetParadise
