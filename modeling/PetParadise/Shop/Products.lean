/-
PetParadise.Shop.Products — `ProductsController` and the shop pages.

`load_and_authorize_resource` stands in front of every action of the
controller. A product has no validations: any price and quantity that fit
their columns are stored, NULL included.
-/
import PetParadise.Accounts.Ability

namespace PetParadise

open Store

namespace ProductsController

open PetParadise.Action

def index (u : User) : Action Response := do
  authorize u .product
  let products ← select .products (fun db => db.products.rows)
  return .productsIndex products

/-- `set_product`: `Product.find(params[:id])`. -/
def setProduct (id : Id) : Action Product := do
  let found ← select .product (fun db => db.products.find? id)
  Prog.orRaise found .recordNotFound

/-- `show` and `edit`. -/
def «show» (u : User) (id : Id) : Action Response := do
  authorize u .product
  let product ← setProduct id
  return .productPage product

def new (u : User) : Action Response := do
  authorize u .product
  return .page

def create (u : User) (p : ProductParams) : Action Response := do
  authorize u .product
  let category ← Prog.ofExcept (p.category.assign none)
  let blank : Product := { name := none, price := none, quantity := none }
  Prog.perform (.insertProduct (blank.assign p category))
  return redirectNotice "/products" "Product was successfully created."

def update (u : User) (id : Id) (p : ProductParams) : Action Response := do
  authorize u .product
  let product ← setProduct id
  let category ← Prog.ofExcept (p.category.assign product.category)
  Prog.perform (.updateProduct (product.assign p category))
  return redirectNotice "/products" "Product was successfully updated."

def destroy (u : User) (id : Id) (format : Format) : Action Response := do
  authorize u .product
  let product ← setProduct id
  Prog.perform (.destroyProduct product.id)
  respondJs format "window.location.href = '/products';"

end ProductsController

end PetParadise
