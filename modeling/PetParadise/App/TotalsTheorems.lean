/-
PetParadise.App.TotalsTheorems — one number on every page, in the gateway's
request and on the bill.

`PetParadise.Shop.CheckoutTheorems` computes what the checkouts and the cart
pages do for a priced cart, and `PetParadise.App.QuantityTheorems` what
`update_quantity` does to the rows. Here both are put side by side: the total
of the pages, the total `update_quantity` reports, the gateway's amount and
items, the bill and its lines are all `Db.cartValue`.

The texts of a MoMo bill come from the form and meet the column limit only
when the bill is stored, after the gateway has accepted. A longer text is
refused then, with the cart still active.
-/
import PetParadise.App.QuantityTheorems

namespace PetParadise

open Store PetParadise.Action

/-! ## The total of `update_quantity` -/

/-- What `update_quantity` reports is the total of the database it
leaves. -/
theorem reportQuantity_total [Env] {db db' : Db} {u : User} {product p : Product} {cart : Nat}
    {t : Int} (h : eval (CartsController.reportQuantity u product) db =
      (.ok (.quantityStream p cart t), db')) : t = db'.cartValue u.id := by
  obtain ⟨n, db₁, htotal, hrest⟩ := eval_bind_inv h
  obtain ⟨-, hn, rfl⟩ := eval_total_inv htotal
  cases hrest
  exact hn

theorem updateQuantity_total [Env] {db db' : Db} {u : User} {p : Option CartsController.CartParams}
    {quantity : Option String} {product : Product} {cart : Nat} {t : Int}
    (h : eval (CartsController.updateQuantity u p quantity) db =
      (.ok (.quantityStream product cart t), db')) : t = db'.cartValue u.id := by
  obtain ⟨found, db₁, -, h⟩ := eval_bind_inv h
  obtain ⟨q, db₂, -, h⟩ := eval_bind_inv h
  obtain ⟨stock, db₃, -, h⟩ := eval_bind_inv h
  split at h
  · -- more than the stock: a redirect, which is no stream
    cases h
  · obtain ⟨before, db₄, -, h⟩ := eval_bind_inv h
    split at h
    · obtain ⟨now, db₅, -, h⟩ := eval_bind_inv h
      obtain ⟨_, db₆, -, h⟩ := eval_bind_inv h
      exact reportQuantity_total h
    · obtain ⟨now, db₅, -, h⟩ := eval_bind_inv h
      obtain ⟨_, db₆, -, h⟩ := eval_bind_inv h
      exact reportQuantity_total h

/-- A number from zero to the stock, of a product with a price, is answered
with the total and the count of the cart that is left. -/
theorem updateQuantity_reports [Env] {db : Db} {u : User}
    (huser : (db.users.find? u.id).isSome = true) (hpriced : db.CartPriced u.id)
    {p : Option CartsController.CartParams} {quantity : Option String} {product : Product}
    {q price : Int} (h : db.AllowsQuantity p quantity product q) (hpos : 0 ≤ q)
    (hprice : product.price = some price) :
    ∃ db', eval (CartsController.updateQuantity u p quantity) db =
        (.ok (.quantityStream product (db'.activeCarts u.id).length (db'.cartValue u.id)), db') ∧
      SetsRows u.id product.id q.toNat db db' ∧
      (db.held u.id product.id = q.toNat → db' = db) ∧ db'.CartPriced u.id := by
  obtain ⟨db', hset, hsame, heval⟩ := updateQuantity_sets huser h
  have hothers : db.OthersPriced u.id product.id := fun i hi _ => hpriced i hi
  have hpriced' : db'.CartPriced u.id := (hset.cartPriced_iff h.find?_self hprice).mpr hothers
  refine ⟨db', ?_, hset, hsame, hpriced'⟩
  rw [heval, if_pos hpos, CartsController.reportQuantity_eval, total_eq_ok.mpr ⟨hpriced', rfl⟩]
  rfl

/-! ## All of them -/

/-- **All totals agree and checkout is faithful.** For a cart whose rows
refer to existing priced products and whose amounts fit `decimal(10,0)`,
the total of the pages, the subtotals shown, the amount and the items sent
to the gateway, the bill and its lines are all `Db.cartValue`.
`update_quantity` answers every number from zero to the stock with the total
of the cart it leaves, which is the total of the pages there. Both checkouts
are faithful to the cart, the MoMo one if the texts of the form fit their
columns. If they do not, or if the gateway's answer has another code than 0,
the database is left as it was. -/
theorem totals_agree_and_checkout_faithful [Env] (db : Db) (u : User) (h : db.Billable u.id) :
    eval (CartsController.total u) db = (.ok (db.cartValue u.id), db) ∧
    (∀ db₀ p quantity product cart t,
      eval (CartsController.updateQuantity u p quantity) db₀ =
        (.ok (.quantityStream product cart t), db) → t = db.cartValue u.id) ∧
    (∀ p quantity product q price, db.AllowsQuantity p quantity product q → 0 ≤ q →
      product.price = some price →
      ∃ db', eval (CartsController.updateQuantity u p quantity) db =
          (.ok (.quantityStream product (db'.activeCarts u.id).length (db'.cartValue u.id)),
            db') ∧
        SetsRows u.id product.id q.toNat db db' ∧
        (db.held u.id product.id = q.toNat → db' = db) ∧
        eval (CartsController.total u) db' = (.ok (db'.cartValue u.id), db')) ∧
    (∃ shown, eval (CartsController.index u) db =
        (.ok (.cartsIndex shown (db.cartValue u.id)), db) ∧
      eval (CartsController.checkout u) db =
        (.ok (.cartsCheckout shown (db.cartValue u.id)), db) ∧
      (∀ p ∈ shown, (db.subtotal u p).isSome = true) ∧
      (shown.filterMap (db.subtotal u)).sum = db.cartValue u.id) ∧
    (∀ randomToken, ∃ response db', eval (CartsController.cash u randomToken) db =
        (.ok response, db') ∧ CheckoutFaithful db u.id (db.cartValue u.id) db') ∧
    (∀ c, ∃ body,
      ((CartsController.checkoutMomo u c).log exec db).filterMap Stmt.posted = [body] ∧
      body.amount = db.cartValue u.id ∧
      (body.items.map MomoItem.totalAmount).sum = db.cartValue u.id ∧
      (∀ payUrl, c.gateway body = .object (.int 0) payUrl →
        (c.params.fits = true → CheckoutFaithful db u.id (db.cartValue u.id)
          (eval (CartsController.checkoutMomo u c) db).2) ∧
        (c.params.fits = false →
          eval (CartsController.checkoutMomo u c) db = (.error .valueTooLong, db))) ∧
      ((∀ payUrl, c.gateway body ≠ .object (.int 0) payUrl) →
        (eval (CartsController.checkoutMomo u c) db).2 = db)) := by
  refine ⟨eval_total h.priced, fun db₀ p quantity product cart t => updateQuantity_total, ?_,
    ⟨db.cartProducts u.id, (eval_pages h.priced).1, (eval_pages h.priced).2, ?_,
      h.priced.sum_subtotals⟩,
    fun randomToken => ⟨_, _, cash_eval h randomToken, h.checkoutFaithful rfl rfl⟩,
    fun c => ⟨db.momoBody u c, checkoutMomo_posted h.priced c, rfl,
      h.priced.sum_momoItems c.itemId, fun payUrl hg => ⟨fun hfits => ?_, fun hlong => ?_⟩,
      checkoutMomo_declined h.priced⟩⟩
  · intro p quantity product q price hallows hpos hprice
    obtain ⟨db', heval, hset, hsame, hpriced⟩ :=
      updateQuantity_reports h.user h.priced hallows hpos hprice
    exact ⟨db', heval, hset, hsame, eval_total hpriced⟩
  · intro p hp
    rw [h.priced.subtotal hp]
    rfl
  · rw [checkoutMomo_accepted h hfits hg]
    exact h.checkoutFaithful rfl rfl
  · exact checkoutMomo_too_long h hlong hg

/-- Ann pays by MoMo, and the gateway accepts. -/
def annPays (firstName : String) : MomoCheckout where
  params.firstName := some firstName
  params.lastName := some "Tran"
  params.address := none
  params.phoneNumber := some "0901"
  randomToken := "t"
  itemId := fun i => toString i
  gateway := fun _ => .object (.int 0) (some "pay.momo.vn")

/-- One character more than `bills.first_name` takes. -/
def longName : String := String.ofList (List.replicate 256 'n')

theorem fits_longName : (annPays longName).params.fits = false := by
  have hlength : longName.length = 256 := String.length_ofList.trans List.length_replicate
  have hlong : fitsString (some longName) = false := by
    rw [fitsString, hlength]
    decide
  simp only [BillingParams.fits, annPays, List.all_cons, hlong, Bool.false_and]

section Example

attribute [local instance] Env.caseInsensitive

theorem totals_agree_twoCarts :
    twoCarts.Billable 1 ∧ twoCarts.cartValue 1 = 290 ∧
    eval (CartsController.total ann) twoCarts = (.ok 290, twoCarts) ∧
    CheckoutFaithful twoCarts 1 290
      (eval (CartsController.checkoutMomo ann (annPays "Ann")) twoCarts).2 := by
  obtain ⟨htotal, -, -, -, -, hmomo⟩ :=
    totals_agree_and_checkout_faithful twoCarts ann (by decide)
  obtain ⟨body, -, -, -, haccepted, -⟩ := hmomo (annPays "Ann")
  exact ⟨by decide, by decide, htotal, (haccepted _ rfl).1 (by decide)⟩

/-- With a first name longer than its column the gateway accepts, the bill
is refused, and the cart is still active. -/
theorem long_name_accepted_unbilled :
    twoCarts.Billable 1 ∧
    (annPays longName).gateway (twoCarts.momoBody ann (annPays longName)) =
      .object (.int 0) (some "pay.momo.vn") ∧
    eval (CartsController.checkoutMomo ann (annPays longName)) twoCarts =
      (.error .valueTooLong, twoCarts) ∧
    twoCarts.bills.rows = [] ∧ (twoCarts.activeCarts 1).length = 3 ∧
    ¬ CheckoutFaithful twoCarts 1 290
      (eval (CartsController.checkoutMomo ann (annPays longName)) twoCarts).2 := by
  have hrefused : eval (CartsController.checkoutMomo ann (annPays longName)) twoCarts =
      (.error .valueTooLong, twoCarts) :=
    checkoutMomo_too_long (by decide) fits_longName rfl
  refine ⟨by decide, rfl, hrefused, rfl, by decide, fun hfaithful => ?_⟩
  have hemptied := hfaithful.emptied
  rw [hrefused] at hemptied
  exact absurd hemptied (by decide)

end Example

end PetParadise
