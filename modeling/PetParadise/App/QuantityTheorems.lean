/-
PetParadise.App.QuantityTheorems — what `update_quantity` does to the
carts.

The action has two loops, one that adds rows and one that removes the
first row again and again, and the number of passes is fixed before. One
relation describes both: `SetsRows u p n` says that of all rows only the
user's active rows of the product may differ, and that there are `n` of
them now. The removing loop keeps going when the rows run out, and raises
(`removeCarts_sets`), which is what a negative number leads to.

What follows the loops only reads: the total, the count and the subtotal
of the product. All three need prices, and an error there comes after the
rows have been changed.
-/
import PetParadise.App.OwnRows
import PetParadise.App.StockTheorems

namespace PetParadise

open Store PetParadise.Action

/-! ## Rows -/

/-- Nothing but the user's active rows of the product has changed, and now
there are `n` of them. -/
structure SetsRows (u p : Id) (n : Nat) (db db' : Db) : Prop where
  frame : db' = { db with carts := db'.carts }
  others : db'.carts.rows.filter (fun c => !c.counts u p) =
    db.carts.rows.filter (fun c => !c.counts u p)
  held : db'.held u p = n

namespace SetsRows

variable {u p : Id} {m n : Nat} {db₁ db₂ db₃ : Db}

theorem refl (u p : Id) (db : Db) : SetsRows u p (db.held u p) db db := ⟨rfl, rfl, rfl⟩

theorem trans (h₁ : SetsRows u p m db₁ db₂) (h₂ : SetsRows u p n db₂ db₃) :
    SetsRows u p n db₁ db₃ := by
  refine ⟨?_, h₂.others.trans h₁.others, h₂.held⟩
  rw [h₂.frame, h₁.frame]

theorem users_eq (h : SetsRows u p n db₁ db₂) : db₂.users = db₁.users := by rw [h.frame]

theorem products_eq (h : SetsRows u p n db₁ db₂) : db₂.products = db₁.products := by
  rw [h.frame]

/-- A different number of rows is a different table. -/
theorem carts_ne (h : SetsRows u p n db₁ db₂) (hne : db₁.held u p ≠ n) :
    db₂.carts ≠ db₁.carts := by
  intro hsame
  apply hne
  rw [← h.held, Db.held_eq_countP, Db.held_eq_countP, hsame]

/-- The other products in the user's cart. -/
theorem mem_cartIds_iff (h : SetsRows u p n db₁ db₂) {i : Id} (hi : i ≠ p) :
    i ∈ db₂.cartIds u ↔ i ∈ db₁.cartIds u := by
  have hrow : ∀ db : Db, i ∈ db.cartIds u ↔
      ∃ c ∈ db.carts.rows.filter (fun c => !c.counts u p),
        (c.userId == u && c.status == .active) = true ∧ c.productId = i := by
    intro db
    simp only [Db.cartIds, Db.activeCarts, List.mem_map, List.mem_filter]
    constructor
    · rintro ⟨c, ⟨hc, hactive⟩, rfl⟩
      exact ⟨c, ⟨hc, by simp [Cart.counts, hi]⟩, hactive, rfl⟩
    · rintro ⟨c, ⟨hc, -⟩, hactive, rfl⟩
      exact ⟨c, ⟨hc, hactive⟩, rfl⟩
  rw [hrow, hrow, h.others]

end SetsRows

theorem insertCart_sets [Env] {u p : Id} {db : Db} (huser : (db.users.find? u).isSome = true)
    (hproduct : (db.products.find? p).isSome = true) :
    ∃ db', exec (.insertCart u p) db = .ok db' ∧ SetsRows u p (db.held u p + 1) db db' := by
  have hnew : ∀ i, (Row.withId i ({ userId := u, productId := p } : Cart)).counts u p = true := by
    intro i
    simp [Row.withId, Cart.counts]
  refine ⟨{ db with carts := db.carts.insert { userId := u, productId := p } },
    by simp only [exec, huser, hproduct, Bool.and_self, if_true], rfl, ?_, ?_⟩
  · simp [Table.rows_insert, hnew]
  · simp only [Db.held, Db.activeCartsOf_eq, Table.rows_insert]
    simp [hnew]

/-- An active row of the product is destroyed. -/
theorem deleteActive_sets {u p : Id} {db : Db} {c : Cart} (hc : c ∈ db.activeCartsOf u p) :
    SetsRows u p (db.held u p - 1) db { db with carts := db.carts.delete (·.id == c.id) } := by
  rw [Db.activeCartsOf_eq] at hc
  obtain ⟨hrow, hcounts⟩ := List.mem_filter.mp hc
  have hothers : ∀ r ∈ db.carts.rows, (r.id == c.id) = true → r.counts u p = true := by
    intro r hr hid
    rw [db.carts.eq_of_id_eq hr hrow (beq_iff_eq.mp hid)]
    exact hcounts
  refine ⟨rfl, ?_, ?_⟩
  · rw [Table.rows_delete, List.filter_filter]
    refine List.filter_congr fun r hr => ?_
    cases hid : r.id == c.id with
    | false => simp
    | true => simp [hothers r hr hid]
  · -- exactly one of the rows that count has the key
    have hone : db.carts.rows.countP (fun r => r.counts u p && r.id == c.id) = 1 := by
      have hkey := db.carts.countP_filter_id (Cart.counts u p) c.id
      have hfind : db.carts.find? c.id = some c := db.carts.find?_of_mem hrow
      rw [List.countP_filter, hfind, Option.any_some, if_pos hcounts] at hkey
      simp only [Bool.and_comm] at hkey
      exact hkey
    have hsplit := List.countP_eq_countP_filter_add db.carts.rows (Cart.counts u p) (·.id == c.id)
    rw [List.countP_filter, List.countP_filter, hone] at hsplit
    rw [Db.held_eq_countP, Db.held_eq_countP, Table.rows_delete, List.countP_filter, hsplit]
    simp

/-- The row `carts_active.first` finds is destroyed. -/
theorem deleteFirst_sets {u p : Id} {db : Db} {c : Cart} {rest : List Cart}
    (hrows : db.activeCartsOf u p = c :: rest) :
    SetsRows u p (db.held u p - 1) db { db with carts := db.carts.delete (·.id == c.id) } :=
  deleteActive_sets (hrows ▸ List.mem_cons_self)

/-! ## The two loops -/

namespace CartsController

theorem times_insertCart_sets [Env] {u p : Id} (n : Nat) {db : Db}
    (huser : (db.users.find? u).isSome = true) (hproduct : (db.products.find? p).isSome = true) :
    ∃ db', Action.eval (Prog.times n (Prog.perform (.insertCart u p))) db = (.ok (), db') ∧
      SetsRows u p (db.held u p + n) db db' := by
  induction n generalizing db with
  | zero => exact ⟨db, rfl, .refl u p db⟩
  | succ n ih =>
    obtain ⟨db₁, hexec, hset⟩ := insertCart_sets huser hproduct
    obtain ⟨db₂, heval, hset'⟩ := ih (hset.users_eq ▸ huser) (hset.products_eq ▸ hproduct)
    refine ⟨db₂, ?_, ?_⟩
    · rw [Prog.times, eval_perform_ok hexec, heval]
    · have hcount : db.held u p + 1 + n = db.held u p + (n + 1) := by omega
      rw [hset.held, hcount] at hset'
      exact hset.trans hset'

/-- The relation, if it is loaded, is as the database has it. -/
def UpToDate (u : User) (product : Product) (loaded : Option (Option Cart)) (db : Db) : Prop :=
  ∀ first ∈ loaded, first = (db.activeCartsOf u.id product.id).head?

theorem upToDate_none (u : User) (product : Product) (db : Db) : UpToDate u product none db := by
  simp [UpToDate]

theorem upToDate_reloaded (u : User) (product : Product) (db : Db) :
    UpToDate u product (some (db.activeCartsOf u.id product.id).head?) db := by
  simp [UpToDate]

theorem firstActive_eval [Env] {u : User} {product : Product} {db : Db}
    {loaded : Option (Option Cart)} (h : UpToDate u product loaded db) :
    (firstActive u product loaded).eval db =
      (.ok (db.activeCartsOf u.id product.id).head?, db) := by
  cases loaded with
  | none => rfl
  | some first =>
    rw [h first rfl]
    rfl

/-- `n` passes of the loop remove `n` rows if there are so many; otherwise
they remove all and raise. -/
theorem removeCarts_sets [Env] (u : User) (product : Product) (n : Nat)
    {loaded : Option (Option Cart)} {db : Db} (hloaded : UpToDate u product loaded db) :
    ∃ db', (removeCarts u product n loaded).eval db =
        (if n ≤ db.held u.id product.id then .ok () else .error .noMethodError, db') ∧
      SetsRows u.id product.id (db.held u.id product.id - n) db db' ∧
      (db.held u.id product.id - n = db.held u.id product.id → db' = db) := by
  induction n generalizing loaded db with
  | zero => exact ⟨db, by simp [removeCarts], .refl _ _ db, fun _ => rfl⟩
  | succ n ih =>
    unfold removeCarts
    rw [eval_bind_ok (firstActive_eval hloaded)]
    cases hrows : db.activeCartsOf u.id product.id with
    | nil =>
      have hnone : db.held u.id product.id = 0 := by rw [Db.held, hrows]; rfl
      have hrefl := SetsRows.refl u.id product.id db
      rw [hnone] at hrefl ⊢
      rw [Nat.zero_sub]
      exact ⟨db, by simp, hrefl, fun _ => rfl⟩
    | cons c rest =>
      have hsome : db.held u.id product.id = rest.length + 1 := by rw [Db.held, hrows]; rfl
      have hset := deleteFirst_sets hrows
      obtain ⟨db₂, heval, hset', -⟩ := ih (upToDate_reloaded u product
        { db with carts := db.carts.delete (·.id == c.id) })
      refine ⟨db₂, ?_, ?_, fun h => by omega⟩
      · simp only [List.head?_cons, Prog.orRaise_some, Prog.ret_bind]
        rw [eval_perform_ok rfl, eval_bind_ok (firstActive_eval (upToDate_none _ _ _)), heval,
          hset.held, hsome]
        simp
      · rw [hset.held, hsome] at hset'
        rw [hsome]
        have hcount : rest.length + 1 - 1 - n = rest.length + 1 - (n + 1) := by omega
        rw [hcount] at hset'
        exact hset.trans hset'

/-! ## The action -/

/-- What both branches end with only reads. -/
theorem reportQuantity_eval [Env] (u : User) (product : Product) (db : Db) :
    (reportQuantity u product).eval db = ((db.addPrices 0 (db.activeCarts u.id)).map
      (.quantityStream product (db.activeCarts u.id).length), db) := by
  unfold reportQuantity
  rw [total_bind_eval]
  cases db.addPrices 0 (db.activeCarts u.id) <;> rfl

end CartsController

open CartsController

/-- The request gets past the checks: it names a product there is, and a
number that the stock allows. -/
structure Db.AllowsQuantity (db : Db) (p : Option CartParams) (quantity : Option String)
    (product : Product) (q : Int) : Prop where
  named : ∃ params ∈ p, params.productId.bind db.products.find? = some product
  asked : ∃ text ∈ quantity, toI text = q
  inStock : ∃ stock ∈ product.quantity, q ≤ stock

variable {db : Db} {u : User} {p : Option CartParams} {quantity : Option String}
  {product : Product} {q : Int}

theorem Db.AllowsQuantity.find?_self (h : db.AllowsQuantity p quantity product q) :
    db.products.find? product.id = some product := by
  obtain ⟨params, -, hfind⟩ := h.named
  exact find?_named hfind

/-- Otherwise nothing is written. -/
theorem updateQuantity_refused [Env] (h : ∀ product q, ¬ db.AllowsQuantity p quantity product q) :
    ((updateQuantity u p quantity).eval db).2 = db := by
  unfold updateQuantity
  cases p with
  | none => rfl
  | some params =>
    cases hfind : params.productId.bind db.products.find? with
    | none => rw [eval_bind_error (setProduct_eval_error hfind)]
    | some product =>
      rw [eval_bind_ok (setProduct_eval_ok hfind)]
      cases quantity with
      | none => rfl
      | some text =>
        cases hstock : product.quantity with
        | none => rfl
        | some stock =>
          have hmore : toI text > stock := by
            by_contra hle
            exact h product (toI text) ⟨⟨params, rfl, hfind⟩, ⟨text, rfl, rfl⟩,
              ⟨stock, hstock, not_lt.mp hle⟩⟩
          simp [hmore]

/-- Past the checks the rows are set to the number asked for, and to none
if that is negative; then the action reports, or it has already raised. -/
theorem updateQuantity_sets [Env] (huser : (db.users.find? u.id).isSome = true)
    (h : db.AllowsQuantity p quantity product q) :
    ∃ db', SetsRows u.id product.id q.toNat db db' ∧
      (db.held u.id product.id = q.toNat → db' = db) ∧
      (updateQuantity u p quantity).eval db =
        if 0 ≤ q then (reportQuantity u product).eval db' else (.error .noMethodError, db') := by
  have hproduct : (db.products.find? product.id).isSome = true := by rw [h.find?_self]; rfl
  obtain ⟨⟨params, rfl, hfind⟩, ⟨text, rfl, rfl⟩, ⟨stock, hstock, hle⟩⟩ := h
  have hheld : (db.activeCartsOf u.id product.id).length = db.held u.id product.id := rfl
  unfold updateQuantity
  rw [eval_bind_ok (setProduct_eval_ok hfind)]
  simp only [Option.mem_def.mp hstock, Prog.orRaise_some, Prog.ret_bind, not_lt.mpr hle, if_false,
    eval_select_bind, hheld]
  by_cases hmore : toI text > db.held u.id product.id
  · obtain ⟨db', heval, hset⟩ := times_insertCart_sets
      (toI text - db.held u.id product.id).toNat huser hproduct
    have hcount : db.held u.id product.id + (toI text - db.held u.id product.id).toNat =
        (toI text).toNat := by omega
    rw [hcount] at hset
    have hpos : 0 ≤ toI text := by omega
    refine ⟨db', hset, fun h => by omega, ?_⟩
    simp only [hmore, hpos, if_true, eval_select_bind, hheld]
    rw [eval_bind_ok heval]
  · obtain ⟨db', heval, hset, hsame⟩ := removeCarts_sets u product
      (db.held u.id product.id - toI text).toNat (upToDate_none u product db)
    have hcount : db.held u.id product.id - (db.held u.id product.id - toI text).toNat =
        (toI text).toNat := by omega
    rw [hcount] at hset hsame
    refine ⟨db', hset, fun h => hsame h.symm, ?_⟩
    simp only [hmore, if_false, eval_select_bind, hheld]
    by_cases hpos : 0 ≤ toI text
    · have hpasses : (db.held u.id product.id - toI text).toNat ≤ db.held u.id product.id := by
        omega
      rw [if_pos hpasses] at heval
      rw [if_pos hpos, eval_bind_ok heval]
    · have hpasses : ¬ (db.held u.id product.id - toI text).toNat ≤ db.held u.id product.id := by
        omega
      rw [if_neg hpasses] at heval
      rw [if_neg hpos, eval_bind_error heval]

/-! ## What is shown -/

/-- Everything else in the user's cart has a price. -/
def Db.OthersPriced (db : Db) (u p : Id) : Prop :=
  ∀ i ∈ db.cartIds u, i ≠ p → ∃ product price,
    db.products.find? i = some product ∧ product.price = some price

/-- With this product priced too, so is the cart that is left. -/
theorem SetsRows.cartPriced_iff {i : Id} {n : Nat} {db' : Db}
    (h : SetsRows i product.id n db db') (hself : db.products.find? product.id = some product)
    {price : Int} (hprice : product.price = some price) :
    db'.CartPriced i ↔ db.OthersPriced i product.id := by
  unfold Db.CartPriced Db.OthersPriced
  rw [h.products_eq]
  constructor
  · intro hpriced j hj hne
    exact hpriced j ((h.mem_cartIds_iff hne).mpr hj)
  · intro hothers j hj
    by_cases hne : j = product.id
    · exact ⟨product, price, hne ▸ hself, hprice⟩
    · exact hothers j ((h.mem_cartIds_iff hne).mp hj) hne

/-- Where the prices are known, the answer has the count and the total of
the cart that is left. -/
theorem report_shown [Env] {price : Int} (hprice : product.price = some price)
    (hpriced : db.CartPriced u.id) :
    ((reportQuantity u product).eval db).1.bind (db.template u) =
      .ok (.quantity (price * db.held u.id product.id) (db.cartValue u.id)
        (db.activeCarts u.id).length) := by
  rw [reportQuantity_eval, total_eq_ok.mpr ⟨hpriced, rfl⟩]
  simp [Except.map, Except.bind, Db.template, Db.subtotalOf, Db.subtotal, hprice, Db.held]

/-- Where they are not, there is no answer. -/
theorem report_raises [Env] (h : ∀ price, product.price = some price → ¬ db.CartPriced u.id) :
    ∃ e, ((reportQuantity u product).eval db).1.bind (db.template u) = .error e := by
  rw [reportQuantity_eval]
  cases htotal : db.addPrices 0 (db.activeCarts u.id) with
  | error e => exact ⟨e, rfl⟩
  | ok n =>
    cases hprice : product.price with
    | none => exact ⟨.noMethodError, by
        simp [Except.map, Except.bind, Db.template, Db.subtotalOf, Db.subtotal, hprice]⟩
    | some price => exact absurd (total_eq_ok.mp htotal).1 (h price hprice)

/-- A request past the checks, with the database it leaves and what it
shows. -/
theorem updateQuantity_cases [Env] (huser : (db.users.find? u.id).isSome = true)
    (h : db.AllowsQuantity p quantity product q) :
    ∃ db', ((updateQuantity u p quantity).eval db).2 = db' ∧
      SetsRows u.id product.id q.toNat db db' ∧
      (db.held u.id product.id = q.toNat → db' = db) ∧
      Route.rendered (.carts (.updateQuantity p quantity)) u db =
        if 0 ≤ q then ((reportQuantity u product).eval db').1.bind (db'.template u)
        else .error .noMethodError := by
  obtain ⟨db', hset, hsame, heval⟩ := updateQuantity_sets huser h
  have haction : CartsRoute.action u (.updateQuantity p quantity) = updateQuantity u p quantity :=
    rfl
  rw [CartsRoute.rendered_eq, haction, heval]
  have hreads : ((reportQuantity u product).eval db').2 = db' := by rw [reportQuantity_eval]
  by_cases hpos : 0 ≤ q
  · simp only [hpos, if_true, hreads]
    exact ⟨db', rfl, hset, hsame, rfl⟩
  · simp only [hpos, if_false]
    exact ⟨db', rfl, hset, hsame, rfl⟩

/-- A number from zero to the stock is answered if and only if the prices
are known. -/
theorem updateQuantity_answered [Env] (huser : (db.users.find? u.id).isSome = true)
    (h : db.AllowsQuantity p quantity product q) (hpos : 0 ≤ q) :
    ∃ db', ((updateQuantity u p quantity).eval db).2 = db' ∧
      SetsRows u.id product.id q.toNat db db' ∧
      (∀ price, product.price = some price → db.OthersPriced u.id product.id →
        Route.rendered (.carts (.updateQuantity p quantity)) u db =
          .ok (.quantity (price * q) (db'.cartValue u.id) (db'.activeCarts u.id).length)) ∧
      (¬ (product.price.isSome = true ∧ db.OthersPriced u.id product.id) →
        ∃ e, Route.rendered (.carts (.updateQuantity p quantity)) u db = .error e) := by
  obtain ⟨db', hafter, hset, -, hshown⟩ := updateQuantity_cases huser h
  rw [if_pos hpos] at hshown
  rw [hshown]
  refine ⟨db', hafter, hset, ?_, ?_⟩
  · intro price hprice hothers
    have hheld : (db'.held u.id product.id : Int) = q := by rw [hset.held]; omega
    rw [report_shown hprice ((hset.cartPriced_iff h.find?_self hprice).mpr hothers), hheld]
  · intro hunpriced
    refine report_raises fun price hprice hpriced => hunpriced ⟨by rw [hprice]; rfl, ?_⟩
    exact (hset.cartPriced_iff h.find?_self hprice).mp hpriced

/-- A number from zero to the stock becomes the number of the user's active
rows of the product, and no other row is touched. The answer has the new
subtotal, total and count, as long as what is in the cart has prices. -/
theorem quantity_set_and_reported [Env] {params : CartParams} {text : String} {stock : Int}
    (huser : (db.users.find? u.id).isSome = true)
    (hfind : params.productId.bind db.products.find? = some product)
    (hstock : product.quantity = some stock) (hpos : 0 ≤ toI text) (hle : toI text ≤ stock) :
    ∃ db', ((updateQuantity u (some params) (some text)).eval db).2 = db' ∧
      SetsRows u.id product.id (toI text).toNat db db' ∧
      ∀ price, product.price = some price → db.OthersPriced u.id product.id →
        Route.rendered (.carts (.updateQuantity (some params) (some text))) u db =
          .ok (.quantity (price * toI text) (db'.cartValue u.id)
            (db'.activeCarts u.id).length) := by
  have hallows : db.AllowsQuantity (some params) (some text) product (toI text) :=
    ⟨⟨params, rfl, hfind⟩, ⟨text, rfl, rfl⟩, ⟨stock, hstock, hle⟩⟩
  obtain ⟨db', hafter, hset, hshown, -⟩ := updateQuantity_answered huser hallows hpos
  exact ⟨db', hafter, hset, hshown⟩

/-- Ann has two leashes and a bowl in the cart, and has removed a leash
before; Bob has a leash. -/
def annsShop (bowlPrice : Option Int) : Db where
  users := Table.empty.insertAll [{ email := "ann@pet.vn" }, { email := "bob@pet.vn" }]
  products := Table.empty.insertAll
    [{ name := some "Leash", price := some 120, quantity := some 5 },
      { name := some "Bowl", price := bowlPrice, quantity := some 3 }]
  carts := Table.empty.insertAll
    [{ userId := 1, productId := 1, status := .inactive }, { userId := 1, productId := 1 },
      { userId := 2, productId := 1 }, { userId := 1, productId := 2 },
      { userId := 1, productId := 1 }]

def leash : Product :=
  { id := 1, name := some "Leash", price := some 120, quantity := some 5 }

theorem annsShop_othersPriced : (annsShop (some 30)).OthersPriced ann.id leash.id := by
  have hids : (annsShop (some 30)).cartIds ann.id = [1, 2, 1] := by decide
  intro i hi hne
  simp only [hids, List.mem_cons, List.not_mem_nil, or_false] at hi
  obtain rfl | rfl | rfl := hi
  · exact absurd rfl hne
  · exact ⟨_, 30, rfl, rfl⟩
  · exact absurd rfl hne

section Example

attribute [local instance] Env.caseInsensitive

theorem quantity_set_and_reported_fourLeashes :
    toI "4" = 4 ∧ ∃ db', ((updateQuantity ann (some { productId := some 1 }) (some "4")).eval
        (annsShop (some 30))).2 = db' ∧
      SetsRows 1 1 4 (annsShop (some 30)) db' ∧
      @Route.rendered .caseInsensitive
          (.carts (.updateQuantity (some { productId := some 1 }) (some "4"))) ann
          (annsShop (some 30)) =
        .ok (.quantity 480 (db'.cartValue 1) (db'.activeCarts 1).length) := by
  obtain ⟨db', hafter, hset, hshown⟩ := @quantity_set_and_reported (annsShop (some 30)) ann leash
    .caseInsensitive { productId := some 1 } "4" 5 (by decide) (by decide) rfl (by decide)
    (by decide)
  exact ⟨by decide, db', hafter, hset, hshown 120 rfl annsShop_othersPriced⟩

/-- A bowl that has no price is in the way of one leash. -/
theorem unpriced_bowl_raises :
    (annsShop none).products.find? 1 = some leash ∧ toI "1" = 1 ∧
    ((updateQuantity ann (some { productId := some 1 }) (some "1")).eval
      (annsShop none)).2.held 1 1 = 1 ∧
    @Route.rendered .caseInsensitive
        (.carts (.updateQuantity (some { productId := some 1 }) (some "1"))) ann (annsShop none) =
      .error .typeError := by
  decide

end Example

/-! ## Failed changes -/

/-- The request ends in an exception or is refused for the stock. -/
def ChangeFails (shown : Except Failure Body) : Prop :=
  (∃ e, shown = .error e) ∨ ∃ stock, shown = .ok (.answer (cannotAdd "/carts" stock))

/-- The request fails with rows already changed: for a negative number after
all rows have gone, for another number because of a price. -/
def Db.FailsHalfway (db : Db) (u : Id) (p : Option CartParams) (quantity : Option String) : Prop :=
  ∃ product q, db.AllowsQuantity p quantity product q ∧
    (q < 0 ∧ 0 < db.held u product.id ∨
      0 ≤ q ∧ q ≠ db.held u product.id ∧
        ¬ (product.price.isSome = true ∧ db.OthersPriced u product.id))

theorem not_changeFails_quantity {subtotal total : Int} {cart : Nat} :
    ¬ ChangeFails (.ok (.quantity subtotal total cart)) := by
  rintro (⟨e, h⟩ | ⟨stock, h⟩) <;> simp at h

/-- A failed change leaves the carts as they were, except where the request
gets past the checks and then runs out of rows or prices. -/
theorem failed_change_keeps_carts_iff [Env] (db : Db) (u : User) (p : Option CartParams)
    (quantity : Option String) (huser : (db.users.find? u.id).isSome = true) :
    (ChangeFails (Route.rendered (.carts (.updateQuantity p quantity)) u db) →
        ((updateQuantity u p quantity).eval db).2.carts = db.carts) ↔
      ¬ db.FailsHalfway u.id p quantity := by
  constructor
  · rintro hkeeps ⟨product, q, hallows, ⟨hneg, hheld⟩ | ⟨hpos, hne, hunpriced⟩⟩
    · obtain ⟨db', hafter, hset, -, hshown⟩ := updateQuantity_cases huser hallows
      rw [if_neg (by omega)] at hshown
      have hsame := hkeeps (.inl ⟨_, hshown⟩)
      rw [hafter] at hsame
      exact hset.carts_ne (by omega) hsame
    · obtain ⟨db', hafter, hset, -, hraises⟩ := updateQuantity_answered huser hallows hpos
      have hsame := hkeeps (.inl (hraises hunpriced))
      rw [hafter] at hsame
      exact hset.carts_ne (by omega) hsame
  · intro hnot hfails
    by_cases hallows : ∃ product q, db.AllowsQuantity p quantity product q
    · obtain ⟨product, q, hallows⟩ := hallows
      obtain ⟨db', hafter, -, hsame, -⟩ := updateQuantity_cases huser hallows
      have hheld : db.held u.id product.id = q.toNat := by
        by_contra hne
        refine hnot ⟨product, q, hallows, ?_⟩
        by_cases hpos : 0 ≤ q
        · refine .inr ⟨hpos, by omega, fun hpriced => ?_⟩
          obtain ⟨price, hprice⟩ := Option.isSome_iff_exists.mp hpriced.1
          obtain ⟨_, -, -, hshown, -⟩ := updateQuantity_answered huser hallows hpos
          rw [hshown price hprice hpriced.2] at hfails
          exact not_changeFails_quantity hfails
        · exact .inl (by omega)
      rw [hafter, hsame hheld]
    · rw [updateQuantity_refused fun product q h => hallows ⟨product, q, h⟩]

section Example

attribute [local instance] Env.caseInsensitive

theorem failed_change_keeps_carts_sixLeashes :
    ¬ (annsShop (some 30)).FailsHalfway 1 (some { productId := some 1 }) (some "6") ∧
    (ChangeFails (@Route.rendered .caseInsensitive
        (.carts (.updateQuantity (some { productId := some 1 }) (some "6"))) ann
        (annsShop (some 30))) →
      ((updateQuantity ann (some { productId := some 1 }) (some "6")).eval
        (annsShop (some 30))).2.carts = (annsShop (some 30)).carts) := by
  have hnot : ¬ (annsShop (some 30)).FailsHalfway ann.id (some { productId := some 1 })
      (some "6") := by
    rintro ⟨product, q, ⟨⟨params, hparams, hfind⟩, ⟨text, htext, rfl⟩, ⟨stock, hstock, hle⟩⟩, -⟩
    obtain rfl := Option.some.inj hparams
    obtain rfl := Option.some.inj htext
    obtain rfl : leash = product := Option.some.inj hfind
    obtain rfl : 5 = stock := Option.some.inj hstock
    exact absurd hle (by decide)
  exact ⟨hnot, (@failed_change_keeps_carts_iff .caseInsensitive (annsShop (some 30)) ann
    (some { productId := some 1 }) (some "6") (by decide)).mpr hnot⟩

/-- A negative number takes both leashes from Ann's cart and then raises. -/
theorem negative_quantity_empties_cart :
    toI "-1" = -1 ∧ (annsShop (some 30)).held 1 1 = 2 ∧
    @Route.rendered .caseInsensitive
        (.carts (.updateQuantity (some { productId := some 1 }) (some "-1"))) ann
        (annsShop (some 30)) = .error .noMethodError ∧
    ((updateQuantity ann (some { productId := some 1 }) (some "-1")).eval
      (annsShop (some 30))).2.carts ≠ (annsShop (some 30)).carts := by
  decide

end Example

end PetParadise
