/-
PetParadise.Shop.ConcurrentCheckout — checkouts and add-to-cart requests
of one user, interleaved.

A checkout counts the active rows, writes one line per product from that
count, and at the end deactivates ALL rows of the user. Nothing ties the
three together: a second checkout may count the same rows, and a row added
after the count is deactivated without having been billed.

The stretch from the count to the deactivation is the window of a
checkout. `Stage` reads off a thread's own statements where it is, and
`checkoutDiscipline` is what both checkouts and `create` promise:
bill, lines and deactivation come in this order, the lines are those of
the count, and rows are only added outside. If no request changes the cart
while another one's window is open, every deactivated row is billed
exactly once, for any number of requests and any interleaving.
-/
import PetParadise.App.Routes
import PetParadise.Shop.CheckoutFaults

namespace PetParadise

open Store PetParadise.Action

/-! ## What is counted -/

/-- Units of a product in the stored bill lines. -/
def Db.unitsBilled (db : Db) (p : Id) : Int :=
  sumWhere BillProduct.quantity (·.productId == p) db.billProducts.rows

/-- Inactive rows of a user and a product. -/
def Db.inactiveRows (db : Db) (u p : Id) : Nat :=
  db.carts.rows.countP (fun c => c.userId == u && c.productId == p && c.status == .inactive)

/-- Between the two databases as many units of each product were billed as
rows of it were deactivated. No request in question removes a line or a
row, or makes a row active again. -/
def BilledOnce (u : Id) (db db' : Db) : Prop :=
  ∀ p, db'.unitsBilled p - db.unitsBilled p =
    (db'.inactiveRows u p : Int) - db.inactiveRows u p

theorem Db.count_cartIds (db : Db) (u p : Id) :
    (db.cartIds u).count p = db.carts.rows.countP
      (fun c => c.userId == u && c.productId == p && !(c.status == .inactive)) := by
  rw [Db.cartIds, Db.activeCarts, List.count, List.countP_map, List.countP_filter]
  refine List.countP_congr fun c _ => ?_
  cases c.status <;> simp [and_comm]

/-! ## The stages of a request -/

inductive Stage where
  | before
  | counted (rows : List Id) (bill : Option Id) (written : List BillProduct)
  | emptied

namespace Stage

/-- The bill that has been stored. -/
def bill : Stage → Option Id
  | counted _ bill _ => bill
  | _ => none

/-- Units that are billed while their rows are still active. -/
def owed (p : Id) : Stage → Int
  | counted _ _ written => sumWhere BillProduct.quantity (·.productId == p) written
  | _ => 0

/-- The cart has been counted and not yet been emptied. -/
def isCounted : Stage → Bool
  | counted .. => true
  | _ => false

end Stage

/-- How a checkout or an add-to-cart request of user `u` proceeds. -/
def checkoutDiscipline (u : Id) : Discipline Db Stmt Stage where
  init := .before
  advance
    | .before, db, .select .groupedCount => .counted (db.cartIds u) none []
    | .counted rows _ written, db, .insertBill _ => .counted rows (some db.bills.next) written
    | .counted rows bill written, _, .insertBillProduct l => .counted rows bill (written ++ [l])
    | .counted .., _, .deactivateCarts .. => .emptied
    | g, _, _ => g
  allows
    | .before, _, .insertCart v _ => v = u
    | .counted _ none written, _, .insertBill b => written = [] ∧ b.userId = u
    | .counted _ (some billId) _, db, .insertBillProduct l =>
        l.billId = billId ∧ (db.products.find? l.productId).isSome = true ∧
          fitsDecimal l.totalAmount = true
    | g@(.counted rows ..), _, .deactivateCarts v q =>
        v = u ∧ q = none ∧ ∀ p, g.owed p = rows.count p
    | _, _, w => w.Reads
  ends
    | .counted _ _ written => written = []
    | _ => True

/-- Every active row has a priced product and every line fits
`decimal(10,0)`. -/
structure Db.LinesFit (db : Db) (u : Id) : Prop where
  priced : db.CartPriced u
  fit : ∀ i ∈ db.cartIds u, fitsDecimal (db.priceOf i * (db.cartIds u).count i) = true

instance (db : Db) (u : Id) : Decidable (db.LinesFit u) :=
  decidable_of_iff (db.CartPriced u ∧
      ∀ i ∈ db.cartIds u, fitsDecimal (db.priceOf i * (db.cartIds u).count i) = true)
    ⟨fun h => ⟨h.1, h.2⟩, fun h => ⟨h.priced, h.fit⟩⟩

/-- What a thread may rely on: products and user do not change, its bill
stays, and a cart it counts can be billed. -/
structure CheckoutRely (products : Table Product) (u : Id) (g : Stage) (db : Db) (w : Stmt) :
    Prop where
  products_eq : db.products = products
  user : (db.users.find? u).isSome = true
  bill : ∀ billId ∈ g.bill, (db.bills.find? billId).isSome = true
  fit : w = .select .groupedCount → db.LinesFit u

/-! ## Both checkouts and `create` keep to it -/

section Follows

variable {products : Table Product} {u : Id}

/-- The lines of a priced cart hold each of its rows once. -/
theorem Db.CartPriced.units_cartLines {db : Db} (h : db.CartPriced u) (billId p : Id) :
    sumWhere BillProduct.quantity (·.productId == p) (db.cartLines u billId) =
      (db.cartIds u).count p := by
  have hcomp : ((db.cartLines u billId).map fun l => if l.productId == p then l.quantity else 0) =
      ((db.cartProducts u).map Product.id).map
        (fun i => if i == p then ((db.cartIds u).count i : Int) else 0) := by
    rw [Db.cartLines, List.map_map, List.map_map]
    rfl
  rw [sumWhere_eq_sum, hcomp, (h.perm.map _).sum_eq, sum_group_eq_count]

/-- The lines that are left, the deactivation, and what follows it without
a statement. -/
theorem finish_follows [Env] {α : Type} {rows : List Id} {billId : Id}
    {ls written : List BillProduct} {k : Action α} (hk : k.Only (fun _ => False))
    (hls : ∀ l ∈ ls, l.billId = billId ∧ (products.find? l.productId).isSome = true ∧
      fitsDecimal l.totalAmount = true)
    (hunits : ∀ p, sumWhere BillProduct.quantity (·.productId == p) (written ++ ls) =
      rows.count p) :
    Prog.Follows (checkoutDiscipline u) (CheckoutRely products u) exec
      (.counted rows (some billId) written)
      (writeLines ls >>= fun _ => Prog.perform (.deactivateCarts u none) >>= fun _ => k) := by
  induction ls generalizing written with
  | nil =>
    refine Prog.follows_stmt (fun s _ => ?_) (fun s _ => ⟨_, rfl⟩) (fun s _ => ?_)
    · refine ⟨rfl, rfl, fun p => ?_⟩
      rw [← hunits p, List.append_nil]
      rfl
    · refine Prog.follows_of_only trivial (hk.mono fun _ h => h.elim)
  | cons l ls ih =>
    obtain ⟨hbill, hprod, hfit⟩ := hls l List.mem_cons_self
    have hshape : (writeLines (l :: ls) >>= fun _ =>
        Prog.perform (.deactivateCarts u none) >>= fun _ => k) =
        .stmt (.insertBillProduct l) (fun _ => writeLines ls >>= fun _ =>
          Prog.perform (.deactivateCarts u none) >>= fun _ => k) := rfl
    rw [hshape]
    refine Prog.follows_stmt (fun s hs => ?_) (fun s hs => ?_) (fun s hs => ?_)
    · refine ⟨hbill, ?_, hfit⟩
      rw [hs.products_eq]
      exact hprod
    · have hstored : (s.bills.find? l.billId).isSome = true := by
        rw [hbill]
        exact hs.bill billId rfl
      rw [exec_insertBillProduct hstored (by rw [hs.products_eq]; exact hprod), if_pos hfit]
      exact ⟨_, rfl⟩
    · refine ih (fun l' hl' => hls l' (List.mem_cons_of_mem _ hl')) fun p => ?_
      rw [List.append_assoc]
      exact hunits p

/-- From the count on: the bill, and what `f` does with it. -/
theorem createBill_follows [Env] {α : Type} {rows : List Id} {b : Bill} (hb : b.userId = u)
    {f : Option Id → Action α}
    (hf : ∀ billId, Prog.Follows (checkoutDiscipline u) (CheckoutRely products u) exec
      (.counted rows (some billId) []) (f (some billId))) :
    Prog.Follows (checkoutDiscipline u) (CheckoutRely products u) exec (.counted rows none [])
      (createBill b >>= f) := by
  have hshape : (createBill b >>= f) = .stmt (.insertBill b) (fun s =>
      f (if (s.users.find? b.userId).isSome then some s.bills.next else none)) := rfl
  rw [hshape]
  intro s hs
  have huser : (s.users.find? b.userId).isSome = true := by rw [hb]; exact hs.user
  refine ⟨⟨rfl, hb⟩, ?_⟩
  rw [exec_insertBill huser]
  cases fitsDecimal b.amount with
  | false => exact (rfl : ([] : List BillProduct) = [])
  | true =>
    cases b.fits with
    | false => exact (rfl : ([] : List BillProduct) = [])
    | true =>
      change Prog.Follows _ _ _ (Stage.counted rows (some s.bills.next) [])
        (f (if (s.users.find? b.userId).isSome then some s.bills.next else none))
      rw [if_pos huser]
      exact hf s.bills.next

/-- The lines of a counted cart, with the products loaded later. -/
theorem lines_follow [Env] {α : Type} {db s : Db} (hfit : db.LinesFit u)
    (hdb : db.products = products)
    (hs : s.products = products) {billId : Id} {k : Action α} (hk : k.Only (fun _ => False)) :
    Prog.Follows (checkoutDiscipline u) (CheckoutRely products u) exec
      (.counted (db.cartIds u) (some billId) [])
      (Prog.each (s.productsIn ((db.groupedCount u).map Prod.fst))
          (addLine (some billId) (db.groupedCount u)) >>= fun _ =>
        Prog.perform (.deactivateCarts u none) >>= fun _ => k) := by
  have hload : s.productsIn ((db.groupedCount u).map Prod.fst) = db.cartProducts u := by
    rw [Db.cartProducts, Db.productsIn, Db.productsIn, hs, hdb]
  rw [hload, hfit.priced.each_addLine]
  refine finish_follows hk (fun l hl => ?_) (fun p => ?_)
  · obtain ⟨q, hq, rfl⟩ := List.mem_map.mp hl
    obtain ⟨hmem, hid⟩ := Db.mem_cartProducts.mp hq
    refine ⟨rfl, ?_, hfit.fit q.id hid⟩
    rw [← hdb]
    exact Option.isSome_of_eq_some (db.products.find?_of_mem hmem)
  · rw [List.nil_append]
    exact hfit.priced.units_cartLines billId p

/-- A query that leaves the stage as it is. -/
theorem select_follows [Env] {α β : Type} {g : Stage} {q : Query} {f : Db → α} {k : α → Action β}
    (hreads : ∀ s, (checkoutDiscipline u).allows g s (.select q))
    (hk : ∀ s, CheckoutRely products u g s (.select q) →
      Prog.Follows (checkoutDiscipline u) (CheckoutRely products u) exec
        ((checkoutDiscipline u).advance g s (.select q)) (k (f s))) :
    Prog.Follows (checkoutDiscipline u) (CheckoutRely products u) exec g (select q f >>= k) :=
  Prog.follows_stmt (fun s _ => hreads s) (fun s _ => ⟨s, rfl⟩) hk

/-- `total`, which both checkouts begin with. -/
theorem total_follows [Env] {α : Type} (user : User) {k : Int → Action α}
    (hk : ∀ n, Prog.Follows (checkoutDiscipline u) (CheckoutRely products u) exec .before (k n)) :
    Prog.Follows (checkoutDiscipline u) (CheckoutRely products u) exec .before
      (CartsController.total user >>= k) := by
  unfold CartsController.total
  rw [bind_assoc]
  refine select_follows (fun _ => rfl) fun s _ => ?_
  cases s.addPrices 0 (s.activeCarts user.id) with
  | error e => exact trivial
  | ok n => exact hk n

theorem cash_follows [Env] (user : User) (randomToken : String) :
    Prog.Follows (checkoutDiscipline user.id) (CheckoutRely products user.id) exec .before
      (CartsController.cash user randomToken) := by
  refine total_follows user fun n => ?_
  refine select_follows (fun _ => rfl) fun db hdb => ?_
  refine createBill_follows (u := user.id) rfl fun billId => ?_
  refine select_follows (fun _ => rfl) fun s hs => ?_
  exact lines_follow (hdb.fit rfl) hdb.products_eq hs.products_eq trivial

theorem create_follows [Env] (user : User) (p : Option CartsController.CartParams) :
    Prog.Follows (checkoutDiscipline user.id) (CheckoutRely products user.id) exec .before
      (CartsController.create user p) := by
  refine Prog.follows_of_only trivial ?_
  simp [CartsController.create, CartsController.setProduct, checkoutDiscipline]

variable [Env]

theorem checkoutMomo_follows (user : User) (c : MomoCheckout) :
    Prog.Follows (checkoutDiscipline user.id) (CheckoutRely products user.id) exec .before
      (CartsController.checkoutMomo user c) := by
  refine total_follows user fun n => ?_
  unfold Momo.GetPaymentUrlService.call
  simp only [bind_assoc]
  refine select_follows (fun _ => rfl) fun db hdb => ?_
  refine select_follows (fun _ => rfl) fun s hs => ?_
  cases Momo.GetPaymentUrlService.items c.itemId (db.groupedCount user.id)
      (s.productsIn ((db.groupedCount user.id).map Prod.fst)) with
  | error e => exact (rfl : ([] : List BillProduct) = [])
  | ok items =>
    refine Prog.follows_stmt (fun _ _ => rfl) (fun s _ => ⟨s, rfl⟩) (fun _ _ => ?_)
    split
    · exact (rfl : ([] : List BillProduct) = [])
    · next resultCode payUrl hanswer =>
      -- the redirect is decided without a statement
      have htail : Prog.Only (fun _ => False) (do
          let x ← (pure (resultCode, payUrl) : Action (Scalar × Option String))
          if x.1 = .int 0 then do
            let url ← Prog.orRaise x.2 .redirectError
            return .external url
          else return redirectNotice "/carts" "Checkout momo fail!" : Action Response) := by
        simp
      split
      · unfold Momo.GetPaymentUrlService.accept
        simp only [bind_assoc]
        refine createBill_follows (u := user.id) rfl fun billId => ?_
        exact lines_follow (hdb.fit rfl) hdb.products_eq hs.products_eq htail
      · exact Prog.follows_of_only rfl (htail.mono fun _ h => h.elim)

end Follows

/-! ## What an allowed statement does -/

/-- The statements of the three actions, stage by stage. -/
theorem allows_cases {u : Id} {g : Stage} {db : Db} {w : Stmt}
    (h : (checkoutDiscipline u).allows g db w) :
    w.Reads ∨
    (∃ p, g = .before ∧ w = .insertCart u p) ∨
    (∃ rows b, g = .counted rows none [] ∧ w = .insertBill b ∧ b.userId = u) ∨
    (∃ rows billId written l, g = .counted rows (some billId) written ∧
      w = .insertBillProduct l ∧ l.billId = billId ∧
      (db.products.find? l.productId).isSome = true ∧ fitsDecimal l.totalAmount = true) ∨
    (∃ rows bill written, g = .counted rows bill written ∧ w = .deactivateCarts u none ∧
      ∀ p, g.owed p = rows.count p) := by
  cases g with
  | before =>
    cases w with
    | insertCart v p => cases h; exact .inr (.inl ⟨p, rfl, rfl⟩)
    | _ => exact .inl h
  | emptied => exact .inl h
  | counted rows bill written =>
    cases w with
    | deactivateCarts v q =>
      have hd : v = u ∧ q = none ∧
          ∀ p, (Stage.counted rows bill written).owed p = rows.count p := by
        cases bill <;> exact h
      obtain ⟨rfl, rfl, howed⟩ := hd
      exact .inr (.inr (.inr (.inr ⟨rows, bill, written, rfl, rfl, howed⟩)))
    | insertBill b =>
      cases bill with
      | none =>
        obtain ⟨rfl, hb⟩ := h
        exact .inr (.inr (.inl ⟨rows, b, rfl, rfl, hb⟩))
      | some billId => exact .inl h
    | insertBillProduct l =>
      cases bill with
      | none => exact .inl h
      | some billId => exact .inr (.inr (.inr (.inl ⟨rows, billId, written, l, rfl, rfl, h⟩)))
    | _ => cases bill <;> exact .inl h

/-- A query moves a thread on only by counting the cart. -/
theorem advance_reads {u : Id} (g : Stage) (db : Db) {w : Stmt} (hw : w.Reads) :
    (checkoutDiscipline u).advance g db w = g ∨
      (g = .before ∧ w = .select .groupedCount ∧
        (checkoutDiscipline u).advance g db w = .counted (db.cartIds u) none []) := by
  cases w with
  | select q =>
    cases g with
    | before => cases q <;> first | exact .inl rfl | exact .inr ⟨rfl, rfl, rfl⟩
    | _ => exact .inl rfl
  | post body => cases g <;> exact .inl rfl
  | _ => cases hw

/-- The deactivation turns exactly the active rows. -/
theorem Db.inactiveRows_deactivated (db : Db) (u p : Id) :
    (db.deactivated u).inactiveRows u p = db.inactiveRows u p + (db.cartIds u).count p := by
  have hall : (db.deactivated u).inactiveRows u p =
      db.carts.rows.countP (fun c => c.userId == u && c.productId == p) := by
    simp only [Db.inactiveRows, Db.deactivated, Table.rows_modify, List.countP_map]
    refine List.countP_congr fun c _ => ?_
    by_cases hu : c.userId = u
    · simp [Cart.picked, Cart.deactivate, hu]
    · simp [Cart.picked, hu]
  rw [hall, Db.count_cartIds, Db.inactiveRows,
    List.countP_eq_countP_filter_add _ _ (fun c : Cart => c.status == .inactive),
    List.countP_filter, List.countP_filter]

theorem Db.cartIds_deactivated (db : Db) (u : Id) : (db.deactivated u).cartIds u = [] := by
  rw [Db.cartIds, Db.activeCarts_deactivated, List.map_nil]

/-- A new row is active. -/
theorem Db.inactiveRows_insertCart (db : Db) (u v i p : Id) :
    ({ db with carts := db.carts.insert { userId := v, productId := i } } : Db).inactiveRows u p =
      db.inactiveRows u p := by
  unfold Db.inactiveRows
  rw [Table.rows_insert, List.countP_append, Nat.add_eq_left, List.countP_singleton]
  exact if_neg (by simp [Row.withId])

/-- A statement that changes which rows of the user are active. -/
def Stmt.changesCart (u : Id) (db : Db) : Stmt → Bool
  | .insertCart .. => true
  | .deactivateCarts .. => db.cartIds u != []
  | _ => false

/-- One allowed statement, seen from all sides: what everybody relies on
stays, the cart changes only by statements that say so, and the units
billed are the rows deactivated and what the thread owes. -/
structure Effect (u : Id) (g : Stage) (w : Stmt) (db db' : Db) : Prop where
  products : db'.products = db.products
  users : db'.users = db.users
  bills : ∀ i, (db.bills.find? i).isSome = true → (db'.bills.find? i).isSome = true
  own_bill : ∀ i ∈ ((checkoutDiscipline u).advance g db w).bill, (db'.bills.find? i).isSome = true
  cart : w.changesCart u db = false → db'.cartIds u = db.cartIds u
  own_rows : ∀ rows bill written,
    (checkoutDiscipline u).advance g db w = .counted rows bill written →
    ∀ p, (db'.cartIds u).count p = rows.count p
  balance : ∀ p, db'.unitsBilled p - db.unitsBilled p =
    (db'.inactiveRows u p : Int) - db.inactiveRows u p +
      (((checkoutDiscipline u).advance g db w).owed p - g.owed p)

section Effects

variable {u : Id} {db db' : Db} {products : Table Product}

/-- A query: at most the stage changes. -/
theorem effect_reads {g : Stage} {w : Stmt} (hw : w.Reads) (hrely : CheckoutRely products u g db w)
    (hrows : ∀ rows bill written, g = .counted rows bill written →
      ∀ p, (db.cartIds u).count p = rows.count p) : Effect u g w db db := by
  rcases advance_reads (u := u) g db hw with hstay | ⟨rfl, rfl, hcount⟩
  · refine ⟨rfl, rfl, fun _ hi => hi, ?_, fun _ => rfl, ?_, fun p => ?_⟩
    · rw [hstay]; exact hrely.bill
    · rw [hstay]; exact hrows
    · rw [hstay]; omega
  · refine ⟨rfl, rfl, fun _ hi => hi, ?_, fun _ => rfl, ?_, fun p => ?_⟩
    · rw [hcount]; exact fun _ hi => by cases hi
    · rw [hcount]
      rintro rows bill written ⟨⟩ p
      rfl
    · rw [hcount]
      simp [Stage.owed]

theorem effect_insertCart [Env] {p : Id} (h : exec (.insertCart u p) db = .ok db') :
    Effect u .before (.insertCart u p) db db' := by
  obtain ⟨-, -, rfl⟩ := exec_insertCart_ok h
  refine ⟨rfl, rfl, fun _ hi => hi, ?_, ?_, ?_, fun q => ?_⟩
  · rintro i ⟨⟩
  · rintro ⟨⟩
  · rintro rows bill written ⟨⟩
  · rw [Db.inactiveRows_insertCart]
    simp [Db.unitsBilled, checkoutDiscipline]

theorem effect_insertBill [Env] {rows : List Id} {b : Bill}
    (huser : (db.users.find? b.userId).isSome = true)
    (hrows : ∀ p, (db.cartIds u).count p = rows.count p)
    (h : exec (.insertBill b) db = .ok db') :
    Effect u (.counted rows none []) (.insertBill b) db db' := by
  cases exec_insertBill_ok huser h
  refine ⟨rfl, rfl, fun i hi => ?_, ?_, fun _ => rfl, ?_, fun p => ?_⟩
  · obtain ⟨x, hx⟩ := Option.isSome_iff_exists.mp hi
    exact Option.isSome_of_eq_some (db.bills.find?_insert_of_find? b hx)
  · rintro i ⟨⟩
    exact Option.isSome_of_eq_some (db.bills.find?_insert_next b)
  · rintro rows' bill written ⟨⟩
    exact hrows
  · simp [Db.unitsBilled, Db.inactiveRows, checkoutDiscipline, Stage.owed]

theorem effect_insertBillProduct [Env] {rows : List Id} {billId : Id} {written : List BillProduct}
    {l : BillProduct} (hbill : (db.bills.find? l.billId).isSome = true)
    (hprod : (db.products.find? l.productId).isSome = true)
    (hown : (db.bills.find? billId).isSome = true)
    (hrows : ∀ p, (db.cartIds u).count p = rows.count p)
    (h : exec (.insertBillProduct l) db = .ok db') :
    Effect u (.counted rows (some billId) written) (.insertBillProduct l) db db' := by
  cases exec_insertBillProduct_ok hbill hprod h
  refine ⟨rfl, rfl, fun _ hi => hi, ?_, fun _ => rfl, ?_, fun p => ?_⟩
  · rintro i ⟨⟩
    exact hown
  · rintro rows' bill written' ⟨⟩
    exact hrows
  · have hline : sumWhere BillProduct.quantity (·.productId == p)
        [Row.withId db.billProducts.next l] =
        sumWhere BillProduct.quantity (·.productId == p) [l] := by
      rw [sumWhere_singleton, sumWhere_singleton]
      rfl
    simp only [Db.unitsBilled, Db.inactiveRows, checkoutDiscipline, Stage.owed, Table.rows_insert,
      sumWhere_append, hline]
    omega

theorem effect_deactivateCarts {rows : List Id} {bill : Option Id} {written : List BillProduct}
    (hrows : ∀ p, (db.cartIds u).count p = rows.count p)
    (howed : ∀ p, (Stage.counted rows bill written).owed p = rows.count p) :
    Effect u (.counted rows bill written) (.deactivateCarts u none) db (db.deactivated u) := by
  refine ⟨rfl, rfl, fun _ hi => hi, ?_, fun hcart => ?_, ?_, fun p => ?_⟩
  · rintro i ⟨⟩
  · have hnil : db.cartIds u = [] := by simpa [Stmt.changesCart] using hcart
    rw [hnil, Db.cartIds_deactivated]
  · rintro rows' bill' written' ⟨⟩
  · have hunits : (db.deactivated u).unitsBilled p = db.unitsBilled p := rfl
    rw [hunits, Db.inactiveRows_deactivated, hrows p, howed p]
    simp [checkoutDiscipline, Stage.owed]

theorem effect_of_allows [Env] {g : Stage} {w : Stmt}
    (hallows : (checkoutDiscipline u).allows g db w) (hrely : CheckoutRely products u g db w)
    (hrows : ∀ rows bill written, g = .counted rows bill written →
      ∀ p, (db.cartIds u).count p = rows.count p)
    (h : exec w db = .ok db') : Effect u g w db db' := by
  rcases allows_cases hallows with hreads | ⟨p, rfl, rfl⟩ | ⟨rows, b, rfl, rfl, hb⟩ |
    ⟨rows, billId, written, l, rfl, rfl, rfl, hprod, hfit⟩ |
    ⟨rows, bill, written, rfl, rfl, howed⟩
  · rw [exec_reads hreads] at h
    cases h
    exact effect_reads hreads hrely hrows
  · exact effect_insertCart h
  · exact effect_insertBill (hb ▸ hrely.user) (hrows _ _ _ rfl) h
  · have hown := hrely.bill l.billId rfl
    exact effect_insertBillProduct hown hprod hown (hrows _ _ _ rfl) h
  · cases h
    exact effect_deactivateCarts (hrows _ _ _ rfl) howed

end Effects

/-! ## The pool -/

section Requests

variable [Env]

/-- The requests of a user that take part. -/
def CartsRoute.takesPart : CartsRoute → Bool
  | create _ => true
  | cash _ => true
  | checkoutMomo _ => true
  | _ => false

/-- Requests of one user, none of which has started. -/
def cartPool (db : Db) (user : User) (requests : List CartsRoute) :
    Pool Db Stmt Failure Response :=
  .start db (requests.map fun r => r.action user)

theorem action_follows {products : Table Product} (user : User) {r : CartsRoute}
    (hr : r.takesPart = true) :
    Prog.Follows (checkoutDiscipline user.id) (CheckoutRely products user.id) exec .before
      (r.action user) := by
  cases r with
  | create p => exact create_follows user p
  | cash randomToken => exact cash_follows user randomToken
  | checkoutMomo c => exact checkoutMomo_follows user c
  | _ => cases hr

end Requests

section Interleaving

variable {u : Id}

/-- Thread `j` has counted the cart and is not done with it. -/
def inWindow (u : Id) (c : Pool Db Stmt Failure Response) (j : Nat) : Bool :=
  (c.next j).isSome && (c.stage (checkoutDiscipline u) j).isCounted

/-- The scheduled statement does not disturb an open window: a cart that is
counted can be billed, and nobody changes the cart in the window of
somebody else. -/
def Undisturbed (u : Id) (c : Pool Db Stmt Failure Response) (i : Nat) : Prop :=
  ∀ w ∈ c.next i,
    (w = .select .groupedCount → c.store.LinesFit u) ∧
    (w.changesCart u c.store = true →
      ∀ j ∈ List.range c.threads.length, j ≠ i → inWindow u c j = false)

instance (u : Id) (c : Pool Db Stmt Failure Response) (i : Nat) : Decidable (Undisturbed u c i) :=
  inferInstanceAs (Decidable (∀ w ∈ c.next i, _ ∧ _))

/-- The invariant of the pool: everybody is disciplined and can rely on the
store, an open window sees the rows it has counted, and the books differ
by what the threads owe. -/
structure PoolBalanced [Env] (u : Id) (db : Db) (c : Pool Db Stmt Failure Response) : Prop where
  disciplined : c.Disciplined (checkoutDiscipline u) (CheckoutRely db.products u) exec
  products : c.store.products = db.products
  user : (c.store.users.find? u).isSome = true
  bills : ∀ j, ∀ i ∈ (c.stage (checkoutDiscipline u) j).bill,
    (c.store.bills.find? i).isSome = true
  windows : ∀ j, (c.next j).isSome = true → ∀ rows bill written,
    c.stage (checkoutDiscipline u) j = .counted rows bill written →
    ∀ p, (c.store.cartIds u).count p = rows.count p
  balance : ∀ p, c.store.unitsBilled p - db.unitsBilled p =
    (c.store.inactiveRows u p : Int) - db.inactiveRows u p +
      ∑ j ∈ Finset.range c.threads.length, (c.stage (checkoutDiscipline u) j).owed p

theorem PoolBalanced.rely [Env] {db : Db} {c : Pool Db Stmt Failure Response}
    (h : PoolBalanced u db c) {i : Nat} (hi : Undisturbed u c i) :
    ∀ w, c.next i = some w →
      CheckoutRely db.products u (c.stage (checkoutDiscipline u) i) c.store w :=
  fun w hw => ⟨h.products, h.user, h.bills i, (hi w hw).1⟩

/-- A thread that ends leaves everything else as it is. -/
theorem poolBalanced_refused [Env] {db : Db} {c : Pool Db Stmt Failure Response} {i : Nat}
    {e : Failure} (h : PoolBalanced u db c)
    (hd : (⟨c.store, c.threads.set i (.raise e), c.history⟩ :
      Pool Db Stmt Failure Response).Disciplined (checkoutDiscipline u)
        (CheckoutRely db.products u) exec) :
    PoolBalanced u db ⟨c.store, c.threads.set i (.raise e), c.history⟩ := by
  refine ⟨hd, h.products, h.user, h.bills, fun j hj => ?_, fun p => ?_⟩
  · by_cases hji : j = i
    · rw [hji, Pool.next_set_raise] at hj
      cases hj
    · rw [Pool.next_set_ne c hji] at hj
      exact h.windows j hj
  · simp only [List.length_set]
    exact h.balance p

/-- The sum of a quantity over the threads, after one of them has moved. -/
theorem sum_stage_executed (f : Stage → Int) {c : Pool Db Stmt Failure Response} {i : Nat}
    (hi : i < c.threads.length) (s' : Db) (p : Action Response) (w : Stmt) :
    ∑ j ∈ Finset.range (c.threads.set i p).length,
        f ((⟨s', c.threads.set i p, c.history ++ [⟨i, c.store, w⟩]⟩ :
          Pool Db Stmt Failure Response).stage (checkoutDiscipline u) j) =
      ∑ j ∈ Finset.range c.threads.length, f (c.stage (checkoutDiscipline u) j) +
        (f ((checkoutDiscipline u).advance (c.stage (checkoutDiscipline u) i) c.store w) -
          f (c.stage (checkoutDiscipline u) i)) := by
  have hmem : i ∈ Finset.range c.threads.length := Finset.mem_range.mpr hi
  rw [List.length_set, ← Finset.add_sum_erase _ _ hmem, ← Finset.add_sum_erase _ _ hmem]
  have hother : ∀ j ∈ (Finset.range c.threads.length).erase i,
      f ((⟨s', c.threads.set i p, c.history ++ [⟨i, c.store, w⟩]⟩ :
        Pool Db Stmt Failure Response).stage (checkoutDiscipline u) j) =
      f (c.stage (checkoutDiscipline u) j) := by
    intro j hj
    rw [Pool.stage_executed, if_neg (Finset.ne_of_mem_erase hj)]
  rw [Finset.sum_congr rfl hother, Pool.stage_executed, if_pos rfl]
  omega

/-- A thread has executed a statement. -/
theorem poolBalanced_executed [Env] {db : Db} {c : Pool Db Stmt Failure Response} {i : Nat}
    {w : Stmt}
    {k : Db → Action Response} {s' : Db} (h : PoolBalanced u db c) (hi : Undisturbed u c i)
    (hw : c.threads[i]? = some (.stmt w k)) (hexec : exec w c.store = .ok s')
    (hd : (⟨s', c.threads.set i (k c.store), c.history ++ [⟨i, c.store, w⟩]⟩ :
      Pool Db Stmt Failure Response).Disciplined (checkoutDiscipline u)
        (CheckoutRely db.products u) exec) :
    PoolBalanced u db ⟨s', c.threads.set i (k c.store), c.history ++ [⟨i, c.store, w⟩]⟩ := by
  have hnext : c.next i = some w := Pool.next_of_stmt hw
  have hrely := h.rely hi w hnext
  have hrows := h.windows i (by rw [hnext]; rfl)
  have heff := effect_of_allows (h.disciplined.allows hw hrely) hrely hrows hexec
  have hlt : i < c.threads.length := (List.getElem?_eq_some_iff.mp hw).1
  refine ⟨hd, heff.products.trans h.products, ?_, fun j => ?_, fun j hj => ?_, fun p => ?_⟩
  · rw [heff.users]
    exact h.user
  · rw [Pool.stage_executed]
    split
    · exact heff.own_bill
    · exact fun b hb => heff.bills b (h.bills j b hb)
  · rw [Pool.stage_executed]
    by_cases hji : j = i
    · rw [if_pos hji]
      exact heff.own_rows
    · rw [if_neg hji]
      rw [Pool.next_set_ne c hji] at hj
      intro rows bill written hstage
      -- the window of another thread: the statement has not changed the cart
      have hcart : w.changesCart u c.store = false := by
        by_contra hchanges
        have hclosed := (hi w hnext).2 (eq_true_of_ne_false hchanges) j
          (List.mem_range.mpr (Pool.lt_length_of_next hj)) hji
        rw [inWindow, hj, hstage] at hclosed
        cases hclosed
      rw [heff.cart hcart]
      exact h.windows j hj rows bill written hstage
  · have hsum := sum_stage_executed (u := u) (Stage.owed p) hlt s' (k c.store) w
    have hbal := h.balance p
    have hstep := heff.balance p
    change s'.unitsBilled p - db.unitsBilled p =
      (s'.inactiveRows u p : Int) - db.inactiveRows u p + _
    rw [hsum]
    omega

theorem poolBalanced_step [Env] {db : Db} {c : Pool Db Stmt Failure Response} {i : Nat}
    (h : PoolBalanced u db c) (hi : Undisturbed u c i) :
    PoolBalanced u db (c.step exec i) := by
  have hd := Pool.disciplined_step h.disciplined (h.rely hi)
  rcases Pool.step_cases exec c i with ⟨w, k, s', hw, hexec, hs⟩ | ⟨w, k, e, -, -, hs⟩ | hs
  · rw [hs] at hd ⊢
    exact poolBalanced_executed h hi hw hexec hd
  · rw [hs] at hd ⊢
    exact poolBalanced_refused h hd
  · rw [hs]
    exact h

theorem owed_of_ends {g : Stage} (h : (checkoutDiscipline u).ends g) (p : Id) : g.owed p = 0 := by
  cases g with
  | counted rows bill written => cases h; rfl
  | _ => rfl

theorem owed_of_not_counted {g : Stage} (h : g.isCounted = false) (p : Id) : g.owed p = 0 := by
  cases g with
  | counted rows bill written => cases h
  | _ => rfl

/-- When no window is open, nobody owes anything. -/
theorem PoolBalanced.billedOnce [Env] {db : Db} {c : Pool Db Stmt Failure Response}
    (h : PoolBalanced u db c)
    (hclosed : ∀ j ∈ List.range c.threads.length, inWindow u c j = false) :
    BilledOnce u db c.store := by
  intro p
  have hzero : ∑ j ∈ Finset.range c.threads.length,
      (c.stage (checkoutDiscipline u) j).owed p = 0 := by
    refine Finset.sum_eq_zero fun j hj => ?_
    have hlt := Finset.mem_range.mp hj
    rcases Bool.and_eq_false_iff.mp (hclosed j (List.mem_range.mpr hlt)) with hended | hstage
    · rw [Option.isSome_eq_false_iff, Option.isNone_iff_eq_none] at hended
      exact owed_of_ends (h.disciplined.ends (List.getElem?_eq_getElem hlt) hended) p
    · exact owed_of_not_counted hstage p
  rw [h.balance p, hzero, add_zero]

/-- **No row is lost or billed twice, outside open windows.** Any number of
checkouts and add-to-cart requests of a user, under any schedule: if every
cart that is counted can be billed, and no statement changes the cart while
another checkout is between its count and its deactivation, then, whenever
no such window is open, so in particular once all requests have ended, as
many units of every product were billed as rows of it were deactivated. -/
theorem billed_once_interleaved [Env] (db : Db) (user : User) (requests : List CartsRoute)
    (schedule : List Nat) (huser : (db.users.find? user.id).isSome = true)
    (hreq : ∀ r ∈ requests, r.takesPart = true)
    (h : Along (Pool.step exec) (Undisturbed user.id) (cartPool db user requests) schedule)
    (hclosed : ∀ j ∈ List.range (Pool.run exec (cartPool db user requests) schedule).threads.length,
      inWindow user.id (Pool.run exec (cartPool db user requests) schedule) j = false) :
    BilledOnce user.id db (Pool.run exec (cartPool db user requests) schedule).store := by
  have hstart : PoolBalanced user.id db (cartPool db user requests) := by
    refine ⟨fun i p hp => ?_, rfl, huser, ?_, ?_, fun p => ?_⟩
    · obtain ⟨r, hr, rfl⟩ := List.mem_map.mp (List.mem_of_getElem? hp)
      exact action_follows user (hreq r hr)
    · rintro j i ⟨⟩
    · rintro j - rows bill written ⟨⟩
    · have hzero : ∑ j ∈ Finset.range (cartPool db user requests).threads.length,
          ((cartPool db user requests).stage (checkoutDiscipline user.id) j).owed p = 0 :=
        Finset.sum_eq_zero fun _ _ => rfl
      rw [hzero, add_zero]
      change db.unitsBilled p - _ = (db.inactiveRows user.id p : Int) - _
      omega
  have hend := Along.foldl_inv (PoolBalanced user.id db) (fun _ _ => poolBalanced_step) hstart h
  exact hend.billedOnce hclosed

end Interleaving

/-- The customer of the first cart. -/
def ann : User := { id := 1, email := "ann@pet.vn" }

/-- A checkout and one more leash. -/
def oneMoreLeash : List CartsRoute := [.cash "7f", .create (some { productId := some 1 })]

section Example

attribute [local instance] Env.caseInsensitive

/-- The request for the leash has asked its questions before the checkout
begins and stores its row after it. -/
theorem billed_once_oneMoreLeash :
    Along (Pool.step exec) (Undisturbed 1) (@cartPool .caseInsensitive twoCarts ann oneMoreLeash)
      [1, 1, 0, 0, 0, 0, 0, 0, 0, 1, 1] ∧
    BilledOnce 1 twoCarts (Pool.run exec (@cartPool .caseInsensitive twoCarts ann oneMoreLeash)
      [1, 1, 0, 0, 0, 0, 0, 0, 0, 1, 1]).store :=
  ⟨by decide,
    @billed_once_interleaved .caseInsensitive twoCarts ann oneMoreLeash
      [1, 1, 0, 0, 0, 0, 0, 0, 0, 1, 1] (by decide) (by decide) (by decide) (by decide)⟩

/-- A form submitted twice bills both leashes twice, and a leash that is
added during a checkout is deactivated unbilled; all requests have
ended. -/
theorem checkout_bills_twice_or_never :
    (∀ j ∈ [0, 1], (Pool.run exec (@cartPool .caseInsensitive twoCarts ann [.cash "7f", .cash "8a"])
      [0, 0, 1, 1, 0, 0, 0, 0, 0, 1, 1, 1, 1, 1]).next j = none) ∧
    ¬ BilledOnce 1 twoCarts
      (Pool.run exec (@cartPool .caseInsensitive twoCarts ann [.cash "7f", .cash "8a"])
        [0, 0, 1, 1, 0, 0, 0, 0, 0, 1, 1, 1, 1, 1]).store ∧
    (∀ j ∈ [0, 1], (Pool.run exec (@cartPool .caseInsensitive twoCarts ann oneMoreLeash)
      [0, 0, 1, 1, 1, 1, 0, 0, 0, 0, 0]).next j = none) ∧
    ¬ BilledOnce 1 twoCarts
      (Pool.run exec (@cartPool .caseInsensitive twoCarts ann oneMoreLeash)
        [0, 0, 1, 1, 1, 1, 0, 0, 0, 0, 0]).store :=
  ⟨by decide, fun h => absurd (h 1) (by decide), by decide, fun h => absurd (h 1) (by decide)⟩

end Example

end PetParadise
