/-
PetParadise.Shop.CheckoutFaults — what a checkout leaves behind when one
of its statements fails.

Neither checkout opens a transaction, so a failure keeps whatever was
written before it. The executor is replaced by ANY faulty one
(`Prog.Faulty`): it may refuse any statement at any moment, for a range
error, a foreign key or a lost connection. `FaultOutcome` is what remains
true: nothing has happened if the failure came before or at the bill's
INSERT, and otherwise there is a bill with the lines written so far, while
the cart is still active.
-/
import PetParadise.Shop.CheckoutTheorems

namespace PetParadise

open Store PetParadise.Action

/-- The writes among the executed statements. -/
def writesOf (log : List Stmt) : List Stmt := log.filter Stmt.isWrite

/-- A bill and the first `n` of its lines. -/
def Db.partlyBilled (db : Db) (u : Id) (b : Bill) (n : Nat) : Db :=
  { db with
    bills := db.bills.insert b
    billProducts := db.billProducts.insertAll ((db.cartLines u db.bills.next).take n) }

/-- What a failed checkout leaves, given the statements it executed:
the three tables are as before exactly when no write was executed, and
otherwise the writes are the bill and some first lines. -/
structure FaultOutcome (db : Db) (u : Id) (b : Bill) (log : List Stmt) (db' : Db) : Prop where
  unchanged_iff :
    (db'.bills = db.bills ∧ db'.billProducts = db.billProducts ∧ db'.carts = db.carts) ↔
      writesOf log = []
  partly : writesOf log ≠ [] → ∃ n ≤ (db.cartLines u db.bills.next).length,
    writesOf log = .insertBill b ::
      ((db.cartLines u db.bills.next).take n).map .insertBillProduct ∧
    db' = db.partlyBilled u b n

theorem FaultOutcome.of_nothing {db : Db} {u : Id} {b : Bill} {log : List Stmt}
    (h : writesOf log = []) : FaultOutcome db u b log db :=
  ⟨⟨fun _ => h, fun _ => ⟨rfl, rfl, rfl⟩⟩, fun hne => absurd h hne⟩

theorem FaultOutcome.of_partly {db : Db} {u : Id} {b : Bill} {log : List Stmt} {n : Nat}
    (hn : n ≤ (db.cartLines u db.bills.next).length)
    (h : writesOf log = .insertBill b ::
      ((db.cartLines u db.bills.next).take n).map .insertBillProduct) :
    FaultOutcome db u b log (db.partlyBilled u b n) := by
  have hne : writesOf log ≠ [] := by
    rw [h]
    exact List.cons_ne_nil _ _
  refine ⟨⟨fun hsame => ?_, fun hnil => absurd hnil hne⟩, fun _ => ⟨n, hn, h, rfl⟩⟩
  -- an INSERT moves the key counter, so the bills cannot be the same
  have hnext : (db.bills.insert b).next = db.bills.next := congrArg Table.next hsame.1
  rw [Table.next_insert] at hnext
  omega

/-- What is left of a checkout once its bill is stored. -/
def finishCheckout {α : Type} (u : Id) (ls : List BillProduct) (a : α) : Action α :=
  writeLines ls >>= fun _ => Prog.perform (.deactivateCarts u none) >>= fun _ => .ret a

theorem finishCheckout_nil {α : Type} (u : Id) (a : α) :
    finishCheckout u [] a = .stmt (.deactivateCarts u none) (fun _ => .ret a) := rfl

theorem finishCheckout_cons {α : Type} (u : Id) (l : BillProduct) (ls : List BillProduct) (a : α) :
    finishCheckout u (l :: ls) a = .stmt (.insertBillProduct l) (fun _ => finishCheckout u ls a) :=
  rfl

/-- An INSERT of a line that succeeded, of a stored bill and product. -/
theorem exec_insertBillProduct_ok [Env] {db db' : Db} {l : BillProduct}
    (hbill : (db.bills.find? l.billId).isSome = true)
    (hprod : (db.products.find? l.productId).isSome = true)
    (h : exec (.insertBillProduct l) db = .ok db') :
    db' = { db with billProducts := db.billProducts.insert l } := by
  rw [exec_insertBillProduct hbill hprod] at h
  split at h
  · cases h; rfl
  · cases h

/-- An INSERT of a bill that succeeded, of a stored user. -/
theorem exec_insertBill_ok [Env] {db db' : Db} {b : Bill}
    (huser : (db.users.find? b.userId).isSome = true)
    (h : exec (.insertBill b) db = .ok db') : db' = { db with bills := db.bills.insert b } := by
  rw [exec_insertBill huser] at h
  split at h
  · split at h
    · cases h; rfl
    · cases h
  · cases h

/-- The writes of a checkout: the bill, then lines. `pre` and `mid` are the
queries before and after the bill. -/
theorem writesOf_lines (b : Bill) (ls : List BillProduct) {pre mid : List Stmt}
    (hpre : writesOf pre = []) (hmid : writesOf mid = []) :
    writesOf (pre ++ .insertBill b :: (mid ++ ls.map .insertBillProduct)) =
      .insertBill b :: ls.map .insertBillProduct := by
  unfold writesOf at hpre hmid ⊢
  rw [List.filter_append, hpre, List.nil_append, List.filter_cons_of_pos rfl, List.filter_append,
    hmid, List.nil_append, List.filter_map]
  congr 2
  exact List.filter_eq_self.mpr fun _ _ => rfl

section Faults

open Prog (FailsWith)

variable {exec' : Stmt → Db → Except Failure Db} {O : List Stmt → Db → Prop}

theorem failsWith_select_bind [Env] {α β : Type} (hf : Prog.Faulty exec exec') {q : Query}
    {g : Db → α} {f : α → Action β} {db : Db} (hfail : O [] db)
    (hok : FailsWith exec' (fun l => O (.select q :: l)) (f (g db)) db) :
    FailsWith exec' O (select q g >>= f) db := by
  refine FailsWith.stmt hf hfail fun s' hexec => ?_
  cases hexec
  exact hok

theorem failsWith_createBill_bind [Env] {α : Type} (hf : Prog.Faulty exec exec') {b : Bill}
    {db : Db} (huser : (db.users.find? b.userId).isSome = true) {f : Option Id → Action α}
    (hfail : O [] db)
    (hok : FailsWith exec' (fun l => O (.insertBill b :: l)) (f (some db.bills.next))
      { db with bills := db.bills.insert b }) :
    FailsWith exec' O (createBill b >>= f) db := by
  have hshape : (createBill b >>= f) = .stmt (.insertBill b) (fun s =>
      f (if (s.users.find? b.userId).isSome then some s.bills.next else none)) := rfl
  rw [hshape]
  refine FailsWith.stmt hf hfail fun s' hexec => ?_
  rw [if_pos huser, exec_insertBill_ok huser hexec]
  exact hok

/-- Lines and cart update: the lines before the failure are stored. -/
theorem finishCheckout_fault [Env] {α : Type} (hf : Prog.Faulty exec exec') {u : Id}
    {ls : List BillProduct} {db : Db} (a : α)
    (hls : ∀ l ∈ ls, (db.bills.find? l.billId).isSome = true ∧
      (db.products.find? l.productId).isSome = true) :
    FailsWith exec' (fun log db' => ∃ n ≤ ls.length, log = (ls.take n).map .insertBillProduct ∧
      db' = { db with billProducts := db.billProducts.insertAll (ls.take n) })
      (finishCheckout u ls a) db := by
  induction ls generalizing db with
  | nil =>
    rw [finishCheckout_nil]
    exact FailsWith.stmt hf ⟨0, Nat.le_refl _, rfl, rfl⟩ fun _ _ => .ret a
  | cons l ls ih =>
    rw [finishCheckout_cons]
    refine FailsWith.stmt hf ⟨0, Nat.zero_le _, rfl, rfl⟩ fun s' hexec => ?_
    obtain ⟨hbill, hprod⟩ := hls l List.mem_cons_self
    have hs' := exec_insertBillProduct_ok hbill hprod hexec
    have hrest : ∀ l' ∈ ls, (s'.bills.find? l'.billId).isSome = true ∧
        (s'.products.find? l'.productId).isSome = true := by
      rw [hs']
      exact fun l' hl' => hls l' (List.mem_cons_of_mem _ hl')
    refine (ih hrest).mono ?_
    rintro log db' ⟨n, hn, rfl, rfl⟩
    refine ⟨n + 1, Nat.succ_le_succ hn, ?_, ?_⟩
    · rw [List.take_succ_cons, List.map_cons]
    · rw [hs', List.take_succ_cons, Table.insertAll_cons]

/-- Everything after the bill's INSERT; `mid` are the queries in
between. -/
theorem Db.finish_fault [Env] {α : Type} (hf : Prog.Faulty exec exec') (db : Db) (u : Id) (b : Bill)
    (a : α) (pre mid : List Stmt) (hpre : writesOf pre = []) (hmid : writesOf mid = []) :
    FailsWith exec' (fun log db' => FaultOutcome db u b (pre ++ .insertBill b :: (mid ++ log)) db')
      (finishCheckout u (db.cartLines u db.bills.next) a)
      { db with bills := db.bills.insert b } := by
  refine (finishCheckout_fault hf a (db.cartLines_stored u b)).mono ?_
  rintro log db' ⟨n, hn, rfl, rfl⟩
  exact .of_partly hn (writesOf_lines b _ hpre hmid)

/-- `accept`, for the cart the service has counted. -/
theorem accept_fault [Env] (hf : Prog.Faulty exec exec') {db : Db} {u : User}
    (huser : (db.users.find? u.id).isSome = true) (hpriced : db.CartPriced u.id)
    (c : MomoCheckout) :
    FailsWith exec'
      (FaultOutcome db u.id (Momo.GetPaymentUrlService.momoBill u (db.cartValue u.id) c))
      (Momo.GetPaymentUrlService.accept u (db.cartValue u.id) c (db.groupedCount u.id)
        (db.cartProducts u.id)) db := by
  unfold Momo.GetPaymentUrlService.accept
  refine failsWith_createBill_bind hf huser (.of_nothing rfl) ?_
  rw [hpriced.each_addLine]
  exact db.finish_fault hf u.id _ () [] [] rfl rfl

/-- `cash`, whose queries come before and after the bill's INSERT. -/
theorem cash_fault [Env] (hf : Prog.Faulty exec exec') {db : Db} {u : User}
    (huser : (db.users.find? u.id).isSome = true) (hpriced : db.CartPriced u.id)
    (randomToken : String) :
    FailsWith exec'
      (FaultOutcome db u.id (CartsController.cashBill u randomToken (db.cartValue u.id)))
      (CartsController.cash u randomToken) db := by
  unfold CartsController.cash CartsController.total
  simp only [bind_assoc]
  refine failsWith_select_bind hf (.of_nothing rfl) ?_
  rw [total_eq_ok.mpr ⟨hpriced, rfl⟩, Prog.ofExcept_ok, Prog.ret_bind]
  refine failsWith_select_bind hf (.of_nothing rfl) ?_
  refine failsWith_createBill_bind hf huser (.of_nothing rfl) ?_
  refine failsWith_select_bind hf (.of_partly (n := 0) (Nat.zero_le _) rfl) ?_
  have heach := hpriced.each_addLine db.bills.next
  unfold Db.cartProducts at heach
  rw [show ({ db with bills := db.bills.insert _ } : Db).productsIn = db.productsIn from rfl,
    heach]
  exact db.finish_fault hf u.id _ _ [.select .cartTotal, .select .groupedCount] [.select .products]
    rfl rfl

/-- **What a failed checkout leaves.** For every faulty executor and every
priced cart of an existing user: after an error of `cash`, or of the
service once the gateway has accepted, the bills, lines and carts are as
before exactly when no write had been executed, so when the failing write
is the bill's INSERT. Otherwise the bill is stored with the lines written
before the failure, and the cart rows are untouched. -/
theorem checkout_fault_outcome [Env] (hf : Prog.Faulty exec exec') (db : Db) (u : User)
    (huser : (db.users.find? u.id).isSome = true) (hpriced : db.CartPriced u.id) :
    (∀ randomToken e db',
      (CartsController.cash u randomToken).run exec' db = (.error e, db') →
      FaultOutcome db u.id (CartsController.cashBill u randomToken (db.cartValue u.id))
        ((CartsController.cash u randomToken).log exec' db) db') ∧
    (∀ c e db',
      (Momo.GetPaymentUrlService.accept u (db.cartValue u.id) c (db.groupedCount u.id)
        (db.cartProducts u.id)).run exec' db = (.error e, db') →
      FaultOutcome db u.id (Momo.GetPaymentUrlService.momoBill u (db.cartValue u.id) c)
        ((Momo.GetPaymentUrlService.accept u (db.cartValue u.id) c (db.groupedCount u.id)
          (db.cartProducts u.id)).log exec' db) db') :=
  ⟨fun randomToken => cash_fault hf huser hpriced randomToken,
    fun c => accept_fault hf huser hpriced c⟩

end Faults

/-- The executor that refuses the statements `bad` selects. -/
def refusing [Env] (bad : Stmt → Bool) (w : Stmt) (db : Db) : Except Failure Db :=
  if bad w then .error .statementInvalid else exec w db

theorem refusing_faulty [Env] (bad : Stmt → Bool) : Prog.Faulty exec (refusing bad) := by
  intro w db
  unfold refusing
  split
  · exact .inr ⟨_, rfl⟩
  · exact .inl rfl

/-- Refuses the line of product 2. -/
def losesSecondLine : Stmt → Bool
  | .insertBillProduct l => l.productId == 2
  | _ => false

section Example

attribute [local instance] Env.caseInsensitive

theorem checkout_fault_outcome_secondLine :
    FaultOutcome twoCarts 1
      (CartsController.cashBill { id := 1, email := "ann@pet.vn" } "7f" (twoCarts.cartValue 1))
      ((CartsController.cash { id := 1, email := "ann@pet.vn" } "7f").log
        (refusing losesSecondLine) twoCarts)
      ((CartsController.cash { id := 1, email := "ann@pet.vn" } "7f").run
        (refusing losesSecondLine) twoCarts).2 := by
  have hfault := (checkout_fault_outcome (refusing_faulty losesSecondLine) twoCarts
    { id := 1, email := "ann@pet.vn" } (by decide) (by decide)).1 "7f" .statementInvalid
  refine hfault _ ?_
  refine Prod.ext ?_ ?_
  · decide
  · exact Eq.refl _

/-- The second line is lost: the bill over 290 stays behind with the lines
of 240, and the cart is still active. -/
theorem secondLine_lost_keeps_bill :
    Prog.Faulty exec (refusing losesSecondLine) ∧
    ((CartsController.cash { id := 1, email := "ann@pet.vn" } "7f").run
      (refusing losesSecondLine) twoCarts).1 = .error .statementInvalid ∧
    ((CartsController.cash { id := 1, email := "ann@pet.vn" } "7f").run
      (refusing losesSecondLine) twoCarts).2.bills.rows.map Bill.amount = [290] ∧
    ((CartsController.cash { id := 1, email := "ann@pet.vn" } "7f").run
      (refusing losesSecondLine) twoCarts).2.billProducts.rows.map BillProduct.totalAmount = [240] ∧
    ((CartsController.cash { id := 1, email := "ann@pet.vn" } "7f").run
      (refusing losesSecondLine) twoCarts).2.carts = twoCarts.carts :=
  ⟨refusing_faulty losesSecondLine, by decide, by decide, by decide, by decide⟩

end Example

end PetParadise
