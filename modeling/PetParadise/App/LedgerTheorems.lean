/-
PetParadise.App.LedgerTheorems — bills and their lines over whole runs.

A checkout stores a bill whose lines add up to its amount. Two things can
part them. Destroying a product destroys its `bill_products` as well, on
bills that stay. And a line that does not fit `decimal(10,0)` is refused
after the bill has been stored, which needs prices of both signs: the
amount is the sum of the lines and would not fit either. So a bill does
not always add up; what always holds is that its amount is the sum of the
lines it has plus exactly what these two have taken from it.

The invariant (`LedgerInv`) carries that second part as a function of the
bill's key. Statements other than the two INSERTs of a checkout and the
cascade of a product keep every bill's amount and every surviving bill's
lines (`exec_ledgerKept`); the three remaining kinds of request are taken
one by one.
-/
import PetParadise.App.RoutesTheorems
import PetParadise.Shop.CheckoutFaults

namespace PetParadise

open Store PetParadise.Action

/-- `bill.bill_products.sum(:total_amount)`. -/
def Db.lineSum (db : Db) (billId : Id) : Int :=
  sumWhere BillProduct.totalAmount (·.billId == billId) db.billProducts.rows

/-! ## Statements that keep the books -/

/-- No bill is new, amounts are kept, and a bill that is still there has
the lines it had. -/
structure Db.LedgerKept (db db' : Db) : Prop where
  next_eq : db'.bills.next = db.bills.next
  amounts : Table.Kept Bill.amount db.bills db'.bills
  lines : db'.billProducts.rows ⊆ db.billProducts.rows
  sums : ∀ b ∈ db'.bills.rows, db'.lineSum b.id = db.lineSum b.id

theorem Db.LedgerKept.refl (db : Db) : db.LedgerKept db :=
  ⟨rfl, .refl _ _, List.Subset.refl _, fun _ _ => rfl⟩

theorem Db.LedgerKept.trans {a b c : Db} (hab : a.LedgerKept b) (hbc : b.LedgerKept c) :
    a.LedgerKept c := by
  refine ⟨hbc.next_eq.trans hab.next_eq, hab.amounts.trans hbc.amounts,
    List.Subset.trans hbc.lines hab.lines, fun x hx => ?_⟩
  obtain ⟨y, hy, hid, -⟩ := hbc.amounts.kept x hx (hbc.next_eq ▸ c.bills.fresh x hx)
  have hid' : y.id = x.id := hid
  rw [hbc.sums x hx, ← hid', hab.sums y hy]

/-- The statements that store a bill or a line, or destroy a product. -/
def Stmt.keepsBooks : Stmt → Bool
  | .insertBill _ => false
  | .insertBillProduct _ => false
  | .destroyProduct _ => false
  | _ => true

theorem exec_ledgerKept [Env] {w : Stmt} {db db' : Db} (hw : w.keepsBooks = true)
    (h : exec w db = .ok db') : db.LedgerKept db' := by
  cases hbills : w.writes .bills with
  | false =>
    have hb : db'.bills = db.bills := exec_frame h hbills
    have hl : db'.billProducts = db.billProducts := by
      refine exec_frame (t := .billProducts) h ?_
      cases w <;> first
        | rfl
        | exact absurd hw Bool.false_ne_true
        | exact absurd hbills.symm Bool.false_ne_true
    exact ⟨by rw [hb], by rw [hb]; exact .refl _ _, by rw [hl]; exact List.Subset.refl _,
      fun _ _ => by rw [Db.lineSum, hl]; rfl⟩
  | true =>
    cases w with
    | settleBill i data =>
      obtain rfl := exec_settleBill_ok h
      exact ⟨rfl, .modify _ _ (·.settle_id data) (fun _ => rfl), List.Subset.refl _,
        fun _ _ => rfl⟩
    | shipBill i =>
      cases h
      exact ⟨rfl, .modify _ _ Bill.ship_id (fun _ => rfl), List.Subset.refl _, fun _ _ => rfl⟩
    | destroyUser i =>
      obtain ⟨chat, -, rfl⟩ := Db.destroyUser_ok h
      refine ⟨rfl, .delete _ _ _, List.filter_subset_self _, fun b hb => ?_⟩
      -- a bill that is still there is not the user's, so none of its lines is
      obtain ⟨hmem, hother⟩ := List.mem_filter.mp hb
      have hfind : db.bills.find? b.id = some b := db.bills.find?_of_mem hmem
      simp only [Db.lineSum, Table.rows_delete, sumWhere_filter]
      refine sumWhere_congr _ fun l _ => ?_
      cases hl : l.billId == b.id with
      | false => rfl
      | true =>
        have hnot : db.lineOfUser i l = false := by
          rw [Db.lineOfUser, beq_iff_eq.mp hl, hfind]
          simpa using hother
        rw [hnot]
        rfl
    | insertBill b => cases hw
    | _ => simp [Stmt.writes, Stmt.tables] at hbills

/-! ## The invariant -/

/-- Amounts are lines plus what has been removed, lines belong to bills
that were stored, and nothing was removed from a bill to come. -/
structure LedgerInv (removed : Id → Int) (db : Db) : Prop where
  adds_up : ∀ b ∈ db.bills.rows, b.amount = db.lineSum b.id + removed b.id
  line_known : ∀ l ∈ db.billProducts.rows, l.billId < db.bills.next
  removed_known : ∀ i, db.bills.next ≤ i → removed i = 0

theorem LedgerInv.kept {removed : Id → Int} {db db' : Db} (h : LedgerInv removed db)
    (hk : db.LedgerKept db') : LedgerInv removed db' := by
  refine ⟨fun b hb => ?_, fun l hl => ?_, fun i hi => h.removed_known i (hk.next_eq ▸ hi)⟩
  · obtain ⟨b₀, hb₀, hid, hamount⟩ := hk.amounts.kept b hb (hk.next_eq ▸ db'.bills.fresh b hb)
    have hid' : b₀.id = b.id := hid
    rw [← hamount, h.adds_up b₀ hb₀, hid', hk.sums b hb]
  · rw [hk.next_eq]
    exact h.line_known l (hk.lines hl)

/-- Lines the database takes: those before the first out of range. -/
def Db.takenLines (db : Db) (u : Id) : List BillProduct :=
  (db.cartLines u db.bills.next).takeWhile (fun l => fitsDecimal l.totalAmount)

/-- Lines that are not stored any more once one has been refused. -/
def Db.refusedLines (db : Db) (u : Id) : List BillProduct :=
  (db.cartLines u db.bills.next).dropWhile (fun l => fitsDecimal l.totalAmount)

/-- The value of the refused lines of a checkout. -/
def Db.refusedValue (db : Db) (u : Id) : Int :=
  ((db.refusedLines u).map BillProduct.totalAmount).sum

theorem Db.billId_of_mem_takenLines {db : Db} {u : Id} {l : BillProduct}
    (h : l ∈ db.takenLines u) : l.billId = db.bills.next := by
  obtain ⟨p, -, rfl⟩ := List.mem_map.mp ((List.takeWhile_prefix _).subset h)
  rfl

section Stored

variable {db db' : Db} {u : Id}

/-- After a checkout every line is of a bill that was stored. -/
theorem Db.lines_known_stored (hknown : ∀ l ∈ db.billProducts.rows, l.billId < db.bills.next)
    {b : Bill} (hbills : db'.bills = db.bills.insert b)
    (hlines : db'.billProducts = db.billProducts.insertAll (db.takenLines u)) :
    ∀ l ∈ db'.billProducts.rows, l.billId < db'.bills.next := by
  intro l hl
  rw [hlines] at hl
  rw [hbills, Table.next_insert]
  rcases Table.mem_rows_insertAll hl with hl | ⟨i, l', hl', rfl⟩
  · exact Nat.lt_succ_of_lt (hknown l hl)
  · have hbill : l'.billId = db.bills.next := Db.billId_of_mem_takenLines hl'
    change l'.billId < _
    rw [hbill]
    exact Nat.lt_succ_self _

/-- Sums over the lines of one bill after a checkout: the new bill has the
new lines, and every other bill has what it had. -/
theorem Db.sumOnBill_stored {w : BillProduct → Int} {q : BillProduct → Bool}
    (hw : ∀ i l, w (Row.withId i l) = w l) (hq : ∀ i l, q (Row.withId i l) = q l)
    (hknown : ∀ l ∈ db.billProducts.rows, l.billId < db.bills.next)
    (hlines : db'.billProducts = db.billProducts.insertAll (db.takenLines u)) (i : Id) :
    sumWhere w (fun l => l.billId == i && q l) db'.billProducts.rows =
      if i = db.bills.next then sumWhere w q (db.takenLines u)
      else sumWhere w (fun l => l.billId == i && q l) db.billProducts.rows := by
  have hkey : ∀ n (l : BillProduct), ((Row.withId n l).billId == i && q (Row.withId n l)) =
      (l.billId == i && q l) := by
    intro n l
    rw [hq]
    rfl
  rw [hlines, sumWhere_insertAll w hw hkey]
  by_cases hi : i = db.bills.next
  · have hold : sumWhere w (fun l => l.billId == i && q l) db.billProducts.rows = 0 := by
      apply sumWhere_eq_zero
      intro l hl
      have hne : l.billId ≠ i := hi ▸ Nat.ne_of_lt (hknown l hl)
      simp [hne]
    rw [if_pos hi, hold, zero_add]
    apply sumWhere_congr
    intro l hl
    simp [Db.billId_of_mem_takenLines hl, hi]
  · have hnew : sumWhere w (fun l => l.billId == i && q l) (db.takenLines u) = 0 := by
      apply sumWhere_eq_zero
      intro l hl
      have hne : db.bills.next ≠ i := fun h => hi h.symm
      simp [Db.billId_of_mem_takenLines hl, hne]
    rw [if_neg hi, hnew, add_zero]

theorem Db.lineSum_stored (hknown : ∀ l ∈ db.billProducts.rows, l.billId < db.bills.next)
    (hlines : db'.billProducts = db.billProducts.insertAll (db.takenLines u)) (i : Id) :
    db'.lineSum i = if i = db.bills.next then
        ((db.takenLines u).map BillProduct.totalAmount).sum
      else db.lineSum i := by
  have hsum := Db.sumOnBill_stored (w := BillProduct.totalAmount) (q := fun _ => true)
    (fun _ _ => rfl) (fun _ _ => rfl) hknown hlines i
  have hall : sumWhere BillProduct.totalAmount (fun _ => true) (db.takenLines u) =
      ((db.takenLines u).map BillProduct.totalAmount).sum := by
    rw [sumWhere, List.filter_true]
  simp only [Bool.and_true, hall] at hsum
  exact hsum

end Stored

theorem Db.CartPriced.sum_takenLines {db : Db} {u : Id} (h : db.CartPriced u) :
    ((db.takenLines u).map BillProduct.totalAmount).sum + db.refusedValue u = db.cartValue u := by
  rw [Db.refusedValue, ← List.sum_append, ← List.map_append, Db.takenLines, Db.refusedLines,
    List.takeWhile_append_dropWhile]
  exact h.sum_cartLines _

/-- A checkout stores a bill that adds up, but for the lines refused. -/
theorem LedgerInv.checkout {removed : Id → Int} {db db' : Db} (h : LedgerInv removed db) {u : Id}
    (hpriced : db.CartPriced u) {b : Bill} (hamount : b.amount = db.cartValue u)
    (hbills : db'.bills = db.bills.insert b)
    (hlines : db'.billProducts = db.billProducts.insertAll (db.takenLines u)) :
    LedgerInv (fun i => removed i + if i = db.bills.next then db.refusedValue u else 0) db' := by
  have hsum := Db.lineSum_stored h.line_known hlines
  constructor
  · intro x hx
    rw [hbills, Table.rows_insert, List.mem_append, List.mem_singleton] at hx
    rcases hx with hx | rfl
    · -- an earlier bill
      have hne : x.id ≠ db.bills.next := Nat.ne_of_lt (db.bills.fresh x hx)
      rw [hsum, if_neg hne, if_neg hne, add_zero]
      exact h.adds_up x hx
    · -- the new bill: all of its lines are new
      have hrem := h.removed_known db.bills.next (Nat.le_refl _)
      have hall := hpriced.sum_takenLines
      change b.amount = db'.lineSum db.bills.next + (removed db.bills.next +
        if db.bills.next = db.bills.next then db.refusedValue u else 0)
      rw [hsum, if_pos rfl, if_pos rfl, hrem, hamount]
      omega
  · exact Db.lines_known_stored h.line_known hbills hlines
  · intro i hi
    rw [hbills, Table.next_insert] at hi
    rw [h.removed_known i (Nat.le_of_succ_le hi), if_neg (Nat.ne_of_gt hi), add_zero]

/-- The lines of a bill that are about a product. -/
def Db.linesOfProduct (db : Db) (i billId : Id) : Int :=
  sumWhere BillProduct.totalAmount (fun l => l.billId == billId && l.productId == i)
    db.billProducts.rows

/-- Destroying a product moves its lines to the removed ones. -/
theorem LedgerInv.destroyProduct {removed : Id → Int} {db : Db} (h : LedgerInv removed db)
    (i : Id) :
    LedgerInv (fun b => removed b + db.linesOfProduct i b) (db.destroyProduct i) := by
  have hsplit : ∀ b, db.lineSum b = (db.destroyProduct i).lineSum b + db.linesOfProduct i b := by
    intro b
    simp only [Db.lineSum, Db.destroyProduct, Table.rows_delete, sumWhere_filter,
      Db.linesOfProduct]
    refine sumWhere_split _ (fun l _ => ?_) (fun l _ hl => ?_)
    · cases l.billId == b <;> cases l.productId == i <;> rfl
    · rw [Bool.and_eq_true, Bool.not_eq_true'] at hl
      rw [hl.2, Bool.and_false]
  refine ⟨fun b hb => ?_, fun l hl => h.line_known l (List.mem_of_mem_filter hl), fun b hb => ?_⟩
  · rw [h.adds_up b hb, hsplit b.id]
    omega
  · have hnone : db.linesOfProduct i b = 0 := by
      refine sumWhere_eq_zero _ fun l hl => ?_
      have hne : (l.billId == b) = false :=
        beq_eq_false_iff_ne.mpr (Nat.ne_of_lt (Nat.lt_of_lt_of_le (h.line_known l hl) hb))
      rw [hne, Bool.false_and]
    rw [h.removed_known b hb, hnone]
    rfl

/-! ## What the two checkouts store -/

/-- Lines of a stored bill and stored products: those before the first out
of range are taken, whether or not the cart update is reached. -/
theorem eval_finishCheckout [Env] {α : Type} {u : Id} {ls : List BillProduct} {db : Db} (a : α)
    (h : ∀ l ∈ ls, (db.bills.find? l.billId).isSome = true ∧
      (db.products.find? l.productId).isSome = true) :
    (eval (finishCheckout u ls a) db).2.bills = db.bills ∧
    (eval (finishCheckout u ls a) db).2.billProducts =
      db.billProducts.insertAll (ls.takeWhile (fun l => fitsDecimal l.totalAmount)) := by
  induction ls generalizing db with
  | nil => exact ⟨rfl, rfl⟩
  | cons l ls ih =>
    obtain ⟨hbill, hprod⟩ := h l List.mem_cons_self
    have hexec := exec_insertBillProduct hbill hprod
    rw [finishCheckout_cons, List.takeWhile_cons]
    cases hfit : fitsDecimal l.totalAmount with
    | true =>
      rw [if_pos hfit] at hexec
      rw [eval, Prog.run_stmt_ok exec hexec]
      exact ih fun l' hl' => h l' (List.mem_cons_of_mem _ hl')
    | false =>
      rw [if_neg (Bool.eq_false_iff.mp hfit)] at hexec
      rw [eval, Prog.run_stmt_error exec hexec]
      exact ⟨rfl, rfl⟩

/-- What is left of either checkout after its bill. -/
theorem Db.eval_finish [Env] {α : Type} (db : Db) (u : Id) (b : Bill) (a : α) :
    (eval (finishCheckout u (db.cartLines u db.bills.next) a)
      { db with bills := db.bills.insert b }).2.bills = db.bills.insert b ∧
    (eval (finishCheckout u (db.cartLines u db.bills.next) a)
      { db with bills := db.bills.insert b }).2.billProducts =
        db.billProducts.insertAll (db.takenLines u) :=
  eval_finishCheckout a (db.cartLines_stored u b)

/-- A priced cart whose amount fits `decimal(10,0)`. -/
def Db.amountFits (db : Db) (u : Id) : Bool :=
  decide (db.CartPriced u) && fitsDecimal (db.cartValue u)

theorem Db.amountFits_iff {db : Db} {u : Id} :
    db.amountFits u = true ↔ db.CartPriced u ∧ fitsDecimal (db.cartValue u) = true := by
  rw [Db.amountFits, Bool.and_eq_true, decide_eq_true_eq]

/-- The database takes the bill of such a cart if its texts fit. -/
def Db.storable (db : Db) (u : Id) (b : Bill) : Bool := db.amountFits u && b.fits

theorem Db.storable_iff {db : Db} {u : Id} {b : Bill} :
    db.storable u b = true ↔
      db.CartPriced u ∧ fitsDecimal (db.cartValue u) = true ∧ b.fits = true := by
  rw [Db.storable, Bool.and_eq_true, Db.amountFits_iff, and_assoc]

/-- A bill of a priced cart that it does not take. -/
theorem Db.refused_of_not_storable {db : Db} {u : Id} {b : Bill} (hpriced : db.CartPriced u)
    (hamount : b.amount = db.cartValue u) (h : ¬ db.storable u b = true) :
    (fitsDecimal b.amount && b.fits) = false := by
  rw [Db.storable_iff, not_and] at h
  rw [hamount, Bool.eq_false_iff, ne_eq, Bool.and_eq_true]
  exact h hpriced

section Checkouts

open Momo.GetPaymentUrlService (accept momoBill)

/-- Nothing happened, or a bill was stored with the lines the database
takes. -/
def Db.Stored (db : Db) (u : Id) : Option Bill → Db → Prop
  | none, db' => db' = db
  | some b, db' => db'.bills = db.bills.insert b ∧
      db'.billProducts = db.billProducts.insertAll (db.takenLines u)

/-- `accept`, for the cart the service has counted. -/
theorem accept_stored [Env] {db : Db} {u : User} (huser : (db.users.find? u.id).isSome = true)
    (hpriced : db.CartPriced u.id) (c : MomoCheckout) :
    db.Stored u.id ((some (momoBill u (db.cartValue u.id) c)).filter (db.storable u.id))
      (eval (accept u (db.cartValue u.id) c (db.groupedCount u.id)
        (db.cartProducts u.id)) db).2 := by
  unfold accept
  rw [Option.filter_some]
  split
  · next hstorable =>
    obtain ⟨-, hfit, htexts⟩ := Db.storable_iff.mp hstorable
    rw [eval_createBill_bind huser hfit htexts, hpriced.each_addLine]
    exact db.eval_finish u.id _ ()
  · next hstorable =>
    have hrefused := Db.refused_of_not_storable hpriced rfl hstorable
    exact congrArg Prod.snd (eval_createBill_refused huser hrefused _)

variable [Env]

/-- The bill a request would store: that of `cash`, or that of
`checkout_momo` if the gateway accepts. -/
def CartsRoute.newBill (db : Db) (u : User) : CartsRoute → Option Bill
  | cash randomToken => some (CartsController.cashBill u randomToken (db.cartValue u.id))
  | checkoutMomo c =>
      match c.gateway (db.momoBody u c) with
      | .unreadable => none
      | .object resultCode _ =>
          if resultCode = .int 0 then some (momoBill u (db.cartValue u.id) c) else none
  | _ => none

/-- The bill it does store. -/
def CartsRoute.storedBill (db : Db) (u : User) (r : CartsRoute) : Option Bill :=
  (r.newBill db u).filter (db.storable u.id)

theorem CartsRoute.amount_of_newBill {db : Db} {u : User} {r : CartsRoute} {b : Bill}
    (h : r.newBill db u = some b) : b.amount = db.cartValue u.id := by
  cases r with
  | cash randomToken => cases h; rfl
  | checkoutMomo c =>
    simp only [newBill] at h
    split at h
    · cases h
    · split at h
      · cases h; rfl
      · cases h
  | _ => cases h

theorem cash_stored {db : Db} {u : User} (huser : (db.users.find? u.id).isSome = true)
    (randomToken : String) :
    db.Stored u.id ((CartsRoute.cash randomToken).storedBill db u)
      (eval (CartsController.cash u randomToken) db).2 := by
  unfold CartsRoute.storedBill CartsRoute.newBill CartsController.cash
  rw [Option.filter_some]
  by_cases hpriced : db.CartPriced u.id
  · rw [eval_bind_ok (eval_total hpriced), eval_select_bind]
    split
    · next hstorable =>
      obtain ⟨-, hfit, htexts⟩ := Db.storable_iff.mp hstorable
      rw [eval_createBill_bind huser hfit htexts, eval_select_bind]
      have heach := hpriced.each_addLine db.bills.next
      unfold Db.cartProducts at heach
      rw [show ({ db with bills := db.bills.insert _ } : Db).productsIn = db.productsIn from rfl,
        heach]
      exact db.eval_finish u.id _ _
    · next hstorable =>
      have hrefused := Db.refused_of_not_storable hpriced rfl hstorable
      exact congrArg Prod.snd (eval_createBill_refused huser hrefused _)
  · obtain ⟨e, he⟩ := eval_total_error hpriced
    rw [if_neg fun h => hpriced (Db.storable_iff.mp h).1, eval_bind_error he]
    rfl

theorem checkoutMomo_stored {db : Db} {u : User} (huser : (db.users.find? u.id).isSome = true)
    (c : MomoCheckout) :
    db.Stored u.id ((CartsRoute.checkoutMomo c).storedBill db u)
      (eval (CartsController.checkoutMomo u c) db).2 := by
  by_cases hpriced : db.CartPriced u.id
  · by_cases hg : ∃ payUrl, c.gateway (db.momoBody u c) = .object (.int 0) payUrl
    · obtain ⟨payUrl, hg⟩ := hg
      have hnew : (CartsRoute.checkoutMomo c).newBill db u =
          some (momoBill u (db.cartValue u.id) c) := by
        rw [CartsRoute.newBill, hg]
        exact if_pos rfl
      -- the redirect to `payUrl` writes nothing, whether it is there or not
      have hredirect : (eval (CartsController.checkoutMomo u c) db).2 =
          (eval (accept u (db.cartValue u.id) c (db.groupedCount u.id)
            (db.cartProducts u.id)) db).2 := by
        rw [checkoutMomo_eval hpriced, hg, Db.afterGateway, if_pos rfl]
        cases haccept : eval (accept u (db.cartValue u.id) c (db.groupedCount u.id)
            (db.cartProducts u.id)) db with
        | mk result db' =>
          cases result with
          | error e => rw [eval_bind_error haccept]
          | ok _ => rw [eval_bind_ok haccept]; cases payUrl <;> rfl
      rw [CartsRoute.storedBill, hnew, hredirect]
      exact accept_stored huser hpriced c
    · have hnone : (CartsRoute.checkoutMomo c).newBill db u = none := by
        simp only [CartsRoute.newBill]
        split
        · rfl
        · next resultCode payUrl hanswer =>
          refine if_neg ?_
          rintro rfl
          exact hg ⟨payUrl, hanswer⟩
      rw [CartsRoute.storedBill, hnone]
      exact checkoutMomo_declined hpriced fun payUrl h => hg ⟨payUrl, h⟩
  · obtain ⟨e, he⟩ := eval_total_error hpriced
    have hnone : (CartsRoute.checkoutMomo c).storedBill db u = none := by
      rw [CartsRoute.storedBill, Option.filter_eq_none_iff]
      exact fun b _ h => hpriced (Db.storable_iff.mp h).1
    unfold CartsController.checkoutMomo
    rw [hnone, eval_bind_error he]
    rfl

/-- Either checkout. -/
theorem checkout_stored {db : Db} {u : User} (huser : (db.users.find? u.id).isSome = true)
    {c : CartsRoute} (hc : c.isCheckout = true) :
    db.Stored u.id (c.storedBill db u) (eval (c.action u) db).2 := by
  cases c with
  | cash randomToken => exact cash_stored huser randomToken
  | checkoutMomo m => exact checkoutMomo_stored huser m
  | _ => cases hc

/-- A bill that is stored is one of a priced cart. -/
theorem CartsRoute.of_storedBill {db : Db} {u : User} {c : CartsRoute} {b : Bill}
    (h : c.storedBill db u = some b) : db.CartPriced u.id ∧ c.newBill db u = some b := by
  obtain ⟨hnew, hstorable⟩ := Option.filter_eq_some_iff.mp h
  exact ⟨(Db.storable_iff.mp hstorable).1, hnew⟩

/-- A checkout changes nothing, or stores the bill of a priced cart. -/
theorem checkout_cases {db : Db} {u : User} (huser : (db.users.find? u.id).isSome = true)
    {c : CartsRoute} (hc : c.isCheckout = true) :
    (c.storedBill db u = none ∧ (eval (c.action u) db).2 = db) ∨
    ∃ b, c.storedBill db u = some b ∧ db.CartPriced u.id ∧ c.newBill db u = some b ∧
      db.Stored u.id (some b) (eval (c.action u) db).2 := by
  have hstored := checkout_stored huser hc
  cases hbill : c.storedBill db u with
  | none =>
    rw [hbill] at hstored
    exact .inl ⟨rfl, hstored⟩
  | some b =>
    rw [hbill] at hstored
    obtain ⟨hpriced, hnew⟩ := CartsRoute.of_storedBill hbill
    exact .inr ⟨b, rfl, hpriced, hnew, hstored⟩

end Checkouts

/-! ## One request -/

/-- Only the two checkouts and the removal of a product send a statement
that does not keep the books. -/
theorem Route.cases_of_issues {u : User} {r : Route} {w : Stmt} (h : r.Issues u w)
    (hw : w.keepsBooks = false) :
    (∃ c, r = .carts c ∧ c.isCheckout = true) ∨
      ∃ i format, r = .products (.destroy i format) := by
  cases w <;> cases hw <;> cases r <;> first
    | exact .inl ⟨_, rfl, h.1⟩
    | exact .inl ⟨_, rfl, h⟩
    | (obtain ⟨-, format, rfl⟩ := h; exact .inr ⟨_, format, rfl⟩)
    | cases h

theorem Request.keepsBooks_of_issues {db : Db} {session : Option Id} {route : Route} {w : Stmt}
    (hcarts : ∀ c, route = .carts c → c.isCheckout = false)
    (hproducts : ∀ i format, route ≠ .products (.destroy i format))
    (h : (Request.user session route).Issues db w) : w.keepsBooks = true := by
  obtain ⟨u, -, hw⟩ := h
  cases hk : w.keepsBooks with
  | true => rfl
  | false =>
    rcases Route.cases_of_issues hw hk with ⟨c, hc, hcheckout⟩ | ⟨i, format, hi⟩
    · rw [hcarts c hc] at hcheckout
      cases hcheckout
    · exact absurd hi (hproducts i format)

theorem OpenRoute.keepsBooks_of_issues {r : OpenRoute} {w : Stmt} (h : r.Issues w) :
    w.keepsBooks = true := by
  cases w <;> first | rfl | (cases r <;> cases h)

theorem productsDestroy_eval [Env] (db : Db) (u : User) (i : Id) (format : Format) :
    (eval (ProductsController.destroy u i format) db).2 =
      if Ability.can u .product && (db.products.find? i).isSome then db.destroyProduct i
      else db := by
  unfold ProductsController.destroy authorize ProductsController.setProduct
  cases Ability.can u .product with
  | false => rfl
  | true =>
    cases hfound : db.products.find? i with
    | none => simp [hfound]
    | some p =>
      have hid : p.id = i := db.products.id_of_find? hfound
      simp only [if_true, pure_bind, bind_assoc, eval_select_bind, hfound, Prog.orRaise_some,
        Prog.ret_bind, hid]
      rw [eval_perform_ok rfl, respondJs_eval_snd]
      rfl

section Requests

variable [Env]

/-- What a request takes from a bill without changing its amount: the
lines of a product it destroys, or the lines of its own checkout that the
database refuses. -/
def Request.lost (db : Db) (r : Request) (billId : Id) : Int :=
  match r with
  | user session (.products (.destroy i _)) =>
      match session.bind db.users.find? with
      | none => 0
      | some u =>
          if Ability.can u .product && (db.products.find? i).isSome then db.linesOfProduct i billId
          else 0
  | user session (.carts r) =>
      match session.bind db.users.find? with
      | none => 0
      | some u =>
          if (r.storedBill db u).isSome && billId == db.bills.next then db.refusedValue u.id else 0
  | _ => 0

/-- A request whose statements keep the books keeps the invariant. -/
theorem LedgerInv.step_kept {removed : Id → Int} {db : Db} {r : Request}
    (h : LedgerInv removed db) (hr : ∀ w, r.Issues db w → w.keepsBooks = true) :
    LedgerInv removed (step db r) := by
  have hk : db.LedgerKept (step db r) := by
    refine step_inv (fun x => db.LedgerKept x) (fun w x x' hw hx hk => ?_) (.refl db)
    exact hk.trans (exec_ledgerKept (hr w hw) hx)
  exact h.kept hk

/-- A checkout, of a signed-in user. -/
theorem LedgerInv.step_checkout {removed : Id → Int} {db : Db} (h : LedgerInv removed db) {u : User}
    (huser : (db.users.find? u.id).isSome = true) {c : CartsRoute} (hc : c.isCheckout = true) :
    LedgerInv (fun i => removed i +
        if (c.storedBill db u).isSome && i == db.bills.next then db.refusedValue u.id else 0)
      (eval (c.action u) db).2 := by
  rcases checkout_cases huser hc with ⟨hbill, hsame⟩ | ⟨b, hbill, hpriced, hnew, hbills, hlines⟩
  · rw [hbill, hsame]
    simpa using h
  · have hinv := h.checkout hpriced (CartsRoute.amount_of_newBill hnew) hbills hlines
    rw [hbill]
    simpa using hinv

theorem CartsRoute.storedBill_of_not_checkout {db : Db} {u : User} {c : CartsRoute}
    (h : c.isCheckout = false) : c.storedBill db u = none := by
  cases c with
  | cash randomToken => cases h
  | checkoutMomo m => cases h
  | _ => rfl

theorem Request.lost_unauthenticated {db : Db} {session : Option Id}
    (h : session.bind db.users.find? = none) (route : Route) (billId : Id) :
    (Request.user session route).lost db billId = 0 := by
  cases route with
  | carts c => simp only [lost, h]
  | products p => cases p <;> simp only [lost, h]
  | _ => rfl

/-- One request moves to the lost part exactly what it takes. -/
theorem LedgerInv.step {removed : Id → Int} {db : Db} (h : LedgerInv removed db) (r : Request) :
    LedgerInv (fun i => removed i + r.lost db i) (step db r) := by
  cases r with
  | «open» route =>
    simp only [Request.lost, add_zero]
    exact h.step_kept fun w => OpenRoute.keepsBooks_of_issues
  | user session route =>
    cases hs : session.bind db.users.find? with
    | none =>
      simp only [Request.lost_unauthenticated hs, add_zero, step_unauthenticated hs]
      exact h
    | some u =>
      obtain ⟨i, rfl, hu⟩ := Option.bind_eq_some_iff.mp hs
      cases route with
      | carts c =>
        simp only [Request.lost, hs]
        cases hc : c.isCheckout with
        | true =>
          rw [step_user hu]
          exact h.step_checkout (db.users.isSome_find?_self hu) hc
        | false =>
          simp only [CartsRoute.storedBill_of_not_checkout hc, Option.isSome_none, Bool.false_and,
            Bool.false_eq_true, if_false, add_zero]
          refine h.step_kept fun w => Request.keepsBooks_of_issues ?_ (fun _ _ => nofun)
          rintro c' ⟨⟩
          exact hc
      | products p =>
        cases p with
        | destroy i format =>
          simp only [Request.lost, hs]
          rw [step_user hu, show Route.action u (.products (.destroy i format)) =
            ProductsController.destroy u i format from rfl, productsDestroy_eval]
          split
          · exact h.destroyProduct i
          · simp only [add_zero]
            exact h
        | _ =>
          simp only [Request.lost, add_zero]
          exact h.step_kept fun w =>
            Request.keepsBooks_of_issues (fun _ => nofun) (fun _ _ => nofun)
      | _ =>
        simp only [Request.lost, add_zero]
        exact h.step_kept fun w => Request.keepsBooks_of_issues (fun _ => nofun) (fun _ _ => nofun)

/-! ## Whole runs -/

/-- What the requests of a run take from a bill. -/
def lostAlong (db : Db) : List Request → Id → Int
  | [], _ => 0
  | r :: rs, billId => r.lost db billId + lostAlong (step db r) rs billId

/-- The bills of a database add up, and its lines belong to stored bills. -/
structure Db.LedgerSound (db : Db) : Prop where
  adds_up : ∀ b ∈ db.bills.rows, b.amount = db.lineSum b.id
  line_known : ∀ l ∈ db.billProducts.rows, l.billId < db.bills.next

theorem LedgerInv.run {removed : Id → Int} {db : Db} (h : LedgerInv removed db)
    (rs : List Request) :
    LedgerInv (fun i => removed i + lostAlong db rs i) (runFrom db rs) := by
  induction rs generalizing removed db with
  | nil =>
    simp only [lostAlong, add_zero]
    exact h
  | cons r rs ih =>
    have hrun := ih (h.step r)
    simp only [add_assoc] at hrun
    exact hrun

end Requests

/-- Two leashes and a bowl in the cart of user 2; user 1 is staff. -/
def staffedShop : Db where
  users := Table.empty.insertAll
    [{ email := "staff@pet.vn", roles := ["staff"] }, { email := "ann@pet.vn", roles := ["user"] }]
  products := Table.empty.insertAll
    [{ name := some "Leash", price := some 120, quantity := some 3 },
     { name := some "Bowl", price := some 50, quantity := some 9 }]
  carts := Table.empty.insertAll
    [{ userId := 2, productId := 1 }, { userId := 2, productId := 2 },
     { userId := 2, productId := 1 }]

theorem staffedShop_ledgerSound : staffedShop.LedgerSound := ⟨by decide, by decide⟩

/-- The customer pays cash, then the leash is taken out of the shop. -/
def discontinuedLeash : List Request :=
  [.user (some 2) (.carts (.cash "7f")), .user (some 1) (.products (.destroy 1 .turboStream))]

end PetParadise
