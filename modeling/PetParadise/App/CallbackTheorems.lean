/-
PetParadise.App.CallbackTheorems — the gateway may repeat and reorder its
callbacks.

A callback rewrites the payment columns of the one bill it finds and
nothing else (`Bill.lasting` is what it leaves). The proof has one lemma at
its centre, `Db.settledBill_settleAt`: which bill a callback finds does not
depend on what other callbacks wrote, because they never touch `order_id`
or `user_id`. Repetition and reordering follow from it by composing two
updates.

The case of a callback WITHOUT an order id is different: it asks for a bill
whose `order_id` is NULL. That there is none is an invariant of the two
ways to create a bill (`Stmt.NamesOrder`).
-/
import PetParadise.App.PaymentTheorems

namespace PetParadise

open Store

/-! ## What a callback leaves alone -/

/-- The columns of a bill that no callback writes. -/
structure BillCore where
  id : Id
  orderId : Option String
  amount : Int
  userId : Id
  firstName : Option String
  lastName : Option String
  address : Option String
  phoneNumber : Option String
  isShipped : Bool
  deriving DecidableEq, Repr

def Bill.lasting (b : Bill) : BillCore where
  id := b.id
  orderId := b.orderId
  amount := b.amount
  userId := b.userId
  firstName := b.firstName
  lastName := b.lastName
  address := b.address
  phoneNumber := b.phoneNumber
  isShipped := b.isShipped

/-- The row update of a callback, as a function on all rows. -/
def Bill.settleAt (i : Id) (data : BillNotice) (b : Bill) : Bill :=
  if b.id == i then b.settle data else b

@[simp] theorem Bill.lasting_settleAt (i : Id) (data : BillNotice) (b : Bill) :
    (b.settleAt i data).lasting = b.lasting := by
  unfold Bill.settleAt
  split <;> rfl

@[simp] theorem Bill.settleAt_id (i : Id) (data : BillNotice) (b : Bill) :
    (b.settleAt i data).id = b.id := congrArg BillCore.id (b.lasting_settleAt i data)

theorem Bill.settleAt_self (i : Id) (data : BillNotice) (b : Bill) :
    (b.settleAt i data).settleAt i data = b.settleAt i data := by
  unfold Bill.settleAt
  by_cases h : b.id = i
  · simp [h, Bill.settle]
  · simp [h]

theorem Bill.settleAt_of_ne {i : Id} {b : Bill} (h : b.id ≠ i) (data : BillNotice) :
    b.settleAt i data = b := by
  simp [Bill.settleAt, h]

/-- Updates of two different rows can be swapped. -/
theorem Bill.settleAt_comm {i j : Id} (hij : i ≠ j) (data data' : BillNotice) (b : Bill) :
    (b.settleAt i data).settleAt j data' = (b.settleAt j data').settleAt i data := by
  by_cases hi : b.id = i
  · have hj : b.id ≠ j := fun hj => hij (hi.symm.trans hj)
    rw [Bill.settleAt_of_ne hj, Bill.settleAt_of_ne (by rwa [Bill.settleAt_id])]
  · have hi' : (b.settleAt j data').id ≠ i := by rwa [Bill.settleAt_id]
    rw [Bill.settleAt_of_ne hi, Bill.settleAt_of_ne hi']

/-- The database after such an update. -/
def Db.settleAt (db : Db) (i : Id) (data : BillNotice) : Db :=
  { db with bills := db.bills.modify (·.id == i) (·.settle data) (·.settle_id data) }

theorem Db.rows_settleAt (db : Db) (i : Id) (data : BillNotice) :
    (db.settleAt i data).bills.rows = db.bills.rows.map (Bill.settleAt i data) := rfl

/-- Databases with the same bills, of which the rest is the same. -/
theorem Db.eq_of_bills {a b : Db} (hrest : { a with bills := b.bills } = b)
    (hrows : a.bills.rows = b.bills.rows) (hnext : a.bills.next = b.bills.next) : a = b := by
  have hbills : a.bills = b.bills := Table.ext hrows hnext
  rw [← hrest, ← hbills]

theorem Db.settleAt_self (db : Db) (i : Id) (data : BillNotice) :
    (db.settleAt i data).settleAt i data = db.settleAt i data := by
  apply Db.eq_of_bills rfl
  · simp only [Db.rows_settleAt, List.map_map]
    apply List.map_congr_left
    intro b _
    exact b.settleAt_self i data
  · rfl

theorem Db.settleAt_comm (db : Db) {i j : Id} (hij : i ≠ j) (data data' : BillNotice) :
    (db.settleAt i data).settleAt j data' = (db.settleAt j data').settleAt i data := by
  apply Db.eq_of_bills rfl
  · simp only [Db.rows_settleAt, List.map_map]
    apply List.map_congr_left
    intro b _
    exact b.settleAt_comm hij data data'
  · rfl

/-! ## Every bill has an order id -/

/-- Bills are only ever stored with an order id. -/
def Stmt.NamesOrder (w : Stmt) : Prop := ∀ b, w = .insertBill b → b.orderId.isSome = true

/-- All stored bills have an order id. -/
def Db.OrdersNamed (db : Db) : Prop := ∀ b ∈ db.bills.rows, b.orderId.isSome = true

theorem exec_ordersNamed [Env] (w : Stmt) (db db' : Db) (hw : w.NamesOrder)
    (h : exec w db = .ok db') (hdb : db.OrdersNamed) : db'.OrdersNamed := by
  intro b hb
  rcases exec_bills h with hs | ⟨b₀, rfl, hs⟩ | ⟨i, data, -, hs⟩ | ⟨i, -, hs⟩ | ⟨i, -, hs⟩
  · rw [hs] at hb
    exact hdb b hb
  · rw [hs, Table.rows_insert, List.mem_append, List.mem_singleton] at hb
    rcases hb with hb | rfl
    · exact hdb b hb
    · exact hw b₀ rfl
  · rw [hs, Table.rows_modify] at hb
    obtain ⟨b₁, hb₁, rfl⟩ := List.mem_map.mp hb
    have hnamed := hdb b₁ hb₁
    split <;> exact hnamed
  · rw [hs, Table.rows_modify] at hb
    obtain ⟨b₁, hb₁, rfl⟩ := List.mem_map.mp hb
    have hnamed := hdb b₁ hb₁
    split <;> exact hnamed
  · rw [hs] at hb
    exact hdb b (List.mem_of_mem_filter hb)

section Callbacks

variable [Env]

/-! ## Which bill a callback finds -/

theorem CallbackParams.carries_settleAt (p : CallbackParams) (i : Id) (data : BillNotice)
    (b : Bill) : p.carries (b.settleAt i data) = p.carries b :=
  p.carries_congr (congrArg BillCore.orderId (b.lasting_settleAt i data))

/-- A callback finds the same bill after another one has written. -/
theorem Db.settledBill_settleAt (db : Db) (i : Id) (data : BillNotice) (p : CallbackParams) :
    (db.settleAt i data).settledBill p = (db.settledBill p).map (Bill.settleAt i data) := by
  have hof : (db.settleAt i data).billOf p = (db.billOf p).map (Bill.settleAt i data) := by
    unfold Db.billOf
    rw [Db.rows_settleAt, List.find?_map]
    congr 2
    funext b
    exact p.carries_settleAt i data b
  unfold Db.settledBill
  rw [hof]
  cases db.billOf p with
  | none => rfl
  | some b =>
    have huser : (b.settleAt i data).userId = b.userId :=
      congrArg BillCore.userId (b.lasting_settleAt i data)
    simp only [Option.map_some, Option.filter_some, huser]
    change (if ((db.users.find? b.userId).isSome && _) = true then _ else _) = _
    split <;> rfl

theorem step_callback_eq (db : Db) (p : CallbackParams) :
    step db (.open (.callback p)) =
      match db.settledBill p with
      | none => db
      | some b => db.settleAt b.id p.data := by
  cases h : db.settledBill p with
  | none => exact step_callback_none h
  | some b => exact step_callback_some h

/-- Order ids as the database compares them; absent ones are alike. -/
def CallbackParams.sameOrder (p q : CallbackParams) : Bool :=
  match p.orderId.toColumn, q.orderId.toColumn with
  | some x, some y => sqlEq x y
  | none, none => true
  | _, _ => false

/-- Two callbacks that carry one bill have the same order id. -/
theorem CallbackParams.sameOrder_of_carries {p q : CallbackParams} {b : Bill}
    (hp : p.carries b = true) (hq : q.carries b = true) : p.sameOrder q = true := by
  unfold carries at hp hq
  unfold sameOrder
  cases hb : b.orderId with
  | none =>
    cases hpo : p.orderId.toColumn <;> cases hqo : q.orderId.toColumn <;> simp_all
  | some y =>
    cases hpo : p.orderId.toColumn <;> cases hqo : q.orderId.toColumn <;>
      simp_all [sqlEq]

/-! ## The application names every order -/

theorem CartsRoute.names_order (u : User) (r : CartsRoute) :
    (r.action u).Only Stmt.NamesOrder := by
  cases r with
  | cash randomToken =>
    apply CartsController.cash_only
    · intro q b hb; cases hb
    · intro total b hb; cases hb; rfl
    · intro l b hb; cases hb
    · intro b hb; cases hb
  | checkoutMomo c =>
    apply CartsController.checkoutMomo_only
    · intro q b hb; cases hb
    · intro body b hb; cases hb
    · intro total b hb; cases hb; rfl
    · intro l b hb; cases hb
    · intro b hb; cases hb
  | _ =>
    refine Prog.Only.mono (CartsRoute.action_only u _) ?_
    rintro w hw b rfl
    cases hw.1

theorem Route.names_order (u : User) (r : Route) : (r.action u).Only Stmt.NamesOrder := by
  cases r with
  | carts r => exact r.names_order u
  | _ =>
    refine Prog.Only.mono (Route.action_only u _) ?_
    rintro w hw b rfl
    cases hw

theorem OpenRoute.names_order (r : OpenRoute) : r.action.Only Stmt.NamesOrder := by
  refine Prog.Only.mono r.action_only ?_
  rintro w hw b rfl
  cases r <;> cases hw

theorem step_ordersNamed {db : Db} (h : db.OrdersNamed) (r : Request) :
    (step db r).OrdersNamed := by
  rcases step_cases db r with ⟨i, u, route, rfl, -, hs⟩ | hs | ⟨route, rfl, hs⟩
  · rw [hs]
    exact Action.eval_inv Db.OrdersNamed exec_ordersNamed (route.names_order u) h
  · rw [hs]
    exact h
  · rw [hs]
    exact Action.eval_inv Db.OrdersNamed exec_ordersNamed route.names_order h

/-- Reached by requests from a database that had no bills. -/
def Db.ReachedWithoutBills (db : Db) : Prop :=
  ∃ db₀ rs, db₀.bills.rows = [] ∧ db = runFrom db₀ rs

theorem Db.ReachedWithoutBills.ordersNamed {db : Db} (h : db.ReachedWithoutBills) :
    db.OrdersNamed := by
  obtain ⟨db₀, rs, hempty, rfl⟩ := h
  have h₀ : db₀.OrdersNamed := by
    intro b hb
    rw [hempty] at hb
    cases hb
  clear hempty
  induction rs generalizing db₀ with
  | nil => exact h₀
  | cons r rs ih => exact ih (step db₀ r) (step_ordersNamed h₀ r)

/-! ## Repetition and order -/

theorem step_callback_lasting (db : Db) (p : CallbackParams) :
    (step db (.open (.callback p))).bills.rows.map Bill.lasting =
      db.bills.rows.map Bill.lasting ∧
    (step db (.open (.callback p))).billProducts = db.billProducts := by
  rw [step_callback_eq]
  cases db.settledBill p with
  | none => exact ⟨rfl, rfl⟩
  | some b =>
    constructor
    · rw [Db.rows_settleAt, List.map_map]
      apply List.map_congr_left
      intro b' _
      exact b'.lasting_settleAt b.id p.data
    · rfl

theorem callbacks_lasting (db : Db) (ps : List CallbackParams) :
    (runFrom db (ps.map fun p => .open (.callback p))).bills.rows.map Bill.lasting =
      db.bills.rows.map Bill.lasting ∧
    (runFrom db (ps.map fun p => .open (.callback p))).billProducts = db.billProducts := by
  induction ps generalizing db with
  | nil => exact ⟨rfl, rfl⟩
  | cons p ps ih =>
    obtain ⟨hbills, hlines⟩ := step_callback_lasting db p
    obtain ⟨hbills', hlines'⟩ := ih (step db (.open (.callback p)))
    exact ⟨hbills'.trans hbills, hlines'.trans hlines⟩

theorem step_callback_unmatched {db : Db} {p : CallbackParams}
    (h : ∀ b ∈ db.bills.rows, p.carries b = false) : step db (.open (.callback p)) = db := by
  apply step_callback_none
  have hnone : db.billOf p = none := by
    apply List.find?_eq_none.mpr
    intro b hb
    rw [h b hb]
    exact Bool.false_ne_true
  rw [Db.settledBill, hnone]
  rfl

theorem step_callback_twice (db : Db) (p : CallbackParams) :
    step (step db (.open (.callback p))) (.open (.callback p)) =
      step db (.open (.callback p)) := by
  cases h : db.settledBill p with
  | none =>
    rw [step_callback_none h]
    exact step_callback_none h
  | some b =>
    have hfirst : step db (.open (.callback p)) = db.settleAt b.id p.data := step_callback_some h
    have hagain : (db.settleAt b.id p.data).settledBill p = some (b.settleAt b.id p.data) := by
      rw [Db.settledBill_settleAt, h]
      rfl
    rw [hfirst, step_callback_eq, hagain]
    dsimp only
    rw [Bill.settleAt_id, Db.settleAt_self]

theorem step_callback_comm (db : Db) {p q : CallbackParams} (hpq : p.sameOrder q = false) :
    step (step db (.open (.callback p))) (.open (.callback q)) =
      step (step db (.open (.callback q))) (.open (.callback p)) := by
  simp only [step_callback_eq]
  cases hp : db.settledBill p with
  | none =>
    cases hq : db.settledBill q with
    | none => simp only [hp]
    | some b => simp only [Db.settledBill_settleAt, hp, Option.map_none]
  | some a =>
    cases hq : db.settledBill q with
    | none => simp only [hp, Db.settledBill_settleAt, hq, Option.map_none]
    | some b =>
      simp only [Db.settledBill_settleAt, hp, hq, Option.map_some, Bill.settleAt_id]
      obtain ⟨ha, hpa⟩ := Db.settledBill_spec hp
      obtain ⟨hb, hqb⟩ := Db.settledBill_spec hq
      have hne : a.id ≠ b.id := by
        intro hid
        have hab : a = b := db.bills.eq_of_id_eq ha hb hid
        subst hab
        rw [CallbackParams.sameOrder_of_carries hpa hqb] at hpq
        cases hpq
      exact db.settleAt_comm hne p.data q.data

/-- **Callbacks replay and reorder safely.** From every database: no
sequence of callbacks changes the number of bills, their lasting columns
or their lines; a callback whose order id no bill has changes nothing, and
neither does one without an order id in a database the application can
reach; repeating a callback adds nothing; callbacks with different order
ids commute. -/
theorem callbacks_replay_and_reorder (db : Db) :
    (∀ ps : List CallbackParams,
      (runFrom db (ps.map fun p => .open (.callback p))).bills.rows.map Bill.lasting =
        db.bills.rows.map Bill.lasting ∧
      (runFrom db (ps.map fun p => .open (.callback p))).billProducts = db.billProducts) ∧
    (∀ p : CallbackParams, (∀ b ∈ db.bills.rows, p.carries b = false) →
      step db (.open (.callback p)) = db) ∧
    (∀ p : CallbackParams, p.orderId = .null → db.ReachedWithoutBills →
      step db (.open (.callback p)) = db) ∧
    (∀ p : CallbackParams,
      step (step db (.open (.callback p))) (.open (.callback p)) =
        step db (.open (.callback p))) ∧
    (∀ p q : CallbackParams, p.sameOrder q = false →
      step (step db (.open (.callback p))) (.open (.callback q)) =
        step (step db (.open (.callback q))) (.open (.callback p))) := by
  refine ⟨callbacks_lasting db, fun p => step_callback_unmatched, ?_, step_callback_twice db,
    fun p q => step_callback_comm db⟩
  intro p hnull hreached
  apply step_callback_unmatched
  intro b hb
  -- a NULL order id is only carried by a bill without one
  obtain ⟨x, hx⟩ := Option.isSome_iff_exists.mp (hreached.ordersNamed b hb)
  simp [CallbackParams.carries, hnull, Scalar.toColumn, hx]

end Callbacks

/-- Two bills; the second one's order id differs from the first one's. -/
def twoOrders : Db where
  users := Table.empty.insertAll [{ email := "ann@pet.vn" }]
  bills := Table.empty.insertAll
    [{ orderId := some "MM2023_1_7f", amount := 120, status := .unpaid, orderInfo := none,
       userId := 1, firstName := none, lastName := none, address := none, phoneNumber := none },
     { orderId := some "MM2023_1_8a", amount := 80, status := .unpaid, orderInfo := none,
       userId := 1, firstName := none, lastName := none, address := none, phoneNumber := none }]

/-- Both bills are paid, in either order, whatever the case
of the letters. -/
theorem callbacks_replay_and_reorder_twoOrders :
    (@step .caseInsensitive (@step .caseInsensitive twoOrders
        (.open (.callback { orderId := .text "mm2023_1_7F" })))
        (.open (.callback { orderId := .text "MM2023_1_8a" }))).bills.rows.map Bill.status =
      [.paid, .paid] ∧
    @step .caseInsensitive (@step .caseInsensitive twoOrders
        (.open (.callback { orderId := .text "mm2023_1_7F" })))
        (.open (.callback { orderId := .text "MM2023_1_8a" })) =
      @step .caseInsensitive (@step .caseInsensitive twoOrders
        (.open (.callback { orderId := .text "MM2023_1_8a" })))
        (.open (.callback { orderId := .text "mm2023_1_7F" })) :=
  ⟨by decide, (@callbacks_replay_and_reorder .caseInsensitive twoOrders).2.2.2.2 _ _ (by decide)⟩

end PetParadise
