/-
PetParadise.App.PaymentTheorems — the payment state machine of a bill.

The intended machine has one transition: an unpaid bill becomes paid on a
callback that carries its order id and reports the result code 0, the
success code both `checkout_momo` and the service test for.
`Api::V1::BillsController#create` has neither test: it sets `status: 1`
on whatever bill it finds. A run follows the machine nevertheless exactly
when every callback that writes finds a bill that is already paid, or an
unpaid one together with the code 0.

Callbacks are the only requests that can change a status at all, and no
request changes an order id; both come from the table of
`PetParadise.App.RoutesTheorems`.
-/
import PetParadise.App.RoutesTheorems

namespace PetParadise

open Store

/-! ## Which statements touch a status -/

theorem exec_status [Env] {w : Stmt} {db db' : Db} (h : exec w db = .ok db')
    (hw : ∀ i data, w ≠ .settleBill i data) : Table.Kept Bill.status db.bills db'.bills := by
  rcases exec_bills h with hb | ⟨b, -, hb⟩ | ⟨i, data, rfl, -⟩ | ⟨i, -, hb⟩ | ⟨i, -, hb⟩
  · rw [hb]; exact .refl _ _
  · rw [hb]; exact .insert _ _ _
  · exact absurd rfl (hw i data)
  · rw [hb]; exact .modify _ _ _ (fun _ => rfl)
  · rw [hb]; exact .delete _ _ _

theorem exec_orderId [Env] {w : Stmt} {db db' : Db} (h : exec w db = .ok db') :
    Table.Kept Bill.orderId db.bills db'.bills := by
  rcases exec_bills h with hb | ⟨b, -, hb⟩ | ⟨i, data, -, hb⟩ | ⟨i, -, hb⟩ | ⟨i, -, hb⟩
  · rw [hb]; exact .refl _ _
  · rw [hb]; exact .insert _ _ _
  · rw [hb]; exact .modify _ _ _ (fun _ => rfl)
  · rw [hb]; exact .modify _ _ _ (fun _ => rfl)
  · rw [hb]; exact .delete _ _ _

/-- Only the callback sends the statement that settles a bill. -/
theorem Request.callback_of_settles {db : Db} {r : Request} {i : Id} {data : BillNotice}
    (h : r.Issues db (.settleBill i data)) : ∃ p, r = .open (.callback p) := by
  cases r with
  | user session route =>
    obtain ⟨u, -, h⟩ := h
    cases route <;> cases h
  | «open» route =>
    cases route with
    | callback p => exact ⟨p, rfl⟩
    | _ => cases h

section Runs

variable [Env]

theorem step_status_kept {db : Db} {r : Request} (hr : ∀ p, r ≠ .open (.callback p)) :
    Table.Kept Bill.status db.bills (step db r).bills := by
  refine step_inv (fun x => Table.Kept Bill.status db.bills x.bills)
    (fun w x x' hw hx h => h.trans (exec_status hx ?_)) (.refl _ _)
  rintro i data rfl
  obtain ⟨p, rfl⟩ := Request.callback_of_settles hw
  exact hr p rfl

theorem step_orderId_kept (db : Db) (r : Request) :
    Table.Kept Bill.orderId db.bills (step db r).bills :=
  step_inv (fun x => Table.Kept Bill.orderId db.bills x.bills)
    (fun _ _ _ _ hx h => h.trans (exec_orderId hx)) (.refl _ _)

theorem runFrom_orderId_kept (db : Db) (rs : List Request) :
    Table.Kept Bill.orderId db.bills (runFrom db rs).bills := by
  induction rs generalizing db with
  | nil => exact .refl _ _
  | cons r rs ih => exact (step_orderId_kept db r).trans (ih (step db r))

/-! ## What a callback does -/

/-- The bill a callback writes to, if it writes at all. -/
def Db.settledBill (db : Db) (p : CallbackParams) : Option Bill :=
  (db.billOf p).filter (fun b =>
    (db.users.find? b.userId).isSome && (inRange fitsBigint p.data.responseTime && p.data.fits))

/-- Data out of range, or a text that is too long, is refused. -/
theorem exec_settleBill_refused (db : Db) (i : Id) {data : BillNotice}
    (h : (inRange fitsBigint data.responseTime && data.fits) = false) :
    ∃ e, exec (.settleBill i data) db = .error e := by
  cases hrange : inRange fitsBigint data.responseTime with
  | false => exact ⟨.rangeError, by simp [exec, hrange]⟩
  | true =>
    rw [hrange, Bool.true_and] at h
    exact ⟨.valueTooLong, by simp [exec, hrange, h]⟩

theorem step_callback_none {db : Db} {p : CallbackParams} (h : db.settledBill p = none) :
    step db (.open (.callback p)) = db := by
  simp only [step, Request.action, OpenRoute.action, Api.V1.BillsController.create,
    Action.eval_select_bind]
  cases hb : db.billOf p with
  | none => rfl
  | some b =>
    simp only [Db.settledBill, hb, Option.filter_some, ite_eq_right_iff, reduceCtorEq, imp_false,
      Bool.not_eq_true, Bool.and_eq_false_imp (x := (db.users.find? b.userId).isSome)] at h
    cases hu : db.users.find? b.userId with
    | none => simp [hu]
    | some u =>
      have hrefused := h (by rw [hu]; rfl)
      obtain ⟨e, he⟩ := exec_settleBill_refused db b.id hrefused
      simp only [hu, Action.eval_select_bind, Option.isNone_some, Bool.false_eq_true, if_false]
      rw [Action.eval_perform_error he]

theorem step_callback_some {db : Db} {p : CallbackParams} {b : Bill}
    (h : db.settledBill p = some b) :
    step db (.open (.callback p)) =
      { db with
        bills := db.bills.modify (·.id == b.id) (·.settle p.data) (·.settle_id p.data) } := by
  obtain ⟨hb, hc⟩ := Option.filter_eq_some_iff.mp h
  simp only [Bool.and_eq_true] at hc
  obtain ⟨u, hu⟩ := Option.isSome_iff_exists.mp hc.1
  simp only [step, Request.action, OpenRoute.action, Api.V1.BillsController.create,
    Action.eval_select_bind, hb, hu, Option.isNone_some, Bool.false_eq_true, if_false]
  rw [Action.eval_perform_ok (by simp only [exec, hc.2.1, hc.2.2, if_true]; rfl)]
  rfl

/-- A bill after the callback is the written one or another one as it
was. -/
theorem mem_step_callback {db : Db} {p : CallbackParams} {b b' : Bill}
    (h : db.settledBill p = some b) (hb : b ∈ db.bills.rows)
    (hb' : b' ∈ (step db (.open (.callback p))).bills.rows) :
    b' = b.settle p.data ∨ b' ∈ db.bills.rows := by
  rw [step_callback_some h, Table.rows_modify] at hb'
  obtain ⟨x, hx, rfl⟩ := List.mem_map.mp hb'
  by_cases hid : x.id = b.id
  · left
    rw [db.bills.eq_of_id_eq hx hb hid]
    simp
  · right
    have hno : (x.id == b.id) = false := by simpa using hid
    simpa [hno] using hx

/-- The bill written to is stored, and the callback carries its order id. -/
theorem Db.settledBill_spec {db : Db} {p : CallbackParams} {b : Bill}
    (h : db.settledBill p = some b) : b ∈ db.bills.rows ∧ p.carries b = true := by
  obtain ⟨hb, -⟩ := Option.filter_eq_some_iff.mp h
  exact ⟨List.mem_of_find?_eq_some hb, List.find?_some hb⟩

/-! ## The state machine -/

/-- One request follows the machine: a bill whose status it changes was
unpaid, is paid afterwards, and the request is a callback with that bill's
order id and the code 0. -/
def StatusLawful (db : Db) (r : Request) : Prop :=
  ∀ b ∈ db.bills.rows, ∀ b' ∈ (step db r).bills.rows, b'.id = b.id → b'.status ≠ b.status →
    b.status = .unpaid ∧ b'.status = .paid ∧
    ∃ p, r = .open (.callback p) ∧ p.carries b = true ∧ p.resultCode.isZero = true

/-- A whole run follows the machine. The last two fields are what it means
for a single bill, between any two moments of the run. -/
structure PaymentsLawful (db : Db) (rs : List Request) : Prop where
  changes : Along step StatusLawful db rs
  cash_stays : ∀ pre mid post, rs = pre ++ mid ++ post →
    ∀ b ∈ (runFrom db pre).bills.rows, ∀ b' ∈ (runFrom db (pre ++ mid)).bills.rows,
      b'.id = b.id → b.status = .cash → b'.status = .cash
  declined_stays : ∀ pre mid post, rs = pre ++ mid ++ post →
    ∀ b ∈ (runFrom db pre).bills.rows, ∀ b' ∈ (runFrom db (pre ++ mid)).bills.rows,
      b'.id = b.id → b.status ≠ .paid →
      (∀ p, .open (.callback p) ∈ mid → p.carries b = true → p.resultCode.isZero = false) →
      b'.status ≠ .paid

/-- What the code needs of a callback: the bill it writes to is already
paid, or it is unpaid and the code is 0. -/
def CallbackSound (db : Db) (r : Request) : Prop :=
  ∀ p, r = .open (.callback p) → ∀ b ∈ db.settledBill p,
    b.status = .paid ∨ (b.status = .unpaid ∧ p.resultCode.isZero = true)

theorem statusLawful_iff (db : Db) (r : Request) : StatusLawful db r ↔ CallbackSound db r := by
  by_cases hr : ∃ p, r = .open (.callback p)
  · obtain ⟨p, rfl⟩ := hr
    cases hset : db.settledBill p with
    | none =>
      constructor
      · rintro - q hq b hb
        cases hq
        rw [hset] at hb
        cases hb
      · intro _ b hb b' hb' hid hne
        rw [step_callback_none hset] at hb'
        rw [db.bills.eq_of_id_eq hb' hb hid] at hne
        exact absurd rfl hne
    | some b =>
      obtain ⟨hmem, hcar⟩ := Db.settledBill_spec hset
      constructor
      · rintro h q hq b₁ hb₁
        cases hq
        rw [hset] at hb₁
        cases hb₁
        by_cases hpaid : b.status = .paid
        · exact .inl hpaid
        · right
          have hb' : b.settle p.data ∈ (step db (.open (.callback p))).bills.rows := by
            rw [step_callback_some hset]
            exact List.mem_map.mpr ⟨b, hmem, by simp⟩
          obtain ⟨hun, -, q, hq, -, hz⟩ := h b hmem _ hb' rfl (fun heq => hpaid heq.symm)
          cases hq
          exact ⟨hun, hz⟩
      · intro h b₁ hb₁ b' hb' hid hne
        rcases mem_step_callback hset hmem hb' with rfl | hold
        · -- the written row: `b₁` is the row it was written to
          have hb₁' : b = b₁ := db.bills.eq_of_id_eq hmem hb₁ hid
          subst hb₁'
          rcases h p rfl b hset with hpaid | ⟨hun, hz⟩
          · exact absurd hpaid.symm hne
          · exact ⟨hun, rfl, p, rfl, hcar, hz⟩
        · rw [db.bills.eq_of_id_eq hold hb₁ hid] at hne
          exact absurd rfl hne
  · have hno : ∀ p, r ≠ .open (.callback p) := fun p hp => hr ⟨p, hp⟩
    constructor
    · exact fun _ p hp => absurd hp (hno p)
    · intro _ b hb b' hb' hid hne
      exact absurd ((step_status_kept hno).eq hb hb' hid) hne

/-! ## One bill over a run -/

theorem CallbackParams.carries_congr (p : CallbackParams) {b b' : Bill}
    (h : b'.orderId = b.orderId) : p.carries b' = p.carries b := by
  unfold carries
  rw [h]

/-- A bill keeps its status along a lawful run unless it is unpaid and some
callback carries its order id with the code 0. -/
theorem status_stays {db : Db} {rs : List Request} (h : Along step StatusLawful db rs)
    {b b' : Bill} (hb : b ∈ db.bills.rows) (hb' : b' ∈ (runFrom db rs).bills.rows)
    (hid : b'.id = b.id)
    (hno : b.status = .unpaid →
      ∀ p, .open (.callback p) ∈ rs → p.carries b = true → p.resultCode.isZero = false) :
    b'.status = b.status := by
  induction rs generalizing db b with
  | nil => rw [db.bills.eq_of_id_eq hb' hb hid]
  | cons r rs ih =>
    -- the row the bill is in after the first request
    have hkept := runFrom_orderId_kept (step db r) rs
    have hlt : b'.id < (step db r).bills.next :=
      hid ▸ Nat.lt_of_lt_of_le (db.bills.fresh b hb) (step_orderId_kept db r).next_le
    obtain ⟨b₁, hb₁, hid₁, -⟩ := hkept.kept b' hb' hlt
    have hid₁' : b₁.id = b.id := hid₁.trans hid
    have hcar := fun p => CallbackParams.carries_congr p
      ((step_orderId_kept db r).eq hb hb₁ hid₁')
    have hfirst : b₁.status = b.status := by
      by_contra hne
      obtain ⟨hun, -, p, rfl, hp, hz⟩ := h.1 b hb b₁ hb₁ hid₁' hne
      rw [hno hun p List.mem_cons_self hp] at hz
      cases hz
    have hrest : b'.status = b₁.status := by
      refine ih h.2 hb₁ hb' hid₁.symm (fun hun p hp hpc => ?_)
      rw [hcar] at hpc
      exact hno (hfirst ▸ hun) p (List.mem_cons_of_mem _ hp) hpc
    rw [hrest, hfirst]

/-- **When payments follow the machine.** A run is lawful exactly when
every callback that writes to a bill finds it paid already, or unpaid and
carries the result code 0. -/
theorem payments_lawful_iff (db : Db) (rs : List Request) :
    PaymentsLawful db rs ↔ Along step CallbackSound db rs := by
  constructor
  · exact fun h => (Along.congr statusLawful_iff).mp h.changes
  · intro h
    have hlaw : Along step StatusLawful db rs := (Along.congr statusLawful_iff).mpr h
    have hpart : ∀ pre mid post, rs = pre ++ mid ++ post →
        Along step StatusLawful (runFrom db pre) mid ∧
        runFrom db (pre ++ mid) = runFrom (runFrom db pre) mid := by
      rintro pre mid post rfl
      have hpm := (Along.along_append.mp hlaw).1
      exact ⟨(Along.along_append.mp hpm).2, List.foldl_append⟩
    refine ⟨hlaw, fun pre mid post heq b hb b' hb' hid hcash => ?_,
      fun pre mid post heq b hb b' hb' hid hpaid hdec => ?_⟩
    · obtain ⟨hmid, hrun⟩ := hpart pre mid post heq
      rw [hrun] at hb'
      rw [status_stays hmid hb hb' hid (fun hun => by rw [hcash] at hun; cases hun), hcash]
    · obtain ⟨hmid, hrun⟩ := hpart pre mid post heq
      rw [hrun] at hb'
      rw [status_stays hmid hb hb' hid (fun _ => hdec)]
      exact hpaid

end Runs

/-- A customer with one leash in the cart. -/
def momoCustomer : Db where
  users := Table.empty.insertAll [{ email := "ann@pet.vn" }]
  products := Table.empty.insertAll
    [{ name := some "Leash", price := some 120, quantity := some 3 }]
  carts := Table.empty.insertAll [{ userId := 1, productId := 1 }]

/-- The customer checks out; the gateway accepts the order and later
reports that the payment was declined. -/
def declinedPayment : List Request :=
  [.user (some 1) (.carts (.checkoutMomo
      { params := ⟨none, none, none, none⟩, randomToken := "7f", itemId := fun _ => "i1",
        gateway := fun _ => .object (.int 0) (some "pay") })),
    .open (.callback { orderId := .text "MM2023_1_7f", resultCode := .int 1006 })]

theorem declinedPayment_settles :
    ¬ @PaymentsLawful .caseInsensitive momoCustomer declinedPayment ∧
    ((@runFrom .caseInsensitive momoCustomer (declinedPayment.take 1)).bills.rows.map Bill.status
      = [.unpaid]) ∧
    ((@runFrom .caseInsensitive momoCustomer declinedPayment).bills.rows.map Bill.status
      = [.paid]) := by
  refine ⟨fun h => ?_, by decide, by decide⟩
  obtain ⟨-, -, p, hp, -, hz⟩ := (@PaymentsLawful.changes .caseInsensitive _ _ h).2.1
    { orderId := some "MM2023_1_7f", amount := 120, status := .unpaid,
      orderInfo := some "ann@pet.vn", userId := 1, firstName := none, lastName := none,
      address := none, phoneNumber := none, id := 1 } (by decide)
    { orderId := some "MM2023_1_7f", amount := 120, status := .paid, orderInfo := none,
      resultCode := some "1006", userId := 1, firstName := none, lastName := none,
      address := none, phoneNumber := none, id := 1 } (by decide) rfl (by decide)
  cases hp
  cases hz

end PetParadise
