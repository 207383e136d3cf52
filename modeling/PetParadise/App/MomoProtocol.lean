/-
PetParadise.App.MomoProtocol — shop, customer and payment gateway together.

A MoMo payment takes three parties. The shop posts a payment request and
stores an unpaid bill; the customer pays at the gateway; the gateway calls
back, once, several times, late or never. `Exchange` is the state of all
three, `Exchange.step` one thing that happens to it: a request to the shop,
a payment, or a callback.

The shop checks next to nothing of a callback, so what it can be relied on
for rests on three things it is not in charge of, said by
`Exchange.allows`: nobody else sends a callback, random tokens do not
repeat (nor do the order ids made of them, as the database compares texts),
and the gateway calls back only for payments that were completed. Given
these, a bill is paid exactly if the gateway has called back for it with
values that fit their columns, and then the customer has paid the bill's
amount (`paid_iff_notified`). A callback that does not fit is refused by
the database and leaves the bill as it was.

  §1 The parties  — `Exchange`, `Exchange.allows`.
  §2 The posts    — only `checkout_momo` asks the gateway.
  §3 The bills    — what a request does to the payment of bills.
  §4 The protocol — `Exchange.Sound`, kept by every event.
-/
import PetParadise.App.ShopRefinement

namespace PetParadise

open Store PetParadise.Action

section Deployment

variable [Env]

/-! ## §1 The parties -/

/-- What the request asks of the gateway. -/
def Request.posts (db : Db) (r : Request) : List MomoRequest :=
  (r.action.log exec db).filterMap Stmt.posted

/-- The database can store what the callback says. -/
def CallbackParams.storable (p : CallbackParams) : Bool :=
  inRange fitsBigint p.data.responseTime && p.data.fits

/-- The shop's database, the payment requests that were posted and that
were paid, and the callbacks of the gateway. -/
structure Exchange where
  db : Db
  posted : List MomoRequest := []
  completed : List MomoRequest := []
  notified : List (MomoRequest × CallbackParams) := []

namespace Exchange

inductive Event where
  | request (r : Request)
  | pay (m : MomoRequest)
  | notify (m : MomoRequest) (p : CallbackParams)

def step (e : Exchange) : Event → Exchange
  | .request r => { e with db := PetParadise.step e.db r, posted := e.posted ++ r.posts e.db }
  | .pay m => { e with completed := e.completed ++ [m] }
  | .notify m p => { e with
      db := PetParadise.step e.db (.open (.callback p)), notified := e.notified ++ [(m, p)] }

/-- The order id is that of a bill or of a payment request, as far as the
database can tell. -/
def Knows (e : Exchange) (x : String) : Prop :=
  (∃ b ∈ e.db.bills.rows, ∃ y ∈ b.orderId, sqlEq y x = true) ∨
    ∃ m ∈ e.posted, sqlEq m.orderId x = true

end Exchange

/-- The order id a checkout makes up. -/
def Request.newOrderId (db : Db) : Request → Option String
  | .user _ (.carts (.cash token)) => some ("Cash_" ++ token)
  | .user session (.carts (.checkoutMomo c)) =>
      (session.bind db.users.find?).map fun u =>
        Momo.GetPaymentUrlService.orderId u c.randomToken
  | _ => none

def Request.isCallback : Request → Bool
  | .open (.callback _) => true
  | _ => false

/-- What is asked of the surroundings: only the gateway calls back, new
order ids are new, only posted requests are paid, and the gateway calls
back for completed payments only, with their order id. -/
def Exchange.allows (e : Exchange) : Exchange.Event → Prop
  | .request r => r.isCallback = false ∧ ∀ x ∈ r.newOrderId e.db, ¬ e.Knows x
  | .pay m => m ∈ e.posted
  | .notify m p => m ∈ e.completed ∧ p.orderId.toColumn = some m.orderId

/-! ## §2 The posts -/

/-- Not a request to the gateway. -/
def Stmt.Silent (w : Stmt) : Prop := w.posted = none

omit [Env] in
theorem Route.posts_of_issues {u : User} {r : Route} {body : MomoRequest}
    (h : r.Issues u (.post body)) : ∃ c, r = .carts (.checkoutMomo c) := by
  cases r with
  | carts r =>
    obtain ⟨c, rfl⟩ := h
    exact ⟨c, rfl⟩
  | bookings r => cases r <;> cases h
  | _ => cases h

/-- Nothing but `checkout_momo` talks to the gateway. -/
theorem Route.silent (u : User) {r : Route} (hr : ∀ c, r ≠ .carts (.checkoutMomo c)) :
    (r.action u).Only Stmt.Silent := by
  refine (r.action_only u).mono fun w hw => ?_
  cases w with
  | post body =>
    obtain ⟨c, hc⟩ := Route.posts_of_issues hw
    exact absurd hc (hr c)
  | _ => rfl

theorem OpenRoute.silent (r : OpenRoute) : r.action.Only Stmt.Silent := by
  refine r.action_only.mono fun w hw => ?_
  cases w with
  | post body => cases r <;> cases hw
  | _ => rfl

/-- The log of a request of a signed-in user. -/
theorem log_authenticateUser_bind {α : Type} (db : Db) {session : Option Id} {u : User}
    (h : session.bind db.users.find? = some u) (f : User → Action α) :
    (authenticateUser session >>= f).log exec db = .select .currentUser :: (f u).log exec db := by
  rw [authenticateUser, bind_assoc, log_select_bind, h]
  rfl

theorem log_unauthenticated_bind {α : Type} (db : Db) {session : Option Id}
    (h : session.bind db.users.find? = none) (f : User → Action α) :
    (authenticateUser session >>= f).log exec db = [.select .currentUser] := by
  rw [authenticateUser, bind_assoc, log_select_bind, h]
  rfl

theorem filterMap_posted_eq_nil {α : Type} {p : Action α} (h : p.Only Stmt.Silent) (db : Db) :
    (p.log exec db).filterMap Stmt.posted = [] := by
  rw [List.filterMap_eq_nil_iff]
  intro w hw
  exact Prog.mem_log_of_only h hw

/-- Without a price for every row the checkout does not get to the
gateway. -/
theorem checkoutMomo_log_unpriced {db : Db} {u : User} (h : ¬ db.CartPriced u.id)
    (c : MomoCheckout) :
    (CartsController.checkoutMomo u c).log exec db = [.select .cartTotal] := by
  unfold CartsController.checkoutMomo CartsController.total
  rw [bind_assoc, log_select_bind]
  cases ht : db.addPrices 0 (db.activeCarts u.id) with
  | ok n => exact absurd (total_eq_ok.mp ht).1 h
  | error e => rfl

/-- What is posted is the payment request of a checkout, for the cart as it
is. -/
theorem Request.mem_posts {db : Db} {r : Request} {m : MomoRequest} (h : m ∈ r.posts db) :
    ∃ session u c, r = .user session (.carts (.checkoutMomo c)) ∧
      session.bind db.users.find? = some u ∧ m = db.momoBody u c := by
  have hsilent : ¬ r.action.Only Stmt.Silent := by
    intro honly
    rw [Request.posts, filterMap_posted_eq_nil honly] at h
    cases h
  cases r with
  | «open» route => exact absurd route.silent hsilent
  | user session route =>
    by_cases hmomo : ∃ c, route = .carts (.checkoutMomo c)
    · obtain ⟨c, rfl⟩ := hmomo
      cases hs : session.bind db.users.find? with
      | none =>
        rw [Request.posts, Request.action, log_unauthenticated_bind db hs] at h
        cases h
      | some u =>
        refine ⟨session, u, c, rfl, hs, ?_⟩
        rw [Request.posts, Request.action, log_authenticateUser_bind db hs] at h
        by_cases hpriced : db.CartPriced u.id
        · have hposted := checkoutMomo_posted hpriced c
          rw [List.filterMap_cons_none (by rfl), Route.action, CartsRoute.action, hposted] at h
          exact List.mem_singleton.mp h
        · rw [List.filterMap_cons_none (by rfl), Route.action, CartsRoute.action,
            checkoutMomo_log_unpriced hpriced] at h
          cases h
    · refine absurd (Prog.only_bind ?_ fun u => ?_) hsilent
      · simp [authenticateUser, Stmt.Silent, Stmt.posted]
      · exact Route.silent u fun c hc => hmomo ⟨c, hc⟩

/-! ## §3 The bills -/

/-- What the payment of a bill depends on stays as it is, callbacks
apart. -/
theorem exec_terms {w : Stmt} {db db' : Db} (h : exec w db = .ok db')
    (hw : ∀ i data, w ≠ .settleBill i data) :
    Table.Kept (fun b : Bill => (b.orderId, b.amount, b.status)) db.bills db'.bills := by
  rcases exec_bills h with hb | ⟨b, -, hb⟩ | ⟨i, data, rfl, -⟩ | ⟨i, -, hb⟩ | ⟨i, -, hb⟩
  · rw [hb]; exact .refl _ _
  · rw [hb]; exact .insert _ _ _
  · exact absurd rfl (hw i data)
  · rw [hb]; exact .modify _ _ _ (fun _ => rfl)
  · rw [hb]; exact .delete _ _ _

theorem step_terms {db : Db} {r : Request} (hr : r.isCallback = false) :
    Table.Kept (fun b : Bill => (b.orderId, b.amount, b.status)) db.bills (step db r).bills := by
  refine step_inv (fun x => Table.Kept _ db.bills x.bills)
    (fun w x x' hw hx h => h.trans (exec_terms hx ?_)) (.refl _ _)
  rintro i data rfl
  obtain ⟨p, rfl⟩ := Request.callback_of_settles hw
  cases hr

/-- A new bill is that of a checkout with a new order id; it is not paid,
and what was posted along with it is over its amount. -/
theorem step_newBill {db : Db} {r : Request} {b' : Bill} (hb' : b' ∈ (step db r).bills.rows)
    (hnew : db.bills.next ≤ b'.id) :
    b'.id = db.bills.next ∧ b'.status ≠ .paid ∧
    ∃ x, r.newOrderId db = some x ∧ b'.orderId = some x ∧
      ∀ m ∈ r.posts db, m.orderId = x ∧ m.amount = b'.amount := by
  rcases step_bills db r with ⟨-, hnext, -⟩ | ⟨u, b, hcheckout, -, hstored⟩
  · have hlt := (step db r).bills.fresh b' hb'
    rw [hnext] at hlt
    exact absurd hnew (Nat.not_le_of_lt hlt)
  · have hrow : b' = Row.withId db.bills.next b := by
      rw [hstored.1, Table.rows_insert, List.mem_append, List.mem_singleton] at hb'
      rcases hb' with hold | hrow
      · exact absurd hnew (Nat.not_le_of_lt (db.bills.fresh b' hold))
      · exact hrow
    cases r with
    | «open» route => cases hcheckout
    | user session route =>
      cases route with
      | carts c =>
        obtain ⟨u', hs, hmap⟩ := Option.bind_eq_some_iff.mp hcheckout
        obtain ⟨b₁, hstoredBill, hpair⟩ := Option.map_eq_some_iff.mp hmap
        cases hpair
        have hnewBill := (CartsRoute.of_storedBill hstoredBill).2
        obtain ⟨-, hstatus, -⟩ := CartsRoute.newBill_spec hnewBill
        refine ⟨by rw [hrow]; rfl, by rw [hrow]; exact hstatus, ?_⟩
        cases c with
        | cash token =>
          cases hnewBill
          refine ⟨"Cash_" ++ token, rfl, by rw [hrow]; rfl, fun m hm => ?_⟩
          obtain ⟨_, _, _, hr, -, -⟩ := Request.mem_posts hm
          cases hr
        | checkoutMomo c =>
          have hb : b = Momo.GetPaymentUrlService.momoBill u (db.cartValue u.id) c := by
            simp only [CartsRoute.newBill] at hnewBill
            split at hnewBill
            · cases hnewBill
            · split at hnewBill
              · exact (Option.some.inj hnewBill).symm
              · cases hnewBill
          refine ⟨Momo.GetPaymentUrlService.orderId u c.randomToken, ?_, ?_, fun m hm => ?_⟩
          · simp [Request.newOrderId, hs]
          · rw [hrow, hb]; rfl
          · obtain ⟨_, u', c', hr, hs', rfl⟩ := Request.mem_posts hm
            cases hr
            rw [hs] at hs'
            cases hs'
            rw [hrow, hb]
            exact ⟨rfl, rfl⟩
        | _ => cases hnewBill
      | _ => cases hcheckout

/-- A bill after a request is an old one with the same terms, or a new
one. -/
theorem step_bill_cases {db : Db} {r : Request} (hr : r.isCallback = false) {b : Bill}
    (hb : b ∈ (step db r).bills.rows) :
    (∃ b₀ ∈ db.bills.rows, b₀.id = b.id ∧ b₀.orderId = b.orderId ∧ b₀.amount = b.amount ∧
      b₀.status = b.status) ∨
    (b.id = db.bills.next ∧ b.status ≠ .paid ∧
      ∃ x, r.newOrderId db = some x ∧ b.orderId = some x ∧
        ∀ m ∈ r.posts db, m.orderId = x ∧ m.amount = b.amount) := by
  by_cases hlt : b.id < db.bills.next
  · obtain ⟨b₀, hb₀, hid, hterms⟩ := (step_terms hr).kept b hb hlt
    simp only [Prod.mk.injEq] at hterms
    exact .inl ⟨b₀, hb₀, hid, hterms⟩
  · exact .inr (step_newBill hb (Nat.le_of_not_lt hlt))

/-! ## §4 The protocol -/

/-- What holds at every moment of the exchange. -/
structure Exchange.Sound (e : Exchange) : Prop where
  refs : e.db.RefsIntact
  unique : ∀ b ∈ e.db.bills.rows, ∀ b' ∈ e.db.bills.rows, ∀ x ∈ b.orderId, ∀ y ∈ b'.orderId,
    sqlEq x y = true → b = b'
  billed : ∀ b ∈ e.db.bills.rows, ∀ x ∈ b.orderId, ∀ m ∈ e.posted, sqlEq x m.orderId = true →
    x = m.orderId ∧ b.amount = m.amount
  completed_posted : e.completed ⊆ e.posted
  notified_completed : ∀ n ∈ e.notified, n.1 ∈ e.completed
  paid_iff : ∀ b ∈ e.db.bills.rows,
    b.status = .paid ↔
      ∃ n ∈ e.notified, b.orderId = some n.1.orderId ∧ n.2.storable = true

namespace Exchange.Sound

variable {e : Exchange}

/-- A request to the shop: bills that were there keep order id, amount and
status, and a new one has an id nobody knows yet. -/
theorem request (h : e.Sound) {r : Request} (hr : r.isCallback = false)
    (hfresh : ∀ x ∈ r.newOrderId e.db, ¬ e.Knows x) : (e.step (.request r)).Sound := by
  have hnewPost : ∀ m ∈ r.posts e.db, ¬ e.Knows m.orderId := by
    intro m hm
    obtain ⟨session, u, c, rfl, hs, rfl⟩ := Request.mem_posts hm
    exact hfresh _ (by simp [Request.newOrderId, hs]; rfl)
  refine ⟨step_refsIntact h.refs r, ?_, ?_, ?_, h.notified_completed, ?_⟩
  · intro b hb b' hb' x hx y hy hxy
    rcases step_bill_cases hr hb with ⟨b₀, hb₀, hid, horder, -⟩ | ⟨hid, -, z, hnew, hz, -⟩
    · rcases step_bill_cases hr hb' with ⟨b₁, hb₁, hid', horder', -⟩ | ⟨-, -, z, hnew, hz, -⟩
      · have hsame := h.unique b₀ hb₀ b₁ hb₁ x (horder ▸ hx) y (horder' ▸ hy) hxy
        subst hsame
        exact (PetParadise.step e.db r).bills.eq_of_id_eq hb hb' (hid.symm.trans hid')
      · rw [hz] at hy
        cases hy
        exact absurd (.inl ⟨b₀, hb₀, x, horder ▸ hx, hxy⟩) (hfresh _ hnew)
    · rcases step_bill_cases hr hb' with ⟨b₁, hb₁, -, horder', -⟩ | ⟨hid', -⟩
      · rw [hz] at hx
        cases hx
        exact absurd (.inl ⟨b₁, hb₁, y, horder' ▸ hy, sqlEq_comm _ _ ▸ hxy⟩) (hfresh _ hnew)
      · exact (PetParadise.step e.db r).bills.eq_of_id_eq hb hb' (hid.trans hid'.symm)
  · intro b hb x hx m hm hxm
    rcases step_bill_cases hr hb with
      ⟨b₀, hb₀, -, horder, hamount, -⟩ | ⟨-, -, z, hnew, hz, hposts⟩
    · rcases List.mem_append.mp hm with hm | hm
      · rw [← hamount]
        exact h.billed b₀ hb₀ x (horder ▸ hx) m hm hxm
      · exact absurd (.inl ⟨b₀, hb₀, x, horder ▸ hx, hxm⟩) (hnewPost m hm)
    · rw [hz] at hx
      cases hx
      rcases List.mem_append.mp hm with hm | hm
      · exact absurd (.inr ⟨m, hm, sqlEq_comm _ _ ▸ hxm⟩) (hfresh _ hnew)
      · exact ⟨(hposts m hm).1.symm, (hposts m hm).2.symm⟩
  · exact fun m hm => List.mem_append_left _ (h.completed_posted hm)
  · intro b hb
    rcases step_bill_cases hr hb with
      ⟨b₀, hb₀, -, horder, -, hstatus⟩ | ⟨-, hstatus, z, hnew, hz, -⟩
    · rw [← hstatus, ← horder]
      exact h.paid_iff b₀ hb₀
    · refine iff_of_false hstatus ?_
      rintro ⟨n, hn, hbn, -⟩
      rw [hz] at hbn
      cases hbn
      have hposted : n.1 ∈ e.posted := h.completed_posted (h.notified_completed n hn)
      exact hfresh _ hnew (.inr ⟨n.1, hposted, by simp [sqlEq]⟩)

/-- A payment changes nothing in the shop. -/
theorem pay (h : e.Sound) {m : MomoRequest} (hm : m ∈ e.posted) : (e.step (.pay m)).Sound where
  refs := h.refs
  unique := h.unique
  billed := h.billed
  completed_posted := by
    intro m' hm'
    rcases List.mem_append.mp hm' with hm' | hm'
    · exact h.completed_posted hm'
    · rw [List.mem_singleton.mp hm']
      exact hm
  notified_completed := fun n hn => List.mem_append_left _ (h.notified_completed n hn)
  paid_iff := h.paid_iff

/-- The bill a callback settles, if there is one with its order id. -/
theorem settledBill_eq (h : e.Sound) {m : MomoRequest} {p : CallbackParams}
    (horder : p.orderId.toColumn = some m.orderId) (hstorable : p.storable = true) {b : Bill}
    (hb : b ∈ e.db.bills.rows) (hbm : b.orderId = some m.orderId) :
    e.db.settledBill p = some b := by
  have hcarries : p.carries b = true := by
    rw [CallbackParams.carries, horder, hbm]
    simp [sqlEq]
  obtain ⟨b', hfound⟩ := Option.isSome_iff_exists.mp
    (List.find?_isSome.mpr ⟨b, hb, hcarries⟩)
  have hb' : b' ∈ e.db.bills.rows := List.mem_of_find?_eq_some hfound
  have hcarries' : p.carries b' = true := List.find?_some hfound
  have hsame : b = b' := by
    rw [CallbackParams.carries, horder] at hcarries'
    cases hy : b'.orderId with
    | none => rw [hy] at hcarries'; cases hcarries'
    | some y =>
      rw [hy] at hcarries'
      exact h.unique b hb b' hb' m.orderId hbm y hy (sqlEq_comm _ _ ▸ hcarries')
  subst hsame
  have huser : (e.db.users.find? b.userId).isSome = true := by
    obtain ⟨u, hu, hid⟩ := h.refs.bill_user b hb
    rw [← hid]
    exact Option.isSome_of_eq_some (e.db.users.find?_of_mem hu)
  rw [Db.settledBill, Db.billOf, hfound, Option.filter_some, huser]
  exact if_pos hstorable

/-- A callback that can be stored settles the bill with its order id and no
other. -/
theorem mem_callback (h : e.Sound) {m : MomoRequest} {p : CallbackParams} (hm : m ∈ e.posted)
    (horder : p.orderId.toColumn = some m.orderId) {b' : Bill}
    (hb' : b' ∈ (PetParadise.step e.db (.open (.callback p))).bills.rows) :
    ∃ b ∈ e.db.bills.rows, b.id = b'.id ∧ b.orderId = b'.orderId ∧ b.amount = b'.amount ∧
      b'.status =
        if b.orderId = some m.orderId ∧ p.storable = true then .paid else b.status := by
  cases hset : e.db.settledBill p with
  | none =>
    rw [step_callback_none hset] at hb'
    refine ⟨b', hb', rfl, rfl, rfl, (if_neg fun hbm => ?_).symm⟩
    rw [h.settledBill_eq horder hbm.2 hb' hbm.1] at hset
    cases hset
  | some b =>
    obtain ⟨hmem, hcarries⟩ := Db.settledBill_spec hset
    have hstorable : p.storable = true :=
      (Bool.and_eq_true_iff.mp (Option.filter_eq_some_iff.mp hset).2).2
    rw [step_callback_some hset, Table.rows_modify] at hb'
    obtain ⟨b₀, hb₀, rfl⟩ := List.mem_map.mp hb'
    by_cases hid : b₀.id = b.id
    · have hsame : b₀ = b := e.db.bills.eq_of_id_eq hb₀ hmem hid
      subst hsame
      have hbm : b₀.orderId = some m.orderId := by
        rw [CallbackParams.carries, horder] at hcarries
        cases hy : b₀.orderId with
        | none => rw [hy] at hcarries; cases hcarries
        | some y =>
          rw [hy] at hcarries
          rw [(h.billed b₀ hb₀ y hy m hm hcarries).1]
      rw [if_pos (beq_self_eq_true _)]
      exact ⟨b₀, hb₀, rfl, rfl, rfl, (if_pos ⟨hbm, hstorable⟩).symm⟩
    · rw [if_neg (by simpa using hid)]
      refine ⟨b₀, hb₀, rfl, rfl, rfl, (if_neg fun hbm => ?_).symm⟩
      rw [h.settledBill_eq horder hstorable hb₀ hbm.1] at hset
      cases hset
      exact hid rfl

theorem notify (h : e.Sound) {m : MomoRequest} {p : CallbackParams} (hm : m ∈ e.completed)
    (horder : p.orderId.toColumn = some m.orderId) : (e.step (.notify m p)).Sound := by
  have hrow : ∀ b' ∈ (e.step (.notify m p)).db.bills.rows, _ :=
    fun b' hb' => h.mem_callback (h.completed_posted hm) horder hb'
  refine ⟨step_refsIntact h.refs _, ?_, ?_, h.completed_posted, ?_, ?_⟩
  · intro b hb b' hb' x hx y hy hxy
    obtain ⟨b₀, hb₀, hid, horder₀, -⟩ := hrow b hb
    obtain ⟨b₁, hb₁, hid', horder₁, -⟩ := hrow b' hb'
    have hsame := h.unique b₀ hb₀ b₁ hb₁ x (horder₀ ▸ hx) y (horder₁ ▸ hy) hxy
    subst hsame
    exact (e.step (.notify m p)).db.bills.eq_of_id_eq hb hb' (hid.symm.trans hid')
  · intro b hb x hx m' hm' hxm
    obtain ⟨b₀, hb₀, -, horder₀, hamount, -⟩ := hrow b hb
    rw [← hamount]
    exact h.billed b₀ hb₀ x (horder₀ ▸ hx) m' hm' hxm
  · intro n hn
    rcases List.mem_append.mp hn with hn | hn
    · exact h.notified_completed n hn
    · rw [List.mem_singleton.mp hn]
      exact hm
  · intro b hb
    obtain ⟨b₀, hb₀, -, horder₀, -, hstatus⟩ := hrow b hb
    have hold := h.paid_iff b₀ hb₀
    rw [hstatus, ← horder₀]
    constructor
    · intro hpaid
      by_cases hbm : b₀.orderId = some m.orderId ∧ p.storable = true
      · exact ⟨(m, p), List.mem_append_right _ List.mem_cons_self, hbm⟩
      · rw [if_neg hbm] at hpaid
        obtain ⟨n, hn, hbn⟩ := hold.mp hpaid
        exact ⟨n, List.mem_append_left _ hn, hbn⟩
    · rintro ⟨n, hn, hbn⟩
      rcases List.mem_append.mp hn with hn | hn
      · rw [hold.mpr ⟨n, hn, hbn⟩, ite_self]
      · rw [List.mem_singleton.mp hn] at hbn
        rw [if_pos hbn]

theorem step (h : e.Sound) {event : Exchange.Event} (hallows : e.allows event) :
    (e.step event).Sound := by
  cases event with
  | request r => exact h.request hallows.1 hallows.2
  | pay m => exact h.pay hallows
  | notify m p => exact h.notify hallows.1 hallows.2

end Exchange.Sound

/-- **Paid means paid.** Start with a shop without bills, and let nobody
but the gateway call back. Whatever other requests come to the shop,
whoever pays at the gateway and however often and late the gateway calls
back: a bill is marked as paid exactly if the gateway has called back for
its order id with values that can be stored, and then the customer has
completed a payment the shop asked for, over the amount of the bill. -/
theorem paid_iff_notified (db : Db) (hrefs : db.RefsIntact) (hbills : db.bills.rows = [])
    (events : List Exchange.Event)
    (hallows : Along Exchange.step Exchange.allows { db := db } events) :
    let e := events.foldl Exchange.step { db := db }
    ∀ b ∈ e.db.bills.rows,
      (b.status = .paid ↔
        ∃ n ∈ e.notified, b.orderId = some n.1.orderId ∧ n.2.storable = true) ∧
      (b.status = .paid → ∃ m ∈ e.completed, m ∈ e.posted ∧ b.orderId = some m.orderId ∧
        m.amount = b.amount) := by
  intro e b hb
  have hstart : Exchange.Sound { db := db } := by
    refine ⟨hrefs, ?_, ?_, List.Subset.refl _, fun _ hn => absurd hn List.not_mem_nil, ?_⟩
    all_goals
      intro b hb
      rw [hbills] at hb
      cases hb
  have hsound : e.Sound := hallows.foldl_inv Exchange.Sound (fun _ _ h => h.step) hstart
  refine ⟨hsound.paid_iff b hb, fun hpaid => ?_⟩
  obtain ⟨n, hn, hbn, -⟩ := (hsound.paid_iff b hb).mp hpaid
  have hcompleted := hsound.notified_completed n hn
  have hposted := hsound.completed_posted hcompleted
  have hamount := (hsound.billed b hb n.1.orderId hbn n.1 hposted (by simp [sqlEq])).2
  exact ⟨n.1, hcompleted, hposted, hbn, hamount.symm⟩

end Deployment

/-- A customer with a leash in the cart. -/
def momoShop : Db where
  users := Table.empty.insertAll [{ email := "ann@pet.vn" }]
  products := Table.empty.insertAll
    [{ name := some "Leash", price := some 120, quantity := some 3 }]
  carts := Table.empty.insertAll [{ userId := 1, productId := 1 }]

/-- A checkout that the gateway accepts. -/
def momoForm : MomoCheckout where
  params := ⟨none, none, none, none⟩
  randomToken := "7f"
  itemId _ := "5e"
  gateway _ := .object (.int 0) (some "/pay")

section Example

attribute [local instance] Env.caseInsensitive

/-- What the shop posts for it. -/
def momoPayment : MomoRequest := momoShop.momoBody { id := 1, email := "ann@pet.vn" } momoForm

/-- A callback whose response time does not fit its column. -/
def lateCallback : CallbackParams where
  orderId := .text "MM2023_1_7f"
  responseTime := .int (10 ^ 20)

/-- Checkout, payment, a callback that cannot be stored and two that can. -/
def momoEvents : List Exchange.Event :=
  [.request (.user (some 1) (.carts (.checkoutMomo momoForm))), .pay momoPayment,
    .notify momoPayment lateCallback,
    .notify momoPayment { orderId := .text "MM2023_1_7f" },
    .notify momoPayment { orderId := .text "MM2023_1_7f" }]

theorem paid_iff_notified_momoShop :
    momoShop.RefsIntact ∧
    Along Exchange.step Exchange.allows { db := momoShop } momoEvents ∧
    ((momoEvents.take 3).foldl Exchange.step { db := momoShop }).db.bills.rows.map Bill.status =
      [.unpaid] ∧
    let e := momoEvents.foldl Exchange.step { db := momoShop }
    e.db.bills.rows.map (fun b => (b.amount, b.status)) = [(120, .paid)] ∧
    ∀ b ∈ e.db.bills.rows, b.status = .paid → ∃ m ∈ e.completed, m ∈ e.posted ∧
      b.orderId = some m.orderId ∧ m.amount = b.amount := by
  have hrefs : momoShop.RefsIntact := by constructor <;> decide
  have hallows : Along Exchange.step Exchange.allows { db := momoShop } momoEvents := by
    refine ⟨⟨rfl, ?_⟩, List.mem_singleton.mpr rfl, ⟨List.mem_singleton.mpr rfl, rfl⟩,
      ⟨List.mem_singleton.mpr rfl, rfl⟩, ⟨List.mem_singleton.mpr rfl, rfl⟩, trivial⟩
    rintro x - (⟨b, hb, -⟩ | ⟨m, hm, -⟩)
    · cases hb
    · cases hm
  have hpaid := paid_iff_notified momoShop hrefs rfl momoEvents hallows
  exact ⟨hrefs, hallows, by decide, by decide, fun b hb => (hpaid b hb).2⟩

end Example

end PetParadise
