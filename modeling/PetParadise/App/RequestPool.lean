/-
PetParadise.App.RequestPool — requests at work at the same time.

`requestPool db rs` runs the requests `rs` on one database, interleaved
statement by statement. `maySend` is the access policy of the application,
written down without its routes: who may send which write. The source has
no such table; each controller asks for itself, once, before it begins.

`writes_mediated` says that the controllers together enforce the policy
under every schedule: whatever is written, the request behind it had
looked its user up before, and that user may send it. What decides is the
user as found THEN: a role given or taken in between, or the account
itself removed, changes nothing for a request that has begun. Whose row a
statement is about is asked of the database it meets: a cart row may have
been read long before it is deleted, but it is still a row of that user.

  §1 The policy       — `maySend`.
  §2 Rows of a user   — what the cart pages guarantee (`Route.guarantees`).
  §3 Every schedule   — `writes_mediated`.
-/
import PetParadise.App.PrivilegeTheorems
import PetParadise.Shop.CheckoutFaults
import PetParadise.Store.Archive
import PetParadise.Store.Audit
import PetParadise.Store.Rely

namespace PetParadise

open Store PetParadise.Action

/-- The requests at work on one database. -/
def requestPool [Env] (db : Db) (rs : List Request) : Pool Db Stmt Failure Response :=
  .start db (rs.map Request.action)

theorem requestPool_thread [Env] {db : Db} {rs : List Request} {i : Nat} {p : Action Response}
    (h : (requestPool db rs).threads[i]? = some p) : ∃ r, rs[i]? = some r ∧ r.action = p := by
  have h' : (rs.map Request.action)[i]? = some p := h
  rw [List.getElem?_map] at h'
  exact Option.map_eq_some_iff.mp h'

/-! ## §1 The policy -/

/-- The writes a visitor may send (`none`), and those of a user, to a
database as it stands. -/
def maySend (db : Db) : Option User → Stmt → Prop
  | none, .settleBill .. => True
  | none, .insertUser .. => True
  | none, .updatePassword .. => True
  | none, .updateEmail .. => True
  | some u, .insertCart i _ => i = u.id
  | some u, .deleteCart i => ∀ c, db.carts.find? i = some c → c.userId = u.id
  | some u, .deactivateCarts i _ => i = u.id
  | some u, .insertBill b => b.userId = u.id
  | some u, .insertBillProduct l => ∀ b, db.bills.find? l.billId = some b → b.userId = u.id
  | some u, .insertBooking b => b.userId = u.id
  | some u, .insertChatMessage m => m.userId = u.id
  | some u, .updatePassword i _ => i = u.id
  | some u, .destroyUser i => i = u.id ∨ Ability.can u .user = true
  | some u, .insertUser .. => Ability.can u .user = true
  | some u, .addRole .. => Ability.can u .user = true
  | some u, .insertProduct _ => Ability.can u .product = true
  | some u, .updateProduct _ => Ability.can u .product = true
  | some u, .destroyProduct _ => Ability.can u .product = true
  | some u, .insertRoom _ => Ability.can u .room = true
  | some u, .updateRoom _ => Ability.can u .room = true
  | some u, .destroyRoom _ => Ability.can u .room = true
  | some u, .shipBill _ => Ability.can u .bill = true
  -- the row is named by the request's parameters, and nobody is asked
  | some _, .destroyBooking _ => True
  | some _, .updateProfile .. => True
  | some _, .insertChat _ => True
  | some _, .updateChat .. => True
  | some _, .destroyChat _ => True
  | _, w => w.Reads

/-- The part of the policy that depends on the database: the row the
statement names is the user's. -/
def Stmt.NamesOwnRow (u : User) (db : Db) : Stmt → Prop
  | .deleteCart i => ∀ c, db.carts.find? i = some c → c.userId = u.id
  | .insertBillProduct l => ∀ b, db.bills.find? l.billId = some b → b.userId = u.id
  | _ => True

theorem BookingsRoute.owner_of_issues {u : User} {r : BookingsRoute} {b : Booking}
    (h : r.Issues u (.insertBooking b)) : b.userId = u.id := by
  cases r with
  | create p =>
    obtain ⟨_, _, rfl⟩ := h
    rfl
  | _ => cases h

theorem Route.maySend_of_issues {u : User} {r : Route} {w : Stmt} {db : Db}
    (h : r.Issues u w) (hrow : w.NamesOwnRow u db) : maySend db (some u) w := by
  cases w <;> cases r <;>
    first
    | trivial
    | exact hrow
    | exact h.1
    | exact h.2
    | exact .inl h
    | exact .inr h
    | exact BookingsRoute.owner_of_issues h

theorem OpenRoute.maySend_of_issues {r : OpenRoute} {w : Stmt} (db : Db) (h : r.Issues w) :
    maySend db none w := by
  cases w <;> cases r <;> trivial

/-! ## §2 Rows of a user -/

/-- No cart row and no bill changes hands. -/
structure Db.OwnersKept (db db' : Db) : Prop where
  carts : Table.Kept (·.userId) db.carts db'.carts
  bills : Table.Kept (·.userId) db.bills db'.bills

section Owners

variable [Env]

theorem exec_carts_owners {w : Stmt} {db db' : Db} (h : exec w db = .ok db') :
    Table.Kept (·.userId) db.carts db'.carts := by
  cases hw : w.writes .carts with
  | false =>
    have hsame : db'.carts = db.carts := exec_frame h hw
    rw [hsame]
    exact .refl _ _
  | true =>
    cases w with
    | insertCart u p =>
      obtain ⟨-, -, rfl⟩ := exec_insertCart_ok h
      exact .insert _ _ _
    | deleteCart i => cases h; exact .delete _ _ _
    | deactivateCarts u p => cases h; exact .modify _ _ Cart.deactivate_id (fun _ => rfl)
    | destroyProduct i => cases h; exact .delete _ _ _
    | destroyUser i =>
      obtain ⟨chat, -, rfl⟩ := Db.destroyUser_ok h
      exact .delete _ _ _
    | _ => simp [Stmt.writes, Stmt.tables] at hw

theorem exec_bills_owners {w : Stmt} {db db' : Db} (h : exec w db = .ok db') :
    Table.Kept (·.userId) db.bills db'.bills := by
  rcases exec_bills h with hb | ⟨b, -, hb⟩ | ⟨i, data, -, hb⟩ | ⟨i, -, hb⟩ | ⟨i, -, hb⟩
  · rw [hb]; exact .refl _ _
  · rw [hb]; exact .insert _ _ _
  · rw [hb]; exact .modify _ _ _ (fun _ => rfl)
  · rw [hb]; exact .modify _ _ _ (fun _ => rfl)
  · rw [hb]; exact .delete _ _ _

theorem relies_ownersKept : Relies exec Db.OwnersKept where
  refl _ := ⟨.refl _ _, .refl _ _⟩
  trans h h' := ⟨h.carts.trans h'.carts, h.bills.trans h'.bills⟩
  executed h := ⟨exec_carts_owners h, exec_bills_owners h⟩

/-- The key of a cart row that was `u`'s and cannot become anybody else's. -/
def Db.OwnCart (u : User) (db : Db) (i : Id) : Prop := db.carts.KeyHas (·.userId) u.id i

/-- The same for a bill. -/
def Db.OwnBill (u : User) (db : Db) (i : Id) : Prop := db.bills.KeyHas (·.userId) u.id i

/-- The program names only rows of `u`, whatever the others do, and what it
returns satisfies `Q`. -/
abbrev NamesOwnRows {α : Type} (u : User) (Q : Db → α → Prop) (db : Db) (p : Action α) : Prop :=
  p.Guarantees exec Db.OwnersKept (fun db w => w.NamesOwnRow u db) Q db

/-- A program without the two statements that name rows. -/
theorem namesOwnRows_of_only {α : Type} {u : User} {p : Action α}
    (hp : p.Only (fun w => ∀ db, w.NamesOwnRow u db)) (db : Db) :
    NamesOwnRows u (fun _ _ => True) db p :=
  Prog.guarantees_of_only hp fun t _ hw => hw t

theorem namesOwnRows_select_bind {α β : Type} {u : User} {Q : Db → β → Prop} {q : Query}
    {g : Db → α} {f : α → Action β} {db : Db}
    (hf : ∀ db', NamesOwnRows u Q db' (f (g db'))) : NamesOwnRows u Q db (select q g >>= f) :=
  fun t _ => ⟨trivial, fun t' ht' => by cases ht'; exact hf t⟩

theorem namesOwnRows_orRaise_bind {α β : Type} {u : User} {Q : Db → β → Prop} {o : Option α}
    {e : Failure} {f : α → Action β} {db : Db} (hf : ∀ a, NamesOwnRows u Q db (f a)) :
    NamesOwnRows u Q db (Prog.orRaise o e >>= f) := by
  cases o with
  | none => trivial
  | some a => exact hf a

namespace CartsController

variable (u : User)

theorem total_namesOwnRows (db : Db) : NamesOwnRows u (fun _ _ => True) db (total u) :=
  namesOwnRows_of_only (total_only (fun _ _ => trivial) u) db

theorem reportQuantity_namesOwnRows (product : Product) (db : Db) :
    NamesOwnRows u (fun _ _ => True) db (reportQuantity u product) :=
  namesOwnRows_of_only (reportQuantity_only (fun _ _ => trivial) u product) db

/-- A row that was found in the user's cart. -/
theorem firstActive_namesOwnRows (product : Product) (loaded : Option (Option Cart)) {db : Db}
    (hloaded : ∀ first ∈ loaded, ∀ c ∈ first, db.OwnCart u c.id) :
    NamesOwnRows u (fun db first => ∀ c ∈ first, db.OwnCart u c.id) db
      (firstActive u product loaded) := by
  cases loaded with
  | some first => exact hloaded first rfl
  | none =>
    refine Prog.guarantees_query (fun _ _ => trivial) fun t t' _ hsame c hc => ?_
    cases hsame
    have hmem := List.mem_of_mem_filter (List.mem_of_mem_head? hc)
    obtain ⟨hrow, hown⟩ := List.mem_filter.mp hmem
    have huser : c.userId = u.id := beq_iff_eq.mp (Bool.and_eq_true_iff.mp hown).1
    rw [Db.OwnCart, ← huser]
    exact Table.KeyHas.of_mem hrow

theorem removeCarts_namesOwnRows (product : Product) (n : Nat) (loaded : Option (Option Cart))
    {db : Db} (hloaded : ∀ first ∈ loaded, ∀ c ∈ first, db.OwnCart u c.id) :
    NamesOwnRows u (fun _ _ => True) db (removeCarts u product n loaded) := by
  induction n generalizing loaded db with
  | zero => trivial
  | succ n ih =>
    refine Prog.guarantees_bind relies_ownersKept
      (firstActive_namesOwnRows u product loaded hloaded) fun first t _ hfirst => ?_
    refine Prog.guarantees_bind relies_ownersKept
      (Q := fun db c => db.OwnCart u c.id)
      (Prog.guarantees_orRaise hfirst _) fun cart t₁ _ hcart => ?_
    -- the row may have been seen long ago, but no row changes hands
    refine Prog.guarantees_then relies_ownersKept (Prog.guarantees_perform fun t₂ ht c hc => ?_)
      fun _ t₃ _ => ?_
    · exact (hcart.later ht.carts).2 c hc
    · exact Prog.guarantees_bind relies_ownersKept
        (firstActive_namesOwnRows u product none fun _ h => by cases h)
        fun reloaded t₄ _ hreloaded => ih (some reloaded) fun first h => by cases h; exact hreloaded

theorem updateQuantity_namesOwnRows (p : Option CartParams) (quantity : Option String) (db : Db) :
    NamesOwnRows u (fun _ _ => True) db (updateQuantity u p quantity) := by
  have hset : NamesOwnRows u (fun _ _ => True) db (setProduct p) :=
    namesOwnRows_of_only (by simp [setProduct, Stmt.NamesOwnRow]) db
  refine Prog.guarantees_then relies_ownersKept hset fun product t _ => ?_
  refine namesOwnRows_orRaise_bind fun quantity => namesOwnRows_orRaise_bind fun stock => ?_
  split
  · trivial
  · refine namesOwnRows_select_bind fun t₁ => ?_
    split
    · refine namesOwnRows_select_bind fun t₂ => ?_
      refine Prog.guarantees_then relies_ownersKept (namesOwnRows_of_only ?_ t₂)
        fun _ t₃ _ => reportQuantity_namesOwnRows u product t₃
      exact Prog.only_times (by simp [Stmt.NamesOwnRow]) _
    · refine namesOwnRows_select_bind fun t₂ => ?_
      exact Prog.guarantees_then relies_ownersKept
        (removeCarts_namesOwnRows u product _ none fun _ h => by cases h)
        fun _ t₃ _ => reportQuantity_namesOwnRows u product t₃

end CartsController

/-- A bill that was stored is the user's. -/
theorem createBill_namesOwnRows {u : User} {b : Bill} (hb : b.userId = u.id) (db : Db) :
    NamesOwnRows u (fun db bill => ∀ i ∈ bill, db.OwnBill u i) db
      (createBill b) := by
  intro t _
  refine ⟨trivial, fun t' ht' i hi => ?_⟩
  split at hi
  · next hfound =>
    cases hi
    rw [exec_insertBill_ok hfound ht', Db.OwnBill, ← hb]
    exact Table.KeyHas.insert _ b
  · cases hi

theorem addLine_namesOwnRows {u : User} {bill : Option Id} {dataCart : List (Id × Nat)}
    {product : Product} {db : Db} (hbill : ∀ i ∈ bill, db.OwnBill u i) :
    NamesOwnRows u (fun _ _ => True) db (addLine bill dataCart product) := by
  refine namesOwnRows_orRaise_bind fun price => namesOwnRows_orRaise_bind fun count => ?_
  refine Prog.guarantees_bind relies_ownersKept (Q := Db.OwnBill u)
    (Prog.guarantees_orRaise hbill _) fun billId t _ hbillId => ?_
  exact Prog.guarantees_perform fun t' ht' b hb => (hbillId.later ht'.bills).2 b hb

/-- What both checkouts end with. -/
theorem lines_namesOwnRows {α : Type} {u : User} {bill : Option Id} {db : Db}
    (hbill : ∀ i ∈ bill, db.OwnBill u i) (dataCart : List (Id × Nat))
    (products : List Product) {rest : Unit → Action α}
    (hrest : (rest ()).Only (fun w => ∀ db, w.NamesOwnRow u db)) :
    NamesOwnRows u (fun _ _ => True) db (Prog.each products (addLine bill dataCart) >>= rest) := by
  refine Prog.guarantees_then relies_ownersKept (Prog.guarantees_each relies_ownersKept
    (I := fun db => ∀ i ∈ bill, db.OwnBill u i)
    (fun hst hs i hi => (hs i hi).later hst.bills) (fun product t ht => addLine_namesOwnRows ht)
    products hbill) fun _ t _ => namesOwnRows_of_only hrest t

namespace CartsController

theorem cash_namesOwnRows (u : User) (randomToken : String) (db : Db) :
    NamesOwnRows u (fun _ _ => True) db (cash u randomToken) := by
  refine Prog.guarantees_then relies_ownersKept (total_namesOwnRows u db) fun total t _ => ?_
  refine namesOwnRows_select_bind fun t₁ => ?_
  refine Prog.guarantees_bind relies_ownersKept (createBill_namesOwnRows rfl t₁)
    fun bill t₂ _ hbill => ?_
  -- the products are loaded between the bill and its lines
  intro t₃ ht₃
  refine ⟨trivial, fun t₄ ht₄ => ?_⟩
  cases ht₄
  exact lines_namesOwnRows (fun i hi => (hbill i hi).later ht₃.bills) _ _
    (by simp [Stmt.NamesOwnRow])

theorem checkoutMomo_namesOwnRows (u : User) (c : MomoCheckout) (db : Db) :
    NamesOwnRows u (fun _ _ => True) db (checkoutMomo u c) := by
  refine Prog.guarantees_then relies_ownersKept (total_namesOwnRows u db) fun total t _ => ?_
  refine Prog.guarantees_then relies_ownersKept ?_
    fun answer t₁ _ => namesOwnRows_of_only (by simp) t₁
  unfold Momo.GetPaymentUrlService.call
  refine namesOwnRows_select_bind fun t₁ => namesOwnRows_select_bind fun t₂ => ?_
  refine Prog.guarantees_then relies_ownersKept (namesOwnRows_of_only (by simp) t₂)
    fun items t₃ _ => ?_
  refine Prog.guarantees_then relies_ownersKept
    (Prog.guarantees_perform fun _ _ => trivial) fun _ t₄ _ => ?_
  split
  · trivial
  · split
    · refine Prog.guarantees_then relies_ownersKept ?_ fun _ _ _ => trivial
      refine Prog.guarantees_bind relies_ownersKept (createBill_namesOwnRows rfl t₄)
        fun bill t₅ _ hbill => ?_
      exact lines_namesOwnRows hbill _ _ (by simp [Stmt.NamesOwnRow])
    · trivial

end CartsController

theorem CartsRoute.namesOwnRows (u : User) (r : CartsRoute) (db : Db) :
    NamesOwnRows u (fun _ _ => True) db (r.action u) := by
  cases r with
  | updateQuantity p quantity => exact CartsController.updateQuantity_namesOwnRows u p quantity db
  | checkoutMomo c => exact CartsController.checkoutMomo_namesOwnRows u c db
  | cash randomToken => exact CartsController.cash_namesOwnRows u randomToken db
  | index => exact namesOwnRows_of_only (CartsController.index_only (fun _ _ => trivial) u) db
  | checkout =>
    exact namesOwnRows_of_only (CartsController.checkout_only (fun _ _ => trivial) u) db
  | destroy productId =>
    exact namesOwnRows_of_only (by simp [action, CartsController.destroy, Stmt.NamesOwnRow]) db
  | create p =>
    exact namesOwnRows_of_only (by simp [action, CartsController.create,
      CartsController.setProduct, Stmt.NamesOwnRow]) db

/-- Only the cart pages name rows that they have read before. -/
theorem Route.namesOwnRows (u : User) (r : Route) (db : Db) :
    NamesOwnRows u (fun _ _ => True) db (r.action u) := by
  cases r with
  | carts r => exact r.namesOwnRows u db
  | _ =>
    refine namesOwnRows_of_only ((Route.action_only u _).mono fun w hw db => ?_) db
    cases w <;> trivial

/-- The routes of a signed-in user keep to the policy. -/
theorem Route.guarantees (u : User) (r : Route) (db : Db) :
    (r.action u).Guarantees exec Db.OwnersKept (fun db w => maySend db (some u) w)
      (fun _ _ => True) db :=
  (r.namesOwnRows u db).and_only (r.action_only u) fun _ _ => Route.maySend_of_issues

theorem OpenRoute.guarantees (r : OpenRoute) (db : Db) :
    r.action.Guarantees exec Db.OwnersKept (fun db w => maySend db none w) (fun _ _ => True) db :=
  Prog.guarantees_of_only r.action_only fun t _ => OpenRoute.maySend_of_issues t

end Owners

/-! ## §3 Every schedule keeps to it -/

/-- By `log`, thread `i` has found `u` for its session. -/
def FoundUser (log : List (Event Db Stmt)) (i : Nat) (session : Option Id) (u : User) : Prop :=
  ∃ e ∈ log, e.thread = i ∧ e.stmt = .select .currentUser ∧
    session.bind e.before.users.find? = some u

/-- By `log`, request `r` of thread `i` is made by this user, or by a
visitor. -/
def Request.MadeBy (log : List (Event Db Stmt)) (i : Nat) : Request → Option User → Prop
  | user session _, caller => ∃ u, caller = some u ∧ FoundUser log i session u
  | «open» _, caller => caller = none

theorem Request.MadeBy.later {log : List (Event Db Stmt)} {i : Nat} {r : Request}
    {caller : Option User} (h : r.MadeBy log i caller) (e : Event Db Stmt) :
    r.MadeBy (log ++ [e]) i caller := by
  cases r with
  | user session route =>
    obtain ⟨u, hu, e', he', hfound⟩ := h
    exact ⟨u, hu, e', List.mem_append_left _ he', hfound⟩
  | «open» route => exact h

section Deployment

variable [Env]

/-- What is left of a request: all of it, as long as it has not looked for
its user, and then only what that user may send. -/
def Request.Left (log : List (Event Db Stmt)) (i : Nat) (r : Request) (db : Db)
    (p : Action Response) : Prop :=
  p = r.action ∨
    (∃ caller, r.MadeBy log i caller ∧
      p.Guarantees exec Db.OwnersKept (fun db w => maySend db caller w) (fun _ _ => True) db) ∨
    ∃ e, p = .raise e

theorem Request.Left.later {log : List (Event Db Stmt)} {i : Nat} {r : Request} {db' : Db}
    {p : Action Response} (e : Event Db Stmt) (h : r.Left log i e.before p)
    (he : exec e.stmt e.before = .ok db') : r.Left (log ++ [e]) i db' p := by
  rcases h with h | ⟨caller, hmade, hkeeps⟩ | h
  · exact .inl h
  · refine .inr (.inl ⟨caller, hmade.later e, ?_⟩)
    exact hkeeps.later relies_ownersKept (fun _ h => h) (relies_ownersKept.executed he)
  · exact .inr (.inr h)

/-- The next statement is one its caller may send, unless it writes
nothing, and what is left after it is again as described. -/
theorem Request.Left.next {log : List (Event Db Stmt)} {i : Nat} {r : Request} {w : Stmt}
    {k : Db → Action Response} {db db' : Db} (h : r.Left log i db (.stmt w k))
    (hw : exec w db = .ok db') :
    (w.isWrite = true → ∃ caller, r.MadeBy log i caller ∧ maySend db caller w) ∧
      r.Left (log ++ [⟨i, db, w⟩]) i db' (k db) := by
  rcases h with h | ⟨caller, hmade, hkeeps⟩ | ⟨e, h⟩
  · cases r with
    | user session route =>
      obtain ⟨rfl, rfl⟩ := Prog.stmt.inj h
      refine ⟨(fun hwrite => by cases hwrite), ?_⟩
      cases hu : session.bind db.users.find? with
      | none => exact .inr (.inr ⟨.unauthenticated, by simp only [hu]; rfl⟩)
      | some u =>
        refine .inr (.inl ⟨some u, ⟨u, rfl, _, List.mem_append_right _ List.mem_cons_self, rfl, rfl,
          hu⟩, ?_⟩)
        simp only [hu]
        exact route.guarantees u db'
    | «open» route =>
      have hkeeps : (Prog.stmt w k).Guarantees exec Db.OwnersKept
          (fun db w => maySend db none w) (fun _ _ => True) db := by
        rw [h]
        exact route.guarantees db
      obtain ⟨hnow, hrest⟩ := hkeeps db (relies_ownersKept.refl db)
      exact ⟨fun _ => ⟨none, rfl, hnow⟩, .inr (.inl ⟨none, rfl, hrest db' hw⟩)⟩
  · obtain ⟨hnow, hrest⟩ := hkeeps db (relies_ownersKept.refl db)
    exact ⟨fun _ => ⟨caller, hmade, hnow⟩, .inr (.inl ⟨caller, hmade.later _, hrest db' hw⟩)⟩
  · cases h

/-- **The policy is enforced under every schedule.** Let any requests run
interleaved in any way. Whatever write is executed, its request is a
visitor's or had by then looked up the user of its session, and the policy
lets that caller send it to the database as it stands. -/
theorem writes_mediated (db : Db) (rs : List Request) (schedule : List Nat)
    (log : List (Event Db Stmt)) (e : Event Db Stmt) (rest : List (Event Db Stmt))
    (hlog : ((requestPool db rs).run exec schedule).history = log ++ e :: rest)
    (hwrite : e.stmt.isWrite = true) :
    ∃ r caller, rs[e.thread]? = some r ∧ r.MadeBy log e.thread caller ∧
      maySend e.before caller e.stmt := by
  have haudits : Pool.Audits exec
      (fun i log db (p : Action Response) => ∃ r, rs[i]? = some r ∧ r.Left log i db p)
      (fun log e => e.stmt.isWrite = true → ∃ r caller, rs[e.thread]? = some r ∧
        r.MadeBy log e.thread caller ∧ maySend e.before caller e.stmt) := by
    constructor
    · rintro i log e db' p - he ⟨r, hr, hleft⟩
      exact ⟨r, hr, hleft.later e he⟩
    · rintro i log w k db e ⟨r, hr, -⟩ -
      exact ⟨r, hr, .inr (.inr ⟨e, rfl⟩)⟩
    · rintro i log w k db db' ⟨r, hr, hleft⟩ hexec
      obtain ⟨hnow, hnext⟩ := hleft.next hexec
      refine ⟨fun hw => ?_, r, hr, hnext⟩
      obtain ⟨caller, hmade, hmay⟩ := hnow hw
      exact ⟨r, caller, hr, hmade, hmay⟩
  refine (Pool.audited_run haudits ⟨fun i p hp => ?_, fun pre e post h => ?_⟩ schedule).events
    log e rest hlog hwrite
  · obtain ⟨r, hr, rfl⟩ := requestPool_thread hp
    exact ⟨r, hr, .inl rfl⟩
  · exact absurd h (List.append_ne_nil_of_right_ne_nil _ (List.cons_ne_nil _ _)).symm

end Deployment

/-- Two administrators, the chat of the first and one room. -/
def officeDb : Db where
  users := Table.empty.insertAll
    [{ email := "ann@pet.vn", roles := ["admin"] }, { email := "bob@pet.vn", roles := ["admin"] }]
  rooms := Table.empty.insertAll
    [{ rType := some .vip, weight := some .lessThan5, price := some 300, quantity := some 2 }]
  chats := Table.empty.insertAll [{ senderId := some 1 }]

/-- The first removes the room, the second removes the first. -/
def officeRequests : List Request :=
  [.user (some 1) (.rooms (.destroy 1 .turboStream)),
    .user (some 2) (.users (.destroy 1 .turboStream))]

section Example

attribute [local instance] Env.caseInsensitive

/-- What is executed when the second request runs in the middle of the
first. -/
def officeLog : List (Event Db Stmt) :=
  ((requestPool officeDb officeRequests).run exec [0, 1, 1, 1, 0, 0]).history

/-- The room goes although the account it is removed by has gone before. -/
theorem writes_mediated_removedAdmin :
    ∃ log e, officeLog = log ++ [e] ∧ e.stmt = .destroyRoom 1 ∧ e.before.users.find? 1 = none ∧
      ∃ caller, Request.MadeBy log 0 (.user (some 1) (.rooms (.destroy 1 .turboStream))) caller ∧
        maySend e.before caller e.stmt := by
  have hlog := (List.dropLast_append_getLast (l := officeLog) (by decide)).symm
  refine ⟨_, _, hlog, by decide, by decide, ?_⟩
  obtain ⟨r, caller, hr, hmade, hmay⟩ := writes_mediated officeDb officeRequests
    _ _ _ _ hlog (by decide)
  cases hr
  exact ⟨caller, hmade, hmay⟩

end Example

end PetParadise
