/-
PetParadise.App.Departments — the shop, the hotel and the chat at once.

The application is three businesses in one database. Each has tables of its
own, and all of them ask the accounts who somebody is. `Department.part`
is what a department can know of a database: its own tables and the
accounts. Its requests go by that part alone (`Request.sees`), change
nothing else, and are not touched by the requests of the others.

`departments_independent` is the consequence for requests that are served
at the same time: as long as no account changes, every department works as
if it were alone. What stands around a page (the cart counter and the chat
windows of the layout) is not part of an answer here.
-/
import PetParadise.App.RequestPool
import PetParadise.Store.Locality

namespace PetParadise

open Store PetParadise.Action

inductive Department where
  | shop | hotel | chat
  deriving DecidableEq, Repr

namespace Department

/-- The accounts and the department's own tables. -/
def part : Department → Db → Db
  | shop, db =>
      { users := db.users, products := db.products, carts := db.carts, bills := db.bills,
        billProducts := db.billProducts }
  | hotel, db => { users := db.users, rooms := db.rooms, bookings := db.bookings }
  | chat, db => { users := db.users, chats := db.chats, chatMessages := db.chatMessages }

/-- Two databases that are the same to the department. -/
def Same (d : Department) (s t : Db) : Prop := d.part s = d.part t

theorem Same.refl (d : Department) (s : Db) : d.Same s s := rfl

theorem Same.trans (d : Department) (s t v : Db) (hst : d.Same s t) (htv : d.Same t v) :
    d.Same s v := Eq.trans hst htv

end Department

/-! ## Statements -/

/-- Whose tables a statement changes. -/
def Stmt.department : Stmt → Option Department
  | .insertCart .. => some .shop
  | .deleteCart _ => some .shop
  | .deactivateCarts .. => some .shop
  | .insertBill _ => some .shop
  | .insertBillProduct _ => some .shop
  | .settleBill .. => some .shop
  | .shipBill _ => some .shop
  | .insertProduct _ => some .shop
  | .updateProduct _ => some .shop
  | .destroyProduct _ => some .shop
  | .insertRoom _ => some .hotel
  | .updateRoom _ => some .hotel
  | .destroyRoom _ => some .hotel
  | .insertBooking _ => some .hotel
  | .destroyBooking _ => some .hotel
  | .insertChat _ => some .chat
  | .updateChat .. => some .chat
  | .destroyChat _ => some .chat
  | .insertChatMessage _ => some .chat
  | _ => none

/-- Whose table it is; the accounts are nobody's. -/
def TableName.department : TableName → Option Department
  | users => none
  | products => some .shop
  | carts => some .shop
  | bills => some .shop
  | billProducts => some .shop
  | rooms => some .hotel
  | bookings => some .hotel
  | chats => some .chat
  | chatMessages => some .chat

theorem Stmt.department_of_writes {w : Stmt} {d : Department} {T : TableName}
    (hw : w.department = some d) (h : w.writes T = true) : T.department = some d := by
  cases w <;> cases hw <;> cases T <;> first | rfl | simp [Stmt.writes, Stmt.tables] at h

/-- A statement of the department does to its part what it does to the
whole. -/
theorem exec_part [Env] {w : Stmt} {d : Department} (hw : w.department = some d) (db : Db) :
    exec w (d.part db) = (exec w db).map d.part := by
  -- the checks in front of a statement look at the department's tables only
  cases w <;> cases hw <;> first | rfl | (simp only [exec, apply_ite (Except.map _)]; rfl)

theorem Stmt.Reads.localTo [Env] {w : Stmt} (hw : w.Reads) (d : Department) :
    LocalTo d.Same exec w := by
  intro s t hst
  rw [exec_reads hw, exec_reads hw]
  exact hst

theorem Stmt.localTo_of_department [Env] {w : Stmt} {d : Department} (hw : w.department = some d) :
    LocalTo d.Same exec w := by
  intro s t hst
  have hmap : (exec w s).map d.part = (exec w t).map d.part := by
    rw [← exec_part hw, ← exec_part hw, hst]
  cases hs : exec w s with
  | ok s' =>
    cases ht : exec w t with
    | ok t' =>
      rw [hs, ht] at hmap
      exact Except.ok.inj hmap
    | error e => rw [hs, ht] at hmap; cases hmap
  | error e =>
    cases ht : exec w t with
    | ok t' => rw [hs, ht] at hmap; cases hmap
    | error e' =>
      rw [hs, ht] at hmap
      exact Except.error.inj hmap

theorem Stmt.Reads.spares [Env] {w : Stmt} (hw : w.Reads) (d : Department) : Spares d.Same exec w
    := by
  intro s s' hs
  rw [exec_reads hw] at hs
  cases hs
  rfl

theorem Stmt.spares_of_department [Env] {w : Stmt} {d d' : Department} (hw : w.department = some d')
    (hd : d' ≠ d) : Spares d.Same exec w := by
  intro s s' hs
  have hframe : ∀ T, T.department ≠ some d' → s.SameOn T s' := by
    intro T hT
    apply exec_frame hs
    cases hwrites : w.writes T with
    | false => rfl
    | true => exact absurd (department_of_writes hw hwrites) hT
  have hother : ∀ T, T.department = some d → s.SameOn T s' := by
    intro T hT
    apply hframe
    rw [hT]
    exact fun h => hd (Option.some.inj h).symm
  have husers : s'.users = s.users := hframe .users (fun h => by cases h)
  cases d with
  | shop =>
    have hproducts : s'.products = s.products := hother .products rfl
    have hcarts : s'.carts = s.carts := hother .carts rfl
    have hbills : s'.bills = s.bills := hother .bills rfl
    have hlines : s'.billProducts = s.billProducts := hother .billProducts rfl
    simp only [Department.Same, Department.part, husers, hproducts, hcarts, hbills, hlines]
  | hotel =>
    have hrooms : s'.rooms = s.rooms := hother .rooms rfl
    have hbookings : s'.bookings = s.bookings := hother .bookings rfl
    simp only [Department.Same, Department.part, husers, hrooms, hbookings]
  | chat =>
    have hchats : s'.chats = s.chats := hother .chats rfl
    have hmessages : s'.chatMessages = s.chatMessages := hother .chatMessages rfl
    simp only [Department.Same, Department.part, husers, hchats, hmessages]

/-- A statement that asks, or one of the department. -/
def Department.Sends (d : Department) (w : Stmt) : Prop := w.Reads ∨ w.department = some d

theorem Department.Sends.localTo [Env] {d : Department} {w : Stmt} (h : d.Sends w) :
    LocalTo d.Same exec w := by
  rcases h with h | h
  · exact h.localTo d
  · exact Stmt.localTo_of_department h

theorem Department.Sends.spares [Env] {d d' : Department} {w : Stmt} (h : d'.Sends w) (hd : d' ≠ d)
    :
    Spares d.Same exec w := by
  rcases h with h | h
  · exact h.spares d
  · exact Stmt.spares_of_department h hd

/-! ## Building blocks -/

section Blocks

variable {α β : Type} {d : Department}

/-- A statement, and what is made of the department's part. -/
theorem sees_stmt {w : Stmt} {k : Db → Action α} (hpart : ∀ db, k db = k (d.part db))
    (hk : ∀ db, (k db).Sees d.Same) : Prog.Sees d.Same (.stmt w k) := by
  refine ⟨fun s t hst => ?_, hk⟩
  have hst' : d.part s = d.part t := hst
  rw [hpart s, hpart t, hst']

/-- A query about the department's part. -/
theorem sees_select {q : Query} {f : Db → α} (hf : ∀ db, f db = f (d.part db)) :
    (select q f).Sees d.Same :=
  sees_stmt (fun db => congrArg Prog.ret (hf db)) fun _ => trivial

theorem sees_select_bind {q : Query} {f : Db → α} {g : α → Action β}
    (hf : ∀ db, f db = f (d.part db)) (hg : ∀ a, (g a).Sees d.Same) :
    (select q f >>= g).Sees d.Same :=
  Prog.sees_bind (sees_select hf) hg

theorem sees_orRaise_bind {o : Option α} {e : Failure} {g : α → Action β}
    (hg : ∀ a, (g a).Sees d.Same) : (Prog.orRaise o e >>= g).Sees d.Same :=
  Prog.sees_bind (Prog.sees_orRaise o e) hg

theorem sees_ofExcept_bind {x : Except Failure α} {g : α → Action β}
    (hg : ∀ a, (g a).Sees d.Same) : (Prog.ofExcept x >>= g).Sees d.Same :=
  Prog.sees_bind (Prog.sees_ofExcept x) hg

theorem sees_perform_bind {w : Stmt} {g : Unit → Action β} (hg : (g ()).Sees d.Same) :
    (Prog.perform w >>= g).Sees d.Same :=
  Prog.sees_bind (Prog.sees_perform w) fun _ => hg

theorem sees_respondJs (format : Format) (js : String) : (respondJs format js).Sees d.Same := by
  unfold respondJs
  split <;> trivial

theorem sees_authorize_bind {u : User} {s : Subject} {g : Unit → Action β}
    (hg : (g ()).Sees d.Same) : (authorize u s >>= g).Sees d.Same := by
  unfold authorize
  split
  · exact hg
  · trivial

end Blocks

theorem authenticateUser_sees (session : Option Id) (d : Department) :
    (authenticateUser session).Sees d.Same := by
  cases d <;> exact sees_select_bind (fun _ => rfl) fun _ => Prog.sees_orRaise _ _

/-! ## The hotel -/

theorem BookingsController.emptyRoomIds_sees (p : BookingParams) (rooms : List Room) :
    (emptyRoomIds p rooms).Sees Department.hotel.Same := by
  induction rooms with
  | nil => trivial
  | cons room rooms ih =>
    refine Prog.sees_bind ?_ fun booked => sees_orRaise_bind fun capacity => ?_
    · refine sees_orRaise_bind fun dates => sees_ofExcept_bind fun s => ?_
      exact sees_ofExcept_bind fun f => sees_select fun _ => rfl
    · refine Prog.sees_bind ih fun rest => ?_
      split <;> trivial

theorem BookingsRoute.action_sees (u : User) (r : BookingsRoute) :
    (r.action u).Sees Department.hotel.Same := by
  cases r with
  | index => exact sees_select_bind (fun _ => rfl) fun _ => trivial
  | create p =>
    refine sees_select_bind (fun _ => rfl) fun rooms => ?_
    refine Prog.sees_bind (BookingsController.emptyRoomIds_sees p rooms) fun empty => ?_
    cases empty with
    | nil => trivial
    | cons roomId rest => exact sees_orRaise_bind fun dates => sees_perform_bind trivial
  | destroy id =>
    exact sees_select_bind (fun _ => rfl) fun _ => sees_orRaise_bind fun _ =>
      sees_perform_bind trivial

theorem ManageBookingsController.index_sees (u : User) (mdate : DateParam) (now : DateTime) :
    (index u mdate now).Sees Department.hotel.Same := by
  refine sees_authorize_bind (sees_ofExcept_bind fun at' => ?_)
  exact sees_stmt (fun _ => rfl) fun _ => trivial

theorem RoomsRoute.action_sees (u : User) (r : RoomsRoute) :
    (r.action u).Sees Department.hotel.Same := by
  cases r with
  | index => exact sees_authorize_bind (sees_select_bind (fun _ => rfl) fun _ => trivial)
  | new => exact sees_authorize_bind trivial
  | edit id => exact sees_authorize_bind (sees_select_bind (fun _ => rfl) fun _ => trivial)
  | create p =>
    exact sees_authorize_bind (sees_ofExcept_bind fun _ => sees_ofExcept_bind fun _ =>
      sees_perform_bind trivial)
  | «import» sheet =>
    refine sees_authorize_bind (sees_orRaise_bind fun rows => ?_)
    refine Prog.sees_bind (Prog.sees_each (fun row => ?_) _) fun _ => trivial
    exact sees_ofExcept_bind fun _ => sees_ofExcept_bind fun _ => sees_ofExcept_bind fun _ =>
      sees_ofExcept_bind fun _ => Prog.sees_perform _
  | update id p =>
    exact sees_authorize_bind (sees_select_bind (fun _ => rfl) fun _ => sees_orRaise_bind fun _ =>
      sees_ofExcept_bind fun _ => sees_ofExcept_bind fun _ => sees_perform_bind trivial)
  | destroy id format =>
    exact sees_authorize_bind (sees_select_bind (fun _ => rfl) fun _ => sees_orRaise_bind fun _ =>
      sees_perform_bind (sees_respondJs _ _))

/-! ## The chat -/

theorem ChatsController.setChat_sees (id : Id) : (setChat id).Sees Department.chat.Same :=
  sees_select_bind (fun _ => rfl) fun _ => Prog.sees_orRaise _ _

theorem ChatsController.assignChatParams_sees (p : ChatParams) :
    (assignChatParams p).Sees Department.chat.Same := by
  unfold assignChatParams
  split <;> trivial

theorem ChatsRoute.action_sees (r : ChatsRoute) : r.action.Sees Department.chat.Same := by
  have hset := ChatsController.setChat_sees
  have hassign := ChatsController.assignChatParams_sees
  cases r with
  | index => exact sees_select_bind (fun _ => rfl) fun _ => trivial
  | «show» id =>
    exact Prog.sees_bind (hset id) fun _ => sees_select_bind (fun _ => rfl) fun _ => trivial
  | new => trivial
  | edit id =>
    exact Prog.sees_bind (hset id) fun _ => sees_select_bind (fun _ => rfl) fun _ => trivial
  | create p =>
    exact Prog.sees_bind (hassign p) fun _ =>
      Prog.sees_bind (sees_stmt (fun _ => rfl) fun _ => trivial) fun _ => trivial
  | update id p =>
    exact Prog.sees_bind (hset id) fun _ => Prog.sees_bind (hassign p) fun _ =>
      sees_perform_bind trivial
  | destroy id => exact Prog.sees_bind (hset id) fun _ => sees_perform_bind trivial

theorem ChatMessagesRoute.action_sees (u : User) (r : ChatMessagesRoute) :
    (r.action u).Sees Department.chat.Same := by
  cases r with
  | create message senderId now =>
    exact sees_select_bind (fun _ => rfl) fun _ => sees_orRaise_bind fun _ =>
      sees_perform_bind trivial

/-! ## The shop -/

/-- The shop reads prices off its own tables. -/
theorem Db.addPrices_part (db : Db) (n : Int) (cs : List Cart) :
    db.addPrices n cs = (Department.shop.part db).addPrices n cs := by
  induction cs generalizing n with
  | nil => rfl
  | cons c cs ih =>
    have hprice : (Department.shop.part db).rowPrice c = db.rowPrice c := rfl
    unfold Db.addPrices
    rw [hprice]
    cases db.rowPrice c with
    | ok price => exact ih _
    | error e => rfl

theorem createBill_sees (b : Bill) : (createBill b).Sees Department.shop.Same :=
  sees_stmt (fun _ => rfl) fun _ => trivial

theorem addLine_sees (bill : Option Id) (dataCart : List (Id × Nat)) (product : Product) :
    (addLine bill dataCart product).Sees Department.shop.Same :=
  sees_orRaise_bind fun _ => sees_orRaise_bind fun _ => sees_orRaise_bind fun _ =>
    Prog.sees_perform _

namespace CartsController

theorem total_sees (u : User) : (total u).Sees Department.shop.Same :=
  sees_select_bind (fun db => db.addPrices_part 0 _) fun _ => Prog.sees_ofExcept _

theorem setProduct_sees (p : Option CartParams) : (setProduct p).Sees Department.shop.Same :=
  sees_orRaise_bind fun _ => sees_select_bind (fun _ => rfl) fun _ => Prog.sees_orRaise _ _

theorem firstActive_sees (u : User) (product : Product) (loaded : Option (Option Cart)) :
    (firstActive u product loaded).Sees Department.shop.Same := by
  cases loaded with
  | some first => trivial
  | none => exact sees_select fun _ => rfl

theorem removeCarts_sees (u : User) (product : Product) (n : Nat)
    (loaded : Option (Option Cart)) :
    (removeCarts u product n loaded).Sees Department.shop.Same := by
  induction n generalizing loaded with
  | zero => trivial
  | succ n ih =>
    refine Prog.sees_bind (firstActive_sees u product loaded) fun first => ?_
    refine sees_orRaise_bind fun cart => sees_perform_bind ?_
    exact Prog.sees_bind (firstActive_sees u product none) fun reloaded => ih _

theorem reportQuantity_sees (u : User) (product : Product) :
    (reportQuantity u product).Sees Department.shop.Same :=
  Prog.sees_bind (total_sees u) fun _ => sees_select_bind (fun _ => rfl) fun _ => trivial

theorem updateQuantity_sees (u : User) (p : Option CartParams) (quantity : Option String) :
    (updateQuantity u p quantity).Sees Department.shop.Same := by
  refine Prog.sees_bind (setProduct_sees p) fun product => sees_orRaise_bind fun q => ?_
  refine sees_orRaise_bind fun stock => ?_
  split
  · trivial
  · refine sees_select_bind (fun _ => rfl) fun before => ?_
    split
    · refine sees_select_bind (fun _ => rfl) fun now => ?_
      exact Prog.sees_bind (Prog.sees_times (Prog.sees_perform _) _)
        fun _ => reportQuantity_sees u product
    · refine sees_select_bind (fun _ => rfl) fun now => ?_
      exact Prog.sees_bind (removeCarts_sees u product _ none)
        fun _ => reportQuantity_sees u product

theorem cash_sees (u : User) (randomToken : String) :
    (cash u randomToken).Sees Department.shop.Same := by
  refine Prog.sees_bind (total_sees u) fun total => ?_
  refine sees_select_bind (fun _ => rfl) fun dataCart => ?_
  refine Prog.sees_bind (createBill_sees _) fun bill => ?_
  refine sees_select_bind (fun _ => rfl) fun products => ?_
  exact Prog.sees_bind (Prog.sees_each (addLine_sees bill dataCart) _) fun _ =>
    sees_perform_bind trivial

end CartsController

theorem ProductsController.setProduct_sees (id : Id) :
    (setProduct id).Sees Department.shop.Same :=
  sees_select_bind (fun _ => rfl) fun _ => Prog.sees_orRaise _ _

theorem ProductsRoute.action_sees (u : User) (r : ProductsRoute) :
    (r.action u).Sees Department.shop.Same := by
  have hset := ProductsController.setProduct_sees
  cases r with
  | index => exact sees_authorize_bind (sees_select_bind (fun _ => rfl) fun _ => trivial)
  | «show» id => exact sees_authorize_bind (Prog.sees_bind (hset id) fun _ => trivial)
  | new => exact sees_authorize_bind trivial
  | edit id => exact sees_authorize_bind (Prog.sees_bind (hset id) fun _ => trivial)
  | create p => exact sees_authorize_bind (sees_ofExcept_bind fun _ => sees_perform_bind trivial)
  | update id p =>
    exact sees_authorize_bind (Prog.sees_bind (hset id) fun _ => sees_ofExcept_bind fun _ =>
      sees_perform_bind trivial)
  | destroy id format =>
    exact sees_authorize_bind (Prog.sees_bind (hset id) fun _ =>
      sees_perform_bind (sees_respondJs _ _))

theorem BillsRoute.action_sees (u : User) (r : BillsRoute) :
    (r.action u).Sees Department.shop.Same := by
  cases r with
  | index => exact sees_authorize_bind (sees_select_bind (fun _ => rfl) fun _ => trivial)
  | «show» id => exact sees_authorize_bind (sees_select_bind (fun _ => rfl) fun _ => trivial)
  | update id format =>
    exact sees_authorize_bind (sees_select_bind (fun _ => rfl) fun _ => sees_orRaise_bind fun _ =>
      sees_select_bind (fun _ => rfl) fun _ => sees_orRaise_bind fun _ =>
        sees_perform_bind (sees_respondJs _ _))

theorem HistoriesRoute.action_sees (u : User) (r : HistoriesRoute) :
    (r.action u).Sees Department.shop.Same := by
  cases r with
  | index => exact sees_select_bind (fun _ => rfl) fun _ => trivial
  | «show» id =>
    exact sees_select_bind (fun _ => rfl) fun _ => sees_orRaise_bind fun _ =>
      sees_select_bind (fun _ => rfl) fun _ => trivial

section Deployment

variable [Env]

theorem CartsController.checkoutMomo_sees (u : User) (c : MomoCheckout) :
    (checkoutMomo u c).Sees Department.shop.Same := by
  refine Prog.sees_bind (total_sees u) fun total => Prog.sees_bind ?_ fun answer => ?_
  · refine sees_select_bind (fun _ => rfl) fun dataCart => ?_
    refine sees_select_bind (fun _ => rfl) fun products => sees_ofExcept_bind fun items => ?_
    refine sees_perform_bind ?_
    split
    · trivial
    · split
      · refine Prog.sees_bind (Prog.sees_bind (createBill_sees _) fun bill => ?_) fun _ => trivial
        exact Prog.sees_bind (Prog.sees_each (addLine_sees bill dataCart) _) fun _ =>
          Prog.sees_perform _
      · trivial
  · split
    split
    · exact sees_orRaise_bind fun _ => trivial
    · trivial

theorem CartsRoute.action_sees (u : User) (r : CartsRoute) :
    (r.action u).Sees Department.shop.Same := by
  cases r with
  | index =>
    exact Prog.sees_bind (CartsController.total_sees u) fun _ =>
      sees_select_bind (fun _ => rfl) fun _ => sees_select_bind (fun _ => rfl) fun _ => trivial
  | create p =>
    refine Prog.sees_bind (CartsController.setProduct_sees p) fun product => ?_
    refine sees_select_bind (fun _ => rfl) fun active => sees_orRaise_bind fun quantity => ?_
    split
    · trivial
    · exact sees_perform_bind (sees_select_bind (fun _ => rfl) fun _ => trivial)
  | updateQuantity p quantity => exact CartsController.updateQuantity_sees u p quantity
  | checkoutMomo c => exact CartsController.checkoutMomo_sees u c
  | checkout =>
    exact Prog.sees_bind (CartsController.total_sees u) fun _ =>
      sees_select_bind (fun _ => rfl) fun _ => sees_select_bind (fun _ => rfl) fun _ => trivial
  | destroy productId => exact sees_perform_bind trivial
  | cash randomToken => exact CartsController.cash_sees u randomToken

theorem Api.V1.BillsController.create_sees (p : CallbackParams) :
    (create p).Sees Department.shop.Same := by
  refine sees_select_bind (fun _ => rfl) fun found => ?_
  split
  · trivial
  · refine sees_select_bind (fun _ => rfl) fun user => ?_
    split
    · trivial
    · exact sees_perform_bind trivial

end Deployment

/-! ## Requests -/

def Route.department : Route → Option Department
  | bookings _ => some .hotel
  | manageBookings .. => some .hotel
  | rooms _ => some .hotel
  | chats _ => some .chat
  | chatMessages _ => some .chat
  | carts _ => some .shop
  | histories _ => some .shop
  | products _ => some .shop
  | bills _ => some .shop
  | _ => none

/-- Whom a request goes to; those that change accounts go to nobody. -/
def Request.department : Request → Option Department
  | user _ route => route.department
  | «open» (.callback _) => some .shop
  | «open» _ => none

theorem Route.sends {r : Route} {d : Department} (hr : r.department = some d) {u : User} {w : Stmt}
    (h : r.Issues u w) : d.Sends w := by
  cases r <;> cases hr <;> cases w <;> first | exact .inl rfl | exact .inr rfl | cases h

/-- Whose thread it is. -/
def departmentOf (rs : List Request) (i : Nat) : Option Department := rs[i]?.bind Request.department

section Deployment

variable [Env]

theorem Route.action_sees {r : Route} {d : Department} (hr : r.department = some d) (u : User) :
    (r.action u).Sees d.Same := by
  cases r <;> cases hr
  case bookings r => exact r.action_sees u
  case manageBookings mdate now => exact ManageBookingsController.index_sees u mdate now
  case rooms r => exact r.action_sees u
  case chats r => exact r.action_sees
  case chatMessages r => exact r.action_sees u
  case carts r => exact r.action_sees u
  case histories r => exact r.action_sees u
  case products r => exact r.action_sees u
  case bills r => exact r.action_sees u

theorem Request.sees {r : Request} {d : Department} (hr : r.department = some d) :
    r.action.Sees d.Same := by
  cases r with
  | user session route =>
    exact Prog.sees_bind (authenticateUser_sees session d) fun u => Route.action_sees hr u
  | «open» route =>
    cases route with
    | callback p => cases hr; exact Api.V1.BillsController.create_sees p
    | _ => cases hr

theorem Request.sends {r : Request} {d : Department} (hr : r.department = some d) :
    r.action.Only d.Sends := by
  cases r with
  | user session route =>
    refine Prog.only_bind ?_ fun u => (route.action_only u).mono fun w hw => Route.sends hr hw
    simp [authenticateUser, Department.Sends]
  | «open» route =>
    cases route with
    | callback p =>
      cases hr
      refine (OpenRoute.action_only (.callback p)).mono fun w hw => ?_
      cases w <;> first | exact .inl rfl | exact .inr rfl | cases hw
    | _ => cases hr

/-- **The departments do not disturb each other.** Let requests to the
shop, the hotel and the chat run interleaved in any way. For each of the
three, striking the requests to the other two out of the schedule changes
nothing: its requests end with the same answers, and its tables are left
the same. -/
theorem departments_independent (db : Db) (rs : List Request)
    (hrs : ∀ r ∈ rs, r.department.isSome = true) (schedule : List Nat) (d : Department) :
    let all := (requestPool db rs).run exec schedule
    let alone := (requestPool db rs).run exec (schedule.filter (departmentOf rs · = some d))
    (∀ i, departmentOf rs i = some d → all.answer i = alone.answer i) ∧
      d.part all.store = d.part alone.store := by
  intro all alone
  have hconfined : ∀ i p, (requestPool db rs).threads[i]? = some p →
      Pool.Confined d.Same exec (fun i => departmentOf rs i = some d) i p := by
    intro i p hp
    obtain ⟨r, hr, rfl⟩ := requestPool_thread hp
    have hdepartment : departmentOf rs i = r.department := by rw [departmentOf, hr]; rfl
    obtain ⟨d', hd'⟩ := Option.isSome_iff_exists.mp (hrs r (List.mem_of_getElem? hr))
    have hsends := Request.sends hd'
    constructor
    · intro hi
      rw [hdepartment, decide_eq_true_iff] at hi
      exact Request.sees hi
    · intro hi
      rw [hdepartment, decide_eq_true_iff] at hi
      exact (Request.sends hi).mono fun _ => Department.Sends.localTo
    · intro hi
      rw [hdepartment, decide_eq_false_iff_not, hd', Option.some_inj] at hi
      exact hsends.mono fun _ hw => hw.spares hi
  have hprojected := Pool.projected_run (Department.Same.refl d) (Department.Same.trans d)
    hconfined schedule
  exact ⟨fun i hi => hprojected.answer_eq (decide_eq_true hi), hprojected.store⟩

end Deployment

/-- A customer with a leash in the cart and a chat; a room is free. -/
def resortDb : Db where
  users := Table.empty.insertAll [{ email := "ann@pet.vn" }]
  products := Table.empty.insertAll
    [{ name := some "Leash", price := some 120, quantity := some 3 }]
  carts := Table.empty.insertAll [{ userId := 1, productId := 1 }]
  rooms := Table.empty.insertAll
    [{ rType := some .vip, weight := some .lessThan5, price := some 300, quantity := some 2 }]
  chats := Table.empty.insertAll [{ senderId := some 1 }]

/-- They pay, book the room and write a message. -/
def resortRequests : List Request :=
  [.user (some 1) (.carts (.cash "7f")),
    .user (some 1) (.bookings (.create
      { rType := some 1, weight := some 0, quantity := some "1",
        booking := some (.at 0, .at 86400) })),
    .user (some 1) (.chatMessages (.create (some "Hello") none 0))]

/-- One statement of each in turn. -/
def resortSchedule : List Nat := (List.replicate 7 [0, 1, 2]).flatten

section Example

attribute [local instance] Env.caseInsensitive

theorem departments_independent_resort :
    (∀ r ∈ resortRequests, r.department.isSome = true) ∧
    let all := (@requestPool .caseInsensitive resortDb resortRequests).run exec resortSchedule
    let alone := (@requestPool .caseInsensitive resortDb resortRequests).run exec
      (resortSchedule.filter (departmentOf resortRequests · = some .hotel))
    all.answer 1 = alone.answer 1 ∧ all.store.bookings = alone.store.bookings ∧
      all.store.bookings.rows.length = 1 ∧ all.store.bills.rows.length = 1 ∧
      alone.store.bills.rows.length = 0 := by
  have hrs : ∀ r ∈ resortRequests, r.department.isSome = true := by decide
  have halone := @departments_independent .caseInsensitive resortDb resortRequests hrs
    resortSchedule .hotel
  have hbookings := congrArg Db.bookings halone.2
  exact ⟨hrs, halone.1 1 rfl, hbookings, by decide, by decide, by decide⟩

end Example

end PetParadise
