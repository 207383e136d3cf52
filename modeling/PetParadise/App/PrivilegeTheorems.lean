/-
PetParadise.App.PrivilegeTheorems — privileged data changes only at the
hands of privileged users.

`Stmt.guard` names the permission in front of a statement. The routes
table of `PetParadise.App.RoutesTheorems` gives `Route.can_of_issues`: a
guarded statement is only ever sent for a user who holds its permission.
What is left is what UNGUARDED statements can do to rooms, roles,
products and shipping flags, one lemma each, and one induction over the
run.
-/
import PetParadise.App.RoutesTheorems

namespace PetParadise

open Store

/-! ## Guards -/

/-- The permission a statement needs: rooms, roles, products and the
shipping flag are behind `load_and_authorize_resource`. -/
def Stmt.guard : Stmt → Option Subject
  | .insertRoom _ => some .room
  | .updateRoom _ => some .room
  | .destroyRoom _ => some .room
  | .addRole .. => some .user
  | .insertProduct _ => some .product
  | .updateProduct _ => some .product
  | .destroyProduct _ => some .product
  | .shipBill _ => some .bill
  | _ => none

/-- A guarded statement is sent only for a user with its permission. -/
theorem Route.can_of_issues {u : User} {r : Route} {w : Stmt} (h : r.Issues u w)
    {s : Subject} (hs : w.guard = some s) : Ability.can u s = true := by
  cases w <;> cases hs <;> cases r <;> first | exact h | exact h.1 | cases h

/-- No open route sends a guarded statement. -/
theorem OpenRoute.guard_of_issues {r : OpenRoute} {w : Stmt} (h : r.Issues w) :
    w.guard = none := by
  cases w <;> first | rfl | (cases r <;> cases h)

/-! ## What unguarded statements cannot do -/

theorem exec_rooms_unguarded [Env] {w : Stmt} {db db' : Db} (h : exec w db = .ok db')
    (hg : w.guard ≠ some .room) : db'.rooms = db.rooms := by
  refine exec_frame (t := .rooms) h ?_
  cases w <;> first | rfl | exact absurd rfl hg

theorem exec_products_unguarded [Env] {w : Stmt} {db db' : Db} (h : exec w db = .ok db')
    (hg : w.guard ≠ some .product) : db'.products = db.products := by
  refine exec_frame (t := .products) h ?_
  cases w <;> first | rfl | exact absurd rfl hg

/-- Whoever has a role in `db'` had it in `db`. -/
def Db.NoRoleGained (db db' : Db) : Prop :=
  ∀ v' ∈ db'.users.rows, ∀ role ∈ v'.roles, ∃ v ∈ db.users.rows, v.id = v'.id ∧ role ∈ v.roles

theorem Db.NoRoleGained.refl (db : Db) : db.NoRoleGained db :=
  fun v hv _ hrole => ⟨v, hv, rfl, hrole⟩

theorem Db.NoRoleGained.trans {a b c : Db} (hab : a.NoRoleGained b) (hbc : b.NoRoleGained c) :
    a.NoRoleGained c := by
  intro v'' hv'' role hrole
  obtain ⟨v', hv', hid', hrole'⟩ := hbc v'' hv'' role hrole
  obtain ⟨v, hv, hid, hrole⟩ := hab v' hv' role hrole'
  exact ⟨v, hv, hid.trans hid', hrole⟩

/-- Rows that are rewritten keep their roles. -/
theorem Db.NoRoleGained.of_modify {db db' : Db} {q : User → Bool} {f : User → User}
    {hf : ∀ u, Row.id (f u) = Row.id u} (h : db'.users = db.users.modify q f hf)
    (hroles : ∀ u, (f u).roles = u.roles) : db.NoRoleGained db' := by
  intro v' hv' role hrole
  rw [h, Table.rows_modify] at hv'
  obtain ⟨v, hv, rfl⟩ := List.mem_map.mp hv'
  refine ⟨v, hv, ?_⟩
  cases hq : q v with
  | true => exact ⟨(hf v).symm, by simpa [hq, hroles] using hrole⟩
  | false => exact ⟨rfl, by simpa [hq] using hrole⟩

theorem User.assign_roles (u : User) (p : ProfileParams) : (u.assign p).roles = u.roles := by
  unfold User.assign
  split <;> rfl

theorem exec_roles_unguarded [Env] {w : Stmt} {db db' : Db} (h : exec w db = .ok db')
    (hg : w.guard ≠ some .user) : db.NoRoleGained db' := by
  rcases exec_users h with hu | ⟨email, password, -, hu⟩ | ⟨i, p, -, hu⟩ | ⟨i, password, -, hu⟩ |
    ⟨i, email, -, hu⟩ | ⟨i, r, rfl, -⟩ | ⟨i, -, hu⟩
  · intro v' hv' role hrole
    rw [hu] at hv'
    exact ⟨v', hv', rfl, hrole⟩
  · intro v' hv' role hrole
    rw [hu, Table.rows_insert, List.mem_append, List.mem_singleton] at hv'
    rcases hv' with hv' | rfl
    · exact ⟨v', hv', rfl, hrole⟩
    · exact absurd hrole List.not_mem_nil
  · exact .of_modify hu (·.assign_roles p)
  · exact .of_modify hu (fun _ => rfl)
  · exact .of_modify hu (fun _ => rfl)
  · exact absurd rfl hg
  · intro v' hv' role hrole
    rw [hu] at hv'
    exact ⟨v', List.mem_of_mem_filter hv', rfl, hrole⟩

theorem exec_shipping_unguarded [Env] {w : Stmt} {db db' : Db} (h : exec w db = .ok db')
    (hg : w.guard ≠ some .bill) : Table.Kept Bill.isShipped db.bills db'.bills := by
  rcases exec_bills h with hb | ⟨b, -, hb⟩ | ⟨i, data, -, hb⟩ | ⟨i, rfl, -⟩ | ⟨i, -, hb⟩
  · rw [hb]; exact .refl _ _
  · rw [hb]; exact .insert _ _ _
  · rw [hb]; exact .modify _ _ _ (fun _ => rfl)
  · exact absurd rfl hg
  · rw [hb]; exact .delete _ _ _

/-! ## Requests -/

/-- The signed-in user behind a request. -/
def Request.sender (db : Db) : Request → Option User
  | user session _ => session.bind db.users.find?
  | «open» _ => none

/-- Sent by an anonymous client, a customer or a member of staff. -/
def Request.NotByAdmin (db : Db) (r : Request) : Prop :=
  ∀ u ∈ r.sender db, u.isAdmin = false

instance (db : Db) (r : Request) : Decidable (r.NotByAdmin db) :=
  inferInstanceAs (Decidable (∀ u ∈ r.sender db, u.isAdmin = false))

/-- Sent by an anonymous client or a customer. -/
def Request.ByCustomer (db : Db) (r : Request) : Prop :=
  ∀ u ∈ r.sender db, u.isCustomer = true

/-- A request whose sender lacks the permission `s` sends no statement that
`s` guards. -/
theorem Request.unguarded_of_issues {s : Subject} {db : Db} {r : Request}
    (hr : ∀ u ∈ r.sender db, Ability.can u s = false) {w : Stmt} (hw : r.Issues db w) :
    w.guard ≠ some s := by
  intro hg
  cases r with
  | user session route =>
    obtain ⟨u, hu, hw⟩ := hw
    have hcan := Route.can_of_issues hw hg
    rw [hr u hu] at hcan
    cases hcan
  | «open» route =>
    rw [OpenRoute.guard_of_issues hw] at hg
    cases hg

section Runs

variable [Env]

/-- **Privileged data changes only by privileged users.** Along a run that
no administrator takes part in, the rooms stay as they are and nobody
gains a role; if no member of staff takes part either, so do the products
and the shipping flag of every stored bill. -/
theorem privileged_data_unchanged (db : Db) (rs : List Request)
    (h : Along step Request.NotByAdmin db rs) :
    (runFrom db rs).rooms = db.rooms ∧ db.NoRoleGained (runFrom db rs) ∧
    (Along step Request.ByCustomer db rs →
      (runFrom db rs).products = db.products ∧
      ∀ b ∈ db.bills.rows, ∀ b' ∈ (runFrom db rs).bills.rows, b'.id = b.id →
        b'.isShipped = b.isShipped) := by
  refine ⟨?_, ?_, fun hc => ⟨?_, ?_⟩⟩
  · refine Along.foldl_inv (fun x => x.rooms = db.rooms) (fun x r hx hr => ?_) rfl h
    have hun := fun u hu => (Ability.can_room_or_user (hr u hu)).1
    refine step_inv (fun y => y.rooms = db.rooms) (fun w y y' hw hy h => ?_) hx
    rw [exec_rooms_unguarded hy (Request.unguarded_of_issues hun hw), h]
  · refine Along.foldl_inv (fun x => db.NoRoleGained x) (fun x r hx hr => ?_)
      (Db.NoRoleGained.refl db) h
    have hun := fun u hu => (Ability.can_room_or_user (hr u hu)).2
    refine step_inv (fun y => db.NoRoleGained y) (fun w y y' hw hy h => h.trans ?_) hx
    exact exec_roles_unguarded hy (Request.unguarded_of_issues hun hw)
  · refine Along.foldl_inv (fun x => x.products = db.products) (fun x r hx hr => ?_) rfl hc
    have hun := fun u hu => (Ability.can_bill_or_product (hr u hu)).2
    refine step_inv (fun y => y.products = db.products) (fun w y y' hw hy h => ?_) hx
    rw [exec_products_unguarded hy (Request.unguarded_of_issues hun hw), h]
  · have hk : Table.Kept Bill.isShipped db.bills (runFrom db rs).bills := by
      refine Along.foldl_inv (fun x => Table.Kept Bill.isShipped db.bills x.bills)
        (fun x r hx hr => ?_) (.refl _ _) hc
      have hun := fun u hu => (Ability.can_bill_or_product (hr u hu)).1
      refine step_inv (fun y => Table.Kept Bill.isShipped db.bills y.bills)
        (fun w y y' hw hy h => h.trans ?_) hx
      exact exec_shipping_unguarded hy (Request.unguarded_of_issues hun hw)
    exact fun b hb b' hb' hid => hk.eq hb hb' hid

end Runs

/-- One room, one product and one unshipped bill; user 1 is staff, user 2
a customer. -/
def frontDesk : Db where
  users := Table.empty.insertAll
    [{ email := "staff@pet.vn", roles := ["staff"] }, { email := "ann@pet.vn", roles := ["user"] }]
  products := Table.empty.insertAll
    [{ name := some "Leash", price := some 120, quantity := some 3 }]
  rooms := Table.empty.insertAll
    [{ rType := some .vip, weight := some .lessThan5, price := some 300, quantity := some 2 }]
  bills := Table.empty.insertAll
    [{ orderId := some "Cash_1", amount := 120, status := .cash, orderInfo := none, userId := 2,
       firstName := none, lastName := none, address := none, phoneNumber := none }]

/-- Staff ship the bill and try to remove the room; the customer tries to
empty the shop; a stranger registers. -/
def frontDeskRun : List Request :=
  [.user (some 1) (.bills (.update 1 .turboStream)),
    .user (some 1) (.rooms (.destroy 1 .turboStream)),
    .user (some 2) (.products (.destroy 1 .turboStream)),
    .open (.signUp "eve@pet.vn" "secret1" none)]

theorem privileged_data_unchanged_frontDesk :
    Along (@step .caseInsensitive) Request.NotByAdmin frontDesk frontDeskRun ∧
    (@runFrom .caseInsensitive frontDesk frontDeskRun).rooms = frontDesk.rooms ∧
    (@runFrom .caseInsensitive frontDesk frontDeskRun).bills ≠ frontDesk.bills :=
  ⟨by decide,
    (@privileged_data_unchanged .caseInsensitive frontDesk frontDeskRun (by decide)).1,
    by decide⟩

end PetParadise
