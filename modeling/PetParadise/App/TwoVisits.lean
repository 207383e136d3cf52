/-
PetParadise.App.TwoVisits — a request of one user, run in two databases.

`OthersKept` and `OwnAlike` are what such a request is asked to do: leave
the carts, bills and lines of everybody else alone, and leave the user with
the same rows in both databases, where only the keys of rows it stored may
differ.

`Running` relates the databases of the two runs at any point between two
statements. It holds both, and what is needed to keep them: the user is
there, bills stored since the start are the user's, and a line's bill
exists, as the schema's foreign key demands. (A stray line that names the
NEXT bill would become the user's with the checkout.) The five writes of the
shop keep it, and the shop's queries give the same on both sides.
-/
import PetParadise.Store.References
import PetParadise.Store.FreshKeys
import PetParadise.Store.TwoRuns
import PetParadise.App.OwnRows

namespace PetParadise

open Store Store.Table PetParadise.Action

/-! ## What is compared -/

/-- The rows of everybody else are as they were. -/
structure OthersKept (u : User) (db₀ db : Db) : Prop where
  carts : ∀ v, v ≠ u.id → db.cartsOf v = db₀.cartsOf v
  bills : ∀ v, v ≠ u.id → db.billsOf v = db₀.billsOf v
  lines : ∀ v, v ≠ u.id → db.linesOf v = db₀.linesOf v

/-- A line without its key, and its bill as seen from `db`. -/
def BillProduct.seenFrom (db : Db) (l : BillProduct) : Key × BillProduct :=
  (Key.of db.bills.next l.billId, { l with id := 0, billId := 0 })

/-- The user's rows in `s`, seen from `db₁`, are those in `t`, seen from
`db₂`. -/
structure OwnAlike (u : User) (db₁ db₂ s t : Db) : Prop where
  carts : AlikeRows db₁.carts.next db₂.carts.next (·.userId == u.id) (·.userId == u.id)
    (Row.withId 0) (Row.withId 0) s.carts t.carts
  bills : AlikeRows db₁.bills.next db₂.bills.next (·.userId == u.id) (·.userId == u.id)
    (Row.withId 0) (Row.withId 0) s.bills t.bills
  lines : AlikeRows db₁.billProducts.next db₂.billProducts.next (s.lineOfUser u.id)
    (t.lineOfUser u.id) (BillProduct.seenFrom db₁) (BillProduct.seenFrom db₂)
    s.billProducts t.billProducts

/-- Every line belongs to a bill. -/
def Db.LinesBilled (db : Db) : Prop := Refers BillProduct.billId db.billProducts db.bills

instance (db : Db) : Decidable db.LinesBilled :=
  inferInstanceAs (Decidable (Refers _ _ _))

/-! ## One run -/

/-- A database that a request of `u` has made of `db₀`. -/
structure Visit (u : User) (db₀ db : Db) : Prop extends OthersKept u db₀ db where
  user : db.users.find? u.id = some u
  billed : db.LinesBilled
  newBills : ∀ b ∈ db.bills.rows, db₀.bills.next ≤ b.id → b.userId = u.id

/-- A stored line stays with the user it is with when a bill comes in. -/
theorem Db.LinesBilled.lineOfUser_insertBill {db : Db} (h : db.LinesBilled) (b : Bill) (v : Id)
    {l : BillProduct} (hl : l ∈ db.billProducts.rows) :
    { db with bills := db.bills.insert b }.lineOfUser v l = db.lineOfUser v l := by
  obtain ⟨b', hb', hid⟩ := h l hl
  have hfind : db.bills.find? l.billId = some b' := by
    rw [← hid]
    exact db.bills.find?_of_mem hb'
  rw [Db.lineOfUser, Db.lineOfUser, hfind, db.bills.find?_insert_of_find? b hfind]

namespace Visit

variable {u : User} {db₀ db : Db}

theorem start (huser : db.users.find? u.id = some u) (hbilled : db.LinesBilled) :
    Visit u db db where
  carts := fun _ _ => rfl
  bills := fun _ _ => rfl
  lines := fun _ _ => rfl
  user := huser
  billed := hbilled
  newBills := by
    intro b hb hle
    exact absurd (db.bills.fresh b hb) (Nat.not_lt_of_le hle)

theorem setCarts (h : Visit u db₀ db) {carts : Table Cart}
    (hcarts : ∀ v, v ≠ u.id → carts.rows.filter (·.userId == v) = db.cartsOf v) :
    Visit u db₀ { db with carts := carts } where
  carts := fun v hv => (hcarts v hv).trans (h.carts v hv)
  bills := h.bills
  lines := h.lines
  user := h.user
  billed := h.billed
  newBills := h.newBills

theorem insertCart (h : Visit u db₀ db) (p : Id) :
    Visit u db₀ { db with carts := db.carts.insert { userId := u.id, productId := p } } := by
  apply h.setCarts
  intro v hv
  simp [Db.cartsOf, List.filter_append, Row.withId, hv.symm]

/-- Deleting by a key that is nobody else's. -/
theorem deleteCart (h : Visit u db₀ db) {i : Id}
    (hi : ∀ c ∈ db₀.carts.rows, c.id = i → c.userId = u.id) :
    Visit u db₀ { db with carts := db.carts.delete (·.id == i) } := by
  apply h.setCarts
  intro v hv
  rw [rows_delete, List.filter_comm]
  apply List.filter_eq_self.mpr
  intro c hc
  have howner : c.userId = v := by simpa using (List.mem_filter.mp hc).2
  have hold : c ∈ db₀.carts.rows := by
    have hmem : c ∈ db.cartsOf v := hc
    rw [h.carts v hv] at hmem
    exact List.mem_of_mem_filter hmem
  have hne : c.id ≠ i := by
    intro hid
    exact hv (howner.symm.trans (hi c hold hid))
  simpa using hne

/-- The keys of the user's carts are nobody else's. -/
theorem own_of_mem_cartsOf (h : Visit u db₀ db) {c : Cart} (hc : c ∈ db.cartsOf u.id) :
    ∀ c₀ ∈ db₀.carts.rows, c₀.id = c.id → c₀.userId = u.id := by
  intro c₀ hc₀ hid
  by_contra hne
  have hmem : c₀ ∈ db.cartsOf c₀.userId := by
    rw [h.carts c₀.userId hne]
    exact List.mem_filter.mpr ⟨hc₀, by simp⟩
  obtain ⟨hrow, hown⟩ := List.mem_filter.mp hc
  have heq : c₀ = c := db.carts.eq_of_id_eq (List.mem_of_mem_filter hmem) hrow hid
  rw [heq] at hne
  exact hne (by simpa using hown)

theorem deactivateCarts (h : Visit u db₀ db) (p : Option Id) :
    Visit u db₀
      { db with
        carts := db.carts.modify (·.picked u.id p) Cart.deactivate Cart.deactivate_id } := by
  apply h.setCarts
  intro v hv
  apply filter_rows_modify
  intro c hc
  have howner : c.userId = u.id := by
    cases p with
    | none => simpa [Cart.picked] using hc
    | some p =>
      simp only [Cart.picked, Bool.and_eq_true, beq_iff_eq] at hc
      exact hc.1.1
  simp [Cart.deactivate, howner, hv.symm]

theorem insertBill (h : Visit u db₀ db) {b : Bill} (hb : b.userId = u.id) :
    Visit u db₀ { db with bills := db.bills.insert b } where
  carts := h.carts
  bills := by
    intro v hv
    rw [← h.bills v hv]
    simp [Db.billsOf, List.filter_append, Row.withId, hb, hv.symm]
  lines := by
    intro v hv
    rw [← h.lines v hv]
    apply List.filter_congr
    intro l hl
    exact h.billed.lineOfUser_insertBill b v hl
  user := h.user
  billed := Refers.target h.billed (Refers.keepsKeys_insert _ _)
  newBills := by
    intro b' hb' hle
    rcases List.mem_append.mp hb' with hold | hnew
    · exact h.newBills b' hold hle
    · rw [List.mem_singleton] at hnew
      rw [hnew]
      exact hb

theorem insertLine (h : Visit u db₀ db) {l : BillProduct} {b : Bill}
    (hfind : db.bills.find? l.billId = some b) (hb : b.userId = u.id) :
    Visit u db₀ { db with billProducts := db.billProducts.insert l } where
  carts := h.carts
  bills := h.bills
  lines := by
    intro v hv
    rw [← h.lines v hv]
    have hnot : db.lineOfUser v (Row.withId db.billProducts.next l) = false := by
      have hsame : db.bills.find? (Row.withId db.billProducts.next l).billId = some b := hfind
      simp [Db.lineOfUser, hsame, hb, hv.symm]
    have hfun : ({ db with billProducts := db.billProducts.insert l } : Db).lineOfUser v =
        db.lineOfUser v := rfl
    simp [Db.linesOf, hfun, List.filter_append, hnot]
  user := h.user
  billed := Refers.insert_source h.billed rfl (by rw [hfind]; rfl)
  newBills := h.newBills

end Visit

/-! ## Two runs -/

/-- The databases of two runs of one request, between two statements. -/
structure Running (u : User) (db₁ db₂ s t : Db) : Prop extends OwnAlike u db₁ db₂ s t where
  left : Visit u db₁ s
  right : Visit u db₂ t
  products : s.products.rows = t.products.rows

/-- The two bills are the same new one. -/
def SameNewBill (db₁ db₂ : Db) (i j : Id) : Prop :=
  db₁.bills.next ≤ i ∧ db₂.bills.next ≤ j ∧ Key.of db₁.bills.next i = Key.of db₂.bills.next j

/-- The two carts are the same, and nobody else's. -/
structure SameCart (u : User) (db₁ db₂ : Db) (c d : Cart) : Prop where
  key : Key.of db₁.carts.next c.id = Key.of db₂.carts.next d.id
  left : ∀ c₀ ∈ db₁.carts.rows, c₀.id = c.id → c₀.userId = u.id
  right : ∀ d₀ ∈ db₂.carts.rows, d₀.id = d.id → d₀.userId = u.id

theorem SameShop.running {u : User} {db₁ db₂ : Db} (h : SameShop u db₁ db₂)
    (h₁ : db₁.LinesBilled) (h₂ : db₂.LinesBilled) : Running u db₁ db₂ db₁ db₂ where
  carts := .start h.carts (fun _ _ => rfl)
  bills := .start h.bills (fun _ _ => rfl)
  lines := by
    apply AlikeRows.start h.lines
    intro l hl
    -- a stored line names an old bill on both sides
    have hlt : ∀ db : Db, db.LinesBilled → l ∈ db.linesOf u.id → l.billId < db.bills.next := by
      intro db hdb hmem
      obtain ⟨b, hb, hid⟩ := hdb l (List.mem_of_mem_filter hmem)
      rw [← hid]
      exact db.bills.fresh b hb
    have hmem₂ : l ∈ db₂.linesOf u.id := h.lines ▸ hl
    rw [BillProduct.seenFrom, BillProduct.seenFrom, Key.of_of_lt (hlt db₁ h₁ hl),
      Key.of_of_lt (hlt db₂ h₂ hmem₂)]
  left := .start h.user₁ h₁
  right := .start h.user₂ h₂
  products := h.products

namespace Running

variable {u : User} {db₁ db₂ s t : Db}

/-! ### What the queries give -/

theorem find_product (h : Running u db₁ db₂ s t) (i : Id) :
    s.products.find? i = t.products.find? i := by
  rw [Table.find?, Table.find?, h.products]

theorem productsIn (h : Running u db₁ db₂ s t) (ids : List Id) :
    s.productsIn ids = t.productsIn ids := by
  rw [Db.productsIn, Db.productsIn, h.products]

/-- The carts of the user that are picked without regard to their keys are
the same up to these. -/
theorem pickedCarts (h : Running u db₁ db₂ s t) {w : Cart → Bool}
    (hw : ∀ c, w (Row.withId 0 c) = w c) :
    ((s.cartsOf u.id).filter w).map (fun c => (Key.of db₁.carts.next c.id, Row.withId 0 c)) =
      ((t.cartsOf u.id).filter w).map (fun c => (Key.of db₂.carts.next c.id, Row.withId 0 c)) :=
  h.carts.filter hw hw

theorem activeCarts (h : Running u db₁ db₂ s t) :
    (s.activeCarts u.id).map (fun c => (Key.of db₁.carts.next c.id, Row.withId 0 c)) =
      (t.activeCarts u.id).map (fun c => (Key.of db₂.carts.next c.id, Row.withId 0 c)) := by
  rw [Db.activeCarts_eq, Db.activeCarts_eq]
  exact h.pickedCarts (fun _ => rfl)

theorem activeCartsOf (h : Running u db₁ db₂ s t) (i : Id) :
    (s.activeCartsOf u.id i).map (fun c => (Key.of db₁.carts.next c.id, Row.withId 0 c)) =
      (t.activeCartsOf u.id i).map (fun c => (Key.of db₂.carts.next c.id, Row.withId 0 c)) := by
  rw [Db.activeCartsOf, Db.activeCartsOf, Db.activeCarts_eq, Db.activeCarts_eq,
    List.filter_filter, List.filter_filter]
  exact h.pickedCarts (fun _ => rfl)

theorem cartIds (h : Running u db₁ db₂ s t) : s.cartIds u.id = t.cartIds u.id := by
  have hids := congrArg (List.map fun x => x.2.productId) h.activeCarts
  rw [List.map_map, List.map_map] at hids
  exact hids

theorem count (h : Running u db₁ db₂ s t) :
    (s.activeCarts u.id).length = (t.activeCarts u.id).length := by
  simpa using congrArg List.length h.activeCarts

theorem countOf (h : Running u db₁ db₂ s t) (i : Id) :
    (s.activeCartsOf u.id i).length = (t.activeCartsOf u.id i).length := by
  simpa using congrArg List.length (h.activeCartsOf i)

theorem groupedCount (h : Running u db₁ db₂ s t) : s.groupedCount u.id = t.groupedCount u.id := by
  have hids := h.cartIds
  rw [Db.cartIds, Db.cartIds] at hids
  rw [Db.groupedCount, Db.groupedCount, hids]

/-- The loop of `total` looks at the product of a row and at nothing else
of it. -/
theorem addPrices (h : Running u db₁ db₂ s t) :
    s.addPrices 0 (s.activeCarts u.id) = t.addPrices 0 (t.activeCarts u.id) := by
  have hloop : ∀ (cs ds : List Cart) (n : Int), cs.map (·.productId) = ds.map (·.productId) →
      s.addPrices n cs = t.addPrices n ds := by
    intro cs
    induction cs with
    | nil =>
      intro ds n hds
      have hnil : ds = [] := by simpa using hds.symm
      rw [hnil]
      rfl
    | cons c cs ih =>
      intro ds n hds
      cases ds with
      | nil => simp at hds
      | cons d ds =>
        simp only [List.map_cons, List.cons.injEq] at hds
        have hprice : s.rowPrice c = t.rowPrice d := by
          rw [Db.rowPrice, Db.rowPrice, hds.1, h.find_product]
        rw [Db.addPrices, Db.addPrices, hprice]
        cases t.rowPrice d with
        | error e => rfl
        | ok m => exact ih ds (n + m) hds.2
  exact hloop _ _ 0 h.cartIds

theorem head (h : Running u db₁ db₂ s t) (i : Id) :
    Option.Rel (SameCart u db₁ db₂) (s.activeCartsOf u.id i).head?
      (t.activeCartsOf u.id i).head? := by
  have hown : ∀ {db : Db} {c : Cart}, (db.activeCartsOf u.id i).head? = some c →
      c ∈ db.cartsOf u.id := by
    intro db c hc
    have hmem : c ∈ db.activeCarts u.id := List.mem_of_mem_filter (List.mem_of_head? hc)
    rw [Db.activeCarts_eq] at hmem
    exact List.mem_of_mem_filter hmem
  have hhead := congrArg List.head? (h.activeCartsOf i)
  rw [List.head?_map, List.head?_map] at hhead
  cases hs : (s.activeCartsOf u.id i).head? with
  | none =>
    cases ht : (t.activeCartsOf u.id i).head? with
    | none => exact .none
    | some d => simp [hs, ht] at hhead
  | some c =>
    cases ht : (t.activeCartsOf u.id i).head? with
    | none => simp [hs, ht] at hhead
    | some d =>
      rw [hs, ht] at hhead
      have hkey : Key.of db₁.carts.next c.id = Key.of db₂.carts.next d.id :=
        congrArg Prod.fst (Option.some.inj hhead)
      exact .some ⟨hkey, h.left.own_of_mem_cartsOf (hown hs), h.right.own_of_mem_cartsOf (hown ht)⟩

/-! ### What the writes keep -/

/-- A query, or the request to the gateway. -/
theorem reads [Env] {w : Stmt} (hw : ∀ db, exec w db = .ok db) :
    Prog.Respects exec (Running u db₁ db₂) w w := by
  intro s t h
  rw [hw, hw]
  exact .ok h

theorem insertCart [Env] (p : Id) :
    Prog.Respects exec (Running u db₁ db₂) (.insertCart u.id p) (.insertCart u.id p) := by
  intro s t h
  simp only [exec, h.left.user, h.right.user, ← h.find_product]
  split
  · exact .ok
      { toOwnAlike := ⟨h.carts.insert (by simp [Row.withId]) (by simp [Row.withId]) rfl,
          h.bills, h.lines⟩
        left := h.left.insertCart p
        right := h.right.insertCart p
        products := h.products }
  · exact .error _

theorem deleteCart [Env] {c d : Cart} (hcd : SameCart u db₁ db₂ c d) :
    Prog.Respects exec (Running u db₁ db₂) (.deleteCart c.id) (.deleteCart d.id) := by
  intro s t h
  exact .ok
    { toOwnAlike := ⟨h.carts.delete hcd.key, h.bills, h.lines⟩
      left := h.left.deleteCart hcd.left
      right := h.right.deleteCart hcd.right
      products := h.products }

theorem deactivateCarts [Env] (p : Option Id) :
    Prog.Respects exec (Running u db₁ db₂) (.deactivateCarts u.id p)
      (.deactivateCarts u.id p) := by
  intro s t h
  let close : Cart → Cart := fun c => if c.picked u.id p then c.deactivate else c
  have hseen : ∀ c : Cart, Row.withId 0 (close c) = close (Row.withId 0 c) := by
    intro c
    have hpicked : (Row.withId 0 c : Cart).picked u.id p = c.picked u.id p := by
      cases p <;> rfl
    simp only [close, hpicked]
    split <;> rfl
  exact .ok
    { toOwnAlike := ⟨h.carts.modify Cart.deactivate_id Cart.deactivate_id (fun _ => rfl)
          (fun _ => rfl) close hseen hseen,
        h.bills, h.lines⟩
      left := h.left.deactivateCarts p
      right := h.right.deactivateCarts p
      products := h.products }

theorem insertBill (h : Running u db₁ db₂ s t) {b : Bill} (hb : b.userId = u.id) :
    Running u db₁ db₂ { s with bills := s.bills.insert b }
      { t with bills := t.bills.insert b } where
  carts := h.carts
  bills := h.bills.insert (by simp [Row.withId, hb]) (by simp [Row.withId, hb]) rfl
  lines := h.lines.congr (fun _ hl => h.left.billed.lineOfUser_insertBill b u.id hl)
    (fun _ hl => h.right.billed.lineOfUser_insertBill b u.id hl)
  left := h.left.insertBill hb
  right := h.right.insertBill hb
  products := h.products

theorem createBill [Env] {b : Bill} (hb : b.userId = u.id) :
    Prog.Alike exec (Running u db₁ db₂) (Option.Rel (SameNewBill db₁ db₂)) (createBill b)
      (createBill b) := by
  apply Prog.alike_stmt
  · intro s t h
    simp only [exec, hb, h.left.user, h.right.user, Option.isNone_some, Bool.false_eq_true,
      if_false]
    split
    · split
      · exact .ok (h.insertBill hb)
      · exact .error _
    · exact .error _
  · intro s t h
    apply Prog.alike_ret
    rw [hb, h.left.user, h.right.user]
    exact .some ⟨h.bills.le_left, h.bills.le_right, h.bills.next⟩

theorem symm (h : Running u db₁ db₂ s t) : Running u db₂ db₁ t s where
  carts := h.carts.symm
  bills := h.bills.symm
  lines := h.lines.symm
  left := h.right
  right := h.left
  products := h.products.symm

/-- A new bill that the first run finds is the user's, and the second run
finds it as well. -/
theorem newBill_right (h : Running u db₁ db₂ s t) {i j : Id} (hij : SameNewBill db₁ db₂ i j)
    {b : Bill} (hs : s.bills.find? i = some b) :
    b.userId = u.id ∧ ∃ b', t.bills.find? j = some b' := by
  obtain ⟨hi, hj, hkey⟩ := hij
  have hid : b.id = i := s.bills.id_of_find? hs
  have hrow := s.bills.mem_of_find? hs
  have hown : b.userId = u.id := h.left.newBills b hrow (hid ▸ hi)
  obtain ⟨b', hrow', -, hkey', -⟩ := h.bills.exists_right hrow (by simp [hown])
  have hsame : Key.of db₂.bills.next b'.id = Key.of db₂.bills.next j := by
    rw [← hkey, ← hid]
    exact hkey'
  exact ⟨hown, b', t.bills.find?_eq_some_iff.mpr ⟨hrow', Key.of_inj.mp hsame⟩⟩

theorem find_newBill (h : Running u db₁ db₂ s t) {i j : Id} (hij : SameNewBill db₁ db₂ i j) :
    (s.bills.find? i = none ∧ t.bills.find? j = none) ∨
      ∃ b b', s.bills.find? i = some b ∧ b.userId = u.id ∧
        t.bills.find? j = some b' ∧ b'.userId = u.id := by
  have hji : SameNewBill db₂ db₁ j i := ⟨hij.2.1, hij.1, hij.2.2.symm⟩
  cases hs : s.bills.find? i with
  | some b =>
    obtain ⟨hown, b', ht⟩ := h.newBill_right hij hs
    exact .inr ⟨b, b', rfl, hown, ht, (h.symm.newBill_right hji ht).1⟩
  | none =>
    cases ht : t.bills.find? j with
    | none => exact .inl ⟨rfl, rfl⟩
    | some b' =>
      obtain ⟨-, b, hs'⟩ := h.symm.newBill_right hji ht
      rw [hs] at hs'
      cases hs'

/-- The same line on the same new bill. -/
theorem storeLine (h : Running u db₁ db₂ s t) {i j : Id} (hij : SameNewBill db₁ db₂ i j)
    {b b' : Bill} (hs : s.bills.find? i = some b) (hb : b.userId = u.id)
    (ht : t.bills.find? j = some b') (hb' : b'.userId = u.id) (product : Product) (price : Int)
    (count : Nat) :
    Running u db₁ db₂
      { s with billProducts := s.billProducts.insert (lineOf i product price count) }
      { t with billProducts := t.billProducts.insert (lineOf j product price count) } where
  carts := h.carts
  bills := h.bills
  lines := by
    have hown : ∀ {db : Db} {k n : Id} {b : Bill}, db.bills.find? k = some b →
        b.userId = u.id →
        db.lineOfUser u.id (Row.withId n (lineOf k product price count)) = true := by
      intro db k n b hfind hb
      have hsame : db.bills.find?
          (Row.withId n (lineOf k product price count)).billId = some b := hfind
      simp [Db.lineOfUser, hsame, hb]
    have hseen : ∀ n m : Id,
        BillProduct.seenFrom db₁ (Row.withId n (lineOf i product price count)) =
          BillProduct.seenFrom db₂ (Row.withId m (lineOf j product price count)) := by
      intro n m
      simp [BillProduct.seenFrom, Row.withId, lineOf, hij.2.2]
    exact h.lines.insert (hown hs hb) (hown ht hb') (hseen _ _)
  left := h.left.insertLine hs hb
  right := h.right.insertLine ht hb'
  products := h.products

theorem insertLine [Env] {i j : Id} (hij : SameNewBill db₁ db₂ i j) (product : Product)
    (price : Int) (count : Nat) :
    Prog.Respects exec (Running u db₁ db₂) (.insertBillProduct (lineOf i product price count))
      (.insertBillProduct (lineOf j product price count)) := by
  intro s t h
  simp only [exec, lineOf]
  rcases h.find_newBill hij with ⟨hs, ht⟩ | ⟨b, b', hs, hb, ht, hb'⟩
  · simp only [hs, ht, Option.isNone_none, Bool.true_or, if_true]
    exact .ok h
  · simp only [hs, ht, Option.isNone_some, Bool.false_or, ← h.find_product]
    by_cases hproduct : (s.products.find? product.id).isNone = true
    · rw [if_pos hproduct, if_pos hproduct]
      exact .ok h
    · rw [if_neg hproduct, if_neg hproduct]
      by_cases hfits : fitsDecimal (price * count) = true
      · simp only [hfits, if_true]
        exact .ok (h.storeLine hij hs hb ht hb' product price count)
      · simp only [hfits, Bool.false_eq_true, if_false]
        exact .error _

end Running

end PetParadise
