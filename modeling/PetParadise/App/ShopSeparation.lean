/-
PetParadise.App.ShopSeparation — customers keep out of each other's way,
statement by statement.

`ShopAlike u k s t` compares two databases as far as the shop of user `u`
is concerned: the same account and products, and the same carts, bills and
lines of `u`, where `k` says which keys stand for the same row. A statement
`Minds` a user's business if the rows it touches are that user's, and
`SparesShop` if it touches no table of the shop at all.

`shopSeparation` is the `Separation` of these: neither kind of statement
disturbs another user. The second half says what `u`'s own statements do
when they are run on both sides.
-/
import PetParadise.Store.Matching
import PetParadise.Store.Purge
import PetParadise.App.TwoVisits

namespace PetParadise

open Store Store.Table

/-! ## Alike databases -/

/-- The keys that stand for the same row of a user. -/
structure ShopKeys where
  carts : Matching
  bills : Matching
  lines : Matching

instance : Preorder ShopKeys where
  le k k' := k.carts ⊆ k'.carts ∧ k.bills ⊆ k'.bills ∧ k.lines ⊆ k'.lines
  le_refl _ := ⟨fun _ h => h, fun _ h => h, fun _ h => h⟩
  le_trans _ _ _ h h' :=
    ⟨fun _ hx => h'.1 (h.1 hx), fun _ hx => h'.2.1 (h.2.1 hx), fun _ hx => h'.2.2 (h.2.2 hx)⟩

/-- The same line of the same bill, keys apart. -/
def BillProduct.SameLine (bills : Matching) (l m : BillProduct) : Prop :=
  (l.billId, m.billId) ∈ bills ∧
    { l with id := 0, billId := 0 } = ({ m with id := 0, billId := 0 } : BillProduct)

structure ShopAlike (u : Id) (k : ShopKeys) (s t : Db) : Prop where
  user : s.users.find? u = t.users.find? u
  products : s.products.rows = t.products.rows
  carts : MatchedRows k.carts (·.userId == u) (·.userId == u)
    (fun c d => Row.withId 0 c = Row.withId 0 d) s.carts t.carts
  bills : MatchedRows k.bills (·.userId == u) (·.userId == u)
    (fun b c => Row.withId 0 b = Row.withId 0 c) s.bills t.bills
  lines : MatchedRows k.lines (s.lineOfUser u) (t.lineOfUser u) (BillProduct.SameLine k.bills)
    s.billProducts t.billProducts
  billed_left : s.LinesBilled
  billed_right : t.LinesBilled

/-- A database is like itself. -/
theorem ShopAlike.start {db : Db} (hbilled : db.LinesBilled) (u : Id) :
    ∃ k, ShopAlike u k db db := by
  refine ⟨⟨_, _, _⟩, rfl, rfl, .start _ _ (fun _ _ _ => rfl), .start _ _ (fun _ _ _ => rfl),
    .start _ _ fun l _ hown => ⟨?_, rfl⟩, hbilled, hbilled⟩
  obtain ⟨b, hb, hbu⟩ := (Option.any_eq_true _ _).mp hown
  exact ⟨rfl, b, db.bills.mem_of_find? hb, hbu, db.bills.id_of_find? hb⟩

/-- What does not depend on the key. -/
theorem Cart.same_of_withId {c d : Cart} (h : Row.withId 0 c = Row.withId 0 d) :
    c.productId = d.productId ∧ c.status = d.status := by
  have hall := Cart.mk.inj h
  exact ⟨hall.2.2.1, hall.2.2.2⟩

namespace ShopAlike

variable {u : Id} {k : ShopKeys} {s t : Db}

/-! ### What the queries give -/

theorem find_product (h : ShopAlike u k s t) (i : Id) :
    s.products.find? i = t.products.find? i := by
  rw [Table.find?, Table.find?, h.products]

theorem productsIn (h : ShopAlike u k s t) (ids : List Id) :
    s.productsIn ids = t.productsIn ids := by
  rw [Db.productsIn, Db.productsIn, h.products]

theorem activeCartsOf (h : ShopAlike u k s t) (i : Id) :
    List.Forall₂ (fun c d => (c.id, d.id) ∈ k.carts ∧ Row.withId 0 c = Row.withId 0 d)
      (s.activeCartsOf u i) (t.activeCartsOf u i) := by
  rw [Db.activeCartsOf, Db.activeCartsOf, Db.activeCarts_eq, Db.activeCarts_eq,
    List.filter_filter, List.filter_filter]
  apply h.carts.filter
  intro c d _ hcd
  obtain ⟨hproduct, hstatus⟩ := Cart.same_of_withId hcd
  rw [hproduct, hstatus]

theorem cartIds (h : ShopAlike u k s t) : s.cartIds u = t.cartIds u := by
  have hrows : List.Forall₂ (fun c d : Cart => c.productId = d.productId)
      (s.activeCarts u) (t.activeCarts u) := by
    rw [Db.activeCarts_eq, Db.activeCarts_eq]
    refine (h.carts.filter fun c d _ hcd => ?_).imp fun c d hcd => (Cart.same_of_withId hcd.2).1
    rw [(Cart.same_of_withId hcd).2]
  have hmap := List.rel_map (R := fun c d : Cart => c.productId = d.productId) (P := Eq)
    (fun _ _ hcd => hcd) hrows
  rwa [List.forall₂_eq_eq_eq] at hmap

theorem count (h : ShopAlike u k s t) : (s.activeCarts u).length = (t.activeCarts u).length := by
  simpa [Db.cartIds] using congrArg List.length h.cartIds

theorem countOf (h : ShopAlike u k s t) (i : Id) :
    (s.activeCartsOf u i).length = (t.activeCartsOf u i).length :=
  (h.activeCartsOf i).length_eq

theorem groupedCount (h : ShopAlike u k s t) : s.groupedCount u = t.groupedCount u := by
  have hids := h.cartIds
  rw [Db.cartIds, Db.cartIds] at hids
  rw [Db.groupedCount, Db.groupedCount, hids]

/-- The first row of a product, or none on either side. -/
theorem head (h : ShopAlike u k s t) (i : Id) :
    Option.Rel (fun c d => (c.id, d.id) ∈ k.carts) (s.activeCartsOf u i).head?
      (t.activeCartsOf u i).head? := by
  have hrows := h.activeCartsOf i
  revert hrows
  generalize s.activeCartsOf u i = cs
  generalize t.activeCartsOf u i = ds
  intro hrows
  cases hrows with
  | nil => exact .none
  | cons hcd _ => exact .some hcd.1

end ShopAlike

/-- The loop of `total` looks at the products of the rows and at nothing
else of them. -/
theorem Db.addPrices_congr {s t : Db} (hproducts : ∀ i, s.products.find? i = t.products.find? i)
    {cs ds : List Cart} (hids : cs.map (·.productId) = ds.map (·.productId)) (n : Int) :
    s.addPrices n cs = t.addPrices n ds := by
  induction cs generalizing ds n with
  | nil =>
    have hnil : ds = [] := by simpa using hids.symm
    rw [hnil]
    rfl
  | cons c cs ih =>
    cases ds with
    | nil => simp at hids
    | cons d ds =>
      simp only [List.map_cons, List.cons.injEq] at hids
      have hprice : s.rowPrice c = t.rowPrice d := by
        rw [Db.rowPrice, Db.rowPrice, hids.1, hproducts]
      rw [Db.addPrices, Db.addPrices, hprice]
      cases t.rowPrice d with
      | error e => rfl
      | ok m => exact ih hids.2 (n + m)

theorem ShopAlike.addPrices {u : Id} {k : ShopKeys} {s t : Db} (h : ShopAlike u k s t) :
    s.addPrices 0 (s.activeCarts u) = t.addPrices 0 (t.activeCarts u) :=
  Db.addPrices_congr h.find_product h.cartIds 0

/-! ## Whose business a statement is -/

/-- The rows the statement touches in `s` are `v`'s. -/
def Stmt.Minds (v : Id) (s : Db) : Stmt → Prop
  | .insertCart u _ => u = v
  | .deleteCart i => ∀ c ∈ s.carts.rows, c.id = i → c.userId = v
  | .deactivateCarts u _ => u = v
  | .insertBill b => b.userId = v
  | .insertBillProduct l => ∀ b, s.bills.find? l.billId = some b → b.userId = v
  | w => w.Reads

/-- The statement writes to none of the shop's tables. -/
def Stmt.SparesShop (w : Stmt) : Prop :=
  w.writes .users = false ∧ w.writes .products = false ∧ w.writes .carts = false ∧
    w.writes .bills = false ∧ w.writes .billProducts = false

namespace ShopAlike

variable {u v : Id} {k : ShopKeys} {s t s' : Db}

/-! ### Statements of somebody else -/

theorem setCarts_left (h : ShopAlike u k s t) {carts : Table Cart}
    (hcarts : MatchedRows k.carts (·.userId == u) (·.userId == u)
      (fun c d => Row.withId 0 c = Row.withId 0 d) carts t.carts) :
    ShopAlike u k { s with carts := carts } t where
  user := h.user
  products := h.products
  carts := hcarts
  bills := h.bills
  lines := h.lines
  billed_left := h.billed_left
  billed_right := h.billed_right

theorem insertBill_left (h : ShopAlike u k s t) {b : Bill} (hb : b.userId ≠ u) :
    ShopAlike u k { s with bills := s.bills.insert b } t where
  user := h.user
  products := h.products
  carts := h.carts
  bills := h.bills.insert_left (by simp [Row.withId, hb])
  lines := h.lines.congr (fun _ hl => h.billed_left.lineOfUser_insertBill b u hl) (fun _ _ => rfl)
  billed_left := Refers.target h.billed_left (Refers.keepsKeys_insert _ _)
  billed_right := h.billed_right

theorem insertLine_left (h : ShopAlike u k s t) {l : BillProduct} {b : Bill}
    (hfind : s.bills.find? l.billId = some b) (hb : b.userId ≠ u) :
    ShopAlike u k { s with billProducts := s.billProducts.insert l } t where
  user := h.user
  products := h.products
  carts := h.carts
  bills := h.bills
  lines := by
    apply h.lines.insert_left
    have hsame : s.bills.find? (Row.withId s.billProducts.next l).billId = some b := hfind
    simp [Db.lineOfUser, hsame, hb]
  billed_left := Refers.insert_source h.billed_left rfl (by rw [hfind]; rfl)
  billed_right := h.billed_right

/-- Somebody else's business. -/
theorem minds_keeps [Env] {w : Stmt} (huv : u ≠ v) (h : ShopAlike u k s t) (hw : w.Minds v s)
    (hexec : exec w s = .ok s') : ShopAlike u k s' t := by
  cases w with
  | insertCart i p =>
    obtain ⟨-, -, rfl⟩ := exec_insertCart_ok hexec
    have hi : i = v := hw
    exact h.setCarts_left (h.carts.insert_left (by simp [Row.withId, hi, huv.symm]))
  | deleteCart i =>
    cases hexec
    refine h.setCarts_left (h.carts.delete_left fun c hc hown => ?_)
    have hne : c.id ≠ i := by
      intro hid
      exact huv ((beq_iff_eq.mp hown).symm.trans (hw c hc hid))
    simpa using hne
  | deactivateCarts i p =>
    cases hexec
    have hi : i = v := hw
    refine h.setCarts_left (h.carts.modify_left _ fun c hc => ?_)
    have howner : c.userId = v := by
      cases p with
      | none => simpa [Cart.picked, hi] using hc
      | some p =>
        simp only [Cart.picked, Bool.and_eq_true, beq_iff_eq, hi] at hc
        exact hc.1.1
    simp [Cart.deactivate, howner, huv.symm]
  | insertBill b =>
    have hb : b.userId = v := hw
    obtain rfl | ⟨-, rfl⟩ := exec_insertBill_cases hexec
    · exact h
    · exact h.insertBill_left (fun hu => huv (hu.symm.trans hb))
  | insertBillProduct l =>
    obtain rfl | ⟨hfound, -, rfl⟩ := exec_insertBillProduct_cases hexec
    · exact h
    · obtain ⟨b, hb⟩ := Option.isSome_iff_exists.mp hfound
      exact h.insertLine_left hb (fun hu => huv (hu.symm.trans (hw b hb)))
  | select q => cases hexec; exact h
  | post body => cases hexec; exact h
  | _ => cases hw

/-- Nobody's business. -/
theorem spares_keeps [Env] {w : Stmt} (h : ShopAlike u k s t) (hw : w.SparesShop)
    (hexec : exec w s = .ok s') : ShopAlike u k s' t := by
  obtain ⟨husers, hproducts, hcarts, hbills, hlines⟩ := hw
  have husers : s'.users = s.users := exec_frame hexec husers
  have hproducts : s'.products = s.products := exec_frame hexec hproducts
  have hcarts : s'.carts = s.carts := exec_frame hexec hcarts
  have hbills : s'.bills = s.bills := exec_frame hexec hbills
  have hlines : s'.billProducts = s.billProducts := exec_frame hexec hlines
  have howner : s'.lineOfUser u = s.lineOfUser u := by
    funext l
    rw [Db.lineOfUser, Db.lineOfUser, hbills]
  refine ⟨?_, ?_, ?_, ?_, ?_, ?_, h.billed_right⟩
  · rw [husers]; exact h.user
  · rw [hproducts]; exact h.products
  · rw [hcarts]; exact h.carts
  · rw [hbills]; exact h.bills
  · rw [hlines, howner]; exact h.lines
  · rw [Db.LinesBilled, hlines, hbills]; exact h.billed_left

end ShopAlike

/-- The customers of the shop, each with their own rows. -/
def shopSeparation [Env] : Separation Db Stmt Failure Id ShopKeys where
  exec := exec
  alike := ShopAlike
  minds := fun v s w => w.Minds v s
  spares := Stmt.SparesShop
  minds_keeps := ShopAlike.minds_keeps
  spares_keeps := ShopAlike.spares_keeps

/-! ## The user's own statements -/

namespace ShopAlike

variable {u : Id} {k : ShopKeys} {s t : Db}

theorem insertCart [Env] (h : ShopAlike u k s t) (p : Id) :
    Outcome (fun s' t' => ∃ k', k ≤ k' ∧ ShopAlike u k' s' t') (exec (.insertCart u p) s)
      (exec (.insertCart u p) t) := by
  simp only [exec, h.user, ← h.find_product]
  split
  · refine .ok ⟨{ k with carts := insert (s.carts.next, t.carts.next) k.carts }, ?_, ?_⟩
    · exact ⟨Set.subset_insert _ _, fun _ hx => hx, fun _ hx => hx⟩
    · exact
        { user := h.user
          products := h.products
          carts := h.carts.insert (by simp [Row.withId]) (by simp [Row.withId]) rfl
          bills := h.bills
          lines := h.lines
          billed_left := h.billed_left
          billed_right := h.billed_right }
  · exact .error _

theorem deleteCart (h : ShopAlike u k s t) {i j : Id} (hij : (i, j) ∈ k.carts) :
    ShopAlike u k { s with carts := s.carts.delete (·.id == i) }
      { t with carts := t.carts.delete (·.id == j) } where
  user := h.user
  products := h.products
  carts := h.carts.delete hij
  bills := h.bills
  lines := h.lines
  billed_left := h.billed_left
  billed_right := h.billed_right

theorem deactivateCarts (h : ShopAlike u k s t) (p : Option Id) :
    ShopAlike u k
      { s with carts := s.carts.modify (·.picked u p) Cart.deactivate Cart.deactivate_id }
      { t with carts := t.carts.modify (·.picked u p) Cart.deactivate Cart.deactivate_id } where
  user := h.user
  products := h.products
  carts := by
    refine h.carts.modify Cart.deactivate_id Cart.deactivate_id (fun _ => rfl) (fun _ => rfl)
      fun c d hcd => ?_
    -- whether a row is picked does not depend on its key
    have hpicked : ∀ c : Cart, (Row.withId 0 c : Cart).picked u p = c.picked u p := by
      intro c
      cases p <;> rfl
    have hsame : c.picked u p = d.picked u p := by
      rw [← hpicked c, ← hpicked d, hcd]
    rw [hsame]
    split
    · exact congrArg Cart.deactivate hcd
    · exact hcd
  bills := h.bills
  lines := h.lines
  billed_left := h.billed_left
  billed_right := h.billed_right

theorem insertBill (h : ShopAlike u k s t) {b : Bill} (hb : b.userId = u) :
    ShopAlike u { k with bills := insert (s.bills.next, t.bills.next) k.bills }
      { s with bills := s.bills.insert b } { t with bills := t.bills.insert b } where
  user := h.user
  products := h.products
  carts := h.carts
  bills := h.bills.insert (by simp [Row.withId, hb]) (by simp [Row.withId, hb]) rfl
  lines := by
    refine (h.lines.congr (fun _ hl => h.billed_left.lineOfUser_insertBill b u hl)
      (fun _ hl => h.billed_right.lineOfUser_insertBill b u hl)).mono ?_
    intro l m hlm
    exact ⟨Set.mem_insert_of_mem _ hlm.1, hlm.2⟩
  billed_left := Refers.target h.billed_left (Refers.keepsKeys_insert _ _)
  billed_right := Refers.target h.billed_right (Refers.keepsKeys_insert _ _)

/-- The same line on matched bills. -/
theorem insertLine (h : ShopAlike u k s t) {i j : Id} (hij : (i, j) ∈ k.bills) {b b' : Bill}
    (hs : s.bills.find? i = some b) (hb : b.userId = u) (ht : t.bills.find? j = some b')
    (hb' : b'.userId = u) (product : Product) (price : Int) (count : Nat) :
    ShopAlike u
      { k with lines := insert (s.billProducts.next, t.billProducts.next) k.lines }
      { s with billProducts := s.billProducts.insert (lineOf i product price count) }
      { t with billProducts := t.billProducts.insert (lineOf j product price count) } where
  user := h.user
  products := h.products
  carts := h.carts
  bills := h.bills
  lines := by
    have hown : ∀ {db : Db} {k n : Id} {b : Bill}, db.bills.find? k = some b → b.userId = u →
        db.lineOfUser u (Row.withId n (lineOf k product price count)) = true := by
      intro db k n b hfind hb
      have hsame : db.bills.find?
          (Row.withId n (lineOf k product price count)).billId = some b := hfind
      simp [Db.lineOfUser, hsame, hb]
    exact h.lines.insert (hown hs hb) (hown ht hb') ⟨hij, rfl⟩
  billed_left := Refers.insert_source h.billed_left rfl (by simp [lineOf, hs])
  billed_right := Refers.insert_source h.billed_right rfl (by simp [lineOf, ht])

theorem addLine [Env] (h : ShopAlike u k s t) {i j : Id} (hij : (i, j) ∈ k.bills)
    (product : Product) (price : Int) (count : Nat) :
    Outcome (fun s' t' => ∃ k', k ≤ k' ∧ ShopAlike u k' s' t')
      (exec (.insertBillProduct (lineOf i product price count)) s)
      (exec (.insertBillProduct (lineOf j product price count)) t) := by
  simp only [exec, lineOf]
  rcases h.bills.find? hij with ⟨hs, ht⟩ | ⟨b, b', hs, ht, hb, hb', -⟩
  · simp only [hs, ht, Option.isNone_none, Bool.true_or, if_true]
    exact .ok ⟨k, le_rfl, h⟩
  · simp only [hs, ht, Option.isNone_some, Bool.false_or, ← h.find_product]
    by_cases hproduct : (s.products.find? product.id).isNone = true
    · rw [if_pos hproduct, if_pos hproduct]
      exact .ok ⟨k, le_rfl, h⟩
    · rw [if_neg hproduct, if_neg hproduct]
      by_cases hfits : fitsDecimal (price * count) = true
      · simp only [hfits, if_true]
        refine .ok ⟨_, ?_, h.insertLine hij hs (beq_iff_eq.mp hb) ht (beq_iff_eq.mp hb') product
          price count⟩
        exact ⟨fun _ hx => hx, fun _ hx => hx, Set.subset_insert _ _⟩
      · simp only [hfits, Bool.false_eq_true, if_false]
        exact .error _

end ShopAlike

end PetParadise
