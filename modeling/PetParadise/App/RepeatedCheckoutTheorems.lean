/-
PetParadise.App.RepeatedCheckoutTheorems — the same checkout a second time.

The cart page offers the checkout only for a cart with something in it; the
action itself does not look. After a checkout the cart is empty, the total
of an empty cart is 0, and so the same request again stores a bill of 0
without lines. When a line was refused the cart is as full as before, and
the second request stores the same bill once more.

  §1 Once more  — `cash_again_iff`: the second request changes nothing
                  exactly when the first one did not store its bill.
  §2 New bills  — `created_with_lines_iff`: a request creates only bills with
                  lines exactly when it is no checkout of an empty cart.
  §3 Whole runs — `repeated_checkout_iff` puts the two together.
-/
import PetParadise.App.HistoryTheorems

namespace PetParadise

open Store PetParadise.Action

/-! ## §1 Once more -/

/-- Rows and prices decide whether a checkout stores its bill. -/
theorem Db.amountFits_congr {db db' : Db} (hcarts : db'.carts = db.carts)
    (hproducts : db'.products = db.products) (u : Id) : db'.amountFits u = db.amountFits u := by
  have hids : db'.cartIds u = db.cartIds u := by
    simp only [Db.cartIds, Db.activeCarts, hcarts]
  have hprice : db'.priceOf = db.priceOf := by
    funext i
    simp only [Db.priceOf, hproducts]
  rw [Bool.eq_iff_iff, Db.amountFits_iff, Db.amountFits_iff, Db.CartPriced, Db.CartPriced,
    Db.cartValue, Db.cartValue, hids, hprice, hproducts]

/-- An empty cart is a priced one, of value 0. -/
theorem Db.amountFits_of_empty {db : Db} {u : Id} (h : db.activeCarts u = []) :
    db.amountFits u = true := by
  have hids : db.cartIds u = [] := by rw [Db.cartIds, h]; rfl
  rw [Db.amountFits_iff, Db.CartPriced, Db.cartValue, hids]
  exact ⟨fun _ hi => absurd hi List.not_mem_nil, rfl⟩

/-- What a cash checkout sends leaves a cart that can be billed one that can
be billed: it is the same cart, or an empty one. -/
theorem amountFits_cash [Env] {db : Db} {u : User} (h : db.amountFits u.id = true) (token : String)
    : ((CartsController.cash u token).eval db).2.amountFits u.id = true := by
  refine Action.eval_inv (fun x => x.amountFits u.id = true)
    (P := fun w => w = .deactivateCarts u.id none ∨
      w.writes .carts = false ∧ w.writes .products = false) ?_ ?_ h
  · rintro w x x' (rfl | ⟨hcarts, hproducts⟩) hx hfits
    · cases hx
      exact Db.amountFits_of_empty (x.activeCarts_deactivated u.id)
    · have hc : x'.carts = x.carts := exec_frame hx hcarts
      have hp : x'.products = x.products := exec_frame hx hproducts
      rw [Db.amountFits_congr hc hp]
      exact hfits
  · exact CartsController.cash_only (fun _ => .inr ⟨rfl, rfl⟩) u token
      (fun _ => .inr ⟨rfl, rfl⟩) (fun _ => .inr ⟨rfl, rfl⟩) (.inl rfl)

section Requests

variable [Env]

/-- A cash checkout changes the database exactly if it stores its bill. -/
theorem cash_eq_self_iff {db : Db} {u : User} (huser : (db.users.find? u.id).isSome = true)
    (token : String) :
    ((CartsController.cash u token).eval db).2 = db ↔ db.amountFits u.id = false := by
  have hstored := cash_stored huser token
  rw [CartsRoute.storedBill, CartsRoute.newBill, Option.filter_some, Db.storable, cashBill_fits,
    Bool.and_true] at hstored
  cases hfits : db.amountFits u.id with
  | false =>
    rw [hfits] at hstored
    exact iff_of_true hstored rfl
  | true =>
    rw [hfits] at hstored
    refine iff_of_false (fun hsame => ?_) Bool.noConfusion
    -- a stored bill takes the next key
    have hbills := congrArg Table.next hstored.1
    rw [hsame, Table.next_insert] at hbills
    omega

/-- The second of two cash checkouts changes nothing exactly if the first
one did not store its bill. -/
theorem cash_again_iff {db : Db} {u : User} (hu : db.users.find? u.id = some u)
    (first second : String) :
    step (step db (.user (some u.id) (.carts (.cash first))))
        (.user (some u.id) (.carts (.cash second))) =
      step db (.user (some u.id) (.carts (.cash first))) ↔ db.amountFits u.id = false := by
  have hfirst : step db (.user (some u.id) (.carts (.cash first))) =
      ((CartsController.cash u first).eval db).2 := step_user hu _
  have huser : (db.users.find? u.id).isSome = true := by rw [hu]; rfl
  have husers : ((CartsController.cash u first).eval db).2.users = db.users :=
    (CartsRoute.eval_frame (.cash first)).1
  have hsecond : step ((CartsController.cash u first).eval db).2
      (.user (some u.id) (.carts (.cash second))) =
      ((CartsController.cash u second).eval ((CartsController.cash u first).eval db).2).2 :=
    step_user (by rw [husers]; exact hu) _
  rw [hfirst, hsecond, cash_eq_self_iff (by rw [husers]; exact huser)]
  cases hfits : db.amountFits u.id with
  | true => rw [amountFits_cash hfits]
  | false => rw [(cash_eq_self_iff huser first).mpr hfits, hfits]

end Requests

/-! ## §2 New bills -/

/-- Every line is of a bill that was stored. -/
def Db.LinesKnown (db : Db) : Prop := ∀ l ∈ db.billProducts.rows, l.billId < db.bills.next

/-- There is something in the cart, and price times count of its first
product fits `decimal(10,0)`. -/
def Db.firstItemFits (db : Db) (u : Id) : Bool :=
  (db.cartProducts u).head?.any fun p =>
    fitsDecimal (db.priceOf p.id * (db.cartIds u).count p.id)

theorem Db.takenLines_ne_nil_iff {db : Db} {u : Id} :
    db.takenLines u ≠ [] ↔ db.firstItemFits u = true := by
  unfold Db.takenLines Db.cartLines Db.firstItemFits
  cases db.cartProducts u with
  | nil => simp
  | cons p ps =>
    rw [List.map_cons, List.takeWhile_cons, List.head?_cons, Option.any_some]
    change (if fitsDecimal (db.priceOf p.id * (db.cartIds u).count p.id) = true
      then _ else _) ≠ _ ↔ _
    split <;> simp_all

section Stored

variable {db db' : Db} {u : Id} {b : Bill}

/-- A bill that is new has the key that was next. -/
theorem Db.Stored.id_of_new (h : db.Stored u (some b) db') {x : Bill} (hx : x ∈ db'.bills.rows)
    (hnew : db.bills.next ≤ x.id) : x.id = db.bills.next := by
  rw [h.1, Table.rows_insert, List.mem_append, List.mem_singleton] at hx
  rcases hx with hx | rfl
  · exact absurd hnew (Nat.not_le_of_lt (db.bills.fresh x hx))
  · rfl

/-- Its lines are those the database took. -/
theorem Db.Stored.line_of_new (h : db.Stored u (some b) db') (hknown : db.LinesKnown)
    {l : BillProduct} (hl : l ∈ db'.billProducts.rows) (hid : l.billId = db.bills.next) :
    ∃ i, ∃ l' ∈ db.takenLines u, Row.withId i l' = l := by
  rw [h.2] at hl
  rcases Table.mem_rows_insertAll hl with hl | ⟨i, l', hl', rfl⟩
  · exact absurd hid (Nat.ne_of_lt (hknown l hl))
  · exact ⟨i, l', hl', rfl⟩

end Stored

/-- The statements that store a bill or a line. -/
def Stmt.storesBill : Stmt → Bool
  | .insertBill _ => true
  | .insertBillProduct _ => true
  | _ => false

/-- Any other statement adds neither. -/
theorem exec_noBill [Env] {w : Stmt} {db db' : Db} (hw : w.storesBill = false)
    (h : exec w db = .ok db') :
    db'.bills.next = db.bills.next ∧ db'.billProducts.rows ⊆ db.billProducts.rows := by
  cases hbooks : w.keepsBooks with
  | true =>
    have hkept := exec_ledgerKept hbooks h
    exact ⟨hkept.next_eq, hkept.lines⟩
  | false =>
    cases w with
    | destroyProduct i => cases h; exact ⟨rfl, List.filter_subset_self _⟩
    | insertBill b => cases hw
    | insertBillProduct l => cases hw
    | _ => cases hbooks

/-- Only the checkouts send them. -/
theorem Request.checkout_of_issues {db : Db} {r : Request} {w : Stmt} (h : r.Issues db w)
    (hw : w.storesBill = true) :
    ∃ session c, r = .user session (.carts c) ∧ c.isCheckout = true := by
  cases r with
  | «open» route => cases w <;> cases hw <;> cases route <;> cases h
  | user session route =>
    obtain ⟨u, -, hroute⟩ := h
    cases w <;> cases hw <;> cases route <;> first
      | exact ⟨session, _, rfl, hroute.1⟩
      | exact ⟨session, _, rfl, hroute⟩
      | cases hroute

section NewBills

variable [Env]

/-- The checkout that a request is and the bill it stores. -/
def Request.checkout (db : Db) : Request → Option (User × Bill)
  | .user session (.carts c) =>
      (session.bind db.users.find?).bind fun u => (c.storedBill db u).map fun b => (u, b)
  | _ => none

/-- The request is no checkout that stores a bill for an empty cart (or for
one whose first line is refused). -/
def Request.BillsItems (db : Db) (r : Request) : Prop :=
  ∀ c ∈ r.checkout db, db.firstItemFits c.1.id = true

instance (db : Db) (r : Request) : Decidable (r.BillsItems db) :=
  inferInstanceAs (Decidable (∀ c ∈ r.checkout db, db.firstItemFits c.1.id = true))

/-- Every bill the request creates has lines, of at least one item each. -/
def Request.CreatesWithLines (db : Db) (r : Request) : Prop :=
  ∀ b ∈ (step db r).bills.rows, db.bills.next ≤ b.id →
    (∃ l ∈ (step db r).billProducts.rows, l.billId = b.id) ∧
      ∀ l ∈ (step db r).billProducts.rows, l.billId = b.id → 1 ≤ l.quantity

theorem step_noBill {db : Db} {r : Request} (hr : ∀ w, r.Issues db w → w.storesBill = false) :
    (step db r).bills.next = db.bills.next ∧
      (step db r).billProducts.rows ⊆ db.billProducts.rows := by
  refine step_inv (fun x => x.bills.next = db.bills.next ∧
    x.billProducts.rows ⊆ db.billProducts.rows) (fun w x x' hw hx h => ?_)
    ⟨rfl, List.Subset.refl _⟩
  obtain ⟨hnext, hlines⟩ := exec_noBill (hr w hw) hx
  exact ⟨hnext.trans h.1, List.Subset.trans hlines h.2⟩

/-- A request stores no bill and no line, or is a checkout that stores its
bill with the lines the database takes. -/
theorem step_bills (db : Db) (r : Request) :
    (r.checkout db = none ∧ (step db r).bills.next = db.bills.next ∧
      (step db r).billProducts.rows ⊆ db.billProducts.rows) ∨
    ∃ u b, r.checkout db = some (u, b) ∧ db.CartPriced u.id ∧
      db.Stored u.id (some b) (step db r) := by
  by_cases hcheckout : ∃ session c, r = .user session (.carts c) ∧ c.isCheckout = true
  · obtain ⟨session, c, rfl, hc⟩ := hcheckout
    cases hs : session.bind db.users.find? with
    | none =>
      rw [step_unauthenticated hs]
      exact .inl ⟨by simp [Request.checkout, hs], rfl, List.Subset.refl _⟩
    | some u =>
      obtain ⟨i, rfl, hu⟩ := Option.bind_eq_some_iff.mp hs
      have hstep : step db (.user (some i) (.carts c)) = (eval (c.action u) db).2 :=
        step_user hu _
      rw [hstep]
      rcases checkout_cases (db.users.isSome_find?_self hu) hc with
        ⟨hbill, hsame⟩ | ⟨b, hbill, hpriced, -, hstored⟩
      · rw [hsame]
        exact .inl ⟨by simp [Request.checkout, hs, hbill], rfl, List.Subset.refl _⟩
      · exact .inr ⟨u, b, by simp [Request.checkout, hs, hbill], hpriced, hstored⟩
  · have hnone : r.checkout db = none := by
      cases r with
      | «open» route => rfl
      | user session route =>
        cases route with
        | carts c =>
          have hc : c.isCheckout = false := by
            rw [← Bool.not_eq_true]
            exact fun hc => hcheckout ⟨session, c, rfl, hc⟩
          simp [Request.checkout, CartsRoute.storedBill_of_not_checkout hc]
        | _ => rfl
    refine .inl ⟨hnone, step_noBill fun w hw => ?_⟩
    rw [← Bool.not_eq_true]
    exact fun hbill => hcheckout (Request.checkout_of_issues hw hbill)

theorem step_linesKnown {db : Db} (h : db.LinesKnown) (r : Request) : (step db r).LinesKnown := by
  rcases step_bills db r with ⟨-, hnext, hlines⟩ | ⟨u, b, -, -, hbills, hlines⟩
  · intro l hl
    rw [hnext]
    exact h l (hlines hl)
  · exact Db.lines_known_stored h hbills hlines

/-- A request creates only bills with lines exactly if it is no checkout of
an empty cart. -/
theorem created_with_lines_iff {db : Db} (hknown : db.LinesKnown) (r : Request) :
    r.CreatesWithLines db ↔ r.BillsItems db := by
  rcases step_bills db r with ⟨hnone, hnext, -⟩ | ⟨u, b, hsome, hpriced, hstored⟩
  · refine iff_of_true (fun x hx hnew => ?_) (by simp [Request.BillsItems, hnone])
    have hlt := (step db r).bills.fresh x hx
    rw [hnext] at hlt
    exact absurd hnew (Nat.not_le_of_lt hlt)
  · have hcondition : r.BillsItems db ↔ db.takenLines u.id ≠ [] := by
      rw [Db.takenLines_ne_nil_iff]
      simp [Request.BillsItems, hsome]
    rw [hcondition]
    constructor
    · intro hcreated
      have hmem : Row.withId db.bills.next b ∈ (step db r).bills.rows := by
        rw [hstored.1, Table.rows_insert]
        exact List.mem_append_right _ List.mem_cons_self
      obtain ⟨⟨l, hl, hid⟩, -⟩ := hcreated _ hmem (Nat.le_refl _)
      obtain ⟨i, l', hl', -⟩ := hstored.line_of_new hknown hl hid
      exact List.ne_nil_of_mem hl'
    · intro htaken x hx hnew
      rw [hstored.id_of_new hx hnew]
      refine ⟨?_, fun l hl hlid => ?_⟩
      · obtain ⟨l, hl⟩ := List.exists_mem_of_ne_nil _ htaken
        obtain ⟨i, hi⟩ := db.billProducts.exists_mem_rows_insertAll hl
        have hbill : l.billId = db.bills.next := Db.billId_of_mem_takenLines hl
        exact ⟨Row.withId i l, hstored.2 ▸ hi, hbill⟩
      · obtain ⟨i, l', hl', rfl⟩ := hstored.line_of_new hknown hl hlid
        exact (takenLines_consistent hpriced hl').1

/-! ## §3 Whole runs -/

/-- A cash checkout submitted twice is one submitted once exactly if it
stores nothing at all; and along every run the bills are created with lines,
of at least one item each, exactly if no request is a checkout that stores a
bill for an empty cart. -/
theorem repeated_checkout_iff (db : Db) (hknown : db.LinesKnown) :
    (∀ u first second, db.users.find? u.id = some u →
      (step (step db (.user (some u.id) (.carts (.cash first))))
          (.user (some u.id) (.carts (.cash second))) =
        step db (.user (some u.id) (.carts (.cash first))) ↔ db.amountFits u.id = false)) ∧
    ∀ rs, Along step (fun db r => r.CreatesWithLines db) db rs ↔
      Along step (fun db r => r.BillsItems db) db rs :=
  ⟨fun _ first second hu => cash_again_iff hu first second,
    fun _ => Along.congr_inv (W := Db.LinesKnown) (fun _ r h => step_linesKnown h r)
      (fun _ r h => created_with_lines_iff h r) hknown⟩

end NewBills

/-- User 2 has two leashes in the cart, and user 3 something that has no
price yet. -/
def unpricedShop : Db where
  users := Table.empty.insertAll
    [{ email := "staff@pet.vn", roles := ["staff"] }, { email := "ann@pet.vn", roles := ["user"] },
     { email := "bob@pet.vn", roles := ["user"] }]
  products := Table.empty.insertAll
    [{ name := some "Leash", price := some 120, quantity := some 3 },
     { name := some "Bowl", price := none, quantity := some 9 }]
  carts := Table.empty.insertAll
    [{ userId := 2, productId := 1 }, { userId := 2, productId := 1 },
     { userId := 3, productId := 2 }]

/-- User 3 submits twice and stores nothing; the bill of user 2 has its
line. -/
theorem repeated_checkout_unpricedShop :
    (@runFrom .caseInsensitive unpricedShop
      [.user (some 2) (.carts (.cash "7f"))]).bills.rows.length = 1 ∧
    @step .caseInsensitive
        (@step .caseInsensitive unpricedShop (.user (some 3) (.carts (.cash "7f"))))
        (.user (some 3) (.carts (.cash "80"))) =
      @step .caseInsensitive unpricedShop (.user (some 3) (.carts (.cash "7f"))) ∧
    Along (@step .caseInsensitive) (fun db r => @Request.CreatesWithLines .caseInsensitive db r)
      unpricedShop [.user (some 2) (.carts (.cash "7f"))] := by
  have hknown : unpricedShop.LinesKnown := fun _ hl => absurd hl List.not_mem_nil
  obtain ⟨hagain, hruns⟩ := @repeated_checkout_iff .caseInsensitive unpricedShop hknown
  exact ⟨by decide,
    (hagain { id := 3, email := "bob@pet.vn", roles := ["user"] } "7f" "80" (by decide)).mpr
      (by decide),
    (hruns _).mpr (by decide)⟩

/-- A second click stores a bill of 0 without lines. -/
theorem second_click_stores_bill :
    @step .caseInsensitive
        (@step .caseInsensitive staffedShop (.user (some 2) (.carts (.cash "7f"))))
        (.user (some 2) (.carts (.cash "80"))) ≠
      @step .caseInsensitive staffedShop (.user (some 2) (.carts (.cash "7f"))) ∧
    (let db := @runFrom .caseInsensitive staffedShop
        [.user (some 2) (.carts (.cash "7f")), .user (some 2) (.carts (.cash "80"))]
     db.bills.rows.map fun b => (b.amount, (db.billLines b.id).map (·.quantity))) =
      [(290, [2, 1]), (0, [])] := by
  decide

end PetParadise
