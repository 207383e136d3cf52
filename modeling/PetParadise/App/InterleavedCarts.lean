/-
PetParadise.App.InterleavedCarts — many customers at the shop at once.

Any number of requests run interleaved, statement by statement: requests to
`CartsController` of any number of users, several of one user among them,
and requests to the hotel, the chats and the histories, which leave the
shop alone. For each user the others make no difference: strike the others'
steps out of the schedule, and the user's requests end with the same
answers and leave the user with the same cart and the same orders.

Each action is walked through once with the rules of
`PetParadise.Store.Purge`. A request may be interrupted between any two
statements, so a walk may only rely on what `ShopAlike` says about the
stores at the statement it has come to.
-/
import PetParadise.App.ShopSeparation
import PetParadise.App.RequestPool
import PetParadise.Store.Serial

namespace PetParadise

open Store PetParadise.Action

/-! ## Building blocks -/

section Blocks

variable {u : Id} {k : ShopKeys}

theorem select_tracks [Env] {α β : Type} {V : ShopKeys → α → β → Prop} {f : Db → α} {g : Db → β}
    (q : Query) (hfg : ∀ k', k ≤ k' → ∀ s t, ShopAlike u k' s t → V k' (f s) (g t)) :
    (Action.select q f).Tracks shopSeparation u V k (Action.select q g) := by
  intro k' hk s t hst
  exact ⟨rfl, .ok ⟨k', le_rfl, hst, hfg k' hk s t hst⟩⟩

/-- A query that gives the same on both sides. -/
theorem select_tracks_eq [Env] {α : Type} {f : Db → α} (q : Query)
    (hf : ∀ k s t, ShopAlike u k s t → f s = f t) :
    (Action.select q f).Tracks shopSeparation u (fun _ => Eq) k (Action.select q f) :=
  select_tracks q (fun k' _ s t hst => hf k' s t hst)

theorem insertCart_tracks [Env] (p : Id) :
    (Prog.perform (.insertCart u p) : Action Unit).Tracks shopSeparation u (fun _ _ _ => True) k
      (Prog.perform (.insertCart u p)) :=
  Prog.tracks_perform fun _ _ _ _ hst => ⟨rfl, hst.insertCart p⟩

theorem deleteCart_tracks [Env] {i j : Id} (hij : (i, j) ∈ k.carts) :
    (Prog.perform (.deleteCart i) : Action Unit).Tracks shopSeparation u (fun _ _ _ => True) k
      (Prog.perform (.deleteCart j)) := by
  apply Prog.tracks_perform
  intro k' hk s t hst
  have hij' : (i, j) ∈ k'.carts := hk.1 hij
  refine ⟨fun c hc hid => ?_, .ok ⟨k', le_rfl, hst.deleteCart hij'⟩⟩
  exact beq_iff_eq.mp (hst.carts.left _ hij' c hc hid)

theorem deactivateCarts_tracks [Env] (p : Option Id) :
    (Prog.perform (.deactivateCarts u p) : Action Unit).Tracks shopSeparation u
      (fun _ _ _ => True) k (Prog.perform (.deactivateCarts u p)) :=
  Prog.tracks_perform fun k' _ _ _ hst => ⟨rfl, .ok ⟨k', le_rfl, hst.deactivateCarts p⟩⟩

/-- The new bill has different keys, which are matched from here on. -/
theorem createBill_tracks [Env] {b : Bill} (hb : b.userId = u) :
    (createBill b).Tracks shopSeparation u
      (fun k => Option.Rel (fun i j => (i, j) ∈ k.bills)) k (createBill b) := by
  intro k' hk s t hst
  refine ⟨hb, ?_⟩
  show Outcome _ (exec (.insertBill b) s) (exec (.insertBill b) t)
  simp only [exec, hb, hst.user]
  by_cases huser : (t.users.find? u).isNone = true
  · have hnone : (t.users.find? u).isSome = false := by
      rw [Option.isNone_iff_eq_none.mp huser]
      rfl
    rw [if_pos huser, if_pos huser]
    refine .ok ⟨k', le_rfl, hst, ?_⟩
    simp only [hnone, Bool.false_eq_true, if_false]
    exact .none
  · have hsome : (t.users.find? u).isSome = true := by
      simpa [Option.isSome_iff_ne_none] using huser
    rw [if_neg huser, if_neg huser]
    by_cases hfits : fitsDecimal b.amount = true
    · rw [if_pos hfits, if_pos hfits]
      by_cases htexts : b.fits = true
      · simp only [htexts, hsome, if_true]
        have hle : k' ≤ { k' with bills := insert (s.bills.next, t.bills.next) k'.bills } :=
          ⟨fun _ hx => hx, Set.subset_insert _ _, fun _ hx => hx⟩
        exact .ok ⟨_, hle, hst.insertBill hb, .some (Set.mem_insert _ _)⟩
      · rw [if_neg htexts, if_neg htexts]
        exact .error _
    · rw [if_neg hfits, if_neg hfits]
      exact .error _

theorem addLine_tracks [Env] {bill bill' : Option Id}
    (hbill : Option.Rel (fun i j => (i, j) ∈ k.bills) bill bill') (dataCart : List (Id × Nat))
    (product : Product) :
    (addLine bill dataCart product).Tracks shopSeparation u (fun _ _ _ => True) k
      (addLine bill' dataCart product) := by
  apply Prog.tracks_bind_eq (Prog.tracks_orRaise_self product.price _)
  intro k₁ hk₁ price
  apply Prog.tracks_bind_eq (Prog.tracks_orRaise_self (dataCart.lookup product.id) _)
  intro k₂ hk₂ count
  have hbill₂ : Option.Rel (fun i j => (i, j) ∈ k₂.bills) bill bill' := by
    cases hbill with
    | none => exact .none
    | some hij => exact .some (hk₂.2.1 (hk₁.2.1 hij))
  apply Prog.tracks_bind
    (Prog.tracks_orRaise (V := fun k i j => (i, j) ∈ k.bills) hbill₂ _)
  intro k₃ hk₃ i j hij
  apply Prog.tracks_perform
  intro k₄ hk₄ s t hst
  have hij₄ : (i, j) ∈ k₄.bills := hk₄.2.1 hij
  refine ⟨fun b hfind => ?_, hst.addLine hij₄ product price count⟩
  rcases hst.bills.find? hij₄ with ⟨hnone, -⟩ | ⟨b', _, hsome, -, hown, -⟩
  · exact absurd (hnone.symm.trans hfind) (by simp)
  · have heq : b' = b := Option.some.inj (hsome.symm.trans hfind)
    rw [← heq]
    exact beq_iff_eq.mp hown

/-- The lines of a new bill, and the cart closed. -/
theorem billed_tracks [Env] {bill bill' : Option Id}
    (hbill : Option.Rel (fun i j => (i, j) ∈ k.bills) bill bill') (dataCart : List (Id × Nat))
    (products : List Product) :
    (Prog.each products (addLine bill dataCart)).Tracks shopSeparation u (fun _ _ _ => True) k
      (Prog.each products (addLine bill' dataCart)) := by
  apply Prog.tracks_each
  intro k' hk product
  apply addLine_tracks _ dataCart product
  cases hbill with
  | none => exact .none
  | some hij => exact .some (hk.2.1 hij)

end Blocks

/-! ## The actions -/

section Actions

variable {me : User} {k : ShopKeys}

namespace CartsController

theorem total_tracks [Env] :
    (total me).Tracks shopSeparation me.id (fun _ => Eq) k (total me) := by
  apply Prog.tracks_bind_eq (select_tracks_eq .cartTotal fun _ _ _ h => h.addPrices)
  intro k' _ x
  exact Prog.tracks_ofExcept x

theorem setProduct_tracks [Env] {u : Id} (p : Option CartParams) :
    (setProduct p).Tracks shopSeparation u (fun _ => Eq) k (setProduct p) := by
  apply Prog.tracks_bind_eq (Prog.tracks_orRaise_self p _)
  intro k₁ _ params
  have hfind : ∀ k s t, ShopAlike u k s t →
      params.productId.bind s.products.find? = params.productId.bind t.products.find? := by
    intro k s t h
    cases params.productId with
    | none => rfl
    | some i => exact h.find_product i
  apply Prog.tracks_bind_eq (select_tracks_eq .product hfind)
  intro k₂ _ found
  exact Prog.tracks_orRaise_self found _

theorem count_tracks [Env] (product : Product) :
    (select .activeCount (fun db => (db.activeCartsOf me.id product.id).length)).Tracks
      shopSeparation me.id (fun _ => Eq) k
      (select .activeCount (fun db => (db.activeCartsOf me.id product.id).length)) :=
  select_tracks_eq .activeCount fun _ _ _ h => h.countOf product.id

theorem create_tracks [Env] (p : Option CartParams) :
    (create me p).Tracks shopSeparation me.id (fun _ => Eq) k (create me p) := by
  apply Prog.tracks_bind_eq (setProduct_tracks p)
  intro k₁ _ product
  apply Prog.tracks_bind_eq (count_tracks product)
  intro k₂ _ n
  apply Prog.tracks_bind_eq (Prog.tracks_orRaise_self product.quantity _)
  intro k₃ _ quantity
  apply Prog.tracks_ite
  · intro _
    rfl
  · intro _
    apply Prog.tracks_then (insertCart_tracks product.id)
    intro k₄ _
    apply Prog.tracks_bind_eq (select_tracks_eq .activeCount fun _ _ _ h => h.count)
    intro k₅ _ cart
    rfl

theorem firstActive_tracks [Env] (product : Product) {l l' : Option (Option Cart)}
    (hl : Option.Rel (Option.Rel (fun c d => (c.id, d.id) ∈ k.carts)) l l') :
    (firstActive me product l).Tracks shopSeparation me.id
      (fun k => Option.Rel (fun c d => (c.id, d.id) ∈ k.carts)) k (firstActive me product l') := by
  cases hl with
  | none => exact select_tracks .activeCarts fun _ _ _ _ h => h.head product.id
  | some hfirst => exact hfirst

/-- Both sides delete the same rows, whoever runs in between. -/
theorem removeCarts_tracks [Env] (product : Product) (n : Nat) {l l' : Option (Option Cart)}
    (hl : Option.Rel (Option.Rel (fun c d => (c.id, d.id) ∈ k.carts)) l l') :
    (removeCarts me product n l).Tracks shopSeparation me.id (fun _ _ _ => True) k
      (removeCarts me product n l') := by
  induction n generalizing k l l' with
  | zero => trivial
  | succ n ih =>
    apply Prog.tracks_bind (firstActive_tracks product hl)
    intro k₁ _ first first' hfirst
    apply Prog.tracks_bind
      (Prog.tracks_orRaise (V := fun k c d => (c.id, d.id) ∈ k.carts) hfirst _)
    intro k₂ _ c d hcd
    apply Prog.tracks_then (deleteCart_tracks hcd)
    intro k₃ _
    apply Prog.tracks_bind (firstActive_tracks product .none)
    intro k₄ _ reloaded reloaded' hreloaded
    exact ih (.some hreloaded)

theorem reportQuantity_tracks [Env] (product : Product) :
    (reportQuantity me product).Tracks shopSeparation me.id (fun _ => Eq) k
      (reportQuantity me product) := by
  apply Prog.tracks_bind_eq total_tracks
  intro k₁ _ total
  apply Prog.tracks_bind_eq (select_tracks_eq .activeCount fun _ _ _ h => h.count)
  intro k₂ _ cart
  rfl

theorem updateQuantity_tracks [Env] (p : Option CartParams) (quantity : Option String) :
    (updateQuantity me p quantity).Tracks shopSeparation me.id (fun _ => Eq) k
      (updateQuantity me p quantity) := by
  apply Prog.tracks_bind_eq (setProduct_tracks p)
  intro k₁ _ product
  apply Prog.tracks_bind_eq (Prog.tracks_orRaise_self quantity _)
  intro k₂ _ q
  apply Prog.tracks_bind_eq (Prog.tracks_orRaise_self product.quantity _)
  intro k₃ _ stock
  apply Prog.tracks_ite
  · intro _
    rfl
  · intro _
    apply Prog.tracks_bind_eq (count_tracks product)
    intro k₄ _ before
    apply Prog.tracks_ite
    · intro _
      apply Prog.tracks_bind_eq (count_tracks product)
      intro k₅ _ now
      apply Prog.tracks_then (Prog.tracks_times (fun _ _ => insertCart_tracks product.id) _)
      intro k₆ _
      exact reportQuantity_tracks product
    · intro _
      apply Prog.tracks_bind_eq (count_tracks product)
      intro k₅ _ now
      apply Prog.tracks_then (removeCarts_tracks product _ .none)
      intro k₆ _
      exact reportQuantity_tracks product

/-- `index` and `checkout` ask for the same. -/
theorem products_tracks [Env] (answer : List Product → Int → Response) :
    (do
      let total ← total me
      let products ← select .groupedCount (fun db => (db.groupedCount me.id).map Prod.fst)
      let products ← select .products (fun db => db.productsIn products)
      return answer products total : Action Response).Tracks shopSeparation me.id (fun _ => Eq) k
    (do
      let total ← total me
      let products ← select .groupedCount (fun db => (db.groupedCount me.id).map Prod.fst)
      let products ← select .products (fun db => db.productsIn products)
      return answer products total) := by
  apply Prog.tracks_bind_eq total_tracks
  intro k₁ _ total
  apply Prog.tracks_bind_eq
    (select_tracks_eq .groupedCount fun _ _ _ h => congrArg (List.map Prod.fst) h.groupedCount)
  intro k₂ _ products
  apply Prog.tracks_bind_eq (select_tracks_eq .products fun _ _ _ h => h.productsIn products)
  intro k₃ _ products
  rfl

theorem destroy_tracks [Env] (productId : Id) :
    (destroy me productId).Tracks shopSeparation me.id (fun _ => Eq) k (destroy me productId) := by
  apply Prog.tracks_then (deactivateCarts_tracks (some productId))
  intro k₁ _
  rfl

theorem cash_tracks [Env] (randomToken : String) :
    (cash me randomToken).Tracks shopSeparation me.id (fun _ => Eq) k (cash me randomToken) := by
  apply Prog.tracks_bind_eq total_tracks
  intro k₁ _ total
  apply Prog.tracks_bind_eq (select_tracks_eq .groupedCount fun _ _ _ h => h.groupedCount)
  intro k₂ _ dataCart
  apply Prog.tracks_bind (createBill_tracks (b := cashBill me randomToken total) rfl)
  intro k₃ _ bill bill' hbill
  apply Prog.tracks_bind (V := fun k a b => a = b ∧
    Option.Rel (fun i j => (i, j) ∈ k.bills) bill bill')
    (select_tracks .products fun k' hk s t h => ⟨h.productsIn (dataCart.map Prod.fst), ?_⟩)
  · intro k₄ _ products products' hproducts
    obtain ⟨rfl, hbill⟩ := hproducts
    apply Prog.tracks_then (billed_tracks hbill dataCart products)
    intro k₅ _
    apply Prog.tracks_then (deactivateCarts_tracks none)
    intro k₆ _
    rfl
  · cases hbill with
    | none => exact .none
    | some hij => exact .some (hk.2.1 hij)

end CartsController

theorem Momo.GetPaymentUrlService.accept_tracks [Env] (amount : Int) (c : MomoCheckout)
    (dataCart : List (Id × Nat)) (products : List Product) :
    (accept me amount c dataCart products).Tracks shopSeparation me.id (fun _ _ _ => True) k
      (accept me amount c dataCart products) := by
  apply Prog.tracks_bind (createBill_tracks (b := momoBill me amount c) rfl)
  intro k₁ _ bill bill' hbill
  apply Prog.tracks_then (billed_tracks hbill dataCart products)
  intro k₂ _
  exact deactivateCarts_tracks none

section Deployment

variable [Env]

theorem Momo.GetPaymentUrlService.call_tracks (amount : Int) (c : MomoCheckout) :
    (call me amount c).Tracks shopSeparation me.id (fun _ => Eq) k (call me amount c) := by
  apply Prog.tracks_bind_eq (select_tracks_eq .groupedCount fun _ _ _ h => h.groupedCount)
  intro k₁ _ dataCart
  apply Prog.tracks_bind_eq
    (select_tracks_eq .products fun _ _ _ h => h.productsIn (dataCart.map Prod.fst))
  intro k₂ _ products
  apply Prog.tracks_bind_eq (Prog.tracks_ofExcept _)
  intro k₃ _ items
  have hpost : ∀ body, (Prog.perform (.post body) : Action Unit).Tracks shopSeparation me.id
      (fun _ _ _ => True) k₃ (Prog.perform (.post body)) :=
    fun body => Prog.tracks_perform fun k' _ _ _ hst => ⟨rfl, .ok ⟨k', le_rfl, hst⟩⟩
  apply Prog.tracks_then (hpost _)
  intro k₄ _
  -- the same request has been sent, so the gateway gives one answer
  cases c.gateway (dataBody me amount c.randomToken items) with
  | unreadable => rfl
  | object resultCode payUrl =>
    apply Prog.tracks_ite
    · intro _
      apply Prog.tracks_then (accept_tracks amount c dataCart products)
      intro k₅ _
      rfl
    · intro _
      rfl

theorem CartsController.checkoutMomo_tracks (c : MomoCheckout) :
    (checkoutMomo me c).Tracks shopSeparation me.id (fun _ => Eq) k (checkoutMomo me c) := by
  apply Prog.tracks_bind_eq total_tracks
  intro k₁ _ total
  apply Prog.tracks_bind_eq (Momo.GetPaymentUrlService.call_tracks total c)
  intro k₂ _ answer
  apply Prog.tracks_ite
  · intro _
    apply Prog.tracks_bind_eq (Prog.tracks_orRaise_self answer.2 _)
    intro k₃ _ url
    rfl
  · intro _
    rfl

theorem CartsRoute.action_tracks (r : CartsRoute) :
    (r.action me).Tracks shopSeparation me.id (fun _ => Eq) k (r.action me) := by
  cases r with
  | index => exact CartsController.products_tracks Response.cartsIndex
  | create p => exact CartsController.create_tracks p
  | updateQuantity p quantity => exact CartsController.updateQuantity_tracks p quantity
  | checkoutMomo c => exact CartsController.checkoutMomo_tracks c
  | checkout => exact CartsController.products_tracks Response.cartsCheckout
  | destroy productId => exact CartsController.destroy_tracks productId
  | cash randomToken => exact CartsController.cash_tracks randomToken

end Deployment

end Actions

/-! ## What a user has -/

/-- A user's cart rows, keys apart. -/
def Db.cartRows (db : Db) (u : Id) : List Cart := (db.cartsOf u).map (Row.withId 0)

/-- A user's bills with their lines, keys apart. -/
def Db.orders (db : Db) (u : Id) : List (Bill × List BillProduct) :=
  (db.billsOf u).map fun b =>
    (Row.withId 0 b, (db.billLines b.id).map fun l => { l with id := 0, billId := 0 })

/-- The lines of a bill are the user's when the bill is. -/
theorem Db.billLines_of_owned {db : Db} (hbilled : db.LinesBilled) {u i : Id}
    (hown : ∀ b ∈ db.bills.rows, b.id = i → (b.userId == u) = true) :
    db.billLines i = (db.billProducts.rows.filter (db.lineOfUser u)).filter (·.billId == i) := by
  rw [Db.billLines, List.filter_filter]
  apply List.filter_congr
  intro l hl
  by_cases hi : l.billId = i
  · obtain ⟨b, hb, hid⟩ := hbilled l hl
    have hfind : db.bills.find? l.billId = some b := by
      rw [← hid]
      exact db.bills.find?_of_mem hb
    have howner : db.lineOfUser u l = true := by
      rw [Db.lineOfUser, hfind]
      exact hown b hb (hid.trans hi)
    simp [howner]
  · simp [hi]

namespace ShopAlike

variable {u : Id} {k : ShopKeys} {s t : Db}

theorem cartRows_eq (h : ShopAlike u k s t) : s.cartRows u = t.cartRows u := by
  have hmap := List.rel_map (P := Eq) (fun _ _ hcd => hcd.2) h.carts.rows
  rwa [List.forall₂_eq_eq_eq] at hmap

theorem billLines_eq (h : ShopAlike u k s t) {i j : Id} (hij : (i, j) ∈ k.bills) :
    (s.billLines i).map (fun l => ({ l with id := 0, billId := 0 } : BillProduct)) =
      (t.billLines j).map (fun l => { l with id := 0, billId := 0 }) := by
  rw [Db.billLines_of_owned h.billed_left (h.bills.left _ hij),
    Db.billLines_of_owned h.billed_right (h.bills.right _ hij)]
  have hlines := h.lines.filter (P := (·.billId == i)) (Q := (·.billId == j)) fun l m _ hlm => by
    have hiff : l.billId = i ↔ m.billId = j := h.bills.one_to_one _ hlm.1 _ hij
    by_cases hi : l.billId = i
    · simp [hi, hiff.mp hi]
    · simp [hi, mt hiff.mpr hi]
  have hmap := List.rel_map (P := Eq) (fun _ _ hlm => hlm.2.2) hlines
  rwa [List.forall₂_eq_eq_eq] at hmap

theorem orders_eq (h : ShopAlike u k s t) : s.orders u = t.orders u := by
  rw [← List.forall₂_eq_eq_eq]
  apply List.rel_map (R := fun b c => (Row.id b, Row.id c) ∈ k.bills ∧
    Row.withId 0 b = Row.withId 0 c) _ h.bills.rows
  intro b c hbc
  exact Prod.ext hbc.2 (h.billLines_eq hbc.1)

end ShopAlike

/-! ## Requests -/

/-- Whose cart the request is about. -/
def Request.shopper : Request → Option Id
  | .user (some u) (.carts _) => some u
  | _ => none

/-- Requests that leave the shop alone: those of the hotel, the chats and
the histories, and whatever is asked without a session. -/
def Request.sparesShop : Request → Bool
  | .user none _ => true
  | .user _ (.bookings _) => true
  | .user _ (.manageBookings ..) => true
  | .user _ (.chats _) => true
  | .user _ (.chatMessages _) => true
  | .user _ (.histories _) => true
  | .user _ (.rooms _) => true
  | _ => false

theorem Stmt.Reads.sparesShop {w : Stmt} (hw : w.Reads) : w.SparesShop := by
  have hnone : ∀ table, w.writes table = false := by
    intro table
    rw [Stmt.writes, hw]
    rfl
  exact ⟨hnone _, hnone _, hnone _, hnone _, hnone _⟩

/-- The statements of a route that leaves the shop alone. -/
theorem Route.Issues.sparesShop {u : User} {i : Id} {r : Route} {w : Stmt}
    (hr : (Request.user (some i) r).sparesShop = true) (hw : r.Issues u w) : w.SparesShop := by
  cases r with
  | bookings r =>
    cases w with
    | insertBooking b => exact ⟨rfl, rfl, rfl, rfl, rfl⟩
    | destroyBooking j => exact ⟨rfl, rfl, rfl, rfl, rfl⟩
    | _ => exact (Stmt.Asks.reads hw).sparesShop
  | chats r =>
    cases w with
    | insertChat c => exact ⟨rfl, rfl, rfl, rfl, rfl⟩
    | updateChat j p => exact ⟨rfl, rfl, rfl, rfl, rfl⟩
    | destroyChat j => exact ⟨rfl, rfl, rfl, rfl, rfl⟩
    | _ => exact (Stmt.Asks.reads hw).sparesShop
  | chatMessages r =>
    cases w with
    | insertChatMessage m => exact ⟨rfl, rfl, rfl, rfl, rfl⟩
    | _ => exact (Stmt.Asks.reads hw).sparesShop
  | rooms r =>
    cases w with
    | insertRoom r => exact ⟨rfl, rfl, rfl, rfl, rfl⟩
    | updateRoom r => exact ⟨rfl, rfl, rfl, rfl, rfl⟩
    | destroyRoom j => exact ⟨rfl, rfl, rfl, rfl, rfl⟩
    | _ => exact (Stmt.Asks.reads hw).sparesShop
  | manageBookings mdate now => exact (Stmt.Asks.reads hw).sparesShop
  | histories r => exact (Stmt.Asks.reads hw).sparesShop
  | _ => cases hr

/-- The session's user is looked up, and is the same on both sides. -/
theorem authenticateUser_tracks [Env] (u : Id) (k : ShopKeys) :
    (authenticateUser (some u)).Tracks shopSeparation u (fun _ me me' => me = me' ∧ me.id = u) k
      (authenticateUser (some u)) := by
  apply Prog.tracks_bind (V := fun _ (o o' : Option User) => o = o' ∧ ∀ me, o = some me → me.id = u)
  · apply select_tracks .currentUser
    intro k' _ s t h
    exact ⟨h.user, fun me hme => s.users.id_of_find? hme⟩
  · intro k' _ found found' hfound
    obtain ⟨rfl, hid⟩ := hfound
    cases found with
    | none => rfl
    | some me => exact ⟨rfl, hid me rfl⟩

section Deployment

variable [Env]

theorem Request.only_sparesShop {r : Request} (hr : r.sparesShop = true) :
    r.action.Only Stmt.SparesShop := by
  cases r with
  | «open» route => cases hr
  | user session route =>
    cases session with
    | none => exact ⟨Stmt.Reads.sparesShop rfl, fun _ => trivial⟩
    | some i =>
      apply Prog.only_bind
      · simp [authenticateUser, Stmt.Reads.sparesShop]
      · intro u
        exact (route.action_only u).mono fun w hw => Route.Issues.sparesShop hr hw

theorem Request.action_tracks {r : Request} {u : Id} (hr : r.shopper = some u) (k : ShopKeys) :
    r.action.Tracks shopSeparation u (fun _ => Eq) k r.action := by
  obtain ⟨route, rfl⟩ : ∃ route, r = .user (some u) (.carts route) := by
    unfold Request.shopper at hr
    split at hr
    · next route =>
      cases hr
      exact ⟨route, rfl⟩
    · cases hr
  apply Prog.tracks_bind (authenticateUser_tracks u k)
  intro k' _ me me' hme
  obtain ⟨rfl, rfl⟩ := hme
  exact route.action_tracks

/-- The thread's customer, if it is a cart request. -/
def shopperOf (rs : List Request) (i : Nat) : Option Id := rs[i]?.bind Request.shopper

/-- The thread's program; there is none beyond the requests. -/
def threadProgram (rs : List Request) (i : Nat) : Action Response :=
  (rs[i]?.map Request.action).getD (.raise .noMethodError)

theorem threadProgram_eq {rs : List Request} {i : Nat} {r : Request} (hr : rs[i]? = some r) :
    threadProgram rs i = r.action := by
  rw [threadProgram, hr, Option.map_some, Option.getD_some]

theorem requestPool_threadProgram (db : Db) {rs : List Request} {i : Nat} {r : Request}
    (hr : rs[i]? = some r) : (requestPool db rs).threads[i]? = some (threadProgram rs i) := by
  rw [threadProgram_eq hr]
  simp [requestPool, Pool.start, hr]

theorem requestPool_tracked {db : Db} (hbilled : db.LinesBilled) {rs : List Request}
    (hrs : ∀ r ∈ rs, r.shopper.isSome = true ∨ r.sparesShop = true) (schedule : List Nat)
    (u : Id) :
    ∃ k, Pool.Tracked shopSeparation (shopperOf rs) u k ((requestPool db rs).run exec schedule)
      ((requestPool db rs).run exec (schedule.filter (fun i => shopperOf rs i = some u))) := by
  have howned : ∀ i v p, shopperOf rs i = some v → (requestPool db rs).threads[i]? = some p →
      ∀ k, p.Tracks shopSeparation v (fun _ => Eq) k p := by
    intro i v p hv hp k
    obtain ⟨r, hr, rfl⟩ := requestPool_thread hp
    rw [shopperOf, hr] at hv
    exact Request.action_tracks hv k
  have hnobody : ∀ i p, shopperOf rs i = none → (requestPool db rs).threads[i]? = some p →
      p.Only Stmt.SparesShop := by
    intro i p hnone hp
    obtain ⟨r, hr, rfl⟩ := requestPool_thread hp
    have hshopper : r.shopper = none := by
      rw [shopperOf, hr] at hnone
      exact hnone
    rcases hrs r (List.mem_of_getElem? hr) with hsome | hspares
    · rw [hshopper] at hsome
      cases hsome
    · exact Request.only_sparesShop hspares
  exact Pool.tracked_run shopSeparation (shopperOf rs) db _ (ShopAlike.start hbilled) howned
    hnobody schedule u

/-- **Customers do not disturb each other.** Let any number of cart
requests run interleaved in any way, together with requests that leave the
shop alone. For each user, striking all other steps out of the schedule
changes nothing: the user's requests end with the same answers, and the
user is left with the same cart and the same orders, keys apart. -/
theorem carts_interleaved_as_alone (db : Db) (hbilled : db.LinesBilled) (rs : List Request)
    (hrs : ∀ r ∈ rs, r.shopper.isSome = true ∨ r.sparesShop = true) (schedule : List Nat) (u : Id) :
    let all := (requestPool db rs).run exec schedule
    let alone := (requestPool db rs).run exec (schedule.filter (fun i => shopperOf rs i = some u))
    (∀ i, shopperOf rs i = some u → all.answer i = alone.answer i) ∧
      all.store.cartRows u = alone.store.cartRows u ∧
      all.store.orders u = alone.store.orders u := by
  intro all alone
  obtain ⟨k, htracked⟩ := requestPool_tracked hbilled hrs schedule u
  have hstore : ShopAlike u k all.store alone.store := htracked.store
  exact ⟨fun i hi => htracked.answer_eq hi, hstore.cartRows_eq, hstore.orders_eq⟩

end Deployment

/-- Two customers, each with a leash in the cart. -/
def marketDb : Db where
  users := Table.empty.insertAll [{ email := "ann@pet.vn" }, { email := "bob@pet.vn" }]
  products := Table.empty.insertAll
    [{ name := some "Leash", price := some 120, quantity := some 3 }]
  carts := Table.empty.insertAll [{ userId := 1, productId := 1 }, { userId := 2, productId := 1 }]

/-- Both pay in cash, and the second one looks at the histories. -/
def marketRequests : List Request :=
  [.user (some 1) (.carts (.cash "7f")), .user (some 2) (.carts (.cash "8a")),
    .user (some 2) (.histories .index)]

/-- One statement of each in turn, the second customer first. -/
def marketSchedule : List Nat := (List.replicate 7 [1, 2, 0]).flatten

section Example

attribute [local instance] Env.caseInsensitive

theorem carts_interleaved_as_alone_market :
    marketDb.LinesBilled ∧
    (∀ r ∈ marketRequests, r.shopper.isSome = true ∨ r.sparesShop = true) ∧
    let all := (requestPool marketDb marketRequests).run exec marketSchedule
    let alone := (requestPool marketDb marketRequests).run exec
      (marketSchedule.filter (fun i => shopperOf marketRequests i = some 1))
    all.answer 0 = alone.answer 0 ∧ all.store.orders 1 = alone.store.orders 1 ∧
      (all.store.billsOf 1).map Bill.id = [2] ∧ (alone.store.billsOf 1).map Bill.id = [1] := by
  have hbilled : marketDb.LinesBilled := by decide
  have hrs : ∀ r ∈ marketRequests, r.shopper.isSome = true ∨ r.sparesShop = true := by decide
  have halone := carts_interleaved_as_alone marketDb hbilled marketRequests hrs
    marketSchedule 1
  exact ⟨hbilled, hrs, halone.1 0 rfl, halone.2.2, by decide, by decide⟩

end Example

section Deployment

variable [Env]

/-- The requests of threads, run one after the other. -/
theorem foldl_run_eq_runFrom {db : Db} {rs : List Request} {is : List Nat}
    (his : ∀ i ∈ is, ∃ r, rs[i]? = some r) :
    is.foldl (fun s i => ((threadProgram rs i).run exec s).2) db =
      runFrom db (is.filterMap (rs[·]?)) := by
  induction is generalizing db with
  | nil => rfl
  | cons i is ih =>
    obtain ⟨r, hr⟩ := his i List.mem_cons_self
    rw [List.foldl_cons, List.filterMap_cons_some hr, threadProgram_eq hr]
    exact ih fun j hj => his j (List.mem_cons_of_mem _ hj)

/-- **A customer who waits for each answer is served as if alone.** If the
cart requests `is` of user `u` do not overlap (each has ended before the next
one begins) then, whatever cart requests of others and requests that leave
the shop alone are at work in between, each of them ends with the answer it
gives when only `u`'s earlier ones came before it, and the cart and orders of
`u` are those of running `u`'s cart requests one at a time. -/
theorem carts_served_as_alone (db : Db) (hbilled : db.LinesBilled) (rs : List Request)
    (hrs : ∀ r ∈ rs, r.shopper.isSome = true ∨ r.sparesShop = true) (schedule : List Nat) (u : Id)
    (is : List Nat) (hnodup : is.Nodup) (n : Nat → Nat)
    (hserial : schedule.filter (fun i => shopperOf rs i = some u) =
      is.flatMap fun i => List.replicate (n i) i)
    (hended : ∀ i ∈ is, shopperOf rs i = some u ∧
      (((requestPool db rs).run exec schedule).answer i).isSome = true) :
    let all := (requestPool db rs).run exec schedule
    (∀ before i after r, is = before ++ i :: after → rs[i]? = some r →
      all.answer i = some (r.action.eval (runFrom db (before.filterMap (rs[·]?)))).1) ∧
      all.store.cartRows u = (runFrom db (is.filterMap (rs[·]?))).cartRows u ∧
      all.store.orders u = (runFrom db (is.filterMap (rs[·]?))).orders u := by
  intro all
  obtain ⟨k, htracked⟩ := requestPool_tracked hbilled hrs schedule u
  rw [hserial] at htracked
  have hrequest : ∀ i ∈ is, ∃ r, rs[i]? = some r := by
    intro i hi
    have hshopper := (hended i hi).1
    cases hr : rs[i]? with
    | none => rw [shopperOf, hr] at hshopper; cases hshopper
    | some r => exact ⟨r, rfl⟩
  have hthreads : ∀ i ∈ is, (requestPool db rs).threads[i]? = some (threadProgram rs i) := by
    intro i hi
    obtain ⟨r, hr⟩ := hrequest i hi
    exact requestPool_threadProgram db hr
  have hends : ∀ i ∈ is, (((requestPool db rs).run exec
      (is.flatMap fun i => List.replicate (n i) i)).answer i).isSome = true := by
    intro i hi
    rw [← htracked.answer_eq (hended i hi).1]
    exact (hended i hi).2
  obtain ⟨hstore, hanswers⟩ := Pool.run_serial hnodup n hthreads hends
  have hfinal : ShopAlike u k all.store (runFrom db (is.filterMap (rs[·]?))) := by
    rw [← foldl_run_eq_runFrom hrequest]
    have halike := htracked.store
    rw [hstore] at halike
    exact halike
  refine ⟨fun before i after r hsplit hr => ?_, hfinal.cartRows_eq, hfinal.orders_eq⟩
  have hi : i ∈ is := by simp [hsplit]
  have hbefore : ∀ j ∈ before, ∃ r, rs[j]? = some r := by
    intro j hj
    exact hrequest j (by simp [hsplit, hj])
  rw [show all.answer i = _ from htracked.answer_eq (hended i hi).1,
    hanswers before i after hsplit, threadProgram_eq hr, ← foldl_run_eq_runFrom hbefore]
  rfl

end Deployment

section Example

attribute [local instance] Env.caseInsensitive

theorem carts_served_as_alone_market :
    marketDb.LinesBilled ∧
    marketSchedule.filter (fun i => shopperOf marketRequests i = some 1) = List.replicate 7 0 ∧
    let all := (requestPool marketDb marketRequests).run exec marketSchedule
    all.answer 0 = some (.ok (redirectNotice "/shop" "Payment in cash successfully!")) ∧
      all.store.orders 1 = (step marketDb
        (.user (some 1) (.carts (.cash "7f")))).orders 1 := by
  have hbilled : marketDb.LinesBilled := by decide
  have hended : ∀ i ∈ [0], shopperOf marketRequests i = some 1 ∧
      (((requestPool marketDb marketRequests).run exec
        marketSchedule).answer i).isSome = true := by decide
  have hserved := carts_served_as_alone marketDb hbilled marketRequests
    (by decide) marketSchedule 1 [0] (by decide) (fun _ => 7) (by decide) hended
  exact ⟨hbilled, by decide, (hserved.1 [] 0 [] _ rfl rfl).trans (by decide), hserved.2.2⟩

end Example

end PetParadise
