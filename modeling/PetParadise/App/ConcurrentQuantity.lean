/-
PetParadise.App.ConcurrentQuantity — `update_quantity` requests of one user
for one product, interleaved.

The action counts the active rows twice: once to decide whether rows are to
be added or removed, and once more for how many. Then it stores rows, or
deletes the first row again and again, and does not look at the number any
more. Two requests that have both counted before either has written add up,
and of two that both delete one runs out of rows.

The two counts are one query, and between them the request writes nothing, so
Rails answers the second one from the request's query cache: in a real run
both see the same database. The schedules here also let other requests come
between the counts. The real runs are those in which a request's two counts
follow one another, and so are the runs of the examples.

`QuantityStage` reads off a request's own statements what it has counted,
corrected by what it has written since. Along a schedule in which this
number is right whenever it is acted upon (`ActsOnCount`) no request fails,
and in the end there are as many rows as one of the requests has asked for:
the one that wrote last, or any of them if none had to write.

  §1 Stages       — `quantityDiscipline` and what a request relies on.
  §2 One request  — `updateQuantity_succeeds`.
  §3 The pool     — `QuantityInv`, kept by every step.
  §4 The schedule — `quantities_interleaved`.
-/
import PetParadise.App.QuantityTheorems
import PetParadise.Store.Pool

namespace PetParadise

open Store PetParadise.Action CartsController

/-! ## §1 Stages -/

/-- What a request has counted: nothing yet, the rows for its comparison,
or the rows for its loop, which each row it writes changes by one. -/
inductive QuantityStage where
  | asking
  | compared (before : Nat)
  | counted (adding : Bool) (rows : Nat)

/-- How a request of user `u` for `q` rows of product `p` proceeds. -/
def quantityDiscipline (u p : Id) (q : Int) : Discipline Db Stmt QuantityStage where
  init := .asking
  advance
    | .asking, db, .select .activeCount => .compared (db.held u p)
    | .compared before, db, .select .activeCount => .counted (decide (q > before)) (db.held u p)
    | .counted adding rows, _, .insertCart .. => .counted adding (rows + 1)
    | .counted adding rows, _, .deleteCart _ => .counted adding (rows - 1)
    | g, _, _ => g
  allows
    | .counted true rows, _, .insertCart v i => v = u ∧ i = p ∧ rows < q
    | .counted false rows, db, .deleteCart i => q < rows ∧ ∃ c ∈ db.activeCartsOf u p, c.id = i
    | _, _, w => w.Reads
  ends
    | .counted true rows => q ≤ rows
    | .counted false rows => rows ≤ q
    | _ => False

namespace QuantityStage

/-- The number a request acts on is the number there is: when it stores a
row, when it asks for the first row with rows left to delete, and when it
deletes one, which is then still there. -/
def actsOnCount (u p : Id) (q : Int) (db : Db) : QuantityStage → Stmt → Bool
  | .counted _ rows, .insertCart .. => db.held u p == rows
  | .counted _ rows, .select .activeCarts => decide (rows ≤ q) || db.held u p == rows
  | .counted _ rows, .deleteCart i =>
      db.held u p == rows && (db.activeCartsOf u p).any (·.id == i)
  | _, _ => true

/-- Whatever the request has counted, it was the number given. -/
def Knows (q : Int) (held : Nat) : QuantityStage → Prop
  | .asking => True
  | .compared before => before = held
  | .counted adding rows => adding = decide (q > held) ∧ rows = held

/-- The request counts on the number given, and that is not beyond the one
it has been asked for. -/
def Within (q : Int) (held : Nat) : QuantityStage → Prop
  | .counted true rows => rows = held ∧ rows ≤ q
  | .counted false rows => rows = held ∧ q ≤ rows
  | _ => False

variable {u p : Id} {q : Int} {held : Nat} {g : QuantityStage}

theorem Knows.eq_of_ends (h : g.Knows q held) (hends : (quantityDiscipline u p q).ends g) :
    held = q := by
  cases g with
  | asking => exact hends.elim
  | compared before => exact hends.elim
  | counted adding rows =>
    obtain ⟨hadding, rfl⟩ := h
    cases adding with
    | true =>
      have hmore : q > rows := by simpa using hadding
      exact absurd hends (by simpa [quantityDiscipline] using hmore)
    | false =>
      have hless : q ≤ rows := by simpa using hadding
      exact le_antisymm hends hless

theorem Within.eq_of_ends (h : g.Within q held) (hends : (quantityDiscipline u p q).ends g) :
    held = q := by
  cases g with
  | asking => exact hends.elim
  | compared before => exact hends.elim
  | counted adding rows =>
    cases adding with
    | true =>
      obtain ⟨rfl, hle⟩ := h
      exact le_antisymm hle hends
    | false =>
      obtain ⟨rfl, hle⟩ := h
      exact le_antisymm hends hle

end QuantityStage

/-- The request can be served as far as the database is concerned: the user
exists, the product has a stock and a price, and so has a price whatever
else is in the cart. -/
structure Db.CanSet (db : Db) (u : User) (item : Product) (stock : Int) : Prop where
  user : (db.users.find? u.id).isSome = true
  product : db.products.find? item.id = some item
  stock : item.quantity = some stock
  price : item.price.isSome = true
  others : db.OthersPriced u.id item.id

/-- What a request relies on: apart from the rows in question the database
is the one it started with, and the number it acts on is right. -/
structure QuantityRely (db : Db) (u p : Id) (q : Int) (g : QuantityStage) (s : Db) (w : Stmt) :
    Prop where
  sets : SetsRows u p (s.held u p) db s
  current : g.actsOnCount u p q s w = true

/-! ## §2 One request -/

section Succeeds

variable {db : Db} {u : User} {product : Product} {stock q : Int}

/-- From this stage on the program does what a request for `q` rows is
expected to do. -/
abbrev Serves [Env] {α : Type} (db : Db) (u : User) (product : Product) (q : Int)
    (g : QuantityStage) (k : Action α) : Prop :=
  k.Succeeds (quantityDiscipline u.id product.id q) (QuantityRely db u.id product.id q) exec g

theorem select_serves [Env] {α β : Type} {g : QuantityStage} {query : Query} {f : Db → α}
    {k : α → Action β}
    (hk : ∀ s, QuantityRely db u.id product.id q g s (.select query) →
      Serves db u product q
        ((quantityDiscipline u.id product.id q).advance g s (.select query)) (k (f s))) :
    Serves db u product q g (select query f >>= k) := by
  intro s hs
  refine ⟨?_, s, rfl, hk s hs⟩
  cases g with
  | asking => exact rfl
  | compared before => exact rfl
  | counted adding rows => cases adding <;> exact rfl

/-- Done with the loop, the request reports. -/
theorem reportQuantity_serves [Env] (hdb : db.CanSet u product stock) {adding : Bool} {rows : Nat}
    (hends : (quantityDiscipline u.id product.id q).ends (.counted adding rows)) :
    Serves db u product q (.counted adding rows) (reportQuantity u product) := by
  unfold reportQuantity total
  rw [bind_assoc]
  refine select_serves fun s hs => ?_
  obtain ⟨price, hprice⟩ := Option.isSome_iff_exists.mp hdb.price
  have hpriced : s.CartPriced u.id := (hs.sets.cartPriced_iff hdb.product hprice).mpr hdb.others
  rw [total_eq_ok.mpr ⟨hpriced, rfl⟩]
  exact select_serves fun s' _ => hends

/-- The adding loop, with as many passes left as rows are missing. -/
theorem addCarts_serves [Env] (hdb : db.CanSet u product stock) {n rows : Nat}
    (hn : n = (q - rows).toNat) :
    Serves db u product q (.counted true rows)
      (Prog.times n (Prog.perform (.insertCart u.id product.id)) >>= fun _ =>
        reportQuantity u product) := by
  induction n generalizing rows with
  | zero =>
    have hends : q ≤ rows := by omega
    exact reportQuantity_serves hdb hends
  | succ n ih =>
    intro s hs
    have huser : (s.users.find? u.id).isSome = true := by rw [hs.sets.users_eq]; exact hdb.user
    have hproduct : (s.products.find? product.id).isSome = true := by
      rw [hs.sets.products_eq, hdb.product]; rfl
    obtain ⟨s', hexec, -⟩ := insertCart_sets huser hproduct
    exact ⟨⟨rfl, rfl, by omega⟩, s', hexec, ih (by omega)⟩

/-- Asked for with rows left to delete, there is a first row. -/
theorem firstActive_serves [Env] {α : Type} (hq : 0 ≤ q) {rows : Nat} {k : Option Cart → Action α}
    (hk : ∀ first, (q < rows → first.isSome = true) →
      Serves db u product q (.counted false rows) (k first)) :
    Serves db u product q (.counted false rows) (firstActive u product none >>= k) := by
  refine select_serves fun s hs => hk _ fun hmore => ?_
  have hcurrent := hs.current
  simp only [QuantityStage.actsOnCount, not_le.mpr hmore, decide_false, Bool.false_or,
    beq_iff_eq] at hcurrent
  have hpos : 0 < (s.activeCartsOf u.id product.id).length := by
    rw [← Db.held, hcurrent]
    omega
  rw [List.isSome_head?]
  exact List.ne_nil_of_length_pos hpos

/-- The removing loop, with as many passes left as rows are too many, and
with a row in hand if the relation has been loaded for one more pass. -/
theorem removeCarts_serves [Env] (hdb : db.CanSet u product stock) (hq : 0 ≤ q) {n rows : Nat}
    (hn : n = (rows - q).toNat) {loaded : Option (Option Cart)}
    (hloaded : ∀ first ∈ loaded, q < rows → first.isSome = true) :
    Serves db u product q (.counted false rows)
      (removeCarts u product n loaded >>= fun _ => reportQuantity u product) := by
  induction n generalizing rows loaded with
  | zero =>
    have hends : (rows : Int) ≤ q := by omega
    exact reportQuantity_serves hdb hends
  | succ n ih =>
    have hmore : q < rows := by omega
    -- one pass, from the row it destroys on
    have hpass : ∀ first : Option Cart, first.isSome = true →
        Serves db u product q (.counted false rows) (do
          let cart ← Prog.orRaise first .noMethodError
          Prog.perform (.deleteCart cart.id)
          let reloaded ← firstActive u product none
          removeCarts u product n (some reloaded)
          reportQuantity u product) := by
      intro first hfirst
      obtain ⟨c, rfl⟩ := Option.isSome_iff_exists.mp hfirst
      intro s hs
      have hcurrent := hs.current
      simp only [QuantityStage.actsOnCount, Bool.and_eq_true, List.any_eq_true,
        beq_iff_eq] at hcurrent
      refine ⟨⟨hmore, hcurrent.2⟩, _, rfl, ?_⟩
      refine firstActive_serves hq fun reloaded hreloaded => ih (by omega) ?_
      rintro first ⟨⟩
      exact hreloaded
    unfold removeCarts
    simp only [bind_assoc]
    cases loaded with
    | none => exact firstActive_serves hq fun first hfirst => hpass first (hfirst hmore)
    | some first => exact hpass first (hloaded first rfl hmore)

/-- A request for a number from zero to the stock. -/
theorem updateQuantity_serves [Env] (hdb : db.CanSet u product stock) {params : CartParams}
    (hparams : params.productId = some product.id) {text : String} (hpos : 0 ≤ toI text)
    (hle : toI text ≤ stock) :
    Serves db u product (toI text) .asking (updateQuantity u (some params) (some text)) := by
  unfold updateQuantity setProduct
  simp only [Prog.orRaise_some, Prog.ret_bind, bind_assoc, hparams]
  refine select_serves fun s hs => ?_
  have hfind : s.products.find? product.id = some product := by
    rw [hs.sets.products_eq]; exact hdb.product
  simp only [Option.bind_some, hfind, Prog.orRaise_some, Prog.ret_bind, hdb.stock,
    not_lt.mpr hle, if_false]
  refine select_serves fun s₁ _ => ?_
  have hheld : ∀ s : Db, (s.activeCartsOf u.id product.id).length = s.held u.id product.id :=
    fun _ => rfl
  simp only [hheld]
  by_cases hmore : toI text > s₁.held u.id product.id
  · simp only [hmore, if_true]
    refine select_serves fun s₂ _ => ?_
    simp only [quantityDiscipline, hmore, decide_true]
    exact addCarts_serves hdb rfl
  · simp only [hmore, if_false]
    refine select_serves fun s₂ _ => ?_
    simp only [quantityDiscipline, hmore, decide_false]
    exact removeCarts_serves hdb hpos rfl (by simp)

end Succeeds

/-! ## §3 The pool -/

/-- A statement that is allowed and can be relied on is a query, or it
brings the rows one closer to the number asked for. -/
theorem quantityStmt_cases [Env] {db s s' : Db} {u p : Id} {q : Int} {g : QuantityStage} {w : Stmt}
    (hallows : (quantityDiscipline u p q).allows g s w) (hrely : QuantityRely db u p q g s w)
    (hexec : exec w s = .ok s') :
    (w.Reads ∧ s' = s) ∨ ∃ rows, SetsRows u p rows s s' ∧
      ((quantityDiscipline u p q).advance g s w).Within q rows := by
  have hcurrent := hrely.current
  have hreads : w.Reads → w.Reads ∧ s' = s := by
    intro hw
    rw [exec_reads hw] at hexec
    cases hexec
    exact ⟨hw, rfl⟩
  cases g with
  | asking => exact .inl (hreads hallows)
  | compared before => exact .inl (hreads hallows)
  | counted adding rows =>
    cases w with
    | insertCart v i =>
      cases adding with
      | false => exact .inl (hreads hallows)
      | true =>
        obtain ⟨rfl, rfl, hmore⟩ := hallows
        obtain rfl : s.held v i = rows := beq_iff_eq.mp hcurrent
        obtain ⟨huser, hproduct, -⟩ := exec_insertCart_ok hexec
        obtain ⟨s₁, hs₁, hset⟩ := insertCart_sets huser hproduct
        cases hexec.symm.trans hs₁
        exact .inr ⟨_, hset, rfl, by omega⟩
    | deleteCart i =>
      cases adding with
      | true => exact .inl (hreads hallows)
      | false =>
        obtain ⟨hmore, c, hc, rfl⟩ := hallows
        obtain rfl : s.held u p = rows := beq_iff_eq.mp (Bool.and_eq_true _ _ ▸ hcurrent).1
        cases hexec
        exact .inr ⟨_, deleteActive_sets hc, rfl, by omega⟩
    | _ => cases adding <;> exact .inl (hreads hallows)

section Reads

variable {u p : Id} {q : Int} {g : QuantityStage} {w : Stmt} (s : Db)

/-- A query that counts learns the number there is. -/
theorem QuantityStage.Knows.reads (h : g.Knows q (s.held u p)) (hw : w.Reads) :
    ((quantityDiscipline u p q).advance g s w).Knows q (s.held u p) := by
  cases w with
  | select query =>
    cases query with
    | activeCount =>
      cases g with
      | asking => exact rfl
      | compared before => exact ⟨by rw [← show before = s.held u p from h], rfl⟩
      | counted adding rows => exact h
    | _ => cases g <;> exact h
  | post body => cases g <;> exact h
  | _ => cases hw

/-- Once in its loop a request counts no more. -/
theorem QuantityStage.Within.reads {held : Nat} (h : g.Within q held) (hw : w.Reads) :
    ((quantityDiscipline u p q).advance g s w).Within q held := by
  cases g with
  | asking => exact h.elim
  | compared before => exact h.elim
  | counted adding rows =>
    cases w with
    | select query => exact h
    | post body => exact h
    | _ => cases hw

end Reads

/-- The requests of one user for one product, none of which has started. -/
def quantityPool (db : Db) (u : User) (requests : List (CartParams × String)) :
    Pool Db Stmt Failure Response :=
  .start db (requests.map fun r => updateQuantity u (some r.1) (some r.2))

/-- The number the request at a place asks for. -/
def quantityOf (requests : List (CartParams × String)) (i : Nat) : Int :=
  ((requests.map fun r => toI r.2)[i]?).getD 0

section Pool

variable (u : User) (product : Product) (requests : List (CartParams × String))

/-- Where a request is, by what it has executed. -/
def quantityStage (c : Pool Db Stmt Failure Response) (i : Nat) : QuantityStage :=
  c.stage (quantityDiscipline u.id product.id (quantityOf requests i)) i

/-- The scheduled request acts on the number of rows there is. -/
def ActsOnCount (c : Pool Db Stmt Failure Response) (i : Nat) : Prop :=
  ∀ w ∈ c.next i, (quantityStage u product requests c i).actsOnCount u.id product.id
    (quantityOf requests i) c.store w = true

instance (c : Pool Db Stmt Failure Response) (i : Nat) :
    Decidable (ActsOnCount u product requests c i) :=
  inferInstanceAs (Decidable (∀ w ∈ c.next i, _))

/-- The invariant of the pool. Either nothing has been written, and whoever
has counted has counted the rows there are; or the request that wrote last
knows them, and they are not beyond what it was asked for. -/
structure QuantityInv [Env] (db : Db) (c : Pool Db Stmt Failure Response) : Prop where
  serving : c.Succeeding (fun i => quantityDiscipline u.id product.id (quantityOf requests i))
    (fun i => QuantityRely db u.id product.id (quantityOf requests i)) exec
  sets : SetsRows u.id product.id (c.store.held u.id product.id) db c.store
  writer :
    (∀ i, (quantityStage u product requests c i).Knows (quantityOf requests i)
      (c.store.held u.id product.id)) ∨
    ∃ i < c.threads.length, (quantityStage u product requests c i).Within (quantityOf requests i)
      (c.store.held u.id product.id)

end Pool

section Inv

variable {db : Db} {u : User} {product : Product} {requests : List (CartParams × String)}

theorem quantityInv_start [Env] {stock : Int} (hdb : db.CanSet u product stock)
    (hproduct : ∀ r ∈ requests, r.1.productId = some product.id)
    (hq : ∀ r ∈ requests, 0 ≤ toI r.2 ∧ toI r.2 ≤ stock) :
    QuantityInv u product requests db (quantityPool db u requests) := by
  refine ⟨fun i p hp => ?_, .refl _ _ db, .inl fun _ => trivial⟩
  rw [quantityPool, Pool.start, List.getElem?_map] at hp
  obtain ⟨r, hr, rfl⟩ := Option.map_eq_some_iff.mp hp
  have hmem := List.mem_of_getElem? hr
  have hquantity : quantityOf requests i = toI r.2 := by simp [quantityOf, hr]
  simp only [hquantity]
  exact updateQuantity_serves hdb (hproduct r hmem) (hq r hmem).1 (hq r hmem).2

/-- A statement moves the request that has executed it. -/
theorem quantityStage_executed (c : Pool Db Stmt Failure Response) (s' : Db)
    (ps : List (Action Response)) (i j : Nat) (w : Stmt) :
    quantityStage u product requests ⟨s', ps, c.history ++ [⟨i, c.store, w⟩]⟩ j =
      if j = i then (quantityDiscipline u.id product.id (quantityOf requests i)).advance
        (quantityStage u product requests c i) c.store w
      else quantityStage u product requests c j := by
  unfold quantityStage
  rw [Pool.stage_executed]
  by_cases hji : j = i
  · subst hji
    rfl
  · rw [if_neg hji, if_neg hji]

/-- A query changes nothing but what the request knows. -/
theorem QuantityInv.writer_reads [Env] {c : Pool Db Stmt Failure Response} {i : Nat} {w : Stmt}
    (h : QuantityInv u product requests db c) (hw : w.Reads) (p : Action Response) :
    (∀ j, (quantityStage u product requests
      ⟨c.store, c.threads.set i p, c.history ++ [⟨i, c.store, w⟩]⟩ j).Knows
        (quantityOf requests j) (c.store.held u.id product.id)) ∨
    ∃ j < (c.threads.set i p).length, (quantityStage u product requests
      ⟨c.store, c.threads.set i p, c.history ++ [⟨i, c.store, w⟩]⟩ j).Within
        (quantityOf requests j) (c.store.held u.id product.id) := by
  simp only [quantityStage_executed, List.length_set]
  rcases h.writer with hknows | ⟨j, hj, hwithin⟩
  · refine .inl fun j => ?_
    split
    · next hji => subst hji; exact (hknows j).reads _ hw
    · exact hknows j
  · refine .inr ⟨j, hj, ?_⟩
    split
    · next hji => subst hji; exact hwithin.reads _ hw
    · exact hwithin

/-- One statement of one request. -/
theorem quantityInv_step [Env] {c : Pool Db Stmt Failure Response} {i : Nat}
    (h : QuantityInv u product requests db c) (hi : ActsOnCount u product requests c i) :
    QuantityInv u product requests db (c.step exec i) := by
  have hrely : ∀ w, c.next i = some w → QuantityRely db u.id product.id (quantityOf requests i)
      (quantityStage u product requests c i) c.store w := fun w hw => ⟨h.sets, hi w hw⟩
  have hserving := Pool.succeeding_step h.serving hrely
  rcases h.serving.step_cases hrely with ⟨w, k, s', hthread, hexec, hallows, hs⟩ | hs
  · have hnext := Pool.next_of_stmt hthread
    rw [hs] at hserving ⊢
    rcases quantityStmt_cases hallows (hrely w hnext) hexec with ⟨hreads, rfl⟩ | ⟨n, hset, hwithin⟩
    · exact ⟨hserving, h.sets, h.writer_reads hreads _⟩
    · -- the request is the one that wrote last
      have hlt : i < c.threads.length := Pool.lt_length_of_next (by rw [hnext]; rfl)
      have hheld := hset.held
      refine ⟨hserving, ?_, .inr ⟨i, by simpa using hlt, ?_⟩⟩
      · rw [hheld]
        exact h.sets.trans hset
      · rw [quantityStage_executed, if_pos rfl, hheld]
        exact hwithin
  · rw [hs]
    exact h

end Inv

/-! ## §4 The schedule -/

/-- **Quantities under interleaving.** Any number of requests for numbers
from zero to the stock, under any schedule: if every request acts on the
number of rows there is, none fails, and once all have ended the number of
rows is one that was asked for. -/
theorem quantities_interleaved [Env] {db : Db} {u : User} {product : Product} {stock : Int}
    (hdb : db.CanSet u product stock) (requests : List (CartParams × String))
    (hproduct : ∀ r ∈ requests, r.1.productId = some product.id)
    (hq : ∀ r ∈ requests, 0 ≤ toI r.2 ∧ toI r.2 ≤ stock) (schedule : List Nat)
    (h : Along (Pool.step exec) (ActsOnCount u product requests) (quantityPool db u requests)
      schedule) :
    (∀ i, (Pool.run exec (quantityPool db u requests) schedule).failure i = none) ∧
    (requests ≠ [] → (∀ i < requests.length,
        (Pool.run exec (quantityPool db u requests) schedule).next i = none) →
      ∃ r ∈ requests, ((Pool.run exec (quantityPool db u requests) schedule).store.held u.id
        product.id : Int) = toI r.2) := by
  have hinv := Along.foldl_inv (QuantityInv u product requests db)
    (fun _ _ => quantityInv_step) (quantityInv_start hdb hproduct hq) h
  refine ⟨hinv.serving.failure, fun hne hended => ?_⟩
  have hlength := Pool.length_run exec (quantityPool db u requests) schedule
  rw [quantityPool, Pool.start, List.length_map] at hlength
  -- a request in whose stage the number of rows is the one it asked for
  suffices hsome : ∃ i < requests.length, ((Pool.run exec (quantityPool db u requests)
      schedule).store.held u.id product.id : Int) = quantityOf requests i by
    obtain ⟨i, hi, heq⟩ := hsome
    refine ⟨requests[i], List.getElem_mem hi, ?_⟩
    rw [heq]
    simp [quantityOf, hi]
  rcases hinv.writer with hknows | ⟨i, hi, hwithin⟩
  · have hpos := List.length_pos_iff.mpr hne
    have hends := hinv.serving.ends (hpos.trans_eq hlength.symm) (hended 0 hpos)
    exact ⟨0, hpos, (hknows 0).eq_of_ends hends⟩
  · have hlt := hi.trans_eq hlength
    exact ⟨i, hlt, hwithin.eq_of_ends (hinv.serving.ends hi (hended i hlt))⟩

/-- Ann, who has two leashes, sends two requests for leashes. -/
def leashRequests (text₁ text₂ : String) : List (CartParams × String) :=
  [({ productId := some 1 }, text₁), ({ productId := some 1 }, text₂)]

theorem annsShop_canSet : (annsShop (some 30)).CanSet ann leash 5 :=
  ⟨by decide, by decide, rfl, rfl, annsShop_othersPriced⟩

section Example

attribute [local instance] Env.caseInsensitive

/-- The second request looks the product up before the first one adds its
rows and counts after that; its deletions mix with the totals of the
first. -/
theorem quantities_interleaved_fourThenOne :
    Along (Pool.step exec) (ActsOnCount ann leash (leashRequests "4" "1"))
      (quantityPool (annsShop (some 30)) ann (leashRequests "4" "1"))
      [0, 1, 0, 0, 0, 0, 1, 1, 0, 1, 1, 0, 1, 1, 1, 1, 1, 1, 1] ∧
    ∃ r ∈ leashRequests "4" "1", ((Pool.run exec
      (quantityPool (annsShop (some 30)) ann (leashRequests "4" "1"))
      [0, 1, 0, 0, 0, 0, 1, 1, 0, 1, 1, 0, 1, 1, 1, 1, 1, 1, 1]).store.held 1 1 : Int) =
        toI r.2 := by
  have hsteps : Along (Pool.step exec) (ActsOnCount ann leash (leashRequests "4" "1"))
      (quantityPool (annsShop (some 30)) ann (leashRequests "4" "1"))
      [0, 1, 0, 0, 0, 0, 1, 1, 0, 1, 1, 0, 1, 1, 1, 1, 1, 1, 1] := by decide +kernel
  exact ⟨hsteps, (quantities_interleaved annsShop_canSet _ (by decide) (by decide) _ hsteps).2
    (by decide) (by decide +kernel)⟩

/-- Two requests for four leashes that both count two add two each; of two
requests for none that both count two, one finds no row to delete. -/
theorem quantities_add_up :
    (annsShop (some 30)).CanSet ann leash 5 ∧ (annsShop (some 30)).held 1 1 = 2 ∧
    (∀ i < 2, (Pool.run exec (quantityPool (annsShop (some 30)) ann (leashRequests "4" "4"))
      [0, 0, 0, 1, 1, 1, 0, 0, 0, 0, 1, 1, 1, 1]).next i = none) ∧
    (Pool.run exec (quantityPool (annsShop (some 30)) ann (leashRequests "4" "4"))
      [0, 0, 0, 1, 1, 1, 0, 0, 0, 0, 1, 1, 1, 1]).store.held 1 1 = 6 ∧
    (Pool.run exec (quantityPool (annsShop (some 30)) ann (leashRequests "0" "0"))
      [0, 0, 0, 1, 1, 1, 0, 0, 0, 0, 0, 1]).failure 1 = some .noMethodError :=
  ⟨annsShop_canSet, by decide, by decide +kernel, by decide +kernel, by decide +kernel⟩

end Example

end PetParadise
