/-
PetParadise.Shop.AbstractShop — what the shop is for, without tables.

A shop has offers, a bag per customer, and orders. An order takes the
whole bag, at the prices of the moment. `past` remembers, per customer,
the units that left the bag for an order or were put aside. `Event` lists
everything that can happen to a shop, `Shop.may` who may make it happen
and when, `Shop.apply` what it does.

Two of the events are not what one would wish for. `breakOff` is an order
that stops half-way: it is on the books with some of its items, and the
bag is as full as before. It takes a negative price to happen. And `pay`
is caused by somebody who is not signed in.

`Shop.Fair` says that nobody has ordered more than left their bag. Without
negative prices it is an invariant (`Shop.Fair.apply`).
-/
import Mathlib.Algebra.BigOperators.Group.Multiset.Basic
import Mathlib.Algebra.GroupWithZero.Nat
import Mathlib.Data.Multiset.Count
import PetParadise.Store.Simulation

namespace PetParadise

open Store

/-- How an order is paid for. -/
inductive Payment where
  | onDelivery
  | awaited
  | received
  deriving DecidableEq, Repr

/-- A product on offer; price and stock may be left open. -/
structure Offer where
  price : Option Int
  stock : Option Int
  deriving DecidableEq, Repr

structure Order (U P K : Type) where
  number : K
  customer : U
  amount : Int
  items : Multiset P
  payment : Payment
  shipped : Bool

@[ext] structure Shop (U P K : Type) where
  offer : P → Option Offer
  bag : U → Multiset P
  past : U → Multiset P
  orders : List (Order U P K)

/-- Somebody who sends a request. -/
inductive Caller (U : Type) where
  | visitor
  | customer (u : U)
  | clerk (u : U)
  | manager (u : U)
  deriving DecidableEq, Repr

namespace Caller

variable {U : Type}

/-- Who it is. -/
def user : Caller U → Option U
  | visitor => none
  | customer u => some u
  | clerk u => some u
  | manager u => some u

/-- Somebody who works in the shop. -/
def isStaff : Caller U → Bool
  | visitor => false
  | customer _ => false
  | clerk _ => true
  | manager _ => true

def isManager : Caller U → Bool
  | manager _ => true
  | _ => false

end Caller

namespace Shop

variable {U P K : Type}

inductive Event (U P K : Type) where
  | idle
  | hold (u : U) (p : P) (n : Nat)
  | putAside (u : U) (p : P)
  | order (u : U) (k : K) (payment : Payment)
  | breakOff (u : U) (k : K) (payment : Payment) (items : Multiset P)
  | pay (k : K)
  | ship (k : K)
  | setOffer (p : P) (o : Offer)
  | discontinue (p : P)
  | leave (u : U)

def price (s : Shop U P K) (p : P) : Option Int := (s.offer p).bind Offer.price

/-- What the bag costs. -/
def value (s : Shop U P K) (u : U) : Int := ((s.bag u).map fun p => (s.price p).getD 0).sum

/-- The order of `u`'s bag, or of what was written down of it. -/
def newOrder (s : Shop U P K) (u : U) (k : K) (payment : Payment) (items : Multiset P) :
    Order U P K where
  number := k
  customer := u
  amount := s.value u
  items := items
  payment := payment
  shipped := false

/-- `u` may order: the number is new and everything has a price. -/
def MayOrder (s : Shop U P K) (u : U) (k : K) (payment : Payment) : Prop :=
  (∀ o ∈ s.orders, o.number ≠ k) ∧ (∀ p ∈ s.bag u, (s.price p).isSome = true) ∧
    payment ≠ .received

/-- Who may cause which event. -/
def may (c : Caller U) (s : Shop U P K) : Event U P K → Prop
  | .idle => True
  | .hold u p n => c.user = some u ∧ (n ≠ 0 → ∃ o ∈ s.offer p, ∃ q ∈ o.stock, (n : Int) ≤ q)
  | .putAside u _ => c.user = some u
  | .order u k payment => c.user = some u ∧ s.MayOrder u k payment
  | .breakOff u k payment items => c.user = some u ∧ s.MayOrder u k payment ∧ items ≤ s.bag u ∧
      ∃ p ∈ s.bag u, ∃ n ∈ s.price p, n < 0
  | .pay k => c = .visitor ∧ ∃ o ∈ s.orders, o.number = k
  | .ship k => c.isStaff = true ∧ ∃ o ∈ s.orders, o.number = k
  | .setOffer _ _ => c.isStaff = true
  | .discontinue _ => c.isStaff = true
  | .leave u => c.user = some u ∨ c.isManager = true

variable [DecidableEq U] [DecidableEq P] [DecidableEq K]

/-- What an event does. -/
def apply (s : Shop U P K) : Event U P K → Shop U P K
  | .idle => s
  | .hold u p n => { s with
      bag := Function.update s.bag u ((s.bag u).filter (· ≠ p) + .replicate n p) }
  | .putAside u p => { s with
      bag := Function.update s.bag u ((s.bag u).filter (· ≠ p))
      past := Function.update s.past u (s.past u + (s.bag u).filter (· = p)) }
  | .order u k payment => { s with
      bag := Function.update s.bag u 0
      past := Function.update s.past u (s.past u + s.bag u)
      orders := s.orders ++ [s.newOrder u k payment (s.bag u)] }
  | .breakOff u k payment items => { s with
      orders := s.orders ++ [s.newOrder u k payment items] }
  | .pay k => { s with
      orders := s.orders.map fun o => if o.number = k then { o with payment := .received } else o }
  | .ship k => { s with
      orders := s.orders.map fun o => if o.number = k then { o with shipped := true } else o }
  | .setOffer p o => { s with offer := Function.update s.offer p (some o) }
  | .discontinue p =>
      { offer := Function.update s.offer p none
        bag := fun u => (s.bag u).filter (· ≠ p)
        past := fun u => (s.past u).filter (· ≠ p)
        orders := s.orders.map fun o => { o with items := o.items.filter (· ≠ p) } }
  | .leave u => { s with
      bag := Function.update s.bag u 0
      past := Function.update s.past u 0
      orders := s.orders.filter fun o => o.customer ≠ u }

/-- The shop as a specification. -/
def machine : Machine (Shop U P K) (Event U P K) (Caller U) where
  may := may
  apply := apply

/-! ## What was ordered left the bag -/

/-- The units of a product on a customer's orders. -/
def ordered (s : Shop U P K) (u : U) (p : P) : Nat :=
  (s.orders.map fun o => if o.customer = u then o.items.count p else 0).sum

/-- Nobody has ordered more of anything than left their bag. -/
def Fair (s : Shop U P K) : Prop := ∀ u p, s.ordered u p ≤ (s.past u).count p

omit [DecidableEq K] in
/-- Orders that change in neither customer nor items. -/
theorem ordered_map {s t : Shop U P K} {f : Order U P K → Order U P K}
    (horders : t.orders = s.orders.map f) (hf : ∀ o, (f o).customer = o.customer ∧
      (f o).items = o.items) (u : U) (p : P) : t.ordered u p = s.ordered u p := by
  simp only [ordered, horders, List.map_map, Function.comp_def, hf]

omit [DecidableEq K] in
/-- One more order. -/
theorem ordered_append {s t : Shop U P K} {o : Order U P K} (horders : t.orders = s.orders ++ [o])
    (u : U) (p : P) :
    t.ordered u p = s.ordered u p + if o.customer = u then o.items.count p else 0 := by
  simp only [ordered, horders, List.map_append, List.map_singleton, List.sum_append,
    List.sum_singleton]

/-- A product is struck off every order. -/
theorem ordered_discontinue (s : Shop U P K) (p : P) (u : U) (i : P) :
    (s.apply (.discontinue p)).ordered u i = if i = p then 0 else s.ordered u i := by
  simp only [ordered, apply, List.map_map, Function.comp_def, Multiset.count_filter]
  by_cases hi : i = p
  · simp [hi]
  · simp [hi]

/-- The orders of a customer who leaves are gone, the others are not. -/
theorem ordered_leave (s : Shop U P K) (v u : U) (p : P) :
    (s.apply (.leave v)).ordered u p = if u = v then 0 else s.ordered u p := by
  simp only [ordered, apply]
  induction s.orders with
  | nil => simp
  | cons o os ih =>
    by_cases ho : o.customer = v
    · rw [List.filter_cons_of_neg (by simp [ho]), ih, List.map_cons, List.sum_cons, ho]
      by_cases huv : u = v
      · simp [huv]
      · simp [huv, Ne.symm huv]
    · rw [List.filter_cons_of_pos (by simp [ho]), List.map_cons, List.sum_cons, ih, List.map_cons,
        List.sum_cons]
      by_cases huv : u = v
      · simp [huv, ho]
      · simp [huv]

/-- The offers hold no negative price. -/
def NoNegativePrice (s : Shop U P K) : Prop := ∀ p, ∀ n ∈ s.price p, 0 ≤ n

/-- Without negative prices every event keeps the books fair. -/
theorem Fair.apply {s : Shop U P K} (h : s.Fair) (hprices : s.NoNegativePrice) {c : Caller U}
    {e : Event U P K} (hmay : may c s e) : (s.apply e).Fair := by
  intro u p
  have hold := h u p
  cases e with
  | idle => exact hold
  | hold v i n => exact hold
  | setOffer i o => exact hold
  | pay k =>
    rw [ordered_map rfl (fun o => by split <;> exact ⟨rfl, rfl⟩)]
    exact hold
  | ship k =>
    rw [ordered_map rfl (fun o => by split <;> exact ⟨rfl, rfl⟩)]
    exact hold
  | putAside v i =>
    refine hold.trans ?_
    by_cases hv : u = v
    · subst hv
      simp [Shop.apply]
    · simp [Shop.apply, hv]
  | order v k payment =>
    rw [ordered_append rfl]
    by_cases hv : u = v
    · subst hv
      simpa [Shop.apply, newOrder] using hold
    · simpa [Shop.apply, newOrder, hv, Ne.symm hv] using hold
  | breakOff v k payment items =>
    -- the price that breaks the order off is not on offer
    obtain ⟨-, -, -, i, -, n, hn, hneg⟩ := hmay
    exact absurd (hprices i n hn) (Int.not_le.mpr hneg)
  | discontinue i =>
    rw [ordered_discontinue]
    by_cases hi : p = i
    · simp [hi]
    · simpa [Shop.apply, hi, Multiset.count_filter] using hold
  | leave v =>
    rw [ordered_leave]
    by_cases hv : u = v
    · simp [hv]
    · simpa [Shop.apply, hv] using hold

end Shop

end PetParadise
