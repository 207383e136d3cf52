/-
PetParadise.Store.Sums — `SELECT SUM(…) WHERE …` over a list of rows.

`sumWhere w p l` adds `w` over the rows of `l` that `p` selects. The
lemmas are those a proof about such an aggregate needs: how it grows with
the list, how it splits over a disjunction of disjoint conditions, and,
for weights that are not negative, that selecting more rows or keeping
more rows does not make it smaller. The last section is about
`SELECT a, COUNT(*) … GROUP BY a`: looking a count up, and adding over
groups instead of rows.

Nothing here mentions an application.
-/
import Mathlib.Algebra.BigOperators.Group.Finset.Basic
import Mathlib.Algebra.Ring.Int.Defs
import Mathlib.Data.Nat.Cast.Basic
import Mathlib.Algebra.Order.BigOperators.Group.List
import Mathlib.Algebra.BigOperators.Group.List.Basic
import PetParadise.Store.Table

namespace PetParadise.Store

section Algebra

variable {α M : Type} [AddCommMonoid M]

/-- The sum of `w` over the elements `p` selects. -/
def sumWhere (w : α → M) (p : α → Bool) (l : List α) : M := ((l.filter p).map w).sum

variable (w : α → M) {p q r : α → Bool} {l : List α}

@[simp] theorem sumWhere_nil (p : α → Bool) : sumWhere w p [] = 0 := rfl

theorem sumWhere_cons (p : α → Bool) (a : α) (l : List α) :
    sumWhere w p (a :: l) = (if p a then w a else 0) + sumWhere w p l := by
  cases h : p a <;> simp [sumWhere, h]

@[simp] theorem sumWhere_append (p : α → Bool) (l l' : List α) :
    sumWhere w p (l ++ l') = sumWhere w p l + sumWhere w p l' := by
  simp [sumWhere]

theorem sumWhere_singleton (p : α → Bool) (a : α) :
    sumWhere w p [a] = if p a then w a else 0 := by
  rw [sumWhere_cons, sumWhere_nil, add_zero]

theorem sumWhere_congr (h : ∀ a ∈ l, p a = q a) : sumWhere w p l = sumWhere w q l := by
  unfold sumWhere
  rw [List.filter_congr h]

theorem sumWhere_eq_zero (h : ∀ a ∈ l, p a = false) : sumWhere w p l = 0 := by
  have hnil : l.filter p = [] := by
    rw [List.filter_eq_nil_iff]
    intro a ha
    rw [h a ha]
    exact Bool.false_ne_true
  rw [sumWhere, hnil]
  rfl

/-- Selecting among the rows another condition has selected. -/
theorem sumWhere_filter (p q : α → Bool) (l : List α) :
    sumWhere w p (l.filter q) = sumWhere w (fun a => p a && q a) l := by
  rw [sumWhere, List.filter_filter]
  rfl

/-- A condition that splits into two disjoint ones splits the sum. -/
theorem sumWhere_split (hr : ∀ a ∈ l, r a = (p a || q a))
    (hdisj : ∀ a ∈ l, p a = true → q a = false) :
    sumWhere w r l = sumWhere w p l + sumWhere w q l := by
  induction l with
  | nil => simp
  | cons a l ih =>
    have ha := hr a List.mem_cons_self
    have hd := hdisj a List.mem_cons_self
    rw [sumWhere_cons, sumWhere_cons, sumWhere_cons,
      ih (fun b hb => hr b (List.mem_cons_of_mem _ hb))
        (fun b hb => hdisj b (List.mem_cons_of_mem _ hb)), ha]
    cases hp : p a with
    | false => simp [add_left_comm]
    | true => simp [hd hp, add_assoc]

theorem sumWhere_eq_sum (p : α → Bool) (l : List α) :
    sumWhere w p l = (l.map fun a => if p a then w a else 0).sum := by
  induction l with
  | nil => rfl
  | cons a l ih => rw [sumWhere_cons, ih, List.map_cons, List.sum_cons]

/-- Storing rows adds their sum, if neither weight nor condition looks at
the key they are given. -/
theorem sumWhere_insertAll [Row α] (hw : ∀ i a, w (Row.withId i a) = w a)
    (hp : ∀ i a, p (Row.withId i a) = p a) (t : Table α) (as : List α) :
    sumWhere w p (t.insertAll as).rows = sumWhere w p t.rows + sumWhere w p as := by
  induction as generalizing t with
  | nil => simp
  | cons a as ih =>
    rw [Table.insertAll_cons, ih, Table.rows_insert, sumWhere_append, sumWhere_singleton,
      sumWhere_cons, hw, hp, add_assoc]

end Algebra

section Order

variable {α M : Type} [AddCommMonoid M] [PartialOrder M] [IsOrderedAddMonoid M]
variable {w : α → M} {p q : α → Bool} {l l' : List α}

theorem sumWhere_nonneg (h : ∀ a ∈ l, p a = true → 0 ≤ w a) : 0 ≤ sumWhere w p l := by
  refine List.sum_nonneg fun x hx => ?_
  obtain ⟨a, ha, rfl⟩ := List.mem_map.mp hx
  obtain ⟨hmem, hp⟩ := List.mem_filter.mp ha
  exact h a hmem hp

/-- Selecting more does not make the sum smaller. -/
theorem sumWhere_le_sumWhere (hw : ∀ a ∈ l, 0 ≤ w a) (h : ∀ a ∈ l, p a = true → q a = true) :
    sumWhere w p l ≤ sumWhere w q l := by
  induction l with
  | nil => simp
  | cons a l ih =>
    rw [sumWhere_cons, sumWhere_cons]
    have htail := ih (fun b hb => hw b (List.mem_cons_of_mem _ hb))
      (fun b hb => h b (List.mem_cons_of_mem _ hb))
    refine add_le_add ?_ htail
    have ha := hw a List.mem_cons_self
    cases hp : p a with
    | false => cases q a <;> simp [ha]
    | true => simp [h a List.mem_cons_self hp]

/-- Keeping more rows does not make the sum smaller. -/
theorem sumWhere_le_of_sublist (hw : ∀ a ∈ l', 0 ≤ w a) (h : l.Sublist l') :
    sumWhere w p l ≤ sumWhere w p l' := by
  refine ((h.filter p).map w).sum_le_sum fun x hx => ?_
  obtain ⟨a, ha, rfl⟩ := List.mem_map.mp hx
  exact hw a (List.mem_of_mem_filter ha)

end Order

section Grouped

variable {α : Type} [DecidableEq α]

theorem lookup_map_self {β : Type} (f : α → β) {l : List α} {a : α} (h : a ∈ l) :
    (l.map fun b => (b, f b)).lookup a = some (f a) := by
  induction l with
  | nil => cases h
  | cons b l ih =>
    rw [List.map_cons, List.lookup_cons]
    by_cases hab : a = b
    · subst hab; simp
    · have hne : (a == b) = false := beq_eq_false_iff_ne.mpr hab
      simp [hne, ih ((List.mem_cons.mp h).resolve_left hab)]

/-- A group is found under its value. -/
theorem lookup_groups {l : List α} {a : α} (h : a ∈ l) :
    (l.dedup.map fun b => (b, l.count b)).lookup a = some (l.count a) :=
  lookup_map_self _ (List.mem_dedup.mpr h)

/-- Adding `f` times the count over groups is adding `f` over rows. -/
theorem sum_groups (f : α → Int) (l : List α) :
    (l.dedup.map fun a => f a * l.count a).sum = (l.map f).sum := by
  have hset : l.dedup.toFinset = l.toFinset := by
    ext a
    simp only [List.mem_toFinset, List.mem_dedup]
  rw [← List.sum_toFinset _ l.nodup_dedup, hset, Finset.sum_list_map_count]
  refine Finset.sum_congr rfl fun a _ => ?_
  rw [nsmul_eq_mul, mul_comm]

/-- The group of one value is as large as its count. -/
theorem sum_group_eq_count (l : List α) (a : α) :
    (l.dedup.map fun b => if b == a then (l.count b : Int) else 0).sum = l.count a := by
  have hone : (l.map fun b => if b == a then (1 : Int) else 0).sum = l.count a := by
    rw [← sumWhere_eq_sum (fun _ => (1 : Int)) (· == a), sumWhere, List.map_const',
      List.sum_replicate, ← List.countP_eq_length_filter, nsmul_eq_mul, mul_one]
    rfl
  rw [← hone, ← sum_groups (fun b => if b == a then 1 else 0) l]
  congr 1
  refine List.map_congr_left fun b _ => ?_
  split <;> simp

/-- The groups together are the rows. -/
theorem sum_group_replicate (l : List α) :
    (l.dedup.map fun a => Multiset.replicate (l.count a) a).sum = (l : Multiset α) := by
  have hset : l.dedup.toFinset = (l : Multiset α).toFinset := by
    ext a
    simp
  rw [← List.sum_toFinset _ l.nodup_dedup, hset]
  simpa [Multiset.nsmul_singleton] using Multiset.toFinset_sum_count_nsmul_eq (l : Multiset α)

end Grouped

end PetParadise.Store
