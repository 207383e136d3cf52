/-
PetParadise.Store.FreshKeys — rows up to the keys a run gives them.

Two runs that store the same rows give them different keys when the tables
were not equally long before. `Key.of n` names a key by whether it was
given out before the table's counter stood at `n`: an old key is itself, a
new one is its distance from `n`.

`AlikeRows n m p q f g t u` compares two tables that have grown from the
counters `n` and `m`. The rows that `p` selects in `t` and those that `q`
selects in `u` are the same list, where a row counts as its key, seen from
the counter, and what `f` or `g` shows of the rest. There is one rule per
table operation.
-/
import PetParadise.Store.Table

namespace PetParadise.Store

inductive Key where
  | old (i : Nat)
  | fresh (i : Nat)
  deriving DecidableEq, Repr

namespace Key

def of (n i : Nat) : Key := if i < n then .old i else .fresh (i - n)

theorem of_of_lt {n i : Nat} (h : i < n) : Key.of n i = .old i := if_pos h

theorem of_of_le {n i : Nat} (h : n ≤ i) : Key.of n i = .fresh (i - n) :=
  if_neg (Nat.not_lt_of_le h)

theorem of_inj {n i j : Nat} : Key.of n i = Key.of n j ↔ i = j := by
  constructor
  · intro h
    by_cases hi : i < n
    · by_cases hj : j < n
      · rw [of_of_lt hi, of_of_lt hj] at h
        cases h
        rfl
      · rw [of_of_lt hi, of_of_le (Nat.le_of_not_lt hj)] at h
        cases h
    · by_cases hj : j < n
      · rw [of_of_le (Nat.le_of_not_lt hi), of_of_lt hj] at h
        cases h
      · rw [of_of_le (Nat.le_of_not_lt hi), of_of_le (Nat.le_of_not_lt hj)] at h
        have hsub : i - n = j - n := by simpa using h
        omega
  · intro h
    rw [h]

/-- The next keys of two tables that have grown by the same. -/
theorem of_succ {m n i j : Nat} (hm : m ≤ i) (hn : n ≤ j) (h : Key.of m i = Key.of n j) :
    Key.of m (i + 1) = Key.of n (j + 1) := by
  rw [of_of_le hm, of_of_le hn] at h
  have hsub : i - m = j - n := by simpa using h
  rw [of_of_le (Nat.le_succ_of_le hm), of_of_le (Nat.le_succ_of_le hn)]
  congr 1
  omega

end Key

/-! ## Tables that grow alike -/

structure AlikeRows {α β : Type} [Row α] (n m : Nat) (p q : α → Bool) (f g : α → β)
    (t u : Table α) : Prop where
  rows : (t.rows.filter p).map (fun r => (Key.of n (Row.id r), f r)) =
    (u.rows.filter q).map (fun r => (Key.of m (Row.id r), g r))
  next : Key.of n t.next = Key.of m u.next
  le_left : n ≤ t.next
  le_right : m ≤ u.next

namespace AlikeRows

variable {α β : Type} [Row α] {n m : Nat} {p q : α → Bool} {f g : α → β} {t u : Table α}

/-- Before anything is stored every key is an old one. -/
theorem start (h : t.rows.filter p = u.rows.filter q) (hfg : ∀ r ∈ t.rows.filter p, f r = g r) :
    AlikeRows t.next u.next p q f g t u := by
  refine ⟨?_, by simp [Key.of_of_le], Nat.le_refl _, Nat.le_refl _⟩
  rw [← h]
  apply List.map_congr_left
  intro r hr
  have ht := t.fresh r (List.mem_of_mem_filter hr)
  have hu := u.fresh r (List.mem_of_mem_filter (h ▸ hr))
  rw [Key.of_of_lt ht, Key.of_of_lt hu, hfg r hr]

/-- Picking rows by what is seen of them. -/
theorem filter (h : AlikeRows n m p q f g t u) {P Q : α → Bool} {w : β → Bool}
    (hP : ∀ a, w (f a) = P a) (hQ : ∀ a, w (g a) = Q a) :
    ((t.rows.filter p).filter P).map (fun r => (Key.of n (Row.id r), f r)) =
      ((u.rows.filter q).filter Q).map (fun r => (Key.of m (Row.id r), g r)) := by
  have hseen : ∀ (k : Nat) (f : α → β) (P : α → Bool) (l : List α), (∀ a, w (f a) = P a) →
      (l.filter P).map (fun r => (Key.of k (Row.id r), f r)) =
        (l.map (fun r => (Key.of k (Row.id r), f r))).filter (fun x => w x.2) := by
    intro k f P l hP
    rw [List.filter_map]
    congr 1
    apply List.filter_congr
    intro a _
    exact (hP a).symm
  rw [hseen n f P _ hP, hseen m g Q _ hQ, h.rows]

theorem insert (h : AlikeRows n m p q f g t u) {a b : α} (hp : p (Row.withId t.next a) = true)
    (hq : q (Row.withId u.next b) = true)
    (hfg : f (Row.withId t.next a) = g (Row.withId u.next b)) :
    AlikeRows n m p q f g (t.insert a) (u.insert b) where
  rows := by
    simp [List.filter_append, hp, hq, h.rows, Row.id_withId, h.next, hfg]
  next := Key.of_succ h.le_left h.le_right h.next
  le_left := Nat.le_succ_of_le h.le_left
  le_right := Nat.le_succ_of_le h.le_right

/-- Deleting the rows with one key, wherever that key is. -/
theorem delete (h : AlikeRows n m p q f g t u) {i j : Nat} (hij : Key.of n i = Key.of m j) :
    AlikeRows n m p q f g (t.delete (fun r => Row.id r == i))
      (u.delete (fun r => Row.id r == j)) where
  rows := by
    -- on the rows as they are seen, it is one filter on both sides
    have hseen : ∀ (k i : Nat) (f : α → β) (l : List α),
        (l.filter (fun r => !(Row.id r == i))).map (fun r => (Key.of k (Row.id r), f r)) =
          (l.map (fun r => (Key.of k (Row.id r), f r))).filter
            (fun x => !(x.1 == Key.of k i)) := by
      intro k i f l
      rw [List.filter_map]
      congr 2
      funext r
      by_cases hr : Row.id r = i <;> simp [hr, Key.of_inj]
    rw [Table.rows_delete, Table.rows_delete, List.filter_comm, List.filter_comm q, hseen, hseen,
      h.rows, hij]
  next := h.next
  le_left := h.le_left
  le_right := h.le_right

/-- Rewriting rows by what is seen of them. -/
theorem modify (h : AlikeRows n m p q f g t u) {P Q : α → Bool} {F G : α → α}
    (hF : ∀ a, Row.id (F a) = Row.id a) (hG : ∀ a, Row.id (G a) = Row.id a)
    (hp : ∀ a, p (F a) = p a) (hq : ∀ a, q (G a) = q a) (w : β → β)
    (hf : ∀ a, f (if P a then F a else a) = w (f a))
    (hg : ∀ a, g (if Q a then G a else a) = w (g a)) :
    AlikeRows n m p q f g (t.modify P F hF) (u.modify Q G hG) where
  rows := by
    have hseen : ∀ (k : Nat) (p P : α → Bool) (F : α → α) (f : α → β) (l : List α),
        (∀ a, Row.id (F a) = Row.id a) → (∀ a, p (F a) = p a) →
        (∀ a, f (if P a then F a else a) = w (f a)) →
        ((l.map (fun r => if P r then F r else r)).filter p).map
          (fun r => (Key.of k (Row.id r), f r)) =
          ((l.filter p).map (fun r => (Key.of k (Row.id r), f r))).map
            (fun x => (x.1, w x.2)) := by
      intro k p P F f l hF hp hf
      have hkeep : (p ∘ fun r => if P r then F r else r) = p := by
        funext r
        by_cases hP : P r = true <;> simp [hP, hp]
      rw [List.filter_map, hkeep, List.map_map, List.map_map]
      apply List.map_congr_left
      intro r _
      have hid : Row.id (if P r then F r else r) = Row.id r := by
        by_cases hP : P r = true <;> simp [hP, hF]
      simp [hid, hf]
    rw [Table.rows_modify, Table.rows_modify, hseen n p P F f _ hF hp hf,
      hseen m q Q G g _ hG hq hg, h.rows]
  next := h.next
  le_left := h.le_left
  le_right := h.le_right

/-- The same rows selected in another way. -/
theorem congr (h : AlikeRows n m p q f g t u) {p' q' : α → Bool}
    (hp : ∀ r ∈ t.rows, p' r = p r) (hq : ∀ r ∈ u.rows, q' r = q r) :
    AlikeRows n m p' q' f g t u where
  rows := by rw [List.filter_congr hp, List.filter_congr hq, h.rows]
  next := h.next
  le_left := h.le_left
  le_right := h.le_right

/-- A selected row is seen on the other side, under the same key. -/
theorem exists_right (h : AlikeRows n m p q f g t u) {a : α} (ha : a ∈ t.rows) (hp : p a = true) :
    ∃ b ∈ u.rows, q b = true ∧ Key.of m (Row.id b) = Key.of n (Row.id a) ∧ g b = f a := by
  have hmem : (Key.of n (Row.id a), f a) ∈
      (t.rows.filter p).map (fun r => (Key.of n (Row.id r), f r)) :=
    List.mem_map_of_mem (List.mem_filter.mpr ⟨ha, hp⟩)
  rw [h.rows] at hmem
  obtain ⟨b, hb, heq⟩ := List.mem_map.mp hmem
  obtain ⟨hrow, hq⟩ := List.mem_filter.mp hb
  exact ⟨b, hrow, hq, congrArg Prod.fst heq, congrArg Prod.snd heq⟩

theorem symm (h : AlikeRows n m p q f g t u) : AlikeRows m n q p g f u t :=
  ⟨h.rows.symm, h.next.symm, h.le_right, h.le_left⟩

end AlikeRows

end PetParadise.Store
