/-
PetParadise.Store.Matching — rows of two tables matched one to one.

Two runs that store the same rows need not give them the same keys, nor
keys at the same distance: between two inserts of one run somebody else may
have taken keys. A `Matching` is the set of pairs of keys that stand for
the same row. It only grows, so that a key a program has read stays matched
while the tables go on changing.

`MatchedRows K p q S t u` says that the rows `p` selects in `t` and those
`q` selects in `u` are pairwise matched by `K` and related by `S`. There is
one rule per table operation done on both sides, and one per operation done
on the left side only, to rows that are not selected there.
-/
import PetParadise.Store.Table
import Mathlib.Data.List.Forall2
import Mathlib.Data.Set.Insert

namespace PetParadise.Store

/-- Pairs of keys that stand for the same row. -/
abbrev Matching := Set (Nat × Nat)

structure MatchedRows {α : Type} [Row α] (K : Matching) (p q : α → Bool) (S : α → α → Prop)
    (t u : Table α) : Prop where
  rows : List.Forall₂ (fun r r' => (Row.id r, Row.id r') ∈ K ∧ S r r')
    (t.rows.filter p) (u.rows.filter q)
  one_to_one : ∀ x ∈ K, ∀ y ∈ K, x.1 = y.1 ↔ x.2 = y.2
  given : ∀ x ∈ K, x.1 < t.next ∧ x.2 < u.next
  left : ∀ x ∈ K, ∀ r ∈ t.rows, Row.id r = x.1 → p r = true
  right : ∀ x ∈ K, ∀ r ∈ u.rows, Row.id r = x.2 → q r = true

theorem exists_of_mem_forall₂ {α β : Type} {R : α → β → Prop} {as : List α} {bs : List β}
    (h : List.Forall₂ R as bs) {a : α} (ha : a ∈ as) : ∃ b ∈ bs, R a b := by
  induction h with
  | nil => cases ha
  | @cons c d cs ds hcd _ ih =>
    rcases List.mem_cons.mp ha with rfl | ha
    · exact ⟨d, List.mem_cons_self, hcd⟩
    · obtain ⟨b, hb, hab⟩ := ih ha
      exact ⟨b, List.mem_cons_of_mem _ hb, hab⟩

namespace MatchedRows

variable {α : Type} [Row α] {K : Matching} {p q : α → Bool} {S : α → α → Prop} {t u : Table α}

/-- The keys of the selected rows, each matched with itself. -/
def selected (p : α → Bool) (t : Table α) : Matching :=
  { x | x.1 = x.2 ∧ ∃ r ∈ t.rows, p r = true ∧ Row.id r = x.1 }

/-- Before anything happens a table is matched with itself. -/
theorem start (p : α → Bool) (t : Table α) (hS : ∀ r ∈ t.rows, p r = true → S r r) :
    MatchedRows (selected p t) p p S t t where
  rows := by
    apply List.forall₂_same.mpr
    intro r hr
    obtain ⟨hrow, hp⟩ := List.mem_filter.mp hr
    exact ⟨⟨rfl, r, hrow, hp, rfl⟩, hS r hrow hp⟩
  one_to_one := by
    intro x hx y hy
    rw [hx.1, hy.1]
  given := by
    intro x hx
    obtain ⟨hsame, r, hr, -, hid⟩ := hx
    have hlt := t.fresh r hr
    rw [← hsame, ← hid]
    exact ⟨hlt, hlt⟩
  left := by
    intro x hx r hr hid
    obtain ⟨-, r₀, hr₀, hp, hid₀⟩ := hx
    rw [t.eq_of_id_eq hr hr₀ (hid.trans hid₀.symm)]
    exact hp
  right := by
    intro x hx r hr hid
    obtain ⟨hsame, r₀, hr₀, hp, hid₀⟩ := hx
    rw [t.eq_of_id_eq hr hr₀ (hid.trans (hsame.symm.trans hid₀.symm))]
    exact hp

theorem mono (h : MatchedRows K p q S t u) {S' : α → α → Prop} (hS : ∀ r r', S r r' → S' r r') :
    MatchedRows K p q S' t u where
  rows := h.rows.imp (fun _ _ hrr => ⟨hrr.1, hS _ _ hrr.2⟩)
  one_to_one := h.one_to_one
  given := h.given
  left := h.left
  right := h.right

/-- The same rows selected in another way. -/
theorem congr (h : MatchedRows K p q S t u) {p' q' : α → Bool} (hp : ∀ r ∈ t.rows, p' r = p r)
    (hq : ∀ r ∈ u.rows, q' r = q r) : MatchedRows K p' q' S t u where
  rows := by
    rw [List.filter_congr hp, List.filter_congr hq]
    exact h.rows
  one_to_one := h.one_to_one
  given := h.given
  left := fun x hx r hr hid => (hp r hr).trans (h.left x hx r hr hid)
  right := fun x hx r hr hid => (hq r hr).trans (h.right x hx r hr hid)

/-! ## What is read -/

theorem exists_right (h : MatchedRows K p q S t u) {i j : Nat} (hij : (i, j) ∈ K) {r : α}
    (hr : t.find? i = some r) :
    ∃ r', u.find? j = some r' ∧ p r = true ∧ q r' = true ∧ S r r' := by
  have hrow := t.mem_of_find? hr
  have hid : Row.id r = i := t.id_of_find? hr
  have hp := h.left _ hij r hrow hid
  obtain ⟨r', hr', hK, hS⟩ := exists_of_mem_forall₂ h.rows (List.mem_filter.mpr ⟨hrow, hp⟩)
  obtain ⟨hrow', hq⟩ := List.mem_filter.mp hr'
  have hid' : Row.id r' = j := (h.one_to_one _ hK _ hij).mp hid
  exact ⟨r', u.find?_eq_some_iff.mpr ⟨hrow', hid'⟩, hp, hq, hS⟩

theorem exists_left (h : MatchedRows K p q S t u) {i j : Nat} (hij : (i, j) ∈ K) {r' : α}
    (hr' : u.find? j = some r') : ∃ r, t.find? i = some r := by
  have hrow := u.mem_of_find? hr'
  have hid : Row.id r' = j := u.id_of_find? hr'
  have hq := h.right _ hij r' hrow hid
  obtain ⟨r, hr, hK, -⟩ := exists_of_mem_forall₂ h.rows.flip (List.mem_filter.mpr ⟨hrow, hq⟩)
  have hid' : Row.id r = i := (h.one_to_one _ hK _ hij).mpr hid
  exact ⟨r, t.find?_eq_some_iff.mpr ⟨List.mem_of_mem_filter hr, hid'⟩⟩

/-- Looking up matched keys: both find nothing, or both a selected row. -/
theorem find? (h : MatchedRows K p q S t u) {i j : Nat} (hij : (i, j) ∈ K) :
    (t.find? i = none ∧ u.find? j = none) ∨
      ∃ r r', t.find? i = some r ∧ u.find? j = some r' ∧ p r = true ∧ q r' = true ∧ S r r' := by
  cases hr : t.find? i with
  | some r =>
    obtain ⟨r', hr', hfound⟩ := h.exists_right hij hr
    exact .inr ⟨r, r', rfl, hr', hfound⟩
  | none =>
    cases hr' : u.find? j with
    | none => exact .inl ⟨rfl, rfl⟩
    | some r' =>
      obtain ⟨r, hfound⟩ := h.exists_left hij hr'
      rw [hr] at hfound
      cases hfound

/-- Picking further among the selected rows. -/
theorem filter (h : MatchedRows K p q S t u) {P Q : α → Bool}
    (hPQ : ∀ r r', (Row.id r, Row.id r') ∈ K → S r r' → P r = Q r') :
    List.Forall₂ (fun r r' => (Row.id r, Row.id r') ∈ K ∧ S r r')
      ((t.rows.filter p).filter P) ((u.rows.filter q).filter Q) := by
  apply List.rel_filter _ h.rows
  intro r r' hrr
  show P r = true ↔ Q r' = true
  rw [hPQ r r' hrr.1 hrr.2]

/-! ## The same operation on both sides -/

theorem insert (h : MatchedRows K p q S t u) {a b : α} (hp : p (Row.withId t.next a) = true)
    (hq : q (Row.withId u.next b) = true) (hS : S (Row.withId t.next a) (Row.withId u.next b)) :
    MatchedRows (Insert.insert (t.next, u.next) K) p q S (t.insert a) (u.insert b) where
  rows := by
    rw [Table.rows_insert, Table.rows_insert, List.filter_append, List.filter_append,
      List.filter_cons_of_pos hp, List.filter_cons_of_pos hq]
    apply List.rel_append (h.rows.imp fun _ _ hrr => ⟨Set.mem_insert_of_mem _ hrr.1, hrr.2⟩)
    refine .cons ⟨?_, hS⟩ .nil
    rw [Row.id_withId, Row.id_withId]
    exact Set.mem_insert _ _
  one_to_one := by
    intro x hx y hy
    -- a new key is on neither side of an earlier pair
    rcases Set.mem_insert_iff.mp hx with rfl | hx
    · rcases Set.mem_insert_iff.mp hy with rfl | hy
      · simp
      · have hlt := h.given y hy
        simp only
        omega
    · rcases Set.mem_insert_iff.mp hy with rfl | hy
      · have hlt := h.given x hx
        simp only
        omega
      · exact h.one_to_one x hx y hy
  given := by
    intro x hx
    rcases Set.mem_insert_iff.mp hx with rfl | hx
    · exact ⟨Nat.lt_succ_self _, Nat.lt_succ_self _⟩
    · exact ⟨Nat.lt_succ_of_lt (h.given x hx).1, Nat.lt_succ_of_lt (h.given x hx).2⟩
  left := by
    intro x hx r hr hid
    rw [Table.rows_insert, List.mem_append, List.mem_singleton] at hr
    rcases hr with hr | rfl
    · rcases Set.mem_insert_iff.mp hx with rfl | hx
      · exact absurd (t.fresh r hr) (Nat.not_lt_of_le (Nat.le_of_eq hid.symm))
      · exact h.left x hx r hr hid
    · exact hp
  right := by
    intro x hx r hr hid
    rw [Table.rows_insert, List.mem_append, List.mem_singleton] at hr
    rcases hr with hr | rfl
    · rcases Set.mem_insert_iff.mp hx with rfl | hx
      · exact absurd (u.fresh r hr) (Nat.not_lt_of_le (Nat.le_of_eq hid.symm))
      · exact h.right x hx r hr hid
    · exact hq

/-- Deleting the row behind matched keys. -/
theorem delete (h : MatchedRows K p q S t u) {i j : Nat} (hij : (i, j) ∈ K) :
    MatchedRows K p q S (t.delete (fun r => Row.id r == i))
      (u.delete (fun r => Row.id r == j)) where
  rows := by
    rw [Table.rows_delete, Table.rows_delete, List.filter_comm, List.filter_comm q]
    apply h.filter
    intro r r' hK _
    have hiff : Row.id r = i ↔ Row.id r' = j := h.one_to_one _ hK _ hij
    by_cases hid : Row.id r = i
    · simp [hid, hiff.mp hid]
    · simp [hid, mt hiff.mpr hid]
  one_to_one := h.one_to_one
  given := h.given
  left := fun x hx r hr hid => h.left x hx r (List.mem_of_mem_filter hr) hid
  right := fun x hx r hr hid => h.right x hx r (List.mem_of_mem_filter hr) hid

/-- Rewriting rows on both sides, where it does not change the selection. -/
theorem modify (h : MatchedRows K p q S t u) {P Q : α → Bool} {F G : α → α}
    (hF : ∀ a, Row.id (F a) = Row.id a) (hG : ∀ a, Row.id (G a) = Row.id a)
    (hp : ∀ a, p (F a) = p a) (hq : ∀ a, q (G a) = q a)
    (hS : ∀ r r', S r r' → S (if P r then F r else r) (if Q r' then G r' else r')) :
    MatchedRows K p q S (t.modify P F hF) (u.modify Q G hG) := by
  have hrow : ∀ (p P : α → Bool) (F : α → α) (r : α), (∀ a, Row.id (F a) = Row.id a) →
      (∀ a, p (F a) = p a) → Row.id (if P r then F r else r) = Row.id r ∧
        p (if P r then F r else r) = p r := by
    intro p P F r hF hp
    by_cases hP : P r = true
    · simp [hP, hF, hp]
    · simp [hP]
  have hfilter : ∀ (p P : α → Bool) (F : α → α) (l : List α), (∀ a, Row.id (F a) = Row.id a) →
      (∀ a, p (F a) = p a) → (l.map (fun r => if P r then F r else r)).filter p =
        (l.filter p).map (fun r => if P r then F r else r) := by
    intro p P F l hF hp
    rw [List.filter_map]
    congr 1
    apply List.filter_congr
    intro r _
    exact (hrow p P F r hF hp).2
  refine ⟨?_, h.one_to_one, h.given, ?_, ?_⟩
  · rw [Table.rows_modify, Table.rows_modify, hfilter p P F _ hF hp, hfilter q Q G _ hG hq,
      List.forall₂_map_left_iff, List.forall₂_map_right_iff]
    apply h.rows.imp
    intro r r' hrr
    rw [(hrow p P F r hF hp).1, (hrow q Q G r' hG hq).1]
    exact ⟨hrr.1, hS r r' hrr.2⟩
  · intro x hx r hr hid
    obtain ⟨a, ha, rfl⟩ := List.mem_map.mp hr
    obtain ⟨hid', hp'⟩ := hrow p P F a hF hp
    rw [hp']
    exact h.left x hx a ha (hid'.symm.trans hid)
  · intro x hx r hr hid
    obtain ⟨a, ha, rfl⟩ := List.mem_map.mp hr
    obtain ⟨hid', hq'⟩ := hrow q Q G a hG hq
    rw [hq']
    exact h.right x hx a ha (hid'.symm.trans hid)

/-! ## Operations on other rows of the left side -/

theorem insert_left (h : MatchedRows K p q S t u) {a : α} (hp : p (Row.withId t.next a) = false) :
    MatchedRows K p q S (t.insert a) u where
  rows := by
    rw [Table.rows_insert, List.filter_append, List.filter_cons_of_neg (by simp [hp]),
      List.filter_nil, List.append_nil]
    exact h.rows
  one_to_one := h.one_to_one
  given := fun x hx => ⟨Nat.lt_succ_of_lt (h.given x hx).1, (h.given x hx).2⟩
  left := by
    intro x hx r hr hid
    rw [Table.rows_insert, List.mem_append, List.mem_singleton] at hr
    rcases hr with hr | rfl
    · exact h.left x hx r hr hid
    · rw [Row.id_withId] at hid
      exact absurd (h.given x hx).1 (Nat.not_lt_of_le (Nat.le_of_eq hid))
  right := h.right

theorem delete_left (h : MatchedRows K p q S t u) {P : α → Bool}
    (hP : ∀ r ∈ t.rows, p r = true → P r = false) : MatchedRows K p q S (t.delete P) u where
  rows := by
    have hkept : (t.rows.filter p).filter (fun r => !P r) = t.rows.filter p := by
      apply List.filter_eq_self.mpr
      intro r hr
      obtain ⟨hrow, hp⟩ := List.mem_filter.mp hr
      simp [hP r hrow hp]
    rw [Table.rows_delete, List.filter_comm, hkept]
    exact h.rows
  one_to_one := h.one_to_one
  given := h.given
  left := fun x hx r hr hid => h.left x hx r (List.mem_of_mem_filter hr) hid
  right := h.right

theorem modify_left (h : MatchedRows K p q S t u) {P : α → Bool} {F : α → α}
    (hF : ∀ a, Row.id (F a) = Row.id a) (hp : ∀ a, P a = true → p a = false ∧ p (F a) = false) :
    MatchedRows K p q S (t.modify P F hF) u where
  rows := by
    rw [t.filter_rows_modify hF hp]
    exact h.rows
  one_to_one := h.one_to_one
  given := h.given
  left := by
    intro x hx r hr hid
    obtain ⟨a, ha, rfl⟩ := List.mem_map.mp hr
    by_cases hP : P a = true
    · rw [if_pos hP, hF] at hid
      exact absurd (h.left x hx a ha hid) (by simp [(hp a hP).1])
    · rw [if_neg hP] at hid ⊢
      exact h.left x hx a ha hid
  right := h.right

end MatchedRows

end PetParadise.Store
