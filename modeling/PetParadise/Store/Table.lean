/-
PetParadise.Store.Table — tables with an auto-increment primary key.

A table is a list of rows in ascending key order together with the next
key the engine will hand out. Both facts the engine guarantees are FIELDS
of the structure: `sorted` (keys ascend, so they are unique and the first
match of a scan is the one with the least key) and `fresh` (every stored
key is below the counter, so a key is never handed out twice). A table
that breaks either cannot be built, and no later proof restates them.

A row type says where its key lives through `Row`; a row that has not
been stored yet carries any key and `insert` overwrites it, which is how
an active record behaves before it is saved.

Nothing here mentions an application; the module is usable for any
schema whose tables have a single integer key.
-/
import Mathlib.Data.List.Basic

namespace PetParadise.Store

/-- A record type with a primary key that the store may assign. -/
class Row (α : Type) where
  id : α → Nat
  withId : Nat → α → α
  id_withId : ∀ i a, id (withId i a) = i

/-- The stored rows in key order, and the next key to be handed out. -/
structure Table (α : Type) [Row α] where
  rows : List α
  next : Nat
  sorted : rows.Pairwise (fun a b => Row.id a < Row.id b)
  fresh : ∀ r ∈ rows, Row.id r < next

namespace Table

variable {α : Type} [Row α]

/-- Rows and counter determine the table: the other fields are proofs. -/
@[ext] theorem ext {t u : Table α} (hrows : t.rows = u.rows)
    (hnext : t.next = u.next) : t = u := by
  cases t; cases u
  cases hrows; cases hnext
  rfl

instance [DecidableEq α] : DecidableEq (Table α) := fun t u =>
  decidable_of_iff (t.rows = u.rows ∧ t.next = u.next)
    ⟨fun h => Table.ext h.1 h.2, fun h => by cases h; exact ⟨rfl, rfl⟩⟩

/-! ## Operations -/

/-- The empty table; keys start at 1. -/
def empty : Table α where
  rows := []
  next := 1
  sorted := List.Pairwise.nil
  fresh := by simp

/-- `INSERT`: the row is stored under the next key. -/
def insert (t : Table α) (a : α) : Table α where
  rows := t.rows ++ [Row.withId t.next a]
  next := t.next + 1
  sorted := by
    rw [List.pairwise_append]
    refine ⟨t.sorted, by simp, ?_⟩
    intro r hr b hb
    rw [List.mem_singleton] at hb
    rw [hb, Row.id_withId]
    exact t.fresh r hr
  fresh := by
    intro r hr
    rcases List.mem_append.mp hr with hr | hr
    · exact Nat.lt_succ_of_lt (t.fresh r hr)
    · rw [List.mem_singleton] at hr
      rw [hr, Row.id_withId]
      exact Nat.lt_succ_self _

/-- `INSERT` of several rows, one after the other. -/
def insertAll (t : Table α) (as : List α) : Table α :=
  as.foldl insert t

/-- `UPDATE … WHERE p`: the rows selected by `p` are rewritten by `f`,
which must leave the key alone. -/
def modify (t : Table α) (p : α → Bool) (f : α → α)
    (hf : ∀ a, Row.id (f a) = Row.id a) : Table α where
  rows := t.rows.map (fun r => if p r then f r else r)
  next := t.next
  sorted := by
    rw [List.pairwise_map]
    refine t.sorted.imp ?_
    intro a b hab
    split <;> split <;> simpa [hf] using hab
  fresh := by
    intro r hr
    obtain ⟨a, ha, rfl⟩ := List.mem_map.mp hr
    have hlt := t.fresh a ha
    split
    · rw [hf]; exact hlt
    · exact hlt

/-- `UPDATE … WHERE id = …` with a whole record: the row with its key, if
there is one, becomes `a`. -/
def replace (t : Table α) (a : α) : Table α :=
  t.modify (fun r => Row.id r == Row.id a) (fun r => Row.withId (Row.id r) a)
    (fun _ => Row.id_withId _ _)

/-- `DELETE … WHERE p`. -/
def delete (t : Table α) (p : α → Bool) : Table α where
  rows := t.rows.filter (fun r => !p r)
  next := t.next
  sorted := t.sorted.filter _
  fresh := fun r hr => t.fresh r (List.mem_of_mem_filter hr)

/-- `SELECT … WHERE id = i LIMIT 1`. -/
def find? (t : Table α) (i : Nat) : Option α :=
  t.rows.find? (fun r => Row.id r == i)

/-! ## Their rows -/

@[simp] theorem rows_empty : (empty : Table α).rows = [] := rfl

@[simp] theorem rows_insert (t : Table α) (a : α) :
    (t.insert a).rows = t.rows ++ [Row.withId t.next a] := rfl

@[simp] theorem next_insert (t : Table α) (a : α) : (t.insert a).next = t.next + 1 := rfl

@[simp] theorem rows_modify (t : Table α) (p : α → Bool) (f : α → α)
    (hf : ∀ a, Row.id (f a) = Row.id a) :
    (t.modify p f hf).rows = t.rows.map (fun r => if p r then f r else r) := rfl

@[simp] theorem next_modify (t : Table α) (p : α → Bool) (f : α → α)
    (hf : ∀ a, Row.id (f a) = Row.id a) : (t.modify p f hf).next = t.next := rfl

@[simp] theorem rows_delete (t : Table α) (p : α → Bool) :
    (t.delete p).rows = t.rows.filter (fun r => !p r) := rfl

@[simp] theorem next_delete (t : Table α) (p : α → Bool) : (t.delete p).next = t.next := rfl

@[simp] theorem insertAll_nil (t : Table α) : t.insertAll [] = t := rfl

@[simp] theorem insertAll_cons (t : Table α) (a : α) (as : List α) :
    t.insertAll (a :: as) = (t.insert a).insertAll as := rfl

/-- A row of the table after several inserts is an old one or one of those
stored. -/
theorem mem_rows_insertAll {t : Table α} {as : List α} {r : α} (h : r ∈ (t.insertAll as).rows) :
    r ∈ t.rows ∨ ∃ i, ∃ a ∈ as, r = Row.withId i a := by
  induction as generalizing t with
  | nil => exact .inl h
  | cons a as ih =>
    rcases ih h with h | ⟨i, a', ha', rfl⟩
    · rw [rows_insert, List.mem_append, List.mem_singleton] at h
      rcases h with h | rfl
      · exact .inl h
      · exact .inr ⟨t.next, a, List.mem_cons_self, rfl⟩
    · exact .inr ⟨i, a', List.mem_cons_of_mem _ ha', rfl⟩

/-- Several inserts keep the old rows and store each of the new ones. -/
theorem rows_subset_insertAll (t : Table α) (as : List α) : t.rows ⊆ (t.insertAll as).rows := by
  induction as generalizing t with
  | nil => exact List.Subset.refl _
  | cons a as ih => exact List.Subset.trans (List.subset_append_left _ _) (ih (t.insert a))

theorem exists_mem_rows_insertAll (t : Table α) {as : List α} {a : α} (ha : a ∈ as) :
    ∃ i, Row.withId i a ∈ (t.insertAll as).rows := by
  induction as generalizing t with
  | nil => cases ha
  | cons b as ih =>
    rcases List.mem_cons.mp ha with rfl | ha
    · refine ⟨t.next, (t.insert a).rows_subset_insertAll as ?_⟩
      rw [rows_insert]
      exact List.mem_append_right _ List.mem_cons_self
    · exact ih (t.insert b) ha

/-- Rows that an update does not select, before or after, are as they
were. -/
theorem filter_rows_modify (t : Table α) {p q : α → Bool} {f : α → α}
    (hf : ∀ a, Row.id (f a) = Row.id a) (hq : ∀ a, p a = true → q a = false ∧ q (f a) = false) :
    (t.modify p f hf).rows.filter q = t.rows.filter q := by
  rw [rows_modify]
  induction t.rows with
  | nil => rfl
  | cons a l ih =>
    rw [List.map_cons, List.filter_cons, List.filter_cons, ih]
    cases hp : p a with
    | false => simp
    | true => simp [(hq a hp).1, (hq a hp).2]

/-! ## Keys are unique -/

theorem eq_of_id_eq (t : Table α) {a b : α} (ha : a ∈ t.rows) (hb : b ∈ t.rows)
    (hab : Row.id a = Row.id b) : a = b := by
  obtain ⟨i, hi, rfl⟩ := List.mem_iff_getElem.mp ha
  obtain ⟨j, hj, rfl⟩ := List.mem_iff_getElem.mp hb
  have hs := List.pairwise_iff_getElem.mp t.sorted
  rcases Nat.lt_trichotomy i j with hij | rfl | hij
  · have := hs i j hi hj hij; omega
  · rfl
  · have := hs j i hj hi hij; omega

/-- A row survives an update of the row with key `i` exactly when it is
another row or the update changes nothing. -/
theorem mem_rows_modify_iff (t : Table α) {i : Nat} {f : α → α}
    (hf : ∀ a, Row.id (f a) = Row.id a) {a : α} (ha : a ∈ t.rows) :
    a ∈ (t.modify (fun r => Row.id r == i) f hf).rows ↔ Row.id a ≠ i ∨ f a = a := by
  rw [rows_modify, List.mem_map]
  constructor
  · rintro ⟨b, hb, hba⟩
    by_cases hi : Row.id b = i
    · simp only [hi, beq_self_eq_true, if_true] at hba
      have hid : Row.id b = Row.id a := by rw [← hba, hf]
      have hab := t.eq_of_id_eq hb ha hid
      subst hab
      exact .inr hba
    · have hne : (Row.id b == i) = false := beq_eq_false_iff_ne.mpr hi
      simp only [hne, Bool.false_eq_true, if_false] at hba
      subst hba
      exact .inl hi
  · intro h
    refine ⟨a, ha, ?_⟩
    by_cases hi : Row.id a = i
    · simp [hi, h.resolve_left (fun hne => hne hi)]
    · simp [hi]

/-- An update of the row `c` keeps the rows with `P` exactly when `c` has
not `P` or does not change. -/
theorem modify_keeps_iff (t : Table α) {f : α → α} (hf : ∀ a, Row.id (f a) = Row.id a) {c : α}
    (hc : c ∈ t.rows) (P : α → Prop) :
    (∀ a ∈ t.rows, P a → a ∈ (t.modify (fun r => Row.id r == Row.id c) f hf).rows) ↔
      (P c → f c = c) := by
  constructor
  · intro h hP
    exact ((t.mem_rows_modify_iff hf hc).mp (h c hc hP)).resolve_left (fun hne => hne rfl)
  · intro h a ha hP
    refine (t.mem_rows_modify_iff hf ha).mpr ?_
    by_cases hid : Row.id a = Row.id c
    · have hac := t.eq_of_id_eq ha hc hid
      subst hac
      exact .inr (h hP)
    · exact .inl hid

/-- A deletion of the row `c` keeps the rows with `P` exactly when `c` has
not `P`. -/
theorem delete_keeps_iff (t : Table α) {c : α} (hc : c ∈ t.rows) (P : α → Prop) :
    (∀ a ∈ t.rows, P a → a ∈ (t.delete (fun r => Row.id r == Row.id c)).rows) ↔ ¬ P c := by
  constructor
  · intro h hP
    have hkept := h c hc hP
    simp at hkept
  · intro h a ha hP
    refine List.mem_filter.mpr ⟨ha, ?_⟩
    have hid : Row.id a ≠ Row.id c := by
      intro hid
      exact h (t.eq_of_id_eq ha hc hid ▸ hP)
    simpa using hid

/-- A key lookup succeeds exactly on the stored row with that key. -/
theorem find?_eq_some_iff (t : Table α) {i : Nat} {r : α} :
    t.find? i = some r ↔ r ∈ t.rows ∧ Row.id r = i := by
  constructor
  · intro h
    exact ⟨List.mem_of_find?_eq_some h, by simpa using List.find?_some h⟩
  · rintro ⟨hr, rfl⟩
    have hsome : (t.find? (Row.id r)).isSome := by
      rw [find?, List.find?_isSome]
      exact ⟨r, hr, by simp⟩
    obtain ⟨r', hr'⟩ := Option.isSome_iff_exists.mp hsome
    have hid : Row.id r' = Row.id r := by simpa using List.find?_some hr'
    rw [hr', t.eq_of_id_eq (List.mem_of_find?_eq_some hr') hr hid]

/-- The first match of a scan has the least key. -/
theorem id_le_of_rows_find? (t : Table α) {p : α → Bool} {r r' : α}
    (h : t.rows.find? p = some r) (hr' : r' ∈ t.rows) (hp : p r' = true) :
    Row.id r ≤ Row.id r' := by
  obtain ⟨-, pre, post, hrows, hpre⟩ := List.find?_eq_some_iff_append.mp h
  have hsorted := t.sorted
  rw [hrows] at hr' hsorted
  rcases List.mem_append.mp hr' with hmem | hmem
  · have hno := hpre r' hmem
    rw [hp] at hno
    cases hno
  · rcases List.mem_cons.mp hmem with rfl | hmem
    · exact Nat.le_refl _
    · have hpost := (List.pairwise_append.mp hsorted).2.1
      exact Nat.le_of_lt ((List.pairwise_cons.mp hpost).1 r' hmem)

theorem mem_of_find? (t : Table α) {i : Nat} {r : α} (h : t.find? i = some r) :
    r ∈ t.rows := (t.find?_eq_some_iff.mp h).1

theorem id_of_find? (t : Table α) {i : Nat} {r : α} (h : t.find? i = some r) :
    Row.id r = i := (t.find?_eq_some_iff.mp h).2

/-- A key is held by one row. -/
theorem filter_id_eq (t : Table α) {r : α} (h : r ∈ t.rows) :
    t.rows.filter (fun a => Row.id a == Row.id r) = [r] := by
  have hsorted := t.sorted
  revert h hsorted
  generalize t.rows = rows
  intro h hsorted
  induction rows with
  | nil => cases h
  | cons a rows ih =>
    obtain ⟨hhead, htail⟩ := List.pairwise_cons.mp hsorted
    rcases List.mem_cons.mp h with rfl | h
    · have hnone : rows.filter (fun b => Row.id b == Row.id r) = [] := by
        apply List.filter_eq_nil_iff.mpr
        intro b hb
        simpa using Nat.ne_of_gt (hhead b hb)
      simp [hnone]
    · have hne : ¬ Row.id a = Row.id r := Nat.ne_of_lt (hhead r h)
      simp [hne, ih h htail]

theorem find?_of_mem (t : Table α) {r : α} (h : r ∈ t.rows) :
    t.find? (Row.id r) = some r := t.find?_eq_some_iff.mpr ⟨h, rfl⟩

/-- What a key finds is found by its own key. -/
theorem find?_self (t : Table α) {i : Nat} {r : α} (h : t.find? i = some r) :
    t.find? (Row.id r) = some r := t.find?_of_mem (t.mem_of_find? h)

theorem isSome_find?_self (t : Table α) {i : Nat} {r : α} (h : t.find? i = some r) :
    (t.find? (Row.id r)).isSome = true := Option.isSome_of_eq_some (t.find?_self h)

/-- Looking a row up and then testing it is looking it up among those that
pass. -/
theorem filter_find? (t : Table α) (i : Nat) (p : α → Bool) :
    (t.find? i).filter p = (t.rows.filter p).find? (fun a => Row.id a == i) := by
  cases hfind : t.find? i with
  | none =>
    symm
    apply List.find?_eq_none.mpr
    intro a ha hid
    rw [beq_iff_eq] at hid
    have hsome := t.find?_of_mem (List.mem_of_mem_filter ha)
    rw [hid, hfind] at hsome
    cases hsome
  | some r =>
    have hone := t.filter_id_eq (t.mem_of_find? hfind)
    rw [t.id_of_find? hfind] at hone
    rw [← List.head?_filter, List.filter_comm, hone]
    cases hp : p r <;> simp [hp]

/-- Among the rows that pass, a key is there once if its row passes. -/
theorem countP_filter_id (t : Table α) (p : α → Bool) (i : Nat) :
    (t.rows.filter p).countP (fun a => Row.id a == i) = if (t.find? i).any p then 1 else 0 := by
  rw [List.countP_eq_length_filter, List.filter_comm]
  cases hfind : t.find? i with
  | none =>
    have hnone : t.rows.filter (fun a => Row.id a == i) = [] := by
      rw [List.filter_eq_nil_iff]
      intro a ha hid
      have hsome := t.find?_of_mem ha
      rw [beq_iff_eq.mp hid, hfind] at hsome
      cases hsome
    simp [hnone]
  | some r =>
    have hone := t.filter_id_eq (t.mem_of_find? hfind)
    rw [t.id_of_find? hfind] at hone
    rw [hone]
    cases hp : p r <;> simp [hp]

/-- An insert does not disturb a lookup that succeeded before it. -/
theorem find?_insert_of_find? (t : Table α) {i : Nat} {r : α} (a : α)
    (h : t.find? i = some r) : (t.insert a).find? i = some r := by
  rw [find?_eq_some_iff] at h ⊢
  exact ⟨List.mem_append_left _ h.1, h.2⟩

/-- What a replaced row leaves: the other rows, and the new one if there was
a row with its key. -/
theorem mem_rows_replace {t : Table α} {a r : α} :
    r ∈ (t.replace a).rows ↔ (r ∈ t.rows ∧ Row.id r ≠ Row.id a) ∨
      (r = Row.withId (Row.id a) a ∧ ∃ q ∈ t.rows, Row.id q = Row.id a) := by
  simp only [replace, rows_modify, List.mem_map]
  constructor
  · rintro ⟨q, hq, rfl⟩
    by_cases hid : Row.id q = Row.id a
    · exact .inr ⟨by simp [hid], q, hq, hid⟩
    · exact .inl (by simp [hid, hq])
  · rintro (⟨hr, hid⟩ | ⟨rfl, q, hq, hid⟩)
    · exact ⟨r, hr, by simp [hid]⟩
    · exact ⟨q, hq, by simp [hid]⟩

/-- The row just stored is found under the key it was given. -/
theorem find?_insert_next (t : Table α) (a : α) :
    (t.insert a).find? t.next = some (Row.withId t.next a) := by
  rw [find?_eq_some_iff, rows_insert, Row.id_withId]
  exact ⟨List.mem_append_right _ List.mem_cons_self, rfl⟩

theorem find?_insert (t : Table α) (a : α) (i : Nat) :
    (t.insert a).find? i = if i = t.next then some (Row.withId t.next a) else t.find? i := by
  split
  · next h => rw [h, find?_insert_next]
  · next h =>
    have hnew : (Row.id (Row.withId t.next a) == i) = false := by
      rw [Row.id_withId, beq_eq_false_iff_ne]
      exact Ne.symm h
    rw [find?, rows_insert, List.find?_append, List.find?_singleton, hnew]
    simp [find?]

/-- The row under the key of `a` is `a` now. -/
theorem find?_replace (t : Table α) (a : α) (i : Nat) :
    (t.replace a).find? i =
      if i = Row.id a then (t.find? i).map fun _ => Row.withId i a else t.find? i := by
  rw [find?, replace, rows_modify, List.find?_map]
  have hid : (fun r => Row.id r == i) ∘ (fun r : α => if (Row.id r == Row.id a) = true
      then Row.withId (Row.id r) a else r) = fun r => Row.id r == i := by
    funext r
    by_cases h : Row.id r = Row.id a <;> simp [h, Row.id_withId]
  rw [hid]
  change (t.find? i).map _ = _
  cases hfind : t.find? i with
  | none => simp
  | some r =>
    have hr : Row.id r = i := t.id_of_find? hfind
    by_cases hi : i = Row.id a <;> simp [hi, hr]

theorem find?_delete_id (t : Table α) (i j : Nat) :
    (t.delete (fun r => Row.id r == i)).find? j = if j = i then none else t.find? j := by
  rw [find?, rows_delete, List.find?_filter]
  split
  · next h =>
    rw [List.find?_eq_none]
    intro r _
    simp [h]
  · next h =>
    congr 1
    funext r
    by_cases hr : Row.id r = j
    · simp [hr, h]
    · simp [hr]

/-! ## A column that keeps its values

`Kept f t u` compares a table with a LATER one: every row of `u` whose key
had been handed out when the table was `t` is a row of `t` with the same
`f`. Rows may have gone and new ones come; since keys are never reused, a
row cannot come back under another value. -/

structure Kept {β : Type} (f : α → β) (t u : Table α) : Prop where
  next_le : t.next ≤ u.next
  kept : ∀ r ∈ u.rows, Row.id r < t.next → ∃ r₀ ∈ t.rows, Row.id r₀ = Row.id r ∧ f r₀ = f r

namespace Kept

variable {β : Type} {f : α → β} {t u v : Table α}

theorem refl (f : α → β) (t : Table α) : Kept f t t :=
  ⟨Nat.le_refl _, fun r hr _ => ⟨r, hr, rfl, rfl⟩⟩

theorem trans (htu : Kept f t u) (huv : Kept f u v) : Kept f t v := by
  refine ⟨Nat.le_trans htu.next_le huv.next_le, fun r hr hlt => ?_⟩
  obtain ⟨r', hr', hid', hf'⟩ := huv.kept r hr (Nat.lt_of_lt_of_le hlt htu.next_le)
  obtain ⟨r₀, hr₀, hid, hf⟩ := htu.kept r' hr' (hid' ▸ hlt)
  exact ⟨r₀, hr₀, hid.trans hid', hf.trans hf'⟩

theorem insert (f : α → β) (t : Table α) (a : α) : Kept f t (t.insert a) := by
  refine ⟨Nat.le_succ _, fun r hr hlt => ?_⟩
  rw [rows_insert, List.mem_append, List.mem_singleton] at hr
  rcases hr with hr | rfl
  · exact ⟨r, hr, rfl, rfl⟩
  · rw [Row.id_withId] at hlt
    exact absurd hlt (Nat.lt_irrefl _)

theorem delete (f : α → β) (t : Table α) (p : α → Bool) : Kept f t (t.delete p) :=
  ⟨Nat.le_refl _, fun r hr _ => ⟨r, List.mem_of_mem_filter hr, rfl, rfl⟩⟩

theorem modify {g : α → α} (t : Table α) (p : α → Bool) (hg : ∀ a, Row.id (g a) = Row.id a)
    (hf : ∀ a, f (g a) = f a) : Kept f t (t.modify p g hg) := by
  refine ⟨Nat.le_refl _, fun r hr _ => ?_⟩
  rw [rows_modify] at hr
  obtain ⟨a, ha, rfl⟩ := List.mem_map.mp hr
  refine ⟨a, ha, ?_⟩
  split
  · exact ⟨(hg a).symm, (hf a).symm⟩
  · exact ⟨rfl, rfl⟩

/-- Replacing a row keeps its key. -/
theorem replace (t : Table α) (a : α) : Kept (fun _ => ()) t (t.replace a) :=
  .modify t _ (fun _ => Row.id_withId _ _) (fun _ => rfl)

/-- Two rows with one key agree on the column. -/
theorem eq (h : Kept f t u) {a b : α} (ha : a ∈ t.rows) (hb : b ∈ u.rows)
    (hid : Row.id b = Row.id a) : f b = f a := by
  obtain ⟨r, hr, hrid, hf⟩ := h.kept b hb (hid ▸ t.fresh a ha)
  rw [← hf, t.eq_of_id_eq hr ha (hrid.trans hid)]

end Kept

end Table

end PetParadise.Store
