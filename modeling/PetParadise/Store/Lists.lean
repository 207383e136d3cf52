/-
PetParadise.Store.Lists — lists of rows, as queries and templates use them.

Removing duplicates leaves none, a template that fails on an element fails
on the list and shows nothing but its elements, and sorting commutes with
selecting because it is stable.
-/
import Mathlib.Data.List.Sort

namespace PetParadise.Store

theorem nodup_eraseDups {α : Type} [BEq α] [LawfulBEq α] (l : List α) : l.eraseDups.Nodup := by
  -- on the length: the tail is filtered before it is searched
  generalize hn : l.length = n
  induction n using Nat.strongRecOn generalizing l with
  | ind n ih =>
    cases l with
    | nil => simp
    | cons a l =>
      rw [List.eraseDups_cons, List.nodup_cons]
      have hlen : (l.filter fun b => !b == a).length < n := by
        have hle := List.length_filter_le (fun b => !b == a) l
        simp only [List.length_cons] at hn
        omega
      refine ⟨?_, ih _ hlen _ rfl⟩
      simp [List.mem_eraseDups]

theorem mapM_congr_mem {α β ε : Type} {f g : α → Except ε β} {l : List α}
    (h : ∀ a ∈ l, f a = g a) : l.mapM f = l.mapM g := by
  induction l with
  | nil => rfl
  | cons a l ih =>
    rw [List.mapM_cons, List.mapM_cons, h a List.mem_cons_self,
      ih (fun b hb => h b (List.mem_cons_of_mem _ hb))]

/-- A field without the separator is read off the front of a text. -/
theorem field_inj {α : Type} {sep : α} {a a' b b' : List α} (ha : sep ∉ a) (ha' : sep ∉ a')
    (h : a ++ sep :: b = a' ++ sep :: b') : a = a' ∧ b = b' := by
  induction a generalizing a' with
  | nil =>
    cases a' with
    | nil => exact ⟨rfl, List.tail_eq_of_cons_eq h⟩
    | cons x a' =>
      obtain ⟨rfl, -⟩ := List.cons_eq_cons.mp h
      exact absurd List.mem_cons_self ha'
  | cons x a ih =>
    cases a' with
    | nil =>
      obtain ⟨rfl, -⟩ := List.cons_eq_cons.mp h
      exact absurd List.mem_cons_self ha
    | cons x' a' =>
      obtain ⟨rfl, htail⟩ := List.cons_eq_cons.mp h
      obtain ⟨rfl, hb⟩ := ih (fun hx => ha (List.mem_cons_of_mem _ hx))
        (fun hx => ha' (List.mem_cons_of_mem _ hx)) htail
      exact ⟨rfl, hb⟩

theorem bind_eq_ok {α β ε : Type} {x : Except ε α} {f : α → Except ε β} {b : β}
    (h : x >>= f = .ok b) : ∃ a, x = .ok a ∧ f a = .ok b := by
  cases x with
  | error e => cases h
  | ok a => exact ⟨a, rfl, h⟩

/-- What a list of lines shows comes from its records, one for one. -/
theorem exists_of_mem_mapM {α β ε : Type} {f : α → Except ε β} {l : List α} {bs : List β}
    (h : l.mapM f = .ok bs) {b : β} (hb : b ∈ bs) : ∃ a ∈ l, f a = .ok b := by
  induction l generalizing bs with
  | nil =>
    cases h
    cases hb
  | cons a l ih =>
    rw [List.mapM_cons] at h
    obtain ⟨b', ha, h⟩ := bind_eq_ok h
    obtain ⟨bs', hl, h⟩ := bind_eq_ok h
    cases h
    rcases List.mem_cons.mp hb with rfl | hb
    · exact ⟨a, List.mem_cons_self, ha⟩
    · obtain ⟨a', ha', hfa'⟩ := ih hl hb
      exact ⟨a', List.mem_cons_of_mem _ ha', hfa'⟩

/-- There is a list of lines exactly if every record has its line. -/
theorem exists_mapM_iff {α β ε : Type} {f : α → Except ε β} {l : List α} :
    (∃ bs, l.mapM f = .ok bs) ↔ ∀ a ∈ l, ∃ b, f a = .ok b := by
  induction l with
  | nil => exact ⟨fun _ _ ha => absurd ha List.not_mem_nil, fun _ => ⟨[], rfl⟩⟩
  | cons a l ih =>
    rw [List.forall_mem_cons, ← ih, List.mapM_cons]
    constructor
    · rintro ⟨_, h⟩
      obtain ⟨b, ha, h⟩ := bind_eq_ok h
      obtain ⟨bs, hl, -⟩ := bind_eq_ok h
      exact ⟨⟨b, ha⟩, ⟨bs, hl⟩⟩
    · rintro ⟨⟨b, ha⟩, ⟨bs, hl⟩⟩
      exact ⟨b :: bs, by rw [ha, hl]; rfl⟩

/-- Read off a list in falling order, and kept at their first occurrence,
values come in the falling order of their best sources. -/
theorem pairwise_eraseDups_filterMap {α β κ : Type} [DecidableEq β] [Preorder κ] (key : α → κ)
    {l : List α} (hl : l.Pairwise fun a a' => key a' ≤ key a) (f : α → Option β) :
    (l.filterMap f).eraseDups.Pairwise fun b b' =>
      ∀ a' ∈ l, f a' = some b' → ∃ a ∈ l, f a = some b ∧ key a' ≤ key a := by
  induction l generalizing f with
  | nil => simp
  | cons x l ih =>
    obtain ⟨hx, htail⟩ := List.pairwise_cons.mp hl
    cases hfx : f x with
    | none =>
      rw [List.filterMap_cons_none hfx]
      refine (ih htail f).imp fun h a' ha' hb' => ?_
      rcases List.mem_cons.mp ha' with rfl | ha'
      · rw [hfx] at hb'
        cases hb'
      · obtain ⟨a, ha, hab⟩ := h a' ha' hb'
        exact ⟨a, List.mem_cons_of_mem _ ha, hab⟩
    | some c =>
      -- behind `c`, the sources of other values are left
      have hrest : (l.filterMap f).filter (fun b => !b == c) =
          l.filterMap (fun a => (f a).filter (fun b => !b == c)) := by
        rw [List.filter_filterMap]
      rw [List.filterMap_cons_some hfx, List.eraseDups_cons, hrest, List.pairwise_cons]
      constructor
      · intro b' _ a' ha' _
        refine ⟨x, List.mem_cons_self, hfx, ?_⟩
        rcases List.mem_cons.mp ha' with rfl | ha'
        · exact le_rfl
        · exact hx a' ha'
      · refine (ih htail _).imp_of_mem fun {b b'} _ hb' h a' ha' hfa' => ?_
        have hne : (!b' == c) = true := by
          obtain ⟨a₀, -, ha₀⟩ := List.mem_filterMap.mp (List.mem_eraseDups.mp hb')
          exact (Option.filter_eq_some_iff.mp ha₀).2
        rcases List.mem_cons.mp ha' with rfl | ha'
        · rw [hfx, Option.some.injEq] at hfa'
          simp [hfa'] at hne
        · obtain ⟨a, ha, hfa, hle⟩ :=
            h a' ha' (Option.filter_eq_some_iff.mpr ⟨hfa', hne⟩)
          exact ⟨a, List.mem_cons_of_mem _ ha, (Option.filter_eq_some_iff.mp hfa).1, hle⟩

/-- What a lookup does not select may be filtered out before. -/
theorem filterMap_filter_of_none {α β : Type} {f : α → Option β} {p : α → Bool} {l : List α}
    (h : ∀ a ∈ l, p a = false → f a = none) : (l.filter p).filterMap f = l.filterMap f := by
  induction l with
  | nil => rfl
  | cons a l ih =>
    have htail := ih (fun b hb => h b (List.mem_cons_of_mem _ hb))
    cases hp : p a with
    | true => simp [hp, List.filterMap_cons, htail]
    | false => simp [hp, h a List.mem_cons_self hp, htail]

section Sorting

variable {α : Type} {r : α → α → Prop} [DecidableRel r]

theorem orderedInsert_of_forall {a : α} {l : List α} (h : ∀ b ∈ l, r a b) :
    l.orderedInsert r a = a :: l := by
  cases l with
  | nil => rfl
  | cons b l => exact List.orderedInsert_cons_of_le r l (h b List.mem_cons_self)

/-- Sorting is stable, so it does not matter what is filtered out
before. -/
theorem filter_orderedInsert [IsTrans α r] {p : α → Bool} {a : α} {l : List α}
    (hl : l.Pairwise r) :
    (l.orderedInsert r a).filter p =
      if p a then (l.filter p).orderedInsert r a else l.filter p := by
  induction l with
  | nil => cases hp : p a <;> simp [hp]
  | cons b l ih =>
    obtain ⟨hb, htail⟩ := List.pairwise_cons.mp hl
    by_cases hab : r a b
    · have hall : ∀ c ∈ (b :: l).filter p, r a c := by
        intro c hc
        rcases List.mem_cons.mp (List.mem_of_mem_filter hc) with rfl | hc
        · exact hab
        · exact IsTrans.trans a b c hab (hb c hc)
      rw [List.orderedInsert_cons_of_le r l hab, orderedInsert_of_forall hall]
      cases hp : p a <;> simp [hp]
    · rw [List.orderedInsert_of_not_le r l hab]
      cases hpb : p b with
      | false => simp [hpb, ih htail]
      | true =>
        rw [List.filter_cons_of_pos hpb, List.filter_cons_of_pos hpb, ih htail]
        cases hp : p a with
        | false => simp
        | true => simp [hab]

theorem filter_insertionSort [IsTrans α r] [Std.Total r] {p : α → Bool} (l : List α) :
    (l.insertionSort r).filter p = (l.filter p).insertionSort r := by
  induction l with
  | nil => rfl
  | cons a l ih =>
    rw [List.insertionSort_cons, filter_orderedInsert (List.pairwise_insertionSort r l), ih]
    cases hp : p a with
    | false => simp [hp]
    | true => simp [hp]

end Sorting

end PetParadise.Store
