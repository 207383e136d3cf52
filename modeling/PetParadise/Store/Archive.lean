/-
PetParadise.Store.Archive — what becomes of rows that are kept for good.

`Lasts R gone t u` compares a table with a LATER one and looks both ways.
A row of `u` whose key had been given out before is a row of `t` that has
changed only as `R` allows; and a row of `t` is still there, changed only
as `R` allows, or `gone` gives the reason why it is not. There is one rule
per table operation. The reasons may depend on the two moments that are
compared, so `Lasts.trans` asks how those of the first stretch and of the
second carry over to the whole.

`KeyHas f v t i` is what a reader keeps of a row it has seen: whatever
stands under the key has `v` in column `f`, and since keys are never reused
this stays true as long as the column is kept.
-/
import PetParadise.Store.Table

namespace PetParadise.Store.Table

variable {α : Type} [Row α]

structure Lasts (R : α → α → Prop) (gone : α → Prop) (t u : Table α) : Prop where
  next_le : t.next ≤ u.next
  origin : ∀ r ∈ u.rows, Row.id r < t.next → ∃ r₀ ∈ t.rows, Row.id r₀ = Row.id r ∧ R r₀ r
  stays : ∀ r ∈ t.rows, (∃ r' ∈ u.rows, Row.id r' = Row.id r ∧ R r r') ∨ gone r

namespace Lasts

variable {R : α → α → Prop} {gone gone' : α → Prop} {t u v : Table α}

theorem refl (hR : ∀ a, R a a) (t : Table α) : Lasts R gone t t :=
  ⟨Nat.le_refl _, fun r hr _ => ⟨r, hr, rfl, hR r⟩, fun r hr => .inl ⟨r, hr, rfl, hR r⟩⟩

theorem insert (hR : ∀ a, R a a) (t : Table α) (a : α) : Lasts R gone t (t.insert a) := by
  refine ⟨Nat.le_succ _, fun r hr hlt => ?_, fun r hr => ?_⟩
  · rw [rows_insert, List.mem_append, List.mem_singleton] at hr
    rcases hr with hr | rfl
    · exact ⟨r, hr, rfl, hR r⟩
    · rw [Row.id_withId] at hlt
      exact absurd hlt (Nat.lt_irrefl _)
  · exact .inl ⟨r, List.mem_append_left _ hr, rfl, hR r⟩

theorem modify (hR : ∀ a, R a a) (t : Table α) (p : α → Bool) {f : α → α}
    (hf : ∀ a, Row.id (f a) = Row.id a) (hRf : ∀ a, R a (f a)) :
    Lasts R gone t (t.modify p f hf) := by
  have hone : ∀ a, Row.id (if p a = true then f a else a) = Row.id a ∧
      R a (if p a = true then f a else a) := by
    intro a
    split
    · exact ⟨hf a, hRf a⟩
    · exact ⟨rfl, hR a⟩
  refine ⟨Nat.le_refl _, fun r hr _ => ?_, fun r hr => .inl ⟨_, List.mem_map_of_mem hr, hone r⟩⟩
  obtain ⟨a, ha, rfl⟩ := List.mem_map.mp hr
  exact ⟨a, ha, (hone a).1.symm, (hone a).2⟩

theorem delete (hR : ∀ a, R a a) (t : Table α) {p : α → Bool}
    (hgone : ∀ r ∈ t.rows, p r = true → gone r) : Lasts R gone t (t.delete p) := by
  refine ⟨Nat.le_refl _, fun r hr _ => ⟨r, List.mem_of_mem_filter hr, rfl, hR r⟩, fun r hr => ?_⟩
  cases hp : p r with
  | true => exact .inr (hgone r hr hp)
  | false => exact .inl ⟨r, List.mem_filter.mpr ⟨hr, by rw [hp]; rfl⟩, rfl, hR r⟩

theorem trans {gone'' : α → Prop} (hR : ∀ a b c, R a b → R b c → R a c) (htu : Lasts R gone t u)
    (huv : Lasts R gone' u v) (hfirst : ∀ r ∈ t.rows, gone r → gone'' r)
    (hsecond : ∀ r r', R r r' → gone' r' → gone'' r) : Lasts R gone'' t v := by
  refine ⟨Nat.le_trans htu.next_le huv.next_le, fun r hr hlt => ?_, fun r hr => ?_⟩
  · obtain ⟨r', hr', hid', hR'⟩ := huv.origin r hr (Nat.lt_of_lt_of_le hlt htu.next_le)
    obtain ⟨r₀, hr₀, hid, hR₀⟩ := htu.origin r' hr' (hid' ▸ hlt)
    exact ⟨r₀, hr₀, hid.trans hid', hR _ _ _ hR₀ hR'⟩
  · rcases htu.stays r hr with ⟨r', hr', hid', hR'⟩ | hgone
    · rcases huv.stays r' hr' with ⟨r'', hr'', hid'', hR''⟩ | hgone
      · exact .inl ⟨r'', hr'', hid''.trans hid', hR _ _ _ hR' hR''⟩
      · exact .inr (hsecond r r' hR' hgone)
    · exact .inr (hfirst r hr hgone)

end Lasts

/-- Key `i` has been given out, and a row under it has `v` in column `f`. -/
def KeyHas {β : Type} (f : α → β) (v : β) (t : Table α) (i : Nat) : Prop :=
  i < t.next ∧ ∀ r, t.find? i = some r → f r = v

namespace KeyHas

variable {β : Type} {f : α → β} {v : β} {t u : Table α} {i : Nat}

theorem of_mem {r : α} (hr : r ∈ t.rows) : KeyHas f (f r) t (Row.id r) := by
  refine ⟨t.fresh r hr, fun r' hr' => ?_⟩
  rw [t.find?_of_mem hr] at hr'
  cases hr'
  rfl

theorem insert (t : Table α) (a : α) : KeyHas f (f (Row.withId t.next a)) (t.insert a) t.next := by
  refine ⟨Nat.lt_succ_self _, fun r hr => ?_⟩
  rw [t.find?_insert_next] at hr
  cases hr
  rfl

theorem later (h : KeyHas f v t i) (hk : Kept f t u) : KeyHas f v u i := by
  refine ⟨Nat.lt_of_lt_of_le h.1 hk.next_le, fun r hr => ?_⟩
  obtain ⟨hmem, hid⟩ := u.find?_eq_some_iff.mp hr
  obtain ⟨r₀, hr₀, hid₀, hf⟩ := hk.kept r hmem (hid ▸ h.1)
  rw [← hf]
  exact h.2 r₀ (t.find?_eq_some_iff.mpr ⟨hr₀, hid₀.trans hid⟩)

end KeyHas

/-- A key that was given out and finds nothing never finds anything again. -/
theorem Kept.find?_eq_none {β : Type} {f : α → β} {t u : Table α} (h : Kept f t u) {i : Nat}
    (hi : i < t.next) (hnone : t.find? i = none) : u.find? i = none := by
  cases hu : u.find? i with
  | none => rfl
  | some r =>
    obtain ⟨hr, hid⟩ := u.find?_eq_some_iff.mp hu
    obtain ⟨r₀, hr₀, hid₀, -⟩ := h.kept r hr (hid ▸ hi)
    rw [t.find?_eq_some_iff.mpr ⟨hr₀, hid₀.trans hid⟩] at hnone
    cases hnone

theorem Lasts.keys {R : α → α → Prop} {gone : α → Prop} {t u : Table α} (h : Lasts R gone t u) :
    Kept (fun _ => ()) t u := by
  refine ⟨h.next_le, fun r hr hlt => ?_⟩
  obtain ⟨r₀, hr₀, hid, -⟩ := h.origin r hr hlt
  exact ⟨r₀, hr₀, hid, rfl⟩

end PetParadise.Store.Table
