/-
PetParadise.Store.References — rows of one table that name rows of another.

`Refers key t u` says that every row of `t` names, through `key`, a row
that `u` holds. There is one rule per table operation on either side. An
operation on the SOURCE must not bring in a dangling key; an operation on
the TARGET must not take a key away, unless the source loses the rows that
named it in the same step (`Refers.cascade`).
-/
import PetParadise.Store.Table

namespace PetParadise.Store.Table

variable {α β : Type} [Row α] [Row β]

/-- Every row of `t` names a row of `u`. -/
def Refers (key : α → Nat) (t : Table α) (u : Table β) : Prop :=
  ∀ a ∈ t.rows, ∃ b ∈ u.rows, Row.id b = key a

instance (key : α → Nat) (t : Table α) (u : Table β) : Decidable (Refers key t u) :=
  inferInstanceAs (Decidable (∀ a ∈ t.rows, ∃ b ∈ u.rows, Row.id b = key a))

theorem exists_of_find?_isSome {u : Table β} {i : Nat} (h : (u.find? i).isSome = true) :
    ∃ b ∈ u.rows, Row.id b = i := by
  obtain ⟨b, hb⟩ := Option.isSome_iff_exists.mp h
  exact ⟨b, u.mem_of_find? hb, u.id_of_find? hb⟩

namespace Refers

variable {key : α → Nat} {t : Table α} {u u' : Table β}

/-! ## Operations on the source -/

/-- A row whose key is stored may come in; storing it does not change the
key it names. -/
theorem insert_source (h : Refers key t u) {a : α} (hkey : key (Row.withId t.next a) = key a)
    (hfound : (u.find? (key a)).isSome = true) : Refers key (t.insert a) u := by
  intro r hr
  rw [rows_insert, List.mem_append, List.mem_singleton] at hr
  rcases hr with hr | rfl
  · exact h r hr
  · rw [hkey]
    exact exists_of_find?_isSome hfound

theorem delete_source (h : Refers key t u) (p : α → Bool) : Refers key (t.delete p) u := by
  intro r hr
  exact h r (List.mem_of_mem_filter hr)

theorem modify_source (h : Refers key t u) (p : α → Bool) {f : α → α}
    (hf : ∀ a, Row.id (f a) = Row.id a) (hkey : ∀ a, key (f a) = key a) :
    Refers key (t.modify p f hf) u := by
  intro r hr
  obtain ⟨a, ha, rfl⟩ := List.mem_map.mp hr
  obtain ⟨b, hb, hid⟩ := h a ha
  refine ⟨b, hb, ?_⟩
  split
  · rw [hkey, hid]
  · exact hid

/-! ## Operations on the target -/

/-- Every key of `u` is a key of `u'`. -/
def KeepsKeys (u u' : Table β) : Prop :=
  ∀ b ∈ u.rows, ∃ b' ∈ u'.rows, Row.id b' = Row.id b

theorem keepsKeys_insert (u : Table β) (b : β) : KeepsKeys u (u.insert b) := by
  intro r hr
  exact ⟨r, List.mem_append_left _ hr, rfl⟩

theorem keepsKeys_modify (u : Table β) (p : β → Bool) {f : β → β}
    (hf : ∀ b, Row.id (f b) = Row.id b) : KeepsKeys u (u.modify p f hf) := by
  intro r hr
  refine ⟨_, List.mem_map_of_mem hr, ?_⟩
  split
  · exact hf r
  · rfl

theorem keepsKeys_replace (u : Table β) (b : β) : KeepsKeys u (u.replace b) :=
  keepsKeys_modify u _ _

theorem target (h : Refers key t u) (hkeep : KeepsKeys u u') : Refers key t u' := by
  intro a ha
  obtain ⟨b, hb, hid⟩ := h a ha
  obtain ⟨b', hb', hid'⟩ := hkeep b hb
  exact ⟨b', hb', hid'.trans hid⟩

/-- Rows of the target may go together with all the rows that name them. -/
theorem cascade (h : Refers key t u) {p : β → Bool} {q : α → Bool}
    (hpq : ∀ a ∈ t.rows, ∀ b ∈ u.rows, Row.id b = key a → p b = true → q a = true) :
    Refers key (t.delete q) (u.delete p) := by
  intro a ha
  obtain ⟨hat, hqa⟩ := List.mem_filter.mp ha
  obtain ⟨b, hb, hid⟩ := h a hat
  refine ⟨b, List.mem_filter.mpr ⟨hb, ?_⟩, hid⟩
  cases hp : p b with
  | false => rfl
  | true =>
    rw [hpq a hat b hb hid hp] at hqa
    cases hqa

/-- The cascade of a key. -/
theorem cascade_key (h : Refers key t u) (i : Nat) :
    Refers key (t.delete (fun a => key a == i)) (u.delete (fun b => Row.id b == i)) := by
  apply h.cascade
  intro a _ b _ hid hb
  rwa [← hid]

end Refers

end PetParadise.Store.Table
