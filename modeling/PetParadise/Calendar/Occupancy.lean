/-
PetParadise.Calendar.Occupancy — periods of days, and capacity that is
checked once for a whole period.

A period is a first and a last day; NOTHING says that they are in order,
and a period whose days are out of order covers no day. Two tests are
compared. `Meets` is the one that matters: some day lies in both periods.
`Touches` is the one a database can evaluate: an end of one period lies in
the other. `Touches` never misses a common day (`touches_of_meets`), and
on periods in order it finds nothing else (`touches_iff_meets`). A longer
period touches no less, also if only last days are tested
(`touches_mono`, `touchesEnd_mono`).

`capacity_admit` is the rule for a resource with a daily capacity. If the
total weight of whatever a test counts, plus the weight of a newcomer,
stays within the capacity, and the test counts at least everything that
shares a day with the newcomer, then no day is overbooked after the
newcomer is let in.
-/
import PetParadise.Store.Sums

namespace PetParadise.Calendar

open Store

/-! ## Periods -/

/-- A first and a last day. -/
structure Period (D : Type) where
  first : D
  last : D

namespace Period

variable {D : Type} [LinearOrder D] {p q : Period D}

def Covers (p : Period D) (d : D) : Prop := p.first ≤ d ∧ d ≤ p.last

/-- Some day lies in both. -/
def Meets (p q : Period D) : Prop := ∃ d, p.Covers d ∧ q.Covers d

/-- An end of one lies in the other. -/
def Touches (p q : Period D) : Prop :=
  q.Covers p.first ∨ q.Covers p.last ∨ p.Covers q.first ∨ p.Covers q.last

/-- Periods with a common day touch: the later of the two first days is
such an end. -/
theorem touches_of_meets (h : p.Meets q) : p.Touches q := by
  obtain ⟨d, ⟨hp₁, hp₂⟩, hq₁, hq₂⟩ := h
  rcases le_total p.first q.first with hle | hle
  · exact .inr (.inr (.inl ⟨hle, hq₁.trans hp₂⟩))
  · exact .inl ⟨hle, hp₁.trans hq₂⟩

/-- For periods in order the two tests agree. -/
theorem touches_iff_meets (hp : p.first ≤ p.last) (hq : q.first ≤ q.last) :
    p.Touches q ↔ p.Meets q := by
  refine ⟨fun h => ?_, touches_of_meets⟩
  rcases h with h | h | h | h
  · exact ⟨p.first, ⟨le_rfl, hp⟩, h⟩
  · exact ⟨p.last, ⟨hp, le_rfl⟩, h⟩
  · exact ⟨q.first, h, ⟨le_rfl, hq⟩⟩
  · exact ⟨q.last, h, ⟨hq, le_rfl⟩⟩

theorem meets_iff (hp : p.first ≤ p.last) (hq : q.first ≤ q.last) :
    p.Meets q ↔ q.first ≤ p.last ∧ p.first ≤ q.last := by
  constructor
  · rintro ⟨d, ⟨hp₁, hp₂⟩, hq₁, hq₂⟩
    exact ⟨hq₁.trans hp₂, hp₁.trans hq₂⟩
  · rintro ⟨h₁, h₂⟩
    exact ⟨max p.first q.first, ⟨le_max_left _ _, max_le hp h₁⟩, le_max_right _ _, max_le h₂ hq⟩

/-- The tests of `Touches` that ask for a last day. -/
def TouchesEnd (p q : Period D) : Prop := q.Covers p.last ∨ p.Covers q.last

/-- Every day of one lies in the other, up to the order of the first. -/
def Within (p q : Period D) : Prop := q.first ≤ p.first ∧ p.last ≤ q.last

theorem Meets.mono {p' : Period D} (h : p.Meets q) (hp : p.Within p') : p'.Meets q := by
  obtain ⟨d, ⟨hp₁, hp₂⟩, hq⟩ := h
  exact ⟨d, ⟨hp.1.trans hp₁, hp₂.trans hp.2⟩, hq⟩

theorem touches_mono {p' : Period D} (hp : p.Within p') (hord : p.first ≤ p.last)
    (hq : q.first ≤ q.last) (h : p.Touches q) : p'.Touches q :=
  touches_of_meets (((touches_iff_meets hord hq).mp h).mono hp)

/-- A longer period still touches an end: its own last day where the other
one goes on, and the other's last day where it does not. -/
theorem touchesEnd_mono {p' : Period D} (hp : p.Within p') (hord : p.first ≤ p.last)
    (h : p.TouchesEnd q) : p'.TouchesEnd q := by
  rcases h with h | h
  · rcases le_total q.last p'.last with hle | hle
    · exact .inr ⟨(hp.1.trans hord).trans h.2, hle⟩
    · exact .inl ⟨h.1.trans hp.2, hle⟩
  · exact .inr ⟨hp.1.trans h.1, h.2.trans hp.2⟩

end Period

/-! ## Capacity -/

section Capacity

variable {ι D M : Type} [AddCommMonoid M] [PartialOrder M]
variable {weight : ι → M} {covers : ι → D → Bool} {items : List ι} {cap : M}

/-- No day carries more than the capacity. -/
def WithinCapacity (weight : ι → M) (covers : ι → D → Bool) (cap : M) (items : List ι) : Prop :=
  ∀ d, sumWhere weight (covers · d) items ≤ cap

/-- Nothing that covers a day leaves any non-negative capacity intact. -/
theorem withinCapacity_of_idle (hcap : 0 ≤ cap) (h : ∀ i ∈ items, ∀ d, covers i d = false) :
    WithinCapacity weight covers cap items := by
  intro d
  rw [sumWhere_eq_zero weight (fun i hi => h i hi d)]
  exact hcap

variable [IsOrderedAddMonoid M]

theorem WithinCapacity.mono {items' : List ι} {cap' : M}
    (h : WithinCapacity weight covers cap items) (hw : ∀ i ∈ items, 0 ≤ weight i)
    (hsub : items'.Sublist items) (hcap : cap ≤ cap') :
    WithinCapacity weight covers cap' items' := fun d =>
  (sumWhere_le_of_sublist hw hsub).trans ((h d).trans hcap)

/-- Admission: `counted` is what the check adds up. It may count too much
but must count everything that shares a day with the newcomer `a`. -/
theorem capacity_admit {counted : ι → Bool} {a : ι}
    (h : WithinCapacity weight covers cap items) (hw : ∀ i ∈ items, 0 ≤ weight i)
    (hcounted : ∀ i ∈ items, ∀ d, covers a d = true → covers i d = true → counted i = true)
    (hfit : sumWhere weight counted items + weight a ≤ cap) :
    WithinCapacity weight covers cap (items ++ [a]) := by
  intro d
  rw [sumWhere_append, sumWhere_singleton]
  cases ha : covers a d with
  | false =>
    -- a day the newcomer does not use is as full as before
    simpa [ha] using h d
  | true =>
    have hle : sumWhere weight (covers · d) items ≤ sumWhere weight counted items :=
      sumWhere_le_sumWhere hw (fun i hi => hcounted i hi d ha)
    simpa [ha] using (add_le_add hle le_rfl).trans hfit

end Capacity

end PetParadise.Calendar
