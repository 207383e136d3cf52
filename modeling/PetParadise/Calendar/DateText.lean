/-
PetParadise.Calendar.DateText — dates written day first, and the order of
the texts.

`dmy` is the text `strftime("%d/%m/%Y")` gives: two digits, two digits, and
a year of at least four. Texts are compared from the left, so the DAY
decides first and the year last (`dmy_lt_iff`), while the calendar has it
the other way round. `Misordered` and `YearsMisordered` list the pairs of
dates on which the two disagree, and `dmy_lt_iff_before` proves the list
exact. The second kind takes a year of more than four digits, or one before
the year 0.

Nothing here mentions an application.
-/
import Mathlib.Algebra.Group.Nat.Defs
import Mathlib.Tactic.Tauto
import PetParadise.Calendar.Civil

namespace PetParadise.Calendar

/-! ## Numerals of a fixed width -/

/-- The last `w` digits of a number. -/
def fixedDigits : Nat → Nat → List Char
  | 0, _ => []
  | w + 1, n => fixedDigits w (n / 10) ++ [Nat.digitChar (n % 10)]

theorem length_fixedDigits (w n : Nat) : (fixedDigits w n).length = w := by
  induction w generalizing n with
  | zero => rfl
  | succ w ih => simp [fixedDigits, ih]

theorem digitChar_lt_iff {a b : Nat} (ha : a < 10) (hb : b < 10) :
    Nat.digitChar a < Nat.digitChar b ↔ a < b := by
  have hchar : Nat.digitChar a < Nat.digitChar b ↔
      (Nat.digitChar a).toNat < (Nat.digitChar b).toNat := Iff.rfl
  rw [hchar, Nat.toNat_digitChar_of_lt_ten ha, Nat.toNat_digitChar_of_lt_ten hb]
  omega

/-- Behind parts of one length the order is decided by these parts, and
only where they agree by what follows. -/
theorem append_lt_append_iff {α : Type} [LT α] {a a' b b' : List α}
    (h : a.length = a'.length) : a ++ b < a' ++ b' ↔ a < a' ∨ a = a' ∧ b < b' := by
  induction a generalizing a' with
  | nil =>
    have hnil : a' = [] := List.length_eq_zero_iff.mp h.symm
    subst hnil
    simp
  | cons x a ih =>
    cases a' with
    | nil => cases h
    | cons x' a' =>
      simp only [List.cons_append, List.cons_lt_cons_iff, ih (Nat.succ.inj h), List.cons.injEq]
      tauto

/-- Numerals of one width are ordered as the numbers are. -/
theorem fixedDigits_lt_iff {w m n : Nat} (hm : m < 10 ^ w) (hn : n < 10 ^ w) :
    fixedDigits w m < fixedDigits w n ↔ m < n := by
  induction w generalizing m n with
  | zero =>
    rw [Nat.pow_zero] at hm hn
    simp only [fixedDigits, List.lt_irrefl, false_iff]
    omega
  | succ w ih =>
    rw [Nat.pow_succ] at hm hn
    have hlt := @ih (m / 10) (n / 10) (by omega) (by omega)
    have hgt := @ih (n / 10) (m / 10) (by omega) (by omega)
    have heq : fixedDigits w (m / 10) = fixedDigits w (n / 10) ↔ m / 10 = n / 10 := by
      refine ⟨fun h => ?_, fun h => by rw [h]⟩
      rw [h] at hlt hgt
      simp only [List.lt_irrefl, false_iff] at hlt hgt
      omega
    have hlast := digitChar_lt_iff (Nat.mod_lt m (by decide : 0 < 10))
      (Nat.mod_lt n (by decide : 0 < 10))
    simp only [fixedDigits]
    rw [append_lt_append_iff (by rw [length_fixedDigits, length_fixedDigits]), hlt, heq,
      List.cons_lt_cons_iff, hlast]
    simp only [List.lt_irrefl, and_false, or_false]
    omega

theorem fixedDigits_inj {w m n : Nat} (hm : m < 10 ^ w) (hn : n < 10 ^ w) :
    fixedDigits w m = fixedDigits w n ↔ m = n := by
  refine ⟨fun h => ?_, fun h => by rw [h]⟩
  have hlt := fixedDigits_lt_iff hm hn
  have hgt := fixedDigits_lt_iff hn hm
  rw [h] at hlt hgt
  simp only [List.lt_irrefl, false_iff] at hlt hgt
  omega

/-! ## Dates -/

/-- A number with at least `w` digits. -/
def paddedDigits (w n : Nat) : List Char :=
  if n < 10 ^ w then fixedDigits w n else Nat.toDigits 10 n

/-- `%Y`. -/
def yearText : Int → List Char
  | .ofNat y => paddedDigits 4 y
  | .negSucc y => '-' :: paddedDigits 4 (y + 1)

/-- `strftime("%d/%m/%Y")`. -/
def dmy (c : Civil) : String :=
  String.ofList
    (fixedDigits 2 c.day ++ ('/' :: (fixedDigits 2 c.month ++ ('/' :: yearText c.year))))

/-- Up to the year 9999 the years are ordered as their texts are. -/
theorem yearText_lt_iff {y z : Int} (hy : 0 ≤ y ∧ y ≤ 9999) (hz : 0 ≤ z ∧ z ≤ 9999) :
    yearText y < yearText z ↔ y < z := by
  obtain ⟨m, rfl⟩ := Int.eq_ofNat_of_zero_le hy.1
  obtain ⟨n, rfl⟩ := Int.eq_ofNat_of_zero_le hz.1
  have hm : m < 10 ^ 4 := by omega
  have hn : n < 10 ^ 4 := by omega
  change paddedDigits 4 m < paddedDigits 4 n ↔ _
  rw [paddedDigits, paddedDigits, if_pos hm, if_pos hn, fixedDigits_lt_iff hm hn]
  omega

theorem monthLength_le (y : Int) {m : Nat} (h : 1 ≤ m) (h' : m ≤ 12) : monthLength y m ≤ 31 := by
  have hleap := leapDay_bounds y
  unfold monthLength
  match m, h, h' with
  | 1, _, _ | 2, _, _ | 3, _, _ | 4, _, _ | 5, _, _ | 6, _, _ | 7, _, _ | 8, _, _ | 9, _, _
  | 10, _, _ | 11, _, _ | 12, _, _ =>
    simp only [monthStart]
    omega

/-- Texts are compared day first. -/
theorem dmy_lt_iff (c c' : Civil) : dmy c < dmy c' ↔ c.day < c'.day ∨ c.day = c'.day ∧
    (c.month < c'.month ∨ c.month = c'.month ∧ yearText c.year < yearText c'.year) := by
  have hday : ∀ x : Civil, x.day < 10 ^ 2 := by
    intro x
    have hle := x.day_le
    have hlen := monthLength_le x.year x.month_pos x.month_le
    omega
  have hmonth : ∀ x : Civil, x.month < 10 ^ 2 := fun x => by have := x.month_le; omega
  have hlen : ∀ m n, (fixedDigits 2 m).length = (fixedDigits 2 n).length := fun m n => by
    rw [length_fixedDigits, length_fixedDigits]
  have hslash : ¬ ('/' < '/') := by decide
  change (dmy c).toList < (dmy c').toList ↔ _
  rw [dmy, dmy, String.toList_ofList, String.toList_ofList, append_lt_append_iff (hlen _ _),
    List.cons_lt_cons_iff, append_lt_append_iff (hlen _ _), List.cons_lt_cons_iff,
    fixedDigits_lt_iff (hday c) (hday c'), fixedDigits_inj (hday c) (hday c'),
    fixedDigits_lt_iff (hmonth c) (hmonth c'), fixedDigits_inj (hmonth c) (hmonth c')]
  simp only [hslash, true_and, false_or]

/-- The day of the month gets smaller while the month gets later, or, on
the same day of the month, the month gets smaller while the year gets
later. -/
def Misordered (c c' : Civil) : Prop :=
  c.day < c'.day ∧ c'.MonthBefore c ∨ c'.day < c.day ∧ c.MonthBefore c' ∨
  c.day = c'.day ∧ (c.month < c'.month ∧ c'.year < c.year ∨ c'.month < c.month ∧ c.year < c'.year)

/-- Only the years differ, and their texts are ordered otherwise. -/
def YearsMisordered (c c' : Civil) : Prop :=
  c.day = c'.day ∧ c.month = c'.month ∧
    ¬ (yearText c.year < yearText c'.year ↔ c.year < c'.year)

/-- **Where the order of the texts is that of the calendar.** -/
theorem dmy_lt_iff_before (c c' : Civil) :
    (dmy c < dmy c' ↔ c.Before c') ↔ ¬ Misordered c c' ∧ ¬ YearsMisordered c c' := by
  rw [dmy_lt_iff]
  unfold Misordered YearsMisordered Civil.Before Civil.MonthBefore
  -- the first field in which the texts differ decides on the left
  rcases Nat.lt_trichotomy c.day c'.day with hday | hday | hday
  · grind
  · rcases Nat.lt_trichotomy c.month c'.month with hmonth | hmonth | hmonth <;> grind
  · grind

theorem not_yearsMisordered {c c' : Civil} (h : 0 ≤ c.year ∧ c.year ≤ 9999)
    (h' : 0 ≤ c'.year ∧ c'.year ≤ 9999) : ¬ YearsMisordered c c' := fun hyears =>
  hyears.2.2 (yearText_lt_iff h h')

end PetParadise.Calendar
