/-
PetParadise.Calendar.Civil — day numbers and the dates of the civil
calendar.

Days are numbered from 1 January 1970. A civil date is a year, a month and
a day of that month, in the Gregorian calendar extended to all years; its
fields carry the proof that the month has such a day. `Civil.toDays` counts
the days of a date, `civil` finds the date of a day. The year is guessed
from the mean length of a year, and the guess is at most one off.

`civil_before_iff` is what the rest of the development uses: comparing
dates field by field, years first, compares the days.

Nothing here mentions an application.
-/
import Mathlib.Data.Int.Order.Basic

namespace PetParadise.Calendar

/-! ## Years and months -/

def isLeap (y : Int) : Bool := y % 4 = 0 && (y % 100 ≠ 0 || y % 400 = 0)

/-- The length of a year beyond 365 days. -/
def leapDay (y : Int) : Int := if isLeap y then 1 else 0

/-- Days from the beginning of the year 1 to the beginning of a year. -/
def yearStart (y : Int) : Int := 365 * (y - 1) + (y - 1) / 4 - (y - 1) / 100 + (y - 1) / 400

/-- Days of the year before a month; month 13 is the next January. -/
def monthStart (y : Int) : Nat → Int
  | 0 => 0
  | 1 => 0
  | 2 => 31
  | 3 => 59 + leapDay y
  | 4 => 90 + leapDay y
  | 5 => 120 + leapDay y
  | 6 => 151 + leapDay y
  | 7 => 181 + leapDay y
  | 8 => 212 + leapDay y
  | 9 => 243 + leapDay y
  | 10 => 273 + leapDay y
  | 11 => 304 + leapDay y
  | 12 => 334 + leapDay y
  | _ => 365 + leapDay y

def monthLength (y : Int) (m : Nat) : Int := monthStart y (m + 1) - monthStart y m

theorem leapDay_bounds (y : Int) : 0 ≤ leapDay y ∧ leapDay y ≤ 1 := by
  unfold leapDay
  split <;> omega

theorem yearStart_succ (y : Int) : yearStart (y + 1) = yearStart y + 365 + leapDay y := by
  unfold yearStart leapDay
  cases h : isLeap y <;> simp only [isLeap, Bool.and_eq_true, Bool.and_eq_false_iff,
    Bool.or_eq_true, Bool.or_eq_false_iff, decide_eq_true_eq, decide_eq_false_iff_not] at h <;>
    simp only [if_true, Bool.false_eq_true, if_false] <;> omega

theorem yearStart_mono {y z : Int} (h : y ≤ z) : yearStart y ≤ yearStart z := by
  unfold yearStart
  omega

theorem monthStart_le_succ (y : Int) : ∀ m, monthStart y m ≤ monthStart y (m + 1)
  | 0 | 1 | 2 | 3 | 4 | 5 | 6 | 7 | 8 | 9 | 10 | 11 | 12 => by
      have hleap := leapDay_bounds y
      simp only [monthStart]
      omega
  | _ + 13 => le_rfl

theorem monthStart_mono (y : Int) {m n : Nat} (h : m ≤ n) : monthStart y m ≤ monthStart y n := by
  induction h with
  | refl => exact le_rfl
  | step _ ih => exact le_trans ih (monthStart_le_succ y _)

/-! ## Dates -/

/-- A date of the calendar. -/
structure Civil where
  year : Int
  month : Nat
  day : Nat
  month_pos : 1 ≤ month
  month_le : month ≤ 12
  day_pos : 1 ≤ day
  day_le : (day : Int) ≤ monthLength year month

namespace Civil

/-- The number of a date's day. -/
def toDays (c : Civil) : Int :=
  yearStart c.year + monthStart c.year c.month + (c.day - 1) - yearStart 1970

/-- In an earlier month, of whatever year. -/
def MonthBefore (c c' : Civil) : Prop :=
  c.year < c'.year ∨ c.year = c'.year ∧ c.month < c'.month

/-- Earlier, comparing years, then months, then days. -/
def Before (c c' : Civil) : Prop :=
  c.MonthBefore c' ∨ c.year = c'.year ∧ c.month = c'.month ∧ c.day < c'.day

/-- A date lies in its month, and the month in its year. -/
theorem toDays_bounds (c : Civil) :
    yearStart c.year ≤ c.toDays + yearStart 1970 ∧
    c.toDays + yearStart 1970 < yearStart c.year + monthStart c.year (c.month + 1) ∧
    c.toDays + yearStart 1970 < yearStart (c.year + 1) := by
  have hfirst : 0 ≤ monthStart c.year c.month := monthStart_mono c.year (Nat.zero_le c.month)
  have hlast : monthStart c.year (c.month + 1) ≤ monthStart c.year 13 :=
    monthStart_mono c.year (Nat.succ_le_succ c.month_le)
  have hday : (c.day : Int) ≤ monthStart c.year (c.month + 1) - monthStart c.year c.month :=
    c.day_le
  have hpos := c.day_pos
  have hsucc := yearStart_succ c.year
  have hend : monthStart c.year 13 = 365 + leapDay c.year := rfl
  unfold toDays
  omega

theorem toDays_lt_of_before {c c' : Civil} (h : c.Before c') : c.toDays < c'.toDays := by
  obtain ⟨-, hmonth, hyear⟩ := c.toDays_bounds
  obtain ⟨hyear', -⟩ := c'.toDays_bounds
  have hpos := c'.day_pos
  rcases h with (hlt | ⟨heq, hlt⟩) | ⟨heq, heqm, hlt⟩
  · have hmono := yearStart_mono (Int.add_one_le_of_lt hlt)
    omega
  · have hmono : monthStart c.year (c.month + 1) ≤ monthStart c.year c'.month :=
      monthStart_mono c.year hlt
    unfold toDays at hmonth ⊢
    rw [← heq]
    omega
  · unfold toDays
    rw [← heq, ← heqm]
    omega

end Civil

/-! ## From days to dates -/

/-- The year a day falls in, counting days from the beginning of year 1. -/
def yearOf (n : Int) : Int :=
  let guess := n * 400 / 146097 + 1
  if n < yearStart guess then guess - 1
  else if yearStart (guess + 1) ≤ n then guess + 1
  else guess

theorem yearOf_spec (n : Int) : yearStart (yearOf n) ≤ n ∧ n < yearStart (yearOf n + 1) := by
  unfold yearOf yearStart
  dsimp only
  split
  · omega
  · split <;> omega

/-- The month a day of the year falls in, counting from 0. -/
def monthOf (y r : Int) : Nat :=
  if r < monthStart y 2 then 1
  else if r < monthStart y 3 then 2
  else if r < monthStart y 4 then 3
  else if r < monthStart y 5 then 4
  else if r < monthStart y 6 then 5
  else if r < monthStart y 7 then 6
  else if r < monthStart y 8 then 7
  else if r < monthStart y 9 then 8
  else if r < monthStart y 10 then 9
  else if r < monthStart y 11 then 10
  else if r < monthStart y 12 then 11
  else 12

/-- For a day not before month `m`, `k` is its month. -/
def FindsMonth (y r : Int) (m k : Nat) : Prop :=
  monthStart y m ≤ r → m ≤ k ∧ k ≤ 12 ∧ monthStart y k ≤ r ∧ r < monthStart y (k + 1)

theorem FindsMonth.step {y r : Int} {m k : Nat} (hm : m ≤ 12) (h : FindsMonth y r (m + 1) k) :
    FindsMonth y r m (if r < monthStart y (m + 1) then m else k) := by
  intro hlow
  split
  · rename_i hlt
    exact ⟨Nat.le_refl m, hm, hlow, hlt⟩
  · rename_i hge
    obtain ⟨hle, hspec⟩ := h (not_lt.mp hge)
    exact ⟨by omega, hspec⟩

theorem monthOf_spec {y r : Int} (hlow : 0 ≤ r) (hhigh : r < 365 + leapDay y) :
    1 ≤ monthOf y r ∧ monthOf y r ≤ 12 ∧ monthStart y (monthOf y r) ≤ r ∧
      r < monthStart y (monthOf y r + 1) := by
  have hlast : FindsMonth y r 12 12 := fun h => ⟨Nat.le_refl 12, Nat.le_refl 12, h, hhigh⟩
  have hfinds : FindsMonth y r 1 (monthOf y r) := by
    unfold monthOf
    iterate 11 refine .step (by decide) ?_
    exact hlast
  exact hfinds hlow

/-- The date of a day. -/
def civil (d : Int) : Civil :=
  let n := d + yearStart 1970
  let y := yearOf n
  let r := n - yearStart y
  let m := monthOf y r
  have hyear : yearStart y ≤ n ∧ n < yearStart (y + 1) := yearOf_spec n
  have hmonth : 1 ≤ m ∧ m ≤ 12 ∧ monthStart y m ≤ r ∧ r < monthStart y (m + 1) := by
    have hsucc := yearStart_succ y
    exact monthOf_spec (by omega) (by omega)
  { year := y
    month := m
    day := (r - monthStart y m + 1).toNat
    month_pos := hmonth.1
    month_le := hmonth.2.1
    day_pos := by omega
    day_le := by unfold monthLength; omega }

theorem toDays_civil (d : Int) : (civil d).toDays = d := by
  obtain ⟨hyear, hyear'⟩ := yearOf_spec (d + yearStart 1970)
  have hsucc := yearStart_succ (yearOf (d + yearStart 1970))
  have hmonth := monthOf_spec (y := yearOf (d + yearStart 1970))
    (r := d + yearStart 1970 - yearStart (yearOf (d + yearStart 1970))) (by omega) (by omega)
  unfold Civil.toDays civil
  dsimp only
  omega

/-- **Dates are ordered as days are.** -/
theorem civil_before_iff {d e : Int} : (civil d).Before (civil e) ↔ d < e := by
  have hlt : ∀ {x y : Int}, (civil x).Before (civil y) → x < y := by
    intro x y h
    have hdays := Civil.toDays_lt_of_before h
    rwa [toDays_civil, toDays_civil] at hdays
  refine ⟨hlt, fun h => ?_⟩
  by_contra hno
  -- not earlier and not later is the same date, hence the same day
  have hno' : ¬ (civil e).Before (civil d) := fun hback => absurd (hlt hback) (by omega)
  have hsame : (civil d).toDays = (civil e).toDays := by
    simp only [Civil.Before, Civil.MonthBefore] at hno hno'
    have hyear : (civil d).year = (civil e).year := by omega
    have hmonth : (civil d).month = (civil e).month := by omega
    have hday : (civil d).day = (civil e).day := by omega
    unfold Civil.toDays
    rw [hyear, hmonth, hday]
  rw [toDays_civil, toDays_civil] at hsame
  omega

example : ((civil 0).year, (civil 0).month, (civil 0).day) = (1970, 1, 1) := by decide
example : ((civil 11016).year, (civil 11016).month, (civil 11016).day) = (2000, 2, 29) := by decide
example : ((civil (-1)).year, (civil (-1)).month, (civil (-1)).day) = (1969, 12, 31) := by decide

end PetParadise.Calendar
