import ChatAssistant.Timestamp.Calendar
import Mathlib.Order.Monotone.Basic
import Mathlib.Tactic.IntervalCases

/-!
The days of the calendar, numbered in their order. The day after a day has the next number and the
day before it the one before, over the ends of months, years and leap years, and the years follow
one another without a gap.
-/

namespace ChatAssistant.Timestamp

def daysBeforeMonth (year : Int) : Nat → Nat
  | 0 => 0
  | month + 1 => daysBeforeMonth year month + daysInMonth year month

/-- The days from the year 0 up to a year; a year before it is as many days below zero. -/
def daysBeforeYear (year : Int) : Int :=
  365 * year + (year + 3) / 4 - (year + 99) / 100 + (year + 399) / 400

def Date.number (date : Date) : Int :=
  daysBeforeYear date.year + daysBeforeMonth date.year date.month + date.day - 1

theorem daysBeforeYear_succ (year : Int) :
    daysBeforeYear (year + 1) = daysBeforeYear year + daysBeforeMonth year 13 := by
  have months : daysBeforeMonth year 13 = if isLeapYear year then 366 else 365 := by
    have sum : daysBeforeMonth year 13 =
        31 + daysInMonth year 2 + 31 + 30 + 31 + 30 + 31 + 31 + 30 + 31 + 30 + 31 := rfl
    rw [sum, daysInMonth]
    split <;> rfl
  rw [months, daysBeforeYear, daysBeforeYear]
  unfold isLeapYear
  simp only [Bool.and_eq_true, Bool.or_eq_true, decide_eq_true_eq]
  split <;> push_cast <;> omega

theorem le_daysInMonth (year : Int) {month : Nat} (first : 1 ≤ month) (last : month ≤ 12) :
    28 ≤ daysInMonth year month := by
  cases leap : isLeapYear year <;> interval_cases month <;> simp [daysInMonth, leap]

theorem daysBeforeMonth_le (year : Int) {first last : Nat} (order : first ≤ last) :
    daysBeforeMonth year first ≤ daysBeforeMonth year last :=
  monotone_nat_of_le_succ (fun _ => Nat.le_add_right _ _) order

theorem daysBeforeYear_le {first last : Int} (order : first ≤ last) :
    daysBeforeYear first ≤ daysBeforeYear last := by
  refine monotone_int_of_le_succ (fun year => ?_) order
  rw [daysBeforeYear_succ]
  omega

namespace Date

variable {date : Date}

theorem isValid_iff :
    date.isValid = true ↔ 1 ≤ date.day ∧ date.day ≤ daysInMonth date.year date.month := by
  rw [isValid, Bool.and_eq_true, decide_eq_true_eq, decide_eq_true_eq]

variable (valid : date.isValid = true)
include valid

theorem month_bounds_of_isValid : 1 ≤ date.month ∧ date.month ≤ 12 := by
  obtain ⟨first, last⟩ := isValid_iff.mp valid
  by_contra outside
  have none : daysInMonth date.year date.month = 0 := by
    unfold daysInMonth
    split <;> omega
  omega

theorem next_isValid : date.next.isValid = true := by
  have months := month_bounds_of_isValid valid
  rw [isValid_iff, next]
  split
  · dsimp only
    omega
  · split
    · have long := le_daysInMonth date.year (show 1 ≤ date.month + 1 by omega) (by omega)
      dsimp only
      omega
    · exact ⟨Nat.le_refl 1, show 1 ≤ 31 by decide⟩

theorem number_next : date.next.number = date.number + 1 := by
  have months := month_bounds_of_isValid valid
  obtain ⟨first, last⟩ := isValid_iff.mp valid
  unfold next
  split
  · simp only [number]
    omega
  · split
    · simp only [number, daysBeforeMonth]
      omega
    · have december : date.month = 12 := by omega
      have year : daysBeforeMonth date.year 13 =
          daysBeforeMonth date.year 12 + daysInMonth date.year 12 := rfl
      have january : daysBeforeMonth (date.year + 1) 1 = 0 := rfl
      rw [december] at last
      simp only [number, daysBeforeYear_succ, december, january, year]
      rename_i ended _
      rw [december] at ended
      omega

theorem previous_isValid : date.previous.isValid = true := by
  have months := month_bounds_of_isValid valid
  obtain ⟨first, last⟩ := isValid_iff.mp valid
  rw [isValid_iff, previous]
  split
  · dsimp only
    omega
  · split
    · have long := le_daysInMonth date.year (show 1 ≤ date.month - 1 by omega) (by omega)
      dsimp only
      omega
    · exact ⟨show 1 ≤ 31 by decide, Nat.le_refl 31⟩

theorem number_previous : date.previous.number = date.number - 1 := by
  have months := month_bounds_of_isValid valid
  obtain ⟨first, last⟩ := isValid_iff.mp valid
  unfold previous
  split
  · simp only [number]
    omega
  · split
    · have before : daysBeforeMonth date.year date.month =
          daysBeforeMonth date.year (date.month - 1) + daysInMonth date.year (date.month - 1) := by
        obtain ⟨month, same⟩ : ∃ month, date.month = month + 1 := ⟨date.month - 1, by omega⟩
        rw [same]
        rfl
      simp only [number, before]
      omega
    · have january : date.month = 1 := by omega
      have none : daysBeforeMonth date.year 1 = 0 := rfl
      have year := daysBeforeYear_succ (date.year - 1)
      have december : daysBeforeMonth (date.year - 1) 13 =
          daysBeforeMonth (date.year - 1) 12 + 31 := rfl
      rw [Int.sub_add_cancel] at year
      simp only [number, year, january, none, december]
      omega

theorem number_bounds :
    daysBeforeYear date.year ≤ date.number ∧ date.number < daysBeforeYear (date.year + 1) := by
  obtain ⟨first, last⟩ := isValid_iff.mp valid
  have months := month_bounds_of_isValid valid
  have upTo : daysBeforeMonth date.year date.month + daysInMonth date.year date.month ≤
      daysBeforeMonth date.year 13 :=
    daysBeforeMonth_le date.year (show date.month + 1 ≤ 13 by omega)
  rw [daysBeforeYear_succ, number]
  omega

theorem year_le_iff (last : Int) :
    date.year ≤ last ↔ date.number < daysBeforeYear (last + 1) := by
  obtain ⟨above, below⟩ := number_bounds valid
  constructor
  · intro early
    exact below.trans_le (daysBeforeYear_le (by omega))
  · intro early
    by_contra late
    have start : daysBeforeYear (last + 1) ≤ daysBeforeYear date.year :=
      daysBeforeYear_le (by omega)
    omega

end Date

end ChatAssistant.Timestamp
