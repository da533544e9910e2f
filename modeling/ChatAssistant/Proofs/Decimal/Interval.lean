import ChatAssistant.Decimal.Shortest
import Mathlib.Algebra.Order.Field.Power
import Mathlib.Data.Rat.Cast.Order
import Mathlib.Tactic.Linarith
import Mathlib.Tactic.Positivity
import Mathlib.Tactic.Ring

/-!
The rational numbers around a double. Those that are nearer to it than to any other double form an
interval, and the shortest decimal of the double lies in it, on the coarsest grid that meets it.
-/

namespace ChatAssistant.Decimal

def value (decimal : Decimal) : ℚ :=
  decimal.coefficient * (10 : ℚ) ^ decimal.exponent

theorem zpow_toNat (base : ℚ) {power : Int} (positional : 0 ≤ power) :
    base ^ power.toNat = base ^ power := by
  rw [← zpow_natCast, Int.toNat_of_nonneg positional]

theorem value_eq_natCast {decimal : Decimal} (positional : 0 ≤ decimal.exponent) :
    decimal.value = (decimal.coefficient * 10 ^ decimal.exponent.toNat : Nat) := by
  push_cast
  rw [zpow_toNat 10 positional]
  rfl

theorem zpow_mul_toNat {base : ℚ} (nonzero : base ≠ 0) (power : Int) :
    base ^ power * base ^ (-power).toNat = base ^ power.toNat := by
  rw [← zpow_natCast, ← zpow_natCast, ← zpow_add₀ nonzero]
  congr 1
  omega

namespace Double

def value (double : Double) : ℚ :=
  double.significand * (2 : ℚ) ^ double.exponent

def lower (double : Double) : ℚ :=
  double.lowerQuarters * (2 : ℚ) ^ (double.exponent - 2)

def upper (double : Double) : ℚ :=
  double.upperQuarters * (2 : ℚ) ^ (double.exponent - 2)

/-- The number is nearer to the double than to any other one. Of those in the middle between two
doubles the double has its share exactly if its significand is even. -/
def Attracts (double : Double) (number : ℚ) : Prop :=
  if double.significand % 2 = 0 then double.lower ≤ number ∧ number ≤ double.upper
  else double.lower < number ∧ number < double.upper

variable {double : Double}

theorem value_eq_quarters (double : Double) :
    double.value = (4 * double.significand : Nat) * (2 : ℚ) ^ (double.exponent - 2) := by
  have quarter : (2 : ℚ) ^ double.exponent = 4 * (2 : ℚ) ^ (double.exponent - 2) := by
    rw [show double.exponent = double.exponent - 2 + 2 by omega, zpow_add₀ two_ne_zero]
    norm_num
    ring
  rw [value, quarter]
  push_cast
  ring

theorem le_lowerQuarters_add (double : Double) :
    4 * double.significand ≤ double.lowerQuarters + 2 := by
  unfold lowerQuarters
  split <;> omega

theorem lowerQuarters_lt (positive : 0 < double.significand) :
    double.lowerQuarters < 4 * double.significand := by
  unfold lowerQuarters
  split <;> omega

theorem quarter_pos (double : Double) : (0 : ℚ) < 2 ^ (double.exponent - 2) :=
  zpow_pos two_pos _

theorem lower_lt_value (positive : 0 < double.significand) : double.lower < double.value := by
  rw [value_eq_quarters, lower]
  apply mul_lt_mul_of_pos_right _ double.quarter_pos
  exact_mod_cast lowerQuarters_lt positive

theorem value_lt_upper (double : Double) : double.value < double.upper := by
  rw [value_eq_quarters, upper]
  apply mul_lt_mul_of_pos_right _ double.quarter_pos
  unfold upperQuarters
  exact_mod_cast Nat.lt_add_of_pos_right two_pos

theorem Attracts.bounds {number : ℚ} (attracts : double.Attracts number) :
    double.lower ≤ number ∧ number ≤ double.upper := by
  unfold Attracts at attracts
  split at attracts
  · exact attracts
  · exact ⟨attracts.1.le, attracts.2.le⟩

theorem attracts_of_lt {number : ℚ} (above : double.lower < number)
    (below : number < double.upper) : double.Attracts number := by
  unfold Attracts
  split
  · exact ⟨above.le, below.le⟩
  · exact ⟨above, below⟩

theorem attracts_value (positive : 0 < double.significand) : double.Attracts double.value :=
  attracts_of_lt (lower_lt_value positive) double.value_lt_upper

theorem Attracts.between {first number last : ℚ} (attractsFirst : double.Attracts first)
    (attractsLast : double.Attracts last) (above : first ≤ number) (below : number ≤ last) :
    double.Attracts number := by
  unfold Attracts at attractsFirst attractsLast ⊢
  split
  · rename_i even
    rw [if_pos even] at attractsFirst attractsLast
    exact ⟨attractsFirst.1.trans above, below.trans attractsLast.2⟩
  · rename_i odd
    rw [if_neg odd] at attractsFirst attractsLast
    exact ⟨attractsFirst.1.trans_le above, below.trans_lt attractsLast.2⟩

/-- By this factor both a quarter and a power of ten become whole. -/
def scale (double : Double) (power : Int) : ℚ :=
  (2 : ℚ) ^ (2 - double.exponent).toNat * (10 : ℚ) ^ (-power).toNat

theorem scale_pos (double : Double) (power : Int) : 0 < double.scale power := by
  unfold scale
  positivity

theorem quarter_mul_scale (double : Double) (power : Int) :
    (2 : ℚ) ^ (double.exponent - 2) * double.scale power = double.quarterOver power := by
  have whole := zpow_mul_toNat (two_ne_zero (α := ℚ)) (double.exponent - 2)
  rw [neg_sub] at whole
  rw [scale, ← mul_assoc, whole, quarterOver]
  simp only [Nat.pow_eq]
  push_cast
  rfl

theorem power_mul_scale (double : Double) (power : Int) :
    (10 : ℚ) ^ power * double.scale power = double.gridOver power := by
  have whole := zpow_mul_toNat (show (10 : ℚ) ≠ 0 by norm_num) power
  rw [scale, mul_left_comm, whole, gridOver]
  simp only [Nat.pow_eq]
  push_cast
  rfl

theorem quarters_le_iff (double : Double) (power : Int) (quarters count : Nat) :
    (quarters : ℚ) * 2 ^ (double.exponent - 2) ≤ count * 10 ^ power ↔
      quarters * double.quarterOver power ≤ count * double.gridOver power := by
  rw [← mul_le_mul_iff_left₀ (double.scale_pos power), mul_assoc, mul_assoc, quarter_mul_scale,
    power_mul_scale]
  exact_mod_cast Iff.rfl

theorem le_quarters_iff (double : Double) (power : Int) (quarters count : Nat) :
    (count : ℚ) * 10 ^ power ≤ quarters * 2 ^ (double.exponent - 2) ↔
      count * double.gridOver power ≤ quarters * double.quarterOver power := by
  rw [← mul_le_mul_iff_left₀ (double.scale_pos power), mul_assoc, mul_assoc, quarter_mul_scale,
    power_mul_scale]
  exact_mod_cast Iff.rfl

theorem reads_iff (double : Double) (power : Int) (count : Nat) :
    double.reads power count = true ↔ double.Attracts (count * 10 ^ power) := by
  unfold reads Attracts lower upper
  split
  · rw [Bool.and_eq_true, decide_eq_true_iff, decide_eq_true_iff, quarters_le_iff,
      le_quarters_iff]
  · rw [Bool.and_eq_true, decide_eq_true_iff, decide_eq_true_iff, ← not_le, ← not_le, ← not_le,
      ← not_le, quarters_le_iff, le_quarters_iff]

theorem gridOver_pos (double : Double) (power : Int) : 0 < double.gridOver power := by
  unfold gridOver
  simp only [Nat.pow_eq]
  positivity

theorem floorOn_le (double : Double) (power : Int) :
    (double.floorOn power : ℚ) * 10 ^ power ≤ double.value := by
  rw [value_eq_quarters, le_quarters_iff]
  exact Nat.div_mul_le_self _ _

theorem lt_floorOn_succ (double : Double) (power : Int) :
    double.value < ((double.floorOn power + 1 : Nat) : ℚ) * 10 ^ power := by
  rw [value_eq_quarters, ← not_le, le_quarters_iff, not_le]
  exact Nat.lt_mul_of_div_lt (Nat.lt_succ_self _) (double.gridOver_pos power)

theorem reads_of_nearestOn? {tie : Tie} {power : Int} {count : Nat}
    (nearest : double.nearestOn? tie power = some count) : double.reads power count = true := by
  unfold nearestOn? at nearest
  dsimp only at nearest
  split at nearest
  · rename_i reads
    cases nearest
    exact (Bool.and_eq_true _ _ ▸ reads).1
  · split at nearest
    · rename_i reads
      cases nearest
      exact reads
    · cases nearest

/-- If a point of the grid reads back, so does the one next to the number on its side. -/
theorem not_reads_of_nearestOn? (positive : 0 < double.significand) {tie : Tie} {power : Int}
    (none : double.nearestOn? tie power = none) (count : Nat) :
    double.reads power count = false := by
  have neither : double.reads power (double.floorOn power) = false ∧
      double.reads power (double.floorOn power + 1) = false := by
    unfold nearestOn? at none
    grind
  rw [← Bool.not_eq_true, reads_iff]
  intro attracts
  have itself := attracts_value positive
  have powerPos : (0 : ℚ) < 10 ^ power := zpow_pos (by norm_num) _
  rcases Nat.lt_or_ge (double.floorOn power) count with above | below
  · have next : ((double.floorOn power + 1 : Nat) : ℚ) * 10 ^ power ≤ count * 10 ^ power := by
      apply mul_le_mul_of_nonneg_right _ powerPos.le
      exact_mod_cast above
    have reads := itself.between attracts (double.lt_floorOn_succ power).le next
    rw [← reads_iff, neither.2] at reads
    cases reads
  · have next : (count : ℚ) * 10 ^ power ≤ double.floorOn power * 10 ^ power := by
      apply mul_le_mul_of_nonneg_right _ powerPos.le
      exact_mod_cast below
    have reads := attracts.between itself next (double.floorOn_le power)
    rw [← reads_iff, neither.1] at reads
    cases reads

/-- The significand has as many binary digits as there is room for, or the exponent is the least
one. -/
structure IsCanonical (double : Double) : Prop where
  positive : 0 < double.significand
  small : double.significand < 9007199254740992
  least : -1074 ≤ double.exponent
  most : double.exponent ≤ 971
  full : double.significand < 4503599627370496 → double.exponent = -1074

theorem Attracts.pos (positive : 0 < double.significand) {number : ℚ}
    (attracts : double.Attracts number) : 0 < number := by
  have lowest : 0 < double.lowerQuarters := by
    have := double.le_lowerQuarters_add
    omega
  have lower : 0 < double.lower := mul_pos (by exact_mod_cast lowest) double.quarter_pos
  exact lower.trans_le attracts.bounds.1

theorem upper_eq (double : Double) :
    double.upper = double.value + 2 * (2 : ℚ) ^ (double.exponent - 2) := by
  rw [value_eq_quarters, upper, upperQuarters]
  push_cast
  ring

theorem attracts_above (positive : 0 < double.significand) {power : Int}
    (fine : (10 : ℚ) ^ power < 2 * (2 : ℚ) ^ (double.exponent - 2)) :
    double.Attracts ((double.floorOn power + 1 : Nat) * 10 ^ power) := by
  apply attracts_of_lt
  · exact (lower_lt_value positive).trans (double.lt_floorOn_succ _)
  · have below := double.floorOn_le power
    rw [upper_eq]
    push_cast
    linarith

theorem ten_zpow_lt_two_zpow : (10 : ℚ) ^ (-330 : Int) < 2 ^ (-1075 : Int) :=
  calc
    (10 : ℚ) ^ (-330 : Int) = ((10 : ℚ) ^ (-15 : Int)) ^ 22 := by
      rw [← zpow_natCast, ← zpow_mul]
      congr 1
    _ < ((2 : ℚ) ^ (-49 : Int)) ^ 22 := by
      apply pow_lt_pow_left₀ _ (zpow_pos (by norm_num) _).le (by decide)
      norm_num
    _ = 2 ^ (-1078 : Int) := by
      rw [← zpow_natCast, ← zpow_mul]
      congr 1
    _ ≤ 2 ^ (-1075 : Int) := zpow_le_zpow_right₀ one_le_two (by decide)

/-- The last grid is finer than any interval. -/
theorem exists_attracts_on_finest (canonical : double.IsCanonical) :
    ∃ count : Nat, double.Attracts (count * 10 ^ (-330 : Int)) := by
  refine ⟨_, attracts_above canonical.positive ?_⟩
  have least : (2 : ℚ) ^ (-1075 : Int) ≤ 2 ^ (double.exponent - 2 + 1) := by
    apply zpow_le_zpow_right₀ one_le_two
    have := canonical.least
    omega
  rw [zpow_add_one₀ two_ne_zero, mul_comm] at least
  exact ten_zpow_lt_two_zpow.trans_le least

theorem shortestFrom_cases (positive : 0 < double.significand) (tie : Tie) {steps : Nat}
    {power : Int} (found : ∃ place < steps, ∃ count, double.reads (power - place) count = true) :
    double.reads (double.shortestFrom tie steps power).exponent
        (double.shortestFrom tie steps power).coefficient = true ∧
      ∀ coarser, (double.shortestFrom tie steps power).exponent < coarser → coarser ≤ power →
        ∀ count, double.reads coarser count = false := by
  induction steps generalizing power with
  | zero =>
      obtain ⟨place, few, _⟩ := found
      exact absurd few (Nat.not_lt_zero place)
  | succ steps ih =>
      cases nearest : double.nearestOn? tie power with
      | some count =>
          have ended : double.shortestFrom tie (steps + 1) power = ⟨count, power⟩ := by
            rw [shortestFrom, nearest]
          rw [ended]
          refine ⟨reads_of_nearestOn? nearest, ?_⟩
          intro coarser above below
          exact absurd above (Int.not_lt.mpr below)
      | none =>
          have unread := not_reads_of_nearestOn? positive nearest
          have goesOn : double.shortestFrom tie (steps + 1) power =
              double.shortestFrom tie steps (power - 1) := by
            rw [shortestFrom, nearest]
          obtain ⟨place, few, count, reads⟩ := found
          -- The point that reads back is on a finer grid, since none does on this one.
          have later : ∃ place < steps, ∃ count,
              double.reads (power - 1 - place) count = true := by
            cases place with
            | zero =>
                rw [Int.natCast_zero, Int.sub_zero, unread count] at reads
                cases reads
            | succ place =>
                refine ⟨place, Nat.lt_of_succ_lt_succ few, count, ?_⟩
                rw [← reads]
                congr 1
                omega
          obtain ⟨readsThere, finest⟩ := ih later
          rw [goesOn]
          refine ⟨readsThere, ?_⟩
          intro coarser above below
          rcases Int.lt_or_eq_of_le below with inside | same
          · exact finest coarser above (by omega)
          · rw [same]
            exact unread

section Shortest

variable (canonical : double.IsCanonical) (tie : Tie)
include canonical

theorem shortest_cases :
    double.Attracts (double.shortest tie).value ∧
      ∀ coarser, (double.shortest tie).exponent < coarser → coarser ≤ 309 →
        ∀ count : Nat, ¬double.Attracts (count * 10 ^ coarser) := by
  obtain ⟨count, attracts⟩ := exists_attracts_on_finest canonical
  have found : ∃ place < 640, ∃ count, double.reads (309 - (place : Nat)) count = true :=
    ⟨639, by decide, count, (double.reads_iff _ count).mpr attracts⟩
  obtain ⟨reads, finest⟩ := shortestFrom_cases canonical.positive tie found
  refine ⟨(double.reads_iff _ _).mp reads, ?_⟩
  intro coarser above below count attracts
  rw [← reads_iff, finest coarser above below count] at attracts
  cases attracts

theorem shortest_coefficient_pos : 0 < (double.shortest tie).coefficient := by
  have positive := (shortest_cases canonical tie).1.pos canonical.positive
  rw [Decimal.value] at positive
  apply Nat.pos_of_ne_zero
  intro none
  rw [none, Nat.cast_zero, zero_mul] at positive
  exact lt_irrefl 0 positive

/-- Otherwise the decimal would have been found on a coarser grid. -/
theorem shortest_coefficient_mod (fine : (double.shortest tie).exponent < 309) :
    (double.shortest tie).coefficient % 10 ≠ 0 := by
  obtain ⟨attracts, finest⟩ := shortest_cases canonical tie
  intro rounded
  apply finest ((double.shortest tie).exponent + 1) (by omega) (by omega)
    ((double.shortest tie).coefficient / 10)
  have whole : (double.shortest tie).coefficient =
      (double.shortest tie).coefficient / 10 * 10 := by omega
  rw [Decimal.value, whole] at attracts
  rw [zpow_add_one₀ (by norm_num)]
  push_cast at attracts
  convert attracts using 1
  ring

end Shortest

theorem le_lower_add (double : Double) :
    double.value ≤ double.lower + 2 * (2 : ℚ) ^ (double.exponent - 2) := by
  rw [value_eq_quarters, lower, ← add_mul]
  apply mul_le_mul_of_nonneg_right _ double.quarter_pos.le
  exact_mod_cast double.le_lowerQuarters_add

theorem exponent_le_zero (canonical : double.IsCanonical) {number : Nat}
    (whole : double.value = number) (small : number < 9007199254740992) : double.exponent ≤ 0 := by
  by_contra positive
  have full : 4503599627370496 ≤ double.significand := by
    by_contra short
    have := canonical.full (by omega)
    omega
  have doubled : (2 : ℚ) ^ (1 : Int) ≤ 2 ^ double.exponent := by
    apply zpow_le_zpow_right₀ one_le_two
    omega
  have large : (4503599627370496 : ℚ) * 2 ≤ double.value := by
    rw [value]
    apply mul_le_mul _ doubled zero_le_two (Nat.cast_nonneg _)
    exact_mod_cast full
  rw [whole] at large
  norm_num at large
  exact absurd small (Nat.not_lt.mpr (by exact_mod_cast large))

/-- No grid is finer than a whole number needs, and no other whole number is as near. -/
theorem shortest_of_whole (canonical : double.IsCanonical) (tie : Tie) {number : Nat}
    (whole : double.value = number) (small : number < 9007199254740992) :
    0 ≤ (double.shortest tie).exponent ∧ (double.shortest tie).value = number := by
  obtain ⟨attracts, finest⟩ := shortest_cases canonical tie
  have positional : 0 ≤ (double.shortest tie).exponent := by
    by_contra negative
    apply finest 0 (by omega) (by decide) number
    rw [zpow_zero, mul_one, ← whole]
    exact attracts_value canonical.positive
  refine ⟨positional, ?_⟩
  obtain ⟨other, same⟩ : ∃ other : Nat, (double.shortest tie).value = other :=
    ⟨_, value_eq_natCast positional⟩
  have near : 2 * (2 : ℚ) ^ (double.exponent - 2) < 1 := by
    have exponent := exponent_le_zero canonical whole small
    have quarter : (2 : ℚ) ^ (double.exponent - 2) ≤ 2 ^ (-2 : Int) := by
      apply zpow_le_zpow_right₀ one_le_two
      omega
    norm_num at quarter
    linarith
  have above := double.le_lower_add.trans (add_le_add_left attracts.bounds.1 _)
  have below := attracts.bounds.2
  rw [upper_eq] at below
  rw [same, whole] at above below
  rw [same]
  have upward : (number : ℚ) < other + 1 := by linarith
  have downward : (other : ℚ) < number + 1 := by linarith
  have upward' : number < other + 1 := by exact_mod_cast upward
  have downward' : other < number + 1 := by exact_mod_cast downward
  exact_mod_cast (show other = number by omega)

end Double

end ChatAssistant.Decimal
