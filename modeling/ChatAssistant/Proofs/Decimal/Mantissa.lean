import Mathlib.Algebra.Order.Field.Power
import Mathlib.Data.Rat.Cast.Order
import Mathlib.Tactic.Linarith
import Mathlib.Tactic.Ring

/-!
Binary mantissas that are cut off. The two bits behind one tell where the number lies between it
and the next mantissa, also after more of it is cut off, and so decide how it is rounded.
-/

namespace ChatAssistant.Decimal

open Float.Model Float.Model.UnpackedFloat

/-- The mantissa with the first bit behind it. -/
def halves (held : ExtendedMantissa) : Nat :=
  2 * held.mantissa + held.roundBit.toNat

/-- The last bit tells whether any of the number is left behind the first one. -/
structure Represents (held : ExtendedMantissa) (number : ℚ) : Prop where
  above : halves held ≤ 2 * number
  below : 2 * number < halves held + 1
  exact_iff : held.stickyBit = false ↔ 2 * number = halves held

variable {held : ExtendedMantissa} {number : ℚ}

theorem halves_cases (held : ExtendedMantissa) :
    held.roundBit = false ∧ halves held = 2 * held.mantissa ∨
      held.roundBit = true ∧ halves held = 2 * held.mantissa + 1 := by
  unfold halves
  cases held.roundBit with
  | false => exact .inl ⟨rfl, rfl⟩
  | true => exact .inr ⟨rfl, rfl⟩

theorem Represents.bounds (represents : Represents held number) :
    held.mantissa ≤ number ∧ number < held.mantissa + 1 := by
  have least : (2 * held.mantissa : ℚ) ≤ halves held := by
    have shape := halves_cases held
    exact_mod_cast (show 2 * held.mantissa ≤ halves held by omega)
  have most : (halves held : ℚ) ≤ 2 * held.mantissa + 1 := by
    have shape := halves_cases held
    exact_mod_cast (show halves held ≤ 2 * held.mantissa + 1 by omega)
  have above := represents.above
  have below := represents.below
  constructor <;> linarith

theorem halves_shiftRightOne (held : ExtendedMantissa) :
    halves held.shiftRightOne = held.mantissa := by
  unfold halves ExtendedMantissa.shiftRightOne
  rcases Nat.mod_two_eq_zero_or_one held.mantissa with even | odd
  · rw [even]
    change 2 * (held.mantissa / 2) + 0 = held.mantissa
    omega
  · rw [odd]
    change 2 * (held.mantissa / 2) + 1 = held.mantissa
    omega

theorem Represents.shiftRightOne (represents : Represents held number) :
    Represents held.shiftRightOne (number / 2) := by
  obtain ⟨above, below⟩ := represents.bounds
  have whole : 2 * (number / 2) = number := by ring
  refine ⟨?_, ?_, ?_⟩
  · rw [whole, halves_shiftRightOne]
    exact above
  · rw [whole, halves_shiftRightOne]
    exact below
  · rw [whole, halves_shiftRightOne]
    change (held.roundBit || held.stickyBit) = false ↔ number = held.mantissa
    rw [Bool.or_eq_false_iff, represents.exact_iff]
    rcases halves_cases held with ⟨bit, shape⟩ | ⟨bit, shape⟩
    · rw [bit, shape, Nat.cast_mul, Nat.cast_ofNat, mul_right_inj' two_ne_zero]
      exact and_iff_right rfl
    · have behind := represents.above
      rw [shape] at behind
      push_cast at behind
      rw [bit]
      constructor
      · rintro ⟨⟨⟩, _⟩
      · intro same
        linarith

theorem Represents.shiftRight (represents : Represents held number) (count : Nat) :
    Represents (held >>> count) (number / 2 ^ count) := by
  induction count with
  | zero =>
      rw [pow_zero, div_one]
      exact represents
  | succ count ih =>
      rw [pow_succ, ← div_div]
      exact ih.shiftRightOne

/-- The number is rounded to this mantissa: a number in the middle between two goes to the even
one. -/
def RoundsTo (number : ℚ) (mantissa : Nat) : Prop :=
  if mantissa % 2 = 0 then 2 * (mantissa : ℚ) ≤ 2 * number + 1 ∧ 2 * number ≤ 2 * mantissa + 1
  else 2 * (mantissa : ℚ) < 2 * number + 1 ∧ 2 * number < 2 * mantissa + 1

theorem RoundsTo.bounds {mantissa : Nat} (rounds : RoundsTo number mantissa) :
    2 * (mantissa : ℚ) ≤ 2 * number + 1 ∧ 2 * number ≤ 2 * mantissa + 1 := by
  unfold RoundsTo at rounds
  split at rounds
  · exact rounds
  · exact ⟨rounds.1.le, rounds.2.le⟩

theorem Represents.roundedMantissa_of_exact (represents : Represents held number)
    (exactly : held.stickyBit = false) {mantissa : Nat} (rounds : RoundsTo number mantissa) :
    held.roundedMantissa = mantissa := by
  unfold RoundsTo at rounds
  rw [represents.exact_iff.mp exactly] at rounds
  norm_cast at rounds
  have shape := halves_cases held
  obtain ⟨lower, roundBit, stickyBit⟩ := held
  dsimp only at exactly shape
  cases exactly
  rcases shape with ⟨rfl, shape⟩ | ⟨rfl, shape⟩
  · change lower = mantissa
    rw [shape] at rounds
    split at rounds <;> omega
  · change lower + lower % 2 = mantissa
    rw [shape] at rounds
    split at rounds <;> omega

theorem Represents.roundedMantissa_of_inexact (represents : Represents held number)
    (inexact : held.stickyBit = true) {mantissa : Nat} (rounds : RoundsTo number mantissa) :
    held.roundedMantissa = mantissa := by
  have apart : 2 * number ≠ halves held := by
    intro same
    rw [represents.exact_iff.mpr same] at inexact
    cases inexact
  have above := lt_of_le_of_ne represents.above apart.symm
  have least : halves held < 2 * mantissa + 1 := by
    exact_mod_cast above.trans_le rounds.bounds.2
  have most : 2 * mantissa < halves held + 2 := by
    have below : (2 * mantissa : ℚ) < halves held + 2 := by
      linarith [rounds.bounds.1, represents.below]
    exact_mod_cast below
  have shape := halves_cases held
  obtain ⟨lower, roundBit, stickyBit⟩ := held
  dsimp only at inexact shape
  cases inexact
  rcases shape with ⟨rfl, shape⟩ | ⟨rfl, shape⟩
  · change lower = mantissa
    omega
  · change lower + 1 = mantissa
    omega

theorem Represents.roundedMantissa (represents : Represents held number) {mantissa : Nat}
    (rounds : RoundsTo number mantissa) : held.roundedMantissa = mantissa := by
  cases sticky : held.stickyBit with
  | false => exact represents.roundedMantissa_of_exact sticky rounds
  | true => exact represents.roundedMantissa_of_inexact sticky rounds

theorem represents_of_exact (mantissa : Nat) :
    Represents (.ofMantissaAndAccuracy mantissa .exact) mantissa := by
  change Represents ⟨mantissa, false, false⟩ mantissa
  have whole : halves ⟨mantissa, false, false⟩ = 2 * mantissa := rfl
  refine ⟨?_, ?_, ?_⟩
  · rw [whole, Nat.cast_mul, Nat.cast_ofNat]
  · rw [whole, Nat.cast_mul, Nat.cast_ofNat]
    exact lt_add_one _
  · rw [whole, Nat.cast_mul, Nat.cast_ofNat]
    exact ⟨fun _ => rfl, fun _ => rfl⟩

theorem represents_of_lt {mantissa : Nat} {roundBit : Bool}
    (above : (2 * mantissa + roundBit.toNat : Nat) < 2 * number)
    (below : 2 * number < (2 * mantissa + roundBit.toNat : Nat) + 1) :
    Represents ⟨mantissa, roundBit, true⟩ number := by
  refine ⟨above.le, below, ?_⟩
  constructor
  · rintro ⟨⟩
  · intro same
    exact absurd same above.ne'

theorem represents_of_fraction (mantissa : Nat) {numerator denominator : Nat}
    (proper : numerator < denominator) :
    Represents (.ofMantissaAndAccuracy mantissa (accuracyOfFraction numerator denominator))
      (mantissa + numerator / denominator) := by
  have positive : (0 : ℚ) < denominator := by exact_mod_cast Nat.zero_lt_of_lt proper
  have most : (numerator : ℚ) / denominator < 1 := by
    rw [div_lt_one₀ positive]
    exact_mod_cast proper
  have twice : 2 * ((numerator : ℚ) / denominator) = (2 * numerator : Nat) / denominator := by
    push_cast
    ring
  unfold accuracyOfFraction
  split
  · rename_i none
    rw [none, Nat.cast_zero, zero_div, add_zero]
    exact represents_of_exact mantissa
  · rename_i some
    have least : (0 : ℚ) < numerator / denominator := by
      apply div_pos _ positive
      exact_mod_cast Nat.pos_of_ne_zero some
    rcases Nat.lt_trichotomy (2 * numerator) denominator with less | middle | more
    · rw [Nat.compare_eq_lt.mpr less]
      have half : 2 * ((numerator : ℚ) / denominator) < 1 := by
        rw [twice, div_lt_one₀ positive]
        exact_mod_cast less
      apply represents_of_lt <;> push_cast [Bool.toNat_false] <;> linarith
    · rw [Nat.compare_eq_eq.mpr middle]
      have half : 2 * ((numerator : ℚ) / denominator) = 1 := by
        rw [twice, middle, div_self positive.ne']
      have behind : 2 * ((mantissa : ℚ) + numerator / denominator) = (2 * mantissa + 1 : Nat) := by
        push_cast
        rw [mul_add, half]
      exact ⟨behind.ge, behind.trans_lt (lt_add_one _), fun _ => behind, fun _ => rfl⟩
    · rw [Nat.compare_eq_gt.mpr more]
      have half : 1 < 2 * ((numerator : ℚ) / denominator) := by
        rw [twice, one_lt_div₀ positive]
        exact_mod_cast more
      apply represents_of_lt <;> push_cast [Bool.toNat_true] <;> linarith

end ChatAssistant.Decimal
