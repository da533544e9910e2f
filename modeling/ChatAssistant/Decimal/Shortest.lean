import ChatAssistant.Decimal.Basic

/-!
The shortest decimal for a binary floating-point number. The reals that round to the number
form an interval; the shortest decimals in it lie on the coarsest decimal grid that meets it,
and of those the one nearest the number is taken.
-/

namespace ChatAssistant.Decimal

/-- Which of two equally near decimals is taken. -/
inductive Tie where
  | up
  | even
  deriving DecidableEq, Repr

/-- The number `significand × 2 ^ exponent`, as a double holds it. -/
structure Double where
  significand : Nat
  exponent : Int
  deriving DecidableEq, Repr

namespace Double

def leastExponent : Int := -1074

/-- The neighbour below is only half as far away as the one above. -/
def isNarrowBelow (double : Double) : Bool :=
  double.significand == Nat.pow 2 52 && leastExponent < double.exponent

/-- The lower end of the interval, in quarters of `2 ^ exponent`. -/
def lowerQuarters (double : Double) : Nat :=
  4 * double.significand - (if double.isNarrowBelow then 1 else 2)

def upperQuarters (double : Double) : Nat :=
  4 * double.significand + 2

/-- A quarter of `2 ^ exponent` over a power of ten is this numerator over the denominator
below. -/
def quarterOver (double : Double) (power : Int) : Nat :=
  Nat.pow 2 (double.exponent - 2).toNat * Nat.pow 10 (-power).toNat

def gridOver (double : Double) (power : Int) : Nat :=
  Nat.pow 2 (2 - double.exponent).toNat * Nat.pow 10 power.toNat

/-- Whether `count × 10 ^ power` reads back as the number. Both ends of the interval belong to
it when the significand is even. -/
def reads (double : Double) (power : Int) (count : Nat) : Bool :=
  let lower := double.lowerQuarters * double.quarterOver power
  let upper := double.upperQuarters * double.quarterOver power
  let point := count * double.gridOver power
  if double.significand % 2 = 0 then lower ≤ point && point ≤ upper
  else lower < point && point < upper

def floorOn (double : Double) (power : Int) : Nat :=
  4 * double.significand * double.quarterOver power / double.gridOver power

def prefersAbove (double : Double) (tie : Tie) (power : Int) : Bool :=
  let twice := 8 * double.significand * double.quarterOver power
  let middle := (2 * double.floorOn power + 1) * double.gridOver power
  middle < twice || (middle == twice && (tie == .up || double.floorOn power % 2 == 1))

def nearestOn? (double : Double) (tie : Tie) (power : Int) : Option Nat :=
  let below := double.floorOn power
  let above := below + 1
  if double.reads power below && !(double.reads power above && double.prefersAbove tie power) then
    some below
  else if double.reads power above then some above
  else none

def exact (double : Double) : Decimal :=
  if 0 ≤ double.exponent then ⟨double.significand * Nat.pow 2 double.exponent.toNat, 0⟩
  else ⟨double.significand * Nat.pow 5 (-double.exponent).toNat, double.exponent⟩

/-- Tries the grids from `10 ^ power` on, each ten times as fine as the one before. -/
def shortestFrom (double : Double) (tie : Tie) : Nat → Int → Decimal
  | 0, _ => double.exact
  | steps + 1, power =>
      match double.nearestOn? tie power with
      | some count => ⟨count, power⟩
      | none => double.shortestFrom tie steps (power - 1)

/-- No number is above the first grid, and the last one is finer than any interval. -/
def shortest (double : Double) (tie : Tie) : Decimal :=
  double.shortestFrom tie 640 309

end Double

end ChatAssistant.Decimal
