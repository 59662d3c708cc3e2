/-
The fewest decimal digits that read back as a given binary fraction, found in
exact arithmetic. The points that read back form an interval around the value;
on the finest grid of powers of ten that is needed, one of the two neighbours
of the value lies in it.
-/

namespace ReportMerge.Decimal

structure BinaryFraction where
  mantissa : Nat
  exponent : Int

structure DecimalFraction where
  coefficient : Nat
  exponent : Int
  deriving DecidableEq

inductive FloatClass
  | notANumber
  | infinite (negative : Bool)
  | zero (negative : Bool)
  | finite (negative : Bool) (magnitude : BinaryFraction)

def FloatClass.ofFloat (value : Float) : FloatClass :=
  let bits := value.toBits.toNat
  let negative := bits / Nat.pow 2 63 == 1
  let exponent : Nat := bits / Nat.pow 2 52 % Nat.pow 2 11
  let fraction := bits % Nat.pow 2 52
  if exponent == 2047 then
    if fraction == 0 then .infinite negative else .notANumber
  else if exponent == 0 then
    if fraction == 0 then .zero negative else .finite negative ⟨fraction, -1074⟩
  else .finite negative ⟨Nat.pow 2 52 + fraction, (exponent : Int) - 1075⟩

inductive Tie
  | upwards
  | toEven
  deriving DecidableEq

namespace BinaryFraction

/-- A value, the ends of the interval that rounds to it, and the step of a decimal grid, all as
whole numbers of one unit. -/
structure Measure where
  value : Nat
  low : Nat
  high : Nat
  step : Nat
  endsIncluded : Bool

/-- The measure on the grid of multiples of `10 ^ grid`. Below a power of two the neighbours are
half as far away, so the interval is shorter on that side; its ends read back when the mantissa
is even. -/
def measure (number : BinaryFraction) (grid : Int) : Measure :=
  let unit := number.exponent - 2
  let scale := Nat.pow 2 unit.toNat * Nat.pow 10 (-grid).toNat
  let atPowerOfTwo := number.mantissa == Nat.pow 2 52 && number.exponent > -1074
  { value := 4 * number.mantissa * scale
    low := (4 * number.mantissa - (if atPowerOfTwo then 1 else 2)) * scale
    high := (4 * number.mantissa + 2) * scale
    step := Nat.pow 10 grid.toNat * Nat.pow 2 (-unit).toNat
    endsIncluded := number.mantissa % 2 == 0 }

namespace Measure

def readsBack (measure : Measure) (index : Nat) : Bool :=
  let point := index * measure.step
  if measure.endsIncluded then measure.low ≤ point && point ≤ measure.high
  else measure.low < point && point < measure.high

def nearest (measure : Measure) (tie : Tie) : Nat :=
  let lower := measure.value / measure.step
  match compare (2 * (measure.value % measure.step)) measure.step with
  | .lt => lower
  | .gt => lower + 1
  | .eq => if tie = .toEven ∧ lower % 2 = 0 then lower else lower + 1

def neighbour? (measure : Measure) (tie : Tie) : Option Nat :=
  let lower := measure.value / measure.step
  let upper := lower + 1
  match measure.readsBack lower, measure.readsBack upper with
  | true, true => some (measure.nearest tie)
  | true, false => lower
  | false, true => upper
  | false, false => none

end Measure

/-- The first grid with a neighbour that reads back, from a coarse grid towards finer ones. -/
def search (number : BinaryFraction) (tie : Tie) : Nat → Int → DecimalFraction
  | 0, grid => ⟨(number.measure grid).value / (number.measure grid).step, grid⟩
  | steps + 1, grid =>
      match (number.measure grid).neighbour? tie with
      | some coefficient => ⟨coefficient, grid⟩
      | none => number.search tie steps (grid - 1)

/-- The shortest decimal that reads back as the number. The search starts above the leading digit,
and seventeen digits always suffice. -/
def shortest (number : BinaryFraction) (tie : Tie) : DecimalFraction :=
  let bits : Int := number.mantissa.log2 + 1 + number.exponent
  number.search tie 24 (bits * 30103 / 100000 + 1)

end BinaryFraction

end ReportMerge.Decimal
