/-
Numerals of JSON and the numbers that they stand for. Digits are gathered in 64
bits. Once a digit does not fit, the remaining digits before the point only
raise the exponent, and from the first digit after the point that does not fit
on, digits count for nothing. The gathered number is scaled by its power of ten
in one rounding of double precision.
-/

import ReportMerge.Reading.Fault

namespace ReportMerge.Json

structure Numeral where
  negative : Bool
  whole : List Char
  fraction : List Char
  exponent : Option Int

namespace Numeral

def scanDigits (text : List Char) : Option (List Char × List Char) :=
  match text.takeWhile Char.isDigit with
  | [] => none
  | digits => some (digits, text.dropWhile Char.isDigit)

def scanWhole (text : List Char) : Option (List Char × List Char) :=
  match scanDigits text with
  | some ('0' :: _ :: _, _) => none
  | other => other

def scanFraction : List Char → Option (List Char × List Char)
  | '.' :: text => scanDigits text
  | text => some ([], text)

def scanExponentDigits (negative : Bool) (text : List Char) : Option (Option Int × List Char) :=
  (scanDigits text).map fun (digits, rest) =>
    let magnitude : Int := Nat.ofDigitChars 10 digits 0
    (some (if negative then -magnitude else magnitude), rest)

def scanExponent : List Char → Option (Option Int × List Char)
  | 'e' :: text | 'E' :: text =>
      match text with
      | '+' :: digits => scanExponentDigits false digits
      | '-' :: digits => scanExponentDigits true digits
      | digits => scanExponentDigits false digits
  | text => some (none, text)

def scanUnsigned (negative : Bool) (text : List Char) : Option (Numeral × List Char) := do
  let (whole, text) ← scanWhole text
  let (fraction, text) ← scanFraction text
  let (exponent, text) ← scanExponent text
  return ({ negative, whole, fraction, exponent }, text)

def scan : List Char → Option (Numeral × List Char)
  | '-' :: text => scanUnsigned true text
  | text => scanUnsigned false text

theorem length_scanDigits {text digits rest : List Char}
    (scanned : scanDigits text = some (digits, rest)) : rest.length < text.length := by
  have parts : (text.takeWhile Char.isDigit).length + (text.dropWhile Char.isDigit).length
      = text.length := by
    rw [← List.length_append, List.takeWhile_append_dropWhile]
  unfold scanDigits at scanned
  split at scanned
  · simp at scanned
  · rename_i nonempty
    simp only [Option.some.injEq, Prod.mk.injEq] at scanned
    have positive := List.length_pos_iff.mpr nonempty
    rw [← scanned.2]
    omega

theorem length_scanWhole {text digits rest : List Char}
    (scanned : scanWhole text = some (digits, rest)) : rest.length < text.length := by
  unfold scanWhole at scanned
  split at scanned
  · simp at scanned
  · exact length_scanDigits scanned

theorem length_scanFraction {text digits rest : List Char}
    (scanned : scanFraction text = some (digits, rest)) : rest.length ≤ text.length := by
  unfold scanFraction at scanned
  split at scanned
  · have shorter := length_scanDigits scanned
    simp only [List.length_cons]
    omega
  · simp_all

theorem length_scanExponentDigits {negative : Bool} {text rest : List Char} {exponent : Option Int}
    (scanned : scanExponentDigits negative text = some (exponent, rest)) :
    rest.length < text.length := by
  simp only [scanExponentDigits, Option.map_eq_some_iff] at scanned
  obtain ⟨⟨digits, after⟩, found, same⟩ := scanned
  have shorter := length_scanDigits found
  simp_all

theorem length_scanExponent {text rest : List Char} {exponent : Option Int}
    (scanned : scanExponent text = some (exponent, rest)) : rest.length ≤ text.length := by
  have digits {negative : Bool} {input : List Char}
      (found : scanExponentDigits negative input = some (exponent, rest)) :=
    Nat.le_of_lt (length_scanExponentDigits found)
  unfold scanExponent at scanned
  repeat' split at scanned
  all_goals grind

theorem length_scanUnsigned {negative : Bool} {text rest : List Char} {numeral : Numeral}
    (scanned : scanUnsigned negative text = some (numeral, rest)) : rest.length < text.length := by
  simp only [scanUnsigned, Option.bind_eq_bind, Option.bind_eq_some_iff] at scanned
  obtain ⟨⟨whole, afterWhole⟩, foundWhole, ⟨fraction, afterFraction⟩, foundFraction,
    ⟨exponent, afterExponent⟩, foundExponent, same⟩ := scanned
  have first := length_scanWhole foundWhole
  have second := length_scanFraction foundFraction
  have third := length_scanExponent foundExponent
  simp_all
  omega

theorem length_scan {text rest : List Char} {numeral : Numeral}
    (scanned : scan text = some (numeral, rest)) : rest.length < text.length := by
  unfold scan at scanned
  split at scanned
  · have shorter := length_scanUnsigned scanned
    simp only [List.length_cons]
    omega
  · exact length_scanUnsigned scanned

structure Gathered where
  significand : Nat
  exponent : Int
  full : Bool

private def extend (significand : Nat) (digit : Char) : Nat :=
  significand * 10 + (digit.toNat - '0'.toNat)

/-- A digit before the point. Once a digit has not fitted, no later one is gathered. -/
def Gathered.addWhole (gathered : Gathered) (digit : Char) : Gathered :=
  let extended := extend gathered.significand digit
  if gathered.full || extended ≥ UInt64.size then
    { gathered with exponent := gathered.exponent + 1, full := true }
  else { gathered with significand := extended }

theorem Gathered.addWhole_of_lt {significand : Nat} {exponent : Int} {digit : Char}
    (fits : significand * 10 + (digit.toNat - '0'.toNat) < UInt64.size) :
    Gathered.addWhole ⟨significand, exponent, false⟩ digit =
      ⟨significand * 10 + (digit.toNat - '0'.toNat), exponent, false⟩ := by
  unfold addWhole extend
  simp only [Bool.false_or, ge_iff_le, decide_eq_true_eq, if_neg (Nat.not_le.mpr fits)]

def Gathered.addFraction (gathered : Gathered) (digit : Char) : Gathered :=
  let extended := extend gathered.significand digit
  if gathered.full || extended ≥ UInt64.size then { gathered with full := true }
  else { gathered with significand := extended, exponent := gathered.exponent - 1 }

def powerOfTen (exponent : Nat) : Float := Float.ofScientific 1 false exponent

/-- Divides by a power of ten, in several steps where the power exceeds double precision. -/
def scaleDown (value : Float) (exponent : Nat) : Float :=
  if exponent ≤ 308 then value / powerOfTen exponent
  else if value == 0 then value
  else scaleDown (value / powerOfTen 308) (exponent - 308)
termination_by exponent

def scaleUp? (value : Float) (exponent : Nat) : Option Float :=
  if exponent ≤ 308 then
    let scaled := value * powerOfTen exponent
    if scaled.isInf then none else some scaled
  else if value == 0 then some value
  else none

def Gathered.real? (gathered : Gathered) (negative : Bool) : Option Number :=
  let start := Float.ofNat gathered.significand
  let magnitude :=
    if gathered.exponent < 0 then some (scaleDown start gathered.exponent.natAbs)
    else scaleUp? start gathered.exponent.natAbs
  magnitude.map fun value => .real (if negative then -value else value)

/-- The number of a numeral, if it is not too large for a double. Without point and exponent it is
whole as long as 64 bits hold it; a negative zero is not whole. -/
def number? (numeral : Numeral) : Option Number :=
  let whole := numeral.whole.foldl Gathered.addWhole ⟨0, 0, false⟩
  match numeral.fraction, numeral.exponent with
  | [], none =>
      if whole.full then whole.real? numeral.negative
      else if !numeral.negative then some (.whole whole.significand)
      else if 0 < whole.significand ∧ Int64.minValue.toInt ≤ -whole.significand then
        some (.whole (-whole.significand))
      else some (.real (-(Float.ofNat whole.significand)))
  | fraction, exponent =>
      let all := fraction.foldl Gathered.addFraction { whole with full := false }
      { all with exponent := all.exponent + exponent.getD 0 }.real? numeral.negative

end Numeral

end ReportMerge.Json
