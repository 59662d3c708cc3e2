/-
How a decimal is laid out as text: positionally or with an exponent, and how
the exceptional numbers are spelled.
-/

import ReportMerge.Decimal.Shortest

namespace ReportMerge.Decimal

/-- The choices of a number format. A decimal whose leading digit stands for `10 ^ e` is written
positionally when `e` lies between the bounds, both included; a missing bound always holds. -/
structure Layout where
  positionalFrom : Option Int
  positionalTo : Option Int
  exponentPlus : Bool
  tie : Tie

def Layout.positional : Layout := ⟨none, none, false, .upwards⟩

def Layout.scientific : Layout := ⟨some (-5), some 15, true, .toEven⟩

namespace DecimalFraction

def positionalText (digits : List Char) (pointAfter : Int) : List Char :=
  if pointAfter ≤ 0 then
    '0' :: '.' :: List.replicate (-pointAfter).toNat '0' ++ digits
  else
    let whole := pointAfter.toNat
    if digits.length ≤ whole then
      digits ++ List.replicate (whole - digits.length) '0' ++ ['.', '0']
    else digits.take whole ++ '.' :: digits.drop whole

def scientificText (plus : Bool) (digits : List Char) (exponent : Int) : List Char :=
  let sign := if exponent < 0 then ['-'] else if plus then ['+'] else []
  let point := if digits.length > 1 then ['.'] else []
  digits.take 1 ++ point ++ digits.drop 1 ++ 'e' :: sign ++ Nat.toDigits 10 exponent.natAbs

def text (layout : Layout) (number : DecimalFraction) : List Char :=
  let digits := Nat.toDigits 10 number.coefficient
  let exponent : Int := digits.length + number.exponent - 1
  if layout.positionalFrom.all (· ≤ exponent) && layout.positionalTo.all (exponent ≤ ·) then
    positionalText digits (exponent + 1)
  else scientificText layout.exponentPlus digits exponent

end DecimalFraction

def Layout.text (layout : Layout) (value : Float) : String :=
  let signed (negative : Bool) (magnitude : List Char) : String :=
    String.ofList (if negative then '-' :: magnitude else magnitude)
  match FloatClass.ofFloat value with
  | .notANumber => "NaN"
  | .infinite negative => signed negative ['i', 'n', 'f']
  | .zero negative => signed negative ['0', '.', '0']
  | .finite negative magnitude => signed negative ((magnitude.shortest layout.tie).text layout)

end ReportMerge.Decimal
