/-
Thresholds of severity, and the names and numbers by which filters call them.
-/

import ReportMerge.Merge.Event

namespace ReportMerge

/-- The least severe level that passes; without one nothing passes. -/
abbrev Threshold := Option Level

namespace Threshold

def admits (threshold : Threshold) (level : Level) : Bool :=
  threshold.any fun least => level.rank ≤ least.rank

def names : List (String × Threshold) :=
  [("off", none), ("error", some .error), ("warn", some .warn), ("info", some .info),
    ("debug", some .debug), ("trace", some .trace)]

def numbered : List Threshold := names.map Prod.snd

/-- The number that digits spell. A plus sign and superfluous zeros may stand in front. -/
def number? (text : List Char) : Option Nat :=
  let digits :=
    match text with
    | '+' :: digits => digits
    | digits => digits
  if digits.isEmpty || digits.any (!·.isDigit) then none else some (Nat.ofDigitChars 10 digits 0)

def named? (text : List Char) : Option Threshold :=
  match number? text with
  | some number => numbered[number]?
  | none => names.lookup (String.ofList text).toLower

end Threshold

end ReportMerge
