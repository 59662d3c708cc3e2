/-
Classes of characters. A class is kept as the code points at which it begins,
ends, begins again, and so on, ascending. The classes of this library follow
version 17 of the Unicode standard.
-/

namespace ReportMerge.Text

abbrev CharClass := List Nat

/-- A character is in a class that has begun more often than it has ended. -/
def CharClass.contains (boundaries : CharClass) (char : Char) : Bool :=
  (boundaries.takeWhile (· ≤ char.toNat)).length % 2 == 1

end ReportMerge.Text
