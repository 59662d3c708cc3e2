/-
How deep the parts of a pattern nest. Groups, repetitions and classes nest what
they hold; so do several parts in a row and several alternatives, but a part that
stands alone adds nothing.
-/

namespace ReportMerge.Pattern

def depthLimit : Nat := 250

/-- Parts in a row: how many, the depth of the deepest, and the depth of the last one if it may be
repeated. -/
structure Row where
  size : Nat := 0
  deepest : Nat := 0
  last : Option Nat := none

namespace Row

def add (row : Row) (depth : Nat) : Row :=
  { size := row.size + 1, deepest := max row.deepest depth, last := some depth }

/-- The row with a change of mode, which counts as a part but cannot be repeated. -/
def addChange (row : Row) : Row := { row with size := row.size + 1, last := none }

def repeatLast? (row : Row) : Option Row :=
  row.last.map fun depth =>
    { row with deepest := max row.deepest (depth + 1), last := some (depth + 1) }

def depth (row : Row) : Nat := if row.size ≤ 1 then row.deepest else row.deepest + 1

end Row

def depthWith (before : Option Nat) (row : Row) : Nat :=
  match before with
  | none => row.depth
  | some depth => max depth row.depth + 1

end ReportMerge.Pattern
