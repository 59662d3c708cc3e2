/-
What a reporter lets its reader do with the subject of a violation, and how
the descriptors of several reporters combine: a flag is granted only when
every reporter grants it. Nothing here says who the reporters are.
-/

import Std.Data.TreeMap

namespace ReportMerge

structure Permissions where
  canRead : Bool
  canWrite : Bool
  deriving DecidableEq

namespace Permissions

def allowAll : Permissions := ⟨true, true⟩

def denyAll : Permissions := ⟨false, false⟩

def meet (left right : Permissions) : Permissions :=
  ⟨left.canRead && right.canRead, left.canWrite && right.canWrite⟩

/-- Reading is compared before writing, and a denied right comes before a granted one. -/
instance : Ord Permissions :=
  ⟨compareLex (compareOn Permissions.canRead) (compareOn Permissions.canWrite)⟩

instance : Std.TransOrd Permissions :=
  inferInstanceAs (Std.TransCmp (compareLex (compareOn _) (compareOn _)))

instance : Std.LawfulEqOrd Permissions where
  eq_of_compare {left right} same := by
    obtain ⟨reads, writes⟩ := compareLex_eq_eq.mp same
    have sameRead : left.canRead = right.canRead := Std.LawfulEqOrd.eq_of_compare reads
    have sameWrite : left.canWrite = right.canWrite := Std.LawfulEqOrd.eq_of_compare writes
    cases left
    cases right
    simp_all

/-- The meet of all descriptors of a list; an empty list has none. -/
def reduce : List Permissions → Option Permissions
  | [] => none
  | first :: others => some (others.foldl meet first)

/-- The running meet after each descriptor of a list, from a given start. -/
def trail (start : Permissions) : List Permissions → List Permissions
  | [] => []
  | next :: others => start.meet next :: trail (start.meet next) others

end Permissions

end ReportMerge
