/-
The identity of a cluster node, its order and its displayed name.
-/

import Std.Data.TreeMap

namespace ReportMerge

structure NodeIdentity where
  id : String
  apiAddress : String
  apiPort : UInt16
  deriving DecidableEq

namespace NodeIdentity

/-- Identifiers are compared first, then addresses, then ports as numbers. -/
instance : Ord NodeIdentity :=
  ⟨compareLex (compareOn NodeIdentity.id)
    (compareLex (compareOn NodeIdentity.apiAddress) (compareOn NodeIdentity.apiPort))⟩

instance : Std.TransOrd NodeIdentity :=
  inferInstanceAs (Std.TransCmp (compareLex (compareOn _) (compareLex (compareOn _) (compareOn _))))

instance : Std.LawfulEqOrd NodeIdentity where
  eq_of_compare {left right} same := by
    obtain ⟨ids, others⟩ := compareLex_eq_eq.mp same
    obtain ⟨addresses, ports⟩ := compareLex_eq_eq.mp others
    have sameId : left.id = right.id := Std.LawfulEqOrd.eq_of_compare ids
    have sameAddress : left.apiAddress = right.apiAddress :=
      Std.LawfulEqOrd.eq_of_compare addresses
    have samePort : left.apiPort = right.apiPort := Std.LawfulEqOrd.eq_of_compare ports
    cases left
    cases right
    simp_all

/-- The displayed name of a node, such as `node@10.0.0.1:8080`. -/
def display (node : NodeIdentity) : String :=
  node.id ++ "@" ++ node.apiAddress ++ ":" ++ Nat.repr node.apiPort.toNat

end NodeIdentity

end ReportMerge
