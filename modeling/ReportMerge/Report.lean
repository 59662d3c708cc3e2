/-
Reports: the rules that a reporter knows and the violations that it saw, each
in the reporter's own order. A view forgets that order, repetitions and every
descriptive property, and keeps what a comparison of two reports is about.
-/

import ReportMerge.Violation
import Std.Data.TreeSet

namespace ReportMerge

structure Report where
  rules : List Rule := []
  violations : List Violation := []
  deriving DecidableEq

/-- A violation as a view shows it: its key and the descriptor of its subject. -/
structure Sighting where
  key : ViolationKey
  permissions : Option Permissions
  deriving DecidableEq

namespace Sighting

instance : Ord Sighting :=
  ⟨compareLex (compareOn Sighting.key) (compareOn Sighting.permissions)⟩

instance : Std.TransOrd Sighting :=
  inferInstanceAs (Std.TransCmp (compareLex (compareOn _) (compareOn _)))

instance : Std.LawfulEqOrd Sighting where
  eq_of_compare {left right} same := by
    obtain ⟨keys, descriptors⟩ := compareLex_eq_eq.mp same
    have sameKey : left.key = right.key := Std.LawfulEqOrd.eq_of_compare keys
    have sameDescriptor : left.permissions = right.permissions :=
      Std.LawfulEqOrd.eq_of_compare descriptors
    cases left
    cases right
    simp_all

end Sighting

def ascending {α : Type} [Ord α] (items : List α) : List α :=
  (Std.TreeSet.ofList items compare).toList

def inOrder {α : Type} [Ord α] (items : List α) : List α :=
  items.mergeSort fun left right => (compare left right).isLE

/-- What is left of a report without order, repetitions and descriptive properties. -/
structure View where
  ruleIds : List String
  sightings : List Sighting
  deriving DecidableEq

namespace Report

def addRule (report : Report) (rule : Rule) : Report :=
  { report with rules := report.rules ++ [rule] }

def addViolation (report : Report) (violation : Violation) : Report :=
  { report with violations := report.violations ++ [violation] }

private def sighting (violation : Violation) : Sighting := ⟨violation.key, violation.permissions⟩

def ruleIds (report : Report) : List String := ascending (report.rules.map Rule.id)

def violationKeys (report : Report) : List ViolationKey :=
  ascending (report.violations.map Violation.key)

def view (report : Report) : View where
  ruleIds := report.ruleIds
  sightings := ascending (report.violations.map sighting)

def sameStructure (left right : Report) : Bool := left.view == right.view

end Report

end ReportMerge
