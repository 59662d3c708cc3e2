/-
Filters of log lines. A filter lists directives; among those that decide about a
line the most specific one counts, and the last of those that are equally
specific.
-/

import ReportMerge.Telemetry.Directive

namespace ReportMerge

abbrev Filter := List Directive

namespace Filter

/-- The filter of a text: directives between commas. A text without any lets errors pass. -/
def ofText (text : String) : Except DirectiveFault Filter := do
  let pieces := (text.toList.splitOn ',').filter fun piece => !piece.isEmpty
  let directives ← pieces.mapM Directive.ofText
  return if directives.isEmpty then [.ofThreshold (some .error)] else directives

def stronger (earlier : Option Directive) (later : Directive) : Option Directive :=
  match earlier with
  | some directive => if later.atLeastAsSpecific directive then some later else some directive
  | none => some later

def thresholdFor (filter : Filter) (target : List Char) (fields : List (List Char)) : Threshold :=
  let deciding := filter.filter fun directive => directive.decides target fields
  (deciding.foldl stronger none).bind Directive.threshold

end Filter

end ReportMerge
