/-
The audit trail of a merge: what it tells about the records it had to treat as
denied, the keys it left out, and the result as a whole.
-/

import ReportMerge.Merge.Record

namespace ReportMerge

inductive Level
  | error
  | warn
  | info
  | debug
  | trace
  deriving DecidableEq

namespace Level

def rank : Level → Nat
  | .error => 1
  | .warn => 2
  | .info => 3
  | .debug => 4
  | .trace => 5

def label : Level → String
  | .error => "ERROR"
  | .warn => "WARN"
  | .info => "INFO"
  | .debug => "DEBUG"
  | .trace => "TRACE"

end Level

/-- What a successful merge has to tell, one event at a time. -/
inductive Event
  | treatedAsDenied (ruleId : String) (source : Source)
  | omitted (key : ViolationKey)
  | merged (nodes rules violations omissions : Nat)
  deriving DecidableEq

namespace Event

def level : Event → Level
  | .treatedAsDenied _ _ => .warn
  | .omitted _ => .debug
  | .merged _ _ _ _ => .info

def message : Event → String
  | .treatedAsDenied ruleId source =>
      "ResultMerger: violation of rule '" ++ ruleId ++ "' from " ++ source.display
        ++ " has no permission descriptor, treating as denied"
  | .omitted key => "ResultMerger: omitting unreadable violation " ++ key.display
  | .merged nodes rules violations omissions =>
      "ResultMerger: merged " ++ Nat.repr nodes ++ " node results (" ++ Nat.repr rules
        ++ " rules, " ++ Nat.repr violations ++ " violations, " ++ Nat.repr omissions
        ++ " omitted as unreadable)"

def line (event : Event) : String := event.level.label ++ " " ++ event.message

end Event

end ReportMerge
