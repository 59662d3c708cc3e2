/-
The settings of the library: the policy of merges and the choice of log lines,
their defaults, and the conditions that usable settings meet.
-/

import ReportMerge.Merge.Policy

namespace ReportMerge

structure LogSettings where
  level : String := "info"
  json : Bool := false
  deriving DecidableEq

structure Settings where
  merge : MergePolicy := {}
  log : LogSettings := {}
  deriving DecidableEq

inductive InvalidSetting
  | noNodesAllowed
  | unknownLevel (level : String)
  deriving DecidableEq

namespace InvalidSetting

def message : InvalidSetting → String
  | .noNodesAllowed => "merge.max_nodes must be at least 1"
  | .unknownLevel level =>
      "log.level '" ++ level ++ "' must be one of: trace, debug, info, warn, error"

end InvalidSetting

namespace Settings

def levelNames : List String := ["trace", "debug", "info", "warn", "error"]

/-- Settings are usable when they allow at least one node and name a level. The bound is looked at
first. -/
def validate (settings : Settings) : Except InvalidSetting Unit :=
  if settings.merge.maxNodes = some 0 then .error .noNodesAllowed
  else if settings.log.level.toLower ∈ levelNames then .ok ()
  else .error (.unknownLevel settings.log.level)

end Settings

end ReportMerge
