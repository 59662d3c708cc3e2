/-
The written form of rules. Members without a value are left out when a rule is
written, and a null reads as such a member.
-/

import ReportMerge.Json.Value
import ReportMerge.Reading.Fields
import ReportMerge.Rule

namespace ReportMerge

namespace EnforcementPolicy

def variants : List (String × EnforcementPolicy) := [("ENFORCE", .enforce), ("WARN", .warn)]

def read {α : Type} [Readable α] : α → Except Fault EnforcementPolicy := Readable.variant variants

def toJson : EnforcementPolicy → Json.Value
  | .enforce => .text "ENFORCE"
  | .warn => .text "WARN"

end EnforcementPolicy

namespace RuleState

def variants : List (String × RuleState) := [("ENABLED", .enabled), ("DISABLED", .disabled)]

def read {α : Type} [Readable α] : α → Except Fault RuleState := Readable.variant variants

def toJson : RuleState → Json.Value
  | .enabled => .text "ENABLED"
  | .disabled => .text "DISABLED"

end RuleState

namespace Rule

inductive Field
  | id
  | name
  | kind
  | enforcementPolicy
  | comments
  | state
  deriving DecidableEq

abbrev Content : Field → Type
  | .id => String
  | .name | .kind | .comments => Option String
  | .enforcementPolicy => Option EnforcementPolicy
  | .state => Option RuleState

def fields (α : Type) [Readable α] : FieldTable α Field Content where
  title := "Rule"
  order := [.id, .name, .kind, .enforcementPolicy, .comments, .state]
  name
    | .id => "id"
    | .name => "name"
    | .kind => "type"
    | .enforcementPolicy => "enforcementPolicy"
    | .comments => "comments"
    | .state => "state"
  read
    | .id => Readable.text
    | .name | .kind | .comments => Readable.optional Readable.text
    | .enforcementPolicy => Readable.optional EnforcementPolicy.read
    | .state => Readable.optional RuleState.read
  absent
    | .id => none
    | .name | .kind | .comments => some none
    | .enforcementPolicy => some none
    | .state => some none

def read {α : Type} [Readable α] : α → Except Fault Rule :=
  (fields α).readRecord fun get => do
    return {
      id := ← get .id
      name := ← get .name
      kind := ← get .kind
      enforcementPolicy := ← get .enforcementPolicy
      comments := ← get .comments
      state := ← get .state }

def toJson (rule : Rule) : Json.Value :=
  .object (("id", .text rule.id) ::
    Json.given "name" Json.Value.text rule.name ++
    Json.given "type" Json.Value.text rule.kind ++
    Json.given "enforcementPolicy" EnforcementPolicy.toJson rule.enforcementPolicy ++
    Json.given "comments" Json.Value.text rule.comments ++
    Json.given "state" RuleState.toJson rule.state)

end Rule

end ReportMerge
