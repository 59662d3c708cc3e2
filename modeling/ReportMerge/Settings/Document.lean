/-
Settings written as a TOML document: a section for merges and a section for log
lines. Sections and members may be left out, and unknown ones are passed over.
-/

import ReportMerge.Reading.Fields
import ReportMerge.Settings.Basic
import ReportMerge.Toml.Table

namespace ReportMerge

namespace MissingPermissions

def variants : List (String × MissingPermissions) := [("reject", .reject), ("deny", .deny)]

end MissingPermissions

namespace MergePolicy

inductive Field
  | missingPermissions
  | maxNodes
  deriving DecidableEq

abbrev Content : Field → Type
  | .missingPermissions => MissingPermissions
  | .maxNodes => Option Nat

/-- A member that is left out has its default. -/
def fields : FieldTable Toml.Tree Field Content where
  title := "MergeConfig"
  order := [.missingPermissions, .maxNodes]
  name
    | .missingPermissions => "missing_permissions"
    | .maxNodes => "max_nodes"
  read
    | .missingPermissions => Toml.Tree.variant MissingPermissions.variants
    | .maxNodes => fun value => some <$> Readable.wholeBelow UInt64.size .count value
  absent
    | .missingPermissions => some ({} : MergePolicy).missingPermissions
    | .maxNodes => some ({} : MergePolicy).maxNodes

def read : Toml.Tree → Except Fault MergePolicy :=
  fields.readRecord fun get => do
    return { missingPermissions := ← get .missingPermissions, maxNodes := ← get .maxNodes }

end MergePolicy

namespace LogSettings

inductive Field
  | level
  | json
  deriving DecidableEq

abbrev Content : Field → Type
  | .level => String
  | .json => Bool

def fields : FieldTable Toml.Tree Field Content where
  title := "LogConfig"
  order := [.level, .json]
  name
    | .level => "level"
    | .json => "json"
  read
    | .level => Readable.text
    | .json => Readable.flag
  absent
    | .level => some ({} : LogSettings).level
    | .json => some ({} : LogSettings).json

def read : Toml.Tree → Except Fault LogSettings :=
  fields.readRecord fun get => do return { level := ← get .level, json := ← get .json }

end LogSettings

namespace Settings

inductive Field
  | merge
  | log
  deriving DecidableEq

abbrev Content : Field → Type
  | .merge => MergePolicy
  | .log => LogSettings

def fields : FieldTable Toml.Tree Field Content where
  title := "FlowRecConfig"
  order := [.merge, .log]
  name
    | .merge => "merge"
    | .log => "log"
  read
    | .merge => MergePolicy.read
    | .log => LogSettings.read
  absent
    | .merge => some {}
    | .log => some {}

def read : Toml.Tree → Except Fault Settings :=
  fields.readRecord fun get => do return { merge := ← get .merge, log := ← get .log }

end Settings

inductive SettingsFailure
  | unreadable (fault : Fault)
  | invalid (reason : InvalidSetting)
  | notFound
  | isDirectory
  | notText

namespace SettingsFailure

def message? : SettingsFailure → Option String
  | .unreadable fault =>
      (fault.message? .positional).map fun text => "Configuration parse error: " ++ text
  | .invalid reason => some ("Invalid configuration: " ++ reason.message)
  | .notFound => some "I/O error: No such file or directory (os error 2)"
  | .isDirectory => some "I/O error: Is a directory (os error 21)"
  | .notText => some "I/O error: stream did not contain valid UTF-8"

end SettingsFailure

namespace Settings

/-- The settings of a text. The whole text is taken apart before any type is looked at, and all
types are looked at before any condition. -/
def ofText (text : String) : Except SettingsFailure Settings :=
  match Toml.tableOfText? text with
  | none => .error (.unreadable .malformed)
  | some table =>
      match read table with
      | .error fault => .error (.unreadable fault)
      | .ok settings =>
          match settings.validate with
          | .error reason => .error (.invalid reason)
          | .ok () => .ok settings

inductive Place
  | nothing
  | directory
  | file (content : ByteArray)

/-- The settings of a file, which has to hold text in UTF-8. -/
def load : Place → Except SettingsFailure Settings
  | .nothing => .error .notFound
  | .directory => .error .isDirectory
  | .file content =>
      match String.fromUTF8? content with
      | none => .error .notText
      | some text => ofText text

end Settings

end ReportMerge
