/-
The written form of permission descriptors.
-/

import ReportMerge.Json.Value
import ReportMerge.Permissions
import ReportMerge.Reading.Fields

namespace ReportMerge.Permissions

inductive Field
  | canRead
  | canWrite
  deriving DecidableEq

def fields (α : Type) [Readable α] : FieldTable α Field (fun _ => Bool) where
  title := "Permissions"
  order := [.canRead, .canWrite]
  name
    | .canRead => "canRead"
    | .canWrite => "canWrite"
  read _ := Readable.flag
  absent _ := none

def read {α : Type} [Readable α] : α → Except Fault Permissions :=
  (fields α).readRecord fun get => do
    return { canRead := ← get .canRead, canWrite := ← get .canWrite }

def toJson (permissions : Permissions) : Json.Value :=
  .object [("canRead", .flag permissions.canRead), ("canWrite", .flag permissions.canWrite)]

end ReportMerge.Permissions
