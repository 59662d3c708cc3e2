/-
The written form of node identities.
-/

import ReportMerge.Json.Value
import ReportMerge.NodeIdentity
import ReportMerge.Reading.Fields

namespace ReportMerge.NodeIdentity

inductive Field
  | id
  | apiAddress
  | apiPort
  deriving DecidableEq

abbrev Content : Field → Type
  | .id | .apiAddress => String
  | .apiPort => UInt16

def fields (α : Type) [Readable α] : FieldTable α Field Content where
  title := "NodeIdentity"
  order := [.id, .apiAddress, .apiPort]
  name
    | .id => "id"
    | .apiAddress => "apiAddress"
    | .apiPort => "apiPort"
  read
    | .id | .apiAddress => Readable.text
    | .apiPort => Readable.port
  absent _ := none

def read {α : Type} [Readable α] : α → Except Fault NodeIdentity :=
  (fields α).readRecord fun get => do
    return { id := ← get .id, apiAddress := ← get .apiAddress, apiPort := ← get .apiPort }

def toJson (node : NodeIdentity) : Json.Value :=
  .object [("id", .text node.id), ("apiAddress", .text node.apiAddress),
    ("apiPort", .ofNat node.apiPort.toNat)]

end ReportMerge.NodeIdentity
