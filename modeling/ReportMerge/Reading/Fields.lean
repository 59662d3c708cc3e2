/-
Records read field by field. A record is spelled as a map, whose members may
stand in any order and among members of unknown names, or as a sequence in the
order of declaration. A known member may be given once only.
-/

import ReportMerge.Reading.Layer

namespace ReportMerge

structure FieldTable (α : Type) (Field : Type) (Content : Field → Type) where
  title : String
  order : List Field
  name : Field → String
  read : (field : Field) → α → Except Fault (Content field)
  /-- The content of a field that is not given, unless the field is required. -/
  absent : (field : Field) → Option (Content field)

abbrev Draft {Field : Type} (Content : Field → Type) := (field : Field) → Option (Content field)

namespace FieldTable

variable {α Field : Type} {Content : Field → Type} [DecidableEq Field]

def fill (draft : Draft Content) (field : Field) (content : Content field) : Draft Content :=
  fun other => if same : field = other then some (same ▸ content) else draft other

def fieldNamed? (table : FieldTable α Field Content) (name : String) : Option Field :=
  table.order.find? fun field => table.name field == name

def settle (table : FieldTable α Field Content) (fault : Field → Fault) (draft : Draft Content)
    (field : Field) : Except Fault (Content field) :=
  match draft field, table.absent field with
  | some content, _ => .ok content
  | none, some content => .ok content
  | none, none => .error (fault field)

/-- Reads members in the order in which they stand. A repeated member is refused before its
value is looked at; the value of an unknown member only has to be well formed. -/
def readMembers [Readable α] (table : FieldTable α Field Content) (draft : Draft Content) :
    List (String × α) → Except Fault (Draft Content)
  | [] => .ok draft
  | (name, value) :: others =>
      match table.fieldNamed? name with
      | none =>
          if Readable.intact value then table.readMembers draft others else .error .malformed
      | some field =>
          if (draft field).isSome then .error (.duplicateField name)
          else do
            let content ← table.read field value
            table.readMembers (fill draft field content) others

def readElements (table : FieldTable α Field Content) (draft : Draft Content) :
    List Field → List α → Except Fault (Draft Content)
  | field :: fields, value :: values => do
      let content ← table.read field value
      table.readElements (fill draft field content) fields values
  | _, _ => .ok draft

/-- Reads a record and hands the content of each field to its constructor, which asks for the
fields in the order of declaration. -/
def readRecord [Readable α] {β : Type} (table : FieldTable α Field Content)
    (construct : ((field : Field) → Except Fault (Content field)) → Except Fault β) (value : α) :
    Except Fault β :=
  match Readable.layer value with
  | .map members ending => do
      let draft ← table.readMembers (fun _ => none) members
      match ending with
      | .torn => .error .malformed
      | .closed =>
          construct (table.settle (fun field => .missingField (table.name field)) draft)
  | .sequence items ending => do
      let draft ← table.readElements (fun _ => none) table.order items
      match ending with
      | .torn => .error .malformed
      | .closed =>
          if items.length > table.order.length then
            .error ((Readable.convention α).surplus table.order.length items.length)
          else
            construct (table.settle
              (fun _ => .wrongLength items.length (.recordOf table.title table.order.length)) draft)
  | other => .error (other.mismatch (.record table.title))

end FieldTable

end ReportMerge
