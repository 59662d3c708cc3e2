/-
TOML values and tables as a reader meets them. A table remembers how it came
about, since the name of a variant may be spelled by a table; a table whose
headers contradict each other breaks off where the contradiction stands.
-/

import ReportMerge.Reading.Layer

namespace ReportMerge.Toml

/-- The only header of a document: its last name, and whether nothing stands below it. -/
structure LoneHeader where
  name : String
  bare : Bool

/-- How a table came about. A table under a header knows the header of the document if there is
only one. -/
inductive Origin
  | inline
  | dotted
  | header (lone : Option LoneHeader)

/-- A TOML value or table, or the tables that repeated headers open. -/
inductive Tree
  | text (value : String)
  | number (value : Number)
  | flag (value : Bool)
  | date
  | array (items : List Tree)
  | table (origin : Origin) (members : List (String × Tree)) (ending : Ending)
  | tables (lone : Option LoneHeader) (elements : List Tree)

namespace Tree

mutual

def intact : Tree → Bool
  | .array items | .tables _ items => intactItems items
  | .table _ members .closed => intactMembers members
  | .table _ _ .torn => false
  | .text _ | .number _ | .flag _ | .date => true

def intactItems : List Tree → Bool
  | [] => true
  | item :: items => item.intact && intactItems items

def intactMembers : List (String × Tree) → Bool
  | [] => true
  | (_, value) :: members => value.intact && intactMembers members

end

/-- A date reads as a map whose only member no record knows. -/
instance : Readable Tree where
  layer
    | .text value => .text value
    | .number value => .number value
    | .flag value => .flag value
    | .date => .map [("date", .date)] .closed
    | .array items | .tables _ items => .sequence items .closed
    | .table _ members ending => .map members ending
  intact := Tree.intact
  convention := {
    surplus := fun fields found => .wrongLength found (.exactly fields)
    notVariant := fun _ => .malformed
    notSingle := .malformed
    countsFirst := true }

def isEmptyTable : Tree → Bool
  | .table .inline [] _ | .table .dotted [] _ => true
  | _ => false

/-- Reads a variant: its name, or the only member of an inline table, with an empty table as its
value. The only header of a document may name the variant too, when nothing stands below it. -/
def variant {β : Type} (variants : List (String × β)) : Tree → Except Fault β
  | .text name => Readable.variantNamed variants name
  | .table .inline [(name, content)] _ => do
      let variant ← Readable.variantNamed variants name
      if content.isEmptyTable then return variant else .error .malformed
  | .table (.header (some lone)) _ _ | .tables (some lone) _ => do
      let variant ← Readable.variantNamed variants lone.name
      if lone.bare then return variant else .error .malformed
  | _ => .error .malformed

end Tree

end ReportMerge.Toml
