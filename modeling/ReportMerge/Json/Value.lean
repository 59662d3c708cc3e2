/-
JSON values and their compact text. The members of an object stand in the order
in which they are written.
-/

import ReportMerge.Json.Text
import ReportMerge.Reading.Layer

namespace ReportMerge.Json

inductive Value
  | null
  | flag (value : Bool)
  | number (value : Number)
  | text (value : String)
  | array (items : List Value)
  | object (members : List (String × Value))

def given {α : Type} (name : String) (toJson : α → Value) : Option α → List (String × Value)
  | none => []
  | some value => [(name, toJson value)]

namespace Value

def ofNat (number : Nat) : Value := .number (.whole number)

def numberChars : Number → List Char
  | .whole value => (Int.repr value).toList
  | .real value => (Decimal.Layout.scientific.text value).toList

mutual

def chars : Value → List Char
  | .null => ['n', 'u', 'l', 'l']
  | .flag true => ['t', 'r', 'u', 'e']
  | .flag false => ['f', 'a', 'l', 's', 'e']
  | .number value => numberChars value
  | .text value => Text.write value.toList
  | .array [] => ['[', ']']
  | .array (item :: items) => '[' :: item.chars ++ moreItems items
  | .object [] => ['\x7b', '\x7d']
  | .object ((name, value) :: members) =>
      '\x7b' :: Text.write name.toList ++ ':' :: value.chars ++ moreMembers members

def moreItems : List Value → List Char
  | [] => [']']
  | item :: items => ',' :: item.chars ++ moreItems items

def moreMembers : List (String × Value) → List Char
  | [] => ['\x7d']
  | (name, value) :: members =>
      ',' :: Text.write name.toList ++ ':' :: value.chars ++ moreMembers members

end

def compact (value : Value) : String := String.ofList value.chars

end Value

/-- Nothing is malformed in a value. A record refuses surplus elements, and a variant is a text or
an object with exactly one member. -/
instance : Readable Value where
  layer
    | .null => .null
    | .flag value => .flag value
    | .number value => .number value
    | .text value => .text value
    | .array items => .sequence items .closed
    | .object members => .map members .closed
  intact _ := true
  convention := {
    surplus := fun _ found => .wrongLength found .fewerElements
    notVariant := fun given? =>
      match given? with
      | some given => .wrongType given .textOrMap
      | none => .malformed
    notSingle := .wrongValue .map .singleMember
    countsFirst := true }

end ReportMerge.Json
