/-
What a JSON text spells, in the order in which it is spelled. A document keeps
repeated members, numerals, and texts that spell no characters; where the text
breaks off, so does the document. Reading a document layer by layer therefore
meets faults of form and faults of type in the order of the text.
-/

import ReportMerge.Json.Token
import ReportMerge.Json.Value
import Std.Data.TreeMap

namespace ReportMerge.Json

inductive Document
  | null
  | flag (value : Bool)
  | number (numeral : Numeral)
  | text (value : Option String)
  | array (items : List Document) (ending : Ending)
  | object (members : List (Option String × Document)) (ending : Ending)
  | torn

namespace Document

/-- A container that is still open, the latest part first. A member waits for its value. -/
inductive Frame
  | array (items : List Document)
  | object (members : List (Option String × Document))
  | member (members : List (Option String × Document)) (name : Option String)

inductive Due
  | value
  | firstItem
  | firstName
  | name
  | colon (name : Option String)
  | more

def tearFrames (inner : Document) : List Frame → Document
  | [] => inner
  | .array items :: frames => tearFrames (.array (inner :: items).reverse .torn) frames
  | .member members name :: frames =>
      tearFrames (.object ((name, inner) :: members).reverse .torn) frames
  | .object members :: frames => tearFrames (.object members.reverse .torn) frames

/-- The document that breaks off where something is due that does not come. -/
def tear : Due → List Frame → Document
  | .colon name, .object members :: frames =>
      tearFrames (.object ((name, .torn) :: members).reverse .torn) frames
  | .more, .array items :: frames => tearFrames (.array items.reverse .torn) frames
  | _, frames => tearFrames .torn frames

def ofToken? : Token → Option Document
  | .null => some .null
  | .flag value => some (.flag value)
  | .number numeral => some (.number numeral)
  | .text value => some (.text value)
  | _ => none

/-- What a token does where a value, or more of the innermost container, may come. -/
inductive Turn
  | next (due : Due) (frames : List Frame)
  | done (value : Document) (frames : List Frame)
  | broken

def valueTurn (token : Token) (frames : List Frame) : Turn :=
  match token with
  | .openArray => .next .firstItem (.array [] :: frames)
  | .openObject => .next .firstName (.object [] :: frames)
  | other =>
      match ofToken? other with
      | some value => .done value frames
      | none => .broken

def turn (token : Token) : Due → List Frame → Turn
  | .value, frames => valueTurn token frames
  | .firstItem, frames =>
      match token, frames with
      | .closeArray, .array _ :: outer => .done (.array [] .closed) outer
      | _, _ => valueTurn token frames
  | .firstName, frames =>
      match token, frames with
      | .closeObject, .object _ :: outer => .done (.object [] .closed) outer
      | .text name, _ => .next (.colon name) frames
      | _, _ => .broken
  | .name, frames =>
      match token with
      | .text name => .next (.colon name) frames
      | _ => .broken
  | .colon name, frames =>
      match token, frames with
      | .colon, .object members :: outer => .next .value (.member members name :: outer)
      | _, _ => .broken
  | .more, frames =>
      match token, frames with
      | .comma, .array _ :: _ => .next .value frames
      | .closeArray, .array items :: outer => .done (.array items.reverse .closed) outer
      | .comma, .object _ :: _ => .next .name frames
      | .closeObject, .object members :: outer => .done (.object members.reverse .closed) outer
      | _, _ => .broken

def place (value : Document) : List Frame → Option (List Frame)
  | .array items :: frames => some (.array (value :: items) :: frames)
  | .member members name :: frames => some (.object ((name, value) :: members) :: frames)
  | _ => none

def grow (due : Due) (frames : List Frame) : List Token → Document × List Token
  | [] => (tear due frames, [])
  | token :: tokens =>
      match turn token due frames with
      | .next due frames => grow due frames tokens
      | .done value frames =>
          match place value frames with
          | some frames => grow .more frames tokens
          | none => (value, tokens)
      | .broken => (tear due frames, tokens)

def ofTokens (tokens : List Token) : Document × List Token := grow .value [] tokens

mutual

def intact : Document → Bool
  | .array items .closed => intactItems items
  | .object members .closed => intactMembers members
  | .array _ .torn | .object _ .torn | .torn => false
  | .null | .flag _ | .number _ | .text _ => true

def intactItems : List Document → Bool
  | [] => true
  | item :: items => item.intact && intactItems items

def intactMembers : List (Option String × Document) → Bool
  | [] => true
  | (_, value) :: members => value.intact && intactMembers members

end

/-! ### Reading documents -/

/-- The members up to the first whose name spells no characters; there the object breaks off. -/
def namedMembers (ending : Ending) :
    List (Option String × Document) → List (String × Document) × Ending
  | [] => ([], ending)
  | (none, _) :: _ => ([], .torn)
  | (some name, value) :: members =>
      let (named, ending) := namedMembers ending members
      ((name, value) :: named, ending)

/-- A numeral beyond the doubles and a text that spells no characters are malformed where somebody
asks for them. Surplus elements, and whatever else spells no variant, are malformed too. -/
instance : Readable Document where
  layer
    | .null => .null
    | .flag value => .flag value
    | .number numeral =>
        match numeral.number? with
        | some value => .number value
        | none => .torn
    | .text (some value) => .text value
    | .text none => .torn
    | .array items ending => .sequence items ending
    | .object members ending =>
        let (named, ending) := namedMembers ending members
        .map named ending
    | .torn => .torn
  intact := Document.intact
  convention := {
    surplus := fun _ _ => .malformed
    notVariant := fun _ => .malformed
    notSingle := .malformed
    countsFirst := false }

def readText {β : Type} (read : Document → Except Fault β) (text : String) : Except Fault β :=
  let (document, rest) := ofTokens (Token.scan text.toList)
  do
    let result ← read document
    if rest.isEmpty then return result else .error .malformed

/-- The members by ascending name; of members with one name the last counts. -/
def sortMembers (members : List (String × Value)) : List (String × Value) :=
  (members.foldl (fun (known : Std.TreeMap String Value compare) member =>
    known.insert member.1 member.2) ∅).toList

mutual

def value? : Document → Option Value
  | .null => some .null
  | .flag value => some (.flag value)
  | .number numeral => numeral.number?.map .number
  | .text value => value.map .text
  | .array items .closed => (itemValues? items).map .array
  | .object members .closed =>
      (memberValues? members).map fun values => .object (sortMembers values)
  | .array _ .torn | .object _ .torn | .torn => none

def itemValues? : List Document → Option (List Value)
  | [] => some []
  | item :: items => do
      let value ← item.value?
      let values ← itemValues? items
      return value :: values

def memberValues? : List (Option String × Document) → Option (List (String × Value))
  | [] => some []
  | (name, content) :: members => do
      let name ← name
      let value ← content.value?
      let values ← memberValues? members
      return (name, value) :: values

end

def valueOfText? (text : String) : Option Value :=
  let (document, rest) := ofTokens (Token.scan text.toList)
  if rest.isEmpty then document.value? else none

end Document

end ReportMerge.Json
