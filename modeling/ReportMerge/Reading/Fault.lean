/-
What can be wrong with structured input: a part of the wrong kind, a number out
of range, a member that is missing or repeated, a name that is not known, or
text that is not well formed at all. Each fault names its cause; the wording is
given in one place.
-/

import ReportMerge.Decimal.Layout
import ReportMerge.Text.Quoted

namespace ReportMerge

inductive Number
  | whole (value : Int)
  | real (value : Float)

inductive Given
  | null
  | flag (value : Bool)
  | number (value : Number)
  | text (value : String)
  | sequence
  | map

inductive Expected
  | text
  | flag
  | sequence
  | port
  | count
  | unit
  | textOrMap
  | singleMember
  | record (title : String)
  | recordOf (title : String) (elements : Nat)
  | fewerElements
  | exactly (elements : Nat)
  deriving DecidableEq

inductive Fault
  | missingField (name : String)
  | duplicateField (name : String)
  | unknownVariant (name : String) (known : List String)
  | wrongType (given : Given) (expected : Expected)
  | wrongValue (given : Given) (expected : Expected)
  | wrongLength (found : Nat) (expected : Expected)
  | malformed

private def accented (name : String) : String := "\x60" ++ name ++ "\x60"

/-- How messages describe what was found; the numerals follow the format of the input. -/
def Given.describe (layout : Decimal.Layout) : Given → String
  | .null => "null"
  | .flag value => "boolean " ++ accented (if value then "true" else "false")
  | .number (.whole value) => "integer " ++ accented (Int.repr value)
  | .number (.real value) => "floating point " ++ accented (layout.text value)
  | .text value => "string " ++ Text.quoted value
  | .sequence => "sequence"
  | .map => "map"

def Expected.describe : Expected → String
  | .text => "a string"
  | .flag => "a boolean"
  | .sequence => "a sequence"
  | .port => "u16"
  | .count => "usize"
  | .unit => "unit"
  | .textOrMap => "string or map"
  | .singleMember => "map with a single key"
  | .record title => "struct " ++ title
  | .recordOf title elements =>
      "struct " ++ title ++ " with " ++ Nat.repr elements ++ " elements"
  | .fewerElements => "fewer elements in array"
  | .exactly elements => Nat.repr elements ++ " elements in sequence"

/-- The wording of a fault. Malformed text is refused without a wording of its own. -/
def Fault.message? (layout : Decimal.Layout) : Fault → Option String
  | .missingField name => some ("missing field " ++ accented name)
  | .duplicateField name => some ("duplicate field " ++ accented name)
  | .unknownVariant name known =>
      some ("unknown variant " ++ accented name ++ ", expected "
        ++ String.intercalate " or " (known.map accented))
  | .wrongType given expected =>
      some ("invalid type: " ++ given.describe layout ++ ", expected " ++ expected.describe)
  | .wrongValue given expected =>
      some ("invalid value: " ++ given.describe layout ++ ", expected " ++ expected.describe)
  | .wrongLength found expected =>
      some ("invalid length " ++ Nat.repr found ++ ", expected " ++ expected.describe)
  | .malformed => none

end ReportMerge
