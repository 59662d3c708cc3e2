/-
Directives of filters. A directive sets a threshold for the lines whose target
starts with a given text, or only for those with a given field, or for what
happens within given spans. It is written `target[span{field=value}]=level`,
where each part but one may be missing, or as a level alone.
-/

import ReportMerge.Telemetry.Pattern.Check
import ReportMerge.Telemetry.Threshold
import ReportMerge.Text.Blank
import ReportMerge.Text.Bytes

namespace ReportMerge

structure FieldCondition where
  name : List Char
  pattern : Option (List Char)
  deriving DecidableEq

structure Directive where
  target : List Char
  span : Option (List Char)
  field : Option FieldCondition
  threshold : Threshold
  deriving DecidableEq

inductive DirectiveFault
  | malformed
  | unknownLevel
  | unusablePattern (refusal : Pattern.Refusal)
  deriving DecidableEq

def DirectiveFault.message : DirectiveFault → String
  | .malformed => "invalid filter directive"
  | .unknownLevel =>
      "error parsing level filter: expected one of \"off\", \"error\", \"warn\", \"info\", "
        ++ "\"debug\", \"trace\", or a number 0-5"
  | .unusablePattern refusal => "invalid field filter: " ++ refusal.message

namespace FieldCondition

/-- What follows the plus sign of a number with a fraction, or of a word for one that is none. -/
def isUnsignedNumber (text : List Char) : Bool :=
  let whole := text.takeWhile Char.isDigit
  let (fraction, exponent) :=
    match text.dropWhile Char.isDigit with
    | '.' :: rest => (rest.takeWhile Char.isDigit, rest.dropWhile Char.isDigit)
    | rest => ([], rest)
  let plain := !(whole.isEmpty && fraction.isEmpty)
  match exponent with
  | [] => plain || isWord
  | mark :: rest =>
      let digits :=
        match rest with
        | '+' :: digits | '-' :: digits => digits
        | digits => digits
      (plain && mark.toLower == 'e' && !digits.isEmpty && digits.all Char.isDigit) || isWord
where
  /-- A word for a number without digits. -/
  isWord : Bool := ["inf", "infinity", "nan"].contains (String.ofList text).toLower

/-- A value is a number or a pattern. Only behind a plus sign does it matter which. -/
def checkValue (value : List Char) : Except Pattern.Refusal Unit :=
  match value with
  | '+' :: rest => if isUnsignedNumber rest then .ok () else Pattern.check value
  | _ => Pattern.check value

/-- The condition of a text: a name, and behind an equals sign a value. What follows a second
equals sign does not count. -/
def ofText (text : List Char) : Except Pattern.Refusal FieldCondition :=
  match text.dropWhile (· != '=') with
  | [] => .ok ⟨text, none⟩
  | _ :: rest => do
      let value := rest.takeWhile (· != '=')
      checkValue value
      return ⟨text.takeWhile (· != '='), some value⟩

end FieldCondition

namespace Directive

def ofThreshold (threshold : Threshold) : Directive := ⟨[], none, none, threshold⟩

def startsTarget (char : Char) : Bool :=
  ['-', ':', '_'].contains char || Text.isAlphanumeric char

def part (text : List Char) (start stop : Nat) : Except DirectiveFault (List Char) :=
  match Text.slice? start stop text with
  | some found => .ok found
  | none => .error .malformed

/-- The threshold that a text names from a position on. If it names none, everything passes. -/
def thresholdFrom (text : List Char) (start : Nat) : Except DirectiveFault Threshold := do
  match ← part text start (Text.byteLength text) with
  | [] => return some .trace
  | name =>
      match Threshold.named? name with
      | some threshold => return threshold
      | none => .error .unknownLevel

def behindBracket (text : List Char) (directive : Directive) (position : Nat) :
    List Char → Except DirectiveFault Directive
  | [] => .ok directive
  | '=' :: _ => do return { directive with threshold := ← thresholdFrom text (position + 1) }
  | _ => .error .malformed

def fromField (text : List Char) (directive : Directive) (start : Nat) (marks : List Char) :
    Except DirectiveFault Directive := do
  let read := marks.takeWhile (· != '\x7d')
  let stop := start + Text.byteLength read
  match marks.dropWhile (· != '\x7d') with
  | [] => .error .malformed
  | _ :: behind =>
      if read.isEmpty then .error .malformed
      else
        let field ← (FieldCondition.ofText (← part text start stop)).mapError .unusablePattern
        match behind with
        | ']' :: rest => behindBracket text { directive with field := some field } (stop + 2) rest
        | _ => .error .malformed

/-- The rest of a directive from the name of a span on, which ends with a bracket or with the
brace in front of a field. Only in front of a field may the name be missing. -/
def fromSpan (text : List Char) (target : List Char) (start : Nat) (marks : List Char) :
    Except DirectiveFault Directive := do
  let isMark (char : Char) : Bool := char == ']' || char == '\x7b'
  let read := marks.takeWhile (!isMark ·)
  let stop := start + Text.byteLength read
  match marks.dropWhile (!isMark ·) with
  | [] => .error .malformed
  | mark :: rest =>
      let span ← part text start stop
      if mark == ']' then behindBracket text ⟨target, some span, none, some .trace⟩ (stop + 1) rest
      else
        let span := if span.isEmpty then none else some span
        fromField text ⟨target, span, none, some .trace⟩ (stop + 1) rest

/-- The directive of a text. Its marks are looked for between the blanks around it, and then its
parts are cut out of the text as it stands, at the positions of the marks; so blanks in front move
every part, and blanks behind belong to the last one. -/
def ofText (text : List Char) : Except DirectiveFault Directive :=
  let isMark (char : Char) : Bool := char == '=' || char == '['
  let marks := Text.trim text
  let stop := Text.byteLength (marks.takeWhile (!isMark ·))
  match marks with
  | [] => .error .malformed
  | '[' :: rest => fromSpan text [] 1 rest
  | first :: _ =>
      if !startsTarget first then .error .malformed
      else
        match marks.dropWhile (!isMark ·) with
        | [] =>
            match Threshold.named? text with
            | some threshold => .ok (ofThreshold threshold)
            | none => .ok ⟨text, none, none, some .trace⟩
        | '=' :: _ => do
            return ⟨← part text 0 stop, none, none, ← thresholdFrom text (stop + 1)⟩
        | _ :: rest => do fromSpan text (← part text 0 stop) (stop + 1) rest

/-- A directive decides about lines outside of spans unless it asks for a span, or for a value,
which only spans carry. -/
def concernsLines (directive : Directive) : Bool :=
  directive.span.isNone && directive.field.all fun field => field.pattern.isNone

def decides (directive : Directive) (target : List Char) (fields : List (List Char)) : Bool :=
  directive.concernsLines && directive.target.isPrefixOf target
    && directive.field.all fun field => fields.contains field.name

/-- A directive that is no less specific than another: its target is longer, or as long and it
asks for a field if the other does. -/
def atLeastAsSpecific (directive other : Directive) : Bool :=
  let size := directive.target.length
  let otherSize := other.target.length
  otherSize < size || (size == otherSize && (directive.field.isSome || other.field.isNone))

end Directive

end ReportMerge
