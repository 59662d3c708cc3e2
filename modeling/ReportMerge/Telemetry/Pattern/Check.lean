/-
Which patterns of field values are usable. Patterns are regular expressions.
Filters never run one, since only spans carry values and nothing here opens a
span; but a pattern that is not usable makes a filter ill-formed. A pattern is
read one character at a time, with a look at those behind it.
-/

import ReportMerge.Telemetry.Pattern.Atom
import ReportMerge.Telemetry.Pattern.Nesting
import ReportMerge.Text.Alphanumeric
import ReportMerge.Text.Blank

namespace ReportMerge.Pattern

inductive Refusal
  | illFormed
  | wordBoundary
  deriving DecidableEq

def Refusal.message : Refusal → String
  | .illFormed => "error building NFA"
  | .wordBoundary =>
      "unsupported regex feature for DFAs: cannot build DFAs for regexes with Unicode word "
        ++ "boundaries; switch to ASCII word boundaries, or heuristically enable Unicode word "
        ++ "boundaries or use a different regex engine"

/-- A group that is open: the depth of its finished alternatives, the alternative that is being
read, and the mode that holds again behind it. -/
structure Group where
  finished : Option Nat := none
  row : Row := {}
  modeBehind : Mode := {}

namespace Group

def depth (group : Group) : Nat := depthWith group.finished group.row

def branch (group : Group) : Group :=
  { group with finished := some (max (group.finished.getD 0) group.row.depth), row := {} }

end Group

/-- A class that is open: the depth of what stands before its last operator, and the members behind
that. -/
structure OpenClass where
  operand : Option Nat := none
  row : Row := {}

structure State where
  mode : Mode := {}
  group : Group := {}
  outer : List Group := []
  classes : List OpenClass := []
  names : List (List Char) := []
  asksForWords : Bool := false

namespace State

def add (state : State) (depth : Nat) : State :=
  { state with group := { state.group with row := state.group.row.add depth } }

def openGroup (state : State) (mode : Mode) : State :=
  { state with
    mode
    group := { modeBehind := state.mode }
    outer := state.group :: state.outer }

def closeGroup? (state : State) : Option State :=
  match state.outer with
  | [] => none
  | group :: outer =>
      let depth := state.group.depth + 1
      some ({ state with mode := state.group.modeBehind, group, outer }.add depth)

def openClass (state : State) : State := { state with classes := {} :: state.classes }

def addMember (state : State) (depth : Nat) : State :=
  match state.classes with
  | [] => state
  | first :: others => { state with classes := { first with row := first.row.add depth } :: others }

def operator (state : State) : State :=
  match state.classes with
  | [] => state
  | first :: others =>
      { state with classes := { operand := some (depthWith first.operand first.row) } :: others }

def closeClass (state : State) : State :=
  match state.classes with
  | [] => state
  | first :: others =>
      let depth := depthWith first.operand first.row + 1
      let state := { state with classes := others }
      if others.isEmpty then state.add depth else state.addMember depth

end State

/-! ### Places -/

/-- What may be the lower end of a range: a character, or a class, which no range can start with. -/
inductive RangeStart
  | char (value : Char)
  | property

inductive Goal
  | item
  | member
  | rangeEnd (start : RangeStart)

/-- How far the start of a class has been read. A caret may come first; then hyphens stand for
themselves, and so does a closing bracket before any hyphen. -/
inductive ClassStart
  | opened
  | negated
  | hyphens

/-- Where reading stands. Names and flags keep what has been read of them, the last first. -/
inductive Place
  | items
  /-- Right behind an opening parenthesis. -/
  | opening
  | name (read : List Char)
  | flags (read : List Char)
  | classStart (progress : ClassStart)
  /-- Among the members of a class, behind one that may start a range. -/
  | members (start : Option RangeStart)
  | rangeEnd (start : RangeStart)
  /-- In a number of which this many digits are missing. -/
  | digits (missing : Nat) (read : List Char) (ofByte : Bool) (goal : Goal)
  /-- In front of characters that have been looked at already. -/
  | behind (count : Nat) (place : Place)
  | comment (place : Place)

namespace Place

def admitsBlanks : Place → Bool
  | .items | .opening | .classStart _ | .members _ | .rangeEnd _ | .digits .. => true
  | .name _ | .flags _ | .behind .. | .comment _ => false

def mayEnd : Place → Bool
  | .items | .comment .items => true
  | _ => false

end Place

abbrev Step := Option (State × Place)

def accept (state : State) (goal : Goal) (atom : Atom) : Step :=
  match goal, atom with
  | .item, .wordBoundary =>
      some ({ state with
        asksForWords := state.asksForWords || state.mode.codePoints }.add 0, .items)
  | .item, atom => if state.mode.admits atom then some (state.add 0, .items) else none
  | .member, .char value _ =>
      if state.mode.admitsMember value then
        some (state.addMember 0, .members (some (.char value)))
      else none
  | .member, .property negated =>
      if state.mode.admits (.property negated) then
        some (state.addMember 0, .members (some .property))
      else none
  | .rangeEnd (.char start), .char value _ =>
      if start ≤ value && state.mode.admitsMember value then some (state, .members none) else none
  | _, _ => none

def acceptEscape (state : State) (goal : Goal) (rest : List Char) : Step := do
  match ← (← rest.head? |> Option.map Escape.ofChar?) with
  | .number digits ofByte => return (state, .behind 1 (.digits digits [] ofByte goal))
  | .atom atom =>
      let (state, place) ← accept state goal atom
      return (state, .behind 1 place)

/-! ### Steps by place -/

/-- A character among the parts of a group. An opening brace would start a count, which a filter
cannot close. -/
def readItem (state : State) (char : Char) (rest : List Char) : Step :=
  match char with
  | '(' => some (state, .opening)
  | ')' => state.closeGroup?.map fun state => (state, .items)
  | '|' => some ({ state with group := state.group.branch }, .items)
  | '[' => some (state.openClass, .classStart .opened)
  | '*' | '+' | '?' => do
      let row ← state.group.row.repeatLast?
      let place := if rest.head? == some '?' then Place.behind 1 .items else .items
      return ({ state with group := { state.group with row } }, place)
  | '\x7b' => none
  | '\\' => acceptEscape state .item rest
  | '.' => accept state .item .any
  | '^' | '$' => accept state .item .anchor
  | other => accept state .item (.char other false)

def readOpening (state : State) (char : Char) (rest : List Char) : Step :=
  let inside := state.openGroup state.mode
  match char, rest with
  | '?', 'P' :: '<' :: _ => some (inside, .behind 2 (.name []))
  | '?', '<' :: _ => some (inside, .behind 1 (.name []))
  | '?', _ => some (state, .flags [])
  | _, _ => readItem inside char rest

def admitsInName (read : List Char) (char : Char) : Bool :=
  if read.isEmpty then char == '_' || Text.isAlphabetic char
  else ['_', '.', '[', ']'].contains char || Text.isAlphanumeric char

def readName (state : State) (read : List Char) (char : Char) : Step :=
  if char == '>' then
    if read.isEmpty || state.names.contains read then none
    else some ({ state with names := read :: state.names }, .items)
  else if admitsInName read char then some (state, .name (char :: read))
  else none

/-- A character among flags, none of which is given twice. A hyphen is never the last. They hold for
a group of their own, or for what follows in the group around them. -/
def readFlag (state : State) (read : List Char) (char : Char) : Step :=
  let mode := state.mode.change read.reverse
  match char with
  | ':' => if read.head? == some '-' then none else some (state.openGroup mode, .items)
  | ')' =>
      if read.isEmpty || read.head? == some '-' then none
      else
        let group := { state.group with row := state.group.row.addChange }
        some ({ state with mode, group }, .items)
  | flag =>
      if read.contains flag || !(flag == '-' || Mode.letters.contains flag) then none
      else some (state, .flags (flag :: read))

def classNames : List String :=
  ["alnum", "alpha", "ascii", "blank", "cntrl", "digit", "graph", "lower", "print", "punct",
    "space", "upper", "word", "xdigit"]

/-- A class of ASCII behind its opening bracket: whether it is negated, and its length up to the
closing bracket. -/
def namedClass? (text : List Char) : Option (Bool × Nat) :=
  match text with
  | ':' :: text =>
      let negated := text.head? == some '^'
      let text := if negated then text.drop 1 else text
      let name := text.takeWhile (· != ':')
      match text.dropWhile (· != ':') with
      | ':' :: ']' :: _ =>
          if classNames.contains (String.ofList name) then
            some (negated, name.length + (if negated then 4 else 3))
          else none
      | _ => none
  | _ => none

def nextMark (mode : Mode) (text : List Char) : Option Char :=
  if mode.spaced then
    match text.dropWhile Text.isBlank with
    | '#' :: comment => (comment.dropWhile Text.isBlank).head?
    | marks => marks.head?
  else text.head?

def readMember (state : State) (start : Option RangeStart) (char : Char) (rest : List Char) :
    Step :=
  let doubled := rest.head? == some char
  let operator : Step := some (state.operator, .behind 1 (.members none))
  let literal := accept state .member (.char char false)
  match char, start with
  | ']', _ =>
      let state := state.closeClass
      some (state, if state.classes.isEmpty then .items else .members none)
  | '[', _ =>
      match namedClass? rest with
      | some (negated, length) =>
          if state.mode.admitsNamed negated then
            some (state.addMember 0, .behind length (.members none))
          else none
      | none => some (state.openClass, .classStart .opened)
  | '&', _ | '~', _ => if doubled then operator else literal
  | '-', some start =>
      match nextMark state.mode rest with
      | some ']' | some '-' => if doubled then operator else literal
      | _ => some (state, .rangeEnd start)
  | '-', none => if doubled then operator else literal
  | '\\', _ => acceptEscape state .member rest
  | _, _ => literal

/-- A character at the start of a class. A negated class of bytes would hold more than ASCII. -/
def readClassStart (state : State) (progress : ClassStart) (char : Char) (rest : List Char) :
    Step :=
  let literal (place : Place) : Step :=
    if state.mode.admitsMember char then some (state.addMember 0, place) else none
  match char, progress with
  | '^', .opened => if state.mode.codePoints then some (state, .classStart .negated) else none
  | '-', _ => literal (.classStart .hyphens)
  | ']', .opened | ']', .negated => literal (.members none)
  | _, _ => readMember state none char rest

def readRangeEnd (state : State) (start : RangeStart) (char : Char) (rest : List Char) : Step :=
  if char == '\\' then acceptEscape state (.rangeEnd start) rest
  else accept state (.rangeEnd start) (.char char false)

def readDigit (state : State) (missing : Nat) (read : List Char) (ofByte : Bool) (goal : Goal)
    (char : Char) : Step := do
  let _ ← Text.hexValue? char
  if missing ≤ 1 then accept state goal (.char (← Text.charOfHex? (char :: read).reverse) ofByte)
  else return (state, .digits (missing - 1) (char :: read) ofByte goal)

def readChar (state : State) (place : Place) (char : Char) (rest : List Char) : Step :=
  if state.mode.spaced && place.admitsBlanks && Text.isBlank char then some (state, place)
  else if state.mode.spaced && place.admitsBlanks && char == '#' then some (state, .comment place)
  else
    match place with
    | .items => readItem state char rest
    | .opening => readOpening state char rest
    | .name read => readName state read char
    | .flags read => readFlag state read char
    | .classStart progress => readClassStart state progress char rest
    | .members start => readMember state start char rest
    | .rangeEnd start => readRangeEnd state start char rest
    | .digits missing read ofByte goal => readDigit state missing read ofByte goal char
    | .behind count place => some (state, if count ≤ 1 then place else .behind (count - 1) place)
    | .comment place => some (state, if char == '\n' then place else .comment place)

def readAll (state : State) (place : Place) : List Char → Step
  | [] => some (state, place)
  | char :: rest => do
      let (state, place) ← readChar state place char rest
      readAll state place rest

/-- A pattern is usable when it can be read to its end with no group left open, does not nest too
deep, and does not ask for words of code points. -/
def check (pattern : List Char) : Except Refusal Unit :=
  match readAll {} .items pattern with
  | some (state, place) =>
      if !place.mayEnd || !state.outer.isEmpty || depthLimit < state.group.depth then
        .error .illFormed
      else if state.asksForWords then .error .wordBoundary
      else .ok ()
  | none => .error .illFormed

end ReportMerge.Pattern
