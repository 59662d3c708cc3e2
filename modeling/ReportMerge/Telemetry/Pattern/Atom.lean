/-
The smallest parts of patterns, and the modes under which they may stand. A
pattern has no tables of characters, so under the mode in which characters are
code points a class by property is refused, and so is any character without
regard to case. Under the mode in which characters are bytes only bytes of ASCII
may be matched by number or by class, for all else could split a character.
-/

import ReportMerge.Text.Digit

namespace ReportMerge.Pattern

structure Mode where
  codePoints : Bool := true
  caseless : Bool := false
  spaced : Bool := false

namespace Mode

/-- The letters by which modes are set. Those for line ends, for dots and for greed have no bearing
on whether a pattern is usable. -/
def letters : List Char := ['i', 'm', 's', 'U', 'u', 'R', 'x']

def setting (on off : List Char) (letter : Char) (before : Bool) : Bool :=
  on.contains letter || (before && !off.contains letter)

/-- The mode after letters, of which those behind a hyphen are cleared. -/
def change (mode : Mode) (flags : List Char) : Mode :=
  let on := flags.takeWhile (· != '-')
  let off := flags.dropWhile (· != '-')
  { codePoints := setting on off 'u' mode.codePoints
    caseless := setting on off 'i' mode.caseless
    spaced := setting on off 'x' mode.spaced }

end Mode

inductive Atom
  /-- A character, which may be given by the number of a byte. -/
  | char (value : Char) (byByte : Bool)
  /-- Any character but a line end. -/
  | any
  /-- The digits, blanks or word characters, or all others. -/
  | property (negated : Bool)
  /-- A start or an end of the text or of a line. -/
  | anchor
  /-- A place where a word starts or ends, or where none does. -/
  | wordBoundary

def Mode.admitsMember (mode : Mode) (char : Char) : Bool :=
  if mode.codePoints then !mode.caseless else char.toNat < 0x80

/-- A class of which all members are known by name may stand in a pattern. -/
def Mode.admitsNamed (mode : Mode) (negated : Bool) : Bool :=
  if mode.codePoints then !mode.caseless else !negated

def Mode.admits (mode : Mode) : Atom → Bool
  | .char value byByte =>
      if mode.codePoints then !mode.caseless else !byByte || value.toNat < 0x80
  | .any => mode.codePoints
  | .property negated => !mode.codePoints && !negated
  | .anchor | .wordBoundary => true

inductive Escape
  | atom (atom : Atom)
  | number (digits : Nat) (ofByte : Bool)

namespace Escape

def char (value : Char) : Escape := .atom (.char value false)

/-- The escape of a character. Punctuation may always be escaped. Letters and digits without a
meaning are refused, and so are classes by any other property. -/
def ofChar? (escape : Char) : Option Escape :=
  match escape with
  | 'a' => some (char '\x07')
  | 'f' => some (char '\x0c')
  | 'n' => some (char '\n')
  | 'r' => some (char '\r')
  | 't' => some (char '\t')
  | 'v' => some (char '\x0b')
  | 'x' => some (.number 2 true)
  | 'u' => some (.number 4 false)
  | 'U' => some (.number 8 false)
  | 'd' | 's' | 'w' => some (.atom (.property false))
  | 'D' | 'S' | 'W' => some (.atom (.property true))
  | 'A' | 'z' => some (.atom .anchor)
  | 'b' | 'B' | '<' | '>' => some (.atom .wordBoundary)
  | other => if other.toNat < 0x80 && !other.isAlphanum then some (char other) else none

end Escape

end ReportMerge.Pattern
