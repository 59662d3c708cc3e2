/-
Numbers and dates of TOML, made of words and of the marks between them. The
parts of a date are recognised but not checked, since nobody asks for a date.
-/

import ReportMerge.Reading.Fault
import ReportMerge.Toml.Token

namespace ReportMerge.Toml.Numeral

structure DigitRule where
  base : Nat
  signed : Bool
  leadingZeros : Bool

/-- The digits of a word up to the first character that is none, and that character and all behind
it. A single underscore may stand between two digits. -/
def splitDigits (base : Nat) : List Char → Option (List Char × List Char)
  | [] => some ([], [])
  | '_' :: digit :: rest => do
      let _ ← Text.digitValue? base digit
      let (digits, after) ← splitDigits base rest
      return (digit :: digits, after)
  | '_' :: [] => none
  | char :: rest =>
      match Text.digitValue? base char with
      | none => some ([], char :: rest)
      | some _ => do
          let (digits, after) ← splitDigits base rest
          return (char :: digits, after)

structure Part where
  negative : Bool
  digits : List Char
  after : List Char

/-- The part of a number at the start of a word. There is at least one digit, and digits start
with an underscore never and with a superfluous zero only where the rule says so. -/
def part? (rule : DigitRule) (word : List Char) : Option Part := do
  let (negative, unsigned) :=
    match word with
    | '-' :: rest => if rule.signed then (true, rest) else (false, word)
    | _ => (false, word)
  if unsigned.head? == some '_' then none
  else
    let (digits, after) ← splitDigits rule.base unsigned
    match digits with
    | [] => none
    | '0' :: _ :: _ => if rule.leadingZeros then some ⟨negative, digits, after⟩ else none
    | _ => some ⟨negative, digits, after⟩

def digitsValue (base : Nat) (digits : List Char) : Nat :=
  digits.foldl (fun number digit => number * base + (Text.digitValue? base digit).getD 0) 0

def whole? (rule : DigitRule) (word : List Char) : Option Int := do
  let part ← part? rule word
  if part.after ≠ [] then none
  else
    let magnitude : Int := digitsValue rule.base part.digits
    let value := if part.negative then -magnitude else magnitude
    if Int64.minValue.toInt ≤ value ∧ value ≤ Int64.maxValue.toInt then some value else none

def decimalRule : DigitRule := { base := 10, signed := true, leadingZeros := false }

def prefixedRule (base : Nat) : DigitRule := { base, signed := false, leadingZeros := true }

def fractionRule : DigitRule := { base := 10, signed := false, leadingZeros := true }

def exponentRule : DigitRule := { base := 10, signed := true, leadingZeros := true }

/-- The double nearest to digits scaled by a power of ten, unless it is beyond the doubles. -/
def nearest? (negative : Bool) (digits : List Char) (exponent : Int) : Option Float :=
  let coefficient := digitsValue 10 digits
  let size : Int := (Nat.toDigits 10 coefficient).length + exponent
  let magnitude :=
    if coefficient == 0 || size < -400 then 0
    else if size > 400 then Float.ofScientific 1 false 400
    else Float.ofScientific coefficient (decide (exponent < 0)) exponent.natAbs
  if magnitude.isInf then none else some (if negative then -magnitude else magnitude)

/-- The exponent behind the digits of a word, and the tokens behind it. An exponent that is cut off
from its mark by a plus stands in the next word. -/
def exponent? (after : List Char) (tokens : List Token) : Option (Int × List Token) :=
  let value (part : Part) : Option Int :=
    if part.after ≠ [] then none
    else
      let magnitude : Int := digitsValue 10 part.digits
      some (if part.negative then -magnitude else magnitude)
  match after with
  | [] => some (0, tokens)
  | mark :: rest =>
      if mark == 'e' || mark == 'E' then
        match rest, tokens with
        | [], .plus :: .word word :: tokens | [], .word word :: tokens => do
            return (← value (← part? fractionRule word), tokens)
        | [], _ => none
        | _, _ => do return (← value (← part? exponentRule rest), tokens)
      else none

def real? (word : List Char) (behindPoint : Option (List Char)) (tokens : List Token) :
    Option (Float × List Token) := do
  let whole ← part? decimalRule word
  match behindPoint with
  | none =>
      let (exponent, tokens) ← exponent? whole.after tokens
      return (← nearest? whole.negative whole.digits exponent, tokens)
  | some word =>
      if whole.after ≠ [] then none
      else
        let fraction ← part? fractionRule word
        let (exponent, tokens) ← exponent? fraction.after tokens
        return (← nearest? whole.negative (whole.digits ++ fraction.digits)
          (exponent - fraction.digits.length), tokens)

def number? (word : List Char) (tokens : List Token) : Option (Number × List Token) :=
  match word with
  | '0' :: 'x' :: digits => (whole? (prefixedRule 16) digits).map (.whole ·, tokens)
  | '0' :: 'o' :: digits => (whole? (prefixedRule 8) digits).map (.whole ·, tokens)
  | '0' :: 'b' :: digits => (whole? (prefixedRule 2) digits).map (.whole ·, tokens)
  | _ =>
      if word.contains 'e' || word.contains 'E' then
        (real? word none tokens).map fun (value, tokens) => (.real value, tokens)
      else
        match tokens with
        | .point :: .word behindPoint :: tokens =>
            (real? word (some behindPoint) tokens).map fun (value, tokens) => (.real value, tokens)
        | .point :: _ => none
        | _ =>
            match word with
            | ['i', 'n', 'f'] => some (.real (1 / 0), tokens)
            | ['-', 'i', 'n', 'f'] => some (.real (-1 / 0), tokens)
            | ['n', 'a', 'n'] | ['-', 'n', 'a', 'n'] => some (.real (0 / 0), tokens)
            | _ => (whole? decimalRule word).map (.whole ·, tokens)

/-- The tokens behind a mark and a word, or all tokens if the mark does not come next; nothing if
the mark stands without a word. -/
def skipMarked (mark : Token) : List Token → Option (List Token)
  | token :: rest =>
      if token = mark then
        match rest with
        | .word _ :: rest => some rest
        | _ => none
      else some (token :: rest)
  | [] => some []

def skipMinutes : List Token → Option (List Token)
  | .word _ :: .colon :: .word _ :: rest => do
      skipMarked .colon (← skipMarked .plus (← skipMarked .point rest))
  | _ => none

/-- The tokens behind a date whose first word has been read. A single space may stand between the
day and the hour; a colon behind the first word has been read too or has not. -/
def skipDate (colonRead : Bool) (tokens : List Token) : Option (List Token) :=
  let tokens :=
    match tokens with
    | .blanks true :: .word _ :: rest => rest
    | _ => tokens
  if colonRead then skipMinutes tokens
  else
    match tokens with
    | .colon :: rest => skipMinutes rest
    | _ => some tokens

/-- A word that can only start a date: it holds the mark of a time, or a hyphen behind its first
character that follows no mark of an exponent. -/
def startsDate (word : List Char) : Bool :=
  let hasPair (first : Char) := (word.zip (word.drop 1)).contains (first, '-')
  word.contains 'T' || word.contains 't'
    || ((word.drop 1).contains '-' && !hasPair 'e' && !hasPair 'E')

def startsNumber (word : List Char) : Bool :=
  word == ['i', 'n', 'f'] || word == ['n', 'a', 'n']
    || word.head?.any fun char => char == '-' || char.isDigit

end ReportMerge.Toml.Numeral
