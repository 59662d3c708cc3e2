/-
Texts for terminals. Characters that would steer a terminal are written as
escapes; line ends and tabs are left alone.
-/

import ReportMerge.Text.Quoted

namespace ReportMerge.Text

/-- A bell, a step back, a form feed, an escape character or a delete character. -/
def steersOldTerminals (char : Char) : Bool :=
  ['\x07', '\x08', '\x0c', '\x1b', '\x7f'].contains char

def isHighControl (char : Char) : Bool := 0x80 ≤ char.toNat && char.toNat < 0xa0

def terminalChar (char : Char) : List Char :=
  if steersOldTerminals char then
    let digits := hexDigits char.toNat
    '\\' :: 'x' :: List.replicate (2 - digits.length) '0' ++ digits
  else if isHighControl char then bracedEscape char
  else [char]

def forTerminal (text : String) : String := String.ofList (text.toList.flatMap terminalChar)

end ReportMerge.Text
