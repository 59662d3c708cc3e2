/-
Text between quotation marks, as messages show a text that was found where
something else was expected. Characters that would not show are written as
escapes.
-/

import ReportMerge.Text.Hidden

namespace ReportMerge.Text

def hexDigits (number : Nat) : List Char := Nat.toDigits 16 number

def bracedEscape (char : Char) : List Char :=
  '\\' :: 'u' :: '\x7b' :: hexDigits char.toNat ++ ['\x7d']

def quotedChar (char : Char) : List Char :=
  match char with
  | '"' => ['\\', '"']
  | '\\' => ['\\', '\\']
  | '\t' => ['\\', 't']
  | '\n' => ['\\', 'n']
  | '\r' => ['\\', 'r']
  | '\x00' => ['\\', '0']
  | other => if isHidden other then bracedEscape other else [other]

def quoted (text : String) : String :=
  String.ofList ('"' :: text.toList.flatMap quotedChar ++ ['"'])

end ReportMerge.Text
