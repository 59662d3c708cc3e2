/-
Blanks of all scripts, and texts without the blanks around them.
-/

import ReportMerge.Text.CharClass

namespace ReportMerge.Text

def blank : CharClass :=
  [0x9, 0xe, 0x20, 0x21, 0x85, 0x86, 0xa0, 0xa1, 0x1680, 0x1681, 0x2000, 0x200b, 0x2028, 0x202a,
   0x202f, 0x2030, 0x205f, 0x2060, 0x3000, 0x3001]

def isBlank (char : Char) : Bool := blank.contains char

def trim (text : List Char) : List Char :=
  ((text.dropWhile isBlank).reverse.dropWhile isBlank).reverse

example : trim ['\t', 'a', ' ', 'b', '\u00a0'] = ['a', ' ', 'b'] := by decide

end ReportMerge.Text
