/-
Texts measured in bytes of their UTF-8 form.
-/

namespace ReportMerge.Text

def byteLength (text : List Char) : Nat := text.foldl (fun length char => length + char.utf8Size) 0

/-- A text without its first bytes, unless they end inside a character or behind the text. -/
def dropBytes? : Nat → List Char → Option (List Char)
  | 0, text => some text
  | _ + 1, [] => none
  | count + 1, char :: text =>
      if char.utf8Size ≤ count + 1 then dropBytes? (count + 1 - char.utf8Size) text else none

def takeBytes? : Nat → List Char → Option (List Char)
  | 0, _ => some []
  | _ + 1, [] => none
  | count + 1, char :: text =>
      if char.utf8Size ≤ count + 1 then
        (takeBytes? (count + 1 - char.utf8Size) text).map (char :: ·)
      else none

def slice? (start stop : Nat) (text : List Char) : Option (List Char) :=
  (dropBytes? start text).bind (takeBytes? (stop - start))

end ReportMerge.Text
