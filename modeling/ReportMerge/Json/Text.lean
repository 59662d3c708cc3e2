/-
Texts of JSON between their quotation marks: how they are written and how they
are read. A text is read in two steps, first as a spelling, which may name
halves of surrogate pairs, then as the characters that it spells.
-/

import ReportMerge.Text.Digit

namespace ReportMerge.Json.Text

def controlEscape (char : Char) : List Char :=
  let digits := Nat.toDigits 16 char.toNat
  '\\' :: 'u' :: List.replicate (4 - digits.length) '0' ++ digits

def writeChar (char : Char) : List Char :=
  match char with
  | '"' => ['\\', '"']
  | '\\' => ['\\', '\\']
  | '\x08' => ['\\', 'b']
  | '\t' => ['\\', 't']
  | '\n' => ['\\', 'n']
  | '\x0c' => ['\\', 'f']
  | '\r' => ['\\', 'r']
  | other => if other.toNat < 0x20 then controlEscape other else [other]

def write (text : List Char) : List Char := '"' :: text.flatMap writeChar ++ ['"']

/-- A piece of a spelling: a character, or a number of sixteen bits given by its digits. -/
inductive Piece
  | char (value : Char)
  | unit (value : Nat)

def shortEscape? : Char → Option Char
  | '"' => some '"'
  | '\\' => some '\\'
  | '/' => some '/'
  | 'b' => some '\x08'
  | 'f' => some '\x0c'
  | 'n' => some '\n'
  | 'r' => some '\r'
  | 't' => some '\t'
  | _ => none

/-- The spelling up to the closing quotation mark, and what follows the mark. Control characters
have to be escaped. -/
def scan : List Char → Option (List Piece × List Char)
  | [] => none
  | '"' :: rest => some ([], rest)
  | '\\' :: 'u' :: a :: b :: c :: d :: rest => do
      let number ← ReportMerge.Text.hexNumber? [a, b, c, d]
      let (pieces, rest) ← scan rest
      return (.unit number :: pieces, rest)
  | '\\' :: escape :: rest => do
      let char ← shortEscape? escape
      let (pieces, rest) ← scan rest
      return (.char char :: pieces, rest)
  | char :: rest =>
      if char.toNat < 0x20 ∨ char = '\\' then none
      else do
        let (pieces, rest) ← scan rest
        return (.char char :: pieces, rest)

theorem length_scan {input : List Char} {pieces : List Piece} {rest : List Char}
    (scanned : scan input = some (pieces, rest)) : rest.length < input.length := by
  fun_induction scan input generalizing pieces rest with
  | case1 => simp at scanned
  | case2 => simp_all
  | case3 a b c d tail ih =>
      simp only [Option.bind_eq_bind, Option.bind_eq_some_iff] at scanned
      obtain ⟨_, _, ⟨more, final⟩, scannedTail, same⟩ := scanned
      have shorter := ih scannedTail
      simp_all
      omega
  | case4 escape tail _ ih =>
      simp only [Option.bind_eq_bind, Option.bind_eq_some_iff] at scanned
      obtain ⟨_, _, ⟨more, final⟩, scannedTail, same⟩ := scanned
      have shorter := ih scannedTail
      simp_all
      omega
  | case5 => simp at scanned
  | case6 =>
      rename_i ih
      simp only [Option.bind_eq_bind, Option.bind_eq_some_iff] at scanned
      obtain ⟨⟨more, final⟩, scannedTail, same⟩ := scanned
      have shorter := ih scannedTail
      simp_all
      omega

def isLead (unit : Nat) : Bool := 0xd800 ≤ unit && unit < 0xdc00

def isTrail (unit : Nat) : Bool := 0xdc00 ≤ unit && unit < 0xe000

/-- The characters of a spelling, unless half of a surrogate pair stands alone. -/
def decode : List Piece → Option (List Char)
  | [] => some []
  | .char char :: rest => (decode rest).map (char :: ·)
  | .unit lead :: .unit trail :: rest =>
      if isLead lead && isTrail trail then
        (decode rest).map
          (Char.ofNat (0x10000 + (lead - 0xd800) * 0x400 + (trail - 0xdc00)) :: ·)
      else if isLead lead || isTrail lead then none
      else (decode (.unit trail :: rest)).map (Char.ofNat lead :: ·)
  | .unit unit :: rest =>
      if isLead unit || isTrail unit then none
      else (decode rest).map (Char.ofNat unit :: ·)

end ReportMerge.Json.Text
