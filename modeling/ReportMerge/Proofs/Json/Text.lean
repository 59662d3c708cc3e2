/-
Texts as they are spelled between quotation marks. What spells some pieces is scanned
as these pieces, and whatever is scanned was spelled. Each character of a written text
becomes one piece, and the pieces of a written text spell that text.
-/

import ReportMerge.Json.Text
import Mathlib.Data.List.Basic

namespace ReportMerge.Json.Text

/-- The piece as which a written character is read. Only control characters without a short escape
are written by number. -/
def writtenPiece (char : Char) : Piece :=
  match char with
  | '\x08' | '\t' | '\n' | '\x0c' | '\r' => .char char
  | other => if other.toNat < 0x20 then .unit other.toNat else .char other

def inFront (piece : Piece) : List Piece × List Char → List Piece × List Char
  | (pieces, rest) => (piece :: pieces, rest)

private theorem controlDigits (number : Fin 0x20) :
    let digits := Nat.toDigits 16 number.val
    let padded := List.replicate (4 - digits.length) '0' ++ digits
    padded.length = 4 ∧ ReportMerge.Text.hexNumber? padded = some number.val := by
  revert number
  decide

theorem scan_numbered {digits : List Char} {number : Nat} (four : digits.length = 4)
    (named : ReportMerge.Text.hexNumber? digits = some number) (rest : List Char) :
    scan ('\\' :: 'u' :: digits ++ rest) = (scan rest).map (inFront (.unit number)) := by
  match digits, four with
  | [a, b, c, d], _ =>
      simp only [List.cons_append, List.nil_append, scan, named, Option.bind_eq_bind,
        Option.bind_some]
      cases scan rest <;> rfl

theorem scan_plain {char : Char} (visible : ¬char.toNat < 0x20) (notMark : char ≠ '"')
    (notEscape : char ≠ '\\') (rest : List Char) :
    scan (char :: rest) = (scan rest).map (inFront (.char char)) := by
  rw [scan]
  · simp only [visible, notEscape, or_self, if_false, Option.bind_eq_bind]
    cases scan rest <;> rfl
  · exact notMark
  · intro a b c d after escaped
    exact absurd escaped notEscape
  · intro escape after escaped
    exact absurd escaped notEscape

theorem scan_short {escape char : Char} (named : shortEscape? escape = some char)
    (rest : List Char) :
    scan ('\\' :: escape :: rest) = (scan rest).map (inFront (.char char)) := by
  rw [scan]
  · simp only [named, Option.bind_eq_bind, Option.bind_some]
    cases scan rest <;> rfl
  · intro a b c d after numbered
    subst escape
    cases named

inductive Spelling : List Char → List Piece → Prop
  | empty : Spelling [] []
  | plain {char : Char} {chars : List Char} {pieces : List Piece} : ¬char.toNat < 0x20 →
      char ≠ '"' → char ≠ '\\' → Spelling chars pieces →
      Spelling (char :: chars) (.char char :: pieces)
  | short {escape char : Char} {chars : List Char} {pieces : List Piece} :
      shortEscape? escape = some char → Spelling chars pieces →
      Spelling ('\\' :: escape :: chars) (.char char :: pieces)
  | numbered {digits chars : List Char} {number : Nat} {pieces : List Piece} : digits.length = 4 →
      ReportMerge.Text.hexNumber? digits = some number → Spelling chars pieces →
      Spelling ('\\' :: 'u' :: digits ++ chars) (.unit number :: pieces)

theorem scan_append {chars : List Char} {pieces : List Piece} (spelling : Spelling chars pieces)
    (rest : List Char) : scan (chars ++ '"' :: rest) = some (pieces, rest) := by
  induction spelling with
  | empty => rfl
  | plain visible notMark notEscape _ ih =>
      rw [List.cons_append, scan_plain visible notMark notEscape, ih]
      rfl
  | short named _ ih =>
      rw [List.cons_append, List.cons_append, scan_short named, ih]
      rfl
  | numbered four named _ ih =>
      rw [List.append_assoc, scan_numbered four named, ih]
      rfl

theorem exists_of_scan {text rest : List Char} {pieces : List Piece}
    (scanned : scan text = some (pieces, rest)) :
    ∃ chars, Spelling chars pieces ∧ text = chars ++ '"' :: rest := by
  fun_induction scan text generalizing pieces with
  | case1 => cases scanned
  | case2 =>
      cases scanned
      exact ⟨[], .empty, rfl⟩
  | case3 a b c d tail ih =>
      simp only [Option.bind_eq_bind, Option.bind_eq_some_iff] at scanned
      obtain ⟨number, named, ⟨others, final⟩, scannedTail, ⟨⟩⟩ := scanned
      obtain ⟨chars, spelling, rfl⟩ := ih scannedTail
      have four : [a, b, c, d].length = 4 := rfl
      exact ⟨_, .numbered four named spelling, rfl⟩
  | case4 escape tail _ ih =>
      simp only [Option.bind_eq_bind, Option.bind_eq_some_iff] at scanned
      obtain ⟨char, named, ⟨others, final⟩, scannedTail, ⟨⟩⟩ := scanned
      obtain ⟨chars, spelling, rfl⟩ := ih scannedTail
      exact ⟨_, .short named spelling, rfl⟩
  | case5 => cases scanned
  | case6 char tail notMark _ _ plain ih =>
      simp only [Option.bind_eq_bind, Option.bind_eq_some_iff] at scanned
      obtain ⟨⟨others, final⟩, scannedTail, ⟨⟩⟩ := scanned
      obtain ⟨chars, spelling, rfl⟩ := ih scannedTail
      obtain ⟨visible, notEscape⟩ := not_or.mp plain
      exact ⟨_, .plain visible notMark notEscape spelling, rfl⟩

theorem Spelling.writeChar {chars : List Char} {pieces : List Piece}
    (spelling : Spelling chars pieces) (char : Char) :
    Spelling (writeChar char ++ chars) (writtenPiece char :: pieces) := by
  unfold Text.writeChar
  split
  · exact spelling.short rfl
  · exact spelling.short rfl
  · exact spelling.short rfl
  · exact spelling.short rfl
  · exact spelling.short rfl
  · exact spelling.short rfl
  · exact spelling.short rfl
  · rename_i notMark notEscape _ _ _ _ _
    have piece : writtenPiece char =
        if char.toNat < 0x20 then .unit char.toNat else .char char := by
      simp only [writtenPiece]
    rw [piece]
    by_cases control : char.toNat < 0x20
    · obtain ⟨four, named⟩ := controlDigits ⟨char.toNat, control⟩
      rw [if_pos control, if_pos control]
      exact spelling.numbered four named
    · rw [if_neg control, if_neg control]
      exact spelling.plain control notMark notEscape

theorem spelling_written (text : List Char) :
    Spelling (text.flatMap Text.writeChar) (text.map writtenPiece) := by
  induction text with
  | nil => exact .empty
  | cons char text ih => exact ih.writeChar char

/-- A number below the surrogates stands for its own character, whatever follows. -/
theorem decode_unit {number : Nat} (small : number < 0xd800) (pieces : List Piece) :
    decode (.unit number :: pieces) = (decode pieces).map (Char.ofNat number :: ·) := by
  have notLead : isLead number = false := by
    simp only [isLead, Bool.and_eq_false_iff, decide_eq_false_iff_not]
    omega
  have notTrail : isTrail number = false := by
    simp only [isTrail, Bool.and_eq_false_iff, decide_eq_false_iff_not]
    omega
  cases pieces with
  | nil => simp [decode, notLead, notTrail]
  | cons next pieces =>
      cases next with
      | char value => simp [decode, notLead, notTrail]
      | unit trail => simp [decode, notLead, notTrail]

theorem decode_writtenPiece (char : Char) (pieces : List Piece) :
    decode (writtenPiece char :: pieces) = (decode pieces).map (char :: ·) := by
  unfold writtenPiece
  split
  · rfl
  · rfl
  · rfl
  · rfl
  · rfl
  · by_cases control : char.toNat < 0x20
    · rw [if_pos control, decode_unit (by omega), Char.ofNat_toNat]
    · rw [if_neg control]
      rfl

theorem decode_written (text : List Char) : decode (text.map writtenPiece) = some text := by
  induction text with
  | nil => rfl
  | cons char text ih =>
      rw [List.map_cons, decode_writtenPiece, ih]
      rfl

end ReportMerge.Json.Text
