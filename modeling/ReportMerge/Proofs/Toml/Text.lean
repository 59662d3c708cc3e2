/-
Basic texts of TOML as they are spelled between double quotes on one line. What
spells a text is read as that text, and every text has a spelling, in which only
what cannot stand for itself is escaped.
-/

import ReportMerge.Toml.Text
import Mathlib.Data.List.Basic

namespace ReportMerge.Toml.Text

def basic : Enclosure := { quote := '"', escapes := true, multiline := false }

inductive Spelling : List Char → List Char → Prop
  | empty : Spelling [] []
  | plain {char : Char} {chars text : List Char} : isPlain char = true → char ≠ '"' →
      char ≠ '\\' → Spelling chars text → Spelling (char :: chars) (char :: text)
  | short {escape char : Char} {chars text : List Char} : shortEscape? escape = some char →
      Spelling chars text → Spelling ('\\' :: escape :: chars) (char :: text)
  | numbered {mark char : Char} {digits chars text : List Char} :
      mark = 'u' ∧ digits.length = 4 ∨ mark = 'U' ∧ digits.length = 8 →
      ReportMerge.Text.charOfHex? digits = some char → Spelling chars text →
      Spelling ('\\' :: mark :: (digits ++ chars)) (char :: text)

theorem escape?_short {escape char : Char} (named : shortEscape? escape = some char)
    (multiline : Bool) (rest : List Char) :
    escape? multiline (escape :: rest) = some ([char], rest) := by
  unfold escape?
  split
  · rename_i same
    obtain ⟨rfl, -⟩ := List.cons.inj same
    cases named
  · rename_i same
    obtain ⟨rfl, -⟩ := List.cons.inj same
    cases named
  · rename_i same
    obtain ⟨rfl, rfl⟩ := List.cons.inj same
    rw [named]
  · rename_i impossible
    cases impossible

theorem numericEscape?_append {digits : List Char} {count : Nat} {char : Char}
    (complete : digits.length = count)
    (named : ReportMerge.Text.charOfHex? digits = some char) (rest : List Char) :
    numericEscape? count (digits ++ rest) = some char := by
  subst complete
  unfold numericEscape?
  rw [List.take_left, if_neg (Nat.lt_irrefl _), named]

theorem escape?_numbered {mark char : Char} {digits : List Char}
    (marked : mark = 'u' ∧ digits.length = 4 ∨ mark = 'U' ∧ digits.length = 8)
    (named : ReportMerge.Text.charOfHex? digits = some char) (multiline : Bool)
    (rest : List Char) :
    escape? multiline (mark :: (digits ++ rest)) = some ([char], rest) := by
  rcases marked with ⟨rfl, four⟩ | ⟨rfl, eight⟩
  · change (numericEscape? 4 (digits ++ rest)).map
      (fun char => ([char], (digits ++ rest).drop 4)) = _
    rw [numericEscape?_append four named, ← four, List.drop_left]
    rfl
  · change (numericEscape? 8 (digits ++ rest)).map
      (fun char => ([char], (digits ++ rest).drop 8)) = _
    rw [numericEscape?_append eight named, ← eight, List.drop_left]
    rfl

theorem body?_quote (rest : List Char) : body? basic ('"' :: rest) = some ([], rest) := by
  rw [body?]
  rfl

theorem body?_plain {char : Char} (plain : isPlain char = true) (notQuote : char ≠ '"')
    (notEscape : char ≠ '\\') (rest : List Char) :
    body? basic (char :: rest) = prepend [char] (body? basic rest) := by
  rw [body?]
  simp [basic, notQuote, notEscape, plain]

theorem body?_escape {chars rest after : List Char}
    (found : escape? basic.multiline rest = some (chars, after)) :
    body? basic ('\\' :: rest) = prepend chars (body? basic after) := by
  have notQuote : ¬('\\' == basic.quote) = true := by decide
  have escapes : ('\\' == '\\' && basic.escapes) = true := rfl
  rw [body?, if_neg notQuote, if_pos escapes]
  split
  · rename_i foundToo
    rw [found] at foundToo
    cases foundToo
    rfl
  · rename_i missing
    rw [found] at missing
    cases missing

theorem body?_append {chars text : List Char} (spelling : Spelling chars text)
    (rest : List Char) : body? basic (chars ++ '"' :: rest) = some (text, rest) := by
  induction spelling with
  | empty => exact body?_quote rest
  | plain plain notQuote notEscape _ ih =>
      rw [List.cons_append, body?_plain plain notQuote notEscape, ih]
      rfl
  | short named _ ih =>
      rw [List.cons_append, List.cons_append, body?_escape (escape?_short named _ _), ih]
      rfl
  | numbered marked named _ ih =>
      rw [List.cons_append, List.cons_append, List.append_assoc,
        body?_escape (escape?_numbered marked named _ _), ih]
      rfl

/-- A text is read up to its closing quote, unless two quotes in front and a third one behind them
could open a text of several lines. -/
theorem scan?_append {chars text rest : List Char} (spelling : Spelling chars text)
    (ends : text = [] → rest.head? ≠ some '"') :
    scan? '"' (chars ++ '"' :: rest) = some (text, false, rest) := by
  have read := body?_append spelling rest
  have oneLine : (body? basic (chars ++ '"' :: rest)).map
      (fun found => (found.1, false, found.2)) = some (text, false, rest) := by
    rw [read]
    rfl
  unfold scan?
  simp only
  split
  · rename_i first second others same
    -- The closing quote comes first, so both are quotes only where the rest starts with one.
    rw [if_neg]
    · exact oneLine
    · intro opens
      simp only [Bool.and_eq_true, beq_iff_eq] at opens
      obtain ⟨rfl, rfl⟩ := opens
      cases spelling with
      | empty =>
          rw [List.nil_append, List.cons.injEq] at same
          rw [same.2] at ends
          exact ends rfl rfl
      | plain _ notQuote => exact notQuote (List.cons.inj same).1
      | short => exact absurd (List.cons.inj same).1 (by decide)
      | numbered => exact absurd (List.cons.inj same).1 (by decide)
  · exact oneLine

/-- A character as it is written: as it stands if it may, and by its number otherwise. -/
def writeChar (char : Char) : List Char :=
  match char with
  | '"' => ['\\', '"']
  | '\\' => ['\\', '\\']
  | other =>
      if isPlain other then [other]
      else
        let digits := Nat.toDigits 16 other.toNat
        '\\' :: 'u' :: (List.replicate (4 - digits.length) '0' ++ digits)

private theorem hiddenDigits (number : Fin 0x80) :
    let digits := Nat.toDigits 16 number.val
    let padded := List.replicate (4 - digits.length) '0' ++ digits
    padded.length = 4 ∧
      ReportMerge.Text.charOfHex? padded = some (Char.ofNat number.val) := by
  revert number
  decide

theorem Spelling.writeChar {chars text : List Char} (spelling : Spelling chars text)
    (char : Char) : Spelling (Text.writeChar char ++ chars) (char :: text) := by
  unfold Text.writeChar
  split
  · exact spelling.short rfl
  · exact spelling.short rfl
  · rename_i notQuote notEscape
    by_cases plain : isPlain char = true
    · rw [if_pos plain]
      exact spelling.plain plain notQuote notEscape
    · have hidden : char.toNat < 0x80 := by
        simp only [isPlain, Bool.or_eq_true, Bool.and_eq_true, beq_iff_eq, decide_eq_true_eq,
          bne_iff_ne, not_or, not_and, not_not] at plain
        have control := plain.2
        omega
      obtain ⟨four, named⟩ := hiddenDigits ⟨char.toNat, hidden⟩
      rw [Char.ofNat_toNat] at named
      rw [if_neg plain]
      exact spelling.numbered (.inl ⟨rfl, four⟩) named

theorem spelling_written (text : List Char) : Spelling (text.flatMap writeChar) text := by
  induction text with
  | nil => exact .empty
  | cons char text ih => exact ih.writeChar char

end ReportMerge.Toml.Text
