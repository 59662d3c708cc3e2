/-
Texts of TOML between their quotation marks. Single quotes enclose a text as it
stands; between double quotes a backslash starts an escape. Three quotation
marks enclose a text of several lines.
-/

import ReportMerge.Text.Digit

namespace ReportMerge.Toml.Text

def isBlank (char : Char) : Bool := char == ' ' || char == '\t'

def skipBlanks (input : List Char) : List Char := input.dropWhile isBlank

def skipLayout : List Char → List Char
  | '\r' :: '\n' :: rest => skipLayout rest
  | char :: rest => if isBlank char || char == '\n' then skipLayout rest else char :: rest
  | [] => []

def afterLineEnd? : List Char → Option (List Char)
  | '\n' :: rest => some rest
  | '\r' :: '\n' :: rest => some rest
  | _ => none

def isPlain (char : Char) : Bool := char == '\t' || (0x20 ≤ char.toNat && char.toNat != 0x7f)

def shortEscape? : Char → Option Char
  | '"' => some '"'
  | '\\' => some '\\'
  | 'b' => some '\x08'
  | 'f' => some '\x0c'
  | 'n' => some '\n'
  | 'r' => some '\r'
  | 't' => some '\t'
  | _ => none

def digitValue? (base : Nat) (digit : Char) : Option Nat :=
  (ReportMerge.Text.hexValue? digit).filter (· < base)

def numericEscape? (count : Nat) (input : List Char) : Option Char :=
  let digits := input.take count
  if digits.length < count then none else ReportMerge.Text.charOfHex? digits

/-- The characters of an escape after its backslash, and what follows it. In a text of several
lines an escaped line end stands for nothing, together with the blanks and line ends around it. -/
def escape? (multiline : Bool) : List Char → Option (List Char × List Char)
  | 'u' :: rest => (numericEscape? 4 rest).map fun char => ([char], rest.drop 4)
  | 'U' :: rest => (numericEscape? 8 rest).map fun char => ([char], rest.drop 8)
  | char :: rest =>
      match shortEscape? char with
      | some escaped => some ([escaped], rest)
      | none =>
          if multiline then
            (afterLineEnd? (skipBlanks (char :: rest))).map fun after => ([], skipLayout after)
          else none
  | [] => none

theorem length_skipBlanks (input : List Char) : (skipBlanks input).length ≤ input.length :=
  (List.dropWhile_sublist _).length_le

theorem length_skipLayout (input : List Char) : (skipLayout input).length ≤ input.length := by
  fun_induction skipLayout input <;> grind

theorem length_afterLineEnd {input rest : List Char} (found : afterLineEnd? input = some rest) :
    rest.length < input.length := by
  unfold afterLineEnd? at found
  split at found <;> grind

theorem length_escape {multiline : Bool} {input chars rest : List Char}
    (found : escape? multiline input = some (chars, rest)) : rest.length < input.length := by
  unfold escape? at found
  split at found
  · simp only [Option.map_eq_some_iff, Prod.mk.injEq] at found
    obtain ⟨_, _, _, rfl⟩ := found
    simp only [List.length_drop, List.length_cons]
    omega
  · simp only [Option.map_eq_some_iff, Prod.mk.injEq] at found
    obtain ⟨_, _, _, rfl⟩ := found
    simp only [List.length_drop, List.length_cons]
    omega
  · rename_i char tail _ _
    split at found
    · grind
    · split at found
      · simp only [Option.map_eq_some_iff, Prod.mk.injEq] at found
        obtain ⟨after, ended, _, rfl⟩ := found
        have first := length_skipBlanks (char :: tail)
        have second := length_afterLineEnd ended
        have third := length_skipLayout after
        omega
      · simp at found
  · simp at found

structure Enclosure where
  quote : Char
  escapes : Bool
  multiline : Bool

def prepend (chars : List Char) (found : Option (List Char × List Char)) :
    Option (List Char × List Char) :=
  found.map fun (text, after) => (chars ++ text, after)

theorem prepend_eq_some_iff {chars text rest : List Char}
    {found : Option (List Char × List Char)} :
    prepend chars found = some (text, rest) ↔
      ∃ tail, found = some (tail, rest) ∧ chars ++ tail = text := by
  simp only [prepend, Option.map_eq_some_iff, Prod.exists, Prod.mk.injEq]
  grind

/-- The characters of a text up to its closing marks, and what follows them. Within several lines
one or two marks stand for themselves, also right before the three that close the text. -/
def body? (enclosure : Enclosure) (input : List Char) : Option (List Char × List Char) :=
  match input with
  | [] => none
  | char :: rest =>
      if char == enclosure.quote then
        if enclosure.multiline then
          let marks := ((char :: rest).takeWhile (· == enclosure.quote)).length
          if marks < 3 then
            prepend (List.replicate marks char)
              (body? enclosure (rest.drop (marks - 1)))
          else
            let extra := min (marks - 3) 2
            some (List.replicate extra char, rest.drop (2 + extra))
        else some ([], rest)
      else if char == '\\' && enclosure.escapes then
        match _found : escape? enclosure.multiline rest with
        | some (chars, after) => prepend chars (body? enclosure after)
        | none => none
      else if isPlain char then
        prepend [char] (body? enclosure rest)
      else
        match _found : afterLineEnd? (char :: rest) with
        | some after =>
            if enclosure.multiline then
              prepend ['\n'] (body? enclosure after)
            else none
        | none => none
termination_by input.length
decreasing_by
  · simp only [List.length_drop, List.length_cons]
    omega
  · have shorter := length_escape _found
    simp only [List.length_cons]
    omega
  · simp
  · exact length_afterLineEnd _found

theorem length_body {enclosure : Enclosure} {input text rest : List Char}
    (found : body? enclosure input = some (text, rest)) : rest.length < input.length := by
  fun_induction body? enclosure input generalizing text rest with
  | case1 => simp at found
  | case2 =>
      rename_i ih
      obtain ⟨_, inner, _⟩ := prepend_eq_some_iff.mp found
      have shorter := ih inner
      simp only [List.length_drop, List.length_cons] at *
      omega
  | case3 => grind
  | case4 => grind
  | case5 char tail _ _ chars after escaped ih =>
      obtain ⟨_, inner, _⟩ := prepend_eq_some_iff.mp found
      have shorter := length_escape escaped
      have shorterTail := ih inner
      simp only [List.length_cons]
      omega
  | case6 => simp at found
  | case7 char tail _ _ _ ih =>
      obtain ⟨_, inner, _⟩ := prepend_eq_some_iff.mp found
      have shorter := ih inner
      simp only [List.length_cons]
      omega
  | case8 char tail _ _ _ after ended multiline ih =>
      obtain ⟨_, inner, _⟩ := prepend_eq_some_iff.mp found
      have shorter := length_afterLineEnd ended
      have shorterTail := ih inner
      omega
  | case9 => simp at found
  | case10 => simp at found

/-- A text after its first quotation mark: its characters, whether three marks enclose it, and what
follows it. A line end right behind three marks is not part of the text. -/
def scan? (quote : Char) (input : List Char) : Option (List Char × Bool × List Char) :=
  let enclosure : Enclosure := { quote, escapes := quote == '"', multiline := false }
  match input with
  | first :: second :: rest =>
      if first == quote && second == quote then
        let inside := (afterLineEnd? rest).getD rest
        (body? { enclosure with multiline := true } inside).map fun (text, after) =>
          (text, true, after)
      else
        (body? enclosure input).map fun (text, after) => (text, false, after)
  | _ => (body? enclosure input).map fun (text, after) => (text, false, after)

theorem length_scan {quote : Char} {input text rest : List Char} {multiline : Bool}
    (found : scan? quote input = some (text, multiline, rest)) : rest.length < input.length := by
  have drop (tail : List Char) : ((afterLineEnd? tail).getD tail).length ≤ tail.length := by
    cases ended : afterLineEnd? tail with
    | none => simp
    | some after =>
        have shorter := length_afterLineEnd ended
        simp only [Option.getD_some]
        omega
  simp only [scan?] at found
  split at found
  · rename_i first second tail
    split at found
    · simp only [Option.map_eq_some_iff, Prod.exists, Prod.mk.injEq] at found
      obtain ⟨_, _, inner, _, _, rfl⟩ := found
      have shorter := length_body inner
      have bound := drop tail
      simp only [List.length_cons]
      omega
    · simp only [Option.map_eq_some_iff, Prod.exists, Prod.mk.injEq] at found
      obtain ⟨_, _, inner, _, _, rfl⟩ := found
      exact length_body inner
  · simp only [Option.map_eq_some_iff, Prod.exists, Prod.mk.injEq] at found
    obtain ⟨_, _, inner, _, _, rfl⟩ := found
    exact length_body inner

end ReportMerge.Toml.Text
