/-
The tokens of TOML text. Words are runs of the characters of bare keys; numbers,
dates and flags are told apart later. Where no token starts, the list of tokens
ends in a mark of its own.
-/

import ReportMerge.Toml.Text

namespace ReportMerge.Toml

/-- A token of TOML text. Of blanks it is kept whether they are a single space. -/
inductive Token
  | lineEnd
  | blanks (single : Bool)
  | comment
  | equals
  | point
  | comma
  | colon
  | plus
  | openBrace
  | closeBrace
  | openBracket
  | closeBracket
  | word (chars : List Char)
  | text (chars : List Char) (multiline : Bool)
  | stray
  deriving DecidableEq

namespace Token

def isWordChar (char : Char) : Bool :=
  char.isAlphanum || char == '-' || char == '_'

def isCommentChar (char : Char) : Bool := char == '\t' || 0x20 ≤ char.toNat

def ofChar? : Char → Option Token
  | '=' => some .equals
  | '.' => some .point
  | ',' => some .comma
  | ':' => some .colon
  | '+' => some .plus
  | '\x7b' => some .openBrace
  | '\x7d' => some .closeBrace
  | '[' => some .openBracket
  | ']' => some .closeBracket
  | _ => none

def scanFrom (char : Char) (rest : List Char) : Option (Token × List Char) :=
  if char == '\n' then some (.lineEnd, rest)
  else if char == '\r' then (Text.afterLineEnd? (char :: rest)).map (.lineEnd, ·)
  else if Text.isBlank char then
    some (.blanks (char == ' ' && !(rest.head?.any Text.isBlank)), Text.skipBlanks rest)
  else if char == '#' then some (.comment, rest.dropWhile isCommentChar)
  else if char == '"' || char == '\'' then
    (Text.scan? char rest).map fun (chars, multiline, after) => (.text chars multiline, after)
  else if isWordChar char then
    some (.word (char :: rest.takeWhile isWordChar), rest.dropWhile isWordChar)
  else (ofChar? char).map (·, rest)

theorem length_scanFrom {char : Char} {rest after : List Char} {token : Token}
    (scanned : scanFrom char rest = some (token, after)) : after.length ≤ rest.length := by
  have shorter (test : Char → Bool) : (rest.dropWhile test).length ≤ rest.length :=
    (List.dropWhile_sublist test).length_le
  unfold scanFrom at scanned
  split at scanned
  · grind
  split at scanned
  · simp only [Option.map_eq_some_iff, Prod.mk.injEq] at scanned
    obtain ⟨_, ended, _, rfl⟩ := scanned
    have less := Text.length_afterLineEnd ended
    simp only [List.length_cons] at less
    omega
  split at scanned
  · simp only [Option.some.injEq, Prod.mk.injEq] at scanned
    rw [← scanned.2]
    exact shorter _
  split at scanned
  · grind
  split at scanned
  · simp only [Option.map_eq_some_iff, Prod.exists, Prod.mk.injEq] at scanned
    obtain ⟨_, _, _, found, _, rfl⟩ := scanned
    exact Nat.le_of_lt (Text.length_scan found)
  split at scanned
  · grind
  · simp only [Option.map_eq_some_iff, Prod.mk.injEq] at scanned
    obtain ⟨_, _, _, rfl⟩ := scanned
    exact Nat.le_refl _

def scan : List Char → List Token
  | [] => []
  | char :: rest =>
      match _scanned : scanFrom char rest with
      | some (token, after) => token :: scan after
      | none => [.stray]
termination_by input => input.length
decreasing_by
  have shorter := length_scanFrom _scanned
  simp only [List.length_cons]
  omega

/-- The tokens of a document, which may start with a byte order mark. -/
def scanDocument : List Char → List Token
  | '\ufeff' :: rest => scan rest
  | input => scan input

def skipBlanks : List Token → List Token
  | .blanks _ :: rest => rest
  | tokens => tokens

def skipLayout : List Token → List Token
  | .blanks _ :: rest => skipLayout rest
  | .lineEnd :: rest => skipLayout rest
  | .comment :: .lineEnd :: rest => skipLayout rest
  | .comment :: [] => []
  | tokens => tokens

def afterLine? (tokens : List Token) : Option (List Token) :=
  match skipBlanks tokens with
  | [] => some []
  | .lineEnd :: rest => some rest
  | .comment :: .lineEnd :: rest => some rest
  | .comment :: [] => some []
  | _ => none

end Token

end ReportMerge.Toml
