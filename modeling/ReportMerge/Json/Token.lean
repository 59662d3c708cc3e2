/-
The tokens of JSON text. Blanks separate tokens and mean nothing else. Where no
token starts, the list of tokens ends in a mark of its own.
-/

import ReportMerge.Json.Numeral
import ReportMerge.Json.Text

namespace ReportMerge.Json

/-- A token of JSON text. A text is kept by the characters that it spells, if it spells any. -/
inductive Token
  | null
  | flag (value : Bool)
  | number (numeral : Numeral)
  | text (value : Option String)
  | openArray
  | closeArray
  | openObject
  | closeObject
  | comma
  | colon
  | stray

def isBlank (char : Char) : Bool :=
  char == ' ' || char == '\t' || char == '\n' || char == '\r'

namespace Token

def ofChar? : Char → Option Token
  | '[' => some .openArray
  | ']' => some .closeArray
  | '\x7b' => some .openObject
  | '\x7d' => some .closeObject
  | ',' => some .comma
  | ':' => some .colon
  | _ => none

def scanWord (word : List Char) (token : Token) (input : List Char) :
    Option (Token × List Char) :=
  if word.isPrefixOf input then some (token, input.drop word.length) else none

theorem length_scanWord {word : List Char} {token other : Token} {first : Char}
    {input rest : List Char} (scanned : scanWord word token input = some (other, rest)) :
    rest.length < (first :: input).length := by
  unfold scanWord at scanned
  split at scanned
  · simp only [Option.some.injEq, Prod.mk.injEq] at scanned
    rw [← scanned.2]
    simp only [List.length_drop, List.length_cons]
    omega
  · simp at scanned

def scanLong : List Char → Option (Token × List Char)
  | '"' :: input =>
      (Text.scan input).map fun (pieces, rest) =>
        (.text ((Text.decode pieces).map String.ofList), rest)
  | 'n' :: input => scanWord ['u', 'l', 'l'] .null input
  | 't' :: input => scanWord ['r', 'u', 'e'] (.flag true) input
  | 'f' :: input => scanWord ['a', 'l', 's', 'e'] (.flag false) input
  | input => (Numeral.scan input).map fun (numeral, rest) => (.number numeral, rest)

theorem length_scanLong {input : List Char} {token : Token} {rest : List Char}
    (scanned : scanLong input = some (token, rest)) : rest.length < input.length := by
  unfold scanLong at scanned
  split at scanned
  · simp only [Option.map_eq_some_iff] at scanned
    obtain ⟨⟨pieces, after⟩, found, same⟩ := scanned
    have shorter := Text.length_scan found
    simp_all
    omega
  · exact length_scanWord scanned
  · exact length_scanWord scanned
  · exact length_scanWord scanned
  · simp only [Option.map_eq_some_iff] at scanned
    obtain ⟨⟨numeral, after⟩, found, same⟩ := scanned
    have shorter := Numeral.length_scan found
    simp_all

def scan : List Char → List Token
  | [] => []
  | char :: rest =>
      if isBlank char then scan rest
      else
        match ofChar? char with
        | some token => token :: scan rest
        | none =>
            match _scanned : scanLong (char :: rest) with
            | some (token, after) => token :: scan after
            | none => [.stray]
termination_by input => input.length
decreasing_by
  · simp
  · simp
  · exact length_scanLong _scanned

end Token

end ReportMerge.Json
