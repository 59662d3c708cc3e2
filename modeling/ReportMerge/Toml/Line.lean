/-
The lines of a TOML document: headers of tables, and names with their values.
Each line is read from tokens; a document with a line of any other form has no
lines at all.
-/

import ReportMerge.Toml.Numeral
import ReportMerge.Toml.Tree

namespace ReportMerge.Toml

inductive Line
  | header (repeated : Bool) (path : List String)
  | entry (path : List String) (value : Tree)

def Token.name? : Token → Option String
  | .word chars => some (String.ofList chars)
  | .text chars false => some (String.ofList chars)
  | _ => none

def path? : List Token → Option (List String × List Token)
  | token :: .blanks _ :: .point :: .blanks _ :: rest
  | token :: .blanks _ :: .point :: rest
  | token :: .point :: .blanks _ :: rest
  | token :: .point :: rest => do
      let name ← token.name?
      let (names, rest) ← path? rest
      return (name :: names, rest)
  | token :: rest => do
      let name ← token.name?
      return ([name], rest)
  | [] => none

def updateFirst (name : String) (change : Tree → Option Tree) :
    List (String × Tree) → Option (Option (List (String × Tree)))
  | [] => none
  | (other, value) :: members =>
      if other == name then some ((change value).map fun value => (other, value) :: members)
      else (updateFirst name change members).map (·.map ((other, value) :: ·))

/-- Adds a value under a path of names. All names but the last lead into tables that dotted names
made; the last is added even where it is repeated. -/
def insertAt (value : Tree) : List String → List (String × Tree) → Option (List (String × Tree))
  | [], _ => none
  | [name], members => some (members ++ [(name, value)])
  | name :: path, members =>
      let descend (tree : Tree) : Option Tree :=
        match tree with
        | .table .dotted inner ending =>
            (insertAt value path inner).map fun inner => .table .dotted inner ending
        | _ => none
      match updateFirst name descend members with
      | some changed => changed
      | none => do
          let inner ← insertAt value path []
          return members ++ [(name, .table .dotted inner .closed)]

def wordValue? (word : List Char) (tokens : List Token) : Option (Tree × List Token) :=
  if word = ['t', 'r', 'u', 'e'] then some (.flag true, tokens)
  else if word = ['f', 'a', 'l', 's', 'e'] then some (.flag false, tokens)
  else if !Numeral.startsNumber word then none
  else if Numeral.startsDate word then (Numeral.skipDate false tokens).map (.date, ·)
  else
    match tokens with
    | .colon :: rest => (Numeral.skipDate true rest).map (.date, ·)
    | _ => (Numeral.number? word tokens).map fun (number, rest) => (.number number, rest)

mutual

/-- The value at the start of a list of tokens, and the tokens behind it. The count bounds the
tokens that may be used. -/
def value? : Nat → List Token → Option (Tree × List Token)
  | 0, _ => none
  | count + 1, tokens =>
      match tokens with
      | .text chars _ :: rest => some (.text (String.ofList chars), rest)
      | .word word :: rest => wordValue? word rest
      | .plus :: .word word :: rest =>
          (Numeral.number? word rest).map fun (number, rest) => (.number number, rest)
      | .openBracket :: rest =>
          (items? count rest).map fun (items, rest) => (.array items, rest)
      | .openBrace :: rest =>
          match Token.skipBlanks rest with
          | .closeBrace :: rest => some (.table .inline [] .closed, rest)
          | inside =>
              (members? count [] inside).map fun (members, rest) =>
                (.table .inline members .closed, rest)
      | _ => none

def items? : Nat → List Token → Option (List Tree × List Token)
  | 0, _ => none
  | count + 1, tokens =>
      match Token.skipLayout tokens with
      | .closeBracket :: rest => some ([], rest)
      | inside => do
          let (item, rest) ← value? count inside
          match Token.skipLayout rest with
          | .comma :: rest => do
              let (items, rest) ← items? count rest
              return (item :: items, rest)
          | .closeBracket :: rest => return ([item], rest)
          | _ => none

def members? : Nat → List (String × Tree) → List Token → Option (List (String × Tree) × List Token)
  | 0, _, _ => none
  | count + 1, known, tokens => do
      let (path, rest) ← path? tokens
      match Token.skipBlanks rest with
      | .equals :: rest => do
          let (value, rest) ← value? count (Token.skipBlanks rest)
          let known ← insertAt value path known
          match Token.skipBlanks rest with
          | .closeBrace :: rest => return (known, rest)
          | .comma :: rest => members? count known (Token.skipBlanks rest)
          | _ => none
      | _ => none

end

def header? (tokens : List Token) : Option (Line × List Token) := do
  let (repeated, tokens) :=
    match tokens with
    | .openBracket :: rest => (true, rest)
    | _ => (false, tokens)
  let (path, rest) ← path? (Token.skipBlanks tokens)
  match repeated, Token.skipBlanks rest with
  | true, .closeBracket :: .closeBracket :: rest
  | false, .closeBracket :: rest => return (.header repeated path, ← Token.afterLine? rest)
  | _, _ => none

def entry? (tokens : List Token) : Option (Line × List Token) := do
  let (path, rest) ← path? tokens
  match Token.skipBlanks rest with
  | .equals :: rest => do
      let (value, rest) ← value? rest.length (Token.skipBlanks rest)
      return (.entry path value, ← Token.afterLine? rest)
  | _ => none

def lines? : Nat → List Token → Option (List Line)
  | 0, _ => none
  | count + 1, tokens =>
      match Token.skipLayout tokens with
      | [] => some []
      | .openBracket :: rest => do
          let (line, rest) ← header? rest
          return line :: (← lines? count rest)
      | inside => do
          let (line, rest) ← entry? inside
          return line :: (← lines? count rest)

def linesOfText? (text : String) : Option (List Line) :=
  let tokens := Token.scanDocument text.toList
  lines? (tokens.length + 1) tokens

end ReportMerge.Toml
