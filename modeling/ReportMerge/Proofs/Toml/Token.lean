/-
TOML text as written token by token. Unlike in other formats blanks, comments and
line ends are tokens too, so a text is nothing but the characters of its tokens, and
what matters is only that no token could go on with what follows it.
-/

import ReportMerge.Toml.Token
import ReportMerge.Proofs.Text.Runs
import ReportMerge.Proofs.Toml.Text

namespace ReportMerge.Toml.Token

open ReportMerge.Text (NoneAhead takeWhile_append dropWhile_append)

inductive Lexeme : List Char → Token → Prop
  | lineFeed : Lexeme ['\n'] .lineEnd
  | carriageReturn : Lexeme ['\r', '\n'] .lineEnd
  | blanks {first : Char} {others : List Char} : Text.isBlank first = true →
      (∀ char ∈ others, Text.isBlank char = true) →
      Lexeme (first :: others) (.blanks (first == ' ' && others.isEmpty))
  | comment {chars : List Char} : (∀ char ∈ chars, isCommentChar char = true) →
      Lexeme ('#' :: chars) .comment
  | mark {char : Char} {token : Token} : ofChar? char = some token → Lexeme [char] token
  | word {first : Char} {others : List Char} : isWordChar first = true →
      (∀ char ∈ others, isWordChar char = true) →
      Lexeme (first :: others) (.word (first :: others))
  | text {chars content : List Char} : Text.Spelling chars content →
      Lexeme ('"' :: (chars ++ ['"'])) (.text content false)

def Ends : Token → List Char → Prop
  | .blanks _, rest => NoneAhead Text.isBlank rest
  | .comment, rest => NoneAhead isCommentChar rest
  | .word _, rest => NoneAhead isWordChar rest
  | .text content _, rest => content = [] → rest.head? ≠ some '"'
  | _, _ => True

inductive Written : List Char → List Token → Prop
  | done : Written [] []
  | token {lexeme chars : List Char} {token : Token} {tokens : List Token} :
      Lexeme lexeme token → Ends token chars → Written chars tokens →
      Written (lexeme ++ chars) (token :: tokens)

theorem scan_cons {char : Char} {rest after : List Char} {token : Token}
    (scanned : scanFrom char rest = some (token, after)) :
    scan (char :: rest) = token :: scan after := by
  rw [scan]
  split
  · rename_i found
    rw [scanned] at found
    cases found
    rfl
  · rename_i missing
    rw [scanned] at missing
    cases missing

theorem scanFrom_mark {char : Char} {token : Token} (mark : ofChar? char = some token)
    (rest : List Char) : scanFrom char rest = some (token, rest) := by
  unfold ofChar? at mark
  split at mark
  all_goals
    cases mark
    try rfl

theorem scanFrom_blanks {first : Char} {others rest : List Char}
    (blank : Text.isBlank first = true) (blanks : ∀ char ∈ others, Text.isBlank char = true)
    (ends : NoneAhead Text.isBlank rest) :
    scanFrom first (others ++ rest) =
      some (.blanks (first == ' ' && others.isEmpty), rest) := by
  have skipped : Text.skipBlanks (others ++ rest) = rest := dropWhile_append blanks ends
  have alone : (!((others ++ rest).head?.any Text.isBlank)) = others.isEmpty := by
    cases others with
    | nil =>
        cases rest with
        | nil => rfl
        | cons char rest => simp [ends char rfl]
    | cons second others => simp [blanks second List.mem_cons_self]
  simp only [Text.isBlank, Bool.or_eq_true, beq_iff_eq] at blank
  unfold scanFrom
  rw [skipped, alone]
  rcases blank with rfl | rfl
  · rfl
  · rfl

theorem scanFrom_word {first : Char} {others rest : List Char}
    (wordChar : isWordChar first = true) (wordChars : ∀ char ∈ others, isWordChar char = true)
    (ends : NoneAhead isWordChar rest) :
    scanFrom first (others ++ rest) = some (.word (first :: others), rest) := by
  have differs (other : Char) (outside : isWordChar other = false) : (first == other) = false := by
    rw [beq_eq_false_iff_ne]
    rintro rfl
    rw [wordChar] at outside
    cases outside
  have solid : Text.isBlank first = false := by
    simp only [Text.isBlank, differs ' ' (by decide), differs '\t' (by decide), Bool.or_false]
  unfold scanFrom
  simp only [differs '\n' (by decide), differs '\r' (by decide), differs '#' (by decide),
    differs '"' (by decide), differs '\'' (by decide), solid, wordChar, Bool.or_false,
    Bool.false_eq_true, if_false, if_true, takeWhile_append wordChars ends,
    dropWhile_append wordChars ends]

theorem scan_lexeme {lexeme rest : List Char} {token : Token} (single : Lexeme lexeme token)
    (ends : Ends token rest) : scan (lexeme ++ rest) = token :: scan rest := by
  cases single with
  | lineFeed => exact scan_cons rfl
  | carriageReturn => exact scan_cons rfl
  | blanks blank blanks => exact scan_cons (scanFrom_blanks blank blanks ends)
  | comment comment =>
      apply scan_cons
      change some (Token.comment, (_ ++ rest).dropWhile isCommentChar) = _
      rw [dropWhile_append comment ends]
  | mark mark => exact scan_cons (scanFrom_mark mark rest)
  | word wordChar wordChars => exact scan_cons (scanFrom_word wordChar wordChars ends)
  | text spelling =>
      rw [List.cons_append, List.append_assoc]
      apply scan_cons
      change (Text.scan? '"' (_ ++ '"' :: rest)).map _ = _
      rw [Text.scan?_append spelling ends]
      rfl

theorem Written.scan_eq {chars : List Char} {tokens : List Token}
    (written : Written chars tokens) : scan chars = tokens := by
  induction written with
  | done => rw [scan]
  | token single ends _ ih => rw [scan_lexeme single ends, ih]

theorem Written.scanDocument_eq {chars : List Char} {tokens : List Token}
    (written : Written chars tokens) : scanDocument chars = tokens := by
  unfold scanDocument
  split
  · rename_i rest
    exfalso
    generalize same : '\ufeff' :: rest = chars at written
    cases written with
    | done => cases same
    | token single =>
        cases single with
        | lineFeed | carriageReturn | comment | text =>
            exact absurd (List.cons.inj same).1 (by decide)
        | blanks blank =>
            rw [← (List.cons.inj same).1] at blank
            cases blank
        | mark mark =>
            rw [← (List.cons.inj same).1] at mark
            cases mark
        | word wordChar =>
            rw [← (List.cons.inj same).1] at wordChar
            exact absurd wordChar (by decide)
  · exact written.scan_eq

end ReportMerge.Toml.Token
