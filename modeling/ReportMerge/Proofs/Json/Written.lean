/-
JSON text as written token by token. Blanks may stand before every token and at the
end. A text is cut into the tokens as which it is written, and a text that is cut
without a stray place was written as what it is cut into.
-/

import ReportMerge.Json.Token
import ReportMerge.Proofs.Json.Numeral
import ReportMerge.Proofs.Json.Text

namespace ReportMerge.Json.Token

open Numeral (EndsNumeral)
open ReportMerge.Text (NoneAhead)

inductive Lexeme : List Char → Token → Prop
  | mark {char : Char} {token : Token} : ofChar? char = some token → Lexeme [char] token
  | null : Lexeme ['n', 'u', 'l', 'l'] .null
  | yes : Lexeme ['t', 'r', 'u', 'e'] (.flag true)
  | no : Lexeme ['f', 'a', 'l', 's', 'e'] (.flag false)
  | text {chars : List Char} {pieces : List Text.Piece} : Text.Spelling chars pieces →
      Lexeme ('"' :: (chars ++ ['"'])) (.text ((Text.decode pieces).map String.ofList))
  | number {chars : List Char} {numeral : Numeral} : Numeral.Spelled chars numeral →
      Lexeme chars (.number numeral)

def Ends : Token → List Char → Prop
  | .number _, rest => EndsNumeral rest
  | _, _ => True

/-- A text as the tokens that are written in it, with any blanks between them. -/
inductive Written : List Char → List Token → Prop
  | done : Written [] []
  | blank {char : Char} {chars : List Char} {tokens : List Token} : isBlank char = true →
      Written chars tokens → Written (char :: chars) tokens
  | token {lexeme chars : List Char} {token : Token} {tokens : List Token} :
      Lexeme lexeme token → Ends token chars → Written chars tokens →
      Written (lexeme ++ chars) (token :: tokens)

theorem scan_nil : scan [] = [] := by
  rw [scan]

theorem scan_blank {char : Char} (blank : isBlank char = true) (rest : List Char) :
    scan (char :: rest) = scan rest := by
  rw [scan, if_pos blank]

theorem isBlank_of_ofChar? {char : Char} {token : Token} (mark : ofChar? char = some token) :
    isBlank char = false := by
  unfold ofChar? at mark
  split at mark
  · rfl
  · rfl
  · rfl
  · rfl
  · rfl
  · rfl
  · cases mark

theorem scan_mark {char : Char} {token : Token} (mark : ofChar? char = some token)
    (rest : List Char) : scan (char :: rest) = token :: scan rest := by
  rw [scan, isBlank_of_ofChar? mark]
  simp only [Bool.false_eq_true, if_false, mark]

theorem scan_long {char : Char} {rest after : List Char} {token : Token}
    (solid : isBlank char = false) (noMark : ofChar? char = none)
    (scanned : scanLong (char :: rest) = some (token, after)) :
    scan (char :: rest) = token :: scan after := by
  rw [scan, solid]
  simp only [Bool.false_eq_true, if_false, noMark]
  split
  · rename_i found
    rw [scanned] at found
    cases found
    rfl
  · rename_i found
    rw [scanned] at found
    cases found

theorem scan_number {chars rest : List Char} {numeral : Numeral}
    (spelled : Numeral.Spelled chars numeral) (ends : EndsNumeral rest) :
    scan (chars ++ rest) = .number numeral :: scan rest := by
  have found := Numeral.scan_append spelled ends
  obtain ⟨first, others, rfl, starts⟩ := spelled.exists_first
  rw [List.cons_append] at found ⊢
  have differs (other : Char) (noDigit : other.isDigit = false ∧ other ≠ '-') : first ≠ other := by
    rintro rfl
    obtain isDigit | rfl := starts
    · rw [noDigit.1] at isDigit
      cases isDigit
    · exact noDigit.2 rfl
  have solid : isBlank first = false := by
    simp [isBlank, differs ' ' (by decide), differs '\t' (by decide), differs '\n' (by decide),
      differs '\r' (by decide)]
  have noMark : ofChar? first = none := by
    unfold ofChar?
    split
    all_goals first | rfl | exact absurd rfl (differs _ (by decide))
  have scanned : scanLong (first :: (others ++ rest)) = some (.number numeral, rest) := by
    rw [scanLong, found]
    · rfl
    · intro after same
      exact differs '"' (by decide) (List.cons.inj same).1
    · intro after same
      exact differs 'n' (by decide) (List.cons.inj same).1
    · intro after same
      exact differs 't' (by decide) (List.cons.inj same).1
    · intro after same
      exact differs 'f' (by decide) (List.cons.inj same).1
  exact scan_long solid noMark scanned

theorem scan_lexeme {lexeme rest : List Char} {token : Token} (single : Lexeme lexeme token)
    (ends : Ends token rest) : scan (lexeme ++ rest) = token :: scan rest := by
  cases single with
  | mark mark => exact scan_mark mark rest
  | null => exact scan_long rfl rfl rfl
  | yes => exact scan_long rfl rfl rfl
  | no => exact scan_long rfl rfl rfl
  | text spelling =>
      rw [List.cons_append, List.append_assoc]
      apply scan_long rfl rfl
      simp only [scanLong, List.singleton_append, Text.scan_append spelling, Option.map_some]
  | number spelled => exact scan_number spelled ends

theorem Written.scan_eq {chars : List Char} {tokens : List Token} (written : Written chars tokens) :
    scan chars = tokens := by
  induction written with
  | done => exact scan_nil
  | blank blank _ ih => rw [scan_blank blank, ih]
  | token single ends _ ih => rw [scan_lexeme single ends, ih]

/-! ### What was written -/

theorem exists_of_scanWord {word input rest : List Char} {token found : Token}
    (scanned : scanWord word token input = some (found, rest)) :
    found = token ∧ input = word ++ rest := by
  unfold scanWord at scanned
  split at scanned
  · rename_i starts
    obtain ⟨after, rfl⟩ := List.isPrefixOf_iff_prefix.mp starts
    rw [List.drop_left] at scanned
    cases scanned
    exact ⟨rfl, rfl⟩
  · cases scanned

theorem exists_of_scanLong {input rest : List Char} {token : Token}
    (scanned : scanLong input = some (token, rest)) :
    ∃ lexeme, Lexeme lexeme token ∧ input = lexeme ++ rest ∧
      ∀ numeral, token = .number numeral → NoneAhead Char.isDigit rest := by
  unfold scanLong at scanned
  split at scanned
  · obtain ⟨⟨pieces, after⟩, found, ⟨⟩⟩ := Option.map_eq_some_iff.mp scanned
    obtain ⟨chars, spelling, rfl⟩ := Text.exists_of_scan found
    refine ⟨_, .text spelling, ?_, nofun⟩
    rw [List.cons_append, List.append_assoc]
    rfl
  · obtain ⟨rfl, rfl⟩ := exists_of_scanWord scanned
    exact ⟨_, .null, rfl, nofun⟩
  · obtain ⟨rfl, rfl⟩ := exists_of_scanWord scanned
    exact ⟨_, .yes, rfl, nofun⟩
  · obtain ⟨rfl, rfl⟩ := exists_of_scanWord scanned
    exact ⟨_, .no, rfl, nofun⟩
  · obtain ⟨⟨numeral, after⟩, found, ⟨⟩⟩ := Option.map_eq_some_iff.mp scanned
    obtain ⟨chars, spelled, noDigit, rfl⟩ := Numeral.exists_of_scan found
    exact ⟨chars, .number spelled, rfl, fun _ _ => noDigit⟩

/-- No token starts with what carries a numeral on, digits apart. -/
theorem Written.endsNumeral {chars : List Char} {tokens : List Token}
    (written : Written chars tokens) (noDigit : NoneAhead Char.isDigit chars) :
    EndsNumeral chars := by
  cases written with
  | done => trivial
  | blank blank =>
      refine ⟨noDigit _ rfl, ?_, ?_, ?_⟩
      all_goals
        rintro rfl
        cases blank
  | token single =>
      cases single with
      | mark mark =>
          refine ⟨noDigit _ rfl, ?_, ?_, ?_⟩
          all_goals
            rintro rfl
            cases mark
      | null | yes | no | text => exact ⟨rfl, by decide, by decide, by decide⟩
      | number spelled =>
          obtain ⟨first, others, rfl, isDigit | rfl⟩ := spelled.exists_first
          · have nonDigit := noDigit first rfl
            rw [isDigit] at nonDigit
            cases nonDigit
          · exact ⟨rfl, by decide, by decide, by decide⟩

theorem ends_of_mark {char : Char} {token : Token} (mark : ofChar? char = some token)
    (rest : List Char) : Ends token rest := by
  unfold ofChar? at mark
  split at mark
  all_goals
    cases mark
    try trivial

theorem written_scan {chars : List Char} (sound : ∀ token ∈ scan chars, token ≠ .stray) :
    Written chars (scan chars) := by
  fun_induction scan chars with
  | case1 => exact .done
  | case2 char rest blank ih => exact .blank blank (ih sound)
  | case3 char rest _ token mark ih =>
      obtain ⟨-, others⟩ := List.forall_mem_cons.mp sound
      exact .token (.mark mark) (ends_of_mark mark rest) (ih others)
  | case4 char rest _ _ token after scanned ih =>
      obtain ⟨-, others⟩ := List.forall_mem_cons.mp sound
      have written := ih others
      obtain ⟨lexeme, single, same, noDigit⟩ := exists_of_scanLong scanned
      rw [same]
      refine .token single ?_ written
      -- The scanner stops a numeral where digits end; that nothing else carries it on shows only in
      -- what comes next.
      cases token with
      | number numeral => exact written.endsNumeral (noDigit numeral rfl)
      | _ => trivial
  | case5 => exact absurd rfl (sound .stray List.mem_cons_self)

/-- A text with one more blank where one token has ended and none has begun. -/
inductive Respaced : List Char → List Char → Prop
  | insert {front back : List Char} {first second : List Token} {char : Char} :
      Written front first → Written back second → Written (front ++ back) (first ++ second) →
      isBlank char = true → Respaced (front ++ back) (front ++ char :: back)

theorem endsNumeral_blank {char : Char} (blank : isBlank char = true) (rest : List Char) :
    EndsNumeral (char :: rest) := by
  simp only [isBlank, Bool.or_eq_true, beq_iff_eq] at blank
  obtain ((rfl | rfl) | rfl) | rfl := blank
  all_goals exact ⟨rfl, by decide, by decide, by decide⟩

theorem Ends.append_blank {token : Token} {front : List Char} (ends : Ends token front)
    {char : Char} (blank : isBlank char = true) (back : List Char) :
    Ends token (front ++ char :: back) := by
  cases token with
  | number numeral =>
      cases front with
      | nil => exact endsNumeral_blank blank back
      | cons next front => exact ends
  | _ => trivial

theorem Written.insert_blank {front back : List Char} {first second : List Token}
    (written : Written front first) {char : Char} (blank : isBlank char = true)
    (behind : Written back second) : Written (front ++ char :: back) (first ++ second) := by
  induction written with
  | done => exact .blank blank behind
  | blank earlier _ ih => exact .blank earlier ih
  | token single ends _ ih =>
      rw [List.append_assoc]
      exact .token single (ends.append_blank blank back) ih

theorem Respaced.written {chars others : List Char} {tokens : List Token}
    (respaced : Respaced chars others) (written : Written chars tokens) :
    Written others tokens := by
  cases respaced with
  | insert front back whole blank =>
      rw [← written.scan_eq, whole.scan_eq]
      exact front.insert_blank blank back

theorem lexeme_write (text : String) : Lexeme (Text.write text.toList) (.text (some text)) := by
  have lexeme := Lexeme.text (Text.spelling_written text.toList)
  rw [Text.decode_written, Option.map_some, String.ofList_toList] at lexeme
  exact lexeme

theorem lexeme_digits (number : Nat) :
    Lexeme (Nat.toDigits 10 number) (.number (.ofNat number)) :=
  .number (Numeral.spelled_toDigits number)

end ReportMerge.Json.Token
