/-
The lines of a document as they are spelled: headers of single tables and single
names with plain values, between blank lines and comments. Single blanks may stand
around every mark. What spells some lines is read as exactly these lines.
-/

import ReportMerge.Toml.Line
import ReportMerge.Proofs.Toml.Numeral
import ReportMerge.Proofs.Toml.Token

namespace ReportMerge.Toml

/-- Values that hold no other values, apart from dates and fractions. -/
inductive Plain
  | whole (value : Int)
  | flag (value : Bool)
  | text (value : String)
  deriving DecidableEq

def Plain.tree : Plain → Tree
  | .whole value => .number (.whole value)
  | .flag value => .flag value
  | .text value => .text value

/-- The tokens that spell a plain value. Flags are words, and a plus is a token of its own. -/
inductive Plain.Spelling : Plain → List Token → Prop
  | text (chars : List Char) : Spelling (.text (String.ofList chars)) [.text chars false]
  | yes : Spelling (.flag true) [.word ['t', 'r', 'u', 'e']]
  | no : Spelling (.flag false) [.word ['f', 'a', 'l', 's', 'e']]
  | whole {word : List Char} {value : Int} : Numeral.Signed word value →
      Spelling (.whole value) [.word word]
  | plus {word : List Char} {value : Nat} : Numeral.Unsigned word value →
      value ≤ Int64.maxValue.toInt → Spelling (.whole value) [.plus, .word word]

inductive Gap : List Token → Prop
  | none : Gap []
  | blanks (single : Bool) : Gap [.blanks single]

/-- The rest of a line that holds nothing more, or a comment, and the tokens of the lines behind
it. -/
inductive LineEnds : List Token → List Token → Prop
  | last {gap : List Token} : Gap gap → LineEnds gap []
  | line {gap rest : List Token} : Gap gap → LineEnds (gap ++ .lineEnd :: rest) rest
  | lastComment {gap : List Token} : Gap gap → LineEnds (gap ++ [.comment]) []
  | comment {gap rest : List Token} : Gap gap →
      LineEnds (gap ++ .comment :: .lineEnd :: rest) rest

inductive Spells : List Token → List Line → Prop
  | done : Spells [] []
  | blank {tokens rest : List Token} {lines : List Line} : LineEnds tokens rest →
      Spells rest lines → Spells tokens lines
  | header {indent left right ending rest : List Token} {token : Token} {name : String}
      {lines : List Line} : Gap indent → Gap left → token.name? = some name → Gap right →
      LineEnds ending rest → Spells rest lines →
      Spells (indent ++ .openBracket :: (left ++ token :: (right ++ .closeBracket :: ending)))
        (.header false [name] :: lines)
  | entry {indent left right value ending rest : List Token} {token : Token} {name : String}
      {plain : Plain} {lines : List Line} : Gap indent → token.name? = some name → Gap left →
      Gap right → plain.Spelling value → LineEnds ending rest → Spells rest lines →
      Spells (indent ++ token :: (left ++ .equals :: (right ++ (value ++ ending))))
        (.entry [name] plain.tree :: lines)

def Token.isSolid : Token → Bool
  | .blanks _ | .comment | .lineEnd => false
  | _ => true

theorem Token.isSolid_of_name? {token : Token} {name : String} (named : token.name? = some name) :
    token.isSolid = true := by
  cases token with
  | lineEnd | blanks | comment => cases named
  | _ => rfl

namespace Gap

variable {gap : List Token} (blank : Gap gap) {token : Token} (solid : token.isSolid = true)
  (rest : List Token)

include blank solid

theorem skipBlanks_eq : Token.skipBlanks (gap ++ token :: rest) = token :: rest := by
  cases blank with
  | blanks => rfl
  | none =>
      cases token with
      | blanks => cases solid
      | _ => rfl

theorem skipLayout_eq : Token.skipLayout (gap ++ token :: rest) = token :: rest := by
  have kept : Token.skipLayout (token :: rest) = token :: rest := by
    cases token with
    | lineEnd | blanks | comment => cases solid
    | _ => rfl
  cases blank with
  | none => exact kept
  | blanks => exact kept

theorem path?_eq {named : Token} {name : String} (isName : named.name? = some name)
    (noPoint : token ≠ .point) :
    path? (named :: (gap ++ token :: rest)) = some ([name], gap ++ token :: rest) := by
  have single : path? (named :: (gap ++ token :: rest)) =
      (do return ([← named.name?], gap ++ token :: rest)) := by
    cases blank with
    | none =>
        cases token with
        | blanks => cases solid
        | point => exact absurd rfl noPoint
        | _ => rfl
    | blanks =>
        cases token with
        | point => exact absurd rfl noPoint
        | _ => rfl
  rw [single, isName]
  rfl

end Gap

namespace LineEnds

variable {tokens rest : List Token} (ends : LineEnds tokens rest)

include ends

theorem afterLine?_eq : Token.afterLine? tokens = some rest := by
  cases ends with
  | last blank | line blank | lastComment blank | comment blank => cases blank <;> rfl

theorem skipLayout_eq : Token.skipLayout tokens = Token.skipLayout rest := by
  cases ends with
  | last blank | line blank | lastComment blank | comment blank => cases blank <;> rfl

theorem length_le : rest.length ≤ tokens.length := by
  cases ends with
  | last blank => exact Nat.zero_le _
  | line blank => simp only [List.length_append, List.length_cons]; omega
  | lastComment blank => exact Nat.zero_le _
  | comment blank => simp only [List.length_append, List.length_cons]; omega

theorem head?_ne {token : Token} (solid : token.isSolid = true) : tokens.head? ≠ some token := by
  cases ends with
  | last blank | line blank | lastComment blank | comment blank =>
      cases blank <;> rintro ⟨⟩ <;> cases solid

end LineEnds

/-! ### Reading lines -/

theorem wordValue?_whole {word : List Char} {value : Int} (spelled : Numeral.Signed word value)
    {rest : List Token} (noPoint : rest.head? ≠ some .point) (noColon : rest.head? ≠ some .colon) :
    wordValue? word rest = some (.number (.whole value), rest) := by
  obtain ⟨startsNumber, noDate⟩ := spelled.starts
  unfold wordValue?
  rw [if_neg, if_neg, startsNumber, noDate]
  · simp only [Bool.not_true, Bool.false_eq_true, if_false]
    split
    · exact absurd rfl noColon
    · rw [spelled.number?_eq noPoint]
      rfl
  · rintro rfl
    cases startsNumber
  · rintro rfl
    cases startsNumber

theorem Plain.Spelling.value?_eq {plain : Plain} {value : List Token}
    (spelled : plain.Spelling value) {rest : List Token} (noPoint : rest.head? ≠ some .point)
    (noColon : rest.head? ≠ some .colon) {count : Nat} (enough : 0 < count) :
    value? count (value ++ rest) = some (plain.tree, rest) := by
  obtain ⟨count, rfl⟩ := Nat.exists_eq_add_one.mpr enough
  cases spelled with
  | text chars => rfl
  | yes => rfl
  | no => rfl
  | whole signed => exact wordValue?_whole signed noPoint noColon
  | plus unsigned bound =>
      change (Numeral.number? _ rest).map _ = _
      rw [unsigned.number?_eq bound noPoint]
      rfl

theorem Plain.Spelling.exists_first {plain : Plain} {value : List Token}
    (spelled : plain.Spelling value) :
    ∃ first others, value = first :: others ∧ first.isSolid = true := by
  cases spelled with
  | text | yes | no | whole | plus => exact ⟨_, _, rfl, rfl⟩

/-- Where no further bracket follows, a header is that of a single table. -/
theorem header?_of_path {tokens rest after : List Token} {path : List String}
    (single : tokens.head? ≠ some .openBracket)
    (named : path? (Token.skipBlanks tokens) = some (path, rest))
    (closed : Token.skipBlanks rest = .closeBracket :: after) :
    header? tokens = (Token.afterLine? after).map (.header false path, ·) := by
  cases tokens with
  | nil => cases named
  | cons token tokens =>
      cases token with
      | openBracket => exact absurd rfl single
      | _ =>
          simp only [header?, named, closed, Option.bind_eq_bind, Option.bind_some]
          cases Token.afterLine? after <;> rfl

theorem header?_eq {left right ending rest : List Token} {token : Token} {name : String}
    (leftGap : Gap left) (named : token.name? = some name) (rightGap : Gap right)
    (ends : LineEnds ending rest) :
    header? (left ++ token :: (right ++ .closeBracket :: ending)) =
      some (.header false [name], rest) := by
  have single : (left ++ token :: (right ++ .closeBracket :: ending)).head? ≠
      some .openBracket := by
    cases leftGap with
    | blanks => nofun
    | none =>
        rintro ⟨⟩
        cases named
  have closed : Token.skipBlanks (right ++ .closeBracket :: ending) = .closeBracket :: ending :=
    rightGap.skipBlanks_eq rfl ending
  rw [header?_of_path single ?_ closed, ends.afterLine?_eq]
  · rfl
  · rw [leftGap.skipBlanks_eq (Token.isSolid_of_name? named)]
    exact rightGap.path?_eq rfl _ named (by decide)

theorem entry?_eq {left right value ending rest : List Token} {token : Token} {name : String}
    {plain : Plain} (named : token.name? = some name) (leftGap : Gap left) (rightGap : Gap right)
    (spelled : plain.Spelling value) (ends : LineEnds ending rest) :
    entry? (token :: (left ++ .equals :: (right ++ (value ++ ending)))) =
      some (.entry [name] plain.tree, rest) := by
  have assigned : Token.skipBlanks (left ++ .equals :: (right ++ (value ++ ending))) =
      .equals :: (right ++ (value ++ ending)) := leftGap.skipBlanks_eq rfl _
  have skipped : Token.skipBlanks (right ++ (value ++ ending)) = value ++ ending := by
    obtain ⟨first, others, rfl, solid⟩ := spelled.exists_first
    exact rightGap.skipBlanks_eq solid _
  have enough : 0 < (right ++ (value ++ ending)).length := by
    obtain ⟨first, others, rfl, -⟩ := spelled.exists_first
    simp only [List.length_append, List.length_cons]
    omega
  have read := spelled.value?_eq (ends.head?_ne rfl) (ends.head?_ne rfl) enough
  unfold entry?
  rw [leftGap.path?_eq rfl _ named (by decide)]
  simp only [Option.bind_eq_bind, Option.bind_some, assigned, skipped, read, ends.afterLine?_eq]
  rfl

/-! ### Reading documents line by line -/

section

variable {count : Nat} {tokens inside rest : List Token} {line : Line}

theorem lines?_of_header (opened : Token.skipLayout tokens = .openBracket :: inside)
    (read : header? inside = some (line, rest)) :
    lines? (count + 1) tokens = (lines? count rest).map (line :: ·) := by
  rw [lines?, opened]
  simp only [read, Option.bind_eq_bind, Option.bind_some]
  cases lines? count rest <;> rfl

theorem lines?_of_entry {first : Token} (started : Token.skipLayout tokens = first :: inside)
    (noBracket : first ≠ .openBracket) (read : entry? (first :: inside) = some (line, rest)) :
    lines? (count + 1) tokens = (lines? count rest).map (line :: ·) := by
  rw [lines?, started]
  cases first with
  | openBracket => exact absurd rfl noBracket
  | _ =>
      simp only [read, Option.bind_eq_bind, Option.bind_some]
      cases lines? count rest <;> rfl

theorem lines?_of_layout {others : List Token}
    (same : Token.skipLayout tokens = Token.skipLayout others) :
    lines? count tokens = lines? count others := by
  cases count with
  | zero => rfl
  | succ count => rw [lines?, lines?, same]

end

/-- With enough steps for all tokens, exactly the lines that are spelled are read. -/
theorem Spells.lines?_eq {tokens : List Token} {lines : List Line} (spells : Spells tokens lines)
    {count : Nat} (enough : tokens.length < count) : lines? count tokens = some lines := by
  induction spells generalizing count with
  | done =>
      obtain ⟨count, rfl⟩ := Nat.exists_eq_add_one.mpr enough
      rfl
  | blank ends _ ih =>
      rw [lines?_of_layout ends.skipLayout_eq]
      exact ih (Nat.lt_of_le_of_lt ends.length_le enough)
  | header indented leftGap named rightGap ends _ ih =>
      have shorter := ends.length_le
      simp only [List.length_append, List.length_cons] at enough
      obtain ⟨count, rfl⟩ : ∃ before, count = before + 1 := Nat.exists_eq_add_one.mpr (by omega)
      rw [lines?_of_header (indented.skipLayout_eq rfl _) (header?_eq leftGap named rightGap ends),
        ih (by omega)]
      rfl
  | entry indented named leftGap rightGap spelled ends _ ih =>
      have shorter := ends.length_le
      simp only [List.length_append, List.length_cons] at enough
      obtain ⟨count, rfl⟩ : ∃ before, count = before + 1 := Nat.exists_eq_add_one.mpr (by omega)
      have started := indented.skipLayout_eq (Token.isSolid_of_name? named)
      rw [lines?_of_entry (started _) ?_ (entry?_eq named leftGap rightGap spelled ends),
        ih (by omega)]
      · rfl
      · rintro rfl
        cases named

end ReportMerge.Toml
