/-
Compact texts read back as documents. The compact text of a value is written as the
tokens of a document that mirrors the value, and from these the document grows
back. Of the numbers only the natural ones are followed here.
-/

import ReportMerge.Proofs.Json.Spelled

namespace ReportMerge.Json.Value

mutual

/-- The document that mirrors a value. A number that is not natural is not followed. -/
def document : Value → Document
  | .null => .null
  | .flag value => .flag value
  | .number (.whole (Int.ofNat natural)) => .number (Numeral.ofNat natural)
  | .number _ => .torn
  | .text value => .text (some value)
  | .array items => .array (itemDocuments items) .closed
  | .object members => .object (memberDocuments members) .closed

def itemDocuments : List Value → List Document
  | [] => []
  | item :: items => item.document :: itemDocuments items

def memberDocuments : List (String × Value) → List (Option String × Document)
  | [] => []
  | (name, value) :: members => (some name, value.document) :: memberDocuments members

end

theorem endsNumeral_moreItems (items : List Value) (rest : List Char) :
    Numeral.EndsNumeral (moreItems items ++ rest) := by
  cases items with
  | nil => exact ⟨rfl, by decide, by decide, by decide⟩
  | cons item items => exact ⟨rfl, by decide, by decide, by decide⟩

theorem endsNumeral_moreMembers (members : List (String × Value)) (rest : List Char) :
    Numeral.EndsNumeral (moreMembers members ++ rest) := by
  cases members with
  | nil => exact ⟨rfl, by decide, by decide, by decide⟩
  | cons member members => exact ⟨rfl, by decide, by decide, by decide⟩

open Token (Written Lexeme)

/-- A mark ends itself. -/
theorem written_mark {char : Char} {token : Token} (mark : Token.ofChar? char = some token)
    {rest : List Char} {tokens : List Token} (written : Written rest tokens) :
    Written (char :: rest) (token :: tokens) :=
  .token (.mark mark) (Token.ends_of_mark mark rest) written

/-- A member's name and its colon in front of its value. -/
theorem written_name (name : String) {rest : List Char} {tokens : List Token}
    (written : Written rest tokens) :
    Written (Text.write name.toList ++ ':' :: rest) (.text (some name) :: .colon :: tokens) :=
  .token (Token.lexeme_write name) trivial (written_mark rfl written)

mutual

theorem written_chars : (value : Value) → value.document.intact = true → {rest : List Char} →
    {tokens : List Token} → Numeral.EndsNumeral rest → Written rest tokens →
    Written (value.chars ++ rest) (value.document.tokens ++ tokens)
  | .null, _, _, _, _, written => .token .null trivial written
  | .flag true, _, _, _, _, written => .token .yes trivial written
  | .flag false, _, _, _, _, written => .token .no trivial written
  | .number (.whole (Int.ofNat natural)), _, _, _, ends, written => by
      have digits : (Value.number (.whole (Int.ofNat natural))).chars = Nat.toDigits 10 natural :=
        Nat.toList_repr
      rw [digits]
      exact .token (Token.lexeme_digits natural) ends written
  | .number (.whole (Int.negSucc _)), intact, _, _, _, _ => by cases intact
  | .number (.real _), intact, _, _, _, _ => by cases intact
  | .text value, _, _, _, _, written => .token (Token.lexeme_write value) trivial written
  | .array [], _, _, _, _, written => written_mark rfl (written_mark rfl written)
  | .array (item :: items), intact, rest, tokens, _, written => by
      obtain ⟨first, others⟩ := Bool.and_eq_true_iff.mp intact
      have itemWritten := written_chars item first (endsNumeral_moreItems items rest)
        (written_moreItems items others written)
      rw [← List.append_assoc, ← List.append_assoc] at itemWritten
      exact written_mark rfl itemWritten
  | .object [], _, _, _, _, written => written_mark rfl (written_mark rfl written)
  | .object ((name, value) :: members), intact, rest, tokens, _, written => by
      obtain ⟨first, others⟩ := Bool.and_eq_true_iff.mp intact
      have valueWritten := written_chars value first (endsNumeral_moreMembers members rest)
        (written_moreMembers members others written)
      have memberWritten := @written_mark '\x7b' _ rfl _ _ (written_name name valueWritten)
      simpa only [chars, document, memberDocuments, Document.tokens, List.append_assoc,
        List.cons_append] using memberWritten

theorem written_moreItems : (items : List Value) →
    Document.intactItems (itemDocuments items) = true → {rest : List Char} → {tokens : List Token} →
    Written rest tokens →
    Written (moreItems items ++ rest) (Document.moreItems (itemDocuments items) ++ tokens)
  | [], _, _, _, written => written_mark rfl written
  | item :: items, intact, rest, tokens, written => by
      obtain ⟨first, others⟩ := Bool.and_eq_true_iff.mp intact
      have itemWritten := written_chars item first (endsNumeral_moreItems items rest)
        (written_moreItems items others written)
      rw [← List.append_assoc, ← List.append_assoc] at itemWritten
      exact written_mark rfl itemWritten

theorem written_moreMembers : (members : List (String × Value)) →
    Document.intactMembers (memberDocuments members) = true → {rest : List Char} →
    {tokens : List Token} → Written rest tokens →
    Written (moreMembers members ++ rest) (Document.moreMembers (memberDocuments members) ++ tokens)
  | [], _, _, _, written => written_mark rfl written
  | (name, value) :: members, intact, rest, tokens, written => by
      obtain ⟨first, others⟩ := Bool.and_eq_true_iff.mp intact
      have valueWritten := written_chars value first (endsNumeral_moreMembers members rest)
        (written_moreMembers members others written)
      have memberWritten := @written_mark ',' _ rfl _ _ (written_name name valueWritten)
      simpa only [moreMembers, memberDocuments, Document.moreMembers, List.append_assoc,
        List.cons_append] using memberWritten

end

theorem spelledBy_compact {value : Value} (intact : value.document.intact = true) :
    value.document.SpelledBy value.compact := by
  have written := @written_chars value intact [] [] trivial .done
  rw [List.append_nil, List.append_nil] at written
  refine ⟨intact, ?_⟩
  rw [compact, String.toList_ofList]
  exact written

end ReportMerge.Json.Value
