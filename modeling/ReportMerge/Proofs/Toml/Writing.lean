/-
A text for every list of sections whose numbers fit. Names are bare where they can
be, texts stand between double quotes, and each entry has a line of its own.
-/

import ReportMerge.Proofs.Toml.Table

namespace ReportMerge.Toml

namespace Token

def write : Token → List Char
  | .lineEnd => ['\n']
  | .blanks _ => [' ']
  | .comment => ['#']
  | .equals => ['=']
  | .point => ['.']
  | .comma => [',']
  | .colon => [':']
  | .plus => ['+']
  | .openBrace => ['\x7b']
  | .closeBrace => ['\x7d']
  | .openBracket => ['[']
  | .closeBracket => [']']
  | .word chars => chars
  | .text chars _ => '"' :: (chars.flatMap Text.writeChar ++ ['"'])
  | .stray => []

/-- Tokens that are written: no comments, and texts on one line only. -/
def writable : Token → Bool
  | .blanks single => single
  | .word chars => !chars.isEmpty && chars.all isWordChar
  | .text _ multiline => !multiline
  | .comment | .stray => false
  | _ => true

/-- Two tokens that do not run into each other when nothing stands between them. -/
def apart : Token → Token → Bool
  | .word _, .word _ | .blanks _, .blanks _ | .text _ _, .text _ _ => false
  | _, _ => true

theorem exists_first_of_writable {chars : List Char} (written : (word chars).writable = true) :
    ∃ first others, chars = first :: others ∧ isWordChar first = true ∧
      ∀ char ∈ others, isWordChar char = true := by
  obtain ⟨nonempty, all⟩ := Bool.and_eq_true_iff.mp written
  cases chars with
  | nil => cases nonempty
  | cons first others =>
      obtain ⟨here, later⟩ := List.forall_mem_cons.mp (List.all_eq_true.mp all)
      exact ⟨first, others, rfl, here, later⟩

theorem lexeme_write {token : Token} (written : token.writable = true) :
    Lexeme token.write token := by
  cases token with
  | lineEnd => exact .lineFeed
  | blanks single =>
      obtain rfl : single = true := written
      exact .blanks rfl nofun
  | word chars =>
      obtain ⟨first, others, rfl, here, later⟩ := exists_first_of_writable written
      exact .word here later
  | text chars multiline =>
      obtain rfl : multiline = false := Bool.not_eq_true' _ ▸ written
      exact .text (Text.spelling_written chars)
  | comment | stray => cases written
  | _ => exact .mark rfl

theorem ends_write {first second : Token} (written : first.writable = true)
    (next : second.writable = true) (apart : first.apart second = true) (rest : List Char) :
    Ends first (second.write ++ rest) := by
  cases first with
  | blanks =>
      cases second with
      | blanks => cases apart
      | word chars =>
          obtain ⟨first, others, rfl, wordChar, -⟩ := exists_first_of_writable next
          rintro char ⟨⟩
          by_contra blank
          simp only [Text.isBlank, Bool.or_eq_true, beq_iff_eq, Bool.not_eq_false] at blank
          rcases blank with rfl | rfl
          · exact absurd wordChar (by decide)
          · exact absurd wordChar (by decide)
      | comment | stray => cases next
      | _ =>
          rintro char ⟨⟩
          rfl
  | comment => cases written
  | word =>
      cases second with
      | word => cases apart
      | comment | stray => cases next
      | _ =>
          rintro char ⟨⟩
          rfl
  | text =>
      intro _
      cases second with
      | text => cases apart
      | word chars =>
          obtain ⟨first, others, rfl, wordChar, -⟩ := exists_first_of_writable next
          rintro ⟨⟩
          exact absurd wordChar (by decide)
      | comment | stray => cases next
      | _ =>
          rintro ⟨⟩
  | _ => trivial

theorem ends_nil (token : Token) : Ends token [] := by
  cases token with
  | blanks | comment | word => rintro _ ⟨⟩
  | text => rintro _ ⟨⟩
  | _ => trivial

def writableList : List Token → Bool
  | [] => true
  | token :: tokens => token.writable && tokens.head?.all token.apart && writableList tokens

theorem writableList_cons {token : Token} {tokens : List Token} (here : token.writable = true)
    (apart : tokens.head?.all token.apart = true) (later : writableList tokens = true) :
    writableList (token :: tokens) = true := by
  rw [writableList, here, apart, later]
  rfl

theorem writableList_lineEnd {tokens : List Token} (later : writableList tokens = true) :
    writableList (.lineEnd :: tokens) = true := by
  cases tokens with
  | nil => rfl
  | cons => exact writableList_cons rfl rfl later

theorem written_write {tokens : List Token} (written : writableList tokens = true)
    {chars : List Char} (same : tokens.flatMap write = chars) : Written chars tokens := by
  subst same
  induction tokens with
  | nil => exact .done
  | cons first tokens ih =>
      simp only [writableList, Bool.and_eq_true] at written
      obtain ⟨⟨here, apart⟩, later⟩ := written
      refine .token (lexeme_write here) ?_ (ih later)
      cases tokens with
      | nil => exact ends_nil first
      | cons second tokens =>
          simp only [writableList, Bool.and_eq_true] at later
          exact ends_write here later.1.1 apart _

def ofName (name : String) : Token :=
  if (word name.toList).writable then word name.toList else text name.toList false

theorem writable_ofName (name : String) : (ofName name).writable = true := by
  unfold ofName
  split
  · assumption
  · rfl

theorem name?_ofName (name : String) : (ofName name).name? = some name := by
  unfold ofName
  split
  · exact congrArg some String.ofList_toList
  · exact congrArg some String.ofList_toList

theorem apart_ofName (name : String) :
    (ofName name).apart (.blanks true) = true ∧ (ofName name).apart .closeBracket = true := by
  unfold ofName
  split
  · exact ⟨rfl, rfl⟩
  · exact ⟨rfl, rfl⟩

end Token

namespace Plain

def token : Plain → Token
  | .whole value => .word (Numeral.writeWhole value)
  | .flag true => .word ['t', 'r', 'u', 'e']
  | .flag false => .word ['f', 'a', 'l', 's', 'e']
  | .text value => .text value.toList false

def Fits : Plain → Prop
  | .whole value => Int64.minValue.toInt ≤ value ∧ value ≤ Int64.maxValue.toInt
  | .flag _ | .text _ => True

instance (plain : Plain) : Decidable plain.Fits :=
  match plain with
  | .whole _ => inferInstanceAs (Decidable (_ ∧ _))
  | .flag _ | .text _ => .isTrue trivial

theorem spelling_token {plain : Plain} (fits : plain.Fits) : plain.Spelling [plain.token] := by
  cases plain with
  | whole value => exact .whole (Numeral.signed_writeWhole fits)
  | flag value =>
      cases value with
      | true => exact .yes
      | false => exact .no
  | text value =>
      have spelled := Spelling.text value.toList
      rwa [String.ofList_toList] at spelled

theorem writable_token (plain : Plain) : plain.token.writable = true := by
  cases plain with
  | whole value =>
      have digits : ∀ char ∈ Nat.toDigits 10 value.natAbs, Token.isWordChar char = true := by
        intro char member
        have isDigit := Json.Numeral.isDigit_of_mem_toDigits member
        simp [Token.isWordChar, Char.isAlphanum, isDigit]
      have whole : Numeral.writeWhole value ≠ [] ∧
          ∀ char ∈ Numeral.writeWhole value, Token.isWordChar char = true := by
        unfold Numeral.writeWhole
        split
        · exact ⟨List.cons_ne_nil _ _, List.forall_mem_cons.mpr ⟨rfl, digits⟩⟩
        · exact ⟨Nat.toDigits_ne_nil, digits⟩
      simpa [token, Token.writable] using whole
  | flag value => cases value <;> rfl
  | text value => rfl

theorem apart_token (plain : Plain) :
    (Token.blanks true).apart plain.token = true ∧ plain.token.apart .lineEnd = true := by
  cases plain with
  | whole | text => exact ⟨rfl, rfl⟩
  | flag value => cases value <;> exact ⟨rfl, rfl⟩

end Plain

/-! ### Documents -/

def headerTokens (name : String) : List Token :=
  [.openBracket, .ofName name, .closeBracket, .lineEnd]

def entryTokens (entry : String × Plain) : List Token :=
  [.ofName entry.1, .blanks true, .equals, .blanks true, entry.2.token, .lineEnd]

def tokensOf : List (String × Entries) → List Token
  | [] => []
  | (name, entries) :: sections =>
      headerTokens name ++ (entries.flatMap entryTokens ++ tokensOf sections)

def write (sections : List (String × Entries)) : String :=
  String.ofList ((tokensOf sections).flatMap Token.write)

section

variable {tokens : List Token} {lines : List Line}

theorem writableList_headerTokens (name : String) (later : Token.writableList tokens = true) :
    Token.writableList (headerTokens name ++ tokens) = true := by
  refine Token.writableList_cons rfl rfl ?_
  refine Token.writableList_cons (Token.writable_ofName name) (Token.apart_ofName name).2 ?_
  exact Token.writableList_cons rfl rfl (Token.writableList_lineEnd later)

theorem writableList_entryTokens (entry : String × Plain)
    (later : Token.writableList tokens = true) :
    Token.writableList (entryTokens entry ++ tokens) = true := by
  obtain ⟨front, back⟩ := entry.2.apart_token
  refine Token.writableList_cons (Token.writable_ofName entry.1) (Token.apart_ofName entry.1).1 ?_
  refine Token.writableList_cons rfl rfl ?_
  refine Token.writableList_cons rfl rfl ?_
  refine Token.writableList_cons rfl front ?_
  exact Token.writableList_cons entry.2.writable_token back (Token.writableList_lineEnd later)

theorem spells_headerTokens (name : String) (spells : Spells tokens lines) :
    Spells (headerTokens name ++ tokens) (.header false [name] :: lines) :=
  .header .none .none (Token.name?_ofName name) .none (.line .none) spells

theorem spells_entryTokens {name : String} {plain : Plain} (fits : plain.Fits)
    (spells : Spells tokens lines) :
    Spells (entryTokens (name, plain) ++ tokens) (.entry [name] plain.tree :: lines) :=
  .entry .none (Token.name?_ofName name) (.blanks true) (.blanks true)
    (Plain.spelling_token fits) (.line .none) spells

end

theorem writableList_tokensOf (sections : List (String × Entries)) :
    Token.writableList (tokensOf sections) = true := by
  induction sections with
  | nil => rfl
  | cons part sections ih =>
      obtain ⟨name, entries⟩ := part
      apply writableList_headerTokens
      induction entries with
      | nil => exact ih
      | cons entry entries inner =>
          rw [List.flatMap_cons, List.append_assoc]
          exact writableList_entryTokens entry inner

theorem spells_tokensOf {sections : List (String × Entries)}
    (fits : ∀ part ∈ sections, ∀ entry ∈ part.2, entry.2.Fits) :
    Spells (tokensOf sections) (linesOf sections) := by
  induction sections with
  | nil => exact .done
  | cons part sections ih =>
      obtain ⟨name, entries⟩ := part
      obtain ⟨here, later⟩ := List.forall_mem_cons.mp fits
      apply spells_headerTokens
      clear fits
      induction entries with
      | nil => exact ih later
      | cons entry entries inner =>
          obtain ⟨first, others⟩ := List.forall_mem_cons.mp here
          rw [List.flatMap_cons, List.append_assoc]
          exact spells_entryTokens first (inner others)

/-- Every list of sections whose numbers fit has a text. -/
theorem spelledBy_write {sections : List (String × Entries)}
    (fits : ∀ part ∈ sections, ∀ entry ∈ part.2, entry.2.Fits) :
    SpelledBy (write sections) sections := by
  refine ⟨tokensOf sections, ?_, spells_tokensOf fits⟩
  exact Token.written_write (writableList_tokensOf sections) String.toList_ofList.symm

end ReportMerge.Toml
