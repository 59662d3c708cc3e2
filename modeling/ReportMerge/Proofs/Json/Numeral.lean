/-
Numerals as a grammar. What spells a numeral is scanned as that numeral, as long as
nothing follows that would carry it on, and whatever is scanned was spelled. The
decimal digits of a number that fits in 64 bits spell a numeral that stands for it.
-/

import ReportMerge.Json.Numeral
import ReportMerge.Proofs.Text.Runs
import Mathlib.Data.List.Basic

namespace ReportMerge.Json.Numeral

open ReportMerge.Text (NoneAhead takeWhile_append dropWhile_append noneAhead_dropWhile)

structure Digits (run : List Char) : Prop where
  nonempty : run ≠ []
  all : ∀ digit ∈ run, digit.isDigit = true

structure WholePart (run : List Char) : Prop extends Digits run where
  zeroAlone : run.head? = some '0' → run = ['0']

inductive FractionPart : List Char → List Char → Prop
  | missing : FractionPart [] []
  | given {run : List Char} : Digits run → FractionPart ('.' :: run) run

inductive ExponentSign : List Char → Bool → Prop
  | missing : ExponentSign [] false
  | plus : ExponentSign ['+'] false
  | minus : ExponentSign ['-'] true

def exponentOf (negative : Bool) (run : List Char) : Int :=
  if negative then -(Nat.ofDigitChars 10 run 0) else Nat.ofDigitChars 10 run 0

inductive ExponentPart : List Char → Option Int → Prop
  | missing : ExponentPart [] none
  | given {mark : Char} {sign run : List Char} {negative : Bool} : mark = 'e' ∨ mark = 'E' →
      ExponentSign sign negative → Digits run →
      ExponentPart (mark :: (sign ++ run)) (some (exponentOf negative run))

inductive Unsigned (negative : Bool) : List Char → Numeral → Prop
  | parts {whole point fraction power : List Char} {exponent : Option Int} : WholePart whole →
      FractionPart point fraction → ExponentPart power exponent →
      Unsigned negative (whole ++ (point ++ power)) ⟨negative, whole, fraction, exponent⟩

inductive Spelled : List Char → Numeral → Prop
  | positive {chars : List Char} {numeral : Numeral} : Unsigned false chars numeral →
      Spelled chars numeral
  | negative {chars : List Char} {numeral : Numeral} : Unsigned true chars numeral →
      Spelled ('-' :: chars) numeral

/-! ### Scanning what the grammar spells -/

def EndsNumeral : List Char → Prop
  | [] => True
  | char :: _ => char.isDigit = false ∧ char ≠ '.' ∧ char ≠ 'e' ∧ char ≠ 'E'

theorem EndsNumeral.noDigitAhead {rest : List Char} (ends : EndsNumeral rest) :
    NoneAhead Char.isDigit rest := by
  rintro char ahead
  obtain ⟨others, rfl⟩ := List.head?_eq_some_iff.mp ahead
  exact ends.1

theorem scanDigits_eq_some_iff {text run rest : List Char} :
    scanDigits text = some (run, rest) ↔
      Digits run ∧ NoneAhead Char.isDigit rest ∧ text = run ++ rest := by
  constructor
  · intro scanned
    unfold scanDigits at scanned
    split at scanned
    · cases scanned
    · rename_i nonempty
      cases scanned
      refine ⟨⟨nonempty, fun digit => ?_⟩, noneAhead_dropWhile _ _, ?_⟩
      · exact List.mem_takeWhile_imp
      · exact List.takeWhile_append_dropWhile.symm
  · rintro ⟨digits, noDigit, rfl⟩
    unfold scanDigits
    rw [takeWhile_append digits.all noDigit, dropWhile_append digits.all noDigit]
    cases run with
    | nil => exact absurd rfl digits.nonempty
    | cons digit run => rfl

theorem scanWhole_eq_some_iff {text whole rest : List Char} :
    scanWhole text = some (whole, rest) ↔
      WholePart whole ∧ NoneAhead Char.isDigit rest ∧ text = whole ++ rest := by
  constructor
  · intro scanned
    unfold scanWhole at scanned
    split at scanned
    · cases scanned
    · rename_i alone
      obtain ⟨digits, noDigit, same⟩ := scanDigits_eq_some_iff.mp scanned
      refine ⟨⟨digits, fun leading => ?_⟩, noDigit, same⟩
      obtain ⟨others, rfl⟩ := List.head?_eq_some_iff.mp leading
      cases others with
      | nil => rfl
      | cons second others => exact absurd scanned (alone second others rest)
  · rintro ⟨part, noDigit, rfl⟩
    unfold scanWhole
    rw [scanDigits_eq_some_iff.mpr ⟨part.toDigits, noDigit, rfl⟩]
    split
    · rename_i second others after same
      cases same
      cases part.zeroAlone rfl
    · rfl

theorem scanFraction_append {point fraction rest : List Char}
    (spelled : FractionPart point fraction) (noDigit : NoneAhead Char.isDigit rest)
    (noPoint : ∀ char ∈ rest.head?, char ≠ '.') :
    scanFraction (point ++ rest) = some (fraction, rest) := by
  cases spelled with
  | missing =>
      rw [List.nil_append]
      unfold scanFraction
      split
      · exact absurd rfl (noPoint _ rfl)
      · rfl
  | given digits => exact scanDigits_eq_some_iff.mpr ⟨digits, noDigit, rfl⟩

theorem exists_of_scanFraction {text fraction rest : List Char}
    (scanned : scanFraction text = some (fraction, rest)) (noDigit : NoneAhead Char.isDigit text) :
    ∃ point, FractionPart point fraction ∧ NoneAhead Char.isDigit rest ∧ text = point ++ rest := by
  unfold scanFraction at scanned
  split at scanned
  · obtain ⟨digits, noDigitAfter, rfl⟩ := scanDigits_eq_some_iff.mp scanned
    exact ⟨_, .given digits, noDigitAfter, rfl⟩
  · cases scanned
    exact ⟨[], .missing, noDigit, rfl⟩

theorem scanExponentDigits_eq_some_iff {negative : Bool} {text rest : List Char}
    {exponent : Option Int} :
    scanExponentDigits negative text = some (exponent, rest) ↔
      ∃ run, Digits run ∧ NoneAhead Char.isDigit rest ∧ text = run ++ rest ∧
        exponent = some (exponentOf negative run) := by
  simp only [scanExponentDigits, Option.map_eq_some_iff, Prod.exists, scanDigits_eq_some_iff,
    Prod.mk.injEq]
  constructor
  · rintro ⟨run, _, ⟨digits, noDigit, whole⟩, rfl, rfl⟩
    exact ⟨run, digits, noDigit, whole, rfl⟩
  · rintro ⟨run, digits, noDigit, whole, rfl⟩
    exact ⟨run, rest, ⟨digits, noDigit, whole⟩, rfl, rfl⟩

theorem scanExponent_signed {mark : Char} (isMark : mark = 'e' ∨ mark = 'E') {sign : List Char}
    {negative : Bool} (signed : ExponentSign sign negative) {run : List Char} (digits : Digits run)
    (rest : List Char) :
    scanExponent (mark :: (sign ++ run ++ rest)) = scanExponentDigits negative (run ++ rest) := by
  cases signed with
  | missing =>
      obtain ⟨first, others, rfl⟩ := List.exists_cons_of_ne_nil digits.nonempty
      have isDigit := digits.all first List.mem_cons_self
      rw [List.nil_append]
      obtain rfl | rfl := isMark
      all_goals
        simp only [scanExponent]
        split
        · rename_i same
          cases same
          cases isDigit
        · rename_i same
          cases same
          cases isDigit
        · rfl
  | plus => obtain rfl | rfl := isMark <;> rfl
  | minus => obtain rfl | rfl := isMark <;> rfl

theorem scanExponent_append {power rest : List Char} {exponent : Option Int}
    (spelled : ExponentPart power exponent) (ends : EndsNumeral rest) :
    scanExponent (power ++ rest) = some (exponent, rest) := by
  cases spelled with
  | missing =>
      rw [List.nil_append]
      unfold scanExponent
      split
      · exact absurd rfl ends.2.2.1
      · exact absurd rfl ends.2.2.2
      · rfl
  | given isMark signed digits =>
      rw [List.cons_append, scanExponent_signed isMark signed digits]
      exact scanExponentDigits_eq_some_iff.mpr ⟨_, digits, ends.noDigitAhead, rfl, rfl⟩

theorem exists_of_scanExponent {text rest : List Char} {exponent : Option Int}
    (scanned : scanExponent text = some (exponent, rest)) (noDigit : NoneAhead Char.isDigit text) :
    ∃ power, ExponentPart power exponent ∧ NoneAhead Char.isDigit rest ∧ text = power ++ rest := by
  have given {mark : Char} (isMark : mark = 'e' ∨ mark = 'E') {sign after : List Char}
      {negative : Bool} (signed : ExponentSign sign negative)
      (found : scanExponentDigits negative after = some (exponent, rest)) :
      ∃ power, ExponentPart power exponent ∧ NoneAhead Char.isDigit rest ∧
        mark :: (sign ++ after) = power ++ rest := by
    obtain ⟨run, digits, noDigitAfter, rfl, rfl⟩ := scanExponentDigits_eq_some_iff.mp found
    refine ⟨_, .given isMark signed digits, noDigitAfter, ?_⟩
    rw [List.cons_append, List.append_assoc]
  unfold scanExponent at scanned
  split at scanned
  · split at scanned
    · exact given (.inl rfl) .plus scanned
    · exact given (.inl rfl) .minus scanned
    · exact given (.inl rfl) .missing scanned
  · split at scanned
    · exact given (.inr rfl) .plus scanned
    · exact given (.inr rfl) .minus scanned
    · exact given (.inr rfl) .missing scanned
  · cases scanned
    exact ⟨[], .missing, noDigit, rfl⟩

/-! ### Whole numerals -/

theorem FractionPart.noDigitAhead {point fraction rest : List Char}
    (spelled : FractionPart point fraction) (noDigit : NoneAhead Char.isDigit rest) :
    NoneAhead Char.isDigit (point ++ rest) := by
  cases spelled with
  | missing => exact noDigit
  | given digits =>
      rintro char ⟨⟩
      rfl

theorem ExponentPart.ahead {power rest : List Char} {exponent : Option Int}
    (spelled : ExponentPart power exponent) (ends : EndsNumeral rest) :
    ∀ char ∈ (power ++ rest).head?, char.isDigit = false ∧ char ≠ '.' := by
  cases spelled with
  | missing =>
      intro char ahead
      obtain ⟨others, rfl⟩ := List.head?_eq_some_iff.mp ahead
      exact ⟨ends.1, ends.2.1⟩
  | given isMark signed digits =>
      rintro char ⟨⟩
      obtain rfl | rfl := isMark
      · exact ⟨rfl, by decide⟩
      · exact ⟨rfl, by decide⟩

theorem scanUnsigned_append {negative : Bool} {chars rest : List Char} {numeral : Numeral}
    (spelled : Unsigned negative chars numeral) (ends : EndsNumeral rest) :
    scanUnsigned negative (chars ++ rest) = some (numeral, rest) := by
  obtain ⟨whole, fraction, exponent⟩ := spelled
  rename_i wholeChars point fractionChars power exponent
  have afterPoint := exponent.ahead ends
  have noDigit : NoneAhead Char.isDigit (power ++ rest) := fun char ahead =>
    (afterPoint char ahead).1
  have noPoint := fun char ahead => (afterPoint char ahead).2
  unfold scanUnsigned
  rw [List.append_assoc, List.append_assoc,
    scanWhole_eq_some_iff.mpr ⟨whole, fraction.noDigitAhead noDigit, rfl⟩]
  simp only [Option.bind_eq_bind, Option.bind_some, scanFraction_append fraction noDigit noPoint,
    scanExponent_append exponent ends]
  rfl

theorem exists_of_scanUnsigned {negative : Bool} {text rest : List Char} {numeral : Numeral}
    (scanned : scanUnsigned negative text = some (numeral, rest)) :
    ∃ chars, Unsigned negative chars numeral ∧ NoneAhead Char.isDigit rest ∧
      text = chars ++ rest := by
  simp only [scanUnsigned, Option.bind_eq_bind, Option.bind_eq_some_iff] at scanned
  obtain ⟨⟨whole, afterWhole⟩, foundWhole, ⟨fraction, afterFraction⟩, foundFraction,
    ⟨exponent, afterExponent⟩, foundExponent, ⟨⟩⟩ := scanned
  obtain ⟨wholePart, afterDigits, rfl⟩ := scanWhole_eq_some_iff.mp foundWhole
  obtain ⟨point, fractionPart, afterPoint, rfl⟩ := exists_of_scanFraction foundFraction afterDigits
  obtain ⟨power, exponentPart, afterPower, rfl⟩ := exists_of_scanExponent foundExponent afterPoint
  refine ⟨_, .parts wholePart fractionPart exponentPart, afterPower, ?_⟩
  simp only [List.append_assoc]

theorem Unsigned.exists_first {negative : Bool} {chars : List Char} {numeral : Numeral}
    (spelled : Unsigned negative chars numeral) :
    ∃ first others, chars = first :: others ∧ first.isDigit = true := by
  obtain ⟨whole, -, -⟩ := spelled
  obtain ⟨first, others, rfl⟩ := List.exists_cons_of_ne_nil whole.nonempty
  exact ⟨first, _, rfl, whole.all first List.mem_cons_self⟩

theorem Spelled.exists_first {chars : List Char} {numeral : Numeral}
    (spelled : Spelled chars numeral) :
    ∃ first others, chars = first :: others ∧ (first.isDigit = true ∨ first = '-') := by
  cases spelled with
  | positive spelled =>
      obtain ⟨first, others, same, isDigit⟩ := spelled.exists_first
      exact ⟨first, others, same, .inl isDigit⟩
  | negative spelled => exact ⟨'-', _, rfl, .inr rfl⟩

theorem scan_append {chars rest : List Char} {numeral : Numeral} (spelled : Spelled chars numeral)
    (ends : EndsNumeral rest) : scan (chars ++ rest) = some (numeral, rest) := by
  cases spelled with
  | positive spelled =>
      have scanned := scanUnsigned_append spelled ends
      obtain ⟨first, others, rfl, isDigit⟩ := spelled.exists_first
      unfold scan
      split
      · rename_i same
        cases same
        cases isDigit
      · exact scanned
  | negative spelled => exact scanUnsigned_append spelled ends

theorem exists_of_scan {text rest : List Char} {numeral : Numeral}
    (scanned : scan text = some (numeral, rest)) :
    ∃ chars, Spelled chars numeral ∧ NoneAhead Char.isDigit rest ∧ text = chars ++ rest := by
  unfold scan at scanned
  split at scanned
  · obtain ⟨chars, spelled, noDigit, rfl⟩ := exists_of_scanUnsigned scanned
    exact ⟨_, .negative spelled, noDigit, rfl⟩
  · obtain ⟨chars, spelled, noDigit, rfl⟩ := exists_of_scanUnsigned scanned
    exact ⟨chars, .positive spelled, noDigit, rfl⟩

/-! ### The digits of a number -/

def ofNat (number : Nat) : Numeral := ⟨false, Nat.toDigits 10 number, [], none⟩

theorem isDigit_of_mem_toDigits {number : Nat} {digit : Char}
    (member : digit ∈ Nat.toDigits 10 number) : digit.isDigit = true :=
  Nat.isDigit_of_mem_toDigits (by decide) (by decide) member

/-- Only the number zero is written with a zero in front. -/
theorem head?_toDigits_eq_zero {number : Nat}
    (leading : (Nat.toDigits 10 number).head? = some '0') : number = 0 := by
  induction number using Nat.strongRecOn with
  | ind number ih =>
      by_cases small : number < 10
      · rw [Nat.toDigits_of_lt_base small, List.head?_cons, Option.some.injEq,
          Nat.digitChar_eq_zero] at leading
        exact leading
      · have large : 10 ≤ number := Nat.not_lt.mp small
        rw [Nat.toDigits_of_base_le (by decide) large,
          List.head?_append_of_ne_nil _ Nat.toDigits_ne_nil] at leading
        have none := ih (number / 10) (by omega) leading
        omega

theorem spelled_toDigits (number : Nat) : Spelled (Nat.toDigits 10 number) (ofNat number) := by
  have whole : WholePart (Nat.toDigits 10 number) :=
    { nonempty := Nat.toDigits_ne_nil
      all := fun _ => isDigit_of_mem_toDigits
      zeroAlone := by
        intro leading
        rw [head?_toDigits_eq_zero leading]
        rfl }
  have spelled : Unsigned false (Nat.toDigits 10 number ++ ([] ++ [])) (ofNat number) :=
    .parts whole .missing .missing
  rw [List.append_nil, List.append_nil] at spelled
  exact .positive spelled

theorem le_ofDigitChars (digits : List Char) (start : Nat) :
    start ≤ Nat.ofDigitChars 10 digits start := by
  induction digits generalizing start with
  | nil => exact Nat.le_refl start
  | cons digit digits ih =>
      rw [Nat.ofDigitChars_cons]
      have later := ih (10 * start + (digit.toNat - '0'.toNat))
      omega

theorem foldl_addWhole (digits : List Char) (start : Nat)
    (fits : Nat.ofDigitChars 10 digits start < UInt64.size) :
    digits.foldl Gathered.addWhole ⟨start, 0, false⟩ =
      ⟨Nat.ofDigitChars 10 digits start, 0, false⟩ := by
  induction digits generalizing start with
  | nil => rfl
  | cons digit digits ih =>
      rw [Nat.ofDigitChars_cons, Nat.mul_comm] at fits ⊢
      -- No digit takes away what has been gathered, so every step fits if the last one does.
      have stepFits := Nat.lt_of_le_of_lt (le_ofDigitChars digits _) fits
      rw [List.foldl_cons, Gathered.addWhole_of_lt stepFits]
      exact ih _ fits

theorem number?_ofNat {number : Nat} (fits : number < UInt64.size) :
    (ofNat number).number? = some (.whole number) := by
  have gathered : (Nat.toDigits 10 number).foldl Gathered.addWhole ⟨0, 0, false⟩ =
      ⟨number, 0, false⟩ := by
    have whole := foldl_addWhole (Nat.toDigits 10 number) 0
    rw [Nat.ofDigitChars_ten_toDigits] at whole
    exact whole fits
  simp only [number?, ofNat, gathered, Bool.false_eq_true, if_false, Bool.not_false, if_true]

end ReportMerge.Json.Numeral
