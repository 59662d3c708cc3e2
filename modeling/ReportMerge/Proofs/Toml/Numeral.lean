/-
Whole numbers as they are spelled in TOML: in base ten with a sign or without one,
or in another base behind its mark. Single underscores may part the digits. Within 64
bits what spells a whole number is read as that number, wherever no point follows.
-/

import ReportMerge.Toml.Numeral
import ReportMerge.Proofs.Json.Numeral

namespace ReportMerge.Toml.Numeral

inductive DigitRun (base : Nat) : List Char → List Char → Prop
  | last {digit : Char} : (Text.digitValue? base digit).isSome = true →
      DigitRun base [digit] [digit]
  | next {digit : Char} {chars digits : List Char} :
      (Text.digitValue? base digit).isSome = true → DigitRun base chars digits →
      DigitRun base (digit :: chars) (digit :: digits)
  | parted {digit : Char} {chars digits : List Char} :
      (Text.digitValue? base digit).isSome = true → DigitRun base chars digits →
      DigitRun base (digit :: '_' :: chars) (digit :: digits)

structure Decimal (chars digits : List Char) : Prop where
  run : DigitRun 10 chars digits
  zeroAlone : digits.head? = some '0' → digits = ['0']

inductive BaseMark : Char → Nat → Prop
  | sixteen : BaseMark 'x' 16
  | eight : BaseMark 'o' 8
  | two : BaseMark 'b' 2

inductive Unsigned : List Char → Nat → Prop
  | decimal {chars digits : List Char} : Decimal chars digits →
      Unsigned chars (digitsValue 10 digits)
  | marked {letter : Char} {base : Nat} {chars digits : List Char} : BaseMark letter base →
      DigitRun base chars digits → Unsigned ('0' :: letter :: chars) (digitsValue base digits)

/-- The words that spell a whole number. A plus sign is not a part of the word behind it. -/
inductive Signed : List Char → Int → Prop
  | unsigned {word : List Char} {value : Nat} : Unsigned word value →
      value ≤ Int64.maxValue.toInt → Signed word value
  | negative {chars digits : List Char} : Decimal chars digits →
      Int64.minValue.toInt ≤ -(digitsValue 10 digits : Int) →
      Signed ('-' :: chars) (-(digitsValue 10 digits : Int))

/-! ### Reading digits -/

theorem digitValue?_ten_of_isDigit {digit : Char} (isDigit : digit.isDigit = true) :
    Text.digitValue? 10 digit = some (digit.toNat - '0'.toNat) := by
  have small : digit.toNat - '0'.toNat < 10 := by
    simp only [Char.isDigit, Bool.and_eq_true, decide_eq_true_eq, UInt32.le_iff_toNat_le] at isDigit
    have high : digit.toNat ≤ 57 := isDigit.2
    change digit.toNat - 48 < 10
    omega
  simpa [Text.digitValue?, ReportMerge.Text.hexValue?, isDigit] using small

theorem digitValue?_ten_of_not_isDigit {char : Char} (noDigit : char.isDigit = false) :
    Text.digitValue? 10 char = none := by
  unfold Text.digitValue? ReportMerge.Text.hexValue?
  rw [if_neg (by simp [noDigit])]
  split
  · simp
  · split <;> simp

namespace DigitRun

variable {base : Nat} {chars digits : List Char} (run : DigitRun base chars digits)

include run

theorem not_mem {char : Char} (noDigit : Text.digitValue? base char = none)
    (notMark : char ≠ '_') : char ∉ chars := by
  have differs {digit : Char} (isDigit : (Text.digitValue? base digit).isSome = true) :
      char ≠ digit := by
    rintro rfl
    rw [noDigit] at isDigit
    cases isDigit
  induction run with
  | last isDigit => exact List.not_mem_cons_of_ne_of_not_mem (differs isDigit) List.not_mem_nil
  | next isDigit _ ih => exact List.not_mem_cons_of_ne_of_not_mem (differs isDigit) ih
  | parted isDigit _ ih =>
      exact List.not_mem_cons_of_ne_of_not_mem (differs isDigit)
        (List.not_mem_cons_of_ne_of_not_mem notMark ih)

theorem exists_first : ∃ first others, chars = first :: others ∧ digits.head? = some first ∧
    (Text.digitValue? base first).isSome = true := by
  cases run with
  | last isDigit => exact ⟨_, _, rfl, rfl, isDigit⟩
  | next isDigit => exact ⟨_, _, rfl, rfl, isDigit⟩
  | parted isDigit => exact ⟨_, _, rfl, rfl, isDigit⟩

end DigitRun

theorem splitDigits_digit {base : Nat} {digit : Char}
    (isDigit : (Text.digitValue? base digit).isSome = true) (chars : List Char) :
    splitDigits base (digit :: chars) =
      (splitDigits base chars).map fun (digits, after) => (digit :: digits, after) := by
  obtain ⟨value, known⟩ := Option.isSome_iff_exists.mp isDigit
  have notMark : digit ≠ '_' := by
    rintro rfl
    cases isDigit
  rw [splitDigits]
  · rw [known]
    cases splitDigits base chars <;> rfl
  · exact fun _ _ same => absurd same notMark
  · exact fun same => absurd same notMark

theorem splitDigits_underscore {base : Nat} {digit : Char}
    (isDigit : (Text.digitValue? base digit).isSome = true) (chars : List Char) :
    splitDigits base ('_' :: digit :: chars) = splitDigits base (digit :: chars) := by
  obtain ⟨value, known⟩ := Option.isSome_iff_exists.mp isDigit
  rw [splitDigits_digit isDigit, splitDigits, known]
  cases splitDigits base chars <;> rfl

theorem DigitRun.splitDigits_eq {base : Nat} {chars digits : List Char}
    (run : DigitRun base chars digits) : splitDigits base chars = some (digits, []) := by
  induction run with
  | last isDigit =>
      rw [splitDigits_digit isDigit]
      rfl
  | next isDigit _ ih =>
      rw [splitDigits_digit isDigit, ih]
      rfl
  | parted isDigit run ih =>
      obtain ⟨first, others, rfl, -, firstDigit⟩ := run.exists_first
      rw [splitDigits_digit isDigit, splitDigits_underscore firstDigit, ih]
      rfl

/-! ### Reading whole numbers -/

theorem permitted_digits {rule : DigitRule} {part : Part} (digits : List Char) :
    digits ≠ [] → (rule.leadingZeros = false → digits.head? = some '0' → digits = ['0']) →
    (match digits with
      | [] => none
      | '0' :: _ :: _ => if rule.leadingZeros then some part else none
      | _ => some part) = some part := by
  intro nonempty zeros
  split
  · exact absurd rfl nonempty
  · cases leading : rule.leadingZeros with
    | true => rfl
    | false => exact absurd (zeros leading rfl) (by simp)
  · rfl

/-- Behind its sign, if there is one, a part is nothing but digits. -/
theorem part?_of_run (rule : DigitRule) {chars digits : List Char}
    (run : DigitRun rule.base chars digits)
    (zeros : rule.leadingZeros = false → digits.head? = some '0' → digits = ['0']) :
    part? rule chars = some ⟨false, digits, []⟩ ∧
      (rule.signed = true → part? rule ('-' :: chars) = some ⟨true, digits, []⟩) := by
  obtain ⟨first, others, rfl, firstDigit, isDigit⟩ := run.exists_first
  have notMinus : first ≠ '-' := by
    rintro rfl
    cases isDigit
  have notMark : first ≠ '_' := by
    rintro rfl
    cases isDigit
  have nonempty : digits ≠ [] := by
    rintro rfl
    cases firstDigit
  constructor
  · unfold part?
    simp only [List.cons.injEq, notMinus, false_and, imp_self, implies_true, List.head?_cons,
      Option.some_beq_some, beq_iff_eq, notMark, ↓reduceIte, run.splitDigits_eq,
      Option.bind_eq_bind, Option.bind_some]
    exact permitted_digits digits nonempty zeros
  · intro signed
    unfold part?
    simp only [signed, ↓reduceIte, List.head?_cons, Option.some_beq_some, beq_iff_eq, notMark,
      run.splitDigits_eq, Option.bind_eq_bind, Option.bind_some]
    exact permitted_digits digits nonempty zeros

theorem whole?_of_part {rule : DigitRule} {word digits : List Char} {negative : Bool} {value : Int}
    (read : part? rule word = some ⟨negative, digits, []⟩)
    (means : value =
      if negative then -(digitsValue rule.base digits : Int) else digitsValue rule.base digits)
    (bounds : Int64.minValue.toInt ≤ value ∧ value ≤ Int64.maxValue.toInt) :
    whole? rule word = some value := by
  unfold whole?
  rw [read]
  subst means
  exact if_pos bounds

theorem minValue_le_natCast (number : Nat) : Int64.minValue.toInt ≤ (number : Int) :=
  Int.le_trans (by decide : Int64.minValue.toInt ≤ 0) (Int.natCast_nonneg number)

theorem Decimal.whole?_eq {chars digits : List Char} (decimal : Decimal chars digits)
    (bound : (digitsValue 10 digits : Int) ≤ Int64.maxValue.toInt) :
    whole? decimalRule chars = some (digitsValue 10 digits) := by
  have read := (part?_of_run decimalRule decimal.run fun _ => decimal.zeroAlone).1
  exact whole?_of_part read rfl ⟨minValue_le_natCast _, bound⟩

theorem Decimal.whole?_minus {chars digits : List Char} (decimal : Decimal chars digits)
    (bound : Int64.minValue.toInt ≤ -(digitsValue 10 digits : Int)) :
    whole? decimalRule ('-' :: chars) = some (-(digitsValue 10 digits : Int)) := by
  have read := (part?_of_run decimalRule decimal.run fun _ => decimal.zeroAlone).2 rfl
  have high : -(digitsValue 10 digits : Int) ≤ Int64.maxValue.toInt :=
    Int.le_trans (Int.neg_nonpos_of_nonneg (Int.natCast_nonneg _))
      (by decide : 0 ≤ Int64.maxValue.toInt)
  exact whole?_of_part read rfl ⟨bound, high⟩

theorem whole?_prefixed {base : Nat} {chars digits : List Char} (run : DigitRun base chars digits)
    (bound : (digitsValue base digits : Int) ≤ Int64.maxValue.toInt) :
    whole? (prefixedRule base) chars = some (digitsValue base digits) := by
  have read := (part?_of_run (prefixedRule base) run nofun).1
  exact whole?_of_part read rfl ⟨minValue_le_natCast _, bound⟩

/-- A word with none of the marks of other numbers is a whole number in base ten or none. -/
theorem number?_decimal {word : List Char} {tokens : List Token}
    (unmarked : 'x' ∉ word ∧ 'o' ∉ word ∧ 'b' ∉ word ∧ 'e' ∉ word ∧ 'E' ∉ word ∧ 'n' ∉ word)
    (noPoint : tokens.head? ≠ some .point) :
    number? word tokens = (whole? decimalRule word).map (.whole ·, tokens) := by
  obtain ⟨noX, noO, noB, noE, noBigE, noN⟩ := unmarked
  unfold number?
  split
  · simp at noX
  · simp at noO
  · simp at noB
  · rw [if_neg (by simp [noE, noBigE])]
    split
    · exact absurd rfl noPoint
    · exact absurd rfl noPoint
    · split
      · simp at noN
      · simp at noN
      · simp at noN
      · simp at noN
      · rfl

theorem Decimal.not_mem {chars digits : List Char} (decimal : Decimal chars digits) {char : Char}
    (noDigit : char.isDigit = false) (notMark : char ≠ '_') : char ∉ chars := by
  exact decimal.run.not_mem (digitValue?_ten_of_not_isDigit noDigit) notMark

theorem Decimal.number?_eq {chars digits : List Char} (decimal : Decimal chars digits)
    (bound : (digitsValue 10 digits : Int) ≤ Int64.maxValue.toInt) {tokens : List Token}
    (noPoint : tokens.head? ≠ some .point) :
    number? chars tokens = some (.whole (digitsValue 10 digits), tokens) := by
  have absent {char : Char} (noDigit : char.isDigit = false) (notMark : char ≠ '_') :=
    decimal.not_mem noDigit notMark
  rw [number?_decimal ⟨absent rfl (by decide), absent rfl (by decide), absent rfl (by decide),
    absent rfl (by decide), absent rfl (by decide), absent rfl (by decide)⟩ noPoint,
    decimal.whole?_eq bound]
  rfl

theorem Decimal.number?_minus {chars digits : List Char} (decimal : Decimal chars digits)
    (bound : Int64.minValue.toInt ≤ -(digitsValue 10 digits : Int)) {tokens : List Token}
    (noPoint : tokens.head? ≠ some .point) :
    number? ('-' :: chars) tokens = some (.whole (-(digitsValue 10 digits : Int)), tokens) := by
  have absent {char : Char} (noDigit : char.isDigit = false) (notMark : char ≠ '_')
      (notMinus : char ≠ '-') : char ∉ '-' :: chars :=
    List.not_mem_cons_of_ne_of_not_mem notMinus (decimal.not_mem noDigit notMark)
  rw [number?_decimal ⟨absent rfl (by decide) (by decide), absent rfl (by decide) (by decide),
    absent rfl (by decide) (by decide), absent rfl (by decide) (by decide),
    absent rfl (by decide) (by decide), absent rfl (by decide) (by decide)⟩ noPoint,
    decimal.whole?_minus bound]
  rfl

theorem Unsigned.number?_eq {word : List Char} {value : Nat} (spelled : Unsigned word value)
    (bound : (value : Int) ≤ Int64.maxValue.toInt) {tokens : List Token}
    (noPoint : tokens.head? ≠ some .point) :
    number? word tokens = some (.whole value, tokens) := by
  cases spelled with
  | decimal decimal => exact decimal.number?_eq bound noPoint
  | marked mark run =>
      have read := whole?_prefixed run bound
      cases mark with
      | sixteen => simp [number?, read]
      | eight => simp [number?, read]
      | two => simp [number?, read]

theorem Signed.number?_eq {word : List Char} {value : Int} (spelled : Signed word value)
    {tokens : List Token} (noPoint : tokens.head? ≠ some .point) :
    number? word tokens = some (.whole value, tokens) := by
  cases spelled with
  | unsigned spelled bound => exact spelled.number?_eq bound noPoint
  | negative decimal bound => exact decimal.number?_minus bound noPoint

theorem Unsigned.not_mem {word : List Char} {value : Nat} (spelled : Unsigned word value)
    {char : Char} (noDigit : ReportMerge.Text.hexValue? char = none)
    (notMark : char ∉ ['_', 'x', 'o', 'b']) : char ∉ word := by
  have noDigitAt (base : Nat) : Text.digitValue? base char = none := by
    unfold Text.digitValue?
    rw [noDigit]
    rfl
  obtain ⟨notUnderscore, notLetter⟩ := List.ne_and_not_mem_of_not_mem_cons notMark
  cases spelled with
  | decimal decimal => exact decimal.run.not_mem (noDigitAt _) notUnderscore
  | marked mark run =>
      have absent := run.not_mem (noDigitAt _) notUnderscore
      have notZero : char ≠ '0' := by
        rintro rfl
        cases noDigit
      cases mark <;> simp_all

theorem Unsigned.head_isDigit {word : List Char} {value : Nat} (spelled : Unsigned word value) :
    ∃ first others, word = first :: others ∧ first.isDigit = true := by
  cases spelled with
  | decimal decimal =>
      obtain ⟨first, others, rfl, -, known⟩ := decimal.run.exists_first
      refine ⟨first, others, rfl, ?_⟩
      by_contra noDigit
      rw [digitValue?_ten_of_not_isDigit (Bool.eq_false_iff.mpr noDigit)] at known
      cases known
  | marked => exact ⟨'0', _, rfl, rfl⟩

theorem startsDate_eq_false {word : List Char} (noHour : 'T' ∉ word ∧ 't' ∉ word)
    (noHyphen : '-' ∉ word.drop 1) : startsDate word = false := by
  rw [List.drop_one] at noHyphen
  simp [startsDate, noHour.1, noHour.2, noHyphen]

/-- A whole number starts like a number and not like a date. -/
theorem Signed.starts {word : List Char} {value : Int} (spelled : Signed word value) :
    startsNumber word = true ∧ startsDate word = false := by
  cases spelled with
  | unsigned spelled _ =>
      constructor
      · obtain ⟨first, others, rfl, isDigit⟩ := spelled.head_isDigit
        simp [startsNumber, isDigit]
      · have absent {char : Char} (noDigit : ReportMerge.Text.hexValue? char = none)
          (notMark : char ∉ ['_', 'x', 'o', 'b']) := spelled.not_mem noDigit notMark
        exact startsDate_eq_false ⟨absent rfl (by decide), absent rfl (by decide)⟩
          fun later => absent rfl (by decide) (List.mem_of_mem_drop later)
  | negative decimal _ =>
      constructor
      · simp [startsNumber]
      · have absent {char : Char} (noDigit : char.isDigit = false) (notMark : char ≠ '_') :=
          decimal.not_mem noDigit notMark
        refine startsDate_eq_false ⟨?_, ?_⟩ (absent rfl (by decide))
        · exact List.not_mem_cons_of_ne_of_not_mem (by decide) (absent rfl (by decide))
        · exact List.not_mem_cons_of_ne_of_not_mem (by decide) (absent rfl (by decide))

/-! ### A spelling of every whole number -/

theorem digitRun_of_isDigit {digits : List Char} (nonempty : digits ≠ [])
    (all : ∀ digit ∈ digits, digit.isDigit = true) : DigitRun 10 digits digits := by
  induction digits with
  | nil => exact absurd rfl nonempty
  | cons digit digits ih =>
      have isDigit : (Text.digitValue? 10 digit).isSome = true := by
        rw [digitValue?_ten_of_isDigit (all digit List.mem_cons_self)]
        rfl
      cases digits with
      | nil => exact .last isDigit
      | cons next digits =>
          exact .next isDigit (ih (List.cons_ne_nil _ _) fun digit later =>
            all digit (List.mem_cons_of_mem _ later))

theorem decimal_toDigits (number : Nat) :
    Decimal (Nat.toDigits 10 number) (Nat.toDigits 10 number) where
  run := digitRun_of_isDigit Nat.toDigits_ne_nil fun _ => Json.Numeral.isDigit_of_mem_toDigits
  zeroAlone leading := by
    rw [Json.Numeral.head?_toDigits_eq_zero leading]
    rfl

theorem digitsValue_toDigits (number : Nat) : digitsValue 10 (Nat.toDigits 10 number) = number := by
  have step {digits : List Char} (all : ∀ digit ∈ digits, digit.isDigit = true) (start : Nat) :
      digits.foldl (fun number digit => number * 10 + (Text.digitValue? 10 digit).getD 0) start =
        Nat.ofDigitChars 10 digits start := by
    induction digits generalizing start with
    | nil => rfl
    | cons digit digits ih =>
        rw [List.foldl_cons, ih fun digit later => all digit (List.mem_cons_of_mem _ later),
          digitValue?_ten_of_isDigit (all digit List.mem_cons_self), Nat.ofDigitChars_cons,
          Nat.mul_comm]
        rfl
  unfold digitsValue
  rw [step fun _ => Json.Numeral.isDigit_of_mem_toDigits, Nat.ofDigitChars_ten_toDigits]

def writeWhole (value : Int) : List Char :=
  if value < 0 then '-' :: Nat.toDigits 10 value.natAbs else Nat.toDigits 10 value.natAbs

theorem signed_writeWhole {value : Int}
    (fits : Int64.minValue.toInt ≤ value ∧ value ≤ Int64.maxValue.toInt) :
    Signed (writeWhole value) value := by
  have decimal := decimal_toDigits value.natAbs
  have means := digitsValue_toDigits value.natAbs
  unfold writeWhole
  split
  · rename_i negative
    have same : value = -(digitsValue 10 (Nat.toDigits 10 value.natAbs) : Int) := by
      rw [means]
      omega
    have spelled := Signed.negative decimal (same ▸ fits.1)
    rwa [← same] at spelled
  · rename_i nonnegative
    have same : value = (digitsValue 10 (Nat.toDigits 10 value.natAbs) : Int) := by
      rw [means]
      omega
    have spelled := Signed.unsigned (.decimal decimal) (same ▸ fits.2)
    rwa [← same] at spelled

end ReportMerge.Toml.Numeral
