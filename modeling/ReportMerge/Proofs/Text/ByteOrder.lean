/-
The order of texts. Texts are compared character by character; comparing the bytes
of their UTF-8 forms one by one gives the same answer, since of two characters the
later one has the later form and no form begins another.
-/

namespace ReportMerge.Text

def utf8 (text : String) : List UInt8 := text.toUTF8.data.toList

def codePoints (text : String) : List Nat := text.toList.map Char.toNat

/-- The lists agree up to a place at which both go on, the first one with the smaller item. -/
inductive Parts {β : Type} [LT β] : List β → List β → Prop
  | here {left right : β} (less : left < right) (lefts rights : List β) :
      Parts (left :: lefts) (right :: rights)
  | later (item : β) {lefts rights : List β} (parts : Parts lefts rights) :
      Parts (item :: lefts) (item :: rights)

namespace Parts

variable {β : Type} [LT β]

theorem append {left right : List β} (parts : Parts left right) (leftRest rightRest : List β) :
    Parts (left ++ leftRest) (right ++ rightRest) := by
  induction parts with
  | here less lefts rights => exact .here less (lefts ++ leftRest) (rights ++ rightRest)
  | later item _parts ih => exact .later item ih

theorem behind (front : List β) {left right : List β} (parts : Parts left right) :
    Parts (front ++ left) (front ++ right) := by
  induction front with
  | nil => exact parts
  | cons item front ih => exact .later item ih

theorem lt {left right : List β} (parts : Parts left right) : left < right := by
  induction parts with
  | here less lefts rights => exact List.Lex.rel less
  | later item _parts ih => exact List.Lex.cons ih

end Parts

/-- Lists written item by item keep their order, if the forms of different items part. -/
theorem flatMap_lt {α β : Type} [LT α] [LT β] {form : α → List β}
    (written : ∀ item, form item ≠ [])
    (parts : ∀ left right, left < right → Parts (form left) (form right)) {left right : List α}
    (less : left < right) : left.flatMap form < right.flatMap form := by
  induction less with
  | @nil item items =>
      obtain ⟨first, rest, whole⟩ := List.exists_cons_of_ne_nil (written item)
      rw [List.flatMap_cons, whole]
      exact List.Lex.nil
  | @cons item lefts rights _less ih =>
      rw [List.flatMap_cons, List.flatMap_cons]
      exact List.append_left_lt ih
  | @rel left lefts right rights less =>
      rw [List.flatMap_cons, List.flatMap_cons]
      exact ((parts left right less).append _ _).lt

/-! ### Characters in bytes

A form is a first byte, whose mark tells how many bytes follow, and these. Each
of them carries six bits of the code point, and the first byte carries the rest. -/

def utf8Form (mark : Nat) : Nat → Nat → List UInt8
  | 0, point => [.ofNat (mark + point)]
  | count + 1, point => utf8Form mark count (point / 64) ++ [.ofNat (0x80 + point % 64)]

/-- What the first byte carries of a code point. -/
def leading : Nat → Nat → Nat
  | 0, point => point
  | count + 1, point => leading count (point / 64)

theorem ofNat_lt_ofNat {left right : Nat} (less : left < right) (below : right < 256) :
    UInt8.ofNat left < UInt8.ofNat right := by
  rw [UInt8.lt_iff_toNat_lt, UInt8.toNat_ofNat', UInt8.toNat_ofNat']
  omega

theorem exists_utf8Form_eq_cons (mark count point : Nat) :
    ∃ rest, utf8Form mark count point = .ofNat (mark + leading count point) :: rest := by
  induction count generalizing point with
  | zero => exact ⟨[], rfl⟩
  | succ count ih =>
      obtain ⟨rest, whole⟩ := ih (point / 64)
      exact ⟨rest ++ [.ofNat (0x80 + point % 64)], by rw [utf8Form, whole]; rfl⟩

/-- Forms with different first bytes part there. -/
theorem parts_of_leading {mark otherMark count otherCount point other : Nat}
    (less : mark + leading count point < otherMark + leading otherCount other)
    (below : otherMark + leading otherCount other < 256) :
    Parts (utf8Form mark count point) (utf8Form otherMark otherCount other) := by
  obtain ⟨rest, whole⟩ := exists_utf8Form_eq_cons mark count point
  obtain ⟨otherRest, otherWhole⟩ := exists_utf8Form_eq_cons otherMark otherCount other
  rw [whole, otherWhole]
  exact .here (ofNat_lt_ofNat less below) rest otherRest

/-- Forms with one mark part at the first six bits in which the code points differ. -/
theorem parts_of_mark {mark count point other : Nat} (less : point < other)
    (below : mark + leading count other < 256) :
    Parts (utf8Form mark count point) (utf8Form mark count other) := by
  induction count generalizing point other with
  | zero => exact .here (ofNat_lt_ofNat (Nat.add_lt_add_left less mark) below) [] []
  | succ count ih =>
      rw [utf8Form, utf8Form]
      by_cases earlier : point / 64 < other / 64
      · exact (ih earlier below).append _ _
      · have same : point / 64 = other / 64 := by omega
        rw [same]
        have smaller : 0x80 + point % 64 < 0x80 + other % 64 := by omega
        have lastBelow : 0x80 + other % 64 < 256 := by omega
        exact .behind _ (.here (ofNat_lt_ofNat smaller lastBelow) [] [])

/-- The four kinds of forms and the code points that have them. -/
inductive Encodes (point : Nat) : List UInt8 → Prop
  | one (below : point < 0x80) : Encodes point (utf8Form 0 0 point)
  | two (least : 0x80 ≤ point) (below : point < 0x800) : Encodes point (utf8Form 0xC0 1 point)
  | three (least : 0x800 ≤ point) (below : point < 0x10000) : Encodes point (utf8Form 0xE0 2 point)
  | four (least : 0x10000 ≤ point) (below : point < 0x110000) :
      Encodes point (utf8Form 0xF0 3 point)

theorem toNat_lt (char : Char) : char.toNat < 0x110000 := by
  rcases char.valid with low | high
  · exact Nat.lt_trans low (by decide)
  · exact high.2

theorem encodes_char (char : Char) : Encodes char.toNat (String.utf8EncodeChar char) := by
  have valid := toNat_lt char
  change Encodes char.toNat
    (if char.toNat ≤ 0x7f then [.ofNat char.toNat]
    else if char.toNat ≤ 0x7ff then
      [.ofNat (char.toNat / 64 % 0x20 + 0xc0), .ofNat (char.toNat % 0x40 + 0x80)]
    else if char.toNat ≤ 0xffff then
      [.ofNat (char.toNat / 4096 % 0x10 + 0xe0), .ofNat (char.toNat / 64 % 0x40 + 0x80),
        .ofNat (char.toNat % 0x40 + 0x80)]
    else
      [.ofNat (char.toNat / 262144 % 0x08 + 0xf0), .ofNat (char.toNat / 4096 % 0x40 + 0x80),
        .ofNat (char.toNat / 64 % 0x40 + 0x80), .ofNat (char.toNat % 0x40 + 0x80)])
  generalize char.toNat = point at valid
  have last : point % 0x40 + 0x80 = 0x80 + point % 64 := Nat.add_comm _ _
  by_cases one : point ≤ 0x7f
  · have whole : Encodes point [.ofNat (0 + point)] := .one (by omega)
    rw [Nat.zero_add] at whole
    rw [if_pos one]
    exact whole
  · rw [if_neg one]
    by_cases two : point ≤ 0x7ff
    · have first : point / 64 % 0x20 + 0xc0 = 0xC0 + point / 64 := by omega
      rw [if_pos two, first, last]
      exact .two (by omega) (by omega)
    · rw [if_neg two]
      have third : point / 64 % 0x40 + 0x80 = 0x80 + point / 64 % 64 := Nat.add_comm _ _
      by_cases three : point ≤ 0xffff
      · have first : point / 4096 % 0x10 + 0xe0 = 0xE0 + point / 64 / 64 := by omega
        rw [if_pos three, first, third, last]
        exact .three (by omega) (by omega)
      · have first : point / 262144 % 0x08 + 0xf0 = 0xF0 + point / 64 / 64 / 64 := by omega
        have second : point / 4096 % 0x40 + 0x80 = 0x80 + point / 64 / 64 % 64 := by omega
        rw [if_neg three, first, second, third, last]
        exact .four (by omega) (by omega)

theorem Encodes.parts {point other : Nat} {left right : List UInt8}
    (leftEncodes : Encodes point left) (rightEncodes : Encodes other right) (less : point < other) :
    Parts left right := by
  -- Forms of one kind have one mark; of two kinds the first bytes tell which code point is smaller.
  cases leftEncodes with
  | one below =>
      cases rightEncodes with
      | one otherBelow => exact parts_of_mark less (by simp only [leading]; omega)
      | two otherLeast otherBelow | three otherLeast otherBelow | four otherLeast otherBelow =>
          exact parts_of_leading (by simp only [leading]; omega) (by simp only [leading]; omega)
  | two least below =>
      cases rightEncodes with
      | one otherBelow => omega
      | two otherLeast otherBelow => exact parts_of_mark less (by simp only [leading]; omega)
      | three otherLeast otherBelow | four otherLeast otherBelow =>
          exact parts_of_leading (by simp only [leading]; omega) (by simp only [leading]; omega)
  | three least below =>
      cases rightEncodes with
      | one otherBelow | two otherLeast otherBelow => omega
      | three otherLeast otherBelow => exact parts_of_mark less (by simp only [leading]; omega)
      | four otherLeast otherBelow =>
          exact parts_of_leading (by simp only [leading]; omega) (by simp only [leading]; omega)
  | four least below =>
      cases rightEncodes with
      | one otherBelow | two otherLeast otherBelow | three otherLeast otherBelow => omega
      | four otherLeast otherBelow => exact parts_of_mark less (by simp only [leading]; omega)

theorem utf8_eq_flatMap (text : String) :
    utf8 text = text.toList.flatMap String.utf8EncodeChar := by
  change text.toByteArray.data.toList = _
  rw [← String.utf8Encode_toList]
  exact List.toList_data_toByteArray

theorem codePoints_eq_flatMap (text : String) :
    codePoints text = text.toList.flatMap fun char => [char.toNat] :=
  List.map_eq_flatMap

theorem utf8_lt_of_lt {left right : String} (less : left < right) : utf8 left < utf8 right := by
  rw [utf8_eq_flatMap, utf8_eq_flatMap]
  refine flatMap_lt (fun char => String.utf8EncodeChar_ne_nil) ?_ (String.lt_iff.mp less)
  intro leftChar rightChar earlier
  exact (encodes_char leftChar).parts (encodes_char rightChar) earlier

theorem codePoints_lt_of_lt {left right : String} (less : left < right) :
    codePoints left < codePoints right := by
  rw [codePoints_eq_flatMap, codePoints_eq_flatMap]
  refine flatMap_lt (fun char => List.cons_ne_nil char.toNat []) ?_ (String.lt_iff.mp less)
  intro leftChar rightChar earlier
  have smaller : leftChar.toNat < rightChar.toNat := earlier
  exact .here smaller [] []

theorem compare_eq_lt_iff {left right : String} : compare left right = .lt ↔ left < right :=
  compareOfLessAndEq_eq_lt

/-- Texts stand in one line, so a form that keeps their order shows it. -/
theorem lt_iff_of_keeps {β : Type} [LT β] [Std.Asymm fun left right : β => left < right]
    {form : String → List β}
    (keeps : ∀ left right : String, left < right → form left < form right) {left right : String} :
    form left < form right ↔ left < right := by
  refine ⟨?_, keeps left right⟩
  intro less
  cases order : compare left right with
  | lt => exact compare_eq_lt_iff.mp order
  | eq =>
      have same : left = right := Std.LawfulEqOrd.eq_of_compare order
      subst right
      exact absurd less (List.lt_irrefl _)
  | gt =>
      have after : right < left := compare_eq_lt_iff.mp (Std.OrientedCmp.gt_iff_lt.mp order)
      exact absurd (keeps right left after) (List.lt_asymm less)

theorem utf8_lt_iff {left right : String} : utf8 left < utf8 right ↔ left < right :=
  lt_iff_of_keeps fun _left _right => utf8_lt_of_lt

theorem codePoints_lt_iff {left right : String} :
    codePoints left < codePoints right ↔ left < right :=
  lt_iff_of_keeps fun _left _right => codePoints_lt_of_lt

end ReportMerge.Text
