/-
Letters and their case. Only the letters of ASCII have one, and a text in small
letters is the text of the small letters.
-/

import Mathlib.Data.List.Basic

namespace ReportMerge.Text

theorem toLower_of_not_isUpper {char : Char} (notUpper : ¬char.isUpper = true) :
    char.toLower = char := by
  have outside : ¬(char.val ≥ 'A'.val ∧ char.val ≤ 'Z'.val) := mt decide_eq_true notUpper
  exact dif_neg outside

theorem isAlpha_of_isLower_toLower {char : Char} (lower : char.toLower.isLower = true) :
    char.isAlpha = true := by
  change (char.isUpper || char.isLower) = true
  by_cases upper : char.isUpper = true
  · rw [upper, Bool.true_or]
  · rw [← toLower_of_not_isUpper upper, lower, Bool.or_true]

theorem toNat_lt_of_isAlpha {char : Char} (letter : char.isAlpha = true) : char.toNat < 128 := by
  rcases Bool.or_eq_true_iff.mp letter with upper | lower
  · have high : char.toNat ≤ 'Z'.toNat := (of_decide_eq_true upper).2
    exact Nat.lt_of_le_of_lt high (by decide)
  · have high : char.toNat ≤ 'z'.toNat := of_decide_eq_true (Bool.and_eq_true_iff.mp lower).2
    exact Nat.lt_of_le_of_lt high (by decide)

theorem toList_toLower (text : String) : text.toLower.toList = text.toList.map Char.toLower :=
  String.toList_map

theorem toLower_eq_of_map {text lower : String}
    (same : text.toList.map Char.toLower = lower.toList) : text.toLower = lower := by
  rw [← String.toList_inj, toList_toLower]
  exact same

end ReportMerge.Text
