/-
Filters that do nothing but name a threshold: a level in any case, or the word that
lets nothing pass. No letter has a meaning of its own in a filter, so such a text is
a single directive, and that directive decides about every line.
-/

import ReportMerge.Telemetry.Subscriber
import ReportMerge.Proofs.Text.Case
import Mathlib.Data.List.TakeWhile

namespace ReportMerge

/-- A character that is a part of a name wherever it stands in a filter. -/
structure Unmarked (char : Char) : Prop where
  notBlank : Text.isBlank char = false
  startsTarget : Directive.startsTarget char = true
  notDigit : char.isDigit = false
  notEquals : char ≠ '='
  notBracket : char ≠ '['
  notComma : char ≠ ','
  notPlus : char ≠ '+'

private theorem unmarkedLetters (number : Fin 128) :
    let char := Char.ofNat number.val
    char.isAlpha = true → Text.isBlank char = false ∧ Directive.startsTarget char = true ∧
      char.isDigit = false ∧ char ≠ '=' ∧ char ≠ '[' ∧ char ≠ ',' ∧ char ≠ '+' := by
  revert number
  decide +kernel

theorem unmarked_of_isAlpha {char : Char} (letter : char.isAlpha = true) : Unmarked char := by
  have checked := unmarkedLetters ⟨char.toNat, Text.toNat_lt_of_isAlpha letter⟩
  simp only [Char.ofNat_toNat] at checked
  obtain ⟨notBlank, startsTarget, notDigit, notEquals, notBracket, notComma, notPlus⟩ :=
    checked letter
  exact ⟨notBlank, startsTarget, notDigit, notEquals, notBracket, notComma, notPlus⟩

section

variable {text : List Char} (letters : ∀ char ∈ text, char.isAlpha = true)

include letters

theorem dropWhile_of_letters {test : Char → Bool}
    (fails : ∀ char : Char, char.isAlpha = true → test char = false) :
    text.dropWhile test = text := by
  cases text with
  | nil => rfl
  | cons first others =>
      rw [List.dropWhile_cons_of_neg]
      rw [fails first (letters first List.mem_cons_self)]
      exact Bool.false_ne_true

theorem Text.trim_of_letters : Text.trim text = text := by
  have solid (char : Char) (letter : char.isAlpha = true) : Text.isBlank char = false :=
    (unmarked_of_isAlpha letter).notBlank
  have back : ∀ char ∈ text.reverse, char.isAlpha = true := fun char member =>
    letters char (List.mem_reverse.mp member)
  unfold trim
  rw [dropWhile_of_letters letters solid, dropWhile_of_letters back solid, List.reverse_reverse]

theorem splitOn_of_letters : text.splitOn ',' = [text] := by
  apply List.splitOnP_eq_singleton
  intro char member
  exact beq_eq_false_iff_ne.mpr (unmarked_of_isAlpha (letters char member)).notComma

theorem Threshold.number?_of_letters (given : text ≠ []) : number? text = none := by
  unfold number?
  cases text with
  | nil => exact absurd rfl given
  | cons first others =>
      have unmarked := unmarked_of_isAlpha (letters first List.mem_cons_self)
      simp only
      split
      · rename_i same
        exact absurd (List.cons.inj same).1 unmarked.notPlus
      · simp [unmarked.notDigit]

theorem Directive.ofText_of_letters (given : text ≠ []) {threshold : Threshold}
    (named : Threshold.named? text = some threshold) :
    Directive.ofText text = .ok (.ofThreshold threshold) := by
  cases text with
  | nil => exact absurd rfl given
  | cons first others =>
      have unmarked := unmarked_of_isAlpha (letters first List.mem_cons_self)
      have noMark : (first :: others).dropWhile
          (fun char => !(char == '=' || char == '[')) = [] := by
        apply List.dropWhile_eq_nil_iff.mpr
        intro char member
        have plain := unmarked_of_isAlpha (letters char member)
        simp [plain.notEquals, plain.notBracket]
      simp only [ofText, Text.trim_of_letters letters, noMark, named]
      split
      · rename_i impossible
        cases impossible
      · rename_i same
        exact absurd (List.cons.inj same).1 unmarked.notBracket
      · rename_i same
        obtain ⟨rfl, -⟩ := List.cons.inj same
        rw [unmarked.startsTarget]
        rfl

end

def Threshold.NamedBy (threshold : Threshold) (text : String) : Prop :=
  (text.toLower, threshold) ∈ names

namespace Threshold.NamedBy

variable {threshold : Threshold} {text : String}

theorem of_toLower {name : String} (lower : text.toLower = name)
    (listed : (name, threshold) ∈ names) : threshold.NamedBy text := by
  subst name
  exact listed

variable (named : threshold.NamedBy text)

include named

theorem letters : ∀ char ∈ text.toList, char.isAlpha = true := by
  have lowerCase : ∀ entry ∈ names, entry.1.toList.all Char.isLower = true := by decide
  intro char member
  apply Text.isAlpha_of_isLower_toLower
  apply List.all_eq_true.mp (lowerCase _ named)
  rw [Text.toList_toLower]
  exact List.mem_map_of_mem member

theorem toList_ne_nil : text.toList ≠ [] := by
  have nonempty : ∀ entry ∈ names, entry.1 ≠ "" := by decide
  intro empty
  apply nonempty _ named
  apply String.toList_eq_nil_iff.mp
  rw [Text.toList_toLower, empty]
  rfl

theorem named? : Threshold.named? text.toList = some threshold := by
  have listed : ∀ entry ∈ names, names.lookup entry.1 = some entry.2 := by decide
  unfold Threshold.named?
  rw [number?_of_letters named.letters named.toList_ne_nil, String.ofList_toList]
  exact listed _ named

/-- The name of a threshold is the filter with that threshold for every line. -/
theorem filter_ofText : Filter.ofText text = .ok [.ofThreshold threshold] := by
  have pieces : [text.toList].filter (fun piece => !piece.isEmpty) = [text.toList] := by
    simpa using named.toList_ne_nil
  simp only [Filter.ofText, splitOn_of_letters named.letters, pieces, List.mapM_cons,
    Directive.ofText_of_letters named.letters named.toList_ne_nil named.named?]
  rfl

end Threshold.NamedBy

/-- A single threshold decides about every line. -/
theorem Filter.thresholdFor_ofThreshold (threshold : Threshold) (target : List Char)
    (fields : List (List Char)) :
    Filter.thresholdFor [.ofThreshold threshold] target fields = threshold := by
  have decides : (Directive.ofThreshold threshold).decides target fields = true := by
    cases target <;> rfl
  have deciding : [Directive.ofThreshold threshold].filter
      (fun directive => directive.decides target fields) = [.ofThreshold threshold] := by
    simp only [List.filter_cons, decides, if_true, List.filter_nil]
  unfold thresholdFor
  simp only [deciding]
  rfl

end ReportMerge
