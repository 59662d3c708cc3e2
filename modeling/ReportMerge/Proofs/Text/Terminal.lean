/-
Texts for terminals. A text is left alone exactly when none of its characters could
steer a terminal, and what stands for such a character could not steer one either.
-/

import ReportMerge.Text.Terminal
import Mathlib.Data.List.Basic

namespace ReportMerge.Text

def Harmless (char : Char) : Prop :=
  steersOldTerminals char = false ∧ isHighControl char = false

instance (char : Char) : Decidable (Harmless char) :=
  inferInstanceAs (Decidable (_ ∧ _))

theorem terminalChar_of_harmless {char : Char} (harmless : Harmless char) :
    terminalChar char = [char] := by
  unfold terminalChar
  rw [harmless.1, harmless.2]
  rfl

theorem terminalChar_of_not_harmless {char : Char} (harmful : ¬Harmless char) :
    ∃ rest, terminalChar char = '\\' :: rest := by
  unfold terminalChar
  cases steers : steersOldTerminals char with
  | true => exact ⟨_, rfl⟩
  | false =>
      cases high : isHighControl char with
      | true => exact ⟨_, rfl⟩
      | false => exact absurd ⟨steers, high⟩ harmful

theorem flatMap_terminalChar_eq_self_iff {chars : List Char} :
    chars.flatMap terminalChar = chars ↔ ∀ char ∈ chars, Harmless char := by
  induction chars with
  | nil => exact iff_of_true rfl (List.forall_mem_nil _)
  | cons char rest ih =>
      rw [List.flatMap_cons, List.forall_mem_cons]
      by_cases harmless : Harmless char
      · rw [terminalChar_of_harmless harmless, and_iff_right harmless, ← ih,
          List.singleton_append, List.cons_inj_right]
      · refine iff_of_false ?_ fun both => harmless both.1
        obtain ⟨escape, written⟩ := terminalChar_of_not_harmless harmless
        rw [written, List.cons_append]
        intro same
        -- The escape would have to begin with the character itself, but a backslash is harmless.
        have first : '\\' = char := List.head_eq_of_cons_eq same
        subst first
        exact harmless (by decide)

theorem forTerminal_eq_self_iff {text : String} :
    forTerminal text = text ↔ ∀ char ∈ text.toList, Harmless char := by
  rw [← flatMap_terminalChar_eq_self_iff, ← String.toList_inj]
  unfold forTerminal
  rw [String.toList_ofList]

private theorem harmless_digitChar (digit : Fin 16) : Harmless (Nat.digitChar digit.val) := by
  revert digit
  decide

theorem harmless_of_mem_hexDigits {number : Nat} {digit : Char}
    (member : digit ∈ hexDigits number) : Harmless digit := by
  unfold hexDigits at member
  induction number using Nat.strongRecOn with
  | ind number ih =>
      rcases Nat.lt_or_ge number 16 with small | large
      · rw [Nat.toDigits_of_lt_base small, List.mem_singleton] at member
        rw [member]
        exact harmless_digitChar ⟨number, small⟩
      · rw [Nat.toDigits_of_base_le (by decide) large, List.mem_append, List.mem_singleton]
          at member
        rcases member with earlier | last
        · exact ih (number / 16) (Nat.div_lt_self (by omega) (by decide)) earlier
        · rw [last]
          exact harmless_digitChar ⟨number % 16, Nat.mod_lt number (by decide)⟩

theorem harmless_of_mem_terminalChar {char written : Char} (member : written ∈ terminalChar char) :
    Harmless written := by
  by_cases harmless : Harmless char
  · rw [terminalChar_of_harmless harmless, List.mem_singleton] at member
    rw [member]
    exact harmless
  · unfold terminalChar at member
    split at member
    · simp only [List.cons_append, List.mem_cons, List.mem_append, List.mem_replicate] at member
      rcases member with rfl | rfl | ⟨_, rfl⟩ | digit
      · decide
      · decide
      · decide
      · exact harmless_of_mem_hexDigits digit
    · split at member
      · unfold bracedEscape at member
        simp only [List.cons_append, List.mem_cons, List.mem_append, List.not_mem_nil, or_false]
          at member
        rcases member with rfl | rfl | rfl | digit | rfl
        · decide
        · decide
        · decide
        · exact harmless_of_mem_hexDigits digit
        · decide
      · rename_i notOld notHigh
        exact absurd ⟨Bool.not_eq_true _ ▸ notOld, Bool.not_eq_true _ ▸ notHigh⟩ harmless

theorem harmless_of_mem_forTerminal {text : String} {char : Char}
    (member : char ∈ (forTerminal text).toList) : Harmless char := by
  unfold forTerminal at member
  rw [String.toList_ofList] at member
  obtain ⟨_, _, written⟩ := List.mem_flatMap.mp member
  exact harmless_of_mem_terminalChar written

/-- Once made safe, a text stays as it is. -/
theorem forTerminal_forTerminal (text : String) :
    forTerminal (forTerminal text) = forTerminal text :=
  forTerminal_eq_self_iff.mpr fun _ => harmless_of_mem_forTerminal

end ReportMerge.Text
